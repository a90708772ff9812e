import ResidencePortal.Proofs.Session.LoginStorage
import ResidencePortal.Proofs.Session.LoginView

/-!
# A login in memory and its two copies of the role

On a store of texts where nothing fails a login always succeeds, and everything about it is read back,
whatever the store held before. The role is kept twice: trimmed under a key of its own, and inside the JSON
text of the record, where either of two fields may name it. Each copy alone is enough to find the role again.

**Results.**
* `storeLogin_of_reliable`: the texts of a store after a login.
* `rawRole?_of_lost_key`, `rawRole?_of_lost_record`: the role of a visitor by the one copy or the other.
* `Silenced.rawRole?`: whichever copy comes to say nothing, the role stays.
* `login_kept_in_memory`: what is read after a login, and after one of the copies was lost.
-/

namespace ResidencePortal.Session

open Text

variable {s : TextStore} {user : User} {token : Option String}

/-! ## Storing -/

theorem loginText?_of_not_mem {key : String} (h : key ∉ keys) : loginText? user token key = none := by
  rw [← find?_loginEntries, Entries.find?_eq_none_iff]
  exact fun hmem => h (mem_keys_of_mem_loginEntries hmem)

/-- Where nothing fails, a login replaces the texts under the session keys by its image. -/
theorem storeLogin_of_reliable (h : s.failing = .none) (user : User) (token : Option String) :
    ∃ after : TextStore, storeLogin s user token = ⟨after, none⟩ ∧ after.failing = .none ∧
      ∀ key, after.values.find? key =
        if key ∈ keys then loginText? user token key else s.values.find? key := by
  have hclear : (Store.clear s).fault = none := by
    rw [TextStore.fault_clear, h]
    rfl
  have hwritable : (Store.clear s).store.writable (loginEntries user token) =
      loginEntries user token := by
    rw [TextStore.writable_clear, ← TextStore.fault_writeEach_eq_none_iff, TextStore.fault_writeEach, h]
    simp [FailingKeys.none]
  have hstored := storeLogin_eq_writeEach user token hclear
  refine ⟨(storeLogin s user token).store, ?_, ?_, fun key => ?_⟩
  · have hfault : (storeLogin s user token).fault = none := by
      rw [hstored, TextStore.fault_writeEach_eq_none_iff, hwritable]
    rw [← hfault]
  · rw [hstored, TextStore.store_writeEach, ← h]
    exact TextStore.failing_removeEach s keys
  · rw [hstored, TextStore.find?_writeEach _ (distinct_loginEntries user token), hwritable,
      find?_loginEntries, TextStore.find?_clear s hclear]
    by_cases hkey : key ∈ keys
    · rw [if_pos hkey, if_pos hkey, Option.or_none]
    · rw [if_neg hkey, if_neg hkey, loginText?_of_not_mem hkey, Option.none_or]

/-! ## One copy of the role -/

namespace Visitor

variable {v : Visitor}

theorem unlessBlank_rawRole? (u : User) : unlessBlank u.rawRole? = u.rawRole? := by
  cases h : u.rawRole? with
  | none => rfl
  | some token => simp [User.allBlank_of_rawRole? h]

/-- The record alone tells its role. -/
theorem rawRole?_of_lost_key (hloaded : v.loaded = none) (hkey : unlessBlank (v.text? Key.role) = none)
    (hrecord : v.record? = some user) : v.rawRole? = user.rawRole? := by
  rw [Visitor.rawRole?, currentUser?_eq_record?, hkey, hloaded, hrecord]
  rfl

/-- The key alone tells the role of the record. -/
theorem rawRole?_of_lost_record (hloaded : v.loaded = none) (hkey : v.text? Key.role = user.rawRole?)
    (hrecord : v.record? = none) : v.rawRole? = user.rawRole? := by
  rw [Visitor.rawRole?, currentUser?_eq_record?, hkey, hloaded, hrecord, unlessBlank_rawRole?]
  cases user.rawRole? <;> rfl

end Visitor

/-! ## Losing a copy -/

/-- How the text under a key comes to say nothing. A text that is no record says nothing as the record. -/
inductive Silenced (s : TextStore) : String → TextStore → Prop
  | removed {key : String} {after : TextStore} (done : s.remove key = .ok after) : Silenced s key after
  | blanked {key text : String} {after : TextStore} (blank : allBlank text = true)
      (done : s.write key text = .ok after) : Silenced s key after
  | unreadable (key : String) :
    Silenced s key { s with failing := { s.failing with read := key :: s.failing.read } }
  | undecodable {text : String} {after : TextStore} (damaged : User.ofText? text = none)
      (done : s.write Key.currentUser text = .ok after) : Silenced s Key.currentUser after

namespace TextStore

variable {key text : String} {after : TextStore}

theorem text?_remove (done : s.remove key = .ok after) (other : String) :
    (Store.visitor after none).text? other =
      if other = key then none else (Store.visitor s none).text? other := by
  unfold remove at done
  split at done
  · cases done
  · cases done
    rw [text?_visitor, text?_visitor, KeyMap.find?_erase]
    by_cases hother : other = key <;> simp [hother]

theorem text?_write (done : s.write key text = .ok after) (other : String) :
    (Store.visitor after none).text? other =
      if other = key then (if key ∈ s.failing.read then none else some text)
      else (Store.visitor s none).text? other := by
  unfold write at done
  split at done
  · cases done
  · cases done
    rw [text?_visitor, text?_visitor, KeyMap.find?_insert]
    by_cases hother : other = key <;> simp [hother]

/-- Whatever is read under a key that was written is the text that was written. -/
theorem eq_of_text?_write (done : s.write key text = .ok after) {found : String}
    (h : (Store.visitor after none).text? key = some found) : found = text := by
  rw [text?_write done, if_pos rfl] at h
  split at h
  · cases h
  · exact (Option.some.inj h).symm

end TextStore

namespace Silenced

variable {key : String} {after : TextStore}

/-- The other keys read as before. -/
theorem text?_of_ne (h : Silenced s key after) {other : String} (hother : other ≠ key) :
    (Store.visitor after none).text? other = (Store.visitor s none).text? other := by
  cases h with
  | removed done => rw [TextStore.text?_remove done, if_neg hother]
  | blanked _ done => rw [TextStore.text?_write done, if_neg hother]
  | unreadable => simp [TextStore.text?_visitor, hother]
  | undecodable _ done => rw [TextStore.text?_write done, if_neg hother]

/-- What is still read under the key is blank, or is no record where one is kept. -/
theorem blank_or_damaged (h : Silenced s key after) {text : String}
    (htext : (Store.visitor after none).text? key = some text) :
    allBlank text = true ∨ key = Key.currentUser ∧ User.ofText? text = none := by
  cases h with
  | removed done => simp [TextStore.text?_remove done] at htext
  | blanked blank done => exact Or.inl (TextStore.eq_of_text?_write done htext ▸ blank)
  | unreadable => simp [TextStore.text?_visitor] at htext
  | undecodable damaged done =>
    exact Or.inr ⟨rfl, TextStore.eq_of_text?_write done htext ▸ damaged⟩

theorem unlessBlank_role (h : Silenced s Key.role after) :
    unlessBlank ((Store.visitor after none).text? Key.role) = none := by
  cases htext : (Store.visitor after none).text? Key.role with
  | none => rfl
  | some text =>
    have hblank := (h.blank_or_damaged htext).resolve_right fun hrecord => absurd hrecord.1 (by decide)
    simp [hblank]

theorem record? (h : Silenced s Key.currentUser after) : (Store.visitor after none).record? = none := by
  rw [Visitor.record?, Option.bind_eq_none_iff]
  intro text htext
  rcases h.blank_or_damaged htext with hblank | ⟨-, hdamaged⟩
  · exact User.ofText?_eq_none_of_allBlank hblank
  · exact hdamaged

/-- **Either copy is enough.** After a login one of the two copies of the role comes to say nothing: the
other one still tells the role of the record. -/
theorem rawRole? (h : Silenced s key after) (hsees : (Store.visitor s none).Sees user token)
    (hkey : key = Key.role ∨ key = Key.currentUser) :
    (Store.visitor after none).rawRole? = user.rawRole? := by
  rcases hkey with rfl | rfl
  · have hrecord : (Store.visitor after none).record? = some user := by
      rw [Visitor.record?, h.text?_of_ne (by decide), ← Visitor.record?,
        ← Visitor.currentUser?_eq_record?, hsees.currentUser?]
    exact Visitor.rawRole?_of_lost_key rfl h.unlessBlank_role hrecord
  · have hrole : (Store.visitor after none).text? Key.role = user.rawRole? := by
      rw [h.text?_of_ne (by decide), hsees.text? (by decide)]
      rfl
    exact Visitor.rawRole?_of_lost_record rfl hrole h.record?

end Silenced

/-! ## A login in memory -/

/-- **A login in memory.** On a store where nothing fails, with whatever texts, a login succeeds, and still
nothing fails. Afterwards the record is read back with every field, the login is complete, and the token is
the one of the login. The role text is that of the record; only for a record that names none the user
attached to the request counts, and never a role of before. Other keys keep their texts. Without an attached
user the role stays the same if one of its two copies, the role or the record, is removed, becomes blank or
cannot be read any more. -/
theorem login_kept_in_memory (values : KeyMap String) (loaded : Option User) (user : User)
    (token : Option String) :
    ∃ after : TextStore, storeLogin (⟨values, .none⟩ : TextStore) user token = ⟨after, none⟩ ∧
      after.failing = .none ∧
      (Store.visitor after loaded).currentUser = .ok (some user) ∧
      (Store.visitor after loaded).isLoggedIn = true ∧
      Store.read after Key.accessToken = .ok token ∧
      (Store.visitor after loaded).rawRole? =
        user.rawRole?.or (unlessBlank (loaded.bind User.role)) ∧
      (∀ key, key ∉ keys → Store.read after key = .ok (values.find? key)) ∧
      ∀ key ∈ [Key.role, Key.currentUser], ∀ damaged, Silenced after key damaged →
        (Store.visitor damaged none).role? = (Store.visitor after none).role? := by
  obtain ⟨after, hstored, hreliable, hfind⟩ :=
    storeLogin_of_reliable (s := ⟨values, .none⟩) rfl user token
  have hread : ∀ key, Store.read after key = .ok (after.values.find? key) := by
    intro key
    exact if_neg (by simp [hreliable, FailingKeys.none])
  have hsees : ∀ loaded, (Store.visitor after loaded).Sees user token := by
    intro loaded key hkey
    have himage := hread key
    rw [hfind, if_pos hkey] at himage
    exact himage
  refine ⟨after, hstored, hreliable, (hsees loaded).currentUser, (hsees loaded).isLoggedIn,
    hsees none Key.accessToken (by decide), (hsees loaded).rawRole?, fun key hkey => ?_,
    fun key hkey damaged hsilenced => ?_⟩
  · rw [hread, hfind, if_neg hkey]
  · have hraw := hsilenced.rawRole? (hsees none) (by simpa using hkey)
    rw [(hsees none).role? rfl, Visitor.role?, hraw]

/-- An accountant by the account table alone, among blanks; the role of the login answer is blank. -/
def paddedAccountant : User := ⟨none, some "an", none, some "\u3000Kế toán\n", some "\u2003", none⟩

/-- What an administrator left, and a text that belongs to nobody. -/
def administratorTexts : KeyMap String := .ofList [(Key.role, "Admin"), (Key.token, "old"), ("theme", "dark")]

/-- The login of an accountant takes the place of an administrator's, and is still that of an accountant when
the record cannot be decoded any more. -/
theorem paddedAccountant_kept_in_memory :
    ∃ after damaged : TextStore,
      storeLogin (⟨administratorTexts, .none⟩ : TextStore) paddedAccountant (some "t") = ⟨after, none⟩ ∧
      "theme" ∉ keys ∧ Store.read after "theme" = .ok (some "dark") ∧
      (Store.visitor after none).rawRole? = some "Kế toán" ∧
      after.write Key.currentUser "no record" = .ok damaged ∧ Silenced after Key.currentUser damaged ∧
      (Store.visitor damaged none).role? = some .accountant := by
  obtain ⟨after, hstored, hreliable, -, -, -, hraw, hothers, hcopies⟩ :=
    login_kept_in_memory administratorTexts none paddedAccountant (some "t")
  have hother : "theme" ∉ keys := by decide
  have htheme : administratorTexts.find? "theme" = some "dark" := by decide +kernel
  have htoken : (Store.visitor after none).rawRole? = some "Kế toán" := hraw.trans (by decide +kernel)
  obtain ⟨damaged, hdone⟩ : ∃ damaged, after.write Key.currentUser "no record" = .ok damaged :=
    ⟨_, if_neg (by simp [hreliable, FailingKeys.none])⟩
  have hsilenced : Silenced after Key.currentUser damaged := .undecodable (by decide +kernel) hdone
  refine ⟨after, damaged, hstored, hother, htheme ▸ hothers "theme" hother, htoken, hdone,
    hsilenced, ?_⟩
  rw [hcopies Key.currentUser (by simp) damaged hsilenced, Visitor.role?, htoken]
  decide +kernel

end ResidencePortal.Session
