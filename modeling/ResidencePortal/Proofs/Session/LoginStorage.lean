import ResidencePortal.Proofs.Session.LoginImage
import ResidencePortal.Session.TextStore

/-!
# Storing a login when the store fails

`storeLogin` first removes every session key and then writes the entries of the login. On a store of
texts any set of keys may refuse to be removed and any set may refuse to be written. The removals go on
after a failure and the first one is reported; the writes start only if nothing failed and stop at the
first failure.

**Results.**
* `TextStore.find?_removeEach`, `TextStore.fault_removeEach`: what removing many keys leaves and reports.
* `TextStore.find?_writeEach`, `TextStore.fault_writeEach`: what writing many entries leaves and reports:
  the longest prefix that meets no failing key, and the key behind it.
* `storeLogin_under_failures`: the outcome of a login for every set of failing keys; at no point of the
  run does the store hold a session key of an earlier login beside one of the new login.
-/

namespace ResidencePortal.Session

namespace TextStore

variable (s : TextStore)

/-! ## Removing many keys -/

theorem failing_removeEach (ks : List String) :
    (removeEach remove ks s).store.failing = s.failing := by
  induction ks generalizing s with
  | nil => rfl
  | cons k rest ih =>
    simp only [removeEach, remove]
    by_cases hk : k ∈ s.failing.remove
    · simp only [hk, if_true]; exact ih s
    · simp only [hk, if_false]; rw [ih]

/-- Every key that can be removed is gone, and nothing else changes. -/
theorem find?_removeEach (ks : List String) (key : String) :
    (removeEach remove ks s).store.values.find? key =
      if key ∈ ks ∧ key ∉ s.failing.remove then none else s.values.find? key := by
  induction ks generalizing s with
  | nil => simp [removeEach]
  | cons k rest ih =>
    simp only [removeEach, remove]
    by_cases hk : k ∈ s.failing.remove
    · simp only [hk, if_true]
      rw [ih]
      by_cases hkey : key = k
      · subst hkey; simp [hk]
      · simp [hkey]
    · simp only [hk, if_false]
      rw [ih]
      by_cases hkey : key = k
      · subst hkey; simp [hk]
      · simp [hkey]

/-- The first key that cannot be removed is reported. -/
theorem fault_removeEach (ks : List String) :
    (removeEach remove ks s).fault =
      (ks.find? fun key => key ∈ s.failing.remove).map unavailable := by
  induction ks generalizing s with
  | nil => rfl
  | cons k rest ih =>
    simp only [removeEach, remove]
    by_cases hk : k ∈ s.failing.remove
    · simp [hk]
    · simp only [hk, if_false]
      rw [ih]
      simp [hk]

/-! ## Writing many entries -/

/-- The entries that are written: those before the first that fails. -/
def writable (entries : List (String × String)) : List (String × String) :=
  entries.takeWhile fun e => e.1 ∉ s.failing.write

theorem store_writeEach (entries : List (String × String)) :
    (writeEach write entries s).store =
      { s with values := (s.writable entries).foldl (fun m e => m.insert e.1 e.2) s.values } := by
  induction entries generalizing s with
  | nil => rfl
  | cons e rest ih =>
    obtain ⟨k, v⟩ := e
    simp only [writeEach, write, writable]
    by_cases hk : k ∈ s.failing.write
    · simp [hk]
    · simp only [hk, if_false]
      rw [ih]
      simp [writable, hk]

/-- The entries up to the first failure are there, and nothing else changes. -/
theorem find?_writeEach {entries : List (String × String)} (h : Entries.Distinct entries)
    (key : String) :
    (writeEach write entries s).store.values.find? key =
      (Entries.find? key (s.writable entries)).or (s.values.find? key) := by
  rw [store_writeEach]
  exact KeyMap.find?_foldl_insert key (h.sublist (List.takeWhile_sublist _)) s.values

/-- The first key that cannot be written is reported. -/
theorem fault_writeEach (entries : List (String × String)) :
    (writeEach write entries s).fault =
      (entries.find? fun e => e.1 ∈ s.failing.write).map fun e => unavailable e.1 := by
  induction entries generalizing s with
  | nil => rfl
  | cons e rest ih =>
    obtain ⟨k, v⟩ := e
    simp only [writeEach, write]
    by_cases hk : k ∈ s.failing.write
    · simp [hk]
    · simp only [hk, if_false]
      rw [ih]
      simp [hk]

theorem fault_writeEach_eq_none_iff (entries : List (String × String)) :
    (writeEach write entries s).fault = none ↔ s.writable entries = entries := by
  rw [fault_writeEach, Option.map_eq_none_iff]
  induction entries with
  | nil => simp [writable]
  | cons e rest ih =>
    by_cases hk : e.1 ∈ s.failing.write
    · simp [writable, hk]
    · have hcons : s.writable (e :: rest) = e :: s.writable rest := by simp [writable, hk]
      rw [hcons, List.find?_cons_of_neg (by simpa using hk), ih, List.cons_inj_right]

/-! ## Clearing -/

theorem clear_eq_removeEach : Store.clear s = removeEach remove keys s := rfl

theorem fault_clear :
    (Store.clear s).fault = (keys.find? fun key => key ∈ s.failing.remove).map unavailable :=
  fault_removeEach s keys

theorem fault_clear_eq_none_iff :
    (Store.clear s).fault = none ↔ ∀ key ∈ keys, key ∉ s.failing.remove := by
  rw [fault_clear, Option.map_eq_none_iff, List.find?_eq_none]
  simp only [decide_eq_true_eq]

/-- If no removal fails, no session key is left and nothing else changes. -/
theorem find?_clear (h : (Store.clear s).fault = none) (key : String) :
    (Store.clear s).store.values.find? key = if key ∈ keys then none else s.values.find? key := by
  rw [clear_eq_removeEach, find?_removeEach]
  by_cases hkey : key ∈ keys
  · simp [hkey, s.fault_clear_eq_none_iff.1 h key hkey]
  · simp [hkey]

theorem writable_clear (entries : List (String × String)) :
    (Store.clear s).store.writable entries = s.writable entries := by
  rw [writable, clear_eq_removeEach, failing_removeEach, ← writable]

end TextStore

/-! ## Storing a login -/

/-- The stores that are passed when some keys are removed and then some entries written: after some of the
removals and, if none of them fails, after some of the writes. -/
inductive Passed (s : TextStore) (names : List String) (writes : List (String × String)) : TextStore → Prop
  | clearing (n : Nat) : Passed s names writes (removeEach TextStore.remove (names.take n) s).store
  | writing (n : Nat) (cleared : ∀ key ∈ names, key ∉ s.failing.remove) :
    Passed s names writes
      (writeEach TextStore.write (writes.take n) (removeEach TextStore.remove names s).store).store

/-- What is held under some names comes from one login: it is left over from `before`, or it is what the new
login writes. Other keys are as they were. -/
structure Unmixed (names : List String) (writes : List (String × String)) (before after : KeyMap String) :
    Prop where
  others : ∀ key, key ∉ names → after.find? key = before.find? key
  oneLogin :
    (∀ key ∈ names, after.find? key = none ∨ after.find? key = before.find? key) ∨
    (∀ key ∈ names, after.find? key = none ∨ after.find? key = Entries.find? key writes)

theorem storeLogin_eq_clear {s : TextStore} (user : User) (token : Option String)
    (h : (Store.clear s).fault ≠ none) : storeLogin s user token = Store.clear s := by
  obtain ⟨fault, hfault⟩ := Option.ne_none_iff_exists'.1 h
  simp only [storeLogin, hfault]

theorem storeLogin_eq_writeEach {s : TextStore} (user : User) (token : Option String)
    (h : (Store.clear s).fault = none) :
    storeLogin s user token =
      writeEach TextStore.write (loginEntries user token) (Store.clear s).store := by
  simp only [storeLogin, h]
  rfl

theorem passed_storeLogin (s : TextStore) (user : User) (token : Option String) :
    Passed s keys (loginEntries user token) (storeLogin s user token).store := by
  by_cases h : (Store.clear s).fault = none
  · have hall : Passed s keys (loginEntries user token) _ :=
      .writing (loginEntries user token).length (s.fault_clear_eq_none_iff.1 h)
    rw [List.take_length] at hall
    rw [storeLogin_eq_writeEach user token h]
    exact hall
  · rw [storeLogin_eq_clear user token h]
    exact Passed.clearing keys.length

theorem unmixed_clearing (s : TextStore) (names : List String) (writes : List (String × String)) (n : Nat) :
    Unmixed names writes s.values (removeEach TextStore.remove (names.take n) s).store.values := by
  constructor
  · intro key hkey
    have htake : key ∉ names.take n := fun hmem => hkey (List.mem_of_mem_take hmem)
    rw [TextStore.find?_removeEach]
    simp [htake]
  · left
    intro key _
    rw [TextStore.find?_removeEach]
    split
    · exact Or.inl rfl
    · exact Or.inr rfl

theorem unmixed_writing (s : TextStore) {names : List String} {writes : List (String × String)}
    (hdistinct : Entries.Distinct writes) (hnames : ∀ key ∈ writes.map Prod.fst, key ∈ names) (n : Nat)
    (hcleared : ∀ key ∈ names, key ∉ s.failing.remove) :
    Unmixed names writes s.values
      (writeEach TextStore.write (writes.take n) (removeEach TextStore.remove names s).store).store.values := by
  have hsub : (TextStore.writable (removeEach TextStore.remove names s).store (writes.take n)).Sublist writes :=
    (List.takeWhile_sublist _).trans (List.take_sublist n _)
  constructor
  · intro key hkey
    rw [TextStore.find?_writeEach _ (hdistinct.sublist (List.take_sublist n _)), TextStore.find?_removeEach,
      if_neg fun h => hkey h.1, Entries.find?_eq_none_iff.2, Option.none_or]
    intro hmem
    exact hkey (hnames key ((hsub.map Prod.fst).mem hmem))
  · right
    intro key hkey
    rw [TextStore.find?_writeEach _ (hdistinct.sublist (List.take_sublist n _)), TextStore.find?_removeEach,
      if_pos ⟨hkey, hcleared key hkey⟩, Option.or_none]
    exact Entries.find?_sublist hdistinct hsub key

/-- **A login under failures.** The session keys are removed in a fixed order; then a login writes the JSON text
of the record, the mark, the role if the record has one, and the token if there is one.

If some session key cannot be removed, the first such key is reported, the session keys that can be removed
are gone, and nothing is written. Otherwise the login is written on top of the cleared store up to the first
key that cannot be written, which is reported; there is no report exactly if all is written. At no point does
the store hold a session key of an earlier login beside one of the new login, and other keys are never
touched. -/
theorem storeLogin_under_failures (s : TextStore) (user : User) (token : Option String) :
    ∃ text, user.EncodedAs text ∧
      let names := ["currentUser", "isLoggedIn", "userInfo", "accessToken", "token", "role"]
      let writes := [("currentUser", text), ("isLoggedIn", "true")] ++
        (user.roleText?.map fun role => ("role", role)).toList ++
        (token.map fun token => ("accessToken", token)).toList
      let written := writes.takeWhile fun e => e.1 ∉ s.failing.write
      let after := storeLogin s user token
      (match names.find? fun key => key ∈ s.failing.remove with
        | some stuck =>
          after.fault = some (.sessionStore ("unavailable " ++ stuck)) ∧
          ∀ key, after.store.values.find? key =
            if key ∈ names ∧ key ∉ s.failing.remove then none else s.values.find? key
        | none =>
          after.fault = (writes.find? fun e => e.1 ∈ s.failing.write).map
            (fun e => .sessionStore ("unavailable " ++ e.1)) ∧
          (after.fault = none ↔ written = writes) ∧
          ∀ key, after.store.values.find? key =
            (Entries.find? key written).or (if key ∈ names then none else s.values.find? key)) ∧
      Passed s names writes after.store ∧
      ∀ passed, Passed s names writes passed → Unmixed names writes s.values passed.values := by
  refine ⟨user.encode, user.encodedAs_encode, ?_⟩
  rw [← loginEntries_eq]
  refine ⟨?_, passed_storeLogin s user token, ?_⟩
  · have hclear := TextStore.fault_clear s
    change match keys.find? fun key => key ∈ s.failing.remove with
      | some stuck => _
      | none => _
    cases hstuck : keys.find? fun key => key ∈ s.failing.remove with
    | some stuck =>
      rw [hstuck, Option.map_some] at hclear
      rw [storeLogin_eq_clear user token (by rw [hclear]; exact Option.some_ne_none _)]
      exact ⟨hclear, TextStore.find?_removeEach s keys⟩
    | none =>
      rw [hstuck, Option.map_none] at hclear
      rw [storeLogin_eq_writeEach user token hclear]
      refine ⟨?_, ?_, ?_⟩
      · rw [TextStore.fault_writeEach, TextStore.clear_eq_removeEach, TextStore.failing_removeEach]
        rfl
      · rw [TextStore.fault_writeEach_eq_none_iff, TextStore.writable_clear]
        rfl
      · intro key
        rw [TextStore.find?_writeEach _ (distinct_loginEntries user token),
          TextStore.writable_clear, TextStore.find?_clear s hclear]
        rfl
  · intro passed hpassed
    cases hpassed with
    | clearing n => exact unmixed_clearing s _ _ n
    | writing n cleared =>
      exact unmixed_writing s (distinct_loginEntries user token) (fun _ => mem_keys_of_mem_loginEntries) n cleared

/-- A store with remains of an earlier login and an entry of another kind, and keys that fail. -/
def staleStore (failing : FailingKeys) : TextStore :=
  ⟨.ofList [("role", "KeToan"), ("token", "old"), ("theme", "dark")], failing⟩

/-- A manager whose role is padded. -/
def paddedManager : User := ⟨some 7, none, some "An", some " BanQuanLy ", none, none⟩

/-- The third write fails: the record and the mark are there, the token is not, and of the earlier login nothing
is left. When the earlier token cannot be removed, the earlier role goes and nothing is written. -/
theorem login_over_staleStore :
    (∃ left, storeLogin (staleStore ⟨[], ["role"], []⟩) paddedManager (some "new") =
        ⟨left, some (.sessionStore "unavailable role")⟩ ∧
      ∀ key, left.values.find? key = Entries.find? key
        [("currentUser", "\x7b\"id\":7,\"hoTen\":\"An\",\"vaiTro\":\" BanQuanLy \"\x7d"), ("isLoggedIn", "true"),
          ("theme", "dark")]) ∧
    ∃ left, storeLogin (staleStore ⟨[], [], ["token"]⟩) paddedManager (some "new") =
        ⟨left, some (.sessionStore "unavailable token")⟩ ∧
      ∀ key, left.values.find? key = Entries.find? key [("theme", "dark"), ("token", "old")] := by
  have hstale : ∀ failing key, (staleStore failing).values.find? key =
      Entries.find? key [("role", "KeToan"), ("token", "old"), ("theme", "dark")] :=
    fun failing key => KeyMap.find?_ofList key (by decide)
  constructor
  · obtain ⟨text, htext, ⟨hfault, -, hvalues⟩, -⟩ :=
      storeLogin_under_failures (staleStore ⟨[], ["role"], []⟩) paddedManager (some "new")
    have hencoded : text = "\x7b\"id\":7,\"hoTen\":\"An\",\"vaiTro\":\" BanQuanLy \"\x7d" := by
      rw [htext.written]
      decide +kernel
    subst hencoded
    refine ⟨_, congrArg (Outcome.mk _) hfault, fun key => (hvalues key).trans ?_⟩
    have hrole : paddedManager.roleText? = some "BanQuanLy" := by decide
    by_cases hkey : key ∈ ["currentUser", "isLoggedIn", "userInfo", "accessToken", "token", "role"]
    · rw [if_pos hkey, Option.or_none]
      revert key
      decide
    · rw [if_neg hkey, hstale]
      simp_all [staleStore, Entries.find?, @eq_comm _ _ key]
  · obtain ⟨-, -, ⟨hfault, hvalues⟩, -⟩ :=
      storeLogin_under_failures (staleStore ⟨[], [], ["token"]⟩) paddedManager (some "new")
    refine ⟨_, congrArg (Outcome.mk _) hfault, fun key => (hvalues key).trans ?_⟩
    rw [hstale]
    by_cases hkey : key ∈ ["currentUser", "isLoggedIn", "userInfo", "accessToken", "token", "role"]
    · revert key
      decide
    · simp_all [staleStore, Entries.find?, @eq_comm _ _ key]

end ResidencePortal.Session
