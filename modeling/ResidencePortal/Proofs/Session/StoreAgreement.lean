import Mathlib.Data.List.Forall2
import ResidencePortal.Proofs.Json.RoundTrip
import ResidencePortal.Proofs.Session.LoginStorage
import ResidencePortal.Session.Operation

/-!
# The two stores are interchangeable

A store of texts and a store in a cookie differ in what they keep and in how they clear: the one keeps
texts and removes the session keys one by one, the other keeps JSON values, which travel as JSON texts,
and empties itself. As long as only session keys are used, nobody can tell them apart.

`Agree` relates a store of texts to a store in a cookie. It says that both hold the same texts, and that
there are none under other keys: without this, clearing would tell the two apart.

**Results.**
* `Agree.visitor_eq`: a visitor reads the same from both stores, so everything that only reads agrees.
* `Agree.write`, `Agree.remove`, `Agree.clear`, `Agree.storeLogin`: each change leads to stores that agree
  again, and reports the same.
* `Agree.perform`: one operation has the same answer on both; `Agree.trace`: so has every operation of a
  run.
* `stores_interchangeable`: runs that start with empty stores.
-/

namespace ResidencePortal.Session

/-- What each operation of a run leaves: the store after it, and its answer. -/
def trace {σ : Type} [Store σ] (loaded : Option User) : σ → List Operation → List (σ × Answer)
  | _, [] => []
  | s, op :: rest => perform loaded s op :: trace loaded (perform loaded s op).1 rest

/-- The key that an operation is given. -/
def Operation.key? : Operation → Option String
  | .read key => some key
  | .write key _ => some key
  | .remove key => some key
  | _ => none

/-- The store of texts without texts, on which nothing fails. -/
def TextStore.empty : TextStore := ⟨.empty, .none⟩

/-- The JSON text that travels in the cookie for a key. -/
def CookieStore.carried? (s : CookieStore) (key : String) : Option String :=
  (s.values.find? key).map Json.compact

/-- The text that a JSON text stands for. -/
def decodeText? (carried : String) : Option String := (Json.parse? carried).bind Json.str?

/-- A store of texts and a store in a cookie agree: nothing fails, both hold the same texts, and there is
nothing under keys that are no session keys. -/
structure Agree (t : TextStore) (c : CookieStore) : Prop where
  reliable : t.failing = .none
  same : ∀ key, c.values.find? key = (t.values.find? key).map .str
  confined : ∀ key, key ∉ keys → t.values.find? key = none

theorem agree_empty : Agree .empty .empty := ⟨rfl, fun _ => rfl, fun _ _ => rfl⟩

/-- Every text comes back from the JSON text that travels for it. -/
theorem decodeText?_compact (text : String) : decodeText? (Json.compact (.str text)) = some text := by
  have hdepth : Json.depth (.str text) ≤ Json.maxDepth := Nat.zero_le _
  rw [decodeText?, Json.parse?_compact (.str text) hdepth]
  rfl

namespace Agree

variable {t : TextStore} {c : CookieStore} {key : String}

/-- What travels in the cookie decodes to the texts of the other store. -/
theorem decode_carried (h : Agree t c) (key : String) :
    (c.carried? key).bind decodeText? = t.values.find? key := by
  rw [CookieStore.carried?, h.same key]
  cases t.values.find? key with
  | none => rfl
  | some text => rw [Option.map_some, Option.map_some, Option.bind_some, decodeText?_compact]

/-! ## Reading -/

theorem read_eq (h : Agree t c) (key : String) : c.read key = t.read key := by
  have hreadable : key ∉ t.failing.read := by simp [h.reliable, FailingKeys.none]
  rw [CookieStore.read, TextStore.read, if_neg hreadable, h.same key]
  cases t.values.find? key with
  | none => rfl
  | some text => rfl

/-- A visitor reads the same from both stores. -/
theorem visitor_eq (h : Agree t c) (loaded : Option User) :
    Store.visitor c loaded = Store.visitor t loaded := by
  have hread : (Store.read c : String → Except Fault (Option String)) = Store.read t := by
    funext key
    exact h.read_eq key
  rw [Store.visitor, Store.visitor, hread]

/-! ## Single changes -/

theorem write (h : Agree t c) (hkey : key ∈ keys) (value : String) :
    ∃ t', t.write key value = .ok t' ∧ Agree t' (c.write key value) := by
  have hwritable : key ∉ t.failing.write := by simp [h.reliable, FailingKeys.none]
  refine ⟨_, if_neg hwritable, h.reliable, ?_, ?_⟩
  · intro other
    rw [CookieStore.write, CookieStore.put, KeyMap.find?_insert, KeyMap.find?_insert, h.same other]
    split <;> rfl
  · intro other hother
    have hne : other ≠ key := fun heq => hother (heq ▸ hkey)
    rw [KeyMap.find?_insert, if_neg hne]
    exact h.confined other hother

theorem remove (h : Agree t c) (key : String) :
    ∃ t', t.remove key = .ok t' ∧ Agree t' (c.remove key) := by
  have hremovable : key ∉ t.failing.remove := by simp [h.reliable, FailingKeys.none]
  refine ⟨_, if_neg hremovable, h.reliable, ?_, ?_⟩
  · intro other
    rw [CookieStore.remove, KeyMap.find?_erase, KeyMap.find?_erase, h.same other]
    split <;> rfl
  · intro other hother
    rw [KeyMap.find?_erase, h.confined other hother, ite_self]

end Agree

/-! ## Many changes -/

/-- Two outcomes agree: the stores do, and the same is reported. -/
structure OutcomesAgree (a : Outcome TextStore) (b : Outcome CookieStore) : Prop where
  stores : Agree a.store b.store
  faults : a.fault = b.fault

theorem OutcomesAgree.answer {a : Outcome TextStore} {b : Outcome CookieStore}
    (h : OutcomesAgree a b) : a.answer.2 = b.answer.2 ∧ Agree a.answer.1 b.answer.1 := by
  refine ⟨?_, h.stores⟩
  rw [Outcome.answer, Outcome.answer, h.faults]

namespace Agree

variable {t : TextStore} {c : CookieStore}

/-- Clearing one by one and emptying come to the same, as there is nothing but session keys. -/
theorem clear (h : Agree t c) : OutcomesAgree (Store.clear t) (Store.clear c) := by
  have hfault : (Store.clear t).fault = none := by
    rw [TextStore.fault_clear, h.reliable]
    rfl
  have hempty : ∀ key, (Store.clear t).store.values.find? key = none := by
    intro key
    rw [TextStore.find?_clear t hfault key]
    split
    · rfl
    · rename_i hkey
      exact h.confined key hkey
  refine ⟨⟨?_, ?_, fun key _ => hempty key⟩, hfault⟩
  · rw [TextStore.clear_eq_removeEach, TextStore.failing_removeEach, h.reliable]
  · intro key
    rw [hempty key]
    rfl

theorem writeEach {entries : List (String × String)} (h : Agree t c)
    (hkeys : ∀ key ∈ entries.map Prod.fst, key ∈ keys) :
    OutcomesAgree (writeEach Store.write entries t) (writeEach Store.write entries c) := by
  induction entries generalizing t c with
  | nil => exact ⟨h, rfl⟩
  | cons e rest ih =>
    obtain ⟨key, value⟩ := e
    obtain ⟨t', hwrite, hagree⟩ := h.write (hkeys key List.mem_cons_self) value
    have hrest := ih hagree fun k hk => hkeys k (List.mem_cons_of_mem key hk)
    have hstep : Session.writeEach Store.write ((key, value) :: rest) t =
        Session.writeEach Store.write rest t' := by
      simp only [Session.writeEach, Store.write, hwrite]
    rw [hstep]
    exact hrest

theorem storeLogin (h : Agree t c) (user : User) (token : Option String) :
    OutcomesAgree (storeLogin t user token) (storeLogin c user token) := by
  have hcleared := h.clear
  have hfault : (Store.clear t).fault = none := hcleared.faults
  rw [storeLogin_eq_writeEach user token hfault]
  exact hcleared.stores.writeEach fun key hkey => mem_keys_of_mem_loginEntries hkey

/-! ## Operations -/

/-- **One operation** on session keys has the same answer on both stores, which agree again. -/
theorem perform (h : Agree t c) (loaded : Option User) (op : Operation)
    (hkey : ∀ key ∈ op.key?, key ∈ keys) :
    (perform loaded t op).2 = (perform loaded c op).2 ∧
      Agree (perform loaded t op).1 (perform loaded c op).1 := by
  have hvisitor := h.visitor_eq loaded
  cases op with
  | read key =>
    have hread : (Store.read t key : Except Fault (Option String)) = Store.read c key :=
      (h.read_eq key).symm
    exact ⟨congrArg (Answer.ofRead .text) hread, h⟩
  | write key value =>
    obtain ⟨t', hwrite, hagree⟩ := h.write (hkey key rfl) value
    have hdone : Session.perform loaded t (.write key value) = (t', .done) := by
      simp only [Session.perform, Store.write, hwrite]
      rfl
    rw [hdone]
    exact ⟨rfl, hagree⟩
  | remove key =>
    obtain ⟨t', hremove, hagree⟩ := h.remove key
    have hdone : Session.perform loaded t (.remove key) = (t', .done) := by
      simp only [Session.perform, Store.remove, hremove]
      rfl
    rw [hdone]
    exact ⟨rfl, hagree⟩
  | clear => exact h.clear.answer
  | storeLogin user token => exact (h.storeLogin user token).answer
  | loadedUser => exact ⟨rfl, h⟩
  | currentUser => exact ⟨by simp only [Session.perform, hvisitor], h⟩
  | isLoggedIn => exact ⟨by simp only [Session.perform, hvisitor], h⟩
  | resolve => exact ⟨by simp only [Session.perform, hvisitor], h⟩
  | guard allow places => exact ⟨by simp only [Session.perform, hvisitor], h⟩

/-- **A run** of operations on session keys: the same answers, and stores that agree all the way. -/
theorem trace (h : Agree t c) (loaded : Option User) {ops : List Operation}
    (hkeys : ∀ op ∈ ops, ∀ key ∈ op.key?, key ∈ keys) :
    List.Forall₂ (fun a b => a.2 = b.2 ∧ Agree a.1 b.1) (trace loaded t ops) (trace loaded c ops) := by
  induction ops generalizing t c with
  | nil => exact .nil
  | cons op rest ih =>
    have hstep := h.perform loaded op (hkeys op List.mem_cons_self)
    exact .cons hstep (ih hstep.2 fun o ho => hkeys o (List.mem_cons_of_mem op ho))

end Agree

/-- **Interchangeable.** Any operations on session keys, performed on an empty store of texts and on an
empty store in a cookie for the same attached user, have the same answers one by one. After each of them
the cookie holds under every key the text that the other store holds there, and nothing else; and what
travels in the cookie decodes to that text. -/
theorem stores_interchangeable (loaded : Option User) (ops : List Operation)
    (hkeys : ∀ op ∈ ops, ∀ key ∈ op.key?, key ∈ keys) :
    List.Forall₂ (fun inMemory inCookie => inMemory.2 = inCookie.2 ∧ ∀ key,
        inCookie.1.values.find? key = (inMemory.1.values.find? key).map .str ∧
        (inCookie.1.carried? key).bind decodeText? = inMemory.1.values.find? key)
      (trace loaded TextStore.empty ops) (trace loaded CookieStore.empty ops) := by
  refine (agree_empty.trace loaded hkeys).imp ?_
  rintro inMemory inCookie ⟨hanswer, hagree⟩
  exact ⟨hanswer, fun key => ⟨hagree.same key, hagree.decode_carried key⟩⟩

/-- An accountant with a name that needs escapes. -/
def escapedAccountant : User := ⟨some 7, some "an\"\\\n", none, some " Kế toán ", none, none⟩

/-- A role is written and replaced by a login, the login loses its record, and all is cleared. -/
def mixedRun : List Operation :=
  [.write Key.role "\x01\"quản lý\"", .resolve, .storeLogin escapedAccountant (some "t\t"),
    .currentUser, .remove Key.currentUser, .isLoggedIn, .guard (.ofList [.accountant]) .standard,
    .clear, .read Key.accessToken]

theorem stores_interchangeable_mixedRun :
    (∀ op ∈ mixedRun, ∀ key ∈ op.key?, key ∈ keys) ∧
    List.Forall₂ (fun inMemory inCookie => inMemory.2 = inCookie.2 ∧ ∀ key,
        inCookie.1.values.find? key = (inMemory.1.values.find? key).map .str ∧
        (inCookie.1.carried? key).bind decodeText? = inMemory.1.values.find? key)
      (trace none TextStore.empty mixedRun) (trace none CookieStore.empty mixedRun) :=
  ⟨by decide, stores_interchangeable none mixedRun (by decide)⟩

end ResidencePortal.Session
