import ResidencePortal.Proofs.Text.Trimming
import ResidencePortal.Session.Operation

/-!
# Which text decides about a visitor

The guard asks four sources for a role: the `role` key of the session, the role of the record attached
to the request, and the two role fields of the record kept in the session. `Visitor.roleTokens` lists
what the sources say, in that order; a key that cannot be read and a record that cannot be decoded say
nothing, as if they were missing.

**Results.**
* `currentUser?_eq_record?`: decoding the kept record behind a test for blanks is decoding it outright.
* `role?_eq_firstToken?`: the role of a visitor is the role of the first token that is not blank, though
  some sources are trimmed on the way and some are not.
* `guard_decided_by_first_token`: the verdict of the guard as a function of that token alone, on every
  store, which the guard leaves as it was.
-/

namespace ResidencePortal

open Text

namespace User

/-- A text of blanks is no record: every reader of records starts at a bracket. -/
theorem ofText?_eq_none_of_allBlank {text : String} (h : allBlank text = true) :
    ofText? text = none := by
  have hrecord : ∀ fields, Json.record fields (Json.skipGap text.toList) = none := by
    intro fields
    rw [allBlank, List.all_eq_true] at h
    cases hcs : Json.skipGap text.toList with
    | nil => rfl
    | cons c rest =>
      have hc : isBlank c = true := by
        refine h c (List.dropWhile_sublist Json.isGap |>.mem ?_)
        rw [← Json.skipGap, hcs]
        exact List.mem_cons_self
      unfold Json.record
      split
      · rename_i heq; cases heq; exact absurd hc (by decide)
      · rename_i heq; cases heq; exact absurd hc (by decide)
      · rfl
  simp only [ofText?, Json.whole, hrecord, Option.bind_none, Option.bind_eq_bind]

end User

namespace Session

/-! ## What can be read -/

@[simp] theorem unlessBlank_none : unlessBlank none = none := rfl

@[simp] theorem unlessBlank_some (text : String) :
    unlessBlank (some text) = if allBlank text then none else some text := by
  cases h : allBlank text <;> simp [unlessBlank, Option.filter_some, h]

/-- A failing key of a store of texts reads as if it were missing. -/
theorem TextStore.text?_visitor (s : TextStore) (loaded : Option User) (key : String) :
    (Store.visitor s loaded).text? key =
      if key ∈ s.failing.read then none else s.values.find? key := by
  simp only [Visitor.text?, Store.visitor, Store.read, TextStore.read]
  by_cases h : key ∈ s.failing.read <;> simp only [h, if_true, if_false]

/-- A value of a cookie that is no text reads as if it were missing. -/
theorem CookieStore.text?_visitor (s : CookieStore) (loaded : Option User) (key : String) :
    (Store.visitor s loaded).text? key = (s.values.find? key).bind Json.str? := by
  simp only [Visitor.text?, Store.visitor, Store.read, CookieStore.read]
  cases s.values.find? key with
  | none => rfl
  | some v => cases v <;> rfl

namespace Visitor

/-- The record kept in the session, if there is one that can be read and decoded. -/
def record? (v : Visitor) : Option User := (v.text? Key.currentUser).bind User.ofText?

/-- The texts that may name the role of a visitor, in the order in which they count. -/
def roleTokens (v : Visitor) : List String :=
  [v.text? Key.role, v.loaded.bind User.role, v.record?.bind User.role,
    v.record?.bind User.duty].filterMap id

/-- The first of these texts that is not blank. -/
def firstToken? (v : Visitor) : Option String := v.roleTokens.find? fun token => !allBlank token

/-- The test for blanks in front of the decoder changes nothing: the decoder refuses blanks anyway. -/
theorem currentUser?_eq_record? (v : Visitor) : v.currentUser? = v.record? := by
  unfold currentUser? currentUser record? text?
  cases v.read Key.currentUser with
  | error fault => rfl
  | ok text =>
    cases text with
    | none => rfl
    | some text =>
      cases hblank : allBlank text with
      | true => simp [hblank, User.ofText?_eq_none_of_allBlank hblank]
      | false => cases hu : User.ofText? text <;> simp [hblank, hu]

/-! ## The first token -/

theorem find?_filterMap_id (p : String → Bool) (a : Option String) (rest : List (Option String)) :
    ((a :: rest).filterMap id).find? p = (a.filter p).or ((rest.filterMap id).find? p) := by
  cases a with
  | none => simp
  | some token => cases h : p token <;> simp [Option.filter_some, h]

theorem firstToken?_eq_or (v : Visitor) :
    v.firstToken? = (unlessBlank (v.text? Key.role)).or ((unlessBlank (v.loaded.bind User.role)).or
      ((unlessBlank (v.record?.bind User.role)).or (unlessBlank (v.record?.bind User.duty)))) := by
  simp only [firstToken?, roleTokens, find?_filterMap_id, List.filterMap_nil, List.find?_nil,
    Option.or_none, unlessBlank]

/-- Trimming a token that is not blank does not change the role that it denotes. -/
theorem bind_nonBlank_normalize? (token : Option String) :
    (token.bind nonBlank).bind Role.normalize? = (unlessBlank token).bind Role.normalize? := by
  cases token with
  | none => rfl
  | some token =>
    rw [Option.bind_some, nonBlank_eq_ite]
    cases hblank : allBlank token with
    | true => simp [hblank]
    | false => simp [hblank, Role.normalize?_trim]

theorem bind_nonBlank_isSome (token : Option String) :
    (token.bind nonBlank).isSome = (unlessBlank token).isSome := by
  cases token with
  | none => rfl
  | some token => cases hblank : allBlank token <;> simp [nonBlank_eq_ite, hblank]

/-- The role fields of a record, trimmed by the record or tested by the session: the same role. -/
theorem rawRole?_normalize? (u : User) :
    u.rawRole?.bind Role.normalize? =
      ((unlessBlank u.role).or (unlessBlank u.duty)).bind Role.normalize? := by
  have hrole := bind_nonBlank_normalize? u.role
  have hsome := bind_nonBlank_isSome u.role
  unfold User.rawRole?
  cases h : u.role.bind nonBlank with
  | some t =>
    rw [h] at hrole hsome
    obtain ⟨token, htoken⟩ := Option.isSome_iff_exists.1 hsome.symm
    rw [htoken] at hrole ⊢
    exact hrole
  | none =>
    rw [h] at hsome
    have hnone : unlessBlank u.role = none := by simpa using hsome.symm
    rw [hnone, Option.none_or]
    exact bind_nonBlank_normalize? u.duty

/-- **The role of a visitor** is the role of the first token that is not blank. -/
theorem role?_eq_firstToken? (v : Visitor) : v.role? = v.firstToken?.bind Role.normalize? := by
  rw [role?, rawRole?, currentUser?_eq_record?, firstToken?_eq_or]
  cases unlessBlank (v.text? Key.role) with
  | some token => rfl
  | none =>
    cases unlessBlank (v.loaded.bind User.role) with
    | some token => rfl
    | none =>
      cases v.record? with
      | none => rfl
      | some u => exact rawRole?_normalize? u

theorem allBlank_of_firstToken? {v : Visitor} {token : String} (h : v.firstToken? = some token) :
    allBlank token = false := by
  simpa using List.find?_some h

end Visitor

end Session

namespace Guard

open Session

/-- The allow list and the rule for administrators, as a proposition. -/
theorem judge_some (role : Role) (allow : AllowList) (places : Destinations) :
    judge (some role) allow places =
      if role = .admin ∨ role ∈ allow then .allowed ⟨role, Policy.hiddenRegions role⟩
      else .denied ⟨.insufficientPrivilege, places.home, some (.warning noPermission)⟩ := by
  simp only [judge, AllowList.admits, Access.ofRole, Bool.or_eq_true, decide_eq_true_eq]

/-- **The guard decides by the first token.** On every store and for every request the guard leaves the
store as it was. Without a token that is not blank the visitor is sent to the login page without a
notice. With one, the token denotes a role, and the visitor gets the access of that role if it is the
administrator's or stands in the allow list, and is sent home with the notice in every other case.
What the tokens of the two kinds of stores are is said first: a failing key and a value that is no text
count as missing. -/
theorem guard_decided_by_first_token :
    (∀ (s : TextStore) (loaded : Option User) (key : String),
      (Store.visitor s loaded).text? key =
        if key ∈ s.failing.read then none else s.values.find? key) ∧
    (∀ (s : CookieStore) (loaded : Option User) (key : String),
      (Store.visitor s loaded).text? key = (s.values.find? key).bind Json.str?) ∧
    ∀ (σ : Type) [Store σ] (s : σ) (loaded : Option User) (allow : AllowList)
      (places : Destinations),
      ∃ verdict, perform loaded s (.guard allow places) = (s, .verdict verdict) ∧
        match (Store.visitor s loaded).firstToken? with
        | none => verdict = .denied ⟨.noSession, places.login, none⟩
        | some token => ∃ role, Role.normalize? token = some role ∧
          verdict = if role = .admin ∨ role ∈ allow then .allowed ⟨role, Policy.hiddenRegions role⟩
            else .denied ⟨.insufficientPrivilege, places.home, some (.warning noPermission)⟩ := by
  refine ⟨TextStore.text?_visitor, CookieStore.text?_visitor, ?_⟩
  intro σ _ s loaded allow places
  refine ⟨decide (Store.visitor s loaded) allow places, rfl, ?_⟩
  rw [decide, Visitor.role?_eq_firstToken?]
  cases h : (Store.visitor s loaded).firstToken? with
  | none => rfl
  | some token =>
    refine ⟨Role.classify (trim token), ?_, ?_⟩
    · rw [Role.normalize?_eq_ite, Visitor.allBlank_of_firstToken? h]
      rfl
    · rw [Option.bind_some, Role.normalize?_eq_ite, Visitor.allBlank_of_firstToken? h]
      exact judge_some _ allow places

end Guard

end ResidencePortal
