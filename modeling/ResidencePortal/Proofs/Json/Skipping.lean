import ResidencePortal.Proofs.Json.ReaderParts

/-!
# Values that are passed

A value that can be read can be passed without building it, and the two readers stop at the same character. What a
passing reader does not look at (the pairing of surrogates, the size of numbers, the keys of an object) only makes
it accept more. A reader that takes no containers reads exactly the values of depth zero.

**Results.**
* `skipString_of_stringBody`, `skipScalar_of_scalar`: texts and other values that are no containers.
* `skip_of_value`: every value that can be read can be passed.
* `value_zero`: what a reader without containers makes of a value that can be read.
-/

namespace ResidencePortal.Json

open ResidencePortal.Text

/-! ## Texts -/

theorem skipString_numbered {cs left : List Char} {n : Nat} (h : hex4 cs = some (n, left)) (fuel : Nat) :
    skipString (fuel + 1) ('\\' :: 'u' :: cs) = skipString fuel left := by
  rw [skipString, if_neg (by decide), if_pos rfl]
  dsimp only
  rw [h]
  rfl

theorem skipString_short {c x : Char} (hc : c ≠ 'u') (h : shortEscape? c = some x) (fuel : Nat)
    (cs : List Char) : skipString (fuel + 1) ('\\' :: c :: cs) = skipString fuel cs := by
  rw [skipString, if_neg (by decide), if_pos rfl, h]
  · rfl
  · exact hc

/-- An escape is passed in one round or, a surrogate pair, in two; the fuel that is left is still enough. -/
theorem skipString_of_escape {cs left : List Char} {x : Char} (h : escape cs = some (x, left)) {fuel : Nat}
    (hfuel : cs.length < fuel) :
    ∃ less, left.length ≤ less ∧ skipString fuel ('\\' :: cs) = skipString less left := by
  obtain ⟨fuel, rfl⟩ := Nat.exists_eq_succ_of_ne_zero (Nat.ne_zero_of_lt hfuel)
  unfold escape at h
  split at h
  next cs =>
    rw [List.length_cons] at hfuel
    obtain ⟨n, hn⟩ | ⟨n, m, more, hn, hm⟩ := numberedEscape_cases h
    · have hleft := shortens_hex4 hn
      exact ⟨fuel, by omega, skipString_numbered hn fuel⟩
    · have hmore := shortens_hex4 hn
      have hleft := shortens_hex4 hm
      simp only [List.length_cons] at hmore
      obtain ⟨fuel, rfl⟩ := Nat.exists_eq_succ_of_ne_zero (show fuel ≠ 0 by omega)
      exact ⟨fuel, by omega, (skipString_numbered hn _).trans (skipString_numbered hm fuel)⟩
  next c cs hc =>
    obtain ⟨y, hy, heq⟩ := Option.map_eq_some_iff.1 h
    cases heq
    rw [List.length_cons] at hfuel
    exact ⟨fuel, by omega, skipString_short hc hy fuel left⟩
  next => cases h

/-- **Texts.** A text that can be read can be passed. -/
theorem skipString_of_stringBody {fuel : Nat} {cs xs rest : List Char}
    (h : stringBody fuel cs = some (xs, rest)) {enough : Nat} (henough : cs.length ≤ enough) :
    skipString enough cs = some ((), rest) := by
  -- by rounds of the reader; a round of the reader may be two of the passing reader
  induction fuel generalizing cs xs enough with
  | zero => cases h
  | succ fuel ih =>
    cases cs with
    | nil => cases h
    | cons c cs =>
      obtain ⟨enough, rfl⟩ := Nat.exists_eq_succ_of_ne_zero (Nat.ne_zero_of_lt henough)
      rw [List.length_cons] at henough
      rw [stringBody] at h
      split at h
      next hquote =>
        cases h
        unfold skipString
        rw [if_pos hquote]
      next hquote =>
        split at h
        next hescape =>
          obtain ⟨⟨x, left⟩, hx, h⟩ := Option.bind_eq_some_iff.1 h
          obtain ⟨⟨ys, tail⟩, hys, h⟩ := Option.bind_eq_some_iff.1 h
          cases h
          obtain ⟨less, hless, hpass⟩ := skipString_of_escape hx (show cs.length < enough + 1 by omega)
          rw [hescape, hpass]
          exact ih hys hless
        next hescape =>
          split at h
          · cases h
          next hcontrol =>
            obtain ⟨⟨ys, tail⟩, hys, h⟩ := Option.bind_eq_some_iff.1 h
            cases h
            unfold skipString
            rw [if_neg hquote, if_neg hescape, if_neg hcontrol]
            exact ih hys (by omega)

/-- What a text was read from. -/
theorem skipString_of_string {cs rest : List Char} {s : String} (h : string cs = some (s, rest)) :
    ∃ tail, cs = '"' :: tail ∧ skipString tail.length tail = some ((), rest) := by
  unfold string at h
  split at h
  next tail =>
    obtain ⟨⟨xs, left⟩, hbody, heq⟩ := Option.map_eq_some_iff.1 h
    cases heq
    exact ⟨tail, rfl, skipString_of_stringBody hbody (Nat.le_refl _)⟩
  next => cases h

/-! ## Values that are no containers -/

theorem word_of_word {α β : Type} {letters cs rest : List Char} {a x : α} (b : β)
    (h : word letters a cs = some (x, rest)) : word letters b cs = some (b, rest) := by
  unfold word at h ⊢
  split at h
  next hfront =>
    cases h
    rw [if_pos hfront]
  next => cases h

theorem skipScalar_of_scalar {cs rest : List Char} {v : Json} (h : scalar cs = some (v, rest)) :
    skipScalar cs = some ((), rest) := by
  unfold scalar at h
  split at h
  next => exact word_of_word () h
  next => exact word_of_word () h
  next => exact word_of_word () h
  next tail =>
    obtain ⟨⟨s, left⟩, hstring, heq⟩ := Option.map_eq_some_iff.1 h
    cases heq
    obtain ⟨tail', heq, hpass⟩ := skipString_of_string hstring
    cases heq
    exact hpass
  next hnull htrue hfalse hquote =>
    obtain ⟨⟨t, left⟩, hread, h⟩ := Option.bind_eq_some_iff.1 h
    obtain ⟨n, -, h⟩ := Option.bind_eq_some_iff.1 h
    cases h
    unfold skipScalar
    split
    next => exact absurd rfl (hnull _)
    next => exact absurd rfl (htrue _)
    next => exact absurd rfl (hfalse _)
    next => exact absurd rfl (hquote _)
    next => rw [hread]; rfl

/-- What is no container has depth zero. -/
theorem depth_of_scalar {cs rest : List Char} {v : Json} (h : scalar cs = some (v, rest)) : v.depth = 0 := by
  have hword : ∀ {letters cs : List Char} {a : Json}, a.depth = 0 → word letters a cs = some (v, rest) →
      v.depth = 0 := by
    intro letters cs a ha h
    unfold word at h
    split at h
    · cases h
      exact ha
    · cases h
  unfold scalar at h
  split at h
  next => exact hword rfl h
  next => exact hword rfl h
  next => exact hword rfl h
  next =>
    obtain ⟨_, -, heq⟩ := Option.map_eq_some_iff.1 h
    cases heq
    rfl
  next =>
    obtain ⟨_, -, h⟩ := Option.bind_eq_some_iff.1 h
    obtain ⟨_, -, h⟩ := Option.bind_eq_some_iff.1 h
    cases h
    rfl

/-! ## Objects -/

section Members

variable {step : Reader Unit} {cs rest : List Char}

/-- A passing reader does not look at keys. -/
theorem skipMember_of_member (h : member (fun _ _ => step) () cs = some ((), rest)) :
    skipMember step cs = some ((), rest) := by
  obtain ⟨key, after, value, hkey, hcolon, hvalue⟩ := member_cases h
  obtain ⟨tail, rfl, hpass⟩ := skipString_of_string hkey
  rw [skipMember, hpass, Option.bind_eq_bind, Option.bind_some]
  dsimp only
  rw [hcolon]
  exact hvalue

theorem skipMoreMembers_of_comma {fuel : Nat} {more : List Char} (hgap : skipGap cs = ',' :: more) :
    skipMoreMembers step (fuel + 1) cs =
      (skipMember step (skipGap more)).bind fun r => skipMoreMembers step fuel r.2 := by
  rw [skipMoreMembers, hgap]
  rfl

theorem skipMoreMembers_of_moreMembers {fuel : Nat}
    (h : moreMembers (fun _ _ => step) fuel () cs = some ((), rest)) :
    skipMoreMembers step fuel cs = some ((), rest) := by
  induction fuel generalizing cs with
  | zero => cases h
  | succ fuel ih =>
    obtain ⟨less, hless, ⟨hgap, -⟩ | ⟨more, next, left, hgap, hnext, hmore⟩⟩ := moreMembers_cases h
    · rw [skipMoreMembers, hgap]
      rfl
    · cases hless
      rw [skipMoreMembers_of_comma hgap, skipMember_of_member hnext]
      exact ih hmore

theorem skip_object_of_members {d : Nat} (h : members (fun _ _ => skip d) () cs = some ((), rest)) :
    skip (d + 1) ('\x7b' :: cs) = some ((), rest) := by
  rw [skip]
  obtain ⟨hgap, -⟩ | ⟨hopen, next, left, hnext, hmore⟩ := members_cases h
  · rw [hgap]
    rfl
  · split
    next hgap => exact absurd hgap (hopen _)
    next =>
      rw [skipMember_of_member hnext]
      exact skipMoreMembers_of_moreMembers hmore

end Members

/-! ## All values -/

theorem skip_scalar {cs : List Char} (hlist : ∀ tail, cs ≠ '[' :: tail) (hobject : ∀ tail, cs ≠ '\x7b' :: tail)
    (d : Nat) : skip d cs = skipScalar cs := by
  unfold skip
  split
  next => exact absurd rfl (hlist _)
  next => exact absurd rfl (hobject _)
  next => exact absurd rfl (hlist _)
  next => exact absurd rfl (hobject _)
  next => rfl

/-- **Passing.** Every value that can be read can be passed, up to the same character. -/
theorem skip_of_value {d : Nat} {cs rest : List Char} {v : Json} (h : value d cs = some (v, rest)) {e : Nat}
    (he : cs.length ≤ e) : skip e cs = some ((), rest) := by
  induction d generalizing cs rest v e with
  | zero =>
    obtain ⟨_, _, _, hd, -⟩ | ⟨_, _, _, hd, -⟩ | ⟨hlist, hobject, hscalar⟩ := value_cases h
    · cases hd
    · cases hd
    · rw [skip_scalar hlist hobject]
      exact skipScalar_of_scalar hscalar
  | succ d ih =>
    obtain ⟨_, tail, items, hd, rfl, hitems, -⟩ | ⟨_, tail, ms, hd, rfl, hms, -⟩ | ⟨hlist, hobject, hscalar⟩ :=
      value_cases h
    · cases hd
      obtain ⟨e, rfl⟩ := Nat.exists_eq_succ_of_ne_zero (Nat.ne_zero_of_lt he)
      have hfollows : FollowsItems d tail.length (fun _ => skip e) fun _ _ => pure () := by
        intro _ cs v rest hcs hvalue
        exact ih hvalue (Nat.le_trans hcs (Nat.le_of_succ_le_succ he))
      rw [skip, elements_fold hitems hfollows, List.foldlM_pure]
      rfl
    · cases hd
      obtain ⟨e, rfl⟩ := Nat.exists_eq_succ_of_ne_zero (Nat.ne_zero_of_lt he)
      have hfollows : FollowsMembers d tail.length (fun _ _ => skip e) fun _ _ => pure () := by
        intro _ _ cs v rest hcs hvalue
        exact ih hvalue (Nat.le_trans hcs (Nat.le_of_succ_le_succ he))
      obtain ⟨added, -, hfold⟩ := members_fold hms
      apply skip_object_of_members
      rw [hfold hfollows, List.foldlM_pure]
      rfl
    · rw [skip_scalar hlist hobject]
      exact skipScalar_of_scalar hscalar

/-- **No containers.** Of the values that can be read, a reader without containers takes those of depth zero. -/
theorem value_zero {d : Nat} {cs rest : List Char} {v : Json} (h : value d cs = some (v, rest)) :
    value 0 cs = if v.depth = 0 then some (v, rest) else none := by
  obtain ⟨_, tail, items, -, rfl, -, rfl⟩ | ⟨_, tail, ms, -, rfl, -, rfl⟩ | ⟨hlist, hobject, hscalar⟩ := value_cases h
  · rw [depth, if_neg (Nat.succ_ne_zero _), value]
  · rw [depth, if_neg (Nat.succ_ne_zero _), value]
  · rw [depth_of_scalar hscalar, if_pos rfl]
    cases cs with
    | nil => exact hscalar
    | cons c cs =>
      rw [value_scalar (fun heq => hlist cs (by rw [heq])) (fun heq => hobject cs (by rw [heq]))]
      exact hscalar

end ResidencePortal.Json
