import ResidencePortal.Proofs.Entries
import ResidencePortal.Proofs.Json.IntegerText
import ResidencePortal.Proofs.Json.StringText

/-!
# JSON values read back

A value is canonical if its numbers are integers of the 64-bit ranges and the keys of its objects
increase. Canonical values are read back from their compact text, whatever follows them, as long as they
nest no deeper than the reader allows.

The two loops of the reader are treated once for every step that they may be given: if the step reads
each written part back, the loop folds it over all parts.

**Results.**
* `elements_write`, `members_write`: the loops over written items and members.
* `value_writeChars`: a canonical value is read back, with any characters behind it.
* `parse?_compact`, `parse?_compact_obj`: a canonical document is read back, and an object whose members stand in
  another order is read back in order.
-/

namespace ResidencePortal.Json

open ResidencePortal.Text

/-- The values that every reader of documents gives back as they were: integers within 64 bits, and
objects with increasing keys. -/
inductive Canonical : Json → Prop
  | null : Canonical .null
  | bool (b : Bool) : Canonical (.bool b)
  | int {n : Int} (low : -9223372036854775808 ≤ n) (high : n < 18446744073709551616) :
    Canonical (.num (.int n))
  | str (s : String) : Canonical (.str s)
  | arr {items : List Json} (each : ∀ v ∈ items, Canonical v) : Canonical (.arr items)
  | obj {members : List (String × Json)} (increasing : Entries.Increasing members)
    (each : ∀ m ∈ members, Canonical m.2) : Canonical (.obj members)

theorem canonical_object {members : List (String × Json)} (h : ∀ m ∈ members, Canonical m.2) :
    Canonical (object members) := by
  refine .obj (Entries.increasing_foldl_insert members List.Pairwise.nil) fun m hm => ?_
  rcases Entries.mem_foldl_insert hm with hm | hm
  · exact h m hm
  · cases hm

/-! ## Between the parts -/

theorem skipGap_cons {c : Char} (h : isGap c = false) (cs : List Char) :
    skipGap (c :: cs) = c :: cs := by
  simp [skipGap, h]

theorem ends_cons {c : Char} (h : isDigit c = false ∧ c ≠ '.' ∧ c ≠ 'e' ∧ c ≠ 'E')
    (rest : List Char) : Ends (c :: rest) := by
  intro d hd
  cases hd
  exact h

theorem ends_writeItems (items : List Json) (rest : List Char) : Ends (writeItems items ++ rest) := by
  cases items with
  | nil => rw [writeItems]; exact ends_cons (by decide) _
  | cons v items => rw [writeItems]; exact ends_cons (by decide) _

theorem ends_writeMembers (members : List (String × Json)) (rest : List Char) :
    Ends (writeMembers members ++ rest) := by
  cases members with
  | nil => rw [writeMembers]; exact ends_cons (by decide) _
  | cons m members => rw [writeMembers]; exact ends_cons (by decide) _

/-- A written value starts with a character that is no blank and closes no list. -/
theorem head_writeChars {v : Json} (h : Canonical v) :
    ∃ c cs, writeChars v = c :: cs ∧ isGap c = false ∧ c ≠ ']' := by
  cases h with
  | null => exact ⟨_, _, rfl, by decide⟩
  | bool b => cases b <;> exact ⟨_, _, rfl, by decide⟩
  | @int n low high =>
    obtain ⟨c, cs, hcs, hc⟩ := head_intText n
    refine ⟨c, cs, hcs, ?_⟩
    rcases hc with rfl | hc
    · decide
    · simp only [isGap, Bool.or_eq_false_iff, beq_eq_false_iff_ne, ne_eq]
      refine ⟨⟨⟨⟨?_, ?_⟩, ?_⟩, ?_⟩, ?_⟩ <;> (rintro rfl; exact absurd hc (by decide))
  | str s => exact ⟨_, _, rfl, by decide⟩
  | @arr items each => cases items <;> exact ⟨_, _, rfl, by decide⟩
  | @obj members increasing each => cases members <;> exact ⟨_, _, rfl, by decide⟩

theorem skipGap_writeChars {v : Json} (h : Canonical v) (rest : List Char) :
    skipGap (writeChars v ++ rest) = writeChars v ++ rest := by
  obtain ⟨c, cs, hcs, hgap, -⟩ := head_writeChars h
  rw [hcs, List.cons_append, skipGap_cons hgap]

/-! ## Loops -/

section Loops

variable {σ : Type}

theorem length_lt_writeItems (items : List Json) : items.length < (writeItems items).length := by
  induction items with
  | nil => decide
  | cons v items ih =>
    rw [writeItems, List.length_cons, List.length_cons, List.length_append]
    omega

theorem length_lt_writeMembers (members : List (String × Json)) :
    members.length < (writeMembers members).length := by
  induction members with
  | nil => decide
  | cons m members ih =>
    rw [writeMembers, List.length_cons, List.length_cons, List.length_append, List.length_cons,
      List.length_append]
    omega

/-- The step reads every written item back: it turns the state as `f` says and stops behind it. -/
def ReadsItems (step : σ → Reader σ) (f : σ → Json → Option σ) (items : List Json) : Prop :=
  ∀ v ∈ items, Canonical v ∧ ∀ s rest, Ends rest →
    step s (writeChars v ++ rest) = (f s v).map fun s => (s, rest)

theorem moreElements_write {step : σ → Reader σ} {f : σ → Json → Option σ} {items : List Json}
    (h : ReadsItems step f items) {fuel : Nat} (hfuel : items.length < fuel) (s : σ)
    (rest : List Char) :
    moreElements step fuel s (writeItems items ++ rest) =
      (items.foldlM f s).map fun s => (s, rest) := by
  induction items generalizing fuel s with
  | nil =>
    obtain ⟨fuel, rfl⟩ := Nat.exists_eq_succ_of_ne_zero (Nat.ne_of_gt hfuel)
    rfl
  | cons v items ih =>
    obtain ⟨fuel, rfl⟩ := Nat.exists_eq_succ_of_ne_zero (Nat.ne_of_gt (Nat.zero_lt_of_lt hfuel))
    rw [List.length_cons] at hfuel
    obtain ⟨hv, hstep⟩ := h v List.mem_cons_self
    have hrest : ReadsItems step f items := fun w hw => h w (List.mem_cons_of_mem v hw)
    rw [writeItems, List.cons_append, List.append_assoc, moreElements, skipGap_cons (by decide)]
    simp only [skipGap_writeChars hv, hstep s _ (ends_writeItems items rest), List.foldlM_cons,
      Option.bind_eq_bind]
    cases f s v with
    | none => rfl
    | some s => exact ih hrest (by omega) s

/-- **Items.** The loop over the written items folds the step over them. -/
theorem elements_write {step : σ → Reader σ} {f : σ → Json → Option σ} {items : List Json}
    (h : ReadsItems step f items) (s : σ) (rest tail : List Char)
    (htail : writeChars (.arr items) ++ rest = '[' :: tail) :
    elements step s tail = (items.foldlM f s).map fun s => (s, rest) := by
  cases items with
  | nil =>
    rw [writeChars] at htail
    obtain rfl := (List.cons.inj htail).2
    rfl
  | cons v items =>
    rw [writeChars, List.cons_append, List.append_assoc] at htail
    obtain rfl := (List.cons.inj htail).2
    obtain ⟨hv, hstep⟩ := h v List.mem_cons_self
    have hrest : ReadsItems step f items := fun w hw => h w (List.mem_cons_of_mem v hw)
    obtain ⟨c, cs, hcs, -, hclose⟩ := head_writeChars hv
    unfold elements
    rw [skipGap_writeChars hv]
    split
    · rename_i heq
      rw [hcs] at heq
      exact absurd (List.cons.inj heq).1 hclose
    · simp only [hstep s _ (ends_writeItems items rest), List.foldlM_cons, Option.bind_eq_bind]
      cases f s v with
      | none => rfl
      | some s =>
        have hlength := length_lt_writeItems items
        refine moreElements_write hrest ?_ s rest
        rw [List.length_append]
        omega

/-- The step reads the value of every written member back. -/
def ReadsMembers (step : String → σ → Reader σ) (f : σ → String × Json → Option σ)
    (ms : List (String × Json)) : Prop :=
  ∀ m ∈ ms, Canonical m.2 ∧ ∀ s rest, Ends rest →
    step m.1 s (writeChars m.2 ++ rest) = (f s m).map fun s => (s, rest)

theorem member_write {v : Json} (h : Canonical v) (step : String → σ → Reader σ) (key : String)
    (s : σ) (rest : List Char) :
    member step s (quoteChars key ++ ':' :: (writeChars v ++ rest)) =
      step key s (writeChars v ++ rest) := by
  simp only [member, string_quoteChars, Option.bind_eq_bind, Option.bind_some,
    skipGap_cons (show isGap ':' = false by decide), skipGap_writeChars h]

theorem skipGap_quoteChars (key : String) (rest : List Char) :
    skipGap (quoteChars key ++ rest) = quoteChars key ++ rest :=
  skipGap_cons (by decide) _

theorem moreMembers_write {step : String → σ → Reader σ} {f : σ → String × Json → Option σ}
    {ms : List (String × Json)} (h : ReadsMembers step f ms) {fuel : Nat}
    (hfuel : ms.length < fuel) (s : σ) (rest : List Char) :
    moreMembers step fuel s (writeMembers ms ++ rest) =
      (ms.foldlM f s).map fun s => (s, rest) := by
  induction ms generalizing fuel s with
  | nil =>
    obtain ⟨fuel, rfl⟩ := Nat.exists_eq_succ_of_ne_zero (Nat.ne_of_gt hfuel)
    rfl
  | cons m ms ih =>
    obtain ⟨fuel, rfl⟩ := Nat.exists_eq_succ_of_ne_zero (Nat.ne_of_gt (Nat.zero_lt_of_lt hfuel))
    rw [List.length_cons] at hfuel
    obtain ⟨hv, hstep⟩ := h m List.mem_cons_self
    have hrest : ReadsMembers step f ms := fun w hw => h w (List.mem_cons_of_mem m hw)
    rw [writeMembers, List.cons_append, List.append_assoc, List.cons_append, List.append_assoc,
      moreMembers, skipGap_cons (by decide)]
    simp only [skipGap_quoteChars, member_write hv, hstep s _ (ends_writeMembers ms rest),
      List.foldlM_cons, Option.bind_eq_bind]
    cases f s m with
    | none => rfl
    | some s => exact ih hrest (by omega) s

/-- **Members.** The loop over the written members folds the step over them. -/
theorem members_write {step : String → σ → Reader σ} {f : σ → String × Json → Option σ}
    {ms : List (String × Json)} (h : ReadsMembers step f ms) (s : σ) (rest tail : List Char)
    (htail : writeChars (.obj ms) ++ rest = '\x7b' :: tail) :
    members step s tail = (ms.foldlM f s).map fun s => (s, rest) := by
  cases ms with
  | nil =>
    rw [writeChars] at htail
    obtain rfl := (List.cons.inj htail).2
    rfl
  | cons m ms =>
    rw [writeChars, List.cons_append, List.append_assoc, List.cons_append, List.append_assoc] at htail
    obtain rfl := (List.cons.inj htail).2
    obtain ⟨hv, hstep⟩ := h m List.mem_cons_self
    have hrest : ReadsMembers step f ms := fun w hw => h w (List.mem_cons_of_mem m hw)
    unfold members
    rw [skipGap_quoteChars]
    split
    · rename_i heq
      exact absurd (List.cons.inj heq).1 (by decide)
    · simp only [member_write hv, hstep s _ (ends_writeMembers ms rest), List.foldlM_cons,
        Option.bind_eq_bind]
      cases f s m with
      | none => rfl
      | some s =>
        have hlength := length_lt_writeMembers ms
        refine moreMembers_write hrest ?_ s rest
        rw [List.length_append]
        omega

end Loops

/-! ## Values -/

theorem depthItems_le_iff {items : List Json} {d : Nat} :
    depthItems items ≤ d ↔ ∀ v ∈ items, depth v ≤ d := by
  induction items with
  | nil => simp [depthItems]
  | cons v items ih => rw [depthItems, Nat.max_le, ih, List.forall_mem_cons]

theorem depthMembers_le_iff {ms : List (String × Json)} {d : Nat} :
    depthMembers ms ≤ d ↔ ∀ m ∈ ms, depth m.2 ≤ d := by
  induction ms with
  | nil => simp [depthMembers]
  | cons m ms ih => rw [depthMembers, Nat.max_le, ih, List.forall_mem_cons]

/-- An object nests one container more than its members. -/
theorem depth_object_le {ms : List (String × Json)} {d : Nat} (h : ∀ m ∈ ms, depth m.2 ≤ d) :
    depth (object ms) ≤ d + 1 := by
  rw [object, depth]
  refine Nat.succ_le_succ (depthMembers_le_iff.2 fun m hm => ?_)
  rcases Entries.mem_foldl_insert hm with hm | hm
  · exact h m hm
  · cases hm

/-- The reader of one item in a list, as a step of the loop. -/
def itemStep (d : Nat) (items : List Json) : Reader (List Json) := fun cs =>
  (value d cs).map fun r => (r.1 :: items, r.2)

/-- The reader of one value in an object, as a step of the loop. -/
def memberStep (d : Nat) (key : String) (ms : List (String × Json)) :
    Reader (List (String × Json)) := fun cs =>
  (value d cs).map fun r => (Entries.insert key r.1 ms, r.2)

theorem value_list (d : Nat) (cs : List Char) :
    value (d + 1) ('[' :: cs) =
      (elements (itemStep d) [] cs).map fun r => (.arr r.1.reverse, r.2) := by
  have hstep : (fun (items : List Json) (cs : List Char) =>
      (value d cs).bind fun r => some (r.1 :: items, r.2)) = itemStep d := by
    funext items cs
    unfold itemStep
    cases value d cs <;> rfl
  rw [value, ← hstep]
  cases elements _ [] cs <;> rfl

theorem value_object (d : Nat) (cs : List Char) :
    value (d + 1) ('\x7b' :: cs) =
      (members (memberStep d) [] cs).map fun r => (.obj r.1, r.2) := by
  have hstep : (fun (key : String) (ms : List (String × Json)) (cs : List Char) =>
      (value d cs).bind fun r => some (Entries.insert key r.1 ms, r.2)) = memberStep d := by
    funext key ms cs
    unfold memberStep
    cases value d cs <;> rfl
  rw [value, ← hstep]
  cases members _ [] cs <;> rfl

/-- A value that starts with no bracket is read as a scalar, at any depth. -/
theorem value_scalar {c : Char} (hlist : c ≠ '[') (hobject : c ≠ '\x7b') (d : Nat)
    (cs : List Char) : value d (c :: cs) = scalar (c :: cs) := by
  cases d with
  | zero => simp [value, hlist, hobject]
  | succ d => simp [value, hlist, hobject]

/-- Increasing members are put in order as they are. -/
theorem foldl_insert_of_increasing {ms : List (String × Json)} (h : Entries.Increasing ms) :
    ms.foldl (fun acc m => Entries.insert m.1 m.2 acc) [] = ms := by
  refine Entries.eq_of_find?_eq (Entries.increasing_foldl_insert ms List.Pairwise.nil) h ?_
  intro key
  rw [Entries.find?_foldl_insert key h.distinct, Entries.find?, Option.or_none]

/-- An object whose members are read back is read with its members put in order. -/
theorem value_writeChars_obj {ms : List (String × Json)} {d : Nat}
    (h : ∀ m ∈ ms, Canonical m.2 ∧ ∀ rest, Ends rest → value d (writeChars m.2 ++ rest) = some (m.2, rest))
    (rest : List Char) :
    value (d + 1) (writeChars (.obj ms) ++ rest) = some (object ms, rest) := by
  have hreads : ReadsMembers (memberStep d) (fun acc m => pure (Entries.insert m.1 m.2 acc)) ms := by
    intro m hm
    obtain ⟨hcanonical, hvalue⟩ := h m hm
    refine ⟨hcanonical, fun s rest hrest => ?_⟩
    rw [memberStep, hvalue rest hrest]
    rfl
  obtain ⟨tail, htail⟩ : ∃ tail, writeChars (.obj ms) ++ rest = '\x7b' :: tail := by
    cases ms <;> exact ⟨_, rfl⟩
  rw [htail, value_object, members_write hreads [] rest tail htail, List.foldlM_pure]
  rfl

/-- **Values read back.** A canonical value is read back from its text by every reader that allows its
depth, whatever follows. -/
theorem value_writeChars {v : Json} (h : Canonical v) :
    ∀ (d : Nat), depth v ≤ d → ∀ (rest : List Char), Ends rest →
      value d (writeChars v ++ rest) = some (v, rest) := by
  induction h with
  | null =>
    intro d _ rest _
    rw [writeChars, List.cons_append, value_scalar (by decide) (by decide)]
    rfl
  | bool b =>
    intro d _ rest _
    cases b <;> rw [writeChars, List.cons_append, value_scalar (by decide) (by decide)] <;> rfl
  | @int n low high =>
    intro d _ rest hrest
    obtain ⟨c, cs, hcs, hc⟩ := head_intText n
    have hbracket : c ≠ '[' ∧ c ≠ '\x7b' := by
      rcases hc with rfl | hc
      · decide
      · constructor <;> (rintro rfl; exact absurd hc (by decide))
    have hscalar := scalar_intText low high hrest
    rw [hcs] at hscalar
    rw [writeChars, Number.text, hcs, List.cons_append, value_scalar hbracket.1 hbracket.2]
    exact hscalar
  | str s =>
    intro d _ rest _
    have hstring := string_quoteChars s rest
    rw [quoteChars, List.cons_append] at hstring
    rw [writeChars, quoteChars, List.cons_append, value_scalar (by decide) (by decide)]
    simp only [scalar, hstring, Option.map_some]
  | @arr items each ih =>
    intro d hd rest _
    rw [depth] at hd
    obtain ⟨d, rfl⟩ := Nat.exists_eq_succ_of_ne_zero (show d ≠ 0 by omega)
    have hreads : ReadsItems (itemStep d) (fun acc v => pure (v :: acc)) items := by
      intro v hv
      refine ⟨each v hv, fun s rest hrest => ?_⟩
      have hdepth := depthItems_le_iff.1 (Nat.le_of_succ_le_succ hd) v hv
      rw [itemStep, ih v hv d hdepth rest hrest]
      rfl
    obtain ⟨tail, htail⟩ : ∃ tail, writeChars (.arr items) ++ rest = '[' :: tail := by
      cases items <;> exact ⟨_, rfl⟩
    rw [htail, value_list, elements_write hreads [] rest tail htail, List.foldlM_pure]
    simp
  | @obj ms increasing each ih =>
    intro d hd rest _
    rw [depth] at hd
    obtain ⟨d, rfl⟩ := Nat.exists_eq_succ_of_ne_zero (show d ≠ 0 by omega)
    have hmembers : ∀ m ∈ ms, Canonical m.2 ∧
        ∀ rest, Ends rest → value d (writeChars m.2 ++ rest) = some (m.2, rest) := by
      intro m hm
      exact ⟨each m hm, ih m hm d (depthMembers_le_iff.1 (Nat.le_of_succ_le_succ hd) m hm)⟩
    rw [value_writeChars_obj hmembers, object, foldl_insert_of_increasing increasing]

/-! ## Documents -/

/-- A document whose text a reader takes to the end is read as a whole. -/
theorem whole_ofList {α : Type} {read : Reader α} {cs : List Char} {a : α}
    (hgap : skipGap cs = cs) (h : read cs = some (a, [])) :
    whole read (String.ofList cs) = some a := by
  simp only [whole, String.toList_ofList, hgap, h, Option.bind_eq_bind, Option.bind_some]
  rfl

/-- **Documents read back.** A canonical value that nests at most `maxDepth` containers is read back
from its compact text. -/
theorem parse?_compact {v : Json} (h : Canonical v) (hdepth : depth v ≤ maxDepth) :
    parse? (compact v) = some v := by
  have hgap := skipGap_writeChars h []
  have hvalue := value_writeChars h maxDepth hdepth [] ends_nil
  rw [List.append_nil] at hgap hvalue
  exact whole_ofList hgap hvalue

/-- An object of canonical members in any order is read back with its members put in order. -/
theorem parse?_compact_obj {ms : List (String × Json)}
    (h : ∀ m ∈ ms, Canonical m.2 ∧ depth m.2 < maxDepth) : parse? (compact (.obj ms)) = some (object ms) := by
  have hmembers : ∀ m ∈ ms, Canonical m.2 ∧
      ∀ rest, Ends rest → value 126 (writeChars m.2 ++ rest) = some (m.2, rest) := by
    intro m hm
    obtain ⟨hcanonical, hdepth⟩ := h m hm
    exact ⟨hcanonical, value_writeChars hcanonical 126 (Nat.le_of_lt_succ hdepth)⟩
  have hvalue := value_writeChars_obj hmembers []
  rw [List.append_nil] at hvalue
  refine whole_ofList ?_ hvalue
  cases ms <;> exact skipGap_cons (by decide) _

end ResidencePortal.Json
