import ResidencePortal.Role

/-!
# Trimming

Two tests decide whether a text says anything: `allBlank` looks at every character, `nonBlank` looks at
what trimming leaves. They agree, and trimming twice is trimming once, so a text may be tested, trimmed
and classified in any order.

**Results.**
* `nonBlank_eq_ite`: the two tests agree.
* `trim_trim`, `nonBlank_trim`: trimming is idempotent, also through the test.
* `trimChars_padded`, `exists_padding`: what trimming drops are blanks at the ends, and all of them.
* `Role.normalize?_eq_ite`: exactly the texts that are not blank denote a role.
* `Role.normalize?_trim`: blanks at the ends do not change the role.
-/

namespace ResidencePortal

namespace Text

theorem trimStartChars_of_head {c : Char} {rest : List Char} (h : isBlank c = false) :
    trimStartChars (c :: rest) = c :: rest := by
  simp [trimStartChars, h]

theorem trimStartChars_trimStartChars (cs : List Char) :
    trimStartChars (trimStartChars cs) = trimStartChars cs := by
  cases h : trimStartChars cs with
  | nil => rfl
  | cons c rest => exact trimStartChars_of_head (isBlank_head_dropWhile h)

theorem trimEndChars_eq_reverse (cs : List Char) :
    trimEndChars cs = (trimStartChars cs.reverse).reverse := rfl

theorem trimEndChars_trimEndChars (cs : List Char) :
    trimEndChars (trimEndChars cs) = trimEndChars cs := by
  simp only [trimEndChars_eq_reverse, List.reverse_reverse, trimStartChars_trimStartChars]

/-- Dropping blanks behind leaves a character in front that is not blank. -/
theorem trimEndChars_cons {c : Char} (h : isBlank c = false) (rest : List Char) :
    trimEndChars (c :: rest) = c :: trimEndChars rest := by
  simp only [trimEndChars, List.reverse_cons, List.dropWhile_append]
  split
  · rename_i hnil
    rw [List.isEmpty_iff] at hnil
    simp [hnil, h]
  · simp

theorem trimChars_trimChars (cs : List Char) : trimChars (trimChars cs) = trimChars cs := by
  unfold trimChars
  cases h : trimStartChars cs with
  | nil => rfl
  | cons c rest =>
    have hc := isBlank_head_dropWhile h
    rw [trimEndChars_cons hc, trimStartChars_of_head hc, trimEndChars_cons hc,
      trimEndChars_trimEndChars]

/-- Blanks put around characters are dropped again. -/
theorem trimChars_padded {front back : List Char} (hfront : ∀ c ∈ front, isBlank c = true)
    (hback : ∀ c ∈ back, isBlank c = true) (cs : List Char) :
    trimChars (front ++ cs ++ back) = trimChars cs := by
  have hend : ∀ ds : List Char, trimEndChars (ds ++ back) = trimEndChars ds := by
    intro ds
    have hreverse : ∀ c ∈ back.reverse, isBlank c = true := fun c hc => hback c (List.mem_reverse.1 hc)
    rw [trimEndChars, List.reverse_append, List.dropWhile_append_of_pos hreverse, trimEndChars]
  rw [List.append_assoc, trimChars, trimStartChars, List.dropWhile_append_of_pos hfront,
    List.dropWhile_append, trimChars, trimStartChars]
  split
  next hnil =>
    rw [dropWhile_eq_nil_iff.2 hback, List.isEmpty_iff.1 hnil]
  next => exact hend _

/-- What trimming drops are blanks in front and behind. -/
theorem exists_padding (cs : List Char) :
    ∃ front back, (∀ c ∈ front, isBlank c = true) ∧ (∀ c ∈ back, isBlank c = true) ∧
      cs = front ++ trimChars cs ++ back := by
  have htake : ∀ ds : List Char, ∀ c ∈ ds.takeWhile isBlank, isBlank c = true :=
    fun ds => List.all_eq_true.1 List.all_takeWhile
  refine ⟨cs.takeWhile isBlank, ((trimStartChars cs).reverse.takeWhile isBlank).reverse, htake cs,
    fun c hc => htake _ c (List.mem_reverse.1 hc), ?_⟩
  rw [List.append_assoc, trimChars, trimEndChars, ← List.reverse_append, List.takeWhile_append_dropWhile,
    List.reverse_reverse, trimStartChars, List.takeWhile_append_dropWhile]

/-- Trimming only drops characters. -/
theorem trimChars_sublist (cs : List Char) : (trimChars cs).Sublist cs := by
  have hend : ∀ ds : List Char, (trimEndChars ds).Sublist ds := by
    intro ds
    have hdrop := List.dropWhile_sublist isBlank (l := ds.reverse)
    simpa [trimEndChars] using hdrop.reverse
  exact (hend _).trans (List.dropWhile_sublist isBlank)

theorem trim_trim (s : String) : trim (trim s) = trim s := by
  rw [trim, toList_trim, trimChars_trimChars, ← trim]

theorem trim_isEmpty (s : String) : (trim s).isEmpty = allBlank s := by
  rw [Bool.eq_iff_iff, String.isEmpty_iff, ← String.toList_eq_nil_iff, toList_trim,
    trimChars_eq_nil_iff, allBlank, List.all_eq_true]

/-- Something is left after trimming exactly if some character is not blank. -/
theorem nonBlank_eq_ite (s : String) : nonBlank s = if allBlank s then none else some (trim s) := by
  simp only [nonBlank, trim_isEmpty]

theorem allBlank_trim (s : String) : allBlank (trim s) = allBlank s := by
  rw [← trim_isEmpty, trim_trim, trim_isEmpty]

theorem nonBlank_trim (s : String) : nonBlank (trim s) = nonBlank s := by
  rw [nonBlank_eq_ite, nonBlank_eq_ite, allBlank_trim, trim_trim]

end Text

namespace Role

open Text

/-- Exactly the texts that are not blank denote a role. -/
theorem normalize?_eq_ite (raw : String) :
    normalize? raw = if allBlank raw then none else some (classify (trim raw)) := by
  rw [normalize?, nonBlank_eq_ite]
  split <;> rfl

theorem normalize?_trim (raw : String) : normalize? (trim raw) = normalize? raw := by
  rw [normalize?, normalize?, nonBlank_trim]

end Role

end ResidencePortal
