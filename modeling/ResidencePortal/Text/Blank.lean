/-!
# Blank characters and trimming

The blank characters are those with the Unicode property `White_Space`: 25 code points in 10 runs.
Zero-width marks such as U+200B and U+FEFF are not among them.

* `trimChars` drops blanks at both ends and nothing else; `trimChars_eq_nil_iff` says when nothing is left.
* `nonBlank` is the test "something is left after trimming" that every optional text goes through.
-/

namespace ResidencePortal.Text

/-- The characters with the Unicode property `White_Space`. -/
def isBlank (c : Char) : Bool :=
  let n := c.toNat
  (9 ≤ n && n ≤ 13) || n == 0x20 || n == 0x85 || n == 0xA0 || n == 0x1680 ||
    (0x2000 ≤ n && n ≤ 0x200A) || n == 0x2028 || n == 0x2029 || n == 0x202F || n == 0x205F ||
    n == 0x3000

/-- Drops the blanks in front. -/
def trimStartChars (cs : List Char) : List Char := cs.dropWhile isBlank

/-- Drops the blanks behind. -/
def trimEndChars (cs : List Char) : List Char := (cs.reverse.dropWhile isBlank).reverse

/-- Drops the blanks at both ends. -/
def trimChars (cs : List Char) : List Char := trimEndChars (trimStartChars cs)

/-- The text without the blanks at its ends. -/
def trim (s : String) : String := String.ofList (trimChars s.toList)

/-- The text holds no character but blanks. -/
def allBlank (s : String) : Bool := s.toList.all isBlank

/-- The trimmed text, unless nothing is left of it. -/
def nonBlank (s : String) : Option String :=
  let t := trim s
  if t.isEmpty then none else some t

@[simp] theorem toList_trim (s : String) : (trim s).toList = trimChars s.toList := by
  simp [trim]

theorem dropWhile_eq_nil_iff {p : Char → Bool} {cs : List Char} :
    cs.dropWhile p = [] ↔ ∀ c ∈ cs, p c = true := by
  induction cs with
  | nil => simp
  | cons c rest ih => by_cases h : p c <;> simp [h, ih]

theorem isBlank_head_dropWhile {cs : List Char} {c : Char} {rest : List Char}
    (h : cs.dropWhile isBlank = c :: rest) : isBlank c = false := by
  induction cs with
  | nil => simp at h
  | cons d ds ih =>
    by_cases hd : isBlank d
    · exact ih (by simpa [hd] using h)
    · simp [hd] at h; simpa [← h.1] using hd

/-- Nothing is left exactly when every character is blank. -/
theorem trimChars_eq_nil_iff (cs : List Char) : trimChars cs = [] ↔ ∀ c ∈ cs, isBlank c = true := by
  rw [← dropWhile_eq_nil_iff, trimChars, trimEndChars, trimStartChars]
  cases h : cs.dropWhile isBlank with
  | nil => simp
  | cons d rest =>
    have hd := isBlank_head_dropWhile h
    have : ¬ ∀ c ∈ (d :: rest).reverse, isBlank c = true := fun hall => by
      have := hall d (by simp); simp [hd] at this
    rw [← dropWhile_eq_nil_iff] at this
    simpa using this

end ResidencePortal.Text
