import ResidencePortal.Text.Case

/-!
# Letters that differ by case only

Two characters are variants if they have the same folded form. Most forms have two variants, the form
itself and its upper case; `rareVariants` lists the others.
-/

namespace ResidencePortal.Unicode

open Text

/-- The upper-case partner of a code point, if it is one code point. -/
def upperPoint (n : Nat) : Nat :=
  if n < 0x80 then (if 0x61 ≤ n ∧ n ≤ 0x7A then n - 32 else n) else simplePartner upperRuns n

/-- The lower-case partner of a code point, if it is one code point. -/
def lowerPoint (n : Nat) : Nat :=
  if n < 0x80 then (if 0x41 ≤ n ∧ n ≤ 0x5A then n + 32 else n) else simplePartner lowerRuns n

/-- The code points whose folded form does not come from their partners by case, with that form. -/
def foldedPairs : List (Nat × Nat) := [(0x131, 0x131), (0x1FD3, 0x390), (0x1FE3, 0x3B0), (0xFB05, 0xFB06)]

/-- The folded form of a code point. -/
def foldPoint (n : Nat) : Nat :=
  match foldedPairs.find? fun p => p.1 = n with
  | some p => p.2
  | none => lowerPoint (upperPoint n)

/-- The variants that are neither a folded form nor its upper case, with their folded forms. -/
def rareVariants : List (Nat × Nat) :=
  [(0xB5, 0x3BC), (0x17F, 0x73), (0x1C5, 0x1C6), (0x1C8, 0x1C9), (0x1CB, 0x1CC), (0x1F2, 0x1F3),
   (0x345, 0x3B9), (0x3C2, 0x3C3), (0x3D0, 0x3B2), (0x3D1, 0x3B8), (0x3D5, 0x3C6), (0x3D6, 0x3C0),
   (0x3F0, 0x3BA), (0x3F1, 0x3C1), (0x3F4, 0x3B8), (0x3F5, 0x3B5), (0x1C80, 0x432),
   (0x1C81, 0x434), (0x1C82, 0x43E), (0x1C83, 0x441), (0x1C84, 0x442), (0x1C85, 0x442),
   (0x1C86, 0x44A), (0x1C87, 0x463), (0x1C88, 0xA64B), (0x1E9B, 0x1E61), (0x1E9E, 0xDF),
   (0x1F88, 0x1F80), (0x1F89, 0x1F81), (0x1F8A, 0x1F82), (0x1F8B, 0x1F83), (0x1F8C, 0x1F84),
   (0x1F8D, 0x1F85), (0x1F8E, 0x1F86), (0x1F8F, 0x1F87), (0x1F98, 0x1F90), (0x1F99, 0x1F91),
   (0x1F9A, 0x1F92), (0x1F9B, 0x1F93), (0x1F9C, 0x1F94), (0x1F9D, 0x1F95), (0x1F9E, 0x1F96),
   (0x1F9F, 0x1F97), (0x1FA8, 0x1FA0), (0x1FA9, 0x1FA1), (0x1FAA, 0x1FA2), (0x1FAB, 0x1FA3),
   (0x1FAC, 0x1FA4), (0x1FAD, 0x1FA5), (0x1FAE, 0x1FA6), (0x1FAF, 0x1FA7), (0x1FBC, 0x1FB3),
   (0x1FBE, 0x3B9), (0x1FCC, 0x1FC3), (0x1FD3, 0x390), (0x1FE3, 0x3B0), (0x1FFC, 0x1FF3),
   (0x2126, 0x3C9), (0x212A, 0x6B), (0x212B, 0xE5), (0xFB05, 0xFB06)]

/-- The characters with the same folded form as a character. -/
def variants (c : Char) : List Char :=
  let form := foldPoint c.toNat
  let rare := (rareVariants.filter fun v => v.2 = form).map Prod.fst
  let points := c.toNat :: form :: upperPoint form :: rare
  (points.filter fun n => foldPoint n = form).map Char.ofNat

end ResidencePortal.Unicode
