import ResidencePortal.Text.Percent

/-!
# Percent coding in addresses

Each part of an address has its own set of ASCII characters that are percent-coded; everything outside
ASCII is coded in all of them. Triples already present stay.
-/

namespace ResidencePortal.Url

open Text

/-- A set of ASCII characters to be coded. -/
structure CodedSet where
  chars : List Char

namespace CodedSet

/-- Nothing but control characters. -/
def controls : CodedSet := ⟨[]⟩

/-- The set of fragments. -/
def fragment : CodedSet := ⟨" \"<>`".toList⟩

/-- The set of queries. -/
def query : CodedSet := ⟨" \"#<>".toList⟩

/-- The set of queries behind a scheme of the web. -/
def webQuery : CodedSet := ⟨" \"#<>'".toList⟩

/-- The set of paths. -/
def path : CodedSet := ⟨" \"<>`#?\x7b\x7d".toList⟩

/-- The set of user names and passwords. -/
def user : CodedSet := ⟨" \"<>`#?\x7b\x7d/:;=@[\\]^|".toList⟩

/-- The character is coded. -/
def codes (set : CodedSet) (c : Char) : Bool :=
  c.toNat < 32 || 127 ≤ c.toNat || set.chars.contains c

/-- The characters with those of the set coded. -/
def encode (set : CodedSet) (cs : List Char) : List Char :=
  cs.flatMap fun c =>
    if set.codes c then
      (charBytes [c]).flatMap fun b => ['%', upperHexDigit (b.toNat / 16), upperHexDigit (b.toNat % 16)]
    else [c]

@[simp] theorem encode_nil (set : CodedSet) : set.encode [] = [] := rfl

/-- Coding goes character by character. -/
theorem encode_append (set : CodedSet) (a b : List Char) :
    set.encode (a ++ b) = set.encode a ++ set.encode b := by
  simp [encode]

end CodedSet

end ResidencePortal.Url
