import ResidencePortal.Domain.MappingTable
import ResidencePortal.Unicode.Normal

/-!
# Mapping domain names

Before a domain name is looked at, its characters are mapped: capital letters become small, compatible
forms become the plain ones, and characters without a look of their own are dropped. The result is
written in the composed form.
-/

namespace ResidencePortal.Domain

open Text

/-- What a code point is mapped to; `none` if names may not hold it. -/
def mapPoint? (n : Nat) : Option (List Nat) :=
  match Packed.valueOf? replacementEntries n with
  | some m => some [m]
  | none =>
    match Packed.sliceOf? expansionEntries expansionPoints n with
    | some points => some points
    | none =>
      match Packed.valueAt statusRuns n with
      | 1 => some [n]
      | 2 => some []
      | _ => none

/-- The mapped and composed form of code points. -/
def map? (points : List Nat) : Option (List Nat) := do
  let mapped ← points.mapM mapPoint?
  some (Unicode.compose mapped.flatten)

end ResidencePortal.Domain
