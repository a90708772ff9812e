import ResidencePortal.Json.Reader

/-!
# Records in JSON text

A record has named fields. Its text is an object, or a list that gives the fields by position. Either
way the reader yields entries, each a field's key and its value, in the order of the text:

* an object may hold keys that are no fields; their values are skipped, whatever they are;
* a field given twice, or a list longer than the fields, is refused.
-/

namespace ResidencePortal.Json

/-- A field of a record and the reader of its values. -/
structure Field where
  key : String
  read : Reader Json

/-- The values that fields take unless they say otherwise: no containers. -/
def Field.plain (key : String) : Field := ⟨key, value 0⟩

/-- The value of a key in an object: of a field once, of any other key not at all. -/
def namedStep (fields : List Field) (key : String) (seen : List (String × Json)) :
    Reader (List (String × Json)) := fun cs =>
  match fields.find? fun f => f.key = key with
  | some f =>
    if (Entries.find? key seen).isSome then none
    else do
      let (v, rest) ← f.read cs
      some (seen ++ [(key, v)], rest)
  | none => do
    let (_, rest) ← skip cs.length cs
    some (seen, rest)

/-- The value of the next field in a list. -/
def placedStep (fields : List Field) (seen : List (String × Json)) :
    Reader (List (String × Json)) := fun cs =>
  match fields[seen.length]? with
  | some f => do
    let (v, rest) ← f.read cs
    some (seen ++ [(f.key, v)], rest)
  | none => none

/-- The entries of a record. -/
def record (fields : List Field) : Reader (List (String × Json))
  | '\x7b' :: rest => members (namedStep fields) [] rest
  | '[' :: rest => elements (placedStep fields) [] rest
  | _ => none

end ResidencePortal.Json
