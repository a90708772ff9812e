import ResidencePortal.Json.Mismatch
import ResidencePortal.Json.Printer
import ResidencePortal.Json.Record
import ResidencePortal.Role

/-!
# User records

The account of a resident or of staff, as the backend sends it and as the session keeps it. Every field
may be missing. A record is read from a JSON value (`User.ofJson`, which says what is wrong) or from
JSON text (`User.ofText?`); both hand their entries to `User.ofEntries`. `User.encode` writes the
fields that are present, in the order of `User.Field.all`.
-/

namespace ResidencePortal

open Text

/-- An account (`UserRecord`). -/
structure User where
  id : Option Int64
  loginName : Option String
  fullName : Option String
  /-- The role as the account table has it. -/
  duty : Option String
  /-- The role as the login answer has it. -/
  role : Option String
  phone : Option String
deriving Repr, DecidableEq

namespace User

/-- The fields of a record. -/
inductive Field where
  | id
  | loginName
  | fullName
  | duty
  | role
  | phone
deriving Repr, DecidableEq

/-- The key of a field in JSON. -/
def Field.key : Field → String
  | .id => "id"
  | .loginName => "tenDangNhap"
  | .fullName => "hoTen"
  | .duty => "vaiTro"
  | .role => "role"
  | .phone => "dienThoai"

/-- The fields in the order of positional records and of written ones. -/
def Field.all : List Field := [.id, .loginName, .fullName, .duty, .role, .phone]

/-- The field with a key. -/
def Field.ofKey? (key : String) : Option Field := Field.all.find? fun f => f.key = key

/-- The record without any field. -/
def blank : User := ⟨none, none, none, none, none, none⟩

/-! ## Reading -/

/-- The text in a field; null means that it is missing. -/
def textField : Json → Except Json.Mismatch (Option String)
  | .null => .ok none
  | .str s => .ok (some s)
  | v => .error (.kind v "a string")

/-- The integer in a field, within 64 bits; null means that it is missing. -/
def integerField : Json → Except Json.Mismatch (Option Int64)
  | .null => .ok none
  | .num (.int n) =>
    if Int64.minValue.toInt ≤ n ∧ n ≤ Int64.maxValue.toInt then .ok (some (Int64.ofInt n)) else .error (.range n "i64")
  | v => .error (.kind v "i64")

/-- The record with a field set from a value. -/
def set (u : User) (f : Field) (v : Json) : Except Json.Mismatch User :=
  match f with
  | .id => (integerField v).map fun x => { u with id := x }
  | .loginName => (textField v).map fun x => { u with loginName := x }
  | .fullName => (textField v).map fun x => { u with fullName := x }
  | .duty => (textField v).map fun x => { u with duty := x }
  | .role => (textField v).map fun x => { u with role := x }
  | .phone => (textField v).map fun x => { u with phone := x }

/-- The record with one entry taken up; a key that is no field changes nothing. -/
def take (u : User) (entry : String × Json) : Except Json.Mismatch User :=
  match Field.ofKey? entry.1 with
  | some f => u.set f entry.2
  | none => .ok u

/-- The record of entries. The first that does not fit is reported. -/
def ofEntries (entries : List (String × Json)) : Except Json.Mismatch User := entries.foldlM take blank

/-- The record of a value. -/
def ofJson : Json → Except Json.Mismatch User
  | .obj members => ofEntries members
  | .arr items => do
    let u ← ofEntries ((Field.all.map Field.key).zip items)
    if Field.all.length < items.length then .error (.length items.length) else .ok u
  | v => .error (.kind v "struct UserRecord")

/-- The record of a text. -/
def ofText? (text : String) : Option User := do
  let entries ← Json.whole (Json.record (Field.all.map fun f => Json.Field.plain f.key)) text
  (ofEntries entries).toOption

/-! ## Writing -/

/-- The value of a field, if it is present. -/
def get? (u : User) : Field → Option Json
  | .id => u.id.map fun n => .num (.int n.toInt)
  | .loginName => u.loginName.map .str
  | .fullName => u.fullName.map .str
  | .duty => u.duty.map .str
  | .role => u.role.map .str
  | .phone => u.phone.map .str

/-- The entries of the fields that are present, in order. -/
def entries (u : User) : List (String × Json) :=
  Field.all.filterMap fun f => (u.get? f).map fun v => (f.key, v)

/-- The JSON text of a record. -/
def encode (u : User) : String := Json.compact (.obj u.entries)

/-- The record as a value. -/
def toJson (u : User) : Json := Json.object u.entries

/-! ## Names and role -/

/-- What a visitor without a name is called (`DEFAULT_DISPLAY_NAME`). -/
def defaultDisplayName : String := "Người dùng"

/-- The full name, else the login name, else a general word (`UserRecord.display_name`). -/
def displayName (u : User) : String :=
  ((u.fullName.bind nonBlank).orElse fun _ => u.loginName.bind nonBlank).getD defaultDisplayName

/-- The role text, trimmed: of the login answer, else of the account table (`UserRecord.raw_role`). -/
def rawRole? (u : User) : Option String :=
  (u.role.bind nonBlank).orElse fun _ => u.duty.bind nonBlank

end User

end ResidencePortal
