import ResidencePortal.Json.Record

/-!
# Notices

A short message to the visitor with a level. Success and error messages carry a word in front that
says so; a warning stands alone.
-/

namespace ResidencePortal

/-- How a notice is meant (`FlashLevel`). -/
inductive Notice.Level where
  | success
  | warning
  | error
deriving Repr, DecidableEq

/-- A message to the visitor (`FlashMessage`). -/
structure Notice where
  level : Notice.Level
  message : String
deriving Repr, DecidableEq

namespace Notice

/-- The name of a level in JSON. -/
def Level.name : Level → String
  | .success => "success"
  | .warning => "warning"
  | .error => "error"

/-- The level with a name. -/
def Level.ofName? (name : String) : Option Level :=
  [Level.success, .warning, .error].find? fun l => l.name = name

/-- A notice of success (`FlashMessage.success`). -/
def success (message : String) : Notice := ⟨.success, "Thành công: " ++ message⟩

/-- A warning (`FlashMessage.warning`). -/
def warning (message : String) : Notice := ⟨.warning, message⟩

/-- A notice of an error (`FlashMessage.error`). -/
def error (message : String) : Notice := ⟨.error, "Lỗi: " ++ message⟩

/-- A notice as a value. -/
def toJson (n : Notice) : Json :=
  Json.object [("level", .str n.level.name), ("message", .str n.message)]

/-- The level in text: its name, or an object whose one member is the name with null. -/
def readLevel : Json.Reader Json
  | '\x7b' :: rest => do
    let (name, rest) ← Json.string (Json.skipGap rest)
    match Json.skipGap rest with
    | ':' :: rest =>
      let (v, rest) ← Json.value 0 (Json.skipGap rest)
      match Json.skipGap rest with
      | '\x7d' :: rest => if v.isNull then some (.str name, rest) else none
      | _ => none
    | _ => none
  | cs => Json.value 0 cs

/-- The notice of a JSON text. -/
def ofText? (text : String) : Option Notice := do
  let fields : List Json.Field := [⟨"level", readLevel⟩, .plain "message"]
  let entries ← Json.whole (Json.record fields) text
  let level ← Level.ofName? (← (← Entries.find? "level" entries).str?)
  let message ← (← Entries.find? "message" entries).str?
  some ⟨level, message⟩

end Notice

end ResidencePortal
