import ResidencePortal.Json.Printer

/-!
# Templates

A template is text with slots that are filled from a context of named JSON values, with parts that
depend on a test and parts that are repeated for the items of a list. Evaluation gives nothing if a
slot names a value that is not there.

* Texts are escaped in slots (`escape`), so that they cannot open a tag or leave an attribute. Only
  `Slot.encoded` writes a value unescaped, as JSON for a script.
* A template is nested to the right: each constructor ends with what follows it, so that a property of
  all templates is one induction. `Template.ofParts` lines parts up.
-/

namespace ResidencePortal.Html

open Text

/-! ## Values as text -/

/-- A character inside text or an attribute. -/
def escapeChar (c : Char) : List Char :=
  if c = '&' then "&amp;".toList
  else if c = '<' then "&lt;".toList
  else if c = '>' then "&gt;".toList
  else if c = '"' then "&quot;".toList
  else if c = '\'' then "&#x27;".toList
  else if c = '/' then "&#x2F;".toList
  else [c]

/-- A text for use inside text or an attribute. -/
def escape (s : String) : String := String.ofList (s.toList.flatMap escapeChar)

mutual

/-- A value as plain text; null is nothing, and objects are not opened. -/
def plainText : Json → String
  | .null => ""
  | .bool true => "true"
  | .bool false => "false"
  | .num n => n.plain
  | .str s => s
  | .arr [] => "[]"
  | .arr (v :: rest) => "[" ++ plainText v ++ moreText rest
  | .obj _ => "[object]"

/-- The items after the first, and the closing bracket. -/
def moreText : List Json → String
  | [] => "]"
  | v :: rest => ", " ++ plainText v ++ moreText rest

end

/-- A value in a slot: texts are escaped. -/
def slotText : Json → String
  | .str s => escape s
  | v => plainText v

/-- The value counts as true: it is not null, false, zero or empty. -/
def isTruthy : Json → Bool
  | .null => false
  | .bool b => b
  | .num n => !n.isZero
  | .str s => !s.isEmpty
  | .arr items => !items.isEmpty
  | .obj members => !members.isEmpty

/-! ## Contexts -/

/-- Named values; earlier ones stand before later ones of the same name. -/
abbrev Context : Type := List (String × Json)

/-- The member that a path of keys leads to. -/
def member? (v : Json) : List String → Option Json
  | [] => some v
  | key :: rest => (v.get? key).bind fun v => member? v rest

/-- The value that a path leads to: from a name of the context by keys of objects. The first value of
that name in which the keys lead anywhere counts. -/
def Context.find? (ctx : Context) : List String → Option Json
  | [] => none
  | name :: keys => ctx.findSome? fun e => if e.1 = name then member? e.2 keys else none

/-! ## Templates -/

/-- A place for a value. -/
inductive Slot where
  /-- The value. -/
  | value (path : List String)
  /-- The value, or a text if it is missing or null. -/
  | valueOr (path : List String) (fallback : String)
  /-- The value as JSON, not escaped. -/
  | encoded (path : List String)

/-- What a slot writes. -/
def Slot.fill (ctx : Context) : Slot → Option String
  | .value path => (ctx.find? path).map slotText
  | .valueOr path fallback =>
    match ctx.find? path with
    | none => some (escape fallback)
    | some .null => some (escape fallback)
    | some v => some (slotText v)
  | .encoded path => (ctx.find? path).map Json.compact

/-- A test on a context. -/
inductive Test where
  /-- The value is there and counts as true. -/
  | holds (path : List String)
  /-- The text is an item of the list, a part of the text or a key of the object. -/
  | among (word : String) (path : List String)

/-- The result of a test; membership needs a value that can have members. -/
def Test.check (ctx : Context) : Test → Option Bool
  | .holds path => some ((ctx.find? path).any isTruthy)
  | .among word path =>
    match ctx.find? path with
    | some (.arr items) => some (items.any fun v => v.str? == some word)
    | some (.str s) => some (contains s word)
    | some (.obj members) => some (Entries.find? word members).isSome
    | _ => none

/-- The items over which a value is repeated: of a list, or the characters of a text. -/
def itemsOf? : Json → Option (List Json)
  | .arr items => some items
  | .str s => some (s.toList.map fun c => .str (String.singleton c))
  | _ => none

/-- Text with slots, choices and repetitions. -/
inductive Template where
  | done
  | text (s : String) (rest : Template)
  | slot (s : Slot) (rest : Template)
  | choose (test : Test) (yes no : Template) (rest : Template)
  | forEach (name : String) (list : List String) (body : Template) (rest : Template)

namespace Template

/-- Texts one after the other, if all are there. -/
def joinAll : List (Option String) → Option String
  | [] => some ""
  | s :: rest => do
    let s ← s
    let more ← joinAll rest
    some (s ++ more)

/-- The text of a template in a context. -/
def eval (ctx : Context) : Template → Option String
  | done => some ""
  | text s rest => do
    let more ← eval ctx rest
    some (s ++ more)
  | slot s rest => do
    let here ← s.fill ctx
    let more ← eval ctx rest
    some (here ++ more)
  | choose test yes no rest => do
    let here ← if ← test.check ctx then eval ctx yes else eval ctx no
    let more ← eval ctx rest
    some (here ++ more)
  | forEach name list body rest => do
    let items ← itemsOf? (← ctx.find? list)
    let here ← joinAll (items.map fun item => eval ((name, item) :: ctx) body)
    let more ← eval ctx rest
    some (here ++ more)

/-- One template and then another. -/
def append : Template → Template → Template
  | done, u => u
  | text s rest, u => text s (append rest u)
  | slot s rest, u => slot s (append rest u)
  | choose test yes no rest, u => choose test yes no (append rest u)
  | forEach name list body rest, u => forEach name list body (append rest u)

/-- Templates in a row write their texts in a row. -/
theorem eval_append (ctx : Context) (t u : Template) :
    (t.append u).eval ctx = (t.eval ctx).bind fun a => (u.eval ctx).map (a ++ ·) := by
  induction t with
  | done => cases h : u.eval ctx <;> simp [append, eval, h]
  | text s rest ih =>
    simp only [append, eval, ih]
    cases rest.eval ctx <;> cases u.eval ctx <;> simp [String.append_assoc]
  | slot s rest ih =>
    simp only [append, eval, ih]
    cases rest.eval ctx <;> cases u.eval ctx <;> simp [String.append_assoc, Option.bind_assoc]
  | choose test yes no rest _ _ ih =>
    simp only [append, eval, ih]
    cases test.check ctx with
    | none => rfl
    | some b =>
      cases b <;> cases rest.eval ctx <;> cases u.eval ctx <;>
        simp [String.append_assoc, Option.bind_assoc]
  | forEach name list body rest _ ih =>
    simp only [append, eval, ih]
    cases rest.eval ctx <;> cases u.eval ctx <;> simp [String.append_assoc, Option.bind_assoc]

/-- The template of parts in a row. -/
def ofParts (parts : List (Template → Template)) : Template := parts.foldr (fun part rest => part rest) done

/-- Lines of text, with line breaks between them. -/
def lines (ls : List String) : Template → Template := text (joinWith "\n" ls)

/-- A slot for a value. -/
def put (path : List String) : Template → Template := slot (.value path)

end Template

end ResidencePortal.Html
