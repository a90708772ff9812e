import ResidencePortal.Cli.Arguments

/-!
# Commands

The commands of the portal and how they are written. The output format can be chosen in front of the
command or behind it; the choice behind it counts.
-/

namespace ResidencePortal.Cli

/-- How results are printed (`Format`). -/
inductive Format where
  | table
  | json
deriving Repr, DecidableEq

/-- What to do (`Commands`). -/
inductive Command where
  /-- Run the portal, perhaps with another address and another backend. -/
  | serve (bind apiBase : Option String)
  /-- Show what a role text means. -/
  | role (raw : String)
  /-- Show whether a role may open a page; without a list the page's own is taken. -/
  | access (role : String) (allow : List String) (page : Option String)
  /-- List the built-in pages. -/
  | pages
deriving Repr, DecidableEq

/-- A command and its format (`Cli`). -/
structure Invocation where
  format : Format
  command : Command
deriving Repr, DecidableEq

/-- The format with a name. -/
def Format.ofName? (name : String) : Option Format :=
  if name = "table" then some .table else if name = "json" then some .json else none

/-- An option that takes any value. -/
def Flag.ofName (long : String) (short : Option Char) (repeatable : Bool) : Flag :=
  ⟨long, short, repeatable, fun _ => true⟩

/-- The option for the format. -/
def formatFlag : Flag := ⟨"format", some 'f', false, fun v => (Format.ofName? v).isSome⟩

/-- The level in front of the command. -/
def outerLevel : Level := ⟨[formatFlag], true, true⟩

/-- The level behind a command. -/
def innerLevel (flags : List Flag) : Level := ⟨formatFlag :: flags, false, false⟩

/-- The arguments behind a command, with a given number of words. -/
def readInner (flags : List Flag) (words : Nat) (args : List String) : Except Stop Found := do
  let (found, _) ← (innerLevel flags).read args
  if found.words.length = words then .ok found else .error .usage

/-- The command with a name, from the arguments behind it. -/
def readCommand (name : String) (args : List String) : Except Stop (Found × Command) :=
  if name = "serve" then do
    let found ← readInner [.ofName "bind" (some 'b') false, .ofName "api-base" none false] 0 args
    return (found, .serve (found.value? "bind") (found.value? "api-base"))
  else if name = "role" then do
    let found ← readInner [] 1 args
    return (found, .role (found.words.headD ""))
  else if name = "access" then do
    let flags := [Flag.ofName "role" (some 'r') false, Flag.ofName "allow" (some 'a') true,
      Flag.ofName "page" (some 'p') false]
    let found ← readInner flags 0 args
    match found.value? "role" with
    | some role => return (found, .access role (found.all "allow") (found.value? "page"))
    | none => .error .usage
  else if name = "pages" then do
    let found ← readInner [] 0 args
    return (found, .pages)
  else .error .usage

/-- The format that was chosen, the inner choice first. -/
def chosenFormat (outer inner : Found) : Format :=
  (((inner.value? "format").orElse fun _ => outer.value? "format").bind Format.ofName?).getD .table

/-- The command of a command line. -/
def parse (args : List String) : Except Stop Invocation := do
  let (outer, rest) ← outerLevel.read args
  match outer.words with
  | [name] =>
    let (inner, command) ← readCommand name rest
    return ⟨chosenFormat outer inner, command⟩
  | _ => .error .usage

end ResidencePortal.Cli
