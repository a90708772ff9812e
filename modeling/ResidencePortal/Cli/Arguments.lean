import ResidencePortal.Text.Chars

/-!
# Command line arguments

Options and words, taken one after the other. A long option is written `--name value` or
`--name=value`, a short one `-n value`, `-nvalue` or `-n=value`. A value that is an argument of its own
does not start with a dash, unless it is the dash alone. After `--` everything is a word.
-/

namespace ResidencePortal.Cli

open Text

/-- An option with a value. -/
structure Flag where
  long : String
  short : Option Char
  /-- It may be given more than once. -/
  repeatable : Bool
  /-- The values it takes. -/
  accepts : String → Bool

/-- Why reading arguments stops without a command. -/
inductive Stop where
  /-- The arguments cannot be understood. -/
  | usage
  /-- The version was asked for. -/
  | version
deriving Repr, DecidableEq

/-- What the arguments gave so far. -/
structure Found where
  /-- Options and their values, in order. -/
  values : List (String × String)
  words : List String
deriving Repr, DecidableEq

namespace Found

/-- Nothing. -/
def empty : Found := ⟨[], []⟩

/-- The values of an option, in order. -/
def all (f : Found) (long : String) : List String :=
  (f.values.filter fun v => v.1 = long).map Prod.snd

/-- The value of an option. -/
def value? (f : Found) (long : String) : Option String := (f.all long).head?

/-- One more value of an option, if the option takes it. -/
def add (f : Found) (flag : Flag) (value : String) : Except Stop Found :=
  if !flag.accepts value || (!flag.repeatable && (f.value? flag.long).isSome) then .error .usage
  else .ok { f with values := f.values ++ [(flag.long, value)] }

end Found

/-- What an argument is. -/
inductive Argument where
  | divider
  | long (name : String) (value : Option String)
  | short (name : Char) (attached : List Char)
  | word (text : String)
deriving Repr, DecidableEq

/-- Sorts an argument. -/
def Argument.ofText (text : String) : Argument :=
  match text.toList with
  | ['-', '-'] => .divider
  | '-' :: '-' :: rest =>
    let (name, value) := cut '=' rest
    .long (String.ofList name) (value.map String.ofList)
  | '-' :: name :: attached => .short name attached
  | _ => .word text

/-- The value attached to a short option, without the equals sign in front of it. -/
def attachedValue : List Char → Option String
  | [] => none
  | '=' :: rest => some (String.ofList rest)
  | cs => some (String.ofList cs)

/-- A level of the command line. -/
structure Level where
  flags : List Flag
  /-- The version can be asked for. -/
  hasVersion : Bool
  /-- The first word ends the level. -/
  endsAtWord : Bool

/-- The state between two arguments. -/
structure Reading where
  found : Found
  /-- The option that waits for its value. -/
  waiting : Option Flag
  /-- Only words follow. -/
  divided : Bool

/-- An option with its value attached, or waiting for it. -/
def Level.option (r : Reading) (flag : Option Flag) (value : Option String) : Except Stop Reading :=
  match flag, value with
  | none, _ => .error .usage
  | some flag, none => .ok { r with waiting := some flag }
  | some flag, some value => (r.found.add flag value).map fun f => { r with found := f }

/-- Takes one argument. -/
def Level.take (level : Level) (r : Reading) (text : String) : Except Stop Reading :=
  if r.divided then .ok { r with found := { r.found with words := r.found.words ++ [text] } }
  else
    match r.waiting, Argument.ofText text with
    | some flag, .word value => (r.found.add flag value).map fun f => { r with found := f, waiting := none }
    | some _, _ => .error .usage
    | none, .divider => .ok { r with divided := true }
    | none, .long name value =>
      if level.hasVersion && name = "version" then
        .error (if value.isSome then .usage else .version)
      else Level.option r (level.flags.find? fun f => f.long = name) value
    | none, .short name attached =>
      if level.hasVersion && name = 'V' then .error .version
      else Level.option r (level.flags.find? fun f => f.short = some name) (attachedValue attached)
    | none, .word word => .ok { r with found := { r.found with words := r.found.words ++ [word] } }

/-- Takes the arguments of a level; what is left if a word ended it. -/
def Level.readFrom (level : Level) (r : Reading) : List String → Except Stop (Found × List String)
  | [] => if r.waiting.isSome then .error .usage else .ok (r.found, [])
  | text :: rest => do
    let next ← level.take r text
    if level.endsAtWord && !next.found.words.isEmpty then
      if next.divided then .error .usage else return (next.found, rest)
    else level.readFrom next rest

/-- Takes the arguments of a level from the start. -/
def Level.read (level : Level) (args : List String) : Except Stop (Found × List String) :=
  level.readFrom ⟨.empty, none, false⟩ args

end ResidencePortal.Cli
