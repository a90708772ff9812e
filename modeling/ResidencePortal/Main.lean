import ResidencePortal.Cli.Report

/-!
# The command line

Runs the command line of the portal with the environment of the process.

In this library a name in parentheses at the end of a docstring is the one by which the portal itself knows
what is defined there, or what that is a part of.
-/

namespace ResidencePortal

/-- The variables that the portal reads. -/
def environmentNames : List String :=
  ["ENVIRONMENT", "SESSION_SECRET", "RUST_LOG", "SESSION_TIMEOUT", "BLUEMOON_API_BASE",
    "BLUEMOON_API_TIMEOUT", "BLUEMOON_LOGIN_PATH", "BLUEMOON_HOME_PATH", "BLUEMOON_BIND"]

/-- The environment of the process, as far as the portal reads it. -/
def readEnvironment : IO (List (String × String)) :=
  environmentNames.filterMapM fun name => do
    return (← IO.getEnv name).map fun value => (name, value)

end ResidencePortal

open ResidencePortal in
def main (args : List String) : IO UInt32 := do
  let env ← readEnvironment
  let outcome := Cli.run args fun name => Entries.find? name env
  IO.print outcome.stdout
  if let some text := outcome.error then
    IO.eprint text
  return outcome.exit.toUInt32
