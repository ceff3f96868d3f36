import FlowDraft.Seed.Command

/-!
# `FlowDraft.Main`: the seeding command as a program

The program reads its arguments, the environment and the file that is named, and shows what the
command logs. It reaches no service that keeps a collection, so only a rehearsal in memory
succeeds.

The program is `main` of the seeding command.
-/

set_option autoImplicit false

namespace FlowDraft.Seed

/-- The variables that are set. -/
def readEnvironment : IO Environment :=
  Settings.variableNames.filterMapM fun name =>
    return (← IO.getEnv name).map fun value => (name, value)

/-- The text of a file, if it can be read. -/
def readContent (name : String) : IO (Option String) := do
  try
    return some (← IO.FS.readFile name)
  catch _ =>
    return none

/-- The text of the file that an order names. -/
def readOrdered : Except Refusal Order → IO (Option String)
  | .ok order => match order.fileName? with
    | some name => readContent name
    | none => pure none
  | .error _ => pure none

/-- What is shown when the command does nothing. -/
def Ending.remark? : Ending → Option String
  | .refused _ => some "usage: [-h] [--file FILE] [--in-memory]"
  | .misconfigured e => some (e.message?.getD "The settings are out of bounds.")
  | _ => none

end FlowDraft.Seed

open FlowDraft Seed in
/-- The seeding command. -/
def main (arguments : List String) : IO UInt32 := do
  let setup := (({} : LogSetup).configure (← IO.getEnv LogSetup.variableName)).1
  let content ← readOrdered (readArguments arguments)
  let outcome := Seed.run false (← readEnvironment) (fun _ => content) arguments
  for line in outcome.ending.lines.filter setup.shows do
    IO.eprintln (line.level.name ++ " " ++ line.text)
  for remark in outcome.ending.remark?.toList do
    IO.eprintln remark
  return outcome.ending.exitCode.toUInt32
