/-!
# `FlowDraft.Log`: lines of the log

A line of the log has a level and a text. The level from which on lines are shown is set by name,
in capital or small letters.

`LogSetup.configure` is `configure_logging`.
-/

set_option autoImplicit false

namespace FlowDraft

/-- How serious a line of the log is. -/
inductive LogLevel where
  | info
  | warning
  | error
deriving DecidableEq, Repr

/-- A line of the log. -/
structure LogLine where
  level : LogLevel
  text : String
deriving DecidableEq, Repr

namespace LogLevel

/-- The name of a level. -/
def name : LogLevel → String
  | info => "INFO"
  | warning => "WARNING"
  | error => "ERROR"

/-- How serious a level is, as a number. -/
def weight : LogLevel → Nat
  | info => 20
  | warning => 30
  | error => 40

/-- The thresholds that have a name. -/
def thresholds : List (String × Nat) :=
  [("CRITICAL", 50), ("FATAL", 50), ("ERROR", 40), ("WARN", 30), ("WARNING", 30), ("INFO", 20),
   ("DEBUG", 10), ("NOTSET", 0)]

/-- The threshold when none is named. -/
def standardThreshold : Nat := 20

/-- The capital of a letter that a threshold may be named with: the letters of ASCII, the small i
without a dot and the long s. -/
def capital (c : Char) : Char :=
  if c == '\u0131' then 'I' else if c == '\u017F' then 'S' else c.toUpper

/-- The threshold of that name. Any other name stands for the standard one. -/
def threshold (named : Option String) : Nat :=
  match named with
  | none => standardThreshold
  | some s =>
    (thresholds.lookup (String.ofList (s.toList.map capital))).getD standardThreshold

end LogLevel

/-- Whether the log of a process has been set up. It is set up once, and later names change
nothing. -/
structure LogSetup where
  threshold? : Option Nat := none

namespace LogSetup

/-- The variable that names the threshold. -/
def variableName : String := "LOG_LEVEL"

/-- The line is shown. -/
def shows (setup : LogSetup) (line : LogLine) : Bool :=
  setup.threshold?.getD LogLevel.standardThreshold ≤ line.level.weight

/-- The log set up by name, and the threshold if this was the first time. -/
def configure (setup : LogSetup) (named : Option String) : LogSetup × Option Nat :=
  match setup.threshold? with
  | some _ => (setup, none)
  | none => (⟨some (LogLevel.threshold named)⟩, some (LogLevel.threshold named))

end LogSetup

end FlowDraft
