import FlowDraft.Text.Digit
import FlowDraft.Text.Search

/-!
# `FlowDraft.Seed.Arguments`: the arguments of the seeding command

The command knows three options: `--file` with the name of a file, `--in-memory`, and `--help`,
for which `-h` is short. A long name may be cut short as long as it is clear which one is meant,
and a value may be attached to it by an equals sign. Nothing else may be given.

A name that is cut too short is a mistake wherever it stands. Otherwise the first help or mistake in
the order of the arguments decides, and arguments that belong nowhere count as a mistake at the end.

They are the arguments of `main` in the seeding command.
-/

set_option autoImplicit false

namespace FlowDraft.Seed

/-- Where the samples come from. -/
inductive Origin where
  /-- They are bundled with the command. -/
  | bundled
  | file (name : String)
  /-- A file without a name. -/
  | nameless
deriving Repr, DecidableEq, Inhabited

/-- What the command is to do. -/
structure Order where
  origin : Origin := .bundled
  /-- The samples go into memory only. -/
  inMemory : Bool := false
deriving Repr, DecidableEq, Inhabited

/-- The name of the file that is to be read. -/
def Order.fileName? (order : Order) : Option String :=
  match order.origin with
  | .file name => some name
  | _ => none

/-- Why the command does nothing. -/
inductive Refusal where
  /-- It was asked for help. -/
  | help
  /-- It was not asked for properly. -/
  | usage
deriving Repr, DecidableEq

/-- The options. -/
inductive Switch where
  | help
  | file
  | inMemory
deriving Repr, DecidableEq

/-- An argument. -/
inductive Argument where
  /-- An option, with the value that is attached to it. -/
  | switch (s : Switch) (attached : Option (List Char))
  /-- A name that is cut too short. -/
  | ambiguous
  /-- A name that stands for no option. -/
  | unknown
  /-- No option at all. -/
  | plain (text : List Char)
  /-- The mark behind which there are no options. -/
  | separator
deriving Repr, DecidableEq

/-- The long names of the options. -/
def longNames : List (List Char × Switch) :=
  [("--help".toList, .help), ("--file".toList, .file), ("--in-memory".toList, .inMemory)]

/-- The mark behind which there are no options. -/
def separatorText : List Char := "--".toList

namespace Argument

/-- The name before the first equals sign, and the value behind it. -/
def cutValue (cs : List Char) : List Char × Option (List Char) :=
  match Text.cutAt ['='] cs with
  | some (name, value) => (name, some value)
  | none => (cs, none)

/-- What a long name stands for. One that is cut short stands for the only option that starts with
it. -/
def long? (cs : List Char) : Option Argument :=
  let (name, value) := cutValue cs
  match longNames.filter fun entry => name.isPrefixOf entry.1 with
  | [] => none
  | [(_, s)] => some (.switch s value)
  | _ => some .ambiguous

/-- The option that a short name stands for. Only help has one. It may be repeated, and the first
repetition may stand behind an equals sign. -/
def short? : List Char → Option Argument
  | '-' :: 'h' :: more =>
    let repeated := match more with
      | '=' :: again => !again.isEmpty && again.all (· == 'h')
      | _ => more.all (· == 'h')
    some (.switch .help (if repeated then none else some more))
  | _ => none

/-- A digit of any script. -/
def isDigit (c : Char) : Bool :=
  (Text.digitValue? c).isSome

/-- The text is a negative number, perhaps with a point. A line feed may stand behind it. -/
def isNegativeNumber (cs : List Char) : Bool :=
  match (if cs.getLast? = some '\n' then cs.dropLast else cs) with
  | '-' :: body =>
    match Text.cutAt ['.'] body with
    | none => !body.isEmpty && body.all isDigit
    | some (whole, fraction) => whole.all isDigit && !fraction.isEmpty && fraction.all isDigit
  | _ => false

/-- What an argument is that starts with a minus. -/
def ofDashed (cs : List Char) : Argument :=
  let named := if ['-', '-'].isPrefixOf cs then long? cs else short? cs
  named.getD (if isNegativeNumber cs || cs.contains ' ' then .plain cs else .unknown)

/-- What an argument is in front of the separator. -/
def ofText (cs : List Char) : Argument :=
  match cs with
  | '-' :: _ :: _ => ofDashed cs
  | _ => .plain cs

/-- What the arguments are. Behind the separator none of them is an option. -/
def ofTexts : List (List Char) → List Argument
  | [] => []
  | cs :: rest =>
    if cs = separatorText then .separator :: rest.map .plain else ofText cs :: ofTexts rest

end Argument

/-- The origin that a name attached to the option stands for. The separator is no name. -/
def attachedOrigin (name : List Char) : Origin :=
  if name = separatorText then .nameless else .file (String.ofList name)

/-- What arguments ask for, on top of an order. The flag says whether one of those before belongs
nowhere. -/
def orderOf (order : Order) (stray : Bool) : List Argument → Except Refusal Order
  | [] => if stray then .error .usage else .ok order
  | .switch .help none :: _ => .error .help
  | .switch .inMemory none :: rest => orderOf { order with inMemory := true } stray rest
  | .switch .file (some name) :: rest =>
    orderOf { order with origin := attachedOrigin name } stray rest
  -- The value of an option that has none attached is the next argument.
  | .switch .file none :: .plain name :: rest =>
    orderOf { order with origin := .file (String.ofList name) } stray rest
  | .switch _ _ :: _ => .error .usage
  | .ambiguous :: _ => .error .usage
  -- The separator belongs nowhere itself, and no option follows it.
  | .separator :: _ => .error .usage
  | .unknown :: rest => orderOf order true rest
  | .plain _ :: rest => orderOf order true rest

/-- What the command is asked for. -/
def readArguments (arguments : List String) : Except Refusal Order :=
  let read := Argument.ofTexts (arguments.map String.toList)
  if read.contains .ambiguous then .error .usage else orderOf {} false read

end FlowDraft.Seed
