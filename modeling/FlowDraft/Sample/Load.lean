import FlowDraft.Json.Reader
import FlowDraft.Sample.Basic
import FlowDraft.Text.Search

/-!
# `FlowDraft.Sample.Load`: reading samples

Samples are read from a list of objects. Fields that are void take defaults, and fields that are no
text are taken as the text that shows them. Tags are whatever the value of the tags gives when it is
gone through: the items of a list, the characters of a text, the names of an object.

`load` is `load_sample_workflows`.
-/

set_option autoImplicit false

namespace FlowDraft

/-- Why samples are not read. -/
inductive LoadError where
  /-- There is no such file. -/
  | missingFile
  /-- The path leads to a folder. -/
  | folder
  /-- A name in the path is too long. -/
  | longName
  /-- There is a zero character in the path. -/
  | zeroInPath
  /-- The text is no document. -/
  | unreadable (cause : Json.ReadError)
  /-- The document is no list, or an empty one. -/
  | noWorkflows (source : String)
  /-- An item of the list is no object. -/
  | notObject
  /-- The tags cannot be gone through. -/
  | tagsNotListed
deriving Repr

namespace LoadError

/-- What is reported, for the errors that have a text of their own. -/
def message? : LoadError → Option String
  | noWorkflows source => some ("No workflows found in " ++ source)
  | unreadable (.oversized digits) => some (Decimal.oversizedMessage digits)
  | zeroInPath => some "embedded null byte"
  | _ => none

/-- The most bytes that a name in a path may have. -/
def maxNameBytes : Nat := 255

/-- The names that a path goes through. -/
def namesOf (path : String) : List String :=
  ((Text.pieces '/' path.toList).map String.ofList).filter fun name => name != "" && name != "."

/-- Why nothing is read at a path that leads to no file. A path that names nothing leads to the
folder where it starts, or to one above. -/
def ofPath (path : String) : LoadError :=
  let names := namesOf path
  if path.toList.contains '\x00' then zeroInPath
  else if names.all (· == "..") then folder
  else if (names.head?.any fun name => decide (maxNameBytes < name.utf8ByteSize)) then longName
  else missingFile

end LoadError

namespace Sample

/-- The text that shows the first of the values that is not void. -/
def firstText? (values : List Json) : Option String :=
  (values.find? fun v => !v.isVoid).map Json.display

/-- The tags that a value gives. -/
def tagsOf (v : Json) : Except LoadError (List String) :=
  if v.isVoid then .ok []
  else
    match v with
    | .arr items => .ok (items.map Json.display)
    | .str s => .ok (s.toList.map String.singleton)
    | .obj fields => .ok (Fields.keys fields)
    | _ => .error .tagsNotListed

/-- The sample that the item at a position describes. -/
def ofJson (position : Nat) : Json → Except LoadError Sample
  | .obj fields =>
    let v := Json.obj fields
    let about := v.field "metadata"
    (tagsOf (v.field "tags")).map fun tags =>
      { id := (firstText? [v.field "id", v.field "title"]).getD ("sample-" ++ toString position)
        title := (firstText? [v.field "title"]).getD Example.untitled
        description := (firstText? [v.field "description"]).getD ""
        problem := (firstText? [v.field "problem"]).getD ""
        tags
        workflow := ((v.field "workflow").fields?).getD []
        complexity := firstText? [about.field "complexity"]
        integrations := ((about.field "integrations").items?.getD []).map Json.display }
  | _ => .error .notObject

/-- The samples that items describe, from a position on. The first item that describes none is
reported. -/
def listOfJson : (position : Nat) → List Json → Except LoadError (List Sample)
  | _, [] => .ok []
  | position, v :: vs => do
    let s ← ofJson position v
    let rest ← listOfJson (position + 1) vs
    pure (s :: rest)

/-- The samples in a document. -/
def ofDocument (source : String) : Json → Except LoadError (List Sample)
  | .arr (v :: vs) => listOfJson 0 (v :: vs)
  | _ => .error (.noWorkflows source)

/-- The samples in a text. -/
def load (source text : String) : Except LoadError (List Sample) :=
  match Json.read text with
  | .error cause => .error (.unreadable cause)
  | .ok v => ofDocument source v

end Sample

end FlowDraft
