import FlowDraft.Http.Site
import FlowDraft.Http.Target
import FlowDraft.Json.Position
import FlowDraft.Settings.WholeText
import FlowDraft.Text.Blank
import FlowDraft.Text.Lower

/-!
# `FlowDraft.Http.Request`: requests and what is wrong with them

A plain framework checks a request before it calls the site. Everything that is wrong with it is a
complaint, which tells the place and the kind of the fault.
-/

set_option autoImplicit false

namespace FlowDraft.Http

/-- A request. -/
structure Request where
  method : String
  target : Target
  /-- The kind of content that the body is said to have, empty if nothing is said. -/
  contentType : String := ""
  body : String := ""

/-- What a part of a request is, or is not. -/
inductive Flaw where
  /-- It is not there. -/
  | missing
  /-- It is no document. -/
  | notDocument
  /-- It is no object. -/
  | notObject
  /-- It is no text. -/
  | notText
  /-- It is neither an object nor null. -/
  | notFields
  /-- It is a text that denotes no whole number. -/
  | notWhole
  /-- It is a whole number with too many digits. -/
  | oversizedWhole
deriving Repr, DecidableEq

/-- The name of a flaw in a response. -/
def Flaw.name : Flaw → String
  | missing => "missing"
  | notDocument => "json_invalid"
  | notObject => "model_attributes_type"
  | notText => "string_type"
  | notFields => "dict_type"
  | notWhole => "int_parsing"
  | oversizedWhole => "int_parsing_size"

/-- A flaw and where it is. -/
structure Complaint where
  place : List String
  flaw : Flaw
deriving Repr, DecidableEq

/-- What the body of a request holds. -/
inductive Content where
  /-- Nothing. -/
  | absent
  | document (v : Json)
  /-- Something that is not meant to be a document. -/
  | foreign

/-- Why a body is not read. -/
inductive ContentError where
  /-- It stops being a document at a position. -/
  | malformed (position : Nat)
  /-- Its bytes are no text, or the document is beyond the limits of what is read. -/
  | unreadable

/-- Why a request cannot be sent. -/
inductive SendError where
  | target (e : TargetError)
  /-- The kind of content is not written in ASCII. -/
  | kindNotAscii
deriving Repr, DecidableEq

namespace Request

/-- The capitals of a letter, as far as they are of ASCII. Besides the small letters of ASCII there
are four others with such capitals. -/
def capitals (c : Char) : List Char :=
  if c == '\u0131' then ['I']
  else if c == '\u017F' then ['S']
  else if c == '\uFB05' || c == '\uFB06' then ['S', 'T']
  else [c.toUpper]

/-- The method that a name stands for, in small or capital letters. -/
def methodOf (name : String) : String :=
  String.ofList (name.toList.flatMap capitals)

/-- The request that is sent to a reference, with named values that replace its query if there are
some. -/
def compose (method reference : String) (values : Option (List (String × String)))
    (contentType body : String) : Except SendError Request := do
  let target ← (Target.ofReference reference).mapError .target
  if contentType.toList.any fun c => 0x7F < c.toNat then throw .kindNotAscii
  let target ← match values with
    | some values => (target.withValues values).mapError .target
    | none => pure target
  pure ⟨methodOf method, target, contentType, body⟩

/-- The kind and subkind of content that a header names. -/
def mediaType (header : String) : List Char × List Char :=
  let named := ((Text.cutAt [';'] header.toList).getD (header.toList, [])).1
  match Text.pieces '/' (Text.lowerChars (Text.trimChars named)) with
  | [kind, subkind] => (kind, subkind)
  | _ => ("text".toList, "plain".toList)

/-- The body is meant to be a document. -/
def carriesDocument (r : Request) : Bool :=
  let (kind, subkind) := mediaType r.contentType
  kind == "application".toList &&
    (subkind == "json".toList || "+json".toList.isSuffixOf subkind)

/-- The text of the body, without the byte order mark that may stand in front of it. A body whose
first bytes look like another form than UTF-8 is read in that form. -/
def bodyText? (r : Request) : Option String :=
  let cs := r.body.toList
  match Text.Bytes.guess (Text.Bytes.ofChars cs) with
  | .utf8 =>
    match cs with
    | '\uFEFF' :: rest => some (String.ofList rest)
    | _ => some r.body
  | form => (Text.Bytes.decode? form (Text.Bytes.ofChars cs)).map String.ofList

/-- What the body holds. -/
def content (r : Request) : Except ContentError Content :=
  if r.body.isEmpty then .ok .absent
  else if !r.carriesDocument then .ok .foreign
  else
    match r.bodyText? with
    | none => .error .unreadable
    | some text =>
      match Json.read text with
      | .ok v => .ok (.document v)
      | .error .malformed => .error (.malformed (Json.breakPosition text))
      | .error _ => .error .unreadable

/-- The flaw of a text that should denote a whole number. -/
def wholeFlaw : Settings.Problem → Flaw
  | .oversizedWhole => .oversizedWhole
  | _ => .notWhole

/-- The whole number that the query names, or a default. -/
def whole (r : Request) (name : String) (default : Int) : Except (List Complaint) Int :=
  match r.target.value? name with
  | none => .ok default
  | some entered =>
    (Settings.WholeText.read entered).mapError fun problem =>
      [⟨["query", name], wholeFlaw problem⟩]

end Request

namespace DraftOrder

/-- The names of the field for the workflow that is being edited. The first one wins. -/
def existingNames : List String := ["existingWorkflow", "existing_workflow"]

/-- The prompt, or what is wrong with it. A missing one is empty. -/
def checkPrompt (v : Json) : Except (List Complaint) String :=
  match v.field? "prompt" with
  | none => .ok ""
  | some (.str s) => .ok s
  | some _ => .error [⟨["body", "prompt"], .notText⟩]

/-- The workflow that is being edited, or what is wrong with it. -/
def checkExisting (v : Json) : Except (List Complaint) Json :=
  match existingNames.find? fun name => (v.field? name).isSome with
  | none => .ok .null
  | some name =>
    match v.field name with
    | .null => .ok .null
    | .obj fields => .ok (.obj fields)
    | _ => .error [⟨["body", name], .notFields⟩]

/-- What the fields of a document ask for. The complaints about all of them are reported
together. -/
def ofFields (v : Json) : Except (List Complaint) DraftOrder :=
  match checkPrompt v, checkExisting v with
  | .ok prompt, .ok existing => .ok ⟨prompt, existing⟩
  | .error a, .error b => .error (a ++ b)
  | .error a, .ok _ => .error a
  | .ok _, .error b => .error b

/-- What the content of a body asks for. -/
def ofContent : Content → Except (List Complaint) DraftOrder
  | .absent => .error [⟨["body"], .missing⟩]
  | .document (.obj fields) => ofFields (.obj fields)
  | .document _ | .foreign => .error [⟨["body"], .notObject⟩]

end DraftOrder

end FlowDraft.Http
