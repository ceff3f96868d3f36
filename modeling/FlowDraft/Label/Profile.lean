import FlowDraft.Json.Basic
import FlowDraft.Label.Keywords
import FlowDraft.Label.Set
import FlowDraft.Text.Lower
import FlowDraft.Text.Search

/-!
# `FlowDraft.Label.Profile`: what a text is about

A profile holds the industries, domains and channels of a text and what sets its workflow off.
Reference workflows are profiled when they are indexed and requests when they come in, by the same
function `classify`, so that overlaps compare like with like. `Profile.toJson` and
`Profile.ofJson?` store a profile beside an indexed workflow and read it back.

A `Profile` is an `InferredMetadata`, and `toJson`, `ofJson?` and `isEmpty` are its `to_payload`,
`from_payload` and `is_empty`.
-/

set_option autoImplicit false

namespace FlowDraft

/-- Labels of a text in three categories, and its trigger. -/
structure Profile where
  industries : LabelSet
  domains : LabelSet
  channels : LabelSet
  trigger : Option String
deriving DecidableEq

namespace Profile

/-- The profile without labels. -/
def empty : Profile := ⟨.empty, .empty, .empty, none⟩

instance : Inhabited Profile := ⟨empty⟩

/-- The trigger, unless it is the empty text. -/
def trigger? (p : Profile) : Option String :=
  p.trigger.filter fun t => !t.isEmpty

/-- The profile has no labels and no trigger. -/
def isEmpty (p : Profile) : Bool :=
  p.industries.isEmpty && p.domains.isEmpty && p.channels.isEmpty && p.trigger?.isNone

/-- The stored form: three increasing lists, and the trigger if there is one. -/
def toJson (p : Profile) : Json :=
  .obj ([("industries", .ofTexts p.industries.toList), ("domains", .ofTexts p.domains.toList),
    ("channels", .ofTexts p.channels.toList)] ++
    match p.trigger? with
    | some t => [("trigger", .str t)]
    | none => [])

/-- The labels among the items of a list: the texts that are not empty. -/
def labelsOf (v : Json) : LabelSet :=
  .ofList ((v.items?.getD []).filterMap Json.nonEmptyText?)

/-- A stored profile. What is not of the expected kind in it is passed over, and a value that is
no object holds no profile. -/
def ofJson? : Json → Option Profile
  | .obj fields =>
    let v := Json.obj fields
    some {
      industries := labelsOf (v.field "industries")
      domains := labelsOf (v.field "domains")
      channels := labelsOf (v.field "channels")
      trigger := (v.field "trigger").nonEmptyText? }
  | _ => none

end Profile

namespace Label

/-- One of the keywords stands in the text. -/
def matched (keywords : List String) (lowered : List Char) : Bool :=
  keywords.any fun k => Text.occursIn k.toList lowered

/-- Every label of the table with a keyword in the text. -/
def matching (table : KeywordTable) (lowered : List Char) : LabelSet :=
  .ofList ((table.filter fun row => matched row.2 lowered).map (·.1))

/-- The first label of the table with a keyword in the text. -/
def firstMatching? (table : KeywordTable) (lowered : List Char) : Option String :=
  (table.find? fun row => matched row.2 lowered).map (·.1)

end Label

/-- The profile of a text: every industry, domain and channel with a keyword in it, and the first
such trigger. -/
def classify (text : String) : Profile :=
  let lowered := Text.lowerChars text.toList
  { industries := Label.matching Label.industryKeywords lowered
    domains := Label.matching Label.domainKeywords lowered
    channels := Label.matching Label.channelKeywords lowered
    trigger := Label.firstMatching? Label.triggerKeywords lowered }

end FlowDraft
