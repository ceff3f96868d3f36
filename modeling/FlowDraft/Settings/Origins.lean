import FlowDraft.Text.Blank
import FlowDraft.Text.Search

/-!
# `FlowDraft.Settings.Origins`: the origins that may call the service

Origins are listed with commas between them. White space around an origin and blank pieces are
dropped, and an empty list stands for every origin.

`splitOrigins` is `_split_origins`.
-/

set_option autoImplicit false

namespace FlowDraft.Settings

/-- The origin that stands for all of them. -/
def everyOrigin : String := "*"

/-- The pieces of a list that are not blank, without the white space around them. -/
def listedOrigins (cs : List Char) : List (List Char) :=
  ((Text.pieces ',' cs).map Text.trimChars).filter fun piece => !piece.isEmpty

/-- The origins in a list. -/
def splitOrigins (raw : String) : List String :=
  match listedOrigins raw.toList with
  | [] => [everyOrigin]
  | origins => origins.map String.ofList

end FlowDraft.Settings
