import FlowDraft.Json.Basic
import FlowDraft.Text.Lower
import FlowDraft.Text.Quoted
import FlowDraft.Text.Search

/-!
# `FlowDraft.Fault`: failures of models and stores

A fault is what a model or a store reports when it fails. It has a kind, a message and perhaps
status values that came with it. Some faults say that a service has too much to do for the moment;
those are worth another try.

`Fault.isOverload` is `is_overload_error`.
-/

set_option autoImplicit false

namespace FlowDraft

/-- What kind of failure it was. -/
inductive FaultKind where
  | runtime
  | value
  /-- Something was not found by its name. -/
  | missing
  | connection
  | timeout
  /-- A failure of no particular kind. -/
  | other
deriving DecidableEq, Repr

/-- A failure of a model or a store. -/
structure Fault where
  kind : FaultKind
  message : String
  /-- The status values that came with it, in the order in which they count. -/
  statuses : List Json := []

namespace Fault

/-- The text of a fault. A name that was not found stands between quotes. -/
def text (f : Fault) : String :=
  match f.kind with
  | .missing => Text.quoted f.message
  | _ => f.message

/-- The status numbers of a service with too much to do. -/
def busyStatuses : List Int := [429, 503]

/-- What a service with too much to do says, in small letters. -/
def busyMarkers : List String :=
  ["overloaded", "service unavailable", "resource exhausted", "rate limit"]

/-- The fault says that a service has too much to do: by one of its status numbers, or by its
text. Only whole numbers count as status numbers. -/
def isOverload (f : Fault) : Bool :=
  (f.statuses.filterMap Json.int?).any busyStatuses.contains ||
    busyMarkers.any (Text.contains (Text.lower f.text))

end Fault

end FlowDraft
