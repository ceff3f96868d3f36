/-!
# `FlowDraft.Workflow.ConditionId`: names for new conditions

A condition without a name of its own is given a new one. Names come from a supply: its `n`-th
name is a unique identifier, or eight letters drawn from an alphabet where the platform has no
source of unique identifiers.

`NameSource.name` is `make_condition_id`.
-/

set_option autoImplicit false

namespace FlowDraft.Workflow

/-- Where new names come from. -/
structure NameSource where
  /-- The `n`-th unique identifier, if the platform has any. -/
  unique? : Nat → Option String
  /-- The positions in the alphabet that the `n`-th draw picks. -/
  draw : Nat → List Nat

namespace NameSource

/-- The letters that names are drawn from. -/
def alphabet : List Char :=
  "abcdefghijklmnopqrstuvwxyz0123456789".toList

/-- The name that a draw gives. -/
def drawn (picks : List Nat) : String :=
  "cond-" ++ String.ofList (picks.filterMap fun i => alphabet[i % alphabet.length]?)

/-- The `n`-th name. -/
def name (source : NameSource) (n : Nat) : String :=
  (source.unique? n).getD (drawn (source.draw n))

end NameSource

end FlowDraft.Workflow
