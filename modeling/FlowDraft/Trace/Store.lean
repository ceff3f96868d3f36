import FlowDraft.Slice
import FlowDraft.Trace.Record

/-!
# `FlowDraft.Trace.Store`: the traces that are kept

A store keeps the latest traces, up to its capacity, and gives each of them a new name.

`add`, `get?` and `recent` are `create_record`, `get` and `list_recent` of `TraceStore`.
-/

set_option autoImplicit false

namespace FlowDraft.Trace

/-- The traces that are kept, oldest first. -/
structure Store where
  capacity : Int := 1000
  records : List Record := []
  /-- The number of names that were given. -/
  named : Nat := 0

namespace Store

instance : Inhabited Store := ⟨{}⟩

/-- The latest records that fit. -/
def evict (capacity : Nat) (records : List Record) : List Record :=
  records.drop (records.length - capacity)

/-- The store with a new trace, named by `names`, and the trace. A store of negative capacity has
no room even for nothing: it loses all its traces, and there is no new one. -/
def add (names : Nat → String) (s : Store) (make : String → Record) : Store × Option Record :=
  let record := make (names s.named)
  if s.capacity < 0 then ({ s with records := [], named := s.named + 1 }, none)
  else
    ({ s with records := evict s.capacity.toNat (s.records ++ [record]), named := s.named + 1 },
      some record)

/-- The trace of that name. -/
def get? (s : Store) (id : String) : Option Record :=
  s.records.find? fun r => r.id == id

/-- What is reported for a name that no trace has. -/
def notFound (id : String) : String :=
  "Trace not found: " ++ id

/-- The latest traces, at most `limit` of them. Zero stands for all of them, and a negative limit
leaves out so many of the oldest ones. -/
def recent (s : Store) (limit : Int) : List Record :=
  Slice.after (-limit) s.records

/-- The limit when none is given. -/
def defaultLimit : Int := 20

end Store

end FlowDraft.Trace
