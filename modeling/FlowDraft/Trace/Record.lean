import FlowDraft.Model.Service

/-!
# `FlowDraft.Trace.Record`: the trace of a request

A `Record` is a `TraceRecord`, and `milliseconds` is what a `Timer` measures.
-/

set_option autoImplicit false

namespace FlowDraft.Trace

/-- What is kept of a request that was answered. The time of day at which it was answered is left
out: it is kept and shown like the rest, but nothing is decided by it. -/
structure Record where
  id : String
  prompt : String
  summary : Letters
  exampleTitles : List String
  attempts : List Model.Attempt
  inputTokens : Int
  outputTokens : Int
  latency : Float
  degraded : Bool

instance : Inhabited Record := ⟨⟨"", "", [], [], [], 0, 0, 0.0, false⟩⟩

/-- The milliseconds between two readings of a clock in seconds. -/
def milliseconds (start stop : Float) : Float :=
  (stop - start) * 1000.0

end FlowDraft.Trace
