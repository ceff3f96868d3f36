import FlowDraft.Sorting
import FlowDraft.Trace.Store

/-!
# `FlowDraft.Trace.Metrics`: figures over the traces that are kept

`ofRecords` is `TraceStore.summary`.
-/

set_option autoImplicit false

namespace FlowDraft.Trace

/-- Figures over traces. -/
structure Metrics where
  requests : Nat
  averageLatency : Float
  /-- The latency that most requests stay within. -/
  highLatency : Float
  degraded : Nat
  /-- The requests that more than one model was asked for. -/
  fallbacks : Nat
  inputTokens : Int
  outputTokens : Int

namespace Metrics

/-- The position of the high value among so many: ninety-five in a hundred, counted from zero. It is
computed exactly. In binary64, `count * 0.95 - 1` cut to a whole number is the same for every count
below about `2 ^ 49`, and no store keeps that many traces. -/
def highPosition (count : Nat) : Nat :=
  95 * count / 100 - 1

/-- The high value among values in rising order. Without values it is `none`. -/
def high? {α : Type} (rising : List α) : Option α :=
  rising[highPosition rising.length]?

/-- The comparison of latencies. -/
def latencyLe (a b : Float) : Bool := a ≤ b

/-- The different models of a trace. -/
def models (r : Record) : List String :=
  (r.attempts.map (·.model)).eraseDups

/-- The trace has tries at more than one model. -/
def fellBack (r : Record) : Bool :=
  1 < (models r).length

/-- The mean of latencies, summed in their order. Without latencies it is zero. -/
def mean (xs : List Float) : Float :=
  if xs.isEmpty then 0.0 else xs.foldl (· + ·) 0.0 / Float.ofNat xs.length

/-- The figures over traces. -/
def ofRecords (records : List Record) : Metrics :=
  let rising := sortRising latencyLe id (records.map (·.latency))
  { requests := records.length
    averageLatency := mean rising
    highLatency := (high? rising).getD 0.0
    degraded := records.countP (·.degraded)
    fallbacks := records.countP fellBack
    inputTokens := records.foldl (fun total r => total + r.inputTokens) 0
    outputTokens := records.foldl (fun total r => total + r.outputTokens) 0 }

end Metrics

namespace Store

/-- The figures over the traces of a store. -/
def metrics (s : Store) : Metrics :=
  .ofRecords s.records

end Store

end FlowDraft.Trace
