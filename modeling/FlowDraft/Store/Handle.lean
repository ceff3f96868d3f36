import FlowDraft.Fault

/-!
# `FlowDraft.Store.Handle`: the store that a process shares

A process keeps one store for everyone who asks. It is built when it is first asked for. A build
takes time, and whoever asks meanwhile begins a build as well; the last one to be completed stays.
A build that fails leaves nothing behind, so the next one who asks begins another.

`Handle.step?` says which events can happen and what they leave. What a single caller does, when
nothing comes between, is `Handle.get`.

* `step?_failed_current`: a build that fails leaves the store as it is.

`get` is `get_example_store`, and the event `put` is `set_example_store`.
-/

set_option autoImplicit false

namespace FlowDraft.Store

/-- The shared store, if there is one, and the callers whose builds are under way. -/
structure Handle (σ : Type) where
  current : Option σ := none
  building : List Nat := []

namespace Handle

/-- Something that happens to the shared store. Callers are told apart by numbers. -/
inductive Event (σ : Type) where
  /-- A caller got the store that was there. -/
  | found (caller : Nat) (store : σ)
  /-- A caller found no store and began a build. -/
  | began (caller : Nat)
  /-- The build of a caller was completed, and the caller got the new store. -/
  | built (caller : Nat) (store : σ)
  /-- The build of a caller failed. -/
  | failed (caller : Nat) (fault : Fault)
  /-- A store was installed, or the one that was there taken away. -/
  | put (store : Option σ)

/-- What an event leaves, if it can happen. -/
def step? {σ : Type} [DecidableEq σ] (h : Handle σ) : Event σ → Option (Handle σ)
  | .found _ store => if h.current = some store then some h else none
  | .began caller =>
    if h.current.isNone then some { h with building := caller :: h.building } else none
  | .built caller store =>
    if caller ∈ h.building then some ⟨some store, h.building.erase caller⟩ else none
  | .failed caller _ =>
    if caller ∈ h.building then some { h with building := h.building.erase caller } else none
  | .put store => some { h with current := store }

/-- What events leave one after the other, if they can happen. -/
def run? {σ : Type} [DecidableEq σ] (h : Handle σ) (events : List (Event σ)) :
    Option (Handle σ) :=
  events.foldlM step? h

/-- A build that fails leaves the store as it is. -/
theorem step?_failed_current {σ : Type} [DecidableEq σ] {h h' : Handle σ} {caller : Nat}
    {fault : Fault} (happens : h.step? (.failed caller fault) = some h') :
    h'.current = h.current := by
  simp only [step?] at happens
  split at happens
  · cases happens
    rfl
  · cases happens

/-- What a caller gets, and what happens for it, when nothing comes between. A build is only made
when there is no store. -/
def get {σ : Type} (h : Handle σ) (caller : Nat) (build : Unit → Except Fault σ) :
    Except Fault σ × List (Event σ) :=
  match h.current with
  | some store => (.ok store, [.found caller store])
  | none =>
    match build () with
    | .ok store => (.ok store, [.began caller, .built caller store])
    | .error fault => (.error fault, [.began caller, .failed caller fault])

end Handle

end FlowDraft.Store
