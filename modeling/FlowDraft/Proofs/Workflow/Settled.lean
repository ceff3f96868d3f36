import FlowDraft.Proofs.Workflow.Modernized

/-!
# `FlowDraft.Proofs.Workflow.Settled`: a workflow in the current shape stays as it is

No node is in the old shape once a workflow was modernized: its parameters have the new conditions
or none (`not_inOldShape_modernizeFrom`). So modernizing it again changes nothing and takes no name,
whatever names are there to be taken (`modernizeFrom_modernizeFrom`), and neither does any number of
further passes (`foldl_modernize`). `modernizeFrom_settles` puts these together.
-/

set_option autoImplicit false

namespace FlowDraft

section
variable {τ : Type} [DecidableEq τ]

theorem Fields.put_put (fields : Fields τ) (name : τ) (old value : Json τ) :
    put name value (put name old fields) = put name value fields := by
  induction fields with
  | nil => simp [put]
  | cons f rest ih =>
    obtain ⟨k, v⟩ := f
    by_cases hk : k = name
    · simp [put, hk]
    · simp [put, hk, ih]

theorem Fields.get?_erase_self (fields : Fields τ) (name : τ) :
    get? (erase name fields) name = none := by
  rw [get?, List.lookup_eq_none_iff]
  intro field hfield
  have hkept := (List.mem_filter.1 hfield).2
  rw [bne_iff_ne]
  rintro rfl
  simp at hkept

end

namespace Workflow

variable (names names' : Nat → String) (taken taken' : Nat)

/-- New parameters have conditions in the current shape, or none. -/
theorem conditions_modernizeParameters (parameters : Fields Letters) (entries : List (Json Letters)) :
    Fields.get? (modernizeParameters names taken parameters entries).1 "conditions" = none ∨
      ∃ items, Fields.get? (modernizeParameters names taken parameters entries).1 "conditions"
        = some (current items) := by
  rw [modernizeParameters]
  split
  · exact .inl (Fields.get?_erase_self parameters "conditions")
  · exact .inr ⟨_, Fields.get?_put parameters "conditions" _⟩

/-- A node that was modernized is not in the old shape. -/
theorem not_inOldShape_modernizeNode (v : Json Letters) (node parameters : Fields Letters)
    (entries : List (Json Letters)) (hnode : (modernizeNode names taken v).1 = .obj node) :
    ¬ InOldShape node parameters entries := by
  by_cases hold : ∃ node parameters entries, v = .obj node ∧ InOldShape node parameters entries
  · obtain ⟨before, parameters₀, entries₀, rfl, hshape⟩ := hold
    rw [modernizeNode, oldBranch?_eq_some_iff.2 hshape] at hnode
    obtain rfl := Json.obj.inj hnode
    -- Its new conditions are gone or in the current shape, and neither has old entries.
    rintro ⟨conditions, -, hplace, hconditions, hentries⟩
    rw [Fields.get?_put] at hplace
    obtain rfl := Json.obj.inj (Option.some.inj hplace)
    rcases conditions_modernizeParameters names taken parameters₀ entries₀ with
      hnone | ⟨items, hcurrent⟩
    · rw [hnone] at hconditions
      cases hconditions
    · rw [hcurrent] at hconditions
      obtain rfl := Json.obj.inj (Option.some.inj hconditions)
      cases hentries
  · have hkept : ∀ node parameters entries, v = .obj node → ¬ InOldShape node parameters entries :=
      fun node parameters entries hv hshape => hold ⟨node, parameters, entries, hv, hshape⟩
    rw [modernizeNode_of_not_inOldShape names taken hkept] at hnode
    exact hkept node parameters entries hnode

theorem modernizeNode_modernizeNode (v : Json Letters) :
    modernizeNode names' taken' (modernizeNode names taken v).1
      = ((modernizeNode names taken v).1, taken') :=
  modernizeNode_of_not_inOldShape names' taken' (not_inOldShape_modernizeNode names taken v)

theorem modernizeNodes_modernizeNodes (nodes : List (Json Letters)) :
    modernizeNodes names' taken' (modernizeNodes names taken nodes).1
      = ((modernizeNodes names taken nodes).1, taken') := by
  -- The first node takes names, so the number that is taken before the others is generalized.
  induction nodes generalizing taken with
  | nil => rfl
  | cons v vs ih =>
    show modernizeNodes names' taken' ((modernizeNode names taken v).1 ::
      (modernizeNodes names (modernizeNode names taken v).2 vs).1) = _
    rw [modernizeNodes, modernizeNode_modernizeNode]
    dsimp only
    rw [ih (modernizeNode names taken v).2]
    rfl

/-- Modernizing a workflow again changes nothing and takes no name. -/
theorem modernizeFrom_modernizeFrom (v : Json Letters) :
    modernizeFrom names' taken' (modernizeFrom names taken v).1
      = ((modernizeFrom names taken v).1, taken') := by
  cases v with
  | obj workflow =>
    cases hnodes : (Fields.get? workflow "nodes").bind Json.items? with
    | none =>
      have hsame : ∀ names taken, modernizeFrom names taken (.obj workflow)
          = (.obj workflow, taken) := by
        intro names taken
        rw [modernizeFrom, hnodes]
      rw [hsame, hsame]
    | some nodes =>
      have hnew : (modernizeFrom names taken (.obj workflow)).1
          = .obj (Fields.put "nodes" (.arr (modernizeNodes names taken nodes).1) workflow) := by
        rw [modernizeFrom, hnodes]
      rw [hnew, modernizeFrom, Fields.get?_put]
      show (Json.obj (Fields.put ("nodes" : Letters) (.arr (modernizeNodes names' taken'
        (modernizeNodes names taken nodes).1).1) _), (modernizeNodes names' taken' _).2) = _
      rw [modernizeNodes_modernizeNodes, Fields.put_put]
  | _ => rfl

/-- Any number of further passes change nothing. -/
theorem foldl_modernize (supplies : List (Nat → String)) (v : Json Letters) :
    supplies.foldl (fun w later => modernize later w) (modernizeFrom names taken v).1
      = (modernizeFrom names taken v).1 := by
  induction supplies with
  | nil => rfl
  | cons later supplies ih =>
    rw [List.foldl_cons, modernize, modernizeFrom_modernizeFrom names later taken 0 v]
    exact ih

/-! ### No node in the old shape -/

/-- No node of a list that was modernized is in the old shape. -/
theorem not_inOldShape_modernizeNodes {nodes : List (Json Letters)} {node : Fields Letters}
    (h : .obj node ∈ (modernizeNodes names taken nodes).1) (parameters : Fields Letters)
    (entries : List (Json Letters)) : ¬ InOldShape node parameters entries := by
  induction nodes generalizing taken with
  | nil => exact absurd h List.not_mem_nil
  | cons v vs ih =>
    rcases List.mem_cons.1 h with hnode | hrest
    · exact not_inOldShape_modernizeNode names taken v node parameters entries hnode.symm
    · exact ih _ hrest

/-- No node of a workflow that was modernized is in the old shape. -/
theorem not_inOldShape_modernizeFrom {v : Json Letters} {workflow node : Fields Letters}
    {nodes : List (Json Letters)} (h : (modernizeFrom names taken v).1 = .obj workflow)
    (hnodes : Fields.get? workflow "nodes" = some (.arr nodes)) (hnode : .obj node ∈ nodes)
    (parameters : Fields Letters) (entries : List (Json Letters)) :
    ¬ InOldShape node parameters entries := by
  cases v with
  | obj before =>
    cases hlist : (Fields.get? before "nodes").bind Json.items? with
    | none =>
      -- A workflow without a list of nodes is left as it is, and still has none.
      rw [modernizeFrom, hlist] at h
      obtain rfl := Json.obj.inj h
      rw [hnodes] at hlist
      cases hlist
    | some old =>
      rw [modernizeFrom, hlist] at h
      obtain rfl := Json.obj.inj h
      rw [Fields.get?_put] at hnodes
      obtain rfl := Json.arr.inj (Option.some.inj hnodes)
      exact not_inOldShape_modernizeNodes names taken hnode parameters entries
  | _ => cases h

/-- **One pass settles a workflow.** Modernizing a value that was modernized gives the value itself
and takes no name, whatever supply of names there is, and so does every number of passes. No node of
a workflow that was modernized has the type of branching nodes and parameters with a list of entries
under `conditions.value`. -/
theorem modernizeFrom_settles (v : Json Letters) :
    let once := (modernizeFrom names taken v).1
    modernizeFrom names' taken' once = (once, taken') ∧
    (∀ supplies : List (Nat → String),
      supplies.foldl (fun w later => modernize later w) once = once) ∧
    ∀ (workflow : Fields Letters) nodes (node parameters conditions : Fields Letters) entries,
      once = .obj workflow →
      Fields.get? workflow "nodes" = some (.arr nodes) → .obj node ∈ nodes →
      Fields.get? node "type" = some (.str "n8n-nodes-base.if") →
      Fields.get? node "parameters" = some (.obj parameters) →
      Fields.get? parameters "conditions" = some (.obj conditions) →
      Fields.get? conditions "value" ≠ some (.arr entries) := by
  refine ⟨modernizeFrom_modernizeFrom names names' taken taken' v,
    fun supplies => foldl_modernize names taken supplies v, ?_⟩
  intro workflow nodes node parameters conditions entries honce hnodes hnode htype hparameters
    hconditions hentries
  exact not_inOldShape_modernizeFrom names taken honce hnodes hnode parameters entries
    ⟨conditions, htype, hparameters, hconditions, hentries⟩

/-- Of two branching nodes in the old shape, one states an expression beside conditions in the
current shape, and the other states none. The first gets a name, and a second pass takes no other.
-/
theorem modernizeFrom_settles_two_branches :
    let branch (conditions : Fields Letters) : Fields Letters :=
      [("type", .str "n8n-nodes-base.if"), ("parameters", .obj [("conditions", .obj conditions)])]
    let mixed := branch [("conditions", .arr []), ("value", .arr [.obj [("value", .str "={{ 1 }}")]])]
    let void := branch [("value", .arr [.null, .obj [("value", .str "")]])]
    let conditions : Fields Letters := [("options", comparisonOptions), ("combinator", .str "and"),
      ("conditions", .arr [comparison "7" "={{ 1 }}"])]
    let once := (modernizeFrom toString 7 (.obj [("nodes", .arr [.obj mixed, .obj void])])).1
    once = .obj [("nodes", .arr [.obj (branch conditions),
        .obj [("type", .str "n8n-nodes-base.if"), ("parameters", .obj [])]])] ∧
      modernizeFrom toString 8 once = (once, 8) ∧
      Fields.get? conditions "value" ≠ some (.arr []) := by
  intro branch mixed void conditions once
  have honce : once = .obj [("nodes", .arr [.obj (branch conditions),
      .obj [("type", .str "n8n-nodes-base.if"), ("parameters", .obj [])]])] := rfl
  obtain ⟨hagain, -, hshape⟩ := modernizeFrom_settles toString toString 7 8
    (.obj [("nodes", .arr [.obj mixed, .obj void])])
  exact ⟨honce, hagain, hshape _ _ (branch conditions) _ conditions [] honce rfl
    List.mem_cons_self rfl rfl rfl⟩

end Workflow

end FlowDraft
