import FlowDraft.Workflow.Conditions
import Mathlib.Algebra.GroupWithZero.Nat

/-!
# `FlowDraft.Proofs.Workflow.Modernized`: what a workflow becomes

`Modernized` says what a node becomes. A node in the old shape (`InOldShape`) has comparisons in
place of its entries, or loses its conditions when no comparison is left, and every other node stays
as it is. `Compared` says which comparisons stand for the entries of an old list: one for each entry
that states an expression, under the name of the entry or under the next new one.

Names are taken from a supply one after another, through all nodes. So what a node becomes depends
on how many were taken before it, which is the sum of `namesNeeded` over the nodes before. The main
statement is `modernizeFrom_eq`.
-/

set_option autoImplicit false

namespace FlowDraft

/-! ### Parts of documents -/

section
variable {τ : Type}

namespace Json

/-- A value other than null is under a name exactly when an object has it there. -/
theorem field_eq_iff [DecidableEq τ] {v w : Json τ} {name : τ} (h : w ≠ .null) :
    v.field name = w ↔ ∃ fields, v = .obj fields ∧ Fields.get? fields name = some w := by
  constructor
  · rintro rfl
    cases v with
    | obj fields =>
      refine ⟨fields, rfl, ?_⟩
      cases hget : Fields.get? fields name with
      | none => exact absurd (by rw [field, field?, hget]; rfl) h
      | some value => rw [field, field?, hget, Option.getD_some]
    | _ => exact absurd rfl h
  · rintro ⟨fields, rfl, hget⟩
    rw [field, field?, hget, Option.getD_some]

theorem field_obj_eq_iff [DecidableEq τ] {fields : Fields τ} {w : Json τ} {name : τ} (h : w ≠ .null) :
    (Json.obj fields).field name = w ↔ Fields.get? fields name = some w := by
  rw [field_eq_iff h]
  constructor
  · rintro ⟨fields', hfields, hget⟩
    cases hfields
    exact hget
  · intro hget
    exact ⟨fields, rfl, hget⟩

theorem text?_eq_some_iff {v : Json τ} {text : τ} : v.text? = some text ↔ v = .str text := by
  cases v <;> simp [text?]

theorem fields?_eq_some_iff {v : Json τ} {fields : Fields τ} :
    v.fields? = some fields ↔ v = .obj fields := by
  cases v <;> simp [fields?]

theorem items?_eq_some_iff {v : Json τ} {items : List (Json τ)} :
    v.items? = some items ↔ v = .arr items := by
  cases v <;> simp [items?]

end Json

/-! ### Objects with one field changed -/

/-- The object `after` is `before` with another value under a name, in its old place. -/
def Fields.IsUpdate (name : τ) (value : Json τ) (before after : Fields τ) : Prop :=
  ∃ first old rest, name ∉ keys first ∧ before = first ++ (name, old) :: rest ∧
    after = first ++ (name, value) :: rest

theorem Fields.erase_eq_filter [DecidableEq τ] (fields : Fields τ) (name : τ) :
    erase name fields = fields.filter fun field => field.1 ≠ name := by
  refine List.filter_congr fun field _ => ?_
  by_cases h : field.1 = name <;> simp [h]

theorem Fields.put_append [DecidableEq τ] {name : τ} {first : Fields τ} (h : name ∉ keys first)
    (old value : Json τ) (rest : Fields τ) :
    put name value (first ++ (name, old) :: rest) = first ++ (name, value) :: rest := by
  induction first with
  | nil => rw [List.nil_append, put, if_pos rfl, List.nil_append]
  | cons f first ih =>
    obtain ⟨k, v⟩ := f
    rw [keys, List.map_cons, List.mem_cons, not_or] at h
    rw [List.cons_append, put, if_neg (Ne.symm h.1), ih h.2, List.cons_append]

/-- A field that is there is given another value in its place. -/
theorem Fields.isUpdate_put [DecidableEq τ] {name : τ} {fields : Fields τ} {old : Json τ}
    (h : get? fields name = some old) (value : Json τ) :
    IsUpdate name value fields (put name value fields) := by
  -- What is found is the first field of the name, so none before it has that name.
  obtain ⟨first, rest, rfl, hfirst⟩ := List.lookup_eq_some_iff.1 h
  have hnew : name ∉ keys first := by
    intro hmem
    obtain ⟨f, hf, rfl⟩ := List.mem_map.1 hmem
    simpa using hfirst f hf
  exact ⟨first, old, rest, hnew, rfl, put_append hnew old value rest⟩

end

namespace Workflow

/-! ### Entries of old lists -/

/-- The value is an object with a text that is not empty under a name. -/
def HasText (v : Json Letters) (name text : Letters) : Prop :=
  ∃ fields, v = .obj fields ∧ Fields.get? fields name = some (.str text) ∧ text ≠ []

theorem hasText_iff {v : Json Letters} {name text : Letters} :
    HasText v name text ↔ (v.field name).filledText? = some text := by
  have hfilled : (v.field name).filledText? = some text ↔ v.field name = .str text ∧ text ≠ [] := by
    rw [Json.filledText?, Option.filter_eq_some_iff, Json.text?_eq_some_iff]
    simp
  rw [hfilled, Json.field_eq_iff (w := .str text) nofun]
  constructor
  · rintro ⟨fields, hv, hget, hne⟩
    exact ⟨⟨fields, hv, hget⟩, hne⟩
  · rintro ⟨⟨fields, hv, hget⟩, hne⟩
    exact ⟨fields, hv, hget, hne⟩

theorem not_hasText_iff {v : Json Letters} {name : Letters} :
    (∀ text, ¬ HasText v name text) ↔ (v.field name).filledText? = none := by
  rw [Option.eq_none_iff_forall_ne_some]
  exact forall_congr' fun text => not_congr hasText_iff

/-- The entry states an expression. -/
def hasExpression (entry : Json Letters) : Bool :=
  (entry.field "value").filledText?.isSome

/-- The entry states an expression and has no name of its own. -/
def needsName (entry : Json Letters) : Bool :=
  hasExpression entry && (entry.field "id").filledText?.isNone

/-- The items are the comparisons that stand for the entries of an old list, in order: one for each
entry that states an expression. It has the name of the entry, or else the name with the number that
is next when `taken` names were taken before the list. -/
structure Compared (names : Nat → String) (taken : Nat) (entries items : List (Json Letters)) :
    Prop where
  length_eq : items.length = (entries.filter hasExpression).length
  item : ∀ j entry, (entries.filter hasExpression)[j]? = some entry →
    ∃ expression name, HasText entry "value" expression ∧
      (HasText entry "id" name ∨ (∀ own, ¬ HasText entry "id" own) ∧
        name = names (taken + ((entries.filter hasExpression).take j).countP needsName)) ∧
      items[j]? = some (.obj [("id", .str name), ("leftValue", .str expression),
        ("rightValue", .str ""),
        ("operator", .obj [("type", .str "boolean"), ("operation", .str "true"),
          ("singleValue", .bool true)])])

/-- An entry without an expression changes nothing. -/
theorem Compared.skip {names : Nat → String} {taken : Nat} {entry : Json Letters}
    {entries items : List (Json Letters)} (h : Compared names taken entries items)
    (hentry : hasExpression entry = false) :
    Compared names taken (entry :: entries) items := by
  have hfilter : (entry :: entries).filter hasExpression = entries.filter hasExpression :=
    List.filter_cons_of_neg (by simp [hentry])
  exact ⟨hfilter ▸ h.length_eq, hfilter ▸ h.item⟩

/-- An entry with an expression has the first comparison, and those behind it count its name. -/
theorem Compared.cons {names : Nat → String} {taken between : Nat} {entry : Json Letters}
    {entries items : List (Json Letters)} {expression name : Letters}
    (h : Compared names between entries items)
    (hentry : (entry.field "value").filledText? = some expression)
    (hname : (entry.field "id").filledText? = some name ∧ between = taken ∨
      (entry.field "id").filledText? = none ∧ between = taken + 1 ∧ name = names taken) :
    Compared names taken (entry :: entries) (comparison name expression :: items) := by
  have hfilter : (entry :: entries).filter hasExpression
      = entry :: entries.filter hasExpression :=
    List.filter_cons_of_pos (by simp [hasExpression, hentry])
  have hbetween : between = taken + [entry].countP needsName := by
    rcases hname with ⟨hown, rfl⟩ | ⟨hnone, rfl, -⟩
    · simp [needsName, hown]
    · simp [needsName, hasExpression, hentry, hnone]
  refine ⟨by rw [hfilter, List.length_cons, List.length_cons, h.length_eq], ?_⟩
  intro j e he
  rw [hfilter] at he ⊢
  cases j with
  | zero =>
    obtain rfl : entry = e := Option.some.inj he
    refine ⟨expression, name, hasText_iff.2 hentry, ?_, rfl⟩
    rcases hname with ⟨hown, -⟩ | ⟨hnone, -, rfl⟩
    · exact .inl (hasText_iff.2 hown)
    · exact .inr ⟨not_hasText_iff.2 hnone, rfl⟩
  | succ j =>
    obtain ⟨expression', name', hexpression, hnamed, hitem⟩ := h.item j e he
    refine ⟨expression', name', hexpression, ?_, hitem⟩
    rw [List.take_succ_cons, ← List.singleton_append, List.countP_append, ← Nat.add_assoc,
      ← hbetween]
    exact hnamed

/-- The comparisons of an old list, and the number of names that they take. -/
theorem compared_comparisons (names : Nat → String) (taken : Nat) (entries : List (Json Letters)) :
    Compared names taken entries (comparisons names taken entries).1 ∧
      (comparisons names taken entries).2 = taken + entries.countP needsName := by
  -- An entry without a name takes the next one, so the number that is taken is generalized.
  induction entries generalizing taken with
  | nil => exact ⟨⟨rfl, fun j entry h => by simp at h⟩, rfl⟩
  | cons entry entries ih =>
    rw [comparisons, List.countP_cons]
    cases hvalue : (entry.field "value").filledText? with
    | none =>
      have hentry : hasExpression entry = false := by simp [hasExpression, hvalue]
      obtain ⟨hitems, hafter⟩ := ih taken
      exact ⟨hitems.skip hentry, by simp [needsName, hentry, hafter]⟩
    | some expression =>
      have hentry : hasExpression entry = true := by simp [hasExpression, hvalue]
      cases hown : (entry.field "id").filledText? with
      | some own =>
        obtain ⟨hitems, hafter⟩ := ih taken
        exact ⟨hitems.cons hvalue (.inl ⟨hown, rfl⟩), by simp [needsName, hown, hafter]⟩
      | none =>
        obtain ⟨hitems, hafter⟩ := ih (taken + 1)
        refine ⟨hitems.cons hvalue (.inr ⟨hown, rfl, rfl⟩), ?_⟩
        rw [hafter]
        simp [needsName, hentry, hown]
        omega

/-- No comparison is left exactly when no entry states an expression. -/
theorem Compared.eq_nil_iff {names : Nat → String} {taken : Nat} {entries items : List (Json Letters)}
    (h : Compared names taken entries items) :
    items = [] ↔ ∀ entry ∈ entries, ∀ text, ¬ HasText entry "value" text := by
  rw [← List.length_eq_zero_iff, h.length_eq, List.length_eq_zero_iff, List.filter_eq_nil_iff]
  refine forall₂_congr fun entry _ => ?_
  rw [not_hasText_iff, hasExpression, Option.not_isSome_iff_eq_none]

/-! ### Nodes -/

/-- The node is in the old shape: it has the type of branching nodes, and its parameters have
conditions with a list of entries. -/
def InOldShape (node parameters : Fields Letters) (entries : List (Json Letters)) : Prop :=
  ∃ conditions, Fields.get? node "type" = some (.str "n8n-nodes-base.if") ∧
    Fields.get? node "parameters" = some (.obj parameters) ∧
    Fields.get? parameters "conditions" = some (.obj conditions) ∧
    Fields.get? conditions "value" = some (.arr entries)

theorem oldEntries?_eq_some_iff {parameters : Fields Letters} {entries : List (Json Letters)} :
    oldEntries? parameters = some entries ↔
      ∃ conditions, Fields.get? parameters "conditions" = some (.obj conditions) ∧
        Fields.get? conditions "value" = some (.arr entries) := by
  rw [oldEntries?, Json.items?_eq_some_iff, Json.field_eq_iff (w := .arr entries) nofun]
  exact exists_congr fun conditions => and_congr_left fun _ =>
    Json.field_obj_eq_iff nofun

theorem oldBranch?_eq_some_iff {node parameters : Fields Letters} {entries : List (Json Letters)} :
    oldBranch? node = some (parameters, entries) ↔ InOldShape node parameters entries := by
  have htype : (Fields.get? node "type").bind Json.text? = some branchType ↔
      Fields.get? node "type" = some (.str "n8n-nodes-base.if") := by
    rw [Option.bind_eq_some_iff]
    simp only [Json.text?_eq_some_iff]
    exact exists_eq_right
  have hbranch : oldBranch? node = some (parameters, entries) ↔
      Fields.get? node "type" = some (.str "n8n-nodes-base.if") ∧
        ((Json.obj node).field "parameters").fields? = some parameters ∧
        oldEntries? parameters = some entries := by
    rw [oldBranch?, ← htype]
    by_cases h : (Fields.get? node "type").bind Json.text? = some branchType
    · simp [h, Option.bind_eq_some_iff]
    · simp [h]
  rw [hbranch, Json.fields?_eq_some_iff, Json.field_obj_eq_iff (w := .obj parameters) nofun,
    oldEntries?_eq_some_iff]
  constructor
  · rintro ⟨htype, hparameters, conditions, hconditions, hentries⟩
    exact ⟨conditions, htype, hparameters, hconditions, hentries⟩
  · rintro ⟨conditions, htype, hparameters, hconditions, hentries⟩
    exact ⟨htype, hparameters, conditions, hconditions, hentries⟩

theorem oldBranch?_eq_none_iff {node : Fields Letters} :
    oldBranch? node = none ↔ ∀ parameters entries, ¬ InOldShape node parameters entries := by
  rw [Option.eq_none_iff_forall_ne_some, Prod.forall]
  exact forall₂_congr fun parameters entries => not_congr oldBranch?_eq_some_iff

/-- The entries under `parameters.conditions.value` of a branching node, and none where these names
lead to no list. -/
def oldList (v : Json Letters) : List (Json Letters) :=
  if (v.field "type").text? = some branchType then
    (((v.field "parameters").field "conditions").field "value").items?.getD []
  else []

/-- The number of names that the comparisons of a node take: one for each entry that states an
expression and has no name of its own. -/
def namesNeeded (v : Json Letters) : Nat :=
  (oldList v).countP needsName

/-- A node in the old shape has the entries of its old list. -/
theorem oldList_of_inOldShape {node parameters : Fields Letters} {entries : List (Json Letters)}
    (h : InOldShape node parameters entries) : oldList (.obj node) = entries := by
  obtain ⟨conditions, htype, hparameters, hconditions, hentries⟩ := h
  rw [oldList, (Json.field_obj_eq_iff (w := .str _) nofun).2 htype,
    (Json.field_obj_eq_iff (w := .obj _) nofun).2 hparameters,
    (Json.field_obj_eq_iff (w := .obj _) nofun).2 hconditions,
    (Json.field_obj_eq_iff (w := .arr _) nofun).2 hentries]
  rfl

/-- A value that is not a node in the old shape has no old list. -/
theorem oldList_of_not_inOldShape {v : Json Letters}
    (h : ∀ node parameters entries, v = .obj node → ¬ InOldShape node parameters entries) :
    oldList v = [] := by
  rw [oldList]
  split
  next htype =>
    rw [Json.text?_eq_some_iff, Json.field_eq_iff (w := .str _) nofun] at htype
    obtain ⟨node, rfl, htype⟩ := htype
    cases hlist : ((((Json.obj node).field "parameters").field "conditions").field "value").items? with
    | none => rfl
    | some entries =>
      -- Each name on the way to the list stands in an object, so the node is in the old shape.
      rw [Json.items?_eq_some_iff, Json.field_eq_iff (w := .arr _) nofun] at hlist
      obtain ⟨conditions, hconditions, hentries⟩ := hlist
      rw [Json.field_eq_iff (w := .obj _) nofun] at hconditions
      obtain ⟨parameters, hparameters, hconditions⟩ := hconditions
      rw [Json.field_obj_eq_iff (w := .obj _) nofun] at hparameters
      exact absurd ⟨conditions, htype, hparameters, hconditions, hentries⟩
        (h node parameters entries rfl)
  next => rfl

/-- What a value in a list of nodes becomes when `taken` names were taken before it. -/
inductive Modernized (names : Nat → String) (taken : Nat) : Json Letters → Json Letters → Prop where
  /-- A value that is not a node in the old shape stays as it is. -/
  | kept {v : Json Letters}
      (h : ∀ node parameters entries, v = .obj node → ¬ InOldShape node parameters entries) :
      Modernized names taken v v
  /-- The comparisons stand in place of the old conditions, and nothing else changes. -/
  | upgraded {node node' parameters parameters' : Fields Letters} {entries items : List (Json Letters)}
      (hshape : InOldShape node parameters entries)
      (hitems : Compared names taken entries items) (hne : items ≠ [])
      (hparameters : Fields.IsUpdate ("conditions" : Letters)
        (.obj [("options", .obj [("caseSensitive", .bool true), ("leftValue", .str ""),
            ("typeValidation", .str "strict"), ("version", .int 2)]),
          ("combinator", .str "and"), ("conditions", .arr items)]) parameters parameters')
      (hnode : Fields.IsUpdate ("parameters" : Letters) (.obj parameters') node node') :
      Modernized names taken (.obj node) (.obj node')
  /-- No entry states an expression, so the conditions go, and nothing else changes. -/
  | emptied {node node' parameters : Fields Letters} {entries : List (Json Letters)}
      (hshape : InOldShape node parameters entries)
      (hnone : ∀ entry ∈ entries, ∀ text, ¬ HasText entry "value" text)
      (hnode : Fields.IsUpdate ("parameters" : Letters)
        (.obj (parameters.filter fun field => field.1 ≠ ("conditions" : Letters))) node node') :
      Modernized names taken (.obj node) (.obj node')

/-- A node in the old shape, and the number of names taken after it. -/
theorem modernizeNode_of_inOldShape (names : Nat → String) (taken : Nat)
    {node parameters : Fields Letters} {entries : List (Json Letters)}
    (h : InOldShape node parameters entries) :
    Modernized names taken (.obj node) (modernizeNode names taken (.obj node)).1 ∧
      (modernizeNode names taken (.obj node)).2 = taken + namesNeeded (.obj node) := by
  have ⟨conditions, _, hplace, hconditions, _⟩ := h
  obtain ⟨hitems, hafter⟩ := compared_comparisons names taken entries
  rw [modernizeNode, oldBranch?_eq_some_iff.2 h, namesNeeded, oldList_of_inOldShape h, ← hafter]
  dsimp only
  rw [modernizeParameters]
  -- The conditions go where no comparison is left, and otherwise they are put in the old place.
  rcases hcomparisons : comparisons names taken entries with ⟨_ | ⟨item, items⟩, after⟩
  · rw [hcomparisons] at hitems
    refine ⟨.emptied h (hitems.eq_nil_iff.1 rfl) ?_, rfl⟩
    rw [← Fields.erase_eq_filter]
    exact Fields.isUpdate_put hplace _
  · rw [hcomparisons] at hitems
    exact ⟨.upgraded h hitems (List.cons_ne_nil item items) (Fields.isUpdate_put hconditions _)
      (Fields.isUpdate_put hplace _), rfl⟩

/-- A value that is not a node in the old shape takes no name. -/
theorem modernizeNode_of_not_inOldShape (names : Nat → String) (taken : Nat) {v : Json Letters}
    (h : ∀ node parameters entries, v = .obj node → ¬ InOldShape node parameters entries) :
    modernizeNode names taken v = (v, taken) := by
  cases v with
  | obj node =>
    rw [modernizeNode, oldBranch?_eq_none_iff.2 fun parameters entries =>
      h node parameters entries rfl]
  | _ => rfl

/-- A value in a list of nodes, and the number of names taken after it. -/
theorem modernizeNode_spec (names : Nat → String) (taken : Nat) (v : Json Letters) :
    Modernized names taken v (modernizeNode names taken v).1 ∧
      (modernizeNode names taken v).2 = taken + namesNeeded v := by
  by_cases hold : ∃ node parameters entries, v = .obj node ∧ InOldShape node parameters entries
  · obtain ⟨node, parameters, entries, rfl, hshape⟩ := hold
    exact modernizeNode_of_inOldShape names taken hshape
  · have hkept : ∀ node parameters entries, v = .obj node → ¬ InOldShape node parameters entries :=
      fun node parameters entries hv hshape => hold ⟨node, parameters, entries, hv, hshape⟩
    rw [modernizeNode_of_not_inOldShape names taken hkept, namesNeeded,
      oldList_of_not_inOldShape hkept]
    exact ⟨.kept hkept, rfl⟩

/-! ### Workflows -/

/-- The nodes stay in their order, and each takes its names after those of the nodes before it. -/
theorem modernizeNodes_spec (names : Nat → String) (taken : Nat) (nodes : List (Json Letters)) :
    (modernizeNodes names taken nodes).1.length = nodes.length ∧
      (∀ (i : Nat) v, nodes[i]? = some v → ∃ v', (modernizeNodes names taken nodes).1[i]? = some v' ∧
        Modernized names (taken + ((nodes.take i).map namesNeeded).sum) v v') ∧
      (modernizeNodes names taken nodes).2 = taken + (nodes.map namesNeeded).sum := by
  induction nodes generalizing taken with
  | nil => exact ⟨rfl, fun i v h => by simp at h, rfl⟩
  | cons node nodes ih =>
    obtain ⟨hnode, hbetween⟩ := modernizeNode_spec names taken node
    rcases hstep : modernizeNode names taken node with ⟨node', between⟩
    rw [hstep] at hnode hbetween
    obtain rfl : between = taken + namesNeeded node := hbetween
    obtain ⟨hlength, hnodes, hafter⟩ := ih (taken + namesNeeded node)
    rw [modernizeNodes, hstep]
    refine ⟨congrArg (· + 1) hlength, ?_, ?_⟩
    · intro i v hv
      cases i with
      | zero =>
        obtain rfl : node = v := Option.some.inj hv
        exact ⟨_, rfl, hnode⟩
      | succ i =>
        -- The names of the first node are among those taken before the others.
        rw [List.take_succ_cons, List.map_cons, List.sum_cons, ← Nat.add_assoc]
        exact hnodes i v hv
    · rw [List.map_cons, List.sum_cons, ← Nat.add_assoc]
      exact hafter

/-- A value with no list of nodes stays as it is and takes no name. In a workflow with one, only
that list changes. It keeps its length and its order, and each of its values becomes what
`Modernized` says, with the names of those before it taken first. -/
theorem modernizeFrom_eq (names : Nat → String) (taken : Nat) (v : Json Letters) :
    ((∀ workflow nodes, v = .obj workflow → Fields.get? workflow "nodes" ≠ some (.arr nodes)) →
      modernizeFrom names taken v = (v, taken)) ∧
    ∀ workflow nodes, v = .obj workflow → Fields.get? workflow "nodes" = some (.arr nodes) →
      ∃ workflow' nodes', modernizeFrom names taken v
          = (.obj workflow', taken + (nodes.map namesNeeded).sum) ∧
        Fields.IsUpdate ("nodes" : Letters) (.arr nodes') workflow workflow' ∧
        nodes'.length = nodes.length ∧
        ∀ (i : Nat) node, nodes[i]? = some node → ∃ node', nodes'[i]? = some node' ∧
          Modernized names (taken + ((nodes.take i).map namesNeeded).sum) node node' := by
  constructor
  · intro hnone
    cases v with
    | obj workflow =>
      have hitems : (Fields.get? workflow "nodes").bind Json.items? = none := by
        rw [Option.bind_eq_none_iff]
        intro list hlist
        rw [Option.eq_none_iff_forall_ne_some]
        intro nodes hnodes
        exact hnone workflow nodes rfl (by rw [hlist, Json.items?_eq_some_iff.1 hnodes])
      rw [modernizeFrom, hitems]
    | _ => rfl
  · rintro workflow nodes rfl hnodes
    obtain ⟨hlength, hitem, hafter⟩ := modernizeNodes_spec names taken nodes
    refine ⟨_, (modernizeNodes names taken nodes).1, ?_, Fields.isUpdate_put hnodes _, hlength,
      hitem⟩
    rw [modernizeFrom, hnodes, ← hafter]
    rfl

/-- A workflow with one branching node, whose second entry states no expression and whose first has
no name. One name is taken. -/
theorem modernizeFrom_eq_on_one_branch :
    let nodes : List (Json Letters) := [.null, .obj [("type", .str "n8n-nodes-base.if"),
      ("parameters", .obj [("conditions", .obj [("value",
        .arr [.obj [("value", .str "={{ $json.ok }}")], .str "x"])]), ("retry", .int 3)])]]
    let workflow : Fields Letters := [("name", .str "Inbox"), ("nodes", .arr nodes)]
    Fields.get? workflow "nodes" = some (.arr nodes) ∧
      ∃ workflow' nodes', modernizeFrom toString 4 (.obj workflow) = (.obj workflow', 5) ∧
        Fields.IsUpdate ("nodes" : Letters) (.arr nodes') workflow workflow' ∧
        nodes'.length = nodes.length ∧
        ∀ (i : Nat) node, nodes[i]? = some node → ∃ node', nodes'[i]? = some node' ∧
          Modernized toString (4 + ((nodes.take i).map namesNeeded).sum) node node' := by
  intro nodes workflow
  have hcount : (nodes.map namesNeeded).sum = 1 := by rfl
  have hworkflow := (modernizeFrom_eq toString 4 (.obj workflow)).2 workflow nodes rfl rfl
  rw [hcount] at hworkflow
  exact ⟨rfl, hworkflow⟩

end Workflow

end FlowDraft
