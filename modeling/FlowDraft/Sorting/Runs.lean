import FlowDraft.Sorting.Merge

/-!
# `FlowDraft.Sorting.Runs`: sorting by runs

A list is cut into runs: stretches that are in order already, made longer by inserting the items
behind them one after another where they are short. Runs wait until it is their turn to be merged.
The turn is decided by the power of the border between two runs, which says how many halvings of the
whole list it takes to part their middles.

* `byRuns_perm`: sorting by runs loses and invents nothing, whatever the order is.
-/

set_option autoImplicit false

namespace FlowDraft.Sorting

variable {α : Type}

/-! ### Runs -/

/-- The items at the start of a list that go on rising behind `last`, and what follows them. -/
def rise (lt : α → α → Bool) (last : α) : List α → List α × List α
  | [] => ([], [])
  | x :: xs =>
    if lt x last then ([], x :: xs)
    else
      let (run, rest) := rise lt x xs
      (x :: run, rest)

/-- The items at the start of a list that go on falling behind `last`, and what follows them. -/
def fall (lt : α → α → Bool) (last : α) : List α → List α × List α
  | [] => ([], [])
  | x :: xs =>
    if lt x last then
      let (run, rest) := fall lt x xs
      (x :: run, rest)
    else ([], x :: xs)

/-- The items at the start of a list that are in order, once they are turned round if they fall, and
what follows them. -/
def firstRun (lt : α → α → Bool) : List α → List α × List α
  | x :: y :: rest =>
    if lt y x then
      let (run, rest) := fall lt y rest
      ((x :: y :: run).reverse, rest)
    else
      let (run, rest) := rise lt y rest
      (x :: y :: run, rest)
  | xs => (xs, [])

/-- An item put in its place: behind every item that it is not smaller than. -/
def insert (lt : α → α → Bool) (xs : List α) (x : α) : List α :=
  let place := placeBetween (lt x) xs 0 xs.length
  xs.take place ++ x :: xs.drop place

/-- The run at the start of a list, which is at least so long unless the list is shorter, and what
follows it. -/
def nextRun (lt : α → α → Bool) (least : Nat) (xs : List α) : List α × List α :=
  let (run, rest) := firstRun lt xs
  let more := least - run.length
  ((rest.take more).foldl (insert lt) run, rest.drop more)

/-- A list shorter than this is a single run. -/
def shortLength : Nat := 64

/-- The least length of the runs of a list: its length, halved until it is short, and one more if
something was left over. -/
def leastRun (length : Nat) (leftOver : Bool) : Nat :=
  if length < shortLength then length + leftOver.toNat
  else leastRun (length / 2) (leftOver || length % 2 == 1)
termination_by length
decreasing_by
  simp only [shortLength] at *
  omega

/-! ### Turns -/

/-- The number of binary digits behind the point up to the first one in which `a / n` and `b / n`
differ. -/
def firstDifference (n : Nat) : (fuel : Nat) → (a b : Nat) → Nat
  | 0, _, _ => 0
  | fuel + 1, a, b =>
    if n ≤ a then firstDifference n fuel (2 * (a - n)) (2 * (b - n)) + 1
    else if n ≤ b then 1
    else firstDifference n fuel (2 * a) (2 * b) + 1

/-- The power of the border between two runs of a list of length `n`, the first of which begins at
`start`. -/
def borderPower (n start first second : Nat) : Nat :=
  let a := 2 * start + first
  firstDifference n (n + 2) a (a + first + second)

/-- A run that waits, and the power of the border behind it. -/
structure Waiting (α : Type) where
  run : List α
  power : Nat

/-- The items of runs that wait. The last one of them stands in front. -/
def contents (waiting : List (Waiting α)) : List α :=
  waiting.flatMap fun w => w.run

/-- The last run merged with those before it behind which the border has more power, what waits
then, and the patience that is left. -/
def collapse (lt : α → α → Bool) (power : Nat) :
    (waiting : List (Waiting α)) → (last : List α) → (patience : Nat) →
    List α × List (Waiting α) × Nat
  | [], last, patience => (last, [], patience)
  | w :: waiting, last, patience =>
    if power < w.power then
      let (merged, patience) := mergeRuns lt patience w.run last
      collapse lt power waiting merged patience
    else (last, w :: waiting, patience)

/-- All runs merged. The run before the last one is merged with the shorter one of its
neighbours. -/
def mergeAll (lt : α → α → Bool) (waiting : List (Waiting α)) (last : List α) (patience : Nat) :
    List α :=
  match waiting with
  | [] => last
  | [w] => (mergeRuns lt patience w.run last).1
  | w :: v :: waiting =>
    if v.run.length < last.length then
      let (merged, patience) := mergeRuns lt patience v.run w.run
      mergeAll lt (⟨merged, v.power⟩ :: waiting) last patience
    else
      let (merged, patience) := mergeRuns lt patience w.run last
      mergeAll lt (v :: waiting) merged patience
termination_by waiting.length

/-- The list that comes out when runs of at least such a length are cut off and merged. The last
run begins at `start`. -/
def schedule (lt : α → α → Bool) (n least : Nat) :
    (fuel start : Nat) → (waiting : List (Waiting α)) → (last : List α) → (patience : Nat) →
    List α → List α
  | 0, _, waiting, last, patience, xs => mergeAll lt waiting last patience ++ xs
  | _ + 1, _, waiting, last, patience, [] => mergeAll lt waiting last patience
  | fuel + 1, start, waiting, last, patience, x :: xs =>
    let (next, rest) := nextRun lt least (x :: xs)
    let power := borderPower n start last.length next.length
    let (merged, waiting, patience) := collapse lt power waiting last patience
    schedule lt n least fuel (start + last.length) (⟨merged, power⟩ :: waiting) next patience rest

/-- The patience that merging begins with. -/
def firstPatience : Nat := 7

/-- The list sorted by runs. -/
def byRuns (lt : α → α → Bool) (xs : List α) : List α :=
  let least := leastRun xs.length false
  let (first, rest) := nextRun lt least xs
  schedule lt xs.length least xs.length 0 [] first firstPatience rest

/-! ### Nothing is lost -/

theorem rise_append (lt : α → α → Bool) (last : α) (xs : List α) :
    (rise lt last xs).1 ++ (rise lt last xs).2 = xs := by
  induction xs generalizing last with
  | nil => rfl
  | cons x xs ih => by_cases h : lt x last <;> simp [rise, h, ih]

theorem fall_append (lt : α → α → Bool) (last : α) (xs : List α) :
    (fall lt last xs).1 ++ (fall lt last xs).2 = xs := by
  induction xs generalizing last with
  | nil => rfl
  | cons x xs ih => by_cases h : lt x last <;> simp [fall, h, ih]

theorem firstRun_perm (lt : α → α → Bool) (xs : List α) :
    ((firstRun lt xs).1 ++ (firstRun lt xs).2).Perm xs := by
  match xs with
  | [] => exact .refl _
  | [_] => exact .refl _
  | x :: y :: rest =>
    by_cases h : lt y x
    · have := ((x :: y :: (fall lt y rest).1).reverse_perm).append_right (fall lt y rest).2
      simpa [firstRun, h, fall_append] using this
    · simp [firstRun, h, rise_append]

theorem insert_perm (lt : α → α → Bool) (xs : List α) (x : α) :
    (insert lt xs x).Perm (x :: xs) := by
  have := @List.perm_middle _ x (xs.take (placeBetween (lt x) xs 0 xs.length))
    (xs.drop (placeBetween (lt x) xs 0 xs.length))
  simpa [insert] using this

theorem foldl_insert_perm (lt : α → α → Bool) (xs sorted : List α) :
    (xs.foldl (insert lt) sorted).Perm (sorted ++ xs) := by
  induction xs generalizing sorted with
  | nil => simp
  | cons x xs ih =>
    exact (ih _).trans (((insert_perm lt sorted x).append_right xs).trans List.perm_middle.symm)

theorem nextRun_perm (lt : α → α → Bool) (least : Nat) (xs : List α) :
    ((nextRun lt least xs).1 ++ (nextRun lt least xs).2).Perm xs := by
  simp only [nextRun]
  refine ((foldl_insert_perm lt _ _).append_right _).trans ?_
  rw [List.append_assoc, List.take_append_drop]
  exact firstRun_perm lt xs

theorem collapse_perm (lt : α → α → Bool) (power : Nat) (waiting : List (Waiting α))
    (last : List α) (patience : Nat) :
    ((collapse lt power waiting last patience).1 ++
      contents (collapse lt power waiting last patience).2.1).Perm (last ++ contents waiting) := by
  induction waiting generalizing last patience with
  | nil => exact .refl _
  | cons w waiting ih =>
    simp only [collapse]
    split
    · refine (ih _ _).trans ?_
      refine ((mergeRuns_perm lt patience w.run last).append_right _).trans ?_
      simp only [contents, List.flatMap_cons, List.append_assoc]
      exact List.perm_append_comm_assoc _ _ _
    · exact .refl _

theorem mergeAll_perm (lt : α → α → Bool) (waiting : List (Waiting α)) (last : List α)
    (patience : Nat) : (mergeAll lt waiting last patience).Perm (last ++ contents waiting) := by
  fun_induction mergeAll lt waiting last patience with
  | case1 => simp [contents]
  | case2 last patience w =>
    refine (mergeRuns_perm lt patience w.run last).trans ?_
    simpa [contents] using List.perm_append_comm
  | case3 last patience w v waiting h merged patience' hm ih =>
    have hmerge := mergeRuns_perm lt patience v.run w.run
    rw [hm] at hmerge
    refine ih.trans (List.Perm.append_left last ?_)
    simp only [contents, List.flatMap_cons, ← List.append_assoc]
    exact (hmerge.trans List.perm_append_comm).append_right _
  | case4 last patience w v waiting h merged patience' hm ih =>
    have hmerge := mergeRuns_perm lt patience w.run last
    rw [hm] at hmerge
    refine ih.trans ((hmerge.append_right _).trans ?_)
    simp only [contents, List.flatMap_cons, List.append_assoc]
    exact List.perm_append_comm_assoc _ _ _

theorem schedule_perm (lt : α → α → Bool) (n least fuel start : Nat) (waiting : List (Waiting α))
    (last : List α) (patience : Nat) (xs : List α) :
    (schedule lt n least fuel start waiting last patience xs).Perm
      (last ++ contents waiting ++ xs) := by
  induction fuel generalizing start waiting last patience xs with
  | zero => exact (mergeAll_perm lt waiting last patience).append_right xs
  | succ fuel ih =>
    cases xs with
    | nil => simpa [schedule] using mergeAll_perm lt waiting last patience
    | cons x xs =>
      simp only [schedule]
      refine (ih _ _ _ _ _).trans ?_
      have hrun := nextRun_perm lt least (x :: xs)
      have hwait := collapse_perm lt
        (borderPower n start last.length (nextRun lt least (x :: xs)).1.length) waiting last
        patience
      simp only [contents, List.flatMap_cons] at hwait ⊢
      refine ((hwait.append_left _).append_right _).trans ?_
      refine (List.perm_append_comm.append_right _).trans ?_
      rw [List.append_assoc]
      exact hrun.append_left _

/-- Sorting by runs loses and invents nothing. -/
theorem byRuns_perm (lt : α → α → Bool) (xs : List α) : (byRuns lt xs).Perm xs := by
  simp only [byRuns]
  refine (schedule_perm lt _ _ _ _ _ _ _ _).trans ?_
  simpa [contents] using nextRun_perm lt (leastRun xs.length false) xs

end FlowDraft.Sorting
