import FlowDraft.Sorting.Place

/-!
# `FlowDraft.Sorting.Merge`: merging two runs

A run is a list in order. Two runs are merged from that end where the shorter one is used up first:
from the front, or from the back. At first the runs are compared item by item. When one of them has
given so many items in turn as the patience lasts, whole stretches are sought, until the stretches
are short again.

Of runs that are in order the same list comes out, whatever is sought when. The account of it is
kept because with keys that are comparable with nothing no run is in order.

* `mergeRuns_perm`: merging loses and invents nothing, whatever the order is.
-/

set_option autoImplicit false

namespace FlowDraft.Sorting

/-- The end from which two runs are merged. -/
inductive Side where
  | front
  | back
deriving Repr, DecidableEq

namespace Side

/-- The item of a run that is next. -/
def next? {α : Type} : Side → List α → Option α
  | front, xs => xs.head?
  | back, xs => xs.getLast?

/-- So many items at that end of a run. -/
def taken {α : Type} : Side → Nat → List α → List α
  | front, k, xs => xs.take k
  | back, k, xs => xs.drop (xs.length - k)

/-- A run without so many items at that end. -/
def left {α : Type} : Side → Nat → List α → List α
  | front, k, xs => xs.drop k
  | back, k, xs => xs.take (xs.length - k)

/-- Items put to what has been merged so far. -/
def put {α : Type} : Side → (merged items : List α) → List α
  | front, merged, items => merged ++ items
  | back, merged, items => items ++ merged

/-- The number of items between that end and the place in a run. -/
def count {α : Type} : Side → (α → Bool) → List α → Nat
  | front, beyond, xs => placeNear beyond xs 0
  | back, beyond, xs => xs.length - placeNear beyond xs (xs.length - 1)

theorem taken_left_perm {α : Type} (side : Side) (k : Nat) (xs : List α) :
    (side.taken k xs ++ side.left k xs).Perm xs := by
  cases side with
  | front => simp [taken, left]
  | back =>
    have := @List.perm_append_comm _ (xs.drop (xs.length - k)) (xs.take (xs.length - k))
    simpa [taken, left] using this

theorem put_perm {α : Type} (side : Side) (merged items : List α) :
    (side.put merged items).Perm (merged ++ items) := by
  cases side with
  | front => exact .refl _
  | back => exact List.perm_append_comm

end Side

/-- Two runs that are being merged. -/
structure Merging (α : Type) where
  side : Side
  /-- What is left of the first run. -/
  first : List α
  /-- What is left of the second run. -/
  second : List α
  merged : List α := []

namespace Merging

variable {α : Type}

/-- The items of both runs. -/
def contents (m : Merging α) : List α :=
  m.merged ++ (m.first ++ m.second)

/-- So many items of the first run are merged. -/
def takeFirst (k : Nat) (m : Merging α) : Merging α :=
  { m with
    first := m.side.left k m.first
    merged := m.side.put m.merged (m.side.taken k m.first) }

/-- So many items of the second run are merged. -/
def takeSecond (k : Nat) (m : Merging α) : Merging α :=
  { m with
    second := m.side.left k m.second
    merged := m.side.put m.merged (m.side.taken k m.second) }

/-- Nothing is left to compare: a run is used up, or of the one that is not to be used up first a
single item is left, which is the last one of all. -/
def isSettled (m : Merging α) : Bool :=
  match m.side with
  | .front => m.second.isEmpty || m.first.length ≤ 1
  | .back => m.first.isEmpty || m.second.length ≤ 1

/-- The merged list, once nothing is left to compare. -/
def finish (m : Merging α) : List α :=
  match m.side with
  | .front => m.merged ++ (if m.first.length ≤ 1 then m.second ++ m.first else m.first ++ m.second)
  | .back => (if m.second.length ≤ 1 then m.second ++ m.first else m.first ++ m.second) ++ m.merged

/-- A step that is only taken as long as something is left to compare. -/
def andThen (m : Merging α) (step : Merging α → Merging α) : Merging α :=
  if m.isSettled then m else step m

/-- The second run is the one to give its next item. Of items that are equal the first run gives
its own to the front, and the second run to the back. -/
def secondGives (lt : α → α → Bool) (m : Merging α) : Bool :=
  let smaller := (m.side.next? m.second).any fun y => (m.side.next? m.first).any fun x => lt y x
  match m.side with
  | .front => smaller
  | .back => !smaller

/-- The number of items of the first run that come before the next one of the second run, as seen
from the end where the runs are merged. -/
def firstCount (lt : α → α → Bool) (m : Merging α) : Nat :=
  m.side.count (fun x => (m.side.next? m.second).any fun y => lt y x) m.first

/-- The number of items of the second run that come before the next one of the first run. -/
def secondCount (lt : α → α → Bool) (m : Merging α) : Nat :=
  m.side.count (fun y => (m.side.next? m.first).any fun x => !lt y x) m.second

/-- How the runs are compared. -/
inductive Pace where
  /-- Item by item. The numbers say how many items each run has given in turn. -/
  | items (first second : Nat)
  /-- By whole stretches. -/
  | stretches

/-- The shortest stretch for which stretches are sought on. -/
def leastStretch : Nat := 7

/-- One item is merged. -/
def giveItem (lt : α → α → Bool) (m : Merging α) : Merging α :=
  if m.secondGives lt then m.takeSecond 1 else m.takeFirst 1

/-- How many items each run has given in turn when one more is merged. -/
def inTurn (lt : α → α → Bool) (m : Merging α) (first second : Nat) : Nat × Nat :=
  if m.secondGives lt then (0, second + 1) else (first + 1, 0)

/-- A stretch of the first run is merged, an item of the second one, a stretch of the second one and
an item of the first one. The number is the length of the longer stretch. -/
def giveStretches (lt : α → α → Bool) (m : Merging α) : Merging α × Nat :=
  let firsts := m.firstCount lt
  let halfway := (m.takeFirst firsts).andThen (takeSecond 1)
  let seconds := halfway.secondCount lt
  ((halfway.andThen (takeSecond seconds)).andThen (takeFirst 1), max firsts seconds)

/-- The merged list and the patience that is left. Patience shrinks while stretches are long, and
grows when they are not long any more. -/
def run (lt : α → α → Bool) : (fuel : Nat) → Pace → (patience : Nat) → Merging α → List α × Nat
  | 0, _, patience, m => (m.finish, patience)
  | fuel + 1, .items first second, patience, m =>
    let next := m.giveItem lt
    let (first, second) := m.inTurn lt first second
    if next.isSettled then (next.finish, patience)
    else if patience ≤ max first second then run lt fuel .stretches patience next
    else run lt fuel (.items first second) patience next
  | fuel + 1, .stretches, patience, m =>
    let (next, longer) := m.giveStretches lt
    if next.isSettled then (next.finish, patience)
    else if leastStretch ≤ longer then run lt fuel .stretches (max 1 (patience - 1)) next
    else run lt fuel (.items 0 0) (patience + 1) next

/-! ### Nothing is lost -/

theorem takeFirst_perm (k : Nat) (m : Merging α) : (m.takeFirst k).contents.Perm m.contents := by
  have hput := m.side.put_perm m.merged (m.side.taken k m.first)
  have hcut := m.side.taken_left_perm k m.first
  refine (hput.append_right _).trans ?_
  simp only [List.append_assoc, takeFirst, contents]
  exact (by simpa using hcut.append_right m.second : List.Perm _ _).append_left m.merged

theorem takeSecond_perm (k : Nat) (m : Merging α) : (m.takeSecond k).contents.Perm m.contents := by
  have hput := m.side.put_perm m.merged (m.side.taken k m.second)
  have hcut := m.side.taken_left_perm k m.second
  refine (hput.append_right _).trans ?_
  simp only [List.append_assoc, takeSecond, contents]
  refine List.Perm.append_left m.merged ?_
  have hswap := @List.perm_append_comm_assoc _ (m.side.taken k m.second) m.first
    (m.side.left k m.second)
  exact hswap.trans (hcut.append_left m.first)

theorem andThen_perm (m : Merging α) (step : Merging α → Merging α)
    (h : ∀ n, (step n).contents.Perm n.contents) : (m.andThen step).contents.Perm m.contents := by
  unfold andThen
  split
  · exact .refl _
  · exact h m

theorem finish_perm (m : Merging α) : m.finish.Perm m.contents := by
  unfold finish contents
  cases m.side with
  | front =>
    refine List.Perm.append_left m.merged ?_
    split
    · exact List.perm_append_comm
    · exact .refl _
  | back =>
    refine List.perm_append_comm.trans (List.Perm.append_left m.merged ?_)
    split
    · exact List.perm_append_comm
    · exact .refl _

theorem giveItem_perm (lt : α → α → Bool) (m : Merging α) :
    (m.giveItem lt).contents.Perm m.contents := by
  unfold giveItem
  split
  · exact m.takeSecond_perm 1
  · exact m.takeFirst_perm 1

theorem giveStretches_perm (lt : α → α → Bool) (m : Merging α) :
    (m.giveStretches lt).1.contents.Perm m.contents :=
  (andThen_perm _ _ (takeFirst_perm 1)).trans <|
    (andThen_perm _ _ (takeSecond_perm _)).trans <|
      (andThen_perm _ _ (takeSecond_perm 1)).trans (m.takeFirst_perm _)

theorem run_perm (lt : α → α → Bool) (fuel : Nat) (pace : Pace) (patience : Nat) (m : Merging α) :
    (run lt fuel pace patience m).1.Perm m.contents := by
  induction fuel generalizing pace patience m with
  | zero => exact m.finish_perm
  | succ fuel ih =>
    have hend : ∀ (n : Merging α) (yes : Bool) (p q : Pace) (a b : Nat) (long : Prop)
        [Decidable long], n.contents.Perm m.contents →
        (if yes then (n.finish, patience)
          else if long then run lt fuel p a n else run lt fuel q b n).1.Perm m.contents := by
      intro n yes p q a b long _ hn
      split
      · exact n.finish_perm.trans hn
      · split
        · exact (ih _ _ n).trans hn
        · exact (ih _ _ n).trans hn
    cases pace with
    | items first second => exact hend _ _ _ _ _ _ _ (m.giveItem_perm lt)
    | stretches => exact hend _ _ _ _ _ _ _ (m.giveStretches_perm lt)

end Merging

/-- Two runs merged, and the patience that is left. The items of the first run that come before all
of the second, and those of the second that come behind all of the first, stay where they are. -/
def mergeRuns {α : Type} (lt : α → α → Bool) (patience : Nat) (first second : List α) :
    List α × Nat :=
  let k := placeNear (fun x => second.head?.any fun y => lt y x) first 0
  let later := first.drop k
  let n := placeNear (fun y => later.getLast?.any fun x => !lt y x) second (second.length - 1)
  let sooner := second.take n
  if later.isEmpty || sooner.isEmpty then (first ++ second, patience)
  else
    let m := if later.length ≤ sooner.length
      then Merging.takeSecond 1 ⟨.front, later, sooner, []⟩
      else Merging.takeFirst 1 ⟨.back, later, sooner, []⟩
    let (merged, patience) := if m.isSettled then (m.finish, patience)
      else m.run lt (later.length + sooner.length) (.items 0 0) patience
    (first.take k ++ (merged ++ second.drop n), patience)

theorem mergeRuns_perm {α : Type} (lt : α → α → Bool) (patience : Nat) (first second : List α) :
    (mergeRuns lt patience first second).1.Perm (first ++ second) := by
  simp only [mergeRuns]
  generalize placeNear (fun x => second.head?.any fun y => lt y x) first 0 = k
  generalize placeNear (fun y => (first.drop k).getLast?.any fun x => !lt y x) second
    (second.length - 1) = n
  split
  · exact .refl _
  · have hbegin : ∀ m : Merging α,
        m = (if (first.drop k).length ≤ (second.take n).length
          then Merging.takeSecond 1 ⟨.front, first.drop k, second.take n, []⟩
          else Merging.takeFirst 1 ⟨.back, first.drop k, second.take n, []⟩) →
        m.contents.Perm (first.drop k ++ second.take n) := by
      rintro _ rfl
      split
      · exact Merging.takeSecond_perm _ _
      · exact Merging.takeFirst_perm _ _
    generalize (if (first.drop k).length ≤ (second.take n).length
      then Merging.takeSecond 1 ⟨.front, first.drop k, second.take n, []⟩
      else Merging.takeFirst 1 ⟨.back, first.drop k, second.take n, []⟩) = m at hbegin ⊢
    have hm := hbegin m rfl
    have hmerged : (if m.isSettled then (m.finish, patience)
        else m.run lt ((first.drop k).length + (second.take n).length) (.items 0 0) patience).1.Perm
        (first.drop k ++ second.take n) := by
      split
      · exact m.finish_perm.trans hm
      · exact (m.run_perm lt _ _ _).trans hm
    have hall := (hmerged.append_right (second.drop n)).append_left (first.take k)
    refine hall.trans ?_
    rw [List.append_assoc, List.take_append_drop, ← List.append_assoc, List.take_append_drop]

end FlowDraft.Sorting
