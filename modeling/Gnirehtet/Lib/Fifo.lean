import Gnirehtet.Lib.Run

/-!
# Bounded queues

What a bounded buffer is for: elements are put at the end when there is room, and taken from the front
in any number. Along a run nothing is lost, added or reordered.
-/

namespace Gnirehtet.Lib

universe u

structure Fifo (α : Type u) where
  capacity : Nat
  items : List α
  bounded : items.length ≤ capacity

namespace Fifo
variable {α : Type u}

inductive Op (α : Type u) where
  | put (source : List α)
  | take (n : Nat)

def new (capacity : Nat) : Fifo α where
  capacity := capacity
  items := []
  bounded := Nat.zero_le _

def room (q : Fifo α) : Nat := q.capacity - q.items.length

/-- Elements that do not fit are not put. -/
def step (q : Fifo α) : Op α → Fifo α
  | .put source =>
    if fits : source.length ≤ q.room then
      { q with
        items := q.items ++ source
        bounded := by
          have := q.bounded
          unfold room at fits
          rw [List.length_append]
          omega }
    else q
  | .take n =>
    { q with
      items := q.items.drop n
      bounded := Nat.le_trans (by rw [List.length_drop]; omega) q.bounded }

/-- There is room for what is put. -/
def Fits (q : Fifo α) : Op α → Prop
  | .put source => source.length ≤ q.room
  | .take _ => True

def Op.put? : Op α → List α
  | .put source => source
  | .take _ => []

def taken (q : Fifo α) : Op α → List α
  | .put _ => []
  | .take n => q.items.take n

/-- What is taken along a run, in order. -/
def takenAlong : Fifo α → List (Op α) → List α
  | _, [] => []
  | q, op :: rest => q.taken op ++ takenAlong (q.step op) rest

variable {q : Fifo α}

theorem items_put {source : List α} (fits : source.length ≤ q.room) :
    (q.step (.put source)).items = q.items ++ source := by
  rw [step, dif_pos fits]

@[simp] theorem capacity_step (op : Op α) : (q.step op).capacity = q.capacity := by
  cases op with
  | put source =>
    rw [step]
    split <;> rfl
  | take n => rfl

theorem step_conserves {op : Op α} (fits : q.Fits op) : q.items ++ op.put? = q.taken op ++ (q.step op).items := by
  cases op with
  | put source => exact (items_put fits).symm
  | take n =>
    show q.items ++ [] = q.items.take n ++ q.items.drop n
    rw [List.append_nil, List.take_append_drop]

/-- What was there and what was put is what was taken and what is there. -/
theorem run_conserves {ops : List (Op α)} (fits : Along step Fits q ops) :
    q.items ++ ops.flatMap Op.put? = takenAlong q ops ++ (run step q ops).items := by
  induction ops generalizing q with
  | nil =>
    show q.items ++ [] = q.items
    exact List.append_nil _
  | cons op rest ih =>
    rw [List.flatMap_cons, takenAlong, run_cons, List.append_assoc, ← ih fits.2, ← List.append_assoc,
      ← List.append_assoc, step_conserves fits.1]

end Fifo

end Gnirehtet.Lib
