/-!
# A stream cut at packet boundaries

Packets are sent one after the other as a stream. After some of it has arrived, a number of packets
are complete and a part of the next one is left over.
-/

namespace Gnirehtet.Lib

universe u v
variable {α : Type u}

/-- The packets that are complete in the first `n` elements of the stream. -/
def completed : List (List α) → Nat → List (List α)
  | [], _ => []
  | p :: rest, n => if p.length ≤ n then p :: completed rest (n - p.length) else []

/-- The packets that are not. -/
def missing (packets : List (List α)) (n : Nat) : List (List α) :=
  packets.drop (completed packets n).length

/-- The part of the first missing packet that has arrived. -/
def leftover (packets : List (List α)) (n : Nat) : List α :=
  (packets.flatten.take n).drop (completed packets n).flatten.length

variable (packets : List (List α))

theorem completed_append_missing (n : Nat) : completed packets n ++ missing packets n = packets := by
  induction packets generalizing n with
  | nil => rfl
  | cons p rest ih =>
    unfold missing completed
    split
    · exact congrArg (p :: ·) (ih (n - p.length))
    · rfl

theorem completed_zero {packets : List (List α)} (some : ∀ p ∈ packets, p ≠ []) : completed packets 0 = [] := by
  cases packets with
  | nil => rfl
  | cons p rest =>
    have := List.length_pos_iff.mpr (some p List.mem_cons_self)
    exact if_neg (by omega)

theorem completed_all : completed packets packets.flatten.length = packets := by
  induction packets with
  | nil => rfl
  | cons p rest ih =>
    rw [List.flatten_cons, List.length_append, completed, if_pos (Nat.le_add_right ..), Nat.add_sub_cancel_left, ih]

/-- The packets of one stream behind those of another, once all of the first have come. -/
theorem completed_append (more : List (List α)) (n : Nat) :
    completed (packets ++ more) (packets.flatten.length + n) = packets ++ completed more n := by
  induction packets with
  | nil => rw [List.nil_append, List.flatten_nil, List.length_nil, Nat.zero_add, List.nil_append]
  | cons p rest ih =>
    rw [List.cons_append, List.flatten_cons, List.length_append, Nat.add_assoc, completed,
      if_pos (Nat.le_add_right ..), Nat.add_sub_cancel_left, ih]
    rfl

theorem leftover_zero : leftover packets 0 = [] := by
  rw [leftover, List.take_zero, List.drop_nil]

theorem length_completed_le (n : Nat) : (completed packets n).flatten.length ≤ n := by
  induction packets generalizing n with
  | nil => exact Nat.zero_le n
  | cons p rest ih =>
    unfold completed
    split
    · have := ih (n - p.length)
      rw [List.flatten_cons, List.length_append]
      omega
    · exact Nat.zero_le n

theorem length_leftover {n : Nat} (arrived : n ≤ packets.flatten.length) :
    (completed packets n).flatten.length + (leftover packets n).length = n := by
  have := length_completed_le packets n
  rw [leftover, List.length_drop, List.length_take]
  omega

/-- What is left over is shorter than the packet it belongs to. -/
theorem length_leftover_le {packets : List (List α)} {n m : Nat} (small : ∀ p ∈ packets, p.length ≤ m) :
    (leftover packets n).length ≤ m := by
  induction packets generalizing n with
  | nil => simp [leftover]
  | cons p rest ih =>
    by_cases whole : p.length ≤ n
    · have later := ih (n := n - p.length) fun q member => small q (List.mem_cons_of_mem p member)
      rw [leftover, List.length_drop, List.length_take] at later ⊢
      rw [completed, if_pos whole, List.flatten_cons, List.flatten_cons, List.length_append, List.length_append]
      omega
    · have := small p List.mem_cons_self
      rw [leftover, List.length_drop, List.length_take]
      omega

theorem flatten_eq (n : Nat) : packets.flatten = (completed packets n).flatten ++ (missing packets n).flatten := by
  rw [← List.flatten_append, completed_append_missing]

theorem leftover_eq (n : Nat) :
    leftover packets n = (missing packets n).flatten.take (n - (completed packets n).flatten.length) := by
  have := length_completed_le packets n
  rw [leftover, flatten_eq packets n, List.take_append, List.drop_append, List.length_take,
    List.drop_eq_nil_of_le (by rw [List.length_take]; omega), List.nil_append, Nat.min_eq_right this,
    Nat.sub_self, List.drop_zero]

/-- What has arrived are the complete packets and the part that is left over. -/
theorem take_eq (n : Nat) : packets.flatten.take n = (completed packets n).flatten ++ leftover packets n := by
  have le := length_completed_le packets n
  rw [leftover_eq]
  conv => lhs; rw [flatten_eq packets n]
  rw [List.take_append, List.take_of_length_le le]

/-- What is left over is a part of the first packet that is not complete. -/
theorem leftover_short {packets : List (List α)} {n : Nat} {p : List α} {later : List (List α)}
    (first : missing packets n = p :: later) : leftover packets n <+: p ∧ (leftover packets n).length < p.length := by
  have short : n - (completed packets n).flatten.length < p.length := by
    induction packets generalizing n with
    | nil => cases first
    | cons q rest ih =>
      by_cases whole : q.length ≤ n
      · rw [missing, completed, if_pos whole] at first
        have inner := ih (n := n - q.length) first
        rw [completed, if_pos whole, List.flatten_cons, List.length_append]
        omega
      · rw [missing, completed, if_neg whole] at first
        cases first
        rw [completed, if_neg whole]
        exact Nat.lt_of_not_le whole
  rw [leftover_eq, first, List.flatten_cons, List.take_append_of_le_length (Nat.le_of_lt short)]
  refine ⟨List.take_prefix .., ?_⟩
  rw [List.length_take]
  omega

theorem completed_front (n : Nat) : completed packets n <+: packets :=
  ⟨missing packets n, completed_append_missing packets n⟩

/-- The last packet is complete only when everything has come. -/
theorem completed_before_last {p : List α} {n : Nat} (short : n < (packets ++ [p]).flatten.length) :
    completed (packets ++ [p]) n <+: packets := by
  have front := completed_front (packets ++ [p]) n
  by_cases before : (completed (packets ++ [p]) n).length ≤ packets.length
  · exact List.prefix_of_prefix_length_le front (List.prefix_append ..) before
  · have all : completed (packets ++ [p]) n = packets ++ [p] := by
      refine front.eq_of_length_le ?_
      rw [List.length_append, List.length_singleton]
      omega
    have le := length_completed_le (packets ++ [p]) n
    rw [all] at le
    omega

theorem completed_missing (n m : Nat) : completed packets (n + m) =
    completed packets n ++ completed (missing packets n) (n - (completed packets n).flatten.length + m) := by
  induction packets generalizing n with
  | nil => rfl
  | cons p rest ih =>
    by_cases inside : p.length ≤ n
    · have more := ih (n - p.length)
      have le := length_completed_le rest (n - p.length)
      simp only [missing, completed, inside, if_true, if_pos (show p.length ≤ n + m by omega), List.length_cons,
        List.drop_succ_cons, List.flatten_cons, List.length_append, List.cons_append, List.cons.injEq, true_and]
      rw [show n + m - p.length = n - p.length + m by omega, more, missing]
      congr 2
      omega
    · simp only [missing, completed, inside, if_false, List.length_nil, List.drop_zero, List.flatten_nil,
        List.nil_append, Nat.sub_zero]

theorem leftover_missing (n m : Nat) : leftover packets (n + m) =
    ((missing packets n).flatten.take (n - (completed packets n).flatten.length + m)).drop
      (completed (missing packets n) (n - (completed packets n).flatten.length + m)).flatten.length := by
  have le := length_completed_le packets n
  rw [leftover, completed_missing, List.flatten_append, List.length_append, ← List.drop_drop]
  congr 1
  conv => lhs; rw [flatten_eq packets n]
  rw [List.take_append, List.take_of_length_le (by omega), List.drop_left,
    show n + m - (completed packets n).flatten.length = n - (completed packets n).flatten.length + m by omega]

/-- What comes next continues what is left over. -/
theorem leftover_append {n : Nat} {next : List α}
    (follows : next <+: packets.flatten.drop n) : leftover packets n ++ next =
      (missing packets n).flatten.take (n - (completed packets n).flatten.length + next.length) := by
  have le := length_completed_le packets n
  have whole := congrArg List.length (flatten_eq packets n)
  rw [List.length_append] at whole
  have behind : packets.flatten.drop n =
      (missing packets n).flatten.drop (n - (completed packets n).flatten.length) := by
    conv => lhs; rw [flatten_eq packets n]
    rw [List.drop_append, List.drop_eq_nil_of_le le, List.nil_append]
  rw [behind, List.prefix_iff_eq_take] at follows
  rw [leftover_eq, List.take_add, ← follows]

/-- What is missing comes behind what is left over. -/
theorem leftover_append_all {n : Nat} (arrived : n ≤ packets.flatten.length) :
    leftover packets n ++ packets.flatten.drop n = (missing packets n).flatten := by
  have whole := congrArg List.length (flatten_eq packets n)
  rw [List.length_append] at whole
  rw [leftover_append packets List.prefix_rfl, List.length_drop]
  have le := length_completed_le packets n
  exact List.take_of_length_le (by omega)

/-- The chunk that brings the element at place `n`. -/
theorem exists_crossing {β : Type v} (f : β → List α) {chunks : List β} {n : Nat}
    (inside : n < (chunks.map f).flatten.length) : ∃ first c rest, chunks = first ++ c :: rest ∧
      (first.map f).flatten.length ≤ n ∧ n < (first.map f).flatten.length + (f c).length := by
  induction chunks generalizing n with
  | nil => exact absurd inside (Nat.not_lt_zero n)
  | cons c rest ih =>
    by_cases here : n < (f c).length
    · exact ⟨[], c, rest, rfl, Nat.zero_le n, by simpa using here⟩
    · rw [List.map_cons, List.flatten_cons, List.length_append] at inside
      obtain ⟨first, d, later, rfl, before, within⟩ := ih (n := n - (f c).length) (by omega)
      refine ⟨c :: first, d, later, rfl, ?_, ?_⟩ <;>
      · rw [List.map_cons, List.flatten_cons, List.length_append]
        omega

end Gnirehtet.Lib
