import Mathlib.Data.List.Basic

/-!
# Streams that come in pieces

One `read` of a stream returns the front of its first piece at most, so that a reader who wants a number
of elements reads again and again. What `readExact` returns, and what it leaves, depend on the pieces
joined, not on where the stream is divided.
-/

namespace Gnirehtet.Lib

/-- What a stream still delivers. The last read returns nothing or fails. -/
structure Source (ε α : Type) where
  pieces : List (List α)
  ending : Except ε Unit
  nonempty : ∀ piece ∈ pieces, piece ≠ []

namespace Source
variable {ε α : Type}

def content (s : Source ε α) : List α := s.pieces.flatten

/-- Why a reader gets no more: the end of the stream, or an error. -/
def stopped (s : Source ε α) : Option ε :=
  match s.ending with
  | .ok _ => none
  | .error e => some e

/-- One call of `read` with room for `n` elements. -/
def read (s : Source ε α) (n : Nat) : Except ε (List α × Source ε α) :=
  match pieces : s.pieces with
  | [] => s.ending.map fun _ => ([], s)
  | piece :: rest =>
    if long : n < piece.length then
      .ok (piece.take n, { s with
        pieces := piece.drop n :: rest
        nonempty := by
          intro other member
          rcases List.mem_cons.mp member with rfl | later
          · exact List.ne_nil_of_length_pos (by rw [List.length_drop]; omega)
          · exact s.nonempty other (by rw [pieces]; exact List.mem_cons_of_mem _ later) })
    else
      .ok (piece, { s with
        pieces := rest
        nonempty := fun other member => s.nonempty other (by rw [pieces]; exact List.mem_cons_of_mem _ member) })

/-- A read of a stream with something left returns some of it. -/
theorem read_some {s : Source ε α} {n : Nat} (left : s.content ≠ []) (room : 0 < n) : ∃ front s',
    s.read n = .ok (front, s') ∧ front ≠ [] ∧ front.length ≤ n ∧ s.content = front ++ s'.content ∧
      s'.ending = s.ending := by
  obtain ⟨pieces, ending, nonempty⟩ := s
  cases pieces with
  | nil => exact absurd rfl left
  | cons piece rest =>
    have some : piece ≠ [] := nonempty piece List.mem_cons_self
    by_cases long : n < piece.length
    · refine ⟨piece.take n, ⟨piece.drop n :: rest, ending, _⟩, dif_pos long, ?_, ?_, ?_, rfl⟩
      · rw [← List.length_pos_iff, List.length_take]
        omega
      · exact List.length_take_le ..
      · show piece ++ rest.flatten = piece.take n ++ (piece.drop n ++ rest.flatten)
        rw [← List.append_assoc, List.take_append_drop]
    · exact ⟨piece, ⟨rest, ending, _⟩, dif_neg long, some, Nat.le_of_not_lt long, rfl, rfl⟩

theorem read_end {s : Source ε α} (n : Nat) (drained : s.content = []) : s.read n = s.ending.map fun _ => ([], s) := by
  obtain ⟨pieces, ending, nonempty⟩ := s
  cases pieces with
  | nil => rfl
  | cons piece rest =>
    exact absurd (List.append_eq_nil_iff.mp drained).1 (nonempty piece List.mem_cons_self)

/-- Reads until there are `n` elements. An end before that is no result. -/
def readExact (n : Nat) (s : Source ε α) : Except (Option ε) (List α × Source ε α) :=
  if n = 0 then .ok ([], s)
  else
    match s.read n with
    | .error e => .error (some e)
    | .ok (front, s') =>
      if front = [] then .error none
      else
        match readExact (n - front.length) s' with
        | .error e => .error e
        | .ok (more, last) => .ok (front ++ more, last)
termination_by n
decreasing_by
  rename_i some
  have := List.length_pos_iff.mpr some
  omega

/-- However it is divided, a stream with enough left gives its front. -/
theorem readExact_append {front rest : List α} {s : Source ε α} (content : s.content = front ++ rest) :
    ∃ s', readExact front.length s = .ok (front, s') ∧ s'.content = rest ∧ s'.ending = s.ending := by
  induction number : front.length using Nat.strongRecOn generalizing front s with
  | ind n ih =>
    unfold readExact
    by_cases zero : n = 0
    · rw [if_pos zero, List.length_eq_zero_iff.mp (number.trans zero)]
      rw [List.length_eq_zero_iff.mp (number.trans zero)] at content
      exact ⟨s, rfl, content, rfl⟩
    · have left : s.content ≠ [] := by
        rw [content]
        exact List.append_ne_nil_of_left_ne_nil (List.ne_nil_of_length_pos (by omega)) _
      obtain ⟨first, s₁, read, some, short, split, same⟩ := read_some left (Nat.pos_of_ne_zero zero)
      have positive := List.length_pos_iff.mpr some
      obtain ⟨second, rfl⟩ : ∃ second, front = first ++ second := by
        refine ⟨front.drop first.length, ?_⟩
        have taken : first = front.take first.length := by
          have both := split.symm.trans content
          have := congrArg (List.take first.length) both
          rwa [List.take_left, List.take_append_of_le_length (by omega)] at this
        exact (List.take_append_drop first.length front).symm.trans (by rw [← taken])
      rw [List.length_append] at number
      have behind : s₁.content = second ++ rest := by
        rw [content, List.append_assoc] at split
        exact (List.append_cancel_left split).symm
      obtain ⟨s', more, kept, ending⟩ := ih second.length (by omega) behind rfl
      rw [if_neg zero, read]
      refine ⟨s', ?_, kept, ending.trans same⟩
      dsimp only
      rw [if_neg some, show n - first.length = second.length by omega, more]

/-- A stream that ends too early. -/
theorem readExact_short {n : Nat} {s : Source ε α} (short : s.content.length < n) :
    readExact n s = .error s.stopped := by
  induction n using Nat.strongRecOn generalizing s with
  | ind n ih =>
    unfold readExact
    rw [if_neg (by omega)]
    by_cases drained : s.content = []
    · rw [read_end n drained, stopped]
      cases s.ending <;> rfl
    · obtain ⟨first, s₁, read, some, _, split, same⟩ := read_some drained (show 0 < n by omega)
      have positive := List.length_pos_iff.mpr some
      rw [split, List.length_append] at short
      rw [read]
      dsimp only
      rw [if_neg some, ih (n - first.length) (by omega) (by omega), stopped, stopped, same]

end Source

end Gnirehtet.Lib
