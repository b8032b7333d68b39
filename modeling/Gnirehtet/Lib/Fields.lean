import Mathlib.Data.List.Basic

/-!
# Fields of a line

A line is cut at a separator, from the left or from the right, into a given number of pieces at most; and
occurrences of a pattern are replaced from the left, where the next is looked for behind the last.
-/

namespace Gnirehtet.Lib

universe u
variable {α : Type u} [DecidableEq α]

/-- The pieces from the left, of which the last holds the separators that are left. -/
def splitn (sep : α) : Nat → List α → List (List α)
  | 0, _ => []
  | 1, text => [text]
  | n + 2, text =>
    if sep ∈ text then
      text.takeWhile (· ≠ sep) :: splitn sep (n + 1) ((text.dropWhile (· ≠ sep)).tail)
    else [text]

/-- The pieces from the right, the rightmost first. -/
def rsplitn (sep : α) (n : Nat) (text : List α) : List (List α) := (splitn sep n text.reverse).map List.reverse

variable {sep : α}

theorem splitn_cons {front : List α} (inside : sep ∉ front) (n : Nat) (rest : List α) :
    splitn sep (n + 2) (front ++ sep :: rest) = front :: splitn sep (n + 1) rest := by
  have keep : ∀ a ∈ front, decide (a ≠ sep) = true := by
    intro a member
    rw [decide_eq_true_eq]
    rintro rfl
    exact inside member
  rw [splitn, if_pos (by simp), List.takeWhile_append_of_pos keep, List.dropWhile_append_of_pos keep]
  simp

theorem rsplitn_append {last : List α} (inside : sep ∉ last) (n : Nat) (front : List α) :
    rsplitn sep (n + 2) (front ++ sep :: last) = last :: rsplitn sep (n + 1) front := by
  have turned : (front ++ sep :: last).reverse = last.reverse ++ sep :: front.reverse := by simp
  rw [rsplitn, turned, splitn_cons (by simpa using inside), List.map_cons, List.reverse_reverse]
  rfl

theorem rsplitn_one (text : List α) : rsplitn sep 1 text = [text] := by
  rw [rsplitn, splitn, List.map_singleton, List.reverse_reverse]

/-- `skip` elements belong to the occurrence that has been replaced. -/
def replaceFrom (pattern other : List α) : Nat → List α → List α
  | _, [] => []
  | skip + 1, _ :: rest => replaceFrom pattern other skip rest
  | 0, a :: rest =>
    if pattern <+: a :: rest then other ++ replaceFrom pattern other (pattern.length - 1) rest
    else a :: replaceFrom pattern other 0 rest

/-- All occurrences of the pattern, which is not empty. -/
def replace (pattern other text : List α) : List α := replaceFrom pattern other 0 text

theorem replace_cons {pattern other rest : List α} {a : α} (away : ¬ pattern <+: a :: rest) :
    replace pattern other (a :: rest) = a :: replace pattern other rest := if_neg away

theorem replaceFrom_skip (pattern other : List α) (skip : Nat) (text : List α) :
    replaceFrom pattern other skip text = replace pattern other (text.drop skip) := by
  induction skip generalizing text with
  | zero => rfl
  | succ skip ih =>
    cases text with
    | nil => rfl
    | cons a rest => exact ih rest

theorem replace_append {pattern : List α} (some : pattern ≠ []) (other rest : List α) :
    replace pattern other (pattern ++ rest) = other ++ replace pattern other rest := by
  obtain ⟨a, tail, rfl⟩ := List.exists_cons_of_ne_nil some
  have front : a :: tail <+: a :: (tail ++ rest) := List.prefix_append (a :: tail) rest
  rw [List.cons_append, replace, replaceFrom, if_pos front, replaceFrom_skip, List.length_cons, Nat.add_sub_cancel,
    List.drop_left]

end Gnirehtet.Lib
