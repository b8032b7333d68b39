import Mathlib.Data.List.Basic

/-!
# Marking the first match of a list

`updateFirst` changes the first element that meets a condition. When the changed element no longer meets
it, the matches that are left are the others, in their order.
-/

namespace Gnirehtet.Lib

universe u
variable {α : Type u}

def updateFirst (p : α → Bool) (f : α → α) : List α → List α
  | [] => []
  | a :: rest => if p a then f a :: rest else a :: updateFirst p f rest

theorem filter_updateFirst {p : α → Bool} {f : α → α} (marks : ∀ a, p (f a) = false) (l : List α) :
    (updateFirst p f l).filter p = (l.filter p).tail := by
  induction l with
  | nil => rfl
  | cons a rest ih =>
    unfold updateFirst
    split
    · rename_i found
      rw [List.filter_cons_of_neg (by simp [marks]), List.filter_cons_of_pos found, List.tail_cons]
    · rename_i other
      rw [List.filter_cons_of_neg other, List.filter_cons_of_neg other, ih]

theorem getElem?_updateFirst (p : α → Bool) (f : α → α) (l : List α) (i : Nat) :
    (updateFirst p f l)[i]? = if l.findIdx? p = some i then l[i]?.map f else l[i]? := by
  induction l generalizing i with
  | nil => simp [updateFirst]
  | cons a rest ih =>
    unfold updateFirst
    cases found : p a with
    | true =>
      cases i <;> simp [List.findIdx?_cons, found]
    | false =>
      cases i with
      | zero => simp [List.findIdx?_cons, found]
      | succ i => simp [List.findIdx?_cons, found, ih]

theorem head?_filter_eq (p : α → Bool) (l : List α) : (l.filter p).head? = (l.findIdx? p).bind (l[·]?) := by
  rw [List.head?_filter, List.find?_eq_bind_findIdx?_getElem?]

end Gnirehtet.Lib
