import Mathlib.Data.List.Infix

/-!
# Words and lines

A word is a run of elements between separators. A line ends with a line feed, which a carriage
return may precede; the last line of a text may do without.
-/

namespace Gnirehtet.Lib

section Words
variable {α : Type} (sep : α → Bool)

/-- The words of a text, from left to right. -/
def words (text : List α) : List (List α) := (text.splitOnP sep).filter (! ·.isEmpty)

structure IsWord (w : List α) : Prop where
  some : w ≠ []
  inside : ∀ a ∈ w, sep a = false

variable {sep}

theorem mem_splitOnP {text piece : List α} (member : piece ∈ text.splitOnP sep) : ∀ a ∈ piece, sep a = false := by
  induction text generalizing piece with
  | nil =>
    rw [List.splitOnP_nil, List.mem_singleton] at member
    subst member
    simp
  | cons first rest ih =>
    rw [List.splitOnP_cons_eq_if_modifyHead] at member
    split at member
    · rcases List.mem_cons.mp member with rfl | later
      · simp
      · exact ih later
    · rename_i inside
      obtain ⟨head, tail, pieces⟩ := List.exists_cons_of_ne_nil (List.splitOnP_ne_nil sep rest)
      rw [pieces] at member ih
      rcases List.mem_cons.mp member with rfl | later
      · intro a ha
        rcases List.mem_cons.mp ha with rfl | ha
        · simpa using inside
        · exact ih List.mem_cons_self a ha
      · exact ih (List.mem_cons_of_mem head later)

/-- Every word is one. -/
theorem isWord_of_mem {text w : List α} (member : w ∈ words sep text) : IsWord sep w := by
  obtain ⟨piece, some⟩ := List.mem_filter.mp member
  exact ⟨by simpa using some, mem_splitOnP piece⟩

theorem words_nil : words sep ([] : List α) = [] := rfl

theorem words_append_sep (before after : List α) {s : α} (hs : sep s = true) :
    words sep (before ++ s :: after) = words sep before ++ words sep after := by
  rw [words, List.splitOnP_append_cons before after hs, List.filter_append]
  rfl

theorem words_sep_end (text : List α) {s : α} (hs : sep s = true) : words sep (text ++ [s]) = words sep text := by
  rw [words_append_sep text [] hs, words_nil, List.append_nil]

theorem words_word {w : List α} (h : IsWord sep w) : words sep w = [w] := by
  have some : w.isEmpty = false := by simpa using h.some
  rw [words, List.splitOnP_eq_singleton h.inside, List.filter_singleton, some]
  rfl

end Words

/-! ### Lines -/

/-- `line.strip_suffix('\r')`, where there is one. -/
def stripReturn (line : List Char) : List Char := if line.getLast? = some '\r' then line.dropLast else line

def lines (text : List Char) : List (List Char) :=
  let pieces := text.splitOn '\n'
  let last := pieces.getLastD []
  pieces.dropLast.map stripReturn ++ if last.isEmpty then [] else [last]

theorem lines_cons {line : List Char} (inside : '\n' ∉ line) (rest : List Char) :
    lines (line ++ '\n' :: rest) = stripReturn line :: lines rest := by
  have pieces : (line ++ '\n' :: rest).splitOn '\n' = line :: rest.splitOn '\n' := by
    rw [List.splitOn_eq_splitOnP, List.splitOnP_append_cons_of_forall_mem _ _ (by simp)]
    · rfl
    · intro c member
      simp only [beq_eq_false_iff_ne]
      rintro rfl
      exact inside member
  obtain ⟨head, tail, later⟩ := List.exists_cons_of_ne_nil (List.splitOn_ne_nil '\n' rest)
  simp only [lines, pieces, later]
  rfl

/-- The carriage return before a line feed makes no word. -/
theorem words_stripReturn {sep : Char → Bool} (hs : sep '\r' = true) (line : List Char) :
    words sep (stripReturn line) = words sep line := by
  unfold stripReturn
  split
  · rename_i last
    obtain ⟨front, rfl⟩ := List.getLast?_eq_some_iff.mp last
    rw [List.dropLast_concat, words_sep_end front hs]
  · rfl

end Gnirehtet.Lib
