import Mathlib.Algebra.Ring.Int.Defs
import Mathlib.Algebra.Ring.Nat
import Mathlib.Data.List.Basic

/-!
# Decimal numerals

A digit is whatever `digit` gives a value, so that parsers which take more than `0` to `9` can be compared
with those that do not. A signed numeral has at most one sign.
-/

namespace Gnirehtet.Lib

def asciiDigit (c : Char) : Option Nat := if c.isDigit then some (c.toNat - 48) else none

section Numerals
variable (digit : Char → Option Nat)

/-- The value of a text of digits, of which there is at least one. -/
def numeral (text : List Char) : Option Nat :=
  if text = [] then none else (text.mapM digit).map fun values => values.foldl (10 * · + ·) 0

def signedNumeral : List Char → Option Int
  | '-' :: text => (numeral digit text).map fun n : Nat => -(n : Int)
  | '+' :: text => (numeral digit text).map fun n : Nat => (n : Int)
  | text => (numeral digit text).map fun n : Nat => (n : Int)

end Numerals

variable {digit : Char → Option Nat}

theorem mapM_congr_mem {α β : Type} {f g : α → Option β} {l : List α} (same : ∀ a ∈ l, f a = g a) :
    l.mapM f = l.mapM g := by
  induction l with
  | nil => rfl
  | cons a rest ih =>
    obtain ⟨first, later⟩ := List.forall_mem_cons.mp same
    rw [List.mapM_cons, List.mapM_cons, first, ih later]

theorem numeral_congr {digit' : Char → Option Nat} {text : List Char} (same : ∀ c ∈ text, digit c = digit' c) :
    numeral digit text = numeral digit' text := by
  rw [numeral, numeral, mapM_congr_mem same]

theorem mapM_asciiDigit {text : List Char} (digits : ∀ c ∈ text, c.isDigit) :
    text.mapM asciiDigit = some (text.map fun c => c.toNat - 48) := by
  induction text with
  | nil => rfl
  | cons c rest ih =>
    obtain ⟨first, later⟩ := List.forall_mem_cons.mp digits
    rw [List.mapM_cons, ih later, asciiDigit, if_pos first]
    rfl

theorem isDigit_toDigits (n : Nat) : ∀ c ∈ Nat.toDigits 10 n, c.isDigit := by
  intro c member
  exact Nat.isDigit_of_mem_toDigits (by decide) (by decide) member

/-- A numeral is printed with the digits `0` to `9`. -/
theorem numeral_toDigits (n : Nat) : numeral asciiDigit (Nat.toDigits 10 n) = some n := by
  have value := @Nat.ofDigitChars_ten_toDigits n
  rw [Nat.ofDigitChars_eq_foldl] at value
  rw [numeral, if_neg Nat.toDigits_ne_nil, mapM_asciiDigit (isDigit_toDigits n), Option.map_some, List.foldl_map]
  exact congrArg some value

theorem numeral_ascii {text : List Char} {n : Nat} (h : numeral asciiDigit text = some n) :
    text ≠ [] ∧ ∀ c ∈ text, c.isDigit := by
  unfold numeral at h
  split at h
  · cases h
  · rename_i some
    refine ⟨some, fun c member => ?_⟩
    obtain ⟨values, digits, -⟩ := Option.map_eq_some_iff.mp h
    clear h some
    induction text generalizing values with
    | nil => cases member
    | cons first rest ih =>
      rw [List.mapM_cons, Option.bind_eq_bind, Option.bind_eq_some_iff] at digits
      obtain ⟨value, here, digits⟩ := digits
      obtain ⟨others, later, -⟩ := Option.bind_eq_some_iff.mp digits
      rcases List.mem_cons.mp member with rfl | member
      · by_contra other
        rw [asciiDigit, if_neg other] at here
        cases here
      · exact ih member others later

/-- What has a digit in front has no sign. -/
theorem signedNumeral_digit {c : Char} {text : List Char} (first : c ≠ '-' ∧ c ≠ '+') :
    signedNumeral digit (c :: text) = (numeral digit (c :: text)).map fun n : Nat => (n : Int) := by
  unfold signedNumeral
  split
  · rename_i sign
    exact absurd (List.cons.inj sign).1 first.1
  · rename_i sign
    exact absurd (List.cons.inj sign).1 first.2
  · rfl

theorem numeral_cons {c : Char} {text : List Char} {n : Nat} (h : numeral digit (c :: text) = some n) :
    ∃ value, digit c = some value := by
  rw [numeral, if_neg (List.cons_ne_nil c text), List.mapM_cons, Option.map_eq_some_iff] at h
  obtain ⟨values, digits, -⟩ := h
  obtain ⟨value, here, -⟩ := Option.bind_eq_some_iff.mp digits
  exact ⟨value, here⟩

/-- Where signs are no digits, a numeral is a signed one. -/
theorem signedNumeral_of_numeral (minus : digit '-' = none) (plus : digit '+' = none) {text : List Char} {n : Nat}
    (h : numeral digit text = some n) : signedNumeral digit text = some (n : Int) := by
  cases text with
  | nil => cases h
  | cons c rest =>
    obtain ⟨value, here⟩ := numeral_cons h
    have first : c ≠ '-' ∧ c ≠ '+' := by
      constructor
      · rintro rfl
        rw [minus] at here
        cases here
      · rintro rfl
        rw [plus] at here
        cases here
    rw [signedNumeral_digit first, h]
    rfl

theorem signedNumeral_some {text : List Char} {i : Int} (h : signedNumeral digit text = some i) :
    (∃ rest n, text = '-' :: rest ∧ numeral digit rest = some n ∧ i = -(n : Int)) ∨
    (∃ rest n, text = '+' :: rest ∧ numeral digit rest = some n ∧ i = (n : Int)) ∨
    ∃ n, numeral digit text = some n ∧ i = (n : Int) := by
  unfold signedNumeral at h
  split at h
  · obtain ⟨n, value, rfl⟩ := Option.map_eq_some_iff.mp h
    exact .inl ⟨_, n, rfl, value, rfl⟩
  · obtain ⟨n, value, rfl⟩ := Option.map_eq_some_iff.mp h
    exact .inr (.inl ⟨_, n, rfl, value, rfl⟩)
  · obtain ⟨n, value, rfl⟩ := Option.map_eq_some_iff.mp h
    exact .inr (.inr ⟨n, value, rfl⟩)

theorem not_sign_of_isDigit {c : Char} (h : c.isDigit) : c ≠ '-' ∧ c ≠ '+' := by
  constructor <;> rintro rfl <;> contradiction

/-- Every integer that is printed is read back, by all that take the digits `0` to `9`. -/
theorem signedNumeral_toString (ascii : ∀ c : Char, c.isDigit → digit c = asciiDigit c) (i : Int) :
    signedNumeral digit (toString i).toList = some i := by
  have plain (n : Nat) : numeral digit (Nat.toDigits 10 n) = some n := by
    rw [numeral_congr fun c member => ascii c (isDigit_toDigits n c member), numeral_toDigits]
  rw [Int.toString_eq_repr, Int.repr_eq_if]
  split
  · rename_i nonneg
    rw [Nat.toList_repr]
    obtain ⟨c, text, digits⟩ := List.exists_cons_of_ne_nil (@Nat.toDigits_ne_nil i.toNat 10)
    have first : c.isDigit := isDigit_toDigits i.toNat c (digits ▸ List.mem_cons_self)
    rw [digits, signedNumeral_digit (not_sign_of_isDigit first), ← digits, plain]
    exact congrArg some (Int.toNat_of_nonneg nonneg)
  · rename_i negative
    have sign : ("-" ++ (-i).toNat.repr).toList = '-' :: Nat.toDigits 10 (-i).toNat := by
      rw [String.toList_append, Nat.toList_repr]
      rfl
    rw [sign, signedNumeral, plain, Option.map_some, Int.toNat_of_nonneg (by omega), Int.neg_neg]

theorem not_mem_toString {c : Char} (other : c.isDigit = false) (minus : c ≠ '-') (i : Int) : c ∉ (toString i).toList := by
  have outside (n : Nat) : c ∉ Nat.toDigits 10 n := by
    intro member
    rw [isDigit_toDigits n c member] at other
    cases other
  rw [Int.toString_eq_repr, Int.repr_eq_if]
  split
  · rw [Nat.toList_repr]
    exact outside _
  · rw [String.toList_append, Nat.toList_repr, List.mem_append, not_or]
    exact ⟨fun member => minus (List.mem_singleton.mp member), outside _⟩

/-- A signed numeral of 32 bits. -/
def int32Numeral (digit : Char → Option Nat) (text : List Char) : Option Int32 :=
  match signedNumeral digit text with
  | some i => if -2 ^ 31 ≤ i ∧ i < 2 ^ 31 then some (.ofInt i) else none
  | none => none

theorem int32Numeral_some {text : List Char} {i : Int} (value : signedNumeral digit text = some i)
    (low : -2 ^ 31 ≤ i) (high : i < 2 ^ 31) : ∃ found, int32Numeral digit text = some found ∧ found.toInt = i := by
  refine ⟨.ofInt i, ?_, Int32.toInt_ofInt_of_le low high⟩
  rw [int32Numeral, value]
  exact if_pos ⟨low, high⟩

theorem int32Numeral_spec {text : List Char} {found : Int32} (h : int32Numeral digit text = some found) :
    signedNumeral digit text = some found.toInt := by
  unfold int32Numeral at h
  split at h
  · rename_i i value
    split at h
    · rename_i range
      cases h
      rw [value, Int32.toInt_ofInt_of_le range.1 range.2]
    · cases h
  · cases h

theorem int32Numeral_toString (ascii : ∀ c : Char, c.isDigit → digit c = asciiDigit c) (i : Int32) :
    int32Numeral digit (toString i.toInt).toList = some i := by
  rw [int32Numeral, signedNumeral_toString ascii]
  simp only
  rw [if_pos ⟨i.le_toInt, i.toInt_lt⟩, Int32.ofInt_toInt]

end Gnirehtet.Lib
