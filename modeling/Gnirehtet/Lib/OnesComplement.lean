import Gnirehtet.Lib.Bytes

/-!
# The one's-complement checksum

The Internet checksum adds bytes in pairs as 16-bit words, brings the carries back in, and stores
the complement. Here the sum is a natural number and `fold` brings the carries in: what a receiver
compares with `0xFFFF` is the folded sum over all words, the checksum included.
-/

namespace Gnirehtet.Lib

/-! ### Folding -/

/-- The carries above 16 bits are added until there are none. -/
def fold (n : Nat) : Nat := if n < 65536 then n else fold (n % 65536 + n / 65536)

theorem fold_of_lt {n : Nat} (small : n < 65536) : fold n = n := by rw [fold, if_pos small]

theorem fold_of_ge {n : Nat} (large : ¬ n < 65536) : fold n = fold (n % 65536 + n / 65536) := by
  rw [fold, if_neg large]

theorem fold_lt (n : Nat) : fold n < 65536 := by
  induction n using fold.induct with
  | case1 n small => rwa [fold_of_lt small]
  | case2 n large ih => rwa [fold_of_ge large]

/-- Folding keeps the residue of the one's-complement numbers. -/
theorem fold_mod (n : Nat) : fold n % 65535 = n % 65535 := by
  induction n using fold.induct with
  | case1 n small => rw [fold_of_lt small]
  | case2 n large ih => rw [fold_of_ge large, ih]; omega

theorem fold_pos {n : Nat} (some : 0 < n) : 0 < fold n := by
  induction n using fold.induct with
  | case1 n small => rwa [fold_of_lt small]
  | case2 n large ih => rw [fold_of_ge large]; exact ih (by omega)

theorem fold_zero : fold 0 = 0 := fold_of_lt (by omega)

/-- A receiver accepts a sum when it is a positive multiple of 65535. -/
theorem fold_eq_max {n : Nat} : fold n = 65535 ↔ 0 < n ∧ n % 65535 = 0 := by
  have small := fold_lt n
  have residue := fold_mod n
  constructor
  · intro max
    refine ⟨?_, by rw [← residue, max]⟩
    rcases Nat.eq_zero_or_pos n with rfl | some
    · rw [fold_zero] at max
      omega
    · exact some
  · rintro ⟨some, multiple⟩
    have := fold_pos some
    omega

/-- The complement of a folded sum is the checksum that completes it. -/
theorem fold_complement (n : Nat) : fold (n + (65535 - fold n)) = 65535 := by
  have small := fold_lt n
  have residue := fold_mod n
  rw [fold_eq_max]
  rcases Nat.eq_zero_or_pos n with rfl | some
  · rw [fold_zero]
    omega
  · omega

/-! ### The sum of words -/

/-- Pairs of bytes as big-endian words; a last byte alone counts as high-order. -/
def wordSum : List UInt8 → Nat
  | high :: low :: rest => high.toNat * 256 + low.toNat + wordSum rest
  | [last] => last.toNat * 256
  | [] => 0

/-- The bytes, with a zero byte after an odd number of them. -/
def padded (bytes : List UInt8) : List UInt8 :=
  if bytes.length % 2 = 0 then bytes else bytes ++ [0]

theorem wordSum_padded (bytes : List UInt8) : wordSum (padded bytes) = wordSum bytes := by
  rw [padded]
  split
  · rfl
  · rename_i odd
    induction bytes using wordSum.induct with
    | case1 high low rest ih =>
      simp only [List.cons_append, wordSum]
      rw [ih (by simp only [List.length_cons] at odd; omega)]
    | case2 last => simp [wordSum]
    | case3 => exact absurd rfl odd

theorem wordSum_append {first : List UInt8} (even : first.length % 2 = 0) (second : List UInt8) :
    wordSum (first ++ second) = wordSum first + wordSum second := by
  induction first using wordSum.induct with
  | case1 high low rest ih =>
    simp only [List.cons_append, wordSum]
    rw [ih (by simp only [List.length_cons] at even; omega)]
    omega
  | case2 last => simp at even
  | case3 => simp [wordSum]

theorem wordSum_beBytes16 (v : UInt16) : wordSum (beBytes16 v) = v.toNat := by
  have := v.toNat_lt
  simp only [beBytes16, wordSum, UInt8.toNat_ofNat']
  omega

theorem wordSum_beBytes32 (v : UInt32) : wordSum (beBytes32 v) = v.toNat / 65536 + v.toNat % 65536 := by
  have := v.toNat_lt
  rw [beBytes32, wordSum_append (by rw [length_beBytes16]), wordSum_beBytes16, wordSum_beBytes16]
  simp only [UInt16.toNat_ofNat']
  omega

theorem wordSum_two {bytes : List UInt8} (two : bytes.length = 2) : wordSum bytes = (u16At bytes 0).toNat := by
  match bytes, two with
  | [high, low], _ =>
    rw [toNat_u16At]
    simp [wordSum, byteAt]

/-- The words at even places, added from the first one on. -/
theorem wordSum_eq_sum {bytes : List UInt8} {n : Nat} (length : bytes.length = 2 * n) :
    wordSum bytes = ((List.range n).map fun i => (u16At bytes (2 * i)).toNat).sum := by
  induction n generalizing bytes with
  | zero => rw [List.length_eq_zero_iff.mp length]; rfl
  | succ n ih =>
    have first : (bytes.take (2 * n)).length = 2 * n := by rw [List.length_take]; omega
    have last : (bytes.drop (2 * n)).length = 2 := by rw [List.length_drop]; omega
    have same : (List.range n).map (fun i => (u16At (bytes.take (2 * n)) (2 * i)).toNat) =
        (List.range n).map fun i => (u16At bytes (2 * i)).toNat := by
      apply List.map_congr_left
      intro i inside
      rw [u16At_take (by have := List.mem_range.mp inside; omega)]
    have sum : wordSum bytes = wordSum (bytes.take (2 * n)) + wordSum (bytes.drop (2 * n)) := by
      rw [← wordSum_append (by omega), List.take_append_drop]
    rw [sum, ih first, same, wordSum_two last, u16At_drop, List.range_succ, List.map_append, List.sum_append]
    simp

/-- Writing a word at an even place replaces it in the sum. -/
theorem wordSum_writeU16 (raw : List UInt8) {i : Nat} (even : i % 2 = 0) (fits : i + 2 ≤ raw.length)
    (v : UInt16) : wordSum (writeU16 raw i v) + (u16At raw i).toNat = wordSum raw + v.toNat := by
  have split : raw.take i ++ ((raw.drop i).take 2 ++ raw.drop (i + 2)) = raw := by
    rw [← List.drop_drop, List.take_append_drop, List.take_append_drop]
  have start : (raw.take i).length = i := by rw [List.length_take]; omega
  have two : ((raw.drop i).take 2).length = 2 := by rw [List.length_take, List.length_drop]; omega
  have word : u16At ((raw.drop i).take 2) 0 = u16At raw i := by
    rw [u16At_take (by omega), u16At_drop, Nat.add_zero]
  have before : wordSum raw = wordSum (raw.take i) + ((u16At raw i).toNat + wordSum (raw.drop (i + 2))) := by
    rw [← word, ← wordSum_two two, ← wordSum_append (by omega), ← wordSum_append (by omega), split]
  have after : wordSum (writeU16 raw i v) = wordSum (raw.take i) + (v.toNat + wordSum (raw.drop (i + 2))) := by
    rw [writeU16, overwrite_eq fits, List.append_assoc, wordSum_append (by omega), length_beBytes16,
      wordSum_append (by rw [length_beBytes16]), wordSum_beBytes16]
  omega

end Gnirehtet.Lib
