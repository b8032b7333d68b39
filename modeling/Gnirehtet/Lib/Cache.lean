import Gnirehtet.Lib.Bytes

/-!
# Bytes with a cached reading

A record in an array of bytes is often kept together with the values that were read from it, and each
edit writes both. A `Cache` is such a pair with its edits. An edit names the bits that it may change;
`Sound` says that one edit keeps the values equal to what the bytes say and leaves all other bits, and
`Sound.run` that every sequence of edits does.
-/

namespace Gnirehtet.Lib

/-! ### Frames -/

/-- All bits of the words in `start..stop`, by the number of the word. -/
def wordsIn (start stop k : Nat) : UInt16 := if start ≤ 2 * k ∧ 2 * k < stop then 0xFFFF else 0

/-- Some bits of the word at `start`. -/
def bitsAt (start : Nat) (bits : UInt16) (k : Nat) : UInt16 := if 2 * k = start then bits else 0

/-- Two arrays that differ at most in the named bits of their words. -/
structure Framed (named : Nat → UInt16) (raw raw' : List UInt8) : Prop where
  length : raw'.length = raw.length
  same : ∀ k, u16At raw' (2 * k) &&& ~~~named k = u16At raw (2 * k) &&& ~~~named k

theorem complement_or (x y : UInt16) : ~~~(x ||| y) = ~~~x &&& ~~~y := UInt16.toBitVec_inj.mp BitVec.not_or

namespace Framed
variable {named named' : Nat → UInt16} {raw raw' raw'' : List UInt8}

theorem refl (named : Nat → UInt16) (raw : List UInt8) : Framed named raw raw := ⟨rfl, fun _ => rfl⟩

theorem trans (first : Framed named raw raw') (second : Framed named' raw' raw'') :
    Framed (fun k => named k ||| named' k) raw raw'' := by
  refine ⟨second.length.trans first.length, ?_⟩
  intro k
  calc u16At raw'' (2 * k) &&& ~~~(named k ||| named' k)
      = u16At raw'' (2 * k) &&& ~~~named' k &&& ~~~named k := by
        rw [complement_or, UInt16.and_comm (~~~named k), UInt16.and_assoc]
    _ = u16At raw' (2 * k) &&& ~~~named k &&& ~~~named' k := by
        rw [second.same, UInt16.and_assoc, UInt16.and_comm (~~~named' k), UInt16.and_assoc]
    _ = u16At raw (2 * k) &&& ~~~(named k ||| named' k) := by
        rw [first.same, complement_or, UInt16.and_assoc]

/-- A word of which no bit is named keeps both its bytes. -/
theorem byteAt_eq (framed : Framed named raw raw') {i : Nat} (free : named (i / 2) = 0) :
    byteAt raw' i = byteAt raw i := by
  have word := congrArg UInt16.toNat (framed.same (i / 2))
  rw [free, UInt16.not_zero, UInt16.and_neg_one, UInt16.and_neg_one, toNat_u16At, toNat_u16At] at word
  have := (byteAt raw (2 * (i / 2))).toNat_lt
  have := (byteAt raw' (2 * (i / 2))).toNat_lt
  have := (byteAt raw (2 * (i / 2) + 1)).toNat_lt
  have := (byteAt raw' (2 * (i / 2) + 1)).toNat_lt
  apply UInt8.toNat.inj
  by_cases even : i % 2 = 0
  · rw [show 2 * (i / 2) = i by omega] at *
    omega
  · rw [show 2 * (i / 2) = i - 1 by omega, show i - 1 + 1 = i by omega] at *
    omega

end Framed

section Writes
variable {raw : List UInt8} {start stop : Nat}

/-- What is named word by word may be written. -/
theorem framed_of_outside {raw' : List UInt8} (even : start % 2 = 0) (even' : stop % 2 = 0)
    (length : raw'.length = raw.length)
    (outside : ∀ i, i < start ∨ stop ≤ i → byteAt raw' i = byteAt raw i) : Framed (wordsIn start stop) raw raw' := by
  refine ⟨length, ?_⟩
  intro k
  unfold wordsIn
  split
  · rw [show ~~~(0xFFFF : UInt16) = 0 by decide, UInt16.and_zero, UInt16.and_zero]
  · rw [u16At, u16At, outside (2 * k) (by omega), outside (2 * k + 1) (by omega)]

theorem framed_overwrite {source : List UInt8} (even : start % 2 = 0) (even' : stop % 2 = 0)
    (length : start + source.length = stop) (fits : stop ≤ raw.length) :
    Framed (wordsIn start stop) raw (overwrite raw start source) :=
  framed_of_outside even even' (length_overwrite ..) fun _ outside =>
    byteAt_overwrite_other (by omega) (by omega)

theorem framed_swapRange {out : List UInt8} {j n : Nat} (swapped : swapRange raw start j n = .ok out)
    (even : start % 2 = 0) (even' : stop % 2 = 0) (next : start + n = j) (last : j + n = stop) :
    Framed (wordsIn start stop) raw out := by
  refine framed_of_outside even even' (length_swapRange swapped) ?_
  rintro i (before | after)
  · exact byteAt_swapRange_other swapped before (by omega)
  · exact byteAt_swapRange_after swapped (by omega) (Or.inr (by omega))

theorem framed_bits {bits v : UInt16} (fits : start + 2 ≤ raw.length) (even : start % 2 = 0)
    (keeps : v &&& ~~~bits = u16At raw start &&& ~~~bits) : Framed (bitsAt start bits) raw (writeU16 raw start v) := by
  refine ⟨length_writeU16 .., ?_⟩
  intro k
  unfold bitsAt
  split
  · rename_i here
    rw [here, u16At_writeU16 fits, keeps]
  · rw [u16At_writeU16_other fits (by omega)]

end Writes

/-! ### Edits -/

structure Cache where
  State : Type
  Edit : Type
  raw : State → List UInt8
  /-- The values are those that are read from the bytes. -/
  Coherent : State → Prop
  /-- The number of bytes that the record needs. -/
  least : Nat
  perform : Edit → State → Checked State
  named : Edit → Nat → UInt16
  /-- The edits that never fail. -/
  Plain : Edit → Prop

namespace Cache

def run (c : Cache) (edits : List c.Edit) (s : c.State) : Checked c.State :=
  edits.foldlM (fun s edit => c.perform edit s) s

/-- The bits that one of the edits names. -/
def namedBy (c : Cache) : List c.Edit → Nat → UInt16
  | [] => fun _ => 0
  | edit :: edits => fun k => c.named edit k ||| namedBy c edits k

structure Sound (c : Cache) : Prop where
  coherent : ∀ {edit s s'}, c.least ≤ (c.raw s).length → c.Coherent s → c.perform edit s = .ok s' → c.Coherent s'
  framed : ∀ {edit s s'}, c.least ≤ (c.raw s).length → c.perform edit s = .ok s' →
    Framed (c.named edit) (c.raw s) (c.raw s')
  returns : ∀ {edit s}, c.least ≤ (c.raw s).length → c.Plain edit → ∃ s', c.perform edit s = .ok s'

theorem Sound.run {c : Cache} (sound : c.Sound) {edits : List c.Edit} {s s' : c.State}
    (enough : c.least ≤ (c.raw s).length) (coherent : c.Coherent s) (ran : c.run edits s = .ok s') :
    c.Coherent s' ∧ Framed (c.namedBy edits) (c.raw s) (c.raw s') := by
  induction edits generalizing s with
  | nil =>
    cases ran
    exact ⟨coherent, .refl _ _⟩
  | cons edit edits ih =>
    obtain ⟨mid, performed, rest⟩ := bind_ok ran
    have framed := sound.framed enough performed
    obtain ⟨coherent', framed'⟩ :=
      ih (by rw [framed.length]; exact enough) (sound.coherent enough coherent performed) rest
    exact ⟨coherent', framed.trans framed'⟩

theorem Sound.run_returns {c : Cache} (sound : c.Sound) {edits : List c.Edit} {s : c.State}
    (enough : c.least ≤ (c.raw s).length) (plain : ∀ edit ∈ edits, c.Plain edit) : ∃ s', c.run edits s = .ok s' := by
  induction edits generalizing s with
  | nil => exact ⟨s, rfl⟩
  | cons edit edits ih =>
    obtain ⟨mid, performed⟩ := sound.returns enough (plain edit List.mem_cons_self)
    obtain ⟨s', ran⟩ := ih (s := mid) (by rw [(sound.framed enough performed).length]; exact enough)
      fun edit member => plain edit (List.mem_cons_of_mem _ member)
    refine ⟨s', ?_⟩
    rw [Cache.run, List.foldlM_cons, performed]
    exact ran

end Cache

end Gnirehtet.Lib
