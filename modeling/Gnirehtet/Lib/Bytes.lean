import Mathlib.Algebra.Ring.Nat

/-!
# Byte arrays

A fixed byte array is the list of its bytes. Reads and writes come in two forms. `byteAt`, `u16At`,
`u32At` and `overwrite` are total and are used where an index is known to be in range; `index`,
`slice`, `readU16` and `readU32` fail like an indexing expression that panics, and are used where
the index comes from untrusted bytes.
-/

namespace Gnirehtet.Lib

/-- Why a computation stops its thread. -/
inductive Panic where
  | index
  | overflow
  | assertion
  deriving DecidableEq, Repr

abbrev Checked := Except Panic

theorem bind_ok {ε α β : Type} {x : Except ε α} {f : α → Except ε β} {r : β} (h : (x >>= f) = .ok r) :
    ∃ a, x = .ok a ∧ f a = .ok r := by
  cases x with
  | ok a => exact ⟨a, rfl, h⟩
  | error e => cases h

/-- What never fails is reached exactly when what comes before it does not fail. -/
theorem bind_isOk {ε α β : Type} {x : Except ε α} {f : α → Except ε β} (total : ∀ a, ∃ b, f a = .ok b) :
    (∃ b, (x >>= f) = .ok b) ↔ ∃ a, x = .ok a := by
  cases x with
  | ok a => exact iff_of_true (total a) ⟨a, rfl⟩
  | error e => exact iff_of_false (by rintro ⟨b, h⟩; cases h) (by rintro ⟨a, h⟩; cases h)

/-- What follows may differ where it is not reached. -/
theorem bind_congr_ok {ε α β : Type} {x : Except ε α} {f g : α → Except ε β} (same : ∀ a, x = .ok a → f a = g a) :
    (x >>= f) = (x >>= g) := by
  cases x with
  | ok a => exact same a rfl
  | error e => rfl

@[simp] theorem ok_bind {ε α β : Type} (a : α) (f : α → Except ε β) : (Except.ok a >>= f) = f a := rfl

@[simp] theorem error_bind {ε α β : Type} (e : ε) (f : α → Except ε β) :
    (Except.error e >>= f) = .error e := rfl

/-! ### Total reads and writes -/

section Overwrite
variable {α : Type}

/-- `source` copied into `buf` at `i`; what falls past the end is dropped. -/
def overwrite (buf : List α) (i : Nat) (source : List α) : List α :=
  (buf.take i ++ source ++ buf.drop (i + source.length)).take buf.length

@[simp] theorem length_overwrite (buf : List α) (i : Nat) (source : List α) :
    (overwrite buf i source).length = buf.length := by
  simp only [overwrite, List.length_take, List.length_append, List.length_drop]; omega

theorem overwrite_eq {buf source : List α} {i : Nat} (fits : i + source.length ≤ buf.length) :
    overwrite buf i source = buf.take i ++ source ++ buf.drop (i + source.length) := by
  rw [overwrite, List.take_of_length_le]
  simp only [List.length_append, List.length_take, List.length_drop]; omega

theorem getElem?_overwrite {buf source : List α} {i : Nat} (fits : i + source.length ≤ buf.length)
    (j : Nat) : (overwrite buf i source)[j]? =
      if j < i then buf[j]? else if j < i + source.length then source[j - i]? else buf[j]? := by
  rw [overwrite_eq fits, List.append_assoc, List.getElem?_append, List.length_take,
    Nat.min_eq_left (by omega)]
  by_cases before : j < i
  · simp [before]
  · rw [if_neg before, if_neg before, List.getElem?_append]
    by_cases inside : j < i + source.length
    · rw [if_pos (by omega), if_pos inside]
    · rw [if_neg (by omega), if_neg inside, List.getElem?_drop]
      congr 1; omega

theorem overwrite_nil (buf : List α) (i : Nat) : overwrite buf i [] = buf := by
  simp [overwrite, List.take_append_drop]

theorem take_overwrite {buf source : List α} {i n : Nat} (fits : i + source.length ≤ buf.length)
    (before : n ≤ i) : (overwrite buf i source).take n = buf.take n := by
  apply List.ext_getElem?
  intro j
  rw [List.getElem?_take, List.getElem?_take, getElem?_overwrite fits]
  by_cases h : j < n
  · rw [if_pos h, if_pos h, if_pos (by omega)]
  · rw [if_neg h, if_neg h]

theorem take_overwrite_inside {buf source : List α} {i n : Nat} (inside : i + source.length ≤ n) (fits : n ≤ buf.length) :
    (overwrite buf i source).take n = overwrite (buf.take n) i source := by
  apply List.ext_getElem?
  intro j
  rw [List.getElem?_take, getElem?_overwrite (by omega), getElem?_overwrite (by rw [List.length_take]; omega),
    List.getElem?_take]
  split_ifs <;> first | rfl | omega

theorem drop_overwrite {buf source : List α} {i n : Nat} (after : i + source.length ≤ n) :
    (overwrite buf i source).drop n = buf.drop n := by
  by_cases fits : i + source.length ≤ buf.length
  · apply List.ext_getElem?
    intro j
    rw [List.getElem?_drop, List.getElem?_drop, getElem?_overwrite fits, if_neg (by omega),
      if_neg (by omega)]
  · rw [List.drop_of_length_le (by rw [length_overwrite]; omega), List.drop_of_length_le (by omega)]

theorem take_overwrite_end {buf source : List α} {i : Nat} (fits : i + source.length ≤ buf.length) :
    (overwrite buf i source).take (i + source.length) = buf.take i ++ source := by
  rw [overwrite_eq fits, List.take_left']
  rw [List.length_append, List.length_take]; omega

theorem overwrite_same {buf source : List α} {i : Nat} (fits : i + source.length ≤ buf.length) :
    ((overwrite buf i source).drop i).take source.length = source := by
  have start : (buf.take i).length = i := by rw [List.length_take]; omega
  rw [overwrite_eq fits, List.append_assoc, List.drop_left' start, List.take_left' rfl]

theorem overwrite_append {buf first second : List α} {i : Nat}
    (fits : i + (first.length + second.length) ≤ buf.length) :
    overwrite (overwrite buf i first) (i + first.length) second = overwrite buf i (first ++ second) := by
  apply List.ext_getElem?
  intro j
  rw [getElem?_overwrite (by rw [length_overwrite]; omega), getElem?_overwrite (by omega),
    getElem?_overwrite (by rw [List.length_append]; omega), List.length_append, List.getElem?_append]
  by_cases before : j < i
  · rw [if_pos (show j < i + first.length by omega), if_pos before, if_pos before]
  · rw [if_neg before, if_neg before]
    by_cases inside : j < i + first.length
    · rw [if_pos inside, if_pos inside, if_pos (by omega), if_pos (by omega)]
    · rw [if_neg inside, if_neg inside, Nat.add_assoc]
      by_cases after : j < i + (first.length + second.length)
      · rw [if_pos after, if_pos after, if_neg (by omega), Nat.sub_sub]
      · rw [if_neg after, if_neg after]

theorem overwrite_start {buf source : List α} (fits : source.length ≤ buf.length) :
    overwrite buf 0 source = source ++ buf.drop source.length := by
  rw [overwrite_eq (by omega), List.take_zero, List.nil_append, Nat.zero_add]

/-- A source that reaches the end of the array goes on at its start. -/
theorem overwrite_around {buf source : List α} {i : Nat} (inside : i ≤ buf.length)
    (reach : buf.length ≤ i + source.length) (short : source.length ≤ buf.length) :
    overwrite (overwrite buf i (source.take (buf.length - i))) 0 (source.drop (buf.length - i)) =
      source.drop (buf.length - i) ++
        (buf.take i ++ source.take (buf.length - i)).drop (i + source.length - buf.length) := by
  have last : (source.take (buf.length - i)).length = buf.length - i := by
    rw [List.length_take]
    omega
  have more : (source.drop (buf.length - i)).length = i + source.length - buf.length := by
    rw [List.length_drop]
    omega
  have whole : overwrite buf i (source.take (buf.length - i)) = buf.take i ++ source.take (buf.length - i) := by
    have filled := take_overwrite_end (show i + (source.take (buf.length - i)).length ≤ buf.length by omega)
    rwa [List.take_of_length_le (by rw [length_overwrite]; omega)] at filled
  rw [overwrite_start (by rw [length_overwrite]; omega), whole, more]

theorem overwrite_append_left {buf source : List α} {i : Nat} (fits : i + source.length ≤ buf.length)
    (rest : List α) : overwrite (buf ++ rest) i source = overwrite buf i source ++ rest := by
  rw [overwrite_eq (by rw [List.length_append]; omega), overwrite_eq fits, List.take_append_of_le_length (by omega),
    List.drop_append_of_le_length fits]
  simp only [List.append_assoc]

theorem overwrite_append_right (front : List α) {buf source : List α} {i : Nat}
    (fits : i + source.length ≤ buf.length) :
    overwrite (front ++ buf) (front.length + i) source = front ++ overwrite buf i source := by
  rw [overwrite_eq (by rw [List.length_append]; omega), overwrite_eq fits, List.take_length_add_append,
    Nat.add_assoc, List.drop_length_add_append]
  simp only [List.append_assoc]

/-- Two elements set one after the other. -/
theorem set_set_eq_overwrite {buf : List α} {i : Nat} (fits : i + 2 ≤ buf.length) (a b : α) :
    (buf.set i a).set (i + 1) b = overwrite buf i [a, b] := by
  apply List.ext_getElem?
  intro j
  rw [getElem?_overwrite fits, List.getElem?_set, List.getElem?_set, List.length_set, List.length_cons,
    List.length_cons, List.length_nil]
  by_cases first : i = j
  · subst first
    simp [show i < buf.length by omega]
  · by_cases second : i + 1 = j
    · subst second
      simp [show i + 1 < buf.length by omega, show ¬ i + 1 < i by omega]
    · rw [if_neg second, if_neg first]
      split_ifs <;> first | rfl | omega

/-- What is written last stays. -/
theorem overwrite_again {buf first second : List α} {i : Nat} (same : first.length = second.length)
    (fits : i + second.length ≤ buf.length) :
    overwrite (overwrite buf i first) i second = overwrite buf i second := by
  apply List.ext_getElem?
  intro j
  rw [getElem?_overwrite (by rw [length_overwrite]; exact fits), getElem?_overwrite (by omega),
    getElem?_overwrite fits]
  by_cases before : j < i
  · simp [before]
  · by_cases inside : j < i + second.length
    · simp [before, inside]
    · simp [before, inside, same]

theorem overwrite_comm {buf first second : List α} {i j : Nat} (fits : i + first.length ≤ buf.length)
    (fits' : j + second.length ≤ buf.length) (apart : i + first.length ≤ j ∨ j + second.length ≤ i) :
    overwrite (overwrite buf i first) j second = overwrite (overwrite buf j second) i first := by
  apply List.ext_getElem?
  intro k
  rw [getElem?_overwrite (by rw [length_overwrite]; exact fits'), getElem?_overwrite fits,
    getElem?_overwrite (by rw [length_overwrite]; exact fits), getElem?_overwrite fits']
  split_ifs <;> first | rfl | omega

theorem set_overwrite {buf source : List α} {i k : Nat} (before : i < k)
    (fits : k + source.length ≤ buf.length) (a : α) : (overwrite buf k source).set i a = overwrite (buf.set i a) k source := by
  have inside : i < (buf.take k).length := by
    rw [List.length_take]
    omega
  rw [overwrite_eq fits, overwrite_eq (by rw [List.length_set]; exact fits), List.append_assoc, List.set_append_left _ _ inside,
    List.take_set, List.drop_set_of_lt (by omega), List.append_assoc]

/-- `bytes` is a part of the array that starts at `i`. -/
def LiesAt (buf : List α) (i : Nat) (bytes : List α) : Prop := bytes <+: buf.drop i

theorem LiesAt.length {buf bytes : List α} {i : Nat} (h : LiesAt buf i bytes) (inside : i ≤ buf.length) :
    i + bytes.length ≤ buf.length := by
  have := h.length_le
  rw [List.length_drop] at this
  omega

theorem liesAt_nil (buf : List α) (i : Nat) : LiesAt buf i [] := List.nil_prefix

theorem liesAt_append {buf first second : List α} {i : Nat} :
    LiesAt buf i (first ++ second) ↔ LiesAt buf i first ∧ LiesAt buf (i + first.length) second := by
  constructor
  · rintro ⟨rest, h⟩
    rw [List.append_assoc] at h
    refine ⟨⟨_, h⟩, rest, ?_⟩
    rw [← List.drop_drop, ← h, List.drop_left]
  · rintro ⟨⟨rest, h⟩, more, h'⟩
    rw [← List.drop_drop, ← h, List.drop_left] at h'
    exact ⟨more, by rw [← h, ← h', List.append_assoc]⟩

theorem liesAt_overwrite {buf source : List α} {i : Nat} (fits : i + source.length ≤ buf.length) :
    LiesAt (overwrite buf i source) i source := by
  have start : (buf.take i).length = i := by rw [List.length_take]; omega
  rw [LiesAt, overwrite_eq fits, List.append_assoc, List.drop_left' start]
  exact List.prefix_append ..

theorem LiesAt.overwrite_after {buf bytes source : List α} {i j : Nat} (h : LiesAt buf i bytes)
    (before : i + bytes.length ≤ j) (fits : j + source.length ≤ buf.length) :
    LiesAt (overwrite buf j source) i bytes := by
  have kept : (overwrite buf j source).take j = buf.take j := take_overwrite fits (Nat.le_refl j)
  rw [LiesAt, List.prefix_iff_eq_take] at h ⊢
  have same (raw : List α) : (raw.drop i).take bytes.length = ((raw.take j).drop i).take bytes.length := by
    rw [List.drop_take, List.take_take, Nat.min_eq_left (by omega)]
  rw [same, kept, ← same]
  exact h

theorem LiesAt.overwrite_before {buf bytes source : List α} {i j : Nat} (h : LiesAt buf i bytes)
    (after : j + source.length ≤ i) : LiesAt (overwrite buf j source) i bytes := by
  rwa [LiesAt, drop_overwrite after]

end Overwrite

def byteAt (raw : List UInt8) (i : Nat) : UInt8 := raw.getD i 0

def u16At (raw : List UInt8) (i : Nat) : UInt16 :=
  UInt16.ofNat ((byteAt raw i).toNat * 256 + (byteAt raw (i + 1)).toNat)

def u32At (raw : List UInt8) (i : Nat) : UInt32 :=
  UInt32.ofNat ((u16At raw i).toNat * 65536 + (u16At raw (i + 2)).toNat)

def beBytes16 (v : UInt16) : List UInt8 := [UInt8.ofNat (v.toNat / 256), UInt8.ofNat v.toNat]

def beBytes32 (v : UInt32) : List UInt8 :=
  beBytes16 (UInt16.ofNat (v.toNat / 65536)) ++ beBytes16 (UInt16.ofNat v.toNat)

def writeU16 (raw : List UInt8) (i : Nat) (v : UInt16) : List UInt8 := overwrite raw i (beBytes16 v)

def writeU32 (raw : List UInt8) (i : Nat) (v : UInt32) : List UInt8 := overwrite raw i (beBytes32 v)

@[simp] theorem length_beBytes16 (v : UInt16) : (beBytes16 v).length = 2 := rfl

@[simp] theorem length_beBytes32 (v : UInt32) : (beBytes32 v).length = 4 := rfl

@[simp] theorem length_writeU16 (raw : List UInt8) (i : Nat) (v : UInt16) :
    (writeU16 raw i v).length = raw.length := length_overwrite ..

@[simp] theorem length_writeU32 (raw : List UInt8) (i : Nat) (v : UInt32) :
    (writeU32 raw i v).length = raw.length := length_overwrite ..

theorem toNat_u16At (raw : List UInt8) (i : Nat) :
    (u16At raw i).toNat = (byteAt raw i).toNat * 256 + (byteAt raw (i + 1)).toNat := by
  have := (byteAt raw i).toNat_lt
  have := (byteAt raw (i + 1)).toNat_lt
  rw [u16At, UInt16.toNat_ofNat', Nat.mod_eq_of_lt (by omega)]

theorem byteAt_eq_of_getElem? {raw raw' : List UInt8} {i j : Nat} (h : raw[i]? = raw'[j]?) :
    byteAt raw i = byteAt raw' j := by
  simp [byteAt, List.getD_eq_getElem?_getD, h]

theorem byteAt_ext {raw raw' : List UInt8} (length : raw.length = raw'.length)
    (same : ∀ i < raw.length, byteAt raw i = byteAt raw' i) : raw = raw' := by
  apply List.ext_getElem length
  intro i inside inside'
  have at_i := same i inside
  rwa [byteAt, byteAt, List.getD_eq_getElem?_getD, List.getD_eq_getElem?_getD, List.getElem?_eq_getElem inside,
    List.getElem?_eq_getElem inside', Option.getD_some, Option.getD_some] at at_i

theorem byteAt_append_left {raw rest : List UInt8} {i : Nat} (h : i < raw.length) :
    byteAt (raw ++ rest) i = byteAt raw i :=
  byteAt_eq_of_getElem? (List.getElem?_append_left h)

theorem u16At_append_left {raw rest : List UInt8} {i : Nat} (h : i + 1 < raw.length) :
    u16At (raw ++ rest) i = u16At raw i := by
  rw [u16At, u16At, byteAt_append_left (by omega), byteAt_append_left h]

theorem u32At_append_left {raw rest : List UInt8} {i : Nat} (h : i + 3 < raw.length) :
    u32At (raw ++ rest) i = u32At raw i := by
  rw [u32At, u32At, u16At_append_left (by omega), u16At_append_left h]

theorem byteAt_take {raw : List UInt8} {i n : Nat} (h : i < n) : byteAt (raw.take n) i = byteAt raw i :=
  byteAt_eq_of_getElem? (by simp [h])

theorem u16At_take {raw : List UInt8} {i n : Nat} (h : i + 1 < n) : u16At (raw.take n) i = u16At raw i := by
  rw [u16At, u16At, byteAt_take (by omega), byteAt_take h]

theorem byteAt_drop (raw : List UInt8) (i n : Nat) : byteAt (raw.drop n) i = byteAt raw (n + i) :=
  byteAt_eq_of_getElem? (by simp)

theorem u16At_drop (raw : List UInt8) (i n : Nat) : u16At (raw.drop n) i = u16At raw (n + i) := by
  simp only [u16At, byteAt_drop, Nat.add_assoc]

theorem byteAt_overwrite_other {buf source : List UInt8} {i j : Nat}
    (fits : i + source.length ≤ buf.length) (apart : j < i ∨ i + source.length ≤ j) :
    byteAt (overwrite buf i source) j = byteAt buf j := by
  apply byteAt_eq_of_getElem?
  rw [getElem?_overwrite fits]
  split
  · rfl
  · rw [if_neg (by omega)]

theorem byteAt_overwrite_inside {buf source : List UInt8} {i j : Nat}
    (fits : i + source.length ≤ buf.length) (start : i ≤ j) (stop : j < i + source.length) :
    byteAt (overwrite buf i source) j = byteAt source (j - i) := by
  apply byteAt_eq_of_getElem?
  rw [getElem?_overwrite fits, if_neg (by omega), if_pos stop]

theorem u16At_overwrite_other {buf source : List UInt8} {i j : Nat}
    (fits : i + source.length ≤ buf.length) (apart : j + 2 ≤ i ∨ i + source.length ≤ j) :
    u16At (overwrite buf i source) j = u16At buf j := by
  rw [u16At, u16At, byteAt_overwrite_other fits (by omega), byteAt_overwrite_other fits (by omega)]

theorem u16At_beBytes16 (v : UInt16) : u16At (beBytes16 v) 0 = v := by
  have := v.toNat_lt
  apply UInt16.toNat.inj
  rw [toNat_u16At]
  simp only [byteAt, beBytes16, List.getD_cons_zero, List.getD_cons_succ, UInt8.toNat_ofNat']
  omega

theorem u16At_writeU16 {raw : List UInt8} {i : Nat} (fits : i + 2 ≤ raw.length) (v : UInt16) :
    u16At (writeU16 raw i v) i = v := by
  have first : byteAt (writeU16 raw i v) i = byteAt (beBytes16 v) (i - i) :=
    byteAt_overwrite_inside fits (Nat.le_refl i) (by simp)
  have second : byteAt (writeU16 raw i v) (i + 1) = byteAt (beBytes16 v) (i + 1 - i) :=
    byteAt_overwrite_inside fits (by omega) (by simp)
  rw [u16At, first, second, Nat.sub_self, Nat.add_sub_cancel_left]
  exact u16At_beBytes16 v

theorem byteAt_writeU16_other {raw : List UInt8} {i j : Nat} {v : UInt16} (fits : i + 2 ≤ raw.length)
    (apart : j < i ∨ i + 2 ≤ j) : byteAt (writeU16 raw i v) j = byteAt raw j :=
  byteAt_overwrite_other fits apart

theorem u16At_writeU16_other {raw : List UInt8} {i j : Nat} {v : UInt16} (fits : i + 2 ≤ raw.length)
    (apart : j + 2 ≤ i ∨ i + 2 ≤ j) : u16At (writeU16 raw i v) j = u16At raw j :=
  u16At_overwrite_other fits apart

theorem u16At_writeU32_other {raw : List UInt8} {i j : Nat} {v : UInt32} (fits : i + 4 ≤ raw.length)
    (apart : j + 2 ≤ i ∨ i + 4 ≤ j) : u16At (writeU32 raw i v) j = u16At raw j :=
  u16At_overwrite_other fits apart

theorem u32At_writeU32_other {raw : List UInt8} {i j : Nat} {v : UInt32} (fits : i + 4 ≤ raw.length)
    (apart : j + 4 ≤ i ∨ i + 4 ≤ j) : u32At (writeU32 raw i v) j = u32At raw j := by
  rw [u32At, u32At, u16At_writeU32_other fits (by omega), u16At_writeU32_other fits (by omega)]

theorem u32At_writeU16_other {raw : List UInt8} {i j : Nat} {v : UInt16} (fits : i + 2 ≤ raw.length)
    (apart : j + 4 ≤ i ∨ i + 2 ≤ j) : u32At (writeU16 raw i v) j = u32At raw j := by
  rw [u32At, u32At, u16At_writeU16_other fits (by omega), u16At_writeU16_other fits (by omega)]

theorem writeU32_eq {raw : List UInt8} {i : Nat} (fits : i + 4 ≤ raw.length) (v : UInt32) :
    writeU32 raw i v =
      writeU16 (writeU16 raw i (UInt16.ofNat (v.toNat / 65536))) (i + 2) (UInt16.ofNat v.toNat) :=
  (overwrite_append fits).symm

theorem u32At_writeU32 {raw : List UInt8} {i : Nat} (fits : i + 4 ≤ raw.length) (v : UInt32) :
    u32At (writeU32 raw i v) i = v := by
  have := v.toNat_lt
  rw [writeU32_eq fits, u32At, u16At_writeU16 (by rw [length_writeU16]; omega),
    u16At_writeU16_other (by rw [length_writeU16]; omega) (Or.inl (Nat.le_refl _)), u16At_writeU16 (by omega)]
  apply UInt32.toNat.inj
  simp only [UInt32.toNat_ofNat', UInt16.toNat_ofNat']
  omega

/-! ### Numbers modulo `2^32` -/

theorem toUInt32_add (m n : Nat) : (m + n).toUInt32 = m.toUInt32 + n.toUInt32 := by
  apply UInt32.toNat.inj
  simp only [Nat.toUInt32, UInt32.toNat_ofNat', UInt32.toNat_add]
  omega

theorem toUInt32_eq (n : UInt16) : n.toUInt32 = n.toNat.toUInt32 := by
  apply UInt32.toNat.inj
  have := n.toNat_lt
  rw [UInt16.toNat_toUInt32, Nat.toUInt32, UInt32.toNat_ofNat', Nat.mod_eq_of_lt (by omega)]

theorem toUInt32_inj {m n : Nat} (hm : m < 2 ^ 32) (hn : n < 2 ^ 32) (h : m.toUInt32 = n.toUInt32) : m = n := by
  have same := congrArg UInt32.toNat h
  simp only [Nat.toUInt32, UInt32.toNat_ofNat'] at same
  omega

theorem nonneg_toInt32 (n : UInt32) : 0 ≤ n.toInt32 ↔ n.toNat < 2 ^ 31 := by
  rw [Int32.le_iff_toInt_le]
  have signed : n.toInt32.toInt = n.toBitVec.toInt := rfl
  have := n.toNat_lt
  rw [signed, BitVec.toInt_eq_toNat_cond]
  simp only [UInt32.toNat_toBitVec, Int32.toInt_zero]
  split <;> omega

/-- The sign of a difference orders numbers that are less than `2^31` apart. -/
theorem serial_le {m n : Nat} (near : m < n + 2 ^ 31) (near' : n < m + 2 ^ 31) :
    0 ≤ (n.toUInt32 - m.toUInt32).toInt32 ↔ m ≤ n := by
  rw [nonneg_toInt32, UInt32.toNat_sub]
  simp only [Nat.toUInt32, UInt32.toNat_ofNat']
  omega

/-! ### Reads that can panic -/

/-- `raw[i]` -/
def index (raw : List UInt8) (i : Nat) : Checked UInt8 :=
  if i < raw.length then .ok (byteAt raw i) else .error .index

/-- `&raw[start..stop]` -/
def slice (raw : List UInt8) (start stop : Nat) : Checked (List UInt8) :=
  if start ≤ stop ∧ stop ≤ raw.length then .ok ((raw.take stop).drop start) else .error .index

/-- `&raw[start..]` -/
def sliceFrom (raw : List UInt8) (start : Nat) : Checked (List UInt8) :=
  if start ≤ raw.length then .ok (raw.drop start) else .error .index

/-- `&raw[..stop]` -/
def sliceTo (raw : List UInt8) (stop : Nat) : Checked (List UInt8) :=
  if stop ≤ raw.length then .ok (raw.take stop) else .error .index

/-- `BigEndian::read_u16(&raw[i..i + 2])` -/
def readU16 (raw : List UInt8) (i : Nat) : Checked UInt16 :=
  if i + 2 ≤ raw.length then .ok (u16At raw i) else .error .index

/-- `BigEndian::read_u32(&raw[i..i + 4])` -/
def readU32 (raw : List UInt8) (i : Nat) : Checked UInt32 :=
  if i + 4 ≤ raw.length then .ok (u32At raw i) else .error .index

/-- `buf[i..i + source.len()].copy_from_slice(source)` -/
def copyInto (buf : List UInt8) (i : Nat) (source : List UInt8) : Checked (List UInt8) :=
  if i + source.length ≤ buf.length then .ok (overwrite buf i source) else .error .index

theorem length_copyInto {buf source out : List UInt8} {i : Nat} (h : copyInto buf i source = .ok out) :
    out.length = buf.length := by
  unfold copyInto at h
  split at h
  · cases h
    exact length_overwrite ..
  · cases h

/-- `raw[i] = byte` -/
def setByte (raw : List UInt8) (i : Nat) (byte : UInt8) : Checked (List UInt8) :=
  if i < raw.length then .ok (raw.set i byte) else .error .index

section Parts
variable {front rest source : List UInt8} {i k n : Nat}

/-! A write to a buffer of two parts changes one of them. -/

theorem setByte_front (byte : UInt8) (inside : i < front.length) (rest : List UInt8) :
    setByte (front ++ rest) i byte = .ok (front.set i byte ++ rest) := by
  rw [setByte, if_pos (by rw [List.length_append]; omega), List.set_append_left _ _ inside]

theorem setByte_behind (byte : UInt8) (place : k = front.length + i) (inside : i < rest.length) :
    setByte (front ++ rest) k byte = .ok (front ++ rest.set i byte) := by
  subst place
  rw [setByte, if_pos (by rw [List.length_append]; omega), List.set_append_right _ _ (Nat.le_add_right ..),
    Nat.add_sub_cancel_left]

theorem copyInto_front (fits : i + source.length ≤ front.length) (rest : List UInt8) :
    copyInto (front ++ rest) i source = .ok (overwrite front i source ++ rest) := by
  rw [copyInto, if_pos (by rw [List.length_append]; omega), overwrite_append_left fits]

theorem copyInto_behind (place : k = front.length + i) (fits : i + source.length ≤ rest.length) :
    copyInto (front ++ rest) k source = .ok (front ++ overwrite rest i source) := by
  subst place
  rw [copyInto, if_pos (by rw [List.length_append]; omega), overwrite_append_right front fits]

theorem sliceTo_front (length : front.length = n) (rest : List UInt8) : sliceTo (front ++ rest) n = .ok front := by
  rw [sliceTo, if_pos (by rw [List.length_append]; omega), List.take_left' length]

theorem slice_behind (start : front.length = i) (stop : i + rest.length = n) :
    slice (front ++ rest) i n = .ok rest := by
  have whole : (front ++ rest).length = n := by
    rw [List.length_append]
    omega
  rw [slice, if_pos (by omega), List.take_of_length_le (by omega), List.drop_left' start]

end Parts

/-- `raw.swap(i, j)` -/
def swap (raw : List UInt8) (i j : Nat) : Checked (List UInt8) :=
  if i < raw.length ∧ j < raw.length then .ok ((raw.set i (byteAt raw j)).set j (byteAt raw i))
  else .error .index

/-- `for k in 0..n { raw.swap(i + k, j + k) }` -/
def swapRange (raw : List UInt8) (i j n : Nat) : Checked (List UInt8) :=
  (List.range n).foldlM (fun raw k => swap raw (i + k) (j + k)) raw

theorem swap_isOk {raw : List UInt8} {i j : Nat} :
    (∃ out, swap raw i j = .ok out) ↔ i < raw.length ∧ j < raw.length := by
  unfold swap; split <;> simp_all

theorem length_swap {raw out : List UInt8} {i j : Nat} (h : swap raw i j = .ok out) :
    out.length = raw.length := by
  unfold swap at h
  split at h
  · injection h with h
    rw [← h, List.length_set, List.length_set]
  · cases h

theorem byteAt_swap_other {raw out : List UInt8} {i j k : Nat} (h : swap raw i j = .ok out) (hi : k ≠ i)
    (hj : k ≠ j) : byteAt out k = byteAt raw k := by
  unfold swap at h
  split at h
  · injection h with h
    apply byteAt_eq_of_getElem?
    rw [← h, List.getElem?_set_ne (Ne.symm hj), List.getElem?_set_ne (Ne.symm hi)]
  · cases h

theorem swapRange_succ (raw : List UInt8) (i j n : Nat) :
    swapRange raw i j (n + 1) = (swapRange raw i j n >>= fun mid => swap mid (i + n) (j + n)) := by
  simp only [swapRange, List.range_succ, List.foldlM_append, List.foldlM_cons, List.foldlM_nil, bind_pure]

theorem length_swapRange {raw out : List UInt8} {i j n : Nat} (h : swapRange raw i j n = .ok out) :
    out.length = raw.length := by
  induction n generalizing out with
  | zero => cases h; rfl
  | succ n ih =>
    rw [swapRange_succ] at h
    obtain ⟨mid, hmid, h⟩ := bind_ok h
    rw [length_swap h, ih hmid]

theorem byteAt_swapRange_other {raw out : List UInt8} {i j n k : Nat}
    (h : swapRange raw i j n = .ok out) (hi : k < i) (hj : k < j) : byteAt out k = byteAt raw k := by
  induction n generalizing out with
  | zero => cases h; rfl
  | succ n ih =>
    rw [swapRange_succ] at h
    obtain ⟨mid, hmid, h⟩ := bind_ok h
    rw [byteAt_swap_other h (by omega) (by omega), ih hmid]

theorem byteAt_swapRange_after {raw out : List UInt8} {i j n k : Nat}
    (h : swapRange raw i j n = .ok out) (hi : i + n ≤ k) (hj : k < j ∨ j + n ≤ k) :
    byteAt out k = byteAt raw k := by
  induction n generalizing out with
  | zero => cases h; rfl
  | succ n ih =>
    rw [swapRange_succ] at h
    obtain ⟨mid, hmid, h⟩ := bind_ok h
    rw [byteAt_swap_other h (by omega) (by omega), ih hmid (by omega) (by omega)]

theorem byteAt_swap {raw out : List UInt8} {i j : Nat} (h : swap raw i j = .ok out) :
    byteAt out i = byteAt raw j ∧ byteAt out j = byteAt raw i := by
  unfold swap at h
  split at h
  · rename_i inside
    injection h with h
    obtain ⟨hi, hj⟩ := inside
    rw [← h]
    simp only [byteAt, List.getD_eq_getElem?_getD, List.getElem?_set, List.length_set, hi, hj, if_true]
    by_cases same : j = i
    · simp [same, hi]
    · simp [same]
  · cases h

/-- Two ranges change places when they do not overlap. -/
theorem byteAt_swapRange {raw out : List UInt8} {i j n : Nat} (h : swapRange raw i j n = .ok out)
    (apart : i + n ≤ j) {k : Nat} (inside : k < n) :
    byteAt out (i + k) = byteAt raw (j + k) ∧ byteAt out (j + k) = byteAt raw (i + k) := by
  induction n generalizing out k with
  | zero => omega
  | succ n ih =>
    rw [swapRange_succ] at h
    obtain ⟨mid, hmid, h⟩ := bind_ok h
    by_cases last : k = n
    · obtain ⟨first, second⟩ := byteAt_swap h
      rw [last, first, second]
      exact ⟨byteAt_swapRange_after hmid (by omega) (Or.inr (by omega)),
        byteAt_swapRange_after hmid (by omega) (Or.inl (by omega))⟩
    · rw [byteAt_swap_other h (by omega) (by omega), byteAt_swap_other h (by omega) (by omega)]
      exact ih hmid (by omega) (by omega)

theorem swap_overwrite {raw source out : List UInt8} {i j k : Nat} (h : swap raw i j = .ok out) (hi : i < k) (hj : j < k)
    (fits : k + source.length ≤ raw.length) : swap (overwrite raw k source) i j = .ok (overwrite out k source) := by
  unfold swap at h ⊢
  rw [length_overwrite, byteAt_overwrite_other fits (Or.inl hi), byteAt_overwrite_other fits (Or.inl hj)]
  split at h
  · rename_i inside
    cases h
    rw [if_pos inside, set_overwrite hi fits, set_overwrite hj (by rw [List.length_set]; exact fits)]
  · cases h

/-- What is written behind both ranges does not show in the swap. -/
theorem swapRange_overwrite {raw out : List UInt8} {i j n : Nat} (h : swapRange raw i j n = .ok out)
    (source : List UInt8) {k : Nat} (hi : i + n ≤ k) (hj : j + n ≤ k) (fits : k + source.length ≤ raw.length) :
    swapRange (overwrite raw k source) i j n = .ok (overwrite out k source) := by
  induction n generalizing out with
  | zero => cases h; rfl
  | succ n ih =>
    rw [swapRange_succ] at h ⊢
    obtain ⟨mid, hmid, h⟩ := bind_ok h
    rw [ih hmid (by omega) (by omega), ok_bind]
    exact swap_overwrite h (by omega) (by omega) (by rw [length_swapRange hmid]; exact fits)

/-- Swapping the `n` bytes at `i` with the `n` bytes at `j` succeeds exactly when both ranges are in
the array. -/
theorem swapRange_isOk (raw : List UInt8) (i j n : Nat) :
    (∃ out, swapRange raw i j (n + 1) = .ok out) ↔ i + n < raw.length ∧ j + n < raw.length := by
  constructor
  · rintro ⟨out, h⟩
    rw [swapRange_succ] at h
    obtain ⟨mid, hmid, h⟩ := bind_ok h
    have inside := swap_isOk.mp ⟨out, h⟩
    rwa [length_swapRange hmid] at inside
  · induction n with
    | zero =>
      intro inside
      rw [swapRange_succ]
      exact swap_isOk.mpr inside
    | succ n ih =>
      intro inside
      obtain ⟨mid, hmid⟩ := ih (by omega)
      rw [swapRange_succ, hmid, ok_bind]
      exact swap_isOk.mpr (by rw [length_swapRange hmid]; omega)

/-- A second swap takes back the first. -/
theorem swapRange_swapRange {raw out : List UInt8} {i j n : Nat} (apart : i + n ≤ j)
    (swapped : swapRange raw i j n = .ok out) : swapRange out i j n = .ok raw := by
  cases n with
  | zero => cases swapped; rfl
  | succ n =>
    have length := length_swapRange swapped
    have inside := (swapRange_isOk raw i j n).mp ⟨out, swapped⟩
    obtain ⟨back, again⟩ := (swapRange_isOk out i j n).mpr (by rw [length]; exact inside)
    have length' := length_swapRange again
    rw [again]
    apply congrArg Except.ok
    apply byteAt_ext (length'.trans length)
    intro k _
    by_cases first : i ≤ k ∧ k < i + (n + 1)
    · obtain ⟨d, rfl⟩ := Nat.exists_eq_add_of_le first.1
      rw [(byteAt_swapRange again apart (by omega)).1, (byteAt_swapRange swapped apart (by omega)).2]
    · by_cases second : j ≤ k ∧ k < j + (n + 1)
      · obtain ⟨d, rfl⟩ := Nat.exists_eq_add_of_le second.1
        rw [(byteAt_swapRange again apart (by omega)).2, (byteAt_swapRange swapped apart (by omega)).1]
      · by_cases before : k < i
        · rw [byteAt_swapRange_other again before (by omega), byteAt_swapRange_other swapped before (by omega)]
        · rw [byteAt_swapRange_after again (by omega) (by omega), byteAt_swapRange_after swapped (by omega) (by omega)]

end Gnirehtet.Lib
