import Gnirehtet.Relay.Datagram

/-!
# The circular stream buffer

One cell of the array stays free, so that equal positions always mean an empty buffer. `content` is
the byte queue that the buffer stands for: `readFrom` appends to it when the bytes fit, and
`writeTo` takes a front part off it, however the content lies in the array.
-/

namespace Gnirehtet.Relay
open Lib

structure StreamBuffer where
  buf : List UInt8
  head : Nat
  tail : Nat
  head_lt : head < buf.length
  tail_lt : tail < buf.length

namespace StreamBuffer

def new (capacity : Nat) : StreamBuffer where
  buf := List.replicate (capacity + 1) 0
  head := 0
  tail := 0
  head_lt := by simp
  tail_lt := by simp

def isEmpty (b : StreamBuffer) : Bool := b.head == b.tail

def size (b : StreamBuffer) : Nat :=
  if b.head < b.tail then b.head + b.buf.length - b.tail else b.head - b.tail

def capacity (b : StreamBuffer) : Nat := b.buf.length - 1

def remaining (b : StreamBuffer) : Nat := b.capacity - b.size

/-- Back to the start of the array when nothing is stored. -/
def optimize (b : StreamBuffer) : StreamBuffer :=
  if b.isEmpty then
    { b with
      head := 0
      tail := 0
      head_lt := by have := b.head_lt; omega
      tail_lt := by have := b.head_lt; omega }
  else b

/-- The slice that one `write` call is offered: the content up to the end of the array. -/
def offered (b : StreamBuffer) : List UInt8 :=
  if b.tail < b.head then (b.buf.take b.head).drop b.tail else b.buf.drop b.tail

theorem length_offered (b : StreamBuffer) :
    b.offered.length = if b.tail < b.head then b.head - b.tail else b.buf.length - b.tail := by
  have := b.head_lt
  unfold offered
  split
  · rw [List.length_drop, List.length_take]; omega
  · rw [List.length_drop]

/-- The buffer after a `write` whose destination was ready to take `n` bytes. -/
def advance (b : StreamBuffer) (n : Nat) : StreamBuffer :=
  let w := min n b.offered.length
  { b with
    tail := if b.tail < b.head then b.tail + w else (b.tail + w) % b.buf.length
    tail_lt := by
      have := b.head_lt
      have offered := b.length_offered
      split
      · rename_i h
        rw [if_pos h] at offered
        omega
      · exact Nat.mod_lt _ (by omega) }

/-- Returns the bytes that the destination took. -/
def writeTo (b : StreamBuffer) (answer : WriteAnswer) : Except ErrorKind (StreamBuffer × List UInt8) :=
  if b.head = b.tail then .ok (b, [])
  else
    match answer with
    | .ok n => .ok ((b.advance n).optimize, b.offered.take n)
    | .error e => .error e

/-- The callers check `remaining` first, as the source asserts in debug builds. -/
def readFrom (b : StreamBuffer) (source : List UInt8) : StreamBuffer where
  buf :=
    if source.length ≤ b.buf.length - b.head then overwrite b.buf b.head source
    else
      overwrite (overwrite b.buf b.head (source.take (b.buf.length - b.head))) 0
        (source.drop (b.buf.length - b.head))
  head := (b.head + source.length) % b.buf.length
  tail := b.tail
  head_lt := by
    have := b.head_lt
    split <;> simp only [length_overwrite] <;> exact Nat.mod_lt _ (by omega)
  tail_lt := by
    have := b.tail_lt
    split <;> simpa only [length_overwrite]

/-- The stored bytes, oldest first. -/
def content (b : StreamBuffer) : List UInt8 :=
  if b.tail ≤ b.head then (b.buf.take b.head).drop b.tail else b.buf.drop b.tail ++ b.buf.take b.head

theorem length_content (b : StreamBuffer) : b.content.length = b.size := by
  have := b.head_lt
  have := b.tail_lt
  unfold content size
  split
  · rw [if_neg (by omega), List.length_drop, List.length_take]; omega
  · rw [if_pos (by omega), List.length_append, List.length_drop, List.length_take]; omega

theorem size_le_capacity (b : StreamBuffer) : b.size ≤ b.capacity := by
  have := b.head_lt
  have := b.tail_lt
  unfold size capacity
  split <;> omega

theorem size_add_remaining (b : StreamBuffer) : b.size + b.remaining = b.capacity := by
  have := b.size_le_capacity
  unfold remaining; omega

theorem isEmpty_iff (b : StreamBuffer) : b.isEmpty = true ↔ b.content = [] := by
  have := b.head_lt
  have := b.tail_lt
  rw [← List.length_eq_zero_iff, length_content, isEmpty, beq_iff_eq, size]
  split <;> omega

@[simp] theorem content_new (capacity : Nat) : (new capacity).content = [] := rfl

@[simp] theorem capacity_new (capacity : Nat) : (new capacity).capacity = capacity := by
  simp [StreamBuffer.capacity, new]

@[simp] theorem remaining_new (capacity : Nat) : (new capacity).remaining = capacity := by
  simp [remaining, size, new, StreamBuffer.capacity]

theorem content_optimize (b : StreamBuffer) : b.optimize.content = b.content := by
  unfold optimize
  split
  · rename_i empty
    rw [(b.isEmpty_iff).mp empty]
    rfl
  · rfl

@[simp] theorem capacity_optimize (b : StreamBuffer) : b.optimize.capacity = b.capacity := by
  unfold optimize; split <;> rfl

/-- What one write is offered is the front of the content; the rest lies at the start of the array. -/
theorem content_eq_offered (b : StreamBuffer) (stored : b.head ≠ b.tail) :
    b.content = b.offered ++ if b.tail < b.head then [] else b.buf.take b.head := by
  unfold content offered
  by_cases h : b.tail < b.head
  · simp [h, Nat.le_of_lt h]
  · simp [h, show ¬ b.tail ≤ b.head by omega]

theorem content_advance (b : StreamBuffer) (stored : b.head ≠ b.tail) (n : Nat) :
    b.content = b.offered.take n ++ (b.advance n).content := by
  have hh := b.head_lt
  have ht := b.tail_lt
  have offered := b.length_offered
  rw [b.content_eq_offered stored]
  by_cases h : b.tail < b.head
  · -- The content is in one piece and the tail moves up to the head at most.
    rw [if_pos h] at offered
    simp only [h, if_true, List.append_nil, content, advance]
    rw [if_pos (by omega), ← List.drop_drop]
    simp only [StreamBuffer.offered, h, if_true] at offered ⊢
    conv => lhs; rw [← List.take_append_drop n ((b.buf.take b.head).drop b.tail)]
    congr 1
    by_cases le : n ≤ ((b.buf.take b.head).drop b.tail).length
    · rw [Nat.min_eq_left le]
    · rw [List.drop_of_length_le (by omega), List.drop_of_length_le (by omega)]
  · -- The content wraps: a write takes at most the piece up to the end of the array.
    rw [if_neg h] at offered
    simp only [h, if_false, content, advance]
    by_cases all : b.offered.length ≤ n
    · have wrapped : (b.tail + min n b.offered.length) % b.buf.length = 0 := by
        rw [Nat.min_eq_right all, offered, Nat.add_sub_cancel' (Nat.le_of_lt ht), Nat.mod_self]
      rw [wrapped, if_pos (Nat.zero_le _), List.take_of_length_le all, List.drop_zero]
    · have inside : (b.tail + min n b.offered.length) % b.buf.length = b.tail + n := by
        rw [Nat.min_eq_left (by omega), Nat.mod_eq_of_lt (by omega)]
      rw [inside, if_neg (by omega), ← List.append_assoc, ← List.drop_drop]
      simp only [StreamBuffer.offered, h, if_false, List.take_append_drop]

/-- A successful write takes a front part off the content. -/
theorem content_writeTo {b b' : StreamBuffer} {answer : WriteAnswer} {w : List UInt8}
    (h : b.writeTo answer = .ok (b', w)) : b.content = w ++ b'.content := by
  unfold writeTo at h
  split at h
  · cases h; rfl
  · rename_i stored
    cases answer with
    | ok n =>
      cases h
      rw [content_optimize]
      exact b.content_advance stored n
    | error e => cases h

theorem capacity_writeTo {b b' : StreamBuffer} {answer : WriteAnswer} {w : List UInt8}
    (h : b.writeTo answer = .ok (b', w)) : b'.capacity = b.capacity := by
  unfold writeTo at h
  split at h
  · cases h; rfl
  · cases answer with
    | ok n => cases h; rw [capacity_optimize]; rfl
    | error e => cases h

@[simp] theorem capacity_readFrom (b : StreamBuffer) (source : List UInt8) :
    (b.readFrom source).capacity = b.capacity := by
  unfold capacity readFrom
  split <;> simp

theorem content_of_le {b : StreamBuffer} (h : b.tail ≤ b.head) :
    b.content = (b.buf.take b.head).drop b.tail := if_pos h

theorem content_of_lt {b : StreamBuffer} (h : b.head < b.tail) :
    b.content = b.buf.drop b.tail ++ b.buf.take b.head := if_neg (by omega)

theorem content_readFrom {b : StreamBuffer} {source : List UInt8} (fits : source.length ≤ b.remaining) :
    (b.readFrom source).content = b.content ++ source := by
  have hh := b.head_lt
  have ht := b.tail_lt
  unfold remaining capacity size at fits
  have tail' : (b.readFrom source).tail = b.tail := rfl
  have head' : (b.readFrom source).head = (b.head + source.length) % b.buf.length := rfl
  by_cases wrapped : b.head < b.tail
  · -- The free cells lie between the head and the tail.
    rw [if_pos wrapped] at fits
    rw [Nat.mod_eq_of_lt (by omega)] at head'
    have buf' : (b.readFrom source).buf = overwrite b.buf b.head source := if_pos (by omega)
    rw [content_of_lt wrapped, content_of_lt (by omega), tail', head', buf', drop_overwrite (by omega),
      take_overwrite_end (by omega), List.append_assoc]
  rw [if_neg wrapped] at fits
  rw [content_of_le (by omega : b.tail ≤ b.head)]
  by_cases inside : b.head + source.length < b.buf.length
  · rw [Nat.mod_eq_of_lt inside] at head'
    have buf' : (b.readFrom source).buf = overwrite b.buf b.head source := if_pos (by omega)
    rw [content_of_le (by omega), tail', head', buf', take_overwrite_end (by omega),
      List.drop_append_of_le_length (by rw [List.length_take]; omega)]
  · -- The source reaches the end of the array and goes on at its start, before the tail.
    have wrap : (b.head + source.length) % b.buf.length = b.head + source.length - b.buf.length := by
      rw [Nat.mod_eq_sub_mod (by omega), Nat.mod_eq_of_lt (by omega)]
    rw [wrap] at head'
    have more : (source.drop (b.buf.length - b.head)).length = b.head + source.length - b.buf.length := by
      rw [List.length_drop]
      omega
    have twice : (b.readFrom source).buf = overwrite (overwrite b.buf b.head
        (source.take (b.buf.length - b.head))) 0 (source.drop (b.buf.length - b.head)) := by
      by_cases exactly : source.length ≤ b.buf.length - b.head
      · rw [List.take_of_length_le exactly, List.drop_of_length_le exactly, overwrite_nil]
        exact if_pos exactly
      · exact if_neg exactly
    have buf' := twice.trans (overwrite_around (by omega) (by omega) (by omega))
    rw [content_of_lt (by omega), tail', head', buf', List.take_left' more, List.drop_append, more,
      List.drop_of_length_le (by omega), List.nil_append, List.drop_drop, Nat.add_sub_cancel' (by omega),
      List.drop_append_of_le_length (by rw [List.length_take]; omega), List.append_assoc, List.take_append_drop]

theorem remaining_readFrom {b : StreamBuffer} {source : List UInt8} (fits : source.length ≤ b.remaining) :
    (b.readFrom source).remaining = b.remaining - source.length := by
  have before := b.size_add_remaining
  have after := (b.readFrom source).size_add_remaining
  rw [capacity_readFrom, ← length_content, content_readFrom fits, List.length_append,
    length_content] at after
  omega

theorem size_eq (b : StreamBuffer) : b.size = (b.head + b.buf.length - b.tail) % b.buf.length := by
  have := b.head_lt
  have := b.tail_lt
  unfold size
  split
  · rw [Nat.mod_eq_of_lt (by omega)]
  · rw [show b.head + b.buf.length - b.tail = b.head - b.tail + b.buf.length by omega, Nat.add_mod_right,
      Nat.mod_eq_of_lt (by omega)]

@[simp] theorem length_buf_readFrom (b : StreamBuffer) (source : List UInt8) :
    (b.readFrom source).buf.length = b.buf.length := by
  unfold readFrom
  split <;> simp

/-- However many bytes come, the fill level moves by their number around the array. -/
theorem size_readFrom (b : StreamBuffer) (source : List UInt8) :
    (b.readFrom source).size = (b.size + source.length) % b.buf.length := by
  have := b.tail_lt
  have head : (b.readFrom source).head = (b.head + source.length) % b.buf.length := rfl
  have tail : (b.readFrom source).tail = b.tail := rfl
  rw [size_eq, size_eq, length_buf_readFrom, head, tail, Nat.mod_add_mod,
    Nat.add_sub_assoc (by omega), Nat.mod_add_mod]
  congr 1
  omega

/-- Two buffers of one size that are equally full. -/
structure SameFill (b b' : StreamBuffer) : Prop where
  length : b'.buf.length = b.buf.length
  size : b'.size = b.size

namespace SameFill
variable {b b' : StreamBuffer}

theorem remaining (same : SameFill b b') : b'.remaining = b.remaining := by
  rw [StreamBuffer.remaining, StreamBuffer.remaining, capacity, capacity, same.length, same.size]

theorem readFrom (same : SameFill b b') {source source' : List UInt8} (length : source'.length = source.length) :
    SameFill (b.readFrom source) (b'.readFrom source') where
  length := by rw [length_buf_readFrom, length_buf_readFrom, same.length]
  size := by rw [size_readFrom, size_readFrom, same.length, same.size, length]

end SameFill

end StreamBuffer

end Gnirehtet.Relay
