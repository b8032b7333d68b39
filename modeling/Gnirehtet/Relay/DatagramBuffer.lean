import Gnirehtet.Lib.Run
import Gnirehtet.Relay.Datagram

/-!
# The circular datagram buffer

Datagrams are stored as blocks, a length and the bytes, and a block never wraps: the last block of a
lap goes on into extra space behind the circular part. Equal positions mean an empty buffer. A block
that ends the lap while the oldest one lies at the start of the array makes the positions equal too:
the buffer then forgets all it holds. Short of that it is a queue.
-/

namespace Gnirehtet.Relay
open Lib

def headerLength : Nat := 2

def maxBlockLength : Nat := headerLength + maxDatagramLength

structure DatagramBuffer where
  buf : List UInt8
  head : Nat
  tail : Nat
  circularBufferLength : Nat
  length_eq : buf.length + 1 = circularBufferLength + maxBlockLength
  head_lt : head < circularBufferLength
  tail_lt : tail < circularBufferLength

namespace DatagramBuffer

def new (capacity : Nat) : DatagramBuffer where
  buf := List.replicate (capacity + maxBlockLength) 0
  head := 0
  tail := 0
  circularBufferLength := capacity + 1
  length_eq := by rw [List.length_replicate]; omega
  head_lt := Nat.succ_pos capacity
  tail_lt := Nat.succ_pos capacity

def isEmpty (b : DatagramBuffer) : Bool := b.head == b.tail

def hasEnoughSpaceFor (b : DatagramBuffer) (datagramLength : Nat) : Bool :=
  if b.tail ≤ b.head then true else headerLength + datagramLength ≤ b.tail - b.head - 1

/-- A position past the circular part goes back to the start. -/
def wrap (b : DatagramBuffer) (position : Nat) : Nat := if b.circularBufferLength ≤ position then 0 else position

theorem wrap_lt (b : DatagramBuffer) (position : Nat) : b.wrap position < b.circularBufferLength := by
  have := b.head_lt
  unfold wrap
  split <;> omega

def release (b : DatagramBuffer) (length : Nat) : DatagramBuffer :=
  { b with
    tail := b.wrap (b.tail + 2 + length)
    tail_lt := b.wrap_lt _ }

/-- The destination is sent one slice, and the block is gone whatever it answers. -/
def writeTo (b : DatagramBuffer) (send : List UInt8 → Except ErrorKind Nat) :
    Checked (DatagramBuffer × List UInt8 × Except ErrorKind Unit) :=
  if b.isEmpty then .error .assertion
  else do
    let length ← readU16 b.buf b.tail
    let source ← slice b.buf (b.tail + 2) (b.tail + 2 + length.toNat)
    let b := b.release length.toNat
    match send source with
    | .ok w => return (b, source, if w = length.toNat then .ok () else .error .other)
    | .error e => return (b, source, .error e)

/-- No buffer means that there is no space, and an error. -/
def readFrom (b : DatagramBuffer) (source : List UInt8) : Checked (Option DatagramBuffer) :=
  if maxDatagramLength < source.length then .error .assertion
  else if !b.hasEnoughSpaceFor source.length then .ok none
  else
    match header : copyInto b.buf b.head (beBytes16 source.length.toUInt16) with
    | .error e => .error e
    | .ok buf =>
      match bytes : copyInto buf (b.head + 2) source with
      | .error e => .error e
      | .ok buf' =>
        .ok (some { b with
          buf := buf'
          head := b.wrap (b.head + 2 + source.length)
          length_eq := by rw [length_copyInto bytes, length_copyInto header, b.length_eq]
          head_lt := b.wrap_lt _ })

/-! ### Blocks -/

def block (datagram : List UInt8) : List UInt8 := beBytes16 datagram.length.toUInt16 ++ datagram

def blocks (queue : List (List UInt8)) : List UInt8 := queue.flatMap block

@[simp] theorem length_block (datagram : List UInt8) : (block datagram).length = 2 + datagram.length := by
  simp [block]

@[simp] theorem blocks_nil : blocks [] = [] := rfl

@[simp] theorem blocks_cons (datagram : List UInt8) (queue : List (List UInt8)) :
    blocks (datagram :: queue) = block datagram ++ blocks queue := rfl

@[simp] theorem blocks_append (queue more : List (List UInt8)) :
    blocks (queue ++ more) = blocks queue ++ blocks more := List.flatMap_append

theorem blocks_concat (queue : List (List UInt8)) (datagram : List UInt8) :
    blocks (queue ++ [datagram]) = blocks queue ++ block datagram := by simp

theorem read_block {buf datagram : List UInt8} {i : Nat} (inside : i ≤ buf.length)
    (stored : LiesAt buf i (block datagram)) : readU16 buf i = .ok datagram.length.toUInt16 ∧
      slice buf (i + 2) (i + 2 + datagram.length) = .ok datagram := by
  have length := stored.length inside
  rw [length_block] at length
  obtain ⟨rest, whole⟩ := (liesAt_append.mp stored).1
  obtain ⟨_, bytes⟩ := liesAt_append.mp stored
  rw [LiesAt, List.prefix_iff_eq_take, length_beBytes16] at bytes
  constructor
  · have number : u16At buf (i + 0) = datagram.length.toUInt16 := by
      rw [← u16At_drop, ← whole, u16At_append_left (by simp), u16At_beBytes16]
    rw [readU16, if_pos (by omega), ← Nat.add_zero i, number]
  · rw [slice, if_pos (by omega), List.drop_take, Nat.add_sub_cancel_left, ← bytes]

/-! ### The queue that a buffer stands for -/

/-- Where the blocks of a queue lie: in one piece, or up to the last block of the lap and on from the
start of the array. -/
inductive Laid (b : DatagramBuffer) (queue : List (List UInt8)) : Prop where
  | straight (stored : LiesAt b.buf b.tail (blocks queue)) (reach : b.tail + (blocks queue).length = b.head)
  | wrapped (front : List (List UInt8)) (last : List UInt8) (back : List (List UInt8))
      (parts : queue = front ++ [last] ++ back)
      (storedFront : LiesAt b.buf b.tail (blocks (front ++ [last])))
      (before : b.tail + (blocks front).length < b.circularBufferLength)
      (beyond : b.circularBufferLength ≤ b.tail + (blocks (front ++ [last])).length)
      (storedBack : LiesAt b.buf 0 (blocks back)) (reach : (blocks back).length = b.head)
      (order : b.head < b.tail)

structure Represents (b : DatagramBuffer) (queue : List (List UInt8)) : Prop where
  small : ∀ datagram ∈ queue, datagram.length < 65536
  laid : Laid b queue

theorem represents_new (capacity : Nat) : Represents (new capacity) [] where
  small := by simp
  laid := .straight (liesAt_nil ..) rfl

theorem isEmpty_iff {b : DatagramBuffer} {queue : List (List UInt8)} (h : Represents b queue) :
    b.isEmpty = true ↔ queue = [] := by
  rw [isEmpty, beq_iff_eq]
  cases h.laid with
  | straight stored reach =>
    cases queue with
    | nil => exact iff_of_true reach.symm rfl
    | cons datagram rest =>
      rw [blocks_cons, List.length_append, length_block] at reach
      exact iff_of_false (by omega) (by simp)
  | wrapped front last back parts _ _ _ _ _ order => exact iff_of_false (by omega) (by simp [parts])

/-- The block ends the lap while the oldest one lies at the start: the positions become equal. -/
def Forgets (b : DatagramBuffer) (datagram : List UInt8) : Prop :=
  b.tail = 0 ∧ b.circularBufferLength ≤ b.head + 2 + datagram.length

theorem block_fits (b : DatagramBuffer) {datagram : List UInt8} (small : datagram.length ≤ maxDatagramLength) :
    b.head + (block datagram).length ≤ b.buf.length := by
  have length := b.length_eq
  have head := b.head_lt
  rw [maxBlockLength, headerLength] at length
  rw [length_block]
  omega

def store (b : DatagramBuffer) (datagram : List UInt8) : DatagramBuffer :=
  { b with
    buf := overwrite b.buf b.head (block datagram)
    head := b.wrap (b.head + 2 + datagram.length)
    length_eq := by rw [length_overwrite, b.length_eq]
    head_lt := b.wrap_lt _ }

/-- The block of a datagram always fits in the array. -/
theorem readFrom_eq (b : DatagramBuffer) {datagram : List UInt8} (small : datagram.length ≤ maxDatagramLength) :
    b.readFrom datagram = .ok (if b.hasEnoughSpaceFor datagram.length then some (b.store datagram) else none) := by
  have fits := b.block_fits small
  rw [length_block] at fits
  rw [readFrom, if_neg (Nat.not_lt.mpr small)]
  cases space : b.hasEnoughSpaceFor datagram.length with
  | false => rfl
  | true =>
    have first : copyInto b.buf b.head (beBytes16 datagram.length.toUInt16) =
        .ok (overwrite b.buf b.head (beBytes16 datagram.length.toUInt16)) :=
      if_pos (by rw [length_beBytes16]; omega)
    have second : copyInto (overwrite b.buf b.head (beBytes16 datagram.length.toUInt16)) (b.head + 2) datagram =
        .ok (overwrite b.buf b.head (block datagram)) := by
      rw [copyInto, if_pos (by rw [length_overwrite]; omega)]
      exact congrArg _ (overwrite_append (by rw [length_beBytes16]; omega))
    rw [if_neg (by simp), if_pos rfl]
    split
    · rename_i failed
      rw [first] at failed
      cases failed
    · rename_i buf written
      rw [first] at written
      cases written
      split
      · rename_i failed
        rw [second] at failed
        cases failed
      · rename_i buf' written
        rw [second] at written
        cases written
        rfl

theorem store_represents {b : DatagramBuffer} {queue : List (List UInt8)} {datagram : List UInt8}
    (h : Represents b queue) (small : datagram.length < 65536) (space : b.hasEnoughSpaceFor datagram.length = true)
    (keeps : ¬ b.Forgets datagram) : Represents (b.store datagram) (queue ++ [datagram]) := by
  obtain ⟨smalls, laid⟩ := h
  have head := b.head_lt
  have tail := b.tail_lt
  have fits := b.block_fits (Nat.le_of_lt small)
  refine ⟨?_, ?_⟩
  · intro d member
    rcases List.mem_append.mp member with old | new
    · exact smalls d old
    · rwa [List.mem_singleton.mp new]
  cases laid with
  | straight stored reach =>
    have stored' : LiesAt (b.store datagram).buf b.tail (blocks (queue ++ [datagram])) := by
      rw [blocks_concat, liesAt_append, reach]
      exact ⟨stored.overwrite_after (by omega) fits, liesAt_overwrite fits⟩
    by_cases lap : b.circularBufferLength ≤ b.head + 2 + datagram.length
    · -- The block ends the lap and the next one goes to the start of the array.
      have start : (b.store datagram).head = 0 := if_pos lap
      have positive : 0 < b.tail := Nat.pos_of_ne_zero fun zero => keeps ⟨zero, lap⟩
      refine .wrapped queue datagram [] (List.append_nil _).symm stored' ?_ ?_ (liesAt_nil ..) start.symm ?_
      · exact reach ▸ head
      · rw [blocks_concat, List.length_append, length_block]
        show b.circularBufferLength ≤ b.tail + _
        omega
      · rw [start]
        exact positive
    · refine .straight stored' ?_
      rw [blocks_concat, List.length_append, length_block]
      show b.tail + _ = b.wrap _
      rw [wrap, if_neg lap]
      omega
  | wrapped front last back parts storedFront before beyond storedBack reach order =>
    have room : headerLength + datagram.length ≤ b.tail - b.head - 1 := by
      rw [hasEnoughSpaceFor, if_neg (by omega)] at space
      simpa using space
    rw [headerLength] at room
    have step : (b.store datagram).head = b.head + 2 + datagram.length := if_neg (by omega)
    refine .wrapped front last (back ++ [datagram]) (by rw [parts, List.append_assoc])
      (storedFront.overwrite_before (by rw [length_block]; omega)) before beyond ?_ ?_ ?_
    · rw [blocks_concat, liesAt_append, reach, Nat.zero_add]
      exact ⟨storedBack.overwrite_after (by omega) fits, liesAt_overwrite fits⟩
    · rw [blocks_concat, List.length_append, length_block, step]
      omega
    · rw [step]
      show _ < b.tail
      omega

theorem store_forgets {b : DatagramBuffer} {datagram : List UInt8} (forgets : b.Forgets datagram) :
    (b.store datagram).isEmpty = true := by
  have head : (b.store datagram).head = 0 := if_pos forgets.2
  rw [isEmpty, head, beq_iff_eq]
  exact forgets.1.symm

def sendWhole (datagram : List UInt8) : Except ErrorKind Nat := .ok datagram.length

theorem stored_first {b : DatagramBuffer} {datagram : List UInt8} {rest : List (List UInt8)}
    (h : Represents b (datagram :: rest)) : LiesAt b.buf b.tail (block datagram) := by
  cases h.laid with
  | straight stored reach => exact (liesAt_append.mp stored).1
  | wrapped front last back parts storedFront =>
    cases front with
    | nil =>
      cases parts
      rwa [List.nil_append, blocks_cons, blocks_nil, List.append_nil] at storedFront
    | cons first front =>
      cases parts
      exact (liesAt_append.mp storedFront).1

/-- The front datagram is offered, and the buffer moves on whatever the destination answers. -/
theorem writeTo_front {b : DatagramBuffer} {datagram : List UInt8} {rest : List (List UInt8)}
    (h : Represents b (datagram :: rest)) (send : List UInt8 → Except ErrorKind Nat) :
    b.writeTo send = .ok (b.release datagram.length, datagram,
      match send datagram with
      | .ok w => if w = datagram.length then .ok () else .error .other
      | .error e => .error e) := by
  have length := b.length_eq
  have tail := b.tail_lt
  rw [maxBlockLength, headerLength, maxDatagramLength] at length
  have small := h.small datagram List.mem_cons_self
  obtain ⟨number, bytes⟩ := read_block (by omega) (stored_first h)
  have same : datagram.length.toUInt16.toNat = datagram.length := UInt16.toNat_ofNat_of_lt' small
  have nonempty : b.isEmpty = false := Bool.eq_false_iff.mpr fun empty => by cases (isEmpty_iff h).mp empty
  rw [writeTo, nonempty, if_neg (by simp), number, ok_bind, same, bytes, ok_bind]
  dsimp only
  split <;> rfl

theorem writeTo_eq {b : DatagramBuffer} {datagram : List UInt8} {rest : List (List UInt8)}
    (h : Represents b (datagram :: rest)) :
    b.writeTo sendWhole = .ok (b.release datagram.length, datagram, .ok ()) := by
  rw [writeTo_front h]
  simp only [sendWhole, if_true]

theorem release_represents {b : DatagramBuffer} {datagram : List UInt8} {rest : List (List UInt8)}
    (h : Represents b (datagram :: rest)) : Represents (b.release datagram.length) rest := by
  obtain ⟨small, laid⟩ := h
  have head := b.head_lt
  refine ⟨fun d member => small d (List.mem_cons_of_mem _ member), ?_⟩
  cases laid with
  | straight stored reach =>
    rw [blocks_cons, List.length_append, length_block] at reach
    have step : (b.release datagram.length).tail = b.tail + 2 + datagram.length := if_neg (by omega)
    obtain ⟨_, others⟩ := liesAt_append.mp stored
    rw [length_block, ← Nat.add_assoc, ← step] at others
    exact .straight others (by rw [step]; show _ = b.head; omega)
  | wrapped front last back parts storedFront before beyond storedBack reach order =>
    cases front with
    | nil =>
      -- The last block of the lap: the tail goes back to the start of the array.
      cases parts
      rw [List.nil_append, blocks_cons, blocks_nil, List.append_nil, length_block] at beyond
      have step : (b.release datagram.length).tail = 0 := if_pos (by omega)
      refine .straight ?_ ?_
      · rw [step]
        exact storedBack
      · rw [step, Nat.zero_add]
        exact reach
    | cons first front =>
      cases parts
      rw [blocks_cons, List.length_append, length_block] at before
      rw [List.cons_append, blocks_cons, List.length_append, length_block] at beyond
      have step : (b.release datagram.length).tail = b.tail + 2 + datagram.length := if_neg (by omega)
      obtain ⟨_, others⟩ := liesAt_append.mp storedFront
      rw [length_block, ← Nat.add_assoc, ← step] at others
      refine .wrapped front last back rfl others ?_ ?_ storedBack reach ?_ <;> rw [step]
      · show _ < b.circularBufferLength
        omega
      · show b.circularBufferLength ≤ _
        omega
      · show b.head < _
        omega

/-! ### Runs -/

inductive Call where
  | readFrom (datagram : List UInt8)
  | writeTo

/-- A buffer together with the datagrams that it accepted and did not send yet. -/
structure Traffic where
  buffer : DatagramBuffer
  queue : List (List UInt8)

namespace Traffic

def start (capacity : Nat) : Traffic where
  buffer := .new capacity
  queue := []

def step (t : Traffic) : Call → Traffic
  | .readFrom datagram =>
    match t.buffer.readFrom datagram with
    | .ok (some buffer) => { buffer, queue := t.queue ++ [datagram] }
    | _ => t
  | .writeTo =>
    match t.buffer.writeTo sendWhole with
    | .ok (buffer, _) => { buffer, queue := t.queue.tail }
    | .error _ => t

/-- The call behaves as on a queue: it stays inside the array, a send takes the front, and the buffer
is empty afterwards exactly when the queue is. -/
def Behaves (t : Traffic) (call : Call) : Prop :=
  (match call with
    | .readFrom datagram => ∃ r, t.buffer.readFrom datagram = .ok r
    | .writeTo => ∀ front rest, t.queue = front :: rest →
        ∃ buffer, t.buffer.writeTo sendWhole = .ok (buffer, front, .ok ())) ∧
  ((t.step call).buffer.isEmpty = true ↔ (t.step call).queue = [])

/-- No datagram ends the lap while the tail is at the start of the array. -/
def Remembers (t : Traffic) : Call → Prop
  | .readFrom datagram => ¬ t.buffer.Forgets datagram
  | .writeTo => True

def Fits : Call → Prop
  | .readFrom datagram => datagram.length ≤ 65535
  | .writeTo => True

variable {t : Traffic} {call : Call}

theorem step_accepted {datagram : List UInt8} (small : datagram.length ≤ maxDatagramLength)
    (space : t.buffer.hasEnoughSpaceFor datagram.length = true) :
    t.step (.readFrom datagram) = { buffer := t.buffer.store datagram, queue := t.queue ++ [datagram] } := by
  have read := t.buffer.readFrom_eq small
  rw [if_pos space] at read
  rw [step, read]

theorem step_sent {front : List UInt8} {rest : List (List UInt8)} (h : Represents t.buffer t.queue)
    (queue : t.queue = front :: rest) :
    t.step .writeTo = { buffer := t.buffer.release front.length, queue := rest } := by
  rw [queue] at h
  simp only [step, writeTo_eq h]
  rw [queue, List.tail_cons]

theorem step_represents (h : Represents t.buffer t.queue) (fits : Fits call) (remembers : t.Remembers call) :
    Represents (t.step call).buffer (t.step call).queue := by
  cases call with
  | readFrom datagram =>
    have small : datagram.length ≤ maxDatagramLength := Nat.le_succ_of_le fits
    by_cases space : t.buffer.hasEnoughSpaceFor datagram.length = true
    · rw [step_accepted small space]
      exact store_represents h (Nat.lt_succ_of_le fits) space remembers
    · have read := t.buffer.readFrom_eq small
      rw [if_neg space] at read
      rw [step, read]
      exact h
  | writeTo =>
    cases queue : t.queue with
    | nil =>
      rw [queue] at h
      simp only [step, writeTo, (isEmpty_iff h).mpr rfl, if_true]
      rwa [queue]
    | cons front rest =>
      rw [step_sent h queue]
      rw [queue] at h
      exact release_represents h

theorem behaves_iff (h : Represents t.buffer t.queue) (fits : Fits call) :
    t.Behaves call ↔ t.Remembers call := by
  constructor
  · intro behaves
    cases call with
    | writeTo => trivial
    | readFrom datagram =>
      intro forgets
      have space : t.buffer.hasEnoughSpaceFor datagram.length = true := if_pos (by rw [forgets.1]; omega)
      have empty := behaves.2
      rw [step_accepted (Nat.le_succ_of_le fits) space] at empty
      exact absurd (empty.mp (store_forgets forgets)) (by simp)
  · intro remembers
    refine ⟨?_, isEmpty_iff (step_represents h fits remembers)⟩
    cases call with
    | readFrom datagram => exact ⟨_, t.buffer.readFrom_eq (Nat.le_succ_of_le fits)⟩
    | writeTo =>
      intro front rest queue
      rw [queue] at h
      exact ⟨_, writeTo_eq h⟩

/-- A buffer is a queue of datagrams exactly in the runs that never end a lap while the tail is at the
start of the array. -/
theorem datagram_fifo (capacity : Nat) {calls : List Call} (fits : ∀ call ∈ calls, Fits call) :
    Along step Behaves (start capacity) calls ↔ Along step Remembers (start capacity) calls :=
  along_congr (fun _ h call member => behaves_iff h (fits call member))
    (fun _ h call member remembers => step_represents h (fits call member) remembers) (represents_new capacity)

/-- Three datagrams in a buffer of nine bytes, of which the third ends the lap. -/
def lap : List Call := [.readFrom [1, 2, 3], .readFrom [4, 5], .writeTo, .readFrom [6, 7, 8, 9], .writeTo, .writeTo]

theorem datagram_fifo_lap : Along step Behaves (start 9) lap := by
  have fits : ∀ call ∈ lap, Fits call := by
    intro call member
    simp only [lap, List.mem_cons, List.not_mem_nil, or_false] at member
    rcases member with rfl | rfl | rfl | rfl | rfl | rfl <;> first | trivial | exact Nat.le_of_lt (by decide)
  refine (datagram_fifo 9 fits).mpr ?_
  have first : (start 9).Remembers (.readFrom [1, 2, 3]) := by
    rintro ⟨_, ends⟩
    exact absurd ends (by decide : ¬ 10 ≤ 0 + 2 + 3)
  have one : (start 9).step (.readFrom [1, 2, 3]) = _ := step_accepted (by decide) (if_pos (Nat.le_refl 0))
  have second : ((start 9).step (.readFrom [1, 2, 3])).Remembers (.readFrom [4, 5]) := by
    rw [one]
    rintro ⟨_, ends⟩
    exact absurd ends (by decide : ¬ 10 ≤ 5 + 2 + 2)
  have represents := step_represents (step_represents (represents_new 9) (fits _ List.mem_cons_self) first)
    (fits _ (List.mem_cons_of_mem _ List.mem_cons_self)) second
  have two : ((start 9).step (.readFrom [1, 2, 3])).step (.readFrom [4, 5]) = _ :=
    step_accepted (by decide) (by rw [one]; exact if_pos (Nat.zero_le 5))
  rw [one] at two represents
  have sent := step_sent represents (show _ = [1, 2, 3] :: [[4, 5]] by rw [two]; rfl)
  refine ⟨first, second, trivial, ?_, trivial, trivial, trivial⟩
  -- The tail lies behind the first block.
  rintro ⟨start, _⟩
  rw [one, sent, two] at start
  cases start

/-- Five bytes fill a buffer of four beyond its end: it takes them and looks empty. -/
theorem accepted_datagram_lost :
    let t := (start 4).step (.readFrom [0, 1, 2, 3, 4])
    t.queue = [[0, 1, 2, 3, 4]] ∧ t.buffer.isEmpty = true := by
  have forgets : (start 4).buffer.Forgets [0, 1, 2, 3, 4] := ⟨rfl, (by decide : 5 ≤ 0 + 2 + 5)⟩
  have small : ([0, 1, 2, 3, 4] : List UInt8).length ≤ maxDatagramLength := by decide
  have space : (start 4).buffer.hasEnoughSpaceFor ([0, 1, 2, 3, 4] : List UInt8).length = true :=
    if_pos (Nat.le_refl 0)
  rw [step_accepted small space]
  exact ⟨rfl, store_forgets forgets⟩

end Traffic

/-! ### One block -/

/-- A datagram that is accepted is stored with its length, and sent by the next call, with nothing left behind. -/
def Faithful (b : DatagramBuffer) (datagram : List UInt8) : Prop :=
  ∀ b', b.readFrom datagram = .ok (some b') →
    (∃ length, readU16 b'.buf b'.tail = .ok length ∧ length.toNat = datagram.length) ∧
      ∀ send, ∃ sent result, b'.writeTo send = .ok (sent, datagram, result) ∧ sent.head = sent.tail

theorem represents_of_empty {b : DatagramBuffer} (empty : b.isEmpty = true) : Represents b [] where
  small := by simp
  laid := .straight (liesAt_nil ..) (beq_iff_eq.mp empty).symm

section Empty
variable {b : DatagramBuffer} {datagram : List UInt8} (empty : b.isEmpty = true)
include empty

theorem readFrom_empty (small : datagram.length ≤ maxDatagramLength) :
    b.readFrom datagram = .ok (some (b.store datagram)) := by
  have space : b.hasEnoughSpaceFor datagram.length = true := if_pos (Nat.le_of_eq (beq_iff_eq.mp empty).symm)
  rw [readFrom_eq b small, if_pos space]

/-- The length is stored in 16 bits. -/
theorem readU16_store (small : datagram.length ≤ maxDatagramLength) :
    readU16 (b.store datagram).buf (b.store datagram).tail = .ok datagram.length.toUInt16 := by
  have same : b.head = b.tail := beq_iff_eq.mp empty
  have fits := b.block_fits small
  have stored : LiesAt (b.store datagram).buf b.head (block datagram) := liesAt_overwrite fits
  have inside : b.head ≤ (b.store datagram).buf.length := by
    rw [store, length_overwrite]
    omega
  rw [show (b.store datagram).tail = b.head from same.symm]
  exact (read_block inside stored).1

theorem faithful_of_kept (small : datagram.length < maxDatagramLength) (keeps : ¬ b.Forgets datagram) :
    b.Faithful datagram := by
  intro b' accepted
  rw [readFrom_empty empty (Nat.le_of_lt small)] at accepted
  cases accepted
  have space : b.hasEnoughSpaceFor datagram.length = true := if_pos (Nat.le_of_eq (beq_iff_eq.mp empty).symm)
  have stored := store_represents (represents_of_empty empty) small space keeps
  have left := (isEmpty_iff (release_represents stored)).mpr rfl
  refine ⟨⟨_, readU16_store empty (Nat.le_of_lt small), UInt16.toNat_ofNat_of_lt' small⟩, fun send => ?_⟩
  exact ⟨_, _, writeTo_front stored send, beq_iff_eq.mp left⟩

end Empty

/-- A block is faithful when its length fits in 16 bits and it does not end the lap at the start of the array. -/
theorem faithful_iff {b : DatagramBuffer} {datagram : List UInt8} (empty : b.isEmpty = true)
    (small : datagram.length ≤ maxDatagramLength) :
    b.Faithful datagram ↔ datagram.length < maxDatagramLength ∧ ¬ b.Forgets datagram := by
  constructor
  · intro faithful
    obtain ⟨⟨length, read, same⟩, sends⟩ := faithful _ (readFrom_empty empty small)
    refine ⟨Nat.lt_of_le_of_ne small fun largest => ?_, fun forgets => ?_⟩
    · -- The length of the largest datagram is stored as zero.
      rw [readU16_store empty small, largest] at read
      cases read
      rw [largest] at same
      exact absurd same (by decide)
    · obtain ⟨sent, result, written, _⟩ := sends sendWhole
      rw [writeTo, store_forgets forgets] at written
      cases written
  · rintro ⟨small, keeps⟩
    exact faithful_of_kept empty small keeps

theorem faithful_small : (new 9).Faithful [0, 1, 2, 3, 4] :=
  (faithful_iff (beq_self_eq_true 0) (by decide)).mpr ⟨by decide, fun forgets => absurd forgets.2 (by decide)⟩

/-- The largest datagram is stored with length zero. -/
theorem largest_datagram_cut : (List.replicate 65536 (7 : UInt8)).length ≤ maxDatagramLength ∧
    ¬ (new 9).Faithful (List.replicate 65536 7) := by
  have length : (List.replicate 65536 (7 : UInt8)).length = maxDatagramLength := List.length_replicate
  refine ⟨Nat.le_of_eq length, fun faithful => ?_⟩
  obtain ⟨⟨n, read, same⟩, _⟩ := faithful _ (readFrom_empty (beq_self_eq_true 0) (Nat.le_of_eq length))
  rw [readU16_store (beq_self_eq_true 0) (Nat.le_of_eq length), length] at read
  cases read
  rw [length] at same
  exact absurd same (by decide)

end DatagramBuffer

end Gnirehtet.Relay
