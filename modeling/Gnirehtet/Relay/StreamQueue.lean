import Gnirehtet.Lib.Fifo
import Gnirehtet.Relay.StreamBuffer

/-!
# The stream buffer is a queue

A stream buffer next to the bounded queue that it stands for: along every run of reads that fit and
writes that the destination answers as it likes, the content is the queue.
-/

namespace Gnirehtet.Relay
open Lib

namespace StreamBuffer

/-- A destination decides on the slice that it is offered. -/
abbrev Destination := List UInt8 → WriteAnswer

/-- The slice that `write_to` hands to its destination, if it calls it at all. -/
def slice? (b : StreamBuffer) : Option (List UInt8) := if b.head = b.tail then none else some b.offered

/-- `write_to` as a call on the buffer. The error leaves before the tail moves. -/
def writeCall (b : StreamBuffer) (destination : Destination) : StreamBuffer × Except ErrorKind (List UInt8) :=
  match b.writeTo (destination b.offered) with
  | .ok (b', bytes) => (b', .ok bytes)
  | .error e => (b, .error e)

theorem writeCall_empty {b : StreamBuffer} (empty : b.head = b.tail) (destination : Destination) :
    b.slice? = none ∧ b.writeCall destination = (b, .ok []) := by
  have nothing : b.writeTo (destination b.offered) = .ok (b, []) := if_pos empty
  refine ⟨if_pos empty, ?_⟩
  rw [writeCall, nothing]

theorem writeCall_ok {b : StreamBuffer} (stored : b.head ≠ b.tail) {destination : Destination} {n : Nat}
    (takes : destination b.offered = .ok n) :
    b.writeCall destination = ((b.advance n).optimize, .ok (b.offered.take n)) := by
  have wrote : b.writeTo (destination b.offered) = .ok ((b.advance n).optimize, b.offered.take n) := by
    rw [takes]
    exact if_neg stored
  rw [writeCall, wrote]

theorem writeCall_error {b : StreamBuffer} (stored : b.head ≠ b.tail) {destination : Destination} {e : ErrorKind}
    (fails : destination b.offered = .error e) : b.writeCall destination = (b, .error e) := by
  have failed : b.writeTo (destination b.offered) = .error e := by
    rw [fails]
    exact if_neg stored
  rw [writeCall, failed]

theorem offered_prefix {b : StreamBuffer} (stored : b.head ≠ b.tail) : b.offered <+: b.content := by
  rw [b.content_eq_offered stored]
  exact List.prefix_append ..

theorem offered_ne_nil (b : StreamBuffer) : b.offered ≠ [] := by
  have := b.tail_lt
  have length := b.length_offered
  rw [← List.length_pos_iff, length]
  split <;> omega

theorem content_ne_nil {b : StreamBuffer} : b.content ≠ [] ↔ b.head ≠ b.tail := by
  rw [ne_eq, ← b.isEmpty_iff, isEmpty, beq_iff_eq]

/-! ### The queue that a buffer stands for -/

/-- The positions lie in the array, the content is the queue, and what the buffer says of itself is true
of the queue. -/
structure Represents (b : StreamBuffer) (queue : Fifo UInt8) : Prop where
  array : b.buf.length = queue.capacity + 1
  head : b.head < b.buf.length
  tail : b.tail < b.buf.length
  content : b.content = queue.items
  size : b.size = queue.items.length
  remaining : b.remaining = queue.room
  isEmpty : b.isEmpty = true ↔ queue.items = []

theorem represents_of_content {b : StreamBuffer} {queue : Fifo UInt8} (capacity : b.capacity = queue.capacity)
    (content : b.content = queue.items) : b.Represents queue where
  array := by
    have := b.head_lt
    unfold StreamBuffer.capacity at capacity
    omega
  head := b.head_lt
  tail := b.tail_lt
  content := content
  size := by rw [← content, b.length_content]
  remaining := by rw [StreamBuffer.remaining, Fifo.room, capacity, ← content, b.length_content]
  isEmpty := by rw [← content, b.isEmpty_iff]

theorem Represents.capacity {b : StreamBuffer} {queue : Fifo UInt8} (h : b.Represents queue) :
    b.capacity = queue.capacity := by
  rw [StreamBuffer.capacity, h.array, Nat.add_sub_cancel]

inductive Call where
  | readFrom (source : List UInt8)
  | writeTo (destination : Destination)

/-- The operation on the queue that a call stands for: the bytes that the destination takes leave it. -/
def Call.op (b : StreamBuffer) : Call → Fifo.Op UInt8
  | .readFrom source => .put source
  | .writeTo destination =>
    match (b.writeCall destination).2 with
    | .ok bytes => .take bytes.length
    | .error _ => .take 0

/-- A buffer and the queue, which every call moves on. -/
structure Stream where
  buffer : StreamBuffer
  queue : Fifo UInt8

namespace Stream

def start (capacity : Nat) : Stream where
  buffer := .new capacity
  queue := .new capacity

def step (s : Stream) (call : Call) : Stream where
  buffer :=
    match call with
    | .readFrom source => s.buffer.readFrom source
    | .writeTo destination => (s.buffer.writeCall destination).1
  queue := s.queue.step (call.op s.buffer)

/-- What the source asserts in debug builds, and its callers check. -/
def Fits (s : Stream) : Call → Prop
  | .readFrom source => source.length ≤ s.buffer.remaining
  | .writeTo _ => True

instance (s : Stream) (call : Call) : Decidable (s.Fits call) :=
  match call with
  | .readFrom source => inferInstanceAs (Decidable (source.length ≤ s.buffer.remaining))
  | .writeTo _ => .isTrue trivial

/-- What a call does to the content. -/
def Moves (s : Stream) : Call → Prop
  | .readFrom source => (s.step (.readFrom source)).buffer.content = s.buffer.content ++ source
  | .writeTo destination =>
    if s.buffer.content = [] then
      s.buffer.slice? = none ∧ s.buffer.writeCall destination = (s.buffer, .ok [])
    else
      ∃ slice, s.buffer.slice? = some slice ∧ slice ≠ [] ∧ slice <+: s.buffer.content ∧
        match destination slice with
        | .ok n => ∃ b, s.buffer.writeCall destination = (b, .ok (slice.take n)) ∧
            s.buffer.content = slice.take n ++ b.content
        | .error e => s.buffer.writeCall destination = (s.buffer, .error e)

/-- The call moves the content as it should, and the buffer stands for the queue before and after it. -/
structure Behaves (s : Stream) (call : Call) : Prop where
  before : s.buffer.Represents s.queue
  moves : s.Moves call
  after : (s.step call).buffer.Represents (s.step call).queue

theorem moves {s : Stream} {call : Call} (fits : s.Fits call) : s.Moves call := by
  cases call with
  | readFrom source => exact content_readFrom fits
  | writeTo destination =>
    by_cases empty : s.buffer.content = []
    · refine (if_pos empty).mpr ?_
      have equal : s.buffer.head = s.buffer.tail := Classical.not_not.mp fun stored => content_ne_nil.mpr stored empty
      exact writeCall_empty equal destination
    · refine (if_neg empty).mpr ?_
      have stored := content_ne_nil.mp empty
      refine ⟨s.buffer.offered, if_neg stored, offered_ne_nil _, offered_prefix stored, ?_⟩
      cases answer : destination s.buffer.offered with
      | ok n =>
        refine ⟨_, writeCall_ok stored answer, ?_⟩
        rw [content_optimize]
        exact s.buffer.content_advance stored n
      | error e => exact writeCall_error stored answer

theorem step_represents {s : Stream} {call : Call} (h : s.buffer.Represents s.queue) (fits : s.Fits call) :
    (s.step call).buffer.Represents (s.step call).queue := by
  cases call with
  | readFrom source =>
    apply represents_of_content
    · rw [step, Fifo.capacity_step, ← h.capacity]
      exact capacity_readFrom ..
    · have room : source.length ≤ s.queue.room := h.remaining ▸ fits
      rw [step, Call.op, Fifo.items_put room, ← h.content]
      exact content_readFrom fits
  | writeTo destination =>
    show (s.buffer.writeCall destination).1.Represents (s.queue.step (Call.op s.buffer (.writeTo destination)))
    rw [writeCall, Call.op, writeCall]
    cases wrote : s.buffer.writeTo (destination s.buffer.offered) with
    | ok r =>
      obtain ⟨b, bytes⟩ := r
      apply represents_of_content
      · rw [Fifo.capacity_step, ← h.capacity]
        exact capacity_writeTo wrote
      · show b.content = s.queue.items.drop bytes.length
        rw [← h.content, content_writeTo wrote, List.drop_left]
    | error e => exact h

/-- The buffer is a bounded queue of bytes in every run of reads that fit and writes of any outcome. -/
theorem stream_fifo (capacity : Nat) {calls : List Call} (fits : Along step Fits (start capacity) calls) :
    Along step Behaves (start capacity) calls := by
  apply Along.of_invariant (P := fun s => s.buffer.Represents s.queue) _ _ _ fits
  · intro s call h fits
    exact step_represents h fits
  · intro s call h fits
    exact ⟨h, moves fits, step_represents h fits⟩
  · exact represents_of_content (capacity_new capacity) (content_new capacity)

/-- Four bytes in an array of five cells, written in three calls: the second one fails, and the last read
goes on at the start of the array. -/
theorem stream_fifo_wrapping : Along step Behaves (start 4)
    [.readFrom [1, 2, 3], .writeTo fun _ => .ok 2, .writeTo fun _ => .error .wouldBlock, .readFrom [4, 5],
      .writeTo fun _ => .ok 9] :=
  stream_fifo 4 ⟨by decide, trivial, trivial, by decide, trivial, trivial⟩

/-! ### What goes in comes out -/

def readBytes : Call → List UInt8
  | .readFrom source => source
  | .writeTo _ => []

def writtenBytes (s : Stream) : Call → List UInt8
  | .readFrom _ => []
  | .writeTo destination =>
    match (s.buffer.writeCall destination).2 with
    | .ok bytes => bytes
    | .error _ => []

/-- What the destinations took along a run, in order. -/
def writtenAlong : Stream → List Call → List UInt8
  | _, [] => []
  | s, call :: rest => s.writtenBytes call ++ writtenAlong (s.step call) rest

def ops : Stream → List Call → List (Fifo.Op UInt8)
  | _, [] => []
  | s, call :: rest => call.op s.buffer :: ops (s.step call) rest

theorem run_queue (s : Stream) (calls : List Call) :
    (run step s calls).queue = run Fifo.step s.queue (s.ops calls) := by
  induction calls generalizing s with
  | nil => rfl
  | cons call rest ih => exact ih (s.step call)

theorem taken_op {s : Stream} (h : s.buffer.Represents s.queue) (call : Call) :
    s.queue.taken (call.op s.buffer) = s.writtenBytes call := by
  cases call with
  | readFrom source => rfl
  | writeTo destination =>
    rw [Call.op, writtenBytes, writeCall]
    cases wrote : s.buffer.writeTo (destination s.buffer.offered) with
    | ok r =>
      obtain ⟨b, bytes⟩ := r
      show s.queue.items.take bytes.length = bytes
      rw [← h.content, content_writeTo wrote, List.take_left]
    | error e => rfl

theorem ops_follow {s : Stream} {calls : List Call} (h : s.buffer.Represents s.queue) (fits : Along step Fits s calls) :
    Along Fifo.step Fifo.Fits s.queue (s.ops calls) ∧ Fifo.takenAlong s.queue (s.ops calls) = s.writtenAlong calls ∧
      (s.ops calls).flatMap Fifo.Op.put? = calls.flatMap readBytes := by
  induction calls generalizing s with
  | nil => exact ⟨trivial, rfl, rfl⟩
  | cons call rest ih =>
    obtain ⟨later, taken, put⟩ := ih (step_represents h fits.1) fits.2
    refine ⟨⟨?_, later⟩, ?_, ?_⟩
    · cases call with
      | readFrom source =>
        show source.length ≤ s.queue.room
        rw [← h.remaining]
        exact fits.1
      | writeTo destination =>
        rw [Call.op]
        split <;> trivial
    · rw [ops, Fifo.takenAlong, writtenAlong, taken_op h call]
      exact congrArg _ taken
    · rw [ops, List.flatMap_cons, List.flatMap_cons, put]
      congr 1
      cases call with
      | readFrom source => rfl
      | writeTo destination =>
        rw [Call.op]
        split <;> rfl

/-- The bytes read in are, in order, the bytes that the destinations took and then the content. -/
theorem stream_exact (capacity : Nat) {calls : List Call} (fits : Along step Fits (start capacity) calls) :
    calls.flatMap readBytes =
      (start capacity).writtenAlong calls ++ (run step (start capacity) calls).buffer.content := by
  have h : (start capacity).buffer.Represents (start capacity).queue :=
    represents_of_content (capacity_new capacity) (content_new capacity)
  obtain ⟨follow, taken, put⟩ := ops_follow h fits
  have last : (run step (start capacity) calls).buffer.Represents (run step (start capacity) calls).queue :=
    run_invariant (P := fun s => s.buffer.Represents s.queue) (fun _ _ h fits => step_represents h fits) h fits
  have conserved := Fifo.run_conserves follow
  rw [taken, put, ← run_queue, ← last.content] at conserved
  exact conserved

end Stream

end StreamBuffer

end Gnirehtet.Relay
