import Gnirehtet.Lib.Loop
import Gnirehtet.Lib.Packets
import Gnirehtet.Relay.IpPacketBuffer

/-!
# The packet stream of the device

The app writes what the relay sends through a stream that cuts it at packet boundaries: each complete
packet is one write to the target. The bytes are kept in a `java.nio.ByteBuffer` that every call fills,
flips, sinks and compacts.
-/

namespace Gnirehtet.App
open Lib

inductive Thrown where
  | ioException (message : String)
  | assertionError (message : String)
  | indexOutOfBounds
  | bufferOverflow
  | illegalArgument
  deriving DecidableEq, Repr

/-- `java.nio.ByteBuffer` -/
structure ByteBuffer where
  hb : List UInt8
  position : Nat
  limit : Nat
  position_le : position ≤ limit
  limit_le : limit ≤ hb.length

namespace ByteBuffer

def allocate (capacity : Nat) : ByteBuffer where
  hb := List.replicate capacity 0
  position := 0
  limit := capacity
  position_le := Nat.zero_le _
  limit_le := by rw [List.length_replicate]

def remaining (b : ByteBuffer) : Nat := b.limit - b.position

def hasRemaining (b : ByteBuffer) : Bool := decide (b.position < b.limit)

def rest (b : ByteBuffer) : List UInt8 := (b.hb.take b.limit).drop b.position

theorem length_rest (b : ByteBuffer) : b.rest.length = b.remaining := by
  have := b.limit_le
  rw [rest, List.length_drop, List.length_take, remaining, Nat.min_eq_left this]

def putAll (b : ByteBuffer) (source : List UInt8) : Except Thrown ByteBuffer :=
  if fits : source.length ≤ b.remaining then
    .ok { b with
      hb := overwrite b.hb b.position source
      position := b.position + source.length
      position_le := by
        have := b.position_le
        unfold remaining at fits
        omega
      limit_le := by
        rw [length_overwrite]
        exact b.limit_le }
  else .error .bufferOverflow

def put (b : ByteBuffer) (source : List UInt8) (off len : Nat) : Except Thrown ByteBuffer :=
  if off + len ≤ source.length then b.putAll ((source.drop off).take len) else .error .indexOutOfBounds

def get (b : ByteBuffer) (i : Nat) : Except Thrown UInt8 :=
  if i < b.limit then .ok (byteAt b.hb i) else .error .indexOutOfBounds

/-- Big-endian, and unsigned as `Binary.unsigned` makes it. -/
def getShort (b : ByteBuffer) (i : Nat) : Except Thrown UInt16 :=
  if i + 2 ≤ b.limit then .ok (u16At b.hb i) else .error .indexOutOfBounds

def setPosition (b : ByteBuffer) (position : Nat) : Except Thrown ByteBuffer :=
  if le : position ≤ b.limit then .ok { b with position, position_le := le } else .error .illegalArgument

def flip (b : ByteBuffer) : ByteBuffer where
  hb := b.hb
  position := 0
  limit := b.position
  position_le := Nat.zero_le _
  limit_le := Nat.le_trans b.position_le b.limit_le

def clear (b : ByteBuffer) : ByteBuffer where
  hb := b.hb
  position := 0
  limit := b.hb.length
  position_le := Nat.zero_le _
  limit_le := Nat.le_refl _

def compact (b : ByteBuffer) : ByteBuffer where
  hb := overwrite b.hb 0 b.rest
  position := b.remaining
  limit := b.hb.length
  position_le := Nat.le_trans (Nat.sub_le ..) b.limit_le
  limit_le := by rw [length_overwrite]

/-- The bytes before the position, which are the stored ones while the buffer is being filled. -/
def stored (b : ByteBuffer) : List UInt8 := b.hb.take b.position

theorem length_stored (b : ByteBuffer) : b.stored.length = b.position := by
  rw [stored, List.length_take, Nat.min_eq_left (Nat.le_trans b.position_le b.limit_le)]

@[simp] theorem rest_flip (b : ByteBuffer) : b.flip.rest = b.stored := rfl

@[simp] theorem hb_flip (b : ByteBuffer) : b.flip.hb = b.hb := rfl

theorem stored_compact (b : ByteBuffer) : b.compact.stored = b.rest := by
  have length := b.length_rest
  have inside : 0 + b.rest.length ≤ b.hb.length := by
    have := b.limit_le
    rw [length, remaining]
    omega
  have front := take_overwrite_end inside
  rw [Nat.zero_add, List.take_zero, List.nil_append, length] at front
  exact front

@[simp] theorem length_hb_compact (b : ByteBuffer) : b.compact.hb.length = b.hb.length := length_overwrite ..

theorem limit_compact (b : ByteBuffer) : b.compact.limit = b.compact.hb.length := by
  rw [length_hb_compact]
  rfl

theorem putAll_spec {b : ByteBuffer} {source : List UInt8} (fits : source.length ≤ b.remaining) :
    ∃ b', b.putAll source = .ok b' ∧ b'.stored = b.stored ++ source ∧ b'.hb.length = b.hb.length := by
  have inside : b.position + source.length ≤ b.hb.length := by
    have := b.position_le
    have := b.limit_le
    unfold remaining at fits
    omega
  exact ⟨_, dif_pos fits, take_overwrite_end inside, length_overwrite ..⟩

theorem byteAt_rest {b : ByteBuffer} {i : Nat} (inside : b.position + i < b.limit) :
    byteAt b.rest i = byteAt b.hb (b.position + i) := by
  rw [rest, byteAt_drop, byteAt_take inside]

theorem u16At_rest {b : ByteBuffer} {i : Nat} (inside : b.position + i + 1 < b.limit) :
    u16At b.rest i = u16At b.hb (b.position + i) := by
  rw [rest, u16At_drop, u16At_take inside]

end ByteBuffer

/-! ### Reading the header -/

def readPacketVersion (buffer : ByteBuffer) : Except Thrown (Option UInt8) :=
  if buffer.hasRemaining then do
    let versionAndIHL ← buffer.get buffer.position
    return some ((versionAndIHL &&& 0xf0) >>> 4)
  else .ok none

def readPacketLength (buffer : ByteBuffer) : Except Thrown (Option Nat) :=
  if buffer.limit < buffer.position + 4 then .ok none
  else do return some (← buffer.getShort (buffer.position + 2)).toNat

def readIpv6PacketLength (buffer : ByteBuffer) : Except Thrown (Option Nat) :=
  if buffer.limit < buffer.position + 6 then .ok none
  else do
    let payloadLength := (← buffer.getShort (buffer.position + 4)).toNat
    return some (payloadLength + 40)

def maxIpPacketLength : Nat := 65536

/-- The target is what it has received, one list for each write. A write that throws ends a run of calls, and is
taken up where the room of the buffer is. -/
structure IpPacketOutputStream where
  buffer : ByteBuffer
  target : List (List UInt8)

namespace IpPacketOutputStream

def new : IpPacketOutputStream where
  buffer := .allocate (2 * maxIpPacketLength)
  target := []

def sinkLength (s : IpPacketOutputStream) (packetLength : Option Nat) : Except Thrown (IpPacketOutputStream × Bool) :=
  match packetLength with
  | none => .ok (s, false)
  | some packetLength =>
    if s.buffer.remaining < packetLength then .ok (s, false)
    else do
      let buffer ← s.buffer.setPosition (s.buffer.position + packetLength)
      return ({ buffer, target := s.target ++ [(s.buffer.hb.drop s.buffer.position).take packetLength] }, true)

/-- Returns whether a packet was written. A front that is no packet clears the buffer. -/
def sinkPacket (s : IpPacketOutputStream) : Except Thrown (IpPacketOutputStream × Bool) := do
  match ← readPacketVersion s.buffer with
  | none => return (s, false)
  | some version =>
    if version = 4 then s.sinkLength (← readPacketLength s.buffer)
    else if version = 6 then s.sinkLength (← readIpv6PacketLength s.buffer)
    else return ({ s with buffer := s.buffer.clear }, false)

def turn (s : IpPacketOutputStream) : Flow Thrown IpPacketOutputStream :=
  match s.sinkPacket with
  | .ok (s, true) => .next s
  | .ok (s, false) => .stop s
  | .error e => .fail e

/-- At most `n` turns. -/
def sink (n : Nat) (s : IpPacketOutputStream) : Option (Except Thrown IpPacketOutputStream) := loop turn n s

def sinkStored (n : Nat) (s : IpPacketOutputStream) : Option (Except Thrown IpPacketOutputStream) :=
  (sink n { s with buffer := s.buffer.flip }).map fun r => r.map fun s => { s with buffer := s.buffer.compact }

/-- `write(b, off, len)` -/
def write (n : Nat) (s : IpPacketOutputStream) (b : List UInt8) (off len : Nat) :
    Option (Except Thrown IpPacketOutputStream) :=
  if maxIpPacketLength < len then
    some (.error (.ioException "IPPacketOutputStream does not support writing more than one packet at a time"))
  else if s.buffer.remaining < len then some (.error (.assertionError "Buffer is unexpectedly full"))
  else
    match s.buffer.put b off len with
    | .ok buffer => sinkStored n { s with buffer }
    | .error e => some (.error e)

/-- `write(b)` -/
def writeByte (n : Nat) (s : IpPacketOutputStream) (b : UInt8) : Option (Except Thrown IpPacketOutputStream) :=
  if s.buffer.hasRemaining then
    match s.buffer.putAll [b] with
    | .ok buffer => sinkStored n { s with buffer }
    | .error e => some (.error e)
  else some (.error (.ioException "IPPacketOutputStream buffer is full"))

/-! ### One packet -/

/-- The bytes that are not written yet, while the buffer is sunk. -/
def pending (s : IpPacketOutputStream) : List UInt8 := s.buffer.rest

/-- Where the length field of a packet ends. -/
def lengthEnd (data : List UInt8) : Nat := if byteAt data 0 >>> 4 = 4 then 4 else 6

/-- The length of the packet at the front, when it is complete. -/
def completeLength (data : List UInt8) : Option Nat :=
  if data.length < lengthEnd data then none else (Relay.statedLength data).filter fun n => decide (n ≤ data.length)

theorem masked_version : ∀ n : Fin 256, (n.val &&& 0xf0) >>> 4 = n.val >>> 4 := by decide +kernel

theorem shiftRight_masked (b : UInt8) : (b &&& 0xf0) >>> 4 = b >>> 4 := by
  apply UInt8.toNat.inj
  rw [UInt8.toNat_shiftRight, UInt8.toNat_shiftRight, UInt8.toNat_and]
  exact masked_version ⟨b.toNat, b.toNat_lt⟩

theorem readPacketVersion_eq (b : ByteBuffer) :
    readPacketVersion b = .ok (if b.rest.length = 0 then none else some (byteAt b.rest 0 >>> 4)) := by
  rw [b.length_rest, readPacketVersion, ByteBuffer.hasRemaining]
  unfold ByteBuffer.remaining
  by_cases stored : b.position < b.limit
  · rw [if_pos (decide_eq_true stored), ByteBuffer.get, if_pos stored, ok_bind, if_neg (by omega),
      shiftRight_masked, ByteBuffer.byteAt_rest (by omega)]
    rfl
  · rw [if_neg (by simpa using stored), if_pos (by omega)]

theorem readPacketLength_eq (b : ByteBuffer) :
    readPacketLength b = .ok (if b.rest.length < 4 then none else some (u16At b.rest 2).toNat) := by
  have inside := b.position_le
  rw [b.length_rest, readPacketLength, ByteBuffer.remaining]
  by_cases short : b.limit < b.position + 4
  · rw [if_pos short, if_pos (by omega)]
  · rw [if_neg short, if_neg (by omega), ByteBuffer.getShort, if_pos (by omega), ok_bind,
      ByteBuffer.u16At_rest (by omega)]
    rfl

theorem readIpv6PacketLength_eq (b : ByteBuffer) :
    readIpv6PacketLength b = .ok (if b.rest.length < 6 then none else some ((u16At b.rest 4).toNat + 40)) := by
  have inside := b.position_le
  rw [b.length_rest, readIpv6PacketLength, ByteBuffer.remaining]
  by_cases short : b.limit < b.position + 6
  · rw [if_pos short, if_pos (by omega)]
  · rw [if_neg short, if_neg (by omega), ByteBuffer.getShort, if_pos (by omega), ok_bind,
      ByteBuffer.u16At_rest (by omega)]
    rfl

/-- `n` bytes go from the front to the target in one write. -/
structure Wrote (s : IpPacketOutputStream) (n : Nat) (s' : IpPacketOutputStream) : Prop where
  target : s'.target = s.target ++ [s.pending.take n]
  pending : s'.pending = s.pending.drop n
  size : s'.buffer.hb.length = s.buffer.hb.length

theorem sinkLength_none {s : IpPacketOutputStream} {length : Option Nat}
    (incomplete : length.filter (fun n => decide (n ≤ s.pending.length)) = none) :
    s.sinkLength length = .ok (s, false) := by
  cases length with
  | none => rfl
  | some n =>
    rw [Option.filter_eq_none_iff] at incomplete
    have long := incomplete n rfl
    rw [decide_eq_true_eq, IpPacketOutputStream.pending, s.buffer.length_rest] at long
    exact if_pos (by omega)

theorem sinkLength_some {s : IpPacketOutputStream} {length : Option Nat} {n : Nat}
    (complete : length.filter (fun n => decide (n ≤ s.pending.length)) = some n) :
    ∃ s', s.sinkLength length = .ok (s', true) ∧ s.Wrote n s' := by
  obtain ⟨rfl, fits⟩ := Option.filter_eq_some_iff.mp complete
  rw [decide_eq_true_eq, IpPacketOutputStream.pending, s.buffer.length_rest] at fits
  have inside := s.buffer.position_le
  have fits' := fits
  unfold ByteBuffer.remaining at fits'
  have packet : (s.buffer.hb.drop s.buffer.position).take n = s.pending.take n := by
    rw [IpPacketOutputStream.pending, ByteBuffer.rest, List.drop_take, List.take_take, Nat.min_eq_left fits']
  rw [sinkLength, if_neg (by omega), ByteBuffer.setPosition, dif_pos (by omega), ok_bind, packet]
  refine ⟨_, rfl, rfl, ?_, rfl⟩
  exact (List.drop_drop ..).symm

/-- The length is read, if its bytes are there, and then checked against what is pending. -/
theorem sinkPacket_eq {s : IpPacketOutputStream} (starts : Relay.StartsPacket s.pending) :
    s.sinkPacket = s.sinkLength
      (if s.pending.length < lengthEnd s.pending then none else Relay.statedLength s.pending) := by
  have nonempty : s.pending.length ≠ 0 := by
    intro empty
    rw [List.length_eq_zero_iff.mp empty] at starts
    exact absurd starts (by decide)
  have version : readPacketVersion s.buffer = .ok (some (byteAt s.pending 0 >>> 4)) := by
    rw [readPacketVersion_eq, ← pending, if_neg nonempty]
  rw [sinkPacket, version, ok_bind, lengthEnd, Relay.statedLength]
  rcases starts with four | six
  · simp only [four, if_true, readPacketLength_eq]
    rfl
  · have notFour : ¬ byteAt s.pending 0 >>> 4 = 4 := by
      rw [six]
      decide
    simp only [six, if_true, if_neg (show ¬ (6 : UInt8) = 4 by decide), readIpv6PacketLength_eq]
    rfl

theorem sinkPacket_packet {s : IpPacketOutputStream} (starts : Relay.StartsPacket s.pending) :
    match completeLength s.pending with
    | some n => ∃ s', s.sinkPacket = .ok (s', true) ∧ s.Wrote n s'
    | none => s.sinkPacket = .ok (s, false) := by
  have complete : completeLength s.pending =
      (if s.pending.length < lengthEnd s.pending then none else Relay.statedLength s.pending).filter
        fun n => decide (n ≤ s.pending.length) := by
    unfold completeLength
    split <;> rfl
  rw [sinkPacket_eq starts]
  cases found : completeLength s.pending with
  | some n => exact sinkLength_some (complete.symm.trans found)
  | none => exact sinkLength_none (complete.symm.trans found)

/-! ### A stream of packets -/

/-- The length field holds the length of the packet, which is at least that of an IPv4 header. -/
structure Framed (p : List UInt8) : Prop where
  stated : Relay.statedLength p = some p.length
  long : 20 ≤ p.length
  small : p.length ≤ 65535

namespace Framed
variable {p : List UInt8} (framed : Framed p)
include framed

theorem starts : Relay.StartsPacket p := by
  have stated := framed.stated
  unfold Relay.statedLength at stated
  split at stated
  · exact Or.inl (by assumption)
  · split at stated
    · exact Or.inr (by assumption)
    · cases stated

theorem front {data : List UInt8} (same : ∃ rest, data = p ++ rest ∨ data ++ rest = p) (nonempty : data ≠ []) :
    Relay.StartsPacket data ∧ (lengthEnd data ≤ data.length → Relay.statedLength data = some p.length) := by
  have long := framed.long
  have stated := framed.stated
  have positive := List.length_pos_iff.mpr nonempty
  obtain ⟨rest, same⟩ := same
  have first : byteAt data 0 = byteAt p 0 := by
    rcases same with rfl | whole
    · exact byteAt_append_left (by omega)
    · rw [← whole]
      exact (byteAt_append_left positive).symm
  have field {i : Nat} (inside : i + 2 ≤ data.length) (small : i + 2 ≤ 20) : u16At data i = u16At p i := by
    rcases same with rfl | whole
    · exact u16At_append_left (by omega)
    · rw [← whole]
      exact (u16At_append_left (by omega)).symm
  refine ⟨by rw [Relay.StartsPacket, first]; exact framed.starts, ?_⟩
  intro enough
  rw [← stated]
  unfold lengthEnd at enough
  unfold Relay.statedLength
  rw [first] at enough ⊢
  split
  · rename_i four
    rw [if_pos four] at enough
    rw [field (by omega) (by omega)]
  · rename_i notFour
    rw [if_neg notFour] at enough
    rw [field (by omega) (by omega)]

theorem append_ne_nil (rest : List UInt8) : p ++ rest ≠ [] := by
  have long := framed.long
  intro empty
  have := congrArg List.length empty
  rw [List.length_append, List.length_nil] at this
  omega

theorem completeLength_whole (rest : List UInt8) : completeLength (p ++ rest) = some p.length := by
  have long := framed.long
  have short : lengthEnd (p ++ rest) ≤ (p ++ rest).length := by
    unfold lengthEnd
    rw [List.length_append]
    split <;> omega
  rw [completeLength, if_neg (by omega), (framed.front ⟨rest, Or.inl rfl⟩ (framed.append_ne_nil rest)).2 short]
  simp

theorem completeLength_part {part : List UInt8} (front : part <+: p) (nonempty : part ≠ [])
    (lt : part.length < p.length) : completeLength part = none := by
  obtain ⟨rest, whole⟩ := front
  unfold completeLength
  split
  · rfl
  · rw [(framed.front ⟨rest, Or.inr whole⟩ nonempty).2 (by omega)]
    simp [lt]

end Framed

theorem turn_whole {s : IpPacketOutputStream} {p behind : List UInt8} (framed : Framed p)
    (front : s.pending = p ++ behind) : ∃ s', s.turn = .next s' ∧ s'.target = s.target ++ [p] ∧
      s'.pending = behind ∧ s'.buffer.hb.length = s.buffer.hb.length := by
  have starts : Relay.StartsPacket s.pending := by
    rw [front]
    exact (framed.front ⟨behind, Or.inl rfl⟩ (framed.append_ne_nil behind)).1
  have step := sinkPacket_packet starts
  rw [front, framed.completeLength_whole] at step
  obtain ⟨s', sunk, wrote⟩ := step
  refine ⟨s', by rw [turn, sunk], ?_, ?_, wrote.size⟩
  · rw [wrote.target, front, List.take_left]
  · rw [wrote.pending, front, List.drop_left]

theorem turn_empty {s : IpPacketOutputStream} (empty : s.pending = []) : s.turn = .stop s := by
  have nothing : s.sinkPacket = .ok (s, false) := by
    rw [sinkPacket, readPacketVersion_eq, ← pending, empty]
    rfl
  rw [turn, nothing]

theorem turn_part {s : IpPacketOutputStream} {p : List UInt8} (framed : Framed p) (front : s.pending <+: p)
    (lt : s.pending.length < p.length) : s.turn = .stop s := by
  by_cases empty : s.pending = []
  · exact turn_empty empty
  · obtain ⟨rest, whole⟩ := front
    have step := sinkPacket_packet (framed.front ⟨rest, Or.inr whole⟩ empty).1
    rw [framed.completeLength_part ⟨rest, whole⟩ empty lt] at step
    rw [turn, step]

/-- The loop writes the packets that are complete, one by one, and keeps the rest. -/
theorem sink_writes {todo : List (List UInt8)} (framed : ∀ p ∈ todo, Framed p) {s : IpPacketOutputStream}
    (front : s.pending <+: todo.flatten) : ∃ n s', sink n s = some (.ok s') ∧
      s'.target = s.target ++ completed todo s.pending.length ∧
      s'.pending = s.pending.drop (completed todo s.pending.length).flatten.length ∧
      s'.buffer.hb.length = s.buffer.hb.length := by
  induction todo generalizing s with
  | nil =>
    have waits : s.turn = .stop s := turn_empty (List.prefix_nil.mp front)
    exact ⟨1, s, by rw [sink, loop_succ, waits], (List.append_nil _).symm, rfl, rfl⟩
  | cons p rest ih =>
    have first := framed p List.mem_cons_self
    by_cases whole : p.length ≤ s.pending.length
    · obtain ⟨behind, held⟩ := List.prefix_of_prefix_length_le (List.prefix_append p rest.flatten) front whole
      obtain ⟨mid, turned, target, pending, size⟩ := turn_whole first held.symm
      have later : mid.pending <+: rest.flatten := by
        rw [List.flatten_cons, ← held] at front
        rw [pending]
        exact (List.prefix_append_right_inj p).mp front
      obtain ⟨n, s', sunk, target', pending', size'⟩ :=
        ih (fun q member => framed q (List.mem_cons_of_mem p member)) later
      have packets : completed (p :: rest) s.pending.length = p :: completed rest behind.length := by
        rw [completed, if_pos whole, ← held, List.length_append, Nat.add_sub_cancel_left]
      refine ⟨n + 1, s', ?_, ?_, ?_, size'.trans size⟩
      · rw [sink, loop_succ, turned]
        exact sunk
      · rw [target', target, packets, pending, List.append_assoc, List.singleton_append]
      · rw [pending', packets, pending, List.flatten_cons, List.length_append, ← List.drop_drop, ← held, List.drop_left]
    · have part : s.pending <+: p := List.prefix_of_prefix_length_le front (List.prefix_append p rest.flatten)
        (Nat.le_of_lt (Nat.lt_of_not_le whole))
      have waits := turn_part first part (Nat.lt_of_not_le whole)
      have nothing : completed (p :: rest) s.pending.length = [] := if_neg whole
      rw [nothing]
      exact ⟨1, s, by rw [sink, loop_succ, waits], (List.append_nil _).symm, rfl, rfl⟩

/-- Between two calls: the first `n` bytes of the packets have come, the complete packets were written
and the rest lies at the front of a buffer of 128 KiB. -/
structure Holds (packets : List (List UInt8)) (n : Nat) (s : IpPacketOutputStream) : Prop where
  target : s.target = completed packets n
  stored : s.buffer.stored = leftover packets n
  limit : s.buffer.limit = s.buffer.hb.length
  size : s.buffer.hb.length = 2 * maxIpPacketLength

structure Call where
  b : List UInt8
  off : Nat
  len : Nat
  inside : off + len ≤ b.length

def Call.chunk (call : Call) : List UInt8 := (call.b.drop call.off).take call.len

theorem Call.length_chunk (call : Call) : call.chunk.length = call.len := by
  have := call.inside
  rw [chunk, List.length_take, List.length_drop]
  omega

def Writes (s : IpPacketOutputStream) (call : Call) (r : Except Thrown IpPacketOutputStream) : Prop :=
  ∃ n, s.write n call.b call.off call.len = some r

variable {packets : List (List UInt8)} (framed : ∀ p ∈ packets, Framed p)
include framed

theorem Holds.room {n : Nat} {s : IpPacketOutputStream} (holds : Holds packets n s) :
    maxIpPacketLength ≤ s.buffer.remaining := by
  have tail := length_leftover_le (n := n) fun p member => (framed p member).small
  have stored := s.buffer.length_stored
  rw [holds.stored] at stored
  rw [ByteBuffer.remaining, holds.limit, holds.size]
  unfold maxIpPacketLength
  omega

theorem write_holds {n : Nat} {s : IpPacketOutputStream} (holds : Holds packets n s)
    (arrived : n ≤ packets.flatten.length) {call : Call} (short : call.len ≤ maxIpPacketLength)
    (next : call.chunk <+: packets.flatten.drop n) :
    ∃ s', s.Writes call (.ok s') ∧ Holds packets (n + call.len) s' := by
  have room : call.len ≤ s.buffer.remaining := Nat.le_trans short (holds.room framed)
  obtain ⟨buffer, put, stored, size⟩ := ByteBuffer.putAll_spec
    (show call.chunk.length ≤ s.buffer.remaining by rw [call.length_chunk]; exact room)
  have pending : (⟨buffer.flip, s.target⟩ : IpPacketOutputStream).pending =
      (missing packets n).flatten.take (n - (completed packets n).flatten.length + call.len) := by
    rw [IpPacketOutputStream.pending, ByteBuffer.rest_flip, stored, holds.stored, leftover_append packets next,
      call.length_chunk]
  have length : (⟨buffer.flip, s.target⟩ : IpPacketOutputStream).pending.length =
      n - (completed packets n).flatten.length + call.len := by
    have := length_leftover packets arrived
    rw [IpPacketOutputStream.pending, ByteBuffer.rest_flip, stored, holds.stored, List.length_append,
      call.length_chunk]
    omega
  have rest : ∀ p ∈ missing packets n, Framed p := fun p member => framed p (List.mem_of_mem_drop member)
  obtain ⟨turns, s', sunk, target', pending', size'⟩ := sink_writes rest
    (s := ⟨buffer.flip, s.target⟩) (by rw [pending]; exact List.take_prefix ..)
  rw [length] at target' pending'
  refine ⟨{ s' with buffer := s'.buffer.compact }, ⟨turns, ?_⟩, ?_, ?_, s'.buffer.limit_compact, ?_⟩
  · have taken : s.buffer.put call.b call.off call.len = .ok buffer := by
      rw [ByteBuffer.put, if_pos call.inside]
      exact put
    rw [write, if_neg (by omega), if_neg (by omega), taken]
    show (sink turns ⟨buffer.flip, s.target⟩).map _ = _
    rw [sunk]
    rfl
  · rw [target', completed_missing packets n call.len, ← holds.target]
  · rw [ByteBuffer.stored_compact, leftover_missing, ← pending]
    exact pending'
  · rw [ByteBuffer.length_hb_compact, size', ByteBuffer.hb_flip, size, holds.size]

omit framed in
/-- The calls are made one after the other, and none throws. -/
def WritesAll : IpPacketOutputStream → List Call → IpPacketOutputStream → Prop
  | s, [], s' => s' = s
  | s, call :: rest, s' => ∃ mid, s.Writes call (.ok mid) ∧ WritesAll mid rest s'

theorem writesAll_holds {calls : List Call} (short : ∀ call ∈ calls, call.len ≤ maxIpPacketLength) {n : Nat}
    {s : IpPacketOutputStream} (holds : Holds packets n s) (arrived : n ≤ packets.flatten.length)
    (next : (calls.map Call.chunk).flatten <+: packets.flatten.drop n) :
    ∃ s', WritesAll s calls s' ∧ Holds packets (n + (calls.map Call.chunk).flatten.length) s' := by
  induction calls generalizing n s with
  | nil => exact ⟨s, rfl, holds⟩
  | cons call rest ih =>
    rw [List.map_cons, List.flatten_cons] at next
    have bound := next.length_le
    rw [List.length_append, List.length_drop, call.length_chunk] at bound
    obtain ⟨mid, written, middle⟩ :=
      write_holds framed holds arrived (short call List.mem_cons_self) ((List.prefix_append ..).trans next)
    have later : (rest.map Call.chunk).flatten <+: packets.flatten.drop (n + call.len) := by
      obtain ⟨more, whole⟩ := next
      rw [← List.drop_drop, ← whole, List.append_assoc, ← call.length_chunk, List.drop_left]
      exact List.prefix_append ..
    obtain ⟨s', all, last⟩ := ih (fun c member => short c (List.mem_cons_of_mem call member)) middle (by omega) later
    refine ⟨s', ⟨mid, written, all⟩, ?_⟩
    rw [List.map_cons, List.flatten_cons, List.length_append, call.length_chunk, ← Nat.add_assoc]
    exact last

theorem holds_new : Holds packets 0 new where
  target := by
    have nonempty : ∀ p ∈ packets, p ≠ [] := by
      intro p member empty
      have := (framed p member).long
      rw [empty] at this
      exact absurd this (by decide)
    exact (completed_zero nonempty).symm
  stored := (leftover_zero packets).symm
  limit := (List.length_replicate ..).symm
  size := List.length_replicate ..

/-- Each packet is one write to the target, in the call that brings its last byte, and no call throws. -/
theorem writes_exact {calls : List Call} (short : ∀ call ∈ calls, call.len ≤ maxIpPacketLength)
    (division : (calls.map Call.chunk).flatten = packets.flatten) {before after : List Call}
    (parts : calls = before ++ after) : ∃ s, WritesAll new before s ∧
      s.target = completed packets (before.map Call.chunk).flatten.length ∧ (after = [] → s.target = packets) := by
  have front : (before.map Call.chunk).flatten <+: packets.flatten.drop 0 := by
    rw [List.drop_zero, ← division, parts, List.map_append, List.flatten_append]
    exact List.prefix_append ..
  have short' : ∀ call ∈ before, call.len ≤ maxIpPacketLength := by
    intro call member
    apply short
    rw [parts]
    exact List.mem_append_left after member
  obtain ⟨s, all, holds⟩ := writesAll_holds framed short' (holds_new framed) (Nat.zero_le _) front
  rw [Nat.zero_add] at holds
  refine ⟨s, all, holds.target, ?_⟩
  rintro rfl
  rw [List.append_nil] at parts
  rw [holds.target, ← parts, division, completed_all]

end IpPacketOutputStream

namespace Sample
open IpPacketOutputStream

def ipv4Packet : List UInt8 := [0x45, 0, 0, 20, 0, 0, 0, 0, 0, 17, 0, 0, 0x12, 0x34, 0x56, 0x78, 0x42, 0x42, 0x42, 0x42]

def ipv6Packet : List UInt8 := [0x60, 0, 0, 0, 0, 2, 17, 64] ++ List.replicate 32 0 ++ [1, 2]

theorem packets_framed : ∀ p ∈ [ipv4Packet, ipv6Packet], Framed p := by
  intro p member
  simp only [List.mem_cons, List.not_mem_nil, or_false] at member
  rcases member with rfl | rfl
  · exact ⟨by decide, by decide, by decide⟩
  · exact ⟨by decide, by decide, by decide⟩

/-- Two calls that are cut inside the second packet, of which the first has been made. -/
theorem writes_exact_two : ∃ s, WritesAll new [⟨ipv4Packet ++ ipv6Packet, 0, 25, by decide⟩] s ∧
    s.target = [ipv4Packet] := by
  let first : Call := ⟨ipv4Packet ++ ipv6Packet, 0, 25, by decide⟩
  let second : Call := ⟨ipv4Packet ++ ipv6Packet, 25, 37, by decide⟩
  have short : ∀ call ∈ [first, second], call.len ≤ maxIpPacketLength := by decide
  have division : ([first, second].map Call.chunk).flatten = [ipv4Packet, ipv6Packet].flatten := by decide
  have parts : [first, second] = [first] ++ [second] := rfl
  obtain ⟨s, all, target, _⟩ := writes_exact packets_framed short division parts
  exact ⟨s, all, target.trans (by decide)⟩

end Sample

end Gnirehtet.App
