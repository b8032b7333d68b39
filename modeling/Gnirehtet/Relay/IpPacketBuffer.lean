import Gnirehtet.Relay.Datagram
import Gnirehtet.Relay.IpPacket

/-!
# The buffer of the device stream

Bytes from the device are collected in one buffer of 64 KiB, whose front is looked at as an IP
packet. A read takes what there is room for, and the rest of the bytes is lost. All functions here
depend on the buffered bytes alone.
-/

namespace Gnirehtet.Relay
open Lib

structure ByteBuffer where
  buf : List UInt8
  head : Nat
  head_le : head ≤ buf.length

namespace ByteBuffer

def new (length : Nat) : ByteBuffer where
  buf := List.replicate length 0
  head := 0
  head_le := Nat.zero_le _

/-- `source` is a cursor over the bytes, and what is not read from it is dropped. -/
def readFrom (b : ByteBuffer) (source : List UInt8) : ByteBuffer × Bool :=
  let bytes := source.take (b.buf.length - b.head)
  ({ buf := overwrite b.buf b.head bytes
     head := b.head + bytes.length
     head_le := by
      have := b.head_le
      rw [length_overwrite, List.length_take]
      omega },
    decide (0 < bytes.length))

def peek (b : ByteBuffer) : List UInt8 := b.buf.take b.head

def consume (b : ByteBuffer) (length : Nat) : Checked ByteBuffer :=
  if b.head < length then .error .assertion
  else .ok {
    buf := overwrite b.buf 0 ((b.buf.take b.head).drop length)
    head := b.head - length
    head_le := by
      have := b.head_le
      rw [length_overwrite]
      omega }

@[simp] theorem length_peek (b : ByteBuffer) : b.peek.length = b.head := by
  rw [peek, List.length_take, Nat.min_eq_left b.head_le]

@[simp] theorem peek_new (length : Nat) : (new length).peek = [] := rfl

def room (b : ByteBuffer) : Nat := b.buf.length - b.head

theorem peek_readFrom (b : ByteBuffer) (source : List UInt8) :
    (b.readFrom source).1.peek = b.peek ++ source.take b.room := by
  have fits : b.head + (source.take b.room).length ≤ b.buf.length := by
    have := b.head_le
    rw [List.length_take, room]
    omega
  exact take_overwrite_end fits

@[simp] theorem room_new (length : Nat) : (new length).room = length := by simp [room, new]

theorem readFrom_some (b : ByteBuffer) (source : List UInt8) :
    (b.readFrom source).2 = true ↔ source ≠ [] ∧ 0 < b.room := by
  rw [← List.length_pos_iff, readFrom, decide_eq_true_eq, List.length_take, room]
  omega

theorem consume_spec (b : ByteBuffer) {length : Nat} (le : length ≤ b.peek.length) :
    ∃ b', b.consume length = .ok b' ∧ b'.peek = b.peek.drop length ∧ b'.buf.length = b.buf.length := by
  have inside := b.head_le
  rw [length_peek] at le
  refine ⟨_, if_neg (Nat.not_lt.mpr le), ?_, length_overwrite ..⟩
  have rest : ((b.buf.take b.head).drop length).length = b.head - length := by
    rw [List.length_drop, List.length_take]
    omega
  have front := take_overwrite_end (show 0 + ((b.buf.take b.head).drop length).length ≤ b.buf.length by omega)
  rw [Nat.zero_add, List.take_zero, List.nil_append, rest] at front
  exact front

end ByteBuffer

/-- The version and the total length of the packet at the front of the bytes, when it is complete. -/
def packetInfo [Build] (data : List UInt8) : Checked (Option (UInt8 × UInt16)) :=
  if data.length < 4 then .ok none
  else if byteAt data 0 >>> 4 = 4 then
    .ok (if (u16At data 2).toNat ≤ data.length then some (4, u16At data 2) else none)
  else if byteAt data 0 >>> 4 = 6 then
    if data.length < 6 then .ok none
    else do
      let totalLength ← addU16 (u16At data 4) 40
      return if totalLength.toNat ≤ data.length then some (6, totalLength) else none
  else .ok none

structure IpPacketBuffer where
  buf : ByteBuffer

namespace IpPacketBuffer

def new : IpPacketBuffer where
  buf := .new maxPacketLength

def readFrom (b : IpPacketBuffer) (source : List UInt8) : IpPacketBuffer × Bool :=
  let (buf, nonempty) := b.buf.readFrom source
  ({ buf }, nonempty)

def availablePacketInfo [Build] (b : IpPacketBuffer) : Checked (Option (UInt8 × UInt16)) :=
  packetInfo b.buf.peek

def asIpPacket [Build] (b : IpPacketBuffer) : Checked (Option IpPacket) := do
  if (← b.availablePacketInfo).isSome then IpPacket.parse b.buf.peek else return none

def next [Build] (b : IpPacketBuffer) : Checked IpPacketBuffer := do
  match ← b.availablePacketInfo with
  | some (_, length) => return { buf := ← b.buf.consume length.toNat }
  | none => return b

/-- A byte that starts no packet is removed; `none` when there is no such byte. -/
def skipMalformed (b : IpPacketBuffer) : Checked (Option IpPacketBuffer) :=
  if b.buf.peek.isEmpty then .ok none
  else if byteAt b.buf.peek 0 >>> 4 = 4 ∨ byteAt b.buf.peek 0 >>> 4 = 6 then .ok none
  else do return some { buf := ← b.buf.consume 1 }

end IpPacketBuffer

/-! ### The front of the buffer -/

def StartsPacket (data : List UInt8) : Prop := byteAt data 0 >>> 4 = 4 ∨ byteAt data 0 >>> 4 = 6

instance (data : List UInt8) : Decidable (StartsPacket data) := inferInstanceAs (Decidable (_ ∨ _))

/-- The packet that is found is one of the buffered versions and lies in the buffer. -/
theorem packetInfo_some [Build] {data : List UInt8} {version : UInt8} {length : UInt16}
    (found : packetInfo data = .ok (some (version, length))) :
    StartsPacket data ∧ data ≠ [] ∧ length.toNat ≤ data.length := by
  unfold packetInfo at found
  split at found
  · cases found
  rename_i four
  have nonempty : data ≠ [] := by
    rintro rfl
    exact four (by decide)
  split at found
  · rename_i version4
    split at found
    · cases found
      exact ⟨Or.inl version4, nonempty, by assumption⟩
    · cases found
  · split at found
    · rename_i version6
      split at found
      · cases found
      · obtain ⟨total, _, found⟩ := bind_ok found
        split at found
        · cases found
          exact ⟨Or.inr version6, nonempty, by assumption⟩
        · cases found
    · cases found

theorem next_of_found [Build] {b : IpPacketBuffer} {version : UInt8} {length : UInt16}
    (found : packetInfo b.buf.peek = .ok (some (version, length))) :
    ∃ b', b.next = .ok b' ∧ b'.buf.peek = b.buf.peek.drop length.toNat ∧
      b'.buf.buf.length = b.buf.buf.length := by
  obtain ⟨buf, consumed, peek, same⟩ := b.buf.consume_spec (packetInfo_some found).2.2
  refine ⟨{ buf }, ?_, peek, same⟩
  rw [IpPacketBuffer.next, IpPacketBuffer.availablePacketInfo, found, ok_bind]
  dsimp only
  rw [consumed]
  rfl

/-- The sum of an IPv6 length that leaves 16 bits. -/
theorem addU16_wrapped [Build] {data : List UInt8} (wraps : 65536 ≤ (u16At data 4).toNat + 40) :
    addU16 (u16At data 4) 40 = (if Build.overflowChecks then .error .overflow else .ok (u16At data 4 + 40)) ∧
      (u16At data 4 + 40).toNat + 65536 = (u16At data 4).toNat + 40 := by
  have bound := (u16At data 4).toNat_lt
  have forty : (40 : UInt16).toNat = 40 := rfl
  refine ⟨if_neg (by omega), ?_⟩
  rw [UInt16.toNat_add]
  omega

end Gnirehtet.Relay
