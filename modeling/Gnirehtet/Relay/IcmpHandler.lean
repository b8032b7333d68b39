import Gnirehtet.Relay.IpPacket

/-!
# ICMP answers

The relay answers pings itself, and tells the device that QUIC is unreachable. Both answers are
built from untrusted bytes, after checks that keep every slice in range.
-/

namespace Gnirehtet.Relay.IcmpHandler
open Lib

def ipv4HeaderMinLen : Nat := 20
def icmpHeaderLen : Nat := 8
def protocolIcmp : UInt8 := 1
def icmpTypeEchoRequest : UInt8 := 8
def icmpTypeEchoReply : UInt8 := 0

/-- The sum of the 16-bit words, a last odd byte being the high half of one. -/
def sumWords : List UInt8 → UInt32 → UInt32
  | high :: low :: rest, sum => sumWords rest (sum + (high.toUInt32 <<< 8 + low.toUInt32))
  | [last], sum => sum + last.toUInt32 <<< 8
  | [], sum => sum

def checksum (data : List UInt8) : UInt16 := ~~~(foldCarries (sumWords data 0)).toUInt16

/-- The addresses swapped, the type changed, and both checksums recomputed. -/
def writeEchoReply (request : List UInt8) (ihl totalLength : Nat) : Checked (List UInt8) := do
  let reply ← sliceTo request totalLength
  let reply ← swapRange reply 12 16 4
  let reply ← setByte reply ihl icmpTypeEchoReply
  let reply ← setByte reply (ihl + 2) 0
  let reply ← setByte reply (ihl + 3) 0
  let icmp ← slice reply ihl totalLength
  let reply ← copyInto reply (ihl + 2) (beBytes16 (checksum icmp))
  let reply ← setByte reply 10 0
  let reply ← setByte reply 11 0
  let ip ← sliceTo reply ihl
  copyInto reply 10 (beBytes16 (checksum ip))

def buildEchoReply (request : List UInt8) : Checked (Option (List UInt8)) := do
  if request.length < ipv4HeaderMinLen + icmpHeaderLen then return none
  let first ← index request 0
  if first >>> 4 ≠ 4 then return none
  let ihl := (first &&& 0x0f).toNat * 4
  if ihl < ipv4HeaderMinLen ∨ request.length < ihl + icmpHeaderLen then return none
  let protocol ← index request 9
  let type ← index request ihl
  if protocol ≠ protocolIcmp ∨ type ≠ icmpTypeEchoRequest then return none
  let totalLength ← readU16 request 2
  if request.length < totalLength.toNat ∨ totalLength.toNat < ihl + icmpHeaderLen then return none
  return some (← writeEchoReply request ihl totalLength.toNat)

/-- A fresh packet with the addresses of the original one swapped, its header and the first eight bytes
behind it as payload. -/
def writePortUnreachable (v4 : Ipv4HeaderData) (raw : List UInt8) (copyLen : Nat) : Checked (List UInt8) := do
  let headerLen := v4.headerLength.toNat
  let totalLen := ipv4HeaderMinLen + (icmpHeaderLen + (headerLen + copyLen))
  let buf := List.replicate totalLen 0
  let buf ← setByte buf 0 0x45
  let buf ← setByte buf 8 64
  let buf ← setByte buf 9 protocolIcmp
  let buf ← copyInto buf 2 (beBytes16 totalLen.toUInt16)
  let buf ← copyInto buf 12 (beBytes32 v4.destination)
  let buf ← copyInto buf 16 (beBytes32 v4.source)
  let ip ← sliceTo buf ipv4HeaderMinLen
  let buf ← copyInto buf 10 (beBytes16 (checksum ip))
  let buf ← setByte buf 20 3
  let buf ← setByte buf 21 3
  let header ← sliceTo raw headerLen
  let buf ← copyInto buf 28 header
  let payload ← slice raw headerLen (headerLen + copyLen)
  let buf ← copyInto buf (28 + headerLen) payload
  let icmp ← slice buf ipv4HeaderMinLen totalLen
  copyInto buf 22 (beBytes16 (checksum icmp))

def buildPortUnreachable (original : IpPacket) : Checked (Option (List UInt8)) :=
  match original.ipHeaderData with
  | .v6 _ => .ok none
  | .v4 v4 =>
    if original.raw.length < v4.headerLength.toNat then .ok none
    else do
      let copyLen := min (original.raw.length - v4.headerLength.toNat) 8
      return some (← writePortUnreachable v4 original.raw copyLen)

/-! ### The slices are in range -/

theorem setByte_ok (raw : List UInt8) (i : Nat) (byte : UInt8) (inside : i < raw.length) :
    ∃ out, setByte raw i byte = .ok out ∧ out.length = raw.length :=
  ⟨_, if_pos inside, List.length_set ..⟩

theorem copyInto_ok (buf : List UInt8) (i : Nat) (source : List UInt8) (fits : i + source.length ≤ buf.length) :
    ∃ out, copyInto buf i source = .ok out ∧ out.length = buf.length :=
  ⟨_, if_pos fits, length_overwrite ..⟩

theorem writeEchoReply_ok (request : List UInt8) {ihl totalLength : Nat} (least : ipv4HeaderMinLen ≤ ihl)
    (inside : ihl + icmpHeaderLen ≤ totalLength) (whole : totalLength ≤ request.length) :
    ∃ reply, writeEchoReply request ihl totalLength = .ok reply := by
  rw [ipv4HeaderMinLen] at least
  rw [icmpHeaderLen] at inside
  have length : (request.take totalLength).length = totalLength := by rw [List.length_take]; omega
  obtain ⟨r₁, h₁⟩ := (swapRange_isOk (request.take totalLength) 12 16 3).mpr (by omega)
  have l₁ := (length_swapRange h₁).trans length
  obtain ⟨r₂, h₂, l₂⟩ := setByte_ok r₁ ihl icmpTypeEchoReply (by omega)
  obtain ⟨r₃, h₃, l₃⟩ := setByte_ok r₂ (ihl + 2) 0 (by omega)
  obtain ⟨r₄, h₄, l₄⟩ := setByte_ok r₃ (ihl + 3) 0 (by omega)
  obtain ⟨r₅, h₅, l₅⟩ := copyInto_ok r₄ (ihl + 2) (beBytes16 (checksum ((r₄.take totalLength).drop ihl)))
    (by rw [length_beBytes16]; omega)
  obtain ⟨r₆, h₆, l₆⟩ := setByte_ok r₅ 10 0 (by omega)
  obtain ⟨r₇, h₇, l₇⟩ := setByte_ok r₆ 11 0 (by omega)
  obtain ⟨r₈, h₈, l₈⟩ := copyInto_ok r₇ 10 (beBytes16 (checksum (r₇.take ihl)))
    (by rw [length_beBytes16]; omega)
  refine ⟨r₈, ?_⟩
  rw [writeEchoReply, sliceTo, if_pos whole, ok_bind, h₁, ok_bind, h₂, ok_bind, h₃, ok_bind, h₄, ok_bind, slice,
    if_pos ⟨by omega, by omega⟩, ok_bind, h₅, ok_bind, h₆, ok_bind, h₇, ok_bind, sliceTo, if_pos (by omega), ok_bind,
    h₈]

theorem buildEchoReply_ok (request : List UInt8) : ∃ reply, buildEchoReply request = .ok reply := by
  unfold buildEchoReply
  split
  · exact ⟨_, rfl⟩
  rename_i long
  rw [ipv4HeaderMinLen, icmpHeaderLen] at long
  rw [index, if_pos (by omega), ok_bind]
  split
  · exact ⟨_, rfl⟩
  dsimp only
  split
  · exact ⟨_, rfl⟩
  rename_i header
  obtain ⟨least, inside⟩ := not_or.mp header
  rw [icmpHeaderLen] at inside
  rw [index, if_pos (by omega), ok_bind, index, if_pos (by omega), ok_bind]
  split
  · exact ⟨_, rfl⟩
  rw [readU16, if_pos (by omega), ok_bind]
  split
  · exact ⟨_, rfl⟩
  rename_i total
  obtain ⟨whole, enough⟩ := not_or.mp total
  obtain ⟨reply, written⟩ := writeEchoReply_ok request (Nat.le_of_not_lt least)
    (Nat.le_of_not_lt enough) (Nat.le_of_not_lt whole)
  exact ⟨some reply, by rw [written]; rfl⟩

theorem writePortUnreachable_ok (v4 : Ipv4HeaderData) (raw : List UInt8) (copyLen : Nat)
    (inside : v4.headerLength.toNat + copyLen ≤ raw.length) :
    ∃ buf, writePortUnreachable v4 raw copyLen = .ok buf := by
  have total : ipv4HeaderMinLen + (icmpHeaderLen + (v4.headerLength.toNat + copyLen)) =
      28 + v4.headerLength.toNat + copyLen := by rw [ipv4HeaderMinLen, icmpHeaderLen]; omega
  unfold writePortUnreachable
  simp only [total]
  generalize v4.headerLength.toNat = headerLen at inside
  obtain ⟨r₁, h₁, l₁⟩ := setByte_ok (List.replicate (28 + headerLen + copyLen) 0) 0 0x45 (by rw [List.length_replicate]; omega)
  rw [List.length_replicate] at l₁
  obtain ⟨r₂, h₂, l₂⟩ := setByte_ok r₁ 8 64 (by omega)
  obtain ⟨r₃, h₃, l₃⟩ := setByte_ok r₂ 9 protocolIcmp (by omega)
  obtain ⟨r₄, h₄, l₄⟩ := copyInto_ok r₃ 2 (beBytes16 (28 + headerLen + copyLen).toUInt16)
    (by rw [length_beBytes16]; omega)
  obtain ⟨r₅, h₅, l₅⟩ := copyInto_ok r₄ 12 (beBytes32 v4.destination)
    (by rw [length_beBytes32]; omega)
  obtain ⟨r₆, h₆, l₆⟩ := copyInto_ok r₅ 16 (beBytes32 v4.source)
    (by rw [length_beBytes32]; omega)
  obtain ⟨r₇, h₇, l₇⟩ := copyInto_ok r₆ 10 (beBytes16 (checksum (r₆.take ipv4HeaderMinLen)))
    (by rw [length_beBytes16]; omega)
  obtain ⟨r₈, h₈, l₈⟩ := setByte_ok r₇ 20 3 (by omega)
  obtain ⟨r₉, h₉, l₉⟩ := setByte_ok r₈ 21 3 (by omega)
  obtain ⟨s₁, k₁, m₁⟩ := copyInto_ok r₉ 28 (raw.take headerLen)
    (by rw [List.length_take]; omega)
  obtain ⟨s₂, k₂, m₂⟩ := copyInto_ok s₁ (28 + headerLen) ((raw.take (headerLen + copyLen)).drop headerLen)
    (by rw [List.length_drop, List.length_take]; omega)
  obtain ⟨s₃, k₃, _⟩ := copyInto_ok s₂ 22 (beBytes16 (checksum ((s₂.take (28 + headerLen + copyLen)).drop ipv4HeaderMinLen)))
    (by rw [length_beBytes16]; omega)
  refine ⟨s₃, ?_⟩
  rw [h₁, ok_bind, h₂, ok_bind, h₃, ok_bind, h₄, ok_bind, h₅, ok_bind, h₆, ok_bind, sliceTo,
    if_pos (by rw [ipv4HeaderMinLen]; omega), ok_bind, h₇, ok_bind, h₈, ok_bind, h₉, ok_bind, sliceTo,
    if_pos (by omega), ok_bind, k₁, ok_bind, slice, if_pos ⟨by omega, by omega⟩, ok_bind, k₂, ok_bind, slice,
    if_pos ⟨by rw [ipv4HeaderMinLen]; omega, by omega⟩, ok_bind, k₃]

theorem buildPortUnreachable_ok (original : IpPacket) : ∃ raw, buildPortUnreachable original = .ok raw := by
  unfold buildPortUnreachable
  split
  · exact ⟨_, rfl⟩
  · split
    · exact ⟨_, rfl⟩
    · rename_i v4 _ header
      obtain ⟨buf, written⟩ := writePortUnreachable_ok v4 original.raw
        (min (original.raw.length - v4.headerLength.toNat) 8) (by omega)
      exact ⟨some buf, by dsimp only; rw [written]; rfl⟩

end Gnirehtet.Relay.IcmpHandler
