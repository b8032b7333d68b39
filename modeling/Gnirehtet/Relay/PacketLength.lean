import Gnirehtet.Relay.Reference

/-!
# The length fields of a packet

The length of a packet is computed in `u16` three times: in all, without the fixed header of IPv6,
and with the header of UDP. The slice that a datagram is received into has one byte more than a
length field can state, and a datagram that fills it overflows the first of these sums.
-/

namespace Gnirehtet.Relay
open Lib

/-- `set_total_length`, with its subtraction. -/
def IpHeader.checkedSetTotalLength [Build] (totalLength : UInt16) : IpHeader → Checked IpHeader
  | v4 h => .ok (.v4 (h.setTotalLength totalLength))
  | v6 h => do
    let payloadLength ← subU16 totalLength ipv6HeaderLength.toUInt16
    return .v6 (h.setPayloadLength payloadLength)

/-- `set_payload_length`, with its addition. -/
def TransportHeader.checkedSetPayloadLength [Build] (payloadLength : UInt16) :
    TransportHeader → Checked TransportHeader
  | tcp h => .ok (.tcp h)
  | udp h => do
    let totalLength ← addU16 udpHeaderLength.toUInt16 payloadLength
    return .udp { h with raw := writeU16 h.raw 4 totalLength }

/-- `update_checksum`, with what it asserts. -/
def TransportHeader.checkedUpdateChecksum [Build] (ip : IpHeaderData) (payload : List UInt8) :
    TransportHeader → Checked TransportHeader
  | tcp h => do return .tcp (← h.checkedUpdateChecksum ip payload)
  | udp h => .ok (.udp h.updateChecksum)

/-- The number of bytes that the length field in an IP header states. -/
def IpHeader.writtenLength : IpHeader → Nat
  | v4 h => (u16At h.raw 2).toNat
  | v6 h => 40 + (u16At h.raw 4).toNat

namespace Packetizer

/-- What `build` computes before it slices the buffer. -/
structure Lengths where
  totalLength : UInt16
  ipHeader : IpHeader
  transportHeader : TransportHeader

def checkedLengths [Build] (p : Packetizer) (payloadLength : UInt16) : Checked Lengths := do
  let totalLength ← addU16 p.payloadIndex.toUInt16 payloadLength
  let ipHeader ← p.ipHeader.checkedSetTotalLength totalLength
  let transportHeader ← p.transportHeader.checkedSetPayloadLength payloadLength
  return { totalLength, ipHeader, transportHeader }

/-- No length overflows, and every length field states the bytes that are there. -/
def LengthsFit [Build] (p : Packetizer) (r : Nat) : Prop :=
  ∃ l, p.checkedLengths r.toUInt16 = .ok l ∧ l.totalLength.toNat = p.payloadIndex + r ∧
    l.ipHeader.writtenLength = p.payloadIndex + r ∧
    ∀ h, l.transportHeader = .udp h → (u16At h.raw 4).toNat = udpHeaderLength.toNat + r

section Lengths
variable {p : Packetizer} {n : UInt16}

/-- Where no length overflows, `build` writes these headers. -/
theorem checkedLengths_ok [Build] (fits : p.payloadIndex + n.toNat < 65536) :
    p.checkedLengths n = .ok {
      totalLength := p.payloadIndex.toUInt16 + n
      ipHeader := p.ipHeader.setTotalLength (p.payloadIndex.toUInt16 + n)
      transportHeader := p.transportHeader.setPayloadLength n } := by
  have index := p.payloadIndex_lt
  have least := p.layout.ip_header
  have order := p.transportIndex_le_payloadIndex
  have payload := p.layout.payload_index
  have small : p.payloadIndex.toUInt16.toNat = p.payloadIndex := UInt16.toNat_ofNat_of_lt' (show _ < 65536 by omega)
  have forty : ipv6HeaderLength.toUInt16.toNat = 40 := rfl
  have eight : udpHeaderLength.toUInt16.toNat = 8 := rfl
  obtain ⟨added, total⟩ := addU16_ok (a := p.payloadIndex.toUInt16) (b := n) (by omega)
  have ip : p.ipHeader.checkedSetTotalLength (p.payloadIndex.toUInt16 + n) =
      .ok (p.ipHeader.setTotalLength (p.payloadIndex.toUInt16 + n)) := by
    rw [ipHeader]
    cases kind : p.ipHeaderData with
    | v4 d => rfl
    | v6 d =>
      rw [kind] at least
      have least : 40 ≤ p.transportIndex := least
      obtain ⟨subtracted, _⟩ := subU16_ok (a := p.payloadIndex.toUInt16 + n) (b := ipv6HeaderLength.toUInt16)
        (by omega)
      rw [IpHeader.bind, IpHeader.checkedSetTotalLength, subtracted]
      rfl
  have transport : p.transportHeader.checkedSetPayloadLength n = .ok (p.transportHeader.setPayloadLength n) := by
    rw [transportHeader]
    cases kind : p.transportHeaderData with
    | tcp d => rfl
    | udp d =>
      obtain ⟨added, _⟩ := addU16_ok (a := udpHeaderLength.toUInt16) (b := n) (by
        rw [kind] at payload
        have payload : p.payloadIndex = p.transportIndex + 8 := payload
        omega)
      rw [TransportHeader.bind, TransportHeader.checkedSetPayloadLength, added]
      rfl
  rw [checkedLengths, added, ok_bind, ip, ok_bind, transport, ok_bind]
  rfl

theorem writtenLength_setTotalLength (fits : p.payloadIndex + n.toNat < 65536) :
    (p.ipHeader.setTotalLength (p.payloadIndex.toUInt16 + n)).writtenLength = p.payloadIndex + n.toNat := by
  have total := p.toNat_length_build n fits
  rw [length_build] at total
  have length := p.length_raw_ipHeader
  have least := p.layout.ip_header
  have order := p.transportIndex_le_payloadIndex
  have forty : ipv6HeaderLength.toUInt16.toNat = 40 := rfl
  rw [ipHeader, IpHeader.raw_bind] at length
  rw [ipHeader]
  cases kind : p.ipHeaderData with
  | v4 d =>
    rw [kind] at least
    have least : 20 ≤ p.transportIndex := least
    show (u16At (writeU16 (p.buffer.take p.transportIndex) 2 _) 2).toNat = _
    rw [u16At_writeU16 (by omega), total]
  | v6 d =>
    rw [kind] at least
    have least : 40 ≤ p.transportIndex := least
    show 40 + (u16At (writeU16 (p.buffer.take p.transportIndex) 4 _) 4).toNat = _
    have rest := UInt16.toNat_sub_of_le (p.payloadIndex.toUInt16 + n) ipv6HeaderLength.toUInt16
      (UInt16.le_iff_toNat_le.mpr (by omega))
    rw [u16At_writeU16 (by omega)]
    omega

/-- For any answer that the slice has room for, the lengths fit exactly when one byte stays free. -/
theorem lengthsFit_iff_lt [Build] (p : Packetizer) {r : Nat} (room : r ≤ maxPacketLength - p.payloadIndex) :
    p.LengthsFit r ↔ p.payloadIndex + r < 65536 := by
  have index := p.payloadIndex_lt
  have least := p.transportIndex_ge
  have order := p.transportIndex_le_payloadIndex
  rw [maxPacketLength] at room
  have small : r.toUInt16.toNat = r := UInt16.toNat_ofNat_of_lt' (show _ < 65536 by omega)
  constructor
  · rintro ⟨l, lengths, total, _⟩
    have := l.totalLength.toNat_lt
    omega
  · intro fits
    have fits' : p.payloadIndex + r.toUInt16.toNat < 65536 := by rw [small]; exact fits
    have total := p.toNat_length_build r.toUInt16 fits'
    rw [length_build] at total
    refine ⟨_, checkedLengths_ok fits', ?_, ?_, ?_⟩
    · rw [total, small]
    · rw [writtenLength_setTotalLength fits', small]
    · intro h udp
      have length := p.length_raw_transportHeader
      have payload := p.layout.payload_index
      rw [transportHeader] at length udp
      cases kind : p.transportHeaderData with
      | tcp d => rw [kind] at udp; cases udp
      | udp d =>
        rw [kind] at udp payload length
        have payload : p.payloadIndex = p.transportIndex + 8 := payload
        cases udp
        rw [TransportHeader.raw_bind] at length
        rw [UdpHeader.setPayloadLength]
        dsimp only
        rw [u16At_writeU16 (by omega), UInt16.toNat_add, small, Nat.mod_eq_of_lt]
        · rfl
        · show 8 + r < 65536
          omega

end Lengths

/-! ### Building with overflow checks -/

end Packetizer

/-- `raw.split_at_mut(mid)` -/
def splitAt (raw : List UInt8) (mid : Nat) : Checked (List UInt8 × List UInt8) :=
  if mid ≤ raw.length then .ok (raw.take mid, raw.drop mid) else .error .index

/-- `compute_checksums`, with its slices and assertions. -/
def IpPacket.checkedComputeChecksums [Build] (p : IpPacket) : Checked IpPacket :=
  match p.transportHeaderData with
  | some data => do
    let (ipHeaderSlice, transportSlice) ← splitAt p.raw p.transportIndex
    let (transportHeaderSlice, payload) ← splitAt transportSlice data.headerLength.toNat
    let ipHeader := (IpHeader.bind ipHeaderSlice p.ipHeaderData).updateChecksum
    let transportHeader ←
      (TransportHeader.bind transportHeaderSlice data).checkedUpdateChecksum p.ipHeaderData payload
    return { p with raw := ipHeader.raw ++ transportHeader.raw ++ payload }
  | none => do
    let ipHeaderSlice ← sliceTo p.raw p.transportIndex
    let ipHeader := (IpHeader.bind ipHeaderSlice p.ipHeaderData).updateChecksum
    return { p with raw := ipHeader.raw ++ p.raw.drop p.transportIndex }

/-- No slice of an assembled packet is out of range, and no assertion fails. -/
theorem checkedComputeChecksums_assembled [Build] {ip : IpHeader} {transport : TransportHeader}
    {payload : List UInt8} (assembled : Assembled ip transport payload) {q : IpPacket}
    (raw : q.raw = ip.raw ++ (transport.raw ++ payload)) (ipData : q.ipHeaderData = ip.data)
    (transportData : q.transportHeaderData = some transport.data) :
    q.checkedComputeChecksums = .ok q.computeChecksums := by
  have index : q.transportIndex = ip.raw.length := by
    rw [IpPacket.transportIndex, ipData, assembled.ipParses.length]
    rfl
  have headerLength : transport.data.headerLength.toNat = transport.raw.length :=
    assembled.transportParses.length.symm
  have first : splitAt q.raw q.transportIndex = .ok (ip.raw, transport.raw ++ payload) := by
    rw [splitAt, index, raw, if_pos (by rw [List.length_append]; exact Nat.le_add_right _ _), List.take_left,
      List.drop_left]
  have second : splitAt (transport.raw ++ payload) transport.data.headerLength.toNat = .ok (transport.raw, payload) := by
    rw [splitAt, headerLength, if_pos (by rw [List.length_append]; exact Nat.le_add_right _ _), List.take_left,
      List.drop_left]
  have checksum : transport.checkedUpdateChecksum ip.data payload = .ok (transport.updateChecksum ip.data payload) := by
    cases transport with
    | tcp h =>
      have checked := (TcpHeader.summed assembled.consistent).checked
      rw [TransportHeader.checkedUpdateChecksum, checked]
      rfl
    | udp h => rfl
  have built := IpPacket.raw_computeChecksums raw ipData transportData assembled.ipParses.length
    assembled.transportParses.length
  rw [IpPacket.checkedComputeChecksums, transportData]
  dsimp only
  rw [first, ok_bind]
  dsimp only
  rw [second, ok_bind]
  dsimp only
  rw [ipData, IpHeader.bind_eq, TransportHeader.bind_eq, checksum, ok_bind, List.append_assoc, ← built, ← ipData,
    ← transportData, ← IpPacket.ipHeaderData_computeChecksums q, ← IpPacket.transportHeaderData_computeChecksums q]
  rfl

namespace Packetizer

def checkedBuild [Build] (p : Packetizer) (payloadLength : UInt16) : Checked (Packetizer × IpPacket) := do
  let lengths ← p.checkedLengths payloadLength
  let p := p.setLengths payloadLength
  let raw ← sliceTo p.buffer lengths.totalLength.toNat
  let packet ← IpPacket.checkedComputeChecksums {
    raw
    ipHeaderData := lengths.ipHeader.data
    transportHeaderData := some lengths.transportHeader.data }
  return (p.writeBuffer 0 packet.raw, packet)

def checkedPacketize [Build] (p : Packetizer) (answer : ReadAnswer) :
    Checked (Except ErrorKind (Packetizer × IpPacket)) :=
  match recv answer none (p.buffer.length - p.payloadIndex) with
  | .error e => .ok (.error e)
  | .ok bytes => do
    let out ← (p.writeBuffer p.payloadIndex bytes).checkedBuild bytes.length.toUInt16
    return .ok out

section Checked
variable [Build] {p : Packetizer} (parses : p.Parses)
include parses

theorem checkedBuild_ok {n : UInt16} (fits : p.payloadIndex + n.toNat < 65536) :
    p.checkedBuild n = .ok (p.build n) := by
  obtain ⟨ip, transport, _⟩ := p.parts_setLengths n
  have ipData := (p.setLengths n).data_ipHeader
  have transportData := (p.setLengths n).data_transportHeader
  rw [ip] at ipData
  rw [transport] at transportData
  have total := p.toNat_length_build n fits
  have length := (p.setLengths n).layout.buffer_length
  rw [length_build] at total
  rw [maxPacketLength] at length
  have sliced : sliceTo (p.setLengths n).buffer (p.payloadIndex.toUInt16 + n).toNat =
      .ok ((p.setLengths n).inflate (p.payloadIndex.toUInt16 + n)).raw := by
    rw [sliceTo, if_pos (by omega)]
    rfl
  have packet : ({
      raw := ((p.setLengths n).inflate (p.payloadIndex.toUInt16 + n)).raw
      ipHeaderData := (p.ipHeader.setTotalLength (p.payloadIndex.toUInt16 + n)).data
      transportHeaderData := some (p.transportHeader.setPayloadLength n).data } : IpPacket) =
      (p.setLengths n).inflate (p.payloadIndex.toUInt16 + n) := by
    rw [ipData, transportData]
    rfl
  have checksums := checkedComputeChecksums_assembled (parses.assembled_setLengths fits) (p.raw_inflate n fits)
    ipData.symm (congrArg some transportData.symm)
  rw [checkedBuild, checkedLengths_ok fits, ok_bind]
  dsimp only
  rw [sliced, ok_bind, packet, checksums, ok_bind]
  rfl

omit parses in
/-- When the lengths of a full slice do not panic, the packet is sliced to nothing. -/
theorem checkedLengths_full {n : UInt16} (full : p.payloadIndex + n.toNat = 65536) {l : Lengths}
    (lengths : p.checkedLengths n = .ok l) : l.totalLength.toNat = 0 ∧ 0 < l.ipHeader.data.headerLength.toNat := by
  have index := p.payloadIndex_lt
  have least := p.transportIndex_ge
  have header := p.layout.transport_index
  have small : p.payloadIndex.toUInt16.toNat = p.payloadIndex := UInt16.toNat_ofNat_of_lt' (show _ < 65536 by omega)
  obtain ⟨totalLength, added, lengths⟩ := bind_ok lengths
  obtain ⟨ip, set, lengths⟩ := bind_ok lengths
  obtain ⟨transport, _, same⟩ := bind_ok lengths
  cases same
  have wraps : totalLength = p.payloadIndex.toUInt16 + n := by
    unfold addU16 at added
    split at added
    · exact (Except.ok.inj added).symm
    · split at added
      · cases added
      · exact (Except.ok.inj added).symm
  have kept : ip.data.headerLength = p.ipHeaderData.headerLength := by
    rw [ipHeader] at set
    cases kind : p.ipHeaderData with
    | v4 d => rw [kind] at set; cases set; rfl
    | v6 d =>
      rw [kind] at set
      obtain ⟨payloadLength, _, same⟩ := bind_ok set
      cases same
      rfl
  refine ⟨?_, ?_⟩
  · rw [wraps, UInt16.toNat_add]
    omega
  · rw [kept, ← header]
    omega

omit parses in
theorem checkedBuild_error {n : UInt16} (full : p.payloadIndex + n.toNat = 65536) :
    ∃ e, p.checkedBuild n = .error e := by
  cases lengths : p.checkedLengths n with
  | error e => exact ⟨e, by rw [checkedBuild, lengths]; rfl⟩
  | ok l =>
    obtain ⟨none, header⟩ := checkedLengths_full full lengths
    have nothing : splitAt [] l.ipHeader.data.headerLength.toNat = .error .index := by
      rw [splitAt, List.length_nil, if_neg (by omega)]
    refine ⟨.index, ?_⟩
    rw [checkedBuild, lengths, ok_bind]
    dsimp only
    rw [none, sliceTo, if_pos (Nat.zero_le _), List.take_zero, ok_bind, IpPacket.checkedComputeChecksums]
    dsimp only
    rw [IpPacket.transportIndex]
    dsimp only
    rw [nothing]
    rfl

/-- A datagram is received in the same way in every build, and stops the relay in every build when it fills the
slice. -/
theorem checkedPacketize_ok {answer : ReadAnswer} {out : Except ErrorKind (Packetizer × IpPacket)} :
    p.checkedPacketize answer = .ok out ↔ p.packetize answer = .ok out := by
  have index := p.payloadIndex_lt
  have least := p.transportIndex_ge
  have order := p.transportIndex_le_payloadIndex
  have length := p.layout.buffer_length
  rw [maxPacketLength] at length
  rw [checkedPacketize, packetize]
  cases received : recv answer none (p.buffer.length - p.payloadIndex) with
  | error e => exact Iff.rfl
  | ok bytes =>
    have room : bytes.length ≤ p.buffer.length - p.payloadIndex := length_recv_none received
    have small : bytes.length.toUInt16.toNat = bytes.length := UInt16.toNat_ofNat_of_lt' (show _ < 65536 by omega)
    have inside : p.payloadIndex + bytes.length ≤ p.buffer.length := by omega
    obtain ⟨ip, transport, _⟩ := parts_writeBuffer inside
    have written : (p.writeBuffer p.payloadIndex bytes).Parses :=
      ⟨by rw [ip]; exact parses.ip, by rw [transport]; exact parses.transport, parses.protocol⟩
    dsimp only
    by_cases fits : p.payloadIndex + bytes.length < 65536
    · rw [if_pos fits, checkedBuild_ok written (show p.payloadIndex + _ < _ by rw [small]; exact fits)]
      exact Iff.rfl
    · obtain ⟨e, stopped⟩ := checkedBuild_error (p := p.writeBuffer p.payloadIndex bytes)
        (n := bytes.length.toUInt16) (show p.payloadIndex + _ = _ by rw [small]; omega)
      rw [if_neg fits, stopped]
      exact iff_of_false (by rintro ⟨⟩) (by rintro ⟨⟩)

end Checked

/-- A datagram fits exactly when it is shorter than the slice that it is received into. -/
theorem lengthsFit_iff [Build] (ip : IpHeader) (transport : TransportHeader) (p : Packetizer)
    (created : new ip transport = .ok p) (r : Nat) (room : r ≤ maxPacketLength - p.payloadIndex) :
    p.LengthsFit r ↔ ip.headerLength.toNat + transport.headerLength.toNat + r ≤ 65535 := by
  rw [lengthsFit_iff_lt p room, new_payloadIndex created]
  omega

/-- A UDP packet over IPv6 without payload. -/
def ipv6Reference : List UInt8 :=
  [0x60, 0, 0, 0, 0, 8, 17, 64, 0x20, 0x01, 0x0D, 0xB8, 0, 0, 0, 0, 0, 0, 0, 0, 0, 0, 0, 1,
    0x20, 0x01, 0x0D, 0xB8, 0, 0, 0, 0, 0, 0, 0, 0, 0, 0, 0, 2]

def ipv6ReferenceHeader : IpHeader := .v6 { raw := ipv6Reference, data := .ofRaw ipv6Reference }

def udpReferenceHeader : TransportHeader :=
  .udp { raw := [0x04, 0xD2, 0x16, 0x2E, 0, 8, 0, 0], data := { sourcePort := 1234, destinationPort := 5678 } }

theorem ipv6Reference_new : ∃ p, new ipv6ReferenceHeader udpReferenceHeader = .ok p := by
  rw [new_isOk]
  decide

/-- In both builds: a witness that datagrams fit, short of the slice. -/
theorem lengthsFit_ipv6 : ∃ p, new ipv6ReferenceHeader udpReferenceHeader = .ok p ∧
    let _ : Build := { overflowChecks := true }
    p.LengthsFit 65487 := by
  let _ : Build := { overflowChecks := true }
  obtain ⟨p, created⟩ := ipv6Reference_new
  have index : p.payloadIndex = 48 := new_payloadIndex created
  exact ⟨p, created, (lengthsFit_iff _ _ p created 65487 (by rw [index]; decide)).mpr (by decide)⟩

/-- A datagram that fills the slice behind the headers of IPv6 overflows in every build. -/
theorem full_slice_overflows : ∃ p, new ipv6ReferenceHeader udpReferenceHeader = .ok p ∧
    65488 ≤ maxPacketLength - p.payloadIndex ∧ ∀ build : Build, ¬ @LengthsFit build p 65488 := by
  obtain ⟨p, created⟩ := ipv6Reference_new
  have index : p.payloadIndex = 48 := new_payloadIndex created
  refine ⟨p, created, by rw [index]; decide, fun build fit => ?_⟩
  have := (lengthsFit_iff_lt p (by rw [index]; decide)).mp fit
  omega

end Packetizer

end Gnirehtet.Relay
