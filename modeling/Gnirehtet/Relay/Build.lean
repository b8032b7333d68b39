import Mathlib.Data.List.Basic
import Gnirehtet.Relay.Packetizer
import Gnirehtet.Relay.Reparse

/-!
# What the packetizer builds

A packet is an IP header, a transport header and a payload one after the other, and building one
edits each header on its own. So what is built depends on the two headers and the payload alone.
-/

namespace Gnirehtet.Relay
open Lib

@[simp] theorem IpHeader.bind_eq (h : IpHeader) : IpHeader.bind h.raw h.data = h := by cases h <;> rfl

@[simp] theorem TransportHeader.bind_eq (h : TransportHeader) : TransportHeader.bind h.raw h.data = h := by
  cases h <;> rfl

@[simp] theorem IpHeader.data_updateChecksum (h : IpHeader) : h.updateChecksum.data = h.data := by
  cases h <;> rfl

@[simp] theorem TransportHeader.data_updateChecksum (h : TransportHeader) (ip : IpHeaderData)
    (payload : List UInt8) : (h.updateChecksum ip payload).data = h.data := by
  cases h with
  | tcp h => cases ip <;> rfl
  | udp h => rfl

/-! ### Headers without what building writes

A build sets the length fields and the checksums of both headers whatever they were. -/

namespace Ipv4Header

theorem updateChecksum_setChecksum {h : Ipv4Header} (long : 12 ≤ h.raw.length) (checksum : UInt16) :
    (h.setChecksum checksum).updateChecksum = h.updateChecksum := by
  have word (i : Nat) (other : i ≠ 5) : u16At (writeU16 h.raw 10 checksum) (2 * i) = u16At h.raw (2 * i) :=
    u16At_writeU16_other long (by omega)
  have same : (List.range 5 ++ (List.range (h.data.headerLength.toNat / 2 - 6)).map (· + 6)).foldl
      (fun sum i => sum + (u16At (writeU16 h.raw 10 checksum) (2 * i)).toUInt32) (0 : UInt32) =
      (List.range 5 ++ (List.range (h.data.headerLength.toNat / 2 - 6)).map (· + 6)).foldl
      (fun sum i => sum + (u16At h.raw (2 * i)).toUInt32) (0 : UInt32) := by
    apply List.foldl_ext
    intro sum i member
    rw [word]
    rcases List.mem_append.mp member with first | last
    · have := List.mem_range.mp first
      omega
    · obtain ⟨k, _, rfl⟩ := List.mem_map.mp last
      omega
  have again (sum : UInt16) : writeU16 (writeU16 h.raw 10 checksum) 10 sum = writeU16 h.raw 10 sum :=
    overwrite_again rfl long
  simp only [updateChecksum, setChecksum, again, same]

theorem setTotalLength_setChecksum {h : Ipv4Header} (long : 12 ≤ h.raw.length) (checksum totalLength : UInt16) :
    (h.setChecksum checksum).setTotalLength totalLength = (h.setTotalLength totalLength).setChecksum checksum := by
  have comm : writeU16 (writeU16 h.raw 10 checksum) 2 totalLength = writeU16 (writeU16 h.raw 2 totalLength) 10 checksum :=
    overwrite_comm long (show 2 + 2 ≤ h.raw.length by omega) (Or.inr (Nat.le_of_ble_eq_true rfl))
  simp only [setChecksum, setTotalLength, comm]

end Ipv4Header

namespace IpHeader

def erased : IpHeader → IpHeader
  | v4 h => .v4 ((h.setChecksum 0).setTotalLength 0)
  | v6 h => .v6 (h.setPayloadLength 0)

/-- What a build makes of a header is what it makes of the erased one, and erases to it. -/
theorem erased_spec {h : IpHeader} (long : 12 ≤ h.raw.length) (totalLength : UInt16) :
    (h.erased.setTotalLength totalLength).updateChecksum = (h.setTotalLength totalLength).updateChecksum ∧
      (h.setTotalLength totalLength).updateChecksum.erased = h.erased := by
  cases h with
  | v4 h =>
    have long : 12 ≤ h.raw.length := long
    have again (raw : List UInt8) (fits : 12 ≤ raw.length) (first second : UInt16) :
        writeU16 (writeU16 raw 2 first) 2 second = writeU16 raw 2 second :=
      overwrite_again rfl (show 2 + 2 ≤ raw.length by omega)
    have again' (raw : List UInt8) (fits : 12 ≤ raw.length) (first second : UInt16) :
        writeU16 (writeU16 raw 10 first) 10 second = writeU16 raw 10 second := overwrite_again rfl fits
    constructor
    · have last : ((h.setChecksum 0).setTotalLength 0).setTotalLength totalLength =
          (h.setTotalLength totalLength).setChecksum 0 := by
        rw [← Ipv4Header.setTotalLength_setChecksum long]
        simp only [Ipv4Header.setTotalLength, Ipv4Header.setChecksum]
        rw [again _ (by rw [length_writeU16]; exact long)]
      simp only [erased, IpHeader.setTotalLength, IpHeader.updateChecksum, last]
      rw [Ipv4Header.updateChecksum_setChecksum (by rw [Ipv4Header.setTotalLength, length_writeU16]; exact long)]
    · have built (checksum : UInt16) : (((h.setTotalLength totalLength).setChecksum checksum).setChecksum 0).setTotalLength 0 =
          (h.setChecksum 0).setTotalLength 0 := by
        rw [Ipv4Header.setTotalLength_setChecksum (by
          rw [Ipv4Header.setChecksum, Ipv4Header.setTotalLength, length_writeU16, length_writeU16]; exact long),
          Ipv4Header.setTotalLength_setChecksum (by rw [Ipv4Header.setTotalLength, length_writeU16]; exact long),
          Ipv4Header.setTotalLength_setChecksum long]
        simp only [Ipv4Header.setTotalLength, Ipv4Header.setChecksum]
        rw [again' _ (by rw [length_writeU16, length_writeU16]; exact long), again _ long]
      exact congrArg IpHeader.v4 (built _)
  | v6 h =>
    have long : 12 ≤ h.raw.length := long
    have again (first second : UInt16) : writeU16 (writeU16 h.raw 4 first) 4 second = writeU16 h.raw 4 second :=
      overwrite_again rfl (show 4 + 2 ≤ h.raw.length by omega)
    simp only [erased, IpHeader.setTotalLength, IpHeader.updateChecksum, Ipv6Header.setPayloadLength, again, and_self]

end IpHeader

namespace TransportHeader

def erased : TransportHeader → TransportHeader
  | tcp h => .tcp (h.setChecksum 0)
  | udp h => .udp (h.setPayloadLength 0).updateChecksum

theorem setChecksum_again {h : TcpHeader} (long : 18 ≤ h.raw.length) (first second : UInt16) :
    (h.setChecksum first).setChecksum second = h.setChecksum second :=
  congrArg (fun raw => TcpHeader.mk raw h.data) (overwrite_again rfl long)

theorem updateChecksum_setChecksum {h : TcpHeader} (long : 18 ≤ h.raw.length) (checksum : UInt16)
    (ip : IpHeaderData) (payload : List UInt8) :
    (h.setChecksum checksum).updateChecksum ip payload = h.updateChecksum ip payload := by
  have finish (pseudo : UInt32) (payloadLength : UInt16) :
      (h.setChecksum checksum).finishChecksum pseudo payloadLength payload =
        h.finishChecksum pseudo payloadLength payload := by
    rw [TcpHeader.finishChecksum, TcpHeader.finishChecksum, setChecksum_again long]
  cases ip with
  | v4 d => exact finish _ _
  | v6 d => exact finish _ _

theorem setChecksum_updateChecksum {h : TcpHeader} (long : 18 ≤ h.raw.length) (checksum : UInt16)
    (ip : IpHeaderData) (payload : List UInt8) :
    (h.updateChecksum ip payload).setChecksum checksum = h.setChecksum checksum := by
  have finish (pseudo : UInt32) (payloadLength : UInt16) :
      (h.finishChecksum pseudo payloadLength payload).setChecksum checksum = h.setChecksum checksum := by
    rw [TcpHeader.finishChecksum]
    dsimp only
    rw [setChecksum_again (by rw [TcpHeader.setChecksum, length_writeU16]; exact long), setChecksum_again long]
  cases ip with
  | v4 d => exact finish _ _
  | v6 d => exact finish _ _

theorem udp_again {h : UdpHeader} (long : 8 ≤ h.raw.length) (first second : UInt16) :
    ((h.setPayloadLength first).updateChecksum.setPayloadLength second).updateChecksum =
      (h.setPayloadLength second).updateChecksum := by
  have comm (raw : List UInt8) (fits : 8 ≤ raw.length) (length : UInt16) :
      writeU16 (writeU16 raw 6 0) 4 length = writeU16 (writeU16 raw 4 length) 6 0 :=
    overwrite_comm fits (show 4 + 2 ≤ raw.length by omega) (Or.inr (Nat.le_refl 6))
  have again (raw : List UInt8) (fits : 8 ≤ raw.length) (first second : UInt16) :
      writeU16 (writeU16 raw 4 first) 4 second = writeU16 raw 4 second :=
    overwrite_again rfl (show 4 + 2 ≤ raw.length by omega)
  have again' (raw : List UInt8) (fits : 8 ≤ raw.length) : writeU16 (writeU16 raw 6 0) 6 0 = writeU16 raw 6 0 :=
    overwrite_again rfl fits
  simp only [UdpHeader.setPayloadLength, UdpHeader.updateChecksum]
  rw [comm _ (by rw [length_writeU16]; exact long), again _ long, again' _ (by rw [length_writeU16]; exact long)]

theorem erased_spec {h : TransportHeader} (long : h.data.minHeaderLength ≤ h.raw.length) (n : UInt16)
    (ip : IpHeaderData) (payload : List UInt8) :
    (h.erased.setPayloadLength n).updateChecksum ip payload = (h.setPayloadLength n).updateChecksum ip payload ∧
      ((h.setPayloadLength n).updateChecksum ip payload).erased = h.erased := by
  cases h with
  | tcp h =>
    have long : 18 ≤ h.raw.length := Nat.le_trans (Nat.le_of_ble_eq_true rfl) long
    exact ⟨congrArg TransportHeader.tcp (updateChecksum_setChecksum long 0 ip payload),
      congrArg TransportHeader.tcp (setChecksum_updateChecksum long 0 ip payload)⟩
  | udp h =>
    exact ⟨congrArg TransportHeader.udp (udp_again long 0 n), congrArg TransportHeader.udp (udp_again long n 0)⟩

end TransportHeader

/-- The checksums of a packet whose headers are known. -/
theorem IpPacket.raw_computeChecksums {q : IpPacket} {ip : IpHeader} {transport : TransportHeader}
    {payload : List UInt8} (raw : q.raw = ip.raw ++ (transport.raw ++ payload)) (ipData : q.ipHeaderData = ip.data)
    (transportData : q.transportHeaderData = some transport.data)
    (ipLength : ip.raw.length = ip.headerLength.toNat)
    (transportLength : transport.raw.length = transport.headerLength.toNat) :
    q.computeChecksums.raw =
      ip.updateChecksum.raw ++ ((transport.updateChecksum ip.data payload).raw ++ payload) := by
  have index : q.transportIndex = ip.raw.length := by rw [IpPacket.transportIndex, ipData, ipLength]; rfl
  have headerLength : transport.data.headerLength.toNat = transport.raw.length := transportLength.symm
  rw [IpPacket.computeChecksums, transportData]
  dsimp only
  rw [index, headerLength, raw, List.take_left, List.drop_left, List.take_left, List.drop_left, ipData,
    IpHeader.bind_eq, TransportHeader.bind_eq, List.append_assoc]

namespace Packetizer

/-! ### The parts of the buffer -/

section Parts
variable (p : Packetizer)

theorem buffer_eq : p.buffer = p.ipHeader.raw ++ (p.transportHeader.raw ++ p.buffer.drop p.payloadIndex) := by
  have order := p.transportIndex_le_payloadIndex
  have between : (p.buffer.take p.payloadIndex).drop p.transportIndex =
      (p.buffer.drop p.transportIndex).take (p.payloadIndex - p.transportIndex) := List.drop_take ..
  have rest : p.buffer.drop p.payloadIndex =
      (p.buffer.drop p.transportIndex).drop (p.payloadIndex - p.transportIndex) := by
    rw [List.drop_drop, Nat.add_sub_cancel' order]
  rw [ipHeader, transportHeader, IpHeader.raw_bind, TransportHeader.raw_bind, between, rest,
    List.take_append_drop, List.take_append_drop]

@[simp] theorem data_ipHeader : p.ipHeader.data = p.ipHeaderData := IpHeader.data_bind _ _

@[simp] theorem data_transportHeader : p.transportHeader.data = p.transportHeaderData :=
  TransportHeader.data_bind _ _

variable {p}

theorem parts_of_buffer {ip transport rest : List UInt8} (same : p.buffer = ip ++ (transport ++ rest))
    (first : ip.length = p.transportIndex) (second : p.transportIndex + transport.length = p.payloadIndex) :
    p.ipHeader = .bind ip p.ipHeaderData ∧ p.transportHeader = .bind transport p.transportHeaderData ∧
      p.buffer.drop p.payloadIndex = rest := by
  have both : (ip ++ transport).length = p.payloadIndex := by rw [List.length_append, first, second]
  have joined : p.buffer = ip ++ transport ++ rest := by rw [same, List.append_assoc]
  refine ⟨?_, ?_, ?_⟩
  · rw [ipHeader, same, List.take_left' first]
  · rw [transportHeader, joined, List.take_left' both, List.drop_left' first]
  · rw [joined, List.drop_left' both]

/-- Editing the transport header leaves the other parts. -/
theorem parts_modifyTransport {edit : TransportHeader → TransportHeader}
    (keep : ∀ h, (edit h).headerLength = h.headerLength) (same : ∀ h, (edit h).raw.length = h.raw.length) :
    (p.modifyTransport edit keep).ipHeader = p.ipHeader ∧
      (p.modifyTransport edit keep).transportHeader = edit p.transportHeader ∧
      (p.modifyTransport edit keep).buffer.drop p.payloadIndex = p.buffer.drop p.payloadIndex := by
  have length := p.layout.buffer_length
  have index := p.payloadIndex_lt
  have order := p.transportIndex_le_payloadIndex
  have transport := same p.transportHeader
  rw [length_raw_transportHeader] at transport
  rw [maxPacketLength] at length
  have fits : p.transportIndex + (edit p.transportHeader).raw.length ≤ p.buffer.length := by omega
  have buffer : (p.modifyTransport edit keep).buffer =
      p.buffer.take p.transportIndex ++ ((edit p.transportHeader).raw ++ p.buffer.drop p.payloadIndex) := by
    refine (overwrite_eq fits).trans ?_
    rw [List.append_assoc, show p.transportIndex + (edit p.transportHeader).raw.length = p.payloadIndex by omega]
  obtain ⟨ip, edited, rest⟩ := parts_of_buffer buffer (by
    rw [List.length_take]
    exact Nat.min_eq_left (by omega)) (show p.transportIndex + _ = p.payloadIndex by omega)
  refine ⟨ip, ?_, rest⟩
  rw [edited]
  exact TransportHeader.bind_eq _

theorem parts_setTotalLength (total : UInt16) :
    (p.setTotalLength total).ipHeader = p.ipHeader.setTotalLength total ∧
      (p.setTotalLength total).transportHeader = p.transportHeader ∧
      (p.setTotalLength total).buffer.drop p.payloadIndex = p.buffer.drop p.payloadIndex := by
  have length := p.layout.buffer_length
  have index := p.payloadIndex_lt
  have order := p.transportIndex_le_payloadIndex
  rw [maxPacketLength] at length
  have header : (p.ipHeader.setTotalLength total).raw.length = p.transportIndex := by
    rw [IpHeader.length_raw_setTotalLength, length_raw_ipHeader]
  have rest : p.buffer.drop p.transportIndex = p.transportHeader.raw ++ p.buffer.drop p.payloadIndex := by
    have parts := congrArg (List.drop p.transportIndex) p.buffer_eq
    rwa [List.drop_left' p.length_raw_ipHeader] at parts
  have buffer : (p.setTotalLength total).buffer = (p.ipHeader.setTotalLength total).raw ++
      (p.transportHeader.raw ++ p.buffer.drop p.payloadIndex) := by
    refine (overwrite_start (by omega)).trans ?_
    rw [header, rest]
  obtain ⟨ip, transport, after⟩ := parts_of_buffer buffer header
    (show p.transportIndex + p.transportHeader.raw.length = p.payloadIndex by
      rw [length_raw_transportHeader]; omega)
  refine ⟨?_, ?_, after⟩
  · rw [ip]
    exact IpHeader.bind_eq _
  · refine transport.trans ?_
    show TransportHeader.bind p.transportHeader.raw p.transportHeaderData = _
    rw [← data_transportHeader p, TransportHeader.bind_eq]

theorem parts_writeBuffer {bytes : List UInt8} (fits : p.payloadIndex + bytes.length ≤ p.buffer.length) :
    (p.writeBuffer p.payloadIndex bytes).ipHeader = p.ipHeader ∧
      (p.writeBuffer p.payloadIndex bytes).transportHeader = p.transportHeader ∧
      ((p.writeBuffer p.payloadIndex bytes).buffer.drop p.payloadIndex).take bytes.length = bytes := by
  have order := p.transportIndex_le_payloadIndex
  refine ⟨?_, ?_, overwrite_same fits⟩
  · exact congrArg (IpHeader.bind · p.ipHeaderData) (take_overwrite fits order)
  · exact congrArg (fun raw => TransportHeader.bind (raw.drop p.transportIndex) p.transportHeaderData)
      (take_overwrite fits (Nat.le_refl _))

end Parts

/-! ### The built packet -/

section Built
variable (p : Packetizer) (n : UInt16)

def builtPayload : List UInt8 := (p.buffer.drop p.payloadIndex).take n.toNat

def builtIpHeader : IpHeader := (p.ipHeader.setTotalLength (p.payloadIndex.toUInt16 + n)).updateChecksum

def builtTransportHeader : TransportHeader :=
  (p.transportHeader.setPayloadLength n).updateChecksum (p.builtIpHeader n).data (p.builtPayload n)

theorem parts_setLengths :
    (p.setLengths n).ipHeader = p.ipHeader.setTotalLength (p.payloadIndex.toUInt16 + n) ∧
      (p.setLengths n).transportHeader = p.transportHeader.setPayloadLength n ∧
      (p.setLengths n).buffer.drop p.payloadIndex = p.buffer.drop p.payloadIndex := by
  obtain ⟨ip, transport, rest⟩ := parts_setTotalLength (p := p) (p.payloadIndex.toUInt16 + n)
  obtain ⟨ip', transport', rest'⟩ := parts_modifyTransport (p := p.setTotalLength (p.payloadIndex.toUInt16 + n))
    (TransportHeader.headerLength_setPayloadLength n) fun h => TransportHeader.length_raw_setPayloadLength h n
  exact ⟨ip'.trans ip, transport'.trans (by rw [transport]), rest'.trans rest⟩

/-- The packet in the buffer before its checksums are computed. -/
theorem raw_inflate (fits : p.payloadIndex + n.toNat < 65536) :
    ((p.setLengths n).inflate (p.payloadIndex.toUInt16 + n)).raw =
      (p.ipHeader.setTotalLength (p.payloadIndex.toUInt16 + n)).raw ++
        ((p.transportHeader.setPayloadLength n).raw ++ p.builtPayload n) := by
  obtain ⟨ip, transport, rest⟩ := p.parts_setLengths n
  have total := p.toNat_length_build n fits
  rw [length_build] at total
  have order := p.transportIndex_le_payloadIndex
  have first : (p.setLengths n).ipHeader.raw.length = p.transportIndex := (p.setLengths n).length_raw_ipHeader
  have second : (p.setLengths n).transportHeader.raw.length = p.payloadIndex - p.transportIndex :=
    (p.setLengths n).length_raw_transportHeader
  rw [← ip, ← transport]
  show (p.setLengths n).buffer.take _ = _
  rw [total, (p.setLengths n).buffer_eq, List.take_append, List.take_append, first, second,
    List.take_of_length_le (by omega), List.take_of_length_le (by omega),
    show p.payloadIndex + n.toNat - p.transportIndex - (p.payloadIndex - p.transportIndex) = n.toNat by omega]
  exact congrArg (fun after => _ ++ (_ ++ after.take n.toNat)) rest

theorem raw_build (fits : p.payloadIndex + n.toNat < 65536) :
    (p.build n).2.raw = (p.builtIpHeader n).raw ++ ((p.builtTransportHeader n).raw ++ p.builtPayload n) := by
  obtain ⟨ip, transport, _⟩ := p.parts_setLengths n
  have order := p.transportIndex_le_payloadIndex
  have first := (p.setLengths n).length_raw_ipHeader
  have second := (p.setLengths n).length_raw_transportHeader
  have index := (p.setLengths n).layout.transport_index
  have payload := (p.setLengths n).layout.payload_index
  have ipData := (p.setLengths n).data_ipHeader
  have transportData := (p.setLengths n).data_transportHeader
  rw [ip] at first ipData
  rw [transport] at second transportData
  have built := IpPacket.raw_computeChecksums (p.raw_inflate n fits) ipData.symm (congrArg some transportData.symm)
    (by rw [first, IpHeader.headerLength, ipData]; exact index)
    (by
      rw [second, TransportHeader.headerLength, transportData]
      show p.payloadIndex - p.transportIndex = _
      have payload : p.payloadIndex = p.transportIndex + _ := payload
      omega)
  rw [build, builtTransportHeader, builtIpHeader, IpHeader.data_updateChecksum]
  exact built

@[simp] theorem length_raw_builtIpHeader : (p.builtIpHeader n).raw.length = p.transportIndex := by
  rw [builtIpHeader, IpHeader.length_raw_updateChecksum, IpHeader.length_raw_setTotalLength, length_raw_ipHeader]

@[simp] theorem length_raw_builtTransportHeader :
    (p.builtTransportHeader n).raw.length = p.payloadIndex - p.transportIndex := by
  rw [builtTransportHeader, TransportHeader.length_raw_updateChecksum, TransportHeader.length_raw_setPayloadLength,
    length_raw_transportHeader]

theorem length_builtPayload (fits : p.payloadIndex + n.toNat < 65536) : (p.builtPayload n).length = n.toNat := by
  have length := p.layout.buffer_length
  rw [builtPayload, List.length_take, List.length_drop, length, maxPacketLength]
  omega

/-- The packetizer keeps the headers that it built, and what lies behind the payload index. -/
theorem parts_build (fits : p.payloadIndex + n.toNat < 65536) :
    (p.build n).1.ipHeader = p.builtIpHeader n ∧ (p.build n).1.transportHeader = p.builtTransportHeader n ∧
      (p.build n).1.buffer.drop p.payloadIndex = p.buffer.drop p.payloadIndex := by
  obtain ⟨ip, transport, rest⟩ := p.parts_setLengths n
  have raw := p.raw_build n fits
  have whole := p.length_raw_build n fits
  have length := (p.setLengths n).layout.buffer_length
  have order := p.transportIndex_le_payloadIndex
  rw [maxPacketLength] at length
  have after : p.builtPayload n ++ (p.setLengths n).buffer.drop (p.payloadIndex + n.toNat) =
      p.buffer.drop p.payloadIndex := by
    rw [← List.drop_drop, show (p.setLengths n).buffer.drop p.payloadIndex = p.buffer.drop p.payloadIndex from rest,
      builtPayload, List.take_append_drop]
  have buffer : (p.build n).1.buffer =
      (p.builtIpHeader n).raw ++ ((p.builtTransportHeader n).raw ++ p.buffer.drop p.payloadIndex) := by
    refine (overwrite_start (show (p.build n).2.raw.length ≤ (p.setLengths n).buffer.length by omega)).trans ?_
    rw [whole, raw, List.append_assoc, List.append_assoc, after]
  obtain ⟨ip', transport', rest'⟩ := parts_of_buffer buffer (p.length_raw_builtIpHeader n) (by
    rw [length_raw_builtTransportHeader]
    exact Nat.add_sub_cancel' order)
  refine ⟨?_, ?_, rest'⟩
  · rw [ip', show (p.build n).1.ipHeaderData = (p.builtIpHeader n).data by
      rw [builtIpHeader, IpHeader.data_updateChecksum, ← ip, data_ipHeader]
      rfl]
    exact IpHeader.bind_eq _
  · rw [transport', show (p.build n).1.transportHeaderData = (p.builtTransportHeader n).data by
      rw [builtTransportHeader, TransportHeader.data_updateChecksum, ← transport, data_transportHeader]
      rfl]
    exact TransportHeader.bind_eq _

theorem packet_build (fits : p.payloadIndex + n.toNat < 65536) :
    (p.build n).2 = {
      raw := (p.builtIpHeader n).raw ++ ((p.builtTransportHeader n).raw ++ p.builtPayload n)
      ipHeaderData := (p.builtIpHeader n).data
      transportHeaderData := some (p.builtTransportHeader n).data } := by
  obtain ⟨ip, transport, _⟩ := p.parts_build n fits
  have raw := p.raw_build n fits
  have ipData : (p.build n).2.ipHeaderData = (p.builtIpHeader n).data := by
    rw [← ip, data_ipHeader]
    exact IpPacket.ipHeaderData_computeChecksums _
  have transportData : (p.build n).2.transportHeaderData = some (p.builtTransportHeader n).data := by
    rw [← transport, data_transportHeader]
    exact IpPacket.transportHeaderData_computeChecksums _
  rw [← raw, ← ipData, ← transportData]

end Built

/-! ### What a packet depends on -/

/-- Two packetizers hold the same headers, apart from what a build writes. -/
structure SameHeaders (p q : Packetizer) : Prop where
  transportIndex : p.transportIndex = q.transportIndex
  payloadIndex : p.payloadIndex = q.payloadIndex
  ip : p.ipHeader.erased = q.ipHeader.erased
  transport : p.transportHeader.erased = q.transportHeader.erased

/-- The headers of the packetizer parse back. -/
structure Parses (p : Packetizer) : Prop where
  ip : p.ipHeader.Parses
  transport : p.transportHeader.Parses
  protocol : p.ipHeaderData.protocol = p.transportHeaderData.protocol

namespace SameHeaders
variable {p q : Packetizer}

theorem refl (p : Packetizer) : p.SameHeaders p := ⟨rfl, rfl, rfl, rfl⟩

theorem trans {r : Packetizer} (h : p.SameHeaders q) (h' : q.SameHeaders r) : p.SameHeaders r :=
  ⟨h.transportIndex.trans h'.transportIndex, h.payloadIndex.trans h'.payloadIndex, h.ip.trans h'.ip,
    h.transport.trans h'.transport⟩

/-- The same payload over the same headers makes the same packet. -/
theorem packet_build (same : p.SameHeaders q) (parses : p.Parses) (parses' : q.Parses) {n : UInt16}
    (fits : p.payloadIndex + n.toNat < 65536) (payload : p.builtPayload n = q.builtPayload n) :
    (p.build n).2 = (q.build n).2 := by
  have long := p.length_raw_ipHeader
  have least := p.transportIndex_ge
  have long' := q.length_raw_ipHeader
  have least' := q.transportIndex_ge
  have ip : p.builtIpHeader n = q.builtIpHeader n := by
    rw [builtIpHeader, builtIpHeader, ← (IpHeader.erased_spec (by omega) _).1, same.ip, same.payloadIndex,
      (IpHeader.erased_spec (by omega) _).1]
  have transport : p.builtTransportHeader n = q.builtTransportHeader n := by
    rw [builtTransportHeader, builtTransportHeader, ip, payload,
      ← (TransportHeader.erased_spec parses.transport.least _ _ _).1, same.transport,
      (TransportHeader.erased_spec parses'.transport.least _ _ _).1]
  rw [p.packet_build n fits, q.packet_build n (by rw [← same.payloadIndex]; exact fits), ip, transport, payload]

end SameHeaders

namespace Parses
variable {p : Packetizer} (parses : p.Parses)
include parses

theorem sameHeaders_build {n : UInt16} (fits : p.payloadIndex + n.toNat < 65536) :
    (p.build n).1.SameHeaders p := by
  have least := p.transportIndex_ge
  obtain ⟨ip, transport, _⟩ := p.parts_build n fits
  refine ⟨rfl, rfl, ?_, ?_⟩
  · rw [ip, builtIpHeader]
    exact (IpHeader.erased_spec (by rw [length_raw_ipHeader]; omega) _).2
  · rw [transport, builtTransportHeader]
    exact (TransportHeader.erased_spec parses.transport.least _ _ _).2

theorem build {n : UInt16} (fits : p.payloadIndex + n.toNat < 65536) : (p.build n).1.Parses := by
  obtain ⟨ip, transport, _⟩ := p.parts_build n fits
  refine ⟨?_, ?_, ?_⟩
  · rw [ip]
    exact (parses.ip.setTotalLength _).updateChecksum
  · rw [transport]
    exact (parses.transport.setPayloadLength n).updateChecksum _ _
  · have ipProtocol : (p.build n).1.ipHeaderData.protocol = p.ipHeaderData.protocol := by
      rw [← data_ipHeader, ip, builtIpHeader, IpHeader.data_updateChecksum, ← data_ipHeader]
      cases p.ipHeader <;> rfl
    have transportProtocol : (p.build n).1.transportHeaderData = p.transportHeaderData := by
      rw [← data_transportHeader, transport, builtTransportHeader, TransportHeader.data_updateChecksum,
        TransportHeader.data_setPayloadLength, data_transportHeader]
    rw [ipProtocol, transportProtocol]
    exact parses.protocol

/-- With its lengths set a packet states its own bytes. -/
theorem assembled_setLengths {n : UInt16} (fits : p.payloadIndex + n.toNat < 65536) :
    Assembled (p.ipHeader.setTotalLength (p.payloadIndex.toUInt16 + n)) (p.transportHeader.setPayloadLength n)
      (p.builtPayload n) := by
  have order := p.transportIndex_le_payloadIndex
  have least := parses.ip.least
  have header := p.length_raw_ipHeader
  have total : (p.payloadIndex.toUInt16 + n).toNat = p.payloadIndex + n.toNat := by
    rw [← length_build]
    exact p.toNat_length_build n fits
  have stated : (p.ipHeader.setTotalLength (p.payloadIndex.toUInt16 + n)).data.statedLength =
      p.payloadIndex + n.toNat := by
    cases kind : p.ipHeader with
    | v4 h => exact total
    | v6 h =>
      rw [kind] at least header
      have least : 40 ≤ h.raw.length := least
      have header : h.raw.length = p.transportIndex := header
      have forty : ipv6HeaderLength.toUInt16.toNat = 40 := rfl
      have rest := UInt16.toNat_sub_of_le (p.payloadIndex.toUInt16 + n) ipv6HeaderLength.toUInt16
        (UInt16.le_iff_toNat_le.mpr (by omega))
      show 40 + (p.payloadIndex.toUInt16 + n - ipv6HeaderLength.toUInt16).toNat = _
      omega
  have protocol : (p.ipHeader.setTotalLength (p.payloadIndex.toUInt16 + n)).data.protocol =
      p.ipHeaderData.protocol := by
    rw [← data_ipHeader]
    cases p.ipHeader <;> rfl
  refine ⟨parses.ip.setTotalLength _, parses.transport.setPayloadLength n, ?_, ?_, ?_⟩
  · rw [protocol, TransportHeader.data_setPayloadLength, data_transportHeader]
    exact parses.protocol
  · rw [stated, IpHeader.length_raw_setTotalLength, TransportHeader.length_raw_setPayloadLength, length_raw_ipHeader,
      length_raw_transportHeader, length_builtPayload p n fits]
    omega
  · rw [stated]
    exact fits

/-- The checksums change nothing in that. -/
theorem assembled {n : UInt16} (fits : p.payloadIndex + n.toNat < 65536) :
    Assembled (p.builtIpHeader n) (p.builtTransportHeader n) (p.builtPayload n) := by
  obtain ⟨ip, transport, protocol, stated, small⟩ := parses.assembled_setLengths fits
  refine ⟨ip.updateChecksum, transport.updateChecksum _ _, ?_, ?_, ?_⟩
  · rw [builtIpHeader, builtTransportHeader, IpHeader.data_updateChecksum, TransportHeader.data_updateChecksum]
    exact protocol
  · rw [builtIpHeader, builtTransportHeader, IpHeader.data_updateChecksum, IpHeader.length_raw_updateChecksum,
      TransportHeader.length_raw_updateChecksum]
    exact stated
  · rw [builtIpHeader, IpHeader.data_updateChecksum]
    exact small

end Parses

end Packetizer

end Gnirehtet.Relay
