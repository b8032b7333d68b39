import Gnirehtet.Relay.Checksum
import Gnirehtet.Relay.IpPacketBuffer

/-!
# Headers that parse back

A header whose data are those that a parser reads from its bytes keeps that property through every
edit. A packet put together from such headers is parsed into the same headers.
-/

namespace Gnirehtet.Relay
open Lib

/-! ### What the parsers read -/

namespace Ipv4HeaderData

theorem ofRaw_congr {raw raw' : List UInt8} (same : ∀ i < 20, i ≠ 10 → i ≠ 11 → byteAt raw i = byteAt raw' i) :
    ofRaw raw = ofRaw raw' := by
  have word (i : Nat) (inside : i + 1 < 20) (outside : i + 1 < 10 ∨ 12 ≤ i) : u16At raw i = u16At raw' i := by
    rw [u16At, u16At, same i (by omega) (by omega) (by omega), same (i + 1) inside (by omega) (by omega)]
  have double (i : Nat) (inside : i + 3 < 20) (outside : 12 ≤ i) : u32At raw i = u32At raw' i := by
    rw [u32At, u32At, word i (by omega) (by omega), word (i + 2) inside (by omega)]
  rw [ofRaw, ofRaw, same 0 (by omega) (by omega) (by omega), word 2 (by omega) (by omega),
    same 9 (by omega) (by omega) (by omega), double 12 (by omega) (by omega), double 16 (by omega) (by omega)]

theorem ofRaw_append {raw : List UInt8} (long : 20 ≤ raw.length) (rest : List UInt8) :
    ofRaw (raw ++ rest) = ofRaw raw :=
  ofRaw_congr fun _ inside _ _ => byteAt_append_left (by omega)

theorem ofRaw_setChecksum {raw : List UInt8} (long : 20 ≤ raw.length) (checksum : UInt16) :
    ofRaw (writeU16 raw 10 checksum) = ofRaw raw :=
  ofRaw_congr fun _ _ _ _ => byteAt_writeU16_other (by omega) (by omega)

theorem ofRaw_setTotalLength {raw : List UInt8} (long : 20 ≤ raw.length) (totalLength : UInt16) :
    ofRaw (writeU16 raw 2 totalLength) = { ofRaw raw with totalLength } := by
  have fits : 2 + 2 ≤ raw.length := by omega
  simp only [ofRaw, u16At_writeU16 fits]
  rw [byteAt_writeU16_other fits (by omega), byteAt_writeU16_other fits (by omega),
    u32At_writeU16_other fits (by omega), u32At_writeU16_other fits (by omega)]

theorem ofRaw_swap {raw out : List UInt8} (swapped : swapRange raw 12 16 4 = .ok out) :
    ofRaw out = { ofRaw raw with source := (ofRaw raw).destination, destination := (ofRaw raw).source } := by
  have before (i : Nat) (h : i < 12) : byteAt out i = byteAt raw i := byteAt_swapRange_other swapped h (by omega)
  have moved (k : Nat) (h : k < 4) := byteAt_swapRange swapped (by omega) h
  have source : u32At out 12 = u32At raw 16 := by
    simp only [u32At, u16At]
    rw [(moved 0 (by omega)).1, (moved 1 (by omega)).1, (moved 2 (by omega)).1, (moved 3 (by omega)).1]
  have destination : u32At out 16 = u32At raw 12 := by
    simp only [u32At, u16At]
    rw [(moved 0 (by omega)).2, (moved 1 (by omega)).2, (moved 2 (by omega)).2, (moved 3 (by omega)).2]
  simp only [ofRaw, u16At, source, destination]
  rw [before 0 (by omega), before 2 (by omega), before (2 + 1) (by omega), before 9 (by omega)]

end Ipv4HeaderData

namespace Ipv6HeaderData

theorem ofRaw_append {raw : List UInt8} (long : 40 ≤ raw.length) (rest : List UInt8) :
    ofRaw (raw ++ rest) = ofRaw raw := by
  rw [ofRaw, ofRaw, u16At_append_left (by omega), byteAt_append_left (by omega), byteAt_append_left (by omega),
    List.take_append_of_le_length (by omega), List.take_append_of_le_length long]

theorem ofRaw_setPayloadLength {raw : List UInt8} (long : 40 ≤ raw.length) (payloadLength : UInt16) :
    ofRaw (writeU16 raw 4 payloadLength) = { ofRaw raw with payloadLength } := by
  have fits : 4 + 2 ≤ raw.length := by omega
  have octets (stop start : Nat) (after : 6 ≤ start) :
      ((writeU16 raw 4 payloadLength).take stop).drop start = (raw.take stop).drop start := by
    rw [List.drop_take, List.drop_take, writeU16, drop_overwrite (by rw [length_beBytes16]; omega)]
  simp only [ofRaw, u16At_writeU16 fits]
  rw [byteAt_writeU16_other fits (by omega), byteAt_writeU16_other fits (by omega), octets 24 8 (by omega),
    octets 40 24 (by omega)]

theorem length_octets {raw : List UInt8} (long : 40 ≤ raw.length) :
    (ofRaw raw).source.length = 16 ∧ (ofRaw raw).destination.length = 16 := by
  simp only [ofRaw, List.length_drop, List.length_take]
  omega

theorem ofRaw_swap {raw out : List UInt8} (long : 40 ≤ raw.length) (swapped : swapRange raw 8 24 16 = .ok out) :
    ofRaw out = { ofRaw raw with source := (ofRaw raw).destination, destination := (ofRaw raw).source } := by
  have length := length_swapRange swapped
  have before (i : Nat) (h : i < 8) : byteAt out i = byteAt raw i := byteAt_swapRange_other swapped h (by omega)
  have moved (k : Nat) (h : k < 16) := byteAt_swapRange swapped (by omega) h
  have octet (raw : List UInt8) (stop start i : Nat) (inside : start + i < stop) :
      byteAt ((raw.take stop).drop start) i = byteAt raw (start + i) := by
    rw [byteAt_drop, byteAt_take inside]
  have source : (out.take 24).drop 8 = (raw.take 40).drop 24 := by
    apply byteAt_ext
    · simp only [List.length_drop, List.length_take]
      omega
    · intro i inside
      have sixteen : i < 16 := by
        simp only [List.length_drop, List.length_take] at inside
        omega
      rw [octet _ _ _ _ (by omega), octet _ _ _ _ (by omega), (moved i sixteen).1]
  have destination : (out.take 40).drop 24 = (raw.take 24).drop 8 := by
    apply byteAt_ext
    · simp only [List.length_drop, List.length_take]
      omega
    · intro i inside
      have sixteen : i < 16 := by
        simp only [List.length_drop, List.length_take] at inside
        omega
      rw [octet _ _ _ _ (by omega), octet _ _ _ _ (by omega), (moved i sixteen).2]
  simp only [ofRaw, u16At, source, destination]
  rw [before 4 (by omega), before (4 + 1) (by omega), before 6 (by omega), before 7 (by omega)]

end Ipv6HeaderData

theorem u16At_swapPorts {raw out : List UInt8} (swapped : swapRange raw 0 2 2 = .ok out) :
    u16At out 0 = u16At raw 2 ∧ u16At out 2 = u16At raw 0 := by
  have first := byteAt_swapRange swapped (by omega) (show 0 < 2 by omega)
  have second := byteAt_swapRange swapped (by omega) (show 1 < 2 by omega)
  exact ⟨by rw [u16At, u16At, first.1, second.1], by rw [u16At, u16At, first.2, second.2]⟩

/-- What a parser of the same kind of header reads from other bytes. -/
def IpHeaderData.reread (raw : List UInt8) : IpHeaderData → IpHeaderData
  | v4 _ => .v4 (.ofRaw raw)
  | v6 _ => .v6 (.ofRaw raw)

def TransportHeaderData.reread (raw : List UInt8) : TransportHeaderData → TransportHeaderData
  | tcp _ => .tcp (.ofRaw raw)
  | udp _ => .udp (.ofRaw raw)

def TransportHeaderData.minHeaderLength : TransportHeaderData → Nat
  | tcp _ => 20
  | udp _ => 8

/-! ### Headers and their data -/

namespace IpHeader

/-- The data of an IP header are those that its bytes state. -/
structure Parses (h : IpHeader) : Prop where
  data : h.data = h.data.reread h.raw
  version : byteAt h.raw 0 >>> 4 = h.data.version
  length : h.raw.length = h.headerLength.toNat
  least : h.data.minHeaderLength ≤ h.raw.length

theorem parses_v4 {h : Ipv4Header} : (v4 h).Parses ↔ h.data = .ofRaw h.raw ∧ byteAt h.raw 0 >>> 4 = 4 ∧
    h.raw.length = h.data.headerLength.toNat ∧ 20 ≤ h.raw.length := by
  constructor
  · rintro ⟨data, version, length, least⟩
    exact ⟨IpHeaderData.v4.inj data, version, length, least⟩
  · rintro ⟨data, version, length, least⟩
    exact ⟨congrArg IpHeaderData.v4 data, version, length, least⟩

theorem parses_v6 {h : Ipv6Header} : (v6 h).Parses ↔ h.data = .ofRaw h.raw ∧ byteAt h.raw 0 >>> 4 = 6 ∧
    h.raw.length = 40 := by
  constructor
  · rintro ⟨data, version, length, least⟩
    exact ⟨IpHeaderData.v6.inj data, version, length⟩
  · rintro ⟨data, version, length⟩
    exact ⟨congrArg IpHeaderData.v6 data, version, length, Nat.le_of_eq length.symm⟩

theorem Parses.setTotalLength {h : IpHeader} (parses : h.Parses) (totalLength : UInt16) :
    (h.setTotalLength totalLength).Parses := by
  cases h with
  | v4 h =>
    obtain ⟨data, version, length, least⟩ := parses_v4.mp parses
    refine parses_v4.mpr ⟨?_, ?_, ?_, ?_⟩ <;> simp only [Ipv4Header.setTotalLength, length_writeU16]
    · rw [Ipv4HeaderData.ofRaw_setTotalLength least, ← data]
    · rw [byteAt_writeU16_other (by omega) (by omega), version]
    · exact length
    · exact least
  | v6 h =>
    obtain ⟨data, version, length⟩ := parses_v6.mp parses
    refine parses_v6.mpr ⟨?_, ?_, ?_⟩ <;> simp only [Ipv6Header.setPayloadLength, length_writeU16]
    · rw [Ipv6HeaderData.ofRaw_setPayloadLength (by omega), ← data]
    · rw [byteAt_writeU16_other (by omega) (by omega), version]
    · exact length

theorem Parses.updateChecksum {h : IpHeader} (parses : h.Parses) : h.updateChecksum.Parses := by
  cases h with
  | v4 h =>
    obtain ⟨data, version, length, least⟩ := parses_v4.mp parses
    refine parses_v4.mpr ⟨?_, ?_, ?_, ?_⟩ <;>
      simp only [Ipv4Header.updateChecksum, Ipv4Header.setChecksum, length_writeU16]
    · rw [Ipv4HeaderData.ofRaw_setChecksum least, ← data]
    · rw [byteAt_writeU16_other (by omega) (by omega), version]
    · exact length
    · exact least
  | v6 h => exact parses

/-- The ends change places, in the bytes and in the data. -/
theorem Parses.swap {h out : IpHeader} (parses : h.Parses) (swapped : h.swapSourceAndDestination = .ok out) :
    out.Parses ∧ out.data.source = h.data.destination ∧ out.data.destination = h.data.source ∧
      out.data.protocol = h.data.protocol ∧ out.data.version = h.data.version := by
  cases h with
  | v4 h =>
    obtain ⟨h', swap, same⟩ := bind_ok swapped
    cases same
    obtain ⟨raw, inner, same⟩ := bind_ok swap
    cases same
    obtain ⟨data, version, length, least⟩ := parses_v4.mp parses
    refine ⟨parses_v4.mpr ⟨?_, ?_, ?_, ?_⟩, rfl, rfl, rfl, rfl⟩ <;> simp only [length_swapRange inner]
    · rw [Ipv4HeaderData.ofRaw_swap inner, ← data]
    · rw [byteAt_swapRange_other inner (by omega) (by omega), version]
    · exact length
    · exact least
  | v6 h =>
    obtain ⟨h', swap, same⟩ := bind_ok swapped
    cases same
    obtain ⟨raw, inner, same⟩ := bind_ok swap
    cases same
    obtain ⟨data, version, length⟩ := parses_v6.mp parses
    refine ⟨parses_v6.mpr ⟨?_, ?_, ?_⟩, rfl, rfl, rfl, rfl⟩ <;> simp only [length_swapRange inner]
    · rw [Ipv6HeaderData.ofRaw_swap (by omega) inner, ← data]
    · rw [byteAt_swapRange_other inner (by omega) (by omega), version]
    · exact length

end IpHeader

/-! ### Transport headers and their data -/

namespace TransportHeader

/-- The ports and the length of a transport header are those that its bytes state. -/
structure Parses (h : TransportHeader) : Prop where
  sourcePort : (h.data.reread h.raw).sourcePort = h.data.sourcePort
  destinationPort : (h.data.reread h.raw).destinationPort = h.data.destinationPort
  headerLength : (h.data.reread h.raw).headerLength = h.data.headerLength
  length : h.raw.length = h.headerLength.toNat
  least : h.data.minHeaderLength ≤ h.raw.length

theorem parses_udp {h : UdpHeader} : (udp h).Parses ↔ h.data = .ofRaw h.raw ∧ h.raw.length = 8 := by
  constructor
  · rintro ⟨source, destination, _, length, _⟩
    refine ⟨?_, length⟩
    cases h with
    | mk raw data =>
      cases data with
      | mk sourcePort destinationPort =>
        rw [UdpHeaderData.ofRaw, UdpHeaderData.mk.injEq]
        exact ⟨source.symm, destination.symm⟩
  · rintro ⟨data, length⟩
    have same := congrArg TransportHeaderData.udp data
    exact ⟨congrArg TransportHeaderData.sourcePort same.symm, congrArg TransportHeaderData.destinationPort same.symm,
      rfl, length, Nat.le_of_eq length.symm⟩

/-- A TCP header parses when the bytes that hold its ports and its offset are those of one that does. -/
theorem Parses.tcp_congr {h h' : TcpHeader} (parses : (tcp h).Parses) (length : h'.raw.length = h.raw.length)
    (same : (TcpHeaderData.ofRaw h'.raw).sourcePort = (TcpHeaderData.ofRaw h.raw).sourcePort ∧
      (TcpHeaderData.ofRaw h'.raw).destinationPort = (TcpHeaderData.ofRaw h.raw).destinationPort ∧
      (TcpHeaderData.ofRaw h'.raw).headerLength = (TcpHeaderData.ofRaw h.raw).headerLength)
    (data : h'.data.sourcePort = h.data.sourcePort ∧ h'.data.destinationPort = h.data.destinationPort ∧
      h'.data.headerLength = h.data.headerLength) : (tcp h').Parses :=
  ⟨same.1.trans (parses.sourcePort.trans data.1.symm),
    same.2.1.trans (parses.destinationPort.trans data.2.1.symm),
    same.2.2.trans (parses.headerLength.trans data.2.2.symm),
    length.trans (parses.length.trans (congrArg UInt8.toNat data.2.2.symm)),
    Nat.le_trans parses.least (Nat.le_of_eq length.symm)⟩

theorem Parses.setPayloadLength {h : TransportHeader} (parses : h.Parses) (n : UInt16) :
    (h.setPayloadLength n).Parses := by
  cases h with
  | tcp h => exact parses
  | udp h =>
    obtain ⟨data, length⟩ := parses_udp.mp parses
    refine parses_udp.mpr ⟨?_, (length_writeU16 ..).trans length⟩
    simp only [UdpHeader.setPayloadLength, UdpHeaderData.ofRaw]
    rw [u16At_writeU16_other (by omega) (by omega), u16At_writeU16_other (by omega) (by omega), data,
      UdpHeaderData.ofRaw]

theorem Parses.updateChecksum {h : TransportHeader} (parses : h.Parses) (ip : IpHeaderData)
    (payload : List UInt8) : (h.updateChecksum ip payload).Parses := by
  cases h with
  | tcp h =>
    have long : 20 ≤ h.raw.length := parses.least
    have same : TcpHeaderData.ofRaw (h.updateChecksum ip payload).raw = .ofRaw h.raw :=
      TcpHeaderData.ofRaw_congr fun i inside =>
        TcpHeader.byteAt_updateChecksum_other (by omega) (by omega) (by omega)
    have data : (h.updateChecksum ip payload).data = h.data := by cases ip <;> rfl
    exact parses.tcp_congr (TcpHeader.length_raw_updateChecksum h ip payload)
      ⟨by rw [same], by rw [same], by rw [same]⟩ ⟨by rw [data], by rw [data], by rw [data]⟩
  | udp h =>
    obtain ⟨data, length⟩ := parses_udp.mp parses
    refine parses_udp.mpr ⟨?_, (length_writeU16 ..).trans length⟩
    simp only [UdpHeader.updateChecksum, UdpHeaderData.ofRaw]
    rw [u16At_writeU16_other (by omega) (by omega), u16At_writeU16_other (by omega) (by omega), data,
      UdpHeaderData.ofRaw]

/-- The ports change places, in the bytes and in the data. -/
theorem Parses.swap {h out : TransportHeader} (parses : h.Parses)
    (swapped : h.swapSourceAndDestination = .ok out) :
    out.Parses ∧ out.data.sourcePort = h.data.destinationPort ∧ out.data.destinationPort = h.data.sourcePort ∧
      out.data.protocol = h.data.protocol := by
  cases h with
  | tcp h =>
    obtain ⟨h', swap, same⟩ := bind_ok swapped
    cases same
    obtain ⟨raw, inner, same⟩ := bind_ok swap
    cases same
    refine ⟨⟨?_, ?_, ?_, ?_, ?_⟩, rfl, rfl, rfl⟩
    · exact (u16At_swapPorts inner).1.trans parses.destinationPort
    · exact (u16At_swapPorts inner).2.trans parses.sourcePort
    · refine Eq.trans ?_ parses.headerLength
      have offset : u16At raw 12 = u16At h.raw 12 := by
        rw [u16At, u16At, byteAt_swapRange_after inner (by omega) (by omega),
          byteAt_swapRange_after inner (by omega) (by omega)]
      exact congrArg (fun word : UInt16 => ((word &&& (0xF000 : UInt16)) >>> 10).toUInt8) offset
    · exact (length_swapRange inner).trans parses.length
    · exact Nat.le_trans parses.least (Nat.le_of_eq (length_swapRange inner).symm)
  | udp h =>
    obtain ⟨h', swap, same⟩ := bind_ok swapped
    cases same
    obtain ⟨raw, inner, same⟩ := bind_ok swap
    cases same
    obtain ⟨data, length⟩ := parses_udp.mp parses
    refine ⟨parses_udp.mpr ⟨?_, (length_swapRange inner).trans length⟩, rfl, rfl, rfl⟩
    rw [UdpHeaderData.ofRaw, (u16At_swapPorts inner).1, (u16At_swapPorts inner).2, data, UdpHeaderData.ofRaw]

end TransportHeader

/-! ### Packets put together from headers -/

/-- The number of bytes that an IP header states. -/
def IpHeaderData.statedLength : IpHeaderData → Nat
  | v4 d => d.totalLength.toNat
  | v6 d => 40 + d.payloadLength.toNat

theorem isEmpty_eq_false {raw rest : List UInt8} (some : 0 < raw.length) : ¬ (raw ++ rest).isEmpty = true := by
  rw [List.isEmpty_iff, List.append_eq_nil_iff]
  rintro ⟨rfl, _⟩
  exact absurd some (Nat.lt_irrefl 0)

section Packet
variable {ip : IpHeader} {transport : TransportHeader} {payload : List UInt8}

theorem parse_transport_append (parses : transport.Parses) (payload : List UInt8) :
    TransportHeaderData.parse transport.data.protocol (transport.raw ++ payload) =
      .ok (some (transport.data.reread transport.raw)) := by
  cases transport with
  | tcp h =>
    have long : 20 ≤ h.raw.length := parses.least
    have same : TcpHeaderData.ofRaw (h.raw ++ payload) = .ofRaw h.raw :=
      TcpHeaderData.ofRaw_congr fun i inside => byteAt_append_left (by omega)
    have parsed : TcpHeaderData.parse (h.raw ++ payload) = .ok (.ofRaw h.raw) := by
      rw [TcpHeaderData.parse_eq, if_pos (by rw [List.length_append]; omega), same]
    simp only [TransportHeader.data, TransportHeader.raw, TransportHeaderData.protocol, TransportHeaderData.parse,
      TransportHeaderData.reread, parsed, ok_bind]
    rfl
  | udp h =>
    have long : 8 ≤ h.raw.length := parses.least
    have same : UdpHeaderData.ofRaw (h.raw ++ payload) = .ofRaw h.raw := by
      rw [UdpHeaderData.ofRaw, UdpHeaderData.ofRaw, u16At_append_left (by omega), u16At_append_left (by omega)]
    have parsed : UdpHeaderData.parse (h.raw ++ payload) = .ok (.ofRaw h.raw) := by
      rw [UdpHeaderData.parse_eq, if_pos (by rw [List.length_append]; omega), same]
    simp only [TransportHeader.data, TransportHeader.raw, TransportHeaderData.protocol, TransportHeaderData.parse,
      TransportHeaderData.reread, parsed, ok_bind]
    rfl

/-- The headers of a packet agree on the protocol, and state the bytes that are there. -/
structure Assembled (ip : IpHeader) (transport : TransportHeader) (payload : List UInt8) : Prop where
  ipParses : ip.Parses
  transportParses : transport.Parses
  protocol : ip.data.protocol = transport.data.protocol
  stated : ip.data.statedLength = ip.raw.length + (transport.raw.length + payload.length)
  fits : ip.data.statedLength < 65536

theorem parse_assembled [Build] (assembled : Assembled ip transport payload) :
    IpPacket.parse (ip.raw ++ (transport.raw ++ payload)) = .ok (some {
      raw := ip.raw ++ (transport.raw ++ payload)
      ipHeaderData := ip.data
      transportHeaderData := some (transport.data.reread transport.raw) }) := by
  obtain ⟨hip, htransport, protocol, stated, fits⟩ := assembled
  have parsed := parse_transport_append htransport payload
  rw [← protocol] at parsed
  have whole : (ip.raw ++ (transport.raw ++ payload)).length = ip.data.statedLength := by
    rw [List.length_append, List.length_append, stated]
  cases ip with
  | v4 h =>
    obtain ⟨data, version, length, least⟩ := IpHeader.parses_v4.mp hip
    simp only [IpHeader.raw, IpHeader.data, IpHeaderData.protocol, IpHeaderData.statedLength] at *
    have header : Ipv4HeaderData.parse (h.raw ++ (transport.raw ++ payload)) = .ok h.data := by
      rw [Ipv4HeaderData.parse_eq, if_pos (by rw [List.length_append]; omega),
        Ipv4HeaderData.ofRaw_append least, ← data]
    have rest : sliceFrom (h.raw ++ (transport.raw ++ payload)) h.data.headerLength.toNat =
        .ok (transport.raw ++ payload) := by
      rw [sliceFrom, if_pos (by rw [List.length_append]; omega), List.drop_left' length]
    have all : sliceTo (h.raw ++ (transport.raw ++ payload)) h.data.totalLength.toNat =
        .ok (h.raw ++ (transport.raw ++ payload)) := by
      rw [sliceTo, if_pos (by omega), List.take_of_length_le (by omega)]
    rw [IpPacket.parse, if_neg (isEmpty_eq_false (by omega)),
      byteAt_append_left (by omega), if_pos version, IpPacket.parseV4, header, ok_bind, rest, ok_bind, parsed, ok_bind,
      all, ok_bind]
    rfl
  | v6 h =>
    obtain ⟨data, version, length⟩ := IpHeader.parses_v6.mp hip
    simp only [IpHeader.raw, IpHeader.data, IpHeaderData.protocol, IpHeaderData.statedLength] at *
    have header : Ipv6HeaderData.parse (h.raw ++ (transport.raw ++ payload)) = .ok h.data := by
      rw [Ipv6HeaderData.parse_eq, if_pos (by rw [List.length_append]; omega),
        Ipv6HeaderData.ofRaw_append (by omega), ← data]
    obtain ⟨added, total⟩ := addU16_ok (a := ipv6HeaderLength.toUInt16) (b := h.data.payloadLength) fits
    have forty : ipv6HeaderLength.toUInt16.toNat = 40 := rfl
    have rest : slice (h.raw ++ (transport.raw ++ payload)) ipv6HeaderLength.toNat
        (ipv6HeaderLength.toUInt16 + h.data.payloadLength).toNat = .ok (transport.raw ++ payload) := by
      have index : ipv6HeaderLength.toNat = 40 := rfl
      rw [slice, if_pos (by omega), List.take_of_length_le (by omega), List.drop_left' (by omega)]
    have all : sliceTo (h.raw ++ (transport.raw ++ payload))
        (ipv6HeaderLength.toUInt16 + h.data.payloadLength).toNat = .ok (h.raw ++ (transport.raw ++ payload)) := by
      rw [sliceTo, if_pos (by omega), List.take_of_length_le (by omega)]
    rw [IpPacket.parse, if_neg (isEmpty_eq_false (by omega)), byteAt_append_left (by omega),
      if_neg (by rw [version]; decide), if_pos version, IpPacket.parseV6, header, ok_bind,
      Ipv6HeaderData.checkedTotalLength, added, ok_bind, rest, ok_bind, parsed, ok_bind, all, ok_bind]
    rfl

/-- The version and the length found at the front of a buffer are those of the first packet in it. -/
theorem packetInfo_assembled [Build] (assembled : Assembled ip transport payload) (rest : List UInt8) :
    ∃ length : UInt16, length.toNat = ip.data.statedLength ∧
      packetInfo (ip.raw ++ (transport.raw ++ payload) ++ rest) = .ok (some (ip.data.version, length)) := by
  obtain ⟨hip, htransport, protocol, stated, fits⟩ := assembled
  have whole : ip.data.statedLength ≤ (ip.raw ++ (transport.raw ++ payload) ++ rest).length := by
    rw [List.length_append, List.length_append, List.length_append]
    omega
  rw [List.append_assoc] at whole ⊢
  cases ip with
  | v4 h =>
    obtain ⟨data, version, length, least⟩ := IpHeader.parses_v4.mp hip
    refine ⟨h.data.totalLength, rfl, ?_⟩
    simp only [IpHeader.raw, IpHeader.data, IpHeaderData.statedLength, IpHeaderData.version] at *
    have total : u16At (h.raw ++ (transport.raw ++ payload ++ rest)) 2 = h.data.totalLength := by
      rw [u16At_append_left (by omega), data, Ipv4HeaderData.ofRaw]
    rw [packetInfo, if_neg (by rw [List.length_append]; omega), byteAt_append_left (by omega), if_pos version, total,
      if_pos whole]
  | v6 h =>
    obtain ⟨data, version, length⟩ := IpHeader.parses_v6.mp hip
    simp only [IpHeader.raw, IpHeader.data, IpHeaderData.statedLength, IpHeaderData.version] at *
    have forty : (40 : UInt16).toNat = 40 := rfl
    obtain ⟨added, total⟩ := addU16_ok (a := h.data.payloadLength) (b := 40) (by omega)
    refine ⟨h.data.payloadLength + 40, by omega, ?_⟩
    have payloadLength : u16At (h.raw ++ (transport.raw ++ payload ++ rest)) 4 = h.data.payloadLength := by
      rw [u16At_append_left (by omega), data, Ipv6HeaderData.ofRaw]
    rw [packetInfo, if_neg (by rw [List.length_append]; omega), byteAt_append_left (by omega),
      if_neg (by rw [version]; decide), if_pos version, if_neg (by rw [List.length_append]; omega), payloadLength, added,
      ok_bind, if_pos (by omega)]
    rfl

theorem toNat_and_offset (w : UInt16) : (w &&& (0xF000 : UInt16)).toNat = w.toNat / 4096 * 4096 := by
  have small := w.toNat_lt
  show w.toNat &&& 0xF000 = _
  have shifted : w.toNat / 4096 * 4096 = w.toNat >>> 12 <<< 12 := by
    rw [Nat.shiftRight_eq_div_pow, Nat.shiftLeft_eq]
  rw [shifted]
  apply Nat.eq_of_testBit_eq
  intro i
  rw [Nat.testBit_and, Nat.testBit_shiftLeft, Nat.testBit_shiftRight, show (0xF000 : Nat) = (2 ^ 4 - 1) <<< 12 from rfl,
    Nat.testBit_shiftLeft, Nat.testBit_two_pow_sub_one]
  by_cases high : 12 ≤ i
  · by_cases inside : i < 16
    · simp [high, show i - 12 < 4 by omega]
    · have power : 2 ^ 16 ≤ 2 ^ i := Nat.pow_le_pow_right (by omega) (by omega)
      have zero : w.toNat.testBit i = false := Nat.testBit_lt_two_pow (Nat.lt_of_lt_of_le small power)
      simp [high, zero]
  · simp [high]

/-- The data offset counts 32-bit words. -/
theorem TcpHeaderData.headerLength_ofRaw (raw : List UInt8) :
    ∃ words ≤ 15, (ofRaw raw).headerLength.toNat = 4 * words := by
  have small := (u16At raw 12).toNat_lt
  refine ⟨(u16At raw 12).toNat / 4096, by omega, ?_⟩
  have shifted : ((u16At raw 12 &&& (0xF000 : UInt16)) >>> 10).toNat = (u16At raw 12).toNat / 4096 * 4096 / 2 ^ 10 := by
    rw [← toNat_and_offset]
    exact Nat.shiftRight_eq_div_pow _ 10
  rw [ofRaw, UInt16.toNat_toUInt8, shifted]
  omega

/-- The payload starts behind both headers. -/
theorem payload_assembled (assembled : Assembled ip transport payload) :
    IpPacket.payload {
      raw := ip.raw ++ (transport.raw ++ payload)
      ipHeaderData := ip.data
      transportHeaderData := some (transport.data.reread transport.raw) } = .ok (some payload) := by
  have parses := assembled.transportParses
  have index : ip.data.headerLength.toNat + (transport.data.reread transport.raw).headerLength.toNat =
      (ip.raw ++ transport.raw).length := by
    rw [parses.headerLength, List.length_append, parses.length, assembled.ipParses.length]
    rfl
  have inside : (ip.raw ++ transport.raw).length ≤ (ip.raw ++ transport.raw ++ payload).length :=
    (List.prefix_append _ payload).length_le
  rw [IpPacket.payload]
  dsimp only
  rw [IpPacket.transportIndex]
  dsimp only
  rw [index, ← List.append_assoc, sliceFrom, if_pos inside, List.drop_left]
  rfl

/-- The lengths in the headers of a TCP packet are those that its checksum is computed over. -/
theorem Assembled.consistent {h : TcpHeader} (assembled : Assembled ip (.tcp h) payload) :
    h.Consistent ip.data payload := by
  obtain ⟨ipParses, transportParses, _, stated, fits⟩ := assembled
  have least : 20 ≤ h.raw.length := transportParses.least
  have length : h.raw.length = h.data.headerLength.toNat := transportParses.length
  have headerLength : (TcpHeaderData.ofRaw h.raw).headerLength = h.data.headerLength := transportParses.headerLength
  obtain ⟨words, most, four⟩ := TcpHeaderData.headerLength_ofRaw h.raw
  rw [headerLength] at four
  refine ⟨⟨words, by omega, most, four⟩, length, ?_, ?_⟩
  · have ipLength := ipParses.length
    cases ip with
    | v4 d =>
      have stated : d.data.totalLength.toNat = d.raw.length + (h.raw.length + payload.length) := stated
      have ipLength : d.raw.length = d.data.headerLength.toNat := ipLength
      show d.data.totalLength.toNat - d.data.headerLength.toNat = _
      omega
    | v6 d =>
      have stated : 40 + d.data.payloadLength.toNat = d.raw.length + (h.raw.length + payload.length) := stated
      have ipLength : d.raw.length = 40 := ipLength
      show d.data.payloadLength.toNat = _
      omega
  · cases ip with
    | v4 d => trivial
    | v6 d =>
      obtain ⟨data, _, long⟩ := IpHeader.parses_v6.mp ipParses
      show d.data.source.length = 16 ∧ d.data.destination.length = 16
      rw [data]
      exact Ipv6HeaderData.length_octets (by omega)

end Packet

/-! ### The checksum of an IPv4 header -/

theorem Ipv4HeaderData.four_dvd_headerLength (raw : List UInt8) : (ofRaw raw).headerLength.toNat % 4 = 0 := by
  rw [ofRaw, UInt8.toNat_shiftLeft]
  simp only [UInt8.reduceToNat, Nat.reduceMod, Nat.shiftLeft_eq, Nat.reducePow]
  omega

namespace Ipv4Header

/-- The complement of the sum over all words but the checksum completes the header. -/
theorem fold_setChecksum [Build] {h : Ipv4Header} {words : List Nat} (long : 12 ≤ h.raw.length)
    (few : words.length ≤ 128)
    (sum : wordSum h.raw = (words.map fun i => (u16At h.raw (2 * i)).toNat).sum + (u16At h.raw 10).toNat) :
    fold (wordSum (h.setChecksum (~~~foldCarries
      (words.foldl (fun sum i => sum + (u16At h.raw (2 * i)).toUInt32) (0 : UInt32))).toUInt16).raw) = 65535 := by
  have zero : (0 : UInt32).toNat = 0 := rfl
  have bound := sum_words_le h.raw words
  obtain ⟨_, total⟩ := addWords_spec h.raw words 0 (by omega)
  rw [zero, Nat.zero_add] at total
  generalize words.foldl (fun sum i => sum + (u16At h.raw (2 * i)).toUInt32) (0 : UInt32) = added at total
  obtain ⟨_, folded⟩ := foldCarries_spec added
  have replaced := wordSum_writeU16 h.raw rfl long (~~~foldCarries added).toUInt16
  rw [toNat_complement (by rw [folded]; exact fold_lt _), folded] at replaced
  have written : wordSum (h.setChecksum (~~~foldCarries added).toUInt16).raw =
      added.toNat + (65535 - fold added.toNat) := by
    show wordSum (writeU16 h.raw 10 _) = _
    omega
  rw [written]
  exact fold_complement _

/-- All words of the header, the checksum included, fold to `0xFFFF`. -/
theorem fold_updateChecksum [Build] {h : Ipv4Header} (parses : (IpHeader.v4 h).Parses) :
    fold (wordSum h.updateChecksum.raw) = 65535 := by
  obtain ⟨data, _, length, least⟩ := IpHeader.parses_v4.mp parses
  have four := Ipv4HeaderData.four_dvd_headerLength h.raw
  have small := h.data.headerLength.toNat_lt
  rw [← data] at four
  have split : List.range (h.data.headerLength.toNat / 2) =
      List.range 5 ++ (5 :: (List.range (h.data.headerLength.toNat / 2 - 6)).map (· + 6)) := by
    have parts : List.range (6 + (h.data.headerLength.toNat / 2 - 6)) =
        List.range 6 ++ (List.range (h.data.headerLength.toNat / 2 - 6)).map (6 + ·) := List.range_add
    rw [show 6 + (h.data.headerLength.toNat / 2 - 6) = h.data.headerLength.toNat / 2 by omega] at parts
    rw [parts]
    simp only [Nat.add_comm 6]
    rfl
  refine fold_setChecksum (by omega) ?_ ?_
  · rw [List.length_append, List.length_map, List.length_range, List.length_range]
    omega
  · rw [wordSum_eq_sum (n := h.data.headerLength.toNat / 2) (by omega), split]
    simp only [List.map_append, List.map_cons, List.sum_append, List.sum_cons]
    show _ + ((u16At h.raw 10).toNat + _) = _
    omega

end Ipv4Header

end Gnirehtet.Relay
