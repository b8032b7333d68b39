import Gnirehtet.Relay.Build

/-!
# Packets built from a reference packet

A packetizer starts with the headers of a reference packet turned round. Whatever is built
afterwards, its headers stay those of the reference packet turned round, and so a packet parses back
to the ends of the reference packet and to its own payload.
-/

namespace Gnirehtet.Relay
open Lib

/-! ### The reference packet -/

section Reference
variable {reference : List UInt8} {packet : IpPacket} {ip : IpHeader} {transport : TransportHeader}

theorem headers_ok (headers : packet.headers = .ok (ip, some transport)) :
    ∃ data, packet.transportHeaderData = some data ∧ packet.transportIndex ≤ packet.raw.length ∧
      packet.transportIndex + data.headerLength.toNat ≤ packet.raw.length ∧
      ip = .bind (packet.raw.take packet.transportIndex) packet.ipHeaderData ∧
      transport = .bind ((packet.raw.drop packet.transportIndex).take data.headerLength.toNat) data := by
  unfold IpPacket.headers at headers
  obtain ⟨ipSlice, sliced, headers⟩ := bind_ok headers
  obtain ⟨same, inside⟩ := sliceTo_ok sliced
  cases data : packet.transportHeaderData with
  | none => rw [data] at headers; cases headers
  | some data' =>
    rw [data] at headers
    obtain ⟨rest, slicedFrom, headers⟩ := bind_ok headers
    obtain ⟨transportSlice, slicedTo, headers⟩ := bind_ok headers
    cases headers
    obtain ⟨same', inside'⟩ := sliceTo_ok slicedTo
    unfold sliceFrom at slicedFrom
    rw [if_pos inside] at slicedFrom
    cases slicedFrom
    rw [List.length_drop] at inside'
    exact ⟨data', rfl, inside, by omega, by rw [same], by rw [same']⟩

theorem IpHeaderData.reread_take (d : IpHeaderData) {raw : List UInt8} {n : Nat} (long : d.minHeaderLength ≤ n) :
    d.reread (raw.take n) = d.reread raw := by
  cases d with
  | v4 d =>
    have long : 20 ≤ n := long
    exact congrArg IpHeaderData.v4 (Ipv4HeaderData.ofRaw_congr fun i _ _ _ => byteAt_take (by omega))
  | v6 d =>
    have long : 40 ≤ n := long
    rw [reread, reread, Ipv6HeaderData.ofRaw, Ipv6HeaderData.ofRaw, u16At_take (by omega), byteAt_take (by omega),
      byteAt_take (by omega), List.take_take, List.take_take, Nat.min_eq_left (by omega), Nat.min_eq_left long]

theorem TransportHeaderData.reread_take (d : TransportHeaderData) {raw : List UInt8} {n : Nat}
    (long : d.minHeaderLength ≤ n) : d.reread (raw.take n) = d.reread raw := by
  cases d with
  | tcp d =>
    have long : 20 ≤ n := long
    exact congrArg TransportHeaderData.tcp (TcpHeaderData.ofRaw_congr fun i _ => byteAt_take (by omega))
  | udp d =>
    have long : 8 ≤ n := long
    rw [reread, reread, UdpHeaderData.ofRaw, UdpHeaderData.ofRaw, u16At_take (by omega), u16At_take (by omega)]

theorem TransportHeaderData.parse_ok {protocol : Protocol} {raw : List UInt8} {data : TransportHeaderData}
    (parsed : parse protocol raw = .ok (some data)) : data.protocol = protocol ∧ data = data.reread raw := by
  unfold parse at parsed
  cases protocol with
  | udp =>
    obtain ⟨d, read, same⟩ := bind_ok parsed
    cases same
    rw [UdpHeaderData.parse_eq] at read
    split at read
    · cases read; exact ⟨rfl, rfl⟩
    · cases read
  | tcp =>
    obtain ⟨d, read, same⟩ := bind_ok parsed
    cases same
    rw [TcpHeaderData.parse_eq] at read
    split at read
    · cases read; exact ⟨rfl, rfl⟩
    · cases read
  | icmp => cases parsed
  | other => cases parsed

/-- What parsing makes of the bytes of a packet with a transport header. -/
structure ParsedFrom (reference : List UInt8) (packet : IpPacket) (data : TransportHeaderData) : Prop where
  ip : packet.ipHeaderData = packet.ipHeaderData.reread reference
  version : byteAt reference 0 >>> 4 = packet.ipHeaderData.version
  raw : ∃ total, packet.raw = reference.take total
  protocol : data.protocol = packet.ipHeaderData.protocol
  transport : data = data.reread (reference.drop packet.transportIndex) ∨
    data = data.reread (packet.raw.drop packet.transportIndex)

theorem parsedFrom [Build] {data : TransportHeaderData} (parsed : IpPacket.parse reference = .ok (some packet))
    (valid : packet.transportHeaderData = some data) : ParsedFrom reference packet data := by
  unfold IpPacket.parse at parsed
  split at parsed
  · cases parsed
  split at parsed
  · rename_i four
    obtain ⟨p, parsed, same⟩ := bind_ok parsed
    cases same
    obtain ⟨d, header, parsed⟩ := bind_ok parsed
    obtain ⟨rest, from_header, parsed⟩ := bind_ok parsed
    obtain ⟨transport, read, parsed⟩ := bind_ok parsed
    obtain ⟨whole, sliced, same⟩ := bind_ok parsed
    cases same
    cases valid
    rw [Ipv4HeaderData.parse_eq] at header
    split at header
    · cases header
      unfold sliceFrom at from_header
      split at from_header
      · cases from_header
        obtain ⟨protocol, data⟩ := TransportHeaderData.parse_ok read
        exact ⟨rfl, four, ⟨_, (sliceTo_ok sliced).1⟩, protocol, Or.inl data⟩
      · cases from_header
    · cases header
  · split at parsed
    · rename_i six
      obtain ⟨p, parsed, same⟩ := bind_ok parsed
      cases same
      obtain ⟨d, header, parsed⟩ := bind_ok parsed
      obtain ⟨total, _, parsed⟩ := bind_ok parsed
      obtain ⟨rest, from_header, parsed⟩ := bind_ok parsed
      obtain ⟨transport, read, parsed⟩ := bind_ok parsed
      obtain ⟨whole, sliced, same⟩ := bind_ok parsed
      cases same
      cases valid
      rw [Ipv6HeaderData.parse_eq] at header
      split at header
      · cases header
        obtain ⟨protocol, data⟩ := TransportHeaderData.parse_ok read
        rw [(slice_ok from_header).1, ← (sliceTo_ok sliced).1] at data
        exact ⟨rfl, six, ⟨_, (sliceTo_ok sliced).1⟩, protocol, Or.inr data⟩
      · cases header
    · cases parsed

/-- The headers of a parsed packet parse back, when they are as long as those of their kinds. -/
theorem headers_parse [Build] (parsed : IpPacket.parse reference = .ok (some packet))
    (headers : packet.headers = .ok (ip, some transport)) (ihl : ip.data.minHeaderLength ≤ ip.headerLength.toNat)
    (offset : transport.data.minHeaderLength ≤ transport.headerLength.toNat) :
    ip.Parses ∧ transport.Parses ∧ ip.data.protocol = transport.data.protocol := by
  obtain ⟨data, valid, inside, reach, rfl, rfl⟩ := headers_ok headers
  obtain ⟨ipData, version, ⟨total, raw⟩, protocol, transportData⟩ := parsedFrom parsed valid
  simp only [IpHeader.headerLength, TransportHeader.headerLength, IpHeader.data_bind, TransportHeader.data_bind] at *
  have index : packet.transportIndex = packet.ipHeaderData.headerLength.toNat := rfl
  have least : 20 ≤ packet.ipHeaderData.minHeaderLength := by
    cases packet.ipHeaderData <;> simp [IpHeaderData.minHeaderLength]
  have within : packet.transportIndex ≤ total := by
    rw [raw, List.length_take] at inside
    omega
  have first : byteAt packet.raw 0 = byteAt reference 0 := by
    rw [raw, byteAt_take (by omega)]
  refine ⟨⟨?_, ?_, ?_, ?_⟩, ?_, protocol.symm⟩
  · rw [IpHeader.data_bind, IpHeader.raw_bind, IpHeaderData.reread_take _ (show _ ≤ packet.transportIndex from ihl), raw,
      IpHeaderData.reread_take _ (by omega), ← ipData]
  · rw [IpHeader.data_bind, IpHeader.raw_bind, byteAt_take (by omega), first, version]
  · rw [IpHeader.raw_bind, IpHeader.headerLength, IpHeader.data_bind, List.length_take, Nat.min_eq_left inside]
    rfl
  · rw [IpHeader.data_bind, IpHeader.raw_bind, List.length_take, Nat.min_eq_left inside]
    exact ihl
  · have long : ((packet.raw.drop packet.transportIndex).take data.headerLength.toNat).length =
        data.headerLength.toNat := by
      rw [List.length_take, List.length_drop]
      omega
    have read : data.reread ((packet.raw.drop packet.transportIndex).take data.headerLength.toNat) = data := by
      rw [TransportHeaderData.reread_take _ offset]
      rcases transportData with data' | data'
      · rw [raw, List.drop_take, TransportHeaderData.reread_take, ← data']
        rw [raw, List.length_take] at reach
        omega
      · exact data'.symm
    refine ⟨?_, ?_, ?_, ?_, ?_⟩
    · rw [TransportHeader.data_bind, TransportHeader.raw_bind, read]
    · rw [TransportHeader.data_bind, TransportHeader.raw_bind, read]
    · rw [TransportHeader.data_bind, TransportHeader.raw_bind, read]
    · rw [TransportHeader.raw_bind, TransportHeader.headerLength, TransportHeader.data_bind, long]
    · rw [TransportHeader.data_bind, TransportHeader.raw_bind, long]
      exact offset

end Reference

/-! ### Turned round -/

namespace Packetizer
variable {p : Packetizer} {ip : IpHeader} {transport : TransportHeader}

/-- The headers of the packetizer are those of the reference packet with their ends swapped. -/
structure Turned (ip : IpHeader) (transport : TransportHeader) (p : Packetizer) : Prop where
  parses : p.Parses
  transportIndex : p.transportIndex = ip.headerLength.toNat
  payloadIndex : p.payloadIndex = ip.headerLength.toNat + transport.headerLength.toNat
  version : p.ipHeaderData.version = ip.data.version
  protocol : p.transportHeaderData.protocol = transport.data.protocol
  source : p.ipHeaderData.source = ip.data.destination
  destination : p.ipHeaderData.destination = ip.data.source
  sourcePort : p.transportHeaderData.sourcePort = transport.data.destinationPort
  destinationPort : p.transportHeaderData.destinationPort = transport.data.sourcePort

/-- A new packetizer holds the swapped headers in front of zeros. -/
theorem new_parts (created : new ip transport = .ok p) :
    ip.swapSourceAndDestination = .ok p.ipHeader ∧
      transport.swapSourceAndDestination = .ok p.transportHeader ∧
      p.buffer.drop p.payloadIndex = List.replicate (maxPacketLength - p.payloadIndex) 0 := by
  unfold new at created
  split at created
  · rename_i copied
    split at created
    · rename_i ipHeader transportHeader ipSwap transportSwap
      have same := Except.ok.inj created
      have first := (IpHeader.swapped ipSwap).length
      have second := (TransportHeader.swap_length transportSwap).1
      have buffer : p.buffer = ipHeader.raw ++ (transportHeader.raw ++
          List.replicate (maxPacketLength - (ipHeader.raw.length + transportHeader.raw.length)) 0) := by
        rw [← List.append_assoc, ← same]
      have ipData : p.ipHeaderData = ipHeader.data := by rw [← same]
      have transportData : p.transportHeaderData = transportHeader.data := by rw [← same]
      have transportIndex : p.transportIndex = ip.headerLength.toNat := by rw [← same]
      have payloadIndex : p.payloadIndex = ip.headerLength.toNat + transport.headerLength.toNat := by rw [← same]
      obtain ⟨ip', transport', rest⟩ := parts_of_buffer buffer (by rw [first, copied.1, transportIndex])
        (by rw [second, copied.2, transportIndex, payloadIndex])
      rw [ip', transport', rest, ipData, transportData, IpHeader.bind_eq, TransportHeader.bind_eq, first, second,
        copied.1, copied.2, ← payloadIndex]
      exact ⟨ipSwap, transportSwap, rfl⟩
    · cases created
    · cases created
  · cases created

theorem new_turned (ipParses : ip.Parses) (transportParses : transport.Parses)
    (protocol : ip.data.protocol = transport.data.protocol) (created : new ip transport = .ok p) :
    p.Turned ip transport := by
  obtain ⟨ipSwap, transportSwap, _⟩ := new_parts created
  obtain ⟨ip', source, destination, protocol', version⟩ := ipParses.swap ipSwap
  obtain ⟨transport', sourcePort, destinationPort, protocol''⟩ := transportParses.swap transportSwap
  have headerLength := (IpHeader.swapped ipSwap).headerLength
  rw [data_ipHeader] at source destination protocol' version
  rw [data_transportHeader] at sourcePort destinationPort protocol''
  refine ⟨⟨ip', transport', by rw [protocol', protocol'', protocol]⟩, ?_, new_payloadIndex created, version, protocol'',
    source, destination, sourcePort, destinationPort⟩
  rw [p.layout.transport_index, ← headerLength, IpHeader.headerLength, data_ipHeader]

/-- A packetizer can be made of any two headers that parse back. -/
theorem new_total (ipParses : ip.Parses) (transportParses : transport.Parses) : ∃ p, new ip transport = .ok p := by
  rw [new_isOk]
  refine ⟨⟨ipParses.length, transportParses.length⟩, ipParses.least, Nat.le_trans ?_ transportParses.least⟩
  cases transport.data <;> simp [TransportHeaderData.minHeaderLength]

namespace Turned
variable (turned : p.Turned ip transport)
include turned

theorem build {n : UInt16} (fits : p.payloadIndex + n.toNat < 65536) : (p.build n).1.Turned ip transport := by
  obtain ⟨ip', transport', _⟩ := p.parts_build n fits
  have ipData : (p.build n).1.ipHeaderData = (p.ipHeader.setTotalLength (p.payloadIndex.toUInt16 + n)).data := rfl
  have transportData : (p.build n).1.transportHeaderData = p.transportHeaderData := by
    rw [← data_transportHeader, transport', builtTransportHeader, TransportHeader.data_updateChecksum,
      TransportHeader.data_setPayloadLength, data_transportHeader]
  have kept : (p.build n).1.ipHeaderData.version = p.ipHeaderData.version ∧
      (p.build n).1.ipHeaderData.source = p.ipHeaderData.source ∧
      (p.build n).1.ipHeaderData.destination = p.ipHeaderData.destination := by
    rw [ipData, ← data_ipHeader p]
    cases p.ipHeader <;> exact ⟨rfl, rfl, rfl⟩
  exact ⟨turned.parses.build fits, turned.transportIndex, turned.payloadIndex, kept.1.trans turned.version,
    by rw [transportData]; exact turned.protocol, kept.2.1.trans turned.source, kept.2.2.trans turned.destination,
    by rw [transportData]; exact turned.sourcePort, by rw [transportData]; exact turned.destinationPort⟩

theorem writeBuffer {bytes : List UInt8} (fits : p.payloadIndex + bytes.length ≤ p.buffer.length) :
    (p.writeBuffer p.payloadIndex bytes).Turned ip transport := by
  obtain ⟨ip', transport', _⟩ := parts_writeBuffer fits
  have parses : (p.writeBuffer p.payloadIndex bytes).Parses :=
    ⟨by rw [ip']; exact turned.parses.ip, by rw [transport']; exact turned.parses.transport, turned.parses.protocol⟩
  exact ⟨parses, turned.transportIndex, turned.payloadIndex, turned.version, turned.protocol, turned.source,
    turned.destination, turned.sourcePort, turned.destinationPort⟩

end Turned

end Packetizer

/-! ### What the receiver makes of a packet -/

/-- A packet with `payload`, built for the sender of the reference packet. -/
structure AnswersReference [Build] (ip : IpHeader) (transport : TransportHeader) (payload : List UInt8) (packet : IpPacket) :
    Prop where
  /-- It parses, and states its lengths. -/
  parsed : ∃ q data, IpPacket.parse packet.raw = .ok (some q) ∧ q.raw = packet.raw ∧
    q.transportHeaderData = some data ∧ data.protocol = transport.data.protocol ∧
    q.ipHeaderData.source = ip.data.destination ∧ q.ipHeaderData.destination = ip.data.source ∧
    data.sourcePort = transport.data.destinationPort ∧ data.destinationPort = transport.data.sourcePort ∧
    q.ipHeaderData.statedLength = ip.headerLength.toNat + transport.headerLength.toNat + payload.length ∧
    q.payload = .ok (some payload)
  udpLength : transport.data.protocol = .udp →
    (u16At packet.raw (ip.headerLength.toNat + 4)).toNat = udpHeaderLength.toNat + payload.length
  /-- At the front of a buffer it is one frame, and taking it leaves what follows. -/
  framed : ∀ (b : IpPacketBuffer) (rest : List UInt8), b.buf.peek = packet.raw ++ rest →
    (∃ length : UInt16, b.availablePacketInfo = .ok (some (ip.data.version, length)) ∧
      length.toNat = packet.raw.length) ∧
    ∃ b', b.next = .ok b' ∧ b'.buf.peek = rest
  headerSum : ip.data.version = 4 → fold (wordSum (packet.raw.take ip.headerLength.toNat)) = 0xFFFF

namespace Packetizer.Turned
variable {p : Packetizer} {ip : IpHeader} {transport : TransportHeader} (turned : p.Turned ip transport)
include turned

theorem headerLength : p.transportHeaderData.headerLength = transport.headerLength := by
  have index := p.layout.payload_index
  have payload := turned.payloadIndex
  have transport := turned.transportIndex
  apply UInt8.toNat.inj
  omega

theorem udpLength_build {n : UInt16} (fits : p.payloadIndex + n.toNat < 65536)
    (udp : transport.data.protocol = .udp) :
    (u16At (p.build n).2.raw (ip.headerLength.toNat + 4)).toNat = udpHeaderLength.toNat + n.toNat := by
  have first := p.length_raw_builtIpHeader n
  have second := p.length_raw_builtTransportHeader n
  have least := turned.parses.transport.least
  have length := turned.parses.transport.length
  have index := p.length_raw_transportHeader
  have from_header := p.transportIndex_ge
  rw [← turned.transportIndex, p.raw_build n fits]
  rw [← turned.protocol, ← data_transportHeader] at udp
  rw [builtTransportHeader] at second ⊢
  cases kind : p.transportHeader with
  | tcp h => rw [kind] at udp; cases udp
  | udp h =>
    rw [kind] at least length second index
    have eight : h.raw.length = 8 := length
    have index : h.raw.length = p.payloadIndex - p.transportIndex := index
    have written : u16At (h.setPayloadLength n).updateChecksum.raw 4 = udpHeaderLength.toUInt16 + n := by
      rw [UdpHeader.updateChecksum, UdpHeader.setPayloadLength]
      dsimp only
      rw [u16At_writeU16_other (by rw [length_writeU16]; omega) (by omega), u16At_writeU16 (by omega)]
    have shifted : u16At ((p.builtIpHeader n).raw ++ (((TransportHeader.udp h).setPayloadLength n).updateChecksum
        (p.builtIpHeader n).data (p.builtPayload n)).raw ++ p.builtPayload n) (p.transportIndex + 4) =
        u16At (h.setPayloadLength n).updateChecksum.raw 4 := by
      rw [u16At_append_left (by rw [List.length_append]; omega), ← u16At_drop, List.drop_left' first]
      rfl
    rw [← List.append_assoc, shifted, written, UInt16.toNat_add, Nat.mod_eq_of_lt]
    · rfl
    · show 8 + n.toNat < 65536
      omega

theorem data_builtIpHeader {n : UInt16} (fits : p.payloadIndex + n.toNat < 65536) :
    (p.builtIpHeader n).data.version = ip.data.version ∧ (p.builtIpHeader n).data.source = ip.data.destination ∧
      (p.builtIpHeader n).data.destination = ip.data.source := by
  have built := turned.build fits
  obtain ⟨ip', _, _⟩ := p.parts_build n fits
  rw [← ip', data_ipHeader]
  exact ⟨built.version, built.source, built.destination⟩

theorem data_builtTransportHeader {n : UInt16} (fits : p.payloadIndex + n.toNat < 65536) :
    (p.builtTransportHeader n).data.protocol = transport.data.protocol ∧
      (p.builtTransportHeader n).data.sourcePort = transport.data.destinationPort ∧
      (p.builtTransportHeader n).data.destinationPort = transport.data.sourcePort := by
  have built := turned.build fits
  obtain ⟨_, transport', _⟩ := p.parts_build n fits
  rw [← transport', data_transportHeader]
  exact ⟨built.protocol, built.sourcePort, built.destinationPort⟩

theorem parsed_build [Build] {n : UInt16} (fits : p.payloadIndex + n.toNat < 65536) :
    ∃ q data, IpPacket.parse (p.build n).2.raw = .ok (some q) ∧ q.raw = (p.build n).2.raw ∧
      q.transportHeaderData = some data ∧ data.protocol = transport.data.protocol ∧
      q.ipHeaderData.source = ip.data.destination ∧ q.ipHeaderData.destination = ip.data.source ∧
      data.sourcePort = transport.data.destinationPort ∧ data.destinationPort = transport.data.sourcePort ∧
      q.ipHeaderData.statedLength = ip.headerLength.toNat + transport.headerLength.toNat + (p.builtPayload n).length ∧
      q.payload = .ok (some (p.builtPayload n)) := by
  have assembled := turned.parses.assembled fits
  have raw := p.raw_build n fits
  obtain ⟨_, source, destination⟩ := turned.data_builtIpHeader fits
  obtain ⟨protocol, sourcePort, destinationPort⟩ := turned.data_builtTransportHeader fits
  have parses := assembled.transportParses
  have parsed := parse_assembled assembled
  have payload := payload_assembled assembled
  rw [← raw] at parsed payload
  refine ⟨_, _, parsed, rfl, rfl, ?_, source, destination, ?_, ?_, ?_, payload⟩
  · rw [← protocol]
    cases (p.builtTransportHeader n).data <;> rfl
  · exact parses.sourcePort.trans sourcePort
  · exact parses.destinationPort.trans destinationPort
  · have index : p.payloadIndex = ip.headerLength.toNat + transport.headerLength.toNat := turned.payloadIndex
    rw [assembled.stated, ← List.length_append, ← List.length_append, ← raw, p.length_raw_build n fits,
      p.length_builtPayload n fits, index]

theorem framed_build [Build] {n : UInt16} (fits : p.payloadIndex + n.toNat < 65536) (b : IpPacketBuffer)
    (rest : List UInt8) (front : b.buf.peek = (p.build n).2.raw ++ rest) :
    (∃ length : UInt16, b.availablePacketInfo = .ok (some (ip.data.version, length)) ∧
      length.toNat = (p.build n).2.raw.length) ∧ ∃ b', b.next = .ok b' ∧ b'.buf.peek = rest := by
  have assembled := turned.parses.assembled fits
  have raw := p.raw_build n fits
  obtain ⟨len, stated, found⟩ := packetInfo_assembled assembled rest
  rw [← raw, ← front, (turned.data_builtIpHeader fits).1] at found
  have all : len.toNat = (p.build n).2.raw.length := by
    rw [stated, assembled.stated, raw, List.length_append, List.length_append]
  obtain ⟨b', next, left, _⟩ := next_of_found found
  refine ⟨⟨len, found, all⟩, b', next, ?_⟩
  rw [left, front, List.drop_left' all.symm]

theorem headerSum_build [Build] {n : UInt16} (fits : p.payloadIndex + n.toNat < 65536) (four : ip.data.version = 4) :
    fold (wordSum ((p.build n).2.raw.take ip.headerLength.toNat)) = 0xFFFF := by
  rw [← turned.transportIndex, p.raw_build n fits, List.take_left' (p.length_raw_builtIpHeader n)]
  rw [← (turned.data_builtIpHeader fits).1, builtIpHeader] at four
  rw [builtIpHeader]
  have before := turned.parses.ip.setTotalLength (p.payloadIndex.toUInt16 + n)
  cases kind : p.ipHeader.setTotalLength (p.payloadIndex.toUInt16 + n) with
  | v4 h =>
    rw [kind] at before
    exact Ipv4Header.fold_updateChecksum before
  | v6 h =>
    rw [kind] at four
    exact absurd (show (6 : UInt8) = 4 from four) (by decide)

theorem answers [Build] {n : UInt16} (fits : p.payloadIndex + n.toNat < 65536) :
    AnswersReference ip transport (p.builtPayload n) (p.build n).2 where
  parsed := turned.parsed_build fits
  udpLength udp := by
    rw [p.length_builtPayload n fits]
    exact turned.udpLength_build fits udp
  framed := turned.framed_build fits
  headerSum := turned.headerSum_build fits

end Packetizer.Turned

end Gnirehtet.Relay
