import Gnirehtet.Tcp.Action

/-!
# The headers of the packets to the device

A packet to the device carries the TCP header that lies in the packetizer's buffer when it is built.
Building changes only the lengths and the checksums in it, so that what `updateHeaders` set is what
the receiver of the packet reads.
-/

namespace Gnirehtet.Relay
open Lib

/-- The TCP header of a packet as its receiver parses it. -/
def IpPacket.tcp (packet : IpPacket) : TcpHeaderData := .ofRaw (packet.raw.drop packet.transportIndex)

namespace TcpHeader

section Checksum
variable (h : TcpHeader) (long : 20 ≤ h.raw.length)
include long

theorem byteAt_setChecksum {i : Nat} (before : i < 16) (checksum : UInt16) :
    byteAt (h.setChecksum checksum).raw i = byteAt h.raw i :=
  byteAt_writeU16_other (by omega) (Or.inl before)

theorem byteAt_finishChecksum {i : Nat} (before : i < 16) (pseudo : UInt32) (payloadLength : UInt16)
    (payload : List UInt8) : byteAt (h.finishChecksum pseudo payloadLength payload).raw i = byteAt h.raw i := by
  rw [finishChecksum]
  dsimp only
  rw [byteAt_setChecksum _ (by rw [setChecksum, length_writeU16]; exact long) before,
    byteAt_setChecksum h long before]

theorem byteAt_updateChecksum {i : Nat} (before : i < 16) (ip : IpHeaderData) (payload : List UInt8) :
    byteAt (h.updateChecksum ip payload).raw i = byteAt h.raw i := by
  cases ip with
  | v4 ip => exact h.byteAt_finishChecksum long before _ _ payload
  | v6 ip => exact h.byteAt_finishChecksum long before _ _ payload

end Checksum

end TcpHeader

/-- The checksums lie outside what a parser of the TCP header reads. -/
theorem IpPacket.tcp_computeChecksums {p : IpPacket} {data : TcpHeaderData}
    (transport : p.transportHeaderData = some (.tcp data)) (twenty : data.headerLength = 20)
    (inside : p.transportIndex + 20 ≤ p.raw.length) : p.computeChecksums.tcp = p.tcp := by
  have index : p.computeChecksums.transportIndex = p.transportIndex := by
    rw [transportIndex, transportIndex, ipHeaderData_computeChecksums]
  have first : (IpHeader.bind (p.raw.take p.transportIndex) p.ipHeaderData).updateChecksum.raw.length =
      p.transportIndex := by
    rw [IpHeader.length_raw_updateChecksum, IpHeader.raw_bind, List.length_take]
    omega
  have second : ((p.raw.drop p.transportIndex).take 20).length = 20 := by
    rw [List.length_take, List.length_drop]
    omega
  rw [tcp, tcp, index]
  apply TcpHeaderData.ofRaw_congr
  intro i before
  simp only [computeChecksums, transport, TransportHeaderData.headerLength, twenty, UInt8.reduceToNat]
  rw [List.append_assoc, List.drop_left' first, byteAt_append_left (by
    rw [TransportHeader.length_raw_updateChecksum, TransportHeader.raw_bind, second]
    omega), TransportHeader.bind]
  exact (TcpHeader.byteAt_updateChecksum _ (Nat.le_of_eq second.symm) before _ _).trans (byteAt_take (by omega))

namespace Packetizer

/-- The packetizer of a TCP connection: its transport header is one of TCP without options. -/
def CarriesTcp (p : Packetizer) : Prop := ∃ data, p.transportHeaderData = .tcp data ∧ data.headerLength = 20

def tcp (p : Packetizer) : TcpHeaderData := .ofRaw (p.buffer.drop p.transportIndex)

theorem tcp_congr {p p' : Packetizer} (index : p'.transportIndex = p.transportIndex)
    (same : ∀ i < 16, byteAt p'.buffer (p.transportIndex + i) = byteAt p.buffer (p.transportIndex + i)) :
    p'.tcp = p.tcp := by
  rw [tcp, tcp, index]
  apply TcpHeaderData.ofRaw_congr
  intro i before
  rw [byteAt_drop, byteAt_drop, same i before]

theorem byteAt_transportHeader {p : Packetizer} {i : Nat} (inside : p.transportIndex + i < p.payloadIndex) :
    byteAt p.transportHeader.raw i = byteAt p.buffer (p.transportIndex + i) := by
  rw [transportHeader, TransportHeader.raw_bind, byteAt_drop, byteAt_take inside]

theorem byteAt_modifyTransport_inside {p : Packetizer} {edit : TransportHeader → TransportHeader}
    (keep : ∀ h, (edit h).headerLength = h.headerLength) (same : ∀ h, (edit h).raw.length = h.raw.length)
    {i : Nat} (inside : p.transportIndex + i < p.payloadIndex) :
    byteAt (p.modifyTransport edit keep).buffer (p.transportIndex + i) = byteAt (edit p.transportHeader).raw i := by
  have length := p.layout.buffer_length
  have index := p.payloadIndex_lt
  have raw := same p.transportHeader
  rw [length_raw_transportHeader] at raw
  rw [maxPacketLength] at length
  rw [modifyTransport, byteAt_overwrite_inside (by omega) (Nat.le_add_right _ _) (by omega),
    Nat.add_sub_cancel_left]

section Header
variable {p : Packetizer} (carries : p.CarriesTcp)
include carries

theorem CarriesTcp.payloadIndex : p.payloadIndex = p.transportIndex + 20 := by
  obtain ⟨data, transport, twenty⟩ := carries
  rw [p.layout.payload_index, transport, TransportHeaderData.headerLength, twenty]
  rfl

theorem CarriesTcp.writeBuffer (bytes : List UInt8) :
    (p.writeBuffer p.payloadIndex bytes).CarriesTcp := carries

theorem tcp_writeBuffer {bytes : List UInt8} (fits : p.payloadIndex + bytes.length ≤ p.buffer.length) :
    (p.writeBuffer p.payloadIndex bytes).tcp = p.tcp := by
  have index := carries.payloadIndex
  have same : (p.writeBuffer p.payloadIndex bytes).transportIndex = p.transportIndex := rfl
  apply tcp_congr same
  intro i before
  exact byteAt_overwrite_other fits (Or.inl (by omega))

theorem CarriesTcp.setLengths (n : UInt16) : (p.setLengths n).CarriesTcp := by
  obtain ⟨data, transport, twenty⟩ := carries
  refine ⟨data, ?_, twenty⟩
  show ((TransportHeader.bind _ p.transportHeaderData).setPayloadLength n).data = _
  rw [transport]
  rfl

/-- TCP states no lengths, and those of IP lie before its header. -/
theorem tcp_setLengths (n : UInt16) : (p.setLengths n).tcp = p.tcp := by
  have index := carries.payloadIndex
  have length := p.layout.buffer_length
  have small := p.payloadIndex_lt
  have header := p.length_raw_ipHeader
  rw [maxPacketLength] at length
  obtain ⟨data, transport, _⟩ := carries
  have unmoved : (p.setLengths n).transportIndex = p.transportIndex := rfl
  apply tcp_congr unmoved
  intro i before
  let q := p.setTotalLength (p.payloadIndex.toUInt16 + n)
  have edited : byteAt (p.setLengths n).buffer (p.transportIndex + i) =
      byteAt (q.transportHeader.setPayloadLength n).raw i :=
    byteAt_modifyTransport_inside (p := q) (TransportHeader.headerLength_setPayloadLength n)
      (fun h => TransportHeader.length_raw_setPayloadLength h n) (show p.transportIndex + i < p.payloadIndex by omega)
  have same : (q.transportHeader.setPayloadLength n) = q.transportHeader := by
    rw [transportHeader, show q.transportHeaderData = .tcp data from transport]
    rfl
  have outside : byteAt q.buffer (p.transportIndex + i) = byteAt p.buffer (p.transportIndex + i) := by
    apply byteAt_overwrite_other
    · rw [IpHeader.length_raw_setTotalLength, header]
      omega
    · rw [IpHeader.length_raw_setTotalLength, header]
      omega
  have read : byteAt q.transportHeader.raw i = byteAt q.buffer (p.transportIndex + i) :=
    byteAt_transportHeader (show p.transportIndex + i < p.payloadIndex by omega)
  rw [edited, same, read, outside]

/-- A packet cut from the buffer has the header that lies there. -/
theorem tcp_inflate {len : UInt16} (long : p.payloadIndex ≤ len.toNat) : (p.inflate len).tcp = p.tcp := by
  have index := carries.payloadIndex
  have transport : (p.inflate len).transportIndex = p.transportIndex := p.layout.transport_index.symm
  rw [IpPacket.tcp, tcp, transport]
  apply TcpHeaderData.ofRaw_congr
  intro i before
  rw [byteAt_drop, byteAt_drop, inflate, byteAt_take (by omega)]

/-- Building keeps the header, in the packet and in the buffer. -/
theorem tcp_build (n : UInt16) (fits : p.payloadIndex + n.toNat < 65536) :
    (p.build n).2.tcp = p.tcp ∧ (p.build n).1.tcp = p.tcp := by
  have total := p.toNat_length_build n fits
  have raw := p.length_raw_build n fits
  have index := carries.payloadIndex
  have length := (p.setLengths n).layout.buffer_length
  have lengths := carries.setLengths n
  have inflated : ((p.setLengths n).inflate (p.payloadIndex.toUInt16 + n)).tcp = p.tcp := by
    rw [length_build] at total
    rw [tcp_inflate lengths (show p.payloadIndex ≤ _ by omega), tcp_setLengths carries]
  rw [maxPacketLength] at length
  have transport : ((p.setLengths n).inflate (p.payloadIndex.toUInt16 + n)).transportIndex = p.transportIndex :=
    (p.setLengths n).layout.transport_index.symm
  have packet : (p.build n).2.tcp = p.tcp := by
    obtain ⟨data, tcp, twenty⟩ := lengths
    rw [length_build] at total
    rw [build, IpPacket.tcp_computeChecksums (congrArg some tcp) twenty, inflated]
    rw [transport, inflate, List.length_take, total, length]
    omega
  refine ⟨packet, ?_⟩
  rw [← packet, IpPacket.tcp, tcp, show (p.build n).2.transportIndex = p.transportIndex by
    rw [build, IpPacket.transportIndex, IpPacket.ipHeaderData_computeChecksums]
    exact transport]
  apply TcpHeaderData.ofRaw_congr
  intro i before
  rw [byteAt_drop, byteAt_drop]
  exact byteAt_overwrite_inside (show 0 + (p.build n).2.raw.length ≤ (p.setLengths n).buffer.length by omega)
    (Nat.zero_le _) (show p.transportIndex + i < 0 + (p.build n).2.raw.length by omega)

theorem CarriesTcp.build (n : UInt16) : (p.build n).1.CarriesTcp := carries.setLengths n

end Header

end Packetizer

def Effect.packet : Effect → Option IpPacket
  | .appended packet _ => some packet
  | .skipped packet => some packet
  | .deferred packet => some packet
  | _ => none

namespace TcpConnection

/-! ### What `updateHeaders` sets -/

/-- The header of a packet that is built in this state. -/
def header (c : TcpConnection) (flags : UInt16) : TcpHeaderData :=
  { c.networkToClient.tcp with
    sequenceNumber := c.tcb.sequenceNumber
    acknowledgementNumber := c.tcb.acknowledgementNumber
    flags := flags &&& 0x1FF
    window := c.advertisedWindow }

theorem plain_header (c : TcpConnection) {flags : UInt16} (plain : Plain flags) :
    (c.header flags).isSyn = false ∧ (c.header flags).isFin = false := by
  rw [TcpHeaderData.isSyn, TcpHeaderData.isFin, header]
  rcases plain with ack | rst
  · rw [ack]
    exact (by decide : (flagAck &&& 0x1FF &&& flagSyn != 0) = false ∧ (flagAck &&& 0x1FF &&& flagFin != 0) = false)
  · rw [rst]
    exact (by decide : (flagRst &&& 0x1FF &&& flagSyn != 0) = false ∧ (flagRst &&& 0x1FF &&& flagFin != 0) = false)

theorem length_raw_editHeader (tcb : Tcb) (flags window : UInt16) (h : TransportHeader) :
    (editHeader tcb flags window h).raw.length = h.raw.length := by
  cases h <;> simp [editHeader, TransportHeader.raw, TcpHeader.setWindow, TcpHeader.setFlags,
    TcpHeader.setAcknowledgementNumber, TcpHeader.setSequenceNumber]

section Header
variable {c : TcpConnection} (carries : c.networkToClient.CarriesTcp) (flags : UInt16)
include carries

theorem carriesTcp_updateHeaders :
    (updateHeaders c.networkToClient c.tcb flags c.advertisedWindow).CarriesTcp := by
  obtain ⟨data, transport, twenty⟩ := carries
  refine ⟨{ data with
    sequenceNumber := c.tcb.sequenceNumber
    acknowledgementNumber := c.tcb.acknowledgementNumber
    flags
    window := c.advertisedWindow }, ?_, twenty⟩
  show (editHeader c.tcb flags c.advertisedWindow c.networkToClient.transportHeader).data = _
  rw [Packetizer.transportHeader, transport]
  rfl

theorem tcp_updateHeaders :
    (updateHeaders c.networkToClient c.tcb flags c.advertisedWindow).tcp = c.header flags := by
  have index := carries.payloadIndex
  obtain ⟨data, transport, _⟩ := carries
  -- The header as it lies in the buffer before the edit.
  let h : TcpHeader := { raw := c.networkToClient.transportHeader.raw, data }
  have long : 20 ≤ h.raw.length := by
    rw [show h.raw = c.networkToClient.transportHeader.raw from rfl, Packetizer.length_raw_transportHeader]
    omega
  have bound : c.networkToClient.transportHeader = .tcp h := by
    rw [show h = { raw := c.networkToClient.transportHeader.raw, data } from rfl, Packetizer.transportHeader,
      transport]
    rfl
  have before : TcpHeaderData.ofRaw h.raw = c.networkToClient.tcp := by
    apply TcpHeaderData.ofRaw_congr
    intro i inside
    rw [byteAt_drop]
    exact Packetizer.byteAt_transportHeader (by omega)
  have edited : (updateHeaders c.networkToClient c.tcb flags c.advertisedWindow).tcp =
      .ofRaw ((((h.setSequenceNumber c.tcb.sequenceNumber).setAcknowledgementNumber
        c.tcb.acknowledgementNumber).setFlags flags).setWindow c.advertisedWindow).raw := by
    apply TcpHeaderData.ofRaw_congr
    intro i inside
    rw [byteAt_drop]
    refine (Packetizer.byteAt_modifyTransport_inside _ (length_raw_editHeader _ _ _) (by omega)).trans ?_
    rw [bound]
    rfl
  rw [edited, TcpHeader.ofRaw_setWindow _ (by simpa [TcpHeader.setFlags, TcpHeader.setAcknowledgementNumber,
      TcpHeader.setSequenceNumber] using long),
    TcpHeader.ofRaw_setFlags _ (by simpa [TcpHeader.setAcknowledgementNumber, TcpHeader.setSequenceNumber] using long),
    TcpHeader.ofRaw_setAcknowledgementNumber _ (by simpa [TcpHeader.setSequenceNumber] using long),
    TcpHeader.ofRaw_setSequenceNumber h long, before]
  rfl

theorem tcp_createEmptyResponsePacket :
    (createEmptyResponsePacket c.networkToClient c.tcb flags c.advertisedWindow).2.tcp = c.header flags ∧
      (createEmptyResponsePacket c.networkToClient c.tcb flags c.advertisedWindow).1.tcp = c.header flags ∧
      (createEmptyResponsePacket c.networkToClient c.tcb flags c.advertisedWindow).1.CarriesTcp := by
  have updated := carriesTcp_updateHeaders carries flags
  have small := c.networkToClient.payloadIndex_lt
  have fits : (updateHeaders c.networkToClient c.tcb flags c.advertisedWindow).payloadIndex +
      (0 : UInt16).toNat < 65536 := by
    show c.networkToClient.payloadIndex + 0 < 65536
    omega
  have built := Packetizer.tcp_build updated 0 fits
  rw [tcp_updateHeaders carries] at built
  exact ⟨built.1, built.2, updated.build 0⟩

/-- A control packet: it is appended when there is room for its headers, and dropped otherwise. -/
theorem sendEmptyPacketToClient_builds : ∃ buffer packet e, packet.tcp = c.header flags ∧
    packet.raw.length = c.networkToClient.payloadIndex ∧
    e = (if c.networkToClient.payloadIndex ≤ c.buffer.remaining
      then Effect.appended packet c.buffer.remaining else .skipped packet) ∧
    c.sendEmptyPacketToClient flags = { c with
      networkToClient := (createEmptyResponsePacket c.networkToClient c.tcb flags c.advertisedWindow).1
      buffer
      history := c.history ++ [e] } := by
  have built := tcp_createEmptyResponsePacket carries flags
  have fits : (updateHeaders c.networkToClient c.tcb flags c.advertisedWindow).payloadIndex +
      (0 : UInt16).toNat < 65536 := by
    have small := c.networkToClient.payloadIndex_lt
    show c.networkToClient.payloadIndex + 0 < 65536
    omega
  have length : (createEmptyResponsePacket c.networkToClient c.tcb flags c.advertisedWindow).2.length.toNat =
      c.networkToClient.payloadIndex := Packetizer.toNat_length_build _ 0 fits
  have raw : (createEmptyResponsePacket c.networkToClient c.tcb flags c.advertisedWindow).2.raw.length =
      c.networkToClient.payloadIndex := Packetizer.length_raw_build _ 0 fits
  unfold sendEmptyPacketToClient sendPacketToBuffer
  dsimp only
  rw [length]
  by_cases room : c.networkToClient.payloadIndex ≤ c.buffer.remaining
  · rw [if_pos room]
    exact ⟨_, _, _, built.1, raw, (if_pos room).symm, rfl⟩
  · rw [if_neg room]
    exact ⟨_, _, _, built.1, raw, (if_neg room).symm, rfl⟩

theorem sendEmptyPacketToClient_room (room : c.networkToClient.payloadIndex ≤ c.buffer.remaining) :
    ∃ packet, packet.tcp = c.header flags ∧ packet.raw.length = c.networkToClient.payloadIndex ∧
      c.sendEmptyPacketToClient flags = { c with
        networkToClient := (createEmptyResponsePacket c.networkToClient c.tcb flags c.advertisedWindow).1
        buffer := c.buffer.readFrom packet.raw
        history := c.history ++ [Effect.appended packet c.buffer.remaining] } := by
  have fits : (updateHeaders c.networkToClient c.tcb flags c.advertisedWindow).payloadIndex +
      (0 : UInt16).toNat < 65536 := by
    have small := c.networkToClient.payloadIndex_lt
    show c.networkToClient.payloadIndex + 0 < 65536
    omega
  have length : (createEmptyResponsePacket c.networkToClient c.tcb flags c.advertisedWindow).2.length.toNat =
      c.networkToClient.payloadIndex := Packetizer.toNat_length_build _ 0 fits
  refine ⟨_, (tcp_createEmptyResponsePacket carries flags).1, Packetizer.length_raw_build _ 0 fits, ?_⟩
  unfold sendEmptyPacketToClient sendPacketToBuffer
  dsimp only
  rw [length, if_pos room]

end Header

/-! ### The packets of the receive loop -/

theorem packetizeRead_carries {p p' : Packetizer} {answer : ReadAnswer} {size : Nat} {packet : Option IpPacket}
    (carries : p.CarriesTcp) (ok : p.packetizeRead answer (some size) = .ok (p', packet)) (small : size < 60000) :
    p'.CarriesTcp ∧ p'.tcp = p.tcp ∧ ∀ built, packet = some built → built.tcp = p.tcp := by
  have index := p.payloadIndex_lt
  have length := p.layout.buffer_length
  rw [maxPacketLength] at length
  unfold Packetizer.packetizeRead at ok
  cases received : recv answer (some size) (p.buffer.length - p.payloadIndex) with
  | error e => rw [received] at ok; cases ok
  | ok bytes =>
    rw [received] at ok
    have bound := length_recv received
    have written := carries.writeBuffer bytes
    have kept := Packetizer.tcp_writeBuffer carries (show p.payloadIndex + bytes.length ≤ p.buffer.length by omega)
    dsimp only at ok
    split at ok
    · cases ok
      have n : bytes.length.toUInt16.toNat = bytes.length := UInt16.toNat_ofNat_of_lt' (show _ < 65536 by omega)
      obtain ⟨packet, buffer⟩ := Packetizer.tcp_build written bytes.length.toUInt16 (by
        rw [n]
        show p.payloadIndex + _ < _
        omega)
      refine ⟨written.build _, buffer.trans kept, ?_⟩
      intro built same
      rw [← Option.some.inj same, packet, kept]
    · cases ok
      exact ⟨written, kept, fun built none => by cases none⟩

theorem packetizeRead_payloadIndex {p p' : Packetizer} {answer : ReadAnswer} {size : Option Nat}
    {packet : Option IpPacket} (ok : p.packetizeRead answer size = .ok (p', packet)) :
    p'.payloadIndex = p.payloadIndex := by
  unfold Packetizer.packetizeRead at ok
  split at ok
  · cases ok
  · dsimp only at ok
    split at ok <;> cases ok <;> rfl

/-! ### Every state -/

theorem carriesTcp_reply {c : TcpConnection} (carries : c.networkToClient.CarriesTcp) (flags : UInt16) :
    (c.sendEmptyPacketToClient flags).networkToClient.CarriesTcp := by
  rw [networkToClient_sendEmptyPacketToClient]
  exact (tcp_createEmptyResponsePacket carries flags).2.2

theorem carriesTcp_receiveOne {c : TcpConnection} (carries : c.networkToClient.CarriesTcp) (answer : ReadAnswer) :
    (c.receiveOne answer).1.networkToClient.CarriesTcp := by
  have small := c.maxPayload_lt
  have updated := carriesTcp_updateHeaders carries (flagAck ||| flagPsh)
  have turn := c.receiveOne_turn answer
  generalize c.receiveOne answer = result at turn ⊢
  cases turn with
  | sent p packet buffer ok fits => exact (packetizeRead_carries updated ok small).1
  | deferred p packet e ok full => exact (packetizeRead_carries updated ok small).1
  | ended p ok =>
    have read : ({ c with
        networkToClient := p
        tcb.acknowledgementNumber := c.tcb.acknowledgementNumber + 1
        history := c.history ++ [Effect.eof] } : TcpConnection).networkToClient.CarriesTcp :=
      (packetizeRead_carries updated ok small).1
    exact carriesTcp_reply read (flagFin ||| flagAck)
  | blocked => exact updated
  | failed =>
    generalize updateHeaders c.networkToClient c.tcb (flagAck ||| flagPsh) c.advertisedWindow = p at updated
    have reset : ({ c with networkToClient := p } : TcpConnection).networkToClient.CarriesTcp := updated
    exact carriesTcp_reply reset flagRst

theorem carriesTcp_doHandleFin {c : TcpConnection} (carries : c.networkToClient.CarriesTcp) :
    c.doHandleFin.networkToClient.CarriesTcp := by
  have consumed : ({ c with
      tcb.acknowledgementNumber := c.tcb.acknowledgementNumber + 1
      history := c.history ++ [Effect.finConsumed] } : TcpConnection).networkToClient.CarriesTcp := carries
  unfold doHandleFin
  dsimp only
  split_ifs
  · exact carriesTcp_reply consumed (flagFin ||| flagAck)
  · exact carriesTcp_reply consumed flagAck
  · exact carriesTcp_reply consumed flagAck
  · exact consumed

theorem deviceAct_carriesTcp {s : Segment} {c c' : TcpConnection} (carries : c.networkToClient.CarriesTcp)
    (act : DeviceAct s c c') : c'.networkToClient.CarriesTcp := by
  cases act with
  | reply flags plain => exact carriesTcp_reply carries flags
  | consumeFin received drained => exact carriesTcp_doHandleFin carries
  | finAck =>
    unfold handleFinAck
    split_ifs <;> exact carries
  | _ => exact carries

theorem networkAct_carriesTcp {a : PollAnswers} {c c' : TcpConnection} (carries : c.networkToClient.CarriesTcp)
    (act : NetworkAct a c c') : c'.networkToClient.CarriesTcp := by
  cases act with
  | flush _ pending flushed =>
    cases flushes flushed with
    | nothing free => exact carries
    | sent len buffer waiting fits => exact carries
  | reply flags free plain => exact carriesTcp_reply carries flags
  | consumeFin free received drained => exact carriesTcp_doHandleFin carries
  | receive _ turn =>
    obtain ⟨answer, given, free, established, window⟩ := turn
    exact carriesTcp_receiveOne carries answer
  | connect free connecting =>
    have connected : ({ c with tcb.state := .synReceived } : TcpConnection).networkToClient.CarriesTcp := carries
    exact carriesTcp_reply connected (flagSyn ||| flagAck)
  | _ => exact carries

/-- No step puts anything but a TCP header without options in front of the payload. -/
theorem step_carriesTcp (c : TcpConnection) (event : Event) (carries : c.networkToClient.CarriesTcp) :
    (c.step event).networkToClient.CarriesTcp := by
  cases event with
  | packet s random =>
    apply handlePacket_invariant (P := fun c => c.networkToClient.CarriesTcp) _ (fun _ _ => deviceAct_carriesTcp)
    intro c' opens
    cases opens <;> exact carries
  | poll answers =>
    exact acts_invariant (P := fun c => c.networkToClient.CarriesTcp) (fun _ _ => networkAct_carriesTcp)
      (pollSelf_acts c answers) carries
  | shared buffer => exact carries

/-! ### Creation -/

/-- The packetizer of a connection starts with the header of the device's packet, its options cut off. -/
theorem create_carriesTcp {buffer : StreamBuffer} {ipHeader : IpHeader} {transportHeader : TransportHeader}
    {c : TcpConnection} (created : create buffer ipHeader transportHeader = .ok c) :
    c.networkToClient.CarriesTcp := by
  unfold create at created
  cases transportHeader with
  | udp h => cases created
  | tcp h =>
    obtain ⟨shrinked, cut, created⟩ := bind_ok created
    obtain ⟨p, new, same⟩ := bind_ok created
    cases same
    obtain ⟨raw, _, same⟩ := bind_ok cut
    cases same
    show p.CarriesTcp
    unfold Packetizer.new at new
    split at new
    · split at new
      · rename_i swapped _ transportSwap
        cases new
        obtain ⟨h', swap, same⟩ := bind_ok transportSwap
        cases same
        obtain ⟨raw', _, same⟩ := bind_ok swap
        cases same
        exact ⟨_, rfl, rfl⟩
      · cases new
      · cases new
    · cases new

end TcpConnection

end Gnirehtet.Relay
