import Gnirehtet.Tcp.PacketizerHistory

/-!
# Renumbered packets

A packet with other sequence and acknowledgement numbers differs from the original in these fields and
in its checksum. What the packetizer builds from headers that are alike apart from their numbers are
packets of this kind.
-/

namespace Gnirehtet.Relay
open Lib TcpConnection

namespace TcpHeader

def setNumbers (h : TcpHeader) (sequenceNumber acknowledgementNumber : UInt32) : TcpHeader :=
  (h.setSequenceNumber sequenceNumber).setAcknowledgementNumber acknowledgementNumber

/-- The numbers that lie in the header, moved by `k₁` and `k₂`. -/
def renumber (k₁ k₂ : UInt32) (h : TcpHeader) : TcpHeader :=
  h.setNumbers (u32At h.raw 4 + k₁) (u32At h.raw 8 + k₂)

/-- What is left of a header without its numbers and its checksum. -/
def blank (h : TcpHeader) : TcpHeader := (h.setChecksum 0).setNumbers 0 0

/-- `update_headers` on a header of TCP. -/
def edit (tcb : Tcb) (flags window : UInt16) (h : TcpHeader) : TcpHeader :=
  ((h.setNumbers tcb.sequenceNumber tcb.acknowledgementNumber).setFlags flags).setWindow window

section Length
variable (h : TcpHeader)

@[simp] theorem length_setNumbers (s a : UInt32) : (h.setNumbers s a).raw.length = h.raw.length := by
  simp [setNumbers, setSequenceNumber, setAcknowledgementNumber]

@[simp] theorem headerLength_setNumbers (s a : UInt32) :
    (h.setNumbers s a).data.headerLength = h.data.headerLength := rfl

@[simp] theorem headerLength_renumber (k₁ k₂ : UInt32) : (h.renumber k₁ k₂).data.headerLength = h.data.headerLength := by
  rw [renumber, headerLength_setNumbers]

@[simp] theorem length_renumber (k₁ k₂ : UInt32) : (h.renumber k₁ k₂).raw.length = h.raw.length := by
  rw [renumber, length_setNumbers]

@[simp] theorem length_setChecksum (checksum : UInt16) : (h.setChecksum checksum).raw.length = h.raw.length := by
  simp [setChecksum]

@[simp] theorem length_setFlags (flags : UInt16) : (h.setFlags flags).raw.length = h.raw.length := by
  simp [setFlags]

@[simp] theorem length_setWindow (window : UInt16) : (h.setWindow window).raw.length = h.raw.length := by
  simp [setWindow]

@[simp] theorem length_edit (tcb : Tcb) (flags window : UInt16) : (h.edit tcb flags window).raw.length = h.raw.length := by
  simp [edit]

end Length

section Numbers
variable {h : TcpHeader} (long : 20 ≤ h.raw.length)
include long

/-- Both numbers lie side by side. -/
theorem raw_setNumbers (s a : UInt32) : (h.setNumbers s a).raw = overwrite h.raw 4 (beBytes32 s ++ beBytes32 a) := by
  have fits : 4 + (beBytes32 s ++ beBytes32 a).length ≤ h.raw.length := by
    rw [List.length_append, length_beBytes32, length_beBytes32]
    omega
  exact overwrite_append fits

theorem setNumbers_again (s a s' a' : UInt32) : (h.setNumbers s a).setNumbers s' a' = h.setNumbers s' a' := by
  have raw : ((h.setNumbers s a).setNumbers s' a').raw = (h.setNumbers s' a').raw := by
    rw [raw_setNumbers (by rw [length_setNumbers]; exact long), raw_setNumbers long, raw_setNumbers long]
    apply overwrite_again
    · rfl
    · simp only [List.length_append, length_beBytes32]
      omega
  exact congrArg (TcpHeader.mk · _) raw

theorem setChecksum_setNumbers (checksum : UInt16) (s a : UInt32) :
    (h.setNumbers s a).setChecksum checksum = (h.setChecksum checksum).setNumbers s a := by
  rw [setNumbers, setChecksum_setAcknowledgementNumber (by simpa [setSequenceNumber] using long),
    setChecksum_setSequenceNumber long, setNumbers]

/-- A field behind the numbers is set alike before and after them. -/
theorem writeU16_setNumbers {i : Nat} (behind : 12 ≤ i) (inside : i + 2 ≤ h.raw.length) (s a : UInt32) (v : UInt16) :
    writeU16 (h.setNumbers s a).raw i v = (({ h with raw := writeU16 h.raw i v } : TcpHeader).setNumbers s a).raw := by
  rw [raw_setNumbers long, raw_setNumbers (by rw [length_writeU16]; exact long)]
  apply overwrite_comm
  · simp only [List.length_append, length_beBytes32]
    omega
  · exact inside
  · simp only [List.length_append, length_beBytes32]
    omega

theorem setFlags_setNumbers (s a : UInt32) (flags : UInt16) :
    (h.setNumbers s a).setFlags flags = (h.setFlags flags).setNumbers s a := by
  have word : u16At (h.setNumbers s a).raw 12 = u16At h.raw 12 := by
    rw [raw_setNumbers long]
    apply u16At_overwrite_other
    · simp only [List.length_append, length_beBytes32]
      omega
    · simp only [List.length_append, length_beBytes32]
      omega
  have raw := writeU16_setNumbers long (show 12 ≤ 12 by omega) (by omega) s a
    ((u16At h.raw 12 &&& (0xFE00 : UInt16)) ||| (flags &&& (0x1FF : UInt16)))
  rw [setFlags, word]
  exact congrArg (TcpHeader.mk · _) raw

theorem setWindow_setNumbers (s a : UInt32) (window : UInt16) :
    (h.setNumbers s a).setWindow window = (h.setWindow window).setNumbers s a :=
  congrArg (TcpHeader.mk · _) (writeU16_setNumbers long (show 12 ≤ 14 by omega) (by omega) s a window)

theorem edit_eq (tcb : Tcb) (flags window : UInt16) : h.edit tcb flags window =
    ((h.setFlags flags).setWindow window).setNumbers tcb.sequenceNumber tcb.acknowledgementNumber := by
  rw [edit, setFlags_setNumbers long, setWindow_setNumbers (by rw [length_setFlags]; exact long)]

/-- An edited header with given numbers does not depend on the numbers before. -/
theorem setNumbers_edit (tcb : Tcb) (flags window : UInt16) (s a : UInt32) :
    ((h.edit tcb flags window).setChecksum 0).setNumbers s a =
      ((h.blank.setFlags flags).setWindow window).setNumbers s a := by
  have checksum : (h.edit tcb flags window).setChecksum 0 = (h.setChecksum 0).edit tcb flags window := by
    have erased := erased_editHeader tcb flags window (h := .tcp h) long
    exact TransportHeader.tcp.inj erased
  have long' : 20 ≤ (h.setChecksum 0).raw.length := by rw [length_setChecksum]; exact long
  rw [checksum, edit_eq long', setNumbers_again (by simpa using long), blank, setFlags_setNumbers long',
    setWindow_setNumbers (by simpa using long), setNumbers_again (by simpa using long)]

theorem numbers_edit (tcb : Tcb) (flags window : UInt16) (ip : IpHeaderData) (payload : List UInt8) :
    u32At ((h.edit tcb flags window).updateChecksum ip payload).raw 4 = tcb.sequenceNumber ∧
      u32At ((h.edit tcb flags window).updateChecksum ip payload).raw 8 = tcb.acknowledgementNumber := by
  have read : TcpHeaderData.ofRaw ((h.edit tcb flags window).updateChecksum ip payload).raw =
      TcpHeaderData.ofRaw (h.edit tcb flags window).raw := by
    apply TcpHeaderData.ofRaw_congr
    intro i before
    exact byteAt_updateChecksum _ (by rw [length_edit]; exact long) before ip payload
  have edited : TcpHeaderData.ofRaw (h.edit tcb flags window).raw = { TcpHeaderData.ofRaw h.raw with
      sequenceNumber := tcb.sequenceNumber
      acknowledgementNumber := tcb.acknowledgementNumber
      flags := flags &&& 0x1FF
      window } := by
    rw [edit, ofRaw_setWindow _ (by simpa using long), ofRaw_setFlags _ (by simpa using long), setNumbers,
      ofRaw_setAcknowledgementNumber _ (by simpa [setSequenceNumber] using long), ofRaw_setSequenceNumber _ long]
  rw [edited] at read
  exact ⟨congrArg TcpHeaderData.sequenceNumber read, congrArg TcpHeaderData.acknowledgementNumber read⟩

end Numbers

/-! ### Two headers that are alike apart from their numbers -/

/-- The numbers of the second block are those of the first one, moved. -/
structure Moved (k₁ k₂ : UInt32) (tcb tcb' : Tcb) : Prop where
  sequence : tcb'.sequenceNumber = tcb.sequenceNumber + k₁
  acknowledgement : tcb'.acknowledgementNumber = tcb.acknowledgementNumber + k₂

variable {h h' : TcpHeader} (long : 20 ≤ h.raw.length) (long' : 20 ≤ h'.raw.length) (alike : h'.blank = h.blank)
include long long' alike

theorem blank_edit (tcb tcb' : Tcb) (flags window : UInt16) :
    (h'.edit tcb' flags window).blank = (h.edit tcb flags window).blank := by
  rw [blank, blank, setNumbers_edit long', setNumbers_edit long, alike]

/-- Edited with moved numbers and with its checksum computed, the second header is the first one renumbered. -/
theorem updateChecksum_edit {k₁ k₂ : UInt32} {tcb tcb' : Tcb} (moved : Moved k₁ k₂ tcb tcb') (flags window : UInt16)
    (ip : IpHeaderData) (payload : List UInt8) :
    (h'.edit tcb' flags window).updateChecksum ip payload =
      (((h.edit tcb flags window).updateChecksum ip payload).renumber k₁ k₂).updateChecksum ip payload := by
  have first : 18 ≤ (h.edit tcb flags window).raw.length := by rw [length_edit]; omega
  have second : 18 ≤ (h'.edit tcb' flags window).raw.length := by rw [length_edit]; omega
  obtain ⟨sequence, acknowledgement⟩ := numbers_edit long tcb flags window ip payload
  have same : ((h'.edit tcb' flags window).setChecksum 0).setNumbers tcb'.sequenceNumber tcb'.acknowledgementNumber =
      (h'.edit tcb' flags window).setChecksum 0 := by
    rw [← setChecksum_setNumbers (by rw [length_edit]; exact long'), edit_eq long', setNumbers_again (by simpa using long')]
  have erased : (((h.edit tcb flags window).updateChecksum ip payload).setNumbers tcb'.sequenceNumber
      tcb'.acknowledgementNumber).setChecksum 0 = (h'.edit tcb' flags window).setChecksum 0 := by
    rw [setChecksum_setNumbers (by simpa using long), TransportHeader.setChecksum_updateChecksum first,
      setNumbers_edit long, ← alike, ← setNumbers_edit long' tcb', same]
  rw [renumber, sequence, acknowledgement, ← moved.sequence, ← moved.acknowledgement]
  calc (h'.edit tcb' flags window).updateChecksum ip payload
      = ((h'.edit tcb' flags window).setChecksum 0).updateChecksum ip payload :=
        (TransportHeader.updateChecksum_setChecksum second 0 ip payload).symm
    _ = (((((h.edit tcb flags window).updateChecksum ip payload).setNumbers tcb'.sequenceNumber
          tcb'.acknowledgementNumber).setChecksum 0).updateChecksum ip payload) := by rw [erased]
    _ = _ := TransportHeader.updateChecksum_setChecksum (by simpa using first) 0 ip payload

end TcpHeader

/-! ### Packets -/

/-- The packet with its numbers moved and its checksums computed. -/
def IpPacket.renumber (k₁ k₂ : UInt32) (q : IpPacket) : IpPacket :=
  match q.transportHeaderData with
  | some (.tcp data) =>
    let rest := q.raw.drop q.transportIndex
    let h := TcpHeader.renumber k₁ k₂ { raw := rest.take data.headerLength.toNat, data }
    IpPacket.computeChecksums {
      raw := q.raw.take q.transportIndex ++ (h.raw ++ rest.drop data.headerLength.toNat)
      ipHeaderData := q.ipHeaderData
      transportHeaderData := some (.tcp h.data) }
  | _ => q

theorem IpPacket.ipHeaderData_renumber (k₁ k₂ : UInt32) (q : IpPacket) : (q.renumber k₁ k₂).ipHeaderData = q.ipHeaderData := by
  unfold renumber
  split
  · exact ipHeaderData_computeChecksums _
  · rfl

@[simp] theorem IpPacket.length_renumber (k₁ k₂ : UInt32) (q : IpPacket) : (q.renumber k₁ k₂).length = q.length := by
  rw [length, ipHeaderData_renumber, ← length]

@[simp] theorem IpPacket.length_raw_renumber (k₁ k₂ : UInt32) (q : IpPacket) :
    (q.renumber k₁ k₂).raw.length = q.raw.length := by
  unfold renumber
  split
  · rw [length_raw_computeChecksums]
    simp only [TcpHeader.length_renumber, List.length_append, List.length_take,
      List.length_drop]
    omega
  · rfl

theorem IpPacket.renumber_parts (k₁ k₂ : UInt32) (ip : IpHeader) (h : TcpHeader) (payload : List UInt8)
    (ipLength : ip.raw.length = ip.headerLength.toNat) (length : h.raw.length = h.data.headerLength.toNat) :
    IpPacket.renumber k₁ k₂ {
      raw := ip.raw ++ (h.raw ++ payload)
      ipHeaderData := ip.data
      transportHeaderData := some (.tcp h.data) } = {
      raw := ip.updateChecksum.raw ++ (((h.renumber k₁ k₂).updateChecksum ip.data payload).raw ++ payload)
      ipHeaderData := ip.data
      transportHeaderData := some (.tcp (h.renumber k₁ k₂).data) } := by
  have index : ip.data.headerLength.toNat = ip.raw.length := ipLength.symm
  have header : TcpHeader.mk h.raw h.data = h := rfl
  let moved : IpPacket := {
    raw := ip.raw ++ ((h.renumber k₁ k₂).raw ++ payload)
    ipHeaderData := ip.data
    transportHeaderData := some (.tcp (h.renumber k₁ k₂).data) }
  have parts : moved.raw = ip.raw ++ ((TransportHeader.tcp (h.renumber k₁ k₂)).raw ++ payload) := rfl
  have computed := IpPacket.raw_computeChecksums parts rfl rfl ipLength (by
    rw [TransportHeader.raw, TcpHeader.length_renumber, length, ← TcpHeader.headerLength_renumber h k₁ k₂]
    rfl)
  have renumbered : IpPacket.renumber k₁ k₂ {
      raw := ip.raw ++ (h.raw ++ payload)
      ipHeaderData := ip.data
      transportHeaderData := some (.tcp h.data) } = moved.computeChecksums := by
    simp only [renumber, transportIndex, index, List.take_left, List.drop_left, ← length, header]
    rfl
  rw [renumbered]
  have data := IpPacket.ipHeaderData_computeChecksums moved
  have transport := IpPacket.transportHeaderData_computeChecksums moved
  cases whole : moved.computeChecksums with
  | mk raw ipHeaderData transportHeaderData =>
    rw [whole] at computed data transport
    rw [show raw = _ from computed, show ipHeaderData = _ from data, show transportHeaderData = _ from transport]
    rfl

@[simp] theorem TcpHeader.data_updateChecksum (h : TcpHeader) (ip : IpHeaderData) (payload : List UInt8) :
    (h.updateChecksum ip payload).data = h.data :=
  TransportHeaderData.tcp.inj (TransportHeader.data_updateChecksum (.tcp h) ip payload)

theorem IpHeader.updateChecksum_again {h : IpHeader} (long : 12 ≤ h.raw.length) :
    h.updateChecksum.updateChecksum = h.updateChecksum := by
  cases h with
  | v4 h => exact congrArg IpHeader.v4 (Ipv4Header.updateChecksum_setChecksum long _)
  | v6 h => rfl

def IpHeaderData.segmentLength : IpHeaderData → UInt16
  | v4 d => d.totalLength - d.headerLength.toUInt16
  | v6 d => d.payloadLength

/-- The bytes behind the stated length do not count. -/
theorem TcpHeader.updateChecksum_take (h : TcpHeader) {ip : IpHeaderData} {n : Nat}
    (stated : (ip.segmentLength - h.data.headerLength.toUInt16).toNat ≤ n) (payload : List UInt8) :
    h.updateChecksum ip (payload.take n) = h.updateChecksum ip payload := by
  have finish (pseudo : UInt32) (length : UInt16) (le : length.toNat ≤ n) :
      h.finishChecksum pseudo length (payload.take n) = h.finishChecksum pseudo length payload := by
    simp only [finishChecksum, List.take_take, Nat.min_eq_left le]
  cases ip with
  | v4 d => exact finish _ _ stated
  | v6 d => exact finish _ _ stated

namespace Packetizer
variable {p p' : Packetizer}

/-- The two packetizers hold the same bytes apart from the numbers and the checksum of TCP. -/
structure Alike (p p' : Packetizer) : Prop where
  transportIndex : p'.transportIndex = p.transportIndex
  payloadIndex : p'.payloadIndex = p.payloadIndex
  ip : p'.ipHeader = p.ipHeader
  rest : p'.buffer.drop p.payloadIndex = p.buffer.drop p.payloadIndex
  tcp : ∃ h h', p.transportHeader = .tcp h ∧ p'.transportHeader = .tcp h' ∧ h'.blank = h.blank ∧
    h.data.headerLength = 20 ∧ h'.data.headerLength = 20

/-- The header of the second one is that of the first one renumbered, once its checksum is computed. -/
structure Ready (k₁ k₂ : UInt32) (p p' : Packetizer) : Prop extends Alike p p' where
  moved : ∀ h h', p.transportHeader = .tcp h → p'.transportHeader = .tcp h' → ∀ ip payload,
    h'.updateChecksum ip payload = ((h.updateChecksum ip payload).renumber k₁ k₂).updateChecksum ip payload

/-- The header of a packetizer of TCP has the length that is stated. -/
theorem length_tcp {h : TcpHeader} (transport : p.transportHeader = .tcp h) (twenty : h.data.headerLength = 20) :
    h.raw.length = 20 ∧ p.payloadIndex = p.transportIndex + 20 := by
  have index := p.layout.payload_index
  have length := p.length_raw_transportHeader
  rw [← data_transportHeader, transport] at index
  rw [transport] at length
  have twenty : h.data.headerLength.toNat = 20 := congrArg UInt8.toNat twenty
  change p.payloadIndex = p.transportIndex + h.data.headerLength.toNat at index
  change h.raw.length = _ at length
  omega

/-- After the headers are updated with moved numbers, the packetizers are ready to build packets that
are renumbered. -/
theorem Alike.updateHeaders {k₁ k₂ : UInt32} (alike : Alike p p') {tcb tcb' : Tcb}
    (moved : TcpHeader.Moved k₁ k₂ tcb tcb') (flags window : UInt16) :
    Ready k₁ k₂ (TcpConnection.updateHeaders p tcb flags window) (TcpConnection.updateHeaders p' tcb' flags window) := by
  obtain ⟨ip, transport, rest⟩ := p.parts_updateHeaders tcb flags window
  obtain ⟨ip', transport', rest'⟩ := p'.parts_updateHeaders tcb' flags window
  obtain ⟨h, h', first, second, same, twenty, twenty'⟩ := alike.tcp
  obtain ⟨length, index⟩ := length_tcp first twenty
  obtain ⟨length', index'⟩ := length_tcp second twenty'
  have long : 20 ≤ h.raw.length := by omega
  have long' : 20 ≤ h'.raw.length := by omega
  rw [first] at transport
  rw [second] at transport'
  refine ⟨⟨alike.transportIndex, alike.payloadIndex, ip'.trans (alike.ip.trans ip.symm), ?_, ?_⟩, ?_⟩
  · exact (alike.payloadIndex ▸ rest').trans (alike.rest.trans rest.symm)
  · exact ⟨_, _, transport, transport', TcpHeader.blank_edit long long' same tcb tcb' flags window, twenty, twenty'⟩
  · intro edited edited' here here' ip payload
    rw [transport] at here
    rw [transport'] at here'
    cases here
    cases here'
    exact TcpHeader.updateChecksum_edit long long' same moved flags window ip payload

theorem rest_writeBuffer {bytes : List UInt8} (fits : p.payloadIndex + bytes.length ≤ p.buffer.length) :
    (p.writeBuffer p.payloadIndex bytes).buffer.drop p.payloadIndex =
      bytes ++ (p.buffer.drop p.payloadIndex).drop bytes.length := by
  have front : (p.buffer.take p.payloadIndex).length = p.payloadIndex := by
    rw [List.length_take]
    omega
  show (overwrite p.buffer p.payloadIndex bytes).drop p.payloadIndex = _
  rw [overwrite_eq fits, List.append_assoc, List.drop_left' front, List.drop_drop]

theorem Ready.writeBuffer {k₁ k₂ : UInt32} (ready : Ready k₁ k₂ p p') {bytes : List UInt8}
    (fits : p.payloadIndex + bytes.length ≤ p.buffer.length) :
    Ready k₁ k₂ (p.writeBuffer p.payloadIndex bytes) (p'.writeBuffer p'.payloadIndex bytes) := by
  have fits' : p'.payloadIndex + bytes.length ≤ p'.buffer.length := by
    rw [ready.payloadIndex, p'.layout.buffer_length, ← p.layout.buffer_length]
    exact fits
  obtain ⟨ip, transport, -⟩ := parts_writeBuffer fits
  obtain ⟨ip', transport', -⟩ := parts_writeBuffer fits'
  have rest := rest_writeBuffer fits
  have rest' := rest_writeBuffer fits'
  rw [ready.payloadIndex] at rest'
  refine ⟨⟨ready.transportIndex, ready.payloadIndex, ip'.trans (ready.ip.trans ip.symm), ?_, ?_⟩, ?_⟩
  · show (p'.writeBuffer p'.payloadIndex bytes).buffer.drop p.payloadIndex =
      (p.writeBuffer p.payloadIndex bytes).buffer.drop p.payloadIndex
    rw [rest, ready.payloadIndex, rest', ready.rest]
  · rw [transport, transport']
    exact ready.tcp
  · rw [transport, transport']
    exact ready.moved

/-! ### Building -/

/-- What a build of `n` bytes leaves at the front of the buffer, cut at any length behind the headers. -/
theorem inflate_built (p : Packetizer) {n : UInt16} (fits : p.payloadIndex + n.toNat < 65536) {len : UInt16}
    (long : p.payloadIndex ≤ len.toNat) :
    (p.build n).1.inflate len = {
      raw := (p.builtIpHeader n).raw ++ ((p.builtTransportHeader n).raw ++
        (p.buffer.drop p.payloadIndex).take (len.toNat - p.payloadIndex))
      ipHeaderData := (p.builtIpHeader n).data
      transportHeaderData := some (p.builtTransportHeader n).data } := by
  obtain ⟨ip, transport, rest⟩ := p.parts_build n fits
  have order := p.transportIndex_le_payloadIndex
  have first := p.length_raw_builtIpHeader n
  have second := p.length_raw_builtTransportHeader n
  have raw : (p.build n).1.buffer.take len.toNat = (p.builtIpHeader n).raw ++ ((p.builtTransportHeader n).raw ++
      (p.buffer.drop p.payloadIndex).take (len.toNat - p.payloadIndex)) := by
    rw [(p.build n).1.buffer_eq, ip, transport, List.take_append, List.take_append, first, second,
      List.take_of_length_le (by omega), List.take_of_length_le (by omega),
      show len.toNat - p.transportIndex - (p.payloadIndex - p.transportIndex) = len.toNat - p.payloadIndex by omega]
    exact congrArg (fun after : List UInt8 => (p.builtIpHeader n).raw ++ ((p.builtTransportHeader n).raw ++
      after.take (len.toNat - p.payloadIndex))) rest
  have ipData := (p.build n).1.data_ipHeader
  have transportData := (p.build n).1.data_transportHeader
  rw [ip] at ipData
  rw [transport] at transportData
  rw [inflate, raw, ← ipData, ← transportData]

/-- The payload that a built packet states has `n` bytes. -/
theorem segmentLength_built {h : TcpHeader} (transport : p.transportHeader = .tcp h) (twenty : h.data.headerLength = 20)
    (n : UInt16) : (p.builtIpHeader n).data.segmentLength - h.data.headerLength.toUInt16 = n := by
  obtain ⟨-, index⟩ := length_tcp transport twenty
  have first := p.layout.transport_index
  have small := p.payloadIndex_lt
  have header : p.payloadIndex.toUInt16 = p.ipHeaderData.headerLength.toUInt16 + 20 := by
    apply UInt16.toNat.inj
    rw [index, first, UInt16.toNat_add, UInt8.toNat_toUInt16, Nat.toUInt16, UInt16.toNat_ofNat']
    rfl
  have cancel (a : UInt16) : a + 20 + n - a - 20 = n := by grind
  have data := p.data_ipHeader
  rw [builtIpHeader, IpHeader.data_updateChecksum, twenty, header]
  cases kind : p.ipHeader with
  | v4 d =>
    rw [← data, kind]
    exact cancel _
  | v6 d =>
    rw [← data, kind]
    exact cancel _

theorem Ready.build {k₁ k₂ : UInt32} (ready : Ready k₁ k₂ p p') {n : UInt16}
    (fits : p.payloadIndex + n.toNat < 65536) :
    Alike (p.build n).1 (p'.build n).1 ∧ ∀ len : UInt16, p.payloadIndex + n.toNat ≤ len.toNat →
      (p'.build n).1.inflate len = ((p.build n).1.inflate len).renumber k₁ k₂ := by
  have fits' : p'.payloadIndex + n.toNat < 65536 := by rw [ready.payloadIndex]; exact fits
  obtain ⟨h, h', first, second, same, twenty, twenty'⟩ := ready.tcp
  obtain ⟨length, index⟩ := length_tcp first twenty
  obtain ⟨length', index'⟩ := length_tcp second twenty'
  have ip : p'.builtIpHeader n = p.builtIpHeader n := by rw [builtIpHeader, builtIpHeader, ready.ip, ready.payloadIndex]
  have payload : p'.builtPayload n = p.builtPayload n := by
    rw [builtPayload, builtPayload, ready.payloadIndex, ready.rest]
  have transport : p.builtTransportHeader n = .tcp (h.updateChecksum (p.builtIpHeader n).data (p.builtPayload n)) := by
    rw [builtTransportHeader, first]
    rfl
  have transport' : p'.builtTransportHeader n =
      .tcp (h'.updateChecksum (p.builtIpHeader n).data (p.builtPayload n)) := by
    rw [builtTransportHeader, second, ip, payload]
    rfl
  obtain ⟨ipHeld, transportHeld, rest⟩ := p.parts_build n fits
  obtain ⟨ipHeld', transportHeld', rest'⟩ := p'.parts_build n fits'
  refine ⟨⟨ready.transportIndex, ready.payloadIndex, ?_, ?_, ?_⟩, ?_⟩
  · rw [ipHeld, ipHeld', ip]
  · exact (ready.payloadIndex ▸ rest').trans (ready.rest.trans rest.symm)
  · refine ⟨_, _, transportHeld.trans transport, transportHeld'.trans transport', ?_, ?_, ?_⟩
    · rw [TcpHeader.blank, TcpHeader.blank, TransportHeader.setChecksum_updateChecksum (by omega),
        TransportHeader.setChecksum_updateChecksum (by omega)]
      exact same
    · rw [TcpHeader.data_updateChecksum, twenty]
    · rw [TcpHeader.data_updateChecksum, twenty']
  · intro len long
    rw [inflate_built p' fits' (by rw [ready.payloadIndex]; omega), inflate_built p fits (by omega), ip, transport,
      transport', ready.payloadIndex, ready.rest]
    have moved := ready.moved h h' first second (p.builtIpHeader n).data (p.builtPayload n)
    have stated : ((p.builtIpHeader n).data.segmentLength -
        ((h.updateChecksum (p.builtIpHeader n).data (p.builtPayload n)).renumber k₁ k₂).data.headerLength.toUInt16).toNat =
        n.toNat := by
      rw [TcpHeader.headerLength_renumber, TcpHeader.data_updateChecksum, segmentLength_built first twenty n]
    have again : ((h.updateChecksum (p.builtIpHeader n).data (p.builtPayload n)).renumber k₁ k₂).updateChecksum
        (p.builtIpHeader n).data ((p.buffer.drop p.payloadIndex).take (len.toNat - p.payloadIndex)) =
        h'.updateChecksum (p.builtIpHeader n).data (p.builtPayload n) := by
      rw [TcpHeader.updateChecksum_take _ (by omega), ← TcpHeader.updateChecksum_take _ (Nat.le_of_eq stated)]
      exact moved.symm
    have data := congrArg TcpHeader.data again
    rw [TcpHeader.data_updateChecksum] at data
    have ipAgain : (p.builtIpHeader n).updateChecksum = p.builtIpHeader n := by
      have long := p.transportIndex_ge
      exact IpHeader.updateChecksum_again (by rw [IpHeader.length_raw_setTotalLength, length_raw_ipHeader]; omega)
    have renumbered := IpPacket.renumber_parts k₁ k₂ (p.builtIpHeader n)
      (h.updateChecksum (p.builtIpHeader n).data (p.builtPayload n))
      ((p.buffer.drop p.payloadIndex).take (len.toNat - p.payloadIndex))
      (by
        have index := p.layout.transport_index
        rw [← data_ipHeader] at index
        rw [length_raw_builtIpHeader, index, builtIpHeader, IpHeader.headerLength, IpHeader.data_updateChecksum]
        cases p.ipHeader <;> rfl)
      (by rw [TcpHeader.length_raw_updateChecksum, TcpHeader.data_updateChecksum, length, twenty]; rfl)
    rw [again, ipAgain, data] at renumbered
    exact renumbered.symm

theorem Ready.packet_build {k₁ k₂ : UInt32} (ready : Ready k₁ k₂ p p') {n : UInt16}
    (fits : p.payloadIndex + n.toNat < 65536) : (p'.build n).2 = (p.build n).2.renumber k₁ k₂ := by
  have fits' : p'.payloadIndex + n.toNat < 65536 := by rw [ready.payloadIndex]; exact fits
  have total := p.toNat_length_build n fits
  have length : (p'.build n).2.length = (p.build n).2.length := by
    rw [length_build, length_build, ready.payloadIndex]
  have renumbered := (ready.build fits).2 (p.build n).2.length (Nat.le_of_eq total.symm)
  rw [inflate_build p n fits, ← length, inflate_build p' n fits'] at renumbered
  exact renumbered

/-- Two reads with the same answer end alike. -/
inductive ReadAlike (k₁ k₂ : UInt32) : Except ErrorKind (Packetizer × Option IpPacket) →
    Except ErrorKind (Packetizer × Option IpPacket) → Prop where
  | failed (e : ErrorKind) : ReadAlike k₁ k₂ (.error e) (.error e)
  | ended {p p' : Packetizer} (alike : Alike p p') : ReadAlike k₁ k₂ (.ok (p, none)) (.ok (p', none))
  | built {p p' : Packetizer} (packet : IpPacket) (alike : Alike p p')
      (payload : (packet.renumber k₁ k₂).raw.drop p.payloadIndex = packet.raw.drop p.payloadIndex)
      (long : p.payloadIndex ≤ packet.length.toNat)
      (again : p'.inflate packet.length = (p.inflate packet.length).renumber k₁ k₂) :
      ReadAlike k₁ k₂ (.ok (p, some packet)) (.ok (p', some (packet.renumber k₁ k₂)))

theorem Ready.packetizeRead {k₁ k₂ : UInt32} (ready : Ready k₁ k₂ p p') (answer : ReadAnswer) {size : Nat}
    (small : size < 60000) :
    ReadAlike k₁ k₂ (p.packetizeRead answer (some size)) (p'.packetizeRead answer (some size)) := by
  have index := p.payloadIndex_lt
  have room : p'.buffer.length - p'.payloadIndex = p.buffer.length - p.payloadIndex := by
    rw [ready.payloadIndex, p'.layout.buffer_length, p.layout.buffer_length]
  unfold Packetizer.packetizeRead
  rw [room]
  cases received : recv answer (some size) (p.buffer.length - p.payloadIndex) with
  | error e => exact .failed e
  | ok bytes =>
    have bound := length_recv received
    have inside : p.payloadIndex + bytes.length ≤ p.buffer.length := by
      have length := p.layout.buffer_length
      rw [maxPacketLength] at length
      omega
    have written := ready.writeBuffer inside
    dsimp only
    split
    · have n : bytes.length.toUInt16.toNat = bytes.length := UInt16.toNat_ofNat_of_lt' (show _ < 65536 by omega)
      have fits : (p.writeBuffer p.payloadIndex bytes).payloadIndex + bytes.length.toUInt16.toNat < 65536 := by
        rw [n]
        show p.payloadIndex + _ < _
        omega
      have fits' : (p'.writeBuffer p'.payloadIndex bytes).payloadIndex + bytes.length.toUInt16.toNat < 65536 := by
        rw [written.payloadIndex]
        exact fits
      obtain ⟨alike, inflated⟩ := written.build fits
      have packet := written.packet_build fits
      have total := toNat_length_build _ _ fits
      have long : (p.writeBuffer p.payloadIndex bytes).payloadIndex + bytes.length.toUInt16.toNat ≤
          ((p.writeBuffer p.payloadIndex bytes).build bytes.length.toUInt16).2.length.toNat := Nat.le_of_eq total.symm
      rw [packet]
      refine .built _ alike ?_ (Nat.le_trans (Nat.le_add_right _ _) long) (inflated _ long)
      · rw [← packet]
        have payload := payload_build _ _ fits
        have payload' := payload_build _ _ fits'
        rw [written.payloadIndex, written.rest] at payload'
        exact payload'.trans payload.symm
    · exact .ended written.toAlike

end Packetizer

end Gnirehtet.Relay
