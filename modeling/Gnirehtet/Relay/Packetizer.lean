import Gnirehtet.Relay.Datagram
import Gnirehtet.Relay.IpPacket

/-!
# The packetizer

A packetizer owns one buffer of 64 KiB, which starts with the headers of a reference packet turned
round. Every packet to the device is built in that buffer, so a packet that was built and not sent
yet lives there only as long as nothing else is built.
-/

namespace Gnirehtet.Relay
open Lib

/-- Where the headers lie in the buffer of a packetizer. -/
structure Layout (buffer : List UInt8) (transportIndex payloadIndex : Nat) (ip : IpHeaderData)
    (transport : TransportHeaderData) : Prop where
  buffer_length : buffer.length = maxPacketLength
  transport_index : transportIndex = ip.headerLength.toNat
  payload_index : payloadIndex = transportIndex + transport.headerLength.toNat
  ip_header : ip.minHeaderLength ≤ transportIndex

structure Packetizer where
  buffer : List UInt8
  transportIndex : Nat
  payloadIndex : Nat
  ipHeaderData : IpHeaderData
  transportHeaderData : TransportHeaderData
  layout : Layout buffer transportIndex payloadIndex ipHeaderData transportHeaderData

theorem IpHeader.swap_isOk {h : IpHeader} :
    (∃ out, h.swapSourceAndDestination = .ok out) ↔ h.data.minHeaderLength ≤ h.raw.length := by
  cases h with
  | v4 h =>
    have inside := swapRange_isOk h.raw 12 16 3
    simp only [IpHeader.data, IpHeaderData.minHeaderLength, IpHeader.raw, swapSourceAndDestination,
      Ipv4Header.swapSourceAndDestination]
    cases swapped : swapRange h.raw 12 16 4 with
    | ok raw => exact iff_of_true ⟨_, rfl⟩ (by have := inside.mp ⟨raw, swapped⟩; omega)
    | error e =>
      refine iff_of_false (by rintro ⟨out, ok⟩; cases ok) fun long => ?_
      obtain ⟨raw, ok⟩ := inside.mpr (by omega)
      rw [swapped] at ok
      cases ok
  | v6 h =>
    have inside := swapRange_isOk h.raw 8 24 15
    simp only [IpHeader.data, IpHeaderData.minHeaderLength, IpHeader.raw, swapSourceAndDestination,
      Ipv6Header.swapSourceAndDestination]
    cases swapped : swapRange h.raw 8 24 16 with
    | ok raw => exact iff_of_true ⟨_, rfl⟩ (by have := inside.mp ⟨raw, swapped⟩; omega)
    | error e =>
      refine iff_of_false (by rintro ⟨out, ok⟩; cases ok) fun long => ?_
      obtain ⟨raw, ok⟩ := inside.mpr (by omega)
      rw [swapped] at ok
      cases ok

theorem TransportHeader.swap_isOk {h : TransportHeader} :
    (∃ out, h.swapSourceAndDestination = .ok out) ↔ 4 ≤ h.raw.length := by
  have inside := swapRange_isOk h.raw 0 2 1
  have range : 0 + 1 < h.raw.length ∧ 2 + 1 < h.raw.length ↔ 4 ≤ h.raw.length := by omega
  rw [← range, ← inside]
  cases h with
  | tcp h =>
    simp only [swapSourceAndDestination, TcpHeader.swapSourceAndDestination, raw]
    cases swapRange h.raw 0 2 2 with
    | ok raw => exact iff_of_true ⟨_, rfl⟩ ⟨raw, rfl⟩
    | error e => exact iff_of_false (by rintro ⟨out, ok⟩; cases ok) (by rintro ⟨out, ok⟩; cases ok)
  | udp h =>
    simp only [swapSourceAndDestination, UdpHeader.swapSourceAndDestination, raw]
    cases swapRange h.raw 0 2 2 with
    | ok raw => exact iff_of_true ⟨_, rfl⟩ ⟨raw, rfl⟩
    | error e => exact iff_of_false (by rintro ⟨out, ok⟩; cases ok) (by rintro ⟨out, ok⟩; cases ok)

/-- A swap keeps the first byte and all lengths. -/
structure IpHeader.Swapped (h out : IpHeader) : Prop where
  length : out.raw.length = h.raw.length
  headerLength : out.headerLength = h.headerLength
  minHeaderLength : out.data.minHeaderLength = h.data.minHeaderLength
  version : out.data.version = h.data.version
  first : byteAt out.raw 0 = byteAt h.raw 0

theorem IpHeader.swapped {h out : IpHeader} (ok : h.swapSourceAndDestination = .ok out) : Swapped h out := by
  cases h with
  | v4 h =>
    obtain ⟨h', swap, same⟩ := bind_ok ok
    cases same
    obtain ⟨raw, inner, same⟩ := bind_ok swap
    cases same
    exact ⟨length_swapRange inner, rfl, rfl, rfl, byteAt_swapRange_other inner (by omega) (by omega)⟩
  | v6 h =>
    obtain ⟨h', swap, same⟩ := bind_ok ok
    cases same
    obtain ⟨raw, inner, same⟩ := bind_ok swap
    cases same
    exact ⟨length_swapRange inner, rfl, rfl, rfl, byteAt_swapRange_other inner (by omega) (by omega)⟩

theorem TransportHeader.swap_length {h out : TransportHeader}
    (ok : h.swapSourceAndDestination = .ok out) :
    out.raw.length = h.raw.length ∧ out.headerLength = h.headerLength := by
  cases h with
  | tcp h =>
    obtain ⟨h', swap, same⟩ := bind_ok ok
    cases same
    obtain ⟨raw, swapped, same⟩ := bind_ok swap
    cases same
    exact ⟨length_swapRange swapped, rfl⟩
  | udp h =>
    obtain ⟨h', swap, same⟩ := bind_ok ok
    cases same
    obtain ⟨raw, swapped, same⟩ := bind_ok swap
    cases same
    exact ⟨length_swapRange swapped, rfl⟩

namespace Packetizer

/-- The reference headers are copied in front of a zeroed buffer and their ends are swapped. Copying
fails when a slice has not the length that its own header data states. -/
def new (referenceIpHeader : IpHeader) (referenceTransportHeader : TransportHeader) : Checked Packetizer :=
  if copied : referenceIpHeader.raw.length = referenceIpHeader.headerLength.toNat ∧
      referenceTransportHeader.raw.length = referenceTransportHeader.headerLength.toNat then
    match ipSwap : referenceIpHeader.swapSourceAndDestination,
      transportSwap : referenceTransportHeader.swapSourceAndDestination with
    | .ok ipHeader, .ok transportHeader =>
      .ok {
        buffer := ipHeader.raw ++ transportHeader.raw ++
          List.replicate (maxPacketLength - (ipHeader.raw.length + transportHeader.raw.length)) 0
        transportIndex := referenceIpHeader.headerLength.toNat
        payloadIndex := referenceIpHeader.headerLength.toNat + referenceTransportHeader.headerLength.toNat
        ipHeaderData := ipHeader.data
        transportHeaderData := transportHeader.data
        layout := by
          have ip := IpHeader.swapped ipSwap
          have least := IpHeader.swap_isOk.mp ⟨_, ipSwap⟩
          have transport := TransportHeader.swap_length transportSwap
          have small := referenceIpHeader.headerLength.toNat_lt
          have small' := referenceTransportHeader.headerLength.toNat_lt
          constructor
          · rw [List.length_append, List.length_append, List.length_replicate, ip.length, transport.1,
              copied.1, copied.2, maxPacketLength]
            omega
          · exact congrArg UInt8.toNat ip.headerLength.symm
          · exact congrArg (_ + UInt8.toNat ·) transport.2.symm
          · rw [ip.minHeaderLength, ← copied.1]
            exact least }
    | .error e, _ => .error e
    | _, .error e => .error e
  else .error .assertion

/-- Both slices have the lengths that their data state, and hold what is swapped in them. -/
theorem new_isOk (referenceIpHeader : IpHeader) (referenceTransportHeader : TransportHeader) :
    (∃ p, new referenceIpHeader referenceTransportHeader = .ok p) ↔
      (referenceIpHeader.raw.length = referenceIpHeader.headerLength.toNat ∧
        referenceTransportHeader.raw.length = referenceTransportHeader.headerLength.toNat) ∧
      referenceIpHeader.data.minHeaderLength ≤ referenceIpHeader.raw.length ∧
      4 ≤ referenceTransportHeader.raw.length := by
  rw [← IpHeader.swap_isOk, ← TransportHeader.swap_isOk]
  unfold new
  split
  · rename_i copied
    split
    · rename_i ipHeader transportHeader ipSwap transportSwap
      exact iff_of_true ⟨_, rfl⟩ ⟨copied, ⟨_, ipSwap⟩, ⟨_, transportSwap⟩⟩
    · rename_i failed
      refine iff_of_false (by rintro ⟨p, h⟩; cases h) ?_
      rintro ⟨_, ⟨out, ok⟩, _⟩
      rw [ok] at failed
      cases failed
    · rename_i failed _
      refine iff_of_false (by rintro ⟨p, h⟩; cases h) ?_
      rintro ⟨_, _, ⟨out, ok⟩⟩
      rw [ok] at failed
      cases failed
  · rename_i wrong
    exact iff_of_false (by rintro ⟨p, h⟩; cases h) fun ok => wrong ok.1

def ipHeader (p : Packetizer) : IpHeader := .bind (p.buffer.take p.transportIndex) p.ipHeaderData

def transportHeader (p : Packetizer) : TransportHeader :=
  .bind ((p.buffer.take p.payloadIndex).drop p.transportIndex) p.transportHeaderData

def setTotalLength (p : Packetizer) (totalLength : UInt16) : Packetizer :=
  { p with
    buffer := overwrite p.buffer 0 (p.ipHeader.setTotalLength totalLength).raw
    ipHeaderData := (p.ipHeader.setTotalLength totalLength).data
    layout := by
      obtain ⟨length, transport, payload, ip⟩ := p.layout
      have data : (p.ipHeader.setTotalLength totalLength).data.headerLength = p.ipHeaderData.headerLength ∧
          (p.ipHeader.setTotalLength totalLength).data.minHeaderLength = p.ipHeaderData.minHeaderLength := by
        unfold ipHeader; cases p.ipHeaderData <;> exact ⟨rfl, rfl⟩
      exact ⟨by rw [length_overwrite, length], by rw [data.1, transport], payload, by rw [data.2]; exact ip⟩ }

def modifyTransport (p : Packetizer) (edit : TransportHeader → TransportHeader)
    (keep : ∀ h, (edit h).headerLength = h.headerLength) : Packetizer :=
  { p with
    buffer := overwrite p.buffer p.transportIndex (edit p.transportHeader).raw
    transportHeaderData := (edit p.transportHeader).data
    layout := by
      obtain ⟨length, transport, payload, ip⟩ := p.layout
      have data := keep p.transportHeader
      rw [TransportHeader.headerLength, TransportHeader.headerLength, transportHeader,
        TransportHeader.data_bind] at data
      exact ⟨by rw [length_overwrite, length], transport, by rw [transportHeader, data, payload], ip⟩ }

def writeBuffer (p : Packetizer) (i : Nat) (bytes : List UInt8) : Packetizer :=
  { p with
    buffer := overwrite p.buffer i bytes
    layout := ⟨by rw [length_overwrite, p.layout.buffer_length], p.layout.transport_index,
      p.layout.payload_index, p.layout.ip_header⟩ }

def setLengths (p : Packetizer) (payloadLength : UInt16) : Packetizer :=
  let totalLength := p.payloadIndex.toUInt16 + payloadLength
  (p.setTotalLength totalLength).modifyTransport (·.setPayloadLength payloadLength)
    (TransportHeader.headerLength_setPayloadLength payloadLength)

/-- The packet at the start of the buffer, with the header data of the packetizer. -/
def inflate (p : Packetizer) (packetLength : UInt16) : IpPacket where
  raw := p.buffer.take packetLength.toNat
  ipHeaderData := p.ipHeaderData
  transportHeaderData := some p.transportHeaderData

/-- The callers keep the total length in `u16`. -/
def build (p : Packetizer) (payloadLength : UInt16) : Packetizer × IpPacket :=
  let totalLength := p.payloadIndex.toUInt16 + payloadLength
  let p := p.setLengths payloadLength
  let packet := (p.inflate totalLength).computeChecksums
  (p.writeBuffer 0 packet.raw, packet)

def packetizeEmptyPayload (p : Packetizer) : Packetizer × IpPacket := p.build 0

/-- `packetize` on a datagram: a total length above `u16` panics, when it is computed or when the
packet is sliced by it. -/
def packetize (p : Packetizer) (answer : ReadAnswer) : Checked (Except ErrorKind (Packetizer × IpPacket)) :=
  match recv answer none (p.buffer.length - p.payloadIndex) with
  | .error e => .ok (.error e)
  | .ok bytes =>
    if p.payloadIndex + bytes.length < 65536 then
      .ok (.ok ((p.writeBuffer p.payloadIndex bytes).build bytes.length.toUInt16))
    else .error .overflow

/-- No packet means the end of the stream. -/
def packetizeRead (p : Packetizer) (answer : ReadAnswer) (maxChunkSize : Option Nat) :
    Except ErrorKind (Packetizer × Option IpPacket) :=
  match recv answer maxChunkSize (p.buffer.length - p.payloadIndex) with
  | .error e => .error e
  | .ok bytes =>
    let p := p.writeBuffer p.payloadIndex bytes
    if 0 < bytes.length then
      let (p, packet) := p.build bytes.length.toUInt16
      .ok (p, some packet)
    else .ok (p, none)

/-! ### What is built -/

/-- The version nibble in the buffer is that of the header data. -/
def Versioned (p : Packetizer) : Prop := byteAt p.buffer 0 >>> 4 = p.ipHeaderData.version

section Build
variable (p : Packetizer) (n : UInt16)

theorem transportIndex_ge : 20 ≤ p.transportIndex := by
  have := p.layout.ip_header
  cases h : p.ipHeaderData <;> simp only [h, IpHeaderData.minHeaderLength] at this <;> omega

theorem transportIndex_le_payloadIndex : p.transportIndex ≤ p.payloadIndex := by
  have := p.layout.payload_index
  omega

theorem payloadIndex_lt : p.payloadIndex < 512 := by
  have payload := p.layout.payload_index
  have transport := p.layout.transport_index
  have := p.ipHeaderData.headerLength.toNat_lt
  have := p.transportHeaderData.headerLength.toNat_lt
  omega

theorem length_raw_transportHeader :
    p.transportHeader.raw.length = p.payloadIndex - p.transportIndex := by
  have length := p.layout.buffer_length
  have := p.payloadIndex_lt
  rw [transportHeader, TransportHeader.raw_bind, List.length_drop, List.length_take, length,
    maxPacketLength]
  omega

theorem length_raw_ipHeader : p.ipHeader.raw.length = p.transportIndex := by
  have length := p.layout.buffer_length
  have := p.payloadIndex_lt
  have := p.transportIndex_le_payloadIndex
  rw [ipHeader, IpHeader.raw_bind, List.length_take, length, maxPacketLength]
  omega

theorem byteAt_modifyTransport {edit : TransportHeader → TransportHeader}
    (keep : ∀ h, (edit h).headerLength = h.headerLength) (same : ∀ h, (edit h).raw.length = h.raw.length)
    {i : Nat} (before : i < p.transportIndex) :
    byteAt (p.modifyTransport edit keep).buffer i = byteAt p.buffer i := by
  have length := p.layout.buffer_length
  have := p.payloadIndex_lt
  have := p.transportIndex_le_payloadIndex
  apply byteAt_overwrite_other _ (Or.inl before)
  rw [same, length_raw_transportHeader, length, maxPacketLength]
  omega

theorem drop_modifyTransport {edit : TransportHeader → TransportHeader}
    (keep : ∀ h, (edit h).headerLength = h.headerLength) (same : ∀ h, (edit h).raw.length = h.raw.length) :
    (p.modifyTransport edit keep).buffer.drop p.payloadIndex = p.buffer.drop p.payloadIndex := by
  have := p.transportIndex_le_payloadIndex
  apply drop_overwrite
  rw [same, length_raw_transportHeader]
  omega

theorem totalLength_setTotalLength (h : IpHeader) : (h.setTotalLength n).data.totalLength = n := by
  cases h with
  | v4 h => rfl
  | v6 h =>
    show (40 : UInt16) + (n - 40) = n
    rw [UInt16.add_comm, UInt16.sub_add_cancel]

theorem length_build : (p.build n).2.length = p.payloadIndex.toUInt16 + n := by
  rw [IpPacket.length, build, IpPacket.ipHeaderData_computeChecksums]
  exact totalLength_setTotalLength _ p.ipHeader

theorem toNat_length_build (fits : p.payloadIndex + n.toNat < 65536) :
    (p.build n).2.length.toNat = p.payloadIndex + n.toNat := by
  have := p.payloadIndex_lt
  rw [length_build, UInt16.toNat_add, Nat.toUInt16, UInt16.toNat_ofNat']
  omega

theorem length_raw_build (fits : p.payloadIndex + n.toNat < 65536) :
    (p.build n).2.raw.length = p.payloadIndex + n.toNat := by
  have total := p.toNat_length_build n fits
  have length := (p.setLengths n).layout.buffer_length
  rw [length_build] at total
  simp only [build, inflate, IpPacket.length_raw_computeChecksums, List.length_take, total, length, maxPacketLength]
  omega

/-- What was built can be read again from the buffer, until something else is built. -/
theorem inflate_build (fits : p.payloadIndex + n.toNat < 65536) :
    (p.build n).1.inflate (p.build n).2.length = (p.build n).2 := by
  have total := p.toNat_length_build n fits
  have raw := p.length_raw_build n fits
  have length := (p.setLengths n).layout.buffer_length
  have buffer : (p.build n).1.buffer.take (p.build n).2.length.toNat = (p.build n).2.raw := by
    have inside : 0 + (p.build n).2.raw.length ≤ (p.setLengths n).buffer.length := by
      rw [raw, length, maxPacketLength]
      omega
    have reach := take_overwrite_end inside
    rw [Nat.zero_add, List.take_zero, List.nil_append] at reach
    rw [total, ← raw]
    exact reach
  have transport : (p.build n).2.transportHeaderData = some (p.build n).1.transportHeaderData :=
    IpPacket.transportHeaderData_computeChecksums _
  have ip : (p.build n).2.ipHeaderData = (p.build n).1.ipHeaderData := IpPacket.ipHeaderData_computeChecksums _
  rw [inflate, buffer, ← transport, ← ip]

theorem byteAt_setTotalLength {i : Nat} (inside : i < p.transportIndex) :
    byteAt (p.setTotalLength n).buffer i = byteAt (p.ipHeader.setTotalLength n).raw i := by
  have header := p.length_raw_ipHeader
  have length := p.layout.buffer_length
  have := p.payloadIndex_lt
  have := p.transportIndex_le_payloadIndex
  rw [maxPacketLength] at length
  rw [setTotalLength, byteAt_overwrite_inside _ (Nat.zero_le i), Nat.sub_zero]
  all_goals rw [IpHeader.length_raw_setTotalLength, header]; omega

theorem byteAt_setLengths {i : Nat} (inside : i < p.transportIndex) :
    byteAt (p.setLengths n).buffer i =
      byteAt (p.ipHeader.setTotalLength (p.payloadIndex.toUInt16 + n)).raw i :=
  (byteAt_modifyTransport (p.setTotalLength (p.payloadIndex.toUInt16 + n))
    (TransportHeader.headerLength_setPayloadLength n)
    (fun h => TransportHeader.length_raw_setPayloadLength h n) inside).trans
    (byteAt_setTotalLength p _ inside)

theorem byteAt_build (fits : p.payloadIndex + n.toNat < 65536) {i : Nat} (before : i < 10) :
    byteAt (p.build n).2.raw i =
      byteAt (p.ipHeader.setTotalLength (p.payloadIndex.toUInt16 + n)).raw i := by
  have total := p.toNat_length_build n fits
  have length := (p.setLengths n).layout.buffer_length
  have transport : ((p.setLengths n).inflate (p.payloadIndex.toUInt16 + n)).transportIndex =
      p.transportIndex := (p.setLengths n).layout.transport_index.symm
  have := p.transportIndex_ge
  have := p.transportIndex_le_payloadIndex
  rw [length_build] at total
  rw [build, IpPacket.byteAt_computeChecksums _ before (by omega), inflate, byteAt_take (by omega),
    byteAt_setLengths p n (by omega)]
  rw [transport, inflate, List.length_take, total, length, maxPacketLength]
  omega

theorem byteAt_ipHeader {i : Nat} (inside : i < p.transportIndex) :
    byteAt p.ipHeader.raw i = byteAt p.buffer i := by
  rw [ipHeader, IpHeader.raw_bind, byteAt_take inside]

theorem byteAt_zero_setTotalLength (h : IpHeader) (long : 6 ≤ h.raw.length) :
    byteAt (h.setTotalLength n).raw 0 = byteAt h.raw 0 := by
  cases h with
  | v4 h => exact byteAt_writeU16_other (by simp only [IpHeader.raw] at long; omega) (Or.inl (by omega))
  | v6 h => exact byteAt_writeU16_other (by simpa only [IpHeader.raw] using long) (Or.inl (by omega))

theorem byteAt_zero_build (fits : p.payloadIndex + n.toNat < 65536) :
    byteAt (p.build n).2.raw 0 = byteAt p.buffer 0 := by
  have := p.transportIndex_ge
  rw [byteAt_build p n fits (by omega), byteAt_zero_setTotalLength _ _ (by rw [length_raw_ipHeader]; omega),
    byteAt_ipHeader p (by omega)]

theorem version_build : (p.build n).1.ipHeaderData.version = p.ipHeaderData.version := by
  show (p.ipHeader.setTotalLength _).data.version = _
  rw [ipHeader]
  cases p.ipHeaderData <;> rfl

theorem versioned_build (fits : p.payloadIndex + n.toNat < 65536) (versioned : p.Versioned) :
    (p.build n).1.Versioned := by
  have raw := p.length_raw_build n fits
  have length := (p.setLengths n).layout.buffer_length
  have := p.transportIndex_ge
  have := p.transportIndex_le_payloadIndex
  rw [maxPacketLength] at length
  have first : byteAt (p.build n).1.buffer 0 = byteAt (p.build n).2.raw 0 :=
    byteAt_overwrite_inside (show 0 + (p.build n).2.raw.length ≤ (p.setLengths n).buffer.length by omega)
      (Nat.le_refl 0) (show 0 < 0 + (p.build n).2.raw.length by omega)
  rw [Versioned, first, byteAt_zero_build p n fits, version_build]
  exact versioned

theorem statedLength_build (fits : p.payloadIndex + n.toNat < 65536) (versioned : p.Versioned) :
    statedLength (p.build n).2.raw = some (p.build n).2.raw.length := by
  have raw := p.length_raw_build n fits
  have total := p.toNat_length_build n fits
  have ip := p.layout.ip_header
  have := p.transportIndex_le_payloadIndex
  rw [length_build] at total
  have header := p.length_raw_ipHeader
  rw [statedLength, byteAt_zero_build p n fits, raw, versioned]
  rw [ipHeader] at header
  cases data : p.ipHeaderData with
  | v4 d =>
    rw [data] at ip header
    have stated : u16At (p.build n).2.raw 2 = p.payloadIndex.toUInt16 + n := by
      rw [u16At, byteAt_build p n fits (by omega), byteAt_build p n fits (by omega), ← u16At, ipHeader, data]
      exact u16At_writeU16 (show 2 + 2 ≤ (p.buffer.take p.transportIndex).length by
        rw [IpHeader.raw_bind] at header; simp only [IpHeaderData.minHeaderLength] at ip; omega) _
    simp only [IpHeaderData.version, if_true, stated, total]
  | v6 d =>
    rw [data] at ip header
    simp only [IpHeaderData.minHeaderLength] at ip
    have stated : u16At (p.build n).2.raw 4 = p.payloadIndex.toUInt16 + n - 40 := by
      rw [u16At, byteAt_build p n fits (by omega), byteAt_build p n fits (by omega), ← u16At, ipHeader, data]
      exact u16At_writeU16 (show 4 + 2 ≤ (p.buffer.take p.transportIndex).length by
        rw [IpHeader.raw_bind] at header; omega) _
    have back : (p.payloadIndex.toUInt16 + n - 40).toNat + 40 = p.payloadIndex + n.toNat := by
      have le : (40 : UInt16) ≤ p.payloadIndex.toUInt16 + n := UInt16.le_iff_toNat_le.mpr (by
        rw [total]; simp only [UInt16.reduceToNat]; omega)
      rw [UInt16.toNat_sub_of_le _ _ le, total]
      simp only [UInt16.reduceToNat]; omega
    simp [IpHeaderData.version, stated, back]

theorem drop_computeChecksums (q : IpPacket) (data : TransportHeaderData)
    (transport : q.transportHeaderData = some data)
    (inside : q.transportIndex + data.headerLength.toNat ≤ q.raw.length) :
    q.computeChecksums.raw.drop (q.transportIndex + data.headerLength.toNat) =
      q.raw.drop (q.transportIndex + data.headerLength.toNat) := by
  rw [IpPacket.computeChecksums, transport]
  dsimp only
  rw [List.drop_left', List.drop_drop]
  simp only [List.length_append, IpHeader.length_raw_updateChecksum, IpHeader.raw_bind,
    TransportHeader.length_raw_updateChecksum, TransportHeader.raw_bind, List.length_take, List.length_drop]
  omega

theorem payload_build (fits : p.payloadIndex + n.toNat < 65536) :
    (p.build n).2.raw.drop p.payloadIndex = (p.buffer.drop p.payloadIndex).take n.toNat := by
  have total := p.toNat_length_build n fits
  have layout := (p.setLengths n).layout
  have index : p.payloadIndex = (p.setLengths n).transportIndex +
    (p.setLengths n).transportHeaderData.headerLength.toNat := layout.payload_index
  have length := layout.buffer_length
  rw [length_build] at total
  rw [maxPacketLength] at length
  have laid : (p.build n).2.raw.drop p.payloadIndex = ((p.setLengths n).inflate
      (p.payloadIndex.toUInt16 + n)).raw.drop p.payloadIndex := by
    have same := drop_computeChecksums ((p.setLengths n).inflate (p.payloadIndex.toUInt16 + n))
      (p.setLengths n).transportHeaderData rfl
    rw [IpPacket.transportIndex, show ((p.setLengths n).inflate (p.payloadIndex.toUInt16 + n)).ipHeaderData =
      (p.setLengths n).ipHeaderData from rfl, ← layout.transport_index, ← index] at same
    apply same
    rw [inflate, List.length_take, total, length]
    omega
  have lengths : (p.setLengths n).buffer.drop p.payloadIndex = p.buffer.drop p.payloadIndex := by
    refine (drop_modifyTransport (p.setTotalLength (p.payloadIndex.toUInt16 + n))
      (TransportHeader.headerLength_setPayloadLength n)
      fun h => TransportHeader.length_raw_setPayloadLength h n).trans ?_
    apply drop_overwrite
    rw [IpHeader.length_raw_setTotalLength, length_raw_ipHeader, Nat.zero_add]
    exact p.transportIndex_le_payloadIndex
  rw [laid, inflate, total, List.drop_take, lengths, Nat.add_sub_cancel_left]

end Build

/-- A packet whose header and header data both state the number of its bytes. -/
structure Whole (packet : IpPacket) : Prop where
  stated : statedLength packet.raw = some packet.raw.length
  length : packet.length.toNat = packet.raw.length

theorem whole_build (p : Packetizer) (n : UInt16) (fits : p.payloadIndex + n.toNat < 65536)
    (versioned : p.Versioned) : Whole (p.build n).2 :=
  ⟨p.statedLength_build n fits versioned, by rw [toNat_length_build p n fits, length_raw_build p n fits]⟩

theorem statedLength_congr {raw raw' : List UInt8} (same : ∀ i < 6, byteAt raw i = byteAt raw' i) :
    statedLength raw = statedLength raw' := by
  unfold statedLength u16At
  rw [same 0 (by omega), same 2 (by omega), same 3 (by omega), same 4 (by omega), same 5 (by omega)]

/-- Whatever is read from the buffer after a build starts with the header that was built. -/
theorem statedLength_inflate_build (p : Packetizer) (n : UInt16) (fits : p.payloadIndex + n.toNat < 65536)
    (versioned : p.Versioned) {len : UInt16} (long : 6 ≤ len.toNat) :
    statedLength ((p.build n).1.inflate len).raw = some (p.payloadIndex + n.toNat) := by
  have length := (p.setLengths n).layout.buffer_length
  have built := p.length_raw_build n fits
  have := p.transportIndex_ge
  have := p.transportIndex_le_payloadIndex
  rw [maxPacketLength] at length
  rw [← built, ← (whole_build p n fits versioned).stated]
  apply statedLength_congr
  intro i first
  rw [inflate, byteAt_take (by omega)]
  exact byteAt_overwrite_inside (show 0 + (p.build n).2.raw.length ≤ (p.setLengths n).buffer.length by omega)
    (Nat.zero_le i) (show i < 0 + (p.build n).2.raw.length by omega)

theorem versioned_modifyTransport {p : Packetizer} {edit : TransportHeader → TransportHeader}
    (keep : ∀ h, (edit h).headerLength = h.headerLength) (same : ∀ h, (edit h).raw.length = h.raw.length)
    (versioned : p.Versioned) : (p.modifyTransport edit keep).Versioned := by
  have := p.transportIndex_ge
  rw [Versioned, byteAt_modifyTransport p keep same (by omega)]
  exact versioned

theorem versioned_writeBuffer {p : Packetizer} {i : Nat} {bytes : List UInt8}
    (fits : i + bytes.length ≤ p.buffer.length) (after : 0 < i) (versioned : p.Versioned) :
    (p.writeBuffer i bytes).Versioned := by
  rw [Versioned, writeBuffer, byteAt_overwrite_other fits (Or.inl after)]
  exact versioned

theorem new_payloadIndex {ip : IpHeader} {transport : TransportHeader} {p : Packetizer}
    (created : new ip transport = .ok p) :
    p.payloadIndex = ip.headerLength.toNat + transport.headerLength.toNat := by
  unfold new at created
  split at created
  · split at created
    · cases created
      rfl
    · cases created
    · cases created
  · cases created

theorem new_versioned {ip : IpHeader} {transport : TransportHeader} {p : Packetizer}
    (created : new ip transport = .ok p) (version : byteAt ip.raw 0 >>> 4 = ip.data.version) :
    p.Versioned := by
  have least := ((new_isOk _ _).mp ⟨p, created⟩).2.1
  unfold new at created
  split at created
  · split at created
    · rename_i swapped _ ipSwap _
      cases created
      have same := IpHeader.swapped ipSwap
      have inside : 0 < swapped.raw.length := by
        rw [same.length]
        cases ip <;> simp only [IpHeader.data, IpHeaderData.minHeaderLength] at least <;> omega
      rw [Versioned]
      dsimp only
      rw [List.append_assoc, byteAt_append_left inside, same.first, same.version]
      exact version
    · cases created
    · cases created
  · cases created

/-- A read that returns a packet: its payload is what was read, and it can be read again from the
buffer. -/
structure Reads (p p' : Packetizer) (answer : ReadAnswer) (size : Nat) (packet : IpPacket) : Prop where
  payloadIndex : p'.payloadIndex = p.payloadIndex
  received : recv answer (some size) (p.buffer.length - p.payloadIndex) = .ok (packet.raw.drop p.payloadIndex)
  length : packet.raw.length = p.payloadIndex + (packet.raw.drop p.payloadIndex).length
  some : 0 < (packet.raw.drop p.payloadIndex).length
  atMost : (packet.raw.drop p.payloadIndex).length ≤ size
  total : packet.length.toNat = packet.raw.length
  inflate : p'.inflate packet.length = packet
  versioned : p.Versioned → p'.Versioned ∧ Whole packet

theorem packetizeRead_some {p p' : Packetizer} {answer : ReadAnswer} {size : Nat} {packet : IpPacket}
    (ok : p.packetizeRead answer (some size) = .ok (p', some packet)) (small : size < 60000) :
    Reads p p' answer size packet := by
  have index := p.payloadIndex_lt
  have least := p.transportIndex_ge
  have order := p.transportIndex_le_payloadIndex
  have length := p.layout.buffer_length
  rw [maxPacketLength] at length
  unfold packetizeRead at ok
  cases received : recv answer (some size) (p.buffer.length - p.payloadIndex) with
  | error e => rw [received] at ok; cases ok
  | ok bytes =>
    rw [received] at ok
    have bound := length_recv received
    dsimp only at ok
    split at ok
    · rename_i nonempty
      cases ok
      have n : bytes.length.toUInt16.toNat = bytes.length := UInt16.toNat_ofNat_of_lt' (show _ < 65536 by omega)
      have fits : (p.writeBuffer p.payloadIndex bytes).payloadIndex + bytes.length.toUInt16.toNat < 65536 := by
        rw [n]
        show p.payloadIndex + _ < _
        omega
      have inside : p.payloadIndex + bytes.length ≤ p.buffer.length := by omega
      have payload := payload_build _ _ fits
      have raw := length_raw_build _ _ fits
      rw [n] at payload raw
      have same : (p.writeBuffer p.payloadIndex bytes).payloadIndex = p.payloadIndex := rfl
      rw [same] at payload raw
      rw [writeBuffer, overwrite_same inside] at payload
      have drop : ((p.writeBuffer p.payloadIndex bytes).build bytes.length.toUInt16).2.raw.drop p.payloadIndex
          = bytes := payload
      refine ⟨rfl, by rw [drop, received], by rw [raw, drop], by rw [drop]; exact nonempty, by rw [drop]; omega,
        by rw [toNat_length_build _ _ fits, length_raw_build _ _ fits], inflate_build _ _ fits,
        fun versioned => ?_⟩
      have written := versioned_writeBuffer inside (by omega) versioned
      exact ⟨versioned_build _ _ fits written, whole_build _ _ fits written⟩
    · cases ok

/-- A read that finds bytes and may take some returns a packet with the first of them. -/
theorem packetizeRead_data (p : Packetizer) {bytes : List UInt8} {size : Nat} (nonempty : bytes ≠ [])
    (positive : 0 < size) (small : size < 60000) :
    ∃ p' packet, p.packetizeRead (.ok bytes) (some size) = .ok (p', some packet) ∧
      packet.raw.drop p.payloadIndex = bytes.take size := by
  have index := p.payloadIndex_lt
  have length := p.layout.buffer_length
  rw [maxPacketLength] at length
  have taken : bytes.take (min size (p.buffer.length - p.payloadIndex)) = bytes.take size := by
    rw [Nat.min_eq_left (by omega)]
  have some : 0 < (bytes.take size).length := by
    have := List.length_pos_iff.mpr nonempty
    rw [List.length_take]
    omega
  have ok : p.packetizeRead (.ok bytes) (.some size) = .ok
      (((p.writeBuffer p.payloadIndex (bytes.take size)).build (bytes.take size).length.toUInt16).1,
        .some ((p.writeBuffer p.payloadIndex (bytes.take size)).build (bytes.take size).length.toUInt16).2) := by
    simp only [packetizeRead, recv, read, taken, if_pos some]
  refine ⟨_, _, ok, ?_⟩
  have received := (packetizeRead_some ok small).received
  rw [recv, read, taken] at received
  exact (Except.ok.inj received).symm

theorem packetizeRead_none {p p' : Packetizer} {answer : ReadAnswer} {size : Nat}
    (ok : p.packetizeRead answer (some size) = .ok (p', none)) (versioned : p.Versioned) : p'.Versioned := by
  have index := p.payloadIndex_lt
  have least := p.transportIndex_ge
  have order := p.transportIndex_le_payloadIndex
  have length := p.layout.buffer_length
  rw [maxPacketLength] at length
  unfold packetizeRead at ok
  cases received : recv answer (some size) (p.buffer.length - p.payloadIndex) with
  | error e => rw [received] at ok; cases ok
  | ok bytes =>
    rw [received] at ok
    have bound := length_recv received
    dsimp only at ok
    split at ok
    · cases ok
    · cases ok
      exact versioned_writeBuffer (by omega) (by omega) versioned

/-- A read that may take bytes returns no packet only at the end of the stream. -/
theorem packetizeRead_eof {p p' : Packetizer} {answer : ReadAnswer} {size : Nat}
    (ended : p.packetizeRead answer (some size) = .ok (p', none)) (some : 0 < size) : answer = .ok [] := by
  have room := p.payloadIndex_lt
  have length := p.layout.buffer_length
  unfold packetizeRead recv read at ended
  cases answer with
  | ok bytes =>
    dsimp only at ended
    split at ended
    · cases ended
    · rename_i nothing
      rw [List.length_take, length, maxPacketLength] at nothing
      rw [List.length_eq_zero_iff.mp (show bytes.length = 0 by omega)]
  | error e => cases ended

end Packetizer

end Gnirehtet.Relay
