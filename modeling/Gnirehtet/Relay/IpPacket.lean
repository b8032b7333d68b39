import Gnirehtet.Relay.TransportHeader

/-!
# IP packets

A packet is its raw bytes with the header data parsed from them. The source has one structure per IP
version with the same three fields; here the version is that of the header data. Parsing follows the
source's indexing, so that bytes that lie about their lengths make it fail where the source panics.
-/

namespace Gnirehtet.Relay
open Lib

structure IpPacket where
  raw : List UInt8
  ipHeaderData : IpHeaderData
  transportHeaderData : Option TransportHeaderData
  deriving DecidableEq

namespace IpPacket

def parseV4 (raw : List UInt8) : Checked IpPacket := do
  let data ← Ipv4HeaderData.parse raw
  let payload ← sliceFrom raw data.headerLength.toNat
  let transportHeaderData ← TransportHeaderData.parse data.protocol payload
  let raw ← sliceTo raw data.totalLength.toNat
  return { raw, transportHeaderData, ipHeaderData := .v4 data }

def parseV6 [Build] (raw : List UInt8) : Checked IpPacket := do
  let data ← Ipv6HeaderData.parse raw
  let totalLen ← data.checkedTotalLength
  let payload ← slice raw ipv6HeaderLength.toNat totalLen.toNat
  let transportHeaderData ← TransportHeaderData.parse data.nextHeader payload
  let raw ← sliceTo raw totalLen.toNat
  return { raw, transportHeaderData, ipHeaderData := .v6 data }

def parse [Build] (raw : List UInt8) : Checked (Option IpPacket) :=
  if raw.isEmpty then .ok none
  else if byteAt raw 0 >>> 4 = 4 then do return some (← parseV4 raw)
  else if byteAt raw 0 >>> 4 = 6 then do return some (← parseV6 raw)
  else .ok none

def transportIndex (p : IpPacket) : Nat := p.ipHeaderData.headerLength.toNat

def length (p : IpPacket) : UInt16 := p.ipHeaderData.totalLength

def isValid (p : IpPacket) : Bool := p.transportHeaderData.isSome

def isIcmpEchoRequest (p : IpPacket) : Bool :=
  match p.ipHeaderData with
  | .v4 data => data.protocol == .icmp && p.raw[data.headerLength.toNat]? == some 8
  | .v6 _ => false

def headers (p : IpPacket) : Checked (IpHeader × Option TransportHeader) := do
  let ipHeaderSlice ← sliceTo p.raw p.transportIndex
  match p.transportHeaderData with
  | some data =>
    let transportSlice ← sliceFrom p.raw p.transportIndex
    let transportHeaderSlice ← sliceTo transportSlice data.headerLength.toNat
    return (.bind ipHeaderSlice p.ipHeaderData, some (.bind transportHeaderSlice data))
  | none => return (.bind ipHeaderSlice p.ipHeaderData, none)

def transportHeader (p : IpPacket) : Checked (Option TransportHeader) :=
  match p.transportHeaderData with
  | some data => do
    let raw ← slice p.raw p.transportIndex (p.transportIndex + data.headerLength.toNat)
    return some (.bind raw data)
  | none => .ok none

def payload (p : IpPacket) : Checked (Option (List UInt8)) :=
  match p.transportHeaderData with
  | some data => do return some (← sliceFrom p.raw (p.transportIndex + data.headerLength.toNat))
  | none => .ok none

/-- Used on packets that the packetizer lays out, whose headers are inside. -/
def computeChecksums (p : IpPacket) : IpPacket :=
  let ipHeader := (IpHeader.bind (p.raw.take p.transportIndex) p.ipHeaderData).updateChecksum
  match p.transportHeaderData with
  | some data =>
    let transportSlice := p.raw.drop p.transportIndex
    let payload := transportSlice.drop data.headerLength.toNat
    let transportHeader := (TransportHeader.bind (transportSlice.take data.headerLength.toNat)
      data).updateChecksum p.ipHeaderData payload
    { p with raw := ipHeader.raw ++ transportHeader.raw ++ payload }
  | none => { p with raw := ipHeader.raw ++ p.raw.drop p.transportIndex }

end IpPacket

/-- The packet length that the header states: the total length of IPv4, the payload length plus the
fixed header of IPv6. -/
def statedLength (raw : List UInt8) : Option Nat :=
  if byteAt raw 0 >>> 4 = 4 then some (u16At raw 2).toNat
  else if byteAt raw 0 >>> 4 = 6 then some ((u16At raw 4).toNat + 40)
  else none

/-! ### What parsing accepts -/

theorem slice_ok {raw out : List UInt8} {start stop : Nat} (h : slice raw start stop = .ok out) :
    out = (raw.take stop).drop start ∧ start ≤ stop ∧ stop ≤ raw.length := by
  unfold slice at h
  split at h
  · cases h; exact ⟨rfl, ‹_›⟩
  · cases h

theorem sliceTo_ok {raw out : List UInt8} {stop : Nat} (h : sliceTo raw stop = .ok out) :
    out = raw.take stop ∧ stop ≤ raw.length := by
  unfold sliceTo at h
  split at h
  · cases h; exact ⟨rfl, ‹_›⟩
  · cases h

theorem parse_version [Build] {raw : List UInt8} {packet : IpPacket}
    (parsed : IpPacket.parse raw = .ok (some packet)) (some : packet.raw ≠ []) :
    byteAt packet.raw 0 >>> 4 = packet.ipHeaderData.version := by
  have first {n : Nat} (nonempty : raw.take n ≠ []) : byteAt (raw.take n) 0 = byteAt raw 0 := by
    apply byteAt_take
    rcases n with _ | n
    · exact absurd rfl nonempty
    · omega
  unfold IpPacket.parse at parsed
  split at parsed
  · cases parsed
  split at parsed
  · rename_i four
    obtain ⟨p, parsed, same⟩ := bind_ok parsed
    cases same
    obtain ⟨data, _, parsed⟩ := bind_ok parsed
    obtain ⟨payload, _, parsed⟩ := bind_ok parsed
    obtain ⟨transport, _, parsed⟩ := bind_ok parsed
    obtain ⟨whole, sliced, same⟩ := bind_ok parsed
    cases same
    rw [(sliceTo_ok sliced).1] at some ⊢
    rw [first some, four]
    rfl
  · split at parsed
    · rename_i six
      obtain ⟨p, parsed, same⟩ := bind_ok parsed
      cases same
      obtain ⟨data, _, parsed⟩ := bind_ok parsed
      obtain ⟨total, _, parsed⟩ := bind_ok parsed
      obtain ⟨payload, _, parsed⟩ := bind_ok parsed
      obtain ⟨transport, _, parsed⟩ := bind_ok parsed
      obtain ⟨whole, sliced, same⟩ := bind_ok parsed
      cases same
      rw [(sliceTo_ok sliced).1] at some ⊢
      rw [first some, six]
      rfl
    · cases parsed

theorem headers_ipHeader {packet : IpPacket} {ip : IpHeader} {transport : Option TransportHeader}
    (h : packet.headers = .ok (ip, transport)) :
    ip = .bind (packet.raw.take packet.transportIndex) packet.ipHeaderData ∧
      packet.transportIndex ≤ packet.raw.length := by
  unfold IpPacket.headers at h
  obtain ⟨ipSlice, sliced, h⟩ := bind_ok h
  obtain ⟨same, inside⟩ := sliceTo_ok sliced
  refine ⟨?_, inside⟩
  rw [← same]
  cases data : packet.transportHeaderData with
  | none => rw [data] at h; cases h; rfl
  | some data' =>
    rw [data] at h
    obtain ⟨_, _, h⟩ := bind_ok h
    obtain ⟨_, _, h⟩ := bind_ok h
    cases h
    rfl

/-! ### What the setters keep -/

@[simp] theorem IpHeader.raw_bind (raw : List UInt8) (data : IpHeaderData) :
    (IpHeader.bind raw data).raw = raw := by cases data <;> rfl

@[simp] theorem IpHeader.data_bind (raw : List UInt8) (data : IpHeaderData) :
    (IpHeader.bind raw data).data = data := by cases data <;> rfl

@[simp] theorem TransportHeader.raw_bind (raw : List UInt8) (data : TransportHeaderData) :
    (TransportHeader.bind raw data).raw = raw := by cases data <;> rfl

@[simp] theorem TransportHeader.data_bind (raw : List UInt8) (data : TransportHeaderData) :
    (TransportHeader.bind raw data).data = data := by cases data <;> rfl

@[simp] theorem IpHeader.length_raw_updateChecksum (h : IpHeader) :
    h.updateChecksum.raw.length = h.raw.length := by
  cases h <;> simp [IpHeader.updateChecksum, IpHeader.raw, Ipv4Header.updateChecksum, Ipv4Header.setChecksum]

@[simp] theorem IpHeader.length_raw_setTotalLength (h : IpHeader) (n : UInt16) :
    (h.setTotalLength n).raw.length = h.raw.length := by
  cases h <;> simp [IpHeader.setTotalLength, IpHeader.raw, Ipv4Header.setTotalLength,
    Ipv6Header.setPayloadLength]

@[simp] theorem TcpHeader.length_raw_updateChecksum (h : TcpHeader) (ip : IpHeaderData)
    (payload : List UInt8) : (h.updateChecksum ip payload).raw.length = h.raw.length := by
  cases ip <;> simp [TcpHeader.updateChecksum, TcpHeader.updateChecksumV4, TcpHeader.updateChecksumV6,
    TcpHeader.finishChecksum, TcpHeader.setChecksum]

@[simp] theorem TransportHeader.length_raw_updateChecksum (h : TransportHeader) (ip : IpHeaderData)
    (payload : List UInt8) : (h.updateChecksum ip payload).raw.length = h.raw.length := by
  cases h with
  | tcp h => exact TcpHeader.length_raw_updateChecksum h ip payload
  | udp h => simp [TransportHeader.updateChecksum, TransportHeader.raw, UdpHeader.updateChecksum]

@[simp] theorem TransportHeader.length_raw_setPayloadLength (h : TransportHeader) (n : UInt16) :
    (h.setPayloadLength n).raw.length = h.raw.length := by
  cases h <;> simp [TransportHeader.setPayloadLength, TransportHeader.raw, UdpHeader.setPayloadLength]

@[simp] theorem TransportHeader.data_setPayloadLength (h : TransportHeader) (n : UInt16) :
    (h.setPayloadLength n).data = h.data := by cases h <;> rfl

theorem TransportHeader.headerLength_setPayloadLength (n : UInt16) (h : TransportHeader) :
    (h.setPayloadLength n).headerLength = h.headerLength := by cases h <;> rfl

/-- The checksums change no length field and no version: bytes 0 to 5 stay. -/
theorem IpHeader.byteAt_updateChecksum (h : IpHeader) {i : Nat} (before : i < 10)
    (long : 12 ≤ h.raw.length) : byteAt h.updateChecksum.raw i = byteAt h.raw i := by
  cases h with
  | v4 h => exact byteAt_writeU16_other long (Or.inl before)
  | v6 h => rfl

@[simp] theorem IpPacket.transportHeaderData_computeChecksums (p : IpPacket) :
    p.computeChecksums.transportHeaderData = p.transportHeaderData := by
  unfold computeChecksums
  split <;> simp_all

@[simp] theorem IpPacket.ipHeaderData_computeChecksums (p : IpPacket) :
    p.computeChecksums.ipHeaderData = p.ipHeaderData := by
  unfold computeChecksums
  split <;> rfl

theorem IpPacket.length_raw_computeChecksums (p : IpPacket) :
    p.computeChecksums.raw.length = p.raw.length := by
  unfold computeChecksums
  cases p.transportHeaderData with
  | some data =>
    simp only [List.length_append, IpHeader.length_raw_updateChecksum, IpHeader.raw_bind,
      TransportHeader.length_raw_updateChecksum, TransportHeader.raw_bind, List.length_take,
      List.length_drop]
    omega
  | none =>
    simp only [List.length_append, IpHeader.length_raw_updateChecksum, IpHeader.raw_bind,
      List.length_take, List.length_drop]
    omega

theorem IpPacket.byteAt_computeChecksums (p : IpPacket) {i : Nat} (before : i < 10)
    (long : 12 ≤ p.transportIndex) (inside : p.transportIndex ≤ p.raw.length) :
    byteAt p.computeChecksums.raw i = byteAt p.raw i := by
  have taken : (p.raw.take p.transportIndex).length = p.transportIndex := by rw [List.length_take]; omega
  have header : byteAt (IpHeader.bind (p.raw.take p.transportIndex) p.ipHeaderData).updateChecksum.raw i =
      byteAt p.raw i := by
    rw [IpHeader.byteAt_updateChecksum _ before (by rw [IpHeader.raw_bind]; omega), IpHeader.raw_bind,
      byteAt_take (by omega)]
  unfold computeChecksums
  cases p.transportHeaderData with
  | some data =>
    dsimp only
    rw [List.append_assoc, byteAt_append_left (by simp; omega)]
    exact header
  | none =>
    dsimp only
    rw [byteAt_append_left (by simp; omega)]
    exact header

end Gnirehtet.Relay
