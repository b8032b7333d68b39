import Gnirehtet.Relay.IpHeader

/-!
# Transport headers

TCP and UDP headers, again as raw bytes with the data parsed from them. The setters write in place:
they are used on headers that `Packetizer::new` has already laid out.
-/

namespace Gnirehtet.Relay
open Lib

/-! ### TCP -/

def flagFin : UInt16 := 1
def flagSyn : UInt16 := (1 : UInt16) <<< 1
def flagRst : UInt16 := (1 : UInt16) <<< 2
def flagPsh : UInt16 := (1 : UInt16) <<< 3
def flagAck : UInt16 := (1 : UInt16) <<< 4

structure TcpHeaderData where
  sourcePort : UInt16
  destinationPort : UInt16
  sequenceNumber : UInt32
  acknowledgementNumber : UInt32
  headerLength : UInt8
  flags : UInt16
  window : UInt16
  deriving DecidableEq, Repr

namespace TcpHeaderData

def parse (raw : List UInt8) : Checked TcpHeaderData := do
  let dataOffsetAndFlags ← readU16 raw 12
  let sourcePort ← readU16 raw 0
  let destinationPort ← readU16 raw 2
  let sequenceNumber ← readU32 raw 4
  let acknowledgementNumber ← readU32 raw 8
  let window ← readU16 raw 14
  return {
    sourcePort, destinationPort, sequenceNumber, acknowledgementNumber, window
    headerLength := ((dataOffsetAndFlags &&& 0xF000) >>> 10).toUInt8
    flags := dataOffsetAndFlags &&& 0x1FF }

/-- What `parse` reads when the bytes are there. -/
def ofRaw (raw : List UInt8) : TcpHeaderData where
  sourcePort := u16At raw 0
  destinationPort := u16At raw 2
  sequenceNumber := u32At raw 4
  acknowledgementNumber := u32At raw 8
  headerLength := ((u16At raw 12 &&& 0xF000) >>> 10).toUInt8
  flags := u16At raw 12 &&& 0x1FF
  window := u16At raw 14

theorem parse_eq (raw : List UInt8) :
    parse raw = if 16 ≤ raw.length then .ok (ofRaw raw) else .error .index := by
  unfold parse readU16 readU32
  by_cases enough : 16 ≤ raw.length
  · simp [show 14 ≤ raw.length by omega, show 2 ≤ raw.length by omega, show 4 ≤ raw.length by omega,
      show 8 ≤ raw.length by omega, show 12 ≤ raw.length by omega, enough, ofRaw, pure, Except.pure]
  · rw [if_neg enough]
    iterate 5 (split <;> simp only [ok_bind, error_bind])

/-- Parsing looks at the first 16 bytes. -/
theorem ofRaw_congr {raw raw' : List UInt8} (same : ∀ i < 16, byteAt raw i = byteAt raw' i) :
    ofRaw raw = ofRaw raw' := by
  have word (i : Nat) (inside : i + 1 < 16) : u16At raw i = u16At raw' i := by
    rw [u16At, u16At, same i (by omega), same (i + 1) inside]
  have double (i : Nat) (inside : i + 3 < 16) : u32At raw i = u32At raw' i := by
    rw [u32At, u32At, word i (by omega), word (i + 2) inside]
  rw [ofRaw, ofRaw, word 0 (by omega), word 2 (by omega), double 4 (by omega), double 8 (by omega),
    word 12 (by omega), word 14 (by omega)]

def isFin (d : TcpHeaderData) : Bool := d.flags &&& flagFin != 0
def isSyn (d : TcpHeaderData) : Bool := d.flags &&& flagSyn != 0
def isRst (d : TcpHeaderData) : Bool := d.flags &&& flagRst != 0
def isAck (d : TcpHeaderData) : Bool := d.flags &&& flagAck != 0

end TcpHeaderData

structure TcpHeader where
  raw : List UInt8
  data : TcpHeaderData

/-- The high-order and low-order byte sums after `bytes`: pairs of bytes, the last of an odd number
counting as high-order. -/
def addBytes : List UInt8 → UInt32 → UInt32 → UInt32 × UInt32
  | high :: low :: rest, hsum, sum => addBytes rest (hsum + high.toUInt32) (sum + low.toUInt32)
  | [last], hsum, sum => (hsum + last.toUInt32, sum)
  | [], hsum, sum => (hsum, sum)

namespace TcpHeader

def setSourcePort (h : TcpHeader) (sourcePort : UInt16) : TcpHeader where
  raw := writeU16 h.raw 0 sourcePort
  data := { h.data with sourcePort }

def setDestinationPort (h : TcpHeader) (destinationPort : UInt16) : TcpHeader where
  raw := writeU16 h.raw 2 destinationPort
  data := { h.data with destinationPort }

def swapSourceAndDestination (h : TcpHeader) : Checked TcpHeader := do
  let raw ← swapRange h.raw 0 2 2
  return {
    raw
    data := { h.data with sourcePort := h.data.destinationPort, destinationPort := h.data.sourcePort } }

def setSequenceNumber (h : TcpHeader) (sequenceNumber : UInt32) : TcpHeader where
  raw := writeU32 h.raw 4 sequenceNumber
  data := { h.data with sequenceNumber }

def setAcknowledgementNumber (h : TcpHeader) (acknowledgementNumber : UInt32) : TcpHeader where
  raw := writeU32 h.raw 8 acknowledgementNumber
  data := { h.data with acknowledgementNumber }

def setFlags (h : TcpHeader) (flags : UInt16) : TcpHeader where
  raw := writeU16 h.raw 12 ((u16At h.raw 12 &&& (0xFE00 : UInt16)) ||| (flags &&& (0x1FF : UInt16)))
  data := { h.data with flags }

def setWindow (h : TcpHeader) (window : UInt16) : TcpHeader where
  raw := writeU16 h.raw 14 window
  data := { h.data with window }

def setDataOffset (h : TcpHeader) (dataOffset : UInt8) : TcpHeader where
  raw := writeU16 h.raw 12 ((u16At h.raw 12 &&& (0x0FFF : UInt16)) ||| dataOffset.toUInt16 <<< 12)
  data := { h.data with headerLength := dataOffset <<< 2 }

def shrinkOptions (h : TcpHeader) : TcpHeader := h.setDataOffset 5

def setChecksum (h : TcpHeader) (checksum : UInt16) : TcpHeader :=
  { h with raw := writeU16 h.raw 16 checksum }

/-- The part of `update_checksum` that both versions share: from the sum over the pseudo-header. -/
def finishChecksum (h : TcpHeader) (pseudo : UInt32) (payloadLength : UInt16) (payload : List UInt8) :
    TcpHeader :=
  let h := h.setChecksum 0
  let (hsum, sum) := addBytes (h.raw.take h.data.headerLength.toNat) 0 pseudo
  let (hsum, sum) := addBytes (payload.take payloadLength.toNat) hsum sum
  h.setChecksum (~~~foldCarries (sum + hsum <<< 8)).toUInt16

def updateChecksumV4 (h : TcpHeader) (ip : Ipv4HeaderData) (payload : List UInt8) : TcpHeader :=
  let transportLength := ip.totalLength - ip.headerLength.toUInt16
  let payloadLength := transportLength - h.data.headerLength.toUInt16
  let sum := (6 : UInt32) + ip.source >>> 16 + (ip.source &&& (0xFFFF : UInt32)) + ip.destination >>> 16 +
    (ip.destination &&& (0xFFFF : UInt32)) + transportLength.toUInt32
  h.finishChecksum sum payloadLength payload

def updateChecksumV6 (h : TcpHeader) (ip : Ipv6HeaderData) (payload : List UInt8) : TcpHeader :=
  let transportLength := ip.payloadLength
  let payloadLength := transportLength - h.data.headerLength.toUInt16
  let words (octets : List UInt8) (sum : UInt32) :=
    (List.range 8).foldl (fun sum i => sum + (u16At octets (2 * i)).toUInt32) sum
  let sum := words ip.destination (words ip.source 0) + transportLength.toUInt32 + 6
  h.finishChecksum sum payloadLength payload

def updateChecksum (h : TcpHeader) (ip : IpHeaderData) (payload : List UInt8) : TcpHeader :=
  match ip with
  | .v4 ip => h.updateChecksumV4 ip payload
  | .v6 ip => h.updateChecksumV6 ip payload

theorem u16_or_and (x y mask : UInt16) : (x ||| y) &&& mask = (x &&& mask) ||| (y &&& mask) :=
  UInt16.toBitVec_inj.mp BitVec.and_or_distrib_right

theorem u16_flags (x flags : UInt16) : (x &&& 0xFE00 ||| flags &&& 0x1FF) &&& 0x1FF = flags &&& 0x1FF := by
  rw [u16_or_and, UInt16.and_assoc, UInt16.and_assoc, UInt16.and_self,
    show (0xFE00 : UInt16) &&& 0x1FF = 0 by decide, UInt16.and_zero, UInt16.zero_or]

theorem u16_offset (x flags : UInt16) : (x &&& 0xFE00 ||| flags &&& 0x1FF) &&& 0xF000 = x &&& 0xF000 := by
  rw [u16_or_and, UInt16.and_assoc, UInt16.and_assoc,
    show (0xFE00 : UInt16) &&& 0xF000 = 0xF000 by decide, show (0x1FF : UInt16) &&& 0xF000 = 0 by decide,
    UInt16.and_zero, UInt16.or_zero]

theorem u16_shrunk (x : UInt16) : (x &&& 0x0FFF ||| (5 : UInt8).toUInt16 <<< (12 : UInt16)) &&& 0xF000 = 0x5000 := by
  rw [u16_or_and, UInt16.and_assoc, show (0x0FFF : UInt16) &&& 0xF000 = 0 by decide, UInt16.and_zero,
    UInt16.zero_or]
  decide

theorem u16_shrunk_flags (x : UInt16) :
    (x &&& 0x0FFF ||| (5 : UInt8).toUInt16 <<< (12 : UInt16)) &&& 0x1FF = x &&& 0x1FF := by
  rw [u16_or_and, UInt16.and_assoc, show (0x0FFF : UInt16) &&& 0x1FF = 0x1FF by decide,
    show (5 : UInt8).toUInt16 <<< (12 : UInt16) &&& 0x1FF = 0 by decide, UInt16.or_zero]

section Setters
variable (h : TcpHeader) (long : 20 ≤ h.raw.length)
include long

theorem ofRaw_setSourcePort (sourcePort : UInt16) : TcpHeaderData.ofRaw (h.setSourcePort sourcePort).raw =
    { TcpHeaderData.ofRaw h.raw with sourcePort } := by
  have fits : 0 + 2 ≤ h.raw.length := by omega
  simp only [setSourcePort, TcpHeaderData.ofRaw, u16At_writeU16 fits]
  rw [u16At_writeU16_other fits (by omega), u32At_writeU16_other fits (by omega),
    u32At_writeU16_other fits (by omega), u16At_writeU16_other fits (by omega),
    u16At_writeU16_other fits (by omega)]

theorem ofRaw_setDestinationPort (destinationPort : UInt16) :
    TcpHeaderData.ofRaw (h.setDestinationPort destinationPort).raw =
      { TcpHeaderData.ofRaw h.raw with destinationPort } := by
  have fits : 2 + 2 ≤ h.raw.length := by omega
  simp only [setDestinationPort, TcpHeaderData.ofRaw, u16At_writeU16 fits]
  rw [u16At_writeU16_other fits (by omega), u32At_writeU16_other fits (by omega),
    u32At_writeU16_other fits (by omega), u16At_writeU16_other fits (by omega),
    u16At_writeU16_other fits (by omega)]

theorem ofRaw_shrinkOptions : TcpHeaderData.ofRaw h.shrinkOptions.raw =
    { TcpHeaderData.ofRaw h.raw with headerLength := 20 } := by
  have fits : 12 + 2 ≤ h.raw.length := by omega
  simp only [shrinkOptions, setDataOffset, TcpHeaderData.ofRaw, u16At_writeU16 fits, u16_shrunk, u16_shrunk_flags]
  rw [u16At_writeU16_other fits (by omega), u16At_writeU16_other fits (by omega),
    u32At_writeU16_other fits (by omega), u32At_writeU16_other fits (by omega),
    u16At_writeU16_other fits (by omega)]
  rfl

theorem ofRaw_setSequenceNumber (n : UInt32) : TcpHeaderData.ofRaw (h.setSequenceNumber n).raw =
    { TcpHeaderData.ofRaw h.raw with sequenceNumber := n } := by
  have fits : 4 + 4 ≤ h.raw.length := by omega
  simp only [setSequenceNumber, TcpHeaderData.ofRaw, u32At_writeU32 fits]
  rw [u16At_writeU32_other fits (by omega), u16At_writeU32_other fits (by omega),
    u32At_writeU32_other fits (by omega), u16At_writeU32_other fits (by omega),
    u16At_writeU32_other fits (by omega)]

theorem ofRaw_setAcknowledgementNumber (n : UInt32) : TcpHeaderData.ofRaw (h.setAcknowledgementNumber n).raw =
    { TcpHeaderData.ofRaw h.raw with acknowledgementNumber := n } := by
  have fits : 8 + 4 ≤ h.raw.length := by omega
  simp only [setAcknowledgementNumber, TcpHeaderData.ofRaw, u32At_writeU32 fits]
  rw [u16At_writeU32_other fits (by omega), u16At_writeU32_other fits (by omega),
    u32At_writeU32_other fits (by omega), u16At_writeU32_other fits (by omega),
    u16At_writeU32_other fits (by omega)]

theorem ofRaw_setFlags (flags : UInt16) : TcpHeaderData.ofRaw (h.setFlags flags).raw =
    { TcpHeaderData.ofRaw h.raw with flags := flags &&& 0x1FF } := by
  have fits : 12 + 2 ≤ h.raw.length := by omega
  simp only [setFlags, TcpHeaderData.ofRaw, u16At_writeU16 fits, u16_flags, u16_offset]
  rw [u16At_writeU16_other fits (by omega), u16At_writeU16_other fits (by omega),
    u32At_writeU16_other fits (by omega), u32At_writeU16_other fits (by omega),
    u16At_writeU16_other fits (by omega)]

theorem ofRaw_setWindow (window : UInt16) : TcpHeaderData.ofRaw (h.setWindow window).raw =
    { TcpHeaderData.ofRaw h.raw with window } := by
  have fits : 14 + 2 ≤ h.raw.length := by omega
  simp only [setWindow, TcpHeaderData.ofRaw, u16At_writeU16 fits]
  rw [u16At_writeU16_other fits (by omega), u16At_writeU16_other fits (by omega),
    u32At_writeU16_other fits (by omega), u32At_writeU16_other fits (by omega),
    u16At_writeU16_other fits (by omega)]

end Setters

end TcpHeader

/-! ### UDP -/

def udpHeaderLength : UInt8 := 8

structure UdpHeaderData where
  sourcePort : UInt16
  destinationPort : UInt16
  deriving DecidableEq, Repr

namespace UdpHeaderData

def parse (raw : List UInt8) : Checked UdpHeaderData := do
  let sourcePort ← readU16 raw 0
  let destinationPort ← readU16 raw 2
  return { sourcePort, destinationPort }

def ofRaw (raw : List UInt8) : UdpHeaderData where
  sourcePort := u16At raw 0
  destinationPort := u16At raw 2

theorem parse_eq (raw : List UInt8) :
    parse raw = if 4 ≤ raw.length then .ok (ofRaw raw) else .error .index := by
  unfold parse readU16
  by_cases enough : 4 ≤ raw.length
  · simp [show 2 ≤ raw.length by omega, enough, ofRaw, pure, Except.pure]
  · rw [if_neg enough]
    split <;> simp only [ok_bind, error_bind]

end UdpHeaderData

structure UdpHeader where
  raw : List UInt8
  data : UdpHeaderData

namespace UdpHeader

def setSourcePort (h : UdpHeader) (sourcePort : UInt16) : UdpHeader where
  raw := writeU16 h.raw 0 sourcePort
  data := { h.data with sourcePort }

def setDestinationPort (h : UdpHeader) (destinationPort : UInt16) : UdpHeader where
  raw := writeU16 h.raw 2 destinationPort
  data := { h.data with destinationPort }

def swapSourceAndDestination (h : UdpHeader) : Checked UdpHeader := do
  let raw ← swapRange h.raw 0 2 2
  return {
    raw
    data := { sourcePort := h.data.destinationPort, destinationPort := h.data.sourcePort } }

def setPayloadLength (h : UdpHeader) (payloadLength : UInt16) : UdpHeader :=
  { h with raw := writeU16 h.raw 4 (udpHeaderLength.toUInt16 + payloadLength) }

/-- The checksum is switched off. -/
def updateChecksum (h : UdpHeader) : UdpHeader := { h with raw := writeU16 h.raw 6 0 }

end UdpHeader

/-! ### Either transport -/

inductive TransportHeaderData where
  | tcp (data : TcpHeaderData)
  | udp (data : UdpHeaderData)
  deriving DecidableEq, Repr

namespace TransportHeaderData

def parse (protocol : Protocol) (raw : List UInt8) : Checked (Option TransportHeaderData) :=
  match protocol with
  | .udp => do return some (.udp (← UdpHeaderData.parse raw))
  | .tcp => do return some (.tcp (← TcpHeaderData.parse raw))
  | _ => return none

def sourcePort : TransportHeaderData → UInt16
  | tcp d => d.sourcePort
  | udp d => d.sourcePort

def destinationPort : TransportHeaderData → UInt16
  | tcp d => d.destinationPort
  | udp d => d.destinationPort

def protocol : TransportHeaderData → Protocol
  | tcp _ => .tcp
  | udp _ => .udp

def headerLength : TransportHeaderData → UInt8
  | tcp d => d.headerLength
  | udp _ => udpHeaderLength

end TransportHeaderData

inductive TransportHeader where
  | tcp (h : TcpHeader)
  | udp (h : UdpHeader)

namespace TransportHeader

def raw : TransportHeader → List UInt8
  | tcp h => h.raw
  | udp h => h.raw

def data : TransportHeader → TransportHeaderData
  | tcp h => .tcp h.data
  | udp h => .udp h.data

def headerLength (h : TransportHeader) : UInt8 := h.data.headerLength

def bind (raw : List UInt8) : TransportHeaderData → TransportHeader
  | .tcp data => .tcp { raw, data }
  | .udp data => .udp { raw, data }

def swapSourceAndDestination : TransportHeader → Checked TransportHeader
  | tcp h => do return .tcp (← h.swapSourceAndDestination)
  | udp h => do return .udp (← h.swapSourceAndDestination)

/-- TCP does not store its payload length. -/
def setPayloadLength (payloadLength : UInt16) : TransportHeader → TransportHeader
  | tcp h => .tcp h
  | udp h => .udp (h.setPayloadLength payloadLength)

def updateChecksum (ip : IpHeaderData) (payload : List UInt8) : TransportHeader → TransportHeader
  | tcp h => .tcp (h.updateChecksum ip payload)
  | udp h => .udp h.updateChecksum

end TransportHeader

end Gnirehtet.Relay
