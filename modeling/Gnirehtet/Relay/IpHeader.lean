import Gnirehtet.Lib.Bytes

/-!
# IP headers

A header is its raw bytes together with the data parsed from them, as in the source, where the
borrowed and the mutable form are the same pair. Every setter edits both.
-/

namespace Gnirehtet.Relay
open Lib

/-- How the relay was compiled: whether arithmetic overflow panics or wraps. -/
class Build where
  overflowChecks : Bool

def addU16 [Build] (a b : UInt16) : Checked UInt16 :=
  if a.toNat + b.toNat < 65536 then .ok (a + b)
  else if Build.overflowChecks then .error .overflow
  else .ok (a + b)

theorem addU16_ok [Build] {a b : UInt16} (fits : a.toNat + b.toNat < 65536) :
    addU16 a b = .ok (a + b) ∧ (a + b).toNat = a.toNat + b.toNat :=
  ⟨if_pos fits, by rw [UInt16.toNat_add, Nat.mod_eq_of_lt fits]⟩

def subU16 [Build] (a b : UInt16) : Checked UInt16 :=
  if b.toNat ≤ a.toNat then .ok (a - b)
  else if Build.overflowChecks then .error .overflow
  else .ok (a - b)

theorem subU16_ok [Build] {a b : UInt16} (le : b.toNat ≤ a.toNat) :
    subU16 a b = .ok (a - b) ∧ (a - b).toNat = a.toNat - b.toNat :=
  ⟨if_pos le, UInt16.toNat_sub_of_le _ _ (UInt16.le_iff_toNat_le.mpr le)⟩

def addU32 [Build] (a b : UInt32) : Checked UInt32 :=
  if a.toNat + b.toNat < 2 ^ 32 then .ok (a + b)
  else if Build.overflowChecks then .error .overflow
  else .ok (a + b)

theorem addU32_ok [Build] {a b : UInt32} (fits : a.toNat + b.toNat < 2 ^ 32) :
    addU32 a b = .ok (a + b) ∧ (a + b).toNat = a.toNat + b.toNat :=
  ⟨if_pos fits, by rw [UInt32.toNat_add, Nat.mod_eq_of_lt fits]⟩

/-- `debug_assert!`, compiled in where overflow checks are. -/
def debugAssert [Build] (condition : Bool) : Checked Unit :=
  if Build.overflowChecks && !condition then .error .assertion else .ok ()

theorem debugAssert_ok [Build] {condition : Bool} (holds : condition = true) :
    debugAssert condition = .ok () := by
  rw [debugAssert, holds, Bool.not_true, Bool.and_false]
  rfl

inductive Protocol where
  | tcp
  | udp
  | icmp
  | other
  deriving DecidableEq, Repr

/-! ### The one's-complement sum -/

theorem and_high_eq_zero {sum : UInt32} (h : sum.toNat < 65536) : sum &&& ~~~(0xFFFF : UInt32) = 0 := by
  apply UInt32.toNat.inj
  show sum.toNat &&& 0xFFFF0000 = 0
  apply Nat.eq_of_testBit_eq
  intro i
  rw [Nat.testBit_and, Nat.zero_testBit]
  by_cases low : i < 16
  · rw [show (0xFFFF0000 : Nat) = 0xFFFF <<< 16 from rfl, Nat.testBit_shiftLeft]
    simp [show ¬ 16 ≤ i by omega]
  · have power : 2 ^ 16 ≤ 2 ^ i := Nat.pow_le_pow_right (by omega) (by omega)
    rw [Nat.testBit_lt_two_pow (Nat.lt_of_lt_of_le h power), Bool.false_and]

theorem toNat_fold (sum : UInt32) :
    ((sum &&& (0xFFFF : UInt32)) + (sum >>> 16)).toNat = sum.toNat % 65536 + sum.toNat / 65536 := by
  have bound := sum.toNat_lt
  have low : (sum &&& (0xFFFF : UInt32)).toNat = sum.toNat % 65536 := Nat.and_two_pow_sub_one_eq_mod sum.toNat 16
  have high : (sum >>> 16).toNat = sum.toNat / 65536 := Nat.shiftRight_eq_div_pow sum.toNat 16
  rw [UInt32.toNat_add, low, high]
  omega

/-- `while (sum & !0xffff) != 0 { sum = (sum & 0xffff) + (sum >> 16); }` -/
def foldCarries (sum : UInt32) : UInt32 :=
  if sum &&& ~~~(0xFFFF : UInt32) = 0 then sum else foldCarries ((sum &&& (0xFFFF : UInt32)) + (sum >>> 16))
termination_by sum.toNat
decreasing_by
  rename_i high
  rw [toNat_fold]
  have : ¬ sum.toNat < 65536 := fun low => high (and_high_eq_zero low)
  omega

/-! ### IPv4 -/

structure Ipv4HeaderData where
  headerLength : UInt8
  totalLength : UInt16
  protocol : Protocol
  source : UInt32
  destination : UInt32
  deriving DecidableEq, Repr

def ipv4Protocol (byte : UInt8) : Protocol :=
  if byte = 1 then .icmp else if byte = 6 then .tcp else if byte = 17 then .udp else .other

namespace Ipv4HeaderData

def parse (raw : List UInt8) : Checked Ipv4HeaderData := do
  let versionAndIhl ← index raw 0
  let totalLength ← readU16 raw 2
  let protocol ← index raw 9
  let source ← readU32 raw 12
  let destination ← readU32 raw 16
  return {
    headerLength := (versionAndIhl &&& 0xf) <<< 2
    totalLength, source, destination
    protocol := ipv4Protocol protocol }

/-- What `parse` reads when the bytes are there. -/
def ofRaw (raw : List UInt8) : Ipv4HeaderData where
  headerLength := (byteAt raw 0 &&& 0xf) <<< 2
  totalLength := u16At raw 2
  protocol := ipv4Protocol (byteAt raw 9)
  source := u32At raw 12
  destination := u32At raw 16

theorem parse_eq (raw : List UInt8) :
    parse raw = if 20 ≤ raw.length then .ok (ofRaw raw) else .error .index := by
  unfold parse index readU16 readU32
  by_cases enough : 20 ≤ raw.length
  · simp [show 0 < raw.length by omega, show 4 ≤ raw.length by omega, show 9 < raw.length by omega,
      show 16 ≤ raw.length by omega, enough, ofRaw, pure, Except.pure]
  · rw [if_neg enough]
    split <;> simp only [ok_bind, error_bind]
    split <;> simp only [ok_bind, error_bind]
    split <;> simp only [ok_bind, error_bind]
    split <;> simp only [ok_bind, error_bind]

end Ipv4HeaderData

structure Ipv4Header where
  raw : List UInt8
  data : Ipv4HeaderData

namespace Ipv4Header

def setTotalLength (h : Ipv4Header) (totalLength : UInt16) : Ipv4Header where
  raw := writeU16 h.raw 2 totalLength
  data := { h.data with totalLength }

def setSource (h : Ipv4Header) (source : UInt32) : Ipv4Header where
  raw := writeU32 h.raw 12 source
  data := { h.data with source }

def setDestination (h : Ipv4Header) (destination : UInt32) : Ipv4Header where
  raw := writeU32 h.raw 16 destination
  data := { h.data with destination }

def swapSourceAndDestination (h : Ipv4Header) : Checked Ipv4Header := do
  let raw ← swapRange h.raw 12 16 4
  return { raw, data := { h.data with source := h.data.destination, destination := h.data.source } }

def setChecksum (h : Ipv4Header) (checksum : UInt16) : Ipv4Header :=
  { h with raw := writeU16 h.raw 10 checksum }

/-- The checksum field itself, word 5, is skipped. -/
def updateChecksum (h : Ipv4Header) : Ipv4Header :=
  let j := h.data.headerLength.toNat / 2
  let words := List.range 5 ++ (List.range (j - 6)).map (· + 6)
  let sum := words.foldl (fun sum i => sum + (u16At h.raw (2 * i)).toUInt32) (0 : UInt32)
  h.setChecksum (~~~foldCarries sum).toUInt16

end Ipv4Header

/-! ### IPv6 -/

structure Ipv6HeaderData where
  payloadLength : UInt16
  nextHeader : Protocol
  hopLimit : UInt8
  source : List UInt8
  destination : List UInt8
  deriving DecidableEq, Repr

def ipv6HeaderLength : UInt8 := 40

def ipv6Protocol (byte : UInt8) : Protocol :=
  if byte = 6 then .tcp else if byte = 17 then .udp else .other

namespace Ipv6HeaderData

def parse (raw : List UInt8) : Checked Ipv6HeaderData := do
  let source ← slice raw 8 24
  let destination ← slice raw 24 40
  let payloadLength ← readU16 raw 4
  let nextHeader ← index raw 6
  let hopLimit ← index raw 7
  return { payloadLength, hopLimit, source, destination, nextHeader := ipv6Protocol nextHeader }

def ofRaw (raw : List UInt8) : Ipv6HeaderData where
  payloadLength := u16At raw 4
  nextHeader := ipv6Protocol (byteAt raw 6)
  hopLimit := byteAt raw 7
  source := (raw.take 24).drop 8
  destination := (raw.take 40).drop 24

theorem parse_eq (raw : List UInt8) :
    parse raw = if 40 ≤ raw.length then .ok (ofRaw raw) else .error .index := by
  unfold parse slice readU16 index
  by_cases enough : 40 ≤ raw.length
  · simp [show 24 ≤ raw.length by omega, show 6 ≤ raw.length by omega, show 6 < raw.length by omega,
      show 7 < raw.length by omega, enough, ofRaw, pure, Except.pure]
  · rw [if_neg enough]
    split <;> simp only [ok_bind, error_bind]
    rw [if_neg (by omega), error_bind]

/-- `total_length`, in a build without overflow checks. -/
def totalLength (d : Ipv6HeaderData) : UInt16 := ipv6HeaderLength.toUInt16 + d.payloadLength

/-- `total_length`, in any build. -/
def checkedTotalLength [Build] (d : Ipv6HeaderData) : Checked UInt16 :=
  addU16 ipv6HeaderLength.toUInt16 d.payloadLength

end Ipv6HeaderData

/-- The 16 octets of an address. -/
abbrev Ipv6Addr := { octets : List UInt8 // octets.length = 16 }

structure Ipv6Header where
  raw : List UInt8
  data : Ipv6HeaderData

namespace Ipv6Header

def setPayloadLength (h : Ipv6Header) (payloadLength : UInt16) : Ipv6Header where
  raw := writeU16 h.raw 4 payloadLength
  data := { h.data with payloadLength }

def setSource (h : Ipv6Header) (source : Ipv6Addr) : Ipv6Header where
  raw := overwrite h.raw 8 source.1
  data := { h.data with source := source.1 }

def setDestination (h : Ipv6Header) (destination : Ipv6Addr) : Ipv6Header where
  raw := overwrite h.raw 24 destination.1
  data := { h.data with destination := destination.1 }

def swapSourceAndDestination (h : Ipv6Header) : Checked Ipv6Header := do
  let raw ← swapRange h.raw 8 24 16
  return { raw, data := { h.data with source := h.data.destination, destination := h.data.source } }

end Ipv6Header

/-! ### Either version -/

inductive IpAddr where
  | v4 (address : UInt32)
  | v6 (octets : List UInt8)
  deriving DecidableEq, Repr

inductive IpHeaderData where
  | v4 (data : Ipv4HeaderData)
  | v6 (data : Ipv6HeaderData)
  deriving DecidableEq, Repr

namespace IpHeaderData

def protocol : IpHeaderData → Protocol
  | v4 d => d.protocol
  | v6 d => d.nextHeader

def totalLength : IpHeaderData → UInt16
  | v4 d => d.totalLength
  | v6 d => d.totalLength

def headerLength : IpHeaderData → UInt8
  | v4 d => d.headerLength
  | v6 _ => ipv6HeaderLength

def source : IpHeaderData → IpAddr
  | v4 d => .v4 d.source
  | v6 d => .v6 d.source

def destination : IpHeaderData → IpAddr
  | v4 d => .v4 d.destination
  | v6 d => .v6 d.destination

def version : IpHeaderData → UInt8
  | v4 _ => 4
  | v6 _ => 6

def minHeaderLength : IpHeaderData → Nat
  | v4 _ => 20
  | v6 _ => 40

end IpHeaderData

inductive IpHeader where
  | v4 (h : Ipv4Header)
  | v6 (h : Ipv6Header)

namespace IpHeader

def raw : IpHeader → List UInt8
  | v4 h => h.raw
  | v6 h => h.raw

def data : IpHeader → IpHeaderData
  | v4 h => .v4 h.data
  | v6 h => .v6 h.data

def headerLength (h : IpHeader) : UInt8 := h.data.headerLength

def bind (raw : List UInt8) : IpHeaderData → IpHeader
  | .v4 data => .v4 { raw, data }
  | .v6 data => .v6 { raw, data }

def setTotalLength (totalLength : UInt16) : IpHeader → IpHeader
  | v4 h => .v4 (h.setTotalLength totalLength)
  | v6 h => .v6 (h.setPayloadLength (totalLength - ipv6HeaderLength.toUInt16))

def swapSourceAndDestination : IpHeader → Checked IpHeader
  | v4 h => do return .v4 (← h.swapSourceAndDestination)
  | v6 h => do return .v6 (← h.swapSourceAndDestination)

def updateChecksum : IpHeader → IpHeader
  | v4 h => .v4 h.updateChecksum
  | v6 h => .v6 h

end IpHeader

end Gnirehtet.Relay
