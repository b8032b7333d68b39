import Gnirehtet.Relay.Rejection

/-!
# What the next packet changes

The parser is handed all buffered bytes, and cuts the packet out itself. An IPv6 transport header is
looked for inside the packet. An IPv4 one is looked for in everything behind the IP header, so that a
packet too short for its transport header takes its ports from the packet that follows.
-/

namespace Gnirehtet.Relay
open Lib

/-! ### What the router decides -/

inductive Decision where
  | echoReply
  | rejectQuic
  | connection (id : ConnectionId)
  | drop
  deriving DecidableEq

namespace Router

def decision (packet : IpPacket) : Decision :=
  if packet.isIcmpEchoRequest then .echoReply
  else if isQuic packet then .rejectQuic
  else
    match packet.transportHeaderData with
    | some transport => .connection (.fromHeaders packet.ipHeaderData transport)
    | none => .drop

/-- A packet is routed by the decision about it. -/
theorem sendToNetwork_eq (r : Router) (env : Env) (packet : IpPacket) : r.sendToNetwork env packet =
    match decision packet with
    | .echoReply => do return r.answer (← IcmpHandler.buildEchoReply packet.raw)
    | .rejectQuic => do return r.answer (← IcmpHandler.buildPortUnreachable packet)
    | .connection id => r.sendFlow env id packet
    | .drop => .ok r := by
  unfold sendToNetwork decision
  split
  · rfl
  split
  · rfl
  · cases packet.transportHeaderData <;> rfl

end Router

/-- All that the relay takes from a packet. -/
structure Interpretation where
  ipHeaderData : IpHeaderData
  transportHeaderData : Option TransportHeaderData
  isValid : Bool
  headers : Checked (IpHeader × Option TransportHeader)
  payload : Checked (Option (List UInt8))
  decision : Decision

def IpPacket.interpretation (packet : IpPacket) : Interpretation where
  ipHeaderData := packet.ipHeaderData
  transportHeaderData := packet.transportHeaderData
  isValid := packet.isValid
  headers := packet.headers
  payload := packet.payload
  decision := Router.decision packet

/-- `none` for bytes that are rejected: they are no packet, or parsing them panics. -/
def interpret [Build] (raw : List UInt8) : Option Interpretation :=
  match IpPacket.parse raw with
  | .ok (some packet) => some packet.interpretation
  | _ => none

/-- What follows the packet in the buffer makes no difference. -/
def Local [Build] (p : List UInt8) : Prop :=
  ∀ x y, (p ++ x).length ≤ maxPacketLength → (p ++ y).length ≤ maxPacketLength →
    interpret (p ++ x) = interpret (p ++ y)

/-- An IPv4 packet holds its IP header, and as much of the transport header as is parsed. -/
def HeadersFit (p : List UInt8) : Prop := byteAt p 0 >>> 4 = 4 → ParsesV4 p

instance (p : List UInt8) : Decidable (HeadersFit p) := by
  unfold HeadersFit ParsesV4
  infer_instance

section Parse
variable {p : List UInt8}

theorem transportHeaderDataOf_append {protocol : Protocol} {raw : List UInt8} (fits : TransportFits protocol raw.length)
    (rest : List UInt8) : transportHeaderDataOf protocol (raw ++ rest) = transportHeaderDataOf protocol raw := by
  cases protocol with
  | tcp => simp only [transportHeaderDataOf, tcpOfRaw_append fits]
  | udp => simp only [transportHeaderDataOf, udpOfRaw_append fits]
  | icmp => rfl
  | other => rfl

theorem TransportFits.mono {protocol : Protocol} {n m : Nat} (fits : TransportFits protocol n) (le : n ≤ m) :
    TransportFits protocol m := by
  cases protocol with
  | tcp => exact Nat.le_trans fits le
  | udp => exact Nat.le_trans fits le
  | icmp => trivial
  | other => trivial

theorem stated_cases (stated : statedLength p = some p.length) :
    (byteAt p 0 >>> 4 = 4 ∧ (u16At p 2).toNat = p.length) ∨
      (byteAt p 0 >>> 4 = 6 ∧ (u16At p 4).toNat + 40 = p.length) := by
  unfold statedLength at stated
  split at stated
  · exact Or.inl ⟨‹_›, Option.some.inj stated⟩
  · split at stated
    · exact Or.inr ⟨‹_›, Option.some.inj stated⟩
    · cases stated

/-- The length field of an IPv4 header is its third and fourth byte. -/
theorem four_le_length (stated : (u16At p 2).toNat = p.length) (four : byteAt p 0 >>> 4 = 4) : 4 ≤ p.length := by
  by_contra short
  have outside : byteAt p 3 = 0 := by
    rw [byteAt, List.getD_eq_getElem?_getD, List.getElem?_eq_none (by omega)]
    rfl
  rw [toNat_u16At, outside, UInt8.toNat_zero] at stated
  have empty : p = [] := List.length_eq_zero_iff.mp (by omega)
  rw [empty] at four
  cases four

theorem ParsesV4.append (parses : ParsesV4 p) (rest : List UInt8) : ParsesV4 (p ++ rest) := by
  obtain ⟨long, header, transport⟩ := parses
  rw [ParsesV4, ipv4OfRaw_append long, List.length_append]
  exact ⟨by omega, by omega, transport.mono (by omega)⟩

theorem frontV4_append (stated : (u16At p 2).toNat = p.length) (parses : ParsesV4 p) (rest : List UInt8) :
    frontV4 (p ++ rest) = frontV4 p := by
  obtain ⟨long, header, transport⟩ := parses
  rw [← List.length_drop] at transport
  rw [frontV4, frontV4, ipv4OfRaw_append long, u16At_append_left (by omega), stated, List.take_left,
    List.take_length, List.drop_append_of_le_length header, transportHeaderDataOf_append transport]

theorem frontV6_append (stated : (u16At p 4).toNat + 40 = p.length) (rest : List UInt8) :
    frontV6 (p ++ rest) = frontV6 p := by
  rw [frontV6, frontV6, ipv6OfRaw_append (by omega), u16At_append_left (by omega), stated, List.take_left,
    List.take_length]

theorem first_append (rest : List UInt8) (some : p ≠ []) : byteAt (p ++ rest) 0 = byteAt p 0 :=
  byteAt_append_left (List.length_pos_iff.mpr some)

theorem parse_append_four [Build] (four : byteAt p 0 >>> 4 = 4) (stated : (u16At p 2).toNat = p.length)
    (parses : ParsesV4 p) (rest : List UInt8) : IpPacket.parse (p ++ rest) = .ok (some (frontV4 p)) := by
  have long := parses.1
  have some : p ≠ [] := List.length_pos_iff.mp (by omega)
  have complete : (u16At (p ++ rest) 2).toNat ≤ (p ++ rest).length := by
    rw [u16At_append_left (by omega), stated, List.length_append]
    omega
  rw [(parse_four (List.append_ne_nil_of_left_ne_nil some rest) (by rw [first_append rest some]; exact four)
    complete).1 (parses.append rest), frontV4_append stated parses]

/-- An IPv6 packet is read up to its own length. -/
theorem interpret_append_six [Build] (six : byteAt p 0 >>> 4 = 6) (stated : (u16At p 4).toNat + 40 = p.length)
    (small : p.length < 65536) (rest : List UInt8) : interpret (p ++ rest) = interpret p := by
  have some : p ≠ [] := List.length_pos_iff.mp (by omega)
  have field : u16At (p ++ rest) 4 = u16At p 4 := u16At_append_left (by omega)
  obtain ⟨ok, fails⟩ := parse_six some six (by omega) (by omega)
  obtain ⟨ok', fails'⟩ := parse_six (List.append_ne_nil_of_left_ne_nil some rest)
    (by rw [first_append rest some]; exact six) (by rw [field]; omega)
    (by rw [field, List.length_append]; omega)
  have same : ParsesV6 (p ++ rest) ↔ ParsesV6 p := by
    rw [ParsesV6, ParsesV6, field, ipv6OfRaw_append (by omega)]
  by_cases parses : ParsesV6 p
  · rw [interpret, interpret, ok parses, ok' (same.mpr parses), frontV6_append stated]
  · obtain ⟨e, failed⟩ := fails parses
    obtain ⟨e', failed'⟩ := fails' (mt same.mp parses)
    rw [interpret, interpret, failed, failed']

theorem Ipv4HeaderData.headerLength_le (raw : List UInt8) : (ofRaw raw).headerLength.toNat ≤ 60 := by
  have low : (byteAt raw 0 &&& 0xf).toNat = (byteAt raw 0).toNat % 16 := Nat.and_two_pow_sub_one_eq_mod _ 4
  rw [ofRaw, UInt8.toNat_shiftLeft, low]
  simp only [UInt8.reduceToNat, Nat.reduceMod, Nat.shiftLeft_eq, Nat.reducePow]
  omega

/-- A hundred bytes behind the start of a header are enough for any transport header. -/
theorem parsesV4_of_long (long : 100 ≤ p.length) : ParsesV4 p := by
  have most := Ipv4HeaderData.headerLength_le p
  refine ⟨by omega, by omega, ?_⟩
  cases (Ipv4HeaderData.ofRaw p).protocol with
  | tcp =>
    show 16 ≤ _
    omega
  | udp =>
    show 4 ≤ _
    omega
  | icmp => trivial
  | other => trivial

end Parse

/-- A packet whose headers do not fit is rejected alone, and accepted with enough bytes behind it. -/
theorem not_local_of_unfit [Build] {p : List UInt8} (four : byteAt p 0 >>> 4 = 4)
    (stated : (u16At p 2).toNat = p.length) (unfit : ¬ ParsesV4 p) : ¬ Local p := by
  intro same
  have long := four_le_length stated four
  have some : p ≠ [] := List.length_pos_iff.mp (by omega)
  have short : ¬ 100 ≤ p.length := mt parsesV4_of_long unfit
  have length : (p ++ List.replicate 100 0).length = p.length + 100 := by
    rw [List.length_append, List.length_replicate]
  have alone : interpret (p ++ []) = none := by
    obtain ⟨e, failed⟩ := (parse_four some four (by omega)).2 unfit
    rw [List.append_nil, interpret, failed]
  have followed : interpret (p ++ List.replicate 100 0) =
      Option.some (frontV4 (p ++ List.replicate 100 0)).interpretation := by
    have complete : (u16At (p ++ List.replicate 100 0) 2).toNat ≤ (p ++ List.replicate 100 0).length := by
      rw [u16At_append_left (by omega), stated, length]
      omega
    rw [interpret, (parse_four (List.append_ne_nil_of_left_ne_nil some _)
      (by rw [first_append _ some]; exact four) complete).1 (parsesV4_of_long (by rw [length]; omega))]
  have equal := same [] (List.replicate 100 0) (by rw [List.append_nil, maxPacketLength]; omega)
    (by rw [length, maxPacketLength]; omega)
  rw [alone, followed] at equal
  cases equal

theorem local_of_fit [Build] {p : List UInt8} (stated : statedLength p = some p.length) (fit : HeadersFit p) :
    Local p := by
  intro x y shortX shortY
  rcases stated_cases stated with ⟨four, length⟩ | ⟨six, length⟩
  · have parses := fit four
    rw [interpret, interpret, parse_append_four four length parses, parse_append_four four length parses]
  · by_cases small : p.length < 65536
    · rw [interpret_append_six six length small, interpret_append_six six length small]
    · -- Such a packet fills the buffer, and nothing follows it.
      rw [List.length_append, maxPacketLength] at shortX shortY
      have empty (z : List UInt8) (short : p.length + z.length ≤ 65536) : z = [] :=
        List.length_eq_zero_iff.mp (by omega)
      rw [empty x shortX, empty y shortY]

/-- The interpretation of a packet is its own exactly when it is an IPv6 packet, or an IPv4 packet that
holds what is parsed of its headers. -/
theorem local_iff [Build] {p : List UInt8} (stated : statedLength p = some p.length) : Local p ↔ HeadersFit p := by
  constructor
  · intro isLocal four
    rcases stated_cases stated with ⟨_, length⟩ | ⟨six, _⟩
    · by_contra unfit
      exact not_local_of_unfit four length unfit isLocal
    · rw [four] at six
      cases six
  · exact local_of_fit stated

namespace Sample

theorem local_small : let _ : Build := { overflowChecks := true }; Local smallPacket := by
  intro _
  exact (local_iff (p := smallPacket) (by decide)).mpr (by decide)

/-- A UDP packet that ends with its IP header. -/
def headerOnly : List UInt8 := [0x45, 0, 0, 20, 0, 0, 0, 0, 64, 17, 0, 0, 10, 0, 0, 2, 8, 8, 8, 8]

/-- The start of a packet decides whether the one before it is rejected as QUIC or opens a flow. -/
theorem ports_from_next :
    let _ : Build := { overflowChecks := true }
    statedLength headerOnly = some headerOnly.length ∧ ¬ Local headerOnly ∧
      (interpret (headerOnly ++ [0x45, 0, 1, 187])).map (·.decision) = some .rejectQuic ∧
      (interpret (headerOnly ++ [0x45, 0, 0, 53])).map (·.decision) = some (.connection {
        protocol := .udp
        sourceIp := .v4 0x0A000002
        sourcePort := 0x4500
        destinationIp := .v4 0x08080808
        destinationPort := 53 }) := by
  intro _
  have quic : (interpret (headerOnly ++ [0x45, 0, 1, 187])).map (·.decision) = some .rejectQuic := by decide
  have flow : (interpret (headerOnly ++ [0x45, 0, 0, 53])).map (·.decision) = some (.connection {
      protocol := .udp
      sourceIp := .v4 0x0A000002
      sourcePort := 0x4500
      destinationIp := .v4 0x08080808
      destinationPort := 53 }) := by decide
  refine ⟨by decide, fun same => ?_, quic, flow⟩
  have equal := same [0x45, 0, 1, 187] [0x45, 0, 0, 53] (by decide) (by decide)
  rw [equal, flow] at quic
  cases quic

end Sample

end Gnirehtet.Relay
