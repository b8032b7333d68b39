import Gnirehtet.Relay.Delivery
import Gnirehtet.Relay.Router

/-!
# Packets that panic

The lengths in a packet come from the device, and nothing rejects a packet whose lengths disagree: it
is indexed, and the thread panics. Here is exactly when. `FrontSafe` says of the buffered bytes and
the router that the packet at the front, if there is one, is handled without a panic.
-/

namespace Gnirehtet.Relay
open Lib

/-! ### Parsing -/

/-- What parsing a transport header needs. -/
def TransportFits (protocol : Protocol) (n : Nat) : Prop :=
  match protocol with
  | .tcp => 16 ≤ n
  | .udp => 4 ≤ n
  | _ => True

instance (protocol : Protocol) (n : Nat) : Decidable (TransportFits protocol n) := by
  unfold TransportFits
  split <;> infer_instance

theorem parse_transport_eq (protocol : Protocol) (raw : List UInt8) : TransportHeaderData.parse protocol raw =
    if TransportFits protocol raw.length then .ok (transportHeaderDataOf protocol raw) else .error .index := by
  cases protocol with
  | tcp =>
    rw [TransportHeaderData.parse, TcpHeaderData.parse_eq]
    by_cases long : 16 ≤ raw.length
    · rw [if_pos long, if_pos (show TransportFits .tcp raw.length from long)]
      rfl
    · rw [if_neg long, if_neg (show ¬ TransportFits .tcp raw.length from long)]
      rfl
  | udp =>
    rw [TransportHeaderData.parse, UdpHeaderData.parse_eq]
    by_cases long : 4 ≤ raw.length
    · rw [if_pos long, if_pos (show TransportFits .udp raw.length from long)]
      rfl
    · rw [if_neg long, if_neg (show ¬ TransportFits .udp raw.length from long)]
      rfl
  | icmp => rfl
  | other => rfl

/-- What parsing an IPv4 packet needs besides its total length. The transport header is looked for in
all buffered bytes. -/
def ParsesV4 (data : List UInt8) : Prop :=
  20 ≤ data.length ∧ (Ipv4HeaderData.ofRaw data).headerLength.toNat ≤ data.length ∧
    TransportFits (Ipv4HeaderData.ofRaw data).protocol
      (data.length - (Ipv4HeaderData.ofRaw data).headerLength.toNat)

/-- The same for IPv6. -/
def ParsesV6 (data : List UInt8) : Prop :=
  TransportFits (Ipv6HeaderData.ofRaw data).nextHeader (u16At data 4).toNat

def frontV4 (data : List UInt8) : IpPacket where
  raw := data.take (u16At data 2).toNat
  ipHeaderData := .v4 (.ofRaw data)
  transportHeaderData := transportHeaderDataOf (Ipv4HeaderData.ofRaw data).protocol
    (data.drop (Ipv4HeaderData.ofRaw data).headerLength.toNat)

def frontV6 (data : List UInt8) : IpPacket where
  raw := data.take ((u16At data 4).toNat + 40)
  ipHeaderData := .v6 (.ofRaw data)
  transportHeaderData := transportHeaderDataOf (Ipv6HeaderData.ofRaw data).nextHeader
    ((data.take ((u16At data 4).toNat + 40)).drop 40)

theorem parse_four [Build] {data : List UInt8} (nonempty : data ≠ []) (four : byteAt data 0 >>> 4 = 4)
    (complete : (u16At data 2).toNat ≤ data.length) :
    (ParsesV4 data → IpPacket.parse data = .ok (some (frontV4 data))) ∧
      (¬ ParsesV4 data → ∃ e, IpPacket.parse data = .error e) := by
  unfold ParsesV4
  rw [IpPacket.parse, if_neg (by simpa using nonempty), if_pos four, IpPacket.parseV4, Ipv4HeaderData.parse_eq]
  by_cases long : 20 ≤ data.length
  · rw [if_pos long, ok_bind, sliceFrom]
    by_cases header : (Ipv4HeaderData.ofRaw data).headerLength.toNat ≤ data.length
    · rw [if_pos header, ok_bind, parse_transport_eq, List.length_drop]
      by_cases transport : TransportFits (Ipv4HeaderData.ofRaw data).protocol
          (data.length - (Ipv4HeaderData.ofRaw data).headerLength.toNat)
      · rw [if_pos transport, ok_bind, sliceTo, if_pos (show (Ipv4HeaderData.ofRaw data).totalLength.toNat ≤ _
          from complete)]
        exact ⟨fun _ => rfl, fun wrong => absurd ⟨long, header, transport⟩ wrong⟩
      · rw [if_neg transport]
        exact ⟨fun ok => absurd ok.2.2 transport, fun _ => ⟨_, rfl⟩⟩
    · rw [if_neg header]
      exact ⟨fun ok => absurd ok.2.1 header, fun _ => ⟨_, rfl⟩⟩
  · rw [if_neg long]
    exact ⟨fun ok => absurd ok.1 long, fun _ => ⟨_, rfl⟩⟩

theorem parse_six [Build] {data : List UInt8} (nonempty : data ≠ []) (six : byteAt data 0 >>> 4 = 6)
    (small : (u16At data 4).toNat + 40 < 65536) (complete : (u16At data 4).toNat + 40 ≤ data.length) :
    (ParsesV6 data → IpPacket.parse data = .ok (some (frontV6 data))) ∧
      (¬ ParsesV6 data → ∃ e, IpPacket.parse data = .error e) := by
  obtain ⟨added, sum⟩ := addU16_ok (a := 40) (b := u16At data 4) (by simp only [UInt16.reduceToNat]; omega)
  have total : Ipv6HeaderData.checkedTotalLength (.ofRaw data) = .ok (40 + u16At data 4) := added
  have sum : (40 + u16At data 4).toNat = (u16At data 4).toNat + 40 := sum.trans (Nat.add_comm ..)
  have length : ((data.take ((u16At data 4).toNat + 40)).drop 40).length = (u16At data 4).toNat := by
    rw [List.length_drop, List.length_take]
    omega
  unfold ParsesV6
  rw [IpPacket.parse, if_neg (by simpa using nonempty), if_neg (by rw [six]; decide), if_pos six, IpPacket.parseV6,
    Ipv6HeaderData.parse_eq, if_pos (by omega), ok_bind, total, ok_bind, sum, slice,
    if_pos (by rw [show ipv6HeaderLength.toNat = 40 from rfl]; omega), ok_bind, parse_transport_eq]
  have same : ((data.take ((u16At data 4).toNat + 40)).drop ipv6HeaderLength.toNat).length =
    (u16At data 4).toNat := length
  rw [same]
  by_cases transport : TransportFits (Ipv6HeaderData.ofRaw data).nextHeader (u16At data 4).toNat
  · rw [if_pos transport, ok_bind, sliceTo, if_pos complete]
    exact ⟨fun _ => rfl, fun wrong => absurd transport wrong⟩
  · rw [if_neg transport]
    exact ⟨fun ok => absurd ok transport, fun _ => ⟨_, rfl⟩⟩

/-! ### Routing -/

/-- What every parsed packet is. -/
structure Parsed (packet : IpPacket) : Prop where
  small : packet.raw.length < 65536
  kind : ∀ transport, packet.transportHeaderData = some transport →
    transport.protocol = packet.ipHeaderData.protocol

theorem transportHeaderDataOf_protocol {protocol : Protocol} {raw : List UInt8} {transport : TransportHeaderData}
    (data : transportHeaderDataOf protocol raw = some transport) : transport.protocol = protocol := by
  cases protocol <;> cases data <;> rfl

theorem parsed_frontV4 (data : List UInt8) : Parsed (frontV4 data) where
  small := by
    have := (u16At data 2).toNat_lt
    rw [frontV4, List.length_take]
    omega
  kind _ := transportHeaderDataOf_protocol

theorem parsed_frontV6 {data : List UInt8} (small : (u16At data 4).toNat + 40 < 65536) : Parsed (frontV6 data) where
  small := by
    rw [frontV6, List.length_take]
    omega
  kind _ := transportHeaderDataOf_protocol

def HeadersInside (packet : IpPacket) (transport : TransportHeaderData) : Prop :=
  packet.transportIndex + transport.headerLength.toNat ≤ packet.raw.length

instance (packet : IpPacket) (transport : TransportHeaderData) : Decidable (HeadersInside packet transport) :=
  inferInstanceAs (Decidable (_ ≤ _))

def Creatable (packet : IpPacket) : TransportHeaderData → Prop
  | .tcp data => packet.ipHeaderData.minHeaderLength ≤ packet.transportIndex ∧ 20 ≤ data.headerLength.toNat
  | .udp _ => packet.ipHeaderData.minHeaderLength ≤ packet.transportIndex

section Headers
variable {packet : IpPacket} {transport : TransportHeaderData}
  (data : packet.transportHeaderData = some transport)
include data

theorem payload_eq : packet.payload = if HeadersInside packet transport then
    .ok (some (packet.raw.drop (packet.transportIndex + transport.headerLength.toNat))) else .error .index := by
  rw [IpPacket.payload, data]
  dsimp only
  rw [sliceFrom]
  split
  · rename_i inside
    exact (if_pos inside).symm
  · rename_i outside
    exact (if_neg outside).symm

theorem transportHeader_inside (inside : HeadersInside packet transport) : ∃ raw,
    packet.transportHeader = .ok (some (.bind raw transport)) := by
  rw [IpPacket.transportHeader, data]
  dsimp only
  rw [slice, if_pos ⟨Nat.le_add_right .., inside⟩]
  exact ⟨_, rfl⟩

theorem headers_inside (inside : HeadersInside packet transport) : packet.headers = .ok
    (.bind (packet.raw.take packet.transportIndex) packet.ipHeaderData,
      some (.bind ((packet.raw.drop packet.transportIndex).take transport.headerLength.toNat) transport)) := by
  unfold HeadersInside at inside
  rw [IpPacket.headers, sliceTo, if_pos (by omega), ok_bind, data]
  dsimp only
  rw [sliceFrom, if_pos (by omega), ok_bind, sliceTo, if_pos (by rw [List.length_drop]; omega)]
  rfl

theorem headers_outside (outside : ¬ HeadersInside packet transport) : ∃ e, packet.headers = .error e := by
  unfold HeadersInside at outside
  rw [IpPacket.headers, sliceTo]
  by_cases front : packet.transportIndex ≤ packet.raw.length
  · rw [if_pos front, ok_bind, data]
    dsimp only
    rw [sliceFrom, if_pos front, ok_bind, sliceTo, if_neg (by rw [List.length_drop]; omega), error_bind]
    exact ⟨_, rfl⟩
  · rw [if_neg front, error_bind]
    exact ⟨_, rfl⟩

end Headers

theorem Connection.sendToNetwork_isOk {c : Connection} {packet : IpPacket} {transport : TransportHeaderData}
    {random : UInt32} (parsed : Parsed packet) (data : packet.transportHeaderData = some transport)
    (kind : c.protocol = transport.protocol) :
    (∃ out, c.sendToNetwork packet random = .ok out) ↔ HeadersInside packet transport := by
  have payload := payload_eq data
  cases c with
  | tcp c =>
    cases transport with
    | udp h => cases kind
    | tcp h =>
      by_cases inside : HeadersInside packet (.tcp h)
      · obtain ⟨raw, header⟩ := transportHeader_inside data inside
        rw [if_pos inside] at payload
        refine iff_of_true ?_ inside
        rw [Connection.sendToNetwork, segmentOf, header, ok_bind, payload]
        exact ⟨_, rfl⟩
      · rw [if_neg inside] at payload
        refine iff_of_false ?_ inside
        rintro ⟨out, sent⟩
        obtain ⟨segment, cut, _⟩ := bind_ok sent
        obtain ⟨header, _, cut⟩ := bind_ok cut
        rw [payload] at cut
        cases cut
  | udp c =>
    by_cases inside : HeadersInside packet transport
    · rw [if_pos inside] at payload
      have small : (packet.raw.drop (packet.transportIndex + transport.headerLength.toNat)).length ≤
          maxDatagramLength := by
        have := parsed.small
        rw [List.length_drop, maxDatagramLength]
        omega
      refine iff_of_true ?_ inside
      rw [Connection.sendToNetwork, UdpConnection.sendToNetwork, payload, ok_bind]
      dsimp only
      rw [DatagramBuffer.readFrom_eq _ small, ok_bind]
      split <;> exact ⟨_, rfl⟩
    · rw [if_neg inside] at payload
      refine iff_of_false ?_ inside
      rintro ⟨out, sent⟩
      rw [Connection.sendToNetwork, UdpConnection.sendToNetwork, payload] at sent
      cases sent

theorem HeadersInside.lengths {packet : IpPacket} {transport : TransportHeaderData} (inside : HeadersInside packet transport) :
    (packet.raw.take packet.transportIndex).length = packet.transportIndex ∧
      ((packet.raw.drop packet.transportIndex).take transport.headerLength.toNat).length =
        transport.headerLength.toNat := by
  unfold HeadersInside at inside
  rw [List.length_take, List.length_take, List.length_drop]
  exact ⟨by omega, by omega⟩

section Create
variable {packet : IpPacket} (env : Env) (buffer : StreamBuffer) (parsed : Parsed packet)
include parsed

theorem createTcp_isOk {h : TcpHeaderData} (data : packet.transportHeaderData = some (.tcp h))
    (inside : HeadersInside packet (.tcp h)) :
    (∃ out, Router.createConnection env (.fromHeaders packet.ipHeaderData (.tcp h)) buffer packet = .ok out) ↔
      (env.opens (.fromHeaders packet.ipHeaderData (.tcp h)) → Creatable packet (.tcp h)) := by
  have kind := parsed.kind _ data
  obtain ⟨whole, part⟩ := inside.lengths
  have created := TcpConnection.create_isOk buffer
    (.bind (packet.raw.take packet.transportIndex) packet.ipHeaderData)
    ⟨(packet.raw.drop packet.transportIndex).take h.headerLength.toNat, h⟩
  rw [IpHeader.raw_bind, whole, IpHeader.headerLength, IpHeader.data_bind] at created
  dsimp only [TransportHeaderData.headerLength] at created part
  rw [part] at created
  rw [Router.createConnection, headers_inside data inside, ok_bind]
  dsimp only
  split
  · split
    · rename_i opens
      rw [forall_prop_of_true opens]
      refine (bind_isOk fun _ => ⟨_, rfl⟩).trans (created.trans ?_)
      exact ⟨fun h => ⟨h.2.2, h.1⟩, fun h => ⟨h.2, rfl, h.1⟩⟩
    · rename_i closed
      exact iff_of_true ⟨_, rfl⟩ fun opens => absurd opens closed
  · rename_i other
    cases other.symm.trans kind.symm
  · rename_i other _
    exact absurd kind.symm other

theorem createUdp_isOk {h : UdpHeaderData} (data : packet.transportHeaderData = some (.udp h))
    (inside : HeadersInside packet (.udp h)) :
    (∃ out, Router.createConnection env (.fromHeaders packet.ipHeaderData (.udp h)) buffer packet = .ok out) ↔
      (env.opens (.fromHeaders packet.ipHeaderData (.udp h)) → Creatable packet (.udp h)) := by
  have kind := parsed.kind _ data
  have whole := inside.lengths.1
  have part : ((packet.raw.drop packet.transportIndex).take 8).length = 8 := inside.lengths.2
  have created := Packetizer.new_isOk
    (.bind (packet.raw.take packet.transportIndex) packet.ipHeaderData)
    (.bind ((packet.raw.drop packet.transportIndex).take 8) (.udp h))
  rw [IpHeader.raw_bind, whole, IpHeader.headerLength, IpHeader.data_bind, TransportHeader.raw_bind, part]
    at created
  rw [Router.createConnection, headers_inside data inside, ok_bind]
  dsimp only
  split
  · rename_i other
    cases other.symm.trans kind.symm
  · split
    · rename_i opens
      rw [forall_prop_of_true opens]
      refine (bind_isOk fun _ => ⟨_, rfl⟩).trans ?_
      rw [UdpConnection.create]
      refine (bind_isOk fun _ => ⟨_, rfl⟩).trans (created.trans ?_)
      exact ⟨fun h => h.2.1, fun h => ⟨⟨rfl, rfl⟩, h, by decide⟩⟩
    · rename_i closed
      exact iff_of_true ⟨_, rfl⟩ fun opens => absurd opens closed
  · rename_i other
    exact absurd kind.symm other

theorem create_isOk {transport : TransportHeaderData} (data : packet.transportHeaderData = some transport) :
    (∃ out, Router.createConnection env (.fromHeaders packet.ipHeaderData transport) buffer packet = .ok out) ↔
      HeadersInside packet transport ∧
        (env.opens (.fromHeaders packet.ipHeaderData transport) → Creatable packet transport) := by
  by_cases inside : HeadersInside packet transport
  · rw [and_iff_right inside]
    cases transport with
    | tcp h => exact createTcp_isOk env buffer parsed data inside
    | udp h => exact createUdp_isOk env buffer parsed data inside
  · obtain ⟨e, failed⟩ := headers_outside data inside
    refine iff_of_false ?_ fun h => inside h.1
    rintro ⟨out, created⟩
    rw [Router.createConnection, failed] at created
    cases created

end Create

/-- A packet is answered, dropped in the quarantine of its flow, or needs its headers. -/
def Router.Handles (r : Router) (env : Env) (packet : IpPacket) : Prop :=
  packet.isIcmpEchoRequest ∨ Router.isQuic packet ∨ ∀ transport, packet.transportHeaderData = some transport →
    (r.purge env.now).isRecentlyClosed (.fromHeaders packet.ipHeaderData transport) ∨
      HeadersInside packet transport ∧
        (r.connections.lookup (.fromHeaders packet.ipHeaderData transport) = none →
          env.opens (.fromHeaders packet.ipHeaderData transport) → Creatable packet transport)

theorem sendFlow_isOk {r : Router} {env : Env} {packet : IpPacket} {transport : TransportHeaderData}
    (parsed : Parsed packet) (data : packet.transportHeaderData = some transport) :
    (∃ r', r.sendFlow env (.fromHeaders packet.ipHeaderData transport) packet = .ok r') ↔
      (r.purge env.now).isRecentlyClosed (.fromHeaders packet.ipHeaderData transport) ∨
      HeadersInside packet transport ∧
        (r.connections.lookup (.fromHeaders packet.ipHeaderData transport) = none →
          env.opens (.fromHeaders packet.ipHeaderData transport) → Creatable packet transport) := by
  have kind := parsed.kind _ data
  rw [Router.sendFlow]
  split
  · rename_i quarantined
    exact iff_of_true ⟨_, rfl⟩ (Or.inl quarantined)
  · rename_i free
    rw [or_iff_right free]
    split
    · rename_i c found
      have found : r.connections.lookup (.fromHeaders packet.ipHeaderData transport) = some c := found
      have known : (c.borrow (r.purge env.now).buffer).protocol = transport.protocol := by
        rw [Connection.protocol_borrow, r.typed _ c found, kind]
        rfl
      rw [Router.sendOccupied, found]
      refine (bind_isOk fun _ => ⟨_, rfl⟩).trans ((Connection.sendToNetwork_isOk parsed data known).trans ?_)
      exact ⟨fun inside => ⟨inside, nofun⟩, fun h => h.1⟩
    · rename_i vacant
      have vacant : r.connections.lookup (.fromHeaders packet.ipHeaderData transport) = none := vacant
      have created := create_isOk env (r.purge env.now).buffer parsed data
      rw [vacant, forall_prop_of_true rfl, ← created, Router.sendVacant]
      constructor
      · rintro ⟨r', sent⟩
        obtain ⟨c, ok, _⟩ := bind_ok sent
        exact ⟨c, ok⟩
      · rintro ⟨c, ok⟩
        rw [ok, ok_bind]
        cases c with
        | none => exact ⟨_, rfl⟩
        | some c =>
          have inside := (created.mp ⟨_, ok⟩).1
          exact (bind_isOk fun _ => ⟨_, rfl⟩).mpr
            ((Connection.sendToNetwork_isOk parsed data (c.2.trans kind.symm)).mpr inside)

theorem sendToNetwork_isOk {r : Router} {env : Env} {packet : IpPacket} (parsed : Parsed packet) :
    (∃ r', r.sendToNetwork env packet = .ok r') ↔ r.Handles env packet := by
  unfold Router.sendToNetwork Router.Handles
  split
  · rename_i ping
    obtain ⟨reply, built⟩ := IcmpHandler.buildEchoReply_ok packet.raw
    exact iff_of_true ⟨_, by rw [built]; rfl⟩ (Or.inl ping)
  · rename_i notPing
    rw [or_iff_right notPing]
    split
    · rename_i quic
      obtain ⟨raw, built⟩ := IcmpHandler.buildPortUnreachable_ok packet
      exact iff_of_true ⟨_, by rw [built]; rfl⟩ (Or.inl quic)
    · rename_i notQuic
      rw [or_iff_right notQuic]
      cases data : packet.transportHeaderData with
      | none => exact iff_of_true ⟨r, rfl⟩ nofun
      | some transport =>
        dsimp only
        rw [sendFlow_isOk parsed data]
        exact ⟨fun h t same => by cases same; exact h, fun h => h transport rfl⟩

/-- A packet whose headers are inside goes through in every state of the router. -/
theorem sendToNetwork_inside {packet : IpPacket} {transport : TransportHeaderData} (small : packet.raw.length < 65536)
    (data : packet.transportHeaderData = some transport) (kind : transport.protocol = packet.ipHeaderData.protocol)
    (inside : HeadersInside packet transport) (creatable : Creatable packet transport) (r : Router) (env : Env) :
    ∃ r', r.sendToNetwork env packet = .ok r' := by
  have parsed : Parsed packet := by
    refine ⟨small, fun transport' data' => ?_⟩
    rw [data] at data'
    cases data'
    exact kind
  refine (sendToNetwork_isOk parsed).mpr (Or.inr (Or.inr fun transport' data' => Or.inr ?_))
  rw [data] at data'
  cases data'
  exact ⟨inside, fun _ _ => creatable⟩

/-! ### The stream -/

/-- A router and its host. Before the `n`-th packet the host may do anything else to the router (polls,
cleanups); `host n` says what, and what it answers while the packet is routed. -/
structure World where
  router : Router
  host : Nat → Router → Router × Env
  next : Nat

namespace World

def send (w : World) (packet : IpPacket) : Checked World := do
  let router ← (w.host w.next w.router).1.sendToNetwork (w.host w.next w.router).2 packet
  return { w with router, next := w.next + 1 }

def Handles (w : World) (packet : IpPacket) : Prop :=
  (w.host w.next w.router).1.Handles (w.host w.next w.router).2 packet

theorem send_isOk {w : World} {packet : IpPacket} (parsed : Parsed packet) :
    (∃ w', w.send packet = .ok w') ↔ w.Handles packet :=
  (bind_isOk fun _ => ⟨_, rfl⟩).trans (sendToNetwork_isOk parsed)

end World

/-- The lengths of the packet at the front, if it is complete, agree with each other. -/
structure FrontSafe (w : World) (data : List UInt8) : Prop where
  four : 4 ≤ data.length → byteAt data 0 >>> 4 = 4 → (u16At data 2).toNat ≤ data.length →
    ParsesV4 data ∧ w.Handles (frontV4 data)
  six : 6 ≤ data.length → byteAt data 0 >>> 4 = 6 → (u16At data 4).toNat + 40 < 65536 ∧
    ((u16At data 4).toNat + 40 ≤ data.length → ParsesV6 data ∧ w.Handles (frontV6 data))

namespace Feed
variable [Build]

/-- The length of an IPv6 packet at the front is computed without an overflow. -/
def SumExact (data : List UInt8) : Prop := 6 ≤ data.length → byteAt data 0 >>> 4 = 6 →
  ∃ total, addU16 (u16At data 4) 40 = .ok total ∧ total.toNat = (u16At data 4).toNat + 40

/-- The states at the top of the loop while the chunks are fed. -/
def ReachedBy (s : Feed World) (chunks : List (List UInt8)) (s' : Feed World) : Prop :=
  ∃ before chunk after mid, chunks = before ++ chunk :: after ∧ FeedsAll World.send s before mid ∧
    Reached World.send mid chunk s'

/-- No chunk makes the relay panic, and no length overflows. -/
structure Quiet (s : Feed World) (chunks : List (List UInt8)) : Prop where
  noPanic : ∀ before chunk after mid, chunks = before ++ chunk :: after → FeedsAll World.send s before mid →
    ∀ e, ¬ Feeds World.send mid chunk (.error e)
  noOverflow : ∀ s', ReachedBy s chunks s' → SumExact s'.held

theorem turn_of_incomplete {s : Feed World} (info : packetInfo s.held = .ok none) (e : Panic) :
    turn World.send s ≠ .fail e := by
  intro failed
  by_cases front : s.held = [] ∨ StartsPacket s.held
  · rw [turn_wait World.send info front] at failed
    cases failed
  · obtain ⟨some, garbage⟩ := not_or.mp front
    obtain ⟨b, skipped, _⟩ := skip_of_garbage garbage some
    rw [turn_none World.send info, skipped] at failed
    cases failed

/-- A turn on a complete packet fails unless the packet parses and is handled. -/
theorem turn_of_complete {s : Feed World} {version : UInt8} {length : UInt16} {packet : IpPacket} {parses : Prop}
    (info : packetInfo s.held = .ok (some (version, length))) (parsed : Parsed packet)
    (ok : parses → IpPacket.parse s.held = .ok (some packet))
    (fails : ¬ parses → ∃ e, IpPacket.parse s.held = .error e) :
    (∀ e, turn World.send s ≠ .fail e) ↔ parses ∧ s.router.Handles packet := by
  by_cases fits : parses
  · obtain ⟨b, _, _, turned⟩ := turn_packet World.send info (ok fits)
    rw [turned, and_iff_right fits, ← World.send_isOk parsed]
    cases sent : s.router.send packet with
    | ok w => exact iff_of_true nofun ⟨w, rfl⟩
    | error e => exact iff_of_false (fun h => h e rfl) (by rintro ⟨w, h⟩; cases h)
  · obtain ⟨e, failed⟩ := fails fits
    exact iff_of_false (fun h => h e (turn_of_parse_error World.send info failed)) fun h => fits h.1

theorem sumExact_iff {data : List UInt8} (long : 6 ≤ data.length) (six : byteAt data 0 >>> 4 = 6) :
    SumExact data ↔ (u16At data 4).toNat + 40 < 65536 := by
  have forty : (40 : UInt16).toNat = 40 := rfl
  constructor
  · intro exact
    obtain ⟨total, _, sum⟩ := exact long six
    have := total.toNat_lt
    omega
  · intro small _ _
    obtain ⟨added, sum⟩ := addU16_ok (a := u16At data 4) (b := 40) (by rw [forty]; exact small)
    exact ⟨_, added, by rw [sum, forty]⟩

omit [Build] in
theorem nonempty_of_long {data : List UInt8} {n : Nat} (long : n + 1 ≤ data.length) : data ≠ [] := by
  rintro rfl
  simp at long

/-- A turn neither panics nor overflows exactly when the packet at the front is consistent. -/
theorem turn_safe_iff (s : Feed World) :
    (∀ e, turn World.send s ≠ .fail e) ∧ SumExact s.held ↔ FrontSafe s.router s.held := by
  by_cases long : 4 ≤ s.held.length
  · have nonempty := nonempty_of_long long
    by_cases four : byteAt s.held 0 >>> 4 = 4
    · have notSix : byteAt s.held 0 >>> 4 ≠ 6 := by rw [four]; decide
      have exact : SumExact s.held := fun _ six => absurd six notSix
      rw [and_iff_left exact]
      by_cases complete : (u16At s.held 2).toNat ≤ s.held.length
      · have info : packetInfo s.held = .ok (some (4, u16At s.held 2)) := by
          rw [packetInfo, if_neg (by omega), if_pos four, if_pos complete]
        obtain ⟨ok, fails⟩ := parse_four nonempty four complete
        rw [turn_of_complete info (parsed_frontV4 _) ok fails]
        exact ⟨fun h => ⟨fun _ _ _ => h, fun _ six => absurd six notSix⟩, fun h => h.four long four complete⟩
      · have info : packetInfo s.held = .ok none := by
          rw [packetInfo, if_neg (by omega), if_pos four, if_neg complete]
        exact iff_of_true (turn_of_incomplete info)
          ⟨fun _ _ whole => absurd whole complete, fun _ six => absurd six notSix⟩
    · by_cases six : 6 ≤ s.held.length ∧ byteAt s.held 0 >>> 4 = 6
      · obtain ⟨long', six⟩ := six
        rw [sumExact_iff long' six]
        by_cases small : (u16At s.held 4).toNat + 40 < 65536
        · rw [and_iff_left small]
          obtain ⟨added, sum⟩ := addU16_ok (a := u16At s.held 4) (b := 40) small
          have sum : (u16At s.held 4 + 40).toNat = (u16At s.held 4).toNat + 40 := sum
          have info : packetInfo s.held = .ok (if (u16At s.held 4).toNat + 40 ≤ s.held.length then
              some (6, u16At s.held 4 + 40) else none) := by
            rw [packetInfo, if_neg (by omega), if_neg four, if_pos six, if_neg (by omega), added, ok_bind, sum]
            rfl
          by_cases complete : (u16At s.held 4).toNat + 40 ≤ s.held.length
          · rw [if_pos complete] at info
            obtain ⟨ok, fails⟩ := parse_six nonempty six small complete
            rw [turn_of_complete info (parsed_frontV6 small) ok fails]
            exact ⟨fun h => ⟨fun _ wrong => absurd wrong four, fun _ _ => ⟨small, fun _ => h⟩⟩,
              fun h => (h.six long' six).2 complete⟩
          · rw [if_neg complete] at info
            exact iff_of_true (turn_of_incomplete info)
              ⟨fun _ wrong => absurd wrong four, fun _ _ => ⟨small, fun whole => absurd whole complete⟩⟩
        · exact iff_of_false (fun h => small h.2) fun h => small (h.six long' six).1
      · have info : packetInfo s.held = .ok none := by
          rw [packetInfo, if_neg (by omega), if_neg four]
          split
          · rename_i version
            exact if_pos (Nat.lt_of_not_le fun long' => six ⟨long', version⟩)
          · rfl
        exact iff_of_true ⟨turn_of_incomplete info, fun long' version => absurd ⟨long', version⟩ six⟩
          ⟨fun _ wrong => absurd wrong four, fun long' version => absurd ⟨long', version⟩ six⟩
  · have info : packetInfo s.held = .ok none := by rw [packetInfo, if_pos (by omega)]
    exact iff_of_true ⟨turn_of_incomplete info, fun long' => absurd long' (by omega)⟩
      ⟨fun h => absurd h long, fun long' => absurd long' (by omega)⟩

/-- A call panics exactly when a state at the top of its loop fails. -/
theorem feeds_error_iff {ρ : Type} {send : ρ → IpPacket → Checked ρ} {s : Feed ρ} {chunk : List UInt8} :
    (∃ e, Feeds send s chunk (.error e)) ↔ ∃ a, Reached send s chunk a ∧ ∃ e, turn send a = .fail e := by
  constructor
  · rintro ⟨e, n, fed⟩
    unfold feedDeviceData at fed
    split at fed
    · rename_i read
      obtain ⟨a, visits, failed⟩ := visits_of_loop fed
      exact ⟨a, ⟨read, visits⟩, e, failed⟩
    · cases fed
  · rintro ⟨a, ⟨read, visits⟩, e, failed⟩
    obtain ⟨n, ended⟩ := loop_of_visits visits (show turn send a = Flow.leave (.error e) from failed)
    exact ⟨e, n, by rw [feedDeviceData, if_pos read]; exact ended⟩

/-- No stream panics or overflows exactly when every packet that comes to the front has lengths that agree
with each other, with the headers they describe and with what is indexed in them. -/
theorem quiet_iff (s : Feed World) (chunks : List (List UInt8)) :
    Quiet s chunks ↔ ∀ s', ReachedBy s chunks s' → FrontSafe s'.router s'.held := by
  constructor
  · intro quiet s' reachedBy
    refine (turn_safe_iff s').mp ⟨?_, quiet.noOverflow s' reachedBy⟩
    intro e failed
    obtain ⟨before, chunk, after, mid, split, fed, reached⟩ := reachedBy
    obtain ⟨e', panics⟩ := feeds_error_iff.mpr ⟨s', reached, e, failed⟩
    exact quiet.noPanic before chunk after mid split fed e' panics
  · intro safe
    have turns (s' : Feed World) (reachedBy : ReachedBy s chunks s') := (turn_safe_iff s').mpr (safe s' reachedBy)
    refine ⟨?_, fun s' reachedBy => (turns s' reachedBy).2⟩
    intro before chunk after mid split fed e panics
    obtain ⟨s', reached, e', failed⟩ := feeds_error_iff.mp ⟨e, panics⟩
    exact (turns s' ⟨before, chunk, after, mid, split, fed, reached⟩).1 e' failed

def created : Feed World :=
  .start { router := .new (.new (64 * maxPacketLength)), host := fun _ r => (r, ⟨0, 0, 0, fun _ => true, 0⟩), next := 0 }

omit [Build] in
/-- An IPv4 packet of four bytes is complete, and its header is indexed. -/
theorem four_bytes_panic :
    let _ : Build := { overflowChecks := true }
    ¬ Quiet created [[0x45, 0, 0, 4]] := by
  intro _ quiet
  have front : (created.entry [0x45, 0, 0, 4]).held = [0x45, 0, 0, 4] := by
    rw [held_entry, created, held_start, room_start]
    rfl
  have read : (created.clientToNetwork.readFrom [0x45, 0, 0, 4]).2 = true := by
    rw [readFrom_some, created, room_start]
    decide
  have failed : turn World.send (created.entry [0x45, 0, 0, 4]) = .fail .index :=
    turn_of_parse_error _ (show packetInfo _ = .ok (some (4, 4)) by rw [front]; rfl) (by rw [front]; rfl)
  obtain ⟨e, panics⟩ := feeds_error_iff.mpr ⟨_, ⟨read, .start⟩, _, failed⟩
  exact quiet.noPanic [] [0x45, 0, 0, 4] [] created rfl rfl e panics

end Feed

end Gnirehtet.Relay
