import Gnirehtet.Lib.Packets
import Gnirehtet.Relay.Framing
import Mathlib.Data.List.Induction

/-!
# Delivery of well-formed packets

On a stream of well-formed packets the buffer acts as if each chunk ended where its room ended: the
packets that are complete go to the router, and the part of the next one is held.
-/

namespace Gnirehtet.Relay
open Lib

/-! ### Well-formed packets -/

def TransportInside (protocol : Protocol) (raw : List UInt8) : Prop :=
  match protocol with
  | .tcp => 20 ≤ (TcpHeaderData.ofRaw raw).headerLength.toNat ∧
      (TcpHeaderData.ofRaw raw).headerLength.toNat ≤ raw.length
  | .udp => 8 ≤ raw.length
  | _ => True

def ipHeaderDataOf (p : List UInt8) : IpHeaderData :=
  if byteAt p 0 >>> 4 = 4 then .v4 (.ofRaw p) else .v6 (.ofRaw p)

/-- The version is 4 or 6, the length field holds the length of the packet, and both headers are inside. -/
structure WellFormed (p : List UInt8) : Prop where
  small : p.length ≤ 65535
  length : statedLength p = some p.length
  minimum : (ipHeaderDataOf p).minHeaderLength ≤ (ipHeaderDataOf p).headerLength.toNat
  header : (ipHeaderDataOf p).headerLength.toNat ≤ p.length
  transport : TransportInside (ipHeaderDataOf p).protocol (p.drop (ipHeaderDataOf p).headerLength.toNat)

def transportHeaderDataOf (protocol : Protocol) (raw : List UInt8) : Option TransportHeaderData :=
  match protocol with
  | .tcp => some (.tcp (.ofRaw raw))
  | .udp => some (.udp (.ofRaw raw))
  | _ => none

def packetOf (p : List UInt8) : IpPacket where
  raw := p
  ipHeaderData := ipHeaderDataOf p
  transportHeaderData := transportHeaderDataOf (ipHeaderDataOf p).protocol
    (p.drop (ipHeaderDataOf p).headerLength.toNat)

theorem tcpOfRaw_append {raw : List UInt8} (long : 16 ≤ raw.length) (rest : List UInt8) :
    TcpHeaderData.ofRaw (raw ++ rest) = .ofRaw raw := by
  simp (disch := omega) only [TcpHeaderData.ofRaw, u16At_append_left, u32At_append_left]

theorem udpOfRaw_append {raw : List UInt8} (long : 4 ≤ raw.length) (rest : List UInt8) :
    UdpHeaderData.ofRaw (raw ++ rest) = .ofRaw raw := by
  rw [UdpHeaderData.ofRaw, UdpHeaderData.ofRaw, u16At_append_left (by omega), u16At_append_left (by omega)]

theorem parse_transport {protocol : Protocol} {raw : List UInt8} (inside : TransportInside protocol raw)
    (rest : List UInt8) : TransportHeaderData.parse protocol (raw ++ rest) =
      .ok (transportHeaderDataOf protocol raw) := by
  cases protocol with
  | tcp =>
    have long : 20 ≤ raw.length := Nat.le_trans inside.1 inside.2
    rw [TransportHeaderData.parse, TcpHeaderData.parse_eq, if_pos (by rw [List.length_append]; omega), ok_bind,
      tcpOfRaw_append (by omega)]
    rfl
  | udp =>
    have long : 8 ≤ raw.length := inside
    rw [TransportHeaderData.parse, UdpHeaderData.parse_eq, if_pos (by rw [List.length_append]; omega), ok_bind,
      udpOfRaw_append (by omega)]
    rfl
  | icmp => rfl
  | other => rfl

theorem ipv4OfRaw_append {raw : List UInt8} (long : 20 ≤ raw.length) (rest : List UInt8) :
    Ipv4HeaderData.ofRaw (raw ++ rest) = .ofRaw raw := by
  rw [Ipv4HeaderData.ofRaw, Ipv4HeaderData.ofRaw, byteAt_append_left (by omega), byteAt_append_left (by omega),
    u16At_append_left (by omega), u32At_append_left (by omega), u32At_append_left (by omega)]

theorem ipv6OfRaw_append {raw : List UInt8} (long : 40 ≤ raw.length) (rest : List UInt8) :
    Ipv6HeaderData.ofRaw (raw ++ rest) = .ofRaw raw := by
  rw [Ipv6HeaderData.ofRaw, Ipv6HeaderData.ofRaw, byteAt_append_left (by omega), byteAt_append_left (by omega),
    u16At_append_left (by omega), List.take_append_of_le_length (by omega), List.take_append_of_le_length long]

namespace WellFormed
variable {p : List UInt8} (wf : WellFormed p) (rest : List UInt8)
include wf

theorem long : 20 ≤ p.length := by
  have minimum := wf.minimum
  have header := wf.header
  cases data : ipHeaderDataOf p <;> rw [data] at minimum header <;>
    simp only [IpHeaderData.minHeaderLength] at minimum <;> omega

theorem cases : (byteAt p 0 >>> 4 = 4 ∧ (u16At p 2).toNat = p.length ∧ ipHeaderDataOf p = .v4 (.ofRaw p)) ∨
    (byteAt p 0 >>> 4 = 6 ∧ (u16At p 4).toNat + 40 = p.length ∧ ipHeaderDataOf p = .v6 (.ofRaw p) ∧
      40 ≤ p.length) := by
  have length := wf.length
  have header := wf.header
  unfold statedLength at length
  split at length
  · rename_i four
    exact Or.inl ⟨four, Option.some.inj length, if_pos four⟩
  · rename_i notFour
    split at length
    · rename_i six
      have data : ipHeaderDataOf p = .v6 (.ofRaw p) := if_neg notFour
      rw [data] at header
      exact Or.inr ⟨six, Option.some.inj length, data, header⟩
    · cases length

theorem parse [Build] : IpPacket.parse (p ++ rest) = .ok (some (packetOf p)) := by
  have long := wf.long
  have transport := wf.transport
  have header := wf.header
  have small := wf.small
  have first : byteAt (p ++ rest) 0 = byteAt p 0 := byteAt_append_left (by omega)
  have nonempty : ¬ (p ++ rest).isEmpty = true := by
    rw [List.isEmpty_iff, ← List.length_eq_zero_iff, List.length_append]
    omega
  have whole : (p ++ rest).take p.length = p := List.take_left
  rw [IpPacket.parse, if_neg nonempty, first]
  rcases wf.cases with ⟨four, length, data⟩ | ⟨six, length, data, enough⟩
  · rw [data] at transport header
    have inside : TransportHeaderData.parse (Ipv4HeaderData.ofRaw p).protocol
        ((p ++ rest).drop (Ipv4HeaderData.ofRaw p).headerLength.toNat) =
        .ok (transportHeaderDataOf (Ipv4HeaderData.ofRaw p).protocol
          (p.drop (Ipv4HeaderData.ofRaw p).headerLength.toNat)) := by
      rw [List.drop_append_of_le_length (show (Ipv4HeaderData.ofRaw p).headerLength.toNat ≤ p.length from header)]
      exact parse_transport transport rest
    rw [if_pos four, IpPacket.parseV4, Ipv4HeaderData.parse_eq, if_pos (by rw [List.length_append]; omega), ok_bind,
      ipv4OfRaw_append long, sliceFrom, if_pos (by rw [List.length_append]; exact Nat.le_add_right_of_le header),
      ok_bind]
    rw [inside, ok_bind, sliceTo, show (Ipv4HeaderData.ofRaw p).totalLength.toNat = p.length from length, whole,
      if_pos (by rw [List.length_append]; omega), packetOf, data]
    rfl
  · rw [data] at transport
    have inside : TransportHeaderData.parse (Ipv6HeaderData.ofRaw p).nextHeader (p.drop ipv6HeaderLength.toNat) =
        .ok (transportHeaderDataOf (Ipv6HeaderData.ofRaw p).nextHeader (p.drop ipv6HeaderLength.toNat)) := by
      have alone := parse_transport transport []
      rw [List.append_nil] at alone
      exact alone
    obtain ⟨added, sum⟩ := addU16_ok (a := 40) (b := u16At p 4) (by simp only [UInt16.reduceToNat]; omega)
    have total : Ipv6HeaderData.checkedTotalLength (.ofRaw p) = .ok (40 + u16At p 4) := added
    have sum : (40 + u16At p 4).toNat = p.length := by
      rw [sum, ← length]
      exact Nat.add_comm ..
    rw [if_neg (by rw [six]; decide), if_pos six, IpPacket.parseV6, Ipv6HeaderData.parse_eq,
      if_pos (by rw [List.length_append]; omega), ok_bind, ipv6OfRaw_append enough, total, ok_bind, slice, sum, whole,
      if_pos ⟨enough, by rw [List.length_append]; omega⟩, ok_bind]
    rw [inside, ok_bind, sliceTo, whole, if_pos (by rw [List.length_append]; omega), packetOf, data]
    rfl

theorem info [Build] : ∃ version, packetInfo (p ++ rest) = .ok (some (version, p.length.toUInt16)) := by
  have long := wf.long
  have small := wf.small
  have first : byteAt (p ++ rest) 0 = byteAt p 0 := byteAt_append_left (by omega)
  have enough : p.length ≤ (p ++ rest).length := by rw [List.length_append]; omega
  have number : p.length.toUInt16.toNat = p.length := UInt16.toNat_ofNat_of_lt' (show _ < 65536 by omega)
  rw [packetInfo, if_neg (by omega), first]
  rcases wf.cases with ⟨four, length, _⟩ | ⟨six, length, _, header⟩
  · have field : u16At p 2 = p.length.toUInt16 := UInt16.toNat.inj (length.trans number.symm)
    rw [if_pos four, u16At_append_left (by omega), field, number, if_pos enough]
    exact ⟨4, rfl⟩
  · obtain ⟨added, sum⟩ := addU16_ok (a := u16At p 4) (b := 40) (by simp only [UInt16.reduceToNat]; omega)
    have total : addU16 (u16At p 4) 40 = .ok p.length.toUInt16 := by
      rw [added, UInt16.toNat.inj ((sum.trans length).trans number.symm)]
    rw [if_neg (by rw [six]; decide), if_pos six, if_neg (by omega), u16At_append_left (by omega), total, ok_bind,
      number, if_pos enough]
    exact ⟨6, rfl⟩

omit rest in
theorem info_part [Build] {data : List UInt8} (part : data <+: p) (short : data.length < p.length) :
    packetInfo data = .ok none ∧ (data = [] ∨ StartsPacket data) := by
  obtain ⟨more, whole⟩ := part
  have small := wf.small
  by_cases empty : data = []
  · subst empty
    exact ⟨rfl, Or.inl rfl⟩
  have first : byteAt data 0 = byteAt p 0 := by
    rw [← whole, byteAt_append_left (List.length_pos_iff.mpr empty)]
  have starts : StartsPacket data := by
    rw [StartsPacket, first]
    rcases wf.cases with ⟨four, _⟩ | ⟨six, _⟩
    · exact Or.inl four
    · exact Or.inr six
  refine ⟨?_, Or.inr starts⟩
  unfold packetInfo
  split
  · rfl
  rename_i some
  rw [first]
  rcases wf.cases with ⟨four, length, _⟩ | ⟨six, length, _, header⟩
  · rw [← whole, u16At_append_left (by omega), whole] at length
    rw [if_pos four, if_neg (by omega)]
  · rw [if_neg (by rw [six]; decide), if_pos six]
    split
    · rfl
    · rename_i field
      rw [← whole, u16At_append_left (by omega), whole] at length
      obtain ⟨added, sum⟩ := addU16_ok (a := u16At data 4) (b := 40) (by simp only [UInt16.reduceToNat]; omega)
      rw [added, ok_bind, sum.trans length, if_neg (by omega)]
      rfl

end WellFormed

/-! ### One chunk -/

namespace Feed
variable [Build] {ρ : Type} (send : ρ → IpPacket → Checked ρ)

def size (s : Feed ρ) : Nat := s.clientToNetwork.buf.buf.length

/-- What becomes of a list of packets that are passed to the router. -/
def sendAll (router : ρ) (packets : List (List UInt8)) : Checked ρ :=
  packets.foldlM (fun router p => send router (packetOf p)) router

/-- The loop passes the packets that are complete, and holds the rest. -/
theorem loop_delivers {todo : List (List UInt8)} (wf : ∀ p ∈ todo, WellFormed p) {s : Feed ρ}
    (front : s.held <+: todo.flatten) : ∃ n buffer, loop (turn send) n s =
      some (sendAll send s.router (completed todo s.held.length) >>= fun router => .ok {
        clientToNetwork := buffer
        router
        count := s.count + (completed todo s.held.length).length }) ∧
      buffer.buf.peek = s.held.drop (completed todo s.held.length).flatten.length ∧
      buffer.buf.buf.length = s.size := by
  induction todo generalizing s with
  | nil =>
    have empty : s.held = [] := List.prefix_nil.mp front
    have waits : turn send s = .stop s := turn_wait send (by rw [empty]; rfl) (Or.inl empty)
    exact ⟨1, s.clientToNetwork, by rw [loop_succ, waits]; rfl, rfl, rfl⟩
  | cons p rest ih =>
    by_cases whole : p.length ≤ s.held.length
    · -- The packet goes to the router, and the bytes behind it come to the front.
      obtain ⟨behind, held⟩ := List.prefix_of_prefix_length_le (List.prefix_append p rest.flatten) front whole
      obtain ⟨version, found⟩ := (wf p List.mem_cons_self).info behind
      have parsed := (wf p List.mem_cons_self).parse behind
      rw [held] at found parsed
      obtain ⟨b, peek, size, turned⟩ := turn_packet send found parsed
      have small := (wf p List.mem_cons_self).small
      have number : p.length.toUInt16.toNat = p.length := UInt16.toNat_ofNat_of_lt' (show _ < 65536 by omega)
      rw [number, ← held, List.drop_left] at peek
      have later : behind <+: rest.flatten := by
        rw [List.flatten_cons, ← held] at front
        exact (List.prefix_append_right_inj p).mp front
      have first : completed (p :: rest) s.held.length = p :: completed rest behind.length := by
        rw [completed, if_pos whole, ← held, List.length_append, Nat.add_sub_cancel_left]
      have dropped : s.held.drop (p :: completed rest behind.length).flatten.length =
          behind.drop (completed rest behind.length).flatten.length := by
        rw [← held, List.flatten_cons, List.length_append, ← List.drop_drop, List.drop_left]
      rw [first, dropped, sendAll, List.foldlM_cons]
      cases sent : send s.router (packetOf p) with
      | error e =>
        rw [sent] at turned
        obtain ⟨buf, _, dropped', size'⟩ := b.buf.consume_spec
          (peek ▸ length_completed_le rest behind.length : _ ≤ b.buf.peek.length)
        refine ⟨1, { buf }, ?_, by rw [dropped', peek], size'.trans size⟩
        rw [loop_succ, turned]
        rfl
      | ok router =>
        rw [sent] at turned
        obtain ⟨n, b', ended, peek', size'⟩ := ih (fun q member => wf q (List.mem_cons_of_mem p member))
          (s := { clientToNetwork := b, router, count := s.count + 1 }) (show b.buf.peek <+: _ by rw [peek]; exact later)
        have here : ({ clientToNetwork := b, router, count := s.count + 1 } : Feed ρ).held = behind := peek
        rw [here] at ended peek'
        refine ⟨n + 1, b', ?_, peek', size'.trans size⟩
        rw [loop_succ, turned]
        refine ended.trans ?_
        rw [ok_bind, List.length_cons, show s.count + 1 + (completed rest behind.length).length =
          s.count + ((completed rest behind.length).length + 1) by omega]
        rfl
    · have part : s.held <+: p := List.prefix_of_prefix_length_le front (List.prefix_append p rest.flatten)
        (Nat.le_of_lt (Nat.lt_of_not_le whole))
      obtain ⟨incomplete, starts⟩ := (wf p List.mem_cons_self).info_part part (Nat.lt_of_not_le whole)
      have waits : turn send s = .stop s := turn_wait send incomplete starts
      have nothing : completed (p :: rest) s.held.length = [] := if_neg whole
      refine ⟨1, s.clientToNetwork, ?_, ?_, rfl⟩
      · rw [loop_succ, waits, nothing]
        rfl
      · rw [nothing]
        rfl

/-- The first `n` bytes of a stream of packets have been handled: the complete packets went to the
router, which started as `router₀`, and the rest is held in a buffer of 64 KiB. -/
structure Handled (packets : List (List UInt8)) (router₀ : ρ) (n : Nat) (s : Feed ρ) : Prop where
  router : sendAll send router₀ (completed packets n) = .ok s.router
  held : s.held = leftover packets n
  size : s.size = maxPacketLength

omit [Build] in
theorem sendAll_append (router : ρ) (packets more : List (List UInt8)) :
    sendAll send router (packets ++ more) = sendAll send router packets >>= fun router => sendAll send router more :=
  List.foldlM_append

omit [Build] in
theorem length_held_le (s : Feed ρ) : s.held.length ≤ s.size := by
  rw [held, ByteBuffer.length_peek]
  exact s.clientToNetwork.buf.head_le

omit [Build] in
theorem room_eq {s : Feed ρ} (size : s.size = maxPacketLength) : s.room = 65536 - s.held.length := by
  rw [room, ByteBuffer.room, held, ByteBuffer.length_peek]
  exact congrArg (· - _) size

/-- One chunk: what the buffer has room for is handled, unless the router panics. -/
theorem feed_handles {packets : List (List UInt8)} (wf : ∀ p ∈ packets, WellFormed p) {router₀ : ρ} {n : Nat}
    {s : Feed ρ} (handled : Handled send packets router₀ n s) {chunk : List UInt8}
    (next : chunk <+: packets.flatten.drop n) (arrived : n ≤ packets.flatten.length) :
    ∃ r, Feeds send s chunk r ∧ match sendAll send router₀ (completed packets (n + min chunk.length s.room)) with
      | .ok router => ∃ s', r = .ok s' ∧ s'.router = router ∧
          Handled send packets router₀ (n + min chunk.length s.room) s'
      | .error e => r = .error e := by
  have room := room_eq handled.size
  have taken : chunk.take s.room <+: packets.flatten.drop n := (List.take_prefix ..).trans next
  have front : (s.entry chunk).held = (missing packets n).flatten.take
      (n - (completed packets n).flatten.length + min chunk.length s.room) := by
    rw [held_entry, handled.held, leftover_append packets taken, List.length_take, Nat.min_comm]
  have length : (s.entry chunk).held.length =
      n - (completed packets n).flatten.length + min chunk.length s.room := by
    have := length_leftover packets arrived
    rw [held_entry, handled.held, List.length_append, List.length_take]
    omega
  cases read : (s.clientToNetwork.readFrom chunk).2 with
  | false =>
    have nothing : min chunk.length s.room = 0 := by
      by_cases empty : chunk = []
      · rw [empty]
        exact Nat.zero_min _
      · by_cases room : 0 < s.room
        · rw [(readFrom_some s chunk).mpr ⟨empty, room⟩] at read
          cases read
        · omega
    refine ⟨_, ⟨0, by rw [feedDeviceData, read]; rfl⟩, ?_⟩
    rw [nothing, Nat.add_zero, handled.router]
    refine ⟨_, rfl, rfl, handled.router, ?_, (length_overwrite ..).trans handled.size⟩
    have taken : chunk.take s.room = [] := List.length_eq_zero_iff.mp (by rw [List.length_take]; omega)
    rw [held_entry, taken, List.append_nil, handled.held]
  | true =>
    have wf' : ∀ p ∈ missing packets n, WellFormed p := fun p member => wf p (List.mem_of_mem_drop member)
    obtain ⟨turns, buffer, ended, peek, size⟩ := loop_delivers send wf' (front ▸ List.take_prefix ..)
    rw [length] at ended peek
    have sent : sendAll send router₀ (completed packets (n + min chunk.length s.room)) =
        sendAll send s.router (completed (missing packets n)
          (n - (completed packets n).flatten.length + min chunk.length s.room)) := by
      rw [completed_missing, sendAll_append, handled.router, ok_bind]
    refine ⟨_, ⟨turns, by rw [feedDeviceData, if_pos read]; exact ended⟩, ?_⟩
    rw [sent]
    have same : (s.entry chunk).router = s.router := rfl
    rw [same]
    cases result : sendAll send s.router (completed (missing packets n)
        (n - (completed packets n).flatten.length + min chunk.length s.room)) with
    | error e => rfl
    | ok router =>
      refine ⟨_, rfl, rfl, by rw [sent, result], ?_, size.trans ((length_overwrite ..).trans handled.size)⟩
      rw [leftover_missing, ← front]
      exact peek

/-! ### All chunks -/

def FeedsAll : Feed ρ → List (List UInt8) → Feed ρ → Prop
  | s, [], s' => s' = s
  | s, chunk :: rest, s' => ∃ mid, Feeds send s chunk (.ok mid) ∧ FeedsAll mid rest s'

theorem feeds_unique {s : Feed ρ} {chunk : List UInt8} {r r' : Except Panic (Feed ρ)} (h : Feeds send s chunk r)
    (h' : Feeds send s chunk r') : r = r' := by
  obtain ⟨n, h⟩ := h
  obtain ⟨m, h'⟩ := h'
  unfold feedDeviceData at h h'
  split at h
  · rename_i read
    rw [if_pos read] at h'
    exact loop_unique h h'
  · rename_i read
    rw [if_neg read] at h'
    exact Option.some.inj (h.symm.trans h')

theorem feedsAll_concat {s s' : Feed ρ} {chunks : List (List UInt8)} {chunk : List UInt8} :
    FeedsAll send s (chunks ++ [chunk]) s' ↔ ∃ mid, FeedsAll send s chunks mid ∧ Feeds send mid chunk (.ok s') := by
  induction chunks generalizing s with
  | nil => simp [FeedsAll, eq_comm]
  | cons first rest ih =>
    simp only [List.cons_append, FeedsAll, ih]
    constructor
    · rintro ⟨a, fed, b, all, last⟩
      exact ⟨b, ⟨a, fed, all⟩, last⟩
    · rintro ⟨b, ⟨a, fed, all⟩, last⟩
      exact ⟨a, fed, b, all, last⟩

theorem feedsAll_unique {s a b : Feed ρ} {chunks : List (List UInt8)} (h : FeedsAll send s chunks a)
    (h' : FeedsAll send s chunks b) : a = b := by
  induction chunks generalizing s with
  | nil => exact h.trans h'.symm
  | cons first rest ih =>
    obtain ⟨m, fed, all⟩ := h
    obtain ⟨m', fed', all'⟩ := h'
    cases feeds_unique send fed fed'
    exact ih all all'

theorem size_feeds {s s' : Feed ρ} {chunk : List UInt8} (fed : Feeds send s chunk (.ok s')) : s'.size = s.size := by
  obtain ⟨n, fed⟩ := fed
  have start : (s.entry chunk).size = s.size := length_overwrite ..
  unfold feedDeviceData at fed
  split at fed
  · obtain ⟨a, visits, stops⟩ := visits_of_loop fed
    have size : a.size = s.size := by
      clear stops
      induction visits with
      | start => exact start
      | @turn b c _ turned ih =>
        have cases := turn_turned send b
        rw [turned] at cases
        cases cases with
        | packet _ _ _ _ _ _ _ _ _ size => exact size.trans ih
        | skip _ _ _ _ size => exact size.trans ih
    have cases := turn_turned send a
    rw [stops] at cases
    cases cases
    exact size
  · cases fed
    exact start

theorem size_feedsAll {s s' : Feed ρ} {chunks : List (List UInt8)} (fed : FeedsAll send s chunks s') :
    s'.size = s.size := by
  induction chunks generalizing s with
  | nil => rw [fed]
  | cons chunk rest ih =>
    obtain ⟨mid, first, all⟩ := fed
    exact (ih all).trans (size_feeds send first)

/-! ### Exact delivery -/

def record (log : List IpPacket) (packet : IpPacket) : Checked (List IpPacket) := .ok (log ++ [packet])

omit [Build] in
theorem sendAll_record (log : List IpPacket) (packets : List (List UInt8)) :
    sendAll record log packets = .ok (log ++ packets.map packetOf) := by
  induction packets generalizing log with
  | nil => rw [List.map_nil, List.append_nil]; rfl
  | cons p rest ih =>
    rw [sendAll, List.foldlM_cons, record, ok_bind]
    exact (ih _).trans (by simp)

/-- After `n` bytes exactly the complete packets were passed on, in order, and exactly the incomplete
rest is buffered. -/
def Exact (packets : List (List UInt8)) (n : Nat) (s : Feed (List IpPacket)) : Prop :=
  s.router = (completed packets n).map packetOf ∧ s.held = leftover packets n

/-- Every part of the chunks, from the first on, was delivered exactly. -/
def Delivers (packets chunks : List (List UInt8)) : Prop :=
  ∀ before after, chunks = before ++ after →
    ∃ s, FeedsAll record (start []) before s ∧ Exact packets before.flatten.length s

/-- No chunk is longer than the room that the incomplete packet before it leaves. -/
def ChunksFit (packets chunks : List (List UInt8)) : Prop :=
  ∀ before chunk after, chunks = before ++ chunk :: after →
    (leftover packets before.flatten.length).length + chunk.length ≤ maxPacketLength

omit [Build] in
theorem Exact.unique {packets : List (List UInt8)} {n m : Nat} {s : Feed (List IpPacket)} (hn : n ≤ packets.flatten.length)
    (hm : m ≤ packets.flatten.length) (h : Exact packets n s) (h' : Exact packets m s) : n = m := by
  have raws (ps : List (List UInt8)) : (ps.map packetOf).map IpPacket.raw = ps := by
    rw [List.map_map]
    exact List.map_id ps
  have same := congrArg (List.map IpPacket.raw) (h.1.symm.trans h'.1)
  rw [raws, raws] at same
  rw [← length_leftover packets hn, ← length_leftover packets hm, same, ← h.2, ← h'.2]

section Chunks
variable {packets chunks : List (List UInt8)} (wf : ∀ p ∈ packets, WellFormed p)
  (division : chunks.flatten <+: packets.flatten)
include wf division

omit wf [Build] in
theorem chunk_follows {before : List (List UInt8)} {chunk : List UInt8} {after : List (List UInt8)}
    (parts : chunks = before ++ chunk :: after) :
    chunk <+: packets.flatten.drop before.flatten.length ∧ before.flatten.length ≤ packets.flatten.length := by
  obtain ⟨rest, whole⟩ := division
  rw [parts, List.flatten_append, List.flatten_cons, List.append_assoc] at whole
  rw [← whole, List.drop_left, List.append_assoc]
  exact ⟨List.prefix_append .., by rw [List.length_append]; omega⟩

theorem feeds_exact {before : List (List UInt8)} {chunk : List UInt8} {after : List (List UInt8)}
    (parts : chunks = before ++ chunk :: after) {s : Feed (List IpPacket)} (size : s.size = maxPacketLength)
    (exact : Exact packets before.flatten.length s) : ∃ s', Feeds record s chunk (.ok s') ∧
      Exact packets (before.flatten.length + min chunk.length s.room) s' := by
  obtain ⟨follows, arrived⟩ := chunk_follows division parts
  have handled : Handled record packets [] before.flatten.length s :=
    ⟨by rw [sendAll_record, exact.1, List.nil_append], exact.2, size⟩
  obtain ⟨r, fed, result⟩ := feed_handles record wf handled follows arrived
  rw [sendAll_record] at result
  obtain ⟨s', rfl, router, handled⟩ := result
  exact ⟨s', fed, by rw [router, List.nil_append], handled.held⟩

theorem delivers_of_fit (fit : ChunksFit packets chunks) : Delivers packets chunks := by
  intro before
  induction before using List.reverseRecOn with
  | nil =>
    intro _ _
    have some : ∀ p ∈ packets, p ≠ [] := by
      rintro _ member rfl
      exact absurd (wf [] member).long (by decide)
    refine ⟨start [], rfl, ?_, (leftover_zero packets).symm⟩
    rw [List.flatten_nil, List.length_nil, completed_zero some]
    rfl
  | append_singleton before chunk ih =>
    intro after parts
    rw [List.append_assoc, List.singleton_append] at parts
    obtain ⟨s, fed, exact⟩ := ih (chunk :: after) parts
    have size : s.size = maxPacketLength := (size_feedsAll record fed).trans (List.length_replicate ..)
    obtain ⟨s', fed', exact'⟩ := feeds_exact wf division parts size exact
    have room := room_eq size
    have fits := fit before chunk after parts
    rw [← exact.2, maxPacketLength] at fits
    rw [Nat.min_eq_left (by omega)] at exact'
    refine ⟨s', (feedsAll_concat record).mpr ⟨s, fed, fed'⟩, ?_⟩
    rwa [List.flatten_append, List.length_append, List.flatten_singleton]

theorem fit_of_delivers (delivers : Delivers packets chunks) : ChunksFit packets chunks := by
  intro before chunk after parts
  obtain ⟨s, fed, exact⟩ := delivers before (chunk :: after) parts
  have size : s.size = maxPacketLength := (size_feedsAll record fed).trans (List.length_replicate ..)
  obtain ⟨s', fed', exact'⟩ := feeds_exact wf division parts size exact
  obtain ⟨s'', fed'', last⟩ := delivers (before ++ [chunk]) after (by rw [parts, List.append_assoc]; rfl)
  cases feedsAll_unique record fed'' ((feedsAll_concat record).mpr ⟨s, fed, fed'⟩)
  obtain ⟨follows, arrived⟩ := chunk_follows division parts
  have bound := follows.length_le
  rw [List.length_drop] at bound
  rw [List.flatten_append, List.length_append, List.flatten_singleton] at last
  have same := Exact.unique (by omega) (by omega) exact' last
  have room := room_eq size
  have le := length_held_le s
  rw [size, maxPacketLength] at le
  rw [← exact.2, maxPacketLength]
  omega

end Chunks

/-- Framing is exact in every chunk precisely when no chunk is longer than the room that the incomplete
packet before it leaves. -/
theorem framing_exact_iff {packets chunks : List (List UInt8)} (wf : ∀ p ∈ packets, WellFormed p)
    (division : chunks.flatten <+: packets.flatten) : Delivers packets chunks ↔ ChunksFit packets chunks :=
  ⟨fit_of_delivers wf division, delivers_of_fit wf division⟩

end Feed

/-! ### Small packets -/

namespace Sample
open Feed

def smallPacket : List UInt8 := [0x45, 0, 0, 20, 0, 0, 0, 0, 64, 253, 0, 0, 10, 0, 0, 2, 8, 8, 8, 8]

theorem smallPacket_wellFormed : WellFormed smallPacket where
  small := by decide
  length := by decide
  minimum := by decide
  header := by decide
  transport := trivial

/-- A stream of at most 64 KiB always fits. -/
theorem chunksFit_of_short {packets chunks : List (List UInt8)} (short : chunks.flatten.length ≤ maxPacketLength) :
    ChunksFit packets chunks := by
  rintro before chunk after rfl
  rw [List.flatten_append, List.flatten_cons, List.length_append, List.length_append] at short
  have : (leftover packets before.flatten.length).length ≤ before.flatten.length := by
    rw [leftover, List.length_drop, List.length_take]
    omega
  omega

theorem framing_exact_two :
    let _ : Build := { overflowChecks := true }
    Delivers [smallPacket, smallPacket] [smallPacket.take 15, smallPacket.drop 15 ++ smallPacket] := by
  intro _
  have wf : ∀ p ∈ [smallPacket, smallPacket], WellFormed p := by
    intro p member
    simp only [List.mem_cons, List.not_mem_nil, or_false, or_self] at member
    rw [member]
    exact smallPacket_wellFormed
  exact (framing_exact_iff wf ⟨[], by decide⟩).mpr (chunksFit_of_short (by decide))

def manyPackets : List (List UInt8) := List.replicate 3277 smallPacket

theorem length_manyPackets : manyPackets.flatten.length = 65540 := by
  rw [manyPackets, List.length_flatten, List.map_replicate, List.sum_replicate_nat]
  rfl

/-- A chunk of one byte, one of 64 KiB and the rest. -/
def oneAndLong (stream : List UInt8) : List (List UInt8) :=
  [stream.take 1, (stream.drop 1).take 65536, stream.drop 65537]

theorem flatten_oneAndLong (stream : List UInt8) : (oneAndLong stream).flatten = stream := by
  simp only [oneAndLong, List.flatten_cons, List.flatten_nil, List.append_nil]
  rw [show stream.drop 65537 = (stream.drop 1).drop 65536 by rw [List.drop_drop], List.take_append_drop,
    List.take_append_drop]

/-- The byte of the first chunk leaves no room for all of the second. -/
theorem oneAndLong_unfit {packets : List (List UInt8)} (long : 65537 ≤ packets.flatten.length)
    (first : completed packets 1 = []) : ¬ ChunksFit packets (oneAndLong packets.flatten) := by
  intro fit
  have second := fit [packets.flatten.take 1] ((packets.flatten.drop 1).take 65536) [packets.flatten.drop 65537] rfl
  have one : ([packets.flatten.take 1].flatten).length = 1 := by
    rw [List.flatten_singleton, List.length_take]
    omega
  have left := length_leftover packets (n := 1) (by omega)
  rw [first, List.flatten_nil, List.length_nil] at left
  rw [one, List.length_take, List.length_drop, maxPacketLength] at second
  omega

/-- A byte is lost when 64 KiB follow the first byte of a packet. -/
theorem long_chunk_loses :
    let _ : Build := { overflowChecks := true }
    ∃ packets chunks : List (List UInt8), (∀ p ∈ packets, WellFormed p) ∧ chunks.flatten = packets.flatten ∧
      (∀ chunk ∈ chunks, chunk ≠ [] ∧ chunk.length ≤ maxPacketLength) ∧ ¬ Delivers packets chunks := by
  intro _
  have length := length_manyPackets
  have wf : ∀ p ∈ manyPackets, WellFormed p := by
    intro p member
    rw [List.eq_of_mem_replicate member]
    exact smallPacket_wellFormed
  have first : completed manyPackets 1 = [] := if_neg (by decide)
  generalize manyPackets = packets at length wf first
  refine ⟨packets, oneAndLong packets.flatten, wf, flatten_oneAndLong _, ?_, fun delivers => ?_⟩
  · intro chunk member
    simp only [oneAndLong, List.mem_cons, List.not_mem_nil, or_false] at member
    rw [← List.length_pos_iff]
    rcases member with rfl | rfl | rfl <;>
      simp only [List.length_take, List.length_drop, length, maxPacketLength] <;> omega
  · have division : (oneAndLong packets.flatten).flatten <+: packets.flatten :=
      ⟨[], by rw [List.append_nil, flatten_oneAndLong]⟩
    exact oneAndLong_unfit (by omega) first (fit_of_delivers wf division delivers)

end Sample

end Gnirehtet.Relay
