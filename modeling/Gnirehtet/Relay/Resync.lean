import Gnirehtet.Relay.Delivery

/-!
# Resynchronisation

Bytes that start no packet are skipped one by one, wherever they stand between packets. A stretch is
what one chunk may then hold: packets and such bytes in any order, and the start of a packet behind
them. It is read exactly, unless the length of an IPv6 packet in it leaves 16 bits.
-/

namespace Gnirehtet.Relay
open Lib

/-- The length field holds the length of the packet, and both headers are inside. Unlike `WellFormed` this
allows the lengths over 65535 that an IPv6 header can state. -/
structure Consistent (p : List UInt8) : Prop where
  length : statedLength p = some p.length
  minimum : (ipHeaderDataOf p).minHeaderLength ≤ (ipHeaderDataOf p).headerLength.toNat
  header : (ipHeaderDataOf p).headerLength.toNat ≤ p.length
  transport : TransportInside (ipHeaderDataOf p).protocol (p.drop (ipHeaderDataOf p).headerLength.toNat)

theorem Consistent.wellFormed {p : List UInt8} (consistent : Consistent p) (small : p.length < 65536) :
    WellFormed p :=
  ⟨by omega, consistent.length, consistent.minimum, consistent.header, consistent.transport⟩

/-- Only an IPv6 header states a length over 65535. -/
theorem Consistent.oversized {p : List UInt8} (consistent : Consistent p) (big : 65536 ≤ p.length) :
    byteAt p 0 >>> 4 = 6 ∧ (u16At p 4).toNat + 40 = p.length := by
  have length := consistent.length
  have field := (u16At p 2).toNat_lt
  unfold statedLength at length
  split at length
  · have := Option.some.inj length
    omega
  · split at length
    · exact ⟨‹_›, Option.some.inj length⟩
    · cases length

inductive Item where
  | garbage (b : UInt8) (unversioned : b >>> 4 ≠ 4 ∧ b >>> 4 ≠ 6)
  | packet (p : List UInt8) (consistent : Consistent p)

namespace Item

def bytes : Item → List UInt8
  | garbage b _ => [b]
  | packet p _ => p

def packet? : Item → Option (List UInt8)
  | garbage _ _ => none
  | packet p _ => some p

theorem bytes_ne_nil : ∀ item : Item, item.bytes ≠ []
  | garbage _ _ => List.cons_ne_nil _ _
  | packet _ consistent => by
    rintro rfl
    exact absurd consistent.length (by decide)

end Item

def packetsOf (items : List Item) : List (List UInt8) := items.filterMap Item.packet?

/-- One chunk: items, and the first bytes of a packet of which more is to come. -/
structure Stretch where
  items : List Item
  next : List UInt8
  consistent : Consistent next
  arrived : Nat
  incomplete : arrived < next.length
  fits : (items.flatMap Item.bytes).length + arrived ≤ maxPacketLength

namespace Stretch

def tail (stretch : Stretch) : List UInt8 := stretch.next.take stretch.arrived

def bytes (stretch : Stretch) : List UInt8 := stretch.items.flatMap Item.bytes ++ stretch.tail

def packets (stretch : Stretch) : List (List UInt8) := packetsOf stretch.items

theorem length_bytes_le (stretch : Stretch) : stretch.bytes.length ≤ maxPacketLength := by
  have fits := stretch.fits
  have incomplete := stretch.incomplete
  rw [bytes, tail, List.length_append, List.length_take]
  omega

/-- One chunk in an empty buffer: the packets are routed in order and counted, and what came of the next
one is held. -/
def Resyncs [Build] (stretch : Stretch) : Prop :=
  ∃ s, Feed.Feeds Feed.record (.start []) stretch.bytes (.ok s) ∧ s.router = stretch.packets.map packetOf ∧
    s.count = stretch.packets.length ∧ s.held = stretch.tail

/-- The length of a packet of which the first `n` bytes are there is not over 16 bits, or is not read; or it
wraps to a length that the bytes do not reach. -/
def SumFits [Build] (p : List UInt8) (n : Nat) : Prop :=
  p.length < 65536 ∨ n < 6 ∨ Build.overflowChecks = false ∧ n + 65536 < p.length

/-- No packet is longer than 65535 bytes, and the length of the one that is incomplete does no harm. -/
def SumsFit [Build] (stretch : Stretch) : Prop :=
  (∀ p ∈ stretch.packets, p.length < 65536) ∧ SumFits stretch.next stretch.arrived

end Stretch

namespace Feed
variable [Build] {ρ : Type} (send : ρ → IpPacket → Checked ρ)

/-! ### One item -/

theorem turn_garbage {s : Feed ρ} {b : UInt8} {rest : List UInt8} (unversioned : b >>> 4 ≠ 4 ∧ b >>> 4 ≠ 6)
    (front : s.held = b :: rest) :
    ∃ s', turn send s = .next s' ∧ s'.held = rest ∧ s'.router = s.router ∧ s'.count = s.count := by
  have garbage : ¬ StartsPacket s.held := by
    rw [front]
    rintro (four | six)
    · exact unversioned.1 four
    · exact unversioned.2 six
  have info : packetInfo s.held = .ok none := by
    obtain ⟨notFour, notSix⟩ := not_or.mp garbage
    rw [packetInfo, if_neg notFour, if_neg notSix]
    split <;> rfl
  obtain ⟨buffer, skipped, peek, _⟩ := skip_of_garbage garbage (by rw [← held, front]; exact List.cons_ne_nil b rest)
  refine ⟨{ s with clientToNetwork := buffer }, by rw [turn_none send info, skipped], ?_, rfl, rfl⟩
  show buffer.buf.peek = rest
  rw [peek, ← held, front, List.drop_one, List.tail_cons]

theorem turn_whole {s : Feed ρ} {p rest : List UInt8} {router : ρ} (wf : WellFormed p) (front : s.held = p ++ rest)
    (sent : send s.router (packetOf p) = .ok router) :
    ∃ s', turn send s = .next s' ∧ s'.held = rest ∧ s'.router = router ∧ s'.count = s.count + 1 := by
  obtain ⟨version, info⟩ := wf.info rest
  have parsed := wf.parse rest
  have small := wf.small
  rw [← front] at info parsed
  obtain ⟨buffer, peek, _, turned⟩ := turn_packet send info parsed
  rw [sent] at turned
  have number : p.length.toUInt16.toNat = p.length := UInt16.toNat_ofNat_of_lt' (show _ < 65536 by omega)
  refine ⟨_, turned, ?_, rfl, rfl⟩
  show buffer.buf.peek = rest
  rw [peek, number, front, List.drop_left]

/-- The items at the front are taken one after the other. -/
theorem visits_items {items : List Item} (small : ∀ p ∈ packetsOf items, p.length < 65536) {s : Feed ρ}
    {rest : List UInt8} {router : ρ} (front : s.held = items.flatMap Item.bytes ++ rest)
    (sent : sendAll send s.router (packetsOf items) = .ok router) :
    ∃ s', Visits (turn send) s s' ∧ s'.held = rest ∧ s'.router = router ∧
      s'.count = s.count + (packetsOf items).length := by
  induction items generalizing s with
  | nil =>
    cases sent
    exact ⟨s, .start, front, rfl, rfl⟩
  | cons item items ih =>
    rw [List.flatMap_cons, List.append_assoc] at front
    cases item with
    | garbage b unversioned =>
      obtain ⟨s₁, turned, held, router₁, count⟩ := turn_garbage send unversioned front
      obtain ⟨s₂, visits, held₂, router₂, count₂⟩ := ih small held (by rw [router₁]; exact sent)
      exact ⟨s₂, (Visits.start.turn turned).trans visits, held₂, router₂, by rw [count₂, count]; rfl⟩
    | packet p consistent =>
      have here : p.length < 65536 := small p List.mem_cons_self
      obtain ⟨router₁, passed, sent⟩ := bind_ok sent
      obtain ⟨s₁, turned, held, same, count⟩ := turn_whole send (consistent.wellFormed here) front passed
      obtain ⟨s₂, visits, held₂, router₂, count₂⟩ :=
        ih (fun q member => small q (List.mem_cons_of_mem p member)) held (by rw [same]; exact sent)
      refine ⟨s₂, (Visits.start.turn turned).trans visits, held₂, router₂, ?_⟩
      show s₂.count = s.count + ((packetsOf items).length + 1)
      rw [count₂, count]
      omega

/-! ### The incomplete packet -/

theorem turn_part {s : Feed ρ} {p : List UInt8} {n : Nat} (consistent : Consistent p) (short : n < p.length)
    (front : s.held = p.take n) (sum : Stretch.SumFits p n) : turn send s = .stop s := by
  have length : (p.take n).length = n := by
    rw [List.length_take]
    omega
  by_cases small : p.length < 65536
  · obtain ⟨info, starts⟩ := (consistent.wellFormed small).info_part (List.take_prefix n p) (by omega)
    rw [← front] at info starts
    exact turn_wait send info starts
  · obtain ⟨six, stated⟩ := consistent.oversized (by omega)
    by_cases empty : n = 0
    · subst empty
      exact turn_wait send (by rw [front]; rfl) (Or.inl front)
    have first : byteAt s.held 0 >>> 4 = 6 := by
      rw [front, byteAt_take (by omega)]
      exact six
    refine turn_wait send ?_ (Or.inr (Or.inr first))
    rw [packetInfo, if_neg (show ¬ byteAt s.held 0 >>> 4 = 4 by rw [first]; decide), if_pos first]
    rw [front, length]
    rcases sum with small' | early | ⟨release, unreached⟩
    · exact absurd small' small
    · rw [if_pos early]
      split <;> rfl
    · -- The sum wraps to a length that has not arrived.
      by_cases early : n < 6
      · rw [if_pos early]
        split <;> rfl
      have field : u16At (p.take n) 4 = u16At p 4 := u16At_take (by omega)
      obtain ⟨added, wrapped⟩ := @addU16_wrapped _ p (by omega)
      rw [if_neg (by omega), if_neg early, field, added, release, if_neg (by decide), ok_bind, if_neg (by omega)]
      rfl

/-- A sum that overflows panics; one that wraps finds a packet in which no header fits. -/
theorem turn_oversized {s : Feed ρ} {p : List UInt8} {n : Nat} (consistent : Consistent p) (inside : n ≤ p.length)
    (front : s.held = p.take n) (sum : ¬ Stretch.SumFits p n) : ∃ e, turn send s = .fail e := by
  obtain ⟨big, rest⟩ := not_or.mp sum
  obtain ⟨long, reached⟩ := not_or.mp rest
  obtain ⟨six, stated⟩ := consistent.oversized (by omega)
  have length : s.held.length = n := by
    rw [front, List.length_take]
    omega
  have first : byteAt s.held 0 >>> 4 = 6 := by
    rw [front, byteAt_take (by omega)]
    exact six
  have field : u16At s.held 4 = u16At p 4 := by
    rw [front, u16At_take (by omega)]
  have notFour : ¬ byteAt s.held 0 >>> 4 = 4 := by
    rw [first]
    decide
  obtain ⟨added, wrapped⟩ := @addU16_wrapped _ p (by omega)
  have info : packetInfo s.held = addU16 (u16At p 4) 40 >>= fun total =>
      .ok (if total.toNat ≤ n then some (6, total) else none) := by
    rw [packetInfo, if_neg (by omega), if_neg notFour, if_pos first, if_neg (by omega), field, length]
    rfl
  rw [added] at info
  cases checks : Build.overflowChecks with
  | true =>
    rw [checks, if_pos rfl, error_bind] at info
    exact ⟨_, turn_of_info_error send info⟩
  | false =>
    have arrived : (u16At p 4 + 40).toNat ≤ n := by
      by_contra unreached
      exact reached ⟨checks, by omega⟩
    rw [checks, if_neg (by decide), ok_bind, if_pos arrived] at info
    have total : Ipv6HeaderData.checkedTotalLength (.ofRaw s.held) = .ok (u16At p 4 + 40) := by
      have swapped : Ipv6HeaderData.checkedTotalLength (.ofRaw s.held) = addU16 (u16At s.held 4) 40 := by
        rw [Ipv6HeaderData.checkedTotalLength, addU16, addU16, Nat.add_comm, UInt16.add_comm]
        rfl
      rw [swapped, field, added, checks, if_neg (by decide)]
    have parsed : IpPacket.parse s.held = .error .index := by
      have some : ¬ s.held.isEmpty = true := by
        rw [List.isEmpty_iff, ← List.length_eq_zero_iff]
        omega
      have bound := (u16At p 4).toNat_lt
      have forty : ipv6HeaderLength.toNat = 40 := rfl
      rw [IpPacket.parse, if_neg some, if_neg notFour, if_pos first, IpPacket.parseV6, Ipv6HeaderData.parse_eq]
      split
      · rw [ok_bind, total, ok_bind, slice, if_neg (by omega)]
        rfl
      · rfl
    exact ⟨_, turn_of_parse_error send info parsed⟩

/-! ### One chunk -/

section Chunk
variable {stretch : Stretch}

omit [Build] in
theorem entry_start (router : ρ) : ((start router).entry stretch.bytes).held = stretch.bytes := by
  rw [held_entry, held_start, room_start, List.nil_append, List.take_of_length_le stretch.length_bytes_le]

omit [Build] in
theorem readFrom_start (router : ρ) :
    ((start router).clientToNetwork.readFrom stretch.bytes).2 = true ↔ stretch.bytes ≠ [] := by
  rw [readFrom_some, room_start]
  exact and_iff_left (by decide)

/-- The loop over a chunk that is not empty. -/
theorem feeds_of_visits {router : ρ} {s : Feed ρ} {r : Except Panic (Feed ρ)} (some : stretch.bytes ≠ [])
    (visits : Visits (turn send) ((start router).entry stretch.bytes) s) (left : turn send s = .leave r) :
    Feeds send (start router) stretch.bytes r := by
  obtain ⟨n, ended⟩ := loop_of_visits visits left
  exact ⟨n, by rw [feedDeviceData, if_pos ((readFrom_start router).mpr some)]; exact ended⟩

omit [Build] in
theorem items_of_empty (empty : stretch.bytes = []) : stretch.items = [] ∧ stretch.tail = [] := by
  obtain ⟨items, tail⟩ := List.append_eq_nil_iff.mp empty
  refine ⟨?_, tail⟩
  cases read : stretch.items with
  | nil => rfl
  | cons item rest =>
    rw [read, List.flatMap_cons] at items
    exact absurd (List.append_eq_nil_iff.mp items).1 item.bytes_ne_nil

/-- What the router makes of the packets is what becomes of the chunk. -/
theorem feeds_stretch {router₀ router : ρ} (sums : stretch.SumsFit)
    (sent : sendAll send router₀ stretch.packets = .ok router) :
    ∃ s, Feeds send (start router₀) stretch.bytes (.ok s) ∧ s.router = router ∧
      s.count = stretch.packets.length ∧ s.held = stretch.tail := by
  obtain ⟨small, sum⟩ := sums
  by_cases empty : stretch.bytes = []
  · obtain ⟨items, tail⟩ := items_of_empty empty
    have none : stretch.packets = [] := by rw [Stretch.packets, items]; rfl
    rw [none] at sent ⊢
    cases sent
    refine ⟨_, ⟨0, ?_⟩, rfl, rfl, (entry_start router₀).trans (empty.trans tail.symm)⟩
    rw [feedDeviceData, if_neg (mt (readFrom_start router₀).mp (not_not_intro empty))]
  · obtain ⟨s, visits, held, routed, count⟩ :=
      visits_items send (s := (start router₀).entry stretch.bytes) small (entry_start router₀) sent
    have stops := turn_part send stretch.consistent stretch.incomplete held sum
    exact ⟨s, feeds_of_visits send empty visits stops, routed, count.trans (Nat.zero_add _), held⟩

/-- Where a sum does not fit, the call panics. -/
theorem feeds_panic {router₀ router : ρ} (unfit : ¬ stretch.SumsFit)
    (sent : sendAll send router₀ stretch.packets = .ok router) :
    ∃ e, Feeds send (start router₀) stretch.bytes (.error e) := by
  have fits := stretch.length_bytes_le
  rw [maxPacketLength] at fits
  by_cases small : ∀ p ∈ stretch.packets, p.length < 65536
  · have sum : ¬ Stretch.SumFits stretch.next stretch.arrived := fun sum => unfit ⟨small, sum⟩
    have arrived : ¬ stretch.arrived < 6 := fun early => sum (Or.inr (Or.inl early))
    have some : stretch.bytes ≠ [] := by
      intro empty
      have tail := congrArg List.length (items_of_empty empty).2
      have incomplete := stretch.incomplete
      rw [Stretch.tail, List.length_take, List.length_nil] at tail
      omega
    obtain ⟨s, visits, held, _, _⟩ :=
      visits_items send (s := (start router₀).entry stretch.bytes) small (entry_start router₀) sent
    obtain ⟨e, failed⟩ := turn_oversized send stretch.consistent (Nat.le_of_lt stretch.incomplete) held sum
    exact ⟨e, feeds_of_visits send some visits failed⟩
  · -- A packet that is too long fills the chunk.
    push Not at small
    obtain ⟨p, member, big⟩ := small
    obtain ⟨item, among, packet⟩ := List.mem_filterMap.mp member
    cases item with
    | garbage b unversioned => cases packet
    | packet q consistent =>
      cases packet
      obtain ⟨before, after, split⟩ := List.append_of_mem among
      have parts : stretch.bytes = before.flatMap Item.bytes ++ (p ++ (after.flatMap Item.bytes ++ stretch.tail)) := by
        rw [Stretch.bytes, split, List.flatMap_append, List.flatMap_cons, List.append_assoc, List.append_assoc]
        rfl
      have length := congrArg List.length parts
      simp only [List.length_append] at length
      have first : before.flatMap Item.bytes = [] := List.length_eq_zero_iff.mp (by omega)
      have last : after.flatMap Item.bytes ++ stretch.tail = [] :=
        List.length_eq_zero_iff.mp (by rw [List.length_append]; omega)
      have whole : stretch.bytes = p := by rw [parts, first, last, List.nil_append, List.append_nil]
      have some : stretch.bytes ≠ [] := by
        rw [whole]
        rintro rfl
        exact absurd big (by decide)
      obtain ⟨e, failed⟩ := turn_oversized send consistent (Nat.le_refl p.length)
        (s := (start router₀).entry stretch.bytes)
        (by rw [entry_start, whole, List.take_length]) (by unfold Stretch.SumFits; omega)
      exact ⟨e, feeds_of_visits send some .start failed⟩

end Chunk

/-- A chunk is resynchronised exactly when the length of no IPv6 packet in it leaves 16 bits. -/
theorem resyncs_iff (stretch : Stretch) : stretch.Resyncs ↔ stretch.SumsFit := by
  have sent : sendAll record [] stretch.packets = .ok (stretch.packets.map packetOf) := sendAll_record ..
  constructor
  · rintro ⟨s, fed, _⟩
    by_contra unfit
    obtain ⟨e, panics⟩ := feeds_panic record unfit sent
    cases feeds_unique record fed panics
  · intro sums
    exact feeds_stretch record sums sent

end Feed

namespace Sample

/-- An IPv6 packet with a payload of 65496 bytes, 65536 bytes in all. -/
def fullPacket : List UInt8 := [0x60, 0, 0, 0, 0xff, 0xd8] ++ List.replicate 65530 0

theorem length_fullPacket : fullPacket.length = 65536 := by
  rw [fullPacket, List.length_append, List.length_replicate]
  rfl

theorem byteAt_fullPacket {i : Nat} (front : i < 6) : byteAt fullPacket i = byteAt [0x60, 0, 0, 0, 0xff, 0xd8] i :=
  byteAt_append_left front

theorem fullPacket_consistent : Consistent fullPacket := by
  have first : byteAt fullPacket 0 = 0x60 := byteAt_fullPacket (by decide)
  have field : u16At fullPacket 4 = 0xffd8 := u16At_append_left (by decide)
  have header : byteAt fullPacket 6 = 0 := rfl
  have data : ipHeaderDataOf fullPacket = .v6 (.ofRaw fullPacket) := by
    rw [ipHeaderDataOf, first]
    rfl
  have stated : statedLength fullPacket = some 65536 := by
    rw [statedLength, first, field]
    rfl
  refine ⟨by rw [stated, length_fullPacket], ?_, ?_, ?_⟩
  · rw [data]
    exact Nat.le_refl 40
  · rw [data, length_fullPacket]
    decide
  · rw [data]
    have other : (Ipv6HeaderData.ofRaw fullPacket).nextHeader = .other := by
      rw [Ipv6HeaderData.ofRaw, header]
      rfl
    show TransportInside (Ipv6HeaderData.ofRaw fullPacket).nextHeader _
    rw [other]
    trivial

/-- Its first six bytes, and nothing else. -/
def sixBytes : Stretch where
  items := []
  next := fullPacket
  consistent := fullPacket_consistent
  arrived := 6
  incomplete := by rw [length_fullPacket]; decide
  fits := by decide

theorem not_resyncs [Build] : ¬ sixBytes.Resyncs := by
  intro resyncs
  obtain ⟨_, small | early | ⟨_, unreached⟩⟩ := (Feed.resyncs_iff sixBytes).mp resyncs
  · exact absurd small (by rw [sixBytes, length_fullPacket]; decide)
  · exact absurd early (by decide)
  · exact absurd unreached (by rw [sixBytes, length_fullPacket]; decide)

/-- Six bytes of such a packet panic the relay, in any build. -/
theorem six_bytes_panic :
    ¬ @Stretch.Resyncs { overflowChecks := true } sixBytes ∧
      ¬ @Stretch.Resyncs { overflowChecks := false } sixBytes :=
  ⟨@not_resyncs { overflowChecks := true }, @not_resyncs { overflowChecks := false }⟩

end Sample

end Gnirehtet.Relay
