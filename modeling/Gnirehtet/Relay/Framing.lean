import Gnirehtet.Lib.Loop
import Gnirehtet.Relay.IpPacketBuffer

/-!
# Framing the device stream

`feedDeviceData` puts one chunk of the device stream into the packet buffer and passes every packet
that is complete to the router. The router is any state `ρ` with a `send` that may panic.
-/

namespace Gnirehtet.Relay
open Lib

/-- What `feed_device_data` works on. -/
structure Feed (ρ : Type) where
  clientToNetwork : IpPacketBuffer
  router : ρ
  count : Nat

namespace Feed
variable [Build] {ρ : Type} (send : ρ → IpPacket → Checked ρ)

def start (router : ρ) : Feed ρ where
  clientToNetwork := .new
  router := router
  count := 0

def held (s : Feed ρ) : List UInt8 := s.clientToNetwork.buf.peek

def room (s : Feed ρ) : Nat := s.clientToNetwork.buf.room

omit [Build] in
@[simp] theorem held_start (router : ρ) : (start router).held = [] := rfl

omit [Build] in
@[simp] theorem room_start (router : ρ) : (start router).room = maxPacketLength := ByteBuffer.room_new _

/-- A packet goes to the router and out of the buffer. -/
def pass (s : Feed ρ) (packet : IpPacket) : Checked (Feed ρ) := do
  let router ← send s.router packet
  let clientToNetwork ← s.clientToNetwork.next
  return { clientToNetwork, router, count := s.count + 1 }

def turn (s : Feed ρ) : Flow Panic (Feed ρ) :=
  match s.clientToNetwork.asIpPacket with
  | .error e => .fail e
  | .ok (some packet) =>
    match s.pass send packet with
    | .error e => .fail e
    | .ok s => .next s
  | .ok none =>
    match s.clientToNetwork.skipMalformed with
    | .error e => .fail e
    | .ok (some clientToNetwork) => .next { s with clientToNetwork }
    | .ok none => .stop s

def entry (s : Feed ρ) (data : List UInt8) : Feed ρ :=
  { s with clientToNetwork := (s.clientToNetwork.readFrom data).1, count := 0 }

omit [Build] in
theorem held_entry (s : Feed ρ) (data : List UInt8) : (s.entry data).held = s.held ++ data.take s.room :=
  ByteBuffer.peek_readFrom ..

omit [Build] in
theorem readFrom_some (s : Feed ρ) (data : List UInt8) :
    (s.clientToNetwork.readFrom data).2 = true ↔ data ≠ [] ∧ 0 < s.room := ByteBuffer.readFrom_some ..

/-- At most `n` turns; the number of packets is the `count` of the result. -/
def feedDeviceData (n : Nat) (s : Feed ρ) (data : List UInt8) : Option (Except Panic (Feed ρ)) :=
  if (s.clientToNetwork.readFrom data).2 then loop (turn send) n (s.entry data) else some (.ok (s.entry data))

/-- The state that the loop leaves with one chunk. -/
def Feeds (s : Feed ρ) (data : List UInt8) (r : Except Panic (Feed ρ)) : Prop :=
  ∃ n, feedDeviceData send n s data = some r

/-! ### One turn -/

/-- What a turn does, by the bytes at the front. -/
inductive Turned (s : Feed ρ) : Flow Panic (Feed ρ) → Prop where
  | fail (e : Panic) : Turned s (.fail e)
  | packet (packet : IpPacket) (version : UInt8) (length : UInt16) (router : ρ) (buffer : IpPacketBuffer)
      (found : packetInfo s.held = .ok (some (version, length)))
      (parsed : IpPacket.parse s.held = .ok (some packet)) (sent : send s.router packet = .ok router)
      (consumed : buffer.buf.peek = s.held.drop length.toNat)
      (size : buffer.buf.buf.length = s.clientToNetwork.buf.buf.length) :
      Turned s (.next { clientToNetwork := buffer, router, count := s.count + 1 })
  | skip (buffer : IpPacketBuffer) (garbage : ¬ StartsPacket s.held) (some : s.held ≠ [])
      (consumed : buffer.buf.peek = s.held.drop 1)
      (size : buffer.buf.buf.length = s.clientToNetwork.buf.buf.length) :
      Turned s (.next { s with clientToNetwork := buffer })
  | wait (incomplete : packetInfo s.held = .ok none) (front : s.held = [] ∨ StartsPacket s.held) :
      Turned s (.stop s)

theorem parse_none {data : List UInt8} (none : IpPacket.parse data = .ok none) :
    data = [] ∨ ¬ StartsPacket data := by
  unfold IpPacket.parse at none
  split at none
  · rename_i empty
    exact Or.inl (List.isEmpty_iff.mp empty)
  · split at none
    · obtain ⟨_, _, same⟩ := bind_ok none
      cases same
    · split at none
      · obtain ⟨_, _, same⟩ := bind_ok none
        cases same
      · rename_i four six
        exact Or.inr (by rintro (h | h) <;> contradiction)

omit [Build] in
theorem skip_of_garbage {b : IpPacketBuffer} (garbage : ¬ StartsPacket b.buf.peek) (some : b.buf.peek ≠ []) :
    ∃ b', b.skipMalformed = .ok (.some b') ∧ b'.buf.peek = b.buf.peek.drop 1 ∧
      b'.buf.buf.length = b.buf.buf.length := by
  obtain ⟨buf, consumed, peek, same⟩ := b.buf.consume_spec (List.length_pos_iff.mpr some)
  unfold StartsPacket at garbage
  refine ⟨{ buf }, ?_, peek, same⟩
  rw [IpPacketBuffer.skipMalformed, if_neg (by simpa using some), if_neg garbage]
  exact congrArg (· >>= _) consumed

theorem turn_packet {s : Feed ρ} {version : UInt8} {length : UInt16} {packet : IpPacket}
    (found : packetInfo s.held = .ok (some (version, length)))
    (parsed : IpPacket.parse s.held = .ok (some packet)) :
    ∃ buffer : IpPacketBuffer, buffer.buf.peek = s.held.drop length.toNat ∧
      buffer.buf.buf.length = s.clientToNetwork.buf.buf.length ∧
      turn send s = match send s.router packet with
        | .error e => .fail e
        | .ok router => .next { clientToNetwork := buffer, router, count := s.count + 1 } := by
  obtain ⟨b, next, peek, size⟩ := next_of_found found
  have front : s.clientToNetwork.asIpPacket = .ok (some packet) := by
    rw [IpPacketBuffer.asIpPacket, IpPacketBuffer.availablePacketInfo, show packetInfo s.clientToNetwork.buf.peek = _
      from found]
    exact parsed
  refine ⟨b, peek, size, ?_⟩
  rw [turn, front]
  dsimp only
  unfold pass
  cases send s.router packet with
  | error e => rfl
  | ok router =>
    rw [ok_bind, next]
    rfl

/-- Bytes that are no complete packet are waited for, or garbage. -/
theorem turn_none {s : Feed ρ} (incomplete : packetInfo s.held = .ok none) :
    turn send s = match s.clientToNetwork.skipMalformed with
      | .error e => .fail e
      | .ok (some clientToNetwork) => .next { s with clientToNetwork }
      | .ok none => .stop s := by
  have front : s.clientToNetwork.asIpPacket = .ok none := by
    rw [IpPacketBuffer.asIpPacket, IpPacketBuffer.availablePacketInfo, show packetInfo s.clientToNetwork.buf.peek = _
      from incomplete]
    rfl
  rw [turn, front]

theorem turn_wait {s : Feed ρ} (incomplete : packetInfo s.held = .ok none)
    (front : s.held = [] ∨ StartsPacket s.held) : turn send s = .stop s := by
  have waits : s.clientToNetwork.skipMalformed = .ok none := by
    rw [IpPacketBuffer.skipMalformed]
    rcases front with empty | starts
    · exact if_pos (List.isEmpty_iff.mpr empty)
    · split
      · rfl
      · exact if_pos starts
  rw [turn_none send incomplete, waits]

theorem turn_of_info_error {s : Feed ρ} {e : Panic} (info : packetInfo s.held = .error e) : turn send s = .fail e := by
  rw [turn, IpPacketBuffer.asIpPacket, IpPacketBuffer.availablePacketInfo,
    show packetInfo s.clientToNetwork.buf.peek = _ from info]
  rfl

theorem turn_of_parse_error {s : Feed ρ} {e : Panic} {found : UInt8 × UInt16}
    (info : packetInfo s.held = .ok (some found)) (parsed : IpPacket.parse s.held = .error e) :
    turn send s = .fail e := by
  rw [turn, IpPacketBuffer.asIpPacket, IpPacketBuffer.availablePacketInfo,
    show packetInfo s.clientToNetwork.buf.peek = _ from info, ok_bind, Option.isSome_some, if_pos rfl,
    show IpPacket.parse s.clientToNetwork.buf.peek = _ from parsed]

theorem turn_turned (s : Feed ρ) : Turned send s (turn send s) := by
  cases info : packetInfo s.held with
  | error e =>
    rw [turn_of_info_error send info]
    exact .fail e
  | ok found =>
    cases found with
    | none =>
      by_cases front : s.held = [] ∨ StartsPacket s.held
      · rw [turn_wait send info front]
        exact .wait info front
      · obtain ⟨some, garbage⟩ := not_or.mp front
        obtain ⟨b, skipped, peek, size⟩ := skip_of_garbage garbage some
        rw [turn_none send info, skipped]
        exact .skip b garbage some peek size
    | some found =>
      obtain ⟨version, length⟩ := found
      obtain ⟨starts, some, _⟩ := packetInfo_some info
      cases parsed : IpPacket.parse s.held with
      | error e =>
        rw [turn_of_parse_error send info parsed]
        exact .fail e
      | ok packet =>
        cases packet with
        | none => exact absurd (parse_none parsed) (by rintro (h | h) <;> contradiction)
        | some packet =>
          obtain ⟨b, peek, size, turned⟩ := turn_packet send info parsed
          rw [turned]
          cases sent : send s.router packet with
          | error e => exact .fail e
          | ok router => exact .packet packet version length router b info parsed sent peek size

/-! ### Termination -/

/-- An IPv4 packet of length zero that parses and is taken by the router: it is passed on, and no
byte is removed. -/
def Stalls (s : Feed ρ) : Prop :=
  byteAt s.held 0 >>> 4 = 4 ∧ u16At s.held 2 = 0 ∧
    ∃ packet router, IpPacket.parse s.held = .ok (some packet) ∧ send s.router packet = .ok router

/-- A packet of length zero that parses is IPv4: an IPv6 length that wraps to zero fails to parse. -/
theorem zero_length {data : List UInt8} {version : UInt8} {length : UInt16} {packet : IpPacket}
    (found : packetInfo data = .ok (some (version, length))) (zero : length.toNat = 0)
    (parsed : IpPacket.parse data = .ok (some packet)) : byteAt data 0 >>> 4 = 4 ∧ u16At data 2 = 0 := by
  obtain ⟨starts, nonempty, _⟩ := packetInfo_some found
  unfold packetInfo at found
  split at found
  · cases found
  split at found
  · rename_i four
    split at found
    · cases found
      exact ⟨four, UInt16.toNat.inj zero⟩
    · cases found
  · rename_i notFour
    have six : byteAt data 0 >>> 4 = 6 := starts.resolve_left notFour
    rw [if_pos six] at found
    split at found
    · cases found
    obtain ⟨total, sum, found⟩ := bind_ok found
    split at found
    · cases found
      rw [IpPacket.parse, if_neg (by simpa using nonempty), if_neg notFour, if_pos six, IpPacket.parseV6,
        Ipv6HeaderData.parse_eq] at parsed
      obtain ⟨p, parsed, _⟩ := bind_ok parsed
      split at parsed
      · rw [ok_bind] at parsed
        obtain ⟨total', sum', parsed⟩ := bind_ok parsed
        obtain ⟨payload, sliced, _⟩ := bind_ok parsed
        have same : total' = length := by
          have swapped : Ipv6HeaderData.checkedTotalLength (.ofRaw data) = addU16 (u16At data 4) 40 := by
            rw [Ipv6HeaderData.checkedTotalLength, addU16, addU16, Nat.add_comm, UInt16.add_comm]
            rfl
          rw [swapped, sum] at sum'
          exact (Except.ok.inj sum').symm
        have := (slice_ok sliced).2.1
        rw [same, zero] at this
        exact absurd this (by decide)
      · cases parsed
    · cases found

/-- A turn that goes on removes at least one byte, unless it passes a packet of length zero. -/
theorem turn_shrinks {s s' : Feed ρ} (turned : turn send s = .next s') :
    s'.held.length < s.held.length ∨ s'.held = s.held ∧ s.Stalls send := by
  have cases := turn_turned send s
  rw [turned] at cases
  cases cases with
  | packet packet version length router buffer found parsed sent consumed size =>
    obtain ⟨_, nonempty, inside⟩ := packetInfo_some found
    have some := List.length_pos_iff.mpr nonempty
    by_cases zero : length.toNat = 0
    · obtain ⟨four, field⟩ := zero_length found zero parsed
      rw [zero, List.drop_zero] at consumed
      exact Or.inr ⟨consumed, four, field, packet, router, parsed, sent⟩
    · left
      rw [held, consumed, List.length_drop]
      omega
  | skip buffer garbage some consumed size =>
    have := List.length_pos_iff.mpr some
    left
    rw [held, consumed, List.length_drop]
    omega

theorem parse_long {data : List UInt8} {packet : IpPacket} (four : byteAt data 0 >>> 4 = 4)
    (parsed : IpPacket.parse data = .ok (some packet)) : 20 ≤ data.length := by
  unfold IpPacket.parse at parsed
  split at parsed
  · cases parsed
  · obtain ⟨p, parsed, _⟩ := bind_ok parsed
    rw [IpPacket.parseV4, Ipv4HeaderData.parse_eq] at parsed
    split at parsed
    · assumption
    · cases parsed

theorem turn_of_stalls {s : Feed ρ} (stalls : s.Stalls send) :
    ∃ s', turn send s = .next s' ∧ s'.held = s.held := by
  obtain ⟨four, zero, packet, router, parsed, sent⟩ := stalls
  have long := parse_long four parsed
  have found : packetInfo s.held = .ok (some (4, 0)) := by
    rw [packetInfo, if_neg (by omega), if_pos four, zero]
    exact congrArg _ (if_pos (Nat.zero_le _))
  obtain ⟨b, peek, _, turned⟩ := turn_packet send found parsed
  rw [sent] at turned
  exact ⟨_, turned, peek⟩

/-- A state at the top of the loop while a chunk is fed. -/
def Reached (s : Feed ρ) (data : List UInt8) (s' : Feed ρ) : Prop :=
  (s.clientToNetwork.readFrom data).2 = true ∧ Visits (turn send) (s.entry data) s'

/-- The loop ends, and every turn that goes on removes at least one byte. -/
structure Progresses (s : Feed ρ) (data : List UInt8) : Prop where
  ends : ∃ r, Feeds send s data r
  shrinks : ∀ a b, Reached send s data a → turn send a = .next b → b.held.length < a.held.length

/-- Feeding a chunk ends with every turn removing a byte exactly when no packet of length zero comes to
the front. -/
theorem progresses_iff (s : Feed ρ) (data : List UInt8) :
    Progresses send s data ↔ ∀ a, Reached send s data a → ¬ a.Stalls send := by
  constructor
  · rintro ⟨_, shrinks⟩ a reached stalls
    obtain ⟨b, turned, same⟩ := turn_of_stalls send stalls
    have := shrinks a b reached turned
    rw [same] at this
    omega
  · intro moves
    have shrinks : ∀ a b, Reached send s data a → turn send a = .next b → b.held.length < a.held.length := by
      intro a b reached turned
      exact (turn_shrinks send turned).resolve_right fun h => moves a reached h.2
    refine ⟨?_, shrinks⟩
    cases read : (s.clientToNetwork.readFrom data).2 with
    | false => exact ⟨_, 0, by rw [feedDeviceData, read]; rfl⟩
    | true =>
      obtain ⟨n, r, ended⟩ := ends_of_measure (I := fun a => Reached send s data a) (fun a => a.held.length)
        (fun a b reached turned => ⟨⟨read, reached.2.turn turned⟩, shrinks a b reached turned⟩)
        (⟨read, .start⟩ : Reached send s data (s.entry data))
      exact ⟨r, n, by rw [feedDeviceData, if_pos read]; exact ended⟩

/-- Twenty bytes of an ICMP packet whose total length is zero. -/
def zeroLengthPacket : List UInt8 := [0x45, 0, 0, 0, 0, 0, 0, 0, 64, 1, 0, 0, 10, 0, 0, 2, 8, 8, 8, 8]

omit [Build] in
theorem zero_length_never_ends :
    let _ : Build := { overflowChecks := true }
    ¬ ∃ r, Feeds (fun (_ : Unit) _ => .ok ()) (start ()) zeroLengthPacket r := by
  intro _
  have front : ((start ()).entry zeroLengthPacket).held = zeroLengthPacket := by
    rw [held_entry, room_start]
    rfl
  have trap (s : Feed Unit) (front : s.held = zeroLengthPacket) :
      ∃ s', turn (fun _ _ => .ok ()) s = .next s' ∧ s'.held = zeroLengthPacket := by
    have stalls : s.Stalls (fun _ _ => .ok ()) := by
      unfold Stalls
      rw [front]
      exact ⟨by decide, by decide, _, (), rfl, rfl⟩
    obtain ⟨s', turned, same⟩ := turn_of_stalls _ stalls
    exact ⟨s', turned, same.trans front⟩
  have never := not_ends_of_trap trap front
  rintro ⟨r, n, fed⟩
  rw [feedDeviceData, if_pos] at fed
  · exact never ⟨n, r, fed⟩
  · rw [readFrom_some, room_start]
    decide

end Feed

end Gnirehtet.Relay
