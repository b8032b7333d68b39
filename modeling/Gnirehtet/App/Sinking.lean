import Gnirehtet.App.IpPacketOutputStream
import Mathlib.Logic.Relation

/-!
# Sinking any bytes

The sink loop on bytes that need not be packets. What the loop does depends on the pending bytes only:
it takes complete packets off the front until an incomplete one or an unsupported version comes there.
-/

namespace Gnirehtet.App
open Lib Relay

/-! ### What comes to the front -/

/-- A complete packet is taken off the front. -/
def TakesOff (data rest : List UInt8) : Prop :=
  StartsPacket data ∧ ∃ n, IpPacketOutputStream.completeLength data = some n ∧ rest = data.drop n

/-- `rest` comes to the front of `data` when complete packets are taken off. -/
abbrev Fronts : List UInt8 → List UInt8 → Prop := Relation.ReflTransGen TakesOff

/-- An IPv4 packet whose total length is zero is at the front. -/
def ZeroLength (data : List UInt8) : Prop := byteAt data 0 >>> 4 = 4 ∧ 4 ≤ data.length ∧ u16At data 2 = 0

/-- Nothing, or a part of a packet, is at the front. -/
def Waits (data : List UInt8) : Prop :=
  data = [] ∨ StartsPacket data ∧ IpPacketOutputStream.completeLength data = none

def Unsupported (data : List UInt8) : Prop := data ≠ [] ∧ ¬ StartsPacket data

theorem takesOff_unique : Relator.RightUnique TakesOff := by
  rintro data rest rest' ⟨_, n, complete, rfl⟩ ⟨_, m, complete', rfl⟩
  rw [complete] at complete'
  cases complete'
  rfl

open IpPacketOutputStream

theorem completeLength_le {data : List UInt8} {n : Nat} (complete : completeLength data = some n) :
    n ≤ data.length ∧ lengthEnd data ≤ data.length ∧ statedLength data = some n := by
  unfold completeLength at complete
  split at complete
  · cases complete
  · obtain ⟨stated, fits⟩ := Option.filter_eq_some_iff.mp complete
    exact ⟨by simpa using fits, by omega, stated⟩

theorem not_starts_nil : ¬ StartsPacket [] := by decide

/-- Only IPv4 can state that a packet has no bytes. -/
theorem completeLength_zero {data : List UInt8} : completeLength data = some 0 ↔ ZeroLength data := by
  constructor
  · intro complete
    obtain ⟨_, enough, stated⟩ := completeLength_le complete
    unfold statedLength at stated
    split at stated
    · rename_i four
      rw [lengthEnd, if_pos four] at enough
      exact ⟨four, enough, UInt16.toNat.inj (Option.some.inj stated)⟩
    · split at stated
      · exact absurd (Option.some.inj stated) (by omega)
      · cases stated
  · rintro ⟨four, enough, zero⟩
    rw [completeLength, lengthEnd, if_pos four, if_neg (by omega), statedLength, if_pos four, zero]
    rfl

theorem takesOff_length {data rest : List UInt8} (off : TakesOff data rest) (some : ¬ ZeroLength data) :
    rest.length < data.length := by
  obtain ⟨starts, n, complete, rfl⟩ := off
  have le := (completeLength_le complete).1
  have positive : n ≠ 0 := by
    rintro rfl
    exact some (completeLength_zero.mp complete)
  rw [List.length_drop]
  omega

theorem ZeroLength.takesOff {data rest : List UInt8} (zero : ZeroLength data) : TakesOff data rest ↔ rest = data := by
  have starts : StartsPacket data := Or.inl zero.1
  constructor
  · rintro ⟨_, n, complete, rfl⟩
    rw [completeLength_zero.mpr zero] at complete
    cases complete
    rfl
  · rintro rfl
    exact ⟨starts, 0, completeLength_zero.mpr zero, rfl⟩

/-- One of three things is at the front. -/
theorem front_cases (data : List UInt8) : (∃ rest, TakesOff data rest) ∨ Waits data ∨ Unsupported data := by
  by_cases empty : data = []
  · exact Or.inr (Or.inl (Or.inl empty))
  by_cases starts : StartsPacket data
  · cases complete : completeLength data with
    | some n => exact Or.inl ⟨_, starts, n, complete, rfl⟩
    | none => exact Or.inr (Or.inl (Or.inr ⟨starts, complete⟩))
  · exact Or.inr (Or.inr ⟨empty, starts⟩)

theorem Waits.stays {data rest : List UInt8} (waits : Waits data) : ¬ TakesOff data rest := by
  rintro ⟨starts, n, complete, _⟩
  rcases waits with rfl | ⟨_, incomplete⟩
  · exact not_starts_nil starts
  · rw [incomplete] at complete
    cases complete

theorem Unsupported.stays {data rest : List UInt8} (unsupported : Unsupported data) : ¬ TakesOff data rest :=
  fun off => unsupported.2 off.1

namespace IpPacketOutputStream

/-! ### One turn -/

theorem turn_packet {s : IpPacketOutputStream} {rest : List UInt8} (off : TakesOff s.pending rest) :
    ∃ s', s.turn = .next s' ∧ s'.pending = rest ∧ s'.buffer.hb.length = s.buffer.hb.length := by
  obtain ⟨starts, n, complete, rfl⟩ := off
  have step := sinkPacket_packet starts
  rw [complete] at step
  obtain ⟨s', sunk, wrote⟩ := step
  exact ⟨s', by rw [turn, sunk], wrote.pending, wrote.size⟩

theorem turn_waits {s : IpPacketOutputStream} (waits : Waits s.pending) : s.turn = .stop s := by
  rcases waits with empty | ⟨starts, incomplete⟩
  · exact turn_empty empty
  · have step := sinkPacket_packet starts
    rw [incomplete] at step
    rw [turn, step]

theorem turn_unsupported {s : IpPacketOutputStream} (unsupported : Unsupported s.pending) :
    s.turn = .stop { s with buffer := s.buffer.clear } := by
  obtain ⟨some, other⟩ := unsupported
  have version : readPacketVersion s.buffer = .ok (.some (byteAt s.pending 0 >>> 4)) := by
    rw [readPacketVersion_eq, ← pending, if_neg (by rwa [List.length_eq_zero_iff])]
  obtain ⟨notFour, notSix⟩ := not_or.mp other
  have cleared : s.sinkPacket = .ok ({ s with buffer := s.buffer.clear }, false) := by
    rw [sinkPacket, version, ok_bind]
    dsimp only
    rw [if_neg notFour, if_neg notSix]
    rfl
  rw [turn, cleared]

theorem turn_next {s s' : IpPacketOutputStream} (turned : s.turn = .next s') : TakesOff s.pending s'.pending := by
  rcases front_cases s.pending with ⟨rest, off⟩ | waits | unsupported
  · obtain ⟨b, turned', pending, _⟩ := turn_packet off
    rw [turned] at turned'
    cases turned'
    rwa [pending]
  · rw [turn_waits waits] at turned
    cases turned
  · rw [turn_unsupported unsupported] at turned
    cases turned

/-- The limit stays, so the position moves by what is taken off. -/
theorem sinkPacket_limit {s s' : IpPacketOutputStream} (sunk : s.sinkPacket = .ok (s', true)) :
    s'.buffer.limit = s.buffer.limit := by
  have moves {length : Option Nat} (h : s.sinkLength length = .ok (s', true)) : s'.buffer.limit = s.buffer.limit := by
    unfold sinkLength at h
    split at h
    · cases h
    · split at h
      · cases h
      · obtain ⟨buffer, moved, h⟩ := bind_ok h
        cases h
        unfold ByteBuffer.setPosition at moved
        split at moved
        · cases moved
          rfl
        · cases moved
  unfold sinkPacket at sunk
  obtain ⟨version, _, sunk⟩ := bind_ok sunk
  cases version with
  | none => cases sunk
  | some version =>
    dsimp only at sunk
    split at sunk
    · obtain ⟨length, _, sunk⟩ := bind_ok sunk
      exact moves sunk
    · split at sunk
      · obtain ⟨length, _, sunk⟩ := bind_ok sunk
        exact moves sunk
      · cases sunk

theorem turn_limit {s s' : IpPacketOutputStream} (turned : s.turn = .next s') : s'.buffer.limit = s.buffer.limit := by
  unfold turn at turned
  split at turned
  · rename_i sunk
    cases turned
    exact sinkPacket_limit sunk
  · cases turned
  · cases turned

/-! ### Inside a call -/

/-- `a` is met at the head of the loop in the call. -/
structure Sinks (s : IpPacketOutputStream) (call : Call) (a : IpPacketOutputStream) : Prop where
  short : call.len ≤ maxIpPacketLength
  room : call.len ≤ s.buffer.remaining
  visits : ∃ buffer, s.buffer.put call.b call.off call.len = .ok buffer ∧
    Visits turn { s with buffer := buffer.flip } a

/-- Packets at the front are written one by one, whatever lies behind them. -/
theorem visits_whole {packets : List (List UInt8)} (framed : ∀ p ∈ packets, Framed p) {s : IpPacketOutputStream}
    {behind : List UInt8} (front : s.pending = packets.flatten ++ behind) :
    ∃ a, Visits turn s a ∧ a.target = s.target ++ packets := by
  induction packets generalizing s with
  | nil => exact ⟨s, .start, (List.append_nil _).symm⟩
  | cons p rest ih =>
    rw [List.flatten_cons, List.append_assoc] at front
    obtain ⟨mid, turned, target, pending, _⟩ := turn_whole (framed p List.mem_cons_self) front
    obtain ⟨a, visits, target'⟩ := ih (fun q member => framed q (List.mem_cons_of_mem p member)) pending
    refine ⟨a, (Visits.start.turn turned).trans visits, ?_⟩
    rw [target', target, List.append_assoc, List.singleton_append]

/-- A call that brings the end of the packets, and more behind it, has written them all before it goes on. -/
theorem sinks_whole {packets : List (List UInt8)} (framed : ∀ p ∈ packets, Framed p) {n : Nat}
    {s : IpPacketOutputStream} (holds : Holds packets n s) (arrived : n ≤ packets.flatten.length) {call : Call}
    (short : call.len ≤ maxIpPacketLength) (brings : packets.flatten.drop n <+: call.chunk) :
    ∃ a, s.Sinks call a ∧ a.target = packets := by
  have room : call.len ≤ s.buffer.remaining := Nat.le_trans short (holds.room framed)
  obtain ⟨behind, bytes⟩ := brings
  obtain ⟨buffer, put, stored, _⟩ := ByteBuffer.putAll_spec
    (show call.chunk.length ≤ s.buffer.remaining by rw [call.length_chunk]; exact room)
  have pending : ({ s with buffer := buffer.flip } : IpPacketOutputStream).pending =
      (missing packets n).flatten ++ behind := by
    rw [IpPacketOutputStream.pending, ByteBuffer.rest_flip, stored, holds.stored, ← bytes, ← List.append_assoc,
      leftover_append_all packets arrived]
  have rest : ∀ p ∈ missing packets n, Framed p := fun p member => framed p (List.mem_of_mem_drop member)
  obtain ⟨a, visits, target⟩ := visits_whole rest pending
  refine ⟨a, ⟨short, room, buffer, ?_, visits⟩, ?_⟩
  · rw [ByteBuffer.put, if_pos call.inside]
    exact put
  · rw [target, holds.target, completed_append_missing]

/-! ### Termination -/

/-- The loop ends, and every call of `sinkPacket` that returns true moves the position on. -/
structure Progresses (s : IpPacketOutputStream) : Prop where
  ends : Ends turn s
  advances : ∀ a b, Visits turn s a → a.turn = .next b → a.buffer.position < b.buffer.position

theorem visits_fronts {s a : IpPacketOutputStream} (visits : Visits turn s a) : Fronts s.pending a.pending :=
  visits.seen fun _ _ turned => turn_next turned

theorem fronts_visits {s : IpPacketOutputStream} {rest : List UInt8} (fronts : Fronts s.pending rest) :
    ∃ a, Visits turn s a ∧ a.pending = rest := by
  refine visits_of_seen (f := pending) (fun a x off => ?_) fronts
  obtain ⟨b, turned, pending, _⟩ := turn_packet off
  exact ⟨b, turned, pending⟩

/-- The sink loop ends, with every packet moving the position on, exactly when no packet of length zero
comes to the front. -/
theorem sink_progresses_iff (s : IpPacketOutputStream) :
    s.Progresses ↔ ∀ rest, Fronts s.pending rest → ¬ ZeroLength rest := by
  constructor
  · rintro ⟨_, advances⟩ rest fronts zero
    obtain ⟨a, visits, rfl⟩ := fronts_visits fronts
    obtain ⟨b, turned, same, _⟩ := turn_packet (zero.takesOff.mpr rfl)
    have moved := advances a b visits turned
    have length := congrArg List.length same
    have limit := turn_limit turned
    have inside := b.buffer.position_le
    rw [pending, pending, b.buffer.length_rest, a.buffer.length_rest, ByteBuffer.remaining,
      ByteBuffer.remaining] at length
    omega
  · intro moves
    have shrinks : ∀ a b, Visits turn s a → a.turn = .next b → b.pending.length < a.pending.length :=
      fun a b visits turned => takesOff_length (turn_next turned) (moves _ (visits_fronts visits))
    refine ⟨?_, ?_⟩
    · exact ends_of_measure (I := Visits turn s) (fun a => a.pending.length)
        (fun a b visits turned => ⟨visits.turn turned, shrinks a b visits turned⟩) .start
    · intro a b visits turned
      have length := shrinks a b visits turned
      have limit := turn_limit turned
      have inside := a.buffer.position_le
      rw [pending, pending, b.buffer.length_rest, a.buffer.length_rest, ByteBuffer.remaining,
        ByteBuffer.remaining] at length
      omega

/-- A buffer of four bytes that says of itself that it is an IPv4 packet of length zero. -/
def zeroLengthBuffer : IpPacketOutputStream where
  buffer := { hb := [0x45, 0, 0, 0], position := 0, limit := 4, position_le := by decide, limit_le := by decide }
  target := []

theorem zero_length_spins : ¬ Ends turn zeroLengthBuffer ∧ ¬ zeroLengthBuffer.Progresses := by
  have zero : ZeroLength zeroLengthBuffer.pending := ⟨by decide, by decide, by decide⟩
  refine ⟨?_, fun progresses => (sink_progresses_iff _).mp progresses _ .refl zero⟩
  apply not_ends_of_trap (I := fun a => ZeroLength a.pending)
  · intro a zero
    obtain ⟨b, turned, same, _⟩ := turn_packet (zero.takesOff.mpr rfl)
    exact ⟨b, turned, same ▸ zero⟩
  · exact zero

end IpPacketOutputStream

end Gnirehtet.App
