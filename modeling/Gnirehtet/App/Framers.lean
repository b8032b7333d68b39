import Gnirehtet.App.IpPacketOutputStream

/-!
# The two framers

The relay and the app cut the same kind of stream with two programs. Both are compared with
`completeLength`, which reads the length field as a number: the app follows it always, and the relay
does so as long as its 16-bit sum for IPv6 does not overflow.
-/

namespace Gnirehtet.App
open Lib Relay

/-- The app writes a packet of `n` bytes. -/
def IpPacketOutputStream.Emits (s : IpPacketOutputStream) (n : Nat) : Prop :=
  ∃ s' packet, s.sinkPacket = .ok (s', true) ∧ s'.target = s.target ++ [packet] ∧ packet.length = n

section
open IpPacketOutputStream

theorem emits_iff {s : IpPacketOutputStream} (starts : StartsPacket s.pending) (n : Nat) :
    s.Emits n ↔ completeLength s.pending = some n := by
  have step := sinkPacket_packet starts
  cases found : completeLength s.pending with
  | none =>
    rw [found] at step
    refine iff_of_false ?_ (by rintro ⟨⟩)
    rintro ⟨s', packet, sunk, _⟩
    rw [step] at sunk
    cases sunk
  | some m =>
    rw [found] at step
    obtain ⟨s', sunk, wrote⟩ := step
    have inside : m ≤ s.pending.length := by
      unfold completeLength at found
      split at found
      · cases found
      · simpa using (Option.filter_eq_some_iff.mp found).2
    have length : (s.pending.take m).length = m := by rw [List.length_take, Nat.min_eq_left inside]
    constructor
    · rintro ⟨s'', packet, sunk', target, size⟩
      rw [sunk] at sunk'
      cases sunk'
      rw [wrote.target] at target
      have same := List.append_cancel_left target
      rw [List.singleton_inj] at same
      rw [← size, ← same, length]
    · rintro same
      cases same
      exact ⟨s', _, sunk, wrote.target, length⟩

end

variable [Build]

/-- The relay finds a complete packet of `n` bytes at the front. -/
def Reports (b : IpPacketBuffer) (n : Nat) : Prop :=
  ∃ version length, b.availablePacketInfo = .ok (some (version, length)) ∧ length.toNat = n

/-- On the same bytes the relay answers, finds the packet that the app writes, both take it to have the
length that the header states, and the parsed header has that length. -/
structure FramersAgree (b : IpPacketBuffer) (s : IpPacketOutputStream) : Prop where
  answers : ∃ info, b.availablePacketInfo = .ok info
  same : ∀ n, Reports b n ↔ s.Emits n
  stated : ∀ n, s.Emits n → statedLength s.pending = some n
  header : ∀ header, Ipv6HeaderData.parse s.pending = .ok header → byteAt s.pending 0 >>> 4 = 6 →
    ∃ total, header.checkedTotalLength = .ok total ∧ statedLength s.pending = some total.toNat

/-- The sum of an IPv6 length fits in 16 bits, or is not looked at; or it wraps to a length that the bytes
do not reach. -/
def SumHolds (data : List UInt8) : Prop :=
  byteAt data 0 >>> 4 = 6 → 6 ≤ data.length → (u16At data 4).toNat + 40 < 65536 ∨
    Build.overflowChecks = false ∧ data.length + 65536 < (u16At data 4).toNat + 40

/-! ### What the relay answers -/

section Relay
open IpPacketOutputStream
variable {data : List UInt8}

theorem packetInfo_v4 (four : byteAt data 0 >>> 4 = 4) :
    ∃ info, packetInfo data = .ok info ∧ info.map (·.2.toNat) = completeLength data := by
  rw [packetInfo, completeLength, lengthEnd, statedLength, if_pos four, if_pos four, if_pos four]
  by_cases short : data.length < 4
  · rw [if_pos short, if_pos short]
    exact ⟨none, rfl, rfl⟩
  · rw [if_neg short, if_neg short]
    refine ⟨_, rfl, ?_⟩
    by_cases fits : (u16At data 2).toNat ≤ data.length <;> simp [Option.filter, fits]

theorem packetInfo_v6 (six : byteAt data 0 >>> 4 = 6) :
    packetInfo data = if data.length < 6 then .ok none else
      addU16 (u16At data 4) 40 >>= fun total => .ok (if total.toNat ≤ data.length then some (6, total) else none) := by
  rw [packetInfo, if_neg (show ¬ byteAt data 0 >>> 4 = 4 by rw [six]; decide), if_pos six]
  by_cases short : data.length < 4
  · rw [if_pos short, if_pos (by omega)]
  · rw [if_neg short]
    rfl

omit [Build] in
theorem completeLength_v6 (six : byteAt data 0 >>> 4 = 6) :
    completeLength data = if data.length < 6 then none else
      if (u16At data 4).toNat + 40 ≤ data.length then some ((u16At data 4).toNat + 40) else none := by
  have notFour : ¬ byteAt data 0 >>> 4 = 4 := by
    rw [six]
    decide
  rw [completeLength, lengthEnd, statedLength, if_neg notFour, if_neg notFour, if_pos six]
  split
  · rfl
  · by_cases fits : (u16At data 4).toNat + 40 ≤ data.length <;> simp [Option.filter, fits]

omit [Build] in
theorem statedLength_v6 (six : byteAt data 0 >>> 4 = 6) : statedLength data = some ((u16At data 4).toNat + 40) := by
  rw [statedLength, if_neg (show ¬ byteAt data 0 >>> 4 = 4 by rw [six]; decide), if_pos six]

theorem packetInfo_eq_of_sum (starts : StartsPacket data) (sum : SumHolds data) :
    ∃ info, packetInfo data = .ok info ∧ info.map (·.2.toNat) = completeLength data := by
  rcases starts with four | six
  · exact packetInfo_v4 four
  rw [packetInfo_v6 six, completeLength_v6 six]
  by_cases short : data.length < 6
  · rw [if_pos short, if_pos short]
    exact ⟨none, rfl, rfl⟩
  rw [if_neg short, if_neg short]
  rcases sum six (by omega) with small | ⟨release, unreached⟩
  · obtain ⟨added, total⟩ := addU16_ok (a := u16At data 4) (b := 40) (by simpa using small)
    have total' : (u16At data 4 + 40).toNat = (u16At data 4).toNat + 40 := total
    rw [added, ok_bind]
    refine ⟨_, rfl, ?_⟩
    rw [total']
    by_cases fits : (u16At data 4).toNat + 40 ≤ data.length <;> simp [fits, total']
  · have wraps : 65536 ≤ (u16At data 4).toNat + 40 := by omega
    obtain ⟨added, wrapped⟩ := addU16_wrapped wraps
    rw [added, release, if_neg (by decide), ok_bind, if_neg (by omega), if_neg (by omega)]
    exact ⟨none, rfl, rfl⟩

end Relay

/-! ### Agreement -/

section Agreement
open IpPacketOutputStream
variable {b : IpPacketBuffer} {s : IpPacketOutputStream}

theorem reports_iff {info : Option (UInt8 × UInt16)} (found : b.availablePacketInfo = .ok info) (n : Nat) :
    Reports b n ↔ info.map (·.2.toNat) = some n := by
  rw [Option.map_eq_some_iff]
  constructor
  · rintro ⟨version, length, found', rfl⟩
    rw [found] at found'
    cases found'
    exact ⟨_, rfl, rfl⟩
  · rintro ⟨⟨version, length⟩, rfl, size⟩
    exact ⟨version, length, found, size⟩

theorem agree_of_sum (same : s.pending = b.buf.peek) (starts : StartsPacket b.buf.peek)
    (sum : SumHolds b.buf.peek) : FramersAgree b s := by
  obtain ⟨info, found, complete⟩ := packetInfo_eq_of_sum starts sum
  have emits (n : Nat) := emits_iff (s := s) (by rw [same]; exact starts) n
  refine ⟨⟨info, found⟩, ?_, ?_, ?_⟩
  · intro n
    rw [reports_iff found, emits, same, complete]
  · intro n emitted
    have complete := (emits n).mp emitted
    unfold completeLength at complete
    split at complete
    · cases complete
    · exact (Option.filter_eq_some_iff.mp complete).1
  · intro header parsed six
    rw [same] at parsed six ⊢
    rw [Ipv6HeaderData.parse_eq] at parsed
    split at parsed
    · rename_i long
      cases parsed
      -- A header that parses is longer than a wrapped sum.
      have small : (u16At b.buf.peek 4).toNat + 40 < 65536 := by
        have := (u16At b.buf.peek 4).toNat_lt
        rcases sum six (by omega) with small | ⟨_, unreached⟩
        · exact small
        · omega
      have forty : (40 : UInt16).toNat = 40 := rfl
      obtain ⟨added, total⟩ := addU16_ok (a := 40) (b := u16At b.buf.peek 4) (by omega)
      exact ⟨_, added, by rw [statedLength_v6 six, total, forty, Nat.add_comm]⟩
    · cases parsed

theorem sum_of_agree (same : s.pending = b.buf.peek) (agree : FramersAgree b s) : SumHolds b.buf.peek := by
  intro six field
  by_cases small : (u16At b.buf.peek 4).toNat + 40 < 65536
  · exact Or.inl small
  have wraps : 65536 ≤ (u16At b.buf.peek 4).toNat + 40 := by omega
  obtain ⟨added, wrapped⟩ := addU16_wrapped wraps
  obtain ⟨info, found⟩ := agree.answers
  have answer := found
  rw [IpPacketBuffer.availablePacketInfo, packetInfo_v6 six, if_neg (by omega), added] at answer
  cases checks : Build.overflowChecks with
  | true =>
    rw [checks, if_pos rfl, error_bind] at answer
    cases answer
  | false =>
    right
    refine ⟨rfl, ?_⟩
    rw [checks, if_neg (by decide), ok_bind] at answer
    by_cases reached : (u16At b.buf.peek 4 + 40).toNat ≤ b.buf.peek.length
    · -- The relay reports the wrapped length, which is not the one that the app writes.
      rw [if_pos reached] at answer
      cases answer
      have emitted := (agree.same _).mp ⟨_, _, found, rfl⟩
      have stated := agree.stated _ emitted
      rw [same, statedLength_v6 six] at stated
      have := Option.some.inj stated
      omega
    · omega

/-- The framers agree exactly on the bytes whose IPv6 length does not overflow 16 bits. -/
theorem framers_agree_iff (same : s.pending = b.buf.peek) (starts : StartsPacket b.buf.peek) :
    FramersAgree b s ↔ SumHolds b.buf.peek :=
  ⟨sum_of_agree same, agree_of_sum same starts⟩

end Agreement

namespace Sample
open IpPacketOutputStream

def ipv6Front (payloadLength : UInt16) : List UInt8 := [0x60, 0, 0, 0] ++ beBytes16 payloadLength

def received (data : List UInt8) : IpPacketBuffer where
  buf := { buf := data, head := data.length, head_le := Nat.le_refl _ }

def flipped (data : List UInt8) : IpPacketOutputStream where
  buffer := {
    hb := data
    position := 0
    limit := data.length
    position_le := Nat.zero_le _
    limit_le := Nat.le_refl _ }
  target := []

omit [Build] in
theorem pending_flipped (data : List UInt8) : (flipped data).pending = (received data).buf.peek := rfl

omit [Build] in
/-- Both find the packet that is complete, with the part of another behind it. -/
theorem framers_agree_whole :
    let _ : Build := { overflowChecks := true }
    FramersAgree (received (ipv6Packet ++ ipv6Front 65495)) (flipped (ipv6Packet ++ ipv6Front 65495)) ∧
      Reports (received (ipv6Packet ++ ipv6Front 65495)) 42 := by
  intro _
  have agree := (framers_agree_iff (pending_flipped (ipv6Packet ++ ipv6Front 65495)) (by decide)).mpr fun _ _ =>
    Or.inl (by decide)
  refine ⟨agree, (agree.same 42).mpr ((emits_iff (by rw [pending_flipped]; decide) 42).mpr ?_)⟩
  rw [pending_flipped]
  decide

theorem not_agree_longer : ¬ FramersAgree (received (ipv6Front 65496)) (flipped (ipv6Front 65496)) := by
  intro agree
  have sum := sum_of_agree (pending_flipped _) agree (by decide) (by decide)
  rcases sum with small | ⟨_, unreached⟩
  · exact absurd small (by decide)
  · exact absurd unreached (by decide)

omit [Build] in
/-- One byte more: the relay panics, or finds a complete packet without bytes, where the app waits. -/
theorem framers_disagree_longer :
    let agree (build : Build) : Prop := @FramersAgree build (received (ipv6Front 65496)) (flipped (ipv6Front 65496))
    ¬ agree { overflowChecks := true } ∧ ¬ agree { overflowChecks := false } :=
  ⟨@not_agree_longer { overflowChecks := true }, @not_agree_longer { overflowChecks := false }⟩

end Sample

end Gnirehtet.App
