import Gnirehtet.App.Sinking
import Mathlib.Data.List.Induction

/-!
# Room for the next write

Between two calls the buffer should have room for a whole packet. It has as long as an incomplete packet
of at most 64 KiB is kept. An unsupported version makes `sinkPacket` clear the buffer, and the
`compact` that follows in `write` takes the cleared buffer for a full one. An exception of the target
skips the `compact`: the forwarder leaves its loop then, so it ends a run of calls.
-/

namespace Gnirehtet.App
open Lib Relay

/-! ### More bytes -/

theorem lengthEnd_append {data : List UInt8} (some : data ≠ []) (more : List UInt8) :
    IpPacketOutputStream.lengthEnd (data ++ more) = IpPacketOutputStream.lengthEnd data := by
  rw [IpPacketOutputStream.lengthEnd, byteAt_append_left (List.length_pos_iff.mpr some), IpPacketOutputStream.lengthEnd]

/-- What is complete stays complete when more bytes come. -/
theorem TakesOff.append {data rest : List UInt8} (off : TakesOff data rest) (more : List UInt8) :
    TakesOff (data ++ more) (rest ++ more) := by
  obtain ⟨starts, n, complete, rfl⟩ := off
  obtain ⟨le, enough, stated⟩ := completeLength_le complete
  have some : data ≠ [] := by
    rintro rfl
    exact not_starts_nil starts
  have first : byteAt (data ++ more) 0 = byteAt data 0 := byteAt_append_left (List.length_pos_iff.mpr some)
  have stated' : statedLength (data ++ more) = .some n := by
    rw [← stated]
    unfold statedLength
    unfold IpPacketOutputStream.lengthEnd at enough
    rw [first]
    split
    · rename_i four
      rw [if_pos four] at enough
      rw [u16At_append_left (by omega)]
    · rename_i notFour
      rw [if_neg notFour] at enough
      rw [u16At_append_left (by omega)]
  refine ⟨by rwa [StartsPacket, first], n, ?_, (List.drop_append_of_le_length le).symm⟩
  rw [IpPacketOutputStream.completeLength, lengthEnd_append some, if_neg (by rw [List.length_append]; omega), stated']
  exact if_pos (decide_eq_true (by rw [List.length_append]; omega))

theorem fronts_append {data rest : List UInt8} (fronts : Fronts data rest) (more : List UInt8) :
    Fronts (data ++ more) (rest ++ more) :=
  fronts.lift (· ++ more) fun _ _ off => off.append more

theorem ZeroLength.append {data : List UInt8} (zero : ZeroLength data) (more : List UInt8) :
    ZeroLength (data ++ more) := by
  obtain ⟨four, enough, field⟩ := zero
  exact ⟨by rwa [byteAt_append_left (by omega)], by rw [List.length_append]; omega, by
    rwa [u16At_append_left (by omega)]⟩

theorem ZeroLength.stuck {data rest : List UInt8} (zero : ZeroLength data) (fronts : Fronts data rest) :
    rest = data := by
  induction fronts with
  | refl => rfl
  | tail _ off ih =>
    rw [ih] at off
    exact zero.takesOff.mp off

/-- Without a packet of length zero the packets come to an end. -/
theorem fronts_end (data : List UInt8) (moves : ∀ rest, Fronts data rest → ¬ ZeroLength rest) :
    ∃ rest, Fronts data rest ∧ (Waits rest ∨ Unsupported rest) := by
  induction length : data.length using Nat.strong_induction_on generalizing data with
  | _ n ih =>
    rcases front_cases data with ⟨rest, off⟩ | last
    · have shorter := takesOff_length off (moves data .refl)
      obtain ⟨last, fronts, ends⟩ := ih rest.length (length ▸ shorter) rest
        (fun z fronts => moves z (.head off fronts)) rfl
      exact ⟨last, .head off fronts, ends⟩
    · exact ⟨data, .refl, last⟩

/-! ### What may come to the front -/

/-- No version other than 4 and 6, and no incomplete packet that is longer than a write may be. -/
structure Tolerable (data : List UInt8) : Prop where
  supported : ¬ Unsupported data
  small : Waits data → data.length ≤ maxIpPacketLength

theorem TakesOff.tolerable {data rest : List UInt8} (off : TakesOff data rest) : Tolerable data :=
  ⟨fun unsupported => unsupported.stays off, fun waits => absurd off waits.stays⟩

/-- What lies before a place on the way was taken off, so it is tolerable. -/
theorem tolerable_from {data middle : List UInt8} (fronts : Fronts data middle) :
    (∀ rest, Fronts data rest → Tolerable rest) ↔ ∀ rest, Fronts middle rest → Tolerable rest := by
  constructor
  · intro all rest behind
    exact all rest (fronts.trans behind)
  · intro later rest fronts'
    rcases fronts.total_of_right_unique takesOff_unique fronts' with behind | before
    · exact later rest behind
    · rcases before.cases_head with rfl | ⟨_, off, _⟩
      · exact later rest .refl
      · exact off.tolerable

/-- Packets that state their lengths bring nothing else to the front, wherever the bytes are cut. -/
theorem tolerable_of_framed {packets : List (List UInt8)} (framed : ∀ p ∈ packets, IpPacketOutputStream.Framed p)
    {data : List UInt8} (front : data <+: packets.flatten) : ∀ rest, Fronts data rest → Tolerable rest := by
  have waiting {data : List UInt8} (waits : Waits data) (small : data.length ≤ maxIpPacketLength) :
      ∀ rest, Fronts data rest → Tolerable rest := by
    intro rest fronts
    rcases fronts.cases_head with rfl | ⟨_, off, _⟩
    · refine ⟨fun unsupported => ?_, fun _ => small⟩
      rcases waits with empty | ⟨starts, _⟩
      · exact unsupported.1 empty
      · exact unsupported.2 starts
    · exact absurd off waits.stays
  induction packets generalizing data with
  | nil =>
    rw [List.prefix_nil.mp front]
    exact waiting (Or.inl rfl) (Nat.zero_le _)
  | cons p packets ih =>
    have first := framed p List.mem_cons_self
    by_cases whole : p.length ≤ data.length
    · obtain ⟨behind, rfl⟩ := List.prefix_of_prefix_length_le (List.prefix_append p packets.flatten) front whole
      have off : TakesOff (p ++ behind) behind :=
        ⟨(first.front ⟨behind, Or.inl rfl⟩ (first.append_ne_nil behind)).1, p.length, first.completeLength_whole behind,
          List.drop_left.symm⟩
      rw [tolerable_from (.single off)]
      exact ih (fun q member => framed q (List.mem_cons_of_mem p member)) ((List.prefix_append_right_inj p).mp front)
    · have part : data <+: p := List.prefix_of_prefix_length_le front (List.prefix_append p packets.flatten)
        (Nat.le_of_lt (Nat.lt_of_not_le whole))
      have small := first.small
      refine waiting ?_ (by unfold maxIpPacketLength; omega)
      by_cases empty : data = []
      · exact Or.inl empty
      · obtain ⟨more, joined⟩ := part
        exact Or.inr ⟨(first.front ⟨more, Or.inr joined⟩ empty).1,
          first.completeLength_part ⟨more, joined⟩ empty (Nat.lt_of_not_le whole)⟩

namespace IpPacketOutputStream

/-! ### One call -/

/-- How a call leaves the buffer: with the incomplete packet, or full after an unsupported version. -/
inductive Left (s : IpPacketOutputStream) (rest : List UInt8) : Prop where
  | waits (waits : Waits rest) (stored : s.buffer.stored = rest)
  | full (unsupported : Unsupported rest) (full : s.buffer.remaining = 0)

/-- The buffer between two calls. -/
structure Between (s : IpPacketOutputStream) : Prop where
  limit : s.buffer.limit = s.buffer.hb.length
  size : s.buffer.hb.length = 2 * maxIpPacketLength

theorem Between.room {s : IpPacketOutputStream} (between : s.Between) :
    s.buffer.remaining + s.buffer.stored.length = 2 * maxIpPacketLength := by
  have := s.buffer.position_le
  have := between.limit
  have := between.size
  rw [s.buffer.length_stored, ByteBuffer.remaining]
  omega

theorem visits_size {s a : IpPacketOutputStream} (visits : Visits turn s a) :
    a.buffer.hb.length = s.buffer.hb.length := by
  induction visits with
  | start => rfl
  | turn _ turned ih =>
    obtain ⟨b, turned', _, size⟩ := turn_packet (turn_next turned)
    rw [turned] at turned'
    cases turned'
    exact size.trans ih

section Call
variable {s : IpPacketOutputStream} {call : Call} (short : call.len ≤ maxIpPacketLength)
  (room : call.len ≤ s.buffer.remaining)
include short room

/-- A call with room for its bytes sinks what is stored and what comes. -/
theorem write_sinks : ∃ t : IpPacketOutputStream, t.pending = s.buffer.stored ++ call.chunk ∧
    t.buffer.hb.length = s.buffer.hb.length ∧ ∀ r, s.Writes call r ↔ ∃ r', (∃ n, sink n t = some r') ∧
      r = r'.map fun s => { s with buffer := s.buffer.compact } := by
  obtain ⟨buffer, put, stored, size⟩ := ByteBuffer.putAll_spec
    (show call.chunk.length ≤ s.buffer.remaining by rw [call.length_chunk]; exact room)
  have taken : s.buffer.put call.b call.off call.len = .ok buffer := by
    rw [ByteBuffer.put, if_pos call.inside]
    exact put
  have step (n : Nat) : s.write n call.b call.off call.len = (sink n ⟨buffer.flip, s.target⟩).map fun r =>
      r.map fun s => { s with buffer := s.buffer.compact } := by
    rw [write, if_neg (by omega), if_neg (by omega), taken]
    rfl
  refine ⟨⟨buffer.flip, s.target⟩, stored, size, fun r => ?_⟩
  simp only [Writes, step, Option.map_eq_some_iff]
  constructor
  · rintro ⟨n, r', sunk, rfl⟩
    exact ⟨r', ⟨n, sunk⟩, rfl⟩
  · rintro ⟨r', ⟨n, sunk⟩, rfl⟩
    exact ⟨n, r', sunk, rfl⟩

/-- A call that returns does not throw, and has taken off the complete packets. -/
theorem writes_left {r : Except Thrown IpPacketOutputStream} (between : s.Between) (wrote : s.Writes call r) :
    ∃ s' rest, r = .ok s' ∧ s'.Between ∧ Fronts (s.buffer.stored ++ call.chunk) rest ∧ s'.Left rest := by
  obtain ⟨t, pending, size, writes⟩ := write_sinks short room
  obtain ⟨r', ⟨n, sunk⟩, rfl⟩ := (writes r).mp wrote
  obtain ⟨a, visits, left⟩ := visits_of_loop sunk
  have fronts := visits_fronts visits
  have size' := ((visits_size visits).trans size).trans between.size
  rw [pending] at fronts
  rcases front_cases a.pending with ⟨rest, off⟩ | waits | unsupported
  · obtain ⟨b, turned, _⟩ := turn_packet off
    rw [turned] at left
    cases r' <;> cases left
  · rw [turn_waits waits] at left
    cases r' with
    | error e => cases left
    | ok b =>
      cases left
      exact ⟨_, a.pending, rfl, ⟨a.buffer.limit_compact, (ByteBuffer.length_hb_compact _).trans size'⟩, fronts,
        .waits waits (ByteBuffer.stored_compact _)⟩
  · rw [turn_unsupported unsupported] at left
    cases r' with
    | error e => cases left
    | ok b =>
      cases left
      refine ⟨_, a.pending, rfl, ⟨a.buffer.clear.limit_compact, (ByteBuffer.length_hb_compact _).trans size'⟩, fronts,
        .full unsupported ?_⟩
      -- The cleared buffer has all its cells remaining, and `compact` takes them for stored ones.
      show a.buffer.hb.length - (a.buffer.hb.length - 0) = 0
      omega

/-- A call returns when the packets come to an end. -/
theorem writes_of_end {rest : List UInt8} (fronts : Fronts (s.buffer.stored ++ call.chunk) rest)
    (ends : Waits rest ∨ Unsupported rest) : ∃ r, s.Writes call r := by
  obtain ⟨t, pending, _, writes⟩ := write_sinks short room
  rw [← pending] at fronts
  obtain ⟨a, visits, rfl⟩ := fronts_visits fronts
  have stops : ∃ b, a.turn = .leave (.ok b) := by
    rcases ends with waits | unsupported
    · exact ⟨a, turn_waits waits⟩
    · exact ⟨_, turn_unsupported unsupported⟩
  obtain ⟨b, left⟩ := stops
  exact ⟨_, (writes _).mpr ⟨_, loop_of_visits visits left, rfl⟩⟩

end Call

/-- The target throws in the call, at a packet that has come to the front. What the exception leaves behind is
the flipped buffer. -/
structure Interrupted (s : IpPacketOutputStream) (call : Call) (a : IpPacketOutputStream) : Prop
    extends s.Sinks call a where
  packet : ∃ rest, TakesOff a.pending rest

/-- What is left then is what has come to the front of the stored and the new bytes. -/
theorem Interrupted.fronts {s a : IpPacketOutputStream} {call : Call} (interrupted : s.Interrupted call a) :
    Fronts (s.buffer.stored ++ call.chunk) a.pending := by
  obtain ⟨buffer, put, visits⟩ := interrupted.visits
  obtain ⟨buffer', put', stored, _⟩ := ByteBuffer.putAll_spec
    (show call.chunk.length ≤ s.buffer.remaining by rw [call.length_chunk]; exact interrupted.room)
  rw [ByteBuffer.put, if_pos call.inside] at put
  cases put.symm.trans put'
  have fronts := visits_fronts visits
  rw [show ({ s with buffer := buffer.flip } : IpPacketOutputStream).pending = _ from stored] at fronts
  exact fronts

theorem full_throws {s : IpPacketOutputStream} {call : Call} (full : s.buffer.remaining < call.len)
    (short : call.len ≤ maxIpPacketLength) :
    s.Writes call (.error (.assertionError "Buffer is unexpectedly full")) :=
  ⟨0, by rw [write, if_neg (by omega), if_pos full]⟩

/-- Nothing comes after the end of the packets. -/
theorem end_unique {data rest rest' : List UInt8} (fronts : Fronts data rest) (ends : Waits rest ∨ Unsupported rest)
    (fronts' : Fronts data rest') (ends' : Waits rest' ∨ Unsupported rest') : rest = rest' := by
  have stays {last next : List UInt8} (ends : Waits last ∨ Unsupported last) (fronts : Fronts last next) :
      last = next := by
    rcases fronts.cases_head with same | ⟨_, off, _⟩
    · exact same
    · exact absurd off (ends.elim Waits.stays Unsupported.stays)
  rcases fronts.total_of_right_unique takesOff_unique fronts' with behind | before
  · exact stays ends behind
  · exact (stays ends' before).symm

/-! ### Runs of calls -/

def stream (calls : List Call) : List UInt8 := (calls.map Call.chunk).flatten

theorem stream_concat (calls : List Call) (call : Call) : stream (calls ++ [call]) = stream calls ++ call.chunk := by
  rw [stream, List.map_append, List.flatten_append]
  exact congrArg _ (List.flatten_singleton ..)

theorem writesAll_concat {s s' : IpPacketOutputStream} {calls : List Call} {call : Call} :
    WritesAll s (calls ++ [call]) s' ↔ ∃ mid, WritesAll s calls mid ∧ mid.Writes call (.ok s') := by
  induction calls generalizing s with
  | nil => simp [WritesAll, eq_comm]
  | cons first rest ih =>
    simp only [List.cons_append, WritesAll, ih]
    constructor
    · rintro ⟨a, wrote, b, all, last⟩
      exact ⟨b, ⟨a, wrote, all⟩, last⟩
    · rintro ⟨b, ⟨a, wrote, all⟩, last⟩
      exact ⟨a, wrote, b, all, last⟩

/-- The call throws no `AssertionError`, has room for a packet when it returns, and an empty buffer when it
met an unsupported version. -/
structure Accepted (s : IpPacketOutputStream) (call : Call) : Prop where
  silent : ∀ message, ¬ s.Writes call (.error (.assertionError message))
  room : ∀ s', s.Writes call (.ok s') → maxIpPacketLength ≤ s'.buffer.remaining
  cleared : ∀ s', s.Writes call (.ok s') →
    (∃ rest, Fronts (s.buffer.stored ++ call.chunk) rest ∧ Unsupported rest) → s'.buffer.stored = []

/-- Every call of the run that is reached is accepted. -/
def NeverFull (calls : List Call) : Prop :=
  ∀ before call after, calls = before ++ call :: after → ∀ s, WritesAll new before s → s.Accepted call

/-- Whatever comes to the front of the bytes given so far is tolerable. -/
def Supported (calls : List Call) : Prop :=
  ∀ before after, calls = before ++ after → ∀ rest, Fronts (stream before) rest → Tolerable rest

/-- After some calls: what is stored is the incomplete end of the bytes given. -/
structure Ready (before : List Call) (s : IpPacketOutputStream) : Prop where
  between : s.Between
  fronts : Fronts (stream before) s.buffer.stored
  waits : Waits s.buffer.stored
  small : s.buffer.stored.length ≤ maxIpPacketLength

theorem ready_new : Ready [] new where
  between := ⟨(List.length_replicate ..).symm, List.length_replicate ..⟩
  fronts := .refl
  waits := Or.inl rfl
  small := Nat.zero_le _

section Step
variable {before : List Call} {s : IpPacketOutputStream} {call : Call} (ready : Ready before s)
  (short : call.len ≤ maxIpPacketLength)
include ready short

theorem Ready.room : call.len ≤ s.buffer.remaining := by
  have := ready.between.room
  have := ready.small
  omega

omit short in
theorem Ready.fronts_concat : Fronts (stream (before ++ [call])) (s.buffer.stored ++ call.chunk) := by
  rw [stream_concat]
  exact fronts_append ready.fronts call.chunk

theorem accepted_iff : s.Accepted call ↔ ∀ rest, Fronts (stream (before ++ [call])) rest → Tolerable rest := by
  have room := ready.room short
  have front : Fronts (stream (before ++ [call])) (s.buffer.stored ++ call.chunk) := ready.fronts_concat
  rw [tolerable_from front]
  constructor
  · rintro ⟨_, roomy, _⟩ rest fronts
    have result (ends : Waits rest ∨ Unsupported rest) : ∃ s' : IpPacketOutputStream,
        maxIpPacketLength ≤ s'.buffer.remaining ∧ s'.Between ∧ s'.Left rest := by
      obtain ⟨r, wrote⟩ := writes_of_end short room fronts ends
      obtain ⟨s', rest', rfl, between, fronts', left⟩ := writes_left short room ready.between wrote
      have last : Waits rest' ∨ Unsupported rest' := by
        cases left with
        | waits waits _ => exact Or.inl waits
        | full unsupported _ => exact Or.inr unsupported
      cases end_unique fronts ends fronts' last
      exact ⟨s', roomy s' wrote, between, left⟩
    refine ⟨fun unsupported => ?_, fun waits => ?_⟩
    · obtain ⟨s', roomy, _, left⟩ := result (Or.inr unsupported)
      cases left with
      | waits waits _ =>
        rcases waits with empty | ⟨starts, _⟩
        · exact unsupported.1 empty
        · exact unsupported.2 starts
      | full _ full =>
        rw [full, maxIpPacketLength] at roomy
        omega
    · obtain ⟨s', roomy, between, left⟩ := result (Or.inl waits)
      cases left with
      | waits _ stored =>
        have := between.room
        rw [← stored]
        omega
      | full unsupported _ =>
        rcases waits with empty | ⟨starts, _⟩
        · exact absurd empty unsupported.1
        · exact absurd starts unsupported.2
  · intro tolerable
    refine ⟨fun message wrote => ?_, fun s' wrote => ?_, fun s' _ ⟨rest, fronts, unsupported⟩ => ?_⟩
    · obtain ⟨_, _, failed, _⟩ := writes_left short room ready.between wrote
      cases failed
    · obtain ⟨s'', rest, same, between, fronts, left⟩ := writes_left short room ready.between wrote
      cases same
      cases left with
      | waits waits stored =>
        have := between.room
        have := (tolerable rest fronts).small waits
        rw [← stored] at this
        omega
      | full unsupported _ => exact absurd unsupported (tolerable rest fronts).supported
    · exact absurd unsupported (tolerable rest fronts).supported

theorem Ready.step {s' : IpPacketOutputStream} (wrote : s.Writes call (.ok s'))
    (tolerable : ∀ rest, Fronts (stream (before ++ [call])) rest → Tolerable rest) : Ready (before ++ [call]) s' := by
  obtain ⟨s'', rest, same, between, fronts, left⟩ := writes_left short (ready.room short) ready.between wrote
  cases same
  have fronts' : Fronts (stream (before ++ [call])) rest := ready.fronts_concat.trans fronts
  cases left with
  | waits waits stored =>
    subst stored
    exact ⟨between, fronts', waits, (tolerable _ fronts').small waits⟩
  | full unsupported _ => exact absurd unsupported (tolerable _ fronts').supported

end Step

/-- A packet of length zero comes to the front and stays there. -/
def Stuck (data : List UInt8) : Prop := ∃ rest, Fronts data rest ∧ ZeroLength rest

theorem Stuck.append {data : List UInt8} (stuck : Stuck data) (more : List UInt8) : Stuck (data ++ more) := by
  obtain ⟨rest, fronts, zero⟩ := stuck
  exact ⟨_, fronts_append fronts more, zero.append more⟩

theorem Stuck.tolerable {data : List UInt8} (stuck : Stuck data) : ∀ rest, Fronts data rest → Tolerable rest := by
  obtain ⟨place, fronts, zero⟩ := stuck
  rw [tolerable_from fronts]
  intro rest behind
  rw [zero.stuck behind]
  exact (zero.takesOff.mpr rfl).tolerable

theorem writes_or_stuck {before : List Call} {s : IpPacketOutputStream} {call : Call} (ready : Ready before s)
    (short : call.len ≤ maxIpPacketLength) :
    (∃ s', s.Writes call (.ok s')) ∨ Stuck (stream (before ++ [call])) := by
  by_cases stuck : ∃ rest, Fronts (s.buffer.stored ++ call.chunk) rest ∧ ZeroLength rest
  · obtain ⟨rest, fronts, zero⟩ := stuck
    exact Or.inr ⟨rest, ready.fronts_concat.trans fronts, zero⟩
  · obtain ⟨rest, fronts, ends⟩ := fronts_end _ fun rest fronts zero => stuck ⟨rest, fronts, zero⟩
    obtain ⟨r, wrote⟩ := writes_of_end short (ready.room short) fronts ends
    obtain ⟨s', _, rfl, _⟩ := writes_left short (ready.room short) ready.between wrote
    exact Or.inl ⟨s', wrote⟩

section Runs
variable {calls : List Call} (short : ∀ call ∈ calls, call.len ≤ maxIpPacketLength)
include short

/-- While everything at the front is tolerable, the calls return and leave the buffer ready, unless one of
them is stuck at a packet of length zero. -/
theorem ready_or_stuck {before after : List Call} (parts : calls = before ++ after)
    (tolerable : ∀ first last, before = first ++ last → ∀ rest, Fronts (stream first) rest → Tolerable rest) :
    (∀ s, WritesAll new before s → Ready before s) ∧ ((∃ s, WritesAll new before s) ∨ Stuck (stream before)) := by
  induction before using List.reverseRecOn generalizing after with
  | nil =>
    refine ⟨?_, Or.inl ⟨new, rfl⟩⟩
    rintro s rfl
    exact ready_new
  | append_singleton before call ih =>
    rw [List.append_assoc] at parts
    have here : call.len ≤ maxIpPacketLength := short call (by rw [parts]; simp)
    obtain ⟨ready, reached⟩ := ih parts fun first last split => tolerable first (last ++ [call]) (by
      rw [split, List.append_assoc])
    refine ⟨?_, ?_⟩
    · intro s' all
      obtain ⟨s, first, wrote⟩ := writesAll_concat.mp all
      exact (ready s first).step here wrote (tolerable _ [] (List.append_nil _).symm)
    · rcases reached with ⟨s, first⟩ | stuck
      · rcases writes_or_stuck (ready s first) here with ⟨s', wrote⟩ | stuck
        · exact Or.inl ⟨s', writesAll_concat.mpr ⟨s, first, wrote⟩⟩
        · exact Or.inr stuck
      · rw [stream_concat]
        exact Or.inr (stuck.append call.chunk)

theorem tolerable_of_neverFull (never : NeverFull calls) {before after : List Call} (parts : calls = before ++ after) :
    ∀ first last, before = first ++ last → ∀ rest, Fronts (stream first) rest → Tolerable rest := by
  induction before using List.reverseRecOn generalizing after with
  | nil =>
    intro first last split rest fronts
    rw [(List.append_eq_nil_iff.mp split.symm).1] at fronts
    rcases fronts.cases_head with rfl | ⟨_, off, _⟩
    · exact ⟨fun unsupported => unsupported.1 rfl, fun _ => Nat.zero_le _⟩
    · exact absurd off.1 not_starts_nil
  | append_singleton before call ih =>
    rw [List.append_assoc] at parts
    have earlier := ih parts
    have here : call.len ≤ maxIpPacketLength := short call (by rw [parts]; simp)
    intro first last split
    rcases List.eq_nil_or_concat last with rfl | ⟨last, call', rfl⟩
    · -- The call itself, if it is reached, was accepted.
      rw [List.append_nil] at split
      subst split
      obtain ⟨ready, reached⟩ := ready_or_stuck short parts earlier
      rcases reached with ⟨s, reached⟩ | stuck
      · exact (accepted_iff (ready s reached) here).mp (never before call after parts s reached)
      · rw [stream_concat]
        exact (stuck.append call.chunk).tolerable
    · rw [List.concat_eq_append, ← List.append_assoc] at split
      exact earlier first last (List.append_inj_left' split rfl)

/-- No call finds the buffer full, and each leaves room for a packet, exactly when no unsupported version and
no incomplete packet of more than 64 KiB comes to the front. Then each call also returns, unless a packet of
length zero comes there. A call in which the target throws must be the last: it leaves no more room than it
leaves bytes, and a longer write behind it finds the buffer full. -/
theorem never_full_iff : (NeverFull calls ↔ Supported calls) ∧
    (Supported calls → (∀ rest, Fronts (stream calls) rest → ¬ ZeroLength rest) → ∃ s, WritesAll new calls s) ∧
    (Supported calls → ∀ before call after, calls = before ++ call :: after → ∀ s, WritesAll new before s →
      ∀ a, s.Interrupted call a → Fronts (stream (before ++ [call])) a.pending ∧
        a.buffer.remaining = a.pending.length ∧ ∀ next : Call, a.pending.length < next.len →
          next.len ≤ maxIpPacketLength → a.Writes next (.error (.assertionError "Buffer is unexpectedly full"))) := by
  refine ⟨⟨?_, ?_⟩, ?_, ?_⟩
  · intro never before after parts
    exact tolerable_of_neverFull short never parts before [] (List.append_nil _).symm
  · intro supported before call after parts s reached
    have here : call.len ≤ maxIpPacketLength := short call (by rw [parts]; simp)
    obtain ⟨ready, _⟩ := ready_or_stuck short parts fun first last split =>
      supported first (last ++ call :: after) (by rw [parts, split, List.append_assoc])
    refine (accepted_iff (ready s reached) here).mpr ?_
    exact supported (before ++ [call]) after (by rw [parts, List.append_assoc]; rfl)
  · intro supported moves
    obtain ⟨_, reached | ⟨rest, fronts, zero⟩⟩ := ready_or_stuck short (List.append_nil calls).symm
      fun first last split => supported first last split
    · exact reached
    · exact absurd zero (moves rest fronts)
  · intro supported before call after parts s reached a interrupted
    obtain ⟨ready, _⟩ := ready_or_stuck short parts fun first last split =>
      supported first (last ++ call :: after) (by rw [parts, split, List.append_assoc])
    have left : a.buffer.remaining = a.pending.length := a.buffer.length_rest.symm
    refine ⟨(ready s reached).fronts_concat.trans interrupted.fronts, left, fun next long legal => ?_⟩
    exact full_throws (left ▸ long) legal

end Runs

theorem stream_append (before after : List Call) : stream (before ++ after) = stream before ++ stream after := by
  rw [stream, List.map_append, List.flatten_append]
  rfl

/-- Calls that bring packets which state their lengths are supported. -/
theorem supported_of_framed {packets : List (List UInt8)} (framed : ∀ p ∈ packets, Framed p) {calls : List Call}
    (brings : stream calls <+: packets.flatten) : Supported calls := by
  intro before after parts
  refine tolerable_of_framed framed (.trans ?_ brings)
  rw [parts, stream_append]
  exact List.prefix_append ..

end IpPacketOutputStream

namespace Sample
open IpPacketOutputStream

/-- Two calls that are cut inside the second packet. -/
def cutCalls : List Call :=
  [⟨ipv4Packet ++ ipv6Packet, 0, 25, by decide⟩, ⟨ipv4Packet ++ ipv6Packet, 25, 37, by decide⟩]

/-- The two calls leave room. When the target throws at the first packet, a write of 26 bytes finds none. -/
theorem never_full_cut : NeverFull cutCalls ∧ ∃ a, new.Interrupted ⟨ipv4Packet ++ ipv6Packet, 0, 25, by decide⟩ a ∧
    ∀ next : Call, next.len = 26 → a.Writes next (.error (.assertionError "Buffer is unexpectedly full")) := by
  have brings : stream cutCalls = [ipv4Packet, ipv6Packet].flatten := by decide
  have supported : Supported cutCalls := supported_of_framed packets_framed (brings ▸ List.prefix_rfl)
  obtain ⟨never, _, behind⟩ := never_full_iff (show ∀ call ∈ cutCalls, call.len ≤ maxIpPacketLength by decide)
  let first : Call := ⟨ipv4Packet ++ ipv6Packet, 0, 25, by decide⟩
  have room := ready_new.room (show first.len ≤ maxIpPacketLength by decide)
  obtain ⟨buffer, put, stored, _⟩ := ByteBuffer.putAll_spec
    (show first.chunk.length ≤ new.buffer.remaining by rw [first.length_chunk]; exact room)
  have taken : new.buffer.put first.b first.off first.len = .ok buffer := by
    rw [ByteBuffer.put, if_pos first.inside]
    exact put
  have pending : ({ new with buffer := buffer.flip } : IpPacketOutputStream).pending = first.chunk := stored
  have off : TakesOff first.chunk (first.chunk.drop 20) := ⟨by decide, 20, by decide, rfl⟩
  have interrupted : new.Interrupted first { new with buffer := buffer.flip } :=
    ⟨⟨by decide, room, buffer, taken, .start⟩, _, by rw [pending]; exact off⟩
  obtain ⟨_, _, full⟩ := behind supported [] first _ rfl new rfl _ interrupted
  refine ⟨never.mpr supported, _, interrupted, fun next long => full next ?_ ?_⟩
  · rw [pending, long]
    decide
  · rw [long]
    decide

/-- A byte whose version is 1. -/
def unsupportedCall : Call := ⟨[0x10], 0, 1, by decide⟩

/-- After one byte of an unsupported version, the next call finds the buffer full. -/
theorem unsupported_fills : ∃ s, WritesAll new [unsupportedCall] s ∧ s.buffer.remaining = 0 ∧
    s.Writes unsupportedCall (.error (.assertionError "Buffer is unexpectedly full")) := by
  have short : unsupportedCall.len ≤ maxIpPacketLength := by decide
  have room := ready_new.room short
  have unsupported : Unsupported [0x10] := ⟨by decide, by decide⟩
  have fronts : Fronts (new.buffer.stored ++ unsupportedCall.chunk) [0x10] := .refl
  obtain ⟨r, wrote⟩ := writes_of_end short room fronts (Or.inr unsupported)
  obtain ⟨s, rest, rfl, _, fronts', left⟩ := writes_left short room ready_new.between wrote
  have full : s.buffer.remaining = 0 := by
    cases left with
    | waits waits _ =>
      cases end_unique fronts (Or.inr unsupported) fronts' (Or.inl waits)
      rcases waits with empty | ⟨starts, _⟩
      · exact absurd empty unsupported.1
      · exact absurd starts unsupported.2
    | full _ full => exact full
  exact ⟨s, ⟨s, wrote, rfl⟩, full, full_throws (by rw [full]; decide) short⟩

end Sample

end Gnirehtet.App
