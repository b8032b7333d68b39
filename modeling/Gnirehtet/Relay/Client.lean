import Gnirehtet.Relay.Routing
import Gnirehtet.Tcp.Deferral

/-!
# The way to the device

Connections and the router put packets into the shared buffer, and each turn of the client loop moves
the content to `pendingOutgoing`, from which the device socket takes what it wants. `Outgoing` is that
path; what was accepted and what was written are kept as ghost state.
-/

namespace Gnirehtet.Relay
open Lib

/-! ### The producers -/

/-- Bytes go into the shared buffer when there is room for the stated length. -/
def offer (buffer : StreamBuffer) (length : Nat) (raw : List UInt8) : Except ErrorKind StreamBuffer :=
  if length ≤ buffer.remaining then .ok (buffer.readFrom raw) else .error .wouldBlock

/-- The same function of `ClientChannel` and of `Client`. -/
def sendToClient (buffer : StreamBuffer) (ipPacket : IpPacket) : Except ErrorKind StreamBuffer :=
  offer buffer ipPacket.length.toNat ipPacket.raw

def sendRawToClient (buffer : StreamBuffer) (raw : List UInt8) : Except ErrorKind StreamBuffer :=
  offer buffer raw.length raw

theorem sendPacketToBuffer_eq (buffer : StreamBuffer) (ipPacket : IpPacket) :
    TcpConnection.sendPacketToBuffer buffer ipPacket = offer buffer ipPacket.length.toNat ipPacket.raw := rfl

/-- What one write call puts into the vector of `drain_outgoing`; the rest of it stays zero. -/
def drainOutgoing (buffer : StreamBuffer) : StreamBuffer × List UInt8 :=
  if buffer.size = 0 then (buffer, [])
  else
    match buffer.writeTo (.ok buffer.size) with
    | .ok (buffer', bytes) => (buffer', overwrite (List.replicate buffer.size 0) 0 bytes)
    | .error _ => (buffer, List.replicate buffer.size 0)

structure Outgoing where
  buffer : StreamBuffer
  pendingOutgoing : List UInt8
  accepted : List (List UInt8)
  written : List UInt8

namespace Outgoing

def start : Outgoing where
  buffer := .new (64 * maxPacketLength)
  pendingOutgoing := []
  accepted := []
  written := []

inductive Event where
  | sendToClient (ipPacket : IpPacket)
  | sendRawToClient (raw : List UInt8)
  | sendPacketToBuffer (ipPacket : IpPacket)
  /-- A datagram of the network, on the read path of UDP. -/
  | readDatagram (ipPacket : IpPacket)
  | drain
  | writePartial (answer : WriteAnswer)

def accept (o : Outgoing) (raw : List UInt8) : Except ErrorKind StreamBuffer → Outgoing
  | .ok buffer => { o with buffer, accepted := o.accepted ++ [raw] }
  | .error _ => o

/-- What is drained is queued behind what the socket has not taken yet. -/
def drain (o : Outgoing) : Outgoing :=
  let (buffer, outgoing) := drainOutgoing o.buffer
  { o with buffer, pendingOutgoing := o.pendingOutgoing ++ outgoing }

def writePartial (o : Outgoing) (answer : WriteAnswer) : Outgoing :=
  match write answer o.pendingOutgoing with
  | .ok bytes => { o with pendingOutgoing := o.pendingOutgoing.drop bytes.length, written := o.written ++ bytes }
  | .error _ => o

def step (o : Outgoing) : Event → Outgoing
  | .sendToClient ipPacket => o.accept ipPacket.raw (Relay.sendToClient o.buffer ipPacket)
  | .sendRawToClient raw => o.accept raw (Relay.sendRawToClient o.buffer raw)
  | .sendPacketToBuffer ipPacket => o.accept ipPacket.raw (TcpConnection.sendPacketToBuffer o.buffer ipPacket)
  | .readDatagram ipPacket => o.accept ipPacket.raw (offer o.buffer ipPacket.length.toNat ipPacket.raw)
  | .drain => o.drain
  | .writePartial answer => o.writePartial answer

def Event.offered : Event → Option (Nat × List UInt8)
  | .sendToClient ipPacket | .sendPacketToBuffer ipPacket | .readDatagram ipPacket =>
    some (ipPacket.length.toNat, ipPacket.raw)
  | .sendRawToClient raw => some (raw.length, raw)
  | .drain | .writePartial _ => none

def Passes (o : Outgoing) (event : Event) (raw : List UInt8) : Prop :=
  ∃ length, event.offered = some (length, raw) ∧ length ≤ o.buffer.remaining

theorem step_passes {o : Outgoing} {event : Event} {raw : List UInt8} (passes : o.Passes event raw) :
    o.step event = { o with buffer := o.buffer.readFrom raw, accepted := o.accepted ++ [raw] } := by
  obtain ⟨length, offered, fits⟩ := passes
  have taken : offer o.buffer length raw = .ok (o.buffer.readFrom raw) := if_pos fits
  cases event <;> simp only [Event.offered, Option.some.injEq, Prod.mk.injEq, reduceCtorEq] at offered <;>
    obtain ⟨rfl, rfl⟩ := offered <;>
    simp only [step, Relay.sendToClient, Relay.sendRawToClient, sendPacketToBuffer_eq, taken, accept]

theorem step_cases (o : Outgoing) (event : Event) : (∃ raw, o.Passes event raw) ∨ o.step event = o ∨
    event = .drain ∨ ∃ answer, event = .writePartial answer := by
  have check (length : Nat) (raw : List UInt8) (offered : event.offered = some (length, raw))
      (stepped : o.step event = o.accept raw (offer o.buffer length raw)) :
      (∃ raw, o.Passes event raw) ∨ o.step event = o := by
    by_cases fits : length ≤ o.buffer.remaining
    · exact Or.inl ⟨raw, length, offered, fits⟩
    · right
      rw [stepped, offer, if_neg fits]
      rfl
  cases event with
  | sendToClient ipPacket => exact (check _ _ rfl rfl).imp_right Or.inl
  | sendRawToClient raw => exact (check _ _ rfl rfl).imp_right Or.inl
  | sendPacketToBuffer ipPacket => exact (check _ _ rfl rfl).imp_right Or.inl
  | readDatagram ipPacket => exact (check _ _ rfl rfl).imp_right Or.inl
  | drain => exact Or.inr (Or.inr (Or.inl rfl))
  | writePartial answer => exact Or.inr (Or.inr (Or.inr ⟨answer, rfl⟩))

end Outgoing

/-! ### A buffer that never wraps -/

theorem size_linear {b : StreamBuffer} (linear : b.tail = 0) : b.size = b.head := by
  rw [StreamBuffer.size, if_neg (by omega), linear, Nat.sub_zero]

/-- When the content starts at the front of the array, draining returns all of it and nothing else, and
leaves an empty buffer whose content starts there again. -/
theorem drainOutgoing_linear {b : StreamBuffer} (linear : b.tail = 0) : ∃ b', drainOutgoing b = (b', b.content) ∧
    b'.content = [] ∧ b'.tail = 0 ∧ b'.capacity = b.capacity := by
  have size := size_linear linear
  by_cases empty : b.head = 0
  · have nothing : b.content = [] := by
      rw [← List.length_eq_zero_iff, b.length_content, size, empty]
    refine ⟨b, ?_, nothing, linear, rfl⟩
    rw [drainOutgoing, if_pos (size.trans empty), nothing]
  · have stored : b.head ≠ b.tail := by omega
    have whole : b.offered = b.content := by
      rw [b.content_eq_offered stored, if_pos (by omega), List.append_nil]
    have all : b.offered.take b.size = b.content := by
      rw [whole, List.take_of_length_le (Nat.le_of_eq b.length_content)]
    have wrote : b.writeTo (.ok b.size) = .ok ((b.advance b.size).optimize, b.content) := by
      rw [StreamBuffer.writeTo, if_neg stored]
      exact congrArg (fun bytes => Except.ok (_, bytes)) all
    have atHead : (b.advance b.size).tail = (b.advance b.size).head := by
      have length := b.length_content
      rw [← whole] at length
      show (if b.tail < b.head then b.tail + min b.size b.offered.length else _) = b.head
      rw [if_pos (by omega), length, Nat.min_self, size, linear, Nat.zero_add]
    have reset : (b.advance b.size).optimize.tail = 0 := by
      rw [StreamBuffer.optimize, if_pos (by rw [StreamBuffer.isEmpty, atHead]; exact beq_self_eq_true _)]
    have bytes : overwrite (List.replicate b.size 0) 0 b.content = b.content := by
      rw [overwrite_eq (by rw [List.length_replicate, b.length_content, Nat.zero_add]), List.take_zero,
        List.nil_append, Nat.zero_add, b.length_content, List.drop_of_length_le (by rw [List.length_replicate]),
        List.append_nil]
    refine ⟨_, ?_, ?_, reset, StreamBuffer.capacity_writeTo wrote⟩
    · rw [drainOutgoing, if_neg (by omega), wrote]
      exact congrArg (Prod.mk _) bytes
    · exact List.self_eq_append_right.mp (StreamBuffer.content_writeTo wrote)

namespace Outgoing

/-! ### The stream to the device -/

/-- What was written, what waits and what is stored are the accepted packets, and draining returns the
stored bytes and leaves nothing behind. -/
structure Faithful (o : Outgoing) : Prop where
  stream : o.written ++ o.pendingOutgoing ++ o.buffer.content = o.accepted.flatten
  drained : (drainOutgoing o.buffer).2 = o.buffer.content
  emptied : (drainOutgoing o.buffer).1.content = []

/-- The buffer's content lies at the front of its array. -/
structure Sound (o : Outgoing) : Prop where
  linear : o.buffer.tail = 0
  capacity : o.buffer.capacity = 64 * maxPacketLength
  stream : o.written ++ o.pendingOutgoing ++ o.buffer.content = o.accepted.flatten

theorem Sound.faithful {o : Outgoing} (sound : o.Sound) : o.Faithful := by
  obtain ⟨b', drained, emptied, _, _⟩ := drainOutgoing_linear sound.linear
  exact ⟨sound.stream, by rw [drained], by rw [drained]; exact emptied⟩

theorem sound_start : start.Sound := ⟨rfl, StreamBuffer.capacity_new _, rfl⟩

/-- A packet passes the check with a stated length that is shorter than its bytes, and than the room. -/
def Overruns (o : Outgoing) (event : Event) : Prop :=
  ∃ raw, o.Passes event raw ∧ o.buffer.remaining < raw.length

theorem Sound.drain {o : Outgoing} (sound : o.Sound) : o.drain.Sound := by
  obtain ⟨b', drained, emptied, linear, capacity⟩ := drainOutgoing_linear sound.linear
  rw [Outgoing.drain, drained]
  refine ⟨linear, capacity.trans sound.capacity, ?_⟩
  rw [emptied, List.append_nil, ← List.append_assoc]
  exact sound.stream

theorem Sound.writePartial {o : Outgoing} (sound : o.Sound) (answer : WriteAnswer) : (o.writePartial answer).Sound := by
  cases answer with
  | ok n =>
    refine ⟨sound.linear, sound.capacity, ?_⟩
    have taken : o.pendingOutgoing.take n ++ o.pendingOutgoing.drop (o.pendingOutgoing.take n).length =
        o.pendingOutgoing := by
      rw [List.length_take]
      by_cases more : n ≤ o.pendingOutgoing.length
      · rw [Nat.min_eq_left more, List.take_append_drop]
      · rw [Nat.min_eq_right (by omega), List.drop_length, List.append_nil, List.take_of_length_le (by omega)]
    show o.written ++ o.pendingOutgoing.take n ++ o.pendingOutgoing.drop _ ++ o.buffer.content = _
    rw [List.append_assoc o.written, taken]
    exact sound.stream
  | error e => exact sound

theorem Sound.step {o : Outgoing} {event : Event} (sound : o.Sound) (fits : ¬ o.Overruns event) :
    (o.step event).Sound := by
  rcases o.step_cases event with ⟨raw, passes⟩ | same | rfl | ⟨answer, rfl⟩
  · have room : raw.length ≤ o.buffer.remaining := Nat.le_of_not_lt fun long => fits ⟨raw, passes, long⟩
    rw [step_passes passes]
    refine ⟨sound.linear, (StreamBuffer.capacity_readFrom ..).trans sound.capacity, ?_⟩
    rw [StreamBuffer.content_readFrom room, ← List.append_assoc, sound.stream, List.flatten_append,
      List.flatten_singleton]
  · rw [same]
    exact sound
  · exact sound.drain
  · exact sound.writePartial answer

/-- Too many bytes wrap around the array, over what is stored there. -/
theorem Sound.not_faithful {o : Outgoing} {event : Event} (sound : o.Sound) (overruns : o.Overruns event) :
    ¬ (o.step event).Faithful := by
  obtain ⟨raw, passes, long⟩ := overruns
  rw [step_passes passes]
  intro faithful
  have stream := congrArg List.length faithful.stream
  dsimp only at stream
  have before := congrArg List.length sound.stream
  have whole := o.buffer.size_add_remaining
  have size := size_linear sound.linear
  have inside := o.buffer.head_lt
  have bound := Nat.mod_lt (o.buffer.head + raw.length) (show 0 < o.buffer.buf.length by omega)
  have size' : (o.buffer.readFrom raw).size = (o.buffer.head + raw.length) % o.buffer.buf.length :=
    size_linear (b := o.buffer.readFrom raw) sound.linear
  rw [StreamBuffer.capacity] at whole
  rw [List.flatten_append, List.flatten_singleton, List.length_append, List.length_append, List.length_append,
    StreamBuffer.length_content, size'] at stream
  rw [List.length_append, List.length_append, StreamBuffer.length_content] at before
  omega

/-- The device is sent exactly the accepted packets as long as no packet is stored whose bytes outnumber the
room that its stated length was checked against. -/
theorem stream_exact_iff (events : List Event) :
    Along step (fun o event => (o.step event).Faithful) start events ↔
      Along step (fun o event => ¬ o.Overruns event) start events := by
  apply along_congr (P := Sound)
  · intro o sound event _
    exact ⟨fun faithful overruns => sound.not_faithful overruns faithful, fun fits => (sound.step fits).faithful⟩
  · intro o sound event _ fits
    exact sound.step fits
  · exact sound_start

/-! ### Back-pressure -/

/-- The bytes accepted for the device and not yet written to its socket. -/
def outstanding (o : Outgoing) : Nat := o.accepted.flatten.length - o.written.length

/-- They are the stored and the waiting ones, and no more than the shared buffer holds. -/
structure Bounded (o : Outgoing) : Prop where
  whole : o.outstanding = o.buffer.size + o.pendingOutgoing.length
  bound : o.outstanding ≤ 64 * maxPacketLength

/-- A packet passes the check although it does not fit together with the bytes that wait for the socket. -/
def Overcommits (o : Outgoing) (event : Event) : Prop :=
  ∃ raw, o.Passes event raw ∧ o.buffer.remaining < o.pendingOutgoing.length + raw.length

theorem Sound.outstanding_eq {o : Outgoing} (sound : o.Sound) :
    o.outstanding = o.buffer.size + o.pendingOutgoing.length := by
  have stream := congrArg List.length sound.stream
  rw [List.length_append, List.length_append, StreamBuffer.length_content] at stream
  rw [outstanding]
  omega

structure Within (o : Outgoing) : Prop where
  sound : o.Sound
  bound : o.buffer.size + o.pendingOutgoing.length ≤ 64 * maxPacketLength

theorem Within.bounded {o : Outgoing} (within : o.Within) : o.Bounded :=
  ⟨within.sound.outstanding_eq, within.sound.outstanding_eq ▸ within.bound⟩

theorem Within.step {o : Outgoing} {event : Event} (within : o.Within) (fits : ¬ o.Overcommits event) :
    (o.step event).Within := by
  have noOverrun : ¬ o.Overruns event := by
    rintro ⟨raw, passes, long⟩
    exact fits ⟨raw, passes, by omega⟩
  have sound := within.sound.step noOverrun
  refine ⟨sound, ?_⟩
  have bound := within.bound
  rcases o.step_cases event with ⟨raw, passes⟩ | same | rfl | ⟨answer, rfl⟩
  · have room : o.pendingOutgoing.length + raw.length ≤ o.buffer.remaining :=
      Nat.le_of_not_lt fun long => fits ⟨raw, passes, long⟩
    have whole := o.buffer.size_add_remaining
    rw [within.sound.capacity] at whole
    rw [step_passes passes]
    dsimp only
    rw [← StreamBuffer.length_content, StreamBuffer.content_readFrom (by omega), List.length_append,
      StreamBuffer.length_content]
    omega
  · rw [same]
    exact bound
  · obtain ⟨b', drained, emptied, _, _⟩ := drainOutgoing_linear within.sound.linear
    have size : b'.size = 0 := by rw [← b'.length_content, emptied, List.length_nil]
    rw [Outgoing.step, Outgoing.drain, drained]
    dsimp only
    rw [size, List.length_append, StreamBuffer.length_content]
    omega
  · cases answer with
    | ok n =>
      show o.buffer.size + (o.pendingOutgoing.drop _).length ≤ _
      rw [List.length_drop]
      omega
    | error e => exact bound

theorem Within.not_bounded {o : Outgoing} {event : Event} (within : o.Within) (overcommits : o.Overcommits event) :
    ¬ (o.step event).Bounded := by
  obtain ⟨raw, passes, long⟩ := overcommits
  rw [step_passes passes]
  intro bounded
  have bound := bounded.bound
  dsimp only [outstanding] at bound
  have stream := congrArg List.length within.sound.stream
  have whole := o.buffer.size_add_remaining
  rw [within.sound.capacity] at whole
  rw [List.length_append, List.length_append, StreamBuffer.length_content] at stream
  rw [List.flatten_append, List.flatten_singleton, List.length_append] at bound
  omega

theorem within_start : start.Within := by
  refine ⟨sound_start, ?_⟩
  rw [← StreamBuffer.length_content, show start.buffer.content = [] from StreamBuffer.content_new _]
  exact Nat.zero_le _

/-- The memory for the device is bounded as long as no packet is accepted that does not fit together with the
bytes that wait for the socket. -/
theorem backpressure_iff (events : List Event) :
    Along step (fun o event => (o.step event).Bounded) start events ↔
      Along step (fun o event => ¬ o.Overcommits event) start events := by
  apply along_congr (P := Within)
  · intro o within event _
    exact ⟨fun bounded overcommits => within.not_bounded overcommits bounded,
      fun fits => (within.step fits).bounded⟩
  · intro o within event _ fits
    exact within.step fits
  · exact within_start

/-- What passes the check comes when the socket has taken everything, and has no more bytes than it states. -/
def CaughtUp (o : Outgoing) (event : Event) : Prop :=
  ∀ length raw, event.offered = some (length, raw) → length ≤ o.buffer.remaining →
    o.pendingOutgoing = [] ∧ raw.length ≤ length

theorem CaughtUp.not_overcommits {o : Outgoing} {event : Event} (caughtUp : o.CaughtUp event) :
    ¬ o.Overcommits event := by
  rintro ⟨raw, ⟨length, offered, fits⟩, long⟩
  obtain ⟨nothing, states⟩ := caughtUp length raw offered fits
  rw [nothing, List.length_nil, Nat.zero_add] at long
  omega

/-- The memory for the device is bounded in every run that accepts nothing while bytes wait for the socket. -/
theorem backpressure_caught_up {events : List Event} (caughtUp : Along step CaughtUp start events) :
    Along step (fun o event => (o.step event).Bounded) start events := by
  apply (backpressure_iff events).mpr
  apply caughtUp.of_invariant (P := fun _ => True)
  · exact fun _ _ _ _ => trivial
  · exact fun _ _ _ ok => ok.not_overcommits
  · trivial

/-! ### Datagrams that fill the path -/

theorem Sound.readDatagram {o : Outgoing} {p : IpPacket} (sound : o.Sound) (whole : p.length.toNat = p.raw.length)
    (fits : p.raw.length ≤ o.buffer.remaining) : (o.step (.readDatagram p)).Sound ∧
      (o.step (.readDatagram p)).buffer.content = o.buffer.content ++ p.raw ∧
      (o.step (.readDatagram p)).pendingOutgoing = o.pendingOutgoing ∧
      (o.step (.readDatagram p)).buffer.remaining + p.raw.length = o.buffer.remaining := by
  have passes : o.Passes (.readDatagram p) p.raw := ⟨_, rfl, whole ▸ fits⟩
  have sound' : (o.step (.readDatagram p)).Sound := by
    apply sound.step
    rintro ⟨raw, ⟨length, offered, _⟩, long⟩
    cases offered
    omega
  rw [step_passes passes] at sound' ⊢
  refine ⟨sound', StreamBuffer.content_readFrom fits, rfl, ?_⟩
  dsimp only
  rw [StreamBuffer.remaining_readFrom fits]
  omega

theorem readDatagrams_sound {o : Outgoing} {p : IpPacket} (sound : o.Sound)
    (whole : p.length.toNat = p.raw.length) {n : Nat} (fits : n * p.raw.length ≤ o.buffer.remaining) :
    (run step o (List.replicate n (.readDatagram p))).Sound ∧
      (run step o (List.replicate n (.readDatagram p))).buffer.remaining + n * p.raw.length = o.buffer.remaining := by
  induction n generalizing o with
  | zero => exact ⟨sound, by rw [Nat.zero_mul, Nat.add_zero]; rfl⟩
  | succ n ih =>
    rw [Nat.add_one_mul] at fits ⊢
    obtain ⟨sound', _, _, remaining⟩ := sound.readDatagram whole (by omega)
    obtain ⟨sound'', remaining'⟩ := ih sound' (by omega)
    rw [List.replicate_succ, run_cons]
    exact ⟨sound'', by omega⟩

/-- One turn of the loop in which a datagram comes and the device takes nothing. -/
def stalledTurn (p : IpPacket) : List Event := [.readDatagram p, .drain, .writePartial (.ok 0)]

theorem stalledTurns_sound {o : Outgoing} {p : IpPacket} (sound : o.Sound) (empty : o.buffer.content = [])
    (whole : p.length.toNat = p.raw.length) (small : p.raw.length ≤ 64 * maxPacketLength) (n : Nat) :
    (run step o (List.replicate n (stalledTurn p)).flatten).Sound ∧
      (run step o (List.replicate n (stalledTurn p)).flatten).outstanding =
        o.outstanding + n * p.raw.length := by
  induction n generalizing o with
  | zero => exact ⟨sound, by rw [Nat.zero_mul]; rfl⟩
  | succ n ih =>
    have room : o.buffer.remaining = 64 * maxPacketLength := by
      have := o.buffer.size_add_remaining
      rw [← StreamBuffer.length_content, empty, List.length_nil, sound.capacity] at this
      omega
    obtain ⟨read, content, pending, _⟩ := sound.readDatagram whole (by omega)
    obtain ⟨b', drained, emptied, _, _⟩ := drainOutgoing_linear read.linear
    have after : run step o (stalledTurn p) = ((o.step (.readDatagram p)).drain).writePartial (.ok 0) := rfl
    have sound' := read.drain.writePartial (.ok 0)
    rw [← after] at sound'
    have empty' : (run step o (stalledTurn p)).buffer.content = [] := by
      rw [after, Outgoing.drain, drained]
      exact emptied
    have more : (run step o (stalledTurn p)).pendingOutgoing.length = o.pendingOutgoing.length + p.raw.length := by
      rw [after, Outgoing.drain, drained]
      show (((o.step (.readDatagram p)).pendingOutgoing ++ _).drop _).length = _
      rw [List.take_zero, List.length_nil, List.drop_zero, pending, content, empty, List.nil_append, List.length_append]
    obtain ⟨sound'', grown⟩ := ih sound' empty'
    rw [List.replicate_succ, List.flatten_cons, run_append]
    refine ⟨sound'', ?_⟩
    rw [grown, sound'.outstanding_eq, sound.outstanding_eq, more, ← StreamBuffer.length_content,
      ← StreamBuffer.length_content, empty', empty, Nat.add_one_mul]
    omega

/-- The same, and the device takes everything in two writes. -/
def servedTurn (p : IpPacket) : List Event :=
  [.readDatagram p, .drain, .writePartial (.ok 1), .writePartial (.ok p.raw.length)]

theorem servedTurns_caughtUp {o : Outgoing} {p : IpPacket} (sound : o.Sound) (empty : o.buffer.content = [])
    (idle : o.pendingOutgoing = []) (whole : p.length.toNat = p.raw.length)
    (small : p.raw.length ≤ 64 * maxPacketLength) (n : Nat) :
    Along step CaughtUp o (List.replicate n (servedTurn p)).flatten := by
  induction n generalizing o with
  | zero => trivial
  | succ n ih =>
    have room : o.buffer.remaining = 64 * maxPacketLength := by
      have := o.buffer.size_add_remaining
      rw [← StreamBuffer.length_content, empty, List.length_nil, sound.capacity] at this
      omega
    obtain ⟨read, content, pending, _⟩ := sound.readDatagram whole (by omega)
    obtain ⟨b', drained, emptied, _, _⟩ := drainOutgoing_linear read.linear
    have after : run step o (servedTurn p) =
        (((o.step (.readDatagram p)).drain).writePartial (.ok 1)).writePartial (.ok p.raw.length) := rfl
    have waiting : (o.step (.readDatagram p)).drain.pendingOutgoing = p.raw := by
      rw [Outgoing.drain, drained]
      dsimp only
      rw [pending, idle, content, empty, List.nil_append, List.nil_append]
    rw [List.replicate_succ, List.flatten_cons, along_append]
    refine ⟨⟨?_, ?_, ?_, ?_, trivial⟩, ih ?_ ?_ ?_⟩
    · intro length raw offered _
      cases offered
      exact ⟨idle, Nat.le_of_eq whole.symm⟩
    · exact fun length raw offered => (nomatch offered)
    · exact fun length raw offered => (nomatch offered)
    · exact fun length raw offered => (nomatch offered)
    · rw [after]
      exact (read.drain.writePartial (.ok 1)).writePartial (.ok p.raw.length)
    · rw [after, Outgoing.drain, drained]
      exact emptied
    · rw [after]
      show List.drop (List.take _ (List.drop _ _)).length (List.drop _ _) = []
      rw [waiting, List.drop_eq_nil_iff, List.length_take]
      simp only [List.length_drop, List.length_take]
      omega

end Outgoing

namespace Sample
open Outgoing

def datagramHeaders (n : UInt16) : List UInt8 :=
  [0x45, 0] ++ (beBytes16 n ++ ([0, 0, 0, 0, 64, 17, 0, 0, 8, 8, 8, 8, 10, 0, 0, 2, 0, 53, 0xc3, 0x50] ++
    beBytes16 (n - 20) ++ [0, 0]))

def rawDatagram (n : UInt16) : List UInt8 := datagramHeaders n ++ List.replicate (n.toNat - 28) 0

def datagram (n : UInt16) : IpPacket where
  raw := rawDatagram n
  ipHeaderData := .v4 (.ofRaw (rawDatagram n))
  transportHeaderData := some (.udp (.ofRaw ((rawDatagram n).drop 20)))

theorem datagram_whole {n : UInt16} (headers : 28 ≤ n.toNat) :
    (datagram n).raw.length = n.toNat ∧ (datagram n).length.toNat = (datagram n).raw.length := by
  have length : (datagram n).raw.length = n.toNat := by
    show (rawDatagram n).length = _
    rw [rawDatagram, List.length_append, List.length_replicate]
    show 28 + _ = _
    omega
  refine ⟨length, ?_⟩
  have field : u16At (rawDatagram n) 2 = n := by
    rw [rawDatagram, u16At_append_left (by show 3 < 28; omega)]
    have behind := u16At_drop (datagramHeaders n) 0 2
    rw [Nat.add_zero] at behind
    rw [← behind]
    show u16At (beBytes16 n ++ _) 0 = n
    rw [u16At_append_left (by rw [length_beBytes16]; omega), u16At_beBytes16]
  rw [length]
  exact congrArg UInt16.toNat field

/-- After these only 41 bytes are free. -/
def filling : List Outgoing.Event :=
  List.replicate 64 (.readDatagram (datagram 65534)) ++ [.readDatagram (datagram 87)]

theorem run_filling : (run step start filling).Sound ∧ (run step start filling).buffer.remaining = 41 := by
  obtain ⟨long, whole⟩ := datagram_whole (n := 65534) (by decide)
  obtain ⟨short, whole'⟩ := datagram_whole (n := 87) (by decide)
  have free : start.buffer.remaining = 64 * 65536 := StreamBuffer.remaining_new _
  have size : (datagram 65534).raw.length = 65534 := long
  have size' : (datagram 87).raw.length = 87 := short
  obtain ⟨sound, remaining⟩ := readDatagrams_sound sound_start whole (n := 64) (by rw [size, free]; omega)
  rw [size, free] at remaining
  obtain ⟨sound', _, _, remaining'⟩ := sound.readDatagram whole' (by rw [size']; omega)
  rw [size'] at remaining'
  rw [filling, run_concat]
  refine ⟨sound', ?_⟩
  rw [← remaining'] at remaining
  generalize (step _ _).buffer.remaining = room at remaining ⊢
  omega

/-- A deferred TCP packet whose header was overwritten states 40 bytes and has 43. It passes the check when
41 bytes are free, and wraps over the packets that are stored. -/
theorem overwritten_packet_wraps : ∃ (c₀ : TcpConnection) (len : UInt16),
    TcpConnection.create (.new 4096) ipHeader tcpHeader = .ok c₀ ∧
      let c := run TcpConnection.step c₀ disturbing
      c.packetForClientLength = some len ∧
        ¬ Along step (fun o event => (o.step event).Faithful) start
          (filling ++ [.sendPacketToBuffer (c.networkToClient.inflate len)]) := by
  obtain ⟨c₀, packet, created, _, _, pending, _, total, raw, _⟩ := TcpConnection.run_disturbing
  refine ⟨c₀, packet.length, created, pending, ?_⟩
  intro along
  obtain ⟨sound, remaining⟩ := run_filling
  refine sound.not_faithful ?_ (along_concat.mp along).2
  exact ⟨_, ⟨_, rfl, by rw [total, remaining]; omega⟩, by rw [raw, remaining]; omega⟩

/-- The same datagrams in front of a device that takes them stay within the bound. -/
theorem served_device_bounded : Along step (fun o event => (o.step event).Bounded) start
    (List.replicate 65 (servedTurn (datagram 65534))).flatten := by
  obtain ⟨long, whole⟩ := datagram_whole (n := 65534) (by decide)
  have size : (datagram 65534).raw.length = 65534 := long
  exact backpressure_caught_up
    (servedTurns_caughtUp sound_start (StreamBuffer.content_new _) rfl whole (by rw [size]; decide) 65)

/-- A device that takes nothing lets the waiting bytes grow: 65 turns are enough to exceed the bound. -/
theorem stalled_device_grows : ¬ Along step (fun o event => (o.step event).Bounded) start
    (List.replicate 65 (stalledTurn (datagram 65534))).flatten := by
  obtain ⟨long, whole⟩ := datagram_whole (n := 65534) (by decide)
  have size : (datagram 65534).raw.length = 65534 := long
  have grown := (stalledTurns_sound sound_start rfl whole (by rw [size]; decide) 65).2
  rw [size] at grown
  intro along
  have last : ((run step start (List.replicate 65 (stalledTurn (datagram 65534))).flatten)).Bounded :=
    run_invariant (P := Bounded) (fun _ _ _ ok => ok) within_start.bounded along
  have := last.bound
  rw [grown, maxPacketLength] at this
  omega

end Sample

end Gnirehtet.Relay
