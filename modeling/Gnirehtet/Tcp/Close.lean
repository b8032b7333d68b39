import Gnirehtet.Tcp.Window

/-!
# The close handshake

The connection and a conforming device, joined by two reliable links that keep the order. As long as the
relay does not read the end of the server's stream, it acknowledges only what the device sent, and the
connection is closed once both FINs are acknowledged. An end of stream makes it acknowledge a number that
the device has not used.
-/

namespace Gnirehtet.Relay
open Lib Relation

/-! ### A conforming device -/

/-- The device's end. `next` is the number that it expects from the relay. -/
structure Device where
  isn : UInt32
  sent : Nat
  finSent : Bool
  next : UInt32

namespace Device

/-- The number of the device after `n` bytes and, with `fin`, its FIN. -/
def number (isn : UInt32) (n : Nat) (fin : Bool) : UInt32 := isn + 1 + (n + fin.toNat).toUInt32

/-- A segment of a device that sent `n` bytes and, with `fin`, its FIN. After the FIN it only acknowledges. -/
structure Conforms (isn : UInt32) (n : Nat) (fin : Bool) (s : Segment) : Prop where
  sequenceNumber : s.header.sequenceNumber = number isn n fin
  isAck : s.header.isAck = true
  noSyn : s.header.isSyn = false
  noRst : s.header.isRst = false
  last : fin = true → s.payload = [] ∧ s.header.isFin = false

def Sends (d : Device) (s : Segment) : Prop :=
  Conforms d.isn d.sent d.finSent s ∧ s.header.acknowledgementNumber = d.next

def send (d : Device) (s : Segment) : Device :=
  { d with sent := d.sent + s.payload.length, finSent := d.finSent || s.header.isFin }

/-- The sequence numbers that a packet takes up. -/
def sequenceLength (packet : IpPacket) : Nat :=
  (packet.raw.drop (packet.transportIndex + packet.tcp.headerLength.toNat)).length + packet.tcp.isFin.toNat

def receive (d : Device) (packet : IpPacket) : Device :=
  if packet.tcp.sequenceNumber = d.next then { d with next := d.next + (sequenceLength packet).toUInt32 } else d

end Device

/-- The segments between the first `n` bytes of the device and the first `m`. -/
inductive InFlight (isn : UInt32) : Nat → Bool → List Segment → Nat → Bool → Prop where
  | none (n : Nat) (fin : Bool) : InFlight isn n fin [] n fin
  | cons {n m : Nat} {fin fin' : Bool} {s : Segment} {rest : List Segment}
      (conforms : Device.Conforms isn n fin s)
      (later : InFlight isn (n + s.payload.length) (fin || s.header.isFin) rest m fin') :
      InFlight isn n fin (s :: rest) m fin'

namespace InFlight
variable {isn : UInt32} {n m : Nat} {fin fin' : Bool} {up : List Segment}

theorem send (h : InFlight isn n fin up m fin') {s : Segment} (conforms : Device.Conforms isn m fin' s) :
    InFlight isn n fin (up ++ [s]) (m + s.payload.length) (fin' || s.header.isFin) := by
  induction h with
  | none n fin => exact .cons conforms (.none _ _)
  | cons first later ih => exact .cons first (ih conforms)

theorem le (h : InFlight isn n fin up m fin') : n ≤ m ∧ (fin = true → fin' = true) := by
  induction h with
  | none n fin => exact ⟨Nat.le_refl n, id⟩
  | cons first later ih =>
    refine ⟨Nat.le_trans (Nat.le_add_right _ _) ih.1, ?_⟩
    intro sent
    exact ih.2 (by rw [sent, Bool.true_or])

end InFlight

/-! ### Both ends and the links between them -/

/-- The FIN of the relay is acknowledged, as `handle_packet` tests it. -/
def TcpConnection.acknowledgesFin (c : TcpConnection) (s : Segment) : Bool :=
  c.tcb.finSequenceNumber.any fun fin => s.header.acknowledgementNumber == fin + 1

def sentPackets (effects : List Effect) : List IpPacket :=
  effects.filterMap fun
    | .appended packet _ => some packet
    | _ => none

/-- `up` and `down` are the links, oldest first. The last two fields tell what was delivered to the relay: the
device's FIN, and an acknowledgement of its own. -/
structure System where
  relay : TcpConnection
  device : Device
  up : List Segment
  down : List IpPacket
  finDelivered : Bool
  finAcknowledged : Bool

inductive Move where
  | send (s : Segment)
  | receive
  | deliver (random : UInt32)
  | poll (answers : PollAnswers)
  | shared (buffer : StreamBuffer)

namespace System

def handle (s : System) (event : Event) : System :=
  { s with
    relay := s.relay.step event
    down := s.down ++ sentPackets ((s.relay.step event).history.drop s.relay.history.length) }

/-- The router forgets a closed connection. -/
def deliver (s : System) (segment : Segment) (random : UInt32) : System :=
  let delivered := { s with
    finDelivered := s.finDelivered || segment.header.isFin
    finAcknowledged := s.finAcknowledged || s.relay.acknowledgesFin segment }
  if s.relay.closed then delivered else delivered.handle (.packet segment random)

def step (s : System) : Move → System
  | .send segment => { s with device := s.device.send segment, up := s.up ++ [segment] }
  | .receive =>
    match s.down with
    | [] => s
    | packet :: rest => { s with device := s.device.receive packet, down := rest }
  | .deliver random =>
    match s.up with
    | [] => s
    | segment :: rest => { s.deliver segment random with up := rest }
  | .poll answers => s.handle (.poll answers)
  | .shared buffer => s.handle (.shared buffer)

/-- The device conforms, and the relay finds space for its data. -/
def Regular (s : System) : Move → Prop
  | .send segment => s.device.Sends segment
  | .deliver _ => ∀ segment ∈ s.up.head?, segment.payload.length ≤ s.relay.clientToNetwork.remaining
  | _ => True

/-- No poll reads the end of the server's stream in Established. -/
def EndUnread (s : System) : Move → Prop
  | .poll answers => ¬ s.relay.ReadsEof (.poll answers)
  | _ => True

/-- Established, before the FINs. The device may have data in flight. -/
structure Opened (s : System) : Prop where
  established : s.relay.tcb.state = .established
  noFin : s.relay.tcb.finReceived = false
  isOpen : s.relay.closed = false
  isn : s.device.isn = s.relay.tcb.synSequenceNumber
  inFlight : InFlight s.device.isn (acknowledged s.relay.history) false s.up s.device.sent s.device.finSent
  notDelivered : s.finDelivered = false
  notAcknowledged : s.finAcknowledged = false

/-- What a step shows of the close handshake that started in `s₀`. -/
structure Agrees (s₀ s : System) (move : Move) : Prop where
  /-- Each packet acknowledges what the relay had acknowledged after some `past`: only what the device sent. -/
  acknowledges : ∀ e ∈ (s.step move).relay.history.drop s₀.relay.history.length, ∀ packet,
    e.packet = some packet → ∃ past, past <+: (s.step move).relay.history ∧
      packet.tcp.acknowledgementNumber = s₀.device.isn + 1 + (acknowledged past).toUInt32 ∧
      acknowledged past ≤ (s.step move).device.sent + (s.step move).device.finSent.toNat
  advances : ∀ random segment rest, move = .deliver random → s.up = segment :: rest → s.relay.closed = false →
    s.relay.acknowledgesFin segment = true →
      (s.relay.tcb.state = .finWait1 →
        (s.step move).relay.tcb.state = .finWait2 ∨ (s.step move).relay.closed = true) ∧
      (s.relay.tcb.state = .closing ∨ s.relay.tcb.state = .lastAck → (s.step move).relay.closed = true)
  closes : (s.step move).finAcknowledged = true → (s.step move).finDelivered = true →
    (s.step move).relay.clientToNetwork.isEmpty = true → (s.step move).relay.closed = true

end System

namespace TcpConnection

/-! ### The FIN number before the FIN -/

/-- A FIN number is set when the connection leaves Established, for good. -/
def FinNumbered (c : TcpConnection) : Prop := c.tcb.finSequenceNumber = none ∨ c.tcb.state.isClosed = true

theorem finNumbered_same {c c' : TcpConnection} (h : c.FinNumbered)
    (fin : c'.tcb.finSequenceNumber = c.tcb.finSequenceNumber)
    (state : c.tcb.state.isClosed = true → c'.tcb.state.isClosed = true) : c'.FinNumbered := by
  rcases h with none | leaving
  · exact Or.inl (fin.trans none)
  · exact Or.inr (state leaving)

theorem finNumbered_doHandleFin {c : TcpConnection} (h : c.FinNumbered) : c.doHandleFin.FinNumbered := by
  unfold doHandleFin
  dsimp only
  split_ifs
  · exact Or.inr rfl
  · exact Or.inr rfl
  · exact finNumbered_same h (by simp [close]) (by simp [close])
  · exact h

theorem finNumbered_handleFinAck {c : TcpConnection} (h : c.FinNumbered) : c.handleFinAck.FinNumbered := by
  unfold handleFinAck
  split_ifs
  · exact h
  · exact Or.inr rfl
  · exact h

theorem deviceAct_finNumbered {s : Segment} {c c' : TcpConnection} (h : c.FinNumbered) (act : DeviceAct s c c') :
    c'.FinNumbered := by
  cases act with
  | reply flags plain => exact finNumbered_same h (by simp) (by simp)
  | establish half => exact finNumbered_same h rfl (fun leaving => by rw [half] at leaving; cases leaving)
  | consumeFin received drained => exact finNumbered_doHandleFin h
  | finAck => exact finNumbered_handleFinAck h
  | _ => exact h

structure Steady (c c' : TcpConnection) : Prop extends SameUpstream c c' where
  state : c'.tcb.state = c.tcb.state
  finSequenceNumber : c'.tcb.finSequenceNumber = c.tcb.finSequenceNumber
  closed : c.closed = true → c'.closed = true

theorem steady_reply (c : TcpConnection) (flags : UInt16) : Steady c (c.sendEmptyPacketToClient flags) where
  toSameUpstream := sameUpstream_sendEmptyPacketToClient c flags
  state := by simp
  finSequenceNumber := by simp
  closed := by simp

theorem steady_flush {c c' : TcpConnection} (flushed : c.flushPendingPacket = .ok c') :
    Steady c c' ∧ c'.closed = c.closed := by
  have same := sameUpstream_flush flushed
  have state := flush_state flushed
  cases flushes flushed with
  | nothing free => exact ⟨⟨same, rfl, rfl, id⟩, rfl⟩
  | sent len buffer waiting fits => exact ⟨⟨same, rfl, rfl, id⟩, rfl⟩

theorem steady_receiveOne {c : TcpConnection} {answer : ReadAnswer} (window : c.tcb.remainingClientWindow ≠ 0)
    (more : answer ≠ .ok []) : Steady c (c.receiveOne answer).1 := by
  rcases receiveOne_upstream c answer window with same | ⟨ended, _⟩
  · have control : (c.receiveOne answer).1.tcb.state = c.tcb.state ∧
        (c.receiveOne answer).1.tcb.finSequenceNumber = c.tcb.finSequenceNumber ∧
        (c.closed = true → (c.receiveOne answer).1.closed = true) := by
      have turn := c.receiveOne_turn answer
      generalize c.receiveOne answer = result at turn ⊢
      cases turn with
      | sent p packet buffer ok fits => exact ⟨rfl, rfl, id⟩
      | deferred p packet e ok full => exact ⟨rfl, rfl, id⟩
      | ended p ok =>
        have positive : c.tcb.remainingClientWindow.toNat ≠ 0 := fun zero => window (UInt16.toNat.inj zero)
        have some : 0 < maxPayloadLength := by decide
        exact absurd (Packetizer.packetizeRead_eof ok (by omega)) more
      | blocked => exact ⟨rfl, rfl, id⟩
      | failed => simp [close]
    exact ⟨same, control.1, control.2.1, control.2.2⟩
  · exact absurd ended more

theorem networkAct_finNumbered {a : PollAnswers} {c c' : TcpConnection} (h : c.FinNumbered)
    (act : NetworkAct a c c') : c'.FinNumbered := by
  cases act with
  | flush _ pending flushed =>
    have steady := (steady_flush flushed).1
    exact finNumbered_same h steady.finSequenceNumber (by rw [steady.state]; exact id)
  | reply flags free plain => exact finNumbered_same h (by simp) (by simp)
  | consumeFin free received drained => exact finNumbered_doHandleFin h
  | receive _ turn =>
    obtain ⟨answer, given, free, established, window⟩ := turn
    by_cases ended : answer = .ok []
    · right
      simp only [ended, receiveOne, Packetizer.packetizeRead, recv, read, List.take_nil]
      rfl
    · have steady := steady_receiveOne window ended
      exact finNumbered_same h steady.finSequenceNumber (by rw [steady.state]; exact id)
  | connect free connecting =>
    exact finNumbered_same h (by simp [processConnect]) (fun leaving => by rw [connecting] at leaving; cases leaving)
  | _ => exact h

theorem step_finNumbered (c : TcpConnection) (event : Event) (h : c.FinNumbered) : (c.step event).FinNumbered := by
  cases event with
  | packet s random =>
    apply handlePacket_invariant _ (fun _ _ => deviceAct_finNumbered)
    intro c' opens
    cases opens with
    | syn init isSyn => exact finNumbered_same h rfl (fun leaving => by rw [init] at leaving; cases leaving)
    | _ => exact h
  | poll answers => exact acts_invariant (fun _ _ => networkAct_finNumbered) (pollSelf_acts c answers) h
  | shared buffer => exact h

/-! ### The phases of the relay -/

/-- Established, after `n` bytes of the device. A FIN that was delivered waits for the upstream data. -/
structure Streaming (n : Nat) (fin : Bool) (c : TcpConnection) : Prop where
  state : c.tcb.state = .established
  noFin : c.tcb.finSequenceNumber = none
  received : c.tcb.finReceived = fin
  waits : fin = true → c.clientToNetwork.isEmpty = false
  count : acknowledged c.history = n

/-- The FIN of the device is acknowledged, and that of the relay is to be. -/
structure Finishing (n : Nat) (c : TcpConnection) : Prop where
  state : c.tcb.state = .lastAck
  drained : c.clientToNetwork.isEmpty = true
  count : acknowledged c.history = n + 1

/-- Where the relay is when `n` bytes of the device and, with `fin`, its FIN were delivered. -/
structure Position (n : Nat) (fin : Bool) (c : TcpConnection) : Prop where
  bound : acknowledged c.history ≤ n + fin.toNat
  phase : c.closed = true ∨ Streaming n fin c ∨ (fin = true ∧ Finishing n c)

section Phases
variable {n : Nat} {fin : Bool} {c c' : TcpConnection}

theorem Streaming.steady (h : Streaming n fin c) (same : Steady c c') : Streaming n fin c' where
  state := same.state.trans h.state
  noFin := same.finSequenceNumber.trans h.noFin
  received := same.finReceived.trans h.received
  waits := by
    rw [same.clientToNetwork]
    exact h.waits
  count := same.acknowledged.trans h.count

theorem Finishing.steady (h : Finishing n c) (same : Steady c c') : Finishing n c' where
  state := same.state.trans h.state
  drained := by
    rw [same.clientToNetwork]
    exact h.drained
  count := same.acknowledged.trans h.count

theorem Position.steady (h : Position n fin c) (same : Steady c c') : Position n fin c' := by
  refine ⟨by rw [same.acknowledged]; exact h.bound, ?_⟩
  rcases h.phase with closed | streaming | ⟨isFin, finishing⟩
  · exact Or.inl (same.closed closed)
  · exact Or.inr (Or.inl (streaming.steady same))
  · exact Or.inr (Or.inr ⟨isFin, finishing.steady same⟩)

theorem Streaming.position (h : Streaming n fin c) : Position n fin c :=
  ⟨by rw [h.count]; exact Nat.le_add_right _ _, Or.inr (Or.inl h)⟩

theorem Finishing.position (h : Finishing n c) : Position n true c :=
  ⟨Nat.le_of_eq h.count, Or.inr (Or.inr ⟨rfl, h⟩)⟩

theorem Position.close (h : Position n fin c) (closed : c'.closed = true)
    (same : acknowledged c'.history = acknowledged c.history) : Position n fin c' :=
  ⟨by rw [same]; exact h.bound, Or.inl closed⟩

/-- With everything sent upstream, a FIN of the device is answered by that of the relay. -/
theorem finishing_doHandleFin (established : c.tcb.state = .established) (drained : c.clientToNetwork.isEmpty = true)
    (count : acknowledged c.history = n) : Finishing n c.doHandleFin where
  state := by simp [doHandleFin, established]
  drained := by
    rw [(doHandleFin_upstream c).clientToNetwork]
    exact drained
  count := by
    rw [(doHandleFin_upstream c).acknowledged, acknowledged_concat, count]
    rfl

end Phases

/-! ### A poll -/

/-- The data is drained in any number of writes, and the last one takes up a FIN that waits. -/
theorem position_processSend {n : Nat} {fin : Bool} {c : TcpConnection} (h : Position n fin c)
    (isOpen : c.closed = false) (answer : WriteAnswer) : Position n fin (c.processSend answer).1 := by
  unfold processSend
  cases written : c.clientToNetwork.writeTo answer with
  | ok result =>
    obtain ⟨buffer, bytes⟩ := result
    have nothing : acknowledged (c.history ++ [Effect.written bytes]) = acknowledged c.history := by
      rw [acknowledged_concat]
      rfl
    dsimp only
    split
    · rename_i some
      rcases h.phase with closed | streaming | ⟨_, finishing⟩
      · rw [isOpen] at closed
        cases closed
      · split
        · rename_i last
          rw [Bool.and_eq_true] at last
          have isFin : fin = true := streaming.received.symm.trans last.1
          have finished : Finishing n ({ c with
              clientToNetwork := buffer
              history := c.history ++ [Effect.written bytes] } : TcpConnection).doHandleFin :=
            finishing_doHandleFin streaming.state last.2 (nothing.trans streaming.count)
          rw [isFin]
          exact finished.position
        · rename_i more
          have wrote : Streaming n fin { c with
              clientToNetwork := buffer
              history := c.history ++ [Effect.written bytes] } := by
            refine ⟨streaming.state, streaming.noFin, streaming.received, ?_, nothing.trans streaming.count⟩
            intro isFin
            rw [streaming.received, isFin, Bool.true_and] at more
            exact Bool.eq_false_iff.mpr more
          exact (wrote.steady (steady_reply _ flagAck)).position
      · have content := StreamBuffer.content_writeTo written
        rw [(StreamBuffer.isEmpty_iff _).mp finishing.drained] at content
        have none : bytes = [] := (List.append_eq_nil_iff.mp content.symm).1
        exact absurd (by rw [none]; rfl) some
    · exact h.close rfl nothing
  | error e =>
    cases e with
    | wouldBlock => exact h
    | other => exact h.close rfl (by simp [close])

theorem position_pollSelf {n : Nat} {fin : Bool} {c : TcpConnection} {a : PollAnswers} (h : Position n fin c)
    (unread : ¬ c.ReadsEof (.poll a)) : Position n fin (c.pollSelf a).1 := by
  rcases pollSelf_cases c a with same | ⟨flushed, sent, received, path⟩
  · rw [same]
    exact h
  obtain ⟨steady, still⟩ := steady_flush path.flush
  have started : Position n fin flushed := h.steady steady
  have written : Position n fin sent := by
    rcases path.send with same | same <;> rw [same]
    · exact started
    · exact position_processSend started (still.trans path.isOpen) a.send
  have read : Position n fin received := by
    refine acts_invariant (P := fun c' => Position n fin c') ?_ path.receive written
    intro x y sofar act
    obtain ⟨answer, given, free, established, window⟩ := act
    have more : answer ≠ .ok [] := by
      intro ended
      rw [ended] at given
      rcases given with blocked | member
      · cases blocked
      · exact unread ⟨path.isOpen, member⟩
    exact sofar.steady (steady_receiveOne window more)
  rcases path.connect with same | ⟨connecting, same | same⟩ <;> rw [same]
  · exact read
  · rcases read.phase with closed | streaming | ⟨_, finishing⟩
    · exact read.close (by simpa [processConnect] using closed) (sameUpstream_processConnect received).acknowledged
    · rw [streaming.state] at connecting
      cases connecting
    · rw [finishing.state] at connecting
      cases connecting
  · exact read.close rfl rfl

/-! ### A segment of the device -/

theorem steady_expectedPacket (c : TcpConnection) (s : Segment) : Steady c (c.expectedPacket s) := by
  constructor
  · constructor <;> rfl
  · rfl
  · rfl
  · exact id

theorem streaming_takeAck {n : Nat} {c : TcpConnection} {s : Segment} (h : Streaming n false c)
    (fits : s.payload.length ≤ c.clientToNetwork.remaining) (isAck : s.header.isAck = true) :
    Streaming (n + s.payload.length) false (c.takeAck s) := by
  have ready : c.tcb.state ≠ .synReceived := by
    rw [h.state]
    decide
  rw [takeAck, if_pos isAck, handleAck, if_neg ready]
  split_ifs with empty full
  · rw [empty]
    exact h
  · omega
  · apply Streaming.steady _ (steady_reply _ flagAck)
    refine ⟨h.state, h.noFin, h.received, (fun isFin => by cases isFin), ?_⟩
    rw [storePayload, acknowledged_concat, h.count]
    rfl

theorem position_takeFin {n : Nat} {c : TcpConnection} (h : Streaming n false c) (s : Segment) :
    Position n s.header.isFin (c.takeFin s) := by
  rw [takeFin]
  split_ifs with isFin
  · rw [isFin, handleFin]
    dsimp only
    split_ifs with drained
    · have finished : Finishing n ({ c with tcb.finReceived := true } : TcpConnection).doHandleFin :=
        finishing_doHandleFin h.state drained h.count
      exact finished.position
    · have waiting : Streaming n true { c with tcb.finReceived := true } :=
        ⟨h.state, h.noFin, rfl, fun _ => Bool.eq_false_iff.mpr drained, h.count⟩
      exact waiting.position
  · rw [Bool.eq_false_iff.mpr isFin]
    exact h.position

theorem position_checkFinAck {n : Nat} {fin : Bool} {c : TcpConnection} (h : Position n fin c) (s : Segment) :
    Position n fin (c.checkFinAck s) := by
  have same := (c.checkFinAck_upstream s).acknowledged
  rcases h.phase with closed | streaming | ⟨_, finishing⟩
  · apply h.close _ same
    unfold checkFinAck handleFinAck
    split
    · split_ifs <;> simp [close, closed]
    · exact closed
  · rw [checkFinAck, streaming.noFin]
    exact h
  · unfold checkFinAck
    split
    · split
      · rw [handleFinAck, if_pos (Or.inl finishing.state)]
        exact h.close rfl rfl
      · exact h
    · exact h

theorem position_expected {n : Nat} {c : TcpConnection} {s : Segment} (h : Streaming n false c)
    (fits : s.payload.length ≤ c.clientToNetwork.remaining) (isAck : s.header.isAck = true)
    (noRst : s.header.isRst = false) : Position (n + s.payload.length) s.header.isFin (c.handleExpected s) := by
  have expected := h.steady (steady_expectedPacket c s)
  have stored := streaming_takeAck expected fits isAck
  rw [handleExpected, if_neg (by simp [noRst])]
  exact position_checkFinAck (position_takeFin stored s) s

/-- After its FIN the device only acknowledges, and what acknowledges the relay's FIN closes the connection. -/
theorem finishing_expected {n : Nat} {c : TcpConnection} {s : Segment} (h : Finishing n c) (empty : s.payload = [])
    (noFin : s.header.isFin = false) (noRst : s.header.isRst = false) :
    Position n true (c.handleExpected s) ∧
      (c.acknowledgesFin s = true → (c.handleExpected s).closed = true) := by
  have expected := h.steady (steady_expectedPacket c s)
  have nothing : ((c.expectedPacket s).takeAck s).takeFin s = c.expectedPacket s := by
    have half : (c.expectedPacket s).tcb.state ≠ .synReceived := by
      rw [expected.state]
      decide
    rw [takeAck, handleAck, if_neg half, if_pos empty, ite_self, takeFin, if_neg (by simp [noFin])]
  rw [handleExpected, if_neg (by simp [noRst]), nothing]
  refine ⟨position_checkFinAck expected.position s, ?_⟩
  intro acknowledges
  have same : (c.expectedPacket s).tcb.finSequenceNumber = c.tcb.finSequenceNumber := rfl
  rw [checkFinAck, same]
  cases fin : c.tcb.finSequenceNumber with
  | none =>
    rw [acknowledgesFin, fin] at acknowledges
    cases acknowledges
  | some m =>
    have number : s.header.acknowledgementNumber = m + 1 := by
      rw [acknowledgesFin, fin] at acknowledges
      simpa using acknowledges
    dsimp only
    rw [if_pos number, handleFinAck, if_pos (Or.inl expected.state)]
    rfl

/-- A segment behind a FIN that waits is ahead of what the relay expects. -/
theorem handlePacket_ahead {c : TcpConnection} {s : Segment} (random : UInt32) (established : c.tcb.state = .established)
    (noSyn : s.header.isSyn = false) (ahead : s.header.sequenceNumber = c.tcb.acknowledgementNumber + 1) :
    c.handlePacket s random = c := by
  have one : s.header.sequenceNumber - c.tcb.acknowledgementNumber = 1 := by
    rw [ahead]
    grind
  have other : s.header.sequenceNumber ≠ c.tcb.acknowledgementNumber := by
    intro same
    rw [same, UInt32.sub_self] at one
    cases one
  rw [handlePacket, if_neg (by rw [established]; decide), if_neg (by simp [noSyn]), if_pos other, one]
  exact if_neg (by decide)

theorem handlePacket_expected {c : TcpConnection} {s : Segment} (random : UInt32) (started : c.Started)
    (noSyn : s.header.isSyn = false) (inSequence : s.header.sequenceNumber = c.tcb.acknowledgementNumber) :
    c.handlePacket s random = c.handleExpected s := by
  rw [handlePacket, if_neg started.1, if_neg (by simp [noSyn]), if_neg (fun other => other inSequence)]

theorem acknowledgementNumber_eq {isn : UInt32} {n : Nat} {c : TcpConnection} (law : c.unaccounted = isn + 1)
    (count : acknowledged c.history = n) : c.tcb.acknowledgementNumber = isn + 1 + n.toUInt32 := by
  rw [unaccounted, count] at law
  rw [← law]
  exact (UInt32.sub_add_cancel _ _).symm

/-- A conforming segment advances the position, and the first acknowledgement of the relay's FIN closes. -/
theorem position_packet {isn : UInt32} {n : Nat} {fin : Bool} {c : TcpConnection} {s : Segment}
    (h : Position n fin c) (isOpen : c.closed = false) (law : c.unaccounted = isn + 1) (started : c.Started)
    (conforms : Device.Conforms isn n fin s) (fits : s.payload.length ≤ c.clientToNetwork.remaining)
    (random : UInt32) :
    Position (n + s.payload.length) (fin || s.header.isFin) (c.handlePacket s random) ∧
      (c.acknowledgesFin s = true → (c.handlePacket s random).closed = true ∧ c.tcb.state = .lastAck) := by
  have number := conforms.sequenceNumber
  rcases h.phase with closed | streaming | ⟨isFin, finishing⟩
  · rw [isOpen] at closed
    cases closed
  · have ack := acknowledgementNumber_eq law streaming.count
    have unacknowledged : c.acknowledgesFin s = false := by
      rw [acknowledgesFin, streaming.noFin]
      rfl
    refine ⟨?_, fun acknowledges => by rw [unacknowledged] at acknowledges; cases acknowledges⟩
    cases fin with
    | false =>
      rw [handlePacket_expected random started conforms.noSyn (number.trans ack.symm)]
      exact position_expected streaming fits conforms.isAck conforms.noRst
    | true =>
      have ahead : s.header.sequenceNumber = c.tcb.acknowledgementNumber + 1 := by
        rw [number, ack, Device.number, Bool.toNat_true, toUInt32_add]
        exact (UInt32.add_assoc _ _ _).symm
      rw [handlePacket_ahead random streaming.state conforms.noSyn ahead, (conforms.last rfl).1, (conforms.last rfl).2]
      exact h
  · have ack := acknowledgementNumber_eq law finishing.count
    rw [isFin] at conforms number ⊢
    obtain ⟨empty, noFin⟩ := conforms.last rfl
    obtain ⟨position, closes⟩ := finishing_expected finishing empty noFin conforms.noRst
    rw [handlePacket_expected random started conforms.noSyn (number.trans ack.symm), empty]
    exact ⟨position, fun acknowledges => ⟨closes acknowledges, finishing.state⟩⟩

end TcpConnection

/-! ### Both ends step by step -/

namespace System
open TcpConnection

/-- Since `s₀` the relay handled the first `n` bytes of the device, and the rest is in flight. -/
structure Joined (s₀ : System) (n : Nat) (s : System) : Prop where
  isn : s.device.isn = s₀.device.isn
  inFlight : InFlight s₀.device.isn n s.finDelivered s.up s.device.sent s.device.finSent
  started : s.relay.Started
  honours : Honours [] s₀.relay s.relay
  law : s.relay.unaccounted = s₀.device.isn + 1
  position : s.relay.Position n s.finDelivered
  closes : s.finAcknowledged = true → s.relay.closed = true

section Steps
variable {s₀ s : System} {n : Nat}

theorem Joined.relay (h : Joined s₀ n s) (event : Event) : (s.relay.step event).Started ∧
    Honours [] s₀.relay (s.relay.step event) ∧ (s.relay.step event).unaccounted = s₀.device.isn + 1 := by
  obtain ⟨accounts, started⟩ := step_accounts event h.started
  exact ⟨started, step_honours event h.honours h.started, accounts.unaccounted.trans h.law⟩

theorem Joined.segment (h : Joined s₀ n s) {segment : Segment} {rest : List Segment} (up : s.up = segment :: rest) :
    Device.Conforms s₀.device.isn n s.finDelivered segment ∧
      InFlight s₀.device.isn (n + segment.payload.length) (s.finDelivered || segment.header.isFin) rest s.device.sent
        s.device.finSent := by
  have inFlight := h.inFlight
  rw [up] at inFlight
  cases inFlight with
  | cons conforms later => exact ⟨conforms, later⟩

theorem joined_deliver (h : Joined s₀ n s) {segment : Segment} {rest : List Segment} (random : UInt32)
    (up : s.up = segment :: rest) (fits : segment.payload.length ≤ s.relay.clientToNetwork.remaining) :
    Joined s₀ (n + segment.payload.length) { s.deliver segment random with up := rest } := by
  obtain ⟨conforms, later⟩ := h.segment up
  rw [deliver]
  dsimp only
  split_ifs with closed
  · refine ⟨h.isn, later, h.started, h.honours, h.law, ⟨?_, Or.inl closed⟩, fun _ => closed⟩
    have bound := h.position.bound
    cases delivered : s.finDelivered with
    | false =>
      rw [delivered] at bound
      exact Nat.le_trans bound (Nat.add_le_add (Nat.le_add_right _ _) (Nat.zero_le _))
    | true =>
      rw [delivered] at bound
      exact Nat.le_trans bound (Nat.add_le_add_right (Nat.le_add_right _ _) _)
  · obtain ⟨position, acknowledges⟩ := position_packet h.position (Bool.eq_false_iff.mpr closed) h.law h.started
      conforms fits random
    obtain ⟨started, honours, law⟩ := h.relay (.packet segment random)
    refine ⟨h.isn, later, started, honours, law, position, ?_⟩
    intro acknowledged
    rcases Bool.or_eq_true_iff.mp acknowledged with before | now
    · exact absurd (h.closes before) closed
    · exact (acknowledges now).1

theorem joined_poll (h : Joined s₀ n s) {a : PollAnswers} (unread : ¬ s.relay.ReadsEof (.poll a)) :
    Joined s₀ n (s.handle (.poll a)) := by
  obtain ⟨started, honours, law⟩ := h.relay (.poll a)
  refine ⟨h.isn, h.inFlight, started, honours, law, position_pollSelf h.position unread, ?_⟩
  intro acknowledged
  have closed := h.closes acknowledged
  show (s.relay.pollSelf a).1.closed = true
  rw [pollSelf, if_pos closed]
  exact closed

theorem joined_step (h : Joined s₀ n s) {move : Move} (regular : s.Regular move) (unread : s.EndUnread move) :
    ∃ n, Joined s₀ n (s.step move) := by
  cases move with
  | send segment =>
    obtain ⟨conforms, _⟩ := regular
    rw [h.isn] at conforms
    exact ⟨n, h.isn, h.inFlight.send conforms, h.started, h.honours, h.law, h.position, h.closes⟩
  | receive =>
    rw [step]
    split
    · exact ⟨n, h⟩
    · rename_i packet rest _
      have same : (s.device.receive packet).isn = s.device.isn ∧ (s.device.receive packet).sent = s.device.sent ∧
          (s.device.receive packet).finSent = s.device.finSent := by
        unfold Device.receive
        split <;> exact ⟨rfl, rfl, rfl⟩
      obtain ⟨isn, sent, finSent⟩ := same
      refine ⟨n, isn.trans h.isn, ?_, h.started, h.honours, h.law, h.position, h.closes⟩
      dsimp only
      rw [sent, finSent]
      exact h.inFlight
  | deliver random =>
    rw [step]
    split
    · exact ⟨n, h⟩
    · rename_i segment rest up
      exact ⟨_, joined_deliver h random up (regular segment (by rw [up]; rfl))⟩
  | poll answers => exact ⟨n, joined_poll h unread⟩
  | shared buffer =>
    have steady : s.relay.Steady (s.relay.step (.shared buffer)) := by
      constructor
      · constructor <;> rfl
      · rfl
      · rfl
      · exact id
    obtain ⟨started, honours, law⟩ := h.relay (.shared buffer)
    exact ⟨n, h.isn, h.inFlight, started, honours, law, h.position.steady steady, h.closes⟩

/-! ### The agreement -/

theorem Joined.acknowledges (h : Joined s₀ n s) : ∀ e ∈ s.relay.history.drop s₀.relay.history.length, ∀ packet,
    e.packet = some packet → ∃ past, past <+: s.relay.history ∧
      packet.tcp.acknowledgementNumber = s₀.device.isn + 1 + (acknowledged past).toUInt32 ∧
      acknowledged past ≤ s.device.sent + s.device.finSent.toNat := by
  intro e member packet some
  obtain ⟨past, _, before, number, _⟩ := h.honours.sent e member packet some
  rw [h.law] at number
  refine ⟨past, before, number, ?_⟩
  have part := acknowledged_past_le before
  have bound := h.position.bound
  obtain ⟨bytes, fin⟩ := h.inFlight.le
  have fins : s.finDelivered.toNat ≤ s.device.finSent.toNat := by
    cases delivered : s.finDelivered with
    | false => exact Nat.zero_le _
    | true => rw [fin delivered]
  omega

theorem joined_agrees (h : Joined s₀ n s) {move : Move} (regular : s.Regular move) (unread : s.EndUnread move) :
    Agrees s₀ s move := by
  obtain ⟨n', next⟩ := joined_step h regular unread
  refine ⟨next.acknowledges, ?_, fun acknowledged _ _ => next.closes acknowledged⟩
  intro random segment rest deliver up isOpen acknowledges
  rw [deliver] at regular ⊢
  have fits := regular segment (by rw [up]; rfl)
  obtain ⟨closed, state⟩ := (position_packet h.position isOpen h.law h.started (h.segment up).1 fits random).2 acknowledges
  have relay : (s.step (.deliver random)).relay = s.relay.handlePacket segment random := by
    rw [step, up]
    dsimp only
    rw [System.deliver, if_neg (by rw [isOpen]; exact Bool.false_ne_true)]
    rfl
  rw [relay]
  refine ⟨fun waiting => ?_, fun _ => closed⟩
  rw [state] at waiting
  cases waiting

end Steps

theorem joined_start {c₀ : TcpConnection} {buffer : StreamBuffer} {ipHeader : IpHeader}
    {transportHeader : TransportHeader} (created : create buffer ipHeader transportHeader = .ok c₀)
    {before : List Event} (opening : Along TcpConnection.step Opening c₀ before) {s₀ : System}
    (reached : s₀.relay = run TcpConnection.step c₀ before) (opened : s₀.Opened) :
    Joined s₀ (acknowledged s₀.relay.history) s₀ := by
  have started := started_of_established opened.established
  have kept : s₀.relay.Kept := by
    rw [reached]
    exact run_invariant (fun _ _ h opening => step_kept h opening) (created_kept created) opening
  have accounted : s₀.relay.Accounted := by
    rw [reached]
    exact run_invariant (fun _ _ h opening => step_accounted h opening) (created_accounted created).1 opening
  have numbered : s₀.relay.FinNumbered := by
    rw [reached]
    apply run_always step_finNumbered _ before
    rw [create_eq created]
    exact Or.inl rfl
  have noFin : s₀.relay.tcb.finSequenceNumber = none := by
    rcases numbered with none | leaving
    · exact none
    · rw [opened.established] at leaving
      cases leaving
  have inFlight := opened.inFlight
  rw [← opened.notDelivered] at inFlight
  have streaming : Streaming (acknowledged s₀.relay.history) s₀.finDelivered s₀.relay := by
    rw [opened.notDelivered]
    exact ⟨opened.established, noFin, opened.noFin, (fun isFin => by cases isFin), rfl⟩
  have law : s₀.relay.unaccounted = s₀.device.isn + 1 := by
    rw [opened.isn]
    exact accounted.law started.1
  refine ⟨rfl, inFlight, started, kept.2 started, law, streaming.position, ?_⟩
  intro acknowledged
  rw [opened.notAcknowledged] at acknowledged
  cases acknowledged

/-- Every order of steps, as long as the end of the server's stream is not read in Established. -/
theorem close_agrees {buffer : StreamBuffer} {ipHeader : IpHeader} {transportHeader : TransportHeader}
    {c₀ : TcpConnection} (created : create buffer ipHeader transportHeader = .ok c₀) {before : List Event}
    (opening : Along TcpConnection.step Opening c₀ before) {s₀ : System}
    (reached : s₀.relay = run TcpConnection.step c₀ before) (opened : s₀.Opened) {moves : List Move}
    (regular : Along step Regular s₀ moves) (unread : Along step EndUnread s₀ moves) :
    Along step (Agrees s₀) s₀ moves := by
  refine Along.of_invariant (P := fun s => ∃ n, Joined s₀ n s) ?_ ?_ ⟨_, joined_start created opening reached opened⟩
    (along_and.mpr ⟨regular, unread⟩)
  · intro s move joined ok
    obtain ⟨n, joined⟩ := joined
    exact joined_step joined ok.1 ok.2
  · intro s move joined ok
    obtain ⟨n, joined⟩ := joined
    exact joined_agrees joined ok.1 ok.2

end System

namespace Sample
open TcpConnection

/-- The connection after the handshake, and the device that made it. -/
def joined (c : TcpConnection) : System where
  relay := c
  device := { isn := 100, sent := 0, finSent := false, next := 8 }
  up := []
  down := []
  finDelivered := false
  finAcknowledged := false

theorem opened_joined (buffer : StreamBuffer) (p : Packetizer) {e : Effect} (reply : e.isReply = true) :
    (joined (established buffer p e)).Opened := by
  have nothing : acknowledged (established buffer p e).history = 0 := by
    cases e <;> simp_all [Effect.isReply, established, acknowledged, Effect.sequenceLength]
  refine ⟨rfl, rfl, rfl, rfl, ?_, rfl, rfl⟩
  show InFlight 100 (acknowledged (established buffer p e).history) false [] 0 false
  rw [nothing]
  exact .none 0 false

def leaving : List Move := [.send (segment 101 8 (flagFin ||| flagAck) [1, 2]), .deliver 0]

theorem close_agrees_leaving : ∃ c₀ : TcpConnection, create (.new 4096) ipHeader tcpHeader = .ok c₀ ∧
    Along System.step (System.Agrees (joined (run TcpConnection.step c₀ handshake)))
      (joined (run TcpConnection.step c₀ handshake)) leaving := by
  obtain ⟨c₀, created⟩ := created (.new 4096)
  refine ⟨c₀, created, ?_⟩
  obtain ⟨buffer, e, reply, reached⟩ := run_handshake (.new 4096) c₀.networkToClient
  rw [← create_eq created] at reached
  have opening := handshake_opening (.new 4096) c₀.networkToClient
  rw [← create_eq created] at opening
  refine System.close_agrees created opening rfl (by rw [reached]; exact opened_joined _ _ reply) ?_ ?_
  · rw [reached]
    refine ⟨⟨⟨rfl, rfl, rfl, rfl, fun sent => by cases sent⟩, rfl⟩, ?_, trivial⟩
    intro s head
    cases head
    show 2 ≤ (StreamBuffer.new (32 * maxPacketLength)).remaining
    rw [StreamBuffer.remaining_new]
    decide
  · exact ⟨trivial, trivial, trivial⟩

theorem receiveOne_end {c : TcpConnection} (carries : c.networkToClient.CarriesTcp) : ∃ networkToClient : Packetizer,
    networkToClient.CarriesTcp ∧ c.receiveOne (.ok []) = ({ c with networkToClient }.eof, .leave true) := by
  have updated := carriesTcp_updateHeaders carries (flagAck ||| flagPsh)
  refine ⟨_, updated.writeBuffer [], ?_⟩
  simp only [receiveOne, Packetizer.packetizeRead, recv, read, List.take_nil]
  rfl

/-- The device sent nothing after its SYN, and the relay acknowledges one number more. -/
theorem close_disagrees : ∃ c₀ : TcpConnection, create (.new 4096) ipHeader tcpHeader = .ok c₀ ∧
    (joined (run TcpConnection.step c₀ handshake)).Opened ∧
    Along System.step System.Regular (joined (run TcpConnection.step c₀ handshake)) [.poll { reads := [.ok []] }] ∧
    ¬ Along System.step (System.Agrees (joined (run TcpConnection.step c₀ handshake)))
      (joined (run TcpConnection.step c₀ handshake)) [.poll { reads := [.ok []] }] := by
  obtain ⟨c₀, created⟩ := created (.new 4096)
  refine ⟨c₀, created, ?_⟩
  have carries := run_always step_carriesTcp (create_carriesTcp created) handshake
  obtain ⟨buffer, e, reply, reached⟩ := run_handshake (.new 4096) c₀.networkToClient
  rw [← create_eq created] at reached
  rw [reached] at carries ⊢
  generalize afterSynAck (.new 4096) c₀.networkToClient = p at carries
  refine ⟨opened_joined _ _ reply, ⟨trivial, trivial⟩, ?_⟩
  intro along
  have acknowledges := along.1.acknowledges
  obtain ⟨q, carries, turn⟩ := receiveOne_end carries
  have relay : (established buffer p e).step (.poll { reads := [.ok []] }) =
      ({ established buffer p e with networkToClient := q } : TcpConnection).eof :=
    pollSelf_leave rfl rfl rfl rfl window_established turn (by simp [eof])
  obtain ⟨buffer', packet, e', tcp, _, how, sent⟩ := sendEmptyPacketToClient_builds
    (c := { established buffer p e with
      networkToClient := q
      tcb := { establishedTcb with acknowledgementNumber := establishedTcb.acknowledgementNumber + 1 }
      history := [e] ++ [Effect.eof] }) carries (flagFin ||| flagAck)
  have history : ((established buffer p e).step (.poll { reads := [.ok []] })).history = [e, .eof, e'] := by
    rw [relay]
    exact congrArg TcpConnection.history sent
  have about : e'.packet = some packet := by
    rw [how]
    split <;> rfl
  have member : e' ∈ ((established buffer p e).step (.poll { reads := [.ok []] })).history.drop 1 := by
    rw [history]
    exact List.mem_cons_of_mem _ List.mem_cons_self
  obtain ⟨past, _, number, unsent⟩ := acknowledges e' member packet about
  have nothing : acknowledged past = 0 := Nat.le_zero.mp unsent
  rw [nothing, tcp] at number
  have same : (102 : UInt32) = 100 + 1 + Nat.toUInt32 0 := number
  exact absurd same (by decide)

end Sample

end Gnirehtet.Relay
