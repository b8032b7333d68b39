import Gnirehtet.Tcp.Renumber
import Gnirehtet.Tcp.StateMachine

/-!
# The number space

Two runs of a connection that differ in where its numbers lie. The device's numbers are moved by `k₂`, the
relay's own initial number and what the device acknowledges of it by `k₁`. The runs stay `Shifted`: every
step does the same in both, and what the second one sends is what the first one sends, renumbered.
-/

namespace Gnirehtet.Relay
open Lib

/-! ### The second run -/

def Segment.renumber (k₁ k₂ : UInt32) (s : Segment) : Segment :=
  { s with
    header.sequenceNumber := s.header.sequenceNumber + k₂
    header.acknowledgementNumber := s.header.acknowledgementNumber + k₁ }

def Effect.renumber (k₁ k₂ : UInt32) : Effect → Effect
  | .appended packet room => .appended (packet.renumber k₁ k₂) room
  | .skipped packet => .skipped (packet.renumber k₁ k₂)
  | .deferred packet => .deferred (packet.renumber k₁ k₂)
  | e => e

/-- Behind the first packet the events differ in the numbers of the device only. The shared buffer holds
other packets, but as many bytes. -/
inductive Event.Renumbered (k₁ k₂ : UInt32) : Event → Event → Prop where
  | packet (s : Segment) (random random' : UInt32) :
      Renumbered k₁ k₂ (.packet s random) (.packet (s.renumber k₁ k₂) random')
  | poll (answers : PollAnswers) : Renumbered k₁ k₂ (.poll answers) (.poll answers)
  | shared {b b' : StreamBuffer} (same : b.SameFill b') : Renumbered k₁ k₂ (.shared b) (.shared b')

/-- Until the connection is made, nothing that the device acknowledged counts. -/
structure Tcb.Shifted (k₁ k₂ : UInt32) (t t' : Tcb) : Prop where
  state : t'.state = t.state
  synSequenceNumber : t'.synSequenceNumber = t.synSequenceNumber + k₂
  sequenceNumber : t'.sequenceNumber = t.sequenceNumber + k₁
  acknowledgementNumber : t'.acknowledgementNumber = t.acknowledgementNumber + k₂
  theirAcknowledgementNumber : t.state.isConnected = true →
    t'.theirAcknowledgementNumber = t.theirAcknowledgementNumber + k₁
  finSequenceNumber : t'.finSequenceNumber = t.finSequenceNumber.map (· + k₁)
  finReceived : t'.finReceived = t.finReceived
  clientWindow : t'.clientWindow = t.clientWindow

theorem Tcb.Shifted.moved {k₁ k₂ : UInt32} {t t' : Tcb} (h : Shifted k₁ k₂ t t') : TcpHeader.Moved k₁ k₂ t t' :=
  ⟨h.sequenceNumber, h.acknowledgementNumber⟩

/-- Only differences of numbers decide how much may be sent. -/
theorem Tcb.Shifted.remainingClientWindow {k₁ k₂ : UInt32} {t t' : Tcb} (h : Shifted k₁ k₂ t t')
    (connected : t.state.isConnected = true) : t'.remainingClientWindow = t.remainingClientWindow := by
  have cancel (a w s : UInt32) : a + k₁ + w - (s + k₁) = a + w - s := by grind
  rw [Tcb.remainingClientWindow, Tcb.remainingClientWindow, h.clientWindow, h.sequenceNumber,
    h.theirAcknowledgementNumber connected, cancel]

namespace TcpConnection

/-- A deferred packet can be read from both packetizers, whatever was built since. -/
structure Shifted (k₁ k₂ : UInt32) (c c' : TcpConnection) : Prop where
  tcb : Tcb.Shifted k₁ k₂ c.tcb c'.tcb
  buffer : c.buffer.SameFill c'.buffer
  clientToNetwork : c'.clientToNetwork = c.clientToNetwork
  networkToClient : Packetizer.Alike c.networkToClient c'.networkToClient
  packetForClientLength : c'.packetForClientLength = c.packetForClientLength
  pending : ∀ len, c.packetForClientLength = some len → c.networkToClient.payloadIndex ≤ len.toNat ∧
    c'.networkToClient.inflate len = (c.networkToClient.inflate len).renumber k₁ k₂
  closed : c'.closed = c.closed
  history : c'.history = c.history.map (Effect.renumber k₁ k₂)

variable {k₁ k₂ : UInt32} {c c' : TcpConnection}

namespace Shifted

theorem setTcb (h : Shifted k₁ k₂ c c') {t t' : Tcb} (tcb : Tcb.Shifted k₁ k₂ t t') :
    Shifted k₁ k₂ { c with tcb := t } { c' with tcb := t' } :=
  { h with tcb }

theorem log (h : Shifted k₁ k₂ c c') (e : Effect) : Shifted k₁ k₂ { c with history := c.history ++ [e] }
    { c' with history := c'.history ++ [e.renumber k₁ k₂] } :=
  { h with history := by rw [List.map_append, ← h.history]; rfl }

theorem close (h : Shifted k₁ k₂ c c') : Shifted k₁ k₂ c.close c'.close := { h with closed := rfl }

end Shifted

/-- A packet and its renumbered copy find the same room. -/
theorem sendPacketToBuffer_renumber (k₁ k₂ : UInt32) {b b' : StreamBuffer} (same : b.SameFill b') (packet : IpPacket) :
    (∃ sent sent', sendPacketToBuffer b packet = .ok sent ∧ sendPacketToBuffer b' (packet.renumber k₁ k₂) = .ok sent' ∧
      sent.SameFill sent') ∨
    sendPacketToBuffer b packet = .error .wouldBlock ∧
      sendPacketToBuffer b' (packet.renumber k₁ k₂) = .error .wouldBlock := by
  unfold sendPacketToBuffer
  rw [IpPacket.length_renumber, same.remaining]
  split
  · exact Or.inl ⟨_, _, rfl, rfl, same.readFrom (IpPacket.length_raw_renumber k₁ k₂ packet)⟩
  · exact Or.inr ⟨rfl, rfl⟩

namespace Shifted
variable (h : Shifted k₁ k₂ c c')
include h

theorem advertisedWindow : c'.advertisedWindow = c.advertisedWindow := by
  rw [TcpConnection.advertisedWindow, TcpConnection.advertisedWindow, h.clientToNetwork]

theorem sendEmptyPacketToClient (flags : UInt16) :
    Shifted k₁ k₂ (c.sendEmptyPacketToClient flags) (c'.sendEmptyPacketToClient flags) := by
  have ready := h.networkToClient.updateHeaders h.tcb.moved flags c.advertisedWindow
  have fits : (updateHeaders c.networkToClient c.tcb flags c.advertisedWindow).payloadIndex + (0 : UInt16).toNat <
      65536 := Nat.lt_trans c.networkToClient.payloadIndex_lt (by decide)
  obtain ⟨alike, inflated⟩ := ready.build fits
  have packet := ready.packet_build fits
  have built (buffer buffer' : StreamBuffer) (fill : buffer.SameFill buffer') (e : Effect) :
      Shifted k₁ k₂ { c with
        networkToClient := ((updateHeaders c.networkToClient c.tcb flags c.advertisedWindow).build 0).1
        buffer
        history := c.history ++ [e] } { c' with
        networkToClient := ((updateHeaders c'.networkToClient c'.tcb flags c.advertisedWindow).build 0).1
        buffer := buffer'
        history := c'.history ++ [e.renumber k₁ k₂] } :=
    { h.log e with
      buffer := fill
      networkToClient := alike
      pending := fun len waiting => ⟨(h.pending len waiting).1, inflated len (h.pending len waiting).1⟩ }
  unfold TcpConnection.sendEmptyPacketToClient createEmptyResponsePacket Packetizer.packetizeEmptyPayload
  dsimp only
  rw [h.advertisedWindow, packet, h.buffer.remaining]
  rcases sendPacketToBuffer_renumber k₁ k₂ h.buffer
    ((updateHeaders c.networkToClient c.tcb flags c.advertisedWindow).build 0).2 with
    ⟨sent, sent', first, second, fill⟩ | ⟨first, second⟩
  · rw [first, second]
    exact built sent sent' fill (.appended _ _)
  · rw [first, second]
    exact built c.buffer c'.buffer h.buffer (.skipped _)

/-! ### Packets from the device -/

/-- The tests of the state end alike. -/
theorem unlike {state : TcpState} (other : ¬ c.tcb.state = state) : ¬ c'.tcb.state = state := fun same =>
  other (h.tcb.state.symm.trans same)

theorem moveTo (state : TcpState)
    (their : state.isConnected = true → c'.tcb.theirAcknowledgementNumber = c.tcb.theirAcknowledgementNumber + k₁) :
    Shifted k₁ k₂ { c with tcb.state := state } { c' with tcb.state := state } :=
  h.setTcb { h.tcb with
    state := rfl
    theirAcknowledgementNumber := their }

theorem acknowledge (n : UInt32) : Shifted k₁ k₂
    { c with tcb.acknowledgementNumber := c.tcb.acknowledgementNumber + n }
    { c' with tcb.acknowledgementNumber := c'.tcb.acknowledgementNumber + n } := by
  have counted (a : UInt32) : a + k₂ + n = a + n + k₂ := by grind
  exact h.setTcb { h.tcb with acknowledgementNumber := by rw [h.tcb.acknowledgementNumber, counted] }

theorem advance (n : UInt32) : Shifted k₁ k₂
    { c with tcb.sequenceNumber := c.tcb.sequenceNumber + n }
    { c' with tcb.sequenceNumber := c'.tcb.sequenceNumber + n } := by
  have counted (a : UInt32) : a + k₁ + n = a + n + k₁ := by grind
  exact h.setTcb { h.tcb with sequenceNumber := by rw [h.tcb.sequenceNumber, counted] }

/-- The connection goes on to `state` behind its own FIN. -/
theorem recordFin (state : TcpState)
    (their : c'.tcb.theirAcknowledgementNumber = c.tcb.theirAcknowledgementNumber + k₁) : Shifted k₁ k₂
    { c with
      tcb.finSequenceNumber := some c.tcb.sequenceNumber
      tcb.sequenceNumber := c.tcb.sequenceNumber + 1
      tcb.state := state }
    { c' with
      tcb.finSequenceNumber := some c'.tcb.sequenceNumber
      tcb.sequenceNumber := c'.tcb.sequenceNumber + 1
      tcb.state := state } := by
  have advanced := (h.advance 1).moveTo state fun _ => their
  exact advanced.setTcb { advanced.tcb with
    finSequenceNumber := congrArg some h.tcb.sequenceNumber }

theorem doHandleFin : Shifted k₁ k₂ c.doHandleFin c'.doHandleFin := by
  have consumed := (h.acknowledge 1).log .finConsumed
  have their (connected : c.tcb.state.isConnected = true) := h.tcb.theirAcknowledgementNumber connected
  unfold TcpConnection.doHandleFin
  dsimp only
  by_cases established : c.tcb.state = .established
  · rw [if_pos established, if_pos (h.tcb.state.trans established)]
    refine (consumed.sendEmptyPacketToClient (flagFin ||| flagAck)).recordFin .lastAck ?_
    simpa using their (by rw [established]; rfl)
  rw [if_neg established, if_neg (h.unlike established)]
  by_cases first : c.tcb.state = .finWait1
  · rw [if_pos first, if_pos (h.tcb.state.trans first)]
    refine (consumed.sendEmptyPacketToClient flagAck).moveTo .closing fun _ => ?_
    simpa using their (by rw [first]; rfl)
  rw [if_neg first, if_neg (h.unlike first)]
  by_cases second : c.tcb.state = .finWait2
  · rw [if_pos second, if_pos (h.tcb.state.trans second)]
    exact (consumed.sendEmptyPacketToClient flagAck).close
  · rw [if_neg second, if_neg (h.unlike second)]
    exact consumed

theorem handleFin : Shifted k₁ k₂ c.handleFin c'.handleFin := by
  have received : Shifted k₁ k₂ { c with tcb.finReceived := true } { c' with tcb.finReceived := true } :=
    h.setTcb { h.tcb with finReceived := rfl }
  have drained : c'.clientToNetwork.isEmpty = c.clientToNetwork.isEmpty := by rw [h.clientToNetwork]
  unfold TcpConnection.handleFin
  dsimp only
  by_cases empty : c.clientToNetwork.isEmpty = true
  · rw [if_pos empty, if_pos (drained.trans empty)]
    exact received.doHandleFin
  · rw [if_neg empty, if_neg (by rw [drained]; exact empty)]
    exact received

theorem handleFinAck : Shifted k₁ k₂ c.handleFinAck c'.handleFinAck := by
  unfold TcpConnection.handleFinAck
  rw [h.tcb.state]
  split
  · exact h.close
  · split
    · rename_i waiting
      exact h.moveTo .finWait2 fun _ => h.tcb.theirAcknowledgementNumber (by rw [waiting]; rfl)
    · exact h

theorem storePayload (s : Segment) : Shifted k₁ k₂ (c.storePayload s) (c'.storePayload (s.renumber k₁ k₂)) := by
  have stored := (h.acknowledge s.payload.length.toUInt32).log (.stored s.payload)
  exact { stored with clientToNetwork := congrArg (·.readFrom s.payload) h.clientToNetwork }

/-- The number that the device acknowledges was just taken over. -/
theorem handleAck (s : Segment)
    (their : c'.tcb.theirAcknowledgementNumber = c.tcb.theirAcknowledgementNumber + k₁) :
    Shifted k₁ k₂ (c.handleAck s) (c'.handleAck (s.renumber k₁ k₂)) := by
  have payload : (s.renumber k₁ k₂).payload = s.payload := rfl
  unfold TcpConnection.handleAck
  by_cases half : c.tcb.state = .synReceived
  · rw [if_pos half, if_pos (h.tcb.state.trans half)]
    exact h.moveTo .established fun _ => their
  rw [if_neg half, if_neg (h.unlike half), payload, h.clientToNetwork]
  split
  · exact h
  · split
    · exact h.sendEmptyPacketToClient flagAck
    · exact (h.storePayload s).sendEmptyPacketToClient flagAck

theorem takeAck (s : Segment) (their : c'.tcb.theirAcknowledgementNumber = c.tcb.theirAcknowledgementNumber + k₁) :
    Shifted k₁ k₂ (c.takeAck s) (c'.takeAck (s.renumber k₁ k₂)) := by
  have isAck : (s.renumber k₁ k₂).header.isAck = s.header.isAck := rfl
  unfold TcpConnection.takeAck
  rw [isAck]
  split
  · exact h.handleAck s their
  · exact h

theorem takeFin (s : Segment) : Shifted k₁ k₂ (c.takeFin s) (c'.takeFin (s.renumber k₁ k₂)) := by
  have isFin : (s.renumber k₁ k₂).header.isFin = s.header.isFin := rfl
  unfold TcpConnection.takeFin
  rw [isFin]
  split
  · exact h.handleFin
  · exact h

/-- The numbers on both sides of the test move together. -/
theorem checkFinAck (s : Segment) : Shifted k₁ k₂ (c.checkFinAck s) (c'.checkFinAck (s.renumber k₁ k₂)) := by
  unfold TcpConnection.checkFinAck
  rw [h.tcb.finSequenceNumber]
  cases c.tcb.finSequenceNumber with
  | none => exact h
  | some fin =>
    have test : (s.renumber k₁ k₂).header.acknowledgementNumber = fin + k₁ + 1 ↔
        s.header.acknowledgementNumber = fin + 1 := by
      show s.header.acknowledgementNumber + k₁ = fin + k₁ + 1 ↔ _
      grind
    dsimp only [Option.map_some]
    by_cases acked : s.header.acknowledgementNumber = fin + 1
    · rw [if_pos acked, if_pos (test.mpr acked)]
      exact h.handleFinAck
    · rw [if_neg acked, if_neg (mt test.mp acked)]
      exact h

theorem expectedPacket (s : Segment) :
    Shifted k₁ k₂ (c.expectedPacket s) (c'.expectedPacket (s.renumber k₁ k₂)) :=
  h.setTcb { h.tcb with
    clientWindow := rfl
    theirAcknowledgementNumber := fun _ => rfl }

theorem handleExpected (s : Segment) :
    Shifted k₁ k₂ (c.handleExpected s) (c'.handleExpected (s.renumber k₁ k₂)) := by
  have isRst : (s.renumber k₁ k₂).header.isRst = s.header.isRst := rfl
  have expected := h.expectedPacket s
  unfold TcpConnection.handleExpected
  rw [isRst]
  split
  · exact expected.close
  · exact ((expected.takeAck s rfl).takeFin s).checkFinAck s

theorem handleDuplicateSyn (s : Segment) :
    Shifted k₁ k₂ (c.handleDuplicateSyn s) (c'.handleDuplicateSyn (s.renumber k₁ k₂)) := by
  have test : (s.renumber k₁ k₂).header.sequenceNumber ≠ c'.tcb.synSequenceNumber ↔
      s.header.sequenceNumber ≠ c.tcb.synSequenceNumber := by
    rw [h.tcb.synSequenceNumber]
    show s.header.sequenceNumber + k₂ ≠ c.tcb.synSequenceNumber + k₂ ↔ _
    grind
  unfold TcpConnection.handleDuplicateSyn
  by_cases connecting : c.tcb.state = .synSent
  · rw [if_pos connecting, if_pos (h.tcb.state.trans connecting)]
    have counted (a : UInt32) : a + k₂ + 1 = a + 1 + k₂ := by grind
    exact h.setTcb { h.tcb with
      synSequenceNumber := rfl
      acknowledgementNumber := counted s.header.sequenceNumber }
  rw [if_neg connecting, if_neg (h.unlike connecting)]
  by_cases other : s.header.sequenceNumber ≠ c.tcb.synSequenceNumber
  · rw [if_pos other, if_pos (test.mpr other)]
    exact (h.sendEmptyPacketToClient flagRst).close
  · rw [if_neg other, if_neg (mt test.mp other)]
    exact h

/-- A device packet after the first one. -/
theorem handlePacket (s : Segment) (random random' : UInt32) (begun : c.tcb.state ≠ .init) :
    Shifted k₁ k₂ (c.handlePacket s random) (c'.handlePacket (s.renumber k₁ k₂) random') := by
  have isSyn : (s.renumber k₁ k₂).header.isSyn = s.header.isSyn := rfl
  have distance : (s.renumber k₁ k₂).header.sequenceNumber - c'.tcb.acknowledgementNumber =
      s.header.sequenceNumber - c.tcb.acknowledgementNumber := by
    rw [h.tcb.acknowledgementNumber]
    show s.header.sequenceNumber + k₂ - (c.tcb.acknowledgementNumber + k₂) = _
    grind
  have test : (s.renumber k₁ k₂).header.sequenceNumber ≠ c'.tcb.acknowledgementNumber ↔
      s.header.sequenceNumber ≠ c.tcb.acknowledgementNumber := by
    rw [h.tcb.acknowledgementNumber]
    show s.header.sequenceNumber + k₂ ≠ c.tcb.acknowledgementNumber + k₂ ↔ _
    grind
  unfold TcpConnection.handlePacket
  rw [if_neg begun, if_neg (h.unlike begun), isSyn, distance]
  split
  · exact h.handleDuplicateSyn s
  by_cases unexpected : s.header.sequenceNumber ≠ c.tcb.acknowledgementNumber
  · rw [if_pos unexpected, if_pos (test.mpr unexpected)]
    split
    · exact h.sendEmptyPacketToClient flagAck
    · exact h
  · rw [if_neg unexpected, if_neg (mt test.mp unexpected)]
    exact h.handleExpected s

/-! ### The network side -/

theorem eof (connected : c.tcb.state.isConnected = true) : Shifted k₁ k₂ c.eof c'.eof := by
  have counted := (h.acknowledge 1).log .eof
  refine (counted.sendEmptyPacketToClient (flagFin ||| flagAck)).recordFin .finWait1 ?_
  simpa using h.tcb.theirAcknowledgementNumber connected

theorem processConnect : Shifted k₁ k₂ c.processConnect c'.processConnect :=
  ((h.moveTo .synReceived nofun).sendEmptyPacketToClient (flagSyn ||| flagAck)).advance 1

theorem flushPendingPacket :
    (∃ d d', c.flushPendingPacket = .ok d ∧ c'.flushPendingPacket = .ok d' ∧ Shifted k₁ k₂ d d') ∨
    c.flushPendingPacket = .error .wouldBlock ∧ c'.flushPendingPacket = .error .wouldBlock := by
  have pending := h.pending
  unfold TcpConnection.flushPendingPacket
  rw [h.packetForClientLength]
  cases waiting : c.packetForClientLength with
  | none => exact Or.inl ⟨_, _, rfl, rfl, h⟩
  | some len =>
    dsimp only
    rw [(pending len waiting).2, h.buffer.remaining]
    rcases sendPacketToBuffer_renumber k₁ k₂ h.buffer (c.networkToClient.inflate len) with
      ⟨sent, sent', first, second, fill⟩ | ⟨first, second⟩
    · rw [first, second]
      exact Or.inl ⟨_, _, rfl, rfl, { (h.advance len.toUInt32).log (.appended (c.networkToClient.inflate len)
        c.buffer.remaining) with
        buffer := fill
        packetForClientLength := rfl
        pending := nofun }⟩
    · rw [first, second]
      exact Or.inr ⟨rfl, rfl⟩

/-- The socket is offered the same bytes. -/
theorem processSend (answer : WriteAnswer) : Shifted k₁ k₂ (c.processSend answer).1 (c'.processSend answer).1 ∧
    (c'.processSend answer).2 = (c.processSend answer).2 := by
  have drained (buffer : StreamBuffer) : (c'.tcb.finReceived && buffer.isEmpty) = (c.tcb.finReceived && buffer.isEmpty) := by
    rw [h.tcb.finReceived]
  unfold TcpConnection.processSend
  rw [h.clientToNetwork]
  cases c.clientToNetwork.writeTo answer with
  | ok result =>
    obtain ⟨buffer, bytes⟩ := result
    have written : Shifted k₁ k₂ { c with clientToNetwork := buffer, history := c.history ++ [Effect.written bytes] }
        { c' with clientToNetwork := buffer, history := c'.history ++ [Effect.written bytes] } :=
      { h.log (.written bytes) with clientToNetwork := rfl }
    dsimp only
    rw [drained]
    split
    · split
      · exact ⟨written.doHandleFin, rfl⟩
      · exact ⟨written.sendEmptyPacketToClient flagAck, rfl⟩
    · exact ⟨written.close, rfl⟩
  | error e =>
    cases e with
    | wouldBlock => exact ⟨h, rfl⟩
    | other => exact ⟨(h.sendEmptyPacketToClient flagRst).close, rfl⟩

/-- The packetizer may be rebuilt while nothing is deferred. -/
theorem setPacketizer (free : c.packetForClientLength = none) {p p' : Packetizer} (alike : Packetizer.Alike p p') :
    Shifted k₁ k₂ { c with networkToClient := p } { c' with networkToClient := p' } :=
  { h with
    networkToClient := alike
    pending := fun len waiting => nomatch (free.symm.trans waiting : none = some len) }

theorem receiveOne (answer : ReadAnswer) (free : c.packetForClientLength = none)
    (connected : c.tcb.state.isConnected = true) :
    Shifted k₁ k₂ (c.receiveOne answer).1 (c'.receiveOne answer).1 ∧
      (c'.receiveOne answer).2 = (c.receiveOne answer).2 := by
  have ready := h.networkToClient.updateHeaders h.tcb.moved (flagAck ||| flagPsh) c.advertisedWindow
  have reads := ready.packetizeRead answer c.maxPayload_lt
  unfold TcpConnection.receiveOne
  dsimp only
  rw [h.advertisedWindow, h.tcb.remainingClientWindow connected]
  generalize (updateHeaders c.networkToClient c.tcb (flagAck ||| flagPsh) c.advertisedWindow).packetizeRead answer
    (some (min c.tcb.remainingClientWindow.toNat maxPayloadLength)) = result at reads ⊢
  generalize (updateHeaders c'.networkToClient c'.tcb (flagAck ||| flagPsh) c.advertisedWindow).packetizeRead answer
    (some (min c.tcb.remainingClientWindow.toNat maxPayloadLength)) = result' at reads ⊢
  cases reads with
  | failed e =>
    cases e with
    | wouldBlock => exact ⟨h.setPacketizer free ready.toAlike, rfl⟩
    | other => exact ⟨((h.setPacketizer free ready.toAlike).sendEmptyPacketToClient flagRst).close, rfl⟩
  | @ended p p' alike => exact ⟨(h.setPacketizer free alike).eof connected, rfl⟩
  | @built p p' packet alike payload long again =>
    have received := (h.setPacketizer free alike).log (.received (packet.raw.drop p.payloadIndex))
    dsimp only
    rw [alike.payloadIndex, payload, h.buffer.remaining, IpPacket.length_renumber]
    rcases sendPacketToBuffer_renumber k₁ k₂ h.buffer packet with
      ⟨sent, sent', first, second, fill⟩ | ⟨first, second⟩
    · rw [first, second]
      exact ⟨{ (received.advance (packet.raw.drop p.payloadIndex).length.toUInt32).log (.appended packet
        c.buffer.remaining) with buffer := fill }, rfl⟩
    · rw [first, second]
      refine ⟨{ received.log (.deferred packet) with
        packetForClientLength := rfl
        pending := ?_ }, rfl⟩
      intro len same
      cases same
      exact ⟨long, again⟩

end Shifted

/-! ### Polls -/

theorem receiveLoop_shifted (n : Nat) (h : Shifted k₁ k₂ c c') (reads : List ReadAnswer) (madeProgress : Bool)
    (established : c.tcb.state = .established) :
    Shifted k₁ k₂ (receiveLoop n c reads madeProgress).1 (receiveLoop n c' reads madeProgress).1 ∧
      (receiveLoop n c' reads madeProgress).2 = (receiveLoop n c reads madeProgress).2 := by
  induction n generalizing c c' reads madeProgress with
  | zero => exact ⟨h, rfl⟩
  | succ n ih =>
    have connected : c.tcb.state.isConnected = true := by
      rw [established]
      rfl
    unfold receiveLoop
    rw [h.packetForClientLength, h.tcb.remainingClientWindow connected]
    by_cases pending : c.packetForClientLength.isSome = true
    · rw [if_pos pending, if_pos pending]
      exact ⟨h, rfl⟩
    rw [if_neg pending, if_neg pending]
    by_cases empty : c.tcb.remainingClientWindow = 0
    · rw [if_pos empty, if_pos empty]
      exact ⟨h, rfl⟩
    rw [if_neg empty, if_neg empty]
    have free : c.packetForClientLength = none := by simpa using pending
    have turn := h.receiveOne (reads.headD (.error .wouldBlock)) free connected
    have state := (receiveOne_state c (reads.headD (.error .wouldBlock)) free established).2
    rcases first : c.receiveOne (reads.headD (.error .wouldBlock)) with ⟨d, how⟩
    rcases second : c'.receiveOne (reads.headD (.error .wouldBlock)) with ⟨d', how'⟩
    rw [first, second] at turn
    rw [first] at state
    obtain ⟨shifted, rfl⟩ := turn
    cases how' with
    | again => exact ih shifted reads.tail true (state rfl).2
    | leave progress => exact ⟨shifted, rfl⟩

theorem processReceive_shifted (h : Shifted k₁ k₂ c c') (reads : List ReadAnswer)
    (established : c.tcb.state = .established) :
    Shifted k₁ k₂ (c.processReceive reads).1 (c'.processReceive reads).1 ∧
      (c'.processReceive reads).2 = (c.processReceive reads).2 := by
  obtain ⟨shifted, progress⟩ := receiveLoop_shifted maxPacketsPerPoll h reads false established
  unfold processReceive
  dsimp only
  rw [progress]
  exact ⟨shifted, rfl⟩

/-- Both polls go on with the same progress, or both return the same. -/
inductive StageShifted (k₁ k₂ : UInt32) : Stage → Stage → Prop where
  | goesOn {c c' : TcpConnection} (h : Shifted k₁ k₂ c c') (madeProgress : Bool) :
      StageShifted k₁ k₂ (.ok (c, madeProgress)) (.ok (c', madeProgress))
  | returns {c c' : TcpConnection} (h : Shifted k₁ k₂ c c') (result : Except ErrorKind Unit) :
      StageShifted k₁ k₂ (.error (c, result)) (.error (c', result))

theorem StageShifted.bind {s s' : Stage} {f f' : TcpConnection × Bool → Stage} (h : StageShifted k₁ k₂ s s')
    (next : ∀ c c' madeProgress, Shifted k₁ k₂ c c' → StageShifted k₁ k₂ (f (c, madeProgress)) (f' (c', madeProgress))) :
    StageShifted k₁ k₂ (s >>= f) (s' >>= f') := by
  cases h with
  | goesOn h madeProgress => exact next _ _ madeProgress h
  | returns h result => exact .returns h result

theorem pollResult_shifted {r r' : TcpConnection × Except ErrorKind Unit} (h : Shifted k₁ k₂ r.1 r'.1)
    (same : r'.2 = r.2) (madeProgress : Bool) :
    StageShifted k₁ k₂ (pollResult madeProgress r) (pollResult madeProgress r') := by
  obtain ⟨c, result⟩ := r
  obtain ⟨c', result'⟩ := r'
  cases same
  rcases result with (_ | _) | _
  · exact .goesOn h madeProgress
  · exact .returns (h.sendEmptyPacketToClient flagRst).close (.ok ())
  · exact .goesOn h true

namespace Shifted
variable (h : Shifted k₁ k₂ c c')
include h

theorem pollFlush : StageShifted k₁ k₂ c.pollFlush c'.pollFlush := by
  unfold TcpConnection.pollFlush
  rw [h.packetForClientLength]
  split
  · rcases h.flushPendingPacket with ⟨d, d', first, second, shifted⟩ | ⟨first, second⟩ <;> rw [first, second]
    · exact .goesOn shifted true
    · exact .returns h _
  · exact .goesOn h false

theorem pollSend (answer : WriteAnswer) (madeProgress : Bool) :
    StageShifted k₁ k₂ (c.pollSend answer madeProgress) (c'.pollSend answer madeProgress) := by
  unfold TcpConnection.pollSend mayWrite
  rw [h.clientToNetwork]
  split
  · obtain ⟨shifted, same⟩ := h.processSend answer
    exact pollResult_shifted shifted same madeProgress
  · exact .goesOn h madeProgress

theorem mayRead : c'.mayRead = c.mayRead := by
  unfold TcpConnection.mayRead
  rw [h.tcb.state, h.packetForClientLength]
  by_cases connected : c.tcb.state.isConnected = true
  · rw [h.tcb.remainingClientWindow connected]
  · simp [connected]

theorem pollReceive (reads : List ReadAnswer) (madeProgress : Bool) :
    StageShifted k₁ k₂ (c.pollReceive reads madeProgress) (c'.pollReceive reads madeProgress) := by
  unfold TcpConnection.pollReceive
  rw [h.closed, h.mayRead]
  split
  · rename_i may
    rw [Bool.and_eq_true] at may
    obtain ⟨shifted, same⟩ := processReceive_shifted h reads (mayRead_established may.2)
    exact pollResult_shifted shifted same madeProgress
  · exact .goesOn h madeProgress

theorem pollConnect (answer : Except ErrorKind Unit) (madeProgress : Bool) :
    StageShifted k₁ k₂ (c.pollConnect answer madeProgress) (c'.pollConnect answer madeProgress) := by
  unfold TcpConnection.pollConnect
  by_cases connecting : c.tcb.state = .synSent
  · rw [if_pos connecting, if_pos (h.tcb.state.trans connecting)]
    rcases answer with (_ | _) | _
    · exact .goesOn h madeProgress
    · exact .returns h.close (.ok ())
    · exact .goesOn h.processConnect true
  · rw [if_neg connecting, if_neg (h.unlike connecting)]
    exact .goesOn h madeProgress

theorem pollStages (a : PollAnswers) : StageShifted k₁ k₂ (c.pollStages a) (c'.pollStages a) := by
  apply h.pollFlush.bind
  intro flushed flushed' m₁ h₁
  apply (h₁.pollSend a.send m₁).bind
  intro sent sent' m₂ h₂
  apply (h₂.pollReceive a.reads m₂).bind
  intro received received' m₃ h₃
  exact h₃.pollConnect a.connect m₃

theorem pollSelf (a : PollAnswers) : Shifted k₁ k₂ (c.pollSelf a).1 (c'.pollSelf a).1 ∧
    (c'.pollSelf a).2 = (c.pollSelf a).2 := by
  have stages := h.pollStages a
  unfold TcpConnection.pollSelf
  rw [h.closed]
  split
  · exact ⟨h, rfl⟩
  · generalize c.pollStages a = s at stages ⊢
    generalize c'.pollStages a = s' at stages ⊢
    cases stages with
    | goesOn shifted madeProgress => cases madeProgress <;> exact ⟨shifted, rfl⟩
    | returns shifted result => exact ⟨shifted, rfl⟩

end Shifted

/-! ### Creation -/

section Reference
variable {h g : TcpHeader}

/-- The reference header of a connection. -/
def shrinked (h : TcpHeader) : TcpHeader := ({ raw := h.raw.take 20, data := h.data } : TcpHeader).shrinkOptions

theorem shrinkHeader_eq (long : 20 ≤ h.raw.length) : shrinkHeader h = .ok (shrinked h) := by
  rw [shrinkHeader, sliceTo, if_pos long]
  rfl

/-- The header is cut behind what is written, and its data offset lies elsewhere. -/
theorem shrinked_overwrite (long : 20 ≤ h.raw.length) {k : Nat} (source : List UInt8) (inside : k + source.length ≤ 20)
    (apart : k + source.length ≤ 12 ∨ 14 ≤ k) (n : UInt32) :
    shrinked { raw := overwrite h.raw k source, data := { h.data with sequenceNumber := n } } =
      { raw := overwrite (shrinked h).raw k source, data := { (shrinked h).data with sequenceNumber := n } } := by
  have length : (h.raw.take 20).length = 20 := by
    rw [List.length_take]
    omega
  have word : u16At (overwrite (h.raw.take 20) k source) 12 = u16At (h.raw.take 20) 12 :=
    u16At_overwrite_other (by omega) (by omega)
  simp only [shrinked, TcpHeader.shrinkOptions, TcpHeader.setDataOffset, take_overwrite_inside inside long, word]
  congr 1
  exact overwrite_comm (by omega) (show 12 + 2 ≤ (h.raw.take 20).length by omega) apart

theorem swap_overwrite (swapped : h.swapSourceAndDestination = .ok g) {k : Nat} (behind : 4 ≤ k) (source : List UInt8)
    (fits : k + source.length ≤ h.raw.length) (n : UInt32) :
    ({ raw := overwrite h.raw k source, data := { h.data with sequenceNumber := n } } :
        TcpHeader).swapSourceAndDestination =
      .ok { raw := overwrite g.raw k source, data := { g.data with sequenceNumber := n } } := by
  obtain ⟨raw, inner, same⟩ := bind_ok swapped
  cases same
  rw [TcpHeader.swapSourceAndDestination, swapRange_overwrite inner source (by omega) (by omega) fits]
  rfl

theorem blank_setSequenceNumber (long : 20 ≤ h.raw.length) (n : UInt32) (checksum : UInt16) :
    ((h.setSequenceNumber n).setChecksum checksum).blank = h.blank := by
  have again : writeU32 (writeU32 (h.setChecksum 0).raw 4 n) 4 0 = writeU32 (h.setChecksum 0).raw 4 0 :=
    overwrite_again rfl (show 4 + 4 ≤ (h.setChecksum 0).raw.length by rw [TcpHeader.length_setChecksum]; omega)
  rw [TcpHeader.blank, TransportHeader.setChecksum_again (by rw [TcpHeader.setSequenceNumber, length_writeU32]; omega),
    TcpHeader.setChecksum_setSequenceNumber long]
  show TcpHeader.mk (writeU32 (writeU32 (writeU32 (h.setChecksum 0).raw 4 n) 4 0) 8 0) _ = _
  rw [again]
  rfl

end Reference

theorem new_alike {ip : IpHeader} {g : TcpHeader} {p p' : Packetizer} {n : UInt32} {checksum : UInt16}
    (twenty : g.data.headerLength = 20) (new : Packetizer.new ip (.tcp g) = .ok p)
    (new' : Packetizer.new ip (.tcp ((g.setSequenceNumber n).setChecksum checksum)) = .ok p') : Packetizer.Alike p p' := by
  have long : 20 ≤ g.raw.length := by
    have stated : g.raw.length = g.data.headerLength.toNat := ((Packetizer.new_isOk _ _).mp ⟨p, new⟩).1.2
    rw [stated, twenty]
    decide
  obtain ⟨ipSwap, swap, rest⟩ := Packetizer.new_parts new
  obtain ⟨ipSwap', swap', rest'⟩ := Packetizer.new_parts new'
  have ip' : p'.ipHeader = p.ipHeader := Except.ok.inj (ipSwap'.symm.trans ipSwap)
  have payloadIndex : p'.payloadIndex = p.payloadIndex :=
    (Packetizer.new_payloadIndex new').trans (Packetizer.new_payloadIndex new).symm
  have transportIndex : p'.transportIndex = p.transportIndex := by
    rw [← p'.length_raw_ipHeader, ip', p.length_raw_ipHeader]
  obtain ⟨t, swapped, same⟩ := bind_ok swap
  have transport : p.transportHeader = .tcp t := (Except.ok.inj same).symm
  have long' : 20 ≤ t.raw.length := by
    have kept := (TransportHeader.swap_length swap).1
    rw [transport] at kept
    exact Nat.le_trans long (Nat.le_of_eq kept.symm)
  have numbered : (g.setSequenceNumber n).swapSourceAndDestination = .ok (t.setSequenceNumber n) :=
    swap_overwrite swapped (Nat.le_refl 4) (beBytes32 n) (show 4 + 4 ≤ g.raw.length by omega) n
  have fits : 16 + 2 ≤ (g.setSequenceNumber n).raw.length := by
    rw [TcpHeader.setSequenceNumber, length_writeU32]
    omega
  have moved : ((g.setSequenceNumber n).setChecksum checksum).swapSourceAndDestination =
      .ok ((t.setSequenceNumber n).setChecksum checksum) :=
    swap_overwrite numbered (show 4 ≤ 16 by omega) (beBytes16 checksum) fits n
  have transport' : p'.transportHeader = .tcp ((t.setSequenceNumber n).setChecksum checksum) := by
    rw [TransportHeader.swapSourceAndDestination, moved] at swap'
    exact (Except.ok.inj swap').symm
  have kept : t.data.headerLength = 20 := by
    obtain ⟨raw, _, made⟩ := bind_ok swapped
    cases made
    exact twenty
  refine ⟨transportIndex, payloadIndex, ip', ?_, _, _, transport, transport', blank_setSequenceNumber long' n checksum,
    kept, kept⟩
  rw [rest, ← payloadIndex, rest']

theorem create_new {buffer : StreamBuffer} {ipHeader : IpHeader} {h : TcpHeader} {c : TcpConnection}
    (long : 20 ≤ h.raw.length) (created : create buffer ipHeader (.tcp h) = .ok c) :
    Packetizer.new ipHeader (.tcp (shrinked h)) = .ok c.networkToClient := by
  rw [create, shrinkHeader_eq long, ok_bind] at created
  obtain ⟨p, new, same⟩ := bind_ok created
  cases same
  exact new

/-- A SYN with another number makes a packetizer that is alike. -/
theorem create_alike {buffer : StreamBuffer} (buffer' : StreamBuffer) {ipHeader : IpHeader} {h : TcpHeader}
    {c₀ : TcpConnection} (created : create buffer ipHeader (.tcp h) = .ok c₀) (n : UInt32) (checksum : UInt16) :
    ∃ c₀', create buffer' ipHeader (.tcp ((h.setSequenceNumber n).setChecksum checksum)) = .ok c₀' ∧
      Packetizer.Alike c₀.networkToClient c₀'.networkToClient := by
  obtain ⟨long, stated, least⟩ := (create_isOk buffer ipHeader h).mp ⟨c₀, created⟩
  have long₁ : 20 ≤ (h.setSequenceNumber n).raw.length := by
    rw [TcpHeader.setSequenceNumber, length_writeU32]
    exact long
  have long₂ : 20 ≤ ((h.setSequenceNumber n).setChecksum checksum).raw.length := by
    rw [TcpHeader.length_setChecksum]
    exact long₁
  obtain ⟨c₀', created'⟩ := (create_isOk buffer' ipHeader _).mpr ⟨long₂, stated, least⟩
  have numbered : shrinked (h.setSequenceNumber n) = (shrinked h).setSequenceNumber n :=
    shrinked_overwrite long (beBytes32 n) (show 4 + 4 ≤ 20 by omega) (Or.inl (show 4 + 4 ≤ 12 by omega)) n
  have checked : shrinked ((h.setSequenceNumber n).setChecksum checksum) =
      (shrinked (h.setSequenceNumber n)).setChecksum checksum :=
    shrinked_overwrite long₁ (beBytes16 checksum) (show 16 + 2 ≤ 20 by omega) (Or.inr (show 14 ≤ 16 by omega)) n
  have new' := create_new long₂ created'
  rw [checked, numbered] at new'
  exact ⟨c₀', created', new_alike rfl (create_new long created) new'⟩

/-! ### Runs -/

theorem begun_of_moves {state state' : TcpState} (moves : Relation.ReflTransGen TcpState.Moves state state')
    (begun : state ≠ .init) : state' ≠ .init := by
  cases moves with
  | refl => exact begun
  | tail _ last => cases last <;> nofun

theorem Shifted.step (h : Shifted k₁ k₂ c c') (begun : c.tcb.state ≠ .init) {event event' : Event}
    (renumbered : Event.Renumbered k₁ k₂ event event') : Shifted k₁ k₂ (c.step event) (c'.step event') := by
  cases renumbered with
  | packet s random random' => exact h.handlePacket s random random' begun
  | poll answers => exact (h.pollSelf answers).1
  | shared same => exact { h with buffer := same }

theorem step_syn (buffer : StreamBuffer) (p : Packetizer) {s : Segment} (isSyn : s.header.isSyn = true) (random : UInt32) :
    (fresh buffer p).step (.packet s random) = { fresh buffer p with
      tcb.acknowledgementNumber := s.header.sequenceNumber + 1
      tcb.synSequenceNumber := s.header.sequenceNumber
      tcb.sequenceNumber := random
      tcb.clientWindow := s.header.window
      tcb.state := .synSent } := by
  rw [TcpConnection.step, handlePacket, if_pos (show (fresh buffer p).tcb.state = .init from rfl), handleFirstPacket,
    if_pos isSyn]

/-- The first packet sets the numbers that the others are compared with. -/
theorem shifted_syn {buffer buffer' : StreamBuffer} (fill : buffer.SameFill buffer') {p p' : Packetizer}
    (alike : Packetizer.Alike p p') {s s' : Segment} (isSyn : s.header.isSyn = true)
    (moved : s'.header = { s.header with sequenceNumber := s.header.sequenceNumber + k₂ }) (random : UInt32) :
    Shifted k₁ k₂ ((fresh buffer p).step (.packet s random)) ((fresh buffer' p').step (.packet s' (random + k₁))) := by
  have counted (a : UInt32) : a + k₂ + 1 = a + 1 + k₂ := by grind
  have isSyn' : s'.header.isSyn = true := by
    rw [moved]
    exact isSyn
  rw [step_syn buffer p isSyn, step_syn buffer' p' isSyn', moved]
  exact {
    tcb := {
      state := rfl
      synSequenceNumber := rfl
      sequenceNumber := rfl
      acknowledgementNumber := counted s.header.sequenceNumber
      theirAcknowledgementNumber := nofun
      finSequenceNumber := rfl
      finReceived := rfl
      clientWindow := rfl }
    buffer := fill
    clientToNetwork := rfl
    networkToClient := alike
    packetForClientLength := rfl
    pending := nofun
    closed := rfl
    history := rfl }

theorem run_shifted (h : Shifted k₁ k₂ c c') (begun : c.tcb.state ≠ .init) {events events' : List Event}
    (renumbered : List.Forall₂ (Event.Renumbered k₁ k₂) events events') :
    Shifted k₁ k₂ (run step c events) (run step c' events') := by
  have simulate (c c' : TcpConnection) (event event' : Event) (related : Shifted k₁ k₂ c c' ∧ c.tcb.state ≠ .init)
      (same : Event.Renumbered k₁ k₂ event event') :
      Shifted k₁ k₂ (c.step event) (c'.step event') ∧ (c.step event).tcb.state ≠ .init :=
    ⟨related.1.step related.2 same, begun_of_moves (step_advances c event).moves related.2⟩
  exact (run_simulation simulate renumbered ⟨h, begun⟩).1

theorem Shifted.bytes (h : Shifted k₁ k₂ c c') : writtenBytes c'.history = writtenBytes c.history ∧
    receivedBytes c'.history = receivedBytes c.history := by
  have written (e : Effect) : (e.renumber k₁ k₂).writtenBytes = e.writtenBytes := by cases e <;> rfl
  have received (e : Effect) : (e.renumber k₁ k₂).receivedBytes = e.receivedBytes := by cases e <;> rfl
  rw [writtenBytes, writtenBytes, receivedBytes, receivedBytes, h.history, List.flatMap_map, List.flatMap_map]
  simp only [written, received, and_self]

/-- Moving the device's numbers by `k₂` and the relay's by `k₁` moves the numbers of the packets that are
sent and changes nothing else, at any point of any run. -/
theorem number_space (k₁ k₂ : UInt32) {buffer buffer' : StreamBuffer} (fill : buffer.SameFill buffer')
    {ipHeader : IpHeader} {syn : TcpHeader} (isSyn : syn.data.isSyn = true) {c₀ : TcpConnection}
    (created : create buffer ipHeader (.tcp syn) = .ok c₀) (checksum : UInt16) (payload : List UInt8)
    (random : UInt32) {events events' : List Event}
    (renumbered : List.Forall₂ (Event.Renumbered k₁ k₂) events events') :
    let syn' := (syn.setSequenceNumber (syn.data.sequenceNumber + k₂)).setChecksum checksum
    ∃ c₀', create buffer' ipHeader (.tcp syn') = .ok c₀' ∧ ∀ n,
      let c := run step c₀ (.packet ⟨syn.data, payload⟩ random :: events.take n)
      let c' := run step c₀' (.packet ⟨syn'.data, payload⟩ (random + k₁) :: events'.take n)
      c'.tcb.state = c.tcb.state ∧ c'.closed = c.closed ∧
        writtenBytes c'.history = writtenBytes c.history ∧ receivedBytes c'.history = receivedBytes c.history ∧
        c'.history = c.history.map (Effect.renumber k₁ k₂) ∧ Tcb.Shifted k₁ k₂ c.tcb c'.tcb := by
  intro syn'
  obtain ⟨c₀', created', alike⟩ := create_alike buffer' created (syn.data.sequenceNumber + k₂) checksum
  refine ⟨c₀', created', fun n => ?_⟩
  have first : Shifted k₁ k₂ (c₀.step (.packet ⟨syn.data, payload⟩ random))
      (c₀'.step (.packet ⟨syn'.data, payload⟩ (random + k₁))) := by
    rw [create_eq created, create_eq created']
    exact shifted_syn fill alike isSyn rfl random
  have begun : (c₀.step (.packet ⟨syn.data, payload⟩ random)).tcb.state ≠ .init := by
    rw [create_eq created, step_syn _ _ isSyn]
    nofun
  have last := run_shifted first begun (List.forall₂_take n renumbered)
  exact ⟨last.tcb.state, last.closed, last.bytes.1, last.bytes.2, last.history, last.tcb⟩

/-- A handshake whose numbers start at the end of the space. -/
theorem number_space_handshake : ∃ c₀ c₀' : TcpConnection,
    create (.new 4096) Sample.ipHeader Sample.tcpHeader = .ok c₀ ∧
      let c := run step c₀ Sample.handshake
      let c' := run step c₀' [.packet (Sample.segment 0xFFFFFFFF 0 flagSyn []) 0xFFFFFFFF,
        .poll { connect := .ok () }, .packet (Sample.segment 0 0 flagAck []) 0]
      c'.tcb.state = .established ∧ c'.tcb.sequenceNumber = 0 ∧
        c'.history = c.history.map (Effect.renumber 0xFFFFFFF8 0xFFFFFF9B) := by
  obtain ⟨c₀, created⟩ := Sample.created (.new 4096)
  have moved : (Sample.segment 101 8 flagAck []).renumber 0xFFFFFFF8 0xFFFFFF9B = Sample.segment 0 0 flagAck [] := by
    simp [Segment.renumber, Sample.segment]
  have renumbered : List.Forall₂ (Event.Renumbered 0xFFFFFFF8 0xFFFFFF9B)
      [.poll { connect := .ok () }, .packet (Sample.segment 101 8 flagAck []) 0]
      [.poll { connect := .ok () }, .packet (Sample.segment 0 0 flagAck []) 0] := by
    have last : Event.Renumbered 0xFFFFFFF8 0xFFFFFF9B (.packet (Sample.segment 101 8 flagAck []) 0) _ := .packet _ 0 0
    rw [moved] at last
    exact .cons (.poll _) (.cons last .nil)
  have fill : StreamBuffer.SameFill (.new 4096) (.new 4096) := ⟨rfl, rfl⟩
  let syn : TcpHeader := { raw := Sample.rawTcpHeader, data := .ofRaw Sample.rawTcpHeader }
  have syn₁ : Segment.mk syn.data [] = Sample.segment 100 0 flagSyn [] := rfl
  have syn₂ : Segment.mk ((syn.setSequenceNumber (syn.data.sequenceNumber + 0xFFFFFF9B)).setChecksum 0).data [] =
      Sample.segment 0xFFFFFFFF 0 flagSyn [] := congrArg (Segment.mk · []) (by decide)
  have random : (7 : UInt32) + 0xFFFFFFF8 = 0xFFFFFFFF := by decide
  obtain ⟨c₀', _, same⟩ := number_space 0xFFFFFFF8 0xFFFFFF9B fill (show syn.data.isSyn = true by decide) created 0 []
    7 renumbered
  have whole := same 2
  rw [syn₁, syn₂, random, List.take_of_length_le (Nat.le_refl 2), List.take_of_length_le (Nat.le_refl 2)] at whole
  obtain ⟨state, _, _, _, history, tcb⟩ := whole
  obtain ⟨buffer, e, _, reached⟩ := Sample.run_handshake (.new 4096) c₀.networkToClient
  rw [← create_eq created] at reached
  have established : (run step c₀ Sample.handshake).tcb = Sample.establishedTcb := by
    rw [reached]
    rfl
  have established' : (run step c₀ Sample.handshake).tcb.sequenceNumber + 0xFFFFFFF8 = 0 := by
    rw [established]
    decide
  exact ⟨c₀, c₀', created, state.trans (congrArg Tcb.state established), tcb.sequenceNumber.trans established', history⟩

end TcpConnection

end Gnirehtet.Relay
