import Gnirehtet.Tcp.Header
import Mathlib.Logic.Basic
import Mathlib.Tactic.ByContra

/-!
# Deferred packets

A packet that the shared buffer cannot take is deferred: the connection keeps its length, and its
bytes stay in the packetizer's buffer. Whatever builds a packet in between overwrites them. As long
as nothing does, the flush appends the deferred packet, and the shared buffer holds whole packets.
-/

namespace Gnirehtet.Relay
open Lib Relation

def Effect.deferredPacket : Effect → Option IpPacket
  | .deferred packet => some packet
  | _ => none

def lastDeferred (history : List Effect) : Option IpPacket := history.reverse.findSome? Effect.deferredPacket

/-- Neither in the shared buffer nor in the packetizer does the effect leave a packet. -/
def Effect.isSilent : Effect → Bool
  | .appended _ _ => false
  | .deferred _ => false
  | _ => true

@[simp] theorem appendedBytes_append (history more : List Effect) :
    appendedBytes (history ++ more) = appendedBytes history ++ appendedBytes more := by
  simp [appendedBytes]

theorem lastDeferred_concat (history : List Effect) (e : Effect) :
    lastDeferred (history ++ [e]) = (e.deferredPacket).or (lastDeferred history) := by
  simp only [lastDeferred, List.reverse_append, List.reverse_singleton, List.singleton_append,
    List.findSome?_cons]
  cases e <;> rfl

theorem lastDeferred_silent {history effects : List Effect} (silent : ∀ e ∈ effects, e.isSilent = true) :
    lastDeferred (history ++ effects) = lastDeferred history := by
  have nothing : ∀ e ∈ effects.reverse, e.deferredPacket = none := by
    intro e member
    have := silent e (List.mem_reverse.mp member)
    cases e <;> simp_all [Effect.isSilent, Effect.deferredPacket]
  rw [lastDeferred, List.reverse_append, List.findSome?_append, List.findSome?_eq_none_iff.mpr nothing]
  rfl

theorem appendedBytes_silent {effects : List Effect} (silent : ∀ e ∈ effects, e.isSilent = true) :
    appendedBytes effects = [] := by
  rw [appendedBytes, List.flatMap_eq_nil_iff]
  intro e member
  have := silent e member
  cases e <;> simp_all [Effect.isSilent, Effect.appendedBytes]

namespace TcpConnection
open Packetizer (Whole)

/-! ### The invariant -/

/-- A deferred packet lies untouched in the packetizer, and what was appended are whole packets that
had room. -/
structure Intact (c : TcpConnection) : Prop where
  versioned : c.networkToClient.Versioned
  pending : ∀ len, c.packetForClientLength = some len → ∃ packet, lastDeferred c.history = some packet ∧
    c.networkToClient.inflate len = packet ∧ packet.length = len ∧ Whole packet
  sent : ∀ packet room, Effect.appended packet room ∈ c.history → Whole packet ∧ packet.raw.length ≤ room

def Appends (c c' : TcpConnection) : Prop :=
  ∃ effects, c'.history = c.history ++ effects ∧
    c'.buffer.content = c.buffer.content ++ appendedBytes effects

theorem Appends.refl (c : TcpConnection) : Appends c c := ⟨[], by simp, by simp [appendedBytes]⟩

theorem Appends.trans {a b c : TcpConnection} (h : Appends a b) (h' : Appends b c) : Appends a c := by
  obtain ⟨effects, history, content⟩ := h
  obtain ⟨more, history', content'⟩ := h'
  exact ⟨effects ++ more, by rw [history', history, List.append_assoc],
    by rw [content', content, appendedBytes_append, List.append_assoc]⟩

/-- What `Intact` reads is left alone. -/
structure Quiet (c c' : TcpConnection) : Prop where
  networkToClient : c'.networkToClient = c.networkToClient
  packetForClientLength : c'.packetForClientLength = c.packetForClientLength
  buffer : c'.buffer = c.buffer
  history : ∃ effects, c'.history = c.history ++ effects ∧ ∀ e ∈ effects, e.isSilent = true

theorem Quiet.refl (c : TcpConnection) : Quiet c c := ⟨rfl, rfl, rfl, [], by simp, by simp⟩

theorem Quiet.trans {a b c : TcpConnection} (h : Quiet a b) (h' : Quiet b c) : Quiet a c := by
  obtain ⟨effects, history, silent⟩ := h.history
  obtain ⟨more, history', silent'⟩ := h'.history
  refine ⟨h'.networkToClient.trans h.networkToClient, h'.packetForClientLength.trans h.packetForClientLength,
    h'.buffer.trans h.buffer, effects ++ more, by rw [history', history, List.append_assoc], ?_⟩
  intro e member
  rcases List.mem_append.mp member with left | right
  · exact silent e left
  · exact silent' e right

theorem Quiet.keeps {c c' : TcpConnection} (quiet : Quiet c c') (h : c.Intact) :
    c'.Intact ∧ Appends c c' := by
  obtain ⟨net, pending, buffer, effects, history, silent⟩ := quiet
  refine ⟨⟨by rw [net]; exact h.versioned, ?_, ?_⟩, effects, history, ?_⟩
  · intro len some
    rw [history, lastDeferred_silent silent, net]
    exact h.pending len (pending ▸ some)
  · intro packet room member
    rw [history] at member
    rcases List.mem_append.mp member with left | right
    · exact h.sent packet room left
    · cases silent _ right
  · rw [buffer, appendedBytes_silent silent, List.append_nil]

/-! ### Packets that are built -/

theorem versioned_updateHeaders {p : Packetizer} (tcb : Tcb) (flags window : UInt16) (h : p.Versioned) :
    (updateHeaders p tcb flags window).Versioned :=
  Packetizer.versioned_modifyTransport _ (length_raw_editHeader tcb flags window) h

theorem createEmptyResponsePacket_spec {p : Packetizer} (tcb : Tcb) (flags window : UInt16)
    (h : p.Versioned) : (createEmptyResponsePacket p tcb flags window).1.Versioned ∧
      Whole (createEmptyResponsePacket p tcb flags window).2 := by
  have versioned := versioned_updateHeaders tcb flags window h
  have fits : (updateHeaders p tcb flags window).payloadIndex + (0 : UInt16).toNat < 65536 := by
    have := (updateHeaders p tcb flags window).payloadIndex_lt
    rw [UInt16.toNat_zero]
    omega
  exact ⟨Packetizer.versioned_build _ 0 fits versioned, Packetizer.whole_build _ 0 fits versioned⟩

theorem sendPacketToBuffer_ok {buffer buffer' : StreamBuffer} {packet : IpPacket} (whole : Whole packet)
    (ok : sendPacketToBuffer buffer packet = .ok buffer') :
    packet.raw.length ≤ buffer.remaining ∧ buffer'.content = buffer.content ++ packet.raw := by
  unfold sendPacketToBuffer at ok
  split at ok
  · rename_i room
    rw [whole.length] at room
    cases ok
    exact ⟨room, StreamBuffer.content_readFrom room⟩
  · cases ok

theorem keeps_appended {c c' : TcpConnection} {packet : IpPacket} {buffer : StreamBuffer}
    (h : c.Intact) (versioned : c'.networkToClient.Versioned) (whole : Whole packet)
    (ok : sendPacketToBuffer c.buffer packet = .ok buffer) (none : c'.packetForClientLength = none)
    (same : c'.buffer = buffer)
    (history : c'.history = c.history ++ [Effect.appended packet c.buffer.remaining]) :
    c'.Intact ∧ Appends c c' := by
  obtain ⟨room, content⟩ := sendPacketToBuffer_ok whole ok
  refine ⟨⟨versioned, fun len some => absurd (none.symm.trans some) (by simp), ?_⟩, _, history, ?_⟩
  · intro packet' room' member
    rw [history] at member
    rcases List.mem_append.mp member with left | right
    · exact h.sent packet' room' left
    · cases List.mem_singleton.mp right
      exact ⟨whole, room⟩
  · rw [same, content]
    simp [appendedBytes, Effect.appendedBytes]

theorem keeps_silent {c c' : TcpConnection} {e : Effect} (h : c.Intact)
    (versioned : c'.networkToClient.Versioned) (none : c'.packetForClientLength = none)
    (buffer : c'.buffer = c.buffer) (history : c'.history = c.history ++ [e])
    (silent : e.isSilent = true) : c'.Intact ∧ Appends c c' := by
  have alone : ∀ x ∈ [e], x.isSilent = true := fun x member => by rw [List.mem_singleton.mp member, silent]
  refine ⟨⟨versioned, fun len some => absurd (none.symm.trans some) (by simp), ?_⟩, _, history, ?_⟩
  · intro packet room member
    rw [history] at member
    rcases List.mem_append.mp member with left | right
    · exact h.sent packet room left
    · cases alone _ right
  · rw [buffer, appendedBytes_silent alone, List.append_nil]

theorem reply_keeps {c : TcpConnection} (flags : UInt16) (h : c.Intact)
    (free : c.packetForClientLength = none) :
    (c.sendEmptyPacketToClient flags).Intact ∧ Appends c (c.sendEmptyPacketToClient flags) := by
  obtain ⟨versioned, whole⟩ := createEmptyResponsePacket_spec c.tcb flags c.advertisedWindow h.versioned
  unfold sendEmptyPacketToClient
  dsimp only
  split
  · rename_i buffer ok
    exact keeps_appended h versioned whole ok free rfl rfl
  · exact keeps_silent h versioned free rfl rfl rfl

/-! ### The invariant act by act -/

def Holds (c₀ c : TcpConnection) : Prop := c.Intact ∧ Appends c₀ c

theorem Holds.quiet {c₀ c c' : TcpConnection} (h : Holds c₀ c) (quiet : Quiet c c') : Holds c₀ c' :=
  ⟨(quiet.keeps h.1).1, h.2.trans (quiet.keeps h.1).2⟩

theorem Holds.reply {c₀ c : TcpConnection} (h : Holds c₀ c) (flags : UInt16)
    (free : c.packetForClientLength = none) : Holds c₀ (c.sendEmptyPacketToClient flags) :=
  ⟨(reply_keeps flags h.1 free).1, h.2.trans (reply_keeps flags h.1 free).2⟩

theorem quiet_of_same {c c' : TcpConnection} (net : c'.networkToClient = c.networkToClient)
    (pending : c'.packetForClientLength = c.packetForClientLength) (buffer : c'.buffer = c.buffer)
    (history : c'.history = c.history) : Quiet c c' :=
  ⟨net, pending, buffer, [], by rw [history, List.append_nil], by simp⟩

theorem quiet_of_silent {c c' : TcpConnection} (e : Effect) (silent : e.isSilent = true)
    (net : c'.networkToClient = c.networkToClient)
    (pending : c'.packetForClientLength = c.packetForClientLength) (buffer : c'.buffer = c.buffer)
    (history : c'.history = c.history ++ [e]) : Quiet c c' :=
  ⟨net, pending, buffer, [e], history, fun x member => by rw [List.mem_singleton.mp member, silent]⟩

theorem quiet_handleFinAck (c : TcpConnection) : Quiet c c.handleFinAck := by
  unfold handleFinAck
  split_ifs <;> exact quiet_of_same rfl rfl rfl rfl

theorem Holds.doHandleFin {c₀ c : TcpConnection} (h : Holds c₀ c) (free : c.packetForClientLength = none) :
    Holds c₀ c.doHandleFin := by
  have consumed : Holds c₀ { c with
      tcb.acknowledgementNumber := c.tcb.acknowledgementNumber + 1
      history := c.history ++ [Effect.finConsumed] } :=
    h.quiet (quiet_of_silent .finConsumed rfl rfl rfl rfl rfl)
  unfold TcpConnection.doHandleFin
  dsimp only
  split_ifs
  · exact (consumed.reply (flagFin ||| flagAck) free).quiet (quiet_of_same rfl rfl rfl rfl)
  · exact (consumed.reply flagAck free).quiet (quiet_of_same rfl rfl rfl rfl)
  · exact (consumed.reply flagAck free).quiet (quiet_of_same rfl rfl rfl rfl)
  · exact consumed

theorem deviceAct_holds {s : Segment} {c₀ c c' : TcpConnection}
    (h : c.packetForClientLength = none ∧ Holds c₀ c) (act : DeviceAct s c c') :
    c'.packetForClientLength = none ∧ Holds c₀ c' := by
  obtain ⟨free, holds⟩ := h
  cases act with
  | reply flags plain => exact ⟨by simpa using free, holds.reply flags free⟩
  | close => exact ⟨free, holds.quiet (quiet_of_same rfl rfl rfl rfl)⟩
  | expect => exact ⟨free, holds.quiet (quiet_of_same rfl rfl rfl rfl)⟩
  | establish half => exact ⟨free, holds.quiet (quiet_of_same rfl rfl rfl rfl)⟩
  | store inSequence ready data fits =>
    exact ⟨free, holds.quiet (quiet_of_silent (.stored s.payload) rfl rfl rfl rfl rfl)⟩
  | fin => exact ⟨free, holds.quiet (quiet_of_same rfl rfl rfl rfl)⟩
  | consumeFin received drained => exact ⟨by simpa using free, holds.doHandleFin free⟩
  | finAck =>
    have quiet := quiet_handleFinAck c
    exact ⟨quiet.packetForClientLength.trans free, holds.quiet quiet⟩

theorem flush_deferred {c c' : TcpConnection} (h : c.Intact) {len : UInt16}
    (pending : c.packetForClientLength = some len) (flushed : c.flushPendingPacket = .ok c') :
    ∃ packet, lastDeferred c.history = some packet ∧ packet.length = len ∧ Whole packet ∧
      packet.raw.length ≤ c.buffer.remaining ∧
      c'.buffer.content = c.buffer.content ++ packet.raw ∧
      c'.history = c.history ++ [Effect.appended packet c.buffer.remaining] ∧
      c'.networkToClient = c.networkToClient ∧ c'.packetForClientLength = none := by
  obtain ⟨packet, last, inflated, length, whole⟩ := h.pending len pending
  rw [flushPendingPacket, pending] at flushed
  dsimp only at flushed
  rw [inflated] at flushed
  cases ok : sendPacketToBuffer c.buffer packet with
  | ok buffer =>
    rw [ok] at flushed
    cases flushed
    obtain ⟨room, content⟩ := sendPacketToBuffer_ok whole ok
    exact ⟨packet, last, length, whole, room, content, rfl, rfl, rfl⟩
  | error e => rw [ok] at flushed; cases flushed

theorem Holds.flush {c₀ c c' : TcpConnection} (h : Holds c₀ c) (pending : c.packetForClientLength.isSome = true)
    (flushed : c.flushPendingPacket = .ok c') : Holds c₀ c' := by
  obtain ⟨len, some⟩ := Option.isSome_iff_exists.mp pending
  obtain ⟨packet, _, _, whole, room, content, history, net, none⟩ := flush_deferred h.1 some flushed
  refine ⟨⟨by rw [net]; exact h.1.versioned, fun len some => absurd (none.symm.trans some) (by simp), ?_⟩,
    h.2.trans ⟨_, history, by simp [content, appendedBytes, Effect.appendedBytes]⟩⟩
  intro packet' room' member
  rw [history] at member
  rcases List.mem_append.mp member with left | right
  · exact h.1.sent packet' room' left
  · cases List.mem_singleton.mp right
    exact ⟨whole, room⟩

theorem Holds.receiveOne {c₀ c : TcpConnection} (h : Holds c₀ c) (answer : ReadAnswer)
    (free : c.packetForClientLength = none) : Holds c₀ (c.receiveOne answer).1 := by
  have small := c.maxPayload_lt
  have versioned := versioned_updateHeaders c.tcb (flagAck ||| flagPsh) c.advertisedWindow h.1.versioned
  have edited (p : Packetizer) (versioned : p.Versioned) : Holds c₀ { c with networkToClient := p } :=
    ⟨⟨versioned, fun len some => absurd (free.symm.trans some) (by simp), h.1.sent⟩, h.2⟩
  have received {p : Packetizer} (versioned : p.Versioned) (bytes : List UInt8) : Holds c₀ { c with
      networkToClient := p
      history := c.history ++ [Effect.received bytes] } :=
    (edited p versioned).quiet (quiet_of_silent (.received bytes) rfl rfl rfl rfl rfl)
  have turn := c.receiveOne_turn answer
  generalize c.receiveOne answer = result at turn ⊢
  cases turn with
  | sent p packet buffer ok fits =>
    obtain ⟨versioned, whole⟩ := (Packetizer.packetizeRead_some ok small).versioned versioned
    have received := received versioned (packet.raw.drop p.payloadIndex)
    let appended : TcpConnection := { c with
      networkToClient := p
      buffer
      tcb.sequenceNumber := c.tcb.sequenceNumber + (packet.raw.drop p.payloadIndex).length.toUInt32
      history := c.history ++ [Effect.received (packet.raw.drop p.payloadIndex)] ++
        [Effect.appended packet c.buffer.remaining] }
    have more : appended.Intact ∧ Appends _ appended := keeps_appended received.1 versioned whole fits free rfl rfl
    exact ⟨more.1, received.2.trans more.2⟩
  | deferred p packet e ok full =>
    have reads := Packetizer.packetizeRead_some ok small
    obtain ⟨versioned, whole⟩ := reads.versioned versioned
    have received := received versioned (packet.raw.drop p.payloadIndex)
    refine ⟨⟨versioned, ?_, ?_⟩, received.2.trans ⟨[.deferred packet], rfl, by simp [appendedBytes, Effect.appendedBytes]⟩⟩
    · intro len some
      cases some
      exact ⟨packet, by rw [lastDeferred_concat]; rfl, reads.inflate, rfl, whole⟩
    · intro packet' room member
      rcases List.mem_append.mp member with left | right
      · exact received.1.sent packet' room left
      · cases List.mem_singleton.mp right
  | ended p ok =>
    have read := edited p (Packetizer.packetizeRead_none ok versioned)
    have eof : Holds c₀ { c with
        networkToClient := p
        tcb.acknowledgementNumber := c.tcb.acknowledgementNumber + 1
        history := c.history ++ [Effect.eof] } :=
      read.quiet (quiet_of_silent .eof rfl rfl rfl rfl rfl)
    exact (eof.reply (flagFin ||| flagAck) free).quiet (quiet_of_same rfl rfl rfl rfl)
  | blocked => exact edited _ versioned
  | failed => exact ((edited _ versioned).reply flagRst free).quiet (quiet_of_same rfl rfl rfl rfl)

theorem networkAct_holds {a : PollAnswers} {c₀ c c' : TcpConnection} (h : Holds c₀ c)
    (act : NetworkAct a c c') : Holds c₀ c' := by
  cases act with
  | flush _ pending flushed => exact h.flush pending flushed
  | write buffer bytes written => exact h.quiet (quiet_of_silent (.written bytes) rfl rfl rfl rfl rfl)
  | reply flags free plain => exact h.reply flags free
  | close => exact h.quiet (quiet_of_same rfl rfl rfl rfl)
  | consumeFin free received drained => exact h.doHandleFin free
  | receive _ turn =>
    obtain ⟨answer, given, free, established, window⟩ := turn
    exact h.receiveOne answer free
  | connect free connecting =>
    have connected : Holds c₀ { c with tcb.state := .synReceived } := h.quiet (quiet_of_same rfl rfl rfl rfl)
    exact (connected.reply (flagSyn ||| flagAck) free).quiet (quiet_of_same rfl rfl rfl rfl)

/-! ### Device packets that build nothing -/

def AnswersFin (state : TcpState) : Prop := state = .established ∨ state = .finWait1 ∨ state = .finWait2

def stateAfterAck (c : TcpConnection) (s : Segment) : TcpState :=
  if s.header.isAck = true ∧ c.tcb.state = .synReceived then .established else c.tcb.state

/-- A segment with the expected number is answered: its data, or its FIN with nothing left upstream. -/
def BuildsExpected (c : TcpConnection) (s : Segment) : Prop :=
  (s.header.isAck = true ∧ c.tcb.state ≠ .synReceived ∧ s.payload ≠ []) ∨
    (s.header.isFin = true ∧ c.clientToNetwork.isEmpty = true ∧ AnswersFin (c.stateAfterAck s))

/-- Handling the segment builds a packet: a reset, a repeated acknowledgement, the acknowledgement of
data or the answer to a FIN. -/
def Builds (c : TcpConnection) (s : Segment) : Prop :=
  if c.tcb.state = .init then s.header.isSyn = false
  else if s.header.isSyn then
    c.tcb.state ≠ .synSent ∧ s.header.sequenceNumber ≠ c.tcb.synSequenceNumber
  else if s.header.sequenceNumber ≠ c.tcb.acknowledgementNumber then
    (s.header.sequenceNumber - c.tcb.acknowledgementNumber).toInt32 < 0
  else s.header.isRst = false ∧ c.BuildsExpected s

theorem quiet_doHandleFin {c : TcpConnection} (silent : ¬ AnswersFin c.tcb.state) : Quiet c c.doHandleFin := by
  unfold doHandleFin AnswersFin at *
  dsimp only
  rw [if_neg fun h => silent (Or.inl h), if_neg fun h => silent (Or.inr (Or.inl h)),
    if_neg fun h => silent (Or.inr (Or.inr h))]
  exact quiet_of_silent .finConsumed rfl rfl rfl rfl rfl

theorem quiet_takeAck {c : TcpConnection} {s : Segment}
    (noData : ¬ (s.header.isAck = true ∧ c.tcb.state ≠ .synReceived ∧ s.payload ≠ [])) :
    Quiet c (c.takeAck s) ∧ (c.takeAck s).clientToNetwork = c.clientToNetwork ∧
      (c.takeAck s).tcb.state = c.stateAfterAck s := by
  unfold takeAck handleAck stateAfterAck
  by_cases ack : s.header.isAck = true
  · by_cases half : c.tcb.state = .synReceived
    · simp only [ack, half, if_true, and_self]
      exact ⟨quiet_of_same rfl rfl rfl rfl, trivial⟩
    · have empty : s.payload = [] := by
        by_cases empty : s.payload = []
        · exact empty
        · exact absurd ⟨ack, half, empty⟩ noData
      simp only [ack, half, empty, if_true, if_false, and_false]
      exact ⟨.refl c, trivial, trivial⟩
  · rw [if_neg ack, if_neg fun h => ack h.1]
    exact ⟨.refl c, rfl, rfl⟩

theorem quiet_checkFinAck (c : TcpConnection) (s : Segment) : Quiet c (c.checkFinAck s) := by
  unfold checkFinAck
  split
  · split
    · exact quiet_handleFinAck c
    · exact .refl c
  · exact .refl c

theorem quiet_handlePacket {c : TcpConnection} {s : Segment} (random : UInt32) (silent : ¬ c.Builds s) :
    Quiet c (c.handlePacket s random) := by
  unfold Builds at silent
  unfold handlePacket
  split_ifs at silent with init syn other
  · rw [if_pos init, handleFirstPacket, if_pos (by simpa using silent)]
    exact quiet_of_same rfl rfl rfl rfl
  · rw [if_neg init, if_pos syn, handleDuplicateSyn]
    split_ifs with sent number
    · exact quiet_of_same rfl rfl rfl rfl
    · exact absurd ⟨sent, number⟩ silent
    · exact .refl c
  · rw [if_neg init, if_neg syn, if_pos other, if_neg silent]
    exact .refl c
  · rw [if_neg init, if_neg syn, if_neg other, handleExpected]
    have expected : Quiet c (c.expectedPacket s) := quiet_of_same rfl rfl rfl rfl
    split_ifs with rst
    · exact expected.trans (quiet_of_same rfl rfl rfl rfl)
    obtain ⟨noData, noFin⟩ := not_or.mp fun builds => silent ⟨by simpa using rst, builds⟩
    obtain ⟨ack, upstream, state⟩ := quiet_takeAck (c := c.expectedPacket s) noData
    refine ((expected.trans ack).trans ?_).trans (quiet_checkFinAck _ s)
    unfold takeFin handleFin
    dsimp only
    split_ifs with fin empty
    · rw [upstream] at empty
      have received : Quiet ((c.expectedPacket s).takeAck s)
          { (c.expectedPacket s).takeAck s with tcb.finReceived := true } := quiet_of_same rfl rfl rfl rfl
      refine received.trans (quiet_doHandleFin ?_)
      show ¬ AnswersFin ((c.expectedPacket s).takeAck s).tcb.state
      rw [state]
      exact fun answers => noFin ⟨fin, empty, answers⟩
    · exact quiet_of_same rfl rfl rfl rfl
    · exact .refl _

/-! ### Runs -/

/-- While a packet is deferred, the device sends nothing that makes the relay build another one. -/
def Undisturbed (c : TcpConnection) : Event → Prop
  | .packet s _ => c.packetForClientLength.isSome = true → ¬ c.Builds s
  | _ => True

theorem handlePacket_holds {c : TcpConnection} {s : Segment} (random : UInt32) (h : c.Intact)
    (undisturbed : c.packetForClientLength.isSome = true → ¬ c.Builds s) :
    Holds c (c.handlePacket s random) := by
  have start : Holds c c := ⟨h, .refl c⟩
  by_cases silent : c.Builds s
  · have free : c.packetForClientLength = none := by
      by_contra some
      exact undisturbed (Option.isSome_iff_ne_none.mpr some) silent
    refine (handlePacket_invariant (P := fun c' => c'.packetForClientLength = none ∧ Holds c c') ?_
      (fun _ _ => deviceAct_holds)).2
    intro c' opens
    cases opens <;> exact ⟨free, start.quiet (quiet_of_same rfl rfl rfl rfl)⟩
  · exact start.quiet (quiet_handlePacket random silent)

theorem step_intact {c : TcpConnection} {event : Event} (h : c.Intact) (undisturbed : Undisturbed c event) :
    (c.step event).Intact ∧ ((∀ buffer, event ≠ .shared buffer) → Appends c (c.step event)) := by
  cases event with
  | packet s random =>
    have holds := handlePacket_holds random h undisturbed
    exact ⟨holds.1, fun _ => holds.2⟩
  | poll answers =>
    have holds : Holds c (c.pollSelf answers).1 :=
      acts_invariant (fun _ _ => networkAct_holds) (pollSelf_acts c answers) ⟨h, .refl c⟩
    exact ⟨holds.1, fun _ => holds.2⟩
  | shared buffer => exact ⟨⟨h.versioned, h.pending, h.sent⟩, fun other => absurd rfl (other buffer)⟩

/-- A connection that the router creates for a parsed packet. -/
def CreatedFor [Build] (raw : List UInt8) (buffer : StreamBuffer) (c : TcpConnection) : Prop :=
  ∃ packet ip transport, IpPacket.parse raw = .ok (some packet) ∧
    packet.headers = .ok (ip, some transport) ∧ create buffer ip transport = .ok c

theorem created_intact [Build] {raw : List UInt8} {buffer : StreamBuffer} {c : TcpConnection}
    (created : CreatedFor raw buffer c) : c.Intact := by
  obtain ⟨packet, ip, transport, parsed, headers, created⟩ := created
  have fresh := create_eq created
  obtain ⟨bound, inside⟩ := headers_ipHeader headers
  unfold create at created
  cases transport with
  | udp h => cases created
  | tcp h =>
    obtain ⟨shrinked, _, created⟩ := bind_ok created
    obtain ⟨p, new, same⟩ := bind_ok created
    have least := ((Packetizer.new_isOk _ _).mp ⟨p, new⟩).2.1
    have length : 20 ≤ packet.transportIndex := by
      rw [bound, IpHeader.data_bind, IpHeader.raw_bind, List.length_take] at least
      cases data : packet.ipHeaderData <;> rw [data] at least <;>
        simp only [IpHeaderData.minHeaderLength] at least <;> omega
    have some : packet.raw ≠ [] := by
      intro nil
      rw [nil] at inside
      simp only [List.length_nil] at inside
      omega
    have versioned : p.Versioned := by
      apply Packetizer.new_versioned new
      rw [bound, IpHeader.data_bind, IpHeader.raw_bind, byteAt_take (by omega)]
      exact parse_version parsed some
    cases same
    exact ⟨versioned, fun len some => (by cases some), fun packet room member => (by cases member)⟩

/-- In an undisturbed run a flush appends the packet that was deferred, byte by byte, and everything
that a step appends to the shared buffer is whole packets that had room. -/
theorem deferred_packet_intact [Build] {raw : List UInt8} {buffer : StreamBuffer} {c₀ : TcpConnection}
    (created : CreatedFor raw buffer c₀) {events : List Event}
    (undisturbed : Along step Undisturbed c₀ events) :
    let c := run step c₀ events
    (∀ c' len, c.packetForClientLength = some len → c.flushPendingPacket = .ok c' →
      ∃ packet, lastDeferred c.history = some packet ∧
        c'.buffer.content = c.buffer.content ++ packet.raw) ∧
    ∀ event, Undisturbed c event → (∀ buffer, event ≠ .shared buffer) →
      ∃ effects, (c.step event).history = c.history ++ effects ∧
        (c.step event).buffer.content = c.buffer.content ++ appendedBytes effects ∧
        ∀ packet room, Effect.appended packet room ∈ effects →
          statedLength packet.raw = some packet.raw.length ∧ packet.raw.length ≤ room := by
  have intact : (run step c₀ events).Intact :=
    run_invariant (fun c event h undisturbed => (step_intact h undisturbed).1) (created_intact created)
      undisturbed
  constructor
  · intro c' len pending flushed
    obtain ⟨packet, last, _, _, _, content, _⟩ := flush_deferred intact pending flushed
    exact ⟨packet, last, content⟩
  · intro event calm own
    obtain ⟨after, appends⟩ := step_intact intact calm
    obtain ⟨effects, history, content⟩ := appends own
    refine ⟨effects, history, content, fun packet room member => ?_⟩
    obtain ⟨whole, fits⟩ := after.sent packet room (by rw [history]; exact List.mem_append_right _ member)
    exact ⟨whole.stated, fits⟩

/-! ### The two paths of a packet from the server -/

def maxRead (c : TcpConnection) : Nat := min c.tcb.remainingClientWindow.toNat maxPayloadLength

theorem maxRead_lt (c : TcpConnection) : c.maxRead < 60000 := c.maxPayload_lt

theorem maxRead_pos {c : TcpConnection} (window : c.tcb.remainingClientWindow ≠ 0) : 0 < c.maxRead := by
  have positive : c.tcb.remainingClientWindow.toNat ≠ 0 := fun zero => window (UInt16.toNat.inj zero)
  have : 0 < maxPayloadLength := by decide
  unfold maxRead
  omega

def dataHeaders (c : TcpConnection) : Packetizer :=
  updateHeaders c.networkToClient c.tcb (flagAck ||| flagPsh) c.advertisedWindow

/-- The packet that a turn of the receive loop builds, before it looks at the shared buffer. -/
theorem receiveOne_builds (c : TcpConnection) {bytes : List UInt8} (nonempty : bytes ≠ [])
    (window : c.tcb.remainingClientWindow ≠ 0) :
    ∃ p packet, c.dataHeaders.packetizeRead (.ok bytes) (some c.maxRead) = .ok (p, some packet) ∧
      packet.raw.drop c.networkToClient.payloadIndex = bytes.take c.maxRead ∧
      Packetizer.Reads c.dataHeaders p (.ok bytes) c.maxRead packet := by
  obtain ⟨p, packet, ok, payload⟩ := c.dataHeaders.packetizeRead_data nonempty (maxRead_pos window) c.maxRead_lt
  exact ⟨p, packet, ok, payload, Packetizer.packetizeRead_some ok c.maxRead_lt⟩

section Paths
variable {c : TcpConnection} {bytes : List UInt8} {p : Packetizer} {packet : IpPacket}
  (ok : c.dataHeaders.packetizeRead (.ok bytes) (some c.maxRead) = .ok (p, some packet))
include ok

theorem receiveOne_sends {buffer : StreamBuffer} (room : packet.length.toNat ≤ buffer.remaining) :
    { c with buffer }.receiveOne (.ok bytes) = ({ c with
      networkToClient := p
      buffer := buffer.readFrom packet.raw
      tcb.sequenceNumber := c.tcb.sequenceNumber + (packet.raw.drop p.payloadIndex).length.toUInt32
      history := c.history ++ [Effect.received (packet.raw.drop p.payloadIndex)] ++
        [Effect.appended packet buffer.remaining] }, .again) := by
  have read : (updateHeaders c.networkToClient c.tcb (flagAck ||| flagPsh)
      ({ c with buffer } : TcpConnection).advertisedWindow).packetizeRead (.ok bytes)
      (some (min c.tcb.remainingClientWindow.toNat maxPayloadLength)) = .ok (p, some packet) := ok
  rw [receiveOne]
  simp only [read, sendPacketToBuffer, if_pos room]

theorem receiveOne_defers {buffer : StreamBuffer} (full : buffer.remaining < packet.length.toNat) :
    { c with buffer }.receiveOne (.ok bytes) = ({ c with
      networkToClient := p
      buffer
      packetForClientLength := some packet.length
      history := c.history ++ [Effect.received (packet.raw.drop p.payloadIndex)] ++
        [Effect.deferred packet] }, .leave false) := by
  have read : (updateHeaders c.networkToClient c.tcb (flagAck ||| flagPsh)
      ({ c with buffer } : TcpConnection).advertisedWindow).packetizeRead (.ok bytes)
      (some (min c.tcb.remainingClientWindow.toNat maxPayloadLength)) = .ok (p, some packet) := ok
  rw [receiveOne]
  simp only [read, sendPacketToBuffer, if_neg (Nat.not_le.mpr full)]

end Paths

/-- Reads that would block change nothing but the header fields in the packetizer. -/
theorem receiveLoop_blocked (n : Nat) (c : TcpConnection) (madeProgress : Bool) :
    (receiveLoop n c [] madeProgress).1.tcb = c.tcb ∧
      (receiveLoop n c [] madeProgress).1.buffer = c.buffer := by
  cases n with
  | zero => exact ⟨rfl, rfl⟩
  | succ n =>
    unfold receiveLoop
    split_ifs
    · exact ⟨rfl, rfl⟩
    · exact ⟨rfl, rfl⟩
    · exact ⟨rfl, rfl⟩

/-- What the two paths end in: the same bytes, and sequence numbers advanced by the payload on the
direct path and by the packet on the deferred one. -/
theorem send_and_flush {c : TcpConnection} (free : c.packetForClientLength = none)
    (window : c.tcb.remainingClientWindow ≠ 0) {bytes : List UInt8} (nonempty : bytes ≠ []) {roomy full : StreamBuffer}
    (room : c.networkToClient.payloadIndex + (bytes.take c.maxRead).length ≤ roomy.remaining)
    (noRoom : full.remaining < c.networkToClient.payloadIndex + (bytes.take c.maxRead).length) :
    let n := (bytes.take c.maxRead).length
    let direct := ({ c with buffer := roomy }.processReceive [.ok bytes]).1
    let deferred := ({ c with buffer := full }.processReceive [.ok bytes]).1
    ∃ (packet : IpPacket) (flushed : TcpConnection), { deferred with buffer := roomy }.flushPendingPacket = .ok flushed ∧
      direct.buffer.content = roomy.content ++ packet.raw ∧
      flushed.buffer.content = roomy.content ++ packet.raw ∧
      direct.tcb = { c.tcb with sequenceNumber := c.tcb.sequenceNumber + n.toUInt32 } ∧
      flushed.tcb = { c.tcb with
        sequenceNumber := c.tcb.sequenceNumber + (c.networkToClient.payloadIndex + n).toUInt32 } := by
  obtain ⟨p, packet, ok, payload, reads⟩ := receiveOne_builds c nonempty window
  have index : p.payloadIndex = c.networkToClient.payloadIndex := reads.payloadIndex
  have total : packet.raw.length = c.networkToClient.payloadIndex + (bytes.take c.maxRead).length := by
    rw [← payload]
    exact reads.length
  have length := reads.total
  rw [← total, ← length] at room noRoom
  have first := receiveOne_sends ok room
  have second := receiveOne_defers ok noRoom
  have direct : (receiveLoop maxPacketsPerPoll { c with buffer := roomy } [.ok bytes] false).1.tcb =
      { c.tcb with sequenceNumber := c.tcb.sequenceNumber + (bytes.take c.maxRead).length.toUInt32 } ∧
      (receiveLoop maxPacketsPerPoll { c with buffer := roomy } [.ok bytes] false).1.buffer =
        roomy.readFrom packet.raw := by
    rw [maxPacketsPerPoll, receiveLoop, if_neg (by simp [free]), if_neg window, List.headD_cons, first]
    dsimp only
    rw [List.tail_cons, (receiveLoop_blocked 31 _ true).1, (receiveLoop_blocked 31 _ true).2, index, payload]
    exact ⟨rfl, rfl⟩
  have deferred : (receiveLoop maxPacketsPerPoll { c with buffer := full } [.ok bytes] false).1 =
      ({ c with buffer := full }.receiveOne (.ok bytes)).1 := by
    rw [maxPacketsPerPoll, receiveLoop, if_neg (by simp [free]), if_neg window, List.headD_cons, second]
  rw [second] at deferred
  simp only [processReceive, deferred, direct.1, direct.2]
  have fits : packet.raw.length ≤ roomy.remaining := by omega
  have sum : packet.length.toUInt32 =
      (c.networkToClient.payloadIndex + (bytes.take c.maxRead).length).toUInt32 := by
    rw [← total, ← length, toUInt32_eq]
  refine ⟨packet, { c with
    networkToClient := p
    buffer := roomy.readFrom packet.raw
    packetForClientLength := none
    tcb.sequenceNumber := c.tcb.sequenceNumber + packet.length.toUInt32
    history := c.history ++ [Effect.received (packet.raw.drop p.payloadIndex)] ++
      [Effect.deferred packet] ++ [Effect.appended packet roomy.remaining] }, ?_,
    StreamBuffer.content_readFrom fits, StreamBuffer.content_readFrom fits, trivial, by rw [sum]⟩
  simp only [flushPendingPacket, reads.inflate, sendPacketToBuffer, if_pos room]

/-- The deferred path is never transparent: it appends the same bytes and leaves another sequence
number. -/
theorem deferral_advances_by_packet {c : TcpConnection} (free : c.packetForClientLength = none)
    (window : c.tcb.remainingClientWindow ≠ 0) {bytes : List UInt8} (nonempty : bytes ≠ []) {roomy full : StreamBuffer}
    (room : c.networkToClient.payloadIndex + (bytes.take c.maxRead).length ≤ roomy.remaining)
    (noRoom : full.remaining < c.networkToClient.payloadIndex + (bytes.take c.maxRead).length) :
    let direct := ({ c with buffer := roomy }.processReceive [.ok bytes]).1
    let deferred := ({ c with buffer := full }.processReceive [.ok bytes]).1
    ∃ flushed : TcpConnection, { deferred with buffer := roomy }.flushPendingPacket = .ok flushed ∧
      flushed.buffer.content = direct.buffer.content ∧
      direct.tcb.sequenceNumber = c.tcb.sequenceNumber + (bytes.take c.maxRead).length.toUInt32 ∧
      flushed.tcb.sequenceNumber = direct.tcb.sequenceNumber + c.networkToClient.payloadIndex.toUInt32 ∧
      flushed.tcb ≠ direct.tcb := by
  obtain ⟨packet, flushed, flush, direct, same, tcb, tcb'⟩ := send_and_flush free window nonempty room noRoom
  refine ⟨flushed, flush, same.trans direct.symm, by rw [tcb], ?_, ?_⟩
  · rw [tcb, tcb', toUInt32_add]
    grind
  -- The two numbers differ by the length of the headers.
  have small := c.networkToClient.payloadIndex_lt
  have some : 20 ≤ c.networkToClient.payloadIndex :=
    Nat.le_trans c.networkToClient.transportIndex_ge c.networkToClient.transportIndex_le_payloadIndex
  rw [tcb, tcb', toUInt32_add]
  intro same
  have none : c.networkToClient.payloadIndex.toUInt32 = (0 : Nat).toUInt32 := by
    have number := congrArg Tcb.sequenceNumber same
    show c.networkToClient.payloadIndex.toUInt32 = 0
    grind
  have := toUInt32_inj (by omega) (by omega) none
  omega

/-! ### A deferred packet that is disturbed -/

/-- A control packet overwrites the header of the deferred packet. -/
theorem reply_overwrites {c : TcpConnection} (flags : UInt16) (versioned : c.networkToClient.Versioned)
    {len : UInt16} (long : 6 ≤ len.toNat) :
    statedLength ((c.sendEmptyPacketToClient flags).networkToClient.inflate len).raw =
      some c.networkToClient.payloadIndex := by
  have fits : c.networkToClient.payloadIndex + (0 : UInt16).toNat < 65536 := by
    have := c.networkToClient.payloadIndex_lt
    rw [UInt16.toNat_zero]
    omega
  rw [networkToClient_sendEmptyPacketToClient]
  exact Packetizer.statedLength_inflate_build
    (updateHeaders c.networkToClient c.tcb flags c.advertisedWindow) 0 fits
    (versioned_updateHeaders _ _ _ versioned) long

theorem length_inflate_reply {c : TcpConnection} (flags len : UInt16) :
    ((c.sendEmptyPacketToClient flags).networkToClient.inflate len).length.toNat =
      c.networkToClient.payloadIndex := by
  have fits : c.networkToClient.payloadIndex + (0 : UInt16).toNat < 65536 := by
    have := c.networkToClient.payloadIndex_lt
    rw [UInt16.toNat_zero]
    omega
  have total := Packetizer.toNat_length_build (updateHeaders c.networkToClient c.tcb flags c.advertisedWindow) 0 fits
  rw [networkToClient_sendEmptyPacketToClient]
  rwa [IpPacket.length, Packetizer.build, IpPacket.ipHeaderData_computeChecksums] at total

theorem flushPendingPacket_room {c : TcpConnection} {len : UInt16} (pending : c.packetForClientLength = some len)
    (room : (c.networkToClient.inflate len).length.toNat ≤ c.buffer.remaining) :
    c.flushPendingPacket = .ok { c with
      buffer := c.buffer.readFrom (c.networkToClient.inflate len).raw
      tcb.sequenceNumber := c.tcb.sequenceNumber + len.toUInt32
      packetForClientLength := none
      history := c.history ++ [Effect.appended (c.networkToClient.inflate len) c.buffer.remaining] } := by
  rw [flushPendingPacket, pending]
  simp only [sendPacketToBuffer, if_pos room]

theorem handlePacket_data {c : TcpConnection} {s : Segment} (random : UInt32)
    (established : c.tcb.state = .established) (noFinSent : c.tcb.finSequenceNumber = none)
    (flags : s.header.flags = flagAck) (inSequence : s.header.sequenceNumber = c.tcb.acknowledgementNumber)
    (data : s.payload ≠ []) (fits : s.payload.length ≤ c.clientToNetwork.remaining) :
    c.handlePacket s random = ((c.expectedPacket s).storePayload s).sendEmptyPacketToClient flagAck := by
  have bits : s.header.isSyn = false ∧ s.header.isRst = false ∧ s.header.isAck = true ∧
      s.header.isFin = false := by
    simp only [TcpHeaderData.isSyn, TcpHeaderData.isRst, TcpHeaderData.isAck, TcpHeaderData.isFin, flags]
    decide
  obtain ⟨syn, rst, ack, fin⟩ := bits
  have state : (c.expectedPacket s).tcb.state = .established := established
  have stores : ¬ (c.expectedPacket s).clientToNetwork.remaining < s.payload.length := Nat.not_lt.mpr fits
  have unsent : (((c.expectedPacket s).storePayload s).sendEmptyPacketToClient flagAck).tcb.finSequenceNumber =
      none := by rw [tcb_sendEmptyPacketToClient]; exact noFinSent
  have taken : (c.expectedPacket s).takeAck s =
      ((c.expectedPacket s).storePayload s).sendEmptyPacketToClient flagAck := by
    rw [takeAck, if_pos ack, handleAck, if_neg (by simp [state]), if_neg data, if_neg stores]
  rw [handlePacket, if_neg (by simp [established]), if_neg (by simp [syn]),
    if_neg (by simp [inSequence]), handleExpected, if_neg (by simp [rst]), taken, takeFin, if_neg (by simp [fin]),
    checkFinAck, unsent]

end TcpConnection

namespace Sample

/-- After a handshake the shared buffer is full and the server sends three bytes. -/
def deferring : List Event := handshake ++ [.shared (.new 0), .poll { reads := [.ok [1, 2, 3]] }]

def synPacket : IpPacket where
  raw := rawIpHeader ++ rawTcpHeader
  ipHeaderData := .v4 (.ofRaw rawIpHeader)
  transportHeaderData := some (.tcp (.ofRaw rawTcpHeader))

theorem createdFor [Build] {buffer : StreamBuffer} {c : TcpConnection}
    (created : TcpConnection.create buffer ipHeader tcpHeader = .ok c) :
    TcpConnection.CreatedFor (rawIpHeader ++ rawTcpHeader) buffer c :=
  ⟨synPacket, ipHeader, tcpHeader, rfl, rfl, created⟩

def deferred (buffer : StreamBuffer) (p : Packetizer) (packet : IpPacket) (history : List Effect) :
    TcpConnection :=
  { TcpConnection.fresh buffer p with
    tcb := establishedTcb
    packetForClientLength := some packet.length
    history }

theorem maxRead_established : min establishedTcb.remainingClientWindow.toNat maxPayloadLength = 1460 := by
  decide

theorem run_deferring (buffer : StreamBuffer) {p : Packetizer} (versioned : p.Versioned)
    (index : p.payloadIndex = 40) : ∃ p' packet history,
      run TcpConnection.step (.fresh buffer p) deferring = deferred (.new 0) p' packet history ∧
        lastDeferred history = some packet ∧ packet.raw.length = 43 ∧ Packetizer.Whole packet ∧
        p'.Versioned ∧ p'.payloadIndex = 40 ∧ p'.inflate packet.length = packet ∧
        receivedBytes history = [1, 2, 3] := by
  obtain ⟨buffer', e, reply, reached⟩ := run_handshake buffer p
  have afterwards : (afterSynAck buffer p).Versioned ∧ (afterSynAck buffer p).payloadIndex = 40 :=
    ⟨(TcpConnection.createEmptyResponsePacket_spec _ _ _ versioned).1, index⟩
  generalize afterSynAck buffer p = p₁ at reached afterwards
  obtain ⟨p', packet, ok, payload, reads⟩ := TcpConnection.receiveOne_builds
    (established buffer' p₁ e) (show [1, 2, 3] ≠ [] by simp) window_established
  have built := reads.versioned (TcpConnection.versioned_updateHeaders _ _ _ afterwards.1)
  have index' : p'.payloadIndex = 40 := reads.payloadIndex.trans afterwards.2
  have payload : packet.raw.drop p₁.payloadIndex = [1, 2, 3] := by
    rw [show (established buffer' p₁ e).maxRead = 1460 from maxRead_established] at payload
    exact payload
  have length : packet.raw.length = p₁.payloadIndex + (packet.raw.drop p₁.payloadIndex).length := reads.length
  rw [payload, afterwards.2] at length
  have full : (StreamBuffer.new 0).remaining < packet.length.toNat := by
    rw [StreamBuffer.remaining_new, built.2.length, length]
    decide
  have defers := TcpConnection.receiveOne_defers ok full
  refine ⟨p', packet, [e] ++ [Effect.received (packet.raw.drop p'.payloadIndex)] ++ [Effect.deferred packet],
    ?_, by rw [lastDeferred_concat]; rfl, length, built.2, built.1, index', reads.inflate, ?_⟩
  · rw [deferring, run_append, reached, run_cons, run_cons, run_nil]
    exact TcpConnection.pollSelf_leave (c := { established buffer' p₁ e with buffer := .new 0 }) rfl rfl rfl rfl
      window_established defers (show establishedTcb.state ≠ .synSent by decide)
  · rw [index', ← afterwards.2, payload]
    cases e <;> simp_all [receivedBytes, Effect.receivedBytes, Effect.isReply]

theorem take_established (buffer : StreamBuffer) (p : Packetizer) (e : Effect) :
    ([1, 2, 3] : List UInt8).take (established buffer p e).maxRead = [1, 2, 3] := by
  rw [show (established buffer p e).maxRead = 1460 from maxRead_established]
  rfl

theorem packet_size {c₀ : TcpConnection}
    (created : TcpConnection.create (.new 4096) ipHeader tcpHeader = .ok c₀) (buffer : StreamBuffer) (e : Effect) :
    (established buffer (afterSynAck (.new 4096) c₀.networkToClient) e).networkToClient.payloadIndex +
      (([1, 2, 3] : List UInt8).take
        (established buffer (afterSynAck (.new 4096) c₀.networkToClient) e).maxRead).length = 43 := by
  have index : c₀.networkToClient.payloadIndex = 40 := TcpConnection.create_payloadIndex created
  rw [take_established]
  exact congrArg (· + 3) index

def data : Segment := segment 101 8 flagAck [9, 9]

def disturbing : List Event := deferring ++ [.packet data 0, .shared (.new 4096)]

/-- A pure acknowledgement comes while the packet is deferred, then the device link drains the buffer. -/
def acknowledging : List Event := deferring ++ [.packet (segment 101 8 flagAck []) 0, .shared (.new 4096)]

theorem acknowledging_undisturbed (buffer : StreamBuffer) {p : Packetizer} (versioned : p.Versioned)
    (index : p.payloadIndex = 40) :
    Along TcpConnection.step TcpConnection.Undisturbed (.fresh buffer p) acknowledging := by
  obtain ⟨buffer', e, _, reached⟩ := run_handshake buffer p
  obtain ⟨p', packet, history, deferring', _⟩ := run_deferring buffer versioned index
  have opening : Along TcpConnection.step TcpConnection.Undisturbed (.fresh buffer p) handshake := by
    refine ⟨fun pending => (by cases pending), trivial, fun pending => ?_, trivial⟩
    rw [handshake_syn, handshake_connect, TcpConnection.processConnect] at pending
    simp [synSent, TcpConnection.fresh] at pending
  have silent : ¬ (deferred (.new 0) p' packet history).Builds (segment 101 8 flagAck []) := by
    show ¬ (false = false ∧ _)
    rintro ⟨-, ⟨_, _, data⟩ | ⟨fin, _⟩⟩
    · exact data rfl
    · cases fin
  refine along_append.mpr ⟨along_append.mpr ⟨opening, trivial, trivial, trivial⟩, ?_, trivial, trivial⟩
  rw [deferring']
  exact fun _ => silent

end Sample

namespace TcpConnection

/-- A deferred packet of three bytes is flushed after an acknowledgement. -/
theorem deferred_packet_intact_acknowledged : ∃ c₀ : TcpConnection,
    create (.new 4096) Sample.ipHeader Sample.tcpHeader = .ok c₀ ∧
      let c := run step c₀ Sample.acknowledging
      ∃ packet c', lastDeferred c.history = some packet ∧ packet.raw.length = 43 ∧
        c.flushPendingPacket = .ok c' ∧ c'.buffer.content = c.buffer.content ++ packet.raw := by
  let _ : Build := ⟨true⟩
  obtain ⟨c₀, created⟩ := Sample.created (.new 4096)
  refine ⟨c₀, created, ?_⟩
  have versioned := (created_intact (Sample.createdFor created)).versioned
  have index : c₀.networkToClient.payloadIndex = 40 := create_payloadIndex created
  obtain ⟨p, packet, history, deferring, last, length, whole, _, _, inflated, _⟩ :=
    Sample.run_deferring (.new 4096) versioned index
  have undisturbed := Sample.acknowledging_undisturbed (.new 4096) versioned index
  rw [← create_eq created] at undisturbed deferring
  have intact := (deferred_packet_intact (Sample.createdFor created) undisturbed).1
  have reached : run step c₀ Sample.acknowledging = Sample.deferred (.new 4096) p packet history := by
    rw [Sample.acknowledging, run_append, deferring]
    rfl
  have room : (p.inflate packet.length).length.toNat ≤ (StreamBuffer.new 4096).remaining := by
    rw [inflated, StreamBuffer.remaining_new, whole.length, length]
    decide
  rw [reached] at intact ⊢
  have flushed := flushPendingPacket_room (c := Sample.deferred (.new 4096) p packet history) rfl room
  obtain ⟨packet', last', content⟩ := intact _ packet.length rfl flushed
  cases Option.some.inj (last.symm.trans last')
  exact ⟨packet, _, last, length, flushed, content⟩

/-- After two bytes of data the deferred packet of 43 bytes has the header of an acknowledgement. -/
theorem run_disturbing : ∃ (c₀ : TcpConnection) (packet : IpPacket),
    create (.new 4096) Sample.ipHeader Sample.tcpHeader = .ok c₀ ∧ statedLength packet.raw = some 43 ∧
      let c := run step c₀ Sample.disturbing
      let flushed := c.networkToClient.inflate packet.length
      c.buffer = .new 4096 ∧ c.packetForClientLength = some packet.length ∧
        lastDeferred c.history = some packet ∧ flushed.length.toNat = 40 ∧ flushed.raw.length = 43 ∧
        statedLength flushed.raw = some 40 := by
  let _ : Build := ⟨true⟩
  obtain ⟨c₀, created⟩ := Sample.created (.new 4096)
  have versioned := (created_intact (Sample.createdFor created)).versioned
  have index : c₀.networkToClient.payloadIndex = 40 := create_payloadIndex created
  obtain ⟨p, packet, history, deferring, last, length, whole, versioned', index', _⟩ :=
    Sample.run_deferring (.new 4096) versioned index
  refine ⟨c₀, packet, created, by rw [whole.stated, length], ?_⟩
  rw [← create_eq created] at deferring
  have data := handlePacket_data (c := Sample.deferred (.new 0) p packet history) (s := Sample.data) 0 rfl rfl
    rfl rfl (by simp [Sample.data, Sample.segment]) (by
      show 2 ≤ (StreamBuffer.new (32 * maxPacketLength)).remaining
      rw [StreamBuffer.remaining_new]
      decide)
  -- The connection that acknowledges the data.
  generalize reached : ((Sample.deferred (.new 0) p packet history).expectedPacket Sample.data).storePayload
    Sample.data = c at data
  have versioned' : c.networkToClient.Versioned := by rw [← reached]; exact versioned'
  have index' : c.networkToClient.payloadIndex = 40 := by rw [← reached]; exact index'
  have pending : c.packetForClientLength = some packet.length := by rw [← reached]; rfl
  have kept : lastDeferred c.history = some packet := by
    rw [← reached, storePayload, lastDeferred_concat]
    exact last
  have stated := reply_overwrites flagAck versioned' (show 6 ≤ packet.length.toNat by rw [whole.length, length]; omega)
  have total := length_inflate_reply (c := c) flagAck packet.length
  have raw : ((c.sendEmptyPacketToClient flagAck).networkToClient.inflate packet.length).raw.length = 43 := by
    rw [Packetizer.inflate, List.length_take, (c.sendEmptyPacketToClient flagAck).networkToClient.layout.buffer_length,
      whole.length, length]
    rfl
  have after : run step c₀ Sample.disturbing = { c.sendEmptyPacketToClient flagAck with buffer := .new 4096 } := by
    rw [Sample.disturbing, run_append, deferring, run_cons, step, data]
    rfl
  rw [after]
  refine ⟨rfl, (packetForClientLength_sendEmptyPacketToClient c flagAck).trans pending, ?_, by rw [total, index'],
    raw, by rw [stated, index']⟩
  obtain ⟨_, e, reply, same⟩ := c.sendEmptyPacketToClient_frame flagAck
  have none : e.deferredPacket = none := by cases e <;> simp_all [Effect.isReply, Effect.deferredPacket]
  rw [same]
  dsimp only
  rw [lastDeferred_concat, none, kept]
  rfl

/-- Two bytes of data overwrite the header of the deferred packet: the flush appends 43 bytes that
state a length of 40. -/
theorem deferred_packet_overwritten : ∃ c₀ : TcpConnection,
    create (.new 4096) Sample.ipHeader Sample.tcpHeader = .ok c₀ ∧
      let c := run step c₀ Sample.disturbing
      ∃ packet c' bytes, lastDeferred c.history = some packet ∧ c.flushPendingPacket = .ok c' ∧
        c'.buffer.content = c.buffer.content ++ bytes ∧ bytes.length = 43 ∧ statedLength bytes = some 40 ∧
        bytes ≠ packet.raw := by
  obtain ⟨c₀, packet, created, stated, empty, pending, last, total, raw, lying⟩ := run_disturbing
  refine ⟨c₀, created, ?_⟩
  have flushed := flushPendingPacket_room pending (by
    rw [total, empty, StreamBuffer.remaining_new]
    omega)
  refine ⟨packet, _, _, last, flushed, ?_, raw, lying, ?_⟩
  · exact StreamBuffer.content_readFrom (by rw [raw, empty, StreamBuffer.remaining_new]; omega)
  · intro same
    rw [same, stated] at lying
    cases lying

/-- Three bytes after a handshake: the next segment starts at 11 on the direct path and at 51 on the
deferred one. -/
theorem deferral_three_bytes : ∃ c₀ : TcpConnection,
    create (.new 4096) Sample.ipHeader Sample.tcpHeader = .ok c₀ ∧
      let c := run step c₀ Sample.handshake
      let direct := ({ c with buffer := .new 4096 }.processReceive [.ok [1, 2, 3]]).1
      let deferred := ({ c with buffer := .new 0 }.processReceive [.ok [1, 2, 3]]).1
      ∃ flushed : TcpConnection, { deferred with buffer := .new 4096 }.flushPendingPacket = .ok flushed ∧
        direct.tcb.sequenceNumber = 11 ∧ flushed.tcb.sequenceNumber = 51 := by
  obtain ⟨c₀, created⟩ := Sample.created (.new 4096)
  refine ⟨c₀, created, ?_⟩
  obtain ⟨buffer, e, _, reached⟩ := Sample.run_handshake (.new 4096) c₀.networkToClient
  rw [← create_eq created] at reached
  have size := Sample.packet_size created buffer e
  rw [reached]
  obtain ⟨_, flushed, flush, _, _, direct, tcb⟩ := send_and_flush (c := Sample.established buffer
    (Sample.afterSynAck (.new 4096) c₀.networkToClient) e) rfl
    Sample.window_established (show [1, 2, 3] ≠ [] by simp)
    (show _ ≤ (StreamBuffer.new 4096).remaining by rw [size, StreamBuffer.remaining_new]; omega)
    (show (StreamBuffer.new 0).remaining < _ by rw [size, StreamBuffer.remaining_new]; omega)
  refine ⟨flushed, flush, ?_, ?_⟩
  · rw [direct, Sample.take_established]
    rfl
  · rw [tcb, size]
    rfl

/-- The two paths of three bytes after a handshake. -/
theorem deferral_advances_by_packet_handshake : ∃ c₀ : TcpConnection,
    create (.new 4096) Sample.ipHeader Sample.tcpHeader = .ok c₀ ∧
      let c := run step c₀ Sample.handshake
      let direct := ({ c with buffer := .new 4096 }.processReceive [.ok [1, 2, 3]]).1
      let deferred := ({ c with buffer := .new 0 }.processReceive [.ok [1, 2, 3]]).1
      ∃ flushed : TcpConnection, { deferred with buffer := .new 4096 }.flushPendingPacket = .ok flushed ∧
        flushed.buffer.content = direct.buffer.content ∧ flushed.tcb ≠ direct.tcb := by
  obtain ⟨c₀, created⟩ := Sample.created (.new 4096)
  refine ⟨c₀, created, ?_⟩
  obtain ⟨buffer, e, _, reached⟩ := Sample.run_handshake (.new 4096) c₀.networkToClient
  rw [← create_eq created] at reached
  have size := Sample.packet_size created buffer e
  rw [reached]
  obtain ⟨flushed, flush, content, _, _, apart⟩ := deferral_advances_by_packet (c := Sample.established buffer
    (Sample.afterSynAck (.new 4096) c₀.networkToClient) e) rfl
    Sample.window_established (show [1, 2, 3] ≠ [] by simp)
    (show _ ≤ (StreamBuffer.new 4096).remaining by rw [size, StreamBuffer.remaining_new]; omega)
    (show (StreamBuffer.new 0).remaining < _ by rw [size, StreamBuffer.remaining_new]; omega)
  exact ⟨flushed, flush, content, apart⟩

end TcpConnection

end Gnirehtet.Relay
