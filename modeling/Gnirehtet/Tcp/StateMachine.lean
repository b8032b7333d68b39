import Gnirehtet.Tcp.Acknowledgement
import Gnirehtet.Tcp.LastFin
import Gnirehtet.Tcp.SendWindow

/-!
# The state machine

Seven handlers change the state, and one call may run several of them. Each makes a move of the machine
below or none, so a whole call follows a path of moves. The moves that no path makes twice are those that
generate the SYN-ACK and the FIN. A flush sends the header that lies in the packetizer, so it repeats the FIN
when that was answered while a packet was deferred.
-/

namespace Gnirehtet.Relay
open Lib Relation

/-- The moves of the machine. -/
inductive TcpState.Moves : TcpState → TcpState → Prop where
  | syn : Moves .init .synSent
  | connected : Moves .synSent .synReceived
  | handshake : Moves .synReceived .established
  | deviceFin : Moves .established .lastAck
  | eof : Moves .established .finWait1
  | finAck : Moves .finWait1 .finWait2
  | bothFins : Moves .finWait1 .closing

namespace TcpConnection

/-! ### The path of a call -/

/-- The number of the FIN is recorded in the states that follow the FIN, and only there. -/
def Recorded (c : TcpConnection) : Prop := c.tcb.finSequenceNumber.isSome = true ↔ c.tcb.state.isClosed = true

structure Advances (c c' : TcpConnection) : Prop where
  moves : ReflTransGen TcpState.Moves c.tcb.state c'.tcb.state
  record : c.Recorded → c'.Recorded ∧ ∀ n, c.tcb.finSequenceNumber = some n → c'.tcb.finSequenceNumber = some n
  closed : c.closed = true → c'.closed = true

theorem Advances.refl (c : TcpConnection) : Advances c c := ⟨.refl, fun recorded => ⟨recorded, fun _ => id⟩, id⟩

theorem Advances.trans {a b c : TcpConnection} (h : Advances a b) (h' : Advances b c) : Advances a c where
  moves := h.moves.trans h'.moves
  record := by
    intro recorded
    obtain ⟨recorded, kept⟩ := h.record recorded
    obtain ⟨recorded, kept'⟩ := h'.record recorded
    exact ⟨recorded, fun n some => kept' n (kept n some)⟩
  closed := fun was => h'.closed (h.closed was)

theorem Advances.of_acts {act : TcpConnection → TcpConnection → Prop} {c c' : TcpConnection}
    (step : ∀ a b, act a b → Advances a b) (acts : ReflTransGen act c c') : Advances c c' :=
  acts_invariant (P := Advances c) (fun a b h one => h.trans (step a b one)) acts (.refl c)

/-- A call that leaves the state and the number of the FIN alone. -/
theorem Advances.still {c c' : TcpConnection} (state : c'.tcb.state = c.tcb.state)
    (fin : c'.tcb.finSequenceNumber = c.tcb.finSequenceNumber) (closed : c.closed = true → c'.closed = true) :
    Advances c c' where
  moves := by rw [state]
  record := by
    intro recorded
    rw [Recorded, state, fin]
    exact ⟨recorded, fun _ => id⟩
  closed := closed

/-- A call that makes one move and sends no FIN. -/
theorem Advances.move {c c' : TcpConnection} (moves : TcpState.Moves c.tcb.state c'.tcb.state)
    (fin : c'.tcb.finSequenceNumber = c.tcb.finSequenceNumber)
    (phase : c'.tcb.state.isClosed = c.tcb.state.isClosed) (closed : c.closed = true → c'.closed = true) :
    Advances c c' where
  moves := .single moves
  record := by
    intro recorded
    rw [Recorded, phase, fin]
    exact ⟨recorded, fun _ => id⟩
  closed := closed

/-- A call that leaves Established with a FIN, of which no number was recorded before. -/
theorem Advances.finish {c c' : TcpConnection} (established : c.tcb.state = .established)
    (moves : TcpState.Moves .established c'.tcb.state) {n : UInt32} (fin : c'.tcb.finSequenceNumber = some n)
    (phase : c'.tcb.state.isClosed = true) (closed : c.closed = true → c'.closed = true) : Advances c c' where
  moves := by
    rw [established]
    exact .single moves
  record := by
    intro recorded
    refine ⟨by simp only [Recorded, fin, phase, Option.isSome_some], fun m before => ?_⟩
    have was := recorded.mp (by rw [before]; rfl)
    rw [established] at was
    cases was
  closed := closed

theorem advances_reply (c : TcpConnection) (flags : UInt16) : Advances c (c.sendEmptyPacketToClient flags) :=
  .still (by simp) (by simp) (by simp)

theorem advances_close (c : TcpConnection) : Advances c c.close := .still rfl rfl fun _ => rfl

theorem advances_doHandleFin (c : TcpConnection) : Advances c c.doHandleFin := by
  unfold doHandleFin
  dsimp only
  split_ifs with established finWait1 finWait2
  · exact .finish established .deviceFin rfl rfl (by simp)
  · refine .move (by rw [finWait1]; exact .bothFins) (by simp) (by rw [finWait1]; rfl) (by simp)
  · exact .still (by simp [close]) (by simp [close]) fun _ => rfl
  · exact .still rfl rfl id

theorem advances_handleFinAck (c : TcpConnection) : Advances c c.handleFinAck := by
  unfold handleFinAck
  split_ifs with last finWait1
  · exact advances_close c
  · exact .move (by rw [finWait1]; exact .finAck) rfl (by rw [finWait1]; rfl) id
  · exact .refl c

theorem advances_eof {c : TcpConnection} (established : c.tcb.state = .established) : Advances c c.eof :=
  .finish established .eof rfl rfl (by simp [eof])

theorem deviceAct_advances {s : Segment} {c c' : TcpConnection} (act : DeviceAct s c c') : Advances c c' := by
  cases act with
  | reply flags plain => exact advances_reply c flags
  | close => exact advances_close c
  | establish half => exact .move (by rw [half]; exact .handshake) rfl (by rw [half]; rfl) id
  | consumeFin received drained => exact advances_doHandleFin c
  | finAck => exact advances_handleFinAck c
  | _ => exact .still rfl rfl id

theorem opens_advances {s : Segment} {random : UInt32} {c c' : TcpConnection} (opens : Opens s random c c') :
    Advances c c' := by
  cases opens with
  | syn init isSyn => exact .move (by rw [init]; exact .syn) rfl (by rw [init]; rfl) id
  | stray init noSyn => exact .still rfl rfl id
  | again connecting isSyn => exact .still rfl rfl id
  | later begun settled => exact .refl c

theorem handlePacket_advances (c : TcpConnection) (s : Segment) (random : UInt32) :
    Advances c (c.handlePacket s random) :=
  handlePacket_invariant (fun _ => opens_advances) fun _ _ h act => h.trans (deviceAct_advances act)

theorem advances_receiveOne {c : TcpConnection} (answer : ReadAnswer) (established : c.tcb.state = .established) :
    Advances c (c.receiveOne answer).1 := by
  have turn := c.receiveOne_turn answer
  generalize c.receiveOne answer = result at turn ⊢
  cases turn with
  | sent p packet buffer ok fits => exact .still rfl rfl id
  | deferred p packet e ok full => exact .still rfl rfl id
  | ended p ok =>
    have read : Advances c { c with networkToClient := p } := .still rfl rfl id
    exact read.trans (advances_eof established)
  | blocked => exact .still rfl rfl id
  | failed => exact .still (by simp [close]) (by simp [close]) fun _ => rfl

theorem flush_advances {c c' : TcpConnection} (flushed : c.flushPendingPacket = .ok c') : Advances c c' := by
  cases flushes flushed with
  | nothing free => exact .refl c
  | sent len buffer waiting fits => exact .still rfl rfl id

theorem networkAct_advances {a : PollAnswers} {c c' : TcpConnection} (act : NetworkAct a c c') : Advances c c' := by
  cases act with
  | flush _ pending flushed => exact flush_advances flushed
  | write buffer bytes written => exact .still rfl rfl id
  | reply flags free plain => exact advances_reply c flags
  | close => exact advances_close c
  | consumeFin free received drained => exact advances_doHandleFin c
  | receive _ turn =>
    obtain ⟨answer, given, free, established, window⟩ := turn
    exact advances_receiveOne answer established
  | connect free connecting =>
    refine .move ?_ (by simp [processConnect]) ?_ (by simp [processConnect])
    · rw [connecting, processConnect]
      simpa using TcpState.Moves.connected
    · rw [connecting, processConnect]
      simp [TcpState.isClosed]

theorem step_advances (c : TcpConnection) (event : Event) : Advances c (c.step event) := by
  cases event with
  | packet s random => exact handlePacket_advances c s random
  | poll answers => exact .of_acts (fun _ _ => networkAct_advances) (pollSelf_acts c answers)
  | shared buffer => exact .still rfl rfl id

theorem created_recorded {buffer : StreamBuffer} {ipHeader : IpHeader} {transportHeader : TransportHeader}
    {c : TcpConnection} (created : create buffer ipHeader transportHeader = .ok c) : c.Recorded := by
  rw [create_eq created]
  exact iff_of_false nofun nofun

theorem run_recorded {c : TcpConnection} (recorded : c.Recorded) (events : List Event) :
    (run step c events).Recorded :=
  run_always (fun c event h => ((step_advances c event).record h).1) recorded events

/-! ### The SYN-ACK and the FIN -/

/-- The packets among the effects that carry the flag. -/
def flagged (flag : UInt16) (effects : List Effect) : Nat :=
  effects.countP fun e => e.packet.any fun packet => packet.tcp.flags &&& flag != 0

theorem flagged_append (flag : UInt16) (first second : List Effect) :
    flagged flag (first ++ second) = flagged flag first + flagged flag second := List.countP_append

theorem flagged_silent (flag : UInt16) {effects : List Effect} (silent : ∀ e ∈ effects, e.packet = none) :
    flagged flag effects = 0 := by
  rw [flagged, List.countP_eq_zero]
  intro e member
  rw [silent e member]
  exact Bool.false_ne_true

/-- Whether the SYN-ACK was generated. -/
def connects (c : TcpConnection) : Nat := if c.tcb.state = .init ∨ c.tcb.state = .synSent then 0 else 1

/-- Whether the FIN was generated. -/
def finishes (c : TcpConnection) : Nat := if c.tcb.state.isClosed then 1 else 0

/-- From `c` to `c'` the SYN-ACK and the FIN are generated exactly with the moves that they belong to. -/
def Generates (c c' : TcpConnection) : Prop :=
  ∃ effects, c'.history = c.history ++ effects ∧ c.connects + flagged flagSyn effects = c'.connects ∧
    c.finishes + flagged flagFin effects = c'.finishes

theorem Generates.trans {a b c : TcpConnection} (h : Generates a b) (h' : Generates b c) : Generates a c := by
  obtain ⟨first, history, syn, fin⟩ := h
  obtain ⟨second, history', syn', fin'⟩ := h'
  refine ⟨first ++ second, by rw [history', history, List.append_assoc], ?_, ?_⟩
  · rw [flagged_append, ← Nat.add_assoc, syn, syn']
  · rw [flagged_append, ← Nat.add_assoc, fin, fin']

/-- A call that generates neither and makes no move that would. -/
theorem Generates.silent {c c' : TcpConnection} {effects : List Effect} (history : c'.history = c.history ++ effects)
    (silent : ∀ e ∈ effects, e.packet = none) (connects : c'.connects = c.connects)
    (finishes : c'.finishes = c.finishes) : Generates c c' := by
  refine ⟨effects, history, ?_, ?_⟩
  · rw [flagged_silent _ silent, connects, Nat.add_zero]
  · rw [flagged_silent _ silent, finishes, Nat.add_zero]

theorem Generates.same {c c' : TcpConnection} (history : c'.history = c.history) (connects : c'.connects = c.connects)
    (finishes : c'.finishes = c.finishes) : Generates c c' :=
  .silent (history.trans (List.append_nil _).symm) (fun _ member => by cases member) connects finishes

theorem Generates.refl (c : TcpConnection) : Generates c c := .same rfl rfl rfl

theorem Generates.effect {c c' : TcpConnection} (e : Effect) (history : c'.history = c.history ++ [e])
    (silent : e.packet = none) (connects : c'.connects = c.connects) (finishes : c'.finishes = c.finishes) :
    Generates c c' := by
  refine .silent history ?_ connects finishes
  intro e' member
  rw [List.mem_singleton.mp member]
  exact silent

section Reply
variable {c : TcpConnection} (carries : c.networkToClient.CarriesTcp)
include carries

/-- A control packet carries the flags that it was asked for. -/
theorem flagged_reply (flags : UInt16) : ∃ e, (c.sendEmptyPacketToClient flags).history = c.history ++ [e] ∧
    ∀ flag, flagged flag [e] = if flags &&& 0x1FF &&& flag != 0 then 1 else 0 := by
  obtain ⟨buffer, packet, e, tcp, _, how, same⟩ := sendEmptyPacketToClient_builds carries flags
  refine ⟨e, by rw [same], fun flag => ?_⟩
  have some : e.packet = some packet := by
    rw [how]
    split <;> rfl
  rw [flagged, List.countP_singleton, some, Option.any_some, tcp]
  rfl

theorem generates_reply {flags : UInt16} (plain : Plain flags) : Generates c (c.sendEmptyPacketToClient flags) := by
  obtain ⟨e, history, counts⟩ := flagged_reply carries flags
  have noSyn := counts flagSyn
  have noFin := counts flagFin
  have header := c.plain_header plain
  rw [TcpHeaderData.isSyn, TcpHeaderData.isFin, TcpConnection.header] at header
  rw [if_neg (by simp [header.1])] at noSyn
  rw [if_neg (by simp [header.2])] at noFin
  exact ⟨[e], history, by rw [noSyn]; simp [connects], by rw [noFin]; simp [finishes]⟩

/-- The FIN of `eof` and of `do_handle_fin`, sent from Established and followed by the move. -/
theorem generates_fin {c₁ c₂ : TcpConnection} {quiet : List Effect} (history : c.history = c₁.history ++ quiet)
    (silent : ∀ e ∈ quiet, e.packet = none) (established : c₁.tcb.state = .established)
    (sent : c₂.history = (c.sendEmptyPacketToClient (flagFin ||| flagAck)).history)
    (closes : c₂.tcb.state.isClosed = true) : Generates c₁ c₂ := by
  obtain ⟨e, appended, counts⟩ := flagged_reply carries (flagFin ||| flagAck)
  have connected : c₁.connects = 1 ∧ c₁.finishes = 0 := by simp [connects, finishes, established, TcpState.isClosed]
  have finished : c₂.connects = 1 ∧ c₂.finishes = 1 := by
    rw [connects, finishes, if_pos closes]
    refine ⟨if_neg ?_, rfl⟩
    rintro (early | early) <;> rw [early] at closes <;> cases closes
  refine ⟨quiet ++ [e], by rw [sent, appended, history, List.append_assoc], ?_, ?_⟩
  · rw [flagged_append, flagged_silent _ silent, counts, connected.1, finished.1]
    decide
  · rw [flagged_append, flagged_silent _ silent, counts, connected.2, finished.2]
    decide

theorem generates_doHandleFin : Generates c c.doHandleFin := by
  let consumed : TcpConnection := { c with
    tcb.acknowledgementNumber := c.tcb.acknowledgementNumber + 1
    history := c.history ++ [Effect.finConsumed] }
  have same : Generates c consumed := .effect .finConsumed rfl rfl rfl rfl
  have read : consumed.networkToClient.CarriesTcp := carries
  have silent : ∀ e ∈ [Effect.finConsumed], e.packet = none := by
    intro e member
    rw [List.mem_singleton.mp member]
    rfl
  unfold doHandleFin
  dsimp only
  split_ifs with established finWait1 finWait2
  · exact generates_fin read rfl silent established rfl rfl
  · refine (same.trans (generates_reply read (.inl rfl))).trans (.same rfl ?_ ?_)
    · simp [connects, consumed, finWait1]
    · simp [finishes, consumed, finWait1, TcpState.isClosed]
  · exact (same.trans (generates_reply read (.inl rfl))).trans (.same rfl rfl rfl)
  · exact same

theorem generates_processConnect (connecting : c.tcb.state = .synSent) : Generates c c.processConnect := by
  let received : TcpConnection := { c with tcb.state := .synReceived }
  have read : received.networkToClient.CarriesTcp := carries
  obtain ⟨e, history, counts⟩ := flagged_reply read (flagSyn ||| flagAck)
  have before : c.connects = 0 ∧ c.finishes = 0 := by simp [connects, finishes, connecting, TcpState.isClosed]
  have after : c.processConnect.connects = 1 ∧ c.processConnect.finishes = 0 := by
    simp [connects, finishes, processConnect, TcpState.isClosed]
  refine ⟨[e], history, ?_, ?_⟩
  · rw [counts, before.1, after.1]
    decide
  · rw [counts, before.2, after.2]
    decide

theorem generates_receiveOne (answer : ReadAnswer) (established : c.tcb.state = .established) :
    Generates c (c.receiveOne answer).1 := by
  have small := c.maxPayload_lt
  have updated := carriesTcp_updateHeaders carries (flagAck ||| flagPsh)
  -- The packet that was read has neither flag.
  have data {p : Packetizer} {packet : IpPacket} (ok : (updateHeaders c.networkToClient c.tcb (flagAck ||| flagPsh)
        c.advertisedWindow).packetizeRead answer (some (min c.tcb.remainingClientWindow.toNat maxPayloadLength)) =
        .ok (p, some packet)) (c' : TcpConnection) (e : Effect) (about : e.packet = some packet)
      (history : c'.history = c.history ++ [Effect.received (packet.raw.drop p.payloadIndex), e])
      (state : c'.tcb.state = c.tcb.state) : Generates c c' := by
    have header : packet.tcp.flags = (flagAck ||| flagPsh) &&& 0x1FF := by
      rw [(packetizeRead_carries updated ok small).2.2 packet rfl, tcp_updateHeaders carries]
      rfl
    have plain (flag : UInt16) (other : (flagAck ||| flagPsh) &&& 0x1FF &&& flag = 0) {bytes : List UInt8} :
        flagged flag [Effect.received bytes, e] = 0 := by
      rw [flagged, List.countP_cons, List.countP_singleton, about, Option.any_some, header, other]
      rfl
    refine ⟨_, history, ?_, ?_⟩
    · rw [plain flagSyn (by decide), connects, connects, state, Nat.add_zero]
    · rw [plain flagFin (by decide), finishes, finishes, state, Nat.add_zero]
  have turn := c.receiveOne_turn answer
  generalize c.receiveOne answer = result at turn ⊢
  cases turn with
  | sent p packet buffer ok fits => exact data ok _ _ rfl (List.append_assoc _ _ _) rfl
  | deferred p packet e ok full => exact data ok _ _ rfl (List.append_assoc _ _ _) rfl
  | ended p ok =>
    have read : ({ c with
        networkToClient := p
        tcb.acknowledgementNumber := c.tcb.acknowledgementNumber + 1
        history := c.history ++ [Effect.eof] } : TcpConnection).networkToClient.CarriesTcp :=
      (packetizeRead_carries updated ok small).1
    refine generates_fin read rfl ?_ established rfl rfl
    intro e member
    rw [List.mem_singleton.mp member]
    rfl
  | blocked => exact .same rfl rfl rfl
  | failed =>
    generalize updateHeaders c.networkToClient c.tcb (flagAck ||| flagPsh) c.advertisedWindow = p at updated
    have reset : ({ c with networkToClient := p } : TcpConnection).networkToClient.CarriesTcp := updated
    have replied := generates_reply reset (.inr rfl)
    exact (Generates.same rfl rfl rfl).trans (replied.trans (.same rfl rfl rfl))

theorem generates_processSend (answer : WriteAnswer) : Generates c (c.processSend answer).1 := by
  unfold processSend
  cases written : c.clientToNetwork.writeTo answer with
  | ok result =>
    obtain ⟨clientToNetwork, bytes⟩ := result
    let wrote : TcpConnection := { c with clientToNetwork, history := c.history ++ [Effect.written bytes] }
    have same : Generates c wrote := .effect (.written bytes) rfl rfl rfl rfl
    have read : wrote.networkToClient.CarriesTcp := carries
    dsimp only
    split_ifs
    · exact same.trans (generates_doHandleFin read)
    · exact same.trans (generates_reply read (.inl rfl))
    · exact same.trans (.same rfl rfl rfl)
  | error e =>
    cases e with
    | wouldBlock => exact .refl c
    | other => exact (generates_reply carries (.inr rfl)).trans (.same rfl rfl rfl)

theorem deviceAct_generates {s : Segment} {c' : TcpConnection} (act : DeviceAct s c c') : Generates c c' := by
  cases act with
  | reply flags plain => exact generates_reply carries plain
  | establish half => exact .same rfl (by simp [connects, half]) (by simp [finishes, half, TcpState.isClosed])
  | store inSequence ready data fits => exact .effect _ rfl rfl rfl rfl
  | consumeFin received drained => exact generates_doHandleFin carries
  | finAck =>
    unfold handleFinAck
    split_ifs with last finWait1
    · exact .same rfl rfl rfl
    · exact .same rfl (by simp [connects, finWait1]) (by simp [finishes, finWait1, TcpState.isClosed])
    · exact .refl c
  | _ => exact .same rfl rfl rfl

theorem handlePacket_generates (s : Segment) (random : UInt32) : Generates c (c.handlePacket s random) := by
  have invariant : (c.handlePacket s random).networkToClient.CarriesTcp ∧ Generates c (c.handlePacket s random) := by
    refine handlePacket_invariant (P := fun c' => c'.networkToClient.CarriesTcp ∧ Generates c c') ?_ ?_
    · intro c' opens
      cases opens with
      | syn init isSyn =>
        exact ⟨carries, .same rfl (by simp [connects, init]) (by simp [finishes, init, TcpState.isClosed])⟩
      | stray init noSyn => exact ⟨carries, .same rfl rfl rfl⟩
      | again connecting isSyn => exact ⟨carries, .same rfl rfl rfl⟩
      | later begun settled => exact ⟨carries, .refl c⟩
    · intro a b h act
      exact ⟨deviceAct_carriesTcp h.1 act, h.2.trans (deviceAct_generates h.1 act)⟩
  exact invariant.2

/-- After its flush a poll sends, receives and connects. -/
theorem pollPath_generates {a : PollAnswers} {flushed sent received last : TcpConnection}
    (path : PollPath c a flushed sent received last) : Generates flushed last := by
  have atFlushed : flushed.networkToClient.CarriesTcp :=
    acts_invariant (P := fun c => c.networkToClient.CarriesTcp) (fun _ _ => networkAct_carriesTcp)
      (flush_acts a path.flush) carries
  have toSent : sent.networkToClient.CarriesTcp ∧ Generates flushed sent := by
    rcases path.send with same | same <;> rw [same]
    · exact ⟨atFlushed, .refl flushed⟩
    · exact ⟨acts_invariant (P := fun c => c.networkToClient.CarriesTcp) (fun _ _ => networkAct_carriesTcp)
        (processSend_acts flushed a (flushPendingPacket_free path.flush)).1 atFlushed,
        generates_processSend atFlushed a.send⟩
  have toReceived : received.networkToClient.CarriesTcp ∧ Generates flushed received := by
    refine acts_invariant (P := fun c => c.networkToClient.CarriesTcp ∧ Generates flushed c) ?_ path.receive toSent
    intro b b' h turn
    have carried := networkAct_carriesTcp h.1 (.receive (a := { a with reads := c.readsOf a }) b b' turn)
    obtain ⟨answer, given, free, established, window⟩ := turn
    exact ⟨carried, h.2.trans (generates_receiveOne h.1 answer established)⟩
  rcases path.connect with same | ⟨connecting, same | same⟩ <;> rw [same]
  · exact toReceived.2
  · exact toReceived.2.trans (generates_processConnect toReceived.1 connecting)
  · exact toReceived.2.trans (.same rfl rfl rfl)

end Reply

/-! ### The flush -/

/-- A deferred packet lies in the packetizer under a header without the flag. -/
def Spares (flag : UInt16) (c : TcpConnection) : Prop :=
  ∀ len, c.packetForClientLength = some len →
    c.networkToClient.tcp.flags &&& flag = 0 ∧ c.networkToClient.payloadIndex ≤ len.toNat

theorem spares_free {flag : UInt16} {c : TcpConnection} (free : c.packetForClientLength = none) : c.Spares flag := by
  intro len some
  cases free.symm.trans some

theorem Spares.quiet {flag : UInt16} {c c' : TcpConnection} (spares : c.Spares flag) (quiet : Quiet c c') :
    c'.Spares flag := by
  intro len some
  rw [quiet.networkToClient]
  exact spares len (quiet.packetForClientLength ▸ some)

theorem Spares.reply {flag flags : UInt16} {c : TcpConnection} (spares : c.Spares flag)
    (carries : c.networkToClient.CarriesTcp) (absent : flags &&& 0x1FF &&& flag = 0) :
    (c.sendEmptyPacketToClient flags).Spares flag := by
  intro len some
  rw [packetForClientLength_sendEmptyPacketToClient] at some
  rw [networkToClient_sendEmptyPacketToClient, (tcp_createEmptyResponsePacket carries flags).2.1]
  exact ⟨absent, (spares len some).2⟩

/-- What the flush appends does not carry a flag that the deferred packet is spared. -/
theorem flush_flagged {flag : UInt16} {c c' : TcpConnection} (carries : c.networkToClient.CarriesTcp)
    (spares : c.Spares flag) (flushed : c.flushPendingPacket = .ok c') :
    flagged flag c'.history = flagged flag c.history := by
  cases flushes flushed with
  | nothing free => rfl
  | sent len buffer waiting fits =>
    obtain ⟨absent, long⟩ := spares len waiting
    rw [flagged_append, flagged, flagged, List.countP_singleton, Effect.packet, Option.any_some,
      Packetizer.tcp_inflate carries long, absent]
    rfl

theorem plain_absent {flags : UInt16} (plain : Plain flags) :
    flags &&& 0x1FF &&& flagSyn = 0 ∧ flags &&& 0x1FF &&& flagFin = 0 := by
  rcases plain with ack | rst
  · rw [ack]
    decide
  · rw [rst]
    decide

/-- No device packet makes the relay build a SYN. -/
theorem deviceAct_spares {s : Segment} {c c' : TcpConnection} (carries : c.networkToClient.CarriesTcp)
    (spares : c.Spares flagSyn) (act : DeviceAct s c c') : c'.Spares flagSyn := by
  cases act with
  | reply flags plain => exact spares.reply carries (plain_absent plain).1
  | consumeFin received drained =>
    have consumed : ({ c with
        tcb.acknowledgementNumber := c.tcb.acknowledgementNumber + 1
        history := c.history ++ [Effect.finConsumed] } : TcpConnection).Spares flagSyn := spares
    unfold doHandleFin
    dsimp only
    split_ifs
    · exact consumed.reply carries (by decide)
    · exact consumed.reply carries (by decide)
    · exact consumed.reply carries (by decide)
    · exact consumed
  | finAck => exact spares.quiet (quiet_handleFinAck c)
  | _ => exact spares

theorem receiveOne_spares {flag : UInt16} {c : TcpConnection} (carries : c.networkToClient.CarriesTcp)
    (free : c.packetForClientLength = none) (answer : ReadAnswer)
    (absent : (flagAck ||| flagPsh) &&& 0x1FF &&& flag = 0) : (c.receiveOne answer).1.Spares flag := by
  have turn := c.receiveOne_turn answer
  generalize c.receiveOne answer = result at turn ⊢
  cases turn with
  | sent p packet buffer ok fits => exact spares_free free
  | deferred p packet e ok full =>
    have left := (packetizeRead_carries (carriesTcp_updateHeaders carries _) ok c.maxPayload_lt).2.1
    have reads := Packetizer.packetizeRead_some ok c.maxPayload_lt
    intro len some
    cases some
    rw [left, tcp_updateHeaders carries]
    refine ⟨absent, ?_⟩
    show p.payloadIndex ≤ packet.length.toNat
    rw [reads.total, reads.length, reads.payloadIndex]
    exact Nat.le_add_right _ _
  | ended p ok => exact spares_free (by simpa [eof] using free)
  | blocked => exact spares_free free
  | failed => exact spares_free (by simpa [close] using free)

/-- A poll defers under a data header, and builds nothing else while a packet is deferred. -/
theorem networkAct_spares {flag : UInt16} {a : PollAnswers} {c c' : TcpConnection}
    (carries : c.networkToClient.CarriesTcp) (absent : (flagAck ||| flagPsh) &&& 0x1FF &&& flag = 0)
    (spares : c.Spares flag) (act : NetworkAct a c c') : c'.Spares flag := by
  cases act with
  | flush _ pending flushed => exact spares_free (flushPendingPacket_free flushed)
  | write buffer bytes written => exact spares
  | reply flags free plain => exact spares_free (by simpa using free)
  | close => exact spares
  | consumeFin free received drained => exact spares_free (by simpa using free)
  | receive _ turn =>
    obtain ⟨answer, given, free, established, window⟩ := turn
    exact receiveOne_spares carries free answer absent
  | connect free connecting => exact spares_free (by simpa [processConnect] using free)

theorem pollSelf_spares {flag : UInt16} {c : TcpConnection} (a : PollAnswers)
    (carries : c.networkToClient.CarriesTcp) (absent : (flagAck ||| flagPsh) &&& 0x1FF &&& flag = 0)
    (spares : c.Spares flag) : (c.pollSelf a).1.Spares flag := by
  refine (acts_invariant (P := fun c => c.networkToClient.CarriesTcp ∧ c.Spares flag) ?_ (pollSelf_acts c a)
    ⟨carries, spares⟩).2
  intro m m' h act
  exact ⟨networkAct_carriesTcp h.1 act, networkAct_spares h.1 absent h.2 act⟩

/-! ### The FIN of the device -/

/-- The relay answers the FIN of the segment with its own: the segment is expected, nothing is left upstream,
and the connection is Established. -/
structure AnswersWithFin (c : TcpConnection) (s : Segment) : Prop where
  noSyn : s.header.isSyn = false
  expected : s.header.sequenceNumber = c.tcb.acknowledgementNumber
  noRst : s.header.isRst = false
  isFin : s.header.isFin = true
  drained : c.clientToNetwork.isEmpty = true
  noData : ¬ c.Stores s
  established : c.stateAfterAck s = .established

theorem state_takeAck (c : TcpConnection) (s : Segment) : (c.takeAck s).tcb.state = c.stateAfterAck s := by
  unfold takeAck handleAck stateAfterAck
  split_ifs <;> simp_all [storePayload]

/-- Nothing is left upstream after a segment that stored nothing, and nothing was left before. -/
theorem isEmpty_takeAck {c : TcpConnection} {s : Segment} (empty : (c.takeAck s).clientToNetwork.isEmpty = true) :
    c.clientToNetwork.isEmpty = true ∧ ¬ c.Stores s := by
  rcases c.takeAck_upstream s with ⟨noData, same⟩ | ⟨stores, same⟩
  · rw [same.clientToNetwork] at empty
    exact ⟨empty, noData⟩
  · rw [same.clientToNetwork, storePayload, StreamBuffer.isEmpty_iff, StreamBuffer.content_readFrom stores.2.2.2] at empty
    exact absurd (List.append_eq_nil_iff.mp empty).2 stores.2.2.1

section Device
variable {c : TcpConnection} (carries : c.networkToClient.CarriesTcp)
include carries

theorem doHandleFin_spares (spares : c.Spares flagFin) (later : c.tcb.state ≠ .established) :
    c.doHandleFin.Spares flagFin := by
  have consumed : ({ c with
      tcb.acknowledgementNumber := c.tcb.acknowledgementNumber + 1
      history := c.history ++ [Effect.finConsumed] } : TcpConnection).Spares flagFin := spares
  have answered := consumed.reply carries (show flagAck &&& 0x1FF &&& flagFin = 0 by decide)
  unfold doHandleFin
  dsimp only
  rw [if_neg later]
  split_ifs
  · exact answered
  · exact answered
  · exact consumed

theorem takeAck_spares (s : Segment) (spares : c.Spares flagFin) :
    (c.takeAck s).networkToClient.CarriesTcp ∧ (c.takeAck s).Spares flagFin := by
  have reply (c' : TcpConnection) (carries : c'.networkToClient.CarriesTcp) (spares : c'.Spares flagFin) :
      (c'.sendEmptyPacketToClient flagAck).networkToClient.CarriesTcp ∧
        (c'.sendEmptyPacketToClient flagAck).Spares flagFin := by
    rw [networkToClient_sendEmptyPacketToClient]
    exact ⟨(tcp_createEmptyResponsePacket carries flagAck).2.2, spares.reply carries (by decide)⟩
  unfold takeAck handleAck
  split_ifs
  · exact ⟨carries, spares⟩
  · exact ⟨carries, spares⟩
  · exact reply c carries spares
  · exact reply _ carries spares
  · exact ⟨carries, spares⟩

theorem takeFin_spares {s : Segment} (spares : c.Spares flagFin)
    (unanswered : s.header.isFin = true → c.clientToNetwork.isEmpty = true → c.tcb.state ≠ .established) :
    (c.takeFin s).Spares flagFin := by
  unfold takeFin handleFin
  split_ifs with fin
  · dsimp only
    split_ifs with drained
    · exact doHandleFin_spares (c := { c with tcb.finReceived := true }) carries spares (unanswered fin drained)
    · exact spares
  · exact spares

/-- A segment whose FIN is not answered leaves no FIN over the deferred packet. -/
theorem handlePacket_spares {s : Segment} (random : UInt32) (spares : c.Spares flagFin)
    (unanswered : ¬ c.AnswersWithFin s) : (c.handlePacket s random).Spares flagFin := by
  unfold handlePacket
  split_ifs with init syn other older
  · unfold handleFirstPacket
    split_ifs
    · exact spares
    · exact Spares.reply (c := { c with tcb.sequenceNumber := s.header.acknowledgementNumber }) spares carries
        (by decide)
  · unfold handleDuplicateSyn
    split_ifs
    · exact spares
    · exact spares.reply carries (by decide)
    · exact spares
  · exact spares.reply carries (by decide)
  · exact spares
  unfold handleExpected
  split_ifs with rst
  · exact spares
  obtain ⟨carries', acked⟩ := takeAck_spares (c := c.expectedPacket s) carries s spares
  refine Spares.quiet (takeFin_spares carries' acked ?_) (quiet_checkFinAck _ s)
  intro fin empty established
  obtain ⟨drained, noData⟩ := isEmpty_takeAck empty
  rw [state_takeAck] at established
  exact unanswered ⟨by simpa using syn, by simpa using other, by simpa using rst, fin, drained, noData, established⟩

end Device

/-! ### Runs -/

/-- While a packet is deferred, no FIN of the device is answered with the relay's own. -/
def FinWaits (c : TcpConnection) : Event → Prop
  | .packet s _ => c.packetForClientLength.isSome = true → ¬ c.AnswersWithFin s
  | _ => True

/-- A step generates what its moves ask for, after a flush that changes neither the state nor the counts. -/
theorem step_generates {c : TcpConnection} (carries : c.networkToClient.CarriesTcp) (event : Event) :
    ∃ flushed, Generates flushed (c.step event) ∧ flushed.tcb.state = c.tcb.state ∧
      ∀ flag, c.Spares flag → flagged flag flushed.history = flagged flag c.history := by
  cases event with
  | packet s random => exact ⟨c, handlePacket_generates carries s random, rfl, fun _ _ => rfl⟩
  | poll a =>
    rcases pollSelf_cases c a with same | ⟨flushed, sent, received, path⟩
    · exact ⟨c, by rw [step, same]; exact .refl c, rfl, fun _ _ => rfl⟩
    · exact ⟨flushed, pollPath_generates carries path, flush_state path.flush,
        fun flag spares => flush_flagged carries spares path.flush⟩
  | shared buffer => exact ⟨c, .same rfl rfl rfl, rfl, fun _ _ => rfl⟩

theorem step_flagged {c : TcpConnection} (carries : c.networkToClient.CarriesTcp) (event : Event) :
    (c.Spares flagSyn → flagged flagSyn c.history = c.connects →
        flagged flagSyn (c.step event).history = (c.step event).connects) ∧
      (c.Spares flagFin → flagged flagFin c.history = c.finishes →
        flagged flagFin (c.step event).history = (c.step event).finishes) := by
  obtain ⟨flushed, ⟨effects, history, syn, fin⟩, state, kept⟩ := step_generates carries event
  rw [connects, state, ← connects] at syn
  rw [finishes, state, ← finishes] at fin
  rw [history, flagged_append, flagged_append]
  refine ⟨fun spares counted => ?_, fun spares counted => ?_⟩
  · rw [kept flagSyn spares, counted, syn]
  · rw [kept flagFin spares, counted, fin]

theorem step_sparesSyn {c : TcpConnection} (carries : c.networkToClient.CarriesTcp) (event : Event)
    (spares : c.Spares flagSyn) : (c.step event).Spares flagSyn := by
  cases event with
  | packet s random =>
    refine (handlePacket_invariant (P := fun c => c.networkToClient.CarriesTcp ∧ c.Spares flagSyn) ?_ ?_).2
    · intro c' opens
      cases opens <;> exact ⟨carries, spares⟩
    · intro m m' h act
      exact ⟨deviceAct_carriesTcp h.1 act, deviceAct_spares h.1 h.2 act⟩
  | poll a => exact pollSelf_spares a carries (by decide) spares
  | shared buffer => exact spares

theorem step_sparesFin {c : TcpConnection} (carries : c.networkToClient.CarriesTcp) (event : Event)
    (spares : c.Spares flagFin) (waits : c.FinWaits event) : (c.step event).Spares flagFin := by
  cases event with
  | packet s random =>
    cases pending : c.packetForClientLength with
    | none =>
      refine spares_free ?_
      refine handlePacket_invariant (P := fun c' => c'.packetForClientLength = none) ?_ ?_
      · intro c' opens
        cases opens <;> exact pending
      · intro m m' free act
        cases act with
        | finAck => exact (quiet_handleFinAck m).packetForClientLength.trans free
        | _ => simpa [close, expectedPacket, storePayload] using free
    | some len => exact handlePacket_spares carries random spares (waits (by rw [pending]; rfl))
  | poll a => exact pollSelf_spares a carries (by decide) spares
  | shared buffer => exact spares

/-- One SYN-ACK at most is generated in every run, and one FIN at most where the FIN waits. -/
theorem run_flagged {buffer : StreamBuffer} {ipHeader : IpHeader} {transportHeader : TransportHeader}
    {c : TcpConnection} (created : create buffer ipHeader transportHeader = .ok c) (events : List Event) :
    flagged flagSyn (run step c events).history = (run step c events).connects ∧
      (Along step FinWaits c events →
        flagged flagFin (run step c events).history = (run step c events).finishes) := by
  have carries := create_carriesTcp created
  have fresh := create_eq created
  have free : c.packetForClientLength = none := by rw [fresh]; rfl
  constructor
  · refine (run_always (P := fun c : TcpConnection => c.networkToClient.CarriesTcp ∧ c.Spares flagSyn ∧
      flagged flagSyn c.history = c.connects) ?_ ⟨carries, spares_free free, by rw [fresh]; rfl⟩ events).2.2
    intro c event h
    exact ⟨step_carriesTcp c event h.1, step_sparesSyn h.1 event h.2.1, (step_flagged h.1 event).1 h.2.1 h.2.2⟩
  · intro waits
    refine (run_invariant (P := fun c : TcpConnection => c.networkToClient.CarriesTcp ∧ c.Spares flagFin ∧
      flagged flagFin c.history = c.finishes) ?_ ⟨carries, spares_free free, by rw [fresh]; rfl⟩ waits).2.2
    intro c event h waits
    exact ⟨step_carriesTcp c event h.1, step_sparesFin h.1 event h.2.1 waits,
      (step_flagged h.1 event).2 h.2.1 h.2.2⟩

/-! ### Reads -/

/-- The reads of the socket that `poll_self` makes. -/
def pollReads (c : TcpConnection) (a : PollAnswers) : List (TcpConnection × ReadAnswer) :=
  if c.closed then []
  else
    match c.pollFlush >>= fun (c, madeProgress) => c.pollSend a.send madeProgress with
    | .ok (c, _) => if !c.closed && c.mayRead then c.readAttempts a.reads else []
    | .error _ => []

theorem receiveAttempts_established {n : Nat} {c : TcpConnection} {reads : List ReadAnswer}
    (established : c.tcb.state = .established) {attempt : TcpConnection × ReadAnswer}
    (member : attempt ∈ receiveAttempts n c reads) : attempt.1.tcb.state = .established := by
  induction n generalizing c reads with
  | zero => cases member
  | succ n ih =>
    unfold receiveAttempts at member
    split_ifs at member with pending empty
    · cases member
    · cases member
    · have free : c.packetForClientLength = none := by simpa using pending
      have state := receiveOne_state c (reads.headD (.error .wouldBlock)) free established
      rcases List.mem_cons.mp member with first | later
      · rw [first]
        exact established
      · rcases turn : c.receiveOne (reads.headD (.error .wouldBlock)) with ⟨c', _ | progress⟩
        · rw [turn] at later state
          exact ih (state.2 rfl).2 later
        · rw [turn] at later
          cases later

theorem pollReads_established {c : TcpConnection} {a : PollAnswers} {attempt : TcpConnection × ReadAnswer}
    (member : attempt ∈ c.pollReads a) : attempt.1.tcb.state = .established := by
  unfold pollReads at member
  split at member
  · cases member
  · split at member
    · rename_i c' madeProgress sent
      split at member
      · rename_i may
        rw [Bool.and_eq_true] at may
        exact receiveAttempts_established (mayRead_established may.2) member
      · cases member
    · cases member

/-- The reads of a step. -/
def stepReads (c : TcpConnection) : Event → List (TcpConnection × ReadAnswer)
  | .poll a => c.pollReads a
  | _ => []

/-- What one step of any run keeps to. -/
structure Disciplined (c : TcpConnection) (event : Event) : Prop where
  moves : ReflTransGen TcpState.Moves c.tcb.state (c.step event).tcb.state
  final : ∀ n, c.tcb.finSequenceNumber = some n → (c.step event).tcb.finSequenceNumber = some n
  reads : ∀ attempt ∈ c.stepReads event, attempt.1.tcb.state = .established
  closed : c.closed = true → (c.step event).closed = true

/-- In every run the state follows the machine, the number of the FIN is recorded in the closing states
and never changed, one SYN-ACK is generated at most, the socket is read in Established only and a closed
connection stays closed. One FIN is generated at most when none is answered while a packet is deferred. -/
theorem state_machine {buffer : StreamBuffer} {ipHeader : IpHeader} {transportHeader : TransportHeader}
    {c : TcpConnection} (created : create buffer ipHeader transportHeader = .ok c) (events : List Event) :
    ((run step c events).tcb.finSequenceNumber.isSome = true ↔
      (run step c events).tcb.state ∈ [.lastAck, .closing, .finWait1, .finWait2]) ∧
    flagged flagSyn (run step c events).history ≤ 1 ∧
    (Along step FinWaits c events → flagged flagFin (run step c events).history ≤ 1) ∧
    ∀ event, (run step c events).Disciplined event := by
  have recorded := run_recorded (created_recorded created) events
  obtain ⟨syn, fin⟩ := run_flagged created events
  have connects : (run step c events).connects ≤ 1 := by
    unfold TcpConnection.connects
    split <;> omega
  have finishes : (run step c events).finishes ≤ 1 := by
    unfold TcpConnection.finishes
    split <;> omega
  refine ⟨recorded.trans ?_, syn ▸ connects, fun waits => fin waits ▸ finishes, fun event => ?_⟩
  · cases (run step c events).tcb.state <;> decide
  · have advances := step_advances (run step c events) event
    refine ⟨advances.moves, (advances.record recorded).2, ?_, advances.closed⟩
    intro attempt member
    cases event with
    | poll a => exact pollReads_established member
    | packet s random => cases member
    | shared buffer => cases member

end TcpConnection

namespace Sample

/-- A handshake, and the device closes its side. -/
def closing : List Event := handshake ++ [lastSegment]

/-- The relay answers with the FIN that has the number 8. -/
theorem state_machine_closing : ∃ c₀ : TcpConnection, TcpConnection.create (.new 4096) ipHeader tcpHeader = .ok c₀ ∧
    let c := run TcpConnection.step c₀ closing
    c.tcb.finSequenceNumber = some 8 ∧ c.tcb.state ∈ [.lastAck, .closing, .finWait1, .finWait2] ∧
      TcpConnection.flagged flagSyn c.history ≤ 1 ∧ TcpConnection.flagged flagFin c.history ≤ 1 := by
  obtain ⟨c₀, created⟩ := created (.new 4096)
  refine ⟨c₀, created, ?_⟩
  have fresh := TcpConnection.create_eq created
  obtain ⟨recorded, syn, fin, _⟩ := TcpConnection.state_machine created closing
  obtain ⟨buffer, e, _, reached⟩ := run_handshake (.new 4096) c₀.networkToClient
  have number : (run TcpConnection.step c₀ closing).tcb.finSequenceNumber = some 8 := by
    have established' : (({ (established buffer (afterSynAck (.new 4096) c₀.networkToClient) e).expectedPacket
        (segment 101 8 (flagFin ||| flagAck) []) with tcb.finReceived := true }) : TcpConnection).tcb.state =
        .established := rfl
    rw [closing, run_concat, fresh, reached, lastSegment, TcpConnection.step,
      TcpConnection.handlePacket_fin 0 rfl rfl rfl rfl rfl (show (8 : UInt32) ≠ 8 + 1 by decide),
      TcpConnection.finSequenceNumber_doHandleFin established']
    rfl
  refine ⟨number, recorded.mp (by rw [number]; rfl), syn, fin ?_⟩
  -- No packet of the server comes, so none is deferred.
  have opening : Along TcpConnection.step TcpConnection.FinWaits (.fresh (.new 4096) c₀.networkToClient) handshake := by
    refine ⟨fun pending => (by cases pending), trivial, fun pending => ?_, trivial⟩
    rw [handshake_syn, handshake_connect, TcpConnection.processConnect] at pending
    simp [synSent, TcpConnection.fresh] at pending
  rw [closing, along_concat, fresh, reached]
  exact ⟨opening, fun pending => (by cases pending)⟩

/-- A FIN that is answered while a packet is deferred is sent twice: the flush repeats its header. -/
theorem overtaking_repeats_fin : ∃ c₀ : TcpConnection, TcpConnection.create (.new 4096) ipHeader tcpHeader = .ok c₀ ∧
    let c := run TcpConnection.step c₀ overtaking
    (∃ fin room data room', [Effect.appended fin room, Effect.appended data room'].Sublist c.history ∧
      fin.tcp.isFin = true ∧ data.tcp.isFin = true) ∧
    ¬ TcpConnection.flagged flagFin c.history ≤ 1 := by
  obtain ⟨c₀, fin, data, room, room', history, created, _, effects, _, isFin, _, isFin', _⟩ := run_overtaking
  refine ⟨c₀, created, ?_⟩
  dsimp only
  rw [effects]
  refine ⟨⟨fin, room, data, room', ?_, isFin, isFin'⟩, ?_⟩
  · rw [List.append_assoc]
    exact List.sublist_append_right _ _
  · have one (packet : IpPacket) (n : Nat) (isFin : packet.tcp.isFin = true) :
        TcpConnection.flagged flagFin [Effect.appended packet n] = 1 := by
      rw [TcpConnection.flagged, List.countP_singleton, Effect.packet, Option.any_some]
      exact if_pos isFin
    rw [TcpConnection.flagged_append, TcpConnection.flagged_append, one fin room isFin, one data room' isFin']
    omega

end Sample

end Gnirehtet.Relay
