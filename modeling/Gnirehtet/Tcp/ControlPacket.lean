import Gnirehtet.Tcp.Header

/-!
# The segments of SYN and FIN

SYN and FIN take up a sequence number each. The relay counts the number when it builds the segment,
whether the shared buffer takes it or not, and a control packet that finds no room is not kept.
-/

namespace Gnirehtet.Relay
open Lib Relation

namespace TcpConnection

/-- The calls that advance the sequence number by one for a flag. Before `eof` the receive loop has left
new headers in the packetizer. -/
inductive Spends : UInt16 → TcpConnection → TcpConnection → Prop where
  | processConnect (c : TcpConnection) : Spends flagSyn c c.processConnect
  | eof (c : TcpConnection) (p : Packetizer) (carries : p.CarriesTcp)
      (index : p.payloadIndex = c.networkToClient.payloadIndex) : Spends flagFin c { c with networkToClient := p }.eof
  | doHandleFin (c : TcpConnection) (established : c.tcb.state = .established) :
      Spends flagFin c c.doHandleFin

theorem Spends.advances {flag : UInt16} {c c' : TcpConnection} (spends : Spends flag c c') :
    c'.tcb.sequenceNumber = c.tcb.sequenceNumber + 1 := by
  cases spends with
  | processConnect => simp [TcpConnection.processConnect]
  | eof _ p carries index => simp [TcpConnection.eof]
  | doHandleFin _ established => simp [TcpConnection.doHandleFin, established]

/-- The call appended a segment with the flag and the number, or deferred one. -/
def Sent (flag : UInt16) (c c' : TcpConnection) : Prop :=
  ∃ effects packet, c'.history = c.history ++ effects ∧
    ((∃ room, .appended packet room ∈ effects) ∨ .deferred packet ∈ effects) ∧
    packet.tcp.flags &&& flag = flag ∧ packet.tcp.sequenceNumber = c.tcb.sequenceNumber

def HasRoom (c : TcpConnection) : Prop := c.networkToClient.payloadIndex ≤ c.buffer.remaining

instance (c : TcpConnection) : Decidable c.HasRoom := inferInstanceAs (Decidable (_ ≤ _))

theorem sent_iff {flag : UInt16} {c c' : TcpConnection} (quiet : List Effect) {packet : IpPacket}
    (history : c'.history = c.history ++ quiet ++
      [if c.HasRoom then .appended packet c.buffer.remaining else .skipped packet])
    (silent : ∀ e ∈ quiet, e.packet = none) (flags : packet.tcp.flags &&& flag = flag)
    (number : packet.tcp.sequenceNumber = c.tcb.sequenceNumber) : Sent flag c c' ↔ c.HasRoom := by
  rw [List.append_assoc] at history
  by_cases room : c.HasRoom
  · rw [if_pos room] at history
    exact iff_of_true ⟨_, packet, history, .inl ⟨_, List.mem_append_right _ List.mem_cons_self⟩, flags, number⟩ room
  · rw [if_neg room] at history
    refine iff_of_false ?_ room
    rintro ⟨effects, sent, history', kept, _⟩
    rw [history, List.append_cancel_left_eq] at history'
    rw [← history'] at kept
    rcases kept with ⟨n, member⟩ | member
    · rcases List.mem_append.mp member with early | last
      · cases silent _ early
      · cases List.mem_singleton.mp last
    · rcases List.mem_append.mp member with early | last
      · cases silent _ early
      · cases List.mem_singleton.mp last

/-- The segment of a SYN or FIN is sent exactly when the shared buffer has room for it. -/
theorem Spends.sent_iff {flag : UInt16} {c c' : TcpConnection} (spends : Spends flag c c')
    (carries : c.networkToClient.CarriesTcp) : Sent flag c c' ↔ c.HasRoom := by
  cases spends with
  | processConnect =>
    obtain ⟨buffer, packet, e, tcp, _, how, same⟩ := sendEmptyPacketToClient_builds
      (c := { c with tcb.state := .synReceived }) carries (flagSyn ||| flagAck)
    apply TcpConnection.sent_iff []
    · rw [TcpConnection.processConnect, same, List.append_nil]
      exact congrArg (c.history ++ [·]) how
    · intro e member
      cases member
    · rw [tcp]
      exact (by decide : (flagSyn ||| flagAck) &&& 0x1FF &&& flagSyn = flagSyn)
    · rw [tcp]
      rfl
  | eof _ p read index =>
    obtain ⟨buffer, packet, e, tcp, _, how, same⟩ := sendEmptyPacketToClient_builds
      (c := { c with
        networkToClient := p
        tcb.acknowledgementNumber := c.tcb.acknowledgementNumber + 1
        history := c.history ++ [Effect.eof] }) read (flagFin ||| flagAck)
    apply TcpConnection.sent_iff [.eof]
    · rw [TcpConnection.eof, same]
      dsimp only at how
      rw [index] at how
      exact congrArg (c.history ++ [Effect.eof] ++ [·]) how
    · intro e member
      rw [List.mem_singleton.mp member]
      rfl
    · rw [tcp]
      exact (by decide : (flagFin ||| flagAck) &&& 0x1FF &&& flagFin = flagFin)
    · rw [tcp]
      rfl
  | doHandleFin _ established =>
    obtain ⟨buffer, packet, e, tcp, _, how, same⟩ := sendEmptyPacketToClient_builds
      (c := { c with
        tcb.acknowledgementNumber := c.tcb.acknowledgementNumber + 1
        history := c.history ++ [Effect.finConsumed] }) carries (flagFin ||| flagAck)
    apply TcpConnection.sent_iff [.finConsumed]
    · rw [TcpConnection.doHandleFin, if_pos established, same]
      exact congrArg (c.history ++ [Effect.finConsumed] ++ [·]) how
    · intro e member
      rw [List.mem_singleton.mp member]
      rfl
    · rw [tcp]
      exact (by decide : (flagFin ||| flagAck) &&& 0x1FF &&& flagFin = flagFin)
    · rw [tcp]
      rfl

/-! ### Calls inside a step -/

/-- A call that a step makes on its way. -/
inductive Call : Event → TcpConnection → TcpConnection → Prop where
  | device {s : Segment} {random : UInt32} {c c' : TcpConnection} (act : DeviceAct s c c') :
      Call (.packet s random) c c'
  | network {a : PollAnswers} {c c' : TcpConnection} (act : NetworkAct a c c') : Call (.poll a) c c'

/-- The step from `c` makes the call that leads from `m` to `m'`. -/
structure Passes (c : TcpConnection) (event : Event) (m m' : TcpConnection) : Prop where
  before : ReflTransGen (Call event) c m
  call : Call event m m'
  after : ReflTransGen (Call event) m' (c.step event)

theorem call_carriesTcp {event : Event} {c c' : TcpConnection} (carries : c.networkToClient.CarriesTcp)
    (call : Call event c c') : c'.networkToClient.CarriesTcp := by
  cases call with
  | device act => exact deviceAct_carriesTcp carries act
  | network act => exact networkAct_carriesTcp carries act

theorem Passes.carriesTcp {c m m' : TcpConnection} {event : Event} (passes : Passes c event m m')
    (carries : c.networkToClient.CarriesTcp) : m.networkToClient.CarriesTcp :=
  acts_invariant (P := fun c => c.networkToClient.CarriesTcp) (fun _ _ => call_carriesTcp) passes.before carries

theorem handlePacket_calls {c c' : TcpConnection} {s : Segment} {random : UInt32}
    (acts : ReflTransGen (DeviceAct s) c c') : ReflTransGen (Call (.packet s random)) c c' :=
  ReflTransGen.mono (fun _ _ => Call.device) _ _ acts

theorem pollSelf_calls (c : TcpConnection) (a : PollAnswers) :
    ReflTransGen (Call (.poll a)) c (c.step (.poll a)) :=
  ReflTransGen.mono (fun _ _ => Call.network) _ _ (pollSelf_acts c a)

/-! ### No SYN or FIN is lost -/

/-- No dropped packet carries SYN or FIN. -/
def Unskipped (c : TcpConnection) : Prop :=
  ∀ packet, Effect.skipped packet ∈ c.history → packet.tcp.isSyn = false ∧ packet.tcp.isFin = false

theorem Unskipped.quiet {c c' : TcpConnection} (h : c.Unskipped) {effects : List Effect}
    (history : c'.history = c.history ++ effects) (none : ∀ packet, Effect.skipped packet ∉ effects) :
    c'.Unskipped := by
  intro packet member
  rw [history] at member
  rcases List.mem_append.mp member with old | new
  · exact h packet old
  · exact absurd new (none packet)

theorem Unskipped.same {c c' : TcpConnection} (h : c.Unskipped) (history : c'.history = c.history) :
    c'.Unskipped :=
  h.quiet (history.trans (List.append_nil _).symm) fun _ member => by cases member

theorem Unskipped.effect {c c' : TcpConnection} (h : c.Unskipped) {e : Effect}
    (history : c'.history = c.history ++ [e]) (other : ∀ packet, e ≠ .skipped packet) : c'.Unskipped := by
  apply h.quiet history
  intro packet member
  exact other packet (List.mem_singleton.mp member).symm

theorem Unskipped.reply {c : TcpConnection} (h : c.Unskipped) (carries : c.networkToClient.CarriesTcp)
    {flags : UInt16} (plain : Plain flags) : (c.sendEmptyPacketToClient flags).Unskipped := by
  obtain ⟨buffer, packet, e, tcp, _, how, same⟩ := sendEmptyPacketToClient_builds carries flags
  intro packet' member
  rw [same] at member
  rcases List.mem_append.mp member with old | new
  · exact h packet' old
  · have skipped : Effect.skipped packet' = e := List.mem_singleton.mp new
    rw [how] at skipped
    split at skipped
    · cases skipped
    · cases skipped
      rw [tcp]
      exact c.plain_header plain

theorem Unskipped.sent {c : TcpConnection} (h : c.Unskipped) (carries : c.networkToClient.CarriesTcp)
    (flags : UInt16) (room : c.HasRoom) : (c.sendEmptyPacketToClient flags).Unskipped := by
  obtain ⟨buffer, packet, e, tcp, _, how, same⟩ := sendEmptyPacketToClient_builds carries flags
  rw [if_pos (by exact room)] at how
  rw [same]
  exact h.effect rfl fun packet' skipped => by
    rw [how] at skipped
    cases skipped

theorem Unskipped.doHandleFin {c : TcpConnection} (h : c.Unskipped) (carries : c.networkToClient.CarriesTcp)
    (room : c.tcb.state = .established → c.HasRoom) : c.doHandleFin.Unskipped := by
  have consumed : Unskipped { c with
      tcb.acknowledgementNumber := c.tcb.acknowledgementNumber + 1
      history := c.history ++ [Effect.finConsumed] } := h.effect rfl fun packet same => by cases same
  unfold TcpConnection.doHandleFin
  dsimp only
  split_ifs with established
  · exact (consumed.sent carries (flagFin ||| flagAck) (room established)).same rfl
  · exact (consumed.reply carries (.inl rfl)).same rfl
  · exact (consumed.reply carries (.inl rfl)).same rfl
  · exact consumed

theorem Unskipped.receiveOne {c : TcpConnection} (h : c.Unskipped) (carries : c.networkToClient.CarriesTcp)
    (answer : ReadAnswer) (room : ∀ flag, Spends flag c (c.receiveOne answer).1 → c.HasRoom) :
    (c.receiveOne answer).1.Unskipped := by
  have small := c.maxPayload_lt
  have updated := carriesTcp_updateHeaders carries (flagAck ||| flagPsh)
  have received (p : Packetizer) (bytes : List UInt8) : Unskipped { c with
      networkToClient := p
      history := c.history ++ [Effect.received bytes] } := h.effect rfl fun packet same => by cases same
  have turn := c.receiveOne_turn answer
  generalize c.receiveOne answer = result at turn room ⊢
  cases turn with
  | sent p packet buffer ok fits => exact (received p _).effect rfl fun packet same => by cases same
  | deferred p packet e ok full => exact (received p _).effect rfl fun packet same => by cases same
  | ended p ok =>
    have read := (packetizeRead_carries updated ok small).1
    have index : p.payloadIndex = c.networkToClient.payloadIndex := (packetizeRead_payloadIndex ok).trans rfl
    have free : c.HasRoom := room flagFin (.eof c p read index)
    have eof : Unskipped { c with
        networkToClient := p
        tcb.acknowledgementNumber := c.tcb.acknowledgementNumber + 1
        history := c.history ++ [Effect.eof] } := h.effect rfl fun packet same => by cases same
    refine (eof.sent read (flagFin ||| flagAck) ?_).same rfl
    rw [HasRoom, ← index] at free
    exact free
  | blocked => exact h.same rfl
  | failed =>
    generalize updateHeaders c.networkToClient c.tcb (flagAck ||| flagPsh) c.advertisedWindow = p at updated
    have reset : Unskipped { c with networkToClient := p } := h.same rfl
    exact (reset.reply updated (.inr rfl)).same rfl

theorem call_unskipped {event : Event} {c c' : TcpConnection} (h : c.Unskipped)
    (carries : c.networkToClient.CarriesTcp) (call : Call event c c')
    (room : ∀ flag, Spends flag c c' → c.HasRoom) : c'.Unskipped := by
  cases call with
  | device act =>
    cases act with
    | reply flags plain => exact h.reply carries plain
    | store inSequence ready data fits => exact h.effect rfl fun packet same => by cases same
    | consumeFin received drained =>
      exact h.doHandleFin carries fun established => room flagFin (.doHandleFin c established)
    | finAck =>
      unfold handleFinAck
      split_ifs <;> exact h.same rfl
    | _ => exact h.same rfl
  | network act =>
    cases act with
    | flush _ pending flushed =>
      cases flushes flushed with
      | nothing free => exact h
      | sent len buffer waiting fits => exact h.effect rfl fun packet same => by cases same
    | write buffer bytes written => exact h.effect rfl fun packet same => by cases same
    | reply flags free plain => exact h.reply carries plain
    | close => exact h.same rfl
    | consumeFin free received drained =>
      exact h.doHandleFin carries fun established => room flagFin (.doHandleFin c established)
    | receive _ turn =>
      obtain ⟨answer, given, free, established, window⟩ := turn
      exact h.receiveOne carries answer room
    | connect free connecting =>
      have connected : Unskipped { c with tcb.state := .synReceived } := h.same rfl
      exact (connected.sent carries (flagSyn ||| flagAck) (room flagSyn (.processConnect c))).same rfl

/-! ### Every call is seen in the history -/

/-- The history is only added to, and the shared buffer is left alone as long as it is not. -/
structure Grows (c c' : TcpConnection) : Prop where
  payloadIndex : c'.networkToClient.payloadIndex = c.networkToClient.payloadIndex
  history : c.history <+: c'.history
  buffer : c'.history.length ≤ c.history.length → c'.buffer = c.buffer

theorem Grows.trans {a b c : TcpConnection} (h : Grows a b) (h' : Grows b c) : Grows a c := by
  refine ⟨h'.payloadIndex.trans h.payloadIndex, h.history.trans h'.history, ?_⟩
  intro short
  have first := h.history.length_le
  have second := h'.history.length_le
  exact (h'.buffer (by omega)).trans (h.buffer (by omega))

theorem Grows.same {c c' : TcpConnection} (index : c'.networkToClient.payloadIndex = c.networkToClient.payloadIndex)
    (history : c'.history = c.history) (buffer : c'.buffer = c.buffer) : Grows c c' :=
  ⟨index, by simp only [history, List.prefix_rfl], fun _ => buffer⟩

theorem Grows.effect {c c' : TcpConnection} (index : c'.networkToClient.payloadIndex = c.networkToClient.payloadIndex)
    (e : Effect) (history : c'.history = c.history ++ [e]) : Grows c c' := by
  refine ⟨index, by rw [history]; exact List.prefix_append _ _, ?_⟩
  intro short
  rw [history, List.length_append] at short
  exact absurd short (Nat.not_succ_le_self _)

theorem grows_reply (c : TcpConnection) (flags : UInt16) : Grows c (c.sendEmptyPacketToClient flags) := by
  obtain ⟨buffer, e, _, same⟩ := c.sendEmptyPacketToClient_frame flags
  rw [same]
  exact .effect rfl e rfl

theorem grows_doHandleFin (c : TcpConnection) : Grows c c.doHandleFin := by
  have consumed : Grows c { c with
      tcb.acknowledgementNumber := c.tcb.acknowledgementNumber + 1
      history := c.history ++ [Effect.finConsumed] } := .effect rfl .finConsumed rfl
  unfold doHandleFin
  dsimp only
  split_ifs
  · exact (consumed.trans (grows_reply _ (flagFin ||| flagAck))).trans (.same rfl rfl rfl)
  · exact (consumed.trans (grows_reply _ flagAck)).trans (.same rfl rfl rfl)
  · exact (consumed.trans (grows_reply _ flagAck)).trans (.same rfl rfl rfl)
  · exact consumed

theorem grows_receiveOne (c : TcpConnection) (answer : ReadAnswer) : Grows c (c.receiveOne answer).1 := by
  have index : (updateHeaders c.networkToClient c.tcb (flagAck ||| flagPsh) c.advertisedWindow).payloadIndex =
      c.networkToClient.payloadIndex := rfl
  have received {p : Packetizer} (same : p.payloadIndex = c.networkToClient.payloadIndex) (bytes : List UInt8) :
      Grows c { c with
        networkToClient := p
        history := c.history ++ [Effect.received bytes] } := .effect same _ rfl
  have turn := c.receiveOne_turn answer
  generalize c.receiveOne answer = result at turn ⊢
  cases turn with
  | sent p packet buffer ok fits =>
    exact (received ((packetizeRead_payloadIndex ok).trans index) _).trans (.effect rfl (.appended packet _) rfl)
  | deferred p packet e ok full =>
    exact (received ((packetizeRead_payloadIndex ok).trans index) _).trans (.effect rfl (.deferred packet) rfl)
  | ended p ok =>
    have eof : Grows c { c with
        networkToClient := p
        tcb.acknowledgementNumber := c.tcb.acknowledgementNumber + 1
        history := c.history ++ [Effect.eof] } := .effect ((packetizeRead_payloadIndex ok).trans index) .eof rfl
    exact (eof.trans (grows_reply _ (flagFin ||| flagAck))).trans (.same rfl rfl rfl)
  | blocked => exact .same index rfl rfl
  | failed =>
    generalize updateHeaders c.networkToClient c.tcb (flagAck ||| flagPsh) c.advertisedWindow = p at index
    have updated : Grows c { c with networkToClient := p } := .same index rfl rfl
    exact (updated.trans (grows_reply _ flagRst)).trans (.same rfl rfl rfl)

theorem call_grows {event : Event} {c c' : TcpConnection} (call : Call event c c') : Grows c c' := by
  cases call with
  | device act =>
    cases act with
    | reply flags plain => exact grows_reply c flags
    | store inSequence ready data fits => exact .effect rfl (.stored _) rfl
    | consumeFin received drained => exact grows_doHandleFin c
    | finAck =>
      unfold handleFinAck
      split_ifs <;> exact .same rfl rfl rfl
    | _ => exact .same rfl rfl rfl
  | network act =>
    cases act with
    | flush _ pending flushed =>
      cases flushes flushed with
      | nothing free => exact .same rfl rfl rfl
      | sent len buffer waiting fits => exact .effect rfl (.appended _ _) rfl
    | write buffer bytes written => exact .effect rfl (.written bytes) rfl
    | reply flags free plain => exact grows_reply c flags
    | close => exact .same rfl rfl rfl
    | consumeFin free received drained => exact grows_doHandleFin c
    | receive _ turn =>
      obtain ⟨answer, given, free, established, window⟩ := turn
      exact grows_receiveOne c answer
    | connect free connecting =>
      have connected : Grows c { c with tcb.state := .synReceived } := .same rfl rfl rfl
      exact (connected.trans (grows_reply _ (flagSyn ||| flagAck))).trans (.same rfl rfl rfl)

theorem calls_grow {event : Event} {c c' : TcpConnection} (calls : ReflTransGen (Call event) c c') : Grows c c' :=
  acts_invariant (P := Grows c) (fun _ _ sofar call => sofar.trans (call_grows call)) calls (.same rfl rfl rfl)

theorem Spends.grows {flag : UInt16} {c c' : TcpConnection} (spends : Spends flag c c') :
    c.history.length < c'.history.length := by
  have one (e : Effect) (later : List Effect) (grown : c.history ++ [e] <+: later) :
      c.history.length < later.length := by
    have longer := grown.length_le
    rw [List.length_append] at longer
    exact longer
  cases spends with
  | processConnect =>
    obtain ⟨buffer, e, _, same⟩ := ({ c with tcb.state := .synReceived } :
      TcpConnection).sendEmptyPacketToClient_frame (flagSyn ||| flagAck)
    rw [TcpConnection.processConnect, same]
    exact one e _ List.prefix_rfl
  | eof _ p read index =>
    exact one .eof _ (grows_reply { c with
      networkToClient := p
      tcb.acknowledgementNumber := c.tcb.acknowledgementNumber + 1
      history := c.history ++ [Effect.eof] } (flagFin ||| flagAck)).history
  | doHandleFin _ established =>
    rw [TcpConnection.doHandleFin, if_pos established]
    exact one .finConsumed _ (grows_reply { c with
      tcb.acknowledgementNumber := c.tcb.acknowledgementNumber + 1
      history := c.history ++ [Effect.finConsumed] } (flagFin ||| flagAck)).history

theorem Passes.history {c m m' : TcpConnection} {event : Event} (passes : Passes c event m m') :
    m.history <+: (c.step event).history :=
  ((call_grows passes.call).trans (calls_grow passes.after)).history

/-- A call that spends a number is the first in its step to use the shared buffer when the step does not
do more. -/
theorem Passes.buffer {c m m' : TcpConnection} {event : Event} {flag : UInt16} (passes : Passes c event m m')
    (spends : Spends flag m m') (short : (c.step event).history.length ≤ c.history.length + 1) :
    c.history.length < (c.step event).history.length ∧ (m.HasRoom ↔ c.HasRoom) := by
  have before := calls_grow passes.before
  have spent := spends.grows
  have first := before.history.length_le
  have last := (calls_grow passes.after).history.length_le
  refine ⟨by omega, ?_⟩
  rw [HasRoom, HasRoom, before.payloadIndex, before.buffer (by omega)]

/-! ### Runs -/

/-- Every call of the step that takes up a number for SYN or FIN sends the segment. -/
def Keeps (c : TcpConnection) (event : Event) : Prop :=
  ∀ flag m m', Passes c event m m' → Spends flag m m' → Sent flag m m'

def FindsRoom (c : TcpConnection) (event : Event) : Prop :=
  ∀ flag m m', Passes c event m m' → Spends flag m m' → m.HasRoom

theorem keeps_iff {c : TcpConnection} (carries : c.networkToClient.CarriesTcp) (event : Event) :
    Keeps c event ↔ FindsRoom c event := by
  constructor
  · intro keeps flag m m' passes spends
    exact (spends.sent_iff (passes.carriesTcp carries)).mp (keeps flag m m' passes spends)
  · intro room flag m m' passes spends
    exact (spends.sent_iff (passes.carriesTcp carries)).mpr (room flag m m' passes spends)

theorem step_unskipped {c : TcpConnection} {event : Event}
    (h : c.Unskipped ∧ c.networkToClient.CarriesTcp) (room : FindsRoom c event) :
    (c.step event).Unskipped ∧ (c.step event).networkToClient.CarriesTcp := by
  refine ⟨?_, step_carriesTcp c event h.2⟩
  have path (calls : ReflTransGen (Call event) c (c.step event)) : (c.step event).Unskipped := by
    refine (acts_invariant_on_path (P := fun c => c.Unskipped ∧ c.networkToClient.CarriesTcp) calls ?_ h).1
    intro m m' before call after sofar
    exact ⟨call_unskipped sofar.1 sofar.2 call fun flag spends => room flag m m' ⟨before, call, after⟩ spends,
      call_carriesTcp sofar.2 call⟩
  cases event with
  | packet s random =>
    by_cases init : c.tcb.state = .init
    · rw [step, handlePacket, if_pos init, handleFirstPacket]
      split
      · exact h.1.same rfl
      · have reset : Unskipped { c with tcb.sequenceNumber := s.header.acknowledgementNumber } := h.1.same rfl
        exact (reset.reply h.2 (.inr rfl)).same rfl
    by_cases again : c.tcb.state = .synSent ∧ s.header.isSyn = true
    · rw [step, handlePacket, if_neg init, if_pos again.2, handleDuplicateSyn, if_pos again.1]
      exact h.1.same rfl
    · exact path (handlePacket_calls (handlePacket_later_acts random init again))
  | poll answers => exact path (pollSelf_calls c answers)
  | shared buffer => exact h.1.same rfl

/-- In every run the numbers of SYN and FIN go with their segments exactly when each of the calls finds room,
and then no SYN or FIN was ever dropped. -/
theorem flag_numbers_sent_iff {buffer : StreamBuffer} {ipHeader : IpHeader} {transportHeader : TransportHeader}
    {c₀ : TcpConnection} (created : create buffer ipHeader transportHeader = .ok c₀) (events : List Event) :
    (Along step Keeps c₀ events ↔ Along step FindsRoom c₀ events) ∧
      (Along step FindsRoom c₀ events → ∀ packet, Effect.skipped packet ∈ (run step c₀ events).history →
        packet.tcp.isSyn = false ∧ packet.tcp.isFin = false) := by
  have carries := create_carriesTcp created
  constructor
  · apply along_congr (P := fun c => c.networkToClient.CarriesTcp) _ _ carries
    · intro c carries event _
      exact keeps_iff carries event
    · intro c carries event _ _
      exact step_carriesTcp c event carries
  · intro room
    have fresh : c₀.Unskipped := by
      intro packet member
      rw [create_eq created] at member
      cases member
    exact (run_invariant (P := fun c => c.Unskipped ∧ c.networkToClient.CarriesTcp)
      (fun _ _ h room => step_unskipped h room) ⟨fresh, carries⟩ room).1

end TcpConnection

namespace Sample

/-- The shared buffer is full when the connection to the server is made. -/
def crowded : List Event :=
  [.packet (segment 100 0 flagSyn []) 7, .shared (.new 0), .poll { connect := .ok () }]

theorem hasRoom_created {c₀ c : TcpConnection} (created : TcpConnection.create (.new 4096) ipHeader tcpHeader = .ok c₀)
    {capacity : Nat} (buffer : c.buffer = .new capacity)
    (index : c.networkToClient.payloadIndex = c₀.networkToClient.payloadIndex) : c.HasRoom ↔ 40 ≤ capacity := by
  rw [TcpConnection.HasRoom, index, buffer, TcpConnection.create_payloadIndex created, StreamBuffer.remaining_new]
  exact Iff.rfl

/-- With an empty shared buffer the handshake keeps its SYN. -/
theorem flag_numbers_sent_iff_handshake : ∃ c₀ : TcpConnection,
    TcpConnection.create (.new 4096) ipHeader tcpHeader = .ok c₀ ∧
      Along TcpConnection.step TcpConnection.Keeps c₀ handshake := by
  obtain ⟨c₀, created⟩ := created (.new 4096)
  refine ⟨c₀, created, (TcpConnection.flag_numbers_sent_iff created handshake).1.mpr ?_⟩
  rw [TcpConnection.create_eq created]
  have syn := handshake_syn (.new 4096) c₀.networkToClient
  have connect := handshake_connect (.new 4096) c₀.networkToClient
  have empty : (synSent (.new 4096) c₀.networkToClient).buffer = .new 4096 := rfl
  have room := (hasRoom_created created empty rfl).mpr (by decide)
  obtain ⟨buffer, e, _, synAck⟩ := ({ synSent (.new 4096) c₀.networkToClient with tcb.state := .synReceived } :
    TcpConnection).sendEmptyPacketToClient_frame (flagSyn ||| flagAck)
  refine ⟨?_, ?_, ?_, trivial⟩
  · intro flag m m' passes spends
    have short := (passes.buffer spends (by rw [syn]; exact Nat.zero_le _)).1
    rw [syn] at short
    exact absurd short (Nat.lt_irrefl 0)
  · intro flag m m' passes spends
    rw [syn] at passes
    refine ((passes.buffer spends ?_).2).mpr room
    rw [connect, TcpConnection.processConnect, synAck]
    exact Nat.le_refl _
  · intro flag m m' passes spends
    rw [syn, connect, TcpConnection.processConnect, synAck] at passes
    exact absurd (passes.buffer spends (Nat.le_succ _)).1 (Nat.lt_irrefl _)

/-- The number of the SYN is taken and its segment is dropped: nothing is sent, and nothing is kept. -/
theorem flag_number_lost : ∃ c₀ : TcpConnection,
    TcpConnection.create (.new 4096) ipHeader tcpHeader = .ok c₀ ∧
      ¬ Along TcpConnection.step TcpConnection.Keeps c₀ crowded ∧
      let c := run TcpConnection.step c₀ crowded
      c.tcb.sequenceNumber = 7 + 1 ∧ c.packetForClientLength = none ∧
        ∃ packet, c.history = [.skipped packet] ∧ packet.tcp.isSyn = true := by
  obtain ⟨c₀, created⟩ := created (.new 4096)
  have carries := TcpConnection.create_carriesTcp created
  let full : TcpConnection := { synSent (.new 4096) c₀.networkToClient with buffer := .new 0 }
  have noRoom : ¬ full.HasRoom := by
    rw [hasRoom_created (c := full) created rfl rfl]
    decide
  have connect : full.step (.poll { connect := .ok () }) = full.processConnect :=
    TcpConnection.pollSelf_connect rfl rfl rfl rfl rfl
  have reached : run TcpConnection.step c₀ (crowded.take 2) = full := by
    rw [TcpConnection.create_eq created]
    rfl
  have whole : crowded = crowded.take 2 ++ [.poll { connect := .ok () }] := rfl
  refine ⟨c₀, created, ?_, ?_⟩
  · intro keeps
    rw [whole, along_concat, reached] at keeps
    have calls : TcpConnection.Passes full (.poll { connect := .ok () }) full full.processConnect :=
      ⟨.refl, .network (.connect full rfl rfl), by rw [connect]⟩
    have sent := keeps.2 flagSyn full full.processConnect calls (.processConnect full)
    exact noRoom (((TcpConnection.Spends.processConnect full).sent_iff carries).mp sent)
  · rw [whole, run_concat, reached, connect, TcpConnection.processConnect]
    obtain ⟨buffer, packet, e, tcp, _, how, same⟩ := TcpConnection.sendEmptyPacketToClient_builds
      (c := { full with tcb.state := .synReceived }) carries (flagSyn ||| flagAck)
    rw [if_neg (by exact noRoom)] at how
    rw [same, how]
    refine ⟨rfl, rfl, packet, rfl, ?_⟩
    rw [tcp]
    exact (by decide : ((flagSyn ||| flagAck) &&& 0x1FF &&& flagSyn != 0) = true)

end Sample

end Gnirehtet.Relay
