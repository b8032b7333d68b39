import Gnirehtet.Tcp.Header
import Gnirehtet.Tcp.Upstream

/-!
# The receive window

Every packet to the device promises room: a device may send up to its right edge, the acknowledgement
number plus the window. What the connection can take ends at its own right edge, which no act moves
back, so that a promise once made is kept whenever the device comes back to it.
-/

namespace Gnirehtet.Relay
open Lib Relation

namespace TcpConnection

/-- The right edge: the acknowledged numbers and the room behind them. -/
def edge (c : TcpConnection) : Nat := acknowledged c.history + c.clientToNetwork.remaining

/-- The right edge of the header is one that the connection stands by. It was computed after some `past`
of the history, from `b` on, which tells which of the numbers modulo `2^32` the acknowledgement is. -/
def Promised (b : List Effect) (c : TcpConnection) (h : TcpHeaderData) : Prop :=
  ∃ past, b <+: past ∧ past <+: c.history ∧ h.acknowledgementNumber = c.unaccounted + (acknowledged past).toUInt32 ∧
    acknowledged past + h.window.toNat ≤ c.edge

/-! ### The edge never moves back -/

structure Widens (c c' : TcpConnection) : Prop where
  unaccounted : c'.unaccounted = c.unaccounted
  history : c.history <+: c'.history
  edge : c.edge ≤ c'.edge

theorem Widens.refl (c : TcpConnection) : Widens c c := ⟨rfl, List.prefix_rfl, Nat.le_refl _⟩

theorem Widens.trans {a b c : TcpConnection} (h : Widens a b) (h' : Widens b c) : Widens a c :=
  ⟨h'.unaccounted.trans h.unaccounted, h.history.trans h'.history, Nat.le_trans h.edge h'.edge⟩

theorem Promised.widen {b : List Effect} {c c' : TcpConnection} {h : TcpHeaderData} (promised : Promised b c h)
    (widens : Widens c c') : Promised b c' h := by
  obtain ⟨past, late, before, number, inside⟩ := promised
  refine ⟨past, late, before.trans widens.history, ?_, Nat.le_trans inside widens.edge⟩
  rw [number, widens.unaccounted]

theorem toNat_advertisedWindow (c : TcpConnection) :
    c.advertisedWindow.toNat = min c.clientToNetwork.remaining 65535 := by
  rw [advertisedWindow, Nat.toUInt16, UInt16.toNat_ofNat']
  omega

theorem promised_header {b : List Effect} {c : TcpConnection} (late : b <+: c.history) (flags : UInt16) :
    Promised b c (c.header flags) := by
  have window := c.toNat_advertisedWindow
  refine ⟨c.history, late, List.prefix_rfl, ?_, ?_⟩
  · rw [unaccounted, header]
    exact (UInt32.sub_add_cancel _ _).symm
  · rw [edge, header]
    dsimp only
    omega

theorem widens_same {c c' : TcpConnection} (ack : c'.tcb.acknowledgementNumber = c.tcb.acknowledgementNumber)
    (upstream : c'.clientToNetwork = c.clientToNetwork) (history : c'.history = c.history) : Widens c c' where
  unaccounted := by rw [unaccounted, unaccounted, ack, history]
  history := by simp only [history, List.prefix_rfl]
  edge := by rw [edge, edge, history, upstream]

theorem widens_effect {c c' : TcpConnection} (e : Effect) (history : c'.history = c.history ++ [e])
    (ack : c'.tcb.acknowledgementNumber = c.tcb.acknowledgementNumber + e.sequenceLength.toUInt32)
    (room : c.clientToNetwork.remaining ≤ e.sequenceLength + c'.clientToNetwork.remaining) : Widens c c' where
  unaccounted := by
    rw [unaccounted, unaccounted, ack, history, acknowledged_concat, toUInt32_add]
    grind
  history := by
    rw [history]
    exact List.prefix_append _ _
  edge := by
    rw [edge, edge, history, acknowledged_concat]
    omega

theorem widens_reply (c : TcpConnection) (flags : UInt16) : Widens c (c.sendEmptyPacketToClient flags) := by
  obtain ⟨buffer, e, reply, same⟩ := c.sendEmptyPacketToClient_frame flags
  rw [same]
  apply widens_effect e rfl
  · cases e <;> simp_all [Effect.isReply, Effect.sequenceLength]
  · exact Nat.le_add_left _ _

/-! ### Promises act by act -/

/-- Since `c₁` the edge did not move back, and the packets built since then promise what is kept, as does
the header that the pending packet will be sent with. -/
structure Honours (b : List Effect) (c₁ c : TcpConnection) : Prop where
  late : b <+: c₁.history
  widens : Widens c₁ c
  carries : c.networkToClient.CarriesTcp
  pending : ∀ len, c.packetForClientLength = some len →
    c.networkToClient.payloadIndex ≤ len.toNat ∧ Promised b c c.networkToClient.tcp
  sent : ∀ e ∈ c.history.drop c₁.history.length, ∀ packet, e.packet = some packet → Promised b c packet.tcp

theorem Honours.sent_append {b : List Effect} {c₁ c c' : TcpConnection} (h : Honours b c₁ c) (widens : Widens c c')
    {effects : List Effect} (history : c'.history = c.history ++ effects)
    (new : ∀ e ∈ effects, ∀ packet, e.packet = some packet → Promised b c' packet.tcp) :
    ∀ e ∈ c'.history.drop c₁.history.length, ∀ packet, e.packet = some packet → Promised b c' packet.tcp := by
  intro e member packet some
  rw [history, List.drop_append] at member
  rcases List.mem_append.mp member with old | later
  · exact (h.sent e old packet some).widen widens
  · exact new e (List.mem_of_mem_drop later) packet some

theorem Honours.quiet {b : List Effect} {c₁ c c' : TcpConnection} (h : Honours b c₁ c) (widens : Widens c c')
    (net : c'.networkToClient = c.networkToClient) (pending : c'.packetForClientLength = c.packetForClientLength)
    {effects : List Effect} (history : c'.history = c.history ++ effects)
    (silent : ∀ e ∈ effects, e.packet = none) : Honours b c₁ c' where
  late := h.late
  widens := h.widens.trans widens
  carries := by
    rw [net]
    exact h.carries
  pending := by
    intro len some
    rw [pending] at some
    rw [net]
    exact ⟨(h.pending len some).1, (h.pending len some).2.widen widens⟩
  sent := by
    apply h.sent_append widens history
    intro e member packet some
    rw [silent e member] at some
    cases some

theorem Honours.same {b : List Effect} {c₁ c c' : TcpConnection} (h : Honours b c₁ c)
    (net : c'.networkToClient = c.networkToClient) (pending : c'.packetForClientLength = c.packetForClientLength)
    (ack : c'.tcb.acknowledgementNumber = c.tcb.acknowledgementNumber)
    (upstream : c'.clientToNetwork = c.clientToNetwork) (history : c'.history = c.history) : Honours b c₁ c' :=
  h.quiet (widens_same ack upstream history) net pending (history.trans (List.append_nil _).symm)
    fun _ member => by cases member

theorem Honours.effect {b : List Effect} {c₁ c c' : TcpConnection} (h : Honours b c₁ c) (e : Effect) (silent : e.packet = none)
    (net : c'.networkToClient = c.networkToClient) (pending : c'.packetForClientLength = c.packetForClientLength)
    (history : c'.history = c.history ++ [e])
    (ack : c'.tcb.acknowledgementNumber = c.tcb.acknowledgementNumber + e.sequenceLength.toUInt32)
    (room : c.clientToNetwork.remaining ≤ e.sequenceLength + c'.clientToNetwork.remaining) : Honours b c₁ c' := by
  apply h.quiet (widens_effect e history ack room) net pending history
  intro e' member
  rw [List.mem_singleton.mp member]
  exact silent

/-- A control packet promises what there is, and so does the header it leaves in the packetizer. -/
theorem Honours.reply {b : List Effect} {c₁ c : TcpConnection} (h : Honours b c₁ c) (flags : UInt16) :
    Honours b c₁ (c.sendEmptyPacketToClient flags) := by
  have widens := c.widens_reply flags
  have made := (promised_header (h.late.trans h.widens.history) flags).widen widens
  obtain ⟨_, buffer, carries⟩ := tcp_createEmptyResponsePacket h.carries flags
  obtain ⟨_, packet, e, tcp, _, how, same⟩ := sendEmptyPacketToClient_builds h.carries flags
  have history := congrArg TcpConnection.history same
  refine ⟨h.late, h.widens.trans widens, by rw [networkToClient_sendEmptyPacketToClient]; exact carries, ?_, ?_⟩
  · intro len some
    rw [packetForClientLength_sendEmptyPacketToClient] at some
    rw [networkToClient_sendEmptyPacketToClient, buffer]
    exact ⟨(h.pending len some).1, made⟩
  · apply h.sent_append widens history
    intro e' member packet' some
    have built : packet' = packet := by
      rw [List.mem_singleton.mp member, how] at some
      split at some <;> exact (Option.some.inj some).symm
    rw [built, tcp]
    exact made

theorem Honours.doHandleFin {b : List Effect} {c₁ c : TcpConnection} (h : Honours b c₁ c) : Honours b c₁ c.doHandleFin := by
  have consumed : Honours b c₁ { c with
      tcb.acknowledgementNumber := c.tcb.acknowledgementNumber + 1
      history := c.history ++ [Effect.finConsumed] } :=
    h.effect .finConsumed rfl rfl rfl rfl rfl (Nat.le_add_left _ _)
  unfold TcpConnection.doHandleFin
  dsimp only
  split_ifs
  · exact (consumed.reply (flagFin ||| flagAck)).same rfl rfl rfl rfl rfl
  · exact (consumed.reply flagAck).same rfl rfl rfl rfl rfl
  · exact (consumed.reply flagAck).same rfl rfl rfl rfl rfl
  · exact consumed

theorem Honours.eof {b : List Effect} {c₁ c : TcpConnection} (h : Honours b c₁ c) : Honours b c₁ c.eof := by
  have read : Honours b c₁ { c with
      tcb.acknowledgementNumber := c.tcb.acknowledgementNumber + 1
      history := c.history ++ [Effect.eof] } :=
    h.effect .eof rfl rfl rfl rfl rfl (Nat.le_add_left _ _)
  exact (read.reply (flagFin ||| flagAck)).same rfl rfl rfl rfl rfl

theorem Honours.handleFinAck {b : List Effect} {c₁ c : TcpConnection} (h : Honours b c₁ c) : Honours b c₁ c.handleFinAck := by
  unfold TcpConnection.handleFinAck
  split_ifs
  · exact h.same rfl rfl rfl rfl rfl
  · exact h.same rfl rfl rfl rfl rfl
  · exact h

theorem deviceAct_honours {s : Segment} {b : List Effect} {c₁ c c' : TcpConnection} (h : Honours b c₁ c)
    (act : DeviceAct s c c') : Honours b c₁ c' := by
  cases act with
  | reply flags plain => exact h.reply flags
  | close => exact h.same rfl rfl rfl rfl rfl
  | expect => exact h.same rfl rfl rfl rfl rfl
  | establish half => exact h.same rfl rfl rfl rfl rfl
  | store inSequence ready data fits =>
    have left := StreamBuffer.remaining_readFrom fits
    have room : c.clientToNetwork.remaining ≤ s.payload.length + (c.clientToNetwork.readFrom s.payload).remaining := by
      omega
    exact h.effect (.stored s.payload) rfl rfl rfl rfl rfl room
  | fin => exact h.same rfl rfl rfl rfl rfl
  | consumeFin received drained => exact h.doHandleFin
  | finAck => exact h.handleFinAck

/-- With nothing pending the packetizer's header promises nothing. -/
theorem Honours.rebuilt {b : List Effect} {c₁ c : TcpConnection} {p : Packetizer} (h : Honours b c₁ c)
    (free : c.packetForClientLength = none) (carries : p.CarriesTcp) :
    Honours b c₁ { c with networkToClient := p } where
  late := h.late
  widens := h.widens.trans (widens_same rfl rfl rfl)
  carries := carries
  pending := fun len some => by cases free.symm.trans some
  sent := h.sent

theorem Honours.built {b : List Effect} {c₁ c c' : TcpConnection} {packet : IpPacket} (h : Honours b c₁ c) (e : Effect)
    (some : e.packet = some packet) (nothing : e.sequenceLength = 0) (promised : Promised b c packet.tcp)
    (net : c'.networkToClient = c.networkToClient)
    (pending : ∀ len, c'.packetForClientLength = .some len →
      c.networkToClient.payloadIndex ≤ len.toNat ∧ Promised b c c.networkToClient.tcp)
    (ack : c'.tcb.acknowledgementNumber = c.tcb.acknowledgementNumber)
    (upstream : c'.clientToNetwork = c.clientToNetwork) (history : c'.history = c.history ++ [e]) :
    Honours b c₁ c' := by
  have widens : Widens c c' := by
    apply widens_effect e history
    · rw [nothing, ack]
      exact (UInt32.add_zero _).symm
    · rw [upstream]
      exact Nat.le_add_left _ _
  refine ⟨h.late, h.widens.trans widens, by rw [net]; exact h.carries, ?_, ?_⟩
  · intro len waiting
    rw [net]
    exact ⟨(pending len waiting).1, (pending len waiting).2.widen widens⟩
  · apply h.sent_append widens history
    intro e' member packet' same
    rw [List.mem_singleton.mp member, some] at same
    cases same
    exact promised.widen widens

/-- The packet that is flushed has the header that lies in the packetizer, which may be newer than it. -/
theorem Honours.flush {b : List Effect} {c₁ c c' : TcpConnection} (h : Honours b c₁ c) (flushed : c.flushPendingPacket = .ok c') :
    Honours b c₁ c' := by
  cases flushes flushed with
  | nothing free => exact h
  | sent len buffer waiting fits =>
    obtain ⟨long, promised⟩ := h.pending len waiting
    rw [← Packetizer.tcp_inflate h.carries long] at promised
    exact h.built (.appended _ _) rfl rfl promised rfl (fun _ none => by cases none) rfl rfl rfl

theorem Honours.receiveOne {b : List Effect} {c₁ c : TcpConnection} (h : Honours b c₁ c) (answer : ReadAnswer)
    (free : c.packetForClientLength = none) : Honours b c₁ (c.receiveOne answer).1 := by
  have small := c.maxPayload_lt
  have updated := carriesTcp_updateHeaders h.carries (flagAck ||| flagPsh)
  have header := tcp_updateHeaders h.carries (flagAck ||| flagPsh)
  have made := promised_header (h.late.trans h.widens.history) (flagAck ||| flagPsh)
  have received {p : Packetizer} (carries : p.CarriesTcp) (bytes : List UInt8) : Honours b c₁ { c with
      networkToClient := p
      history := c.history ++ [Effect.received bytes] } :=
    (h.rebuilt free carries).effect (.received bytes) rfl rfl rfl rfl (UInt32.add_zero _).symm (Nat.le_add_left _ _)
  have promised (p : Packetizer) (bytes : List UInt8) : Promised b { c with
      networkToClient := p
      history := c.history ++ [Effect.received bytes] } (c.header (flagAck ||| flagPsh)) :=
    made.widen (widens_effect (.received _) rfl (UInt32.add_zero _).symm (Nat.le_add_left _ _))
  have turn := c.receiveOne_turn answer
  generalize c.receiveOne answer = result at turn ⊢
  cases turn with
  | sent p packet buffer ok fits =>
    obtain ⟨carries, left, built⟩ := packetizeRead_carries updated ok small
    refine (received carries _).built (.appended packet _) rfl rfl ?_ rfl
      (fun len some => by cases free.symm.trans some) rfl rfl rfl
    rw [built packet rfl, header]
    exact promised p _
  | deferred p packet e ok full =>
    obtain ⟨carries, left, built⟩ := packetizeRead_carries updated ok small
    have reads := Packetizer.packetizeRead_some ok small
    refine (received carries _).built (.deferred packet) rfl rfl ?_ rfl ?_ rfl rfl rfl
    · rw [built packet rfl, header]
      exact promised p _
    · intro len some
      cases some
      have index := reads.payloadIndex
      constructor
      · show p.payloadIndex ≤ packet.length.toNat
        rw [reads.total, reads.length, index]
        exact Nat.le_add_right _ _
      · rw [left, header]
        exact promised p _
  | ended p ok => exact (h.rebuilt free (packetizeRead_carries updated ok small).1).eof
  | blocked => exact h.rebuilt free updated
  | failed => exact ((h.rebuilt free updated).reply flagRst).same rfl rfl rfl rfl rfl

theorem networkAct_honours {a : PollAnswers} {b : List Effect} {c₁ c c' : TcpConnection} (h : Honours b c₁ c)
    (act : NetworkAct a c c') : Honours b c₁ c' := by
  cases act with
  | flush _ pending flushed => exact h.flush flushed
  | write buffer bytes written =>
    have capacity := StreamBuffer.capacity_writeTo written
    have content := congrArg List.length (StreamBuffer.content_writeTo written)
    have before := c.clientToNetwork.size_add_remaining
    have after := buffer.size_add_remaining
    rw [List.length_append, StreamBuffer.length_content, StreamBuffer.length_content] at content
    have room : c.clientToNetwork.remaining ≤ 0 + buffer.remaining := by omega
    exact h.effect (.written bytes) rfl rfl rfl rfl (UInt32.add_zero _).symm room
  | reply flags free plain => exact h.reply flags
  | close => exact h.same rfl rfl rfl rfl rfl
  | consumeFin free received drained => exact h.doHandleFin
  | receive _ turn =>
    obtain ⟨answer, given, free, established, window⟩ := turn
    exact h.receiveOne answer free
  | connect free connecting =>
    have connected : Honours b c₁ { c with tcb.state := .synReceived } := h.same rfl rfl rfl rfl rfl
    exact (connected.reply (flagSyn ||| flagAck)).same rfl rfl rfl rfl rfl

/-! ### Runs -/

structure Ready (c : TcpConnection) : Prop where
  carries : c.networkToClient.CarriesTcp
  free : ¬ c.Started → c.packetForClientLength = none

theorem handlePacket_pending (c : TcpConnection) (s : Segment) (random : UInt32) :
    (c.handlePacket s random).packetForClientLength = c.packetForClientLength := by
  apply handlePacket_invariant (P := fun c' => c'.packetForClientLength = c.packetForClientLength)
  · intro c' opens
    cases opens <;> rfl
  intro a b same act
  rw [← same]
  cases act with
  | reply flags plain => exact packetForClientLength_sendEmptyPacketToClient a flags
  | consumeFin received drained => exact packetForClientLength_doHandleFin a
  | finAck =>
    unfold handleFinAck
    split_ifs <;> rfl
  | _ => rfl

theorem pollSelf_waiting {c : TcpConnection} (a : PollAnswers) (free : ¬ c.Started → c.packetForClientLength = none)
    (waiting : ¬ (c.pollSelf a).1.Started) : (c.pollSelf a).1.packetForClientLength = none := by
  refine acts_invariant (P := fun c' => ¬ c'.Started → c'.packetForClientLength = none) ?_ (pollSelf_acts c a) free
    waiting
  intro x y free act waiting
  have early : ¬ x.Started := fun started => waiting (networkAct_started act started)
  have free := free early
  cases act with
  | flush _ pending flushed => exact flushPendingPacket_free flushed
  | write buffer bytes written => exact free
  | reply flags free' plain => rwa [packetForClientLength_sendEmptyPacketToClient]
  | close => exact free
  | consumeFin free' received drained => rwa [packetForClientLength_doHandleFin]
  | receive _ turn =>
    obtain ⟨answer, given, free', established, window⟩ := turn
    exact absurd (started_of_established established) early
  | connect free' connecting =>
    rw [processConnect]
    exact (packetForClientLength_sendEmptyPacketToClient _ _).trans free

theorem step_ready (c : TcpConnection) (event : Event) (h : c.Ready) : (c.step event).Ready := by
  refine ⟨step_carriesTcp c event h.carries, ?_⟩
  intro waiting
  have early : ¬ c.Started := fun started => waiting (step_accounts event started).2
  cases event with
  | packet s random =>
    rw [step, handlePacket_pending]
    exact h.free early
  | poll answers => exact pollSelf_waiting answers h.free waiting
  | shared buffer => exact h.free early

theorem created_ready {buffer : StreamBuffer} {ipHeader : IpHeader} {transportHeader : TransportHeader}
    {c : TcpConnection} (created : create buffer ipHeader transportHeader = .ok c) : c.Ready := by
  refine ⟨create_carriesTcp created, fun _ => ?_⟩
  rw [create_eq created]
  rfl

theorem honours_start {c : TcpConnection} (carries : c.networkToClient.CarriesTcp)
    (free : c.packetForClientLength = none) : Honours c.history c c where
  late := List.prefix_rfl
  widens := .refl c
  carries := carries
  pending := fun len some => by cases free.symm.trans some
  sent := fun e member => by simp at member

theorem Honours.rebase {b : List Effect} {c₁ c : TcpConnection} (h : Honours b c₁ c) : Honours b c c where
  late := h.late.trans h.widens.history
  widens := .refl c
  carries := h.carries
  pending := h.pending
  sent := fun e member => by simp at member

theorem step_honours {b : List Effect} {c₁ c : TcpConnection} (event : Event) (h : Honours b c₁ c) (started : c.Started) :
    Honours b c₁ (c.step event) := by
  cases event with
  | packet s random =>
    exact acts_invariant (fun _ _ => deviceAct_honours) (handlePacket_settled_acts s random started.1 started.2) h
  | poll answers => exact acts_invariant (fun _ _ => networkAct_honours) (pollSelf_acts c answers) h
  | shared buffer => exact h.same rfl rfl rfl rfl rfl

theorem run_honours {b : List Effect} {c₁ c : TcpConnection} (events : List Event) (h : Honours b c₁ c) (started : c.Started) :
    Honours b c₁ (run step c events) ∧ (run step c events).Started := by
  refine run_always (P := fun c => Honours b c₁ c ∧ c.Started) ?_ ⟨h, started⟩ events
  intro c event sofar
  exact ⟨step_honours event sofar.1 sofar.2, (step_accounts event sofar.2).2⟩

theorem Honours.all {b : List Effect} {c₁ c : TcpConnection} (h : Honours b c₁ c) : Honours [] c₁ c := by
  have weaken (header : TcpHeaderData) (promised : Promised b c header) : Promised [] c header := by
    obtain ⟨past, _, before, number, inside⟩ := promised
    exact ⟨past, List.nil_prefix, before, number, inside⟩
  refine ⟨List.nil_prefix, h.widens, h.carries, ?_, ?_⟩
  · intro len some
    exact ⟨(h.pending len some).1, weaken _ (h.pending len some).2⟩
  · intro e member packet some
    exact weaken _ (h.sent e member packet some)

theorem handlePacket_waiting {c : TcpConnection} {s : Segment} (random : UInt32) (waiting : ¬ c.Started)
    (syn : s.header.isSyn = true) : ¬ (c.handlePacket s random).Started := by
  rw [handlePacket]
  split_ifs with init
  · rw [handleFirstPacket, if_pos syn]
    exact fun started => started.2 rfl
  · have sent : c.tcb.state = .synSent := Decidable.byContradiction fun other => waiting ⟨init, other⟩
    rw [handleDuplicateSyn, if_pos sent]
    exact fun started => started.2 sent

/-- From the SYN-ACK on the pending packet promises what is kept. -/
def Kept (c : TcpConnection) : Prop := c.Ready ∧ (c.Started → Honours [] c c)

theorem step_kept {c : TcpConnection} {event : Event} (h : c.Kept) (opening : Opening c event) :
    (c.step event).Kept := by
  refine ⟨step_ready c event h.1, ?_⟩
  intro begun
  by_cases started : c.Started
  · exact (step_honours event (h.2 started) started).rebase
  · have start := honours_start h.1.carries (h.1.free started)
    cases event with
    | packet s random => exact absurd begun (handlePacket_waiting random started (opening started))
    | poll answers =>
      have reached : Honours c.history c (c.pollSelf answers).1 :=
        acts_invariant (fun _ _ => networkAct_honours) (pollSelf_acts c answers) start
      exact reached.all.rebase
    | shared buffer => exact absurd begun started

theorem created_kept {buffer : StreamBuffer} {ipHeader : IpHeader} {transportHeader : TransportHeader}
    {c : TcpConnection} (created : create buffer ipHeader transportHeader = .ok c) : c.Kept := by
  refine ⟨created_ready created, ?_⟩
  intro started
  rw [create_eq created] at started
  exact absurd rfl started.1

/-! ### What the device may send -/

/-- The segment reaches the branch of `handle_ack` that finds not enough space. -/
def Drops (c : TcpConnection) (s : Segment) : Prop :=
  c.tcb.state ≠ .init ∧ s.header.isSyn = false ∧ s.header.sequenceNumber = c.tcb.acknowledgementNumber ∧
    s.header.isRst = false ∧ s.header.isAck = true ∧ c.tcb.state ≠ .synReceived ∧ s.payload ≠ [] ∧
    c.clientToNetwork.remaining < s.payload.length

instance (c : TcpConnection) (s : Segment) : Decidable (c.Drops s) := inferInstanceAs (Decidable (_ ∧ _))

theorem takeAck_drops {c : TcpConnection} {s : Segment} (drops : c.Drops s) :
    (c.expectedPacket s).takeAck s = (c.expectedPacket s).sendEmptyPacketToClient flagAck := by
  obtain ⟨_, _, _, _, isAck, ready, data, full⟩ := drops
  rw [takeAck, if_pos isAck, handleAck, if_neg (by exact ready), if_neg data]
  exact if_pos full

/-- The device's own comparison of its last byte with a right edge that is less than `2^31` numbers old. -/
theorem below_edge {c : TcpConnection} {h : TcpHeaderData} {s : Segment} {past : List Effect}
    (before : acknowledged past ≤ acknowledged c.history)
    (number : h.acknowledgementNumber = c.unaccounted + (acknowledged past).toUInt32)
    (inSequence : s.header.sequenceNumber = c.tcb.acknowledgementNumber)
    (recent : acknowledged c.history + s.payload.length < acknowledged past + 2 ^ 31) :
    0 ≤ (h.acknowledgementNumber + h.window.toUInt32 -
        (s.header.sequenceNumber + s.payload.length.toUInt32)).toInt32 ↔
      acknowledged c.history + s.payload.length ≤ acknowledged past + h.window.toNat := by
  have window := h.window.toNat_lt
  have difference : h.acknowledgementNumber + h.window.toUInt32 -
      (s.header.sequenceNumber + s.payload.length.toUInt32) =
      (acknowledged past + h.window.toNat).toUInt32 - (acknowledged c.history + s.payload.length).toUInt32 := by
    rw [number, inSequence, toUInt32_eq, toUInt32_add, toUInt32_add, unaccounted]
    grind
  rw [difference]
  apply serial_le
  · omega
  · omega

theorem acknowledged_past_le {past history : List Effect} (before : past <+: history) :
    acknowledged past ≤ acknowledged history := by
  obtain ⟨rest, rfl⟩ := before
  rw [acknowledged, acknowledged, List.map_append, List.sum_append]
  exact Nat.le_add_right _ _

/-- From the SYN-ACK on, the right edge moves only forward, and a device that sends the expected bytes below
the right edge of any packet built since then finds room for them. -/
theorem window_honoured {buffer : StreamBuffer} {ipHeader : IpHeader} {transportHeader : TransportHeader}
    {c₀ : TcpConnection} (created : create buffer ipHeader transportHeader = .ok c₀) {before : List Event}
    {a : PollAnswers} (connecting : (run step c₀ before).tcb.state = .synSent)
    (connected : ((run step c₀ before).step (.poll a)).Started) (after : List Event) :
    let c₁ := run step c₀ before
    let c := run step c₁ (.poll a :: after)
    (∀ later, c.edge ≤ (run step c later).edge ∧ (run step c later).unaccounted = c.unaccounted) ∧
    ∀ e ∈ c.history.drop c₁.history.length, ∀ packet, e.packet = some packet →
      ∃ past, c₁.history <+: past ∧ past <+: c.history ∧
        packet.tcp.acknowledgementNumber = c.unaccounted + (acknowledged past).toUInt32 ∧
        ∀ s, s.header.sequenceNumber = c.tcb.acknowledgementNumber →
          (acknowledged c.history + s.payload.length ≤ acknowledged past + packet.tcp.window.toNat → ¬ c.Drops s) ∧
          (acknowledged c.history + s.payload.length < acknowledged past + 2 ^ 31 →
            0 ≤ (packet.tcp.acknowledgementNumber + packet.tcp.window.toUInt32 -
              (s.header.sequenceNumber + s.payload.length.toUInt32)).toInt32 → ¬ c.Drops s) := by
  intro c₁ c
  have ready : c₁.Ready := run_always step_ready (created_ready created) before
  have start := honours_start ready.carries (ready.free fun started => started.2 connecting)
  have first : Honours c₁.history c₁ (c₁.step (.poll a)) :=
    acts_invariant (fun _ _ => networkAct_honours) (pollSelf_acts c₁ a) start
  have last : Honours c₁.history c₁ c ∧ c.Started := run_honours after first connected
  obtain ⟨honours, started⟩ := last
  constructor
  · intro later
    have widens := (run_honours later honours.rebase started).1.widens
    exact ⟨widens.edge, widens.unaccounted⟩
  · intro e member packet some
    obtain ⟨past, late, prior, number, inside⟩ := honours.sent e member packet some
    refine ⟨past, late, prior, number, ?_⟩
    intro s inSequence
    have fits (below : acknowledged c.history + s.payload.length ≤ acknowledged past + packet.tcp.window.toNat) :
        ¬ c.Drops s := by
      intro drops
      have full := drops.2.2.2.2.2.2.2
      rw [edge] at inside
      omega
    exact ⟨fits, fun recent below =>
      fits ((below_edge (acknowledged_past_le prior) number inSequence recent).mp below)⟩

/-- After a handshake two bytes are below the right edge of the SYN-ACK. -/
theorem window_honoured_handshake : ∃ c₀ : TcpConnection,
    create (.new 4096) Sample.ipHeader Sample.tcpHeader = .ok c₀ ∧
      let c := run step c₀ Sample.handshake
      let s := Sample.segment 101 8 flagAck [1, 2]
      s.header.sequenceNumber = c.tcb.acknowledgementNumber ∧ ¬ c.Drops s := by
  obtain ⟨c₀, created⟩ := Sample.created (.new 4096)
  refine ⟨c₀, created, ?_⟩
  have carries := create_carriesTcp created
  have fresh := create_eq created
  generalize c₀.networkToClient = p at carries fresh
  have syn := Sample.handshake_syn (.new 4096) p
  have connect := Sample.handshake_connect (.new 4096) p
  obtain ⟨buffer, packet, e, tcp, _, how, synAck⟩ := sendEmptyPacketToClient_builds
    (c := { Sample.synSent (.new 4096) p with tcb.state := .synReceived }) carries (flagSyn ||| flagAck)
  have about : e.packet = some packet := by
    rw [how]
    split <;> rfl
  have plain : e.sequenceLength = 0 := by
    rw [how]
    split <;> rfl
  have sent : run step c₀ [.packet (Sample.segment 100 0 flagSyn []) 7] = Sample.synSent (.new 4096) p := by
    rw [fresh, run_cons, syn, run_nil]
  have reached : run step (Sample.synSent (.new 4096) p)
      [.poll { connect := .ok () }, .packet (Sample.segment 101 8 flagAck []) 0] =
      Sample.established buffer (Sample.afterSynAck (.new 4096) p) e := by
    rw [run_cons, connect, processConnect, synAck]
    rfl
  have whole : run step c₀ Sample.handshake = Sample.established buffer (Sample.afterSynAck (.new 4096) p) e := by
    rw [← reached, ← sent]
    rfl
  have connecting : (run step c₀ [.packet (Sample.segment 100 0 flagSyn []) 7]).tcb.state = .synSent := by
    rw [sent]
    rfl
  have connected : ((run step c₀ [.packet (Sample.segment 100 0 flagSyn []) 7]).step
      (.poll { connect := .ok () })).Started := by
    rw [sent, connect]
    simp [Started, processConnect]
  have promise := (window_honoured created connecting connected
    [.packet (Sample.segment 101 8 flagAck []) 0]).2
  rw [sent, reached] at promise
  obtain ⟨past, _, before, _, fits⟩ := promise e List.mem_cons_self packet about
  rw [whole]
  refine ⟨rfl, (fits _ rfl).1 ?_⟩
  have window : packet.tcp.window.toNat = 65535 := by
    rw [tcp, header]
    dsimp only
    rw [toNat_advertisedWindow]
    show min (StreamBuffer.new (32 * maxPacketLength)).remaining 65535 = 65535
    rw [StreamBuffer.remaining_new]
    decide
  have nothing : acknowledged (Sample.established buffer (Sample.afterSynAck (.new 4096) p) e).history = 0 := by
    show acknowledged [e] = 0
    simp [acknowledged, plain]
  rw [nothing, window]
  exact Nat.le_trans (show 0 + 2 ≤ 65535 by decide) (Nat.le_add_left _ _)

end TcpConnection

end Gnirehtet.Relay
