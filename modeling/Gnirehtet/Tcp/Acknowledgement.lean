import Gnirehtet.Tcp.Action

/-!
# Acknowledgement accounting

What the relay acknowledges to the device is the SYN, every byte it stored, every FIN it consumed,
and also every end of stream that it read from the server, of which the device sent nothing. On runs
without the last kind, and with one FIN, the number is what TCP asks for.
-/

namespace Gnirehtet.Relay
open Lib Relation

namespace TcpConnection

/-- From SynReceived on. -/
def Started (c : TcpConnection) : Prop := c.tcb.state ≠ .init ∧ c.tcb.state ≠ .synSent

/-- The acknowledgement number without what the history acknowledged. -/
def unaccounted (c : TcpConnection) : UInt32 :=
  c.tcb.acknowledgementNumber - (acknowledged c.history).toUInt32

/-! ### No act leaves an unaccounted number -/

structure Accounts (c c' : TcpConnection) : Prop where
  unaccounted : c'.unaccounted = c.unaccounted
  synSequenceNumber : c'.tcb.synSequenceNumber = c.tcb.synSequenceNumber
  mono : acknowledged c.history ≤ acknowledged c'.history

theorem SameUpstream.accounts {c c' : TcpConnection} (same : SameUpstream c c') : Accounts c c' where
  unaccounted := by
    rw [TcpConnection.unaccounted, TcpConnection.unaccounted, same.acknowledgementNumber, same.acknowledged]
  synSequenceNumber := same.synSequenceNumber
  mono := Nat.le_of_eq same.acknowledged.symm

theorem Accounts.refl (c : TcpConnection) : Accounts c c := ⟨rfl, rfl, Nat.le_refl _⟩

theorem Accounts.trans {a b c : TcpConnection} (h : Accounts a b) (h' : Accounts b c) : Accounts a c :=
  ⟨h'.unaccounted.trans h.unaccounted, h'.synSequenceNumber.trans h.synSequenceNumber,
    Nat.le_trans h.mono h'.mono⟩

/-- An effect that acknowledges in the header what it adds to the history. -/
theorem accounts_advance (c : TcpConnection) (e : Effect) : Accounts c { c with
    tcb.acknowledgementNumber := c.tcb.acknowledgementNumber + e.sequenceLength.toUInt32
    history := c.history ++ [e] } where
  unaccounted := by
    simp only [TcpConnection.unaccounted, acknowledged_concat, toUInt32_add]
    grind
  synSequenceNumber := rfl
  mono := by rw [acknowledged_concat]; omega

theorem doHandleFin_accounts (c : TcpConnection) : Accounts c c.doHandleFin :=
  (accounts_advance c .finConsumed).trans (doHandleFin_upstream c).accounts

theorem deviceAct_accounts {s : Segment} {c c' : TcpConnection} (act : DeviceAct s c c') :
    Accounts c c' := by
  cases act with
  | reply flags plain => exact (sameUpstream_sendEmptyPacketToClient c flags).accounts
  | close => exact ⟨rfl, rfl, Nat.le_refl _⟩
  | expect => exact ⟨rfl, rfl, Nat.le_refl _⟩
  | establish half => exact ⟨rfl, rfl, Nat.le_refl _⟩
  | store inSequence ready data fits =>
    have advance := accounts_advance c (.stored s.payload)
    exact ⟨advance.unaccounted, rfl, advance.mono⟩
  | fin => exact ⟨rfl, rfl, Nat.le_refl _⟩
  | consumeFin received drained => exact doHandleFin_accounts c
  | finAck => exact (sameUpstream_handleFinAck c).accounts

theorem receiveAct_accounts {reads : List ReadAnswer} {c c' : TcpConnection} (act : ReceiveAct reads c c') :
    Accounts c c' := by
  obtain ⟨answer, given, free, established, window⟩ := act
  rcases receiveOne_upstream c answer window with same | ⟨_, same⟩
  · exact same.accounts
  · exact (accounts_advance c .eof).trans same.accounts

theorem networkAct_accounts {a : PollAnswers} {c c' : TcpConnection} (act : NetworkAct a c c') :
    Accounts c c' := by
  cases act with
  | flush _ pending flushed => exact (sameUpstream_flush flushed).accounts
  | write buffer bytes written =>
    exact ⟨by simp [TcpConnection.unaccounted, Effect.sequenceLength], rfl, by simp⟩
  | reply flags free plain => exact (sameUpstream_sendEmptyPacketToClient c flags).accounts
  | close => exact ⟨rfl, rfl, Nat.le_refl _⟩
  | consumeFin free received drained => exact doHandleFin_accounts c
  | receive _ turn => exact receiveAct_accounts turn
  | connect free connecting => exact (sameUpstream_processConnect c).accounts

theorem pollSelf_accounts (c : TcpConnection) (a : PollAnswers) : Accounts c (c.pollSelf a).1 :=
  acts_invariant (fun _ _ sofar act => sofar.trans (networkAct_accounts act)) (pollSelf_acts c a) (.refl c)

/-! ### From the first SYN on -/

/-- The numbers start with the SYN, and nothing is stored or received before the SYN-ACK. -/
structure Accounted (c : TcpConnection) : Prop where
  law : c.tcb.state ≠ .init → c.unaccounted = c.tcb.synSequenceNumber + 1
  early : ¬ c.Started → c.tcb.finReceived = false ∧ acknowledged c.history = 0

theorem started_of_established {c : TcpConnection} (h : c.tcb.state = .established) : c.Started := by
  simp [Started, h]

theorem started_doHandleFin {c : TcpConnection} (started : c.Started) : c.doHandleFin.Started := by
  unfold Started doHandleFin at *
  dsimp only
  split_ifs <;> simp_all [close]

theorem deviceAct_started {s : Segment} {c c' : TcpConnection} (started : c.Started)
    (act : DeviceAct s c c') : c'.Started := by
  cases act with
  | reply flags plain => simpa [Started] using started
  | close => exact started
  | expect => exact started
  | establish half => simp [Started]
  | store inSequence ready data fits => exact started
  | fin => exact started
  | consumeFin received drained => exact started_doHandleFin started
  | finAck =>
    unfold Started handleFinAck at *
    split_ifs <;> simp_all [close]

theorem flush_state {c c' : TcpConnection} (flushed : c.flushPendingPacket = .ok c') :
    c'.tcb.state = c.tcb.state := by
  cases flushes flushed with
  | nothing free => rfl
  | sent len buffer waiting fits => rfl

/-- Before the SYN-ACK a poll acknowledges nothing, and leaves that phase only by connecting. -/
theorem networkAct_early {a : PollAnswers} {c c' : TcpConnection} (act : NetworkAct a c c')
    (waiting : ¬ c.Started) (noFin : c.tcb.finReceived = false) :
    (c'.tcb.state = c.tcb.state ∧ c'.tcb.finReceived = false ∧
      acknowledged c'.history = acknowledged c.history) ∨
    (c.tcb.state = .synSent ∧ c'.Started) := by
  cases act with
  | flush _ pending flushed =>
    have same := sameUpstream_flush flushed
    exact Or.inl ⟨flush_state flushed, by rw [same.finReceived, noFin], same.acknowledged⟩
  | write buffer bytes written => exact Or.inl ⟨rfl, noFin, by simp [Effect.sequenceLength]⟩
  | reply flags free plain => exact Or.inl ⟨by simp, by simpa using noFin, by simp⟩
  | close => exact Or.inl ⟨rfl, noFin, rfl⟩
  | consumeFin free received drained => rw [noFin] at received; cases received
  | receive _ turn =>
    obtain ⟨answer, given, free, established, window⟩ := turn
    exact absurd (started_of_established established) waiting
  | connect free connecting => exact Or.inr ⟨connecting, by simp [Started, processConnect]⟩

theorem networkAct_started {a : PollAnswers} {c c' : TcpConnection} (act : NetworkAct a c c')
    (started : c.Started) : c'.Started := by
  cases act with
  | flush _ pending flushed => rwa [Started, flush_state flushed]
  | write buffer bytes written => exact started
  | reply flags free plain => simpa [Started] using started
  | close => exact started
  | consumeFin free received drained => exact started_doHandleFin started
  | receive _ turn =>
    obtain ⟨answer, given, free, established, window⟩ := turn
    have turn := c.receiveOne_turn answer
    generalize c.receiveOne answer = result at turn ⊢
    unfold Started
    cases turn with
    | sent p packet buffer ok fits => simp [established]
    | deferred p packet e ok full => simp [established]
    | ended p ok => simp [eof]
    | blocked => simp [established]
    | failed => simp [close, established]
  | connect free connecting => exact absurd connecting started.2

theorem networkAct_accounted {a : PollAnswers} {c c' : TcpConnection} (h : c.Accounted)
    (act : NetworkAct a c c') : c'.Accounted := by
  have accounts := networkAct_accounts act
  by_cases started : c.Started
  · refine ⟨fun _ => ?_, fun waiting => absurd (networkAct_started act started) waiting⟩
    rw [accounts.unaccounted, accounts.synSequenceNumber, h.law started.1]
  · obtain ⟨noFin, nothing⟩ := h.early started
    rcases networkAct_early act started noFin with ⟨state, still, same⟩ | ⟨connecting, begun⟩
    · refine ⟨fun begun => ?_, fun _ => ⟨still, same.trans nothing⟩⟩
      rw [accounts.unaccounted, accounts.synSequenceNumber, h.law (state ▸ begun)]
    · refine ⟨fun _ => ?_, fun waiting => absurd begun waiting⟩
      rw [accounts.unaccounted, accounts.synSequenceNumber, h.law (by simp [connecting])]

/-- The opening of the connection: the device sends nothing but SYNs until the SYN-ACK. -/
def Opening (c : TcpConnection) : Event → Prop
  | .packet s _ => ¬ c.Started → s.header.isSyn = true
  | _ => True

theorem handlePacket_accounts {c : TcpConnection} (s : Segment) (random : UInt32) (started : c.Started) :
    Accounts c (c.handlePacket s random) ∧ (c.handlePacket s random).Started := by
  refine acts_invariant (P := fun c' => Accounts c c' ∧ c'.Started) ?_
    (handlePacket_settled_acts s random started.1 started.2) ⟨.refl c, started⟩
  intro a b sofar act
  exact ⟨sofar.1.trans (deviceAct_accounts act), deviceAct_started sofar.2 act⟩

theorem step_accounted {c : TcpConnection} {event : Event} (h : c.Accounted)
    (opening : Opening c event) : (c.step event).Accounted := by
  cases event with
  | packet s random =>
    by_cases started : c.Started
    · obtain ⟨accounts, still⟩ := handlePacket_accounts s random started
      refine ⟨fun _ => ?_, fun waiting => absurd still waiting⟩
      rw [step, accounts.unaccounted, accounts.synSequenceNumber, h.law started.1]
    · have isSyn := opening started
      obtain ⟨noFin, nothing⟩ := h.early started
      have first : ∀ c' : TcpConnection, c'.tcb.acknowledgementNumber = s.header.sequenceNumber + 1 →
          c'.tcb.synSequenceNumber = s.header.sequenceNumber → c'.tcb.finReceived = false →
          c'.history = c.history → c'.Accounted := by
        intro c' ack syn fin history
        refine ⟨fun _ => ?_, fun _ => ⟨fin, by rw [history, nothing]⟩⟩
        rw [unaccounted, ack, syn, history, nothing]
        exact UInt32.sub_zero _
      rw [step, handlePacket]
      split_ifs with init
      · rw [handleFirstPacket, if_pos isSyn]
        exact first _ rfl rfl noFin rfl
      · have sent : c.tcb.state = .synSent := Decidable.byContradiction fun other => started ⟨init, other⟩
        rw [handleDuplicateSyn, if_pos sent]
        exact first _ rfl rfl noFin rfl
  | poll answers => exact acts_invariant (fun _ _ h act => networkAct_accounted h act) (pollSelf_acts c answers) h
  | shared buffer => exact ⟨h.law, h.early⟩

/-! ### When a FIN is consumed and when the end of the stream is read -/

/-- The event makes the relay consume a FIN of the device: it arrives in sequence with nothing left
upstream, or it was deferred and the poll writes the last stored byte. -/
def ConsumesFin (c : TcpConnection) : Event → Prop
  | .packet s _ => c.tcb.state ≠ .init ∧ s.header.isSyn = false ∧
      s.header.sequenceNumber = c.tcb.acknowledgementNumber ∧ s.header.isRst = false ∧
      s.header.isFin = true ∧ c.clientToNetwork.isEmpty = true ∧ ¬ c.Stores s
  | .poll a => c.closed = false ∧ c.tcb.finReceived = true ∧
      ∃ buffer bytes, c.clientToNetwork.writeTo a.send = .ok (buffer, bytes) ∧ bytes ≠ [] ∧
        buffer.isEmpty = true
  | .shared _ => False

/-- The poll reads the end of the server's stream. -/
def ReadsEof (c : TcpConnection) : Event → Prop
  | .poll a => c.closed = false ∧ .ok [] ∈ c.readsOf a
  | _ => False

theorem ReadsEof.given {c : TcpConnection} {a : PollAnswers} (ended : c.ReadsEof (.poll a)) : .ok [] ∈ a.reads := by
  rcases mem_readsOf ended.2 with blocked | given
  · cases blocked
  · exact given

theorem isEmpty_storePayload {c : TcpConnection} {s : Segment} (stores : c.Stores s) :
    (c.storePayload s).clientToNetwork.isEmpty = false := by
  rw [Bool.eq_false_iff, ne_eq, StreamBuffer.isEmpty_iff]
  have content : (c.storePayload s).clientToNetwork.content = c.clientToNetwork.content ++ s.payload :=
    StreamBuffer.content_readFrom stores.2.2.2
  simp [content, stores.2.2.1]

theorem takeAck_fins (c : TcpConnection) (s : Segment) :
    finsConsumed (c.takeAck s).history = finsConsumed c.history ∧
      ((c.takeAck s).clientToNetwork.isEmpty = true →
        c.clientToNetwork.isEmpty = true ∧ ¬ c.Stores s) := by
  rcases takeAck_upstream c s with ⟨no, same⟩ | ⟨stores, same⟩
  · exact ⟨same.finsConsumed, fun empty => ⟨by rwa [same.clientToNetwork] at empty, no⟩⟩
  · refine ⟨same.finsConsumed.trans (by simp [storePayload, Effect.isFinConsumed]), ?_⟩
    rw [same.clientToNetwork, isEmpty_storePayload stores]
    exact fun empty => by cases empty

theorem takeFin_fins (c : TcpConnection) (s : Segment) :
    finsConsumed (c.takeFin s).history = finsConsumed c.history ∨
      (s.header.isFin = true ∧ c.clientToNetwork.isEmpty = true ∧
        finsConsumed (c.takeFin s).history = finsConsumed c.history + 1) := by
  unfold takeFin handleFin
  split_ifs with fin
  · dsimp only
    split_ifs with empty
    · refine Or.inr ⟨fin, empty, ?_⟩
      rw [(doHandleFin_upstream _).finsConsumed, finsConsumed_concat]
      rfl
    · exact Or.inl rfl
  · exact Or.inl rfl

theorem handleExpected_fins (c : TcpConnection) (s : Segment) :
    finsConsumed (c.handleExpected s).history = finsConsumed c.history ∨
      (s.header.isRst = false ∧ s.header.isFin = true ∧ c.clientToNetwork.isEmpty = true ∧ ¬ c.Stores s ∧
        finsConsumed (c.handleExpected s).history = finsConsumed c.history + 1) := by
  obtain ⟨fins, drained⟩ := takeAck_fins (c.expectedPacket s) s
  unfold handleExpected
  split_ifs with rst
  · exact Or.inl rfl
  · rw [(checkFinAck_upstream _ s).finsConsumed]
    rcases takeFin_fins ((c.expectedPacket s).takeAck s) s with same | ⟨fin, empty, more⟩
    · exact Or.inl (same.trans fins)
    · exact Or.inr ⟨by simpa using rst, fin, (drained empty).1, (drained empty).2, by rw [more, fins]; rfl⟩

theorem handlePacket_fins (c : TcpConnection) (s : Segment) (random : UInt32) :
    finsConsumed (c.handlePacket s random).history = finsConsumed c.history ∨
      (ConsumesFin c (.packet s random) ∧
        finsConsumed (c.handlePacket s random).history = finsConsumed c.history + 1) := by
  unfold handlePacket
  split_ifs with init syn other behind
  · left; unfold handleFirstPacket replyEmptyPacketToClient; split <;> simp [close]
  · left; unfold handleDuplicateSyn replyEmptyPacketToClient; split_ifs <;> simp [close]
  · left; simp
  · left; rfl
  · rcases handleExpected_fins c s with same | ⟨rst, fin, empty, no, more⟩
    · exact Or.inl same
    · exact Or.inr ⟨⟨init, by simpa using syn, Decidable.not_not.mp other, rst, fin, empty, no⟩, more⟩

theorem processSend_fins (c : TcpConnection) (answer : WriteAnswer) :
    finsConsumed (c.processSend answer).1.history = finsConsumed c.history ∨
      (c.tcb.finReceived = true ∧ (∃ buffer bytes, c.clientToNetwork.writeTo answer = .ok (buffer, bytes) ∧
          bytes ≠ [] ∧ buffer.isEmpty = true) ∧
        finsConsumed (c.processSend answer).1.history = finsConsumed c.history + 1) := by
  unfold processSend
  cases written : c.clientToNetwork.writeTo answer with
  | ok result =>
    obtain ⟨buffer, bytes⟩ := result
    dsimp only
    split_ifs with some drained
    · rw [Bool.and_eq_true] at drained
      refine Or.inr ⟨drained.1, ⟨buffer, bytes, rfl, by simpa using some, drained.2⟩, ?_⟩
      rw [(doHandleFin_upstream _).finsConsumed, finsConsumed_concat, finsConsumed_concat]
      rfl
    · left; simp [Effect.isFinConsumed]
    · left; simp [close, Effect.isFinConsumed]
  | error e =>
    cases e with
    | wouldBlock => exact Or.inl rfl
    | other => left; simp [close]

theorem receiveAct_fins {reads : List ReadAnswer} {c c' : TcpConnection} (act : ReceiveAct reads c c') :
    finsConsumed c'.history = finsConsumed c.history := by
  obtain ⟨answer, given, free, established, window⟩ := act
  rcases receiveOne_upstream c answer window with same | ⟨_, same⟩
  · exact same.finsConsumed
  · rw [same.finsConsumed, finsConsumed_concat]
    rfl

theorem pollSelf_fins (c : TcpConnection) (a : PollAnswers) :
    finsConsumed (c.pollSelf a).1.history = finsConsumed c.history ∨
      (ConsumesFin c (.poll a) ∧
        finsConsumed (c.pollSelf a).1.history = finsConsumed c.history + 1) := by
  rcases pollSelf_cases c a with same | ⟨flushed, sent, received, path⟩
  · exact Or.inl (by rw [same])
  have flush := sameUpstream_flush path.flush
  have receive : finsConsumed received.history = finsConsumed sent.history :=
    acts_invariant (P := fun c' => finsConsumed c'.history = finsConsumed sent.history)
      (fun _ _ same act => (receiveAct_fins act).trans same) path.receive rfl
  have connect : finsConsumed (c.pollSelf a).1.history = finsConsumed received.history := by
    rcases path.connect with same | ⟨_, same | same⟩ <;> rw [same]
    · exact (sameUpstream_processConnect received).finsConsumed
    · rfl
  rw [connect, receive]
  rcases path.send with same | same <;> rw [same]
  · exact Or.inl flush.finsConsumed
  · rcases processSend_fins flushed a.send with same | ⟨received, drained, more⟩
    · exact Or.inl (same.trans flush.finsConsumed)
    · rw [flush.finReceived] at received
      rw [flush.clientToNetwork] at drained
      exact Or.inr ⟨⟨path.isOpen, received, drained⟩, by rw [more, flush.finsConsumed]⟩

theorem step_fins (c : TcpConnection) (event : Event) :
    finsConsumed (c.step event).history = finsConsumed c.history ∨
      (ConsumesFin c event ∧ finsConsumed (c.step event).history = finsConsumed c.history + 1) := by
  cases event with
  | packet s random => exact handlePacket_fins c s random
  | poll answers => exact pollSelf_fins c answers
  | shared buffer => exact Or.inl rfl

theorem handlePacket_eofs (c : TcpConnection) (s : Segment) (random : UInt32) :
    eofs (c.handlePacket s random).history = eofs c.history := by
  apply handlePacket_invariant (P := fun c' => eofs c'.history = eofs c.history)
  · intro c' opens
    cases opens <;> rfl
  intro a b sofar act
  rw [← sofar]
  cases act with
  | reply flags plain => simp
  | close => rfl
  | expect => rfl
  | establish half => rfl
  | store inSequence ready data fits => simp [storePayload, Effect.isEof]
  | fin => rfl
  | consumeFin received drained =>
    rw [(doHandleFin_upstream a).eofs, eofs_concat]
    rfl
  | finAck => exact (sameUpstream_handleFinAck a).eofs

theorem pollSelf_eofs {c : TcpConnection} {a : PollAnswers} (noEof : ¬ ReadsEof c (.poll a)) :
    eofs (c.pollSelf a).1.history = eofs c.history := by
  rcases pollSelf_cases c a with same | ⟨flushed, sent, received, path⟩
  · rw [same]
  refine acts_invariant (P := fun c' => eofs c'.history = eofs c.history) ?_ (pollSelf_acts_read c a) rfl
  intro x y sofar act
  rw [← sofar]
  cases act with
  | flush _ pending flushed => exact (sameUpstream_flush flushed).eofs
  | write buffer bytes written => simp [Effect.isEof]
  | reply flags free plain => simp
  | close => rfl
  | consumeFin free received drained =>
    rw [(doHandleFin_upstream x).eofs, eofs_concat]
    rfl
  | receive _ turn =>
    obtain ⟨answer, given, free, established, window⟩ := turn
    rcases receiveOne_upstream x answer window with same | ⟨ended, _⟩
    · exact same.eofs
    · rw [ended] at given
      rcases given with blocked | member
      · cases blocked
      · exact absurd ⟨path.isOpen, member⟩ noEof
  | connect free connecting => exact (sameUpstream_processConnect x).eofs

theorem receiveAct_storedBytes {reads : List ReadAnswer} {c c' : TcpConnection}
    (act : ReceiveAct reads c c') : storedBytes c'.history = storedBytes c.history := by
  obtain ⟨answer, given, free, established, window⟩ := act
  rcases receiveOne_upstream c answer window with same | ⟨_, same⟩
  · exact same.storedBytes
  · rw [same.storedBytes]
    simp [Effect.storedBytes]

theorem pollSelf_storedBytes (c : TcpConnection) (a : PollAnswers) :
    storedBytes (c.pollSelf a).1.history = storedBytes c.history := by
  refine acts_invariant (P := fun c' => storedBytes c'.history = storedBytes c.history) ?_
    (pollSelf_acts c a) rfl
  intro x y sofar act
  rw [← sofar]
  cases act with
  | flush _ pending flushed => exact (sameUpstream_flush flushed).storedBytes
  | write buffer bytes written => simp [Effect.storedBytes]
  | reply flags free plain => simp
  | close => rfl
  | consumeFin free received drained =>
    rw [(doHandleFin_upstream x).storedBytes]
    simp [Effect.storedBytes]
  | receive _ turn => exact receiveAct_storedBytes turn
  | connect free connecting => exact (sameUpstream_processConnect x).storedBytes

/-! ### The accounting -/

/-- A step that reads no end of stream and consumes no second FIN. -/
def Sound (c : TcpConnection) (event : Event) : Prop :=
  ¬ ReadsEof c event ∧ (ConsumesFin c event → finsConsumed c.history = 0)

theorem step_eofs {c : TcpConnection} {event : Event} (noEof : ¬ ReadsEof c event) :
    eofs (c.step event).history = eofs c.history := by
  cases event with
  | packet s random => exact handlePacket_eofs c s random
  | poll answers => exact pollSelf_eofs noEof
  | shared buffer => rfl

theorem pollSelf_acknowledgement {c : TcpConnection} {a : PollAnswers} (noEof : ¬ ReadsEof c (.poll a))
    {n : Nat} (fins : finsConsumed (c.pollSelf a).1.history = finsConsumed c.history + n) :
    (c.pollSelf a).1.tcb.acknowledgementNumber = c.tcb.acknowledgementNumber + n.toUInt32 := by
  have accounts := (pollSelf_accounts c a).unaccounted
  have more : acknowledged (c.pollSelf a).1.history = acknowledged c.history + n := by
    rw [acknowledged_eq, acknowledged_eq, pollSelf_storedBytes, pollSelf_eofs noEof, fins]
    omega
  rw [unaccounted, unaccounted, more, toUInt32_add] at accounts
  grind

theorem created_accounted {buffer : StreamBuffer} {ipHeader : IpHeader} {transportHeader : TransportHeader}
    {c : TcpConnection} (created : create buffer ipHeader transportHeader = .ok c) :
    c.Accounted ∧ eofs c.history = 0 ∧ finsConsumed c.history ≤ 1 := by
  rw [create_eq created]
  exact ⟨⟨fun begun => absurd rfl begun, fun _ => ⟨rfl, rfl⟩⟩, rfl, Nat.zero_le 1⟩

theorem run_accounted {c : TcpConnection} {events : List Event}
    (start : c.Accounted ∧ eofs c.history = 0 ∧ finsConsumed c.history ≤ 1)
    (opening : Along step Opening c events) (sound : Along step Sound c events) :
    (run step c events).Accounted ∧ eofs (run step c events).history = 0 ∧
      finsConsumed (run step c events).history ≤ 1 := by
  refine run_invariant (P := fun c : TcpConnection => c.Accounted ∧ eofs c.history = 0 ∧
    finsConsumed c.history ≤ 1) ?_ start (along_and.mpr ⟨opening, sound⟩)
  rintro c event ⟨accounted, noEofs, fins⟩ ⟨opening, noEof, once⟩
  refine ⟨step_accounted accounted opening, (step_eofs noEof).trans noEofs, ?_⟩
  rcases step_fins c event with same | ⟨consumes, more⟩
  · omega
  · have := once consumes
    omega

/-- On sound runs the relay acknowledges the SYN, the stored bytes and the consumed FIN, and a poll
moves the number only by consuming a deferred FIN. -/
theorem acknowledgement_accounting {buffer : StreamBuffer} {ipHeader : IpHeader}
    {transportHeader : TransportHeader} {c₀ : TcpConnection}
    (created : create buffer ipHeader transportHeader = .ok c₀) {events : List Event}
    (opening : Along step Opening c₀ events) (sound : Along step Sound c₀ events) :
    ((run step c₀ events).Started →
      (run step c₀ events).tcb.acknowledgementNumber = (run step c₀ events).tcb.synSequenceNumber + 1 +
        ((storedBytes (run step c₀ events).history).length +
          if 0 < finsConsumed (run step c₀ events).history then 1 else 0).toUInt32) ∧
    ∀ a, Sound (run step c₀ events) (.poll a) →
      ((run step c₀ events).pollSelf a).1.tcb.acknowledgementNumber =
          (run step c₀ events).tcb.acknowledgementNumber ∨
        ConsumesFin (run step c₀ events) (.poll a) ∧
          finsConsumed (run step c₀ events).history = 0 ∧
          finsConsumed ((run step c₀ events).pollSelf a).1.history = 1 ∧
          ((run step c₀ events).pollSelf a).1.tcb.acknowledgementNumber =
            (run step c₀ events).tcb.acknowledgementNumber + 1 := by
  obtain ⟨accounted, noEofs, fins⟩ := run_accounted (created_accounted created) opening sound
  generalize run step c₀ events = c at *
  constructor
  · intro started
    have law := accounted.law started.1
    have count : acknowledged c.history =
        (storedBytes c.history).length + if 0 < finsConsumed c.history then 1 else 0 := by
      rw [acknowledged_eq]
      split <;> omega
    rw [unaccounted, count] at law
    grind
  · rintro a ⟨noEof, once⟩
    rcases pollSelf_fins c a with same | ⟨consumes, more⟩
    · left
      have := pollSelf_acknowledgement noEof (n := 0) same
      simpa using this
    · have none := once consumes
      exact Or.inr ⟨consumes, none, by omega, pollSelf_acknowledgement noEof more⟩

theorem handshake_opening (buffer : StreamBuffer) (p : Packetizer) :
    Along step Opening (fresh buffer p) Sample.handshake := by
  refine ⟨fun _ => rfl, trivial, fun waiting => absurd ?_ waiting, trivial⟩
  rw [Sample.handshake_syn, Sample.handshake_connect]
  simp [Started, processConnect]

theorem handshake_sound (buffer : StreamBuffer) (p : Packetizer) :
    Along step Sound (fresh buffer p) Sample.handshake := by
  have noFin (s : Segment) (random : UInt32) (c : TcpConnection) (fin : s.header.isFin = false) :
      Sound c (.packet s random) :=
    ⟨id, fun consumes => by rw [consumes.2.2.2.2.1] at fin; cases fin⟩
  refine ⟨noFin _ _ _ rfl, ⟨?_, ?_⟩, noFin _ _ _ rfl, trivial⟩
  · intro ended
    cases ended.given
  · rw [Sample.handshake_syn]
    rintro ⟨_, received, _⟩
    cases received

/-- The accounting on a run with a handshake and two bytes of data. -/
theorem acknowledgement_accounting_handshake : ∃ c₀ : TcpConnection,
    create (.new 4096) Sample.ipHeader Sample.tcpHeader = .ok c₀ ∧
      let c := run step c₀ (Sample.handshake ++ [.packet (Sample.segment 101 8 flagAck [1, 2]) 0])
      c.tcb.acknowledgementNumber = c.tcb.synSequenceNumber + 1 +
        ((storedBytes c.history).length + if 0 < finsConsumed c.history then 1 else 0).toUInt32 := by
  obtain ⟨c₀, created⟩ := Sample.created (.new 4096)
  refine ⟨c₀, created, (acknowledgement_accounting created ?_ ?_).1 ?_⟩
  all_goals rw [create_eq created]
  all_goals obtain ⟨buffer, e, reply, reached⟩ := Sample.run_handshake (.new 4096) c₀.networkToClient
  all_goals generalize Sample.afterSynAck (.new 4096) c₀.networkToClient = p at reached
  · refine along_append.mpr ⟨handshake_opening _ _, fun waiting => absurd ?_ waiting, trivial⟩
    rw [reached]
    exact started_of_established rfl
  · refine along_append.mpr ⟨handshake_sound _ _, ⟨id, ?_⟩, trivial⟩
    rintro ⟨_, _, _, _, fin, _⟩
    cases fin
  · rw [run_append, reached, run_cons, run_nil, step]
    exact (handlePacket_accounts _ _ (started_of_established rfl)).2

/-- The end of the stream is acknowledged to the device, which sent nothing. -/
theorem eof_acknowledges_nothing : ∃ c₀ : TcpConnection,
    create (.new 4096) Sample.ipHeader Sample.tcpHeader = .ok c₀ ∧
      Along step Opening c₀ (Sample.handshake ++ [.poll { reads := [.ok []] }]) ∧
      let c := run step c₀ (Sample.handshake ++ [.poll { reads := [.ok []] }])
      c.Started ∧ c.tcb.acknowledgementNumber ≠ c.tcb.synSequenceNumber + 1 +
        ((storedBytes c.history).length + if 0 < finsConsumed c.history then 1 else 0).toUInt32 := by
  obtain ⟨c₀, created⟩ := Sample.created (.new 4096)
  refine ⟨c₀, created, ?_⟩
  rw [create_eq created]
  obtain ⟨buffer, e, reply, reached⟩ := Sample.run_handshake (.new 4096) c₀.networkToClient
  generalize Sample.afterSynAck (.new 4096) c₀.networkToClient = p at reached
  refine ⟨along_append.mpr ⟨handshake_opening _ _, trivial, trivial⟩, ?_⟩
  have eof := pollSelf_eof (c := Sample.established buffer p e) (a := { reads := [.ok []] }) rfl rfl rfl rfl
    Sample.window_established rfl
  obtain ⟨p', eof⟩ := eof
  rw [run_append, reached, run_cons, run_nil, step, eof]
  have same := eof_upstream { Sample.established buffer p e with networkToClient := p' }
  dsimp only
  rw [same.acknowledgementNumber, same.synSequenceNumber, same.storedBytes, same.finsConsumed]
  constructor
  · simp [Started, TcpConnection.eof]
  · cases e <;> simp [Sample.established, Sample.establishedTcb, storedBytes, finsConsumed, Effect.storedBytes, Effect.isFinConsumed,
      Effect.isReply] at reply ⊢

end TcpConnection

end Gnirehtet.Relay
