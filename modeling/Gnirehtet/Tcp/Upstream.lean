import Gnirehtet.Tcp.Acknowledgement

/-!
# The upstream byte stream

What the socket took, followed by what waits in the buffer, is what the relay accepted from the
device, and a segment is accepted once: its number is behind the expected one ever after.
-/

namespace Gnirehtet.Relay
open Lib Relation

namespace TcpConnection

def Exact (c : TcpConnection) : Prop :=
  writtenBytes c.history ++ c.clientToNetwork.content = storedBytes c.history

theorem SameUpstream.exact {c c' : TcpConnection} (same : SameUpstream c c') (h : c.Exact) : c'.Exact := by
  rw [Exact, same.writtenBytes, same.clientToNetwork, same.storedBytes]
  exact h

theorem exact_storePayload {c : TcpConnection} {s : Segment} (h : c.Exact)
    (fits : s.payload.length ≤ c.clientToNetwork.remaining) : (c.storePayload s).Exact := by
  have content : (c.storePayload s).clientToNetwork.content = c.clientToNetwork.content ++ s.payload :=
    StreamBuffer.content_readFrom fits
  rw [Exact, content, ← List.append_assoc]
  simp only [storePayload, writtenBytes_concat, storedBytes_concat, Effect.writtenBytes, Effect.storedBytes,
    List.append_nil]
  rw [h]

theorem exact_doHandleFin {c : TcpConnection} (h : c.Exact) : c.doHandleFin.Exact := by
  apply (doHandleFin_upstream c).exact
  simpa [Exact, Effect.writtenBytes, Effect.storedBytes] using h

theorem exact_write {c : TcpConnection} {answer : WriteAnswer} {buffer : StreamBuffer} {bytes : List UInt8}
    (h : c.Exact) (written : c.clientToNetwork.writeTo answer = .ok (buffer, bytes)) :
    ({ c with clientToNetwork := buffer, history := c.history ++ [Effect.written bytes] } :
      TcpConnection).Exact := by
  have content := StreamBuffer.content_writeTo written
  simp only [Exact, writtenBytes_concat, storedBytes_concat, Effect.writtenBytes, Effect.storedBytes,
    List.append_nil, List.append_assoc, ← content]
  exact h

theorem deviceAct_exact {s : Segment} {c c' : TcpConnection} (h : c.Exact) (act : DeviceAct s c c') :
    c'.Exact := by
  cases act with
  | reply flags plain => exact (sameUpstream_sendEmptyPacketToClient c flags).exact h
  | close => exact h
  | expect => exact h
  | establish half => exact h
  | store inSequence ready data fits => exact exact_storePayload h fits
  | fin => exact h
  | consumeFin received drained => exact exact_doHandleFin h
  | finAck => exact (sameUpstream_handleFinAck c).exact h

theorem networkAct_exact {a : PollAnswers} {c c' : TcpConnection} (h : c.Exact) (act : NetworkAct a c c') :
    c'.Exact := by
  cases act with
  | flush _ pending flushed => exact (sameUpstream_flush flushed).exact h
  | write buffer bytes written => exact exact_write h written
  | reply flags free plain => exact (sameUpstream_sendEmptyPacketToClient c flags).exact h
  | close => exact h
  | consumeFin free received drained => exact exact_doHandleFin h
  | receive _ turn =>
    obtain ⟨answer, given, free, established, window⟩ := turn
    rcases receiveOne_upstream c answer window with same | ⟨_, same⟩
    · exact same.exact h
    · exact same.exact (by simpa [Exact, Effect.writtenBytes, Effect.storedBytes] using h)
  | connect free connecting => exact (sameUpstream_processConnect c).exact h

theorem step_exact (c : TcpConnection) (event : Event) (h : c.Exact) : (c.step event).Exact := by
  cases event with
  | packet s random =>
    apply handlePacket_invariant _ (fun _ _ => deviceAct_exact)
    intro c' opens
    cases opens <;> exact h
  | poll answers => exact acts_invariant (fun _ _ => networkAct_exact) (pollSelf_acts c answers) h
  | shared buffer => exact h

/-! ### What is accepted -/

/-- `handle_ack` accepts the segment's payload. -/
def Accepts (c : TcpConnection) (s : Segment) : Prop :=
  c.tcb.state ≠ .init ∧ s.header.isSyn = false ∧
    s.header.sequenceNumber = c.tcb.acknowledgementNumber ∧ s.header.isRst = false ∧ c.Stores s

instance (c : TcpConnection) (s : Segment) : Decidable (c.Accepts s) := inferInstanceAs (Decidable (_ ∧ _))

theorem storedBytes_takeFin (c : TcpConnection) (s : Segment) :
    storedBytes (c.takeFin s).history = storedBytes c.history := by
  unfold takeFin handleFin
  split_ifs
  · dsimp only
    split_ifs
    · rw [(doHandleFin_upstream _).storedBytes]
      simp [Effect.storedBytes]
    · rfl
  · rfl

theorem handleExpected_stored (c : TcpConnection) (s : Segment) :
    storedBytes (c.handleExpected s).history =
      storedBytes c.history ++ if s.header.isRst = false ∧ c.Stores s then s.payload else [] := by
  unfold handleExpected
  by_cases rst : s.header.isRst = true
  · rw [if_pos rst, if_neg (by simp [rst]), List.append_nil]
    rfl
  rw [if_neg rst, (checkFinAck_upstream _ s).storedBytes, storedBytes_takeFin]
  rcases takeAck_upstream (c.expectedPacket s) s with ⟨no, same⟩ | ⟨stores, same⟩
  · rw [same.storedBytes, if_neg fun ok => no ok.2, List.append_nil]
    rfl
  · rw [same.storedBytes, if_pos ⟨by simpa using rst, stores⟩, storePayload, storedBytes_concat]
    rfl

/-- The stored bytes grow by the payloads of the accepted segments and by nothing else. -/
theorem handlePacket_stored (c : TcpConnection) (s : Segment) (random : UInt32) :
    storedBytes (c.handlePacket s random).history =
      storedBytes c.history ++ if c.Accepts s then s.payload else [] := by
  unfold handlePacket
  by_cases init : c.tcb.state = .init
  · rw [if_pos init, if_neg fun accepts => accepts.1 init, handleFirstPacket]
    split <;> simp [close, replyEmptyPacketToClient]
  by_cases syn : s.header.isSyn = true
  · rw [if_neg init, if_pos syn, if_neg fun accepts => by simp [accepts.2.1] at syn, handleDuplicateSyn]
    split_ifs <;> simp [close, replyEmptyPacketToClient]
  by_cases inSequence : s.header.sequenceNumber = c.tcb.acknowledgementNumber
  · rw [if_neg init, if_neg syn, if_neg (fun other => other inSequence), handleExpected_stored]
    congr 1
    simp only [Accepts, init, syn, inSequence, ne_eq, not_false_eq_true, true_and]
  · have no : ¬ c.Accepts s := fun accepts => inSequence accepts.2.2.1
    rw [if_neg init, if_neg syn, if_pos inSequence, if_neg no]
    split <;> simp

theorem step_stored (c : TcpConnection) (event : Event) :
    storedBytes (c.step event).history = storedBytes c.history ++
      match event with
      | .packet s _ => if c.Accepts s then s.payload else []
      | _ => [] := by
  cases event with
  | packet s random => exact handlePacket_stored c s random
  | poll answers => rw [step, pollSelf_storedBytes, List.append_nil]
  | shared buffer => simp [step]

/-! ### Copies -/

theorem step_accounts {c : TcpConnection} (event : Event) (started : c.Started) :
    Accounts c (c.step event) ∧ (c.step event).Started := by
  cases event with
  | packet s random => exact handlePacket_accounts s random started
  | poll answers =>
    exact ⟨pollSelf_accounts c answers,
      acts_invariant (fun _ _ begun act => networkAct_started act begun) (pollSelf_acts c answers) started⟩
  | shared buffer => exact ⟨⟨rfl, rfl, Nat.le_refl _⟩, started⟩

theorem run_accounts {c : TcpConnection} (events : List Event) (started : c.Started) :
    Accounts c (run step c events) ∧ (run step c events).Started := by
  refine run_always (P := fun c' => Accounts c c' ∧ c'.Started) ?_ ⟨.refl c, started⟩ events
  rintro a event ⟨sofar, begun⟩
  obtain ⟨accounts, still⟩ := step_accounts event begun
  exact ⟨sofar.trans accounts, still⟩

theorem acknowledged_accepted {c : TcpConnection} {s : Segment} (random : UInt32) (accepts : c.Accepts s) :
    acknowledged c.history < acknowledged (c.handlePacket s random).history := by
  have stored := handlePacket_stored c s random
  rw [if_pos accepts] at stored
  have some : 0 < s.payload.length := List.length_pos_iff.mpr accepts.2.2.2.2.2.2.1
  have length := congrArg List.length stored
  rw [List.length_append] at length
  rw [acknowledged_eq, acknowledged_eq, handlePacket_eofs]
  rcases handlePacket_fins c s random with same | ⟨_, more⟩ <;> omega

theorem handlePacket_other {c : TcpConnection} {s : Segment} (random : UInt32) (started : c.Started)
    (noSyn : s.header.isSyn = false) (other : s.header.sequenceNumber ≠ c.tcb.acknowledgementNumber) :
    c.handlePacket s random = c ∨ c.handlePacket s random = c.sendEmptyPacketToClient flagAck := by
  rw [handlePacket, if_neg started.1, if_neg (by simp [noSyn]), if_pos other]
  split
  · exact Or.inr rfl
  · exact Or.inl rfl

/-- Less than `2^32` numbers after it was accepted, a copy is not in sequence. -/
theorem copy_not_expected {c : TcpConnection} {s : Segment} {random : UInt32} {later : List Event}
    (started : c.Started) (accepts : c.Accepts s)
    (recent : acknowledged (run step c (.packet s random :: later)).history <
      acknowledged c.history + 2 ^ 32) :
    s.header.sequenceNumber ≠ (run step c (.packet s random :: later)).tcb.acknowledgementNumber := by
  obtain ⟨first, begun⟩ := handlePacket_accounts s random started
  obtain ⟨rest, _⟩ := run_accounts later begun
  have moved := acknowledged_accepted random accepts
  have mono := rest.mono
  have law := (first.trans rest).unaccounted
  rw [run_cons] at recent ⊢
  rw [step] at recent ⊢
  generalize run step (c.handlePacket s random) later = c' at *
  obtain ⟨k, more⟩ : ∃ k, acknowledged c'.history = acknowledged c.history + k :=
    ⟨acknowledged c'.history - acknowledged c.history, by omega⟩
  rw [accepts.2.2.1]
  intro same
  rw [unaccounted, unaccounted, more, toUInt32_add, ← same] at law
  have none : k.toUInt32 = (0 : Nat).toUInt32 := by
    show k.toUInt32 = 0
    grind
  have := toUInt32_inj (by omega) (by omega) none
  omega

/-! ### The stream -/

/-- In every run the socket's bytes and the waiting ones are the accepted payloads in order, accepted
segments are in sequence, and a later copy of one changes nothing but may be acknowledged again. -/
theorem upstream_exact {buffer : StreamBuffer} {ipHeader : IpHeader} {transportHeader : TransportHeader}
    {c₀ : TcpConnection} (created : create buffer ipHeader transportHeader = .ok c₀) (events : List Event) :
    let c := run step c₀ events
    (writtenBytes c.history ++ c.clientToNetwork.content = storedBytes c.history) ∧
    (∀ event, storedBytes (c.step event).history = storedBytes c.history ++
      match event with
      | .packet s _ => if c.Accepts s then s.payload else []
      | _ => []) ∧
    (∀ s, c.Accepts s → s.header.sequenceNumber = c.tcb.acknowledgementNumber ∧
      ((c.expectedPacket s).takeAck s).tcb.acknowledgementNumber =
        c.tcb.acknowledgementNumber + s.payload.length.toUInt32) ∧
    ∀ s random later random', c.Started → c.Accepts s →
      let c' := run step c (.packet s random :: later)
      acknowledged c'.history < acknowledged c.history + 2 ^ 32 →
        let c'' := c'.handlePacket s random'
        (writtenBytes c''.history = writtenBytes c'.history ∧ c''.clientToNetwork = c'.clientToNetwork ∧
          c''.tcb = c'.tcb) ∧
        (c'' = c' ∨ c'' = c'.sendEmptyPacketToClient flagAck) := by
  have start : c₀.Exact := by
    rw [create_eq created]
    rfl
  refine ⟨run_always step_exact start events, step_stored _, fun s accepts => ⟨accepts.2.2.1, ?_⟩, ?_⟩
  · rcases takeAck_upstream ((run step c₀ events).expectedPacket s) s with ⟨no, _⟩ | ⟨_, same⟩
    · exact absurd accepts.2.2.2.2 no
    · exact same.acknowledgementNumber
  · intro s random later random' started accepts c' recent
    have begun : c'.Started := (run_accounts _ started).2
    rcases handlePacket_other random' begun accepts.2.1 (copy_not_expected started accepts recent) with same | ack
    · rw [same]
      exact ⟨⟨rfl, rfl, rfl⟩, Or.inl rfl⟩
    · rw [ack]
      exact ⟨by simp, Or.inr rfl⟩

/-- After a handshake two bytes are accepted, and their copy is not. -/
theorem upstream_exact_handshake : ∃ c₀ : TcpConnection,
    create (.new 4096) Sample.ipHeader Sample.tcpHeader = .ok c₀ ∧
      let c := run step c₀ Sample.handshake
      let s := Sample.segment 101 8 flagAck [1, 2]
      storedBytes (c.step (.packet s 0)).history = storedBytes c.history ++ [1, 2] ∧
      ((run step c [.packet s 0]).handlePacket s 0).clientToNetwork =
        (run step c [.packet s 0]).clientToNetwork := by
  obtain ⟨c₀, created⟩ := Sample.created (.new 4096)
  refine ⟨c₀, created, ?_⟩
  obtain ⟨_, stored, _, copy⟩ := upstream_exact created Sample.handshake
  rw [create_eq created] at stored copy ⊢
  obtain ⟨buffer, e, reply, reached⟩ := Sample.run_handshake (.new 4096) c₀.networkToClient
  generalize Sample.afterSynAck (.new 4096) c₀.networkToClient = p at reached
  rw [reached] at stored copy ⊢
  have accepts : (Sample.established buffer p e).Accepts (Sample.segment 101 8 flagAck [1, 2]) := by
    refine ⟨?_, rfl, rfl, rfl, rfl, ?_, ?_, ?_⟩
    · show Sample.establishedTcb.state ≠ .init
      decide
    · show Sample.establishedTcb.state ≠ .synReceived
      decide
    · decide
    · rw [show (Sample.established buffer p e).clientToNetwork = .new (32 * maxPacketLength) from rfl,
        StreamBuffer.remaining_new]
      decide
  refine ⟨by rw [stored]; simp only [if_pos accepts]; rfl, ?_⟩
  refine (copy (Sample.segment 101 8 flagAck [1, 2]) 0 [] 0 (started_of_established rfl) accepts ?_).1.2.1
  have same := handlePacket_stored (Sample.established buffer p e) (Sample.segment 101 8 flagAck [1, 2]) 0
  have length := congrArg List.length same
  rw [if_pos accepts, List.length_append] at length
  rw [run_cons, run_nil, step, acknowledged_eq, acknowledged_eq, handlePacket_eofs]
  have two : (Sample.segment 101 8 flagAck [1, 2]).payload.length = 2 := rfl
  rcases handlePacket_fins (Sample.established buffer p e) (Sample.segment 101 8 flagAck [1, 2]) 0 with
    fins | ⟨_, fins⟩ <;> omega

end TcpConnection

end Gnirehtet.Relay
