import Gnirehtet.Tcp.ControlPacket
import Gnirehtet.Tcp.Deferral
import Gnirehtet.Tcp.Window

/-!
# The FIN of the relay

The FIN to the device follows the last byte that was read from the server, and no data comes behind it, as
long as nothing was deferred before. A deferred packet that was not flushed is not counted yet, and one that
was flushed is counted with its headers.
-/

namespace Gnirehtet.Relay
open Lib Relation

/-- A packet with FIN was appended. -/
def Effect.SendsFin (e : Effect) : Prop := ∃ packet room, e = .appended packet room ∧ packet.tcp.isFin = true

/-- A packet with FIN was built. -/
def Effect.IsFin (e : Effect) : Prop := ∃ packet, e.packet = some packet ∧ packet.tcp.isFin = true

/-- A packet was appended that has bytes behind its headers. -/
def Effect.IsData (headers : Nat) (e : Effect) : Prop :=
  ∃ packet room, e = .appended packet room ∧ headers < packet.raw.length

theorem Effect.SendsFin.isFin {e : Effect} (sends : e.SendsFin) : e.IsFin := by
  obtain ⟨packet, room, appended, isFin⟩ := sends
  exact ⟨packet, by rw [appended]; rfl, isFin⟩

/-- An effect that neither ends the stream nor brings data to it. -/
structure Effect.Aside (headers : Nat) (e : Effect) : Prop where
  noFin : ¬ e.IsFin
  noData : ¬ e.IsData headers
  nothing : e.receivedBytes = []
  notDeferred : ∀ packet, e ≠ .deferred packet

theorem Effect.aside_of_none {headers : Nat} {e : Effect} (none : e.packet = none) (nothing : e.receivedBytes = []) :
    e.Aside headers where
  noFin := by
    rintro ⟨packet, some, _⟩
    cases none.symm.trans some
  noData := by
    rintro ⟨packet, room, same, _⟩
    rw [same] at none
    cases none
  nothing := nothing
  notDeferred := by
    intro packet same
    rw [same] at none
    cases none

namespace TcpConnection

def since (c₁ c : TcpConnection) : List Effect := c.history.drop c₁.history.length

/-- The number behind the SYN, which `c₁` is about to send, and behind all bytes read since. -/
def nextNumber (c₁ c : TcpConnection) : UInt32 :=
  c₁.tcb.sequenceNumber + 1 + (receivedBytes (since c₁ c)).length.toUInt32

def HasDeferred (c : TcpConnection) : Prop := ∃ packet, Effect.deferred packet ∈ c.history

/-- Every FIN that was sent since `c₁` follows the last byte that was read, and no data is appended behind it. -/
structure LastFin (c₁ c : TcpConnection) : Prop where
  number : ∀ packet room, Effect.appended packet room ∈ since c₁ c → packet.tcp.isFin = true →
    packet.tcp.sequenceNumber = nextNumber c₁ c
  last : (since c₁ c).Pairwise fun e e' => e.SendsFin → ¬ e'.IsData c₁.networkToClient.payloadIndex

/-! ### The invariant -/

/-- No FIN was built. While nothing was deferred either, the sequence number counts the bytes. -/
structure Unfinished (c₁ c : TcpConnection) : Prop where
  noFin : ∀ e ∈ since c₁ c, ¬ e.IsFin
  number : ¬ c.HasDeferred →
    c.tcb.sequenceNumber + (if c.tcb.state = .synSent then 1 else 0) = nextNumber c₁ c

/-- The FIN was built, and nothing more is read. -/
structure Finished (c₁ c : TcpConnection) : Prop where
  closed : c.tcb.state.isClosed = true
  none : ¬ c.HasDeferred
  number : ∀ e ∈ since c₁ c, ∀ packet, e.packet = some packet → packet.tcp.isFin = true →
    packet.tcp.sequenceNumber = nextNumber c₁ c

structure Streams (c₁ c : TcpConnection) : Prop where
  grown : c₁.history <+: c.history
  carries : c.networkToClient.CarriesTcp
  index : c.networkToClient.payloadIndex = c₁.networkToClient.payloadIndex
  pending : ∀ len, c.packetForClientLength = some len →
    c.HasDeferred ∧ c.networkToClient.tcp.isFin = false ∧ c.networkToClient.payloadIndex ≤ len.toNat
  last : (since c₁ c).Pairwise fun e e' => e.IsFin → ¬ e'.IsData c₁.networkToClient.payloadIndex
  phase : Unfinished c₁ c ∨ Finished c₁ c

theorem Streams.lastFin {c₁ c : TcpConnection} (h : Streams c₁ c) : LastFin c₁ c := by
  refine ⟨?_, h.last.imp fun noData sends => noData sends.isFin⟩
  intro packet room member isFin
  rcases h.phase with unfinished | finished
  · exact absurd ⟨packet, rfl, isFin⟩ (unfinished.noFin _ member)
  · exact finished.number _ member packet rfl isFin

theorem since_append {c₁ c c' : TcpConnection} (grown : c₁.history <+: c.history) {effects : List Effect}
    (history : c'.history = c.history ++ effects) : since c₁ c' = since c₁ c ++ effects := by
  rw [since, since, history, List.drop_append_of_le_length grown.length_le]

theorem hasDeferred_append {c c' : TcpConnection} {effects : List Effect} (history : c'.history = c.history ++ effects) :
    c'.HasDeferred ↔ c.HasDeferred ∨ ∃ packet, Effect.deferred packet ∈ effects := by
  simp only [HasDeferred, history, List.mem_append, exists_or]

theorem nextNumber_append {c₁ c c' : TcpConnection} (grown : c₁.history <+: c.history) {effects : List Effect}
    (history : c'.history = c.history ++ effects) :
    nextNumber c₁ c' = nextNumber c₁ c + (receivedBytes effects).length.toUInt32 := by
  rw [nextNumber, nextNumber, since_append grown history, receivedBytes, List.flatMap_append, List.length_append,
    toUInt32_add, ← UInt32.add_assoc]
  rfl

/-! ### Adding to the stream -/

theorem Streams.aside {c₁ c c' : TcpConnection} (h : Streams c₁ c) {effects : List Effect}
    (history : c'.history = c.history ++ effects)
    (quiet : ∀ e ∈ effects, e.Aside c₁.networkToClient.payloadIndex) (carries : c'.networkToClient.CarriesTcp)
    (index : c'.networkToClient.payloadIndex = c.networkToClient.payloadIndex)
    (pending : ∀ len, c'.packetForClientLength = some len →
      c.packetForClientLength = some len ∧ c'.networkToClient.tcp.isFin = false)
    (number : c'.tcb.sequenceNumber = c.tcb.sequenceNumber)
    (waiting : c'.tcb.state = .synSent ↔ c.tcb.state = .synSent)
    (closed : c.tcb.state.isClosed = true → c'.tcb.state.isClosed = true) : Streams c₁ c' := by
  have grown := since_append h.grown history
  have deferred : c'.HasDeferred ↔ c.HasDeferred := by
    rw [hasDeferred_append history]
    refine ⟨fun either => either.elim id ?_, .inl⟩
    rintro ⟨packet, member⟩
    exact absurd rfl ((quiet _ member).notDeferred packet)
  have next : nextNumber c₁ c' = nextNumber c₁ c := by
    have nothing : receivedBytes effects = [] :=
      List.flatMap_eq_nil_iff.mpr fun e member => (quiet e member).nothing
    rw [nextNumber_append h.grown history, nothing]
    exact UInt32.add_zero _
  refine ⟨h.grown.trans (history ▸ List.prefix_append _ _), carries, index.trans h.index, ?_, ?_, ?_⟩
  · intro len some
    obtain ⟨before, noFin⟩ := pending len some
    obtain ⟨was, _, long⟩ := h.pending len before
    exact ⟨deferred.mpr was, noFin, by rw [index]; exact long⟩
  · rw [grown, List.pairwise_append]
    refine ⟨h.last, List.pairwise_of_forall_mem_list fun _ _ e member _ => (quiet e member).noData, ?_⟩
    intro e _ e' member _
    exact (quiet e' member).noData
  · rcases h.phase with unfinished | finished
    · left
      refine ⟨?_, fun none => ?_⟩
      · intro e member
        rw [grown] at member
        rcases List.mem_append.mp member with old | new
        · exact unfinished.noFin e old
        · exact (quiet e new).noFin
      · rw [next, ← unfinished.number (fun was => none (deferred.mpr was)), number]
        simp only [waiting]
    · right
      refine ⟨closed finished.closed, fun was => finished.none (deferred.mp was), ?_⟩
      intro e member packet some isFin
      rw [grown] at member
      rw [next]
      rcases List.mem_append.mp member with old | new
      · exact finished.number e old packet some isFin
      · exact absurd ⟨packet, some, isFin⟩ (quiet e new).noFin

theorem Streams.unfinished {c₁ c c' : TcpConnection} (h : Streams c₁ c) (before : Unfinished c₁ c)
    {effects : List Effect} (history : c'.history = c.history ++ effects) (noFin : ∀ e ∈ effects, ¬ e.IsFin)
    (carries : c'.networkToClient.CarriesTcp)
    (index : c'.networkToClient.payloadIndex = c.networkToClient.payloadIndex)
    (pending : ∀ len, c'.packetForClientLength = some len →
      c'.HasDeferred ∧ c'.networkToClient.tcp.isFin = false ∧ c'.networkToClient.payloadIndex ≤ len.toNat)
    (number : ¬ c'.HasDeferred →
      c'.tcb.sequenceNumber + (if c'.tcb.state = .synSent then 1 else 0) = nextNumber c₁ c') : Streams c₁ c' := by
  have none : ∀ e ∈ since c₁ c', ¬ e.IsFin := by
    intro e member
    rw [since_append h.grown history] at member
    rcases List.mem_append.mp member with old | new
    · exact before.noFin e old
    · exact noFin e new
  refine ⟨h.grown.trans (history ▸ List.prefix_append _ _), carries, index.trans h.index, pending, ?_,
    .inl ⟨none, number⟩⟩
  exact List.pairwise_of_forall_mem_list fun e member _ _ isFin => absurd isFin (none e member)

theorem Streams.same {c₁ c c' : TcpConnection} (h : Streams c₁ c) (net : c'.networkToClient = c.networkToClient)
    (pending : c'.packetForClientLength = c.packetForClientLength) (history : c'.history = c.history)
    (number : c'.tcb.sequenceNumber = c.tcb.sequenceNumber)
    (waiting : c'.tcb.state = .synSent ↔ c.tcb.state = .synSent)
    (closed : c.tcb.state.isClosed = true → c'.tcb.state.isClosed = true) : Streams c₁ c' := by
  refine h.aside (history.trans (List.append_nil _).symm) (fun _ member => by cases member)
    (by rw [net]; exact h.carries) (by rw [net]) ?_ number waiting closed
  intro len some
  rw [pending] at some
  exact ⟨some, by rw [net]; exact (h.pending len some).2.1⟩

theorem Streams.effect {c₁ c c' : TcpConnection} (h : Streams c₁ c) (e : Effect) (silent : e.packet = none)
    (nothing : e.receivedBytes = []) (net : c'.networkToClient = c.networkToClient)
    (pending : c'.packetForClientLength = c.packetForClientLength) (history : c'.history = c.history ++ [e])
    (number : c'.tcb.sequenceNumber = c.tcb.sequenceNumber) (state : c'.tcb.state = c.tcb.state) :
    Streams c₁ c' := by
  refine h.aside history ?_ (by rw [net]; exact h.carries) (by rw [net]) ?_ number (by rw [state])
    (fun closed => by rw [state]; exact closed)
  · intro e' member
    rw [List.mem_singleton.mp member]
    exact Effect.aside_of_none silent nothing
  · intro len some
    rw [pending] at some
    exact ⟨some, by rw [net]; exact (h.pending len some).2.1⟩

theorem Streams.reply {c₁ c : TcpConnection} (h : Streams c₁ c) {flags : UInt16} (noFin : (c.header flags).isFin = false) :
    Streams c₁ (c.sendEmptyPacketToClient flags) := by
  obtain ⟨buffer, packet, e, tcp, length, how, same⟩ := sendEmptyPacketToClient_builds h.carries flags
  have built := tcp_createEmptyResponsePacket h.carries flags
  have about : e.packet = some packet := by
    rw [how]
    split <;> rfl
  rw [same]
  refine h.aside rfl ?_ built.2.2 rfl ?_ rfl Iff.rfl id
  · intro e' member
    rw [List.mem_singleton.mp member]
    refine ⟨?_, ?_, ?_, ?_⟩
    · rintro ⟨packet', some, isFin⟩
      cases about.symm.trans some
      rw [tcp, noFin] at isFin
      cases isFin
    · rintro ⟨packet', room, appended, longer⟩
      rw [appended] at about
      cases about
      rw [length, h.index] at longer
      exact Nat.lt_irrefl _ longer
    · rw [how]
      split <;> rfl
    · intro packet' deferred
      rw [how] at deferred
      split at deferred <;> cases deferred
  · intro len some
    refine ⟨some, ?_⟩
    dsimp only
    rw [built.2.1, noFin]

theorem Streams.open_unfinished {c₁ c : TcpConnection} (h : Streams c₁ c) (isOpen : c.tcb.state.isClosed = false) :
    Unfinished c₁ c := by
  rcases h.phase with unfinished | finished
  · exact unfinished
  · rw [finished.closed] at isOpen
    cases isOpen

/-- The FIN takes the next number when nothing was deferred, and closes the stream. -/
theorem Streams.fin {c₁ c : TcpConnection} (h : Streams c₁ c) (isOpen : c.tcb.state.isClosed = false)
    (none : ¬ c.HasDeferred) (ready : c.tcb.state ≠ .synSent) {tcb : Tcb} (closed : tcb.state.isClosed = true) :
    Streams c₁ { c.sendEmptyPacketToClient (flagFin ||| flagAck) with tcb } := by
  have unfinished := h.open_unfinished isOpen
  obtain ⟨buffer, packet, e, tcp, length, how, same⟩ := sendEmptyPacketToClient_builds h.carries (flagFin ||| flagAck)
  have built := tcp_createEmptyResponsePacket h.carries (flagFin ||| flagAck)
  have about : e.packet = some packet := by
    rw [how]
    split <;> rfl
  have nothing : receivedBytes [e] = [] := by
    rw [how]
    split <;> rfl
  have notDeferred : ∀ packet, e ≠ .deferred packet := by
    intro packet' deferred
    rw [how] at deferred
    split at deferred <;> cases deferred
  have number := unfinished.number none
  rw [if_neg ready] at number
  have grown (c' : TcpConnection) (history : c'.history = c.history ++ [e]) : since c₁ c' = since c₁ c ++ [e] :=
    since_append h.grown history
  have next (c' : TcpConnection) (history : c'.history = c.history ++ [e]) : nextNumber c₁ c' = nextNumber c₁ c := by
    rw [nextNumber_append h.grown history, nothing]
    exact UInt32.add_zero _
  have deferred (c' : TcpConnection) (history : c'.history = c.history ++ [e]) : ¬ c'.HasDeferred := by
    rw [hasDeferred_append history]
    rintro (was | ⟨packet, member⟩)
    · exact none was
    · exact notDeferred packet (List.mem_singleton.mp member).symm
  rw [same]
  refine ⟨h.grown.trans (List.prefix_append _ _), built.2.2, h.index, ?_, ?_, .inr ⟨closed, deferred _ rfl, ?_⟩⟩
  · intro len some
    exact absurd (h.pending len some).1 none
  · rw [grown _ rfl, List.pairwise_append]
    refine ⟨h.last, List.pairwise_singleton _ _, ?_⟩
    intro e' member _ _ isFin
    exact absurd isFin (unfinished.noFin e' member)
  · intro e' member packet' some isFin
    rw [next _ rfl, ← number]
    rw [grown _ rfl] at member
    rcases List.mem_append.mp member with old | new
    · exact absurd ⟨packet', some, isFin⟩ (unfinished.noFin e' old)
    · rw [List.mem_singleton.mp new] at some
      cases about.symm.trans some
      rw [tcp]
      exact (UInt32.add_zero _).symm

theorem Streams.doHandleFin {c₁ c : TcpConnection} (h : Streams c₁ c)
    (none : c.tcb.state = .established → ¬ c.HasDeferred) : Streams c₁ c.doHandleFin := by
  have consumed : Streams c₁ { c with
      tcb.acknowledgementNumber := c.tcb.acknowledgementNumber + 1
      history := c.history ++ [Effect.finConsumed] } := h.effect .finConsumed rfl rfl rfl rfl rfl rfl rfl
  have still : ({ c with
      tcb.acknowledgementNumber := c.tcb.acknowledgementNumber + 1
      history := c.history ++ [Effect.finConsumed] } : TcpConnection).HasDeferred ↔ c.HasDeferred := by
    simp [HasDeferred]
  have answered := consumed.reply (plain_header _ (.inl rfl)).2
  unfold TcpConnection.doHandleFin
  dsimp only
  split_ifs with established half waiting
  · refine consumed.fin ?_ (fun was => none established (still.mp was)) ?_ rfl
    · dsimp only
      rw [established]
      rfl
    · dsimp only
      rw [established]
      exact TcpState.noConfusion
  · refine answered.same rfl rfl rfl rfl ?_ fun _ => rfl
    rw [tcb_sendEmptyPacketToClient]
    dsimp only
    rw [half]
    exact iff_of_false TcpState.noConfusion TcpState.noConfusion
  · exact answered.same rfl rfl rfl rfl Iff.rfl id
  · exact consumed

theorem Streams.handleFinAck {c₁ c : TcpConnection} (h : Streams c₁ c) : Streams c₁ c.handleFinAck := by
  unfold TcpConnection.handleFinAck
  split_ifs with last half
  · exact h.same rfl rfl rfl rfl Iff.rfl id
  · refine h.same rfl rfl rfl rfl ?_ fun _ => rfl
    rw [half]
    exact iff_of_false TcpState.noConfusion TcpState.noConfusion
  · exact h

theorem Streams.processConnect {c₁ c : TcpConnection} (h : Streams c₁ c) (connecting : c.tcb.state = .synSent) :
    Streams c₁ c.processConnect := by
  have unfinished := h.open_unfinished (by rw [connecting]; rfl)
  obtain ⟨buffer, packet, e, tcp, length, how, same⟩ := sendEmptyPacketToClient_builds
    (c := { c with tcb.state := .synReceived }) h.carries (flagSyn ||| flagAck)
  have built := tcp_createEmptyResponsePacket (c := { c with tcb.state := .synReceived }) h.carries (flagSyn ||| flagAck)
  have about : e.packet = some packet := by
    rw [how]
    split <;> rfl
  have nothing : receivedBytes [e] = [] := by
    rw [how]
    split <;> rfl
  have noFin : (({ c with tcb.state := .synReceived } : TcpConnection).header (flagSyn ||| flagAck)).isFin = false :=
    (by decide : ((flagSyn ||| flagAck) &&& 0x1FF &&& flagFin != 0) = false)
  rw [TcpConnection.processConnect, same]
  refine h.unfinished unfinished rfl ?_ built.2.2 rfl ?_ ?_
  · intro e' member
    rw [List.mem_singleton.mp member]
    rintro ⟨packet', some, isFin⟩
    cases about.symm.trans some
    rw [tcp, noFin] at isFin
    cases isFin
  · intro len some
    refine ⟨(hasDeferred_append rfl).mpr (.inl (h.pending len some).1), ?_, (h.pending len some).2.2⟩
    dsimp only
    rw [built.2.1, noFin]
  · intro none
    have number := unfinished.number fun was => none ((hasDeferred_append rfl).mpr (.inl was))
    rw [if_pos connecting] at number
    rw [nextNumber_append h.grown rfl, nothing, ← number]
    rfl

/-- A flush comes before the FIN: it sends the header that lies in the packetizer, which has no FIN yet. -/
theorem Streams.flush {c₁ c c' : TcpConnection} (h : Streams c₁ c) (pending : c.packetForClientLength.isSome = true)
    (flushed : c.flushPendingPacket = .ok c') : Streams c₁ c' := by
  obtain ⟨len, some⟩ := Option.isSome_iff_exists.mp pending
  obtain ⟨was, noFin, long⟩ := h.pending len some
  have unfinished : Unfinished c₁ c := by
    rcases h.phase with unfinished | finished
    · exact unfinished
    · exact absurd was finished.none
  rw [flushPendingPacket, some] at flushed
  dsimp only at flushed
  split at flushed
  · cases flushed
    refine h.unfinished unfinished rfl ?_ h.carries rfl (fun _ none => by cases none) ?_
    · intro e member
      rw [List.mem_singleton.mp member]
      rintro ⟨packet, same, isFin⟩
      cases same
      rw [Packetizer.tcp_inflate h.carries long, noFin] at isFin
      cases isFin
    · intro none
      exact absurd ((hasDeferred_append rfl).mpr (.inl was)) none
  · cases flushed

/-- Neither of the two effects of a turn with a packet is a FIN. -/
theorem received_noFin {packet : IpPacket} (noFin : packet.tcp.isFin = false) (bytes : List UInt8) (e : Effect)
    (about : e.packet = some packet) : ∀ e' ∈ [Effect.received bytes, e], ¬ e'.IsFin := by
  intro e' member
  rintro ⟨packet', some, isFin⟩
  rcases List.mem_cons.mp member with first | second
  · rw [first] at some
    cases some
  · rw [List.mem_singleton.mp second] at some
    cases about.symm.trans some
    rw [noFin] at isFin
    cases isFin

theorem packetizeRead_noFin {c : TcpConnection} (carries : c.networkToClient.CarriesTcp) {answer : ReadAnswer}
    {p : Packetizer} {packet : Option IpPacket}
    (ok : (updateHeaders c.networkToClient c.tcb (flagAck ||| flagPsh) c.advertisedWindow).packetizeRead answer
      (some (min c.tcb.remainingClientWindow.toNat maxPayloadLength)) = .ok (p, packet)) :
    p.CarriesTcp ∧ p.payloadIndex = c.networkToClient.payloadIndex ∧ p.tcp.isFin = false ∧
      ∀ built, packet = some built → built.tcp.isFin = false := by
  have updated := carriesTcp_updateHeaders carries (flagAck ||| flagPsh)
  have header := tcp_updateHeaders carries (flagAck ||| flagPsh)
  have noFin : (c.header (flagAck ||| flagPsh)).isFin = false :=
    (by decide : ((flagAck ||| flagPsh) &&& 0x1FF &&& flagFin != 0) = false)
  obtain ⟨carries', left, built⟩ := packetizeRead_carries updated ok c.maxPayload_lt
  refine ⟨carries', (packetizeRead_payloadIndex ok).trans rfl, by rw [left, header, noFin], fun q some => ?_⟩
  rw [built q some, header, noFin]

section Receive
variable {c₁ c : TcpConnection} (h : Streams c₁ c) (free : c.packetForClientLength = none)
  (established : c.tcb.state = .established) {answer : ReadAnswer} {p : Packetizer} {packet : IpPacket}
  (ok : (updateHeaders c.networkToClient c.tcb (flagAck ||| flagPsh) c.advertisedWindow).packetizeRead answer
    (some (min c.tcb.remainingClientWindow.toNat maxPayloadLength)) = .ok (p, some packet))
include h established ok

include free in
theorem Streams.sent (buffer : StreamBuffer) : Streams c₁ { c with
    networkToClient := p
    buffer
    tcb.sequenceNumber := c.tcb.sequenceNumber + (packet.raw.drop p.payloadIndex).length.toUInt32
    history := c.history ++ [Effect.received (packet.raw.drop p.payloadIndex)] ++
      [Effect.appended packet c.buffer.remaining] } := by
  obtain ⟨carries, index, -, noFin⟩ := packetizeRead_noFin h.carries ok
  have unfinished : Unfinished c₁ c := h.open_unfinished (by rw [established]; rfl)
  have ready : c.tcb.state ≠ .synSent := by
    rw [established]
    exact TcpState.noConfusion
  refine h.unfinished unfinished (List.append_assoc _ _ _) (received_noFin (noFin _ rfl) _ _ rfl) carries index ?_ ?_
  · intro len some
    cases free.symm.trans some
  · intro clean
    have number := unfinished.number fun was =>
      clean ((hasDeferred_append (List.append_assoc _ _ _)).mpr (.inl was))
    rw [if_neg ready, UInt32.add_zero] at number
    have bytes : receivedBytes ([Effect.received (packet.raw.drop p.payloadIndex)] ++
        [Effect.appended packet c.buffer.remaining]) = packet.raw.drop p.payloadIndex := by
      simp [receivedBytes, Effect.receivedBytes]
    dsimp only
    rw [if_neg ready, nextNumber_append h.grown (List.append_assoc _ _ _), bytes, number]
    exact UInt32.add_zero _

theorem Streams.deferred : Streams c₁ { c with
    networkToClient := p
    packetForClientLength := some packet.length
    history := c.history ++ [Effect.received (packet.raw.drop p.payloadIndex)] ++ [Effect.deferred packet] } := by
  obtain ⟨carries, index, left, noFin⟩ := packetizeRead_noFin h.carries ok
  have unfinished : Unfinished c₁ c := h.open_unfinished (by rw [established]; rfl)
  have reads := Packetizer.packetizeRead_some ok c.maxPayload_lt
  have deferred : HasDeferred { c with
      networkToClient := p
      packetForClientLength := some packet.length
      history := c.history ++ [Effect.received (packet.raw.drop p.payloadIndex)] ++ [Effect.deferred packet] } :=
    ⟨packet, List.mem_append_right _ List.mem_cons_self⟩
  refine h.unfinished unfinished (List.append_assoc _ _ _) (received_noFin (noFin _ rfl) _ _ rfl) carries index ?_
    fun clean => absurd deferred clean
  intro len some
  cases some
  refine ⟨deferred, left, ?_⟩
  show p.payloadIndex ≤ packet.length.toNat
  rw [reads.total, reads.length, reads.payloadIndex]
  exact Nat.le_add_right _ _

end Receive

theorem Streams.receiveOne {c₁ c : TcpConnection} (h : Streams c₁ c) (answer : ReadAnswer)
    (free : c.packetForClientLength = none) (established : c.tcb.state = .established)
    (none : Spends flagFin c (c.receiveOne answer).1 → ¬ c.HasDeferred) : Streams c₁ (c.receiveOne answer).1 := by
  have isOpen : c.tcb.state.isClosed = false := by
    rw [established]
    rfl
  have ready : c.tcb.state ≠ .synSent := by
    rw [established]
    exact TcpState.noConfusion
  have rebuilt (p : Packetizer) (carries : p.CarriesTcp)
      (index : p.payloadIndex = c.networkToClient.payloadIndex) : Streams c₁ { c with networkToClient := p } := by
    refine h.aside (List.append_nil _).symm (fun _ member => by cases member) carries index ?_ rfl Iff.rfl id
    intro len some
    cases free.symm.trans some
  have updated := rebuilt _ (carriesTcp_updateHeaders h.carries (flagAck ||| flagPsh)) rfl
  have turn := c.receiveOne_turn answer
  generalize c.receiveOne answer = result at turn none ⊢
  cases turn with
  | sent p packet buffer ok fits => exact h.sent free established ok buffer
  | deferred p packet e ok full => exact h.deferred established ok
  | ended p ok =>
    obtain ⟨read, index, -⟩ := packetizeRead_noFin h.carries ok
    have clean := none (.eof c p read index)
    have eof : Streams c₁ { c with
        networkToClient := p
        tcb.acknowledgementNumber := c.tcb.acknowledgementNumber + 1
        history := c.history ++ [Effect.eof] } := (rebuilt p read index).effect .eof rfl rfl rfl rfl rfl rfl rfl
    refine eof.fin isOpen ?_ ready rfl
    rw [hasDeferred_append rfl]
    rintro (was | ⟨packet, member⟩)
    · exact clean was
    · cases List.mem_singleton.mp member
  | blocked => exact updated
  | failed => exact (updated.reply (plain_header _ (.inr rfl)).2).same rfl rfl rfl rfl Iff.rfl id

theorem call_streams {event : Event} {c₁ c c' : TcpConnection} (h : Streams c₁ c) (call : Call event c c')
    (none : Spends flagFin c c' → ¬ c.HasDeferred) : Streams c₁ c' := by
  cases call with
  | device act =>
    cases act with
    | reply flags plain => exact h.reply (c.plain_header plain).2
    | close => exact h.same rfl rfl rfl rfl Iff.rfl id
    | expect => exact h.same rfl rfl rfl rfl Iff.rfl id
    | establish half =>
      refine h.same rfl rfl rfl rfl ?_ ?_
      · rw [half]
        exact iff_of_false TcpState.noConfusion TcpState.noConfusion
      · rw [half]
        exact fun closed => by cases closed
    | store inSequence ready data fits => exact h.effect (.stored _) rfl rfl rfl rfl rfl rfl rfl
    | fin => exact h.same rfl rfl rfl rfl Iff.rfl id
    | consumeFin received drained => exact h.doHandleFin fun established => none (.doHandleFin c established)
    | finAck => exact h.handleFinAck
  | network act =>
    cases act with
    | flush _ pending flushed => exact h.flush pending flushed
    | write buffer bytes written => exact h.effect (.written bytes) rfl rfl rfl rfl rfl rfl rfl
    | reply flags free plain => exact h.reply (c.plain_header plain).2
    | close => exact h.same rfl rfl rfl rfl Iff.rfl id
    | consumeFin free received drained => exact h.doHandleFin fun established => none (.doHandleFin c established)
    | receive _ turn =>
      obtain ⟨answer, given, free, established, window⟩ := turn
      exact h.receiveOne answer free established none
    | connect free connecting => exact h.processConnect connecting

/-! ### Runs -/

/-- Every FIN of the step is built when nothing was deferred before. -/
def Undeferred (c : TcpConnection) (event : Event) : Prop :=
  ∀ m m', Passes c event m m' → Spends flagFin m m' → ¬ m.HasDeferred

theorem undeferred_of_history {c : TcpConnection} {event : Event} (none : ¬ (c.step event).HasDeferred) :
    Undeferred c event := by
  intro m m' passes _
  rintro ⟨packet, member⟩
  exact none ⟨packet, passes.history.subset member⟩

theorem path_streams {c₁ c : TcpConnection} {event : Event} (h : Streams c₁ c) (undeferred : Undeferred c event)
    (calls : ReflTransGen (Call event) c (c.step event)) : Streams c₁ (c.step event) := by
  refine acts_invariant_on_path calls ?_ h
  intro m m' before call after sofar
  exact call_streams sofar call (undeferred m m' ⟨before, call, after⟩)

theorem step_streams {c₁ c : TcpConnection} {event : Event} (h : Streams c₁ c ∧ c.Started)
    (undeferred : Undeferred c event) : Streams c₁ (c.step event) ∧ (c.step event).Started := by
  refine ⟨?_, (step_accounts event h.2).2⟩
  cases event with
  | packet s random =>
    exact path_streams h.1 undeferred (handlePacket_calls (handlePacket_settled_acts s random h.2.1 h.2.2))
  | poll answers => exact path_streams h.1 undeferred (pollSelf_calls c answers)
  | shared buffer => exact h.1.same rfl rfl rfl rfl Iff.rfl id

theorem streams_start {c : TcpConnection} (ready : c.Ready) (connecting : c.tcb.state = .synSent) : Streams c c where
  grown := List.prefix_rfl
  carries := ready.carries
  index := rfl
  pending := fun len some => by
    cases (ready.free fun started => started.2 connecting).symm.trans some
  last := by simp [since]
  phase := by
    refine .inl ⟨fun e member => by simp [since] at member, fun _ => ?_⟩
    rw [if_pos connecting, nextNumber, since, List.drop_length]
    exact (UInt32.add_zero _).symm

/-- From the SYN-ACK on, every FIN to the device follows the last byte read, and no data follows it, in runs
whose FINs are built when nothing was deferred before. -/
theorem fin_last {buffer : StreamBuffer} {ipHeader : IpHeader} {transportHeader : TransportHeader}
    {c₀ : TcpConnection} (created : create buffer ipHeader transportHeader = .ok c₀) {before : List Event}
    {a : PollAnswers} (connecting : (run step c₀ before).tcb.state = .synSent)
    (connected : ((run step c₀ before).step (.poll a)).Started) (after : List Event)
    (undeferred : Along step Undeferred (run step c₀ before) (.poll a :: after)) :
    LastFin (run step c₀ before) (run step (run step c₀ before) (.poll a :: after)) := by
  have ready := run_always step_ready (created_ready created) before
  generalize run step c₀ before = c₁ at *
  have first : Streams c₁ (c₁.step (.poll a)) :=
    path_streams (streams_start ready connecting) undeferred.1 (pollSelf_calls c₁ a)
  exact (run_invariant (P := fun c => Streams c₁ c ∧ c.Started) (fun _ _ h ok => step_streams h ok)
    ⟨first, connected⟩ undeferred.2).1.lastFin

/-! ### A FIN of the device -/

theorem finSequenceNumber_doHandleFin {c : TcpConnection} (established : c.tcb.state = .established) :
    c.doHandleFin.tcb.finSequenceNumber = some c.tcb.sequenceNumber := by
  simp [doHandleFin, established]

/-- The FIN of the device in Established is answered when nothing is left upstream. -/
theorem handlePacket_fin {c : TcpConnection} {s : Segment} (random : UInt32)
    (established : c.tcb.state = .established) (flags : s.header.flags = flagFin ||| flagAck)
    (inSequence : s.header.sequenceNumber = c.tcb.acknowledgementNumber) (empty : s.payload = [])
    (drained : c.clientToNetwork.isEmpty = true)
    (unanswered : s.header.acknowledgementNumber ≠ c.tcb.sequenceNumber + 1) :
    c.handlePacket s random = ({ c.expectedPacket s with tcb.finReceived := true } : TcpConnection).doHandleFin := by
  have bits : s.header.isSyn = false ∧ s.header.isRst = false ∧ s.header.isAck = true ∧
      s.header.isFin = true := by
    simp only [TcpHeaderData.isSyn, TcpHeaderData.isRst, TcpHeaderData.isAck, TcpHeaderData.isFin, flags]
    decide
  obtain ⟨syn, rst, ack, fin⟩ := bits
  have state : (c.expectedPacket s).tcb.state = .established := established
  have taken : (c.expectedPacket s).takeAck s = c.expectedPacket s := by
    rw [takeAck, if_pos ack, handleAck, if_neg (by simp [state]), if_pos empty]
  have number : ({ c.expectedPacket s with tcb.finReceived := true } : TcpConnection).doHandleFin.tcb.finSequenceNumber =
      some c.tcb.sequenceNumber := finSequenceNumber_doHandleFin established
  rw [handlePacket, if_neg (by simp [established]), if_neg (by simp [syn]), if_neg (by simp [inSequence]),
    handleExpected, if_neg (by simp [rst]), taken, takeFin, if_pos fin, handleFin, if_pos (by exact drained),
    checkFinAck, number]
  exact if_neg unanswered

theorem history_doHandleFin {c : TcpConnection} (established : c.tcb.state = .established) :
    ∃ e, e.isReply = true ∧ c.doHandleFin.history = c.history ++ [Effect.finConsumed] ++ [e] := by
  obtain ⟨_, e, reply, same⟩ := ({ c with
      tcb.acknowledgementNumber := c.tcb.acknowledgementNumber + 1
      history := c.history ++ [Effect.finConsumed] } : TcpConnection).sendEmptyPacketToClient_frame
    (flagFin ||| flagAck)
  refine ⟨e, reply, ?_⟩
  unfold doHandleFin
  dsimp only
  rw [if_pos established, same]

/-- The packetizer after a control packet with FIN: whatever is cut from it begins with that packet. -/
structure HoldsFin (headers : Nat) (p : Packetizer) : Prop where
  carries : p.CarriesTcp
  index : p.payloadIndex = headers
  isFin : p.tcp.isFin = true
  total : ∀ len, (p.inflate len).length.toNat = headers

theorem createEmptyResponsePacket_holdsFin {c : TcpConnection} (carries : c.networkToClient.CarriesTcp) :
    HoldsFin c.networkToClient.payloadIndex
      (createEmptyResponsePacket c.networkToClient c.tcb (flagFin ||| flagAck) c.advertisedWindow).1 where
  carries := (tcp_createEmptyResponsePacket carries (flagFin ||| flagAck)).2.2
  index := rfl
  isFin := by
    rw [(tcp_createEmptyResponsePacket carries (flagFin ||| flagAck)).2.1]
    exact (by decide : ((flagFin ||| flagAck) &&& 0x1FF &&& flagFin != 0) = true)
  total := by
    intro len
    rw [← length_inflate_reply (flagFin ||| flagAck) len, networkToClient_sendEmptyPacketToClient]

/-- With room the FIN is appended with the current number, and stays in the packetizer. -/
theorem doHandleFin_room {c : TcpConnection} (carries : c.networkToClient.CarriesTcp)
    (established : c.tcb.state = .established) (room : c.HasRoom) : ∃ p fin buffer,
      HoldsFin c.networkToClient.payloadIndex p ∧ fin.tcp.isFin = true ∧
      fin.tcp.sequenceNumber = c.tcb.sequenceNumber ∧ fin.raw.length = c.networkToClient.payloadIndex ∧
      buffer = c.buffer.readFrom fin.raw ∧
      c.doHandleFin = { c with
        networkToClient := p
        buffer
        tcb.acknowledgementNumber := c.tcb.acknowledgementNumber + 1
        tcb.finSequenceNumber := some c.tcb.sequenceNumber
        tcb.sequenceNumber := c.tcb.sequenceNumber + 1
        tcb.state := .lastAck
        history := c.history ++ [Effect.finConsumed] ++ [Effect.appended fin c.buffer.remaining] } := by
  let consumed : TcpConnection := { c with
    tcb.acknowledgementNumber := c.tcb.acknowledgementNumber + 1
    history := c.history ++ [Effect.finConsumed] }
  obtain ⟨fin, tcp, length, same⟩ := sendEmptyPacketToClient_room (c := consumed) carries (flagFin ||| flagAck) room
  refine ⟨_, fin, _, createEmptyResponsePacket_holdsFin (c := consumed) carries, ?_, by rw [tcp]; rfl, length, rfl, ?_⟩
  · rw [tcp]
    exact (by decide : ((flagFin ||| flagAck) &&& 0x1FF &&& flagFin != 0) = true)
  · unfold doHandleFin
    dsimp only
    rw [if_pos established, same]

/-- The next poll flushes the deferred packet behind that FIN, under the header of the FIN. -/
theorem doHandleFin_overtakes {c : TcpConnection} (carries : c.networkToClient.CarriesTcp)
    (established : c.tcb.state = .established) (isOpen : c.closed = false) {len : UInt16}
    (pending : c.packetForClientLength = some len) (long : c.networkToClient.payloadIndex ≤ len.toNat)
    (drained : c.clientToNetwork.isEmpty = true) (room : 2 * c.networkToClient.payloadIndex ≤ c.buffer.remaining)
    (a : PollAnswers) : ∃ fin data room',
      fin.tcp.isFin = true ∧ fin.tcp.sequenceNumber = c.tcb.sequenceNumber ∧ data.tcp.isFin = true ∧
      data.raw.length = len.toNat ∧ (c.doHandleFin.pollSelf a).1.history = c.history ++ [Effect.finConsumed] ++
        [Effect.appended fin c.buffer.remaining] ++ [Effect.appended data room'] := by
  obtain ⟨p, fin, buffer, left, isFin, number, size, filled, answered⟩ :=
    doHandleFin_room carries established (show _ ≤ _ by omega)
  have remaining : buffer.remaining = c.buffer.remaining - c.networkToClient.payloadIndex := by
    rw [filled, StreamBuffer.remaining_readFrom (by omega), size]
  rw [answered]
  -- What is flushed begins with the FIN that lies in the packetizer.
  have flushed := flushPendingPacket_room (c := { c with
      networkToClient := p
      buffer
      tcb.acknowledgementNumber := c.tcb.acknowledgementNumber + 1
      tcb.finSequenceNumber := some c.tcb.sequenceNumber
      tcb.sequenceNumber := c.tcb.sequenceNumber + 1
      tcb.state := .lastAck
      history := c.history ++ [Effect.finConsumed] ++ [Effect.appended fin c.buffer.remaining] })
    pending (by
      dsimp only
      rw [left.total]
      omega)
  refine ⟨fin, p.inflate len, buffer.remaining, isFin, number, ?_, ?_, ?_⟩
  · rw [Packetizer.tcp_inflate left.carries (by rw [left.index]; exact long), left.isFin]
  · have := len.toNat_lt
    rw [Packetizer.inflate, List.length_take, p.layout.buffer_length]
    simp only [maxPacketLength]
    omega
  · rw [pollSelf_flush a (by exact isOpen) flushed drained rfl]

end TcpConnection

namespace Sample

def lastSegment : Event := .packet (segment 101 8 (flagFin ||| flagAck) []) 0

/-- After a handshake the device closes its side. -/
theorem fin_last_close : ∃ c₀ : TcpConnection, TcpConnection.create (.new 4096) ipHeader tcpHeader = .ok c₀ ∧
    let c₁ := run TcpConnection.step c₀ (handshake.take 1)
    TcpConnection.LastFin c₁ (run TcpConnection.step c₁ (handshake.drop 1 ++ [lastSegment])) := by
  obtain ⟨c₀, created⟩ := created (.new 4096)
  refine ⟨c₀, created, ?_⟩
  have carries := TcpConnection.create_carriesTcp created
  have fresh := TcpConnection.create_eq created
  have syn := handshake_syn (.new 4096) c₀.networkToClient
  have connect := handshake_connect (.new 4096) c₀.networkToClient
  have sent : run TcpConnection.step c₀ (handshake.take 1) = synSent (.new 4096) c₀.networkToClient := by
    rw [fresh]
    exact syn
  obtain ⟨buffer, e, reply, synAck⟩ := ({ synSent (.new 4096) c₀.networkToClient with tcb.state := .synReceived } :
    TcpConnection).sendEmptyPacketToClient_frame (flagSyn ||| flagAck)
  have reached : (synSent (.new 4096) c₀.networkToClient).processConnect.step
      (.packet (segment 101 8 flagAck []) 0) = established buffer (afterSynAck (.new 4096) c₀.networkToClient) e := by
    rw [TcpConnection.processConnect, synAck]
    rfl
  have reply' : ∀ packet, e ≠ .deferred packet := by
    intro packet same
    rw [same] at reply
    cases reply
  have first : ¬ TcpConnection.HasDeferred (established buffer (afterSynAck (.new 4096) c₀.networkToClient) e) := by
    rintro ⟨packet, member⟩
    exact reply' packet (List.mem_singleton.mp member).symm
  have connected : ((run TcpConnection.step c₀ (handshake.take 1)).step (.poll { connect := .ok () })).Started := by
    rw [sent, connect]
    simp [TcpConnection.Started, TcpConnection.processConnect]
  refine TcpConnection.fin_last created (by rw [sent]; rfl) connected
    [.packet (segment 101 8 flagAck []) 0, lastSegment] ?_
  rw [sent]
  refine ⟨TcpConnection.undeferred_of_history ?_, TcpConnection.undeferred_of_history ?_,
    TcpConnection.undeferred_of_history ?_, trivial⟩
  · rw [connect, TcpConnection.processConnect, synAck]
    exact first
  · rw [connect, reached]
    exact first
  · rw [connect, reached, lastSegment, TcpConnection.step, TcpConnection.handlePacket_fin 0 rfl rfl rfl rfl rfl (show (8 : UInt32) ≠ 8 + 1 by decide)]
    obtain ⟨e', answer, history⟩ := TcpConnection.history_doHandleFin (c := { (established buffer
      (afterSynAck (.new 4096) c₀.networkToClient) e).expectedPacket (segment 101 8 (flagFin ||| flagAck) []) with
        tcb.finReceived := true }) rfl
    rintro ⟨packet, member⟩
    rw [history] at member
    rcases List.mem_append.mp member with old | new
    · rcases List.mem_append.mp old with old | consumed
      · exact first ⟨packet, old⟩
      · cases List.mem_singleton.mp consumed
    · rw [← List.mem_singleton.mp new] at answer
      cases answer

/-- The device closes its side while a packet of the server is deferred, when there is room again for both. -/
def overtaking : List Event := deferring ++ [.shared (.new 4096), lastSegment, .poll {}]

/-- The FIN is appended first, then the deferred packet, whose header is that of the FIN. -/
theorem run_overtaking : ∃ (c₀ : TcpConnection) (fin data : IpPacket) (room room' : Nat) (history : List Effect),
    TcpConnection.create (.new 4096) ipHeader tcpHeader = .ok c₀ ∧
      run TcpConnection.step c₀ (overtaking.take 1) = synSent (.new 4096) c₀.networkToClient ∧
      (run TcpConnection.step c₀ overtaking).history =
        history ++ [Effect.finConsumed] ++ [Effect.appended fin room] ++ [Effect.appended data room'] ∧
      receivedBytes history = [1, 2, 3] ∧ fin.tcp.isFin = true ∧ fin.tcp.sequenceNumber = 8 ∧
      data.tcp.isFin = true ∧ data.raw.length = 43 := by
  let _ : Build := ⟨true⟩
  obtain ⟨c₀, created⟩ := created (.new 4096)
  have versioned := (TcpConnection.created_intact (createdFor created)).versioned
  have index : c₀.networkToClient.payloadIndex = 40 := TcpConnection.create_payloadIndex created
  have fresh := TcpConnection.create_eq created
  obtain ⟨p, packet, history, reached, _, length, whole, _, index', _, received⟩ :=
    run_deferring (.new 4096) versioned index
  rw [← fresh] at reached
  have carries : p.CarriesTcp := by
    have always := run_always (P := fun c : TcpConnection => c.networkToClient.CarriesTcp)
      TcpConnection.step_carriesTcp (TcpConnection.create_carriesTcp created) deferring
    rw [reached] at always
    exact always
  have total : packet.length.toNat = 43 := whole.length.trans length
  let waiting : TcpConnection := { (deferred (.new 4096) p packet history).expectedPacket
    (segment 101 8 (flagFin ||| flagAck) []) with tcb.finReceived := true }
  have answered : (deferred (.new 4096) p packet history).step lastSegment = waiting.doHandleFin :=
    TcpConnection.handlePacket_fin 0 rfl rfl rfl rfl rfl (show (8 : UInt32) ≠ 8 + 1 by decide)
  obtain ⟨fin, data, room', isFin, number, isFin', size, after⟩ := TcpConnection.doHandleFin_overtakes (c := waiting)
    carries rfl rfl rfl (show p.payloadIndex ≤ _ by omega) rfl (by
      show 2 * p.payloadIndex ≤ (StreamBuffer.new 4096).remaining
      rw [index', StreamBuffer.remaining_new]
      decide) {}
  refine ⟨c₀, fin, data, waiting.buffer.remaining, room', history, created, ?_, ?_, received, isFin, number, isFin', size.trans total⟩
  · rw [fresh]
    exact handshake_syn (.new 4096) c₀.networkToClient
  · rw [overtaking, run_append, reached, run_cons, run_cons, run_cons, run_nil]
    show (((deferred (.new 4096) p packet history).step lastSegment).pollSelf {}).1.history = _
    rw [answered]
    exact after

/-- A FIN with number 8 is sent after the three bytes from 8 on were read, and data is appended behind it. -/
theorem fin_overtakes : ∃ c₀ : TcpConnection, TcpConnection.create (.new 4096) ipHeader tcpHeader = .ok c₀ ∧
    let c₁ := run TcpConnection.step c₀ (overtaking.take 1)
    let c := run TcpConnection.step c₁ (overtaking.drop 1)
    c₁.tcb.state = .synSent ∧ (c₁.step (.poll { connect := .ok () })).Started ∧
      (∃ fin room data room', [Effect.appended fin room, Effect.appended data room'].Sublist
          (TcpConnection.since c₁ c) ∧ fin.tcp.isFin = true ∧ fin.tcp.sequenceNumber = 8 ∧
        TcpConnection.nextNumber c₁ c = 11 ∧ c₁.networkToClient.payloadIndex < data.raw.length) ∧
      ¬ TcpConnection.LastFin c₁ c := by
  obtain ⟨c₀, fin, data, room, room', history, created, sent, effects, received, isFin, number, _, size⟩ :=
    run_overtaking
  refine ⟨c₀, created, ?_⟩
  have index : c₀.networkToClient.payloadIndex = 40 := TcpConnection.create_payloadIndex created
  have connect := handshake_connect (.new 4096) c₀.networkToClient
  rw [← List.take_append_drop 1 overtaking, run_append, sent] at effects
  rw [sent]
  dsimp only
  generalize run TcpConnection.step (synSent (.new 4096) c₀.networkToClient) (overtaking.drop 1) = c at effects ⊢
  have all : TcpConnection.since (synSent (.new 4096) c₀.networkToClient) c = history ++ [Effect.finConsumed] ++
      [Effect.appended fin room] ++ [Effect.appended data room'] := effects
  have next : TcpConnection.nextNumber (synSent (.new 4096) c₀.networkToClient) c = 11 := by
    have bytes : receivedBytes (history ++ [Effect.finConsumed] ++ [Effect.appended fin room] ++
        [Effect.appended data room']) = [1, 2, 3] := by
      rw [← received]
      simp [receivedBytes, Effect.receivedBytes]
    rw [TcpConnection.nextNumber, all, bytes]
    show (7 : UInt32) + 1 + ([1, 2, 3] : List UInt8).length.toUInt32 = 11
    decide
  refine ⟨rfl, ?_, ⟨fin, room, data, room', ?_, isFin, number, next, ?_⟩, fun last => ?_⟩
  · rw [connect]
    simp [TcpConnection.Started, TcpConnection.processConnect]
  · rw [all, List.append_assoc]
    exact List.sublist_append_right _ _
  · show c₀.networkToClient.payloadIndex < data.raw.length
    omega
  · have counted := last.number fin room (by rw [all]; simp) isFin
    rw [number, next] at counted
    exact absurd counted (by decide)

end Sample

end Gnirehtet.Relay
