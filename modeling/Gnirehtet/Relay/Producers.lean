import Gnirehtet.Relay.Client

/-!
# Who writes into the shared buffer

Whatever a connection or the router does to the shared buffer is a row of accepted packets: each passes the
check of its stated length against the room, and is stored behind the others.
-/

namespace Gnirehtet.Relay
open Lib Relation

/-- A packet of a producer that passes the check of its stated length, and is stored. -/
inductive Stores : StreamBuffer → List UInt8 → StreamBuffer → Prop where
  /-- A segment that the connection records as appended. -/
  | segment (c c' : TcpConnection) (packet : IpPacket)
      (sent : TcpConnection.sendPacketToBuffer c.buffer packet = .ok c'.buffer)
      (recorded : [Effect.appended packet c.buffer.remaining] <:+ c'.history) :
      Stores c.buffer packet.raw c'.buffer
  /-- What the packetizer of a UDP connection made of a datagram. -/
  | datagram (c c' : UdpConnection) (answer : ReadAnswer) (ipPacket : IpPacket)
      (packetized : c.networkToClient.packetize answer = .ok (.ok (c'.networkToClient, ipPacket)))
      (fits : ipPacket.length.toNat ≤ c.buffer.remaining) (stored : c'.buffer = c.buffer.readFrom ipPacket.raw) :
      Stores c.buffer ipPacket.raw c'.buffer
  | answer (r : Router) (raw : List UInt8) (fits : raw.length ≤ r.buffer.remaining) :
      Stores r.buffer raw (r.answer (some raw)).buffer

/-- What the producers hand over, packet by packet. -/
inductive Hands (b : StreamBuffer) : List (List UInt8) → StreamBuffer → Prop where
  | nil : Hands b [] b
  | concat {packets : List (List UInt8)} {mid b' : StreamBuffer} {raw : List UInt8} (sofar : Hands b packets mid)
      (last : Stores mid raw b') : Hands b (packets ++ [raw]) b'

def Produces (b b' : StreamBuffer) : Prop := ∃ packets, Hands b packets b'

section Produces
variable {b b' : StreamBuffer} {packets : List (List UInt8)}

/-- Whoever hands it over, the packet is one that the queue accepts. -/
theorem Stores.offered {raw : List UInt8} (stores : Stores b raw b') : ∃ (event : Outgoing.Event) (length : Nat),
    event.offered = some (length, raw) ∧ length ≤ b.remaining ∧ b' = b.readFrom raw := by
  cases stores with
  | segment c c' packet sent recorded =>
    refine ⟨.sendPacketToBuffer packet, packet.length.toNat, rfl, ?_⟩
    rw [sendPacketToBuffer_eq, offer] at sent
    split at sent
    · rename_i fits
      exact ⟨fits, (Except.ok.inj sent).symm⟩
    · cases sent
  | datagram c c' answer ipPacket packetized fits stored =>
    exact ⟨.readDatagram ipPacket, ipPacket.length.toNat, rfl, fits, stored⟩
  | answer r raw fits =>
    refine ⟨.sendRawToClient raw, raw.length, rfl, fits, ?_⟩
    rw [Router.answer, if_pos fits]

theorem Hands.append {mid : StreamBuffer} {more : List (List UInt8)} (hands : Hands b packets mid)
    (rest : Hands mid more b') : Hands b (packets ++ more) b' := by
  induction rest with
  | nil => rwa [List.append_nil]
  | concat _ last ih =>
    rw [← List.append_assoc]
    exact ih.concat last

theorem Produces.refl (b : StreamBuffer) : Produces b b := ⟨[], .nil⟩

theorem Produces.single {raw : List UInt8} (stores : Stores b raw b') : Produces b b' := ⟨_, Hands.nil.concat stores⟩

theorem Produces.trans {a b c : StreamBuffer} (h : Produces a b) (h' : Produces b c) : Produces a c := by
  obtain ⟨packets, hands⟩ := h
  obtain ⟨more, rest⟩ := h'
  exact ⟨packets ++ more, hands.append rest⟩

theorem Produces.row (row : ReflTransGen Produces b b') : Produces b b' := by
  induction row with
  | refl => exact .refl b
  | tail _ last ih => exact ih.trans last

/-- What every stored packet keeps. -/
theorem Hands.keeps {P : StreamBuffer → Prop} (keeps : ∀ b raw, P b → P (b.readFrom raw)) (hands : Hands b packets b')
    (start : P b) : P b' := by
  induction hands with
  | nil => exact start
  | concat _ last ih =>
    obtain ⟨_, _, _, _, rfl⟩ := last.offered
    exact keeps _ _ ih

/-- The abstract queue accepts these packets, in this order. -/
theorem Hands.run (hands : Hands b packets b') (o : Outgoing) (same : o.buffer = b) :
    ∃ events : List Outgoing.Event, events.map (fun e => e.offered.map Prod.snd) = packets.map some ∧
      Lib.run Outgoing.step o events = { o with buffer := b', accepted := o.accepted ++ packets } := by
  induction hands with
  | nil => exact ⟨[], rfl, by rw [← same, List.append_nil]; rfl⟩
  | concat _ last ih =>
    obtain ⟨events, offers, sofar⟩ := ih
    obtain ⟨event, stated, offered, fits, rfl⟩ := last.offered
    refine ⟨events ++ [event], ?_, ?_⟩
    · rw [List.map_append, List.map_append, offers, List.map_singleton, offered]
      rfl
    · rw [run_concat, sofar, ← List.append_assoc]
      exact Outgoing.step_passes ⟨stated, offered, fits⟩

end Produces

/-! ### TCP -/

namespace TcpConnection

theorem produces_appended {c c' : TcpConnection} {packet : IpPacket}
    (sent : sendPacketToBuffer c.buffer packet = .ok c'.buffer)
    (recorded : [Effect.appended packet c.buffer.remaining] <:+ c'.history) : Produces c.buffer c'.buffer :=
  .single (.segment c c' packet sent recorded)

theorem produces_reply (c : TcpConnection) (flags : UInt16) :
    Produces c.buffer (c.sendEmptyPacketToClient flags).buffer := by
  unfold sendEmptyPacketToClient
  dsimp only
  split
  · rename_i buffer sent
    exact produces_appended sent (List.suffix_append ..)
  · exact .refl _

theorem produces_doHandleFin (c : TcpConnection) : Produces c.buffer c.doHandleFin.buffer := by
  have replied := produces_reply { c with
    tcb.acknowledgementNumber := c.tcb.acknowledgementNumber + 1
    history := c.history ++ [Effect.finConsumed] }
  unfold doHandleFin
  dsimp only
  split_ifs
  · exact replied (flagFin ||| flagAck)
  · exact replied flagAck
  · exact replied flagAck
  · exact .refl _

theorem deviceAct_produces {s : Segment} {c c' : TcpConnection} (act : DeviceAct s c c') :
    Produces c.buffer c'.buffer := by
  cases act with
  | reply flags plain => exact produces_reply c flags
  | close => exact .refl _
  | expect => exact .refl _
  | establish half => exact .refl _
  | store inSequence ready data fits => exact .refl _
  | fin => exact .refl _
  | consumeFin received drained => exact produces_doHandleFin c
  | finAck =>
    unfold handleFinAck
    split_ifs <;> exact .refl _

theorem produces_receiveOne (c : TcpConnection) (answer : ReadAnswer) :
    Produces c.buffer (c.receiveOne answer).1.buffer := by
  have turn := c.receiveOne_turn answer
  generalize c.receiveOne answer = result at turn ⊢
  cases turn with
  | sent p packet buffer ok fits => exact produces_appended fits (List.suffix_append ..)
  | deferred p packet e ok full => exact .refl _
  | ended p ok =>
    have replied := produces_reply { c with
      networkToClient := p
      tcb.acknowledgementNumber := c.tcb.acknowledgementNumber + 1
      history := c.history ++ [Effect.eof] } (flagFin ||| flagAck)
    exact replied
  | blocked => exact .refl _
  | failed =>
    have replied := produces_reply { c with
      networkToClient := updateHeaders c.networkToClient c.tcb (flagAck ||| flagPsh) c.advertisedWindow } flagRst
    exact replied

theorem networkAct_produces {a : PollAnswers} {c c' : TcpConnection} (act : NetworkAct a c c') :
    Produces c.buffer c'.buffer := by
  cases act with
  | flush _ pending flushed =>
    cases flushes flushed with
    | nothing free => exact .refl _
    | sent len buffer waiting fits => exact produces_appended fits (List.suffix_append ..)
  | write buffer bytes written => exact .refl _
  | reply flags free plain => exact produces_reply c flags
  | close => exact .refl _
  | consumeFin free received drained => exact produces_doHandleFin c
  | receive _ turn =>
    obtain ⟨answer, given, free, established, window⟩ := turn
    exact produces_receiveOne c answer
  | connect free connecting =>
    have replied := produces_reply { c with tcb.state := .synReceived } (flagSyn ||| flagAck)
    exact replied

theorem produces_handlePacket (c : TcpConnection) (s : Segment) (random : UInt32) :
    Produces c.buffer (c.handlePacket s random).buffer := by
  refine handlePacket_invariant (P := fun c' => Produces c.buffer c'.buffer) (fun c' opens => ?_)
    fun _ _ sofar act => sofar.trans (deviceAct_produces act)
  cases opens <;> exact .refl _

theorem produces_pollSelf (c : TcpConnection) (a : PollAnswers) : Produces c.buffer (c.pollSelf a).1.buffer :=
  acts_invariant (P := fun c' => Produces c.buffer c'.buffer)
    (fun _ _ sofar act => sofar.trans (networkAct_produces act)) (pollSelf_acts c a) (.refl _)

end TcpConnection

/-! ### UDP -/

namespace UdpConnection
variable {c c' : UdpConnection} {result : Except ErrorKind Unit}

theorem produces_read {answer : ReadAnswer} (received : c.read answer = .ok (c', result)) :
    Produces c.buffer c'.buffer := by
  obtain ⟨packetized, _, rest⟩ := bind_ok received
  split at rest
  · cases rest
    exact .refl _
  · rename_i networkToClient ipPacket made
    cases rest
    dsimp only
    split
    · rename_i fits
      exact .single (.datagram c { c with
        networkToClient
        buffer := c.buffer.readFrom ipPacket.raw } answer ipPacket made fits rfl)
    · exact .refl _

theorem buffer_write {send : List UInt8 → Except ErrorKind Nat} (written : c.write send = .ok (c', result)) :
    c'.buffer = c.buffer := by
  obtain ⟨_, _, rest⟩ := bind_ok written
  cases rest
  rfl

/-- The connection that `poll_self` goes on with, or leaves closed. -/
def staged : Except UdpConnection (UdpConnection × Bool) → UdpConnection
  | .ok (c, _) => c
  | .error c => c

theorem buffer_pollResult (madeProgress : Bool) (r : UdpConnection × Except ErrorKind Unit) :
    (staged (pollResult madeProgress r)).buffer = r.1.buffer := by
  obtain ⟨c, (_ | _) | _⟩ := r <;> rfl

theorem buffer_pollSend {a : UdpAnswers} {r : Except UdpConnection (UdpConnection × Bool)}
    (sent : c.pollSend a = .ok r) : (staged r).buffer = c.buffer := by
  unfold pollSend at sent
  split at sent
  · cases sent
    rfl
  · obtain ⟨⟨c', result⟩, written, rest⟩ := bind_ok sent
    cases rest
    rw [buffer_pollResult]
    exact buffer_write written

theorem produces_pollReceive {a : UdpAnswers} {madeProgress : Bool} {r : Except UdpConnection (UdpConnection × Bool)}
    (received : c.pollReceive a madeProgress = .ok r) : Produces c.buffer (staged r).buffer := by
  unfold pollReceive at received
  split at received
  · cases received
    exact .refl _
  · obtain ⟨⟨c', result⟩, read, rest⟩ := bind_ok received
    cases rest
    rw [buffer_pollResult]
    exact produces_read read

theorem produces_pollSelf {now : Nat} {a : UdpAnswers} (polled : c.pollSelf now a = .ok (c', result)) :
    Produces c.buffer c'.buffer := by
  unfold pollSelf at polled
  split at polled
  · cases polled
    exact .refl _
  · obtain ⟨sent, sending, rest⟩ := bind_ok polled
    have same : (staged sent).buffer = (c.touch now).buffer := buffer_pollSend sending
    cases sent with
    | error c₁ =>
      cases rest
      exact same ▸ .refl _
    | ok next =>
      obtain ⟨received, receiving, rest⟩ := bind_ok rest
      have produces := produces_pollReceive receiving
      have from' : next.1.buffer = c.buffer := same
      rw [from'] at produces
      rcases received with c₂ | ⟨c₂, _ | _⟩ <;> cases rest <;> exact produces

theorem buffer_sendToNetwork {ipPacket : IpPacket} (sent : c.sendToNetwork ipPacket = .ok c') :
    c'.buffer = c.buffer := by
  obtain ⟨payload, _, rest⟩ := bind_ok sent
  cases payload with
  | none =>
    cases rest
    rfl
  | some payload =>
    obtain ⟨stored, _, rest⟩ := bind_ok rest
    cases stored <;> cases rest <;> rfl

end UdpConnection

/-! ### The router -/

namespace Connection

theorem buffer_borrow (c : Connection) (b : StreamBuffer) : (c.borrow b).buffer = b := by cases c <;> rfl

theorem buffer_close (c : Connection) : c.close.buffer = c.buffer := by cases c <;> rfl

theorem produces_sendToNetwork {c : Connection} {ipPacket : IpPacket} {random : UInt32} {c' : c.Same}
    (sent : c.sendToNetwork ipPacket random = .ok c') : Produces c.buffer c'.1.buffer := by
  cases c with
  | tcp c =>
    obtain ⟨s, _, rest⟩ := bind_ok sent
    cases rest
    exact c.produces_handlePacket s random
  | udp c =>
    obtain ⟨c₁, stored, rest⟩ := bind_ok sent
    cases rest
    show Produces c.buffer c₁.buffer
    rw [UdpConnection.buffer_sendToNetwork stored]
    exact .refl _

theorem produces_poll {c : Connection} {now : Nat} {a : Answers} {c' : c.Same} {result : Except ErrorKind Unit}
    (polled : c.poll now a = .ok (c', result)) : Produces c.buffer c'.1.buffer := by
  cases c with
  | tcp c =>
    cases polled
    exact c.produces_pollSelf a.tcp
  | udp c =>
    obtain ⟨⟨c₁, result₁⟩, one, rest⟩ := bind_ok polled
    cases rest
    exact UdpConnection.produces_pollSelf one

end Connection

namespace Router
variable {r r' : Router}

theorem buffer_quarantines (closedAt : ConnectionId → Nat) (ids : List ConnectionId) (r : Router) :
    (ids.foldl (fun r id => r.quarantine id (closedAt id)) r).buffer = r.buffer := by
  induction ids generalizing r with
  | nil => rfl
  | cons first rest ih => exact ih (r.quarantine first (closedAt first))

theorem buffer_removes (closedAt : ConnectionId → Nat) (ids : List ConnectionId) (r : Router) :
    (ids.foldl (fun r id => r.remove id (closedAt id)) r).buffer = r.buffer := by
  induction ids generalizing r with
  | nil => rfl
  | cons first rest ih =>
    rw [List.foldl_cons, ih, remove]
    split <;> rfl

theorem produces_answer (r : Router) (raw : Option (List UInt8)) : Produces r.buffer (r.answer raw).buffer := by
  cases raw with
  | none => exact .refl _
  | some raw =>
    by_cases fits : raw.length ≤ r.buffer.remaining
    · exact .single (.answer r raw fits)
    · rw [answer, if_neg fits]
      exact .refl _

theorem produces_sendOccupied {env : Env} {id : ConnectionId} {c : Connection} {kind : c.protocol = id.protocol}
    {ipPacket : IpPacket} (sent : r.sendOccupied env id c kind ipPacket = .ok r') : Produces r.buffer r'.buffer := by
  obtain ⟨⟨c', same⟩, one, rest⟩ := bind_ok sent
  cases rest
  have produces := Connection.produces_sendToNetwork one
  rw [Connection.buffer_borrow] at produces
  split <;> exact produces

theorem buffer_createConnection {env : Env} {id : ConnectionId} {b : StreamBuffer} {ipPacket : IpPacket}
    {made : { c : Connection // c.protocol = id.protocol }}
    (created : createConnection env id b ipPacket = .ok (some made)) : made.1.buffer = b := by
  obtain ⟨⟨ipHeader, transportHeader⟩, _, rest⟩ := bind_ok created
  cases transportHeader with
  | none => cases rest
  | some transportHeader =>
    dsimp only at rest
    split at rest
    · split at rest
      · obtain ⟨c, made, same⟩ := bind_ok rest
        cases same
        exact congrArg TcpConnection.buffer (TcpConnection.create_eq made)
      · cases rest
    · split at rest
      · obtain ⟨u, made, same⟩ := bind_ok rest
        cases same
        obtain ⟨packetizer, _, same⟩ := bind_ok made
        cases same
        rfl
      · cases rest
    · cases rest

theorem produces_sendVacant {env : Env} {id : ConnectionId} {ipPacket : IpPacket}
    (sent : r.sendVacant env id ipPacket = .ok r') : Produces r.buffer r'.buffer := by
  obtain ⟨made, creation, rest⟩ := bind_ok sent
  split at rest
  · cases rest
    exact .refl _
  · rename_i c kind
    obtain ⟨⟨c', same⟩, one, rest⟩ := bind_ok rest
    cases rest
    have produces := Connection.produces_sendToNetwork one
    rw [buffer_createConnection creation] at produces
    exact produces

theorem produces_sendToNetwork {env : Env} {ipPacket : IpPacket} (sent : r.sendToNetwork env ipPacket = .ok r') :
    Produces r.buffer r'.buffer := by
  unfold sendToNetwork at sent
  split at sent
  · obtain ⟨reply, _, rest⟩ := bind_ok sent
    cases rest
    exact produces_answer r reply
  · split at sent
    · obtain ⟨raw, _, rest⟩ := bind_ok sent
      cases rest
      exact produces_answer r raw
    · split at sent
      · unfold sendFlow at sent
        dsimp only at sent
        split at sent
        · cases sent
          exact .refl _
        · split at sent
          · exact produces_sendOccupied (r := r.purge env.now) sent
          · exact produces_sendVacant (r := r.purge env.now) sent
      · cases sent
        exact .refl _

theorem produces_pollOne {now : ConnectionId → Nat} {answers : ConnectionId → Answers}
    {state state' : Router × List ConnectionId} {id : ConnectionId}
    (turned : pollOne now answers state id = .ok state') : Produces state.1.buffer state'.1.buffer := by
  unfold pollOne at turned
  split at turned
  · cases turned
    exact .refl _
  · obtain ⟨⟨⟨c', same⟩, result⟩, one, rest⟩ := bind_ok turned
    have produces := Connection.produces_poll one
    rw [Connection.buffer_borrow] at produces
    rcases result with (_ | _) | _ <;> cases rest
    · exact produces
    · rw [← Connection.buffer_close] at produces
      exact produces
    · exact produces

theorem produces_pollConnections {now closedAt : ConnectionId → Nat} {answers : ConnectionId → Answers}
    (polled : r.pollConnections now closedAt answers = .ok r') : Produces r.buffer r'.buffer := by
  obtain ⟨⟨mid, closedIds⟩, turns, rest⟩ := bind_ok polled
  cases rest
  rw [buffer_quarantines]
  suffices ∀ (ids : List ConnectionId) (a b : Router × List ConnectionId),
      ids.foldlM (pollOne now answers) a = .ok b → Produces a.1.buffer b.1.buffer from this _ _ _ turns
  intro ids
  induction ids with
  | nil =>
    intro a b same
    cases same
    exact .refl _
  | cons first rest ih =>
    intro a b turns
    rw [List.foldlM_cons] at turns
    obtain ⟨mid, one, turns⟩ := bind_ok turns
    exact (produces_pollOne one).trans (ih mid b turns)

end Router
end Gnirehtet.Relay
