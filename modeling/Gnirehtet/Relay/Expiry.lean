import Gnirehtet.Relay.ClosedFlows

/-!
# Idle UDP flows

A cleanup takes out the UDP connections that have been idle for more than 300 seconds. What it looks
at is the time of the last poll, whether that poll moved anything or not.
-/

namespace Gnirehtet.Relay
open Lib Router

/-! ### Polls without traffic -/

theorem DatagramBuffer.writeTo_isOk {b : DatagramBuffer} (stored : b.isEmpty = false)
    (send : List UInt8 → Except ErrorKind Nat) : ∃ b' source, b.writeTo send = .ok (b', source,
      match send source with
      | .ok w => if w = source.length then .ok () else .error .other
      | .error e => .error e) := by
  have length := b.length_eq
  have tail := b.tail_lt
  have small := (u16At b.buf b.tail).toNat_lt
  rw [maxBlockLength, headerLength, maxDatagramLength] at length
  have inside : (slice b.buf (b.tail + 2) (b.tail + 2 + (u16At b.buf b.tail).toNat)) =
      .ok ((b.buf.take (b.tail + 2 + (u16At b.buf b.tail).toNat)).drop (b.tail + 2)) :=
    if_pos ⟨Nat.le_add_right .., by omega⟩
  have size : ((b.buf.take (b.tail + 2 + (u16At b.buf b.tail).toNat)).drop (b.tail + 2)).length =
      (u16At b.buf b.tail).toNat := by
    rw [List.length_drop, List.length_take]
    omega
  rw [writeTo, stored, if_neg (by simp), readU16, if_pos (by omega), ok_bind, inside, ok_bind]
  generalize (b.buf.take (b.tail + 2 + (u16At b.buf b.tail).toNat)).drop (b.tail + 2) = source at size
  refine ⟨b.release (u16At b.buf b.tail).toNat, source, ?_⟩
  rw [← size]
  cases send source <;> rfl

namespace UdpConnection

/-- Nothing is sent to the socket and nothing is received from it. -/
structure NoTraffic (c : UdpConnection) (a : UdpAnswers) : Prop where
  send : c.clientToNetwork.isEmpty = true ∨ ∀ datagram, a.send datagram = .error .wouldBlock
  read : a.read = .error .wouldBlock

/-- A poll without traffic takes the present as the time since which the connection is idle. -/
theorem pollSelf_quiet {c : UdpConnection} {a : UdpAnswers} (isOpen : c.closed = false) (quiet : NoTraffic c a)
    (now : Nat) : ∃ clientToNetwork,
      c.pollSelf now a = .ok ({ c with clientToNetwork, idleSince := now }, .error .wouldBlock) := by
  have sent : ∃ clientToNetwork,
      (c.touch now).pollSend a = .ok (.ok ({ c with clientToNetwork, idleSince := now }, false)) := by
    cases empty : c.clientToNetwork.isEmpty with
    | true => exact ⟨c.clientToNetwork, if_pos empty⟩
    | false =>
      have blocked := quiet.send.resolve_left (by simp [empty])
      obtain ⟨b, source, written⟩ := DatagramBuffer.writeTo_isOk empty a.send
      rw [blocked source] at written
      refine ⟨b, ?_⟩
      rw [pollSend, if_neg (by simpa [touch] using empty), write,
        show (c.touch now).clientToNetwork.writeTo a.send = _ from written]
      rfl
  obtain ⟨clientToNetwork, sent⟩ := sent
  refine ⟨clientToNetwork, ?_⟩
  rw [pollSelf, if_neg (by simp [isOpen]), sent, ok_bind]
  dsimp only
  rw [pollReceive, if_neg (by simp [isOpen]), read, quiet.read]
  rfl

end UdpConnection

/-! ### Idle runs -/

/-- The connection of the flow neither takes a packet nor moves a datagram, and stays in the router. -/
def Idle (id : ConnectionId) (r : Router) : Op → Prop
  | .packet ipPacket _ => ¬ ForFlow ipPacket id
  | .poll _ _ answers => ∀ c, r.connections.lookup id = some (.udp c) → c.NoTraffic (answers id).udp
  | .clean now _ => ∀ c, r.connections.lookup id = some c → c.isExpired (now id) = false
  | .remove id' _ => id' ≠ id
  | .clear => False

def idleAfter (id : ConnectionId) (since : Nat) : Op → Nat
  | .poll now _ _ => now id
  | _ => since

/-- The time of the last poll, or `since` when there is none. -/
def lastPoll (id : ConnectionId) (since : Nat) (ops : List Op) : Nat := ops.foldl (idleAfter id) since

/-- The flow has an open UDP connection that is idle since that time. -/
def IdleSince (id : ConnectionId) (since : Nat) (r : Router) : Prop :=
  ∃ c, r.connections.lookup id = some (.udp c) ∧ c.closed = false ∧ c.idleSince = since

theorem polled_quiet {now : ConnectionId → Nat} {answers : ConnectionId → Answers} {id : ConnectionId}
    {c : UdpConnection} {c' : Connection} {collected : Prop} (isOpen : c.closed = false)
    (quiet : c.NoTraffic (answers id).udp) (polled : Polled now answers id (.udp c) c' collected) :
    ¬ collected ∧ ∃ u : UdpConnection, c' = .udp u ∧ u.closed = false ∧ u.idleSince = now id := by
  obtain ⟨buffer, c₁, result, poll, ends⟩ := polled
  have same : UdpConnection.NoTraffic { c with buffer } (answers id).udp := ⟨quiet.send, quiet.read⟩
  have borrowed : ({ c with buffer } : UdpConnection).closed = false := isOpen
  obtain ⟨clientToNetwork, quietly⟩ := UdpConnection.pollSelf_quiet borrowed same (now id)
  obtain ⟨⟨u, result'⟩, pollSelf, same⟩ := bind_ok poll
  rw [quietly] at pollSelf
  cases pollSelf
  cases same
  exact ⟨ends.2, _, ends.1, isOpen, rfl⟩

theorem protocol_polled {now : ConnectionId → Nat} {answers : ConnectionId → Answers} {id : ConnectionId}
    {c c' : Connection} {collected : Prop} (polled : Polled now answers id c c' collected) :
    c'.protocol = c.protocol := by
  obtain ⟨buffer, c₁, result, poll, ends⟩ := polled
  have kind := c₁.2.trans (Connection.protocol_borrow buffer c)
  rcases result with (_ | _) | _
  · rw [ends.1, kind]
  · rw [ends.1, Connection.protocol_close, kind]
  · rw [ends.1, kind]

theorem idle_step {r : Router} {op : Op} {id : ConnectionId} {since : Nat} (idleSince : IdleSince id since r)
    (completes : r.Completes op) (idle : Idle id r op) : IdleSince id (idleAfter id since op) (r.step op) := by
  obtain ⟨c, found, isOpen, time⟩ := idleSince
  cases act_fate (act_of_completes completes) id with
  | vacant before after remembers => rw [found] at before; cases before
  | kept c₀ c' before after keeps remembers =>
    rw [found] at before
    cases before
    cases keeps with
    | same op notPolled fresh =>
      refine ⟨c, after, isOpen, ?_⟩
      cases op with
      | poll now closedAt answers => exact absurd rfl (notPolled now closedAt answers)
      | _ => exact time
    | sent ipPacket env c' flow taken alive => exact absurd flow idle
    | polled now closedAt answers c' polled =>
      obtain ⟨_, u, rfl, open', time'⟩ := polled_quiet isOpen (idle c found) polled
      exact ⟨u, after, open', time'⟩
  | created ipPacket env c' packet flow admitted before after made free remembers =>
    rw [found] at before
    cases before
  | left c₀ before after ends recorded =>
    rw [found] at before
    cases before
    cases ends with
    | sent ipPacket env c' flow taken closed => exact absurd flow idle
    | polled now closedAt answers c' polled =>
      exact absurd trivial (polled_quiet isOpen (idle c found) polled).1
    | expired now closedAt expired =>
      rw [idle _ found] at expired
      cases expired
    | removed closedAt => exact absurd rfl idle
  | cleared clear after forgotten =>
    rw [clear] at idle
    exact idle.elim

theorem idle_run {r : Router} {ops : List Op} {id : ConnectionId} {since : Nat} (idleSince : IdleSince id since r)
    (completes : Along step Completes r ops) (idle : Along step (Idle id) r ops) :
    IdleSince id (lastPoll id since ops) (run step r ops) := by
  induction ops generalizing r since with
  | nil => exact idleSince
  | cons op rest ih => exact ih (idle_step idleSince completes.1 idle.1) completes.2 idle.2

def UdpOpen (r : Router) : Prop := ∀ id c, r.connections.lookup id = some (.udp c) → c.closed = false

theorem udpOpen_step {r : Router} {op : Op} (allOpen : UdpOpen r) (completes : r.Completes op) : UdpOpen (r.step op) := by
  intro id c found
  cases act_fate (act_of_completes completes) id with
  | vacant before after remembers => rw [after] at found; cases found
  | kept c₀ c' before after keeps remembers =>
    rw [after] at found
    cases found
    cases keeps with
    | same op notPolled fresh => exact allOpen id c before
    | sent ipPacket env c' flow taken alive => exact alive
    | polled now closedAt answers c' polled =>
      have kind := protocol_polled polled
      cases c₀ with
      | tcp c₀ => cases kind
      | udp c₀ => exact open_of_polled polled (allOpen id c₀ before)
  | created ipPacket env c' packet flow admitted before after made free remembers =>
    rw [after] at found
    cases found
    apply Bool.eq_false_iff.mpr
    intro closed
    have kind := (r.step op).typed id _ after
    rw [((created_closed made).mp closed).1] at kind
    cases kind
  | left c₀ before after ends recorded => rw [after] at found; cases found
  | cleared clear after forgotten => rw [after] at found; cases found

theorem udp_open_run {buffer : StreamBuffer} {ops : List Op} (completes : Along step Completes (.new buffer) ops)
    {id : ConnectionId} {c : UdpConnection}
    (found : (run step (.new buffer) ops).connections.lookup id = some (.udp c)) : c.closed = false := by
  have start : UdpOpen (.new buffer) := by
    intro id c found
    cases found
  exact run_invariant (fun _ _ allOpen completes => udpOpen_step allOpen completes) start completes id c found

/-! ### Reclaiming -/

/-- A cleanup removes the connection of the flow and closes it. -/
def Reclaims (r : Router) (id : ConnectionId) (now closedAt : ConnectionId → Nat) : Prop :=
  id ∉ (r.cleanExpiredConnections now closedAt).1.connections ∧
    ∃ c, r.connections.lookup id = some c ∧ c.close ∈ (r.cleanExpiredConnections now closedAt).2

theorem reclaims_iff {r : Router} {id : ConnectionId} {since : Nat} (idleSince : IdleSince id since r)
    (now closedAt : ConnectionId → Nat) :
    Reclaims r id now closedAt ↔ idleTimeoutSeconds < elapsedSeconds (now id) since := by
  obtain ⟨c, found, isOpen, time⟩ := idleSince
  have expired : (r.connections.lookup id).any (·.isExpired (now id)) = true ↔
      idleTimeoutSeconds < elapsedSeconds (now id) since := by
    rw [found, ← time]
    exact decide_eq_true_iff
  obtain ⟨gone, stays⟩ := cleanExpiredConnections_spec r now closedAt id
  rw [← expired]
  constructor
  · rintro ⟨removed, _⟩
    by_contra fresh
    obtain ⟨after, _⟩ := stays fresh
    exact removed ((mem_connections_iff _ id).mpr ⟨_, after.trans found⟩)
  · intro old
    obtain ⟨after, _⟩ := gone old
    refine ⟨fun known => ?_, _, found, ?_⟩
    · obtain ⟨c', found'⟩ := (mem_connections_iff _ id).mp known
      rw [after] at found'
      cases found'
    · refine List.mem_filterMap.mpr ⟨id, List.mem_filter.mpr ⟨?_, old⟩, by rw [found]; rfl⟩
      exact (mem_connections_iff r id).mpr ⟨_, found⟩

/-- The first packet of a UDP flow makes it idle since then. -/
theorem idleSince_created {r : Router} {env : Env} {ipPacket : IpPacket} {id : ConnectionId}
    (completes : r.Completes (.packet ipPacket env)) (flow : ForFlow ipPacket id)
    (free : (r.purge env.now).isRecentlyClosed id = false) (vacant : r.connections.lookup id = none)
    (kind : id.protocol = .udp) (opens : env.opens id = true) :
    IdleSince id env.createdAt (r.step (.packet ipPacket env)) := by
  have admitted : createConnection env id r.buffer ipPacket ≠ .ok none := by
    obtain ⟨transport, data, _⟩ := flow.flow
    exact creation_not_refused data (Or.inr kind) opens
  obtain ⟨c', created, after⟩ := (step_routed completes flow).vacant free vacant admitted
  obtain ⟨⟨made, tcp⟩, same, creation, taken⟩ := created
  rcases (createConnection_cases creation).2 with ⟨p, rfl⟩ | ⟨u, rfl, isOpen, time⟩
  · cases tcp.trans kind
  · obtain ⟨u', stored, ended⟩ := bind_ok taken
    cases ended
    obtain ⟨open', time'⟩ := sendToNetwork_keeps stored
    exact ⟨u', after, open'.trans isOpen, time'.trans time⟩

theorem pollAll_isOk {now : ConnectionId → Nat} {answers : ConnectionId → Answers} {ids : List ConnectionId}
    (state : Router × List ConnectionId) (distinct : ids.Nodup)
    (each : ∀ id ∈ ids, ∀ c, state.1.connections.lookup id = some c → ∀ buffer,
      ∃ out, (c.borrow buffer).poll (now id) (answers id) = .ok out) :
    ∃ state', ids.foldlM (pollOne now answers) state = .ok state' := by
  induction ids generalizing state with
  | nil => exact ⟨state, rfl⟩
  | cons first rest ih =>
    obtain ⟨alone, distinct⟩ := List.nodup_cons.mp distinct
    have turn : ∃ mid, pollOne now answers state first = .ok mid := by
      unfold pollOne
      split
      · exact ⟨_, rfl⟩
      · rename_i c found
        obtain ⟨⟨c', result⟩, polled⟩ := each first List.mem_cons_self c found state.1.buffer
        rw [polled, ok_bind]
        rcases result with (_ | _) | _ <;> exact ⟨_, rfl⟩
    obtain ⟨mid, turned⟩ := turn
    rw [List.foldlM_cons, turned, ok_bind]
    apply ih mid distinct
    intro id member c found
    have other : id ≠ first := by
      rintro rfl
      exact alone member
    rw [(pollOne_other now answers turned other).1] at found
    exact each id (List.mem_cons_of_mem _ member) c found

theorem poll_completes {r : Router} {now : ConnectionId → Nat} {answers : ConnectionId → Answers}
    (closedAt : ConnectionId → Nat)
    (each : ∀ id c, r.connections.lookup id = some c → ∀ buffer,
      ∃ out, (c.borrow buffer).poll (now id) (answers id) = .ok out) :
    r.Completes (.poll now closedAt answers) := by
  obtain ⟨state, polled⟩ := pollAll_isOk (r, []) r.connections.keys_nodup (fun id _ c => each id c)
  exact ⟨_, by rw [act, pollConnections, polled]; rfl⟩

/-- After a run in which the flow is idle, a cleanup reclaims it exactly when the last poll was more than 300
whole seconds ago. -/
theorem idle_flow_reclaimed {buffer : StreamBuffer} {before ops : List Op} {id : ConnectionId} {c : UdpConnection}
    (completes : Along step Completes (.new buffer) (before ++ ops))
    (found : (run step (.new buffer) before).connections.lookup id = some (.udp c))
    (idle : Along step (Idle id) (run step (.new buffer) before) ops) (now closedAt : ConnectionId → Nat) :
    Reclaims (run step (.new buffer) (before ++ ops)) id now closedAt ↔
      idleTimeoutSeconds < elapsedSeconds (now id) (lastPoll id c.idleSince ops) := by
  obtain ⟨first, later⟩ := along_append.mp completes
  have idleSince : IdleSince id c.idleSince (run step (.new buffer) before) :=
    ⟨c, found, udp_open_run first found, rfl⟩
  rw [run_append]
  exact reclaims_iff (idle_run idleSince later idle) now closedAt

namespace Sample

def silent : Answers where
  tcp := {}
  udp := { send := fun _ => .error .wouldBlock, read := .error .wouldBlock }

def opening : List Op := [.packet dnsPacket (envAt 0)]

def pollAt (seconds : Nat) : Op :=
  .poll (fun _ => seconds * nanosPerSecond) (fun _ => seconds * nanosPerSecond) (fun _ => silent)

theorem run_opening (r : Router) : run step r opening = r.step (.packet dnsPacket (envAt 0)) := by
  rw [opening, run_cons, run_nil]

theorem opening_idle : IdleSince dnsFlow 0 (run step (.new (.new 4096)) opening) := by
  rw [run_opening]
  exact idleSince_created (dns_completes _ _) dns_forFlow rfl rfl (by decide) rfl

theorem opening_alone (id : ConnectionId) (c : Connection)
    (found : (run step (.new (.new 4096)) opening).connections.lookup id = some c) : id = dnsFlow := by
  rw [run_opening] at found
  have completes := dns_completes (.new (.new 4096)) (envAt 0)
  cases act_fate (act_of_completes completes) id with
  | vacant before after remembers => rw [after] at found; cases found
  | kept c₀ c' before after keeps remembers => cases before
  | created ipPacket env c' packet flow admitted before after made free remembers =>
    cases packet
    exact flow.unique dns_forFlow
  | left c₀ before after ends recorded => rw [after] at found; cases found
  | cleared clear after forgotten => cases clear

theorem polled_completes (seconds : Nat) :
    Along step Completes (.new (.new 4096)) (opening ++ [pollAt seconds]) := by
  rw [along_concat]
  refine ⟨⟨dns_completes _ _, trivial⟩, ?_⟩
  apply poll_completes
  intro id c found buffer
  have same := opening_alone id c found
  subst same
  obtain ⟨u, udp, isOpen, _⟩ := opening_idle
  have found := found.symm.trans udp
  cases found
  have borrowed : ({ u with buffer } : UdpConnection).closed = false := isOpen
  obtain ⟨clientToNetwork, quietly⟩ :=
    UdpConnection.pollSelf_quiet borrowed (a := silent.udp) ⟨Or.inr fun _ => rfl, rfl⟩ (seconds * nanosPerSecond)
  exact (bind_isOk fun _ => ⟨_, rfl⟩).mpr ⟨_, quietly⟩

theorem polled_idle (seconds : Nat) :
    Along step (Idle dnsFlow) (run step (.new (.new 4096)) opening) [pollAt seconds] :=
  ⟨fun _ _ => ⟨Or.inr fun _ => rfl, rfl⟩, trivial⟩

theorem elapsed_pollAt (polled cleaned since : Nat) :
    elapsedSeconds (cleaned * nanosPerSecond) (lastPoll dnsFlow since [pollAt polled]) = cleaned - polled := by
  have last : lastPoll dnsFlow since [pollAt polled] = polled * nanosPerSecond := rfl
  rw [last, elapsedSeconds, ← Nat.sub_mul, Nat.mul_div_cancel _ (by decide)]

end Sample

/-- A flow that is polled after 302 seconds is reclaimed after 603. -/
theorem idle_flow_reclaimed_dns : Reclaims (run step (.new (.new 4096)) (Sample.opening ++ [Sample.pollAt 302]))
    Sample.dnsFlow (fun _ => 603 * nanosPerSecond) (fun _ => 603 * nanosPerSecond) := by
  obtain ⟨c, found, _, _⟩ := Sample.opening_idle
  rw [idle_flow_reclaimed (Sample.polled_completes 302) found (Sample.polled_idle 302)]
  rw [Sample.elapsed_pollAt]
  decide

/-- After 303 seconds it is not, though it has been idle all the time. -/
theorem polled_flow_stays : Along step Completes (.new (.new 4096)) (Sample.opening ++ [Sample.pollAt 302]) ∧
    IdleSince Sample.dnsFlow 0 (run step (.new (.new 4096)) Sample.opening) ∧
    Along step (Idle Sample.dnsFlow) (run step (.new (.new 4096)) Sample.opening) [Sample.pollAt 302] ∧
    idleTimeoutSeconds < elapsedSeconds (303 * nanosPerSecond) 0 ∧
    ¬ Reclaims (run step (.new (.new 4096)) (Sample.opening ++ [Sample.pollAt 302]))
      Sample.dnsFlow (fun _ => 303 * nanosPerSecond) (fun _ => 303 * nanosPerSecond) := by
  refine ⟨Sample.polled_completes 302, Sample.opening_idle, Sample.polled_idle 302, ?_, ?_⟩
  · rw [elapsedSeconds, Nat.sub_zero, Nat.mul_div_cancel _ (by decide)]
    decide
  have later := (along_append.mp (Sample.polled_completes 302)).2
  have idle := idle_run Sample.opening_idle later (Sample.polled_idle 302)
  rw [run_append, reclaims_iff idle]
  rw [Sample.elapsed_pollAt]
  decide

end Gnirehtet.Relay
