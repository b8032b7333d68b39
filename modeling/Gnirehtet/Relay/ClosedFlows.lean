import Gnirehtet.Relay.Quarantine

/-!
# Closed connections

A connection that closed must leave the router. It does after a poll and after a packet that it was
sent, but not when it closed on the packet that created it: a TCP packet that is no SYN.
-/

namespace Gnirehtet.Relay
open Lib Router

/-! ### Polls that would block -/

namespace TcpConnection

/-- A stage without progress leaves the connection open. -/
def Stage.Open : Stage → Prop
  | .ok (c, madeProgress) => madeProgress = false → c.closed = false
  | .error (c, result) => result = .error .wouldBlock → c.closed = false

theorem open_bind {stage : Stage} {next : TcpConnection × Bool → Stage} (h : stage.Open)
    (later : ∀ c madeProgress, (madeProgress = false → c.closed = false) → (next (c, madeProgress)).Open) :
    Stage.Open (stage >>= next) := by
  cases stage with
  | error e => exact h
  | ok state => exact later state.1 state.2 h

theorem open_pollFlush {c : TcpConnection} (isOpen : c.closed = false) : c.pollFlush.Open := by
  unfold pollFlush
  split
  · split
    · rename_i c' flushed
      exact fun progress => by cases progress
    · exact fun _ => isOpen
  · exact fun _ => isOpen

theorem open_pollSend {c : TcpConnection} {answer : WriteAnswer} {madeProgress : Bool}
    (isOpen : madeProgress = false → c.closed = false) : (c.pollSend answer madeProgress).Open := by
  unfold pollSend
  split
  · unfold processSend
    split
    · dsimp only
      split_ifs <;> exact fun progress => by cases progress
    · exact isOpen
    · exact fun progress => by cases progress
  · exact isOpen

/-- A turn that leaves the loop without progress does not close the connection. -/
theorem closed_receiveOne (c : TcpConnection) (answer : ReadAnswer) :
    (c.receiveOne answer).2 ≠ .leave true → (c.receiveOne answer).1.closed = c.closed := by
  unfold receiveOne
  dsimp only
  split
  · split <;> exact fun _ => rfl
  · exact fun wrong => absurd rfl wrong
  · exact fun _ => rfl
  · exact fun wrong => absurd rfl wrong

theorem closed_receiveLoop (n : Nat) (c : TcpConnection) (reads : List ReadAnswer) (madeProgress : Bool) :
    (receiveLoop n c reads madeProgress).2 = false → (receiveLoop n c reads madeProgress).1.closed = c.closed := by
  induction n generalizing c reads madeProgress with
  | zero => exact fun _ => rfl
  | succ n ih =>
    unfold receiveLoop
    split_ifs with pending full
    · exact fun _ => rfl
    · exact fun _ => rfl
    · have kept := closed_receiveOne c (reads.headD (.error .wouldBlock))
      cases turn : c.receiveOne (reads.headD (.error .wouldBlock)) with
      | mk c' how =>
        rw [turn] at kept
        cases how with
        | again =>
          intro progress
          exact (ih c' reads.tail true progress).trans (kept nofun)
        | leave progress =>
          intro none
          cases progress with
          | false => exact kept nofun
          | true => simp at none

theorem open_pollReceive {c : TcpConnection} {reads : List ReadAnswer} {madeProgress : Bool}
    (isOpen : madeProgress = false → c.closed = false) : (c.pollReceive reads madeProgress).Open := by
  unfold pollReceive
  split
  · unfold processReceive
    have kept := closed_receiveLoop maxPacketsPerPoll c reads false
    cases loop : receiveLoop maxPacketsPerPoll c reads false with
    | mk c' progress =>
      rw [loop] at kept
      cases progress with
      | true => exact fun progress => by cases progress
      | false => exact fun none => (kept rfl).trans (isOpen none)
  · exact isOpen

theorem open_pollConnect {c : TcpConnection} {answer : Except ErrorKind Unit} {madeProgress : Bool}
    (isOpen : madeProgress = false → c.closed = false) : (c.pollConnect answer madeProgress).Open := by
  unfold pollConnect
  split
  · split
    · exact fun progress => by cases progress
    · exact isOpen
    · exact fun progress => by cases progress
  · exact isOpen

theorem pollSelf_wouldBlock {c : TcpConnection} {a : PollAnswers} (isOpen : c.closed = false)
    (blocked : (c.pollSelf a).2 = .error .wouldBlock) : (c.pollSelf a).1.closed = false := by
  have stages : (c.pollStages a).Open := by
    apply open_bind (open_pollFlush isOpen)
    intro c₁ m₁ flushed
    apply open_bind (open_pollSend flushed)
    intro c₂ m₂ sent
    apply open_bind (open_pollReceive sent)
    intro c₃ m₃ received
    exact open_pollConnect received
  unfold pollSelf at blocked ⊢
  rw [isOpen] at blocked ⊢
  cases result : c.pollStages a with
  | error returned =>
    rw [result] at blocked stages
    exact stages blocked
  | ok state =>
    obtain ⟨c', madeProgress⟩ := state
    rw [result] at blocked stages
    cases madeProgress with
    | true => cases blocked
    | false => exact stages rfl

end TcpConnection

namespace UdpConnection

theorem closed_write {c c' : UdpConnection} {send : List UInt8 → Except ErrorKind Nat} {result : Except ErrorKind Unit}
    (written : c.write send = .ok (c', result)) : c'.closed = c.closed := by
  obtain ⟨⟨_, _, _⟩, _, same⟩ := bind_ok written
  cases same
  rfl

theorem closed_read {c c' : UdpConnection} {answer : ReadAnswer} {result : Except ErrorKind Unit}
    (received : c.read answer = .ok (c', result)) : c'.closed = c.closed := by
  obtain ⟨packetized, _, same⟩ := bind_ok received
  cases packetized with
  | error e =>
    cases same
    rfl
  | ok packet =>
    cases same
    rfl

theorem open_pollResult {c c' : UdpConnection} {result : Except ErrorKind Unit} {before after : Bool}
    (isOpen : c.closed = false) (on : pollResult before (c, result) = .ok (c', after)) : c'.closed = false := by
  rcases result with (_ | _) | _ <;> cases on <;> exact isOpen

theorem pollSelf_wouldBlock {c c' : UdpConnection} {now : Nat} {a : UdpAnswers} (isOpen : c.closed = false)
    (polled : c.pollSelf now a = .ok (c', .error .wouldBlock)) : c'.closed = false := by
  rw [pollSelf, if_neg (by simp [isOpen])] at polled
  obtain ⟨sent, send, polled⟩ := bind_ok polled
  cases sent with
  | error c₁ => cases polled
  | ok state =>
    obtain ⟨c₁, madeProgress⟩ := state
    have open₁ : c₁.closed = false := by
      unfold pollSend at send
      split at send
      · cases send
        exact isOpen
      · obtain ⟨⟨c₂, result⟩, written, same⟩ := bind_ok send
        exact open_pollResult ((closed_write written).trans isOpen) (Except.ok.inj same)
    obtain ⟨received, receive, polled⟩ := bind_ok polled
    cases received with
    | error c₂ => cases polled
    | ok state =>
      obtain ⟨c₂, progress⟩ := state
      have open₂ : c₂.closed = false := by
        rw [pollReceive, if_neg (by simp [open₁])] at receive
        obtain ⟨⟨c₃, result⟩, read, same⟩ := bind_ok receive
        exact open_pollResult ((closed_read read).trans open₁) (Except.ok.inj same)
      cases progress with
      | true => cases polled
      | false =>
        cases polled
        exact open₂

end UdpConnection

theorem Connection.poll_wouldBlock {c : Connection} {now : Nat} {a : Answers} {c' : c.Same} (isOpen : c.isClosed = false)
    (polled : c.poll now a = .ok (c', .error .wouldBlock)) : c'.1.isClosed = false := by
  cases c with
  | tcp c =>
    obtain ⟨same, blocked⟩ := Prod.mk.inj (Except.ok.inj polled)
    rw [← same]
    exact TcpConnection.pollSelf_wouldBlock isOpen blocked
  | udp c =>
    obtain ⟨⟨c₁, result⟩, poll, same⟩ := bind_ok polled
    cases same
    exact UdpConnection.pollSelf_wouldBlock isOpen poll

theorem Connection.isClosed_borrow (buffer : StreamBuffer) (c : Connection) :
    (c.borrow buffer).isClosed = c.isClosed := by cases c <;> rfl

theorem open_of_polled {now : ConnectionId → Nat} {answers : ConnectionId → Answers} {flow : ConnectionId}
    {c c' : Connection} (polled : Polled now answers flow c c' False) (isOpen : c.isClosed = false) :
    c'.isClosed = false := by
  obtain ⟨buffer, c₁, result, poll, ends⟩ := polled
  rcases result with (_ | _) | _
  · obtain ⟨same, _⟩ := ends
    rw [same]
    exact Connection.poll_wouldBlock ((Connection.isClosed_borrow buffer c).trans isOpen) poll
  · exact absurd ends.2 not_false
  · obtain ⟨same, closed⟩ := ends
    rw [same]
    simpa using closed

/-! ### Connections that are created -/

theorem segmentOf_header {ipPacket : IpPacket} {s : Segment} (cut : segmentOf ipPacket = .ok s) :
    ipPacket.transportHeaderData = some (.tcp s.header) := by
  obtain ⟨header, read, cut⟩ := bind_ok cut
  obtain ⟨payload, _, cut⟩ := bind_ok cut
  cases data : ipPacket.transportHeaderData with
  | none =>
    rw [IpPacket.transportHeader, data] at read
    cases read
    cases cut
  | some transport =>
    rw [IpPacket.transportHeader, data] at read
    obtain ⟨raw, _, same⟩ := bind_ok read
    cases same
    cases transport with
    | tcp h =>
      cases payload with
      | none => cases cut
      | some bytes =>
        cases cut
        rfl
    | udp h => cases payload <;> cases cut

theorem createConnection_cases {env : Env} {id : ConnectionId} {buffer : StreamBuffer} {ipPacket : IpPacket}
    {made : { c : Connection // c.protocol = id.protocol }}
    (creation : createConnection env id buffer ipPacket = .ok (some made)) : env.opens id = true ∧
      ((∃ p, made.1 = .tcp (.fresh buffer p)) ∨
        ∃ u : UdpConnection, made.1 = .udp u ∧ u.closed = false ∧ u.idleSince = env.createdAt) := by
  obtain ⟨⟨ipHeader, transportHeader⟩, _, creation⟩ := bind_ok creation
  cases transportHeader with
  | none => cases creation
  | some transportHeader =>
    dsimp only at creation
    split at creation
    · split at creation
      · rename_i opens
        obtain ⟨c, created, same⟩ := bind_ok creation
        cases same
        exact ⟨opens, Or.inl ⟨c.networkToClient, congrArg Connection.tcp (TcpConnection.create_eq created)⟩⟩
      · cases creation
    · split at creation
      · rename_i opens
        obtain ⟨u, created, same⟩ := bind_ok creation
        cases same
        obtain ⟨packetizer, _, same⟩ := bind_ok created
        cases same
        exact ⟨opens, Or.inr ⟨_, rfl, rfl, rfl⟩⟩
      · cases creation
    · cases creation

theorem sendToNetwork_keeps {u u' : UdpConnection} {ipPacket : IpPacket}
    (sent : u.sendToNetwork ipPacket = .ok u') : u'.closed = u.closed ∧ u'.idleSince = u.idleSince := by
  obtain ⟨payload, _, sent⟩ := bind_ok sent
  cases payload with
  | none =>
    cases sent
    exact ⟨rfl, rfl⟩
  | some bytes =>
    obtain ⟨stored, _, sent⟩ := bind_ok sent
    cases stored <;> cases sent <;> exact ⟨rfl, rfl⟩

theorem closed_fresh (buffer : StreamBuffer) (p : Packetizer) (s : Segment) (random : UInt32) :
    ((TcpConnection.fresh buffer p).handlePacket s random).closed = !s.header.isSyn := by
  rw [TcpConnection.handlePacket, if_pos (show (TcpConnection.fresh buffer p).tcb.state = .init from rfl),
    TcpConnection.handleFirstPacket]
  cases s.header.isSyn <;> rfl

/-- An expected reset closes the connection. -/
theorem TcpConnection.closed_reset {c : TcpConnection} {s : Segment} {random : UInt32} (begun : c.tcb.state ≠ .init)
    (notSyn : s.header.isSyn = false) (expected : s.header.sequenceNumber = c.tcb.acknowledgementNumber)
    (rst : s.header.isRst = true) : (c.handlePacket s random).closed = true := by
  rw [handlePacket, if_neg begun, if_neg (by simp [notSyn]), if_neg (by simp [expected]), handleExpected, if_pos rst]
  rfl

/-- The connection that the packet creates closes on it: it is TCP and no SYN. -/
def FirstIsNoSyn (id : ConnectionId) (ipPacket : IpPacket) : Prop :=
  id.protocol = .tcp ∧ ∃ h, ipPacket.transportHeaderData = some (.tcp h) ∧ h.isSyn = false

theorem created_closed {buffer : StreamBuffer} {env : Env} {id : ConnectionId} {ipPacket : IpPacket}
    {c : Connection} (created : Created buffer env id ipPacket c) :
    c.isClosed = true ↔ FirstIsNoSyn id ipPacket := by
  obtain ⟨⟨made, kind⟩, same, creation, sent⟩ := created
  rcases (createConnection_cases creation).2 with ⟨p, rfl⟩ | ⟨u, rfl, isOpen, _⟩
  · obtain ⟨s, cut, ended⟩ := bind_ok sent
    cases ended
    show (TcpConnection.handlePacket _ s _).closed = true ↔ _
    have tcp : id.protocol = .tcp := kind.symm
    rw [closed_fresh, FirstIsNoSyn, and_iff_right tcp, segmentOf_header cut]
    simp
  · obtain ⟨u', taken, ended⟩ := bind_ok sent
    cases ended
    show u'.closed = true ↔ _
    rw [(sendToNetwork_keeps taken).1, isOpen]
    refine iff_of_false nofun ?_
    rintro ⟨tcp, _⟩
    cases kind.trans tcp

/-! ### No closed connection in the router -/

def AllOpen (r : Router) : Prop := ∀ id c, r.connections.lookup id = some c → c.isClosed = false

/-- The connection that the packet is handed to, as it is afterwards. -/
def Handled (r : Router) (env : Env) (id : ConnectionId) (ipPacket : IpPacket) (c' : Connection) : Prop :=
  ForFlow ipPacket id ∧ (r.purge env.now).isRecentlyClosed id = false ∧
    ((∃ c, r.connections.lookup id = some c ∧ Sent r.buffer c ipPacket env c') ∨
      r.connections.lookup id = none ∧ Created r.buffer env id ipPacket c')

def Closes (r : Router) (id : ConnectionId) : Op → Prop
  | .packet ipPacket env => ∃ c, Handled r env id ipPacket c ∧ c.isClosed = true
  | .poll now closedAt answers => id ∈ r.connections ∧ id ∉ (r.step (.poll now closedAt answers)).connections
  | _ => False

/-- After the operation no connection is closed, the flows that closed are remembered, and the packet was
handed to an open connection. -/
structure DropsClosed (r : Router) (op : Op) : Prop where
  allOpen : AllOpen (r.step op)
  recorded : ∀ id, Closes r id op → (r.step op).isRecentlyClosed id = true
  handed : ∀ ipPacket env id c, op = .packet ipPacket env → ForFlow ipPacket id →
    r.connections.lookup id = some c → c.isClosed = false

def OpensClosed (r : Router) (op : Op) : Prop := ∃ ipPacket env id, op = .packet ipPacket env ∧
  ForFlow ipPacket id ∧ (r.purge env.now).isRecentlyClosed id = false ∧ r.connections.lookup id = none ∧
  env.opens id = true ∧ FirstIsNoSyn id ipPacket

theorem allOpen_step {r : Router} {op : Op} (allOpen : AllOpen r) (completes : r.Completes op)
    (safe : ¬ OpensClosed r op) : AllOpen (r.step op) := by
  intro id c found
  cases act_fate (act_of_completes completes) id with
  | vacant before after remembers => rw [after] at found; cases found
  | kept c₀ c' before after keeps remembers =>
    rw [after] at found
    cases found
    have isOpen := allOpen id c₀ before
    cases keeps with
    | same op notPolled fresh => exact isOpen
    | sent ipPacket env c' flow taken alive => exact alive
    | polled now closedAt answers c' polled => exact open_of_polled polled isOpen
  | created ipPacket env c' packet flow admitted before after made free remembers =>
    rw [after] at found
    cases found
    apply Bool.eq_false_iff.mpr
    intro closed
    obtain ⟨made', same, creation, sent⟩ := made
    have opens := (createConnection_cases creation).1
    exact safe ⟨ipPacket, env, id, packet, flow, admitted, before, opens,
      (created_closed ⟨made', same, creation, sent⟩).mp closed⟩
  | left c₀ before after ends recorded => rw [after] at found; cases found
  | cleared clear after forgotten => rw [after] at found; cases found

/-- A packet that opens a flow and is no SYN leaves a closed connection in the router. -/
theorem closed_step {r : Router} {op : Op} (completes : r.Completes op) (opens : OpensClosed r op) :
    ¬ AllOpen (r.step op) := by
  obtain ⟨ipPacket, env, id, rfl, flow, free, vacant, socket, noSyn⟩ := opens
  intro allOpen
  have admitted : createConnection env id r.buffer ipPacket ≠ .ok none := by
    obtain ⟨kind, h, data, _⟩ := noSyn
    exact creation_not_refused data (Or.inl kind) socket
  obtain ⟨c', created, after⟩ := (step_routed completes flow).vacant free vacant admitted
  have closed := (created_closed created).mpr noSyn
  rw [allOpen id c' after] at closed
  cases closed

/-- The flows that close during an operation are remembered, unless one closes on its first packet. -/
theorem closes_recorded {r : Router} {op : Op} (completes : r.Completes op) (safe : ¬ OpensClosed r op)
    (id : ConnectionId) (closes : Closes r id op) : (r.step op).isRecentlyClosed id = true := by
  rw [isRecentlyClosed_iff]
  cases op with
  | packet ipPacket env =>
    obtain ⟨c, ⟨flow, free, handled⟩, closed⟩ := closes
    rcases handled with ⟨c₀, found, taken⟩ | ⟨vacant, created⟩
    · obtain ⟨c', taken', remembered⟩ := (step_routed completes flow).occupied free found
      rw [taken.unique taken'] at closed
      exact ⟨_, remembered closed⟩
    · obtain ⟨made, same, creation, sent'⟩ := created
      have opens := (createConnection_cases creation).1
      exact absurd ⟨ipPacket, env, id, rfl, flow, free, vacant, opens,
        (created_closed ⟨made, same, creation, sent'⟩).mp closed⟩ safe
  | poll now closedAt answers =>
    obtain ⟨known, gone⟩ := closes
    obtain ⟨c, found⟩ := (mem_connections_iff r id).mp known
    cases act_fate (act_of_completes completes) id with
    | vacant before after remembers => rw [found] at before; cases before
    | kept c₀ c' before after keeps remembers => exact absurd ((mem_connections_iff _ id).mpr ⟨c', after⟩) gone
    | created ipPacket env c' packet flow admitted before after made free remembers => cases packet
    | left c₀ before after ends recorded => exact ⟨_, (recorded _).mpr rfl⟩
    | cleared clear after forgotten => cases clear
  | clean now closedAt => exact closes.elim
  | remove id' closedAt => exact closes.elim
  | clear => exact closes.elim

theorem dropsClosed_iff {r : Router} {op : Op} (allOpen : AllOpen r) (completes : r.Completes op) :
    DropsClosed r op ↔ ¬ OpensClosed r op := by
  constructor
  · intro drops opens
    exact closed_step completes opens drops.allOpen
  · intro safe
    exact ⟨allOpen_step allOpen completes safe, closes_recorded completes safe,
      fun _ _ id c _ _ found => allOpen id c found⟩

/-- In a run from an empty router, every operation drops the connections that close exactly when none is a
packet that opens a flow of TCP without a SYN. -/
theorem dropsClosed_along {buffer : StreamBuffer} {ops : List Op} (completes : Along step Completes (.new buffer) ops) :
    Along step DropsClosed (.new buffer) ops ↔ Along step (fun r op => ¬ OpensClosed r op) (.new buffer) ops := by
  have both : Along step (fun r op => r.Completes op ∧ DropsClosed r op) (.new buffer) ops ↔
      Along step (fun r op => r.Completes op ∧ ¬ OpensClosed r op) (.new buffer) ops := by
    apply along_congr (P := AllOpen)
    · intro r allOpen op _
      exact and_congr_right fun completes => dropsClosed_iff allOpen completes
    · intro r allOpen op _ ok
      exact allOpen_step allOpen ok.1 ok.2
    · intro id c found
      cases found
  rw [along_and, along_and, and_iff_right completes, and_iff_right completes] at both
  exact both

namespace Sample

/-- A segment with an ACK alone, of a flow that the relay does not know. -/
def strayPacket : IpPacket :=
  packetOf [0x45, 0, 0, 40, 0, 1, 0, 0, 64, 6, 0, 0, 10, 0, 0, 2, 93, 184, 216, 34,
    0xC3, 0x50, 0, 80, 0, 0, 0, 100, 0, 0, 0, 0, 0x50, 0x10, 0x10, 0, 0, 0, 0, 0]

def strayHeader : TcpHeaderData where
  sourcePort := 50000
  destinationPort := 80
  sequenceNumber := 100
  acknowledgementNumber := 0
  headerLength := 20
  flags := flagAck
  window := 4096

theorem stray_transport : strayPacket.transportHeaderData = some (.tcp strayHeader) := by decide

theorem stray_forFlow : ForFlow strayPacket (.fromHeaders strayPacket.ipHeaderData (.tcp strayHeader)) :=
  ⟨by decide, by decide, .tcp strayHeader, stray_transport, rfl⟩

theorem stray_completes (r : Router) (env : Env) : r.Completes (.packet strayPacket env) := by
  have creatable : Creatable strayPacket (.tcp strayHeader) := show 20 ≤ strayPacket.transportIndex ∧ 20 ≤ 20 by decide
  exact sendToNetwork_inside (by decide) stray_transport (by decide) (by decide) creatable r env

def webFlow : ConnectionId := .fromHeaders strayPacket.ipHeaderData (.tcp strayHeader)

/-- The SYN that opens the flow, and a reset with the number that is expected behind it. -/
def webSyn : IpPacket :=
  packetOf [0x45, 0, 0, 40, 0, 1, 0, 0, 64, 6, 0, 0, 10, 0, 0, 2, 93, 184, 216, 34,
    0xC3, 0x50, 0, 80, 0, 0, 0, 100, 0, 0, 0, 0, 0x50, 0x02, 0x10, 0, 0, 0, 0, 0]

def webReset : IpPacket :=
  packetOf [0x45, 0, 0, 40, 0, 2, 0, 0, 64, 6, 0, 0, 10, 0, 0, 2, 93, 184, 216, 34,
    0xC3, 0x50, 0, 80, 0, 0, 0, 101, 0, 0, 0, 0, 0x50, 0x04, 0x10, 0, 0, 0, 0, 0]

def webSynHeader : TcpHeaderData := { strayHeader with flags := flagSyn }

def webResetHeader : TcpHeaderData := { strayHeader with sequenceNumber := 101, flags := flagRst }

theorem webSyn_transport : webSyn.transportHeaderData = some (.tcp webSynHeader) := by decide

theorem webReset_transport : webReset.transportHeaderData = some (.tcp webResetHeader) := by decide

theorem webSyn_forFlow : ForFlow webSyn webFlow := ⟨by decide, by decide, .tcp webSynHeader, webSyn_transport, by decide⟩

theorem webReset_forFlow : ForFlow webReset webFlow := ⟨by decide, by decide, .tcp webResetHeader, webReset_transport, by decide⟩

theorem webSyn_completes (r : Router) (env : Env) : r.Completes (.packet webSyn env) := by
  have creatable : Creatable webSyn (.tcp webSynHeader) := show 20 ≤ webSyn.transportIndex ∧ 20 ≤ 20 by decide
  exact sendToNetwork_inside (by decide) webSyn_transport (by decide) (by decide) creatable r env

theorem webReset_completes (r : Router) (env : Env) : r.Completes (.packet webReset env) := by
  have creatable : Creatable webReset (.tcp webResetHeader) := show 20 ≤ webReset.transportIndex ∧ 20 ≤ 20 by decide
  exact sendToNetwork_inside (by decide) webReset_transport (by decide) (by decide) creatable r env

/-- The flow is open after its SYN, and expects the number behind it. -/
theorem webSyn_opens (buffer : StreamBuffer) : ∃ c,
    ((Router.new buffer).step (.packet webSyn (envAt 3))).connections.lookup webFlow = some (.tcp c) ∧
      ((Router.new buffer).step (.packet webSyn (envAt 3))).recentlyClosed = [] ∧
      c.tcb.state = .synSent ∧ c.tcb.acknowledgementNumber = 101 := by
  have tcp : webFlow.protocol = .tcp := by decide
  have admitted : createConnection (envAt 3) webFlow buffer webSyn ≠ .ok none :=
    creation_not_refused webSyn_transport (Or.inl tcp) rfl
  cases step_routed (webSyn_completes (.new buffer) (envAt 3)) webSyn_forFlow with
  | dropped quarantined same => cases quarantined
  | sent c c' free found taken alive after remembered => cases found
  | sentLast c c' found taken closed after recorded => cases found
  | refused free vacant refusal same => exact absurd refusal admitted
  | created c' free vacant created after remembered =>
    obtain ⟨⟨made, kind⟩, same, creation, taken⟩ := created
    rcases (createConnection_cases creation).2 with ⟨p, rfl⟩ | ⟨u, rfl, _⟩
    · obtain ⟨s, cut, ended⟩ := bind_ok taken
      cases ended
      have header := TransportHeaderData.tcp.inj (Option.some.inj ((segmentOf_header cut).symm.trans webSyn_transport))
      refine ⟨_, after, remembered, ?_⟩
      rw [TcpConnection.handlePacket, if_pos (by rfl), TcpConnection.handleFirstPacket, header]
      exact ⟨rfl, rfl⟩
    · cases kind.trans tcp

/-- The reset closes the flow. -/
theorem webReset_closes (buffer : StreamBuffer) : (webFlow, 4) ∈
    (((Router.new buffer).step (.packet webSyn (envAt 3))).step (.packet webReset (envAt 4))).recentlyClosed := by
  obtain ⟨c, found, nothing, state, number⟩ := webSyn_opens buffer
  generalize (Router.new buffer).step (.packet webSyn (envAt 3)) = r at found nothing
  have free : (r.purge 4).isRecentlyClosed webFlow = false := by
    show (r.recentlyClosed.filter _).any _ = false
    rw [nothing]
    rfl
  obtain ⟨c', ⟨same, taken⟩, recorded⟩ := (step_routed (webReset_completes r (envAt 4)) webReset_forFlow).occupied free found
  obtain ⟨s, cut, ended⟩ := bind_ok taken
  cases ended
  have header := TransportHeaderData.tcp.inj (Option.some.inj ((segmentOf_header cut).symm.trans webReset_transport))
  refine recorded (TcpConnection.closed_reset ?_ ?_ ?_ ?_)
  · show c.tcb.state ≠ .init
    rw [state]
    decide
  · rw [header]
    rfl
  · rw [header]
    exact number.symm
  · rw [header]
    rfl

end Sample

/-- A flow that opens and is reset by the device leaves the router, and is remembered. -/
theorem dropsClosed_along_reset : Along step DropsClosed (.new (.new 4096))
    [.packet Sample.webSyn (Sample.envAt 3), .packet Sample.webReset (Sample.envAt 4)] ∧
      (Sample.webFlow, 4) ∈ (run step (.new (.new 4096))
        [.packet Sample.webSyn (Sample.envAt 3), .packet Sample.webReset (Sample.envAt 4)]).recentlyClosed := by
  have completes : Along step Completes (.new (.new 4096))
      [.packet Sample.webSyn (Sample.envAt 3), .packet Sample.webReset (Sample.envAt 4)] :=
    ⟨Sample.webSyn_completes _ _, Sample.webReset_completes _ _, trivial⟩
  refine ⟨(dropsClosed_along completes).mpr ⟨?_, ?_, trivial⟩, ?_⟩
  · rintro ⟨ipPacket, env, id, same, _, _, _, _, _, h, data, noSyn⟩
    cases same
    cases Sample.webSyn_transport.symm.trans data
    cases noSyn
  · rintro ⟨ipPacket, env, id, same, flow, free, vacant, _⟩
    cases same
    cases flow.unique Sample.webReset_forFlow
    obtain ⟨c, found, _⟩ := Sample.webSyn_opens (.new 4096)
    rw [found] at vacant
    cases vacant
  · rw [run_cons, run_cons, run_nil]
    exact Sample.webReset_closes _

/-- The connection that a stray segment creates closes and stays in the router. -/
theorem stray_segment_stays : ¬ ∀ ops, Along step Completes (.new (.new 4096)) ops →
    Along step DropsClosed (.new (.new 4096)) ops := by
  intro claim
  have drops := claim [.packet Sample.strayPacket (Sample.envAt 3)] ⟨Sample.stray_completes _ _, trivial⟩
  refine closed_step (Sample.stray_completes _ _) ?_ drops.1.allOpen
  exact ⟨_, _, _, rfl, Sample.stray_forFlow, rfl, rfl, rfl, by decide, _, Sample.stray_transport, by decide⟩

end Gnirehtet.Relay
