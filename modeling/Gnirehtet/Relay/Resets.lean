import Gnirehtet.Relay.ClosedFlows
import Gnirehtet.Relay.Reference
import Gnirehtet.Tcp.ControlPacket

/-!
# Resets from the device

A reset is to be taken without an answer. Whether a segment is a reset is looked at last, after the
branches that answer with a reset of their own: a first segment that is no SYN, and a SYN with another
number than the first. Between two operations the client takes bytes out of the shared buffer.
-/

namespace Gnirehtet.Relay
open Lib Router

namespace TcpConnection

/-- Behind the effects `before`, a reset was appended to the shared buffer. -/
def AppendsReset (before : List Effect) (c : TcpConnection) : Prop :=
  ∃ effects packet room, c.history = before ++ effects ∧ .appended packet room ∈ effects ∧ packet.tcp.isRst = true

/-- The segment is answered with a reset, when there is room for one. -/
def Rejects (c : TcpConnection) (header : TcpHeaderData) : Prop :=
  if c.tcb.state = .init then header.isSyn = false
  else c.tcb.state ≠ .synSent ∧ header.isSyn = true ∧ header.sequenceNumber ≠ c.tcb.synSequenceNumber

theorem not_appendsReset {before : List Effect} {c : TcpConnection} (history : c.history = before) :
    ¬ AppendsReset before c := by
  rintro ⟨effects, packet, room, same, member, -⟩
  rw [history, List.self_eq_append_right] at same
  rw [same] at member
  cases member

/-- A control packet is a reset when its flags say so. -/
theorem reply_appendsReset_iff {c : TcpConnection} (carries : c.networkToClient.CarriesTcp) (flags : UInt16) :
    AppendsReset c.history (c.sendEmptyPacketToClient flags) ↔ (flags &&& 0x1FF &&& flagRst != 0) = true ∧ c.HasRoom := by
  obtain ⟨buffer, packet, e, tcp, _, rfl, same⟩ := sendEmptyPacketToClient_builds carries flags
  have isRst : packet.tcp.isRst = (flags &&& 0x1FF &&& flagRst != 0) := by
    rw [tcp]
    rfl
  rw [same]
  by_cases room : c.networkToClient.payloadIndex ≤ c.buffer.remaining
  · rw [if_pos room, and_iff_left (show c.HasRoom from room), ← isRst]
    constructor
    · rintro ⟨effects, packet', n, history, member, reset⟩
      rw [← List.append_cancel_left history] at member
      cases List.mem_singleton.mp member
      exact reset
    · exact fun reset => ⟨_, packet, _, rfl, List.mem_singleton_self _, reset⟩
  · rw [if_neg room]
    refine iff_of_false ?_ fun h => room h.2
    rintro ⟨effects, packet', n, history, member, reset⟩
    rw [← List.append_cancel_left history] at member
    cases List.mem_singleton.mp member

theorem close_appendsReset_iff {c : TcpConnection} (carries : c.networkToClient.CarriesTcp) :
    AppendsReset c.history (c.replyEmptyPacketToClient flagRst).close ↔ c.HasRoom :=
  (reply_appendsReset_iff carries flagRst).trans (and_iff_right (by decide))

theorem handleFirstPacket_appendsReset_iff {c : TcpConnection} (carries : c.networkToClient.CarriesTcp) (s : Segment)
    (random : UInt32) : AppendsReset c.history (c.handleFirstPacket s random) ↔ s.header.isSyn = false ∧ c.HasRoom := by
  rw [handleFirstPacket]
  by_cases syn : s.header.isSyn = true
  · rw [if_pos syn]
    refine iff_of_false (not_appendsReset rfl) fun h => ?_
    rw [syn] at h
    cases h.1
  · rw [if_neg syn, and_iff_right (Bool.eq_false_iff.mpr syn)]
    exact close_appendsReset_iff (c := { c with tcb.sequenceNumber := s.header.acknowledgementNumber }) carries

theorem handleDuplicateSyn_appendsReset_iff {c : TcpConnection} (carries : c.networkToClient.CarriesTcp) (s : Segment) :
    AppendsReset c.history (c.handleDuplicateSyn s) ↔
      (c.tcb.state ≠ .synSent ∧ s.header.sequenceNumber ≠ c.tcb.synSequenceNumber) ∧ c.HasRoom := by
  rw [handleDuplicateSyn]
  by_cases synSent : c.tcb.state = .synSent
  · rw [if_pos synSent]
    exact iff_of_false (not_appendsReset rfl) fun h => h.1.1 synSent
  · rw [if_neg synSent]
    by_cases other : s.header.sequenceNumber ≠ c.tcb.synSequenceNumber
    · rw [if_pos other, and_iff_right ⟨synSent, other⟩]
      exact close_appendsReset_iff carries
    · rw [if_neg other]
      exact iff_of_false (not_appendsReset rfl) fun h => other h.1.2

/-- What is answered with a reset, of all that a device can send as one. -/
theorem handlePacket_appendsReset_iff {c : TcpConnection} (carries : c.networkToClient.CarriesTcp) {s : Segment}
    (rst : s.header.isRst = true) (random : UInt32) :
    AppendsReset c.history (c.handlePacket s random) ↔ c.Rejects s.header ∧ c.HasRoom := by
  unfold handlePacket
  by_cases init : c.tcb.state = .init
  · rw [if_pos init, Rejects, if_pos init]
    exact handleFirstPacket_appendsReset_iff carries s random
  · rw [if_neg init, Rejects, if_neg init]
    by_cases syn : s.header.isSyn = true
    · rw [if_pos syn, and_iff_right syn]
      exact handleDuplicateSyn_appendsReset_iff carries s
    · rw [if_neg syn]
      refine iff_of_false ?_ fun h => syn h.1.2.1
      have noReset : (flagAck &&& 0x1FF &&& flagRst != 0) = false := by decide
      split
      · split
        · rw [reply_appendsReset_iff carries, noReset]
          rintro ⟨_, _⟩
          contradiction
        · exact not_appendsReset rfl
      · rw [handleExpected, if_pos rst]
        exact not_appendsReset rfl

end TcpConnection

/-! ### The connections of the router -/

theorem sent_tcp {buffer : StreamBuffer} {c : TcpConnection} {ipPacket : IpPacket} {env : Env} {c' : Connection}
    (taken : Sent buffer (.tcp c) ipPacket env c') : ∃ s, segmentOf ipPacket = .ok s ∧
      c' = .tcp (TcpConnection.handlePacket { c with buffer } s env.random) := by
  obtain ⟨same, taken⟩ := taken
  obtain ⟨s, cut, ended⟩ := bind_ok taken
  cases ended
  exact ⟨s, cut, rfl⟩

theorem createConnection_tcp {env : Env} {id : ConnectionId} {buffer : StreamBuffer} {ipPacket : IpPacket}
    {made : { c : Connection // c.protocol = id.protocol }} (tcp : id.protocol = .tcp)
    (creation : createConnection env id buffer ipPacket = .ok (some made)) : ∃ p, made.1 = .tcp (.fresh buffer p) ∧
      p.CarriesTcp ∧ p.payloadIndex = ipPacket.transportIndex + 20 := by
  obtain ⟨⟨ipHeader, transportHeader⟩, headers, creation⟩ := bind_ok creation
  cases transportHeader with
  | none => cases creation
  | some transportHeader =>
    dsimp only at creation
    split at creation
    · split at creation
      · obtain ⟨c, created, same⟩ := bind_ok creation
        cases same
        refine ⟨c.networkToClient, congrArg Connection.tcp (TcpConnection.create_eq created),
          TcpConnection.create_carriesTcp created, ?_⟩
        obtain ⟨_, _, _, _, ip, _⟩ := headers_ok headers
        rw [TcpConnection.create_payloadIndex created, ip, IpHeader.headerLength, IpHeader.data_bind]
        rfl
      · cases creation
    · rename_i udp
      rw [tcp] at udp
      cases udp
    · rename_i other _
      exact absurd tcp other

theorem created_tcp {buffer : StreamBuffer} {env : Env} {id : ConnectionId} {ipPacket : IpPacket} {c' : Connection}
    (tcp : id.protocol = .tcp) (created : Created buffer env id ipPacket c') : ∃ p s, segmentOf ipPacket = .ok s ∧
      p.CarriesTcp ∧ p.payloadIndex = ipPacket.transportIndex + 20 ∧
      c' = .tcp ((TcpConnection.fresh buffer p).handlePacket s env.random) := by
  obtain ⟨⟨made, kind⟩, same, creation, sent⟩ := created
  obtain ⟨p, rfl, carries, index⟩ := createConnection_tcp tcp creation
  obtain ⟨s, cut, ended⟩ := bind_ok sent
  cases ended
  exact ⟨p, s, cut, carries, index, rfl⟩

/-- A connection of TCP builds packets with a TCP header. -/
def Connection.Carries : Connection → Prop
  | tcp c => c.networkToClient.CarriesTcp
  | udp _ => True

def AllCarry (r : Router) : Prop := ∀ id c, r.connections.lookup id = some c → c.Carries

theorem sent_carries {buffer : StreamBuffer} {c : Connection} {ipPacket : IpPacket} {env : Env} {c' : Connection}
    (carries : c.Carries) (taken : Sent buffer c ipPacket env c') : c'.Carries := by
  cases c with
  | tcp c =>
    obtain ⟨s, _, rfl⟩ := sent_tcp taken
    have borrowed : ({ c with buffer } : TcpConnection).networkToClient.CarriesTcp := carries
    exact TcpConnection.step_carriesTcp _ (.packet s env.random) borrowed
  | udp c =>
    obtain ⟨same, taken⟩ := taken
    obtain ⟨u, _, ended⟩ := bind_ok taken
    cases ended
    trivial

theorem created_carries {buffer : StreamBuffer} {env : Env} {id : ConnectionId} {ipPacket : IpPacket} {c' : Connection}
    (created : Created buffer env id ipPacket c') : c'.Carries := by
  cases c' with
  | tcp c =>
    have tcp : id.protocol = .tcp := by
      obtain ⟨made, same, _⟩ := created
      exact made.2.symm.trans same.symm
    obtain ⟨p, s, _, carries, _, same⟩ := created_tcp tcp created
    cases same
    exact TcpConnection.step_carriesTcp (.fresh buffer p) (.packet s env.random) carries
  | udp u => trivial

theorem polled_carries {now : ConnectionId → Nat} {answers : ConnectionId → Answers} {id : ConnectionId}
    {c c' : Connection} {collected : Prop} (carries : c.Carries) (polled : Polled now answers id c c' collected) :
    c'.Carries := by
  obtain ⟨buffer, c₁, result, poll, ends⟩ := polled
  have kept : c₁.1.Carries := by
    cases c with
    | tcp c =>
      obtain ⟨same, _⟩ := Prod.mk.inj (Except.ok.inj poll)
      rw [← same]
      have borrowed : ({ c with buffer } : TcpConnection).networkToClient.CarriesTcp := carries
      exact TcpConnection.step_carriesTcp _ (.poll (answers id).tcp) borrowed
    | udp u =>
      obtain ⟨⟨u', _⟩, _, same⟩ := bind_ok poll
      cases same
      trivial
  rcases result with (_ | _) | _
  · rw [ends.1]
    exact kept
  · rw [ends.1]
    cases closed : c₁.1 with
    | tcp c =>
      rw [closed] at kept
      exact kept
    | udp u => trivial
  · rw [ends.1]
    exact kept

theorem allCarry_step {r : Router} {op : Op} (carry : AllCarry r) (completes : r.Completes op) : AllCarry (r.step op) := by
  intro id c found
  cases act_fate (act_of_completes completes) id with
  | vacant before after remembers => rw [after] at found; cases found
  | kept c₀ c' before after keeps remembers =>
    rw [after] at found
    cases found
    have carries := carry id c₀ before
    cases keeps with
    | same op notPolled fresh => exact carries
    | sent ipPacket env c' flow taken alive => exact sent_carries carries taken
    | polled now closedAt answers c' polled => exact polled_carries carries polled
  | created ipPacket env c' packet flow admitted before after made free remembers =>
    rw [after] at found
    cases found
    exact created_carries made
  | left c₀ before after ends recorded => rw [after] at found; cases found
  | cleared clear after forgotten => rw [after] at found; cases found

/-! ### Runs -/

/-- An operation of the router, or a change of the shared buffer by the client. -/
inductive Router.Occurrence where
  | op (op : Op)
  | shared (buffer : StreamBuffer)

namespace Router

def next (r : Router) : Occurrence → Router
  | .op op => r.step op
  | .shared buffer => { r with buffer }

def Goes (r : Router) : Occurrence → Prop
  | .op op => r.Completes op
  | .shared _ => True

/-- What the connection of a flow has done. -/
def past : Option Connection → List Effect
  | some (.tcp c) => c.history
  | _ => []

/-- A reset of the device is answered with a reset. -/
def AnswersReset (r : Router) (o : Occurrence) : Prop :=
  ∃ ipPacket env id header c, o = .op (.packet ipPacket env) ∧ ipPacket.transportHeaderData = some (.tcp header) ∧
    header.isRst = true ∧ Handled r env id ipPacket (.tcp c) ∧ c.AppendsReset (past (r.connections.lookup id))

/-- A reset comes for a flow that was not closed recently: its connection rejects it, or there is none, the
reset is no SYN and a socket opens. The shared buffer has room for an answer. -/
def Provokes (r : Router) (o : Occurrence) : Prop :=
  ∃ ipPacket env id header, o = .op (.packet ipPacket env) ∧ ipPacket.transportHeaderData = some (.tcp header) ∧
    header.isRst = true ∧ ForFlow ipPacket id ∧ (r.purge env.now).isRecentlyClosed id = false ∧
    ((∃ c, r.connections.lookup id = some (.tcp c) ∧ c.Rejects header ∧
        c.networkToClient.payloadIndex ≤ r.buffer.remaining) ∨
      (r.connections.lookup id = none ∧ id.protocol = .tcp ∧ env.opens id = true ∧ header.isSyn = false ∧
        ipPacket.transportIndex + 20 ≤ r.buffer.remaining))

end Router

section Answer
variable {ipPacket : IpPacket} {env : Env} {id : ConnectionId} {header : TcpHeaderData}
  (data : ipPacket.transportHeaderData = some (.tcp header)) (rst : header.isRst = true)
include data rst

theorem sent_appendsReset_iff {buffer : StreamBuffer} {c : TcpConnection} {c' : Connection}
    (carries : c.networkToClient.CarriesTcp) (taken : Sent buffer (.tcp c) ipPacket env c') : ∃ after, c' = .tcp after ∧
      (after.AppendsReset c.history ↔ c.Rejects header ∧ c.networkToClient.payloadIndex ≤ buffer.remaining) := by
  obtain ⟨s, cut, rfl⟩ := sent_tcp taken
  have same := (segmentOf_header cut).symm.trans data
  cases same
  have borrowed : ({ c with buffer } : TcpConnection).networkToClient.CarriesTcp := carries
  exact ⟨_, rfl, TcpConnection.handlePacket_appendsReset_iff borrowed rst env.random⟩

theorem created_appendsReset_iff {buffer : StreamBuffer} {c' : Connection} (tcp : id.protocol = .tcp)
    (created : Created buffer env id ipPacket c') : ∃ after, c' = .tcp after ∧
      (after.AppendsReset [] ↔ header.isSyn = false ∧ ipPacket.transportIndex + 20 ≤ buffer.remaining) := by
  obtain ⟨p, s, cut, carries, index, rfl⟩ := created_tcp tcp created
  have same := (segmentOf_header cut).symm.trans data
  cases same
  have fresh : (TcpConnection.fresh buffer p).networkToClient.CarriesTcp := carries
  refine ⟨_, rfl, ?_⟩
  rw [← index]
  exact TcpConnection.handlePacket_appendsReset_iff fresh rst env.random

end Answer

theorem answersReset_iff {r : Router} {o : Occurrence} (carry : AllCarry r) (goes : r.Goes o) :
    r.AnswersReset o ↔ r.Provokes o := by
  constructor
  · rintro ⟨ipPacket, env, id, header, c, rfl, data, rst, ⟨flow, free, handled⟩, answered⟩
    refine ⟨ipPacket, env, id, header, rfl, data, rst, flow, free, ?_⟩
    rcases handled with ⟨c₀, found, taken⟩ | ⟨vacant, created⟩
    · cases c₀ with
      | tcp c₀ =>
        obtain ⟨after, same, iff⟩ := sent_appendsReset_iff data rst (carry id _ found) taken
        cases same
        rw [found] at answered
        exact .inl ⟨c₀, found, iff.mp answered⟩
      | udp u =>
        obtain ⟨same, taken⟩ := taken
        cases same
    · have tcp : id.protocol = .tcp := by
        obtain ⟨made, same, _⟩ := created
        exact made.2.symm.trans same.symm
      obtain ⟨after, same, iff⟩ := created_appendsReset_iff data rst tcp created
      cases same
      rw [vacant] at answered
      obtain ⟨made, _, creation, _⟩ := created
      exact .inr ⟨vacant, tcp, (createConnection_cases creation).1, iff.mp answered⟩
  · rintro ⟨ipPacket, env, id, header, rfl, data, rst, flow, free, provoked⟩
    rcases provoked with ⟨c, found, rejects⟩ | ⟨vacant, tcp, opens, noSyn⟩
    · obtain ⟨c', taken, _⟩ := (step_routed goes flow).occupied free found
      obtain ⟨after, rfl, iff⟩ := sent_appendsReset_iff data rst (carry id _ found) taken
      refine ⟨ipPacket, env, id, header, after, rfl, data, rst, ⟨flow, free, .inl ⟨_, found, taken⟩⟩, ?_⟩
      rw [found]
      exact iff.mpr rejects
    · have admitted : createConnection env id r.buffer ipPacket ≠ .ok none :=
        creation_not_refused data (.inl tcp) opens
      obtain ⟨c', created, _⟩ := (step_routed goes flow).vacant free vacant admitted
      obtain ⟨after, rfl, iff⟩ := created_appendsReset_iff data rst tcp created
      refine ⟨ipPacket, env, id, header, after, rfl, data, rst, ⟨flow, free, .inr ⟨vacant, created⟩⟩, ?_⟩
      rw [vacant]
      exact iff.mpr noSyn

theorem allCarry_next {r : Router} {o : Occurrence} (carry : AllCarry r) (goes : r.Goes o) : AllCarry (r.next o) := by
  cases o with
  | op op => exact allCarry_step carry goes
  | shared buffer => exact carry

/-- In a run from an empty router, no reset of the device is answered with a reset exactly when none comes
in a state that provokes one. -/
theorem noResetAnswered_along {buffer : StreamBuffer} {os : List Occurrence} (goes : Along next Goes (.new buffer) os) :
    Along next (fun r o => ¬ r.AnswersReset o) (.new buffer) os ↔ Along next (fun r o => ¬ r.Provokes o) (.new buffer) os := by
  have both : Along next (fun r o => r.Goes o ∧ ¬ r.AnswersReset o) (.new buffer) os ↔
      Along next (fun r o => r.Goes o ∧ ¬ r.Provokes o) (.new buffer) os := by
    apply along_congr (P := AllCarry)
    · intro r carry o _
      exact and_congr_right fun goes => not_congr (answersReset_iff carry goes)
    · intro r carry o _ ok
      exact allCarry_next carry ok.1
    · intro id c found
      cases found
  rw [along_and, along_and, and_iff_right goes, and_iff_right goes] at both
  exact both

namespace Sample

/-- A reset of a flow that the relay does not know. -/
def resetPacket : IpPacket :=
  packetOf [0x45, 0, 0, 40, 0, 1, 0, 0, 64, 6, 0, 0, 10, 0, 0, 2, 93, 184, 216, 34,
    0xC3, 0x50, 0, 80, 0, 0, 0, 100, 0, 0, 0, 0, 0x50, 0x04, 0x10, 0, 0, 0, 0, 0]

def resetHeader : TcpHeaderData := { strayHeader with flags := flagRst }

theorem reset_transport : resetPacket.transportHeaderData = some (.tcp resetHeader) := by decide

theorem reset_forFlow : ForFlow resetPacket (.fromHeaders resetPacket.ipHeaderData (.tcp resetHeader)) :=
  ⟨by decide, by decide, .tcp resetHeader, reset_transport, rfl⟩

theorem reset_completes (r : Router) (env : Env) : r.Completes (.packet resetPacket env) := by
  have creatable : Creatable resetPacket (.tcp resetHeader) := show 20 ≤ resetPacket.transportIndex ∧ 20 ≤ 20 by decide
  exact sendToNetwork_inside (by decide) reset_transport (by decide) (by decide) creatable r env

end Sample

/-- Where no socket opens, a stray reset is dropped. -/
theorem noResetAnswered_refused : Along next (fun r o => ¬ r.AnswersReset o) (.new (.new 4096))
    [.op (.packet Sample.resetPacket { Sample.envAt 3 with opens := fun _ => false }), .shared (.new 4096)] := by
  have goes : Along next Goes (.new (.new 4096))
      [.op (.packet Sample.resetPacket { Sample.envAt 3 with opens := fun _ => false }), .shared (.new 4096)] :=
    ⟨Sample.reset_completes _ _, trivial, trivial⟩
  refine (noResetAnswered_along goes).mpr ⟨?_, ?_, trivial⟩
  · rintro ⟨ipPacket, env, id, header, same, _, _, _, _, ⟨c, found, _⟩ | ⟨_, _, opens, _⟩⟩
    · cases found
    · cases same
      cases opens
  · rintro ⟨ipPacket, env, id, header, same, _⟩
    cases same

/-- A stray reset opens a connection, which answers it with a reset. -/
theorem stray_reset_answered : (Router.new (.new 4096)).Goes (.op (.packet Sample.resetPacket (Sample.envAt 3))) ∧
    (Router.new (.new 4096)).AnswersReset (.op (.packet Sample.resetPacket (Sample.envAt 3))) := by
  have goes : (Router.new (.new 4096)).Goes (.op (.packet Sample.resetPacket (Sample.envAt 3))) :=
    Sample.reset_completes _ _
  have carry : AllCarry (.new (.new 4096)) := by
    intro id c found
    cases found
  have room : Sample.resetPacket.transportIndex + 20 ≤ (Router.new (.new 4096)).buffer.remaining := by
    show Sample.resetPacket.transportIndex + 20 ≤ (StreamBuffer.new 4096).remaining
    rw [StreamBuffer.remaining_new]
    decide
  refine ⟨goes, (answersReset_iff carry goes).mpr ⟨_, _, _, _, rfl, Sample.reset_transport, by decide,
    Sample.reset_forFlow, rfl, .inr ⟨rfl, by decide, rfl, by decide, room⟩⟩⟩

end Gnirehtet.Relay
