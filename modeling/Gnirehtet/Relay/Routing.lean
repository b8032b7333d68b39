import Gnirehtet.Lib.Run
import Gnirehtet.Relay.Router

/-!
# What a router operation does to a flow

The operations of the router as one machine. `Fate` says everything that an operation can do to one
flow: leave it alone, change its connection, create one, or take it out; the invariants of the router
are derived from that.
-/

namespace Gnirehtet.Relay
open Lib

namespace Router

inductive Op where
  | packet (ipPacket : IpPacket) (env : Env)
  | poll (now closedAt : ConnectionId → Nat) (answers : ConnectionId → Answers)
  | clean (now closedAt : ConnectionId → Nat)
  | remove (id : ConnectionId) (closedAt : Nat)
  | clear

def act (r : Router) : Op → Checked Router
  | .packet ipPacket env => r.sendToNetwork env ipPacket
  | .poll now closedAt answers => r.pollConnections now closedAt answers
  | .clean now closedAt => .ok (r.cleanExpiredConnections now closedAt).1
  | .remove id closedAt => .ok (r.remove id closedAt)
  | .clear => .ok r.clear.1

/-- A panic ends the client, and no state comes after it. -/
def step (r : Router) (op : Op) : Router :=
  match r.act op with
  | .ok r' => r'
  | .error _ => r

def Completes (r : Router) (op : Op) : Prop := ∃ r', r.act op = .ok r'

theorem step_of_act {r r' : Router} {op : Op} (acted : r.act op = .ok r') : r.step op = r' := by
  rw [step, acted]

theorem act_of_completes {r : Router} {op : Op} (completes : r.Completes op) : r.act op = .ok (r.step op) := by
  obtain ⟨r', acted⟩ := completes
  rw [step_of_act acted]
  exact acted

/-! ### The two maps -/

section Maps
variable (r : Router) (id : ConnectionId)

@[simp] theorem lookup_put (c : Connection) (kind : c.protocol = id.protocol) :
    (r.put id c kind).connections.lookup id = some c := AList.lookup_insert _

theorem lookup_put_other {id' : ConnectionId} (c : Connection) (kind : c.protocol = id.protocol)
    (other : id' ≠ id) : (r.put id c kind).connections.lookup id' = r.connections.lookup id' :=
  AList.lookup_insert_ne other

@[simp] theorem lookup_quarantine (closedAt : Nat) : (r.quarantine id closedAt).connections.lookup id = none :=
  AList.lookup_erase ..

theorem lookup_quarantine_other {id' : ConnectionId} (closedAt : Nat) (other : id' ≠ id) :
    (r.quarantine id closedAt).connections.lookup id' = r.connections.lookup id' :=
  AList.lookup_erase_ne other

theorem mem_quarantine (closedAt t : Nat) :
    (id, t) ∈ (r.quarantine id closedAt).recentlyClosed ↔ t = closedAt := by
  simp [quarantine]

theorem mem_quarantine_other {id' : ConnectionId} (closedAt t : Nat) (other : id' ≠ id) :
    (id', t) ∈ (r.quarantine id closedAt).recentlyClosed ↔ (id', t) ∈ r.recentlyClosed := by
  simp [quarantine, other]

@[simp] theorem connections_purge (now : Nat) : (r.purge now).connections = r.connections := rfl

theorem mem_purge (now t : Nat) : (id, t) ∈ (r.purge now).recentlyClosed ↔
    (id, t) ∈ r.recentlyClosed ∧ now - t < recentlyClosedTtl := by
  simp [purge]

theorem isRecentlyClosed_iff : r.isRecentlyClosed id = true ↔ ∃ t, (id, t) ∈ r.recentlyClosed := by
  simp [isRecentlyClosed]

theorem remove_of_mem {closedAt : Nat} (known : id ∈ r.connections) :
    r.remove id closedAt = r.quarantine id closedAt := if_pos known

theorem mem_connections_iff : id ∈ r.connections ↔ ∃ c, r.connections.lookup id = some c := by
  rw [← Option.isSome_iff_exists]
  exact AList.lookup_isSome.symm

end Maps

/-! ### Flows that leave together -/

section Leave
variable (closedAt : ConnectionId → Nat)

theorem lookup_quarantines (ids : List ConnectionId) (r : Router) (id : ConnectionId) :
    (ids.foldl (fun r id => r.quarantine id (closedAt id)) r).connections.lookup id =
      if id ∈ ids then none else r.connections.lookup id := by
  induction ids generalizing r with
  | nil => rfl
  | cons first rest ih =>
    rw [List.foldl_cons, ih]
    by_cases later : id ∈ rest
    · rw [if_pos later, if_pos (List.mem_cons_of_mem _ later)]
    · rw [if_neg later]
      by_cases same : id = first
      · subst same
        rw [lookup_quarantine, if_pos List.mem_cons_self]
      · rw [lookup_quarantine_other _ _ _ same, if_neg (by simp [same, later])]

theorem mem_quarantines (ids : List ConnectionId) (r : Router) (id : ConnectionId) (t : Nat) :
    (id, t) ∈ (ids.foldl (fun r id => r.quarantine id (closedAt id)) r).recentlyClosed ↔
      if id ∈ ids then t = closedAt id else (id, t) ∈ r.recentlyClosed := by
  induction ids generalizing r with
  | nil => rfl
  | cons first rest ih =>
    rw [List.foldl_cons, ih]
    by_cases later : id ∈ rest
    · rw [if_pos later, if_pos (List.mem_cons_of_mem _ later)]
    · rw [if_neg later]
      by_cases same : id = first
      · subst same
        rw [mem_quarantine, if_pos List.mem_cons_self]
      · rw [mem_quarantine_other _ _ _ _ same, if_neg (by simp [same, later])]

theorem removes_eq {ids : List ConnectionId} {r : Router} (distinct : ids.Nodup)
    (known : ∀ id ∈ ids, id ∈ r.connections) :
    ids.foldl (fun r id => r.remove id (closedAt id)) r =
      ids.foldl (fun r id => r.quarantine id (closedAt id)) r := by
  induction ids generalizing r with
  | nil => rfl
  | cons first rest ih =>
    obtain ⟨fresh, distinct⟩ := List.nodup_cons.mp distinct
    rw [List.foldl_cons, List.foldl_cons, remove_of_mem r first (known first List.mem_cons_self)]
    apply ih distinct
    intro id member
    have other : id ≠ first := by
      rintro rfl
      exact fresh member
    rw [mem_connections_iff, lookup_quarantine_other _ _ _ other, ← mem_connections_iff]
    exact known id (List.mem_cons_of_mem _ member)

end Leave

/-! ### Polls -/

section Poll
variable (now closedAt : ConnectionId → Nat) (answers : ConnectionId → Answers)

/-- What polling makes of one connection, and whether its flow is collected. -/
def Polled (id : ConnectionId) (c c' : Connection) (collected : Prop) : Prop :=
  ∃ buffer polled result, (c.borrow buffer).poll (now id) (answers id) = .ok (polled, result) ∧
    match result with
    | .ok () => c' = polled.1 ∧ (collected ↔ polled.1.isClosed = true)
    | .error .wouldBlock => c' = polled.1 ∧ ¬ collected
    | .error .other => c' = polled.1.close ∧ collected

theorem pollOne_spec {state state' : Router × List ConnectionId} {id : ConnectionId} {c : Connection}
    (turned : pollOne now answers state id = .ok state') (found : state.1.connections.lookup id = some c)
    (fresh : id ∉ state.2) :
    ∃ c', Polled now answers id c c' (id ∈ state'.2) ∧ state'.1.connections.lookup id = some c' := by
  unfold pollOne at turned
  split at turned
  · rename_i vacant
    rw [found] at vacant
    cases vacant
  · rename_i c₀ known
    rw [found] at known
    cases known
    obtain ⟨⟨⟨c₁, same⟩, result⟩, polled, turned⟩ := bind_ok turned
    have kind : c₁.protocol = id.protocol := by
      rw [same, Connection.protocol_borrow, state.1.typed id c found]
    rcases result with (_ | _) | _ <;> cases turned
    · exact ⟨c₁, ⟨_, _, _, polled, rfl, fresh⟩, lookup_put _ _ _ kind⟩
    · exact ⟨c₁.close, ⟨_, _, _, polled, rfl, by simp⟩, lookup_put _ _ _ (c₁.protocol_close.trans kind)⟩
    · refine ⟨c₁, ⟨_, _, _, polled, rfl, ?_⟩, lookup_put _ _ _ kind⟩
      by_cases closed : c₁.isClosed = true <;> simp [closed, fresh]

theorem pollOne_other {state state' : Router × List ConnectionId} {id id' : ConnectionId}
    (turned : pollOne now answers state id = .ok state') (other : id' ≠ id) :
    state'.1.connections.lookup id' = state.1.connections.lookup id' ∧ (id' ∈ state'.2 ↔ id' ∈ state.2) := by
  unfold pollOne at turned
  split at turned
  · cases turned
    exact ⟨rfl, Iff.rfl⟩
  · rename_i c found
    obtain ⟨⟨⟨c₁, same⟩, result⟩, _, turned⟩ := bind_ok turned
    have kind : c₁.protocol = id.protocol := by
      rw [same, Connection.protocol_borrow, state.1.typed id c found]
    rcases result with (_ | _) | _ <;> cases turned
    · exact ⟨lookup_put_other _ _ _ kind other, Iff.rfl⟩
    · exact ⟨lookup_put_other _ _ _ (c₁.protocol_close.trans kind) other, by simp [other]⟩
    · refine ⟨lookup_put_other _ _ _ kind other, ?_⟩
      dsimp only
      split <;> simp [other]

theorem recentlyClosed_pollOne {state state' : Router × List ConnectionId} {id : ConnectionId}
    (turned : pollOne now answers state id = .ok state') : state'.1.recentlyClosed = state.1.recentlyClosed := by
  unfold pollOne at turned
  split at turned
  · cases turned
    rfl
  · obtain ⟨⟨⟨c₁, same⟩, result⟩, _, turned⟩ := bind_ok turned
    rcases result with (_ | _) | _ <;> cases turned <;> rfl

theorem pollAll_spec {ids : List ConnectionId} {state state' : Router × List ConnectionId} (distinct : ids.Nodup)
    (polled : ids.foldlM (pollOne now answers) state = .ok state') (fresh : ∀ id ∈ ids, id ∉ state.2) :
    state'.1.recentlyClosed = state.1.recentlyClosed ∧ ∀ id,
      (id ∉ ids → state'.1.connections.lookup id = state.1.connections.lookup id ∧ (id ∈ state'.2 ↔ id ∈ state.2)) ∧
      (∀ c, id ∈ ids → state.1.connections.lookup id = some c →
        ∃ c', Polled now answers id c c' (id ∈ state'.2) ∧ state'.1.connections.lookup id = some c') := by
  induction ids generalizing state with
  | nil =>
    cases polled
    exact ⟨rfl, fun id => ⟨fun _ => ⟨rfl, Iff.rfl⟩, fun _ member => absurd member List.not_mem_nil⟩⟩
  | cons first rest ih =>
    obtain ⟨alone, distinct⟩ := List.nodup_cons.mp distinct
    rw [List.foldlM_cons] at polled
    obtain ⟨mid, turned, polled⟩ := bind_ok polled
    have others (id : ConnectionId) (other : id ≠ first) := pollOne_other now answers turned other
    have fresh' : ∀ id ∈ rest, id ∉ mid.2 := by
      intro id member
      rw [(others id (by rintro rfl; exact alone member)).2]
      exact fresh id (List.mem_cons_of_mem _ member)
    obtain ⟨remembered, each⟩ := ih distinct polled fresh'
    refine ⟨remembered.trans (recentlyClosed_pollOne now answers turned), fun id => ⟨?_, ?_⟩⟩
    · intro outside
      have other : id ≠ first := fun same => outside (same ▸ List.mem_cons_self)
      have outside : id ∉ rest := fun member => outside (List.mem_cons_of_mem _ member)
      obtain ⟨lookup, collected⟩ := (each id).1 outside
      exact ⟨lookup.trans (others id other).1, collected.trans (others id other).2⟩
    · intro c member found
      rcases List.mem_cons.mp member with same | later
      · subst same
        obtain ⟨c', one, found'⟩ := pollOne_spec now answers turned found (fresh id List.mem_cons_self)
        obtain ⟨lookup, collected⟩ := (each id).1 alone
        rw [← collected] at one
        exact ⟨c', one, lookup.trans found'⟩
      · have other : id ≠ first := by
          rintro rfl
          exact alone later
        exact (each id).2 c later ((others id other).1.trans found)

/-- A poll of the router polls each flow once and takes out those that are collected. -/
theorem pollConnections_spec {r r' : Router} (polled : r.pollConnections now closedAt answers = .ok r')
    (id : ConnectionId) :
    (r.connections.lookup id = none → r'.connections.lookup id = none ∧
      ∀ t, (id, t) ∈ r'.recentlyClosed ↔ (id, t) ∈ r.recentlyClosed) ∧
    (∀ c, r.connections.lookup id = some c → ∃ c' collected, Polled now answers id c c' collected ∧
      (collected → r'.connections.lookup id = none ∧ ∀ t, (id, t) ∈ r'.recentlyClosed ↔ t = closedAt id) ∧
      (¬ collected → r'.connections.lookup id = some c' ∧
        ∀ t, (id, t) ∈ r'.recentlyClosed ↔ (id, t) ∈ r.recentlyClosed)) := by
  obtain ⟨⟨mid, closedIds⟩, turns, polled⟩ := bind_ok polled
  cases polled
  obtain ⟨remembered, each⟩ := pollAll_spec now answers r.connections.keys_nodup turns
    (fun _ _ => List.not_mem_nil)
  simp only [lookup_quarantines, mem_quarantines]
  refine ⟨fun vacant => ?_, fun c found => ?_⟩
  · have outside : id ∉ r.connections.keys := by
      intro member
      obtain ⟨c, found⟩ := (mem_connections_iff r id).mp member
      rw [vacant] at found
      cases found
    obtain ⟨lookup, collected⟩ := (each id).1 outside
    have alone : id ∉ closedIds := fun member => List.not_mem_nil (collected.mp member)
    rw [if_neg alone]
    refine ⟨lookup.trans vacant, fun t => ?_⟩
    rw [if_neg alone, remembered]
  · have member : id ∈ r.connections.keys := (mem_connections_iff r id).mpr ⟨c, found⟩
    obtain ⟨c', one, found'⟩ := (each id).2 c member found
    refine ⟨c', id ∈ closedIds, one, fun collected => ?_, fun alone => ?_⟩
    · exact ⟨if_pos collected, fun t => by rw [if_pos collected]⟩
    · rw [if_neg alone]
      exact ⟨found', fun t => by rw [if_neg alone, remembered]⟩

end Poll

/-! ### Expiry -/

/-- A cleanup takes out exactly the flows that are expired. -/
theorem cleanExpiredConnections_spec (r : Router) (now closedAt : ConnectionId → Nat) (id : ConnectionId) :
    let expired := (r.connections.lookup id).any (·.isExpired (now id)) = true
    let r' := (r.cleanExpiredConnections now closedAt).1
    (expired → r'.connections.lookup id = none ∧ ∀ t, (id, t) ∈ r'.recentlyClosed ↔ t = closedAt id) ∧
      (¬ expired → r'.connections.lookup id = r.connections.lookup id ∧
        ∀ t, (id, t) ∈ r'.recentlyClosed ↔ (id, t) ∈ r.recentlyClosed) := by
  have known : ∀ id ∈ r.connections.keys.filter fun id => (r.connections.lookup id).any (·.isExpired (now id)),
      id ∈ r.connections := fun id member => (List.mem_filter.mp member).1
  dsimp only
  rw [cleanExpiredConnections, removes_eq closedAt (r.connections.keys_nodup.filter _) known]
  simp only [lookup_quarantines, mem_quarantines, List.mem_filter]
  refine ⟨fun expired => ?_, fun fresh => ?_⟩
  · have member : id ∈ r.connections.keys := by
      rw [Option.any_eq_true] at expired
      obtain ⟨c, found, _⟩ := expired
      exact (mem_connections_iff r id).mpr ⟨c, found⟩
    have taken := And.intro member expired
    exact ⟨if_pos taken, fun t => by rw [if_pos taken]⟩
  · have kept : ¬ (id ∈ r.connections.keys ∧ (r.connections.lookup id).any (·.isExpired (now id)) = true) :=
      fun taken => fresh taken.2
    exact ⟨if_neg kept, fun t => by rw [if_neg kept]⟩

/-! ### Packets -/

structure ForFlow (ipPacket : IpPacket) (id : ConnectionId) : Prop where
  notPing : ipPacket.isIcmpEchoRequest = false
  notQuic : isQuic ipPacket = false
  flow : ∃ transport, ipPacket.transportHeaderData = some transport ∧
    id = .fromHeaders ipPacket.ipHeaderData transport

theorem ForFlow.unique {ipPacket : IpPacket} {id id' : ConnectionId} (h : ForFlow ipPacket id)
    (h' : ForFlow ipPacket id') : id = id' := by
  obtain ⟨transport, data, same⟩ := h.flow
  obtain ⟨transport', data', same'⟩ := h'.flow
  rw [data] at data'
  cases data'
  rw [same, same']

theorem sendToNetwork_flow {ipPacket : IpPacket} {id : ConnectionId} (flow : ForFlow ipPacket id) (r : Router)
    (env : Env) : r.sendToNetwork env ipPacket = r.sendFlow env id ipPacket := by
  obtain ⟨transport, data, same⟩ := flow.flow
  rw [sendToNetwork, flow.notPing, flow.notQuic, data, same]
  rfl

theorem answer_maps (r : Router) (raw : Option (List UInt8)) :
    (r.answer raw).connections = r.connections ∧ (r.answer raw).recentlyClosed = r.recentlyClosed := by
  unfold answer
  split
  · split <;> exact ⟨rfl, rfl⟩
  · exact ⟨rfl, rfl⟩

/-- A packet that is routed to no flow changes neither map. -/
theorem sendToNetwork_other {r r' : Router} {env : Env} {ipPacket : IpPacket}
    (sent : r.sendToNetwork env ipPacket = .ok r') (none : ∀ id, ¬ ForFlow ipPacket id) :
    r'.connections = r.connections ∧ r'.recentlyClosed = r.recentlyClosed := by
  unfold sendToNetwork at sent
  split at sent
  · obtain ⟨reply, _, same⟩ := bind_ok sent
    cases same
    exact answer_maps r _
  · rename_i notPing
    split at sent
    · obtain ⟨raw, _, same⟩ := bind_ok sent
      cases same
      exact answer_maps r _
    · rename_i notQuic
      cases data : ipPacket.transportHeaderData with
      | none =>
        rw [data] at sent
        cases sent
        exact ⟨rfl, rfl⟩
      | some transport =>
        exact absurd ⟨by simpa using notPing, by simpa using notQuic, transport, data, rfl⟩ (none _)

/-- What a packet of a flow does to the other flows: its purge forgets the old ones. -/
theorem sendFlow_other {r r' : Router} {env : Env} {ipPacket : IpPacket} {id id' : ConnectionId}
    (sent : r.sendFlow env id ipPacket = .ok r') (other : id' ≠ id) :
    r'.connections.lookup id' = r.connections.lookup id' ∧
      ∀ t, (id', t) ∈ r'.recentlyClosed ↔ (id', t) ∈ (r.purge env.now).recentlyClosed := by
  unfold sendFlow at sent
  dsimp only at sent
  split at sent
  · cases sent
    exact ⟨rfl, fun _ => Iff.rfl⟩
  · split at sent
    · rename_i c found
      obtain ⟨⟨c', same⟩, _, ended⟩ := bind_ok sent
      cases ended
      have kind : c'.protocol = id.protocol := by
        rw [same, Connection.protocol_borrow, (r.purge env.now).typed id c found]
      by_cases closed : c'.isClosed = true
      · rw [if_pos closed]
        exact ⟨(lookup_quarantine_other _ _ _ other).trans (lookup_put_other _ _ _ kind other),
          fun t => mem_quarantine_other _ _ _ _ other⟩
      · rw [if_neg closed]
        exact ⟨lookup_put_other _ _ _ kind other, fun _ => Iff.rfl⟩
    · obtain ⟨made, creation, sent⟩ := bind_ok sent
      split at sent
      · cases sent
        exact ⟨rfl, fun _ => Iff.rfl⟩
      · rename_i c kind
        obtain ⟨⟨c', same⟩, _, ended⟩ := bind_ok sent
        cases ended
        exact ⟨lookup_put_other _ _ _ (same.trans kind) other, fun _ => Iff.rfl⟩

def Sent (buffer : StreamBuffer) (c : Connection) (ipPacket : IpPacket) (env : Env) (c' : Connection) : Prop :=
  ∃ same, (c.borrow buffer).sendToNetwork ipPacket env.random = .ok ⟨c', same⟩

def Created (buffer : StreamBuffer) (env : Env) (id : ConnectionId) (ipPacket : IpPacket) (c' : Connection) : Prop :=
  ∃ made same, createConnection env id buffer ipPacket = .ok (some made) ∧
    made.1.sendToNetwork ipPacket env.random = .ok ⟨c', same⟩

/-- A TCP or UDP packet of a free flow creates a connection when a socket opens. -/
theorem creation_not_refused {buffer : StreamBuffer} {env : Env} {id : ConnectionId} {ipPacket : IpPacket}
    {transport : TransportHeaderData} (data : ipPacket.transportHeaderData = some transport)
    (kind : id.protocol = .tcp ∨ id.protocol = .udp) (opens : env.opens id = true) :
    createConnection env id buffer ipPacket ≠ .ok none := by
  intro refusal
  obtain ⟨⟨ipHeader, transportHeader⟩, headers, refusal⟩ := bind_ok refusal
  cases transportHeader with
  | none =>
    rw [IpPacket.headers, data] at headers
    obtain ⟨_, _, headers⟩ := bind_ok headers
    obtain ⟨_, _, headers⟩ := bind_ok headers
    obtain ⟨_, _, headers⟩ := bind_ok headers
    cases headers
  | some transportHeader =>
    dsimp only at refusal
    split at refusal
    · rw [if_pos opens] at refusal
      obtain ⟨c, _, same⟩ := bind_ok refusal
      cases same
    · rw [if_pos opens] at refusal
      obtain ⟨u, _, same⟩ := bind_ok refusal
      cases same
    · rename_i noTcp noUdp
      exact kind.elim noTcp noUdp

/-- What a packet does to its own flow. -/
inductive Routed (r : Router) (env : Env) (id : ConnectionId) (ipPacket : IpPacket) (r' : Router) : Prop where
  | dropped (quarantined : (r.purge env.now).isRecentlyClosed id = true) (same : r' = r.purge env.now)
  | sent (c c' : Connection) (free : (r.purge env.now).isRecentlyClosed id = false)
      (found : r.connections.lookup id = some c) (taken : Sent r.buffer c ipPacket env c') (alive : c'.isClosed = false)
      (after : r'.connections.lookup id = some c') (remembered : r'.recentlyClosed = (r.purge env.now).recentlyClosed)
  | sentLast (c c' : Connection) (found : r.connections.lookup id = some c) (taken : Sent r.buffer c ipPacket env c')
      (closed : c'.isClosed = true) (after : r'.connections.lookup id = none)
      (recorded : ∀ t, (id, t) ∈ r'.recentlyClosed ↔ t = env.closedAt)
  | refused (free : (r.purge env.now).isRecentlyClosed id = false) (vacant : r.connections.lookup id = none)
      (refusal : createConnection env id r.buffer ipPacket = .ok none) (same : r' = r.purge env.now)
  | created (c' : Connection) (free : (r.purge env.now).isRecentlyClosed id = false)
      (vacant : r.connections.lookup id = none) (created : Created r.buffer env id ipPacket c')
      (after : r'.connections.lookup id = some c') (remembered : r'.recentlyClosed = (r.purge env.now).recentlyClosed)

theorem sendFlow_routed {r r' : Router} {env : Env} {ipPacket : IpPacket} {id : ConnectionId}
    (sent : r.sendFlow env id ipPacket = .ok r') : Routed r env id ipPacket r' := by
  unfold sendFlow at sent
  dsimp only at sent
  split at sent
  · rename_i quarantined
    cases sent
    exact .dropped quarantined rfl
  · rename_i free
    have free : (r.purge env.now).isRecentlyClosed id = false := by simpa using free
    split at sent
    · rename_i c found
      obtain ⟨⟨c', same⟩, taken, ended⟩ := bind_ok sent
      cases ended
      have kind : c'.protocol = id.protocol := by
        rw [same, Connection.protocol_borrow, (r.purge env.now).typed id c found]
      by_cases closed : c'.isClosed = true
      · rw [if_pos closed]
        exact .sentLast c c' found ⟨_, taken⟩ closed (lookup_quarantine ..) fun t => mem_quarantine ..
      · rw [if_neg closed]
        exact .sent c c' free found ⟨_, taken⟩ (by simpa using closed) (lookup_put _ _ _ kind) rfl
    · rename_i vacant
      obtain ⟨made, creation, sent⟩ := bind_ok sent
      split at sent
      · cases sent
        exact .refused free vacant creation rfl
      · rename_i c kind
        obtain ⟨⟨c', same⟩, taken, ended⟩ := bind_ok sent
        cases ended
        exact .created c' free vacant ⟨_, _, creation, taken⟩ (lookup_put _ _ _ (same.trans kind)) rfl

theorem step_routed {r : Router} {env : Env} {ipPacket : IpPacket} {id : ConnectionId}
    (completes : r.Completes (.packet ipPacket env)) (flow : ForFlow ipPacket id) :
    Routed r env id ipPacket (r.step (.packet ipPacket env)) :=
  sendFlow_routed ((sendToNetwork_flow flow r env).symm.trans (act_of_completes completes))

section Free
variable {r r' : Router} {env : Env} {id : ConnectionId} {ipPacket : IpPacket}
  (routed : Routed r env id ipPacket r') (free : (r.purge env.now).isRecentlyClosed id = false)
include routed free

/-- The connection of the flow takes the packet; when it is closed then, the flow is remembered. -/
theorem Routed.occupied {c : Connection} (found : r.connections.lookup id = some c) :
    ∃ c', Sent r.buffer c ipPacket env c' ∧ (c'.isClosed = true → (id, env.closedAt) ∈ r'.recentlyClosed) := by
  cases routed with
  | dropped quarantined same => rw [free] at quarantined; cases quarantined
  | sent c₁ c' free found' taken alive after remembered =>
    rw [found] at found'
    cases found'
    refine ⟨c', taken, fun closed => ?_⟩
    rw [alive] at closed
    cases closed
  | sentLast c₁ c' found' taken closed after recorded =>
    rw [found] at found'
    cases found'
    exact ⟨c', taken, fun _ => (recorded _).mpr rfl⟩
  | refused free vacant refusal same => rw [vacant] at found; cases found
  | created c' free vacant created after remembered => rw [vacant] at found; cases found

/-- A connection is created and kept, even one that is closed by its first packet. -/
theorem Routed.vacant (vacant : r.connections.lookup id = none)
    (admitted : createConnection env id r.buffer ipPacket ≠ .ok none) :
    ∃ c', Created r.buffer env id ipPacket c' ∧ r'.connections.lookup id = some c' := by
  cases routed with
  | dropped quarantined same => rw [free] at quarantined; cases quarantined
  | sent c c' free found taken alive after remembered => rw [vacant] at found; cases found
  | sentLast c c' found taken closed after recorded => rw [vacant] at found; cases found
  | refused free vacant refusal same => exact absurd refusal admitted
  | created c' free vacant created after remembered => exact ⟨c', created, after⟩

end Free

theorem Sent.unique {buffer : StreamBuffer} {c : Connection} {ipPacket : IpPacket} {env : Env} {c' c'' : Connection}
    (taken : Sent buffer c ipPacket env c') (taken' : Sent buffer c ipPacket env c'') : c' = c'' := by
  obtain ⟨_, taken⟩ := taken
  obtain ⟨_, taken'⟩ := taken'
  rw [taken] at taken'
  cases taken'
  rfl

/-! ### Flows -/

/-- An entry of `recently_closed` that the purge of the operation does not forget. -/
def Op.Retains : Op → Nat → Prop
  | .packet _ env, t => env.now - t < recentlyClosedTtl
  | .clear, _ => False
  | _, _ => True

/-- The operation adds no entry for the flow, and forgets none before its time. -/
structure Remembers (r : Router) (op : Op) (id : ConnectionId) (r' : Router) : Prop where
  old : ∀ t, (id, t) ∈ r'.recentlyClosed → (id, t) ∈ r.recentlyClosed
  kept : ∀ t, (id, t) ∈ r.recentlyClosed → op.Retains t → (id, t) ∈ r'.recentlyClosed

def Op.closedAt : Op → ConnectionId → Nat
  | .packet _ env, _ => env.closedAt
  | .poll _ closedAt _, id => closedAt id
  | .clean _ closedAt, id => closedAt id
  | .remove _ closedAt, _ => closedAt
  | .clear, _ => 0

/-- The operation leaves the connection of the flow in the router. -/
inductive Keeps (r : Router) (id : ConnectionId) (c : Connection) : Op → Connection → Prop where
  | same (op : Op) (notPolled : ∀ now closedAt answers, op ≠ .poll now closedAt answers)
      (fresh : ∀ now closedAt, op = .clean now closedAt → c.isExpired (now id) = false) : Keeps r id c op c
  | sent (ipPacket : IpPacket) (env : Env) (c' : Connection) (flow : ForFlow ipPacket id)
      (taken : Sent r.buffer c ipPacket env c') (alive : c'.isClosed = false) : Keeps r id c (.packet ipPacket env) c'
  | polled (now closedAt : ConnectionId → Nat) (answers : ConnectionId → Answers) (c' : Connection)
      (polled : Polled now answers id c c' False) : Keeps r id c (.poll now closedAt answers) c'

/-- The operation takes the connection of the flow out. -/
inductive Ends (r : Router) (id : ConnectionId) (c : Connection) : Op → Prop where
  | sent (ipPacket : IpPacket) (env : Env) (c' : Connection) (flow : ForFlow ipPacket id)
      (taken : Sent r.buffer c ipPacket env c') (closed : c'.isClosed = true) : Ends r id c (.packet ipPacket env)
  | polled (now closedAt : ConnectionId → Nat) (answers : ConnectionId → Answers) (c' : Connection)
      (polled : Polled now answers id c c' True) : Ends r id c (.poll now closedAt answers)
  | expired (now closedAt : ConnectionId → Nat) (expired : c.isExpired (now id) = true) :
      Ends r id c (.clean now closedAt)
  | removed (closedAt : Nat) : Ends r id c (.remove id closedAt)

/-- Everything that an operation can do to a flow. -/
inductive Fate (r : Router) (op : Op) (id : ConnectionId) (r' : Router) : Prop where
  | vacant (before : r.connections.lookup id = none) (after : r'.connections.lookup id = none)
      (remembers : Remembers r op id r')
  | kept (c c' : Connection) (before : r.connections.lookup id = some c)
      (after : r'.connections.lookup id = some c') (keeps : Keeps r id c op c') (remembers : Remembers r op id r')
  | created (ipPacket : IpPacket) (env : Env) (c' : Connection) (packet : op = .packet ipPacket env)
      (flow : ForFlow ipPacket id) (admitted : (r.purge env.now).isRecentlyClosed id = false)
      (before : r.connections.lookup id = none) (after : r'.connections.lookup id = some c') (made : Created r.buffer env id ipPacket c')
      (free : ∀ t, (id, t) ∉ r'.recentlyClosed) (remembers : Remembers r op id r')
  | left (c : Connection) (before : r.connections.lookup id = some c) (after : r'.connections.lookup id = none)
      (ends : Ends r id c op) (recorded : ∀ t, (id, t) ∈ r'.recentlyClosed ↔ t = op.closedAt id)
  | cleared (clear : op = .clear) (after : r'.connections.lookup id = none)
      (forgotten : ∀ t, (id, t) ∉ r'.recentlyClosed)

theorem remembers_of_iff {r r' : Router} {op : Op} {id : ConnectionId}
    (same : ∀ t, (id, t) ∈ r'.recentlyClosed ↔ (id, t) ∈ r.recentlyClosed) : Remembers r op id r' :=
  ⟨fun t => (same t).mp, fun t member _ => (same t).mpr member⟩

theorem remembers_purge {r r' : Router} {ipPacket : IpPacket} {env : Env} {id : ConnectionId}
    (purged : ∀ t, (id, t) ∈ r'.recentlyClosed ↔ (id, t) ∈ (r.purge env.now).recentlyClosed) :
    Remembers r (.packet ipPacket env) id r' where
  old t member := ((mem_purge ..).mp ((purged t).mp member)).1
  kept t member retains := (purged t).mpr ((mem_purge ..).mpr ⟨member, retains⟩)

theorem packet_fate {r r' : Router} {ipPacket : IpPacket} {env : Env} (id : ConnectionId)
    (sent : r.sendToNetwork env ipPacket = .ok r') : Fate r (.packet ipPacket env) id r' := by
  have untouched (lookup : r'.connections.lookup id = r.connections.lookup id)
      (remembers : Remembers r (.packet ipPacket env) id r') : Fate r (.packet ipPacket env) id r' := by
    cases found : r.connections.lookup id with
    | none => exact .vacant found (lookup.trans found) remembers
    | some c => exact .kept c c found (lookup.trans found) (.same _ nofun nofun) remembers
  by_cases routed : ∃ id', ForFlow ipPacket id'
  · obtain ⟨id', flow⟩ := routed
    rw [sendToNetwork_flow flow] at sent
    by_cases other : id = id'
    · subst other
      have purge (remembered : r'.recentlyClosed = (r.purge env.now).recentlyClosed) :
          Remembers r (.packet ipPacket env) id r' := remembers_purge fun t => by rw [remembered]
      cases sendFlow_routed sent with
      | dropped quarantined same => exact untouched (by rw [same]; rfl) (purge (by rw [same]))
      | sent c c' free found taken alive after remembered =>
        exact .kept c c' found after (.sent ipPacket env c' flow taken alive) (purge remembered)
      | sentLast c c' found taken closed after recorded =>
        exact .left c found after (.sent ipPacket env c' flow taken closed) recorded
      | refused free vacant refusal same => exact untouched (by rw [same]; rfl) (purge (by rw [same]))
      | created c' free vacant created after remembered =>
        refine .created ipPacket env c' rfl flow free vacant after created (fun t member => ?_) (purge remembered)
        rw [remembered] at member
        have closed := (isRecentlyClosed_iff _ id).mpr ⟨t, member⟩
        rw [free] at closed
        cases closed
    · obtain ⟨lookup, remembered⟩ := sendFlow_other sent other
      exact untouched lookup (remembers_purge remembered)
  · obtain ⟨connections, recentlyClosed⟩ := sendToNetwork_other sent (not_exists.mp routed)
    exact untouched (by rw [connections]) (remembers_of_iff fun t => by rw [recentlyClosed])

theorem poll_fate {r r' : Router} {now closedAt : ConnectionId → Nat} {answers : ConnectionId → Answers}
    (id : ConnectionId) (polled : r.pollConnections now closedAt answers = .ok r') :
    Fate r (.poll now closedAt answers) id r' := by
  obtain ⟨vacant, known⟩ := pollConnections_spec now closedAt answers polled id
  cases found : r.connections.lookup id with
  | none => exact .vacant found (vacant found).1 (remembers_of_iff (vacant found).2)
  | some c =>
    obtain ⟨c', collected, one, gone, stays⟩ := known c found
    by_cases h : collected
    · rw [eq_true h] at one
      exact .left c found (gone h).1 (.polled now closedAt answers c' one) (gone h).2
    · rw [eq_false h] at one
      exact .kept c c' found (stays h).1 (.polled now closedAt answers c' one) (remembers_of_iff (stays h).2)

theorem clean_fate (r : Router) (now closedAt : ConnectionId → Nat) (id : ConnectionId) :
    Fate r (.clean now closedAt) id (r.cleanExpiredConnections now closedAt).1 := by
  obtain ⟨gone, stays⟩ := cleanExpiredConnections_spec r now closedAt id
  cases found : r.connections.lookup id with
  | none =>
    rw [found] at stays
    obtain ⟨lookup, remembered⟩ := stays (by simp)
    exact .vacant found lookup (remembers_of_iff remembered)
  | some c =>
    rw [found] at gone stays
    cases expired : c.isExpired (now id) with
    | true =>
      obtain ⟨after, recorded⟩ := gone (by simpa using expired)
      exact .left c found after (.expired now closedAt expired) recorded
    | false =>
      obtain ⟨after, remembered⟩ := stays (by simpa using expired)
      refine .kept c c found after (.same _ nofun ?_) (remembers_of_iff remembered)
      intro now' closedAt' same
      cases same
      exact expired

theorem remove_fate (r : Router) (id' : ConnectionId) (closedAt : Nat) (id : ConnectionId) :
    Fate r (.remove id' closedAt) id (r.remove id' closedAt) := by
  by_cases known : id' ∈ r.connections
  · rw [remove_of_mem r id' known]
    by_cases same : id = id'
    · subst same
      obtain ⟨c, found⟩ := (mem_connections_iff r id).mp known
      exact .left c found (lookup_quarantine ..) (.removed closedAt) fun t => mem_quarantine ..
    · have lookup := lookup_quarantine_other r id' closedAt same
      have remembers : Remembers r (.remove id' closedAt) id (r.quarantine id' closedAt) :=
        remembers_of_iff fun t => mem_quarantine_other _ _ _ _ same
      cases found : r.connections.lookup id with
      | none => exact .vacant found (lookup.trans found) remembers
      | some c => exact .kept c c found (lookup.trans found) (.same _ nofun nofun) remembers
  · rw [remove, if_neg known]
    have remembers : Remembers r (.remove id' closedAt) id r := remembers_of_iff fun _ => Iff.rfl
    cases found : r.connections.lookup id with
    | none => exact .vacant found found remembers
    | some c => exact .kept c c found found (.same _ nofun nofun) remembers

theorem act_fate {r r' : Router} {op : Op} (acted : r.act op = .ok r') (id : ConnectionId) : Fate r op id r' := by
  cases op with
  | packet ipPacket env => exact packet_fate id acted
  | poll now closedAt answers => exact poll_fate id acted
  | clean now closedAt =>
    cases acted
    exact clean_fate r now closedAt id
  | remove id' closedAt =>
    cases acted
    exact remove_fate r id' closedAt id
  | clear =>
    cases acted
    exact .cleared rfl rfl fun t => List.not_mem_nil

end Router

end Gnirehtet.Relay
