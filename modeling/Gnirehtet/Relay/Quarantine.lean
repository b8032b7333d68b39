import Gnirehtet.Relay.Rejection
import Gnirehtet.Relay.Routing

/-!
# The quarantine of closed flows

A flow that was closed is left alone for two seconds: its packets are dropped, and nothing that is
dropped makes the two seconds longer. Every operation carries the readings of the clock that it makes.
-/

namespace Gnirehtet.Relay
open Lib Router

/-- An operation and the time when it is over. -/
structure Timed where
  op : Op
  done : Nat

/-- The readings of the clock do not decrease, from `t` on and up to `t'`. -/
def Router.Op.Between (t t' : Nat) : Op → Prop
  | .packet _ env => t ≤ env.now ∧ env.now ≤ env.createdAt ∧ env.createdAt ≤ env.closedAt ∧ env.closedAt ≤ t'
  | .poll now closedAt _ => t ≤ t' ∧ ∀ id, t ≤ now id ∧ now id ≤ closedAt id ∧ closedAt id ≤ t'
  | .clean now closedAt => t ≤ t' ∧ ∀ id, t ≤ now id ∧ now id ≤ closedAt id ∧ closedAt id ≤ t'
  | .remove _ closedAt => t ≤ closedAt ∧ closedAt ≤ t'
  | .clear => t ≤ t'

theorem Router.Op.Between.le {t t' : Nat} {op : Op} (between : op.Between t t') : t ≤ t' := by
  cases op with
  | packet ipPacket env =>
    obtain ⟨h₁, h₂, h₃, h₄⟩ := between
    omega
  | poll now closedAt answers => exact between.1
  | clean now closedAt => exact between.1
  | remove id closedAt => exact Nat.le_trans between.1 between.2
  | clear => exact between

/-- A router and the time when its last operation was over. -/
structure Clocked where
  router : Router
  clock : Nat

namespace Clocked

def start (buffer : StreamBuffer) (clock : Nat) : Clocked where
  router := .new buffer
  clock := clock

def step (s : Clocked) (e : Timed) : Clocked where
  router := s.router.step e.op
  clock := e.done

/-- The operation completes, in its time, and does not clear the router. -/
structure Admits (s : Clocked) (e : Timed) : Prop where
  completes : s.router.Completes e.op
  between : e.op.Between s.clock e.done
  noClear : e.op ≠ .clear

theorem Admits.fate {s : Clocked} {e : Timed} (admits : s.Admits e) (id : ConnectionId) :
    Fate s.router e.op id (s.step e).router :=
  act_fate (act_of_completes admits.completes) id

/-! ### The two maps are disjoint -/

def Disjoint (r : Router) : Prop := ∀ id, id ∈ r.connections → r.isRecentlyClosed id = false

theorem disjoint_iff {r : Router} :
    Disjoint r ↔ ∀ id c, r.connections.lookup id = some c → ∀ t, (id, t) ∉ r.recentlyClosed := by
  constructor
  · intro disjoint id c found t member
    have closed := (isRecentlyClosed_iff r id).mpr ⟨t, member⟩
    rw [disjoint id ((mem_connections_iff r id).mpr ⟨c, found⟩)] at closed
    cases closed
  · intro apart id known
    obtain ⟨c, found⟩ := (mem_connections_iff r id).mp known
    apply Bool.eq_false_iff.mpr
    intro closed
    obtain ⟨t, member⟩ := (isRecentlyClosed_iff r id).mp closed
    exact apart id c found t member

theorem disjoint_step {s : Clocked} {e : Timed} (disjoint : Disjoint s.router) (admits : s.Admits e) :
    Disjoint (s.step e).router := by
  rw [disjoint_iff] at disjoint ⊢
  intro id c found t member
  cases admits.fate id with
  | vacant before after remembers => rw [after] at found; cases found
  | kept c₀ c' before after keeps remembers => exact disjoint id c₀ before t (remembers.old t member)
  | created ipPacket env c' packet flow admitted before after made free remembers => exact free t member
  | left c₀ before after ends recorded => rw [after] at found; cases found
  | cleared clear after forgotten => exact forgotten t member

theorem disjoint_run {buffer : StreamBuffer} {clock : Nat} {events : List Timed}
    (admits : Along step Admits (start buffer clock) events) :
    Disjoint (run step (start buffer clock) events).router := by
  refine run_invariant (P := fun s => Disjoint s.router) (fun s e h admits => disjoint_step h admits) ?_ admits
  intro id known
  rfl

/-! ### Time -/

theorem clock_run {s : Clocked} {events : List Timed} (admits : Along step Admits s events) :
    s.clock ≤ (run step s events).clock ∧ ∀ e ∈ events, e.done ≤ (run step s events).clock := by
  induction events generalizing s with
  | nil => exact ⟨Nat.le_refl _, nofun⟩
  | cons e rest ih =>
    obtain ⟨first, later⟩ := admits
    obtain ⟨reach, each⟩ := ih later
    have now : s.clock ≤ e.done := first.between.le
    rw [run_cons]
    refine ⟨Nat.le_trans now reach, ?_⟩
    intro e' member
    rcases List.mem_cons.mp member with rfl | member
    · exact reach
    · exact each e' member

/-! ### A flow that left -/

def Leaves (s : Clocked) (e : Timed) (id : ConnectionId) : Prop :=
  id ∈ s.router.connections ∧ id ∉ (s.step e).router.connections

/-- The flow left at `t` and has not come back. It is remembered until two seconds are over. -/
structure Away (id : ConnectionId) (t : Nat) (s : Clocked) : Prop where
  vacant : s.router.connections.lookup id = none
  once : ∀ t', (id, t') ∈ s.router.recentlyClosed → t' = t
  remembered : s.clock < t + recentlyClosedTtl → (id, t) ∈ s.router.recentlyClosed

def Early (id : ConnectionId) (t : Nat) (e : Timed) : Prop :=
  ∀ ipPacket env, e.op = .packet ipPacket env → ForFlow ipPacket id → env.now < t + recentlyClosedTtl

theorem away_of_leaves {s : Clocked} {e : Timed} {id : ConnectionId} (admits : s.Admits e)
    (leaves : s.Leaves e id) : Away id (e.op.closedAt id) (s.step e) := by
  obtain ⟨known, gone⟩ := leaves
  obtain ⟨c, found⟩ := (mem_connections_iff _ id).mp known
  cases admits.fate id with
  | vacant before after remembers => rw [found] at before; cases before
  | kept c₀ c' before after keeps remembers => exact absurd ((mem_connections_iff _ id).mpr ⟨c', after⟩) gone
  | created ipPacket env c' packet flow admitted before after made free remembers => rw [found] at before; cases before
  | left c₀ before after ends recorded =>
    exact ⟨after, fun t' => (recorded t').mp, fun _ => (recorded _).mpr rfl⟩
  | cleared clear after forgotten => exact absurd clear admits.noClear

theorem away_step {s : Clocked} {e : Timed} {id : ConnectionId} {t : Nat} (away : Away id t s)
    (admits : s.Admits e) (early : Early id t e) : Away id t (s.step e) := by
  obtain ⟨vacant, once, remembered⟩ := away
  have ttl : 0 < recentlyClosedTtl := by decide
  have reach : s.clock ≤ e.done := admits.between.le
  have stays (remembers : Remembers s.router e.op id (s.step e).router)
      (soon : e.done < t + recentlyClosedTtl) : (id, t) ∈ (s.step e).router.recentlyClosed := by
    apply remembers.kept t (remembered (by omega))
    cases op : e.op with
    | packet ipPacket env =>
      have between := admits.between
      rw [op] at between
      obtain ⟨_, h₁, h₂, h₃⟩ := between
      show env.now - t < recentlyClosedTtl
      omega
    | clear => exact absurd op admits.noClear
    | _ => trivial
  cases admits.fate id with
  | vacant before after remembers =>
    exact ⟨after, fun t' member => once t' (remembers.old t' member), stays remembers⟩
  | kept c₀ c' before after keeps remembers => rw [vacant] at before; cases before
  | created ipPacket env c' packet flow admitted before after made free remembers =>
    have soon := early ipPacket env packet flow
    have between := admits.between
    rw [packet] at between
    have kept := remembers.kept t (remembered (by have := between.1; omega))
    rw [packet] at kept
    refine absurd (kept ?_) (free t)
    show env.now - t < recentlyClosedTtl
    omega
  | left c₀ before after ends recorded => rw [vacant] at before; cases before
  | cleared clear after forgotten => exact absurd clear admits.noClear

theorem away_run {s : Clocked} {e : Timed} {id : ConnectionId} {between : List Timed}
    (admits : Along step Admits s (e :: between)) (leaves : s.Leaves e id)
    (early : ∀ e' ∈ between, Early id (e.op.closedAt id) e') :
    Away id (e.op.closedAt id) (run step s (e :: between)) := by
  obtain ⟨first, later⟩ := admits
  rw [run_cons]
  have away := away_of_leaves first leaves
  generalize s.step e = s' at away later
  induction between generalizing s' with
  | nil => exact away
  | cons e' rest ih =>
    obtain ⟨now, later⟩ := later
    have soon := early e' List.mem_cons_self
    exact ih (fun e'' member => early e'' (List.mem_cons_of_mem _ member)) _ (away_step away now soon) later

/-- A packet that comes before the two seconds are over is dropped. -/
theorem Away.absorbs {s : Clocked} {id : ConnectionId} {t : Nat} (away : Away id t s) {ipPacket : IpPacket}
    {env : Env} (flow : ForFlow ipPacket id) (after : s.clock ≤ env.now) (soon : env.now < t + recentlyClosedTtl) :
    s.router.sendToNetwork env ipPacket = .ok (s.router.purge env.now) := by
  have ttl : 0 < recentlyClosedTtl := by decide
  have closed : (s.router.purge env.now).isRecentlyClosed id = true := by
    rw [isRecentlyClosed_iff]
    exact ⟨t, (mem_purge ..).mpr ⟨away.remembered (by omega), by omega⟩⟩
  rw [sendToNetwork_flow flow, sendFlow]
  exact if_pos closed

/-- The packet asks for a new connection of its flow, which the router then has unless none could be created. -/
structure Reopens (r : Router) (env : Env) (id : ConnectionId) (ipPacket : IpPacket) : Prop where
  asks : r.sendToNetwork env ipPacket = (r.purge env.now).sendVacant env id ipPacket
  answered : ∀ r', r.sendToNetwork env ipPacket = .ok r' →
    createConnection env id r.buffer ipPacket = .ok none ∧ r' = r.purge env.now ∨
      ∃ c, Created r.buffer env id ipPacket c ∧ r'.connections.lookup id = some c

/-- A packet that comes later finds the flow neither known nor closed. -/
theorem Away.reopens {s : Clocked} {id : ConnectionId} {t : Nat} (away : Away id t s) {ipPacket : IpPacket}
    {env : Env} (flow : ForFlow ipPacket id) (late : t + recentlyClosedTtl ≤ env.now) :
    Reopens s.router env id ipPacket := by
  have free : (s.router.purge env.now).isRecentlyClosed id = false := by
    rw [Bool.eq_false_iff]
    intro closed
    obtain ⟨t', member⟩ := (isRecentlyClosed_iff _ id).mp closed
    obtain ⟨member, soon⟩ := (mem_purge ..).mp member
    have := away.once t' member
    omega
  constructor
  · rw [sendToNetwork_flow flow, sendFlow, if_neg (Bool.eq_false_iff.mp free)]
    split
    · rename_i c found
      have found : s.router.connections.lookup id = some c := found
      rw [away.vacant] at found
      cases found
    · rfl
  · intro r' sent
    rw [sendToNetwork_flow flow] at sent
    have routed := sendFlow_routed sent
    by_cases refusal : createConnection env id s.router.buffer ipPacket = .ok none
    · cases routed with
      | dropped quarantined same => rw [free] at quarantined; cases quarantined
      | sent c c' _ found taken alive after remembered => rw [away.vacant] at found; cases found
      | sentLast c c' found taken closed after recorded => rw [away.vacant] at found; cases found
      | refused _ vacant refusal same => exact Or.inl ⟨refusal, same⟩
      | created c' _ vacant created after remembered => exact Or.inr ⟨c', created, after⟩
    · exact Or.inr (routed.vacant free away.vacant refusal)

/-! ### The quarantine -/

/-- What the quarantine promises of a run: (a), (b) and (c). -/
structure Quarantines (s : Clocked) (events : List Timed) : Prop where
  disjoint : ∀ before after, events = before ++ after → Disjoint (run step s before).router
  absorbs : ∀ before e between id, events = before ++ e :: between → (run step s before).Leaves e id →
    ∀ ipPacket env, ForFlow ipPacket id → (run step s events).clock ≤ env.now →
      env.now < e.op.closedAt id + recentlyClosedTtl →
      (run step s events).router.sendToNetwork env ipPacket = .ok ((run step s events).router.purge env.now)
  reopens : ∀ before e between id, events = before ++ e :: between → (run step s before).Leaves e id →
    (∀ e' ∈ between, Early id (e.op.closedAt id) e') →
    ∀ ipPacket env, ForFlow ipPacket id → e.op.closedAt id + recentlyClosedTtl ≤ env.now →
      Reopens (run step s events).router env id ipPacket

/-- In every run whose clock does not decrease, a flow that left is dropped for two seconds and no longer. -/
theorem quarantine_holds {buffer : StreamBuffer} {clock : Nat} {events : List Timed}
    (admits : Along step Admits (start buffer clock) events) : Quarantines (start buffer clock) events := by
  refine ⟨?_, ?_, ?_⟩
  · intro before after split
    rw [split, along_append] at admits
    exact disjoint_run admits.1
  · intro before e between id split leaves ipPacket env flow after soon
    subst split
    obtain ⟨_, admits⟩ := along_append.mp admits
    rw [run_append] at after ⊢
    -- All readings of the clock so far are before this one.
    have early : ∀ e' ∈ between, Early id (e.op.closedAt id) e' := by
      intro e' member ipPacket' env' packet _
      have done := (clock_run admits).2 e' (List.mem_cons_of_mem _ member)
      obtain ⟨front, back, rfl⟩ := List.append_of_mem member
      have between := ((along_append.mp admits.2).2.1).between
      rw [packet] at between
      obtain ⟨_, h₁, h₂, h₃⟩ := between
      omega
    exact (away_run admits leaves early).absorbs flow after soon
  · intro before e between id split leaves early ipPacket env flow late
    subst split
    obtain ⟨_, admits⟩ := along_append.mp admits
    rw [run_append]
    exact (away_run admits leaves early).reopens flow late

end Clocked

namespace Sample

/-- An empty datagram to port 53. -/
def dnsPacket : IpPacket :=
  packetOf [0x45, 0, 0, 28, 0, 1, 0, 0, 64, 17, 0, 0, 10, 0, 0, 2, 8, 8, 8, 8, 0xC3, 0x50, 0, 53, 0, 8, 0, 0]

def dnsHeader : TransportHeaderData := .udp { sourcePort := 50000, destinationPort := 53 }

def dnsFlow : ConnectionId := .fromHeaders dnsPacket.ipHeaderData dnsHeader

def envAt (now : Nat) : Env where
  now := now
  createdAt := now
  closedAt := now
  opens := fun _ => true
  random := 0

theorem dns_transport : dnsPacket.transportHeaderData = some dnsHeader := by decide

theorem dns_forFlow : ForFlow dnsPacket dnsFlow := ⟨by decide, by decide, dnsHeader, dns_transport, rfl⟩

theorem dns_completes (r : Router) (env : Env) : r.Completes (.packet dnsPacket env) := by
  have creatable : Creatable dnsPacket dnsHeader := show 20 ≤ dnsPacket.transportIndex by decide
  exact sendToNetwork_inside (by decide) dns_transport (by decide) (by decide) creatable r env

theorem dns_opens (buffer : StreamBuffer) :
    dnsFlow ∈ ((Router.new buffer).step (.packet dnsPacket (envAt 3))).connections := by
  have routed := step_routed (dns_completes (.new buffer) (envAt 3)) dns_forFlow
  have admitted : createConnection (envAt 3) dnsFlow buffer dnsPacket ≠ .ok none :=
    creation_not_refused dns_transport (Or.inr (by decide)) rfl
  obtain ⟨c, _, stored⟩ := routed.vacant rfl rfl admitted
  exact (mem_connections_iff _ _).mpr ⟨c, stored⟩

/-- The flow opens, is removed at 5, and has a packet dropped at 10. -/
def removal : List Timed :=
  [⟨.packet dnsPacket (envAt 3), 3⟩, ⟨.remove dnsFlow 5, 5⟩, ⟨.packet dnsPacket (envAt 10), 10⟩]

theorem removal_leaves (buffer : StreamBuffer) :
    (run Clocked.step (.start buffer 0) [⟨.packet dnsPacket (envAt 3), 3⟩]).Leaves ⟨.remove dnsFlow 5, 5⟩ dnsFlow := by
  rw [run_cons, run_nil]
  refine ⟨dns_opens buffer, ?_⟩
  rw [mem_connections_iff]
  rintro ⟨c, found⟩
  have removed : ((Router.new buffer).step (.packet dnsPacket (envAt 3))).step (.remove dnsFlow 5) =
      quarantine _ dnsFlow 5 := step_of_act (congrArg Except.ok (if_pos (dns_opens buffer)))
  rw [Clocked.step, Clocked.step] at found
  dsimp only [Clocked.start] at found
  rw [removed, lookup_quarantine] at found
  cases found

end Sample

/-- Behind the packet that is dropped, another is dropped at 11 and opens the flow two seconds after the removal. -/
theorem quarantine_holds_dns : ∃ r : Router,
    r.sendToNetwork (Sample.envAt 11) Sample.dnsPacket = .ok (r.purge 11) ∧
      ∃ r' c, r.sendToNetwork (Sample.envAt (5 + recentlyClosedTtl)) Sample.dnsPacket = .ok r' ∧
        r'.connections.lookup Sample.dnsFlow = some c := by
  have admits : Along Clocked.step Clocked.Admits (.start (.new 4096) 0) Sample.removal := by
    refine ⟨⟨Sample.dns_completes _ _, ?_, nofun⟩, ⟨⟨_, rfl⟩, ?_, nofun⟩, ⟨Sample.dns_completes _ _, ?_, nofun⟩, trivial⟩
    · exact ⟨Nat.zero_le 3, Nat.le_refl 3, Nat.le_refl 3, Nat.le_refl 3⟩
    · exact ⟨show 3 ≤ 5 by decide, Nat.le_refl 5⟩
    · exact ⟨show 5 ≤ 10 by decide, Nat.le_refl 10, Nat.le_refl 10, Nat.le_refl 10⟩
  have quarantine := Clocked.quarantine_holds admits
  refine ⟨_, quarantine.absorbs _ _ [⟨.packet Sample.dnsPacket (Sample.envAt 10), 10⟩] _ rfl (Sample.removal_leaves _) _ _
    Sample.dns_forFlow (show 10 ≤ 11 by decide) (show 11 < 5 + recentlyClosedTtl by decide), ?_⟩
  have reopens := quarantine.reopens _ _ [⟨.packet Sample.dnsPacket (Sample.envAt 10), 10⟩] _ rfl (Sample.removal_leaves _)
    (fun e member ipPacket env packet _ => by
      cases List.mem_singleton.mp member
      cases packet
      decide) _ (Sample.envAt (5 + recentlyClosedTtl)) Sample.dns_forFlow (Nat.le_refl _)
  obtain ⟨r', sent⟩ := Sample.dns_completes _ (Sample.envAt (5 + recentlyClosedTtl))
  obtain ⟨refusal, _⟩ | ⟨c, _, stored⟩ := reopens.answered r' sent
  · exact absurd refusal (creation_not_refused Sample.dns_transport (Or.inr (by decide)) rfl)
  · exact ⟨r', c, sent, stored⟩

end Gnirehtet.Relay
