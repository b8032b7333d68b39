import Gnirehtet.Lib.Run
import Gnirehtet.Relay.Delivery
import Mathlib.Data.List.Flatten
import Mathlib.Data.List.Forall2

/-!
# From the device to the relay

The forwarder reads a packet from the VPN interface and sends it, on one tunnel after the other, until a write
returns. Each tunnel has a client of its own at the relay, with a packet buffer of its own: what a broken
tunnel leaves behind does not mix with the packets of the next one.
-/

namespace Gnirehtet.App
open Lib Relay

/-- One tunnel and the client that serves it. `failed` is the packet whose write threw, with the number of its
bytes that were written by then. -/
structure Uplink.Session where
  sent : List (List UInt8) := []
  failed : Option (List UInt8 × Nat) := none
  /-- What the client has read, read by read. -/
  chunks : List (List UInt8) := []

structure Uplink where
  session : Uplink.Session := {}
  earlier : List Uplink.Session := []
  /-- The packet that `send` works on. -/
  pending : Option (List UInt8) := none
  /-- The packets that were passed to `send`. -/
  forwarded : List (List UInt8) := []

namespace Uplink

def bufsize : Nat := 0x10000

namespace Session

def part (s : Session) : List UInt8 :=
  match s.failed with
  | some (p, n) => p.take n
  | none => []

def link (s : Session) : List UInt8 := s.sent.flatten ++ s.part

def attempts (s : Session) : List (List UInt8) := s.sent ++ (s.failed.map Prod.fst).toList

def arrived (s : Session) : Nat := s.chunks.flatten.length

/-- A read of the client. An empty one is not fed. -/
def read (s : Session) (n : Nat) : Session :=
  let chunk := (s.link.drop s.arrived).take (min n maxPacketLength)
  if chunk = [] then s else { s with chunks := s.chunks ++ [chunk] }

/-- What the client has passed to its router. -/
def Routes [Build] (s : Session) (log : List IpPacket) : Prop :=
  ∃ feed, Feed.FeedsAll Feed.record (.start []) s.chunks feed ∧ feed.router = log

end Session

/-- `buffer[0] >> 4` on a signed byte. -/
def version (b : UInt8) : Int := Int.shiftRight b.toInt8.toInt 4

inductive Event where
  | vpnRead (bytes : List UInt8)
  | send
  /-- The write throws with `n` bytes written, and the tunnel is invalidated. -/
  | sendFails (n : Nat)
  | reconnect
  | read (n : Nat)
  /-- The client of an earlier tunnel reads what is still on its way. -/
  | readLate (i n : Nat)

def step (u : Uplink) : Event → Uplink
  | .vpnRead bytes =>
    match u.pending, bytes.take bufsize with
    | none, b :: rest =>
      if version b = 4 ∨ version b = 6 then { u with
        pending := some (b :: rest)
        forwarded := u.forwarded ++ [b :: rest] }
      else u
    | _, _ => u
  | .send =>
    match u.pending, u.session.failed with
    | some p, none => { u with session := { u.session with sent := u.session.sent ++ [p] }, pending := none }
    | _, _ => u
  | .sendFails n =>
    match u.pending, u.session.failed with
    | some p, none => { u with session := { u.session with failed := some (p, n) } }
    | _, _ => u
  | .reconnect => { u with session := {}, earlier := u.earlier ++ [u.session] }
  | .read n => { u with session := u.session.read n }
  | .readLate i n => { u with earlier := u.earlier.modify i (·.read n) }

def sessions (u : Uplink) : List Session := u.earlier ++ [u.session]

def Reachable (u : Uplink) : Prop := ∃ events, u = run step {} events

/-- The signed shift finds the versions that the unsigned one of the relay finds. -/
theorem version_eq (b : UInt8) : (version b = 4 ↔ b >>> 4 = 4) ∧ (version b = 6 ↔ b >>> 4 = 6) := by
  have all : ∀ n : Fin 256, (version (.ofFin n) = 4 ↔ UInt8.ofFin n >>> 4 = 4) ∧
      (version (.ofFin n) = 6 ↔ UInt8.ofFin n >>> 4 = 6) := by decide +kernel
  exact all b.toFin

/-- No well-formed packet is dropped by the test of the version. -/
theorem step_vpnRead {u : Uplink} {p : List UInt8} (wf : WellFormed p) (idle : u.pending = none) :
    u.step (.vpnRead p) = { u with pending := some p, forwarded := u.forwarded ++ [p] } := by
  have small := wf.small
  have whole : p.take bufsize = p := List.take_of_length_le (by rw [bufsize]; omega)
  cases p with
  | nil => exact absurd wf.long (by decide)
  | cons b rest =>
    have known : version b = 4 ∨ version b = 6 := by
      obtain ⟨four, _⟩ | ⟨six, _⟩ := wf.cases
      · exact Or.inl ((version_eq b).1.mpr four)
      · exact Or.inr ((version_eq b).2.mpr six)
    simp only [step, idle, whole, if_pos known]

/-! ### What every event keeps -/

structure Consistent (u : Uplink) : Prop where
  forwarded : (u.sessions.map Session.sent).flatten ++ u.pending.toList = u.forwarded
  failed : ∀ s ∈ u.sessions, ∀ p n, s.failed = some (p, n) → p ∈ u.forwarded
  arrived : ∀ s ∈ u.sessions, s.chunks.flatten <+: s.link

section Sessions
variable {u : Uplink} {s : Session}

theorem arrived_read (arrived : s.chunks.flatten <+: s.link) (n : Nat) : (s.read n).chunks.flatten <+: (s.read n).link := by
  rw [Session.read]
  split
  · exact arrived
  · have next := List.take_prefix (min n maxPacketLength) (s.link.drop s.arrived)
    have whole := (List.prefix_append_right_inj s.chunks.flatten).mpr next
    rw [Session.arrived, List.prefix_iff_eq_append.mp arrived] at whole
    rw [List.flatten_append, List.flatten_singleton]
    exact whole

theorem map_modify {α β : Type*} {f : α → α} {g : α → β} (same : ∀ a, g (f a) = g a) (l : List α) (i : Nat) :
    (l.modify i f).map g = l.map g := by
  induction l generalizing i with
  | nil => rw [List.modify_nil]
  | cons a rest ih =>
    cases i with
    | zero => rw [List.modify_zero_cons, List.map_cons, List.map_cons, same]
    | succ i => rw [List.modify_succ_cons, List.map_cons, List.map_cons, ih]

theorem forall_modify {α : Type*} {P : α → Prop} {f : α → α} (keeps : ∀ a, P a → P (f a)) {l : List α}
    (all : ∀ a ∈ l, P a) (i : Nat) : ∀ a ∈ l.modify i f, P a := by
  induction l generalizing i with
  | nil =>
    rw [List.modify_nil]
    exact all
  | cons a rest ih =>
    rw [List.forall_mem_cons] at all
    cases i with
    | zero =>
      rw [List.modify_zero_cons, List.forall_mem_cons]
      exact ⟨keeps a all.1, all.2⟩
    | succ i =>
      rw [List.modify_succ_cons, List.forall_mem_cons]
      exact ⟨all.1, ih all.2 i⟩

theorem sent_read (s : Session) (n : Nat) : (s.read n).sent = s.sent ∧ (s.read n).failed = s.failed := by
  rw [Session.read]
  split <;> exact ⟨rfl, rfl⟩

theorem forall_sessions {P : Session → Prop} : (∀ s ∈ u.sessions, P s) ↔ (∀ s ∈ u.earlier, P s) ∧ P u.session := by
  rw [sessions, List.forall_mem_append, List.forall_mem_singleton]

/-- A session that is changed where nothing has failed yet. -/
theorem Consistent.update (consistent : u.Consistent) {s' : Session} {pending : Option (List UInt8)}
    (forwarded : s'.sent ++ pending.toList = u.session.sent ++ u.pending.toList)
    (failed : ∀ p n, s'.failed = some (p, n) → p ∈ u.forwarded) (arrived : s'.chunks.flatten <+: s'.link) :
    Consistent { u with session := s', pending } where
  forwarded := by
    rw [← consistent.forwarded]
    simp only [sessions, List.map_append, List.flatten_append, List.map_singleton, List.flatten_singleton,
      List.append_assoc, forwarded]
  failed := forall_sessions.mpr ⟨(forall_sessions.mp consistent.failed).1, failed⟩
  arrived := forall_sessions.mpr ⟨(forall_sessions.mp consistent.arrived).1, arrived⟩

theorem Consistent.step (consistent : u.Consistent) (event : Event) : (u.step event).Consistent := by
  have failed := (forall_sessions.mp consistent.failed).2
  have arrived := (forall_sessions.mp consistent.arrived).2
  cases event with
  | vpnRead bytes =>
    rw [Uplink.step]
    split
    · rename_i b rest idle _
      split
      · refine ⟨?_, fun s member p n same => List.mem_append_left _ (consistent.failed s member p n same),
          consistent.arrived⟩
        rw [← consistent.forwarded, idle, Option.toList_none, List.append_nil]
        rfl
      · exact consistent
    · exact consistent
  | send =>
    rw [Uplink.step]
    split
    · rename_i p pending none
      refine consistent.update ?_ (fun q n some => ?_) (arrived.trans ?_)
      · rw [pending, Option.toList_none, List.append_nil]
        rfl
      · cases none.symm.trans some
      · rw [Session.link, Session.link, Session.part, Session.part, none, List.flatten_append, List.append_nil,
          List.append_nil]
        exact List.prefix_append ..
    · exact consistent
  | sendFails n =>
    rw [Uplink.step]
    split
    · rename_i p pending none
      refine consistent.update (by rw [pending]) (fun q m some => ?_) (arrived.trans ?_)
      · cases some
        rw [← consistent.forwarded, pending]
        exact List.mem_append_right _ List.mem_cons_self
      · rw [Session.link, Session.link, Session.part, none, List.append_nil]
        exact List.prefix_append ..
    · exact consistent
  | reconnect =>
    refine ⟨?_, forall_sessions.mpr ⟨consistent.failed, nofun⟩, forall_sessions.mpr ⟨consistent.arrived, List.prefix_rfl⟩⟩
    have forwarded := consistent.forwarded
    simpa [Uplink.step, sessions] using forwarded
  | read n =>
    have same := sent_read u.session n
    exact consistent.update (by rw [same.1]) (by rw [same.2]; exact failed) (arrived_read arrived n)
  | readLate i n =>
    refine ⟨?_, forall_sessions.mpr ⟨?_, failed⟩, forall_sessions.mpr ⟨?_, arrived⟩⟩
    · have forwarded := consistent.forwarded
      rw [sessions, List.map_append] at forwarded
      rw [Uplink.step, sessions, List.map_append, map_modify fun s => (sent_read s n).1]
      exact forwarded
    · refine forall_modify (fun s was => ?_) (forall_sessions.mp consistent.failed).1 i
      rw [(sent_read s n).2]
      exact was
    · exact forall_modify (fun s was => arrived_read was n) (forall_sessions.mp consistent.arrived).1 i

theorem Reachable.consistent (reachable : u.Reachable) : u.Consistent := by
  obtain ⟨events, rfl⟩ := reachable
  refine run_always (P := Consistent) (fun _ event was => was.step event) ?_ events
  exact ⟨rfl, forall_sessions.mpr ⟨nofun, nofun⟩, forall_sessions.mpr ⟨nofun, List.prefix_rfl⟩⟩

end Sessions

/-! ### What the routers get -/

section Routes
variable [Build] {u : Uplink} {s : Session}

omit [Build] in
theorem link_front (s : Session) : s.link <+: s.attempts.flatten := by
  rw [Session.link, Session.attempts, List.flatten_append, List.prefix_append_right_inj, Session.part]
  cases s.failed with
  | none => exact List.prefix_rfl
  | some failed =>
    rw [Option.map_some, Option.toList_some, List.flatten_singleton]
    exact List.take_prefix ..

theorem routes_completed (wf : ∀ p ∈ s.attempts, WellFormed p) (arrived : s.chunks.flatten <+: s.link)
    (fit : Feed.ChunksFit s.attempts s.chunks) : s.Routes ((completed s.attempts s.arrived).map packetOf) := by
  have delivers := Feed.delivers_of_fit wf (arrived.trans (link_front s)) fit
  obtain ⟨feed, fed, exact, _⟩ := delivers s.chunks [] (List.append_nil _).symm
  exact ⟨feed, fed, exact⟩

omit [Build] in
theorem Reachable.attempts (reachable : u.Reachable) (member : s ∈ u.sessions) : ∀ p ∈ s.attempts, p ∈ u.forwarded := by
  intro p attempt
  obtain sent | failed := List.mem_append.mp attempt
  · rw [← reachable.consistent.forwarded]
    exact List.mem_append_left _ (List.mem_flatten.mpr ⟨s.sent, List.mem_map_of_mem member, sent⟩)
  · rw [Option.mem_toList] at failed
    obtain ⟨⟨q, n⟩, some, rfl⟩ := Option.map_eq_some_iff.mp failed
    exact reachable.consistent.failed s member q n some

omit [Build] in
/-- Once the client has read the whole link, the packets whose write returned are complete. -/
theorem sent_front (all : s.chunks.flatten = s.link) : s.sent <+: completed s.attempts s.arrived := by
  rw [Session.arrived, all, Session.link, List.length_append, Session.attempts, completed_append]
  exact List.prefix_append ..

omit [Build] in
/-- A packet that was not written to its end is not complete. -/
theorem completed_sent (arrived : s.chunks.flatten <+: s.link)
    (cut : ∀ p n, s.failed = some (p, n) → n < p.length) : completed s.attempts s.arrived <+: s.sent := by
  have length := arrived.length_le
  rw [Session.link, Session.part] at length
  rw [Session.attempts]
  cases failed : s.failed with
  | none =>
    rw [Option.map_none, Option.toList_none, List.append_nil]
    exact completed_front s.sent s.arrived
  | some last =>
    have short := cut last.1 last.2 failed
    rw [failed, List.length_append, List.length_take] at length
    refine completed_before_last s.sent ?_
    rw [List.flatten_append, List.flatten_singleton, List.length_append]
    have : s.arrived = s.chunks.flatten.length := rfl
    omega

end Routes

section Whole
variable [Build] {u : Uplink} (reachable : u.Reachable) (wf : ∀ p ∈ u.forwarded, WellFormed p)
  (fit : ∀ s ∈ u.sessions, Feed.ChunksFit s.attempts s.chunks)
include reachable wf fit

/-- However the tunnels break, each client passes on only whole packets of its tunnel, in order and without
gaps, and once it has read everything, all packets whose `send` returned. The forwarder drops no well-formed
packet before that. -/
theorem tunnels_route_whole : (∀ s ∈ u.sessions, ∃ log, s.Routes log ∧ log <+: s.attempts.map packetOf ∧
    (∀ q ∈ log, ∃ p ∈ u.forwarded, q = packetOf p) ∧ (s.chunks.flatten = s.link → s.sent.map packetOf <+: log)) ∧
    ∀ p, WellFormed p → u.pending = none → (u.step (.vpnRead p)).forwarded = u.forwarded ++ [p] := by
  refine ⟨fun s member => ?_, fun p here idle => by rw [step_vpnRead here idle]⟩
  have attempts := reachable.attempts member
  have arrived := reachable.consistent.arrived s member
  refine ⟨_, routes_completed (fun p attempt => wf p (attempts p attempt)) arrived (fit s member),
    (completed_front ..).map packetOf, fun q routed => ?_, fun all => (sent_front all).map packetOf⟩
  obtain ⟨p, done, rfl⟩ := List.mem_map.mp routed
  exact ⟨p, attempts p ((completed_front ..).subset done), rfl⟩

/-- When no write throws that has written its whole packet, the clients together pass on the forwarded packets in
order, none of them twice, and all of them once everything has been read. -/
theorem tunnels_route_in_order (cut : ∀ s ∈ u.sessions, ∀ p n, s.failed = some (p, n) → n < p.length) :
    ∃ logs, List.Forall₂ Session.Routes u.sessions logs ∧ logs.flatten.Sublist (u.forwarded.map packetOf) ∧
      ((∀ s ∈ u.sessions, s.chunks.flatten = s.link) →
        logs.flatten ++ u.pending.toList.map packetOf = u.forwarded.map packetOf) := by
  have arrived := reachable.consistent.arrived
  have front : ∀ s ∈ u.sessions, completed s.attempts s.arrived <+: s.sent := fun s member =>
    completed_sent (arrived s member) (cut s member)
  refine ⟨u.sessions.map fun s => (completed s.attempts s.arrived).map packetOf, ?_, ?_, fun all => ?_⟩
  · rw [List.forall₂_map_right_iff, List.forall₂_same]
    intro s member
    exact routes_completed (fun p attempt => wf p (reachable.attempts member p attempt)) (arrived s member) (fit s member)
  · have routed : ((u.sessions.map fun s => (completed s.attempts s.arrived).map packetOf).flatten).Sublist
        ((u.sessions.map Session.sent).flatten.map packetOf) := by
      rw [List.map_flatten, List.map_map, ← List.flatMap_def, ← List.flatMap_def]
      exact List.Sublist.flatMap_right _ fun s member => ((front s member).sublist).map packetOf
    rw [← reachable.consistent.forwarded, List.map_append]
    exact routed.trans (List.sublist_append_left ..)
  · have same : u.sessions.map (fun s => (completed s.attempts s.arrived).map packetOf) =
        u.sessions.map fun s => s.sent.map packetOf := by
      refine List.map_congr_left fun s member => congrArg _ ?_
      exact (front s member).eq_of_length_le (sent_front (all s member)).length_le
    rw [same, ← reachable.consistent.forwarded, List.map_append, List.map_flatten, List.map_map]
    rfl

end Whole
end Uplink

namespace Sample
open Relay.Sample

/-- The first write breaks inside the packet, and the second tunnel takes the packet again and one more. -/
def retrying : List Uplink.Event :=
  [.vpnRead smallPacket, .sendFails 10, .reconnect, .readLate 0 15, .send, .vpnRead smallPacket, .send, .read 33, .read 7]

def retried : Uplink where
  session := { sent := [smallPacket, smallPacket], chunks := [smallPacket ++ smallPacket.take 13, smallPacket.drop 13] }
  earlier := [{ failed := some (smallPacket, 10), chunks := [smallPacket.take 10] }]
  forwarded := [smallPacket, smallPacket]

theorem retried_reachable : retried.Reachable := ⟨retrying, rfl⟩

theorem retried_wellFormed : ∀ p ∈ retried.forwarded, WellFormed p := by
  intro p member
  obtain rfl | rfl := List.mem_pair.mp member <;> exact smallPacket_wellFormed

theorem retried_fit : ∀ s ∈ retried.sessions, Feed.ChunksFit s.attempts s.chunks := by
  intro s member
  obtain rfl | rfl := List.mem_pair.mp member
  · exact chunksFit_of_short (by decide)
  · exact chunksFit_of_short (by decide)

/-- The client of the broken tunnel passes on nothing, the other one both packets. -/
theorem retried_route_whole : let _ : Build := { overflowChecks := true }
    (∀ s ∈ retried.sessions, ∃ log, s.Routes log ∧ log <+: s.attempts.map packetOf ∧
      (∀ q ∈ log, ∃ p ∈ retried.forwarded, q = packetOf p) ∧
      (s.chunks.flatten = s.link → s.sent.map packetOf <+: log)) ∧
    ∀ p, WellFormed p → retried.pending = none →
      (retried.step (.vpnRead p)).forwarded = retried.forwarded ++ [p] := by
  intro _
  exact Uplink.tunnels_route_whole retried_reachable retried_wellFormed retried_fit

theorem retried_route_in_order : let _ : Build := { overflowChecks := true }
    ∃ logs, List.Forall₂ Uplink.Session.Routes retried.sessions logs ∧
      logs.flatten = [packetOf smallPacket, packetOf smallPacket] := by
  intro _
  have cut : ∀ s ∈ retried.sessions, ∀ p n, s.failed = some (p, n) → n < p.length := by
    intro s member p n failed
    obtain rfl | rfl := List.mem_pair.mp member
    · cases failed
      decide
    · cases failed
  obtain ⟨logs, routes, _, all⟩ :=
    Uplink.tunnels_route_in_order retried_reachable retried_wellFormed retried_fit cut
  refine ⟨logs, routes, (List.append_nil _).symm.trans (all fun s member => ?_)⟩
  obtain rfl | rfl := List.mem_pair.mp member <;> decide

end Sample
end Gnirehtet.App
