import Gnirehtet.Relay.Delivery
import Gnirehtet.Relay.IcmpAnswers
import Gnirehtet.Relay.Producers

/-!
# The main loop of a client

A turn of `run_blocking` reads from the device, feeds the router, polls the connections, cleans up every five
seconds, drains the shared buffer and writes what the device socket takes. The concrete loop refines the
abstract queue of `Outgoing`.
-/

namespace Gnirehtet.Relay
open Lib

/-- What the host answers to one poll of the connections. -/
structure Poll where
  now : ConnectionId → Nat
  closedAt : ConnectionId → Nat
  answers : ConnectionId → Answers

/-- What the host answers in one turn. The packets of a chunk each have an environment of their own. -/
structure Turn where
  read : ReadAnswer
  env : Nat → Env
  fed : Poll
  polled : Poll
  now : Nat
  expired : ConnectionId → Nat
  closedAt : ConnectionId → Nat
  write : WriteAnswer

/-- Why a turn does not come to its end. -/
inductive Halt where
  | panic (e : Panic)
  /-- The loop of `feed_device_data` needs more turns than it was given. -/
  | feeding

/-- The client with the variables of its loop, and the bytes that the device socket has taken. -/
structure Client where
  clientToNetwork : IpPacketBuffer := .new
  router : Router := .new (.new (64 * maxPacketLength))
  closed : Bool := false
  pendingOutgoing : List UInt8 := []
  lastCleanup : Nat
  written : List UInt8 := []
  /-- The loop was left. -/
  left : Bool := false

namespace Client

def close (c : Client) : Client := { c with closed := true, router := c.router.clear.1 }

def leave (c : Client) : Client := { c with left := true }

def send (env : Nat → Env) (s : Router × Nat) (packet : IpPacket) : Checked (Router × Nat) := do
  let r ← s.1.sendToNetwork (env s.2) packet
  return (r, s.2 + 1)

def feedDeviceData [Build] (n : Nat) (c : Client) (env : Nat → Env) (data : List UInt8) : Except Halt Client :=
  match Feed.feedDeviceData (send env) n
    { clientToNetwork := c.clientToNetwork, router := (c.router, 0), count := 0 } data with
  | some (.ok s) => .ok { c with clientToNetwork := s.clientToNetwork, router := s.router.1 }
  | some (.error e) => .error (.panic e)
  | none => .error .feeding

def pollNetworkConnections (c : Client) (p : Poll) : Except Halt Client :=
  match c.router.pollConnections p.now p.closedAt p.answers with
  | .ok router => .ok { c with router }
  | .error e => .error (.panic e)

def cleanExpiredConnections (c : Client) (t : Turn) : Client :=
  if 5 ≤ elapsedSeconds t.now c.lastCleanup then { c with
    router := (c.router.cleanExpiredConnections t.expired t.closedAt).1
    lastCleanup := t.now }
  else c

def drainOutgoing (c : Client) : Client :=
  let (buffer, outgoing) := Relay.drainOutgoing c.router.buffer
  { c with router := { c.router with buffer }, pendingOutgoing := c.pendingOutgoing ++ outgoing }

/-- An error other than a full socket leaves the loop, and the client is not closed. -/
def writePartial (c : Client) (answer : WriteAnswer) : Client :=
  if c.pendingOutgoing = [] then c
  else
    match write answer c.pendingOutgoing with
    | .ok bytes => { c with
        pendingOutgoing := c.pendingOutgoing.drop bytes.length
        written := c.written ++ bytes }
    | .error .wouldBlock => c
    | .error .other => c.leave

/-- A turn behind its read. -/
def serve (c : Client) (t : Turn) : Except Halt Client := do
  let c ← if c.closed then pure c else c.pollNetworkConnections t.polled
  return (c.cleanExpiredConnections t).drainOutgoing.writePartial t.write

def turn [Build] (n : Nat) (c : Client) (t : Turn) : Except Halt Client :=
  if c.closed then .ok c.leave
  else
    match read t.read maxPacketLength with
    | .ok [] => .ok c.close.leave
    | .ok data => do
      let c ← c.feedDeviceData n t.env data
      let c ← c.pollNetworkConnections t.fed
      c.serve t
    | .error .wouldBlock => c.serve t
    | .error .other => .ok c.close.leave

inductive Reachable [Build] : Client → Prop where
  | start (now : Nat) : Reachable { lastCleanup := now }
  | turn {c c' : Client} (reachable : Reachable c) (inside : c.left = false) (n : Nat) (t : Turn)
      (turned : c.turn n t = .ok c') : Reachable c'

/-! ### What a turn does -/

/-- The part of a turn in front of the drain stores packets, and touches neither the queue nor the socket. -/
structure Serves (c mid : Client) : Prop where
  produces : Produces c.router.buffer mid.router.buffer
  pendingOutgoing : mid.pendingOutgoing = c.pendingOutgoing
  written : mid.written = c.written
  left : mid.left = c.left
  closed : mid.closed = c.closed

section Serves
variable {c c' mid : Client}

theorem Serves.refl (c : Client) : Serves c c := ⟨.refl _, rfl, rfl, rfl, rfl⟩

theorem Serves.trans (h : Serves c mid) (h' : Serves mid c') : Serves c c' where
  produces := h.produces.trans h'.produces
  pendingOutgoing := h'.pendingOutgoing.trans h.pendingOutgoing
  written := h'.written.trans h.written
  left := h'.left.trans h.left
  closed := h'.closed.trans h.closed

theorem produces_feed [Build] {env : Nat → Env} {n : Nat} {s s' : Feed (Router × Nat)} {data : List UInt8}
    (fed : Feed.feedDeviceData (send env) n s data = some (.ok s')) : Produces s.router.1.buffer s'.router.1.buffer := by
  unfold Feed.feedDeviceData at fed
  split at fed
  · obtain ⟨last, visits, stops⟩ := visits_of_loop fed
    have turned := Feed.turn_turned (send env) last
    rw [stops] at turned
    cases turned
    refine .row (visits.seen (f := fun s => s.router.1.buffer) fun a b next => ?_)
    have turned := Feed.turn_turned (send env) a
    rw [next] at turned
    cases turned with
    | packet packet version length router buffer found parsed sent consumed size =>
      obtain ⟨r, one, rest⟩ := bind_ok sent
      cases rest
      exact Router.produces_sendToNetwork one
    | skip buffer garbage some consumed size => exact .refl _
  · cases fed
    exact .refl _

theorem feedDeviceData_serves [Build] {n : Nat} {env : Nat → Env} {data : List UInt8}
    (fed : c.feedDeviceData n env data = .ok c') : Serves c c' := by
  unfold feedDeviceData at fed
  split at fed
  · rename_i s one
    cases fed
    exact ⟨produces_feed one, rfl, rfl, rfl, rfl⟩
  · cases fed
  · cases fed

theorem pollNetworkConnections_serves {p : Poll} (polled : c.pollNetworkConnections p = .ok c') : Serves c c' := by
  unfold pollNetworkConnections at polled
  split at polled
  · rename_i router one
    cases polled
    exact ⟨Router.produces_pollConnections one, rfl, rfl, rfl, rfl⟩
  · cases polled

theorem cleanExpiredConnections_serves (c : Client) (t : Turn) : Serves c (c.cleanExpiredConnections t) := by
  unfold cleanExpiredConnections
  split
  · refine ⟨?_, rfl, rfl, rfl, rfl⟩
    dsimp only [Router.cleanExpiredConnections]
    rw [Router.buffer_removes]
    exact .refl _
  · exact .refl c

/-- The result of a turn that goes to its end. -/
def ends (mid : Client) (answer : WriteAnswer) : Client := mid.drainOutgoing.writePartial answer

theorem serve_serves {t : Turn} (served : c.serve t = .ok c') : ∃ mid, Serves c mid ∧ c' = mid.ends t.write := by
  unfold serve at served
  split at served
  · cases served
    exact ⟨_, cleanExpiredConnections_serves c t, rfl⟩
  · obtain ⟨polled, polling, rest⟩ := bind_ok served
    cases rest
    exact ⟨_, (pollNetworkConnections_serves polling).trans (cleanExpiredConnections_serves polled t), rfl⟩

/-- A turn leaves the loop at its top or goes to its end. -/
inductive Turned (c : Client) (t : Turn) : Client → Prop where
  | left (closed : c.closed = true) : Turned c t c.leave
  | closes : Turned c t c.close.leave
  | ends (mid : Client) (serves : Serves c mid) : Turned c t (mid.ends t.write)

theorem turn_turned [Build] {n : Nat} {t : Turn} (turned : c.turn n t = .ok c') : Turned c t c' := by
  unfold turn at turned
  split at turned
  · rename_i closed
    cases turned
    exact .left closed
  · split at turned
    · cases turned
      exact .closes
    · obtain ⟨fed, feeding, rest⟩ := bind_ok turned
      obtain ⟨polled, polling, rest⟩ := bind_ok rest
      obtain ⟨mid, serves, rfl⟩ := serve_serves rest
      exact .ends mid ((feedDeviceData_serves feeding).trans ((pollNetworkConnections_serves polling).trans serves))
    · obtain ⟨mid, serves, rfl⟩ := serve_serves turned
      exact .ends mid serves
    · cases turned
      exact .closes

end Serves

/-! ### The abstract queue -/

/-- The queue in the state of the client. -/
def outgoing (c : Client) (accepted : List (List UInt8)) : Outgoing where
  buffer := c.router.buffer
  pendingOutgoing := c.pendingOutgoing
  accepted := accepted
  written := c.written

/-- A turn that goes to its end is a run of the queue: one event for each packet that the producers hand over in it,
the drain, the write. Any other turn leaves the loop, and the queue as it is. -/
inductive Simulates (c : Client) (t : Turn) (accepted : List (List UInt8)) (c' : Client) : Prop where
  | leaves (left : c'.left = true) (same : c'.outgoing accepted = c.outgoing accepted)
  | ends (packets : List (List UInt8)) (buffer : StreamBuffer) (hands : Hands c.router.buffer packets buffer)
      (events : List Outgoing.Event) (offers : events.map (fun e => e.offered.map Prod.snd) = packets.map some)
      (ran : Lib.run Outgoing.step (c.outgoing accepted) (events ++ [.drain, .writePartial t.write]) =
        c'.outgoing (accepted ++ packets))

section Refinement
variable {c c' mid : Client}

theorem outgoing_writePartial (c : Client) (answer : WriteAnswer) (accepted : List (List UInt8)) :
    (c.writePartial answer).outgoing accepted = (c.outgoing accepted).writePartial answer := by
  unfold writePartial
  split
  · rename_i empty
    cases answer with
    | ok n =>
      rw [Outgoing.writePartial, outgoing, empty, write, List.take_nil]
      simp
    | error e => rfl
  · rw [Outgoing.writePartial, outgoing]
    cases answer with
    | ok n => rfl
    | error e => cases e <;> rfl

theorem outgoing_ends (mid : Client) (answer : WriteAnswer) (accepted : List (List UInt8)) :
    (mid.ends answer).outgoing accepted =
      Lib.run Outgoing.step (mid.outgoing accepted) [.drain, .writePartial answer] :=
  outgoing_writePartial mid.drainOutgoing answer accepted

theorem Turned.simulates {t : Turn} (turned : Turned c t c') (accepted : List (List UInt8)) :
    Simulates c t accepted c' := by
  cases turned with
  | left closed => exact .leaves rfl rfl
  | closes => exact .leaves rfl rfl
  | ends mid serves =>
    obtain ⟨packets, hands⟩ := serves.produces
    obtain ⟨events, offers, ran⟩ := hands.run (c.outgoing accepted) rfl
    refine .ends packets mid.router.buffer hands events offers ?_
    have before : { c.outgoing accepted with buffer := mid.router.buffer, accepted := accepted ++ packets } =
        mid.outgoing (accepted ++ packets) := by
      rw [outgoing, outgoing, serves.pendingOutgoing, serves.written]
    rw [run_append, ran, outgoing_ends, ← before]
    rfl

theorem Simulates.run {t : Turn} {accepted : List (List UInt8)} (simulates : Simulates c t accepted c') :
    ∃ events accepted', Lib.run Outgoing.step (c.outgoing accepted) events = c'.outgoing accepted' := by
  cases simulates with
  | leaves left same => exact ⟨[], accepted, same.symm⟩
  | ends packets buffer hands events offers ran => exact ⟨_, _, ran⟩

/-- The content starts at the front of the array. -/
structure Linear (b : StreamBuffer) : Prop where
  tail : b.tail = 0
  capacity : b.capacity = 64 * maxPacketLength

theorem Linear.produces {b b' : StreamBuffer} (linear : Linear b) (produces : Produces b b') : Linear b' := by
  obtain ⟨packets, hands⟩ := produces
  exact hands.keeps (fun b raw was => ⟨was.tail, (StreamBuffer.capacity_readFrom b raw).trans was.capacity⟩) linear

theorem router_ends (mid : Client) (answer : WriteAnswer) :
    (mid.ends answer).router = { mid.router with buffer := (Relay.drainOutgoing mid.router.buffer).1 } := by
  rw [ends, writePartial]
  split
  · rfl
  · split <;> rfl

/-- Each turn that goes to its end leaves the shared buffer empty. -/
theorem buffer_ends (linear : Linear mid.router.buffer) (answer : WriteAnswer) :
    Linear (mid.ends answer).router.buffer ∧ (mid.ends answer).router.buffer.content = [] := by
  obtain ⟨b', drained, emptied, tail, capacity⟩ := drainOutgoing_linear linear.tail
  rw [router_ends, drained]
  exact ⟨⟨tail, capacity.trans linear.capacity⟩, emptied⟩

/-- The shared buffer is empty between two turns, so that every turn has room for 64 full packets. -/
theorem buffer_empty_between_turns [Build] (reachable : c.Reachable) :
    c.router.buffer.content = [] ∧ c.router.buffer.remaining = 64 * maxPacketLength := by
  have both : Linear c.router.buffer ∧ c.router.buffer.content = [] := by
    induction reachable with
    | start now => exact ⟨⟨rfl, StreamBuffer.capacity_new _⟩, StreamBuffer.content_new _⟩
    | turn _ inside n t turned ih =>
      cases turn_turned turned with
      | left closed => exact ih
      | closes => exact ih
      | ends mid serves => exact buffer_ends (ih.1.produces serves.produces) t.write
  have whole := c.router.buffer.size_add_remaining
  rw [← StreamBuffer.length_content, both.2, List.length_nil, Nat.zero_add, both.1.capacity] at whole
  exact ⟨both.2, whole⟩

/-- A later state of the loop. -/
def Leads [Build] : Client → Client → Prop :=
  Relation.ReflTransGen fun c c' => c.left = false ∧ ∃ n t, c.turn n t = .ok c'

theorem queued_writePartial (c : Client) (answer : WriteAnswer) :
    (c.writePartial answer).written ++ (c.writePartial answer).pendingOutgoing = c.written ++ c.pendingOutgoing ∧
      c.written <+: (c.writePartial answer).written := by
  unfold writePartial
  split
  · exact ⟨rfl, List.prefix_rfl⟩
  · cases answer with
    | ok n =>
      refine ⟨?_, List.prefix_append ..⟩
      dsimp only [write]
      rw [List.append_assoc, List.prefix_iff_eq_append.mp (List.take_prefix n c.pendingOutgoing)]
    | error e => cases e <;> exact ⟨rfl, List.prefix_rfl⟩

/-- What was drained once goes to the socket, in order: no later turn drops it, repeats it or moves it. -/
theorem queue_only_grows [Build] (leads : Leads c c') :
    c.written <+: c'.written ∧ c.written ++ c.pendingOutgoing <+: c'.written ++ c'.pendingOutgoing := by
  induction leads with
  | refl => exact ⟨List.prefix_rfl, List.prefix_rfl⟩
  | tail _ step ih =>
    obtain ⟨_, n, t, turned⟩ := step
    cases turn_turned turned with
    | left closed => exact ih
    | closes => exact ih
    | ends mid serves =>
      obtain ⟨queued, written⟩ := queued_writePartial mid.drainOutgoing t.write
      refine ⟨ih.1.trans ?_, ih.2.trans ?_⟩
      · rw [← serves.written]
        exact written
      · rw [ends, queued, ← serves.written, ← serves.pendingOutgoing]
        show _ <+: mid.written ++ (mid.pendingOutgoing ++ _)
        rw [← List.append_assoc]
        exact List.prefix_append ..

end Refinement

end Client

/-! ### A ping in one turn -/

namespace Sample
open Client

def ping : List UInt8 :=
  [0x45, 0, 0, 28, 0, 0, 0, 0, 64, 1, 0, 0, 10, 0, 0, 2, 8, 8, 8, 8, 8, 0, 0, 0, 0, 1, 0, 1]

theorem ping_wellFormed : WellFormed ping where
  small := by decide
  length := by decide
  minimum := by decide
  header := by decide
  transport := trivial

theorem ping_answered [Build] : ∃ reply, IcmpHandler.buildEchoReply ping = .ok (some reply) ∧ reply.length = 28 := by
  obtain ⟨answer, built, found, spec⟩ := IcmpHandler.echoAnswered ping
  have echo : IcmpHandler.EchoRequest ping := by constructor <;> decide
  obtain ⟨reply, rfl⟩ := Option.isSome_iff_exists.mp (found.mpr echo)
  rw [IcmpHandler.checkedBuildEchoReply_eq] at built
  exact ⟨reply, built, (spec reply rfl).length⟩

def quietPoll : Poll where
  now _ := 0
  closedAt _ := 0
  answers _ := { tcp := {}, udp := { send := fun _ => .error .wouldBlock, read := .error .wouldBlock } }

/-- The device sends a ping, and its socket takes five bytes. -/
def pingTurn : Turn where
  read := .ok ping
  env _ := { now := 0, createdAt := 0, closedAt := 0, opens := fun _ => true, random := 0 }
  fed := quietPoll
  polled := quietPoll
  now := 6 * nanosPerSecond
  expired _ := 0
  closedAt _ := 0
  write := .ok 5

theorem sendAll_ping [Build] (r : Router) : ∃ reply, reply.length = 28 ∧
    Feed.sendAll (send pingTurn.env) (r, 0) [ping] = .ok (r.answer (some reply), 1) := by
  obtain ⟨reply, built, length⟩ := ping_answered
  refine ⟨reply, length, ?_⟩
  have echo : (packetOf ping).isIcmpEchoRequest = true := by decide
  simp only [Feed.sendAll, List.foldlM_cons, List.foldlM_nil, send, Router.sendToNetwork, if_pos echo]
  rw [show (packetOf ping).raw = ping from rfl, built]
  rfl

theorem fed_ping [Build] (c : Client) (start : c.clientToNetwork = .new) : ∃ n reply buffer, reply.length = 28 ∧
    c.feedDeviceData n pingTurn.env ping =
      .ok { c with clientToNetwork := buffer, router := c.router.answer (some reply) } := by
  obtain ⟨reply, length, sent⟩ := sendAll_ping c.router
  have handled : Feed.Handled (send pingTurn.env) [ping] (c.router, 0) 0
      { clientToNetwork := c.clientToNetwork, router := (c.router, 0), count := 0 } := by
    rw [start]
    exact ⟨rfl, rfl, List.length_replicate ..⟩
  obtain ⟨r, ⟨n, fed⟩, result⟩ := Feed.feed_handles (send pingTurn.env)
    (List.forall_mem_singleton.mpr ping_wellFormed) handled (List.prefix_rfl : ping <+: [ping].flatten.drop 0)
    (Nat.zero_le _)
  rw [Feed.room_eq handled.size, handled.held] at result
  change match Feed.sendAll (send pingTurn.env) (c.router, 0) [ping] with
    | .ok router => ∃ s', r = .ok s' ∧ s'.router = router ∧ Feed.Handled _ [ping] _ _ s'
    | .error e => r = .error e at result
  rw [sent] at result
  obtain ⟨s', rfl, router, _⟩ := result
  exact ⟨n, reply, s'.clientToNetwork, length, by simp only [feedDeviceData, fed, router]⟩

theorem pollNetworkConnections_none {c : Client} (none : c.router.connections.keys = []) (p : Poll) :
    c.pollNetworkConnections p = .ok c := by
  rw [pollNetworkConnections, Router.pollConnections, none]
  rfl

theorem pendingOutgoing_drained {c : Client} (linear : c.router.buffer.tail = 0) (empty : c.pendingOutgoing = []) :
    c.drainOutgoing.pendingOutgoing = c.router.buffer.content := by
  obtain ⟨b', drained, _⟩ := drainOutgoing_linear linear
  rw [Client.drainOutgoing, drained, empty]
  rfl

theorem ends_drained {c : Client} (linear : c.router.buffer.tail = 0) (some : c.router.buffer.content ≠ [])
    (empty : c.pendingOutgoing = []) (n : Nat) : (c.ends (.ok n)).written = c.written ++ c.router.buffer.content.take n ∧
      (c.ends (.ok n)).pendingOutgoing = c.router.buffer.content.drop (c.router.buffer.content.take n).length := by
  have pending := pendingOutgoing_drained linear empty
  rw [ends, writePartial, if_neg (by rw [pending]; exact some), pending]
  exact ⟨rfl, rfl⟩

theorem router_clean {c : Client} (none : c.router.connections.keys = []) (t : Turn) :
    (c.cleanExpiredConnections t).router = c.router := by
  unfold cleanExpiredConnections
  split
  · dsimp only [Router.cleanExpiredConnections]
    rw [none]
    rfl
  · rfl

theorem turn_fed [Build] {n : Nat} {c fed : Client} (inside : c.closed = false)
    (feeding : c.feedDeviceData n pingTurn.env ping = .ok fed) (none : fed.router.connections.keys = []) :
    c.turn n pingTurn = .ok ((fed.cleanExpiredConnections pingTurn).ends (.ok 5)) := by
  have served : fed.serve pingTurn = .ok ((fed.cleanExpiredConnections pingTurn).ends (.ok 5)) := by
    rw [serve, pollNetworkConnections_none none]
    split <;> rfl
  rw [turn, if_neg (by rw [inside]; exact Bool.false_ne_true)]
  change (do
    let c ← c.feedDeviceData n pingTurn.env ping
    let c ← c.pollNetworkConnections quietPoll
    c.serve pingTurn) = _
  rw [feeding, ok_bind, pollNetworkConnections_none none, ok_bind, served]

/-- The reply is stored and drained, and the socket takes its first bytes. -/
theorem turn_ping [Build] {c : Client} (start : c.clientToNetwork = .new) (inside : c.closed = false)
    (empty : c.pendingOutgoing = []) (linear : c.router.buffer.tail = 0) (nothing : c.router.buffer.content = [])
    (room : 28 ≤ c.router.buffer.remaining) (none : c.router.connections.keys = []) :
    ∃ n c', ∃ reply : List UInt8, reply.length = 28 ∧ c.turn n pingTurn = .ok c' ∧
      c'.written = c.written ++ reply.take 5 ∧ c'.pendingOutgoing = reply.drop 5 := by
  obtain ⟨n, reply, buffer, length, feeding⟩ := fed_ping c start
  have answered : c.router.answer (some reply) =
      { c.router with buffer := c.router.buffer.readFrom reply } := if_pos (by omega)
  rw [answered] at feeding
  have stored : (c.router.buffer.readFrom reply).content = reply := by
    rw [StreamBuffer.content_readFrom (by omega), nothing, List.nil_append]
  have turned := turn_fed inside feeding none
  generalize made : ({ c with
    clientToNetwork := buffer
    router := { c.router with buffer := c.router.buffer.readFrom reply } } : Client) = fed at turned
  have serves := cleanExpiredConnections_serves fed pingTurn
  have cleaned : (fed.cleanExpiredConnections pingTurn).router.buffer.content = reply := by
    rw [router_clean (by rw [← made]; exact none), ← made]
    exact stored
  obtain ⟨written, pending⟩ := ends_drained (c := fed.cleanExpiredConnections pingTurn)
    (by rw [router_clean (by rw [← made]; exact none), ← made]; exact linear)
    (by rw [cleaned]; exact List.ne_nil_of_length_pos (by omega))
    (by rw [serves.pendingOutgoing, ← made]; exact empty) 5
  have before : fed.written = c.written := by rw [← made]
  rw [cleaned, serves.written, before] at written
  rw [cleaned, List.length_take, length] at pending
  exact ⟨n, _, reply, length, turned, written, pending⟩

theorem first_ping [Build] : ∃ n c, ∃ reply : List UInt8, reply.length = 28 ∧
    Client.turn n { lastCleanup := 0 } pingTurn = .ok c ∧ c.written = reply.take 5 ∧ c.pendingOutgoing = reply.drop 5 :=
  turn_ping rfl rfl rfl rfl (StreamBuffer.content_new _)
    (by dsimp only [Router.new]; rw [StreamBuffer.remaining_new]; decide) rfl

theorem buffer_empty_after_ping :
    let _ : Build := { overflowChecks := true }
    ∃ c : Client, c.written.length = 5 ∧
      c.router.buffer.content = [] ∧ c.router.buffer.remaining = 64 * maxPacketLength := by
  intro _
  obtain ⟨n, c, reply, length, turned, written, _⟩ := first_ping
  refine ⟨c, ?_, buffer_empty_between_turns (.turn (.start 0) rfl n pingTurn turned)⟩
  rw [written, List.length_take, length]
  rfl

theorem queue_grows_by_ping :
    let _ : Build := { overflowChecks := true }
    ∃ c c' : Client, c.written.length = 0 ∧ c'.written.length = 5 ∧
      c.written <+: c'.written ∧ c.written ++ c.pendingOutgoing <+: c'.written ++ c'.pendingOutgoing := by
  intro _
  obtain ⟨n, c, reply, length, turned, written, _⟩ := first_ping
  refine ⟨_, c, rfl, ?_, queue_only_grows (.single ⟨rfl, n, pingTurn, turned⟩)⟩
  rw [written, List.length_take, length]
  rfl

end Sample
end Gnirehtet.Relay
