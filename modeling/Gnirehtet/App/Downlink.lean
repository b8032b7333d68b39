import Gnirehtet.App.Sinking
import Gnirehtet.Relay.Client
import Mathlib.Data.List.Infix

/-!
# From the relay to the device

A session is one thread of the relay and one tunnel of the device: the thread writes the client id and then
what it drains, the device reads the id and forwards the rest. The stream that cuts the bytes at packet
boundaries outlives the sessions. A session that ends loses what the device has not read by then.
-/

namespace Gnirehtet.App
open Lib Relay

/-- `offset` is that of `write_all`. The device has read the first `read` bytes. -/
structure Session where
  id : UInt32
  offset : Nat := 0
  outgoing : Outgoing := .start
  ended : Bool := false
  read : Nat := 0

namespace Session

def idBytes (s : Session) : List UInt8 := beBytes32 s.id

/-- What the relay has written to its socket. -/
def link (s : Session) : List UInt8 := s.idBytes.take s.offset ++ s.outgoing.written

/-- What the device has read behind the client id. -/
def delivered (s : Session) : List UInt8 := (s.link.drop 4).take (s.read - 4)

/-- The packets that have arrived whole, and the part of the next one. -/
def received (s : Session) : List (List UInt8) := completed s.outgoing.accepted (s.read - 4)

def cutOff (s : Session) : List UInt8 := leftover s.outgoing.accepted (s.read - 4)

/-- A turn of `write_all`. A write of no bytes is an error too. -/
def writeAll (s : Session) (answer : WriteAnswer) : Session :=
  match Relay.write answer (s.idBytes.drop s.offset) with
  | .ok [] => { s with ended := true }
  | .ok bytes => { s with offset := s.offset + bytes.length }
  | .error .wouldBlock => s
  | .error .other => { s with ended := true }

/-- What happens in the main loop. A write error leaves it. -/
def loop (s : Session) (event : Outgoing.Event) : Session :=
  match event with
  | .writePartial (.error .other) => { s with ended := true }
  | _ => { s with outgoing := s.outgoing.step event }

end Session

structure Downlink where
  session : Session
  earlier : List Session := []
  calls : List IpPacketOutputStream.Call := []

namespace Downlink

inductive Event where
  | writeAll (answer : WriteAnswer)
  | loop (event : Outgoing.Event)
  /-- `readInt` takes bytes of the client id. -/
  | readClientId (n : Nat)
  /-- `receive` returns, with what the array held before behind the new bytes. -/
  | receive (n : Nat) (stale : List UInt8)
  | reconnect (id : UInt32)

def bufsize : Nat := 0x10000

/-- The bytes that `receive` returns when `n` are ready. -/
def chunk (s : Session) (n : Nat) : List UInt8 := (s.link.drop s.read).take (min n bufsize)

def call (s : Session) (n : Nat) (stale : List UInt8) : IpPacketOutputStream.Call where
  b := chunk s n ++ stale
  off := 0
  len := (chunk s n).length
  inside := by rw [List.length_append]; omega

def step (d : Downlink) : Event → Downlink
  | .writeAll answer =>
    if d.session.ended = false ∧ d.session.offset < 4 then { d with session := d.session.writeAll answer } else d
  | .loop event =>
    if d.session.ended = false ∧ d.session.offset = 4 then { d with session := d.session.loop event } else d
  | .readClientId n =>
    { d with session := { d.session with
      read := d.session.read + min (min n (4 - d.session.read)) (d.session.link.length - d.session.read) } }
  | .receive n stale =>
    -- an empty read is not written
    if 4 ≤ d.session.read ∧ chunk d.session n ≠ [] then { d with
      session := { d.session with read := d.session.read + (chunk d.session n).length }
      calls := d.calls ++ [call d.session n stale] }
    else d
  | .reconnect id => { d with session := { id }, earlier := d.earlier ++ [d.session] }

/-- A packet is stored whose bytes outnumber the room that its stated length was checked against. -/
def Overruns (d : Downlink) : Event → Prop
  | .loop event => d.session.outgoing.Overruns event
  | _ => False

/-! ### What every event keeps -/

/-- The thread writes the id first, and the device has read no more than what was written. -/
structure Ordered (s : Session) : Prop where
  sound : s.outgoing.Sound
  offset : s.offset ≤ 4
  idFirst : s.offset < 4 → s.outgoing = .start
  read : s.read ≤ s.link.length

structure Faithful (d : Downlink) : Prop where
  session : Ordered d.session
  earlier : ∀ s ∈ d.earlier, Ordered s
  calls : (d.calls.map IpPacketOutputStream.Call.chunk).flatten =
    (d.earlier.map Session.delivered).flatten ++ d.session.delivered
  short : ∀ c ∈ d.calls, c.len ≤ maxIpPacketLength

section Ordered
variable {s s' : Session} {event : Outgoing.Event}

theorem ordered_new (id : UInt32) : Ordered { id } where
  sound := Outgoing.sound_start
  offset := Nat.zero_le 4
  idFirst _ := rfl
  read := Nat.zero_le _

theorem length_idBytes_take (ordered : Ordered s) : (s.idBytes.take s.offset).length = s.offset := by
  rw [List.length_take, Session.idBytes, length_beBytes32, Nat.min_eq_left ordered.offset]

theorem Ordered.length_link (ordered : Ordered s) : s.link.length = s.offset + s.outgoing.written.length := by
  rw [Session.link, List.length_append, length_idBytes_take ordered]

/-- Nothing but the id is written before the id is. -/
theorem Ordered.drop_link (ordered : Ordered s) : s.link.drop 4 = s.outgoing.written := by
  by_cases whole : s.offset = 4
  · have front := length_idBytes_take ordered
    rw [whole] at front
    rw [Session.link, whole, List.drop_append, List.drop_of_length_le (Nat.le_of_eq front), front]
    rfl
  · have offset := ordered.offset
    have nothing : s.outgoing.written = [] := by
      rw [ordered.idFirst (by omega)]
      rfl
    rw [nothing, List.drop_eq_nil_of_le]
    rw [ordered.length_link, nothing, List.length_nil]
    omega

theorem Ordered.link_take (ordered : Ordered s) (past : 4 ≤ s.read) : s.link.take 4 = beBytes32 s.id := by
  have read := ordered.read
  have whole : s.offset = 4 := by
    have offset := ordered.offset
    by_cases unfinished : s.offset < 4
    · have nothing : s.outgoing.written = [] := by
        rw [ordered.idFirst unfinished]
        rfl
      rw [ordered.length_link, nothing, List.length_nil] at read
      omega
    · omega
  rw [Session.link, whole]
  exact @List.take_left _ (beBytes32 s.id) _

theorem Ordered.delivered_eq (ordered : Ordered s) : s.delivered = s.outgoing.written.take (s.read - 4) := by
  rw [Session.delivered, ordered.drop_link]

theorem Ordered.read_le (ordered : Ordered s) : s.read - 4 ≤ s.outgoing.written.length := by
  have := ordered.read
  have := ordered.offset
  rw [ordered.length_link] at *
  omega

theorem Ordered.length_delivered (ordered : Ordered s) : s.delivered.length = s.read - 4 := by
  rw [ordered.delivered_eq, List.length_take, Nat.min_eq_left ordered.read_le]

theorem Ordered.written_prefix (ordered : Ordered s) : s.outgoing.written <+: s.outgoing.accepted.flatten := by
  rw [← ordered.sound.stream, List.append_assoc]
  exact List.prefix_append ..

theorem Ordered.delivered_take (ordered : Ordered s) :
    s.delivered = s.outgoing.accepted.flatten.take (s.read - 4) := by
  obtain ⟨rest, whole⟩ := ordered.written_prefix
  rw [ordered.delivered_eq, ← whole, List.take_append_of_le_length ordered.read_le]

/-- What was read stays the same when more is written. -/
theorem delivered_grows (ordered : Ordered s) (ordered' : Ordered s') (read : s'.read = s.read)
    (grows : s.outgoing.written <+: s'.outgoing.written) : s'.delivered = s.delivered := by
  obtain ⟨more, whole⟩ := grows
  rw [ordered'.delivered_eq, ordered.delivered_eq, read, ← whole, List.take_append_of_le_length ordered.read_le]

theorem ordered_writeAll (answer : WriteAnswer) (ordered : Ordered s) (unfinished : s.offset < 4) :
    Ordered (s.writeAll answer) ∧ (s.writeAll answer).read = s.read ∧
      (s.writeAll answer).outgoing = s.outgoing := by
  unfold Session.writeAll
  split
  · exact ⟨⟨ordered.sound, ordered.offset, ordered.idFirst, ordered.read⟩, rfl, rfl⟩
  · rename_i bytes _ wrote
    have inside : bytes.length ≤ 4 - s.offset := by
      cases answer with
      | ok n =>
        cases wrote
        rw [List.length_take, List.length_drop, Session.idBytes, length_beBytes32]
        omega
      | error e => cases wrote
    have start := ordered.idFirst unfinished
    refine ⟨⟨ordered.sound, by dsimp only; omega, fun _ => start, ?_⟩, rfl, rfl⟩
    have read := ordered.read
    rw [ordered.length_link] at read
    dsimp only
    rw [Session.link, List.length_append, List.length_take, Session.idBytes, length_beBytes32]
    dsimp only
    omega
  · exact ⟨ordered, rfl, rfl⟩
  · exact ⟨⟨ordered.sound, ordered.offset, ordered.idFirst, ordered.read⟩, rfl, rfl⟩

theorem written_step (o : Outgoing) (event : Outgoing.Event) : o.written <+: (o.step event).written := by
  rcases o.step_cases event with ⟨raw, passes⟩ | same | rfl | ⟨answer, rfl⟩
  · rw [Outgoing.step_passes passes]
  · rw [same]
  · exact List.prefix_rfl
  · cases answer with
    | ok n => exact List.prefix_append ..
    | error e => exact List.prefix_rfl

theorem ordered_loop (ordered : Ordered s) (started : s.offset = 4) (fits : ¬ s.outgoing.Overruns event) :
    Ordered (s.loop event) ∧ (s.loop event).read = s.read ∧
      s.outgoing.written <+: (s.loop event).outgoing.written := by
  unfold Session.loop
  split
  · exact ⟨⟨ordered.sound, ordered.offset, ordered.idFirst, ordered.read⟩, rfl, List.prefix_rfl⟩
  · have grows := written_step s.outgoing event
    refine ⟨⟨ordered.sound.step fits, ordered.offset, fun unfinished => ?_, ?_⟩, rfl, grows⟩
    · dsimp only at unfinished
      omega
    · have read := ordered.read
      have length := grows.length_le
      rw [ordered.length_link] at read
      dsimp only
      rw [Session.link, List.length_append]
      have front := length_idBytes_take ordered
      dsimp only [Session.idBytes] at front ⊢
      omega

theorem chunk_eq (ordered : Ordered s) (past : 4 ≤ s.read) (n : Nat) :
    chunk s n = (s.outgoing.written.drop (s.read - 4)).take (min n bufsize) := by
  rw [chunk, ← ordered.drop_link, List.drop_drop, show 4 + (s.read - 4) = s.read by omega]

theorem ordered_receive (ordered : Ordered s) (past : 4 ≤ s.read) (n : Nat) :
    let s' := { s with read := s.read + (chunk s n).length }
    Ordered s' ∧ s'.delivered = s.delivered ++ chunk s n := by
  intro s'
  have ordered' : Ordered s' := by
    refine ⟨ordered.sound, ordered.offset, ordered.idFirst, ?_⟩
    have := ordered.read
    have inside : (chunk s n).length ≤ s.link.length - s.read := by
      rw [chunk, List.length_take, List.length_drop]
      omega
    show s.read + (chunk s n).length ≤ s.link.length
    omega
  refine ⟨ordered', ?_⟩
  have more := chunk_eq ordered past n
  have again : (s.outgoing.written.drop (s.read - 4)).take (chunk s n).length = chunk s n := by
    rw [more]
    exact (List.prefix_iff_eq_take.mp (List.take_prefix ..)).symm
  have length : s'.read - 4 = s.read - 4 + (chunk s n).length := by
    show s.read + _ - 4 = _
    omega
  rw [ordered'.delivered_eq, ordered.delivered_eq, length, List.take_add]
  exact congrArg _ again

end Ordered

/-- Only the session and the calls change, and the bytes of the new call are those that the device read. -/
theorem Faithful.update {d : Downlink} (faithful : d.Faithful) {s : Session} (ordered : Ordered s)
    {m : List IpPacketOutputStream.Call} (delivered : s.delivered = d.session.delivered ++ (m.map (·.chunk)).flatten)
    (short : ∀ c ∈ m, c.len ≤ maxIpPacketLength) :
    Faithful { d with session := s, calls := d.calls ++ m } where
  session := ordered
  earlier := faithful.earlier
  calls := by
    rw [List.map_append, List.flatten_append, faithful.calls, delivered, List.append_assoc]
  short c member := by
    obtain old | new := List.mem_append.mp member
    · exact faithful.short c old
    · exact short c new

theorem Faithful.same {d : Downlink} (faithful : d.Faithful) {s : Session} (ordered : Ordered s)
    (delivered : s.delivered = d.session.delivered) : Faithful { d with session := s } := by
  have updated : Faithful { d with session := s, calls := d.calls ++ [] } :=
    faithful.update ordered (by rw [delivered]; simp) nofun
  rwa [List.append_nil] at updated

theorem chunk_call (s : Session) (n : Nat) (stale : List UInt8) : (call s n stale).chunk = chunk s n := by
  rw [IpPacketOutputStream.Call.chunk, call, List.drop_zero, List.take_left]

theorem Faithful.step {d : Downlink} (faithful : d.Faithful) {event : Event} (fits : ¬ d.Overruns event) :
    (d.step event).Faithful := by
  have ordered := faithful.session
  cases event with
  | writeAll answer =>
    rw [Downlink.step]
    split
    · rename_i running
      obtain ⟨ordered', read, outgoing⟩ := ordered_writeAll answer ordered running.2
      exact faithful.same ordered' (delivered_grows ordered ordered' read (outgoing ▸ List.prefix_rfl))
    · exact faithful
  | loop event =>
    rw [Downlink.step]
    split
    · rename_i running
      obtain ⟨ordered', read, grows⟩ := ordered_loop ordered running.2 fits
      exact faithful.same ordered' (delivered_grows ordered ordered' read grows)
    · exact faithful
  | readClientId n =>
    have read := ordered.read
    refine faithful.same ⟨ordered.sound, ordered.offset, ordered.idFirst, ?_⟩ ?_
    · show d.session.read + _ ≤ d.session.link.length
      omega
    · show (d.session.link.drop 4).take _ = (d.session.link.drop 4).take _
      by_cases past : 4 ≤ d.session.read
      · congr 1
        dsimp only
        omega
      · congr 1
        dsimp only
        omega
  | receive n stale =>
    rw [Downlink.step]
    split
    · rename_i ready
      obtain ⟨ordered', delivered⟩ := ordered_receive ordered ready.1 n
      refine faithful.update ordered' (m := [call d.session n stale]) ?_ fun c member => ?_
      · rw [delivered, List.map_singleton, List.flatten_singleton, chunk_call]
      · cases List.mem_singleton.mp member
        have : (chunk d.session n).length ≤ bufsize := by
          rw [chunk, List.length_take]
          omega
        exact this
    · exact faithful
  | reconnect id =>
    refine ⟨ordered_new id, fun s member => ?_, ?_, faithful.short⟩
    · obtain old | new := List.mem_append.mp member
      · exact faithful.earlier s old
      · cases List.mem_singleton.mp new
        exact ordered
    · have nothing : Session.delivered { id } = [] := by
        rw [(ordered_new id).delivered_eq]
        rfl
      show (d.calls.map _).flatten = ((d.earlier ++ [d.session]).map _).flatten ++ Session.delivered { id }
      rw [faithful.calls, nothing, List.map_append, List.flatten_append, List.append_nil, List.map_singleton,
        List.flatten_singleton]

/-- A state that some run reaches in which every packet fits. -/
def Reachable (d : Downlink) : Prop :=
  ∃ id events, Along step (fun d event => ¬ d.Overruns event) { session := { id } } events ∧
    run step { session := { id } } events = d

theorem Reachable.faithful {d : Downlink} (reachable : d.Reachable) : d.Faithful := by
  obtain ⟨id, events, fits, rfl⟩ := reachable
  have start : Faithful { session := { id } } := by
    refine ⟨ordered_new id, nofun, ?_, nofun⟩
    rw [(ordered_new id).delivered_eq]
    rfl
  exact run_invariant (fun d event faithful fits => faithful.step fits) start fits

/-! ### What the device writes -/

open IpPacketOutputStream (Framed WritesAll)

theorem Ordered.delivered_split {s : Session} (ordered : Ordered s) : s.delivered = s.received.flatten ++ s.cutOff := by
  rw [ordered.delivered_take, take_eq]
  rfl

/-- Sessions that end at a packet boundary deliver whole packets. -/
theorem delivered_whole {sessions : List Session} (ordered : ∀ s ∈ sessions, Ordered s)
    (boundary : ∀ s ∈ sessions, s.cutOff = []) :
    (sessions.map Session.delivered).flatten = (sessions.map Session.received).flatten.flatten := by
  induction sessions with
  | nil => rfl
  | cons s rest ih =>
    have here : s.delivered = s.received.flatten := by
      rw [(ordered s List.mem_cons_self).delivered_split, boundary s List.mem_cons_self, List.append_nil]
    have later := ih (fun t member => ordered t (List.mem_cons_of_mem s member))
      (fun t member => boundary t (List.mem_cons_of_mem s member))
    rw [List.map_cons, List.flatten_cons, here, later, List.map_cons, List.flatten_cons, List.flatten_append]

/-- The calls on a stream of packets of which `whole` have come, and a part of `rest`. -/
theorem Faithful.writes {d : Downlink} (faithful : d.Faithful) {whole r : List (List UInt8)} {part : List UInt8}
    (calls : (d.calls.map (·.chunk)).flatten = whole.flatten ++ part) (front : part <+: r.flatten)
    (framed : ∀ p ∈ whole ++ r, Framed p) :
    ∃ o, WritesAll .new d.calls o ∧ o.target = whole ++ completed r part.length := by
  have next : (d.calls.map (·.chunk)).flatten <+: (whole ++ r).flatten.drop 0 := by
    rw [calls, List.drop_zero, List.flatten_append]
    exact (List.prefix_append_right_inj _).mpr front
  obtain ⟨o, writes, holds⟩ := IpPacketOutputStream.writesAll_holds framed faithful.short
    (IpPacketOutputStream.holds_new framed) (Nat.zero_le _) next
  refine ⟨o, writes, ?_⟩
  rw [holds.target, calls, Nat.zero_add, List.length_append, completed_append]

/-- When more than the packets has come, they were all written before the call that brought their last byte
went on. -/
theorem Faithful.sinks {d : Downlink} (faithful : d.Faithful) {packets : List (List UInt8)}
    (framed : ∀ p ∈ packets, Framed p) (some : packets.flatten ≠ []) {behind : List UInt8}
    (calls : (d.calls.map (·.chunk)).flatten = packets.flatten ++ behind) :
    ∃ first call rest, d.calls = first ++ call :: rest ∧ ∃ o, WritesAll .new first o ∧
      ∃ a, o.Sinks call a ∧ a.target = packets := by
  have positive := List.length_pos_iff.mpr some
  have inside : packets.flatten.length - 1 < (d.calls.map (·.chunk)).flatten.length := by
    rw [calls, List.length_append]
    omega
  obtain ⟨first, call, rest, parts, before, within⟩ := exists_crossing _ inside
  refine ⟨first, call, rest, parts, ?_⟩
  have short := faithful.short
  rw [parts] at short
  have whole : (first.map (·.chunk)).flatten ++ (call.chunk ++ (rest.map (·.chunk)).flatten) =
      packets.flatten ++ behind := by
    rw [← calls, parts, List.map_append, List.map_cons, List.flatten_append, List.flatten_cons]
  have front : (first.map (·.chunk)).flatten <+: packets.flatten :=
    List.prefix_of_prefix_length_le ⟨_, whole⟩ (List.prefix_append ..) (by omega)
  obtain ⟨o, writes, holds⟩ := IpPacketOutputStream.writesAll_holds framed
    (fun c member => short c (List.mem_append_left _ member)) (IpPacketOutputStream.holds_new framed) (Nat.zero_le _)
    (by rwa [List.drop_zero])
  rw [Nat.zero_add] at holds
  have brings : packets.flatten.drop (first.map (·.chunk)).flatten.length <+: call.chunk := by
    have later := congrArg (List.drop (first.map (·.chunk)).flatten.length) whole
    rw [List.drop_left, List.drop_append_of_le_length front.length_le] at later
    refine List.prefix_of_prefix_length_le ⟨behind, later.symm⟩ (List.prefix_append ..) ?_
    rw [List.length_drop]
    omega
  exact ⟨o, writes, IpPacketOutputStream.sinks_whole framed holds front.length_le
    (short call (List.mem_append_right _ List.mem_cons_self)) brings⟩

theorem received_framed {sessions : List Session}
    (framed : ∀ s ∈ sessions, ∀ p ∈ s.outgoing.accepted, Framed p) :
    ∀ p ∈ (sessions.map Session.received).flatten, Framed p := by
  intro p member
  obtain ⟨_, list, inside⟩ := List.mem_flatten.mp member
  obtain ⟨s, there, rfl⟩ := List.mem_map.mp list
  refine framed s there p ?_
  rw [← completed_append_missing s.outgoing.accepted (s.read - 4)]
  exact List.mem_append_left _ inside

/-- When every session before the present one has ended at a packet boundary, the device has written the
packets that the relay accepted for it, whole and in order, up to what each session delivered. The client id
that it read in each is the relay's. -/
theorem sessions_exact {d : Downlink} (reachable : d.Reachable)
    (framed : ∀ s ∈ d.earlier ++ [d.session], ∀ p ∈ s.outgoing.accepted, Framed p)
    (boundary : ∀ s ∈ d.earlier, s.cutOff = []) :
    (∃ o, WritesAll .new d.calls o ∧ o.target = ((d.earlier ++ [d.session]).map Session.received).flatten) ∧
      ∀ s ∈ d.earlier ++ [d.session], 4 ≤ s.read → s.link.take 4 = beBytes32 s.id := by
  have faithful := reachable.faithful
  have ordered := faithful.session
  have packets : ∀ p ∈ (d.earlier.map Session.received).flatten ++ d.session.outgoing.accepted, Framed p := by
    intro p member
    obtain old | new := List.mem_append.mp member
    · exact received_framed (fun s there => framed s (List.mem_append_left _ there)) p old
    · exact framed d.session (List.mem_append_right _ (List.mem_singleton_self _)) p new
  obtain ⟨o, writes, target⟩ := faithful.writes
    (faithful.calls.trans (congrArg (· ++ _) (delivered_whole faithful.earlier boundary)))
    (by rw [ordered.delivered_take]; exact List.take_prefix ..) packets
  refine ⟨⟨o, writes, ?_⟩, fun s member past => ?_⟩
  · rw [target, ordered.length_delivered, List.map_append, List.flatten_append, List.map_singleton,
      List.flatten_singleton, Session.received]
  · obtain old | new := List.mem_append.mp member
    · exact (faithful.earlier s old).link_take past
    · cases List.mem_singleton.mp new
      exact ordered.link_take past

/-- A packet with another end has the same header, and states the same length. -/
theorem framed_spliced {p part behind : List UInt8} (framed : Framed p) (front : part <+: p) (header : 6 ≤ part.length)
    (fills : part.length + behind.length = p.length) : Framed (part ++ behind) := by
  obtain ⟨rest, whole⟩ := front
  have length : (part ++ behind).length = p.length := by rw [List.length_append, fills]
  have stated : statedLength (part ++ behind) = statedLength p := by
    refine Packetizer.statedLength_congr fun i small => ?_
    rw [byteAt_append_left (by omega), ← whole, byteAt_append_left (by omega)]
  exact ⟨by rw [stated, framed.stated, length], length ▸ framed.long, length ▸ framed.small⟩

/-- A packet that a session cut off behind its length field is completed by the first bytes of the next one: in some
call the mixture has been written behind the packets before it, whatever is brought later. -/
theorem reconnection_splices {d : Downlink} (reachable : d.Reachable) {before : List Session} {s : Session}
    (earlier : d.earlier = before ++ [s]) (boundary : ∀ t ∈ before, t.cutOff = [])
    (framed : ∀ t ∈ before ++ [s], ∀ p ∈ t.outgoing.accepted, Framed p) {p : List UInt8} {later : List (List UInt8)}
    (cut : missing s.outgoing.accepted (s.read - 4) = p :: later) (header : 6 ≤ s.cutOff.length)
    (fills : p.length ≤ s.cutOff.length + d.session.delivered.length) :
    ∃ first call rest, d.calls = first ++ call :: rest ∧ ∃ o, WritesAll .new first o ∧ ∃ a, o.Sinks call a ∧
      a.target = ((before ++ [s]).map Session.received).flatten ++
        [s.cutOff ++ d.session.delivered.take (p.length - s.cutOff.length)] := by
  have faithful := reachable.faithful
  have ordered : ∀ t ∈ before ++ [s], Ordered t := earlier ▸ faithful.earlier
  have last := List.mem_append_right before (List.mem_singleton_self s)
  have inAccepted : p ∈ s.outgoing.accepted := by
    rw [← completed_append_missing s.outgoing.accepted (s.read - 4), cut]
    exact List.mem_append_right _ List.mem_cons_self
  let rest := d.session.delivered.take (p.length - s.cutOff.length)
  let packets := ((before ++ [s]).map Session.received).flatten ++ [s.cutOff ++ rest]
  have lengths : s.cutOff.length + rest.length = p.length := by
    have shorter := (leftover_short cut).2
    rw [List.length_take]
    dsimp only [Session.cutOff] at *
    omega
  have spliced := framed_spliced (framed s last p inAccepted) (leftover_short cut).1 header lengths
  have framed' : ∀ q ∈ packets, Framed q := by
    intro q member
    obtain old | new := List.mem_append.mp member
    · exact received_framed framed q old
    · cases List.mem_singleton.mp new
      exact spliced
  have calls : (d.calls.map (·.chunk)).flatten =
      packets.flatten ++ d.session.delivered.drop (p.length - s.cutOff.length) := by
    have whole := delivered_whole (fun t member => ordered t (List.mem_append_left _ member)) boundary
    have split := List.take_append_drop (p.length - s.cutOff.length) d.session.delivered
    rw [faithful.calls, earlier, List.map_append, List.flatten_append, whole, List.map_singleton,
      List.flatten_singleton, (ordered s last).delivered_split]
    conv => lhs; rw [← split]
    simp only [packets, rest, List.map_append, List.flatten_append, List.map_singleton, List.flatten_singleton,
      List.append_assoc]
  have ends : packets.flatten ≠ [] := fun nothing =>
    spliced.append_ne_nil [] (by
      rw [List.append_nil]
      exact List.flatten_eq_nil_iff.mp nothing _ (List.mem_append_right _ (List.mem_singleton_self _)))
  exact faithful.sinks framed' ends calls

end Downlink

namespace Sample
open Downlink

/-- The relay accepts one packet, and its socket takes `n` bytes of it. -/
def partly (n : Nat) : List Outgoing.Event := [.sendRawToClient ipv4Packet, .drain, .writePartial (.ok n)]

theorem run_partly (n : Nat) : (run Outgoing.step .start (partly n)).accepted = [ipv4Packet] ∧
    (run Outgoing.step .start (partly n)).written = ipv4Packet.take n := by
  have room : Outgoing.start.buffer.remaining = 64 * maxPacketLength := StreamBuffer.remaining_new _
  have fits : ipv4Packet.length ≤ Outgoing.start.buffer.remaining := by
    rw [room]
    decide
  have passes : Outgoing.start.Passes (.sendRawToClient ipv4Packet) ipv4Packet := ⟨_, rfl, fits⟩
  have notOver : ¬ Outgoing.start.Overruns (.sendRawToClient ipv4Packet) := by
    rintro ⟨raw, ⟨length, offered, _⟩, long⟩
    cases offered
    omega
  have sound := Outgoing.sound_start.step notOver
  rw [Outgoing.step_passes passes] at sound
  obtain ⟨b', drained, -, -, -⟩ := drainOutgoing_linear sound.linear
  have content : (Outgoing.start.buffer.readFrom ipv4Packet).content = ipv4Packet := by
    rw [StreamBuffer.content_readFrom fits]
    rfl
  rw [content] at drained
  rw [partly, run_cons, run_cons, run_cons, run_nil, Outgoing.step_passes passes, Outgoing.step, Outgoing.drain, drained]
  exact ⟨rfl, rfl⟩

def oneSession (n : Nat) : List Downlink.Event :=
  .writeAll (.ok 4) :: (partly n).map .loop ++ [.readClientId 4, .receive bufsize []]

theorem fits_oneSession (d : Downlink) (n : Nat) : Along step (fun d event => ¬ d.Overruns event) d (oneSession n) := by
  have raw (o : Outgoing) : ¬ o.Overruns (.sendRawToClient ipv4Packet) := by
    rintro ⟨_, ⟨_, offered, fits⟩, long⟩
    cases offered
    omega
  have none (o : Outgoing) {event : Outgoing.Event} (offered : event.offered = none) : ¬ o.Overruns event := by
    rintro ⟨_, ⟨_, same, _⟩, _⟩
    rw [offered] at same
    cases same
  exact ⟨id, raw _, none _ rfl, none _ rfl, id, id, trivial⟩

theorem step_loop {d : Downlink} (running : d.session.ended = false ∧ d.session.offset = 4) (event : Outgoing.Event) :
    d.step (.loop event) = { d with session := d.session.loop event } := if_pos running

theorem step_writeAll {d : Downlink} (unfinished : d.session.ended = false ∧ d.session.offset < 4)
    (answer : WriteAnswer) : d.step (.writeAll answer) = { d with session := d.session.writeAll answer } :=
  if_pos unfinished

theorem run_relay (id : UInt32) (o : Outgoing) (n : Nat) (earlier : List Session)
    (calls : List IpPacketOutputStream.Call) :
    run step { session := { id, outgoing := o }, earlier, calls } (.writeAll (.ok 4) :: (partly n).map .loop) =
      { session := { id, offset := 4, outgoing := run Outgoing.step o (partly n) }, earlier, calls } := by
  have named : Session.writeAll { id, outgoing := o } (.ok 4) = { id, offset := 4, outgoing := o } := rfl
  rw [run_cons, step_writeAll ⟨rfl, Nat.zero_lt_succ 3⟩, named]
  simp only [partly, List.map_cons, List.map_nil, run_cons, run_nil]
  rw [step_loop ⟨rfl, rfl⟩, step_loop ⟨rfl, rfl⟩, step_loop ⟨rfl, rfl⟩]
  rfl

theorem run_device (id : UInt32) {o : Outgoing} {n : Nat} (written : o.written = ipv4Packet.take n) (some : 0 < n)
    (small : n ≤ 20) (earlier : List Session) (calls : List IpPacketOutputStream.Call) : ∃ c,
    run step { session := { id, offset := 4, outgoing := o }, earlier, calls } [.readClientId 4, .receive bufsize []] =
      { session := { id, offset := 4, outgoing := o, read := 4 + n }, earlier, calls := calls ++ [c] } := by
  have link (read : Nat) : Session.link { id, offset := 4, outgoing := o, read } = beBytes32 id ++ ipv4Packet.take n :=
    congrArg (beBytes32 id ++ ·) written
  have whole : (ipv4Packet.take n).length = n := by
    rw [List.length_take]
    exact Nat.min_eq_left small
  have idRead : step { session := { id, offset := 4, outgoing := o }, earlier, calls } (.readClientId 4) =
      { session := { id, offset := 4, outgoing := o, read := 4 }, earlier, calls } := by
    rw [step, link 0, List.length_append, whole, length_beBytes32]
    dsimp only
    rw [show 0 + min (min 4 (4 - 0)) (4 + n - 0) = 4 by omega]
  have bytes : chunk { id, offset := 4, outgoing := o, read := 4 } bufsize = ipv4Packet.take n := by
    rw [chunk, link 4, List.drop_left' (length_beBytes32 id), List.take_of_length_le]
    rw [whole, bufsize]
    omega
  have ready : 4 ≤ 4 ∧ chunk { id, offset := 4, outgoing := o, read := 4 } bufsize ≠ [] := by
    refine ⟨Nat.le_refl 4, fun empty => ?_⟩
    rw [bytes] at empty
    rw [empty] at whole
    exact absurd whole.symm (Nat.ne_of_gt some)
  refine ⟨call { id, offset := 4, outgoing := o, read := 4 } bufsize [], ?_⟩
  rw [run_cons, idRead, run_cons, run_nil, step, if_pos ready, bytes, whole]

theorem run_oneSession (id : UInt32) {n : Nat} (some : 0 < n) (small : n ≤ 20) (earlier : List Session)
    (calls : List IpPacketOutputStream.Call) : ∃ c, run step { session := { id }, earlier, calls } (oneSession n) =
      { session := { id, offset := 4, outgoing := run Outgoing.step .start (partly n), read := 4 + n }
        earlier
        calls := calls ++ [c] } := by
  obtain ⟨c, device⟩ := run_device id (run_partly n).2 some small earlier calls
  refine ⟨c, ?_⟩
  rw [oneSession, run_append, run_relay, device]

/-- Two sessions, of which the first delivers `n` bytes of its packet and the second `m`. -/
theorem two_sessions {n m : Nat} (some : 0 < n ∧ 0 < m) (small : n ≤ 20 ∧ m ≤ 20) : ∃ d : Downlink, d.Reachable ∧
    d.earlier = [{ id := 1, offset := 4, outgoing := run Outgoing.step .start (partly n), read := 4 + n }] ∧
    d.session = { id := 2, offset := 4, outgoing := run Outgoing.step .start (partly m), read := 4 + m } := by
  obtain ⟨c, first⟩ := run_oneSession 1 some.1 small.1 [] []
  obtain ⟨c', second⟩ := run_oneSession 2 some.2 small.2
    [{ id := 1, offset := 4, outgoing := run Outgoing.step .start (partly n), read := 4 + n }] ([] ++ [c])
  refine ⟨_, ⟨1, oneSession n ++ .reconnect 2 :: oneSession m, ?_, rfl⟩, ?_⟩
  · rw [along_append]
    exact ⟨fits_oneSession _ n, id, fits_oneSession _ m⟩
  · rw [run_append, first, run_cons]
    exact ⟨congrArg Downlink.earlier second, congrArg Downlink.session second⟩

theorem partly_framed {n : Nat} : ∀ p ∈ (run Outgoing.step .start (partly n)).accepted, IpPacketOutputStream.Framed p := by
  rw [(run_partly n).1]
  exact fun p member => packets_framed p (List.mem_cons.mpr (Or.inl (List.mem_singleton.mp member)))

/-- One packet in each session, the second of which is still on its way. -/
theorem two_sessions_exact : ∃ d : Downlink, (∃ o, IpPacketOutputStream.WritesAll .new d.calls o ∧
    o.target = ((d.earlier ++ [d.session]).map Session.received).flatten) ∧
      ∀ s ∈ d.earlier ++ [d.session], 4 ≤ s.read → s.link.take 4 = beBytes32 s.id := by
  obtain ⟨d, reachable, earlier, session⟩ := two_sessions (n := 20) (m := 7) (by decide) (by decide)
  refine ⟨d, sessions_exact reachable (fun s member => ?_) fun s member => ?_⟩
  · rw [earlier, session] at member
    obtain rfl | rfl := List.mem_pair.mp member <;> exact partly_framed
  · rw [earlier] at member
    cases List.mem_singleton.mp member
    rw [Session.cutOff, (run_partly 20).1]
    decide

/-- The last ten bytes of the packet are lost with the first session, and the first ten of the fifteen that the
second one delivers take their place. -/
theorem two_sessions_spliced : ∃ d : Downlink, ∃ first call rest, d.calls = first ++ call :: rest ∧
    d.session.delivered.length = 15 ∧ ∃ o, IpPacketOutputStream.WritesAll .new first o ∧
      ∃ a, o.Sinks call a ∧ a.target = [ipv4Packet.take 10 ++ ipv4Packet.take 10] := by
  obtain ⟨d, reachable, earlier, session⟩ := two_sessions (n := 10) (m := 15) (by decide) (by decide)
  have received : Session.received
      { id := 1, offset := 4, outgoing := run Outgoing.step .start (partly 10), read := 4 + 10 } = [] := by
    rw [Session.received, (run_partly 10).1]
    decide
  have cut : Session.cutOff
      { id := 1, offset := 4, outgoing := run Outgoing.step .start (partly 10), read := 4 + 10 } = ipv4Packet.take 10 := by
    rw [Session.cutOff, (run_partly 10).1]
    decide
  have missing : missing (run Outgoing.step .start (partly 10)).accepted (4 + 10 - 4) = [ipv4Packet] := by
    rw [(run_partly 10).1]
    decide
  have delivered : d.session.delivered = ipv4Packet.take 15 := by
    rw [reachable.faithful.session.delivered_take, session, (run_partly 15).1]
    decide
  have fifteen : d.session.delivered.length = 15 := delivered ▸ by decide
  obtain ⟨first, call, rest, parts, o, writes, a, sinks, target⟩ := reconnection_splices reachable
    (earlier.trans (List.nil_append _).symm) nofun
    (fun t member => by
      cases List.mem_singleton.mp member
      exact partly_framed) missing
    (by rw [cut]; decide) (by rw [cut, fifteen]; decide)
  refine ⟨d, first, call, rest, parts, fifteen, o, writes, a, sinks, ?_⟩
  rw [target, List.nil_append, List.map_singleton, List.flatten_singleton, received, cut, delivered]
  decide

end Sample

end Gnirehtet.App
