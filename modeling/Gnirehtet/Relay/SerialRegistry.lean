import Gnirehtet.Lib.Marks
import Gnirehtet.Lib.Run
import Gnirehtet.Relay.UdpConnection

/-!
# Serials that wait for their connection

A serial is registered before the device connects, and the next connection takes the oldest one that
waits. The queue is compared with a history of all registrations, in which none is removed.
-/

namespace Gnirehtet.Relay
open Lib

def matchWindow : Nat := 30 * nanosPerSecond

def maxPending : Nat := 8

structure PendingEntry where
  serial : String
  registeredAt : Nat

/-- `now.duration_since(e.registered_at) < MATCH_WINDOW`, where an earlier `now` counts as no time. -/
def PendingEntry.fresh (now : Nat) (e : PendingEntry) : Bool := decide (now - e.registeredAt < matchWindow)

def registerPending (queue : List PendingEntry) (serial : String) (now : Nat) : List PendingEntry :=
  let queue := queue.filter (·.fresh now)
  let queue := if queue.length ≥ maxPending then queue.tail else queue
  queue ++ [{ serial, registeredAt := now }]

/-- The loop of `take_pending`, which stops at the first entry that is in the window. -/
def purge (now : Nat) : List PendingEntry → List PendingEntry
  | [] => []
  | front :: rest => if now - front.registeredAt ≥ matchWindow then purge now rest else front :: rest

def takePending (queue : List PendingEntry) (now : Nat) : Option String × List PendingEntry :=
  let queue := purge now queue
  (queue.head?.map (·.serial), queue.tail)

structure SerialRegistry where
  queue : List PendingEntry
  /-- What the calls of `take_pending` have returned. -/
  answers : List (Option String)

namespace SerialRegistry

inductive Call where
  | register (serial : String)
  | take

def new : SerialRegistry where
  queue := []
  answers := []

def step (r : SerialRegistry) : Nat × Call → SerialRegistry
  | (now, .register serial) => { r with queue := registerPending r.queue serial now }
  | (now, .take) =>
    let (answer, queue) := takePending r.queue now
    { queue, answers := r.answers ++ [answer] }

/-! ### The history of all registrations -/

inductive Fate where
  | waiting
  | taken
  | evicted
  deriving DecidableEq

structure Registration extends PendingEntry where
  fate : Fate

namespace Registration

/-- It is in the window, not taken and not evicted. -/
def waits (now : Nat) (r : Registration) : Bool := decide (r.fate = .waiting) && r.fresh now

def mark (fate : Fate) (r : Registration) : Registration := { r with fate }

end Registration

/-- All registrations, of which none is removed, and which ones have been taken. -/
structure History where
  registrations : List Registration
  taken : List (Option Nat)

namespace History

def new : History where
  registrations := []
  taken := []

/-- The first registration that waits. -/
def oldest (h : History) (now : Nat) : Option Nat := h.registrations.findIdx? (·.waits now)

def serial (h : History) (i : Nat) : Option String := h.registrations[i]?.map (·.serial)

def step (h : History) : Nat × Call → History
  | (now, .register serial) =>
    let full := maxPending ≤ (h.registrations.filter (·.waits now)).length
    let registrations := if full then updateFirst (·.waits now) (.mark .evicted) h.registrations else h.registrations
    { h with registrations := registrations ++ [{ serial, registeredAt := now, fate := .waiting }] }
  | (now, .take) =>
    { registrations := updateFirst (·.waits now) (.mark .taken) h.registrations
      taken := h.taken ++ [h.oldest now] }

end History

/-! ### The queue and the history -/

theorem fresh_later {e e' : PendingEntry} {now : Nat} (later : e.registeredAt ≤ e'.registeredAt)
    (fresh : e.fresh now = true) : e'.fresh now = true := by
  unfold PendingEntry.fresh at fresh ⊢
  rw [decide_eq_true_eq] at fresh ⊢
  omega

/-- In order of registration, no entry behind one in the window is out of it. -/
theorem purge_eq_filter {queue : List PendingEntry} {now : Nat}
    (ordered : queue.Pairwise fun e e' => e.registeredAt ≤ e'.registeredAt) :
    purge now queue = queue.filter (·.fresh now) := by
  induction queue with
  | nil => rfl
  | cons front rest ih =>
    obtain ⟨first, others⟩ := List.pairwise_cons.mp ordered
    unfold purge
    split
    · rename_i stale
      have out : ¬ front.fresh now = true := by
        rw [PendingEntry.fresh, decide_eq_true_eq]
        omega
      rw [ih others, List.filter_cons_of_neg out]
    · rename_i inside
      have fresh : front.fresh now = true := by
        rw [PendingEntry.fresh, decide_eq_true_eq]
        omega
      symm
      apply List.filter_eq_self.mpr
      intro e member
      rcases List.mem_cons.mp member with rfl | member
      · exact fresh
      · exact fresh_later (first e member) fresh

namespace Registration

theorem waits_mark {fate : Fate} (left : fate ≠ .waiting) (now : Nat) (r : Registration) :
    (mark fate r).waits now = false := by
  simp [waits, mark, left]

/-- What waits at a later time waits before. -/
theorem filter_waits_filter {now later : Nat} (le : now ≤ later) (l : List Registration) :
    (l.filter (·.waits now)).filter (·.waits later) = l.filter (·.waits later) := by
  rw [List.filter_filter]
  apply List.filter_congr
  intro r _
  rw [Bool.and_eq_left_iff_imp]
  unfold waits PendingEntry.fresh
  simp only [Bool.and_eq_true, decide_eq_true_eq]
  rintro ⟨waiting, inside⟩
  exact ⟨waiting, by omega⟩

/-- Of what has waited, that in the window waits. -/
theorem map_filter_waits {now later : Nat} {l : List Registration} (waited : ∀ r ∈ l, r.waits now = true) :
    (l.map (·.toPendingEntry)).filter (·.fresh later) = (l.filter (·.waits later)).map (·.toPendingEntry) := by
  rw [List.filter_map]
  congr 1
  apply List.filter_congr
  intro r member
  have waiting := waited r member
  unfold waits at waiting ⊢
  rw [Bool.and_eq_true] at waiting
  rw [waiting.1, Bool.true_and]
  rfl

/-- Once the first that waits is marked, the others are left. -/
theorem map_filter_marked {fate : Fate} (left : fate ≠ .waiting) {now later : Nat} (le : now ≤ later)
    (l : List Registration) :
    ((l.filter (·.waits now)).tail.map (·.toPendingEntry)).filter (·.fresh later) =
      ((updateFirst (·.waits now) (mark fate) l).filter (·.waits later)).map (·.toPendingEntry) := by
  rw [← filter_waits_filter le, filter_updateFirst (waits_mark left now)]
  apply map_filter_waits
  intro r member
  exact (List.mem_filter.mp (List.mem_of_mem_tail member)).2

end Registration

/-- What the queue has to do with the history, from the time `now` on. -/
structure Matches (now : Nat) (r : SerialRegistry) (h : History) : Prop where
  ordered : r.queue.Pairwise fun e e' => e.registeredAt ≤ e'.registeredAt
  past : ∀ e ∈ r.queue, e.registeredAt ≤ now
  bounded : r.queue.length ≤ maxPending
  waiting : ∀ later, now ≤ later →
    r.queue.filter (·.fresh later) = (h.registrations.filter (·.waits later)).map (·.toPendingEntry)
  answers : r.answers = h.taken.map (·.bind h.serial)
  marked : ∀ i, some i ∈ h.taken → ∃ g, h.registrations[i]? = some g ∧ g.fate ≠ .waiting
  once : (h.taken.filterMap id).Nodup

variable {now : Nat} {r : SerialRegistry} {h : History}

theorem matches_new : Matches now new History.new where
  ordered := .nil
  past := by simp [new]
  bounded := Nat.zero_le _
  waiting := fun _ _ => rfl
  answers := rfl
  marked := by simp [History.new]
  once := .nil

theorem Matches.mono {later : Nat} (m : Matches now r h) (le : now ≤ later) : Matches later r h where
  ordered := m.ordered
  past := fun e member => Nat.le_trans (m.past e member) le
  bounded := m.bounded
  waiting := fun last after => m.waiting last (Nat.le_trans le after)
  answers := m.answers
  marked := m.marked
  once := m.once

theorem Matches.takePending (m : Matches now r h) : takePending r.queue now =
    ((h.oldest now).bind h.serial, (h.registrations.filter (·.waits now)).tail.map (·.toPendingEntry)) := by
  have queue := (purge_eq_filter m.ordered).trans (m.waiting now (Nat.le_refl now))
  have answer : (h.registrations.filter (·.waits now)).head?.map (·.serial) = (h.oldest now).bind h.serial := by
    rw [head?_filter_eq, Option.map_bind]
    rfl
  unfold Relay.takePending
  rw [queue, ← answer]
  simp only [List.head?_map, List.map_tail, Option.map_map]
  rfl

/-- A mark leaves the serials as they are. -/
theorem serial_marked (h : History) (p : Registration → Bool) (fate : Fate) (taken : List (Option Nat)) :
    History.serial { registrations := updateFirst p (.mark fate) h.registrations, taken } = h.serial := by
  funext i
  unfold History.serial
  rw [getElem?_updateFirst]
  split
  · rw [Option.map_map]
    rfl
  · rfl

/-- What is out of the window waits no longer. -/
theorem Matches.retain (m : Matches now r h) : Matches now { r with queue := r.queue.filter (·.fresh now) } h := by
  refine { m with ordered := ?_, past := ?_, bounded := ?_, waiting := ?_ }
  · exact m.ordered.sublist List.filter_sublist
  · exact fun e member => m.past e (List.mem_filter.mp member).1
  · exact Nat.le_trans (List.length_filter_le ..) m.bounded
  · intro later after
    show ((r.queue.filter (·.fresh now)).filter (·.fresh later)) = _
    rw [m.waiting now (Nat.le_refl now), Registration.map_filter_waits fun g member => (List.mem_filter.mp member).2,
      Registration.filter_waits_filter after]

/-- The first that waits is marked, and its entry removed. -/
theorem Matches.mark (m : Matches now r h) {fate : Fate} (left : fate ≠ .waiting) :
    Matches now { r with queue := (r.queue.filter (·.fresh now)).tail }
      { h with registrations := updateFirst (·.waits now) (.mark fate) h.registrations } := by
  have sub : (r.queue.filter (·.fresh now)).tail.Sublist r.queue :=
    (List.tail_sublist _).trans List.filter_sublist
  refine { ordered := ?_, past := ?_, bounded := ?_, waiting := ?_, answers := ?_, marked := ?_, once := m.once }
  · exact m.ordered.sublist sub
  · exact fun e member => m.past e (sub.mem member)
  · exact Nat.le_trans sub.length_le m.bounded
  · intro later after
    show (r.queue.filter (·.fresh now)).tail.filter (·.fresh later) = _
    rw [m.waiting now (Nat.le_refl now), ← List.map_tail, Registration.map_filter_marked left after]
  · rw [serial_marked]
    exact m.answers
  · intro i member
    obtain ⟨g, found, fate'⟩ := m.marked i member
    show ∃ g, (updateFirst (·.waits now) (.mark fate) h.registrations)[i]? = some g ∧ _
    rw [getElem?_updateFirst, found]
    split
    · exact ⟨_, rfl, left⟩
    · exact ⟨g, rfl, fate'⟩

/-- A new registration waits behind the others. -/
theorem Matches.append (m : Matches now r h) (serial : String) (room : r.queue.length < maxPending) :
    Matches now { r with queue := r.queue ++ [{ serial, registeredAt := now }] }
      { h with registrations := h.registrations ++ [{ serial, registeredAt := now, fate := .waiting }] } := by
  have kept {i : Nat} {g : Registration} (found : h.registrations[i]? = some g) :
      (h.registrations ++ [{ serial, registeredAt := now, fate := .waiting }])[i]? = some g := by
    obtain ⟨inside, -⟩ := List.getElem?_eq_some_iff.mp found
    rw [List.getElem?_append_left inside, found]
  refine { ordered := ?_, past := ?_, bounded := ?_, waiting := ?_, answers := ?_, marked := ?_, once := m.once }
  · apply List.pairwise_append.mpr
    refine ⟨m.ordered, List.pairwise_singleton _ _, fun e member e' last => ?_⟩
    rw [List.mem_singleton.mp last]
    exact m.past e member
  · intro e member
    rcases List.mem_append.mp member with old | last
    · exact m.past e old
    · rw [List.mem_singleton.mp last]
  · rw [List.length_append]
    exact room
  · intro later after
    rw [List.filter_append, List.filter_append, List.map_append, m.waiting later after]
    congr 1
    simp only [List.filter_cons, List.filter_nil, Registration.waits, decide_true, Bool.true_and]
    split <;> rfl
  · rw [m.answers]
    apply List.map_congr_left
    intro answer member
    cases answer with
    | none => rfl
    | some i =>
      obtain ⟨g, found, -⟩ := m.marked i member
      rw [Option.bind_some, Option.bind_some, History.serial, History.serial, found, kept found]
  · intro i member
    obtain ⟨g, found, fate⟩ := m.marked i member
    exact ⟨g, kept found, fate⟩

theorem Matches.register (m : Matches now r h) (serial : String) :
    Matches now (r.step (now, .register serial)) (h.step (now, .register serial)) := by
  have count : (r.queue.filter (·.fresh now)).length = (h.registrations.filter (·.waits now)).length := by
    rw [m.waiting now (Nat.le_refl now), List.length_map]
  have bounded : (r.queue.filter (·.fresh now)).length ≤ maxPending := m.retain.bounded
  by_cases full : maxPending ≤ (r.queue.filter (·.fresh now)).length
  · have full' := count ▸ full
    simp only [step, History.step, registerPending, ge_iff_le, full, full', if_true]
    refine (m.mark (Fate.noConfusion : Fate.evicted ≠ .waiting)).append serial ?_
    show (r.queue.filter (·.fresh now)).tail.length < maxPending
    have some : 0 < maxPending := by decide
    rw [List.length_tail]
    omega
  · have full' := count ▸ full
    simp only [step, History.step, registerPending, ge_iff_le, full, full', if_false]
    exact m.retain.append serial (Nat.lt_of_not_le full)

theorem Matches.take (m : Matches now r h) : Matches now (r.step (now, .take)) (h.step (now, .take)) := by
  have marks := m.mark (Fate.noConfusion : Fate.taken ≠ .waiting)
  have queue : (r.queue.filter (·.fresh now)).tail =
      (h.registrations.filter (·.waits now)).tail.map (·.toPendingEntry) := by
    rw [m.waiting now (Nat.le_refl now), List.map_tail]
  -- the one that is taken, if any, waits, and the others do no longer
  have fresh {i : Nat} (oldest : h.oldest now = some i) :
      ∃ g, h.registrations[i]? = some g ∧ g.waits now = true := by
    obtain ⟨inside, waits, -⟩ := List.findIdx?_eq_some_iff_getElem.mp oldest
    exact ⟨_, List.getElem?_eq_getElem inside, waits⟩
  simp only [step, History.step, m.takePending]
  rw [← queue]
  refine { marks with answers := ?_, marked := ?_, once := ?_ }
  · show r.answers ++ [(h.oldest now).bind h.serial] = (h.taken ++ [h.oldest now]).map _
    rw [List.map_append, List.map_singleton]
    congr 1
    · exact marks.answers
    · rw [serial_marked]
  · intro i member
    rcases List.mem_append.mp member with old | last
    · exact marks.marked i old
    · have oldest := (List.mem_singleton.mp last).symm
      obtain ⟨g, found, -⟩ := fresh oldest
      refine ⟨g.mark .taken, ?_, Fate.noConfusion⟩
      show (updateFirst (·.waits now) (.mark .taken) h.registrations)[i]? = _
      rw [getElem?_updateFirst, found]
      exact if_pos oldest
  · show ((h.taken ++ [h.oldest now]).filterMap id).Nodup
    rw [List.filterMap_append, List.nodup_append]
    refine ⟨m.once, by cases h.oldest now <;> simp, ?_⟩
    intro i old j last same
    subst same
    obtain ⟨g, found, fate⟩ := m.marked i (by simpa using old)
    have oldest : some i = h.oldest now := by simpa using last
    obtain ⟨g', found', waits⟩ := fresh oldest.symm
    rw [found] at found'
    cases found'
    rw [Registration.waits, Bool.and_eq_true, decide_eq_true_eq] at waits
    exact fate waits.1

/-! ### Any sequence of calls -/

/-- The calls come in order of their times. -/
def Ordered (calls : List (Nat × Call)) : Prop := calls.Pairwise fun c c' => c.1 ≤ c'.1

theorem Matches.run {calls : List (Nat × Call)} (m : Matches now r h) (after : ∀ c ∈ calls, now ≤ c.1)
    (ordered : Ordered calls) {last : Nat} (before : ∀ c ∈ calls, c.1 ≤ last) (le : now ≤ last) :
    Matches last (Lib.run step r calls) (Lib.run History.step h calls) := by
  induction calls generalizing now r h with
  | nil => exact m.mono le
  | cons call rest ih =>
    obtain ⟨time, call⟩ := call
    obtain ⟨first, others⟩ := List.pairwise_cons.mp ordered
    obtain ⟨before, later⟩ := List.forall_mem_cons.mp before
    have here := m.mono (List.forall_mem_cons.mp after).1
    rw [run_cons, run_cons]
    refine ih ?_ first others later before
    cases call with
    | register serial => exact here.register serial
    | take => exact here.take

/-- Whatever is called, the queue is ordered and bounded, its front is purged of what has expired, and the
oldest registration that waits is taken next, each at most once. -/
theorem run_spec {calls : List (Nat × Call)} (ordered : Ordered calls) {now : Nat} (past : ∀ c ∈ calls, c.1 ≤ now) :
    let r := Lib.run step new calls
    let h := Lib.run History.step History.new calls
    r.queue.Pairwise (fun e e' => e.registeredAt ≤ e'.registeredAt) ∧ r.queue.length ≤ maxPending ∧
      purge now r.queue = r.queue.filter (·.fresh now) ∧
      (takePending r.queue now).1 = (h.oldest now).bind h.serial ∧
      r.answers = h.taken.map (·.bind h.serial) ∧ (h.taken.filterMap id).Nodup := by
  have m := (matches_new : Matches 0 new History.new).run (fun _ _ => Nat.zero_le _) ordered past (Nat.zero_le now)
  exact ⟨m.ordered, m.bounded, purge_eq_filter m.ordered, congrArg Prod.fst m.takePending, m.answers, m.once⟩

/-- Two devices, the second of them twenty seconds after the first. -/
def twoDevices : List (Nat × Call) := [(0, .register "first"), (20 * nanosPerSecond, .register "second")]

theorem run_spec_twoDevices :
    (takePending (Lib.run step new twoDevices).queue (31 * nanosPerSecond)).1 = some "second" := by
  have past : ∀ c ∈ twoDevices, c.1 ≤ 31 * nanosPerSecond := by decide
  have ordered : Ordered twoDevices := by
    unfold Ordered
    decide
  obtain ⟨-, -, -, takes, -⟩ := run_spec ordered past
  exact takes.trans (by decide)

end SerialRegistry

end Gnirehtet.Relay
