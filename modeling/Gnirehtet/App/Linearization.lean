import Gnirehtet.App.PersistentRelayTunnel

/-!
# The threads against the sequential provider

An invalidation can fall between the opening of a tunnel and the return of `getCurrentTunnel`. When none
does, the provider is what some sequential history of its calls leaves, and no thread meets a null reference.
-/

namespace Gnirehtet.App
open Lib

namespace PersistentRelayTunnel
variable {ι : Type} [DecidableEq ι]

/-- A turn that takes effect on the tunnel in the field. -/
def Invalidates (s : PersistentRelayTunnel ι) : Event ι → Prop
  | .turn i _ => ∃ t, s.provider.tunnel = some t ∧ (s.place i = .invalidating t ∨ s.place i = .closing)
  | _ => False

/-- No thread is between `RelayTunnel.open` and the return of `getCurrentTunnel`. -/
def Undisturbed (s : PersistentRelayTunnel ι) (event : Event ι) : Prop :=
  s.Invalidates event → ∀ j, ¬ (s.place j).Pending ∧ s.place j ≠ .returning

/-- How far a call that has opened its tunnel came, from the provider that the sequential call starts with. -/
def Progress (p : RelayTunnelProvider) (slot : Option Nat) (place : Place) (q : RelayTunnelProvider) : Prop :=
  let p' := { p.openTunnel slot with first := false }
  match place with
  | .opened => q = p.openTunnel slot
  | .connecting t notifies => t = p.opened.length ∧ notifies = p.first ∧ q = p'
  | .connected => q = setConnected p.opened.length p'
  | .failed notifies => notifies = p.first ∧ q = p'
  | .notifyDisconnected => p.first = true ∧ ∃ now, q = p'.touchFailure now
  | _ => False

/-- The provider of the threads is the sequential one, or ahead of it by a call that is not finished. -/
inductive Refines (s : PersistentRelayTunnel ι) (p : RelayTunnelProvider) : Prop where
  | settled (outside : ∀ i, ¬ (s.place i).Pending) (same : s.provider = p)
  | pending {i : ι} {now : Nat} {slot : Option Nat} (none : p.tunnel = none)
      (waited : p.waitUntilNextAttemptSlot [now] = .ok slot) (progress : Progress p slot (s.place i) s.provider)

section Refines
variable {s s' : PersistentRelayTunnel ι} {p q : RelayTunnelProvider} {i : ι} {answer : Answer} {place : Place}
variable {slot : Option Nat} {now : Nat}

theorem Place.inside_of_pending (pending : place.Pending) : place.Inside := by
  cases place with
  | opened | connecting _ _ | connected | failed _ | notifyDisconnected => trivial
  | _ => exact pending.elim

theorem Progress.isPending (progress : Progress p slot place q) : place.Pending := by
  cases place with
  | opened | connecting _ _ | connected | failed _ | notifyDisconnected => trivial
  | _ => exact progress.elim

/-- The thread inside leaves, and then nobody is. -/
theorem Safe.leaves (safe : s.Safe) (here : (s.place i).Pending) (leaves : ¬ place.Pending) :
    ∀ j, ¬ (Function.update s.place i place j).Pending := by
  intro j
  by_cases own : j = i
  · rwa [own, Function.update_self]
  · rw [Function.update_of_ne own]
    exact fun pending => safe.guards.outside (Place.inside_of_pending here) own (Place.inside_of_pending pending)

theorem get_connected (none : p.tunnel = none) (waited : p.waitUntilNextAttemptSlot [now] = .ok slot) :
    (setConnected p.opened.length { p.openTunnel slot with first := false }).notify .relayTunnelConnected =
      p.step (.getCurrentTunnel [now] .success) := by
  rw [RelayTunnelProvider.step, RelayTunnelProvider.getCurrentTunnel_success none waited]
  simp only [setConnected, RelayTunnelProvider.openTunnel, RelayTunnelProvider.notify, RelayTunnelProvider.modify_last]

theorem get_failed (none : p.tunnel = none) (waited : p.waitUntilNextAttemptSlot [now] = .ok slot) (time : Nat) :
    p.step (.getCurrentTunnel [now] (.ioException time)) =
      let q := RelayTunnelProvider.touchFailure { p.openTunnel slot with first := false } time
      if p.first then q.notify .relayTunnelDisconnected else q := by
  have empty : ¬ p.tunnel.isSome = true := by simp [none]
  simp only [RelayTunnelProvider.step, RelayTunnelProvider.getCurrentTunnel, if_neg empty, waited,
    RelayTunnelProvider.connectTunnel]
  rfl

/-- A turn of the thread whose call is not finished. -/
theorem progress_turn (safe : s.Safe) (none : p.tunnel = none)
    (waited : p.waitUntilNextAttemptSlot [now] = .ok slot) (progress : Progress p slot (s.place i) s.provider)
    (answer : Answer) : ∃ calls, Refines (s.turn i answer) (run RelayTunnelProvider.step p calls) := by
  have stays {s' : PersistentRelayTunnel ι} (ahead : Progress p slot (s'.place i) s'.provider) :
      ∃ calls, Refines s' (run RelayTunnelProvider.step p calls) := ⟨[], .pending none waited ahead⟩
  have leaves {place : Place} (outside : ¬ place.Pending) := safe.leaves progress.isPending outside
  cases here : s.place i with rw [here] at progress
  | opened =>
    have same : s.provider = p.openTunnel slot := progress
    have held : s.provider.tunnel = some p.opened.length := by rw [same]; rfl
    simp only [turn, here, edit, held]
    refine stays ?_
    simp only [goto, Function.update_self, Progress]
    exact ⟨trivial, by rw [same]; rfl, by rw [same]; rfl⟩
  | connecting t notifies =>
    obtain ⟨rfl, rfl, same⟩ := progress
    simp only [turn, here]
    split
    · refine stays ?_
      simp only [goto, edit, Function.update_self, Progress, same]
    · refine stays ?_
      simp only [goto, Function.update_self, Progress]
      exact ⟨trivial, same⟩
  | connected =>
    refine ⟨[.getCurrentTunnel [now] .success], .settled ?_ ?_⟩
    · simp only [turn, here]
      exact leaves id
    · simp only [turn, here, run_cons, run_nil, ← get_connected none waited, goto, unlock, edit]
      rw [show s.provider = _ from progress]
  | failed notifies =>
    obtain ⟨rfl, same⟩ := progress
    cases first : p.first with
    | true =>
      simp only [turn, here, first, if_true]
      refine stays ?_
      simp only [goto, edit, Function.update_self, Progress, same]
      exact ⟨first, s.now, rfl⟩
    | false =>
      refine ⟨[.getCurrentTunnel [now] (.ioException s.now)], .settled ?_ ?_⟩
      · simp only [turn, here, first]
        exact leaves id
      · simp only [turn, here, run_cons, run_nil, get_failed none waited, first, goto, unlock, edit, same]
        rfl
  | notifyDisconnected =>
    obtain ⟨first, time, same⟩ := progress
    refine ⟨[.getCurrentTunnel [now] (.ioException time)], .settled ?_ ?_⟩
    · simp only [turn, here]
      exact leaves id
    · simp only [turn, here, run_cons, run_nil, get_failed none waited, first, goto, unlock, edit, same, if_true]
  | _ => exact progress.elim

/-- A turn of another thread leaves the unfinished call as it is. -/
theorem Refines.moves (refines : s.Refines p) (here : ¬ (s.place i).Pending) (leaves : ¬ place.Pending)
    (moved : s'.place = Function.update s.place i place) (same : s'.provider = s.provider) : s'.Refines p := by
  cases refines with
  | settled outside before =>
    refine .settled ?_ (same.trans before)
    rw [moved]
    exact everywhere_goto (fun place : Place => ¬ place.Pending) outside leaves
  | @pending j _ _ none waited progress =>
    have apart : j ≠ i := by
      rintro rfl
      exact here progress.isPending
    refine .pending (i := j) none waited ?_
    rw [moved, same, Function.update_of_ne apart]
    exact progress

/-- A turn of a thread that is not in the middle of a call. -/
theorem settled_turn (safe : s.Safe) (refines : s.Refines p) (here : ¬ (s.place i).Pending)
    (undisturbed : s.Undisturbed (.turn i answer)) (turns : s.Turns i answer s') :
    ∃ calls, s'.Refines (run RelayTunnelProvider.step p calls) := by
  cases turns with
  | stays => exact ⟨[], refines⟩
  | moves _ follows _ _ _ _ settled =>
    exact ⟨[], refines.moves here (fun pending => here (follows.pending pending)) rfl (settled here)⟩
  | @opens slot entering waited =>
    obtain ⟨inside, none⟩ := safe.opener entering
    refine ⟨[], ?_⟩
    cases refines with
    | settled outside same =>
      subst same
      refine .pending (i := i) none waited ?_
      dsimp only
      rw [Function.update_self]
      rfl
    | @pending j _ _ _ _ progress =>
      have same := safe.guards.unique inside (Place.inside_of_pending progress.isPending)
      exact absurd (same ▸ progress.isPending) here
  | connects connecting => exact absurd (by rw [connecting]; trivial) here
  | @invalidates t closes place held names leaves =>
    have quiet := undisturbed ⟨t, held, names⟩
    refine ⟨[.invalidateTunnel s.now closes], ?_⟩
    cases refines with
    | settled outside same =>
      subst same
      refine .settled (everywhere_goto (fun place : Place => ¬ place.Pending) outside ?_) rfl
      obtain rfl | rfl | rfl := leaves <;> exact id
    | @pending j _ _ _ _ progress => exact absurd progress.isPending (quiet j).1

theorem Refines.step (refines : s.Refines p) (safe : s.Safe) {event : Event ι} (undisturbed : s.Undisturbed event) :
    ∃ calls, (s.step event).Refines (run RelayTunnelProvider.step p calls) := by
  cases event with
  | tick ms =>
    refine ⟨[], ?_⟩
    cases refines with
    | settled outside same => exact .settled outside same
    | pending none waited progress => exact .pending none waited progress
  | transfer i =>
    refine ⟨[], ?_⟩
    rw [PersistentRelayTunnel.step]
    split
    · rename_i idle
      exact refines.moves (by rw [idle]; exact id) id rfl rfl
    · exact refines
  | close i =>
    refine ⟨[], ?_⟩
    rw [PersistentRelayTunnel.step]
    split
    · rename_i idle
      exact refines.moves (by rw [idle]; exact id) id rfl rfl
    · exact refines
  | turn i answer =>
    by_cases here : (s.place i).Pending
    · cases refines with
      | settled outside _ => exact absurd here (outside i)
      | @pending j now slot none waited progress =>
        have same := safe.guards.unique (Place.inside_of_pending here) (Place.inside_of_pending progress.isPending)
        subst same
        exact progress_turn safe none waited progress answer
    · exact settled_turn safe refines here undisturbed (turn_cases s i answer)

end Refines

/-- When the threads have finished their calls, the provider is what some sequential history of calls leaves. -/
theorem undisturbed_run_sequential {events : List (Event ι)} (along : Along step Undisturbed {} events)
    (finished : ∀ i, ¬ ((run step {} events).place i).Pending) :
    ∃ calls, (run step ({} : PersistentRelayTunnel ι) events).provider = run RelayTunnelProvider.step {} calls := by
  have start : Safe ({} : PersistentRelayTunnel ι) ∧
      ∃ calls, Refines ({} : PersistentRelayTunnel ι) (run RelayTunnelProvider.step {} calls) :=
    ⟨safe_start, [], .settled (fun _ => id) rfl⟩
  obtain ⟨_, calls, refines⟩ := run_invariant
    (P := fun s => s.Safe ∧ ∃ calls, s.Refines (run RelayTunnelProvider.step {} calls))
    (fun s event ⟨safe, calls, refines⟩ undisturbed => by
      obtain ⟨more, refined⟩ := refines.step safe undisturbed
      rw [← run_append] at refined
      exact ⟨safe.step event, _, refined⟩) start along
  cases refines with
  | settled _ same => exact ⟨calls, same⟩
  | @pending i _ _ _ _ progress => exact absurd progress.isPending (finished i)

omit [DecidableEq ι] in
theorem undisturbed_turn {s : PersistentRelayTunnel ι} {i : ι} {answer : Answer} {place : Place}
    (here : s.place i = place) (working : place ≠ .closing ∧ ∀ t, place ≠ .invalidating t) :
    s.Undisturbed (.turn i answer) := by
  rintro ⟨t, _, invalidating | closing⟩
  · exact absurd (here.symm.trans invalidating) (working.2 t)
  · exact absurd (here.symm.trans closing) working.1

theorem shared_undisturbed : Along step Undisturbed ({} : PersistentRelayTunnel Bool) connectThenShare :=
  ⟨nofun, undisturbed_turn rfl ⟨nofun, nofun⟩, undisturbed_turn rfl ⟨nofun, nofun⟩,
    undisturbed_turn rfl ⟨nofun, nofun⟩, undisturbed_turn rfl ⟨nofun, nofun⟩, undisturbed_turn rfl ⟨nofun, nofun⟩,
    undisturbed_turn rfl ⟨nofun, nofun⟩, undisturbed_turn rfl ⟨nofun, nofun⟩, nofun,
    undisturbed_turn rfl ⟨nofun, nofun⟩, undisturbed_turn rfl ⟨nofun, nofun⟩, undisturbed_turn rfl ⟨nofun, nofun⟩,
    trivial⟩

theorem shared_sequential : ∃ calls,
    (run step ({} : PersistentRelayTunnel Bool) connectThenShare).provider = run RelayTunnelProvider.step {} calls :=
  undisturbed_run_sequential shared_undisturbed fun | true => id | false => id

/-! ### Null references -/

/-- What a thread counts on while the field is not invalidated. -/
def Holds (p : RelayTunnelProvider) : Place → Prop
  | .opened => ∃ t tunnel, p.tunnel = some t ∧ p.opened[t]? = some tunnel ∧ tunnel.closed = false
  | .connecting t _ => p.tunnel = some t ∧ ∃ tunnel, p.opened[t]? = some tunnel ∧ tunnel.closed = false
  | .connected | .returning => ∃ t, p.tunnel = some t ∧ p.Usable t
  | .nullPointer | .transferring none => False
  | _ => True

section Holds
variable {s s' : PersistentRelayTunnel ι} {p q : RelayTunnelProvider} {i : ι} {place : Place}

theorem holds_same (tunnel : q.tunnel = p.tunnel) (opened : q.opened = p.opened) (holds : Holds p place) :
    Holds q place := by
  cases place with
  | transferring t => cases t <;> exact holds
  | opened | connecting _ _ | connected | returning =>
    simp only [Holds, RelayTunnelProvider.Usable, tunnel, opened] at holds ⊢
    exact holds
  | _ => exact holds

theorem holds_connected {t : Nat} (held : p.tunnel = some t) {tunnel : RelayTunnel}
    (there : p.opened[t]? = some tunnel) (isOpen : tunnel.closed = false) :
    Holds (setConnected t p) .connected := by
  refine ⟨t, held, { tunnel with connected := true }, ?_, rfl, isOpen⟩
  rw [setConnected, List.getElem?_modify_eq, there]
  rfl

/-- A thread that waited for the slot now opens its tunnel. -/
theorem holds_wait (s : PersistentRelayTunnel ι) (i : ι) :
    Holds (s.waitUntilNextAttemptSlot i).provider ((s.waitUntilNextAttemptSlot i).place i) := by
  unfold waitUntilNextAttemptSlot
  split
  · rename_i slot _
    simp only [goto, Function.update_self]
    exact ⟨_, { slot }, rfl, by simp [RelayTunnelProvider.openTunnel], rfl⟩
  · simp only [goto, Function.update_self]
    trivial

/-- What the thread itself counts on after its turn. -/
theorem holds_own (holds : Holds s.provider (s.place i)) (answer : Answer) :
    Holds (s.turn i answer).provider ((s.turn i answer).place i) := by
  cases here : s.place i with rw [here] at holds
  | idle | nullPointer | threw =>
    simp only [turn, here]
    exact holds
  | loop =>
    simp only [turn, here, goto, Function.update_self]
    split <;> trivial
  | getCurrentTunnel =>
    cases lock : s.getCurrentTunnelLock with simp only [turn, here, lock, goto, Function.update_self]
    | none => trivial
    | some j => trivial
  | locked =>
    cases held : s.provider.tunnel with simp only [turn, here, held]
    | some t =>
      simp only [goto, Function.update_self]
      trivial
    | none => exact holds_wait s i
  | waiting =>
    simp only [turn, here]
    split
    · simp only [goto, Function.update_self]
      trivial
    · exact holds_wait s i
  | opened =>
    obtain ⟨t, tunnel, held, there, isOpen⟩ := holds
    simp only [turn, here, edit, held, goto, Function.update_self]
    exact ⟨rfl, tunnel, there, isOpen⟩
  | connecting t notifies =>
    obtain ⟨held, tunnel, there, isOpen⟩ := holds
    simp only [turn, here]
    split <;> simp only [goto, edit, Function.update_self]
    · exact holds_connected held there isOpen
    · trivial
  | connected =>
    simp only [turn, here, goto, unlock, edit, Function.update_self]
    exact holds
  | failed notifies =>
    simp only [turn, here]
    split <;> simp only [goto, Function.update_self] <;> trivial
  | notifyDisconnected =>
    simp only [turn, here, goto, Function.update_self]
    trivial
  | returning =>
    obtain ⟨t, held, _⟩ := holds
    simp only [turn, here, goto, held, Function.update_self]
    trivial
  | transferring tunnel =>
    cases tunnel with
    | none => exact holds.elim
    | some t =>
      cases answer <;> simp only [turn, here, goto, Function.update_self] <;> trivial
  | invalidating t =>
    simp only [turn, here, goto, Function.update_self]
    split <;> trivial
  | closing =>
    simp only [turn, here, goto, Function.update_self]
    split <;> trivial

theorem holds_plain (settled : ¬ place.Pending ∧ place ≠ .returning) (holds : Holds p place) : Holds q place := by
  cases place with
  | opened | connecting _ _ | connected => exact absurd trivial settled.1
  | returning => exact absurd rfl settled.2
  | transferring t => cases t <;> exact holds
  | _ => exact holds

/-- What another thread counts on stays true. -/
theorem holds_other {answer : Answer} (safe : s.Safe) (undisturbed : s.Undisturbed (.turn i answer))
    (turns : s.Turns i answer s') {j : ι} (other : j ≠ i) (holds : Holds s.provider (s.place j)) :
    Holds s'.provider (s'.place j) := by
  have alone (inside : (s.place i).Inside) : ¬ (s.place j).Pending :=
    fun pending => safe.guards.outside inside other (Place.inside_of_pending pending)
  cases turns with
  | stays => exact holds
  | moves _ _ tunnel opened _ _ _ =>
    dsimp only
    rw [Function.update_of_ne other]
    exact holds_same tunnel opened holds
  | opens entering _ =>
    obtain ⟨inside, none⟩ := safe.opener entering
    dsimp only
    rw [Function.update_of_ne other]
    refine holds_plain ⟨alone inside, fun returning => ?_⟩ holds
    rw [returning] at holds
    obtain ⟨t, held, _⟩ := holds
    rw [none] at held
    cases held
  | @connects t notifies connecting =>
    have notPending := alone (by rw [connecting]; trivial)
    dsimp only
    rw [Function.update_of_ne other]
    by_cases returning : s.place j = .returning
    · rw [returning] at holds ⊢
      obtain ⟨u, held, tunnel, there, connected, isOpen⟩ := holds
      refine ⟨u, held, if t = u then { tunnel with connected := true } else tunnel, ?_, ?_, ?_⟩
      · rw [setConnected, List.getElem?_modify, there]
        rfl
      · split
        · rfl
        · exact connected
      · split <;> exact isOpen
    · exact holds_plain ⟨notPending, returning⟩ holds
  | invalidates held names _ =>
    dsimp only
    rw [Function.update_of_ne other]
    exact holds_plain (undisturbed ⟨_, held, names⟩ j) holds

theorem holds_step (safe : s.Safe) (holds : ∀ j, Holds s.provider (s.place j)) {event : Event ι}
    (undisturbed : s.Undisturbed event) : ∀ j, Holds (s.step event).provider ((s.step event).place j) := by
  cases event with
  | tick ms => exact holds
  | transfer i =>
    rw [PersistentRelayTunnel.step]
    split
    · exact everywhere_goto (Holds s.provider) holds trivial
    · exact holds
  | close i =>
    rw [PersistentRelayTunnel.step]
    split
    · exact everywhere_goto (Holds s.provider) holds trivial
    · exact holds
  | turn i answer =>
    intro j
    by_cases own : j = i
    · subst own
      exact holds_own (holds j) answer
    · exact holds_other safe undisturbed (turn_cases s i answer) own (holds j)

end Holds

/-- No thread finds the field empty where it counts on a tunnel, and a thread that connected its tunnel
returns one that is connected and open. -/
theorem undisturbed_run_connected {events : List (Event ι)} (along : Along step Undisturbed {} events) (i : ι) :
    let s := run step ({} : PersistentRelayTunnel ι) events
    s.place i ≠ .nullPointer ∧ s.place i ≠ .transferring none ∧
      (s.place i = .returning → ∃ t, s.provider.tunnel = some t ∧ s.provider.Usable t) := by
  intro s
  have start : Safe ({} : PersistentRelayTunnel ι) ∧ ∀ i : ι, Holds {} Place.idle := ⟨safe_start, fun _ => trivial⟩
  have both := run_invariant (P := fun s => s.Safe ∧ ∀ i, Holds s.provider (s.place i))
    (fun s event ⟨safe, holds⟩ undisturbed => ⟨safe.step event, holds_step safe holds undisturbed⟩) start along
  have holds : Holds s.provider (s.place i) := both.2 i
  refine ⟨fun here => ?_, fun here => ?_, fun here => ?_⟩
  · rw [here] at holds
    exact holds
  · rw [here] at holds
    exact holds
  · rw [here] at holds
    exact holds

/-- A thread connects the first tunnel while another one waits for the lock. -/
def connectWhileWaiting : List (Event Bool) :=
  .transfer true :: List.replicate 3 (.turn true .done) ++ .transfer false :: List.replicate 2 (.turn false .done) ++
    List.replicate 3 (.turn true .done)

theorem returned_connected :
    let s := run step ({} : PersistentRelayTunnel Bool) connectWhileWaiting
    s.place true = .returning ∧ s.place false = .getCurrentTunnel ∧
      ∃ t, s.provider.tunnel = some t ∧ s.provider.Usable t := by
  have undisturbed : Along step Undisturbed ({} : PersistentRelayTunnel Bool) connectWhileWaiting :=
    ⟨nofun, undisturbed_turn rfl ⟨nofun, nofun⟩, undisturbed_turn rfl ⟨nofun, nofun⟩,
      undisturbed_turn rfl ⟨nofun, nofun⟩, nofun, undisturbed_turn rfl ⟨nofun, nofun⟩,
      undisturbed_turn rfl ⟨nofun, nofun⟩, undisturbed_turn rfl ⟨nofun, nofun⟩,
      undisturbed_turn rfl ⟨nofun, nofun⟩, undisturbed_turn rfl ⟨nofun, nofun⟩, trivial⟩
  have here : (run step ({} : PersistentRelayTunnel Bool) connectWhileWaiting).place true = .returning := by decide
  exact ⟨here, by decide, (undisturbed_run_connected undisturbed true).2.2 here⟩

end PersistentRelayTunnel

end Gnirehtet.App
