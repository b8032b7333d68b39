import Gnirehtet.App.RelayTunnelProvider
import Gnirehtet.Lib.Threads

/-!
# The tunnel that reconnects

Any number of threads run `send`, `receive` and `close` at once. A turn of a thread is what it does up to
its next lock, its next read of a shared field or its next blocking call, and the environment answers the
blocking ones. `attempts` is ghost state: who opened a tunnel, and when.
-/

namespace Gnirehtet.App
open Lib

/-- Where a thread is, in the source's own nesting of calls. -/
inductive Place where
  | idle
  | loop
  | getCurrentTunnel
  | locked
  | waiting
  | opened
  | connecting (t : Nat) (notifyDisconnectedOnError : Bool)
  | connected
  | failed (notifyDisconnectedOnError : Bool)
  | notifyDisconnected
  | returning
  | transferring (tunnel : Option Nat)
  | invalidating (t : Nat)
  | closing
  | nullPointer
  | threw
  deriving DecidableEq, Repr

/-- What a blocking call answers. The end of the stream counts as a failed transfer. -/
inductive Answer where
  | done
  | failed
  | interrupted
  | runtimeException
  deriving DecidableEq, Repr

namespace Place

/-- In the section of `getCurrentTunnelLock`. -/
def Inside : Place → Prop
  | locked | waiting | opened | connecting _ _ | connected | failed _ | notifyDisconnected => True
  | _ => False

/-- Past the test of `stopped`, and not yet at `RelayTunnel.open`. -/
def MayOpen : Place → Prop
  | getCurrentTunnel | locked | waiting => True
  | _ => False

/-- The tunnel that a thread refers to. -/
def tunnel? : Place → Option Nat
  | connecting t _ | transferring (some t) | invalidating t => some t
  | _ => none

/-- Outside a transfer, and not on the way to one. -/
def Plain : Place → Prop
  | idle | loop | connected | failed _ | notifyDisconnected | returning | nullPointer | threw => True
  | _ => False

/-- Past `RelayTunnel.open`, with `connectTunnel` still to finish. -/
def Pending : Place → Prop
  | opened | connecting _ _ | connected | failed _ | notifyDisconnected => True
  | _ => False

end Place

/-- The shared state, and the place of each thread. -/
structure PersistentRelayTunnel (ι : Type) where
  provider : RelayTunnelProvider := {}
  stopped : Bool := false
  getCurrentTunnelLock : Option ι := none
  now : Nat := 0
  place : ι → Place := fun _ => .idle
  attempts : List (ι × Nat) := []

namespace PersistentRelayTunnel
variable {ι : Type} [DecidableEq ι]

inductive Event (ι : Type) where
  | tick (ms : Nat)
  /-- A call of `send` or `receive`. -/
  | transfer (i : ι)
  | close (i : ι)
  | turn (i : ι) (answer : Answer)

def goto (s : PersistentRelayTunnel ι) (i : ι) (place : Place) : PersistentRelayTunnel ι :=
  { s with place := Function.update s.place i place }

def unlock (s : PersistentRelayTunnel ι) : PersistentRelayTunnel ι := { s with getCurrentTunnelLock := none }

def edit (s : PersistentRelayTunnel ι) (f : RelayTunnelProvider → RelayTunnelProvider) : PersistentRelayTunnel ι :=
  { s with provider := f s.provider }

/-- One look at the clock in `waitUntilNextAttemptSlot`, and `RelayTunnel.open` when the slot is reached. -/
def waitUntilNextAttemptSlot (s : PersistentRelayTunnel ι) (i : ι) : PersistentRelayTunnel ι :=
  match s.provider.waitUntilNextAttemptSlot [s.now] with
  | .ok slot => { s with
      provider := s.provider.openTunnel slot
      attempts := s.attempts ++ [(i, s.now)] }.goto i .opened
  | .error _ => s.goto i .waiting

/-- `tunnel.connect()` on the tunnel that was read from the field. -/
def setConnected (t : Nat) (p : RelayTunnelProvider) : RelayTunnelProvider :=
  { p with opened := p.opened.modify t ({ · with connected := true }) }

def turn (s : PersistentRelayTunnel ι) (i : ι) (answer : Answer) : PersistentRelayTunnel ι :=
  match s.place i with
  | .idle | .nullPointer | .threw => s
  | .loop => s.goto i (if s.stopped then .idle else .getCurrentTunnel)
  | .getCurrentTunnel =>
    match s.getCurrentTunnelLock with
    | none => { s with getCurrentTunnelLock := some i }.goto i .locked
    | some _ => s
  | .locked =>
    match s.provider.tunnel with
    | some t => s.unlock.goto i (.transferring (some t))
    | none => s.waitUntilNextAttemptSlot i
  | .waiting =>
    if answer = .interrupted then s.unlock.goto i .loop else s.waitUntilNextAttemptSlot i
  | .opened =>
    let notifyDisconnectedOnError := s.provider.first
    let s := s.edit ({ · with first := false })
    match s.provider.tunnel with
    | some t => s.goto i (.connecting t notifyDisconnectedOnError)
    | none => s.unlock.goto i .nullPointer
  | .connecting t notifyDisconnectedOnError =>
    if answer = .done then (s.edit (setConnected t)).goto i .connected
    else s.goto i (.failed notifyDisconnectedOnError)
  | .connected => (s.edit (·.notify .relayTunnelConnected)).unlock.goto i .returning
  | .failed notifyDisconnectedOnError =>
    let s := s.edit (·.touchFailure s.now)
    if notifyDisconnectedOnError then s.goto i .notifyDisconnected else s.unlock.goto i .loop
  | .notifyDisconnected => (s.edit (·.notify .relayTunnelDisconnected)).unlock.goto i .loop
  -- the field is read again, outside both locks
  | .returning => s.goto i (.transferring s.provider.tunnel)
  | .transferring none => s.goto i .nullPointer
  | .transferring (some t) =>
    match answer with
    | .done => s.goto i .idle
    | .failed | .interrupted => s.goto i (.invalidating t)
    | .runtimeException => s.goto i .threw
  | .invalidating t =>
    (s.edit fun p => (p.invalidateTunnelIf (some t) s.now (answer = .done)).1).goto i
      (if (s.provider.invalidateTunnelIf (some t) s.now (answer = .done)).2.isOk then .loop else .threw)
  | .closing =>
    (s.edit fun p => (p.invalidateTunnel s.now (answer = .done)).1).goto i
      (if (s.provider.invalidateTunnel s.now (answer = .done)).2.isOk then .idle else .threw)

def step (s : PersistentRelayTunnel ι) : Event ι → PersistentRelayTunnel ι
  | .tick ms => { s with now := s.now + ms }
  | .transfer i => if s.place i = .idle then s.goto i .loop else s
  | .close i => if s.place i = .idle then { s with stopped := true }.goto i .closing else s
  | .turn i answer => s.turn i answer

/-! ### What a turn can do -/

/-- The lock follows the thread into the section and out of it. -/
inductive Locks (s : PersistentRelayTunnel ι) (i : ι) (place : Place) : Option ι → Prop where
  | keeps (same : place.Inside ↔ (s.place i).Inside) : Locks s i place s.getCurrentTunnelLock
  | acquires (free : s.getCurrentTunnelLock = none) (enters : place.Inside) : Locks s i place (some i)
  | releases (here : (s.place i).Inside) (leaves : ¬ place.Inside) : Locks s i place none

/-- What a place holds on to was read from the field or was there before. -/
structure Follows (s : PersistentRelayTunnel ι) (i : ι) (answer : Answer) (place : Place) : Prop where
  refers : ∀ t, place.tunnel? = some t → s.provider.tunnel = some t ∨ (s.place i).tunnel? = some t
  waits : place = .waiting → s.provider.tunnel = none ∨ s.place i = .waiting
  mayOpen : place.MayOpen → (s.place i).MayOpen ∨ s.stopped = false
  fails : ∀ t, place = .invalidating t →
    s.place i = .transferring (some t) ∧ (answer = .failed ∨ answer = .interrupted)
  fresh : place ≠ .opened ∧ place ≠ .closing
  pending : place.Pending → (s.place i).Pending

/-- What one turn of a thread does to the shared state. -/
inductive Turns (s : PersistentRelayTunnel ι) (i : ι) (answer : Answer) : PersistentRelayTunnel ι → Prop where
  | stays : Turns s i answer s
  /-- The field and the tunnels are as before. -/
  | moves {place : Place} {lock : Option ι} {p : RelayTunnelProvider} (locks : s.Locks i place lock)
      (follows : s.Follows i answer place) (tunnel : p.tunnel = s.provider.tunnel)
      (opened : p.opened = s.provider.opened)
      (failure : p.lastFailureTimestamp = s.provider.lastFailureTimestamp ∨ p.lastFailureTimestamp = s.now)
      (first : p.first = true → s.provider.first = true ∧ s.place i ≠ .opened)
      (settled : ¬ (s.place i).Pending → p = s.provider) :
      Turns s i answer { s with
        provider := p
        getCurrentTunnelLock := lock
        place := Function.update s.place i place }
  | opens {slot : Option Nat} (here : s.place i = .locked ∧ s.provider.tunnel = none ∨ s.place i = .waiting)
      (waited : s.provider.waitUntilNextAttemptSlot [s.now] = .ok slot) :
      Turns s i answer { s with
        provider := s.provider.openTunnel slot
        attempts := s.attempts ++ [(i, s.now)]
        place := Function.update s.place i .opened }
  | connects {t : Nat} {notifies : Bool} (here : s.place i = .connecting t notifies) :
      Turns s i answer { s with
        provider := setConnected t s.provider
        place := Function.update s.place i .connected }
  | invalidates {t : Nat} {closes : Bool} {place : Place}
      (held : s.provider.tunnel = some t) (here : s.place i = .invalidating t ∨ s.place i = .closing)
      (leaves : place = .loop ∨ place = .idle ∨ place = .threw) :
      Turns s i answer { s with
        provider := (s.provider.invalidateTunnel s.now closes).1
        place := Function.update s.place i place }

section Turn
variable {s : PersistentRelayTunnel ι} {i : ι} {answer : Answer} {place : Place} {tunnel : Option Nat}

omit [DecidableEq ι] in
theorem Follows.plain (plain : place.Plain) (pending : place.Pending → (s.place i).Pending) :
    s.Follows i answer place := by
  cases place with
  | idle | loop | connected | failed _ | notifyDisconnected | returning | nullPointer | threw =>
    exact ⟨nofun, nofun, False.elim, nofun, ⟨nofun, nofun⟩, pending⟩
  | _ => exact plain.elim

theorem turns_goto (opened : s.place i ≠ .opened) (same : place.Inside ↔ (s.place i).Inside)
    (follows : s.Follows i answer place) : s.Turns i answer (s.goto i place) :=
  .moves (.keeps same) follows rfl rfl (Or.inl rfl) (fun first => ⟨first, opened⟩) fun _ => rfl

theorem turns_release (opened : s.place i ≠ .opened) (here : (s.place i).Inside) (leaves : ¬ place.Inside)
    (follows : s.Follows i answer place) : s.Turns i answer (s.unlock.goto i place) :=
  .moves (.releases here leaves) follows rfl rfl (Or.inl rfl) (fun first => ⟨first, opened⟩) fun _ => rfl

theorem turns_wait (here : s.place i = .locked ∧ s.provider.tunnel = none ∨ s.place i = .waiting) :
    s.Turns i answer (s.waitUntilNextAttemptSlot i) := by
  unfold waitUntilNextAttemptSlot
  split
  · rename_i slot waited
    exact .opens here waited
  · have inside : (s.place i).Inside ∧ (s.place i).MayOpen ∧ s.place i ≠ .opened := by
      obtain ⟨locked, _⟩ | waiting := here
      · exact locked ▸ ⟨trivial, trivial, nofun⟩
      · exact waiting ▸ ⟨trivial, trivial, nofun⟩
    refine turns_goto inside.2.2 (iff_of_true trivial inside.1) ⟨nofun, fun _ => ?_, fun _ => Or.inl inside.2.1,
      nofun, ⟨nofun, nofun⟩, False.elim⟩
    exact here.imp And.right id

theorem turns_connectTunnel (here : s.place i = .opened) : s.Turns i answer (s.turn i answer) := by
  have pending : (s.place i).Pending := by rw [here]; trivial
  simp only [turn, here, edit]
  cases held : s.provider.tunnel with
  | some t =>
    refine .moves (.keeps (by rw [here]; exact Iff.rfl)) ⟨fun u same => Or.inl ?_, nofun, False.elim, nofun,
      ⟨nofun, nofun⟩, fun _ => pending⟩ held.symm rfl (Or.inl rfl) nofun (absurd pending)
    rw [held, ← same]
    rfl
  | none =>
    exact .moves (.releases (by rw [here]; trivial) id) (.plain trivial False.elim) held.symm rfl (Or.inl rfl) nofun
      (absurd pending)

/-- An invalidation that takes effect, or one that only moves the thread on. -/
theorem turns_invalidate {closes : Bool} {next : Place} (leaves : next = .loop ∨ next = .idle ∨ next = .threw)
    (here : ∀ t, s.provider.tunnel = some t → s.place i = .invalidating t ∨ s.place i = .closing)
    (outside : ¬ (s.place i).Inside) (notOpened : s.place i ≠ .opened) :
    s.Turns i answer ({ s with provider := (s.provider.invalidateTunnel s.now closes).1 }.goto i next) := by
  cases held : s.provider.tunnel with
  | some t =>
    exact .invalidates held (here t held) leaves
  | none =>
    simp only [RelayTunnelProvider.invalidateTunnel_none held]
    have plain : s.Follows i answer next ∧ ¬ next.Inside := by
      obtain rfl | rfl | rfl := leaves <;> exact ⟨.plain trivial False.elim, id⟩
    exact turns_goto notOpened (iff_of_false plain.2 outside) plain.1

theorem turns_transferring (here : s.place i = .transferring tunnel) :
    s.Turns i answer (s.turn i answer) := by
  have leave {next : Place} (plain : s.Follows i answer next) (outside : ¬ next.Inside) : s.Turns i answer (s.goto i next) :=
    turns_goto (by rw [here]; nofun) (by rw [here]; exact iff_of_false outside id) plain
  cases tunnel with
  | none =>
    simp only [turn, here]
    exact leave (.plain trivial False.elim) id
  | some t =>
    have invalidates (fails : answer = .failed ∨ answer = .interrupted) :
        s.Turns i answer (s.goto i (.invalidating t)) := by
      refine leave ⟨fun u same => Or.inr ?_, nofun, False.elim, fun u same => ?_, ⟨nofun, nofun⟩, False.elim⟩ id
      · rw [here, ← same]
        rfl
      · cases same
        exact ⟨here, fails⟩
    cases answer with simp only [turn, here]
    | done => exact leave (.plain trivial False.elim) id
    | failed => exact invalidates (Or.inl rfl)
    | interrupted => exact invalidates (Or.inr rfl)
    | runtimeException => exact leave (.plain trivial False.elim) id

theorem turns_invalidating {t : Nat} (here : s.place i = .invalidating t) :
    s.Turns i answer (s.turn i answer) := by
  simp only [turn, here, edit, RelayTunnelProvider.invalidateTunnelIf]
  by_cases named : s.provider.tunnel = some t
  · simp only [named, true_or, if_true]
    refine turns_invalidate (by split <;> simp) (fun u held => Or.inl ?_) (by rw [here]; exact id) (by simp [here])
    rw [here, ← Option.some.inj (named.symm.trans held)]
  · have other : ¬ (s.provider.tunnel = some t ∨ some t = none) := by simp [named]
    simp only [if_neg other]
    exact turns_goto (by simp [here]) (by rw [here]; exact Iff.rfl) (.plain trivial False.elim)

/-- The turns in the section after `tunnel.connect()`. -/
theorem turns_connected (here : s.place i = .connected ∨ s.place i = .notifyDisconnected ∨
    ∃ notifies, s.place i = .failed notifies) : s.Turns i answer (s.turn i answer) := by
  have pending : (s.place i).Pending := by obtain here | here | ⟨_, here⟩ := here <;> rw [here] <;> trivial
  obtain here | here | ⟨notifies, here⟩ := here <;> simp only [turn, here]
  · exact .moves (.releases (by rw [here]; trivial) id) (.plain trivial False.elim) rfl rfl (Or.inl rfl)
      (fun first => ⟨first, by rw [here]; nofun⟩) (absurd pending)
  · exact .moves (.releases (by rw [here]; trivial) id) (.plain trivial False.elim) rfl rfl (Or.inl rfl)
      (fun first => ⟨first, by rw [here]; nofun⟩) (absurd pending)
  · cases notifies with
    | true =>
      exact .moves (.keeps (by rw [here]; exact Iff.rfl)) (.plain trivial fun _ => pending) rfl rfl (Or.inr rfl)
        (fun first => ⟨first, by rw [here]; nofun⟩) (absurd pending)
    | false =>
      exact .moves (.releases (by rw [here]; trivial) id) (.plain trivial False.elim) rfl rfl (Or.inr rfl)
        (fun first => ⟨first, by rw [here]; nofun⟩) (absurd pending)

theorem turns_loop (here : s.place i = .loop) : s.Turns i answer (s.turn i answer) := by
  simp only [turn, here]
  cases stopped : s.stopped with
  | true => exact turns_goto (by rw [here]; nofun) (by rw [here]; exact Iff.rfl) (.plain trivial False.elim)
  | false =>
    exact turns_goto (by rw [here]; nofun) (by rw [here]; exact Iff.rfl)
      ⟨nofun, nofun, fun _ => Or.inr stopped, nofun, ⟨nofun, nofun⟩, False.elim⟩

/-- The turns up to `RelayTunnel.open`. -/
theorem turns_entering (may : (s.place i).MayOpen) : s.Turns i answer (s.turn i answer) := by
  cases here : s.place i with
  | getCurrentTunnel =>
    cases lock : s.getCurrentTunnelLock with simp only [turn, here, lock]
    | none =>
      exact .moves (.acquires lock trivial) ⟨nofun, nofun, fun _ => Or.inl (by rw [here]; trivial), nofun,
        ⟨nofun, nofun⟩, False.elim⟩ rfl rfl (Or.inl rfl) (fun first => ⟨first, by rw [here]; nofun⟩) fun _ => rfl
    | some _ => exact .stays
  | locked =>
    cases held : s.provider.tunnel with simp only [turn, here, held]
    | some t =>
      refine turns_release (by rw [here]; nofun) (by rw [here]; trivial) id ⟨fun u same => Or.inl ?_, nofun,
        False.elim, nofun, ⟨nofun, nofun⟩, False.elim⟩
      rw [held, ← same]
      rfl
    | none => exact turns_wait (Or.inl ⟨here, held⟩)
  | waiting =>
    simp only [turn, here]
    split
    · exact turns_release (by rw [here]; nofun) (by rw [here]; trivial) id (.plain trivial False.elim)
    · exact turns_wait (Or.inr here)
  | _ => rw [here] at may; exact may.elim

theorem turn_cases (s : PersistentRelayTunnel ι) (i : ι) (answer : Answer) : s.Turns i answer (s.turn i answer) := by
  cases here : s.place i with
  | idle | nullPointer | threw => simp only [turn, here]; exact .stays
  | loop => exact turns_loop here
  | getCurrentTunnel | locked | waiting => exact turns_entering (by rw [here]; trivial)
  | opened => exact turns_connectTunnel here
  | connecting t notifies =>
    simp only [turn, here]
    split
    · exact .connects here
    · exact turns_goto (by rw [here]; nofun) (by rw [here]; exact Iff.rfl) (.plain trivial fun _ => by rw [here]; trivial)
  | connected => exact turns_connected (Or.inl here)
  | failed notifies => exact turns_connected (Or.inr (Or.inr ⟨notifies, here⟩))
  | notifyDisconnected => exact turns_connected (Or.inr (Or.inl here))
  | returning =>
    simp only [turn, here]
    refine turns_goto (by rw [here]; nofun) (by rw [here]; exact Iff.rfl) ⟨fun t same => Or.inl ?_, nofun, False.elim,
      nofun, ⟨nofun, nofun⟩, False.elim⟩
    rw [← same]
    cases s.provider.tunnel <;> rfl
  | transferring tunnel => exact turns_transferring here
  | invalidating t => exact turns_invalidating here
  | closing =>
    simp only [turn, here, edit]
    exact turns_invalidate (by split <;> simp) (fun _ _ => Or.inr here) (by rw [here]; exact id) (by rw [here]; nofun)

end Turn

/-! ### One tunnel at a time -/

/-- The tunnel that a thread refers to was opened. -/
def Refers (p : RelayTunnelProvider) (place : Place) : Prop := ∀ t, place.tunnel? = some t → t < p.opened.length

/-- Nobody else writes the field while a thread waits for the slot. -/
def Waits (p : RelayTunnelProvider) (place : Place) : Prop := place = .waiting → p.tunnel = none

/-- Every tunnel but the one in the field is closed. -/
structure Safe (s : PersistentRelayTunnel ι) : Prop where
  guards : Guards Place.Inside s.getCurrentTunnelLock s.place
  waits : ∀ i, Waits s.provider (s.place i)
  last : ∀ t, s.provider.tunnel = some t → t + 1 = s.provider.opened.length
  live : ∀ (t : Nat) (tunnel : RelayTunnel), s.provider.opened[t]? = some tunnel → tunnel.closed = false →
    s.provider.tunnel = some t
  refers : ∀ i, Refers s.provider (s.place i)

section Safe
variable {s s' : PersistentRelayTunnel ι} {i : ι} {answer : Answer} {place : Place} {lock : Option ι}

theorem Locks.guards (locks : s.Locks i place lock) (guards : Guards Place.Inside s.getCurrentTunnelLock s.place) :
    Guards Place.Inside lock (Function.update s.place i place) := by
  cases locks with
  | keeps same => exact guards.goto same
  | acquires free enters =>
    rw [free] at guards
    exact guards.acquire enters
  | releases here leaves => exact guards.release here leaves

omit [DecidableEq ι] in
/-- The thread that opens a tunnel is the one inside, and the field is empty. -/
theorem Safe.opener (safe : s.Safe) (here : s.place i = .locked ∧ s.provider.tunnel = none ∨ s.place i = .waiting) :
    (s.place i).Inside ∧ s.provider.tunnel = none := by
  obtain ⟨locked, none⟩ | waiting := here
  · exact ⟨locked ▸ trivial, none⟩
  · exact ⟨waiting ▸ trivial, safe.waits i waiting⟩

theorem Safe.moves (safe : s.Safe) {p : RelayTunnelProvider} (locks : s.Locks i place lock)
    (follows : s.Follows i answer place) (tunnel : p.tunnel = s.provider.tunnel) (opened : p.opened = s.provider.opened) :
    Safe { s with provider := p, getCurrentTunnelLock := lock, place := Function.update s.place i place } where
  guards := locks.guards safe.guards
  waits := by
    have waits : ∀ j, Waits p (s.place j) := fun j waiting => tunnel.trans (safe.waits j waiting)
    exact everywhere_goto (Waits p) waits fun here =>
      tunnel.trans ((follows.waits here).elim id (safe.waits i))
  last := by rw [tunnel, opened]; exact safe.last
  live := by rw [tunnel, opened]; exact safe.live
  refers := by
    have refers : ∀ j, Refers p (s.place j) := fun j t same => opened ▸ safe.refers j t same
    refine everywhere_goto (Refers p) refers fun t same => ?_
    obtain held | before := follows.refers t same
    · have := safe.last t held
      rw [opened]
      omega
    · exact refers i t before

theorem Safe.opens (safe : s.Safe) {slot : Option Nat} {attempts : List (ι × Nat)}
    (here : s.place i = .locked ∧ s.provider.tunnel = none ∨ s.place i = .waiting) :
    Safe { s with
      provider := s.provider.openTunnel slot
      attempts
      place := Function.update s.place i .opened } := by
  obtain ⟨inside, none⟩ := safe.opener here
  have length : (s.provider.openTunnel slot).opened.length = s.provider.opened.length + 1 := by
    simp only [RelayTunnelProvider.openTunnel, List.length_append, List.length_singleton]
  refine ⟨safe.guards.goto (iff_of_true trivial inside), fun j waiting => ?_, fun t held => ?_,
    fun t tunnel there isOpen => ?_, ?_⟩
  · dsimp only at waiting
    by_cases own : j = i
    · rw [own, Function.update_self] at waiting
      cases waiting
    · rw [Function.update_of_ne own] at waiting
      exact absurd (waiting ▸ trivial) (safe.guards.outside inside own)
  · cases held
    exact length.symm
  · have inRange := (List.getElem?_eq_some_iff.mp there).choose
    by_cases before : t < s.provider.opened.length
    · have old : s.provider.opened[t]? = some tunnel := by
        rw [← there]
        exact (List.getElem?_append_left before).symm
      have held := safe.live t tunnel old isOpen
      rw [none] at held
      cases held
    · rw [length] at inRange
      rw [show t = s.provider.opened.length by omega]
      rfl
  · refine everywhere_goto (Refers (s.provider.openTunnel slot)) (fun j t same => ?_) (by simp [Refers, Place.tunnel?])
    have := safe.refers j t same
    omega

omit [DecidableEq ι] in
/-- An edit of one tunnel that opens nothing again. -/
theorem Safe.modify (safe : s.Safe) (edit : RelayTunnel → RelayTunnel) {t u : Nat}
    (keeps : ∀ tunnel, (edit tunnel).closed = false → tunnel.closed = false) {tunnel : RelayTunnel}
    (there : (s.provider.opened.modify t edit)[u]? = some tunnel) (isOpen : tunnel.closed = false) :
    s.provider.tunnel = some u := by
  rw [List.getElem?_modify] at there
  obtain ⟨before, found, same⟩ := Option.map_eq_some_iff.mp there
  refine safe.live u before found ?_
  subst same
  split at isOpen
  · exact keeps before isOpen
  · exact isOpen

omit [DecidableEq ι] in
theorem Safe.refers_modify (safe : s.Safe) {p : RelayTunnelProvider} {t : Nat} {edit : RelayTunnel → RelayTunnel}
    (opened : p.opened = s.provider.opened.modify t edit) : ∀ j, Refers p (s.place j) := by
  intro j u same
  rw [opened, List.length_modify]
  exact safe.refers j u same

theorem Safe.connects (safe : s.Safe) {t : Nat} {notifies : Bool} (here : s.place i = .connecting t notifies) :
    Safe { s with provider := setConnected t s.provider, place := Function.update s.place i .connected } where
  guards := safe.guards.goto (by rw [here]; exact Iff.rfl)
  waits := everywhere_goto (Waits _) safe.waits fun here => by cases here
  last u held := by
    rw [setConnected, List.length_modify]
    exact safe.last u held
  live _ _ there isOpen := safe.modify ({ · with connected := true }) (fun _ => id) there isOpen
  refers := everywhere_goto (Refers _) (safe.refers_modify rfl) nofun

theorem Safe.invalidates (safe : s.Safe) {t : Nat} {closes : Bool}
    (held : s.provider.tunnel = some t) (here : s.place i = .invalidating t ∨ s.place i = .closing)
    (leaves : place = .loop ∨ place = .idle ∨ place = .threw) :
    Safe { s with
      provider := (s.provider.invalidateTunnel s.now closes).1
      place := Function.update s.place i place } := by
  obtain ⟨notified, invalidated⟩ := RelayTunnelProvider.invalidateTunnel_held held s.now closes
  rw [invalidated]
  have outside : ¬ (s.place i).Inside := by obtain here | here := here <;> rw [here] <;> exact id
  have plain : ¬ place.Inside ∧ place ≠ .waiting ∧ place.tunnel? = none := by
    obtain rfl | rfl | rfl := leaves <;> exact ⟨id, nofun, rfl⟩
  refine ⟨safe.guards.goto (iff_of_false plain.1 outside), ?_, fun u same => ?_, fun u tunnel there isOpen => ?_, ?_⟩
  · refine everywhere_goto (Waits _) (fun j waiting => ?_) fun waiting => absurd waiting plain.2.1
    have none := safe.waits j waiting
    rw [held] at none
    cases none
  · dsimp only at same ⊢
    split at same
    · cases same
    · rw [List.length_modify]
      exact safe.last u (held.trans same)
  · have other := safe.modify ({ · with closed := true }) nofun there isOpen
    cases held.symm.trans other
    dsimp only at there
    rw [List.getElem?_modify_eq] at there
    obtain ⟨_, _, rfl⟩ := Option.map_eq_some_iff.mp there
    cases isOpen
  · exact everywhere_goto (Refers _) (safe.refers_modify rfl) fun u same => by rw [plain.2.2] at same; cases same

theorem Safe.turn (safe : s.Safe) (turns : s.Turns i answer s') : s'.Safe := by
  cases turns with
  | stays => exact safe
  | moves locks follows tunnel opened => exact safe.moves locks follows tunnel opened
  | opens here _ => exact safe.opens here
  | connects here => exact safe.connects here
  | invalidates held here leaves => exact safe.invalidates held here leaves

/-- A call that a thread begins. -/
theorem Safe.enters (safe : s.Safe) (idle : s.place i = .idle) (plain : ¬ place.Inside)
    (refers : place.tunnel? = none) (waits : place ≠ .waiting) : (s.goto i place).Safe where
  guards := safe.guards.goto (by rw [idle]; exact iff_of_false plain id)
  waits := everywhere_goto (Waits _) safe.waits fun here => absurd here waits
  last := safe.last
  live := safe.live
  refers := everywhere_goto (Refers _) safe.refers fun t same => by rw [refers] at same; cases same

theorem Safe.step (safe : s.Safe) (event : Event ι) : (s.step event).Safe := by
  cases event with
  | tick ms => exact ⟨safe.guards, safe.waits, safe.last, safe.live, safe.refers⟩
  | transfer i =>
    rw [PersistentRelayTunnel.step]
    split
    · rename_i idle
      exact safe.enters idle id rfl nofun
    · exact safe
  | close i =>
    rw [PersistentRelayTunnel.step]
    split
    · rename_i idle
      have stops : Safe { s with stopped := true } := ⟨safe.guards, safe.waits, safe.last, safe.live, safe.refers⟩
      exact stops.enters idle id rfl nofun
    · exact safe
  | turn i answer => exact safe.turn (turn_cases s i answer)

omit [DecidableEq ι] in
theorem safe_start : Safe ({} : PersistentRelayTunnel ι) where
  guards _ := iff_of_false id nofun
  waits := nofun
  last := nofun
  live _ _ there := nomatch there
  refers := nofun

theorem safe_run (events : List (Event ι)) : (run step ({} : PersistentRelayTunnel ι) events).Safe :=
  run_always (fun _ event safe => safe.step event) safe_start events

end Safe

/-- Of all the tunnels that were ever opened, a thread works on the last one, that every other thread gets
too, or on one that was closed. -/
theorem threads_share_tunnel (events : List (Event ι)) {i : ι} {t : Nat}
    (refers : ((run step {} events).place i).tunnel? = some t) :
    let p := (run step ({} : PersistentRelayTunnel ι) events).provider
    p.tunnel = some t ∧ t + 1 = p.opened.length ∨ ∃ tunnel, p.opened[t]? = some tunnel ∧ tunnel.closed = true := by
  intro p
  have safe := safe_run events
  obtain ⟨tunnel, there⟩ : ∃ tunnel, p.opened[t]? = some tunnel :=
    ⟨_, List.getElem?_eq_getElem (safe.refers i t refers)⟩
  cases closed : tunnel.closed with
  | true => exact Or.inr ⟨tunnel, there, closed⟩
  | false =>
    have held := safe.live t tunnel there closed
    exact Or.inl ⟨held, safe.last t held⟩

/-- A thread that connects the first tunnel, and another one that gets it afterwards. -/
def connectThenShare : List (Event Bool) :=
  .transfer true :: List.replicate 7 (.turn true .done) ++ .transfer false :: List.replicate 3 (.turn false .done)

theorem second_thread_shares :
    let p := (run step ({} : PersistentRelayTunnel Bool) connectThenShare).provider
    p.tunnel = some 0 ∧ 0 + 1 = p.opened.length ∨ ∃ tunnel, p.opened[0]? = some tunnel ∧ tunnel.closed = true :=
  threads_share_tunnel connectThenShare (i := false) (by decide)

/-! ### The delay between attempts -/

/-- Every attempt comes late enough after the one before. -/
structure Spaced (s : PersistentRelayTunnel ι) : Prop where
  counted : s.attempts.length = s.provider.opened.length
  spaced : s.attempts.Pairwise fun a b => a.2 + RelayTunnelProvider.delayBetweenAttemptsMs ≤ b.2
  past : ∀ a ∈ s.attempts, a.2 ≤ s.now
  failed : s.provider.tunnel = none → ∀ a ∈ s.attempts, a.2 ≤ s.provider.lastFailureTimestamp
  first : s.provider.first = true → s.attempts = [] ∨ ∃ j, s.place j = .opened

theorem waited_once {p : RelayTunnelProvider} {now : Nat} {slot : Option Nat}
    (waited : p.waitUntilNextAttemptSlot [now] = .ok slot) :
    p.first = true ∨ p.lastFailureTimestamp + RelayTunnelProvider.delayBetweenAttemptsMs ≤ now := by
  cases first : p.first with
  | true => exact Or.inl rfl
  | false =>
    rw [RelayTunnelProvider.waitUntilNextAttemptSlot, first] at waited
    by_cases late : p.lastFailureTimestamp + RelayTunnelProvider.delayBetweenAttemptsMs ≤ now
    · exact Or.inr late
    · simp [RelayTunnelProvider.waitUntil, late] at waited

section Spaced
variable {s s' : PersistentRelayTunnel ι} {i : ι} {answer : Answer} {place : Place}

theorem opened_goto (opened : ∃ j, s.place j = .opened) (other : s.place i ≠ .opened) :
    ∃ j, Function.update s.place i place j = .opened := by
  obtain ⟨j, there⟩ := opened
  have apart : j ≠ i := by
    rintro rfl
    exact other there
  exact ⟨j, (Function.update_of_ne apart ..).trans there⟩

theorem Spaced.opens (spaced : s.Spaced) (safe : s.Safe) {slot : Option Nat}
    (here : s.place i = .locked ∧ s.provider.tunnel = none ∨ s.place i = .waiting)
    (waited : s.provider.waitUntilNextAttemptSlot [s.now] = .ok slot) :
    Spaced { s with
      provider := s.provider.openTunnel slot
      attempts := s.attempts ++ [(i, s.now)]
      place := Function.update s.place i .opened } := by
  obtain ⟨inside, none⟩ := safe.opener here
  have late : ∀ a ∈ s.attempts, a.2 + RelayTunnelProvider.delayBetweenAttemptsMs ≤ s.now := by
    intro a member
    obtain first | late := waited_once waited
    · obtain empty | ⟨j, opened⟩ := spaced.first first
      · rw [empty] at member
        cases member
      · have same := safe.guards.unique inside (i := i) (j := j) (opened ▸ trivial)
        subst same
        rw [opened] at here
        obtain ⟨locked, _⟩ | waiting := here
        · cases locked
        · cases waiting
    · have := spaced.failed none a member
      omega
  refine ⟨?_, List.pairwise_append.mpr ⟨spaced.spaced, List.pairwise_singleton _ _, ?_⟩, ?_, nofun,
    fun _ => Or.inr ⟨i, Function.update_self ..⟩⟩
  · simp only [RelayTunnelProvider.openTunnel, List.length_append, List.length_singleton, spaced.counted]
  · intro a member b last
    cases List.mem_singleton.mp last
    exact late a member
  · intro a member
    obtain old | new := List.mem_append.mp member
    · exact spaced.past a old
    · cases List.mem_singleton.mp new
      exact Nat.le_refl _

theorem Spaced.turn (spaced : s.Spaced) (safe : s.Safe) (turns : s.Turns i answer s') : s'.Spaced := by
  cases turns with
  | stays => exact spaced
  | moves locks follows tunnel opened failure first _ =>
    refine ⟨opened ▸ spaced.counted, spaced.spaced, spaced.past, fun none a member => ?_, fun isFirst => ?_⟩
    · obtain same | now := failure
      · rw [same]
        exact spaced.failed (tunnel ▸ none) a member
      · rw [now]
        exact spaced.past a member
    · obtain ⟨before, notOpened⟩ := first isFirst
      exact (spaced.first before).imp id fun opened => opened_goto opened notOpened
  | opens here waited => exact spaced.opens safe here waited
  | connects here =>
    refine ⟨?_, spaced.spaced, spaced.past, spaced.failed, fun first => ?_⟩
    · rw [setConnected, List.length_modify]
      exact spaced.counted
    · exact (spaced.first first).imp id fun opened => opened_goto opened (by rw [here]; nofun)
  | @invalidates t closes place held here leaves =>
    obtain ⟨notified, invalidated⟩ := RelayTunnelProvider.invalidateTunnel_held held s.now closes
    rw [invalidated]
    refine ⟨?_, spaced.spaced, spaced.past, fun _ => spaced.past, fun first => ?_⟩
    · dsimp only
      rw [List.length_modify]
      exact spaced.counted
    · refine (spaced.first first).imp id fun opened => opened_goto opened ?_
      obtain here | here := here <;> rw [here] <;> nofun

theorem Spaced.enters (spaced : s.Spaced) (idle : s.place i = .idle) : (s.goto i place).Spaced :=
  ⟨spaced.counted, spaced.spaced, spaced.past, spaced.failed, fun first =>
    (spaced.first first).imp id fun opened => opened_goto opened (by rw [idle]; nofun)⟩

theorem Spaced.step (spaced : s.Spaced) (safe : s.Safe) (event : Event ι) : (s.step event).Spaced := by
  cases event with
  | tick ms =>
    exact ⟨spaced.counted, spaced.spaced, fun a member => Nat.le_add_right_of_le (spaced.past a member), spaced.failed, spaced.first⟩
  | transfer i =>
    rw [PersistentRelayTunnel.step]
    split
    · rename_i idle
      exact spaced.enters idle
    · exact spaced
  | close i =>
    rw [PersistentRelayTunnel.step]
    split
    · rename_i idle
      have stops : Spaced { s with stopped := true } := ⟨spaced.counted, spaced.spaced, spaced.past,
        spaced.failed, spaced.first⟩
      exact stops.enters idle
    · exact spaced
  | turn i answer => exact spaced.turn safe (turn_cases s i answer)

end Spaced

/-- However the threads interleave, two tunnels are never opened within the delay. -/
theorem attempts_spaced (events : List (Event ι)) :
    let s := run step ({} : PersistentRelayTunnel ι) events
    s.attempts.length = s.provider.opened.length ∧
      s.attempts.Pairwise fun a b => a.2 + RelayTunnelProvider.delayBetweenAttemptsMs ≤ b.2 := by
  have start : Safe ({} : PersistentRelayTunnel ι) ∧ Spaced ({} : PersistentRelayTunnel ι) :=
    ⟨safe_start, rfl, List.Pairwise.nil, nofun, nofun, fun _ => Or.inl rfl⟩
  have spaced := (run_always (P := fun s => Safe s ∧ Spaced s)
    (fun _ event both => ⟨both.1.step event, both.2.step both.1 event⟩) start events).2
  exact ⟨spaced.counted, spaced.spaced⟩

/-! ### After `close` -/

/-- What was opened since the tunnel was stopped, by threads that were past the test of `stopped`. -/
structure Late (s₀ s : PersistentRelayTunnel ι) (later : List (ι × Nat)) : Prop where
  stopped : s.stopped = true
  attempts : s.attempts = s₀.attempts ++ later
  once : (later.map Prod.fst).Nodup
  spent : ∀ a ∈ later, (s₀.place a.1).MayOpen ∧ ¬ (s.place a.1).MayOpen
  may : ∀ j, (s.place j).MayOpen → (s₀.place j).MayOpen

section Late
variable {s₀ s s' : PersistentRelayTunnel ι} {i : ι} {answer : Answer} {later : List (ι × Nat)}

/-- A move that leads no thread back to `RelayTunnel.open`. -/
theorem Late.moves (late : Late s₀ s later) (i : ι) (place : Place) (mayOpen : place.MayOpen → (s.place i).MayOpen)
    {place' : ι → Place} (moved : place' = Function.update s.place i place) (p : RelayTunnelProvider)
    (lock : Option ι) (now : Nat) :
    Late s₀ { s with provider := p, getCurrentTunnelLock := lock, now, place := place' } later := by
  have back : ∀ j, (place' j).MayOpen → (s.place j).MayOpen := by
    rw [moved]
    intro j
    by_cases here : j = i
    · rw [here, Function.update_self]
      exact mayOpen
    · rw [Function.update_of_ne here]
      exact id
  exact ⟨late.stopped, late.attempts, late.once, fun a member => ⟨(late.spent a member).1, fun may =>
    (late.spent a member).2 (back a.1 may)⟩, fun j may => late.may j (back j may)⟩

theorem Late.opens (late : Late s₀ s later) (may : (s.place i).MayOpen) {p : RelayTunnelProvider} :
    Late s₀ { s with
      provider := p
      attempts := s.attempts ++ [(i, s.now)]
      place := Function.update s.place i .opened } (later ++ [(i, s.now)]) := by
  have moved := late.moves i .opened False.elim rfl p s.getCurrentTunnelLock s.now
  refine ⟨late.stopped, ?_, ?_, fun a member => ?_, moved.may⟩
  · dsimp only
    rw [late.attempts, List.append_assoc]
  · rw [List.map_append, List.nodup_append]
    refine ⟨late.once, by simp, fun j old k new => ?_⟩
    cases List.mem_singleton.mp new
    obtain ⟨a, member, rfl⟩ := List.mem_map.mp old
    rintro rfl
    exact (late.spent a member).2 may
  · obtain old | new := List.mem_append.mp member
    · exact moved.spent a old
    · cases List.mem_singleton.mp new
      refine ⟨late.may i may, ?_⟩
      dsimp only
      rw [Function.update_self]
      exact id

theorem Late.turn (late : Late s₀ s later) (turns : s.Turns i answer s') : ∃ later, Late s₀ s' later := by
  cases turns with
  | stays => exact ⟨later, late⟩
  | moves locks follows =>
    refine ⟨later, late.moves i _ (fun may => (follows.mayOpen may).elim id fun running => ?_) rfl _ _ _⟩
    rw [late.stopped] at running
    cases running
  | opens here _ =>
    refine ⟨_, late.opens ?_⟩
    obtain ⟨here, _⟩ | here := here <;> rw [here] <;> trivial
  | connects here => exact ⟨later, late.moves i _ False.elim rfl _ _ _⟩
  | invalidates _ _ leaves =>
    refine ⟨later, late.moves i _ (fun may => ?_) rfl _ _ _⟩
    obtain rfl | rfl | rfl := leaves <;> exact may.elim

theorem Late.step (late : Late s₀ s later) (event : Event ι) : ∃ later, Late s₀ (s.step event) later := by
  cases event with
  | tick ms => exact ⟨later, late.stopped, late.attempts, late.once, late.spent, late.may⟩
  | transfer i =>
    rw [PersistentRelayTunnel.step]
    split
    · exact ⟨later, late.moves i _ False.elim rfl _ _ _⟩
    · exact ⟨later, late⟩
  | close i =>
    rw [PersistentRelayTunnel.step]
    split
    · have moved := late.moves i .closing False.elim rfl s.provider s.getCurrentTunnelLock s.now
      exact ⟨later, rfl, moved.attempts, moved.once, moved.spent, moved.may⟩
    · exact ⟨later, late⟩
  | turn i answer => exact late.turn (turn_cases s i answer)

end Late

/-- Once `close` was called, each thread opens at most one more tunnel, and only when it was past the test of
`stopped` by then. -/
theorem few_attempts_after_close {s : PersistentRelayTunnel ι} (stopped : s.stopped = true) (events : List (Event ι)) :
    ∃ later, (run step s events).attempts = s.attempts ++ later ∧ (later.map Prod.fst).Nodup ∧
      ∀ a ∈ later, (s.place a.1).MayOpen := by
  have start : ∃ later, Late s s later :=
    ⟨[], stopped, (List.append_nil _).symm, List.nodup_nil, nofun, fun _ => id⟩
  obtain ⟨later, late⟩ := run_always (P := fun s' => ∃ later, Late s s' later)
    (fun _ event ⟨_, late⟩ => late.step event) start events
  exact ⟨later, late.attempts, late.once, fun a member => (late.spent a member).1⟩

theorem one_attempt_after_close :
    let s := run step ({} : PersistentRelayTunnel Bool) [.transfer true, .turn true .done, .close false]
    ∃ later, (run step s (List.replicate 2 (.turn true .done))).attempts = s.attempts ++ later ∧
      (later.map Prod.fst).Nodup ∧ ∀ a ∈ later, (s.place a.1).MayOpen :=
  few_attempts_after_close (by decide) _

/-! ### Invalidations that come late -/

/-- No transfer on the tunnel fails, and nobody calls `close`. -/
def Spares (t : Nat) (s : PersistentRelayTunnel ι) : Event ι → Prop
  | .close _ => False
  | .turn i answer => s.place i = .transferring (some t) → answer ≠ .failed ∧ answer ≠ .interrupted
  | _ => True

def Unhurt (t : Nat) (place : Place) : Prop := place ≠ .invalidating t ∧ place ≠ .closing

structure Spared (t : Nat) (s : PersistentRelayTunnel ι) : Prop where
  safe : s.Safe
  unhurt : ∀ i, Unhurt t (s.place i)
  isOpen : ∀ tunnel : RelayTunnel, s.provider.opened[t]? = some tunnel → tunnel.closed = false

section Spared
variable {s s' : PersistentRelayTunnel ι} {i : ι} {answer : Answer} {t : Nat}

omit [DecidableEq ι] in
/-- An edit of another tunnel, or one that closes nothing. -/
theorem Spared.modify (spared : s.Spared t) (edit : RelayTunnel → RelayTunnel) {u : Nat}
    (keeps : u = t → ∀ tunnel, (edit tunnel).closed = tunnel.closed) {tunnel : RelayTunnel}
    (there : (s.provider.opened.modify u edit)[t]? = some tunnel) : tunnel.closed = false := by
  rw [List.getElem?_modify] at there
  obtain ⟨before, found, same⟩ := Option.map_eq_some_iff.mp there
  have isOpen := spared.isOpen before found
  split at same
  · rename_i named
    rw [← same, keeps named]
    exact isOpen
  · rw [← same]
    exact isOpen

theorem Spared.turn (spared : s.Spared t) (spares : s.Spares t (.turn i answer)) (turns : s.Turns i answer s') :
    s'.Spared t := by
  have safe := spared.safe.turn turns
  cases turns with
  | stays => exact spared
  | moves locks follows _ opened =>
    refine ⟨safe, everywhere_goto (Unhurt t) spared.unhurt ⟨fun invalidating => ?_, follows.fresh.2⟩, ?_⟩
    · obtain ⟨transferring, failed | interrupted⟩ := follows.fails t invalidating
      · exact (spares transferring).1 failed
      · exact (spares transferring).2 interrupted
    · dsimp only
      rw [opened]
      exact spared.isOpen
  | opens here _ =>
    refine ⟨safe, everywhere_goto (Unhurt t) spared.unhurt (by simp [Unhurt]), fun tunnel there => ?_⟩
    by_cases before : t < s.provider.opened.length
    · rw [RelayTunnelProvider.openTunnel, List.getElem?_append_left before] at there
      exact spared.isOpen tunnel there
    · rw [RelayTunnelProvider.openTunnel, List.getElem?_append_right (by omega)] at there
      have new := List.mem_singleton.mp (List.mem_of_getElem? there)
      rw [new]
  | connects here =>
    refine ⟨safe, everywhere_goto (Unhurt t) spared.unhurt (by simp [Unhurt]), fun tunnel there => ?_⟩
    exact spared.modify ({ · with connected := true }) (fun _ _ => rfl) there
  | @invalidates u closes place held here leaves =>
    obtain ⟨notified, invalidated⟩ := RelayTunnelProvider.invalidateTunnel_held held s.now closes
    rw [invalidated] at safe ⊢
    have plain : Unhurt t place := by obtain rfl | rfl | rfl := leaves <;> simp [Unhurt]
    refine ⟨safe, everywhere_goto (Unhurt t) spared.unhurt plain, fun tunnel there => ?_⟩
    refine spared.modify ({ · with closed := true }) (fun named => ?_) there
    obtain invalidating | closing := here
    · exact absurd (named ▸ invalidating) (spared.unhurt i).1
    · exact absurd closing (spared.unhurt i).2

theorem Spared.step (spared : s.Spared t) (event : Event ι) (spares : s.Spares t event) : (s.step event).Spared t := by
  have safe := spared.safe.step event
  cases event with
  | tick ms => exact ⟨safe, spared.unhurt, spared.isOpen⟩
  | transfer i =>
    rw [PersistentRelayTunnel.step] at safe ⊢
    by_cases idle : s.place i = .idle
    · rw [if_pos idle] at safe ⊢
      exact ⟨safe, everywhere_goto (Unhurt t) spared.unhurt ⟨nofun, nofun⟩, spared.isOpen⟩
    · rw [if_neg idle]
      exact spared
  | close i => exact spares.elim
  | turn i answer => exact spared.turn spares (turn_cases s i answer)

end Spared

/-- As long as the transfers on a tunnel succeed, nothing replaces it: what fails on the tunnels before it
never closes it, however late the threads notice. -/
theorem spared_tunnel_stays {t : Nat} {events : List (Event ι)} (along : Along step (Spares t) {} events)
    (opened : t < (run step {} events).provider.opened.length) :
    let p := (run step ({} : PersistentRelayTunnel ι) events).provider
    p.tunnel = some t ∧ t + 1 = p.opened.length ∧ ∃ tunnel, p.opened[t]? = some tunnel ∧ tunnel.closed = false := by
  intro p
  have start : Spared t ({} : PersistentRelayTunnel ι) := ⟨safe_start, fun _ => ⟨nofun, nofun⟩, nofun⟩
  have spared := run_invariant (fun _ event spared spares => spared.step event spares) start along
  obtain ⟨tunnel, there⟩ : ∃ tunnel, p.opened[t]? = some tunnel := ⟨_, List.getElem?_eq_getElem opened⟩
  have isOpen := spared.isOpen tunnel there
  have held := spared.safe.live t tunnel there isOpen
  exact ⟨held, spared.safe.last t held, tunnel, there, isOpen⟩

/-- Two threads work on the first tunnel. One fails, invalidates it and opens the second one, while the other is
about to invalidate the first one too. -/
def lateInvalidation : List (Event Bool) :=
  connectThenShare ++ [.turn true .failed, .turn true .done, .turn false .failed, .tick 5000] ++
    List.replicate 7 (.turn true .done) ++ List.replicate 4 (.turn false .done)

/-- The second tunnel stays, and both threads work on it. -/
theorem second_tunnel_stays :
    let s := run step ({} : PersistentRelayTunnel Bool) lateInvalidation
    (∀ i, s.place i = .transferring (some 1)) ∧ s.provider.tunnel = some 1 ∧ 1 + 1 = s.provider.opened.length ∧
      ∃ tunnel, s.provider.opened[1]? = some tunnel ∧ tunnel.closed = false := by
  have done {s : PersistentRelayTunnel Bool} {i : Bool} : s.Spares 1 (.turn i .done) := fun _ => ⟨nofun, nofun⟩
  have first {s : PersistentRelayTunnel Bool} {i : Bool} {answer : Answer} (here : s.place i = .transferring (some 0)) :
      s.Spares 1 (.turn i answer) := fun there => by cases here.symm.trans there
  have calm : Along step (Spares 1) ({} : PersistentRelayTunnel Bool) lateInvalidation := by
    rw [lateInvalidation, along_append, along_append, along_append]
    refine ⟨⟨⟨?_, first (by decide), done, first (by decide), trivial, trivial⟩, ?_⟩, ?_⟩
    · exact ⟨trivial, done, done, done, done, done, done, done, trivial, done, done, done, trivial⟩
    · exact ⟨done, done, done, done, done, done, done, trivial⟩
    · exact ⟨done, done, done, done, trivial⟩
  exact ⟨by decide, spared_tunnel_stays calm (by decide)⟩

end PersistentRelayTunnel

end Gnirehtet.App
