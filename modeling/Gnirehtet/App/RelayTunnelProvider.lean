import Gnirehtet.Lib.Run
import Mathlib.Tactic.SplitIfs

/-!
# The tunnel provider

The provider keeps one tunnel to the relay, connects it when it is asked for and drops it when it is
invalidated. The field is set before the tunnel is connected, and a `connect()` that fails leaves it set.

`opened` is ghost state: the tunnels that were ever opened, in that order. A reference is an index there.
-/

namespace Gnirehtet.App
open Lib

inductive TunnelException where
  | ioException
  | interruptedException
  | runtimeException
  deriving DecidableEq, Repr

/-- What became of a tunnel since it was opened. The first attempt of a provider waits for no slot. -/
structure RelayTunnel where
  slot : Option Nat
  connected : Bool := false
  closed : Bool := false
  deriving DecidableEq, Repr

/-- How `RelayTunnel.connect()` ends; a failure is noticed at some time. -/
inductive Connection where
  | success
  | ioException (now : Nat)
  deriving DecidableEq, Repr

inductive Notification where
  | relayTunnelConnected
  | relayTunnelDisconnected
  deriving DecidableEq, Repr

structure RelayTunnelProvider where
  tunnel : Option Nat := none
  first : Bool := true
  lastFailureTimestamp : Nat := 0
  opened : List RelayTunnel := []
  notified : List Notification := []
  deriving DecidableEq, Repr

namespace RelayTunnelProvider

def delayBetweenAttemptsMs : Nat := 5000

def notify (p : RelayTunnelProvider) (notification : Notification) : RelayTunnelProvider :=
  { p with notified := p.notified ++ [notification] }

def touchFailure (p : RelayTunnelProvider) (now : Nat) : RelayTunnelProvider :=
  { p with lastFailureTimestamp := now }

/-- A call of a method of the current tunnel. -/
def editTunnel (p : RelayTunnelProvider) (edit : RelayTunnel → RelayTunnel) : RelayTunnelProvider :=
  match p.tunnel with
  | some t => { p with opened := p.opened.modify t edit }
  | none => p

/-- The clock is read before each `wait` and after the last one. When it is read no more, the last `wait`
was interrupted. -/
def waitUntil (slot : Nat) : List Nat → Except TunnelException Nat
  | [] => .error .interruptedException
  | now :: later => if slot ≤ now then .ok now else waitUntil slot later

def waitUntilNextAttemptSlot (p : RelayTunnelProvider) (clock : List Nat) : Except TunnelException (Option Nat) :=
  if p.first then .ok none
  else
    match waitUntil (p.lastFailureTimestamp + delayBetweenAttemptsMs) clock with
    | .ok now => .ok (some now)
    | .error e => .error e

/-- `tunnel = RelayTunnel.open(vpnService)` -/
def openTunnel (p : RelayTunnelProvider) (slot : Option Nat) : RelayTunnelProvider :=
  { p with tunnel := some p.opened.length, opened := p.opened ++ [{ slot }] }

def connectTunnel (p : RelayTunnelProvider) (notifyDisconnectedOnError : Bool) :
    Connection → RelayTunnelProvider × Except TunnelException Unit
  | .success => ((p.editTunnel ({ · with connected := true })).notify .relayTunnelConnected, .ok ())
  | .ioException now =>
    let p := p.touchFailure now
    (if notifyDisconnectedOnError then p.notify .relayTunnelDisconnected else p, .error .ioException)

def getCurrentTunnel (p : RelayTunnelProvider) (clock : List Nat) (connection : Connection) :
    RelayTunnelProvider × Except TunnelException (Option Nat) :=
  if p.tunnel.isSome then (p, .ok p.tunnel)
  else
    match p.waitUntilNextAttemptSlot clock with
    | .error e => (p, .error e)
    | .ok slot =>
      let p := p.openTunnel slot
      let notifyDisconnectedOnError := p.first
      match connectTunnel { p with first := false } notifyDisconnectedOnError connection with
      | (p, .ok ()) => (p, .ok p.tunnel)
      | (p, .error e) => (p, .error e)

/-- `closes` tells whether `tunnel.close()` returns; otherwise it throws a `RuntimeException`. -/
def invalidateTunnel (p : RelayTunnelProvider) (now : Nat) (closes : Bool) :
    RelayTunnelProvider × Except TunnelException Unit :=
  if p.tunnel.isSome then
    let p := (p.touchFailure now).editTunnel ({ · with closed := true })
    if closes then ({ p with tunnel := none }.notify .relayTunnelDisconnected, .ok ())
    else (p, .error .runtimeException)
  else (p, .ok ())

def invalidateTunnelIf (p : RelayTunnelProvider) (tunnelToInvalidate : Option Nat) (now : Nat) (closes : Bool) :
    RelayTunnelProvider × Except TunnelException Unit :=
  if p.tunnel = tunnelToInvalidate ∨ tunnelToInvalidate = none then p.invalidateTunnel now closes
  else (p, .ok ())

/-- A call of a sequential history, with what the clock and the tunnel answer to it. -/
inductive Call where
  | getCurrentTunnel (clock : List Nat) (connection : Connection)
  | invalidateTunnel (now : Nat) (closes : Bool)
  | invalidateTunnelIf (tunnelToInvalidate : Option Nat) (now : Nat) (closes : Bool)
  deriving DecidableEq, Repr

def step (p : RelayTunnelProvider) : Call → RelayTunnelProvider
  | .getCurrentTunnel clock connection => (p.getCurrentTunnel clock connection).1
  | .invalidateTunnel now closes => (p.invalidateTunnel now closes).1
  | .invalidateTunnelIf tunnelToInvalidate now closes => (p.invalidateTunnelIf tunnelToInvalidate now closes).1

/-! ### What a caller expects -/

/-- The tunnel was connected, and not closed since. -/
def Usable (p : RelayTunnelProvider) (t : Nat) : Prop :=
  ∃ tunnel, p.opened[t]? = some tunnel ∧ tunnel.connected = true ∧ tunnel.closed = false

/-- The last `connect()` failed. -/
def LastFailed (p : RelayTunnelProvider) : Prop := ∃ tunnel, p.opened.getLast? = some tunnel ∧ tunnel.connected = false

/-- The call opens a tunnel of its own, once the retry delay is over. -/
def Attempts (p p' : RelayTunnelProvider) : Prop :=
  ∃ tunnel now, p'.opened = p.opened ++ [tunnel] ∧ tunnel.slot = some now ∧
    p.lastFailureTimestamp + delayBetweenAttemptsMs ≤ now

/-- What `getCurrentTunnel` returns is a tunnel in use, and after a failed `connect()` it is a new one. -/
def Provides (p : RelayTunnelProvider) : Call → Prop
  | .getCurrentTunnel clock connection =>
    let r := p.getCurrentTunnel clock connection
    (∀ returned, r.2 = .ok returned → ∃ t, returned = some t ∧ r.1.Usable t) ∧
      (p.LastFailed → Attempts p r.1 ∨ r = (p, .error .interruptedException))
  | _ => True

/-! ### Failures and what takes them away -/

/-- The call leaves the provider with a tunnel that did not connect or that was closed. -/
def Fails (p : RelayTunnelProvider) : Call → Prop
  | .getCurrentTunnel clock (.ioException _) => p.tunnel = none ∧ ∃ slot, p.waitUntilNextAttemptSlot clock = .ok slot
  | .getCurrentTunnel _ .success => False
  | .invalidateTunnel _ closes => p.tunnel ≠ none ∧ closes = false
  | .invalidateTunnelIf tunnelToInvalidate _ closes =>
    p.tunnel ≠ none ∧ closes = false ∧ (p.tunnel = tunnelToInvalidate ∨ tunnelToInvalidate = none)

/-- The call drops the tunnel of the provider. -/
def Drops (p : RelayTunnelProvider) : Call → Prop
  | .getCurrentTunnel _ _ => False
  | .invalidateTunnel _ closes => closes = true
  | .invalidateTunnelIf tunnelToInvalidate _ closes =>
    closes = true ∧ (p.tunnel = tunnelToInvalidate ∨ tunnelToInvalidate = none)

/-- The tunnel is dropped before it is asked for. -/
def DroppedFirst : RelayTunnelProvider → List Call → Prop
  | _, [] => True
  | _, .getCurrentTunnel _ _ :: _ => False
  | p, call :: rest => p.Drops call ∨ DroppedFirst (p.step call) rest

/-- Every failure is taken away before the next `getCurrentTunnel`. -/
def Settled : RelayTunnelProvider → List Call → Prop
  | _, [] => True
  | p, call :: rest => (p.Fails call → DroppedFirst (p.step call) rest) ∧ Settled (p.step call) rest

/-! ### What each call does -/

/-- The provider holds the tunnel that was opened last, and its first attempt is before all others. -/
structure Consistent (p : RelayTunnelProvider) : Prop where
  last : ∀ t, p.tunnel = some t → t + 1 = p.opened.length
  first : p.first = true → p.opened = []

/-- The provider holds a tunnel that is not in use. -/
def Holds (p : RelayTunnelProvider) : Prop := ∃ t, p.tunnel = some t ∧ ¬ p.Usable t

theorem modify_last {α : Type} (l : List α) (a : α) (edit : α → α) :
    (l ++ [a]).modify l.length edit = l ++ [edit a] := by
  apply List.ext_getElem?
  intro i
  rw [List.getElem?_modify, List.getElem?_append, List.getElem?_append]
  by_cases before : i < l.length
  · simp [before, show l.length ≠ i by omega]
  · by_cases last : l.length = i
    · simp [last]
    · simp [before, last, show i - l.length ≠ 0 by omega]

theorem usable_last {p : RelayTunnelProvider} {before : List RelayTunnel} {tunnel : RelayTunnel}
    (opened : p.opened = before ++ [tunnel]) :
    p.Usable before.length ↔ tunnel.connected = true ∧ tunnel.closed = false := by
  have there : p.opened[before.length]? = some tunnel := by simp [opened]
  rw [Usable, there]
  exact ⟨fun ⟨_, same, use⟩ => Option.some.inj same ▸ use, fun use => ⟨tunnel, rfl, use⟩⟩

section Get
variable {p : RelayTunnelProvider} {clock : List Nat}

theorem getCurrentTunnel_held {t : Nat} (held : p.tunnel = some t) (connection : Connection) :
    p.getCurrentTunnel clock connection = (p, .ok (some t)) := by
  rw [getCurrentTunnel, if_pos (by simp [held]), held]

theorem getCurrentTunnel_interrupted {e : TunnelException} (none : p.tunnel = none)
    (waited : p.waitUntilNextAttemptSlot clock = .error e) (connection : Connection) :
    p.getCurrentTunnel clock connection = (p, .error e) := by
  rw [getCurrentTunnel, if_neg (by simp [none]), waited]

theorem getCurrentTunnel_success {slot : Option Nat} (none : p.tunnel = none)
    (waited : p.waitUntilNextAttemptSlot clock = .ok slot) :
    p.getCurrentTunnel clock .success = ({ p with
      tunnel := some p.opened.length
      first := false
      opened := p.opened ++ [{ slot, connected := true }]
      notified := p.notified ++ [.relayTunnelConnected] }, .ok (some p.opened.length)) := by
  rw [getCurrentTunnel, if_neg (by simp [none]), waited]
  simp only [connectTunnel, editTunnel, openTunnel, notify, modify_last]

/-- A failed attempt leaves the new tunnel in the field. -/
theorem getCurrentTunnel_failure {slot : Option Nat} (none : p.tunnel = none)
    (waited : p.waitUntilNextAttemptSlot clock = .ok slot) (now : Nat) : ∃ notified,
    p.getCurrentTunnel clock (.ioException now) = ({ p with
      tunnel := some p.opened.length
      first := false
      lastFailureTimestamp := now
      opened := p.opened ++ [{ slot }]
      notified }, .error .ioException) := by
  rw [getCurrentTunnel, if_neg (by simp [none]), waited]
  dsimp only [connectTunnel]
  cases (p.openTunnel slot).first with
  | true => exact ⟨_, rfl⟩
  | false => exact ⟨_, rfl⟩

theorem waitUntil_ok {slot now : Nat} (waited : waitUntil slot clock = .ok now) : slot ≤ now := by
  induction clock with
  | nil => cases waited
  | cons time later ih =>
    unfold waitUntil at waited
    split at waited
    · cases waited
      assumption
    · exact ih waited

theorem waitUntil_error {slot : Nat} {e : TunnelException} (waited : waitUntil slot clock = .error e) :
    e = .interruptedException := by
  induction clock with
  | nil => cases waited; rfl
  | cons time later ih =>
    unfold waitUntil at waited
    split at waited
    · cases waited
    · exact ih waited

/-- Every attempt but the first waits until the retry delay is over. -/
theorem waited_slot {slot : Option Nat} (notFirst : p.first = false)
    (waited : p.waitUntilNextAttemptSlot clock = .ok slot) :
    ∃ now, slot = some now ∧ p.lastFailureTimestamp + delayBetweenAttemptsMs ≤ now := by
  rw [waitUntilNextAttemptSlot, if_neg (by simp [notFirst])] at waited
  split at waited
  · rename_i now reached
    cases waited
    exact ⟨now, rfl, waitUntil_ok reached⟩
  · cases waited

theorem waited_error {e : TunnelException} (waited : p.waitUntilNextAttemptSlot clock = .error e) :
    e = .interruptedException := by
  rw [waitUntilNextAttemptSlot] at waited
  split at waited
  · cases waited
  · split at waited
    · cases waited
    · rename_i interrupted
      cases waited
      exact waitUntil_error interrupted

end Get

/-- What becomes of a tunnel that is invalidated. -/
theorem invalidateTunnel_held {p : RelayTunnelProvider} {t : Nat} (held : p.tunnel = some t) (now : Nat)
    (closes : Bool) : ∃ notified, (p.invalidateTunnel now closes).1 = { p with
      tunnel := if closes then none else some t
      lastFailureTimestamp := now
      opened := p.opened.modify t ({ · with closed := true })
      notified } := by
  rw [invalidateTunnel, if_pos (by simp [held])]
  cases closes with
  | true =>
    simp only [touchFailure, editTunnel, held, notify, if_true]
    exact ⟨_, rfl⟩
  | false =>
    simp only [touchFailure, editTunnel, held]
    exact ⟨_, rfl⟩

theorem invalidateTunnel_none {p : RelayTunnelProvider} (none : p.tunnel = none) (now : Nat) (closes : Bool) :
    (p.invalidateTunnel now closes).1 = p := by
  rw [invalidateTunnel, if_neg (by simp [none])]

/-- An invalidation that names another tunnel does nothing. -/
theorem step_invalidation (p : RelayTunnelProvider) {call : Call}
    (notGet : ∀ clock connection, call ≠ .getCurrentTunnel clock connection) :
    (p.step call = p ∧ ¬ p.Fails call ∧ ¬ p.Drops call) ∨
      ∃ now closes, p.step call = (p.invalidateTunnel now closes).1 ∧
        (p.Fails call ↔ p.tunnel ≠ none ∧ closes = false) ∧ (p.Drops call ↔ closes = true) := by
  cases call with
  | getCurrentTunnel clock connection => exact absurd rfl (notGet clock connection)
  | invalidateTunnel now closes => exact Or.inr ⟨now, closes, rfl, Iff.rfl, Iff.rfl⟩
  | invalidateTunnelIf tunnelToInvalidate now closes =>
    by_cases named : p.tunnel = tunnelToInvalidate ∨ tunnelToInvalidate = none
    · refine Or.inr ⟨now, closes, by rw [step, invalidateTunnelIf, if_pos named], ?_, ?_⟩
      · exact ⟨fun h => ⟨h.1, h.2.1⟩, fun h => ⟨h.1, h.2, named⟩⟩
      · exact ⟨fun h => h.1, fun h => ⟨h, named⟩⟩
    · exact Or.inl ⟨by rw [step, invalidateTunnelIf, if_neg named], fun h => named h.2.2, fun h => named h.2⟩

theorem not_usable_closed {p : RelayTunnelProvider} {t : Nat} {notified : List Notification} {now : Nat}
    {tunnel : Option Nat} : ¬ Usable { p with
      tunnel
      lastFailureTimestamp := now
      opened := p.opened.modify t ({ · with closed := true })
      notified } t := by
  rintro ⟨tunnel, there, _, inUse⟩
  rw [List.getElem?_modify] at there
  obtain ⟨before, _, same⟩ := Option.map_eq_some_iff.mp there
  rw [if_pos rfl] at same
  rw [← same] at inUse
  cases inUse

theorem step_consistent {p : RelayTunnelProvider} (h : p.Consistent) (call : Call) : (p.step call).Consistent := by
  by_cases get : ∃ clock connection, call = .getCurrentTunnel clock connection
  · obtain ⟨clock, connection, rfl⟩ := get
    rw [step]
    cases held : p.tunnel with
    | some t => rwa [getCurrentTunnel_held held]
    | none =>
      cases waited : p.waitUntilNextAttemptSlot clock with
      | error e => rwa [getCurrentTunnel_interrupted held waited]
      | ok slot =>
        cases connection with
        | success =>
          rw [getCurrentTunnel_success held waited]
          exact ⟨fun t same => by cases same; simp, fun first => by cases first⟩
        | ioException now =>
          obtain ⟨notified, same⟩ := getCurrentTunnel_failure held waited now
          rw [same]
          exact ⟨fun t same => by cases same; simp, fun first => by cases first⟩
  · have notGet : ∀ clock connection, call ≠ .getCurrentTunnel clock connection :=
      fun clock connection same => get ⟨clock, connection, same⟩
    rcases p.step_invalidation notGet with ⟨same, _⟩ | ⟨now, closes, same, _⟩ <;> rw [same]
    · exact h
    · cases held : p.tunnel with
      | none => rwa [invalidateTunnel_none held]
      | some t =>
        obtain ⟨notified, same⟩ := invalidateTunnel_held held now closes
        have length := h.last t held
        rw [same]
        refine ⟨fun t' same => ?_, fun first => ?_⟩
        · cases closes with
          | true => cases same
          | false =>
            cases same
            simpa using length
        · have none := h.first first
          simp [none]

/-- After an invalidation a tunnel out of use is held because the call failed, or because it was not the
one that was dropped. -/
theorem holds_invalidation {p : RelayTunnelProvider} {call : Call}
    (notGet : ∀ clock connection, call ≠ .getCurrentTunnel clock connection) :
    (p.step call).Holds ↔ p.Fails call ∨ p.Holds ∧ ¬ p.Drops call := by
  rcases p.step_invalidation notGet with ⟨same, fails, drops⟩ | ⟨now, closes, same, fails, drops⟩ <;> rw [same]
  · simp only [fails, drops, false_or, not_false_eq_true, and_true]
  · rw [fails, drops]
    cases held : p.tunnel with
    | none =>
      rw [invalidateTunnel_none held]
      have free : ¬ p.Holds := fun ⟨t, same, _⟩ => by cases held.symm.trans same
      simp [free]
    | some t =>
      obtain ⟨notified, same⟩ := invalidateTunnel_held held now closes
      rw [same]
      cases closes with
      | true =>
        refine iff_of_false ?_ (by simp)
        rintro ⟨t', same, _⟩
        cases same
      | false => exact iff_of_true ⟨t, rfl, not_usable_closed⟩ (Or.inl ⟨nofun, rfl⟩)

/-- A provider that holds no tunnel out of use holds one after `getCurrentTunnel` exactly when that fails. -/
theorem holds_get {p : RelayTunnelProvider} (free : ¬ p.Holds) (clock : List Nat) (connection : Connection) :
    (p.step (.getCurrentTunnel clock connection)).Holds ↔ p.Fails (.getCurrentTunnel clock connection) := by
  rw [step]
  cases held : p.tunnel with
  | some t =>
    rw [getCurrentTunnel_held held]
    refine iff_of_false free ?_
    cases connection with
    | success => exact id
    | ioException now => exact fun fails => by cases held.symm.trans fails.1
  | none =>
    cases waited : p.waitUntilNextAttemptSlot clock with
    | error e =>
      rw [getCurrentTunnel_interrupted held waited]
      refine iff_of_false free ?_
      cases connection with
      | success => exact id
      | ioException now => exact fun ⟨_, slot, ok⟩ => by cases waited.symm.trans ok
    | ok slot =>
      cases connection with
      | success =>
        rw [getCurrentTunnel_success held waited]
        refine iff_of_false ?_ id
        rintro ⟨t, same, unused⟩
        cases same
        exact unused ((usable_last rfl).mpr ⟨rfl, rfl⟩)
      | ioException now =>
        obtain ⟨notified, same⟩ := getCurrentTunnel_failure held waited now
        rw [same]
        refine iff_of_true ⟨p.opened.length, rfl, ?_⟩ ⟨held, slot, waited⟩
        rw [usable_last rfl]
        exact fun use => by cases use.1

/-- `getCurrentTunnel` does what its callers expect exactly when no tunnel out of use is held. -/
theorem provides_get {p : RelayTunnelProvider} (h : p.Consistent) (clock : List Nat) (connection : Connection) :
    p.Provides (.getCurrentTunnel clock connection) ↔ ¬ p.Holds := by
  constructor
  · rintro ⟨returned, _⟩ ⟨t, held, unused⟩
    rw [getCurrentTunnel_held held] at returned
    obtain ⟨t', same, use⟩ := returned _ rfl
    cases same
    exact unused use
  intro free
  cases held : p.tunnel with
  | some t =>
    have use : p.Usable t := Classical.not_not.mp fun unused => free ⟨t, held, unused⟩
    rw [Provides, getCurrentTunnel_held held]
    refine ⟨fun returned same => ⟨t, (Except.ok.inj same).symm, use⟩, ?_⟩
    -- The tunnel in use is the last that was opened, so the last `connect()` did not fail.
    rintro ⟨tunnel, last, failed⟩
    obtain ⟨tunnel', there, connected, _⟩ := use
    rw [List.getLast?_eq_getElem?, ← h.last t held, Nat.add_sub_cancel, there] at last
    cases last
    cases failed.symm.trans connected
  | none =>
    cases waited : p.waitUntilNextAttemptSlot clock with
    | error e =>
      rw [Provides, getCurrentTunnel_interrupted held waited, waited_error waited]
      exact ⟨fun returned same => (by cases same), fun _ => Or.inr rfl⟩
    | ok slot =>
      have notFirst (failed : p.LastFailed) : p.first = false := by
        obtain ⟨tunnel, last, _⟩ := failed
        cases first : p.first with
        | false => rfl
        | true =>
          rw [h.first first] at last
          cases last
      rw [Provides]
      cases connection with
      | success =>
        rw [getCurrentTunnel_success held waited]
        refine ⟨fun returned same => ⟨_, (Except.ok.inj same).symm, (usable_last rfl).mpr ⟨rfl, rfl⟩⟩, fun failed => ?_⟩
        obtain ⟨now, same, late⟩ := waited_slot (notFirst failed) waited
        exact Or.inl ⟨_, now, rfl, same, late⟩
      | ioException now =>
        obtain ⟨notified, same⟩ := getCurrentTunnel_failure held waited now
        rw [same]
        refine ⟨fun returned same => (by cases same), fun failed => ?_⟩
        obtain ⟨now, same, late⟩ := waited_slot (notFirst failed) waited
        exact Or.inl ⟨_, now, rfl, same, late⟩

/-! ### Histories -/

theorem provides_along_iff {p : RelayTunnelProvider} (h : p.Consistent) (calls : List Call) :
    Along step Provides p calls ↔ (p.Holds → p.DroppedFirst calls) ∧ p.Settled calls := by
  induction calls generalizing p with
  | nil => simp [Along, DroppedFirst, Settled]
  | cons call rest ih =>
    have later := ih (step_consistent h call)
    by_cases get : ∃ clock connection, call = .getCurrentTunnel clock connection
    · obtain ⟨clock, connection, rfl⟩ := get
      rw [Along, provides_get h, later, Settled, DroppedFirst]
      by_cases holds : p.Holds
      · simp [holds]
      · simp [holds, holds_get holds]
    · have notGet : ∀ clock connection, call ≠ .getCurrentTunnel clock connection :=
        fun clock connection same => get ⟨clock, connection, same⟩
      have provides : p.Provides call := by
        cases call with
        | getCurrentTunnel clock connection => exact absurd rfl (notGet clock connection)
        | invalidateTunnel now closes => trivial
        | invalidateTunnelIf tunnelToInvalidate now closes => trivial
      have dropped : p.DroppedFirst (call :: rest) ↔ p.Drops call ∨ (p.step call).DroppedFirst rest := by
        cases call with
        | getCurrentTunnel clock connection => exact absurd rfl (notGet clock connection)
        | invalidateTunnel now closes => exact Iff.rfl
        | invalidateTunnelIf tunnelToInvalidate now closes => exact Iff.rfl
      rw [Along, later, Settled, dropped, holds_invalidation notGet]
      simp only [provides, true_and]
      constructor
      · rintro ⟨settles, settled⟩
        exact ⟨fun holds => Classical.or_iff_not_imp_left.mpr fun keeps => settles (Or.inr ⟨holds, keeps⟩),
          fun fails => settles (Or.inl fails), settled⟩
      · rintro ⟨holds, fails, settled⟩
        refine ⟨?_, settled⟩
        rintro (failed | ⟨held, keeps⟩)
        · exact fails failed
        · exact (holds held).resolve_left keeps

/-- Every tunnel handed out in a history is in use, and every failed `connect()` is followed by a new attempt,
exactly when each failure is taken away before the next `getCurrentTunnel`. -/
theorem provides_iff (calls : List Call) : Along step Provides {} calls ↔ Settled {} calls := by
  have start : Consistent {} := ⟨nofun, fun _ => rfl⟩
  have free : ¬ Holds {} := fun ⟨t, same, _⟩ => by cases same
  rw [provides_along_iff start]
  simp [free]

/-- The second call returns the tunnel whose `connect()` failed. -/
theorem failed_tunnel_returned :
    ¬ Along step Provides {} [.getCurrentTunnel [] (.ioException 0), .getCurrentTunnel [] .success] := by
  rintro ⟨_, ⟨returned, _⟩, _⟩
  obtain ⟨t, same, tunnel, there, connected, _⟩ := returned (some 0) rfl
  cases same
  cases there
  cases connected

end RelayTunnelProvider

end Gnirehtet.App
