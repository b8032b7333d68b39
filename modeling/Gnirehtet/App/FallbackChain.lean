import Gnirehtet.App.ConnectivityFallback

/-!
# The chain of the fallbacks

Most calls of the chain change neither a network nor a preference. What holds of all these, of the switch to a
network and of the loops that wait, holds of the whole chain.
-/

namespace Gnirehtet.App.ConnectivityFallback
open Lib

/-- A call that changes neither a network nor a preference. -/
def Plain : Call → Prop
  | .enableNetwork _ _ | .removeNetwork _ | .addNetwork _ _ | .saveConfiguration _ | .updateNetwork _
  | .putPreviousSsid _ | .removePreviousSsid | .putEnabledNetworkIds _ | .removeEnabledNetworkIds => False
  | _ => True

/-- The plain calls are allowed and lead where the relation says. -/
structure Plainly {World : Type} (env : Environment Call Answer World) (terms : Terms Call World)
    (r : World → World → Prop) : Prop where
  refl : ∀ w, r w w
  trans : ∀ a b c, r a b → r b c → r a c
  plain : ∀ c, Plain c → ∀ w, terms.allowed w c ∧ ∀ a, env.answers w c a → r w (env.after w c a)

/-- So do the parts of the chain that do more. -/
structure Chain {World : Type} (env : Environment Call Answer World) (terms : Terms Call World)
    (r : World → World → Prop) (n sdk : Nat) : Prop extends Plainly env terms r where
  connects : ∀ ssid, Moves env terms r (tryConnectBySsid sdk ssid)
  saves : Moves env terms r (saveCurrentSsid sdk)
  transport : ∀ timeoutMs targetSsid, timeoutMs ≤ preferredSsidAssocTimeoutMs →
    Moves env terms r (waitForTransport n sdk timeoutMs targetSsid)
  suggestion : ∀ targetSsid, Moves env terms r (waitForSuggestionTransport n sdk suggestionAssocTimeoutMs targetSsid)
  group : Moves env terms r (waitForGroup n)

variable {World : Type} {env : Environment Call Answer World} {terms : Terms Call World} {r : World → World → Prop}

namespace Plainly
variable (h : Plainly env terms r) {α β σ : Type} {p : Android α}
include h

theorem returns {a : α} : Moves env terms r (pure a : Android α) := Moves.pure h.refl

theorem call {c : Call} (plain : Plain c) : Moves env terms r (Lib.call c : Android (Answer c)) :=
  Moves.call (fun w => (h.plain c plain w).1) fun w => (h.plain c plain w).2

theorem bind {f : α → Android β} (first : Moves env terms r p) (rest : ∀ a, Moves env terms r (f a)) :
    Moves env terms r (p >>= f) :=
  Moves.bind h.trans first rest

theorem repeated (cut : terms.cut) {body : σ → Android (σ ⊕ α)} (turn : ∀ s, Moves env terms r (body s)) (n : Nat)
    (s : σ) : Moves env terms r (.repeated body n s) :=
  Moves.repeated cut h.refl h.trans turn n s

/-! ### Questions -/

theorem moves_firstWifiSsid (networks : List Nat) : Moves env terms r (firstWifiSsid networks) := by
  induction networks with
  | nil => exact h.returns
  | cons network rest ih =>
    refine h.bind (h.call trivial) fun caps => ?_
    split
    · exact ih
    · split
      · exact ih
      · split
        · exact ih
        · split
          · exact ih
          · exact h.returns

theorem moves_getConnectedSsid (sdk : Nat) : Moves env terms r (getConnectedSsid sdk) := by
  have modern : Moves env terms r (networkSsid sdk) := by
    unfold networkSsid
    split
    · exact h.returns
    · refine h.bind (h.call trivial) fun cm => ?_
      split
      · refine h.bind (h.call trivial) fun networks => ?_
        split
        · exact h.moves_firstWifiSsid _
        · exact h.returns
      · exact h.returns
  refine h.bind modern fun ssid => ?_
  split
  · exact h.returns
  · refine h.bind (h.call trivial) fun wifiManager => ?_
    split
    · refine h.bind (h.call trivial) fun info => ?_
      split
      · exact h.returns
      · exact fun w => ⟨(h.plain .nullPointerException trivial w).1, fun never => never.elim⟩
    · exact h.returns

theorem moves_configuredNetworks : Moves env terms r configuredNetworks := by
  refine h.bind (h.call trivial) fun found => ?_
  split <;> exact h.returns

theorem moves_isFullyAssociated (targetSsid : String) : Moves env terms r (isFullyAssociated targetSsid) := by
  refine h.bind (h.call trivial) fun info => ?_
  split <;> exact h.returns

theorem moves_anyPhysical (networks : List Nat) : Moves env terms r (anyPhysical networks) := by
  induction networks with
  | nil => exact h.returns
  | cons network rest ih =>
    refine h.bind (h.call trivial) fun caps => ?_
    split
    · exact h.returns
    · exact ih

theorem moves_hasActiveTransport (sdk : Nat) : Moves env terms r (hasActiveTransport sdk) := by
  refine h.bind (h.call trivial) fun cm => ?_
  split
  · split
    · refine h.bind (h.call trivial) fun networks => ?_
      split
      · exact h.moves_anyPhysical _
      · exact h.returns
    · exact h.bind (h.call trivial) fun info => h.returns
  · exact h.returns

theorem moves_hasP2pInterface : Moves env terms r hasP2pInterface := by
  refine h.bind (h.call trivial) fun ni => ?_
  split <;> exact h.returns

theorem moves_ensureWifiEnabled : Moves env terms r ensureWifiEnabled := by
  refine h.bind (h.call trivial) fun enabled => ?_
  split
  · exact h.returns
  · refine h.bind (h.call trivial) fun r => ?_
    split
    · exact h.call trivial
    · exact h.returns

theorem moves_removeAllSuggestions (sdk : Nat) : Moves env terms r (removeAllSuggestions sdk) := by
  unfold removeAllSuggestions
  split
  · exact h.returns
  · refine h.bind (h.call trivial) fun wifiManager => ?_
    split
    · refine h.bind (h.call trivial) fun existing => ?_
      split
      · split
        · exact h.returns
        · exact h.bind (h.call trivial) fun _ => h.returns
      · exact h.returns
      · exact h.returns
    · exact h.returns

/-! ### Waiting -/

theorem moves_goesOn (s : Waiting) : Moves env terms r (goesOn s) := by
  refine h.bind (h.call trivial) fun slept => ?_
  split <;> exact h.returns

theorem moves_usable (sdk : Nat) (s : Waiting) : Moves env terms r (usable sdk s) := by
  unfold usable
  split
  · exact h.returns
  · refine h.bind (h.moves_hasActiveTransport sdk) fun active => ?_
    split
    · exact h.returns
    · exact h.moves_goesOn s

theorem moves_associates (sdk : Nat) (s : Waiting) : Moves env terms r (associates sdk s) :=
  h.bind (h.call trivial) fun _ => h.moves_usable sdk _

theorem moves_transportTurn {sdk : Nat} (connects : ∀ ssid, Moves env terms r (tryConnectBySsid sdk ssid))
    (targetSsid : Option String) (s : Waiting) : Moves env terms r (transportTurn sdk targetSsid s) := by
  refine h.bind (h.call trivial) fun now => ?_
  split
  · split
    · refine h.bind (h.moves_getConnectedSsid sdk) fun current => ?_
      split
      · exact h.moves_usable sdk s
      · split
        · exact h.moves_associates sdk s
        · refine h.bind (h.call trivial) fun later => ?_
          split
          · exact h.bind (connects _) fun _ => h.moves_goesOn _
          · exact h.moves_goesOn s
    · refine h.bind (h.moves_hasActiveTransport sdk) fun active => ?_
      split
      · exact h.returns
      · exact h.moves_goesOn s
  · exact h.returns

theorem moves_suggestionTurn (sdk : Nat) (targetSsid : String) (s : Waiting) :
    Moves env terms r (suggestionTurn sdk targetSsid s) := by
  refine h.bind (h.call trivial) fun now => ?_
  split
  · refine h.bind (h.moves_getConnectedSsid sdk) fun current => ?_
    split
    · exact h.moves_usable sdk s
    · have associated : Moves env terms r
          (if current = some targetSsid then isFullyAssociated targetSsid else pure false) := by
        split
        · exact h.moves_isFullyAssociated targetSsid
        · exact h.returns
      refine h.bind associated fun associated => ?_
      split
      · exact h.moves_associates sdk s
      · refine h.bind (h.call trivial) fun later => ?_
        split
        · exact h.bind (h.call trivial) fun _ => h.moves_goesOn _
        · exact h.moves_goesOn s
  · exact h.returns

theorem moves_p2pTurn (deadline : Nat) : Moves env terms r (p2pTurn deadline) := by
  refine h.bind (h.call trivial) fun now => ?_
  split
  · refine h.bind (h.call trivial) fun connected => ?_
    split
    · exact h.returns
    · refine h.bind h.moves_hasP2pInterface fun p2p => ?_
      split
      · exact h.returns
      · refine h.bind (h.call trivial) fun slept => ?_
        split <;> exact h.returns
  · exact h.bind (h.call trivial) fun _ => h.bind h.moves_hasP2pInterface fun _ => h.returns

theorem moves_associationTurn (targetSsid : String) (deadline : Nat) :
    Moves env terms r (associationTurn targetSsid deadline) := by
  refine h.bind (h.call trivial) fun now => ?_
  split
  · refine h.bind (h.call trivial) fun info => ?_
    split
    · exact h.returns
    · refine h.bind (h.call trivial) fun slept => ?_
      split <;> exact h.returns
  · exact h.bind (h.call trivial) fun _ => h.returns

theorem moves_lastCheck (sdk : Nat) (targetSsid : Option String) : Moves env terms r (lastCheck sdk targetSsid) := by
  unfold lastCheck
  split
  · refine h.bind (h.moves_getConnectedSsid sdk) fun current => ?_
    split
    · refine h.bind (h.moves_isFullyAssociated _) fun associated => ?_
      split
      · exact h.moves_hasActiveTransport sdk
      · exact h.returns
    · exact h.returns
  · exact h.moves_hasActiveTransport sdk

theorem moves_waitForTransport (cut : terms.cut) {sdk : Nat} (connects : ∀ ssid, Moves env terms r (tryConnectBySsid sdk ssid))
    (n timeoutMs : Nat) (targetSsid : Option String) :
    Moves env terms r (waitForTransport n sdk timeoutMs targetSsid) := by
  refine h.bind (h.call trivial) fun now => ?_
  refine h.bind (h.repeated cut (h.moves_transportTurn connects targetSsid) n _) fun result => ?_
  split
  · exact h.returns
  · exact h.moves_lastCheck sdk targetSsid

theorem moves_waitForSuggestionTransport (cut : terms.cut) (n sdk timeoutMs : Nat) (targetSsid : String) :
    Moves env terms r (waitForSuggestionTransport n sdk timeoutMs targetSsid) := by
  refine h.bind (h.call trivial) fun now => ?_
  refine h.bind (h.repeated cut (h.moves_suggestionTurn sdk targetSsid) n _) fun result => ?_
  split
  · exact h.returns
  · refine h.bind (h.moves_getConnectedSsid sdk) fun current => ?_
    split
    · exact h.moves_hasActiveTransport sdk
    · exact h.returns

theorem moves_waitForAssociation (cut : terms.cut) (n : Nat) (targetSsid : String) (timeoutMs : Nat) :
    Moves env terms r (waitForAssociation n targetSsid timeoutMs) := by
  refine h.bind (h.call trivial) fun wifiManager => ?_
  split
  · exact h.bind (h.call trivial) fun now => h.repeated cut (h.moves_associationTurn targetSsid) n _
  · exact h.returns

/-- Where a loop may be cut, its turns are all there is to it. -/
theorem chain (cut : terms.cut) (n : Nat) {sdk : Nat} (connects : ∀ ssid, Moves env terms r (tryConnectBySsid sdk ssid))
    (saves : Moves env terms r (saveCurrentSsid sdk)) : Chain env terms r n sdk where
  toPlainly := h
  connects := connects
  saves := saves
  transport timeoutMs targetSsid _ := h.moves_waitForTransport cut connects n timeoutMs targetSsid
  suggestion targetSsid := h.moves_waitForSuggestionTransport cut n sdk _ targetSsid
  group := h.bind (h.call trivial) fun _ => h.repeated cut h.moves_p2pTurn n _

end Plainly

/-! ### The chain -/

namespace Chain
variable {n sdk : Nat} (h : Chain env terms r n sdk)
include h

theorem moves_tryConnectToPreferredSsid (preferredSsid : String) :
    Moves env terms r (tryConnectToPreferredSsid n sdk preferredSsid) := by
  have suggests : Moves env terms r (tryConnectViaSuggestion n sdk preferredSsid) := by
    refine h.bind (h.moves_removeAllSuggestions sdk) fun _ => h.bind (h.call trivial) fun added => ?_
    split
    · exact h.suggestion preferredSsid
    · exact h.returns
  refine h.bind (h.call trivial) fun wifiManager => ?_
  split
  · refine h.bind h.moves_ensureWifiEnabled fun enabled => ?_
    split
    · split
      · exact suggests
      · refine h.bind (h.connects preferredSsid) fun connected => ?_
        split
        · exact h.transport _ _ (Nat.le_refl _)
        · exact h.returns
    · exact h.returns
  · exact h.returns

theorem moves_tryWifiP2pGroup : Moves env terms r (tryWifiP2pGroup n) := by
  have creates : Moves env terms r (createP2pGroup n) := by
    refine h.bind (h.call trivial) fun channel => ?_
    split
    · refine h.bind (h.call trivial) fun _ => h.bind (h.call trivial) fun waited => ?_
      split
      · refine h.bind (h.call trivial) fun created => ?_
        split
        · exact h.group
        · exact h.returns
      · exact h.returns
      · exact h.returns
    · exact h.returns
  refine h.bind (h.call trivial) fun feature => ?_
  split
  · refine h.bind (h.call trivial) fun manager => ?_
    split
    · exact h.bind (h.call trivial) fun _ => h.bind creates fun _ => h.bind (h.call trivial) fun _ => h.returns
    · exact h.returns
  · exact h.returns

theorem moves_tryLocalOnlyHotspot : Moves env terms r (tryLocalOnlyHotspot n sdk) := by
  refine h.bind (h.call trivial) fun wifiManager => ?_
  split
  · refine h.bind (h.call trivial) fun started => ?_
    split
    · refine h.bind (h.call trivial) fun waited => ?_
      split
      · refine h.bind (h.call trivial) fun success => ?_
        split
        · exact h.transport _ _ (by decide)
        · exact h.returns
      · exact h.returns
      · exact h.returns
    · exact h.returns
  · exact h.returns

theorem moves_tryNetwork {timeoutMs : Nat} (short : timeoutMs ≤ preferredSsidAssocTimeoutMs) (ssid : String) :
    Moves env terms r (tryNetwork n sdk timeoutMs ssid) := by
  refine h.bind (h.connects ssid) fun connected => ?_
  split
  · exact h.transport _ _ short
  · exact h.returns

theorem moves_tryPreferred (preferredSsid : String) (results : List ScanResult) :
    Moves env terms r (tryPreferred n sdk preferredSsid results) := by
  induction results with
  | nil => exact h.returns
  | cons result rest ih =>
    unfold tryPreferred
    split
    · refine h.bind (h.moves_tryNetwork (Nat.le_refl _) _) fun connected => ?_
      split
      · exact h.returns
      · exact ih
    · exact ih

theorem moves_tryStrongest (best : Option ScanResult) : Moves env terms r (tryStrongest n sdk best) := by
  cases best with
  | none => exact h.returns
  | some result => exact h.moves_tryNetwork (by decide) _

theorem moves_tryGenericNetworkSelection (preferredSsid : Option String) :
    Moves env terms r (tryGenericNetworkSelection n sdk preferredSsid) := by
  have preferred (results : List ScanResult) : Moves env terms r (tryPreferredSsid n sdk preferredSsid results) := by
    cases preferredSsid with
    | none => exact h.returns
    | some ssid => exact h.moves_tryPreferred ssid results
  have selects (results : List ScanResult) : Moves env terms r (selectNetwork n sdk preferredSsid results) := by
    refine h.bind (preferred results) fun connected => ?_
    split
    · exact h.returns
    · refine h.bind h.moves_configuredNetworks fun saved => h.bind (h.moves_tryStrongest _) fun connected => ?_
      split
      · exact h.returns
      · exact h.moves_tryStrongest _
  refine h.bind (h.call trivial) fun wifiManager => ?_
  split
  · refine h.bind h.moves_ensureWifiEnabled fun enabled => ?_
    split
    · refine h.bind (h.call trivial) fun results => ?_
      split
      · split
        · exact h.returns
        · exact selects _
      · exact h.returns
      · exact h.returns
    · exact h.returns
  · exact h.returns

theorem moves_ensureAnyTransport (preferredSsid : Option String) :
    Moves env terms r (ensureAnyTransport n sdk preferredSsid) := by
  have hotspot : Moves env terms r (if o ≤ sdk then tryLocalOnlyHotspot n sdk else pure false) := by
    split
    · exact h.moves_tryLocalOnlyHotspot
    · exact h.returns
  refine h.bind (h.moves_hasActiveTransport sdk) fun active => ?_
  split
  · exact h.returns
  · refine h.bind h.moves_tryWifiP2pGroup fun p2p => ?_
    split
    · exact h.returns
    · refine h.bind hotspot fun started => ?_
      split
      · exact h.returns
      · exact h.moves_tryGenericNetworkSelection preferredSsid

theorem moves_ensureActiveTransport (preferredSsid : Option String) :
    Moves env terms r (ensureActiveTransport n sdk preferredSsid) := by
  unfold ensureActiveTransport
  split
  · refine h.bind (h.bind (h.moves_getConnectedSsid sdk) fun _ => h.returns) fun connected => ?_
    split
    · exact h.returns
    · refine h.bind h.saves fun _ => h.bind (h.moves_tryConnectToPreferredSsid _) fun done => ?_
      split
      · exact h.returns
      · exact h.moves_ensureAnyTransport _
  · exact h.moves_ensureAnyTransport _

end Chain

end Gnirehtet.App.ConnectivityFallback
