import Gnirehtet.App.FallbackCalls

/-!
# The runs of one session

A session that no other thread disturbs reads the preferences that it wrote. The clock does not go back, and a
sleep that is not interrupted lasts as long as it should. Every wait then ends, and on KitKat a session remembers
the networks that were enabled before it switched for the first time.
-/

namespace Gnirehtet.App.ConnectivityFallback
open Lib

structure Device where
  prefs : Prefs
  now : Nat
  past : List Event

namespace Device

def ClockAnswers (d : Device) : (c : Call) → Answer c → Prop
  | .currentTimeMillis, t => Nat.le d.now t
  | _, _ => True

def nowAfter (d : Device) : (c : Call) → Answer c → Nat
  | .currentTimeMillis, t => t
  | .sleep ms, true => d.now + ms
  | _, _ => d.now

end Device

def undisturbed : Environment Call Answer Device where
  answers d c r := d.prefs.Answers c r ∧ d.ClockAnswers c r
  after d c r := {
    prefs := d.prefs.after c
    now := d.nowAfter c r
    past := ⟨c, r⟩ :: d.past }

/-! ### The waits end -/

def ending : Terms Call Device where
  allowed _ _ := True
  cut := False

/-- No loop of the program is cut, and the time goes on. -/
abbrev Ends {α : Type} (p : Android α) : Prop := Moves undisturbed ending (fun d d' => d.now ≤ d'.now) p

theorem now_le_after {d : Device} {c : Call} {r : Answer c} (answered : undisturbed.answers d c r) :
    d.now ≤ (undisturbed.after d c r).now := by
  cases c with
  | currentTimeMillis => exact answered.2
  | sleep ms =>
    cases r with
    | true => exact Nat.le_add_right ..
    | false => exact Nat.le_refl _
  | _ => exact Nat.le_refl _

theorem ticks : Plainly undisturbed ending (fun d d' => d.now ≤ d'.now) where
  refl _ := Nat.le_refl _
  trans _ _ _ := Nat.le_trans
  plain _ _ _ := ⟨trivial, fun _ answered => now_le_after answered⟩

theorem ends_call (c : Call) : Ends (call c) := Moves.call (fun _ => trivial) fun _ _ answered => now_le_after answered

theorem ends_findExistingNetId (ssid : String) : Ends (findExistingNetId ssid) :=
  ticks.bind ticks.moves_configuredNetworks fun _ => ticks.returns

theorem ends_findOrAddOpenNetwork (ssid : String) : Ends (findOrAddOpenNetwork ssid) := by
  refine ticks.bind ticks.moves_configuredNetworks fun configured => ?_
  split
  · split
    · exact ticks.bind (ends_call _) fun _ => ends_call _
    · exact ends_call _
  · exact ends_call _

theorem ends_enables (id : Int32) (disableOthers : Bool) : Ends (enables id disableOthers) := by
  refine ticks.bind (ends_call _) fun r => ?_
  split <;> exact ticks.returns

theorem ends_tryConnectBySsid (sdk : Nat) (ssid : String) : Ends (tryConnectBySsid sdk ssid) := by
  have remembers : Ends (if sdk = kitkat then rememberEnabledNetworks else pure ()) := by
    split
    · refine ticks.bind (ticks.call trivial) fun prefs => ?_
      split
      · exact ticks.returns
      · refine ticks.bind ticks.moves_configuredNetworks fun configured => ?_
        split
        · exact ends_call _
        · exact ticks.returns
    · exact ticks.returns
  have finds : Ends (if startsWith ssid gnirehtetSsidPrefix then findOrAddOpenNetwork ssid else findExistingNetId ssid) := by
    split
    · exact ends_findOrAddOpenNetwork ssid
    · exact ends_findExistingNetId ssid
  refine ticks.bind remembers fun _ => ticks.bind finds fun id => ?_
  split
  · exact ticks.returns
  · exact ends_enables id true

theorem ends_saveCurrentSsid (sdk : Nat) : Ends (saveCurrentSsid sdk) := by
  refine ticks.bind (ticks.moves_getConnectedSsid sdk) fun current => ?_
  split
  · exact ticks.returns
  · split
    · exact ticks.returns
    · split
      · exact ticks.returns
      · exact ends_call _

/-- What bounds the turns that are left. The handshake has at most 60 of its own. -/
def Waiting.turnsLeft (s : Waiting) (now : Nat) : Nat :=
  (if s.associated then 0 else 60) + (s.deadline - now + 249) / 250

theorem Waiting.turnsLeft_le (s : Waiting) {now now' : Nat} (later : now ≤ now') : s.turnsLeft now' ≤ s.turnsLeft now := by
  unfold turnsLeft
  omega

theorem Waiting.turnsLeft_lt {s : Waiting} {now now' : Nat} (before : now < s.deadline)
    (later : now + pollIntervalMs ≤ now') : s.turnsLeft now' < s.turnsLeft now := by
  unfold turnsLeft
  rw [pollIntervalMs] at later
  omega

/-- A turn that goes on is one of those that were left. -/
def Counts (left : Nat) (d : Device) (r : Waiting ⊕ Option Bool) (d' : Device) : Prop :=
  d.now ≤ d'.now ∧ ∀ s, r = .inl s → s.turnsLeft d'.now < left

section Counts
variable {left sdk : Nat} {s : Waiting} {d d' : Device}

theorem Counts.leaves (later : d.now ≤ d'.now) {result : Option Bool} : Counts left d (.inr result) d' :=
  ⟨later, fun _ same => nomatch same⟩

theorem Counts.from {r : Waiting ⊕ Option Bool} {d'' : Device} (later : d.now ≤ d'.now) (counts : Counts left d' r d'') :
    Counts left d r d'' :=
  ⟨Nat.le_trans later counts.1, counts.2⟩

theorem counts_goesOn (enough : s.turnsLeft (d.now + pollIntervalMs) < left) :
    Meets undisturbed ending (Counts left d) (goesOn s) d := by
  refine .call_bind trivial fun slept answered => ?_
  cases slept with
  | true =>
    refine ⟨now_le_after answered, fun s' same => ?_⟩
    rw [← Sum.inl.inj same]
    exact enough
  | false => exact .leaves (now_le_after answered)

theorem counts_usable (enough : s.turnsLeft (d.now + pollIntervalMs) < left) :
    Meets undisturbed ending (Counts left d) (usable sdk s) d := by
  unfold usable
  split
  · exact .leaves (Nat.le_refl _)
  · refine (ticks.moves_hasActiveTransport sdk d).bind fun active d' later => ?_
    split
    · exact .leaves later
    · have fewer := s.turnsLeft_le (Nat.add_le_add_right later pollIntervalMs)
      exact (counts_goesOn (Nat.lt_of_le_of_lt fewer enough)).mono fun r d'' counts => counts.from later

/-- The handshake takes what was kept for it. -/
theorem counts_associates (room : 60 ≤ left) : Meets undisturbed ending (Counts left d) (associates sdk s) d := by
  refine .call_bind trivial fun now answered => ?_
  refine (counts_usable ?_).mono fun r d' counts => counts.from (now_le_after answered)
  have here : (undisturbed.after d .currentTimeMillis now).now = now := rfl
  rw [here, Waiting.turnsLeft, if_pos rfl, ssidDhcpTimeoutMs, pollIntervalMs]
  dsimp only
  omega

theorem counts_transportTurn (sdk : Nat) (targetSsid : Option String) (s : Waiting) (d : Device) :
    Meets undisturbed ending (Counts (s.turnsLeft d.now) d) (transportTurn sdk targetSsid s) d := by
  refine .call_bind trivial fun now answered => ?_
  have first := now_le_after answered
  split
  · rename_i before
    -- whatever the turn does first, it sleeps then
    have sleeps {d' : Device} (later : d.now ≤ d'.now) : s.turnsLeft (d'.now + pollIntervalMs) < s.turnsLeft d.now :=
      Waiting.turnsLeft_lt (Nat.lt_of_le_of_lt first before) (Nat.add_le_add_right later _)
    split
    · rename_i ssid
      refine (ticks.moves_getConnectedSsid sdk _).bind fun current d₁ later => ?_
      replace later := Nat.le_trans first later
      split
      · exact (counts_usable (sleeps later)).mono fun _ _ counts => counts.from later
      · rename_i waiting
        split
        · have room : 60 ≤ s.turnsLeft d.now := by
            rw [Waiting.turnsLeft, if_neg waiting]
            exact Nat.le_add_right ..
          exact (counts_associates room).mono fun _ _ counts => counts.from later
        · refine .call_bind trivial fun now answered => ?_
          replace later := Nat.le_trans later (now_le_after answered)
          split
          · refine (ends_tryConnectBySsid sdk ssid _).bind fun _ d₂ tried => ?_
            replace later := Nat.le_trans later tried
            exact (counts_goesOn (s := { s with lastRetry := now }) (sleeps later)).mono fun _ _ counts => counts.from later
          · exact (counts_goesOn (sleeps later)).mono fun _ _ counts => counts.from later
    · refine (ticks.moves_hasActiveTransport sdk _).bind fun active d₁ later => ?_
      replace later := Nat.le_trans first later
      split
      · exact .leaves later
      · exact (counts_goesOn (sleeps later)).mono fun _ _ counts => counts.from later
  · exact .leaves first

theorem counts_suggestionTurn (sdk : Nat) (targetSsid : String) (s : Waiting) (d : Device) :
    Meets undisturbed ending (Counts (s.turnsLeft d.now) d) (suggestionTurn sdk targetSsid s) d := by
  refine .call_bind trivial fun now answered => ?_
  have first := now_le_after answered
  split
  · rename_i before
    have sleeps {d' : Device} (later : d.now ≤ d'.now) : s.turnsLeft (d'.now + pollIntervalMs) < s.turnsLeft d.now :=
      Waiting.turnsLeft_lt (Nat.lt_of_le_of_lt first before) (Nat.add_le_add_right later _)
    refine (ticks.moves_getConnectedSsid sdk _).bind fun current d₁ later => ?_
    replace later := Nat.le_trans first later
    split
    · exact (counts_usable (sleeps later)).mono fun _ _ counts => counts.from later
    · rename_i waiting
      have checks : Ends (if current = some targetSsid then isFullyAssociated targetSsid else pure false) := by
        split
        · exact ticks.moves_isFullyAssociated targetSsid
        · exact ticks.returns
      refine (checks d₁).bind fun associated d₂ checked => ?_
      replace later := Nat.le_trans later checked
      split
      · have room : 60 ≤ s.turnsLeft d.now := by
          rw [Waiting.turnsLeft, if_neg waiting]
          exact Nat.le_add_right ..
        exact (counts_associates room).mono fun _ _ counts => counts.from later
      · refine .call_bind trivial fun now answered => ?_
        replace later := Nat.le_trans later (now_le_after answered)
        split
        · refine .call_bind trivial fun scan answered => ?_
          replace later := Nat.le_trans later (now_le_after answered)
          exact (counts_goesOn (s := { s with lastRetry := now }) (sleeps later)).mono fun _ _ counts => counts.from later
        · exact (counts_goesOn (sleeps later)).mono fun _ _ counts => counts.from later
  · exact .leaves first

end Counts

/-- A loop whose turns are counted comes to its end. -/
theorem ends_repeated {σ α : Type} {body : σ → Android (σ ⊕ α)} (left : σ → Nat → Nat)
    (turn : ∀ s d, Meets undisturbed ending
      (fun r d' => d.now ≤ d'.now ∧ ∀ s', r = .inl s' → left s' d'.now < left s d.now) (body s) d)
    {n : Nat} {s : σ} {d : Device} (enough : left s d.now < n) :
    Meets undisturbed ending (fun _ d' => d.now ≤ d'.now) (.repeated body n s) d := by
  refine Meets.repeated_measure (fun _ d' => d.now ≤ d'.now) (fun s d => left s d.now) ?_ (Nat.le_refl _) enough
  intro s d' later
  refine (turn s d').mono ?_
  rintro (s' | result) d'' ⟨still, fewer⟩
  · exact ⟨Nat.le_trans later still, fewer s' rfl⟩
  · exact Nat.le_trans later still

/-- At the start the handshake and the whole time are left. -/
theorem turnsLeft_start {n timeoutMs : Nat} (enough : 60 + (timeoutMs + 249) / 250 < n) (now : Nat) :
    ({ deadline := now + timeoutMs } : Waiting).turnsLeft now < n := by
  rw [Waiting.turnsLeft, if_neg Bool.false_ne_true]
  dsimp only
  omega

theorem ends_waitForTransport {n sdk timeoutMs : Nat} (enough : 60 + (timeoutMs + 249) / 250 < n)
    (targetSsid : Option String) : Ends (waitForTransport n sdk timeoutMs targetSsid) := by
  intro d
  refine .call_bind trivial fun (now : Nat) answered => ?_
  have fewer := turnsLeft_start enough now
  have loops := ends_repeated (d := undisturbed.after d .currentTimeMillis now) _ (counts_transportTurn sdk targetSsid) fewer
  refine loops.bind fun result d' later => ?_
  replace later := Nat.le_trans (now_le_after answered) later
  split
  · exact later
  · exact (ticks.moves_lastCheck sdk targetSsid d').mono fun _ _ last => Nat.le_trans later last

theorem ends_waitForSuggestionTransport {n sdk timeoutMs : Nat} (enough : 60 + (timeoutMs + 249) / 250 < n)
    (targetSsid : String) : Ends (waitForSuggestionTransport n sdk timeoutMs targetSsid) := by
  intro d
  refine .call_bind trivial fun (now : Nat) answered => ?_
  have fewer := turnsLeft_start enough now
  have loops := ends_repeated (d := undisturbed.after d .currentTimeMillis now) _ (counts_suggestionTurn sdk targetSsid) fewer
  refine loops.bind fun result d' later => ?_
  replace later := Nat.le_trans (now_le_after answered) later
  split
  · exact later
  · have asks : Ends (do
        if (← getConnectedSsid sdk) = some targetSsid then hasActiveTransport sdk else return false) := by
      refine ticks.bind (ticks.moves_getConnectedSsid sdk) fun current => ?_
      split
      · exact ticks.moves_hasActiveTransport sdk
      · exact ticks.returns
    exact (asks d').mono fun _ _ last => Nat.le_trans later last

/-! Two loops have nothing but a deadline. -/

def pollsLeft (deadline now : Nat) : Nat := (deadline - now + 249) / 250

theorem pollsLeft_lt {deadline now now' : Nat} (before : now < deadline) (later : now + pollIntervalMs ≤ now') :
    pollsLeft deadline now' < pollsLeft deadline now := by
  unfold pollsLeft
  rw [pollIntervalMs] at later
  omega

/-- The end of a turn that found nothing yet. -/
theorem counts_sleep {deadline pause : Nat} {d d' : Device} (long : pollIntervalMs ≤ pause) (before : d.now < deadline)
    (later : d.now ≤ d'.now) :
    Meets undisturbed ending
      (fun r d'' => d.now ≤ d''.now ∧ ∀ s, r = .inl s → pollsLeft s d''.now < pollsLeft deadline d.now)
      (do if ← sleep pause then return .inl deadline else return .inr false : Android (Nat ⊕ Bool)) d' := by
  refine .call_bind trivial fun slept answered => ?_
  have after := Nat.le_trans later (now_le_after answered)
  cases slept with
  | true =>
    refine ⟨after, fun s same => ?_⟩
    rw [← Sum.inl.inj same]
    exact pollsLeft_lt before (Nat.add_le_add later long)
  | false => exact ⟨after, fun s same => nomatch same⟩

theorem counts_p2pTurn (deadline : Nat) (d : Device) :
    Meets undisturbed ending
      (fun r d' => d.now ≤ d'.now ∧ ∀ s, r = .inl s → pollsLeft s d'.now < pollsLeft deadline d.now)
      (p2pTurn deadline) d := by
  refine .call_bind trivial fun now answered => ?_
  have later := now_le_after answered
  split
  · rename_i before
    replace before := Nat.lt_of_le_of_lt later before
    refine .call_bind trivial fun connected answered => ?_
    replace later := Nat.le_trans later (now_le_after answered)
    split
    · exact ⟨later, fun s same => nomatch same⟩
    · refine (ticks.moves_hasP2pInterface _).bind fun p2p d' checked => ?_
      replace later := Nat.le_trans later checked
      split
      · exact ⟨later, fun s same => nomatch same⟩
      · exact counts_sleep (Nat.le_refl _) before later
  · refine .call_bind trivial fun connected answered => ?_
    replace later := Nat.le_trans later (now_le_after answered)
    refine (ticks.moves_hasP2pInterface _).bind fun p2p d' checked => ?_
    exact ⟨Nat.le_trans later checked, fun s same => nomatch same⟩

theorem counts_associationTurn (targetSsid : String) (deadline : Nat) (d : Device) :
    Meets undisturbed ending
      (fun r d' => d.now ≤ d'.now ∧ ∀ s, r = .inl s → pollsLeft s d'.now < pollsLeft deadline d.now)
      (associationTurn targetSsid deadline) d := by
  refine .call_bind trivial fun now answered => ?_
  have later := now_le_after answered
  split
  · rename_i before
    replace before := Nat.lt_of_le_of_lt later before
    refine .call_bind trivial fun info answered => ?_
    replace later := Nat.le_trans later (now_le_after answered)
    split
    · exact ⟨later, fun s same => nomatch same⟩
    · exact counts_sleep (by decide) before later
  · refine .call_bind trivial fun info answered => ?_
    exact ⟨Nat.le_trans later (now_le_after answered), fun s same => nomatch same⟩

theorem ends_waitForGroup {n : Nat} (enough : 8 < n) : Ends (waitForGroup n) := by
  intro d
  refine .call_bind trivial fun (now : Nat) answered => ?_
  have fewer : pollsLeft (now + transportPollTimeoutMs) now < n := by
    rw [pollsLeft, transportPollTimeoutMs]
    omega
  exact (ends_repeated pollsLeft counts_p2pTurn fewer).mono fun _ _ later => Nat.le_trans (now_le_after answered) later

theorem ends_waitForAssociation {n : Nat} (enough : 60 < n) (targetSsid : String) :
    Ends (waitForAssociation n targetSsid 15000) := by
  refine ticks.bind (ends_call _) fun wifiManager => ?_
  split
  · intro d
    refine .call_bind trivial fun (now : Nat) answered => ?_
    have fewer : pollsLeft (now + 15000) now < n := by
      rw [pollsLeft]
      omega
    exact (ends_repeated pollsLeft (counts_associationTurn targetSsid) fewer).mono fun _ _ later =>
      Nat.le_trans (now_le_after answered) later
  · exact ticks.returns

/-- The loops of the chain have turns enough. -/
theorem ends_chain {n : Nat} (enough : 421 ≤ n) (sdk : Nat) : Chain undisturbed ending (fun d d' => d.now ≤ d'.now) n sdk where
  toPlainly := ticks
  connects := ends_tryConnectBySsid sdk
  saves := ends_saveCurrentSsid sdk
  transport timeoutMs targetSsid short := by
    rw [preferredSsidAssocTimeoutMs] at short
    exact ends_waitForTransport (by omega) targetSsid
  suggestion targetSsid := ends_waitForSuggestionTransport (by rw [suggestionAssocTimeoutMs]; omega) targetSsid
  group := ends_waitForGroup (by omega)

/-! Restoring has the two waits for the previous network. -/

theorem ends_reEnableAll (method : Option SaveMethod) (parts : List String) (configured : List WifiConfiguration) :
    Ends (reEnableAll method configured parts) := by
  induction parts generalizing configured with
  | nil => exact ticks.returns
  | cons part rest ih =>
    have saves (config : WifiConfiguration) : Ends (if config.status = .enabled then pure false
        else invokeSave method { config with status := .enabled }) := by
      split
      · exact ticks.returns
      · cases method with
        | none => exact ticks.returns
        | some method => cases method <;> exact ticks.bind (ends_call _) fun r => by split <;> exact ticks.returns
    have marks (saved : Bool) (id : Int32) : Ends (if saved then pure true else enables id false) := by
      split
      · exact ticks.returns
      · exact ends_enables id false
    unfold reEnableAll
    split
    · exact ih configured
    · split
      · exact ih configured
      · exact ticks.bind (saves _) fun saved => ticks.bind (marks saved _) fun _ => ih _

theorem ends_reEnableRememberedNetworks : Ends reEnableRememberedNetworks := by
  refine ticks.bind (ends_call _) fun prefs => ?_
  split
  · exact ticks.returns
  · split
    · exact ticks.returns
    · refine ticks.bind ticks.moves_configuredNetworks fun configured => ?_
      split
      · exact ticks.returns
      · exact ticks.bind (ends_call _) fun method => ticks.bind (ends_reEnableAll method _ _) fun _ => ends_call _

theorem ends_lookupNetId (previousSsid : String) (attempts : Nat) : Ends (lookupNetId previousSsid attempts) := by
  induction attempts with
  | zero => exact ticks.returns
  | succ attempts ih =>
    have again : Ends (if attempts = 0 then pure (some (-1))
        else do if ← sleep 1000 then lookupNetId previousSsid attempts else return none) := by
      split
      · exact ticks.returns
      · refine ticks.bind (ends_call _) fun slept => ?_
        split
        · exact ih
        · exact ticks.returns
    refine ticks.bind ticks.moves_configuredNetworks fun configured => ?_
    split
    · split
      · exact ticks.returns
      · exact again
    · exact again

theorem ends_switchBack {n : Nat} (enough : 60 < n) (previousSsid : String) (netId : Int32) :
    Ends (switchBack n previousSsid netId) := by
  refine ticks.bind (ends_enables netId true) fun enableOk => ?_
  refine ticks.bind (ends_waitForAssociation enough previousSsid) fun associated => ?_
  split
  · exact ticks.returns
  · split
    · exact ticks.bind (ends_call _) fun _ => ticks.bind (ends_waitForAssociation enough previousSsid) fun _ => ticks.returns
    · exact ticks.returns

theorem ends_restorePreviousNetwork {n : Nat} (enough : 60 < n) (sdk : Nat) : Ends (restorePreviousNetwork n sdk) := by
  have reEnables : Ends (if sdk = kitkat then reEnableRememberedNetworks else pure ()) := by
    split
    · exact ends_reEnableRememberedNetworks
    · exact ticks.returns
  refine ticks.bind (ticks.moves_removeAllSuggestions sdk) fun _ => ticks.bind (ends_call _) fun prefs => ?_
  split
  · exact ticks.returns
  · refine ticks.bind (ends_call _) fun wifiManager => ?_
    split
    · refine ticks.bind reEnables fun _ => ticks.bind (ticks.moves_getConnectedSsid sdk) fun current => ?_
      split
      · exact ends_call _
      · refine ticks.bind (ends_lookupNetId _ _) fun found => ?_
        split
        · exact ends_call _
        · split
          · exact ends_call _
          · exact ticks.bind (ends_switchBack enough _ _) fun _ => ends_call _
    · exact ticks.returns

theorem ends_program {n : Nat} (enough : 421 ≤ n) (sdk : Nat) (session : Session) : Ends (session.program n sdk) := by
  cases session with
  | ensure preferredSsid => exact ticks.bind ((ends_chain enough sdk).moves_ensureActiveTransport preferredSsid) fun _ => ticks.returns
  | restore => exact ends_restorePreviousNetwork (by omega) sdk
  | removeSuggestions => exact ticks.moves_removeAllSuggestions sdk

/-- 421 turns are enough for every loop of a session. -/
theorem session_ends {n sdk : Nat} (enough : 421 ≤ n) {session : Session} {d d' : Device} {p : Android Unit}
    (reaches : Reaches undisturbed (session.program n sdk) d p d') : p ≠ .cut :=
  reaches.not_cut (ends_program enough sdk session d) id

/-! ### A group that is never formed -/

namespace Sample

def alone (d : Device) : (c : Call) → Option (Answer c)
  | .currentTimeMillis => some (show Nat from d.now)
  | .sleep _ => some true
  | .getSystemService service => some (match service with
    | .wifi => false
    | _ => true)
  | .getActiveNetworkInfo => some none
  | .hasWifiDirect => some true
  | .registerReceiver | .unregisterReceiver | .createGroup => some ()
  | .initializeChannel => some true
  | .await _ => some (.ok true)
  | .succeeded => some true
  | .connected => some false
  | .getNetworkInterface _ => some (.ok none)
  | _ => none

theorem alone_possible (d : Device) (c : Call) (r : Answer c) (given : alone d c = some r) :
    undisturbed.answers d c r := by
  refine ⟨?_, ?_⟩
  · cases c with
    | sharedPreferences => cases given
    | _ => trivial
  · cases c with
    | currentTimeMillis => exact Nat.le_of_eq (Option.some.inj given)
    | _ => trivial

def waited : Android Unit × Device :=
  follow undisturbed alone ((Session.ensure none).program 421 16) { prefs := {}, now := 0, past := [] }

theorem waited_ends : waited.1 ≠ .cut ∧ waited.2.now = transportPollTimeoutMs :=
  ⟨session_ends (by decide) (reaches_follow _ _ alone_possible _ _), rfl⟩

end Sample

end Gnirehtet.App.ConnectivityFallback
