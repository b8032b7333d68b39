import Gnirehtet.App.FallbackChain
import Mathlib.Logic.Function.Basic

/-!
# What the fallbacks do to the networks of the user

A call is judged by what its thread asked and was answered before it. Anything may be answered, so that the
platform, the user and the other threads of the app do what they like between two calls.
-/

namespace Gnirehtet.App.ConnectivityFallback
open Lib

abbrev Event := (c : Call) × Answer c

/-- The events of a thread, the last one first. -/
abbrev anything : Environment Call Answer (List Event) := history

/-- The platform gave this list. -/
def Listed (past : List Event) (configured : List WifiConfiguration) : Prop :=
  (⟨.getConfiguredNetworks, .ok (some configured)⟩ : Event) ∈ past

/-- The platform gave this list right now. -/
def JustListed (past : List Event) (configured : List WifiConfiguration) : Prop :=
  ∃ before, past = ⟨.getConfiguredNetworks, .ok (some configured)⟩ :: before

/-- The platform gave this id to a network. -/
def Known (past : List Event) (id : Int32) : Prop :=
  (∃ configured, Listed past configured ∧ ∃ config ∈ configured, config.networkId = id) ∨
    ∃ ssid keyMgmt, (⟨.addNetwork ssid keyMgmt, id⟩ : Event) ∈ past

/-- The platform said that the device is on this network. -/
def Reported (past : List Event) (ssid : String) : Prop :=
  (∃ info : WifiInfo, (⟨.getConnectionInfo, some info⟩ : Event) ∈ past ∧ normalizeSsid info.ssid = some ssid) ∨
    ∃ network, ∃ caps : NetworkCapabilities, (⟨.getNetworkCapabilities network, some caps⟩ : Event) ∈ past ∧
      caps.wifi = true ∧ caps.vpn = false ∧ caps.wifiInfo.bind normalizeSsid = some ssid

/-- A name of a relay, as it stands in a configuration. -/
def RelayName (name : String) : Prop := ∃ ssid, name = quoted ssid ∧ startsWith ssid gnirehtetSsidPrefix = true

/-- A name that is worth to be restored. -/
structure UserName (ssid : String) : Prop where
  some : ssid ≠ ""
  known : ssid ≠ "<unknown ssid>"
  foreign : startsWith ssid gnirehtetSsidPrefix = false

/-- Where a call is careful. -/
def Allowed (past : List Event) : Call → Prop
  | .removeNetwork id => ∃ configured, JustListed past configured ∧ ∃ config ∈ configured, config.networkId = id ∧
      ∃ name, config.ssid = some name ∧ RelayName name
  | .addNetwork name keyMgmt => RelayName name ∧ keyMgmt = .none
  | .enableNetwork id disableOthers => Known past id ∧ (disableOthers = true → id ≠ -1)
  | .saveConfiguration config | .updateNetwork config => ∃ configured, Listed past configured ∧
      ∃ old ∈ configured, config = { old with status := .enabled }
  | .putPreviousSsid ssid => UserName ssid ∧ Reported past ssid
  | .putEnabledNetworkIds ids => ∃ configured, JustListed past configured ∧ ids = joinIds configured
  | _ => True

def careful : Terms Call (List Event) where
  allowed := Allowed
  cut := True

/-- Each call of the program is careful, whatever the thread did before. -/
abbrev Careful {α : Type} (p : Android α) : Prop := Moves anything careful (fun _ _ => True) p

theorem plainly : Plainly anything careful (fun _ _ => True) where
  refl _ := trivial
  trans _ _ _ _ _ := trivial
  plain c plain past := by
    refine ⟨?_, fun _ _ => trivial⟩
    cases c <;> trivial

/-! ### Questions -/

/-- The SSID of a network is one that the platform reported. -/
theorem reported_firstWifiSsid (networks : List Nat) (past : List Event) :
    Meets anything careful (fun ssid past' => ∀ s, ssid = some s → Reported past' s) (firstWifiSsid networks) past := by
  induction networks generalizing past with
  | nil => simp [firstWifiSsid]
  | cons network rest ih =>
    refine .call_bind trivial fun caps _ => ?_
    split
    · exact ih _
    · rename_i caps _
      split
      · exact ih _
      · rename_i onWifi
        split
        · exact ih _
        · rename_i ssid found
          split
          · exact ih _
          · simp only [not_or, Bool.not_eq_true, Bool.not_eq_false] at onWifi
            simp only [Meets.pure, Option.some.injEq, forall_eq']
            exact .inr ⟨network, caps, List.mem_cons_self, onWifi.1, onWifi.2, found⟩

theorem reported_networkSsid (sdk : Nat) (past : List Event) :
    Meets anything careful (fun ssid past' => ∀ s, ssid = some s → Reported past' s) (networkSsid sdk) past := by
  unfold networkSsid
  split
  · simp
  · refine .call_bind trivial fun cm _ => ?_
    split
    · refine .call_bind trivial fun networks _ => ?_
      split
      · exact reported_firstWifiSsid _ _
      · simp
    · simp

theorem reported_getConnectedSsid (sdk : Nat) (past : List Event) :
    Meets anything careful (fun ssid past' => ∀ s, ssid = some s → Reported past' s) (getConnectedSsid sdk) past := by
  refine (reported_networkSsid sdk past).bind fun ssid past' reported => ?_
  split
  · exact reported
  · refine .call_bind trivial fun wifiManager _ => ?_
    split
    · refine .call_bind trivial fun info _ => ?_
      split
      · rename_i info _
        intro s same
        exact .inl ⟨info, List.mem_cons_self, same⟩
      · exact ⟨trivial, fun never => never.elim⟩
    · simp

/-! ### Switching -/

theorem Known.later {past : List Event} {id : Int32} (known : Known past id) (event : Event) : Known (event :: past) id := by
  obtain ⟨configured, listed, inside⟩ | ⟨ssid, keyMgmt, added⟩ := known
  · exact .inl ⟨configured, List.mem_cons_of_mem _ listed, inside⟩
  · exact .inr ⟨ssid, keyMgmt, List.mem_cons_of_mem _ added⟩

/-- The list is the answer that has just come. -/
theorem justListed_configuredNetworks (past : List Event) :
    Meets anything careful (fun found past' => ∀ configured, found = some configured → JustListed past' configured)
      configuredNetworks past := by
  refine .call_bind trivial fun r _ => ?_
  split
  · rename_i found
    intro configured same
    exact ⟨past, by rw [same]; rfl⟩
  · simp

theorem JustListed.listed {past : List Event} {configured : List WifiConfiguration} (just : JustListed past configured) :
    Listed past configured := by
  obtain ⟨before, rfl⟩ := just
  exact List.mem_cons_self

theorem known_findExistingNetId (ssid : String) (past : List Event) :
    Meets anything careful (fun id past' => id ≠ -1 → Known past' id) (findExistingNetId ssid) past := by
  refine (justListed_configuredNetworks past).bind fun found past' listed => ?_
  intro other
  cases found with
  | none => exact absurd rfl other
  | some configured =>
    have inside := (listed configured rfl).listed
    cases one : configured.find? fun config => normalizeSsid config.ssid == some ssid with
    | none => simp only [Option.getD_some, one, Option.map_none, Option.getD_none, ne_eq, not_true] at other
    | some config =>
      simp only [Option.getD_some, one, Option.map_some]
      exact .inl ⟨configured, inside, config, List.mem_of_find?_eq_some one, rfl⟩

/-- Only a name of a relay is passed. -/
theorem known_findOrAddOpenNetwork {ssid : String} (relay : startsWith ssid gnirehtetSsidPrefix = true)
    (past : List Event) : Meets anything careful (fun id past' => Known past' id) (findOrAddOpenNetwork ssid) past := by
  have name : RelayName (quoted ssid) := ⟨ssid, rfl, relay⟩
  have added (past : List Event) : Meets anything careful (fun id past' => Known past' id)
      (addNetwork (quoted ssid) .none) past :=
    ⟨⟨name, rfl⟩, fun id _ => .inr ⟨quoted ssid, .none, List.mem_cons_self⟩⟩
  refine (justListed_configuredNetworks past).bind fun found past' listed => ?_
  split
  · rename_i config one
    split
    · refine .call_bind ?_ fun _ _ => added _
      cases found with
      | none => cases one
      | some configured =>
        have named : config.ssid = some (quoted ssid) := by simpa using List.find?_some one
        exact ⟨configured, listed configured rfl, config, List.mem_of_find?_eq_some one, rfl, quoted ssid, named, name⟩
    · exact added past'
  · exact added past'

theorem careful_rememberEnabledNetworks : Careful rememberEnabledNetworks := by
  refine plainly.bind (plainly.call trivial) fun prefs => ?_
  split
  · exact plainly.returns
  · intro past
    refine (justListed_configuredNetworks past).bind fun found past' listed => ?_
    split
    · rename_i configured
      exact ⟨⟨configured, listed configured rfl, rfl⟩, fun _ _ => trivial⟩
    · simp

/-- The id is known when it is enabled. -/
theorem meets_enables {id : Int32} {disableOthers : Bool} {past : List Event} (known : Known past id)
    (some : disableOthers = true → id ≠ -1) :
    Meets anything careful (fun _ past' => ∃ event, past' = event :: past) (enables id disableOthers) past := by
  refine .call_bind ⟨known, some⟩ fun r _ => ?_
  split <;> exact ⟨_, rfl⟩

theorem careful_tryConnectBySsid (sdk : Nat) (ssid : String) : Careful (tryConnectBySsid sdk ssid) := by
  have remembers : Careful (if sdk = kitkat then rememberEnabledNetworks else pure ()) := by
    split
    · exact careful_rememberEnabledNetworks
    · exact plainly.returns
  refine plainly.bind remembers fun _ past => ?_
  have known : Meets anything careful (fun id past' => id ≠ -1 → Known past' id)
      (if startsWith ssid gnirehtetSsidPrefix then findOrAddOpenNetwork ssid else findExistingNetId ssid) past := by
    split
    · rename_i relay
      exact (known_findOrAddOpenNetwork relay past).mono fun _ _ known _ => known
    · exact known_findExistingNetId ssid past
  refine known.bind fun id past' known => ?_
  split
  · trivial
  · rename_i some
    exact (meets_enables (known some) fun _ => some).mono fun _ _ _ => trivial

/-- What is saved was reported, and is no name of a relay. -/
theorem careful_saveCurrentSsid (sdk : Nat) : Careful (saveCurrentSsid sdk) := by
  intro past
  refine (reported_getConnectedSsid sdk past).bind fun current past' reported => ?_
  split
  · trivial
  · rename_i current
    split
    · trivial
    · rename_i some
      split
      · trivial
      · rename_i foreign
        obtain ⟨nonempty, known⟩ := not_or.mp some
        exact ⟨⟨⟨nonempty, known, Bool.not_eq_true _ ▸ foreign⟩, reported current rfl⟩, fun _ _ => trivial⟩

theorem chain (n sdk : Nat) : Chain anything careful (fun _ _ => True) n sdk :=
  plainly.chain trivial n (careful_tryConnectBySsid sdk) (careful_saveCurrentSsid sdk)

/-! ### Restoring -/

/-- Each of these configurations was listed, but for its status. -/
def Marked (past : List Event) (configured : List WifiConfiguration) : Prop :=
  ∀ config ∈ configured, ∃ listed, Listed past listed ∧ ∃ old ∈ listed, ∃ status, config = { old with status }

theorem Marked.later {past : List Event} {configured : List WifiConfiguration} (marked : Marked past configured)
    (event : Event) : Marked (event :: past) configured := by
  intro config member
  obtain ⟨listed, inside, old⟩ := marked config member
  exact ⟨listed, List.mem_cons_of_mem _ inside, old⟩

theorem Marked.known {past : List Event} {configured : List WifiConfiguration} (marked : Marked past configured)
    {config : WifiConfiguration} (member : config ∈ configured) : Known past config.networkId := by
  obtain ⟨listed, inside, old, among, status, rfl⟩ := marked config member
  exact .inl ⟨listed, inside, old, among, rfl⟩

theorem Marked.enable {past : List Event} {configured : List WifiConfiguration} (marked : Marked past configured)
    (id : Int32) :
    Marked past (configured.map fun c => if c.networkId = id then { c with status := .enabled } else c) := by
  intro config member
  obtain ⟨c, before, rfl⟩ := List.mem_map.mp member
  obtain ⟨listed, inside, old, among, status, rfl⟩ := marked c before
  refine ⟨listed, inside, old, among, ?_⟩
  split
  · exact ⟨.enabled, rfl⟩
  · exact ⟨status, rfl⟩

/-- Only the status of a listed configuration is saved. -/
theorem meets_invokeSave {past : List Event} {configured : List WifiConfiguration} (marked : Marked past configured)
    (method : Option SaveMethod) {config : WifiConfiguration} (member : config ∈ configured) :
    Meets anything careful (fun _ past' => Marked past' configured)
      (invokeSave method { config with status := .enabled }) past := by
  have saved : ∃ listed, Listed past listed ∧ ∃ old ∈ listed,
      ({ config with status := .enabled } : WifiConfiguration) = { old with status := .enabled } := by
    obtain ⟨listed, inside, old, among, status, rfl⟩ := marked config member
    exact ⟨listed, inside, old, among, rfl⟩
  cases method with
  | none => exact marked
  | some method =>
    cases method with
    | saveConfiguration =>
      refine .call_bind saved fun r _ => ?_
      split <;> exact marked.later _
    | updateNetwork =>
      refine .call_bind saved fun r _ => ?_
      split <;> exact marked.later _

theorem meets_reEnableAll (method : Option SaveMethod) (parts : List String) {past : List Event}
    {configured : List WifiConfiguration} (marked : Marked past configured) :
    Meets anything careful (fun _ _ => True) (reEnableAll method configured parts) past := by
  induction parts generalizing past configured with
  | nil => trivial
  | cons part rest ih =>
    unfold reEnableAll
    split
    · exact ih marked
    · split
      · exact ih marked
      · rename_i id _ _ config found
        have member := List.mem_of_find?_eq_some found
        have same : config.networkId = id := by simpa using List.find?_some found
        have saves : Meets anything careful (fun _ past' => Marked past' configured)
            (if config.status = .enabled then pure false
              else invokeSave method { config with status := .enabled }) past := by
          split
          · exact marked
          · exact meets_invokeSave marked method member
        have enables (saved : Bool) {past : List Event} (marked : Marked past configured) :
            Meets anything careful (fun _ past' => Marked past' configured)
              (if saved then pure true else enables id false) past := by
          split
          · exact marked
          · have known := marked.known member
            rw [same] at known
            refine (meets_enables known (by simp)).mono fun _ past' appended => ?_
            obtain ⟨event, rfl⟩ := appended
            exact marked.later event
        refine saves.bind fun saved past' marked => (enables saved marked).bind fun _ past'' marked => ?_
        exact ih (marked.enable id)

theorem careful_reEnableRememberedNetworks : Careful reEnableRememberedNetworks := by
  refine plainly.bind (plainly.call trivial) fun prefs => ?_
  split
  · exact plainly.returns
  · split
    · exact plainly.returns
    · intro past
      refine (justListed_configuredNetworks past).bind fun found past' listed => ?_
      split
      · trivial
      · rename_i configured
        refine .call_bind trivial fun method _ => ?_
        have marked : Marked (⟨.getMethod, method⟩ :: past') configured := by
          intro config member
          exact ⟨configured, List.mem_cons_of_mem _ (listed configured rfl).listed, config, member, config.status, rfl⟩
        exact (meets_reEnableAll method _ marked).bind fun _ _ _ => ⟨trivial, fun _ _ => trivial⟩

theorem known_lookupNetId (previousSsid : String) (attempts : Nat) (past : List Event) :
    Meets anything careful (fun found past' => ∀ id, found = some id → id ≠ -1 → Known past' id)
      (lookupNetId previousSsid attempts) past := by
  induction attempts generalizing past with
  | zero =>
    intro id same other
    exact absurd (Option.some.inj same).symm other
  | succ attempts ih =>
    have again (past : List Event) : Meets anything careful
        (fun found past' => ∀ id, found = some id → id ≠ -1 → Known past' id)
        (if attempts = 0 then pure (some (-1))
          else do if ← sleep 1000 then lookupNetId previousSsid attempts else return none) past := by
      split
      · intro id same other
        exact absurd (Option.some.inj same).symm other
      · refine .call_bind trivial fun slept _ => ?_
        split
        · exact ih _
        · simp
    refine (justListed_configuredNetworks past).bind fun found past' listed => ?_
    split
    · rename_i config one
      split
      · cases found with
        | none => cases one
        | some configured =>
          intro id same _
          rw [← Option.some.inj same]
          exact .inl ⟨configured, (listed configured rfl).listed, config, List.mem_of_find?_eq_some one, rfl⟩
      · exact again past'
    · exact again past'

theorem careful_restorePreviousNetwork (n sdk : Nat) : Careful (restorePreviousNetwork n sdk) := by
  have reEnables : Careful (if sdk = kitkat then reEnableRememberedNetworks else pure ()) := by
    split
    · exact careful_reEnableRememberedNetworks
    · exact plainly.returns
  have forgets : Careful removePreviousSsid := Moves.call (fun _ => trivial) fun _ _ _ => trivial
  have waits (ssid : String) (enableOk : Bool) : Careful (do
      if ← waitForAssociation n ssid 15000 then return ()
      else if enableOk then
        let _ ← reconnect
        let _ ← waitForAssociation n ssid 15000
      else return ()) := by
    refine plainly.bind (plainly.moves_waitForAssociation trivial n ssid 15000) fun associated => ?_
    split
    · exact plainly.returns
    · split
      · exact plainly.bind (plainly.call trivial) fun _ => plainly.bind (plainly.moves_waitForAssociation trivial n ssid 15000) fun _ => plainly.returns
      · exact plainly.returns
  refine plainly.bind (plainly.moves_removeAllSuggestions sdk) fun _ => plainly.bind (plainly.call trivial) fun prefs => ?_
  split
  · exact plainly.returns
  · rename_i previousSsid _
    refine plainly.bind (plainly.call trivial) fun wifiManager => ?_
    split
    · refine plainly.bind reEnables fun _ => plainly.bind (plainly.moves_getConnectedSsid sdk) fun current => ?_
      split
      · exact forgets
      · intro past
        refine (known_lookupNetId previousSsid 3 past).bind fun found past' known => ?_
        split
        · exact forgets past'
        · rename_i netId
          split
          · exact forgets past'
          · rename_i some
            have switches : Meets anything careful (fun _ _ => True) (switchBack n previousSsid netId) past' :=
              (meets_enables (known netId rfl some) fun _ => some).bind fun enableOk past'' _ =>
                waits previousSsid enableOk past''
            exact switches.bind fun _ past'' _ => forgets past''
    · exact plainly.returns

/-! ### All threads -/

/-- What a thread of the service runs. -/
inductive Session where
  | ensure (preferredSsid : Option String)
  | restore
  | removeSuggestions

def Session.program (n sdk : Nat) : Session → Android Unit
  | .ensure preferredSsid => do
    let _ ← ensureActiveTransport n sdk preferredSsid
  | .restore => restorePreviousNetwork n sdk
  | .removeSuggestions => removeAllSuggestions sdk

theorem careful_program (n sdk : Nat) (session : Session) : Careful (session.program n sdk) := by
  cases session with
  | ensure preferredSsid => exact plainly.bind ((chain n sdk).moves_ensureActiveTransport preferredSsid) fun _ => plainly.returns
  | restore => exact careful_restorePreviousNetwork n sdk
  | removeSuggestions => exact plainly.moves_removeAllSuggestions sdk

/-- The threads share the preferences. -/
structure Process (ι : Type) where
  prefs : Prefs
  running : ι → Android Unit
  past : ι → List Event

/-- The preferences that a call leaves. -/
def Prefs.after (prefs : Prefs) : Call → Prefs
  | .putPreviousSsid ssid => { prefs with previousSsid := some ssid }
  | .removePreviousSsid => { prefs with previousSsid := none }
  | .putEnabledNetworkIds ids => { prefs with enabledNetworkIds := some ids }
  | .removeEnabledNetworkIds => { prefs with enabledNetworkIds := none }
  | _ => prefs

def Prefs.Answers (prefs : Prefs) : (c : Call) → Answer c → Prop
  | .sharedPreferences, read => read = prefs
  | _, _ => True

namespace Process
variable {ι : Type} [DecidableEq ι] {sdk : Nat} {s s' : Process ι}

def start : Process ι where
  prefs := {}
  running _ := pure ()
  past _ := []

/-- A thread starts a session, also in place of one that was not finished, or makes one call. -/
inductive Step (sdk : Nat) (s : Process ι) : Process ι → Prop where
  | begins (i : ι) (n : Nat) (session : Session) :
    Step sdk s { s with running := Function.update s.running i (session.program n sdk) }
  | asks (i : ι) (c : Call) (next : Answer c → Android Unit) (r : Answer c) (here : s.running i = .ask c next)
    (read : s.prefs.Answers c r) :
    Step sdk s {
      prefs := s.prefs.after c
      running := Function.update s.running i (next r)
      past := Function.update s.past i (⟨c, r⟩ :: s.past i) }

def Reachable (sdk : Nat) : Process ι → Prop := Relation.ReflTransGen (Step sdk) start

/-- Every call of these events was allowed by the events before it. -/
def AllCareful : List Event → Prop
  | [] => True
  | ⟨c, _⟩ :: before => Allowed before c ∧ AllCareful before

theorem AllCareful.at_event {after before : List Event} {c : Call} {r : Answer c}
    (all : AllCareful (after ++ ⟨c, r⟩ :: before)) : Allowed before c := by
  induction after with
  | nil => exact all.1
  | cons event after ih => exact ih all.2

/-- What is left of each thread is careful, and what it did was. -/
structure Sound (s : Process ι) : Prop where
  left : ∀ i, Meets anything careful (fun _ _ => True) (s.running i) (s.past i)
  past : ∀ i, AllCareful (s.past i)
  saved : ∀ ssid, s.prefs.previousSsid = some ssid → UserName ssid ∧ ∃ i, Reported (s.past i) ssid

theorem Reported.later {past : List Event} {ssid : String} (reported : Reported past ssid) (event : Event) :
    Reported (event :: past) ssid := by
  obtain ⟨info, told, same⟩ | ⟨network, caps, told, rest⟩ := reported
  · exact .inl ⟨info, List.mem_cons_of_mem _ told, same⟩
  · exact .inr ⟨network, caps, List.mem_cons_of_mem _ told, rest⟩

/-- A call that is made keeps the preferences, or saves a network of the user. -/
theorem previousSsid_after {prefs : Prefs} {c : Call} {ssid : String}
    (saved : (prefs.after c).previousSsid = some ssid) :
    prefs.previousSsid = some ssid ∨ c = .putPreviousSsid ssid := by
  cases c with
  | putPreviousSsid other => exact .inr (congrArg _ (Option.some.inj saved))
  | removePreviousSsid => cases saved
  | _ => exact .inl saved

omit [DecidableEq ι] in
theorem sound_start : (start : Process ι).Sound where
  left _ := trivial
  past _ := trivial
  saved _ saved := nomatch saved

theorem Sound.step (sound : s.Sound) (step : Step sdk s s') : s'.Sound := by
  cases step with
  | begins i n session =>
    refine ⟨fun j => ?_, sound.past, sound.saved⟩
    dsimp only
    by_cases same : j = i
    · subst same
      rw [Function.update_self]
      exact careful_program n sdk session _
    · rw [Function.update_of_ne same]
      exact sound.left j
  | asks i c next r here read =>
    have meets := sound.left i
    rw [here] at meets
    refine ⟨fun j => ?_, fun j => ?_, fun ssid saved => ?_⟩ <;> dsimp only at *
    · by_cases same : j = i
      · subst same
        rw [Function.update_self, Function.update_self]
        exact meets.2 r trivial
      · rw [Function.update_of_ne same, Function.update_of_ne same]
        exact sound.left j
    · by_cases same : j = i
      · subst same
        rw [Function.update_self]
        exact ⟨meets.1, sound.past j⟩
      · rw [Function.update_of_ne same]
        exact sound.past j
    · obtain before | rfl := previousSsid_after saved
      · obtain ⟨user, j, reported⟩ := sound.saved ssid before
        refine ⟨user, j, ?_⟩
        by_cases same : j = i
        · subst same
          rw [Function.update_self]
          exact Reported.later reported _
        · rwa [Function.update_of_ne same]
      · refine ⟨meets.1.1, i, ?_⟩
        rw [Function.update_self]
        exact Reported.later meets.1.2 _

theorem Sound.reachable (reachable : Reachable sdk s) : s.Sound := by
  induction reachable with
  | refl => exact sound_start
  | tail _ step ih => exact ih.step step

/-- However the threads, the user and the platform interleave, the app removes only open networks of a relay that the
platform has just listed, adds only such, changes nothing but the status of the others, and switches only to
networks that the platform knows. -/
theorem networks_of_user_kept (reachable : Reachable sdk s) (i : ι) {after before : List Event} {c : Call} {r : Answer c}
    (made : s.past i = after ++ ⟨c, r⟩ :: before) : Allowed before c := by
  have all := (Sound.reachable reachable).past i
  rw [made] at all
  exact all.at_event

/-- The network that is restored is one of the user, on which the platform said that the device was. -/
theorem previous_network_of_user (reachable : Reachable sdk s) {ssid : String}
    (saved : s.prefs.previousSsid = some ssid) : UserName ssid ∧ ∃ i, Reported (s.past i) ssid :=
  (Sound.reachable reachable).saved ssid saved

/-! ### One thread with computed answers -/

/-- At most `k` calls of the only thread. -/
def drive (answer : Prefs → (c : Call) → Option (Answer c)) : Nat → Process Unit → Process Unit
  | 0, s => s
  | k + 1, s =>
    match s.running () with
    | .ask c next =>
      match answer s.prefs c with
      | some r => drive answer k {
          prefs := s.prefs.after c
          running := Function.update s.running () (next r)
          past := Function.update s.past () (⟨c, r⟩ :: s.past ()) }
      | none => s
    | _ => s

theorem reachable_drive {answer : Prefs → (c : Call) → Option (Answer c)}
    (reads : ∀ (prefs : Prefs) c r, answer prefs c = some r → prefs.Answers c r) {s : Process Unit}
    (reachable : Reachable sdk s) (k : Nat) : Reachable sdk (drive answer k s) := by
  induction k generalizing s with
  | zero => exact reachable
  | succ k ih =>
    unfold drive
    split
    · rename_i c next here
      split
      · rename_i r given
        exact ih (reachable.tail (.asks () c next r here (reads s.prefs c r given)))
      · exact reachable
    · exact reachable

end Process

/-! ### A relay whose network is configured already -/

namespace Sample
open Process

def stale : WifiConfiguration := { ssid := some "\"gnirehtet-0abcd\"", networkId := 7, status := .enabled }

/-- The device is on the Wi-Fi at home. -/
def atHome (prefs : Prefs) : (c : Call) → Option (Answer c)
  | .sharedPreferences => some prefs
  | .putPreviousSsid _ => some ()
  | .getSystemService _ => some true
  | .isWifiEnabled => some true
  | .getConnectionInfo => some (some { ssid := some "\"home\"", bssid := none, completed := true, networkId := 3 })
  | .getConfiguredNetworks => some (.ok (some [stale]))
  | .removeNetwork _ => some (.ok ())
  | _ => none

theorem atHome_reads (prefs : Prefs) (c : Call) (r : Answer c) (given : atHome prefs c = some r) : prefs.Answers c r := by
  cases c with
  | sharedPreferences => exact (Option.some.inj given).symm
  | _ => trivial

def switching : Process Unit :=
  drive atHome 9 { start with running := Function.update start.running () ((Session.ensure (some "gnirehtet-0abcd")).program 1 20) }

theorem reachable_switching : Reachable 20 switching :=
  reachable_drive atHome_reads (.single (.begins () 1 (.ensure (some "gnirehtet-0abcd")))) 9

theorem stale_network_removed : ∃ before r, switching.past () = ⟨.removeNetwork 7, r⟩ :: before ∧
    Allowed before (.removeNetwork 7) :=
  ⟨_, _, rfl, networks_of_user_kept reachable_switching () (show _ = [] ++ _ :: _ from rfl)⟩

theorem home_saved : UserName "home" ∧ ∃ i, Reported (switching.past i) "home" :=
  previous_network_of_user reachable_switching rfl

end Sample

end Gnirehtet.App.ConnectivityFallback
