import Gnirehtet.App.FallbackRuns

/-!
# What a session leaves for the one that restores

On KitKat a switch disables the other networks for good, so the ids of those that were enabled are written down
before the first switch. A session that restores enables them again, and switches back once.
-/

namespace Gnirehtet.App.ConnectivityFallback
open Lib

/-- A listing gave nothing. -/
def ListingFailed (past : List Event) : Prop :=
  ∃ r, (⟨.getConfiguredNetworks, r⟩ : Event) ∈ past ∧ ∀ configured, r ≠ .ok (some configured)

/-- A switch disabled the other networks. -/
def Switched (past : List Event) : Prop := ∃ id r, (⟨.enableNetwork id true, r⟩ : Event) ∈ past

theorem ListingFailed.later {past : List Event} (failed : ListingFailed past) (event : Event) :
    ListingFailed (event :: past) := by
  obtain ⟨r, told, nothing⟩ := failed
  exact ⟨r, List.mem_cons_of_mem _ told, nothing⟩

theorem switched_cons {past : List Event} (event : Event) (other : ∀ id, event.1 ≠ .enableNetwork id true) :
    Switched (event :: past) ↔ Switched past := by
  constructor
  · rintro ⟨id, r, made⟩
    obtain same | before := List.mem_cons.mp made
    · exact absurd (congrArg Sigma.fst same.symm) (other id)
    · exact ⟨id, r, before⟩
  · rintro ⟨id, r, made⟩
    exact ⟨id, r, List.mem_cons_of_mem _ made⟩

@[simp] theorem past_after (d : Device) (c : Call) (r : Answer c) :
    (undisturbed.after d c r).past = ⟨c, r⟩ :: d.past := rfl

theorem listed_configuredNetworks {terms : Terms Call Device} (d : Device) (allowed : terms.allowed d .getConfiguredNetworks) :
    Meets undisturbed terms
      (fun found d' => d'.prefs = d.prefs ∧
        (∃ event, d'.past = event :: d.past ∧ event.1 = .getConfiguredNetworks) ∧
        match found with
        | some configured => JustListed d'.past configured
        | none => ListingFailed d'.past)
      configuredNetworks d := by
  refine .call_bind allowed fun r answered => ?_
  split
  · rename_i found
    refine ⟨rfl, ⟨_, rfl, rfl⟩, ?_⟩
    split
    · exact ⟨d.past, rfl⟩
    · exact ⟨_, List.mem_cons_self, fun configured same => nomatch same⟩
  · exact ⟨rfl, ⟨_, rfl, rfl⟩, _, List.mem_cons_self, fun configured same => nomatch same⟩

/-! ### The networks that were enabled -/

/-- What is written down was listed before the first switch. -/
structure Remembers (d : Device) : Prop where
  first : d.prefs.enabledNetworkIds = none → ¬ Switched d.past
  listed : ∀ ids, d.prefs.enabledNetworkIds = some ids → ∃ later before configured,
    d.past = later ++ ⟨.getConfiguredNetworks, .ok (some configured)⟩ :: before ∧ ids = joinIds configured ∧ ¬ Switched before

/-- A switch may be made. -/
def Ready (d : Device) : Prop := ListingFailed d.past ∨ d.prefs.enabledNetworkIds.isSome = true

def remembering : Terms Call Device where
  allowed d
    | .enableNetwork _ true => Ready d
    | .putEnabledNetworkIds ids => d.prefs.enabledNetworkIds = none ∧ ∃ configured, JustListed d.past configured ∧ ids = joinIds configured
    | .removeEnabledNetworkIds => False
    | _ => True
  cut := True

theorem Ready.later {d : Device} (ready : Ready d) {c : Call} (r : Answer c) (kept : c ≠ .removeEnabledNetworkIds) :
    Ready (undisturbed.after d c r) := by
  obtain failed | some := ready
  · exact .inl (failed.later _)
  · refine .inr ?_
    cases c with
    | putEnabledNetworkIds ids => rfl
    | removeEnabledNetworkIds => exact absurd rfl kept
    | _ => exact some

/-- No call but one makes a switch wrong. -/
theorem readies : Plainly undisturbed remembering (fun d d' => Ready d → Ready d') where
  refl _ := id
  trans _ _ _ first second := second ∘ first
  plain c plain d := by
    refine ⟨?_, fun r _ ready => ready.later r ?_⟩
    · cases c <;> trivial
    · rintro rfl
      exact plain

theorem ready_rememberEnabledNetworks (d : Device) :
    Meets undisturbed remembering (fun _ d' => Ready d') rememberEnabledNetworks d := by
  refine .call_bind trivial fun prefs answered => ?_
  have read : prefs = d.prefs := answered.1
  split
  · rename_i written
    rw [read] at written
    exact .inr written
  · rename_i open'
    rw [read, Bool.not_eq_true, Option.isSome_eq_false_iff, Option.isNone_iff_eq_none] at open'
    refine (listed_configuredNetworks _ trivial).bind fun found d' told => ?_
    obtain ⟨same, -, told⟩ := told
    split
    · rename_i configured
      refine ⟨⟨?_, configured, told, rfl⟩, fun _ _ => .inr rfl⟩
      rw [same]
      exact open'
    · exact .inl told

theorem ready_tryConnectBySsid (ssid : String) :
    Moves undisturbed remembering (fun d d' => Ready d → Ready d') (tryConnectBySsid kitkat ssid) := by
  intro d
  have calls {c : Call} (allowed : ∀ d, remembering.allowed d c) (kept : c ≠ .removeEnabledNetworkIds) :
      Moves undisturbed remembering (fun d d' => Ready d → Ready d') (call c) :=
    Moves.call allowed fun _ r _ ready => ready.later r kept
  have finds : Moves undisturbed remembering (fun d d' => Ready d → Ready d')
      (if startsWith ssid gnirehtetSsidPrefix then findOrAddOpenNetwork ssid else findExistingNetId ssid) := by
    split
    · refine readies.bind readies.moves_configuredNetworks fun configured => ?_
      have adds := calls (c := .addNetwork (quoted ssid) .none) (fun _ => trivial) (by simp)
      split
      · split
        · exact readies.bind (calls (fun _ => trivial) (by simp)) fun _ => adds
        · exact adds
      · exact adds
    · exact readies.bind readies.moves_configuredNetworks fun configured => readies.returns
  refine (ready_rememberEnabledNetworks d).bind fun _ d₁ ready => ?_
  refine (finds d₁).bind fun id d₂ stays => ?_
  split
  · exact fun _ => stays ready
  · refine .call_bind (stays ready) fun r _ => ?_
    split <;> exact fun _ => (stays ready).later _ (by simp)

theorem ready_saveCurrentSsid (sdk : Nat) :
    Moves undisturbed remembering (fun d d' => Ready d → Ready d') (saveCurrentSsid sdk) := by
  refine readies.bind (readies.moves_getConnectedSsid sdk) fun current => ?_
  split
  · exact readies.returns
  · split
    · exact readies.returns
    · split
      · exact readies.returns
      · exact Moves.call (fun _ => trivial) fun _ r _ ready => ready.later r (by simp)

/-- Another event leaves what was written down. -/
theorem Remembers.later {d : Device} (remembers : Remembers d) {c : Call} (r : Answer c)
    (first : (∃ id, c = .enableNetwork id true) → d.prefs.enabledNetworkIds.isSome)
    (kept : (d.prefs.after c).enabledNetworkIds = d.prefs.enabledNetworkIds) : Remembers (undisturbed.after d c r) where
  first open' switched := by
    replace open' := kept.symm.trans open'
    refine remembers.first open' ((switched_cons ⟨c, r⟩ fun id same => ?_).mp switched)
    have some := first ⟨id, same⟩
    rw [open'] at some
    cases some
  listed ids written := by
    obtain ⟨later, before, configured, order, rest⟩ := remembers.listed ids (kept.symm.trans written)
    exact ⟨⟨c, r⟩ :: later, before, configured, by simp [order], rest⟩

/-- A call that is allowed. -/
theorem remembers_after {d : Device} {c : Call} (r : Answer c) (allowed : remembering.allowed d c)
    (remembers : ListingFailed d.past ∨ Remembers d) :
    ListingFailed (undisturbed.after d c r).past ∨ Remembers (undisturbed.after d c r) := by
  obtain failed | remembers := remembers
  · exact .inl (failed.later _)
  · cases c with
    | removeEnabledNetworkIds => exact absurd allowed id
    | putEnabledNetworkIds ids =>
      obtain ⟨open', configured, ⟨before, told⟩, rfl⟩ := allowed
      have never := remembers.first open'
      rw [told, switched_cons _ (by simp)] at never
      refine .inr ⟨fun none => (nomatch (none : some _ = Option.none)), fun ids same => ?_⟩
      cases show some (joinIds configured) = some ids from same
      exact ⟨[⟨.putEnabledNetworkIds _, r⟩], before, configured, by simp [told], rfl, never⟩
    | enableNetwork id disableOthers =>
      cases disableOthers with
      | false => exact .inr (remembers.later r (by simp) rfl)
      | true =>
        obtain failed | written := show Ready d from allowed
        · exact .inl (failed.later _)
        · exact .inr (remembers.later r (fun _ => written) rfl)
    | _ => exact .inr (remembers.later r (by simp) rfl)

/-- However often the sessions retry, on KitKat the enabled networks are those of before the first switch, and they are
written down when it is made. Only a listing that failed spoils it. -/
theorem remembered_before_first_switch {n : Nat} {preferredSsid : Option String} {d d' : Device} {p : Android Unit}
    (start : Remembers d) (reaches : Reaches undisturbed ((Session.ensure preferredSsid).program n kitkat) d p d') :
    ListingFailed d'.past ∨ Remembers d' := by
  have chain : Chain undisturbed remembering (fun d d' => Ready d → Ready d') n kitkat :=
    readies.chain trivial n ready_tryConnectBySsid (ready_saveCurrentSsid kitkat)
  have whole : Moves undisturbed remembering _ ((Session.ensure preferredSsid).program n kitkat) :=
    readies.bind (chain.moves_ensureActiveTransport preferredSsid) fun _ => readies.returns
  exact reaches.keeps _ (fun _ _ r allowed _ => remembers_after r allowed) (whole d) (.inr start)

namespace Sample

def home : WifiInfo := { ssid := some "\"home\"", bssid := some "02:00:00:00:00:01", completed := true, networkId := 3 }

def relay : WifiInfo := { ssid := some "\"gnirehtet-0abcd\"", bssid := some "02:00:00:00:00:02", completed := true, networkId := 7 }

/-- The networks before a switch: one is in use, one is disabled. -/
def saved : List WifiConfiguration :=
  [{ ssid := some "\"home\"", networkId := 3, status := .current },
    { ssid := some "\"office\"", networkId := 5, status := .disabled },
    { ssid := some "\"guest\"", networkId := 6, status := .enabled }]

/-- Up to the wait for the relay. -/
def leavingHome (d : Device) : (c : Call) → Option (Answer c)
  | .sharedPreferences => some d.prefs
  | .putPreviousSsid _ | .putEnabledNetworkIds _ => some ()
  | .getSystemService _ => some true
  | .isWifiEnabled => some true
  | .getConnectionInfo => some (some home)
  | .getConfiguredNetworks => some (.ok (some saved))
  | .addNetwork _ _ => some (7 : Int32)
  | .enableNetwork _ _ => some (.ok true)
  | _ => none

theorem leavingHome_possible (d : Device) (c : Call) (r : Answer c) (given : leavingHome d c = some r) :
    undisturbed.answers d c r := by
  refine ⟨?_, ?_⟩
  · cases c with
    | sharedPreferences => exact (Option.some.inj given).symm
    | _ => trivial
  · cases c with
    | currentTimeMillis => cases given
    | _ => trivial

def left : Android Unit × Device :=
  follow undisturbed leavingHome ((Session.ensure (some "gnirehtet-0abcd")).program 421 kitkat)
    { prefs := {}, now := 0, past := [] }

theorem left_remembers : left.2.prefs.enabledNetworkIds = some "3,6" ∧ (ListingFailed left.2.past ∨ Remembers left.2) :=
  ⟨rfl, remembered_before_first_switch ⟨by simp [Switched], by simp⟩ (reaches_follow _ _ leavingHome_possible _ _)⟩

end Sample

/-! ### What is written down is read back -/

/-- The networks whose ids are written down. -/
def enabledIds (configured : List WifiConfiguration) : List Int32 :=
  (configured.filter fun config => config.status = .enabled ∨ config.status = .current).map (·.networkId)

/-- The ids that a text names. -/
def readIds (raw : String) : List Int32 := (splitIds raw).filterMap fun part => parseInt (trim part)

theorem joinIds_eq (configured : List WifiConfiguration) :
    joinIds configured = ",".intercalate ((enabledIds configured).map fun id => toString id.toInt) := by
  have ids : (configured.filterMap fun config => if config.status = .enabled ∨ config.status = .current then
      some (toString config.networkId.toInt) else none) = (enabledIds configured).map fun id => toString id.toInt := by
    induction configured with
    | nil => rfl
    | cons config rest ih =>
      rw [enabledIds] at ih ⊢
      by_cases written : config.status = .enabled ∨ config.status = .current
      · simp only [List.filterMap_cons, List.filter_cons, written, if_true, decide_true, List.map_cons, ih]
      · simp only [List.filterMap_cons, List.filter_cons, written, if_false, decide_false, Bool.false_eq_true, ih]
  rw [← ids]
  rfl

/-- Neither white space nor a comma is printed. -/
theorem printed_visible (id : Int32) {c : Char} (member : c ∈ (toString id.toInt).toList) : ' ' < c ∧ c ≠ ',' := by
  by_cases digit : c.isDigit
  · constructor
    · simp only [Char.isDigit, Bool.and_eq_true, decide_eq_true_eq] at digit
      exact Nat.lt_of_lt_of_le (by decide) digit.1
    · rintro rfl
      cases digit
  · by_cases minus : c = '-'
    · rw [minus]
      exact ⟨by decide, by decide⟩
    · exact absurd member (not_mem_toString (Bool.eq_false_iff.mpr digit) minus _)

theorem dropWhile_visible {text : List Char} (visible : ∀ c ∈ text, ' ' < c) : text.dropWhile (· ≤ ' ') = text := by
  cases text with
  | nil => rfl
  | cons c rest => exact List.dropWhile_cons_of_neg (by simpa using visible c List.mem_cons_self)

theorem trim_printed (id : Int32) : trim (toString id.toInt) = (toString id.toInt).toList := by
  have visible (c : Char) (member : c ∈ (toString id.toInt).toList) := (printed_visible id member).1
  rw [trim, dropWhile_visible visible, dropWhile_visible fun c member => visible c (List.mem_reverse.mp member),
    List.reverse_reverse]

theorem splitIds_joinIds {configured : List WifiConfiguration} (some : enabledIds configured ≠ []) :
    splitIds (joinIds configured) = (enabledIds configured).map fun id => toString id.toInt := by
  have pieces : (joinIds configured).toList.splitOn ',' =
      (enabledIds configured).map fun id => (toString id.toInt).toList := by
    rw [joinIds_eq, String.toList_intercalate, List.map_map]
    refine List.splitOn_intercalate ',' ?_ (by simpa using some)
    intro text member
    obtain ⟨id, -, rfl⟩ := List.mem_map.mp member
    exact fun comma => (printed_visible id comma).2 rfl
  have texts : ((joinIds configured).toList.splitOn ',').map String.ofList =
      (enabledIds configured).map fun id => toString id.toInt := by
    rw [pieces, List.map_map]
    exact List.map_congr_left fun id _ => String.ofList_toList
  -- the last piece is not empty
  have kept : ((enabledIds configured).map fun id => toString id.toInt).reverse.dropWhile (· = "") =
      ((enabledIds configured).map fun id => toString id.toInt).reverse := by
    cases last : ((enabledIds configured).map fun id => toString id.toInt).reverse with
    | nil => rfl
    | cons text rest =>
      have member : text ∈ (enabledIds configured).map fun id => toString id.toInt :=
        List.mem_reverse.mp (last ▸ List.mem_cons_self)
      obtain ⟨id, -, rfl⟩ := List.mem_map.mp member
      refine List.dropWhile_cons_of_neg fun empty => ?_
      have parsed := int32Numeral_toString CIDR.characterDigit_ascii id
      rw [of_decide_eq_true empty] at parsed
      cases parsed
  rw [splitIds, texts, kept, List.reverse_reverse]

/-- What was written down is read back. -/
theorem readIds_joinIds (configured : List WifiConfiguration) : readIds (joinIds configured) = enabledIds configured := by
  by_cases some : enabledIds configured = []
  · rw [joinIds_eq, some]
    rfl
  · have parsed : (fun part => parseInt (trim part)) ∘ (fun id : Int32 => toString id.toInt) = Option.some := by
      funext id
      rw [Function.comp_apply, trim_printed, parseInt, int32Numeral_toString CIDR.characterDigit_ascii]
    rw [readIds, splitIds_joinIds some, List.filterMap_map, parsed, List.filterMap_some]

/-! ### Restoring -/

/-- The platform listed a network of this name. -/
def ListedAs (past : List Event) (ssid : String) (id : Int32) : Prop :=
  ∃ configured, Listed past configured ∧ ∃ config ∈ configured, config.networkId = id ∧ normalizeSsid config.ssid = some ssid

/-- The network was saved as enabled, or at least asked to be enabled. -/
def Reenabled (past : List Event) (id : Int32) : Prop :=
  (∃ r, (⟨.enableNetwork id false, r⟩ : Event) ∈ past) ∨
    ∃ config : WifiConfiguration, config.networkId = id ∧ config.status = .enabled ∧
      ((⟨.saveConfiguration config, .ok true⟩ : Event) ∈ past ∨
        ∃ saved : Int32, 0 ≤ saved ∧ (⟨.updateNetwork config, .ok saved⟩ : Event) ∈ past)

/-- What a session that restores does, and in which order. `written` are the ids that it was left. -/
def Restoring (sdk : Nat) (previousSsid written : String) (past : List Event) : Call → Prop
  | .enableNetwork id true => ¬ Switched past ∧ ListedAs past previousSsid id ∧
    (sdk = kitkat → written = "" ∨ ListingFailed past ∨ (⟨.removeEnabledNetworkIds, ()⟩ : Event) ∈ past)
  | .enableNetwork id false => id ∈ readIds written
  | .saveConfiguration config | .updateNetwork config => config.networkId ∈ readIds written
  | .removeEnabledNetworkIds => ∃ configured, Listed past configured ∧
    ∀ id ∈ readIds written, (∃ config ∈ configured, config.networkId = id) → Reenabled past id
  | .removeNetwork _ | .addNetwork _ _ | .putPreviousSsid _ | .putEnabledNetworkIds _ => False
  | _ => True

def restoring (sdk : Nat) (previousSsid written : String) : Terms Call Device where
  allowed d := Restoring sdk previousSsid written d.past
  cut := True

/-- Neither is a network switched to nor a preference written. -/
structure Quietly (d d' : Device) : Prop where
  prefs : d'.prefs = d.prefs
  past : d.past <:+ d'.past
  switched : Switched d'.past → Switched d.past

theorem Quietly.refl (d : Device) : Quietly d d := ⟨rfl, List.suffix_refl _, id⟩

theorem Quietly.trans {a b c : Device} (first : Quietly a b) (second : Quietly b c) : Quietly a c where
  prefs := second.prefs.trans first.prefs
  past := first.past.trans second.past
  switched := first.switched ∘ second.switched

theorem Quietly.call {d : Device} {c : Call} (r : Answer c) (other : ∀ id, c ≠ .enableNetwork id true)
    (kept : d.prefs.after c = d.prefs) : Quietly d (undisturbed.after d c r) where
  prefs := kept
  past := List.suffix_cons ..
  switched := (switched_cons ⟨c, r⟩ other).mp

theorem Reenabled.later {past past' : List Event} {id : Int32} (reenabled : Reenabled past id) (later : past <:+ past') :
    Reenabled past' id := by
  obtain ⟨r, asked⟩ | ⟨config, same, enabled, saved | ⟨other, ok, saved⟩⟩ := reenabled
  · exact .inl ⟨r, later.subset asked⟩
  · exact .inr ⟨config, same, enabled, .inl (later.subset saved)⟩
  · exact .inr ⟨config, same, enabled, .inr ⟨other, ok, later.subset saved⟩⟩

section Restoring
variable {n sdk : Nat} {previousSsid written : String}

theorem quiets : Plainly undisturbed (restoring sdk previousSsid written) Quietly where
  refl := .refl
  trans _ _ _ := Quietly.trans
  plain c plain d := by
    refine ⟨?_, fun r _ => .call r ?_ ?_⟩
    · cases c <;> trivial
    · rintro id rfl
      exact plain
    · cases c <;> first | rfl | exact plain.elim

theorem asks_enables {id : Int32} (remembered : id ∈ readIds written) (d : Device) :
    Meets undisturbed (restoring sdk previousSsid written) (fun _ d' => Quietly d d' ∧ Reenabled d'.past id)
      (enables id false) d := by
  refine .call_bind remembered fun r _ => ?_
  have quiet : Quietly d (undisturbed.after d (.enableNetwork id false) r) := .call r (by simp) rfl
  split <;> exact ⟨quiet, .inl ⟨_, List.mem_cons_self⟩⟩

theorem saves_invokeSave (method : Option SaveMethod) (config : WifiConfiguration) (enabled : config.status = .enabled)
    (remembered : config.networkId ∈ readIds written) (d : Device) :
    Meets undisturbed (restoring sdk previousSsid written)
      (fun saved d' => Quietly d d' ∧ (saved = true → Reenabled d'.past config.networkId)) (invokeSave method config) d := by
  cases method with
  | none => exact ⟨.refl d, by simp⟩
  | some method =>
    cases method with
    | saveConfiguration =>
      refine .call_bind remembered fun r _ => ?_
      have quiet : Quietly d (undisturbed.after d (.saveConfiguration config) r) := .call r (by simp) rfl
      split
      · refine ⟨quiet, ?_⟩
        rintro rfl
        exact .inr ⟨config, rfl, enabled, .inl List.mem_cons_self⟩
      · exact ⟨quiet, by simp⟩
    | updateNetwork =>
      refine .call_bind remembered fun r _ => ?_
      have quiet : Quietly d (undisturbed.after d (.updateNetwork config) r) := .call r (by simp) rfl
      split
      · rename_i saved _
        exact ⟨quiet, fun ok => .inr ⟨config, rfl, enabled, .inr ⟨saved, of_decide_eq_true ok, List.mem_cons_self⟩⟩⟩
      · exact ⟨quiet, by simp⟩

/-- Every id that is read and listed is enabled again. -/
theorem reenables_reEnableAll (method : Option SaveMethod) (parts : List String)
    (remembered : ∀ part ∈ parts, ∀ id, parseInt (trim part) = some id → id ∈ readIds written)
    (configured : List WifiConfiguration) (d : Device) :
    Meets undisturbed (restoring sdk previousSsid written)
      (fun _ d' => Quietly d d' ∧ ∀ part ∈ parts, ∀ id, parseInt (trim part) = some id →
        (∃ config ∈ configured, config.networkId = id) → Reenabled d'.past id)
      (reEnableAll method configured parts) d := by
  induction parts generalizing configured d with
  | nil => exact ⟨.refl d, by simp⟩
  | cons part rest ih =>
    have others := ih fun part member => remembered part (List.mem_cons_of_mem _ member)
    unfold reEnableAll
    split
    · rename_i unread
      refine (others configured d).mono fun _ d' kept => ⟨kept.1, fun part' member id read => ?_⟩
      obtain rfl | member := List.mem_cons.mp member
      · exact absurd read (by simp [unread])
      · exact kept.2 part' member id read
    · rename_i id read
      split
      · rename_i unlisted
        refine (others configured d).mono fun _ d' kept => ⟨kept.1, fun part' member id' read' listed => ?_⟩
        obtain rfl | member := List.mem_cons.mp member
        · obtain ⟨config, inside, same⟩ := listed
          rw [read, Option.some.injEq] at read'
          exact absurd (List.find?_eq_none.mp unlisted config inside) (by simp [same, read'])
        · exact kept.2 part' member id' read' listed
      · rename_i config found
        have same : config.networkId = id := by simpa using List.find?_some found
        have known := remembered part List.mem_cons_self id read
        have saves : Meets undisturbed (restoring sdk previousSsid written)
            (fun saved d' => Quietly d d' ∧ (saved = true → Reenabled d'.past id))
            (if config.status = .enabled then pure false else invokeSave method { config with status := .enabled }) d := by
          split
          · exact ⟨.refl d, by simp⟩
          · rw [← same] at known ⊢
            exact saves_invokeSave method { config with status := .enabled } rfl known d
        refine saves.bind fun saved d₁ kept => ?_
        obtain ⟨quiet, reenabled⟩ := kept
        have marks : Meets undisturbed (restoring sdk previousSsid written)
            (fun _ d' => Quietly d₁ d' ∧ Reenabled d'.past id) (if saved then pure true else enables id false) d₁ := by
          split
          · exact ⟨.refl d₁, reenabled ‹_›⟩
          · exact asks_enables known d₁
        refine marks.bind fun _ d₂ kept => ?_
        obtain ⟨quiet₁, reenabled⟩ := kept
        refine (others _ d₂).mono fun _ d' kept => ?_
        obtain ⟨quiet₂, all⟩ := kept
        refine ⟨(quiet.trans quiet₁).trans quiet₂, ?_⟩
        rintro part' member id' read' ⟨other, inside, same'⟩
        obtain rfl | member := List.mem_cons.mp member
        · rw [read, Option.some.injEq] at read'
          exact read' ▸ reenabled.later quiet₂.past
        · refine all part' member id' read' ⟨_, List.mem_map_of_mem inside, ?_⟩
          split <;> exact same'

/-- What the switch back finds when the ids were taken care of. -/
structure Handled (written : String) (d d' : Device) : Prop where
  past : d.past <:+ d'.past
  switched : Switched d'.past → Switched d.past
  done : written = "" ∨ ListingFailed d'.past ∨ (⟨.removeEnabledNetworkIds, ()⟩ : Event) ∈ d'.past

theorem handles_reEnableRememberedNetworks {d : Device} (left : written = d.prefs.enabledNetworkIds.getD "") :
    Meets undisturbed (restoring sdk previousSsid written) (fun _ d' => Handled written d d') reEnableRememberedNetworks d := by
  refine .call_bind trivial fun prefs answered => ?_
  have read : prefs = d.prefs := answered.1
  have first : Quietly d (undisturbed.after d .sharedPreferences prefs) := .call prefs (by simp) rfl
  subst read
  split
  · rename_i none
    rw [none] at left
    exact ⟨first.past, first.switched, .inl left⟩
  · rename_i raw some
    rw [some, Option.getD_some] at left
    subst left
    split
    · rename_i empty
      exact ⟨first.past, first.switched, .inl empty⟩
    · refine (listed_configuredNetworks _ trivial).bind fun found d₁ ⟨same, ⟨event, order, kind⟩, told⟩ => ?_
      have past : d.past <:+ d₁.past := first.past.trans (order ▸ List.suffix_cons ..)
      have switched : Switched d₁.past → Switched d.past := by
        rw [order, switched_cons _ (by simp [kind])]
        exact first.switched
      split
      · exact ⟨past, switched, .inr (.inl told)⟩
      · rename_i configured _
        refine .call_bind trivial fun method _ => ?_
        have next : Quietly d₁ (undisturbed.after d₁ .getMethod method) := .call method (by simp) rfl
        have read (part : String) (member : part ∈ splitIds written) (id : Int32) (parsed : parseInt (trim part) = Option.some id) :
            id ∈ readIds written := List.mem_filterMap.mpr ⟨part, member, parsed⟩
        refine (reenables_reEnableAll method _ read configured _).bind fun _ d₂ ⟨quiet, all⟩ => ?_
        replace quiet := next.trans quiet
        refine ⟨⟨configured, quiet.past.subset (JustListed.listed told), fun id member listed => ?_⟩, fun r _ => ?_⟩
        · obtain ⟨part, inside, parsed⟩ := List.mem_filterMap.mp member
          exact all part inside id parsed listed
        · refine ⟨(past.trans quiet.past).trans (List.suffix_cons ..), ?_, .inr (.inr List.mem_cons_self)⟩
          intro after
          exact switched (quiet.switched ((switched_cons _ (by simp)).mp after))

theorem listed_lookupNetId (attempts : Nat) (d : Device) :
    Meets undisturbed (restoring sdk previousSsid written)
      (fun found d' => Quietly d d' ∧ ∀ id, found = some id → id ≠ -1 → ListedAs d'.past previousSsid id)
      (lookupNetId previousSsid attempts) d := by
  induction attempts generalizing d with
  | zero => exact ⟨.refl d, fun id same other => absurd (Option.some.inj same).symm other⟩
  | succ attempts ih =>
    have again (d : Device) : Meets undisturbed (restoring sdk previousSsid written)
        (fun found d' => Quietly d d' ∧ ∀ id, found = some id → id ≠ -1 → ListedAs d'.past previousSsid id)
        (if attempts = 0 then pure (some (-1))
          else do if ← sleep 1000 then lookupNetId previousSsid attempts else return none) d := by
      split
      · exact ⟨.refl d, fun id same other => absurd (Option.some.inj same).symm other⟩
      · refine .call_bind trivial fun slept _ => ?_
        have first : Quietly d (undisturbed.after d (.sleep 1000) slept) := .call slept (by simp) rfl
        split
        · exact (ih _).mono fun _ _ ⟨quiet, listed⟩ => ⟨first.trans quiet, listed⟩
        · exact ⟨first, by simp⟩
    refine (listed_configuredNetworks d trivial).bind fun found d₁ ⟨same, ⟨event, order, kind⟩, told⟩ => ?_
    have first : Quietly d d₁ := by
      refine ⟨same, order ▸ List.suffix_cons .., ?_⟩
      rw [order, switched_cons _ (by simp [kind])]
      exact id
    split
    · rename_i config one
      split
      · refine ⟨first, fun id same _ => ?_⟩
        cases found with
        | none => cases one
        | some configured =>
          have named : normalizeSsid config.ssid = some previousSsid := by simpa using List.find?_some one
          exact ⟨configured, JustListed.listed told, config, List.mem_of_find?_eq_some one, Option.some.inj same, named⟩
      · exact (again d₁).mono fun _ _ ⟨quiet, listed⟩ => ⟨first.trans quiet, listed⟩
    · exact (again d₁).mono fun _ _ ⟨quiet, listed⟩ => ⟨first.trans quiet, listed⟩

/-- The previous SSID is forgotten, or nothing could be restored. -/
def Forgotten (d : Device) : Prop := d.prefs.previousSsid = none ∨ (⟨.getSystemService .wifi, false⟩ : Event) ∈ d.past

theorem forgets (d : Device) : Meets undisturbed (restoring sdk previousSsid written) (fun _ d' => Forgotten d') removePreviousSsid d :=
  ⟨trivial, fun _ _ => .inl rfl⟩

/-- The waits behind the switch back change nothing. -/
theorem forgets_switchBack {netId : Int32} {d : Device} (allowed : Restoring sdk previousSsid written d.past (.enableNetwork netId true)) :
    Meets undisturbed (restoring sdk previousSsid written) (fun _ d' => Forgotten d') (do
      switchBack n previousSsid netId
      removePreviousSsid) d := by
  have waits (enableOk : Bool) : Moves undisturbed (restoring sdk previousSsid written) Quietly (do
      if ← waitForAssociation n previousSsid 15000 then return ()
      else if enableOk then
        let _ ← reconnect
        let _ ← waitForAssociation n previousSsid 15000
      else return ()) := by
    refine quiets.bind (quiets.moves_waitForAssociation trivial n previousSsid 15000) fun associated => ?_
    split
    · exact quiets.returns
    · split
      · exact quiets.bind (quiets.call trivial) fun _ =>
          quiets.bind (quiets.moves_waitForAssociation trivial n previousSsid 15000) fun _ => quiets.returns
      · exact quiets.returns
  have enabling : Meets undisturbed (restoring sdk previousSsid written) (fun _ _ => True) (enables netId true) d := by
    refine .call_bind allowed fun r _ => ?_
    split <;> trivial
  have switches : Meets undisturbed (restoring sdk previousSsid written) (fun _ _ => True) (switchBack n previousSsid netId) d :=
    enabling.bind fun enableOk d' _ => (waits enableOk d').mono fun _ _ _ => trivial
  exact switches.bind fun _ d' _ => forgets d'

theorem meets_restorePreviousNetwork (n sdk : Nat) {d : Device} (fresh : ¬ Switched d.past) (saved : d.prefs.previousSsid = some previousSsid)
    (left : written = d.prefs.enabledNetworkIds.getD "") :
    Meets undisturbed (restoring sdk previousSsid written) (fun _ d' => Forgotten d') (restorePreviousNetwork n sdk) d := by
  refine (quiets.moves_removeAllSuggestions sdk d).bind fun _ d₁ quiet => ?_
  refine .call_bind trivial fun prefs answered => ?_
  have read : prefs.previousSsid = some previousSsid := by rw [show prefs = d₁.prefs from answered.1, quiet.prefs, saved]
  rw [← quiet.prefs] at left
  have next : Quietly d₁ (undisturbed.after d₁ .sharedPreferences prefs) := .call prefs (by simp) rfl
  replace fresh : ¬ Switched (undisturbed.after d₁ .sharedPreferences prefs).past := fun some => fresh (quiet.switched (next.switched some))
  rw [← next.prefs] at left
  generalize undisturbed.after d₁ .sharedPreferences prefs = d₂ at fresh left
  rw [read]
  refine .call_bind trivial fun wifiManager _ => ?_
  have third : Quietly d₂ (undisturbed.after d₂ (.getSystemService .wifi) wifiManager) := .call wifiManager (by simp) rfl
  split
  · have handles : Meets undisturbed (restoring sdk previousSsid written)
        (fun _ d' => (Switched d'.past → Switched d₂.past) ∧ (sdk = kitkat → written = "" ∨ ListingFailed d'.past ∨
          (⟨.removeEnabledNetworkIds, ()⟩ : Event) ∈ d'.past))
        (if sdk = kitkat then reEnableRememberedNetworks else pure ()) (undisturbed.after d₂ (.getSystemService .wifi) wifiManager) := by
      split
      · exact (handles_reEnableRememberedNetworks (third.prefs ▸ left)).mono fun _ _ handled =>
          ⟨third.switched ∘ handled.switched, fun _ => handled.done⟩
      · rename_i modern
        exact ⟨third.switched, fun same => absurd same modern⟩
    refine handles.bind fun _ d₃ ⟨switched, done⟩ => ?_
    refine (quiets.moves_getConnectedSsid sdk d₃).bind fun current d₄ quiet => ?_
    split
    · exact forgets d₄
    · refine (listed_lookupNetId 3 d₄).bind fun found d₅ ⟨quiet', listed⟩ => ?_
      split
      · exact forgets d₅
      · rename_i netId _
        split
        · exact forgets d₅
        · rename_i some
          replace quiet := quiet.trans quiet'
          refine forgets_switchBack ⟨fun made => fresh (switched (quiet.switched made)), listed netId rfl some, fun same => ?_⟩
          obtain empty | failed | removed := done same
          · exact .inl empty
          · obtain ⟨r, told, nothing⟩ := failed
            exact .inr (.inl ⟨r, quiet.past.subset told, nothing⟩)
          · exact .inr (.inr (quiet.past.subset removed))
  · rename_i missing
    replace missing : wifiManager = false := Bool.eq_false_iff.mpr missing
    subst missing
    exact .inr List.mem_cons_self

/-- The calls of a session that restores, in the order in which they were made. -/
theorem restoring_made {d d' : Device} {p : Android Unit} (fresh : d.past = []) (saved : d.prefs.previousSsid = some previousSsid)
    (reaches : Reaches undisturbed (restorePreviousNetwork n sdk) d p d') {later before : List Event} {c : Call} {r : Answer c}
    (made : d'.past = later ++ ⟨c, r⟩ :: before) : Restoring sdk previousSsid (d.prefs.enabledNetworkIds.getD "") before c := by
  have meets := meets_restorePreviousNetwork n sdk (d := d) (by simp [fresh, Switched]) saved rfl
  exact reaches.made Device.past (fun _ _ _ => rfl) (fun _ _ allowed => allowed) meets fresh made

end Restoring

/-- A session that restores switches at most once, to a network that is listed under the saved name, adds and removes
none, and forgets the name before it ends. -/
theorem switched_back_once {n sdk : Nat} {previousSsid : String} {d d' : Device} {p : Android Unit} (fresh : d.past = [])
    (saved : d.prefs.previousSsid = some previousSsid) (reaches : Reaches undisturbed (restorePreviousNetwork n sdk) d p d') :
    (∀ later before id r, d'.past = later ++ ⟨.enableNetwork id true, r⟩ :: before →
      ¬ Switched later ∧ ¬ Switched before ∧ ListedAs before previousSsid id) ∧
    (∀ event ∈ d'.past, (∀ id, event.1 ≠ .removeNetwork id) ∧ ∀ name keyMgmt, event.1 ≠ .addNetwork name keyMgmt) ∧
    (p = pure () → Forgotten d') := by
  refine ⟨fun later before id r made => ?_, fun ⟨c, r⟩ member => ?_, ?_⟩
  · obtain ⟨never, listed, -⟩ := restoring_made fresh saved reaches made
    refine ⟨?_, never, listed⟩
    rintro ⟨id', r', again⟩
    obtain ⟨later, between, rfl⟩ := List.append_of_mem again
    rw [List.append_assoc, List.cons_append] at made
    obtain ⟨never, -⟩ := restoring_made fresh saved reaches made
    exact never ⟨id, r, List.mem_append_right _ List.mem_cons_self⟩
  · obtain ⟨later, before, made⟩ := List.append_of_mem member
    have allowed := restoring_made fresh saved reaches made
    constructor
    · rintro id rfl
      exact allowed
    · rintro name keyMgmt rfl
      exact allowed
  · rintro rfl
    exact reaches.result (meets_restorePreviousNetwork n sdk (by simp [fresh, Switched]) saved rfl)

/-- A call that deals with the networks that were enabled in a list. -/
def AsRemembered (configured : List WifiConfiguration) (before : List Event) : Call → Prop
  | .enableNetwork id false => id ∈ enabledIds configured
  | .saveConfiguration config | .updateNetwork config => config.networkId ∈ enabledIds configured
  | .removeEnabledNetworkIds => ∃ listed, Listed before listed ∧
    ∀ id ∈ enabledIds configured, (∃ config ∈ listed, config.networkId = id) → Reenabled before id
  | .enableNetwork _ true => enabledIds configured = [] ∨ ListingFailed before ∨
    (⟨.removeEnabledNetworkIds, ()⟩ : Event) ∈ before
  | _ => True

/-- On KitKat only networks that were written down are enabled again, all of them that are still listed, before they
are forgotten and before the others are disabled by the switch back. -/
theorem reenabled_as_remembered {n : Nat} {previousSsid : String} {configured : List WifiConfiguration} {d d' : Device}
    {p : Android Unit} (fresh : d.past = []) (saved : d.prefs.previousSsid = some previousSsid)
    (remembered : d.prefs.enabledNetworkIds = some (joinIds configured))
    (reaches : Reaches undisturbed (restorePreviousNetwork n kitkat) d p d') {later before : List Event} {c : Call}
    {r : Answer c} (made : d'.past = later ++ ⟨c, r⟩ :: before) : AsRemembered configured before c := by
  have allowed := restoring_made fresh saved reaches made
  rw [remembered, Option.getD_some] at allowed
  have read := readIds_joinIds configured
  cases c with
  | enableNetwork id disableOthers =>
    cases disableOthers with
    | false =>
      rw [AsRemembered, ← read]
      exact allowed
    | true =>
      obtain empty | rest := allowed.2.2 rfl
      · rw [empty] at read
        exact .inl read.symm
      · exact .inr rest
  | saveConfiguration config | updateNetwork config | removeEnabledNetworkIds =>
    rw [AsRemembered, ← read]
    exact allowed
  | _ => trivial

namespace Sample

/-- The networks behind the switch, where the others are disabled. -/
def disabled : List WifiConfiguration := saved.map fun config => { config with status := .disabled }

/-- The device is at home again when it was told to switch. -/
def comingHome (d : Device) : (c : Call) → Option (Answer c)
  | .currentTimeMillis => some (show Nat from d.now)
  | .sharedPreferences => some d.prefs
  | .removePreviousSsid | .removeEnabledNetworkIds => some ()
  | .getSystemService _ => some true
  | .getConnectionInfo => some (some (if d.prefs.enabledNetworkIds.isNone ∧ 9 < d.past.length then home else relay))
  | .getConfiguredNetworks => some (.ok (some disabled))
  | .getMethod => some (some .saveConfiguration)
  | .saveConfiguration _ | .enableNetwork _ _ => some (.ok true)
  | _ => none

theorem comingHome_possible (d : Device) (c : Call) (r : Answer c) (given : comingHome d c = some r) :
    undisturbed.answers d c r := by
  refine ⟨?_, ?_⟩
  · cases c with
    | sharedPreferences => exact (Option.some.inj given).symm
    | _ => trivial
  · cases c with
    | currentTimeMillis => exact Nat.le_of_eq (Option.some.inj given)
    | _ => trivial

def away : Device where
  prefs := { previousSsid := some "home", enabledNetworkIds := some (joinIds saved) }
  now := 0
  past := []

def back : Android Unit × Device := follow undisturbed comingHome (restorePreviousNetwork 61 kitkat) away

theorem back_reached : Reaches undisturbed (restorePreviousNetwork 61 kitkat) away back.1 back.2 :=
  reaches_follow _ _ comingHome_possible _ _

theorem back_switched : (∃ later before r, back.2.past = later ++ ⟨.enableNetwork 3 true, r⟩ :: before ∧
    ¬ Switched later ∧ ¬ Switched before ∧ ListedAs before "home" 3) ∧ Forgotten back.2 :=
  have spec := switched_back_once rfl rfl back_reached
  ⟨⟨[_, _, _, _, _], _, _, rfl, spec.1 [_, _, _, _, _] _ 3 _ rfl⟩, spec.2.2 rfl⟩

theorem back_reenabled : ∃ later before r, back.2.past = later ++ ⟨.removeEnabledNetworkIds, r⟩ :: before ∧
    AsRemembered saved before .removeEnabledNetworkIds :=
  ⟨[_, _, _, _, _, _, _, _, _], _, _, rfl,
    reenabled_as_remembered rfl rfl rfl back_reached (show _ = [_, _, _, _, _, _, _, _, _] ++ _ :: _ from rfl)⟩

end Sample

end Gnirehtet.App.ConnectivityFallback
