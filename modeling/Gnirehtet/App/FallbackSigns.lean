import Gnirehtet.App.FallbackCalls

/-!
# What a transport is taken for

The chain of the fallbacks says that there is a transport only after the platform gave a sign of one.
-/

namespace Gnirehtet.App.ConnectivityFallback
open Lib

/-- What a program that answers yes has seen. -/
abbrev Shows (sign : List Event → Prop) (p : Android Bool) : Prop :=
  ∀ past, Meets anything free (fun yes past' => yes = true → sign past') p past

section Shows
variable {sign : List Event → Prop} {α : Type}

theorem Shows.no : Shows sign (pure false) := fun _ never => nomatch never

theorem Shows.behind {p : Android α} {f : α → Android Bool} (rest : ∀ a, Shows sign (f a)) : Shows sign (p >>= f) :=
  fun past => (grows p past).bind fun a past' _ => rest a past'

/-- The first program that answers yes is enough. -/
theorem Shows.orElse {p q : Android Bool} (first : Shows sign p) (second : Shows sign q) :
    Shows sign (do if ← p then return true else q) := by
  refine fun past => (first past).bind fun yes past' shown => ?_
  split
  · exact fun _ => shown ‹_›
  · exact second past'

theorem Shows.mono {sign' : List Event → Prop} {p : Android Bool} (shows : Shows sign p) (weaker : ∀ past, sign past → sign' past) :
    Shows sign' p :=
  fun past => (shows past).mono fun _ past' shown yes => weaker past' (shown yes)

end Shows

/-! ### The signs -/

/-- A network that is not the VPN has the internet. -/
def Physical (past : List Event) : Prop :=
  ∃ network, ∃ caps : NetworkCapabilities, (⟨.getNetworkCapabilities network, some caps⟩ : Event) ∈ past ∧ isPhysical caps = true

def Active (sdk : Nat) (past : List Event) : Prop :=
  if lollipop ≤ sdk then Physical past else (⟨.getActiveNetworkInfo, some true⟩ : Event) ∈ past

/-- The device is on the network, which is used where the platform can tell. -/
def Arrived (sdk : Nat) (targetSsid : Option String) (past : List Event) : Prop :=
  (lollipop ≤ sdk ∨ targetSsid = none → Active sdk past) ∧ ∀ ssid, targetSsid = some ssid → Reported past ssid

/-- The group of this device was created, and a sign of its interface was seen. -/
def Grouped (past : List Event) : Prop :=
  (⟨.createGroup, ()⟩ : Event) ∈ past ∧ (⟨.succeeded, true⟩ : Event) ∈ past ∧
    ((⟨.connected, true⟩ : Event) ∈ past ∨
      ∃ ni : NetworkInterface, (⟨.getNetworkInterface "p2p0", .ok (some ni)⟩ : Event) ∈ past ∧ ni.up = true ∧ false ∈ ni.loopback)

/-- A scan found the network, which is open, or secured and configured. -/
def Scanned (past : List Event) (ssid : String) : Prop :=
  ∃ results, (⟨.getScanResults, .ok (some results)⟩ : Event) ∈ past ∧ ∃ result ∈ results, result.ssid = ssid ∧
    (isOpen result = true ∨ ∃ configured, Listed past configured ∧ isSaved (some configured) ssid = true)

/-- What the chain takes for a transport. -/
inductive Sign (sdk : Nat) (preferredSsid : Option String) (past : List Event) : Prop where
  | active (active : Active sdk past)
  | preferred (ssid : String) (same : preferredSsid = some ssid) (reported : Reported past ssid)
  | grouped (grouped : Grouped past)
  | scanned (ssid : String) (old : sdk < lollipop) (scanned : Scanned past ssid) (reported : Reported past ssid)

section Later
variable {sdk : Nat} {preferredSsid : Option String} {past past' : List Event} (later : past <:+ past')
include later

theorem Active.mono (active : Active sdk past) : Active sdk past' := by
  unfold Active at active ⊢
  split at active
  · rename_i modern
    obtain ⟨network, caps, told, physical⟩ := active
    rw [if_pos modern]
    exact ⟨network, caps, later.subset told, physical⟩
  · rename_i old
    rw [if_neg old]
    exact later.subset active

theorem Reported.mono {ssid : String} (reported : Reported past ssid) : Reported past' ssid := by
  obtain ⟨info, told, same⟩ | ⟨network, caps, told, rest⟩ := reported
  · exact .inl ⟨info, later.subset told, same⟩
  · exact .inr ⟨network, caps, later.subset told, rest⟩

theorem Grouped.mono (grouped : Grouped past) : Grouped past' := by
  obtain ⟨created, succeeded, connected | ⟨ni, told, rest⟩⟩ := grouped
  · exact ⟨later.subset created, later.subset succeeded, .inl (later.subset connected)⟩
  · exact ⟨later.subset created, later.subset succeeded, .inr ⟨ni, later.subset told, rest⟩⟩

theorem Scanned.mono {ssid : String} (scanned : Scanned past ssid) : Scanned past' ssid := by
  obtain ⟨results, told, result, member, same, kind⟩ := scanned
  refine ⟨results, later.subset told, result, member, same, ?_⟩
  obtain isOpen | ⟨configured, listed, saved⟩ := kind
  · exact .inl isOpen
  · exact .inr ⟨configured, later.subset listed, saved⟩

end Later

/-! ### Waiting -/

theorem physical_anyPhysical (networks : List Nat) : Shows Physical (anyPhysical networks) := by
  induction networks with
  | nil => exact .no
  | cons network rest ih =>
    refine fun past => .call_bind trivial fun (caps : Option NetworkCapabilities) _ => ?_
    split
    · rename_i found
      cases caps with
      | none => cases found
      | some caps => exact fun _ => ⟨network, caps, List.mem_cons_self, found⟩
    · exact ih _

theorem active_hasActiveTransport (sdk : Nat) : Shows (Active sdk) (hasActiveTransport sdk) := by
  refine .behind fun cm => ?_
  split
  · split
    · rename_i modern
      refine .behind fun networks => ?_
      split
      · exact (physical_anyPhysical _).mono fun past physical => by rwa [Active, if_pos modern]
      · exact .no
    · rename_i old
      refine fun past => .call_bind trivial fun (info : Option Bool) _ => ?_
      intro connected
      rw [Active, if_neg old]
      rw [← of_decide_eq_true connected]
      exact List.mem_cons_self
  · exact .no

theorem reported_ssid (sdk : Nat) (past : List Event) :
    Meets anything free (fun ssid past' => ∀ s, ssid = some s → Reported past' s) (getConnectedSsid sdk) past :=
  (reported_getConnectedSsid sdk past).weaken free (fun _ _ _ => trivial) id

section Turns
variable {sdk : Nat} {targetSsid : Option String} {s : Waiting} {past past' : List Event}

/-- What a loop knows when it has seen the association. -/
def Associated (targetSsid : Option String) (s : Waiting) (past : List Event) : Prop :=
  s.associated = true → ∀ ssid, targetSsid = some ssid → Reported past ssid

def Turned (sdk : Nat) (targetSsid : Option String) (r : Waiting ⊕ Option Bool) (past : List Event) : Prop :=
  r.elim (Associated targetSsid · past) fun result => result = some true → Arrived sdk targetSsid past

theorem Associated.mono (associated : Associated targetSsid s past) (later : past <:+ past') :
    Associated targetSsid s past' :=
  fun yes ssid same => (associated yes ssid same).mono later

theorem turned_goesOn (associated : Associated targetSsid s past) :
    Meets anything free (Turned sdk targetSsid) (goesOn s) past := by
  refine .call_bind trivial fun slept _ => ?_
  split
  · exact associated.mono (List.suffix_cons ..)
  · exact fun never => nomatch never

theorem turned_usable {ssid : String} (reported : Reported past ssid) :
    Meets anything free (Turned sdk (some ssid)) (usable sdk s) past := by
  have here {past' : List Event} (later : past <:+ past') : ∀ ssid', some ssid = some ssid' → Reported past' ssid' := by
    intro ssid' same
    cases same
    exact reported.mono later
  unfold usable
  split
  · rename_i old
    refine fun _ => ⟨fun named => ?_, here (List.suffix_refl _)⟩
    exact named.elim (fun modern => absurd old (Nat.not_lt.mpr modern)) fun never => nomatch never
  · refine (active_hasActiveTransport sdk past).grown.bind fun active past' ⟨shown, later⟩ => ?_
    split
    · exact fun _ => ⟨fun _ => shown ‹_›, here later⟩
    · exact turned_goesOn fun _ => here later

theorem turned_associates {ssid : String} (reported : Reported past ssid) :
    Meets anything free (Turned sdk (some ssid)) (associates sdk s) past :=
  .call_bind trivial fun _ _ => turned_usable (reported.mono (List.suffix_cons ..))

theorem turned_transportTurn (associated : Associated targetSsid s past) :
    Meets anything free (Turned sdk targetSsid) (transportTurn sdk targetSsid s) past := by
  refine .call_bind trivial fun now _ => ?_
  replace associated := associated.mono (List.suffix_cons ⟨.currentTimeMillis, now⟩ past)
  split
  · split
    · rename_i ssid
      refine (reported_ssid sdk _).grown.bind fun current past₁ ⟨reported, later⟩ => ?_
      replace associated := associated.mono later
      split
      · exact turned_usable (associated ‹_› ssid rfl)
      · split
        · exact turned_associates (reported ssid ‹_›)
        · refine .call_bind trivial fun now _ => ?_
          replace associated := associated.mono (List.suffix_cons ⟨.currentTimeMillis, now⟩ past₁)
          split
          · exact (grows _ _).bind fun _ past₂ later => turned_goesOn (s := { s with lastRetry := now }) (associated.mono later)
          · exact turned_goesOn associated
    · refine (active_hasActiveTransport sdk _).grown.bind fun active past₁ ⟨shown, later⟩ => ?_
      split
      · exact fun _ => ⟨fun _ => shown ‹_›, fun _ never => nomatch never⟩
      · exact turned_goesOn (associated.mono later)
  · exact fun never => nomatch never

theorem turned_suggestionTurn {ssid : String} (associated : Associated (some ssid) s past) :
    Meets anything free (Turned sdk (some ssid)) (suggestionTurn sdk ssid s) past := by
  refine .call_bind trivial fun now _ => ?_
  replace associated := associated.mono (List.suffix_cons ⟨.currentTimeMillis, now⟩ past)
  split
  · refine (reported_ssid sdk _).grown.bind fun current past₁ ⟨reported, later⟩ => ?_
    replace associated := associated.mono later
    split
    · exact turned_usable (associated ‹_› ssid rfl)
    · have checks : Meets anything free (fun yes past' => past₁ <:+ past' ∧ (yes = true → current = some ssid))
          (if current = some ssid then isFullyAssociated ssid else pure false) past₁ := by
        split
        · exact (grows _ _).mono fun _ _ later => ⟨later, fun _ => ‹_›⟩
        · exact ⟨List.suffix_refl _, by simp⟩
      refine checks.bind fun yes past₂ ⟨later, same⟩ => ?_
      split
      · exact turned_associates ((reported ssid (same ‹_›)).mono later)
      · refine .call_bind trivial fun now _ => ?_
        replace associated := (associated.mono later).mono (List.suffix_cons ⟨.currentTimeMillis, now⟩ past₂)
        split
        · exact (grows _ _).bind fun _ past₃ later => turned_goesOn (s := { s with lastRetry := now }) (associated.mono later)
        · exact turned_goesOn associated
  · exact fun never => nomatch never

end Turns

/-- A loop ends with yes only where one of its turns saw the sign. -/
theorem arrived_repeated {sdk : Nat} {targetSsid : Option String} {turn : Waiting → Turn}
    (turned : ∀ s past, Associated targetSsid s past → Meets anything free (Turned sdk targetSsid) (turn s) past)
    (n deadline : Nat) (past : List Event) :
    Meets anything free (fun result past' => result = some true → Arrived sdk targetSsid past')
      (.repeated turn n { deadline }) past :=
  Meets.repeated (Associated targetSsid) trivial turned n fun never => nomatch never

theorem arrived_lastCheck (sdk : Nat) (targetSsid : Option String) : Shows (Arrived sdk targetSsid) (lastCheck sdk targetSsid) := by
  unfold lastCheck
  split
  · rename_i ssid
    refine fun past => (reported_ssid sdk past).bind fun current past₁ reported => ?_
    split
    · refine (grows _ _).bind fun associated past₂ later => ?_
      split
      · refine (active_hasActiveTransport sdk _).grown.mono fun active past₃ ⟨shown, later'⟩ yes => ?_
        refine ⟨fun _ => shown yes, fun ssid' same => ?_⟩
        cases same
        exact (reported ssid ‹_›).mono (later.trans later')
      · exact Shows.no past₂
    · exact Shows.no past₁
  · exact (active_hasActiveTransport sdk).mono fun past active => ⟨fun _ => active, fun _ never => nomatch never⟩

theorem arrived_waitForTransport (n sdk timeoutMs : Nat) (targetSsid : Option String) :
    Shows (Arrived sdk targetSsid) (waitForTransport n sdk timeoutMs targetSsid) := by
  refine .behind fun now past => ?_
  refine (arrived_repeated (fun _ _ => turned_transportTurn) n _ past).bind fun result past' arrived => ?_
  split
  · exact fun yes => arrived (congrArg some yes)
  · exact arrived_lastCheck sdk targetSsid past'

theorem arrived_waitForSuggestionTransport (n sdk timeoutMs : Nat) (ssid : String) :
    Shows (Arrived sdk (some ssid)) (waitForSuggestionTransport n sdk timeoutMs ssid) := by
  refine .behind fun now past => ?_
  refine (arrived_repeated (fun _ _ => turned_suggestionTurn) n _ past).bind fun result past' arrived => ?_
  split
  · exact fun yes => arrived (congrArg some yes)
  · refine (reported_ssid sdk past').bind fun current past₁ reported => ?_
    split
    · refine (active_hasActiveTransport sdk _).grown.mono fun active past₂ ⟨shown, later⟩ yes => ?_
      refine ⟨fun _ => shown yes, fun ssid' same => ?_⟩
      cases same
      exact (reported ssid ‹_›).mono later
    · exact Shows.no past₁

/-! ### The fallbacks -/

section Fallbacks
variable {n sdk : Nat} {preferredSsid : Option String}

theorem Arrived.preferred {ssid : String} {past : List Event} (arrived : Arrived sdk (some ssid) past) :
    Sign sdk (some ssid) past :=
  .preferred ssid rfl (arrived.2 ssid rfl)

theorem sign_tryConnectToPreferredSsid (ssid : String) : Shows (Sign sdk (some ssid)) (tryConnectToPreferredSsid n sdk ssid) := by
  have suggests : Shows (Sign sdk (some ssid)) (tryConnectViaSuggestion n sdk ssid) := by
    refine .behind fun _ => .behind fun added => ?_
    split
    · exact Shows.mono (arrived_waitForSuggestionTransport n sdk _ ssid) fun _ => Arrived.preferred
    · exact .no
  refine .behind fun wifiManager => ?_
  split
  · refine .behind fun enabled => ?_
    split
    · split
      · exact suggests
      · refine .behind fun connected => ?_
        split
        · exact Shows.mono (arrived_waitForTransport n sdk _ _) fun _ => Arrived.preferred
        · exact .no
    · exact .no
  · exact .no

def P2pInterface (past : List Event) : Prop :=
  ∃ ni : NetworkInterface, (⟨.getNetworkInterface "p2p0", .ok (some ni)⟩ : Event) ∈ past ∧ ni.up = true ∧ false ∈ ni.loopback

theorem p2p_hasP2pInterface : Shows P2pInterface hasP2pInterface := by
  refine fun past => .call_bind trivial fun r _ => ?_
  split
  · rename_i ni _
    intro yes
    obtain ⟨up, loopback⟩ := Bool.and_eq_true_iff.mp yes
    obtain ⟨address, member, other⟩ := List.any_eq_true.mp loopback
    cases address with
    | false => exact ⟨ni, List.mem_cons_self, up, member⟩
    | true => cases other
  · exact fun never => nomatch never
  · exact fun never => nomatch never

/-- One of the two signals ends the wait. -/
theorem grouped_waitForGroup {past : List Event} (created : (⟨.createGroup, ()⟩ : Event) ∈ past)
    (success : (⟨.succeeded, true⟩ : Event) ∈ past) :
    Meets anything free (fun yes past' => yes = true → Grouped past') (waitForGroup n) past := by
  refine .call_bind trivial fun now _ => ?_
  refine Meets.repeated (fun _ past' => past <:+ past') trivial (fun deadline past' later => ?_) n (List.suffix_cons ..)
  refine .call_bind trivial fun now _ => ?_
  replace later := later.trans (List.suffix_cons ⟨.currentTimeMillis, now⟩ past')
  split
  · refine .call_bind trivial fun (told : Bool) _ => ?_
    replace later := later.trans (List.suffix_cons ⟨.connected, told⟩ _)
    split
    · rename_i yes
      refine fun _ => ⟨later.subset created, later.subset success, .inl ?_⟩
      rw [← yes]
      exact List.mem_cons_self
    · refine (p2p_hasP2pInterface _).grown.bind fun p2p past₁ ⟨shown, later'⟩ => ?_
      replace later := later.trans later'
      split
      · exact fun _ => ⟨later.subset created, later.subset success, .inr (shown ‹_›)⟩
      · refine .call_bind trivial fun slept _ => ?_
        split
        · exact later.trans (List.suffix_cons ..)
        · exact fun never => nomatch never
  · exact .call_bind trivial fun _ _ => (grows _ _).bind fun _ _ _ never => nomatch never

theorem sign_tryWifiP2pGroup : Shows (Sign sdk preferredSsid) (tryWifiP2pGroup n) := by
  have creates : Shows Grouped (createP2pGroup n) := by
    refine .behind fun channel => ?_
    split
    · refine fun past => .call_bind trivial fun _ _ => .call_bind trivial fun waited _ => ?_
      split
      · refine .call_bind trivial fun (success : Bool) _ => ?_
        split
        · rename_i yes
          subst yes
          exact grouped_waitForGroup (List.mem_cons_of_mem _ (List.mem_cons_of_mem _ List.mem_cons_self)) List.mem_cons_self
        · exact fun never => nomatch never
      · exact fun never => nomatch never
      · exact fun never => nomatch never
    · exact .no
  refine .behind fun feature => ?_
  split
  · refine .behind fun manager => ?_
    split
    · refine .behind fun _ past => (creates past).bind fun created past₁ shown => ?_
      exact .call_bind trivial fun _ _ => fun yes => .grouped ((shown yes).mono (List.suffix_cons ..))
    · exact .no
  · exact .no

theorem sign_tryLocalOnlyHotspot : Shows (Sign sdk preferredSsid) (tryLocalOnlyHotspot n sdk) := by
  refine .behind fun wifiManager => ?_
  split
  · refine .behind fun started => ?_
    split
    · refine .behind fun waited => ?_
      split
      · refine .behind fun success => ?_
        split
        · exact Shows.mono (arrived_waitForTransport n sdk _ none) fun _ arrived => .active (arrived.1 (.inr rfl))
        · exact .no
      · exact .no
      · exact .no
    · exact .no
  · exact .no

/-- A network of the scan is one that may be joined, and is used from Lollipop on. -/
theorem sign_tryNetwork {ssid : String} {past : List Event} (scanned : Scanned past ssid) (timeoutMs : Nat) :
    Meets anything free (fun yes past' => yes = true → Sign sdk preferredSsid past') (tryNetwork n sdk timeoutMs ssid) past := by
  refine (grows _ past).bind fun connected past₁ later => ?_
  split
  · refine (arrived_waitForTransport n sdk _ _ past₁).grown.mono fun yes past₂ ⟨arrived, later'⟩ same => ?_
    obtain ⟨active, reported⟩ := arrived same
    by_cases modern : lollipop ≤ sdk
    · exact .active (active (.inl modern))
    · exact .scanned ssid (Nat.lt_of_not_le modern) (scanned.mono (later.trans later')) (reported ssid rfl)
  · exact fun never => nomatch never

theorem sign_tryPreferred {ssid : String} {results : List ScanResult} (scan : List ScanResult)
    (inside : ∀ result ∈ results, result ∈ scan) {past : List Event}
    (told : (⟨.getScanResults, .ok (some scan)⟩ : Event) ∈ past) :
    Meets anything free (fun yes past' => yes = true → Sign sdk preferredSsid past') (tryPreferred n sdk ssid results) past := by
  induction results generalizing past with
  | nil => exact fun never => nomatch never
  | cons result rest ih =>
    have rest' {past' : List Event} (later : past <:+ past') :=
      ih (fun result member => inside result (List.mem_cons_of_mem _ member)) (later.subset told)
    unfold tryPreferred
    split
    · rename_i wanted
      have scanned : Scanned past result.ssid :=
        ⟨scan, told, result, inside result List.mem_cons_self, rfl, .inl wanted.2⟩
      have tries : Meets anything free (fun yes past' => yes = true → Sign sdk preferredSsid past')
          (tryNetwork n sdk preferredSsidAssocTimeoutMs result.ssid) past := sign_tryNetwork scanned _
      refine tries.grown.bind fun connected past₁ seen => ?_
      obtain ⟨sign, later⟩ := seen
      split
      · exact fun _ => sign ‹_›
      · exact rest' later
    · exact rest' (List.suffix_refl _)

/-- The strongest result is one of those that match. -/
theorem pickStrongest_some {results : List ScanResult} {saved : Option (List WifiConfiguration)} {secure : Bool}
    {best : ScanResult} (picked : pickStrongest results saved secure = some best) :
    best ∈ results ∧ (isOpen best = true ∨ isSaved saved best.ssid = true) := by
  have among (l : List ScanResult) (start : Option ScanResult) (best : ScanResult)
      (picked : l.foldl stronger start = some best) : start = some best ∨ best ∈ l := by
    induction l generalizing start with
    | nil => exact .inl picked
    | cons result rest ih =>
      obtain same | member := ih _ picked
      · cases start with
        | none =>
          cases same
          exact .inr List.mem_cons_self
        | some old =>
          rw [stronger] at same
          split at same
          · cases same
            exact .inr List.mem_cons_self
          · exact .inl same
      · exact .inr (List.mem_cons_of_mem _ member)
  obtain never | member := among _ none best picked
  · cases never
  · obtain ⟨inside, kind⟩ := List.mem_filter.mp member
    refine ⟨inside, ?_⟩
    cases secure with
    | true => exact .inr (Bool.and_eq_true_iff.mp kind).2
    | false => exact .inl kind

theorem sign_selectNetwork {results : List ScanResult} {past : List Event}
    (told : (⟨.getScanResults, .ok (some results)⟩ : Event) ∈ past) :
    Meets anything free (fun yes past' => yes = true → Sign sdk preferredSsid past')
      (selectNetwork n sdk preferredSsid results) past := by
  have preferred : Meets anything free (fun yes past' => yes = true → Sign sdk preferredSsid past')
      (tryPreferredSsid n sdk preferredSsid results) past := by
    cases preferredSsid with
    | none => exact fun never => nomatch never
    | some ssid => exact sign_tryPreferred results (fun _ member => member) told
  have picks {saved : Option (List WifiConfiguration)} {past₁ : List Event} (later : past <:+ past₁)
      (listed : ∀ configured, saved = some configured → Listed past₁ configured) (secure : Bool) :
      Meets anything free (fun yes past' => yes = true → Sign sdk preferredSsid past')
        (tryStrongest n sdk (pickStrongest results saved secure)) past₁ := by
    cases best : pickStrongest results saved secure with
    | none => exact fun never => nomatch never
    | some result =>
      obtain ⟨member, kind⟩ := pickStrongest_some best
      refine sign_tryNetwork ⟨results, later.subset told, result, member, rfl, ?_⟩ _
      obtain isOpen | secured := kind
      · exact .inl isOpen
      · cases saved with
        | none => cases secured
        | some configured => exact .inr ⟨configured, listed configured rfl, secured⟩
  refine preferred.grown.bind fun connected past₁ seen => ?_
  obtain ⟨sign, later⟩ := seen
  split
  · exact fun _ => sign ‹_›
  · have lists := (justListed_configuredNetworks past₁).weaken free (fun _ _ _ => trivial) id
    refine lists.grown.bind fun saved past₂ seen => ?_
    obtain ⟨listed, later₁⟩ := seen
    replace later := later.trans later₁
    replace listed (configured : List WifiConfiguration) (same : saved = some configured) := (listed configured same).listed
    refine (picks later listed true).grown.bind fun connected past₃ seen => ?_
    obtain ⟨sign, later₂⟩ := seen
    split
    · exact fun _ => sign ‹_›
    · exact picks (later.trans later₂) (fun configured same => later₂.subset (listed configured same)) false

theorem sign_tryGenericNetworkSelection : Shows (Sign sdk preferredSsid) (tryGenericNetworkSelection n sdk preferredSsid) := by
  refine .behind fun wifiManager => ?_
  split
  · refine .behind fun enabled => ?_
    split
    · refine fun past => .call_bind trivial fun found _ => ?_
      split
      · split
        · exact fun never => nomatch never
        · exact sign_selectNetwork List.mem_cons_self
      · exact fun never => nomatch never
      · exact fun never => nomatch never
    · exact .no
  · exact .no

theorem sign_ensureAnyTransport : Shows (Sign sdk preferredSsid) (ensureAnyTransport n sdk preferredSsid) := by
  have hotspot : Shows (Sign sdk preferredSsid) (if o ≤ sdk then tryLocalOnlyHotspot n sdk else pure false) := by
    split
    · exact sign_tryLocalOnlyHotspot
    · exact .no
  refine .orElse ((active_hasActiveTransport sdk).mono fun _ => .active) ?_
  exact .orElse sign_tryWifiP2pGroup (.orElse hotspot sign_tryGenericNetworkSelection)

theorem sign_ensureActiveTransport : Shows (Sign sdk preferredSsid) (ensureActiveTransport n sdk preferredSsid) := by
  unfold ensureActiveTransport
  split
  · rename_i ssid
    refine .orElse ?_ (.behind fun _ => .orElse (sign_tryConnectToPreferredSsid ssid) sign_ensureAnyTransport)
    refine fun past => (reported_ssid sdk past).bind fun current past' reported => ?_
    exact fun yes => .preferred ssid rfl (reported ssid (of_decide_eq_true yes))
  · exact sign_ensureAnyTransport

end Fallbacks

/-- When the chain says that there is a transport, the platform has said so to this session. -/
theorem transport_on_sign {n sdk : Nat} {preferredSsid : Option String} {past : List Event}
    (reaches : Reaches anything (ensureActiveTransport n sdk preferredSsid) [] (pure true) past) :
    Sign sdk preferredSsid past :=
  reaches.result (sign_ensureActiveTransport []) rfl

namespace Sample

/-- A device that forms a group. -/
def grouping (_ : List Event) : (c : Call) → Option (Answer c)
  | .currentTimeMillis => some (show Nat from 0)
  | .getSystemService _ => some true
  | .getActiveNetworkInfo => some none
  | .hasWifiDirect => some true
  | .registerReceiver | .unregisterReceiver | .createGroup => some ()
  | .initializeChannel => some true
  | .await _ => some (.ok true)
  | .succeeded => some true
  | .connected => some true
  | _ => none

theorem group_on_sign : ∃ past, Reaches anything (ensureActiveTransport 1 20 none) [] (pure true) past ∧ Sign 20 none past :=
  have reaches := reaches_follow anything grouping (fun _ _ _ _ => trivial) (ensureActiveTransport 1 20 none) []
  ⟨_, reaches, transport_on_sign reaches⟩

end Sample

end Gnirehtet.App.ConnectivityFallback
