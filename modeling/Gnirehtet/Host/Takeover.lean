import Gnirehtet.Host.DummyWifi

/-!
# What the relay does to the networks of the host

Every command that is run is judged by what was answered before it. A profile is the relay's own when its name says
so, and an interface may be used when it is free, or was asked for, or the user agreed.
-/

namespace Gnirehtet.Host
open Lib

abbrev Event := Sigma Answer

/-- A run of `nmcli` printed this. -/
def Printed (past : List Event) (args : List String) (stdout : String) : Prop :=
  ∃ output, (⟨.nmcliOutput args, output⟩ : Event) ∈ past ∧ stdoutOf output = some stdout

/-- A run of `nmcli` was made, with success. -/
def Done (past : List Event) (args : List String) : Prop := ∃ stdout, Printed past args stdout

def Own (conName : String) : Prop := startsWith conName profilePrefix = true

/-- The user typed yes when this was asked. -/
def AnsweredYes (past : List Event) (question : String) : Prop :=
  ∃ later before line, past = later ++ ⟨.readLine, some line⟩ :: ⟨.eprint (question ++ " [y/N] "), ()⟩ :: before ∧
    (toAsciiLowercase (trim line) = "y" ∨ toAsciiLowercase (trim line) = "yes")

/-- The first question had no answer that lists an interface. -/
def Unlisted (past : List Event) : Prop :=
  ∃ output, (⟨.nmcliOutput deviceStatus, output⟩ : Event) ∈ past ∧
    ∀ stdout, stdoutOf output = some stdout → parseInterfaces stdout = []

/-- The interface was listed like this. -/
def Listed (past : List Event) (i : WifiInterface) : Prop :=
  ∃ stdout, Printed past deviceStatus stdout ∧ i ∈ parseInterfaces stdout

/-- Why an interface may be used. -/
inductive Authorised (requestedInterface : Option String) (force : Bool) (past : List Event) : String → Prop where
  | requested (interface : String) (same : requestedInterface = some interface) :
    Authorised requestedInterface force past interface
  | detected (interface stdout : String) (unlisted : Unlisted past) (told : Printed past deviceTypes stdout)
    (first : parseDetected stdout = some interface) : Authorised requestedInterface force past interface
  | free (i : WifiInterface) (listed : Listed past i) (isFree : isFree i = true) :
    Authorised requestedInterface force past i.name
  | forced (i : WifiInterface) (listed : Listed past i) (yes : force = true) :
    Authorised requestedInterface force past i.name
  | confirmed (i : WifiInterface) (listed : Listed past i) (terminal : (⟨.isTerminal, true⟩ : Event) ∈ past)
    (yes : AnsweredYes past (takeOverQuestion i)) : Authorised requestedInterface force past i.name

/-- A profile that is left over was on the device. -/
def StaleOn (past : List Event) (device : String) : Prop :=
  ∃ stdout, Printed past connectionShow stdout ∧ ∃ conName, Own conName ∧ (conName, device) ∈ parseProfiles stdout

/-- It was asked to delete the profile. -/
def Deleted (past : List Event) (conName : String) : Prop :=
  ∃ output, (⟨.nmcliOutput ["connection", "delete", conName], output⟩ : Event) ∈ past

/-- Every profile that was left over was deleted. -/
def Cleaned (past : List Event) : Prop :=
  ∃ output, (⟨.nmcliOutput connectionShow, output⟩ : Event) ∈ past ∧ ∀ stdout, stdoutOf output = some stdout →
    ∀ profile ∈ parseProfiles stdout, Own profile.1 → Deleted past profile.1

/-- The commands that bring up nothing, and where they are run. -/
inductive Careful (requestedInterface : Option String) (force : Bool) (past : List Event) : List String → Prop where
  | status : Careful requestedInterface force past deviceStatus
  | types : Careful requestedInterface force past deviceTypes
  | profiles : Careful requestedInterface force past connectionShow
  | rescan (interface : String) : Careful requestedInterface force past (rescan interface)
  | list (fields interface : String) : Careful requestedInterface force past (wifiList fields interface)
  | disconnect (device : String) (stale : StaleOn past device) :
    Careful requestedInterface force past ["device", "disconnect", device]
  | delete (conName : String) (own : Own conName) : Careful requestedInterface force past ["connection", "delete", conName]
  | down (conName : String) (own : Own conName) : Careful requestedInterface force past ["connection", "down", conName]
  | add (interface conName ssid : String) (own : Own conName) (cleaned : Cleaned past)
    (authorised : Authorised requestedInterface force past interface) :
    Careful requestedInterface force past (Hotspot.add interface conName ssid)
  | modify (conName : String) (properties : List String) (own : Own conName) :
    Careful requestedInterface force past ("connection" :: "modify" :: conName :: properties)

def quiet (requestedInterface : Option String) (force : Bool) : Terms Call (List Event) where
  allowed past
    | .nmcliOutput args => Careful requestedInterface force past args
    | _ => True
  cut := False

def up (conName : String) : List String := ["connection", "up", conName]

/-- One command more: a profile that was added is brought up. -/
def careful (requestedInterface : Option String) (force : Bool) : Terms Call (List Event) where
  allowed past
    | .nmcliOutput args => Careful requestedInterface force past args ∨
      ∃ interface conName ssid, args = up conName ∧ Own conName ∧ Done past (Hotspot.add interface conName ssid)
    | _ => True
  cut := False

/-! ### What grows with the history -/

section Later
variable {requestedInterface : Option String} {force : Bool} {past past' : List Event} (grown : past <:+ past')
include grown

theorem Printed.later {args : List String} {stdout : String} (printed : Printed past args stdout) : Printed past' args stdout := by
  obtain ⟨output, told, same⟩ := printed
  exact ⟨output, grown.subset told, same⟩

theorem Listed.later {i : WifiInterface} (listed : Listed past i) : Listed past' i := by
  obtain ⟨stdout, told, inside⟩ := listed
  exact ⟨stdout, told.later grown, inside⟩

theorem AnsweredYes.later {question : String} (yes : AnsweredYes past question) : AnsweredYes past' question := by
  obtain ⟨front, rfl⟩ := grown
  obtain ⟨later, before, line, rfl, typed⟩ := yes
  exact ⟨front ++ later, before, line, (List.append_assoc ..).symm, typed⟩

theorem Authorised.later {interface : String} (authorised : Authorised requestedInterface force past interface) :
    Authorised requestedInterface force past' interface := by
  cases authorised with
  | requested _ same => exact .requested interface same
  | detected _ stdout unlisted told first =>
    obtain ⟨output, asked, nothing⟩ := unlisted
    exact .detected interface stdout ⟨output, grown.subset asked, nothing⟩ (told.later grown) first
  | free i listed isFree => exact .free i (listed.later grown) isFree
  | forced i listed yes => exact .forced i (listed.later grown) yes
  | confirmed i listed terminal yes => exact .confirmed i (listed.later grown) (grown.subset terminal) (yes.later grown)

theorem Deleted.later {conName : String} (deleted : Deleted past conName) : Deleted past' conName := by
  obtain ⟨output, asked⟩ := deleted
  exact ⟨output, grown.subset asked⟩

theorem Cleaned.later (cleaned : Cleaned past) : Cleaned past' := by
  obtain ⟨output, told, deleted⟩ := cleaned
  exact ⟨output, grown.subset told, fun stdout same profile member own => (deleted stdout same profile member own).later grown⟩

end Later

/-! ### The commands -/

section Commands
variable {requestedInterface : Option String} {force : Bool} {past : List Event} {α β : Type}

/-- What a run of `nmcli` leaves to be said. -/
theorem asks_nmcli {args : List String} (careful : Careful requestedInterface force past args) :
    Meets history (quiet requestedInterface force)
      (fun result past' => (∃ output, (⟨.nmcliOutput args, output⟩ : Event) ∈ past') ∧ ∀ a, result = .ok a → Done past' args)
      (nmcli args) past := by
  refine .call_bind careful fun output _ => ?_
  split
  · exact ⟨⟨_, List.mem_cons_self⟩, fun _ never => nomatch never⟩
  · rename_i output _
    split
    · rename_i success
      exact ⟨⟨_, List.mem_cons_self⟩, fun _ _ => ⟨output.stdout, some output, List.mem_cons_self, if_pos success⟩⟩
    · exact ⟨⟨_, List.mem_cons_self⟩, fun _ never => nomatch never⟩

theorem meets_tried {terms : Terms Call (List Event)} {post : Except Error β → List Event → Prop} {result : Except Error α}
    {rest : α → Command (Except Error β)} (ok : ∀ a, result = .ok a → Meets history terms post (rest a) past)
    (error : ∀ e, result = .error e → post (.error e) past) : Meets history terms post (tried result rest) past := by
  cases result with
  | ok a => exact ok a rfl
  | error e => exact error e rfl

/-- Something that was printed, or not. -/
theorem asks_stdout {args : List String} (careful : Careful requestedInterface force past args) {f : Option Output → Command β}
    {post : β → List Event → Prop}
    (rest : ∀ output, Meets history (quiet requestedInterface force) post (f output) (⟨.nmcliOutput args, output⟩ :: past)) :
    Meets history (quiet requestedInterface force) post (nmcliOutput args >>= f) past :=
  .call_bind careful fun output _ => rest output

theorem listed_listWifiInterfaces :
    Meets history (quiet requestedInterface force)
      (fun interfaces past' => (interfaces = [] → Unlisted past') ∧ ∀ i ∈ interfaces, Listed past' i)
      listWifiInterfaces past := by
  refine asks_stdout .status fun output => ?_
  split
  · rename_i stdout same
    refine ⟨fun none => ⟨output, List.mem_cons_self, fun stdout' same' => ?_⟩, fun i inside => ?_⟩
    · rw [same, Option.some.injEq] at same'
      exact same' ▸ none
    · exact ⟨stdout, ⟨output, List.mem_cons_self, same⟩, inside⟩
  · rename_i none
    refine ⟨fun _ => ⟨output, List.mem_cons_self, fun stdout' same' => ?_⟩, by simp⟩
    rw [none] at same'
    cases same'

theorem selectInterfaceForHotspot_some {interfaces : List WifiInterface} {iface : WifiInterface} {destructive : Bool}
    (selected : selectInterfaceForHotspot interfaces = some (iface, destructive)) :
    iface ∈ interfaces ∧ (destructive = false → isFree iface = true) := by
  unfold selectInterfaceForHotspot at selected
  split at selected
  · rename_i found
    cases selected
    exact ⟨List.mem_of_find?_eq_some found, fun _ => List.find?_some found⟩
  · obtain ⟨first, head, same⟩ := Option.map_eq_some_iff.mp selected
    cases same
    exact ⟨List.mem_of_mem_head? head, fun never => nomatch never⟩

theorem selectInterfaceForHotspot_none {interfaces : List WifiInterface}
    (selected : selectInterfaceForHotspot interfaces = none) : interfaces = [] := by
  unfold selectInterfaceForHotspot at selected
  split at selected
  · cases selected
  · simpa using selected

theorem detected_detectWifiInterface :
    Meets history (quiet requestedInterface force)
      (fun found past' => ∀ interface, found = some interface →
        ∃ stdout, Printed past' deviceTypes stdout ∧ parseDetected stdout = some interface)
      detectWifiInterface past := by
  refine asks_stdout .types fun output => ?_
  split
  · rename_i stdout same
    exact fun interface first => ⟨stdout, ⟨output, List.mem_cons_self, same⟩, first⟩
  · simp

theorem grown_disconnect {device : String} (stale : StaleOn past device) :
    Meets history (quiet requestedInterface force) (fun _ past' => past <:+ past') (disconnect device) past := by
  unfold disconnect
  split
  · exact .call_bind (.disconnect device stale) fun output _ => List.suffix_cons ..
  · exact List.suffix_refl _

theorem deleted_removeProfiles {stdout : String} (told : Printed past connectionShow stdout) (left : List (String × String))
    (inside : ∀ profile ∈ left, profile ∈ parseProfiles stdout) :
    Meets history (quiet requestedInterface force)
      (fun _ past' => ∀ profile ∈ left, Own profile.1 → Deleted past' profile.1) (removeProfiles left) past := by
  induction left generalizing past with
  | nil => exact fun _ never => nomatch never
  | cons profile rest ih =>
    obtain ⟨conName, device⟩ := profile
    have others {past' : List Event} (grown : past <:+ past') :=
      ih (told.later grown) fun profile member => inside profile (List.mem_cons_of_mem _ member)
    unfold removeProfiles
    split
    · rename_i own
      have stale : StaleOn past device := ⟨stdout, told, conName, own, inside _ List.mem_cons_self⟩
      refine (grown_disconnect stale).bind fun _ past₁ grown => ?_
      refine .call_bind (.delete _ own) fun output _ => ?_
      refine (others (grown.trans (List.suffix_cons ..))).grown.mono fun _ past₂ kept => ?_
      intro profile member own'
      obtain rfl | member := List.mem_cons.mp member
      · exact ⟨output, kept.2.subset List.mem_cons_self⟩
      · exact kept.1 profile member own'
    · rename_i foreign
      refine (others (List.suffix_refl _)).mono fun _ past₁ deleted => ?_
      intro profile member own'
      obtain rfl | member := List.mem_cons.mp member
      · exact absurd own' foreign
      · exact deleted profile member own'

theorem cleaned_cleanupStaleProfiles :
    Meets history (quiet requestedInterface force) (fun _ past' => Cleaned past') cleanupStaleProfiles past := by
  refine asks_stdout .profiles fun output => ?_
  split
  · rename_i stdout same
    have told : Printed (⟨.nmcliOutput connectionShow, output⟩ :: past) connectionShow stdout := ⟨output, List.mem_cons_self, same⟩
    refine (deleted_removeProfiles told _ fun _ member => member).grown.mono fun _ past' kept => ?_
    refine ⟨output, kept.2.subset List.mem_cons_self, fun stdout' same' => ?_⟩
    rw [same, Option.some.injEq] at same'
    exact same' ▸ kept.1
  · rename_i none
    refine ⟨output, List.mem_cons_self, fun stdout' same' => ?_⟩
    rw [none] at same'
    cases same'

/-! ### The name -/

def Generated (ssid : String) : Prop := ∃ n : UInt32, ssid = ssidPrefix ++ suffix n

/-- The name was made, and a scan of the interface did not find it. -/
def Fresh (past : List Event) (interface ssid : String) : Prop :=
  Generated ssid ∧ ∃ output, (⟨.nmcliOutput (wifiList "SSID" interface), output⟩ : Event) ∈ past ∧
    ∀ stdout, stdoutOf output = some stdout → ssid ∉ parseNearby stdout

theorem generated_randomSsid (existing : List String) (attempts : Nat) :
    Meets history (quiet requestedInterface force)
      (fun result _ => ∀ ssid, result = .ok ssid → Generated ssid ∧ ssid ∉ existing) (randomSsid existing attempts) past := by
  induction attempts generalizing past with
  | zero => exact fun _ never => nomatch never
  | succ attempts ih =>
    refine .call_bind trivial fun n _ => ?_
    split
    · exact ih
    · rename_i other
      intro ssid same
      cases same
      exact ⟨⟨n, rfl⟩, other⟩

theorem quiet_getHostname :
    Meets history (quiet requestedInterface force) (fun _ _ => True) getHostname past := by
  refine .call_bind trivial fun file _ => ?_
  split
  · trivial
  · refine .call_bind trivial fun var _ => ?_
    split <;> trivial

theorem fresh_generateUniqueSsid (interface : String) :
    Meets history (quiet requestedInterface force) (fun result past' => ∀ ssid, result = .ok ssid → Fresh past' interface ssid)
      (generateUniqueSsid interface) past := by
  have scans : Meets history (quiet requestedInterface force)
      (fun existing past' => ∃ output, (⟨.nmcliOutput (wifiList "SSID" interface), output⟩ : Event) ∈ past' ∧
        ∀ stdout, stdoutOf output = some stdout → existing = parseNearby stdout)
      (scanNearbyGnirehtetSsids interface) past := by
    refine .call_bind (.rescan interface) fun _ _ => .call_bind trivial fun _ _ => asks_stdout (.list _ _) fun output => ?_
    split
    · rename_i stdout same
      refine ⟨output, List.mem_cons_self, fun stdout' same' => ?_⟩
      rw [same, Option.some.injEq] at same'
      rw [same']
    · rename_i none
      refine ⟨output, List.mem_cons_self, fun stdout' same' => ?_⟩
      rw [none] at same'
      cases same'
  refine scans.bind fun existing past₁ scanned => ?_
  obtain ⟨output, asked, found⟩ := scanned
  have free {past₂ : List Event} {ssid : String} (grown : past₁ <:+ past₂) (generated : Generated ssid) (other : ssid ∉ existing) :
      Fresh past₂ interface ssid :=
    ⟨generated, output, grown.subset asked, fun stdout same => found stdout same ▸ other⟩
  refine quiet_getHostname.grown.bind fun hostname past₂ kept => ?_
  split
  · refine (generated_randomSsid existing 8).grown.mono fun result past₃ made ssid same => ?_
    obtain ⟨generated, other⟩ := made.1 ssid same
    exact free (kept.2.trans made.2) generated other
  · rename_i other
    intro ssid same
    cases same
    exact free kept.2 ⟨_, rfl⟩ other

/-! ### The prompts -/

theorem yes_promptDefaultNo (question : String) :
    Meets history (quiet requestedInterface force) (fun yes past' => yes = true → AnsweredYes past' question)
      (promptDefaultNo question) past := by
  refine .call_bind trivial fun _ _ => .call_bind trivial fun (line : Option String) _ => ?_
  cases line with
  | none => exact fun never => nomatch never
  | some line => exact fun yes => ⟨[], past, line, rfl, by simpa using yes⟩

theorem quiet_promptDefaultYes (question : String) :
    Meets history (quiet requestedInterface force) (fun _ _ => True) (promptDefaultYes question) past := by
  refine .call_bind trivial fun _ _ => .call_bind trivial fun (line : Option String) _ => ?_
  cases line <;> trivial

theorem quiet_eprintLines (left : List String) :
    Meets history (quiet requestedInterface force) (fun _ _ => True) (eprintLines left) past := by
  induction left generalizing past with
  | nil => trivial
  | cons line rest ih => exact .call_bind trivial fun _ _ => ih

/-- Only what was offered is chosen. -/
theorem offered_chooseAp (aps : List OpenAp) :
    Meets history (quiet requestedInterface force) (fun chosen _ => ∀ ssid, chosen = some ssid → ∃ ap ∈ aps, ap.ssid = ssid)
      (chooseAp aps) past := by
  refine .call_bind trivial fun _ _ => .call_bind trivial fun (line : Option String) _ => ?_
  cases line with
  | none => exact fun _ never => nomatch never
  | some line =>
    dsimp only
    split
    · exact fun _ never => nomatch never
    · intro ssid chosen
      obtain ⟨ap, found, same⟩ := Option.map_eq_some_iff.mp chosen
      exact ⟨ap, List.mem_of_getElem? found, same⟩

theorem offered_offerOpenAp (aps : List OpenAp) :
    Meets history (quiet requestedInterface force) (fun chosen _ => ∀ ssid, chosen = some ssid → ∃ ap ∈ aps, ap.ssid = ssid)
      (offerOpenAp aps) past := by
  cases aps with
  | nil => exact fun _ never => nomatch never
  | cons first rest =>
    have taken (ssid : String) (same : some first.ssid = some ssid) : ∃ ap ∈ first :: rest, ap.ssid = ssid :=
      ⟨first, List.mem_cons_self, Option.some.inj same⟩
    refine .call_bind trivial fun terminal _ => ?_
    split
    · refine (quiet_eprintLines _).bind fun _ _ _ => ?_
      split
      · refine (quiet_promptDefaultYes _).bind fun yes _ _ => ?_
        split
        · exact taken
        · exact fun _ never => nomatch never
      · exact offered_chooseAp _
    · exact taken

/-- The network may be used instead of a hotspot. -/
def Reusable (past : List Event) (ssid : String) : Prop :=
  ∃ i, Listed past i ∧ some ssid ≠ i.currentSsid ∧ startsWith ssid ssidPrefix = false ∧
    ∃ stdout, Printed past (wifiList "SSID,SIGNAL,SECURITY" i.name) stdout ∧ ∃ ap ∈ parseOpenAps stdout, ap.ssid = ssid

theorem Reusable.later {past' : List Event} {ssid : String} (reusable : Reusable past ssid) (grown : past <:+ past') :
    Reusable past' ssid := by
  obtain ⟨i, listed, other, foreign, stdout, told, found⟩ := reusable
  exact ⟨i, listed.later grown, other, foreign, stdout, told.later grown, found⟩

theorem reusable_scanOpenAps {i : WifiInterface} (listed : Listed past i) :
    Meets history (quiet requestedInterface force)
      (fun aps past' => ∀ ap ∈ reusable i aps, Reusable past' ap.ssid) (scanOpenAps i.name) past := by
  refine .call_bind (.rescan i.name) fun _ _ => .call_bind trivial fun _ _ => asks_stdout (.list _ _) fun output => ?_
  split
  · rename_i stdout same
    intro ap member
    obtain ⟨inside, kept⟩ := List.mem_filter.mp member
    obtain ⟨other, foreign⟩ := of_decide_eq_true kept
    refine ⟨i, listed.later ?_, other, Bool.eq_false_iff.mpr foreign, stdout, ⟨output, List.mem_cons_self, same⟩, ap, inside, rfl⟩
    exact (List.suffix_cons ..).trans ((List.suffix_cons ..).trans (List.suffix_cons ..))
  · intro ap member
    cases member

/-! ### What is brought up -/

/-- Nothing was brought up. -/
def NoUp (past : List Event) : Prop := ∀ conName, ¬ Done past (up conName)

theorem noUp_nil : NoUp [] := by
  rintro conName ⟨stdout, output, never, -⟩
  cases never

def isUp : List String → Bool
  | ["connection", "up", _] => true
  | _ => false

theorem Careful.not_up {args : List String} (careful : Careful requestedInterface force past args) : isUp args = false := by
  cases careful <;> rfl

theorem NoUp.later {c : Call} (noUp : NoUp past) (other : ∀ args, c = .nmcliOutput args → isUp args = false)
    (r : Answer c) : NoUp (⟨c, r⟩ :: past) := by
  rintro conName ⟨stdout, output, told, same⟩
  obtain now | before := List.mem_cons.mp told
  · obtain ⟨rfl, -⟩ := Sigma.mk.inj now
    exact absurd (other _ rfl) (by simp [up, isUp])
  · exact noUp conName ⟨stdout, output, before, same⟩

/-- The commands that bring up nothing, among the others. -/
theorem quietly {post : α → List Event → Prop} {p : Command α}
    (meets : Meets history (quiet requestedInterface force) post p past) :
    Meets history (careful requestedInterface force)
      (fun a past' => (post a past' ∧ past <:+ past') ∧ (NoUp past → NoUp past')) p past := by
  have step (past' : List Event) (c : Call) (r : Answer c) (allowed : (quiet requestedInterface force).allowed past' c)
      (_ : history.answers past' c r) (before : NoUp past → NoUp past') (noUp : NoUp past) : NoUp (⟨c, r⟩ :: past') := by
    refine (before noUp).later (fun args same => ?_) r
    subst same
    exact Careful.not_up allowed
  have kept := meets.grown.kept (fun past' => NoUp past → NoUp past') step id
  refine kept.weaken (careful requestedInterface force) (fun past' c allowed => ?_) id
  cases c with
  | nmcliOutput args => exact .inl allowed
  | _ => trivial

theorem asks_up {interface conName ssid : String} (own : Own conName) (added : Done past (Hotspot.add interface conName ssid)) :
    Meets history (careful requestedInterface force)
      (fun result past' => (∀ a, result = .ok a → Done past' (up conName)) ∧ past <:+ past' ∧
        ∀ e, result = .error e → NoUp past → NoUp past') (nmcli (up conName)) past := by
  refine .call_bind (.inr ⟨interface, conName, ssid, rfl, own, added⟩) fun output _ => ?_
  have grown : past <:+ ⟨.nmcliOutput (up conName), output⟩ :: past := List.suffix_cons ..
  have failed (none : stdoutOf output = none) (noUp : NoUp past) : NoUp (⟨.nmcliOutput (up conName), output⟩ :: past) := by
    rintro conName' ⟨stdout, output', told, same⟩
    obtain now | before := List.mem_cons.mp told
    · cases now
      rw [none] at same
      cases same
    · exact noUp conName' ⟨stdout, output', before, same⟩
  split
  · exact ⟨fun _ never => (nomatch never), grown, fun _ _ => failed rfl⟩
  · rename_i output _
    split
    · rename_i success
      exact ⟨fun _ _ => ⟨output.stdout, some output, List.mem_cons_self, if_pos success⟩, grown, fun _ never => nomatch never⟩
    · rename_i failure
      exact ⟨fun _ never => (nomatch never), grown, fun _ _ => failed (if_neg failure)⟩

theorem quiet_modify {conName : String} (own : Own conName) (properties : List (List String)) :
    Meets history (quiet requestedInterface force) (fun _ _ => True) (Hotspot.modify conName properties) past := by
  induction properties generalizing past with
  | nil => trivial
  | cons first rest ih =>
    exact (asks_nmcli (.modify conName first own)).bind fun _ _ _ => meets_tried (fun _ _ => ih) fun _ _ => trivial

/-- The hotspot is there, under the name that was asked for or one that was free. -/
structure Running (pid : Nat) (requestedSsid : Option String) (past : List Event) (h : Hotspot) : Prop where
  conName : h.conName = profilePrefix ++ toString pid
  added : ∃ interface, Done past (Hotspot.add interface h.conName h.ssid) ∧
    (requestedSsid = some h.ssid ∨ requestedSsid = none ∧ Fresh past interface h.ssid)
  up : Done past (up h.conName)

/-- What is left of an attempt. -/
structure Started (pid : Nat) (requestedSsid : Option String) (past : List Event) (result : Except Error Hotspot)
    (past' : List Event) : Prop where
  ok : ∀ h, result = .ok h → Running pid requestedSsid past' h
  error : ∀ e, result = .error e → NoUp past → NoUp past'

theorem Done.later {past' : List Event} {args : List String} (done : Done past args) (grown : past <:+ past') : Done past' args := by
  obtain ⟨stdout, printed⟩ := done
  exact ⟨stdout, printed.later grown⟩

theorem Fresh.later {past' : List Event} {interface ssid : String} (fresh : Fresh past interface ssid) (grown : past <:+ past') :
    Fresh past' interface ssid := by
  obtain ⟨generated, output, asked, found⟩ := fresh
  exact ⟨generated, output, grown.subset asked, found⟩

theorem Running.later {past' : List Event} {pid : Nat} {requestedSsid : Option String} {h : Hotspot}
    (running : Running pid requestedSsid past h) (grown : past <:+ past') : Running pid requestedSsid past' h where
  conName := running.conName
  added := by
    obtain ⟨interface, added, name⟩ := running.added
    exact ⟨interface, added.later grown, name.imp id fun ⟨unnamed, fresh⟩ => ⟨unnamed, fresh.later grown⟩⟩
  up := running.up.later grown

theorem own_profile (pid : Nat) : Own (profilePrefix ++ toString pid) := by
  rw [Own, startsWith, String.toList_append, List.isPrefixOf_iff_prefix]
  exact List.prefix_append ..

theorem started_create {pid : Nat} {requestedSsid password : Option String} {interface ssid : String} (cleaned : Cleaned past)
    (authorised : Authorised requestedInterface force past interface)
    (name : requestedSsid = some ssid ∨ requestedSsid = none ∧ Fresh past interface ssid) :
    Meets history (careful requestedInterface force) (Started pid requestedSsid past)
      (Hotspot.create interface (profilePrefix ++ toString pid) ssid password) past := by
  have own := own_profile pid
  generalize profile : profilePrefix ++ toString pid = conName at own
  have fails {past' : List Event} (noUp : NoUp past → NoUp past') (e : Error) :
      Started pid requestedSsid past (.error e) past' := ⟨fun _ never => (nomatch never), fun _ _ => noUp⟩
  refine (quietly (asks_nmcli (.add interface conName ssid own cleaned authorised))).bind fun result past₁ seen => ?_
  obtain ⟨⟨⟨-, added⟩, grown₁⟩, noUp₁⟩ := seen
  refine meets_tried (fun a same => ?_) fun e _ => fails noUp₁ e
  replace added := added a same
  refine (quietly (quiet_modify own _)).bind fun result past₂ seen => ?_
  obtain ⟨⟨-, grown₂⟩, noUp₂⟩ := seen
  refine meets_tried (fun a _ => ?_) fun e _ => fails (noUp₂ ∘ noUp₁) e
  replace added := added.later grown₂
  refine (asks_up own added).bind fun result past₃ seen => ?_
  obtain ⟨raised, grown₃, noUp₃⟩ := seen
  refine meets_tried (fun a same => ?_) fun e same => fails (noUp₃ e same ∘ noUp₂ ∘ noUp₁) e
  refine ⟨fun h made => ?_, fun _ never => (nomatch never)⟩
  cases made
  refine ⟨profile.symm, ⟨interface, added.later grown₃, ?_⟩, raised a same⟩
  exact name.imp id fun ⟨unnamed, fresh⟩ => ⟨unnamed, fresh.later ((grown₁.trans grown₂).trans grown₃)⟩

theorem fresh_chooseSsid (config : HotspotConfig) (interface : String) :
    Meets history (quiet requestedInterface force)
      (fun result past' => ∀ ssid, result = .ok ssid → config.ssid = some ssid ∨ config.ssid = none ∧ Fresh past' interface ssid)
      (Hotspot.chooseSsid config interface) past := by
  unfold Hotspot.chooseSsid
  split
  · rename_i named
    rw [named]
    intro ssid same
    cases same
    exact .inl rfl
  · rename_i none
    rw [none]
    exact (fresh_generateUniqueSsid interface).mono fun _ _ fresh ssid same => .inr ⟨rfl, fresh ssid same⟩

theorem started_startOn (pid : Nat) (config : HotspotConfig) {interface : String}
    (authorised : Authorised requestedInterface force past interface) :
    Meets history (careful requestedInterface force) (Started pid config.ssid past)
      (Hotspot.startOn pid config interface) past := by
  have fails {past' : List Event} (noUp : NoUp past → NoUp past') (e : Error) :
      Started pid config.ssid past (.error e) past' := ⟨fun _ never => (nomatch never), fun _ _ => noUp⟩
  refine (quietly cleaned_cleanupStaleProfiles).bind fun _ past₁ seen => ?_
  obtain ⟨⟨cleaned, grown₁⟩, noUp₁⟩ := seen
  refine (quietly (fresh_chooseSsid config interface)).bind fun result past₂ seen => ?_
  obtain ⟨⟨name, grown₂⟩, noUp₂⟩ := seen
  refine meets_tried (fun ssid same => ?_) fun e _ => fails (noUp₂ ∘ noUp₁) e
  refine (quietly (asks_nmcli (.delete _ (own_profile pid)))).bind fun _ past₃ seen => ?_
  obtain ⟨⟨-, grown₃⟩, noUp₃⟩ := seen
  have grown := (grown₁.trans grown₂).trans grown₃
  have name : config.ssid = some ssid ∨ config.ssid = none ∧ Fresh past₃ interface ssid :=
    (name ssid same).imp id fun ⟨unnamed, fresh⟩ => ⟨unnamed, fresh.later grown₃⟩
  refine (started_create (cleaned.later (grown₂.trans grown₃)) (authorised.later grown) name).mono fun _ _ started => ?_
  exact ⟨started.ok, fun e same noUp => started.error e same (noUp₃ (noUp₂ (noUp₁ noUp)))⟩

/-! ### The setup -/

/-- What is said of the outcome. -/
structure Truthful (pid : Nat) (requestedSsid : Option String) (outcome : DummyWifiOutcome) (past : List Event) : Prop where
  hotspot : ∀ h, outcome.hotspot = some h → Running pid requestedSsid past h ∧ outcome.ssidForClient = some h.ssid
  none : outcome.hotspot = none → NoUp past ∧ ∀ ssid, outcome.ssidForClient = some ssid → Reusable past ssid

theorem truthful_createHotspot {interface : Option String} (pid : Nat) (requestedSsid : Option String) (noUp : NoUp past)
    (authorised : ∀ name, interface = some name → Authorised requestedInterface force past name)
    (detected : interface = none → Unlisted past) :
    Meets history (careful requestedInterface force) (Truthful pid requestedSsid)
      (createHotspot pid requestedSsid interface) past := by
  have fails {past' : List Event} (noUp : NoUp past') : Truthful pid requestedSsid {} past' :=
    ⟨fun _ never => (nomatch never), fun _ => ⟨noUp, fun _ never => nomatch never⟩⟩
  have starts : Meets history (careful requestedInterface force) (Started pid requestedSsid past)
      (Hotspot.start pid { ssid := requestedSsid, interface }) past := by
    cases interface with
    | some name => exact started_startOn pid { ssid := requestedSsid, interface := some name } (authorised name rfl)
    | none =>
      refine (quietly detected_detectWifiInterface).bind fun found past₁ seen => ?_
      obtain ⟨⟨found, grown⟩, noUp₁⟩ := seen
      split
      · rename_i name
        obtain ⟨stdout, told, first⟩ := found name rfl
        obtain ⟨output, asked, nothing⟩ := detected rfl
        refine (started_startOn pid { ssid := requestedSsid }
          (.detected name stdout ⟨output, grown.subset asked, nothing⟩ told first)).mono ?_
        exact fun _ _ started => ⟨started.ok, fun e same noUp => started.error e same (noUp₁ noUp)⟩
      · exact ⟨fun _ never => (nomatch never), fun _ _ => noUp₁⟩
  refine starts.bind fun result past₁ started => ?_
  split
  · rename_i h
    refine .call_bind trivial fun _ _ => ⟨fun h' same => ?_, fun never => nomatch never⟩
    cases same
    exact ⟨(started.ok h rfl).later (List.suffix_cons ..), rfl⟩
  · rename_i e
    exact fails (started.error e rfl noUp)

theorem truthful_takeOver {i : WifiInterface} (pid : Nat) (requestedSsid : Option String) (noUp : NoUp past)
    (listed : Listed past i) :
    Meets history (careful requestedInterface force) (Truthful pid requestedSsid) (takeOver pid requestedSsid force i) past := by
  have nothing {past' : List Event} (noUp : NoUp past') : Truthful pid requestedSsid {} past' :=
    ⟨fun _ never => (nomatch never), fun _ => ⟨noUp, fun _ never => nomatch never⟩⟩
  have creates {past' : List Event} (noUp : NoUp past') (authorised : Authorised requestedInterface force past' i.name) :
      Meets history (careful requestedInterface force) (Truthful pid requestedSsid)
        (createHotspot pid requestedSsid (some i.name)) past' := by
    refine truthful_createHotspot pid requestedSsid noUp (fun name same => ?_) fun never => nomatch never
    cases same
    exact authorised
  unfold takeOver
  split
  · exact creates noUp (.forced i listed ‹_›)
  · refine .call_bind trivial fun terminal _ => ?_
    replace noUp : NoUp (⟨.isTerminal, terminal⟩ :: past) := noUp.later (by simp) terminal
    replace listed := listed.later (List.suffix_cons ⟨.isTerminal, terminal⟩ past)
    split
    · rename_i interactive
      refine (quietly (yes_promptDefaultNo _)).bind fun yes past₁ seen => ?_
      obtain ⟨⟨answered, grown⟩, noUp₁⟩ := seen
      have asked : (⟨.isTerminal, true⟩ : Event) ∈ past₁ := grown.subset (interactive ▸ List.mem_cons_self)
      split
      · exact creates (noUp₁ noUp) (.confirmed i (listed.later grown) asked (answered ‹_›))
      · exact nothing (noUp₁ noUp)
    · exact nothing noUp

theorem truthful_reuseOrTakeOver {i : WifiInterface} {aps : List OpenAp} (pid : Nat) (requestedSsid : Option String)
    (noUp : NoUp past) (listed : Listed past i) (usable : ∀ ap ∈ aps, Reusable past ap.ssid) :
    Meets history (careful requestedInterface force) (Truthful pid requestedSsid)
      (reuseOrTakeOver pid requestedSsid force i aps) past := by
  have reuses {past' : List Event} {ssid : String} (noUp : NoUp past') (reusable : Reusable past' ssid) :
      Truthful pid requestedSsid { ssidForClient := some ssid } past' := by
    refine ⟨fun _ never => (nomatch never), fun _ => ⟨noUp, fun ssid' same => ?_⟩⟩
    cases same
    exact reusable
  unfold reuseOrTakeOver
  split
  · rename_i ap found
    obtain ⟨req, -, first⟩ := Option.bind_eq_some_iff.mp found
    exact reuses noUp (usable ap (List.mem_of_find?_eq_some first))
  · refine (quietly (offered_offerOpenAp _)).bind fun chosen past₁ seen => ?_
    obtain ⟨⟨offered, grown⟩, noUp₁⟩ := seen
    split
    · rename_i chosen
      obtain ⟨ap, member, same⟩ := offered chosen rfl
      exact reuses (noUp₁ noUp) (same ▸ (usable ap member).later grown)
    · exact truthful_takeOver pid requestedSsid (noUp₁ noUp) (listed.later grown)

theorem truthful_setupDummyWifi (pid : Nat) (requestedSsid : Option String) (noUp : NoUp past) :
    Meets history (careful requestedInterface force) (Truthful pid requestedSsid)
      (setupDummyWifi pid requestedSsid requestedInterface force) past := by
  unfold setupDummyWifi
  split
  · rename_i name
    refine truthful_createHotspot pid requestedSsid noUp (fun name' same => ?_) fun never => nomatch never
    exact .requested name' same
  · refine (quietly listed_listWifiInterfaces).bind fun interfaces past₁ seen => ?_
    obtain ⟨⟨⟨unlisted, listed⟩, grown₁⟩, noUp₁⟩ := seen
    replace noUp := noUp₁ noUp
    split
    · rename_i none
      exact truthful_createHotspot pid requestedSsid noUp (fun _ never => nomatch never) fun _ =>
        unlisted (selectInterfaceForHotspot_none none)
    · rename_i i selected
      obtain ⟨member, isFree⟩ := selectInterfaceForHotspot_some selected
      refine truthful_createHotspot pid requestedSsid noUp (fun name same => ?_) fun never => nomatch never
      cases same
      exact .free i (listed i member) (isFree rfl)
    · rename_i i selected
      have known := listed i (selectInterfaceForHotspot_some selected).1
      refine (quietly (reusable_scanOpenAps known)).bind fun aps past₂ seen => ?_
      obtain ⟨⟨usable, grown₂⟩, noUp₂⟩ := seen
      exact truthful_reuseOrTakeOver pid requestedSsid (noUp₂ noUp) (known.later grown₂) usable

theorem careful_stop {h : Hotspot} (own : Own h.conName) :
    Meets history (quiet requestedInterface force) (fun _ past' => Deleted past' h.conName) h.stop past := by
  refine (asks_nmcli (.down _ own)).bind fun _ past₁ _ => ?_
  exact (asks_nmcli (.delete _ own)).bind fun _ past₂ asked => asked.1

theorem careful_dummyWifiSession (pid : Nat) (requestedSsid requestedInterface : Option String) (force : Bool) :
    Meets history (careful requestedInterface force) (fun _ _ => True)
      (dummyWifiSession pid requestedSsid requestedInterface force) [] := by
  refine (truthful_setupDummyWifi pid requestedSsid noUp_nil).bind fun outcome past truthful => ?_
  split
  · rename_i h active
    have own : Own h.conName := by
      rw [(truthful.hotspot h active).1.conName]
      exact own_profile pid
    refine (quietly (careful_stop own)).bind fun _ past₁ _ => ?_
    exact (quietly (careful_stop own)).mono fun _ _ _ => trivial
  · trivial

end Commands

/-- Whatever the tools, the user and the other programs answer, the relay uses an interface only when it was asked for,
is free, is the only one that can be found, or was conceded by a flag or by a yes at the terminal, and it changes no
profile but its own and those that its earlier runs left. -/
theorem host_network_kept {pid : Nat} {requestedSsid requestedInterface : Option String} {force : Bool} {p : Command Unit}
    {past later before : List Event} {args : List String} {output : Answer (.nmcliOutput args)}
    (reaches : Reaches history (dummyWifiSession pid requestedSsid requestedInterface force) [] p past)
    (made : past = later ++ ⟨.nmcliOutput args, output⟩ :: before) :
    Careful requestedInterface force before args ∨
      ∃ interface conName ssid, args = up conName ∧ Own conName ∧ Done before (Hotspot.add interface conName ssid) :=
  reaches.made id (fun _ _ _ => rfl) (fun _ _ allowed => allowed) (careful_dummyWifiSession ..) rfl made

/-- The name for the client is the one of the hotspot that is up, or of a network that can be used when nothing was
brought up. -/
theorem outcome_truthful {pid : Nat} {requestedSsid requestedInterface : Option String} {force : Bool}
    {outcome : DummyWifiOutcome} {past : List Event}
    (reaches : Reaches history (setupDummyWifi pid requestedSsid requestedInterface force) [] (pure outcome) past) :
    Truthful pid requestedSsid outcome past :=
  have truthful : Meets history (careful requestedInterface force) (Truthful pid requestedSsid)
      (setupDummyWifi pid requestedSsid requestedInterface force) [] :=
    truthful_setupDummyWifi pid requestedSsid noUp_nil
  reaches.result truthful

/-! ### A host whose only interface is in use -/

namespace Sample

/-- One interface is connected, an earlier run left a profile, and the user agrees. -/
def atWork (_ : List Event) : (c : Call) → Option (Answer c)
  | .nmcliOutput args => some (some {
      success := true
      stdout :=
        if args = deviceStatus then "wlan0:wifi:connected:Work\n"
        else if args = connectionShow then "gnirehtet-dummy-7:wlan1\nWork:wlan0\n"
        else "" })
  | .isTerminal => some true
  | .readLine => some (some "Yes\n")
  | .sleep _ | .eprint _ => some ()
  | _ => none

def conceded : Command Unit × List Event :=
  follow history atWork (dummyWifiSession 42 (some "gnirehtet-lab") none false) []

theorem conceded_reached :
    Reaches history (dummyWifiSession 42 (some "gnirehtet-lab") none false) [] conceded.1 conceded.2 :=
  reaches_follow _ _ (fun _ _ _ _ => trivial) _ _

theorem conceded_kept : ∃ later before output,
    conceded.2 = later ++ ⟨.nmcliOutput (Hotspot.add "wlan0" "gnirehtet-dummy-42" "gnirehtet-lab"), output⟩ :: before ∧
    (Careful none false before (Hotspot.add "wlan0" "gnirehtet-dummy-42" "gnirehtet-lab") ∨
      ∃ interface conName ssid, Hotspot.add "wlan0" "gnirehtet-dummy-42" "gnirehtet-lab" = up conName ∧ Own conName ∧
        Done before (Hotspot.add interface conName ssid)) :=
  ⟨[_, _, _, _, _, _, _, _], _, _, rfl,
    host_network_kept conceded_reached (show _ = [_, _, _, _, _, _, _, _] ++ _ :: _ from rfl)⟩

theorem conceded_truthful : ∃ past, Truthful 42 (some "gnirehtet-lab")
    { hotspot := some { conName := "gnirehtet-dummy-42", ssid := "gnirehtet-lab" }, ssidForClient := some "gnirehtet-lab" } past :=
  have reaches := reaches_follow history atWork (fun _ _ _ _ => trivial) (setupDummyWifi 42 (some "gnirehtet-lab") none false) []
  ⟨_, outcome_truthful reaches⟩

end Sample

end Gnirehtet.Host
