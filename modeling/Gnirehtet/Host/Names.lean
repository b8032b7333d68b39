import Gnirehtet.App.ConnectivityFallback
import Gnirehtet.Host.Takeover

/-!
# The names of hotspots

A name that the relay makes is plain enough for every other host to find it in a scan, and for the client to take it
for one of a relay.
-/

namespace Gnirehtet.Host
open Lib

/-- What a generated name consists of. -/
def Visible (c : Char) : Prop := Adb.isWhitespace c = false ∧ c.utf8Size = 1

theorem visible_toDigits (n : Nat) : ∀ c ∈ Nat.toDigits 16 n, Visible c := by
  have digit : ∀ d < 16, Visible (Nat.digitChar d) := by
    unfold Visible
    decide
  induction n using Nat.strongRecOn with
  | ind n ih =>
    by_cases small : n < 16
    · rw [Nat.toDigits_of_lt_base small]
      intro c member
      rw [List.mem_singleton.mp member]
      exact digit n small
    · rw [Nat.toDigits_of_base_le (by decide) (Nat.le_of_not_lt small)]
      intro c member
      obtain front | last := List.mem_append.mp member
      · exact ih (n / 16) (by omega) c front
      · rw [List.mem_singleton.mp last]
        exact digit (n % 16) (Nat.mod_lt n (by decide))

/-- Five digits are enough for 20 bits. -/
theorem length_suffix (n : UInt32) : (suffix n).toList.length = 5 := by
  have small : (n &&& 0xFFFFF).toNat < 16 ^ 5 := by
    rw [UInt32.toNat_and]
    exact Nat.lt_of_le_of_lt Nat.and_le_right (by decide)
  rw [suffix, hex5, String.toList_ofList, List.length_leftpad]
  have digits := (Nat.length_toDigits_le_iff (b := 16) (k := 5) (by decide) (by decide)).mpr small
  omega

theorem visible_generated {ssid : String} (generated : Generated ssid) : ∀ c ∈ ssid.toList, Visible c := by
  have letters : ssidPrefix.toList.all (fun c => !Adb.isWhitespace c && c.utf8Size == 1) = true := rfl
  obtain ⟨n, rfl⟩ := generated
  rw [String.toList_append]
  intro c member
  obtain front | back := List.mem_append.mp member
  · simpa [Visible] using List.all_eq_true.mp letters c front
  · rw [suffix, hex5, String.toList_ofList, List.leftpad] at back
    obtain zero | digit := List.mem_append.mp back
    · rw [List.eq_of_mem_replicate zero]
      exact ⟨by decide, by decide⟩
    · exact visible_toDigits _ c digit

theorem trim_visible {ssid : String} (visible : ∀ c ∈ ssid.toList, Visible c) : trim ssid = ssid := by
  have keeps {text : List Char} (visible : ∀ c ∈ text, Visible c) : text.dropWhile Adb.isWhitespace = text := by
    cases text with
    | nil => rfl
    | cons c rest => exact List.dropWhile_cons_of_neg (by simp [(visible c List.mem_cons_self).1])
  rw [trim, keeps visible, keeps fun c member => visible c (List.mem_reverse.mp member), List.reverse_reverse,
    String.ofList_toList]

theorem utf8ByteSize_visible {text : List Char} (visible : ∀ c ∈ text, Visible c) :
    (String.ofList text).utf8ByteSize = text.length := by
  induction text with
  | nil => rfl
  | cons c rest ih =>
    have rest' := ih fun c member => visible c (List.mem_cons_of_mem _ member)
    rw [String.ofList_cons, String.utf8ByteSize_append, String.utf8ByteSize_singleton, rest', (visible c List.mem_cons_self).2]
    simp
    omega

theorem length_generated {ssid : String} (generated : Generated ssid) : ssid.toList.length = 15 := by
  obtain ⟨n, rfl⟩ := generated
  rw [String.toList_append, List.length_append, length_suffix]
  rfl

theorem startsWith_generated {ssid : String} (generated : Generated ssid) : startsWith ssid ssidPrefix = true := by
  obtain ⟨n, rfl⟩ := generated
  rw [startsWith, String.toList_append, List.isPrefixOf_iff_prefix]
  exact List.prefix_append ..

/-- Every host that reads the name in a scan finds it. -/
theorem nearby_of_generated {ssid stdout : String} (generated : Generated ssid) (line : ssid ∈ linesOf stdout) :
    ssid ∈ parseNearby stdout := by
  have visible := visible_generated generated
  have length := length_generated generated
  have size := utf8ByteSize_visible visible
  rw [String.ofList_toList, length] at size
  refine List.mem_filter.mpr ⟨List.mem_map.mpr ⟨_, line, trim_visible visible⟩, ?_⟩
  refine decide_eq_true ⟨?_, startsWith_generated generated, by omega⟩
  rintro rfl
  cases length

/-- The client takes back the quotes of the platform. -/
theorem normalizeSsid_quoted {ssid : String} (some : ssid ≠ "0x" ∧ ssid ≠ "<unknown ssid>") :
    App.ConnectivityFallback.normalizeSsid (.some (App.ConnectivityFallback.quoted ssid)) = .some ssid := by
  have text : (App.ConnectivityFallback.quoted ssid).toList = '"' :: (ssid.toList ++ ['"']) := by
    simp [App.ConnectivityFallback.quoted]
  have quotes : 2 ≤ (App.ConnectivityFallback.quoted ssid).toList.length ∧
      (App.ConnectivityFallback.quoted ssid).toList.head? = .some '"' ∧
      (App.ConnectivityFallback.quoted ssid).toList.getLast? = .some '"' := by
    rw [text]
    simp [List.getLast?_cons]
  have inside : String.ofList (App.ConnectivityFallback.quoted ssid).toList.tail.dropLast = ssid := by
    rw [text, List.tail_cons, List.dropLast_concat, String.ofList_toList]
  unfold App.ConnectivityFallback.normalizeSsid
  simp only [Option.bind_eq_bind, Option.bind_some, if_pos quotes, inside, some, or_self, if_false]

/-- A name that the relay generates is taken for one of a relay by the client, which has it back from what the
platform says, and is none of the generated names that a scan with the interface of the hotspot has listed. -/
theorem generated_name_understood {pid : Nat} {requestedInterface : Option String} {force : Bool}
    {outcome : DummyWifiOutcome} {past : List Event} {h : Hotspot}
    (reaches : Reaches history (setupDummyWifi pid none requestedInterface force) [] (pure outcome) past)
    (active : outcome.hotspot = some h) :
    App.ConnectivityFallback.startsWith h.ssid App.ConnectivityFallback.gnirehtetSsidPrefix = true ∧
    App.ConnectivityFallback.normalizeSsid (some (App.ConnectivityFallback.quoted h.ssid)) = some h.ssid ∧
    ∃ interface, Done past (Hotspot.add interface h.conName h.ssid) ∧
      ∃ output, (⟨.nmcliOutput (wifiList "SSID" interface), output⟩ : Event) ∈ past ∧
        ∀ stdout, stdoutOf output = some stdout → ∀ other ∈ linesOf stdout, Generated other → h.ssid ≠ other := by
  obtain ⟨interface, added, never | ⟨-, generated, output, asked, other⟩⟩ :=
    ((outcome_truthful reaches).hotspot h active).1.added
  · cases never
  · have length := length_generated generated
    refine ⟨startsWith_generated generated, normalizeSsid_quoted ⟨?_, ?_⟩, interface, added, output, asked, ?_⟩
    · intro same
      rw [same] at length
      cases length
    · intro same
      rw [same] at length
      cases length
    · rintro stdout same _ line generated' rfl
      exact other stdout same (nearby_of_generated generated' line)

namespace Sample

/-- One interface is free, and another relay is in range. -/
def withSpare (_ : List Event) : (c : Call) → Option (Answer c)
  | .nmcliOutput args => some (some {
      success := true
      stdout :=
        if args = deviceStatus then "wlan0:wifi:connected:Work\nwlan1:wifi:disconnected:\n"
        else if args = wifiList "SSID" "wlan1" then "Work\ngnirehtet-0abcd\n"
        else "" })
  | .readHostname => some (some "desk\n")
  | .sleep _ => some ()
  | _ => none

def spared : Command DummyWifiOutcome × List Event :=
  follow history withSpare (setupDummyWifi 42 none none false) []

def sparedHotspot : Hotspot := { conName := "gnirehtet-dummy-42", ssid := "gnirehtet-30cb8" }

theorem spared_reached : Reaches history (setupDummyWifi 42 none none false) []
    (pure { hotspot := some sparedHotspot, ssidForClient := some "gnirehtet-30cb8" }) spared.2 :=
  reaches_follow history withSpare (fun _ _ _ _ => trivial) (setupDummyWifi 42 none none false) []

theorem spared_understood :
    App.ConnectivityFallback.startsWith sparedHotspot.ssid App.ConnectivityFallback.gnirehtetSsidPrefix = true ∧
    App.ConnectivityFallback.normalizeSsid (some (App.ConnectivityFallback.quoted sparedHotspot.ssid)) =
      some sparedHotspot.ssid ∧
    ∃ interface, Done spared.2 (Hotspot.add interface sparedHotspot.conName sparedHotspot.ssid) ∧
      ∃ output, (⟨.nmcliOutput (wifiList "SSID" interface), output⟩ : Event) ∈ spared.2 ∧
        ∀ stdout, stdoutOf output = some stdout → ∀ other ∈ linesOf stdout, Generated other → sparedHotspot.ssid ≠ other :=
  generated_name_understood spared_reached rfl

end Sample

end Gnirehtet.Host
