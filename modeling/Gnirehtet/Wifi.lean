import Gnirehtet.Lib.Decimal
import Gnirehtet.Lib.Fields

/-!
# Names in the output of nmcli

In its terse mode nmcli separates fields by colons, and puts a backslash in front of the colons and the
backslashes of a value. The parsers cut a line at its colons and take back the first of these, not the
second.
-/

namespace Gnirehtet
open Lib

structure WifiInterface where
  name : String
  connected : Bool
  currentSsid : Option String

structure OpenAp where
  ssid : String
  signal : Int32

/-- `str::parse::<i32>` -/
def parseI32 : List Char → Option Int32 := int32Numeral asciiDigit

def parseNmcliDeviceLine (line : String) : Option WifiInterface := do
  let parts := splitn ':' 4 line.toList
  let name ← parts[0]?
  let kind ← parts[1]?
  let state ← parts[2]?
  let connection := parts[3]?.getD []
  if kind ≠ "wifi".toList then none
  else
    let connected := decide (state = "connected".toList)
    let currentSsid :=
      if connected ∧ connection ≠ [] then some (String.ofList (replace ['\\', ':'] [':'] connection)) else none
    some { name := String.ofList name, connected, currentSsid }

def parseNmcliApLine (line : String) : Option OpenAp :=
  let parts := rsplitn ':' 3 line.toList
  let security := parts[0]?.getD []
  let signalStr := parts[1]?.getD ['0']
  let ssidRaw := parts[2]?.getD []
  -- a hidden network cannot be offered as a target
  if ssidRaw = [] then none
  else
    let isOpen := security = [] ∨ security = "--".toList
    if ¬ isOpen then none
    else
      let signal := (parseI32 signalStr).getD 0
      some { ssid := String.ofList (replace ['\\', ':'] [':'] ssidRaw), signal }

theorem parseI32_toString (signal : Int32) : parseI32 (toString signal.toInt).toList = some signal :=
  int32Numeral_toString (fun _ _ => rfl) signal

/-! ### The lines of nmcli -/

/-- A value as nmcli prints it. -/
def escape (value : List Char) : List Char := value.flatMap fun c => if c = ':' ∨ c = '\\' then ['\\', c] else [c]

/-- What is left of the escapes when those of the colons are taken back. -/
def doubled (value : List Char) : List Char := value.flatMap fun c => if c = '\\' then ['\\', '\\'] else [c]

/-- Every colon is escaped, so that none comes first. -/
theorem escape_first (value : List Char) : ¬ [':'] <+: escape value := by
  cases value with
  | nil => simp [escape]
  | cons c rest =>
    rw [escape, List.flatMap_cons]
    split
    · simp
    · rename_i plain
      rw [not_or] at plain
      simpa using Ne.symm plain.1

theorem mem_escape (value : List Char) : ':' ∈ escape value ↔ ':' ∈ value := by
  unfold escape
  rw [List.mem_flatMap]
  constructor
  · rintro ⟨c, member, inside⟩
    split at inside
    · rename_i escaped
      rcases escaped with rfl | rfl
      · exact member
      · simp at inside
    · rw [List.mem_singleton.mp inside]
      exact member
  · intro member
    exact ⟨':', member, by simp⟩

/-- Each occurrence of the pattern is the escape of a colon. -/
theorem replace_escape (value : List Char) : replace ['\\', ':'] [':'] (escape value) = doubled value := by
  induction value with
  | nil => rfl
  | cons c rest ih =>
    have first := escape_first rest
    unfold escape doubled at *
    rw [List.flatMap_cons, List.flatMap_cons, ← ih]
    generalize rest.flatMap _ = later at first
    by_cases colon : c = ':'
    · subst colon
      exact replace_append (by simp) _ _
    · by_cases backslash : c = '\\'
      · subst backslash
        have outer : ¬ ['\\', ':'] <+: '\\' :: '\\' :: later := by simp [List.cons_prefix_cons]
        have inner : ¬ ['\\', ':'] <+: '\\' :: later := by
          rw [List.cons_prefix_cons]
          exact fun front => first front.2
        rw [if_pos (.inr rfl), if_pos rfl]
        exact (replace_cons outer).trans (congrArg _ (replace_cons inner))
      · have away : ¬ ['\\', ':'] <+: c :: later := by
          rw [List.cons_prefix_cons]
          exact fun front => backslash front.1.symm
        rw [if_neg (by simp [colon, backslash]), if_neg backslash]
        exact replace_cons away

theorem length_doubled (value : List Char) : value.length ≤ (doubled value).length := by
  induction value with
  | nil => simp
  | cons c rest ih =>
    unfold doubled at ih ⊢
    rw [List.flatMap_cons, List.length_append, List.length_cons]
    split <;> simp only [List.length_cons, List.length_nil] <;> omega

theorem doubled_eq_iff (value : List Char) : doubled value = value ↔ '\\' ∉ value := by
  induction value with
  | nil => simp [doubled]
  | cons c rest ih =>
    have longer := length_doubled rest
    unfold doubled at ih longer ⊢
    rw [List.flatMap_cons, List.mem_cons, not_or]
    by_cases backslash : c = '\\'
    · subst backslash
      rw [if_pos rfl]
      refine ⟨fun same => ?_, fun none => absurd rfl none.1⟩
      have length := congrArg List.length same
      rw [List.length_append, List.length_cons, List.length_cons] at length
      simp only [List.length_cons, List.length_nil] at length
      omega
    · rw [if_neg backslash, List.singleton_append, List.cons_inj_right, ih]
      exact ⟨fun none => ⟨Ne.symm backslash, none⟩, And.right⟩

theorem escape_eq_nil_iff (value : List Char) : escape value = [] ↔ value = [] := by
  cases value with
  | nil => simp [escape]
  | cons c rest =>
    rw [escape, List.flatMap_cons]
    split <;> simp

/-! ### Lines of access points -/

def apLine (ssid : String) (signal : Int32) (security : String) : String :=
  String.ofList (escape ssid.toList ++ ':' :: ((toString signal.toInt).toList ++ ':' :: security.toList))

theorem parseNmcliApLine_apLine {ssid security : String} (visible : ssid ≠ "") (signal : Int32)
    (isOpen : security = "" ∨ security = "--") :
    parseNmcliApLine (apLine ssid signal security) = some { ssid := String.ofList (doubled ssid.toList), signal } := by
  have securityColon : ':' ∉ security.toList := by rcases isOpen with rfl | rfl <;> decide
  have signalColon : ':' ∉ (toString signal.toInt).toList := not_mem_toString (by decide) (by decide) _
  have parts : rsplitn ':' 3 (apLine ssid signal security).toList =
      [security.toList, (toString signal.toInt).toList, escape ssid.toList] := by
    rw [apLine, String.toList_ofList, ← List.cons_append, ← List.append_assoc, rsplitn_append securityColon,
      rsplitn_append signalColon, rsplitn_one]
  have some : escape ssid.toList ≠ [] := by
    rw [Ne, escape_eq_nil_iff]
    simpa using visible
  have plain : security.toList = [] ∨ security.toList = "--".toList := by
    rcases isOpen with rfl | rfl
    · exact .inl rfl
    · exact .inr rfl
  unfold parseNmcliApLine
  simp only [parts, List.getElem?_cons_zero, List.getElem?_cons_succ, Option.getD_some, some, if_false, plain,
    not_true, parseI32_toString, replace_escape]

/-! ### Lines of interfaces -/

def deviceLine (device name : String) : String :=
  String.ofList (escape device.toList ++ ':' :: ("wifi".toList ++ ':' :: ("connected".toList ++ ':' :: escape name.toList)))

section Parts
variable {line : String} {name kind state : List Char} {more : List (List Char)}

theorem parseNmcliDeviceLine_kind (parts : splitn ':' 4 line.toList = name :: kind :: more)
    (other : kind ≠ "wifi".toList) : parseNmcliDeviceLine line = none := by
  unfold parseNmcliDeviceLine
  cases more with
  | nil => simp only [parts, List.getElem?_cons_zero, List.getElem?_cons_succ, List.getElem?_nil, Option.bind_eq_bind,
      Option.bind_some, Option.bind_none]
  | cons state more => simp only [parts, List.getElem?_cons_zero, List.getElem?_cons_succ, Option.bind_eq_bind,
      Option.bind_some, ne_eq, other, not_false_eq_true, if_true]

theorem parseNmcliDeviceLine_state (parts : splitn ':' 4 line.toList = name :: "wifi".toList :: state :: more) :
    parseNmcliDeviceLine line = some
      { name := String.ofList name
        connected := decide (state = "connected".toList)
        currentSsid :=
          if state = "connected".toList ∧ more[0]?.getD [] ≠ [] then
            some (String.ofList (replace ['\\', ':'] [':'] (more[0]?.getD [])))
          else none } := by
  unfold parseNmcliDeviceLine
  simp only [parts, List.getElem?_cons_zero, List.getElem?_cons_succ, Option.bind_eq_bind, Option.bind_some, ne_eq,
    not_true, if_false, decide_eq_true_eq]

end Parts

/-- The first colon of a value is behind its backslash. -/
theorem escape_cut {value : List Char} (colon : ':' ∈ value) :
    ∃ front rest, escape value = (front ++ ['\\']) ++ ':' :: escape rest ∧ ':' ∉ front ++ ['\\'] := by
  obtain ⟨front, rest, rfl, first⟩ := List.eq_append_cons_of_mem colon
  refine ⟨escape front, rest, by simp [escape], ?_⟩
  rw [List.mem_append, mem_escape]
  simpa using first

theorem parseNmcliDeviceLine_plain {device : String} (plain : ':' ∉ device.toList) (name : String) :
    parseNmcliDeviceLine (deviceLine device name) = some
      { name := String.ofList (escape device.toList)
        connected := true
        currentSsid := if name = "" then none else some (String.ofList (doubled name.toList)) } := by
  have parts : splitn ':' 4 (deviceLine device name).toList =
      [escape device.toList, "wifi".toList, "connected".toList, escape name.toList] := by
    rw [deviceLine, String.toList_ofList, splitn_cons (by rwa [mem_escape]), splitn_cons (by decide),
      splitn_cons (by decide)]
    rfl
  rw [parseNmcliDeviceLine_state parts]
  simp only [List.getElem?_cons_zero, Option.getD_some, ne_eq, escape_eq_nil_iff, String.toList_eq_nil_iff,
    true_and, decide_true, replace_escape, ite_not]

/-- A colon in the name of the interface shifts the fields, so that no name is found. -/
theorem parseNmcliDeviceLine_colon {device : String} (colon : ':' ∈ device.toList) (name : String) {i : WifiInterface}
    (found : parseNmcliDeviceLine (deviceLine device name) = some i) : i.currentSsid = none := by
  obtain ⟨front, rest, cut, first⟩ := escape_cut colon
  have line : (deviceLine device name).toList = (front ++ ['\\']) ++ ':' ::
      (escape rest ++ ':' :: ("wifi".toList ++ ':' :: ("connected".toList ++ ':' :: escape name.toList))) := by
    rw [deviceLine, String.toList_ofList, cut, List.append_assoc, List.cons_append]
  by_cases again : ':' ∈ rest
  · obtain ⟨kind, later, cut', second⟩ := escape_cut again
    have parts : splitn ':' 4 (deviceLine device name).toList = (front ++ ['\\']) :: (kind ++ ['\\']) ::
        splitn ':' 2 (escape later ++ ':' :: ("wifi".toList ++ ':' :: ("connected".toList ++ ':' :: escape name.toList))) := by
      rw [line, splitn_cons first, cut', List.append_assoc (kind ++ ['\\']), List.cons_append, splitn_cons second]
    rw [parseNmcliDeviceLine_kind parts] at found
    · cases found
    · intro same
      have last := congrArg List.getLast? same
      rw [List.getLast?_append] at last
      simp at last
  · have parts : splitn ':' 4 (deviceLine device name).toList = (front ++ ['\\']) :: escape rest ::
        "wifi".toList :: splitn ':' 1 ("connected".toList ++ ':' :: escape name.toList) := by
      rw [line, splitn_cons first, splitn_cons (by rwa [mem_escape]), splitn_cons (by decide)]
    by_cases kind : escape rest = "wifi".toList
    · rw [kind] at parts
      rw [parseNmcliDeviceLine_state parts] at found
      cases found
      rfl
    · rw [parseNmcliDeviceLine_kind parts kind] at found
      cases found

/-- The name of an access point survives the encoding exactly when it has no backslash, and so does that of a
connection, unless it is empty or the interface has a colon in its own. -/
theorem survives_iff {ssid security : String} (visible : ssid ≠ "") (isOpen : security = "" ∨ security = "--")
    (signal : Int32) (device name : String) :
    (parseNmcliApLine (apLine ssid signal security) = some { ssid, signal } ↔ '\\' ∉ ssid.toList) ∧
    ((∃ i, parseNmcliDeviceLine (deviceLine device name) = some i ∧ i.currentSsid = some name) ↔
      '\\' ∉ name.toList ∧ name ≠ "" ∧ ':' ∉ device.toList) := by
  have whole (value : String) : String.ofList (doubled value.toList) = value ↔ '\\' ∉ value.toList := by
    rw [← doubled_eq_iff, ← String.toList_inj, String.toList_ofList]
  constructor
  · rw [parseNmcliApLine_apLine visible signal isOpen, ← whole]
    simp
  · by_cases colon : ':' ∈ device.toList
    · refine ⟨?_, fun h => absurd colon h.2.2⟩
      rintro ⟨i, found, same⟩
      rw [parseNmcliDeviceLine_colon colon name found] at same
      cases same
    · rw [parseNmcliDeviceLine_plain colon, ← whole]
      by_cases empty : name = ""
      · simp [empty]
      · simp [empty, colon]

theorem survives_cafe : parseNmcliApLine (apLine "cafe: 1" 70 "--") = some { ssid := "cafe: 1", signal := 70 } ∧
    ∃ i, parseNmcliDeviceLine (deviceLine "wlan0" "cafe: 1") = some i ∧ i.currentSsid = some "cafe: 1" := by
  obtain ⟨ap, device⟩ := @survives_iff "cafe: 1" "--" (by decide) (.inr rfl) 70 "wlan0" "cafe: 1"
  exact ⟨ap.mpr (by decide), device.mpr (by decide)⟩

/-- The backslash of a name is doubled. -/
theorem backslash_doubled : parseNmcliApLine (apLine "a\\b" 70 "") ≠ some { ssid := "a\\b", signal := 70 } ∧
    ¬ ∃ i, parseNmcliDeviceLine (deviceLine "wlan0" "a\\b") = some i ∧ i.currentSsid = some "a\\b" := by
  constructor
  · rw [parseNmcliApLine_apLine (by decide) 70 (.inl rfl)]
    simp only [ne_eq, Option.some.injEq, OpenAp.mk.injEq, and_true]
    decide
  · rintro ⟨i, found, same⟩
    rw [parseNmcliDeviceLine_plain (by decide)] at found
    cases found
    rw [if_neg (by decide), Option.some.injEq] at same
    exact absurd same (by decide)

end Gnirehtet
