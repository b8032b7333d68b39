import Gnirehtet.App.Cidr
import Gnirehtet.Lib.Interaction

/-!
# The fallbacks for an active transport

The app asks the platform for its networks and switches between them. What the platform answers is open; the
preferences are read and written by calls too, so that a run can be stopped, or disturbed by another thread,
between any two of them. An exception that nobody catches stops a run.
-/

namespace Gnirehtet.App
open Lib

namespace ConnectivityFallback

/-! ### What the platform knows -/

/-- `SecurityException`, and the exceptions of reflection and of the network interfaces. -/
inductive Thrown where
  | thrown

inductive Status where
  | current
  | disabled
  | enabled
  deriving DecidableEq

structure WifiConfiguration where
  ssid : Option String
  networkId : Int32
  status : Status

structure ScanResult where
  ssid : String
  capabilities : String
  level : Int32

structure WifiInfo where
  ssid : Option String
  bssid : Option String
  /-- The supplicant state is `COMPLETED`. -/
  completed : Bool
  networkId : Int32

structure NetworkCapabilities where
  wifi : Bool
  cellular : Bool
  vpn : Bool
  internet : Bool
  /-- The SSID of the transport info, when that is a `WifiInfo`. -/
  wifiInfo : Option (Option String)

structure NetworkInterface where
  up : Bool
  loopback : List Bool

structure Prefs where
  previousSsid : Option String := none
  enabledNetworkIds : Option String := none

inductive KeyMgmt where
  | none
  | other

/-- What reflection finds in `WifiManager`. -/
inductive SaveMethod where
  | saveConfiguration
  | updateNetwork

/-- The services of the platform. -/
inductive Service where
  | wifi
  | connectivity
  | wifiP2p

inductive Call where
  | currentTimeMillis
  | sleep (ms : Nat)
  | sharedPreferences
  | putPreviousSsid (ssid : String)
  | removePreviousSsid
  | putEnabledNetworkIds (ids : String)
  | removeEnabledNetworkIds
  | getSystemService (service : Service)
  | isWifiEnabled
  | setWifiEnabled
  | getConnectionInfo
  | getConfiguredNetworks
  | getScanResults
  | startScan
  | enableNetwork (id : Int32) (disableOthers : Bool)
  | removeNetwork (id : Int32)
  | addNetwork (ssid : String) (keyMgmt : KeyMgmt)
  | getMethod
  | saveConfiguration (config : WifiConfiguration)
  | updateNetwork (config : WifiConfiguration)
  | reconnect
  | getNetworkSuggestions
  | addNetworkSuggestions (ssid : String)
  | removeNetworkSuggestions (ssids : List String)
  | getAllNetworks
  | getNetworkCapabilities (network : Nat)
  | getActiveNetworkInfo
  | hasWifiDirect
  | initializeChannel
  | registerReceiver
  | unregisterReceiver
  | createGroup
  | startLocalOnlyHotspot
  | await (ms : Nat)
  /-- The flag that the callback of the awaited request sets. -/
  | succeeded
  /-- The flag that the receiver sets. -/
  | connected
  | getNetworkInterface (name : String)
  | nullPointerException

/-- A sleep and a wait answer whether they were not interrupted. -/
def Answer : Call → Type
  | .currentTimeMillis => Nat
  | .sleep _ => Bool
  | .sharedPreferences => Prefs
  | .putPreviousSsid _ | .removePreviousSsid | .putEnabledNetworkIds _ | .removeEnabledNetworkIds => Unit
  | .getSystemService _ | .isWifiEnabled | .hasWifiDirect | .initializeChannel => Bool
  | .setWifiEnabled | .startScan | .removeNetwork _ | .reconnect | .startLocalOnlyHotspot => Except Thrown Unit
  | .getConnectionInfo => Option WifiInfo
  | .getConfiguredNetworks => Except Thrown (Option (List WifiConfiguration))
  | .getScanResults => Except Thrown (Option (List ScanResult))
  | .enableNetwork _ _ | .saveConfiguration _ => Except Thrown Bool
  | .addNetwork _ _ => Int32
  | .getMethod => Option SaveMethod
  | .updateNetwork _ => Except Thrown Int32
  | .getNetworkSuggestions => Except Thrown (Option (List String))
  | .addNetworkSuggestions _ => Bool
  | .removeNetworkSuggestions _ => Except Thrown Unit
  | .getAllNetworks => Option (List Nat)
  | .getNetworkCapabilities _ => Option NetworkCapabilities
  | .getActiveNetworkInfo => Option Bool
  | .registerReceiver | .unregisterReceiver | .createGroup => Unit
  | .await _ => Except Thrown Bool
  | .succeeded | .connected => Bool
  | .getNetworkInterface _ => Except Thrown (Option NetworkInterface)
  | .nullPointerException => Empty

abbrev Android (α : Type) := Program Call Answer α

/-! ### The calls -/

abbrev asks (c : Call) : Android (Answer c) := call c

abbrev currentTimeMillis : Android Nat := asks .currentTimeMillis
abbrev sleep (ms : Nat) : Android Bool := asks (.sleep ms)
abbrev sharedPreferences : Android Prefs := asks .sharedPreferences
abbrev putPreviousSsid (ssid : String) : Android Unit := asks (.putPreviousSsid ssid)
abbrev removePreviousSsid : Android Unit := asks .removePreviousSsid
abbrev putEnabledNetworkIds (ids : String) : Android Unit := asks (.putEnabledNetworkIds ids)
abbrev removeEnabledNetworkIds : Android Unit := asks .removeEnabledNetworkIds
abbrev getSystemService (service : Service) : Android Bool := asks (.getSystemService service)
abbrev isWifiEnabled : Android Bool := asks .isWifiEnabled
abbrev setWifiEnabled : Android (Except Thrown Unit) := asks .setWifiEnabled
abbrev getConnectionInfo : Android (Option WifiInfo) := asks .getConnectionInfo
abbrev getConfiguredNetworks : Android (Except Thrown (Option (List WifiConfiguration))) := asks .getConfiguredNetworks
abbrev getScanResults : Android (Except Thrown (Option (List ScanResult))) := asks .getScanResults
abbrev startScan : Android (Except Thrown Unit) := asks .startScan
abbrev enableNetwork (id : Int32) (disableOthers : Bool) : Android (Except Thrown Bool) :=
  asks (.enableNetwork id disableOthers)
abbrev removeNetwork (id : Int32) : Android (Except Thrown Unit) := asks (.removeNetwork id)
abbrev addNetwork (ssid : String) (keyMgmt : KeyMgmt) : Android Int32 := asks (.addNetwork ssid keyMgmt)
abbrev getMethod : Android (Option SaveMethod) := asks .getMethod
abbrev saveConfiguration (config : WifiConfiguration) : Android (Except Thrown Bool) := asks (.saveConfiguration config)
abbrev updateNetwork (config : WifiConfiguration) : Android (Except Thrown Int32) := asks (.updateNetwork config)
abbrev reconnect : Android (Except Thrown Unit) := asks .reconnect
abbrev getNetworkSuggestions : Android (Except Thrown (Option (List String))) := asks .getNetworkSuggestions
abbrev addNetworkSuggestions (ssid : String) : Android Bool := asks (.addNetworkSuggestions ssid)
abbrev removeNetworkSuggestions (ssids : List String) : Android (Except Thrown Unit) :=
  asks (.removeNetworkSuggestions ssids)
abbrev getAllNetworks : Android (Option (List Nat)) := asks .getAllNetworks
abbrev getNetworkCapabilities (network : Nat) : Android (Option NetworkCapabilities) :=
  asks (.getNetworkCapabilities network)
abbrev getActiveNetworkInfo : Android (Option Bool) := asks .getActiveNetworkInfo
abbrev hasWifiDirect : Android Bool := asks .hasWifiDirect
abbrev initializeChannel : Android Bool := asks .initializeChannel
abbrev registerReceiver : Android Unit := asks .registerReceiver
abbrev unregisterReceiver : Android Unit := asks .unregisterReceiver
abbrev createGroup : Android Unit := asks .createGroup
abbrev startLocalOnlyHotspot : Android (Except Thrown Unit) := asks .startLocalOnlyHotspot
abbrev await (ms : Nat) : Android (Except Thrown Bool) := asks (.await ms)
abbrev succeeded : Android Bool := asks .succeeded
abbrev connected : Android Bool := asks .connected
abbrev getNetworkInterface (name : String) : Android (Except Thrown (Option NetworkInterface)) :=
  asks (.getNetworkInterface name)

def throwNullPointer {α : Type} : Android α := .ask .nullPointerException fun never => nomatch never

def kitkat : Nat := 19
def lollipop : Nat := 21
def o : Nat := 26
def q : Nat := 29

def gnirehtetSsidPrefix : String := "gnirehtet-"

def createTimeoutMs : Nat := 3000
def transportPollTimeoutMs : Nat := 2000
def preferredSsidAssocTimeoutMs : Nat := 45000
def suggestionAssocTimeoutMs : Nat := 90000
def suggestionScanIntervalMs : Nat := 20000
def ssidDhcpTimeoutMs : Nat := 15000
def openApAssocTimeoutMs : Nat := 8000
def wifiEnableWaitMs : Nat := 3000
def pollIntervalMs : Nat := 250

/-! ### Names -/

def startsWith (s p : String) : Bool := p.toList.isPrefixOf s.toList

def contains (s p : String) : Bool := s.toList.tails.any p.toList.isPrefixOf

def quoted (ssid : String) : String := "\"" ++ ssid ++ "\""

def normalizeSsid (ssid : Option String) : Option String := do
  let ssid ← ssid
  let chars := ssid.toList
  let ssid :=
    if 2 ≤ chars.length ∧ chars.head? = some '"' ∧ chars.getLast? = some '"' then
      String.ofList chars.tail.dropLast
    else ssid
  if ssid = "0x" ∨ ssid = "<unknown ssid>" then none else some ssid

def isOpen (result : ScanResult) : Bool := !contains result.capabilities "WPA" && !contains result.capabilities "WEP"

def isSaved (savedNetworks : Option (List WifiConfiguration)) (ssid : String) : Bool :=
  match savedNetworks with
  | none => false
  | some saved => saved.any fun config => config.ssid == some (quoted ssid)

/-- The stronger one, or the earlier one of two that are as strong. -/
def stronger (best : Option ScanResult) (result : ScanResult) : Option ScanResult :=
  match best with
  | none => some result
  | some best => if best.level < result.level then some result else some best

/-- The first of the strongest results that match. -/
def pickStrongest (results : List ScanResult) (savedNetworks : Option (List WifiConfiguration))
    (requireSavedAndSecure : Bool) : Option ScanResult :=
  let matching := results.filter fun result =>
    if requireSavedAndSecure then !isOpen result && isSaved savedNetworks result.ssid else isOpen result
  matching.foldl stronger none

/-- The ids that are written, with commas between them. -/
def joinIds (configured : List WifiConfiguration) : String :=
  let ids := configured.filterMap fun config =>
    if config.status = .enabled ∨ config.status = .current then some (toString config.networkId.toInt) else none
  ",".intercalate ids

/-- `String.split(",")` of a text that is not empty. Empty pieces at the end are left out. -/
def splitIds (raw : String) : List String :=
  ((raw.toList.splitOn ',').map String.ofList).reverse.dropWhile (· = "") |>.reverse

/-- `String.trim` -/
def trim (s : String) : List Char :=
  ((s.toList.dropWhile (· ≤ ' ')).reverse.dropWhile (· ≤ ' ')).reverse

/-! ### Questions -/

/-- The SSID of the first network that is on Wi-Fi, not the VPN, and has one. -/
def firstWifiSsid : List Nat → Android (Option String)
  | [] => return none
  | network :: rest => do
    match ← getNetworkCapabilities network with
    | none => firstWifiSsid rest
    | some caps =>
      if ¬ caps.wifi ∨ caps.vpn then firstWifiSsid rest
      else
        match caps.wifiInfo.bind normalizeSsid with
        | none => firstWifiSsid rest
        | some ssid => if ssid = "" ∨ ssid = "<unknown ssid>" then firstWifiSsid rest else return some ssid

/-- From Android 10 on, the SSID that the networks have. -/
def networkSsid (sdk : Nat) : Android (Option String) := do
  if sdk < q then return none
  else if ← getSystemService .connectivity then
    match ← getAllNetworks with
    | some networks => firstWifiSsid networks
    | none => return none
  else return none

def getConnectedSsid (sdk : Nat) : Android (Option String) := do
  match ← networkSsid sdk with
  | some ssid => return some ssid
  | none =>
    if ← getSystemService .wifi then
      match ← getConnectionInfo with
      | some info => return normalizeSsid info.ssid
      | none => throwNullPointer
    else return none

def isConnectedToSsid (sdk : Nat) (ssid : String) : Android Bool := do
  return (← getConnectedSsid sdk) = some ssid

def isFullyAssociated (targetSsid : String) : Android Bool := do
  match ← getConnectionInfo with
  | none => return false
  | some info =>
    return normalizeSsid info.ssid = some targetSsid ∧ info.completed ∧ info.networkId ≠ -1 ∧
      info.bssid.any fun bssid => bssid ≠ "" ∧ bssid ≠ "00:00:00:00:00:00"

def isPhysical (caps : NetworkCapabilities) : Bool := !caps.vpn && (caps.wifi || caps.cellular) && caps.internet

def anyPhysical : List Nat → Android Bool
  | [] => return false
  | network :: rest => do
    if (← getNetworkCapabilities network).any isPhysical then return true else anyPhysical rest

def hasActiveTransport (sdk : Nat) : Android Bool := do
  if ← getSystemService .connectivity then
    if lollipop ≤ sdk then
      match ← getAllNetworks with
      | some networks => anyPhysical networks
      | none => return false
    else return (← getActiveNetworkInfo) = some true
  else return false

def hasP2pInterface : Android Bool := do
  match ← getNetworkInterface "p2p0" with
  | .ok (some ni) => return ni.up && ni.loopback.any not
  | .ok none => return false
  | .error _ => return false

/-! ### Switching -/

/-- The list, or `none` when the platform has none or throws. -/
def configuredNetworks : Android (Option (List WifiConfiguration)) := do
  match ← getConfiguredNetworks with
  | .ok configured => return configured
  | .error _ => return none

def findExistingNetId (ssid : String) : Android Int32 := do
  let found := ((← configuredNetworks).getD []).find? fun config => normalizeSsid config.ssid == some ssid
  return (found.map (·.networkId)).getD (-1)

/-- Removes the stale configuration and adds an open one. -/
def findOrAddOpenNetwork (ssid : String) : Android Int32 := do
  match ((← configuredNetworks).getD []).find? fun config => config.ssid == some (quoted ssid) with
  | some config =>
    if config.networkId ≠ -1 then
      let _ ← removeNetwork config.networkId
      addNetwork (quoted ssid) .none
    else addNetwork (quoted ssid) .none
  | none => addNetwork (quoted ssid) .none

/-- Saved once only: a retry would find the list that the first switch left. -/
def rememberEnabledNetworks : Android Unit := do
  if (← sharedPreferences).enabledNetworkIds.isSome then return ()
  else
    match ← configuredNetworks with
    | some configured => putEnabledNetworkIds (joinIds configured)
    | none => return ()

/-- A refusal counts as a failure. -/
def enables (id : Int32) (disableOthers : Bool) : Android Bool := do
  match ← enableNetwork id disableOthers with
  | .ok enabled => return enabled
  | .error _ => return false

def tryConnectBySsid (sdk : Nat) (ssid : String) : Android Bool := do
  (if sdk = kitkat then rememberEnabledNetworks else return ())
  let netId ← (if startsWith ssid gnirehtetSsidPrefix then findOrAddOpenNetwork ssid else findExistingNetId ssid)
  if netId = -1 then return false else enables netId true

def ensureWifiEnabled : Android Bool := do
  if ← isWifiEnabled then return true
  else
    match ← setWifiEnabled with
    | .ok () => sleep wifiEnableWaitMs
    | .error _ => return false

def removeAllSuggestions (sdk : Nat) : Android Unit := do
  if sdk < q then return ()
  else if ← getSystemService .wifi then
    match ← getNetworkSuggestions with
    | .ok (some existing) =>
      if existing = [] then return ()
      else
        let _ ← removeNetworkSuggestions existing
    | .ok none => return ()
    | .error _ => return ()
  else return ()

/-! ### Waiting -/

/-- The variables of a loop that waits for a network. -/
structure Waiting where
  deadline : Nat
  lastRetry : Nat := 0
  associated : Bool := false

/-- How a turn goes on: with the loop, or out of it, where `none` is the deadline. -/
abbrev Turn := Android (Waiting ⊕ Option Bool)

def goesOn (s : Waiting) : Turn := do
  if ← sleep pollIntervalMs then return .inl s else return .inr (some false)

/-- Before Lollipop the association alone is trusted. -/
def usable (sdk : Nat) (s : Waiting) : Turn := do
  if sdk < lollipop then return .inr (some true)
  else if ← hasActiveTransport sdk then return .inr (some true)
  else goesOn s

/-- The handshake has a time of its own. -/
def associates (sdk : Nat) (s : Waiting) : Turn := do
  let now ← currentTimeMillis
  usable sdk { s with
    associated := true
    deadline := now + ssidDhcpTimeoutMs }

def transportTurn (sdk : Nat) (targetSsid : Option String) (s : Waiting) : Turn := do
  if (← currentTimeMillis) < s.deadline then
    match targetSsid with
    | some ssid =>
      let current ← getConnectedSsid sdk
      if s.associated then usable sdk s
      else if current = some ssid then associates sdk s
      else
        let now ← currentTimeMillis
        if 12000 < now - s.lastRetry then
          let _ ← tryConnectBySsid sdk ssid
          goesOn { s with lastRetry := now }
        else goesOn s
    | none => if ← hasActiveTransport sdk then return .inr (some true) else goesOn s
  else return .inr none

/-- One last check at the deadline. -/
def lastCheck (sdk : Nat) (targetSsid : Option String) : Android Bool := do
  match targetSsid with
  | some ssid =>
    if (← getConnectedSsid sdk) = some ssid then
      if ← isFullyAssociated ssid then hasActiveTransport sdk else return false
    else return false
  | none => hasActiveTransport sdk

def waitForTransport (n sdk : Nat) (timeoutMs : Nat) (targetSsid : Option String) : Android Bool := do
  let now ← currentTimeMillis
  match ← Program.repeated (transportTurn sdk targetSsid) n { deadline := now + timeoutMs } with
  | some result => return result
  | none => lastCheck sdk targetSsid

def suggestionTurn (sdk : Nat) (targetSsid : String) (s : Waiting) : Turn := do
  if (← currentTimeMillis) < s.deadline then
    let current ← getConnectedSsid sdk
    if s.associated then usable sdk s
    else
      let associated ← (if current = some targetSsid then isFullyAssociated targetSsid else return false)
      if associated then associates sdk s
      else
        let now ← currentTimeMillis
        if suggestionScanIntervalMs < now - s.lastRetry then
          let _ ← startScan
          goesOn { s with lastRetry := now }
        else goesOn s
  else return .inr none

def waitForSuggestionTransport (n sdk : Nat) (timeoutMs : Nat) (targetSsid : String) : Android Bool := do
  let now ← currentTimeMillis
  match ← Program.repeated (suggestionTurn sdk targetSsid) n { deadline := now + timeoutMs } with
  | some result => return result
  | none => if (← getConnectedSsid sdk) = some targetSsid then hasActiveTransport sdk else return false

def associationTurn (targetSsid : String) (deadline : Nat) : Android (Nat ⊕ Bool) := do
  if (← currentTimeMillis) < deadline then
    let associated := fun info : WifiInfo =>
      normalizeSsid info.ssid = some targetSsid ∧ info.completed ∧ info.networkId ≠ -1
    if (← getConnectionInfo).any fun info => associated info then return .inr true
    else if ← sleep 500 then return .inl deadline
    else return .inr false
  else
    let _ ← getConnectionInfo
    return .inr false

def waitForAssociation (n : Nat) (targetSsid : String) (timeoutMs : Nat) : Android Bool := do
  if ← getSystemService .wifi then
    let now ← currentTimeMillis
    Program.repeated (associationTurn targetSsid) n (now + timeoutMs)
  else return false

/-! ### The preferred network -/

def tryConnectViaSuggestion (n sdk : Nat) (ssid : String) : Android Bool := do
  removeAllSuggestions sdk
  if ← addNetworkSuggestions ssid then waitForSuggestionTransport n sdk suggestionAssocTimeoutMs ssid
  else return false

def tryConnectToPreferredSsid (n sdk : Nat) (preferredSsid : String) : Android Bool := do
  if ← getSystemService .wifi then
    if ← ensureWifiEnabled then
      if q ≤ sdk then tryConnectViaSuggestion n sdk preferredSsid
      else if ← tryConnectBySsid sdk preferredSsid then
        waitForTransport n sdk preferredSsidAssocTimeoutMs (some preferredSsid)
      else return false
    else return false
  else return false

def saveCurrentSsid (sdk : Nat) : Android Unit := do
  match ← getConnectedSsid sdk with
  | none => return ()
  | some current =>
    if current = "" ∨ current = "<unknown ssid>" then return ()
    else if startsWith current gnirehtetSsidPrefix then return ()
    else putPreviousSsid current

/-! ### The other fallbacks -/

/-- The end of the loop that waits for one of the two signals. -/
def p2pTurn (deadline : Nat) : Android (Nat ⊕ Bool) := do
  if (← currentTimeMillis) < deadline then
    if ← connected then return .inr true
    else if ← hasP2pInterface then return .inr true
    else if ← sleep pollIntervalMs then return .inl deadline
    else return .inr false
  else
    -- both signals are read once more for the log
    let _ ← connected
    let _ ← hasP2pInterface
    return .inr false

def waitForGroup (n : Nat) : Android Bool := do
  let now ← currentTimeMillis
  Program.repeated p2pTurn n (now + transportPollTimeoutMs)

/-- What happens while the receiver is registered. -/
def createP2pGroup (n : Nat) : Android Bool := do
  if ← initializeChannel then
    createGroup
    match ← await createTimeoutMs with
    | .ok true =>
      if ← succeeded then waitForGroup n else return false
    | .ok false => return false
    | .error _ => return false
  else return false

def tryWifiP2pGroup (n : Nat) : Android Bool := do
  if ← hasWifiDirect then
    if ← getSystemService .wifiP2p then
      registerReceiver
      let created ← createP2pGroup n
      unregisterReceiver
      return created
    else return false
  else return false

def tryLocalOnlyHotspot (n sdk : Nat) : Android Bool := do
  if ← getSystemService .wifi then
    match ← startLocalOnlyHotspot with
    | .ok () =>
      match ← await createTimeoutMs with
      | .ok true => if ← succeeded then waitForTransport n sdk transportPollTimeoutMs none else return false
      | .ok false => return false
      | .error _ => return false
    | .error _ => return false
  else return false

/-- One network that was found in the scan. -/
def tryNetwork (n sdk : Nat) (timeoutMs : Nat) (ssid : String) : Android Bool := do
  if ← tryConnectBySsid sdk ssid then waitForTransport n sdk timeoutMs (some ssid) else return false

def tryPreferred (n sdk : Nat) (preferredSsid : String) : List ScanResult → Android Bool
  | [] => return false
  | result :: rest => do
    if result.ssid = preferredSsid ∧ isOpen result then
      if ← tryNetwork n sdk preferredSsidAssocTimeoutMs result.ssid then return true
      else tryPreferred n sdk preferredSsid rest
    else tryPreferred n sdk preferredSsid rest

def tryStrongest (n sdk : Nat) (best : Option ScanResult) : Android Bool :=
  match best with
  | some result => tryNetwork n sdk openApAssocTimeoutMs result.ssid
  | none => return false

def tryPreferredSsid (n sdk : Nat) (preferredSsid : Option String) (results : List ScanResult) : Android Bool :=
  match preferredSsid with
  | some ssid => tryPreferred n sdk ssid results
  | none => return false

def selectNetwork (n sdk : Nat) (preferredSsid : Option String) (results : List ScanResult) : Android Bool := do
  if ← tryPreferredSsid n sdk preferredSsid results then return true
  else
    let saved ← configuredNetworks
    if ← tryStrongest n sdk (pickStrongest results saved true) then return true
    else tryStrongest n sdk (pickStrongest results saved false)

def tryGenericNetworkSelection (n sdk : Nat) (preferredSsid : Option String) : Android Bool := do
  if ← getSystemService .wifi then
    if ← ensureWifiEnabled then
      match ← getScanResults with
      | .ok (some results) => if results = [] then return false else selectNetwork n sdk preferredSsid results
      | .ok none => return false
      | .error _ => return false
    else return false
  else return false

/-! ### The entry points -/

/-- The chain behind the preferred network. -/
def ensureAnyTransport (n sdk : Nat) (preferredSsid : Option String) : Android Bool := do
  if ← hasActiveTransport sdk then return true
  else if ← tryWifiP2pGroup n then return true
  else
    let hotspot ← (if o ≤ sdk then tryLocalOnlyHotspot n sdk else return false)
    if hotspot then return true else tryGenericNetworkSelection n sdk preferredSsid

def ensureActiveTransport (n sdk : Nat) (preferredSsid : Option String) : Android Bool := do
  match preferredSsid with
  | some ssid =>
    if ← isConnectedToSsid sdk ssid then return true
    else
      saveCurrentSsid sdk
      if ← tryConnectToPreferredSsid n sdk ssid then return true else ensureAnyTransport n sdk preferredSsid
  | none => ensureAnyTransport n sdk preferredSsid

/-- Through the method that reflection found, or not at all. -/
def invokeSave (method : Option SaveMethod) (config : WifiConfiguration) : Android Bool :=
  match method with
  | some .saveConfiguration => do
    match ← saveConfiguration config with
    | .ok saved => return saved
    | .error _ => return false
  | some .updateNetwork => do
    match ← updateNetwork config with
    | .ok id => return 0 ≤ id
    | .error _ => return false
  | none => return false

def reEnableAll (method : Option SaveMethod) : List WifiConfiguration → List String → Android Unit
  | _, [] => return ()
  | configured, part :: rest => do
    match parseInt (trim part) with
    | none => reEnableAll method configured rest
    | some id =>
      match configured.find? (·.networkId = id) with
      | none => reEnableAll method configured rest
      | some config =>
        let saved ← (if config.status = .enabled then return false
          else invokeSave method { config with status := .enabled })
        let _ ← (if saved then return true else enables id false)
        -- the status is set in the list itself
        reEnableAll method
          (configured.map fun c => if c.networkId = id then { c with status := .enabled } else c) rest

def reEnableRememberedNetworks : Android Unit := do
  match (← sharedPreferences).enabledNetworkIds with
  | none => return ()
  | some raw =>
    if raw = "" then return ()
    else
      match ← configuredNetworks with
      | none => return ()
      | some configured =>
        let method ← getMethod
        reEnableAll method configured (splitIds raw)
        removeEnabledNetworkIds

/-- At most three attempts, a second apart; `none` when the wait is interrupted. -/
def lookupNetId (previousSsid : String) : Nat → Android (Option Int32)
  | 0 => return some (-1)
  | attempts + 1 => do
    match ((← configuredNetworks).getD []).find? fun config => normalizeSsid config.ssid == some previousSsid with
    | some config =>
      if config.networkId ≠ -1 then return some config.networkId
      else if attempts = 0 then return some (-1)
      else if ← sleep 1000 then lookupNetId previousSsid attempts
      else return none
    | none =>
      if attempts = 0 then return some (-1)
      else if ← sleep 1000 then lookupNetId previousSsid attempts
      else return none

def switchBack (n : Nat) (previousSsid : String) (netId : Int32) : Android Unit := do
  let enableOk ← enables netId true
  if ← waitForAssociation n previousSsid 15000 then return ()
  else if enableOk then
    let _ ← reconnect
    let _ ← waitForAssociation n previousSsid 15000
  else return ()

def restorePreviousNetwork (n sdk : Nat) : Android Unit := do
  removeAllSuggestions sdk
  match (← sharedPreferences).previousSsid with
  | none => return ()
  | some previousSsid =>
    if ← getSystemService .wifi then
      (if sdk = kitkat then reEnableRememberedNetworks else return ())
      if (← getConnectedSsid sdk) = some previousSsid then removePreviousSsid
      else
        match ← lookupNetId previousSsid 3 with
        | none => removePreviousSsid
        | some netId =>
          if netId = -1 then removePreviousSsid
          else
            switchBack n previousSsid netId
            removePreviousSsid
    else return ()

end ConnectivityFallback
end Gnirehtet.App
