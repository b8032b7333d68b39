import Gnirehtet.Adb.Monitor
import Gnirehtet.Lib.Interaction
import Gnirehtet.Wifi
import Mathlib.Data.List.Sort

/-!
# The Wi-Fi that the relay offers

The relay asks NetworkManager for the interfaces of the host, and the user for what they may be used for. It runs
`nmcli`, prompts on the terminal and sleeps; what comes back is open. An error is what is logged of it, so its text
is left out.
-/

namespace Gnirehtet.Host
open Lib

/-- What `nmcli` left, with the text that `from_utf8_lossy` makes of its bytes. -/
structure Output where
  success : Bool
  stdout : String

inductive Call where
  /-- `Command::new("nmcli").args(args).output()` -/
  | nmcliOutput (args : List String)
  | sleep (ms : Nat)
  | random
  /-- `/etc/hostname` -/
  | readHostname
  /-- `HOSTNAME` -/
  | hostnameVar
  | isTerminal
  | eprint (text : String)
  | readLine

/-- `none` is an error. -/
def Answer : Call → Type
  | .nmcliOutput _ => Option Output
  | .sleep _ | .eprint _ => Unit
  | .random => UInt32
  | .readHostname | .hostnameVar | .readLine => Option String
  | .isTerminal => Bool

abbrev Command (α : Type) := Program Call Answer α

abbrev asks (c : Call) : Command (Answer c) := call c

abbrev nmcliOutput (args : List String) : Command (Option Output) := asks (.nmcliOutput args)
abbrev sleep (ms : Nat) : Command Unit := asks (.sleep ms)
abbrev random : Command UInt32 := asks .random
abbrev readHostname : Command (Option String) := asks .readHostname
abbrev hostnameVar : Command (Option String) := asks .hostnameVar
abbrev isTerminal : Command Bool := asks .isTerminal
abbrev eprint (text : String) : Command Unit := asks (.eprint text)
abbrev readLine : Command (Option String) := asks .readLine

inductive Error where
  | noInterface
  | nmcliNotFound
  | nmcliFailed
  | noUniqueSsid

/-- The rest after `?`. -/
def tried {α β : Type} (result : Except Error α) (rest : α → Command (Except Error β)) : Command (Except Error β) :=
  match result with
  | .ok a => rest a
  | .error e => return .error e

/-! ### Texts -/

def trim (text : String) : String :=
  String.ofList ((text.toList.dropWhile Adb.isWhitespace).reverse.dropWhile Adb.isWhitespace).reverse

def linesOf (text : String) : List String := (lines text.toList).map String.ofList

def startsWith (text p : String) : Bool := p.toList.isPrefixOf text.toList

def toAsciiLowercase (text : String) : String := String.ofList (text.toList.map Char.toLower)

/-- `str::parse::<usize>` of 64 bits -/
def parseUsize (text : String) : Option Nat :=
  let digits := match text.toList with
    | '+' :: rest => rest
    | text => text
  (numeral asciiDigit digits).filter (· < 2 ^ 64)

/-- `{:05x}` -/
def hex5 (n : UInt32) : String := String.ofList ((Nat.toDigits 16 n.toNat).leftpad 5 '0')

/-! ### Interfaces and access points -/

/-- What a successful run of `nmcli` printed. -/
def stdoutOf (output : Option Output) : Option String :=
  match output with
  | some o => if o.success then some o.stdout else none
  | none => none

def deviceStatus : List String := ["-t", "-f", "DEVICE,TYPE,STATE,CONNECTION", "device", "status"]

def parseInterfaces (stdout : String) : List WifiInterface := (linesOf stdout).filterMap parseNmcliDeviceLine

def listWifiInterfaces : Command (List WifiInterface) := do
  match stdoutOf (← nmcliOutput deviceStatus) with
  | some stdout => return parseInterfaces stdout
  | none => return []

def ssidPrefix : String := "gnirehtet-"

/-- An interface that is on a network of a relay is a leftover. -/
def isFree (i : WifiInterface) : Bool := !i.connected || i.currentSsid.any (startsWith · ssidPrefix)

/-- The interface, and whether its connection is lost. -/
def selectInterfaceForHotspot (interfaces : List WifiInterface) : Option (WifiInterface × Bool) :=
  match interfaces.find? isFree with
  | some iface => some (iface, false)
  | none => interfaces.head?.map (·, true)

def rescan (interface : String) : List String := ["device", "wifi", "rescan", "ifname", interface]

def wifiList (fields interface : String) : List String := ["-t", "-f", fields, "device", "wifi", "list", "ifname", interface]

def parseOpenAps (stdout : String) : List OpenAp :=
  ((linesOf stdout).filterMap parseNmcliApLine).insertionSort fun a b => b.signal ≤ a.signal

/-- The strongest first. -/
def scanOpenAps (interface : String) : Command (List OpenAp) := do
  let _ ← nmcliOutput (rescan interface)
  sleep 1500
  match stdoutOf (← nmcliOutput (wifiList "SSID,SIGNAL,SECURITY" interface)) with
  | some stdout => return parseOpenAps stdout
  | none => return []

/-! ### The hotspot -/

structure HotspotConfig where
  ssid : Option String := none
  password : Option String := none
  interface : Option String := none

structure Hotspot where
  conName : String
  ssid : String
  deriving DecidableEq

def nmcli (args : List String) : Command (Except Error Unit) := do
  match ← nmcliOutput args with
  | none => return .error .nmcliNotFound
  | some output => if output.success then return .ok () else return .error .nmcliFailed

def deviceTypes : List String := ["-t", "-f", "DEVICE,TYPE", "device", "status"]

/-- The first interface of the type `wifi`. -/
def parseDetected (stdout : String) : Option String :=
  (linesOf stdout).findSome? fun line =>
    match line.toList.splitOn ':' with
    | device :: kind :: _ => if kind = "wifi".toList then some (String.ofList device) else none
    | _ => none

def detectWifiInterface : Command (Option String) := do
  match stdoutOf (← nmcliOutput deviceTypes) with
  | some stdout => return parseDetected stdout
  | none => return none

def profilePrefix : String := "gnirehtet-dummy-"

def connectionShow : List String := ["-t", "-f", "NAME,DEVICE", "connection", "show"]

/-- The name and the device of a line. -/
def parseProfile (line : String) : String × String :=
  let parts := splitn ':' 2 line.toList
  (trim (String.ofList (parts[0]?.getD [])), trim (String.ofList (parts[1]?.getD [])))

def parseProfiles (stdout : String) : List (String × String) := (linesOf stdout).map parseProfile

def disconnect (device : String) : Command Unit := do
  if device ≠ "" ∧ device ≠ "--" then
    let _ ← nmcliOutput ["device", "disconnect", device]
  else return ()

def removeProfiles : List (String × String) → Command Unit
  | [] => return ()
  | (name, device) :: rest => do
    if startsWith name profilePrefix then
      disconnect device
      let _ ← nmcliOutput ["connection", "delete", name]
      removeProfiles rest
    else removeProfiles rest

def cleanupStaleProfiles : Command Unit := do
  match stdoutOf (← nmcliOutput connectionShow) with
  | some stdout => removeProfiles (parseProfiles stdout)
  | none => return ()

def parseNearby (stdout : String) : List String :=
  ((linesOf stdout).map trim).filter fun ssid => ssid ≠ "" ∧ startsWith ssid ssidPrefix ∧ ssid.utf8ByteSize ≤ 20

def scanNearbyGnirehtetSsids (interface : String) : Command (List String) := do
  let _ ← nmcliOutput (rescan interface)
  sleep 1500
  match stdoutOf (← nmcliOutput (wifiList "SSID" interface)) with
  | some stdout => return parseNearby stdout
  | none => return []

def getHostname : Command String := do
  let file ← readHostname
  if file.any fun s => trim s ≠ "" then return trim (file.getD "")
  else
    let var ← hostnameVar
    if var.any (· ≠ "") then return var.getD "" else return "host"

def fnv1a (bytes : List UInt8) : UInt32 := bytes.foldl (fun hash byte => (hash ^^^ byte.toUInt32) * 16777619) 2166136261

/-- The lowest 20 bits. -/
def suffix (n : UInt32) : String := hex5 (n &&& 0xFFFFF)

def fnv1a5hex (input : String) : String := suffix (fnv1a (Adb.utf8 input))

/-- The attempts that are left, with a random suffix each. -/
def randomSsid (existing : List String) : Nat → Command (Except Error String)
  | 0 => return .error .noUniqueSsid
  | attempts + 1 => do
    let n ← random
    if ssidPrefix ++ suffix n ∈ existing then randomSsid existing attempts else return .ok (ssidPrefix ++ suffix n)

def generateUniqueSsid (interface : String) : Command (Except Error String) := do
  let existing ← scanNearbyGnirehtetSsids interface
  let hostname ← getHostname
  if ssidPrefix ++ fnv1a5hex hostname ∈ existing then randomSsid existing 8
  else return .ok (ssidPrefix ++ fnv1a5hex hostname)

namespace Hotspot

def stop (h : Hotspot) : Command Unit := do
  let _ ← nmcli ["connection", "down", h.conName]
  let _ ← nmcli ["connection", "delete", h.conName]

def add (interface conName ssid : String) : List String :=
  ["connection", "add", "type", "wifi", "ifname", interface, "con-name", conName, "autoconnect", "no", "ssid", ssid]

/-- The properties of the profile, one call for each list. -/
def properties (password : Option String) : List (List String) :=
  [["802-11-wireless.mode", "ap", "802-11-wireless.band", "bg", "802-11-wireless.channel", "6"],
    ["ipv4.method", "shared", "ipv4.addresses", "192.168.12.1/24", "ipv6.method", "disabled"]] ++
    (password.map fun password => ["wifi-sec.key-mgmt", "wpa-psk", "wifi-sec.psk", password]).toList

def modify (conName : String) : List (List String) → Command (Except Error Unit)
  | [] => return .ok ()
  | properties :: rest => do
    tried (← nmcli ("connection" :: "modify" :: conName :: properties)) fun _ => modify conName rest

/-- The profile of a network is made, and brought up at last. -/
def create (interface conName ssid : String) (password : Option String) : Command (Except Error Hotspot) := do
  tried (← nmcli (add interface conName ssid)) fun _ => do
    tried (← modify conName (properties password)) fun _ => do
      tried (← nmcli ["connection", "up", conName]) fun _ => return .ok { conName, ssid }

def chooseSsid (config : HotspotConfig) (interface : String) : Command (Except Error String) :=
  match config.ssid with
  | some ssid => return .ok ssid
  | none => generateUniqueSsid interface

def startOn (pid : Nat) (config : HotspotConfig) (interface : String) : Command (Except Error Hotspot) := do
  cleanupStaleProfiles
  tried (← chooseSsid config interface) fun ssid => do
    let conName := profilePrefix ++ toString pid
    let _ ← nmcli ["connection", "delete", conName]
    create interface conName ssid config.password

def chooseInterface (config : HotspotConfig) : Command (Option String) :=
  match config.interface with
  | some interface => return some interface
  | none => detectWifiInterface

def start (pid : Nat) (config : HotspotConfig) : Command (Except Error Hotspot) := do
  match ← chooseInterface config with
  | some interface => startOn pid config interface
  | none => return .error .noInterface

end Hotspot

/-! ### The setup -/

structure DummyWifiOutcome where
  hotspot : Option Hotspot := none
  ssidForClient : Option String := none

def createHotspot (pid : Nat) (ssid interface : Option String) : Command DummyWifiOutcome := do
  match ← Hotspot.start pid { ssid, interface } with
  | .ok h =>
    sleep 2500
    return { hotspot := some h, ssidForClient := some h.ssid }
  | .error _ => return {}

def answers (question suffix : String) : Command (Option String) := do
  eprint (question ++ suffix)
  return (← readLine).map fun line => toAsciiLowercase (trim line)

def promptDefaultYes (question : String) : Command Bool := do
  match ← answers question " [Y/n] " with
  | some answer => return answer = "" ∨ answer = "y" ∨ answer = "yes"
  | none => return false

def promptDefaultNo (question : String) : Command Bool := do
  match ← answers question " [y/N] " with
  | some answer => return answer = "y" ∨ answer = "yes"
  | none => return false

def eprintLines : List String → Command Unit
  | [] => return ()
  | line :: rest => do
    eprint (line ++ "\n")
    eprintLines rest

def offered (aps : List OpenAp) : List String :=
  ["", "Found " ++ toString aps.length ++ " open Wi-Fi network(s) in range. Instead of taking over the",
    "host's Wi-Fi (which would disconnect it), you can connect the",
    "Android device to one of these and let the relay use it as-is:", ""] ++
    aps.zipIdx.map (fun (ap, i) =>
      "  [" ++ toString (i + 1) ++ "] " ++ ap.ssid ++ " (signal " ++ toString ap.signal.toInt ++ "%)") ++ [""]

/-- The number that is typed, where 0 is none. -/
def chooseAp (aps : List OpenAp) : Command (Option String) := do
  eprint ("Choose [1-" ++ toString aps.length ++ ", or 0 to skip]: ")
  match ← readLine with
  | none => return none
  | some line =>
    match (parseUsize (trim line)).getD 0 with
    | 0 => return none
    | choice + 1 => return aps[choice]?.map (·.ssid)

def offerOpenAp (aps : List OpenAp) : Command (Option String) :=
  match aps with
  | [] => return none
  | first :: rest => do
    if ← isTerminal then
      eprintLines (offered aps)
      if rest = [] then
        if ← promptDefaultYes ("Use '" ++ first.ssid ++ "' as dummy Wi-Fi?") then return some first.ssid else return none
      else chooseAp aps
    else return some first.ssid

/-- The access points that the device may use instead. -/
def reusable (iface : WifiInterface) (aps : List OpenAp) : List OpenAp :=
  aps.filter fun ap => some ap.ssid ≠ iface.currentSsid ∧ ¬ startsWith ap.ssid ssidPrefix

def takeOverQuestion (iface : WifiInterface) : String :=
  "The relay needs to take over '" ++ iface.name ++ "' (currently connected to '" ++
    iface.currentSsid.getD "(unknown SSID)" ++
    "'). This will disconnect the host from that network. Continue?"

/-- The interface is connected to a network of the host. -/
def takeOver (pid : Nat) (requestedSsid : Option String) (force : Bool) (iface : WifiInterface) : Command DummyWifiOutcome := do
  if force then createHotspot pid requestedSsid (some iface.name)
  else if ← isTerminal then
    if ← promptDefaultNo (takeOverQuestion iface) then createHotspot pid requestedSsid (some iface.name) else return {}
  else return {}

/-- Another network is used where there is one. -/
def reuseOrTakeOver (pid : Nat) (requestedSsid : Option String) (force : Bool) (iface : WifiInterface)
    (aps : List OpenAp) : Command DummyWifiOutcome := do
  match requestedSsid.bind fun req => aps.find? (·.ssid = req) with
  | some ap => return { ssidForClient := some ap.ssid }
  | none =>
    match ← offerOpenAp aps with
    | some chosen => return { ssidForClient := some chosen }
    | none => takeOver pid requestedSsid force iface

def setupDummyWifi (pid : Nat) (requestedSsid requestedInterface : Option String) (force : Bool) : Command DummyWifiOutcome := do
  match requestedInterface with
  | some name => createHotspot pid requestedSsid (some name)
  | none =>
    match selectInterfaceForHotspot (← listWifiInterfaces) with
    | none => createHotspot pid requestedSsid none
    | some (iface, false) => createHotspot pid requestedSsid (some iface.name)
    | some (iface, true) =>
      reuseOrTakeOver pid requestedSsid force iface (reusable iface (← scanOpenAps iface.name))

/-- What a command with `--dummy-wifi` does to the host, from its start to its end. -/
def dummyWifiSession (pid : Nat) (requestedSsid requestedInterface : Option String) (force : Bool) : Command Unit := do
  let outcome ← setupDummyWifi pid requestedSsid requestedInterface force
  match outcome.hotspot with
  | some h =>
    h.stop
    -- `Drop`, unless the command ends with `process::exit`
    h.stop
  | none => return ()

end Gnirehtet.Host
