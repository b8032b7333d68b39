import Gnirehtet.Adb.Reconnection

/-!
# The devices that are reported

A packet lists the devices and their states. The callback is called for a device that is listed as
connected and was not in the packet before. A line is taken apart at white space, not at its tab, so
that this goes wrong for serials with blanks in them.
-/

namespace Gnirehtet.Adb
open Lib Relay

/-- What a packet says of one device. -/
structure Device where
  serial : String
  state : String
  serial_tab : '\t' ∉ serial.toList
  serial_line : '\n' ∉ serial.toList
  state_line : '\n' ∉ state.toList

namespace Device

/-- The line of the device, without its line feed. -/
def line (d : Device) : List Char := d.serial.toList ++ '\t' :: d.state.toList

def connected (d : Device) : Option String := if d.state = "device" then some d.serial else none

/-- Taken apart at white space, the line says the same as at its tab. -/
def Plain (d : Device) : Prop :=
  if d.state = "device" then IsWord isWhitespace d.serial.toList
  else ∀ serial rest, words isWhitespace d.line ≠ serial :: "device".toList :: rest

theorem line_feed (d : Device) : '\n' ∉ d.line := by
  have serial := d.serial_line
  have state := d.state_line
  simp [line, serial, state]

theorem deviceSerial_some {line : List Char} {serial : String} :
    deviceSerial line = some serial ↔
      ∃ rest, words isWhitespace line = serial.toList :: "device".toList :: rest := by
  unfold deviceSerial
  constructor
  · intro h
    split at h
    · rename_i first second rest split
      split at h
      · rename_i state
        cases h
        refine ⟨rest, ?_⟩
        rw [split, String.toList_ofList, ← state, String.toList_ofList]
      · cases h
    · cases h
  · rintro ⟨rest, split⟩
    rw [split]
    simp only [String.ofList_toList, if_true]

theorem plain_iff (d : Device) : d.Plain ↔ deviceSerial d.line = d.connected := by
  have cut : words isWhitespace d.line = words isWhitespace d.serial.toList ++ words isWhitespace d.state.toList :=
    words_append_sep _ _ rfl
  unfold Plain connected
  split
  · rename_i state
    rw [state, show words isWhitespace "device".toList = ["device".toList] by decide] at cut
    rw [deviceSerial_some, cut]
    constructor
    · exact fun word => ⟨[], by rw [words_word word]; rfl⟩
    · rintro ⟨rest, split⟩
      cases front : words isWhitespace d.serial.toList with
      | nil =>
        rw [front] at split
        exact absurd (congrArg List.length split) (by simp)
      | cons first others =>
        rw [front] at split
        obtain ⟨rfl, -⟩ := List.cons.inj split
        exact isWord_of_mem (front ▸ List.mem_cons_self)
  · rw [Option.eq_none_iff_forall_ne_some]
    constructor
    · intro never serial h
      obtain ⟨rest, split⟩ := deviceSerial_some.mp h
      exact never _ rest split
    · intro never serial rest split
      refine never (String.ofList serial) (deviceSerial_some.mpr ⟨rest, ?_⟩)
      rw [String.toList_ofList]
      exact split

end Device

/-! ### Packets -/

/-- A function that finds all that another one does finds no more than it when their results agree. -/
theorem filterMap_eq_iff {α β : Type} {f g : α → Option β} {l : List α}
    (finds : ∀ a ∈ l, ∀ b, g a = some b → f a = some b) :
    l.filterMap f = l.filterMap g ↔ ∀ a ∈ l, f a = g a := by
  refine ⟨fun same => ?_, List.filterMap_congr⟩
  have le {l : List α} (finds : ∀ a ∈ l, ∀ b, g a = some b → f a = some b) :
      (l.filterMap g).length ≤ (l.filterMap f).length := by
    simp only [List.length_filterMap_eq_countP]
    apply List.countP_mono_left
    intro a member found
    obtain ⟨b, found⟩ := Option.isSome_iff_exists.mp found
    rw [finds a member b found]
    rfl
  induction l with
  | nil => simp
  | cons first rest ih =>
    have later := fun a member => finds a (List.mem_cons_of_mem first member)
    cases found : g first with
    | some b =>
      have here := finds first List.mem_cons_self b found
      rw [List.filterMap_cons_some here, List.filterMap_cons_some found] at same
      exact List.forall_mem_cons.mpr ⟨here.trans found.symm, ih later (List.cons.inj same).2⟩
    | none =>
      cases extra : f first with
      | none =>
        rw [List.filterMap_cons_none extra, List.filterMap_cons_none found] at same
        exact List.forall_mem_cons.mpr ⟨extra.trans found.symm, ih later same⟩
      | some b =>
        rw [List.filterMap_cons_some extra, List.filterMap_cons_none found] at same
        have longer := congrArg List.length same
        rw [List.length_cons] at longer
        have := le later
        omega

def packetText (devices : List Device) : String := String.ofList (devices.flatMap fun d => d.line ++ ['\n'])

/-- A packet of the daemon: four hexadecimal digits of length, and the lines of the devices. -/
structure DevicePacket where
  devices : List Device
  distinct : (devices.map Device.serial).Nodup
  digits : List UInt8
  digits_length : digits.length = 4
  digits_value : ∃ values, digits.mapM hexDigit = some values ∧ hexValue values = (utf8 (packetText devices)).length
  small : 4 + (utf8 (packetText devices)).length ≤ bufferSize

namespace DevicePacket

def text (p : DevicePacket) : String := packetText p.devices

def bytes (p : DevicePacket) : List UInt8 := p.digits ++ utf8 p.text

def connected (p : DevicePacket) : List String := p.devices.filterMap Device.connected

def Plain (p : DevicePacket) : Prop := ∀ d ∈ p.devices, d.Plain

theorem lines_text (devices : List Device) :
    lines (packetText devices).toList = devices.map fun d => stripReturn d.line := by
  rw [packetText, String.toList_ofList]
  induction devices with
  | nil => rfl
  | cons d rest ih =>
    rw [List.flatMap_cons, List.append_assoc, List.singleton_append, lines_cons d.line_feed, ih, List.map_cons]

theorem deviceSerial_stripReturn (line : List Char) : deviceSerial (stripReturn line) = deviceSerial line := by
  rw [deviceSerial, words_stripReturn rfl]
  rfl

theorem parseConnectedDevices_text (p : DevicePacket) :
    parseConnectedDevices p.text = p.devices.filterMap fun d => deviceSerial d.line := by
  rw [parseConnectedDevices, text, lines_text, List.filterMap_map]
  exact List.filterMap_congr fun d _ => deviceSerial_stripReturn d.line

theorem plain_iff (p : DevicePacket) : p.Plain ↔ parseConnectedDevices p.text = p.connected := by
  rw [parseConnectedDevices_text, connected]
  constructor
  · exact fun plain => List.filterMap_congr fun d member => (d.plain_iff).mp (plain d member)
  · intro same
    -- every serial that is found is a word, so those that are listed are
    have finds : ∀ d ∈ p.devices, ∀ serial, d.connected = some serial → deviceSerial d.line = some serial := by
      intro d member serial listed
      have word : IsWord isWhitespace serial.toList := by
        have found : serial ∈ p.devices.filterMap Device.connected := List.mem_filterMap.mpr ⟨d, member, listed⟩
        rw [← same] at found
        obtain ⟨other, -, here⟩ := List.mem_filterMap.mp found
        obtain ⟨rest, split⟩ := Device.deviceSerial_some.mp here
        exact isWord_of_mem (split ▸ List.mem_cons_self)
      rw [← listed, ← d.plain_iff]
      unfold Device.connected at listed
      split at listed
      · rename_i state
        cases listed
        rw [Device.Plain, if_pos state]
        exact word
      · cases listed
    exact fun d member => (d.plain_iff).mpr ((filterMap_eq_iff finds).mp same d member)

theorem utf8_ofList (text : List Char) : utf8 (String.ofList text) = text.flatMap String.utf8EncodeChar := by
  rw [utf8, String.toByteArray_ofList, List.utf8Encode, List.data_toByteArray, List.toList_toArray]

theorem utf8EncodeChar_ascii {b : UInt8} (ascii : b < 128) : String.utf8EncodeChar (Char.ofUInt8 b) = [b] := by
  have value : (Char.ofUInt8 b).val.toNat = b.toNat := UInt8.toNat_toUInt32 b
  have small : b.toNat < 128 := ascii
  rw [String.utf8EncodeChar, value, if_pos (by omega), UInt8.ofNat_toNat]

theorem fromUtf8_ascii {data : List UInt8} (ascii : ∀ b ∈ data, b < 128) : ∃ s, fromUtf8 data = some s := by
  have bytes : utf8 (String.ofList (data.map Char.ofUInt8)) = data := by
    rw [utf8_ofList, List.flatMap_map]
    induction data with
    | nil => rfl
    | cons b rest ih =>
      obtain ⟨first, later⟩ := List.forall_mem_cons.mp ascii
      rw [List.flatMap_cons, utf8EncodeChar_ascii first, ih later]
      rfl
  rw [← bytes, fromUtf8_utf8]
  exact ⟨_, rfl⟩

theorem hexDigit_ascii {b : UInt8} {value : Nat} (h : hexDigit b = some value) : b < 128 ∧ b ≠ 43 := by
  refine ⟨?_, by rintro rfl; cases h⟩
  have bound {c : UInt8} (le : b ≤ c) (small : c < 128) : b < 128 := UInt8.lt_of_le_of_lt le small
  unfold hexDigit at h
  split at h
  · rename_i digit
    exact bound digit.2 (by decide)
  · split at h
    · rename_i digit
      exact bound digit.2 (by decide)
    · split at h
      · rename_i digit
        exact bound digit.2 (by decide)
      · cases h

theorem hexDigit_of_mapM {digits : List UInt8} {values : List Nat} (value : digits.mapM hexDigit = some values) :
    ∀ b ∈ digits, ∃ v, hexDigit b = some v := by
  induction digits generalizing values with
  | nil => simp
  | cons first rest ih =>
    rw [List.mapM_cons, Option.bind_eq_bind, Option.bind_eq_some_iff] at value
    obtain ⟨v, here, later⟩ := value
    obtain ⟨others, later, -⟩ := Option.bind_eq_some_iff.mp later
    exact List.forall_mem_cons.mpr ⟨⟨v, here⟩, ih later⟩

/-- Digits have no sign, so all of them count. -/
theorem fromStrRadix16_digits {digits : List UInt8} {values : List Nat} (some : digits ≠ [])
    (value : digits.mapM hexDigit = .some values) (small : hexValue values < 2 ^ 32) :
    fromStrRadix16 digits = .some (hexValue values) := by
  obtain ⟨first, rest, rfl⟩ := List.exists_cons_of_ne_nil some
  obtain ⟨v, here⟩ := hexDigit_of_mapM value first List.mem_cons_self
  unfold fromStrRadix16
  split
  · rename_i sign
    exact absurd (List.cons.inj sign).1 (hexDigit_ascii here).2
  · simp only [some, if_false, value, small, if_true]

theorem parseLength_digits {digits : List UInt8} {values : List Nat} (four : digits.length = 4)
    (value : digits.mapM hexDigit = some values) (small : hexValue values < 2 ^ 32) :
    parseLength digits = .ok (hexValue values) := by
  obtain ⟨s, decoded⟩ := fromUtf8_ascii fun b member =>
    let ⟨_, found⟩ := hexDigit_of_mapM value b member
    (hexDigit_ascii found).1
  have some : digits ≠ [] := List.length_pos_iff.mp (by omega)
  simp only [parseLength, four, if_true, decoded, fromStrRadix16_digits some value small]

theorem decodes (p : DevicePacket) : Decodes p.bytes p.text := by
  obtain ⟨values, digits, value⟩ := p.digits_value
  have small := p.small
  have four := p.digits_length
  have length : p.bytes.length = 4 + (utf8 p.text).length := by rw [bytes, List.length_append, four]
  refine ⟨by omega, ?_, ?_, length ▸ small⟩
  · have parsed := parseLength_digits four digits (by rw [value]; rw [bufferSize] at small; omega)
    rw [length, bytes, List.take_left' four, parsed, value, Nat.add_sub_cancel_left]
    rfl
  · rw [bytes, List.drop_left' four, fromUtf8_utf8]

theorem packets (packets : List DevicePacket) : Packets (packets.flatMap bytes) (packets.map text) := by
  induction packets with
  | nil => exact .nil
  | cons p rest ih => exact .cons p.decodes ih

/-! ### What the callback is to be called with -/

/-- The devices that appear in each packet, after one that listed the previous devices. -/
def appearances (previous : List String) : List DevicePacket → List String
  | [] => []
  | p :: rest => p.connected.filter (· ∉ previous) ++ appearances p.connected rest

/-- Every packet that is plain reports the devices that appear in it. -/
theorem reported_run {m : AdbMonitor} (all : m.usbOnly = false) {packets : List DevicePacket}
    (plain : ∀ p ∈ packets, p.Plain) :
    (run AdbMonitor.handlePacket m (packets.map text)).reported =
      m.reported ++ appearances m.connectedDevices packets := by
  induction packets generalizing m with
  | nil => exact (List.append_nil _).symm
  | cons p rest ih =>
    obtain ⟨first, later⟩ := List.forall_mem_cons.mp plain
    have parsed := p.plain_iff.mp first
    have reported : (m.handlePacket p.text).reported =
        m.reported ++ p.connected.filter (· ∉ m.connectedDevices) := by
      simp only [AdbMonitor.handlePacket, all, Bool.false_eq_true, if_false, parsed]
    have connected : (m.handlePacket p.text).connectedDevices = p.connected := by
      simp only [AdbMonitor.handlePacket, all, Bool.false_eq_true, if_false, parsed]
    rw [List.map_cons, run_cons, ih (m := m.handlePacket p.text) all later, reported, connected, List.append_assoc]
    rfl

/-- A session on the packets, however they are cut, calls the callback for what they parse to. -/
theorem session_reported (outputs : List (Option String)) {packets : List DevicePacket} {stream : TcpStream}
    (accepts : stream.accepts = true) (sent : stream.bytes = Connection.okay ++ packets.flatMap bytes) :
    ∃ r, (AdbMonitor.starting outputs false).Ended stream r ∧ r.2.monitor.reported =
      (run AdbMonitor.handlePacket (.starting outputs false) (packets.map text)).reported := by
  have sized : (AdbMonitor.starting outputs false).buf.buf.length = bufferSize := List.length_replicate
  have observed : (AdbMonitor.starting outputs false).Observes stream (some true) (packets.map text) := by
    rw [AdbMonitor.observes_iff sized]
    have bytes : stream.bytes = Connection.okay ++ packets.flatMap bytes ++ [] := by rw [List.append_nil, sent]
    exact .tracked accepts bytes (DevicePacket.packets packets) stuck_nil
  obtain ⟨r, ended, -, handled⟩ := observed
  obtain ⟨buf, monitor, -⟩ := ended.monitor sized
  rw [handled] at monitor
  exact ⟨r, ended, by rw [monitor]; rfl⟩

end DevicePacket

/-- In every session whose packets are of a given set, the callback is called for each device that
appears, and for nothing else, exactly when all packets of the set are plain. -/
theorem reports_appearances_iff (outputs : List (Option String)) (sent : Set DevicePacket) :
    (∀ p ∈ sent, p.Plain) ↔
      ∀ (packets : List DevicePacket) (stream : TcpStream), (∀ p ∈ packets, p ∈ sent) → stream.accepts = true →
        stream.bytes = Connection.okay ++ packets.flatMap DevicePacket.bytes →
        ∃ r, (AdbMonitor.starting outputs false).Ended stream r ∧
          r.2.monitor.reported = DevicePacket.appearances [] packets := by
  constructor
  · intro plain packets stream members accepts bytes
    obtain ⟨r, ended, reported⟩ := DevicePacket.session_reported outputs accepts bytes
    refine ⟨r, ended, ?_⟩
    rw [reported, DevicePacket.reported_run rfl fun p member => plain p (members p member)]
    rfl
  · intro right p member
    have single : (AdbMonitor.stream (Connection.okay ++ [p].flatMap DevicePacket.bytes)).bytes =
        Connection.okay ++ [p].flatMap DevicePacket.bytes := AdbMonitor.bytes_stream _
    obtain ⟨r, ended, reported⟩ := right [p] _ (by simpa using member) rfl single
    obtain ⟨r', ended', parsed⟩ := DevicePacket.session_reported outputs rfl single
    rw [ended'.unique ended, reported] at parsed
    rw [p.plain_iff]
    simpa [DevicePacket.appearances, AdbMonitor.handlePacket, AdbMonitor.starting, AdbMonitor.new,
      AdbMonitor.setUsbOnly] using parsed.symm

/-- What the daemon lists for a device without a serial number. -/
def noSerialNumber : Device where
  serial := "(no serial number)"
  state := "device"
  serial_tab := by decide
  serial_line := by decide
  state_line := by decide

theorem length_noSerialNumber : (utf8 (packetText [noSerialNumber])).length = 26 := by
  rw [packetText, DevicePacket.utf8_ofList]
  decide

def noSerialNumberPacket : DevicePacket where
  devices := [noSerialNumber]
  distinct := by simp
  digits := [48, 48, 49, 97]
  digits_length := rfl
  digits_value := ⟨[0, 0, 1, 10], rfl, length_noSerialNumber.symm⟩
  small := by rw [length_noSerialNumber]; decide

/-- It is connected, and the callback is not called for it. -/
theorem noSerialNumber_not_reported :
    ∃ r, (AdbMonitor.starting [] false).Ended (AdbMonitor.stream (Connection.okay ++ noSerialNumberPacket.bytes)) r ∧
      r.2.monitor.reported = [] ∧ DevicePacket.appearances [] [noSerialNumberPacket] = ["(no serial number)"] := by
  have single : (AdbMonitor.stream (Connection.okay ++ noSerialNumberPacket.bytes)).bytes =
      Connection.okay ++ [noSerialNumberPacket].flatMap DevicePacket.bytes := by
    rw [AdbMonitor.bytes_stream, List.flatMap_singleton]
  obtain ⟨r, ended, reported⟩ := DevicePacket.session_reported [] rfl single
  have parsed : parseConnectedDevices noSerialNumberPacket.text = [] := by decide
  refine ⟨r, ended, ?_, by decide⟩
  rw [reported, List.map_singleton, run_cons, run_nil, AdbMonitor.handlePacket, parsed]
  rfl

end Gnirehtet.Adb
