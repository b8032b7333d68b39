import Gnirehtet.Adb.Devices

/-!
# When a connection counts as closed

A read that finds nothing is the end of the stream, or a read into a full buffer. The response is read
without looking at it, so that the end of the stream does not stop the loop. A packet is read until it is
complete, so that one larger than the buffer is taken for the end of the stream.
-/

namespace Gnirehtet.Adb
open Lib Relay Relation

namespace Connection

/-! ### The response -/

/-- After finitely many reads, four bytes are compared or the stream has failed before. -/
def Responds (c : Connection) : Prop :=
  ∃ fuel r, c.consumeOkay fuel = some r ∧
    (4 ≤ c.bytes.length → ∃ c', r = .ok (decide (c.bytes.take 4 = okay), c')) ∧
    (c.bytes.length < 4 → ∃ e c', r = .error (e, c'))

/-- Only a failure of the stream replaces the four bytes; its end does not. -/
theorem responds_iff {c : Connection} (sized : c.Sized) :
    c.Responds ↔ 4 ≤ c.bytes.length ∨ c.stream.ending = .error := by
  rw [← consumeOkay_ends_iff sized]
  constructor
  · rintro ⟨fuel, r, ends, -⟩
    exact ⟨fuel, r, ends⟩
  · rintro ⟨fuel, r, ends⟩
    refine ⟨fuel, r, ends, fun enough => ?_, fun short => ?_⟩
    · cases r with
      | error failure =>
        have := (consumeOkay_error ends).1
        omega
      | ok found =>
        obtain ⟨-, -, answer, -⟩ := consumeOkay_ok ends
        have same : found.1 = decide (c.bytes.take 4 = okay) := by
          rw [Bool.eq_iff_iff, decide_eq_true_iff]
          exact answer
        exact ⟨found.2, by rw [← same]⟩
    · cases r with
      | error failure => exact ⟨_, _, rfl⟩
      | ok found =>
        have := (consumeOkay_ok ends).1
        omega

/-- The connection of a new monitor. -/
def opened (bytes : List UInt8) : Connection where
  buf := .new bufferSize
  stream := AdbMonitor.stream bytes

theorem sized_opened (bytes : List UInt8) : (opened bytes).Sized := List.length_replicate

theorem bytes_opened (bytes : List UInt8) : (opened bytes).bytes = bytes := AdbMonitor.bytes_stream bytes

theorem responds_okay : (opened okay).Responds :=
  (responds_iff (sized_opened okay)).mpr (.inl (by rw [bytes_opened]; decide))

/-- A daemon that closes the connection at once keeps the loop busy. -/
theorem closed_at_once_spins : (opened []).stream.ending = .eof ∧ ¬ (opened []).Responds := by
  refine ⟨rfl, ?_⟩
  rintro ⟨fuel, r, ends, -⟩
  rcases (consumeOkay_ends_iff (sized_opened [])).mp ⟨fuel, r, ends⟩ with enough | failing
  · rw [bytes_opened] at enough
    exact absurd enough (by decide)
  · cases failing

end Connection

/-! ### The length of a packet -/

theorem hexDigit_lt {b : UInt8} {d : Nat} (h : hexDigit b = some d) : d < 16 := by
  unfold hexDigit at h
  split at h
  · rename_i digit
    have := UInt8.le_iff_toNat_le.mp digit.2
    cases h
    exact Nat.lt_of_le_of_lt (Nat.sub_le_sub_right this 48) (by decide)
  · split at h
    · rename_i small
      have := UInt8.le_iff_toNat_le.mp small.2
      cases h
      exact Nat.lt_of_le_of_lt (Nat.sub_le_sub_right this 87) (by decide)
    · split at h
      · rename_i capital
        have := UInt8.le_iff_toNat_le.mp capital.2
        cases h
        exact Nat.lt_of_le_of_lt (Nat.sub_le_sub_right this 55) (by decide)
      · cases h

theorem hexValue_lt {digits : List Nat} (small : ∀ d ∈ digits, d < 16) : hexValue digits < 16 ^ digits.length := by
  induction digits using List.reverseRecOn with
  | nil => exact Nat.one_pos
  | append_singleton front last ih =>
    have front := ih fun d member => small d (List.mem_append_left _ member)
    have last := small last (by simp)
    rw [hexValue, List.foldl_append, List.length_append, List.length_singleton, Nat.pow_succ]
    unfold hexValue at front
    simp only [List.foldl_cons, List.foldl_nil]
    omega

theorem length_of_mapM {digits : List UInt8} {values : List Nat} (h : digits.mapM hexDigit = some values) :
    values.length = digits.length ∧ ∀ d ∈ values, d < 16 := by
  induction digits generalizing values with
  | nil =>
    cases h
    simp
  | cons first rest ih =>
    rw [List.mapM_cons, Option.bind_eq_bind, Option.bind_eq_some_iff] at h
    obtain ⟨value, here, h⟩ := h
    obtain ⟨others, later, h⟩ := Option.bind_eq_some_iff.mp h
    cases h
    obtain ⟨length, small⟩ := ih later
    refine ⟨by rw [List.length_cons, List.length_cons, length], ?_⟩
    exact List.forall_mem_cons.mpr ⟨hexDigit_lt here, small⟩

theorem fromStrRadix16_some {src : List UInt8} {n : Nat} (h : fromStrRadix16 src = some n) :
    ∃ (digits : List UInt8) (values : List Nat), digits.length ≤ src.length ∧
      digits.mapM hexDigit = some values ∧ hexValue values = n := by
  have value {digits : List UInt8} {values : List Nat} (read : digits.mapM hexDigit = some values)
      (short : digits.length ≤ src.length) (h : (if hexValue values < 2 ^ 32 then some (hexValue values) else none) =
        some n) : ∃ (digits : List UInt8) (values : List Nat), digits.length ≤ src.length ∧
          digits.mapM hexDigit = some values ∧ hexValue values = n := by
    split at h
    · exact ⟨digits, values, short, read, Option.some.inj h⟩
    · cases h
  unfold fromStrRadix16 at h
  split at h
  · simp only [Option.ite_none_left_eq_some] at h
    obtain ⟨-, h⟩ := h
    split at h
    · rename_i read
      exact value read (by simp) h
    · cases h
  · simp only [Option.ite_none_left_eq_some] at h
    obtain ⟨-, h⟩ := h
    split at h
    · rename_i read
      exact value read (Nat.le_refl _) h
    · cases h

/-- Four characters state less than 64 KiB, which the check of the length lets pass. -/
theorem parseLength_lt {data : List UInt8} {n : Nat} (h : parseLength data = .ok n) : n < 65536 := by
  unfold parseLength at h
  split at h
  · rename_i four
    split at h
    · cases h
    · split at h
      · cases h
      · rename_i parsed
        cases h
        obtain ⟨digits, values, short, read, rfl⟩ := fromStrRadix16_some parsed
        obtain ⟨length, small⟩ := length_of_mapM read
        calc hexValue values
          _ < 16 ^ values.length := hexValue_lt small
          _ ≤ 16 ^ 4 := Nat.pow_le_pow_right (by decide) (by omega)
  · cases h

/-! ### Packets of any length -/

/-- The header counts the bytes behind it, whatever they are. -/
structure Framed (frame : List UInt8) : Prop where
  long : 4 ≤ frame.length
  length : parseLength (frame.take 4) = .ok (frame.length - 4)

/-- The text of a packet, when it is one. -/
def content (frame : List UInt8) : Option String := fromUtf8 (frame.drop 4)

theorem Framed.small {frame : List UInt8} (h : Framed frame) : frame.length - 4 ≤ bufferSize := by
  have := parseLength_lt h.length
  rw [bufferSize]
  omega

theorem Framed.decodes {frame : List UInt8} {text : String} (h : Framed frame)
    (read : content frame = some text) (fits : frame.length ≤ bufferSize) : Decodes frame text :=
  ⟨h.long, h.length, read, fits⟩

namespace Connection

/-- The next packet is returned, or rejected for what is in it or for its length, and the end of the
stream is reported for nothing else. -/
def Live (c : Connection) : Prop :=
  (∀ frame rest, Framed frame → c.bytes = frame ++ rest →
    (∃ text c', c.nextPacket = .ok (text, c') ∧ content frame = some text ∧ c'.bytes = rest) ∨
    (∃ c', c.nextPacket = .error (.textNotUtf8, c') ∧ content frame = none) ∨
    ∃ len c', c.nextPacket = .error (.packetTooBig len, c')) ∧
  ∀ c', c.nextPacket = .error (.unexpectedEof, c') → c'.stream.bytes = [] ∧ c'.stream.ending = .eof

/-- The connections after packets that have been returned. -/
def Reaches : Connection → Connection → Prop := ReflTransGen fun a b => ∃ text, a.nextPacket = .ok (text, b)

/-- All packets fit in the buffer, up to the first that is no text. -/
def Fit : List (List UInt8) → Prop
  | [] => True
  | frame :: later => frame.length ≤ bufferSize ∧ ((content frame).isSome → Fit later)

theorem readFrom_error {c : Connection} {e : AdbError} (h : c.readFrom = .error e) : e = .stream := by
  cases reads : c.stream.read c.buf.room with
  | ok found =>
    rw [readFrom, reads, ok_bind] at h
    cases h
  | error failure =>
    rw [readFrom, reads] at h
    cases h
    unfold TcpStream.read at reads
    split at reads
    · split at reads
      · cases reads
      · cases reads
        rfl
    · cases reads

/-- Without bytes a packet is not there, and the end of the stream is reported when it has ended. -/
theorem nextPacket_nil {c : Connection} (none : c.bytes = []) :
    ∃ e, c.nextPacket = .error (e, c) ∧ (e = .unexpectedEof → c.stream.ending = .eof) := by
  obtain ⟨empty, ended⟩ := List.append_eq_nil_iff.mp none
  have reads := readPacket_nil empty
  cases fills : c.fillBufferFrom with
  | ok filled =>
    have := (fillBufferFrom_spec fills).2.2
    rw [ended] at this
    cases this
  | error e =>
    refine ⟨e, nextPacket_stuck reads fills, ?_⟩
    rintro rfl
    cases ending : c.stream.ending with
    | eof => rfl
    | error =>
      obtain ⟨failure, failed⟩ := readFrom_error_iff.mpr ⟨ended, ending⟩
      rw [fillBufferFrom, failed, readFrom_error failed] at fills
      cases fills

/-- A packet that fits is returned, or rejected when it is no text. -/
theorem nextPacket_fit {c : Connection} {frame rest : List UInt8} (h : Framed frame) (sized : c.Sized)
    (fits : frame.length ≤ bufferSize) (front : c.bytes = frame ++ rest) :
    (∃ text c', c.nextPacket = .ok (text, c') ∧ content frame = some text ∧ c'.bytes = rest ∧ c'.Sized) ∨
    (∃ c', c.nextPacket = .error (.textNotUtf8, c') ∧ content frame = none) := by
  cases read : content frame with
  | some text =>
    obtain ⟨c', next, left, size⟩ := nextPacket_whole (h.decodes read fits) sized front
    exact .inl ⟨text, c', next, rfl, left, size⟩
  | none =>
    obtain ⟨a, same, front, size, whole | ⟨full, -, short⟩⟩ := nextPacket_fills h.length h.small sized front
    · obtain ⟨more, buffered⟩ := whole
      have rejects : readPacket a.buf = .error .textNotUtf8 := by
        rw [readPacket, ← buffered, availablePacketLength_whole h.long h.length h.small]
        simp only [ok_bind, List.take_left', binaryToString]
        rw [content] at read
        rw [read]
        rfl
      refine .inr ⟨a, ?_, rfl⟩
      rw [same, nextPacket, rejects]
    · rw [ByteBuffer.length_peek] at short
      rw [ByteBuffer.room, size] at full
      omega

/-- The buffer is full before all of the packet is in it, so that a read finds nothing. -/
theorem nextPacket_big {c : Connection} {frame rest : List UInt8} (h : Framed frame) (sized : c.Sized)
    (big : bufferSize < frame.length) (front : c.bytes = frame ++ rest) :
    ∃ c', c.nextPacket = .error (.unexpectedEof, c') ∧ c'.stream.bytes ≠ [] := by
  obtain ⟨a, same, front, size, whole | ⟨full, part, short⟩⟩ := nextPacket_fills h.length h.small sized front
  · have inside := whole.length_le
    have head := a.buf.head_le
    rw [ByteBuffer.length_peek] at inside
    rw [size] at head
    omega
  · have left : a.stream.bytes ≠ [] := by
      intro none
      rw [bytes, none, List.append_nil] at front
      rw [front, List.length_append] at short
      omega
    obtain ⟨found, stream, reads⟩ : ∃ found stream, a.stream.read a.buf.room = .ok (found, stream) := by
      cases reads : a.stream.read a.buf.room with
      | ok found => exact ⟨_, _, rfl⟩
      | error e => exact absurd ((TcpStream.read_error_iff _ _).mp ⟨e, reads⟩).1 left
    have nothing : (a.buf.readFrom found).2 = false := by
      rw [Bool.eq_false_iff, Ne, ByteBuffer.readFrom_some]
      omega
    have stuck : a.fillBufferFrom = .error .unexpectedEof := by
      rw [fillBufferFrom, readFrom, reads, ok_bind]
      simp only [nothing]
      rfl
    exact ⟨a, same.trans (nextPacket_stuck (readPacket_part h.length h.small part short) stuck), left⟩

theorem live_nil {c : Connection} (none : c.bytes = []) : c.Live := by
  obtain ⟨e, next, ended⟩ := nextPacket_nil none
  refine ⟨fun frame rest framed front => ?_, fun c' failed => ?_⟩
  · have long := framed.long
    rw [none] at front
    rw [(List.append_eq_nil_iff.mp front.symm).1] at long
    contradiction
  · rw [next] at failed
    cases failed
    exact ⟨(List.append_eq_nil_iff.mp none).2, ended rfl⟩

theorem live_iff {c : Connection} {frame rest : List UInt8} (h : Framed frame) (sized : c.Sized)
    (front : c.bytes = frame ++ rest) : c.Live ↔ frame.length ≤ bufferSize := by
  constructor
  · intro live
    by_contra big
    obtain ⟨c', failed, left⟩ := nextPacket_big h sized (Nat.lt_of_not_le big) front
    exact left (live.2 c' failed).1
  · intro fits
    have next := nextPacket_fit h sized fits front
    refine ⟨fun frame' rest' framed front' => ?_, fun c' failed => ?_⟩
    · obtain ⟨rfl, rfl⟩ := packet_unique h.long framed.long h.length framed.length (front.symm.trans front')
      rcases next with ⟨text, c', next, read, left, -⟩ | rejected
      · exact .inl ⟨text, c', next, read, left⟩
      · exact .inr (.inl rejected)
    · rcases next with ⟨text, c', next, -⟩ | ⟨c', next, -⟩ <;> rw [failed] at next <;> cases next

/-- Over a stream of packets, a live connection is never taken for a closed one exactly when all packets
that are reached have room for their header in the buffer. -/
theorem reaches_live_iff {c : Connection} (sized : c.Sized) {frames : List (List UInt8)}
    (framed : ∀ frame ∈ frames, Framed frame) (packets : c.bytes = frames.flatten) :
    (∀ a, c.Reaches a → a.Live) ↔ Fit frames := by
  induction frames generalizing c with
  | nil =>
    refine ⟨fun _ => trivial, fun _ a reaches => ?_⟩
    rcases reaches.cases_head with rfl | ⟨b, ⟨text, next⟩, -⟩
    · exact live_nil packets
    · obtain ⟨e, failed, -⟩ := nextPacket_nil packets
      rw [failed] at next
      cases next
  | cons frame later ih =>
    obtain ⟨first, others⟩ := List.forall_mem_cons.mp framed
    rw [List.flatten_cons] at packets
    have here := live_iff first sized packets
    -- what holds behind the packet, when it is returned
    have behind {text : String} {b : Connection} (next : c.nextPacket = .ok (text, b))
        (fits : frame.length ≤ bufferSize) : (content frame).isSome ∧ ((∀ a, b.Reaches a → a.Live) ↔ Fit later) := by
      rcases nextPacket_fit first sized fits packets with ⟨text', c', found, read, left, size⟩ | ⟨c', failed, -⟩
      · rw [found] at next
        cases next
        exact ⟨by rw [read]; rfl, ih size others left⟩
      · rw [failed] at next
        cases next
    constructor
    · intro live
      have fits := here.mp (live c .refl)
      refine ⟨fits, fun text => ?_⟩
      rcases nextPacket_fit first sized fits packets with ⟨_, b, next, -⟩ | ⟨_, -, none⟩
      · exact (behind next fits).2.mp fun a reaches => live a (.head ⟨_, next⟩ reaches)
      · rw [none] at text
        cases text
    · rintro ⟨fits, fit⟩ a reaches
      rcases reaches.cases_head with rfl | ⟨b, ⟨text, next⟩, reaches⟩
      · exact here.mpr fits
      · obtain ⟨text, live⟩ := behind next fits
        exact live.mpr (fit text) a reaches

theorem reaches_live_noSerialNumber : Fit [noSerialNumberPacket.bytes] ∧
    ∀ a, (opened noSerialNumberPacket.bytes).Reaches a → a.Live := by
  have decodes := noSerialNumberPacket.decodes
  have framed : ∀ frame ∈ [noSerialNumberPacket.bytes], Framed frame :=
    List.forall_mem_singleton.mpr ⟨decodes.long, decodes.length⟩
  have packets : (opened noSerialNumberPacket.bytes).bytes = [noSerialNumberPacket.bytes].flatten := by
    rw [bytes_opened, List.flatten_singleton]
  have fit : Fit [noSerialNumberPacket.bytes] := ⟨decodes.fits, fun _ => trivial⟩
  exact ⟨fit, (reaches_live_iff (sized_opened _) framed packets).mpr fit⟩

/-- A packet of 65533 bytes, as its header says. -/
def bigPacket : List UInt8 := [102, 102, 102, 100] ++ List.replicate 65533 97

theorem take_bigPacket : bigPacket.take 4 = [102, 102, 102, 100] := List.take_left' (List.length_cons ..)

theorem drop_bigPacket : bigPacket.drop 4 = List.replicate 65533 97 := List.drop_left' (List.length_cons ..)

theorem length_bigPacket : bigPacket.length = 65537 := by
  rw [bigPacket, List.length_append, List.length_replicate]
  rfl

theorem framed_bigPacket : Framed bigPacket := by
  refine ⟨by rw [length_bigPacket]; decide, ?_⟩
  rw [length_bigPacket, take_bigPacket]
  exact DevicePacket.parseLength_digits rfl (show _ = some [15, 15, 15, 13] from rfl) (by decide)

/-- It is a text whose length is let pass, and the buffer is full before all of it is there. -/
theorem big_packet_ends : Framed bigPacket ∧ (∃ text, content bigPacket = some text) ∧
    ∃ c, (opened bigPacket).nextPacket = .error (.unexpectedEof, c) ∧ c.stream.bytes ≠ [] := by
  refine ⟨framed_bigPacket, ?_, ?_⟩
  · rw [content, drop_bigPacket]
    refine DevicePacket.fromUtf8_ascii fun b member => ?_
    rw [List.eq_of_mem_replicate member]
    decide
  · have big : bufferSize < bigPacket.length := by
      rw [length_bigPacket]
      decide
    have packets : (opened bigPacket).bytes = bigPacket ++ [] := by rw [bytes_opened, List.append_nil]
    exact nextPacket_big framed_bigPacket (sized_opened _) big packets

end Connection

end Gnirehtet.Adb
