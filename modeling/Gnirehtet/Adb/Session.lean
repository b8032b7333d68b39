import Gnirehtet.Lib.Run
import Gnirehtet.Adb.Monitor

/-!
# What a session does with its bytes

The bytes of a session are those left in the buffer and those of its stream. The response is the
first four of them, and whole packets behind it are handled in order, however the reads cut the
stream.
-/

namespace Gnirehtet.Adb
open Lib Relay

/-- The bytes are whole packets with these texts. -/
inductive Packets : List UInt8 → List String → Prop where
  | nil : Packets [] []
  | cons {frame rest : List UInt8} {text : String} {texts : List String} :
    Decodes frame text → Packets rest texts → Packets (frame ++ rest) (text :: texts)

/-- No packet is at the front of the bytes. -/
def Stuck (rest : List UInt8) : Prop := ∀ frame text, Decodes frame text → ¬ frame <+: rest

theorem stuck_nil : Stuck [] := by
  intro frame text decodes front
  have := decodes.long
  rw [List.prefix_nil.mp front] at this
  contradiction

/-- The length at the front says where the packet ends. -/
theorem packet_unique {frame frame' rest rest' : List UInt8} (long : 4 ≤ frame.length) (long' : 4 ≤ frame'.length)
    (length : parseLength (frame.take 4) = .ok (frame.length - 4))
    (length' : parseLength (frame'.take 4) = .ok (frame'.length - 4)) (same : frame ++ rest = frame' ++ rest') :
    frame = frame' ∧ rest = rest' := by
  have start : frame.take 4 = frame'.take 4 := by
    have both := congrArg (List.take 4) same
    rwa [List.take_append_of_le_length long, List.take_append_of_le_length long'] at both
  rw [start, length'] at length
  have lengths : frame.length = frame'.length := by
    have := Except.ok.inj length
    omega
  exact List.append_inj same lengths

theorem Decodes.unique {frame frame' rest rest' : List UInt8} {text text' : String} (h : Decodes frame text)
    (h' : Decodes frame' text') (same : frame ++ rest = frame' ++ rest') : frame = frame' ∧ text = text' ∧ rest = rest' := by
  obtain ⟨rfl, rfl⟩ := packet_unique h.long h'.long h.length h'.length same
  have content := h.content
  rw [h'.content] at content
  exact ⟨rfl, (Option.some.inj content).symm, rfl⟩

theorem Packets.unique {front front' rest rest' : List UInt8} {texts texts' : List String} (h : Packets front texts)
    (h' : Packets front' texts') (stuck : Stuck rest) (stuck' : Stuck rest')
    (same : front ++ rest = front' ++ rest') : texts = texts' ∧ rest = rest' := by
  induction h generalizing front' texts' with
  | nil =>
    cases h' with
    | nil => exact ⟨rfl, same⟩
    | cons decodes _ =>
      rw [List.nil_append, List.append_assoc] at same
      exact absurd (same ▸ List.prefix_append _ _) (stuck _ _ decodes)
  | cons decodes _ ih =>
    cases h' with
    | nil =>
      rw [List.nil_append, List.append_assoc] at same
      exact absurd (same ▸ List.prefix_append _ _) (stuck' _ _ decodes)
    | cons decodes' later =>
      rw [List.append_assoc, List.append_assoc] at same
      obtain ⟨-, rfl, same⟩ := decodes.unique decodes' same
      obtain ⟨rfl, rfl⟩ := ih later same
      exact ⟨rfl, rfl⟩

namespace Connection

/-! ### The response -/

theorem okayTurn_next {c c' : Connection} (h : c.okayTurn = .next c') :
    c.buf.peek.length < 4 ∧ ∃ nonempty, c.readFrom = .ok (nonempty, c') := by
  unfold okayTurn at h
  split at h
  · rename_i short
    split at h
    · rename_i nonempty c'' reads
      cases h
      exact ⟨short, nonempty, reads⟩
    · cases h
  · cases h

theorem okayTurn_stop {c c' : Connection} (h : c.okayTurn = .stop c') : c' = c ∧ 4 ≤ c.buf.peek.length := by
  unfold okayTurn at h
  split at h
  · split at h <;> cases h
  · rename_i enough
    cases h
    exact ⟨rfl, by omega⟩

theorem okayTurn_fail {c c' : Connection} {e : AdbError} (h : c.okayTurn = .fail (e, c')) :
    c' = c ∧ c.buf.peek.length < 4 ∧ c.readFrom = .error e := by
  unfold okayTurn at h
  split at h
  · rename_i short
    split at h
    · cases h
    · rename_i failure reads
      cases h
      exact ⟨rfl, short, reads⟩
  · cases h

theorem visits_okayTurn {c a : Connection} (visits : Visits okayTurn c a) :
    a.bytes = c.bytes ∧ (a.Sized ↔ c.Sized) ∧ a.stream.ending = c.stream.ending := by
  induction visits with
  | start => exact ⟨rfl, Iff.rfl, rfl⟩
  | turn _ next ih =>
    obtain ⟨-, _, reads⟩ := okayTurn_next next
    obtain ⟨bytes, sized, -, -, ending⟩ := readFrom_spec reads
    exact ⟨bytes.trans ih.1, sized.trans ih.2.1, ending.trans ih.2.2⟩

/-- The loop waits for four bytes, and the end of the stream does not stop it. -/
theorem okayTurn_ends_iff {c : Connection} (sized : c.Sized) :
    Ends okayTurn c ↔ 4 ≤ c.bytes.length ∨ c.stream.ending = .error := by
  constructor
  · intro ends
    by_contra stuck
    rw [not_or] at stuck
    apply not_ends_of_trap (I := fun a => a.bytes.length < 4 ∧ a.stream.ending ≠ .error) _ ⟨by omega, stuck.2⟩ ends
    rintro a ⟨short, ending⟩
    have part : a.buf.peek.length < 4 := by
      rw [bytes, List.length_append] at short
      omega
    cases reads : a.readFrom with
    | error e => exact absurd (readFrom_error_iff.mp ⟨e, reads⟩).2 ending
    | ok found =>
      obtain ⟨bytes, -, -, -, same⟩ := readFrom_spec reads
      refine ⟨found.2, ?_, by rw [bytes]; exact short, same ▸ ending⟩
      rw [okayTurn, if_pos part, reads]
  · intro enough
    apply ends_of_measure (I := fun a => a.Sized ∧ (4 ≤ a.bytes.length ∨ a.stream.ending = .error))
      (fun a => a.stream.bytes.length) _ ⟨sized, enough⟩
    rintro a b ⟨sized, enough⟩ next
    obtain ⟨short, nonempty, reads⟩ := okayTurn_next next
    obtain ⟨bytes, size, moved, grows, ending⟩ := readFrom_spec reads
    refine ⟨⟨size.mpr sized, by rw [bytes, ending]; exact enough⟩, ?_⟩
    have left : a.stream.bytes ≠ [] := by
      intro none
      rcases enough with enough | failing
      · rw [Connection.bytes, none, List.append_nil] at enough
        omega
      · obtain ⟨e, failed⟩ := readFrom_error_iff.mpr ⟨none, failing⟩
        rw [failed] at reads
        cases reads
    have room : 0 < a.buf.room := by
      rw [ByteBuffer.length_peek] at short
      rw [ByteBuffer.room, sized, bufferSize]
      omega
    have some : nonempty = true := by
      obtain ⟨filled, fills⟩ := fillBufferFrom_some left room
      rw [fillBufferFrom, reads] at fills
      cases nonempty with
      | true => rfl
      | false => cases fills
    have := grows.mp some
    omega

/-- How `consume_okay` ends: four bytes are there, or a read has failed before. -/
theorem consumeOkay_some {c : Connection} {fuel : Nat} {r : Except (AdbError × Connection) (Bool × Connection)}
    (h : c.consumeOkay fuel = some r) :
    (∃ a b, Visits okayTurn c a ∧ 4 ≤ a.buf.peek.length ∧ b.buf.peek = a.buf.peek.drop 4 ∧
      b.stream = a.stream ∧ (b.Sized ↔ a.Sized) ∧ r = .ok (decide (a.buf.peek.take 4 = okay), b)) ∨
    (∃ a e, Visits okayTurn c a ∧ a.buf.peek.length < 4 ∧ a.readFrom = .error e ∧ r = .error (e, a)) := by
  unfold consumeOkay at h
  split at h
  · cases h
  · rename_i failure ends
    cases h
    obtain ⟨a, visits, left⟩ := visits_of_loop ends
    obtain ⟨rfl, short, reads⟩ := okayTurn_fail left
    exact .inr ⟨_, _, visits, short, reads, rfl⟩
  · rename_i final ends
    obtain ⟨a, visits, left⟩ := visits_of_loop ends
    obtain ⟨rfl, enough⟩ := okayTurn_stop left
    obtain ⟨buf, consumes, rest, size⟩ := ByteBuffer.consume_spec final.buf enough
    simp only [consumes] at h
    cases h
    exact .inl ⟨_, { final with buf }, visits, enough, rest, rfl, by rw [Sized, size]; exact Iff.rfl, rfl⟩

theorem consumeOkay_ok {c c' : Connection} {fuel : Nat} {ok : Bool}
    (h : c.consumeOkay fuel = some (.ok (ok, c'))) :
    4 ≤ c.bytes.length ∧ c'.bytes = c.bytes.drop 4 ∧ (ok = true ↔ c.bytes.take 4 = okay) ∧ (c'.Sized ↔ c.Sized) := by
  rcases consumeOkay_some h with ⟨a, b, visits, enough, rest, stream, size, r⟩ | ⟨a, e, -, -, -, r⟩
  · cases r
    obtain ⟨same, sized, -⟩ := visits_okayTurn visits
    refine ⟨?_, ?_, ?_, size.trans sized⟩
    · rw [← same, bytes, List.length_append]
      omega
    · rw [← same, bytes, rest, stream, bytes, List.drop_append_of_le_length enough]
    · rw [decide_eq_true_iff, ← same, bytes, List.take_append_of_le_length enough]
  · cases r

/-- The response fails when the stream does before four bytes are there. -/
theorem consumeOkay_error {c c' : Connection} {fuel : Nat} {e : AdbError}
    (h : c.consumeOkay fuel = some (.error (e, c'))) :
    c.bytes.length < 4 ∧ c.stream.ending = .error ∧ c'.buf.peek = c.bytes ∧ (c'.Sized ↔ c.Sized) := by
  rcases consumeOkay_some h with ⟨a, b, -, -, -, -, -, r⟩ | ⟨a, failure, visits, short, reads, r⟩
  · cases r
  · cases r
    obtain ⟨same, sized, ending⟩ := visits_okayTurn visits
    obtain ⟨none, failing⟩ := readFrom_error_iff.mp ⟨e, reads⟩
    rw [bytes, none, List.append_nil] at same
    exact ⟨by rw [← same]; exact short, ending ▸ failing, same, sized⟩

theorem consumeOkay_unique {c : Connection} {n m : Nat} {r r' : Except (AdbError × Connection) (Bool × Connection)}
    (h : c.consumeOkay n = some r) (h' : c.consumeOkay m = some r') : r = r' := by
  unfold consumeOkay at h h'
  cases left : loop okayTurn n c with
  | none =>
    rw [left] at h
    cases h
  | some one =>
    cases right : loop okayTurn m c with
    | none =>
      rw [right] at h'
      cases h'
    | some other =>
      rw [left] at h
      rw [right, ← loop_unique left right, h] at h'
      exact Option.some.inj h'

theorem consumeOkay_ends_iff {c : Connection} (sized : c.Sized) :
    (∃ fuel r, c.consumeOkay fuel = some r) ↔ 4 ≤ c.bytes.length ∨ c.stream.ending = .error := by
  rw [← okayTurn_ends_iff sized]
  apply exists_congr
  intro fuel
  unfold consumeOkay
  cases loop okayTurn fuel c with
  | none => simp
  | some r =>
    cases r with
    | error failure => simp
    | ok a =>
      dsimp only
      split <;> simp

end Connection

/-! ### The packets -/

namespace AdbMonitor

/-- The packets that are handled do not depend on what the buffer holds. -/
theorem run_withBuf (m : AdbMonitor) (buf : ByteBuffer) (texts : List String) :
    run handlePacket (m.withBuf buf) texts = (run handlePacket m texts).withBuf buf := by
  induction texts generalizing m with
  | nil => rfl
  | cons text rest ih => rw [run_cons, run_cons, handlePacket_withBuf, ih]

end AdbMonitor

namespace Session

theorem trackPackets_ok {s : Session} {text : String} {c : Connection} (h : s.connection.nextPacket = .ok (text, c)) :
    s.trackPackets = ((s.resume c).handlePacket text).trackPackets := by
  rw [trackPackets]
  split
  · rename_i failed
    rw [h] at failed
    cases failed
  · rename_i found
    rw [h] at found
    cases found
    rfl

theorem trackPackets_error {s : Session} {e : AdbError} {c : Connection}
    (h : s.connection.nextPacket = .error (e, c)) : s.trackPackets = (e, s.resume c) := by
  rw [trackPackets]
  split
  · rename_i failed
    rw [h] at failed
    cases failed
    rfl
  · rename_i found
    rw [h] at found
    cases found

/-- The whole packets at the front of the bytes are handled, in order, and what is behind them stays
in the buffer or is never read. -/
theorem trackPackets_spec {s : Session} (sized : s.connection.Sized) :
    ∃ front rest texts buf stream, s.connection.bytes = front ++ rest ∧ Packets front texts ∧ Stuck rest ∧
      s.trackPackets.2 =
        { monitor := (run AdbMonitor.handlePacket s.monitor texts).withBuf buf
          stream
          response := s.response
          handled := s.handled ++ texts } ∧
      buf.buf.length = bufferSize ∧ (buf.peek = [] ↔ rest = []) := by
  induction s using trackPackets.induct with
  | case1 s e c next =>
    obtain ⟨same, size, stuck⟩ := Connection.nextPacket_error next
    refine ⟨[], s.connection.bytes, [], c.buf, c.stream, rfl, .nil, ?_, ?_, size.mpr sized, ?_⟩
    · rintro frame text decodes ⟨behind, front⟩
      obtain ⟨c', found, -⟩ := Connection.nextPacket_whole decodes sized front.symm
      rw [found] at next
      cases next
    · rw [trackPackets_error next, List.append_nil]
      rfl
    · rw [← same, Connection.bytes, List.append_eq_nil_iff]
      exact ⟨fun empty => ⟨empty, stuck sized empty⟩, And.left⟩
  | case2 s text c next ih =>
    obtain ⟨frame, -, decodes, front, size⟩ := Connection.nextPacket_ok next
    obtain ⟨behind, rest, texts, buf, stream, bytes, packets, stuck, result, full, empty⟩ := ih (size.mpr sized)
    rw [connection_handlePacket, connection_resume] at bytes
    refine ⟨frame ++ behind, rest, text :: texts, buf, stream, ?_, .cons (decodes sized) packets, stuck, ?_, full, empty⟩
    · rw [front, bytes, List.append_assoc]
    · rw [trackPackets_ok next, result]
      simp only [handlePacket, resume, List.append_assoc, List.singleton_append, run_cons,
        AdbMonitor.handlePacket_withBuf, AdbMonitor.run_withBuf, AdbMonitor.withBuf_withBuf]

end Session

/-! ### Whole sessions -/

namespace AdbMonitor

/-- The session on the stream ends, and this is how. -/
def Ended (m : AdbMonitor) (stream : TcpStream) (r : Except AdbError Unit × Session) : Prop :=
  ∃ fuel, m.trackDevicesOnStream fuel stream = some r

theorem Ended.unique {m : AdbMonitor} {stream : TcpStream} {r r' : Except AdbError Unit × Session}
    (h : m.Ended stream r) (h' : m.Ended stream r') : r = r' := by
  obtain ⟨n, h⟩ := h
  obtain ⟨k, h'⟩ := h'
  cases accepts : stream.accepts with
  | false =>
    simp only [trackDevicesOnStream, accepts, Bool.false_eq_true, if_false] at h h'
    exact Option.some.inj (h.symm.trans h')
  | true =>
    simp only [trackDevicesOnStream, accepts, if_true] at h h'
    cases left : (Session.start m stream).connection.consumeOkay n with
    | none =>
      rw [left] at h
      cases h
    | some one =>
      cases right : (Session.start m stream).connection.consumeOkay k with
      | none =>
        rw [right] at h'
        cases h'
      | some other =>
        rw [left] at h
        rw [right, ← Connection.consumeOkay_unique left right] at h'
        exact Option.some.inj (h.symm.trans h')

/-- What is seen of a session: the response and the packets that are handled. -/
inductive Outcome (accepts : Bool) (ending : Ending) (bytes : List UInt8) : Option Bool → List String → Prop where
  | refused : accepts = false → Outcome accepts ending bytes none []
  | cut : accepts = true → bytes.length < 4 → ending = .error → Outcome accepts ending bytes none []
  | denied : accepts = true → 4 ≤ bytes.length → bytes.take 4 ≠ Connection.okay →
    Outcome accepts ending bytes (some false) []
  | tracked {front rest : List UInt8} {texts : List String} :
    accepts = true → bytes = Connection.okay ++ front ++ rest → Packets front texts → Stuck rest →
    Outcome accepts ending bytes (some true) texts

/-- How the parts of a session make up its end. -/
theorem ended_cases {m : AdbMonitor} {stream : TcpStream} {r : Except AdbError Unit × Session}
    (h : m.Ended stream r) :
    (stream.accepts = false ∧ r.2 = .start m stream) ∨
    (stream.accepts = true ∧ ∃ fuel e c, (Session.start m stream).connection.consumeOkay fuel = some (.error (e, c)) ∧
      r.2 = (Session.start m stream).resume c) ∨
    (stream.accepts = true ∧ ∃ fuel ok c, (Session.start m stream).connection.consumeOkay fuel = some (.ok (ok, c)) ∧
      r.2 = (
        let s := { (Session.start m stream).resume c with response := some ok }
        if ok then s.trackPackets.2 else s)) := by
  obtain ⟨fuel, h⟩ := h
  cases accepts : stream.accepts with
  | false =>
    simp only [trackDevicesOnStream, accepts, Bool.false_eq_true, if_false] at h
    cases h
    exact .inl ⟨rfl, rfl⟩
  | true =>
    simp only [trackDevicesOnStream, accepts, if_true] at h
    split at h
    · cases h
    · rename_i e c ends
      cases h
      exact .inr (.inl ⟨rfl, fuel, e, c, ends, rfl⟩)
    · rename_i ok c ends
      refine .inr (.inr ⟨rfl, fuel, ok, c, ends, ?_⟩)
      cases ok <;> cases h <;> rfl

theorem ended_of_consumeOkay {m : AdbMonitor} {stream : TcpStream} {fuel : Nat}
    {r : Except (AdbError × Connection) (Bool × Connection)}
    (h : (Session.start m stream).connection.consumeOkay fuel = some r) : ∃ r, m.Ended stream r := by
  cases accepts : stream.accepts with
  | false => exact ⟨_, fuel, by rw [trackDevicesOnStream, accepts]; rfl⟩
  | true =>
    simp only [Ended, trackDevicesOnStream, accepts, if_true]
    cases r with
    | error failure => exact ⟨_, fuel, by rw [h]⟩
    | ok found =>
      obtain ⟨ok, c⟩ := found
      cases ok with
      | false => exact ⟨_, fuel, by rw [h]; rfl⟩
      | true => exact ⟨_, fuel, by rw [h]; rfl⟩

variable {m : AdbMonitor} {stream : TcpStream}

/-- A session on a stream that ends well waits for the four bytes of the response forever. -/
theorem ended_iff (sized : m.buf.buf.length = bufferSize) : (∃ r, m.Ended stream r) ↔
    stream.accepts = false ∨ 4 ≤ (m.buf.peek ++ stream.bytes).length ∨ stream.ending = .error := by
  have loops := Connection.consumeOkay_ends_iff (c := (Session.start m stream).connection) sized
  constructor
  · rintro ⟨r, ended⟩
    rcases ended_cases ended with ⟨refused, -⟩ | ⟨-, fuel, e, c, ends, -⟩ | ⟨-, fuel, ok, c, ends, -⟩
    · exact .inl refused
    · exact .inr (loops.mp ⟨fuel, _, ends⟩)
    · exact .inr (loops.mp ⟨fuel, _, ends⟩)
  · rintro (refused | enough)
    · exact ⟨_, 0, by rw [trackDevicesOnStream, refused]; rfl⟩
    · obtain ⟨fuel, r, ends⟩ := loops.mpr enough
      exact ended_of_consumeOkay ends

/-- What is seen of a session is a function of its bytes. -/
theorem Ended.outcome {r : Except AdbError Unit × Session} (sized : m.buf.buf.length = bufferSize)
    (ended : m.Ended stream r) :
    Outcome stream.accepts stream.ending (m.buf.peek ++ stream.bytes) r.2.response r.2.handled := by
  rcases ended_cases ended with ⟨refused, same⟩ | ⟨accepts, fuel, e, c, ends, same⟩ |
    ⟨accepts, fuel, ok, c, ends, same⟩
  · rw [same]
    exact .refused refused
  · obtain ⟨short, failing, -⟩ := Connection.consumeOkay_error ends
    rw [same]
    exact .cut accepts short failing
  · obtain ⟨enough, left, answer, size⟩ := Connection.consumeOkay_ok ends
    cases ok with
    | false =>
      rw [same]
      exact .denied accepts enough fun okay => absurd (answer.mpr okay) (by decide)
    | true =>
      obtain ⟨front, rest, texts, buf, later, bytes, packets, stuck, result, -⟩ :=
        Session.trackPackets_spec (s := { (Session.start m stream).resume c with response := some true })
          (size.mpr sized)
      rw [same, if_pos rfl, result]
      refine .tracked accepts ?_ packets stuck
      rw [List.append_assoc, ← bytes, ← answer.mp rfl]
      exact (List.take_append_drop 4 _).symm.trans (congrArg (_ ++ ·) left.symm)

/-- The callback is called by the packets that are handled, and the buffer keeps its size. -/
theorem Ended.monitor {r : Except AdbError Unit × Session} (sized : m.buf.buf.length = bufferSize)
    (ended : m.Ended stream r) :
    ∃ buf, r.2.monitor = (run handlePacket m r.2.handled).withBuf buf ∧ buf.buf.length = bufferSize := by
  rcases ended_cases ended with ⟨-, same⟩ | ⟨-, fuel, e, c, ends, same⟩ | ⟨-, fuel, ok, c, ends, same⟩
  · exact ⟨m.buf, by rw [same]; rfl, sized⟩
  · obtain ⟨-, -, -, size⟩ := Connection.consumeOkay_error ends
    exact ⟨c.buf, by rw [same]; rfl, size.mpr sized⟩
  · obtain ⟨-, -, -, size⟩ := Connection.consumeOkay_ok ends
    cases ok with
    | false => exact ⟨c.buf, by rw [same]; rfl, size.mpr sized⟩
    | true =>
      obtain ⟨front, rest, texts, buf, later, -, -, -, result, full, -⟩ :=
        Session.trackPackets_spec (s := { (Session.start m stream).resume c with response := some true })
          (size.mpr sized)
      refine ⟨buf, ?_, full⟩
      rw [same, if_pos rfl, result]
      exact congrArg (·.withBuf buf) (run_withBuf m c.buf texts)

theorem Outcome.unique {accepts : Bool} {ending : Ending} {bytes : List UInt8} {response response' : Option Bool}
    {texts texts' : List String} (h : Outcome accepts ending bytes response texts)
    (h' : Outcome accepts ending bytes response' texts') : response = response' ∧ texts = texts' := by
  have okay_front {front rest : List UInt8} (e : bytes = Connection.okay ++ front ++ rest) :
      ¬ bytes.length < 4 ∧ bytes.take 4 = Connection.okay := by
    rw [e, List.append_assoc]
    refine ⟨?_, List.take_left' rfl⟩
    rw [List.length_append]
    exact Nat.not_lt.mpr (Nat.le_add_right 4 _)
  cases h with
  | refused no =>
    cases h' with
    | refused _ => exact ⟨rfl, rfl⟩
    | cut yes _ _ | denied yes _ _ | tracked yes _ _ _ =>
      rw [no] at yes
      cases yes
  | cut yes short _ =>
    cases h' with
    | refused no =>
      rw [no] at yes
      cases yes
    | cut _ _ _ => exact ⟨rfl, rfl⟩
    | denied _ enough _ => omega
    | tracked _ front _ _ => exact absurd short (okay_front front).1
  | denied yes enough other =>
    cases h' with
    | refused no =>
      rw [no] at yes
      cases yes
    | cut _ short _ => omega
    | denied _ _ _ => exact ⟨rfl, rfl⟩
    | tracked _ front _ _ => exact absurd (okay_front front).2 other
  | tracked yes front packets stuck =>
    cases h' with
    | refused no =>
      rw [no] at yes
      cases yes
    | cut _ short _ => exact absurd short (okay_front front).1
    | denied _ _ other => exact absurd (okay_front front).2 other
    | tracked _ front' packets' stuck' =>
      rw [front, List.append_assoc, List.append_assoc] at front'
      obtain ⟨rfl, -⟩ := packets.unique packets' stuck stuck' (List.append_cancel_left front')
      exact ⟨rfl, rfl⟩

/-- The session ends with this response and these packets. -/
def Observes (m : AdbMonitor) (stream : TcpStream) (response : Option Bool) (handled : List String) : Prop :=
  ∃ r, m.Ended stream r ∧ r.2.response = response ∧ r.2.handled = handled

/-- A session makes the same of the bytes that are left in the buffer as of those it receives. -/
theorem observes_iff (sized : m.buf.buf.length = bufferSize) {response : Option Bool} {handled : List String} :
    m.Observes stream response handled ↔
      Outcome stream.accepts stream.ending (m.buf.peek ++ stream.bytes) response handled := by
  constructor
  · rintro ⟨r, ended, rfl, rfl⟩
    exact ended.outcome sized
  · intro outcome
    have ends : ∃ r, m.Ended stream r := by
      rw [ended_iff sized]
      cases outcome with
      | refused no => exact .inl no
      | cut _ _ failing => exact .inr (.inr failing)
      | denied _ enough _ => exact .inr (.inl enough)
      | tracked _ front _ _ =>
        rw [front, List.append_assoc, List.length_append]
        exact .inr (.inl (Nat.le_add_right 4 _))
    obtain ⟨r, ended⟩ := ends
    obtain ⟨response, handled⟩ := (ended.outcome sized).unique outcome
    exact ⟨r, ended, response, handled⟩

end AdbMonitor

end Gnirehtet.Adb
