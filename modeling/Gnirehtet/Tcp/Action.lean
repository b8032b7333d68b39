import Gnirehtet.Tcp.Connection
import Gnirehtet.Lib.Run
import Mathlib.Tactic.SplitIfs

/-!
# What a connection can do

Every call of `handlePacket` and of `pollSelf` is a sequence of a few kinds of acts. Each act is
stated once here with the conditions under which the code performs it; the invariants of the
connection are proved act by act.
-/

namespace Gnirehtet.Relay
open Lib Relation

/-! ### Sums over the history -/

def Effect.storedBytes : Effect → List UInt8
  | .stored payload => payload
  | _ => []

def Effect.writtenBytes : Effect → List UInt8
  | .written bytes => bytes
  | _ => []

def Effect.receivedBytes : Effect → List UInt8
  | .received bytes => bytes
  | _ => []

/-- The sequence numbers of the device that an effect acknowledges. -/
def Effect.sequenceLength : Effect → Nat
  | .stored payload => payload.length
  | .finConsumed => 1
  | .eof => 1
  | _ => 0

def Effect.isFinConsumed : Effect → Bool
  | .finConsumed => true
  | _ => false

def Effect.isEof : Effect → Bool
  | .eof => true
  | _ => false

def Effect.isReply : Effect → Bool
  | .appended _ _ => true
  | .skipped _ => true
  | _ => false

def Effect.appendedBytes : Effect → List UInt8
  | .appended packet _ => packet.raw
  | _ => []

def storedBytes (history : List Effect) : List UInt8 := history.flatMap Effect.storedBytes

def writtenBytes (history : List Effect) : List UInt8 := history.flatMap Effect.writtenBytes

def receivedBytes (history : List Effect) : List UInt8 := history.flatMap Effect.receivedBytes

def appendedBytes (history : List Effect) : List UInt8 := history.flatMap Effect.appendedBytes

def acknowledged (history : List Effect) : Nat := (history.map Effect.sequenceLength).sum

def finsConsumed (history : List Effect) : Nat := history.countP Effect.isFinConsumed

def eofs (history : List Effect) : Nat := history.countP Effect.isEof

section Sums
variable (history : List Effect) (e : Effect)

@[simp] theorem storedBytes_concat : storedBytes (history ++ [e]) = storedBytes history ++ e.storedBytes := by
  simp [storedBytes]

@[simp] theorem writtenBytes_concat :
    writtenBytes (history ++ [e]) = writtenBytes history ++ e.writtenBytes := by
  simp [writtenBytes]

@[simp] theorem acknowledged_concat :
    acknowledged (history ++ [e]) = acknowledged history + e.sequenceLength := by
  simp [acknowledged]

@[simp] theorem finsConsumed_concat :
    finsConsumed (history ++ [e]) = finsConsumed history + if e.isFinConsumed then 1 else 0 := by
  simp [finsConsumed, List.countP_cons]

@[simp] theorem eofs_concat : eofs (history ++ [e]) = eofs history + if e.isEof then 1 else 0 := by
  simp [eofs, List.countP_cons]

theorem acknowledged_eq :
    acknowledged history = (storedBytes history).length + finsConsumed history + eofs history := by
  induction history with
  | nil => rfl
  | cons e rest ih =>
    simp only [acknowledged, storedBytes, finsConsumed, eofs, List.map_cons, List.sum_cons,
      List.flatMap_cons, List.length_append, List.countP_cons] at ih ⊢
    have first : e.sequenceLength = e.storedBytes.length + (if e.isFinConsumed then 1 else 0) +
        if e.isEof then 1 else 0 := by cases e <;> rfl
    omega

end Sums

namespace TcpConnection

/-! ### Control packets touch nothing else -/

section Frame
variable (c : TcpConnection) (flags : UInt16)

theorem sendEmptyPacketToClient_frame : ∃ buffer e, e.isReply = true ∧
    c.sendEmptyPacketToClient flags = { c with
      networkToClient := (createEmptyResponsePacket c.networkToClient c.tcb flags c.advertisedWindow).1
      buffer
      history := c.history ++ [e] } := by
  unfold sendEmptyPacketToClient
  dsimp only
  split
  · exact ⟨_, .appended _ _, rfl, rfl⟩
  · exact ⟨_, .skipped _, rfl, rfl⟩

@[simp] theorem tcb_sendEmptyPacketToClient : (c.sendEmptyPacketToClient flags).tcb = c.tcb := by
  obtain ⟨_, _, _, same⟩ := c.sendEmptyPacketToClient_frame flags
  rw [same]

@[simp] theorem networkToClient_sendEmptyPacketToClient : (c.sendEmptyPacketToClient flags).networkToClient =
    (createEmptyResponsePacket c.networkToClient c.tcb flags c.advertisedWindow).1 := by
  obtain ⟨_, _, _, same⟩ := c.sendEmptyPacketToClient_frame flags
  rw [same]

@[simp] theorem clientToNetwork_sendEmptyPacketToClient :
    (c.sendEmptyPacketToClient flags).clientToNetwork = c.clientToNetwork := by
  obtain ⟨_, _, _, same⟩ := c.sendEmptyPacketToClient_frame flags
  rw [same]

@[simp] theorem packetForClientLength_sendEmptyPacketToClient :
    (c.sendEmptyPacketToClient flags).packetForClientLength = c.packetForClientLength := by
  obtain ⟨_, _, _, same⟩ := c.sendEmptyPacketToClient_frame flags
  rw [same]

@[simp] theorem closed_sendEmptyPacketToClient : (c.sendEmptyPacketToClient flags).closed = c.closed := by
  obtain ⟨_, _, _, same⟩ := c.sendEmptyPacketToClient_frame flags
  rw [same]

theorem upstream_sendEmptyPacketToClient :
    storedBytes (c.sendEmptyPacketToClient flags).history = storedBytes c.history ∧
      writtenBytes (c.sendEmptyPacketToClient flags).history = writtenBytes c.history ∧
      finsConsumed (c.sendEmptyPacketToClient flags).history = finsConsumed c.history ∧
      eofs (c.sendEmptyPacketToClient flags).history = eofs c.history := by
  obtain ⟨_, e, reply, same⟩ := c.sendEmptyPacketToClient_frame flags
  rw [same]
  cases e <;> simp_all [Effect.isReply, Effect.storedBytes, Effect.writtenBytes, Effect.isFinConsumed, Effect.isEof]

@[simp] theorem storedBytes_sendEmptyPacketToClient :
    storedBytes (c.sendEmptyPacketToClient flags).history = storedBytes c.history :=
  (c.upstream_sendEmptyPacketToClient flags).1

@[simp] theorem writtenBytes_sendEmptyPacketToClient :
    writtenBytes (c.sendEmptyPacketToClient flags).history = writtenBytes c.history :=
  (c.upstream_sendEmptyPacketToClient flags).2.1

@[simp] theorem finsConsumed_sendEmptyPacketToClient :
    finsConsumed (c.sendEmptyPacketToClient flags).history = finsConsumed c.history :=
  (c.upstream_sendEmptyPacketToClient flags).2.2.1

@[simp] theorem eofs_sendEmptyPacketToClient :
    eofs (c.sendEmptyPacketToClient flags).history = eofs c.history :=
  (c.upstream_sendEmptyPacketToClient flags).2.2.2

@[simp] theorem acknowledged_sendEmptyPacketToClient :
    acknowledged (c.sendEmptyPacketToClient flags).history = acknowledged c.history := by
  simp only [acknowledged_eq, storedBytes_sendEmptyPacketToClient, finsConsumed_sendEmptyPacketToClient,
    eofs_sendEmptyPacketToClient]

end Frame

/-! ### The side to the network -/

/-- Nothing changed between the device's stream and the socket. -/
structure SameUpstream (c c' : TcpConnection) : Prop where
  clientToNetwork : c'.clientToNetwork = c.clientToNetwork
  acknowledgementNumber : c'.tcb.acknowledgementNumber = c.tcb.acknowledgementNumber
  synSequenceNumber : c'.tcb.synSequenceNumber = c.tcb.synSequenceNumber
  finReceived : c'.tcb.finReceived = c.tcb.finReceived
  storedBytes : storedBytes c'.history = storedBytes c.history
  writtenBytes : writtenBytes c'.history = writtenBytes c.history
  finsConsumed : finsConsumed c'.history = finsConsumed c.history
  eofs : eofs c'.history = eofs c.history

theorem SameUpstream.acknowledged {c c' : TcpConnection} (same : SameUpstream c c') :
    acknowledged c'.history = acknowledged c.history := by
  rw [acknowledged_eq, acknowledged_eq, same.storedBytes, same.finsConsumed, same.eofs]

theorem sameUpstream_sendEmptyPacketToClient (c : TcpConnection) (flags : UInt16) :
    SameUpstream c (c.sendEmptyPacketToClient flags) := by
  constructor <;> simp

theorem sameUpstream_handleFinAck (c : TcpConnection) : SameUpstream c c.handleFinAck := by
  unfold handleFinAck
  split_ifs <;> constructor <;> rfl

theorem sameUpstream_processConnect (c : TcpConnection) : SameUpstream c c.processConnect := by
  constructor <;> simp [processConnect]

/-- What a flush that succeeds has done. -/
inductive Flushes (c : TcpConnection) : TcpConnection → Prop where
  | nothing (free : c.packetForClientLength = none) : Flushes c c
  | sent (len : UInt16) (buffer : StreamBuffer) (waiting : c.packetForClientLength = some len)
      (fits : sendPacketToBuffer c.buffer (c.networkToClient.inflate len) = .ok buffer) : Flushes c { c with
        buffer
        tcb.sequenceNumber := c.tcb.sequenceNumber + len.toUInt32
        packetForClientLength := none
        history := c.history ++ [Effect.appended (c.networkToClient.inflate len) c.buffer.remaining] }

theorem flushes {c c' : TcpConnection} (flushed : c.flushPendingPacket = .ok c') : Flushes c c' := by
  unfold flushPendingPacket at flushed
  split at flushed
  · rename_i free
    cases flushed
    exact .nothing free
  · rename_i len waiting
    dsimp only at flushed
    split at flushed
    · rename_i buffer fits
      cases flushed
      exact .sent len buffer waiting fits
    · cases flushed

theorem sameUpstream_flush {c c' : TcpConnection} (flushed : c.flushPendingPacket = .ok c') :
    SameUpstream c c' := by
  cases flushes flushed with
  | nothing free => constructor <;> rfl
  | sent len buffer waiting fits =>
    constructor <;> simp [Effect.storedBytes, Effect.writtenBytes, Effect.isFinConsumed, Effect.isEof]

theorem doHandleFin_upstream (c : TcpConnection) :
    SameUpstream { c with
      tcb.acknowledgementNumber := c.tcb.acknowledgementNumber + 1
      history := c.history ++ [Effect.finConsumed] } c.doHandleFin := by
  unfold doHandleFin
  dsimp only
  split_ifs <;> constructor <;> simp [close]

theorem eof_upstream (c : TcpConnection) :
    SameUpstream { c with
      tcb.acknowledgementNumber := c.tcb.acknowledgementNumber + 1
      history := c.history ++ [Effect.eof] } c.eof := by
  constructor <;> simp [eof]

theorem maxPayload_lt (c : TcpConnection) : min c.tcb.remainingClientWindow.toNat maxPayloadLength < 60000 := by
  have : maxPayloadLength < 60000 := by decide
  omega

/-- How a turn of the receive loop goes: what was read is sent or deferred, or there is nothing to send. -/
inductive ReceiveTurn (c : TcpConnection) (answer : ReadAnswer) : TcpConnection × Turn → Prop where
  | sent (p : Packetizer) (packet : IpPacket) (buffer : StreamBuffer)
      (ok : (updateHeaders c.networkToClient c.tcb (flagAck ||| flagPsh) c.advertisedWindow).packetizeRead answer
        (some (min c.tcb.remainingClientWindow.toNat maxPayloadLength)) = .ok (p, some packet))
      (fits : sendPacketToBuffer c.buffer packet = .ok buffer) : ReceiveTurn c answer ({ c with
        networkToClient := p
        buffer
        tcb.sequenceNumber := c.tcb.sequenceNumber + (packet.raw.drop p.payloadIndex).length.toUInt32
        history := c.history ++ [Effect.received (packet.raw.drop p.payloadIndex)] ++
          [Effect.appended packet c.buffer.remaining] }, .again)
  | deferred (p : Packetizer) (packet : IpPacket) (e : ErrorKind)
      (ok : (updateHeaders c.networkToClient c.tcb (flagAck ||| flagPsh) c.advertisedWindow).packetizeRead answer
        (some (min c.tcb.remainingClientWindow.toNat maxPayloadLength)) = .ok (p, some packet))
      (full : sendPacketToBuffer c.buffer packet = .error e) : ReceiveTurn c answer ({ c with
        networkToClient := p
        packetForClientLength := some packet.length
        history := c.history ++ [Effect.received (packet.raw.drop p.payloadIndex)] ++ [Effect.deferred packet] },
        .leave false)
  | ended (p : Packetizer)
      (ok : (updateHeaders c.networkToClient c.tcb (flagAck ||| flagPsh) c.advertisedWindow).packetizeRead answer
        (some (min c.tcb.remainingClientWindow.toNat maxPayloadLength)) = .ok (p, none)) :
      ReceiveTurn c answer ({ c with networkToClient := p }.eof, .leave true)
  | blocked : ReceiveTurn c answer ({ c with
      networkToClient := updateHeaders c.networkToClient c.tcb (flagAck ||| flagPsh) c.advertisedWindow }, .leave false)
  | failed : ReceiveTurn c answer (({ c with
      networkToClient := updateHeaders c.networkToClient c.tcb (flagAck ||| flagPsh)
        c.advertisedWindow }.sendEmptyPacketToClient flagRst).close, .leave true)

theorem receiveOne_turn (c : TcpConnection) (answer : ReadAnswer) : ReceiveTurn c answer (c.receiveOne answer) := by
  unfold receiveOne
  dsimp only
  split
  · rename_i p packet ok
    split
    · rename_i buffer fits
      exact .sent p packet buffer ok fits
    · rename_i e full
      exact .deferred p packet e ok full
  · rename_i p ended
    exact .ended p ended
  · exact .blocked
  · exact .failed

/-- A turn of the receive loop touches the upstream side only when it reads the end of the stream. -/
theorem receiveOne_upstream (c : TcpConnection) (answer : ReadAnswer)
    (window : c.tcb.remainingClientWindow ≠ 0) :
    SameUpstream c (c.receiveOne answer).1 ∨ (answer = .ok [] ∧
      SameUpstream { c with
        tcb.acknowledgementNumber := c.tcb.acknowledgementNumber + 1
        history := c.history ++ [Effect.eof] } (c.receiveOne answer).1) := by
  have turn := c.receiveOne_turn answer
  generalize c.receiveOne answer = result at turn ⊢
  cases turn with
  | sent p packet buffer ok fits =>
    left
    constructor <;> simp [Relay.storedBytes, Relay.writtenBytes, Relay.finsConsumed, Relay.eofs, Effect.storedBytes,
      Effect.writtenBytes, Effect.isFinConsumed, Effect.isEof]
  | deferred p packet e ok full =>
    left
    constructor <;> simp [Relay.storedBytes, Relay.writtenBytes, Relay.finsConsumed, Relay.eofs, Effect.storedBytes,
      Effect.writtenBytes, Effect.isFinConsumed, Effect.isEof]
  | ended p ok =>
    have same := eof_upstream { c with networkToClient := p }
    refine Or.inr ⟨Packetizer.packetizeRead_eof ok ?_, same.1, same.2, same.3, same.4, same.5, same.6,
      same.7, same.8⟩
    have : c.tcb.remainingClientWindow.toNat ≠ 0 := fun zero => window (UInt16.toNat.inj zero)
    have : 0 < maxPayloadLength := by decide
    omega
  | blocked => left; constructor <;> rfl
  | failed => left; constructor <;> simp [close]

/-- The segment's payload goes upstream when it is handled as an acknowledgement. -/
def Stores (c : TcpConnection) (s : Segment) : Prop :=
  s.header.isAck = true ∧ c.tcb.state ≠ .synReceived ∧ s.payload ≠ [] ∧
    s.payload.length ≤ c.clientToNetwork.remaining

instance (c : TcpConnection) (s : Segment) : Decidable (c.Stores s) := inferInstanceAs (Decidable (_ ∧ _))

theorem takeAck_upstream (c : TcpConnection) (s : Segment) :
    (¬ c.Stores s ∧ SameUpstream c (c.takeAck s)) ∨
      (c.Stores s ∧ SameUpstream (c.storePayload s) (c.takeAck s)) := by
  unfold takeAck handleAck
  split_ifs with isAck half empty full
  · exact Or.inl ⟨fun stores => stores.2.1 half, by constructor <;> rfl⟩
  · exact Or.inl ⟨fun stores => stores.2.2.1 empty, by constructor <;> rfl⟩
  · exact Or.inl ⟨fun stores => absurd stores.2.2.2 (by omega), sameUpstream_sendEmptyPacketToClient c _⟩
  · exact Or.inr ⟨⟨isAck, half, empty, by omega⟩, sameUpstream_sendEmptyPacketToClient _ _⟩
  · exact Or.inl ⟨fun stores => isAck stores.1, by constructor <;> rfl⟩

theorem checkFinAck_upstream (c : TcpConnection) (s : Segment) : SameUpstream c (c.checkFinAck s) := by
  unfold checkFinAck
  split
  · split
    · exact sameUpstream_handleFinAck c
    · constructor <;> rfl
  · constructor <;> rfl

/-! ### Acts on a device packet -/

/-- The flags of a control packet that takes up no sequence number. -/
def Plain (flags : UInt16) : Prop := flags = flagAck ∨ flags = flagRst

/-- What `handlePacket` does after the first packet of a connection, on packets that are no SYN. -/
inductive DeviceAct (s : Segment) : TcpConnection → TcpConnection → Prop where
  | reply (c : TcpConnection) (flags : UInt16) (plain : Plain flags) :
      DeviceAct s c (c.sendEmptyPacketToClient flags)
  | close (c : TcpConnection) : DeviceAct s c c.close
  | expect (c : TcpConnection) : DeviceAct s c (c.expectedPacket s)
  | establish (c : TcpConnection) (half : c.tcb.state = .synReceived) :
      DeviceAct s c { c with tcb.state := .established }
  | store (c : TcpConnection) (inSequence : s.header.sequenceNumber = c.tcb.acknowledgementNumber)
      (ready : c.tcb.state ≠ .synReceived) (data : s.payload ≠ [])
      (fits : s.payload.length ≤ c.clientToNetwork.remaining) : DeviceAct s c (c.storePayload s)
  | fin (c : TcpConnection) : DeviceAct s c { c with tcb.finReceived := true }
  | consumeFin (c : TcpConnection) (received : c.tcb.finReceived = true)
      (drained : c.clientToNetwork.isEmpty = true) : DeviceAct s c c.doHandleFin
  | finAck (c : TcpConnection) : DeviceAct s c c.handleFinAck

theorem handleAck_acts (c : TcpConnection) (s : Segment)
    (inSequence : s.header.sequenceNumber = c.tcb.acknowledgementNumber) :
    ReflTransGen (DeviceAct s) c (c.handleAck s) := by
  unfold handleAck
  split
  · rename_i half
    exact .single (.establish c half)
  · rename_i ready
    split
    · exact .refl
    · rename_i data
      split
      · exact .single (.reply c flagAck (.inl rfl))
      · rename_i fits
        exact .tail (.single (.store c inSequence ready data (by omega))) (.reply _ flagAck (.inl rfl))

theorem handleFin_acts (c : TcpConnection) (s : Segment) : ReflTransGen (DeviceAct s) c c.handleFin := by
  unfold handleFin
  dsimp only
  split
  · rename_i drained
    exact .tail (.single (.fin c)) (.consumeFin _ rfl drained)
  · exact .single (.fin c)

theorem checkFinAck_acts (c : TcpConnection) (s : Segment) :
    ReflTransGen (DeviceAct s) c (c.checkFinAck s) := by
  unfold checkFinAck
  split
  · split
    · exact .single (.finAck c)
    · exact .refl
  · exact .refl

theorem handleExpected_acts (c : TcpConnection) (s : Segment)
    (inSequence : s.header.sequenceNumber = c.tcb.acknowledgementNumber) :
    ReflTransGen (DeviceAct s) c (c.handleExpected s) := by
  have expected : ReflTransGen (DeviceAct s) c (c.expectedPacket s) := .single (.expect c)
  have ack : ReflTransGen (DeviceAct s) (c.expectedPacket s) ((c.expectedPacket s).takeAck s) := by
    unfold takeAck
    split
    · exact handleAck_acts _ s inSequence
    · exact .refl
  have fin (c : TcpConnection) : ReflTransGen (DeviceAct s) c (c.takeFin s) := by
    unfold takeFin
    split
    · exact handleFin_acts c s
    · exact .refl
  unfold handleExpected
  split
  · exact expected.tail (.close _)
  · exact ((expected.trans ack).trans (fin _)).trans (checkFinAck_acts _ s)

theorem handlePacket_acts (c : TcpConnection) (s : Segment) (random : UInt32)
    (started : c.tcb.state ≠ .init) (noSyn : s.header.isSyn = false) :
    ReflTransGen (DeviceAct s) c (c.handlePacket s random) := by
  unfold handlePacket
  rw [if_neg started, if_neg (by simp [noSyn])]
  split
  · split
    · exact .single (.reply c flagAck (.inl rfl))
    · exact .refl
  · rename_i inSequence
    exact handleExpected_acts c s (Decidable.not_not.mp inSequence)

/-- What the first packet, or another SYN before the connection is made, sets before anything else. -/
inductive Opens (s : Segment) (random : UInt32) (c : TcpConnection) : TcpConnection → Prop where
  | syn (init : c.tcb.state = .init) (isSyn : s.header.isSyn = true) : Opens s random c { c with
      tcb.acknowledgementNumber := s.header.sequenceNumber + 1
      tcb.synSequenceNumber := s.header.sequenceNumber
      tcb.sequenceNumber := random
      tcb.clientWindow := s.header.window
      tcb.state := .synSent }
  | stray (init : c.tcb.state = .init) (noSyn : s.header.isSyn = false) :
      Opens s random c { c with tcb.sequenceNumber := s.header.acknowledgementNumber }
  | again (connecting : c.tcb.state = .synSent) (isSyn : s.header.isSyn = true) : Opens s random c { c with
      tcb.synSequenceNumber := s.header.sequenceNumber
      tcb.acknowledgementNumber := s.header.sequenceNumber + 1 }
  | later (begun : c.tcb.state ≠ .init) (settled : c.tcb.state = .synSent → s.header.isSyn = false) :
      Opens s random c c

/-- A SYN that does not belong to the connection is refused, any other is ignored. -/
theorem handleDuplicateSyn_acts (c : TcpConnection) (s : Segment) (settled : c.tcb.state ≠ .synSent) :
    ReflTransGen (DeviceAct s) c (c.handleDuplicateSyn s) := by
  rw [handleDuplicateSyn, if_neg settled]
  split
  · exact .tail (.single (.reply c flagRst (.inr rfl))) (.close _)
  · exact .refl

theorem handlePacket_opens (c : TcpConnection) (s : Segment) (random : UInt32) :
    ∃ c', Opens s random c c' ∧ ReflTransGen (DeviceAct s) c' (c.handlePacket s random) := by
  by_cases init : c.tcb.state = .init
  · rw [handlePacket, if_pos init, handleFirstPacket]
    split
    · rename_i isSyn
      exact ⟨_, .syn init isSyn, .refl⟩
    · rename_i noSyn
      exact ⟨_, .stray init (Bool.eq_false_iff.mpr noSyn), .tail (.single (.reply _ flagRst (.inr rfl))) (.close _)⟩
  cases isSyn : s.header.isSyn with
  | true =>
    rw [handlePacket, if_neg init, if_pos isSyn]
    by_cases connecting : c.tcb.state = .synSent
    · rw [handleDuplicateSyn, if_pos connecting]
      exact ⟨_, .again connecting isSyn, .refl⟩
    · exact ⟨c, .later init (fun sent => absurd sent connecting), handleDuplicateSyn_acts c s connecting⟩
  | false => exact ⟨c, .later init (fun _ => isSyn), handlePacket_acts c s random init isSyn⟩

/-- The rule for a packet: what its opening gives and every act preserves. -/
theorem handlePacket_invariant {P : TcpConnection → Prop} {c : TcpConnection} {s : Segment} {random : UInt32}
    (opening : ∀ c', Opens s random c c' → P c') (preserve : ∀ a b, P a → DeviceAct s a b → P b) :
    P (c.handlePacket s random) := by
  obtain ⟨c', opens, acts⟩ := handlePacket_opens c s random
  exact acts_invariant preserve acts (opening c' opens)

theorem handlePacket_later_acts {c : TcpConnection} {s : Segment} (random : UInt32) (begun : c.tcb.state ≠ .init)
    (settled : ¬ (c.tcb.state = .synSent ∧ s.header.isSyn = true)) :
    ReflTransGen (DeviceAct s) c (c.handlePacket s random) := by
  obtain ⟨c', opens, acts⟩ := handlePacket_opens c s random
  cases opens with
  | syn init isSyn => exact absurd init begun
  | stray init noSyn => exact absurd init begun
  | again connecting isSyn => exact absurd ⟨connecting, isSyn⟩ settled
  | later begun settled => exact acts

theorem handlePacket_settled_acts {c : TcpConnection} (s : Segment) (random : UInt32) (begun : c.tcb.state ≠ .init)
    (settled : c.tcb.state ≠ .synSent) : ReflTransGen (DeviceAct s) c (c.handlePacket s random) :=
  handlePacket_later_acts random begun fun again => settled again.1

/-! ### Acts of a poll -/

/-- The answers that the receive loop reads. -/
def loopReads : Nat → TcpConnection → List ReadAnswer → List ReadAnswer
  | 0, _, _ => []
  | n + 1, c, reads =>
    if c.packetForClientLength.isSome then []
    else if c.tcb.remainingClientWindow = 0 then []
    else
      reads.headD (.error .wouldBlock) :: match c.receiveOne (reads.headD (.error .wouldBlock)) with
        | (c, .again) => loopReads n c reads.tail
        | (_, .leave _) => []

/-- The answers that the poll reads: none unless the flush and the write let it go on to an open, Established
connection. -/
def readsOf (c : TcpConnection) (a : PollAnswers) : List ReadAnswer :=
  match c.pollFlush with
  | .error _ => []
  | .ok (flushed, madeProgress) =>
    match flushed.pollSend a.send madeProgress with
    | .error _ => []
    | .ok (sent, _) => if !sent.closed && sent.mayRead then loopReads maxPacketsPerPoll sent a.reads else []

inductive ReceiveAct (reads : List ReadAnswer) : TcpConnection → TcpConnection → Prop where
  | turn (c : TcpConnection) (answer : ReadAnswer) (given : answer = .error .wouldBlock ∨ answer ∈ reads)
      (free : c.packetForClientLength = none) (established : c.tcb.state = .established)
      (window : c.tcb.remainingClientWindow ≠ 0) : ReceiveAct reads c (c.receiveOne answer).1

/-- What `pollSelf` does. Nothing is built while a packet is deferred. -/
inductive NetworkAct (a : PollAnswers) : TcpConnection → TcpConnection → Prop where
  | flush (c c' : TcpConnection) (pending : c.packetForClientLength.isSome = true)
      (flushed : c.flushPendingPacket = .ok c') : NetworkAct a c c'
  | write (c : TcpConnection) (buffer : StreamBuffer) (bytes : List UInt8)
      (written : c.clientToNetwork.writeTo a.send = .ok (buffer, bytes)) :
      NetworkAct a c { c with clientToNetwork := buffer, history := c.history ++ [Effect.written bytes] }
  | reply (c : TcpConnection) (flags : UInt16) (free : c.packetForClientLength = none) (plain : Plain flags) :
      NetworkAct a c (c.sendEmptyPacketToClient flags)
  | close (c : TcpConnection) : NetworkAct a c c.close
  | consumeFin (c : TcpConnection) (free : c.packetForClientLength = none)
      (received : c.tcb.finReceived = true) (drained : c.clientToNetwork.isEmpty = true) :
      NetworkAct a c c.doHandleFin
  | receive (c c' : TcpConnection) (turn : ReceiveAct a.reads c c') : NetworkAct a c c'
  | connect (c : TcpConnection) (free : c.packetForClientLength = none)
      (connecting : c.tcb.state = .synSent) : NetworkAct a c c.processConnect

def Stage.connection : Stage → TcpConnection
  | .ok (c, _) => c
  | .error (c, _) => c

theorem flushPendingPacket_free {c c' : TcpConnection} (flushed : c.flushPendingPacket = .ok c') :
    c'.packetForClientLength = none := by
  cases flushes flushed with
  | nothing free => exact free
  | sent len buffer waiting fits => rfl

theorem pollFlush_ok {c c' : TcpConnection} (flushed : c.flushPendingPacket = .ok c') :
    ∃ madeProgress, c.pollFlush = .ok (c', madeProgress) := by
  unfold pollFlush
  split
  · rw [flushed]
    exact ⟨true, rfl⟩
  · rename_i nothing
    rw [flushPendingPacket, show c.packetForClientLength = none by simpa using nothing] at flushed
    cases flushed
    exact ⟨false, rfl⟩

theorem pollFlush_error {c : TcpConnection} {e : ErrorKind} (stuck : c.flushPendingPacket = .error e) :
    c.pollFlush = .error (c, .error e) := by
  unfold pollFlush
  split
  · rw [stuck]
  · rename_i nothing
    rw [flushPendingPacket, show c.packetForClientLength = none by simpa using nothing] at stuck
    cases stuck

@[simp] theorem packetForClientLength_doHandleFin (c : TcpConnection) :
    c.doHandleFin.packetForClientLength = c.packetForClientLength := by
  unfold doHandleFin
  dsimp only
  split_ifs <;> simp [close]

theorem processSend_acts (c : TcpConnection) (a : PollAnswers)
    (free : c.packetForClientLength = none) :
    ReflTransGen (NetworkAct a) c (c.processSend a.send).1 ∧
      (c.processSend a.send).1.packetForClientLength = none ∧
      (c.processSend a.send).2 ≠ .error .other := by
  unfold processSend
  cases written : c.clientToNetwork.writeTo a.send with
  | ok result =>
    obtain ⟨buffer, bytes⟩ := result
    have wrote := ReflTransGen.single (NetworkAct.write c buffer bytes written)
    dsimp only
    split_ifs with some drained
    · rw [Bool.and_eq_true] at drained
      exact ⟨wrote.tail (.consumeFin _ free drained.1 drained.2), by simpa using free, by simp⟩
    · exact ⟨wrote.tail (.reply _ flagAck free (.inl rfl)), by simpa using free, by simp⟩
    · exact ⟨wrote.tail (.close _), free, by simp⟩
  | error e =>
    cases e with
    | wouldBlock => exact ⟨.refl, free, by simp⟩
    | other =>
      exact ⟨.tail (.single (.reply c flagRst free (.inr rfl))) (.close _), by simpa [close] using free, by simp⟩

theorem pollSend_cases (c : TcpConnection) (a : PollAnswers) (madeProgress : Bool)
    (free : c.packetForClientLength = none) :
    (c.pollSend a.send madeProgress).connection = c ∨
      (c.pollSend a.send madeProgress).connection = (c.processSend a.send).1 := by
  unfold pollSend
  split
  · have noError := (processSend_acts c a free).2.2
    rcases result : c.processSend a.send with ⟨c', (_ | _) | _⟩ <;> rw [result] at noError
    · exact Or.inr rfl
    · exact absurd rfl noError
    · exact Or.inr rfl
  · exact Or.inl rfl

theorem receiveOne_state (c : TcpConnection) (answer : ReadAnswer)
    (free : c.packetForClientLength = none) (established : c.tcb.state = .established) :
    (c.receiveOne answer).1.tcb.state ≠ .synSent ∧
      ((c.receiveOne answer).2 = .again → (c.receiveOne answer).1.packetForClientLength = none ∧
        (c.receiveOne answer).1.tcb.state = .established) := by
  have turn := c.receiveOne_turn answer
  generalize c.receiveOne answer = result at turn ⊢
  cases turn with
  | sent p packet buffer ok fits => simp [free, established]
  | deferred p packet e ok full => simp [established]
  | ended p ok => simp [eof]
  | blocked => simp [established]
  | failed => simp [close, established]

theorem receiveLoop_acts (n : Nat) (c : TcpConnection) {given reads : List ReadAnswer} (madeProgress : Bool)
    (part : ∀ answer ∈ loopReads n c reads, answer ∈ given) (established : c.tcb.state = .established) :
    ReflTransGen (ReceiveAct given) c (receiveLoop n c reads madeProgress).1 ∧
      (receiveLoop n c reads madeProgress).1.tcb.state ≠ .synSent := by
  induction n generalizing c reads madeProgress with
  | zero => exact ⟨.refl, by simp [receiveLoop, established]⟩
  | succ n ih =>
    unfold loopReads at part
    unfold receiveLoop
    split_ifs at part ⊢ with pending empty
    · exact ⟨.refl, by simp [established]⟩
    · exact ⟨.refl, by simp [established]⟩
    · have free : c.packetForClientLength = none := by simpa using pending
      have turn := ReceiveAct.turn c _ (Or.inr (part _ List.mem_cons_self)) free established empty
      have state := receiveOne_state c (reads.headD (.error .wouldBlock)) free established
      cases result : c.receiveOne (reads.headD (.error .wouldBlock)) with
      | mk c' how =>
        rw [result] at turn state part
        cases how with
        | again =>
          obtain ⟨acts, other⟩ := ih c' true (fun answer member => part answer (List.mem_cons_of_mem _ member))
            (state.2 rfl).2
          exact ⟨ReflTransGen.head turn acts, other⟩
        | leave progress => exact ⟨.single turn, state.1⟩

theorem mem_loopReads {n : Nat} {c : TcpConnection} {reads : List ReadAnswer} {answer : ReadAnswer}
    (member : answer ∈ loopReads n c reads) : answer = .error .wouldBlock ∨ answer ∈ reads := by
  induction n generalizing c reads with
  | zero => cases member
  | succ n ih =>
    unfold loopReads at member
    split_ifs at member
    · cases member
    · cases member
    · have first : reads.headD (.error .wouldBlock) = .error .wouldBlock ∨
          reads.headD (.error .wouldBlock) ∈ reads := by
        cases reads with
        | nil => exact Or.inl rfl
        | cons head rest => exact Or.inr List.mem_cons_self
      rcases List.mem_cons.mp member with rfl | member
      · exact first
      · split at member
        · exact (ih member).imp id List.mem_of_mem_tail
        · cases member

/-- What a poll reads was given to it. -/
theorem mem_readsOf {c : TcpConnection} {a : PollAnswers} {answer : ReadAnswer} (member : answer ∈ c.readsOf a) :
    answer = .error .wouldBlock ∨ answer ∈ a.reads := by
  unfold readsOf at member
  split at member
  · cases member
  · split at member
    · cases member
    · split_ifs at member
      · exact mem_loopReads member
      · cases member

theorem mayRead_established {c : TcpConnection} (h : c.mayRead = true) : c.tcb.state = .established := by
  unfold mayRead at h
  cases state : c.tcb.state <;> simp [state, TcpState.isConnected, TcpState.isClosed] at h ⊢

theorem pollReceive_acts (c : TcpConnection) {given reads : List ReadAnswer} (madeProgress : Bool)
    (part : ∀ answer ∈ if !c.closed && c.mayRead then loopReads maxPacketsPerPoll c reads else [], answer ∈ given)
    (free : c.packetForClientLength = none) :
    ReflTransGen (ReceiveAct given) c (c.pollReceive reads madeProgress).connection ∧
      ((c.pollReceive reads madeProgress).connection.tcb.state = .synSent →
        (c.pollReceive reads madeProgress).connection.packetForClientLength = none) := by
  unfold pollReceive
  split_ifs at part ⊢ with may
  · rw [Bool.and_eq_true] at may
    obtain ⟨acts, state⟩ := receiveLoop_acts maxPacketsPerPoll c false part (mayRead_established may.2)
    unfold processReceive
    rcases result : receiveLoop maxPacketsPerPoll c reads false with ⟨c', progress⟩
    rw [result] at acts state
    cases progress with
    | true => exact ⟨acts, fun sent => absurd sent state⟩
    | false => exact ⟨acts, fun sent => absurd sent state⟩
  · exact ⟨.refl, fun _ => free⟩

theorem pollConnect_cases (c : TcpConnection) (answer : Except ErrorKind Unit) (madeProgress : Bool) :
    (c.pollConnect answer madeProgress).connection = c ∨ c.tcb.state = .synSent ∧
      ((c.pollConnect answer madeProgress).connection = c.processConnect ∨
        (c.pollConnect answer madeProgress).connection = c.close) := by
  unfold pollConnect
  split
  · rename_i connecting
    rcases answer with (_ | _) | _
    · exact Or.inl rfl
    · exact Or.inr ⟨connecting, Or.inr rfl⟩
    · exact Or.inr ⟨connecting, Or.inl rfl⟩
  · exact Or.inl rfl

/-- The states that a poll passes through: after the flush, after the write, after the reads. -/
structure PollPath (c : TcpConnection) (a : PollAnswers) (flushed sent received last : TcpConnection) :
    Prop where
  isOpen : c.closed = false
  flush : c.flushPendingPacket = .ok flushed
  send : sent = flushed ∨ sent = (flushed.processSend a.send).1
  sendFree : sent.packetForClientLength = none
  receive : ReflTransGen (ReceiveAct (c.readsOf a)) sent received
  receiveFree : received.tcb.state = .synSent → received.packetForClientLength = none
  connect : last = received ∨
    received.tcb.state = .synSent ∧ (last = received.processConnect ∨ last = received.close)

theorem pollStages_path {c c₁ : TcpConnection} (a : PollAnswers) (isOpen : c.closed = false)
    (flushed : c.flushPendingPacket = .ok c₁) :
    ∃ sent received, PollPath c a c₁ sent received (c.pollStages a).connection := by
  obtain ⟨m₁, flush⟩ := pollFlush_ok flushed
  have free := flushPendingPacket_free flushed
  have send := pollSend_cases c₁ a m₁ free
  have sendFree : (c₁.pollSend a.send m₁).connection.packetForClientLength = none := by
    rcases send with same | same <;> rw [same]
    · exact free
    · exact (processSend_acts c₁ a free).2.1
  unfold pollStages
  rw [flush, ok_bind]
  dsimp only
  rcases sent : c₁.pollSend a.send m₁ with ⟨c₂, r⟩ | ⟨c₂, m₂⟩ <;> rw [sent] at send sendFree
  · exact ⟨c₂, c₂, isOpen, flushed, send, sendFree, .refl, fun _ => sendFree, Or.inl rfl⟩
  rw [ok_bind]
  have part : ∀ answer ∈ if !c₂.closed && c₂.mayRead then loopReads maxPacketsPerPoll c₂ a.reads else [],
      answer ∈ c.readsOf a := by
    intro answer member
    rw [readsOf, flush]
    dsimp only
    rwa [sent]
  obtain ⟨receive, receiveFree⟩ := pollReceive_acts c₂ m₂ part sendFree
  dsimp only
  rcases received : c₂.pollReceive a.reads m₂ with ⟨c₃, r⟩ | ⟨c₃, m₃⟩ <;> rw [received] at receive receiveFree
  · exact ⟨c₂, c₃, isOpen, flushed, send, sendFree, receive, receiveFree, Or.inl rfl⟩
  rw [ok_bind]
  exact ⟨c₂, c₃, isOpen, flushed, send, sendFree, receive, receiveFree, pollConnect_cases c₃ a.connect m₃⟩

theorem pollSelf_closed {c : TcpConnection} (a : PollAnswers) (closed : c.closed = true) : (c.pollSelf a).1 = c := by
  rw [pollSelf, if_pos closed]

/-- A poll that cannot flush ends there with nothing changed. -/
theorem pollSelf_stuck {c : TcpConnection} (a : PollAnswers) {e : ErrorKind}
    (stuck : c.flushPendingPacket = .error e) : (c.pollSelf a).1 = c := by
  unfold pollSelf pollStages
  split
  · rfl
  · rw [pollFlush_error stuck]
    rfl

theorem pollSelf_path {c c₁ : TcpConnection} (a : PollAnswers) (isOpen : c.closed = false)
    (flushed : c.flushPendingPacket = .ok c₁) :
    ∃ sent received, PollPath c a c₁ sent received (c.pollSelf a).1 := by
  have path := pollStages_path a isOpen flushed
  rw [pollSelf, if_neg (by simp [isOpen])]
  rcases stages : c.pollStages a with ⟨c', r⟩ | ⟨c', _ | _⟩ <;> rw [stages] at path <;> exact path

theorem pollSelf_cases (c : TcpConnection) (a : PollAnswers) :
    (c.pollSelf a).1 = c ∨
      ∃ flushed sent received, PollPath c a flushed sent received (c.pollSelf a).1 := by
  cases closed : c.closed with
  | true => exact Or.inl (pollSelf_closed a closed)
  | false =>
    cases flushed : c.flushPendingPacket with
    | ok c₁ => exact Or.inr ⟨c₁, pollSelf_path a closed flushed⟩
    | error e => exact Or.inl (pollSelf_stuck a flushed)

/-! ### Polls of one kind -/

theorem pollSelf_connect {c : TcpConnection} {a : PollAnswers} (isOpen : c.closed = false)
    (free : c.packetForClientLength = none) (empty : c.clientToNetwork.isEmpty = true)
    (connecting : c.tcb.state = .synSent) (connected : a.connect = .ok ()) :
    (c.pollSelf a).1 = c.processConnect := by
  simp [pollSelf, pollStages, pollFlush, pollSend, mayWrite, pollReceive, mayRead, pollConnect, isOpen, free,
    empty, connecting, connected, TcpState.isConnected]

/-- A poll that flushes and has nothing to send and nothing to read. -/
theorem pollSelf_flush {c c' : TcpConnection} (a : PollAnswers) (isOpen : c.closed = false)
    (flushed : c.flushPendingPacket = .ok c') (empty : c'.clientToNetwork.isEmpty = true)
    (ended : c'.tcb.state.isClosed = true) : (c.pollSelf a).1 = c' := by
  obtain ⟨progress, flush⟩ := pollFlush_ok flushed
  have connected : c'.tcb.state ≠ .synSent := by
    intro connecting
    rw [connecting] at ended
    cases ended
  cases progress <;>
    simp [pollSelf, pollStages, flush, pollSend, mayWrite, pollReceive, mayRead, pollConnect, isOpen, empty, ended,
      connected]

/-- A poll of an idle Established connection whose first read is the last one. -/
theorem pollSelf_leave {c c' : TcpConnection} {a : PollAnswers} {progress : Bool} (isOpen : c.closed = false)
    (free : c.packetForClientLength = none) (empty : c.clientToNetwork.isEmpty = true)
    (established : c.tcb.state = .established) (window : c.tcb.remainingClientWindow ≠ 0)
    (turn : c.receiveOne (a.reads.headD (.error .wouldBlock)) = (c', .leave progress))
    (notConnecting : c'.tcb.state ≠ .synSent) : (c.pollSelf a).1 = c' := by
  have may : c.mayRead = true := by
    have : 0 < c.tcb.remainingClientWindow := UInt16.pos_iff_ne_zero.mpr window
    simp [mayRead, established, free, this, TcpState.isConnected, TcpState.isClosed]
  have loop : receiveLoop maxPacketsPerPoll c a.reads false = (c', progress) := by
    rw [maxPacketsPerPoll, receiveLoop, if_neg (by simp [free]), if_neg window, turn]
    rfl
  cases progress <;> simp [pollSelf, pollStages, pollFlush, pollSend, mayWrite, pollReceive, processReceive, loop,
    pollResult, pollConnect, isOpen, free, empty, may, notConnecting]

theorem pollSelf_eof {c : TcpConnection} {a : PollAnswers} {rest : List ReadAnswer} (isOpen : c.closed = false)
    (free : c.packetForClientLength = none) (empty : c.clientToNetwork.isEmpty = true)
    (established : c.tcb.state = .established) (window : c.tcb.remainingClientWindow ≠ 0)
    (ended : a.reads = .ok [] :: rest) :
    ∃ networkToClient, (c.pollSelf a).1 = { c with networkToClient }.eof := by
  have turn : ∃ networkToClient, c.receiveOne (a.reads.headD (.error .wouldBlock)) =
      ({ c with networkToClient }.eof, .leave true) := by
    simp only [ended, List.headD_cons, receiveOne, Packetizer.packetizeRead, recv, read, List.take_nil]
    exact ⟨_, rfl⟩
  obtain ⟨p, turn⟩ := turn
  exact ⟨p, pollSelf_leave isOpen free empty established window turn (by simp [eof])⟩

theorem flush_acts {c c' : TcpConnection} (a : PollAnswers) (flushed : c.flushPendingPacket = .ok c') :
    ReflTransGen (NetworkAct a) c c' := by
  by_cases pending : c.packetForClientLength.isSome = true
  · exact .single (.flush c c' pending flushed)
  · rw [flushPendingPacket, show c.packetForClientLength = none by simpa using pending] at flushed
    cases flushed
    exact .refl

theorem pollSelf_acts_read (c : TcpConnection) (a : PollAnswers) :
    ReflTransGen (NetworkAct { a with reads := c.readsOf a }) c (c.pollSelf a).1 := by
  rcases pollSelf_cases c a with same | ⟨flushed, sent, received, path⟩
  · rw [same]
  have toSent : ReflTransGen (NetworkAct { a with reads := c.readsOf a }) flushed sent := by
    rcases path.send with same | same <;> rw [same]
    exact (processSend_acts flushed { a with reads := c.readsOf a } (flushPendingPacket_free path.flush)).1
  have toReceived := ReflTransGen.mono (NetworkAct.receive (a := { a with reads := c.readsOf a })) _ _ path.receive
  have sofar := ((flush_acts _ path.flush).trans toSent).trans toReceived
  rcases path.connect with same | ⟨connecting, same | same⟩ <;> rw [same]
  · exact sofar
  · exact sofar.tail (.connect _ (path.receiveFree connecting) connecting)
  · exact sofar.tail (.close _)

theorem pollSelf_acts (c : TcpConnection) (a : PollAnswers) :
    ReflTransGen (NetworkAct a) c (c.pollSelf a).1 := by
  refine ReflTransGen.mono (fun x y act => ?_) _ _ (pollSelf_acts_read c a)
  cases act with
  | flush _ pending flushed => exact .flush _ _ pending flushed
  | write buffer bytes written => exact .write _ buffer bytes written
  | reply flags free plain => exact .reply _ flags free plain
  | close => exact .close _
  | consumeFin free received drained => exact .consumeFin _ free received drained
  | receive _ turn =>
    obtain ⟨answer, given, free, established, window⟩ := turn
    exact .receive _ _ (.turn _ answer (given.elim Or.inl mem_readsOf) free established window)
  | connect free connecting => exact .connect _ free connecting

end TcpConnection

/-! ### Runs -/

inductive Event where
  | packet (s : Segment) (random : UInt32)
  | poll (answers : PollAnswers)
  /-- What the other users of the shared buffer made of it: the device link and other connections. -/
  | shared (buffer : StreamBuffer)

def TcpConnection.step (c : TcpConnection) : Event → TcpConnection
  | .packet s random => c.handlePacket s random
  | .poll answers => (c.pollSelf answers).1
  | .shared buffer => { c with buffer }

/-! ### A handshake

A small concrete run that the examples and counterexamples below start with. -/

namespace Sample

def rawIpHeader : List UInt8 :=
  [0x45, 0, 0, 40, 0, 1, 0, 0, 64, 6, 0, 0, 10, 0, 0, 2, 93, 184, 216, 34]

def ipHeader : IpHeader := .v4 { raw := rawIpHeader, data := .ofRaw rawIpHeader }

def rawTcpHeader : List UInt8 :=
  [0xC3, 0x50, 0, 80, 0, 0, 0, 100, 0, 0, 0, 0, 0x50, 2, 0x10, 0, 0, 0, 0, 0]

def tcpHeader : TransportHeader := .tcp { raw := rawTcpHeader, data := .ofRaw rawTcpHeader }

/-- A segment of the device to port 80, with a window of 4096. -/
def segment (sequenceNumber acknowledgementNumber : UInt32) (flags : UInt16) (payload : List UInt8) :
    Segment where
  header := {
    sourcePort := 50000
    destinationPort := 80
    sequenceNumber, acknowledgementNumber, flags
    headerLength := 20
    window := 4096 }
  payload := payload

def handshake : List Event :=
  [.packet (segment 100 0 flagSyn []) 7, .poll { connect := .ok () }, .packet (segment 101 8 flagAck []) 0]

theorem created (buffer : StreamBuffer) : ∃ c, TcpConnection.create buffer ipHeader tcpHeader = .ok c :=
  (TcpConnection.create_isOk _ _ _).mpr (by decide)

def synSent (buffer : StreamBuffer) (p : Packetizer) : TcpConnection :=
  { TcpConnection.fresh buffer p with tcb := {
    state := .synSent
    synSequenceNumber := 100
    sequenceNumber := 7
    acknowledgementNumber := 101
    clientWindow := 4096 } }

def establishedTcb : Tcb where
  state := .established
  synSequenceNumber := 100
  sequenceNumber := 8
  acknowledgementNumber := 101
  theirAcknowledgementNumber := 8
  clientWindow := 4096

def established (buffer : StreamBuffer) (p : Packetizer) (e : Effect) : TcpConnection :=
  { TcpConnection.fresh buffer p with tcb := establishedTcb, history := [e] }

theorem window_established : establishedTcb.remainingClientWindow ≠ 0 := by decide

theorem handshake_syn (buffer : StreamBuffer) (p : Packetizer) :
    (TcpConnection.fresh buffer p).step (.packet (segment 100 0 flagSyn []) 7) = synSent buffer p := rfl

theorem handshake_connect (buffer : StreamBuffer) (p : Packetizer) :
    (synSent buffer p).step (.poll { connect := .ok () }) = (synSent buffer p).processConnect :=
  TcpConnection.pollSelf_connect rfl rfl rfl rfl rfl

def afterSynAck (buffer : StreamBuffer) (p : Packetizer) : Packetizer :=
  (TcpConnection.createEmptyResponsePacket p { (synSent buffer p).tcb with state := .synReceived }
    (flagSyn ||| flagAck) (synSent buffer p).advertisedWindow).1

theorem run_handshake (buffer : StreamBuffer) (p : Packetizer) : ∃ buffer' e, e.isReply = true ∧
    run TcpConnection.step (.fresh buffer p) handshake =
      established buffer' (afterSynAck buffer p) e := by
  obtain ⟨buffer', e, reply, synAck⟩ := ({ synSent buffer p with tcb.state := .synReceived } :
    TcpConnection).sendEmptyPacketToClient_frame (flagSyn ||| flagAck)
  refine ⟨buffer', e, reply, ?_⟩
  rw [handshake, run_cons, handshake_syn, run_cons, handshake_connect, TcpConnection.processConnect, synAck]
  rfl

end Sample

end Gnirehtet.Relay
