import Gnirehtet.Relay.StreamBuffer
import Gnirehtet.Relay.Packetizer

/-!
# The TCP connection

The relay's end of one TCP flow of the device: a state machine between the device's segments
(`handlePacket`) and the real socket on the host (`pollSelf`). The shared buffer to the device is the
`buffer` field; what other connections and the client do to it comes in between the calls. Numbers
wrap, as in the release build.

`history` is ghost state: what the connection has done, oldest first. No branch reads it.
-/

namespace Gnirehtet.Relay
open Lib

inductive TcpState where
  | init
  | synSent
  | synReceived
  | established
  | lastAck
  | closing
  | finWait1
  | finWait2
  deriving DecidableEq, Repr

namespace TcpState

def isConnected : TcpState → Bool
  | init | synSent | synReceived => false
  | _ => true

def isClosed : TcpState → Bool
  | finWait1 | finWait2 | closing | lastAck => true
  | _ => false

end TcpState

structure Tcb where
  state : TcpState := .init
  synSequenceNumber : UInt32 := 0
  sequenceNumber : UInt32 := 0
  acknowledgementNumber : UInt32 := 0
  theirAcknowledgementNumber : UInt32 := 0
  finSequenceNumber : Option UInt32 := none
  finReceived : Bool := false
  clientWindow : UInt16 := 0
  deriving DecidableEq, Repr

def Tcb.remainingClientWindow (t : Tcb) : UInt16 :=
  if t.clientWindow = 0 then 0
  else
    let remaining := t.theirAcknowledgementNumber + t.clientWindow.toUInt32 - t.sequenceNumber
    if remaining ≤ t.clientWindow.toUInt32 then remaining.toUInt16 else 0

/-- What `handle_packet` reads of a device packet. -/
structure Segment where
  header : TcpHeaderData
  payload : List UInt8

inductive Effect where
  /-- Bytes went into the shared buffer, which had `room` bytes left. -/
  | appended (packet : IpPacket) (room : Nat)
  /-- A control packet found the shared buffer full. -/
  | skipped (packet : IpPacket)
  | deferred (packet : IpPacket)
  | stored (payload : List UInt8)
  | finConsumed
  | written (bytes : List UInt8)
  | received (bytes : List UInt8)
  | eof

structure TcpConnection where
  buffer : StreamBuffer
  clientToNetwork : StreamBuffer
  networkToClient : Packetizer
  packetForClientLength : Option UInt16
  closed : Bool
  tcb : Tcb
  history : List Effect

/-- What the socket answers to the calls of one poll. Reads past the list would block. -/
structure PollAnswers where
  send : WriteAnswer := .error .wouldBlock
  reads : List ReadAnswer := []
  connect : Except ErrorKind Unit := .error .wouldBlock

def mtu : Nat := 1500

def maxPayloadLength : Nat := mtu - 20 - 20

def maxPacketsPerPoll : Nat := 32

namespace TcpConnection

/-! ### Creation -/

def shrinkHeader (tcpHeader : TcpHeader) : Checked TcpHeader := do
  let shrinkedRaw ← sliceTo tcpHeader.raw 20
  return ({ raw := shrinkedRaw, data := tcpHeader.data } : TcpHeader).shrinkOptions

def fresh (buffer : StreamBuffer) (networkToClient : Packetizer) : TcpConnection where
  buffer := buffer
  clientToNetwork := .new (32 * maxPacketLength)
  networkToClient := networkToClient
  packetForClientLength := none
  closed := false
  tcb := {}
  history := []

def create (buffer : StreamBuffer) (ipHeader : IpHeader) (transportHeader : TransportHeader) :
    Checked TcpConnection :=
  match transportHeader with
  | .udp _ => .error .assertion
  | .tcp tcpHeader => do
    let shrinked ← shrinkHeader tcpHeader
    let networkToClient ← Packetizer.new ipHeader (.tcp shrinked)
    return fresh buffer networkToClient

/-- Creation needs the fixed part of both headers, and an IP header of the stated length. -/
theorem create_isOk (buffer : StreamBuffer) (ipHeader : IpHeader) (tcpHeader : TcpHeader) :
    (∃ c, create buffer ipHeader (.tcp tcpHeader) = .ok c) ↔
      20 ≤ tcpHeader.raw.length ∧ ipHeader.raw.length = ipHeader.headerLength.toNat ∧
        ipHeader.data.minHeaderLength ≤ ipHeader.raw.length := by
  unfold create shrinkHeader sliceTo
  by_cases long : 20 ≤ tcpHeader.raw.length
  · simp only [if_pos long, ok_bind, pure_bind]
    have length : (({ raw := tcpHeader.raw.take 20, data := tcpHeader.data } : TcpHeader).shrinkOptions).raw.length
        = 20 := by
      simp only [TcpHeader.shrinkOptions, TcpHeader.setDataOffset, length_writeU16, List.length_take]
      omega
    have new := Packetizer.new_isOk ipHeader
      (.tcp ({ raw := tcpHeader.raw.take 20, data := tcpHeader.data } : TcpHeader).shrinkOptions)
    rw [TransportHeader.raw, length] at new
    have stated : (TransportHeader.tcp ({ raw := tcpHeader.raw.take 20, data := tcpHeader.data } :
      TcpHeader).shrinkOptions).headerLength.toNat = 20 := rfl
    rw [stated] at new
    constructor
    · rintro ⟨c, ok⟩
      obtain ⟨p, ok, _⟩ := bind_ok ok
      have fits := new.mp ⟨p, ok⟩
      exact ⟨long, fits.1.1, fits.2.1⟩
    · rintro ⟨_, same, least⟩
      obtain ⟨p, ok⟩ := new.mpr ⟨⟨same, rfl⟩, least, by omega⟩
      exact ⟨_, by rw [ok]; rfl⟩
  · simp only [if_neg long, error_bind]
    exact iff_of_false (by rintro ⟨c, ok⟩; cases ok) fun ok => long ok.1

theorem create_eq {buffer : StreamBuffer} {ipHeader : IpHeader} {transportHeader : TransportHeader}
    {c : TcpConnection} (created : create buffer ipHeader transportHeader = .ok c) :
    c = fresh buffer c.networkToClient := by
  unfold create at created
  cases transportHeader with
  | udp h => cases created
  | tcp h =>
    obtain ⟨shrinked, _, created⟩ := bind_ok created
    obtain ⟨p, _, created⟩ := bind_ok created
    cases created
    rfl

theorem create_payloadIndex {buffer : StreamBuffer} {ipHeader : IpHeader} {transportHeader : TransportHeader}
    {c : TcpConnection} (created : create buffer ipHeader transportHeader = .ok c) :
    c.networkToClient.payloadIndex = ipHeader.headerLength.toNat + 20 := by
  unfold create at created
  cases transportHeader with
  | udp h => cases created
  | tcp h =>
    obtain ⟨shrinked, cut, created⟩ := bind_ok created
    obtain ⟨p, new, same⟩ := bind_ok created
    cases same
    obtain ⟨raw, _, same⟩ := bind_ok cut
    cases same
    exact Packetizer.new_payloadIndex new

/-! ### Packets to the device -/

def sendPacketToBuffer (buffer : StreamBuffer) (ipPacket : IpPacket) : Except ErrorKind StreamBuffer :=
  if ipPacket.length.toNat ≤ buffer.remaining then .ok (buffer.readFrom ipPacket.raw)
  else .error .wouldBlock

/-- The four fields that `update_headers` sets. -/
def editHeader (tcb : Tcb) (flags window : UInt16) : TransportHeader → TransportHeader
  | .tcp h =>
    .tcp ((((h.setSequenceNumber tcb.sequenceNumber).setAcknowledgementNumber
      tcb.acknowledgementNumber).setFlags flags).setWindow window)
  | .udp h => .udp h

def updateHeaders (packetizer : Packetizer) (tcb : Tcb) (flags window : UInt16) : Packetizer :=
  packetizer.modifyTransport (editHeader tcb flags window) fun h => by cases h <;> rfl

def createEmptyResponsePacket (packetizer : Packetizer) (tcb : Tcb) (flags window : UInt16) :
    Packetizer × IpPacket :=
  (updateHeaders packetizer tcb flags window).packetizeEmptyPayload

def advertisedWindow (c : TcpConnection) : UInt16 := (min c.clientToNetwork.remaining 65535).toUInt16

/-- A full shared buffer drops the packet. -/
def sendEmptyPacketToClient (c : TcpConnection) (flags : UInt16) : TcpConnection :=
  let response := createEmptyResponsePacket c.networkToClient c.tcb flags c.advertisedWindow
  match sendPacketToBuffer c.buffer response.2 with
  | .ok buffer =>
    { c with
      networkToClient := response.1
      buffer
      history := c.history ++ [Effect.appended response.2 c.buffer.remaining] }
  | .error _ =>
    { c with
      networkToClient := response.1
      history := c.history ++ [Effect.skipped response.2] }

/-- The channel holds the same shared buffer and makes the same check. -/
def replyEmptyPacketToClient (c : TcpConnection) (flags : UInt16) : TcpConnection :=
  c.sendEmptyPacketToClient flags

def close (c : TcpConnection) : TcpConnection := { c with closed := true }

/-! ### Packets from the device -/

def doHandleFin (c : TcpConnection) : TcpConnection :=
  let c := { c with
    tcb.acknowledgementNumber := c.tcb.acknowledgementNumber + 1
    history := c.history ++ [Effect.finConsumed] }
  if c.tcb.state = .established then
    let c := c.sendEmptyPacketToClient (flagFin ||| flagAck)
    { c with
      tcb.finSequenceNumber := some c.tcb.sequenceNumber
      tcb.sequenceNumber := c.tcb.sequenceNumber + 1
      tcb.state := .lastAck }
  else if c.tcb.state = .finWait1 then
    let c := c.sendEmptyPacketToClient flagAck
    { c with tcb.state := .closing }
  else if c.tcb.state = .finWait2 then (c.sendEmptyPacketToClient flagAck).close
  else c

def handleFin (c : TcpConnection) : TcpConnection :=
  let c := { c with tcb.finReceived := true }
  if c.clientToNetwork.isEmpty then c.doHandleFin else c

def handleFinAck (c : TcpConnection) : TcpConnection :=
  if c.tcb.state = .lastAck ∨ c.tcb.state = .closing then c.close
  else if c.tcb.state = .finWait1 then { c with tcb.state := .finWait2 }
  else c

def storePayload (c : TcpConnection) (s : Segment) : TcpConnection :=
  { c with
    clientToNetwork := c.clientToNetwork.readFrom s.payload
    tcb.acknowledgementNumber := c.tcb.acknowledgementNumber + s.payload.length.toUInt32
    history := c.history ++ [Effect.stored s.payload] }

def handleAck (c : TcpConnection) (s : Segment) : TcpConnection :=
  if c.tcb.state = .synReceived then { c with tcb.state := .established }
  else if s.payload = [] then c
  else if c.clientToNetwork.remaining < s.payload.length then c.sendEmptyPacketToClient flagAck
  else (c.storePayload s).sendEmptyPacketToClient flagAck

/-- `random` is the initial sequence number that the relay draws. -/
def handleFirstPacket (c : TcpConnection) (s : Segment) (random : UInt32) : TcpConnection :=
  if s.header.isSyn then
    { c with
      tcb.acknowledgementNumber := s.header.sequenceNumber + 1
      tcb.synSequenceNumber := s.header.sequenceNumber
      tcb.sequenceNumber := random
      tcb.clientWindow := s.header.window
      tcb.state := .synSent }
  else
    let c := { c with tcb.sequenceNumber := s.header.acknowledgementNumber }
    (c.replyEmptyPacketToClient flagRst).close

def handleDuplicateSyn (c : TcpConnection) (s : Segment) : TcpConnection :=
  if c.tcb.state = .synSent then
    { c with
      tcb.synSequenceNumber := s.header.sequenceNumber
      tcb.acknowledgementNumber := s.header.sequenceNumber + 1 }
  else if s.header.sequenceNumber ≠ c.tcb.synSequenceNumber then
    (c.replyEmptyPacketToClient flagRst).close
  else c

def expectedPacket (c : TcpConnection) (s : Segment) : TcpConnection :=
  { c with
    tcb.clientWindow := s.header.window
    tcb.theirAcknowledgementNumber := s.header.acknowledgementNumber }

/-- The acknowledgement of the relay's own FIN, tested on every expected segment that is no reset. -/
def checkFinAck (c : TcpConnection) (s : Segment) : TcpConnection :=
  match c.tcb.finSequenceNumber with
  | some fin => if s.header.acknowledgementNumber = fin + 1 then c.handleFinAck else c
  | none => c

def takeAck (c : TcpConnection) (s : Segment) : TcpConnection :=
  if s.header.isAck then c.handleAck s else c

def takeFin (c : TcpConnection) (s : Segment) : TcpConnection :=
  if s.header.isFin then c.handleFin else c

/-- The rest of `handle_packet`, for a segment with the expected sequence number. -/
def handleExpected (c : TcpConnection) (s : Segment) : TcpConnection :=
  if s.header.isRst then (c.expectedPacket s).close
  else (((c.expectedPacket s).takeAck s).takeFin s).checkFinAck s

def handlePacket (c : TcpConnection) (s : Segment) (random : UInt32) : TcpConnection :=
  if c.tcb.state = .init then c.handleFirstPacket s random
  else if s.header.isSyn then c.handleDuplicateSyn s
  else if s.header.sequenceNumber ≠ c.tcb.acknowledgementNumber then
    -- A number before the expected one is a retransmission.
    if (s.header.sequenceNumber - c.tcb.acknowledgementNumber).toInt32 < 0 then
      c.sendEmptyPacketToClient flagAck
    else c
  else c.handleExpected s

/-! ### The network side -/

/-- The length added is that of the IP packet. -/
def flushPendingPacket (c : TcpConnection) : Except ErrorKind TcpConnection :=
  match c.packetForClientLength with
  | none => .ok c
  | some len =>
    let ipPacket := c.networkToClient.inflate len
    match sendPacketToBuffer c.buffer ipPacket with
    | .ok buffer =>
      .ok { c with
        buffer
        tcb.sequenceNumber := c.tcb.sequenceNumber + len.toUInt32
        packetForClientLength := none
        history := c.history ++ [Effect.appended ipPacket c.buffer.remaining] }
    | .error e => .error e

def eof (c : TcpConnection) : TcpConnection :=
  let c := { c with
    tcb.acknowledgementNumber := c.tcb.acknowledgementNumber + 1
    history := c.history ++ [Effect.eof] }
  let c := c.sendEmptyPacketToClient (flagFin ||| flagAck)
  { c with
    tcb.finSequenceNumber := some c.tcb.sequenceNumber
    tcb.sequenceNumber := c.tcb.sequenceNumber + 1
    tcb.state := .finWait1 }

def processConnect (c : TcpConnection) : TcpConnection :=
  let c := { c with tcb.state := .synReceived }
  let c := c.sendEmptyPacketToClient (flagSyn ||| flagAck)
  { c with tcb.sequenceNumber := c.tcb.sequenceNumber + 1 }

def mayRead (c : TcpConnection) : Bool :=
  c.tcb.state.isConnected && !c.tcb.state.isClosed && c.packetForClientLength.isNone &&
    decide (0 < c.tcb.remainingClientWindow)

def mayWrite (c : TcpConnection) : Bool := !c.clientToNetwork.isEmpty

def processSend (c : TcpConnection) (answer : WriteAnswer) : TcpConnection × Except ErrorKind Unit :=
  match c.clientToNetwork.writeTo answer with
  | .ok (clientToNetwork, bytes) =>
    let c := { c with clientToNetwork, history := c.history ++ [Effect.written bytes] }
    if bytes.length ≠ 0 then
      if c.tcb.finReceived && c.clientToNetwork.isEmpty then (c.doHandleFin, .ok ())
      else (c.sendEmptyPacketToClient flagAck, .ok ())
    else (c.close, .ok ())
  | .error .wouldBlock => (c, .error .wouldBlock)
  | .error .other => ((c.sendEmptyPacketToClient flagRst).close, .ok ())

/-- How one turn of the receive loop ends: with a packet sent, or out of the loop. -/
inductive Turn where
  | again
  | leave (madeProgress : Bool)
  deriving DecidableEq

/-- The turn that reads: the headers are updated before the read, whatever it answers. -/
def receiveOne (c : TcpConnection) (answer : ReadAnswer) : TcpConnection × Turn :=
  let maxPayload := min c.tcb.remainingClientWindow.toNat maxPayloadLength
  let networkToClient :=
    updateHeaders c.networkToClient c.tcb (flagAck ||| flagPsh) c.advertisedWindow
  match networkToClient.packetizeRead answer (some maxPayload) with
  | .ok (networkToClient, some ipPacket) =>
    let payload := ipPacket.raw.drop networkToClient.payloadIndex
    let c := { c with networkToClient, history := c.history ++ [Effect.received payload] }
    match sendPacketToBuffer c.buffer ipPacket with
    | .ok buffer =>
      ({ c with
        buffer
        tcb.sequenceNumber := c.tcb.sequenceNumber + payload.length.toUInt32
        history := c.history ++ [Effect.appended ipPacket c.buffer.remaining] }, .again)
    | .error _ =>
      ({ c with
        packetForClientLength := some ipPacket.length
        history := c.history ++ [Effect.deferred ipPacket] }, .leave false)
  | .ok (networkToClient, none) => ({ c with networkToClient }.eof, .leave true)
  | .error .wouldBlock => ({ c with networkToClient }, .leave false)
  | .error .other =>
    (({ c with networkToClient }.sendEmptyPacketToClient flagRst).close, .leave true)

/-- At most `n` turns. Leaving without progress keeps the progress of earlier turns. -/
def receiveLoop : Nat → TcpConnection → List ReadAnswer → Bool → TcpConnection × Bool
  | 0, c, _, madeProgress => (c, madeProgress)
  | n + 1, c, reads, madeProgress =>
    if c.packetForClientLength.isSome then (c, madeProgress)
    else if c.tcb.remainingClientWindow = 0 then (c, madeProgress)
    else
      match c.receiveOne (reads.headD (.error .wouldBlock)) with
      | (c, .again) => receiveLoop n c reads.tail true
      | (c, .leave progress) => (c, madeProgress || progress)

def processReceive (c : TcpConnection) (reads : List ReadAnswer) :
    TcpConnection × Except ErrorKind Unit :=
  let (c, madeProgress) := receiveLoop maxPacketsPerPoll c reads false
  (c, if madeProgress then .ok () else .error .wouldBlock)

/-- A stage of a poll goes on with the connection and whether it made progress, or returns. -/
abbrev Stage := Except (TcpConnection × Except ErrorKind Unit) (TcpConnection × Bool)

def pollFlush (c : TcpConnection) : Stage :=
  if c.packetForClientLength.isSome then
    match c.flushPendingPacket with
    | .ok c => .ok (c, true)
    | .error e => .error (c, .error e)
  else .ok (c, false)

/-- What `poll_self` does with the result of `process_send` or `process_receive`. -/
def pollResult (madeProgress : Bool) : TcpConnection × Except ErrorKind Unit → Stage
  | (c, .ok ()) => .ok (c, true)
  | (c, .error .wouldBlock) => .ok (c, madeProgress)
  | (c, .error .other) => .error ((c.sendEmptyPacketToClient flagRst).close, .ok ())

def pollSend (c : TcpConnection) (answer : WriteAnswer) (madeProgress : Bool) : Stage :=
  if c.mayWrite then pollResult madeProgress (c.processSend answer) else .ok (c, madeProgress)

def pollReceive (c : TcpConnection) (reads : List ReadAnswer) (madeProgress : Bool) : Stage :=
  if !c.closed && c.mayRead then pollResult madeProgress (c.processReceive reads)
  else .ok (c, madeProgress)

def pollConnect (c : TcpConnection) (answer : Except ErrorKind Unit) (madeProgress : Bool) : Stage :=
  if c.tcb.state = .synSent then
    match answer with
    | .ok () => .ok (c.processConnect, true)
    | .error .wouldBlock => .ok (c, madeProgress)
    | .error .other => .error (c.close, .ok ())
  else .ok (c, madeProgress)

def pollStages (c : TcpConnection) (a : PollAnswers) : Stage := do
  let (c, madeProgress) ← c.pollFlush
  let (c, madeProgress) ← c.pollSend a.send madeProgress
  let (c, madeProgress) ← c.pollReceive a.reads madeProgress
  c.pollConnect a.connect madeProgress

/-- `remove_from_router` has no effect: the client is borrowed by the loop that polls. -/
def pollSelf (c : TcpConnection) (a : PollAnswers) : TcpConnection × Except ErrorKind Unit :=
  if c.closed then (c, .ok ())
  else
    match c.pollStages a with
    | .ok (c, true) => (c, .ok ())
    | .ok (c, false) => (c, .error .wouldBlock)
    | .error returned => returned

end TcpConnection

end Gnirehtet.Relay
