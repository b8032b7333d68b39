import Gnirehtet.Relay.DatagramBuffer
import Gnirehtet.Relay.Packetizer
import Gnirehtet.Relay.StreamBuffer

/-!
# The UDP connection

The relay's end of one UDP flow: datagrams of the device wait for the socket, and datagrams of the
socket go into the shared buffer at once or are dropped. Time is in nanoseconds. A poll takes the
present as the time since which the connection is idle, whether anything moves or not.
-/

namespace Gnirehtet.Relay
open Lib

structure UdpConnection where
  buffer : StreamBuffer
  clientToNetwork : DatagramBuffer
  networkToClient : Packetizer
  closed : Bool
  idleSince : Nat

/-- What the socket answers to the calls of one poll. -/
structure UdpAnswers where
  send : List UInt8 → Except ErrorKind Nat
  read : ReadAnswer

def idleTimeoutSeconds : Nat := 300

def nanosPerSecond : Nat := 1000000000

/-- `Duration::as_secs` of the time since `instant`. -/
def elapsedSeconds (now instant : Nat) : Nat := (now - instant) / nanosPerSecond

namespace UdpConnection

def create (buffer : StreamBuffer) (ipHeader : IpHeader) (transportHeader : TransportHeader) (now : Nat) :
    Checked UdpConnection := do
  let networkToClient ← Packetizer.new ipHeader transportHeader
  return {
    buffer, networkToClient
    clientToNetwork := .new (32 * maxPacketLength)
    closed := false
    idleSince := now }

def touch (c : UdpConnection) (now : Nat) : UdpConnection := { c with idleSince := now }

def close (c : UdpConnection) : UdpConnection := { c with closed := true }

def isExpired (c : UdpConnection) (now : Nat) : Bool := idleTimeoutSeconds < elapsedSeconds now c.idleSince

/-- A full shared buffer drops the packet. -/
def read (c : UdpConnection) (answer : ReadAnswer) : Checked (UdpConnection × Except ErrorKind Unit) := do
  match ← c.networkToClient.packetize answer with
  | .error e => return (c, .error e)
  | .ok (networkToClient, ipPacket) =>
    let buffer :=
      if ipPacket.length.toNat ≤ c.buffer.remaining then c.buffer.readFrom ipPacket.raw else c.buffer
    return ({ c with networkToClient, buffer }, .ok ())

def write (c : UdpConnection) (send : List UInt8 → Except ErrorKind Nat) :
    Checked (UdpConnection × Except ErrorKind Unit) := do
  let (clientToNetwork, _, result) ← c.clientToNetwork.writeTo send
  return ({ c with clientToNetwork }, result)

/-- What `poll_self` does with the result of a read or a write: it goes on, or closes and returns. -/
def pollResult (madeProgress : Bool) : UdpConnection × Except ErrorKind Unit →
    Except UdpConnection (UdpConnection × Bool)
  | (c, .ok ()) => .ok (c, true)
  | (c, .error .wouldBlock) => .ok (c, madeProgress)
  | (c, .error .other) => .error c.close

def pollSend (c : UdpConnection) (a : UdpAnswers) : Checked (Except UdpConnection (UdpConnection × Bool)) :=
  if c.clientToNetwork.isEmpty then .ok (.ok (c, false))
  else do return pollResult false (← c.write a.send)

def pollReceive (c : UdpConnection) (a : UdpAnswers) (madeProgress : Bool) :
    Checked (Except UdpConnection (UdpConnection × Bool)) :=
  if c.closed then .ok (.ok (c, madeProgress))
  else do return pollResult madeProgress (← c.read a.read)

def pollSelf (c : UdpConnection) (now : Nat) (a : UdpAnswers) :
    Checked (UdpConnection × Except ErrorKind Unit) :=
  if c.closed then .ok (c, .ok ())
  else do
    match ← (c.touch now).pollSend a with
    | .error c => return (c, .ok ())
    | .ok (c, madeProgress) =>
      match ← c.pollReceive a madeProgress with
      | .error c => return (c, .ok ())
      | .ok (c, true) => return (c, .ok ())
      | .ok (c, false) => return (c, .error .wouldBlock)

/-- A full datagram buffer drops the payload. -/
def sendToNetwork (c : UdpConnection) (ipPacket : IpPacket) : Checked UdpConnection := do
  match ← ipPacket.payload with
  | none => return c
  | some payload =>
    match ← c.clientToNetwork.readFrom payload with
    | some clientToNetwork => return { c with clientToNetwork }
    | none => return c

end UdpConnection

end Gnirehtet.Relay
