import Gnirehtet.Relay.IcmpHandler
import Gnirehtet.Relay.UdpConnection
import Gnirehtet.Tcp.Connection
import Mathlib.Data.List.AList

/-!
# The router

One router serves one device. It answers pings and QUIC itself, gives every other packet to the
connection of its flow, creates that connection when there is none, and remembers for two seconds
which flows were closed. The shared buffer is the router's: a connection borrows it for each call.
-/

namespace Gnirehtet.Relay
open Lib

/-- A flow of the device. The label of the client is the same for all flows of a router. -/
structure ConnectionId where
  protocol : Protocol
  sourceIp : IpAddr
  sourcePort : UInt16
  destinationIp : IpAddr
  destinationPort : UInt16
  deriving DecidableEq

def ConnectionId.fromHeaders (ip : IpHeaderData) (transport : TransportHeaderData) : ConnectionId where
  protocol := ip.protocol
  sourceIp := ip.source
  sourcePort := transport.sourcePort
  destinationIp := ip.destination
  destinationPort := transport.destinationPort

inductive Connection where
  | tcp (c : TcpConnection)
  | udp (c : UdpConnection)

/-- What the sockets of a connection answer to one poll. -/
structure Answers where
  tcp : PollAnswers
  udp : UdpAnswers

def segmentOf (ipPacket : IpPacket) : Checked Segment := do
  match ← ipPacket.transportHeader, ← ipPacket.payload with
  | some (.tcp h), some payload => return { header := h.data, payload }
  | _, _ => .error .assertion

namespace Connection

def protocol : Connection → Protocol
  | tcp _ => .tcp
  | udp _ => .udp

def isClosed : Connection → Bool
  | tcp c => c.closed
  | udp c => c.closed

/-- TCP connections never expire. -/
def isExpired (now : Nat) : Connection → Bool
  | tcp _ => false
  | udp c => c.isExpired now

def close : Connection → Connection
  | tcp c => .tcp c.close
  | udp c => .udp c.close

def buffer : Connection → StreamBuffer
  | tcp c => c.buffer
  | udp c => c.buffer

def borrow (buffer : StreamBuffer) : Connection → Connection
  | tcp c => .tcp { c with buffer }
  | udp c => .udp { c with buffer }

@[simp] theorem protocol_close (c : Connection) : c.close.protocol = c.protocol := by cases c <;> rfl

@[simp] theorem protocol_borrow (buffer : StreamBuffer) (c : Connection) :
    (c.borrow buffer).protocol = c.protocol := by cases c <;> rfl

/-- A connection of the same kind as `c`. -/
abbrev Same (c : Connection) := { c' : Connection // c'.protocol = c.protocol }

def sendToNetwork (c : Connection) (ipPacket : IpPacket) (random : UInt32) : Checked c.Same :=
  match c with
  | .tcp c => do return ⟨.tcp (c.handlePacket (← segmentOf ipPacket) random), rfl⟩
  | .udp c => do return ⟨.udp (← c.sendToNetwork ipPacket), rfl⟩

def poll (c : Connection) (now : Nat) (a : Answers) : Checked (c.Same × Except ErrorKind Unit) :=
  match c with
  | .tcp c => .ok (⟨.tcp (c.pollSelf a.tcp).1, rfl⟩, (c.pollSelf a.tcp).2)
  | .udp c => do
    let (c, result) ← c.pollSelf now a.udp
    return (⟨.udp c, rfl⟩, result)

end Connection

/-- What the host answers while one packet is routed. The clock is read when the packet comes, when a
connection is created and when one was closed. -/
structure Env where
  now : Nat
  createdAt : Nat
  closedAt : Nat
  /-- A socket to the destination can be opened. -/
  opens : ConnectionId → Bool
  random : UInt32

/-- Every connection has the protocol of its flow, and a flow was closed recently at one time. -/
structure Router where
  buffer : StreamBuffer
  connections : AList (fun _ : ConnectionId => Connection)
  recentlyClosed : List (ConnectionId × Nat)
  typed : ∀ id c, connections.lookup id = some c → c.protocol = id.protocol
  distinct : (recentlyClosed.map Prod.fst).Nodup

def recentlyClosedTtl : Nat := 2 * nanosPerSecond

namespace Router

/-- The buffer is set when the client is created. -/
def new (buffer : StreamBuffer) : Router where
  buffer := buffer
  connections := ∅
  recentlyClosed := []
  typed := by simp
  distinct := List.nodup_nil

def isQuic (ipPacket : IpPacket) : Bool :=
  match ipPacket.ipHeaderData.protocol, ipPacket.transportHeaderData with
  | .udp, some transport => transport.destinationPort == 443
  | _, _ => false

def put (r : Router) (id : ConnectionId) (c : Connection) (kind : c.protocol = id.protocol) : Router :=
  { r with
    buffer := c.buffer
    connections := r.connections.insert id c
    typed := by
      intro id' c' found
      by_cases same : id' = id
      · subst same
        rw [AList.lookup_insert] at found
        cases found
        exact kind
      · rw [AList.lookup_insert_ne same] at found
        exact r.typed id' c' found }

/-- A flow leaves the router and is remembered. -/
def quarantine (r : Router) (id : ConnectionId) (closedAt : Nat) : Router :=
  { r with
    connections := r.connections.erase id
    recentlyClosed := (id, closedAt) :: r.recentlyClosed.filter (·.1 ≠ id)
    distinct := by
      rw [List.map_cons, List.nodup_cons]
      refine ⟨?_, r.distinct.sublist (List.filter_sublist.map _)⟩
      simp
    typed := by
      intro id' c' found
      by_cases same : id' = id
      · subst same
        rw [AList.lookup_erase] at found
        cases found
      · rw [AList.lookup_erase_ne same] at found
        exact r.typed id' c' found }

def remove (r : Router) (id : ConnectionId) (closedAt : Nat) : Router :=
  if id ∈ r.connections then r.quarantine id closedAt else r

/-- Also the connections that it closes. -/
def clear (r : Router) : Router × List Connection :=
  ({ r with
      connections := ∅
      recentlyClosed := []
      typed := by simp
      distinct := List.nodup_nil },
    r.connections.entries.map (·.2.close))

def purge (r : Router) (now : Nat) : Router :=
  { r with
    recentlyClosed := r.recentlyClosed.filter (fun entry => now - entry.2 < recentlyClosedTtl)
    distinct := r.distinct.sublist (List.filter_sublist.map _) }

def isRecentlyClosed (r : Router) (id : ConnectionId) : Bool := r.recentlyClosed.any (·.1 == id)

/-- An answer that the router itself gives; a full buffer drops it. -/
def answer (r : Router) (raw : Option (List UInt8)) : Router :=
  match raw with
  | some raw => if raw.length ≤ r.buffer.remaining then { r with buffer := r.buffer.readFrom raw } else r
  | none => r

/-- `none` stands for an error: no socket, or a protocol that is not served. -/
def createConnection (env : Env) (id : ConnectionId) (buffer : StreamBuffer) (ipPacket : IpPacket) :
    Checked (Option { c : Connection // c.protocol = id.protocol }) := do
  match ← ipPacket.headers with
  | (_, none) => return none
  | (ipHeader, some transportHeader) =>
    match kind : id.protocol with
    | .tcp =>
      if env.opens id then
        return some ⟨.tcp (← TcpConnection.create buffer ipHeader transportHeader), kind.symm⟩
      else return none
    | .udp =>
      if env.opens id then
        return some ⟨.udp (← UdpConnection.create buffer ipHeader transportHeader env.createdAt), kind.symm⟩
      else return none
    | _ => return none

def sendOccupied (r : Router) (env : Env) (id : ConnectionId) (c : Connection)
    (kind : c.protocol = id.protocol) (ipPacket : IpPacket) : Checked Router := do
  let ⟨c', same⟩ ← (c.borrow r.buffer).sendToNetwork ipPacket env.random
  let r := r.put id c' (by rw [same, Connection.protocol_borrow, kind])
  return if c'.isClosed then r.quarantine id env.closedAt else r

/-- The first packet of a flow. It is sent on to the connection that it creates. -/
def sendVacant (r : Router) (env : Env) (id : ConnectionId) (ipPacket : IpPacket) : Checked Router := do
  match ← createConnection env id r.buffer ipPacket with
  | none => return r
  | some ⟨c, kind⟩ =>
    let ⟨c', same⟩ ← c.sendToNetwork ipPacket env.random
    return r.put id c' (by rw [same, kind])

def sendFlow (r : Router) (env : Env) (id : ConnectionId) (ipPacket : IpPacket) : Checked Router :=
  let r := r.purge env.now
  if r.isRecentlyClosed id then .ok r
  else
    match found : r.connections.lookup id with
    | some c => r.sendOccupied env id c (r.typed id c found) ipPacket
    | none => r.sendVacant env id ipPacket

def sendToNetwork (r : Router) (env : Env) (ipPacket : IpPacket) : Checked Router :=
  if ipPacket.isIcmpEchoRequest then do return r.answer (← IcmpHandler.buildEchoReply ipPacket.raw)
  else if isQuic ipPacket then do return r.answer (← IcmpHandler.buildPortUnreachable ipPacket)
  else
    match ipPacket.transportHeaderData with
    | some transport => r.sendFlow env (.fromHeaders ipPacket.ipHeaderData transport) ipPacket
    | none => .ok r

/-- The clock is read for each connection, and again for each that is removed. Also the connections
that are closed. -/
def cleanExpiredConnections (r : Router) (now closedAt : ConnectionId → Nat) : Router × List Connection :=
  let expired := r.connections.keys.filter fun id => (r.connections.lookup id).any (·.isExpired (now id))
  (expired.foldl (fun r id => r.remove id (closedAt id)) r,
    expired.filterMap fun id => (r.connections.lookup id).map (·.close))

/-- The flows that are found closed are collected and removed in the end. -/
def pollOne (now : ConnectionId → Nat) (answers : ConnectionId → Answers) (state : Router × List ConnectionId)
    (id : ConnectionId) : Checked (Router × List ConnectionId) :=
  match found : state.1.connections.lookup id with
  | none => .ok state
  | some c => do
    let (⟨c', same⟩, result) ← (c.borrow state.1.buffer).poll (now id) (answers id)
    have kind : c'.protocol = id.protocol := by
      rw [same, Connection.protocol_borrow, state.1.typed id c found]
    match result with
    | .ok () => return (state.1.put id c' kind, if c'.isClosed then state.2 ++ [id] else state.2)
    | .error .wouldBlock => return (state.1.put id c' kind, state.2)
    | .error .other =>
      return (state.1.put id c'.close (by rw [Connection.protocol_close, kind]), state.2 ++ [id])

def pollConnections (r : Router) (now closedAt : ConnectionId → Nat) (answers : ConnectionId → Answers) :
    Checked Router := do
  let (r, closedIds) ← r.connections.keys.foldlM (pollOne now answers) (r, [])
  return closedIds.foldl (fun r id => r.quarantine id (closedAt id)) r

end Router

end Gnirehtet.Relay
