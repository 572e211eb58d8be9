/-
Programs that run HelloBye, as the C interfaces let them.

A call hands in an array of packets, which is never empty and is counted in an
`unsigned int`; `Batch` is such an array.  The server is handed batches, the client
batches and the packets a connection is opened with.
-/
import MoonState.Model.HelloBye3

namespace MoonState

/-- `inPkts` and `inCount`. -/
structure Batch where
  pkts : List Packet
  nonempty : 0 < pkts.length
  fits : pkts.length < 2 ^ 32

/-- One call after the other, up to the first that does not return. -/
def feed {X I O : Type} (step : X → I → Except Fault (X × O)) : X → List I → Except Fault (X × List O)
  | x, [] => .ok (x, [])
  | x, i :: is =>
    match step x i with
    | .error e => .error e
    | .ok (x', o) =>
      match feed step x' is with
      | .error e => .error e
      | .ok (x'', os) => .ok (x'', o :: os)

/-- The calls a client gets. -/
inductive ClientCall
  | connect (dstIP : UInt32) (srcPort : UInt16) (ident : UInt64) (inPkts : Batch)
  | process (inPkts : Batch)

def ClientCall.inPkts : ClientCall → Batch
  | connect _ _ _ inPkts => inPkts
  | process inPkts => inPkts

variable (pl : Service.Platform)

namespace HelloBye2

/-- `HelloBye2_Server_process`. -/
def Server.process (x : Instance UInt64 (Ptr Server.Object) Packet Rand) (inPkts : Batch) :
    Except Fault (Instance UInt64 (Ptr Server.Object) Packet Rand × List (Packet × Bool)) :=
  x.process service pl inPkts.pkts

def Client.call (config : HelloBye2ClientConfig)
    (x : Instance UInt64 (Ptr Client.Object) Packet Rand) :
    ClientCall →
      Except Fault (Instance UInt64 (Ptr Client.Object) Packet Rand × List (Packet × Bool))
  | .connect dstIP srcPort ident inPkts => connect config pl x dstIP srcPort ident inPkts.pkts
  | .process inPkts => x.process (service config) pl inPkts.pkts

end HelloBye2

namespace HelloBye3

/-- `HelloBye3_Server_process`. -/
def Server.process (x : Instance UInt64 (Ptr Server.server) Packet Rand) (inPkts : Batch) :
    Except Fault (Instance UInt64 (Ptr Server.server) Packet Rand × List (Packet × Bool)) :=
  x.process service pl inPkts.pkts

/-- There is no configuration: what it holds is handed in with every connection. -/
def Client.call (config : HelloBye2.HelloBye2ClientConfig)
    (x : Instance UInt64 (Ptr Client.client) Packet Rand) :
    ClientCall →
      Except Fault (Instance UInt64 (Ptr Client.client) Packet Rand × List (Packet × Bool))
  | .connect dstIP srcPort ident inPkts =>
    connect pl x config.srcIp dstIP srcPort config.dstPort ident inPkts.pkts
  | .process inPkts => x.process service pl inPkts.pkts

end HelloBye3

namespace HelloBye3MemPool

variable {M : Type} (mempool : Mempool M)

/-- `HelloBye3MemPool_Server_process`. -/
def Server.process (x : Instance UInt64 (Ptr Server.server) Packet (Rand × M)) (inPkts : Batch) :
    Except Fault (Instance UInt64 (Ptr Server.server) Packet (Rand × M) × List (Packet × Bool)) :=
  x.process (service mempool) pl inPkts.pkts

def Client.call (config : HelloBye2.HelloBye2ClientConfig)
    (x : Instance UInt64 (Ptr Client.client) Packet (Rand × M)) :
    ClientCall →
      Except Fault (Instance UInt64 (Ptr Client.client) Packet (Rand × M) × List (Packet × Bool))
  | .connect dstIP srcPort ident inPkts =>
    connect mempool pl x config.srcIp dstIP srcPort config.dstPort ident inPkts.pkts
  | .process inPkts => x.process (service mempool) pl inPkts.pkts

end HelloBye3MemPool

end MoonState
