import MoonState.Lib.FiniteMap
import MoonState.Lib.PriorityQueue
import MoonState.Lib.Trace
import MoonState.Lib.Steps
import MoonState.Lib.Keyed
import MoonState.Lib.Bytes
import MoonState.Lib.Arena
import MoonState.Lib.Custody
import MoonState.Model.BufArray
import MoonState.Model.StateMachine
import MoonState.Model.Handler
import MoonState.Model.System
import MoonState.Model.Run
import MoonState.Model.Headers
import MoonState.Model.FiveTuple
import MoonState.Model.Tcp
import MoonState.Model.TcpRun
import MoonState.Model.Responder
import MoonState.Model.HelloBye2
import MoonState.Model.HelloBye
import MoonState.Model.HelloBye3
import MoonState.Model.HelloByeRun
import MoonState.Model.HelloNet
import MoonState.Model.HelloByeNet
import MoonState.Model.Dtls
import MoonState.Model.Fleet
import MoonState.Model.MempoolObjects
import MoonState.Model.Objects
import MoonState.Model.ServerObjects
import MoonState.Proofs.Headers
import MoonState.Proofs.BufArray
import MoonState.Proofs.Slots
import MoonState.Proofs.Exec
import MoonState.Proofs.StateMachine
import MoonState.Proofs.Frame
import MoonState.Proofs.Conservation
import MoonState.Proofs.Promptness
import MoonState.Proofs.Sentinel
import MoonState.Proofs.Handover
import MoonState.Proofs.Reopen
import MoonState.Proofs.Timeouts
import MoonState.Proofs.Rearm
import MoonState.Proofs.Serve
import MoonState.Proofs.Isolation
import MoonState.Proofs.Tcp
import MoonState.Proofs.Payload
import MoonState.Proofs.Receive
import MoonState.Proofs.Stream
import MoonState.Proofs.Flight
import MoonState.Proofs.Retransmit
import MoonState.Proofs.Offset
import MoonState.Proofs.Frames
import MoonState.Proofs.Close
import MoonState.Proofs.Chain
import MoonState.Proofs.Instances
import MoonState.Proofs.Cancel
import MoonState.Proofs.TimeoutIDs
import MoonState.Proofs.FreeMark
import MoonState.Proofs.Publish
import MoonState.Proofs.Spare
import MoonState.Proofs.Statistics
import MoonState.Proofs.Reserved
import MoonState.Proofs.Identify
import MoonState.Proofs.DtlsInput
import MoonState.Proofs.DtlsFrames
import MoonState.Proofs.DtlsOutput
import MoonState.Proofs.Responder
import MoonState.Proofs.Simulation
import MoonState.Proofs.HelloBye2
import MoonState.Proofs.HelloBye
import MoonState.Proofs.Versions
import MoonState.Proofs.Sessions
import MoonState.Proofs.Answers
import MoonState.Proofs.Protocol
import MoonState.Proofs.HelloNet
import MoonState.Proofs.Agreement
import MoonState.Proofs.Completion
import MoonState.Proofs.WellFormed
import MoonState.Proofs.Fleet
import MoonState.Proofs.MempoolObjects
import MoonState.Proofs.Objects
import MoonState.Proofs.OnHeap
import MoonState.Proofs.ServerObjects
import MoonState.Model.SendData
import MoonState.Model.TcpPair
import MoonState.Proofs.Refusals
import MoonState.Proofs.Lines
import MoonState.Proofs.Stages
import MoonState.Proofs.HelloByeNet
import MoonState.Proofs.TcpPair
import MoonState.Proofs.SendData
import MoonState.Lib.OnesComplement
import MoonState.Model.Checksum
import MoonState.Proofs.Checksum
import MoonState.Proofs.FindState
import MoonState.Model.Dispatch
import MoonState.Proofs.Dispatch
import MoonState.Model.Common
import MoonState.Proofs.Common
import MoonState.Model.PcapBackend
import MoonState.Proofs.PcapBackend
import MoonState.Model.Cores
import MoonState.Proofs.Cores
import MoonState.Model.Exchange
import MoonState.Proofs.Interop
import MoonState.Proofs.Deliveries
import MoonState.Model.Astraeus
import MoonState.Proofs.Astraeus
import MoonState.Proofs.AstraeusClient
import MoonState.Model.AstraeusNet
import MoonState.Proofs.AstraeusNet
import MoonState.Proofs.TcpServer
import MoonState.Proofs.Echo
import MoonState.Proofs.TimeoutLife
import MoonState.Proofs.Local
import MoonState.Proofs.DtlsDrain
import MoonState.Proofs.Associations
