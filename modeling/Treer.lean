import Treer.Auth.Membership
import Treer.Auth.Passwords
import Treer.Controller.CommandRuns
import Treer.Controller.PromptQueue
import Treer.Controller.RelayRuns
import Treer.Controller.Repeats
import Treer.Host.Handover
import Treer.Ingress.Logout
import Treer.Message.Context
import Treer.Message.Delivery
import Treer.Message.Idempotency
import Treer.Network.Backpressure
import Treer.Platform.MachineFile
import Treer.Policy.Batch
import Treer.Policy.FailClosed
import Treer.Policy.Meaning
import Treer.Policy.Selectors
import Treer.PrivateState.Headroom
import Treer.Protocol.Frames
import Treer.Proxy.Connections
import Treer.Proxy.InFlight
import Treer.Proxy.Lease
import Treer.Proxy.Remote
import Treer.Proxy.Replication
import Treer.Proxy.UploadPart
import Treer.Proxy.UploadQuotas
import Treer.Tree.Invariant
import Treer.Tree.Placement
