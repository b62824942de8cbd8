import Mathlib.Algebra.Order.Ring.Nat
import Treer.Foundation.Run
import Treer.Protocol.Workload

/-!
# Bridges of a service stream

A service stream joins two sockets: the Controller's, at the registered endpoint,
and the one the Proxy hands to its client. Each end runs a bridge, `bridge_stream`
in the Controller and `bridge_browser_network_stream` in the Proxy, that turns what
it reads into frames and what it receives into writes.

A bridge waits at several places: for its socket or its next frame, for room to
send, for a write, for the end of a write side. `Phase` says where it is, and one
event is one thing that happens to it there.
-/

namespace Treer.Network

open Foundation Protocol

inductive NetworkBinaryKind where
  | «open»
  | opened
  | data
  | windowUpdate
  | halfClose
  | reset
  | direct
  | usage
  | openDatagram
  | usageAck
  deriving DecidableEq

/-- The name `{:?}` prints. -/
def NetworkBinaryKind.debug : NetworkBinaryKind → String
  | .open => "Open"
  | .opened => "Opened"
  | .data => "Data"
  | .windowUpdate => "WindowUpdate"
  | .halfClose => "HalfClose"
  | .reset => "Reset"
  | .direct => "Direct"
  | .usage => "Usage"
  | .openDatagram => "OpenDatagram"
  | .usageAck => "UsageAck"

/-- A frame of one stream. -/
structure NetworkBinaryFrame where
  kind : NetworkBinaryKind
  payload : List UInt8
  deriving DecidableEq

/-- `u32::to_be_bytes`; a larger number loses its high bits, as with `as u32`. -/
def toBeBytes (value : Nat) : List UInt8 :=
  [UInt8.ofNat (value / 2 ^ 24), UInt8.ofNat (value / 2 ^ 16), UInt8.ofNat (value / 2 ^ 8),
    UInt8.ofNat value]

/-- For exactly four bytes. -/
def fromBeBytes : List UInt8 → Option Nat
  | [first, second, third, fourth] =>
    some (first.toNat * 2 ^ 24 + second.toNat * 2 ^ 16 + third.toNat * 2 ^ 8 + fourth.toNat)
  | _ => none

theorem fromBeBytes_toBeBytes {value : Nat} (small : value < 2 ^ 32) :
    fromBeBytes (toBeBytes value) = some value := by
  simp only [toBeBytes, fromBeBytes, UInt8.toNat_ofNat', Option.some.injEq]
  omega

/-- Why a bridge ends early. -/
inductive StreamError where
  | io (message : String)
  | transport (error : ProtocolError)
  | receiverClosed
  | cancelled
  | reset (payload : List UInt8)
  | invalidData
  | invalidUpdate
  | invalidCredit
  | unexpected (kind : NetworkBinaryKind)
  deriving DecidableEq

/-- What the world does to a bridge: its socket or its link fails, or it is
cancelled. -/
inductive Interruption where
  | io (message : String)
  | transport (error : ProtocolError)
  | receiverClosed
  | cancelled
  deriving DecidableEq

def Interruption.error : Interruption → StreamError
  | .io message => .io message
  | .transport error => .transport error
  | .receiverClosed => .receiverClosed
  | .cancelled => .cancelled

/-- The other end violated the rules of the stream. -/
def StreamError.isViolation : StreamError → Bool
  | .invalidData | .invalidUpdate | .invalidCredit | .unexpected _ => true
  | .io _ | .transport _ | .receiverClosed | .cancelled | .reset _ => false

/-- The text of an error of `bridge_stream`. -/
def StreamError.message : StreamError → String
  | .io message => message
  | .transport error => error.message
  | .receiverClosed => "service stream receiver closed"
  | .cancelled => ""
  | .reset _ => "service stream reset"
  | .invalidData => "invalid service data frame"
  | .invalidUpdate => "invalid service window update"
  | .invalidCredit => "invalid service window credit"
  | .unexpected kind => "unexpected service stream frame " ++ kind.debug

/-- Where a bridge waits. -/
inductive Phase where
  /-- At the top of the loop, for the socket or the next frame. -/
  | selecting
  /-- For room to send this frame. -/
  | sending (frame : NetworkBinaryFrame)
  /-- For the socket to take the rest of a chunk of this length. -/
  | writing (rest : List UInt8) (length : Nat)
  /-- For the shutdown of the socket's write side. -/
  | shutting
  deriving DecidableEq

/-- The variables of a bridge; what it has read and written so far is recorded. -/
structure Side where
  sendWindow : Nat
  (localClosed remoteClosed : Bool)
  phase : Phase
  ended : Option (Except StreamError Unit)
  /-- The task around the bridge has sent its reset. -/
  reported : Bool
  (readBytes written : List UInt8)

/-- What the two bridges do differently. -/
structure Bridge where
  (startWindow chunkLimit : Nat)
  receive : Side → NetworkBinaryFrame → Side
  /-- The credit for a chunk of this length. -/
  amount : Nat → Nat
  /-- The reset that the task around the bridge sends after its end. -/
  report : Except StreamError Unit → Option ProtocolError

namespace Side

/-- The variables of a bridge when it starts. -/
def initial (window : Nat) : Side where
  sendWindow := window
  localClosed := false
  remoteClosed := false
  phase := .selecting
  ended := none
  reported := false
  readBytes := []
  written := []

variable (side : Side)

/-- `while !local_closed || !remote_closed`. -/
def top : Side :=
  if side.localClosed && side.remoteClosed then
    { side with phase := .selecting, ended := some (.ok ()) }
  else
    { side with phase := .selecting }

/-- The bridge returns an error. -/
def fail (error : StreamError) : Side :=
  { side with ended := some (.error error) }

/-- `write_all` with what is still to be written, and the window update after it. -/
def writeAll (amount : Nat → Nat) (rest : List UInt8) (length : Nat) : Side :=
  match rest with
  | [] => { side with phase := .sending ⟨.windowUpdate, toBeBytes (amount length)⟩ }
  | _ :: _ => { side with phase := .writing rest length }

/-- The reader is polled, and a socket fills at most the part of the buffer it was
given. -/
def mayRead (limit : Nat) (bytes : List UInt8) : Bool :=
  !side.localClosed && 0 < side.sendWindow && bytes.length ≤ min side.sendWindow limit

/-- The socket was read. -/
def read (bytes : List UInt8) : Side :=
  if bytes.isEmpty then
    { side with localClosed := true, phase := .sending ⟨.halfClose, []⟩ }
  else
    { side with
      sendWindow := side.sendWindow - bytes.length
      phase := .sending ⟨.data, bytes⟩
      readBytes := side.readBytes ++ bytes }

/-- The socket took `count` bytes; `write_all` gives up when it takes none. -/
def write (side : Side) (amount : Nat → Nat) (rest : List UInt8) (length count : Nat) : Side :=
  if count = 0 then side.fail (.io "failed to write whole buffer")
  else
    { side with written := side.written ++ rest.take count }.writeAll amount (rest.drop count)
      length

end Side

def initialWindow : Nat := 256 * 1024

def maxChunk : Nat := 16 * 1024

/-- `payload.len() as u32`. -/
def controllerAmount (length : Nat) : Nat :=
  length % 2 ^ 32

/-- The frame branch of `bridge_stream`. -/
def controllerReceive (side : Side) (frame : NetworkBinaryFrame) : Side :=
  match frame.kind with
  | .data =>
    if !side.remoteClosed && frame.payload.length ≤ maxChunk then
      side.writeAll controllerAmount frame.payload frame.payload.length
    else side.fail .invalidData
  | .windowUpdate =>
    match fromBeBytes frame.payload with
    | none => side.fail .invalidUpdate
    | some credit =>
      if 0 < credit && credit ≤ initialWindow - side.sendWindow then
        { side with sendWindow := side.sendWindow + credit }.top
      else side.fail .invalidCredit
  | .halfClose => if side.remoteClosed then side.top else { side with phase := .shutting }
  | .reset => side.fail (.reset frame.payload)
  | kind => side.fail (.unexpected kind)

/-- What the task of `spawn_destination` sends after the bridge; a cancelled one
sends nothing. -/
def controllerReport : Except StreamError Unit → Option ProtocolError
  | .ok () => some ⟨"stream_closed", "Service stream completed", none⟩
  | .error .cancelled => none
  | .error error => some ⟨"stream_failed", error.message, none⟩

def controllerBridge : Bridge where
  startWindow := initialWindow
  chunkLimit := maxChunk
  receive := controllerReceive
  amount := controllerAmount
  report := controllerReport

def networkInitialWindow : Nat := 256 * 1024

def networkMaxChunk : Nat := 16 * 1024

/-- `u32::try_from(payload.len()).unwrap_or(u32::MAX)`. -/
def proxyAmount (length : Nat) : Nat :=
  if length < 2 ^ 32 then length else 2 ^ 32 - 1

def saturatingAdd (window credit : Nat) : Nat :=
  min (window + credit) (2 ^ 64 - 1)

/-- The frame branch of `bridge_browser_network_stream`. It checks neither the
size and place of a chunk nor the amount of a credit. -/
def proxyReceive (side : Side) (frame : NetworkBinaryFrame) : Side :=
  match frame.kind with
  | .data => side.writeAll proxyAmount frame.payload frame.payload.length
  | .windowUpdate =>
    match fromBeBytes frame.payload with
    | none => side.fail .invalidUpdate
    | some credit => { side with sendWindow := saturatingAdd side.sendWindow credit }.top
  | .halfClose => if side.remoteClosed then side.top else { side with phase := .shutting }
  | .reset => side.fail (.reset frame.payload)
  | kind => side.fail (.unexpected kind)

section
variable (decode : List UInt8 → Option ProtocolError)

/-- The error that `bridge_browser_network_stream` returns, with the decoder of
`decode_network_reset`. -/
def proxyError : StreamError → ProtocolError
  | .io message => ⟨"network_io_error", message, none⟩
  | .transport error => error
  | .receiverClosed => ⟨"network_stream_closed", "network stream receiver closed", none⟩
  | .cancelled =>
    ⟨"service_stream_cancelled", "service forwarding was cancelled or authorization revoked", none⟩
  | .reset payload =>
    (decode payload).getD ⟨"network_stream_reset", "network stream was reset", none⟩
  | .invalidUpdate => ⟨"invalid_network_frame", "invalid network window update", none⟩
  | .unexpected kind =>
    ⟨"invalid_network_frame", "unexpected network stream frame " ++ kind.debug, none⟩
  -- The Proxy's bridge makes neither of these.
  | .invalidData | .invalidCredit => ⟨"invalid_network_frame", "", none⟩

/-- What the task around the bridge sends: a reset after an error only. -/
def proxyReport : Except StreamError Unit → Option ProtocolError
  | .ok () => none
  | .error error => some (proxyError decode error)

def proxyBridge : Bridge where
  startWindow := networkInitialWindow
  chunkLimit := networkMaxChunk
  receive := proxyReceive
  amount := proxyAmount
  report := proxyReport decode

end

inductive Party where
  | controller
  | proxy
  deriving DecidableEq

def Party.other : Party → Party
  | .controller => .proxy
  | .proxy => .controller

@[simp]
theorem Party.other_other (party : Party) : party.other.other = party := by
  cases party <;> rfl

theorem Party.other_ne (party : Party) : party.other ≠ party := by
  cases party <;> decide

theorem Party.eq_or_eq_other (party first : Party) : party = first ∨ party = first.other := by
  cases party <;> cases first <;> decide

/-- The coding of a reset's error as JSON. -/
structure ResetCodec where
  encode : ProtocolError → List UInt8
  decode : List UInt8 → Option ProtocolError

def ResetCodec.bridge (codec : ResetCodec) : Party → Bridge
  | .controller => controllerBridge
  | .proxy => proxyBridge codec.decode

/-- Both ends, and the frames on the way to each of them. -/
structure Link where
  side : Party → Side
  queue : Party → List NetworkBinaryFrame

/-- What happens to one of the bridges. -/
inductive Event where
  | read (bytes : List UInt8)
  | send
  | receive
  | write (count : Nat)
  | shutdown
  | interrupt (interruption : Interruption)
  | report
  deriving DecidableEq

namespace Link

variable (codec : ResetCodec)

def initial : Link where
  side party := Side.initial (codec.bridge party).startWindow
  queue _ := []

variable (link : Link) (party : Party)

def setSide (side : Side) : Link :=
  { link with side := Function.update link.side party side }

def setQueue (queue : List NetworkBinaryFrame) : Link :=
  { link with queue := Function.update link.queue party queue }

/-- One more frame on the way to the party. -/
def push (frame : NetworkBinaryFrame) : Link :=
  link.setQueue party (link.queue party ++ [frame])

/-- What happens in the loop of a bridge. -/
def run (event : Event) : Link :=
  let side := link.side party
  let bridge := codec.bridge party
  match event, side.phase with
  | .read bytes, .selecting =>
    if side.mayRead bridge.chunkLimit bytes then link.setSide party (side.read bytes) else link
  | .receive, .selecting =>
    match link.queue party with
    | [] => link
    | frame :: rest => (link.setQueue party rest).setSide party (bridge.receive side frame)
  | .send, .sending frame => (link.push party.other frame).setSide party side.top
  | .write count, .writing rest length =>
    link.setSide party (side.write bridge.amount rest length count)
  | .shutdown, .shutting => link.setSide party { side with remoteClosed := true }.top
  -- At whichever await it happens, the bridge is left there.
  | .interrupt interruption, _ => link.setSide party (side.fail interruption.error)
  | _, _ => link

/-- The task around a bridge after its end: at most one reset. -/
def finish (result : Except StreamError Unit) : Link :=
  let side := link.side party
  if side.reported then link
  else
    let link := link.setSide party { side with reported := true }
    match (codec.bridge party).report result with
    | none => link
    | some error => link.push party.other ⟨.reset, codec.encode error⟩

/-- One event at one end; an event that cannot happen there changes nothing. -/
def step (action : Party × Event) : Unit × Link :=
  ((),
    match (link.side action.1).ended, action.2 with
    | none, event => link.run codec action.1 event
    | some result, .report => link.finish codec action.1 result
    | some _, _ => link)

end Link
end Treer.Network
