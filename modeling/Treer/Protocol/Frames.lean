import Treer.Foundation.Outcome
import Treer.Network.Bridge

/-!
# Binary frames

Network and terminal frames have one layout: a magic value, a version, a kind, the length of
an id, a revision, the id and the payload. Network frames have no revision, and terminal
frames no magic value.
-/

namespace Treer.Protocol

open Foundation List

/-- The low `width` bytes of a number, high ones first. -/
def toBeBytes : Nat → Nat → List UInt8
  | 0, _ => []
  | width + 1, value => toBeBytes width (value / 256) ++ [UInt8.ofNat value]

/-- The inverse of `toBeBytes`. -/
def fromBeBytes (bytes : List UInt8) : Nat :=
  bytes.foldl (fun value byte => value * 256 + byte.toNat) 0

theorem fromBeBytes_eq_iff {bytes : List UInt8} {width value : Nat} :
    bytes.length = width ∧ fromBeBytes bytes = value ↔
      value < 256 ^ width ∧ toBeBytes width value = bytes := by
  induction width generalizing bytes value with
  | zero => cases bytes <;> simp [toBeBytes, fromBeBytes, eq_comm]
  | succ width ih =>
    rw [toBeBytes, Nat.pow_succ]
    rcases bytes.eq_nil_or_concat with rfl | ⟨high, low, rfl⟩
    · simp
    have below := low.toNat_lt
    have split : fromBeBytes (high ++ [low]) = value ↔
        fromBeBytes high = value / 256 ∧ UInt8.ofNat value = low := by
      simp [fromBeBytes, ← UInt8.toNat_inj]
      omega
    have here := @ih high (value / 256)
    rw [Nat.div_lt_iff_lt_mul (by decide)] at here
    simp [split, ← and_assoc, here]

/-- The bytes of a text. -/
def utf8 (text : String) : List UInt8 :=
  text.toByteArray.data.toList

theorem fromUTF8?_eq_some_iff {bytes : List UInt8} {text : String} :
    String.fromUTF8? ⟨bytes.toArray⟩ = some text ↔ bytes = utf8 text := by
  rw [String.fromUTF8?]
  constructor
  · intro found
    split at found
    · cases found
      rfl
    · cases found
  · rintro rfl
    exact dif_pos text.isValidUTF8

/-- What the two kinds of frames do not share. -/
structure BinaryFormat (Kind : Type) where
  (name id : String)
  magic : List UInt8
  version : UInt8
  tag : Kind → UInt8
  kinds : List Kind
  known : ∀ kind, kinds.find? (tag · = tag kind) = some kind
  /-- The bytes of the revision. -/
  width : Nat
  /-- Whether an id and a payload of these lengths are too large. -/
  exceeds : Nat → Nat → Bool

variable {encoded : List UInt8}

namespace BinaryFormat

variable {Kind : Type} (format : BinaryFormat Kind)

/-- The error of a bad frame. -/
def invalid (problem : String) : ProtocolError where
  code := s!"invalid_{format.name}_frame"
  message := s!"{format.name} {problem}"

/-- The limits of a frame. -/
def checkSize (id payload : Nat) : Except ProtocolError Unit := do
  refuse (id = 0) (format.invalid s!"{format.id} is empty")
  refuse (format.exceeds id payload) (format.invalid "frame exceeds its size limit")

/-- Header, id, payload. -/
def encode (kind : Kind) (id : String) (revision : Nat) (payload : List UInt8) :
    Except ProtocolError (List UInt8) := do
  refuse (256 ^ 2 ≤ (utf8 id).length) (format.invalid s!"{format.id} is too long")
  format.checkSize (utf8 id).length payload.length
  .ok (format.magic ++ format.version :: format.tag kind :: (toBeBytes 2 (utf8 id).length ++
    (toBeBytes format.width revision ++ (utf8 id ++ payload))))

/-- The kind with this tag. -/
def tryFrom (value : UInt8) : Except ProtocolError Kind :=
  match format.kinds.find? (format.tag · = value) with
  | some kind => .ok kind
  | none =>
    .error { format.invalid "" with message := s!"unknown {format.name} binary frame kind {value}" }

/-- The kind, the id, the revision and the payload. -/
def decode (encoded : List UInt8) : Except ProtocolError (Kind × String × Nat × List UInt8) := do
  refuse (encoded.length < format.magic.length + 4 + format.width)
    (format.invalid "binary frame is shorter than its header")
  refuse (!format.magic.isPrefixOf encoded)
    (format.invalid "binary frame has an invalid magic value")
  let body := encoded.drop format.magic.length
  let version := body.getD 0 0
  refuse (version != format.version)
    { code := s!"{format.name}_binary_version_mismatch"
      message := s!"{format.name} binary frame uses version {version}, expected {format.version}" }
  let kind ← format.tryFrom (body.getD 1 0)
  let length := fromBeBytes ((body.drop 2).take 2)
  let revision := fromBeBytes ((body.drop 4).take format.width)
  let rest := (body.drop 4).drop format.width
  refuse (rest.length < length) (format.invalid s!"{format.id} exceeds the binary frame")
  format.checkSize length (rest.length - length)
  match String.fromUTF8? ⟨(rest.take length).toArray⟩ with
  | some id => .ok (kind, id, revision, rest.drop length)
  | none => .error (format.invalid s!"{format.id} is not UTF-8")

variable {format} {kind : Kind} {id : String} {revision : Nat} {payload : List UInt8}

theorem encode_eq_ok_iff : format.encode kind id revision payload = .ok encoded ↔
      (utf8 id).length < 256 ^ 2 ∧ format.checkSize (utf8 id).length payload.length = .ok () ∧
        format.magic ++ format.version :: format.tag kind :: (toBeBytes 2 (utf8 id).length ++
          (toBeBytes format.width revision ++ (utf8 id ++ payload))) = encoded := by
  simp [encode, bind_eq_ok_iff, Unique.exists_iff]

theorem tryFrom_eq_ok_iff {value : UInt8} :
    format.tryFrom value = .ok kind ↔ format.tag kind = value := by
  rw [tryFrom]
  constructor
  · intro found
    split at found
    · rename_i present
      cases found
      simpa using find?_some present
    · cases found
  · rintro rfl
    rw [format.known]

theorem decode_eq_ok_iff : format.decode encoded = .ok (kind, id, revision, payload) ↔
      revision < 256 ^ format.width ∧ format.encode kind id revision payload = .ok encoded := by
  simp only [decode, bind_eq_ok_iff, refuse_eq_ok_iff, tryFrom_eq_ok_iff, encode_eq_ok_iff]
  constructor
  · rintro ⟨_, long, _, magic, _, version, _, tag, _, inside, _, size, done⟩
    obtain ⟨body, rfl⟩ : format.magic <+: encoded := by simpa using magic
    simp only [drop_left, length_append, decide_eq_false_iff_not, Nat.not_lt] at *
    rcases body with _ | ⟨first, _ | ⟨second, bytes⟩⟩
    · simp at long
      omega
    · simp at long
      omega
    simp [-drop_drop] at *
    split at done
    · rename_i text decoded
      cases done
      have read := fromUTF8?_eq_some_iff.mp decoded
      have length : fromBeBytes (take 2 bytes) = (utf8 id).length := by
        rw [← read, length_take, length_drop, length_drop]
        omega
      have two : (take 2 bytes).length = 2 := by
        simp
        omega
      have width : (take format.width (drop 2 bytes)).length = format.width := by
        simp
        omega
      obtain ⟨small, lengthBytes⟩ := fromBeBytes_eq_iff.mp ⟨two, length⟩
      obtain ⟨fits, revisionBytes⟩ := fromBeBytes_eq_iff.mp ⟨width, rfl⟩
      refine ⟨fits, small, ?_, version.symm, tag, ?_⟩
      · rw [← length, length_drop, length_drop, length_drop]
        exact size
      · rw [lengthBytes, revisionBytes, ← read]
        simp only [take_append_drop]
    · cases done
  · rintro ⟨fits, small, size, rfl⟩
    obtain ⟨two, length⟩ := fromBeBytes_eq_iff.mpr ⟨small, rfl⟩
    obtain ⟨width, revisionEq⟩ := fromBeBytes_eq_iff.mpr ⟨fits, rfl⟩
    refine ⟨(), ?_, (), ?_, (), ?_, kind, ?_, (), ?_, (), ?_, ?_⟩
    all_goals simp [drop_append, length, width, two, revisionEq, size]
    · omega
    · rw [fromUTF8?_eq_some_iff.mpr rfl]

end BinaryFormat

open Network (NetworkBinaryKind)

/-- The frames of a network stream. -/
def networkFormat : BinaryFormat NetworkBinaryKind where
  name := "network"
  id := "stream id"
  magic := utf8 "NET"
  version := 1
  tag
    | .open => 1
    | .opened => 2
    | .data => 3
    | .windowUpdate => 4
    | .halfClose => 5
    | .reset => 6
    | .direct => 7
    | .usage => 8
    | .openDatagram => 9
    | .usageAck => 10
  kinds := [.open, .opened, .data, .windowUpdate, .halfClose, .reset, .direct, .usage,
    .openDatagram, .usageAck]
  known kind := by cases kind <;> rfl
  width := 0
  exceeds id payload := 128 < id || 64 * 1024 < payload

/-- A frame of a network stream. -/
structure NetworkBinaryFrame where
  kind : NetworkBinaryKind
  streamId : String
  payload : List UInt8

namespace NetworkBinaryFrame

/-- The bytes of a frame. -/
def encode (frame : NetworkBinaryFrame) : Except ProtocolError (List UInt8) :=
  networkFormat.encode frame.kind frame.streamId 0 frame.payload

/-- The frame of these bytes. -/
def decode (encoded : List UInt8) : Except ProtocolError NetworkBinaryFrame :=
  (networkFormat.decode encoded).map fun (kind, streamId, _, payload) => ⟨kind, streamId, payload⟩

theorem decode_eq_ok_iff {frame : NetworkBinaryFrame} :
    decode encoded = .ok frame ↔ frame.encode = .ok encoded := by
  rw [decode, map_eq_ok_iff]
  constructor
  · rintro ⟨_, read, rfl⟩
    obtain ⟨none, done⟩ := BinaryFormat.decode_eq_ok_iff.mp read
    rwa [Nat.lt_one_iff.mp none] at done
  · intro done
    exact ⟨_, BinaryFormat.decode_eq_ok_iff.mpr ⟨Nat.one_pos, done⟩, rfl⟩

end NetworkBinaryFrame

/-- What a terminal frame is for. -/
inductive TerminalBinaryKind where
  | ready
  | output
  | input

/-- The frames of a terminal. -/
def terminalFormat : BinaryFormat TerminalBinaryKind where
  name := "terminal"
  id := "session id"
  magic := []
  version := 1
  tag
    | .ready => 1
    | .output => 2
    | .input => 3
  kinds := [.ready, .output, .input]
  known kind := by cases kind <;> rfl
  width := 8
  exceeds _ _ := false

/-- A frame of a terminal session. -/
structure TerminalBinaryFrame where
  kind : TerminalBinaryKind
  sessionId : String
  revision : UInt64
  payload : List UInt8

namespace TerminalBinaryFrame

/-- The bytes of a frame. -/
def encode (frame : TerminalBinaryFrame) : Except ProtocolError (List UInt8) :=
  terminalFormat.encode frame.kind frame.sessionId frame.revision.toNat frame.payload

/-- The frame of these bytes. -/
def decode (encoded : List UInt8) : Except ProtocolError TerminalBinaryFrame :=
  (terminalFormat.decode encoded).map fun (kind, sessionId, revision, payload) =>
    ⟨kind, sessionId, .ofNat revision, payload⟩

theorem decode_eq_ok_iff {frame : TerminalBinaryFrame} :
    decode encoded = .ok frame ↔ frame.encode = .ok encoded := by
  rw [decode, map_eq_ok_iff]
  constructor
  · rintro ⟨_, read, rfl⟩
    obtain ⟨fits, done⟩ := BinaryFormat.decode_eq_ok_iff.mp read
    rwa [← UInt64.toNat_ofNat_of_lt fits] at done
  · intro done
    refine ⟨_, BinaryFormat.decode_eq_ok_iff.mpr ⟨frame.revision.toNat_lt, done⟩, ?_⟩
    simp only [UInt64.ofNat_toNat]

end TerminalBinaryFrame

/-- Both kinds of frames: the decoder takes the encodings, each for its own frame, and
nothing else. No bytes are taken by both decoders. -/
theorem binary_frames_are_canonical :
    (∀ encoded frame, NetworkBinaryFrame.decode encoded = .ok frame ↔ frame.encode = .ok encoded) ∧
    (∀ encoded frame, TerminalBinaryFrame.decode encoded = .ok frame ↔ frame.encode = .ok encoded) ∧
    ∀ encoded network terminal, NetworkBinaryFrame.decode encoded = .ok network →
      TerminalBinaryFrame.decode encoded ≠ .ok terminal := by
  refine ⟨fun _ _ => NetworkBinaryFrame.decode_eq_ok_iff,
    fun _ _ => TerminalBinaryFrame.decode_eq_ok_iff, ?_⟩
  intro encoded network terminal asNetwork asTerminal
  obtain ⟨_, _, startsN⟩ :=
    BinaryFormat.encode_eq_ok_iff.mp (NetworkBinaryFrame.decode_eq_ok_iff.mp asNetwork)
  obtain ⟨_, _, startsOne⟩ :=
    BinaryFormat.encode_eq_ok_iff.mp (TerminalBinaryFrame.decode_eq_ok_iff.mp asTerminal)
  cases startsN.trans startsOne.symm

end Treer.Protocol
