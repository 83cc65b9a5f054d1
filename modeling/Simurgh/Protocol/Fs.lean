import Simurgh.Protocol.Codec

/-!
# The file system protocol

Requests and responses have operation numbers of their own, from the same small range.
-/

namespace Simurgh

abbrev FileHandle := UInt32

/-- A path that is registered. -/
abbrev PathId := UInt32

/-- `READ`, `WRITE`, `CREATE`, `TRUNCATE`, `APPEND` and `DIRECTORY`, from the lowest bit. -/
structure OpenFlags where
  bits : UInt32
  known : bits.toNat < 64
  deriving DecidableEq

namespace OpenFlags

def empty : OpenFlags := { bits := 0, known := by decide }

def fromBits (bits : UInt32) : Option OpenFlags :=
  if known : bits.toNat < 64 then some { bits, known } else none

/-- Open for reading. -/
def read : OpenFlags := { bits := (1 : UInt32) <<< 0, known := by decide }

/-- Open for writing. -/
def write : OpenFlags := { bits := (1 : UInt32) <<< 1, known := by decide }

/-- Create if absent. -/
def create : OpenFlags := { bits := (1 : UInt32) <<< 2, known := by decide }

/-- Truncate on open. -/
def truncate : OpenFlags := { bits := (1 : UInt32) <<< 3, known := by decide }

/-- Append-only writes. -/
def append : OpenFlags := { bits := (1 : UInt32) <<< 4, known := by decide }

def contains (flags other : OpenFlags) : Bool := flags.bits &&& other.bits == other.bits

theorem fromBits_bits (flags : OpenFlags) : fromBits flags.bits = some flags :=
  dif_pos flags.known

end OpenFlags

inductive FsRequest where
  | open (path : PathId) (flags : OpenFlags)
  | read (handle : FileHandle) (offset : UInt64) (len sharedCap : UInt32)
  | write (handle : FileHandle) (offset : UInt64) (len sharedCap : UInt32)
  | stat (path : PathId)
  | close (handle : FileHandle)
  deriving DecidableEq

inductive FsErrorCode where
  | notFound
  | denied
  | badHandle
  | badPath
  | unsupported
  | badSharedRegion
  | io
  deriving DecidableEq, Repr

namespace FsErrorCode

/-- `code as u16`. -/
def code : FsErrorCode → Nat
  | notFound => 1
  | denied => 2
  | badHandle => 3
  | badPath => 4
  | unsupported => 5
  | badSharedRegion => 6
  | io => 7

def ofCode : Nat → Option FsErrorCode
  | 1 => some notFound
  | 2 => some denied
  | 3 => some badHandle
  | 4 => some badPath
  | 5 => some unsupported
  | 6 => some badSharedRegion
  | 7 => some io
  | _ => none

theorem ofCode_code (error : FsErrorCode) : ofCode error.code = some error := by
  cases error <;> rfl

theorem code_of_ofCode {word : Nat} {error : FsErrorCode} (known : ofCode word = some error) :
    word = error.code := by
  unfold ofCode at known
  split at known <;> cases known <;> rfl

end FsErrorCode

inductive FsResponse where
  | opened (handle : FileHandle)
  | read (bytes : UInt32)
  | written (bytes : UInt32)
  | stat (size : UInt64) (isDir : Bool)
  | closed
  | error (code : FsErrorCode)
  deriving DecidableEq, Repr

/-! ## Requests -/

namespace FsRequest

/-- `OP_OPEN` to `OP_CLOSE`. -/
def op : FsRequest → Nat
  | .open .. => 1
  | read .. => 2
  | write .. => 3
  | stat .. => 4
  | close .. => 5

/-- The fields, in the order of their declaration. -/
def fields : FsRequest → List Nat
  | .open path flags => [path.toNat, flags.bits.toNat]
  | read handle offset len sharedCap =>
      [handle.toNat, offset.toNat, len.toNat, sharedCap.toNat]
  | write handle offset len sharedCap =>
      [handle.toNat, offset.toNat, len.toNat, sharedCap.toNat]
  | stat path => [path.toNat]
  | close handle => [handle.toNat]

/-- The array of four words that the encoder fills. -/
def words : FsRequest → List Nat
  | .open path flags => [path.toNat, flags.bits.toNat, 0, 0]
  | read handle offset len sharedCap =>
      [handle.toNat, offset.toNat, len.toNat, sharedCap.toNat]
  | write handle offset len sharedCap =>
      [handle.toNat, offset.toNat, len.toNat, sharedCap.toNat]
  | stat path => [path.toNat, 0, 0, 0]
  | close handle => [handle.toNat, 0, 0, 0]

/-- How many of them are sent. -/
def wordCount : Nat → Nat
  | 1 => 2
  | 2 | 3 => 4
  | _ => 1

def ofMessage (op : Nat) (msg : SmallMessage) : Except DecodeError FsRequest :=
  match op with
  | 1 => do
      msg.need 2
      match OpenFlags.fromBits (.ofNat (msg.word 1)) with
      | some flags => .ok (.open (.ofNat (msg.word 0)) flags)
      | none => .error .badField
  | 2 => do
      msg.need 4
      .ok (.read (.ofNat (msg.word 0)) (.ofNat (msg.word 1)) (.ofNat (msg.word 2))
        (.ofNat (msg.word 3)))
  | 3 => do
      msg.need 4
      .ok (.write (.ofNat (msg.word 0)) (.ofNat (msg.word 1)) (.ofNat (msg.word 2))
        (.ofNat (msg.word 3)))
  | 4 => do
      msg.need 1
      .ok (.stat (.ofNat (msg.word 0)))
  | 5 => do
      msg.need 1
      .ok (.close (.ofNat (msg.word 0)))
  | _ => .error .unknownOpcode

def codec : Codec FsRequest where
  space := .fs
  op := op
  words := words
  count := wordCount
  read := ofMessage

end FsRequest

def encodeFsRequest (req : FsRequest) : SmallMessage := FsRequest.codec.encode req

def decodeFsRequest (msg : SmallMessage) : Except DecodeError FsRequest :=
  FsRequest.codec.decode msg

/-! ## Responses -/

namespace FsResponse

/-- `OP_FR_OPENED` to `OP_FR_ERROR`. -/
def op : FsResponse → Nat
  | opened .. => 1
  | read .. => 2
  | written .. => 3
  | stat .. => 4
  | closed => 5
  | error .. => 6

/-- The fields, in the order of their declaration. -/
def fields : FsResponse → List Nat
  | opened handle => [handle.toNat]
  | read bytes => [bytes.toNat]
  | written bytes => [bytes.toNat]
  | stat size isDir => [size.toNat, isDir.toNat]
  | closed => []
  | error code => [code.code]

/-- The array of two words that the encoder fills. -/
def words : FsResponse → List Nat
  | opened handle => [handle.toNat, 0]
  | read bytes => [bytes.toNat, 0]
  | written bytes => [bytes.toNat, 0]
  | stat size isDir => [size.toNat, isDir.toNat]
  | closed => [0, 0]
  | error code => [code.code, 0]

/-- How many of them are sent. -/
def wordCount (op : Nat) : Nat := if op = 4 then 2 else if op = 5 then 0 else 1

def ofMessage (op : Nat) (msg : SmallMessage) : Except DecodeError FsResponse :=
  match op with
  | 1 => do
      msg.need 1
      .ok (.opened (.ofNat (msg.word 0)))
  | 2 => do
      msg.need 1
      .ok (.read (.ofNat (msg.word 0)))
  | 3 => do
      msg.need 1
      .ok (.written (.ofNat (msg.word 0)))
  | 4 => do
      msg.need 2
      .ok (.stat (.ofNat (msg.word 0)) (decide (msg.word 1 ≠ 0)))
  | 5 => .ok .closed
  | 6 => do
      msg.need 1
      match FsErrorCode.ofCode (msg.word 0) with
      | some code => .ok (.error code)
      | none => .error .badField
  | _ => .error .unknownOpcode

def codec : Codec FsResponse where
  space := .fs
  op := op
  words := words
  count := wordCount
  read := ofMessage

end FsResponse

def encodeFsResponse (resp : FsResponse) : SmallMessage := FsResponse.codec.encode resp

def decodeFsResponse (msg : SmallMessage) : Except DecodeError FsResponse :=
  FsResponse.codec.decode msg

/-! ## Layouts -/

namespace FsRequest

def layout : Layout FsRequest where
  fields := fields
  need
    | 1 => some 2
    | 2 | 3 => some 4
    | 4 | 5 => some 1
    | _ => none
  valid
    | 1, msg => msg.word 1 % 2 ^ 32 < 64
    | _, _ => True
  inRange
    | 1, msg => msg.word 0 < 2 ^ 32 ∧ msg.word 1 < 64
    | 2, msg | 3, msg => msg.word 0 < 2 ^ 32 ∧ msg.word 2 < 2 ^ 32 ∧ msg.word 3 < 2 ^ 32
    | 4, msg | 5, msg => msg.word 0 < 2 ^ 32
    | _, _ => True

theorem follows : codec.Follows layout where
  op_lt := by
    intro req
    cases req <;> simp [codec, op]
  fits := by
    intro req
    cases req <;> simp [codec, words, msgMaxWords]
  sends := by
    intro req
    cases req <;> simp [codec, words, wordCount, op, layout, fields]
  counted := by
    intro req
    cases req <;> rfl
  takes := by
    intro req msg starts
    obtain ⟨need, word⟩ := SmallMessage.of_prefix starts
    cases req with
    | «open» path flags =>
        simp [codec, op, ofMessage, need, word, layout, fields, bind, Except.bind,
          OpenFlags.fromBits_bits]
    | _ => simp [codec, op, ofMessage, need, word, layout, fields, bind, Except.bind]
  reads := by
    intro op msg
    have known : op = 1 ∨ op = 2 ∨ op = 3 ∨ op = 4 ∨ op = 5 ∨ op = 0 ∨ 6 ≤ op := by omega
    rcases known with rfl | rfl | rfl | rfl | rfl | other
    · refine .of_need (n := 2) rfl rfl ?_
      unfold OpenFlags.fromBits
      by_cases known : (UInt32.ofNat (msg.word 1)).toNat < 64
      · rw [dif_pos known]
        refine .inl ⟨_, rfl, rfl, ?_, ?_⟩
        · simpa [layout] using known
        · simp only [layout, fields, SmallMessage.HasFrom, eq_toNat_ofNat32_iff, and_true,
            Nat.zero_add]
          rw [UInt32.toNat_ofNat'] at known
          omega
      · rw [dif_neg known]
        refine .inr ⟨rfl, ?_⟩
        simpa [layout] using known
    · refine .plain (n := 4) rfl rfl rfl trivial fun wide => ?_
      simp only [layout, fields, SmallMessage.HasFrom, eq_toNat_ofNat32_iff,
        eq_toNat_ofNat64_iff, wide.word_lt, true_and, and_true]
    · refine .plain (n := 4) rfl rfl rfl trivial fun wide => ?_
      simp only [layout, fields, SmallMessage.HasFrom, eq_toNat_ofNat32_iff,
        eq_toNat_ofNat64_iff, wide.word_lt, true_and, and_true]
    · exact .word32 rfl rfl rfl trivial rfl Iff.rfl
    · exact .word32 rfl rfl rfl trivial rfl Iff.rfl
    · refine .unknown .unknownOpcode ?_ ?_
      · simp only [layout]
        split <;> first | omega | rfl
      · simp only [codec, ofMessage]
        split <;> first | omega | rfl

end FsRequest

namespace FsResponse

def layout : Layout FsResponse where
  fields := fields
  need
    | 1 | 2 | 3 | 6 => some 1
    | 4 => some 2
    | 5 => some 0
    | _ => none
  valid
    | 6, msg => (FsErrorCode.ofCode (msg.word 0)).isSome
    | _, _ => True
  inRange
    | 1, msg | 2, msg | 3, msg => msg.word 0 < 2 ^ 32
    | 4, msg => msg.word 1 < 2
    | _, _ => True

theorem follows : codec.Follows layout where
  op_lt := by
    intro resp
    cases resp <;> simp [codec, op]
  fits := by
    intro resp
    cases resp <;> simp [codec, words, msgMaxWords]
  sends := by
    intro resp
    cases resp <;> simp [codec, words, wordCount, op, layout, fields]
  counted := by
    intro resp
    cases resp <;> rfl
  takes := by
    intro resp msg starts
    obtain ⟨need, word⟩ := SmallMessage.of_prefix starts
    cases resp with
    | stat size isDir =>
        cases isDir <;>
          simp [codec, op, ofMessage, need, word, layout, fields, bind, Except.bind]
    | error code =>
        simp [codec, op, ofMessage, need, word, layout, fields, bind, Except.bind,
          FsErrorCode.ofCode_code]
    | _ => simp [codec, op, ofMessage, need, word, layout, fields, bind, Except.bind]
  reads := by
    intro op msg
    have known : op = 1 ∨ op = 2 ∨ op = 3 ∨ op = 4 ∨ op = 5 ∨ op = 6 ∨ op = 0 ∨ 7 ≤ op := by
      omega
    rcases known with rfl | rfl | rfl | rfl | rfl | rfl | other
    · exact .word32 rfl rfl rfl trivial rfl Iff.rfl
    · exact .word32 rfl rfl rfl trivial rfl Iff.rfl
    · exact .word32 rfl rfl rfl trivial rfl Iff.rfl
    · refine .plain (n := 2) rfl rfl rfl trivial fun wide => ?_
      simp only [layout, fields, SmallMessage.HasFrom, eq_toNat_ofNat64_iff, wide.word_lt,
        eq_toNat_bool_iff, true_and, and_true]
    · exact .bare rfl rfl rfl trivial Iff.rfl
    · refine .of_need (n := 1) rfl rfl ?_
      cases known : FsErrorCode.ofCode (msg.word 0) with
      | none => exact .inr ⟨rfl, by simp [layout, known]⟩
      | some code =>
          refine .inl ⟨_, rfl, rfl, by simp [layout, known], fun _ => ?_⟩
          simp [layout, fields, SmallMessage.HasFrom, FsErrorCode.code_of_ofCode known]
    · refine .unknown .unknownOpcode ?_ ?_
      · simp only [layout]
        split <;> first | omega | rfl
      · simp only [codec, ofMessage]
        split <;> first | omega | rfl

end FsResponse

variable {msg : SmallMessage}

theorem FsRequest.fields_fit (req : FsRequest) : req.fields.length ≤ msgMaxWords := by
  cases req <;> simp [fields, msgMaxWords]

theorem FsResponse.fields_fit (resp : FsResponse) : resp.fields.length ≤ msgMaxWords := by
  cases resp <;> simp [fields, msgMaxWords]

/-- The words that are sent are the fields. -/
theorem encodeFsRequest_eq (req : FsRequest) :
    encodeFsRequest req = .ofWords (Namespace.fs.label req.op) req.fields := by
  cases req <;> rfl

theorem encodeFsResponse_eq (resp : FsResponse) :
    encodeFsResponse resp = .ofWords (Namespace.fs.label resp.op) resp.fields := by
  cases resp <;> rfl

theorem encodeFsRequest_carries (req : FsRequest) :
    (encodeFsRequest req).Carries (Namespace.fs.label req.op) req.fields := by
  rw [encodeFsRequest_eq]
  exact SmallMessage.carries_ofWords _ req.fields_fit

theorem encodeFsResponse_carries (resp : FsResponse) :
    (encodeFsResponse resp).Carries (Namespace.fs.label resp.op) resp.fields := by
  rw [encodeFsResponse_eq]
  exact SmallMessage.carries_ofWords _ resp.fields_fit

/-- A response is decoded from every message that carries it. -/
theorem decodeFsResponse_of_carries {resp : FsResponse}
    (carries : msg.Carries (Namespace.fs.label resp.op) resp.fields) :
    decodeFsResponse msg = .ok resp :=
  FsResponse.follows.decode_of_prefix
    (SmallMessage.opcode_of_label (FsResponse.follows.op_lt resp) carries.labelled) carries.starts

/-! ## Requests that are taken for responses -/

/-- The response with the operation number and the first word of the request. -/
def FsRequest.misread (isDir : Bool) : FsRequest → FsResponse
  | .open path _ => .opened path
  | read handle .. => .read handle
  | write handle .. => .written handle
  | stat path => .stat path.toUInt64 isDir
  | close _ => .closed

/-- Nothing in a request tells that it is not a response. -/
theorem decodeFsResponse_of_request {req : FsRequest}
    (carries : msg.Carries (Namespace.fs.label req.op) req.fields)
    (full : msgMaxWords ≤ msg.payload.length) :
    ∃ isDir, decodeFsResponse msg = .ok (req.misread isDir) := by
  have one : msg.need 1 = .ok () := SmallMessage.need_of_le (Nat.le_trans (by decide) full)
  have two : msg.need 2 = .ok () := SmallMessage.need_of_le (Nat.le_trans (by decide) full)
  have word := carries.word
  use decide (msg.word 1 ≠ 0)
  have labelled : msg.opcode FsResponse.codec.space = .ok req.op :=
    SmallMessage.opcode_of_label (FsRequest.follows.op_lt req) carries.labelled
  unfold decodeFsResponse
  rw [Codec.decode_of_opcode labelled]
  cases req with
  | «open» path flags =>
      have path := word 0 (by simp [FsRequest.fields])
      simp_all [FsRequest.op, FsRequest.misread, FsRequest.fields, FsResponse.codec,
        FsResponse.ofMessage, bind, Except.bind]
  | read handle offset len sharedCap =>
      have handle := word 0 (by simp [FsRequest.fields])
      simp_all [FsRequest.op, FsRequest.misread, FsRequest.fields, FsResponse.codec,
        FsResponse.ofMessage, bind, Except.bind]
  | write handle offset len sharedCap =>
      have handle := word 0 (by simp [FsRequest.fields])
      simp_all [FsRequest.op, FsRequest.misread, FsRequest.fields, FsResponse.codec,
        FsResponse.ofMessage, bind, Except.bind]
  | stat path =>
      have path := word 0 (by simp [FsRequest.fields])
      simp_all [FsRequest.op, FsRequest.misread, FsRequest.fields, FsResponse.codec,
        FsResponse.ofMessage, bind, Except.bind]
  | close handle => rfl

end Simurgh
