import Simurgh.Protocol.Fs

/-!
# The driver protocol

The device manager and the network stack ask a driver for blocks and frames.
-/

namespace Simurgh

inductive DriverRequest where
  | probe
  | irq (line : UInt32)
  | readBlocks (lba : UInt64) (sectorCount sharedCap : UInt32)
  | writeBlocks (lba : UInt64) (sectorCount sharedCap : UInt32)
  | quiesce
  | sendFrame (len : UInt32)
  | pollFrame
  deriving DecidableEq, Repr

inductive DriverErrorCode where
  | probeFailed
  | outOfRange
  | badSharedRegion
  | deviceIo
  | unsupported
  | noData
  | driverBusy
  deriving DecidableEq, Repr

namespace DriverErrorCode

/-- `code as u16`. -/
def code : DriverErrorCode → Nat
  | probeFailed => 1
  | outOfRange => 2
  | badSharedRegion => 3
  | deviceIo => 4
  | unsupported => 5
  | noData => 6
  | driverBusy => 7

def ofCode : Nat → Option DriverErrorCode
  | 1 => some probeFailed
  | 2 => some outOfRange
  | 3 => some badSharedRegion
  | 4 => some deviceIo
  | 5 => some unsupported
  | 6 => some noData
  | 7 => some driverBusy
  | _ => none

theorem ofCode_code (error : DriverErrorCode) : ofCode error.code = some error := by
  cases error <;> rfl

theorem code_of_ofCode {word : Nat} {error : DriverErrorCode}
    (known : ofCode word = some error) : word = error.code := by
  unfold ofCode at known
  split at known <;> cases known <;> rfl

end DriverErrorCode

inductive DriverResponse where
  | ready (sectorSize : UInt32) (sectorCount : UInt64)
  | completed (sectors : UInt32)
  | failed (code : DriverErrorCode)
  | frameSent
  | frameReceived (len : UInt32)
  deriving DecidableEq, Repr

/-! ## Requests -/

namespace DriverRequest

/-- `OP_DR_PROBE` to `OP_DR_POLL_FRAME`. -/
def op : DriverRequest → Nat
  | probe => 1
  | irq .. => 2
  | readBlocks .. => 3
  | writeBlocks .. => 4
  | quiesce => 5
  | sendFrame .. => 6
  | pollFrame => 7

/-- The array of three words that the encoder fills. -/
def words : DriverRequest → List Nat
  | probe => [0, 0, 0]
  | irq line => [line.toNat, 0, 0]
  | readBlocks lba sectorCount sharedCap => [lba.toNat, sectorCount.toNat, sharedCap.toNat]
  | writeBlocks lba sectorCount sharedCap => [lba.toNat, sectorCount.toNat, sharedCap.toNat]
  | quiesce => [0, 0, 0]
  | sendFrame len => [len.toNat, 0, 0]
  | pollFrame => [0, 0, 0]

/-- How many of them are sent. -/
def wordCount : Nat → Nat
  | 2 | 6 => 1
  | 3 | 4 => 3
  | _ => 0

def ofMessage (op : Nat) (msg : SmallMessage) : Except DecodeError DriverRequest :=
  match op with
  | 1 => .ok .probe
  | 2 => do
      msg.need 1
      .ok (.irq (.ofNat (msg.word 0)))
  | 3 => do
      msg.need 3
      .ok (.readBlocks (.ofNat (msg.word 0)) (.ofNat (msg.word 1)) (.ofNat (msg.word 2)))
  | 4 => do
      msg.need 3
      .ok (.writeBlocks (.ofNat (msg.word 0)) (.ofNat (msg.word 1)) (.ofNat (msg.word 2)))
  | 5 => .ok .quiesce
  | 6 => do
      msg.need 1
      .ok (.sendFrame (.ofNat (msg.word 0)))
  | 7 => .ok .pollFrame
  | _ => .error .unknownOpcode

def codec : Codec DriverRequest where
  space := .driver
  op := op
  words := words
  count := wordCount
  read := ofMessage

end DriverRequest

def encodeDriverRequest (req : DriverRequest) : SmallMessage := DriverRequest.codec.encode req

def decodeDriverRequest (msg : SmallMessage) : Except DecodeError DriverRequest :=
  DriverRequest.codec.decode msg

/-! ## Responses -/

namespace DriverResponse

/-- `OP_DRR_READY` to `OP_DRR_FRAME_RECEIVED`. -/
def op : DriverResponse → Nat
  | ready .. => 1
  | completed .. => 2
  | failed .. => 3
  | frameSent => 4
  | frameReceived .. => 5

/-- The array of two words that the encoder fills. -/
def words : DriverResponse → List Nat
  | ready sectorSize sectorCount => [sectorSize.toNat, sectorCount.toNat]
  | completed sectors => [sectors.toNat, 0]
  | failed code => [code.code, 0]
  | frameSent => [0, 0]
  | frameReceived len => [len.toNat, 0]

/-- How many of them are sent. -/
def wordCount (op : Nat) : Nat := if op = 1 then 2 else if op = 4 then 0 else 1

def ofMessage (op : Nat) (msg : SmallMessage) : Except DecodeError DriverResponse :=
  match op with
  | 1 => do
      msg.need 2
      .ok (.ready (.ofNat (msg.word 0)) (.ofNat (msg.word 1)))
  | 2 => do
      msg.need 1
      .ok (.completed (.ofNat (msg.word 0)))
  | 3 => do
      msg.need 1
      match DriverErrorCode.ofCode (msg.word 0) with
      | some code => .ok (.failed code)
      | none => .error .badField
  | 4 => .ok .frameSent
  | 5 => do
      msg.need 1
      .ok (.frameReceived (.ofNat (msg.word 0)))
  | _ => .error .unknownOpcode

def codec : Codec DriverResponse where
  space := .driver
  op := op
  words := words
  count := wordCount
  read := ofMessage

end DriverResponse

def encodeDriverResponse (resp : DriverResponse) : SmallMessage :=
  DriverResponse.codec.encode resp

def decodeDriverResponse (msg : SmallMessage) : Except DecodeError DriverResponse :=
  DriverResponse.codec.decode msg

/-! ## Layouts -/

namespace DriverRequest

def layout : Layout DriverRequest where
  fields
    | probe => []
    | irq line => [line.toNat]
    | readBlocks lba sectorCount sharedCap => [lba.toNat, sectorCount.toNat, sharedCap.toNat]
    | writeBlocks lba sectorCount sharedCap => [lba.toNat, sectorCount.toNat, sharedCap.toNat]
    | quiesce => []
    | sendFrame len => [len.toNat]
    | pollFrame => []
  need
    | 1 | 5 | 7 => some 0
    | 2 | 6 => some 1
    | 3 | 4 => some 3
    | _ => none
  valid _ _ := True
  inRange
    | 2, msg | 6, msg => msg.word 0 < 2 ^ 32
    | 3, msg | 4, msg => msg.word 1 < 2 ^ 32 ∧ msg.word 2 < 2 ^ 32
    | _, _ => True

theorem follows : codec.Follows layout where
  op_lt := by
    intro req
    cases req <;> simp [codec, op]
  fits := by
    intro req
    cases req <;> simp [codec, words, msgMaxWords]
  sends := by
    intro req
    cases req <;> simp [codec, words, wordCount, op, layout]
  counted := by
    intro req
    cases req <;> rfl
  takes := by
    intro req msg starts
    obtain ⟨need, word⟩ := SmallMessage.of_prefix starts
    cases req <;> simp [codec, op, ofMessage, need, word, layout, bind, Except.bind]
  reads := by
    intro op msg
    have known : op = 1 ∨ op = 2 ∨ op = 3 ∨ op = 4 ∨ op = 5 ∨ op = 6 ∨ op = 7 ∨ op = 0 ∨
        8 ≤ op := by omega
    rcases known with rfl | rfl | rfl | rfl | rfl | rfl | rfl | other
    · exact .bare rfl rfl rfl trivial Iff.rfl
    · exact .word32 rfl rfl rfl trivial rfl Iff.rfl
    · refine .plain (n := 3) rfl rfl rfl trivial fun wide => ?_
      simp only [layout, SmallMessage.HasFrom, eq_toNat_ofNat32_iff, eq_toNat_ofNat64_iff,
        wide.word_lt, true_and, and_true]
    · refine .plain (n := 3) rfl rfl rfl trivial fun wide => ?_
      simp only [layout, SmallMessage.HasFrom, eq_toNat_ofNat32_iff, eq_toNat_ofNat64_iff,
        wide.word_lt, true_and, and_true]
    · exact .bare rfl rfl rfl trivial Iff.rfl
    · exact .word32 rfl rfl rfl trivial rfl Iff.rfl
    · exact .bare rfl rfl rfl trivial Iff.rfl
    · refine .unknown .unknownOpcode ?_ ?_
      · simp only [layout]
        split <;> first | omega | rfl
      · simp only [codec, ofMessage]
        split <;> first | omega | rfl

end DriverRequest

namespace DriverResponse

def layout : Layout DriverResponse where
  fields
    | ready sectorSize sectorCount => [sectorSize.toNat, sectorCount.toNat]
    | completed sectors => [sectors.toNat]
    | failed code => [code.code]
    | frameSent => []
    | frameReceived len => [len.toNat]
  need
    | 1 => some 2
    | 2 | 3 | 5 => some 1
    | 4 => some 0
    | _ => none
  valid
    | 3, msg => (DriverErrorCode.ofCode (msg.word 0)).isSome
    | _, _ => True
  inRange
    | 1, msg | 2, msg | 5, msg => msg.word 0 < 2 ^ 32
    | _, _ => True

theorem follows : codec.Follows layout where
  op_lt := by
    intro resp
    cases resp <;> simp [codec, op]
  fits := by
    intro resp
    cases resp <;> simp [codec, words, msgMaxWords]
  sends := by
    intro resp
    cases resp <;> simp [codec, words, wordCount, op, layout]
  counted := by
    intro resp
    cases resp <;> rfl
  takes := by
    intro resp msg starts
    obtain ⟨need, word⟩ := SmallMessage.of_prefix starts
    cases resp with
    | failed code =>
        simp [codec, op, ofMessage, need, word, layout, bind, Except.bind,
          DriverErrorCode.ofCode_code]
    | _ => simp [codec, op, ofMessage, need, word, layout, bind, Except.bind]
  reads := by
    intro op msg
    have known : op = 1 ∨ op = 2 ∨ op = 3 ∨ op = 4 ∨ op = 5 ∨ op = 0 ∨ 6 ≤ op := by omega
    rcases known with rfl | rfl | rfl | rfl | rfl | other
    · refine .plain (n := 2) rfl rfl rfl trivial fun wide => ?_
      simp only [layout, SmallMessage.HasFrom, eq_toNat_ofNat32_iff, eq_toNat_ofNat64_iff,
        wide.word_lt, and_true]
    · exact .word32 rfl rfl rfl trivial rfl Iff.rfl
    · refine .of_need (n := 1) rfl rfl ?_
      cases known : DriverErrorCode.ofCode (msg.word 0) with
      | none => exact .inr ⟨rfl, by simp [layout, known]⟩
      | some code =>
          refine .inl ⟨_, rfl, rfl, by simp [layout, known], fun _ => ?_⟩
          simp [layout, SmallMessage.HasFrom, DriverErrorCode.code_of_ofCode known]
    · exact .bare rfl rfl rfl trivial Iff.rfl
    · exact .word32 rfl rfl rfl trivial rfl Iff.rfl
    · refine .unknown .unknownOpcode ?_ ?_
      · simp only [layout]
        split <;> first | omega | rfl
      · simp only [codec, ofMessage]
        split <;> first | omega | rfl

end DriverResponse

end Simurgh
