import Simurgh.Protocol.Driver

/-!
# The display protocol

A client of the display server makes surfaces and commits buffers to them.
-/

namespace Simurgh

abbrev SurfaceHandle := UInt32

inductive DisplayRequest where
  | createSurface
  | commitBuffer (surface : SurfaceHandle) (bufferCap width height : UInt32)
  | destroySurface (surface : SurfaceHandle)
  | subscribeInput
  | queryOutputs
  deriving DecidableEq, Repr

inductive DisplayErrorCode where
  | badSurface
  | badBuffer
  | unsupported
  deriving DecidableEq, Repr

namespace DisplayErrorCode

/-- `code as u16`. -/
def code : DisplayErrorCode → Nat
  | badSurface => 1
  | badBuffer => 2
  | unsupported => 3

def ofCode : Nat → Option DisplayErrorCode
  | 1 => some badSurface
  | 2 => some badBuffer
  | 3 => some unsupported
  | _ => none

theorem ofCode_code (error : DisplayErrorCode) : ofCode error.code = some error := by
  cases error <;> rfl

theorem code_of_ofCode {word : Nat} {error : DisplayErrorCode} (known : ofCode word = some error) :
    word = error.code := by
  unfold ofCode at known
  split at known <;> cases known <;> rfl

end DisplayErrorCode

inductive DisplayResponse where
  | surfaceCreated (surface : SurfaceHandle)
  | committed
  | destroyed
  | inputSubscribed
  | outputTopology (outputCount primaryWidth primaryHeight primaryRefreshMhz : UInt32)
  | error (code : DisplayErrorCode)
  deriving DecidableEq, Repr

/-! ## Requests -/

namespace DisplayRequest

/-- `OP_DP_CREATE_SURFACE` to `OP_DP_QUERY_OUTPUTS`. -/
def op : DisplayRequest → Nat
  | createSurface => 1
  | commitBuffer .. => 2
  | destroySurface .. => 3
  | subscribeInput => 4
  | queryOutputs => 5

/-- The array of four words that the encoder fills. -/
def words : DisplayRequest → List Nat
  | createSurface => [0, 0, 0, 0]
  | commitBuffer surface bufferCap width height =>
      [surface.toNat, bufferCap.toNat, width.toNat, height.toNat]
  | destroySurface surface => [surface.toNat, 0, 0, 0]
  | subscribeInput => [0, 0, 0, 0]
  | queryOutputs => [0, 0, 0, 0]

/-- How many of them are sent. -/
def wordCount : Nat → Nat
  | 2 => 4
  | 3 => 1
  | _ => 0

def ofMessage (op : Nat) (msg : SmallMessage) : Except DecodeError DisplayRequest :=
  match op with
  | 1 => .ok .createSurface
  | 2 => do
      msg.need 4
      .ok (.commitBuffer (.ofNat (msg.word 0)) (.ofNat (msg.word 1)) (.ofNat (msg.word 2))
        (.ofNat (msg.word 3)))
  | 3 => do
      msg.need 1
      .ok (.destroySurface (.ofNat (msg.word 0)))
  | 4 => .ok .subscribeInput
  | 5 => .ok .queryOutputs
  | _ => .error .unknownOpcode

def codec : Codec DisplayRequest where
  space := .display
  op := op
  words := words
  count := wordCount
  read := ofMessage

end DisplayRequest

def encodeDisplayRequest (req : DisplayRequest) : SmallMessage :=
  DisplayRequest.codec.encode req

def decodeDisplayRequest (msg : SmallMessage) : Except DecodeError DisplayRequest :=
  DisplayRequest.codec.decode msg

/-! ## Responses -/

namespace DisplayResponse

/-- `OP_DPR_SURFACE_CREATED` to `OP_DPR_ERROR`. -/
def op : DisplayResponse → Nat
  | surfaceCreated .. => 1
  | committed => 2
  | destroyed => 3
  | inputSubscribed => 4
  | outputTopology .. => 5
  | error .. => 6

/-- The array of four words that the encoder fills. -/
def words : DisplayResponse → List Nat
  | surfaceCreated surface => [surface.toNat, 0, 0, 0]
  | committed => [0, 0, 0, 0]
  | destroyed => [0, 0, 0, 0]
  | inputSubscribed => [0, 0, 0, 0]
  | outputTopology outputCount primaryWidth primaryHeight primaryRefreshMhz =>
      [outputCount.toNat, primaryWidth.toNat, primaryHeight.toNat, primaryRefreshMhz.toNat]
  | error code => [code.code, 0, 0, 0]

/-- How many of them are sent. -/
def wordCount : Nat → Nat
  | 5 => 4
  | 1 | 6 => 1
  | _ => 0

def ofMessage (op : Nat) (msg : SmallMessage) : Except DecodeError DisplayResponse :=
  match op with
  | 1 => do
      msg.need 1
      .ok (.surfaceCreated (.ofNat (msg.word 0)))
  | 2 => .ok .committed
  | 3 => .ok .destroyed
  | 4 => .ok .inputSubscribed
  | 5 => do
      msg.need 4
      .ok (.outputTopology (.ofNat (msg.word 0)) (.ofNat (msg.word 1)) (.ofNat (msg.word 2))
        (.ofNat (msg.word 3)))
  | 6 => do
      msg.need 1
      match DisplayErrorCode.ofCode (msg.word 0) with
      | some code => .ok (.error code)
      | none => .error .badField
  | _ => .error .unknownOpcode

def codec : Codec DisplayResponse where
  space := .display
  op := op
  words := words
  count := wordCount
  read := ofMessage

end DisplayResponse

def encodeDisplayResponse (resp : DisplayResponse) : SmallMessage :=
  DisplayResponse.codec.encode resp

def decodeDisplayResponse (msg : SmallMessage) : Except DecodeError DisplayResponse :=
  DisplayResponse.codec.decode msg

/-! ## Layouts -/

namespace DisplayRequest

def layout : Layout DisplayRequest where
  fields
    | createSurface => []
    | commitBuffer surface bufferCap width height =>
        [surface.toNat, bufferCap.toNat, width.toNat, height.toNat]
    | destroySurface surface => [surface.toNat]
    | subscribeInput => []
    | queryOutputs => []
  need
    | 1 | 4 | 5 => some 0
    | 2 => some 4
    | 3 => some 1
    | _ => none
  valid _ _ := True
  inRange
    | 2, msg =>
        msg.word 0 < 2 ^ 32 ∧ msg.word 1 < 2 ^ 32 ∧ msg.word 2 < 2 ^ 32 ∧ msg.word 3 < 2 ^ 32
    | 3, msg => msg.word 0 < 2 ^ 32
    | _, _ => True

theorem follows : codec.Follows layout where
  op_lt := by
    intro req
    cases req <;> simp [codec, op]
  fits := by
    intro req
    cases req <;> simp [codec, words, msgMaxWords]
  sends := by
    intro req
    cases req <;> simp [codec, words, wordCount, op, layout]
  counted := by
    intro req
    cases req <;> rfl
  takes := by
    intro req msg starts
    obtain ⟨need, word⟩ := SmallMessage.of_prefix starts
    cases req <;> simp [codec, op, ofMessage, need, word, layout, bind, Except.bind]
  reads := by
    intro op msg
    have known : op = 1 ∨ op = 2 ∨ op = 3 ∨ op = 4 ∨ op = 5 ∨ op = 0 ∨ 6 ≤ op := by omega
    rcases known with rfl | rfl | rfl | rfl | rfl | other
    · exact .bare rfl rfl rfl trivial Iff.rfl
    · refine .plain (n := 4) rfl rfl rfl trivial fun _ => ?_
      simp only [layout, SmallMessage.HasFrom, eq_toNat_ofNat32_iff, and_true]
    · exact .word32 rfl rfl rfl trivial rfl Iff.rfl
    · exact .bare rfl rfl rfl trivial Iff.rfl
    · exact .bare rfl rfl rfl trivial Iff.rfl
    · refine .unknown .unknownOpcode ?_ ?_
      · simp only [layout]
        split <;> first | omega | rfl
      · simp only [codec, ofMessage]
        split <;> first | omega | rfl

end DisplayRequest

namespace DisplayResponse

def layout : Layout DisplayResponse where
  fields
    | surfaceCreated surface => [surface.toNat]
    | committed => []
    | destroyed => []
    | inputSubscribed => []
    | outputTopology outputCount primaryWidth primaryHeight primaryRefreshMhz =>
        [outputCount.toNat, primaryWidth.toNat, primaryHeight.toNat, primaryRefreshMhz.toNat]
    | error code => [code.code]
  need
    | 1 | 6 => some 1
    | 2 | 3 | 4 => some 0
    | 5 => some 4
    | _ => none
  valid
    | 6, msg => (DisplayErrorCode.ofCode (msg.word 0)).isSome
    | _, _ => True
  inRange
    | 1, msg => msg.word 0 < 2 ^ 32
    | 5, msg =>
        msg.word 0 < 2 ^ 32 ∧ msg.word 1 < 2 ^ 32 ∧ msg.word 2 < 2 ^ 32 ∧ msg.word 3 < 2 ^ 32
    | _, _ => True

theorem follows : codec.Follows layout where
  op_lt := by
    intro resp
    cases resp <;> simp [codec, op]
  fits := by
    intro resp
    cases resp <;> simp [codec, words, msgMaxWords]
  sends := by
    intro resp
    cases resp <;> simp [codec, words, wordCount, op, layout]
  counted := by
    intro resp
    cases resp <;> rfl
  takes := by
    intro resp msg starts
    obtain ⟨need, word⟩ := SmallMessage.of_prefix starts
    cases resp with
    | error code =>
        simp [codec, op, ofMessage, need, word, layout, bind, Except.bind,
          DisplayErrorCode.ofCode_code]
    | _ => simp [codec, op, ofMessage, need, word, layout, bind, Except.bind]
  reads := by
    intro op msg
    have known : op = 1 ∨ op = 2 ∨ op = 3 ∨ op = 4 ∨ op = 5 ∨ op = 6 ∨ op = 0 ∨ 7 ≤ op := by
      omega
    rcases known with rfl | rfl | rfl | rfl | rfl | rfl | other
    · exact .word32 rfl rfl rfl trivial rfl Iff.rfl
    · exact .bare rfl rfl rfl trivial Iff.rfl
    · exact .bare rfl rfl rfl trivial Iff.rfl
    · exact .bare rfl rfl rfl trivial Iff.rfl
    · refine .plain (n := 4) rfl rfl rfl trivial fun _ => ?_
      simp only [layout, SmallMessage.HasFrom, eq_toNat_ofNat32_iff, and_true]
    · refine .of_need (n := 1) rfl rfl ?_
      cases known : DisplayErrorCode.ofCode (msg.word 0) with
      | none => exact .inr ⟨rfl, by simp [layout, known]⟩
      | some code =>
          refine .inl ⟨_, rfl, rfl, by simp [layout, known], fun _ => ?_⟩
          simp [layout, SmallMessage.HasFrom, DisplayErrorCode.code_of_ofCode known]
    · refine .unknown .unknownOpcode ?_ ?_
      · simp only [layout]
        split <;> first | omega | rfl
      · simp only [codec, ofMessage]
        split <;> first | omega | rfl

end DisplayResponse

end Simurgh
