import Simurgh.Protocol.NetBypass

/-!
# The security protocol

Capabilities are granted and revoked on behalf of a service.  The decoder of responses
asks for a word before it looks at the operation.
-/

namespace Simurgh

inductive SecurityRequest where
  | capGrant (targetService cap rights : UInt32)
  | capRevoke (cap : UInt32)
  deriving DecidableEq, Repr

inductive SecurityErrorCode where
  | unsupported
  | unknownService
  | kernelRejected
  deriving DecidableEq, Repr

namespace SecurityErrorCode

/-- `code as u16`. -/
def code : SecurityErrorCode → Nat
  | unsupported => 1
  | unknownService => 2
  | kernelRejected => 3

def ofCode : Nat → Option SecurityErrorCode
  | 1 => some unsupported
  | 2 => some unknownService
  | 3 => some kernelRejected
  | _ => none

theorem ofCode_code (error : SecurityErrorCode) : ofCode error.code = some error := by
  cases error <;> rfl

theorem code_of_ofCode {word : Nat} {error : SecurityErrorCode} (known : ofCode word = some error) :
    word = error.code := by
  unfold ofCode at known
  split at known <;> cases known <;> rfl

end SecurityErrorCode

inductive SecurityResponse where
  | granted (dst : UInt32)
  | revoked (freed : UInt32)
  | error (code : SecurityErrorCode)
  deriving DecidableEq, Repr

/-! ## Requests -/

namespace SecurityRequest

/-- `OP_SEC_CAP_GRANT` and `OP_SEC_CAP_REVOKE`. -/
def op : SecurityRequest → Nat
  | capGrant .. => 1
  | capRevoke .. => 2

/-- The array of three words that the encoder fills. -/
def words : SecurityRequest → List Nat
  | capGrant targetService cap rights => [targetService.toNat, cap.toNat, rights.toNat]
  | capRevoke cap => [cap.toNat, 0, 0]

/-- How many of them are sent. -/
def wordCount (op : Nat) : Nat := if op = 1 then 3 else 1

def ofMessage (op : Nat) (msg : SmallMessage) : Except DecodeError SecurityRequest :=
  match op with
  | 1 => do
      msg.need 3
      .ok (.capGrant (.ofNat (msg.word 0)) (.ofNat (msg.word 1)) (.ofNat (msg.word 2)))
  | 2 => do
      msg.need 1
      .ok (.capRevoke (.ofNat (msg.word 0)))
  | _ => .error .unknownOpcode

def codec : Codec SecurityRequest where
  space := .security
  op := op
  words := words
  count := wordCount
  read := ofMessage

end SecurityRequest

def encodeSecurityRequest (req : SecurityRequest) : SmallMessage :=
  SecurityRequest.codec.encode req

def decodeSecurityRequest (msg : SmallMessage) : Except DecodeError SecurityRequest :=
  SecurityRequest.codec.decode msg

/-! ## Responses -/

namespace SecurityResponse

/-- `OP_SECR_GRANTED` to `OP_SECR_ERROR`. -/
def op : SecurityResponse → Nat
  | granted .. => 1
  | revoked .. => 2
  | error .. => 3

/-- The word that the encoder sends. -/
def words : SecurityResponse → List Nat
  | granted dst => [dst.toNat]
  | revoked freed => [freed.toNat]
  | error code => [code.code]

def ofMessage (op : Nat) (msg : SmallMessage) : Except DecodeError SecurityResponse := do
  msg.need 1
  match op with
  | 1 => .ok (.granted (.ofNat (msg.word 0)))
  | 2 => .ok (.revoked (.ofNat (msg.word 0)))
  | 3 =>
      match SecurityErrorCode.ofCode (msg.word 0) with
      | some code => .ok (.error code)
      | none => .error .badField
  | _ => .error .unknownOpcode

def codec : Codec SecurityResponse where
  space := .security
  op := op
  words := words
  count _ := 1
  read := ofMessage

end SecurityResponse

def encodeSecurityResponse (resp : SecurityResponse) : SmallMessage :=
  SecurityResponse.codec.encode resp

def decodeSecurityResponse (msg : SmallMessage) : Except DecodeError SecurityResponse :=
  SecurityResponse.codec.decode msg

/-! ## Layouts -/

namespace SecurityRequest

def layout : Layout SecurityRequest where
  fields
    | capGrant targetService cap rights => [targetService.toNat, cap.toNat, rights.toNat]
    | capRevoke cap => [cap.toNat]
  need
    | 1 => some 3
    | 2 => some 1
    | _ => none
  valid _ _ := True
  inRange
    | 1, msg => msg.word 0 < 2 ^ 32 ∧ msg.word 1 < 2 ^ 32 ∧ msg.word 2 < 2 ^ 32
    | 2, msg => msg.word 0 < 2 ^ 32
    | _, _ => True

theorem follows : codec.Follows layout where
  op_lt := by
    intro req
    cases req <;> simp [codec, op]
  fits := by
    intro req
    cases req <;> simp [codec, words, msgMaxWords]
  sends := by
    intro req
    cases req <;> simp [codec, words, wordCount, op, layout]
  counted := by
    intro req
    cases req <;> rfl
  takes := by
    intro req msg starts
    obtain ⟨need, word⟩ := SmallMessage.of_prefix starts
    cases req <;> simp [codec, op, ofMessage, need, word, layout, bind, Except.bind]
  reads := by
    intro op msg
    have known : op = 1 ∨ op = 2 ∨ op = 0 ∨ 3 ≤ op := by omega
    rcases known with rfl | rfl | other
    · refine .plain (n := 3) rfl rfl rfl trivial fun _ => ?_
      simp only [layout, SmallMessage.HasFrom, eq_toNat_ofNat32_iff, and_true]
    · exact .word32 rfl rfl rfl trivial rfl Iff.rfl
    · refine .unknown .unknownOpcode ?_ ?_
      · simp only [layout]
        split <;> first | omega | rfl
      · simp only [codec, ofMessage]
        split <;> first | omega | rfl

end SecurityRequest

namespace SecurityResponse

def layout : Layout SecurityResponse where
  fields
    | granted dst => [dst.toNat]
    | revoked freed => [freed.toNat]
    | error code => [code.code]
  need
    | 1 | 2 | 3 => some 1
    | _ => none
  valid
    | 3, msg => (SecurityErrorCode.ofCode (msg.word 0)).isSome
    | _, _ => True
  inRange
    | 1, msg | 2, msg => msg.word 0 < 2 ^ 32
    | _, _ => True

theorem follows : codec.Follows layout where
  op_lt := by
    intro resp
    cases resp <;> simp [codec, op]
  fits := by
    intro resp
    cases resp <;> simp [codec, words, msgMaxWords]
  sends := by
    intro resp
    cases resp <;> simp [codec, words, layout]
  counted := by
    intro resp
    cases resp <;> rfl
  takes := by
    intro resp msg starts
    obtain ⟨need, word⟩ := SmallMessage.of_prefix starts
    cases resp with
    | error code =>
        simp [codec, op, ofMessage, need, word, layout, bind, Except.bind,
          SecurityErrorCode.ofCode_code]
    | _ => simp [codec, op, ofMessage, need, word, layout, bind, Except.bind]
  reads := by
    intro op msg
    have known : op = 1 ∨ op = 2 ∨ op = 3 ∨ op = 0 ∨ 4 ≤ op := by omega
    rcases known with rfl | rfl | rfl | other
    · exact .word32 rfl rfl rfl trivial rfl Iff.rfl
    · exact .word32 rfl rfl rfl trivial rfl Iff.rfl
    · refine .of_need (n := 1) rfl rfl ?_
      cases known : SecurityErrorCode.ofCode (msg.word 0) with
      | none => exact .inr ⟨rfl, by simp [layout, known]⟩
      | some code =>
          refine .inl ⟨_, rfl, rfl, by simp [layout, known], fun _ => ?_⟩
          simp [layout, SmallMessage.HasFrom, SecurityErrorCode.code_of_ofCode known]
    · have unknown : layout.need op = none := by
        simp only [layout]
        split <;> first | omega | rfl
      by_cases enough : 1 ≤ msg.payload.length
      · refine .unknown .unknownOpcode unknown ?_
        simp only [codec, ofMessage, SmallMessage.need_of_le enough]
        split <;> first | omega | rfl
      · refine .unknown .truncated unknown ?_
        simp only [codec, ofMessage, SmallMessage.need, if_pos (Nat.lt_of_not_le enough)]
        rfl

end SecurityResponse

end Simurgh
