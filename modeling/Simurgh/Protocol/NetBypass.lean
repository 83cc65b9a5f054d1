import Simurgh.Protocol.Mm

/-!
# The network bypass protocol

A program asks for a network card of its own, and gets two rings.
-/

namespace Simurgh

abbrev DirectNicHandle := UInt32

inductive NetBypassRequest where
  | requestDirectNic (nicId : UInt32)
  | release (handle : DirectNicHandle)
  | relayFrame
  deriving DecidableEq, Repr

inductive NetBypassResponse where
  | granted (handle : DirectNicHandle) (rxRingCap txRingCap ringLen : UInt32)
  | denied
  | released
  | relayed
  deriving DecidableEq, Repr

/-! ## Requests -/

namespace NetBypassRequest

/-- `OP_NB_REQUEST_DIRECT_NIC` to `OP_NB_RELAY_FRAME`. -/
def op : NetBypassRequest → Nat
  | requestDirectNic .. => 1
  | release .. => 2
  | relayFrame => 3

/-- The array of one word that the encoder fills. -/
def words : NetBypassRequest → List Nat
  | requestDirectNic nicId => [nicId.toNat]
  | release handle => [handle.toNat]
  | relayFrame => [0]

/-- How many of them are sent. -/
def wordCount (op : Nat) : Nat := if op = 3 then 0 else 1

def ofMessage (op : Nat) (msg : SmallMessage) : Except DecodeError NetBypassRequest :=
  match op with
  | 1 => do
      msg.need 1
      .ok (.requestDirectNic (.ofNat (msg.word 0)))
  | 2 => do
      msg.need 1
      .ok (.release (.ofNat (msg.word 0)))
  | 3 => .ok .relayFrame
  | _ => .error .unknownOpcode

def codec : Codec NetBypassRequest where
  space := .netBypass
  op := op
  words := words
  count := wordCount
  read := ofMessage

end NetBypassRequest

def encodeNetBypassRequest (req : NetBypassRequest) : SmallMessage :=
  NetBypassRequest.codec.encode req

def decodeNetBypassRequest (msg : SmallMessage) : Except DecodeError NetBypassRequest :=
  NetBypassRequest.codec.decode msg

/-! ## Responses -/

namespace NetBypassResponse

/-- `OP_NBR_GRANTED` to `OP_NBR_RELAYED`. -/
def op : NetBypassResponse → Nat
  | granted .. => 1
  | denied => 2
  | released => 3
  | relayed => 4

/-- The array of four words that the encoder fills. -/
def words : NetBypassResponse → List Nat
  | granted handle rxRingCap txRingCap ringLen =>
      [handle.toNat, rxRingCap.toNat, txRingCap.toNat, ringLen.toNat]
  | denied => [0, 0, 0, 0]
  | released => [0, 0, 0, 0]
  | relayed => [0, 0, 0, 0]

/-- How many of them are sent. -/
def wordCount (op : Nat) : Nat := if op = 1 then 4 else 0

def ofMessage (op : Nat) (msg : SmallMessage) : Except DecodeError NetBypassResponse :=
  match op with
  | 1 => do
      msg.need 4
      .ok (.granted (.ofNat (msg.word 0)) (.ofNat (msg.word 1)) (.ofNat (msg.word 2))
        (.ofNat (msg.word 3)))
  | 2 => .ok .denied
  | 3 => .ok .released
  | 4 => .ok .relayed
  | _ => .error .unknownOpcode

def codec : Codec NetBypassResponse where
  space := .netBypass
  op := op
  words := words
  count := wordCount
  read := ofMessage

end NetBypassResponse

def encodeNetBypassResponse (resp : NetBypassResponse) : SmallMessage :=
  NetBypassResponse.codec.encode resp

def decodeNetBypassResponse (msg : SmallMessage) : Except DecodeError NetBypassResponse :=
  NetBypassResponse.codec.decode msg

/-! ## Layouts -/

namespace NetBypassRequest

def layout : Layout NetBypassRequest where
  fields
    | requestDirectNic nicId => [nicId.toNat]
    | release handle => [handle.toNat]
    | relayFrame => []
  need
    | 1 | 2 => some 1
    | 3 => some 0
    | _ => none
  valid _ _ := True
  inRange
    | 1, msg | 2, msg => msg.word 0 < 2 ^ 32
    | _, _ => True

theorem follows : codec.Follows layout where
  op_lt := by
    intro req
    cases req <;> simp [codec, op]
  fits := by
    intro req
    cases req <;> simp [codec, words, msgMaxWords]
  sends := by
    intro req
    cases req <;> simp [codec, words, wordCount, op, layout]
  counted := by
    intro req
    cases req <;> rfl
  takes := by
    intro req msg starts
    obtain ⟨need, word⟩ := SmallMessage.of_prefix starts
    cases req <;> simp [codec, op, ofMessage, need, word, layout, bind, Except.bind]
  reads := by
    intro op msg
    have known : op = 1 ∨ op = 2 ∨ op = 3 ∨ op = 0 ∨ 4 ≤ op := by omega
    rcases known with rfl | rfl | rfl | other
    · exact .word32 rfl rfl rfl trivial rfl Iff.rfl
    · exact .word32 rfl rfl rfl trivial rfl Iff.rfl
    · exact .bare rfl rfl rfl trivial Iff.rfl
    · refine .unknown .unknownOpcode ?_ ?_
      · simp only [layout]
        split <;> first | omega | rfl
      · simp only [codec, ofMessage]
        split <;> first | omega | rfl

end NetBypassRequest

namespace NetBypassResponse

def layout : Layout NetBypassResponse where
  fields
    | granted handle rxRingCap txRingCap ringLen =>
        [handle.toNat, rxRingCap.toNat, txRingCap.toNat, ringLen.toNat]
    | denied => []
    | released => []
    | relayed => []
  need
    | 1 => some 4
    | 2 | 3 | 4 => some 0
    | _ => none
  valid _ _ := True
  inRange
    | 1, msg =>
        msg.word 0 < 2 ^ 32 ∧ msg.word 1 < 2 ^ 32 ∧ msg.word 2 < 2 ^ 32 ∧ msg.word 3 < 2 ^ 32
    | _, _ => True

theorem follows : codec.Follows layout where
  op_lt := by
    intro resp
    cases resp <;> simp [codec, op]
  fits := by
    intro resp
    cases resp <;> simp [codec, words, msgMaxWords]
  sends := by
    intro resp
    cases resp <;> simp [codec, words, wordCount, op, layout]
  counted := by
    intro resp
    cases resp <;> rfl
  takes := by
    intro resp msg starts
    obtain ⟨need, word⟩ := SmallMessage.of_prefix starts
    cases resp <;> simp [codec, op, ofMessage, need, word, layout, bind, Except.bind]
  reads := by
    intro op msg
    have known : op = 1 ∨ op = 2 ∨ op = 3 ∨ op = 4 ∨ op = 0 ∨ 5 ≤ op := by omega
    rcases known with rfl | rfl | rfl | rfl | other
    · refine .plain (n := 4) rfl rfl rfl trivial fun _ => ?_
      simp only [layout, SmallMessage.HasFrom, eq_toNat_ofNat32_iff, and_true]
    · exact .bare rfl rfl rfl trivial Iff.rfl
    · exact .bare rfl rfl rfl trivial Iff.rfl
    · exact .bare rfl rfl rfl trivial Iff.rfl
    · refine .unknown .unknownOpcode ?_ ?_
      · simp only [layout]
        split <;> first | omega | rfl
      · simp only [codec, ofMessage]
        split <;> first | omega | rfl

end NetBypassResponse

end Simurgh
