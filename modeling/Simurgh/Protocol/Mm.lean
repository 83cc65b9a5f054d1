import Simurgh.Protocol.Display

/-!
# The memory manager protocol

Processes register what memory they hold, and the manager names victims.
-/

namespace Simurgh

inductive ReclaimClass where
  | «protected»
  | normal
  | sacrificial
  deriving DecidableEq, Repr

namespace ReclaimClass

/-- `code as u8`. -/
def code : ReclaimClass → Nat
  | «protected» => 0
  | normal => 1
  | sacrificial => 2

def ofCode : Nat → Option ReclaimClass
  | 0 => some .protected
  | 1 => some normal
  | 2 => some sacrificial
  | _ => none

theorem ofCode_code (kind : ReclaimClass) : ofCode kind.code = some kind := by
  cases kind <;> rfl

theorem code_of_ofCode {word : Nat} {kind : ReclaimClass} (known : ofCode word = some kind) :
    word = kind.code := by
  unfold ofCode at known
  split at known <;> cases known <;> rfl

end ReclaimClass

inductive ComputeKind where
  | cpu
  | gpu
  | npu
  | tpu
  | fpga
  deriving DecidableEq, Repr

namespace ComputeKind

/-- `code as u8`. -/
def code : ComputeKind → Nat
  | cpu => 0
  | gpu => 1
  | npu => 2
  | tpu => 3
  | fpga => 4

def ofCode : Nat → Option ComputeKind
  | 0 => some cpu
  | 1 => some gpu
  | 2 => some npu
  | 3 => some tpu
  | 4 => some fpga
  | _ => none

theorem ofCode_code (kind : ComputeKind) : ofCode kind.code = some kind := by
  cases kind <;> rfl

theorem code_of_ofCode {word : Nat} {kind : ComputeKind} (known : ofCode word = some kind) :
    word = kind.code := by
  unfold ofCode at known
  split at known <;> cases known <;> rfl

end ComputeKind

inductive MmRequest where
  | register (thread : UInt32) (residentBytes : UInt64) (reclaim : ReclaimClass)
  | unregister (thread : UInt32)
  | queryVictim
  | queryTotalResident
  | registerSwapRegion (thread regionId : UInt32) (bytes lastTouchedNs : UInt64)
  | unregisterSwapRegion (thread regionId : UInt32)
  | querySwapVictim
  | registerComputePool (poolId : UInt32) (kind : ComputeKind)
      (capacityBytes usedBytes : UInt64)
  | queryComputePool (bytes : UInt64) (preferredKind : Option ComputeKind)
  deriving DecidableEq, Repr

inductive MmErrorCode where
  | unsupported
  deriving DecidableEq, Repr

namespace MmErrorCode

/-- `code as u16`. -/
def code : MmErrorCode → Nat
  | unsupported => 1

def ofCode : Nat → Option MmErrorCode
  | 1 => some unsupported
  | _ => none

theorem ofCode_code (error : MmErrorCode) : ofCode error.code = some error := by
  cases error
  rfl

theorem code_of_ofCode {word : Nat} {error : MmErrorCode} (known : ofCode word = some error) :
    word = error.code := by
  unfold ofCode at known
  split at known
  · cases known
    rfl
  · cases known

end MmErrorCode

inductive MmResponse where
  | registered
  | unregistered
  | victim (thread : UInt32)
  | totalResident (bytes : UInt64)
  | swapRegionRegistered
  | swapRegionUnregistered
  | swapVictim (thread regionId : UInt32)
  | computePoolRegistered
  | computePoolChosen (poolId : UInt32)
  | error (code : MmErrorCode)
  deriving DecidableEq, Repr

/-! ## Requests -/

namespace MmRequest

/-- `OP_MM_REGISTER` to `OP_MM_QUERY_COMPUTE_POOL`. -/
def op : MmRequest → Nat
  | register .. => 1
  | unregister .. => 2
  | queryVictim => 3
  | queryTotalResident => 4
  | registerSwapRegion .. => 5
  | unregisterSwapRegion .. => 6
  | querySwapVictim => 7
  | registerComputePool .. => 8
  | queryComputePool .. => 9

/-- `has_pref` and `kind_word`. -/
def preference : Option ComputeKind → Nat × Nat
  | some kind => (1, kind.code)
  | none => (0, 0)

/-- The array of four words that the encoder fills. -/
def words : MmRequest → List Nat
  | register thread residentBytes reclaim =>
      [thread.toNat, residentBytes.toNat, reclaim.code, 0]
  | unregister thread => [thread.toNat, 0, 0, 0]
  | queryVictim => [0, 0, 0, 0]
  | queryTotalResident => [0, 0, 0, 0]
  | registerSwapRegion thread regionId bytes lastTouchedNs =>
      [thread.toNat, regionId.toNat, bytes.toNat, lastTouchedNs.toNat]
  | unregisterSwapRegion thread regionId => [thread.toNat, regionId.toNat, 0, 0]
  | querySwapVictim => [0, 0, 0, 0]
  | registerComputePool poolId kind capacityBytes usedBytes =>
      [poolId.toNat, kind.code, capacityBytes.toNat, usedBytes.toNat]
  | queryComputePool bytes preferredKind =>
      [bytes.toNat, (preference preferredKind).1, (preference preferredKind).2, 0]

/-- How many of them are sent.  The last word of `register` and `unregisterSwapRegion`
is not a field. -/
def wordCount : Nat → Nat
  | 1 | 5 | 8 => 4
  | 9 | 6 => 3
  | 2 => 1
  | _ => 0

/-- `decode_compute_kind`. -/
def decodeComputeKind (word : Nat) : Except DecodeError ComputeKind :=
  match ComputeKind.ofCode word with
  | some kind => .ok kind
  | none => .error .badField

def ofMessage (op : Nat) (msg : SmallMessage) : Except DecodeError MmRequest :=
  match op with
  | 1 => do
      msg.need 3
      match ReclaimClass.ofCode (msg.word 2) with
      | some reclaim => .ok (.register (.ofNat (msg.word 0)) (.ofNat (msg.word 1)) reclaim)
      | none => .error .badField
  | 2 => do
      msg.need 1
      .ok (.unregister (.ofNat (msg.word 0)))
  | 3 => .ok .queryVictim
  | 4 => .ok .queryTotalResident
  | 5 => do
      msg.need 4
      .ok (.registerSwapRegion (.ofNat (msg.word 0)) (.ofNat (msg.word 1))
        (.ofNat (msg.word 2)) (.ofNat (msg.word 3)))
  | 6 => do
      msg.need 2
      .ok (.unregisterSwapRegion (.ofNat (msg.word 0)) (.ofNat (msg.word 1)))
  | 7 => .ok .querySwapVictim
  | 8 => do
      msg.need 4
      let kind ← decodeComputeKind (msg.word 1)
      .ok (.registerComputePool (.ofNat (msg.word 0)) kind (.ofNat (msg.word 2))
        (.ofNat (msg.word 3)))
  | 9 => do
      msg.need 3
      let preferredKind ←
        match msg.word 1 with
        | 0 => .ok none
        | 1 => do
            let kind ← decodeComputeKind (msg.word 2)
            .ok (some kind)
        | _ => .error .badField
      .ok (.queryComputePool (.ofNat (msg.word 0)) preferredKind)
  | _ => .error .unknownOpcode

def codec : Codec MmRequest where
  space := .mm
  op := op
  words := words
  count := wordCount
  read := ofMessage

end MmRequest

def encodeMmRequest (req : MmRequest) : SmallMessage := MmRequest.codec.encode req

def decodeMmRequest (msg : SmallMessage) : Except DecodeError MmRequest :=
  MmRequest.codec.decode msg

/-! ## Responses -/

namespace MmResponse

/-- The `OP_MMR` numbers. -/
def op : MmResponse → Nat
  | registered => 1
  | unregistered => 2
  | victim .. => 3
  | totalResident .. => 4
  | error .. => 5
  | swapRegionRegistered => 6
  | swapRegionUnregistered => 7
  | swapVictim .. => 8
  | computePoolRegistered => 9
  | computePoolChosen .. => 10

/-- The array of two words that the encoder fills. -/
def words : MmResponse → List Nat
  | registered => [0, 0]
  | unregistered => [0, 0]
  | victim thread => [thread.toNat, 0]
  | totalResident bytes => [bytes.toNat, 0]
  | swapRegionRegistered => [0, 0]
  | swapRegionUnregistered => [0, 0]
  | swapVictim thread regionId => [thread.toNat, regionId.toNat]
  | computePoolRegistered => [0, 0]
  | computePoolChosen poolId => [poolId.toNat, 0]
  | error code => [code.code, 0]

/-- How many of them are sent. -/
def wordCount : Nat → Nat
  | 1 | 2 | 6 | 7 | 9 => 0
  | 8 => 2
  | _ => 1

def ofMessage (op : Nat) (msg : SmallMessage) : Except DecodeError MmResponse :=
  match op with
  | 1 => .ok .registered
  | 2 => .ok .unregistered
  | 3 => do
      msg.need 1
      .ok (.victim (.ofNat (msg.word 0)))
  | 4 => do
      msg.need 1
      .ok (.totalResident (.ofNat (msg.word 0)))
  | 5 => do
      msg.need 1
      match MmErrorCode.ofCode (msg.word 0) with
      | some code => .ok (.error code)
      | none => .error .badField
  | 6 => .ok .swapRegionRegistered
  | 7 => .ok .swapRegionUnregistered
  | 8 => do
      msg.need 2
      .ok (.swapVictim (.ofNat (msg.word 0)) (.ofNat (msg.word 1)))
  | 9 => .ok .computePoolRegistered
  | 10 => do
      msg.need 1
      .ok (.computePoolChosen (.ofNat (msg.word 0)))
  | _ => .error .unknownOpcode

def codec : Codec MmResponse where
  space := .mm
  op := op
  words := words
  count := wordCount
  read := ofMessage

end MmResponse

def encodeMmResponse (resp : MmResponse) : SmallMessage := MmResponse.codec.encode resp

def decodeMmResponse (msg : SmallMessage) : Except DecodeError MmResponse :=
  MmResponse.codec.decode msg

/-! ## Layouts -/

namespace MmRequest

def layout : Layout MmRequest where
  fields
    | register thread residentBytes reclaim =>
        [thread.toNat, residentBytes.toNat, reclaim.code]
    | unregister thread => [thread.toNat]
    | queryVictim => []
    | queryTotalResident => []
    | registerSwapRegion thread regionId bytes lastTouchedNs =>
        [thread.toNat, regionId.toNat, bytes.toNat, lastTouchedNs.toNat]
    | unregisterSwapRegion thread regionId => [thread.toNat, regionId.toNat]
    | querySwapVictim => []
    | registerComputePool poolId kind capacityBytes usedBytes =>
        [poolId.toNat, kind.code, capacityBytes.toNat, usedBytes.toNat]
    | queryComputePool bytes preferredKind =>
        [bytes.toNat, (preference preferredKind).1, (preference preferredKind).2]
  need
    | 1 | 9 => some 3
    | 2 => some 1
    | 3 | 4 | 7 => some 0
    | 5 | 8 => some 4
    | 6 => some 2
    | _ => none
  valid
    | 1, msg => (ReclaimClass.ofCode (msg.word 2)).isSome
    | 8, msg => (ComputeKind.ofCode (msg.word 1)).isSome
    | 9, msg =>
        msg.word 1 = 0 ∨ msg.word 1 = 1 ∧ (ComputeKind.ofCode (msg.word 2)).isSome
    | _, _ => True
  inRange
    | 1, msg | 2, msg | 8, msg => msg.word 0 < 2 ^ 32
    | 5, msg | 6, msg => msg.word 0 < 2 ^ 32 ∧ msg.word 1 < 2 ^ 32
    | 9, msg => msg.word 1 = 0 → msg.word 2 = 0
    | _, _ => True

theorem follows : codec.Follows layout where
  op_lt := by
    intro req
    cases req <;> simp [codec, op]
  fits := by
    intro req
    cases req <;> simp [codec, words, msgMaxWords]
  sends := by
    intro req
    cases req <;> simp [codec, words, wordCount, op, layout]
  counted := by
    intro req
    cases req <;> rfl
  takes := by
    intro req msg starts
    obtain ⟨need, word⟩ := SmallMessage.of_prefix starts
    cases req with
    | register thread residentBytes reclaim =>
        simp [codec, op, ofMessage, need, word, layout, bind, Except.bind,
          ReclaimClass.ofCode_code]
    | registerComputePool poolId kind capacityBytes usedBytes =>
        simp [codec, op, ofMessage, need, word, layout, bind, Except.bind,
          decodeComputeKind, ComputeKind.ofCode_code]
    | queryComputePool bytes preferredKind =>
        cases preferredKind with
        | none => simp [codec, op, ofMessage, need, word, layout, bind, Except.bind, preference]
        | some kind =>
            simp [codec, op, ofMessage, need, word, layout, bind, Except.bind,
              preference, decodeComputeKind, ComputeKind.ofCode_code]
    | _ => simp [codec, op, ofMessage, need, word, layout, bind, Except.bind]
  reads := by
    intro op msg
    have known : op = 1 ∨ op = 2 ∨ op = 3 ∨ op = 4 ∨ op = 5 ∨ op = 6 ∨ op = 7 ∨ op = 8 ∨
        op = 9 ∨ op = 0 ∨ 10 ≤ op := by omega
    rcases known with rfl | rfl | rfl | rfl | rfl | rfl | rfl | rfl | rfl | other
    · refine .of_need (n := 3) rfl rfl ?_
      cases known : ReclaimClass.ofCode (msg.word 2) with
      | none => exact .inr ⟨rfl, by simp [layout, known]⟩
      | some reclaim =>
          refine .inl ⟨_, rfl, rfl, by simp [layout, known], fun wide => ?_⟩
          simp only [layout, SmallMessage.HasFrom, eq_toNat_ofNat32_iff,
            eq_toNat_ofNat64_iff, wide.word_lt, true_and, and_true]
          simp [ReclaimClass.code_of_ofCode known]
    · exact .word32 rfl rfl rfl trivial rfl Iff.rfl
    · exact .bare rfl rfl rfl trivial Iff.rfl
    · exact .bare rfl rfl rfl trivial Iff.rfl
    · refine .plain (n := 4) rfl rfl rfl trivial fun wide => ?_
      simp only [layout, SmallMessage.HasFrom, eq_toNat_ofNat32_iff, eq_toNat_ofNat64_iff,
        wide.word_lt, and_true]
    · refine .plain (n := 2) rfl rfl rfl trivial fun _ => ?_
      simp only [layout, SmallMessage.HasFrom, eq_toNat_ofNat32_iff, and_true]
    · exact .bare rfl rfl rfl trivial Iff.rfl
    · refine .of_need (n := 4) rfl rfl ?_
      unfold decodeComputeKind
      cases known : ComputeKind.ofCode (msg.word 1) with
      | none => exact .inr ⟨rfl, by simp [layout, known]⟩
      | some kind =>
          refine .inl ⟨_, rfl, rfl, by simp [layout, known], fun wide => ?_⟩
          simp only [layout, SmallMessage.HasFrom, eq_toNat_ofNat32_iff,
            eq_toNat_ofNat64_iff, wide.word_lt, and_true]
          simp [ComputeKind.code_of_ofCode known]
    · refine .of_need (n := 3) rfl rfl ?_
      by_cases missing : msg.word 1 = 0
      · rw [missing]
        refine .inl ⟨.queryComputePool _ none, rfl, rfl, Or.inl missing, fun wide => ?_⟩
        simp only [layout, preference, SmallMessage.HasFrom, eq_toNat_ofNat64_iff,
          wide.word_lt, true_and, and_true, Nat.zero_add, missing, forall_const]
      · by_cases given : msg.word 1 = 1
        · rw [given]
          simp only [layout, given, true_and]
          unfold decodeComputeKind
          cases known : ComputeKind.ofCode (msg.word 2) with
          | none => exact .inr ⟨rfl, by simp⟩
          | some kind =>
              refine .inl ⟨.queryComputePool _ (some kind), rfl, rfl, Or.inr rfl, fun wide => ?_⟩
              simp only [preference, SmallMessage.HasFrom, eq_toNat_ofNat64_iff,
                wide.word_lt, true_and, and_true, Nat.zero_add, given]
              simp [ComputeKind.code_of_ofCode known]
        · refine .inr ⟨?_, by simp [layout, missing, given]⟩
          split
          · exact absurd ‹_› missing
          · exact absurd ‹_› given
          · rfl
    · refine .unknown .unknownOpcode ?_ ?_
      · simp only [layout]
        split <;> first | omega | rfl
      · simp only [codec, ofMessage]
        split <;> first | omega | rfl

end MmRequest

namespace MmResponse

def layout : Layout MmResponse where
  fields
    | registered => []
    | unregistered => []
    | victim thread => [thread.toNat]
    | totalResident bytes => [bytes.toNat]
    | swapRegionRegistered => []
    | swapRegionUnregistered => []
    | swapVictim thread regionId => [thread.toNat, regionId.toNat]
    | computePoolRegistered => []
    | computePoolChosen poolId => [poolId.toNat]
    | error code => [code.code]
  need
    | 1 | 2 | 6 | 7 | 9 => some 0
    | 3 | 4 | 5 | 10 => some 1
    | 8 => some 2
    | _ => none
  valid
    | 5, msg => (MmErrorCode.ofCode (msg.word 0)).isSome
    | _, _ => True
  inRange
    | 3, msg | 10, msg => msg.word 0 < 2 ^ 32
    | 8, msg => msg.word 0 < 2 ^ 32 ∧ msg.word 1 < 2 ^ 32
    | _, _ => True

theorem follows : codec.Follows layout where
  op_lt := by
    intro resp
    cases resp <;> simp [codec, op]
  fits := by
    intro resp
    cases resp <;> simp [codec, words, msgMaxWords]
  sends := by
    intro resp
    cases resp <;> simp [codec, words, wordCount, op, layout]
  counted := by
    intro resp
    cases resp <;> rfl
  takes := by
    intro resp msg starts
    obtain ⟨need, word⟩ := SmallMessage.of_prefix starts
    cases resp with
    | error code =>
        simp [codec, op, ofMessage, need, word, layout, bind, Except.bind,
          MmErrorCode.ofCode_code]
    | _ => simp [codec, op, ofMessage, need, word, layout, bind, Except.bind]
  reads := by
    intro op msg
    have known : op = 1 ∨ op = 2 ∨ op = 3 ∨ op = 4 ∨ op = 5 ∨ op = 6 ∨ op = 7 ∨ op = 8 ∨
        op = 9 ∨ op = 10 ∨ op = 0 ∨ 11 ≤ op := by omega
    rcases known with rfl | rfl | rfl | rfl | rfl | rfl | rfl | rfl | rfl | rfl | other
    · exact .bare rfl rfl rfl trivial Iff.rfl
    · exact .bare rfl rfl rfl trivial Iff.rfl
    · exact .word32 rfl rfl rfl trivial rfl Iff.rfl
    · refine .plain (n := 1) rfl rfl rfl trivial fun wide => ?_
      simp only [layout, SmallMessage.HasFrom, eq_toNat_ofNat64_iff, wide.word_lt, and_true]
    · refine .of_need (n := 1) rfl rfl ?_
      cases known : MmErrorCode.ofCode (msg.word 0) with
      | none => exact .inr ⟨rfl, by simp [layout, known]⟩
      | some code =>
          refine .inl ⟨_, rfl, rfl, by simp [layout, known], fun _ => ?_⟩
          simp [layout, SmallMessage.HasFrom, MmErrorCode.code_of_ofCode known]
    · exact .bare rfl rfl rfl trivial Iff.rfl
    · exact .bare rfl rfl rfl trivial Iff.rfl
    · refine .plain (n := 2) rfl rfl rfl trivial fun _ => ?_
      simp only [layout, SmallMessage.HasFrom, eq_toNat_ofNat32_iff, and_true]
    · exact .bare rfl rfl rfl trivial Iff.rfl
    · exact .word32 rfl rfl rfl trivial rfl Iff.rfl
    · refine .unknown .unknownOpcode ?_ ?_
      · simp only [layout]
        split <;> first | omega | rfl
      · simp only [codec, ofMessage]
        split <;> first | omega | rfl

end MmResponse

end Simurgh
