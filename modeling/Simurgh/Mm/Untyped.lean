import Simurgh.Cap.Rights
import Simurgh.Lib.Exec

/-!
# Untyped memory

An `UntypedMemory` is a physical range with a watermark.  `retype` hands out the
next page-aligned part of the range and moves the watermark past it.
-/

namespace Simurgh

inductive MmError where
  | outOfMemory
  | badAlignment
  | zeroCount
  | overflow
  | unaligned
  | mappingOverlap
  | writeExecute
  | notMapped
  | addressSpaceFull
  | hardwareMapFailed
  deriving DecidableEq, Repr

/-- The base page size of all three architectures. -/
def pageSize : Nat := 4096

/-- `u64::checked_add`. -/
def checkedAdd (left right : Nat) : Option Nat :=
  if left + right < 0x10000000000000000 then some (left + right) else none

/-- `u64::checked_mul`. -/
def checkedMul (left right : Nat) : Option Nat :=
  if left * right < 0x10000000000000000 then some (left * right) else none

/-- `x & !mask`. -/
def clearBits (x mask : Nat) : Nat := x - (x &&& mask)

theorem checkedAdd_eq_some {left right sum : Nat} :
    checkedAdd left right = some sum ↔
      left + right < 0x10000000000000000 ∧ sum = left + right := by
  unfold checkedAdd
  by_cases fits : left + right < 0x10000000000000000
  · rw [if_pos fits, Option.some.injEq]
    exact ⟨fun same => ⟨fits, same.symm⟩, fun both => both.2.symm⟩
  · rw [if_neg fits]
    constructor
    · intro impossible
      cases impossible
    · intro both
      exact absurd both.1 fits

theorem checkedMul_eq_some {left right product : Nat} :
    checkedMul left right = some product ↔
      left * right < 0x10000000000000000 ∧ product = left * right := by
  unfold checkedMul
  by_cases fits : left * right < 0x10000000000000000
  · rw [if_pos fits, Option.some.injEq]
    exact ⟨fun same => ⟨fits, same.symm⟩, fun both => both.2.symm⟩
  · rw [if_neg fits]
    constructor
    · intro impossible
      cases impossible
    · intro both
      exact absurd both.1 fits

/-- Clearing the bits below a power of two rounds down to a multiple of it. -/
theorem clearBits_spec {align : Nat} (valid : (align != 0 && align &&& (align - 1) == 0) = true)
    (x : Nat) :
    align ∣ clearBits x (align - 1) ∧ clearBits x (align - 1) ≤ x ∧
      x < clearBits x (align - 1) + align := by
  rw [Bool.and_eq_true, bne_iff_ne, beq_iff_eq,
    Nat.ne_zero_and_sub_one_eq_zero_iff_isPowerOfTwo] at valid
  obtain ⟨k, rfl⟩ := valid
  unfold clearBits
  rw [Nat.and_two_pow_sub_one_eq_mod]
  have remainder := Nat.mod_lt x (Nat.two_pow_pos k)
  have below := Nat.mod_le x (2 ^ k)
  exact ⟨Nat.dvd_sub_mod x, Nat.sub_le .., by omega⟩

/-! ## What can be retyped -/

/-- What an untyped region can be retyped into. -/
inductive KernelObjectType where
  | untyped
  | pageTable
  | threadControlBlock
  | endpoint
  | notification
  | capabilitySpace
  | sharedRegion
  deriving DecidableEq, Repr

namespace KernelObjectType

/-- The kind a capability to the retyped object carries. -/
def asObjectKind : KernelObjectType → KernelObjectKind
  | untyped => .untypedMemory
  | pageTable => .pageTable
  | threadControlBlock => .threadControlBlock
  | endpoint => .endpoint
  | notification => .notification
  | capabilitySpace => .capabilitySpace
  | sharedRegion => .sharedRegion

end KernelObjectType

/-- Bytes one object of the given type reserves. -/
def objectSizeBytes : KernelObjectType → Nat
  | .untyped => pageSize
  | .pageTable => pageSize
  | .threadControlBlock => pageSize
  | .endpoint => pageSize
  | .notification => pageSize
  | .capabilitySpace => pageSize
  | .sharedRegion => pageSize

theorem objectSizeBytes_eq (targetType : KernelObjectType) :
    objectSizeBytes targetType = pageSize := by
  cases targetType with
  | untyped => rfl
  | pageTable => rfl
  | threadControlBlock => rfl
  | endpoint => rfl
  | notification => rfl
  | capabilitySpace => rfl
  | sharedRegion => rfl

/-! ## Regions -/

/-- A physical range awaiting `retype`.  `watermark` counts the bytes already
handed out, measured from `base`. -/
structure UntypedMemory where
  base : Nat
  sizeBytes : Nat
  watermark : Nat
  deriving DecidableEq, Repr

/-- The physical range one `retype` consumed. -/
structure RetypeGrant where
  kind : KernelObjectType
  count : Nat
  physBase : Nat
  physLen : Nat
  deriving DecidableEq, Repr

namespace UntypedMemory

def new (base sizeBytes : Nat) : UntypedMemory :=
  { base, sizeBytes, watermark := 0 }

/-- Hand out `bytes` bytes aligned to `align`. -/
def alloc (align bytes : Nat) : Exec UntypedMemory MmError Nat := do
  -- `align.is_power_of_two()`
  Exec.guard (align != 0 && align &&& (align - 1) == 0) .badAlignment
  let region ← Exec.get
  let cur ← Exec.okOr .overflow (checkedAdd region.base region.watermark)
  let bumped ← Exec.okOr .overflow (checkedAdd cur (align - 1))
  let aligned := clearBits bumped (align - 1)
  let stop ← Exec.okOr .overflow (checkedAdd aligned bytes)
  let regionEnd ← Exec.okOr .overflow (checkedAdd region.base region.sizeBytes)
  Exec.guard (stop ≤ regionEnd) .outOfMemory
  Exec.modify fun region => { region with watermark := stop - region.base }
  return aligned

/-- Reserve room for `count` objects. -/
def retype (kind : KernelObjectType) (count : Nat) :
    Exec UntypedMemory MmError RetypeGrant := do
  Exec.guard (count != 0) .zeroCount
  let total ← Exec.okOr .overflow (checkedMul (objectSizeBytes kind) count)
  let physBase ← alloc pageSize total
  return { kind, count, physBase, physLen := total }

/-! ## What a grant is -/

/-- Going from `before` to `after`, a region handed out `grant`. -/
structure Grants (before after : UntypedMemory) (grant : RetypeGrant) : Prop where
  base : after.base = before.base
  sizeBytes : after.sizeBytes = before.sizeBytes
  watermark : grant.physBase + grant.physLen = after.base + after.watermark
  above : before.base + before.watermark ≤ grant.physBase
  close : grant.physBase < before.base + before.watermark + pageSize
  aligned : pageSize ∣ grant.physBase
  inside : after.base + after.watermark ≤ after.base + after.sizeBytes
  length : grant.physLen = pageSize * grant.count
  positive : grant.count ≠ 0

/-- What an allocation that succeeds has checked and computed. -/
structure AllocRuns (align bytes : Nat) (region : UntypedMemory) (start : Nat)
    (final : UntypedMemory) : Prop where
  valid : (align != 0 && align &&& (align - 1) == 0) = true
  curFits : region.base + region.watermark < 0x10000000000000000
  bumpedFits : region.base + region.watermark + (align - 1) < 0x10000000000000000
  rounded : start = clearBits (region.base + region.watermark + (align - 1)) (align - 1)
  stopFits : start + bytes < 0x10000000000000000
  endFits : region.base + region.sizeBytes < 0x10000000000000000
  inside : start + bytes ≤ region.base + region.sizeBytes
  later : final = { region with watermark := start + bytes - region.base }

theorem alloc_runs {align bytes start : Nat} {region final : UntypedMemory}
    (ran : alloc align bytes region = .ok start final) :
    AllocRuns align bytes region start final := by
  unfold alloc at ran
  obtain ⟨_, _, guarded, ran⟩ := Exec.bind_eq_ok.1 ran
  obtain ⟨valid, rfl⟩ := Exec.guard_eq_ok.1 guarded
  rw [Exec.get_bind_run] at ran
  obtain ⟨cur, _, sum, ran⟩ := Exec.bind_eq_ok.1 ran
  obtain ⟨curSum, rfl⟩ := Exec.okOr_eq_ok.1 sum
  obtain ⟨bumped, _, sum, ran⟩ := Exec.bind_eq_ok.1 ran
  obtain ⟨bumpedSum, rfl⟩ := Exec.okOr_eq_ok.1 sum
  obtain ⟨stop, _, sum, ran⟩ := Exec.bind_eq_ok.1 ran
  obtain ⟨stopSum, rfl⟩ := Exec.okOr_eq_ok.1 sum
  obtain ⟨regionEnd, _, sum, ran⟩ := Exec.bind_eq_ok.1 ran
  obtain ⟨endSum, rfl⟩ := Exec.okOr_eq_ok.1 sum
  obtain ⟨_, _, guarded, ran⟩ := Exec.bind_eq_ok.1 ran
  obtain ⟨below, rfl⟩ := Exec.guard_eq_ok.1 guarded
  rw [Exec.modify_bind_run, Exec.pure_run, Outcome.ok.injEq] at ran
  obtain ⟨rfl, rfl⟩ := ran
  obtain ⟨curFits, rfl⟩ := checkedAdd_eq_some.1 curSum
  obtain ⟨bumpedFits, rfl⟩ := checkedAdd_eq_some.1 bumpedSum
  obtain ⟨stopFits, rfl⟩ := checkedAdd_eq_some.1 stopSum
  obtain ⟨endFits, rfl⟩ := checkedAdd_eq_some.1 endSum
  exact ⟨valid, curFits, bumpedFits, rfl, stopFits, endFits, of_decide_eq_true below, rfl⟩

theorem alloc_ok {bytes aligned : Nat} {region final : UntypedMemory}
    (ran : alloc pageSize bytes region = .ok aligned final) :
    final = { region with watermark := aligned + bytes - region.base } ∧
      region.base + region.watermark ≤ aligned ∧
        aligned < region.base + region.watermark + pageSize ∧ pageSize ∣ aligned ∧
          aligned + bytes ≤ region.base + region.sizeBytes := by
  have runs := alloc_runs ran
  obtain ⟨divides, lower, upper⟩ :=
    clearBits_spec runs.valid (region.base + region.watermark + (pageSize - 1))
  rw [← runs.rounded] at divides lower upper
  have positive : 0 < pageSize := by decide
  exact ⟨runs.later, by omega, by omega, divides, runs.inside⟩

theorem retype_ok {kind : KernelObjectType} {count : Nat}
    {region final : UntypedMemory} {grant : RetypeGrant}
    (ran : retype kind count region = .ok grant final) :
    grant.kind = kind ∧ grant.count = count ∧ Grants region final grant := by
  unfold retype at ran
  obtain ⟨_, _, guarded, ran⟩ := Exec.bind_eq_ok.1 ran
  obtain ⟨positive, rfl⟩ := Exec.guard_eq_ok.1 guarded
  obtain ⟨total, _, multiplied, ran⟩ := Exec.bind_eq_ok.1 ran
  obtain ⟨product, rfl⟩ := Exec.okOr_eq_ok.1 multiplied
  obtain ⟨physBase, later, allocated, ran⟩ := Exec.bind_eq_ok.1 ran
  rw [Exec.pure_run, Outcome.ok.injEq] at ran
  obtain ⟨rfl, rfl⟩ := ran
  obtain ⟨rfl, above, close, aligned, below⟩ := alloc_ok allocated
  have totalValue := (checkedMul_eq_some.1 product).2
  rw [objectSizeBytes_eq] at totalValue
  refine ⟨rfl, rfl, rfl, rfl, ?_, above, close, aligned, ?_, totalValue,
    by simpa using positive⟩
  · change physBase + total = region.base + (physBase + total - region.base)
    omega
  · change region.base + (physBase + total - region.base) ≤ region.base + region.sizeBytes
    omega

/-- An allocation that fails leaves the region as it was. -/
theorem alloc_err {align bytes : Nat} {region final : UntypedMemory} {error : MmError}
    (failed : alloc align bytes region = .err error final) : final = region := by
  unfold alloc at failed
  rcases (Exec.Reads.guard _ _).bind_eq_err failed with same | ⟨_, failed⟩
  · exact same
  rw [Exec.get_bind_run] at failed
  rcases (Exec.Reads.okOr _ _).bind_eq_err failed with same | ⟨cur, failed⟩
  · exact same
  rcases (Exec.Reads.okOr _ _).bind_eq_err failed with same | ⟨bumped, failed⟩
  · exact same
  rcases (Exec.Reads.okOr _ _).bind_eq_err failed with same | ⟨stop, failed⟩
  · exact same
  rcases (Exec.Reads.okOr _ _).bind_eq_err failed with same | ⟨regionEnd, failed⟩
  · exact same
  rcases (Exec.Reads.guard _ _).bind_eq_err failed with same | ⟨_, failed⟩
  · exact same
  simp at failed

/-- A grant is put together behind the allocation, which is all that can fail. -/
theorem alloc_grant_err {align bytes : Nat} {grant : Nat → RetypeGrant}
    {region final : UntypedMemory} {error : MmError}
    (failed : (alloc align bytes >>= fun physBase => pure (grant physBase)) region =
      .err error final) : final = region := by
  rw [Exec.bind_run] at failed
  cases ran : alloc align bytes region with
  | ok physBase later => simp [ran] at failed
  | err early later =>
      rw [ran, Outcome.err.injEq] at failed
      rw [← failed.2]
      exact alloc_err ran
  | panic => simp [ran] at failed

theorem retype_err {kind : KernelObjectType} {count : Nat}
    {region final : UntypedMemory} {error : MmError}
    (failed : retype kind count region = .err error final) : final = region := by
  unfold retype at failed
  rcases (Exec.Reads.guard _ _).bind_eq_err failed with same | ⟨_, failed⟩
  · exact same
  rcases (Exec.Reads.okOr _ _).bind_eq_err failed with same | ⟨total, failed⟩
  · exact same
  exact alloc_grant_err failed

theorem alloc_total (align bytes : Nat) : (alloc align bytes).Total := by
  unfold alloc
  refine (Exec.Total.guard _ _).bind fun _ => Exec.Total.get.bind fun region => ?_
  refine (Exec.Total.okOr _ _).bind fun cur => (Exec.Total.okOr _ _).bind fun bumped => ?_
  refine (Exec.Total.okOr _ _).bind fun stop => (Exec.Total.okOr _ _).bind fun regionEnd => ?_
  refine (Exec.Total.guard _ _).bind fun _ => (Exec.Total.modify _).bind fun _ => ?_
  exact Exec.Total.pure _

theorem retype_total (kind : KernelObjectType) (count : Nat) :
    (retype kind count).Total := by
  unfold retype
  refine (Exec.Total.guard _ _).bind fun _ => (Exec.Total.okOr _ _).bind fun total => ?_
  exact (alloc_total pageSize total).bind fun _ => Exec.Total.pure _

/-! ## When there is room -/

/-- `count` pages fit behind the watermark, rounded up to a page. -/
def HasRoom (region : UntypedMemory) (count : Nat) : Prop :=
  count ≠ 0 ∧ region.base + region.sizeBytes < 0x10000000000000000 ∧
    (region.base + region.watermark + (pageSize - 1)) / pageSize * pageSize +
      pageSize * count ≤ region.base + region.sizeBytes

instance (region : UntypedMemory) (count : Nat) : Decidable (region.HasRoom count) :=
  inferInstanceAs (Decidable (_ ∧ _ ∧ _))

theorem clearBits_eq (x : Nat) : clearBits x (pageSize - 1) = x / pageSize * pageSize := by
  have masked : x &&& (pageSize - 1) = x % pageSize := Nat.and_two_pow_sub_one_eq_mod x 12
  have parts := Nat.mod_add_div x pageSize
  unfold clearBits
  rw [masked, Nat.mul_comm]
  omega

/-- A reservation succeeds exactly if there is room. -/
theorem retype_isOk_iff {kind : KernelObjectType} {count : Nat} {region : UntypedMemory} :
    (∃ grant later, retype kind count region = .ok grant later) ↔ region.HasRoom count := by
  constructor
  · rintro ⟨grant, later, ran⟩
    unfold retype at ran
    obtain ⟨_, _, guarded, ran⟩ := Exec.bind_eq_ok.1 ran
    obtain ⟨positive, rfl⟩ := Exec.guard_eq_ok.1 guarded
    obtain ⟨total, _, multiplied, ran⟩ := Exec.bind_eq_ok.1 ran
    obtain ⟨product, rfl⟩ := Exec.okOr_eq_ok.1 multiplied
    obtain ⟨physBase, _, allocated, _⟩ := Exec.bind_eq_ok.1 ran
    have runs := alloc_runs allocated
    have fits := runs.inside
    obtain ⟨_, rfl⟩ := checkedMul_eq_some.1 product
    rw [runs.rounded, objectSizeBytes_eq, clearBits_eq] at fits
    exact ⟨by simpa using positive, runs.endFits, fits⟩
  · rintro ⟨positive, endFits, fits⟩
    have rounded := Nat.lt_div_mul_add
      (show 0 < pageSize by decide) (a := region.base + region.watermark + (pageSize - 1))
    have onePage := Nat.le_mul_of_pos_right pageSize (Nat.pos_of_ne_zero positive)
    have page : pageSize = 4096 := rfl
    have cur : checkedAdd region.base region.watermark =
        some (region.base + region.watermark) := checkedAdd_eq_some.2 ⟨by omega, rfl⟩
    have bumped : checkedAdd (region.base + region.watermark) (pageSize - 1) =
        some (region.base + region.watermark + (pageSize - 1)) :=
      checkedAdd_eq_some.2 ⟨by omega, rfl⟩
    have product : checkedMul pageSize count = some (pageSize * count) :=
      checkedMul_eq_some.2 ⟨by omega, rfl⟩
    have stop := checkedAdd_eq_some.2 ⟨Nat.lt_of_le_of_lt fits endFits, rfl⟩
    have regionEnd := checkedAdd_eq_some.2 ⟨endFits, rfl⟩
    have aligns : (pageSize != 0 && pageSize &&& (pageSize - 1) == 0) = true := rfl
    simp only [retype, alloc, Exec.guard, bne_iff_ne, ne_eq, positive, not_false_eq_true,
      if_true, objectSizeBytes_eq, product, Exec.okOr_some, aligns,
      Exec.bind_run, Exec.get_run, Exec.pure_run, cur, bumped, clearBits_eq, stop, regionEnd,
      fits, decide_true, Exec.modify_run]
    exact ⟨_, _, rfl⟩

end UntypedMemory

end Simurgh
