import Simurgh.Lib.Arena
import Simurgh.Mm.Untyped

/-!
# Histories of an untyped region

Every call that hands out a part of a region, and what holds of the parts over a whole
history of such calls with whatever alignments and sizes.
-/

namespace Simurgh

namespace UntypedMemory

/-- Sub-divide the region into `count` children, each rounded up to a page. -/
def retypeUntyped (count childSize : Nat) : Exec UntypedMemory MmError RetypeGrant := do
  Exec.guard (count != 0) .zeroCount
  let bumped ← Exec.okOr .overflow (checkedAdd childSize (pageSize - 1))
  let child := clearBits bumped (pageSize - 1)
  Exec.guard (child != 0) .zeroCount
  let total ← Exec.okOr .overflow (checkedMul child count)
  let physBase ← alloc pageSize total
  return { kind := .untyped, count, physBase, physLen := total }

/-! ## The calls -/

/-- A part of a region, and the alignment it was asked for with. -/
structure Carved where
  start : Nat
  length : Nat
  align : Nat
  deriving DecidableEq, Repr

def Carved.span (carved : Carved) : Span := ⟨carved.start, carved.start + carved.length⟩

def RetypeGrant.carved (grant : RetypeGrant) : Carved :=
  { start := grant.physBase, length := grant.physLen, align := pageSize }

inductive CarveCall where
  | alloc (align bytes : Nat)
  | retype (kind : KernelObjectType) (count : Nat)
  | retypeUntyped (count childSize : Nat)
  deriving DecidableEq, Repr

namespace CarveCall

def exec : CarveCall → Exec UntypedMemory MmError Carved
  | .alloc align bytes => do
      let start ← UntypedMemory.alloc align bytes
      return { start, length := bytes, align }
  | .retype kind count => do
      let grant ← UntypedMemory.retype kind count
      return RetypeGrant.carved grant
  | .retypeUntyped count childSize => do
      let grant ← UntypedMemory.retypeUntyped count childSize
      return RetypeGrant.carved grant

/-- The bytes that a call asks for. -/
def bytes : CarveCall → Nat
  | .alloc _ bytes => bytes
  | .retype kind count => objectSizeBytes kind * count
  | .retypeUntyped count childSize =>
      clearBits (childSize + (pageSize - 1)) (pageSize - 1) * count

def align : CarveCall → Nat
  | .alloc align _ => align
  | .retype .. => pageSize
  | .retypeUntyped .. => pageSize

/-- The sums and products that a call computes beside those of `alloc`. -/
def sizes : CarveCall → List Nat
  | .alloc _ _ => []
  | .retype kind count => [objectSizeBytes kind * count]
  | .retypeUntyped count childSize =>
      [childSize + (pageSize - 1),
        clearBits (childSize + (pageSize - 1)) (pageSize - 1) * count]

end CarveCall

/-- The sums that `alloc` computes when it hands out `carved`. -/
def sums (region : UntypedMemory) (carved : Carved) : List Nat :=
  [region.base + region.watermark,
    region.base + region.watermark + (carved.align - 1),
    carved.start + carved.length,
    region.base + region.sizeBytes]

/-! ## One call -/

/-- Going from `before` to `after`, a region handed out `carved`. -/
structure Carves (before : UntypedMemory) (carved : Carved) (after : UntypedMemory) : Prop where
  base : after.base = before.base
  sizeBytes : after.sizeBytes = before.sizeBytes
  above : before.base + before.watermark ≤ carved.start
  mark : after.base + after.watermark = carved.start + carved.length
  inside : carved.start + carved.length ≤ before.base + before.sizeBytes
  aligned : carved.align ∣ carved.start
  fits : ∀ sum ∈ sums before carved, sum < 0x10000000000000000

theorem alloc_carves {align bytes start : Nat} {region final : UntypedMemory}
    (ran : alloc align bytes region = .ok start final) :
    region.Carves { start, length := bytes, align } final := by
  have runs := alloc_runs ran
  obtain ⟨divides, _, upper⟩ :=
    clearBits_spec runs.valid (region.base + region.watermark + (align - 1))
  rw [← runs.rounded] at divides upper
  have above : region.base + region.watermark ≤ start := by
    omega
  rw [runs.later]
  constructor
  · rfl
  · rfl
  · exact above
  · change region.base + (_ - region.base) = _
    rw [Nat.add_sub_cancel']
    exact Nat.le_trans (Nat.le_trans (Nat.le_add_right ..) above) (Nat.le_add_right ..)
  · exact runs.inside
  · exact divides
  · intro sum among
    simp only [sums, List.mem_cons, List.not_mem_nil, or_false] at among
    rcases among with rfl | rfl | rfl | rfl
    · exact runs.curFits
    · exact runs.bumpedFits
    · exact runs.stopFits
    · exact runs.endFits

theorem alloc_pageSize_carves {kind : KernelObjectType} {count total : Nat}
    {region final : UntypedMemory} {grant : RetypeGrant}
    (ran : (do
      let physBase ← alloc pageSize total
      return { kind, count, physBase, physLen := total } :
        Exec UntypedMemory MmError RetypeGrant) region = .ok grant final) :
    region.Carves (RetypeGrant.carved grant) final ∧ grant.physLen = total := by
  obtain ⟨physBase, later, allocated, ran⟩ := Exec.bind_eq_ok.1 ran
  rw [Exec.pure_run, Outcome.ok.injEq] at ran
  obtain ⟨rfl, rfl⟩ := ran
  exact ⟨alloc_carves allocated, rfl⟩

/-- What a successful call hands out, with all sums and products it takes to get there. -/
theorem CarveCall.exec_ok {call : CarveCall} {region final : UntypedMemory} {carved : Carved}
    (ran : call.exec region = .ok carved final) :
    region.Carves carved final ∧ carved.align = call.align ∧ carved.length = call.bytes ∧
      ∀ size ∈ call.sizes, size < 0x10000000000000000 := by
  cases call with
  | alloc align bytes =>
      obtain ⟨start, later, allocated, ran⟩ := Exec.bind_eq_ok.1 ran
      rw [Exec.pure_run, Outcome.ok.injEq] at ran
      obtain ⟨rfl, rfl⟩ := ran
      exact ⟨alloc_carves allocated, rfl, rfl, fun _ among => nomatch among⟩
  | retype kind count =>
      obtain ⟨grant, later, retyped, ran⟩ := Exec.bind_eq_ok.1 ran
      rw [Exec.pure_run, Outcome.ok.injEq] at ran
      obtain ⟨rfl, rfl⟩ := ran
      unfold UntypedMemory.retype at retyped
      obtain ⟨_, _, guarded, retyped⟩ := Exec.bind_eq_ok.1 retyped
      obtain ⟨_, rfl⟩ := Exec.guard_eq_ok.1 guarded
      obtain ⟨total, _, multiplied, retyped⟩ := Exec.bind_eq_ok.1 retyped
      obtain ⟨product, rfl⟩ := Exec.okOr_eq_ok.1 multiplied
      obtain ⟨fits, rfl⟩ := checkedMul_eq_some.1 product
      obtain ⟨carves, length⟩ := alloc_pageSize_carves retyped
      refine ⟨carves, rfl, length, ?_⟩
      intro size among
      rw [List.mem_singleton.1 among]
      exact fits
  | retypeUntyped count childSize =>
      obtain ⟨grant, later, retyped, ran⟩ := Exec.bind_eq_ok.1 ran
      rw [Exec.pure_run, Outcome.ok.injEq] at ran
      obtain ⟨rfl, rfl⟩ := ran
      unfold UntypedMemory.retypeUntyped at retyped
      obtain ⟨_, _, guarded, retyped⟩ := Exec.bind_eq_ok.1 retyped
      obtain ⟨_, rfl⟩ := Exec.guard_eq_ok.1 guarded
      obtain ⟨bumped, _, added, retyped⟩ := Exec.bind_eq_ok.1 retyped
      obtain ⟨sum, rfl⟩ := Exec.okOr_eq_ok.1 added
      obtain ⟨_, _, guarded, retyped⟩ := Exec.bind_eq_ok.1 retyped
      obtain ⟨_, rfl⟩ := Exec.guard_eq_ok.1 guarded
      obtain ⟨total, _, multiplied, retyped⟩ := Exec.bind_eq_ok.1 retyped
      obtain ⟨product, rfl⟩ := Exec.okOr_eq_ok.1 multiplied
      obtain ⟨sumFits, rfl⟩ := checkedAdd_eq_some.1 sum
      obtain ⟨fits, rfl⟩ := checkedMul_eq_some.1 product
      obtain ⟨carves, length⟩ := alloc_pageSize_carves retyped
      refine ⟨carves, rfl, length, ?_⟩
      intro size among
      simp only [CarveCall.sizes, List.mem_cons, List.not_mem_nil, or_false] at among
      rcases among with rfl | rfl
      · exact sumFits
      · exact fits

/-! ## Calls that fail -/

theorem retypeUntyped_err {count childSize : Nat} {region final : UntypedMemory}
    {error : MmError} (failed : retypeUntyped count childSize region = .err error final) :
    final = region := by
  unfold retypeUntyped at failed
  rcases (Exec.Reads.guard _ _).bind_eq_err failed with same | ⟨_, failed⟩
  · exact same
  rcases (Exec.Reads.okOr _ _).bind_eq_err failed with same | ⟨bumped, failed⟩
  · exact same
  rcases (Exec.Reads.guard _ _).bind_eq_err failed with same | ⟨_, failed⟩
  · exact same
  rcases (Exec.Reads.okOr _ _).bind_eq_err failed with same | ⟨total, failed⟩
  · exact same
  exact alloc_grant_err failed

theorem retypeUntyped_total (count childSize : Nat) : (retypeUntyped count childSize).Total := by
  unfold retypeUntyped
  apply (Exec.Total.guard _ _).bind
  intro _
  apply (Exec.Total.okOr _ _).bind
  intro bumped
  apply (Exec.Total.guard _ _).bind
  intro _
  apply (Exec.Total.okOr _ _).bind
  intro total
  exact (alloc_total pageSize total).bind fun _ => Exec.Total.pure _

/-- What follows a call only renames its result. -/
private theorem err_of_bind_pure {α β : Type} {first : Exec UntypedMemory MmError α}
    {rename : α → β} {region final : UntypedMemory} {error : MmError}
    (failed : (first >>= fun value => pure (rename value)) region = .err error final) :
    first region = .err error final := by
  rw [Exec.bind_run] at failed
  cases ran : first region with
  | ok value later =>
      rw [ran] at failed
      cases failed
  | err early later =>
      rw [ran] at failed
      injection failed with sameError sameRegion
      rw [sameError, sameRegion]
  | panic =>
      rw [ran] at failed
      cases failed

namespace CarveCall

theorem exec_err {call : CarveCall} {region final : UntypedMemory} {error : MmError}
    (failed : call.exec region = .err error final) : final = region := by
  cases call with
  | alloc align bytes => exact alloc_err (err_of_bind_pure failed)
  | retype kind count => exact retype_err (err_of_bind_pure failed)
  | retypeUntyped count childSize => exact retypeUntyped_err (err_of_bind_pure failed)

theorem exec_total (call : CarveCall) : call.exec.Total := by
  cases call with
  | alloc align bytes => exact (alloc_total align bytes).bind fun _ => Exec.Total.pure _
  | retype kind count => exact (retype_total kind count).bind fun _ => Exec.Total.pure _
  | retypeUntyped count childSize =>
      exact (retypeUntyped_total count childSize).bind fun _ => Exec.Total.pure _

end CarveCall

/-! ## Histories -/

/-- The region after a call, and what the call handed out. -/
def carveStep (region : UntypedMemory) (call : CarveCall) : UntypedMemory × Option Carved :=
  match call.exec region with
  | .ok carved later => (later, some carved)
  | .err _ later => (later, none)
  | .panic => (region, none)

/-- The region after some calls, and all they handed out, in order. -/
def carve (region : UntypedMemory) : List CarveCall → UntypedMemory × List Carved
  | [] => (region, [])
  | call :: rest =>
      let (later, carved) := region.carveStep call
      let (final, others) := later.carve rest
      (final, carved.toList ++ others)

theorem carve_concat (region : UntypedMemory) (calls : List CarveCall) (call : CarveCall) :
    (region.carve (calls ++ [call])).1 = ((region.carve calls).1.carveStep call).1 := by
  induction calls generalizing region with
  | nil => rfl
  | cons first rest ih => exact ih _

/-- A call carves, or leaves the region alone. -/
theorem carveStep_cases (region : UntypedMemory) (call : CarveCall) :
    (∃ carved later, call.exec region = .ok carved later ∧
        region.carveStep call = (later, some carved)) ∨
      ∃ error, call.exec region = .err error region ∧
        region.carveStep call = (region, none) := by
  unfold carveStep
  cases ran : call.exec region with
  | ok carved later => exact Or.inl ⟨carved, later, rfl, rfl⟩
  | err error later =>
      rw [CarveCall.exec_err ran]
      exact Or.inr ⟨error, rfl, rfl⟩
  | panic => exact absurd ran (call.exec_total region)

/-- The watermark is in the region. -/
def Marked (region : UntypedMemory) : Prop := region.watermark ≤ region.sizeBytes

/-- What a call does to a region. -/
structure CarveCall.Sound (call : CarveCall) (before after : UntypedMemory) : Prop where
  base : after.base = before.base
  sizeBytes : after.sizeBytes = before.sizeBytes
  /-- The watermark moves forward, and not past the end. -/
  watermark : before.watermark ≤ after.watermark
  marked : after.watermark ≤ after.sizeBytes
  /-- A failing call leaves the region as it was. -/
  failure : ∀ error later, call.exec before = .err error later → later = before
  /-- A part is as long and aligned as requested, and no sum or product on the way to it
  wraps. -/
  success : ∀ carved later, call.exec before = .ok carved later →
    carved.align = call.align ∧ carved.length = call.bytes ∧
      ∀ value ∈ call.sizes ++ sums before carved, value < 0x10000000000000000
  defined : call.exec before ≠ .panic

theorem sound_carveStep {region : UntypedMemory} (marked : region.Marked) (call : CarveCall) :
    call.Sound region (region.carveStep call).1 := by
  have failure : ∀ error later, call.exec region = .err error later → later = region :=
    fun _ _ failed => CarveCall.exec_err failed
  have success : ∀ carved later, call.exec region = .ok carved later →
      carved.align = call.align ∧ carved.length = call.bytes ∧
        ∀ value ∈ call.sizes ++ sums region carved, value < 0x10000000000000000 := by
    intro carved later ran
    obtain ⟨carves, align, length, fits⟩ := CarveCall.exec_ok ran
    refine ⟨align, length, ?_⟩
    intro value among
    rcases List.mem_append.1 among with size | sum
    · exact fits value size
    · exact carves.fits value sum
  rcases carveStep_cases region call with ⟨carved, later, ran, stepped⟩ | ⟨error, _, stepped⟩
  · have carves := (CarveCall.exec_ok ran).1
    have above := carves.above
    have mark := carves.mark
    have inside := carves.inside
    have base := carves.base
    have sizeBytes := carves.sizeBytes
    have forward : region.watermark ≤ later.watermark := by omega
    have within : later.watermark ≤ later.sizeBytes := by omega
    rw [stepped]
    exact ⟨base, sizeBytes, forward, within, failure, success, call.exec_total region⟩
  · rw [stepped]
    exact ⟨rfl, rfl, Nat.le_refl _, marked, failure, success, call.exec_total region⟩

theorem marked_carveStep {region : UntypedMemory} (marked : region.Marked) (call : CarveCall) :
    (region.carveStep call).1.Marked :=
  (sound_carveStep marked call).marked

/-- What a history hands out lies above the watermark it starts with and below the one it
ends with. -/
structure Between (before : UntypedMemory) (carved : List Carved) (after : UntypedMemory) :
    Prop where
  base : after.base = before.base
  sizeBytes : after.sizeBytes = before.sizeBytes
  marked : after.Marked
  watermark : before.watermark ≤ after.watermark
  above : ∀ part ∈ carved, before.base + before.watermark ≤ part.start
  below : ∀ part ∈ carved, part.start + part.length ≤ after.base + after.watermark
  aligned : ∀ part ∈ carved, part.align ∣ part.start
  apart : carved.Pairwise fun first second => first.span.Apart second.span

theorem Between.nil {region : UntypedMemory} (marked : region.Marked) :
    region.Between [] region where
  base := rfl
  sizeBytes := rfl
  marked := marked
  watermark := Nat.le_refl _
  above _ member := nomatch member
  below _ member := nomatch member
  aligned _ member := nomatch member
  apart := .nil

/-- A part is handed out before all others. -/
theorem Between.cons {before middle after : UntypedMemory} {carved : Carved}
    {others : List Carved} (carves : before.Carves carved middle)
    (between : middle.Between others after) : before.Between (carved :: others) after := by
  have first := carves.above
  have mark := carves.mark
  have sameBase := carves.base
  have later := between.watermark
  have laterBase := between.base
  constructor
  · exact between.base.trans carves.base
  · exact between.sizeBytes.trans carves.sizeBytes
  · exact between.marked
  · omega
  · intro part member
    rcases List.mem_cons.1 member with rfl | among
    · exact first
    · have above := between.above part among
      omega
  · intro part member
    rcases List.mem_cons.1 member with rfl | among
    · omega
    · exact between.below part among
  · intro part member
    rcases List.mem_cons.1 member with rfl | among
    · exact carves.aligned
    · exact between.aligned part among
  · apply List.pairwise_cons.2
    constructor
    · intro part among
      apply Or.inl
      have above := between.above part among
      change carved.start + carved.length ≤ part.start
      omega
    · exact between.apart

/-- A whole history, by induction over its calls. -/
theorem between_carve {region : UntypedMemory} (marked : region.Marked)
    (calls : List CarveCall) :
    region.Between (region.carve calls).2 (region.carve calls).1 := by
  induction calls generalizing region with
  | nil => exact .nil marked
  | cons call rest ih =>
      rcases carveStep_cases region call with
        ⟨carved, later, ran, stepped⟩ | ⟨error, _, stepped⟩
      · have carves := (CarveCall.exec_ok ran).1
        have next : later.Marked := by
          have kept := marked_carveStep marked call
          rw [stepped] at kept
          exact kept
        rw [carve, stepped]
        exact .cons carves (ih next)
      · rw [carve, stepped]
        exact ih marked

/-- Over every history of calls the parts handed out are apart from each other, aligned as
requested and inside the region, and every call is sound where it is made. -/
theorem carve_sound (base sizeBytes : Nat) (calls : List CarveCall) :
    (((new base sizeBytes).carve calls).2.Pairwise fun first second =>
        first.span.Apart second.span) ∧
      (∀ part ∈ ((new base sizeBytes).carve calls).2,
        part.align ∣ part.start ∧ part.span.Within ⟨base, base + sizeBytes⟩) ∧
      ∀ earlier call later, calls = earlier ++ call :: later →
        call.Sound ((new base sizeBytes).carve earlier).1
          ((new base sizeBytes).carve (earlier ++ [call])).1 := by
  have marked : (new base sizeBytes).Marked := Nat.zero_le sizeBytes
  have whole := between_carve marked calls
  refine ⟨whole.apart, ?_, ?_⟩
  · intro part member
    have above := whole.above part member
    have below := whole.below part member
    have end_ := whole.marked
    have sameBase := whole.base
    have sameSize := whole.sizeBytes
    refine ⟨whole.aligned part member, above, ?_⟩
    unfold Marked at end_
    change part.start + part.length ≤ base + sizeBytes
    change _ = base at sameBase
    change _ = sizeBytes at sameSize
    omega
  · intro earlier call later _
    have before := (between_carve marked earlier).marked
    rw [carve_concat]
    exact sound_carveStep before call

end UntypedMemory

end Simurgh
