import Simurgh.Lib.KeyedList
import Simurgh.Protocol.Mm
import Mathlib.Data.Prod.Lex
import Mathlib.Order.OrderDual

/-!
# The decisions of the memory service

The service keeps three registries: the processes, the regions that can be swapped out, and
the pools of compute memory.  Each decision goes through one of them and keeps the best entry
so far.  What it decides is a matter of the entries and not of their order.
-/

namespace Simurgh

open KeyedList

/-! ## Processes -/

/-- A process's memory accounting. -/
structure ProcMemInfo where
  thread : UInt32
  residentBytes : UInt64
  reclaim : ReclaimClass
  deriving DecidableEq, Repr

/-- One step of the search for the largest footprint. -/
def pickFootprint (a b : ProcMemInfo) : ProcMemInfo :=
  if a.residentBytes < b.residentBytes ∨
      (b.residentBytes = a.residentBytes ∧ b.thread < a.thread) then b
  else a

def bestByFootprint (procs : List ProcMemInfo) : Option ProcMemInfo :=
  reduce pickFootprint procs

/-- The OOM victim: the largest process of the first class that has one. -/
def chooseOomVictim (procs : List ProcMemInfo) : Option UInt32 :=
  [ReclaimClass.sacrificial, .normal, .protected].findSome? fun reclaim =>
    (bestByFootprint (procs.filter fun p => p.reclaim = reclaim)).map ProcMemInfo.thread

namespace MemRegistry

/-- Registers or updates a process's accounting. -/
def upsert (procs : List ProcMemInfo) (info : ProcMemInfo) : List ProcMemInfo :=
  KeyedList.upsert ProcMemInfo.thread info procs

/-- Drops a process. -/
def remove (procs : List ProcMemInfo) (thread : UInt32) : List ProcMemInfo :=
  KeyedList.remove ProcMemInfo.thread thread procs

/-- The registry after some calls. -/
def run : History ProcMemInfo UInt32 → List ProcMemInfo
  | [] => []
  | .upsert info :: older => upsert (run older) info
  | .remove thread :: older => remove (run older) thread

theorem run_eq_entries (history : History ProcMemInfo UInt32) :
    run history = entries ProcMemInfo.thread history := by
  induction history with
  | nil => rfl
  | cons call older ih =>
      cases call with
      | upsert info => rw [run, entries, upsert, ih]
      | remove thread => rw [run, entries, remove, ih]

def oomVictim (history : History ProcMemInfo UInt32) : Option UInt32 :=
  chooseOomVictim (run history)

end MemRegistry

/-- Sacrificial processes go first, and protected ones last. -/
def ReclaimClass.preference : ReclaimClass → Nat
  | .sacrificial => 0
  | .normal => 1
  | .protected => 2

/-- The larger footprint goes first, then the lower thread. -/
def ProcMemInfo.footprintRank (info : ProcMemInfo) : Natᵒᵈ ×ₗ Nat :=
  toLex (OrderDual.toDual info.residentBytes.toNat, info.thread.toNat)

/-- The class comes before the footprint. -/
def ProcMemInfo.rank (info : ProcMemInfo) : Nat ×ₗ Natᵒᵈ ×ₗ Nat :=
  toLex (info.reclaim.preference, info.footprintRank)

theorem ReclaimClass.preference_injective {left right : ReclaimClass}
    (same : left.preference = right.preference) : left = right := by
  cases left <;> cases right <;> first | rfl | cases same

namespace ProcMemInfo

theorem footprintRank_lt {left right : ProcMemInfo} :
    left.footprintRank < right.footprintRank ↔
      right.residentBytes < left.residentBytes ∨
        (left.residentBytes = right.residentBytes ∧ left.thread < right.thread) := by
  unfold footprintRank
  rw [Prod.Lex.toLex_lt_toLex, OrderDual.toDual_lt_toDual, OrderDual.toDual_inj,
    UInt64.lt_iff_toNat_lt, UInt32.lt_iff_toNat_lt, UInt64.toNat_inj]

theorem thread_eq_of_rank_eq {left right : ProcMemInfo} (same : left.rank = right.rank) :
    left.thread = right.thread := by
  have last := congrArg (fun rank => (ofLex (ofLex rank).2).2) same
  exact UInt32.toNat_inj.1 last

end ProcMemInfo

theorem pickFootprint_eq (best next : ProcMemInfo) :
    pickFootprint best next =
      if next.footprintRank < best.footprintRank then next else best :=
  if_congr ProcMemInfo.footprintRank_lt.symm rfl rfl

namespace MemRegistry

variable {procs : List ProcMemInfo} {info : ProcMemInfo} {reclaim : ReclaimClass}

/-- The largest process of a class, when no class before it has one. -/
theorem least_of_class
    (before : ∀ other ∈ procs, reclaim.preference ≤ other.reclaim.preference)
    (best : bestByFootprint (procs.filter fun p => p.reclaim = reclaim) = some info) :
    Least ProcMemInfo.rank procs info := by
  have least := least_of_reduce pickFootprint_eq best
  obtain ⟨member, same⟩ := List.mem_filter.1 least.member
  have same := of_decide_eq_true same
  refine ⟨member, fun other there => ?_⟩
  unfold ProcMemInfo.rank
  rw [Prod.Lex.toLex_le_toLex, same]
  by_cases equal : other.reclaim = reclaim
  · right
    rw [equal]
    exact ⟨rfl, least.least other (List.mem_filter.2 ⟨there, decide_eq_true equal⟩)⟩
  · left
    apply lt_of_le_of_ne (before other there)
    intro level
    exact equal (ReclaimClass.preference_injective level).symm

theorem not_of_bestByFootprint
    (nothing : bestByFootprint (procs.filter fun p => p.reclaim = reclaim) = none) :
    ∀ other ∈ procs, other.reclaim ≠ reclaim := by
  intro other there same
  have empty := reduce_eq_none.1 nothing
  have member : other ∈ procs.filter fun p => p.reclaim = reclaim :=
    List.mem_filter.2 ⟨there, decide_eq_true same⟩
  rw [empty] at member
  exact List.not_mem_nil member

/-- The victim is the process of least rank. -/
theorem chooseOomVictim_cases (procs : List ProcMemInfo) :
    (chooseOomVictim procs = none ∧ procs = []) ∨
      ∃ info, chooseOomVictim procs = some info.thread ∧ Least ProcMemInfo.rank procs info := by
  unfold chooseOomVictim
  rw [List.findSome?_cons]
  cases sacrificial : bestByFootprint (procs.filter fun p => p.reclaim = .sacrificial) with
  | some info =>
      exact .inr ⟨info, rfl, least_of_class (fun _ _ => Nat.zero_le _) sacrificial⟩
  | none =>
      have noSacrificial := not_of_bestByFootprint sacrificial
      rw [Option.map_none, List.findSome?_cons]
      cases normal : bestByFootprint (procs.filter fun p => p.reclaim = .normal) with
      | some info =>
          refine .inr ⟨info, rfl, least_of_class (fun other there => ?_) normal⟩
          have known := noSacrificial other there
          cases reclaim : other.reclaim with
          | sacrificial => exact absurd reclaim known
          | normal => decide
          | «protected» => decide
      | none =>
          have noNormal := not_of_bestByFootprint normal
          have allProtected : ∀ other ∈ procs, other.reclaim = .protected := by
            intro other there
            cases reclaim : other.reclaim with
            | sacrificial => exact absurd reclaim (noSacrificial other there)
            | normal => exact absurd reclaim (noNormal other there)
            | «protected» => rfl
          rw [Option.map_none, List.findSome?_cons]
          cases last : bestByFootprint (procs.filter fun p => p.reclaim = .protected) with
          | some info =>
              refine .inr ⟨info, rfl, least_of_class (fun other there => ?_) last⟩
              rw [allProtected other there]
          | none =>
              left
              refine ⟨rfl, List.eq_nil_iff_forall_not_mem.2 fun other there => ?_⟩
              exact not_of_bestByFootprint last other there (allProtected other there)

theorem oomVictim_chooses (history : History ProcMemInfo UInt32) :
    Chooses ProcMemInfo.thread ProcMemInfo.rank history (fun _ => True) (oomVictim history) := by
  unfold oomVictim
  rw [run_eq_entries]
  rcases chooseOomVictim_cases (entries ProcMemInfo.thread history) with
    ⟨none, empty⟩ | ⟨info, some, least⟩
  · rw [none]
    apply Chooses.of_nothing
    simpa only [decide_true, List.filter_true] using empty
  · rw [some]
    apply Chooses.of_least fun _ _ => ProcMemInfo.thread_eq_of_rank_eq
    simpa only [decide_true, List.filter_true] using least

end MemRegistry

/-! ## Swap regions -/

/-- A region that can be swapped out. -/
structure SwapRegion where
  thread : UInt32
  regionId : UInt32
  bytes : UInt64
  lastTouchedNs : UInt64
  deriving DecidableEq, Repr

/-- The `(thread, region_id)` pair is the real key. -/
def SwapRegion.key (region : SwapRegion) : UInt32 × UInt32 := (region.thread, region.regionId)

/-- One step of the search for the least recently touched region. -/
def pickSwap (a b : SwapRegion) : SwapRegion :=
  if b.lastTouchedNs < a.lastTouchedNs ∨
      (b.lastTouchedNs = a.lastTouchedNs ∧ a.bytes < b.bytes) ∨
      (b.lastTouchedNs = a.lastTouchedNs ∧ b.bytes = a.bytes ∧
        (b.thread < a.thread ∨ (b.thread = a.thread ∧ b.regionId < a.regionId))) then b
  else a

def chooseSwapVictim (regions : List SwapRegion) : Option (UInt32 × UInt32) :=
  (reduce pickSwap regions).map SwapRegion.key

namespace SwapRegistry

/-- Registers or updates one region's accounting. -/
def upsert (regions : List SwapRegion) (region : SwapRegion) : List SwapRegion :=
  KeyedList.upsert SwapRegion.key region regions

/-- Drops one region's accounting. -/
def remove (regions : List SwapRegion) (thread regionId : UInt32) : List SwapRegion :=
  KeyedList.remove SwapRegion.key (thread, regionId) regions

/-- The registry after some calls. -/
def run : History SwapRegion (UInt32 × UInt32) → List SwapRegion
  | [] => []
  | .upsert region :: older => upsert (run older) region
  | .remove (thread, regionId) :: older => remove (run older) thread regionId

theorem run_eq_entries (history : History SwapRegion (UInt32 × UInt32)) :
    run history = entries SwapRegion.key history := by
  induction history with
  | nil => rfl
  | cons call older ih =>
      cases call with
      | upsert region => rw [run, entries, upsert, ih]
      | remove key => rw [run, entries, remove, ih]

def swapVictim (history : History SwapRegion (UInt32 × UInt32)) : Option (UInt32 × UInt32) :=
  chooseSwapVictim (run history)

end SwapRegistry

namespace SwapRegion

/-- The least recently touched region goes first, of these the largest, and of these the one
with the lower key. -/
def rank (region : SwapRegion) : Nat ×ₗ Natᵒᵈ ×ₗ Nat ×ₗ Nat :=
  toLex (region.lastTouchedNs.toNat, toLex (OrderDual.toDual region.bytes.toNat,
    toLex (region.thread.toNat, region.regionId.toNat)))

theorem rank_lt {left right : SwapRegion} :
    left.rank < right.rank ↔
      left.lastTouchedNs < right.lastTouchedNs ∨
        (left.lastTouchedNs = right.lastTouchedNs ∧ right.bytes < left.bytes) ∨
        (left.lastTouchedNs = right.lastTouchedNs ∧ left.bytes = right.bytes ∧
          (left.thread < right.thread ∨
            (left.thread = right.thread ∧ left.regionId < right.regionId))) := by
  unfold rank
  rw [Prod.Lex.toLex_lt_toLex, Prod.Lex.toLex_lt_toLex, Prod.Lex.toLex_lt_toLex,
    OrderDual.toDual_lt_toDual, OrderDual.toDual_inj, UInt64.lt_iff_toNat_lt,
    UInt64.lt_iff_toNat_lt, UInt32.lt_iff_toNat_lt, UInt32.lt_iff_toNat_lt, ← and_or_left,
    UInt64.toNat_inj, UInt64.toNat_inj, UInt32.toNat_inj]

theorem key_eq_of_rank_eq {left right : SwapRegion} (same : left.rank = right.rank) :
    left.key = right.key := by
  have last := congrArg (fun rank => ofLex (ofLex (ofLex rank).2).2) same
  obtain ⟨thread, region⟩ := Prod.mk.inj last
  exact Prod.ext (UInt32.toNat_inj.1 thread) (UInt32.toNat_inj.1 region)

end SwapRegion

theorem pickSwap_eq (best next : SwapRegion) :
    pickSwap best next = if next.rank < best.rank then next else best :=
  if_congr SwapRegion.rank_lt.symm rfl rfl

theorem SwapRegistry.swapVictim_chooses (history : History SwapRegion (UInt32 × UInt32)) :
    Chooses SwapRegion.key SwapRegion.rank history (fun _ => True) (swapVictim history) := by
  unfold swapVictim chooseSwapVictim
  rw [run_eq_entries]
  cases reduced : reduce pickSwap (entries SwapRegion.key history) with
  | none =>
      apply Chooses.of_nothing
      simpa only [decide_true, List.filter_true] using reduce_eq_none.1 reduced
  | some region =>
      apply Chooses.of_least fun _ _ => SwapRegion.key_eq_of_rank_eq
      simpa only [decide_true, List.filter_true] using least_of_reduce pickSwap_eq reduced

/-! ## Compute pools -/

/-- A compute-memory pool. -/
structure ComputePool where
  poolId : UInt32
  kind : ComputeKind
  capacityBytes : UInt64
  usedBytes : UInt64
  deriving DecidableEq, Repr

/-- Bytes still available in this pool. -/
def ComputePool.freeBytes (pool : ComputePool) : Nat :=
  pool.capacityBytes.toNat - pool.usedBytes.toNat

/-- One step of the search for the pool with the most free space. -/
def pickPool (a b : ComputePool) : ComputePool :=
  if a.freeBytes < b.freeBytes ∨ (b.freeBytes = a.freeBytes ∧ b.poolId < a.poolId) then b else a

def bestFit (pools : List ComputePool) (bytes : UInt64) : Option ComputePool :=
  reduce pickPool (pools.filter fun p => bytes.toNat ≤ p.freeBytes)

/-- The pool for an allocation: one of the preferred kind if that has room. -/
def chooseComputePool (pools : List ComputePool) (bytes : UInt64)
    (preferredKind : Option ComputeKind) : Option UInt32 :=
  match preferredKind with
  | some kind =>
      match bestFit (pools.filter fun p => p.kind = kind) bytes with
      | some p => some p.poolId
      | none => (bestFit pools bytes).map ComputePool.poolId
  | none => (bestFit pools bytes).map ComputePool.poolId

namespace PoolRegistry

/-- Registers or updates one pool's accounting. -/
def upsert (pools : List ComputePool) (pool : ComputePool) : List ComputePool :=
  KeyedList.upsert ComputePool.poolId pool pools

/-- The registry after some pools were registered, the last one first. -/
def run : List ComputePool → List ComputePool
  | [] => []
  | pool :: older => upsert (run older) pool

theorem run_eq_entries (history : List ComputePool) :
    run history = entries ComputePool.poolId (history.map .upsert) := by
  induction history with
  | nil => rfl
  | cons pool older ih =>
      rw [run, upsert, ih, List.map_cons, entries]

def choose (history : List ComputePool) (bytes : UInt64) (preferredKind : Option ComputeKind) :
    Option UInt32 :=
  chooseComputePool (run history) bytes preferredKind

end PoolRegistry

namespace ComputePool

/-- The pool with the most free space goes first, and of these the one with the lower number. -/
def spaceRank (pool : ComputePool) : Natᵒᵈ ×ₗ Nat :=
  toLex (OrderDual.toDual pool.freeBytes, pool.poolId.toNat)

/-- The preferred kind comes before the space. -/
def rank (preferredKind : Option ComputeKind) (pool : ComputePool) : Nat ×ₗ Natᵒᵈ ×ₗ Nat :=
  toLex (if preferredKind = some pool.kind then 0 else 1, pool.spaceRank)

theorem spaceRank_lt {left right : ComputePool} :
    left.spaceRank < right.spaceRank ↔
      right.freeBytes < left.freeBytes ∨
        (left.freeBytes = right.freeBytes ∧ left.poolId < right.poolId) := by
  unfold spaceRank
  rw [Prod.Lex.toLex_lt_toLex, OrderDual.toDual_lt_toDual, OrderDual.toDual_inj,
    UInt32.lt_iff_toNat_lt]

theorem poolId_eq_of_rank_eq {preferredKind : Option ComputeKind} {left right : ComputePool}
    (same : left.rank preferredKind = right.rank preferredKind) : left.poolId = right.poolId := by
  have last := congrArg (fun rank => (ofLex (ofLex rank).2).2) same
  exact UInt32.toNat_inj.1 last

end ComputePool

theorem pickPool_eq (best next : ComputePool) :
    pickPool best next = if next.spaceRank < best.spaceRank then next else best :=
  if_congr ComputePool.spaceRank_lt.symm rfl rfl

namespace PoolRegistry

variable {pools : List ComputePool} {bytes : UInt64} {preferredKind : Option ComputeKind}
  {pool : ComputePool}

/-- The pools that have room. -/
def fitting (pools : List ComputePool) (bytes : UInt64) : List ComputePool :=
  pools.filter fun p => bytes.toNat ≤ p.freeBytes

/-- Without a fitting pool of the preferred kind space decides. -/
theorem bestFit_cases
    (noneOfKind : ∀ p ∈ fitting pools bytes, preferredKind ≠ some p.kind) :
    ((bestFit pools bytes).map ComputePool.poolId = none ∧ fitting pools bytes = []) ∨
      ∃ pool, (bestFit pools bytes).map ComputePool.poolId = some pool.poolId ∧
        Least (ComputePool.rank preferredKind) (fitting pools bytes) pool := by
  cases best : bestFit pools bytes with
  | none => exact .inl ⟨rfl, reduce_eq_none.1 best⟩
  | some pool =>
      have least : Least ComputePool.spaceRank (fitting pools bytes) pool :=
        least_of_reduce pickPool_eq best
      refine .inr ⟨pool, rfl, least.member, fun other there => ?_⟩
      unfold ComputePool.rank
      rw [Prod.Lex.toLex_le_toLex, if_neg (noneOfKind pool least.member),
        if_neg (noneOfKind other there)]
      exact .inr ⟨rfl, least.least other there⟩

/-- A fitting pool of the preferred kind with the most space. -/
theorem least_of_kind {kind : ComputeKind}
    (best : bestFit (pools.filter fun p => p.kind = kind) bytes = some pool) :
    Least (ComputePool.rank (some kind)) (fitting pools bytes) pool := by
  have least := least_of_reduce pickPool_eq best
  obtain ⟨member, fits⟩ := List.mem_filter.1 least.member
  obtain ⟨member, same⟩ := List.mem_filter.1 member
  have same := of_decide_eq_true same
  refine ⟨List.mem_filter.2 ⟨member, fits⟩, fun other there => ?_⟩
  obtain ⟨known, otherFits⟩ := List.mem_filter.1 there
  unfold ComputePool.rank
  rw [Prod.Lex.toLex_le_toLex, if_pos (congrArg some same.symm)]
  by_cases equal : other.kind = kind
  · right
    rw [if_pos (congrArg some equal.symm)]
    refine ⟨rfl, least.least other (List.mem_filter.2 ⟨?_, otherFits⟩)⟩
    exact List.mem_filter.2 ⟨known, decide_eq_true equal⟩
  · left
    rw [if_neg fun same => equal (Option.some.inj same).symm]
    exact Nat.one_pos

/-- The chosen pool is the one of least rank of those that have room. -/
theorem chooseComputePool_cases (pools : List ComputePool) (bytes : UInt64)
    (preferredKind : Option ComputeKind) :
    (chooseComputePool pools bytes preferredKind = none ∧ fitting pools bytes = []) ∨
      ∃ pool, chooseComputePool pools bytes preferredKind = some pool.poolId ∧
        Least (ComputePool.rank preferredKind) (fitting pools bytes) pool := by
  cases preferredKind with
  | none => exact bestFit_cases fun _ _ => (Option.some_ne_none _).symm
  | some kind =>
      rw [chooseComputePool]
      cases best : bestFit (pools.filter fun p => p.kind = kind) bytes with
      | some pool => exact .inr ⟨pool, rfl, least_of_kind best⟩
      | none =>
          apply bestFit_cases
          intro p member same
          obtain ⟨known, fits⟩ := List.mem_filter.1 member
          have empty := reduce_eq_none.1 best
          have ofKind : p ∈ (pools.filter fun p => p.kind = kind).filter
              fun p => bytes.toNat ≤ p.freeBytes :=
            List.mem_filter.2 ⟨List.mem_filter.2
              ⟨known, decide_eq_true (Option.some.inj same).symm⟩, fits⟩
          rw [empty] at ofKind
          exact List.not_mem_nil ofKind

theorem choose_chooses (history : List ComputePool) (bytes : UInt64)
    (preferredKind : Option ComputeKind) :
    Chooses ComputePool.poolId (ComputePool.rank preferredKind) (history.map .upsert)
      (fun pool => bytes.toNat ≤ pool.freeBytes) (choose history bytes preferredKind) := by
  unfold choose
  rw [run_eq_entries]
  rcases chooseComputePool_cases (entries ComputePool.poolId (history.map .upsert)) bytes
    preferredKind with ⟨none, empty⟩ | ⟨pool, some, least⟩
  · rw [none]
    exact Chooses.of_nothing empty
  · rw [some]
    exact Chooses.of_least (fun _ _ => ComputePool.poolId_eq_of_rank_eq) least

end PoolRegistry

/-! ## The decisions together -/

/-- A protected process is the victim only if there are no others. -/
theorem MemRegistry.protected_victim {history : History ProcMemInfo UInt32} {info : ProcMemInfo}
    (victim : oomVictim history = some info.thread) (here : info ∈ run history)
    (spared : info.reclaim = .protected) :
    ∀ other ∈ run history, other.reclaim = .protected := by
  intro other there
  rw [run_eq_entries] at here there
  have chooses := oomVictim_chooses history
  rw [victim] at chooses
  cases chooses with
  | found chosen entry registered qualified least =>
      obtain rfl := Option.some.inj (registered.symm.trans (mem_entries.1 here))
      by_cases same : other.thread = entry.thread
      · rw [eq_of_key_eq (nodup_entries history) there here same]
        exact spared
      · have before := least other.thread other (mem_entries.1 there) trivial same
        unfold ProcMemInfo.rank at before
        rw [Prod.Lex.toLex_lt_toLex, spared] at before
        have level : ReclaimClass.protected.preference ≤ other.reclaim.preference := by
          rcases before with less | ⟨equal, _⟩
          · exact Nat.le_of_lt less
          · exact Nat.le_of_eq equal
        cases reclaim : other.reclaim with
        | «protected» => rfl
        | normal =>
            rw [reclaim] at level
            exact absurd level (by decide)
        | sacrificial =>
            rw [reclaim] at level
            exact absurd level (by decide)

/-- The three decisions. -/
theorem decisions_by_entries :
    DecidesByEntries MemRegistry.run MemRegistry.oomVictim id ProcMemInfo.thread
        ProcMemInfo.rank (fun _ => True) ∧
      DecidesByEntries SwapRegistry.run SwapRegistry.swapVictim id SwapRegion.key
        SwapRegion.rank (fun _ => True) ∧
      (∀ bytes preferredKind, DecidesByEntries PoolRegistry.run
        (fun history => PoolRegistry.choose history bytes preferredKind)
        (fun history => history.map .upsert) ComputePool.poolId
        (ComputePool.rank preferredKind) fun pool => bytes.toNat ≤ pool.freeBytes) ∧
      ∀ history info, MemRegistry.oomVictim history = some info.thread →
        info ∈ MemRegistry.run history → info.reclaim = .protected →
        ∀ other ∈ MemRegistry.run history, other.reclaim = .protected := by
  refine ⟨?_, ?_, fun bytes preferredKind => ?_, fun history info => ?_⟩
  · exact .of_chooses MemRegistry.run_eq_entries MemRegistry.oomVictim_chooses
  · exact .of_chooses SwapRegistry.run_eq_entries SwapRegistry.swapVictim_chooses
  · exact .of_chooses PoolRegistry.run_eq_entries fun history =>
      PoolRegistry.choose_chooses history bytes preferredKind
  · exact MemRegistry.protected_victim

end Simurgh
