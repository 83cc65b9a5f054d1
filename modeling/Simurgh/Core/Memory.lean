import Simurgh.Core.Threads
import Simurgh.Lib.Arena

/-!
# Physical memory

The untyped regions as arenas, the frames that are mapped, and where the first
kernel state puts them.
-/

namespace Simurgh

/-! ## Spans -/

/-- The page at a physical address. -/
def pageSpan (phys : Nat) : Span := ⟨phys, phys + pageSize⟩

def RetypeGrant.span (grant : RetypeGrant) : Span :=
  ⟨grant.physBase, grant.physBase + grant.physLen⟩

/-- The physical memory of a mapping. -/
def Mapping.frame (mapping : Mapping) : Span :=
  ⟨mapping.paddr, mapping.paddr + mapping.len⟩

def UntypedMemory.arena (region : UntypedMemory) : Arena where
  start := region.base
  mark := region.base + region.watermark
  stop := region.base + region.sizeBytes

theorem RetypeGrant.Page.within {grant : RetypeGrant} {phys : Nat} (page : grant.Page phys)
    (length : grant.physLen = pageSize * grant.count) :
    (pageSpan phys).Within grant.span := by
  obtain ⟨i, inside, rfl⟩ := page
  have fits : (i + 1) * pageSize ≤ grant.count * pageSize :=
    Nat.mul_le_mul_right pageSize inside
  unfold Span.Within pageSpan RetypeGrant.span
  rw [length]
  simp only
  rw [Nat.add_one_mul] at fits
  rw [Nat.mul_comm pageSize]
  omega

/-- Two different pages of a grant are apart. -/
theorem pageSpan_apart {grant : RetypeGrant} {phys other : Nat} (page : grant.Page phys)
    (otherPage : grant.Page other) (ne : phys ≠ other) :
    (pageSpan phys).Apart (pageSpan other) := by
  obtain ⟨i, _, rfl⟩ := page
  obtain ⟨j, _, rfl⟩ := otherPage
  have order : i ≠ j := fun same => ne (by rw [same])
  unfold Span.Apart pageSpan pageSize
  simp only
  omega

/-- The watermark moved over what was granted. -/
theorem UntypedMemory.Grants.carves {before after : UntypedMemory} {grant : RetypeGrant}
    (grants : Grants before after grant) :
    before.arena.mark ≤ grant.span.start ∧ grant.span.start ≤ grant.span.stop ∧
      grant.span.stop ≤ before.arena.stop ∧
      after.arena = { before.arena with mark := grant.span.stop } := by
  have watermark := grants.watermark
  have inside := grants.inside
  have sameBase := grants.base
  have sameSize := grants.sizeBytes
  unfold UntypedMemory.arena RetypeGrant.span
  refine ⟨grants.above, by simp, ?_, ?_⟩
  · simp only
    omega
  · rw [watermark, sameBase, sameSize]

namespace KernelState

/-- The untyped regions. -/
def arenas (state : KernelState) (uid : UntypedId) : Option Arena :=
  (state.untyped.get? uid).map UntypedMemory.arena

/-- Some address space records the mapping. -/
def Maps (state : KernelState) (mapping : Mapping) : Prop :=
  ∃ asId space, state.addrSpaces.get? asId = some space ∧
    mapping ∈ space.mappings.objects

/-! ## Steps that leave memory alone -/

/-- Regions, address spaces, device windows and the pool are the same. -/
structure SameMemory (before after : KernelState) : Prop where
  untyped : after.untyped = before.untyped
  addrSpaces : after.addrSpaces = before.addrSpaces
  mmioRegions : after.mmioRegions = before.mmioRegions
  pool : after.mapPoolBase = before.mapPoolBase ∧ after.mapPoolLen = before.mapPoolLen ∧
    after.mapPoolUsed = before.mapPoolUsed

theorem SameMemory.refl (state : KernelState) : SameMemory state state :=
  ⟨rfl, rfl, rfl, rfl, rfl, rfl⟩

theorem sameMemory_updateTcb (id : ThreadId) (update : Tcb → Tcb) (state : KernelState) :
    SameMemory state (state.updateTcb id update) := by
  rw [updateTcb_frame]
  exact ⟨rfl, rfl, rfl, rfl, rfl, rfl⟩

/-- What is neither `Retype` nor `Map` leaves memory alone. -/
theorem Effect.sameMemory {caller : ThreadId} {nowNs : Nat} {before after : KernelState}
    {op : SyscallOp} {next : Option ThreadId}
    (effect : Effect caller nowNs before op next after)
    (notRetype : ∀ untyped targetType count, op ≠ .retype untyped targetType count)
    (notMap : ∀ pageTable frame vaddr perms, op ≠ .map pageTable frame vaddr perms) :
    SameMemory before after := by
  have thread : ∀ (state : KernelState) (id : ThreadId) (update : Tcb → Tcb)
      (sched : KScheduler),
      SameMemory state { state.updateTcb id update with sched } := by
    intro state id update sched
    obtain ⟨untyped, addrSpaces, mmioRegions, pool⟩ :=
      sameMemory_updateTcb id update state
    exact ⟨untyped, addrSpaces, mmioRegions, pool⟩
  have two : ∀ {first second third : KernelState}, SameMemory first second →
      SameMemory second third → SameMemory first third :=
    fun one other => ⟨other.untyped.trans one.untyped, other.addrSpaces.trans one.addrSpaces,
      other.mmioRegions.trans one.mmioRegions, other.pool.1.trans one.pool.1,
      other.pool.2.1.trans one.pool.2.1, other.pool.2.2.trans one.pool.2.2⟩
  have endpoint : ∀ (eid : EndpointId) (ep : KEndpoint),
      SameMemory before (before.putEndpoint eid ep) :=
    fun _ _ => ⟨rfl, rfl, rfl, rfl, rfl, rfl⟩
  cases effect with
  | unchanged => exact .refl _
  | yielded => exact ⟨rfl, rfl, rfl, rfl, rfl, rfl⟩
  | revoked holds ran => exact ⟨rfl, rfl, rfl, rfl, rfl, rfl⟩
  | granted target found source ne ran => exact ⟨rfl, rfl, rfl, rfl, rfl, rfl⟩
  | retyped holds present reserved created newPages => exact absurd rfl (notRetype _ _ _)
  | mapped holds frameHeld allowed resolved present added used =>
      exact absurd rfl (notMap _ _ _ _)
  | rolledBack holds frameHeld allowed resolved present added removed => exact absurd rfl (notMap _ _ _ _)
  | sent holds present waiting => exact two (endpoint _ _) (thread ..)
  | called holds present waiting admitted final chosen =>
      rw [final]
      exact two (two (endpoint _ _) (thread ..)) (thread ..)
  | callStuck holds present waiting absent => exact two (endpoint _ _) (thread ..)
  | queued isSend holds present noReceiver final chosen =>
      rw [final]
      exact two (endpoint _ _) (thread ..)
  | received holds present waiting => exact two (endpoint _ _) (thread ..)
  | awaiting holds present noSender final chosen =>
      rw [final]
      exact two (endpoint _ _) (thread ..)
  | replied ne awaits admitted chosen => exact thread ..
  | replyStuck ne awaits absent => exact sameMemory_updateTcb ..
  | signalled holds present => exact ⟨rfl, rfl, rfl, rfl, rfl, rfl⟩
  | waiting holds present => exact ⟨rfl, rfl, rfl, rfl, rfl, rfl⟩
  | taken isRead holds present => exact ⟨rfl, rfl, rfl, rfl, rfl, rfl⟩
  | bound region found target =>
      rw [bindIrq_frame]
      exact ⟨rfl, rfl, rfl, rfl, rfl, rfl⟩

/-! ## `Retype` and `Map` -/

section Inversion

variable {caller : ThreadId} {nowNs : Nat} {before after : KernelState}
variable {next : Option ThreadId}

theorem Holds.untypedAt {csId : CapSpaceId} {untyped : CapId} {uid : UntypedId}
    (holds : before.Holds caller csId untyped .untypedMemory .write uid) :
    before.untypedAt caller untyped = before.untyped.get? uid := by
  obtain ⟨held, resolved, rfl⟩ := holds.resolve
  rw [KernelState.untypedAt, resolved]

/-- `Retype` reserves nothing and changes nothing, or it moves a watermark and
creates objects. -/
theorem Effect.retype_cases {untyped : CapId} {targetType : KernelObjectType} {count : Nat}
    (effect : Effect caller nowNs before (.retype untyped targetType count) next after) :
    (before.reserves caller (.retype untyped targetType count) = none ∧ after = before) ∨
      ∃ csId uid region grant later,
        before.Holds caller csId untyped .untypedMemory .write uid ∧
          before.untyped.get? uid = some region ∧
          UntypedMemory.retype targetType count region = .ok grant later ∧
          before.reserves caller (.retype untyped targetType count) = some grant ∧
          Creates csId targetType grant (before.putUntyped uid later) after ∧
          NewPages (before.putUntyped uid later) after := by
  cases effect with
  | unchanged _ idle => exact Or.inl ⟨idle, rfl⟩
  | @retyped csId untyped targetType count uid region later grant after holds present
      reserved created newPages =>
      have reserves : before.reserves caller (.retype untyped targetType count) =
          some grant := by
        simp [KernelState.reserves, holds.untypedAt, present, reserved]
      exact Or.inr ⟨csId, uid, region, grant, later, holds, present, reserved, reserves,
        created, newPages⟩
  | @queued csId endpoint msg eid ep after next isCall op isSend =>
      cases isCall with
      | false => simp at isSend
      | true => simp at isSend
  | taken isRead => simp at isRead

/-- `Map` changes nothing, or it adds a mapping to one address space, or it adds a
mapping and takes one out. -/
theorem Effect.map_cases {pageTable frame : CapId} {vaddr : Nat} {perms : MapPermissions}
    (effect : Effect caller nowNs before (.map pageTable frame vaddr perms) next after) :
    after = before ∨
      ∃ csId asId held phys space later,
        before.Holds caller csId pageTable .pageTable .write asId ∧
          before.lookupCap caller frame = .ok held ∧
          before.framePhys held = .ok phys ∧
          before.addrSpaces.get? asId = some space ∧
          AddressSpace.map vaddr phys pageSize perms space = .ok () later ∧
          ((∃ used, after = { before.putAddrSpace asId later with mapPoolUsed := used }) ∨
            ∃ final, (AddressSpace.unmap vaddr later).state? = some final ∧
              after = before.putAddrSpace asId final) := by
  cases effect with
  | unchanged => exact Or.inl rfl
  | mapped holds frameHeld allowed resolved present added used =>
      exact Or.inr ⟨_, _, _, _, _, _, holds, lookupCap_of_held holds.space frameHeld,
        resolved, present, added, Or.inl ⟨used, rfl⟩⟩
  | rolledBack holds frameHeld allowed resolved present added removed =>
      exact Or.inr ⟨_, _, _, _, _, _, holds, lookupCap_of_held holds.space frameHeld,
        resolved, present, added, Or.inr ⟨_, removed, rfl⟩⟩
  | @queued csId endpoint msg eid ep after next isCall op isSend =>
      cases isCall with
      | false => simp at isSend
      | true => simp at isSend
  | taken isRead => simp at isRead

end Inversion

end KernelState

/-! ## Memory after boot -/

/-- A fragment of usable memory. -/
def fragmentSpan (fragment : Nat × Nat) : Span := ⟨fragment.1, fragment.2⟩

/-- The memory that becomes untyped does not overlap itself, nor a page at the start
of a device window or the first page-table root, and these pages are apart. -/
structure BootInfo.Sane (boot : BootInfo) : Prop where
  fragments : boot.fragments.Pairwise fun left right =>
    (fragmentSpan left).Apart (fragmentSpan right)
  devices : ∀ device ∈ boot.peripheralDevices, ∀ fragment ∈ boot.fragments,
    (pageSpan device.mmioBase).Apart (fragmentSpan fragment)
  root : ∀ fragment ∈ boot.fragments,
    (pageSpan boot.initialPageTablePhys).Apart (fragmentSpan fragment)
  rootDevices : ∀ device ∈ boot.peripheralDevices,
    (pageSpan boot.initialPageTablePhys).Apart (pageSpan device.mmioBase)

/-- Untyped memory made of a fragment. -/
def fragmentRegion (fragment : Nat × Nat) : UntypedMemory :=
  .new fragment.1 (fragment.2 - fragment.1)

theorem le_of_mem_fragments {boot : BootInfo} {fragment : Nat × Nat}
    (member : fragment ∈ boot.fragments) : fragment.1 + pageSize ≤ fragment.2 := by
  obtain ⟨region, _, inside⟩ := List.mem_flatMap.1 member
  split at inside
  · simp at inside
  · have large := (List.mem_filter.1 inside).2
    simp only [decide_eq_true_eq] at large
    unfold pageSize at *
    omega

namespace KernelState

section Boot

variable {before after : KernelState}

/-- Storing a root capability leaves memory alone. -/
theorem insertRootCap_memory {space : CapSpaceId} {object : ObjectRef}
    {inserted : Option CapId}
    (ran : insertRootCap space object before = .ok inserted after) :
    SameMemory before after := by
  have ended : ((insertRootCap space object) before).state? = some after := by
    rw [ran]
    rfl
  unfold insertRootCap at ended
  rw [Exec.asOption_state] at ended
  obtain ⟨tables, _, rfl⟩ := Exec.zoom_state.1 ended
  exact ⟨rfl, rfl, rfl, rfl, rfl, rfl⟩

/-- New regions, made of the listed fragments, and apart from each other. -/
structure Places (fragments : List (Nat × Nat)) (before after : Slab UntypedMemory maxUntyped) :
    Prop where
  grows : before.GrowsBy
    (fun _ region => ∃ fragment ∈ fragments, region = fragmentRegion fragment) after
  apart : ∀ i j first second, i ≠ j → before.get? i = none → before.get? j = none →
    after.get? i = some first → after.get? j = some second →
    first.arena.span.Apart second.arena.span

theorem Places.refl (fragments : List (Nat × Nat)) (regions : Slab UntypedMemory maxUntyped) :
    Places fragments regions regions where
  grows := .refl _
  apart := by
    intro i j first second _ vacant _ present
    rw [vacant] at present
    simp at present

theorem fragmentRegion_span {fragment : Nat × Nat} (ordered : fragment.1 ≤ fragment.2) :
    (fragmentRegion fragment).arena.span = fragmentSpan fragment := by
  simp [fragmentRegion, UntypedMemory.new, UntypedMemory.arena, Arena.span, fragmentSpan,
    ordered]

/-- One region first, and the others behind it. -/
theorem Places.cons {fragment : Nat × Nat} {rest : List (Nat × Nat)} {uid : UntypedId}
    {regions middle final : Slab UntypedMemory maxUntyped}
    (inserted : regions.insert (fun _ => fragmentRegion fragment) = some (uid, middle))
    (others : Places rest middle final)
    (apart : ∀ other ∈ rest, (fragmentSpan fragment).Apart (fragmentSpan other))
    (ordered : ∀ other ∈ fragment :: rest, other.1 ≤ other.2) :
    Places (fragment :: rest) regions final := by
  have here := Slab.get?_of_insert inserted
  have new : ∀ i region, regions.get? i = none → final.get? i = some region →
      (i = uid ∧ region = fragmentRegion fragment) ∨
        (middle.get? i = none ∧ ∃ other ∈ rest, region = fragmentRegion other) := by
    intro i region vacant present
    rcases others.grows.cases_of_some present with old | fresh
    · rw [here] at old
      by_cases same : uid = i
      · rw [if_pos same, Option.some.injEq] at old
        exact Or.inl ⟨same.symm, old.symm⟩
      · rw [if_neg same, vacant] at old
        simp at old
    · exact Or.inr fresh
  have behind : ∀ first second, first = fragmentRegion fragment →
      (∃ other ∈ rest, second = fragmentRegion other) →
      first.arena.span.Apart second.arena.span := by
    rintro _ _ rfl ⟨other, member, rfl⟩
    rw [fragmentRegion_span (ordered fragment (List.mem_cons_self ..)),
      fragmentRegion_span (ordered other (List.mem_cons_of_mem _ member))]
    exact apart other member
  constructor
  · refine Slab.GrowsBy.trans (.of_insert inserted ⟨fragment, List.mem_cons_self .., rfl⟩) ?_
    intro i
    rcases others.grows i with same | ⟨vacant, region, present, other, member, made⟩
    · exact Or.inl same
    · exact Or.inr ⟨vacant, region, present, other, List.mem_cons_of_mem _ member, made⟩
  · intro i j first second ne iVacant jVacant iPresent jPresent
    rcases new i first iVacant iPresent with ⟨iSlot, firstMade⟩ | ⟨iNew, firstMade⟩
    · rcases new j second jVacant jPresent with ⟨jSlot, _⟩ | ⟨_, secondMade⟩
      · exact absurd (iSlot.trans jSlot.symm) ne
      · exact behind first second firstMade secondMade
    · rcases new j second jVacant jPresent with ⟨_, secondMade⟩ | ⟨jNew, _⟩
      · exact (behind second first secondMade firstMade).symm
      · exact others.apart i j first second ne iNew jNew iPresent jPresent

theorem seedUntyped_places {space : CapSpaceId} {fragments : List (Nat × Nat)}
    {made total : Nat}
    (apart : fragments.Pairwise fun left right =>
      (fragmentSpan left).Apart (fragmentSpan right))
    (ordered : ∀ fragment ∈ fragments, fragment.1 ≤ fragment.2)
    (ran : seedUntyped space fragments made before = .ok total after) :
    Places fragments before.untyped after.untyped ∧
      after.addrSpaces = before.addrSpaces ∧ after.mmioRegions = before.mmioRegions := by
  induction fragments generalizing made before with
  | nil =>
      obtain ⟨_, rfl⟩ : made = total ∧ before = after := by simpa [seedUntyped] using ran
      exact ⟨.refl .., rfl, rfl⟩
  | cons fragment rest ih =>
      obtain ⟨firstApart, restApart⟩ := List.pairwise_cons.1 apart
      have restOrdered : ∀ other ∈ rest, other.1 ≤ other.2 :=
        fun other member => ordered other (List.mem_cons_of_mem _ member)
      rw [seedUntyped] at ran
      obtain ⟨created, middle, allocated, continued⟩ := Exec.bind_eq_ok.1 ran
      rcases allocIn_eq_ok allocated with ⟨rfl, rfl⟩ | ⟨uid, objects, rfl, inserted, rfl⟩
      · obtain ⟨_, rfl⟩ : made = total ∧ middle = after := by simpa using continued
        exact ⟨.refl .., rfl, rfl⟩
      · obtain ⟨slot, later, stored, looped⟩ := Exec.bind_eq_ok.1 continued
        have same := insertRootCap_memory stored
        cases slot with
        | none =>
            obtain ⟨_, rfl⟩ : made = total ∧ later = after := by simpa using looped
            refine ⟨?_, same.addrSpaces, same.mmioRegions⟩
            rw [same.untyped]
            exact Places.cons inserted (.refl ..) firstApart ordered
        | some cap =>
            obtain ⟨places, addrSpaces, mmioRegions⟩ :=
              ih restApart restOrdered looped
            rw [same.untyped] at places
            exact ⟨Places.cons inserted places firstApart ordered,
              addrSpaces.trans same.addrSpaces, mmioRegions.trans same.mmioRegions⟩

theorem seedMmio_memory {space : CapSpaceId} {kind : PeripheralKind}
    {devices : List PeripheralDevice} {cap : CapId}
    (ran : seedMmio space kind devices before = .ok cap after) :
    after.untyped = before.untyped ∧ after.addrSpaces = before.addrSpaces ∧
      before.mmioRegions.GrowsBy
        (fun _ descriptor => ∃ device ∈ devices, descriptor.physBase = device.mmioBase)
        after.mmioRegions := by
  rcases seedMmio_cases ran with rfl | ⟨device, member, created, middle, allocated, ends⟩
  · exact ⟨rfl, rfl, .refl _⟩
  · rcases allocIn_eq_ok allocated with ⟨rfl, rfl⟩ | ⟨mid, objects, rfl, inserted, rfl⟩
    · obtain rfl := ends.resolve_right fun ⟨_, _, given, _⟩ => by cases given
      exact ⟨rfl, rfl, .refl _⟩
    · rcases ends with rfl | ⟨_, _, _, stored⟩
      · exact ⟨rfl, rfl, .of_insert inserted ⟨device, member, rfl⟩⟩
      · have same := insertRootCap_memory stored
        refine ⟨same.untyped, same.addrSpaces, ?_⟩
        rw [same.mmioRegions]
        exact .of_insert inserted ⟨device, member, rfl⟩

/-- Where the first kernel state puts memory. -/
structure LaidOut (boot : BootInfo) (state : KernelState) : Prop where
  regions : ∀ uid region, state.untyped.get? uid = some region →
    ∃ fragment ∈ boot.fragments, region = fragmentRegion fragment
  apart : ∀ i j first second, i ≠ j → state.untyped.get? i = some first →
    state.untyped.get? j = some second → first.arena.span.Apart second.arena.span
  devices : ∀ mid descriptor, state.mmioRegion mid = some descriptor →
    ∃ device ∈ boot.peripheralDevices, descriptor.physBase = device.mmioBase
  roots : ∀ asId space, state.addrSpaces.get? asId = some space →
    space = .new boot.initialPageTablePhys

theorem populate_laidOut {boot : BootInfo} {state : KernelState}
    (apart : boot.fragments.Pairwise fun left right =>
      (fragmentSpan left).Apart (fragmentSpan right))
    (ran : populateFromBootInfo boot .empty = .ok () state) : LaidOut boot state := by
  obtain ⟨rootCs, rootAs, rootTid, first, made, ptCap, blkCap, netCap, second, third, allocated,
    seeded, scheduled, rfl⟩ := populateFromBootInfo_eq_ok ran
  obtain ⟨tables, spaces, tcbs, rfl, _, _, roots, inside, _⟩ := allocRoot_ok allocated
  have final := scheduleRoot_ok inside scheduled
  obtain ⟨total, fourth, inserted, fifth, blk, sixth, net, regions, rootCap, seededBlk,
    seededNet⟩ := seedCaps_eq_ok seeded
  have ordered : ∀ fragment ∈ boot.fragments, fragment.1 ≤ fragment.2 := by
    intro fragment member
    have large := le_of_mem_fragments member
    omega
  obtain ⟨places, regionSpaces, regionDevices⟩ := seedUntyped_places apart ordered regions
  have sameRoot := insertRootCap_memory rootCap
  obtain ⟨blkUntyped, blkSpaces, blkDevices⟩ := seedMmio_memory seededBlk
  obtain ⟨netUntyped, netSpaces, netDevices⟩ := seedMmio_memory seededNet
  have untyped : third.untyped = fourth.untyped := by
    rw [final, updateTcb_frame]
    exact netUntyped.trans (blkUntyped.trans sameRoot.untyped)
  have addrSpaces : third.addrSpaces = spaces := by
    rw [final, updateTcb_frame]
    exact netSpaces.trans (blkSpaces.trans (sameRoot.addrSpaces.trans regionSpaces))
  have devices : Slab.GrowsBy
      (fun _ descriptor => ∃ device ∈ boot.peripheralDevices,
        descriptor.physBase = device.mmioBase) .empty third.mmioRegions := by
    have noDevices : fifth.mmioRegions = .empty := sameRoot.mmioRegions.trans regionDevices
    rw [noDevices] at blkDevices
    rw [final, updateTcb_frame]
    exact blkDevices.trans netDevices
  constructor
  · intro uid region present
    change third.untyped.get? uid = some region at present
    rw [untyped] at present
    rcases places.grows.cases_of_some present with old | ⟨_, made⟩
    · simp [empty] at old
    · exact made
  · intro i j firstRegion secondRegion ne iPresent jPresent
    change third.untyped.get? i = some firstRegion at iPresent
    change third.untyped.get? j = some secondRegion at jPresent
    rw [untyped] at iPresent jPresent
    exact places.apart i j _ _ ne (by simp [empty]) (by simp [empty]) iPresent jPresent
  · intro mid descriptor present
    rcases devices.cases_of_some present with old | ⟨_, made⟩
    · simp at old
    · exact made
  · intro asId space present
    change third.addrSpaces.get? asId = some space at present
    rw [addrSpaces] at present
    exact roots asId space present

end Boot

end KernelState

end Simurgh
