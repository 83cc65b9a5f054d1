import Simurgh.Core.Memory

/-!
# Reserved memory and mapped frames

`Retype` reserves memory from a region and `Map` maps the first page of a region.
The history of a run records the memory that was reserved for kernel objects.
Mapped frames stay out of it as long as no region's first page is used twice.
-/

namespace Simurgh

/-- The kernel keeps objects of this type to itself. -/
def KernelObjectType.isKernelObject : KernelObjectType → Bool
  | .untyped => false
  | .sharedRegion => false
  | _ => true

namespace KernelState

/-! ## The history -/

/-- Add what an event reserves for kernel objects. -/
def recordGrant (before : KernelState) (event : KernelEvent) (grants : List RetypeGrant) :
    List RetypeGrant :=
  match event with
  | .syscall caller op _ =>
      match before.reserves caller op with
      | some grant => if grant.kind.isKernelObject then grant :: grants else grants
      | none => grants
  | _ => grants

/-! ## Using a first page -/

/-- Is the page at this address mapped? -/
def mapsPage (state : KernelState) (phys : Nat) : Bool :=
  state.addrSpaces.objects.any fun space =>
    space.mappings.objects.any fun mapping => mapping.paddr == phys

/-- The page that a frame capability of the caller stands for. -/
def frameAt (state : KernelState) (caller : ThreadId) (frame : CapId) : Option Nat :=
  match state.lookupCap caller frame with
  | .error _ => none
  | .ok held =>
      match state.framePhys held with
      | .error _ => none
      | .ok phys => some phys

/-- No kernel objects are made of an untouched region whose first page is mapped, and
no page is mapped at which kernel objects start.  Frames for boot code are not among
what is recorded, so none are taken. -/
def firstPageFree (state : KernelState) (grants : List RetypeGrant) : KernelEvent → Bool
  | .syscall caller (.retype untyped targetType _) _ =>
      !(targetType.isKernelObject &&
        (state.untypedAt caller untyped).any fun region =>
          region.watermark == 0 && state.mapsPage region.base)
  | .syscall caller (.map _ frame _ _) _ =>
      (state.frameAt caller frame).all fun phys =>
        grants.all fun grant => grant.physBase != phys
  | .carve _ => false
  | .spawn _ _ => false
  | _ => true

/-- The event reserves memory or leaves its frame mapped. -/
def goesThrough (before after : KernelState) : KernelEvent → Bool
  | .syscall caller (.retype untyped targetType count) _ =>
      (before.reserves caller (.retype untyped targetType count)).isSome
  | .syscall caller (.map _ frame _ _) _ =>
      (before.frameAt caller frame).any after.mapsPage
  | _ => false

theorem mapsPage_iff {state : KernelState} {phys : Nat} :
    state.mapsPage phys = true ↔ ∃ mapping, state.Maps mapping ∧ mapping.paddr = phys := by
  unfold mapsPage Maps
  rw [List.any_eq_true]
  constructor
  · rintro ⟨space, stored, found⟩
    obtain ⟨asId, present⟩ := Slab.mem_objects.1 stored
    obtain ⟨mapping, member, same⟩ := List.any_eq_true.1 found
    exact ⟨mapping, ⟨asId, space, present, member⟩, by simpa using same⟩
  · rintro ⟨mapping, ⟨asId, space, present, member⟩, same⟩
    refine ⟨space, Slab.mem_objects.2 ⟨asId, present⟩, ?_⟩
    exact List.any_eq_true.2 ⟨mapping, member, by simp [same]⟩

/-! ## The invariant -/

/-- A region or a device window starts at this address. -/
def StartsAt (state : KernelState) (phys : Nat) : Prop :=
  (∃ uid arena, state.arenas uid = some arena ∧ arena.start = phys) ∨
    ∃ mid descriptor, state.mmioRegion mid = some descriptor ∧ descriptor.physBase = phys

/-- Regions are nested arenas and reservations for kernel objects are settled in them.
What is mapped starts a region or a device window, and is apart from all
reservations. -/
structure Separated (bootRoot : Nat) (grants : List RetypeGrant) (state : KernelState) :
    Prop where
  nested : Nested state.arenas
  roomy : ∀ uid arena, state.arenas uid = some arena → arena.start + pageSize ≤ arena.stop
  settled : ∀ grant ∈ grants, Settled state.arenas grant.span
  granted : ∀ grant ∈ grants, pageSize ∣ grant.physBase ∧
    grant.physLen = pageSize * grant.count ∧ grant.count ≠ 0
  devices : ∀ mid descriptor, state.mmioRegion mid = some descriptor →
    (pageSpan bootRoot).Apart (pageSpan descriptor.physBase) ∧
      ∀ uid arena, state.arenas uid = some arena →
        (pageSpan descriptor.physBase).Apart arena.span
  root : ∀ uid arena, state.arenas uid = some arena → (pageSpan bootRoot).Apart arena.span
  mapped : ∀ mapping, state.Maps mapping → mapping.len = pageSize ∧
    pageSize ∣ mapping.paddr ∧ state.StartsAt mapping.paddr
  apart : ∀ mapping, state.Maps mapping → ∀ grant ∈ grants, mapping.frame.Apart grant.span
  roots : ∀ asId space, state.addrSpaces.get? asId = some space →
    space.rootPhys = bootRoot ∨ ∃ grant ∈ grants, grant.Page space.rootPhys

namespace Separated

variable {bootRoot : Nat} {grants : List RetypeGrant} {state before after : KernelState}

theorem congr (separated : Separated bootRoot grants before)
    (untyped : after.untyped = before.untyped)
    (addrSpaces : after.addrSpaces = before.addrSpaces)
    (mmioRegions : after.mmioRegions = before.mmioRegions) :
    Separated bootRoot grants after := by
  have arenas : after.arenas = before.arenas := by
    unfold KernelState.arenas
    rw [untyped]
  have maps : ∀ mapping, after.Maps mapping → before.Maps mapping := by
    intro mapping held
    unfold Maps at *
    rwa [addrSpaces] at held
  have devices : ∀ mid, after.mmioRegion mid = before.mmioRegion mid := by
    intro mid
    unfold mmioRegion
    rw [mmioRegions]
  constructor
  · exact arenas ▸ separated.nested
  · exact arenas ▸ separated.roomy
  · exact arenas ▸ separated.settled
  · exact separated.granted
  · rw [arenas]
    exact fun mid descriptor present =>
      separated.devices mid descriptor ((devices mid).symm.trans present)
  · exact arenas ▸ separated.root
  · intro mapping held
    obtain ⟨length, aligned, start⟩ := separated.mapped mapping (maps mapping held)
    unfold StartsAt
    rw [arenas]
    exact ⟨length, aligned, start.imp_right fun ⟨mid, descriptor, present, here⟩ =>
      ⟨mid, descriptor, (devices mid).trans present, here⟩⟩
  · exact fun mapping held => separated.apart mapping (maps mapping held)
  · rw [addrSpaces]
    exact separated.roots

/-- Mapped frames are apart from the roots of all address spaces. -/
theorem apart_root (separated : Separated bootRoot grants state) {mapping : Mapping}
    (held : state.Maps mapping) {asId : PageTableId} {space : RootAddressSpace}
    (present : state.addrSpaces.get? asId = some space) :
    mapping.frame.Apart (pageSpan space.rootPhys) := by
  obtain ⟨length, _, start⟩ := separated.mapped mapping held
  have frame : mapping.frame = pageSpan mapping.paddr := by
    rw [Mapping.frame, length]
    rfl
  rcases separated.roots asId space present with same | ⟨grant, member, page⟩
  · rw [same, frame]
    rcases start with ⟨uid, arena, there, here⟩ | ⟨mid, descriptor, there, here⟩
    · have first : (pageSpan mapping.paddr).Within arena.span := by
        rw [← here]
        exact ⟨Nat.le_refl _, separated.roomy uid arena there⟩
      exact ((separated.root uid arena there).symm.mono first)
    · rw [← here]
      exact (separated.devices mid descriptor there).1.symm
  · have inside := page.within (separated.granted grant member).2.1
    exact ((separated.apart mapping held grant member).symm.mono inside).symm

/-! ## `Map` -/

/-- A page at which no kernel objects start may be mapped. -/
theorem frame_apart (separated : Separated bootRoot grants state) {phys : Nat}
    (aligned : pageSize ∣ phys)
    (start : state.StartsAt phys)
    {grant : RetypeGrant} (member : grant ∈ grants) (elsewhere : grant.physBase ≠ phys) :
    (pageSpan phys).Apart grant.span := by
  have settled := separated.settled grant member
  rcases start with ⟨uid, arena, there, rfl⟩ | ⟨mid, descriptor, there, rfl⟩
  · by_contra meets
    exact elsewhere (settled.start_eq there (separated.roomy uid arena there)
      (separated.granted grant member).1 aligned meets)
  · obtain ⟨uid, arena, present, inside⟩ := settled.inside
    have inArena : grant.span.Within arena.span :=
      ⟨inside.1, inside.2.trans (separated.nested.ordered uid arena present).2⟩
    exact (((separated.devices mid descriptor there).2 uid arena present).symm.mono
      inArena).symm

/-- Storing an address space with the same root whose mappings are accounted for. -/
theorem putAddrSpace (separated : Separated bootRoot grants state) {asId : PageTableId}
    {old new : RootAddressSpace} (present : state.addrSpaces.get? asId = some old)
    (root : new.rootPhys = old.rootPhys)
    (mappings : ∀ mapping ∈ new.mappings.objects,
      mapping ∈ old.mappings.objects ∨
        mapping.len = pageSize ∧ pageSize ∣ mapping.paddr ∧
          state.StartsAt mapping.paddr ∧ ∀ grant ∈ grants, grant.physBase ≠ mapping.paddr) :
    Separated bootRoot grants (state.putAddrSpace asId new) := by
  have read : ∀ other, (state.putAddrSpace asId new).addrSpaces.get? other =
      if asId = other then some new else state.addrSpaces.get? other :=
    fun other => Slab.get?_put_of_some present ..
  have maps : ∀ mapping, (state.putAddrSpace asId new).Maps mapping →
      state.Maps mapping ∨ mapping ∈ new.mappings.objects := by
    rintro mapping ⟨other, space, there, member⟩
    rw [read] at there
    by_cases same : asId = other
    · rw [if_pos same, Option.some.injEq] at there
      exact Or.inr (there ▸ member)
    · rw [if_neg same] at there
      exact Or.inl ⟨other, space, there, member⟩
  have cases : ∀ mapping, (state.putAddrSpace asId new).Maps mapping →
      state.Maps mapping ∨
        mapping.len = pageSize ∧ pageSize ∣ mapping.paddr ∧
          state.StartsAt mapping.paddr ∧ ∀ grant ∈ grants, grant.physBase ≠ mapping.paddr := by
    intro mapping held
    rcases maps mapping held with before | member
    · exact Or.inl before
    · exact (mappings mapping member).imp_left fun member => ⟨asId, old, present, member⟩
  constructor
  · exact separated.nested
  · exact separated.roomy
  · exact separated.settled
  · exact separated.granted
  · exact separated.devices
  · exact separated.root
  · intro mapping held
    rcases cases mapping held with before | ⟨length, aligned, start, _⟩
    · exact separated.mapped mapping before
    · exact ⟨length, aligned, start⟩
  · intro mapping held grant member
    rcases cases mapping held with before | ⟨length, aligned, start, elsewhere⟩
    · exact separated.apart mapping before grant member
    · have frame : mapping.frame = pageSpan mapping.paddr := by
        rw [Mapping.frame, length]
        rfl
      rw [frame]
      exact separated.frame_apart aligned start member (elsewhere grant member)
  · intro other space there
    rw [read] at there
    by_cases same : asId = other
    · rw [if_pos same, Option.some.injEq] at there
      rw [← there, root]
      exact separated.roots asId old present
    · rw [if_neg same] at there
      exact separated.roots other space there

theorem startsAt_of_frameAt {caller : ThreadId} {frame : CapId} {phys : Nat}
    (found : state.frameAt caller frame = some phys) : state.StartsAt phys := by
  unfold frameAt at found
  cases looked : state.lookupCap caller frame with
  | error error => simp [looked] at found
  | ok held =>
      rw [looked] at found
      unfold framePhys at found
      cases kind : held.object.kind with
      | untypedMemory =>
          cases present : state.untyped.get? held.object.id with
          | none => simp [kind, present] at found
          | some region =>
              simp only [kind, present, Option.some.injEq] at found
              refine Or.inl ⟨held.object.id, region.arena, ?_, found⟩
              rw [arenas, present]
              rfl
      | mmioRegion =>
          cases present : state.mmioRegion held.object.id with
          | none => simp [kind, present] at found
          | some descriptor =>
              simp only [kind, present, Option.some.injEq] at found
              exact Or.inr ⟨held.object.id, descriptor, present, found⟩
      | _ => simp [kind] at found

theorem map {caller : ThreadId} {nowNs : Nat} {next : Option ThreadId}
    {pageTable frame : CapId} {vaddr : Nat} {perms : MapPermissions}
    (separated : Separated bootRoot grants before)
    (effect : Effect caller nowNs before (.map pageTable frame vaddr perms) next after)
    (free : ∀ phys, before.frameAt caller frame = some phys →
      ∀ grant ∈ grants, grant.physBase ≠ phys) :
    Separated bootRoot grants after := by
  rcases effect.map_cases with rfl |
    ⟨csId, asId, held, phys, space, later, _, looked, resolved, present, added, ended⟩
  · exact separated
  · have found : before.frameAt caller frame = some phys := by
      simp [frameAt, looked, resolved]
    have adds := AddressSpace.map_ok added
    have accounted : ∀ mapping ∈ later.mappings.objects, mapping ∈ space.mappings.objects ∨
        mapping.len = pageSize ∧ pageSize ∣ mapping.paddr ∧
          before.StartsAt mapping.paddr ∧
          ∀ grant ∈ grants, grant.physBase ≠ mapping.paddr := by
      intro mapping member
      refine ((adds.mem_objects mapping).1 member).imp_right ?_
      rintro rfl
      exact ⟨rfl, Nat.dvd_of_mod_eq_zero adds.aligned.2, startsAt_of_frameAt found,
        free phys found⟩
    rcases ended with ⟨used, rfl⟩ | ⟨final, removed, rfl⟩
    · have stored := separated.putAddrSpace present adds.rootPhys accounted
      exact stored.congr rfl rfl rfl
    · obtain ⟨root, shrinks⟩ := AddressSpace.unmap_shrinks removed
      exact separated.putAddrSpace present (root.trans adds.rootPhys)
        fun mapping member => accounted mapping (shrinks mapping member)

end Separated

/-- `Map` maps single pages. -/
theorem Effect.map_len {caller : ThreadId} {nowNs : Nat} {before after : KernelState}
    {next : Option ThreadId} {pageTable frame : CapId} {vaddr : Nat}
    {perms : MapPermissions}
    (effect : Effect caller nowNs before (.map pageTable frame vaddr perms) next after)
    (pages : ∀ mapping, before.Maps mapping → mapping.len = pageSize)
    {mapping : Mapping} (held : after.Maps mapping) : mapping.len = pageSize := by
  rcases effect.map_cases with rfl |
    ⟨csId, asId, cap, phys, space, later, _, _, _, present, added, ended⟩
  · exact pages mapping held
  · have adds := AddressSpace.map_ok added
    have lengths : ∀ other ∈ later.mappings.objects, other.len = pageSize := by
      intro other member
      rcases (adds.mem_objects other).1 member with old | rfl
      · exact pages other ⟨asId, space, present, old⟩
      · rfl
    obtain ⟨final, kept, stored⟩ : ∃ final : RootAddressSpace,
        (∀ other ∈ final.mappings.objects, other.len = pageSize) ∧
          after.addrSpaces = before.addrSpaces.put asId final := by
      rcases ended with ⟨used, rfl⟩ | ⟨final, removed, rfl⟩
      · exact ⟨later, lengths, rfl⟩
      · exact ⟨final, fun other member =>
          lengths other ((AddressSpace.unmap_shrinks removed).2 other member), rfl⟩
    obtain ⟨other, found, there, member⟩ := held
    rw [stored, Slab.get?_put_of_some present] at there
    by_cases same : asId = other
    · rw [if_pos same, Option.some.injEq] at there
      exact kept mapping (there ▸ member)
    · rw [if_neg same] at there
      exact pages mapping ⟨other, found, there, member⟩

/-! ## `Retype` -/

namespace Separated

variable {bootRoot : Nat} {grants : List RetypeGrant} {state before after : KernelState}

/-- A region that is there has an arena. -/
theorem arenas_of_get? {uid : UntypedId} {region : UntypedMemory}
    (present : state.untyped.get? uid = some region) :
    state.arenas uid = some region.arena := by
  rw [arenas, present]
  rfl

/-- Moving a watermark carves the grant out of the region. -/
theorem carves_putUntyped {uid : UntypedId} {region later : UntypedMemory}
    {grant : RetypeGrant} (present : before.untyped.get? uid = some region)
    (grants : UntypedMemory.Grants region later grant) :
    Carves before.arenas (before.putUntyped uid later).arenas uid grant.span where
  taken := by
    obtain ⟨below, ordered, fits, stored⟩ := grants.carves
    refine ⟨region.arena, arenas_of_get? present, below, ordered, fits, ?_⟩
    rw [← stored]
    exact arenas_of_get? (Slab.get?_put_self (Slab.lt_of_get? present) later)
  others := by
    intro other ne
    unfold arenas
    change Option.map _ ((before.untyped.put uid later).get? other) = _
    rw [Slab.get?_put_of_ne (Ne.symm ne)]

/-- The creation loop makes regions inside the grant, or none. -/
theorem hatches_of_creates {csId : CapSpaceId} {targetType : KernelObjectType}
    {grant : RetypeGrant} (length : grant.physLen = pageSize * grant.count)
    (created : Creates csId targetType grant before after)
    (newPages : NewPages before after) :
    Hatches before.arenas after.arenas grant.span where
  grows := by
    intro uid
    rcases created.untyped uid with same | ⟨vacant, region, present, _, base, page, rfl⟩
    · exact Or.inl (by rw [arenas, same]; rfl)
    · refine Or.inr ⟨by rw [arenas, vacant]; rfl, _, arenas_of_get? present,
        page.within length, ?_, ?_⟩
      · exact Nat.le_refl _
      · exact Nat.le_add_right ..
  separate := by
    intro i j first second ne iVacant jVacant iPresent jPresent
    have vacant : ∀ {uid}, before.arenas uid = none → before.untyped.get? uid = none :=
      fun absent => Option.map_eq_none_iff.1 absent
    obtain ⟨firstRegion, iThere, rfl⟩ := Option.map_eq_some_iff.1 iPresent
    obtain ⟨secondRegion, jThere, rfl⟩ := Option.map_eq_some_iff.1 jPresent
    have bases : firstRegion.base ≠ secondRegion.base := fun same =>
      ne (newPages.untyped i j _ _ (vacant iVacant) (vacant jVacant) iThere jThere same)
    rcases created.untyped.cases_of_some iThere with old | ⟨_, _, base, page, rfl⟩
    · rw [vacant iVacant] at old
      simp at old
    · rcases created.untyped.cases_of_some jThere with old | ⟨_, _, other, otherPage, rfl⟩
      · rw [vacant jVacant] at old
        simp at old
      · exact pageSpan_apart page otherPage bases

/-- The arenas after `Retype`: those before, further used, and new ones in the grant. -/
theorem arena_cases {uid : UntypedId} {region later : UntypedMemory} {csId : CapSpaceId}
    {targetType : KernelObjectType} {grant : RetypeGrant}
    (present : before.untyped.get? uid = some region)
    (grants : UntypedMemory.Grants region later grant)
    (created : Creates csId targetType grant (before.putUntyped uid later) after)
    {other : UntypedId} {arena : Arena} (there : after.arenas other = some arena) :
    (∃ old, before.arenas other = some old ∧ arena.span = old.span) ∨
      targetType = .untyped ∧ arena.start + pageSize ≤ arena.stop ∧
        arena.span.Within grant.span := by
  obtain ⟨made, stored, rfl⟩ := Option.map_eq_some_iff.1 there
  rcases created.untyped.cases_of_some stored with kept | ⟨_, isUntyped, base, page, rfl⟩
  · obtain ⟨old, held, sameSpan, _⟩ :=
      (carves_putUntyped present grants).grows (arenas_of_get? kept)
    exact Or.inl ⟨old, held, sameSpan⟩
  · exact Or.inr ⟨isUntyped, Nat.le_refl _, page.within grants.length⟩

section Retype

variable {uid : UntypedId} {region later : UntypedMemory} {csId : CapSpaceId}
  {targetType : KernelObjectType} {grant : RetypeGrant}

/-- No arena moves. -/
theorem arena_stays (present : before.untyped.get? uid = some region)
    (facts : UntypedMemory.Grants region later grant)
    (created : Creates csId targetType grant (before.putUntyped uid later) after)
    (newPages : NewPages (before.putUntyped uid later) after) {other : UntypedId}
    {old : Arena} (there : before.arenas other = some old) :
    ∃ arena, after.arenas other = some arena ∧ arena.start = old.start := by
  have carved := carves_putUntyped present facts
  have hatches := hatches_of_creates facts.length created newPages
  by_cases same : other = uid
  · subst same
    obtain rfl := Option.some.inj ((arenas_of_get? present).symm.trans there)
    exact ⟨later.arena, hatches.kept (arenas_of_get?
      (Slab.get?_put_self (Slab.lt_of_get? present) later)), facts.base⟩
  · exact ⟨old, hatches.kept ((carved.others other same).trans there), rfl⟩

theorem mmioRegion_of_creates
    (created : Creates csId targetType grant (before.putUntyped uid later) after)
    (mid : MmioRegionId) : after.mmioRegion mid = before.mmioRegion mid := by
  unfold mmioRegion
  rw [created.frame]
  rfl

/-- A new address space maps nothing. -/
theorem maps_of_creates
    (created : Creates csId targetType grant (before.putUntyped uid later) after)
    {mapping : Mapping} (held : after.Maps mapping) : before.Maps mapping := by
  obtain ⟨asId, space, there, member⟩ := held
  rcases created.addrSpaces.cases_of_some there with old | ⟨_, _, root, _, rfl⟩
  · exact ⟨asId, space, old, member⟩
  · simp [AddressSpace.new, Slab.mem_objects] at member

theorem startsAt_of_creates (present : before.untyped.get? uid = some region)
    (facts : UntypedMemory.Grants region later grant)
    (created : Creates csId targetType grant (before.putUntyped uid later) after)
    (newPages : NewPages (before.putUntyped uid later) after) {phys : Nat}
    (starts : before.StartsAt phys) : after.StartsAt phys := by
  rcases starts with ⟨other, old, there, start⟩ | ⟨mid, descriptor, there, start⟩
  · obtain ⟨arena, stored, same⟩ := arena_stays present facts created newPages there
    exact Or.inl ⟨other, arena, stored, same.trans start⟩
  · exact Or.inr ⟨mid, descriptor, (mmioRegion_of_creates created mid).trans there, start⟩

theorem grant_within (facts : UntypedMemory.Grants region later grant) :
    grant.span.Within region.arena.span :=
  ⟨(Nat.le_add_right ..).trans facts.above, (facts.carves).2.2.1⟩

/-- What was apart from all arenas still is. -/
theorem apart_of_creates (present : before.untyped.get? uid = some region)
    (facts : UntypedMemory.Grants region later grant)
    (created : Creates csId targetType grant (before.putUntyped uid later) after)
    {span : Span}
    (apart : ∀ other arena, before.arenas other = some arena → span.Apart arena.span)
    {other : UntypedId} {arena : Arena} (there : after.arenas other = some arena) :
    span.Apart arena.span := by
  rcases arena_cases present facts created there with ⟨old, held, same⟩ | ⟨_, _, inside⟩
  · rw [same]
    exact apart other old held
  · have away := apart uid region.arena (arenas_of_get? present)
    exact (away.symm.mono (inside.trans (grant_within facts))).symm

/-- A reservation for kernel objects hatches no arena. -/
theorem arenas_of_kernelObject
    (created : Creates csId targetType grant (before.putUntyped uid later) after)
    (isKernel : targetType.isKernelObject = true) :
    after.arenas = (before.putUntyped uid later).arenas := by
  funext other
  rcases created.untyped other with same | ⟨_, _, _, isUntyped, _⟩
  · rw [arenas, same]
    rfl
  · simp [isUntyped, KernelObjectType.isKernelObject] at isKernel

/-- No mapped frame meets a new reservation for kernel objects. -/
theorem mapped_apart_grant (separated : Separated bootRoot grants before)
    (present : before.untyped.get? uid = some region)
    (facts : UntypedMemory.Grants region later grant)
    (free : region.watermark = 0 → before.mapsPage region.base = false) {mapping : Mapping}
    (held : before.Maps mapping) : mapping.frame.Apart grant.span := by
  have carved := carves_putUntyped present facts
  have regionThere := arenas_of_get? present
  obtain ⟨length, aligned, start⟩ := separated.mapped mapping held
  have frame : mapping.frame = pageSpan mapping.paddr := by
    rw [Mapping.frame, length]
    rfl
  rw [frame]
  rcases start with ⟨other, arena, there, here⟩ | ⟨mid, descriptor, there, here⟩
  · by_contra meets
    rw [← here] at aligned meets
    obtain ⟨_, found, untouched, same⟩ := carved.first_block separated.nested there
      (separated.roomy other arena there) facts.aligned aligned meets
    obtain rfl := Option.some.inj (regionThere.symm.trans found)
    have watermark : region.watermark = 0 := by
      change region.base + region.watermark = region.base at untouched
      omega
    have mapped : before.mapsPage region.base = true :=
      mapsPage_iff.2 ⟨mapping, held, here.symm.trans same.symm⟩
    rw [free watermark] at mapped
    cases mapped
  · have away := (separated.devices mid descriptor there).2 uid _ regionThere
    rw [← here]
    exact (away.symm.mono (grant_within facts)).symm

/-- The reservations after `Retype`. -/
theorem mem_grants (kind : grant.kind = targetType) {old : RetypeGrant} :
    old ∈ (if grant.kind.isKernelObject then grant :: grants else grants) ↔
      old ∈ grants ∨ (targetType.isKernelObject = true ∧ old = grant) := by
  rw [kind]
  cases isKernel : targetType.isKernelObject with
  | true => simp [or_comm]
  | false => simp

theorem retype {count : Nat} (separated : Separated bootRoot grants before)
    (present : before.untyped.get? uid = some region)
    (reserved : UntypedMemory.retype targetType count region = .ok grant later)
    (created : Creates csId targetType grant (before.putUntyped uid later) after)
    (newPages : NewPages (before.putUntyped uid later) after)
    (free : targetType.isKernelObject = true → region.watermark = 0 →
      before.mapsPage region.base = false) :
    Separated bootRoot (if grant.kind.isKernelObject then grant :: grants else grants)
      after := by
  obtain ⟨kind, _, facts⟩ := UntypedMemory.retype_ok reserved
  have carved := carves_putUntyped present facts
  have hatches := hatches_of_creates facts.length created newPages
  have settled : ∀ old ∈ grants, Settled after.arenas old.span := by
    intro old member
    have before := separated.settled old member
    exact hatches.keeps (carved.keeps before) (carved.apart_settled separated.nested before)
  constructor
  · exact hatches.nested (carved.nested separated.nested) (carved.settled separated.nested)
  · intro other arena there
    rcases arena_cases present facts created there with ⟨old, held, same⟩ | ⟨_, roomy, _⟩
    · have start : arena.start = old.start := congrArg Span.start same
      have stop : arena.stop = old.stop := congrArg Span.stop same
      rw [start, stop]
      exact separated.roomy other old held
    · exact roomy
  · intro old member
    rcases (mem_grants kind).1 member with before | ⟨isKernel, rfl⟩
    · exact settled old before
    · rw [arenas_of_kernelObject created isKernel]
      exact carved.settled separated.nested
  · intro old member
    rcases (mem_grants kind).1 member with before | ⟨_, rfl⟩
    · exact separated.granted old before
    · exact ⟨facts.aligned, facts.length, facts.positive⟩
  · intro mid descriptor there
    obtain ⟨rootApart, apart⟩ := separated.devices mid descriptor
      ((mmioRegion_of_creates created mid).symm.trans there)
    exact ⟨rootApart, fun other arena => apart_of_creates present facts created apart⟩
  · exact fun other arena => apart_of_creates present facts created separated.root
  · intro mapping held
    obtain ⟨length, aligned, start⟩ := separated.mapped mapping (maps_of_creates created held)
    exact ⟨length, aligned, startsAt_of_creates present facts created newPages start⟩
  · intro mapping held old member
    rcases (mem_grants kind).1 member with before | ⟨isKernel, rfl⟩
    · exact separated.apart mapping (maps_of_creates created held) old before
    · exact separated.mapped_apart_grant present facts (free isKernel)
        (maps_of_creates created held)
  · intro asId space there
    rcases created.addrSpaces.cases_of_some there with old | ⟨_, isTable, root, page, rfl⟩
    · refine (separated.roots asId space old).imp_right fun ⟨held, member, inside⟩ => ?_
      exact ⟨held, (mem_grants kind).2 (Or.inl member), inside⟩
    · refine Or.inr ⟨grant, (mem_grants kind).2 (Or.inr ⟨?_, rfl⟩), page⟩
      rw [isTable]
      rfl

end Retype

end Separated

/-! ## One step -/

/-- A syscall that leaves first pages alone keeps mapped frames and reservations
apart. -/
theorem Effect.separated {caller : ThreadId} {nowNs bootRoot : Nat}
    {before after : KernelState} {op : SyscallOp} {next : Option ThreadId}
    {grants : List RetypeGrant} (effect : Effect caller nowNs before op next after)
    (separated : Separated bootRoot grants before)
    (free : before.firstPageFree grants (.syscall caller op nowNs) = true) :
    Separated bootRoot (before.recordGrant (.syscall caller op nowNs) grants) after := by
  cases op with
  | retype untyped targetType count =>
      rcases effect.retype_cases with ⟨idle, rfl⟩ |
        ⟨csId, uid, region, grant, later, holds, present, reserved, reserves, created, newPages⟩
      · simpa [recordGrant, idle] using separated
      · have untouched : targetType.isKernelObject = true → region.watermark = 0 →
            before.mapsPage region.base = false := by
          intro isKernel watermark
          simpa [firstPageFree, isKernel, holds.untypedAt, present, watermark] using free
        have recorded := separated.retype present reserved created newPages untouched
        simpa [recordGrant, reserves] using recorded
  | map pageTable frame vaddr perms =>
      refine separated.map effect fun phys found grant member => ?_
      have elsewhere := free
      simp only [firstPageFree, found, Option.all_some, List.all_eq_true] at elsewhere
      simpa using elsewhere grant member
  | _ =>
      have same := effect.sameMemory (by simp) (by simp)
      exact separated.congr same.untyped same.addrSpaces same.mmioRegions

/-- A reservation meets the page at which it starts. -/
theorem not_apart_start {mapping : Mapping} {grant : RetypeGrant}
    (length : mapping.len = pageSize) (granted : grant.physLen = pageSize * grant.count)
    (positive : grant.count ≠ 0) (start : grant.physBase = mapping.paddr) :
    ¬ mapping.frame.Apart grant.span := by
  have large : 0 < grant.physLen := by
    rw [granted]
    exact Nat.mul_pos (by decide) (Nat.pos_of_ne_zero positive)
  have page : 0 < pageSize := by decide
  unfold Span.Apart Mapping.frame RetypeGrant.span
  simp only
  omega

/-- A syscall that uses a first page twice and goes through brings a mapped frame and a
reservation together. -/
theorem Effect.collides {caller : ThreadId} {nowNs bootRoot : Nat}
    {before after : KernelState} {op : SyscallOp} {next : Option ThreadId}
    {grants : List RetypeGrant} (effect : Effect caller nowNs before op next after)
    (separated : Separated bootRoot grants before)
    (used : before.firstPageFree grants (.syscall caller op nowNs) = false)
    (through : before.goesThrough after (.syscall caller op nowNs) = true) :
    ∃ mapping, after.Maps mapping ∧
      ∃ grant ∈ before.recordGrant (.syscall caller op nowNs) grants,
        ¬ mapping.frame.Apart grant.span := by
  cases op with
  | retype untyped targetType count =>
      rcases effect.retype_cases with ⟨idle, _⟩ |
        ⟨csId, uid, region, grant, later, holds, present, reserved, reserves, created, _⟩
      · simp [goesThrough, idle] at through
      · obtain ⟨kind, _, facts⟩ := UntypedMemory.retype_ok reserved
        have twice : targetType.isKernelObject = true ∧ region.watermark = 0 ∧
            before.mapsPage region.base = true := by
          simpa [firstPageFree, holds.untypedAt, present] using used
        obtain ⟨isKernel, watermark, mapped⟩ := twice
        obtain ⟨mapping, ⟨asId, space, there, member⟩, here⟩ := mapsPage_iff.1 mapped
        obtain ⟨length, aligned, _⟩ :=
          separated.mapped mapping ⟨asId, space, there, member⟩
        have kept : after.addrSpaces.get? asId = some space :=
          created.addrSpaces.get?_of_some there
        have above := facts.above
        have close := facts.close
        rw [watermark] at above close
        have start : grant.physBase = mapping.paddr :=
          Nat.le_antisymm
            (Nat.le_of_lt_add_of_dvd (by omega) facts.aligned aligned)
            (by omega)
        refine ⟨mapping, ⟨asId, space, kept, member⟩, grant, ?_,
          not_apart_start length facts.length facts.positive start⟩
        simp [recordGrant, reserves, kind, isKernel]
  | map pageTable frame vaddr perms =>
      obtain ⟨phys, found, mapped⟩ : ∃ phys, before.frameAt caller frame = some phys ∧
          after.mapsPage phys = true := by
        simpa [goesThrough, Option.any_eq_true] using through
      obtain ⟨grant, member, start⟩ : ∃ grant ∈ grants, grant.physBase = phys := by
        simpa [firstPageFree, found] using used
      obtain ⟨mapping, held, here⟩ := mapsPage_iff.1 mapped
      obtain ⟨_, granted, positive⟩ := separated.granted grant member
      refine ⟨mapping, held, grant, member,
        not_apart_start ?_ granted positive (start.trans here.symm)⟩
      exact effect.map_len (fun old there => (separated.mapped old there).1) held
  | _ => simp [firstPageFree] at used

/-- The first kernel state. -/
theorem LaidOut.separated {boot : BootInfo} {state : KernelState} (sane : boot.Sane)
    (laidOut : LaidOut boot state) : Separated boot.initialPageTablePhys [] state := by
  have spans : ∀ uid arena, state.arenas uid = some arena → ∃ fragment ∈ boot.fragments,
      arena = (fragmentRegion fragment).arena ∧ arena.span = fragmentSpan fragment := by
    intro uid arena there
    obtain ⟨region, present, rfl⟩ := Option.map_eq_some_iff.1 there
    obtain ⟨fragment, member, rfl⟩ := laidOut.regions uid region present
    have large := le_of_mem_fragments member
    exact ⟨fragment, member, rfl, fragmentRegion_span (by omega)⟩
  have unmapped : ∀ mapping, ¬ state.Maps mapping := by
    rintro mapping ⟨asId, space, present, member⟩
    rw [laidOut.roots asId space present] at member
    simp [AddressSpace.new, Slab.mem_objects] at member
  constructor
  · constructor
    · intro uid arena there
      obtain ⟨fragment, _, rfl, _⟩ := spans uid arena there
      exact ⟨Nat.le_refl _, Nat.le_add_right ..⟩
    · intro i j a b ne iThere jThere
      obtain ⟨first, iPresent, rfl⟩ := Option.map_eq_some_iff.1 iThere
      obtain ⟨second, jPresent, rfl⟩ := Option.map_eq_some_iff.1 jThere
      exact Or.inl (laidOut.apart i j first second ne iPresent jPresent)
  · intro uid arena there
    obtain ⟨fragment, member, _, same⟩ := spans uid arena there
    have start : arena.start = fragment.1 := congrArg Span.start same
    have stop : arena.stop = fragment.2 := congrArg Span.stop same
    rw [start, stop]
    exact le_of_mem_fragments member
  · simp
  · simp
  · intro mid descriptor there
    obtain ⟨device, listed, base⟩ := laidOut.devices mid descriptor there
    rw [base]
    refine ⟨sane.rootDevices device listed, fun uid arena present => ?_⟩
    obtain ⟨fragment, member, _, same⟩ := spans uid arena present
    exact same ▸ sane.devices device listed fragment member
  · intro uid arena present
    obtain ⟨fragment, member, _, same⟩ := spans uid arena present
    exact same ▸ sane.root fragment member
  · exact fun mapping held => absurd held (unmapped mapping)
  · exact fun mapping held => absurd held (unmapped mapping)
  · intro asId space present
    exact Or.inl (by rw [laidOut.roots asId space present]; rfl)

end KernelState

/-! ## Runs -/

namespace Machine

variable {μ : Type} (hal : HalInterface μ)

/-- Machines with the history of what was reserved for kernel objects. -/
def reservations : TransitionSystem (Machine μ × List RetypeGrant) KernelEvent :=
  (system hal).recording
    (fun before event _ grants => before.kernel.recordGrant event grants) []

theorem step_separated {bootRoot : Nat} {before after : Machine μ × List RetypeGrant}
    {event : KernelEvent}
    (separated : KernelState.Separated bootRoot before.2 before.1.kernel)
    (free : before.1.kernel.firstPageFree before.2 event = true)
    (taken : (reservations hal).Step before event after) :
    KernelState.Separated bootRoot after.2 after.1.kernel := by
  obtain ⟨step, history⟩ := taken
  have moves := step_moves hal step
  rw [history]
  generalize after.1.kernel = final at moves
  cases moves with
  | ticked chosen => exact separated.congr rfl rfl rfl
  | @called caller op nowNs next kernel effect =>
      have later := effect.separated separated free
      cases next with
      | none => exact later
      | some next => exact later.congr rfl rfl rfl
  | @started _ tid entry priority nowNs isStart =>
      have same := KernelState.sameMemory_updateTcb tid
        (fun tcb => { tcb with entry, state := .runnable }) before.1.kernel
      cases event with
      | syscall caller op nowNs => simp [KernelEvent.starts] at isStart
      | _ => exact separated.congr same.untyped same.addrSpaces same.mmioRegions
  | @killed _ tid nowNs sched isKill chosen =>
      have same := KernelState.sameMemory_updateTcb tid
        (fun tcb => { tcb with state := .exited }) before.1.kernel
      cases event with
      | syscall caller op nowNs => simp [KernelEvent.kills] at isKill
      | _ => exact separated.congr same.untyped same.addrSpaces same.mmioRegions
  | spawned isSpawn spawns =>
      cases event with
      | carve pages => simp [KernelState.firstPageFree] at free
      | spawn kind sizes => simp [KernelState.firstPageFree] at free
      | _ => simp [KernelEvent.spawns] at isSpawn
  | grantedInto chosen => exact separated.congr rfl rfl rfl

/-- The machine booted from this handoff. -/
def BootsFrom (boot : BootInfo) (machine : Machine μ) : Prop :=
  ∃ kernel, KernelState.populateFromBootInfo boot .empty = .ok () kernel ∧
    (machine.kernel = kernel ∨
      ∃ base len, machine.kernel = kernel.installMapPool base len)

theorem BootsFrom.separated {boot : BootInfo} {machine : Machine μ}
    (boots : machine.BootsFrom boot) (sane : boot.Sane) :
    KernelState.Separated boot.initialPageTablePhys [] machine.kernel := by
  obtain ⟨kernel, ran, same⟩ := boots
  have separated := (KernelState.populate_laidOut sane.fragments ran).separated sane
  rcases same with rfl | ⟨base, len, installed⟩
  · exact separated
  · rw [installed]
    exact separated.congr rfl rfl rfl

theorem step_collides {bootRoot : Nat} {before after : Machine μ}
    {event : KernelEvent} {grants : List RetypeGrant}
    (separated : KernelState.Separated bootRoot grants before.kernel)
    (taken : (system hal).Step before event after)
    (used : before.kernel.firstPageFree grants event = false)
    (through : before.kernel.goesThrough after.kernel event = true) :
    ∃ mapping, after.kernel.Maps mapping ∧
      ∃ grant ∈ before.kernel.recordGrant event grants,
        ¬ mapping.frame.Apart grant.span := by
  have moves := step_moves hal taken
  cases event with
  | syscall caller op nowNs =>
      generalize after.kernel = final at moves through
      cases moves with
      | @called _ _ _ next kernel effect =>
          have passed : before.kernel.goesThrough kernel (.syscall caller op nowNs) = true := by
            cases next with
            | none => exact through
            | some next => exact through
          obtain ⟨mapping, held, collision⟩ := effect.collides separated used passed
          cases next with
          | none => exact ⟨mapping, held, collision⟩
          | some next => exact ⟨mapping, held, collision⟩
      | started isStart => simp [KernelEvent.starts] at isStart
      | killed isKill => simp [KernelEvent.kills] at isKill
      | spawned isSpawn => simp [KernelEvent.spawns] at isSpawn
  | carve pages => simp [KernelState.goesThrough] at through
  | spawn kind sizes => simp [KernelState.goesThrough] at through
  | _ => simp [KernelState.firstPageFree] at used

/-- As long as no first page of a region is used twice, no mapped frame meets memory
that was reserved for kernel objects, nor any page-table root.  An event that uses a
first page twice and goes through brings the two together. -/
theorem mapped_frames_unreserved {boot : BootInfo} (sane : boot.Sane) {start : Machine μ}
    (boots : start.BootsFrom boot) {machine : Machine μ} {grants : List RetypeGrant}
    (run : (reservations hal).Reaches
      (fun state event => state.1.kernel.firstPageFree state.2 event = true)
      (start, []) (machine, grants)) :
    (∀ mapping, machine.kernel.Maps mapping →
      (∀ grant ∈ grants, mapping.frame.Apart grant.span) ∧
        ∀ asId space, machine.kernel.addrSpaces.get? asId = some space →
          mapping.frame.Apart (pageSpan space.rootPhys)) ∧
      ∀ event after, (reservations hal).Step (machine, grants) event after →
        machine.kernel.firstPageFree grants event = false →
        machine.kernel.goesThrough after.1.kernel event = true →
        ∃ mapping, after.1.kernel.Maps mapping ∧
          ∃ grant ∈ after.2, ¬ mapping.frame.Apart grant.span := by
  have separated : KernelState.Separated boot.initialPageTablePhys grants machine.kernel := by
    let invariant (state : Machine μ × List RetypeGrant) : Prop :=
      KernelState.Separated boot.initialPageTablePhys state.2 state.1.kernel
    have initially : invariant (start, []) := boots.separated sane
    exact run.invariant initially
      fun before event after free holds taken => step_separated hal holds free taken
  refine ⟨fun mapping held => ⟨separated.apart mapping held,
    fun asId space present => separated.apart_root held present⟩, ?_⟩
  intro event after taken used through
  obtain ⟨step, history⟩ := taken
  rw [history]
  exact step_collides hal separated step used through

/-! ## Two runs -/

/-- The machine and its history after the events. -/
def reservedAfter (admits : Machine Unit × List RetypeGrant → KernelEvent → Bool)
    (events : List KernelEvent) : Option (Machine Unit × List RetypeGrant) :=
  TransitionSystem.runWhile
    (TransitionSystem.nextRecorded (next sampleHal)
      fun before event _ grants => before.kernel.recordGrant event grants)
    admits events (sampleMachine, [])

theorem reaches_reservedAfter
    {admits : Machine Unit × List RetypeGrant → KernelEvent → Bool}
    {events : List KernelEvent} {state : Machine Unit × List RetypeGrant}
    (ran : reservedAfter admits events = some state) :
    (reservations sampleHal).Reaches (fun state event => admits state event = true)
      (sampleMachine, []) state :=
  (TransitionSystem.Reaches.refl (sampleMachine, [])).runWhile
    (fun _ _ _ taken => TransitionSystem.step_of_nextRecorded (fun _ _ _ => id) taken) ran

theorem sampleMachine_bootsFrom : sampleMachine.BootsFrom sampleBoot := by
  have succeeded :
      (KernelState.populateFromBootInfo sampleBoot .empty).value? = some () := by
    decide +kernel
  obtain ⟨state, ran⟩ := Outcome.eq_ok_of_value? succeeded
  refine ⟨state, ran, Or.inl ?_⟩
  rw [sampleMachine, sampleKernel, ran]
  rfl

theorem sampleBoot_sane : sampleBoot.Sane where
  fragments := by decide +kernel
  devices := by simp [sampleBoot]
  root := by decide +kernel
  rootDevices := by simp [sampleBoot]

/-- The root task makes an endpoint, then untyped memory, and maps the second. -/
def mapChild : List KernelEvent :=
  [ .syscall 0 (.retype 0 .endpoint 1) 1,
    .syscall 0 (.retype 0 .untyped 1) 2,
    .syscall 0 (.map 1 3 0x400000 ⟨true, true, false, false⟩) 3 ]

theorem mapped_frames_unreserved_sample :
    ∃ machine grants, reservedAfter
        (fun state event => state.1.kernel.firstPageFree state.2 event) mapChild =
        some (machine, grants) ∧
      grants.length = 1 ∧ machine.kernel.mapsPage 0x1001000 = true ∧
      ∀ mapping, machine.kernel.Maps mapping →
        ∀ grant ∈ grants, mapping.frame.Apart grant.span := by
  have ran : (reservedAfter
      (fun state event => state.1.kernel.firstPageFree state.2 event) mapChild).any
        (fun state => state.2.length = 1 ∧ state.1.kernel.mapsPage 0x1001000 = true) := by
    decide +kernel
  obtain ⟨⟨machine, grants⟩, reached, facts⟩ := (Option.any_eq_true _ _).1 ran
  obtain ⟨length, mapped⟩ := of_decide_eq_true facts
  obtain ⟨unreserved, _⟩ := mapped_frames_unreserved sampleHal sampleBoot_sane
    sampleMachine_bootsFrom (reaches_reservedAfter reached)
  exact ⟨machine, grants, reached, length, mapped,
    fun mapping held => (unreserved mapping held).1⟩

/-- The root task makes a page table and maps the page of its root. -/
theorem map_reaches_pageTable :
    ¬ ∀ machine grants,
      (reservations sampleHal).Reaches TransitionSystem.anyStep (sampleMachine, [])
        (machine, grants) →
      ∀ mapping, machine.kernel.Maps mapping →
        (∀ grant ∈ grants, mapping.frame.Apart grant.span) ∧
          ∀ asId space, machine.kernel.addrSpaces.get? asId = some space →
            mapping.frame.Apart (pageSpan space.rootPhys) := by
  intro claimed
  have ran : (reservedAfter (fun _ _ => true)
      [ .syscall 0 (.retype 0 .pageTable 1) 1,
        .syscall 0 (.map 1 0 0x400000 ⟨true, true, false, false⟩) 2 ]).any (fun state =>
          ((state.1.kernel.addrSpaces.get? 0).any fun space =>
            space.mappings.objects.any fun mapping =>
              mapping.paddr = 0x1000000 ∧ mapping.len = pageSize) ∧
            (state.1.kernel.addrSpaces.get? 1).any fun space =>
              space.rootPhys = 0x1000000) := by
    decide +kernel
  obtain ⟨⟨machine, grants⟩, reached, facts⟩ := (Option.any_eq_true _ _).1 ran
  obtain ⟨mapped, created⟩ := of_decide_eq_true facts
  obtain ⟨rootSpace, there, found⟩ := (Option.any_eq_true _ _).1 mapped
  obtain ⟨mapping, member, here⟩ := List.any_eq_true.1 found
  obtain ⟨paddr, length⟩ := of_decide_eq_true here
  obtain ⟨space, present, root⟩ := (Option.any_eq_true _ _).1 created
  have run := (reaches_reservedAfter reached).mono fun _ _ _ => trivial
  have apart := (claimed machine grants run mapping ⟨0, rootSpace, there, member⟩).2
    1 space present
  rw [of_decide_eq_true root, Mapping.frame, paddr, length] at apart
  simp [Span.Apart, pageSpan, pageSize] at apart

end Machine

end Simurgh
