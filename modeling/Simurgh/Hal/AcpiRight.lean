import Simurgh.Hal.AcpiFindings

/-!
# When the walks over the ACPI tables are right

A walk is right if it goes wrong in nothing, and if it finds what well-formed tables contain.
-/

namespace Simurgh

section Right

variable (mem : ByteMemory) (rsdp : Nat)

/-- The entries of an interrupt table follow one another up to its end. -/
structure MadtWellFormed (table : Nat) : Prop where
  fixed : firstEntryOffset ≤ sdtLength mem table
  entries : ∀ offset,
    Relation.ReflTransGen (FollowedBy mem table (sdtLength mem table)) firstEntryOffset offset →
      offset < sdtLength mem table →
        2 ≤ entryLength mem table offset ∧
          offset + entryLength mem table offset ≤ sdtLength mem table ∧
            (entryType mem table offset = madtGicDistributorType →
              sizeOfMadtGicDistributorEntry ≤ entryLength mem table offset)

/-- All the lengths are what the formats of the tables say. -/
structure AcpiWellFormed : Prop where
  root : rsdp ≠ 0 → 36 ≤ rsdpLength mem rsdp ∧ rsdp + rsdpLength mem rsdp < 2 ^ 64
  xsdt : ∀ xsdt, xsdtOf mem rsdp = some xsdt →
    sizeOfSdtHeader ≤ sdtLength mem xsdt ∧ (sdtLength mem xsdt - sizeOfSdtHeader) % 8 = 0 ∧
      xsdt + sdtLength mem xsdt < 2 ^ 64
  headers : ∀ table ∈ acpiTables mem rsdp,
    sizeOfSdtHeader ≤ sdtLength mem table ∧ table + sdtLength mem table < 2 ^ 64
  mcfg : ∀ table ∈ acpiTables mem rsdp, isMcfg mem table →
    allocationOffset ≤ sdtLength mem table ∧
      (sdtLength mem table - allocationOffset) % sizeOfMcfgAllocation = 0
  madt : ∀ table ∈ acpiTables mem rsdp, isMadt mem table → MadtWellFormed mem table

def DmarRight : Prop := ∃ present, acpiDmarPresent mem rsdp = .ok present

/-- A table for configuration space with an allocation. -/
structure McfgTable (table : Nat) : Prop where
  member : table ∈ acpiTables mem rsdp
  kind : isMcfg mem table
  allocation : HasAllocation mem table

def McfgRight : Prop :=
  ∃ base, acpiMcfgEcamBase mem rsdp = .ok base ∧
    (AcpiWellFormed mem rsdp → (∃ table, McfgTable mem rsdp table) →
      ∃ table, McfgTable mem rsdp table ∧ base = some (allocationBase mem table))

/-- A distributor entry in one of the tables. -/
structure GicDistributor (table offset : Nat) : Prop where
  member : table ∈ acpiTables mem rsdp
  kind : isMadt mem table
  entry : Distributor mem table offset

def DiscoverRight : Prop :=
  ∃ result, acpiDiscover mem rsdp = .ok result ∧
    (AcpiWellFormed mem rsdp → (∃ table offset, GicDistributor mem rsdp table offset) →
      ∃ table offset, GicDistributor mem rsdp table offset ∧
        result.gicdBase = some (entryBase mem table offset))

structure AcpiWalksRight : Prop where
  dmar : DmarRight mem rsdp
  mcfg : McfgRight mem rsdp
  discover : DiscoverRight mem rsdp

/-- What each of the walks visits is inside.  Of several tables with one signature, the first for
configuration space has an allocation, and the last for interrupts has a distributor. -/
structure AcpiInOrder : Prop where
  dmar : WalkFits mem rsdp (isDmar mem) (fun _ => True)
  mcfg : WalkFits mem rsdp (isMcfg mem) (fun table => isMcfg mem table → SumsFit mem table)
  firstMcfg : AcpiWellFormed mem rsdp → (∃ table, McfgTable mem rsdp table) →
    ∃ first, (acpiTables mem rsdp).find? (isMcfg mem) = some first ∧ HasAllocation mem first
  discover : WalkFits mem rsdp (fun _ => false)
    (fun table => isMadt mem table → MadtInside mem table)
  lastMadt : AcpiWellFormed mem rsdp → (∃ table offset, GicDistributor mem rsdp table offset) →
    ∃ last offset, (acpiTables mem rsdp).reverse.find? (isMadt mem) = some last ∧
      Distributor mem last offset

end Right

variable {mem : ByteMemory} {rsdp : Nat}

theorem mcfgRight_iff :
    McfgRight mem rsdp ↔
      WalkFits mem rsdp (isMcfg mem) (fun table => isMcfg mem table → SumsFit mem table) ∧
        (AcpiWellFormed mem rsdp → (∃ table, McfgTable mem rsdp table) →
          ∃ first, (acpiTables mem rsdp).find? (isMcfg mem) = some first ∧
            HasAllocation mem first) := by
  constructor
  · rintro ⟨base, ran, reports⟩
    obtain ⟨fits, rfl⟩ := acpiMcfgEcamBase_eq_ok.1 ran
    refine ⟨fits, fun wellFormed some => ?_⟩
    obtain ⟨table, _, same⟩ := reports wellFormed some
    obtain ⟨first, found, allocation⟩ := Option.bind_eq_some_iff.1 same
    refine ⟨first, found, ?_⟩
    rw [allocationOf] at allocation
    split at allocation
    · assumption
    · cases allocation
  · rintro ⟨fits, first⟩
    refine ⟨_, acpiMcfgEcamBase_eq_ok.2 ⟨fits, rfl⟩, fun wellFormed some => ?_⟩
    obtain ⟨table, found, allocation⟩ := first wellFormed some
    refine ⟨table, ⟨List.mem_of_find?_eq_some found, List.find?_some found, allocation⟩, ?_⟩
    rw [found, Option.bind_some, allocationOf, if_pos allocation]

/-- A table that the walk for interrupts goes through is inside. -/
theorem WalkFits.of_mem {fits : Nat → Prop} (walk : WalkFits mem rsdp (fun _ => false) fits)
    {table : Nat} (member : table ∈ acpiTables mem rsdp) : fits table := by
  rw [acpiTables] at member
  cases found : xsdtOf mem rsdp with
  | none =>
      rw [found] at member
      cases member
  | some xsdt =>
      rw [found] at member
      obtain ⟨i, inside, rfl⟩ := List.mem_map.1 member
      have all := walk.tables xsdt found i
      rw [ListLoop.visited_of_never] at all
      exact (all inside).2

theorem discoverRight_iff :
    DiscoverRight mem rsdp ↔
      WalkFits mem rsdp (fun _ => false) (fun table => isMadt mem table → MadtInside mem table) ∧
        (AcpiWellFormed mem rsdp → (∃ table offset, GicDistributor mem rsdp table offset) →
          ∃ last offset, (acpiTables mem rsdp).reverse.find? (isMadt mem) = some last ∧
            Distributor mem last offset) := by
  have base : ((acpiTables mem rsdp).foldl (.note mem) AcpiDiscoveryResult.default).gicdBase =
      ((acpiTables mem rsdp).reverse.find? (isMadt mem)).elim none (distributorOf mem) :=
    gicdBase_foldl_note _ _
  constructor
  · rintro ⟨result, ran, reports⟩
    obtain ⟨fits, rfl⟩ := acpiDiscover_eq_ok.1 ran
    refine ⟨fits, fun wellFormed some => ?_⟩
    obtain ⟨table, offset, _, same⟩ := reports wellFormed some
    rw [base] at same
    cases found : (acpiTables mem rsdp).reverse.find? (isMadt mem) with
    | none =>
        rw [found] at same
        cases same
    | some last =>
        rw [found] at same
        obtain ⟨offset, distributor⟩ := distributor_of_distributorOf same
        exact ⟨last, offset, rfl, distributor⟩
  · rintro ⟨fits, last⟩
    refine ⟨_, acpiDiscover_eq_ok.2 ⟨fits, rfl⟩, fun wellFormed some => ?_⟩
    obtain ⟨table, offset, found, distributor⟩ := last wellFormed some
    have member : table ∈ acpiTables mem rsdp :=
      List.mem_reverse.1 (List.mem_of_find?_eq_some found)
    have kind : isMadt mem table = true := List.find?_some found
    obtain ⟨other, entry, same⟩ := distributorOf_of_mem (fits.of_mem member kind) distributor
    refine ⟨table, other, ⟨member, kind, entry⟩, ?_⟩
    rw [base, found]
    exact same

/-! ## Well-formed tables -/

theorem sdtLength_lt (mem : ByteMemory) (table : Nat) : sdtLength mem table < 2 ^ 32 := by
  have bound := Bytes.decode_lt (mem.read (table + 4) 4)
  rw [ByteMemory.length_read] at bound
  exact Nat.lt_of_lt_of_eq bound (by decide)

theorem le_acpiEnd {addr length size : Nat} (long : size ≤ length)
    (fits : addr + length < 2 ^ 64) : addr + size ≤ acpiEnd addr length :=
  Nat.le_min.2 ⟨by omega, by omega⟩

theorem MadtWellFormed.inside {table : Nat} (wellFormed : MadtWellFormed mem table)
    (fits : table + sdtLength mem table < 2 ^ 64) : MadtInside mem table := by
  intro offset reached before
  have entry : Relation.ReflTransGen (FollowedBy mem table (sdtLength mem table))
      firstEntryOffset offset :=
    Relation.ReflTransGen.mono (fun _ _ passes => passes.toFollowedBy) _ _ reached
  obtain ⟨fields, upper, distributor⟩ := wellFormed.entries offset entry before
  have small := sdtLength_lt mem table
  constructor
  · rw [Nat.add_assoc]
    exact le_acpiEnd (by omega) fits
  · intro type
    have long := distributor type
    rw [Nat.add_assoc]
    exact le_acpiEnd (by omega) fits
  · intro next passes
    have behind := passes.behind
    omega

/-- In well-formed tables no walk reads outside, if what it looks into is inside. -/
theorem AcpiWellFormed.walkFits (wellFormed : AcpiWellFormed mem rsdp) {ends : Nat → Bool}
    {fits : Nat → Prop} (each : ∀ table ∈ acpiTables mem rsdp, fits table) :
    WalkFits mem rsdp ends fits := by
  constructor
  · intro valid
    obtain ⟨long, inSpace⟩ := wellFormed.root valid
    exact le_acpiEnd (by omega) inSpace
  · intro xsdt found
    obtain ⟨long, _, inSpace⟩ := wellFormed.xsdt xsdt found
    exact ⟨le_acpiEnd long inSpace, by omega⟩
  · intro xsdt found i visited
    have index := List.mem_range.1 (ListLoop.visited_subset visited)
    have member : xsdtEntry mem xsdt i ∈ acpiTables mem rsdp := by
      rw [acpiTables, found]
      exact List.mem_map_of_mem (List.mem_range.2 index)
    obtain ⟨_, _, inSpace⟩ := wellFormed.xsdt xsdt found
    obtain ⟨long, tableInSpace⟩ := wellFormed.headers _ member
    refine ⟨⟨?_, le_acpiEnd long tableInSpace⟩, each _ member⟩
    rw [xsdtCount] at index
    rw [Nat.add_assoc, Nat.add_assoc]
    exact le_acpiEnd (by omega) inSpace

/-- With one table for interrupts at most, well-formed tables are enough on arm64. -/
theorem AcpiWellFormed.discoverRight (wellFormed : AcpiWellFormed mem rsdp)
    (single : ∀ table ∈ acpiTables mem rsdp, ∀ other ∈ acpiTables mem rsdp,
      isMadt mem table → isMadt mem other → table = other) : DiscoverRight mem rsdp := by
  refine discoverRight_iff.2 ⟨wellFormed.walkFits fun table member kind => ?_, ?_⟩
  · exact (wellFormed.madt table member kind).inside (wellFormed.headers table member).2
  · rintro - ⟨table, offset, distributor⟩
    have some : ((acpiTables mem rsdp).reverse.find? (isMadt mem)).isSome := by
      rw [List.find?_isSome]
      exact ⟨table, List.mem_reverse.2 distributor.member, distributor.kind⟩
    obtain ⟨last, found⟩ := Option.isSome_iff_exists.1 some
    have member := List.mem_reverse.1 (List.mem_of_find?_eq_some found)
    have same := single table distributor.member last member distributor.kind
      (List.find?_some found)
    refine ⟨last, offset, found, ?_⟩
    rw [← same]
    exact distributor.entry

/-! ## The result -/

/-- The walks are right exactly if the tables are in order. -/
theorem acpi_walks_right_iff (mem : ByteMemory) (rsdp : Nat) :
    AcpiWalksRight mem rsdp ↔ AcpiInOrder mem rsdp := by
  have dmarIff : DmarRight mem rsdp ↔ WalkFits mem rsdp (isDmar mem) (fun _ => True) := by
    constructor
    · rintro ⟨present, ran⟩
      exact (acpiDmarPresent_eq_ok.1 ran).1
    · intro fits
      exact ⟨_, acpiDmarPresent_eq_ok.2 ⟨fits, rfl⟩⟩
  constructor
  · intro right
    obtain ⟨mcfg, firstMcfg⟩ := mcfgRight_iff.1 right.mcfg
    obtain ⟨discover, lastMadt⟩ := discoverRight_iff.1 right.discover
    exact ⟨dmarIff.1 right.dmar, mcfg, firstMcfg, discover, lastMadt⟩
  · intro order
    exact ⟨dmarIff.2 order.dmar, mcfgRight_iff.2 ⟨order.mcfg, order.firstMcfg⟩,
      discoverRight_iff.2 ⟨order.discover, order.lastMadt⟩⟩

/-- The root pointer is at 64, the table of tables at 128, and the only table in it is an
interrupt table at 256 that ends behind the first byte of its first entry. -/
def cutEntryMemory : ByteMemory :=
  let zeros : ByteMemory := fun _ => 0
  let root : ByteMemory := (zeros.writeNat 84 4 36).writeNat 88 8 128
  let xsdt : ByteMemory := (root.writeNat 132 4 44).writeNat 164 8 256
  (xsdt.write 256 madtSignature).writeNat 260 4 45

/-- The length of the entry is read behind the end of the table. -/
theorem cut_entry_read_outside : ¬ ∀ mem rsdp, AcpiWalksRight mem rsdp := by
  intro right
  obtain ⟨result, ran, _⟩ := (right cutEntryMemory 64).discover
  obtain ⟨fits, _⟩ := acpiDiscover_eq_ok.1 ran
  have member : 256 ∈ acpiTables cutEntryMemory 64 := by decide
  have inside : MadtInside cutEntryMemory 256 := fits.of_mem member (by decide)
  have entry := inside firstEntryOffset .refl (by decide)
  have outside : ¬ 256 + firstEntryOffset + 2 ≤
      acpiEnd 256 (sdtLength cutEntryMemory 256) := by decide
  exact outside entry.fields

end Simurgh
