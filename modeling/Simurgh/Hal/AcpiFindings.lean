import Simurgh.Hal.AcpiWalks

/-!
# What the walks over the ACPI tables find

The walk for the IOMMU stops at the first table with the signature, the one for configuration
space looks into the first such table only, and the one for the interrupt distributor keeps what
it found in the last such table.
-/

namespace Simurgh

section Kinds

variable (mem : ByteMemory) (table : Nat)

def isDmar : Bool := sdtSignature mem table == dmarSignature

def isMcfg : Bool := sdtSignature mem table == mcfgSignature

def isMadt : Bool := sdtSignature mem table == madtSignature

/-- Where the first allocation of a configuration space table starts. -/
def allocationOffset : Nat := sizeOfSdtHeader + 8

/-- There is room for an allocation. -/
def HasAllocation : Prop := allocationOffset + sizeOfMcfgAllocation ≤ sdtLength mem table

instance : Decidable (HasAllocation mem table) := Nat.decLe _ _

def allocationBase : Nat := mem.readNat (table + allocationOffset) 8

/-- The ends of the table and of its first allocation are in the machine word. -/
structure SumsFit : Prop where
  allocation : table + allocationOffset + sizeOfMcfgAllocation < 2 ^ 64
  table : table + sdtLength mem table < 2 ^ 64

def firstEntryOffset : Nat := sizeOfSdtHeader + madtFixedFieldsSize

/-- The entries of an interrupt table that the loop comes to are inside. -/
def MadtInside : Prop :=
  ∀ offset, Relation.ReflTransGen (PassedBy mem table (sdtLength mem table)) firstEntryOffset
      offset →
    offset < sdtLength mem table → MadtEntryInside mem table (sdtLength mem table) offset

/-- A distributor entry of a table. -/
def Distributor (offset : Nat) : Prop :=
  DistributorAt mem table (sdtLength mem table) firstEntryOffset offset

end Kinds

variable {mem : ByteMemory} {rsdp : Nat}

/-! ## The walks that look for a table -/

/-- A walk that ends at the first table of a kind. -/
theorem forTables_find_eq_ok {ρ : Type}
    {visit : Nat → AcpiSdtHeader → Unit → Checked (Iteration Unit ρ)} {ends : Nat → Bool}
    {fits : Nat → Prop} {result : Nat → ρ} {out : Iteration Unit ρ}
    (visits : ∀ table state out, HeaderInside mem table →
      (visit table (headerOf mem table) state = .ok out ↔
        fits table ∧ (if ends table then .done (result table) else .again state) = out)) :
    forTables mem rsdp visit () = .ok out ↔
      WalkFits mem rsdp ends fits ∧
        ((acpiTables mem rsdp).find? ends).elim (.again ()) (fun table => .done (result table)) =
          out := by
  have dones : ∀ table (state : Unit), (∃ found : ρ,
      (if ends table then Iteration.done (result table) else .again state) = .done found) ↔
        ends table = true := by
    intro table state
    by_cases stops : ends table = true
    · rw [if_pos stops]
      exact iff_of_true ⟨_, rfl⟩ stops
    · rw [if_neg stops]
      exact iff_of_false (fun ⟨_, found⟩ => nomatch found) stops
  rw [forTables_eq_ok_iff visits dones, ListLoop.runPure_find?]

theorem acpiDmarPresent_eq_ok {present : Bool} :
    acpiDmarPresent mem rsdp = .ok present ↔
      WalkFits mem rsdp (isDmar mem) (fun _ => True) ∧
        ((acpiTables mem rsdp).find? (isDmar mem)).isSome = present := by
  have visits : ∀ table state out, HeaderInside mem table →
      (visitForDmar table (headerOf mem table) state = .ok out ↔
        True ∧ (if isDmar mem table then .done true else .again state) = out) := by
    intro table state out _
    rw [true_and]
    by_cases same : sdtSignature mem table = dmarSignature
    · rw [visitForDmar, headerOf_signature, if_pos same, isDmar, if_pos (beq_iff_eq.2 same)]
      exact ⟨Except.ok.inj, congrArg Except.ok⟩
    · rw [visitForDmar, headerOf_signature, if_neg same, isDmar,
        if_neg fun equal => same (beq_iff_eq.1 equal)]
      exact ⟨Except.ok.inj, congrArg Except.ok⟩
  rw [acpiDmarPresent, Checked.bind_eq_ok]
  constructor
  · rintro ⟨out, ran, same⟩
    obtain ⟨fits, rfl⟩ := (forTables_find_eq_ok visits).1 ran
    refine ⟨fits, ?_⟩
    cases found : (acpiTables mem rsdp).find? (isDmar mem) with
    | none =>
        rw [found] at same
        exact Except.ok.inj same
    | some table =>
        rw [found] at same
        exact Except.ok.inj same
  · rintro ⟨fits, rfl⟩
    refine ⟨_, (forTables_find_eq_ok visits).2 ⟨fits, rfl⟩, ?_⟩
    cases (acpiTables mem rsdp).find? (isDmar mem) <;> rfl

/-- What the first allocation of a table says. -/
def allocationOf (mem : ByteMemory) (table : Nat) : Option Nat :=
  if HasAllocation mem table then some (allocationBase mem table) else none

theorem firstAllocation_eq_ok {table : Nat} {base : Option Nat} :
    firstAllocation mem table (headerOf mem table) = .ok base ↔
      SumsFit mem table ∧ allocationOf mem table = base := by
  rw [firstAllocation, Checked.bind_eq_ok]
  have first : table + sizeOfSdtHeader + 8 = table + allocationOffset := Nat.add_assoc _ _ _
  constructor
  · rintro ⟨body, added, rest⟩
    obtain ⟨_, rfl⟩ := Checked.add_eq_ok.1 added
    obtain ⟨firstEntryAddr, added, rest⟩ := Checked.bind_eq_ok.1 rest
    obtain ⟨_, rfl⟩ := Checked.add_eq_ok.1 added
    obtain ⟨tableEnd, added, rest⟩ := Checked.bind_eq_ok.1 rest
    obtain ⟨tableFits, rfl⟩ := Checked.add_eq_ok.1 added
    obtain ⟨entryEnd, added, rest⟩ := Checked.bind_eq_ok.1 rest
    obtain ⟨entryFits, rfl⟩ := Checked.add_eq_ok.1 added
    rw [first] at entryFits rest
    refine ⟨⟨entryFits, tableFits⟩, ?_⟩
    rw [allocationOf]
    rw [headerOf_length] at rest
    by_cases room : HasAllocation mem table
    · have room' := room
      rw [HasAllocation] at room'
      rw [if_neg (by omega)] at rest
      rw [if_pos room]
      obtain ⟨_, _, same⟩ := Checked.bind_eq_ok.1 rest
      exact Except.ok.inj same
    · have short := room
      rw [HasAllocation] at short
      rw [if_pos (by omega)] at rest
      rw [if_neg room]
      exact Except.ok.inj rest
  · rintro ⟨⟨entryFits, tableFits⟩, same⟩
    rw [allocationOffset] at entryFits
    refine ⟨_, Checked.add_of_lt (by omega), ?_⟩
    rw [Checked.bind_of_ok (Checked.add_of_lt (by omega)), headerOf_length,
      Checked.bind_of_ok (Checked.add_of_lt tableFits),
      Checked.bind_of_ok (Checked.add_of_lt (by omega)), first]
    rw [allocationOf] at same
    by_cases room : HasAllocation mem table
    · have upper : table + allocationOffset + sizeOfMcfgAllocation ≤
          acpiEnd table (sdtLength mem table) := by
        have room' := room
        rw [HasAllocation] at room'
        rw [acpiEnd, Nat.le_min, allocationOffset]
        rw [allocationOffset] at room'
        omega
      rw [if_pos room] at same
      rw [if_neg (by rw [HasAllocation] at room; omega)]
      exact (Checked.bind_of_ok (Checked.readBytes_of_inside (Nat.le_add_right _ _) upper) _).trans
        (congrArg Except.ok same)
    · rw [if_neg room] at same
      rw [if_pos (by rw [HasAllocation] at room; omega)]
      exact congrArg Except.ok same

theorem acpiMcfgEcamBase_eq_ok {base : Option Nat} :
    acpiMcfgEcamBase mem rsdp = .ok base ↔
      WalkFits mem rsdp (isMcfg mem) (fun table => isMcfg mem table → SumsFit mem table) ∧
        ((acpiTables mem rsdp).find? (isMcfg mem)).bind (allocationOf mem) = base := by
  have visits : ∀ table state out, HeaderInside mem table →
      (visitForMcfg mem table (headerOf mem table) state = .ok out ↔
        (isMcfg mem table → SumsFit mem table) ∧
          (if isMcfg mem table then .done (allocationOf mem table) else .again state) = out) := by
    intro table state out _
    by_cases same : sdtSignature mem table = mcfgSignature
    · have kind : isMcfg mem table = true := beq_iff_eq.2 same
      rw [visitForMcfg, headerOf_signature, if_neg (not_not_intro same), if_pos kind,
        Checked.bind_eq_ok]
      constructor
      · rintro ⟨base, ran, done⟩
        obtain ⟨fits, rfl⟩ := firstAllocation_eq_ok.1 ran
        exact ⟨fun _ => fits, Except.ok.inj done⟩
      · rintro ⟨fits, done⟩
        exact ⟨_, firstAllocation_eq_ok.2 ⟨fits kind, rfl⟩, congrArg Except.ok done⟩
    · have kind : ¬ isMcfg mem table = true := fun equal => same (beq_iff_eq.1 equal)
      rw [visitForMcfg, headerOf_signature, if_pos same, if_neg kind]
      constructor
      · intro goes
        exact ⟨fun yes => absurd yes kind, Except.ok.inj goes⟩
      · exact fun both => congrArg Except.ok both.2
  rw [acpiMcfgEcamBase, Checked.bind_eq_ok]
  constructor
  · rintro ⟨out, ran, same⟩
    obtain ⟨fits, rfl⟩ := (forTables_find_eq_ok visits).1 ran
    refine ⟨fits, ?_⟩
    cases found : (acpiTables mem rsdp).find? (isMcfg mem) with
    | none =>
        rw [found] at same
        exact Except.ok.inj same
    | some table =>
        rw [found] at same
        exact Except.ok.inj same
  · rintro ⟨fits, rfl⟩
    refine ⟨_, (forTables_find_eq_ok visits).2 ⟨fits, rfl⟩, ?_⟩
    cases (acpiTables mem rsdp).find? (isMcfg mem) <;> rfl

/-! ## The interrupt distributor -/

/-- What the loop over the entries of a table returns. -/
def distributorOf (mem : ByteMemory) (table : Nat) : Option Nat :=
  (findGicdInMadt mem table (sdtLength mem table)).toOption.join

theorem findGicdInMadt_eq_ok {table : Nat} {found : Option Nat} :
    findGicdInMadt mem table (sdtLength mem table) = .ok found ↔
      MadtInside mem table ∧ distributorOf mem table = found := by
  have completes : (∃ found, findGicdInMadt mem table (sdtLength mem table) = .ok found) ↔
      MadtInside mem table := findGicdFrom_completes_iff
  constructor
  · intro ran
    refine ⟨completes.1 ⟨found, ran⟩, ?_⟩
    rw [distributorOf, ran]
    rfl
  · rintro ⟨inside, rfl⟩
    obtain ⟨found, ran⟩ := completes.2 inside
    rw [distributorOf, ran]
    rfl

theorem distributorOf_of_mem {table offset : Nat} (inside : MadtInside mem table)
    (distributor : Distributor mem table offset) :
    ∃ other, Distributor mem table other ∧
      distributorOf mem table = some (entryBase mem table other) := by
  have ran := findGicdInMadt_eq_ok.2 ⟨inside, rfl⟩
  obtain ⟨base, same⟩ := findGicdFrom_isSome distributor ran
  rw [same] at ran
  obtain ⟨other, found, isBase⟩ := distributor_of_findGicdFrom ran
  refine ⟨other, found, ?_⟩
  rw [same, isBase]

theorem distributor_of_distributorOf {table base : Nat}
    (found : distributorOf mem table = some base) : ∃ offset, Distributor mem table offset := by
  rw [distributorOf, Option.join_eq_some_iff] at found
  cases ran : findGicdInMadt mem table (sdtLength mem table) with
  | error fault =>
      rw [ran] at found
      cases found
  | ok other =>
      rw [ran] at found
      rw [Option.some.inj found] at ran
      obtain ⟨offset, distributor, _⟩ := distributor_of_findGicdFrom ran
      exact ⟨offset, distributor⟩

/-- What a table adds to the result. -/
def AcpiDiscoveryResult.note (mem : ByteMemory) (result : AcpiDiscoveryResult) (table : Nat) :
    AcpiDiscoveryResult :=
  if isMadt mem table then { result with gicdBase := distributorOf mem table }
  else if sdtSignature mem table = iortSignature then { result with smmuPresent := true }
  else result

theorem acpiDiscover_eq_ok {result : AcpiDiscoveryResult} :
    acpiDiscover mem rsdp = .ok result ↔
      WalkFits mem rsdp (fun _ => false) (fun table => isMadt mem table → MadtInside mem table) ∧
        (acpiTables mem rsdp).foldl (.note mem) .default = result := by
  have visits : ∀ table state out, HeaderInside mem table →
      (visitForDiscovery mem table (headerOf mem table) state = .ok out ↔
        (isMadt mem table → MadtInside mem table) ∧
          .again (AcpiDiscoveryResult.note mem state table) = out) := by
    intro table state out _
    rw [AcpiDiscoveryResult.note]
    by_cases same : sdtSignature mem table = madtSignature
    · have kind : isMadt mem table = true := beq_iff_eq.2 same
      rw [visitForDiscovery, headerOf_signature, if_pos same, if_pos kind, Checked.bind_eq_ok]
      constructor
      · rintro ⟨found, ran, again⟩
        obtain ⟨inside, rfl⟩ := findGicdInMadt_eq_ok.1 ran
        exact ⟨fun _ => inside, Except.ok.inj again⟩
      · rintro ⟨inside, again⟩
        exact ⟨_, findGicdInMadt_eq_ok.2 ⟨inside kind, rfl⟩, congrArg Except.ok again⟩
    · have kind : ¬ isMadt mem table = true := fun equal => same (beq_iff_eq.1 equal)
      have vacuous : isMadt mem table → MadtInside mem table := fun yes => absurd yes kind
      rw [visitForDiscovery, headerOf_signature, if_neg same, if_neg kind, and_iff_right vacuous]
      by_cases iort : sdtSignature mem table = iortSignature
      · rw [if_pos iort, if_pos iort]
        exact ⟨Except.ok.inj, congrArg Except.ok⟩
      · rw [if_neg iort, if_neg iort]
        exact ⟨Except.ok.inj, congrArg Except.ok⟩
  have dones : ∀ table (state : AcpiDiscoveryResult),
      (∃ result : Empty, Iteration.again (state.note mem table) = .done result) ↔
        false = true := by
    intro table state
    exact iff_of_false (fun ⟨_, found⟩ => nomatch found) Bool.false_ne_true
  rw [acpiDiscover, Checked.bind_eq_ok]
  constructor
  · rintro ⟨out, ran, same⟩
    obtain ⟨fits, rfl⟩ := (forTables_eq_ok_iff visits dones _ _).1 ran
    rw [ListLoop.runPure_foldl] at same
    exact ⟨fits, Except.ok.inj same⟩
  · rintro ⟨fits, rfl⟩
    refine ⟨_, (forTables_eq_ok_iff visits dones _ _).2 ⟨fits, rfl⟩, ?_⟩
    rw [ListLoop.runPure_foldl]
    rfl

/-- The last interrupt table decides. -/
theorem gicdBase_foldl_note (tables : List Nat) (result : AcpiDiscoveryResult) :
    (tables.foldl (.note mem) result).gicdBase =
      (tables.reverse.find? (isMadt mem)).elim result.gicdBase (distributorOf mem) := by
  induction tables generalizing result with
  | nil => rfl
  | cons table tables ih =>
      rw [List.foldl_cons, ih, List.reverse_cons, List.find?_append]
      cases (tables.reverse.find? (isMadt mem)) with
      | some last => rfl
      | none =>
          rw [Option.none_or, AcpiDiscoveryResult.note]
          by_cases kind : isMadt mem table = true
          · rw [if_pos kind, List.find?_cons_of_pos kind]
            rfl
          · rw [if_neg kind, List.find?_cons_of_neg kind]
            split <;> rfl

end Simurgh
