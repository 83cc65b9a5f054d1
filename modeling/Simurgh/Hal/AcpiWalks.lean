import Simurgh.Hal.AcpiMadt

/-!
# What the walks over the ACPI tables need

A walk goes wrong in nothing exactly if the tables it visits are inside: the root pointer, the
table of tables, the headers, and what it looks at behind them.
-/

namespace Simurgh

/-! ## The tables -/

section Tables

variable (mem : ByteMemory) (rsdp : Nat)

/-- Where the table of tables is. -/
def xsdtOf : Option Nat :=
  if rsdp = 0 then none
  else if mem.readNat (rsdp + 24) 8 = 0 then none
  else some (mem.readNat (rsdp + 24) 8)

def xsdtCount (xsdt : Nat) : Nat := (sdtLength mem xsdt - sizeOfSdtHeader) / 8

def xsdtEntry (xsdt i : Nat) : Nat := mem.readNat (xsdt + sizeOfSdtHeader + 8 * i) 8

/-- The tables that the entries lead to. -/
def acpiTables : List Nat :=
  match xsdtOf mem rsdp with
  | none => []
  | some xsdt => (List.range (xsdtCount mem xsdt)).map (xsdtEntry mem xsdt)

/-- A table is long enough for its header. -/
def HeaderInside (table : Nat) : Prop :=
  table + sizeOfSdtHeader ≤ acpiEnd table (sdtLength mem table)

/-- An entry is in the address space, and leads to a table that is long enough for its header. -/
structure TableInside (xsdt i : Nat) : Prop where
  entry : xsdt + sizeOfSdtHeader + 8 * i + 8 ≤ acpiEnd xsdt (sdtLength mem xsdt)
  header : HeaderInside mem (xsdtEntry mem xsdt i)

/-- What a walk reads is inside, if it ends at some tables and looks into them. -/
structure WalkFits (ends : Nat → Bool) (fits : Nat → Prop) : Prop where
  root : rsdp ≠ 0 → rsdp + 32 ≤ acpiEnd rsdp (rsdpLength mem rsdp)
  header : ∀ xsdt, xsdtOf mem rsdp = some xsdt →
    HeaderInside mem xsdt ∧ xsdt + sizeOfSdtHeader < 2 ^ 64
  tables : ∀ xsdt, xsdtOf mem rsdp = some xsdt →
    ∀ i ∈ ListLoop.visited (fun i => ends (xsdtEntry mem xsdt i)) (List.range (xsdtCount mem xsdt)),
      TableInside mem xsdt i ∧ fits (xsdtEntry mem xsdt i)

end Tables

variable {mem : ByteMemory} {rsdp : Nat}

/-- The header of a table, as it is read. -/
def headerOf (mem : ByteMemory) (table : Nat) : AcpiSdtHeader where
  signature := sdtSignature mem table
  length := sdtLength mem table

@[simp]
theorem headerOf_signature (table : Nat) :
    (headerOf mem table).signature = sdtSignature mem table := rfl

@[simp]
theorem headerOf_length (table : Nat) : (headerOf mem table).length = sdtLength mem table := rfl

theorem AcpiSdtHeader.read_eq_ok {table : Nat} {header : AcpiSdtHeader} :
    AcpiSdtHeader.read mem table = .ok header ↔
      HeaderInside mem table ∧ headerOf mem table = header := by
  rw [AcpiSdtHeader.read, Checked.bind_eq_ok]
  constructor
  · rintro ⟨raw, ran, same⟩
    obtain ⟨_, upper, _⟩ := Checked.readBytes_eq_ok.1 ran
    exact ⟨upper, Except.ok.inj same⟩
  · rintro ⟨upper, same⟩
    exact ⟨_, Checked.readBytes_of_inside (Nat.le_refl _) upper, congrArg Except.ok same⟩

/-- The table of tables as the walks keep it. -/
def xsdtAt (mem : ByteMemory) (xsdt : Nat) : Xsdt where
  addr := xsdt
  entryCount := xsdtCount mem xsdt
  entriesPtr := xsdt + sizeOfSdtHeader

theorem openXsdt_eq_ok {opened : Option Xsdt} :
    openXsdt mem rsdp = .ok opened ↔
      (rsdp ≠ 0 → rsdp + 32 ≤ acpiEnd rsdp (rsdpLength mem rsdp)) ∧
        (∀ xsdt, xsdtOf mem rsdp = some xsdt →
          HeaderInside mem xsdt ∧ xsdt + sizeOfSdtHeader < 2 ^ 64) ∧
        (xsdtOf mem rsdp).map (xsdtAt mem) = opened := by
  rw [openXsdt, xsdtOf]
  by_cases zero : rsdp = 0
  · rw [if_pos zero, if_pos zero]
    constructor
    · intro same
      exact ⟨fun nonzero => absurd zero nonzero, fun _ absent => (nomatch absent),
        Except.ok.inj same⟩
    · intro all
      exact congrArg Except.ok all.2.2
  · rw [if_neg zero, if_neg zero, Checked.bind_eq_ok]
    have space := acpiEnd_le_space rsdp (rsdpLength mem rsdp)
    constructor
    · rintro ⟨pointer, added, rest⟩
      obtain ⟨_, rfl⟩ := Checked.add_eq_ok.1 added
      obtain ⟨addr, read, rest⟩ := Checked.bind_eq_ok.1 rest
      obtain ⟨_, upper, rfl⟩ := readField_eq_ok.1 read
      refine ⟨fun _ => upper, ?_⟩
      split at rest
      · next null =>
          rw [if_pos null]
          exact ⟨fun _ absent => (nomatch absent), Except.ok.inj rest⟩
      · next valid =>
          rw [if_neg valid]
          obtain ⟨header, read, rest⟩ := Checked.bind_eq_ok.1 rest
          obtain ⟨inside, rfl⟩ := AcpiSdtHeader.read_eq_ok.1 read
          obtain ⟨size, subtracted, rest⟩ := Checked.bind_eq_ok.1 rest
          obtain ⟨_, rfl⟩ := Checked.sub_eq_ok.1 subtracted
          obtain ⟨entriesPtr, added, same⟩ := Checked.bind_eq_ok.1 rest
          obtain ⟨fits, rfl⟩ := Checked.add_eq_ok.1 added
          refine ⟨fun xsdt same => ?_, Except.ok.inj same⟩
          rw [← Option.some.inj same]
          exact ⟨inside, fits⟩
    · rintro ⟨root, headers, same⟩
      have upper := root zero
      refine ⟨rsdp + 24, Checked.add_of_lt (by omega), Checked.bind_eq_ok.2
        ⟨_, readField_eq_ok.2 ⟨Nat.le_add_right _ _, upper, rfl⟩, ?_⟩⟩
      split
      · next null =>
          rw [if_pos null] at same
          exact congrArg Except.ok same
      · next valid =>
          rw [if_neg valid] at headers same
          obtain ⟨inside, fits⟩ := headers _ rfl
          have long : sizeOfSdtHeader ≤ (headerOf mem (mem.readNat (rsdp + 24) 8)).length := by
            rw [headerOf_length]
            have upper := Nat.le_trans inside (acpiEnd_le_end _ _)
            omega
          rw [Checked.bind_of_ok (AcpiSdtHeader.read_eq_ok.2 ⟨inside, rfl⟩),
            Checked.bind_of_ok (Checked.sub_of_le long),
            Checked.bind_of_ok (Checked.add_of_lt fits)]
          exact congrArg Except.ok same

theorem Xsdt.readTable_eq_ok {xsdt i : Nat} {table : Nat × AcpiSdtHeader} :
    (xsdtAt mem xsdt).readTable mem i = .ok table ↔
      TableInside mem xsdt i ∧
        (xsdtEntry mem xsdt i, headerOf mem (xsdtEntry mem xsdt i)) = table := by
  rw [Xsdt.readTable, Checked.bind_eq_ok]
  constructor
  · rintro ⟨entry, added, rest⟩
    obtain ⟨_, rfl⟩ := Checked.add_eq_ok.1 added
    obtain ⟨addr, read, rest⟩ := Checked.bind_eq_ok.1 rest
    obtain ⟨_, upper, rfl⟩ := readField_eq_ok.1 read
    obtain ⟨header, read, same⟩ := Checked.bind_eq_ok.1 rest
    obtain ⟨inside, rfl⟩ := AcpiSdtHeader.read_eq_ok.1 read
    exact ⟨⟨upper, inside⟩, Except.ok.inj same⟩
  · rintro ⟨inside, same⟩
    have upper := inside.entry
    have space := acpiEnd_le_space xsdt (sdtLength mem xsdt)
    have lower : xsdt ≤ xsdt + sizeOfSdtHeader + 8 * i := by omega
    have read : readField mem xsdt (sdtLength mem xsdt) (xsdt + sizeOfSdtHeader + 8 * i) 8 =
        .ok (xsdtEntry mem xsdt i) :=
      readField_eq_ok.2 ⟨lower, upper, rfl⟩
    have fits : xsdt + sizeOfSdtHeader + 8 * i < 2 ^ 64 := by omega
    refine ⟨_, Checked.add_of_lt fits, ?_⟩
    change (readField mem xsdt (sdtLength mem xsdt) (xsdt + sizeOfSdtHeader + 8 * i) 8 >>= _) = _
    rw [Checked.bind_of_ok read,
      Checked.bind_of_ok (AcpiSdtHeader.read_eq_ok.2 ⟨inside.header, rfl⟩)]
    exact congrArg Except.ok same

/-- A walk goes through exactly if what it reads is inside, and then it goes over the tables as
if they were a list. -/
theorem forTables_eq_ok_iff {σ ρ : Type}
    {visit : Nat → AcpiSdtHeader → σ → Checked (Iteration σ ρ)}
    {next : Nat → σ → Iteration σ ρ} {ends : Nat → Bool} {fits : Nat → Prop}
    (visits : ∀ table state out, HeaderInside mem table →
      (visit table (headerOf mem table) state = .ok out ↔ fits table ∧ next table state = out))
    (dones : ∀ table state, (∃ result, next table state = .done result) ↔ ends table = true)
    (state : σ) (out : Iteration σ ρ) :
    forTables mem rsdp visit state = .ok out ↔
      WalkFits mem rsdp ends fits ∧
        ListLoop.runPure next (acpiTables mem rsdp) state = out := by
  have bodies : ∀ xsdt i state out,
      (((xsdtAt mem xsdt).readTable mem i >>= fun table => visit table.1 table.2 state) :
        Checked (Iteration σ ρ)) = .ok out ↔
        (TableInside mem xsdt i ∧ fits (xsdtEntry mem xsdt i)) ∧
          next (xsdtEntry mem xsdt i) state = out := by
    intro xsdt i state out
    rw [Checked.bind_eq_ok, and_assoc]
    constructor
    · rintro ⟨table, read, ran⟩
      obtain ⟨inside, rfl⟩ := Xsdt.readTable_eq_ok.1 read
      exact ⟨inside, (visits _ _ _ inside.header).1 ran⟩
    · rintro ⟨inside, ran⟩
      exact ⟨_, Xsdt.readTable_eq_ok.2 ⟨inside, rfl⟩, (visits _ _ _ inside.header).2 ran⟩
  rw [forTables, Checked.bind_eq_ok, acpiTables]
  constructor
  · rintro ⟨opened, ran, rest⟩
    obtain ⟨root, header, rfl⟩ := openXsdt_eq_ok.1 ran
    cases found : xsdtOf mem rsdp with
    | none =>
        rw [found] at rest
        refine ⟨⟨root, header, fun xsdt same => ?_⟩, Except.ok.inj rest⟩
        rw [found] at same
        cases same
    | some xsdt =>
        rw [found] at rest
        obtain ⟨inside, same⟩ := (ListLoop.run_eq_ok_iff (bodies xsdt)
          (fun i => dones (xsdtEntry mem xsdt i)) _ _ _).1 rest
        rw [ListLoop.runPure_map] at same
        refine ⟨⟨root, header, fun other same => ?_⟩, same⟩
        rw [found] at same
        rw [← Option.some.inj same]
        exact inside
  · rintro ⟨fit, same⟩
    refine ⟨_, openXsdt_eq_ok.2 ⟨fit.root, fit.header, rfl⟩, ?_⟩
    cases found : xsdtOf mem rsdp with
    | none =>
        rw [found] at same
        exact congrArg Except.ok same
    | some xsdt =>
        rw [found] at same
        refine (ListLoop.run_eq_ok_iff (bodies xsdt)
          (fun i => dones (xsdtEntry mem xsdt i)) _ _ _).2 ⟨fit.tables xsdt found, ?_⟩
        rw [ListLoop.runPure_map]
        exact same

end Simurgh
