import Simurgh.Hal.Acpi

/-!
# The entries of the interrupt table

Every entry says how long it is, and the next one starts behind it.  The loop goes from entry to
entry until it finds a distributor.
-/

namespace Simurgh

theorem acpiEnd_le_end (addr length : Nat) : acpiEnd addr length ≤ addr + length :=
  Nat.min_le_left _ _

theorem acpiEnd_le_space (addr length : Nat) : acpiEnd addr length ≤ 2 ^ 64 :=
  Nat.min_le_right _ _

theorem readField_eq_ok {mem : ByteMemory} {table length addr width value : Nat} :
    readField mem table length addr width = .ok value ↔
      table ≤ addr ∧ addr + width ≤ acpiEnd table length ∧ mem.readNat addr width = value := by
  rw [readField, Checked.bind_eq_ok]
  constructor
  · rintro ⟨raw, ran, same⟩
    obtain ⟨lower, upper, rfl⟩ := Checked.readBytes_eq_ok.1 ran
    exact ⟨lower, upper, Except.ok.inj same⟩
  · rintro ⟨lower, upper, same⟩
    exact ⟨_, Checked.readBytes_of_inside lower upper, congrArg Except.ok same⟩

section Entries

variable (mem : ByteMemory) (madt length : Nat)

def entryType (offset : Nat) : Nat := mem.readNat (madt + offset) 1

def entryLength (offset : Nat) : Nat := mem.readNat (madt + offset + 1) 1

/-- The base address in a distributor entry. -/
def entryBase (offset : Nat) : Nat := mem.readNat (madt + offset + 8) 8

/-- There is another entry behind this one. -/
structure FollowedBy (offset next : Nat) : Prop where
  inside : offset < length
  nonzero : entryLength mem madt offset ≠ 0
  behind : offset + entryLength mem madt offset = next

/-- The loop goes on with the entry behind this one. -/
structure PassedBy (offset next : Nat) : Prop extends FollowedBy mem madt length offset next where
  other : entryType mem madt offset ≠ madtGicDistributorType

/-- A distributor entry stands at the offset, if there are entries from the start on. -/
structure DistributorAt (start offset : Nat) : Prop where
  entry : Relation.ReflTransGen (FollowedBy mem madt length) start offset
  inside : offset < length
  type : entryType mem madt offset = madtGicDistributorType

/-- What is read of an entry is in the table, and the offset behind it in 32 bits. -/
structure MadtEntryInside (offset : Nat) : Prop where
  fields : madt + offset + 2 ≤ acpiEnd madt length
  distributor : entryType mem madt offset = madtGicDistributorType →
    madt + offset + sizeOfMadtGicDistributorEntry ≤ acpiEnd madt length
  next : ∀ next, PassedBy mem madt length offset next → next < 2 ^ 32

end Entries

variable {mem : ByteMemory} {madt length offset start : Nat} {found : Option Nat}

/-! ## One iteration -/

theorem findGicdFrom_past (behind : length ≤ offset) :
    findGicdFrom mem madt length offset = .ok none := by
  rw [findGicdFrom, dif_neg (Nat.not_lt_of_le behind)]
  rfl

theorem findGicdFrom_fields (inside : offset < length)
    (ran : findGicdFrom mem madt length offset = .ok found) :
    madt + offset + 2 ≤ acpiEnd madt length := by
  rw [findGicdFrom, dif_pos inside] at ran
  obtain ⟨entryAddr, added, rest⟩ := Checked.bind_eq_ok.1 ran
  obtain ⟨_, rfl⟩ := Checked.add_eq_ok.1 added
  obtain ⟨type, read, rest⟩ := Checked.bind_eq_ok.1 rest
  obtain ⟨lengthAddr, added, rest⟩ := Checked.bind_eq_ok.1 rest
  obtain ⟨_, rfl⟩ := Checked.add_eq_ok.1 added
  obtain ⟨entryLength, read, _⟩ := Checked.bind_eq_ok.1 rest
  obtain ⟨_, upper, _⟩ := readField_eq_ok.1 read
  exact upper

theorem findGicdFrom_entry (inside : offset < length)
    (fields : madt + offset + 2 ≤ acpiEnd madt length) :
    findGicdFrom mem madt length offset =
      if entryType mem madt offset = madtGicDistributorType then do
        let _ ← Checked.readBytes mem madt (acpiEnd madt length) (madt + offset)
          sizeOfMadtGicDistributorEntry
        return some (entryBase mem madt offset)
      else if entryLength mem madt offset = 0 then .ok none
      else Checked.add 32 true offset (entryLength mem madt offset) >>=
        findGicdFrom mem madt length := by
  have space := acpiEnd_le_space madt length
  have type : readField mem madt length (madt + offset) 1 = .ok (entryType mem madt offset) :=
    readField_eq_ok.2 ⟨Nat.le_add_right _ _, by omega, rfl⟩
  have len : readField mem madt length (madt + offset + 1) 1 =
      .ok (entryLength mem madt offset) :=
    readField_eq_ok.2 ⟨by omega, fields, rfl⟩
  rw [findGicdFrom, dif_pos inside, Checked.bind_of_ok (Checked.add_of_lt (by omega)),
    Checked.bind_of_ok type, Checked.bind_of_ok (Checked.add_of_lt (by omega)),
    Checked.bind_of_ok len]
  split
  · rfl
  · split
    · rfl
    · split
      · next next moved => rw [moved]; rfl
      · next fault moved => rw [moved]; rfl

/-- An iteration that goes wrong in nothing. -/
theorem findGicdFrom_eq_ok (inside : offset < length) :
    findGicdFrom mem madt length offset = .ok found ↔
      madt + offset + 2 ≤ acpiEnd madt length ∧
        if entryType mem madt offset = madtGicDistributorType then
          madt + offset + sizeOfMadtGicDistributorEntry ≤ acpiEnd madt length ∧
            some (entryBase mem madt offset) = found
        else if entryLength mem madt offset = 0 then none = found
        else offset + entryLength mem madt offset < 2 ^ 32 ∧
          findGicdFrom mem madt length (offset + entryLength mem madt offset) = .ok found := by
  by_cases fields : madt + offset + 2 ≤ acpiEnd madt length
  · rw [and_iff_right fields, findGicdFrom_entry inside fields]
    split
    · rw [Checked.bind_eq_ok]
      constructor
      · rintro ⟨raw, ran, same⟩
        obtain ⟨_, upper, _⟩ := Checked.readBytes_eq_ok.1 ran
        exact ⟨upper, Except.ok.inj same⟩
      · rintro ⟨upper, rfl⟩
        exact ⟨_, Checked.readBytes_of_inside (Nat.le_add_right _ _) upper, rfl⟩
    · split
      · exact ⟨Except.ok.inj, congrArg Except.ok⟩
      · rw [Checked.bind_eq_ok]
        constructor
        · rintro ⟨next, moved, rest⟩
          obtain ⟨fits, rfl⟩ := Checked.add_eq_ok.1 moved
          exact ⟨fits, rest⟩
        · rintro ⟨fits, rest⟩
          exact ⟨_, Checked.add_of_lt fits, rest⟩
  · apply iff_of_false
    · exact fun ran => fields (findGicdFrom_fields inside ran)
    · exact fun both => fields both.1

/-! ## The loop -/

/-- The loop goes wrong in nothing exactly if the entries it comes to are inside. -/
theorem findGicdFrom_completes_iff :
    (∃ found, findGicdFrom mem madt length start = .ok found) ↔
      ∀ offset, Relation.ReflTransGen (PassedBy mem madt length) start offset →
        offset < length → MadtEntryInside mem madt length offset := by
  obtain ⟨left, measure⟩ : ∃ left, length - start = left := ⟨_, rfl⟩
  induction left using Nat.strongRecOn generalizing start with
  | ind left ih =>
      by_cases inside : start < length
      · have rest : entryLength mem madt start ≠ 0 →
            ((∃ found, findGicdFrom mem madt length (start + entryLength mem madt start) =
              .ok found) ↔ _) :=
          fun nonzero => ih
            (length - (start + entryLength mem madt start)) (by omega) rfl
        constructor
        · rintro ⟨found, ran⟩
          obtain ⟨fields, leads⟩ := (findGicdFrom_eq_ok inside).1 ran
          have here : MadtEntryInside mem madt length start := by
            refine ⟨fields, fun type => ?_, fun next passes => ?_⟩
            · rw [if_pos type] at leads
              exact leads.1
            · rw [if_neg passes.other, if_neg passes.nonzero, passes.behind] at leads
              exact leads.1
          intro offset reached before
          rcases reached.cases_head with rfl | ⟨next, passes, later⟩
          · exact here
          · rw [if_neg passes.other, if_neg passes.nonzero] at leads
            have through := (rest passes.nonzero).1 ⟨found, leads.2⟩
            rw [passes.behind] at through
            exact through offset later before
        · intro entries
          have here := entries start .refl inside
          by_cases type : entryType mem madt start = madtGicDistributorType
          · refine ⟨some (entryBase mem madt start),
              (findGicdFrom_eq_ok inside).2 ⟨here.fields, ?_⟩⟩
            rw [if_pos type]
            exact ⟨here.distributor type, rfl⟩
          · by_cases zero : entryLength mem madt start = 0
            · refine ⟨none, (findGicdFrom_eq_ok inside).2 ⟨here.fields, ?_⟩⟩
              rw [if_neg type, if_pos zero]
            · have passes : PassedBy mem madt length start (start + entryLength mem madt start) :=
                ⟨⟨inside, zero, rfl⟩, type⟩
              obtain ⟨found, ran⟩ := (rest zero).2
                fun offset reached => entries offset (.head passes reached)
              refine ⟨found, (findGicdFrom_eq_ok inside).2 ⟨here.fields, ?_⟩⟩
              rw [if_neg type, if_neg zero]
              exact ⟨here.next _ passes, ran⟩
      · constructor
        · rintro - offset reached before
          rcases reached.cases_head with rfl | ⟨next, passes, _⟩
          · exact absurd before inside
          · exact absurd passes.inside inside
        · intro _
          exact ⟨none, findGicdFrom_past (Nat.le_of_not_lt inside)⟩

/-- What the loop returns is in a distributor entry. -/
theorem distributor_of_findGicdFrom {base : Nat}
    (ran : findGicdFrom mem madt length start = .ok (some base)) :
    ∃ offset, DistributorAt mem madt length start offset ∧ entryBase mem madt offset = base := by
  obtain ⟨left, measure⟩ : ∃ left, length - start = left := ⟨_, rfl⟩
  induction left using Nat.strongRecOn generalizing start with
  | ind left ih =>
      by_cases inside : start < length
      · obtain ⟨_, leads⟩ := (findGicdFrom_eq_ok inside).1 ran
        by_cases type : entryType mem madt start = madtGicDistributorType
        · rw [if_pos type] at leads
          exact ⟨start, ⟨.refl, inside, type⟩, Option.some.inj leads.2⟩
        · rw [if_neg type] at leads
          by_cases zero : entryLength mem madt start = 0
          · rw [if_pos zero] at leads
            cases leads
          · rw [if_neg zero] at leads
            have fewer : length - (start + entryLength mem madt start) < left := by omega
            obtain ⟨offset, later, same⟩ := ih _ fewer leads.2 rfl
            exact ⟨offset, ⟨.head ⟨inside, zero, rfl⟩ later.entry, later.inside, later.type⟩, same⟩
      · rw [findGicdFrom_past (Nat.le_of_not_lt inside)] at ran
        cases ran

/-- If there is a distributor entry, the loop does not come to the end without one. -/
theorem findGicdFrom_isSome (distributor : DistributorAt mem madt length start offset)
    (ran : findGicdFrom mem madt length start = .ok found) : ∃ base, found = some base := by
  obtain ⟨entry, inside, type⟩ := distributor
  induction entry using Relation.ReflTransGen.head_induction_on with
  | refl =>
      obtain ⟨_, leads⟩ := (findGicdFrom_eq_ok inside).1 ran
      rw [if_pos type] at leads
      exact ⟨_, leads.2.symm⟩
  | head followed _ ih =>
      obtain ⟨_, leads⟩ := (findGicdFrom_eq_ok followed.inside).1 ran
      split at leads
      · exact ⟨_, leads.2.symm⟩
      · rw [if_neg followed.nonzero, followed.behind] at leads
        exact ih leads.2

end Simurgh
