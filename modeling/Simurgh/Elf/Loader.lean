import Simurgh.Lib.SliceReader
import Simurgh.Mm.Untyped

/-!
# The loader of executables

The file header is checked before anything behind it is read.  The table of program headers
is checked as a whole, and each entry is read when the iterator gets to it.
-/

namespace Simurgh

/-! ## The code -/

inductive ElfError where
  | tooShort
  | badMagic
  | notClass64
  | notLittleEndian
  | notExecutable
  | wrongMachine
  | badProgramHeaderOffset
  deriving DecidableEq, Repr

/-- What is read of one `PT_LOAD` entry. -/
structure LoadSegment where
  fileOffset : Nat
  fileSize : Nat
  vaddr : Nat
  paddr : Nat
  memSize : Nat
  flags : Nat
  deriving DecidableEq, Repr

structure Elf64Header where
  eEntry : Nat
  ePhoff : Nat
  ePhentsize : Nat
  ePhnum : Nat
  deriving DecidableEq, Repr

/-- 0x7F, and the letters of `ELF`. -/
def elfMagic : List UInt8 := [0x7F, 0x45, 0x4C, 0x46]

def elfClass64 : Nat := 2

def elfData2Lsb : Nat := 1

def ptLoad : Nat := 1

def etExec : Nat := 2

/-- Programs that read the file. -/
abbrev ElfReader (α : Type) : Type := Exec (List UInt8) ElfError α

def readU8 (offset : Nat) : ElfReader Nat := Slice.readNumber 1 offset

def readU16 (offset : Nat) : ElfReader Nat := Slice.readNumber 2 offset

def readU32 (offset : Nat) : ElfReader Nat := Slice.readNumber 4 offset

def readU64 (offset : Nat) : ElfReader Nat := Slice.readNumber 8 offset

def Elf64Header.parse (expectedMachine : Nat) : ElfReader Elf64Header := do
  let data ← Exec.get
  Exec.guard (64 ≤ data.length) .tooShort
  let magic ← Slice.readBytes 0 4
  Exec.guard (magic = elfMagic) .badMagic
  let fileClass ← readU8 4
  Exec.guard (fileClass = elfClass64) .notClass64
  let encoding ← readU8 5
  Exec.guard (encoding = elfData2Lsb) .notLittleEndian
  let eType ← readU16 16
  let eMachine ← readU16 18
  let eEntry ← readU64 24
  let ePhoff ← readU64 32
  let ePhentsize ← readU16 54
  let ePhnum ← readU16 56
  Exec.guard (eType = etExec) .notExecutable
  Exec.guard (eMachine = expectedMachine) .wrongMachine
  return { eEntry, ePhoff, ePhentsize, ePhnum }

/-- The iterator over the entries, which keeps the place of the table. -/
structure LoadSegments where
  phStart : Nat
  phEntrySize : Nat
  phCount : Nat
  deriving DecidableEq, Repr

/-- The entry at `base`, unless it is of another type. -/
def LoadSegment.read (base : Nat) : ElfReader (Option LoadSegment) := do
  let pType ← readU32 base
  if pType ≠ ptLoad then return none
  else
    let pFlags ← readU32 (base + 4)
    let pOffset ← readU64 (base + 8)
    let pVaddr ← readU64 (base + 16)
    let pPaddr ← readU64 (base + 24)
    let pFilesz ← readU64 (base + 32)
    let pMemsz ← readU64 (base + 40)
    return some
      { fileOffset := pOffset, fileSize := pFilesz, vaddr := pVaddr, paddr := pPaddr,
        memSize := pMemsz, flags := pFlags }

/-- The closure of the iterator. -/
def LoadSegments.segment (segments : LoadSegments) (i : Nat) :
    ElfReader (Option LoadSegment) :=
  LoadSegment.read (segments.phStart + i * segments.phEntrySize)

/-- The entries from `i` on. -/
def LoadSegments.drainFrom (segments : LoadSegments) :
    (remaining i : Nat) → ElfReader (List LoadSegment)
  | 0, _ => return []
  | remaining + 1, i => do
      let segment ← segments.segment i
      let rest ← segments.drainFrom remaining (i + 1)
      return segment.toList ++ rest

/-- Take everything out of the iterator. -/
def LoadSegments.drain (segments : LoadSegments) : ElfReader (List LoadSegment) :=
  segments.drainFrom segments.phCount 0

def parseAndCollectLoadSegments (expectedMachine : Nat) : ElfReader (Nat × LoadSegments) := do
  let header ← Elf64Header.parse expectedMachine
  let tableSize ← Exec.okOr .badProgramHeaderOffset
    (checkedMul header.ePhentsize header.ePhnum)
  let phTableEnd ← Exec.okOr .badProgramHeaderOffset (checkedAdd header.ePhoff tableSize)
  let data ← Exec.get
  Exec.guard (phTableEnd ≤ data.length) .badProgramHeaderOffset
  return (header.eEntry,
    { phStart := header.ePhoff, phEntrySize := header.ePhentsize, phCount := header.ePhnum })

/-! ## What is stored in the file -/

/-- The fields of the file header. -/
def Elf64Header.stored (data : List UInt8) : Elf64Header where
  eEntry := Slice.numberAt data 24 8
  ePhoff := Slice.numberAt data 32 8
  ePhentsize := Slice.numberAt data 54 2
  ePhnum := Slice.numberAt data 56 2

/-- Where entry `i` of the table starts. -/
def Elf64Header.base (header : Elf64Header) (i : Nat) : Nat :=
  header.ePhoff + i * header.ePhentsize

/-- The type of the entry at `base`. -/
def IsLoad (data : List UInt8) (base : Nat) : Prop := Slice.numberAt data base 4 = ptLoad

instance (data : List UInt8) (base : Nat) : Decidable (IsLoad data base) :=
  inferInstanceAs (Decidable (_ = _))

/-- The fields of the entry at `base`. -/
def LoadSegment.stored (data : List UInt8) (base : Nat) : LoadSegment where
  flags := Slice.numberAt data (base + 4) 4
  fileOffset := Slice.numberAt data (base + 8) 8
  vaddr := Slice.numberAt data (base + 16) 8
  paddr := Slice.numberAt data (base + 24) 8
  fileSize := Slice.numberAt data (base + 32) 8
  memSize := Slice.numberAt data (base + 40) 8

/-- The `PT_LOAD` entries of the table, in order. -/
def Elf64Header.loadSegments (header : Elf64Header) (data : List UInt8) : List LoadSegment :=
  ((List.range header.ePhnum).filter fun i => IsLoad data (header.base i)).map fun i =>
    .stored data (header.base i)

/-- The fixed part of the file header is one that the loader accepts. -/
structure HeaderValid (data : List UInt8) (expectedMachine : Nat) : Prop where
  long : 64 ≤ data.length
  magic : Slice.bytesAt data 0 4 = elfMagic
  fileClass : Slice.numberAt data 4 1 = elfClass64
  encoding : Slice.numberAt data 5 1 = elfData2Lsb
  executable : Slice.numberAt data 16 2 = etExec
  machine : Slice.numberAt data 18 2 = expectedMachine

/-- The whole file header is one that the loader accepts: the table it describes ends in
the file. -/
structure Accepted (data : List UInt8) (expectedMachine : Nat) : Prop where
  header : HeaderValid data expectedMachine
  size : (Elf64Header.stored data).ePhentsize * (Elf64Header.stored data).ePhnum <
    0x10000000000000000
  word : (Elf64Header.stored data).ePhoff +
    (Elf64Header.stored data).ePhentsize * (Elf64Header.stored data).ePhnum <
      0x10000000000000000
  table : (Elf64Header.stored data).ePhoff +
    (Elf64Header.stored data).ePhentsize * (Elf64Header.stored data).ePhnum ≤ data.length

/-- As far as an entry is read, it is in the file: its type, and the rest of a `PT_LOAD`
entry. -/
def EntryInside (data : List UInt8) (base : Nat) : Prop :=
  Slice.Inside data base 4 ∧ (IsLoad data base → Slice.Inside data base 48)

def EntriesInside (data : List UInt8) (header : Elf64Header) : Prop :=
  ∀ i < header.ePhnum, EntryInside data (header.base i)

/-! ## The file header -/

variable {data : List UInt8} {expectedMachine : Nat}

/-- The header is read, or refused before anything outside the file is looked at. -/
theorem parse_cases (data : List UInt8) (expectedMachine : Nat) :
    HeaderValid data expectedMachine ∧
        Elf64Header.parse expectedMachine data = .ok (.stored data) data ∨
      ¬ HeaderValid data expectedMachine ∧
        ∃ error, Elf64Header.parse expectedMachine data = .err error data := by
  unfold Elf64Header.parse
  rw [Exec.get_bind_run, Exec.guard_bind_run]
  by_cases long : 64 ≤ data.length
  swap
  · rw [if_neg (by simpa using long)]
    exact Or.inr ⟨fun valid => long valid.long, _, rfl⟩
  have inside : ∀ {offset width : Nat}, offset + width ≤ 64 → Slice.Inside data offset width :=
    fun fits => Nat.le_trans fits long
  rw [if_pos (by simpa using long), Slice.readBytes_bind_of_inside (inside (by decide)),
    Exec.guard_bind_run]
  by_cases magic : Slice.bytesAt data 0 4 = elfMagic
  swap
  · rw [if_neg (by simpa using magic)]
    exact Or.inr ⟨fun valid => magic valid.magic, _, rfl⟩
  rw [if_pos (by simpa using magic), readU8,
    Slice.readNumber_bind_of_inside (inside (by decide)), Exec.guard_bind_run]
  by_cases fileClass : Slice.numberAt data 4 1 = elfClass64
  swap
  · rw [if_neg (by simpa using fileClass)]
    exact Or.inr ⟨fun valid => fileClass valid.fileClass, _, rfl⟩
  rw [if_pos (by simpa using fileClass), readU8,
    Slice.readNumber_bind_of_inside (inside (by decide)), Exec.guard_bind_run]
  by_cases encoding : Slice.numberAt data 5 1 = elfData2Lsb
  swap
  · rw [if_neg (by simpa using encoding)]
    exact Or.inr ⟨fun valid => encoding valid.encoding, _, rfl⟩
  rw [if_pos (by simpa using encoding), readU16,
    Slice.readNumber_bind_of_inside (inside (by decide)), readU16,
    Slice.readNumber_bind_of_inside (inside (by decide)), readU64,
    Slice.readNumber_bind_of_inside (inside (by decide)), readU64,
    Slice.readNumber_bind_of_inside (inside (by decide)), readU16,
    Slice.readNumber_bind_of_inside (inside (by decide)), readU16,
    Slice.readNumber_bind_of_inside (inside (by decide)), Exec.guard_bind_run]
  by_cases executable : Slice.numberAt data 16 2 = etExec
  swap
  · rw [if_neg (by simpa using executable)]
    exact Or.inr ⟨fun valid => executable valid.executable, _, rfl⟩
  rw [if_pos (by simpa using executable), Exec.guard_bind_run]
  by_cases machine : Slice.numberAt data 18 2 = expectedMachine
  swap
  · rw [if_neg (by simpa using machine)]
    exact Or.inr ⟨fun valid => machine valid.machine, _, rfl⟩
  rw [if_pos (by simpa using machine)]
  exact Or.inl ⟨⟨long, magic, fileClass, encoding, executable, machine⟩, rfl⟩

theorem checkedAdd_eq_none {left right : Nat} (large : ¬ left + right < 0x10000000000000000) :
    checkedAdd left right = none := if_neg large

theorem checkedMul_eq_none {left right : Nat} (large : ¬ left * right < 0x10000000000000000) :
    checkedMul left right = none := if_neg large

/-- The iterator over the table that the header describes. -/
def Elf64Header.segments (header : Elf64Header) : LoadSegments where
  phStart := header.ePhoff
  phEntrySize := header.ePhentsize
  phCount := header.ePhnum

theorem parseAndCollect_cases (data : List UInt8) (expectedMachine : Nat) :
    Accepted data expectedMachine ∧
        parseAndCollectLoadSegments expectedMachine data =
          .ok ((Elf64Header.stored data).eEntry, (Elf64Header.stored data).segments) data ∨
      ¬ Accepted data expectedMachine ∧
        ∃ error, parseAndCollectLoadSegments expectedMachine data = .err error data := by
  unfold parseAndCollectLoadSegments
  rcases parse_cases data expectedMachine with ⟨valid, ran⟩ | ⟨invalid, error, refused⟩
  swap
  · rw [Exec.bind_of_err refused]
    exact Or.inr ⟨fun accepted => invalid accepted.header, error, rfl⟩
  rw [Exec.bind_of_ok ran]
  by_cases size : (Elf64Header.stored data).ePhentsize * (Elf64Header.stored data).ePhnum <
      0x10000000000000000
  swap
  · rw [checkedMul_eq_none size]
    exact Or.inr ⟨fun accepted => size accepted.size, _, rfl⟩
  rw [checkedMul_eq_some.2 ⟨size, rfl⟩, Exec.okOr_some, Exec.pure_bind_run]
  by_cases word : (Elf64Header.stored data).ePhoff +
      (Elf64Header.stored data).ePhentsize * (Elf64Header.stored data).ePhnum <
        0x10000000000000000
  swap
  · rw [checkedAdd_eq_none word]
    exact Or.inr ⟨fun accepted => word accepted.word, _, rfl⟩
  rw [checkedAdd_eq_some.2 ⟨word, rfl⟩, Exec.okOr_some, Exec.pure_bind_run, Exec.get_bind_run,
    Exec.guard_bind_run]
  by_cases table : (Elf64Header.stored data).ePhoff +
      (Elf64Header.stored data).ePhentsize * (Elf64Header.stored data).ePhnum ≤ data.length
  swap
  · rw [if_neg (by simpa using table)]
    exact Or.inr ⟨fun accepted => table accepted.table, _, rfl⟩
  rw [if_pos (by simpa using table)]
  exact Or.inl ⟨⟨valid, size, word, table⟩, rfl⟩

/-! ## The entries -/

variable {header : Elf64Header}

/-- The fields of an entry follow each other. -/
theorem inside_of_entry {base offset width : Nat} (inside : Slice.Inside data base 48)
    (fits : offset + width ≤ 48) : Slice.Inside data (base + offset) width := by
  unfold Slice.Inside at *
  omega

/-- An entry that is in the file is read as it is stored. -/
theorem read_of_inside {base : Nat} (inside : EntryInside data base) :
    LoadSegment.read base data =
      .ok (if IsLoad data base then some (.stored data base) else none) data := by
  unfold LoadSegment.read
  rw [readU32, Slice.readNumber_bind_of_inside inside.1]
  by_cases load : IsLoad data base
  · have whole := inside.2 load
    have same : ¬ Slice.numberAt data base 4 ≠ ptLoad := not_not_intro load
    rw [if_pos load, if_neg same]
    rw [readU32, Slice.readNumber_bind_of_inside (inside_of_entry whole (by decide)), readU64,
      Slice.readNumber_bind_of_inside (inside_of_entry whole (by decide)), readU64,
      Slice.readNumber_bind_of_inside (inside_of_entry whole (by decide)), readU64,
      Slice.readNumber_bind_of_inside (inside_of_entry whole (by decide)), readU64,
      Slice.readNumber_bind_of_inside (inside_of_entry whole (by decide)), readU64,
      Slice.readNumber_bind_of_inside (inside_of_entry whole (by decide))]
    rfl
  · have other : Slice.numberAt data base 4 ≠ ptLoad := load
    rw [if_neg load, if_pos other]
    rfl

/-- The last field of an entry that is cut off is outside, and reading it aborts, if
nothing before it has. -/
theorem read_of_outside {base : Nat} (outside : ¬ EntryInside data base) :
    LoadSegment.read base data = .panic := by
  unfold LoadSegment.read
  by_cases first : Slice.Inside data base 4
  swap
  · exact Slice.readNumber_bind_of_outside first _
  rw [readU32, Slice.readNumber_bind_of_inside first]
  have load : IsLoad data base := by
    by_contra other
    exact outside ⟨first, fun load => absurd load other⟩
  have short : ¬ Slice.Inside data (base + 40) 8 := by
    intro last
    apply outside
    refine ⟨first, fun _ => ?_⟩
    unfold Slice.Inside at *
    omega
  have same : ¬ Slice.numberAt data base 4 ≠ ptLoad := not_not_intro load
  rw [if_neg same]
  have aborts : ∀ {α : Type} (width offset : Nat) (next : Nat → ElfReader α),
      (∀ value, next value data = .panic) →
        (Slice.readNumber width offset >>= next) data = .panic := by
    intro α width offset next later
    by_cases inside : Slice.Inside data offset width
    · rw [Slice.readNumber_bind_of_inside inside]
      exact later _
    · exact Slice.readNumber_bind_of_outside inside next
  apply aborts
  intro pFlags
  apply aborts
  intro pOffset
  apply aborts
  intro pVaddr
  apply aborts
  intro pPaddr
  apply aborts
  intro pFilesz
  exact Slice.readNumber_bind_of_outside short _

theorem segment_eq (header : Elf64Header) (i : Nat) :
    header.segments.segment i = LoadSegment.read (header.base i) := rfl

/-- The entries from `i` on that are to be loaded, in order. -/
def Elf64Header.loadSegmentsFrom (header : Elf64Header) (data : List UInt8)
    (remaining i : Nat) : List LoadSegment :=
  ((List.range' i remaining).filter fun i => IsLoad data (header.base i)).map fun i =>
    .stored data (header.base i)

theorem loadSegmentsFrom_succ (header : Elf64Header) (data : List UInt8) (remaining i : Nat) :
    header.loadSegmentsFrom data (remaining + 1) i =
      (if IsLoad data (header.base i) then some (.stored data (header.base i))
        else none : Option LoadSegment).toList ++
        header.loadSegmentsFrom data remaining (i + 1) := by
  unfold Elf64Header.loadSegmentsFrom
  rw [List.range'_succ]
  by_cases load : IsLoad data (header.base i)
  · rw [if_pos load, List.filter_cons_of_pos (by simpa using load)]
    rfl
  · rw [if_neg load, List.filter_cons_of_neg (by simpa using load)]
    rfl

/-- Draining from entry `i` on reads all entries that are left, or aborts at one of them. -/
theorem drainFrom_eq (remaining i : Nat) :
    ((∀ j, i ≤ j → j < i + remaining → EntryInside data (header.base j)) →
        header.segments.drainFrom remaining i data =
          .ok (header.loadSegmentsFrom data remaining i) data) ∧
      (header.segments.drainFrom remaining i data ≠ .panic →
        ∀ j, i ≤ j → j < i + remaining → EntryInside data (header.base j)) := by
  induction remaining generalizing i with
  | zero =>
      constructor
      · intro _
        rfl
      · intro _ j lower upper
        omega
  | succ remaining ih =>
      obtain ⟨drains, aborts⟩ := ih (i + 1)
      constructor
      · intro inside
        have here := inside i (Nat.le_refl i) (by omega)
        have rest := drains fun j lower upper => inside j (by omega) (by omega)
        rw [LoadSegments.drainFrom, segment_eq, Exec.bind_of_ok (read_of_inside here),
          Exec.bind_of_ok rest, Exec.pure_run, loadSegmentsFrom_succ]
      · intro returns
        by_cases here : EntryInside data (header.base i)
        · rw [LoadSegments.drainFrom, segment_eq,
            Exec.bind_of_ok (read_of_inside here)] at returns
          have rest : header.segments.drainFrom remaining (i + 1) data ≠ .panic := by
            intro aborted
            apply returns
            rw [Exec.bind_run, aborted]
          intro j lower upper
          by_cases same : j = i
          · rw [same]
            exact here
          · exact aborts rest j (by omega) (by omega)
        · rw [LoadSegments.drainFrom, segment_eq, Exec.bind_run,
            read_of_outside here] at returns
          exact absurd rfl returns

theorem loadSegmentsFrom_zero (header : Elf64Header) (data : List UInt8) :
    header.loadSegmentsFrom data header.ePhnum 0 = header.loadSegments data := by
  rw [Elf64Header.loadSegmentsFrom, ← List.range_eq_range', Elf64Header.loadSegments]

/-- The iterator can be drained exactly if what is read of each entry is in the file. -/
theorem drain_iff (data : List UInt8) (header : Elf64Header) :
    header.segments.drain data = .ok (header.loadSegments data) data ↔
      EntriesInside data header := by
  obtain ⟨drains, aborts⟩ := @drainFrom_eq data header header.ePhnum 0
  have whole := loadSegmentsFrom_zero header data
  constructor
  · intro drained i inside
    apply aborts
    · change header.segments.drain data ≠ .panic
      rw [drained]
      intro absurdity
      cases absurdity
    · exact Nat.zero_le i
    · omega
  · intro inside
    rw [← whole]
    apply drains
    intro j _ upper
    exact inside j (by omega)

/-! ## The whole loader -/

/-- The loader returns an error, or the stored entry point and an iterator that can be
drained and yields the stored segments. -/
def LoadsExactly (data : List UInt8) (expectedMachine : Nat) : Prop :=
  match parseAndCollectLoadSegments expectedMachine data with
  | .panic => False
  | .err _ _ => True
  | .ok (entry, segments) _ =>
      entry = (Elf64Header.stored data).eEntry ∧
        segments.drain data = .ok ((Elf64Header.stored data).loadSegments data) data

/-- The loader does so exactly if, in a file whose header it accepts, each entry is in the
file as far as it is read. -/
theorem loadsExactly_iff (data : List UInt8) (expectedMachine : Nat) :
    LoadsExactly data expectedMachine ↔
      (Accepted data expectedMachine → EntriesInside data (.stored data)) := by
  unfold LoadsExactly
  rcases parseAndCollect_cases data expectedMachine with
    ⟨accepted, ran⟩ | ⟨refused, error, failed⟩
  · rw [ran]
    change (_ = _ ∧ (Elf64Header.stored data).segments.drain data = _) ↔ _
    rw [drain_iff]
    constructor
    · rintro ⟨_, inside⟩ _
      exact inside
    · intro inside
      exact ⟨rfl, inside accepted⟩
  · rw [failed]
    constructor
    · intro _ accepted
      exact absurd accepted refused
    · intro _
      trivial

/-- A file header of 64 bytes for a table of one entry of no bytes behind it. -/
def emptyEntryFile : List UInt8 :=
  [0x7F, 0x45, 0x4C, 0x46, 2, 1, 1, 0, 0, 0, 0, 0, 0, 0, 0, 0,
    2, 0, 243, 0, 1, 0, 0, 0, 0, 0, 0, 0, 0, 0, 0, 0,
    64, 0, 0, 0, 0, 0, 0, 0, 0, 0, 0, 0, 0, 0, 0, 0,
    0, 0, 0, 0, 64, 0, 0, 0, 1, 0, 0, 0, 0, 0, 0, 0]

/-- The file is accepted, and reading the entry aborts. -/
theorem emptyEntry_aborts :
    (∃ segments, parseAndCollectLoadSegments 243 emptyEntryFile =
        .ok (0, segments) emptyEntryFile ∧
      segments.drain emptyEntryFile = .panic) ∧
      ¬ LoadsExactly emptyEntryFile 243 := by
  have accepted : parseAndCollectLoadSegments 243 emptyEntryFile =
      .ok (0, { phStart := 64, phEntrySize := 0, phCount := 1 }) emptyEntryFile := by
    decide +kernel
  have aborts : LoadSegments.drain { phStart := 64, phEntrySize := 0, phCount := 1 }
      emptyEntryFile = .panic := by
    decide +kernel
  refine ⟨⟨_, accepted, aborts⟩, ?_⟩
  intro exact_
  unfold LoadsExactly at exact_
  rw [accepted] at exact_
  rw [exact_.2] at aborts
  cases aborts

end Simurgh
