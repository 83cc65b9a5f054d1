import Simurgh.Elf.Loader

/-!
# Going over the segments of a file

The callers of the loader take one segment after another out of the iterator and do something
with each.  An entry is read when its turn comes.
-/

namespace Simurgh

section Code

variable {σ ε α : Type}

/-- Read the file in the middle of a program, which makes one error of all those of the loader. -/
def ElfReader.within (elfData : List UInt8) (failed : ε) (reader : ElfReader α) : Exec σ ε α :=
  fun state =>
    match reader elfData with
    | .ok value _ => .ok value state
    | .err _ _ => .err failed state
    | .panic => .panic

/-- What a loop does with what the iterator finds in an entry. -/
def LoadSegment.onEntry (body : LoadSegment → Exec σ ε Unit) : Option LoadSegment → Exec σ ε Unit
  | none => return ()
  | some segment => body segment

/-- `for segment in segments`, for the entries from `i` on. -/
def LoadSegments.forEach (segments : LoadSegments) (elfData : List UInt8) (failed : ε)
    (body : LoadSegment → Exec σ ε Unit) : (remaining i : Nat) → Exec σ ε Unit
  | 0, _ => return ()
  | remaining + 1, i => do
      let entry ← ElfReader.within elfData failed (segments.segment i)
      LoadSegment.onEntry body entry
      segments.forEach elfData failed body remaining (i + 1)

/-- Parse a file and go over its segments, which returns the entry point. -/
def forEachSegment (elfData : List UInt8) (machine : Nat) (failed : ε)
    (body : LoadSegment → Exec σ ε Unit) : Exec σ ε Nat := do
  let (entry, segments) ← ElfReader.within elfData failed (parseAndCollectLoadSegments machine)
  segments.forEach elfData failed body segments.phCount 0
  return entry

end Code

/-! ## What a segment says -/

namespace LoadSegment

/-- The byte at a position of a segment in memory. -/
def byteAt (segment : LoadSegment) (data : List UInt8) (i : Nat) : UInt8 :=
  if i < segment.fileSize then (data[segment.fileOffset + i]?).getD 0 else 0

/-- The part that the file has of a segment is in the file, and not longer than the segment. -/
structure Copies (segment : LoadSegment) (data : List UInt8) : Prop where
  word : segment.fileOffset + segment.fileSize < 2 ^ 64
  inFile : segment.fileOffset + segment.fileSize ≤ data.length
  inMemory : segment.fileSize ≤ segment.memSize

instance (segment : LoadSegment) (data : List UInt8) : Decidable (segment.Copies data) :=
  decidable_of_iff
    (segment.fileOffset + segment.fileSize < 2 ^ 64 ∧
      segment.fileOffset + segment.fileSize ≤ data.length ∧ segment.fileSize ≤ segment.memSize)
    ⟨fun all => ⟨all.1, all.2.1, all.2.2⟩, fun all => ⟨all.word, all.inFile, all.inMemory⟩⟩

end LoadSegment

variable {segment : LoadSegment} {data : List UInt8}

theorem length_bytesAt (copies : segment.Copies data) :
    (Slice.bytesAt data segment.fileOffset segment.fileSize).length = segment.fileSize := by
  have inFile := copies.inFile
  rw [Slice.bytesAt, List.length_take, List.length_drop]
  omega

/-- What the file has of a segment, written somewhere. -/
theorem write_bytesAt (copies : segment.Copies data) (memory : ByteMemory) (addr : Nat) {i : Nat}
    (fromFile : i < segment.fileSize) :
    memory.write addr (Slice.bytesAt data segment.fileOffset segment.fileSize) (addr + i) =
      segment.byteAt data i := by
  have length := length_bytesAt copies
  have inFile := copies.inFile
  have here := @ByteMemory.write_of_mem memory addr i
    (Slice.bytesAt data segment.fileOffset segment.fileSize) (by omega)
  rw [Slice.bytesAt, List.getElem?_take, if_pos fromFile, List.getElem?_drop] at here
  rw [LoadSegment.byteAt, if_pos fromFile, Slice.bytesAt, ← here]
  rfl

/-- The segment of an entry. -/
def segmentOf (data : List UInt8) (header : Elf64Header) (i : Nat) : LoadSegment :=
  .stored data (header.base i)

/-! ## One entry -/

section Entry

variable {σ ε : Type} {failed : ε} {body : LoadSegment → Exec σ ε Unit} {header : Elf64Header}
  {i remaining : Nat} {state : σ}

theorem within_segment_of_inside (inside : EntryInside data (header.base i)) :
    ElfReader.within data failed (header.segments.segment i) state =
      .ok (if IsLoad data (header.base i) then some (segmentOf data header i) else none)
        state := by
  rw [ElfReader.within, segment_eq, read_of_inside inside, segmentOf]

theorem forEach_succ_of_outside (outside : ¬ EntryInside data (header.base i)) :
    header.segments.forEach data failed body (remaining + 1) i state = .panic := by
  have aborts : ElfReader.within data failed (header.segments.segment i) state = .panic := by
    rw [ElfReader.within, segment_eq, read_of_outside outside]
  rw [LoadSegments.forEach, Exec.bind_run, aborts]

theorem forEach_succ_of_other (inside : EntryInside data (header.base i))
    (other : ¬ IsLoad data (header.base i)) :
    header.segments.forEach data failed body (remaining + 1) i state =
      header.segments.forEach data failed body remaining (i + 1) state := by
  rw [LoadSegments.forEach, Exec.bind_of_ok (within_segment_of_inside inside), if_neg other]
  rfl

theorem forEach_succ_of_load (inside : EntryInside data (header.base i))
    (load : IsLoad data (header.base i)) :
    header.segments.forEach data failed body (remaining + 1) i state =
      (body (segmentOf data header i) >>= fun _ =>
        header.segments.forEach data failed body remaining (i + 1)) state := by
  rw [LoadSegments.forEach, Exec.bind_of_ok (within_segment_of_inside inside), if_pos load]
  rfl

end Entry

/-! ## The file as a whole -/

section Whole

variable {σ ε : Type} {failed : ε} {body : LoadSegment → Exec σ ε Unit} {machine : Nat} {state : σ}

theorem forEachSegment_of_refused (refused : ¬ Accepted data machine) :
    forEachSegment data machine failed body state = .err failed state := by
  rcases parseAndCollect_cases data machine with ⟨accepted, _⟩ | ⟨_, error, fails⟩
  · exact absurd accepted refused
  · have returns : ElfReader.within data failed (parseAndCollectLoadSegments machine) state =
        .err failed state := by
      rw [ElfReader.within, fails]
    rw [forEachSegment, Exec.bind_of_err returns]

theorem forEachSegment_of_accepted (accepted : Accepted data machine) :
    forEachSegment data machine failed body state =
      ((Elf64Header.stored data).segments.forEach data failed body
        (Elf64Header.stored data).ePhnum 0 >>= fun _ =>
          (pure (Elf64Header.stored data).eEntry : Exec σ ε Nat)) state := by
  rcases parseAndCollect_cases data machine with ⟨_, ran⟩ | ⟨refused, _⟩
  · have returns : ElfReader.within data failed (parseAndCollectLoadSegments machine) state =
        .ok ((Elf64Header.stored data).eEntry, (Elf64Header.stored data).segments) state := by
      rw [ElfReader.within, ran]
    rw [forEachSegment, Exec.bind_of_ok returns]
    rfl
  · exact absurd accepted refused

end Whole

end Simurgh
