import Simurgh.Hal.DeviceTree

/-!
# Where the walk over the device tree stays

A structure block fits if it is a sequence of items in the blob, as far as the walk looks at
them.  The walk reads exactly the blobs that fit without leaving them, and without a sum that
leaves 32 bits.
-/

namespace Simurgh

/-- What stands at an offset of the structure block. -/
inductive FdtItem where
  | beginNode (name : List UInt8)
  | endNode
  | prop (name value : List UInt8)
  | nop
  deriving DecidableEq, Repr

/-- The names of the nodes that are open, the innermost first. -/
abbrev OpenNodes : Type := List (List UInt8)

/-- The outermost open node tells what its properties are taken for. -/
def OpenNodes.kind (opened : OpenNodes) : CurrentNode :=
  match opened.getLast? with
  | none => .none
  | some name => .ofName name

/-- The bytes hold the word "iommu". -/
def mentionsIommu (compat : List UInt8) : Bool :=
  compat.tails.any fun window => iommuName.isPrefixOf window

/-- So many bytes are looked at until the word "iommu" is found: none if it has no room. -/
def iommuReach : List UInt8 → Nat
  | [] => 0
  | byte :: rest =>
      if rest.length + 1 < 5 then 0
      else if iommuName.isPrefixOf (byte :: rest) then 5
      else max 5 (iommuReach rest + 1)

/-- So many bytes of a property of the node are looked at. -/
def CurrentNode.looksAt (kind : CurrentNode) (name value : List UInt8) : Nat :=
  match kind with
  | .memory => if name = regName ∧ 16 ≤ value.length then 16 else 0
  | .plic => if name = regName ∧ 8 ≤ value.length then 8 else 0
  | .possibleIommu => if name = compatibleName then iommuReach value else 0
  | .none => 0

namespace FdtBlob

/-- The name stands at the offset, and the zero behind it is in the blob. -/
def Named (blob : FdtBlob) (offset : Nat) (name : List UInt8) : Prop :=
  offset + name.length < blob.totalsize ∧
    blob.mem.read offset (name.length + 1) = name ++ [0] ∧ 0 ∉ name

end FdtBlob

namespace FdtItem

def token : FdtItem → Nat
  | beginNode _ => fdtBeginNode
  | endNode => fdtEndNode
  | prop _ _ => fdtProp
  | nop => fdtNop

/-- Where the next item starts, if the token of this one ends at the offset. -/
def behind (offset : Nat) : FdtItem → Nat
  | beginNode name => (offset + (name.length + 1) + 3) / 4 * 4
  | endNode => offset
  | prop _ value => (offset + 8 + value.length + 3) / 4 * 4
  | nop => offset

/-- What stands behind the token. -/
def Body (blob : FdtBlob) (strings offset : Nat) : FdtItem → Prop
  | beginNode name => blob.Named offset name ∧ offset + (name.length + 1) + 3 < 2 ^ 32
  | endNode => True
  | prop name value =>
      offset + 8 ≤ blob.totalsize ∧ wordAt blob.mem offset = value.length ∧
        blob.mem.read (offset + 8) value.length = value ∧
          offset + 8 + value.length + 3 < 2 ^ 32 ∧
            strings + wordAt blob.mem (offset + 4) < 2 ^ 32 ∧
              blob.Named (strings + wordAt blob.mem (offset + 4)) name
  | nop => True

/-- The item stands at the offset. -/
structure At (blob : FdtBlob) (strings offset : Nat) (item : FdtItem) : Prop where
  inside : offset + 4 ≤ blob.totalsize
  token : wordAt blob.mem offset = item.token
  body : item.Body blob strings (offset + 4)

/-- So many bytes of the value are looked at. -/
def looksAt (kind : CurrentNode) : FdtItem → Nat
  | prop name value => kind.looksAt name value
  | _ => 0

/-- The part of a value that is looked at lies in the blob. -/
def ValueInside (blob : FdtBlob) (kind : CurrentNode) (offset : Nat) (item : FdtItem) : Prop :=
  0 < item.looksAt kind → offset + 8 + item.looksAt kind ≤ blob.totalsize

/-- The nodes that are open behind an item. -/
def opens (opened : OpenNodes) : FdtItem → OpenNodes
  | beginNode name => name :: opened
  | endNode => opened.tail
  | _ => opened

end FdtItem

/-- The items from an offset on are in the blob as far as they are looked at, up to the end of
the structure block or to a token that ends it. -/
inductive FdtFits (blob : FdtBlob) (strings structEnd : Nat) : OpenNodes → Nat → Prop where
  | past {opened : OpenNodes} {offset : Nat} (exhausted : structEnd ≤ offset) :
      FdtFits blob strings structEnd opened offset
  | stop {opened : OpenNodes} {offset : Nat} (inside : offset + 4 ≤ blob.totalsize)
      (ends : ∀ item : FdtItem, wordAt blob.mem offset ≠ item.token) :
      FdtFits blob strings structEnd opened offset
  | next {opened : OpenNodes} {offset : Nat} (item : FdtItem)
      (here : item.At blob strings offset)
      (value : item.ValueInside blob opened.kind (offset + 4))
      (rest : FdtFits blob strings structEnd (item.opens opened) (item.behind (offset + 4))) :
      FdtFits blob strings structEnd opened offset

/-! ## The word in a compatible -/

theorem ByteMemory.take_read {mem : ByteMemory} {addr first len : Nat} (shorter : first ≤ len) :
    (mem.read addr len).take first = mem.read addr first := by
  rw [ByteMemory.read, ← List.map_take, List.take_range, Nat.min_eq_left shorter]
  rfl

theorem isPrefixOf_read {mem : ByteMemory} {offset len : Nat} (room : 5 ≤ len) :
    iommuName.isPrefixOf (mem.read offset len) = true ↔ mem.read offset 5 = iommuName := by
  rw [List.isPrefixOf_iff_prefix, List.prefix_iff_eq_take, eq_comm]
  exact Eq.congr_left (ByteMemory.take_read room)

theorem mentionsIommu_cons (byte : UInt8) (rest : List UInt8) :
    mentionsIommu (byte :: rest) =
      (iommuName.isPrefixOf (byte :: rest) || mentionsIommu rest) := rfl

theorem mentionsIommu_of_lt {value : List UInt8} (short : value.length < 5) :
    mentionsIommu value = false := by
  induction value with
  | nil => rfl
  | cons byte rest ih =>
      rw [mentionsIommu_cons, ih (by rw [List.length_cons] at short; omega),
        Bool.or_false, ← Bool.not_eq_true]
      intro found
      have long : 5 ≤ (byte :: rest).length := (List.isPrefixOf_iff_prefix.1 found).length_le
      omega

/-- A window is looked at if there is room for one. -/
theorem le_iommuReach {value : List UInt8} (looks : 0 < iommuReach value) :
    5 ≤ iommuReach value := by
  cases value with
  | nil => exact absurd looks (Nat.lt_irrefl 0)
  | cons byte rest =>
      rw [iommuReach] at looks ⊢
      split at looks
      · exact absurd looks (Nat.lt_irrefl 0)
      · rw [if_neg ‹_›]
        split
        · exact Nat.le_refl 5
        · exact Nat.le_max_left _ _

/-! ## Reading the blob -/

namespace FdtBlob

variable {blob : FdtBlob} {offset word : Nat} {name : List UInt8}

theorem readU32At_of_inside (inside : offset + 4 ≤ blob.totalsize) :
    blob.readU32At offset = .ok (wordAt blob.mem offset) := by
  rw [readU32At, Checked.bind_of_ok (Checked.readBytes_of_inside (Nat.zero_le _) inside)]
  rfl

theorem readU32At_eq_ok :
    blob.readU32At offset = .ok word ↔
      offset + 4 ≤ blob.totalsize ∧ wordAt blob.mem offset = word := by
  rw [readU32At, Checked.bind_eq_ok]
  constructor
  · rintro ⟨raw, ran, same⟩
    obtain ⟨_, inside, rfl⟩ := Checked.readBytes_eq_ok.1 ran
    exact ⟨inside, Except.ok.inj same⟩
  · rintro ⟨inside, rfl⟩
    exact ⟨_, Checked.readBytes_of_inside (Nat.zero_le _) inside, rfl⟩

theorem readCstrFrom_eq_ok {left : Nat} :
    blob.readCstrFrom left offset = .ok name ↔
      name.length < left ∧ blob.mem.read offset (name.length + 1) = name ++ [0] ∧ 0 ∉ name := by
  induction left generalizing offset name with
  | zero => exact iff_of_false (fun ran => nomatch ran) (fun all => Nat.not_lt_zero _ all.1)
  | succ left ih =>
      rw [readCstrFrom, ByteMemory.read_succ]
      by_cases ends : blob.mem offset = 0
      · rw [if_pos ends, ends]
        cases name with
        | nil => exact iff_of_true rfl ⟨Nat.succ_pos left, rfl, List.not_mem_nil⟩
        | cons byte rest =>
            apply iff_of_false
            · exact fun same => nomatch same
            · rintro ⟨_, same, absent⟩
              have first := (List.cons.inj same).1
              rw [← first] at absent
              exact absent List.mem_cons_self
      · rw [if_neg ends, Checked.bind_eq_ok]
        constructor
        · rintro ⟨rest, ran, same⟩
          obtain rfl := Except.ok.inj same
          obtain ⟨short, stored, absent⟩ := ih.1 ran
          refine ⟨Nat.succ_lt_succ short, ?_, ?_⟩
          · rw [List.length_cons, stored]
            rfl
          · rw [List.mem_cons, not_or]
            exact ⟨fun zero => ends zero.symm, absent⟩
        · rintro ⟨short, stored, absent⟩
          cases name with
          | nil =>
              obtain ⟨zero, _⟩ := List.cons.inj stored
              exact absurd zero ends
          | cons byte rest =>
              obtain ⟨rfl, stored⟩ := List.cons.inj stored
              rw [List.mem_cons, not_or] at absent
              exact ⟨rest, ih.2 ⟨Nat.lt_of_succ_lt_succ short, stored, absent.2⟩,
                rfl⟩

theorem readCstrAt_eq_ok : blob.readCstrAt offset = .ok name ↔ blob.Named offset name := by
  rw [readCstrAt, readCstrFrom_eq_ok, Named, Nat.lt_sub_iff_add_lt, Nat.add_comm]

/-- The windows are in the blob up to the first that is found, or to the last. -/
theorem anyIommu_eq_ok {len : Nat} {found : Bool} :
    blob.anyIommu len offset = .ok found ↔
      (0 < iommuReach (blob.mem.read offset len) →
        offset + iommuReach (blob.mem.read offset len) ≤ blob.totalsize) ∧
      mentionsIommu (blob.mem.read offset len) = found := by
  induction len generalizing offset with
  | zero =>
      rw [anyIommu, Checked.pure_eq_ok]
      exact (and_iff_right fun looks => absurd looks (Nat.lt_irrefl 0)).symm
  | succ len ih =>
      rw [ByteMemory.read_succ, anyIommu, iommuReach, mentionsIommu_cons, ByteMemory.length_read]
      by_cases short : len + 1 < 5
      · have few : (blob.mem.read offset (len + 1)).length < 5 := by
          rw [ByteMemory.length_read]
          exact short
        have absent := mentionsIommu_of_lt few
        rw [ByteMemory.read_succ, mentionsIommu_cons] at absent
        rw [if_pos short, if_pos short, Checked.pure_eq_ok, absent]
        exact (and_iff_right fun looks => absurd looks (Nat.lt_irrefl 0)).symm
      rw [if_neg short, if_neg short, Checked.bind_eq_ok]
      have window := @isPrefixOf_read blob.mem offset _ (Nat.le_of_not_lt short)
      rw [ByteMemory.read_succ] at window
      by_cases here : blob.mem.read offset 5 = iommuName
      · rw [if_pos (window.2 here), window.2 here, Bool.true_or]
        constructor
        · rintro ⟨bytes, ran, same⟩
          obtain ⟨_, inside, rfl⟩ := Checked.readBytes_eq_ok.1 ran
          rw [if_pos here] at same
          exact ⟨fun _ => inside, Except.ok.inj same⟩
        · rintro ⟨inside, rfl⟩
          refine ⟨_, Checked.readBytes_of_inside (Nat.zero_le _) (inside (by decide)), ?_⟩
          rw [if_pos here]
          rfl
      · have other : iommuName.isPrefixOf (blob.mem offset :: blob.mem.read (offset + 1) len) =
            false := by
          rw [← Bool.not_eq_true, window]
          exact here
        rw [other, if_neg Bool.false_ne_true, Bool.false_or]
        have reach := @le_iommuReach (blob.mem.read (offset + 1) len)
        constructor
        · rintro ⟨bytes, ran, rest⟩
          obtain ⟨_, inside, rfl⟩ := Checked.readBytes_eq_ok.1 ran
          rw [if_neg here] at rest
          obtain ⟨later, same⟩ := ih.1 rest
          exact ⟨fun _ => by omega, same⟩
        · rintro ⟨inside, same⟩
          have whole := inside (by omega)
          refine ⟨_, Checked.readBytes_of_inside (Nat.zero_le _) (by omega), ?_⟩
          rw [if_neg here]
          exact ih.2 ⟨fun _ => by omega, same⟩

end FdtBlob

theorem alignOffset_of_lt {checks : Bool} {offset : Nat} (fits : offset + 3 < 2 ^ 32) :
    alignOffset checks offset = .ok ((offset + 3) / 4 * 4) := by
  rw [alignOffset, Checked.bind_of_ok (Checked.add_of_lt fits)]
  rfl

theorem alignOffset_eq_ok {offset next : Nat} :
    alignOffset true offset = .ok next ↔
      offset + 3 < 2 ^ 32 ∧ (offset + 3) / 4 * 4 = next := by
  rw [alignOffset, Checked.bind_eq_ok]
  constructor
  · rintro ⟨sum, ran, same⟩
    obtain ⟨fits, rfl⟩ := Checked.add_eq_ok.1 ran
    exact ⟨fits, Except.ok.inj same⟩
  · rintro ⟨fits, rfl⟩
    exact ⟨_, Checked.add_of_lt fits, rfl⟩

/-! ## One item -/

/-- Two words, the high one first. -/
def pairAt (mem : ByteMemory) (offset : Nat) : Nat :=
  wordAt mem offset <<< 32 ||| wordAt mem (offset + 4)

/-- The result with what a property says. -/
def DtDiscoveryResult.note (result : DtDiscoveryResult) (mem : ByteMemory) (kind : CurrentNode)
    (valueOffset : Nat) (name : List UInt8) (len : Nat) : DtDiscoveryResult :=
  match kind with
  | .memory =>
      if name = regName ∧ 16 ≤ len then
        { result with
          memoryBase := some (pairAt mem valueOffset)
          memorySize := some (pairAt mem (valueOffset + 8)) }
      else result
  | .plic =>
      if name = regName ∧ 8 ≤ len then { result with plicBase := some (pairAt mem valueOffset) }
      else result
  | .possibleIommu =>
      if name = compatibleName then
        { result with
          iommuPresent := mentionsIommu (mem.read valueOffset len) || result.iommuPresent }
      else result
  | .none => result

namespace FdtWalk

variable {checks : Bool} {blob : FdtBlob} {walk later : FdtWalk} {item : FdtItem}
  {offset value len : Nat} {name : List UInt8} {result : DtDiscoveryResult}

theorem readPair_eq_ok (fits : offset + 4 < 2 ^ 32) :
    readPair checks blob offset = .ok value ↔
      offset + 8 ≤ blob.totalsize ∧ pairAt blob.mem offset = value := by
  rw [readPair, Checked.bind_eq_ok]
  constructor
  · rintro ⟨high, ran, rest⟩
    obtain ⟨_, rfl⟩ := FdtBlob.readU32At_eq_ok.1 ran
    rw [Checked.bind_of_ok (Checked.add_of_lt fits), Checked.bind_eq_ok] at rest
    obtain ⟨low, ran, same⟩ := rest
    obtain ⟨inside, rfl⟩ := FdtBlob.readU32At_eq_ok.1 ran
    exact ⟨inside, Except.ok.inj same⟩
  · rintro ⟨inside, rfl⟩
    have first : offset + 4 ≤ blob.totalsize := by omega
    refine ⟨_, FdtBlob.readU32At_of_inside first, ?_⟩
    rw [Checked.bind_of_ok (Checked.add_of_lt fits),
      Checked.bind_of_ok (FdtBlob.readU32At_of_inside inside)]
    rfl

/-- The value of a property that ends in the machine word is read if it is in the blob, as far
as it is looked at. -/
theorem readValue_eq_ok (fits : offset + len < 2 ^ 32) :
    readValue checks blob walk name offset len = .ok result ↔
      (0 < walk.current.looksAt name (blob.mem.read offset len) →
        offset + walk.current.looksAt name (blob.mem.read offset len) ≤ blob.totalsize) ∧
      walk.result.note blob.mem walk.current offset name len = result := by
  unfold readValue DtDiscoveryResult.note CurrentNode.looksAt
  rw [ByteMemory.length_read]
  cases walk.current with
  | none => simp only [Nat.lt_irrefl, false_implies, true_and, Checked.pure_eq_ok]
  | memory =>
      by_cases named : name = regName ∧ 16 ≤ len
      · have long := named.2
        simp only [if_pos named, Nat.reduceLT, true_implies]
        rw [Checked.bind_eq_ok]
        constructor
        · rintro ⟨base, ran, rest⟩
          obtain ⟨_, rfl⟩ := (readPair_eq_ok (by omega)).1 ran
          rw [Checked.bind_of_ok (Checked.add_of_lt (by omega)), Checked.bind_eq_ok] at rest
          obtain ⟨size, ran, same⟩ := rest
          obtain ⟨inside, rfl⟩ := (readPair_eq_ok (by omega)).1 ran
          exact ⟨inside, Except.ok.inj same⟩
        · rintro ⟨inside, rfl⟩
          refine ⟨_, (readPair_eq_ok (by omega)).2 ⟨by omega, rfl⟩, ?_⟩
          rw [Checked.bind_of_ok (Checked.add_of_lt (by omega)),
            Checked.bind_of_ok ((readPair_eq_ok (by omega)).2 ⟨inside, rfl⟩)]
          rfl
      · simp only [if_neg named, Nat.lt_irrefl, false_implies, true_and, Checked.pure_eq_ok]
  | plic =>
      by_cases named : name = regName ∧ 8 ≤ len
      · have long := named.2
        simp only [if_pos named, Nat.reduceLT, true_implies]
        rw [Checked.bind_eq_ok]
        constructor
        · rintro ⟨base, ran, same⟩
          obtain ⟨inside, rfl⟩ := (readPair_eq_ok (by omega)).1 ran
          exact ⟨inside, Except.ok.inj same⟩
        · rintro ⟨inside, rfl⟩
          exact ⟨_, (readPair_eq_ok (by omega)).2 ⟨inside, rfl⟩, rfl⟩
      · simp only [if_neg named, Nat.lt_irrefl, false_implies, true_and, Checked.pure_eq_ok]
  | possibleIommu =>
      by_cases named : name = compatibleName
      · simp only [if_pos named]
        rw [Checked.bind_eq_ok]
        constructor
        · rintro ⟨found, ran, same⟩
          obtain ⟨inside, rfl⟩ := FdtBlob.anyIommu_eq_ok.1 ran
          exact ⟨inside, Except.ok.inj same⟩
        · rintro ⟨inside, rfl⟩
          exact ⟨_, FdtBlob.anyIommu_eq_ok.2 ⟨inside, rfl⟩, rfl⟩
      · simp only [if_neg named, Nat.lt_irrefl, false_implies, true_and, Checked.pure_eq_ok]

/-- The walk behind an item whose token ends at the offset. -/
def after (mem : ByteMemory) (walk : FdtWalk) (offset : Nat) (item : FdtItem) : FdtWalk :=
  let later := walk.moveTo (item.behind offset)
  match item with
  | .beginNode name => later.enter name
  | .endNode => later.leave
  | .prop name value =>
      { later with
        result := walk.result.note mem walk.current (offset + 8) name value.length }
  | .nop => later

/-- A node name with the zero behind it, and its padding. -/
theorem beginNode_of_named (named : blob.Named offset name)
    (fits : offset + (name.length + 1) + 3 < 2 ^ 32) :
    beginNode checks blob (walk.moveTo offset) =
      .ok ((walk.moveTo ((offset + (name.length + 1) + 3) / 4 * 4)).enter name) := by
  have inside := named.1
  have size : name.length + 1 < 2 ^ 32 := by omega
  have sum : offset + (name.length + 1) < 2 ^ 32 := by omega
  have here : (walk.moveTo offset).offset = offset := rfl
  rw [beginNode, here, Checked.bind_of_ok (FdtBlob.readCstrAt_eq_ok.2 named),
    Checked.bind_of_ok (Checked.add_of_lt size), Checked.bind_of_ok (Checked.add_of_lt sum),
    Checked.bind_of_ok (alignOffset_of_lt fits)]
  rfl

theorem beginNode_eq_ok (ran : beginNode true blob (walk.moveTo offset) = .ok later) :
    ∃ name, blob.Named offset name ∧ offset + (name.length + 1) + 3 < 2 ^ 32 ∧
      later = (walk.moveTo ((offset + (name.length + 1) + 3) / 4 * 4)).enter name := by
  obtain ⟨name, read, rest⟩ := Checked.bind_eq_ok.1 ran
  obtain ⟨size, added, rest⟩ := Checked.bind_eq_ok.1 rest
  obtain ⟨_, rfl⟩ := Checked.add_eq_ok.1 added
  obtain ⟨sum, added, rest⟩ := Checked.bind_eq_ok.1 rest
  obtain ⟨_, rfl⟩ := Checked.add_eq_ok.1 added
  obtain ⟨next, aligned, same⟩ := Checked.bind_eq_ok.1 rest
  obtain ⟨fits, rfl⟩ := alignOffset_eq_ok.1 aligned
  exact ⟨name, FdtBlob.readCstrAt_eq_ok.1 read, fits, (Except.ok.inj same).symm⟩

theorem property_of_body {name value : List UInt8}
    (body : (FdtItem.prop name value).Body blob walk.walker.stringsStart offset)
    (inside : (FdtItem.prop name value).ValueInside blob walk.current offset) :
    property checks blob (walk.moveTo offset) =
      .ok (walk.after blob.mem offset (.prop name value)) := by
  obtain ⟨header, len, stored, fits, nameFits, named⟩ := body
  have here : (walk.moveTo offset).offset = offset := rfl
  have strings : (walk.moveTo offset).walker.stringsStart = walk.walker.stringsStart := rfl
  have value : readValue checks blob (walk.moveTo offset) name (offset + 8) value.length =
      .ok (walk.result.note blob.mem walk.current (offset + 8) name value.length) :=
    (readValue_eq_ok (by omega)).2 ⟨by rw [stored]; exact inside, rfl⟩
  rw [property, here, Checked.bind_of_ok (FdtBlob.readU32At_of_inside (by omega)), len,
    Checked.bind_of_ok (Checked.add_of_lt (by omega)),
    Checked.bind_of_ok (FdtBlob.readU32At_of_inside header),
    Checked.bind_of_ok (Checked.add_of_lt (by omega)),
    Checked.bind_of_ok (Checked.add_of_lt (by omega)),
    Checked.bind_of_ok (alignOffset_of_lt fits), strings,
    Checked.bind_of_ok (Checked.add_of_lt nameFits),
    Checked.bind_of_ok (FdtBlob.readCstrAt_eq_ok.2 named), Checked.bind_of_ok value]
  rfl

theorem property_eq_ok (ran : property true blob (walk.moveTo offset) = .ok later) :
    ∃ name value, (FdtItem.prop name value).Body blob walk.walker.stringsStart offset ∧
      (FdtItem.prop name value).ValueInside blob walk.current offset ∧
        later = walk.after blob.mem offset (.prop name value) := by
  obtain ⟨len, read, rest⟩ := Checked.bind_eq_ok.1 ran
  obtain ⟨_, rfl⟩ := FdtBlob.readU32At_eq_ok.1 read
  obtain ⟨nameoffAt, added, rest⟩ := Checked.bind_eq_ok.1 rest
  obtain ⟨_, rfl⟩ := Checked.add_eq_ok.1 added
  obtain ⟨nameoff, read, rest⟩ := Checked.bind_eq_ok.1 rest
  obtain ⟨header, rfl⟩ := FdtBlob.readU32At_eq_ok.1 read
  obtain ⟨valueOffset, added, rest⟩ := Checked.bind_eq_ok.1 rest
  obtain ⟨_, rfl⟩ := Checked.add_eq_ok.1 added
  obtain ⟨sum, added, rest⟩ := Checked.bind_eq_ok.1 rest
  obtain ⟨stop, rfl⟩ := Checked.add_eq_ok.1 added
  obtain ⟨next, aligned, rest⟩ := Checked.bind_eq_ok.1 rest
  obtain ⟨fits, rfl⟩ := alignOffset_eq_ok.1 aligned
  obtain ⟨nameAt, added, rest⟩ := Checked.bind_eq_ok.1 rest
  obtain ⟨nameFits, rfl⟩ := Checked.add_eq_ok.1 added
  obtain ⟨name, read, rest⟩ := Checked.bind_eq_ok.1 rest
  obtain ⟨result, value, same⟩ := Checked.bind_eq_ok.1 rest
  obtain ⟨inside, rfl⟩ := (readValue_eq_ok stop).1 value
  have len : (blob.mem.read (offset + 8) (wordAt blob.mem offset)).length =
      wordAt blob.mem offset := ByteMemory.length_read _ _
  refine ⟨name, blob.mem.read (offset + 8) (wordAt blob.mem offset), ?_, ?_, ?_⟩
  · refine ⟨header, len.symm, ?_, ?_, nameFits, FdtBlob.readCstrAt_eq_ok.1 read⟩
    · rw [len]
    · rw [len]
      exact fits
  · exact inside
  · rw [← Except.ok.inj same, after, FdtItem.behind, len]
    rfl

/-! ## One iteration -/

theorem iterate_past (exhausted : walk.walker.structEnd ≤ walk.offset) :
    iterate checks blob walk = .ok (.done walk.result) := by
  rw [iterate, if_pos exhausted]
  rfl

theorem iterate_token (small : blob.totalsize < 2 ^ 32)
    (before : walk.offset < walk.walker.structEnd) (inside : walk.offset + 4 ≤ blob.totalsize) :
    iterate checks blob walk =
      if wordAt blob.mem walk.offset = fdtBeginNode then do
        let later ← beginNode checks blob (walk.moveTo (walk.offset + 4))
        return .again later
      else if wordAt blob.mem walk.offset = fdtEndNode then
        return .again (walk.moveTo (walk.offset + 4)).leave
      else if wordAt blob.mem walk.offset = fdtProp then do
        let later ← property checks blob (walk.moveTo (walk.offset + 4))
        return .again later
      else if wordAt blob.mem walk.offset = fdtNop then
        return .again (walk.moveTo (walk.offset + 4))
      else return .done walk.result := by
  rw [iterate, if_neg (Nat.not_le_of_lt before),
    Checked.bind_of_ok (FdtBlob.readU32At_of_inside inside),
    Checked.bind_of_ok (Checked.add_of_lt (by omega))]
  rfl

theorem iterate_item (small : blob.totalsize < 2 ^ 32)
    (before : walk.offset < walk.walker.structEnd)
    (here : item.At blob walk.walker.stringsStart walk.offset)
    (value : item.ValueInside blob walk.current (walk.offset + 4)) :
    iterate checks blob walk = .ok (.again (walk.after blob.mem (walk.offset + 4) item)) := by
  rw [iterate_token small before here.inside, here.token]
  cases item with
  | beginNode name =>
      change (beginNode checks blob (walk.moveTo (walk.offset + 4)) >>= _) = _
      rw [Checked.bind_of_ok (beginNode_of_named here.body.1 here.body.2)]
      rfl
  | endNode => rfl
  | prop name bytes =>
      change (property checks blob (walk.moveTo (walk.offset + 4)) >>= _) = _
      rw [Checked.bind_of_ok (property_of_body here.body value)]
      rfl
  | nop => rfl

theorem iterate_stop (small : blob.totalsize < 2 ^ 32)
    (before : walk.offset < walk.walker.structEnd) (inside : walk.offset + 4 ≤ blob.totalsize)
    (ends : ∀ item : FdtItem, wordAt blob.mem walk.offset ≠ item.token) :
    iterate checks blob walk = .ok (.done walk.result) := by
  have begins : wordAt blob.mem walk.offset ≠ fdtBeginNode := ends (.beginNode [])
  have leaves : wordAt blob.mem walk.offset ≠ fdtEndNode := ends .endNode
  have property : wordAt blob.mem walk.offset ≠ fdtProp := ends (.prop [] [])
  have skips : wordAt blob.mem walk.offset ≠ fdtNop := ends .nop
  rw [iterate_token small before inside, if_neg begins, if_neg leaves, if_neg property,
    if_neg skips]
  rfl

/-- What an iteration read, if it did not go wrong. -/
theorem iterate_cases (small : blob.totalsize < 2 ^ 32)
    {next : Iteration FdtWalk DtDiscoveryResult} (ran : iterate true blob walk = .ok next)
    (before : walk.offset < walk.walker.structEnd) :
    (walk.offset + 4 ≤ blob.totalsize ∧
        ∀ item : FdtItem, wordAt blob.mem walk.offset ≠ item.token) ∨
      ∃ item : FdtItem, item.At blob walk.walker.stringsStart walk.offset ∧
        item.ValueInside blob walk.current (walk.offset + 4) ∧
          next = .again (walk.after blob.mem (walk.offset + 4) item) := by
  have inside : walk.offset + 4 ≤ blob.totalsize := by
    rw [iterate, if_neg (Nat.not_le_of_lt before)] at ran
    obtain ⟨_, read, _⟩ := Checked.bind_eq_ok.1 ran
    exact (FdtBlob.readU32At_eq_ok.1 read).1
  rw [iterate_token small before inside] at ran
  by_cases begins : wordAt blob.mem walk.offset = fdtBeginNode
  · rw [if_pos begins] at ran
    obtain ⟨later, entered, same⟩ := Checked.bind_eq_ok.1 ran
    obtain ⟨name, named, fits, rfl⟩ := beginNode_eq_ok entered
    exact Or.inr ⟨.beginNode name, ⟨inside, begins, named, fits⟩,
      fun looks => absurd looks (Nat.lt_irrefl 0), (Except.ok.inj same).symm⟩
  rw [if_neg begins] at ran
  by_cases leaves : wordAt blob.mem walk.offset = fdtEndNode
  · rw [if_pos leaves] at ran
    exact Or.inr ⟨.endNode, ⟨inside, leaves, trivial⟩,
      fun looks => absurd looks (Nat.lt_irrefl 0), (Except.ok.inj ran).symm⟩
  rw [if_neg leaves] at ran
  by_cases property : wordAt blob.mem walk.offset = fdtProp
  · rw [if_pos property] at ran
    obtain ⟨later, noted, same⟩ := Checked.bind_eq_ok.1 ran
    obtain ⟨name, value, body, valueInside, rfl⟩ := property_eq_ok noted
    exact Or.inr ⟨.prop name value, ⟨inside, property, body⟩, valueInside,
      (Except.ok.inj same).symm⟩
  rw [if_neg property] at ran
  by_cases skips : wordAt blob.mem walk.offset = fdtNop
  · rw [if_pos skips] at ran
    exact Or.inr ⟨.nop, ⟨inside, skips, trivial⟩,
      fun looks => absurd looks (Nat.lt_irrefl 0), (Except.ok.inj ran).symm⟩
  · left
    refine ⟨inside, fun item => ?_⟩
    cases item with
    | beginNode name => exact begins
    | endNode => exact leaves
    | prop name value => exact property
    | nop => exact skips

/-! ## The open nodes -/

/-- The variables of the walk follow the open nodes. -/
structure Tracks (walk : FdtWalk) (opened : OpenNodes) : Prop where
  current : walk.current = opened.kind
  depth : opened ≠ [] → walk.depth + 1 = walk.currentDepth + opened.length

theorem Tracks.moveTo {opened : OpenNodes} (tracks : walk.Tracks opened) (offset : Nat) :
    (walk.moveTo offset).Tracks opened := ⟨tracks.current, tracks.depth⟩

theorem ofName_ne_none (name : List UInt8) : CurrentNode.ofName name ≠ .none := by
  unfold CurrentNode.ofName
  split
  · exact fun same => nomatch same
  · split
    · exact fun same => nomatch same
    · exact fun same => nomatch same

theorem kind_eq_none {opened : OpenNodes} : opened.kind = .none ↔ opened = [] := by
  unfold OpenNodes.kind
  cases last : opened.getLast? with
  | none => exact iff_of_true rfl (List.getLast?_eq_none_iff.1 last)
  | some name =>
      apply iff_of_false (ofName_ne_none name)
      rintro rfl
      cases last

theorem kind_cons {opened : OpenNodes} (nonempty : opened ≠ []) (name : List UInt8) :
    OpenNodes.kind (name :: opened) = opened.kind := by
  obtain ⟨first, rest, rfl⟩ := List.exists_cons_of_ne_nil nonempty
  rw [OpenNodes.kind, OpenNodes.kind, List.getLast?_cons_cons]

theorem Tracks.enter {opened : OpenNodes} (tracks : walk.Tracks opened) (name : List UInt8) :
    (walk.enter name).Tracks (name :: opened) := by
  by_cases outside : opened = []
  · obtain rfl := outside
    have none : walk.current = .none := tracks.current.trans (kind_eq_none.2 rfl)
    rw [FdtWalk.enter, if_pos none]
    constructor
    · rfl
    · intro _
      rfl
  · have inside : walk.current ≠ .none := by
      rw [tracks.current]
      exact fun none => outside (kind_eq_none.1 none)
    have depth := tracks.depth outside
    rw [FdtWalk.enter, if_neg inside]
    constructor
    · exact tracks.current.trans (kind_cons outside name).symm
    · intro _
      change walk.depth + 1 + 1 = walk.currentDepth + ((opened.length + 1 : Nat) : Int)
      omega

theorem Tracks.leave {opened : OpenNodes} (tracks : walk.Tracks opened) :
    walk.leave.Tracks opened.tail := by
  cases opened with
  | nil =>
      have none : walk.current = .none := tracks.current.trans (kind_eq_none.2 rfl)
      constructor
      · unfold FdtWalk.leave
        split
        · rfl
        · exact none
      · exact fun nonempty => absurd rfl nonempty
  | cons name rest =>
      have depth := tracks.depth (List.cons_ne_nil _ _)
      rw [List.length_cons] at depth
      by_cases outermost : rest = []
      · obtain rfl := outermost
        have same : walk.depth = walk.currentDepth := by
          rw [List.length_nil] at depth
          omega
        rw [FdtWalk.leave, if_pos same]
        exact ⟨rfl, fun nonempty => absurd rfl nonempty⟩
      · have positive := List.length_pos_iff.2 outermost
        have deeper : walk.depth ≠ walk.currentDepth := by omega
        rw [FdtWalk.leave, if_neg deeper]
        constructor
        · exact tracks.current.trans (kind_cons outermost name)
        · intro _
          change walk.depth - 1 + 1 = walk.currentDepth + (rest.length : Int)
          omega

theorem Tracks.after {opened : OpenNodes} (tracks : walk.Tracks opened) (mem : ByteMemory)
    (offset : Nat) (item : FdtItem) :
    (walk.after mem offset item).Tracks (item.opens opened) := by
  cases item with
  | beginNode name => exact (tracks.moveTo _).enter name
  | endNode => exact (tracks.moveTo _).leave
  | prop name value => exact ⟨tracks.current, tracks.depth⟩
  | nop => exact tracks.moveTo _

@[simp]
theorem offset_after (mem : ByteMemory) (offset : Nat) :
    (walk.after mem offset item).offset = item.behind offset := by
  cases item with
  | beginNode name =>
      change ((walk.moveTo _).enter name).offset = _
      unfold FdtWalk.enter
      split <;> rfl
  | endNode =>
      change (walk.moveTo _).leave.offset = _
      unfold FdtWalk.leave
      split <;> rfl
  | prop name value => rfl
  | nop => rfl

/-- The bounds of the blocks do not change. -/
theorem bounds_after (mem : ByteMemory) (offset : Nat) :
    (walk.after mem offset item).walker.structEnd = walk.walker.structEnd ∧
      (walk.after mem offset item).walker.stringsStart = walk.walker.stringsStart := by
  cases item with
  | beginNode name =>
      change ((walk.moveTo _).enter name).walker.structEnd = _ ∧
        ((walk.moveTo _).enter name).walker.stringsStart = _
      unfold FdtWalk.enter
      split <;> exact ⟨rfl, rfl⟩
  | endNode =>
      change (walk.moveTo _).leave.walker.structEnd = _ ∧
        (walk.moveTo _).leave.walker.stringsStart = _
      unfold FdtWalk.leave
      split <;> exact ⟨rfl, rfl⟩
  | prop name value => exact ⟨rfl, rfl⟩
  | nop => exact ⟨rfl, rfl⟩

theorem le_behind (offset : Nat) (item : FdtItem) : offset ≤ item.behind offset := by
  cases item with
  | beginNode name =>
      rw [FdtItem.behind]
      omega
  | endNode => exact Nat.le_refl offset
  | prop name value =>
      rw [FdtItem.behind]
      omega
  | nop => exact Nat.le_refl offset

/-! ## The whole loop -/

theorem completes_of_fits (small : blob.totalsize < 2 ^ 32) {strings structEnd : Nat}
    {opened : OpenNodes} (fits : FdtFits blob strings structEnd opened offset)
    (here : walk.offset = offset) (tracks : walk.Tracks opened)
    (bounds : walk.walker.structEnd = structEnd ∧ walk.walker.stringsStart = strings) :
    ∃ result, CursorLoop.Completes (iterate checks blob) FdtWalk.offset walk result := by
  induction fits generalizing walk with
  | past exhausted =>
      rw [← bounds.1, ← here] at exhausted
      exact ⟨_, .done (iterate_past exhausted)⟩
  | stop inside ends =>
      rcases Nat.lt_or_ge walk.offset walk.walker.structEnd with before | exhausted
      · rw [← here] at inside ends
        exact ⟨_, .done (iterate_stop small before inside ends)⟩
      · exact ⟨_, .done (iterate_past exhausted)⟩
  | next item stands value rest ih =>
      rcases Nat.lt_or_ge walk.offset walk.walker.structEnd with before | exhausted
      · rw [← here, ← bounds.2] at stands
        rw [← here, ← tracks.current] at value
        obtain ⟨result, completes⟩ := @ih (walk.after blob.mem (walk.offset + 4) item)
          (by rw [offset_after, here]) (tracks.after _ _ _)
          ⟨(bounds_after _ _).1.trans bounds.1, (bounds_after _ _).2.trans bounds.2⟩
        refine ⟨result, .again (iterate_item small before stands value) ?_ completes⟩
        rw [offset_after]
        exact Nat.lt_of_lt_of_le (Nat.lt_add_of_pos_right (by decide)) (le_behind _ _)
      · exact ⟨_, .done (iterate_past exhausted)⟩

theorem fits_of_completes (small : blob.totalsize < 2 ^ 32)
    (completes : CursorLoop.Completes (iterate true blob) FdtWalk.offset walk result)
    {opened : OpenNodes} (tracks : walk.Tracks opened) :
    FdtFits blob walk.walker.stringsStart walk.walker.structEnd opened walk.offset := by
  induction completes generalizing opened with
  | @done walk result ends =>
      rcases Nat.lt_or_ge walk.offset walk.walker.structEnd with before | exhausted
      · rcases iterate_cases small ends before with ⟨inside, other⟩ | ⟨_, _, _, same⟩
        · exact .stop inside other
        · cases same
      · exact .past exhausted
  | @again walk later result goes _ _ ih =>
      rcases Nat.lt_or_ge walk.offset walk.walker.structEnd with before | exhausted
      · rcases iterate_cases small goes before with ⟨inside, other⟩ | ⟨item, stands, value, same⟩
        · rw [iterate_stop small before inside other] at goes
          cases goes
        · cases same
          have rest := ih (tracks.after blob.mem (walk.offset + 4) item)
          rw [offset_after, (bounds_after _ _).1, (bounds_after _ _).2] at rest
          rw [tracks.current] at value
          exact .next item stands value rest
      · exact .past exhausted

theorem tracks_start (walker : FdtWalker) : (start walker).Tracks [] :=
  ⟨rfl, fun nonempty => absurd rfl nonempty⟩

end FdtWalk

theorem wordAt_lt (mem : ByteMemory) (offset : Nat) : wordAt mem offset < 2 ^ 32 := by
  have length : (mem.read offset 4).reverse.length = 4 := by
    rw [List.length_reverse, ByteMemory.length_read]
  have bound := Bytes.decode_lt (mem.read offset 4).reverse
  rw [length] at bound
  exact bound

theorem FdtHeader.totalsize_lt {mem : ByteMemory} {header : FdtHeader}
    (read : FdtHeader.read mem = some header) : header.totalsize < 2 ^ 32 := by
  rw [FdtHeader.read] at read
  split at read
  · cases read
  · obtain rfl := Option.some.inj read
    exact wordAt_lt mem 4

theorem FdtWalker.new_eq_ok {header : FdtHeader} {walker : FdtWalker} :
    FdtWalker.new true header = .ok walker ↔
      header.offDtStruct + header.sizeDtStruct < 2 ^ 32 ∧
        walker = {
          structStart := header.offDtStruct
          structEnd := header.offDtStruct + header.sizeDtStruct
          stringsStart := header.offDtStrings
          offset := header.offDtStruct } := by
  rw [FdtWalker.new, Checked.bind_eq_ok]
  constructor
  · rintro ⟨stop, added, same⟩
    obtain ⟨fits, rfl⟩ := Checked.add_eq_ok.1 added
    exact ⟨fits, (Except.ok.inj same).symm⟩
  · rintro ⟨fits, rfl⟩
    exact ⟨_, Checked.add_of_lt fits, rfl⟩

/-- The walk over a blob comes to an end, every iteration moves the offset forward, and it reads
nothing outside the blob.  With overflow checks, no sum leaves 32 bits. -/
def WalksInside (checks : Bool) (mem : ByteMemory) (header : FdtHeader) : Prop :=
  ∃ walker result, FdtWalker.new checks header = .ok walker ∧
    CursorLoop.Completes (FdtWalk.iterate checks ⟨mem, header.totalsize⟩) FdtWalk.offset
      (.start walker) result

/-- The structure block of the header ends in 32 bits and fits. -/
def FdtHeader.Fits (mem : ByteMemory) (header : FdtHeader) : Prop :=
  header.offDtStruct + header.sizeDtStruct < 2 ^ 32 ∧
    FdtFits ⟨mem, header.totalsize⟩ header.offDtStrings
      (header.offDtStruct + header.sizeDtStruct) [] header.offDtStruct

/-- The walk stays inside exactly the blobs whose structure block fits. -/
theorem walk_stays_inside_iff (mem : ByteMemory) :
    (∀ header, FdtHeader.read mem = some header → ∀ checks, WalksInside checks mem header) ↔
      ∀ header, FdtHeader.read mem = some header → header.Fits mem := by
  apply forall₂_congr
  intro header read
  have small := FdtHeader.totalsize_lt read
  constructor
  · intro walks
    obtain ⟨walker, result, made, completes⟩ := walks true
    obtain ⟨fits, rfl⟩ := FdtWalker.new_eq_ok.1 made
    exact ⟨fits, FdtWalk.fits_of_completes small completes (FdtWalk.tracks_start _)⟩
  · rintro ⟨fits, items⟩ checks
    let walker : FdtWalker := {
      structStart := header.offDtStruct
      structEnd := header.offDtStruct + header.sizeDtStruct
      stringsStart := header.offDtStrings
      offset := header.offDtStruct }
    have made : FdtWalker.new checks header = .ok walker :=
      (Checked.bind_of_ok (Checked.add_of_lt fits) _).trans rfl
    have completes : ∃ result, CursorLoop.Completes
        (FdtWalk.iterate checks ⟨mem, header.totalsize⟩) FdtWalk.offset (.start walker) result :=
      FdtWalk.completes_of_fits small items rfl (FdtWalk.tracks_start walker) ⟨rfl, rfl⟩
    obtain ⟨result, completes⟩ := completes
    exact ⟨walker, result, made, completes⟩

/-- A memory that begins with these words. -/
def memoryOf (words : List Nat) : ByteMemory := fun addr =>
  ((words.flatMap fun word => (Bytes.encode 4 word).reverse)[addr]?).getD 0

/-- The value of the only property ends where the property starts, 4 GiB further on. -/
def loopingBlob : ByteMemory :=
  memoryOf [0xd00dfeed, 60, 40, 56, 0, 17, 16, 0, 4, 16, 3, 0xfffffff4, 0, 9, 0]

/-- Does an iteration move the offset forward, or end the loop? -/
def FdtWalk.progresses (checks : Bool) (blob : FdtBlob) (walk : FdtWalk) : Bool :=
  match walk.iterate checks blob with
  | .ok (.again later) => walk.offset < later.offset
  | .ok (.done _) => true
  | .error _ => false

theorem FdtWalk.progresses_of_completes {checks : Bool} {blob : FdtBlob} {walk : FdtWalk}
    {result : DtDiscoveryResult}
    (completes : CursorLoop.Completes (iterate checks blob) FdtWalk.offset walk result) :
    walk.progresses checks blob = true := by
  unfold progresses
  cases completes with
  | done ends => rw [ends]
  | again goes forward =>
      rw [goes]
      exact decide_eq_true forward

/-- Without overflow checks the walk reads that property again and again, and with overflow
checks it panics. -/
theorem looping_blob_not_walked :
    ∃ header, FdtHeader.read loopingBlob = some header ∧
      ∀ checks, ¬ WalksInside checks loopingBlob header := by
  refine ⟨⟨0xd00dfeed, 60, 40, 56, 0, 17, 16, 0, 4, 16⟩, by decide +kernel, ?_⟩
  rintro checks ⟨walker, result, made, completes⟩
  have progress := FdtWalk.progresses_of_completes completes
  cases checks with
  | false =>
      cases made
      revert progress
      decide +kernel
  | true =>
      cases made
      revert progress
      decide +kernel

end Simurgh
