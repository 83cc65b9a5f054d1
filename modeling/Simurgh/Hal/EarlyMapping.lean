import Simurgh.Hal.EarlyTables

/-!
# How the early page tables grow

The tables in use form a tree whose upper words are links, and the rest of the pool is blank.
Mapping a page links the tables that its path lacks, as long as the pool has as many, and
replaces one word of the last level.
-/

namespace Simurgh

namespace EarlyFormat

/-- The tables in use form a tree, and the rest of the pool is blank. -/
structure Sound (format : EarlyFormat) (statics : StaticTables) (state : EarlyState) : Prop where
  tree : RadixTree.IsTree format.reading state.mem.store statics.root 3
  used : state.next ≤ tablePoolSize
  nodes : ∀ frame, RadixTree.Node format.reading state.mem.store statics.root 3 frame →
    frame = statics.root ∨ ∃ k < state.next, frame = statics.pool + k
  upper : ∀ p frame i, p.length < 3 →
    RadixTree.follow format.reading state.mem.store p statics.root = some frame →
      state.mem.store frame i = 0 ∨
        ∃ k < state.next, state.mem.store frame i = format.link (4096 * (statics.pool + k))
  blank : ∀ k, state.next ≤ k → k < tablePoolSize → ∀ i,
    state.mem.store (statics.pool + k) i = 0
  limits : ∀ q, q.length ≤ 3 →
    RadixTree.limits format.reading state.mem.store q statics.root = id

variable {format : EarlyFormat} {statics : StaticTables} {state before later : EarlyState}
  {p done rest path : List (Fin 512)} {frame : Nat} {i : Fin 512}

theorem pool_lt (statics : StaticTables) {k : Nat} (inside : k < tablePoolSize) :
    statics.pool + k < 2 ^ 36 := by
  have within := statics.within.2
  change k < 16 at inside
  omega

namespace Sound

/-! ## Entries of the upper tables -/

/-- An entry on the way down is empty, or it leads to the next table. -/
theorem entry_cases (sound : Sound format statics state) (lawful : format.Lawful)
    (here : RadixTree.follow format.reading state.mem.store done statics.root = some frame)
    (short : done.length < 3) (i : Fin 512) :
    (state.mem.store frame i = 0 ∧
      ¬ RadixTree.Reached format.reading state.mem.store statics.root (done ++ [i])) ∨
    ∃ next, format.present (state.mem.store frame i) = true ∧
      format.table (state.mem.store frame i) = 4096 * next ∧
      RadixTree.follow format.reading state.mem.store (done ++ [i]) statics.root = some next := by
  rcases sound.upper done frame i short here with empty | ⟨k, inUse, linked⟩
  · left
    refine ⟨empty, ?_⟩
    rw [RadixTree.Reached, RadixTree.follow_append_of_some here, RadixTree.follow, empty,
      lawful.empty.1]
    exact Bool.false_ne_true
  · right
    have inside := pool_lt statics (Nat.lt_of_lt_of_le inUse sound.used)
    obtain ⟨present, table, next, _⟩ := lawful.link _ inside
    refine ⟨statics.pool + k, ?_, ?_, ?_⟩
    · rw [linked, present]
    · rw [linked, table]
    · rw [RadixTree.follow_append_of_some here, RadixTree.follow, linked, next]
      rfl

/-- The next table of the pool can be linked into an empty entry. -/
theorem canLink (sound : Sound format statics state) (lawful : format.Lawful)
    (here : RadixTree.follow format.reading state.mem.store done statics.root = some frame)
    (short : done.length < 3) (empty : state.mem.store frame i = 0)
    (room : state.next < tablePoolSize) :
    RadixTree.CanLink format.reading state.mem.store statics.root 3 done frame i
      (format.link (4096 * (statics.pool + state.next))) (statics.pool + state.next) := by
  obtain ⟨_, _, next, clear⟩ := lawful.link _ (pool_lt statics room)
  constructor
  · exact sound.tree
  · exact here
  · exact short
  · rw [empty]
    exact lawful.empty.1
  · rw [empty]
    exact lawful.empty.2
  · exact next
  · exact clear
  · intro node
    rcases sound.nodes _ node with isRoot | ⟨k, inUse, same⟩
    · have apart := statics.apart
      change state.next < 16 at room
      omega
    · omega
  · intro j
    rw [sound.blank state.next (Nat.le_refl _) room]
    exact lawful.empty

/-- One more table of the pool is in use. -/
theorem link (sound : Sound format statics state) (lawful : format.Lawful)
    (here : RadixTree.follow format.reading state.mem.store done statics.root = some frame)
    (short : done.length < 3) (empty : state.mem.store frame i = 0)
    (room : state.next < tablePoolSize) {mem : TableMemory}
    (put : mem.store = RadixTree.put state.mem.store frame i
      (format.link (4096 * (statics.pool + state.next)))) :
    Sound format statics ⟨mem, state.next + 1⟩ := by
  have can := sound.canLink lawful here short empty room
  have linked := can.linked
  rw [← put] at linked
  have others : ∀ k, state.next ≤ k → k < tablePoolSize → statics.pool + k ≠ frame := by
    rintro k free inside rfl
    rcases sound.nodes _ ⟨done, Nat.le_of_lt short, here⟩ with isRoot | ⟨j, inUse, same⟩
    · have apart := statics.apart
      change k < 16 at inside
      omega
    · omega
  constructor
  · exact linked.tree
  · exact room
  · rintro other ⟨q, bounded, there⟩
    rcases (linked.follows q other bounded).1 there with old | ⟨_, rfl⟩
    · rcases sound.nodes other ⟨q, bounded, old⟩ with isRoot | ⟨k, inUse, same⟩
      · exact Or.inl isRoot
      · exact Or.inr ⟨k, Nat.lt_succ_of_lt inUse, same⟩
    · exact Or.inr ⟨state.next, Nat.lt_succ_self _, rfl⟩
  · intro q other j inside there
    change mem.store other j = 0 ∨ ∃ k < state.next + 1, mem.store other j = _
    rcases (linked.follows q other (Nat.le_of_lt inside)).1 there with old | ⟨_, rfl⟩
    · by_cases new : other = frame ∧ j = i
      · obtain ⟨rfl, rfl⟩ := new
        right
        refine ⟨state.next, Nat.lt_succ_self _, ?_⟩
        rw [put, RadixTree.put_self]
      · have kept : mem.store other j = state.mem.store other j := by
          rw [put]
          exact if_neg new
        rw [kept]
        rcases sound.upper q other j inside old with zero | ⟨k, inUse, word⟩
        · exact Or.inl zero
        · exact Or.inr ⟨k, Nat.lt_succ_of_lt inUse, word⟩
    · left
      rw [put, RadixTree.put_of_ne (others _ (Nat.le_refl _) room)]
      exact sound.blank _ (Nat.le_refl _) room j
  · intro k free inside j
    change mem.store (statics.pool + k) j = 0
    rw [put, RadixTree.put_of_ne (others k (Nat.le_of_succ_le free) inside)]
    exact sound.blank k (Nat.le_of_succ_le free) inside j
  · intro q bounded
    exact (linked.limits q bounded).trans (sound.limits q bounded)

/-- A word of the last level was replaced. -/
theorem store (sound : Sound format statics state)
    (here : RadixTree.follow format.reading state.mem.store path statics.root = some frame)
    (whole : path.length = 3) {mem : TableMemory} {word : Word}
    (put : mem.store = RadixTree.put state.mem.store frame i word) :
    Sound format statics ⟨mem, state.next⟩ := by
  have stored := RadixTree.stored_put sound.tree here whole i word
  rw [← put] at stored
  constructor
  · exact stored.tree
  · exact sound.used
  · rintro other ⟨q, bounded, there⟩
    exact sound.nodes other ⟨q, bounded, (stored.follows q bounded).symm.trans there⟩
  · intro q other j inside there
    have old := (stored.follows q (Nat.le_of_lt inside)).symm.trans there
    have ne : other ≠ frame := by
      rintro rfl
      have same := sound.tree q path other (Nat.le_of_lt inside) (Nat.le_of_eq whole) old here
      rw [same, whole] at inside
      exact Nat.lt_irrefl 3 inside
    change mem.store other j = 0 ∨ ∃ k < state.next, mem.store other j = _
    rw [put, RadixTree.put_of_ne ne]
    exact sound.upper q other j inside old
  · intro k free inside j
    have ne : statics.pool + k ≠ frame := by
      rintro rfl
      rcases sound.nodes _ ⟨path, Nat.le_of_eq whole, here⟩ with isRoot | ⟨other, inUse, same⟩
      · have apart := statics.apart
        change k < 16 at inside
        omega
      · change state.next ≤ k at free
        omega
    change mem.store (statics.pool + k) j = 0
    rw [put, RadixTree.put_of_ne ne]
    exact sound.blank k free inside j
  · intro q bounded
    exact (stored.limits q bounded).trans (sound.limits q bounded)

end Sound

/-! ## Walking down a path -/

/-- The tables that the path lacks. -/
def lack (format : EarlyFormat) (statics : StaticTables) (state : EarlyState)
    (paths : List (List (Fin 512))) : Nat :=
  (RadixTree.lacking format.reading state.mem.store statics.root paths).card

/-- The tables on the path were linked, and all pages are as before. -/
structure Built (format : EarlyFormat) (statics : StaticTables) (before after : EarlyState)
    (path : List (Fin 512)) (frame : Nat) : Prop where
  sound : Sound format statics after
  next : after.next = before.next + lack format statics before [path]
  adds : ∀ start, start.length ≤ 3 →
    (RadixTree.Reached format.reading after.mem.store statics.root start ↔
      RadixTree.Reached format.reading before.mem.store statics.root start ∨ start <+: path)
  here : RadixTree.follow format.reading after.mem.store path statics.root = some frame
  walks : ∀ q last, q.length = 3 →
    RadixTree.walk format.reading after.mem.store q last statics.root =
      RadixTree.walk format.reading before.mem.store q last statics.root

/-- The tables were there. -/
theorem Built.refl (sound : Sound format statics state)
    (here : RadixTree.follow format.reading state.mem.store path statics.root = some frame) :
    Built format statics state state path frame := by
  have reached : RadixTree.Reached format.reading state.mem.store statics.root path := by
    rw [RadixTree.Reached, here]
    rfl
  constructor
  · exact sound
  · rw [lack, RadixTree.lacking_of_reached reached]
    rfl
  · intro start _
    constructor
    · exact Or.inl
    · rintro (old | starts)
      · exact old
      · exact reached.of_prefix starts
  · exact here
  · exact fun _ _ _ => rfl

/-- A table was linked on the path before the path was built. -/
theorem Built.of_link {middle : EarlyState} (built : Built format statics middle later path frame)
    (total : middle.next + lack format statics middle [path] =
      before.next + lack format statics before [path])
    (adds : ∀ start : List (Fin 512), start.length ≤ 3 →
      (RadixTree.Reached format.reading middle.mem.store statics.root start ↔
        RadixTree.Reached format.reading before.mem.store statics.root start ∨ start = done))
    (starts : done <+: path)
    (walks : ∀ q last, q.length = 3 →
      RadixTree.walk format.reading middle.mem.store q last statics.root =
        RadixTree.walk format.reading before.mem.store q last statics.root) :
    Built format statics before later path frame where
  sound := built.sound
  next := built.next.trans total
  adds := by
    intro start bounded
    rw [built.adds start bounded, adds start bounded, or_assoc]
    apply or_congr_right
    constructor
    · rintro (rfl | inside)
      · exact starts
      · exact inside
    · exact Or.inr
  here := built.here
  walks := fun q last whole => (built.walks q last whole).trans (walks q last whole)

theorem allocTable_run (room : state.next < tablePoolSize) :
    allocTable statics state =
      .ok (4096 * (statics.pool + state.next)) { state with next := state.next + 1 } := by
  rw [allocTable, Exec.get_bind_run, if_neg (Nat.not_le_of_lt room)]
  rfl

theorem allocTable_full (full : tablePoolSize ≤ state.next) :
    allocTable statics state = .err .invalidMemoryRegion state := by
  rw [allocTable, Exec.get_bind_run, if_pos full]
  rfl

theorem ensureTable_present {slot : Nat} (present : format.present (state.mem slot) = true) :
    format.ensureTable statics slot state = .ok () state := by
  rw [ensureTable, Exec.get_bind_run, if_pos present]
  rfl

theorem ensureTable_absent {slot : Nat} (absent : format.present (state.mem slot) = false)
    (room : state.next < tablePoolSize) :
    format.ensureTable statics slot state = .ok ()
      ⟨state.mem.write slot (format.link (4096 * (statics.pool + state.next))),
        state.next + 1⟩ := by
  rw [ensureTable, Exec.get_bind_run, absent, if_neg Bool.false_ne_true,
    Exec.bind_of_ok (allocTable_run room)]
  rfl

theorem ensureTable_full {slot : Nat} (absent : format.present (state.mem slot) = false)
    (full : tablePoolSize ≤ state.next) :
    format.ensureTable statics slot state = .err .invalidMemoryRegion state := by
  rw [ensureTable, Exec.get_bind_run, absent, if_neg Bool.false_ne_true,
    Exec.bind_of_err (allocTable_full full)]

/-- A table is linked at the end of a path. -/
theorem Sound.adds_link (sound : Sound format statics state) (lawful : format.Lawful)
    (here : RadixTree.follow format.reading state.mem.store done statics.root = some frame)
    (short : done.length < 3) (empty : state.mem.store frame i = 0)
    (room : state.next < tablePoolSize) {mem : TableMemory}
    (put : mem.store = RadixTree.put state.mem.store frame i
      (format.link (4096 * (statics.pool + state.next)))) {start : List (Fin 512)}
    (bounded : start.length ≤ 3) :
    RadixTree.Reached format.reading mem.store statics.root start ↔
      RadixTree.Reached format.reading state.mem.store statics.root start ∨
        start = done ++ [i] := by
  have linked := (sound.canLink lawful here short empty room).linked
  rw [← put] at linked
  rw [RadixTree.Reached, RadixTree.Reached, Option.isSome_iff_exists, Option.isSome_iff_exists]
  constructor
  · rintro ⟨table, there⟩
    rcases (linked.follows start table bounded).1 there with old | ⟨same, _⟩
    · exact Or.inl ⟨table, old⟩
    · exact Or.inr same
  · rintro (⟨table, old⟩ | same)
    · exact ⟨table, (linked.follows start table bounded).2 (Or.inl old)⟩
    · exact ⟨_, (linked.follows start _ bounded).2 (Or.inr ⟨same, rfl⟩)⟩

/-- A new table is linked into an empty entry, and the walk goes on from there. -/
theorem Sound.walkDown_absent (sound : Sound format statics state) (lawful : format.Lawful)
    (here : RadixTree.follow format.reading state.mem.store done statics.root = some frame)
    (whole : ((done ++ [i]) ++ rest).length = 3) (empty : state.mem.store frame i = 0)
    (absent : ¬ RadixTree.Reached format.reading state.mem.store statics.root (done ++ [i]))
    (room : state.next < tablePoolSize) :
    ∃ middle, format.walkDown statics (i :: rest) (4096 * frame) state =
        format.walkDown statics rest (4096 * (statics.pool + state.next)) middle ∧
      Sound format statics middle ∧
      RadixTree.follow format.reading middle.mem.store (done ++ [i]) statics.root =
        some (statics.pool + state.next) ∧
      middle.next + lack format statics middle [(done ++ [i]) ++ rest] =
        state.next + lack format statics state [(done ++ [i]) ++ rest] ∧
      ∀ last after, Built format statics middle after ((done ++ [i]) ++ rest) last →
        Built format statics state after ((done ++ [i]) ++ rest) last := by
  have inside : (done ++ [i]).length ≤ 3 := by
    rw [← whole, @List.length_append _ (done ++ [i])]
    exact Nat.le_add_right _ _
  have short : done.length < 3 := by
    rw [List.length_append] at inside
    exact inside
  have isAbsent : format.present (state.mem (4096 * frame + 8 * i.val)) = false := by
    change format.present (state.mem.store frame i) = false
    rw [empty]
    exact lawful.zero
  let middle : EarlyState :=
    ⟨state.mem.write (4096 * frame + 8 * i.val)
      (format.link (4096 * (statics.pool + state.next))), state.next + 1⟩
  have put : middle.mem.store = RadixTree.put state.mem.store frame i _ :=
    state.mem.store_write frame i _
  have linked := (sound.canLink lawful here short empty room).linked
  rw [← put] at linked
  have adds : ∀ start : List (Fin 512), start.length ≤ 3 → _ :=
    fun start bounded => sound.adds_link lawful here short empty room put bounded
  have total : middle.next + lack format statics middle [(done ++ [i]) ++ rest] =
      state.next + lack format statics state [(done ++ [i]) ++ rest] := by
    have fewer : lack format statics state [(done ++ [i]) ++ rest] =
        lack format statics middle [(done ++ [i]) ++ rest] + 1 := by
      apply @RadixTree.card_lacking_link _ _ _ _ _ _ _ _ _ 3
      · intro path member
        rw [List.mem_singleton.1 member]
        exact Nat.le_of_eq whole
      · exact adds
      · exact RadixTree.mem_lacking_singleton.2 ⟨List.prefix_append _ _, absent⟩
    rw [fewer]
    change state.next + 1 + _ = _
    omega
  refine ⟨middle, ?_, ?_, ?_, total, ?_⟩
  · have word : middle.mem.store frame i =
        format.link (4096 * (statics.pool + state.next)) := by
      rw [put, RadixTree.put_self]
    rw [walkDown, Exec.bind_of_ok (ensureTable_absent isAbsent room), Exec.get_bind_run]
    change format.walkDown statics rest (format.table (middle.mem.store frame i)) middle = _
    rw [word, (lawful.link _ (pool_lt statics room)).2.1]
  · exact sound.link lawful here short empty room put
  · exact (linked.follows _ _ inside).2 (Or.inr ⟨rfl, rfl⟩)
  · intro last after built
    exact built.of_link total adds (List.prefix_append _ _) linked.walks

/-- The path is built if the pool has the tables that it lacks.  Otherwise the walk fails. -/
theorem walkDown_ends (lawful : format.Lawful) (rest : List (Fin 512)) :
    ∀ {state : EarlyState} {done : List (Fin 512)} {frame : Nat},
      Sound format statics state →
      RadixTree.follow format.reading state.mem.store done statics.root = some frame →
      (done ++ rest).length = 3 →
        (state.next + lack format statics state [done ++ rest] ≤ tablePoolSize ∧
          ∃ last after, format.walkDown statics rest (4096 * frame) state =
            .ok (4096 * last) after ∧
              Built format statics state after (done ++ rest) last) ∨
        (tablePoolSize < state.next + lack format statics state [done ++ rest] ∧
          ∃ after, format.walkDown statics rest (4096 * frame) state =
            .err .invalidMemoryRegion after ∧ Sound format statics after) := by
  induction rest with
  | nil =>
      intro state done frame sound here _
      rw [List.append_nil]
      have built := Built.refl sound here
      have next := built.next
      left
      refine ⟨?_, frame, state, rfl, built⟩
      have used := sound.used
      omega
  | cons i rest ih =>
      intro state done frame sound here whole
      have short : done.length < 3 := by
        rw [List.length_append, List.length_cons] at whole
        omega
      have split : done ++ i :: rest = (done ++ [i]) ++ rest := by
        rw [List.append_assoc]
        rfl
      have entry : state.mem (4096 * frame + 8 * i.val) = state.mem.store frame i := rfl
      rw [split] at whole ⊢
      rcases sound.entry_cases lawful here short i with
        ⟨empty, absent⟩ | ⟨next, present, table, there⟩
      · by_cases room : state.next < tablePoolSize
        · obtain ⟨middle, run, kept, there, total, whenBuilt⟩ :=
            sound.walkDown_absent lawful here whole empty absent room
          rw [run, ← total]
          rcases ih kept there whole with
            ⟨fits, last, after, ran, built⟩ | failed
          · exact Or.inl ⟨fits, last, after, ran, whenBuilt last after built⟩
          · exact Or.inr failed
        · have full := Nat.le_of_not_lt room
          have isAbsent : format.present (state.mem (4096 * frame + 8 * i.val)) = false := by
            rw [entry, empty]
            exact lawful.zero
          have some : 0 < lack format statics state [(done ++ [i]) ++ rest] :=
            Finset.card_pos.2
              ⟨_, RadixTree.mem_lacking_singleton.2 ⟨List.prefix_append _ _, absent⟩⟩
          right
          refine ⟨by omega, state, ?_, sound⟩
          rw [walkDown, Exec.bind_of_err (ensureTable_full isAbsent full)]
      · have run : format.walkDown statics (i :: rest) (4096 * frame) state =
            format.walkDown statics rest (4096 * next) state := by
          rw [walkDown, Exec.bind_of_ok (ensureTable_present present), Exec.get_bind_run, entry,
            table]
        rw [run]
        exact ih sound there whole

/-! ## One page -/

/-- A page was mapped, and no other. -/
structure PageMapped (format : EarlyFormat) (statics : StaticTables) (before after : EarlyState)
    (virt : Nat) (word : Word) : Prop where
  sound : Sound format statics after
  next : after.next = before.next + lack format statics before [upperPath 3 virt]
  adds : ∀ start, start.length ≤ 3 →
    (RadixTree.Reached format.reading after.mem.store statics.root start ↔
      RadixTree.Reached format.reading before.mem.store statics.root start ∨
        start <+: upperPath 3 virt)
  here : RadixTree.walk format.reading after.mem.store (upperPath 3 virt) (slotIndex 0 virt)
    statics.root = format.reading.stop 0 word
  others : ∀ q last, q.length = 3 → ¬ (q = upperPath 3 virt ∧ last = slotIndex 0 virt) →
    RadixTree.walk format.reading after.mem.store q last statics.root =
      RadixTree.walk format.reading before.mem.store q last statics.root

/-- The leaf is written into the table at the end of a path that was built. -/
theorem Built.mapped {virt : Nat}
    (built : Built format statics before later (upperPath 3 virt) frame) (word : Word) :
    PageMapped format statics before
      { later with mem := later.mem.write (4096 * frame + 8 * (slotIndex 0 virt).val) word }
      virt word := by
  have whole : (upperPath 3 virt).length = 3 := upperPath_length 3 virt
  have put := later.mem.store_write frame (slotIndex 0 virt) word
  have stored := RadixTree.stored_put built.sound.tree built.here whole (slotIndex 0 virt) word
  rw [← put] at stored
  constructor
  · exact built.sound.store built.here whole put
  · exact built.next
  · intro start bounded
    rw [← built.adds start bounded, RadixTree.Reached, RadixTree.Reached]
    rw [stored.follows start bounded]
  · rw [stored.here, built.sound.limits _ (Nat.le_of_eq whole), Option.map_id]
    rfl
  · intro q last full ne
    exact (stored.others q last full ne).trans (built.walks q last full)

theorem mapPage_ends (lawful : format.Lawful) (sound : Sound format statics state)
    (virt phys : Nat) (flags : Word) :
    (state.next + lack format statics state [upperPath 3 virt] ≤ tablePoolSize ∧
      ∃ after, format.mapPage statics virt phys flags state = .ok () after ∧
        PageMapped format statics state after virt (format.leaf phys flags)) ∨
    (tablePoolSize < state.next + lack format statics state [upperPath 3 virt] ∧
      ∃ after, format.mapPage statics virt phys flags state =
        .err .invalidMemoryRegion after ∧ Sound format statics after) := by
  have ends := @walkDown_ends _ statics lawful (upperPath 3 virt) state [] _ sound rfl
    (upperPath_length 3 virt)
  rw [List.nil_append] at ends
  rcases ends with
    ⟨fits, last, later, ran, built⟩ | ⟨many, later, ran, kept⟩
  · left
    refine ⟨fits, _, ?_, built.mapped (format.leaf phys flags)⟩
    rw [mapPage, Exec.bind_of_ok ran]
    rfl
  · right
    refine ⟨many, later, ?_, kept⟩
    rw [mapPage, Exec.bind_of_err ran]

/-! ## The loop over the pages -/

/-- The paths of the pages from an address on. -/
def pagePaths : (addr pages : Nat) → List (List (Fin 512))
  | _, 0 => []
  | addr, pages + 1 => upperPath 3 addr :: pagePaths (addr + 4096) pages

theorem length_of_mem_pagePaths {addr pages : Nat} (member : path ∈ pagePaths addr pages) :
    path.length = 3 := by
  induction pages generalizing addr with
  | zero => cases member
  | succ pages ih =>
      rcases List.mem_cons.1 member with rfl | later
      · exact upperPath_length 3 addr
      · exact ih later

/-- The pages from an address on were mapped, and no other. -/
structure PagesMapped (format : EarlyFormat) (statics : StaticTables)
    (before after : EarlyState) (flags : Word) (addr pages : Nat) : Prop where
  sound : Sound format statics after
  here : addr + pages * 4096 ≤ format.limit → ∀ k < pages,
    RadixTree.walk format.reading after.mem.store (upperPath 3 (addr + k * 4096))
      (slotIndex 0 (addr + k * 4096)) statics.root =
        format.reading.stop 0 (format.leaf (addr + k * 4096) flags)
  others : ∀ q last, q.length = 3 →
    (∀ k < pages,
      ¬ (q = upperPath 3 (addr + k * 4096) ∧ last = slotIndex 0 (addr + k * 4096))) →
    RadixTree.walk format.reading after.mem.store q last statics.root =
      RadixTree.walk format.reading before.mem.store q last statics.root

/-- One page before the others. -/
theorem PageMapped.cons (lawful : format.Lawful) {middle after : EarlyState} {flags : Word}
    {addr pages : Nat}
    (first : PageMapped format statics before middle addr (format.leaf addr flags))
    (others : PagesMapped format statics middle after flags (addr + 4096) pages) :
    PagesMapped format statics before after flags addr (pages + 1) := by
  have next : ∀ k, addr + 4096 + k * 4096 = addr + (k + 1) * 4096 := by
    intro k
    omega
  constructor
  · exact others.sound
  · intro below k inside
    cases k with
    | zero =>
        rw [Nat.zero_mul, Nat.add_zero, ← first.here]
        apply others.others _ _ (upperPath_length 3 addr)
        rintro j within ⟨upper, last⟩
        have canonical := lawful.canonical addr (by omega)
        have page := lawful.apart (addr + 4096 + j * 4096) addr (by omega) canonical upper last
        omega
    | succ k =>
        rw [← next k]
        exact others.here (by omega) k (Nat.lt_of_succ_lt_succ inside)
  · intro q last whole away
    rw [others.others q last whole]
    · apply first.others q last whole
      intro same
      apply away 0 (Nat.succ_pos pages)
      rw [Nat.zero_mul, Nat.add_zero]
      exact same
    · intro k inside same
      rw [next k] at same
      exact away (k + 1) (Nat.succ_lt_succ inside) same

/-- The loop ends well exactly if the pool has the tables that the pages lack. -/
theorem mapPages_ends (lawful : format.Lawful) (flags : Word) (pages : Nat) :
    ∀ {state : EarlyState} {addr : Nat}, Sound format statics state →
      (state.next + lack format statics state (pagePaths addr pages) ≤ tablePoolSize ∧
        ∃ after, format.mapPages statics flags addr pages state = .ok () after ∧
          PagesMapped format statics state after flags addr pages) ∨
      (tablePoolSize < state.next + lack format statics state (pagePaths addr pages) ∧
        ∃ after, format.mapPages statics flags addr pages state =
          .err .invalidMemoryRegion after ∧ Sound format statics after) := by
  induction pages with
  | zero =>
      intro state addr sound
      left
      refine ⟨sound.used, state, rfl, sound, ?_, fun _ _ _ _ => rfl⟩
      intro _ k inside
      exact absurd inside (Nat.not_lt_zero k)
  | succ pages ih =>
      intro state addr sound
      have bounded : ∀ path ∈ pagePaths (addr + 4096) pages, path.length ≤ 3 :=
        fun path member => Nat.le_of_eq (length_of_mem_pagePaths member)
      rcases mapPage_ends lawful sound addr addr flags with
        ⟨fits, middle, ran, first⟩ | ⟨many, after, ran, kept⟩
      · have total : lack format statics state (pagePaths addr (pages + 1)) =
            lack format statics state [upperPath 3 addr] +
              lack format statics middle (pagePaths (addr + 4096) pages) :=
          RadixTree.card_lacking_cons (Nat.le_of_eq (upperPath_length 3 addr)) bounded first.adds
        rw [total, ← Nat.add_assoc, ← first.next, mapPages, Exec.bind_of_ok ran]
        rcases @ih middle (addr + 4096) first.sound with
          ⟨enough, after, done, mapped⟩ | failed
        · exact Or.inl ⟨enough, after, done, first.cons lawful mapped⟩
        · exact Or.inr failed
      · right
        have more : lack format statics state [upperPath 3 addr] ≤
            lack format statics state (pagePaths addr (pages + 1)) := by
          apply Finset.card_le_card
          intro start member
          obtain ⟨starts, absent⟩ := RadixTree.mem_lacking_singleton.1 member
          exact RadixTree.mem_lacking.2 ⟨⟨_, List.mem_cons_self, starts⟩, absent⟩
        refine ⟨by omega, after, ?_, kept⟩
        rw [mapPages, Exec.bind_of_err ran]

end EarlyFormat

end Simurgh
