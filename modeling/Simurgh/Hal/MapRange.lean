import Simurgh.Core.State
import Simurgh.Hal.TableFormat

/-!
# Mapping a range

`map_range` walks the tables page by page, takes the tables that are missing from a pool of
blank frames, and writes the leaves.  The three architectures have the same loop.
-/

namespace Simurgh

/-- The arguments of `map_range`. -/
structure MapArgs where
  rootFrame : Nat
  vaddr : Nat
  paddr : Nat
  len : Nat
  permBits : Nat
  poolBase : Nat
  poolLen : Nat
  deriving DecidableEq, Repr

/-- The memory, and how many frames of the pool are in use. -/
structure MapWalk where
  mem : TableMemory
  used : Nat

/-- A frame of the pool, by number. -/
def MapArgs.poolFrame (args : MapArgs) (k : Nat) : Nat := args.poolBase / 4096 + k

namespace TableFormat

variable (format : TableFormat)

/-- The next table on the way to an address, which is built if it is missing.  A large page
ends the call. -/
def descend (args : MapArgs) (table level va : Nat) : Exec MapWalk Unit Nat := do
  let walk ← Exec.get
  let slot := entryAddr table level va
  let entry := walk.mem slot
  if format.present entry = false then
    if args.poolLen ≤ walk.used then Exec.throw ()
    else do
      let built := args.poolBase + walk.used * 4096
      Exec.modify fun walk =>
        { mem := walk.mem.write slot (format.link built), used := walk.used + 1 }
      return built
  else if format.block entry then Exec.throw ()
  else return format.table entry

def mapPage (args : MapArgs) (va pa : Nat) : Exec MapWalk Unit Unit := do
  let second ← format.descend args (format.top args.rootFrame) 2 va
  let last ← format.descend args second 1 va
  Exec.modify fun walk =>
    { walk with mem := walk.mem.write (entryAddr last 0 va) (format.leaf pa args.permBits) }

/-- The loop over the pages, with `remaining` of them left from page `p` on. -/
def mapPages (args : MapArgs) : (p remaining : Nat) → Exec MapWalk Unit Unit
  | _, 0 => pure ()
  | p, remaining + 1 => do
      format.mapPage args (args.vaddr + p * 4096) (args.paddr + p * 4096)
      mapPages args (p + 1) remaining

/-- The number of pool frames that were taken, or `u32::MAX`. -/
def mapRange (args : MapArgs) (mem : TableMemory) : Nat × TableMemory :=
  if args.rootFrame = 0 ∨ args.len = 0 ∨ (args.vaddr ||| args.paddr ||| args.len) &&& 0xFFF ≠ 0
  then (u32Max, mem)
  else
    match format.mapPages args 0 (args.len / 4096) { mem, used := 0 } with
    | .ok _ walk => (walk.used % 2 ^ 32, walk.mem)
    | .err _ walk => (u32Max, walk.mem)
    | .panic => (u32Max, mem)

/-! ## The tables during the walk -/

/-- What the caller of `map_range` has to see to: a forest of tables, and a pool of blank
frames outside of it. -/
structure Prepared (args : MapArgs) (mem : TableMemory) : Prop where
  forest : format.Forest mem args.rootFrame
  poolAligned : args.poolBase % 4096 = 0
  poolWithin : args.poolBase + args.poolLen * 4096 ≤ format.physLimit
  blank : ∀ k < args.poolLen, ∀ i, mem.store (args.poolFrame k) i = 0
  apart : ∀ k < args.poolLen, ¬ format.Node mem args.rootFrame (args.poolFrame k)

/-- The entries can also express the addresses and the permissions. -/
structure Usable (args : MapArgs) (mem : TableMemory) : Prop
    extends Prepared format args mem where
  virt : args.vaddr + args.len ≤ format.virtLimit
  phys : args.paddr + args.len ≤ format.physLimit
  grants : format.grants args.permBits = true

variable {format} {args : MapArgs} {before : TableMemory} {walk later : MapWalk}

/-- The forest has grown by the pool frames in use. -/
structure Grown (format : TableFormat) (args : MapArgs) (before : TableMemory)
    (walk : MapWalk) : Prop where
  tree : RadixTree.IsTree format.reading walk.mem.store (args.rootFrame / 4096) format.depth
  used : walk.used ≤ args.poolLen
  nodes : ∀ frame, format.Node walk.mem args.rootFrame frame ↔
    format.Node before args.rootFrame frame ∨ ∃ k < walk.used, frame = args.poolFrame k
  follows : ∀ q frame, q.length ≤ format.depth →
    RadixTree.follow format.reading before.store q (args.rootFrame / 4096) = some frame →
      RadixTree.follow format.reading walk.mem.store q (args.rootFrame / 4096) = some frame
  blank : ∀ k, walk.used ≤ k → k < args.poolLen → ∀ i,
    walk.mem.store (args.poolFrame k) i = 0
  limits : ∀ q, q.length ≤ format.depth →
    RadixTree.limits format.reading walk.mem.store q (args.rootFrame / 4096) =
      RadixTree.limits format.reading before.store q (args.rootFrame / 4096)

theorem Prepared.grown (prepared : format.Prepared args before) :
    Grown format args before { mem := before, used := 0 } where
  tree := prepared.forest.tree
  used := Nat.zero_le _
  nodes := by
    intro frame
    constructor
    · exact Or.inl
    · rintro (node | ⟨k, absurdity, _⟩)
      · exact node
      · exact absurd absurdity (Nat.not_lt_zero k)
  follows := fun _ _ _ there => there
  blank := fun k _ inside => prepared.blank k inside
  limits := fun _ _ => rfl

/-- Writing an entry replaces a word of one table. -/
theorem store_write (mem : TableMemory) (frame level va : Nat) (word : Word) :
    (mem.write (entryAddr (4096 * frame) level va) word).store =
      RadixTree.put mem.store frame (slotIndex level va) word :=
  mem.store_write frame (slotIndex level va) word

theorem next_of_absent {entry : Word} (absent : format.present entry = false) :
    format.reading.next entry = none ∧ ∀ level, format.reading.stop level entry = none := by
  constructor
  · change (if format.present entry && !format.block entry then _ else none) = none
    rw [absent]
    rfl
  · intro level
    change (if format.present entry then _ else none) = none
    rw [absent]
    rfl

theorem next_of_table {entry : Word} (present : format.present entry = true)
    (noBlock : format.block entry = false) :
    format.reading.next entry = some (format.table entry / 4096) := by
  change (if format.present entry && !format.block entry then _ else none) = _
  rw [present, noBlock]
  rfl

theorem poolFrame_inj {j k : Nat} (same : args.poolFrame j = args.poolFrame k) : j = k :=
  Nat.add_left_cancel same

/-- A frame of the pool that is not in use holds no table. -/
theorem Grown.unused (prepared : format.Prepared args before) (grown : Grown format args before walk)
    {k : Nat} (free : walk.used ≤ k) (inside : k < args.poolLen) :
    ¬ format.Node walk.mem args.rootFrame (args.poolFrame k) := by
  intro node
  rcases (grown.nodes _).1 node with old | ⟨other, inUse, same⟩
  · exact prepared.apart k inside old
  · obtain rfl := poolFrame_inj same
    exact Nat.lt_irrefl k (Nat.lt_of_lt_of_le inUse free)

/-- The first frame of the pool that is not in use can be linked. -/
theorem Grown.canLink (lawful : format.Lawful) (prepared : format.Prepared args before)
    (grown : Grown format args before walk) (room : walk.used < args.poolLen)
    {p : List (Fin 512)} {frame level va : Nat}
    (here : RadixTree.follow format.reading walk.mem.store p (args.rootFrame / 4096) =
      some frame)
    (short : p.length < format.depth)
    (absent : format.present (walk.mem.store frame (slotIndex level va)) = false) :
    RadixTree.CanLink format.reading walk.mem.store (args.rootFrame / 4096) format.depth p frame
      (slotIndex level va) (format.link (args.poolBase + walk.used * 4096))
      (args.poolFrame walk.used) := by
  have aligned := prepared.poolAligned
  have within := prepared.poolWithin
  obtain ⟨present, noBlock, table, open_⟩ :=
    lawful.link (args.poolBase + walk.used * 4096) (by omega) (by omega)
  have number : (args.poolBase + walk.used * 4096) / 4096 = args.poolFrame walk.used := by
    unfold MapArgs.poolFrame
    omega
  constructor
  · exact grown.tree
  · exact here
  · exact short
  · exact (next_of_absent absent).1
  · exact (next_of_absent absent).2
  · rw [next_of_table present noBlock, table, number]
  · funext page
    change { page with permissions := format.restrict _ page.permissions } = page
    rw [open_]
    rfl
  · exact grown.unused prepared (Nat.le_refl _) room
  · intro i
    apply next_of_absent
    rw [grown.blank walk.used (Nat.le_refl _) room]
    exact lawful.zero

/-- One more frame of the pool is in use. -/
theorem Grown.link (prepared : format.Prepared args before) (grown : Grown format args before walk)
    (room : walk.used < args.poolLen) {p : List (Fin 512)} {frame : Nat} {i : Fin 512}
    {mem : TableMemory} {word : Word}
    (here : RadixTree.follow format.reading walk.mem.store p (args.rootFrame / 4096) =
      some frame)
    (short : p.length < format.depth)
    (put : mem.store = RadixTree.put walk.mem.store frame i word)
    (linked : RadixTree.Linked format.reading walk.mem.store mem.store (args.rootFrame / 4096)
      format.depth (p ++ [i]) (args.poolFrame walk.used)) :
    Grown format args before { mem, used := walk.used + 1 } where
  tree := linked.tree
  used := room
  nodes := by
    intro other
    have bounded : (p ++ [i]).length ≤ format.depth := by
      rw [List.length_append]
      exact short
    constructor
    · rintro ⟨q, inside, there⟩
      rcases (linked.follows q other inside).1 there with old | ⟨_, rfl⟩
      · rcases (grown.nodes other).1 ⟨q, inside, old⟩ with old | ⟨k, inUse, same⟩
        · exact Or.inl old
        · exact Or.inr ⟨k, Nat.lt_succ_of_lt inUse, same⟩
      · exact Or.inr ⟨walk.used, Nat.lt_succ_self _, rfl⟩
    · intro either
      by_cases new : other = args.poolFrame walk.used
      · exact ⟨p ++ [i], bounded, (linked.follows _ _ bounded).2 (Or.inr ⟨rfl, new⟩)⟩
      · have old : format.Node walk.mem args.rootFrame other := by
          apply (grown.nodes other).2
          rcases either with old | ⟨k, inUse, same⟩
          · exact Or.inl old
          · rcases Nat.lt_succ_iff_lt_or_eq.1 inUse with inUse | rfl
            · exact Or.inr ⟨k, inUse, same⟩
            · exact absurd same new
        obtain ⟨q, inside, there⟩ := old
        exact ⟨q, inside, (linked.follows q other inside).2 (Or.inl there)⟩
  follows := by
    intro q other inside there
    apply (linked.follows q other inside).2
    exact Or.inl (grown.follows q other inside there)
  blank := by
    intro k free inside j
    have stillFree : walk.used ≤ k := Nat.le_of_succ_le free
    change mem.store (args.poolFrame k) j = 0
    rw [put, RadixTree.put_of_ne, grown.blank k stillFree inside]
    rintro rfl
    exact grown.unused prepared stillFree inside ⟨p, Nat.le_of_lt short, here⟩
  limits := by
    intro q inside
    rw [linked.limits q inside, grown.limits q inside]

/-- The next table is one of the tree.  It was there, or it is the first blank frame of the
pool. -/
theorem Grown.descend (lawful : format.Lawful) (prepared : format.Prepared args before)
    (grown : Grown format args before walk) {p : List (Fin 512)} {frame level va table : Nat}
    (here : RadixTree.follow format.reading walk.mem.store p (args.rootFrame / 4096) =
      some frame)
    (short : p.length < format.depth)
    (ran : format.descend args (4096 * frame) level va walk = .ok table later) :
    ∃ next, table = 4096 * next ∧ Grown format args before later ∧
      later.used ≤ walk.used + 1 ∧
      RadixTree.follow format.reading later.mem.store (p ++ [slotIndex level va])
        (args.rootFrame / 4096) = some next ∧
      ∀ q last, q.length = format.depth →
        RadixTree.walk format.reading later.mem.store q last (args.rootFrame / 4096) =
          RadixTree.walk format.reading walk.mem.store q last (args.rootFrame / 4096) := by
  have entry : walk.mem (entryAddr (4096 * frame) level va) =
      walk.mem.store frame (slotIndex level va) := rfl
  rw [TableFormat.descend, Exec.get_bind_run, entry] at ran
  by_cases absent : format.present (walk.mem.store frame (slotIndex level va)) = false
  · rw [if_pos absent] at ran
    by_cases full : args.poolLen ≤ walk.used
    · rw [if_pos full] at ran
      cases ran
    · rw [if_neg full, Exec.modify_bind_run] at ran
      obtain ⟨rfl, rfl⟩ := Outcome.ok.inj ran
      have room : walk.used < args.poolLen := Nat.lt_of_not_le full
      have linked := (grown.canLink lawful prepared room here short absent).linked
      have put := store_write walk.mem frame level va
        (format.link (args.poolBase + walk.used * 4096))
      rw [← put] at linked
      refine ⟨args.poolFrame walk.used, ?_, ?_, Nat.le_refl _, ?_, linked.walks⟩
      · have aligned := prepared.poolAligned
        unfold MapArgs.poolFrame
        omega
      · exact grown.link prepared room here short put linked
      · apply (linked.follows _ _ _).2 (Or.inr ⟨rfl, rfl⟩)
        rw [List.length_append]
        exact short
  · rw [if_neg absent] at ran
    rw [Bool.not_eq_false] at absent
    cases block : format.block (walk.mem.store frame (slotIndex level va)) with
    | true =>
        rw [block, if_pos rfl] at ran
        cases ran
    | false =>
        rw [block, if_neg (by decide)] at ran
        obtain ⟨rfl, rfl⟩ := Outcome.ok.inj ran
        refine ⟨format.table (walk.mem.store frame (slotIndex level va)) / 4096, ?_, grown,
          Nat.le_succ _, ?_, fun _ _ _ => rfl⟩
        · exact (Nat.mul_div_cancel' (Nat.dvd_of_mod_eq_zero (lawful.table_aligned _))).symm
        · rw [RadixTree.follow_append_of_some here, RadixTree.follow,
            next_of_table absent block]
          rfl

/-- A leaf was written. -/
theorem Grown.store (prepared : format.Prepared args before) (grown : Grown format args before walk)
    {p : List (Fin 512)} {frame : Nat} {i : Fin 512} {mem : TableMemory} {word : Word}
    (here : RadixTree.follow format.reading walk.mem.store p (args.rootFrame / 4096) =
      some frame)
    (whole : p.length = format.depth)
    (put : mem.store = RadixTree.put walk.mem.store frame i word)
    (stored : RadixTree.Stored format.reading walk.mem.store mem.store (args.rootFrame / 4096)
      format.depth p i word) :
    Grown format args before { walk with mem } where
  tree := stored.tree
  used := grown.used
  nodes := by
    intro other
    apply Iff.trans _ (grown.nodes other)
    constructor
    · rintro ⟨q, inside, there⟩
      exact ⟨q, inside, (stored.follows q inside).symm.trans there⟩
    · rintro ⟨q, inside, there⟩
      exact ⟨q, inside, (stored.follows q inside).trans there⟩
  follows := by
    intro q other inside there
    rw [stored.follows q inside]
    exact grown.follows q other inside there
  blank := by
    intro k free inside j
    change mem.store (args.poolFrame k) j = 0
    rw [put, RadixTree.put_of_ne, grown.blank k free inside]
    rintro rfl
    exact grown.unused prepared free inside ⟨p, Nat.le_of_eq whole, here⟩
  limits := by
    intro q inside
    rw [stored.limits q inside, grown.limits q inside]

/-- The leaf of one page was written, and no other. -/
structure PageWritten (format : TableFormat) (args : MapArgs) (before : TableMemory)
    (walk later : MapWalk) (va pa : Nat) : Prop where
  grown : Grown format args before later
  used : later.used ≤ walk.used + 2
  here : RadixTree.walk format.reading later.mem.store (upperPath format.depth va)
    (slotIndex 0 va) (args.rootFrame / 4096) =
      (format.reading.stop 0 (format.leaf pa args.permBits)).map
        (RadixTree.limits format.reading before.store (upperPath format.depth va)
          (args.rootFrame / 4096))
  others : ∀ q last, q.length = format.depth →
    ¬ (q = upperPath format.depth va ∧ last = slotIndex 0 va) →
      RadixTree.walk format.reading later.mem.store q last (args.rootFrame / 4096) =
        RadixTree.walk format.reading walk.mem.store q last (args.rootFrame / 4096)

/-- The path of the address goes through the table that `map_range` starts with. -/
def Rooted (format : TableFormat) (va : Nat) : Prop :=
  upperPath format.depth va = format.rootPath ++ [slotIndex 2 va, slotIndex 1 va]

theorem Grown.mapPage (lawful : format.Lawful) (prepared : format.Prepared args before)
    (grown : Grown format args before walk) {va pa : Nat} (rooted : format.Rooted va)
    (ran : format.mapPage args va pa walk = .ok () later) :
    PageWritten format args before walk later va pa := by
  have rootThere : RadixTree.follow format.reading walk.mem.store format.rootPath
      (args.rootFrame / 4096) = some (format.top args.rootFrame / 4096) :=
    grown.follows _ _ (Nat.le_add_right _ 2) prepared.forest.rooted
  have top : format.top args.rootFrame = 4096 * (format.top args.rootFrame / 4096) :=
    (Nat.mul_div_cancel' (Nat.dvd_of_mod_eq_zero
      (lawful.top_aligned _ prepared.forest.aligned))).symm
  rw [TableFormat.mapPage, top] at ran
  obtain ⟨_, first, firstRan, ran⟩ := Exec.bind_eq_ok.1 ran
  obtain ⟨second, rfl, firstGrown, firstUsed, there, firstWalks⟩ :=
    grown.descend lawful prepared rootThere (Nat.lt_add_of_pos_right (by decide)) firstRan
  obtain ⟨_, middle, middleRan, ran⟩ := Exec.bind_eq_ok.1 ran
  have secondShort : (format.rootPath ++ [slotIndex 2 va]).length < format.depth := by
    rw [List.length_append]
    exact Nat.lt_succ_self _
  obtain ⟨last, rfl, middleGrown, middleUsed, here, middleWalks⟩ :=
    firstGrown.descend lawful prepared there secondShort middleRan
  have path : format.rootPath ++ [slotIndex 2 va] ++ [slotIndex 1 va] =
      upperPath format.depth va := by
    rw [rooted, List.append_assoc]
    rfl
  rw [path] at here
  have whole : (upperPath format.depth va).length = format.depth := upperPath_length _ _
  have put := store_write middle.mem last 0 va (format.leaf pa args.permBits)
  have stored := RadixTree.stored_put middleGrown.tree here whole (slotIndex 0 va)
    (format.leaf pa args.permBits)
  rw [← put] at stored
  obtain ⟨_, rfl⟩ := Outcome.ok.inj ran
  constructor
  · exact middleGrown.store prepared here whole put stored
  · exact Nat.le_trans middleUsed (Nat.add_le_add_right firstUsed 1)
  · rw [stored.here, middleGrown.limits _ (Nat.le_of_eq whole)]
  · intro q other full ne
    rw [stored.others q other full ne, middleWalks q other full, firstWalks q other full]

/-! ## All pages -/

/-- The leaves of the pages from `p` on were written, and no others. -/
structure PagesWritten (format : TableFormat) (args : MapArgs) (before : TableMemory)
    (walk later : MapWalk) (p remaining : Nat) : Prop where
  grown : Grown format args before later
  used : later.used ≤ walk.used + 2 * remaining
  pages : ∀ k, p ≤ k → k < p + remaining →
    RadixTree.walk format.reading later.mem.store
      (upperPath format.depth (args.vaddr + k * 4096)) (slotIndex 0 (args.vaddr + k * 4096))
      (args.rootFrame / 4096) =
        (format.reading.stop 0 (format.leaf (args.paddr + k * 4096) args.permBits)).map
          (RadixTree.limits format.reading before.store
            (upperPath format.depth (args.vaddr + k * 4096)) (args.rootFrame / 4096))
  others : ∀ q last, q.length = format.depth →
    (∀ k, p ≤ k → k < p + remaining →
      ¬ (q = upperPath format.depth (args.vaddr + k * 4096) ∧
        last = slotIndex 0 (args.vaddr + k * 4096))) →
      RadixTree.walk format.reading later.mem.store q last (args.rootFrame / 4096) =
        RadixTree.walk format.reading walk.mem.store q last (args.rootFrame / 4096)

/-- The pages have paths of their own. -/
structure OwnPaths (format : TableFormat) (args : MapArgs) (pages : Nat) : Prop where
  rooted : ∀ k < pages, format.Rooted (args.vaddr + k * 4096)
  distinct : ∀ j k, j < pages → k < pages →
    upperPath format.depth (args.vaddr + j * 4096) =
        upperPath format.depth (args.vaddr + k * 4096) ∧
      slotIndex 0 (args.vaddr + j * 4096) = slotIndex 0 (args.vaddr + k * 4096) →
    j = k

theorem Usable.ownPaths (lawful : format.Lawful) (usable : format.Usable args before)
    {pages : Nat} (inside : pages * 4096 ≤ args.len) : OwnPaths format args pages := by
  have virt := usable.virt
  have low : ∀ k < pages, args.vaddr + k * 4096 < format.virtLimit := by
    intro k below
    omega
  constructor
  · exact fun k below => lawful.rootPath _ (low k below)
  · intro j k jBelow kBelow same
    have pages := lawful.apart _ _ (low k kBelow) (lawful.canonical _ (low j jBelow))
      same.1 same.2
    omega

/-- By induction on the pages that are left.  The later pages have other paths. -/
theorem Grown.mapPages (lawful : format.Lawful) (prepared : format.Prepared args before)
    (grown : Grown format args before walk) {p remaining : Nat}
    (paths : OwnPaths format args (p + remaining))
    (ran : format.mapPages args p remaining walk = .ok () later) :
    PagesWritten format args before walk later p remaining := by
  induction remaining generalizing p walk with
  | zero =>
      obtain ⟨_, rfl⟩ := Outcome.ok.inj ran
      constructor
      · exact grown
      · exact Nat.le_refl _
      · intro k from_ until_
        exact absurd until_ (Nat.not_lt_of_le from_)
      · intro q last _ _
        rfl
  | succ remaining ih =>
      rw [TableFormat.mapPages] at ran
      obtain ⟨_, middle, pageRan, restRan⟩ := Exec.bind_eq_ok.1 ran
      have page := grown.mapPage lawful prepared (paths.rooted p (by omega)) pageRan
      have left : p + (remaining + 1) = p + 1 + remaining := by omega
      rw [left] at paths
      have rest := ih page.grown paths restRan
      constructor
      · exact rest.grown
      · have first := page.used
        have others := rest.used
        omega
      · intro k from_ until_
        rcases Nat.eq_or_lt_of_le from_ with rfl | after
        · rw [rest.others _ _ (upperPath_length _ _), page.here]
          intro k after below same
          have := paths.distinct p k (by omega) (by omega) same
          omega
        · exact rest.pages k after (by omega)
      · intro q last whole apart
        rw [rest.others q last whole, page.others q last whole]
        · exact apart p (Nat.le_refl _) (by omega)
        · intro k from_ until_
          exact apart k (by omega) (by omega)

/-! ## Addresses and pages -/

theorem aligned_of_or {a b c : Nat} (low : (a ||| b ||| c) &&& 0xFFF = 0) :
    a % 4096 = 0 ∧ b % 4096 = 0 ∧ c % 4096 = 0 := by
  have bits : (a ||| b ||| c) % 2 ^ 12 = 0 := by
    rw [← Nat.and_two_pow_sub_one_eq_mod]
    exact low
  rw [Nat.or_mod_two_pow, Nat.or_mod_two_pow, Nat.or_eq_zero_iff, Nat.or_eq_zero_iff] at bits
  exact ⟨bits.1.1, bits.1.2, bits.2⟩

/-- Only the permissions are limited. -/
theorem limits_page (store : Nat → Fin 512 → Word) (path : List (Fin 512)) (table : Nat)
    (page : PageEntry) :
    RadixTree.limits format.reading store path table page =
      { page with
        permissions := (RadixTree.limits format.reading store path table
          { frame := 0, level := 0, permissions := page.permissions }).permissions } := by
  induction path generalizing table with
  | nil => rfl
  | cons i rest ih =>
      rw [RadixTree.limits]
      cases format.reading.next (store table i) with
      | none => rfl
      | some next =>
          change format.reading.through _ (RadixTree.limits format.reading store rest next page) =
            { page with permissions := (format.reading.through _
              (RadixTree.limits format.reading store rest next _)).permissions }
          rw [ih]
          rfl

/-! ## The whole call -/

/-- The range was mapped with `n` frames of the pool as new tables, and nothing else has
changed. -/
structure Maps (format : TableFormat) (args : MapArgs) (mem : TableMemory) (n : Nat)
    (after : TableMemory) : Prop where
  taken : n ≤ args.poolLen
  forest : format.Forest after args.rootFrame
  nodes : ∀ frame, format.Node after args.rootFrame frame ↔
    format.Node mem args.rootFrame frame ∨ ∃ k < n, frame = args.poolFrame k
  inside : ∀ va, args.vaddr ≤ va → va < args.vaddr + args.len →
    format.translate after args.rootFrame va =
      some (args.paddr + (va - args.vaddr),
        format.limited mem args.rootFrame va (format.granted args.permBits))
  outside : ∀ va, ¬ (args.vaddr ≤ va ∧ va < args.vaddr + args.len) →
    format.translate after args.rootFrame va = format.translate mem args.rootFrame va

/-- A call that succeeds has checked its arguments and mapped all pages. -/
theorem mapPages_of_mapRange {mem after : TableMemory} {n : Nat}
    (ran : format.mapRange args mem = (n, after)) (succeeded : n ≠ u32Max) :
    (args.vaddr % 4096 = 0 ∧ args.paddr % 4096 = 0 ∧ args.len % 4096 = 0) ∧
      ∃ walk, format.mapPages args 0 (args.len / 4096) { mem, used := 0 } = .ok () walk ∧
        walk.used % 2 ^ 32 = n ∧ walk.mem = after := by
  rw [mapRange] at ran
  split at ran
  · exact absurd (Prod.mk.inj ran).1.symm succeeded
  · next checked =>
      constructor
      · apply aligned_of_or
        by_contra bits
        exact checked (Or.inr (Or.inr bits))
      · cases pages : format.mapPages args 0 (args.len / 4096) { mem, used := 0 } with
        | ok result walk =>
            rw [pages] at ran
            exact ⟨walk, rfl, (Prod.mk.inj ran).1, (Prod.mk.inj ran).2⟩
        | err error walk =>
            rw [pages] at ran
            exact absurd (Prod.mk.inj ran).1.symm succeeded
        | panic =>
            rw [pages] at ran
            exact absurd (Prod.mk.inj ran).1.symm succeeded

theorem Grown.forest (prepared : format.Prepared args before)
    (grown : Grown format args before later) : format.Forest later.mem args.rootFrame where
  aligned := prepared.forest.aligned
  tree := grown.tree
  rooted := grown.follows _ _ (Nat.le_add_right _ 2) prepared.forest.rooted
  within := by
    intro frame node
    rcases (grown.nodes frame).1 node with old | ⟨k, inUse, rfl⟩
    · exact prepared.forest.within frame old
    · have aligned := prepared.poolAligned
      have within := prepared.poolWithin
      have used := grown.used
      unfold MapArgs.poolFrame
      omega

/-- An address of the range is in one of its pages. -/
theorem PagesWritten.inside (lawful : format.Lawful) (usable : format.Usable args before)
    (aligned : args.vaddr % 4096 = 0) (paddrAligned : args.paddr % 4096 = 0)
    (whole : args.len % 4096 = 0)
    (written : PagesWritten format args before walk later 0 (args.len / 4096)) {va : Nat}
    (from_ : args.vaddr ≤ va) (until_ : va < args.vaddr + args.len) :
    format.translate later.mem args.rootFrame va =
      some (args.paddr + (va - args.vaddr),
        format.limited before args.rootFrame va (format.granted args.permBits)) := by
  let k := (va - args.vaddr) / 4096
  have page : va / 4096 = (args.vaddr + k * 4096) / 4096 := by
    omega
  have canonical : format.canonical va = true :=
    lawful.canonical va (Nat.lt_of_lt_of_le until_ usable.virt)
  have phys := usable.phys
  obtain ⟨present, leaf⟩ := lawful.leaf (args.paddr + k * 4096) args.permBits (by omega) (by omega)
    usable.grants
  have stop : format.reading.stop 0 (format.leaf (args.paddr + k * 4096) args.permBits) =
      some { frame := args.paddr + k * 4096, level := 0,
             permissions := format.granted args.permBits } := by
    change (if format.present _ then _ else none) = _
    rw [present]
    exact leaf
  have here := written.pages k (Nat.zero_le k) (by omega)
  rw [← upperPath_page format.depth page, ← slotIndex_page 0 page, stop, Option.map_some,
    limits_page] at here
  rw [translate, entryAt, if_pos canonical, here]
  have address : args.paddr + k * 4096 + va % (4096 * 512 ^ 0) =
      args.paddr + (va - args.vaddr) := by
    omega
  exact congrArg (fun paddr => some (paddr, _)) address

/-- An address outside of the range has another path than its pages. -/
theorem PagesWritten.outside (lawful : format.Lawful) (usable : format.Usable args before)
    (aligned : args.vaddr % 4096 = 0) (whole : args.len % 4096 = 0)
    (written : PagesWritten format args before walk later 0 (args.len / 4096)) {va : Nat}
    (outside : ¬ (args.vaddr ≤ va ∧ va < args.vaddr + args.len)) :
    format.translate later.mem args.rootFrame va =
      format.translate walk.mem args.rootFrame va := by
  have same : format.entryAt later.mem args.rootFrame va =
      format.entryAt walk.mem args.rootFrame va := by
    rw [entryAt, entryAt]
    split
    · next canonical =>
        apply written.others _ _ (upperPath_length _ _)
        rintro k - below ⟨upper, last⟩
        have virt := usable.virt
        have page := lawful.apart _ va (by omega : args.vaddr + k * 4096 < format.virtLimit)
          canonical upper last
        omega
    · rfl
  rw [translate, translate, same]

theorem mapRange_ok (lawful : format.Lawful) {mem after : TableMemory} {n : Nat}
    (usable : format.Usable args mem) (ran : format.mapRange args mem = (n, after))
    (succeeded : n ≠ u32Max) : format.Maps args mem n after := by
  obtain ⟨⟨vaddrAligned, paddrAligned, whole⟩, walk, pages, rfl, rfl⟩ :=
    mapPages_of_mapRange ran succeeded
  have fits : (0 + args.len / 4096) * 4096 ≤ args.len := by
    omega
  have written := usable.grown.mapPages lawful usable.toPrepared (usable.ownPaths lawful fits)
    pages
  have used : walk.used % 2 ^ 32 = walk.used := by
    apply Nat.mod_eq_of_lt
    have count := written.used
    have virt := usable.virt
    have limit := lawful.virt_le
    change walk.used ≤ 0 + 2 * (args.len / 4096) at count
    omega
  rw [used]
  constructor
  · exact written.grown.used
  · exact written.grown.forest usable.toPrepared
  · exact written.grown.nodes
  · intro va from_ until_
    exact written.inside lawful usable vaddrAligned paddrAligned whole from_ until_
  · intro va outside
    exact written.outside lawful usable vaddrAligned whole outside

end TableFormat

/-! ## The architectures -/

/-- `riscv_sv39::map_range`. -/
def Sv39.mapRange : MapArgs → TableMemory → Nat × TableMemory := Sv39.tables.mapRange

/-- `x86_64_paging::map_range`. -/
def X8664Paging.mapRange : MapArgs → TableMemory → Nat × TableMemory :=
  X8664Paging.tables.mapRange

/-- `aarch64_paging::map_range`. -/
def Aarch64Paging.mapRange : MapArgs → TableMemory → Nat × TableMemory :=
  Aarch64Paging.tables.mapRange

def Architecture.mapRange : Architecture → MapArgs → TableMemory → Nat × TableMemory
  | riscv64 => Sv39.mapRange
  | x86_64 => X8664Paging.mapRange
  | arm64 => Aarch64Paging.mapRange

theorem Architecture.mapRange_eq (architecture : Architecture) :
    architecture.mapRange = architecture.tables.mapRange := by
  cases architecture with
  | riscv64 => rfl
  | x86_64 => rfl
  | arm64 => rfl

/-! ## A call on a blank root -/

namespace TableFormat

variable {format : TableFormat} {args : MapArgs} {mem : TableMemory} {root : Nat}

/-- Nothing is below a blank root. -/
theorem follow_of_blank (lawful : format.Lawful) (blank : ∀ i, mem.store (root / 4096) i = 0)
    {path : List (Fin 512)} {frame : Nat}
    (there : RadixTree.follow format.reading mem.store path (root / 4096) = some frame) :
    path = [] ∧ frame = root / 4096 := by
  cases path with
  | nil => exact ⟨rfl, (Option.some.inj there).symm⟩
  | cons i rest =>
      rw [RadixTree.follow, blank i, (next_of_absent lawful.zero).1] at there
      cases there

theorem forest_of_blank (lawful : format.Lawful) (direct : format.rootPath = [])
    (top : format.top root = root) (aligned : root % 4096 = 0)
    (within : root + 4096 ≤ format.physLimit) (blank : ∀ i, mem.store (root / 4096) i = 0) :
    format.Forest mem root where
  aligned := aligned
  tree := by
    intro p q table _ _ left right
    rw [(follow_of_blank lawful blank left).1, (follow_of_blank lawful blank right).1]
  rooted := by
    rw [direct, top]
    rfl
  within := by
    rintro frame ⟨path, _, there⟩
    rw [(follow_of_blank lawful blank there).2]
    omega

theorem prepared_of_blank (lawful : format.Lawful) (direct : format.rootPath = [])
    (top : format.top args.rootFrame = args.rootFrame) (aligned : args.rootFrame % 4096 = 0)
    (poolAligned : args.poolBase % 4096 = 0) (order : args.rootFrame < args.poolBase)
    (poolWithin : args.poolBase + args.poolLen * 4096 ≤ format.physLimit)
    (blank : ∀ addr, mem addr = 0) : format.Prepared args mem where
  forest := forest_of_blank lawful direct top aligned (by omega) fun _ => blank _
  poolAligned := poolAligned
  poolWithin := poolWithin
  blank := fun _ _ _ => blank _
  apart := by
    rintro k _ ⟨path, _, there⟩
    have same := (follow_of_blank lawful (fun _ => blank _) there).2
    unfold MapArgs.poolFrame at same
    omega

end TableFormat

/-! ## What a call does -/

/-- A range that `map_range` has mapped is mapped as the format can express it, and no other
address is affected. -/
theorem map_range_maps (architecture : Architecture) (args : MapArgs) (mem after : TableMemory)
    (n : Nat) (usable : architecture.tables.Usable args mem)
    (ran : architecture.mapRange args mem = (n, after)) (succeeded : n ≠ u32Max) :
    architecture.tables.Maps args mem n after := by
  rw [architecture.mapRange_eq] at ran
  exact TableFormat.mapRange_ok architecture.tables_lawful usable ran succeeded

/-- Two pages, below a blank root and with a pool of three frames. -/
def twoPages (vaddr paddr permBits : Nat) : MapArgs where
  rootFrame := 0x1000
  vaddr := vaddr
  paddr := paddr
  len := 0x2000
  permBits := permBits
  poolBase := 0x2000
  poolLen := 3

theorem twoPages_prepared (vaddr paddr permBits : Nat) :
    Sv39.tables.Prepared (twoPages vaddr paddr permBits) fun _ => 0 := by
  apply TableFormat.prepared_of_blank Sv39.tables_lawful
  · rfl
  · rfl
  · exact Nat.mod_self 4096
  · exact Nat.mul_mod_right 4096 2
  · exact Nat.lt_add_of_pos_right (Nat.succ_pos 0xfff)
  · change 0x2000 + 3 * 4096 ≤ 2 ^ 56
    decide
  · intro addr
    rfl

/-- The two pages are in different tables of the last level. -/
theorem map_range_maps_sample :
    (Architecture.tables .riscv64).Maps (twoPages 0x1ff000 0x80000000 11) (fun _ => 0) 3
      (Architecture.mapRange .riscv64 (twoPages 0x1ff000 0x80000000 11) fun _ => 0).2 := by
  apply map_range_maps .riscv64 (twoPages 0x1ff000 0x80000000 11) (fun _ => 0) _ 3
  · exact {
      toPrepared := twoPages_prepared _ _ _
      virt := by decide
      phys := by decide
      grants := by decide }
  · exact Prod.ext (by decide +kernel) rfl
  · decide

/-- Whatever range was mapped, it was mapped with the requested permissions. -/
def MapsAsRequested (admits : TableFormat → MapArgs → Prop) : Prop :=
  ∀ (architecture : Architecture) (args : MapArgs) (mem after : TableMemory) (n : Nat),
    admits architecture.tables args → architecture.tables.Prepared args mem →
    args.vaddr % 4096 = 0 → args.paddr % 4096 = 0 → args.len % 4096 = 0 →
    args.vaddr + args.len ≤ 2 ^ 39 →
    architecture.mapRange args mem = (n, after) → n ≠ u32Max →
      ∀ va, args.vaddr ≤ va → va < args.vaddr + args.len →
        architecture.tables.translate after args.rootFrame va =
          some (args.paddr + (va - args.vaddr), requestedPermissions args.permBits)

/-- Two pages that were mapped, the first one not as requested. -/
theorem not_mapsAsRequested {admits : TableFormat → MapArgs → Prop} {vaddr paddr permBits : Nat}
    (admitted : admits Sv39.tables (twoPages vaddr paddr permBits))
    (aligned : vaddr % 4096 = 0 ∧ paddr % 4096 = 0) (low : vaddr + 0x2000 ≤ 2 ^ 39)
    (taken : (Sv39.mapRange (twoPages vaddr paddr permBits) fun _ => 0).1 = 3)
    (differs : Sv39.tables.translate
      (Sv39.mapRange (twoPages vaddr paddr permBits) fun _ => 0).2 0x1000 vaddr ≠
        some (paddr, requestedPermissions permBits)) :
    ¬ MapsAsRequested admits := by
  intro asRequested
  apply differs
  have whole : (twoPages vaddr paddr permBits).len % 4096 = 0 := Nat.mul_mod_right 4096 2
  have translated := asRequested .riscv64 (twoPages vaddr paddr permBits) (fun _ => 0) _ 3
    admitted (twoPages_prepared ..) aligned.1 aligned.2 whole low (Prod.ext taken rfl)
    (by decide) vaddr (Nat.le_refl _) (Nat.lt_add_of_pos_right (Nat.succ_pos _))
  rw [show (twoPages vaddr paddr permBits).vaddr = vaddr by rfl, Nat.sub_self] at translated
  exact translated

/-- A RISC-V page that is writable but not readable, a physical address of 57 bits and a
virtual one of 39 bits are taken without an error, and the page is not there. -/
theorem map_range_takes_too_much :
    ¬ MapsAsRequested (fun _ _ => True) ∧
      ¬ MapsAsRequested (fun format args => args.vaddr + args.len ≤ format.virtLimit ∧
        args.paddr + args.len ≤ format.physLimit) ∧
      ¬ MapsAsRequested (fun format args => args.vaddr + args.len ≤ format.virtLimit ∧
        format.grants args.permBits = true) ∧
      ¬ MapsAsRequested (fun format args => args.paddr + args.len ≤ format.physLimit ∧
        format.grants args.permBits = true) := by
  have permissions : ∀ admits, admits Sv39.tables (twoPages 0x1ff000 0x80000000 2) →
      ¬ MapsAsRequested admits := fun admits admitted =>
    not_mapsAsRequested admitted (by decide) (by decide) (by decide +kernel) (by decide +kernel)
  refine ⟨permissions _ trivial, permissions _ (by decide), ?_, ?_⟩
  · apply @not_mapsAsRequested _ 0x1ff000 (2 ^ 56) 11
    · decide
    · decide
    · decide
    · decide +kernel
    · decide +kernel
  · apply @not_mapsAsRequested _ (2 ^ 38 + 0x1ff000) 0x80000000 11
    · decide
    · decide
    · decide
    · decide +kernel
    · decide +kernel

end Simurgh
