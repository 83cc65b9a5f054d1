import Simurgh.Hal.EarlyMapping
import Simurgh.Lib.TransitionSystem

/-!
# Identity mapping in the early boot

After any calls of `setup_identity_mapping`, a further call serves its region if it maps every
address of it to itself with the permissions that were asked for, and no other page, or if it
reports an error.  `Meets` is the condition on the region and the tables under which it does.
-/

namespace Simurgh

/-- The architectures with four levels. -/
inductive EarlyArch where
  | x86_64
  | arm64 (size : OutputSize)
  deriving DecidableEq, Repr

namespace EarlyArch

def format : EarlyArch → EarlyFormat
  | x86_64 => X8664Early.format
  | arm64 size => Aarch64Early.format size

theorem lawful (arch : EarlyArch) : arch.format.Lawful := by
  cases arch with
  | x86_64 => exact X8664Early.lawful
  | arm64 size => exact Aarch64Early.lawful size

/-- There is an entry with these permissions.  On ARM64 every page is writable. -/
def Expresses : EarlyArch → HalMapPermissions → Prop
  | x86_64, _ => True
  | arm64 _, perms => perms.writable = true

theorem expresses_iff (arch : EarlyArch) (perms : HalMapPermissions) :
    arch.Expresses perms ↔ (arch.format.granted perms).writable = perms.writable := by
  cases arch with
  | x86_64 => exact iff_of_true trivial rfl
  | arm64 size => exact eq_comm

theorem executes (arch : EarlyArch) (perms : HalMapPermissions) :
    (arch.format.granted perms).kernelExecutable = perms.executable := by
  cases arch with
  | x86_64 => rfl
  | arm64 size => rfl

end EarlyArch

/-- The arguments of `setup_identity_mapping`. -/
structure MapCall where
  base : Word
  length : Word
  perms : HalMapPermissions
  deriving DecidableEq

/-- The pages of the region. -/
def MapCall.OnPages (call : MapCall) (va : Nat) : Prop :=
  ∃ i < call.length.toNat, va / 4096 = (call.base.toNat + i) / 4096

/-- The number of pages up to the end of the region, on 64 bits. -/
def MapCall.pages (call : MapCall) : Nat :=
  (call.base.toNat + call.length.toNat + 4095) % 2 ^ 64 / 4096 - call.base.toNat / 4096

theorem MapCall.pages_eq (call : MapCall) :
    (EarlyFormat.alignDown ((call.base.toNat + call.length.toNat + 4095) % 2 ^ 64) -
      EarlyFormat.alignDown call.base.toNat) / 4096 = call.pages := by
  unfold EarlyFormat.alignDown MapCall.pages
  omega

/-- The pages of a region that begins with a page. -/
theorem MapCall.pages_cover (call : MapCall) (aligned : call.base.toNat % 4096 = 0)
    (below : call.base.toNat + call.length.toNat ≤ 2 ^ 48) :
    call.length.toNat ≤ call.pages * 4096 ∧ call.pages * 4096 < call.length.toNat + 4096 := by
  unfold MapCall.pages
  omega

namespace EarlyFormat

variable (format : EarlyFormat) (statics : StaticTables) (checks : Bool)

def setup (state : EarlyState) (call : MapCall) : Outcome EarlyState HalError Nat :=
  format.setupIdentityMapping statics checks call.base call.length call.perms state

/-- The tables after a call, unless it panics. -/
def next (state : EarlyState) (call : MapCall) : Option EarlyState :=
  (format.setup statics checks state call).state?

/-- The region is mapped to itself as requested, and nothing else has changed, or an error is
reported. -/
structure Serves (before : EarlyState) (call : MapCall)
    (ended : Outcome EarlyState HalError Nat) : Prop where
  reported : ended ≠ .panic
  maps : ∀ v after, ended = .ok v after → ∀ i < call.length.toNat,
    ∃ permissions, format.translate statics after.mem (v + i) =
        some (call.base.toNat + i, permissions) ∧
      permissions.writable = call.perms.writable ∧
      permissions.kernelExecutable = call.perms.executable
  outside : ∀ v after, ended = .ok v after → ∀ va, ¬ call.OnPages va →
    format.translate statics after.mem va = format.translate statics before.mem va

/-- The sums do not overflow where that panics, and the pages up to the end, on 64 bits, lack
more tables than the pool has left. -/
def TooFewTables (state : EarlyState) (call : MapCall) : Prop :=
  (checks = true → call.base.toNat + call.length.toNat + 4096 < 2 ^ 64) ∧
    tablePoolSize < state.next +
      lack format statics state (pagePaths (alignDown call.base.toNat) call.pages)

end EarlyFormat

namespace EarlyArch

/-- The region is empty, or the pool is exhausted on the way, or the region begins with a page
and ends below the limit, and its permissions can be expressed. -/
def Meets (arch : EarlyArch) (statics : StaticTables) (checks : Bool) (state : EarlyState)
    (call : MapCall) : Prop :=
  call.length = 0 ∨ arch.format.TooFewTables statics checks state call ∨
    (call.base.toNat % 4096 = 0 ∧
      call.base.toNat + call.length.toNat ≤ arch.format.limit ∧ arch.Expresses call.perms)

end EarlyArch

namespace EarlyFormat

variable {format : EarlyFormat} {statics : StaticTables} {checks : Bool}
  {state after : EarlyState} {mem : TableMemory} {va phys v : Nat}
  {permissions : PagePermissions} {call : MapCall} {base length : Word}

/-! ## Translated addresses -/

/-- The offset in the page is kept. -/
theorem translate_offset (lawful : format.Lawful)
    (translated : format.translate statics mem va = some (phys, permissions)) :
    phys % 4096 = va % 4096 := by
  rw [translate] at translated
  split at translated
  · obtain ⟨entry, walked, same⟩ := Option.map_eq_some_iff.1 translated
    have aligned : entry.frame % 4096 = 0 := by
      apply @RadixTree.walk_invariant _ _ _ _ _ _ _ (fun entry => entry.frame % 4096 = 0)
        _ _ _ _ _ walked
      · exact lawful.aligned
      · intro word page aligned
        rw [(lawful.through word page).1]
        exact aligned
    have offset : va % (4096 * 512 ^ entry.level) % 4096 = va % 4096 :=
      Nat.mod_mod_of_dvd va (Nat.dvd_mul_right 4096 _)
    obtain ⟨rfl, _⟩ := Prod.mk.inj same
    omega
  · cases translated

/-- No address past the limit is mapped to itself. -/
theorem translate_past (lawful : format.Lawful) (past : format.limit ≤ va)
    (translated : format.translate statics mem va = some (phys, permissions)) : phys ≠ va := by
  rw [translate] at translated
  split at translated
  · next canonical =>
      obtain ⟨entry, walked, same⟩ := Option.map_eq_some_iff.1 translated
      obtain ⟨rfl, _⟩ := Prod.mk.inj same
      apply @RadixTree.walk_invariant _ _ _ _ _ _ _
        (fun entry => entry.frame + va % (4096 * 512 ^ entry.level) ≠ va) _ _ _ _ _ walked
      · intro level word page stops
        exact lawful.past level word page va stops past canonical
      · intro word page ne
        rw [(lawful.through word page).1, (lawful.through word page).2]
        exact ne
  · cases translated

/-! ## The bounds of the loop -/

theorem addU64_fits {a b : Nat} (fits : checks = true → a + b < 2 ^ 64) :
    addU64 checks a b = some ((a + b) % 2 ^ 64) := by
  by_cases below : a + b < 2 ^ 64
  · rw [addU64, if_pos below, Nat.mod_eq_of_lt below]
  · rw [addU64, if_neg below, if_neg (fun checked => below (fits checked))]

theorem addU64_over {a b : Nat} (beyond : 2 ^ 64 ≤ a + b) : addU64 true a b = none := by
  rw [addU64, if_neg (Nat.not_lt_of_le beyond), if_pos rfl]

theorem predU64_fits {a : Nat} (fits : checks = true → 0 < a) (below : a < 2 ^ 64) :
    predU64 checks a = some ((a + (2 ^ 64 - 1)) % 2 ^ 64) := by
  by_cases positive : 0 < a
  · have same : (a + (2 ^ 64 - 1)) % 2 ^ 64 = a - 1 := by omega
    rw [predU64, if_pos positive, same]
  · have same : (a + (2 ^ 64 - 1)) % 2 ^ 64 = 2 ^ 64 - 1 := by omega
    rw [predU64, if_neg positive, if_neg (fun checked => positive (fits checked)), same]

theorem alignUp_fits {addr : Nat} (fits : checks = true → addr + 4096 < 2 ^ 64) :
    alignUp checks addr = some (alignDown ((addr + 4095) % 2 ^ 64)) := by
  have positive : checks = true → 0 < (addr + 4096) % 2 ^ 64 := by
    intro checked
    rw [Nat.mod_eq_of_lt (fits checked)]
    exact Nat.succ_pos _
  have same : ((addr + 4096) % 2 ^ 64 + (2 ^ 64 - 1)) % 2 ^ 64 = (addr + 4095) % 2 ^ 64 := by
    omega
  rw [alignUp, addU64_fits fits, Option.bind_eq_bind, Option.bind_some,
    predU64_fits positive (Nat.mod_lt _ (by decide)), same]
  rfl

/-- The bounds as wrapping builds compute them. -/
theorem pageBounds_fits (fits : checks = true → base.toNat + length.toNat + 4096 < 2 ^ 64) :
    pageBounds checks base length = some (alignDown base.toNat,
      alignDown ((base.toNat + length.toNat + 4095) % 2 ^ 64)) := by
  have sum : checks = true → base.toNat + length.toNat < 2 ^ 64 :=
    fun checked => Nat.lt_of_le_of_lt (Nat.le_add_right _ 4096) (fits checked)
  have stop : checks = true → (base.toNat + length.toNat) % 2 ^ 64 + 4096 < 2 ^ 64 := by
    intro checked
    rw [Nat.mod_eq_of_lt (sum checked)]
    exact fits checked
  have same : ((base.toNat + length.toNat) % 2 ^ 64 + 4095) % 2 ^ 64 =
      (base.toNat + length.toNat + 4095) % 2 ^ 64 := by
    omega
  rw [pageBounds, addU64_fits sum, Option.bind_eq_bind, Option.bind_some, alignUp_fits stop, same]
  rfl

theorem pageBounds_over (beyond : 2 ^ 64 ≤ base.toNat + length.toNat + 4096) :
    pageBounds true base length = none := by
  by_cases sum : 2 ^ 64 ≤ base.toNat + length.toNat
  · rw [pageBounds, addU64_over sum]
    rfl
  · have below := Nat.lt_of_not_le sum
    rw [pageBounds, addU64_fits (fun _ => below), Nat.mod_eq_of_lt below, Option.bind_eq_bind,
      Option.bind_some, alignUp, addU64_over beyond]
    rfl

/-! ## How a call ends -/

theorem setup_empty (empty : call.length = 0) :
    format.setup statics checks state call = .err .invalidMemoryRegion state := by
  rw [setup, setupIdentityMapping, empty]
  rfl

theorem setup_panics (nonempty : call.length ≠ 0) (checked : checks = true)
    (beyond : 2 ^ 64 ≤ call.base.toNat + call.length.toNat + 4096) :
    format.setup statics checks state call = .panic := by
  rw [setup, setupIdentityMapping, decide_eq_true nonempty, checked, pageBounds_over beyond]
  rfl

theorem setup_run (nonempty : call.length ≠ 0)
    (fits : checks = true → call.base.toNat + call.length.toNat + 4096 < 2 ^ 64) :
    format.setup statics checks state call =
      (do
        format.mapPages statics (format.permissionsToFlags call.perms)
          (alignDown call.base.toNat) call.pages
        return alignDown call.base.toNat : Exec EarlyState HalError Nat) state := by
  rw [setup, setupIdentityMapping, decide_eq_true nonempty, pageBounds_fits fits,
    ← call.pages_eq]
  rfl

/-- A call reports an error, panics, or maps all of its pages. -/
inductive Ends (format : EarlyFormat) (statics : StaticTables) (checks : Bool)
    (state : EarlyState) (call : MapCall) : Prop where
  | err (after : EarlyState)
      (ran : format.setup statics checks state call = .err .invalidMemoryRegion after)
      (why : call.length = 0 ∨ format.TooFewTables statics checks state call)
      (sound : Sound format statics after)
  | panic (ran : format.setup statics checks state call = .panic)
      (nonempty : call.length ≠ 0) (checked : checks = true)
      (beyond : 2 ^ 64 ≤ call.base.toNat + call.length.toNat + 4096)
  | ok (after : EarlyState)
      (ran : format.setup statics checks state call = .ok (alignDown call.base.toNat) after)
      (nonempty : call.length ≠ 0)
      (enough : ¬ format.TooFewTables statics checks state call)
      (mapped : PagesMapped format statics state after (format.permissionsToFlags call.perms)
        (alignDown call.base.toNat) call.pages)

theorem Sound.ends (lawful : format.Lawful) (sound : Sound format statics state)
    (checks : Bool) (call : MapCall) : Ends format statics checks state call := by
  by_cases empty : call.length = 0
  · exact .err state (setup_empty empty) (Or.inl empty) sound
  · by_cases fits : checks = true → call.base.toNat + call.length.toNat + 4096 < 2 ^ 64
    · have run := @setup_run format statics checks state call empty fits
      rcases mapPages_ends lawful (format.permissionsToFlags call.perms) call.pages sound with
        ⟨enough, after, ran, mapped⟩ | ⟨many, after, ran, kept⟩
      · apply Ends.ok after
        · rw [run, Exec.bind_of_ok ran]
          rfl
        · exact empty
        · exact fun few => absurd enough (Nat.not_le_of_lt few.2)
        · exact mapped
      · apply Ends.err after
        · rw [run, Exec.bind_of_err ran]
        · exact Or.inr ⟨fits, many⟩
        · exact kept
    · obtain ⟨checked, beyond⟩ := Classical.not_imp.1 fits
      have beyond := Nat.le_of_not_lt beyond
      exact .panic (setup_panics empty checked beyond) empty checked beyond

theorem Sound.next (lawful : format.Lawful) (sound : Sound format statics state)
    (taken : format.next statics checks state call = some after) :
    Sound format statics after := by
  rw [EarlyFormat.next] at taken
  cases sound.ends lawful checks call with
  | err later ran why kept =>
      rw [ran] at taken
      obtain rfl := Option.some.inj taken
      exact kept
  | panic ran =>
      rw [ran] at taken
      cases taken
  | ok later ran nonempty enough mapped =>
      rw [ran] at taken
      obtain rfl := Option.some.inj taken
      exact mapped.sound

/-! ## Blank tables -/

theorem clear_store (mem : TableMemory) {frame : Nat}
    (static : frame = statics.root ∨ statics.pool ≤ frame ∧ frame < statics.pool + tablePoolSize)
    (i : Fin 512) : (statics.clear mem).store frame i = 0 := by
  have inside := i.isLt
  have number : (4096 * frame + 8 * i.val) / 4096 = frame := by omega
  apply if_pos
  rw [number]
  exact static

/-- Nothing is below a blank root. -/
theorem follow_clear (lawful : format.Lawful) (mem : TableMemory) {path : List (Fin 512)}
    {frame : Nat} (there : RadixTree.follow format.reading (statics.clear mem).store path
      statics.root = some frame) : path = [] ∧ frame = statics.root := by
  cases path with
  | nil => exact ⟨rfl, (Option.some.inj there).symm⟩
  | cons i rest =>
      rw [RadixTree.follow, clear_store mem (Or.inl rfl), lawful.empty.1] at there
      cases there

theorem Sound.start (lawful : format.Lawful) (statics : StaticTables) (mem : TableMemory) :
    Sound format statics ⟨statics.clear mem, 0⟩ where
  tree := by
    intro p q table _ _ left right
    rw [(follow_clear lawful mem left).1, (follow_clear lawful mem right).1]
  used := Nat.zero_le _
  nodes := by
    rintro frame ⟨path, _, there⟩
    exact Or.inl (follow_clear lawful mem there).2
  upper := by
    intro p frame i _ there
    left
    rw [(follow_clear lawful mem there).2]
    exact clear_store mem (Or.inl rfl) i
  blank := by
    intro k _ inside i
    exact clear_store mem (Or.inr ⟨Nat.le_add_right _ _, Nat.add_lt_add_left inside _⟩) i
  limits := by
    intro path _
    cases path with
    | nil => rfl
    | cons i rest =>
        rw [RadixTree.limits, clear_store mem (Or.inl rfl), lawful.empty.1]

/-! ## What a call maps -/

/-- Every address on the pages that were mapped. -/
theorem PagesMapped.translate_inside (lawful : format.Lawful) {perms : HalMapPermissions}
    {addr pages i : Nat}
    (mapped : PagesMapped format statics state after (format.permissionsToFlags perms) addr pages)
    (aligned : addr % 4096 = 0) (fits : addr + pages * 4096 ≤ format.limit)
    (inside : i < pages * 4096) :
    format.translate statics after.mem (addr + i) = some (addr + i, format.granted perms) := by
  have onPage : (addr + i) / 4096 = (addr + i / 4096 * 4096) / 4096 := by omega
  have whole : (addr + i / 4096 * 4096) % 4096 = 0 := by omega
  have below : addr + i / 4096 * 4096 < format.limit := by omega
  have offset : addr + i / 4096 * 4096 + (addr + i) % (4096 * 512 ^ 0) = addr + i := by omega
  rw [translate, if_pos (lawful.canonical _ (by omega)), upperPath_page 3 onPage,
    slotIndex_page 0 onPage, mapped.here fits _ (by omega), lawful.leaf _ _ whole below,
    Option.map_some, offset]

/-- The addresses on other pages. -/
theorem PagesMapped.translate_outside (lawful : format.Lawful) {flags : Word} {addr pages : Nat}
    (mapped : PagesMapped format statics state after flags addr pages)
    (fits : addr + pages * 4096 ≤ format.limit)
    (away : ∀ k < pages, va / 4096 ≠ (addr + k * 4096) / 4096) :
    format.translate statics after.mem va = format.translate statics state.mem va := by
  by_cases canonical : format.canonical va = true
  · rw [translate, translate, if_pos canonical, if_pos canonical]
    rw [mapped.others _ _ (upperPath_length 3 va)]
    rintro k inside ⟨upper, last⟩
    apply away k inside
    apply lawful.apart _ _ _ canonical upper last
    omega
  · rw [translate, translate, if_neg canonical, if_neg canonical]

/-- Only a region that begins with a page and ends below the limit is mapped to itself. -/
theorem Serves.fits (lawful : format.Lawful) (positive : 0 < call.length.toNat)
    (serves : Serves format statics state call (.ok (alignDown call.base.toNat) after)) :
    call.base.toNat % 4096 = 0 ∧ call.base.toNat + call.length.toNat ≤ format.limit := by
  obtain ⟨_, first, _⟩ := serves.maps _ _ rfl 0 positive
  have offset := translate_offset lawful first
  have aligned : call.base.toNat % 4096 = 0 := by
    rw [alignDown] at offset
    omega
  have start : alignDown call.base.toNat = call.base.toNat := by
    rw [alignDown]
    omega
  refine ⟨aligned, ?_⟩
  by_contra past
  -- The first address of the region past the limit, or the base if it is past it already.
  have inside : format.limit - call.base.toNat < call.length.toNat := by omega
  obtain ⟨_, translated, _⟩ := serves.maps _ _ rfl _ inside
  rw [start] at translated
  exact translate_past lawful (by omega) translated rfl

end EarlyFormat

namespace EarlyArch

open EarlyFormat

variable {arch : EarlyArch} {statics : StaticTables} {checks : Bool}
  {state after : EarlyState} {call : MapCall}

/-! ## Which calls serve their regions -/

section Mapped

variable (positive : 0 < call.length.toNat)
  (mapped : PagesMapped arch.format statics state after
    (arch.format.permissionsToFlags call.perms) (alignDown call.base.toNat) call.pages)
  (aligned : call.base.toNat % 4096 = 0)
  (fits : call.base.toNat + call.length.toNat ≤ arch.format.limit)

include aligned fits in
/-- The pages begin with the region, and they lie below the limit. -/
theorem pages_fit : alignDown call.base.toNat = call.base.toNat ∧
    call.length.toNat ≤ call.pages * 4096 ∧ call.pages * 4096 < call.length.toNat + 4096 ∧
      call.base.toNat + call.pages * 4096 ≤ arch.format.limit := by
  have lawful := arch.lawful
  have whole := lawful.limit_aligned
  obtain ⟨enough, few⟩ := call.pages_cover aligned (Nat.le_trans fits lawful.limit_le)
  refine ⟨?_, enough, few, by omega⟩
  rw [alignDown]
  omega

include positive mapped aligned fits in
/-- The permissions of the first address are those of its entry. -/
theorem expresses_of_serves
    (serves : arch.format.Serves statics state call (.ok (alignDown call.base.toNat) after)) :
    arch.Expresses call.perms := by
  obtain ⟨start, enough, _, inside⟩ := pages_fit aligned fits
  obtain ⟨permissions, translated, writes, _⟩ := serves.maps _ _ rfl 0 positive
  rw [start] at mapped translated
  have granted := mapped.translate_inside arch.lawful aligned inside
    (Nat.lt_of_lt_of_le positive enough)
  obtain ⟨_, rfl⟩ := Prod.mk.inj (Option.some.inj (translated.symm.trans granted))
  exact (arch.expresses_iff call.perms).2 writes

include mapped aligned fits in
theorem serves_of_mapped (expresses : arch.Expresses call.perms) :
    arch.format.Serves statics state call (.ok (alignDown call.base.toNat) after) := by
  obtain ⟨start, enough, few, inside⟩ := pages_fit aligned fits
  rw [start] at mapped ⊢
  constructor
  · exact fun panics => nomatch panics
  · intro v last returned i below
    obtain ⟨rfl, rfl⟩ := Outcome.ok.inj returned
    have translated := mapped.translate_inside arch.lawful aligned inside
      (Nat.lt_of_lt_of_le below enough)
    refine ⟨_, translated, ?_, ?_⟩
    · exact (arch.expresses_iff call.perms).1 expresses
    · exact arch.executes call.perms
  · intro v last returned va away
    obtain ⟨rfl, rfl⟩ := Outcome.ok.inj returned
    apply mapped.translate_outside arch.lawful inside
    intro k before page
    have below : k * 4096 < call.length.toNat := by
      have upTo : (k + 1) * 4096 ≤ call.pages * 4096 := Nat.mul_le_mul_right 4096 before
      rw [Nat.succ_mul] at upTo
      exact Nat.lt_of_add_lt_add_right (Nat.lt_of_le_of_lt upTo few)
    exact away ⟨k * 4096, below, page⟩

end Mapped

/-- A region whose pages were mapped is served if it begins with a page, ends below the limit and
has permissions that can be expressed. -/
theorem serves_ok_iff (nonempty : call.length ≠ 0)
    (mapped : PagesMapped arch.format statics state after
      (arch.format.permissionsToFlags call.perms) (alignDown call.base.toNat) call.pages) :
    arch.format.Serves statics state call (.ok (alignDown call.base.toNat) after) ↔
      call.base.toNat % 4096 = 0 ∧ call.base.toNat + call.length.toNat ≤ arch.format.limit ∧
        arch.Expresses call.perms := by
  have positive : 0 < call.length.toNat := by
    rw [Nat.pos_iff_ne_zero]
    exact fun zero => nonempty (BitVec.eq_of_toNat_eq zero)
  constructor
  · intro serves
    obtain ⟨aligned, fits⟩ := serves.fits arch.lawful positive
    exact ⟨aligned, fits, expresses_of_serves positive mapped aligned fits serves⟩
  · rintro ⟨aligned, fits, expresses⟩
    exact serves_of_mapped mapped aligned fits expresses

theorem serves_iff (sound : Sound arch.format statics state) (checks : Bool) (call : MapCall) :
    arch.format.Serves statics state call (arch.format.setup statics checks state call) ↔
      arch.Meets statics checks state call := by
  have lawful := arch.lawful
  cases sound.ends lawful checks call with
  | err after ran why kept =>
      rw [ran]
      apply iff_of_true
      · constructor
        · exact fun panics => nomatch panics
        · exact fun _ _ returned => nomatch returned
        · exact fun _ _ returned => nomatch returned
      · exact why.imp_right Or.inl
  | panic ran nonempty checked beyond =>
      rw [ran]
      apply iff_of_false
      · exact fun serves => serves.reported rfl
      · rintro (empty | few | ⟨_, fits, _⟩)
        · exact nonempty empty
        · exact Nat.not_lt_of_le beyond (few.1 checked)
        · have short := lawful.limit_le
          omega
  | ok after ran nonempty enough mapped =>
      rw [ran, Meets, or_iff_right nonempty, or_iff_right enough]
      exact serves_ok_iff nonempty mapped

/-- An address was returned for a region that does not fit. -/
theorem not_serves (sound : Sound arch.format statics state) {v : Nat}
    (returned : (arch.format.setup statics checks state call).value? = some v)
    (unmet : ¬ (call.base.toNat % 4096 = 0 ∧
      call.base.toNat + call.length.toNat ≤ arch.format.limit ∧ arch.Expresses call.perms)) :
    ¬ arch.format.Serves statics state call (arch.format.setup statics checks state call) := by
  cases sound.ends arch.lawful checks call with
  | err after ran =>
      rw [ran] at returned
      cases returned
  | panic ran =>
      rw [ran] at returned
      cases returned
  | ok after ran nonempty enough mapped =>
      rw [ran, serves_ok_iff nonempty mapped]
      exact unmet

/-- From the boot on, every call serves its region. -/
def Identity (arch : EarlyArch) (statics : StaticTables) (checks : Bool) (mem : TableMemory)
    (calls : List MapCall) : Prop :=
  TransitionSystem.Throughout (arch.format.next statics checks)
    (fun state call =>
      arch.format.Serves statics state call (arch.format.setup statics checks state call))
    ⟨statics.clear mem, 0⟩ calls

/-- In every run the regions are mapped to themselves exactly if each call meets the
condition. -/
theorem identity_mapping_iff (arch : EarlyArch) (statics : StaticTables) (checks : Bool)
    (mem : TableMemory) (calls : List MapCall) :
    arch.Identity statics checks mem calls ↔
      TransitionSystem.Throughout (arch.format.next statics checks)
        (arch.Meets statics checks) ⟨statics.clear mem, 0⟩ calls := by
  apply TransitionSystem.throughout_congr
  · intro state call later sound taken
    exact Sound.next arch.lawful sound taken
  · intro state call sound
    exact serves_iff sound checks call
  · exact Sound.start arch.lawful statics mem

/-- A region in the middle of a page is mapped to the start of the page.  One that ends with the
address space is not mapped at all where sums wrap, and no error is reported.  On ARM64 a
read-only region is mapped writable. -/
theorem not_always_identity :
    ¬ x86_64.Identity ⟨1, 2, by decide, by decide⟩ true (fun _ => 0)
      [⟨0x1800, 0x100, .deviceMmio⟩] ∧
    ¬ x86_64.Identity ⟨1, 2, by decide, by decide⟩ false (fun _ => 0)
      [⟨0xFFFFFFFFFFFFF000, 0x1000, .deviceMmio⟩] ∧
    ¬ (arm64 .bits32).Identity ⟨1, 2, by decide, by decide⟩ true (fun _ => 0)
      [⟨0x1000, 0x1000, .kernelRodata⟩] := by
  refine ⟨?_, ?_, ?_⟩
  · intro identity
    apply not_serves (Sound.start x86_64.lawful _ _) _ _ identity.1
    · exact 0x1000
    · decide +kernel
    · rintro ⟨aligned, _⟩
      revert aligned
      decide
  · intro identity
    apply not_serves (Sound.start x86_64.lawful _ _) _ _ identity.1
    · exact 0xFFFFFFFFFFFFF000
    · decide +kernel
    · rintro ⟨_, fits, _⟩
      revert fits
      decide
  · intro identity
    apply not_serves (Sound.start (arm64 .bits32).lawful _ _) _ _ identity.1
    · exact 0x1000
    · decide +kernel
    · rintro ⟨_, _, expresses⟩
      cases expresses

end EarlyArch

end Simurgh
