import Mathlib.Data.Nat.Bitwise
import Mathlib.Tactic.Ring
import Simurgh.Lib.CompareExchange

/-!
# The bump allocators

The kernel image and four of the subsystem images have a heap that only grows: an allocation moves
the offset of the next free byte by a compare-exchange.  The same loop stands in all five.
-/

namespace Simurgh

namespace BumpAllocator

open CompareExchange

/-- The images that have the allocator. -/
inductive Image where
  | kernel
  | fsNative
  | mmService
  | compositor
  | netstack
  deriving DecidableEq, Repr

/-- `BOOT_HEAP_BYTES` and `HEAP_BYTES`. -/
def Image.heapBytes : Image → BitVec 64
  | kernel => 64 * 1024
  | fsNative => 32 * 1024
  | mmService => 32 * 1024
  | compositor => 32 * 1024
  | netstack => 32 * 1024

/-- `core::alloc::Layout`. -/
structure Layout where
  align : BitVec 64
  size : BitVec 64
  power : ∃ k < 64, align = BitVec.twoPow 64 k
  fits : size.toNat + align.toNat ≤ 2 ^ 63

/-- The body of the loop in `alloc`, after the load.  The answer is the offset in the heap, or
`none` for a null pointer. -/
def attempt (image : Image) (layout : Layout) (cur : BitVec 64) :
    Attempt (BitVec 64) (Option (BitVec 64)) :=
  let aligned := (cur + layout.align - 1) &&& ~~~(layout.align - 1)
  -- `checked_add`
  if aligned.toNat + layout.size.toNat < 2 ^ 64 then
    if image.heapBytes < aligned + layout.size then .give none
    else .exchange (aligned + layout.size) (some aligned)
  else .give none

/-- `alloc`, called by any threads in any order. -/
abbrev alloc (ι : Type) [DecidableEq ι] (image : Image) :
    TransitionSystem (State ι Layout (BitVec 64) (Option (BitVec 64))) (Label ι Layout) :=
  system (attempt image) 0

/-! ## Rounding -/

/-- The next multiple of the alignment. -/
def roundUp (align offset : Nat) : Nat := (offset + align - 1) / align * align

theorem Layout.align_pos (layout : Layout) : 0 < layout.align.toNat := by
  obtain ⟨k, below, power⟩ := layout.power
  rw [power, BitVec.toNat_twoPow, Nat.mod_eq_of_lt (Nat.pow_lt_pow_right (by decide) below)]
  exact Nat.two_pow_pos k

theorem toNat_and_not {x : BitVec 64} {k : Nat} (below : k < 64) :
    (x &&& ~~~(BitVec.twoPow 64 k - 1)).toNat = x.toNat / 2 ^ k * 2 ^ k := by
  have small : 2 ^ k < 2 ^ 64 := Nat.pow_lt_pow_right (by decide) below
  have positive : 0 < 2 ^ k := Nat.two_pow_pos k
  have mask : (BitVec.twoPow 64 k - 1).toNat = 2 ^ k - 1 := by
    rw [BitVec.toNat_sub_of_le, BitVec.toNat_twoPow, Nat.mod_eq_of_lt small]
    · rfl
    · rw [BitVec.le_def, BitVec.toNat_twoPow, Nat.mod_eq_of_lt small]
      exact positive
  apply Nat.eq_of_testBit_eq
  intro i
  rw [BitVec.testBit_toNat, BitVec.getLsbD_and, BitVec.getLsbD_not, ← BitVec.testBit_toNat,
    ← BitVec.testBit_toNat, mask, Nat.testBit_two_pow_sub_one, Nat.testBit_mul_two_pow,
    Nat.testBit_div_two_pow]
  by_cases low : i < k
  · simp [low, Nat.not_le.mpr low]
  · rw [Nat.sub_add_cancel (Nat.le_of_not_lt low)]
    by_cases inside : i < 64
    · simp [low, inside, Nat.le_of_not_lt low]
    · have high : x.toNat.testBit i = false :=
        Nat.testBit_lt_two_pow (x.isLt.trans_le (Nat.pow_le_pow_right (by decide)
          (Nat.le_of_not_lt inside)))
      simp [inside, high]

variable {image : Image} {layout : Layout} {cur : BitVec 64}

theorem heapBytes_le (image : Image) : image.heapBytes.toNat ≤ 64 * 1024 := by
  cases image <;> decide

theorem dvd_roundUp (align offset : Nat) : align ∣ roundUp align offset := Nat.dvd_mul_left _ _

theorem le_roundUp {align : Nat} (positive : 0 < align) (offset : Nat) :
    offset ≤ roundUp align offset := by
  have remainder := Nat.mod_lt (offset + align - 1) positive
  have split := Nat.div_add_mod' (offset + align - 1) align
  rw [roundUp]
  omega

theorem roundUp_lt {align : Nat} (positive : 0 < align) (offset : Nat) :
    roundUp align offset < offset + align := by
  have split := Nat.div_add_mod' (offset + align - 1) align
  rw [roundUp]
  omega

/-- Nothing in the sum overflows. -/
theorem toNat_aligned (inside : cur ≤ image.heapBytes) :
    ((cur + layout.align - 1) &&& ~~~(layout.align - 1)).toNat =
      roundUp layout.align.toNat cur.toNat := by
  have below := heapBytes_le image
  rw [BitVec.le_def] at inside
  have sum : (cur + layout.align - 1).toNat = cur.toNat + layout.align.toNat - 1 := by
    have positive := layout.align_pos
    have fits := layout.fits
    have added : (cur + layout.align).toNat = cur.toNat + layout.align.toNat := by
      rw [BitVec.toNat_add, Nat.mod_eq_of_lt (by omega)]
    rw [BitVec.toNat_sub_of_le, added]
    · rfl
    · rw [BitVec.le_def, added]
      exact Nat.le_add_left_of_le positive
  obtain ⟨k, exponent, power⟩ := layout.power
  have align : layout.align.toNat = 2 ^ k := by
    rw [power, BitVec.toNat_twoPow, Nat.mod_eq_of_lt (Nat.pow_lt_pow_right (by decide) exponent)]
  rw [roundUp, ← sum, align, power, toNat_and_not exponent]

/-- What an attempt does on an offset that is inside the heap. -/
theorem attempt_eq (inside : cur ≤ image.heapBytes) :
    attempt image layout cur =
      if roundUp layout.align.toNat cur.toNat + layout.size.toNat ≤ image.heapBytes.toNat then
        .exchange (.ofNat 64 (roundUp layout.align.toNat cur.toNat + layout.size.toNat))
          (some (.ofNat 64 (roundUp layout.align.toNat cur.toNat)))
      else .give none := by
  have below := heapBytes_le image
  have fits := layout.fits
  have rounded := roundUp_lt layout.align_pos cur.toNat
  have aligned : ((cur + layout.align - 1) &&& ~~~(layout.align - 1)).toNat =
      roundUp layout.align.toNat cur.toNat := toNat_aligned inside
  rw [BitVec.le_def] at inside
  have added : (((cur + layout.align - 1) &&& ~~~(layout.align - 1)) + layout.size).toNat =
      roundUp layout.align.toNat cur.toNat + layout.size.toNat := by
    rw [BitVec.toNat_add, aligned, Nat.mod_eq_of_lt (by omega)]
  have start : (cur + layout.align - 1) &&& ~~~(layout.align - 1) =
      .ofNat 64 (roundUp layout.align.toNat cur.toNat) := by
    rw [← aligned, BitVec.ofNat_toNat, BitVec.setWidth_eq]
  have stop : ((cur + layout.align - 1) &&& ~~~(layout.align - 1)) + layout.size =
      .ofNat 64 (roundUp layout.align.toNat cur.toNat + layout.size.toNat) := by
    rw [← added, BitVec.ofNat_toNat, BitVec.setWidth_eq]
  have behind : (image.heapBytes < ((cur + layout.align - 1) &&& ~~~(layout.align - 1)) +
      layout.size) ↔
      ¬ roundUp layout.align.toNat cur.toNat + layout.size.toNat ≤ image.heapBytes.toNat := by
    rw [BitVec.lt_def, added, Nat.not_le]
  rw [attempt, aligned, if_pos (by omega), stop, start]
  rw [stop] at behind
  by_cases room : roundUp layout.align.toNat cur.toNat + layout.size.toNat ≤
      image.heapBytes.toNat
  · rw [if_neg (behind.not.mpr (not_not.mpr room)), if_pos room]
  · rw [if_pos (behind.mpr room), if_neg room]

/-! ## The blocks -/

/-- A block that was handed out. -/
structure Block where
  offset : Nat
  layout : Layout

def Block.stop (block : Block) : Nat := block.offset + block.layout.size.toNat

variable {ι : Type}

/-- The blocks of a history, the newest first. -/
def blocks (history : List (Event ι Layout (Option (BitVec 64)))) : List Block :=
  history.filterMap fun
    | .commit _ layout (some offset) => some ⟨offset.toNat, layout⟩
    | _ => none

theorem blocks_commit (thread : ι) (layout : Layout) (offset : BitVec 64)
    (older : List (Event ι Layout (Option (BitVec 64)))) :
    blocks (.commit thread layout (some offset) :: older) =
      ⟨offset.toNat, layout⟩ :: blocks older := rfl

/-- A block inside the heap, at a multiple of its alignment. -/
structure Block.Placed (image : Image) (block : Block) : Prop where
  aligned : block.layout.align.toNat ∣ block.offset
  inside : block.stop ≤ image.heapBytes.toNat

/-- Where the last block ends. -/
def used (history : List (Event ι Layout (Option (BitVec 64)))) : Nat :=
  match blocks history with
  | [] => 0
  | block :: _ => block.stop

/-- What an allocator for one thread would answer: the next place behind the last block, if there
is room. -/
def answerOf (image : Image) (layout : Layout) (used : Nat) : Option (BitVec 64) :=
  if roundUp layout.align.toNat used + layout.size.toNat ≤ image.heapBytes.toNat then
    some (.ofNat 64 (roundUp layout.align.toNat used))
  else none

/-- Bytes are placed right behind the last block. -/
theorem isSome_answerOf {used : Nat} (bytes : layout.align = 1) :
    (answerOf image layout used).isSome =
      decide (used + layout.size.toNat ≤ image.heapBytes.toNat) := by
  have one : layout.align.toNat = 1 := congrArg BitVec.toNat bytes
  have here : roundUp 1 used = used := by
    rw [roundUp, Nat.add_sub_cancel, Nat.div_one, Nat.mul_one]
  rw [answerOf, one, here]
  split
  · next room => exact (decide_eq_true room).symm
  · next full => exact (decide_eq_false full).symm

/-- What is known of the offset and the blocks after a history. -/
structure Laid (image : Image) (history : List (Event ι Layout (Option (BitVec 64)))) : Prop where
  inside : valueAfter (attempt image) 0 history ≤ image.heapBytes
  value : (valueAfter (attempt image) 0 history).toNat = used history
  placed : ∀ block ∈ blocks history, block.Placed image
  behind : ∀ block ∈ blocks history, block.stop ≤ (valueAfter (attempt image) 0 history).toNat
  inOrder : (blocks history).Pairwise fun newer older => older.stop ≤ newer.offset

theorem laid_of_fits [DecidableEq ι] {history : List (Event ι Layout (Option (BitVec 64)))}
    (fits : AtEveryEntry (Fits (attempt image) 0) history) : Laid image history := by
  induction history with
  | nil =>
      refine ⟨?_, rfl, nofun, nofun, List.Pairwise.nil⟩
      rw [valueAfter, BitVec.le_def]
      exact Nat.zero_le _
  | cons event older ih =>
      obtain ⟨earlier, -, answers⟩ := fits
      obtain ⟨inside, value, placed, behind, inOrder⟩ := ih earlier
      cases event with
      | call thread request => exact ⟨inside, value, placed, behind, inOrder⟩
      | ret thread request answer => exact ⟨inside, value, placed, behind, inOrder⟩
      | commit thread request answer =>
          have tries : attempt image request (valueAfter (attempt image) 0 older) = _ :=
            attempt_eq inside
          have answered := answers thread request answer rfl
          by_cases room : roundUp request.align.toNat
              (valueAfter (attempt image) 0 older).toNat + request.size.toNat ≤
              image.heapBytes.toNat
          case neg =>
            rw [tries, if_neg room, Attempt.answer] at answered
            subst answered
            have kept : valueAfter (attempt image) 0 (.commit thread request none :: older) =
                valueAfter (attempt image) 0 older := by
              rw [valueAfter, tries, if_neg room, Attempt.apply]
            exact ⟨kept ▸ inside, kept ▸ value, placed, kept ▸ behind, inOrder⟩
          rw [tries, if_pos room, Attempt.answer] at answered
          subst answered
          have small := heapBytes_le image
          have start := le_roundUp request.align_pos (valueAfter (attempt image) 0 older).toNat
          have offset : (BitVec.ofNat 64 (roundUp request.align.toNat
              (valueAfter (attempt image) 0 older).toNat)).toNat =
              roundUp request.align.toNat (valueAfter (attempt image) 0 older).toNat := by
            rw [BitVec.toNat_ofNat, Nat.mod_eq_of_lt (by omega)]
          have moved : (valueAfter (attempt image) 0 (.commit thread request (some (.ofNat 64
              (roundUp request.align.toNat (valueAfter (attempt image) 0 older).toNat))) ::
                older)).toNat = roundUp request.align.toNat
              (valueAfter (attempt image) 0 older).toNat + request.size.toNat := by
            rw [valueAfter, tries, if_pos room, Attempt.apply, BitVec.toNat_ofNat,
              Nat.mod_eq_of_lt (by omega)]
          have first : blocks (.commit thread request (some (.ofNat 64 (roundUp request.align.toNat
              (valueAfter (attempt image) 0 older).toNat))) :: older) =
              ⟨roundUp request.align.toNat (valueAfter (attempt image) 0 older).toNat, request⟩ ::
                blocks older := by
            rw [blocks_commit, offset]
          refine ⟨?_, ?_, ?_, ?_, ?_⟩
          · rw [BitVec.le_def, moved]
            exact room
          · rw [used, first]
            exact moved
          · rw [first]
            rintro block here
            rcases List.mem_cons.mp here with rfl | earlier
            · exact ⟨dvd_roundUp _ _, room⟩
            · exact placed block earlier
          · rw [first, moved]
            rintro block here
            rcases List.mem_cons.mp here with rfl | earlier
            · exact le_rfl
            · exact (behind block earlier).trans (start.trans (Nat.le_add_right _ _))
          · rw [first]
            exact List.pairwise_cons.mpr
              ⟨fun block earlier => (behind block earlier).trans start, inOrder⟩

/-- What an attempt answers behind a history. -/
theorem answer_attempt [DecidableEq ι] {history : List (Event ι Layout (Option (BitVec 64)))}
    (fits : AtEveryEntry (Fits (attempt image) 0) history) (layout : Layout) :
    (attempt image layout (valueAfter (attempt image) 0 history)).answer =
      answerOf image layout (used history) := by
  have laid := laid_of_fits fits
  rw [attempt_eq laid.inside, laid.value, answerOf]
  split
  · rfl
  · rfl

/-- The offset only grows, and stays inside the heap. -/
theorem attempt_grows (request : Layout) (cell new : BitVec 64) (answer : Option (BitVec 64))
    (inside : cell ≤ image.heapBytes) (tries : attempt image request cell = .exchange new answer) :
    new ≤ image.heapBytes ∧ (new = cell ∨ cell.toNat < new.toNat) := by
  have below := heapBytes_le image
  have start := le_roundUp request.align_pos cell.toNat
  rw [attempt_eq inside] at tries
  split at tries
  next room =>
    cases tries
    have moved : (BitVec.ofNat 64 (roundUp request.align.toNat cell.toNat +
        request.size.toNat)).toNat = roundUp request.align.toNat cell.toNat +
          request.size.toNat := by
      rw [BitVec.toNat_ofNat, Nat.mod_eq_of_lt (by omega)]
    refine ⟨?_, ?_⟩
    · rw [BitVec.le_def, moved]
      exact room
    · have reaches := start.trans (Nat.le_add_right _ request.size.toNat)
      rcases Nat.eq_or_lt_of_le reaches with same | more
      · exact Or.inl (BitVec.eq_of_toNat_eq (moved.trans same.symm))
      · exact Or.inr (more.trans_eq moved.symm)
  next => cases tries

/-- 24 bytes at a multiple of 16. -/
def Layout.sample : Layout where
  align := 16
  size := 24
  power := ⟨4, by decide, by decide⟩
  fits := by decide

/-- Two threads load the same offset, and the second one misses. -/
def contended : Option (State Bool Layout (BitVec 64) (Option (BitVec 64))) :=
  TransitionSystem.runWhile (next (attempt .kernel)) (fun _ _ => true)
    [.call false .sample, .call true .sample, .go false, .go true, .go false, .go true, .go true,
      .go true]
    ⟨0, fun _ => .idle, fun _ => 0, []⟩

theorem contended_reachable {state : State Bool Layout (BitVec 64) (Option (BitVec 64))}
    (ran : contended = some state) :
    (alloc Bool .kernel).Reachable (fun _ _ => (true : Bool) = true) state := by
  refine ⟨⟨0, fun _ => .idle, fun _ => 0, []⟩, ⟨rfl, fun _ => rfl, fun _ => rfl, rfl⟩, ?_⟩
  exact TransitionSystem.Reaches.runWhile (fun _ _ _ => id) (.refl _) ran

section Runs

variable [DecidableEq ι]
  {admits : State ι Layout (BitVec 64) (Option (BitVec 64)) → Label ι Layout → Prop}
  {state : State ι Layout (BitVec 64) (Option (BitVec 64))}

/-- However the threads interleave, each call takes effect once before it returns, and is answered
as by an allocator for one thread. -/
theorem alloc_sequential (reachable : (alloc ι image).Reachable admits state) :
    AtEveryEntry (fun older event => Follows (lastOf event.thread older) event ∧
      ∀ thread layout answer, event = .commit thread layout answer →
        answer = answerOf image layout (used older)) state.history := by
  refine (atEveryEntry_congr fun older event fits _ => ?_).1 (linear_of_reachable reachable).fits
  apply and_congr_right
  intro follows
  apply forall₄_congr
  intro thread layout answer here
  rw [answer_attempt fits]

theorem alloc_sequential_contended : ∃ state, contended = some state ∧
    used state.history = 56 ∧
    AtEveryEntry (fun older event => Follows (lastOf event.thread older) event ∧
      ∀ thread layout answer, event = .commit thread layout answer →
        answer = answerOf .kernel layout (used older)) state.history := by
  have ends : contended.map (fun state => used state.history) = some 56 := by decide
  obtain ⟨state, ran, value⟩ := Option.map_eq_some_iff.mp ends
  exact ⟨state, ran, value, alloc_sequential (contended_reachable ran)⟩

/-- The blocks that any threads were given in any order are aligned, inside the heap and apart. -/
theorem alloc_blocks (reachable : (alloc ι image).Reachable admits state) :
    (∀ block ∈ blocks state.history, block.Placed image) ∧
      (blocks state.history).Pairwise fun newer older => older.stop ≤ newer.offset := by
  have laid := laid_of_fits (linear_of_reachable reachable).fits
  exact ⟨laid.placed, laid.inOrder⟩

theorem alloc_blocks_contended : ∃ state, contended = some state ∧
    (blocks state.history).map Block.offset = [32, 0] ∧
    (∀ block ∈ blocks state.history, block.Placed .kernel) ∧
    (blocks state.history).Pairwise fun newer older => older.stop ≤ newer.offset := by
  have ends : contended.map (fun state => (blocks state.history).map Block.offset) =
      some [32, 0] := by decide
  obtain ⟨state, ran, offsets⟩ := Option.map_eq_some_iff.mp ends
  exact ⟨state, ran, offsets, alloc_blocks (contended_reachable ran)⟩

/-- A thread that is in `alloc` has missed at most once for each byte of the heap. -/
theorem alloc_misses (reachable : (alloc ι image).Reachable admits state) (thread : ι) :
    state.misses thread ≤ image.heapBytes.toNat := by
  have counts : Counts (fun cell => cell ≤ image.heapBytes) BitVec.toNat state :=
    counts_of_reachable (BitVec.le_def.mpr (Nat.zero_le _)) attempt_grows reachable
  exact (counts.bounded thread).trans (BitVec.le_def.mp counts.valid)

theorem alloc_misses_contended : ∃ state, contended = some state ∧
    state.misses true = 1 ∧ state.misses true ≤ Image.kernel.heapBytes.toNat := by
  have ends : contended.map (fun state => state.misses true) = some 1 := by decide
  obtain ⟨state, ran, once⟩ := Option.map_eq_some_iff.mp ends
  exact ⟨state, ran, once, alloc_misses (contended_reachable ran) true⟩

end Runs

end BumpAllocator

end Simurgh
