import Mathlib.Data.Nat.Find
import Simurgh.Hal.PageTable
import Simurgh.Lib.TransitionSystem

/-!
# Where the trap vector stores

The RISC-V trap vector stores the registers below the stack pointer of the thread that
was interrupted, with the rights of the supervisor, and the functions that it calls have
their frames below that.  A store that faults enters the trap vector again.
-/

namespace Simurgh

namespace Riscv64

/-! ## The code -/

inductive TrapInstr where
  /-- `addi sp, sp, -248`. -/
  | reserve
  /-- `sd x(slot + 1), 8 * slot(sp)`. -/
  | store (slot : Nat)
  /-- `call common_trap_entry`. -/
  | call
  deriving DecidableEq, Repr

/-- `trap_entry` up to its call. -/
def trapCode : List TrapInstr :=
  .reserve :: (List.range 31).map .store ++ [.call]

/-- What a hart in the trap vector does next. -/
inductive TrapMove where
  /-- An instruction other than the call. -/
  | go
  /-- In the call, the functions have lowered the stack pointer by so many 16 bytes, and one
  stores a word of its frame.  The words are counted down from the frame of the trap. -/
  | spill (lowered word : Nat)
  /-- The call returns, and has put up to two results into the frame of the trap. -/
  | back (results : Nat)
  deriving DecidableEq, Repr

/-- The address space of the thread, on a hart that stores unaligned words or does not.
The supervisor may access user pages. -/
structure TrapSpace where
  mem : TableMemory
  root : Nat
  unaligned : Bool

namespace TrapSpace

variable (space : TrapSpace)

/-- The page of an address. -/
def page (addr : Word) : Option PageLeaf := Sv39.format.walk space.mem space.root addr.toNat

/-- The supervisor can store a word there. -/
def Storable (addr : Word) : Prop :=
  (space.unaligned = true ∨ addr.toNat % 8 = 0) ∧
    ∀ i < 8, (space.page (addr + BitVec.ofNat 64 i)).any (·.writable) = true

/-- The word belongs to the thread. -/
def UserWord (addr : Word) : Prop :=
  ∀ i < 8, (space.page (addr + BitVec.ofNat 64 i)).any (·.user) = true

instance (addr : Word) : Decidable (space.Storable addr) :=
  inferInstanceAs (Decidable (_ ∧ _))

instance (addr : Word) : Decidable (space.UserWord addr) :=
  inferInstanceAs (Decidable (∀ i < 8, _))

end TrapSpace

/-- A hart in the trap vector. -/
structure TrapHart where
  sp : Word
  pc : Nat
  /-- The words that were stored. -/
  stored : List Word
  deriving DecidableEq, Repr

namespace TrapHart

variable (space : TrapSpace) (depth : Nat)

/-- The registers at the trap. -/
def enter (live : Reg → Word) : TrapHart := { sp := stackPointer live, pc := 0, stored := [] }

def slot (sp : Word) (slot : Nat) : Word := sp + BitVec.ofNat 64 (8 * slot)

def below (sp : Word) (word : Nat) : Word := sp - BitVec.ofNat 64 (8 * (word + 1))

/-- One instruction, or a part of the call, in which the functions use so many bytes below the
frame.  Of the results, `a0` has the slot 9. -/
def next (hart : TrapHart) (move : TrapMove) : Option TrapHart :=
  match trapCode[hart.pc]?, move with
  | some .reserve, .go => some { hart with sp := hart.sp - trapFrameBytes, pc := hart.pc + 1 }
  | some (.store i), .go =>
      if space.Storable (slot hart.sp i) then
        some { hart with pc := hart.pc + 1, stored := slot hart.sp i :: hart.stored }
      else some { hart with pc := 0 }
  | some .call, .spill lowered word =>
      if 16 * lowered ≤ depth ∧ word < 2 * lowered then
        if space.Storable (below hart.sp word) then
          some { hart with stored := below hart.sp word :: hart.stored }
        else some { hart with sp := hart.sp - BitVec.ofNat 64 (16 * lowered), pc := 0 }
      else none
  | some .call, .back results =>
      if results ≤ 2 then
        some { hart with
          pc := hart.pc + 1
          stored := (List.range results).map (fun i => slot hart.sp (9 + i)) ++ hart.stored }
      else none
  | _, _ => none

/-- Traps of a thread with these registers. -/
def system (live : Reg → Word) : TransitionSystem TrapHart TrapMove where
  Initial hart := hart = enter live
  Step before move after := before.next space depth move = some after

/-- What was stored belongs to the thread.  The kernel has no storage for trap frames. -/
def Confined (hart : TrapHart) : Prop := ∀ addr ∈ hart.stored, space.UserWord addr

/-! ## Frames below frames -/

/-- The slots of the frame of a trap with that stack pointer. -/
def frameSlot (pointer : Word) (i : Nat) : Word := slot (pointer - trapFrameBytes) i

/-- The frame can be stored as a whole. -/
def Framed (pointer : Word) : Prop := ∀ i < 31, space.Storable (frameSlot pointer i)

/-- The stack pointers with which the trap vector is entered, first with that of the thread. -/
inductive Entered (sp : Word) : Word → Prop where
  | trap : Entered sp sp
  /-- The frame cannot be stored as a whole. -/
  | frame {pointer : Word} {i : Nat} (entered : Entered sp pointer) (inside : i < 31)
      (faults : ¬ space.Storable (frameSlot pointer i)) : Entered sp (pointer - trapFrameBytes)
  /-- The frame can, but not a word below it. -/
  | spill {pointer : Word} {lowered word : Nat} (entered : Entered sp pointer)
      (framed : Framed space pointer) (fits : 16 * lowered ≤ depth) (inside : word < 2 * lowered)
      (faults : ¬ space.Storable (below (pointer - trapFrameBytes) word)) :
      Entered sp (pointer - trapFrameBytes - BitVec.ofNat 64 (16 * lowered))

/-- The words that a trap of the thread can store. -/
inductive Tried (sp : Word) : Word → Prop where
  /-- The slot of a frame that is tried comes before the first one that faults. -/
  | slot {pointer : Word} {i : Nat} (entered : Entered space depth sp pointer) (inside : i < 31)
      (storable : ∀ j ≤ i, space.Storable (frameSlot pointer j)) : Tried sp (frameSlot pointer i)
  | spill {pointer : Word} {word : Nat} (entered : Entered space depth sp pointer)
      (framed : Framed space pointer) (inside : word < 2 * (depth / 16))
      (storable : space.Storable (below (pointer - trapFrameBytes) word)) :
      Tried sp (below (pointer - trapFrameBytes) word)

/-- Whenever the trap vector is entered, the slots of the frame before the first one that cannot
be stored are on user pages, and below a frame that can be stored as a whole also the words of
the functions that can. -/
def StaysOnUserPages (sp : Word) : Prop :=
  ∀ pointer, Entered space depth sp pointer →
    (∀ i < 31, (∀ j ≤ i, space.Storable (frameSlot pointer j)) →
      space.UserWord (frameSlot pointer i)) ∧
    (Framed space pointer → ∀ word < 2 * (depth / 16),
      space.Storable (below (pointer - trapFrameBytes) word) →
        space.UserWord (below (pointer - trapFrameBytes) word))

theorem staysOnUserPages_iff {sp : Word} :
    StaysOnUserPages space depth sp ↔ ∀ addr, Tried space depth sp addr → space.UserWord addr := by
  constructor
  · intro stays addr tried
    cases tried with
    | slot entered inside storable => exact (stays _ entered).1 _ inside storable
    | spill entered framed inside storable => exact (stays _ entered).2 framed _ inside storable
  · intro tried pointer entered
    exact ⟨fun i inside storable => tried _ (.slot entered inside storable),
      fun framed word inside storable => tried _ (.spill entered framed inside storable)⟩

/-! ## What is stored was tried -/

theorem trapCode_store : ∀ i < 31, trapCode[i + 1]? = some (.store i) := by decide

theorem trapCode_end {pc : Nat} (behind : 33 ≤ pc) : trapCode[pc]? = none :=
  List.getElem?_eq_none behind

/-- The hart tries a frame, of which it has stored a part. -/
structure Tries (sp : Word) (hart : TrapHart) : Prop where
  tried : ∀ addr ∈ hart.stored, Tried space depth sp addr
  place : ∃ pointer, Entered space depth sp pointer ∧
    ((hart.pc = 0 ∧ hart.sp = pointer) ∨
      (0 < hart.pc ∧ hart.sp = pointer - trapFrameBytes ∧
        ∀ j < 31, j + 1 < hart.pc → space.Storable (frameSlot pointer j)))

variable {space depth}

theorem Tries.enter (live : Reg → Word) :
    Tries space depth (stackPointer live) (enter live) :=
  ⟨fun _ absurdity => absurd absurdity List.not_mem_nil, _, .trap, Or.inl ⟨rfl, rfl⟩⟩

section Moves

variable {sp pointer : Word} {before after : TrapHart} {move : TrapMove}

theorem Tries.next_reserve (tries : Tries space depth sp before)
    (entered : Entered space depth sp pointer) (atStart : before.pc = 0)
    (here : before.sp = pointer) (taken : before.next space depth move = some after) :
    Tries space depth sp after := by
  have code : trapCode[before.pc]? = some .reserve := by rw [atStart]; rfl
  unfold TrapHart.next at taken
  rw [code] at taken
  cases move with
  | go =>
      obtain rfl := Option.some.inj taken
      refine ⟨tries.tried, pointer, entered, Or.inr ⟨Nat.succ_pos _, ?_, ?_⟩⟩
      · rw [here]
      · intro j _ behind
        change j + 1 < before.pc + 1 at behind
        omega
  | spill lowered word => cases taken
  | back results => cases taken

theorem Tries.next_store (tries : Tries space depth sp before)
    (entered : Entered space depth sp pointer) {i : Nat} (inside : i < 31)
    (pc : before.pc = i + 1) (here : before.sp = pointer - trapFrameBytes)
    (earlier : ∀ j < 31, j + 1 < before.pc → space.Storable (frameSlot pointer j))
    (taken : before.next space depth move = some after) : Tries space depth sp after := by
  have code : trapCode[before.pc]? = some (.store i) := by
    rw [pc]
    exact trapCode_store i inside
  have address : slot before.sp i = frameSlot pointer i := by rw [here]; rfl
  unfold TrapHart.next at taken
  rw [code] at taken
  cases move with
  | go =>
      simp only [address] at taken
      split at taken
      · next storable =>
        obtain rfl := Option.some.inj taken
        have upTo : ∀ j ≤ i, space.Storable (frameSlot pointer j) := by
          intro j upper
          by_cases same : j = i
          · rwa [same]
          · exact earlier j (by omega) (by omega)
        constructor
        · intro addr member
          rcases List.mem_cons.1 member with rfl | earlier
          · exact .slot entered inside upTo
          · exact tries.tried addr earlier
        · refine ⟨pointer, entered, Or.inr ⟨Nat.succ_pos _, here, ?_⟩⟩
          intro j _ behind
          change j + 1 < before.pc + 1 at behind
          exact upTo j (by omega)
      · next faults =>
        obtain rfl := Option.some.inj taken
        exact ⟨tries.tried, _, entered.frame inside faults, Or.inl ⟨rfl, here⟩⟩
  | spill lowered word => cases taken
  | back results => cases taken

theorem Tries.next_call (tries : Tries space depth sp before)
    (entered : Entered space depth sp pointer) (pc : before.pc = 32)
    (here : before.sp = pointer - trapFrameBytes) (framed : Framed space pointer)
    (taken : before.next space depth move = some after) : Tries space depth sp after := by
  have code : trapCode[before.pc]? = some .call := by rw [pc]; rfl
  have started : 0 < before.pc := by omega
  unfold TrapHart.next at taken
  rw [code] at taken
  cases move with
  | go => cases taken
  | spill lowered word =>
      obtain ⟨⟨fits, inside⟩, spilled⟩ := Option.ite_none_right_eq_some.1 taken
      rw [here] at spilled
      split at spilled
      · next storable =>
        obtain rfl := Option.some.inj spilled
        refine ⟨?_, pointer, entered, Or.inr ⟨started, rfl, fun j within _ => framed j within⟩⟩
        intro addr member
        rcases List.mem_cons.1 member with rfl | earlier
        · exact .spill entered framed (by omega) storable
        · exact tries.tried addr earlier
      · next faults =>
        obtain rfl := Option.some.inj spilled
        exact ⟨tries.tried, _, entered.spill framed fits inside faults, Or.inl ⟨rfl, rfl⟩⟩
  | back results =>
      obtain ⟨few, same⟩ := Option.ite_none_right_eq_some.1 taken
      obtain rfl := Option.some.inj same
      refine ⟨?_, pointer, entered,
        Or.inr ⟨Nat.succ_pos _, here, fun j within _ => framed j within⟩⟩
      intro addr member
      rcases List.mem_append.1 member with result | earlier
      · obtain ⟨i, place, rfl⟩ := List.mem_map.1 result
        rw [List.mem_range] at place
        rw [here]
        exact .slot entered (by omega) fun j upper => framed j (by omega)
      · exact tries.tried addr earlier

theorem Tries.next (tries : Tries space depth sp before)
    (taken : before.next space depth move = some after) : Tries space depth sp after := by
  obtain ⟨pointer, entered, ⟨atStart, here⟩ | ⟨started, here, earlier⟩⟩ := tries.place
  · exact tries.next_reserve entered atStart here taken
  · by_cases stores : before.pc ≤ 31
    · obtain ⟨i, pc⟩ := Nat.exists_eq_succ_of_ne_zero (Nat.ne_of_gt started)
      exact tries.next_store entered (by omega) pc here earlier taken
    · by_cases calls : before.pc = 32
      · exact tries.next_call entered calls here
          (fun j inside => earlier j inside (by omega)) taken
      · have code : trapCode[before.pc]? = none := trapCode_end (by omega)
        unfold TrapHart.next at taken
        rw [code] at taken
        cases taken

end Moves

/-! ## What is tried is stored -/

section Reaches

variable {live : Reg → Word} {pointer : Word}

/-- The hart comes to a slot when the slots before it can be stored. -/
theorem reaches_slot {hart : TrapHart}
    (reached : (system space depth live).Reachable TransitionSystem.anyStep hart)
    (atStart : hart.pc = 0) (here : hart.sp = pointer) {i : Nat} (inside : i ≤ 31)
    (storable : ∀ j < i, space.Storable (frameSlot pointer j)) :
    ∃ later, (system space depth live).Reachable TransitionSystem.anyStep later ∧
      later.pc = i + 1 ∧ later.sp = pointer - trapFrameBytes ∧
      ∀ j < i, frameSlot pointer j ∈ later.stored := by
  induction i with
  | zero =>
      have code : trapCode[hart.pc]? = some .reserve := by rw [atStart]; rfl
      have taken : hart.next space depth .go =
          some { hart with sp := hart.sp - trapFrameBytes, pc := hart.pc + 1 } := by
        unfold next
        rw [code]
      refine ⟨_, reached.step trivial taken, ?_, ?_, ?_⟩
      · rw [atStart]
      · rw [here]
      · exact fun j absurdity => absurd absurdity (Nat.not_lt_zero j)
  | succ i ih =>
      obtain ⟨later, reachedLater, pc, pointerLater, stored⟩ :=
        ih (by omega) fun j upper => storable j (by omega)
      have code : trapCode[later.pc]? = some (.store i) := by
        rw [pc]
        exact trapCode_store i (by omega)
      have address : slot later.sp i = frameSlot pointer i := by
        rw [pointerLater]
        rfl
      have taken : later.next space depth .go =
          some { later with
            pc := later.pc + 1
            stored := frameSlot pointer i :: later.stored } := by
        unfold next
        rw [code]
        simp only [address]
        rw [if_pos (storable i (Nat.lt_succ_self i))]
      refine ⟨_, reachedLater.step trivial taken, ?_, pointerLater, ?_⟩
      · rw [pc]
      · intro j upper
        by_cases same : j = i
        · rw [same]
          exact List.mem_cons_self
        · exact List.mem_cons_of_mem _ (stored j (by omega))

/-- In the call, the functions come to every word that they may use. -/
theorem reaches_spill {hart : TrapHart}
    (reached : (system space depth live).Reachable TransitionSystem.anyStep hart)
    (atStart : hart.pc = 0) (here : hart.sp = pointer) (framed : Framed space pointer)
    {lowered word : Nat} (fits : 16 * lowered ≤ depth) (inside : word < 2 * lowered) :
    ∃ later, (system space depth live).Reachable TransitionSystem.anyStep later ∧
      if space.Storable (below (pointer - trapFrameBytes) word) then
        below (pointer - trapFrameBytes) word ∈ later.stored
      else later.pc = 0 ∧ later.sp = pointer - trapFrameBytes - BitVec.ofNat 64 (16 * lowered) := by
  obtain ⟨later, reachedLater, pc, pointerLater, _⟩ :=
    reaches_slot reached atStart here (Nat.le_refl 31) framed
  have code : trapCode[later.pc]? = some .call := by rw [pc]; rfl
  by_cases storable : space.Storable (below (pointer - trapFrameBytes) word)
  · have taken : later.next space depth (.spill lowered word) =
        some { later with
          stored := below (pointer - trapFrameBytes) word :: later.stored } := by
      unfold next
      rw [code]
      simp only [pointerLater]
      rw [if_pos ⟨fits, inside⟩, if_pos storable]
    refine ⟨_, reachedLater.step trivial taken, ?_⟩
    rw [if_pos storable]
    exact List.mem_cons_self
  · have taken : later.next space depth (.spill lowered word) =
        some { later with
          sp := pointer - trapFrameBytes - BitVec.ofNat 64 (16 * lowered)
          pc := 0 } := by
      unfold next
      rw [code]
      simp only [pointerLater]
      rw [if_pos ⟨fits, inside⟩, if_neg storable]
    refine ⟨_, reachedLater.step trivial taken, ?_⟩
    rw [if_neg storable]
    exact ⟨rfl, rfl⟩

/-- The trap vector is entered with every such stack pointer. -/
theorem reaches_entered (entered : Entered space depth (stackPointer live) pointer) :
    ∃ hart, (system space depth live).Reachable TransitionSystem.anyStep hart ∧
      hart.pc = 0 ∧ hart.sp = pointer := by
  induction entered with
  | trap => exact ⟨enter live, ⟨enter live, rfl, .refl _⟩, rfl, rfl⟩
  | @frame pointer i _ inside faults ih =>
      obtain ⟨hart, reached, atStart, here⟩ := ih
      -- The first slot that faults leads to the next frame.
      have some_faults : ∃ i, i < 31 ∧ ¬ space.Storable (frameSlot pointer i) :=
        ⟨i, inside, faults⟩
      have first := Nat.find_spec some_faults
      have storable : ∀ j < Nat.find some_faults, space.Storable (frameSlot pointer j) := by
        intro j before
        by_contra fault
        exact Nat.find_min some_faults before ⟨by omega, fault⟩
      obtain ⟨later, reachedLater, pc, pointerLater, _⟩ :=
        reaches_slot reached atStart here (Nat.le_of_lt first.1) storable
      have code : trapCode[later.pc]? = some (.store (Nat.find some_faults)) := by
        rw [pc]
        exact trapCode_store _ first.1
      have address : slot later.sp (Nat.find some_faults) =
          frameSlot pointer (Nat.find some_faults) := by
        rw [pointerLater]
        rfl
      have taken : later.next space depth .go = some { later with pc := 0 } := by
        unfold next
        rw [code]
        simp only [address]
        rw [if_neg first.2]
      exact ⟨_, reachedLater.step trivial taken, rfl, pointerLater⟩
  | spill _ framed fits inside faults ih =>
      obtain ⟨hart, reached, atStart, here⟩ := ih
      obtain ⟨later, reachedLater, ends⟩ := reaches_spill reached atStart here framed fits inside
      rw [if_neg faults] at ends
      exact ⟨later, reachedLater, ends⟩

end Reaches

/-! ## Confinement -/

/-- With functions that may use any words of so many bytes below the frame, all that a trap of the
thread stores is its own exactly if it stays on user pages. -/
theorem trap_confined_iff (space : TrapSpace) (depth : Nat) (live : Reg → Word) :
    (∀ hart, (system space depth live).Reachable TransitionSystem.anyStep hart →
        hart.Confined space) ↔
      StaysOnUserPages space depth (stackPointer live) := by
  rw [staysOnUserPages_iff]
  constructor
  · intro confined addr tried
    cases tried with
    | @slot pointer i entered inside storable =>
        obtain ⟨hart, reached, atStart, here⟩ := reaches_entered entered
        obtain ⟨later, reachedLater, _, _, stored⟩ := @reaches_slot space depth live pointer hart
          reached atStart here (i + 1) (by omega) fun j before => storable j (by omega)
        exact confined later reachedLater _ (stored i (Nat.lt_succ_self i))
    | spill entered framed inside storable =>
        obtain ⟨hart, reached, atStart, here⟩ := reaches_entered entered
        obtain ⟨later, reachedLater, ends⟩ := reaches_spill reached atStart here framed
          (Nat.mul_div_le depth 16) inside
        rw [if_pos storable] at ends
        exact confined later reachedLater _ ends
  · intro tried hart reached addr member
    have tries : Tries space depth (stackPointer live) hart := by
      refine reached.invariant ?_ fun before move after _ tries taken => tries.next taken
      rintro start rfl
      exact .enter live
    exact tried addr (tries.tried addr member)

/-! ## The memory of the kernel -/

/-- An address space as the kernel makes it for a thread. -/
def identitySpace (rootFrame bytesGib : Nat) (mem : TableMemory) (unaligned : Bool) :
    TrapSpace where
  mem := Sv39.mapRamIdentity rootFrame bytesGib false mem
  root := rootFrame
  unaligned := unaligned

theorem page_identitySpace {rootFrame bytesGib : Nat} (mem : TableMemory) (unaligned : Bool)
    (few : bytesGib ≤ 256) {addr : Word} (below : addr.toNat < bytesGib * 2 ^ 30) :
    (identitySpace rootFrame bytesGib mem unaligned).page addr =
      some (Sv39.gibLeaf (addr.toNat / 2 ^ 30) false) :=
  Sv39.walk_mapRamIdentity false mem few below

/-- Every word of the memory of the kernel is the first one that some trap stores. -/
theorem kernel_word_stored {rootFrame bytesGib depth : Nat} (mem : TableMemory)
    (unaligned : Bool) (few : bytesGib ≤ 256) {live : Reg → Word} {addr : Word}
    (aligned : addr.toNat % 8 = 0)
    (below : addr.toNat < bytesGib * 2 ^ 30)
    (pointer : stackPointer live = addr + trapFrameBytes) :
    ∃ hart, (system (identitySpace rootFrame bytesGib mem unaligned) depth live).Reachable
        TransitionSystem.anyStep hart ∧
      ¬ hart.Confined (identitySpace rootFrame bytesGib mem unaligned) := by
  have bytes : ∀ i < 8, (addr + BitVec.ofNat 64 i).toNat = addr.toNat + i := by
    intro i small
    rw [BitVec.toNat_add, BitVec.toNat_ofNat]
    omega
  have place : frameSlot (stackPointer live) 0 = addr := by
    change stackPointer live - trapFrameBytes + BitVec.ofNat 64 (8 * 0) = addr
    rw [pointer, BitVec.add_sub_cancel]
    exact BitVec.add_zero addr
  have storable : (identitySpace rootFrame bytesGib mem unaligned).Storable addr := by
    refine ⟨Or.inr aligned, fun i small => ?_⟩
    rw [page_identitySpace mem unaligned few (by rw [bytes i small]; omega)]
    rfl
  have only : ∀ j < 1, (identitySpace rootFrame bytesGib mem unaligned).Storable
      (frameSlot (stackPointer live) j) := by
    intro j first
    rw [Nat.lt_one_iff.1 first, place]
    exact storable
  obtain ⟨hart, reached, _, _, stored⟩ := @reaches_slot _ depth live _ (enter live)
    ⟨enter live, rfl, .refl _⟩ rfl rfl 1 (by decide) only
  refine ⟨hart, reached, fun confined => ?_⟩
  have user := confined addr (place ▸ stored 0 Nat.one_pos) 0 (by decide)
  rw [page_identitySpace mem unaligned few (by rw [bytes 0 (by decide)]; omega)] at user
  cases user

/-- The stack pointer lies in the image of the kernel. -/
theorem trap_overwrites_kernel :
    ¬ ∀ (space : TrapSpace) (depth : Nat) (live : Reg → Word) (hart : TrapHart),
      (system space depth live).Reachable TransitionSystem.anyStep hart →
        hart.Confined space := by
  intro claimed
  obtain ⟨hart, reached, stored⟩ := @kernel_word_stored 0x80400000 3 0 (fun _ => 0) true
    (by decide) (fun _ => 0x80200100) 0x80200008 (by decide) (by decide) (by decide)
  exact stored (claimed _ _ _ hart reached)

end TrapHart

end Riscv64

end Simurgh
