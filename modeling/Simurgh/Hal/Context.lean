import Simurgh.Cap.Rights
import Simurgh.Lib.Bytes
import Simurgh.Lib.ContextSwitch

/-!
# Saved registers

How the three trap vectors save the registers of a user thread and restore them.  Each
has a full pair of routines, and a fast pair for IPC that treats the system call as a
function call.  Both pairs work on the same buffer, one for each thread.  On RISC-V the vector
stores through the stack pointer of the thread, so its words can end up in a buffer.
-/

namespace Simurgh

open ContextSwitch (Mode)

/-- A 64-bit machine word. -/
abbrev Word := BitVec 64

/-- The save and restore routines of one trap vector.  `Reg` are the registers of a
user thread, with the program counter, the status and the root of its address space.
The routines move all of them, or those that are `kept`. -/
structure ContextCode where
  Reg : Type
  decEq : DecidableEq Reg
  Context : Type
  kept : Reg → Bool
  /-- The field of a buffer that holds the register. -/
  view : Context → Reg → Word
  /-- The registers after a system call, apart from its results. -/
  pastCall : (Reg → Word) → Reg → Word
  saveFull : (Reg → Word) → Context → Context
  saveFast : (Reg → Word) → Context → Context
  restoreFull : Context → Reg → Word
  restoreFast : Context → Reg → Word
  poke : (a0 a1 : Word) → Context → Context
  /-- With these registers and these words below its frame, a trap stores into the buffer at that
  place. -/
  trapHits : (Reg → Word) → List (Nat × Word) → Nat → Prop
  /-- The buffer at a place, after the stores of a trap. -/
  trapped : (Reg → Word) → List (Nat × Word) → Nat → Context → Context
  trapped_of_not_hits : ∀ live spills place context, ¬ trapHits live spills place →
    trapped live spills place context = context
  /-- The registers that take the two results of a system call. -/
  result0 : Reg
  result1 : Reg
  results : (a0 a1 : Word) → Reg → Option Word
  view_saveFull : ∀ live context,
    view (saveFull live context) = ContextSwitch.save kept .full live (view context)
  view_saveFast : ∀ live context,
    view (saveFast live context) = ContextSwitch.save kept .short live (view context)
  restoreFull_eq : ∀ context,
    restoreFull context = ContextSwitch.restore kept 0 .full (view context)
  restoreFast_eq : ∀ context,
    restoreFast context = ContextSwitch.restore kept 0 .short (view context)
  view_poke : ∀ a0 a1 context,
    view (poke a0 a1 context) = ContextSwitch.overwrite (results a0 a1) (view context)
  results_eq : ∀ a0 a1 register, results a0 a1 register =
    if register = result0 then some a0 else if register = result1 then some a1 else none
  kept_results : kept result0 = true ∧ kept result1 = true

/-! ## RISC-V -/

namespace Riscv64

/-- The register `x (i + 1)` for every `i`, and what `sret` consumes. -/
inductive Reg where
  | x (i : Fin 31)
  | sepc
  | sstatus
  | satp
  deriving DecidableEq, Repr

def stackPointer (live : Reg → Word) : Word := live (.x 1)

/-- `regs[1]` is the stack pointer. -/
structure TrapFrame where
  address : Word
  regs : Fin 31 → Word

structure RiscvUserContext where
  regs : Fin 31 → Word
  sepc : Word
  sstatus : Word
  satp : Word

/-- `size_of::<TrapFrame>()`. -/
def trapFrameBytes : Word := 248

/-- The trap vector stores the registers below the stack pointer, which it has already
moved when it stores the stack pointer itself. -/
def trapEntry (live : Reg → Word) : TrapFrame where
  address := live (.x 1) - trapFrameBytes
  regs := fun i => if i = 1 then live (.x 1) - trapFrameBytes else live (.x i)

/-- The words that a trap stores through the stack pointer of the thread, with their addresses:
those of the frame, and those that `common_trap_entry` and what it calls put below the frame,
counted downwards from it. -/
def stackStores (live : Reg → Word) (spills : List (Nat × Word)) : List (Nat × Word) :=
  (List.finRange 31).map (fun i : Fin 31 =>
      (((trapEntry live).address + BitVec.ofNat 64 (8 * i.val)).toNat, (trapEntry live).regs i)) ++
    spills.map fun spill =>
      (((trapEntry live).address - BitVec.ofNat 64 (8 * (spill.1 + 1))).toNat, spill.2)

/-- A word in memory, after another one was stored at an address. -/
def storedOver (word : Word) (place : Nat) (store : Nat × Word) : Word :=
  let before : ByteMemory := ByteMemory.writeNat (fun _ => 0) place 8 word.toNat
  .ofNat 64 ((before.writeNat store.1 8 store.2.toNat).readNat place 8)

/-- A context at a place, after a word was stored. -/
def RiscvUserContext.storedOver (context : RiscvUserContext) (place : Nat)
    (store : Nat × Word) : RiscvUserContext where
  regs := fun i => Riscv64.storedOver (context.regs i) (place + 8 * i) store
  sepc := Riscv64.storedOver context.sepc (place + 248) store
  sstatus := Riscv64.storedOver context.sstatus (place + 256) store
  satp := Riscv64.storedOver context.satp (place + 264) store

/-- Some word is stored into the context at that place. -/
def trapHits (live : Reg → Word) (spills : List (Nat × Word)) (place : Nat) : Prop :=
  ∃ store ∈ stackStores live spills, store.1 < place + 272 ∧ place < store.1 + 8

def saveTrapFrameAsUserContext (frame : TrapFrame) (resumeSepc sstatus satp : Word)
    (_ : RiscvUserContext) : RiscvUserContext where
  regs := fun i => if i = 1 then frame.address + trapFrameBytes else frame.regs i
  sepc := resumeSepc
  sstatus := sstatus
  satp := satp

def restoreUserAndSret (blob : RiscvUserContext) : Reg → Word
  | .x i => blob.regs i
  | .sepc => blob.sepc
  | .sstatus => blob.sstatus
  | .satp => blob.satp

/-- `ra`, `gp`, `tp`, `s0`, `s1`, `a0`, `a1` and `s2` to `s11`. -/
def ipcRegs : List (Fin 31) :=
  [0, 2, 3, 7, 8, 9, 10, 17, 18, 19, 20, 21, 22, 23, 24, 25, 26]

def saveIpcFastContext (frame : TrapFrame) (resumeSepc sstatus satp : Word)
    (dst : RiscvUserContext) : RiscvUserContext where
  regs := fun i =>
    if i = 1 then frame.address + trapFrameBytes
    else if i ∈ ipcRegs then frame.regs i
    else dst.regs i
  sepc := resumeSepc
  sstatus := sstatus
  satp := satp

/-- `t0` to `t2`, `a2` to `a7` and `t3` to `t6`. -/
def zeroedRegs : List (Fin 31) := [4, 5, 6, 11, 12, 13, 14, 15, 16, 27, 28, 29, 30]

def restoreIpcFastContext (blob : RiscvUserContext) : Reg → Word
  | .x i => if i ∈ zeroedRegs then 0 else blob.regs i
  | .sepc => blob.sepc
  | .sstatus => blob.sstatus
  | .satp => blob.satp

def pokeSavedA0A1 (a0 a1 : Word) (ctx : RiscvUserContext) : RiscvUserContext :=
  { ctx with regs := fun i => if i = 9 then a0 else if i = 10 then a1 else ctx.regs i }

/-- What a function call keeps, the two message registers, and what `sret` consumes. -/
def kept : Reg → Bool
  | .x i => i = 1 ∨ i ∈ ipcRegs
  | _ => true

/-- The frame lies right below the stack pointer. -/
theorem trapEntry_address (live : Reg → Word) :
    (trapEntry live).address + trapFrameBytes = live (.x 1) :=
  BitVec.sub_add_cancel _ _

theorem trapEntry_regs (live : Reg → Word) {i : Fin 31} (other : i ≠ 1) :
    (trapEntry live).regs i = live (.x i) := if_neg other

theorem storedOver_of_disjoint {word : Word} {place : Nat} {store : Nat × Word}
    (disjoint : place + 8 ≤ store.1 ∨ store.1 + 8 ≤ place) :
    storedOver word place store = word := by
  have small : word.toNat < 256 ^ 8 := word.isLt
  rw [storedOver, ByteMemory.readNat_writeNat_of_disjoint _ disjoint,
    ByteMemory.readNat_writeNat, Nat.mod_eq_of_lt small, BitVec.ofNat_toNat, BitVec.setWidth_eq]

theorem RiscvUserContext.storedOver_of_disjoint {context : RiscvUserContext} {place : Nat}
    {store : Nat × Word} (disjoint : place + 272 ≤ store.1 ∨ store.1 + 8 ≤ place) :
    context.storedOver place store = context := by
  have beside : ∀ offset ≤ 264,
      place + offset + 8 ≤ store.1 ∨ store.1 + 8 ≤ place + offset := by omega
  obtain ⟨regs, sepc, sstatus, satp⟩ := context
  simp only [RiscvUserContext.storedOver, RiscvUserContext.mk.injEq]
  refine ⟨funext fun i => ?_, ?_, ?_, ?_⟩
  · exact Riscv64.storedOver_of_disjoint (beside (8 * i.val) (by omega))
  · exact Riscv64.storedOver_of_disjoint (beside 248 (by decide))
  · exact Riscv64.storedOver_of_disjoint (beside 256 (by decide))
  · exact Riscv64.storedOver_of_disjoint (beside 264 (by decide))

/-- A context that no store reaches stays as it is. -/
theorem foldl_storedOver (live : Reg → Word) (spills : List (Nat × Word)) (place : Nat)
    (context : RiscvUserContext) (misses : ¬ trapHits live spills place) :
    (stackStores live spills).foldl (fun context store => context.storedOver place store)
      context = context := by
  have beside : ∀ store ∈ stackStores live spills,
      place + 272 ≤ store.1 ∨ store.1 + 8 ≤ place := by
    intro store member
    by_contra overlaps
    exact misses ⟨store, member, by omega, by omega⟩
  generalize stackStores live spills = stores at beside
  induction stores with
  | nil => rfl
  | cons store rest ih =>
      rw [List.foldl_cons,
        RiscvUserContext.storedOver_of_disjoint (beside store List.mem_cons_self)]
      exact ih fun other member => beside other (List.mem_cons_of_mem _ member)

theorem mem_zeroedRegs_iff : ∀ i : Fin 31, i ∈ zeroedRegs ↔ ¬ (i = 1 ∨ i ∈ ipcRegs) := by
  decide

/-- The routines of `hal-riscv64`. -/
def code : ContextCode where
  Reg := Reg
  decEq := inferInstance
  Context := RiscvUserContext
  kept := kept
  view := restoreUserAndSret
  pastCall live := fun
    | .sepc => live .sepc + 4
    | register => live register
  saveFull live := saveTrapFrameAsUserContext (trapEntry live) (live .sepc)
    (live .sstatus) (live .satp)
  saveFast live := saveIpcFastContext (trapEntry live) (live .sepc) (live .sstatus)
    (live .satp)
  restoreFull := restoreUserAndSret
  restoreFast := restoreIpcFastContext
  poke := pokeSavedA0A1
  trapHits := trapHits
  trapped live spills place context :=
    (stackStores live spills).foldl (fun context store => context.storedOver place store) context
  trapped_of_not_hits := foldl_storedOver
  result0 := .x 9
  result1 := .x 10
  results a0 a1 := fun
    | .x i => if i = 9 then some a0 else if i = 10 then some a1 else none
    | _ => none
  view_saveFull := by
    intro live context
    funext register
    cases register with
    | x i =>
        change (if i = 1 then (trapEntry live).address + trapFrameBytes
          else (trapEntry live).regs i) = live (.x i)
        by_cases pointer : i = 1
        · rw [if_pos pointer, trapEntry_address, pointer]
        · rw [if_neg pointer, trapEntry_regs live pointer]
    | _ => rfl
  view_saveFast := by
    intro live context
    funext register
    cases register with
    | x i =>
        change (if i = 1 then (trapEntry live).address + trapFrameBytes
          else if i ∈ ipcRegs then (trapEntry live).regs i else context.regs i) =
          if kept (.x i) then live (.x i) else context.regs i
        by_cases pointer : i = 1
        · rw [if_pos pointer, trapEntry_address, pointer]
          rfl
        · rw [if_neg pointer, trapEntry_regs live pointer]
          simp [kept, pointer]
    | _ => rfl
  restoreFull_eq := fun context => rfl
  restoreFast_eq := by
    intro context
    funext register
    cases register with
    | x i =>
        change (if i ∈ zeroedRegs then 0 else context.regs i) =
          if kept (.x i) then context.regs i else 0
        by_cases zeroed : i ∈ zeroedRegs
        · have dropped := (mem_zeroedRegs_iff i).1 zeroed
          simp [kept, zeroed, dropped]
        · have keeps : i = 1 ∨ i ∈ ipcRegs := by
            by_contra dropped
            exact zeroed ((mem_zeroedRegs_iff i).2 dropped)
          simp [kept, zeroed, keeps]
    | _ => rfl
  view_poke := by
    intro a0 a1 context
    funext register
    cases register with
    | x i =>
        change (if i = 9 then a0 else if i = 10 then a1 else context.regs i) =
          Option.getD (if i = 9 then some a0 else if i = 10 then some a1 else none)
            (context.regs i)
        split_ifs <;> rfl
    | _ => rfl
  results_eq := by
    intro a0 a1 register
    cases register with
    | x i => simp
    | _ => simp
  kept_results := ⟨rfl, rfl⟩

end Riscv64

/-! ## x86-64 -/

namespace X8664

/-- The general registers, what `iretq` consumes, and `cr3`. -/
inductive Reg where
  | rax | rbx | rcx | rdx | rsi | rdi | rbp
  | r8 | r9 | r10 | r11 | r12 | r13 | r14 | r15
  | rip | cs | rflags | rsp | ss | cr3
  deriving DecidableEq, Repr

/-- The pushed registers, with what the processor pushed.  `cr3` is not among them. -/
abbrev SyscallFrame := Reg → Word

structure X8664UserContext where
  fields : Reg → Word

def saveSyscallFrameAsUserContext (frame : SyscallFrame) (resumeRip cr3 : Word)
    (_ : X8664UserContext) : X8664UserContext where
  fields
    | .rip => resumeRip
    | .cr3 => cr3
    | register => frame register

def restoreUserAndIretq (blob : X8664UserContext) : Reg → Word := blob.fields

def saveIpcFastContext (frame : SyscallFrame) (resumeRip cr3 : Word)
    (dst : X8664UserContext) : X8664UserContext where
  fields
    | .rax => frame .rax
    | .rbx => frame .rbx
    | .rbp => frame .rbp
    | .r12 => frame .r12
    | .r13 => frame .r13
    | .r14 => frame .r14
    | .r15 => frame .r15
    | .rdi => frame .rdi
    | .rsi => frame .rsi
    | .rip => resumeRip
    | .cs => frame .cs
    | .rflags => frame .rflags
    | .rsp => frame .rsp
    | .ss => frame .ss
    | .cr3 => cr3
    | register => dst.fields register

def restoreIpcFastContext (blob : X8664UserContext) : Reg → Word
  | .rcx => 0
  | .rdx => 0
  | .r8 => 0
  | .r9 => 0
  | .r10 => 0
  | .r11 => 0
  | register => blob.fields register

/-- The results of a system call are in `rax` and `rsi`. -/
def pokeSavedA0A1 (a0 a1 : Word) (ctx : X8664UserContext) : X8664UserContext where
  fields
    | .rax => a0
    | .rsi => a1
    | register => ctx.fields register

/-- All but the scratch registers of a function call, of which `rax`, `rsi` and `rdi`
carry the message. -/
def kept : Reg → Bool
  | .rcx => false
  | .rdx => false
  | .r8 => false
  | .r9 => false
  | .r10 => false
  | .r11 => false
  | _ => true

/-- The routines of `hal-x86_64`.  The saved `rip` is already behind `int 0x80`. -/
def code : ContextCode where
  Reg := Reg
  decEq := inferInstance
  Context := X8664UserContext
  kept := kept
  view := X8664UserContext.fields
  pastCall := id
  saveFull live := saveSyscallFrameAsUserContext live (live .rip) (live .cr3)
  saveFast live := saveIpcFastContext live (live .rip) (live .cr3)
  restoreFull := restoreUserAndIretq
  restoreFast := restoreIpcFastContext
  poke := pokeSavedA0A1
  -- The vector enters on a stack of the kernel.
  trapHits _ _ _ := False
  trapped _ _ _ context := context
  trapped_of_not_hits := fun _ _ _ _ _ => rfl
  result0 := .rax
  result1 := .rsi
  results a0 a1 := fun
    | .rax => some a0
    | .rsi => some a1
    | _ => none
  view_saveFull := by
    intro live context
    funext register
    cases register <;> rfl
  view_saveFast := by
    intro live context
    funext register
    cases register <;> rfl
  restoreFull_eq := fun context => rfl
  restoreFast_eq := by
    intro context
    funext register
    cases register <;> rfl
  view_poke := by
    intro a0 a1 context
    funext register
    cases register <;> rfl
  results_eq := by
    intro a0 a1 register
    cases register <;> rfl
  kept_results := ⟨rfl, rfl⟩

end X8664

/-! ## AArch64 -/

namespace Arm64

/-- The registers `x0` to `x30`, and what `eret` consumes. -/
inductive Reg where
  | x (i : Fin 31)
  | spEl0
  | elrEl1
  | spsrEl1
  | ttbr0El1
  deriving DecidableEq, Repr

structure SyncFrame where
  regs : Fin 31 → Word

structure Aarch64UserContext where
  regs : Fin 31 → Word
  spEl0 : Word
  elrEl1 : Word
  spsrEl1 : Word
  ttbr0El1 : Word

/-- The stack pointer of the thread is banked, so it is not in the frame. -/
def syncEntry (live : Reg → Word) : SyncFrame where
  regs := fun i => live (.x i)

def saveFrameAsUserContext (frame : SyncFrame) (resumeElr spEl0 spsr ttbr0 : Word)
    (_ : Aarch64UserContext) : Aarch64UserContext where
  regs := frame.regs
  spEl0 := spEl0
  elrEl1 := resumeElr
  spsrEl1 := spsr
  ttbr0El1 := ttbr0

def restoreUserAndEret (blob : Aarch64UserContext) : Reg → Word
  | .x i => blob.regs i
  | .spEl0 => blob.spEl0
  | .elrEl1 => blob.elrEl1
  | .spsrEl1 => blob.spsrEl1
  | .ttbr0El1 => blob.ttbr0El1

/-- `x0`, `x1`, and `x19` to `x30`. -/
def ipcReg (i : Fin 31) : Bool :=
  i.val = 0 ∨ i.val = 1 ∨ 19 ≤ i.val ∧ i.val < 29 ∨ i.val = 29 ∨ i.val = 30

def saveIpcFastContext (frame : SyncFrame) (resumeElr spEl0 spsr ttbr0 : Word)
    (dst : Aarch64UserContext) : Aarch64UserContext where
  regs := fun i => if ipcReg i then frame.regs i else dst.regs i
  spEl0 := spEl0
  elrEl1 := resumeElr
  spsrEl1 := spsr
  ttbr0El1 := ttbr0

/-- `x2` to `x18`. -/
def zeroedReg (i : Fin 31) : Bool := 2 ≤ i.val ∧ i.val ≤ 18

def restoreIpcFastContext (blob : Aarch64UserContext) : Reg → Word
  | .x i => if zeroedReg i then 0 else blob.regs i
  | .spEl0 => blob.spEl0
  | .elrEl1 => blob.elrEl1
  | .spsrEl1 => blob.spsrEl1
  | .ttbr0El1 => blob.ttbr0El1

def pokeSavedA0A1 (a0 a1 : Word) (ctx : Aarch64UserContext) : Aarch64UserContext :=
  { ctx with regs := fun i => if i = 0 then a0 else if i = 1 then a1 else ctx.regs i }

/-- What a function call keeps, the two message registers, and what `eret` consumes. -/
def kept : Reg → Bool
  | .x i => ipcReg i
  | _ => true

theorem zeroedReg_eq_not : ∀ i : Fin 31, zeroedReg i = !ipcReg i := by decide

/-- The routines of `hal-arm64`.  The saved `elr_el1` is already behind `svc`. -/
def code : ContextCode where
  Reg := Reg
  decEq := inferInstance
  Context := Aarch64UserContext
  kept := kept
  view := restoreUserAndEret
  pastCall := id
  saveFull live := saveFrameAsUserContext (syncEntry live) (live .elrEl1) (live .spEl0)
    (live .spsrEl1) (live .ttbr0El1)
  saveFast live := saveIpcFastContext (syncEntry live) (live .elrEl1) (live .spEl0)
    (live .spsrEl1) (live .ttbr0El1)
  restoreFull := restoreUserAndEret
  restoreFast := restoreIpcFastContext
  poke := pokeSavedA0A1
  -- The vector enters on a stack of the kernel.
  trapHits _ _ _ := False
  trapped _ _ _ context := context
  trapped_of_not_hits := fun _ _ _ _ _ => rfl
  result0 := .x 0
  result1 := .x 1
  results a0 a1 := fun
    | .x i => if i = 0 then some a0 else if i = 1 then some a1 else none
    | _ => none
  view_saveFull := by
    intro live context
    funext register
    cases register <;> rfl
  view_saveFast := by
    intro live context
    funext register
    cases register <;> rfl
  restoreFull_eq := fun context => rfl
  restoreFast_eq := by
    intro context
    funext register
    cases register with
    | x i =>
        change (if zeroedReg i then 0 else context.regs i) =
          if ipcReg i then context.regs i else 0
        rw [zeroedReg_eq_not]
        cases ipcReg i <;> rfl
    | _ => rfl
  view_poke := by
    intro a0 a1 context
    funext register
    cases register with
    | x i =>
        change (if i = 0 then a0 else if i = 1 then a1 else context.regs i) =
          Option.getD (if i = 0 then some a0 else if i = 1 then some a1 else none)
            (context.regs i)
        split_ifs <;> rfl
    | _ => rfl
  results_eq := by
    intro a0 a1 register
    cases register with
    | x i => simp
    | _ => simp
  kept_results := ⟨rfl, rfl⟩

end Arm64

/-! ## The architectures -/

inductive Architecture where
  | riscv64
  | x86_64
  | arm64
  deriving DecidableEq, Repr

def Architecture.contextCode : Architecture → ContextCode
  | riscv64 => Riscv64.code
  | x86_64 => X8664.code
  | arm64 => Arm64.code

end Simurgh
