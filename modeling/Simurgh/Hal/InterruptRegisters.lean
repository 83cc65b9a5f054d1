import Mathlib.Data.Nat.Bitwise
import Simurgh.Hal.Interrupts

/-!
# The registers of three interrupt controllers

The PLIC has a word for the priority of a line and a bit for its enabling, the GIC has write-only
registers that set and clear bits, and a byte for each priority, and the APIC has only a command
register for signals between cores.
-/

namespace Simurgh

/-- `1 << amount` in 64 bits, which panics with overflow checks if the amount is too large. -/
def shiftOne (checks : Bool) (amount : Nat) : Option Nat :=
  if amount < 64 then some (1 <<< amount)
  else if checks then none
  else some (1 <<< (amount % 64))

theorem shiftOne_of_lt {checks : Bool} {amount : Nat} (small : amount < 64) :
    shiftOne checks amount = some (1 <<< amount) := if_pos small

/-! ## PLIC -/

namespace Riscv64

/-- Registers count from the base of the PLIC.  Masks of harts go to the firmware. -/
structure Plic where
  words : Nat → BitVec 32
  hartMasks : List Nat

namespace Plic

def priorityBase : Nat := 0x0000
def enableBase : Nat := 0x2000
def enableContextStride : Nat := 0x80
def plicContext : Nat := 1

def write32 (plic : Plic) (offset : Nat) (value : BitVec 32) : Plic :=
  { plic with words := Function.update plic.words offset value }

def setPriority (source : Nat) (priority : BitVec 32) (plic : Plic) : Plic :=
  plic.write32 (priorityBase + source * 4) priority

def setEnabled (source : Nat) (enabled : Bool) (plic : Plic) : Plic :=
  let wordIndex := source / 32
  let bit := source % 32
  let offset := enableBase + plicContext * enableContextStride + wordIndex * 4
  let current := plic.words offset
  let updated := if enabled then current ||| (1#32 <<< bit) else current &&& ~~~(1#32 <<< bit)
  plic.write32 offset updated

def sbiSendIpi (hartMask : Nat) (plic : Plic) : Plic :=
  { plic with hartMasks := plic.hartMasks ++ [hartMask] }

/-- A line is routed to the contexts that enable it. -/
def lineOf (plic : Plic) (source : Nat) : LineState where
  enabled :=
    (plic.words (enableBase + plicContext * enableContextStride + source / 32 * 4)).getLsbD
      (source % 32)
  priority := (plic.words (priorityBase + source * 4)).toNat
  routing := fun context => context ≠ plicContext &&
    (plic.words (enableBase + context * enableContextStride + source / 32 * 4)).getLsbD
      (source % 32)

end Plic

/-- `InterruptCtrl` of this architecture. -/
def interruptCtrl (checks : Bool) : IrqDesign Plic where
  lines := { first := 1, limit := 512, size := 512, fits := by decide }
  configure := fun source plic => (plic.setPriority source 1).setEnabled source true
  unmask := fun source => Plic.setEnabled source true
  mask := fun source => Plic.setEnabled source false
  signal := fun core _ plic =>
    match shiftOne checks core with
    | none => none
    | some hartMask => some (plic.sbiSendIpi hartMask)

end Riscv64

/-! ## GIC -/

namespace Arm64

/-- The distributor, and what was written to `ICC_SGI1R_EL1`. -/
structure Gicd where
  enabled : Nat → Bool
  priority : Nat → BitVec 8
  router : Nat → BitVec 64
  sgis : List Nat

namespace Gicd

def isenabler : Nat := 0x0100
def icenabler : Nat := 0x0180
def ipriorityr : Nat := 0x0400
def irouter : Nat := 0x6100

/-- The distributor on a write to the registers of 32 enable bits or of four priorities. -/
def write32 (gicd : Gicd) (offset : Nat) (value : BitVec 32) : Gicd :=
  if 0x100 ≤ offset ∧ offset < 0x180 then
    { gicd with enabled := fun intid =>
        gicd.enabled intid || intid / 32 = (offset - 0x100) / 4 && value.getLsbD (intid % 32) }
  else if 0x180 ≤ offset ∧ offset < 0x200 then
    { gicd with enabled := fun intid =>
        gicd.enabled intid && !(intid / 32 = (offset - 0x180) / 4 && value.getLsbD (intid % 32)) }
  else if 0x400 ≤ offset ∧ offset < 0x800 then
    { gicd with priority := fun intid =>
        if intid / 4 = (offset - 0x400) / 4 then value.extractLsb' (8 * (intid % 4)) 8
        else gicd.priority intid }
  else gicd

/-- The distributor on a write to the register that routes one line. -/
def write64 (gicd : Gicd) (offset : Nat) (value : BitVec 64) : Gicd :=
  if 0x6000 ≤ offset ∧ offset < 0x8000 then
    { gicd with router := Function.update gicd.router ((offset - 0x6000) / 8) value }
  else gicd

def configureSpi (intid : Nat) (gicd : Gicd) : Gicd :=
  let regIndex := intid / 32
  let bit := intid % 32
  let byteOffset := ipriorityr + intid
  let gicd := gicd.write32 (byteOffset / 4 * 4) 0x80808080
  let gicd := gicd.write64 (irouter + (intid - 32) * 8) 0
  gicd.write32 (isenabler + regIndex * 4) (1#32 <<< bit)

def clearEnable (intid : Nat) (gicd : Gicd) : Gicd :=
  gicd.write32 (icenabler + intid / 32 * 4) (1#32 <<< (intid % 32))

def setEnable (intid : Nat) (gicd : Gicd) : Gicd :=
  gicd.write32 (isenabler + intid / 32 * 4) (1#32 <<< (intid % 32))

def writeSgi1r (value : Nat) (gicd : Gicd) : Gicd := { gicd with sgis := gicd.sgis ++ [value] }

def lineOf (gicd : Gicd) (intid : Nat) : LineState where
  enabled := gicd.enabled intid
  priority := (gicd.priority intid).toNat
  routing := fun bit => (gicd.router intid).getLsbD bit

/-- The fields of a value select a core by its affinity, which is `0.0.0.core`. -/
def targets (value core : Nat) : Prop :=
  value.testBit 40 = false ∧ value / 2 ^ 16 % 2 ^ 8 = 0 ∧ value / 2 ^ 32 % 2 ^ 8 = 0 ∧
    value / 2 ^ 48 % 2 ^ 8 = 0 ∧ value / 2 ^ 44 % 2 ^ 4 = core / 16 ∧
      value.testBit (core % 16) = true

instance (value core : Nat) : Decidable (targets value core) :=
  inferInstanceAs (Decidable (_ ∧ _ ∧ _ ∧ _ ∧ _ ∧ _))

end Gicd

/-- `InterruptCtrl` of this architecture. -/
def interruptCtrl (checks : Bool) : IrqDesign Gicd where
  lines := { first := 32, limit := 32 + 480, size := 480, fits := by decide }
  configure := Gicd.configureSpi
  unmask := Gicd.setEnable
  mask := Gicd.clearEnable
  signal := fun core vector gicd =>
    let sgiId := (vector &&& 0x0f).toNat
    match shiftOne checks core with
    | none => none
    | some targetList => some (gicd.writeSgi1r (sgiId <<< 24 ||| targetList))

end Arm64

/-! ## APIC -/

namespace X8664

inductive ApicMode where
  | xapic
  | x2apic
  deriving DecidableEq, Repr

/-- The command registers, and the commands that were sent with their destinations. -/
structure Apic where
  icrHigh : BitVec 32
  sent : List (Nat × BitVec 32)

namespace Apic

/-- On a write to the low half the command is sent. -/
def writeIcrLow (lowBits : BitVec 32) (apic : Apic) : Apic :=
  { apic with sent := apic.sent ++ [((apic.icrHigh >>> 24).toNat, lowBits)] }

def writeIcr (mode : ApicMode) (destinationApicId lowBits : BitVec 32) (apic : Apic) : Apic :=
  match mode with
  | .xapic => { apic with icrHigh := destinationApicId <<< 24 }.writeIcrLow lowBits
  | .x2apic =>
      let value := (destinationApicId.setWidth 64 <<< 32) ||| lowBits.setWidth 64
      { apic with sent := apic.sent ++ [((value >>> 32).toNat, value.setWidth 32)] }

/-- The last destination stands for all cores. -/
def targets (mode : ApicMode) (command : Nat × BitVec 32) (core : Nat) : Prop :=
  command.2.getLsbD 18 = false ∧ command.2.getLsbD 19 = false ∧
    match mode with
    | .xapic => command.1 = 2 ^ 8 - 1 ∨ core = command.1
    | .x2apic => command.1 = 2 ^ 32 - 1 ∨ core = command.1

end Apic

/-- `InterruptCtrl` of this architecture.  No register belongs to a line. -/
def interruptCtrl (mode : ApicMode) : IrqDesign Apic where
  lines := { first := 33, limit := 256, size := 256 - 33, fits := by decide }
  configure := fun _ apic => apic
  unmask := fun _ apic => apic
  mask := fun _ apic => apic
  signal := fun core vector apic =>
    let icrLow := vector.setWidth 32 ||| (1#32 <<< 14)
    some (apic.writeIcr mode (BitVec.ofNat 32 core) icrLow)

end X8664

/-! ## One bit of a word -/

theorem getLsbD_setBit (word : BitVec 32) {bit other : Nat} (small : bit < 32) :
    (word ||| (1#32 <<< bit)).getLsbD other = (word.getLsbD other || decide (other = bit)) := by
  rw [BitVec.getLsbD_or, ← BitVec.twoPow_eq, BitVec.getLsbD_twoPow]
  simp [small, eq_comm]

theorem getLsbD_clearBit (word : BitVec 32) {bit other : Nat} (small : bit < 32) :
    (word &&& ~~~(1#32 <<< bit)).getLsbD other = (word.getLsbD other && decide (other ≠ bit)) := by
  rw [BitVec.getLsbD_and, BitVec.getLsbD_not, ← BitVec.twoPow_eq, BitVec.getLsbD_twoPow]
  by_cases inside : other < 32
  · simp [small, inside, eq_comm]
  · have out := BitVec.getLsbD_of_ge word other (Nat.le_of_not_lt inside)
    rw [out, Bool.false_and, Bool.false_and]

theorem getLsbD_oneBit {bit other : Nat} (small : bit < 32) :
    (1#32 <<< bit).getLsbD other = decide (other = bit) := by
  rw [← BitVec.twoPow_eq, BitVec.getLsbD_twoPow]
  simp [small, eq_comm]

theorem LineState.same {first second : LineState} (enabled : first.enabled = second.enabled)
    (priority : first.priority = second.priority)
    (routing : ∀ place, first.routing place = second.routing place) : first = second := by
  cases first
  cases second
  cases enabled
  cases priority
  congr 1
  exact funext routing

/-! ## Lines of the PLIC -/

namespace Riscv64.Plic

variable {plic : Plic} {source other : Nat}

theorem words_write32 (plic : Plic) (offset : Nat) (value : BitVec 32) (address : Nat) :
    (plic.write32 offset value).words address =
      if address = offset then value else plic.words address :=
  Function.update_apply plic.words offset value address

/-- The words of priorities and of enable bits do not meet, and contexts have words of their own. -/
theorem offsets_apart (small : source < 1024) :
    priorityBase + source * 4 < enableBase ∧
      ∀ context, context ≠ plicContext → ∀ word, word < 32 →
        enableBase + context * enableContextStride + source / 32 * 4 ≠
          enableBase + plicContext * enableContextStride + word * 4 := by
  simp only [priorityBase, enableBase, enableContextStride, plicContext]
  refine ⟨by omega, fun context ne word inside => ?_⟩
  have more : source / 32 < 32 := by omega
  omega

theorem lineOf_setPriority (small : source < 1024) (priority : BitVec 32) :
    (plic.setPriority source priority).lineOf other =
      if other = source then { plic.lineOf other with priority := priority.toNat }
      else plic.lineOf other := by
  have low := (offsets_apart small).1
  have apart : ∀ context word, enableBase + context * enableContextStride + word * 4 ≠
      priorityBase + source * 4 := by
    intro context word
    have above := Nat.le_add_right enableBase (context * enableContextStride + word * 4)
    omega
  have place : priorityBase + other * 4 = priorityBase + source * 4 ↔ other = source := by omega
  simp only [setPriority, lineOf, words_write32, if_neg (apart _ _), place]
  by_cases same : other = source
  · simp only [if_pos same]
  · simp only [if_neg same]

theorem lineOf_setEnabled (small : source < 1024) (inside : other < 1024) (enabled : Bool) :
    (plic.setEnabled source enabled).lineOf other =
      if other = source then { plic.lineOf other with enabled := enabled }
      else plic.lineOf other := by
  have bit : source % 32 < 32 := Nat.mod_lt _ (by decide)
  have word : source / 32 < 32 := by omega
  obtain ⟨low, apart⟩ := offsets_apart inside
  have priority : priorityBase + other * 4 ≠
      enableBase + plicContext * enableContextStride + source / 32 * 4 := by omega
  have place : enableBase + plicContext * enableContextStride + other / 32 * 4 =
      enableBase + plicContext * enableContextStride + source / 32 * 4 ↔
        other / 32 = source / 32 := by omega
  have routing : ∀ context, ((plic.setEnabled source enabled).lineOf other).routing context =
      (plic.lineOf other).routing context := by
    intro context
    by_cases used : context = plicContext
    · simp only [lineOf, used, ne_eq, not_true, decide_false, Bool.false_and]
    · simp only [lineOf, setEnabled, words_write32, if_neg (apart context used _ word)]
  have kept : ((plic.setEnabled source enabled).lineOf other).priority =
      (plic.lineOf other).priority := by
    simp only [lineOf, setEnabled, words_write32, if_neg priority]
  have bits : ((plic.setEnabled source enabled).lineOf other).enabled =
      if other = source then enabled else (plic.lineOf other).enabled := by
    simp only [lineOf, setEnabled, words_write32, place]
    by_cases sameWord : other / 32 = source / 32
    · have sameBit : other % 32 = source % 32 ↔ other = source := by omega
      rw [if_pos sameWord, sameWord]
      cases enabled with
      | true =>
          rw [if_pos rfl, getLsbD_setBit _ bit]
          by_cases same : other = source
          · rw [if_pos same, decide_eq_true (sameBit.2 same), Bool.or_true]
          · rw [if_neg same, decide_eq_false (fun equal => same (sameBit.1 equal)), Bool.or_false]
      | false =>
          rw [if_neg Bool.false_ne_true, getLsbD_clearBit _ bit]
          by_cases same : other = source
          · rw [if_pos same, decide_eq_false (fun differs => differs (sameBit.2 same)),
              Bool.and_false]
          · have differs : other % 32 ≠ source % 32 := fun equal => same (sameBit.1 equal)
            rw [if_neg same, decide_eq_true differs, Bool.and_true]
    · have ne : other ≠ source := fun same => sameWord (by rw [same])
      rw [if_neg sameWord, if_neg ne]
  by_cases same : other = source
  · rw [if_pos same]
    rw [if_pos same] at bits
    exact LineState.same bits kept routing
  · rw [if_neg same]
    rw [if_neg same] at bits
    exact LineState.same bits kept routing

theorem lt_hardwareLines {checks : Bool} (high : source < (interruptCtrl checks).lines.limit) :
    source < 1024 := by
  have tracked : source < 512 := high
  omega

theorem lineLaws (checks : Bool) :
    IrqDesign.LineLaws (interruptCtrl checks) lineOf 1024 (fun _ _ _ _ => False) 1 where
  range := Nat.le_of_ble_eq_true rfl
  configured := by
    intro source plic _ high
    have small := lt_hardwareLines high
    have enabled := @lineOf_setEnabled (plic.setPriority source 1) source source small small true
    have priority := @lineOf_setPriority plic source source small 1
    rw [if_pos rfl] at enabled priority
    exact ⟨congrArg LineState.enabled enabled,
      (congrArg LineState.priority enabled).trans (congrArg LineState.priority priority)⟩
  unmasked := by
    intro source plic _ high
    have small := lt_hardwareLines high
    exact (lineOf_setEnabled small small true).trans (if_pos rfl)
  masked := by
    intro source plic _ high
    have small := lt_hardwareLines high
    exact (lineOf_setEnabled small small false).trans (if_pos rfl)
  configuredOther := by
    intro source plic other _ high inside ne
    have small := lt_hardwareLines high
    have enabled := @lineOf_setEnabled (plic.setPriority source 1) source other small inside true
    have priority := @lineOf_setPriority plic source other small 1
    rw [if_neg ne] at enabled priority
    exact Or.inl (enabled.trans priority)
  unmaskedOther := by
    intro source plic other _ high inside ne
    have small := lt_hardwareLines high
    exact (lineOf_setEnabled small inside true).trans (if_neg ne)
  maskedOther := by
    intro source plic other _ high inside ne
    have small := lt_hardwareLines high
    exact (lineOf_setEnabled small inside false).trans (if_neg ne)
  signalled := by
    intro core vector plic later signalled
    change (match shiftOne checks core with | none => none | some mask => _) = _ at signalled
    cases shifted : shiftOne checks core with
    | none =>
        rw [shifted] at signalled
        cases signalled
    | some mask =>
        rw [shifted] at signalled
        cases signalled
        rfl
  sharing := fun _ _ _ _ none => none.elim

end Riscv64.Plic

/-! ## Lines of the GIC -/

namespace Arm64.Gicd

variable {gicd : Gicd} {intid other : Nat}

/-- A write to the priorities of four lines. -/
theorem lineOf_writePriority (small : intid < 1020) (other : Nat) :
    (gicd.write32 ((ipriorityr + intid) / 4 * 4) 0x80808080).lineOf other =
      if other / 4 = intid / 4 then { gicd.lineOf other with priority := 0x80 }
      else gicd.lineOf other := by
  have bytes : ∀ byte, byte < 4 →
      ((0x80808080 : BitVec 32).extractLsb' (8 * byte) 8).toNat = 0x80 := by decide
  obtain ⟨offset, placed⟩ : ∃ offset, (ipriorityr + intid) / 4 * 4 = offset := ⟨_, rfl⟩
  rw [placed]
  unfold ipriorityr at placed
  have word : (offset - 0x400) / 4 = intid / 4 := by omega
  rw [write32, if_neg (by omega), if_neg (by omega), if_pos (by omega), word]
  by_cases same : other / 4 = intid / 4
  · rw [if_pos same]
    apply LineState.same
    · rfl
    · change (if other / 4 = intid / 4 then _ else gicd.priority other : BitVec 8).toNat = 0x80
      rw [if_pos same]
      exact bytes _ (Nat.mod_lt other (by decide))
    · exact fun _ => rfl
  · rw [if_neg same]
    apply LineState.same
    · rfl
    · change (if other / 4 = intid / 4 then _ else gicd.priority other : BitVec 8).toNat = _
      rw [if_neg same]
      rfl
    · exact fun _ => rfl

/-- A write to the register that routes a line. -/
theorem lineOf_writeRoute (low : 32 ≤ intid) (small : intid < 1020) (other : Nat) :
    (gicd.write64 (irouter + (intid - 32) * 8) 0).lineOf other =
      if other = intid then { gicd.lineOf other with routing := fun _ => false }
      else gicd.lineOf other := by
  obtain ⟨offset, placed⟩ : ∃ offset, irouter + (intid - 32) * 8 = offset := ⟨_, rfl⟩
  rw [placed]
  unfold irouter at placed
  have place : (offset - 0x6000) / 8 = intid := by omega
  rw [write64, if_pos (by omega), place]
  by_cases same : other = intid
  · rw [if_pos same, same]
    apply LineState.same
    · rfl
    · rfl
    · intro bit
      change (Function.update gicd.router intid 0 intid).getLsbD bit = false
      rw [Function.update_self]
      exact BitVec.getLsbD_zero
  · rw [if_neg same]
    apply LineState.same
    · rfl
    · rfl
    · intro bit
      change (Function.update gicd.router intid 0 other).getLsbD bit = _
      rw [Function.update_of_ne same]
      rfl

/-- Only one bit of the word is set. -/
theorem selects_iff (intid other : Nat) :
    (decide (other / 32 = intid / 32) && (1#32 <<< (intid % 32)).getLsbD (other % 32)) =
      decide (other = intid) := by
  rw [getLsbD_oneBit (Nat.mod_lt intid (by decide)), ← Bool.decide_and]
  exact decide_eq_decide.2 (by omega)

theorem lineOf_setEnable (small : intid < 1020) (other : Nat) :
    (gicd.setEnable intid).lineOf other =
      if other = intid then { gicd.lineOf other with enabled := true }
      else gicd.lineOf other := by
  obtain ⟨offset, placed⟩ : ∃ offset, isenabler + intid / 32 * 4 = offset := ⟨_, rfl⟩
  rw [setEnable, placed]
  unfold isenabler at placed
  have word : (offset - 0x100) / 4 = intid / 32 := by omega
  rw [write32, if_pos (by omega), word]
  have enabled : (gicd.enabled other ||
      decide (other / 32 = intid / 32) && (1#32 <<< (intid % 32)).getLsbD (other % 32)) =
        (gicd.enabled other || decide (other = intid)) := by rw [selects_iff]
  by_cases same : other = intid
  · rw [if_pos same]
    apply LineState.same
    · rw [decide_eq_true same, Bool.or_true] at enabled
      exact enabled
    · rfl
    · exact fun _ => rfl
  · rw [if_neg same]
    apply LineState.same
    · rw [decide_eq_false same, Bool.or_false] at enabled
      exact enabled
    · rfl
    · exact fun _ => rfl

theorem lineOf_clearEnable (small : intid < 1020) (other : Nat) :
    (gicd.clearEnable intid).lineOf other =
      if other = intid then { gicd.lineOf other with enabled := false }
      else gicd.lineOf other := by
  obtain ⟨offset, placed⟩ : ∃ offset, icenabler + intid / 32 * 4 = offset := ⟨_, rfl⟩
  rw [clearEnable, placed]
  unfold icenabler at placed
  have word : (offset - 0x180) / 4 = intid / 32 := by omega
  rw [write32, if_neg (by omega), if_pos (by omega), word]
  have enabled : (gicd.enabled other &&
      !(decide (other / 32 = intid / 32) && (1#32 <<< (intid % 32)).getLsbD (other % 32))) =
        (gicd.enabled other && !decide (other = intid)) := by rw [selects_iff]
  by_cases same : other = intid
  · rw [if_pos same]
    apply LineState.same
    · rw [decide_eq_true same, Bool.not_true, Bool.and_false] at enabled
      exact enabled
    · rfl
    · exact fun _ => rfl
  · rw [if_neg same]
    apply LineState.same
    · rw [decide_eq_false same, Bool.not_false, Bool.and_true] at enabled
      exact enabled
    · rfl
    · exact fun _ => rfl

/-- A registration gives four lines their common priority. -/
def SharesPriority (intid other : Nat) (before after : LineState) : Prop :=
  other / 4 = intid / 4 ∧ after = { before with priority := 0x80 }

theorem lineOf_configureSpi (low : 32 ≤ intid) (small : intid < 1020) (other : Nat) :
    (gicd.configureSpi intid).lineOf other =
      if other = intid then { enabled := true, priority := 0x80, routing := fun _ => false }
      else if other / 4 = intid / 4 then { gicd.lineOf other with priority := 0x80 }
      else gicd.lineOf other := by
  change (setEnable intid (write64 (write32 gicd _ _) _ _)).lineOf other = _
  rw [lineOf_setEnable small, lineOf_writeRoute low small, lineOf_writePriority small]
  by_cases same : other = intid
  · rw [if_pos same, if_pos same, if_pos same, if_pos (by rw [same])]
  · rw [if_neg same, if_neg same, if_neg same]

theorem lt_hardwareLines {checks : Bool} (high : intid < (interruptCtrl checks).lines.limit) :
    intid < 1020 := by
  have tracked : intid < 32 + 480 := high
  omega

theorem lineLaws (checks : Bool) :
    IrqDesign.LineLaws (interruptCtrl checks) lineOf 1020 SharesPriority 0x80 where
  range := Nat.le_of_ble_eq_true rfl
  configured := by
    intro intid gicd low high
    have line := (@lineOf_configureSpi gicd intid low (lt_hardwareLines high) intid).trans
      (if_pos rfl)
    exact ⟨congrArg LineState.enabled line, congrArg LineState.priority line⟩
  unmasked := fun intid _ _ high =>
    (lineOf_setEnable (lt_hardwareLines high) intid).trans (if_pos rfl)
  masked := fun intid _ _ high =>
    (lineOf_clearEnable (lt_hardwareLines high) intid).trans (if_pos rfl)
  configuredOther := by
    intro intid gicd other low high _ ne
    have line := (@lineOf_configureSpi gicd intid low (lt_hardwareLines high) other).trans
      (if_neg ne)
    by_cases together : other / 4 = intid / 4
    · exact Or.inr ⟨together, line.trans (if_pos together)⟩
    · exact Or.inl (line.trans (if_neg together))
  unmaskedOther := fun _ _ other _ high _ ne =>
    (lineOf_setEnable (lt_hardwareLines high) other).trans (if_neg ne)
  maskedOther := fun _ _ other _ high _ ne =>
    (lineOf_clearEnable (lt_hardwareLines high) other).trans (if_neg ne)
  signalled := by
    intro core vector gicd later signalled
    change (match shiftOne checks core with | none => none | some list => _) = _ at signalled
    cases shifted : shiftOne checks core with
    | none =>
        rw [shifted] at signalled
        cases signalled
    | some list =>
        rw [shifted] at signalled
        cases signalled
        rfl
  sharing := by
    rintro intid other before after ⟨_, rfl⟩
    exact ⟨rfl, Or.inr rfl⟩

end Arm64.Gicd

/-! ## Signals between cores -/

section Signals

variable {η : Type}

/-- A bit of the mask stands for a hart. -/
theorem Riscv64.Plic.signalsOnly (checks : Bool) :
    SignalsOnly η (interruptCtrl checks) hartMasks (fun mask hart => mask.testBit hart = true)
      (fun coreCount core => coreCount ≤ 64 ∧ core < 2 ^ 32) := by
  rintro core vector ctrl later _ _ ⟨few, narrow⟩ returns
  obtain ⟨below, plic, signalled, rfl⟩ := IrqDesign.sendIpi_eq_ok returns
  rw [Nat.mod_eq_of_lt narrow] at below
  have small : core < 64 := by omega
  change (match shiftOne checks core with | none => none | some mask => _) = _ at signalled
  rw [shiftOne_of_lt small] at signalled
  cases signalled
  refine ⟨below, 1 <<< core, rfl, fun other _ => ?_⟩
  change (1 <<< core).testBit other = true ↔ other = core
  rw [Nat.one_shiftLeft, Nat.testBit_two_pow, decide_eq_true_iff]
  exact eq_comm

/-- The fields of `ICC_SGI1R_EL1`: the list of targets is below the interrupt's number. -/
theorem Arm64.Gicd.targets_iff : ∀ sgi, sgi < 16 → ∀ core, core < 16 → ∀ other, other < 16 →
    (targets (sgi <<< 24 ||| 1 <<< core) other ↔ other = core) := by
  intro sgi few core low other lowOther
  have list : 1 <<< core < 2 ^ 16 := by
    rw [Nat.one_shiftLeft]
    exact Nat.pow_lt_pow_right (by decide) low
  have sum : sgi <<< 24 ||| 1 <<< core = sgi * 2 ^ 24 + 1 <<< core := by
    rw [← Nat.shiftLeft_add_eq_or_of_lt (list.trans (by decide)), Nat.shiftLeft_eq]
  have listed : (sgi <<< 24 ||| 1 <<< core).testBit other = decide (core = other) := by
    rw [Nat.testBit_or, Nat.testBit_shiftLeft, decide_eq_false (by omega), Bool.false_and,
      Bool.false_or, Nat.one_shiftLeft, Nat.testBit_two_pow]
  have all : (sgi <<< 24 ||| 1 <<< core).testBit 40 = false := by
    apply Nat.testBit_lt_two_pow
    rw [sum]
    omega
  rw [targets, Nat.mod_eq_of_lt lowOther, listed, all, decide_eq_true_iff, sum]
  clear sum listed all
  generalize 1 <<< core = targetList at list ⊢
  constructor
  · intro fields
    exact fields.2.2.2.2.2.symm
  · intro same
    exact ⟨rfl, by omega, by omega, by omega, by omega, same.symm⟩

theorem Arm64.Gicd.signalsOnly (checks : Bool) :
    SignalsOnly η (interruptCtrl checks) sgis targets
      (fun coreCount core => coreCount ≤ 16 ∧ core < 2 ^ 32) := by
  rintro core vector ctrl later _ _ ⟨few, narrow⟩ returns
  obtain ⟨below, gicd, signalled, rfl⟩ := IrqDesign.sendIpi_eq_ok returns
  rw [Nat.mod_eq_of_lt narrow] at below
  have small : core < 64 := by omega
  change (match shiftOne checks core with | none => none | some list => _) = _ at signalled
  rw [shiftOne_of_lt small] at signalled
  cases signalled
  have sgi : (vector &&& 0x0f).toNat < 16 := by
    rw [BitVec.toNat_and]
    exact Nat.lt_succ_of_le Nat.and_le_right
  exact ⟨below, _, rfl, fun other inside =>
    targets_iff _ sgi core (by omega) other (by omega)⟩

namespace X8664.Apic

/-- A command without a shorthand for its destination. -/
theorem command_shorthand (vector : BitVec 8) :
    (vector.setWidth 32 ||| (1#32 <<< 14)).getLsbD 18 = false ∧
      (vector.setWidth 32 ||| (1#32 <<< 14)).getLsbD 19 = false := by
  constructor
  · rw [getLsbD_setBit _ (by decide), BitVec.getLsbD_setWidth,
      BitVec.getLsbD_of_ge vector 18 (by decide)]
    rfl
  · rw [getLsbD_setBit _ (by decide), BitVec.getLsbD_setWidth,
      BitVec.getLsbD_of_ge vector 19 (by decide)]
    rfl

/-- The destination and the command that the APIC reads from its registers. -/
theorem sent_writeIcr {mode : ApicMode} {core : Nat} (narrow : core < 2 ^ 32)
    (low : mode = .xapic → core < 2 ^ 8) (lowBits : BitVec 32) (apic : Apic) :
    (apic.writeIcr mode (BitVec.ofNat 32 core) lowBits).sent = apic.sent ++ [(core, lowBits)] := by
  cases mode with
  | xapic =>
      have small := low rfl
      have destination : (BitVec.ofNat 32 core <<< 24 >>> 24).toNat = core := by
        rw [BitVec.toNat_ushiftRight, BitVec.toNat_shiftLeft, BitVec.toNat_ofNat,
          Nat.shiftLeft_eq, Nat.shiftRight_eq_div_pow]
        omega
      change apic.sent ++ [((BitVec.ofNat 32 core <<< 24 >>> 24).toNat, lowBits)] = _
      rw [destination]
  | x2apic =>
      have high : ((BitVec.ofNat 32 core).setWidth 64 <<< 32).toNat = core * 2 ^ 32 := by
        rw [BitVec.toNat_shiftLeft, BitVec.toNat_setWidth, BitVec.toNat_ofNat, Nat.shiftLeft_eq]
        omega
      have part : (lowBits.setWidth 64).toNat = lowBits.toNat := by
        rw [BitVec.toNat_setWidth]
        omega
      have destination : ((((BitVec.ofNat 32 core).setWidth 64 <<< 32) |||
          lowBits.setWidth 64) >>> 32).toNat = core := by
        rw [BitVec.toNat_ushiftRight, BitVec.toNat_or, high, part, Nat.shiftRight_or_distrib,
          Nat.shiftRight_eq_div_pow, Nat.shiftRight_eq_div_pow, Nat.div_eq_of_lt lowBits.isLt,
          Nat.or_zero, Nat.mul_div_cancel _ (by decide)]
      have command : (((BitVec.ofNat 32 core).setWidth 64 <<< 32) |||
          lowBits.setWidth 64).setWidth 32 = lowBits := by
        apply BitVec.eq_of_getLsbD_eq
        intro bit inside
        simp [inside]
      change apic.sent ++ [((((BitVec.ofNat 32 core).setWidth 64 <<< 32 |||
        lowBits.setWidth 64) >>> 32).toNat, _)] = _
      rw [destination, command]

theorem signalsOnly (mode : ApicMode) :
    SignalsOnly η (interruptCtrl mode) sent (targets mode)
      (fun coreCount core => (mode = .xapic → coreCount ≤ 255) ∧ core < 2 ^ 32) := by
  rintro core vector ctrl later counted _ ⟨few, narrow⟩ returns
  obtain ⟨below, apic, signalled, rfl⟩ := IrqDesign.sendIpi_eq_ok returns
  rw [Nat.mod_eq_of_lt narrow] at below
  obtain ⟨first, second⟩ := command_shorthand vector
  have low : mode = .xapic → core < 2 ^ 8 := by
    intro isXapic
    have most := few isXapic
    omega
  have same := Option.some.inj signalled
  refine ⟨below, (core, vector.setWidth 32 ||| (1#32 <<< 14)), ?_, fun other _ => ?_⟩
  · rw [← same]
    exact sent_writeIcr narrow low _ ctrl.registers
  · refine ⟨fun chosen => ?_, fun isCore => ⟨first, second, ?_⟩⟩
    · have meant := chosen.2.2
      cases mode with
      | xapic =>
          have most := few rfl
          exact meant.resolve_left (fun all => by simp only at all; omega)
      | x2apic => exact meant.resolve_left (fun all => by simp only at all; omega)
    · cases mode with
      | xapic => exact Or.inr isCore
      | x2apic => exact Or.inr isCore

end X8664.Apic

end Signals

/-! ## The three controllers -/

/-- The calls keep the tables and the registers, and signal the core they name.  A registration on
the GIC gives four lines their common priority, and a signal names a core by the bits the hardware
has for it. -/
theorem interruptCtrl_keeps (η : Type) (checks : Bool) (mode : X8664.ApicMode) :
    (KeepsTable η (Riscv64.interruptCtrl checks) ∧
      KeepsEnabled η (Riscv64.interruptCtrl checks) Riscv64.Plic.lineOf ∧
      Isolates η (Riscv64.interruptCtrl checks) Riscv64.Plic.lineOf 1024
        (fun _ _ _ _ => False) ∧
      SignalsOnly η (Riscv64.interruptCtrl checks) Riscv64.Plic.hartMasks
        (fun mask hart => mask.testBit hart = true)
        (fun coreCount core => coreCount ≤ 64 ∧ core < 2 ^ 32)) ∧
    (KeepsTable η (Arm64.interruptCtrl checks) ∧
      KeepsEnabled η (Arm64.interruptCtrl checks) Arm64.Gicd.lineOf ∧
      Isolates η (Arm64.interruptCtrl checks) Arm64.Gicd.lineOf 1020
        Arm64.Gicd.SharesPriority ∧
      KeepsPriority η (Arm64.interruptCtrl checks) Arm64.Gicd.lineOf 0x80 ∧
      SignalsOnly η (Arm64.interruptCtrl checks) Arm64.Gicd.sgis Arm64.Gicd.targets
        (fun coreCount core => coreCount ≤ 16 ∧ core < 2 ^ 32)) ∧
    KeepsTable η (X8664.interruptCtrl mode) ∧
      (∀ (call : IrqCall η) ctrl later, (X8664.interruptCtrl mode).call call ctrl = .ok () later →
        call.line? ≠ none → later.registers = ctrl.registers) ∧
      SignalsOnly η (X8664.interruptCtrl mode) X8664.Apic.sent (X8664.Apic.targets mode)
        (fun coreCount core => (mode = .xapic → coreCount ≤ 255) ∧ core < 2 ^ 32) := by
  refine ⟨⟨IrqDesign.keepsTable _ η, (Riscv64.Plic.lineLaws checks).keepsEnabled η,
    (Riscv64.Plic.lineLaws checks).isolates η, Riscv64.Plic.signalsOnly checks⟩,
    ⟨IrqDesign.keepsTable _ η, (Arm64.Gicd.lineLaws checks).keepsEnabled η,
      (Arm64.Gicd.lineLaws checks).isolates η, (Arm64.Gicd.lineLaws checks).keepsPriority η,
      Arm64.Gicd.signalsOnly checks⟩,
    IrqDesign.keepsTable _ η, ?_, X8664.Apic.signalsOnly mode⟩
  intro call ctrl later returns about
  cases call with
  | registerIrq line handler =>
      obtain ⟨_, _, _, rfl⟩ := IrqDesign.registerIrq_eq_ok returns
      rfl
  | unregisterIrq line =>
      rcases IrqDesign.unregisterIrq_eq_ok returns with ⟨_, rfl⟩ | ⟨_, _, rfl⟩
      · rfl
      · rfl
  | maskIrq line =>
      obtain ⟨_, rfl⟩ := IrqDesign.onLine_eq_ok returns
      rfl
  | unmaskIrq line =>
      obtain ⟨_, rfl⟩ := IrqDesign.onLine_eq_ok returns
      rfl
  | sendIpi core vector => exact absurd rfl about

/-- A distributor out of reset. -/
def resetGicd : Arm64.Gicd where
  enabled := fun _ => false
  priority := fun _ => 0
  router := fun _ => 0
  sgis := []

/-- A registration of line 32 sets the priority of line 33.  With 17 cores no signal reaches the
last one, and a core of 33 bits is taken for core 0. -/
theorem interruptCtrl_not_isolated :
    ¬ Isolates Unit (Arm64.interruptCtrl true) Arm64.Gicd.lineOf 1020 (fun _ _ _ _ => False) ∧
      ¬ SignalsOnly Unit (Arm64.interruptCtrl true) Arm64.Gicd.sgis Arm64.Gicd.targets
        (fun _ core => core < 2 ^ 32) ∧
      ¬ SignalsOnly Unit (Riscv64.interruptCtrl false) Riscv64.Plic.hartMasks
        (fun mask hart => mask.testBit hart = true) (fun _ _ => True) := by
  refine ⟨fun isolates => ?_, fun signals => ?_, fun signals => ?_⟩
  · rcases isolates (.registerIrq 32 ()) ((Arm64.interruptCtrl true).fresh Unit resetGicd) _ rfl 33
      (by decide) (by decide) with same | ⟨_, _, _, none⟩
    · have priority := congrArg LineState.priority same
      revert priority
      decide +kernel
    · exact none
  · obtain ⟨_, signal, sent, only⟩ := signals 16 0
      { (Arm64.interruptCtrl true).fresh Unit resetGicd with coreCount := 17 } _ (by decide)
      (by decide) (by decide) rfl
    obtain rfl := List.cons.inj sent |>.1
    have reached := (only 16 (by decide)).2 rfl
    revert reached
    decide +kernel
  · have below := (signals (2 ^ 32) 0 ((Riscv64.interruptCtrl false).fresh Unit
      ⟨fun _ => 0, []⟩) _ (by decide) (by decide) trivial rfl).1
    revert below
    decide

end Simurgh
