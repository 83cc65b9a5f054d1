import Simurgh.Core.Refine

/-!
# The effect of `dispatch`

`Map` has a software half and a hardware half, and the second can undo the first.
With `IrqBind` it completes the comparison of `dispatch` with `Effect`.
-/

namespace Simurgh

namespace KernelState

/-! ## The software half of `Map` -/

/-- `mapSoftware` fails without any change, or it adds one mapping. -/
theorem mapSoftware_spec (caller : ThreadId) (pageTable frame : CapId) (vaddr : Nat)
    (perms : MapPermissions) (state : KernelState) :
    (∃ error,
      mapSoftware caller pageTable frame vaddr perms state = .err error state) ∨
      mapSoftware caller pageTable frame vaddr perms state = .panic ∨
        ∃ csId asId held phys space later,
          state.Holds caller csId pageTable .pageTable .write asId ∧
            state.capSpaces.lookup { space := csId, cap := frame } = some held ∧
            held.allows (frameRights perms) = true ∧
            state.framePhys held = .ok phys ∧
            state.addrSpaces.get? asId = some space ∧
            AddressSpace.map vaddr phys pageSize perms space = .ok () later ∧
            mapSoftware caller pageTable frame vaddr perms state =
              .ok { asId, rootPhys := later.rootPhys, framePhys := phys }
                (state.putAddrSpace asId later) := by
  unfold mapSoftware onAddrSpace
  rw [Exec.get_bind_run]
  cases resolved : state.resolve caller pageTable .pageTable .write with
  | error error => exact Or.inl ⟨error, rfl⟩
  | ok pt =>
      obtain ⟨csId, holds⟩ := holds_of_resolve resolved
      rw [Exec.ofExcept_ok, Exec.pure_bind_run]
      cases looked : state.lookupCap caller frame with
      | error error => exact Or.inl ⟨error, rfl⟩
      | ok held =>
          obtain ⟨other, space, frameHeld⟩ := lookupCap_eq_ok looked
          obtain rfl : csId = other := holds.same_space space
          rw [Exec.ofExcept_ok, Exec.pure_bind_run]
          cases allowed : held.allows (frameRights perms) with
          | false => exact Or.inl ⟨.insufficientRights, rfl⟩
          | true =>
              simp only [Exec.guard, if_true, Exec.pure_bind_run]
              cases found : state.framePhys held with
              | error error => exact Or.inl ⟨error, rfl⟩
              | ok phys =>
                  simp only [Exec.ofExcept_ok, Exec.pure_bind_run]
                  cases present : state.addrSpaces.get? pt.object.id with
                  | none =>
                      rw [Exec.bind_of_err (onObject_of_none present)]
                      exact Or.inl ⟨.badCap, rfl⟩
                  | some space =>
                      cases ran : AddressSpace.map vaddr phys pageSize perms space with
                      | ok value later =>
                          refine Or.inr (Or.inr ⟨csId, _, held, phys, space, later, holds,
                            frameHeld, allowed, found, present, ran, ?_⟩)
                          have mapped :
                              (do
                                AddressSpace.map vaddr phys pageSize perms
                                let space ← Exec.get
                                return space.rootPhys :
                                Exec RootAddressSpace MmError Nat) space =
                                .ok later.rootPhys later :=
                            Exec.bind_of_ok ran _
                          rw [Exec.bind_of_ok (onObject_of_ok present mapped)]
                          rfl
                      | err error later =>
                          obtain rfl := AddressSpace.map_err ran
                          have refused :
                              (do
                                AddressSpace.map vaddr phys pageSize perms
                                let space ← Exec.get
                                return space.rootPhys :
                                Exec RootAddressSpace MmError Nat) later =
                                .err error later :=
                            Exec.bind_of_err ran _
                          rw [Exec.bind_of_err (onObject_of_err present refused rfl)]
                          exact Or.inl ⟨.mm error, rfl⟩
                      | panic =>
                          refine Or.inr (Or.inl ?_)
                          simp [onObject, present, Exec.zoom, Exec.bind_run, ran]

/-- Rolling back stores what `unmap` leaves. -/
theorem rollback_run {asId : PageTableId} {vaddr : Nat} {state final : KernelState}
    {space : RootAddressSpace} (present : state.addrSpaces.get? asId = some space)
    (ended : (rollback asId vaddr state).state? = some final) :
    ∃ left, (AddressSpace.unmap vaddr space).state? = some left ∧
      rollback asId vaddr state = .ok () (state.putAddrSpace asId left) ∧
      final = state.putAddrSpace asId left := by
  unfold rollback onAddrSpace at *
  rw [Exec.attempt_state] at ended
  simp only [onObject, Exec.get_bind_run, present, Exec.okOr_some,
    Exec.pure_bind_run] at ended
  obtain ⟨left, ran, rfl⟩ := Exec.zoom_state.1 ended
  refine ⟨left, ran, Exec.attempt_eq_ok.2 ?_, rfl⟩
  simp only [onObject, Exec.get_bind_run, present, Exec.okOr_some, Exec.pure_bind_run]
  exact Exec.zoom_state.2 ⟨left, ran, rfl⟩

end KernelState

/-! ## Syscalls that reach the hardware -/

namespace Machine

variable {μ : Type} (hal : HalInterface μ) {caller : ThreadId} {nowNs : Nat}

section OnKernel

variable {ε α : Type} {program : Exec KernelState ε α} {machine : Machine μ}

theorem onKernel_of_ok {value : α} {kernel : KernelState}
    (ran : program machine.kernel = .ok value kernel) :
    onKernel program machine = .ok value { machine with kernel } := by
  simp [onKernel, Exec.zoom, ran]

theorem onKernel_of_err {error : ε} {kernel : KernelState}
    (failed : program machine.kernel = .err error kernel) :
    onKernel program machine = .err error { machine with kernel } := by
  simp [onKernel, Exec.zoom, failed]

theorem onKernel_of_panic (panicked : program machine.kernel = .panic) :
    onKernel program machine = .panic := by
  simp [onKernel, Exec.zoom, panicked]

end OnKernel

/-- A syscall that leaves the hardware alone. -/
theorem onKernel_ends {effect : Option ThreadId → KernelState → Prop}
    {program : Exec KernelState SyscallError SyscallReturn} {machine : Machine μ}
    (ends : EndsIn effect (program machine.kernel)) :
    EndsIn (fun next (final : Machine μ) => effect next final.kernel)
      (onKernel program machine) := by
  unfold onKernel Exec.zoom
  cases ran : program machine.kernel with
  | ok result final =>
      rw [ran] at ends
      exact ends
  | err error final =>
      rw [ran] at ends
      exact ends
  | panic => trivial

/-- What `Map` does to kernel and hardware.  Either the software model refuses, or
it adds a mapping and, when there is a pool, the hardware decides. -/
inductive MapEffect (caller : ThreadId) (pageTable frame : CapId) (vaddr : Nat)
    (perms : MapPermissions) (before : Machine μ) : Machine μ → Prop where
  | refused : MapEffect caller pageTable frame vaddr perms before before
  | accepted {csId asId held phys space later after}
      (holds : before.kernel.Holds caller csId pageTable .pageTable .write asId)
      (frameHeld :
        before.kernel.capSpaces.lookup { space := csId, cap := frame } = some held)
      (allowed : held.allows (KernelState.frameRights perms) = true)
      (resolved : before.kernel.framePhys held = .ok phys)
      (present : before.kernel.addrSpaces.get? asId = some space)
      (added : AddressSpace.map vaddr phys pageSize perms space = .ok () later)
      (walked :
        (before.kernel.mapPoolBase = 0 ∧
          after = { before with kernel := before.kernel.putAddrSpace asId later }) ∨
        ∃ poolBase poolLen consumed hw,
          before.kernel.mapPoolBase ≠ 0 ∧
            before.kernel.mapPoolRemaining = some (poolBase, poolLen) ∧
            hal.mapRange later.rootPhys vaddr phys pageSize (KernelState.permBits perms)
              poolBase poolLen before.hw = (consumed, hw) ∧
            ((consumed = u32Max ∧ ∃ left,
                (AddressSpace.unmap vaddr later).state? = some left ∧
                  after = { kernel := before.kernel.putAddrSpace asId left, hw }) ∨
              (consumed ≠ u32Max ∧
                after =
                  { kernel :=
                      { before.kernel.putAddrSpace asId later with
                        mapPoolUsed := before.kernel.mapPoolUsed + consumed }
                    hw := hal.flushTlb hw }))) :
      MapEffect caller pageTable frame vaddr perms before after

/-- The hardware half of `Map` fails and is rolled back, or it advances the pool. -/
theorem mapHardware_spec (accepted : KernelState.AcceptedMap) (vaddr : Nat)
    (perms : MapPermissions) (machine : Machine μ) {space : RootAddressSpace}
    (present : machine.kernel.addrSpaces.get? accepted.asId = some space) :
    mapHardware hal accepted vaddr perms machine = .panic ∨
      ∃ poolBase poolLen consumed hw,
        machine.kernel.mapPoolRemaining = some (poolBase, poolLen) ∧
          hal.mapRange accepted.rootPhys vaddr accepted.framePhys pageSize
            (KernelState.permBits perms) poolBase poolLen machine.hw = (consumed, hw) ∧
          ((consumed = u32Max ∧ ∃ left,
              (AddressSpace.unmap vaddr space).state? = some left ∧
                mapHardware hal accepted vaddr perms machine =
                  .err (.mm .hardwareMapFailed)
                    { kernel := machine.kernel.putAddrSpace accepted.asId left, hw }) ∨
            (consumed ≠ u32Max ∧
              mapHardware hal accepted vaddr perms machine =
                .ok ()
                  { kernel :=
                      { machine.kernel with
                        mapPoolUsed := machine.kernel.mapPoolUsed + consumed }
                    hw := hal.flushTlb hw })) := by
  unfold mapHardware
  rw [Exec.get_bind_run]
  cases remaining : machine.kernel.mapPoolRemaining with
  | none => exact Or.inl rfl
  | some pool =>
      obtain ⟨poolBase, poolLen⟩ := pool
      rw [Exec.expect_some, Exec.pure_bind_run]
      cases walked : hal.mapRange accepted.rootPhys vaddr accepted.framePhys pageSize
          (KernelState.permBits perms) poolBase poolLen machine.hw with
      | mk consumed hw =>
          simp only [walked, Exec.modify_bind_run]
          by_cases failed : consumed = u32Max
          · rw [if_pos failed, Exec.bind_run]
            cases undone : KernelState.rollback accepted.asId vaddr machine.kernel with
            | panic =>
                refine Or.inl ?_
                simp [onKernel, Exec.zoom, undone]
            | ok value kernel =>
                obtain ⟨left, removed, ran, _⟩ :=
                  KernelState.rollback_run present (by rw [undone]; rfl)
                refine Or.inr ⟨poolBase, poolLen, consumed, hw, rfl, walked,
                  Or.inl ⟨failed, left, removed, ?_⟩⟩
                simp [onKernel, Exec.zoom, ran]
            | err error kernel =>
                obtain ⟨left, _, ran, _⟩ :=
                  KernelState.rollback_run present (by rw [undone]; rfl)
                rw [undone] at ran
                simp at ran
          · rw [if_neg failed]
            by_cases fits : machine.kernel.mapPoolUsed + consumed ≤ u32Max
            · refine Or.inr ⟨poolBase, poolLen, consumed, hw, rfl, walked,
                Or.inr ⟨failed, ?_⟩⟩
              simp [onKernel, Exec.zoom, Exec.bind_run, KernelState.mapPoolAdvance,
                Exec.ensure, fits]
            · refine Or.inl ?_
              simp [onKernel, Exec.zoom, Exec.bind_run, KernelState.mapPoolAdvance,
                Exec.ensure, fits]

/-- How `Map` ends.  It is refused before it has changed anything, or the page is stored,
and then the hardware takes it or it is removed again. -/
theorem doMap_cases (pageTable frame : CapId) (vaddr : Nat) (perms : MapPermissions)
    (machine : Machine μ) :
    (∃ error, doMap hal caller pageTable frame vaddr perms machine = .err error machine) ∨
      doMap hal caller pageTable frame vaddr perms machine = .panic ∨
      ∃ csId asId held phys space later,
        machine.kernel.Holds caller csId pageTable .pageTable .write asId ∧
          machine.kernel.capSpaces.lookup { space := csId, cap := frame } = some held ∧
          held.allows (KernelState.frameRights perms) = true ∧
          machine.kernel.framePhys held = .ok phys ∧
          machine.kernel.addrSpaces.get? asId = some space ∧
          AddressSpace.map vaddr phys pageSize perms space = .ok () later ∧
          ((machine.kernel.mapPoolBase = 0 ∧
              doMap hal caller pageTable frame vaddr perms machine =
                .ok .mapped { machine with kernel := machine.kernel.putAddrSpace asId later }) ∨
            ∃ poolBase poolLen consumed hw,
              machine.kernel.mapPoolBase ≠ 0 ∧
                machine.kernel.mapPoolRemaining = some (poolBase, poolLen) ∧
                hal.mapRange later.rootPhys vaddr phys pageSize (KernelState.permBits perms)
                  poolBase poolLen machine.hw = (consumed, hw) ∧
                ((consumed = u32Max ∧ ∃ left,
                    (AddressSpace.unmap vaddr later).state? = some left ∧
                      doMap hal caller pageTable frame vaddr perms machine =
                        .err (.mm .hardwareMapFailed)
                          { kernel := machine.kernel.putAddrSpace asId left, hw }) ∨
                  (consumed ≠ u32Max ∧
                    doMap hal caller pageTable frame vaddr perms machine =
                      .ok .mapped
                        { kernel :=
                            { machine.kernel.putAddrSpace asId later with
                              mapPoolUsed := machine.kernel.mapPoolUsed + consumed }
                          hw := hal.flushTlb hw }))) := by
  unfold doMap
  rcases KernelState.mapSoftware_spec caller pageTable frame vaddr perms machine.kernel with
    ⟨error, failed⟩ | panicked |
      ⟨csId, asId, held, phys, space, later, holds, frameHeld, allowed, resolved, present,
        added, ran⟩
  · rw [Exec.bind_of_err (onKernel_of_err failed)]
    exact Or.inl ⟨error, rfl⟩
  · rw [Exec.bind_run, onKernel_of_panic panicked]
    exact Or.inr (Or.inl rfl)
  · rw [Exec.bind_of_ok (onKernel_of_ok ran), Exec.get_bind_run]
    by_cases noPool : machine.kernel.mapPoolBase = 0
    · have skip : ¬ (machine.kernel.putAddrSpace asId later).mapPoolBase ≠ 0 :=
        not_not.2 noPool
      rw [if_neg skip]
      exact Or.inr (Or.inr ⟨csId, asId, held, phys, space, later, holds, frameHeld, allowed,
        resolved, present, added, Or.inl ⟨noPool, rfl⟩⟩)
    · have pool : (machine.kernel.putAddrSpace asId later).mapPoolBase ≠ 0 := noPool
      have stored : (machine.kernel.putAddrSpace asId later).addrSpaces.get? asId =
          some later := Slab.get?_put_self (Slab.lt_of_get? present) later
      rw [if_pos pool]
      rcases mapHardware_spec hal { asId, rootPhys := later.rootPhys, framePhys := phys }
          vaddr perms { machine with kernel := machine.kernel.putAddrSpace asId later }
          stored with
        panicked | ⟨poolBase, poolLen, consumed, hw, remaining, walked,
          ⟨failed, left, removed, ran⟩ | ⟨succeeded, ran⟩⟩
      · rw [Exec.bind_run, panicked]
        exact Or.inr (Or.inl rfl)
      · have undone : (machine.kernel.putAddrSpace asId later).putAddrSpace asId left =
            machine.kernel.putAddrSpace asId left := by
          unfold KernelState.putAddrSpace
          rw [Slab.put_put]
        rw [Exec.bind_of_err ran, undone]
        exact Or.inr (Or.inr ⟨csId, asId, held, phys, space, later, holds, frameHeld, allowed,
          resolved, present, added, Or.inr ⟨poolBase, poolLen, consumed, hw, noPool, remaining,
            walked, Or.inl ⟨failed, left, removed, rfl⟩⟩⟩)
      · rw [Exec.bind_of_ok ran]
        exact Or.inr (Or.inr ⟨csId, asId, held, phys, space, later, holds, frameHeld, allowed,
          resolved, present, added, Or.inr ⟨poolBase, poolLen, consumed, hw, noPool, remaining,
            walked, Or.inr ⟨succeeded, rfl⟩⟩⟩)

/-- `Map` never names a thread to run next. -/
theorem doMap_ends (pageTable frame : CapId) (vaddr : Nat) (perms : MapPermissions)
    (machine : Machine μ) :
    EndsIn (fun next final =>
        next = none ∧ MapEffect hal caller pageTable frame vaddr perms machine final)
      (doMap hal caller pageTable frame vaddr perms machine) := by
  rcases @doMap_cases μ hal caller pageTable frame vaddr perms machine with
    ⟨error, ran⟩ | panicked |
      ⟨csId, asId, held, phys, space, later, holds, frameHeld, allowed, resolved, present, added,
        ⟨noPool, ran⟩ | ⟨poolBase, poolLen, consumed, hw, pool, remaining, walked,
          ⟨failed, left, removed, ran⟩ | ⟨succeeded, ran⟩⟩⟩
  · rw [ran]
    exact ⟨rfl, .refused⟩
  · rw [panicked]
    trivial
  · rw [ran]
    exact ⟨rfl, .accepted holds frameHeld allowed resolved present added
      (Or.inl ⟨noPool, rfl⟩)⟩
  · rw [ran]
    exact ⟨rfl, .accepted holds frameHeld allowed resolved present added
      (Or.inr ⟨poolBase, poolLen, consumed, hw, pool, remaining, walked,
        Or.inl ⟨failed, left, removed, rfl⟩⟩)⟩
  · rw [ran]
    exact ⟨rfl, .accepted holds frameHeld allowed resolved present added
      (Or.inr ⟨poolBase, poolLen, consumed, hw, pool, remaining, walked,
        Or.inr ⟨succeeded, rfl⟩⟩)⟩

/-- The effect of `Map` on the kernel. -/
theorem MapEffect.kernel {pageTable frame : CapId} {vaddr : Nat}
    {perms : MapPermissions} {before after : Machine μ}
    (effect : MapEffect hal caller pageTable frame vaddr perms before after) :
    KernelState.Effect caller nowNs before.kernel (.map pageTable frame vaddr perms) none
      after.kernel := by
  cases effect with
  | refused => exact .unchanged _
  | accepted holds frameHeld allowed resolved present added walked =>
      rcases walked with ⟨_, rfl⟩ |
        ⟨_, _, _, _, _, _, _, ⟨_, left, removed, rfl⟩ | ⟨_, rfl⟩⟩
      · exact .mapped holds frameHeld allowed resolved present added _
      · exact .rolledBack holds frameHeld allowed resolved present added removed
      · exact .mapped holds frameHeld allowed resolved present added _

theorem doIrqBind_ends (mmio notification : CapId) (handler : Nat)
    (machine : Machine μ) :
    EndsIn (fun next (final : Machine μ) =>
        KernelState.Effect caller nowNs machine.kernel (.irqBind mmio notification handler)
          next final.kernel)
      (doIrqBind hal caller mmio notification handler machine) := by
  unfold doIrqBind
  rw [Exec.get_bind_run]
  cases resolved : machine.kernel.resolve caller mmio .mmioRegion .write with
  | error error => exact .unchanged _
  | ok mmioCap =>
      obtain ⟨csId, region⟩ := KernelState.holds_of_resolve resolved
      rw [Exec.ofExcept_ok, Exec.pure_bind_run]
      cases found : machine.kernel.mmioRegion mmioCap.object.id with
      | none => exact .unchanged _
      | some descriptor =>
          rw [Exec.okOr_some, Exec.pure_bind_run]
          cases looked : machine.kernel.resolve caller notification .notification .write with
          | error error => exact .unchanged _
          | ok notifCap =>
              obtain ⟨other, target⟩ := KernelState.holds_of_resolve looked
              obtain rfl : csId = other := region.same_space target.space
              rw [Exec.ofExcept_ok, Exec.pure_bind_run]
              have bound : KernelState.Effect caller nowNs machine.kernel
                  (.irqBind mmio notification handler) none
                  (machine.kernel.bindIrq descriptor.irq notifCap.object.id).2 :=
                .bound region found target
              cases binding : machine.kernel.bindIrq descriptor.irq notifCap.object.id with
              | mk room kernel =>
                  rw [binding] at bound
                  cases registration : hal.registerIrq descriptor.irq handler machine.hw with
                  | mk registered hw =>
                      cases room with
                      | false => exact bound
                      | true =>
                          simp only [Exec.modify_bind_run, Exec.guard, if_true,
                            Exec.pure_bind_run]
                          cases registered with
                          | false => exact bound
                          | true => exact bound

/-- Every syscall has one of the listed effects on the kernel, however it ends. -/
theorem dispatch_ends (op : SyscallOp) (machine : Machine μ) :
    EndsIn (fun next (final : Machine μ) =>
        KernelState.Effect caller nowNs machine.kernel op next final.kernel)
      (dispatch hal caller nowNs op machine) := by
  have kernelOnly : ∀ program : Exec KernelState SyscallError SyscallReturn,
      EndsIn (KernelState.Effect caller nowNs machine.kernel op)
        (program machine.kernel) →
      EndsIn (fun next (final : Machine μ) =>
          KernelState.Effect caller nowNs machine.kernel op next final.kernel)
        (onKernel program machine) :=
    fun program ends => onKernel_ends ends
  cases op with
  | yield => exact kernelOnly _ .yielded
  | capRevoke cap => exact kernelOnly _ (KernelState.doCapRevoke_ends ..)
  | retype untyped targetType count => exact kernelOnly _ (KernelState.doRetype_ends ..)
  | capGrant targetThread cap rights => exact kernelOnly _ (KernelState.doCapGrant_ends ..)
  | map pageTable frame vaddr perms =>
      refine (doMap_ends hal pageTable frame vaddr perms machine).mono ?_
      rintro next final ⟨rfl, effect⟩
      exact effect.kernel
  | send endpoint msg =>
      exact kernelOnly _ (KernelState.doSend_ends endpoint msg false machine.kernel)
  | call endpoint msg =>
      exact kernelOnly _ (KernelState.doSend_ends endpoint msg true machine.kernel)
  | recv endpoint => exact kernelOnly _ (KernelState.doRecv_ends ..)
  | reply toThread msg => exact kernelOnly _ (KernelState.doReply_ends ..)
  | signal notification bits => exact kernelOnly _ (KernelState.doSignal_ends ..)
  | wait notification => exact kernelOnly _ (KernelState.doWait_ends ..)
  | poll notification => exact kernelOnly _ (KernelState.doPoll_ends ..)
  | irqBind mmio notification handler => exact doIrqBind_ends hal mmio notification handler machine

theorem dispatch_effect {op : SyscallOp} {before after : Machine μ}
    (ended : (dispatch hal caller nowNs op before).state? = some after) :
    ∃ next, KernelState.Effect caller nowNs before.kernel op next after.kernel :=
  (dispatch_ends hal op before).of_state? ended

end Machine

end Simurgh
