import Simurgh.Core.Bounds
import Simurgh.Core.Room

/-!
# Every syscall returns

`dispatch` returns a value or an error, whatever it is given, with one exception:
a `Map` whose overlap check comes to the top of the address space.
-/

namespace Simurgh

namespace CapTables

variable {N M : Nat} {tables : CapTables N M}

/-- An insertion into a family of tables returns. -/
theorem Inserts.ne_panic {forest : CapForest} {space : CapSpaceId}
    {link : Option GlobalCapId} {allowed : Capability → Prop}
    {outcome : Outcome (CapTables N M) CapTableError CapId}
    (inserts : Represents.Inserts tables forest space link allowed outcome) :
    outcome ≠ .panic := by
  rcases inserts with ⟨error, rfl⟩ | ⟨id, cap, vacant, fits, later, _, rfl, _⟩
  · simp
  · simp

/-- Revoking meets no table out of order. -/
theorem Wf.revoke_returns (wf : tables.Wf) (target : GlobalCapId) :
    revokeCrossSpace target tables ≠ .panic := by
  obtain ⟨forest, represents⟩ := wf
  cases occupied : tables.lookup target with
  | none => simp [revokeCrossSpace_of_vacant occupied]
  | some root =>
      obtain ⟨final, revoked, _⟩ := represents.revoke occupied
      simp [revoked]

end CapTables

namespace KernelState

variable {caller : ThreadId} {nowNs : Nat} {state : KernelState}

/-! ## Calls without a check that can fail -/

theorem onSched_noteReady_total (thread : ThreadId) (nowNs : Nat) :
    (onSched (Scheduler.noteReady thread nowNs)).Total :=
  Exec.Total.zoom (Exec.Total.get.bind fun _ => (Exec.Total.okOr _ _).bind fun _ =>
    Exec.Total.modify _)

theorem onSched_noteBlocked_total (thread : ThreadId) :
    (onSched (Scheduler.noteBlocked thread)).Total :=
  Exec.Total.zoom (Exec.Total.get.bind fun _ => (Exec.Total.okOr _ _).bind fun _ =>
    Exec.Total.modify _)

theorem wakeAll_total (nowNs : Nat) (threads : List ThreadId) :
    (wakeAll nowNs threads).Total := by
  induction threads with
  | nil => exact Exec.Total.pure ()
  | cons thread rest ih =>
      exact (onSched_noteReady_total thread nowNs).attempt.bind fun _ => ih

theorem blockCaller_total (caller : ThreadId) (blocked : ThreadState) :
    (blockCaller caller blocked).Total :=
  (Exec.Total.modify _).bind fun _ => onSched_noteBlocked_total caller

theorem deliver_total (caller : ThreadId) (nowNs : Nat)
    (delivered : Option (ThreadId × SmallMessage)) :
    (deliver caller nowNs delivered).Total := by
  cases delivered with
  | none => exact Exec.Total.pure ()
  | some delivery =>
      exact (Exec.Total.modify _).bind fun _ => onSched_noteReady_total delivery.1 nowNs

theorem takeDeliveredAt_total (eid : EndpointId) : (takeDeliveredAt eid).Total := by
  refine Exec.Total.get.bind fun state => ?_
  cases state.endpoints.get? eid with
  | none => exact Exec.Total.pure none
  | some endpoint => exact onObject_total Endpoint.takeDelivered_total

theorem doSend_total (caller : ThreadId) (endpoint : CapId) (msg : SmallMessage)
    (isCall : Bool) (nowNs : Nat) : (doSend caller endpoint msg isCall nowNs).Total := by
  refine Exec.Total.get.bind fun state => (Exec.Total.ofExcept _).bind fun epCap => ?_
  refine (onObject_total (Endpoint.trySend_total caller msg true)).bind fun outcome => ?_
  cases outcome with
  | deliveredTo receiver =>
      refine (takeDeliveredAt_total _).bind fun delivered => ?_
      refine (deliver_total caller nowNs delivered).bind fun _ => ?_
      cases isCall with
      | true =>
          refine (blockCaller_total caller _).bind fun _ => ?_
          exact Exec.Total.get.bind fun _ => Exec.Total.pure _
      | false => exact Exec.Total.pure _
  | senderQueued =>
      refine (blockCaller_total caller _).bind fun _ => ?_
      exact Exec.Total.get.bind fun _ => Exec.Total.pure _
  | wouldBlock => exact Exec.Total.pure _

theorem doRecv_total (caller : ThreadId) (endpoint : CapId) (nowNs : Nat) :
    (doRecv caller endpoint nowNs).Total := by
  refine Exec.Total.get.bind fun state => (Exec.Total.ofExcept _).bind fun epCap => ?_
  refine (onObject_total (Endpoint.tryRecv_total caller true)).bind fun outcome => ?_
  cases outcome with
  | received sender msg =>
      refine (Exec.Total.modify _).bind fun _ => ?_
      exact (onSched_noteReady_total sender nowNs).attempt.bind fun _ => Exec.Total.pure _
  | receiverQueued =>
      refine (blockCaller_total caller _).bind fun _ => ?_
      exact Exec.Total.get.bind fun _ => Exec.Total.pure _
  | wouldBlock => exact Exec.Total.pure _

theorem doReply_total (caller toThread : ThreadId) (msg : SmallMessage) (nowNs : Nat) :
    (doReply caller toThread msg nowNs).Total := by
  refine (Exec.Total.guard _ _).bind fun _ => Exec.Total.get.bind fun state => ?_
  refine (Exec.Total.guard _ _).bind fun _ => (Exec.Total.modify _).bind fun _ => ?_
  refine (onSched_noteReady_total toThread nowNs).bind fun _ => ?_
  exact (onSched_noteReady_total caller nowNs).bind fun _ => Exec.Total.pure _

theorem doSignal_total (caller : ThreadId) (notification : CapId) (bits nowNs : Nat) :
    (doSignal caller notification bits nowNs).Total := by
  refine Exec.Total.get.bind fun state => (Exec.Total.ofExcept _).bind fun cap => ?_
  refine (onObject_total (Notification.signal_total bits)).bind fun woken => ?_
  exact (wakeAll_total nowNs woken).bind fun _ => Exec.Total.pure _

theorem doWait_total (caller : ThreadId) (notification : CapId) (nowNs : Nat) :
    (doWait caller notification nowNs).Total := by
  refine Exec.Total.get.bind fun state => (Exec.Total.ofExcept _).bind fun cap => ?_
  refine (onObject_total Notification.poll_total).bind fun bits => ?_
  by_cases pending : bits ≠ 0
  · rw [if_pos pending]
    exact Exec.Total.pure _
  · rw [if_neg pending]
    refine (onObject_total (Notification.wait_total caller)).bind fun _ => ?_
    refine (Exec.Total.modify _).bind fun _ => ?_
    exact (onSched_noteBlocked_total caller).attempt.bind fun _ => Exec.Total.pure _

theorem doPoll_total (caller : ThreadId) (notification : CapId) :
    (doPoll caller notification).Total := by
  refine Exec.Total.get.bind fun state => (Exec.Total.ofExcept _).bind fun cap => ?_
  exact (onObject_total Notification.poll_total).bind fun _ => Exec.Total.pure _

/-! ## Capabilities -/

theorem onCapSpaces_ne_panic {α : Type}
    {program : Exec (CapTables capSlotsPerSpace maxCapSpaces) CapTableError α}
    (returns : program state.capSpaces ≠ .panic) : onCapSpaces program state ≠ .panic :=
  fun panicked => returns (Exec.zoom_eq_panic.1 panicked)

theorem doCapRevoke_returns (named : state.Named) (caller : ThreadId) (cap : CapId) :
    doCapRevoke caller cap state ≠ .panic := by
  unfold doCapRevoke
  rw [Exec.get_bind_run]
  refine (Exec.Reads.ofExcept _).bind_returns (Exec.Total.ofExcept _) fun kind _ => ?_
  refine (Exec.Reads.ofExcept _).bind_returns (Exec.Total.ofExcept _) fun held _ => ?_
  refine (Exec.Reads.ofExcept _).bind_returns (Exec.Total.ofExcept _) fun csId _ => ?_
  exact Exec.bind_pure_returns
    (onCapSpaces_ne_panic (named.wf.revoke_returns { space := csId, cap }))

theorem doCapGrant_returns (named : state.Named) (caller : ThreadId)
    (targetThread cap : CapId) (rights : CapabilityRights) :
    doCapGrant caller targetThread cap rights state ≠ .panic := by
  unfold doCapGrant
  rw [Exec.get_bind_run]
  refine (Exec.Reads.ofExcept _).bind_returns (Exec.Total.ofExcept _) fun tcap _ => ?_
  refine (Exec.Reads.okOr _ _).bind_returns (Exec.Total.okOr _ _) fun dstTcb _ => ?_
  refine (Exec.Reads.ofExcept _).bind_returns (Exec.Total.ofExcept _) fun kind _ => ?_
  refine (Exec.Reads.ofExcept _).bind_returns (Exec.Total.ofExcept _) fun held _ => ?_
  refine (Exec.Reads.ofExcept _).bind_returns (Exec.Total.ofExcept _) fun srcCs _ => ?_
  refine (Exec.Reads.okOr _ _).bind_returns (Exec.Total.okOr _ _) fun pair found => ?_
  obtain ⟨srcTable, dstTable⟩ := pair
  obtain ⟨paired, _⟩ := Exec.okOr_eq_ok.1 found
  obtain ⟨srcHere, dstHere⟩ := capSpacePair_eq_some paired
  obtain ⟨forest, represents⟩ := named.wf
  exact Exec.bind_pure_returns (onCapSpaces_ne_panic
    (CapTables.Inserts.ne_panic
      (represents.deriveChildCrossSpace srcHere dstHere cap rights 0)))

/-! ## `Map` -/

/-- The `Map` call passes its checks, and its overlap check comes to the top of the
address space. -/
def MapHitsTop (state : KernelState) (caller : ThreadId) (pageTable frame : CapId)
    (vaddr : Nat) (perms : MapPermissions) : Prop :=
  ∃ csId asId held phys space,
    state.Holds caller csId pageTable .pageTable .write asId ∧
      state.capSpaces.lookup { space := csId, cap := frame } = some held ∧
      held.allows (frameRights perms) = true ∧
      state.framePhys held = .ok phys ∧
      state.addrSpaces.get? asId = some space ∧
      AddressSpace.AllowsMap vaddr phys pageSize perms ∧
      AddressSpace.HitsTop space.mappings.objects vaddr pageSize

/-- Once its checks have passed, the software half is the call on the space. -/
theorem mapSoftware_run {csId : CapSpaceId} {pageTable frame : CapId} {vaddr : Nat}
    {perms : MapPermissions} {asId : PageTableId} {held : Capability} {phys : Nat}
    {space : RootAddressSpace}
    (holds : state.Holds caller csId pageTable .pageTable .write asId)
    (frameHeld : state.capSpaces.lookup { space := csId, cap := frame } = some held)
    (allowed : held.allows (frameRights perms) = true)
    (found : state.framePhys held = .ok phys)
    (present : state.addrSpaces.get? asId = some space)
    (panicked : AddressSpace.map vaddr phys pageSize perms space = .panic) :
    mapSoftware caller pageTable frame vaddr perms state = .panic := by
  obtain ⟨pt, resolved, rfl⟩ := holds.resolve
  have looked := lookupCap_of_held holds.space frameHeld
  simp [mapSoftware, resolved, looked, allowed, found, Exec.guard, onAddrSpace, onObject,
    present, Exec.zoom, Exec.bind_run, panicked]

theorem mapSoftware_panic_iff {pageTable frame : CapId} {vaddr : Nat}
    {perms : MapPermissions} :
    mapSoftware caller pageTable frame vaddr perms state = .panic ↔
      state.MapHitsTop caller pageTable frame vaddr perms := by
  constructor
  · intro panicked
    unfold mapSoftware at panicked
    rw [Exec.get_bind_run] at panicked
    obtain ⟨pt, found, panicked⟩ :=
      (Exec.Reads.ofExcept _).bind_eq_panic (Exec.Total.ofExcept _) panicked
    obtain ⟨resolved, _⟩ := Exec.ofExcept_eq_ok.1 found
    obtain ⟨csId, holds⟩ := holds_of_resolve resolved
    obtain ⟨held, found, panicked⟩ :=
      (Exec.Reads.ofExcept _).bind_eq_panic (Exec.Total.ofExcept _) panicked
    obtain ⟨looked, _⟩ := Exec.ofExcept_eq_ok.1 found
    obtain ⟨other, space, frameHeld⟩ := lookupCap_eq_ok looked
    obtain rfl : csId = other := holds.same_space space
    obtain ⟨_, guarded, panicked⟩ :=
      (Exec.Reads.guard _ _).bind_eq_panic (Exec.Total.guard _ _) panicked
    obtain ⟨allowed, _⟩ := Exec.guard_eq_ok.1 guarded
    obtain ⟨phys, found, panicked⟩ :=
      (Exec.Reads.ofExcept _).bind_eq_panic (Exec.Total.ofExcept _) panicked
    obtain ⟨framePhys, _⟩ := Exec.ofExcept_eq_ok.1 found
    have onSpace := not_imp_not.1 Exec.bind_pure_returns panicked
    unfold onAddrSpace onObject at onSpace
    rw [Exec.get_bind_run] at onSpace
    obtain ⟨space, found, onSpace⟩ :=
      (Exec.Reads.okOr _ _).bind_eq_panic (Exec.Total.okOr _ _) onSpace
    obtain ⟨present, _⟩ := Exec.okOr_eq_ok.1 found
    refine ⟨csId, pt.object.id, held, phys, space, holds, frameHeld, allowed, framePhys,
      present, AddressSpace.map_panic_iff.1 ?_⟩
    have mapped := Exec.zoom_eq_panic.1 onSpace
    rw [Exec.bind_run] at mapped
    cases ran : AddressSpace.map vaddr phys pageSize perms space with
    | ok value later => simp [ran] at mapped
    | err error later => simp [ran] at mapped
    | panic => rfl
  · rintro ⟨csId, asId, held, phys, space, holds, frameHeld, allowed, found, present, hits⟩
    exact mapSoftware_run holds frameHeld allowed found present
      (AddressSpace.map_panic_iff.2 hits)

/-! ## The pool of page-table frames -/

/-- The pool lies below the top of the address space, and not more of it is used
than there is. -/
structure PoolFits (state : KernelState) : Prop where
  inside : state.mapPoolBase + state.mapPoolLen * pageSize < 0x10000000000000000
  length : state.mapPoolLen ≤ u32Max
  used : state.mapPoolUsed ≤ state.mapPoolLen

theorem PoolFits.of_same (fits : state.PoolFits) {later : KernelState}
    (same : later.mapPoolBase = state.mapPoolBase ∧ later.mapPoolLen = state.mapPoolLen ∧
      later.mapPoolUsed = state.mapPoolUsed) : later.PoolFits := by
  obtain ⟨base, length, used⟩ := same
  exact ⟨by rw [base, length]; exact fits.inside, by rw [length]; exact fits.length,
    by rw [length, used]; exact fits.used⟩

theorem PoolFits.remaining (fits : state.PoolFits) :
    state.mapPoolRemaining =
      some (state.mapPoolBase + state.mapPoolUsed * pageSize,
        state.mapPoolLen - state.mapPoolUsed) := by
  have inside := fits.inside
  have scaled := Nat.mul_le_mul_right pageSize fits.used
  have base : checkedAdd state.mapPoolBase (state.mapPoolUsed * pageSize) =
      some (state.mapPoolBase + state.mapPoolUsed * pageSize) :=
    checkedAdd_eq_some.2 ⟨by omega, rfl⟩
  unfold mapPoolRemaining
  rw [base, Option.bind_eq_bind, Option.bind_some, if_pos fits.used]
  rfl

end KernelState

/-- A walk takes no more frames than the pool has, or it fails. -/
def HalInterface.WithinPool {μ : Type} (hal : HalInterface μ) : Prop :=
  ∀ rootFrame vaddr paddr len permBits poolBase poolLen hw,
    (hal.mapRange rootFrame vaddr paddr len permBits poolBase poolLen hw).1 = u32Max ∨
      (hal.mapRange rootFrame vaddr paddr len permBits poolBase poolLen hw).1 ≤ poolLen

namespace Machine

variable {μ : Type} (hal : HalInterface μ) {caller : ThreadId} {nowNs : Nat}

/-- The hardware half of `Map` returns. -/
theorem mapHardware_returns (within : hal.WithinPool) (accepted : KernelState.AcceptedMap)
    (vaddr : Nat) (perms : MapPermissions) {machine : Machine μ} {space : RootAddressSpace}
    (present : machine.kernel.addrSpaces.get? accepted.asId = some space)
    (counted : 0 < space.count) (fits : machine.kernel.PoolFits) :
    mapHardware hal accepted vaddr perms machine ≠ .panic := by
  unfold mapHardware
  rw [Exec.get_bind_run, fits.remaining, Exec.expect_some, Exec.pure_bind_run]
  have taken := within accepted.rootPhys vaddr accepted.framePhys pageSize
    (KernelState.permBits perms)
    (machine.kernel.mapPoolBase + machine.kernel.mapPoolUsed * pageSize)
    (machine.kernel.mapPoolLen - machine.kernel.mapPoolUsed) machine.hw
  cases walked : hal.mapRange accepted.rootPhys vaddr accepted.framePhys pageSize
      (KernelState.permBits perms)
      (machine.kernel.mapPoolBase + machine.kernel.mapPoolUsed * pageSize)
      (machine.kernel.mapPoolLen - machine.kernel.mapPoolUsed) machine.hw with
  | mk consumed hw =>
      rw [walked] at taken
      simp only [walked, Exec.modify_bind_run]
      by_cases failed : consumed = u32Max
      · rw [if_pos failed, Exec.bind_run]
        have returns : (onKernel (KernelState.rollback accepted.asId vaddr) :
            Exec (Machine μ) SyscallError Unit) { machine with hw } ≠ .panic := by
          intro panicked
          have undone := Exec.zoom_eq_panic.1 panicked
          unfold KernelState.rollback KernelState.onAddrSpace KernelState.onObject at undone
          rw [Exec.attempt_eq_panic, Exec.get_bind_run] at undone
          simp only [present, Exec.okOr_some, Exec.pure_bind_run] at undone
          exact AddressSpace.unmap_returns vaddr counted (Exec.zoom_eq_panic.1 undone)
        cases ran : (onKernel (KernelState.rollback accepted.asId vaddr) :
            Exec (Machine μ) SyscallError Unit) { machine with hw } with
        | ok value later => simp
        | err error later => simp
        | panic => exact absurd ran returns
      · have length := fits.length
        have used := fits.used
        have few : consumed ≤ machine.kernel.mapPoolLen - machine.kernel.mapPoolUsed := by
          rcases taken with all | few
          · exact absurd all failed
          · exact few
        have room : machine.kernel.mapPoolUsed + consumed ≤ u32Max := by omega
        rw [if_neg failed]
        simp [onKernel, Exec.zoom, Exec.bind_run, KernelState.mapPoolAdvance, Exec.ensure,
          room]

/-- `Map` panics exactly if its overlap check does. -/
theorem doMap_panic_iff (within : hal.WithinPool) {machine : Machine μ}
    (fits : machine.kernel.PoolFits) (pageTable frame : CapId) (vaddr : Nat)
    (perms : MapPermissions) :
    doMap hal caller pageTable frame vaddr perms machine = .panic ↔
      machine.kernel.MapHitsTop caller pageTable frame vaddr perms := by
  rw [← KernelState.mapSoftware_panic_iff]
  unfold doMap
  rw [Exec.bind_run]
  rcases KernelState.mapSoftware_spec caller pageTable frame vaddr perms machine.kernel with
    ⟨error, failed⟩ | panicked |
      ⟨csId, asId, held, phys, space, later, _, _, _, _, present, added, ran⟩
  · simp [onKernel, Exec.zoom, failed]
  · simp [onKernel, Exec.zoom, panicked]
  · have stored : (machine.kernel.putAddrSpace asId later).addrSpaces.get? asId =
        some later := Slab.get?_put_self (Slab.lt_of_get? present) later
    have counted : 0 < later.count := by
      obtain ⟨_, _, _, rfl⟩ := (AddressSpace.map_ok added).stored
      exact Nat.succ_pos _
    have mappedFits : (machine.kernel.putAddrSpace asId later).PoolFits :=
      fits.of_same ⟨rfl, rfl, rfl⟩
    have returns := @mapHardware_returns _ hal within
      { asId, rootPhys := later.rootPhys, framePhys := phys } vaddr perms
      { machine with kernel := machine.kernel.putAddrSpace asId later } later
      stored counted mappedFits
    refine iff_of_false ?_ (by simp [ran])
    simp only [onKernel, Exec.zoom, ran, Exec.get_bind_run]
    split
    · exact Exec.bind_pure_returns returns
    · simp

/-- A program on the kernel state that returns. -/
theorem onKernel_returns {α : Type} {program : Exec KernelState SyscallError α}
    {machine : Machine μ} (returns : program machine.kernel ≠ .panic) :
    onKernel program machine ≠ .panic :=
  fun panicked => returns (Exec.zoom_eq_panic.1 panicked)

/-- The call is a `Map` that comes to the top of the address space. -/
def HitsTop (machine : Machine μ) (caller : ThreadId) : SyscallOp → Prop
  | .map pageTable frame vaddr perms =>
      machine.kernel.MapHitsTop caller pageTable frame vaddr perms
  | _ => False

/-- A syscall panics exactly if it is a `Map` that comes to the top. -/
theorem dispatch_panic_iff (within : hal.WithinPool) {machine : Machine μ}
    (named : machine.kernel.Named) (fits : machine.kernel.PoolFits) (caller : ThreadId)
    (nowNs : Nat) (op : SyscallOp) :
    dispatch hal caller nowNs op machine = .panic ↔ machine.HitsTop caller op := by
  cases op with
  | map pageTable frame vaddr perms => exact doMap_panic_iff hal within fits ..
  | yield =>
      refine iff_of_false (onKernel_returns ?_) id
      simp
  | capRevoke cap =>
      exact iff_of_false (onKernel_returns (KernelState.doCapRevoke_returns named caller cap)) id
  | capGrant targetThread cap rights =>
      exact iff_of_false (onKernel_returns
        (KernelState.doCapGrant_returns named caller targetThread cap rights)) id
  | retype untyped targetType count =>
      refine iff_of_false (onKernel_returns ?_) id
      rcases KernelState.doRetype_cases named caller untyped targetType count with
        ⟨_, error, ran⟩ | ⟨_, _, result, later, ran⟩ | ⟨_, _, error, later, ran, _⟩
      · simp [ran]
      · simp [ran]
      · simp [ran]
  | send endpoint msg =>
      exact iff_of_false
        (onKernel_returns (KernelState.doSend_total caller endpoint msg false nowNs _)) id
  | call endpoint msg =>
      exact iff_of_false
        (onKernel_returns (KernelState.doSend_total caller endpoint msg true nowNs _)) id
  | recv endpoint =>
      exact iff_of_false
        (onKernel_returns (KernelState.doRecv_total caller endpoint nowNs _)) id
  | reply toThread msg =>
      exact iff_of_false
        (onKernel_returns (KernelState.doReply_total caller toThread msg nowNs _)) id
  | signal notification bits =>
      exact iff_of_false
        (onKernel_returns (KernelState.doSignal_total caller notification bits nowNs _)) id
  | wait notification =>
      exact iff_of_false
        (onKernel_returns (KernelState.doWait_total caller notification nowNs _)) id
  | poll notification =>
      exact iff_of_false
        (onKernel_returns (KernelState.doPoll_total caller notification _)) id
  | irqBind mmio notification handler =>
      refine iff_of_false ?_ id
      change doIrqBind hal caller mmio notification handler machine ≠ .panic
      unfold doIrqBind
      rw [Exec.get_bind_run]
      refine (Exec.Reads.ofExcept _).bind_returns (Exec.Total.ofExcept _) fun mmioCap _ => ?_
      refine (Exec.Reads.okOr _ _).bind_returns (Exec.Total.okOr _ _) fun descriptor _ => ?_
      refine (Exec.Reads.ofExcept _).bind_returns (Exec.Total.ofExcept _) fun target _ => ?_
      refine Exec.Total.bind (Exec.Total.modify _) (fun _ => ?_) machine
      refine (Exec.Total.guard _ _).bind fun _ => (Exec.Total.modify _).bind fun _ => ?_
      exact (Exec.Total.guard _ _).bind fun _ => Exec.Total.pure _

/-! ## Runs -/

/-- A syscall takes no more frames than the pool has. -/
theorem dispatch_poolFits (within : hal.WithinPool) {op : SyscallOp}
    {before after : Machine μ} (fits : before.kernel.PoolFits)
    (ended : (dispatch hal caller nowNs op before).state? = some after) :
    after.kernel.PoolFits := by
  by_cases isMap : ∃ pageTable frame vaddr perms, op = .map pageTable frame vaddr perms
  · obtain ⟨pageTable, frame, vaddr, perms, rfl⟩ := isMap
    have ends := @doMap_ends _ hal caller pageTable frame vaddr perms before
    have effect : MapEffect hal caller pageTable frame vaddr perms before after := by
      change (doMap hal caller pageTable frame vaddr perms before).state? = _ at ended
      cases ran : doMap hal caller pageTable frame vaddr perms before with
      | ok result final =>
          rw [ran] at ends ended
          exact Option.some.inj ended ▸ ends.2
      | err error final =>
          rw [ran] at ends ended
          exact Option.some.inj ended ▸ ends.2
      | panic => simp [ran] at ended
    cases effect with
    | refused => exact fits
    | accepted holds frameHeld allowed resolved present added walked =>
        rcases walked with ⟨_, rfl⟩ | ⟨poolBase, poolLen, consumed, hw, _, remaining, walk,
          ⟨_, left, _, rfl⟩ | ⟨succeeded, rfl⟩⟩
        · exact fits.of_same ⟨rfl, rfl, rfl⟩
        · exact fits.of_same ⟨rfl, rfl, rfl⟩
        · have taken := within _ _ _ _ _ _ _ _ |>.imp (walk ▸ ·) (walk ▸ ·)
          rw [fits.remaining, Option.some.injEq, Prod.mk.injEq] at remaining
          have used := fits.used
          refine ⟨fits.inside, fits.length, ?_⟩
          change before.kernel.mapPoolUsed + consumed ≤ before.kernel.mapPoolLen
          rcases taken with all | few
          · exact absurd all succeeded
          · have few : consumed ≤ poolLen := few
            omega
  · obtain ⟨next, effect⟩ := dispatch_effect hal ended
    by_cases isRetype : ∃ untyped targetType count, op = .retype untyped targetType count
    · obtain ⟨untyped, targetType, count, rfl⟩ := isRetype
      rcases effect.retype_cases with
        ⟨_, same⟩ | ⟨csId, uid, region, grant, later, _, _, _, _, created, _⟩
      · exact same ▸ fits
      · exact fits.of_same (by rw [created.frame]; exact ⟨rfl, rfl, rfl⟩)
    · have same := effect.sameMemory
        (fun _ _ _ isOp => isRetype ⟨_, _, _, isOp⟩) fun _ _ _ _ isOp => isMap ⟨_, _, _, _, isOp⟩
      exact fits.of_same same.pool

theorem step_poolFits (within : hal.WithinPool) {event : KernelEvent}
    {before after : Machine μ} (fits : before.kernel.PoolFits)
    (taken : (system hal).Step before event after) : after.kernel.PoolFits := by
  have moves := step_moves hal taken
  cases event with
  | syscall caller op nowNs =>
      change (perform hal (.syscall caller op nowNs) before).state? = some after at taken
      rcases Exec.bind_state.1 taken with ⟨error, failed⟩ | ⟨result, middle, ran, rest⟩
      · exact dispatch_poolFits hal within fits (by rw [failed]; rfl)
      · have reached : (dispatch hal caller nowNs op before).state? = some middle := by
          rw [ran]
          rfl
        have later := dispatch_poolFits hal within fits reached
        have ended := (onKernel_state rest).1
        rw [commit_run] at ended
        rw [← Option.some.inj ended]
        cases result.next with
        | none => exact later
        | some next => exact later.of_same ⟨rfl, rfl, rfl⟩
  | tick => exact fits.of_same (moves_pool moves rfl)
  | initUserThread => exact fits.of_same (moves_pool moves rfl)
  | startThread => exact fits.of_same (moves_pool moves rfl)
  | terminate => exact fits.of_same (moves_pool moves rfl)
  | terminateAndHandoff => exact fits.of_same (moves_pool moves rfl)
  | carve => exact fits.of_same (moves_pool moves rfl)
  | spawn => exact fits.of_same (moves_pool moves rfl)
  | grantCapInto => exact fits.of_same (moves_pool moves rfl)
where
  /-- What is no syscall leaves the pool alone. -/
  moves_pool {event : KernelEvent} {before after : KernelState}
      (moves : Moves before event after) (notSyscall : event.isSyscall = false) :
      after.mapPoolBase = before.mapPoolBase ∧ after.mapPoolLen = before.mapPoolLen ∧
        after.mapPoolUsed = before.mapPoolUsed := by
    cases moves with
    | ticked chosen => exact ⟨rfl, rfl, rfl⟩
    | called effect => simp [KernelEvent.isSyscall] at notSyscall
    | started isStart =>
        rw [KernelState.updateTcb_frame]
        exact ⟨rfl, rfl, rfl⟩
    | killed isKill chosen =>
        rw [KernelState.exited, KernelState.updateTcb_frame]
        exact ⟨rfl, rfl, rfl⟩
    | spawned isSpawn spawns =>
        rw [spawns.frame]
        exact ⟨rfl, rfl, rfl⟩
    | grantedInto chosen => exact ⟨rfl, rfl, rfl⟩

theorem poolFits_of_run (within : hal.WithinPool) {start machine : Machine μ}
    (pool : start.kernel.PoolFits)
    (run : (system hal).Reaches TransitionSystem.anyStep start machine) :
    machine.kernel.PoolFits :=
  run.invariant pool fun _ _ _ _ fits taken => step_poolFits hal within fits taken

/-- Queues, counts, run times and addresses are within their types, and so is
everything that accounting at `nowNs` computes from them. -/
structure InRange (machine : Machine μ) (caller : ThreadId) (nowNs : Nat)
    (op : SyscallOp) : Prop where
  bounded : machine.kernel.Bounded
  pool : machine.kernel.PoolFits
  charges : nowNs < 0x10000000000000000 → ∀ thread entity,
    machine.kernel.sched.entity thread = some entity →
      entity.ChargeFits (nowNs - machine.kernel.sched.runningSinceNs)
  pages : ∀ grant phys, machine.kernel.reserves caller op = some grant → grant.Page phys →
    phys < 0x10000000000000000

/-- Numbers that fit in a state make for numbers that fit in the next call. -/
theorem InRange.of_bounded {machine : Machine μ} (bounded : machine.kernel.Bounded)
    (pool : machine.kernel.PoolFits) (caller : ThreadId) (nowNs : Nat) (op : SyscallOp) :
    machine.InRange caller nowNs op where
  bounded := bounded
  pool := pool
  charges := by
    intro word thread entity present
    exact (bounded.sched thread entity present).charge (by omega)
  pages := by
    intro grant phys reserved page
    cases op with
    | retype untyped targetType count =>
        obtain ⟨region, _, reserved⟩ := Option.bind_eq_some_iff.1 reserved
        obtain ⟨later, ran⟩ := Outcome.eq_ok_of_value? reserved
        have room := UntypedMemory.retype_isOk_iff.1 ⟨grant, later, ran⟩
        obtain ⟨_, _, grants⟩ := UntypedMemory.retype_ok ran
        obtain ⟨_, upper⟩ := page.within grants.length
        have upper : phys + pageSize ≤ grant.physBase + grant.physLen := upper
        have watermark := grants.watermark
        have inside := grants.inside
        have sameBase := grants.base
        have sameSize := grants.sizeBytes
        have fits := room.2.1
        have positive : 0 < pageSize := by decide
        omega
    | _ => simp [KernelState.reserves] at reserved

/-- In every run a syscall stays within its types and returns, exactly if it is not
a `Map` that comes to the top of the address space. -/
theorem dispatch_returns_iff (within : hal.WithinPool) {start machine : Machine μ}
    (boots : start.Boots) (pool : start.kernel.PoolFits)
    (run : (system hal).Reaches TransitionSystem.anyStep start machine) (caller : ThreadId)
    (nowNs : Nat) (op : SyscallOp) :
    (machine.InRange caller nowNs op ∧ dispatch hal caller nowNs op machine ≠ .panic) ↔
      ¬ machine.HitsTop caller op := by
  have reachable : (system hal).Reachable TransitionSystem.anyStep machine :=
    ⟨start, boots, run⟩
  have bounded := bounded_of_reachable hal reachable
  have fits := poolFits_of_run hal within pool run
  have panics := dispatch_panic_iff hal within (named_of_reachable hal reachable) fits caller
    nowNs op
  constructor
  · rintro ⟨_, returns⟩ hits
    exact returns (panics.2 hits)
  · intro below
    exact ⟨.of_bounded bounded fits caller nowNs op, fun panicked => below (panics.1 panicked)⟩

theorem sampleHal_withinPool : sampleHal.WithinPool :=
  fun _ _ _ _ _ _ _ _ => Or.inr (Nat.zero_le _)

theorem sampleMachine_poolFits : sampleMachine.kernel.PoolFits := by
  obtain ⟨base, length, used⟩ := sampleKernel_fromBootInfo.booted.mapPool
  change sampleKernel.PoolFits
  exact ⟨by rw [base, length]; decide, by rw [length]; decide, by rw [length, used]⟩

theorem dispatch_returns_iff_sample :
    (sampleMachine.InRange 0 1 (.map 1 0 0x1000 ⟨true, true, false, false⟩) ∧
        dispatch sampleHal 0 1 (.map 1 0 0x1000 ⟨true, true, false, false⟩) sampleMachine ≠
          .panic) ↔
      ¬ sampleMachine.HitsTop 0 (.map 1 0 0x1000 ⟨true, true, false, false⟩) :=
  dispatch_returns_iff sampleHal sampleHal_withinPool sampleMachine_boots
    sampleMachine_poolFits (.refl _) 0 1 _

/-- The last page is mapped, then mapped once more. -/
theorem map_panics_at_top :
    ¬ ∀ (machine : Machine Unit) (caller : ThreadId) (nowNs : Nat) (op : SyscallOp),
      (system sampleHal).Reachable TransitionSystem.anyStep machine →
        dispatch sampleHal caller nowNs op machine ≠ .panic := by
  intro claimed
  have ran :
      (next sampleHal sampleMachine
        (.syscall 0 (.map 1 0 0xFFFFFFFFFFFFF000 ⟨true, true, false, false⟩) 1)).map
          (fun machine => (dispatch sampleHal 0 2
            (.map 1 0 0xFFFFFFFFFFFFF000 ⟨true, true, false, false⟩) machine).state?.isNone) =
        some true := by
    decide +kernel
  obtain ⟨machine, taken, panicked⟩ := Option.map_eq_some_iff.1 ran
  have reachable : (system sampleHal).Reachable TransitionSystem.anyStep machine :=
    ⟨sampleMachine, sampleMachine_boots, (TransitionSystem.Reaches.refl _).step trivial taken⟩
  have returns := claimed machine 0 2
    (.map 1 0 0xFFFFFFFFFFFFF000 ⟨true, true, false, false⟩) reachable
  generalize dispatch sampleHal 0 2
    (.map 1 0 0xFFFFFFFFFFFFF000 ⟨true, true, false, false⟩) machine = outcome
    at panicked returns
  cases outcome with
  | ok result final => simp at panicked
  | err error final => simp at panicked
  | panic => exact returns rfl

end Machine

end Simurgh
