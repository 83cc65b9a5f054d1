import Simurgh.Core.Blocking

/-!
# Integrity

What a syscall may change, given what the caller's capability space holds.  Every
change of an existing object is traced to the capability that allowed it.  Threads
are the exception: an IPC partner and the target of a `Reply` are not named by a
capability.
-/

namespace Simurgh

/-- The syscall waits at an endpoint when it finds no partner there. -/
def SyscallOp.usesEndpoint : SyscallOp → Bool
  | .send _ _ | .call _ _ | .recv _ => true
  | _ => false

namespace KernelState

/-! ## Changes -/

/-- What a syscall can change.  A binding is named with what it becomes. -/
inductive Part where
  | endpoint (eid : EndpointId)
  | notification (nid : NotificationId)
  | untyped (uid : UntypedId)
  | addrSpace (asId : PageTableId)
  | irqBinding (entry : Nat) (becomes : Option (Nat × NotificationId))
  | slot (id : GlobalCapId)
  | sharedRegion (id : SharedRegionId)
  | mmioRegion (id : MmioRegionId)
  | thread (tid : ThreadId)

/-- Something is there before and is not the same afterwards. -/
def Changes {α : Type} (before after : Option α) : Prop :=
  ∃ object, before = some object ∧ after ≠ some object

theorem not_changes_of_eq {α : Type} {before after : Option α} (same : after = before) :
    ¬ Changes before after := by
  rintro ⟨object, present, changed⟩
  exact changed (same.trans present)

/-- The part existed and its contents are different afterwards. -/
def Changed (before after : KernelState) : Part → Prop
  | .endpoint eid => Changes (before.endpoints.get? eid) (after.endpoints.get? eid)
  | .notification nid =>
      Changes (before.notifications.get? nid) (after.notifications.get? nid)
  | .untyped uid => Changes (before.untyped.get? uid) (after.untyped.get? uid)
  | .addrSpace asId => Changes (before.addrSpaces.get? asId) (after.addrSpaces.get? asId)
  | .irqBinding entry becomes =>
      Changes (before.irqBindings.get? entry) becomes ∧
        after.irqBindings.get? entry = becomes
  | .slot id => Changes (before.capSpaces.slotAt id) (after.capSpaces.slotAt id)
  | .sharedRegion id => Changes (before.sharedRegions.get? id) (after.sharedRegions.get? id)
  | .mmioRegion id => Changes (before.mmioRegions.get? id) (after.mmioRegions.get? id)
  | .thread tid => Changes (before.tcb tid) (after.tcb tid)

/-! ## Authority -/

/-- The changes that a syscall of the caller is allowed to make. -/
inductive Authorized (before : KernelState) (caller : ThreadId) :
    SyscallOp → Part → Prop where
  | send {csId cap msg eid} (holds : before.Holds caller csId cap .endpoint .write eid) :
      Authorized before caller (.send cap msg) (.endpoint eid)
  | call {csId cap msg eid} (holds : before.Holds caller csId cap .endpoint .write eid) :
      Authorized before caller (.call cap msg) (.endpoint eid)
  | recv {csId cap eid} (holds : before.Holds caller csId cap .endpoint .read eid) :
      Authorized before caller (.recv cap) (.endpoint eid)
  | signal {csId cap bits nid}
      (holds : before.Holds caller csId cap .notification .write nid) :
      Authorized before caller (.signal cap bits) (.notification nid)
  | wait {csId cap nid} (holds : before.Holds caller csId cap .notification .read nid) :
      Authorized before caller (.wait cap) (.notification nid)
  | poll {csId cap nid} (holds : before.Holds caller csId cap .notification .read nid) :
      Authorized before caller (.poll cap) (.notification nid)
  | retype {csId cap targetType count uid}
      (holds : before.Holds caller csId cap .untypedMemory .write uid) :
      Authorized before caller (.retype cap targetType count) (.untyped uid)
  | map {csId cap frame vaddr perms asId}
      (holds : before.Holds caller csId cap .pageTable .write asId) :
      Authorized before caller (.map cap frame vaddr perms) (.addrSpace asId)
  | irqBind {csId mmio notification handler mid descriptor nid entry old}
      (region : before.Holds caller csId mmio .mmioRegion .write mid)
      (found : before.mmioRegion mid = some descriptor)
      (target : before.Holds caller csId notification .notification .write nid)
      (line : before.irqBindings.get? entry = some (descriptor.irq, old)) :
      Authorized before caller (.irqBind mmio notification handler)
        (.irqBinding entry (some (descriptor.irq, nid)))
  | grant {csId targetThread cap rights tid dstTcb kind oid id}
      (target : before.Holds caller csId targetThread .threadControlBlock .write tid)
      (found : before.tcb tid = some dstTcb)
      (source : before.Holds caller csId cap kind .grant oid)
      (inSpace : id.space = dstTcb.capSpace) :
      Authorized before caller (.capGrant targetThread cap rights) (.slot id)
  | revoke {csId cap kind oid id}
      (holds : before.Holds caller csId cap kind .revoke oid)
      (below : id = { space := csId, cap } ∨
        Ancestor before.capSpaces.parentOf id { space := csId, cap }) :
      Authorized before caller (.capRevoke cap) (.slot id)
  | newCap {csId cap targetType count uid id}
      (holds : before.Holds caller csId cap .untypedMemory .write uid)
      (own : id.space = csId) :
      Authorized before caller (.retype cap targetType count) (.slot id)
  | self {op} (isIpc : op.usesEndpoint = true) :
      Authorized before caller op (.thread caller)
  | partner {op tid} (met : before.partner caller op = some tid) :
      Authorized before caller op (.thread tid)
  | reply {toThread msg} (awaits : before.isBlockedOnReply toThread = true) :
      Authorized before caller (.reply toThread msg) (.thread toThread)

/-! ## Which parts an update changes -/

section Updates

variable {before middle after : KernelState} {part : Part}

theorem eq_of_changes_put {α : Type} {n : Nat} {table : Slab α n} {id other : Nat}
    {object : α} (changes : Changes (table.get? other) ((table.put id object).get? other)) :
    other = id := by
  by_contra ne
  exact not_changes_of_eq (Slab.get?_put_of_ne (Ne.symm ne) object) changes

/-- A binding that stays is not changed. -/
theorem not_changed_binding {entry : Nat} {becomes : Option (Nat × NotificationId)}
    (same : after.irqBindings = before.irqBindings) :
    ¬ Changed before after (.irqBinding entry becomes) := by
  rintro ⟨changes, present⟩
  rw [same] at present
  exact not_changes_of_eq present.symm changes

theorem not_changed_self (state : KernelState) : ¬ Changed state state part := by
  cases part with
  | irqBinding entry becomes => exact not_changed_binding rfl
  | _ => exact not_changes_of_eq rfl

/-- The scheduler and the pool of page-table frames are no part. -/
theorem Changed.of_sched {sched : KScheduler} {used : Nat}
    (changed : Changed before { after with sched, mapPoolUsed := used } part) :
    Changed before after part := by
  cases part with
  | _ => exact changed

theorem changed_putEndpoint {eid : EndpointId} {endpoint : KEndpoint}
    (changed : Changed before (before.putEndpoint eid endpoint) part) :
    part = .endpoint eid := by
  cases part with
  | endpoint other => rw [show other = eid from eq_of_changes_put changed]
  | irqBinding entry becomes => exact absurd changed (not_changed_binding rfl)
  | _ => exact absurd changed (not_changes_of_eq rfl)

theorem changed_putNotification {nid : NotificationId} {notification : KNotification}
    (changed : Changed before (before.putNotification nid notification) part) :
    part = .notification nid := by
  cases part with
  | notification other => rw [show other = nid from eq_of_changes_put changed]
  | irqBinding entry becomes => exact absurd changed (not_changed_binding rfl)
  | _ => exact absurd changed (not_changes_of_eq rfl)

theorem changed_putAddrSpace {asId : PageTableId} {space : RootAddressSpace}
    (changed : Changed before (before.putAddrSpace asId space) part) :
    part = .addrSpace asId := by
  cases part with
  | addrSpace other => rw [show other = asId from eq_of_changes_put changed]
  | irqBinding entry becomes => exact absurd changed (not_changed_binding rfl)
  | _ => exact absurd changed (not_changes_of_eq rfl)

theorem changed_capSpaces {tables : CapTables capSlotsPerSpace maxCapSpaces}
    (changed : Changed before { before with capSpaces := tables } part) :
    ∃ id, part = .slot id ∧ tables.slotAt id ≠ before.capSpaces.slotAt id := by
  cases part with
  | slot id => exact ⟨id, rfl, fun same => not_changes_of_eq same changed⟩
  | irqBinding entry becomes => exact absurd changed (not_changed_binding rfl)
  | _ => exact absurd changed (not_changes_of_eq rfl)

/-- Binding a line overwrites the entry of this line, if there is one. -/
theorem changed_bindIrq {irq : Nat} {nid : NotificationId}
    (changed : Changed before (before.bindIrq irq nid).2 part) :
    ∃ entry old, part = .irqBinding entry (some (irq, nid)) ∧
      before.irqBindings.get? entry = some (irq, old) := by
  have only : ∃ entry becomes, part = .irqBinding entry becomes := by
    rw [bindIrq_frame] at changed
    cases part with
    | irqBinding entry becomes => exact ⟨entry, becomes, rfl⟩
    | _ => exact absurd changed (not_changes_of_eq rfl)
  obtain ⟨entry, becomes, rfl⟩ := only
  obtain ⟨⟨binding, there, ne⟩, stored⟩ := changed
  unfold bindIrq at stored
  cases found : before.irqBindings.find? fun binding => binding.1 == irq with
  | some line =>
      obtain ⟨slot, old⟩ := line
      obtain ⟨present, sameLine⟩ := Slab.find?_spec found
      simp only [found] at stored
      rw [Slab.get?_put_of_some present] at stored
      by_cases here : slot = entry
      · rw [if_pos here] at stored
        subst here
        have line : old.1 = irq := by simpa using sameLine
        exact ⟨slot, old.2, by rw [stored], by rw [present, ← line]⟩
      · rw [if_neg here, there] at stored
        exact absurd stored.symm ne
  | none =>
      simp only [found] at stored
      cases inserted : before.irqBindings.insert fun _ => (irq, nid) with
      | none =>
          simp only [inserted] at stored
          exact absurd (stored.symm.trans there) ne
      | some created =>
          simp only [inserted] at stored
          rw [Slab.get?_of_insert_of_some inserted there] at stored
          exact absurd stored.symm ne

/-! ## Threads -/

/-- Nothing changes but the scheduler and the records of `threads`. -/
structure OnlyThreads (threads : List ThreadId) (before after : KernelState) : Prop where
  frame : after = { before with tcbs := after.tcbs, sched := after.sched }
  others : ∀ tid, tid ∉ threads → after.tcb tid = before.tcb tid

theorem onlyThreads_updateTcb (tid : ThreadId) (update : Tcb → Tcb) (state : KernelState)
    (sched : KScheduler) :
    OnlyThreads [tid] state { state.updateTcb tid update with sched } where
  frame := by
    rw [updateTcb_frame]
  others := by
    intro other absent
    have ne : other ≠ tid := by simpa using absent
    exact (tcb_updateTcb ..).trans (if_neg ne)

theorem onlyThreads_block (thread : ThreadId) (blocked : ThreadState)
    (state : KernelState) : OnlyThreads [thread] state (state.block thread blocked) :=
  onlyThreads_updateTcb ..

theorem onlyThreads_handOver (receiver sender : ThreadId) (msg : SmallMessage)
    (nowNs : Nat) (state : KernelState) :
    OnlyThreads [receiver] state (state.handOver receiver sender msg nowNs) :=
  onlyThreads_updateTcb ..

theorem onlyThreads_release (sender : ThreadId) (nowNs : Nat) (state : KernelState) :
    OnlyThreads [sender] state (state.release sender nowNs) :=
  onlyThreads_updateTcb ..

theorem onlyThreads_storeReply (toThread : ThreadId) (msg : SmallMessage)
    (state : KernelState) : OnlyThreads [toThread] state (state.storeReply toThread msg) :=
  onlyThreads_updateTcb ..

theorem OnlyThreads.trans {first second : List ThreadId}
    (left : OnlyThreads first before middle) (right : OnlyThreads second middle after) :
    OnlyThreads (first ++ second) before after where
  frame := by
    rw [right.frame, left.frame]
  others := by
    intro tid absent
    rw [List.mem_append, not_or] at absent
    rw [right.others tid absent.2, left.others tid absent.1]

/-- A changed part was changed before, or is one of the threads. -/
theorem OnlyThreads.changed {threads : List ThreadId}
    (only : OnlyThreads threads middle after) (changed : Changed before after part) :
    Changed before middle part ∨ ∃ tid ∈ threads, part = .thread tid := by
  cases part with
  | thread tid =>
      by_cases listed : tid ∈ threads
      · exact Or.inr ⟨tid, listed, rfl⟩
      · have same := only.others tid listed
        change Changes (before.tcb tid) (after.tcb tid) at changed
        rw [same] at changed
        exact Or.inl changed
  | _ =>
      rw [only.frame] at changed
      exact Or.inl changed

end Updates

/-! ## The effects are authorized -/

/-- The creation loop changes nothing that was there but the caller's own slots. -/
theorem Creates.changed {csId : CapSpaceId} {targetType : KernelObjectType}
    {grant : RetypeGrant} {uid : UntypedId} {region : UntypedMemory}
    {before after : KernelState} {part : Part}
    (creates : Creates csId targetType grant (before.putUntyped uid region) after)
    (changed : Changed before after part) :
    part = .untyped uid ∨ ∃ id, part = .slot id ∧ id.space = csId := by
  have grown : ∀ {α : Type} {n : Nat} {fresh : Nat → α → Prop} {old new : Slab α n}
      {id : Nat}, old.GrowsBy fresh new → ¬ Changes (old.get? id) (new.get? id) := by
    rintro α n fresh old new id grows ⟨object, present, ne⟩
    exact ne (grows.get?_of_some present)
  cases part with
  | untyped other =>
      by_cases same : other = uid
      · exact Or.inl (by rw [same])
      · have kept : (before.putUntyped uid region).untyped.get? other =
            before.untyped.get? other := Slab.get?_put_of_ne (Ne.symm same) region
        have still := @grown _ _ _ _ _ other creates.untyped
        rw [kept] at still
        exact absurd changed still
  | slot id =>
      by_cases own : id.space = csId
      · exact Or.inr ⟨id, rfl, own⟩
      · obtain ⟨slot, present, ne⟩ := changed
        rcases creates.spaces id.space own with same | ⟨absent, _⟩
        · exact absurd ((CapTables.slotAt_congr same).trans present) ne
        · have vacant : before.capSpaces.get? id.space = none := absent
          simp [CapTables.slotAt, vacant] at present
  | endpoint eid => exact absurd changed (grown creates.endpoints)
  | notification nid => exact absurd changed (grown creates.notifications)
  | addrSpace asId => exact absurd changed (grown creates.addrSpaces)
  | sharedRegion id => exact absurd changed (grown creates.sharedRegions)
  | thread tid => exact absurd changed (grown creates.tcbs)
  | irqBinding entry becomes =>
      exact absurd changed (not_changed_binding (by rw [creates.frame]; rfl))
  | mmioRegion id =>
      refine absurd changed (not_changes_of_eq ?_)
      rw [creates.frame]
      rfl

/-- An endpoint and threads: what IPC changes. -/
theorem OnlyThreads.authorized {caller : ThreadId} {op : SyscallOp}
    {threads : List ThreadId} {eid : EndpointId} {endpoint : KEndpoint}
    {before after : KernelState} {part : Part}
    (only : OnlyThreads threads (before.putEndpoint eid endpoint) after)
    (changed : Changed before after part)
    (queue : Authorized before caller op (.endpoint eid))
    (records : ∀ tid ∈ threads, Authorized before caller op (.thread tid)) :
    Authorized before caller op part := by
  rcases only.changed changed with inner | ⟨tid, listed, rfl⟩
  · rw [changed_putEndpoint inner]
    exact queue
  · exact records tid listed

/-- Whatever a syscall changes, it was authorized to change. -/
theorem Effect.authorized {caller : ThreadId} {nowNs : Nat} {op : SyscallOp}
    {next : Option ThreadId} {before after : KernelState} {part : Part}
    (effect : Effect caller nowNs before op next after)
    (changed : Changed before after part) : Authorized before caller op part := by
  cases effect with
  | unchanged => exact absurd changed (not_changed_self before)
  | yielded =>
      have same : Changed before before part := changed.of_sched
      exact absurd same (not_changed_self before)
  | @revoked csId cap kind oid tables holds ran =>
      obtain ⟨id, rfl, ne⟩ := changed_capSpaces changed
      exact .revoke holds (CapTables.revokeCrossSpace_frame ran ne)
  | granted target found source ne ran =>
      obtain ⟨id, rfl, differs⟩ := changed_capSpaces changed
      refine .grant target found source ?_
      by_contra outside
      exact differs (CapTables.slotAt_congr (CapTables.run_grant_frame ran outside))
  | retyped holds present reserved created newPages =>
      rcases created.changed changed with rfl | ⟨id, rfl, own⟩
      · exact .retype holds
      · exact .newCap holds own
  | mapped holds frameHeld allowed resolved present added used =>
      rw [changed_putAddrSpace changed.of_sched]
      exact .map holds
  | rolledBack holds frameHeld allowed resolved present added removed =>
      rw [changed_putAddrSpace changed]
      exact .map holds
  | sent holds present waiting =>
      refine (onlyThreads_handOver ..).authorized changed (.send holds) ?_
      simpa using .partner (holds.partner_receiver present waiting).1
  | @called csId endpoint msg eid ep receiver rest after next holds present waiting admitted
      final chosen =>
      subst final
      have delivered := onlyThreads_handOver receiver.thread caller msg nowNs
        (before.putEndpoint eid { ep with receivers := rest, pendingDelivery := none })
      refine (delivered.trans (onlyThreads_block ..)).authorized changed (.call holds) ?_
      intro tid listed
      rcases List.mem_pair.1 listed with rfl | rfl
      · exact .partner (holds.partner_receiver present waiting).2
      · exact .self rfl
  | callStuck holds present waiting absent =>
      refine (onlyThreads_handOver ..).authorized changed (.call holds) ?_
      simpa using .partner (holds.partner_receiver present waiting).2
  | @queued csId endpoint msg eid ep after next isCall op isSend holds present noReceiver
      final chosen =>
      have queue : Authorized before caller op (.endpoint eid) ∧ op.usesEndpoint = true := by
        cases isCall with
        | false => exact isSend ▸ ⟨.send holds, rfl⟩
        | true => exact isSend ▸ ⟨.call holds, rfl⟩
      subst final
      refine (onlyThreads_block ..).authorized changed queue.1 ?_
      simpa using .self queue.2
  | received holds present waiting =>
      refine (onlyThreads_release ..).authorized changed (.recv holds) ?_
      simpa using .partner (holds.partner_sender present waiting)
  | awaiting holds present noSender final chosen =>
      subst final
      refine (onlyThreads_block ..).authorized changed (.recv holds) ?_
      simpa using .self rfl
  | replied ne awaits admitted chosen =>
      rcases (onlyThreads_storeReply ..).changed changed.of_sched with
        same | ⟨tid, listed, rfl⟩
      · exact absurd same (not_changed_self before)
      · rw [List.mem_singleton.1 listed]
        exact .reply awaits
  | replyStuck ne awaits absent =>
      rcases (onlyThreads_storeReply ..).changed changed with same | ⟨tid, listed, rfl⟩
      · exact absurd same (not_changed_self before)
      · rw [List.mem_singleton.1 listed]
        exact .reply awaits
  | signalled holds present =>
      rw [changed_putNotification changed.of_sched]
      exact .signal holds
  | waiting holds present =>
      rw [changed_putNotification changed.of_sched]
      exact .wait holds
  | taken isRead holds present =>
      rw [changed_putNotification changed]
      rcases isRead with rfl | rfl
      · exact .wait holds
      · exact .poll holds
  | bound region found target =>
      obtain ⟨entry, old, rfl, line⟩ := changed_bindIrq changed
      exact .irqBind region found target line

end KernelState

/-! ## Runs of one syscall -/

namespace Machine

variable {μ : Type} (hal : HalInterface μ)

/-- Whatever `dispatch` changes, in any state and however it ends, the caller was
authorized to change by what its capability space held before the call. -/
theorem dispatch_integrity {caller : ThreadId} {nowNs : Nat} {op : SyscallOp}
    {before after : Machine μ} {part : KernelState.Part}
    (ended : (dispatch hal caller nowNs op before).state? = some after)
    (changed : KernelState.Changed before.kernel after.kernel part) :
    KernelState.Authorized before.kernel caller op part := by
  obtain ⟨next, effect⟩ := dispatch_effect hal ended
  exact effect.authorized changed

/-- Creating an endpoint moves the watermark of the region that pays for it. -/
theorem dispatch_integrity_sample :
    ∃ csId, sampleMachine.kernel.Holds 0 csId 0 .untypedMemory .write 0 := by
  have ran : ((dispatch sampleHal 0 1 (.retype 0 .endpoint 1) sampleMachine).state?).any
      (fun after => (sampleMachine.kernel.untyped.get? 0).any fun region =>
        after.kernel.untyped.get? 0 ≠ some region) := by
    decide +kernel
  obtain ⟨after, ended, moved⟩ := (Option.any_eq_true _ _).1 ran
  obtain ⟨region, present, ne⟩ := (Option.any_eq_true _ _).1 moved
  have authorized := @dispatch_integrity _ sampleHal 0 1 _ _ _ (.untyped 0) ended
    ⟨region, present, of_decide_eq_true ne⟩
  cases authorized with
  | retype holds => exact ⟨_, holds⟩

/-- No slot of the caller's space names the object. -/
def unnamed (kernel : KernelState) (caller : ThreadId) (object : ObjectRef) : Bool :=
  match kernel.callerCapSpace caller with
  | .error _ => true
  | .ok csId => (List.range capSlotsPerSpace).all fun cap =>
      (kernel.capSpaces.lookup { space := csId, cap }).all fun held => held.object ≠ object

theorem not_holds_of_unnamed {kernel : KernelState} {caller : ThreadId}
    {kind : KernelObjectKind} {id : ObjectId}
    (absent : unnamed kernel caller { kind, id } = true) {csId : CapSpaceId} {cap : CapId}
    {needed : CapabilityRights} : ¬ kernel.Holds caller csId cap kind needed id := by
  intro holds
  obtain ⟨held, found, object, _⟩ := holds.held
  obtain ⟨_, inside⟩ := CapTables.bounds_of_lookup found
  unfold unnamed at absent
  rw [holds.space] at absent
  have here := List.all_eq_true.1 absent cap (List.mem_range.2 inside)
  rw [found] at here
  simp [object] at here

/-- A reply changes the record of a thread that no capability of the caller names. -/
theorem reply_without_capability :
    ¬ ∀ (before after : Machine Unit) (caller : ThreadId) (nowNs : Nat) (op : SyscallOp)
        (tid : ThreadId),
      (system sampleHal).Reachable
        (fun machine event => machine.kernel.scheduled event = true) before →
      before.kernel.sched.running = some caller →
      (dispatch sampleHal caller nowNs op before).state? = some after →
      KernelState.Changed before.kernel after.kernel (.thread tid) →
      ∃ csId cap needed, before.kernel.Holds caller csId cap .threadControlBlock needed tid := by
  intro claimed
  have ran : (runWhile sampleHal (fun machine event => machine.kernel.scheduled event)
      callQueued sampleMachine).any (fun before =>
        before.kernel.sched.running = some 1 ∧
          unnamed before.kernel 1 { kind := .threadControlBlock, id := 0 } ∧
          ((dispatch sampleHal 1 5 (.reply 0 (.new 9)) before).state?).any fun after =>
            (before.kernel.tcb 0).any fun tcb => after.kernel.tcb 0 ≠ some tcb) := by
    decide +kernel
  obtain ⟨before, reached, continues⟩ := (Option.any_eq_true _ _).1 ran
  obtain ⟨runs, absent, continues⟩ := of_decide_eq_true continues
  obtain ⟨after, ended, continues⟩ := (Option.any_eq_true _ _).1 continues
  obtain ⟨tcb, present, ne⟩ := (Option.any_eq_true _ _).1 continues
  have run := reaches_runWhile sampleHal (.refl sampleMachine) reached
  obtain ⟨csId, cap, needed, holds⟩ := claimed before after 1 5 _ 0
    ⟨sampleMachine, sampleMachine_boots, run⟩ runs ended
    ⟨tcb, present, of_decide_eq_true ne⟩
  exact not_holds_of_unnamed absent holds

end Machine

end Simurgh
