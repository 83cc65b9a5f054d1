import Simurgh.Lib.CheckedRead
import Simurgh.Lib.Histories
import Simurgh.Subsystems.MemoryPolicy

/-!
# The replies of the memory service

The service takes one request after another and answers from its registries.  A thread, a
region or a pool with the highest number stands for nothing found, and the total is one sum
of 64 bits.  What a reply says is therefore compared with the requests that came before it.
Some requests allocate, and whether the allocator has the memory is told with each request.
-/

namespace Simurgh

open KeyedList

/-- `State`. -/
structure MemoryService where
  mem : List ProcMemInfo := []
  swap : List SwapRegion := []
  pools : List ComputePool := []
  deriving DecidableEq, Repr

/-- Total resident memory across registered processes. -/
def totalResident (checks : Bool) (procs : List ProcMemInfo) : Checked Nat :=
  Checked.sumOf 64 checks (procs.map fun p => p.residentBytes.toNat)

namespace MemoryService

/-- `u32::MAX`. -/
def nothingFound : UInt32 := 0xFFFFFFFF

/-- The response to a request that has the memory it needs. -/
def respond (checks : Bool) (state : MemoryService) :
    MmRequest → Checked (MmResponse × MemoryService)
  | .register thread residentBytes reclaim =>
      let info := ⟨thread, residentBytes, reclaim⟩
      .ok (.registered, { state with mem := MemRegistry.upsert state.mem info })
  | .unregister thread =>
      .ok (.unregistered, { state with mem := MemRegistry.remove state.mem thread })
  | .queryVictim => .ok (.victim ((chooseOomVictim state.mem).getD nothingFound), state)
  | .queryTotalResident => do
      let bytes ← totalResident checks state.mem
      return (.totalResident (.ofNat bytes), state)
  | .registerSwapRegion thread regionId bytes lastTouchedNs =>
      let region := ⟨thread, regionId, bytes, lastTouchedNs⟩
      .ok (.swapRegionRegistered, { state with swap := SwapRegistry.upsert state.swap region })
  | .unregisterSwapRegion thread regionId =>
      .ok (.swapRegionUnregistered,
        { state with swap := SwapRegistry.remove state.swap thread regionId })
  | .querySwapVictim =>
      match chooseSwapVictim state.swap with
      | some (thread, regionId) => .ok (.swapVictim thread regionId, state)
      | none => .ok (.swapVictim nothingFound nothingFound, state)
  | .registerComputePool poolId kind capacityBytes usedBytes =>
      let pool := ⟨poolId, kind, capacityBytes, usedBytes⟩
      .ok (.computePoolRegistered, { state with pools := PoolRegistry.upsert state.pools pool })
  | .queryComputePool bytes preferredKind =>
      .ok (.computePoolChosen
        ((chooseComputePool state.pools bytes preferredKind).getD nothingFound), state)

/-- Whether the request pushes an entry, or collects the pools of a kind. -/
def mayAllocate (state : MemoryService) : MmRequest → Bool
  | .register thread .. => state.mem.all fun p => p.thread != thread
  | .registerSwapRegion thread regionId .. => state.swap.all fun r => r.key != (thread, regionId)
  | .registerComputePool poolId .. => state.pools.all fun p => p.poolId != poolId
  | .queryComputePool _ (some kind) => state.pools.any fun p => p.kind == kind
  | _ => false

/-- Handles one request.  It panics if its allocation is not granted. -/
def handleRequest (checks granted : Bool) (state : MemoryService) (request : MmRequest) :
    Checked (MmResponse × MemoryService) := do
  Checked.allocate (granted || !mayAllocate state request)
  respond checks state request

/-- A request, and whether every allocation that it makes is granted. -/
structure MmCall where
  request : MmRequest
  granted : Bool
  deriving DecidableEq, Repr

/-- The loop of `subsystem_main`, after some requests.  The newest one comes first. -/
def serve (checks : Bool) : List MmCall → Checked MemoryService
  | [] => .ok {}
  | call :: older => do
      let state ← serve checks older
      let (_, later) ← handleRequest checks call.granted state call.request
      return later

def requests (calls : List MmCall) : List MmRequest := calls.map MmCall.request

/-! ## What was registered -/

/-- The calls on the registry of processes. -/
def memCall : MmRequest → Option (Call ProcMemInfo UInt32)
  | .register thread residentBytes reclaim => some (.upsert ⟨thread, residentBytes, reclaim⟩)
  | .unregister thread => some (.remove thread)
  | _ => none

/-- The calls on the registry of regions. -/
def swapCall : MmRequest → Option (Call SwapRegion (UInt32 × UInt32))
  | .registerSwapRegion thread regionId bytes lastTouchedNs =>
      some (.upsert ⟨thread, regionId, bytes, lastTouchedNs⟩)
  | .unregisterSwapRegion thread regionId => some (.remove (thread, regionId))
  | _ => none

def registeredPool : MmRequest → Option ComputePool
  | .registerComputePool poolId kind capacityBytes usedBytes =>
      some ⟨poolId, kind, capacityBytes, usedBytes⟩
  | _ => none

def memCalls (requests : List MmRequest) : History ProcMemInfo UInt32 :=
  requests.filterMap memCall

def swapCalls (requests : List MmRequest) : History SwapRegion (UInt32 × UInt32) :=
  requests.filterMap swapCall

def registeredPools (requests : List MmRequest) : List ComputePool :=
  requests.filterMap registeredPool

def poolCalls (requests : List MmRequest) : History ComputePool UInt32 :=
  (registeredPools requests).map .upsert

/-- The bytes last registered by each thread that was not unregistered since. -/
noncomputable def residentTotal (requests : List MmRequest) : Nat :=
  total ProcMemInfo.thread (fun p => p.residentBytes.toNat) (memCalls requests)

/-- What the reply to a request has to say after the requests before it. -/
def Answers (older : List MmRequest) : MmRequest → MmResponse → Prop
  | .register .., response => response = .registered
  | .unregister _, response => response = .unregistered
  | .queryVictim, response =>
      ∃ thread, response = .victim thread ∧
        Names ProcMemInfo.thread (memCalls older) (fun _ => True) nothingFound thread
  | .queryTotalResident, response =>
      if residentTotal older < 2 ^ 64 then
        ∃ bytes, response = .totalResident bytes ∧ bytes.toNat = residentTotal older
      else ∃ code, response = .error code
  | .registerSwapRegion .., response => response = .swapRegionRegistered
  | .unregisterSwapRegion .., response => response = .swapRegionUnregistered
  | .querySwapVictim, response =>
      ∃ thread regionId, response = .swapVictim thread regionId ∧
        Names SwapRegion.key (swapCalls older) (fun _ => True) (nothingFound, nothingFound)
          (thread, regionId)
  | .registerComputePool .., response => response = .computePoolRegistered
  | .queryComputePool bytes _, response =>
      ∃ poolId, response = .computePoolChosen poolId ∧
        Names ComputePool.poolId (poolCalls older) (fun pool => bytes.toNat ≤ pool.freeBytes)
          nothingFound poolId

/-- The service answers the request, and answers it right. -/
def Answered (checks : Bool) (older : List MmCall) (call : MmCall) : Prop :=
  ∃ state response later, serve checks older = .ok state ∧
    handleRequest checks call.granted state call.request = .ok (response, later) ∧
      Answers (requests older) call.request response

/-- The total fits, or what goes before all others is not what stands for nothing. -/
def Unambiguous (older : List MmRequest) : MmRequest → Prop
  | .queryVictim =>
      ¬ Chooses ProcMemInfo.thread ProcMemInfo.rank (memCalls older) (fun _ => True)
        (some nothingFound)
  | .queryTotalResident => residentTotal older < 2 ^ 64
  | .querySwapVictim =>
      ¬ Chooses SwapRegion.key SwapRegion.rank (swapCalls older) (fun _ => True)
        (some (nothingFound, nothingFound))
  | .queryComputePool bytes preferredKind =>
      ¬ Chooses ComputePool.poolId (ComputePool.rank preferredKind) (poolCalls older)
        (fun pool => bytes.toNat ≤ pool.freeBytes) (some nothingFound)
  | _ => True

/-! ## The registries after some requests -/

/-- The registries that the registrations lead to. -/
def after (requests : List MmRequest) : MemoryService where
  mem := MemRegistry.run (memCalls requests)
  swap := SwapRegistry.run (swapCalls requests)
  pools := PoolRegistry.run (registeredPools requests)

/-- The request gets the memory that it needs, and its reply is unambiguous. -/
def Sound (older : List MmCall) (call : MmCall) : Prop :=
  (mayAllocate (after (requests older)) call.request = true → call.granted = true) ∧
    Unambiguous (requests older) call.request

variable {checks granted : Bool} {older : List MmRequest} {request : MmRequest}
  {calls earlier : List MmCall} {call : MmCall} {state later : MemoryService}
  {response : MmResponse}

theorem respond_querySwapVictim (checks : Bool) (state : MemoryService) :
    respond checks state .querySwapVictim =
      .ok (.swapVictim ((chooseSwapVictim state.swap).getD (nothingFound, nothingFound)).1
        ((chooseSwapVictim state.swap).getD (nothingFound, nothingFound)).2, state) := by
  rw [respond]
  cases chooseSwapVictim state.swap with
  | none => rfl
  | some pair => rfl

/-- A request is answered if its memory is granted, as it is answered then. -/
theorem handleRequest_eq_ok :
    handleRequest checks granted state request = .ok (response, later) ↔
      (mayAllocate state request = true → granted = true) ∧
        respond checks state request = .ok (response, later) := by
  have supplied : (granted || !mayAllocate state request) = true ↔
      (mayAllocate state request = true → granted = true) := by
    cases granted <;> cases mayAllocate state request <;> decide
  rw [handleRequest, Checked.bind_eq_ok]
  constructor
  · rintro ⟨_, allocated, ran⟩
    exact ⟨supplied.1 (Checked.allocate_eq_ok.1 allocated), ran⟩
  · rintro ⟨needed, ran⟩
    exact ⟨(), Checked.allocate_eq_ok.2 (supplied.2 needed), ran⟩

/-- The registries follow the registrations. -/
theorem after_of_respond
    (ran : respond checks (after older) request = .ok (response, later)) :
    later = after (request :: older) := by
  cases request with
  | queryTotalResident =>
      obtain ⟨bytes, -, replied⟩ := Checked.bind_eq_ok.1 ran
      exact (Prod.mk.inj (Except.ok.inj replied)).2.symm
  | querySwapVictim =>
      rw [respond_querySwapVictim] at ran
      exact (Prod.mk.inj (Except.ok.inj ran)).2.symm
  | _ => exact (Prod.mk.inj (Except.ok.inj ran)).2.symm

/-- A run that went through is in the state that the registrations lead to. -/
theorem after_of_serve (ran : serve checks calls = .ok state) :
    state = after (requests calls) := by
  induction calls generalizing state with
  | nil => exact (Except.ok.inj ran).symm
  | cons call earlier ih =>
      obtain ⟨before, served, ran⟩ := Checked.bind_eq_ok.1 ran
      obtain ⟨⟨response, later⟩, handled, ran⟩ := Checked.bind_eq_ok.1 ran
      obtain rfl := Except.ok.inj ran
      rw [ih served] at handled
      exact after_of_respond (handleRequest_eq_ok.1 handled).2

/-! ## One request -/

theorem totalResident_after (checks : Bool) (older : List MmRequest) :
    totalResident checks (after older).mem =
      if residentTotal older < 2 ^ 64 then .ok (residentTotal older)
      else if checks then .error .overflow
      else .ok (residentTotal older % 2 ^ 64) := by
  rw [totalResident, Checked.sumOf_eq, residentTotal, total_eq_sum, after,
    MemRegistry.run_eq_entries]

/-- The reply that a request gets, when it gets one. -/
theorem exists_response (unambiguous : Unambiguous older request) :
    ∃ response later, respond checks (after older) request = .ok (response, later) ∧
      Answers older request response := by
  cases request with
  | queryVictim =>
      refine ⟨_, _, rfl, _, rfl, ?_⟩
      exact (MemRegistry.oomVictim_chooses (memCalls older)).names_iff.2 unambiguous
  | queryTotalResident =>
      have fits : residentTotal older < 2 ^ 64 := unambiguous
      have total := totalResident_after checks older
      rw [if_pos fits] at total
      refine ⟨.totalResident (.ofNat (residentTotal older)), after older, ?_, ?_⟩
      · rw [respond, Checked.bind_of_ok total]
        rfl
      · rw [Answers, if_pos fits]
        exact ⟨_, rfl, UInt64.toNat_ofNat_of_lt' fits⟩
  | querySwapVictim =>
      refine ⟨_, _, respond_querySwapVictim checks (after older), _, _, rfl, ?_⟩
      exact (SwapRegistry.swapVictim_chooses (swapCalls older)).names_iff.2 unambiguous
  | queryComputePool bytes preferredKind =>
      refine ⟨_, _, rfl, _, rfl, ?_⟩
      exact (PoolRegistry.choose_chooses (registeredPools older) bytes
        preferredKind).names_iff.2 unambiguous
  | _ => exact ⟨_, _, rfl, rfl⟩

theorem unambiguous_of_answers
    (ran : respond checks (after older) request = .ok (response, later))
    (answers : Answers older request response) : Unambiguous older request := by
  cases request with
  | queryVictim =>
      obtain ⟨thread, same, names⟩ := answers
      have replied := (Prod.mk.inj (Except.ok.inj ran)).1
      rw [same] at replied
      rw [← MmResponse.victim.inj replied] at names
      exact (MemRegistry.oomVictim_chooses (memCalls older)).names_iff.1 names
  | queryTotalResident =>
      by_contra large
      rw [Unambiguous] at large
      rw [Answers, if_neg large] at answers
      obtain ⟨code, same⟩ := answers
      obtain ⟨bytes, -, replied⟩ := Checked.bind_eq_ok.1 ran
      rw [same] at replied
      cases (Prod.mk.inj (Except.ok.inj replied)).1
  | querySwapVictim =>
      obtain ⟨thread, regionId, same, names⟩ := answers
      rw [respond_querySwapVictim] at ran
      have replied := (Prod.mk.inj (Except.ok.inj ran)).1
      rw [same] at replied
      obtain ⟨rfl, rfl⟩ := MmResponse.swapVictim.inj replied
      exact (SwapRegistry.swapVictim_chooses (swapCalls older)).names_iff.1 names
  | queryComputePool bytes preferredKind =>
      obtain ⟨poolId, same, names⟩ := answers
      have replied := (Prod.mk.inj (Except.ok.inj ran)).1
      rw [same] at replied
      rw [← MmResponse.computePoolChosen.inj replied] at names
      exact (PoolRegistry.choose_chooses (registeredPools older) bytes
        preferredKind).names_iff.1 names
  | _ => trivial

/-- An answered request was asked after a run that went through, and was sound. -/
theorem Answered.sound (answered : Answered checks earlier call) : Sound earlier call := by
  obtain ⟨state, response, later, served, ran, answers⟩ := answered
  rw [after_of_serve served, handleRequest_eq_ok] at ran
  exact ⟨ran.1, unambiguous_of_answers ran.2 answers⟩

/-! ## Runs -/

/-- A run of sound requests goes through. -/
theorem serve_of_sound (all : AtEveryEntry Sound calls) :
    serve checks calls = .ok (after (requests calls)) := by
  induction calls with
  | nil => rfl
  | cons call earlier ih =>
      obtain ⟨response, later, ran, -⟩ := @exists_response checks _ _ all.2.2
      have handled := handleRequest_eq_ok.2 ⟨all.2.1, ran⟩
      rw [serve, Checked.bind_of_ok (ih all.1), Checked.bind_of_ok handled,
        after_of_respond ran]
      rfl

/-- Every request of a run is answered right exactly if every allocation that one makes is
granted, every total that is asked for fits, and no victim or pool that is asked for is the
value for nothing. -/
theorem replies_right_iff (checks : Bool) (calls : List MmCall) :
    AtEveryEntry (Answered checks) calls ↔ AtEveryEntry Sound calls := by
  apply atEveryEntry_congr
  intro earlier call _ before
  constructor
  · exact Answered.sound
  · intro sound
    obtain ⟨response, later, ran, answers⟩ := @exists_response checks _ _ sound.2
    exact ⟨_, response, later, serve_of_sound before, handleRequest_eq_ok.2 ⟨sound.1, ran⟩,
      answers⟩

/-- A request that gets all the memory it asks for. -/
def given (request : MmRequest) : MmCall := ⟨request, true⟩

/-- Two threads that fill 64 bits between them. -/
def halves : List MmCall :=
  [given (.register 1 0x8000000000000000 .normal), given (.register 2 0x8000000000000000 .normal)]

/-- A thread with the highest number is registered, and its victim reads as none.  Where the
total leaves 64 bits, it is a panic or zero. -/
theorem replies_not_right :
    ¬ AtEveryEntry (Answered true)
        [given .queryVictim, given (.register nothingFound 4096 .normal)] ∧
      ¬ AtEveryEntry (Answered true) (given .queryTotalResident :: halves) ∧
      ¬ AtEveryEntry (Answered false) (given .queryTotalResident :: halves) := by
  have large : residentTotal (requests halves) = 2 ^ 64 := by
    rw [residentTotal, total_eq_sum]
    decide +kernel
  refine ⟨?_, ?_, ?_⟩
  · intro answered
    apply answered.2.sound.2
    apply Chooses.found _ ⟨nothingFound, 4096, .normal⟩ (by decide) trivial
    intro wanted other here _ ne
    have known : (if nothingFound = wanted then
        some (⟨nothingFound, 4096, .normal⟩ : ProcMemInfo) else none) = some other := here
    rw [if_neg (Ne.symm ne)] at known
    cases known
  · intro answered
    exact absurd large (Nat.ne_of_lt answered.2.sound.2)
  · intro answered
    exact absurd large (Nat.ne_of_lt answered.2.sound.2)

end MemoryService

end Simurgh
