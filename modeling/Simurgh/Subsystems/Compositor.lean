import Simurgh.Lib.CheckedRead
import Simurgh.Lib.Histories
import Simurgh.Protocol.Display

/-!
# The surfaces of the compositor

The compositor keeps a table of surfaces.  Their handles and the frames that were committed to
each are counted in words of 32 bits, and clients advance both counters.  A committed frame is
copied from a page that is shared with the client to a page of the compositor.  Entering a
surface into the table may allocate, and whether the allocator has the memory is told with each
request.
-/

namespace Simurgh

/-- A live surface. -/
structure SurfaceState where
  width : UInt32 := 0
  height : UInt32 := 0
  commitCount : UInt32 := 0
  deriving DecidableEq, Repr

/-- The surface table. -/
structure Compositor where
  surfaces : UInt32 → Option SurfaceState := fun _ => none
  nextSurfaceId : UInt32 := 0

inductive CompositorError where
  | badSurface
  deriving DecidableEq, Repr

namespace Compositor

/-- `counter += 1` on `u32`. -/
def countUp (checks : Bool) (counter : UInt32) : Checked UInt32 := do
  let next ← Checked.add 32 checks counter.toNat 1
  return .ofNat next

/-- Creates a new, empty surface and returns its handle.  `BTreeMap::insert` panics if a node
that it needs is not granted. -/
def createSurface (checks granted : Bool) (comp : Compositor) :
    Checked (UInt32 × Compositor) := do
  let id := comp.nextSurfaceId
  let next ← countUp checks id
  Checked.allocate granted
  return (id, { surfaces := Function.update comp.surfaces id (some {}), nextSurfaceId := next })

/-- Records a committed frame's dimensions. -/
def commitBuffer (checks : Bool) (comp : Compositor) (surface width height : UInt32) :
    Checked (Except CompositorError Compositor) :=
  match comp.surfaces surface with
  | none => return .error .badSurface
  | some s => do
      let commitCount ← countUp checks s.commitCount
      return .ok { comp with
        surfaces := Function.update comp.surfaces surface (some { width, height, commitCount }) }

def destroySurface (comp : Compositor) (surface : UInt32) : Except CompositorError Compositor :=
  match comp.surfaces surface with
  | none => .error .badSurface
  | some _ => .ok { comp with surfaces := Function.update comp.surfaces surface none }

/-! ## The server -/

/-- `FRAME_MAX`. -/
def frameMax : UInt32 := 4096

/-- Where the shared frame is. -/
def fbVa : Nat := 0xD8500000

/-- Where the compositor's copy is. -/
def confirmVa : Nat := 0xD8600000

/-- The size of the page that is mapped at each of these addresses. -/
def framePage : Nat := 4096

/-- `saturating_mul` on `u32`. -/
def saturatingMul (left right : UInt32) : UInt32 :=
  if left.toNat * right.toNat < 2 ^ 32 then left * right else 0xFFFFFFFF

/-- `copy_nonoverlapping` from one page to the other. -/
def copyFrameToConfirm (memory : ByteMemory) (len : UInt32) : Checked ByteMemory := do
  let frame ← Checked.readBytes memory fbVa (fbVa + framePage) fbVa len.toNat
  if len.toNat ≤ framePage then return memory.write confirmVa frame
  else throw .outside

/-- Handles one request.  The memory is what the request finds in it. -/
def handleRequest (checks granted : Bool) (comp : Compositor) (memory : ByteMemory) :
    DisplayRequest → Checked (DisplayResponse × Compositor × ByteMemory)
  | .createSurface => do
      let (surface, later) ← createSurface checks granted comp
      return (.surfaceCreated surface, later, memory)
  | .commitBuffer surface _ width height =>
      let len := saturatingMul (saturatingMul width height) 4
      if frameMax < len then return (.error .badBuffer, comp, memory)
      else do
        match ← commitBuffer checks comp surface width height with
        | .ok later =>
            let copied ← copyFrameToConfirm memory len
            return (.committed, later, copied)
        | .error _ => return (.error .badSurface, comp, memory)
  | .destroySurface surface =>
      match destroySurface comp surface with
      | .ok later => return (.destroyed, later, memory)
      | .error _ => return (.error .badSurface, comp, memory)
  | .subscribeInput => return (.error .unsupported, comp, memory)
  | .queryOutputs => return (.error .unsupported, comp, memory)

/-- A request, what is in memory when it is handled, and whether every allocation that it makes
is granted. -/
structure DisplayCall where
  request : DisplayRequest
  memory : ByteMemory
  granted : Bool

/-- A request and its response. -/
abbrev Exchange := DisplayRequest × DisplayResponse

/-- The loop of `subsystem_main`: the table after some requests, and the exchanges.  The newest
ones come first. -/
def serve (checks : Bool) : List DisplayCall → Checked (Compositor × List Exchange)
  | [] => .ok ({}, [])
  | call :: older => do
      let (comp, exchanges) ← serve checks older
      let (response, later, _) ← handleRequest checks call.granted comp call.memory call.request
      return (later, (call.request, response) :: exchanges)

/-! ## What the exchanges have to be -/

/-- The handle was returned before. -/
def Returned (exchanges : List Exchange) (surface : SurfaceHandle) : Prop :=
  (.createSurface, .surfaceCreated surface) ∈ exchanges

/-- The handle was created and not destroyed since. -/
def Live : List Exchange → SurfaceHandle → Prop
  | [], _ => False
  | (.createSurface, .surfaceCreated created) :: older, surface =>
      surface = created ∨ Live older surface
  | (.destroySurface gone, .destroyed) :: older, surface => surface ≠ gone ∧ Live older surface
  | _ :: older, surface => Live older surface

/-- The frame is no larger than the page. -/
def Fits (width height : UInt32) : Prop := width.toNat * height.toNat * 4 ≤ framePage

instance (width height : UInt32) : Decidable (Fits width height) :=
  inferInstanceAs (Decidable (_ ≤ _))

/-- The other surfaces are as they were. -/
def SameBeside (comp later : Compositor) (surface : SurfaceHandle) : Prop :=
  ∀ other, other ≠ surface → later.surfaces other = comp.surfaces other

/-- The frame is in the copy, and memory outside the copy's page is as it was. -/
structure Copied (memory copied : ByteMemory) (width height : UInt32) : Prop where
  frame : ∀ offset, offset < width.toNat * height.toNat * 4 →
    copied (confirmVa + offset) = memory (fbVa + offset)
  outside : ∀ addr, addr < confirmVa ∨ confirmVa + framePage ≤ addr → copied addr = memory addr

/-- A request was handled as it should be: handles are fresh, surfaces are found if they are
live, counters count, and a rejected request changes nothing.  `accepts` are the frames that
are committed to a live surface. -/
def Kept (accepts : UInt32 → UInt32 → Prop) (exchanges : List Exchange) (comp : Compositor)
    (call : DisplayCall) (response : DisplayResponse) (later : Compositor)
    (memory : ByteMemory) : Prop :=
  match call.request with
  | .createSurface =>
      ∃ surface, response = .surfaceCreated surface ∧ ¬ Returned exchanges surface ∧
        later.surfaces surface = some {} ∧ SameBeside comp later surface ∧
        later.nextSurfaceId.toNat = comp.nextSurfaceId.toNat + 1 ∧ memory = call.memory
  | .commitBuffer surface _ width height =>
      (response = .committed ↔ Live exchanges surface ∧ accepts width height) ∧
        if response = .committed then
          (∃ before after, comp.surfaces surface = some before ∧
            later.surfaces surface = some after ∧ after.width = width ∧ after.height = height ∧
            after.commitCount.toNat = before.commitCount.toNat + 1) ∧
          SameBeside comp later surface ∧ later.nextSurfaceId = comp.nextSurfaceId ∧
          Copied call.memory memory width height
        else (∃ code, response = .error code) ∧ later = comp ∧ memory = call.memory
  | .destroySurface surface =>
      (response = .destroyed ↔ Live exchanges surface) ∧
        if response = .destroyed then
          later.surfaces surface = none ∧ SameBeside comp later surface ∧
            later.nextSurfaceId = comp.nextSurfaceId ∧ memory = call.memory
        else (∃ code, response = .error code) ∧ later = comp ∧ memory = call.memory
  | _ => (∃ code, response = .error code) ∧ later = comp ∧ memory = call.memory

/-- The request is answered, and handled as it should be. -/
def Served (checks : Bool) (accepts : UInt32 → UInt32 → Prop) (older : List DisplayCall)
    (call : DisplayCall) : Prop :=
  ∃ comp exchanges response later memory, serve checks older = .ok (comp, exchanges) ∧
    handleRequest checks call.granted comp call.memory call.request =
      .ok (response, later, memory) ∧
    Kept accepts exchanges comp call response later memory

/-! ## Counting the requests -/

/-- How many surfaces were asked for. -/
def creates : List DisplayCall → Nat
  | [] => 0
  | call :: older => if call.request = .createSurface then creates older + 1 else creates older

/-- Whether the surface of that number was asked for and not destroyed since. -/
def standing : List DisplayCall → UInt32 → Bool
  | [], _ => false
  | call :: older, surface =>
      match call.request with
      | .createSurface => surface.toNat == creates older || standing older surface
      | .destroySurface gone => surface != gone && standing older surface
      | _ => standing older surface

/-- How many frames were committed to the surface of that number. -/
def commits : List DisplayCall → UInt32 → Nat
  | [], _ => 0
  | call :: older, surface =>
      match call.request with
      | .commitBuffer target _ width height =>
          if target = surface ∧ standing older surface = true ∧ Fits width height then
            commits older surface + 1
          else commits older surface
      | _ => commits older surface

/-- The counters that the request advances do not overflow, and it gets the memory that it
needs. -/
def Counts (older : List DisplayCall) (call : DisplayCall) : Prop :=
  match call.request with
  | .createSurface => creates older + 1 < 2 ^ 32 ∧ call.granted = true
  | .commitBuffer surface _ width height =>
      standing older surface = true → Fits width height → commits older surface + 1 < 2 ^ 32
  | _ => True

/-- A frame that does not fit is not committed to a surface that stands. -/
def Shown (older : List DisplayCall) (call : DisplayCall) : Prop :=
  match call.request with
  | .commitBuffer surface _ width height => standing older surface = true → Fits width height
  | _ => True

/-! ## Frames -/

variable {checks granted : Bool} {memory : ByteMemory} {width height surface : UInt32}

theorem toNat_saturatingMul (left right : UInt32) :
    (saturatingMul left right).toNat = min (left.toNat * right.toNat) (2 ^ 32 - 1) := by
  rw [saturatingMul]
  by_cases small : left.toNat * right.toNat < 2 ^ 32
  · rw [if_pos small, UInt32.toNat_mul, Nat.mod_eq_of_lt small]
    omega
  · rw [if_neg small]
    have limit : (0xFFFFFFFF : UInt32).toNat = 2 ^ 32 - 1 := rfl
    omega

theorem toNat_frameLen (width height : UInt32) :
    (saturatingMul (saturatingMul width height) 4).toNat =
      min (width.toNat * height.toNat * 4) (2 ^ 32 - 1) := by
  have four : (4 : UInt32).toNat = 4 := rfl
  rw [toNat_saturatingMul, toNat_saturatingMul, four]
  omega

/-- The length check is the size check, also where a product leaves the word. -/
theorem frameMax_lt_iff :
    frameMax < saturatingMul (saturatingMul width height) 4 ↔ ¬ Fits width height := by
  have limit : frameMax.toNat = 4096 := rfl
  rw [UInt32.lt_iff_toNat_lt, toNat_frameLen, Fits, framePage, limit]
  omega

theorem toNat_frameLen_of_fits (fits : Fits width height) :
    (saturatingMul (saturatingMul width height) 4).toNat = width.toNat * height.toNat * 4 := by
  rw [toNat_frameLen]
  unfold Fits framePage at fits
  omega

/-- A frame that fits is copied from within its page to within the other. -/
theorem exists_copied (memory : ByteMemory) (fits : Fits width height) :
    ∃ copied,
      copyFrameToConfirm memory (saturatingMul (saturatingMul width height) 4) = .ok copied ∧
        Copied memory copied width height := by
  have length := toNat_frameLen_of_fits fits
  have small : width.toNat * height.toNat * 4 ≤ framePage := fits
  have inside : Checked.readBytes memory fbVa (fbVa + framePage) fbVa
      (width.toNat * height.toNat * 4) = .ok _ :=
    Checked.readBytes_of_inside (le_refl fbVa) (Nat.add_le_add_left small fbVa)
  refine ⟨memory.write confirmVa (memory.read fbVa (width.toNat * height.toNat * 4)), ?_, ?_⟩
  · rw [copyFrameToConfirm, length, Checked.bind_of_ok inside, if_pos small]
    rfl
  · constructor
    · intro offset bound
      rw [ByteMemory.write, if_pos (Nat.le_add_right _ _), Nat.add_sub_cancel_left,
        List.getElem?_eq_getElem (by rw [ByteMemory.length_read]; exact bound)]
      simp [ByteMemory.read]
    · intro addr beside
      rcases beside with before | behind
      · exact ByteMemory.write_of_lt _ before
      · apply ByteMemory.write_of_le
        rw [ByteMemory.length_read]
        exact le_trans (Nat.add_le_add_left small confirmVa) behind

/-! ## One request -/

theorem countUp_of_lt {counter : UInt32} (room : counter.toNat + 1 < 2 ^ 32) :
    countUp checks counter = .ok (counter + 1) := by
  rw [countUp, Checked.bind_of_ok (Checked.add_of_lt room), UInt32.ofNat_add, UInt32.ofNat_toNat]
  rfl

theorem toNat_add_one {counter : UInt32} (room : counter.toNat + 1 < 2 ^ 32) :
    (counter + 1).toNat = counter.toNat + 1 := by
  have one : (1 : UInt32).toNat = 1 := rfl
  rw [UInt32.toNat_add, one, Nat.mod_eq_of_lt room]

variable {comp later : Compositor} {response : DisplayResponse} {copied : ByteMemory}
  {exchanges : List Exchange} {older calls : List DisplayCall} {call : DisplayCall}
  {bufferCap : UInt32} {state : SurfaceState}

theorem handleRequest_createSurface (room : comp.nextSurfaceId.toNat + 1 < 2 ^ 32) :
    handleRequest checks true comp memory .createSurface =
      .ok (.surfaceCreated comp.nextSurfaceId,
        { surfaces := Function.update comp.surfaces comp.nextSurfaceId (some {})
          nextSurfaceId := comp.nextSurfaceId + 1 }, memory) := by
  rw [handleRequest, createSurface, Checked.bind_of_ok (countUp_of_lt room),
    Checked.bind_of_ok Checked.allocate_true]
  rfl

theorem handleRequest_commitBuffer_large (large : ¬ Fits width height) :
    handleRequest checks granted comp memory (.commitBuffer surface bufferCap width height) =
      .ok (.error .badBuffer, comp, memory) := by
  rw [handleRequest, if_pos (frameMax_lt_iff.2 large)]
  rfl

theorem handleRequest_commitBuffer_absent (fits : Fits width height)
    (absent : comp.surfaces surface = none) :
    handleRequest checks granted comp memory (.commitBuffer surface bufferCap width height) =
      .ok (.error .badSurface, comp, memory) := by
  have missed : commitBuffer checks comp surface width height = .ok (.error .badSurface) := by
    rw [commitBuffer, absent]
    rfl
  rw [handleRequest, if_neg fun large => frameMax_lt_iff.1 large fits,
    Checked.bind_of_ok missed]
  rfl

theorem handleRequest_commitBuffer (fits : Fits width height)
    (present : comp.surfaces surface = some state)
    (room : state.commitCount.toNat + 1 < 2 ^ 32)
    (copies : copyFrameToConfirm memory (saturatingMul (saturatingMul width height) 4) =
      .ok copied) :
    handleRequest checks granted comp memory (.commitBuffer surface bufferCap width height) =
      .ok (.committed, { comp with
        surfaces := Function.update comp.surfaces surface
          (some { width, height, commitCount := state.commitCount + 1 }) }, copied) := by
  have recorded : commitBuffer checks comp surface width height = .ok (.ok { comp with
      surfaces := Function.update comp.surfaces surface
        (some { width, height, commitCount := state.commitCount + 1 }) }) := by
    rw [commitBuffer, present]
    exact Checked.bind_of_ok (countUp_of_lt room) _
  rw [handleRequest, if_neg fun large => frameMax_lt_iff.1 large fits,
    Checked.bind_of_ok recorded]
  exact Checked.bind_of_ok copies _

theorem handleRequest_destroySurface_absent (absent : comp.surfaces surface = none) :
    handleRequest checks granted comp memory (.destroySurface surface) =
      .ok (.error .badSurface, comp, memory) := by
  rw [handleRequest, destroySurface, absent]
  rfl

theorem handleRequest_destroySurface (present : comp.surfaces surface = some state) :
    handleRequest checks granted comp memory (.destroySurface surface) =
      .ok (.destroyed, { comp with surfaces := Function.update comp.surfaces surface none },
        memory) := by
  rw [handleRequest, destroySurface, present]
  rfl

/-! ## Runs -/

/-- A surface that stands has a number that was given out. -/
theorem standing_lt (stands : standing older surface = true) : surface.toNat < creates older := by
  induction older with
  | nil => cases stands
  | cons call older ih =>
      rw [creates]
      rw [standing] at stands
      cases request : call.request with
      | createSurface =>
          rw [request] at stands
          rw [if_pos rfl]
          rcases Bool.or_eq_true_iff.1 stands with last | before
          · exact Nat.lt_succ_of_le (Nat.le_of_eq (beq_iff_eq.1 last))
          · exact Nat.lt_succ_of_lt (ih before)
      | destroySurface gone =>
          rw [request] at stands
          rw [if_neg nofun]
          exact ih (Bool.and_eq_true_iff.1 stands).2
      | _ =>
          rw [request] at stands
          rw [if_neg nofun]
          exact ih stands

/-- No frame was committed to a surface before it was made. -/
theorem commits_of_le (future : creates older ≤ surface.toNat) : commits older surface = 0 := by
  induction older with
  | nil => rfl
  | cons call older ih =>
      rw [creates] at future
      rw [commits]
      cases request : call.request with
      | createSurface =>
          rw [request, if_pos rfl] at future
          exact ih (Nat.le_of_succ_le future)
      | commitBuffer target bufferCap width height =>
          rw [request, if_neg nofun] at future
          have absent : ¬ standing older surface = true := fun stands =>
            Nat.not_lt_of_le future (standing_lt stands)
          dsimp only
          rw [if_neg fun all => absent all.2.1]
          exact ih future
      | _ =>
          rw [request, if_neg nofun] at future
          exact ih future

/-- The table and the exchanges agree with the requests. -/
structure Tracks (older : List DisplayCall) (comp : Compositor) (exchanges : List Exchange) :
    Prop where
  next : comp.nextSurfaceId.toNat = creates older
  returned : ∀ surface, Returned exchanges surface → surface.toNat < creates older
  live : ∀ surface, Live exchanges surface ↔ standing older surface = true
  found : ∀ surface, (comp.surfaces surface).isSome = standing older surface
  counted : ∀ surface state, comp.surfaces surface = some state →
    state.commitCount.toNat = commits older surface

theorem Tracks.nil : Tracks [] {} [] where
  next := rfl
  returned := fun _ member => absurd member List.not_mem_nil
  live := fun _ => iff_of_false id Bool.false_ne_true
  found := fun _ => rfl
  counted := nofun

theorem Tracks.exists_state (tracks : Tracks older comp exchanges)
    (stands : standing older surface = true) : ∃ state, comp.surfaces surface = some state := by
  apply Option.isSome_iff_exists.1
  rw [tracks.found, stands]

theorem Tracks.absent (tracks : Tracks older comp exchanges)
    (stands : ¬ standing older surface = true) : comp.surfaces surface = none := by
  apply Option.isNone_iff_eq_none.1
  rw [← Option.not_isSome, tracks.found, Bool.eq_false_of_not_eq_true stands]
  rfl

/-- A request that changes neither the table nor what stands. -/
theorem Tracks.unchanged (tracks : Tracks older comp exchanges)
    (sameCreates : creates (call :: older) = creates older)
    (sameStanding : ∀ surface, standing (call :: older) surface = standing older surface)
    (sameCommits : ∀ surface, commits (call :: older) surface = commits older surface)
    (sameReturned : ∀ surface, Returned ((call.request, response) :: exchanges) surface →
      Returned exchanges surface)
    (sameLive : ∀ surface, Live ((call.request, response) :: exchanges) surface ↔
      Live exchanges surface) :
    Tracks (call :: older) comp ((call.request, response) :: exchanges) where
  next := by rw [sameCreates, tracks.next]
  returned := fun surface member => by
    rw [sameCreates]
    exact tracks.returned surface (sameReturned surface member)
  live := fun surface => by rw [sameLive, sameStanding, tracks.live]
  found := fun surface => by rw [sameStanding, tracks.found]
  counted := fun surface state here => by rw [sameCommits, tracks.counted surface state here]

theorem live_error {request : DisplayRequest} {code : DisplayErrorCode} :
    Live ((request, .error code) :: exchanges) surface ↔ Live exchanges surface := by
  cases request <;> exact Iff.rfl

theorem returned_of_cons {request : DisplayRequest}
    (other : ∀ created, response ≠ .surfaceCreated created)
    (returned : Returned ((request, response) :: exchanges) surface) :
    Returned exchanges surface := by
  cases List.mem_cons.1 returned with
  | inl same => exact absurd (Prod.mk.inj same).2.symm (other surface)
  | inr before => exact before

/-- The request is answered and kept, and the table follows the requests. -/
def Steps (checks : Bool) (older : List DisplayCall) (comp : Compositor)
    (exchanges : List Exchange) (call : DisplayCall) : Prop :=
  ∃ response later memory,
    handleRequest checks call.granted comp call.memory call.request =
        .ok (response, later, memory) ∧
      Kept Fits exchanges comp call response later memory ∧
      Tracks (call :: older) later ((call.request, response) :: exchanges)

theorem Tracks.created (tracks : Tracks older comp exchanges)
    (next : (comp.nextSurfaceId + 1).toNat = comp.nextSurfaceId.toNat + 1) :
    Tracks (⟨.createSurface, memory, granted⟩ :: older)
      { nextSurfaceId := comp.nextSurfaceId + 1
        surfaces := Function.update comp.surfaces comp.nextSurfaceId
          (some {}) }
      ((.createSurface, .surfaceCreated comp.nextSurfaceId) :: exchanges) := by
  have isNext : ∀ surface : UInt32,
      surface = comp.nextSurfaceId ↔ surface.toNat = creates older := by
    intro surface
    rw [← tracks.next, UInt32.toNat_inj]
  constructor
  · rw [creates, if_pos rfl, ← tracks.next]
    exact next
  · intro surface returned
    rw [creates, if_pos rfl]
    cases List.mem_cons.1 returned with
    | inl same =>
        have this := DisplayResponse.surfaceCreated.inj (Prod.mk.inj same).2
        exact Nat.lt_succ_of_le (Nat.le_of_eq ((isNext surface).1 this))
    | inr before => exact Nat.lt_succ_of_lt (tracks.returned surface before)
  · intro surface
    rw [Live, standing, Bool.or_eq_true_iff, beq_iff_eq, tracks.live, isNext]
  · intro surface
    rw [standing]
    dsimp only
    by_cases same : surface = comp.nextSurfaceId
    · rw [same, Function.update_self, ← tracks.next, beq_self_eq_true, Bool.true_or]
      rfl
    · have other : (surface.toNat == creates older) = false :=
        beq_eq_false_iff_ne.2 fun equal => same ((isNext surface).2 equal)
      rw [Function.update_of_ne same, other, Bool.false_or, tracks.found]
  · intro surface state here
    have kept : commits (⟨.createSurface, memory, granted⟩ :: older) surface =
        commits older surface := rfl
    rw [kept]
    dsimp only at here
    by_cases same : surface = comp.nextSurfaceId
    · rw [same, Function.update_self] at here
      rw [← Option.some.inj here,
        commits_of_le (Nat.le_of_eq ((isNext surface).1 same).symm)]
      rfl
    · rw [Function.update_of_ne same] at here
      exact tracks.counted surface state here

theorem Tracks.committed (tracks : Tracks older comp exchanges) (fits : Fits width height)
    (stands : standing older surface = true) (present : comp.surfaces surface = some state)
    (room : state.commitCount.toNat + 1 < 2 ^ 32) :
    Tracks (⟨.commitBuffer surface bufferCap width height, memory, granted⟩ :: older)
      { comp with
        surfaces := Function.update comp.surfaces surface
          (some { width, height, commitCount := state.commitCount + 1 }) }
      ((.commitBuffer surface bufferCap width height, .committed) :: exchanges) := by
  constructor
  · exact tracks.next
  · intro other returned
    exact tracks.returned other (returned_of_cons (fun _ same => by cases same) returned)
  · exact tracks.live
  · intro other
    have same : standing
        (⟨.commitBuffer surface bufferCap width height, memory, granted⟩ :: older) other =
          standing older other := rfl
    rw [same, ← tracks.found]
    dsimp only
    by_cases this : other = surface
    · rw [this, Function.update_self, present]
      rfl
    · rw [Function.update_of_ne this]
  · intro other state here
    rw [commits]
    dsimp only at here ⊢
    by_cases this : other = surface
    · rw [this, Function.update_self] at here
      rw [← Option.some.inj here, this, if_pos ⟨rfl, stands, fits⟩, toNat_add_one room,
        tracks.counted surface _ present]
    · rw [Function.update_of_ne this] at here
      rw [if_neg fun all => this all.1.symm]
      exact tracks.counted other state here

theorem Tracks.destroyed (tracks : Tracks older comp exchanges) :
    Tracks (⟨.destroySurface surface, memory, granted⟩ :: older)
      { comp with surfaces := Function.update comp.surfaces surface none }
      ((.destroySurface surface, .destroyed) :: exchanges) := by
  constructor
  · exact tracks.next
  · intro other returned
    exact tracks.returned other (returned_of_cons (fun _ same => by cases same) returned)
  · intro other
    rw [Live, standing, Bool.and_eq_true_iff, bne_iff_ne, tracks.live]
  · intro other
    rw [standing]
    dsimp only
    by_cases this : other = surface
    · rw [this, Function.update_self, bne_self_eq_false, Bool.false_and]
      rfl
    · rw [Function.update_of_ne this, bne_iff_ne.2 this, Bool.true_and, tracks.found]
  · intro other state here
    have kept : commits (⟨.destroySurface surface, memory, granted⟩ :: older) other =
        commits older other := rfl
    rw [kept]
    dsimp only at here
    by_cases this : other = surface
    · rw [this, Function.update_self] at here
      cases here
    · rw [Function.update_of_ne this] at here
      exact tracks.counted other state here

theorem steps_createSurface (tracks : Tracks older comp exchanges)
    (room : creates older + 1 < 2 ^ 32) :
    Steps checks older comp exchanges ⟨.createSurface, memory, true⟩ := by
  rw [← tracks.next] at room
  have next : (comp.nextSurfaceId + 1).toNat = comp.nextSurfaceId.toNat + 1 := toNat_add_one room
  refine ⟨_, _, _, handleRequest_createSurface room, ?_, tracks.created next⟩
  refine ⟨comp.nextSurfaceId, rfl, ?_, Function.update_self _ _ _, ?_, next, rfl⟩
  · intro returned
    have lower := tracks.returned _ returned
    rw [tracks.next] at lower
    exact Nat.lt_irrefl _ lower
  · intro other ne
    exact Function.update_of_ne ne _ _

theorem steps_error {code : DisplayErrorCode}
    (tracks : Tracks older comp exchanges)
    (ran : handleRequest checks call.granted comp call.memory call.request =
      .ok (.error code, comp, call.memory))
    (keeps : Kept Fits exchanges comp call (.error code) comp call.memory)
    (sameCreates : creates (call :: older) = creates older)
    (sameStanding : ∀ surface, standing (call :: older) surface = standing older surface)
    (sameCommits : ∀ surface, commits (call :: older) surface = commits older surface) :
    Steps checks older comp exchanges call := by
  refine ⟨_, _, _, ran, keeps, ?_⟩
  apply tracks.unchanged sameCreates sameStanding sameCommits
  · intro surface
    exact returned_of_cons nofun
  · intro surface
    exact live_error

theorem steps_commitBuffer (tracks : Tracks older comp exchanges)
    (room : standing older surface = true → Fits width height →
      commits older surface + 1 < 2 ^ 32) :
    Steps checks older comp exchanges
      ⟨.commitBuffer surface bufferCap width height, memory, granted⟩ := by
  by_cases fits : Fits width height
  · by_cases stands : standing older surface = true
    · obtain ⟨state, present⟩ := tracks.exists_state stands
      have fitting : state.commitCount.toNat + 1 < 2 ^ 32 := by
        rw [tracks.counted surface state present]
        exact room stands fits
      obtain ⟨copied, copies, holds⟩ := exists_copied memory fits
      refine ⟨_, _, _, handleRequest_commitBuffer fits present fitting copies, ?_,
        tracks.committed fits stands present fitting⟩
      refine ⟨iff_of_true rfl ⟨(tracks.live surface).2 stands, fits⟩, ?_⟩
      rw [if_pos rfl]
      refine ⟨⟨state, _, present, Function.update_self _ _ _, rfl, rfl,
        toNat_add_one fitting⟩, ?_, rfl, holds⟩
      intro other ne
      exact Function.update_of_ne ne _ _
    · have dead : ¬ Live exchanges surface := fun live => stands ((tracks.live surface).1 live)
      apply steps_error tracks (handleRequest_commitBuffer_absent fits (tracks.absent stands))
      · refine ⟨iff_of_false nofun fun both => dead both.1, ?_⟩
        rw [if_neg nofun]
        exact ⟨⟨_, rfl⟩, rfl, rfl⟩
      · rfl
      · exact fun _ => rfl
      · intro other
        rw [commits]
        apply if_neg
        rintro ⟨rfl, standsHere, -⟩
        exact stands standsHere
  · apply steps_error tracks (handleRequest_commitBuffer_large fits)
    · refine ⟨iff_of_false nofun fun both => fits both.2, ?_⟩
      rw [if_neg nofun]
      exact ⟨⟨_, rfl⟩, rfl, rfl⟩
    · rfl
    · exact fun _ => rfl
    · intro other
      rw [commits]
      exact if_neg fun all => fits all.2.2

theorem steps_destroySurface (tracks : Tracks older comp exchanges) :
    Steps checks older comp exchanges ⟨.destroySurface surface, memory, granted⟩ := by
  by_cases stands : standing older surface = true
  · obtain ⟨state, present⟩ := tracks.exists_state stands
    refine ⟨_, _, _, handleRequest_destroySurface present, ?_, tracks.destroyed⟩
    refine ⟨iff_of_true rfl ((tracks.live surface).2 stands), ?_⟩
    rw [if_pos rfl]
    refine ⟨Function.update_self _ _ _, ?_, rfl, rfl⟩
    intro other ne
    exact Function.update_of_ne ne _ _
  · have dead : ¬ Live exchanges surface := fun live => stands ((tracks.live surface).1 live)
    apply steps_error tracks (handleRequest_destroySurface_absent (tracks.absent stands))
    · refine ⟨iff_of_false nofun dead, ?_⟩
      rw [if_neg nofun]
      exact ⟨⟨_, rfl⟩, rfl, rfl⟩
    · rfl
    · intro other
      rw [standing]
      dsimp only
      by_cases this : other = surface
      · rw [this, Bool.eq_false_of_not_eq_true stands, Bool.and_false]
      · rw [bne_iff_ne.2 this, Bool.true_and]
    · exact fun _ => rfl

/-- As long as the counters have room, every request is handled as it should be. -/
theorem Tracks.steps (tracks : Tracks older comp exchanges) (counts : Counts older call) :
    Steps checks older comp exchanges call := by
  obtain ⟨request, memory, granted⟩ := call
  cases request with
  | createSurface =>
      obtain ⟨room, rfl⟩ : creates older + 1 < 2 ^ 32 ∧ granted = true := counts
      exact steps_createSurface tracks room
  | commitBuffer surface bufferCap width height => exact steps_commitBuffer tracks counts
  | destroySurface surface => exact steps_destroySurface tracks
  | subscribeInput =>
      have ran : handleRequest checks granted comp memory .subscribeInput =
          .ok (.error .unsupported, comp, memory) := rfl
      exact steps_error tracks ran ⟨⟨_, rfl⟩, rfl, rfl⟩ rfl (fun _ => rfl) fun _ => rfl
  | queryOutputs =>
      have ran : handleRequest checks granted comp memory .queryOutputs =
          .ok (.error .unsupported, comp, memory) := rfl
      exact steps_error tracks ran ⟨⟨_, rfl⟩, rfl, rfl⟩ rfl (fun _ => rfl) fun _ => rfl

theorem exists_tracks (checks : Bool) (counts : AtEveryEntry Counts calls) :
    ∃ comp exchanges, serve checks calls = .ok (comp, exchanges) ∧
      Tracks calls comp exchanges := by
  induction calls with
  | nil => exact ⟨_, _, rfl, .nil⟩
  | cons call older ih =>
      obtain ⟨comp, exchanges, served, tracks⟩ := ih counts.1
      obtain ⟨response, later, memory, ran, -, tracksLater⟩ := tracks.steps counts.2
      refine ⟨later, (call.request, response) :: exchanges, ?_, tracksLater⟩
      rw [serve, Checked.bind_of_ok served]
      exact Checked.bind_of_ok ran _

/-! ## When the surfaces are kept -/

variable {accepts : UInt32 → UInt32 → Prop}

/-- A surface that was entered got its memory. -/
theorem granted_of_created
    (ran : handleRequest checks granted comp memory .createSurface =
      .ok (response, later, copied)) : granted = true := by
  obtain ⟨created, made, -⟩ := Checked.bind_eq_ok.1 ran
  obtain ⟨next, -, rest⟩ := Checked.bind_eq_ok.1 made
  obtain ⟨_, allocated, -⟩ := Checked.bind_eq_ok.1 rest
  exact Checked.allocate_eq_ok.1 allocated

/-- A counter that went up had room. -/
theorem Tracks.counts (tracks : Tracks older comp exchanges)
    (every : ∀ width height, Fits width height → accepts width height)
    (ran : handleRequest checks call.granted comp call.memory call.request =
      .ok (response, later, memory))
    (kept : Kept accepts exchanges comp call response later memory) : Counts older call := by
  obtain ⟨request, found, granted⟩ := call
  cases request with
  | createSurface =>
      obtain ⟨surface, -, -, -, -, next, -⟩ := kept
      refine ⟨?_, granted_of_created ran⟩
      rw [← tracks.next, ← next]
      exact UInt32.toNat_lt _
  | commitBuffer surface bufferCap width height =>
      intro stands fits
      have committed := kept.1.2 ⟨(tracks.live surface).2 stands, every width height fits⟩
      have effect := kept.2
      rw [if_pos committed] at effect
      obtain ⟨⟨before, after, present, -, -, -, count⟩, -⟩ := effect
      rw [← tracks.counted surface before present, ← count]
      exact UInt32.toNat_lt _
  | _ => trivial

theorem fits_of_committed
    (ran : handleRequest checks granted comp memory (.commitBuffer surface bufferCap width height) =
      .ok (.committed, later, copied)) : Fits width height := by
  by_contra large
  rw [handleRequest_commitBuffer_large large] at ran
  cases (Prod.mk.inj (Except.ok.inj ran)).1

/-- Where every frame that reaches a live surface fits, size makes no difference. -/
theorem Tracks.shown (tracks : Tracks older comp exchanges)
    (ran : handleRequest checks call.granted comp call.memory call.request =
      .ok (response, later, memory)) :
    Kept (fun _ _ => True) exchanges comp call response later memory ↔
      Kept Fits exchanges comp call response later memory ∧ Shown older call := by
  obtain ⟨request, found, granted⟩ := call
  cases request with
  | commitBuffer surface bufferCap width height =>
      constructor
      · rintro ⟨committed, effect⟩
        have shows : standing older surface = true → Fits width height := by
          intro stands
          have isCommitted := committed.2 ⟨(tracks.live surface).2 stands, trivial⟩
          rw [isCommitted] at ran
          exact fits_of_committed ran
        refine ⟨⟨?_, effect⟩, shows⟩
        rw [committed]
        constructor
        · intro live
          exact ⟨live.1, shows ((tracks.live surface).1 live.1)⟩
        · exact fun both => ⟨both.1, trivial⟩
      · rintro ⟨⟨committed, effect⟩, shows⟩
        refine ⟨?_, effect⟩
        rw [committed]
        constructor
        · exact fun both => ⟨both.1, trivial⟩
        · intro live
          exact ⟨live.1, shows ((tracks.live surface).1 live.1)⟩
  | _ => exact (and_iff_left trivial).symm

theorem served_iff (before : AtEveryEntry Counts older) :
    Served checks Fits older call ↔ Counts older call := by
  obtain ⟨comp, exchanges, served, tracks⟩ := exists_tracks checks before
  constructor
  · rintro ⟨comp', exchanges', response, later, memory, served', ran, kept⟩
    obtain ⟨rfl, rfl⟩ := Prod.mk.inj (Except.ok.inj (served.symm.trans served'))
    exact tracks.counts (fun _ _ fits => fits) ran kept
  · intro counts
    obtain ⟨response, later, memory, ran, kept, -⟩ := tracks.steps counts
    exact ⟨comp, exchanges, response, later, memory, served, ran, kept⟩

theorem served_all_iff (before : AtEveryEntry Counts older) :
    Served checks (fun _ _ => True) older call ↔ Counts older call ∧ Shown older call := by
  obtain ⟨comp, exchanges, served, tracks⟩ := exists_tracks checks before
  constructor
  · rintro ⟨comp', exchanges', response, later, memory, served', ran, kept⟩
    obtain ⟨rfl, rfl⟩ := Prod.mk.inj (Except.ok.inj (served.symm.trans served'))
    exact ⟨tracks.counts (fun _ _ _ => trivial) ran kept, ((tracks.shown ran).1 kept).2⟩
  · rintro ⟨counts, shown⟩
    obtain ⟨response, later, memory, ran, kept, -⟩ := tracks.steps counts
    exact ⟨comp, exchanges, response, later, memory, served, ran,
      (tracks.shown ran).2 ⟨kept, shown⟩⟩

theorem atEveryEntry_served_iff :
    AtEveryEntry (Served checks Fits) calls ↔ AtEveryEntry Counts calls := by
  apply atEveryEntry_congr
  intro older call _ before
  exact served_iff before

/-- The surfaces are kept throughout a run exactly if no counter overflows in it and no
allocation fails.  That a live surface takes every frame needs every frame to fit the page
besides. -/
theorem surfaces_kept_iff (checks : Bool) (calls : List DisplayCall) :
    (AtEveryEntry (Served checks Fits) calls ↔ AtEveryEntry Counts calls) ∧
      (AtEveryEntry (Served checks fun _ _ => True) calls ↔
        AtEveryEntry Counts calls ∧ AtEveryEntry Shown calls) := by
  constructor
  · exact atEveryEntry_served_iff
  · rw [← atEveryEntry_and]
    apply atEveryEntry_congr
    intro older call _ before
    exact served_all_iff (atEveryEntry_and.1 before).1

/-- One surface and so many empty frames. -/
def frames : Nat → List DisplayCall
  | 0 => [⟨.createSurface, fun _ => 0, true⟩]
  | count + 1 => ⟨.commitBuffer 0 0 0 0, fun _ => 0, true⟩ :: frames count

/-- So many surfaces, of which none is kept. -/
def surfacesInTurn : Nat → List DisplayCall
  | 0 => []
  | count + 1 =>
      ⟨.destroySurface (.ofNat count), fun _ => 0, true⟩ :: ⟨.createSurface, fun _ => 0, true⟩ ::
        surfacesInTurn count

theorem standing_frames (count : Nat) : standing (frames count) 0 = true := by
  induction count with
  | zero => rfl
  | succ count ih => exact ih

theorem commits_frames (count : Nat) : commits (frames count) 0 = count := by
  induction count with
  | zero => rfl
  | succ count ih =>
      rw [frames, commits]
      dsimp only
      rw [if_pos ⟨rfl, standing_frames count, by decide⟩, ih]

theorem creates_surfacesInTurn (count : Nat) : creates (surfacesInTurn count) = count := by
  induction count with
  | zero => rfl
  | succ count ih => exact congrArg Nat.succ ih

theorem frames_bounded {count : Nat} (counts : AtEveryEntry Counts (frames count)) :
    count < 2 ^ 32 := by
  cases count with
  | zero => exact Nat.two_pow_pos 32
  | succ count =>
      have room := counts.2 (standing_frames count) (by decide)
      rw [commits_frames] at room
      exact room

theorem surfacesInTurn_bounded {count : Nat}
    (counts : AtEveryEntry Counts (surfacesInTurn count)) : count < 2 ^ 32 := by
  cases count with
  | zero => exact Nat.two_pow_pos 32
  | succ count =>
      have room : creates (surfacesInTurn count) + 1 < 2 ^ 32 := counts.1.2.1
      rw [creates_surfacesInTurn] at room
      exact room

/-- Both counters overflow, with and without overflow checks. -/
theorem counters_overflow :
    ¬ AtEveryEntry (Served true Fits) (frames (2 ^ 32)) ∧
      ¬ AtEveryEntry (Served false Fits) (frames (2 ^ 32)) ∧
      ¬ AtEveryEntry (Served true Fits) (surfacesInTurn (2 ^ 32)) ∧
      ¬ AtEveryEntry (Served false Fits) (surfacesInTurn (2 ^ 32)) := by
  refine ⟨?_, ?_, ?_, ?_⟩
  · intro served
    exact Nat.lt_irrefl _ (frames_bounded (atEveryEntry_served_iff.1 served))
  · intro served
    exact Nat.lt_irrefl _ (frames_bounded (atEveryEntry_served_iff.1 served))
  · intro served
    exact Nat.lt_irrefl _ (surfacesInTurn_bounded (atEveryEntry_served_iff.1 served))
  · intro served
    exact Nat.lt_irrefl _ (surfacesInTurn_bounded (atEveryEntry_served_iff.1 served))

end Compositor

end Simurgh
