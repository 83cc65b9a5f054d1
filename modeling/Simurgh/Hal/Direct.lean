import Simurgh.Hal.Handoff
import Simurgh.Lib.Exec

/-!
# Direct hardware access

A driver reaches hardware through four methods that check a signed token first.  The
token names one resource.  The three architectures share all of it but the instruction
that reads a performance counter.
-/

namespace Simurgh

/-! ## Tokens -/

inductive HalError where
  | unsupportedPrivilegeLevel
  | invalidCoreId
  | memoryMapUnavailable
  | tooManyMemoryRegions
  | invalidMemoryRegion
  | noTimerSource
  | ticklessModeUnsupported
  | invalidTimerDeadline
  | invalidIrqId
  | irqAlreadyRegistered
  | invalidIpiTarget
  | computeDiscoveryFailed
  | tooManyComputeDevices
  | peripheralDiscoveryFailed
  | tooManyPeripheralDevices
  | invalidPowerDomain
  | dvfsUnsupported
  | thermalSensorUnavailable
  | bootProtocolUnrecognized
  | malformedBootInfo
  | invalidCapabilityToken
  | hardwareFault
  deriving DecidableEq, Repr

def maxSignatureBytes : Nat := 64

inductive CapabilityScope where
  | mmioRegion (physBase size : Word)
  | performanceCounter (counterId : BitVec 32)
  | threadAffinity (coreId : BitVec 32)
  | numaPolicy
  deriving DecidableEq, Repr

structure CapabilityToken where
  subjectId : Word
  scope : CapabilityScope
  expiresAtNs : Word
  signature : List UInt8
  signatureLen : UInt8
  /-- `[u8; MAX_SIGNATURE_BYTES]`. -/
  array : signature.length = maxSignatureBytes

namespace CapabilityToken

/-- `CapabilityToken::new`. -/
def new (subjectId : Word) (scope : CapabilityScope) (expiresAtNs : Word) :
    CapabilityToken where
  subjectId
  scope
  expiresAtNs
  signature := List.replicate maxSignatureBytes 0
  signatureLen := 0
  array := List.length_replicate

/-- `with_signature`, which panics on a longer signature. -/
def withSignature (token : CapabilityToken) (signature : List UInt8) :
    Option CapabilityToken :=
  if short : signature.length ≤ maxSignatureBytes then
    some {
      token with
      signature := signature ++ token.signature.drop signature.length
      signatureLen := UInt8.ofNat signature.length
      array := by
        rw [List.length_append, List.length_drop, token.array]
        exact Nat.add_sub_cancel' short }
  else none

/-- `&signature[..signature_len]`.  The length is a public field, and the slice panics if it
is above the array. -/
def signatureBytes (token : CapabilityToken) : Option (List UInt8) :=
  if token.signatureLen.toNat ≤ maxSignatureBytes then
    some (token.signature.take token.signatureLen.toNat)
  else none

def covers (token : CapabilityToken) (requested : CapabilityScope) : Bool :=
  token.scope == requested

def isExpired (token : CapabilityToken) (nowNs : Word) : Bool :=
  token.expiresAtNs ≤ nowNs

end CapabilityToken

/-! ## The methods -/

inductive NumaPolicy where
  | «local»
  | interleaved
  | preferred (node : UInt8)
  | strict (node : UInt8)
  deriving DecidableEq, Repr

/-- The permissions of the hardware layer. -/
structure HalMapPermissions where
  readable : Bool
  writable : Bool
  executable : Bool
  deviceUncached : Bool
  deriving DecidableEq, Repr

/-- `MapPermissions::KERNEL_RODATA`. -/
def HalMapPermissions.kernelRodata : HalMapPermissions where
  readable := true
  writable := false
  executable := false
  deviceUncached := false

/-- `MapPermissions::DEVICE_MMIO`. -/
def HalMapPermissions.deviceMmio : HalMapPermissions where
  readable := true
  writable := true
  executable := false
  deviceUncached := true

/-- What the methods are built on, over the state `σ` of the machine: a verifier, a clock,
the page tables, and the registers of the performance counters. -/
structure DirectAccess (σ : Type) where
  verifySignature : CapabilityToken → Exec σ HalError Unit
  nowNs : σ → Word
  iommuPresent : Bool
  setupIdentityMapping : HalRegion → HalMapPermissions → Exec σ HalError Word
  /-- The low and the high half that `rdpmc` leaves in `eax` and `edx`, or a fault. -/
  rdpmc : BitVec 32 → σ → Option (BitVec 32 × BitVec 32)
  cycle : σ → Word
  instret : σ → Word
  /-- `msr PMSELR_EL0`. -/
  selectCounter : Word → σ → σ
  /-- The selected counter, or a trap. -/
  pmxevcntr : σ → Option Word

namespace DirectAccess

variable {σ : Type} (access : DirectAccess σ)

/-- `verify_token`. -/
def verifyToken (token : CapabilityToken) (requiredScope : CapabilityScope) (nowNs : Word) :
    Exec σ HalError Unit := do
  if !token.covers requiredScope then
    Exec.throw .invalidCapabilityToken
  else if token.isExpired nowNs then
    Exec.throw .invalidCapabilityToken
  else access.verifySignature token

/-- A word is as wide as an address here, so both numbers are passed on as they are. -/
def mapMmioRegion (token : CapabilityToken) (phys size : Word) : Exec σ HalError Word := do
  let state ← Exec.get
  access.verifyToken token (.mmioRegion phys size) (access.nowNs state)
  access.setupIdentityMapping
    { baseAddr := phys.toNat
      lengthBytes := size.toNat
      kind := .mmio
      behindIommu := access.iommuPresent }
    .deviceMmio

/-- The instruction of the architecture.  RISC-V can read two counters only. -/
def counterValue (counter : BitVec 32) : Architecture → Exec σ HalError Word
  | .x86_64 => do
      let state ← Exec.get
      let (low, high) ← Exec.expect (access.rdpmc counter state)
      pure ((high.setWidth 64 <<< 32) ||| low.setWidth 64)
  | .riscv64 => do
      let state ← Exec.get
      if counter = 0 then pure (access.cycle state)
      else if counter = 2 then pure (access.instret state)
      else Exec.throw .invalidCapabilityToken
  | .arm64 => do
      Exec.modify (access.selectCounter (counter.setWidth 64))
      let state ← Exec.get
      Exec.expect (access.pmxevcntr state)

def readPerformanceCounter (architecture : Architecture) (token : CapabilityToken)
    (counter : BitVec 32) : Exec σ HalError Word := do
  let state ← Exec.get
  access.verifyToken token (.performanceCounter counter) (access.nowNs state)
  access.counterValue counter architecture

/-- `core_id as u32` keeps the low half. -/
def pinThreadToCore (token : CapabilityToken) (coreId : Word) : Exec σ HalError Unit := do
  let state ← Exec.get
  access.verifyToken token (.threadAffinity (coreId.setWidth 32)) (access.nowNs state)

def setNumaPolicy (token : CapabilityToken) (_policy : NumaPolicy) :
    Exec σ HalError Unit := do
  let state ← Exec.get
  access.verifyToken token .numaPolicy (access.nowNs state)

/-! ## What a token is asked for -/

end DirectAccess

/-- A call of a method, with its arguments as the caller gives them. -/
inductive DirectRequest where
  | mapMmioRegion (phys size : Word)
  | readPerformanceCounter (counter : BitVec 32)
  | pinThreadToCore (coreId : Word)
  | setNumaPolicy (policy : NumaPolicy)
  deriving DecidableEq, Repr

inductive DirectAnswer where
  | mapped (virt : Word)
  | counted (value : Word)
  | accepted
  deriving DecidableEq, Repr

/-- The scope names exactly what the caller asks for. -/
def CapabilityScope.Names : CapabilityScope → DirectRequest → Prop
  | .mmioRegion physBase length, .mapMmioRegion phys size =>
      physBase.toNat = phys.toNat ∧ length.toNat = size.toNat
  | .performanceCounter counterId, .readPerformanceCounter counter =>
      counterId.toNat = counter.toNat
  | .threadAffinity core, .pinThreadToCore coreId => core.toNat = coreId.toNat
  | .numaPolicy, .setNumaPolicy _ => True
  | _, _ => False

/-- The scope that the method of a request compares with the token's. -/
def DirectRequest.requiredScope : DirectRequest → CapabilityScope
  | mapMmioRegion phys size => .mmioRegion phys size
  | readPerformanceCounter counter => .performanceCounter counter
  | pinThreadToCore coreId => .threadAffinity (coreId.setWidth 32)
  | setNumaPolicy _ => .numaPolicy

/-- A core that a word can name and 32 bits cannot. -/
def DirectRequest.CutShort : DirectRequest → Prop
  | pinThreadToCore coreId => 2 ^ 32 ≤ coreId.toNat
  | _ => False

instance : DecidablePred DirectRequest.CutShort := fun request =>
  match request with
  | .mapMmioRegion _ _ => isFalse id
  | .readPerformanceCounter _ => isFalse id
  | .pinThreadToCore coreId => inferInstanceAs (Decidable (2 ^ 32 ≤ coreId.toNat))
  | .setNumaPolicy _ => isFalse id

/-- The conversions name the request, unless they cut it short. -/
theorem DirectRequest.names_requiredScope (request : DirectRequest) :
    request.requiredScope.Names request ↔ ¬ request.CutShort := by
  cases request with
  | mapMmioRegion phys size => exact iff_of_true ⟨rfl, rfl⟩ id
  | readPerformanceCounter counter => exact iff_of_true rfl id
  | pinThreadToCore coreId =>
      change (coreId.setWidth 32).toNat = coreId.toNat ↔ ¬ 2 ^ 32 ≤ coreId.toNat
      rw [BitVec.toNat_setWidth, Nat.not_le]
      constructor
      · intro kept
        rw [← kept]
        exact Nat.mod_lt _ (by decide)
      · exact Nat.mod_eq_of_lt
  | setNumaPolicy policy => exact iff_of_true trivial id

namespace DirectAccess

variable {σ : Type} (access : DirectAccess σ)

/-- The call on one of the architectures. -/
def perform (architecture : Architecture) (token : CapabilityToken) :
    DirectRequest → Exec σ HalError DirectAnswer
  | .mapMmioRegion phys size => do
      let virt ← access.mapMmioRegion token phys size
      pure (.mapped virt)
  | .readPerformanceCounter counter => do
      let value ← access.readPerformanceCounter architecture token counter
      pure (.counted value)
  | .pinThreadToCore coreId => do
      access.pinThreadToCore token coreId
      pure .accepted
  | .setNumaPolicy policy => do
      access.setNumaPolicy token policy
      pure .accepted

/-- The call returns `Ok`. -/
def Grants (architecture : Architecture) (token : CapabilityToken) (request : DirectRequest)
    (state : σ) : Prop :=
  ∃ answer later, access.perform architecture token request state = .ok answer later

/-- The token has not expired, and it is genuine. -/
def Valid (token : CapabilityToken) (state : σ) : Prop :=
  token.isExpired (access.nowNs state) = false ∧
    ∃ later, access.verifySignature token state = .ok () later

/-- The token is good for the request. -/
structure Authorizes (token : CapabilityToken) (request : DirectRequest) (state : σ) : Prop where
  valid : access.Valid token state
  names : token.scope.Names request

theorem verifyToken_eq_ok {token : CapabilityToken} {scope : CapabilityScope} {nowNs : Word}
    {state later : σ} :
    access.verifyToken token scope nowNs state = .ok () later ↔
      token.scope = scope ∧ token.isExpired nowNs = false ∧
        access.verifySignature token state = .ok () later := by
  unfold verifyToken CapabilityToken.covers
  by_cases same : token.scope = scope
  · rw [same, beq_self_eq_true]
    cases token.isExpired nowNs with
    | true => simp
    | false => simp
  · rw [beq_false_of_ne same]
    simp [same]

/-- A request is granted only after its token has passed. -/
theorem verified_of_grants {architecture : Architecture} {token : CapabilityToken}
    {request : DirectRequest} {state : σ}
    (granted : access.Grants architecture token request state) :
    ∃ later, access.verifyToken token request.requiredScope (access.nowNs state) state =
      .ok () later := by
  obtain ⟨answer, final, ran⟩ := granted
  cases request with
  | mapMmioRegion phys size =>
      obtain ⟨virt, between, mapped, _⟩ := Exec.bind_eq_ok.1 ran
      rw [mapMmioRegion, Exec.get_bind_run] at mapped
      obtain ⟨_, later, verified, _⟩ := Exec.bind_eq_ok.1 mapped
      exact ⟨later, verified⟩
  | readPerformanceCounter counter =>
      obtain ⟨value, between, counted, _⟩ := Exec.bind_eq_ok.1 ran
      rw [readPerformanceCounter, Exec.get_bind_run] at counted
      obtain ⟨_, later, verified, _⟩ := Exec.bind_eq_ok.1 counted
      exact ⟨later, verified⟩
  | pinThreadToCore coreId =>
      obtain ⟨_, later, verified, _⟩ := Exec.bind_eq_ok.1 ran
      exact ⟨later, verified⟩
  | setNumaPolicy policy =>
      obtain ⟨_, later, verified, _⟩ := Exec.bind_eq_ok.1 ran
      exact ⟨later, verified⟩

/-- The gate of a core lets every token pass that is valid for the low half. -/
theorem grants_pinThreadToCore_iff (architecture : Architecture) (token : CapabilityToken)
    (coreId : Word) (state : σ) :
    access.Grants architecture token (.pinThreadToCore coreId) state ↔
      token.scope = .threadAffinity (coreId.setWidth 32) ∧ access.Valid token state := by
  constructor
  · intro granted
    obtain ⟨later, verified⟩ := access.verified_of_grants granted
    obtain ⟨scope, unexpired, genuine⟩ := access.verifyToken_eq_ok.1 verified
    exact ⟨scope, unexpired, later, genuine⟩
  · rintro ⟨scope, unexpired, later, genuine⟩
    have verified := access.verifyToken_eq_ok.2 ⟨scope, unexpired, genuine⟩
    exact ⟨.accepted, later, Exec.bind_of_ok verified _⟩

/-- On every architecture a request is granted only with a token for it, unless it names a
core that is cut short, and the token is valid for what is left of it. -/
theorem grants_only_authorized_iff (architecture : Architecture) (token : CapabilityToken)
    (request : DirectRequest) (state : σ) :
    (access.Grants architecture token request state → access.Authorizes token request state) ↔
      ¬ (request.CutShort ∧ token.scope = request.requiredScope ∧
        access.Valid token state) := by
  constructor
  · rintro only ⟨cutShort, scope, valid⟩
    cases request with
    | pinThreadToCore coreId =>
        have granted :=
          (access.grants_pinThreadToCore_iff architecture token coreId state).2 ⟨scope, valid⟩
        have names := (only granted).names
        rw [scope] at names
        exact (DirectRequest.names_requiredScope _).1 names cutShort
    | mapMmioRegion phys size => exact cutShort
    | readPerformanceCounter counter => exact cutShort
    | setNumaPolicy policy => exact cutShort
  · intro sound granted
    obtain ⟨later, verified⟩ := access.verified_of_grants granted
    obtain ⟨scope, unexpired, genuine⟩ := access.verifyToken_eq_ok.1 verified
    have valid : access.Valid token state := ⟨unexpired, later, genuine⟩
    constructor
    · exact valid
    · rw [scope]
      apply (DirectRequest.names_requiredScope request).2
      intro cutShort
      exact sound ⟨cutShort, scope, valid⟩

end DirectAccess

/-! ## A token for another core -/

/-- The verifier of the tests, which accepts a first byte of `0xAA`, at the time 1000. -/
def sampleAccess : DirectAccess Unit where
  verifySignature token :=
    match token.signatureBytes with
    | none => Exec.abort
    | some bytes =>
        if bytes.head? = some 0xAA then pure () else Exec.throw .invalidCapabilityToken
  nowNs _ := 1000
  iommuPresent := false
  setupIdentityMapping region _ := pure (BitVec.ofNat 64 region.baseAddr)
  rdpmc _ _ := some (0, 0)
  cycle _ := 0
  instret _ := 0
  selectCounter _ state := state
  pmxevcntr _ := some 0

/-- The token of the tests for one core. -/
def coreToken (coreId : BitVec 32) : CapabilityToken :=
  ((CapabilityToken.new 1 (.threadAffinity coreId) 2000).withSignature [0xAA]).getD
    (.new 1 .numaPolicy 0)

/-- A token for core 3 is good for another core, on all three architectures. -/
theorem another_core_is_accepted :
    (∀ architecture, sampleAccess.perform architecture (coreToken 3)
        (.pinThreadToCore 0x100000003) () = .ok .accepted ()) ∧
      ¬ sampleAccess.Authorizes (coreToken 3) (.pinThreadToCore 0x100000003) () := by
  constructor
  · intro architecture
    rfl
  · intro authorized
    have names : (3 : Nat) = 0x100000003 := authorized.names
    omega

end Simurgh
