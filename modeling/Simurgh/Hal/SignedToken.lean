import Simurgh.Hal.Direct
import Simurgh.Lib.Bytes

/-!
# What the signature of a token covers

The verifier checks a signature of a byte string that holds the subject, the scope and the
expiry.  Scopes of different widths share one slot of the string, and a tag says which scope
it is.  The string determines the fields, so a signature of one token is none of another.
-/

namespace Simurgh

namespace CapabilityToken

/-- `b"SimurghHalDirect"`. -/
def domainTag : List UInt8 :=
  [83, 105, 109, 117, 114, 103, 104, 72, 97, 108, 68, 105, 114, 101, 99, 116]

def encodedLen : Nat := 16 + 8 + 1 + 16 + 8

/-- `out[pos..pos + bytes.len()].copy_from_slice(bytes)`. -/
def copyAt (out : List UInt8) (pos : Nat) (bytes : List UInt8) : List UInt8 :=
  out.take pos ++ bytes ++ out.drop (pos + bytes.length)

/-- `encode_signed_fields`.  What a narrow scope leaves of the slot stays zero. -/
def encodeSignedFields (token : CapabilityToken) : List UInt8 :=
  let out := List.replicate encodedLen 0
  let pos := 0
  let out := copyAt out pos domainTag
  let pos := pos + 16
  let out := copyAt out pos (Bytes.encode 8 token.subjectId.toNat)
  let pos := pos + 8
  let (out, pos) :=
    match token.scope with
    | .mmioRegion physBase size =>
        let out := copyAt out pos [0]
        let pos := pos + 1
        let out := copyAt out pos (Bytes.encode 8 physBase.toNat)
        let out := copyAt out (pos + 8) (Bytes.encode 8 size.toNat)
        (out, pos + 16)
    | .performanceCounter counterId =>
        let out := copyAt out pos [1]
        let pos := pos + 1
        (copyAt out pos (Bytes.encode 4 counterId.toNat), pos + 16)
    | .threadAffinity coreId =>
        let out := copyAt out pos [2]
        let pos := pos + 1
        (copyAt out pos (Bytes.encode 4 coreId.toNat), pos + 16)
    | .numaPolicy => (copyAt out pos [3], pos + 1 + 16)
  copyAt out pos (Bytes.encode 8 token.expiresAtNs.toNat)

end CapabilityToken

/-- `Ed25519Verifier::verify_signature`.  `verifyStrict` is the check of the signature library
for the key of the verifier, of a message and a signature. -/
def Ed25519Verifier.verifySignature {σ : Type} (verifyStrict : List UInt8 → List UInt8 → Bool)
    (token : CapabilityToken) : Exec σ HalError Unit := do
  Exec.guard (decide (token.signatureLen.toNat = 64)) .invalidCapabilityToken
  let signature ← Exec.expect token.signatureBytes
  Exec.guard (verifyStrict token.encodeSignedFields signature) .invalidCapabilityToken

/-! ## The string determines the fields -/

/-- The tag of a scope and the slot behind it. -/
def CapabilityScope.encoded : CapabilityScope → List UInt8
  | .mmioRegion physBase size =>
      0 :: (Bytes.encode 8 physBase.toNat ++ Bytes.encode 8 size.toNat)
  | .performanceCounter counterId =>
      1 :: (Bytes.encode 4 counterId.toNat ++ List.replicate 12 0)
  | .threadAffinity coreId => 2 :: (Bytes.encode 4 coreId.toNat ++ List.replicate 12 0)
  | .numaPolicy => 3 :: List.replicate 16 0

namespace CapabilityScope

/-- A number fits the bytes of its type. -/
theorem encode_injective {width : Nat} {first second : BitVec (8 * width)}
    (same : Bytes.encode width first.toNat = Bytes.encode width second.toNat) :
    first = second := by
  have fits : ∀ word : BitVec (8 * width), word.toNat < 256 ^ width := by
    intro word
    have bound := word.isLt
    rw [Nat.pow_mul] at bound
    exact bound
  have digits := congrArg Bytes.decode same
  rw [Bytes.decode_encode, Bytes.decode_encode, Nat.mod_eq_of_lt (fits first),
    Nat.mod_eq_of_lt (fits second)] at digits
  exact BitVec.eq_of_toNat_eq digits

@[simp]
theorem length_encoded (scope : CapabilityScope) : scope.encoded.length = 17 := by
  cases scope <;> rfl

theorem encoded_injective {first second : CapabilityScope}
    (same : first.encoded = second.encoded) : first = second := by
  cases first with
  | mmioRegion physBase size =>
      cases second with
      | mmioRegion otherBase otherSize =>
          obtain ⟨base, size⟩ := List.append_inj (List.cons.inj same).2 (by simp)
          rw [encode_injective base, encode_injective size]
      | performanceCounter => cases (List.cons.inj same).1
      | threadAffinity => cases (List.cons.inj same).1
      | numaPolicy => cases (List.cons.inj same).1
  | performanceCounter counterId =>
      cases second with
      | performanceCounter otherId =>
          have counter := List.append_inj_left (List.cons.inj same).2 (by simp)
          rw [encode_injective counter]
      | mmioRegion => cases (List.cons.inj same).1
      | threadAffinity => cases (List.cons.inj same).1
      | numaPolicy => cases (List.cons.inj same).1
  | threadAffinity coreId =>
      cases second with
      | threadAffinity otherId =>
          have core := List.append_inj_left (List.cons.inj same).2 (by simp)
          rw [encode_injective core]
      | mmioRegion => cases (List.cons.inj same).1
      | performanceCounter => cases (List.cons.inj same).1
      | numaPolicy => cases (List.cons.inj same).1
  | numaPolicy =>
      cases second with
      | numaPolicy => rfl
      | mmioRegion => cases (List.cons.inj same).1
      | performanceCounter => cases (List.cons.inj same).1
      | threadAffinity => cases (List.cons.inj same).1

end CapabilityScope

namespace CapabilityToken

/-- The fields stand one behind the other. -/
theorem encodeSignedFields_eq (token : CapabilityToken) :
    token.encodeSignedFields = domainTag ++ (Bytes.encode 8 token.subjectId.toNat ++
      (token.scope.encoded ++ Bytes.encode 8 token.expiresAtNs.toNat)) := by
  unfold encodeSignedFields
  cases token.scope with
  | mmioRegion physBase size => rfl
  | performanceCounter counterId => rfl
  | threadAffinity coreId => rfl
  | numaPolicy => rfl

/-- Tokens with the same string have the same signed fields. -/
theorem eq_of_encodeSignedFields_eq {first second : CapabilityToken}
    (same : first.encodeSignedFields = second.encodeSignedFields) :
    first.subjectId = second.subjectId ∧ first.scope = second.scope ∧
      first.expiresAtNs = second.expiresAtNs := by
  rw [encodeSignedFields_eq, encodeSignedFields_eq] at same
  obtain ⟨subject, rest⟩ := List.append_inj (List.append_cancel_left same) (by simp)
  obtain ⟨scope, expiry⟩ := List.append_inj rest (by simp)
  exact ⟨CapabilityScope.encode_injective subject, CapabilityScope.encoded_injective scope,
    CapabilityScope.encode_injective expiry⟩

end CapabilityToken

/-! ## What an accepted token says -/

/-- A signature that the check accepts was issued, for a token with this string. -/
def SignsOnly (verifyStrict : List UInt8 → List UInt8 → Bool)
    (issued : CapabilityToken → List UInt8 → Prop) : Prop :=
  ∀ message signature, verifyStrict message signature = true →
    ∃ token, issued token signature ∧ token.encodeSignedFields = message

theorem Ed25519Verifier.verifySignature_eq_ok {σ : Type}
    {verifyStrict : List UInt8 → List UInt8 → Bool} {token : CapabilityToken} {state later : σ}
    (ran : Ed25519Verifier.verifySignature verifyStrict token state = .ok () later) :
    ∃ signature, token.signatureBytes = some signature ∧
      verifyStrict token.encodeSignedFields signature = true := by
  obtain ⟨_, middle, _, rest⟩ := Exec.bind_eq_ok.1 ran
  obtain ⟨signature, last, present, checked⟩ := Exec.bind_eq_ok.1 rest
  exact ⟨signature, (Exec.expect_eq_ok.1 present).1, (Exec.guard_eq_ok.1 checked).1⟩

/-- Different fields have different strings.  So a token that is accepted for a scope has a
signature that was issued for its subject, this scope and its expiry. -/
theorem accepted_token_was_issued {σ : Type} (access : DirectAccess σ)
    (verifyStrict : List UInt8 → List UInt8 → Bool)
    (verifies : access.verifySignature = Ed25519Verifier.verifySignature verifyStrict)
    (issued : CapabilityToken → List UInt8 → Prop)
    (signsOnly : SignsOnly verifyStrict issued) :
    (∀ first second : CapabilityToken, first.encodeSignedFields = second.encodeSignedFields →
      first.subjectId = second.subjectId ∧ first.scope = second.scope ∧
        first.expiresAtNs = second.expiresAtNs) ∧
      ∀ token scope nowNs state later,
        access.verifyToken token scope nowNs state = .ok () later →
        ∃ source signature, issued source signature ∧ token.signatureBytes = some signature ∧
          token.subjectId = source.subjectId ∧ scope = source.scope ∧
          token.scope = source.scope ∧ token.expiresAtNs = source.expiresAtNs := by
  refine ⟨fun _ _ => CapabilityToken.eq_of_encodeSignedFields_eq, ?_⟩
  intro token scope nowNs state later accepted
  obtain ⟨covered, _, verified⟩ := access.verifyToken_eq_ok.1 accepted
  rw [verifies] at verified
  obtain ⟨signature, present, checked⟩ := Ed25519Verifier.verifySignature_eq_ok verified
  obtain ⟨source, isIssued, same⟩ := signsOnly _ _ checked
  obtain ⟨subject, sameScope, expiry⟩ := CapabilityToken.eq_of_encodeSignedFields_eq same
  exact ⟨source, signature, isIssued, present, subject.symm, covered.symm.trans sameScope.symm,
    sameScope.symm, expiry.symm⟩

/-- The signature of a NUMA token under the key `[7; 32]`. -/
def sampleSignature : List UInt8 :=
  [41, 230, 127, 14, 126, 56, 67, 43, 52, 212, 150, 204, 141, 238, 98, 223,
    115, 252, 20, 240, 138, 199, 215, 34, 56, 107, 27, 38, 170, 35, 172, 5,
    223, 43, 141, 168, 216, 115, 251, 88, 138, 219, 139, 240, 252, 254, 161, 27,
    36, 142, 82, 193, 23, 245, 151, 251, 124, 95, 201, 10, 235, 195, 238, 12]

def sampleNumaToken : CapabilityToken :=
  (CapabilityToken.new 42 .numaPolicy 5000).withSignature sampleSignature |>.getD
    (CapabilityToken.new 42 .numaPolicy 5000)

/-- Accepts one signature of one message. -/
def sampleVerifyStrict (message signature : List UInt8) : Bool :=
  message == sampleNumaToken.encodeSignedFields && signature == sampleSignature

def signedAccess : DirectAccess Unit :=
  { sampleAccess with verifySignature := Ed25519Verifier.verifySignature sampleVerifyStrict }

theorem accepted_token_was_issued_sample :
    ∃ source signature, (source = sampleNumaToken ∧ signature = sampleSignature) ∧
      sampleNumaToken.signatureBytes = some signature ∧
      sampleNumaToken.subjectId = source.subjectId ∧ .numaPolicy = source.scope ∧
      sampleNumaToken.scope = source.scope ∧
      sampleNumaToken.expiresAtNs = source.expiresAtNs := by
  have signsOnly : SignsOnly sampleVerifyStrict
      fun token signature => token = sampleNumaToken ∧ signature = sampleSignature := by
    intro message signature accepted
    obtain ⟨sameMessage, sameSignature⟩ := Bool.and_eq_true_iff.1 accepted
    exact ⟨sampleNumaToken, ⟨rfl, beq_iff_eq.1 sameSignature⟩, (beq_iff_eq.1 sameMessage).symm⟩
  have accepted : signedAccess.verifyToken sampleNumaToken .numaPolicy 4999 () = .ok () () := rfl
  exact (accepted_token_was_issued signedAccess sampleVerifyStrict rfl _ signsOnly).2 _ _ _ _ _
    accepted

end Simurgh
