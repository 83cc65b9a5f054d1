import Mathlib.Tactic.Common

/-!
# Queues with one chain

A queue that a driver and a device share has two running indices of 16 bits: how many
chains were made available, and how many the device has returned.  Here all chains start
at the same descriptor, so that only one of them can be under way.
-/

/-- The memory of a queue, and how many chains the device has taken from it. -/
structure Virtqueue (δ : Type) where
  /-- The descriptor of all chains, with its buffer. -/
  chain : δ
  availIdx : UInt16
  usedIdx : UInt16
  takenIdx : UInt16

namespace Virtqueue

variable {δ φ : Type}

/-- The device takes a chain. -/
def take (queue : Virtqueue δ) : Virtqueue δ := { queue with takenIdx := queue.takenIdx + 1 }

/-- The device returns a chain. -/
def giveBack (queue : Virtqueue δ) : Virtqueue δ := { queue with usedIdx := queue.usedIdx + 1 }

/-- The queue when a driver that counts the chains has made `chain` available. -/
def publish (chain : δ) (nextIdx : UInt16) (queue : Virtqueue δ) : Virtqueue δ :=
  { queue with chain, availIdx := nextIdx }

/-! ## Accounting -/

/-- The indices count what was submitted, taken and returned.  What was submitted was
taken or is still described, and it is submitted only when all else is returned. -/
structure Accounts (content : δ → φ) (submitted taken : List φ) (returned : Nat)
    (queue : Virtqueue δ) : Prop where
  avail : queue.availIdx = .ofNat submitted.length
  device : queue.takenIdx = .ofNat taken.length
  used : queue.usedIdx = .ofNat returned
  late : submitted.length ≤ returned + 1
  early : returned ≤ taken.length
  conserved : submitted =
    taken ++ if taken.length < submitted.length then [content queue.chain] else []

theorem ofNat_succ_ne (n : Nat) : UInt16.ofNat (n + 1) ≠ UInt16.ofNat n := by
  intro same
  have residues := congrArg UInt16.toNat same
  rw [UInt16.toNat_ofNat', UInt16.toNat_ofNat'] at residues
  omega

namespace Accounts

variable {content : δ → φ} {submitted taken : List φ} {returned : Nat} {queue : Virtqueue δ}

theorem taken_le (accounts : queue.Accounts content submitted taken returned) :
    taken.length ≤ submitted.length := by
  rw [accounts.conserved, List.length_append]
  exact Nat.le_add_right _ _

/-- Two counts that differ by at most one are told apart. -/
theorem ofNat_inj_of_near {first second : Nat} (lower : first ≤ second)
    (upper : second ≤ first + 1) :
    UInt16.ofNat first = UInt16.ofNat second ↔ first = second := by
  constructor
  · intro same
    by_contra ne
    have next : second = first + 1 := by omega
    rw [next] at same
    exact ofNat_succ_ne first same.symm
  · exact congrArg UInt16.ofNat

/-- Nothing is under way. -/
theorem idle_iff (accounts : queue.Accounts content submitted taken returned) :
    queue.usedIdx = queue.availIdx ↔ returned = submitted.length := by
  rw [accounts.used, accounts.avail]
  exact ofNat_inj_of_near (Nat.le_trans accounts.early accounts.taken_le) accounts.late

/-- The device has taken everything. -/
theorem taken_iff (accounts : queue.Accounts content submitted taken returned) :
    queue.takenIdx = queue.availIdx ↔ taken.length = submitted.length := by
  rw [accounts.device, accounts.avail]
  exact ofNat_inj_of_near accounts.taken_le
    (Nat.le_trans accounts.late (Nat.succ_le_succ accounts.early))

/-- The device has returned what it took. -/
theorem returned_iff (accounts : queue.Accounts content submitted taken returned) :
    queue.usedIdx = queue.takenIdx ↔ returned = taken.length := by
  rw [accounts.used, accounts.device]
  exact ofNat_inj_of_near accounts.early (Nat.le_trans accounts.taken_le accounts.late)

/-- Who finds the index that it has published knows that its chain is returned, however
many others there were since. -/
theorem completed (accounts : queue.Accounts content submitted taken returned) {number : Nat}
    (submits : number ≤ submitted.length) (found : queue.usedIdx = .ofNat number) :
    number ≤ returned := by
  by_contra missing
  have last : number = returned + 1 := by
    have late := accounts.late
    omega
  rw [accounts.used, last] at found
  exact ofNat_succ_ne returned found.symm

theorem empty (chain : δ) : Accounts content [] [] 0
    { chain, availIdx := 0, usedIdx := 0, takenIdx := 0 } :=
  ⟨rfl, rfl, rfl, Nat.zero_le _, Nat.le_refl _, rfl⟩

/-- A chain is published when all else is returned, under the next index. -/
theorem publish (accounts : queue.Accounts content submitted taken returned)
    (idle : queue.usedIdx = queue.availIdx) {nextIdx : UInt16}
    (fresh : nextIdx = queue.availIdx + 1) (chain : δ) :
    (queue.publish chain nextIdx).Accounts content (submitted ++ [content chain]) taken
      returned := by
  have all := accounts.idle_iff.1 idle
  have took : taken.length = submitted.length :=
    Nat.le_antisymm accounts.taken_le (all ▸ accounts.early)
  have same : submitted = taken := by
    have conserved := accounts.conserved
    rwa [if_neg (by omega), List.append_nil] at conserved
  constructor
  · change nextIdx = _
    rw [fresh, accounts.avail, List.length_append, List.length_singleton, UInt16.ofNat_add]
    rfl
  · exact accounts.device
  · exact accounts.used
  · rw [List.length_append, List.length_singleton]
    omega
  · exact accounts.early
  · rw [List.length_append, List.length_singleton, if_pos (by omega), same]
    rfl

/-- While nothing is under way, the memory may change. -/
theorem rewrite (accounts : queue.Accounts content submitted taken returned)
    (idle : queue.usedIdx = queue.availIdx) (chain : δ) :
    Accounts content submitted taken returned { queue with chain } := by
  have all := accounts.idle_iff.1 idle
  have took : ¬ taken.length < submitted.length := by
    have early := accounts.early
    omega
  have conserved := accounts.conserved
  rw [if_neg took] at conserved
  constructor
  · exact accounts.avail
  · exact accounts.device
  · exact accounts.used
  · exact accounts.late
  · exact accounts.early
  · rwa [if_neg took]

/-- What the device does not read may change at any time. -/
theorem keep (accounts : queue.Accounts content submitted taken returned) (chain : δ)
    (same : content chain = content queue.chain) :
    Accounts content submitted taken returned { queue with chain } := by
  have conserved := accounts.conserved
  rw [← same] at conserved
  exact ⟨accounts.avail, accounts.device, accounts.used, accounts.late, accounts.early,
    conserved⟩

theorem take (accounts : queue.Accounts content submitted taken returned)
    (waits : queue.takenIdx ≠ queue.availIdx) :
    queue.take.Accounts content submitted (taken ++ [content queue.chain]) returned := by
  have missing : taken.length < submitted.length :=
    Nat.lt_of_le_of_ne accounts.taken_le fun all => waits (accounts.taken_iff.2 all)
  have conserved := accounts.conserved
  rw [if_pos missing] at conserved
  constructor
  · exact accounts.avail
  · change queue.takenIdx + 1 = _
    rw [accounts.device, List.length_append, List.length_singleton, UInt16.ofNat_add]
    rfl
  · exact accounts.used
  · exact accounts.late
  · rw [List.length_append]
    exact Nat.le_add_right_of_le accounts.early
  · rw [← conserved, if_neg (Nat.lt_irrefl _), List.append_nil]

theorem giveBack (accounts : queue.Accounts content submitted taken returned)
    (holds : queue.usedIdx ≠ queue.takenIdx) :
    queue.giveBack.Accounts content submitted taken (returned + 1) := by
  have missing : returned < taken.length :=
    Nat.lt_of_le_of_ne accounts.early fun all => holds (accounts.returned_iff.2 all)
  constructor
  · exact accounts.avail
  · exact accounts.device
  · change queue.usedIdx + 1 = _
    rw [accounts.used, UInt16.ofNat_add]
    rfl
  · exact Nat.le_succ_of_le accounts.late
  · exact missing
  · exact accounts.conserved

end Accounts

end Virtqueue
