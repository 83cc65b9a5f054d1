import Simurgh.Lib.Bytes
import Simurgh.Lib.Exec

/-!
# Reading a slice of bytes

The slice is the state of the reader, which never changes it.  Reading past the end aborts.
-/

namespace Slice

variable {ε α : Type}

/-- The bytes from `offset` on, as far as there are any. -/
def bytesAt (data : List UInt8) (offset width : Nat) : List UInt8 :=
  (data.drop offset).take width

/-- The number that is stored at `offset`, the lowest byte first. -/
def numberAt (data : List UInt8) (offset width : Nat) : Nat :=
  Bytes.decode (bytesAt data offset width)

/-- All bytes of the field are in the slice. -/
def Inside (data : List UInt8) (offset width : Nat) : Prop := offset + width ≤ data.length

instance (data : List UInt8) (offset width : Nat) : Decidable (Inside data offset width) :=
  inferInstanceAs (Decidable (_ ≤ _))

/-- `&data[offset..offset + width]`. -/
def readBytes (offset width : Nat) : Exec (List UInt8) ε (List UInt8) := do
  let data ← Exec.get
  Exec.ensure (Inside data offset width)
  return bytesAt data offset width

/-- A number of `width` bytes. -/
def readNumber (width offset : Nat) : Exec (List UInt8) ε Nat := do
  let bytes ← readBytes offset width
  return Bytes.decode bytes

variable {data : List UInt8} {offset width : Nat}

theorem readBytes_bind_of_inside (inside : Inside data offset width)
    (next : List UInt8 → Exec (List UInt8) ε α) :
    (readBytes offset width >>= next) data = next (bytesAt data offset width) data := by
  have ran : (readBytes offset width : Exec (List UInt8) ε _) data =
      .ok (bytesAt data offset width) data := by
    unfold readBytes
    rw [Exec.get_bind_run, decide_eq_true inside]
    rfl
  exact Exec.bind_of_ok ran next

theorem readNumber_bind_of_inside (inside : Inside data offset width)
    (next : Nat → Exec (List UInt8) ε α) :
    (readNumber width offset >>= next) data = next (numberAt data offset width) data := by
  have ran : (readNumber width offset : Exec (List UInt8) ε _) data =
      .ok (numberAt data offset width) data := readBytes_bind_of_inside inside _
  exact Exec.bind_of_ok ran next

theorem readNumber_bind_of_outside (outside : ¬ Inside data offset width)
    (next : Nat → Exec (List UInt8) ε α) :
    (readNumber width offset >>= next) data = .panic := by
  have ran : (readNumber width offset : Exec (List UInt8) ε _) data = .panic := by
    unfold readNumber readBytes
    rw [Exec.bind_assoc, Exec.get_bind_run, decide_eq_false outside]
    rfl
  rw [Exec.bind_run, ran]

end Slice
