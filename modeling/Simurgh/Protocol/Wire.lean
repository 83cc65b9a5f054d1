import Mathlib.Algebra.Order.Ring.Nat
import Mathlib.Data.List.GetD
import Mathlib.Tactic.Common
import Simurgh.Ipc.Message

/-!
# Messages on the wire

The label of a message names the protocol, its version and the operation.  The data
words carry the fields of the operation, in order.
-/

namespace Simurgh

/-! ## Labels -/

inductive Namespace where
  | fs
  | driver
  | display
  | netBypass
  | mm
  | security
  deriving DecidableEq, Repr

def protocolVersion : Nat := 1

namespace Namespace

def code : Namespace → Nat
  | fs => 1
  | driver => 2
  | display => 3
  | netBypass => 4
  | mm => 5
  | security => 6

/-- The namespace in the highest byte of a label. -/
def fromLabel (label : Nat) : Option Namespace :=
  match (label >>> 56) % 256 with
  | 1 => some fs
  | 2 => some driver
  | 3 => some display
  | 4 => some netBypass
  | 5 => some mm
  | 6 => some security
  | _ => none

def label (ns : Namespace) (opcode : Nat) : Nat :=
  (ns.code <<< 56) ||| (protocolVersion <<< 8) ||| opcode

end Namespace

/-- Version and operation. -/
def labelParts (label : Nat) : Nat × Nat := ((label >>> 8) % 0x10000, label % 0x100)

namespace Namespace

variable {opcode : Nat}

theorem label_eq (ns : Namespace) (small : opcode < 256) :
    ns.label opcode = ns.code * 2 ^ 56 + (256 + opcode) := by
  have version : protocolVersion <<< 8 ||| opcode = 256 + opcode :=
    (Nat.shiftLeft_add_eq_or_of_lt (i := 8) small 1).symm
  have rest : 256 + opcode < 2 ^ 56 := by omega
  unfold label
  rw [Nat.or_assoc, version, ← Nat.shiftLeft_add_eq_or_of_lt rest, Nat.shiftLeft_eq]

@[simp]
theorem fromLabel_label (ns : Namespace) (small : opcode < 256) :
    fromLabel (ns.label opcode) = some ns := by
  have top : (ns.label opcode >>> 56) % 256 = ns.code := by
    rw [label_eq ns small, Nat.shiftRight_eq_div_pow]
    have bounded : ns.code < 256 := by cases ns <;> decide
    omega
  unfold fromLabel
  rw [top]
  cases ns <;> rfl

@[simp]
theorem labelParts_label (ns : Namespace) (small : opcode < 256) :
    labelParts (ns.label opcode) = (protocolVersion, opcode) := by
  unfold labelParts protocolVersion
  rw [label_eq ns small, Nat.shiftRight_eq_div_pow, Prod.mk.injEq]
  constructor
  · omega
  · omega

end Namespace

/-! ## Data words -/

namespace SmallMessage

/-- `from_words`. -/
def fromWords (label : Nat) (data : List Nat) : Except IpcError SmallMessage :=
  if fits : data.length ≤ msgMaxWords then
    .ok
      { label
        words := Vector.ofFn fun i => data.getD i 0
        len := ⟨data.length, Nat.lt_succ_of_le fits⟩ }
  else .error .messageTooLong

/-- `from_words(label, data).unwrap_or(SmallMessage::new(label))`. -/
def ofWords (label : Nat) (data : List Nat) : SmallMessage :=
  match fromWords label data with
  | .ok msg => msg
  | .error _ => .new label

/-- The meaningful data words. -/
def payload (msg : SmallMessage) : List Nat := msg.words.toList.take msg.len

/-- `words()[i]`, where there are enough. -/
def word (msg : SmallMessage) (i : Nat) : Nat := msg.payload.getD i 0

variable {data : List Nat}

@[simp]
theorem label_ofWords (label : Nat) (data : List Nat) : (ofWords label data).label = label := by
  unfold ofWords fromWords
  by_cases fits : data.length ≤ msgMaxWords
  · rw [dif_pos fits]
  · rw [dif_neg fits]
    rfl

theorem payload_ofWords (label : Nat) (fits : data.length ≤ msgMaxWords) :
    (ofWords label data).payload = data := by
  unfold ofWords fromWords payload
  rw [dif_pos fits]
  apply List.ext_getElem
  · simp only [List.length_take, Vector.length_toList]
    omega
  · intro i inside insideData
    simp [List.getElem?_eq_getElem insideData]

end SmallMessage

/-! ## Decoding -/

inductive DecodeError where
  | wrongNamespace
  | versionMismatch
  | unknownOpcode
  | truncated
  | badField
  deriving DecidableEq, Repr

namespace SmallMessage

/-- The operation of a message of the namespace. -/
def opcode (ns : Namespace) (msg : SmallMessage) : Except DecodeError Nat :=
  if Namespace.fromLabel msg.label ≠ some ns then .error .wrongNamespace
  else if (labelParts msg.label).1 ≠ protocolVersion then .error .versionMismatch
  else .ok (labelParts msg.label).2

/-- The message has at least `n` data words. -/
def need (msg : SmallMessage) (n : Nat) : Except DecodeError Unit :=
  if msg.payload.length < n then .error .truncated else .ok ()

theorem opcode_of_label {ns : Namespace} {msg : SmallMessage} {op : Nat} (small : op < 256)
    (labelled : msg.label = ns.label op) : msg.opcode ns = .ok op := by
  unfold opcode
  rw [labelled, Namespace.fromLabel_label ns small, Namespace.labelParts_label ns small,
    if_neg (not_not.2 rfl), if_neg (not_not.2 rfl)]

theorem need_of_le {msg : SmallMessage} {n : Nat} (enough : n ≤ msg.payload.length) :
    msg.need n = .ok () := if_neg (Nat.not_lt.2 enough)

/-- A message that starts with some fields has enough words to read them. -/
theorem of_prefix {fields : List Nat} {msg : SmallMessage} (starts : fields <+: msg.payload) :
    (∀ n ≤ fields.length, msg.need n = .ok ()) ∧
      ∀ i < fields.length, msg.word i = fields.getD i 0 := by
  constructor
  · intro n enough
    exact need_of_le (Nat.le_trans enough starts.length_le)
  · intro i inside
    obtain ⟨rest, payload⟩ := starts
    unfold word
    rw [← payload, List.getD_append _ _ _ _ inside]

/-! ## What a message carries -/

/-- The message has the label and starts with the fields, whatever follows them. -/
structure Carries (label : Nat) (fields : List Nat) (msg : SmallMessage) : Prop where
  labelled : msg.label = label
  enough : fields.length ≤ msg.payload.length
  word : ∀ i < fields.length, msg.word i = fields.getD i 0

theorem Carries.starts {label : Nat} {fields : List Nat} {msg : SmallMessage}
    (carries : msg.Carries label fields) : fields <+: msg.payload := by
  refine List.prefix_iff_eq_take.2 (List.ext_getElem ?_ ?_)
  · have enough := carries.enough
    rw [List.length_take]
    omega
  · intro i inside within
    have enough := carries.enough
    have here : i < msg.payload.length := by omega
    have same := carries.word i inside
    rw [List.getD_eq_getElem _ _ inside] at same
    rw [List.getElem_take, ← same]
    exact (List.getD_eq_getElem _ _ here)

theorem carries_ofWords (label : Nat) {fields : List Nat} (fits : fields.length ≤ msgMaxWords) :
    (ofWords label fields).Carries label fields := by
  have payload := payload_ofWords label fits
  constructor
  · exact label_ofWords label fields
  · exact Nat.le_of_eq (congrArg List.length payload).symm
  · intro i _
    unfold word
    rw [payload]

end SmallMessage

end Simurgh
