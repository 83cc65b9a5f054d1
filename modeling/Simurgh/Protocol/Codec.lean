import Simurgh.Protocol.Wire

/-!
# Codecs

Every protocol has one codec for its requests and one for its responses.  An encoder
fills an array with the fields of the value and sends as many words of it as the
operation has.  A decoder checks the label, the number of words and the words that must
be known codes.
-/

namespace Simurgh

/-! ## The words of a message -/

namespace SmallMessage

variable {msg : SmallMessage}

/-- The data words are words of 64 bits. -/
def Wide (msg : SmallMessage) : Prop := ∀ word ∈ msg.payload, word < 2 ^ 64

theorem Wide.word_lt (wide : msg.Wide) (i : Nat) : msg.word i < 2 ^ 64 := by
  unfold word
  by_cases inside : i < msg.payload.length
  · rw [List.getD_eq_getElem _ _ inside]
    exact wide _ (List.getElem_mem inside)
  · rw [List.getD_eq_default _ _ (Nat.le_of_not_lt inside)]
    decide

/-- The words from position `start` on are these. -/
def HasFrom (msg : SmallMessage) : Nat → List Nat → Prop
  | _, [] => True
  | start, word :: rest => msg.word start = word ∧ msg.HasFrom (start + 1) rest

theorem hasFrom_iff {fields : List Nat} {start : Nat} :
    msg.HasFrom start fields ↔
      ∀ i < fields.length, msg.word (start + i) = fields.getD i 0 := by
  induction fields generalizing start with
  | nil => simp [HasFrom]
  | cons word rest ih =>
      rw [HasFrom, ih]
      constructor
      · rintro ⟨first, others⟩ i inside
        cases i with
        | zero => exact first
        | succ i =>
            have other := others i (Nat.lt_of_succ_lt_succ inside)
            rw [Nat.add_right_comm] at other
            exact other
      · intro all
        refine ⟨all 0 (Nat.zero_lt_succ _), fun i inside => ?_⟩
        rw [Nat.add_right_comm]
        exact all (i + 1) (Nat.succ_lt_succ inside)

end SmallMessage

/-- A word keeps its value in a field of 32 bits. -/
theorem eq_toNat_ofNat32_iff {word : Nat} : word = (UInt32.ofNat word).toNat ↔ word < 2 ^ 32 := by
  rw [UInt32.toNat_ofNat']
  omega

theorem eq_toNat_ofNat64_iff {word : Nat} : word = (UInt64.ofNat word).toNat ↔ word < 2 ^ 64 := by
  rw [UInt64.toNat_ofNat']
  omega

/-- A word keeps its value in a field that is true or false. -/
theorem eq_toNat_bool_iff {word : Nat} : word = (decide (word ≠ 0)).toNat ↔ word < 2 := by
  by_cases zero : word = 0
  · simp [zero]
  · simp only [ne_eq, zero, not_false_eq_true, decide_true, Bool.toNat_true]
    omega

/-! ## Codecs and layouts -/

/-- One direction of a protocol. -/
structure Codec (α : Type) where
  space : Namespace
  op : α → Nat
  /-- The array that the encoder fills. -/
  words : α → List Nat
  /-- How many words of the array are sent for an operation. -/
  count : Nat → Nat
  /-- What the decoder does after the label. -/
  read : Nat → SmallMessage → Except DecodeError α

/-- The documented layout of the messages of a codec. -/
structure Layout (α : Type) where
  /-- The words of a value, in the order of its fields. -/
  fields : α → List Nat
  /-- The number of words of an operation. -/
  need : Nat → Option Nat
  /-- The words that have to be known codes are known. -/
  valid : Nat → SmallMessage → Prop
  /-- Every word is in the range of its field. -/
  inRange : Nat → SmallMessage → Prop

namespace Codec

variable {α : Type}

def encode (codec : Codec α) (value : α) : SmallMessage :=
  .ofWords (codec.space.label (codec.op value))
    ((codec.words value).take (codec.count (codec.op value)))

def decode (codec : Codec α) (msg : SmallMessage) : Except DecodeError α := do
  let op ← msg.opcode codec.space
  codec.read op msg

variable {codec : Codec α} {layout : Layout α} {op n : Nat} {msg : SmallMessage}

theorem decode_of_opcode (labelled : msg.opcode codec.space = .ok op) :
    codec.decode msg = codec.read op msg := by
  unfold decode
  rw [labelled]
  rfl

/-- How a decoder reads a message with an operation. -/
inductive Reads (codec : Codec α) (layout : Layout α) (op : Nat) (msg : SmallMessage) :
    Prop where
  | taken (n : Nat) (value : α) (known : layout.need op = some n)
      (enough : n ≤ msg.payload.length) (valid : layout.valid op msg)
      (ran : codec.read op msg = .ok value) (same : codec.op value = op)
      (canonical : msg.Wide → (msg.HasFrom 0 (layout.fields value) ↔ layout.inRange op msg))
  | misfit (n : Nat) (known : layout.need op = some n) (enough : n ≤ msg.payload.length)
      (invalid : ¬ layout.valid op msg) (ran : codec.read op msg = .error .badField)
  | short (n : Nat) (known : layout.need op = some n) (missing : msg.payload.length < n)
      (ran : codec.read op msg = .error .truncated)
  | unknown (error : DecodeError) (unknown : layout.need op = none)
      (ran : codec.read op msg = .error error)

/-- A decoder that checks the number of words first. -/
theorem Reads.of_need {rest : Except DecodeError α} (known : layout.need op = some n)
    (ran : codec.read op msg = (do msg.need n; rest))
    (ends : (∃ value, rest = .ok value ∧ codec.op value = op ∧ layout.valid op msg ∧
        (msg.Wide → (msg.HasFrom 0 (layout.fields value) ↔ layout.inRange op msg))) ∨
      (rest = .error .badField ∧ ¬ layout.valid op msg)) : codec.Reads layout op msg := by
  by_cases enough : n ≤ msg.payload.length
  · rw [SmallMessage.need_of_le enough] at ran
    rcases ends with ⟨value, rfl, same, valid, canonical⟩ | ⟨rfl, invalid⟩
    · exact .taken n value known enough valid ran same canonical
    · exact .misfit n known enough invalid ran
  · rw [SmallMessage.need, if_pos (Nat.lt_of_not_le enough)] at ran
    exact .short n known (Nat.lt_of_not_le enough) ran

/-- A decoder that checks nothing else. -/
theorem Reads.plain {value : α} (known : layout.need op = some n)
    (ran : codec.read op msg = (do msg.need n; .ok value)) (same : codec.op value = op)
    (valid : layout.valid op msg)
    (canonical : msg.Wide → (msg.HasFrom 0 (layout.fields value) ↔ layout.inRange op msg)) :
    codec.Reads layout op msg :=
  .of_need known ran (.inl ⟨value, rfl, same, valid, canonical⟩)

/-- A decoder of a message without words. -/
theorem Reads.bare {value : α} (known : layout.need op = some 0)
    (ran : codec.read op msg = .ok value) (same : codec.op value = op)
    (valid : layout.valid op msg)
    (canonical : msg.HasFrom 0 (layout.fields value) ↔ layout.inRange op msg) :
    codec.Reads layout op msg :=
  .taken 0 value known (Nat.zero_le _) valid ran same fun _ => canonical

/-- A decoder that takes one word into a field of 32 bits. -/
theorem Reads.word32 {value : α} (known : layout.need op = some 1)
    (ran : codec.read op msg = (do msg.need 1; .ok value)) (same : codec.op value = op)
    (valid : layout.valid op msg)
    (fields : layout.fields value = [(UInt32.ofNat (msg.word 0)).toNat])
    (inRange : layout.inRange op msg ↔ msg.word 0 < 2 ^ 32) : codec.Reads layout op msg := by
  refine .plain known ran same valid fun _ => ?_
  rw [fields, inRange]
  simp only [SmallMessage.HasFrom, eq_toNat_ofNat32_iff, and_true]

/-- The decoder reads what the encoder writes, and messages have the documented layout. -/
structure Follows (codec : Codec α) (layout : Layout α) : Prop where
  op_lt : ∀ value, codec.op value < 256
  fits : ∀ value, (codec.words value).length ≤ msgMaxWords
  sends : ∀ value, layout.fields value <+: (codec.words value).take (codec.count (codec.op value))
  counted : ∀ value, layout.need (codec.op value) = some (layout.fields value).length
  takes : ∀ value (msg : SmallMessage), layout.fields value <+: msg.payload →
    codec.read (codec.op value) msg = .ok value
  reads : ∀ op (msg : SmallMessage), codec.Reads layout op msg

namespace Follows

theorem payload_encode (follows : codec.Follows layout) (value : α) :
    (codec.encode value).payload =
      (codec.words value).take (codec.count (codec.op value)) := by
  refine SmallMessage.payload_ofWords _ ?_
  have fits := follows.fits value
  rw [List.length_take]
  omega

theorem opcode_encode (follows : codec.Follows layout) (value : α) :
    (codec.encode value).opcode codec.space = .ok (codec.op value) :=
  SmallMessage.opcode_of_label (follows.op_lt value) (SmallMessage.label_ofWords _ _)

theorem starts_encode (follows : codec.Follows layout) (value : α) :
    layout.fields value <+: (codec.encode value).payload := by
  rw [follows.payload_encode value]
  exact follows.sends value

/-- A value is decoded from every message that starts with its fields. -/
theorem decode_of_prefix (follows : codec.Follows layout) {value : α}
    (labelled : msg.opcode codec.space = .ok (codec.op value))
    (starts : layout.fields value <+: msg.payload) : codec.decode msg = .ok value := by
  rw [decode_of_opcode labelled]
  exact follows.takes value msg starts

theorem decode_encode (follows : codec.Follows layout) (value : α) :
    codec.decode (codec.encode value) = .ok value :=
  follows.decode_of_prefix (follows.opcode_encode value) (follows.starts_encode value)

theorem decode_of_short (follows : codec.Follows layout)
    (labelled : msg.opcode codec.space = .ok op) (known : layout.need op = some n)
    (short : msg.payload.length < n) : codec.decode msg = .error .truncated := by
  rw [decode_of_opcode labelled]
  cases follows.reads op msg with
  | taken m value same enough =>
      obtain rfl := Option.some.inj (known.symm.trans same)
      exact absurd short (Nat.not_lt.2 enough)
  | misfit m same enough =>
      obtain rfl := Option.some.inj (known.symm.trans same)
      exact absurd short (Nat.not_lt.2 enough)
  | short m same missing ran => exact ran
  | unknown error unknown =>
      rw [known] at unknown
      cases unknown

end Follows

/-! ## Round trips -/

/-- Every value comes back from its own message, which has the documented words, and a
message with fewer words than documented is not read. -/
structure RoundTrips (codec : Codec α) (layout : Layout α) : Prop where
  back : ∀ value, codec.decode (codec.encode value) = .ok value
  sent : ∀ value, layout.fields value <+: (codec.encode value).payload ∧
    layout.need (codec.op value) = some (layout.fields value).length
  truncated : ∀ op n (msg : SmallMessage), msg.opcode codec.space = .ok op →
    layout.need op = some n → msg.payload.length < n → codec.decode msg = .error .truncated

theorem Follows.roundTrips (follows : codec.Follows layout) : codec.RoundTrips layout where
  back := follows.decode_encode
  sent := fun value => ⟨follows.starts_encode value, follows.counted value⟩
  truncated := fun _ _ _ => follows.decode_of_short

/-! ## Strict decoding -/

/-- What is decoded is what the message says, and a word outside the range of its field
is reported. -/
structure Strict (codec : Codec α) (layout : Layout α) (msg : SmallMessage) : Prop where
  canonical : ∀ value, codec.decode msg = .ok value →
    ∀ i < (layout.fields value).length, msg.word i = (codec.encode value).word i
  reported : ∀ op n, msg.opcode codec.space = .ok op → layout.need op = some n →
    n ≤ msg.payload.length → ¬ layout.inRange op msg → codec.decode msg = .error .badField

/-- No word that passes the checks of the decoder is outside the range of its field. -/
def Fits (codec : Codec α) (layout : Layout α) (msg : SmallMessage) : Prop :=
  ∀ op n, msg.opcode codec.space = .ok op → layout.need op = some n →
    n ≤ msg.payload.length → layout.valid op msg → layout.inRange op msg

theorem Follows.word_encode (follows : codec.Follows layout) (value : α) {i : Nat}
    (inside : i < (layout.fields value).length) :
    (codec.encode value).word i = (layout.fields value).getD i 0 :=
  (SmallMessage.of_prefix (follows.starts_encode value)).2 i inside

theorem Follows.canonical_iff (follows : codec.Follows layout) (value : α) :
    (∀ i < (layout.fields value).length, msg.word i = (codec.encode value).word i) ↔
      msg.HasFrom 0 (layout.fields value) := by
  rw [SmallMessage.hasFrom_iff]
  constructor
  · intro same i inside
    rw [Nat.zero_add, same i inside, follows.word_encode value inside]
  · intro same i inside
    have here := same i inside
    rw [Nat.zero_add] at here
    rw [here, follows.word_encode value inside]

/-- Two messages without further words that decode to the same value are the same. -/
theorem Strict.unique {other : SmallMessage} {value : α} (first : codec.Strict layout msg)
    (second : codec.Strict layout other) (ran : codec.decode msg = .ok value)
    (again : codec.decode other = .ok value)
    (long : msg.payload.length = (layout.fields value).length)
    (same : other.payload.length = msg.payload.length) : msg.payload = other.payload := by
  refine List.ext_getElem same.symm fun i inside within => ?_
  have here := first.canonical value ran i (long ▸ inside)
  rw [← second.canonical value again i (long ▸ inside)] at here
  unfold SmallMessage.word at here
  rw [List.getD_eq_getElem _ _ inside, List.getD_eq_getElem _ _ within] at here
  exact here

end Codec

end Simurgh
