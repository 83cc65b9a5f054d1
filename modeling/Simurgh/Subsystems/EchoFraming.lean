import Simurgh.Subsystems.Echo

/-!
# Padding and the total length

An Ethernet frame can be longer than the datagram in it, whose length stands in the IPv4
header.  The parsers do not read that length.  They take all bytes that were received.
-/

namespace Simurgh

open Slice

namespace Echo

/-- The length of the datagram, as the IPv4 header gives it. -/
def totalLengthAt (frame : List UInt8) : Nat := (wordAt frame (14 + 2)).toNat

/-- The headers of an echo message, with a total length that ends where the frame ends. -/
structure ValidEcho (frame : List UInt8) : Prop where
  accepted : Headers icmpEchoRequest frame ∨ Headers icmpEchoReply frame
  exact : 14 + totalLengthAt frame = frame.length

/-- Fewer bytes were received than the datagram has. -/
def Truncated (frame : List UInt8) : Prop := frame.length < 14 + totalLengthAt frame

instance (frame : List UInt8) : Decidable (Truncated frame) :=
  inferInstanceAs (Decidable (_ < _))

def parsedRequest (frame : List UInt8) : Option EchoRequest := (parseEchoRequest frame).value?

def parsedReply (frame : List UInt8) : Option EchoReply := (parseEchoReply frame).value?

/-- The total length delimits the message: bytes behind it make no difference, and a frame that
ends before it is rejected. -/
structure Delimits (frame padding : List UInt8) : Prop where
  padded : ValidEcho frame → parsedRequest (frame ++ padding) = parsedRequest frame ∧
    parsedReply (frame ++ padding) = parsedReply frame
  truncated : Truncated frame → parsedRequest frame = none ∧ parsedReply frame = none

variable {frame padding : List UInt8} {icmpType : UInt8} {offset : Nat}

/-! ## Bytes behind a frame -/

theorem byteAt_padded (inside : offset < frame.length) :
    byteAt (frame ++ padding) offset = byteAt frame offset := by
  rw [byteAt, List.getElem?_append_left inside]
  rfl

theorem wordAt_padded (inside : offset + 1 < frame.length) :
    wordAt (frame ++ padding) offset = wordAt frame offset := by
  rw [wordAt, byteAt_padded (Nat.lt_of_succ_lt inside), byteAt_padded inside]
  rfl

namespace Headers

theorem ihlAt_padded (headers : Headers icmpType frame) :
    ihlAt (frame ++ padding) = ihlAt frame := by
  have long := headers.long
  rw [ihlAt, byteAt_padded (by omega)]
  rfl

/-- The headers are accepted with padding behind them, too. -/
theorem padded (headers : Headers icmpType frame) (padding : List UInt8) :
    Headers icmpType (frame ++ padding) := by
  have long := headers.long
  have message := headers.message
  have same : ihlAt (frame ++ padding) = ihlAt frame := headers.ihlAt_padded
  have longer : frame.length ≤ (frame ++ padding).length := by
    rw [List.length_append]
    exact Nat.le_add_right _ _
  constructor
  · exact Nat.le_trans long longer
  · rw [wordAt_padded (by omega)]
    exact headers.ethertype
  · rw [same]
    exact headers.ihl
  · rw [byteAt_padded (by omega)]
    exact headers.protocol
  · rw [same]
    exact Nat.le_trans message longer
  · rw [same, byteAt_padded (by omega)]
    exact headers.kind

/-- A message that is parsed has all bytes behind its header. -/
theorem parsedRequest_eq (headers : Headers icmpEchoRequest frame) :
    ∃ request, parsedRequest frame = some request ∧
      request.payload = frame.drop (14 + ihlAt frame + 8) := by
  rcases parseEchoRequest_cases frame with
    ⟨_, request, parsed, _, _, _, _, _, _, payload⟩ | ⟨refused, _⟩
  · refine ⟨request, ?_, payload⟩
    rw [parsedRequest, parsed]
    rfl
  · exact absurd headers refused

theorem parsedReply_eq (headers : Headers icmpEchoReply frame) :
    ∃ reply, parsedReply frame = some reply ∧
      reply.payload = frame.drop (14 + ihlAt frame + 8) := by
  rcases parseEchoReply_cases frame with ⟨_, reply, parsed, _, _, _, payload⟩ | ⟨refused, _⟩
  · refine ⟨reply, ?_, payload⟩
    rw [parsedReply, parsed]
    rfl
  · exact absurd headers refused

theorem drop_padded (headers : Headers icmpType frame) (padding : List UInt8) :
    (frame ++ padding).drop (14 + ihlAt (frame ++ padding) + 8) =
      frame.drop (14 + ihlAt frame + 8) ++ padding := by
  rw [headers.ihlAt_padded, List.drop_append_of_le_length headers.message]

end Headers

theorem parsedRequest_eq_none (refused : ¬ Headers icmpEchoRequest frame) :
    parsedRequest frame = none := by
  rcases parseEchoRequest_cases frame with ⟨accepted, _⟩ | ⟨_, failed⟩
  · exact absurd accepted refused
  · rw [parsedRequest, failed]
    rfl

theorem parsedReply_eq_none (refused : ¬ Headers icmpEchoReply frame) :
    parsedReply frame = none := by
  rcases parseEchoReply_cases frame with ⟨accepted, _⟩ | ⟨_, failed⟩
  · exact absurd accepted refused
  · rw [parsedReply, failed]
    rfl

/-- Padding behind a message becomes part of it. -/
theorem padding_eq_nil (valid : ValidEcho frame)
    (request : parsedRequest (frame ++ padding) = parsedRequest frame)
    (reply : parsedReply (frame ++ padding) = parsedReply frame) : padding = [] := by
  cases valid.accepted with
  | inl headers =>
      obtain ⟨short, shortParsed, shortPayload⟩ := headers.parsedRequest_eq
      obtain ⟨long, longParsed, longPayload⟩ := (headers.padded padding).parsedRequest_eq
      rw [shortParsed, longParsed, Option.some.injEq] at request
      rw [request, shortPayload, headers.drop_padded] at longPayload
      exact List.self_eq_append_right.1 longPayload
  | inr headers =>
      obtain ⟨short, shortParsed, shortPayload⟩ := headers.parsedReply_eq
      obtain ⟨long, longParsed, longPayload⟩ := (headers.padded padding).parsedReply_eq
      rw [shortParsed, longParsed, Option.some.injEq] at reply
      rw [reply, shortPayload, headers.drop_padded] at longPayload
      exact List.self_eq_append_right.1 longPayload

/-- The total length delimits the message only where it makes no difference: no padding follows
a valid frame, and a truncated frame fails a check of its headers. -/
theorem delimits_iff (frame padding : List UInt8) :
    Delimits frame padding ↔
      (ValidEcho frame → padding = []) ∧
        (Truncated frame → ¬ Headers icmpEchoRequest frame ∧ ¬ Headers icmpEchoReply frame) := by
  constructor
  · intro delimits
    constructor
    · intro valid
      obtain ⟨request, reply⟩ := delimits.padded valid
      exact padding_eq_nil valid request reply
    · intro truncated
      obtain ⟨noRequest, noReply⟩ := delimits.truncated truncated
      constructor
      · intro headers
        obtain ⟨request, parsed, _⟩ := headers.parsedRequest_eq
        rw [noRequest] at parsed
        cases parsed
      · intro headers
        obtain ⟨reply, parsed, _⟩ := headers.parsedReply_eq
        rw [noReply] at parsed
        cases parsed
  · rintro ⟨unpadded, refused⟩
    constructor
    · intro valid
      rw [unpadded valid, List.append_nil]
      exact ⟨rfl, rfl⟩
    · intro truncated
      obtain ⟨noRequest, noReply⟩ := refused truncated
      exact ⟨parsedRequest_eq_none noRequest, parsedReply_eq_none noReply⟩

/-- An echo request of 28 bytes without payload. -/
def sampleFrame : List UInt8 :=
  [2, 0, 0, 0, 0, 2, 2, 0, 0, 0, 0, 1, 8, 0,
    69, 0, 0, 28, 0, 0, 64, 0, 64, 1, 34, 209, 10, 0, 2, 15, 10, 0, 2, 2,
    8, 0, 247, 252, 0, 1, 0, 2]

/-- The same request with a total length of 40 bytes, the last 12 of which are missing. -/
def sampleTruncated : List UInt8 :=
  [2, 0, 0, 0, 0, 2, 2, 0, 0, 0, 0, 1, 8, 0,
    69, 0, 0, 40, 0, 0, 64, 0, 64, 1, 34, 197, 10, 0, 2, 15, 10, 0, 2, 2,
    8, 0, 247, 252, 0, 1, 0, 2]

/-- With 18 bytes of padding the request has a payload, and the truncated one is accepted. -/
theorem total_length_ignored :
    ¬ Delimits sampleFrame (List.replicate 18 0) ∧ ¬ Delimits sampleTruncated [] := by
  constructor
  · intro delimits
    have valid : ValidEcho sampleFrame :=
      ⟨.inl ⟨by decide, by decide, by decide, by decide, by decide, by decide⟩, by decide⟩
    have same := congrArg (Option.map fun request => request.payload.length)
      (delimits.padded valid).1
    exact absurd same (by decide)
  · intro delimits
    have rejected := congrArg Option.isSome (delimits.truncated (by decide)).1
    exact absurd rejected (by decide)

end Echo

end Simurgh
