import Simurgh.Lib.OnesComplement
import Simurgh.Lib.SliceReader

/-!
# ICMP echo frames

The network stack builds echo requests and replies and parses them.  A frame is an Ethernet
header of 14 bytes, an IPv4 header of 20 bytes and an ICMP message, each of the last two with
its own checksum.  `checks` tells builds that panic when the sum of a checksum overflows,
where a builder is `none`, from builds that wrap it.
-/

namespace Simurgh

open OnesComplement Slice

/-- `[u8; n]`. -/
abbrev Octets (n : Nat) := { bytes : List UInt8 // bytes.length = n }

/-- EtherType for IPv4. -/
def ethertypeIpv4 : UInt16 := 0x0800

/-- IPv4 protocol number for ICMP. -/
def ipProtoIcmp : UInt8 := 1

/-- ICMP type: echo request. -/
def icmpEchoRequest : UInt8 := 8

/-- ICMP type: echo reply. -/
def icmpEchoReply : UInt8 := 0

/-- A parsed inbound ICMP echo request. -/
@[ext]
structure EchoRequest where
  srcMac : Octets 6
  dstMac : Octets 6
  srcIp : Octets 4
  dstIp : Octets 4
  ident : UInt16
  seq : UInt16
  payload : List UInt8
  deriving DecidableEq

/-- A parsed inbound ICMP echo reply. -/
@[ext]
structure EchoReply where
  srcIp : Octets 4
  ident : UInt16
  seq : UInt16
  payload : List UInt8
  deriving DecidableEq

namespace Echo

/-- `u16::from_be_bytes`. -/
def fromBeBytes (high low : UInt8) : UInt16 := UInt16.ofNat (high.toNat * 256 + low.toNat)

/-- `to_be_bytes`. -/
def toBeBytes (value : UInt16) : List UInt8 :=
  [UInt8.ofNat (value.toNat / 256), UInt8.ofNat value.toNat]

/-- The RFC 1071 one's-complement checksum over `data`. -/
def checksum (checks : Bool) (data : List UInt8) : Option UInt16 :=
  let sum := wordSum data
  if checks = true ∧ 2 ^ 32 ≤ sum then none
  else some (~~~UInt16.ofNat (fold (sum % 2 ^ 32)))

/-! ## Building -/

/-- `f[pos..pos + bytes.len()].copy_from_slice(bytes)`. -/
def copyAt (f : List UInt8) (pos : Nat) (bytes : List UInt8) : List UInt8 :=
  f.take pos ++ bytes ++ f.drop (pos + bytes.length)

/-- A frame with both checksums filled in.  They are computed while their own bytes are zero. -/
def buildEcho (checks : Bool) (icmpType : UInt8) (dstMac srcMac : Octets 6)
    (srcIp dstIp : Octets 4) (ident seq : UInt16) (payload : List UInt8) :
    Option (List UInt8) := do
  let icmpLen := 8 + payload.length
  let ipTotal := 20 + icmpLen
  let f := dstMac.val ++ srcMac.val ++ toBeBytes ethertypeIpv4
  let ipStart := f.length
  let f := f ++ [0x45, 0x00] ++ toBeBytes (UInt16.ofNat ipTotal) ++ toBeBytes 0 ++
    toBeBytes 0x4000 ++ [64, ipProtoIcmp] ++ toBeBytes 0 ++ srcIp.val ++ dstIp.val
  let ipCsum ← checksum checks (bytesAt f ipStart 20)
  let f := copyAt f (ipStart + 10) (toBeBytes ipCsum)
  let icmpStart := f.length
  let f := f ++ [icmpType, 0] ++ toBeBytes 0 ++ toBeBytes ident ++ toBeBytes seq ++ payload
  let icmpCsum ← checksum checks (f.drop icmpStart)
  return copyAt f (icmpStart + 2) (toBeBytes icmpCsum)

/-- Builds the frame for an outbound echo request. -/
def buildEchoRequest (checks : Bool) (srcMac dstMac : Octets 6) (srcIp dstIp : Octets 4)
    (ident seq : UInt16) (payload : List UInt8) : Option (List UInt8) :=
  buildEcho checks icmpEchoRequest dstMac srcMac srcIp dstIp ident seq payload

/-- Builds the frame for the echo reply to `req`. -/
def buildEchoReply (checks : Bool) (req : EchoRequest) : Option (List UInt8) :=
  buildEcho checks icmpEchoReply req.srcMac req.dstMac req.dstIp req.srcIp req.ident req.seq
    req.payload

/-! ## Parsing -/

/-- `copy_from_slice(&frame[offset..offset + n])`, which panics past the end. -/
def readOctets (offset n : Nat) : Exec (List UInt8) Unit (Octets n) := fun frame =>
  if inside : Inside frame offset n then
    .ok ⟨bytesAt frame offset n, by
      rw [bytesAt, List.length_take, List.length_drop]
      unfold Inside at inside
      omega⟩ frame
  else .panic

/-- `frame[offset]`, which panics past the end. -/
def readByte (offset : Nat) : Exec (List UInt8) Unit UInt8 := do
  let frame ← Exec.get
  Exec.expect frame[offset]?

/-- `be16(b, i)?`. -/
def be16 (offset : Nat) : Exec (List UInt8) Unit UInt16 := do
  let frame ← Exec.get
  let high ← Exec.okOr () frame[offset]?
  let low ← Exec.okOr () frame[offset + 1]?
  return fromBeBytes high low

/-- The checks up to the protocol number, and the length of the IPv4 header. -/
def readIpHeader : Exec (List UInt8) Unit Nat := do
  let frame ← Exec.get
  let ethertype ← be16 12
  Exec.guard (ethertype == ethertypeIpv4) ()
  let first ← readByte 14
  let ihl := (first &&& 0x0F).toNat * 4
  Exec.guard (decide (20 ≤ ihl ∧ ihl ≤ frame.length - 14)) ()
  let protocol ← readByte (14 + 9)
  Exec.guard (protocol == ipProtoIcmp) ()
  return ihl

/-- The ICMP message behind the IPv4 header: its identifier, its sequence number and all that
follows. -/
def readIcmp (icmpType : UInt8) (ihl : Nat) :
    Exec (List UInt8) Unit (UInt16 × UInt16 × List UInt8) := do
  let frame ← Exec.get
  let icmp := 14 + ihl
  Exec.guard (decide (8 ≤ frame.length - icmp)) ()
  let kind ← readByte icmp
  Exec.guard (kind == icmpType) ()
  let ident ← be16 (icmp + 4)
  let seq ← be16 (icmp + 6)
  return (ident, seq, frame.drop (icmp + 8))

/-- Parses a frame that carries an ICMP echo request. -/
def parseEchoRequest : Exec (List UInt8) Unit EchoRequest := do
  let frame ← Exec.get
  Exec.guard (decide (14 + 20 + 8 ≤ frame.length)) ()
  let dstMac ← readOctets 0 6
  let srcMac ← readOctets 6 6
  let ihl ← readIpHeader
  let srcIp ← readOctets (14 + 12) 4
  let dstIp ← readOctets (14 + 16) 4
  let (ident, seq, payload) ← readIcmp icmpEchoRequest ihl
  return { srcMac, dstMac, srcIp, dstIp, ident, seq, payload }

/-- Parses a frame that carries an ICMP echo reply. -/
def parseEchoReply : Exec (List UInt8) Unit EchoReply := do
  let frame ← Exec.get
  Exec.guard (decide (14 + 20 + 8 ≤ frame.length)) ()
  let ihl ← readIpHeader
  let srcIp ← readOctets (14 + 12) 4
  let (ident, seq, payload) ← readIcmp icmpEchoReply ihl
  return { srcIp, ident, seq, payload }

/-! ## The layout of a frame -/

def ipHeader (total csum : UInt16) (srcIp dstIp : Octets 4) : List UInt8 :=
  [0x45, 0x00] ++ toBeBytes total ++ toBeBytes 0 ++ toBeBytes 0x4000 ++ [64, ipProtoIcmp] ++
    toBeBytes csum ++ srcIp.val ++ dstIp.val

def icmpMessage (icmpType : UInt8) (csum ident seq : UInt16) (payload : List UInt8) :
    List UInt8 :=
  [icmpType, 0] ++ toBeBytes csum ++ toBeBytes ident ++ toBeBytes seq ++ payload

def ethernetHeader (dstMac srcMac : Octets 6) : List UInt8 :=
  dstMac.val ++ srcMac.val ++ toBeBytes ethertypeIpv4

variable (checks : Bool) (icmpType : UInt8) (dstMac srcMac : Octets 6) (srcIp dstIp : Octets 4)
  (ident seq : UInt16) (payload : List UInt8)

/-- A frame with its two checksums. -/
def echoFrame (total ipCsum icmpCsum : UInt16) : List UInt8 :=
  ethernetHeader dstMac srcMac ++ (ipHeader total ipCsum srcIp dstIp ++
    icmpMessage icmpType icmpCsum ident seq payload)

@[simp]
theorem length_ethernetHeader : (ethernetHeader dstMac srcMac).length = 14 := by
  simp [ethernetHeader, dstMac.property, srcMac.property, toBeBytes]

@[simp]
theorem length_ipHeader (total csum : UInt16) : (ipHeader total csum srcIp dstIp).length = 20 := by
  simp [ipHeader, srcIp.property, dstIp.property, toBeBytes]

@[simp]
theorem length_icmpMessage (csum : UInt16) :
    (icmpMessage icmpType csum ident seq payload).length = 8 + payload.length := by
  simp only [icmpMessage, toBeBytes, List.length_append, List.length_cons, List.length_nil]

theorem copyAt_append (front back bytes : List UInt8) (pos : Nat) :
    copyAt (front ++ back) (front.length + pos) bytes = front ++ copyAt back pos bytes := by
  unfold copyAt
  rw [List.take_length_add_append, Nat.add_assoc, List.drop_length_add_append, List.append_assoc,
    List.append_assoc, List.append_assoc]

theorem copyAt_ipHeader (total csum : UInt16) :
    copyAt (ipHeader total 0 srcIp dstIp) 10 (toBeBytes csum) = ipHeader total csum srcIp dstIp :=
  rfl

theorem copyAt_icmpMessage (csum : UInt16) :
    copyAt (icmpMessage icmpType 0 ident seq payload) 2 (toBeBytes csum) =
      icmpMessage icmpType csum ident seq payload :=
  rfl

/-- The builder fills in the checksums of the header and of the message. -/
theorem buildEcho_eq :
    buildEcho checks icmpType dstMac srcMac srcIp dstIp ident seq payload =
      (do
        let total := UInt16.ofNat (20 + (8 + payload.length))
        let ipCsum ← checksum checks (ipHeader total 0 srcIp dstIp)
        let icmpCsum ← checksum checks (icmpMessage icmpType 0 ident seq payload)
        return echoFrame icmpType dstMac srcMac srcIp dstIp ident seq payload total ipCsum
          icmpCsum) := by
  have ethernet : dstMac.val ++ srcMac.val ++ toBeBytes ethertypeIpv4 =
      ethernetHeader dstMac srcMac := rfl
  have header : ∀ total,
      (ethernetHeader dstMac srcMac ++ [0x45, 0x00] ++ toBeBytes total ++ toBeBytes 0 ++
        toBeBytes 0x4000 ++ [64, ipProtoIcmp] ++ toBeBytes 0 ++ srcIp.val ++ dstIp.val) =
      ethernetHeader dstMac srcMac ++ ipHeader total 0 srcIp dstIp := by
    intro total
    simp only [ipHeader, List.append_assoc]
  have message : ∀ front : List UInt8,
      front ++ [icmpType, 0] ++ toBeBytes 0 ++ toBeBytes ident ++ toBeBytes seq ++ payload =
        front ++ icmpMessage icmpType 0 ident seq payload := by
    intro front
    simp only [icmpMessage, List.append_assoc]
  have sliced : ∀ total, bytesAt (ethernetHeader dstMac srcMac ++ ipHeader total 0 srcIp dstIp)
      (ethernetHeader dstMac srcMac).length 20 = ipHeader total 0 srcIp dstIp := by
    intro total
    rw [bytesAt, List.drop_left]
    exact List.take_of_length_le (by simp)
  simp only [buildEcho, ethernet, header, sliced, copyAt_append, copyAt_ipHeader, message,
    List.drop_left, copyAt_icmpMessage]
  simp only [echoFrame, List.append_assoc]

/-! ## Checksums -/

variable {checks} {data front back : List UInt8} {csum : UInt16}

theorem wordSum_lt (short : data.length ≤ 65535) : wordSum data < 2 ^ 32 := by
  have bound := wordSum_le data
  omega

theorem checksum_of_short (short : data.length ≤ 65535) :
    checksum checks data = some (~~~UInt16.ofNat (fold (wordSum data))) := by
  have few := wordSum_lt short
  unfold checksum
  rw [if_neg fun panics => Nat.not_le_of_lt few panics.2, Nat.mod_eq_of_lt few]

theorem toNat_complement {value : Nat} (small : value < 65536) :
    (~~~UInt16.ofNat value).toNat = 65535 - value := by
  rw [UInt16.toNat_not, UInt16.toNat_ofNat_of_lt' small]
  rfl

theorem toBeBytes_word (value : UInt16) :
    ∃ high low, toBeBytes value = [high, low] ∧ high.toNat * 256 + low.toNat = value.toNat := by
  have bound := value.toNat_lt
  refine ⟨_, _, rfl, ?_⟩
  rw [UInt8.toNat_ofNat', UInt8.toNat_ofNat']
  omega

/-- With its checksum filled in, a message verifies to zero. -/
theorem checksum_filled (even : front.length % 2 = 0)
    (short : (front ++ toBeBytes 0 ++ back).length ≤ 65535)
    (computed : checksum checks (front ++ toBeBytes 0 ++ back) = some csum) :
    checksum checks (front ++ toBeBytes csum ++ back) = some 0 := by
  have sameLength : (front ++ toBeBytes csum ++ back).length =
      (front ++ toBeBytes 0 ++ back).length := by
    simp only [List.length_append, toBeBytes, List.length_cons]
  obtain ⟨high, low, bytes, word⟩ := toBeBytes_word csum
  have inserted := wordSum_insert even high low back
  rw [checksum_of_short short, Option.some.injEq] at computed
  have complement : csum.toNat = 65535 - fold (wordSum (front ++ toBeBytes 0 ++ back)) := by
    rw [← computed, toNat_complement (fold_lt _)]
  rw [checksum_of_short (sameLength ▸ short)]
  have filled : wordSum (front ++ toBeBytes csum ++ back) =
      wordSum (front ++ toBeBytes 0 ++ back) +
        (65535 - fold (wordSum (front ++ toBeBytes 0 ++ back))) := by
    rw [← complement, ← word, bytes, List.append_assoc, List.append_assoc]
    exact inserted
  rw [filled, fold_add_complement]
  rfl

/-! ## What the parsers check -/

def byteAt (frame : List UInt8) (offset : Nat) : UInt8 := frame[offset]?.getD 0

def wordAt (frame : List UInt8) (offset : Nat) : UInt16 :=
  fromBeBytes (byteAt frame offset) (byteAt frame (offset + 1))

/-- The length of the IPv4 header, as the header gives it. -/
def ihlAt (frame : List UInt8) : Nat := (byteAt frame 14 &&& 0x0F).toNat * 4

/-- The headers that a parser for a type of message accepts. -/
structure Headers (icmpType : UInt8) (frame : List UInt8) : Prop where
  long : 14 + 20 + 8 ≤ frame.length
  ethertype : wordAt frame 12 = ethertypeIpv4
  ihl : 20 ≤ ihlAt frame
  protocol : byteAt frame (14 + 9) = ipProtoIcmp
  message : 14 + ihlAt frame + 8 ≤ frame.length
  kind : byteAt frame (14 + ihlAt frame) = icmpType

variable {frame : List UInt8} {offset n : Nat} {icmpType}

theorem getElem?_of_lt (inside : offset < frame.length) :
    frame[offset]? = some (byteAt frame offset) := by
  rw [byteAt, List.getElem?_eq_getElem inside]
  rfl

theorem readByte_run (inside : offset < frame.length) :
    readByte offset frame = .ok (byteAt frame offset) frame := by
  rw [readByte, Exec.get_bind_run, getElem?_of_lt inside]
  rfl

theorem be16_run (inside : offset + 1 < frame.length) :
    be16 offset frame = .ok (wordAt frame offset) frame := by
  rw [be16, Exec.get_bind_run, getElem?_of_lt (by omega), getElem?_of_lt inside]
  rfl

theorem readOctets_run (inside : Inside frame offset n) :
    ∃ octets : Octets n, octets.val = bytesAt frame offset n ∧
      readOctets offset n frame = .ok octets frame := by
  unfold readOctets
  rw [dif_pos inside]
  exact ⟨_, rfl, rfl⟩

/-- The checks of the Ethernet and the IPv4 header. -/
structure IpHeaders (frame : List UInt8) : Prop where
  ethertype : wordAt frame 12 = ethertypeIpv4
  ihl : 20 ≤ ihlAt frame
  inside : ihlAt frame ≤ frame.length - 14
  protocol : byteAt frame (14 + 9) = ipProtoIcmp

theorem Headers.ipHeaders (headers : Headers icmpType frame) : IpHeaders frame where
  ethertype := headers.ethertype
  ihl := headers.ihl
  inside := by
    have message := headers.message
    omega
  protocol := headers.protocol

theorem readIpHeader_cases (long : 14 + 20 + 8 ≤ frame.length) :
    (IpHeaders frame ∧ readIpHeader frame = .ok (ihlAt frame) frame) ∨
      (¬ IpHeaders frame ∧ readIpHeader frame = .err () frame) := by
  unfold readIpHeader
  rw [Exec.get_bind_run, Exec.bind_of_ok (be16_run (by omega)), Exec.guard_bind_run]
  by_cases ethertype : wordAt frame 12 = ethertypeIpv4
  · have ihlIs : (byteAt frame 14 &&& 0x0F).toNat * 4 = ihlAt frame := rfl
    rw [if_pos (beq_iff_eq.2 ethertype), Exec.bind_of_ok (readByte_run (by omega)), ihlIs,
      Exec.guard_bind_run]
    by_cases ihl : 20 ≤ ihlAt frame ∧ ihlAt frame ≤ frame.length - 14
    · rw [if_pos (decide_eq_true ihl), Exec.bind_of_ok (readByte_run (by omega)),
        Exec.guard_bind_run]
      by_cases protocol : byteAt frame (14 + 9) = ipProtoIcmp
      · rw [if_pos (beq_iff_eq.2 protocol)]
        exact .inl ⟨⟨ethertype, ihl.1, ihl.2, protocol⟩, rfl⟩
      · rw [if_neg (mt beq_iff_eq.1 protocol)]
        exact .inr ⟨fun headers => protocol headers.protocol, rfl⟩
    · rw [if_neg (mt of_decide_eq_true ihl)]
      exact .inr ⟨fun headers => ihl ⟨headers.ihl, headers.inside⟩, rfl⟩
  · rw [if_neg (mt beq_iff_eq.1 ethertype)]
    exact .inr ⟨fun headers => ethertype headers.ethertype, rfl⟩

theorem readIcmp_cases (icmpType : UInt8) (ihl : Nat) :
    ((14 + ihl + 8 ≤ frame.length ∧ byteAt frame (14 + ihl) = icmpType) ∧
        readIcmp icmpType ihl frame = .ok (wordAt frame (14 + ihl + 4),
          wordAt frame (14 + ihl + 6), frame.drop (14 + ihl + 8)) frame) ∨
      (¬ (14 + ihl + 8 ≤ frame.length ∧ byteAt frame (14 + ihl) = icmpType) ∧
        readIcmp icmpType ihl frame = .err () frame) := by
  unfold readIcmp
  rw [Exec.get_bind_run, Exec.guard_bind_run]
  by_cases message : 8 ≤ frame.length - (14 + ihl)
  · rw [if_pos (decide_eq_true message), Exec.bind_of_ok (readByte_run (by omega)),
      Exec.guard_bind_run]
    by_cases kind : byteAt frame (14 + ihl) = icmpType
    · rw [if_pos (beq_iff_eq.2 kind), Exec.bind_of_ok (be16_run (by omega)),
        Exec.bind_of_ok (be16_run (by omega))]
      exact .inl ⟨⟨by omega, kind⟩, rfl⟩
    · rw [if_neg (mt beq_iff_eq.1 kind)]
      exact .inr ⟨fun both => kind both.2, rfl⟩
  · rw [if_neg (mt of_decide_eq_true message)]
    exact .inr ⟨fun both => message (by omega), rfl⟩

/-- A request is parsed exactly if the headers are accepted. -/
theorem parseEchoRequest_cases (frame : List UInt8) :
    (Headers icmpEchoRequest frame ∧ ∃ request, parseEchoRequest frame = .ok request frame ∧
        request.dstMac.val = bytesAt frame 0 6 ∧ request.srcMac.val = bytesAt frame 6 6 ∧
        request.srcIp.val = bytesAt frame (14 + 12) 4 ∧
        request.dstIp.val = bytesAt frame (14 + 16) 4 ∧
        request.ident = wordAt frame (14 + ihlAt frame + 4) ∧
        request.seq = wordAt frame (14 + ihlAt frame + 6) ∧
        request.payload = frame.drop (14 + ihlAt frame + 8)) ∨
      (¬ Headers icmpEchoRequest frame ∧ parseEchoRequest frame = .err () frame) := by
  unfold parseEchoRequest
  rw [Exec.get_bind_run, Exec.guard_bind_run]
  by_cases long : 14 + 20 + 8 ≤ frame.length
  · have within : ∀ offset n, offset + n ≤ 42 → Inside frame offset n := by
      intro offset n fits
      unfold Inside
      omega
    obtain ⟨dstMac, dstMacIs, dstMacRead⟩ := readOctets_run (within 0 6 (by omega))
    obtain ⟨srcMac, srcMacIs, srcMacRead⟩ := readOctets_run (within 6 6 (by omega))
    obtain ⟨srcIp, srcIpIs, srcIpRead⟩ := readOctets_run (within (14 + 12) 4 (by omega))
    obtain ⟨dstIp, dstIpIs, dstIpRead⟩ := readOctets_run (within (14 + 16) 4 (by omega))
    rw [if_pos (decide_eq_true long), Exec.bind_of_ok dstMacRead, Exec.bind_of_ok srcMacRead]
    rcases readIpHeader_cases long with ⟨ip, ipRead⟩ | ⟨noIp, ipRead⟩
    · rw [Exec.bind_of_ok ipRead, Exec.bind_of_ok srcIpRead, Exec.bind_of_ok dstIpRead]
      rcases readIcmp_cases icmpEchoRequest (ihlAt frame) with
        ⟨⟨message, kind⟩, icmpRead⟩ | ⟨noMessage, icmpRead⟩
      · rw [Exec.bind_of_ok icmpRead]
        exact .inl ⟨⟨long, ip.ethertype, ip.ihl, ip.protocol, message, kind⟩, _, rfl, dstMacIs,
          srcMacIs, srcIpIs, dstIpIs, rfl, rfl, rfl⟩
      · rw [Exec.bind_of_err icmpRead]
        exact .inr ⟨fun headers => noMessage ⟨headers.message, headers.kind⟩, rfl⟩
    · rw [Exec.bind_of_err ipRead]
      exact .inr ⟨fun headers => noIp (headers.ipHeaders), rfl⟩
  · rw [if_neg (mt of_decide_eq_true long)]
    exact .inr ⟨fun headers => long headers.long, rfl⟩

/-- A reply is parsed exactly if the headers are accepted. -/
theorem parseEchoReply_cases (frame : List UInt8) :
    (Headers icmpEchoReply frame ∧ ∃ reply, parseEchoReply frame = .ok reply frame ∧
        reply.srcIp.val = bytesAt frame (14 + 12) 4 ∧
        reply.ident = wordAt frame (14 + ihlAt frame + 4) ∧
        reply.seq = wordAt frame (14 + ihlAt frame + 6) ∧
        reply.payload = frame.drop (14 + ihlAt frame + 8)) ∨
      (¬ Headers icmpEchoReply frame ∧ parseEchoReply frame = .err () frame) := by
  unfold parseEchoReply
  rw [Exec.get_bind_run, Exec.guard_bind_run]
  by_cases long : 14 + 20 + 8 ≤ frame.length
  · have within : Inside frame (14 + 12) 4 := by
      unfold Inside
      omega
    obtain ⟨srcIp, srcIpIs, srcIpRead⟩ := readOctets_run within
    rw [if_pos (decide_eq_true long)]
    rcases readIpHeader_cases long with ⟨ip, ipRead⟩ | ⟨noIp, ipRead⟩
    · rw [Exec.bind_of_ok ipRead, Exec.bind_of_ok srcIpRead]
      rcases readIcmp_cases icmpEchoReply (ihlAt frame) with
        ⟨⟨message, kind⟩, icmpRead⟩ | ⟨noMessage, icmpRead⟩
      · rw [Exec.bind_of_ok icmpRead]
        exact .inl ⟨⟨long, ip.ethertype, ip.ihl, ip.protocol, message, kind⟩, _, rfl, srcIpIs,
          rfl, rfl, rfl⟩
      · rw [Exec.bind_of_err icmpRead]
        exact .inr ⟨fun headers => noMessage ⟨headers.message, headers.kind⟩, rfl⟩
    · rw [Exec.bind_of_err ipRead]
      exact .inr ⟨fun headers => noIp (headers.ipHeaders), rfl⟩
  · rw [if_neg (mt of_decide_eq_true long)]
    exact .inr ⟨fun headers => long headers.long, rfl⟩

/-! ## Reading a frame back -/

theorem octets6_cases :
    ∀ octets : Octets 6, ∃ a b c d e f, octets = ⟨[a, b, c, d, e, f], rfl⟩
  | ⟨[a, b, c, d, e, f], _⟩ => ⟨a, b, c, d, e, f, rfl⟩

theorem octets4_cases : ∀ octets : Octets 4, ∃ a b c d, octets = ⟨[a, b, c, d], rfl⟩
  | ⟨[a, b, c, d], _⟩ => ⟨a, b, c, d, rfl⟩

theorem fromBeBytes_toBeBytes (value : UInt16) :
    fromBeBytes (UInt8.ofNat (value.toNat / 256)) (UInt8.ofNat value.toNat) = value := by
  have bound := value.toNat_lt
  apply UInt16.toNat_inj.1
  rw [fromBeBytes, UInt16.toNat_ofNat', UInt8.toNat_ofNat', UInt8.toNat_ofNat']
  omega

/-- Where the fields of a frame stand. -/
structure Reads (icmpType : UInt8) (dstMac srcMac : Octets 6) (srcIp dstIp : Octets 4)
    (ident seq : UInt16) (payload frame : List UInt8) : Prop where
  headers : Headers icmpType frame
  ihl : ihlAt frame = 20
  dstMac : bytesAt frame 0 6 = dstMac.val
  srcMac : bytesAt frame 6 6 = srcMac.val
  srcIp : bytesAt frame (14 + 12) 4 = srcIp.val
  dstIp : bytesAt frame (14 + 16) 4 = dstIp.val
  ident : wordAt frame (14 + 20 + 4) = ident
  seq : wordAt frame (14 + 20 + 6) = seq
  payload : frame.drop (14 + 20 + 8) = payload

section Offsets

variable (front back : List UInt8) (i : Nat)

theorem byteAt_append : byteAt (front ++ back) (front.length + i) = byteAt back i := by
  rw [byteAt, List.getElem?_append_right (Nat.le_add_right _ _), Nat.add_sub_cancel_left]
  rfl

theorem wordAt_append : wordAt (front ++ back) (front.length + i) = wordAt back i := by
  rw [wordAt, Nat.add_assoc, byteAt_append, byteAt_append]
  rfl

theorem bytesAt_append (width : Nat) :
    bytesAt (front ++ back) (front.length + i) width = bytesAt back i width := by
  rw [bytesAt, List.drop_length_add_append]
  rfl

end Offsets

section Frame

variable (icmpType : UInt8) (total ipCsum icmpCsum : UInt16) (i : Nat)

theorem byteAt_ip :
    byteAt (echoFrame icmpType dstMac srcMac srcIp dstIp ident seq payload total ipCsum icmpCsum)
        (14 + i) =
      byteAt (ipHeader total ipCsum srcIp dstIp ++
        icmpMessage icmpType icmpCsum ident seq payload) i := by
  rw [echoFrame, ← length_ethernetHeader dstMac srcMac]
  exact byteAt_append _ _ i

theorem bytesAt_ip (width : Nat) :
    bytesAt (echoFrame icmpType dstMac srcMac srcIp dstIp ident seq payload total ipCsum icmpCsum)
        (14 + i) width =
      bytesAt (ipHeader total ipCsum srcIp dstIp ++
        icmpMessage icmpType icmpCsum ident seq payload) i width := by
  rw [echoFrame, ← length_ethernetHeader dstMac srcMac]
  exact bytesAt_append _ _ i width

theorem byteAt_icmp :
    byteAt (echoFrame icmpType dstMac srcMac srcIp dstIp ident seq payload total ipCsum icmpCsum)
        (14 + (20 + i)) =
      byteAt (icmpMessage icmpType icmpCsum ident seq payload) i := by
  rw [byteAt_ip, ← length_ipHeader srcIp dstIp total ipCsum]
  exact byteAt_append _ _ i

theorem drop_icmp :
    (echoFrame icmpType dstMac srcMac srcIp dstIp ident seq payload total ipCsum icmpCsum).drop
        (14 + (20 + i)) =
      (icmpMessage icmpType icmpCsum ident seq payload).drop i := by
  rw [echoFrame, ← length_ethernetHeader dstMac srcMac, List.drop_length_add_append,
    ← length_ipHeader srcIp dstIp total ipCsum, List.drop_length_add_append]

theorem length_echoFrame :
    (echoFrame icmpType dstMac srcMac srcIp dstIp ident seq payload total ipCsum icmpCsum).length =
      14 + (20 + (8 + payload.length)) := by
  rw [echoFrame, List.length_append, List.length_append, length_ethernetHeader, length_ipHeader,
    length_icmpMessage]

theorem ihlAt_echoFrame :
    ihlAt (echoFrame icmpType dstMac srcMac srcIp dstIp ident seq payload total ipCsum icmpCsum) =
      20 := by
  have first : byteAt (ipHeader total ipCsum srcIp dstIp ++
      icmpMessage icmpType icmpCsum ident seq payload) 0 = 0x45 := rfl
  rw [ihlAt, ← Nat.add_zero 14, byteAt_ip, first]
  rfl

/-- The fields of a built frame are read back. -/
theorem echoFrame_reads :
    Reads icmpType dstMac srcMac srcIp dstIp ident seq payload
      (echoFrame icmpType dstMac srcMac srcIp dstIp ident seq payload total ipCsum icmpCsum) := by
  have ihl := ihlAt_echoFrame dstMac srcMac srcIp dstIp ident seq payload icmpType total ipCsum
    icmpCsum
  constructor
  · constructor
    · rw [length_echoFrame]
      omega
    · have behindMacs := wordAt_append (dstMac.val ++ srcMac.val)
        (toBeBytes ethertypeIpv4 ++ (ipHeader total ipCsum srcIp dstIp ++
          icmpMessage icmpType icmpCsum ident seq payload)) 0
      rw [List.length_append, dstMac.property, srcMac.property, ← List.append_assoc] at behindMacs
      exact behindMacs.trans (fromBeBytes_toBeBytes ethertypeIpv4)
    · rw [ihl]
    · rw [byteAt_ip]
      rfl
    · rw [ihl, length_echoFrame]
      omega
    · rw [ihl, ← Nat.add_zero (14 + 20), Nat.add_assoc, byteAt_icmp]
      rfl
  · exact ihl
  · obtain ⟨_, _, _, _, _, _, rfl⟩ := octets6_cases dstMac
    rfl
  · obtain ⟨_, _, _, _, _, _, rfl⟩ := octets6_cases dstMac
    obtain ⟨_, _, _, _, _, _, rfl⟩ := octets6_cases srcMac
    rfl
  · rw [bytesAt_ip]
    obtain ⟨_, _, _, _, rfl⟩ := octets4_cases srcIp
    rfl
  · rw [bytesAt_ip]
    obtain ⟨_, _, _, _, rfl⟩ := octets4_cases srcIp
    obtain ⟨_, _, _, _, rfl⟩ := octets4_cases dstIp
    rfl
  · rw [wordAt, Nat.add_assoc, Nat.add_assoc, Nat.add_assoc, byteAt_icmp, byteAt_icmp]
    exact fromBeBytes_toBeBytes ident
  · rw [wordAt, Nat.add_assoc, Nat.add_assoc, Nat.add_assoc, byteAt_icmp, byteAt_icmp]
    exact fromBeBytes_toBeBytes seq
  · rw [Nat.add_assoc, drop_icmp]
    rfl

end Frame

/-! ## Building and reading back -/

/-- The checksums over the IPv4 header and over the ICMP message are zero. -/
structure Verifies (checks : Bool) (frame : List UInt8) : Prop where
  header : checksum checks (bytesAt frame 14 20) = some 0
  message : checksum checks (frame.drop (14 + 20)) = some 0

theorem ipHeader_verifies {total : UInt16}
    (computed : checksum checks (ipHeader total 0 srcIp dstIp) = some csum) :
    checksum checks (ipHeader total csum srcIp dstIp) = some 0 := by
  have shape : ∀ csum, ipHeader total csum srcIp dstIp =
      ([0x45, 0x00] ++ toBeBytes total ++ toBeBytes 0 ++ toBeBytes 0x4000 ++ [64, ipProtoIcmp]) ++
        toBeBytes csum ++ (srcIp.val ++ dstIp.val) := by
    intro csum
    simp only [ipHeader, List.append_assoc]
  have short : (ipHeader total 0 srcIp dstIp).length ≤ 65535 := by
    rw [length_ipHeader]
    decide
  rw [shape] at computed short ⊢
  exact checksum_filled (by simp [toBeBytes]) short computed

theorem icmpMessage_verifies (icmpType : UInt8) (fits : 28 + payload.length ≤ 65535)
    (computed : checksum checks (icmpMessage icmpType 0 ident seq payload) = some csum) :
    checksum checks (icmpMessage icmpType csum ident seq payload) = some 0 := by
  have shape : ∀ csum, icmpMessage icmpType csum ident seq payload =
      [icmpType, 0] ++ toBeBytes csum ++ (toBeBytes ident ++ (toBeBytes seq ++ payload)) := by
    intro csum
    simp only [icmpMessage, List.append_assoc]
  have short : (icmpMessage icmpType 0 ident seq payload).length ≤ 65535 := by
    rw [length_icmpMessage]
    omega
  rw [shape] at computed short ⊢
  exact checksum_filled (by simp) short computed

/-- A frame that fits is built, its checksums verify, and its fields are read back. -/
theorem buildEcho_reads (checks : Bool) (icmpType : UInt8)
    (fits : 28 + payload.length ≤ 65535) :
    ∃ frame, buildEcho checks icmpType dstMac srcMac srcIp dstIp ident seq payload = some frame ∧
      Reads icmpType dstMac srcMac srcIp dstIp ident seq payload frame ∧
      Verifies checks frame := by
  let total := UInt16.ofNat (20 + (8 + payload.length))
  have headerShort : (ipHeader total 0 srcIp dstIp).length ≤ 65535 := by
    rw [length_ipHeader]
    decide
  have messageShort : (icmpMessage icmpType 0 ident seq payload).length ≤ 65535 := by
    rw [length_icmpMessage]
    omega
  obtain ⟨ipCsum, ipComputed⟩ :
      ∃ csum, checksum checks (ipHeader total 0 srcIp dstIp) = some csum :=
    ⟨_, checksum_of_short headerShort⟩
  obtain ⟨icmpCsum, icmpComputed⟩ :
      ∃ csum, checksum checks (icmpMessage icmpType 0 ident seq payload) = some csum :=
    ⟨_, checksum_of_short messageShort⟩
  refine ⟨echoFrame icmpType dstMac srcMac srcIp dstIp ident seq payload total ipCsum icmpCsum,
    ?_, echoFrame_reads dstMac srcMac srcIp dstIp ident seq payload icmpType total _ _, ?_, ?_⟩
  · rw [buildEcho_eq]
    simp only [total] at ipComputed ⊢
    rw [ipComputed, Option.bind_eq_bind, Option.bind_some, icmpComputed]
    rfl
  · have header : bytesAt (ipHeader total ipCsum srcIp dstIp ++
        icmpMessage icmpType icmpCsum ident seq payload) 0 20 =
        ipHeader total ipCsum srcIp dstIp := by
      rw [bytesAt, List.drop_zero, ← length_ipHeader srcIp dstIp total ipCsum, List.take_left]
    rw [← Nat.add_zero 14, bytesAt_ip, header]
    exact ipHeader_verifies srcIp dstIp ipComputed
  · rw [← Nat.add_zero (14 + 20), Nat.add_assoc, drop_icmp]
    exact icmpMessage_verifies ident seq payload icmpType fits icmpComputed

variable {dstMac srcMac srcIp dstIp ident seq payload}

/-- Where the fields stand determines what is parsed. -/
theorem Reads.parsed_request
    (reads : Reads icmpEchoRequest dstMac srcMac srcIp dstIp ident seq payload frame) :
    parseEchoRequest frame =
      .ok { srcMac, dstMac, srcIp, dstIp, ident, seq, payload } frame := by
  rcases parseEchoRequest_cases frame with
    ⟨_, request, parsed, dstMacIs, srcMacIs, srcIpIs, dstIpIs, identIs, seqIs, payloadIs⟩ |
      ⟨refused, _⟩
  · rw [reads.ihl] at identIs seqIs payloadIs
    rw [parsed]
    apply congrArg (Outcome.ok · frame)
    apply EchoRequest.ext
    · exact Subtype.ext (srcMacIs.trans reads.srcMac)
    · exact Subtype.ext (dstMacIs.trans reads.dstMac)
    · exact Subtype.ext (srcIpIs.trans reads.srcIp)
    · exact Subtype.ext (dstIpIs.trans reads.dstIp)
    · exact identIs.trans reads.ident
    · exact seqIs.trans reads.seq
    · exact payloadIs.trans reads.payload
  · exact absurd reads.headers refused

theorem Reads.parsed_reply
    (reads : Reads icmpEchoReply dstMac srcMac srcIp dstIp ident seq payload frame) :
    parseEchoReply frame = .ok { srcIp, ident, seq, payload } frame := by
  rcases parseEchoReply_cases frame with
    ⟨_, reply, parsed, srcIpIs, identIs, seqIs, payloadIs⟩ | ⟨refused, _⟩
  · rw [reads.ihl] at identIs seqIs payloadIs
    rw [parsed]
    apply congrArg (Outcome.ok · frame)
    apply EchoReply.ext
    · exact Subtype.ext (srcIpIs.trans reads.srcIp)
    · exact identIs.trans reads.ident
    · exact seqIs.trans reads.seq
    · exact payloadIs.trans reads.payload
  · exact absurd reads.headers refused

/-- A request that was built is parsed to what went into it.  The reply to it has both pairs of
addresses exchanged and keeps the rest, and it is parsed to that.  All checksums verify. -/
theorem echo_round_trip (checks : Bool) (srcMac dstMac : Octets 6) (srcIp dstIp : Octets 4)
    (ident seq : UInt16) (payload : List UInt8) (fits : 28 + payload.length ≤ 65535) :
    ∃ request reply,
      buildEchoRequest checks srcMac dstMac srcIp dstIp ident seq payload = some request ∧
      parseEchoRequest request =
        .ok { srcMac, dstMac, srcIp, dstIp, ident, seq, payload } request ∧
      buildEchoReply checks { srcMac, dstMac, srcIp, dstIp, ident, seq, payload } = some reply ∧
      bytesAt reply 0 6 = srcMac.val ∧ bytesAt reply 6 6 = dstMac.val ∧
      bytesAt reply (14 + 12) 4 = dstIp.val ∧ bytesAt reply (14 + 16) 4 = srcIp.val ∧
      parseEchoReply reply = .ok { srcIp := dstIp, ident, seq, payload } reply ∧
      Verifies checks request ∧ Verifies checks reply := by
  obtain ⟨request, requestBuilt, requestReads, requestVerifies⟩ :=
    buildEcho_reads dstMac srcMac srcIp dstIp ident seq payload checks icmpEchoRequest fits
  obtain ⟨reply, replyBuilt, replyReads, replyVerifies⟩ :=
    buildEcho_reads srcMac dstMac dstIp srcIp ident seq payload checks icmpEchoReply fits
  exact ⟨request, reply, requestBuilt, requestReads.parsed_request, replyBuilt,
    replyReads.dstMac, replyReads.srcMac, replyReads.srcIp, replyReads.dstIp,
    replyReads.parsed_reply, requestVerifies, replyVerifies⟩

theorem echo_round_trip_sample :
    ∃ request : List UInt8,
      parseEchoRequest request = .ok
        { srcMac := ⟨[2, 0, 0, 0, 0, 1], rfl⟩
          dstMac := ⟨[2, 0, 0, 0, 0, 2], rfl⟩
          srcIp := ⟨[10, 0, 2, 15], rfl⟩
          dstIp := ⟨[10, 0, 2, 2], rfl⟩
          ident := 1
          seq := 2
          payload := [97, 98, 99] } request ∧
      Verifies true request := by
  obtain ⟨request, _, _, parsed, _, _, _, _, _, _, verifies, _⟩ :=
    echo_round_trip true ⟨[2, 0, 0, 0, 0, 1], rfl⟩ ⟨[2, 0, 0, 0, 0, 2], rfl⟩
      ⟨[10, 0, 2, 15], rfl⟩ ⟨[10, 0, 2, 2], rfl⟩ 1 2 [97, 98, 99] (by decide)
  exact ⟨request, parsed, verifies⟩

end Echo

end Simurgh
