import Simurgh.Drivers.VirtioNet
import Simurgh.Glue.FileCalls
import Simurgh.Lib.Dialogue
import Simurgh.Protocol.Driver
import Simurgh.Protocol.NetBypass
import Simurgh.Subsystems.BumpAllocator
import Simurgh.Subsystems.EchoFraming

/-!
# The network stack as a process

The process asks the gateway for its hardware address, sends it one ping, and writes down how far
it got.  From then on it serves programs that want the network card for themselves.  It reaches
the network only through the driver, which may answer anything.  Each frame that it builds or
copies takes new bytes of a heap that never frees.  What the process says to its surroundings,
and when, is stated as a grammar of sessions, and its runs are exactly those sessions until an
allocation is refused.
-/

namespace Simurgh

open Slice Echo Dialogue

/-! ## Messages in pages -/

/-- A page has all words of the message that was written to it. -/
theorem SharedPage.payload_read_write (msg : SmallMessage) :
    msg.payload <+: (write msg).read.payload := by
  have fits : msg.payload.length ≤ msgMaxWords := by
    unfold SmallMessage.payload
    rw [List.length_take, Vector.length_toList]
    exact Nat.min_le_right _ _
  rw [payload_read, List.prefix_iff_eq_take]
  apply List.ext_getElem
  · rw [List.length_take, Vector.length_toList]
    omega
  · intro i inside insideTake
    simp [write, List.getD, List.getElem?_eq_getElem inside]

/-- A value is read back from the page that its message was written to. -/
theorem Codec.Follows.decode_page {β : Type} {codec : Codec β} {layout : Layout β}
    (follows : codec.Follows layout) (value : β) :
    codec.decode (SharedPage.write (codec.encode value)).read = .ok value := by
  refine follows.decode_of_prefix ?_
    ((follows.starts_encode value).trans (SharedPage.payload_read_write _))
  refine SmallMessage.opcode_of_label (follows.op_lt value) ?_
  rw [SharedPage.read, SmallMessage.label_ofWords]
  exact SmallMessage.label_ofWords _ _

/-! ## The address resolution protocol -/

/-- EtherType for ARP. -/
def ethertypeArp : UInt16 := 0x0806

/-- ARP hardware type: Ethernet. -/
def arpHtypeEthernet : UInt16 := 1

/-- ARP operation: request. -/
def arpOpRequest : UInt16 := 1

/-- ARP operation: reply. -/
def arpOpReply : UInt16 := 2

/-- Broadcast MAC. -/
def macBroadcast : Octets 6 := ⟨List.replicate 6 0xff, rfl⟩

namespace Netstack

/-- Builds a broadcast that asks who has `targetIp`. -/
def buildArpRequest (senderMac : Octets 6) (senderIp targetIp : Octets 4) : List UInt8 :=
  macBroadcast.val ++ senderMac.val ++ toBeBytes ethertypeArp ++ toBeBytes arpHtypeEthernet ++
    toBeBytes ethertypeIpv4 ++ [6, 4] ++ toBeBytes arpOpRequest ++ senderMac.val ++ senderIp.val ++
    List.replicate 6 0 ++ targetIp.val

/-- Parses an ARP reply, and returns the MAC of its sender if that has the expected address. -/
def parseArpReply (expectedSenderIp : Octets 4) : Exec (List UInt8) Unit (Octets 6) := do
  let frame ← Exec.get
  Exec.guard (decide (14 + 28 ≤ frame.length)) ()
  let ethertype ← be16 12
  Exec.guard (ethertype == ethertypeArp) ()
  let htype ← be16 14
  Exec.guard (htype == arpHtypeEthernet) ()
  let ptype ← be16 (14 + 2)
  Exec.guard (ptype == ethertypeIpv4) ()
  let hlen ← readByte (14 + 4)
  Exec.guard (hlen == 6) ()
  let plen ← readByte (14 + 5)
  Exec.guard (plen == 4) ()
  let oper ← be16 (14 + 6)
  Exec.guard (oper == arpOpReply) ()
  let senderIp ← readOctets (14 + 14) 4
  Exec.guard (senderIp == expectedSenderIp) ()
  readOctets (14 + 8) 6

/-! ## The process -/

def ourIp : Octets 4 := ⟨[10, 0, 2, 15], rfl⟩

def gatewayIp : Octets 4 := ⟨[10, 0, 2, 2], rfl⟩

def icmpIdent : UInt16 := 0x5151

def icmpSeq : UInt16 := 1

def icmpPayload : List UInt8 := "simurgh-ping".toList.map fun letter => letter.toUInt8

def maxPollAttempts : Nat := 5000

/-- What the process does outside its own memory. -/
inductive Act where
  /-- `GlobalAlloc::alloc` of so many bytes, and whether it returned a block. -/
  | alloc (size : Nat)
  | readDriverMac
  | stageFrameForTx (frame : List UInt8)
  /-- `write_shared_message`, `IPC_CALL`, and what `read_shared_message` finds then. -/
  | ipcCall (page : SharedPage)
  | copyReceivedFrame (len : Nat)
  | writeStatus (verdict : UInt8) (gwMac : Option (Octets 6))
  /-- `IPC_RECV`, and what `read_bypass_message` finds then. -/
  | ipcRecv
  /-- `write_bypass_message` and `IPC_REPLY`. -/
  | ipcReply (page : SharedPage)

/-- What it reads there. -/
abbrev Act.Ans : Act → Type
  | alloc _ => Bool
  | readDriverMac => Octets 6
  | stageFrameForTx _ => Unit
  | ipcCall _ => SharedPage
  | copyReceivedFrame len => Octets (min len frameMax)
  | writeStatus _ _ => Unit
  | ipcRecv => SharedPage
  | ipcReply _ => Unit

/-- Programs of the process.  The error is a panic. -/
abbrev Program := Dialogue Act Act.Ans Unit

def act (asked : Act) : Program asked.Ans := .request asked

/-- `Vec::with_capacity`, which panics if the allocator has no room. -/
def withCapacity : Nat → Program Unit
  | 0 => return ()
  | size + 1 => do
      let granted ← act (.alloc (size + 1))
      if granted then return () else .stop ()

/-- One call to the driver. -/
def callDriver (req : DriverRequest) : Program (Option DriverResponse) := do
  let page ← act (.ipcCall (.write (encodeDriverRequest req)))
  return (decodeDriverResponse page.read).toOption

/-- What the loop of `send_then_poll` does with an answer of the driver.  The parser copies so
many bytes of a frame. -/
def lookAt {α : Type} (parse : Exec (List UInt8) Unit α) (copies : List UInt8 → Nat)
    (goOn : Program (Option α)) : Option DriverResponse → Program (Option α)
  | some (.frameReceived len) => do
      -- `copy_received_frame`
      withCapacity (min len.toNat frameMax)
      let bytes ← act (.copyReceivedFrame len.toNat)
      withCapacity (copies bytes.val)
      match parse bytes.val with
      | .ok value _ => return some value
      | .err _ _ => goOn
      | .panic => .stop ()
  | some (.failed .noData) => goOn
  | _ => return none

/-- `for _ in 0..attempts` of `send_then_poll`. -/
def poll {α : Type} (parse : Exec (List UInt8) Unit α) (copies : List UInt8 → Nat) :
    Nat → Program (Option α)
  | 0 => return none
  | attempts + 1 => do
      let answer ← callDriver .pollFrame
      lookAt parse copies (poll parse copies attempts) answer

/-- What `send_then_poll` does with the answer to `SendFrame`. -/
def afterSend {α : Type} (parse : Exec (List UInt8) Unit α) (copies : List UInt8 → Nat) :
    Option DriverResponse → Program (Option α)
  | some .frameSent => poll parse copies maxPollAttempts
  | _ => return none

def sendThenPoll {α : Type} (frame : List UInt8) (parse : Exec (List UInt8) Unit α)
    (copies : List UInt8 → Nat) : Program (Option α) := do
  act (.stageFrameForTx frame)
  let answer ← callDriver (.sendFrame (.ofNat frame.length))
  afterSend parse copies answer

/-- `parse_arp_reply` copies nothing to the heap. -/
def copiesNothing (_ : List UInt8) : Nat := 0

/-- `parse_echo_reply` copies the payload of an echo reply. -/
def copiesPayload (frame : List UInt8) : Nat :=
  match parseEchoReply frame with
  | .ok reply _ => reply.payload.length
  | _ => 0

/-- The second closure of `subsystem_main`. -/
def parseMatch : Exec (List UInt8) Unit Unit := do
  let reply ← parseEchoReply
  Exec.guard (reply.ident == icmpIdent && reply.seq == icmpSeq &&
    (decide (icmpPayload.length ≤ reply.payload.length) &&
      reply.payload.take icmpPayload.length == icmpPayload)) ()

/-- What `subsystem_main` does once it knows the MAC of the gateway, or knows that it does not. -/
def pingGateway (checks : Bool) (ourMac : Octets 6) : Option (Octets 6) → Program Unit
  | none => act (.writeStatus 1 none)
  | some gwMac => do
      withCapacity (14 + (20 + (8 + icmpPayload.length)))
      match buildEchoRequest checks ourMac gwMac ourIp gatewayIp icmpIdent icmpSeq icmpPayload with
      | none => .stop ()
      | some echoRequest => do
          let matched ← sendThenPoll echoRequest parseMatch copiesPayload
          act (.writeStatus (if matched.isSome then 3 else 2) (some gwMac))

def drvQueueSize : UInt32 := 2

/-- The frame that `handle_bypass_request` stages. -/
def relayedFrame : List UInt8 :=
  List.replicate 6 0xff ++ List.replicate 6 0xb9 ++ [0xff, 0xff] ++ List.replicate 50 0xb5

/-- What `handle_bypass_request` does with the answer to `SendFrame`. -/
def afterRelay : Option DriverResponse → NetBypassResponse
  | some .frameSent => .relayed
  | _ => .denied

def handleBypassRequest : NetBypassRequest → Program NetBypassResponse
  | .requestDirectNic _ => return .granted 1 0 0 drvQueueSize
  | .release _ => return .released
  | .relayFrame => do
      act (.stageFrameForTx relayedFrame)
      let answer ← callDriver (.sendFrame (.ofNat relayedFrame.length))
      return afterRelay answer

/-- The response to a page. -/
def respond (page : SharedPage) : Program NetBypassResponse :=
  match decodeNetBypassRequest page.read with
  | .ok req => handleBypassRequest req
  | .error _ => return .denied

/-- Some rounds of the loop in `park`. -/
def park : Nat → Program Unit
  | 0 => return ()
  | rounds + 1 => do
      let page ← act .ipcRecv
      let resp ← respond page
      act (.ipcReply (.write (encodeNetBypassResponse resp)))
      park rounds

/-- `subsystem_main`, with some rounds of the loop in which it ends. -/
def subsystemMain (checks : Bool) (rounds : Nat) : Program Unit := do
  let ourMac ← act .readDriverMac
  withCapacity (14 + 28)
  let gwMac ← sendThenPoll (buildArpRequest ourMac ourIp gatewayIp) (parseArpReply gatewayIp)
    copiesNothing
  pingGateway checks ourMac gwMac
  park rounds

/-! ## What the process waits for -/

/-- An ARP reply in which the owner of `ip` gives its MAC. -/
structure ArpAnswer (ip : Octets 4) (mac : Octets 6) (frame : List UInt8) : Prop where
  long : 14 + 28 ≤ frame.length
  ethertype : Echo.wordAt frame 12 = ethertypeArp
  htype : Echo.wordAt frame 14 = arpHtypeEthernet
  ptype : Echo.wordAt frame (14 + 2) = ethertypeIpv4
  hlen : byteAt frame (14 + 4) = 6
  plen : byteAt frame (14 + 5) = 4
  oper : Echo.wordAt frame (14 + 6) = arpOpReply
  senderIp : bytesAt frame (14 + 14) 4 = ip.val
  senderMac : bytesAt frame (14 + 8) 6 = mac.val

/-- An echo reply with the numbers and the text of the ping.  Nothing is asked of its sender. -/
structure EchoAnswer (frame : List UInt8) : Prop where
  headers : Headers icmpEchoReply frame
  ident : Echo.wordAt frame (14 + ihlAt frame + 4) = icmpIdent
  seq : Echo.wordAt frame (14 + ihlAt frame + 6) = icmpSeq
  payload : icmpPayload <+: frame.drop (14 + ihlAt frame + 8)

/-! ## Sessions -/

abbrev Said := Exchange Act.Ans

/-- A call to the driver, and the page after it. -/
def called (req : DriverRequest) (page : SharedPage) : Said :=
  ⟨.ipcCall (.write (encodeDriverRequest req)), page⟩

/-- What the driver says in a page. -/
def answerOf (page : SharedPage) : Option DriverResponse :=
  (decodeDriverResponse page.read).toOption

/-- An allocation that is granted.  The allocator is not asked for nothing. -/
def allocated : Nat → List Said
  | 0 => []
  | size + 1 => [⟨.alloc (size + 1), true⟩]

/-- One poll of the driver, and the frame it showed. -/
inductive Look (copies : List UInt8 → Nat) : List Said → Option (List UInt8) → Prop
  | nothing (page : SharedPage) (answer : answerOf page = some (.failed .noData)) :
      Look copies [called .pollFrame page] none
  | frame (page : SharedPage) (len : UInt32) (bytes : Octets (min len.toNat frameMax))
      (answer : answerOf page = some (.frameReceived len)) :
      Look copies (called .pollFrame page :: (allocated (min len.toNat frameMax) ++
        ⟨.copyReceivedFrame len.toNat, bytes⟩ :: allocated (copies bytes.val))) (some bytes.val)

variable {α : Type} {wanted : α → List UInt8 → Prop} {copies : List UInt8 → Nat}

/-- Polls that do not show what is wanted. -/
inductive Waits (wanted : α → List UInt8 → Prop) (copies : List UInt8 → Nat) :
    Nat → List Said → Prop
  | start : Waits wanted copies 0 []
  | look {count : Nat} {talk rest : List Said} {seen : Option (List UInt8)}
      (look : Look copies talk seen) (unwanted : ∀ frame ∈ seen, ∀ value, ¬ wanted value frame)
      (waits : Waits wanted copies count rest) : Waits wanted copies (count + 1) (talk ++ rest)

/-- At most `limit` polls, and what they found. -/
inductive Polls (wanted : α → List UInt8 → Prop) (copies : List UInt8 → Nat) (limit : Nat) :
    List Said → Option α → Prop
  | answered {count : Nat} {waiting talk : List Said} {frame : List UInt8} {value : α}
      (waits : Waits wanted copies count waiting) (inTime : count < limit)
      (look : Look copies talk (some frame)) (shows : wanted value frame) :
      Polls wanted copies limit (waiting ++ talk) (some value)
  | outOfTime {waiting : List Said} (waits : Waits wanted copies limit waiting) :
      Polls wanted copies limit waiting none
  | broken {count : Nat} {waiting : List Said} (waits : Waits wanted copies count waiting)
      (inTime : count < limit) (page : SharedPage)
      (noData : answerOf page ≠ some (.failed .noData))
      (noFrame : ∀ len, answerOf page ≠ some (.frameReceived len)) :
      Polls wanted copies limit (waiting ++ [called .pollFrame page]) none

/-- One frame is sent, and the answer to it is waited for. -/
inductive Asks (wanted : α → List UInt8 → Prop) (copies : List UInt8 → Nat)
    (frame : List UInt8) : List Said → Option α → Prop
  | refused (page : SharedPage) (refused : answerOf page ≠ some .frameSent) :
      Asks wanted copies frame
        [⟨.stageFrameForTx frame, ()⟩, called (.sendFrame (.ofNat frame.length)) page] none
  | sent (page : SharedPage) {talk : List Said} {found : Option α}
      (sent : answerOf page = some .frameSent)
      (polls : Polls wanted copies maxPollAttempts talk found) :
      Asks wanted copies frame
        (⟨.stageFrameForTx frame, ()⟩ :: called (.sendFrame (.ofNat frame.length)) page :: talk)
        found

/-- How far the process got. -/
inductive Verdict where
  | arpFailed
  | pingFailed (gwMac : Octets 6)
  | success (gwMac : Octets 6)
  deriving DecidableEq

/-- The status that says so. -/
def Verdict.status : Verdict → Said
  | arpFailed => ⟨.writeStatus 1 none, ()⟩
  | pingFailed gwMac => ⟨.writeStatus 2 (some gwMac), ()⟩
  | success gwMac => ⟨.writeStatus 3 (some gwMac), ()⟩

/-- What is said once the MAC of the gateway is known, or known to be unknown. -/
inductive Pings (checks : Bool) (ourMac : Octets 6) :
    Option (Octets 6) → List Said → Verdict → Prop
  | unresolved : Pings checks ourMac none [] .arpFailed
  | failed (gwMac : Octets 6) {echoRequest : List UInt8} {talk : List Said}
      (built : buildEchoRequest checks ourMac gwMac ourIp gatewayIp icmpIdent icmpSeq icmpPayload =
        some echoRequest)
      (unmatched : Asks (fun _ : Unit => EchoAnswer) copiesPayload echoRequest talk none) :
      Pings checks ourMac (some gwMac)
        (allocated (14 + (20 + (8 + icmpPayload.length))) ++ talk) (.pingFailed gwMac)
  | matched (gwMac : Octets 6) {echoRequest : List UInt8} {talk : List Said}
      (built : buildEchoRequest checks ourMac gwMac ourIp gatewayIp icmpIdent icmpSeq icmpPayload =
        some echoRequest)
      (matched : Asks (fun _ : Unit => EchoAnswer) copiesPayload echoRequest talk (some ())) :
      Pings checks ourMac (some gwMac)
        (allocated (14 + (20 + (8 + icmpPayload.length))) ++ talk) (.success gwMac)

/-- All that the process says and hears before it writes its status. -/
inductive Session (checks : Bool) : List Said → Verdict → Prop
  | session (ourMac : Octets 6) {gwMac : Option (Octets 6)} {arp ping : List Said}
      {verdict : Verdict}
      (resolves : Asks (ArpAnswer gatewayIp) copiesNothing
        (buildArpRequest ourMac ourIp gatewayIp) arp gwMac)
      (pings : Pings checks ourMac gwMac ping verdict) :
      Session checks (⟨.readDriverMac, ourMac⟩ :: (allocated (14 + 28) ++ (arp ++ ping))) verdict

/-- What is said between a request, as it is decoded, and the response to it. -/
inductive Relays : Except DecodeError NetBypassRequest → List Said → NetBypassResponse → Prop
  | granted (nicId : UInt32) :
      Relays (.ok (.requestDirectNic nicId)) [] (.granted 1 0 0 drvQueueSize)
  | released (handle : DirectNicHandle) : Relays (.ok (.release handle)) [] .released
  | relayed (page : SharedPage) (sent : answerOf page = some .frameSent) :
      Relays (.ok .relayFrame) [⟨.stageFrameForTx relayedFrame, ()⟩,
        called (.sendFrame (.ofNat relayedFrame.length)) page] .relayed
  | refused (page : SharedPage) (refused : answerOf page ≠ some .frameSent) :
      Relays (.ok .relayFrame) [⟨.stageFrameForTx relayedFrame, ()⟩,
        called (.sendFrame (.ofNat relayedFrame.length)) page] .denied
  | unknown (error : DecodeError) : Relays (.error error) [] .denied

/-- Some requests, each with its response. -/
inductive Serves : Nat → List Said → Prop
  | start : Serves 0 []
  | round {count : Nat} {talk rest : List Said} {page reply : SharedPage}
      {resp : NetBypassResponse}
      (relays : Relays (decodeNetBypassRequest page.read) talk resp)
      (reads : decodeNetBypassResponse reply.read = .ok resp)
      (written : reply = .write (encodeNetBypassResponse resp)) (serves : Serves count rest) :
      Serves (count + 1) (⟨.ipcRecv, page⟩ :: (talk ++ ⟨.ipcReply reply, ()⟩ :: rest))

/-! ## The heap -/

/-- The allocator returned a null pointer. -/
def Refused : Said → Prop
  | ⟨.alloc _, granted⟩ => granted = false
  | _ => False

/-- No allocation was refused. -/
def Granted (talk : List Said) : Prop := ∀ exchange ∈ talk, ¬ Refused exchange

/-- The bytes that the allocator was asked for. -/
def asked : List Said → Nat
  | [] => 0
  | ⟨.alloc size, _⟩ :: rest => size + asked rest
  | _ :: rest => asked rest

/-- The allocator answers as the one of the image answers one thread, with so many bytes in use. -/
def HeapAnswers : Nat → List Said → Prop
  | _, [] => True
  | used, ⟨.alloc size, granted⟩ :: rest =>
      (∃ layout : BumpAllocator.Layout, layout.align = 1 ∧ layout.size.toNat = size ∧
        granted = (BumpAllocator.answerOf .netstack layout used).isSome) ∧
      HeapAnswers (if granted then used + size else used) rest
  | used, _ :: rest => HeapAnswers used rest

/-- The heap refuses nothing exactly as long as what was asked for fits. -/
theorem granted_iff_fits {used : Nat} {talk : List Said} (answers : HeapAnswers used talk)
    (inside : used ≤ BumpAllocator.Image.netstack.heapBytes.toNat) :
    Granted talk ↔ used + asked talk ≤ BumpAllocator.Image.netstack.heapBytes.toNat := by
  induction talk generalizing used with
  | nil => exact iff_of_true (fun _ here => absurd here List.not_mem_nil) inside
  | cons exchange rest ih =>
      rw [Granted, List.forall_mem_cons]
      obtain ⟨request, answer⟩ := exchange
      cases request with
      | alloc size =>
          obtain ⟨⟨layout, align, rfl, granted⟩, later⟩ := answers
          rw [BumpAllocator.isSome_answerOf align] at granted
          rw [asked, ← Nat.add_assoc]
          cases answer with
          | true =>
              have room := of_decide_eq_true granted.symm
              exact (and_iff_right Bool.false_ne_true.symm).trans (ih later room)
          | false =>
              have full := of_decide_eq_false granted.symm
              exact iff_of_false (fun both => both.1 rfl) (by omega)
      | _ => exact (and_iff_right id).trans (ih answers inside)

section Allocations

variable {β : Type} {talk : List Said}

theorem act_stops {said : Act} (harmless : ∀ answer, ¬ Refused ⟨said, answer⟩) :
    (act said).StopsAt Refused :=
  fun answer => ⟨fun refused => absurd refused (harmless answer), fun _ => trivial⟩

theorem withCapacity_stops (size : Nat) : (withCapacity size).StopsAt Refused := by
  cases size with
  | zero => trivial
  | succ size =>
      intro granted
      cases granted with
      | false => exact ⟨fun _ => ⟨(), rfl⟩, fun harmless => absurd rfl harmless⟩
      | true => exact ⟨fun refused => absurd refused Bool.false_ne_true.symm, fun _ => trivial⟩

theorem withCapacity_safely_iff {size : Nat} {after : Unit → Program β}
    {result : Except Unit β} :
    (withCapacity size >>= after).TalksSafely Refused talk result ↔
      ∃ rest, talk = allocated size ++ rest ∧ (after ()).TalksSafely Refused rest result := by
  cases size with
  | zero =>
      constructor
      · intro talks
        exact ⟨talk, rfl, talks⟩
      · rintro ⟨_, rfl, talks⟩
        exact talks
  | succ size =>
      rw [withCapacity, act, request_bind, ask_bind, safely_ask_iff]
      constructor
      · rintro ⟨granted, rest, rfl, harmless, talks⟩
        cases granted with
        | false => exact absurd rfl harmless
        | true => exact ⟨rest, rfl, talks⟩
      · rintro ⟨rest, rfl, talks⟩
        exact ⟨true, rest, rfl, Bool.false_ne_true.symm, talks⟩

end Allocations

/-! ## The parsers -/

/-- The parser returns what the frame shows, and refuses frames that show nothing. -/
structure Recognises (parse : Exec (List UInt8) Unit α) (wanted : α → List UInt8 → Prop) :
    Prop where
  shows : ∀ {value frame}, wanted value frame → parse frame = .ok value frame
  refuses : ∀ {frame}, (∀ value, ¬ wanted value frame) → parse frame = .err () frame

theorem Recognises.of_cases {parse : Exec (List UInt8) Unit α}
    (same : ∀ {first second frame}, wanted first frame → wanted second frame → first = second)
    (cases : ∀ frame, (∃ value, wanted value frame ∧ parse frame = .ok value frame) ∨
      ((∀ value, ¬ wanted value frame) ∧ parse frame = .err () frame)) :
    Recognises parse wanted where
  shows := by
    intro value frame shows
    rcases cases frame with ⟨other, otherShows, parsed⟩ | ⟨unwanted, -⟩
    · rw [same shows otherShows]
      exact parsed
    · exact absurd shows (unwanted value)
  refuses := by
    intro frame unwanted
    rcases cases frame with ⟨value, shows, -⟩ | ⟨-, refused⟩
    · exact absurd shows (unwanted value)
    · exact refused

theorem guard_beq_run {β : Type} [BEq β] [LawfulBEq β] [DecidableEq β] {found expected : β}
    {after : Unit → Exec (List UInt8) Unit α} {frame : List UInt8} :
    (Exec.guard (found == expected) () >>= after) frame =
      if found = expected then after () frame else .err () frame := by
  rw [Exec.guard_bind_run]
  by_cases same : found = expected
  · rw [if_pos same, if_pos (beq_iff_eq.mpr same)]
  · rw [if_neg same, if_neg (mt beq_iff_eq.mp same)]

theorem parseArpReply_recognises (ip : Octets 4) :
    Recognises (parseArpReply ip) (ArpAnswer ip) := by
  refine .of_cases (fun first second => ?_) fun frame => ?_
  · exact Subtype.ext (first.senderMac.symm.trans second.senderMac)
  unfold parseArpReply
  rw [Exec.get_bind_run, Exec.guard_bind_run]
  by_cases long : 14 + 28 ≤ frame.length
  case neg =>
    rw [if_neg (mt of_decide_eq_true long)]
    exact .inr ⟨fun _ answer => long answer.long, rfl⟩
  have within : ∀ offset n, offset + n ≤ 42 → Inside frame offset n := by
    intro offset n fits
    unfold Inside
    omega
  obtain ⟨senderIp, senderIpIs, senderIpRead⟩ := readOctets_run (within (14 + 14) 4 (by omega))
  obtain ⟨senderMac, senderMacIs, senderMacRead⟩ := readOctets_run (within (14 + 8) 6 (by omega))
  rw [if_pos (decide_eq_true long), Exec.bind_of_ok (be16_run (by omega)), guard_beq_run]
  split_ifs with ethertype
  case neg => exact .inr ⟨fun _ answer => ethertype answer.ethertype, rfl⟩
  rw [Exec.bind_of_ok (be16_run (by omega)), guard_beq_run]
  split_ifs with htype
  case neg => exact .inr ⟨fun _ answer => htype answer.htype, rfl⟩
  rw [Exec.bind_of_ok (be16_run (by omega)), guard_beq_run]
  split_ifs with ptype
  case neg => exact .inr ⟨fun _ answer => ptype answer.ptype, rfl⟩
  rw [Exec.bind_of_ok (readByte_run (by omega)), guard_beq_run]
  split_ifs with hlen
  case neg => exact .inr ⟨fun _ answer => hlen answer.hlen, rfl⟩
  rw [Exec.bind_of_ok (readByte_run (by omega)), guard_beq_run]
  split_ifs with plen
  case neg => exact .inr ⟨fun _ answer => plen answer.plen, rfl⟩
  rw [Exec.bind_of_ok (be16_run (by omega)), guard_beq_run]
  split_ifs with oper
  case neg => exact .inr ⟨fun _ answer => oper answer.oper, rfl⟩
  rw [Exec.bind_of_ok senderIpRead, guard_beq_run]
  split_ifs with same
  case neg =>
    exact .inr ⟨fun _ answer => same (Subtype.ext (senderIpIs.trans answer.senderIp)), rfl⟩
  rw [senderMacRead]
  exact .inl ⟨senderMac, ⟨long, ethertype, htype, ptype, hlen, plen, oper,
    senderIpIs.symm.trans (congrArg Subtype.val same), senderMacIs.symm⟩, rfl⟩

theorem take_eq_iff_prefix {text bytes : List UInt8} :
    (text.length ≤ bytes.length ∧ bytes.take text.length = text) ↔ text <+: bytes := by
  rw [List.prefix_iff_eq_take]
  constructor
  · rintro ⟨-, same⟩
    exact same.symm
  · intro same
    have bound := congrArg List.length same
    rw [List.length_take] at bound
    exact ⟨by omega, same.symm⟩

theorem parseMatch_recognises : Recognises parseMatch fun _ : Unit => EchoAnswer := by
  refine .of_cases (fun _ _ => rfl) fun frame => ?_
  unfold parseMatch
  rcases parseEchoReply_cases frame with
    ⟨headers, reply, parsed, -, identIs, seqIs, payloadIs⟩ | ⟨refused, parsed⟩
  · rw [Exec.bind_of_ok parsed]
    have decides : (reply.ident == icmpIdent && reply.seq == icmpSeq &&
        (decide (icmpPayload.length ≤ reply.payload.length) &&
          reply.payload.take icmpPayload.length == icmpPayload)) = true ↔ EchoAnswer frame := by
      rw [Bool.and_eq_true, Bool.and_eq_true, Bool.and_eq_true, beq_iff_eq, beq_iff_eq, beq_iff_eq,
        decide_eq_true_iff, take_eq_iff_prefix, identIs, seqIs, payloadIs]
      constructor
      · rintro ⟨⟨ident, seq⟩, payload⟩
        exact ⟨headers, ident, seq, payload⟩
      · rintro ⟨-, ident, seq, payload⟩
        exact ⟨⟨ident, seq⟩, payload⟩
    by_cases answer : EchoAnswer frame
    · rw [decides.mpr answer]
      exact .inl ⟨(), answer, rfl⟩
    · rw [Bool.eq_false_iff.mpr (mt decides.mp answer)]
      exact .inr ⟨fun _ => answer, rfl⟩
  · rw [Exec.bind_of_err parsed]
    exact .inr ⟨fun _ answer => refused answer.headers, rfl⟩

/-! ## Polls -/

section Polling

variable {limit : Nat} {talk : List Said} {found : Option α}

/-- A poll that is the last one, or one before the others. -/
theorem polls_succ_iff :
    Polls wanted copies (limit + 1) talk found ↔
      (∃ frame value, Look copies talk (some frame) ∧ wanted value frame ∧ found = some value) ∨
      (∃ look seen rest, Look copies look seen ∧ (∀ frame ∈ seen, ∀ value, ¬ wanted value frame) ∧
        Polls wanted copies limit rest found ∧ talk = look ++ rest) ∨
      (∃ page, answerOf page ≠ some (.failed .noData) ∧
        (∀ len, answerOf page ≠ some (.frameReceived len)) ∧
        talk = [called .pollFrame page] ∧ found = none) := by
  constructor
  · intro polls
    cases polls with
    | answered waits inTime look shows =>
        cases waits with
        | start => exact .inl ⟨_, _, look, shows, rfl⟩
        | look first unwanted waits =>
            refine .inr (.inl ⟨_, _, _, first, unwanted, ?_, List.append_assoc _ _ _⟩)
            exact .answered waits (Nat.lt_of_succ_lt_succ inTime) look shows
    | outOfTime waits =>
        cases waits with
        | look first unwanted waits =>
            exact .inr (.inl ⟨_, _, _, first, unwanted, .outOfTime waits, rfl⟩)
    | broken waits inTime page noData noFrame =>
        cases waits with
        | start => exact .inr (.inr ⟨page, noData, noFrame, rfl, rfl⟩)
        | look first unwanted waits =>
            refine .inr (.inl ⟨_, _, _, first, unwanted, ?_, List.append_assoc _ _ _⟩)
            exact .broken waits (Nat.lt_of_succ_lt_succ inTime) page noData noFrame
  · rintro (⟨frame, value, look, shows, rfl⟩ | ⟨look, seen, rest, first, unwanted, polls, rfl⟩ |
      ⟨page, noData, noFrame, rfl, rfl⟩)
    · exact .answered .start (Nat.succ_pos limit) look shows
    · cases polls with
      | answered waits inTime look shows =>
          rw [← List.append_assoc]
          exact .answered (.look first unwanted waits) (Nat.succ_lt_succ inTime) look shows
      | outOfTime waits => exact .outOfTime (.look first unwanted waits)
      | broken waits inTime page noData noFrame =>
          rw [← List.append_assoc]
          exact .broken (.look first unwanted waits) (Nat.succ_lt_succ inTime) page noData noFrame
    · exact .broken .start (Nat.succ_pos limit) page noData noFrame

theorem polls_zero_iff : Polls wanted copies 0 talk found ↔ talk = [] ∧ found = none := by
  constructor
  · intro polls
    cases polls with
    | answered _ inTime => exact absurd inTime (Nat.not_lt_zero _)
    | outOfTime waits =>
        cases waits
        exact ⟨rfl, rfl⟩
    | broken _ inTime => exact absurd inTime (Nat.not_lt_zero _)
  · rintro ⟨rfl, rfl⟩
    exact .outOfTime .start

variable {parse : Exec (List UInt8) Unit α} {result : Except Unit (Option α)}

/-- A call is one exchange. -/
theorem callDriver_bind {β : Type} (req : DriverRequest)
    (after : Option DriverResponse → Program β) :
    callDriver req >>= after =
      .ask (.ipcCall (.write (encodeDriverRequest req))) fun page => after (answerOf page) := rfl

/-- What follows a frame, once it was looked at. -/
def afterFrame (parse : Exec (List UInt8) Unit α) (goOn : Program (Option α))
    (frame : List UInt8) : Program (Option α) :=
  match parse frame with
  | .ok value _ => .done (some value)
  | .err _ _ => goOn
  | .panic => .stop ()

theorem lookAt_nothing (goOn : Program (Option α)) :
    lookAt parse copies goOn (some (.failed .noData)) = goOn := rfl

theorem lookAt_frame (goOn : Program (Option α)) (len : UInt32) :
    lookAt parse copies goOn (some (.frameReceived len)) =
      (withCapacity (min len.toNat frameMax) >>= fun _ =>
        .ask (.copyReceivedFrame len.toNat) fun bytes : Octets (min len.toNat frameMax) =>
          withCapacity (copies bytes.val) >>= fun _ => afterFrame parse goOn bytes.val) := rfl

theorem lookAt_other (goOn : Program (Option α)) {answer : Option DriverResponse}
    (noData : answer ≠ some (.failed .noData))
    (noFrame : ∀ len, answer ≠ some (.frameReceived len)) :
    lookAt parse copies goOn answer = .done none := by
  cases answer with
  | none => rfl
  | some response =>
      cases response with
      | frameReceived len => exact absurd rfl (noFrame len)
      | failed code =>
          cases code with
          | noData => exact absurd rfl noData
          | _ => rfl
      | _ => rfl

theorem afterSend_other {answer : Option DriverResponse} (refused : answer ≠ some .frameSent) :
    afterSend parse copies answer = .done none := by
  unfold afterSend
  split
  · exact absurd rfl refused
  · rfl

/-- Where a frame is announced, it is copied and looked at. -/
theorem lookAt_frame_safely_iff {goOn : Program (Option α)} {len : UInt32} :
    (lookAt parse copies goOn (some (.frameReceived len))).TalksSafely Refused talk result ↔
      ∃ (bytes : Octets (min len.toNat frameMax)) (rest : List Said),
        talk = allocated (min len.toNat frameMax) ++
          ⟨.copyReceivedFrame len.toNat, bytes⟩ :: allocated (copies bytes.val) ++ rest ∧
        (afterFrame parse goOn bytes.val).TalksSafely Refused rest result := by
  rw [lookAt_frame, withCapacity_safely_iff]
  constructor
  · rintro ⟨_, rfl, copied⟩
    obtain ⟨bytes, _, rfl, parsed⟩ := (safely_ask_iff_of_harmless fun _ => id).mp copied
    obtain ⟨rest, rfl, talks⟩ := withCapacity_safely_iff.mp parsed
    exact ⟨bytes, rest, by rw [List.append_assoc, List.cons_append], talks⟩
  · rintro ⟨bytes, rest, rfl, talks⟩
    refine ⟨_, by rw [List.append_assoc, List.cons_append], ?_⟩
    refine (safely_ask_iff_of_harmless fun _ => id).mpr ⟨bytes, _, rfl, ?_⟩
    exact withCapacity_safely_iff.mpr ⟨rest, rfl, talks⟩

/-- The runs of the loop are the polls of the grammar. -/
theorem poll_safely_iff (recognises : Recognises parse wanted) :
    (poll parse copies limit).TalksSafely Refused talk result ↔
      ∃ found, result = .ok found ∧ Polls wanted copies limit talk found := by
  induction limit generalizing talk with
  | zero =>
      rw [poll, pure_eq, safely_done_iff]
      constructor
      · rintro ⟨rfl, rfl⟩
        exact ⟨none, rfl, polls_zero_iff.mpr ⟨rfl, rfl⟩⟩
      · rintro ⟨found, rfl, polls⟩
        obtain ⟨rfl, rfl⟩ := polls_zero_iff.mp polls
        exact ⟨rfl, rfl⟩
  | succ limit ih =>
      rw [poll, callDriver_bind, safely_ask_iff_of_harmless fun _ => id]
      constructor
      · rintro ⟨page, rest, rfl, talks⟩
        by_cases noData : answerOf page = some (.failed .noData)
        · rw [noData, lookAt_nothing, ih] at talks
          obtain ⟨found, rfl, polls⟩ := talks
          exact ⟨found, rfl, polls_succ_iff.mpr
            (.inr (.inl ⟨_, none, rest, .nothing page noData, nofun, polls, rfl⟩))⟩
        by_cases frame : ∃ len, answerOf page = some (.frameReceived len)
        · obtain ⟨len, received⟩ := frame
          rw [received, lookAt_frame_safely_iff] at talks
          obtain ⟨bytes, rest, rfl, talks⟩ := talks
          have look : Look copies _ _ := .frame page len bytes received
          unfold afterFrame at talks
          by_cases shown : ∃ value, wanted value bytes.val
          · obtain ⟨value, shows⟩ := shown
            rw [recognises.shows shows] at talks
            obtain ⟨rfl, rfl⟩ := safely_done_iff.mp talks
            rw [List.append_nil]
            exact ⟨some value, rfl, polls_succ_iff.mpr (.inl ⟨_, value, look, shows, rfl⟩)⟩
          · have unwanted := not_exists.mp shown
            rw [recognises.refuses unwanted] at talks
            obtain ⟨found, rfl, polls⟩ := ih.mp talks
            refine ⟨found, rfl, polls_succ_iff.mpr (.inr (.inl ⟨_, _, rest, look, ?_, polls, rfl⟩))⟩
            rintro _ ⟨⟩
            exact unwanted
        · have noFrame := not_exists.mp frame
          rw [lookAt_other _ noData noFrame] at talks
          obtain ⟨rfl, rfl⟩ := safely_done_iff.mp talks
          exact ⟨none, rfl, polls_succ_iff.mpr (.inr (.inr ⟨page, noData, noFrame, rfl, rfl⟩))⟩
      · rintro ⟨found, rfl, polls⟩
        rcases polls_succ_iff.mp polls with ⟨frame, value, look, shows, rfl⟩ |
          ⟨_, seen, rest, look, unwanted, later, rfl⟩ | ⟨page, noData, noFrame, rfl, rfl⟩
        · cases look with
          | frame page len bytes received =>
              refine ⟨page, _, rfl, ?_⟩
              rw [received, lookAt_frame_safely_iff]
              refine ⟨bytes, [], (List.append_nil _).symm, ?_⟩
              rw [afterFrame, recognises.shows shows]
              exact safely_done_iff.mpr ⟨rfl, rfl⟩
        · have goesOn := ih.mpr ⟨found, rfl, later⟩
          cases look with
          | nothing page noData =>
              refine ⟨page, rest, rfl, ?_⟩
              rw [noData]
              exact goesOn
          | frame page len bytes received =>
              refine ⟨page, _, rfl, ?_⟩
              rw [received, lookAt_frame_safely_iff]
              refine ⟨bytes, rest, rfl, ?_⟩
              rw [afterFrame, recognises.refuses (unwanted _ rfl)]
              exact goesOn
        · refine ⟨page, [], rfl, ?_⟩
          rw [lookAt_other _ noData noFrame]
          exact safely_done_iff.mpr ⟨rfl, rfl⟩

theorem afterFrame_stops (recognises : Recognises parse wanted) {goOn : Program (Option α)}
    (goesOn : goOn.StopsAt Refused) (frame : List UInt8) :
    (afterFrame parse goOn frame).StopsAt Refused := by
  unfold afterFrame
  by_cases shown : ∃ value, wanted value frame
  · obtain ⟨value, shows⟩ := shown
    rw [recognises.shows shows]
    trivial
  · rw [recognises.refuses (not_exists.mp shown)]
    exact goesOn

theorem poll_stops (recognises : Recognises parse wanted) (limit : Nat) :
    (poll parse copies limit).StopsAt Refused := by
  induction limit with
  | zero => trivial
  | succ limit ih =>
      refine StopsAt.bind (StopsAt.bind (act_stops fun _ => id) fun _ => trivial) fun answer => ?_
      by_cases noData : answer = some (.failed .noData)
      · rw [noData]
        exact ih
      by_cases frame : ∃ len, answer = some (.frameReceived len)
      · obtain ⟨len, rfl⟩ := frame
        rw [lookAt_frame]
        refine (withCapacity_stops _).bind fun _ => ?_
        refine StopsAt.bind (act_stops fun _ => id) fun bytes => ?_
        refine (withCapacity_stops _).bind fun _ => ?_
        exact afterFrame_stops recognises ih bytes.val
      · rw [lookAt_other _ noData (not_exists.mp frame)]
        trivial

theorem sendThenPoll_eq (frame : List UInt8) :
    sendThenPoll frame parse copies =
      .ask (.stageFrameForTx frame) fun _ =>
        .ask (.ipcCall (.write (encodeDriverRequest (.sendFrame (.ofNat frame.length)))))
          fun page => afterSend parse copies (answerOf page) := rfl

theorem sendThenPoll_safely_iff (recognises : Recognises parse wanted) (frame : List UInt8) :
    (sendThenPoll frame parse copies).TalksSafely Refused talk result ↔
      ∃ found, result = .ok found ∧ Asks wanted copies frame talk found := by
  rw [sendThenPoll_eq, safely_ask_iff_of_harmless fun _ => id]
  constructor
  · rintro ⟨_, rest, rfl, talks⟩
    obtain ⟨page, rest, rfl, answered⟩ := (safely_ask_iff_of_harmless fun _ => id).mp talks
    by_cases sent : answerOf page = some .frameSent
    · rw [sent] at answered
      obtain ⟨found, rfl, polls⟩ := (poll_safely_iff recognises).mp answered
      exact ⟨found, rfl, .sent page sent polls⟩
    · rw [afterSend_other sent] at answered
      obtain ⟨rfl, rfl⟩ := safely_done_iff.mp answered
      exact ⟨none, rfl, .refused page sent⟩
  · rintro ⟨found, rfl, asks⟩
    cases asks with
    | refused page refused =>
        refine ⟨(), _, rfl, (safely_ask_iff_of_harmless fun _ => id).mpr ⟨page, [], rfl, ?_⟩⟩
        rw [afterSend_other refused]
        exact safely_done_iff.mpr ⟨rfl, rfl⟩
    | sent page sent polls =>
        refine ⟨(), _, rfl, (safely_ask_iff_of_harmless fun _ => id).mpr ⟨page, _, rfl, ?_⟩⟩
        rw [sent]
        exact (poll_safely_iff recognises).mpr ⟨found, rfl, polls⟩

/-- What is waited for is found, or the time is over, and only the heap can be used up. -/
theorem sendThenPoll_stops (recognises : Recognises parse wanted) (frame : List UInt8) :
    (sendThenPoll frame parse copies).StopsAt Refused := by
  refine StopsAt.bind (act_stops fun _ => id) fun _ => ?_
  refine StopsAt.bind (StopsAt.bind (act_stops fun _ => id) fun _ => trivial) fun answer => ?_
  by_cases sent : answer = some .frameSent
  · rw [sent]
    exact poll_stops recognises maxPollAttempts
  · rw [afterSend_other sent]
    trivial

end Polling

/-! ## All runs -/

/-- The ping is always built: the sums of its checksums are small. -/
theorem exists_echoRequest (checks : Bool) (ourMac gwMac : Octets 6) :
    ∃ frame,
      buildEchoRequest checks ourMac gwMac ourIp gatewayIp icmpIdent icmpSeq icmpPayload =
        some frame ∧
      Reads icmpEchoRequest gwMac ourMac ourIp gatewayIp icmpIdent icmpSeq icmpPayload frame ∧
      Verifies checks frame :=
  buildEcho_reads gwMac ourMac ourIp gatewayIp icmpIdent icmpSeq icmpPayload checks
    icmpEchoRequest (by decide)

section Runs

variable {checks : Bool} {talk : List Said} {result : Except Unit Unit}

theorem writeStatus_safely_iff {verdict : UInt8} {gwMac : Option (Octets 6)} :
    (act (.writeStatus verdict gwMac)).TalksSafely Refused talk result ↔
      result = .ok () ∧ talk = [⟨.writeStatus verdict gwMac, ()⟩] := by
  rw [act, Dialogue.request, safely_ask_iff_of_harmless fun _ => id]
  constructor
  · rintro ⟨_, rest, rfl, talks⟩
    obtain ⟨rfl, rfl⟩ := safely_done_iff.mp talks
    exact ⟨rfl, rfl⟩
  · rintro ⟨rfl, rfl⟩
    exact ⟨(), [], rfl, safely_done_iff.mpr ⟨rfl, rfl⟩⟩

/-- The ping, once its frame is built. -/
theorem pingGateway_some {ourMac gwMac : Octets 6} {echoRequest : List UInt8}
    (built : buildEchoRequest checks ourMac gwMac ourIp gatewayIp icmpIdent icmpSeq icmpPayload =
      some echoRequest) :
    pingGateway checks ourMac (some gwMac) =
      (withCapacity (14 + (20 + (8 + icmpPayload.length))) >>= fun _ =>
        sendThenPoll echoRequest parseMatch copiesPayload >>= fun matched =>
          act (.writeStatus (if matched.isSome then 3 else 2) (some gwMac))) := by
  rw [pingGateway, built]

theorem pingGateway_safely_iff {ourMac : Octets 6} {gwMac : Option (Octets 6)} :
    (pingGateway checks ourMac gwMac).TalksSafely Refused talk result ↔
      result = .ok () ∧ ∃ ping verdict, Pings checks ourMac gwMac ping verdict ∧
        talk = ping ++ [verdict.status] := by
  cases gwMac with
  | none =>
      refine writeStatus_safely_iff.trans (and_congr_right fun _ => ⟨?_, ?_⟩)
      · rintro rfl
        exact ⟨[], _, .unresolved, rfl⟩
      · rintro ⟨ping, verdict, ⟨⟩, rfl⟩
        rfl
  | some gwMac =>
      have recognises := parseMatch_recognises
      obtain ⟨echoRequest, built, -, -⟩ := exists_echoRequest checks ourMac gwMac
      rw [pingGateway_some built, withCapacity_safely_iff]
      constructor
      · rintro ⟨_, rfl, pinged⟩
        obtain ⟨ping, matched, rest, asking, written, rfl⟩ :=
          (sendThenPoll_stops recognises echoRequest).safely_bind_iff.mp pinged
        obtain ⟨_, ⟨⟩, asks⟩ := (sendThenPoll_safely_iff recognises _).mp asking
        obtain ⟨rfl, rfl⟩ := writeStatus_safely_iff.mp written
        rw [← List.append_assoc]
        cases matched with
        | none => exact ⟨rfl, _, _, .failed gwMac built asks, rfl⟩
        | some _ => exact ⟨rfl, _, _, .matched gwMac built asks, rfl⟩
      · rintro ⟨rfl, ping, verdict, pings, rfl⟩
        cases pings with
        | failed _ same unmatched =>
            obtain rfl := Option.some.inj (built.symm.trans same)
            refine ⟨_, List.append_assoc _ _ _, ?_⟩
            exact (sendThenPoll_stops recognises echoRequest).safely_bind_iff.mpr
              ⟨_, none, _, (sendThenPoll_safely_iff recognises _).mpr ⟨_, rfl, unmatched⟩,
                writeStatus_safely_iff.mpr ⟨rfl, rfl⟩, rfl⟩
        | matched _ same matched =>
            obtain rfl := Option.some.inj (built.symm.trans same)
            refine ⟨_, List.append_assoc _ _ _, ?_⟩
            exact (sendThenPoll_stops recognises echoRequest).safely_bind_iff.mpr
              ⟨_, some (), _, (sendThenPoll_safely_iff recognises _).mpr ⟨_, rfl, matched⟩,
                writeStatus_safely_iff.mpr ⟨rfl, rfl⟩, rfl⟩

theorem pingGateway_stops (checks : Bool) (ourMac : Octets 6) (gwMac : Option (Octets 6)) :
    (pingGateway checks ourMac gwMac).StopsAt Refused := by
  cases gwMac with
  | none => exact act_stops fun _ => id
  | some gwMac =>
      obtain ⟨echoRequest, built, -, -⟩ := exists_echoRequest checks ourMac gwMac
      rw [pingGateway_some built]
      refine (withCapacity_stops _).bind fun _ => ?_
      refine (sendThenPoll_stops parseMatch_recognises echoRequest).bind fun matched => ?_
      exact act_stops fun _ => id

theorem afterRelay_other {answer : Option DriverResponse} (refused : answer ≠ some .frameSent) :
    afterRelay answer = .denied := by
  unfold afterRelay
  split
  · exact absurd rfl refused
  · rfl

theorem handleBypassRequest_relayFrame :
    handleBypassRequest .relayFrame =
      .ask (.stageFrameForTx relayedFrame) fun _ =>
        .ask (.ipcCall (.write (encodeDriverRequest (.sendFrame (.ofNat relayedFrame.length)))))
          fun page => .done (afterRelay (answerOf page)) := rfl

theorem handleBypassRequest_safely_iff {req : NetBypassRequest}
    {result : Except Unit NetBypassResponse} :
    (handleBypassRequest req).TalksSafely Refused talk result ↔
      ∃ resp, result = .ok resp ∧ Relays (.ok req) talk resp := by
  cases req with
  | requestDirectNic nicId =>
      refine safely_done_iff.trans ⟨?_, ?_⟩
      · rintro ⟨rfl, rfl⟩
        exact ⟨_, rfl, .granted nicId⟩
      · rintro ⟨resp, rfl, ⟨⟩⟩
        exact ⟨rfl, rfl⟩
  | release handle =>
      refine safely_done_iff.trans ⟨?_, ?_⟩
      · rintro ⟨rfl, rfl⟩
        exact ⟨_, rfl, .released handle⟩
      · rintro ⟨resp, rfl, ⟨⟩⟩
        exact ⟨rfl, rfl⟩
  | relayFrame =>
      rw [handleBypassRequest_relayFrame, safely_ask_iff_of_harmless fun _ => id]
      constructor
      · rintro ⟨_, rest, rfl, talks⟩
        obtain ⟨page, rest, rfl, answered⟩ := (safely_ask_iff_of_harmless fun _ => id).mp talks
        obtain ⟨rfl, rfl⟩ := safely_done_iff.mp answered
        by_cases sent : answerOf page = some .frameSent
        · rw [sent]
          exact ⟨_, rfl, .relayed page sent⟩
        · rw [afterRelay_other sent]
          exact ⟨_, rfl, .refused page sent⟩
      · rintro ⟨resp, rfl, relays⟩
        cases relays with
        | relayed page sent =>
            refine ⟨(), _, rfl, (safely_ask_iff_of_harmless fun _ => id).mpr ⟨page, [], rfl, ?_⟩⟩
            rw [sent]
            exact safely_done_iff.mpr ⟨rfl, rfl⟩
        | refused page refused =>
            refine ⟨(), _, rfl, (safely_ask_iff_of_harmless fun _ => id).mpr ⟨page, [], rfl, ?_⟩⟩
            rw [afterRelay_other refused]
            exact safely_done_iff.mpr ⟨rfl, rfl⟩

theorem respond_safely_iff {page : SharedPage} {result : Except Unit NetBypassResponse} :
    (respond page).TalksSafely Refused talk result ↔
      ∃ resp, result = .ok resp ∧ Relays (decodeNetBypassRequest page.read) talk resp := by
  unfold respond
  cases decodeNetBypassRequest page.read with
  | ok req => exact handleBypassRequest_safely_iff
  | error error =>
      refine safely_done_iff.trans ⟨?_, ?_⟩
      · rintro ⟨rfl, rfl⟩
        exact ⟨_, rfl, .unknown error⟩
      · rintro ⟨resp, rfl, ⟨⟩⟩
        exact ⟨rfl, rfl⟩

theorem respond_stops (page : SharedPage) : (respond page).StopsAt Refused := by
  unfold respond
  cases decodeNetBypassRequest page.read with
  | error error => trivial
  | ok req =>
      cases req with
      | relayFrame =>
          refine StopsAt.bind (act_stops fun _ => id) fun _ => ?_
          refine StopsAt.bind (StopsAt.bind (act_stops fun _ => id) fun _ => trivial) fun _ => ?_
          trivial
      | _ => trivial

theorem park_stops (rounds : Nat) : (park rounds).StopsAt Refused := by
  induction rounds with
  | zero => trivial
  | succ rounds ih =>
      refine StopsAt.bind (act_stops fun _ => id) fun page => ?_
      refine (respond_stops page).bind fun resp => ?_
      exact StopsAt.bind (act_stops fun _ => id) fun _ => ih

theorem park_safely_iff {rounds : Nat} :
    (park rounds).TalksSafely Refused talk result ↔ result = .ok () ∧ Serves rounds talk := by
  induction rounds generalizing talk with
  | zero =>
      refine safely_done_iff.trans ⟨?_, ?_⟩
      · rintro ⟨rfl, rfl⟩
        exact ⟨rfl, .start⟩
      · rintro ⟨rfl, serves⟩
        cases serves
        exact ⟨rfl, rfl⟩
  | succ rounds ih =>
      rw [park, act, request_bind, safely_ask_iff_of_harmless fun _ => id]
      constructor
      · rintro ⟨page, rest, rfl, talks⟩
        obtain ⟨relaying, resp, rest, responded, replied, rfl⟩ :=
          (respond_stops page).safely_bind_iff.mp talks
        obtain ⟨_, ⟨⟩, relays⟩ := respond_safely_iff.mp responded
        obtain ⟨_, rest, rfl, goesOn⟩ := (safely_ask_iff_of_harmless fun _ => id).mp replied
        obtain ⟨rfl, serves⟩ := ih.mp goesOn
        exact ⟨rfl, .round relays (NetBypassResponse.follows.decode_page resp) rfl serves⟩
      · rintro ⟨rfl, serves⟩
        cases serves with
        | round relays reads written serves =>
            subst written
            have responded := respond_safely_iff.mpr ⟨_, rfl, relays⟩
            refine ⟨_, _, rfl, (respond_stops _).safely_bind_iff.mpr
              ⟨_, _, _, responded, ?_, rfl⟩⟩
            exact (safely_ask_iff_of_harmless fun _ => id).mpr
              ⟨(), _, rfl, ih.mpr ⟨rfl, serves⟩⟩

theorem subsystemMain_eq (checks : Bool) (rounds : Nat) :
    subsystemMain checks rounds =
      .ask .readDriverMac fun ourMac =>
        withCapacity (14 + 28) >>= fun _ =>
          sendThenPoll (buildArpRequest ourMac ourIp gatewayIp) (parseArpReply gatewayIp)
              copiesNothing >>= fun gwMac =>
            pingGateway checks ourMac gwMac >>= fun _ => park rounds := rfl

theorem subsystemMain_stops (checks : Bool) (rounds : Nat) :
    (subsystemMain checks rounds).StopsAt Refused := by
  refine StopsAt.bind (act_stops fun _ => id) fun ourMac => ?_
  refine (withCapacity_stops _).bind fun _ => ?_
  refine (sendThenPoll_stops (parseArpReply_recognises gatewayIp) _).bind fun gwMac => ?_
  exact (pingGateway_stops checks ourMac gwMac).bind fun _ => park_stops rounds

theorem subsystemMain_safely_iff {rounds : Nat} :
    (subsystemMain checks rounds).TalksSafely Refused talk result ↔
      result = .ok () ∧ ∃ said verdict served, Session checks said verdict ∧
        Serves rounds served ∧ talk = said ++ verdict.status :: served := by
  have resolves := parseArpReply_recognises gatewayIp
  rw [subsystemMain_eq, safely_ask_iff_of_harmless fun _ => id]
  constructor
  · rintro ⟨ourMac, _, rfl, begins⟩
    obtain ⟨_, rfl, talks⟩ := withCapacity_safely_iff.mp begins
    obtain ⟨arp, gwMac, _, arpTalks, pinged, rfl⟩ :=
      (sendThenPoll_stops resolves _).safely_bind_iff.mp talks
    obtain ⟨_, ⟨⟩, asked⟩ := (sendThenPoll_safely_iff resolves _).mp arpTalks
    obtain ⟨_, _, served, pingTalks, parked, rfl⟩ :=
      (pingGateway_stops checks ourMac gwMac).safely_bind_iff.mp pinged
    obtain ⟨-, ping, verdict, pings, rfl⟩ := pingGateway_safely_iff.mp pingTalks
    obtain ⟨rfl, serves⟩ := park_safely_iff.mp parked
    refine ⟨rfl, _, verdict, served, .session ourMac asked pings, serves, ?_⟩
    simp only [List.cons_append, List.append_assoc, List.nil_append]
  · rintro ⟨rfl, said, verdict, served, session, serves, rfl⟩
    cases session with
    | @session ourMac gwMac arp ping verdict asked pings =>
        have parked : (pingGateway checks ourMac gwMac >>= fun _ => park rounds).TalksSafely
            Refused _ _ := (pingGateway_stops checks ourMac gwMac).safely_bind_iff.mpr
          ⟨_, (), served, pingGateway_safely_iff.mpr ⟨rfl, _, _, pings, rfl⟩,
            park_safely_iff.mpr ⟨rfl, serves⟩, rfl⟩
        refine ⟨ourMac, _, rfl, withCapacity_safely_iff.mpr ⟨_, ?_,
          (sendThenPoll_stops resolves _).safely_bind_iff.mpr
            ⟨_, gwMac, _, (sendThenPoll_safely_iff resolves _).mpr ⟨_, rfl, asked⟩, parked, rfl⟩⟩⟩
        change allocated (14 + 28) ++ (arp ++ ping) ++ verdict.status :: served = _
        simp only [List.append_assoc, List.cons_append, List.nil_append]

/-- The runs of the process in which no allocation is refused are the sessions of the grammar, each
followed by the status that says how far it got, and by a response to each request that arrives.
The process panics at the first allocation that is refused, and nowhere else, and its heap refuses
one exactly when what was asked for does not fit. -/
theorem subsystemMain_talks_iff (checks : Bool) (rounds : Nat) (talk : List Said)
    (result : Except Unit Unit) :
    ((subsystemMain checks rounds).Talks talk result ∧ Granted talk ↔
      result = .ok () ∧ ∃ said verdict served, Session checks said verdict ∧
        Serves rounds served ∧ talk = said ++ verdict.status :: served) ∧
    ((subsystemMain checks rounds).Talks talk result → ¬ Granted talk →
      result = .error () ∧ ∃ before last, talk = before ++ [last] ∧ Refused last ∧
        Granted before) ∧
    (HeapAnswers 0 talk →
      (Granted talk ↔ asked talk ≤ BumpAllocator.Image.netstack.heapBytes.toNat)) := by
  refine ⟨subsystemMain_safely_iff, ?_, ?_⟩
  · intro talks refused
    rcases (subsystemMain_stops checks rounds).ends talks with
      ⟨-, granted⟩ | ⟨before, last, error, same, fails, granted, ended⟩
    · exact absurd granted refused
    · exact ⟨ended, before, last, same, fails, granted⟩
  · intro answers
    rw [granted_iff_fits answers (Nat.zero_le _), Nat.zero_add]

end Runs

end Netstack

end Simurgh
