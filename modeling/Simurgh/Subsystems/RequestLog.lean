import Simurgh.Lib.Exec
import Simurgh.Lib.Slab
import Mathlib.Algebra.Order.Ring.Nat
import Mathlib.Data.List.Nodup
import Mathlib.Data.List.Perm.Subperm

/-!
# The in-flight request log of a driver

The Device Manager keeps the requests that a driver has not answered yet, so that it can
replay them after a crash.  The log is an array of slots with a count beside it.  A history
lists the calls that were made; it says which requests are in flight, and the log holds
exactly these.
-/

namespace Simurgh

/-- One in-flight (not yet acknowledged) request. -/
structure InFlightRequest where
  requestId : UInt32
  deriving DecidableEq, Repr

/-- How many requests one driver's log tracks at once. -/
def maxInFlightRequests : Nat := 256

inductive RequestLogError where
  /-- The log already holds `maxInFlightRequests` entries. -/
  | full
  deriving DecidableEq, Repr

structure RequestLog where
  entries : Slab InFlightRequest maxInFlightRequests
  len : Nat
  deriving DecidableEq, Repr

namespace RequestLog

/-- An empty log. -/
def new : RequestLog := ⟨.empty, 0⟩

/-- The requests still in flight. -/
def inFlight (log : RequestLog) : List InFlightRequest := log.entries.objects

/-- `self.len += 1` on `usize`. -/
def countUp (checks : Bool) (len : Nat) : Exec RequestLog RequestLogError Nat :=
  if len + 1 < 2 ^ 64 then pure (len + 1)
  else if checks then Exec.abort
  else pure 0

/-- `self.len -= 1` on `usize`. -/
def countDown (checks : Bool) (len : Nat) : Exec RequestLog RequestLogError Nat :=
  if 0 < len then pure (len - 1)
  else if checks then Exec.abort
  else pure (2 ^ 64 - 1)

/-- Record a request.  One that is already there is left as it is. -/
def tryInsert (checks : Bool) (requestId : UInt32) : Exec RequestLog RequestLogError Unit := do
  let log ← Exec.get
  if log.entries.objects.any (fun e => e.requestId == requestId) then
    return ()
  Exec.guard (decide (log.len < maxInFlightRequests)) .full
  let (_, entries) ← Exec.expect (log.entries.insert fun _ => ⟨requestId⟩)
  let len ← countUp checks log.len
  Exec.modify fun _ => ⟨entries, len⟩

/-- Remove a request whose reply was delivered. -/
def ack (checks : Bool) (requestId : UInt32) : Exec RequestLog RequestLogError Unit := do
  let log ← Exec.get
  match log.entries.find? (fun r => r.requestId == requestId) with
  | some (slot, _) => do
      let len ← countDown checks log.len
      Exec.modify fun _ => ⟨log.entries.clear slot, len⟩
  | none => return ()

/-! ## What a log holds -/

/-- The request is in one of the slots. -/
def Holds (log : RequestLog) (requestId : UInt32) : Prop :=
  ∃ slot, log.entries.get? slot = some ⟨requestId⟩

/-- No request is in two slots, and the count is right. -/
structure Consistent (log : RequestLog) : Prop where
  distinct : ∀ i j request, log.entries.get? i = some request →
    log.entries.get? j = some request → i = j
  counted : log.len = log.entries.objects.length

variable {log after : RequestLog} {checks : Bool} {requestId other : UInt32}

theorem mem_inFlight {request : InFlightRequest} :
    request ∈ log.inFlight ↔ log.Holds request.requestId :=
  Slab.mem_objects

theorem any_eq_true :
    (log.entries.objects.any fun e => e.requestId == requestId) = true ↔ log.Holds requestId := by
  rw [List.any_eq_true]
  constructor
  · rintro ⟨request, member, same⟩
    rw [← beq_iff_eq.1 same]
    exact mem_inFlight.1 member
  · intro holds
    exact ⟨⟨requestId⟩, mem_inFlight.2 holds, beq_self_eq_true _⟩

theorem Consistent.new : Consistent new where
  distinct := by
    intro i j request here
    rw [RequestLog.new, Slab.get?_empty] at here
    cases here
  counted := by decide

theorem not_holds_new : ¬ new.Holds requestId := by
  rintro ⟨slot, here⟩
  rw [new, Slab.get?_empty] at here
  cases here

namespace Consistent

theorem nodup (consistent : log.Consistent) : log.inFlight.Nodup := by
  apply (Slab.pairwise_objects Ne.symm).2
  intro i j first second ne here there same
  rw [same] at here
  exact ne (consistent.distinct i j second here there)

theorem len_le (consistent : log.Consistent) : log.len ≤ maxInFlightRequests := by
  rw [consistent.counted]
  exact log.entries.length_objects_le

end Consistent

/-! ## The two calls -/

/-- An insertion finds the request, finds the log full, or fills an empty slot. -/
inductive Inserts (checks : Bool) (requestId : UInt32) (log : RequestLog) : Prop where
  | present (holds : log.Holds requestId) (ran : tryInsert checks requestId log = .ok () log)
  | full (missing : ¬ log.Holds requestId) (all : log.len = maxInFlightRequests)
      (ran : tryInsert checks requestId log = .err .full log)
  | added (missing : ¬ log.Holds requestId) (room : log.len < maxInFlightRequests)
      (slot : Nat) (entries : Slab InFlightRequest maxInFlightRequests)
      (inserted : log.entries.insert (fun _ => ⟨requestId⟩) = some (slot, entries))
      (ran : tryInsert checks requestId log = .ok () ⟨entries, log.len + 1⟩)

theorem tryInsert_run :
    tryInsert checks requestId log =
      if log.entries.objects.any (fun e => e.requestId == requestId) then .ok () log
      else if log.len < maxInFlightRequests then
        (do
          let (_, entries) ← Exec.expect (log.entries.insert fun _ => ⟨requestId⟩)
          let len ← countUp checks log.len
          Exec.modify fun _ => ⟨entries, len⟩ : Exec RequestLog RequestLogError Unit) log
      else .err .full log := by
  unfold tryInsert
  rw [Exec.get_bind_run]
  by_cases found : log.entries.objects.any (fun e => e.requestId == requestId) = true
  · rw [if_pos found, if_pos found]
    rfl
  · rw [if_neg found, if_neg found]
    by_cases room : log.len < maxInFlightRequests
    · simp only [Exec.guard, room, if_true]
      rfl
    · simp only [Exec.guard, room, if_false]
      rfl

theorem Consistent.inserts (consistent : log.Consistent) : Inserts checks requestId log := by
  by_cases holds : log.Holds requestId
  · apply Inserts.present holds
    rw [tryInsert_run, if_pos (any_eq_true.2 holds)]
  · have notAny := mt any_eq_true.1 holds
    by_cases room : log.len < maxInFlightRequests
    · cases inserted : log.entries.insert (fun _ => (⟨requestId⟩ : InFlightRequest)) with
      | none =>
          -- A count below the capacity leaves an empty slot.
          have vacancies := Slab.insert_eq_none_iff.1 inserted
          rw [Slab.vacancies, ← consistent.counted] at vacancies
          omega
      | some result =>
          obtain ⟨slot, entries⟩ := result
          apply Inserts.added holds room slot entries inserted
          have small : log.len + 1 < 2 ^ 64 := by
            rw [maxInFlightRequests] at room
            omega
          rw [tryInsert_run, if_neg notAny, if_pos room, inserted]
          simp only [Exec.expect_some, Exec.pure_bind_run, countUp, small, if_true]
          rfl
    · apply Inserts.full holds
      · exact Nat.le_antisymm consistent.len_le (Nat.le_of_not_lt room)
      · rw [tryInsert_run, if_neg notAny, if_neg room]

/-- An acknowledgement empties the slot of the request, if it has one. -/
inductive Acks (checks : Bool) (requestId : UInt32) (log : RequestLog) : Prop where
  | missing (missing : ¬ log.Holds requestId) (ran : ack checks requestId log = .ok () log)
  | removed (slot : Nat) (here : log.entries.get? slot = some ⟨requestId⟩)
      (ran : ack checks requestId log = .ok () ⟨log.entries.clear slot, log.len - 1⟩)

theorem Consistent.acks (consistent : log.Consistent) : Acks checks requestId log := by
  cases found : log.entries.find? (fun r => r.requestId == requestId) with
  | none =>
      apply Acks.missing
      · rintro ⟨slot, here⟩
        exact Slab.find?_ne_none here (beq_self_eq_true requestId) found
      · unfold ack
        rw [Exec.get_bind_run, found]
        rfl
  | some result =>
      obtain ⟨slot, request⟩ := result
      obtain ⟨here, same⟩ := Slab.find?_spec found
      have here : log.entries.get? slot = some ⟨requestId⟩ := by
        rw [← beq_iff_eq.1 same]
        exact here
      apply Acks.removed slot here
      have positive : 0 < log.len := by
        rw [consistent.counted, ← Slab.length_objects_clear here]
        omega
      unfold ack
      rw [Exec.get_bind_run, found]
      simp only [countDown, positive, if_true]
      rfl

/-! ## What the calls keep -/

namespace Consistent

/-- A slot of the grown log has the new request or an old one. -/
theorem added (consistent : log.Consistent) (missing : ¬ log.Holds requestId) {slot : Nat}
    {entries : Slab InFlightRequest maxInFlightRequests}
    (inserted : log.entries.insert (fun _ => ⟨requestId⟩) = some (slot, entries)) :
    Consistent ⟨entries, log.len + 1⟩ where
  distinct := by
    intro i j request here there
    rw [Slab.get?_of_insert inserted] at here there
    by_cases first : slot = i
    · by_cases second : slot = j
      · exact first.symm.trans second
      · rw [if_pos first] at here
        rw [if_neg second, ← here] at there
        exact absurd ⟨j, there⟩ missing
    · rw [if_neg first] at here
      by_cases second : slot = j
      · rw [if_pos second] at there
        rw [← there] at here
        exact absurd ⟨i, here⟩ missing
      · rw [if_neg second] at there
        exact consistent.distinct i j request here there
  counted := by
    rw [consistent.counted]
    exact (Slab.length_objects_of_insert inserted).symm

theorem removed (consistent : log.Consistent) {slot : Nat} {request : InFlightRequest}
    (present : log.entries.get? slot = some request) :
    Consistent ⟨log.entries.clear slot, log.len - 1⟩ where
  distinct := by
    intro i j found here there
    rw [Slab.get?_clear] at here there
    by_cases first : slot = i
    · rw [if_pos first] at here
      cases here
    · by_cases second : slot = j
      · rw [if_pos second] at there
        cases there
      · rw [if_neg first] at here
        rw [if_neg second] at there
        exact consistent.distinct i j found here there
  counted := by
    have shrunk := Slab.length_objects_clear present
    have counted := consistent.counted
    change log.len - 1 = (log.entries.clear slot).objects.length
    omega

end Consistent

theorem holds_added {slot : Nat} {entries : Slab InFlightRequest maxInFlightRequests} {len : Nat}
    (inserted : log.entries.insert (fun _ => ⟨requestId⟩) = some (slot, entries)) :
    Holds ⟨entries, len⟩ other ↔ other = requestId ∨ log.Holds other := by
  constructor
  · rintro ⟨i, here⟩
    rw [Slab.get?_of_insert inserted] at here
    by_cases same : slot = i
    · rw [if_pos same, Option.some.injEq, InFlightRequest.mk.injEq] at here
      exact .inl here.symm
    · rw [if_neg same] at here
      exact .inr ⟨i, here⟩
  · rintro (rfl | ⟨i, here⟩)
    · exact ⟨slot, by rw [Slab.get?_of_insert inserted, if_pos rfl]⟩
    · exact ⟨i, Slab.get?_of_insert_of_some inserted here⟩

theorem Consistent.holds_removed (consistent : log.Consistent) {slot len : Nat}
    (present : log.entries.get? slot = some ⟨requestId⟩) :
    Holds ⟨log.entries.clear slot, len⟩ other ↔ other ≠ requestId ∧ log.Holds other := by
  constructor
  · rintro ⟨i, here⟩
    rw [Slab.get?_clear] at here
    by_cases same : slot = i
    · rw [if_pos same] at here
      cases here
    · rw [if_neg same] at here
      refine ⟨?_, i, here⟩
      rintro rfl
      exact same (consistent.distinct slot i _ present here)
  · rintro ⟨ne, i, here⟩
    refine ⟨i, ?_⟩
    rw [Slab.get?_clear, if_neg]
    · exact here
    · rintro rfl
      rw [present, Option.some.injEq, InFlightRequest.mk.injEq] at here
      exact ne here.symm

/-! ## Histories -/

/-- What a client of the log can do. -/
inductive Call where
  | tryInsert (requestId : UInt32)
  | ack (requestId : UInt32)
  deriving DecidableEq, Repr

/-- A call and whether it was refused. -/
structure Event where
  call : Call
  refused : Bool
  deriving DecidableEq, Repr

/-- The newest event comes first. -/
abbrev History := List Event

/-- The request was inserted, and not acknowledged since. -/
def InFlight (history : History) (requestId : UInt32) : Prop :=
  ∃ later earlier, history = later ++ ⟨.tryInsert requestId, false⟩ :: earlier ∧
    ∀ event ∈ later, event.call ≠ .ack requestId

variable {history : History} {event : Event}

theorem not_inFlight_nil : ¬ InFlight [] requestId := by
  rintro ⟨later, earlier, split, _⟩
  exact List.append_ne_nil_of_right_ne_nil _ (List.cons_ne_nil _ _) split.symm

/-- One more event. -/
theorem inFlight_cons :
    InFlight (event :: history) requestId ↔
      event = ⟨.tryInsert requestId, false⟩ ∨
        event.call ≠ .ack requestId ∧ InFlight history requestId := by
  constructor
  · rintro ⟨later, earlier, split, notAcked⟩
    cases later with
    | nil => exact .inl (List.cons.inj split).1
    | cons first later =>
        obtain ⟨same, rest⟩ := List.cons.inj split
        right
        constructor
        · rw [same]
          exact notAcked first List.mem_cons_self
        · exact ⟨later, earlier, rest, fun event member =>
            notAcked event (List.mem_cons_of_mem _ member)⟩
  · rintro (rfl | ⟨notAck, later, earlier, rfl, notAcked⟩)
    · exact ⟨[], history, rfl, fun event member => absurd member List.not_mem_nil⟩
    · refine ⟨event :: later, earlier, rfl, fun found member => ?_⟩
      cases List.mem_cons.1 member with
      | inl same => rw [same]; exact notAck
      | inr older => exact notAcked found older

theorem inFlight_inserted :
    InFlight (⟨.tryInsert requestId, false⟩ :: history) other ↔
      other = requestId ∨ InFlight history other := by
  rw [inFlight_cons]
  constructor
  · rintro (same | ⟨_, older⟩)
    · exact .inl (Call.tryInsert.inj (Event.mk.inj same).1).symm
    · exact .inr older
  · rintro (rfl | older)
    · exact .inl rfl
    · exact .inr ⟨Call.noConfusion, older⟩

theorem inFlight_refused :
    InFlight (⟨.tryInsert requestId, true⟩ :: history) other ↔ InFlight history other := by
  rw [inFlight_cons]
  constructor
  · rintro (same | ⟨_, older⟩)
    · exact absurd (Event.mk.inj same).2 Bool.noConfusion
    · exact older
  · intro older
    exact .inr ⟨Call.noConfusion, older⟩

theorem inFlight_acked {refused : Bool} :
    InFlight (⟨.ack requestId, refused⟩ :: history) other ↔
      other ≠ requestId ∧ InFlight history other := by
  rw [inFlight_cons]
  constructor
  · rintro (same | ⟨notAck, older⟩)
    · exact Call.noConfusion (Event.mk.inj same).1
    · exact ⟨fun same => notAck (same ▸ rfl), older⟩
  · rintro ⟨ne, older⟩
    exact .inr ⟨fun same => ne (Call.ack.inj same).symm, older⟩

/-! ## Runs -/

def run (checks : Bool) : Call → Exec RequestLog RequestLogError Unit
  | .tryInsert requestId => tryInsert checks requestId
  | .ack requestId => ack checks requestId

/-- Make a call and record it. -/
def next (checks : Bool) (before : RequestLog × History) (call : Call) :
    Option (RequestLog × History) :=
  match run checks call before.1 with
  | .ok () after => some (after, ⟨call, false⟩ :: before.2)
  | .err _ after => some (after, ⟨call, true⟩ :: before.2)
  | .panic => none

theorem next_of_ok {call : Call} (ran : run checks call log = .ok () after) :
    next checks (log, history) call = some (after, ⟨call, false⟩ :: history) := by
  rw [next, ran]

theorem next_of_err {call : Call} {error : RequestLogError}
    (ran : run checks call log = .err error after) :
    next checks (log, history) call = some (after, ⟨call, true⟩ :: history) := by
  rw [next, ran]

/-- Make calls one after another, until one panics. -/
def runAll (checks : Bool) (state : RequestLog × History) (calls : List Call) :
    Option (RequestLog × History) :=
  calls.foldlM (next checks) state

/-- The log is consistent and holds what is in flight. -/
structure Tracks (log : RequestLog) (history : History) : Prop where
  consistent : log.Consistent
  holds : ∀ requestId, log.Holds requestId ↔ InFlight history requestId

namespace Tracks

theorem new : Tracks new [] where
  consistent := .new
  holds _ := iff_of_false not_holds_new not_inFlight_nil

/-- One call. -/
theorem next (tracks : Tracks log history) (checks : Bool) (call : Call) :
    ∃ after refused, RequestLog.next checks (log, history) call =
      some (after, ⟨call, refused⟩ :: history) ∧ Tracks after (⟨call, refused⟩ :: history) := by
  cases call with
  | tryInsert requestId =>
      cases tracks.consistent.inserts with
      | present holds ran =>
          refine ⟨log, false, next_of_ok ran, tracks.consistent, fun other => ?_⟩
          rw [inFlight_inserted, ← tracks.holds]
          constructor
          · exact .inr
          · rintro (rfl | older)
            · exact holds
            · exact older
      | full missing all ran =>
          refine ⟨log, true, next_of_err ran, tracks.consistent, fun other => ?_⟩
          rw [inFlight_refused, tracks.holds]
      | added missing room slot entries inserted ran =>
          refine ⟨_, false, next_of_ok ran, tracks.consistent.added missing inserted,
            fun other => ?_⟩
          rw [inFlight_inserted, holds_added inserted, tracks.holds]
  | ack requestId =>
      cases tracks.consistent.acks with
      | missing missing ran =>
          refine ⟨log, false, next_of_ok ran, tracks.consistent, fun other => ?_⟩
          rw [inFlight_acked, ← tracks.holds]
          constructor
          · intro older
            refine ⟨?_, older⟩
            rintro rfl
            exact missing older
          · exact And.right
      | removed slot here ran =>
          refine ⟨_, false, next_of_ok ran, tracks.consistent.removed here, fun other => ?_⟩
          rw [inFlight_acked, tracks.consistent.holds_removed here, tracks.holds]

/-- Any number of calls. -/
theorem runAll (tracks : Tracks log history) (checks : Bool) (calls : List Call) :
    ∃ after later, RequestLog.runAll checks (log, history) calls =
        some (after, later ++ history) ∧
      later.map Event.call = calls.reverse ∧ Tracks after (later ++ history) := by
  induction calls generalizing log history with
  | nil => exact ⟨log, [], rfl, rfl, tracks⟩
  | cons call rest ih =>
      obtain ⟨middle, refused, taken, kept⟩ := tracks.next checks call
      obtain ⟨after, later, ran, made, holds⟩ := ih kept
      refine ⟨after, later ++ [⟨call, refused⟩], ?_, ?_, ?_⟩
      · rw [RequestLog.runAll, List.foldlM_cons, taken, List.append_assoc]
        exact ran
      · rw [List.map_append, made, List.reverse_cons]
        rfl
      · rw [List.append_assoc]
        exact holds

theorem mem_ids (tracks : Tracks log history) :
    requestId ∈ log.inFlight.map InFlightRequest.requestId ↔ InFlight history requestId := by
  rw [← tracks.holds, List.mem_map]
  constructor
  · rintro ⟨request, member, rfl⟩
    exact mem_inFlight.1 member
  · intro holds
    exact ⟨⟨requestId⟩, mem_inFlight.2 holds, rfl⟩

theorem nodup_ids (tracks : Tracks log history) :
    (log.inFlight.map InFlightRequest.requestId).Nodup := by
  apply List.Nodup.map _ tracks.consistent.nodup
  intro first second same
  rw [InFlightRequest.mk.injEq]
  exact same

theorem length_ids (tracks : Tracks log history) :
    (log.inFlight.map InFlightRequest.requestId).length = log.len := by
  rw [List.length_map, tracks.consistent.counted]
  rfl

/-- A new request is refused if others use up the capacity, and only then. -/
theorem refused_iff (tracks : Tracks log history) :
    tryInsert checks requestId log = .err .full log ↔
      ∃ others : List UInt32, others.Nodup ∧ others.length = maxInFlightRequests ∧
        ∀ other ∈ others, other ≠ requestId ∧ InFlight history other := by
  constructor
  · intro refused
    cases tracks.consistent.inserts with
    | present holds ran => rw [ran] at refused; cases refused
    | added missing room slot entries inserted ran => rw [ran] at refused; cases refused
    | full missing all ran =>
        refine ⟨_, tracks.nodup_ids, tracks.length_ids.trans all, fun other member => ?_⟩
        have flies := tracks.mem_ids.1 member
        refine ⟨?_, flies⟩
        rintro rfl
        exact missing ((tracks.holds other).2 flies)
  · rintro ⟨others, nodup, count, flies⟩
    have small := tracks.consistent.len_le
    have fits : ∀ ids : List UInt32, ids.Nodup → (∀ id ∈ ids, InFlight history id) →
        ids.length ≤ log.len := by
      intro ids distinct all
      rw [← tracks.length_ids]
      apply List.Subperm.length_le
      apply List.Nodup.subperm distinct
      exact fun id member => tracks.mem_ids.2 (all id member)
    have all := fits others nodup fun other member => (flies other member).2
    cases tracks.consistent.inserts with
    | full missing all ran => exact ran
    | added missing room slot entries inserted ran => omega
    | present holds ran =>
        have more := fits (requestId :: others)
          (List.nodup_cons.2 ⟨fun member => (flies requestId member).1 rfl, nodup⟩)
          (List.forall_mem_cons.2 ⟨(tracks.holds requestId).1 holds,
            fun other member => (flies other member).2⟩)
        rw [List.length_cons] at more
        omega

theorem refused_unchanged (tracks : Tracks log history) {call : Call} {error : RequestLogError}
    (refused : run checks call log = .err error after) : after = log := by
  cases call with
  | tryInsert requestId =>
      change tryInsert checks requestId log = _ at refused
      cases tracks.consistent.inserts with
      | present holds ran => rw [ran] at refused; cases refused
      | added missing room slot entries inserted ran => rw [ran] at refused; cases refused
      | full missing all ran =>
          rw [ran] at refused
          exact (Outcome.err.inj refused).2.symm
  | ack requestId =>
      change ack checks requestId log = _ at refused
      cases tracks.consistent.acks with
      | missing missing ran => rw [ran] at refused; cases refused
      | removed slot here ran => rw [ran] at refused; cases refused

end Tracks

/-- What a log and its next call have to do with the calls made so far. -/
structure Conforms (checks : Bool) (log : RequestLog) (history : History) : Prop where
  entries : ∀ requestId,
    requestId ∈ log.inFlight.map InFlightRequest.requestId ↔ InFlight history requestId
  nodup : (log.inFlight.map InFlightRequest.requestId).Nodup
  len : log.len = log.inFlight.length
  capacity : log.len ≤ maxInFlightRequests
  refused : ∀ requestId, tryInsert checks requestId log = .err .full log ↔
    ∃ others : List UInt32, others.Nodup ∧ others.length = maxInFlightRequests ∧
      ∀ other ∈ others, other ≠ requestId ∧ InFlight history other
  unchanged : ∀ call error after, run checks call log = .err error after → after = log
  neverPanics : ∀ call, run checks call log ≠ .panic

/-- Whatever calls are made on a new log, none panics, and the log has the requests in
flight. -/
theorem calls_conform (checks : Bool) (calls : List Call) :
    ∃ log history, runAll checks (new, []) calls = some (log, history) ∧
      history.map Event.call = calls.reverse ∧ Conforms checks log history := by
  obtain ⟨log, history, ran, made, tracks⟩ := Tracks.new.runAll checks calls
  rw [List.append_nil] at ran tracks
  refine ⟨log, history, ran, made, ?_⟩
  constructor
  · intro requestId
    exact tracks.mem_ids
  · exact tracks.nodup_ids
  · rw [← tracks.length_ids, List.length_map]
  · exact tracks.consistent.len_le
  · intro requestId
    exact tracks.refused_iff
  · intro call error after refused
    exact tracks.refused_unchanged refused
  · intro call panicked
    obtain ⟨after, refused, taken, _⟩ := tracks.next checks call
    rw [RequestLog.next, panicked] at taken
    cases taken

end RequestLog

end Simurgh
