import Simurgh.Lib.Exec

/-!
# Logs of calls

A run makes one call after another, and its log holds every call with its error, if it had one.
`Calls.observed` says what an observation of the state is after a run in which some calls tell its
new value and no other call changes it: it is what was told last.
-/

/-- A call, and the error it returned. -/
abbrev CallLog (κ ε : Type) : Type := List (κ × Option ε)

/-- A run from one state to another.  A panic ends it. -/
inductive Calls {σ κ ε : Type} (call : κ → Exec σ ε Unit) : σ → CallLog κ ε → σ → Prop where
  | start (state : σ) : Calls call state [] state
  | ok {first state later : σ} {log : CallLog κ ε} (run : Calls call first log state) (next : κ)
      (returns : call next state = .ok () later) : Calls call first (log ++ [(next, none)]) later
  | err {first state later : σ} {log : CallLog κ ε} (run : Calls call first log state) (next : κ)
      (error : ε) (returns : call next state = .err error later) :
      Calls call first (log ++ [(next, some error)]) later

namespace CallLog

variable {κ ε α : Type} {tells : κ × Option ε → Option α} {log : CallLog κ ε} {value : α}

/-- What the last entry that tells anything tells. -/
def lastTold (tells : κ × Option ε → Option α) (log : CallLog κ ε) : Option α :=
  log.reverse.findSome? tells

theorem lastTold_append (entry : κ × Option ε) :
    lastTold tells (log ++ [entry]) = (tells entry).or (lastTold tells log) := by
  rw [lastTold, List.reverse_append, List.reverse_singleton, List.singleton_append,
    List.findSome?_cons]
  cases tells entry with
  | none => rfl
  | some value => rfl

theorem lastTold_eq_some :
    lastTold tells log = some value ↔
      ∃ before entry after, log = before ++ entry :: after ∧ tells entry = some value ∧
        ∀ other ∈ after, tells other = none := by
  rw [lastTold, List.findSome?_eq_some_iff]
  constructor
  · rintro ⟨after, entry, before, whole, told, silent⟩
    refine ⟨before.reverse, entry, after.reverse, ?_, told, ?_⟩
    · rw [← List.reverse_reverse log, whole]
      simp
    · intro other member
      exact silent other (List.mem_reverse.1 member)
  · rintro ⟨before, entry, after, rfl, told, silent⟩
    refine ⟨after.reverse, entry, before.reverse, ?_, told, ?_⟩
    · simp
    · intro other member
      exact silent other (List.mem_reverse.1 member)

/-- Something is told last if something is told at all. -/
theorem lastTold_of_mem {entry : κ × Option ε} (member : entry ∈ log)
    (told : tells entry = some value) : ∃ last, lastTold tells log = some last := by
  apply Option.ne_none_iff_exists'.1
  intro silent
  rw [lastTold, List.findSome?_eq_none_iff] at silent
  rw [silent entry (List.mem_reverse.2 member)] at told
  cases told

end CallLog

namespace Calls

variable {σ κ ε α : Type} {call : κ → Exec σ ε Unit} {first final : σ} {log : CallLog κ ε}

/-- The rule for observations: each call tells the new value or leaves the old one. -/
theorem observed {observe : σ → α} {tells : κ × Option ε → Option α}
    (ok : ∀ {state later next}, call next state = .ok () later →
      observe later = (tells (next, none)).getD (observe state))
    (err : ∀ {state later next error}, call next state = .err error later →
      observe later = (tells (next, some error)).getD (observe state))
    (run : Calls call first log final) :
    observe final = (CallLog.lastTold tells log).getD (observe first) := by
  induction run with
  | start => rfl
  | @ok state later log run next returns ih =>
      rw [CallLog.lastTold_append, ok returns, ih]
      cases tells (next, none) with
      | none => rfl
      | some value => rfl
  | @err state later log run next error returns ih =>
      rw [CallLog.lastTold_append, err returns, ih]
      cases tells (next, some error) with
      | none => rfl
      | some value => rfl

end Calls
