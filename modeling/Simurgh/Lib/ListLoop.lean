import Simurgh.Lib.CursorLoop

/-!
# Loops over a list

The body of a loop sees one item after another.  Each time it ends the loop with a result,
goes on with another state, or goes wrong.  The items behind the one that ends the loop are not
looked at.
-/

/-- The state a loop leaves, whether it ended early or not. -/
def Iteration.either {σ : Type} : Iteration σ σ → σ
  | .again state => state
  | .done result => result

namespace ListLoop

variable {ι σ ρ ε : Type}

/-- `for item in items`. -/
def run (body : ι → σ → Except ε (Iteration σ ρ)) : List ι → σ → Except ε (Iteration σ ρ)
  | [], state => .ok (.again state)
  | item :: items, state =>
      match body item state with
      | .error fault => .error fault
      | .ok (.done result) => .ok (.done result)
      | .ok (.again later) => run body items later

/-- A loop whose body never goes wrong. -/
def runPure (next : ι → σ → Iteration σ ρ) : List ι → σ → Iteration σ ρ
  | [], state => .again state
  | item :: items, state =>
      match next item state with
      | .done result => .done result
      | .again later => runPure next items later

/-- The items up to the first that ends the loop. -/
def visited (ends : ι → Bool) : List ι → List ι
  | [] => []
  | item :: items => if ends item then [item] else item :: visited ends items

theorem visited_subset {ends : ι → Bool} {items : List ι} {item : ι}
    (member : item ∈ visited ends items) : item ∈ items := by
  induction items with
  | nil => exact member
  | cons first rest ih =>
      rw [visited] at member
      split at member
      · rw [List.mem_singleton.1 member]
        exact List.mem_cons_self
      · rcases List.mem_cons.1 member with rfl | later
        · exact List.mem_cons_self
        · exact List.mem_cons_of_mem _ (ih later)

theorem visited_of_never (items : List ι) : visited (fun _ => false) items = items := by
  induction items with
  | nil => rfl
  | cons item items ih =>
      rw [visited, if_neg Bool.false_ne_true, ih]

section Outcome

variable {body : ι → σ → Except ε (Iteration σ ρ)} {next : ι → σ → Iteration σ ρ}
  {ends : ι → Bool} {fits : ι → Prop}

/-- The loop goes through exactly if the body goes through for every visited item. -/
theorem run_eq_ok_iff
    (bodies : ∀ item state out, body item state = .ok out ↔ fits item ∧ next item state = out)
    (dones : ∀ item state, (∃ result, next item state = .done result) ↔ ends item = true)
    (items : List ι) (state : σ) (out : Iteration σ ρ) :
    run body items state = .ok out ↔
      (∀ item ∈ visited ends items, fits item) ∧ runPure next items state = out := by
  induction items generalizing state with
  | nil =>
      rw [run, runPure, visited]
      constructor
      · intro same
        exact ⟨fun _ absent => absurd absent List.not_mem_nil, Except.ok.inj same⟩
      · intro both
        rw [both.2]
  | cons item items ih =>
      rw [runPure, visited]
      by_cases fine : fits item
      · have here := (bodies item state _).2 ⟨fine, rfl⟩
        rw [run, here]
        cases leads : next item state with
        | done result =>
            rw [if_pos ((dones item state).1 ⟨result, leads⟩)]
            constructor
            · intro same
              refine ⟨fun other member => ?_, Except.ok.inj same⟩
              rw [List.mem_singleton.1 member]
              exact fine
            · intro both
              exact congrArg Except.ok both.2
        | again later =>
            have goes : ¬ ends item = true := by
              intro stops
              obtain ⟨result, isDone⟩ := (dones item state).2 stops
              rw [leads] at isDone
              cases isDone
            rw [if_neg goes, List.forall_mem_cons, and_iff_right fine]
            exact ih later
      · apply iff_of_false
        · intro ran
          rw [run] at ran
          split at ran
          · cases ran
          · next result here => exact fine ((bodies item state _).1 here).1
          · next later here => exact fine ((bodies item state _).1 here).1
        · intro both
          apply fine (both.1 item _)
          split
          · exact List.mem_singleton_self item
          · exact List.mem_cons_self

end Outcome

theorem runPure_map {κ : Type} (next : ι → σ → Iteration σ ρ) (item : κ → ι) (keys : List κ)
    (state : σ) :
    runPure (fun key => next (item key)) keys state = runPure next (keys.map item) state := by
  induction keys generalizing state with
  | nil => rfl
  | cons key keys ih =>
      rw [runPure, List.map_cons, runPure]
      cases next (item key) state with
      | done result => rfl
      | again later => exact ih later

/-- A loop that looks for an item. -/
theorem runPure_find? (ends : ι → Bool) (result : ι → ρ) (items : List ι) (state : σ) :
    runPure (fun item state => if ends item then .done (result item) else .again state) items
        state =
      (items.find? ends).elim (.again state) (fun item => .done (result item)) := by
  induction items with
  | nil => rfl
  | cons item items ih =>
      rw [runPure]
      by_cases stops : ends item = true
      · rw [if_pos stops, List.find?_cons_of_pos stops]
        rfl
      · rw [if_neg stops, List.find?_cons_of_neg stops]
        exact ih

/-- A loop that never returns early. -/
theorem runPure_foldl (next : σ → ι → σ) (items : List ι) (state : σ) :
    @runPure ι σ ρ (fun item state => .again (next state item)) items state =
      .again (items.foldl next state) := by
  induction items generalizing state with
  | nil => rfl
  | cons item items ih =>
      rw [runPure, List.foldl_cons]
      exact ih (next state item)

/-! ## Loops inside loops -/

theorem runPure_append (next : ι → σ → Iteration σ ρ) (first rest : List ι) (state : σ) :
    runPure next (first ++ rest) state =
      match runPure next first state with
      | .done result => .done result
      | .again later => runPure next rest later := by
  induction first generalizing state with
  | nil => rfl
  | cons item items ih =>
      rw [List.cons_append, runPure, runPure]
      cases next item state with
      | done result => rfl
      | again later => exact ih later

/-- A loop whose body is a loop is one loop over the pairs. -/
theorem runPure_flatMap {κ : Type} (next : ι → κ → σ → Iteration σ ρ) (inner : ι → List κ)
    (items : List ι) (state : σ) :
    runPure (fun item => runPure (next item) (inner item)) items state =
      runPure (fun pair => next pair.1 pair.2)
        (items.flatMap fun item => (inner item).map (Prod.mk item)) state := by
  induction items generalizing state with
  | nil => rfl
  | cons item items ih =>
      rw [runPure, List.flatMap_cons, runPure_append,
        ← runPure_map (fun pair => next pair.1 pair.2) (Prod.mk item)]
      cases runPure (next item) (inner item) state with
      | done result => rfl
      | again later => exact ih later

/-! ## Collecting until there is no more room -/

section Collecting

variable {α : Type} (pick : ι → Option (Nat → α)) (room : Nat)

/-- What is picked is made from its position.  A pick without room ends the loop. -/
def collecting (item : ι) (found : List α) : Iteration (List α) (List α) :=
  match pick item with
  | none => .again found
  | some make =>
      if room ≤ found.length then .done found else .again (found ++ [make found.length])

theorem runPure_collecting (items : List ι) {found : List α} (within : found.length ≤ room) :
    (runPure (collecting pick room) items found).either =
      found ++ ((items.filterMap pick).take (room - found.length)).mapIdx
        (fun position make => make (found.length + position)) := by
  induction items generalizing found with
  | nil =>
      rw [runPure, List.filterMap_nil, List.take_nil, List.mapIdx_nil, List.append_nil]
      rfl
  | cons item items ih =>
      rw [runPure, collecting]
      cases picked : pick item with
      | none =>
          rw [List.filterMap_cons_none picked]
          exact ih within
      | some make =>
          rw [List.filterMap_cons_some picked]
          by_cases full : room ≤ found.length
          · dsimp only
            rw [if_pos full, Nat.sub_eq_zero_of_le full, List.take_zero, List.mapIdx_nil,
              List.append_nil]
            rfl
          · have longer : (found ++ [make found.length]).length ≤ room := by
              rw [List.length_append, List.length_singleton]
              omega
            have one : room - found.length = room - (found.length + 1) + 1 := by omega
            dsimp only
            rw [if_neg full, one, List.take_succ_cons, List.mapIdx_cons]
            refine (ih longer).trans ?_
            rw [List.length_append, List.length_singleton, List.append_assoc,
              List.singleton_append]
            simp only [Nat.add_assoc, Nat.add_comm 1, Nat.add_zero]

end Collecting

end ListLoop
