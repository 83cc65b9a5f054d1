import Simurgh.Lib.Pieces
import Mathlib.Data.List.DropRight
import Mathlib.Data.List.Nodup

/-!
# The mount table of the VFS router

A path goes to the file system that is mounted at its longest prefix.  The table compares
texts; what it says is said here about the components of a path.  Texts are lists of bytes.
-/

namespace Simurgh

open Pieces

abbrev Path := List UInt8

/-- The byte `/`. -/
def slash : UInt8 := 47

/-- Identifies a backend filesystem service. -/
structure BackendId where
  id : UInt32
  deriving DecidableEq, Repr

/-- One mount: a path prefix and the backend that serves it. -/
structure Mount where
  pathPrefix : Path
  backend : BackendId
  deriving DecidableEq, Repr

inductive MountError where
  /-- A mount already exists at exactly this prefix. -/
  | alreadyMounted
  /-- The prefix was empty or did not start with `/`. -/
  | badPrefix
  deriving DecidableEq, Repr

structure MountTable where
  mounts : List Mount
  deriving DecidableEq, Repr

/-- Collapses trailing slashes (except for the root itself). -/
def normalize (p : Path) : Path :=
  let trimmed := p.rdropWhile (· = slash)
  if trimmed = [] then [slash] else trimmed

/-- True if `path` is `pathPrefix` itself or a descendant of it. -/
def pathUnder (path pathPrefix : Path) : Bool :=
  if pathPrefix = [slash] then true
  else if path = pathPrefix then true
  else pathPrefix.isPrefixOf path && path[pathPrefix.length]? == some slash

namespace MountTable

/-- A table with no mounts. -/
def new : MountTable := ⟨[]⟩

/-- Mounts `backend` at `pathPrefix`. -/
def mount (table : MountTable) (pathPrefix : Path) (backend : BackendId) :
    Except MountError MountTable :=
  if pathPrefix = [] ∨ pathPrefix.head? ≠ some slash then .error .badPrefix
  else
    let norm := normalize pathPrefix
    if table.mounts.any (fun m => m.pathPrefix = norm) then .error .alreadyMounted
    else .ok ⟨table.mounts ++ [⟨norm, backend⟩]⟩

/-- Removes the mount at exactly `pathPrefix`, and tells whether there was one. -/
def unmount (table : MountTable) (pathPrefix : Path) : MountTable × Bool :=
  let norm := normalize pathPrefix
  let kept := table.mounts.filter fun m => m.pathPrefix ≠ norm
  (⟨kept⟩, kept.length ≠ table.mounts.length)

/-- One round of the loop: a mount above the path that has a longer prefix is better. -/
def resolveStep (norm : Path) (best : Option (Mount × Nat)) (m : Mount) : Option (Mount × Nat) :=
  if pathUnder norm m.pathPrefix then
    let len := m.pathPrefix.length
    if (best.map fun (_, l) => decide (l < len)).getD true then some (m, len) else best
  else best

/-- The backend that should serve `path`. -/
def resolve (table : MountTable) (path : Path) : Option BackendId :=
  let norm := normalize path
  (table.mounts.foldl (resolveStep norm) none).map fun (m, _) => m.backend

/-! ## Components -/

/-- A path that starts at the root. -/
def Absolute (path : Path) : Prop := path.head? = some slash

/-- The components of an absolute path: the pieces between slashes behind the first one, when
the trailing slashes are gone.  Slashes that follow one another inside have empty pieces
between them. -/
def components (path : Path) : List Path :=
  let trimmed := path.rdropWhile (· = slash)
  if trimmed = [] then [] else pieces slash trimmed.tail

variable {path pathPrefix : Path} {table : MountTable}

/-- A normalized absolute path is the root, or it goes on behind the first slash. -/
theorem normalize_cases (absolute : Absolute path) :
    (normalize path = [slash] ∧ components path = []) ∨
      ∃ rest, rest ≠ [] ∧ normalize path = slash :: rest ∧ components path = pieces slash rest := by
  unfold normalize components
  by_cases root : path.rdropWhile (· = slash) = []
  · left
    rw [if_pos root, if_pos root]
    exact ⟨rfl, rfl⟩
  · right
    obtain ⟨trailing, whole⟩ := List.rdropWhile_prefix (fun byte => decide (byte = slash)) path
    have last := List.rdropWhile_last_not (fun byte => decide (byte = slash)) path root
    rw [if_neg root, if_neg root]
    revert root whole last
    cases path.rdropWhile fun byte => decide (byte = slash) with
    | nil =>
        intro root
        exact absurd rfl root
    | cons first rest =>
        intro _ whole last
        have starts : first = slash := by
          rw [Absolute, ← whole] at absolute
          exact Option.some.inj absolute
        refine ⟨rest, ?_, by rw [starts], rfl⟩
        rintro rfl
        exact last (decide_eq_true starts)

theorem absolute_normalize (absolute : Absolute path) : Absolute (normalize path) := by
  rcases normalize_cases absolute with ⟨root, _⟩ | ⟨rest, _, shape, _⟩
  · rw [root]
    rfl
  · rw [shape]
    rfl

theorem normalize_normalize (path : Path) : normalize (normalize path) = normalize path := by
  unfold normalize
  by_cases root : path.rdropWhile (· = slash) = []
  · rw [if_pos root]
    rfl
  · rw [if_neg root, List.rdropWhile_idempotent, if_neg root]

theorem pathUnder_iff :
    pathUnder path pathPrefix = true ↔
      pathPrefix = [slash] ∨ path = pathPrefix ∨ ∃ rest, path = pathPrefix ++ slash :: rest := by
  unfold pathUnder
  by_cases root : pathPrefix = [slash]
  · rw [if_pos root]
    exact iff_of_true rfl (.inl root)
  · rw [if_neg root, or_iff_right root]
    by_cases same : path = pathPrefix
    · rw [if_pos same]
      exact iff_of_true rfl (.inl same)
    · rw [if_neg same, or_iff_right same, Bool.and_eq_true, List.isPrefixOf_iff_prefix, beq_iff_eq]
      constructor
      · rintro ⟨⟨rest, rfl⟩, next⟩
        rw [List.getElem?_append_right (Nat.le_refl _), Nat.sub_self] at next
        cases rest with
        | nil => cases next
        | cons byte rest => exact ⟨rest, by rw [Option.some.inj next]⟩
      · rintro ⟨rest, rfl⟩
        refine ⟨List.prefix_append _ _, ?_⟩
        rw [List.getElem?_append_right (Nat.le_refl _), Nat.sub_self]
        rfl

/-- The comparison of the texts is the comparison of the components. -/
theorem pathUnder_normalize_iff (absolute : Absolute path) (prefixAbsolute : Absolute pathPrefix) :
    pathUnder (normalize path) (normalize pathPrefix) = true ↔
      components pathPrefix <+: components path := by
  rw [pathUnder_iff]
  rcases normalize_cases prefixAbsolute with
    ⟨root, nothing⟩ | ⟨inner, nonempty, shape, inside⟩
  · rw [nothing]
    exact iff_of_true (.inl root) List.nil_prefix
  · have notRoot : slash :: inner ≠ [slash] := fun same => nonempty (List.cons.inj same).2
    rw [shape, inside, or_iff_right notRoot]
    rcases normalize_cases absolute with ⟨root, nothing⟩ | ⟨whole, _, pathShape, pieces⟩
    · rw [root, nothing, List.prefix_nil]
      refine iff_of_false ?_ pieces_ne_nil
      rintro (same | ⟨rest, same⟩)
      · exact notRoot same.symm
      · exact List.cons_ne_nil _ _ (List.append_eq_nil_iff.1 (List.cons.inj same).2.symm).2
    · rw [pathShape, pieces, pieces_prefix_iff, List.cons.injEq, eq_self, true_and]
      simp only [List.cons_append, List.cons.injEq, true_and]

/-- Normalized paths with the same components are the same. -/
theorem eq_of_components_eq {other : Path} (absolute : Absolute path)
    (otherAbsolute : Absolute other) (same : components path = components other) :
    normalize path = normalize other := by
  rcases normalize_cases absolute with ⟨root, nothing⟩ | ⟨rest, _, shape, inside⟩
  · rcases normalize_cases otherAbsolute with ⟨otherRoot, _⟩ | ⟨_, _, _, otherInside⟩
    · rw [root, otherRoot]
    · rw [nothing, otherInside] at same
      exact absurd same.symm pieces_ne_nil
  · rcases normalize_cases otherAbsolute with ⟨_, otherNothing⟩ | ⟨_, _, otherShape, otherInside⟩
    · rw [inside, otherNothing] at same
      exact absurd same pieces_ne_nil
    · rw [inside, otherInside] at same
      rw [shape, otherShape, pieces_injective same]

/-! ## The table -/

/-- Prefixes are absolute and normalized, and no two are the same. -/
structure Consistent (table : MountTable) : Prop where
  absolute : ∀ m ∈ table.mounts, Absolute m.pathPrefix
  normal : ∀ m ∈ table.mounts, normalize m.pathPrefix = m.pathPrefix
  distinct : (table.mounts.map Mount.pathPrefix).Nodup

/-- A prefix that is accepted is new. -/
theorem mount_eq_ok {mounted : MountTable} {backend : BackendId}
    (ran : table.mount pathPrefix backend = .ok mounted) :
    Absolute pathPrefix ∧ (∀ m ∈ table.mounts, m.pathPrefix ≠ normalize pathPrefix) ∧
      mounted = ⟨table.mounts ++ [⟨normalize pathPrefix, backend⟩]⟩ := by
  unfold mount at ran
  by_cases bad : pathPrefix = [] ∨ pathPrefix.head? ≠ some slash
  · rw [if_pos bad] at ran
    cases ran
  · rw [if_neg bad] at ran
    by_cases known : (table.mounts.any fun m => m.pathPrefix = normalize pathPrefix) = true
    · simp only [known, if_true] at ran
      cases ran
    · simp only [known] at ran
      refine ⟨not_not.1 fun other => bad (.inr other), fun m member same => known ?_, ?_⟩
      · exact List.any_eq_true.2 ⟨m, member, decide_eq_true same⟩
      · exact (Except.ok.inj ran).symm

namespace Consistent

theorem new : Consistent new where
  absolute := fun _ member => absurd member List.not_mem_nil
  normal := fun _ member => absurd member List.not_mem_nil
  distinct := List.nodup_nil

theorem mount (consistent : table.Consistent) {mounted : MountTable} {backend : BackendId}
    (ran : table.mount pathPrefix backend = .ok mounted) : mounted.Consistent := by
  obtain ⟨absolute, fresh, rfl⟩ := mount_eq_ok ran
  constructor
  · intro m member
    cases List.mem_append.1 member with
    | inl old => exact consistent.absolute m old
    | inr added =>
        rw [List.mem_singleton.1 added]
        exact absolute_normalize absolute
  · intro m member
    cases List.mem_append.1 member with
    | inl old => exact consistent.normal m old
    | inr added =>
        rw [List.mem_singleton.1 added]
        exact normalize_normalize pathPrefix
  · rw [List.map_append]
    refine List.nodup_append'.2 ⟨consistent.distinct, List.nodup_singleton _, ?_⟩
    intro known old added
    obtain ⟨m, member, rfl⟩ := List.mem_map.1 old
    exact fresh m member (List.mem_singleton.1 added)

theorem unmount (consistent : table.Consistent) (pathPrefix : Path) :
    (table.unmount pathPrefix).1.Consistent where
  absolute m member := consistent.absolute m (List.mem_filter.1 member).1
  normal m member := consistent.normal m (List.mem_filter.1 member).1
  distinct := consistent.distinct.sublist (List.filter_sublist.map Mount.pathPrefix)

theorem pathUnder_iff (consistent : table.Consistent) (absolute : Absolute path) {m : Mount}
    (member : m ∈ table.mounts) :
    pathUnder (normalize path) m.pathPrefix = true ↔
      components m.pathPrefix <+: components path := by
  rw [← pathUnder_normalize_iff absolute (consistent.absolute m member),
    consistent.normal m member]

theorem eq_of_pathPrefix_eq (consistent : table.Consistent) {m other : Mount}
    (member : m ∈ table.mounts) (alsoMember : other ∈ table.mounts)
    (same : m.pathPrefix = other.pathPrefix) : m = other :=
  List.inj_on_of_nodup_map consistent.distinct member alsoMember same

theorem eq_of_components_eq (consistent : table.Consistent) {m other : Mount}
    (member : m ∈ table.mounts) (alsoMember : other ∈ table.mounts)
    (same : components m.pathPrefix = components other.pathPrefix) : m = other := by
  have equal := MountTable.eq_of_components_eq (consistent.absolute m member)
    (consistent.absolute other alsoMember) same
  rw [consistent.normal m member, consistent.normal other alsoMember] at equal
  exact consistent.eq_of_pathPrefix_eq member alsoMember equal

end Consistent

/-- What was mounted can be taken away again. -/
theorem unmount_of_mount {mounted : MountTable} {backend : BackendId}
    (ran : table.mount pathPrefix backend = .ok mounted) :
    (mounted.unmount pathPrefix).1 = table := by
  obtain ⟨_, fresh, rfl⟩ := mount_eq_ok ran
  have kept : table.mounts.filter (fun m => m.pathPrefix ≠ normalize pathPrefix) =
      table.mounts :=
    List.filter_eq_self.2 fun m member => decide_eq_true (fresh m member)
  have gone : [Mount.mk (normalize pathPrefix) backend].filter
      (fun m => m.pathPrefix ≠ normalize pathPrefix) = [] :=
    List.filter_eq_nil_iff.2 fun m member => by simp [List.mem_singleton.1 member]
  rw [unmount]
  simp only [List.filter_append, kept, gone, List.append_nil]

/-! ## The loop -/

/-- The longest prefix of those seen so far that the path is under. -/
inductive Best (norm : Path) (seen : List Mount) : Option (Mount × Nat) → Prop where
  | nothing (outside : ∀ m ∈ seen, ¬ pathUnder norm m.pathPrefix = true) : Best norm seen none
  | found (m : Mount) (member : m ∈ seen) (under : pathUnder norm m.pathPrefix = true)
      (longest : ∀ other ∈ seen, pathUnder norm other.pathPrefix = true →
        other.pathPrefix.length ≤ m.pathPrefix.length) :
      Best norm seen (some (m, m.pathPrefix.length))

variable {norm : Path} {seen : List Mount} {best : Option (Mount × Nat)}

/-- One round. -/
theorem Best.step (holds : Best norm seen best) (m : Mount) :
    Best norm (seen ++ [m]) (resolveStep norm best m) := by
  unfold resolveStep
  by_cases under : pathUnder norm m.pathPrefix = true
  · rw [if_pos under]
    cases holds with
    | nothing outside =>
        apply Best.found m (List.mem_append_right _ List.mem_cons_self) under
        intro other member otherUnder
        cases List.mem_append.1 member with
        | inl old => exact absurd otherUnder (outside other old)
        | inr added => rw [List.mem_singleton.1 added]
    | found held member heldUnder longest =>
        by_cases longer : held.pathPrefix.length < m.pathPrefix.length
        · have better : (Option.map (fun x : Mount × Nat => decide (x.2 < m.pathPrefix.length))
              (some (held, held.pathPrefix.length))).getD true = true := decide_eq_true longer
          rw [if_pos better]
          apply Best.found m (List.mem_append_right _ List.mem_cons_self) under
          intro other member otherUnder
          cases List.mem_append.1 member with
          | inl old => exact Nat.le_of_lt (Nat.lt_of_le_of_lt (longest other old otherUnder) longer)
          | inr added => rw [List.mem_singleton.1 added]
        · have notBetter : ¬ (Option.map
              (fun x : Mount × Nat => decide (x.2 < m.pathPrefix.length))
              (some (held, held.pathPrefix.length))).getD true = true := by
            simpa using longer
          rw [if_neg notBetter]
          apply Best.found held (List.mem_append_left _ member) heldUnder
          intro other member otherUnder
          cases List.mem_append.1 member with
          | inl old => exact longest other old otherUnder
          | inr added =>
              rw [List.mem_singleton.1 added]
              exact Nat.le_of_not_lt longer
  · rw [if_neg under]
    cases holds with
    | nothing outside =>
        apply Best.nothing
        intro other member
        cases List.mem_append.1 member with
        | inl old => exact outside other old
        | inr added =>
            rw [List.mem_singleton.1 added]
            exact under
    | found held member heldUnder longest =>
        apply Best.found held (List.mem_append_left _ member) heldUnder
        intro other member otherUnder
        cases List.mem_append.1 member with
        | inl old => exact longest other old otherUnder
        | inr added =>
            rw [List.mem_singleton.1 added] at otherUnder
            exact absurd otherUnder under

theorem Best.run (holds : Best norm seen best) (rest : List Mount) :
    Best norm (seen ++ rest) (rest.foldl (resolveStep norm) best) := by
  induction rest generalizing seen best with
  | nil =>
      rw [List.append_nil]
      exact holds
  | cons m rest ih =>
      rw [List.foldl_cons, List.append_cons]
      exact ih (holds.step m)

/-! ## Resolution by components -/

/-- The mount is above the path, and every other mount above the path has fewer components. -/
structure Serves (comps : Path → List Path) (table : MountTable) (path : Path) (m : Mount) :
    Prop where
  mounted : m ∈ table.mounts
  above : comps m.pathPrefix <+: comps path
  longest : ∀ other ∈ table.mounts, comps other.pathPrefix <+: comps path → other ≠ m →
    (comps other.pathPrefix).length < (comps m.pathPrefix).length

/-- A path goes to the mount with the longest list of components that begins the list of the
path, and nowhere if there is no such mount. -/
structure ResolvesBy (comps : Path → List Path) (table : MountTable) (path : Path) : Prop where
  nowhere : table.resolve path = none ↔
    ∀ m ∈ table.mounts, ¬ comps m.pathPrefix <+: comps path
  served : ∀ backend, table.resolve path = some backend ↔
    ∃ m, Serves comps table path m ∧ m.backend = backend

theorem Serves.eq {comps : Path → List Path} {m other : Mount}
    (serves : Serves comps table path m) (otherServes : Serves comps table path other) :
    m = other := by
  by_contra ne
  have less := serves.longest other otherServes.mounted otherServes.above (Ne.symm ne)
  have greater := otherServes.longest m serves.mounted serves.above ne
  omega

theorem eq_root_of_length_le (absolute : Absolute path) (short : path.length ≤ 1) :
    path = [slash] := by
  cases path with
  | nil => cases absolute
  | cons first rest =>
      rw [List.eq_nil_of_length_eq_zero (Nat.le_zero.1 (Nat.le_of_succ_le_succ short)),
        Option.some.inj absolute]

/-- The longest text among the prefixes of a path has the most components. -/
theorem Consistent.serves (consistent : table.Consistent) (absolute : Absolute path) {m : Mount}
    (member : m ∈ table.mounts) (under : pathUnder (normalize path) m.pathPrefix = true)
    (longest : ∀ other ∈ table.mounts, pathUnder (normalize path) other.pathPrefix = true →
      other.pathPrefix.length ≤ m.pathPrefix.length) :
    Serves components table path m := by
  have above := (consistent.pathUnder_iff absolute member).1 under
  refine ⟨member, above, fun other otherMember otherAbove ne => ?_⟩
  have apart : other.pathPrefix ≠ m.pathPrefix := fun same =>
    ne (consistent.eq_of_pathPrefix_eq otherMember member same)
  cases List.prefix_or_prefix_of_prefix otherAbove above with
  | inl shorter =>
      apply Nat.lt_of_le_of_ne shorter.length_le
      intro same
      exact ne (consistent.eq_of_components_eq otherMember member
        (shorter.eq_of_length same))
  | inr longer =>
      -- The text of the other prefix would go on behind this one.
      have bound := longest other otherMember
        ((consistent.pathUnder_iff absolute otherMember).2 otherAbove)
      have otherAbsolute := consistent.absolute other otherMember
      have otherUnder := (consistent.pathUnder_iff otherAbsolute member).2 longer
      rw [consistent.normal other otherMember, MountTable.pathUnder_iff] at otherUnder
      rcases otherUnder with root | same | ⟨rest, goesOn⟩
      · rw [root] at bound apart
        exact absurd (eq_root_of_length_le otherAbsolute bound) apart
      · exact absurd same apart
      · rw [goesOn, List.length_append, List.length_cons] at bound
        omega

/-- The loop finds the mount that serves the path, if there is one. -/
theorem Consistent.resolve_cases (consistent : table.Consistent) (absolute : Absolute path) :
    (table.resolve path = none ∧
        ∀ m ∈ table.mounts, ¬ components m.pathPrefix <+: components path) ∨
      ∃ m, table.resolve path = some m.backend ∧ Serves components table path m := by
  have start : Best (normalize path) [] none :=
    .nothing fun _ member => absurd member List.not_mem_nil
  have ends := start.run table.mounts
  rw [List.nil_append] at ends
  rw [MountTable.resolve]
  generalize table.mounts.foldl (resolveStep (normalize path)) none = best at ends
  cases ends with
  | nothing outside =>
      refine .inl ⟨rfl, fun m member above => outside m member ?_⟩
      exact (consistent.pathUnder_iff absolute member).2 above
  | found m member under longest =>
      exact .inr ⟨m, rfl, consistent.serves absolute member under longest⟩

theorem Consistent.resolves (consistent : table.Consistent) (absolute : Absolute path) :
    ResolvesBy components table path := by
  rcases consistent.resolve_cases absolute with ⟨nowhere, outside⟩ | ⟨m, found, serves⟩
  · refine ⟨iff_of_true nowhere outside, fun backend => ?_⟩
    rw [nowhere]
    refine iff_of_false (Option.some_ne_none _).symm ?_
    rintro ⟨m, serves, _⟩
    exact outside m serves.mounted serves.above
  · refine ⟨?_, fun backend => ?_⟩
    · rw [found]
      exact iff_of_false (Option.some_ne_none _) fun outside =>
        outside m serves.mounted serves.above
    · rw [found, Option.some.injEq]
      constructor
      · intro same
        exact ⟨m, serves, same⟩
      · rintro ⟨other, otherServes, rfl⟩
        rw [serves.eq otherServes]

/-! ## Runs of calls -/

inductive Call where
  | mount (pathPrefix : Path) (backend : BackendId)
  | unmount (pathPrefix : Path)
  deriving DecidableEq, Repr

/-- The table after a call, which an error leaves as it is. -/
def apply (table : MountTable) : Call → MountTable
  | .mount pathPrefix backend =>
      match table.mount pathPrefix backend with
      | .ok mounted => mounted
      | .error _ => table
  | .unmount pathPrefix => (table.unmount pathPrefix).1

/-- The table after some calls. -/
def run (calls : List Call) : MountTable := calls.foldl apply new

theorem Consistent.apply (consistent : table.Consistent) (call : Call) :
    (table.apply call).Consistent := by
  cases call with
  | mount pathPrefix backend =>
      rw [MountTable.apply]
      cases ran : table.mount pathPrefix backend with
      | ok mounted => exact consistent.mount ran
      | error error => exact consistent
  | unmount pathPrefix => exact consistent.unmount pathPrefix

theorem consistent_run (calls : List Call) : (run calls).Consistent := by
  have kept : ∀ table : MountTable, table.Consistent →
      (calls.foldl MountTable.apply table).Consistent := by
    induction calls with
    | nil => exact fun _ consistent => consistent
    | cons call rest ih =>
        intro table consistent
        exact ih _ (consistent.apply call)
  exact kept new .new

/-- Whatever was mounted and unmounted, prefixes are distinct, absolute paths are resolved by
their components, and a prefix that is mounted and unmounted again leaves the table as it was. -/
theorem mounts_by_components (calls : List Call) :
    ((run calls).mounts.map Mount.pathPrefix).Nodup ∧
      ((run calls).mounts.map fun m => components m.pathPrefix).Nodup ∧
      (∀ path, Absolute path → ResolvesBy components (run calls) path) ∧
      ∀ pathPrefix backend mounted, (run calls).mount pathPrefix backend = .ok mounted →
        ∀ path, (mounted.unmount pathPrefix).1.resolve path = (run calls).resolve path := by
  have consistent := consistent_run calls
  refine ⟨consistent.distinct, ?_, ?_, ?_⟩
  · apply List.Nodup.map_on _ consistent.distinct.of_map
    intro m member other alsoMember same
    exact consistent.eq_of_components_eq member alsoMember same
  · intro path absolute
    exact consistent.resolves absolute
  · intro pathPrefix backend mounted ran path
    rw [unmount_of_mount ran]

/-- The pieces of a path that are not empty. -/
def nonEmptyPieces (path : Path) : List Path := (pieces slash path).filter (· ≠ [])

/-- With `/data` mounted, `//data/x` goes nowhere. -/
theorem repeated_slash_not_collapsed :
    ¬ ∀ calls path, Absolute path → ResolvesBy nonEmptyPieces (run calls) path := by
  intro byPieces
  have resolves := byPieces [.mount [47, 100, 97, 116, 97] ⟨1⟩]
    [47, 47, 100, 97, 116, 97, 47, 120] rfl
  have nowhere := resolves.nowhere.1 (by decide)
  exact nowhere ⟨[47, 100, 97, 116, 97], ⟨1⟩⟩ (by decide) (by decide)

end MountTable

end Simurgh
