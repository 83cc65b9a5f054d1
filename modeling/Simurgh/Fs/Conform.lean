import Simurgh.Fs.History

/-!
# The in-memory file system keeps its history

Every call of a run does what the history of the run says, as long as no number runs out and
no write reaches past the last offset.  `Represents` relates the two tables of `MemFs` to
the history, and one lemma for each operation keeps it.
-/

namespace Simurgh

namespace MemFs

/-! ## The condition on calls -/

/-- There is a number for another file. -/
def TakesFile (checks : Bool) (fs : MemFs) : Prop :=
  (checks = true → fs.nextFileId.toNat + 1 < 2 ^ 32) ∧ fs.files fs.nextFileId = none

/-- There is a number for another handle. -/
def TakesHandle (checks : Bool) (fs : MemFs) : Prop :=
  (checks = true → fs.nextHandle.toNat + 1 < 2 ^ 32) ∧ fs.opened fs.nextHandle = none

/-- The numbers that a call takes are free, and the end of a write is an offset.  A build
that wraps sums may also find the wrapped end too large. -/
def InRange (checks : Bool) (fs : MemFs) : Call → Prop
  | .create path => fs.index path = none → fs.TakesFile checks
  | .open path _ create =>
      (fs.index path = none → create = true → fs.TakesFile checks) ∧
        (fs.index path ≠ none ∨ create = true → fs.TakesHandle checks)
  | .write handle offset src =>
      ∀ file, fs.opened handle = some file → file.canWrite = true →
        offset.toNat + src.length < 2 ^ 64 ∨
          (checks = false ∧ maxFileBytes < (offset.toNat + src.length) % 2 ^ 64)
  | _ => True

/-! ## What the tables stand for -/

/-- The contents of the file at a path. -/
def contents (fs : MemFs) (path : String) : Option (List UInt8) :=
  (fs.index path).bind fs.files

/-- A byte of the file at a path, and zero behind its end. -/
def byteAt (fs : MemFs) (path : String) (position : Nat) : UInt8 :=
  ((fs.contents path).getD []).getD position 0

/-- The tables hold what the history says. -/
structure Represents (fs : MemFs) (history : FsHistory) : Prop where
  absent : ∀ path, history.writes path = none → fs.index path = none
  file : ∀ path writes, history.writes path = some writes →
    ∃ id, fs.index path = some id ∧ fs.files id = some (Extent.contents 0 writes)
  apart : ∀ path other id, fs.index path = some id → fs.index other = some id → path = other
  unheld : ∀ handle, history.holder handle = none → fs.opened handle = none
  held : ∀ handle path canWrite, history.holder handle = some (path, canWrite) →
    ∃ id, fs.index path = some id ∧ fs.opened handle = some ⟨id, canWrite⟩

namespace Represents

variable {checks : Bool} {fs : MemFs} {history : FsHistory} {path : String} {id : UInt32}
  {handle : UInt32}

theorem new : MemFs.new.Represents [] where
  absent _ _ := rfl
  file _ _ written := by cases written
  apart _ _ _ indexed := by cases indexed
  unheld _ _ := rfl
  held _ _ _ held := by cases held

theorem contents (represents : fs.Represents history) (path : String) :
    fs.contents path = (history.writes path).map (Extent.contents 0) := by
  unfold MemFs.contents
  cases written : history.writes path with
  | none =>
      rw [represents.absent path written]
      rfl
  | some writes =>
      obtain ⟨id, indexed, stored⟩ := represents.file path writes written
      rw [indexed, Option.bind_some, stored, Option.map_some]

theorem byteAt (represents : fs.Represents history) (path : String) (position : Nat) :
    fs.byteAt path position = history.byteAt path position := by
  unfold MemFs.byteAt FsHistory.byteAt
  rw [represents.contents path]
  cases history.writes path with
  | none => rfl
  | some writes => exact Extent.getD_contents

/-- The file of a path in the index. -/
theorem stored (represents : fs.Represents history) (indexed : fs.index path = some id) :
    ∃ writes, history.writes path = some writes ∧
      fs.files id = some (Extent.contents 0 writes) := by
  cases written : history.writes path with
  | none =>
      rw [represents.absent path written] at indexed
      cases indexed
  | some writes =>
      obtain ⟨same, again, stored⟩ := represents.file path writes written
      obtain rfl := Option.some.inj (again.symm.trans indexed)
      exact ⟨writes, rfl, stored⟩

/-- An open handle leads to the file of its path. -/
theorem reaches (represents : fs.Represents history) {canWrite : Bool}
    (holds : history.holder handle = some (path, canWrite)) :
    ∃ id writes, fs.opened handle = some ⟨id, canWrite⟩ ∧ fs.index path = some id ∧
      history.writes path = some writes ∧ fs.files id = some (Extent.contents 0 writes) := by
  obtain ⟨id, indexed, opened⟩ := represents.held handle path canWrite holds
  obtain ⟨writes, written, stored⟩ := represents.stored indexed
  exact ⟨id, writes, opened, indexed, written, stored⟩

/-- A file gets other contents. -/
theorem setFile (represents : fs.Represents history) (indexed : fs.index path = some id)
    {after : FsHistory} {writes : List (Extent UInt8)}
    (own : after.writes path = some writes)
    (others : ∀ other, path ≠ other → after.writes other = history.writes other)
    (holders : ∀ handle, after.holder handle = history.holder handle) :
    (fs.setFile id (Extent.contents 0 writes)).Represents after where
  absent other missing := by
    by_cases same : path = other
    · obtain rfl := same
      rw [own] at missing
      cases missing
    · rw [others other same] at missing
      exact represents.absent other missing
  file other written wrote := by
    by_cases same : path = other
    · obtain rfl := same
      obtain rfl := Option.some.inj (own.symm.trans wrote)
      exact ⟨id, indexed, Function.update_self _ _ _⟩
    · rw [others other same] at wrote
      obtain ⟨otherId, otherIndexed, stored⟩ := represents.file other written wrote
      refine ⟨otherId, otherIndexed, ?_⟩
      have ne : otherId ≠ id := by
        rintro rfl
        exact same (represents.apart path other _ indexed otherIndexed)
      exact (Function.update_of_ne ne _ _).trans stored
  apart := represents.apart
  unheld handle free := represents.unheld handle ((holders handle).symm.trans free)
  held handle name canWrite holds :=
    represents.held handle name canWrite ((holders handle).symm.trans holds)

/-- A file under a number that is not in use. -/
theorem addFile (represents : fs.Represents history) (missing : history.writes path = none)
    (free : fs.files id = none) (next : UInt32) :
    (({ fs with
        nextFileId := next
        index := Function.update fs.index path (some id) } : MemFs).setFile id []).Represents
      (.created path :: history) := by
  have unused : ∀ other, fs.index other ≠ some id := by
    intro other indexed
    obtain ⟨writes, _, stored⟩ := represents.stored indexed
    rw [free] at stored
    cases stored
  have keeps : ∀ other, path ≠ other →
      Function.update fs.index path (some id) other = fs.index other :=
    fun other ne => Function.update_of_ne ne.symm _ _
  refine ⟨?_, ?_, ?_, represents.unheld, ?_⟩
  · intro other absent
    by_cases same : path = other
    · obtain rfl := same
      rw [FsHistory.writes_created] at absent
      cases absent
    · rw [FsHistory.writes_created_of_ne same] at absent
      exact (keeps other same).trans (represents.absent other absent)
  · intro other written wrote
    by_cases same : path = other
    · obtain rfl := same
      rw [FsHistory.writes_created] at wrote
      obtain rfl := Option.some.inj wrote
      exact ⟨id, Function.update_self _ _ _, Function.update_self _ _ _⟩
    · rw [FsHistory.writes_created_of_ne same] at wrote
      obtain ⟨otherId, indexed, stored⟩ := represents.file other written wrote
      refine ⟨otherId, (keeps other same).trans indexed, ?_⟩
      refine (Function.update_of_ne ?_ _ _).trans stored
      rintro rfl
      exact unused other indexed
  · intro first second firstId firstIndexed secondIndexed
    change Function.update fs.index path (some id) first = some firstId at firstIndexed
    change Function.update fs.index path (some id) second = some firstId at secondIndexed
    by_cases atFirst : path = first
    · by_cases atSecond : path = second
      · exact atFirst.symm.trans atSecond
      · obtain rfl := atFirst
        rw [Function.update_self] at firstIndexed
        obtain rfl := Option.some.inj firstIndexed
        rw [keeps second atSecond] at secondIndexed
        exact absurd secondIndexed (unused second)
    · rw [keeps first atFirst] at firstIndexed
      by_cases atSecond : path = second
      · obtain rfl := atSecond
        rw [Function.update_self] at secondIndexed
        obtain rfl := Option.some.inj secondIndexed
        exact absurd firstIndexed (unused first)
      · rw [keeps second atSecond] at secondIndexed
        exact represents.apart first second firstId firstIndexed secondIndexed
  · intro handle name canWrite holds
    obtain ⟨file, writes, opened, indexed, written, _⟩ := represents.reaches holds
    refine ⟨file, (keeps name ?_).trans indexed, opened⟩
    rintro rfl
    rw [missing] at written
    cases written

/-- A handle that is not in use is opened. -/
theorem addHandle (represents : fs.Represents history) (indexed : fs.index path = some id)
    (canWrite : Bool) (next : UInt32) :
    ({ fs with
        nextHandle := next
        opened := Function.update fs.opened handle (some ⟨id, canWrite⟩) } : MemFs).Represents
      (.opened handle path canWrite :: history) where
  absent := represents.absent
  file := represents.file
  apart := represents.apart
  unheld other free := by
    by_cases same : handle = other
    · rw [FsHistory.holder, if_pos same] at free
      cases free
    · rw [FsHistory.holder, if_neg same] at free
      exact (Function.update_of_ne (Ne.symm same) _ _).trans (represents.unheld other free)
  held other name otherWrite holds := by
    by_cases same : handle = other
    · rw [FsHistory.holder, if_pos same] at holds
      obtain ⟨rfl, rfl⟩ := Prod.mk.inj (Option.some.inj holds)
      obtain rfl := same
      exact ⟨id, indexed, Function.update_self _ _ _⟩
    · rw [FsHistory.holder, if_neg same] at holds
      obtain ⟨file, otherIndexed, opened⟩ := represents.held other name otherWrite holds
      exact ⟨file, otherIndexed, (Function.update_of_ne (Ne.symm same) _ _).trans opened⟩

theorem dropHandle (represents : fs.Represents history) :
    ({ fs with opened := Function.update fs.opened handle none } : MemFs).Represents
      (.closed handle :: history) where
  absent := represents.absent
  file := represents.file
  apart := represents.apart
  unheld other free := by
    by_cases same : handle = other
    · obtain rfl := same
      exact Function.update_self _ _ _
    · rw [FsHistory.holder, if_neg same] at free
      exact (Function.update_of_ne (Ne.symm same) _ _).trans (represents.unheld other free)
  held other name canWrite holds := by
    by_cases same : handle = other
    · rw [FsHistory.holder, if_pos same] at holds
      cases holds
    · rw [FsHistory.holder, if_neg same] at holds
      obtain ⟨file, indexed, opened⟩ := represents.held other name canWrite holds
      exact ⟨file, indexed, (Function.update_of_ne (Ne.symm same) _ _).trans opened⟩

end Represents

/-! ## Runs of the operations -/

section Runs

variable {checks : Bool} {fs : MemFs} {path : String} {id handle : UInt32} {file : OpenFile}
  {data src buf : List UInt8} {offset : UInt64}

theorem succU32_run {a : UInt32} (fits : checks = true → a.toNat + 1 < 2 ^ 32) :
    succU32 checks a fs = .ok (a + 1) fs := by
  unfold succU32
  by_cases small : a.toNat + 1 < 2 ^ 32
  · rw [if_pos small]
    rfl
  · rw [if_neg small, if_neg (fun checked => small (fits checked))]
    rfl

theorem slice_run {start stop : Nat} (ordered : start ≤ stop) (inside : stop ≤ data.length) :
    slice data start stop fs = .ok ((data.take stop).drop start) fs := by
  unfold slice
  rw [decide_eq_true ordered, decide_eq_true inside]
  rfl

theorem copyInto_run (fs : MemFs) {start : Nat} (inside : start + src.length ≤ data.length) :
    copyInto data start (start + src.length) src fs =
      .ok (Extent.splice data ⟨start, src⟩) fs := by
  unfold copyInto
  rw [Exec.bind_of_ok (slice_run (Nat.le_add_right _ _) inside)]
  have same : ((data.take (start + src.length)).drop start).length = src.length := by
    rw [List.length_drop, List.length_take, Nat.min_eq_left inside, Nat.add_sub_cancel_left]
  rw [decide_eq_true same]
  rfl

theorem map_run {α β : Type} {program : Exec MemFs FsError α} {wrap : α → β} {value : α}
    {later : MemFs} (ran : program fs = .ok value later) :
    (do return wrap (← program) : Exec MemFs FsError β) fs = .ok (wrap value) later := by
  rw [Exec.bind_of_ok ran]
  rfl

theorem map_err {α β : Type} {program : Exec MemFs FsError α} {wrap : α → β}
    {error : FsError} {later : MemFs} (ran : program fs = .err error later) :
    (do return wrap (← program) : Exec MemFs FsError β) fs = .err error later :=
  Exec.bind_of_err ran _

/-- The look-up of the handle, which every operation on a handle starts with. -/
theorem badHandle_run {β : Type} {next : OpenFile → Exec MemFs FsError β}
    (closed : fs.opened handle = none) :
    (do
      let fs ← Exec.get
      let file ← Exec.okOr .badHandle (fs.opened handle)
      next file : Exec MemFs FsError β) fs = .err .badHandle fs := by
  rw [Exec.get_bind_run, closed]
  rfl

theorem create_run_of_some (indexed : fs.index path = some id) :
    create checks path fs = .ok id (fs.setFile id []) := by
  unfold create
  rw [Exec.get_bind_run, indexed]
  rfl

theorem create_run_of_none (missing : fs.index path = none)
    (fits : checks = true → fs.nextFileId.toNat + 1 < 2 ^ 32) :
    create checks path fs = .ok fs.nextFileId
      (({ fs with
        nextFileId := fs.nextFileId + 1
        index := Function.update fs.index path (some fs.nextFileId) } : MemFs).setFile
          fs.nextFileId []) := by
  unfold create
  rw [Exec.get_bind_run, missing]
  dsimp only
  rw [Exec.bind_of_ok (succU32_run fits)]
  rfl

theorem fileToOpen_run_of_some {create : Bool} (indexed : fs.index path = some id) :
    fileToOpen checks path create fs = .ok id fs := by
  unfold fileToOpen
  rw [Exec.get_bind_run, indexed]
  rfl

theorem fileToOpen_run_of_none {create : Bool} (missing : fs.index path = none) :
    fileToOpen checks path create fs =
      if create then MemFs.create checks path fs else .err .notFound fs := by
  unfold fileToOpen
  rw [Exec.get_bind_run, missing]
  cases create with
  | false => rfl
  | true => rfl

/-- What opening does once the file is known. -/
theorem openFile_run {write create : Bool} {later : MemFs}
    (found : fileToOpen checks path create fs = .ok id later)
    (fits : checks = true → later.nextHandle.toNat + 1 < 2 ^ 32) :
    openFile checks path write create fs = .ok later.nextHandle
      { later with
        nextHandle := later.nextHandle + 1
        opened := Function.update later.opened later.nextHandle (some ⟨id, write⟩) } := by
  unfold openFile
  rw [Exec.bind_of_ok found, Exec.get_bind_run, Exec.bind_of_ok (succU32_run fits)]
  rfl

theorem read_run (offset : UInt64) (buf : List UInt8) (opened : fs.opened handle = some file)
    (stored : fs.files file.fileId = some data) :
    ∃ bytes, bytes.length = min buf.length (data.length - offset.toNat) ∧
      (∀ i < bytes.length, bytes[i]? = data[offset.toNat + i]?) ∧
      read handle offset buf fs = .ok (bytes.length, Extent.splice buf ⟨0, bytes⟩) fs := by
  let start := min offset.toNat data.length
  let n := min buf.length (data.length - start)
  have inside : start + n ≤ data.length := by omega
  have long : ((data.take (start + n)).drop start).length = n := by
    rw [List.length_drop, List.length_take, Nat.min_eq_left inside, Nat.add_sub_cancel_left]
  refine ⟨(data.take (start + n)).drop start, ?_, ?_, ?_⟩
  · rw [long]
    omega
  · intro i within
    rw [long] at within
    rw [List.getElem?_drop, List.getElem?_take, if_pos (by omega)]
    congr 1
    omega
  · have fits : 0 + ((data.take (start + n)).drop start).length ≤ buf.length := by
      rw [long]
      omega
    have copied := copyInto_run fs fits
    rw [Nat.zero_add, long] at copied
    unfold read
    rw [Exec.get_bind_run, opened, Exec.okOr_some, Exec.pure_bind_run, stored, Exec.okOr_some,
      Exec.pure_bind_run, Exec.bind_of_ok (slice_run (Nat.le_add_right _ _) inside),
      Exec.bind_of_ok copied, long]
    rfl

theorem write_run (opened : fs.opened handle = some file) (canWrite : file.canWrite = true)
    (stored : fs.files file.fileId = some data)
    (small : offset.toNat + src.length ≤ maxFileBytes) :
    write checks handle offset src fs = .ok src.length (fs.setFile file.fileId
      (Extent.splice (Extent.grow 0 (offset.toNat + src.length) data) ⟨offset.toNat, src⟩)) := by
  have sum : addUsize checks offset.toNat src.length fs =
      .ok (offset.toNat + src.length) fs := by
    unfold addUsize
    rw [if_pos (by unfold maxFileBytes at small; omega)]
    rfl
  have grown : (if data.length < offset.toNat + src.length then
      Extent.grow 0 (offset.toNat + src.length) data else data) =
        Extent.grow 0 (offset.toNat + src.length) data := by
    by_cases longer : data.length < offset.toNat + src.length
    · rw [if_pos longer]
    · rw [if_neg longer, Extent.grow_of_le (Nat.le_of_not_lt longer)]
  have inside : offset.toNat + src.length ≤
      (Extent.grow 0 (offset.toNat + src.length) data).length := by
    rw [Extent.length_grow]
    exact Nat.le_max_right _ _
  unfold write
  rw [Exec.get_bind_run, opened, Exec.okOr_some, Exec.pure_bind_run, canWrite]
  rw [Exec.bind_of_ok (Exec.guard_eq_ok.2 ⟨rfl, rfl⟩), stored, Exec.okOr_some,
    Exec.pure_bind_run, Exec.bind_of_ok sum,
    Exec.bind_of_ok (Exec.guard_eq_ok.2 ⟨decide_eq_true small, rfl⟩), grown,
    Exec.bind_of_ok (copyInto_run fs inside)]
  rfl

theorem write_tooLarge (opened : fs.opened handle = some file)
    (canWrite : file.canWrite = true) (stored : fs.files file.fileId = some data) {stop : Nat}
    (sum : addUsize checks offset.toNat src.length fs = .ok stop fs)
    (large : maxFileBytes < stop) :
    write checks handle offset src fs = .err .tooLarge fs := by
  unfold write
  rw [Exec.get_bind_run, opened, Exec.okOr_some, Exec.pure_bind_run, canWrite]
  rw [Exec.bind_of_ok (Exec.guard_eq_ok.2 ⟨rfl, rfl⟩), stored, Exec.okOr_some,
    Exec.pure_bind_run, Exec.bind_of_ok sum, decide_eq_false (Nat.not_le_of_lt large)]
  rfl

theorem addUsize_run (fs : MemFs) (fits : offset.toNat + src.length < 2 ^ 64 ∨
      (checks = false ∧ maxFileBytes < (offset.toNat + src.length) % 2 ^ 64))
    (large : maxFileBytes < offset.toNat + src.length) :
    ∃ stop, addUsize checks offset.toNat src.length fs = .ok stop fs ∧ maxFileBytes < stop := by
  unfold addUsize
  by_cases small : offset.toNat + src.length < 2 ^ 64
  · exact ⟨_, by rw [if_pos small]; rfl, large⟩
  · obtain ⟨unchecked, wrapped⟩ := fits.resolve_left small
    exact ⟨_, by rw [if_neg small, unchecked]; rfl, wrapped⟩

end Runs

/-! ## Steps -/

/-- A call ends as the history says, with a reply that is recorded or with an error that
changes nothing. -/
inductive Ends (checks : Bool) (history : FsHistory) (fs : MemFs) (call : Call) : Prop where
  | ok (reply : Reply) (after : MemFs) (ran : run checks call fs = .ok reply after)
      (answers : history.Answers call (.ok reply))
      (represents : after.Represents (history.record call reply))
  | err (error : FsError) (ran : run checks call fs = .err error fs)
      (answers : history.Answers call (.error error))

namespace Represents

variable {checks : Bool} {fs : MemFs} {history : FsHistory} {path : String} {handle : UInt32}

/-- The file to open is there or is created. -/
theorem fileToOpen (represents : fs.Represents history) (create : Bool)
    (fits : fs.index path = none → create = true → fs.TakesFile checks) :
    (history.writes path = none ∧ create = false ∧
        MemFs.fileToOpen checks path create fs = .err .notFound fs) ∨
      ∃ id later, MemFs.fileToOpen checks path create fs = .ok id later ∧
        ¬ (history.writes path = none ∧ create = false) ∧
        later.Represents
          (if history.writes path = none ∧ create = true then .created path :: history
            else history) ∧
        later.index path = some id ∧ later.opened = fs.opened ∧
        later.nextHandle = fs.nextHandle := by
  cases written : history.writes path with
  | some writes =>
      obtain ⟨id, indexed, _⟩ := represents.file path writes written
      refine .inr ⟨id, fs, fileToOpen_run_of_some indexed, by simp, ?_, indexed, rfl, rfl⟩
      rw [if_neg (by simp)]
      exact represents
  | none =>
      have missing := represents.absent path written
      rw [fileToOpen_run_of_none missing]
      cases create with
      | false => exact .inl ⟨rfl, rfl, rfl⟩
      | true =>
          have takes := fits missing rfl
          refine .inr ⟨_, _, create_run_of_none missing takes.1, by simp, ?_,
            Function.update_self _ _ _, rfl, rfl⟩
          rw [if_pos ⟨rfl, rfl⟩]
          exact represents.addFile written takes.2 _

theorem create_ends (represents : fs.Represents history)
    (fits : fs.index path = none → fs.TakesFile checks) :
    Ends checks history fs (.create path) := by
  cases written : history.writes path with
  | some writes =>
      obtain ⟨id, indexed, _⟩ := represents.file path writes written
      refine .ok (.file id) _ (map_run (create_run_of_some indexed)) ⟨id, rfl⟩ ?_
      exact represents.setFile indexed FsHistory.writes_created
        (fun other ne => FsHistory.writes_created_of_ne ne) (fun _ => rfl)
  | none =>
      have missing := represents.absent path written
      have takes := fits missing
      exact .ok (.file _) _ (map_run (create_run_of_none missing takes.1)) ⟨_, rfl⟩
        (represents.addFile written takes.2 _)

theorem open_ends (represents : fs.Represents history) {write create : Bool}
    (newFile : fs.index path = none → create = true → fs.TakesFile checks)
    (newHandle : fs.index path ≠ none ∨ create = true → fs.TakesHandle checks) :
    Ends checks history fs (.open path write create) := by
  rcases represents.fileToOpen create newFile with
    ⟨missing, unwanted, ran⟩ | ⟨id, later, ran, found, stands, indexed, opened, next⟩
  · refine .err .notFound (map_err (Exec.bind_of_err ran _)) ?_
    rw [FsHistory.Answers, if_pos ⟨missing, unwanted⟩]
  · have known : fs.index path ≠ none ∨ create = true := by
      by_contra neither
      rw [not_or, not_not, Bool.not_eq_true] at neither
      cases written : history.writes path with
      | none => exact found ⟨written, neither.2⟩
      | some writes =>
          obtain ⟨file, present, _⟩ := represents.file path writes written
          rw [neither.1] at present
          cases present
    obtain ⟨fits, free⟩ := newHandle known
    have unheld : history.holder fs.nextHandle = none := by
      cases held : history.holder fs.nextHandle with
      | none => rfl
      | some file =>
          obtain ⟨_, _, taken, _⟩ := represents.reaches held
          rw [free] at taken
          cases taken
    rw [← next] at fits unheld
    refine .ok (.handle later.nextHandle) _ (map_run (openFile_run ran fits)) ?_ ?_
    · rw [FsHistory.Answers, if_neg found]
      exact ⟨_, unheld, rfl⟩
    · exact stands.addHandle indexed write _

/-- A read copies what the history has from the offset on. -/
theorem readsInto (writes : List (Extent UInt8)) {offset : Nat} {buf bytes : List UInt8}
    (written : history.writes path = some writes)
    (long : bytes.length = min buf.length ((Extent.contents 0 writes).length - offset))
    (same : ∀ i < bytes.length, bytes[i]? = (Extent.contents 0 writes)[offset + i]?) :
    history.ReadsInto path offset buf bytes.length (Extent.splice buf ⟨0, bytes⟩) := by
  have fits : (Extent.mk 0 bytes).stop ≤ buf.length := by
    rw [Extent.stop, Nat.zero_add, long]
    exact Nat.min_le_left _ _
  have size : history.size path = Extent.size writes := by
    rw [FsHistory.size, written, Option.getD_some]
  rw [Extent.length_contents] at long
  refine ⟨?_, Extent.length_splice fits, ?_, ?_⟩
  · rw [size, long]
  · intro i within
    have covers : (Extent.mk 0 bytes).Covers i := by
      refine ⟨Nat.zero_le _, ?_⟩
      rw [Extent.stop, Nat.zero_add]
      exact within
    rw [Extent.getElem?_splice_of_covers fits covers]
    change bytes[i]? = _
    rw [same i within, Extent.getElem?_contents (by omega), FsHistory.byteAt, written,
      Option.getD_some]
  · intro i behind
    refine Extent.getElem?_splice_of_not_covers fits fun covers => ?_
    have before := covers.2
    rw [Extent.stop, Nat.zero_add] at before
    exact absurd before (Nat.not_lt_of_le behind)

theorem read_ends (represents : fs.Represents history) {offset : UInt64} {buf : List UInt8} :
    Ends checks history fs (.read handle offset buf) := by
  cases holds : history.holder handle with
  | none =>
      refine .err .badHandle (Exec.bind_of_err (badHandle_run ?_) _) ?_
      · exact represents.unheld handle holds
      · simp only [FsHistory.Answers, holds]
  | some held =>
      obtain ⟨path, canWrite⟩ := held
      obtain ⟨id, writes, opened, indexed, written, stored⟩ := represents.reaches holds
      obtain ⟨bytes, long, same, ran⟩ :=
        read_run offset buf opened stored
      refine .ok (.bytes bytes.length (Extent.splice buf ⟨0, bytes⟩)) fs
        (Exec.bind_of_ok ran _) ?_ represents
      simp only [FsHistory.Answers, holds]
      exact ⟨_, _, rfl, readsInto writes written long same⟩

theorem write_ends (represents : fs.Represents history) {offset : UInt64} {src : List UInt8}
    (fits : ∀ file, fs.opened handle = some file → file.canWrite = true →
      offset.toNat + src.length < 2 ^ 64 ∨
        (checks = false ∧ maxFileBytes < (offset.toNat + src.length) % 2 ^ 64)) :
    Ends checks history fs (.write handle offset src) := by
  cases holds : history.holder handle with
  | none =>
      refine .err .badHandle (map_err (badHandle_run ?_)) ?_
      · exact represents.unheld handle holds
      · simp only [FsHistory.Answers, holds]
  | some held =>
      obtain ⟨path, canWrite⟩ := held
      obtain ⟨id, writes, opened, indexed, written, stored⟩ := represents.reaches holds
      cases canWrite with
      | false =>
          refine .err .denied (map_err ?_) ?_
          · unfold write
            rw [Exec.get_bind_run, opened]
            rfl
          · simp only [FsHistory.Answers, holds]
      | true =>
          by_cases small : offset.toNat + src.length ≤ maxFileBytes
          · refine .ok (.count src.length) _
              (map_run (write_run opened rfl stored small)) ?_ ?_
            · simp only [FsHistory.Answers, holds, if_pos small]
            · have grown := Extent.splice_grow_contents 0 ⟨offset.toNat, src⟩ writes
              rw [Extent.stop] at grown
              simp only [FsHistory.record, holds]
              rw [grown]
              refine represents.setFile indexed ?_
                (fun other ne => FsHistory.writes_wrote_of_ne ne) (fun _ => rfl)
              rw [FsHistory.writes_wrote, written, Option.map_some]
          · obtain ⟨stop, sum, large⟩ :=
              addUsize_run fs (fits _ opened rfl) (Nat.lt_of_not_le small)
            refine .err .tooLarge (map_err (write_tooLarge opened rfl stored sum large)) ?_
            simp only [FsHistory.Answers, holds, if_neg small]

theorem size_ends (represents : fs.Represents history) :
    Ends checks history fs (.size handle) := by
  cases holds : history.holder handle with
  | none =>
      refine .err .badHandle (map_err (badHandle_run ?_)) ?_
      · exact represents.unheld handle holds
      · simp only [FsHistory.Answers, holds]
  | some held =>
      obtain ⟨path, canWrite⟩ := held
      obtain ⟨id, writes, opened, indexed, written, stored⟩ := represents.reaches holds
      have ran : size handle fs = .ok (history.size path) fs := by
        unfold size
        rw [Exec.get_bind_run, opened, Exec.okOr_some, Exec.pure_bind_run, stored,
          Option.map_some, Option.getD_some, Extent.length_contents, FsHistory.size, written,
          Option.getD_some]
        rfl
      refine .ok (.count (history.size path)) fs (map_run ran) ?_ represents
      simp only [FsHistory.Answers, holds]

theorem close_ends (represents : fs.Represents history) :
    Ends checks history fs (.close handle) := by
  cases holds : history.holder handle with
  | none =>
      have absent := represents.unheld handle holds
      have same : Function.update fs.opened handle none = fs.opened := by
        rw [← absent, Function.update_eq_self]
      refine .err .badHandle (Exec.bind_of_err ?_ _) ?_
      · unfold close
        rw [Exec.get_bind_run, Exec.modify_bind_run, same, absent]
        rfl
      · rw [FsHistory.Answers, if_pos holds]
  | some held =>
      obtain ⟨path, canWrite⟩ := held
      obtain ⟨id, writes, opened, _⟩ := represents.reaches holds
      have ran : close handle fs =
          .ok () { fs with opened := Function.update fs.opened handle none } := by
        unfold close
        rw [Exec.get_bind_run, Exec.modify_bind_run, opened]
        rfl
      refine .ok .closed _ (Exec.bind_of_ok ran _) ?_ represents.dropHandle
      rw [FsHistory.Answers, if_neg (by simp [holds])]

/-- One call. -/
theorem ends (represents : fs.Represents history) {call : Call}
    (inRange : fs.InRange checks call) : Ends checks history fs call := by
  cases call with
  | create path => exact represents.create_ends inRange
  | «open» path write create => exact represents.open_ends inRange.1 inRange.2
  | read handle offset buf => exact represents.read_ends
  | write handle offset src => exact represents.write_ends inRange
  | size handle => exact represents.size_ends
  | close handle => exact represents.close_ends

end Represents

/-! ## Runs of calls -/

/-- A call behaves as on a file system of byte arrays with this history: it does not panic,
an error changes nothing, and a successful call changes its own file only, a write no byte
that it does not address. -/
structure Conforms (checks : Bool) (history : FsHistory) (fs : MemFs) (call : Call) : Prop where
  ends :
    (∃ reply after, run checks call fs = .ok reply after ∧ history.Answers call (.ok reply)) ∨
      ∃ error, run checks call fs = .err error fs ∧ history.Answers call (.error error)
  others : ∀ reply after, run checks call fs = .ok reply after →
    ∀ path, history.target call ≠ some path → after.contents path = fs.contents path
  addressed : ∀ handle offset src, call = .write handle offset src →
    ∀ reply after, run checks call fs = .ok reply after →
      ∀ path position, ¬ (Extent.mk offset.toNat src).Covers position →
        after.byteAt path position = fs.byteAt path position

theorem Ends.conforms {checks : Bool} {history : FsHistory} {fs : MemFs} {call : Call}
    (ends : Ends checks history fs call) (represents : fs.Represents history) :
    Conforms checks history fs call := by
  cases ends with
  | err error ran answers =>
      refine ⟨.inr ⟨error, ran, answers⟩, ?_, ?_⟩
      · intro reply after again
        rw [ran] at again
        cases again
      · intro _ _ _ _ reply after again
        rw [ran] at again
        cases again
  | ok reply after ran answers stands =>
      have only : ∀ other final, run checks call fs = .ok other final → after = final := by
        intro other final again
        exact (Outcome.ok.inj (ran.symm.trans again)).2
      refine ⟨.inl ⟨reply, after, ran, answers⟩, ?_, ?_⟩
      · intro other final again path outside
        obtain rfl := only other final again
        rw [stands.contents, represents.contents, FsHistory.writes_record outside]
      · rintro handle offset src rfl other final again path position outside
        obtain rfl := only other final again
        rw [stands.byteAt, represents.byteAt, FsHistory.byteAt_record_write outside]

/-- Make a call and record it. -/
def next (checks : Bool) (before : MemFs × FsHistory) (call : Call) :
    Option (MemFs × FsHistory) :=
  match run checks call before.1 with
  | .ok reply after => some (after, before.2.record call reply)
  | .err _ after => some (after, before.2)
  | .panic => none

/-- Calls one after another, with their history. -/
def system (checks : Bool) : TransitionSystem (MemFs × FsHistory) Call where
  Initial state := state = (new, [])
  Step before call after := next checks before call = some after

theorem Represents.step {checks : Bool} {before after : MemFs × FsHistory} {call : Call}
    (represents : before.1.Represents before.2) (inRange : before.1.InRange checks call)
    (taken : (system checks).Step before call after) : after.1.Represents after.2 := by
  change next checks before call = some after at taken
  unfold next at taken
  cases represents.ends inRange with
  | ok reply later ran answers stands =>
      rw [ran] at taken
      obtain rfl := Option.some.inj taken
      exact stands
  | err error ran answers =>
      rw [ran] at taken
      obtain rfl := Option.some.inj taken
      exact represents

/-- In a run of calls that are in range, files have the bytes last written, and every call in
range conforms. -/
theorem run_conforms {checks : Bool} {state : MemFs × FsHistory}
    (reachable : (system checks).Reachable (fun state => state.1.InRange checks) state) :
    (∀ path, state.1.contents path = (state.2.writes path).map (Extent.contents 0)) ∧
      ∀ call, state.1.InRange checks call → Conforms checks state.2 state.1 call := by
  have represents : state.1.Represents state.2 := by
    refine @TransitionSystem.Reachable.invariant _ _ _ _
      (fun state => state.1.Represents state.2) _ reachable ?_ ?_
    · rintro start rfl
      exact .new
    · intro before call after inRange represents taken
      exact represents.step inRange taken
  exact ⟨represents.contents, fun call inRange => (represents.ends inRange).conforms represents⟩

/-- After `/f` was opened. -/
def sampleOpened (checks : Bool) : MemFs × FsHistory :=
  (next checks (new, []) (.open "/f" true true)).getD (new, [])

theorem sampleOpened_reachable (checks : Bool) :
    (system checks).Reachable (fun state => state.1.InRange checks) (sampleOpened checks) := by
  have start : (system checks).Reachable (fun state => state.1.InRange checks) (new, []) :=
    ⟨_, rfl, .refl _⟩
  have taken : (system checks).Step (new, []) (.open "/f" true true) (sampleOpened checks) := by
    cases checks with
    | false => rfl
    | true => rfl
  have inRange : InRange checks new (.open "/f" true true) :=
    ⟨fun _ _ => ⟨fun _ => by decide, rfl⟩, fun _ => ⟨fun _ => by decide, rfl⟩⟩
  exact start.step inRange taken

/-- Byte 7 written at position 3 of a new file is read back behind three zeros. -/
theorem run_conforms_sample :
    ∃ state : MemFs × FsHistory,
      Conforms false state.2 state.1 (.read 0 0 [9, 9, 9, 9, 9]) ∧
        run false (.read 0 0 [9, 9, 9, 9, 9]) state.1 =
          .ok (.bytes 4 [0, 0, 0, 7, 9]) state.1 := by
  have inRange : InRange false (sampleOpened false).1 (.write 0 3 [7]) :=
    fun _ _ _ => .inl (by decide)
  have reachable := (sampleOpened_reachable false).step inRange rfl
  exact ⟨_, (run_conforms reachable).2 _ trivial, rfl⟩

/-- Two bytes at the last offset panic in both kinds of builds. -/
theorem write_at_last_offset_panics :
    (¬ ∀ state, (system true).Reachable TransitionSystem.anyStep state →
        ∀ call, Conforms true state.2 state.1 call) ∧
      ¬ ∀ state, (system false).Reachable TransitionSystem.anyStep state →
        ∀ call, Conforms false state.2 state.1 call := by
  have fails : ∀ checks, ¬ ∀ state, (system checks).Reachable TransitionSystem.anyStep state →
      ∀ call, Conforms checks state.2 state.1 call := by
    intro checks conforms
    have ran : run checks (.write 0 0xffffffffffffffff [1, 2]) (sampleOpened checks).1 =
        .panic := by
      cases checks with
      | false => rfl
      | true => rfl
    have conforms := conforms _ ((sampleOpened_reachable checks).mono fun _ _ _ => trivial)
      (.write 0 0xffffffffffffffff [1, 2])
    rcases conforms.ends with ⟨_, _, again, _⟩ | ⟨_, again, _⟩
    · rw [ran] at again
      cases again
    · rw [ran] at again
      cases again
  exact ⟨fails true, fails false⟩

end MemFs

end Simurgh
