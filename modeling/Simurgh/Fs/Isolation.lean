import Simurgh.Fs.AccessMode

/-!
# Clients of the file server

The handles of all clients are numbers from one counter.  The receive says which client sent
a request, but nothing of it reaches the file system.
-/

namespace Simurgh

namespace FsRequest

/-- The request with another handle. -/
def withHandle (handle : FileHandle) : FsRequest → FsRequest
  | .open path flags => .open path flags
  | .read _ offset len sharedCap => .read handle offset len sharedCap
  | .write _ offset len sharedCap => .write handle offset len sharedCap
  | .stat path => .stat path
  | .close _ => .close handle

/-- The length of a `Read` or a `Write`. -/
def len : FsRequest → UInt32
  | .read _ _ len _ => len
  | .write _ _ len _ => len
  | _ => 0

end FsRequest

/-- The handle is open for writing. -/
def MemFs.CanWrite (fs : MemFs) (handle : FileHandle) : Prop :=
  ∃ file, fs.opened handle = some file ∧ file.canWrite = true

namespace FsServer

/-- The file system and the handles that its clients were given. -/
structure Clients where
  fs : MemFs
  /-- The client that was answered with a handle, newest first. -/
  issued : List (ThreadId × FileHandle)

namespace Clients

/-- The server at the start of its loop. -/
def start (checks : Bool) : Clients where
  fs := (Session.start checks).fs
  issued := []

def noted (clients : Clients) (sender : ThreadId) :
    FsResponse → List (ThreadId × FileHandle)
  | .opened handle => (sender, handle) :: clients.issued
  | _ => clients.issued

/-- The server after a client was served, unless it panics. -/
def next (checks : Bool) (clients : Clients) (turn : ThreadId × Arrival) : Option Clients :=
  (serve checks turn.2 clients.fs).map fun (resp, after) => ⟨after.fs, clients.noted turn.1 resp⟩

/-- The handle was issued to another client. -/
def IssuedElsewhere (clients : Clients) (sender : ThreadId) (handle : FileHandle) : Prop :=
  ∃ other, other ≠ sender ∧ (other, handle) ∈ clients.issued

/-- The handle was issued to another client and not to this one. -/
def Foreign (clients : Clients) (sender : ThreadId) (handle : FileHandle) : Prop :=
  clients.IssuedElsewhere sender handle ∧ (sender, handle) ∉ clients.issued

/-- A request on a foreign handle fails with `BadHandle` and changes nothing. -/
def Refuses (clients : Clients) (sender : ThreadId) (region : DataRegion) (req : FsRequest)
    (ended : Option (FsResponse × FsServer)) : Prop :=
  ∀ handle, req.handle? = some handle → clients.Foreign sender handle →
    ended = some (.error .badHandle, ⟨clients.fs, region⟩)

/-- A request on a foreign handle comes after the handle was closed, and is not too long. -/
def NamesClosed (clients : Clients) (sender : ThreadId) (req : FsRequest) : Prop :=
  ∀ handle, req.handle? = some handle → clients.Foreign sender handle →
    clients.fs.opened handle = none ∧ req.len ≤ fsDataLen

/-- No request is made on an open handle that another client was given. -/
def Apart (clients : Clients) (turn : ThreadId × Arrival) : Prop :=
  ∀ req handle, decodeFsRequest turn.2.msg = .ok req → req.handle? = some handle →
    clients.IssuedElsewhere turn.1 handle → clients.fs.opened handle = none

end Clients

/-! ## Two runs -/

/-- What a client sees when a request of a client was answered: the response and the data
region if it was its own, and otherwise only that the server goes on. -/
def seen (client sender : ThreadId) (ended : Option (FsResponse × FsServer)) :
    Option (Option (FsResponse × DataRegion)) :=
  ended.map fun (resp, after) => if sender = client then some (resp, after.data) else none

/-- Two servers take their turns side by side. -/
def both (checks : Bool) (servers : Clients × Clients) (turns : ThreadId × Arrival × Arrival) :
    Option (Clients × Clients) := do
  let left ← servers.1.next checks (turns.1, turns.2.1)
  let right ← servers.2.next checks (turns.1, turns.2.2)
  return (left, right)

/-- The same client sends the same request, and another client than the observer may name
another handle.  The file is the same for all clients, so their writes to it are made in both
runs or in none. -/
structure Varies (client : ThreadId) (servers : Clients × Clients)
    (turns : ThreadId × Arrival × Arrival) : Prop where
  region : turns.2.2.data = turns.2.1.data
  request : turns.2.2.msg = turns.2.1.msg ∨
    (turns.1 ≠ client ∧ ∃ req handle, decodeFsRequest turns.2.1.msg = .ok req ∧
      decodeFsRequest turns.2.2.msg = .ok (req.withHandle handle))
  write : turns.1 ≠ client → ∀ handle other offset len sharedCap,
    decodeFsRequest turns.2.1.msg = .ok (.write handle offset len sharedCap) →
    decodeFsRequest turns.2.2.msg = .ok (.write other offset len sharedCap) →
      (MemFs.CanWrite servers.1.fs handle ↔ MemFs.CanWrite servers.2.fs other)

/-- The client sees the same in both runs. -/
def SeesTheSame (checks : Bool) (client : ThreadId) (servers : Clients × Clients)
    (turns : ThreadId × Arrival × Arrival) : Prop :=
  seen client turns.1 (serve checks turns.2.1 servers.1.fs) =
    seen client turns.1 (serve checks turns.2.2 servers.2.fs)

/-! ## Requests that name foreign handles -/

/-- Requests on foreign handles are refused in every turn of a run. -/
def ForeignRefused (checks : Bool) (turns : List (ThreadId × Arrival)) : Prop :=
  TransitionSystem.Throughout (Clients.next checks)
    (fun clients turn => ∀ req, decodeFsRequest turn.2.msg = .ok req →
      clients.Refuses turn.1 turn.2.data req (serve checks turn.2 clients.fs))
    (.start checks) turns

def ForeignClosed (checks : Bool) (turns : List (ThreadId × Arrival)) : Prop :=
  TransitionSystem.Throughout (Clients.next checks)
    (fun clients turn => ∀ req, decodeFsRequest turn.2.msg = .ok req →
      clients.NamesClosed turn.1 req)
    (.start checks) turns

/-- A client sees the same whichever handles the other clients name. -/
def Isolated (checks : Bool) (client : ThreadId)
    (turns : List (ThreadId × Arrival × Arrival)) : Prop :=
  TransitionSystem.Throughout (both checks) (SeesTheSame checks client)
    (.start checks, .start checks) turns

variable {checks : Bool} {session : Session} {clients later left right : Clients}
  {client sender : ThreadId} {region : DataRegion} {id : UInt32} {data : List UInt8}
  {req : FsRequest} {resp : FsResponse} {after : FsServer} {handle other : FileHandle}
  {file : OpenFile} {turn : ThreadId × Arrival} {offset : UInt64} {len sharedCap : UInt32}

/-! ## Open handles -/

/-- What is open after a handle was closed was open before. -/
theorem opened_of_update {table : FileHandle → Option OpenFile}
    (opened : Function.update table other none handle = some file) :
    table handle = some file := by
  by_cases same : handle = other
  · rw [same, Function.update_self] at opened
    cases opened
  · rw [Function.update_of_ne same] at opened
    exact opened

/-- A handle that is open after a request was open before it, or is the response. -/
theorem Serving.opened_before (serving : Serving session id data)
    (ran : handleRequest checks req ⟨session.fs, region⟩ = some (resp, after))
    (opened : after.fs.opened handle = some file) :
    session.fs.opened handle = some file ∨ resp = .opened handle := by
  have effect := serving.effect ran
  generalize after.fs = fs at effect opened
  cases effect with
  | opened flags =>
      by_cases same : handle = session.fs.nextHandle
      · exact .inr (by rw [same])
      · exact .inl ((Function.update_of_ne same _ _).symm.trans opened)
  | looked size => exact .inl (opened_of_update opened)
  | closed other => exact .inl (opened_of_update opened)
  | same others => exact .inl opened
  | written mode writes small => exact .inl opened

namespace Clients

/-- The server has its file, and every open handle was issued. -/
structure Tracked (clients : Clients) (id : UInt32) (data : List UInt8) : Prop where
  serving : ∃ modes, Serving ⟨clients.fs, modes⟩ id data
  known : ∀ handle file, clients.fs.opened handle = some file →
    ∃ client, (client, handle) ∈ clients.issued

theorem noted_of_ne (other : ∀ handle, resp ≠ .opened handle) :
    clients.noted sender resp = clients.issued := by
  cases resp with
  | opened handle => exact absurd rfl (other handle)
  | read bytes => rfl
  | written bytes => rfl
  | stat size isDir => rfl
  | closed => rfl
  | error code => rfl

theorem mem_noted {entry : ThreadId × FileHandle} (before : entry ∈ clients.issued) :
    entry ∈ clients.noted sender resp := by
  by_cases opens : ∃ handle, resp = .opened handle
  · obtain ⟨handle, rfl⟩ := opens
    exact List.mem_cons_of_mem _ before
  · rw [noted_of_ne (fun handle same => opens ⟨handle, same⟩)]
    exact before

namespace Tracked

theorem start (checks : Bool) : (Clients.start checks).Tracked 0 greeting where
  serving := ⟨_, Serving.start checks⟩
  known handle file opened := by
    obtain ⟨flags, mode, _⟩ := (Serving.start checks).held handle file opened
    cases mode

theorem next (tracked : clients.Tracked id data) (taken : clients.next checks turn = some later) :
    ∃ contents, later.Tracked id contents := by
  obtain ⟨modes, serving⟩ := tracked.serving
  obtain ⟨⟨resp, after⟩, ran, rfl⟩ := Option.map_eq_some_iff.1 taken
  cases decoded : decodeFsRequest turn.2.msg with
  | error error =>
      rw [serve, decoded] at ran
      obtain ⟨rfl, rfl⟩ := Prod.mk.inj (Option.some.inj ran)
      exact ⟨data, ⟨modes, serving⟩, tracked.known⟩
  | ok req =>
      rw [serve, decoded] at ran
      obtain ⟨contents, served⟩ := serving.answered ran
      refine ⟨contents, ⟨_, served⟩, ?_⟩
      intro handle file opened
      rcases serving.opened_before ran opened with before | rfl
      · obtain ⟨client, issued⟩ := tracked.known handle file before
        exact ⟨client, mem_noted issued⟩
      · exact ⟨turn.1, List.mem_cons_self⟩

end Tracked

end Clients

/-! ## Reads and writes -/

/-- What a `Read` answers and leaves in the region. -/
def readAnswer (region : DataRegion) (data : List UInt8) (offset : UInt64) (len : UInt32)
    (file : Option OpenFile) : FsResponse × DataRegion :=
  if fsDataLen < len then (.error .badSharedRegion, region)
  else if file = none then (.error .badHandle, region)
  else (.read (.ofNat ((data.drop offset.toNat).take len.toNat).length),
    region.fill (Extent.splice (region.front len) ⟨0, (data.drop offset.toNat).take len.toNat⟩))

theorem readAnswer_ne {found : Option OpenFile} :
    ∀ handle, (readAnswer region data offset len found).1 ≠ .opened handle := by
  intro handle
  rw [readAnswer]
  split
  · simp
  · split
    · simp
    · simp

/-- A `Read` changes the region alone. -/
theorem Serving.read_eq (serving : Serving session id data) :
    handleRequest checks (.read handle offset len sharedCap) ⟨session.fs, region⟩ =
      some ((readAnswer region data offset len (session.fs.opened handle)).1,
        ⟨session.fs, (readAnswer region data offset len (session.fs.opened handle)).2⟩) := by
  rw [readAnswer]
  by_cases long : fsDataLen < len
  · rw [if_pos long]
    exact handleRequest_read_of_lt long
  · have fits := UInt32.not_lt.1 long
    rw [if_neg long]
    cases opened : session.fs.opened handle with
    | none => exact handleRequest_read_closed fits opened
    | some file =>
        obtain ⟨flags, _, rfl⟩ := serving.held handle file opened
        exact handleRequest_read fits opened serving.stored

/-- Why a `Write` fails on a handle that is not open for writing. -/
def refusal (len : UInt32) (file : Option OpenFile) : FsErrorCode :=
  if fsDataLen < len then .badSharedRegion else if file = none then .badHandle else .denied

theorem handleRequest_write_refused {server : FsServer} (refused : ¬ server.fs.CanWrite handle) :
    handleRequest checks (.write handle offset len sharedCap) server =
      some (.error (refusal len (server.fs.opened handle)), server) := by
  rw [refusal]
  by_cases long : fsDataLen < len
  · rw [if_pos long]
    exact handleRequest_write_of_lt long
  · have fits := UInt32.not_lt.1 long
    rw [if_neg long]
    cases opened : server.fs.opened handle with
    | none => exact handleRequest_write_closed fits opened
    | some file =>
        have readOnly : file.canWrite = false := by
          rw [← Bool.not_eq_true]
          exact fun canWrite => refused ⟨file, opened, canWrite⟩
        exact handleRequest_write_denied fits opened readOnly

/-- How a `Write` ends on a handle that is open for writing, and the contents if they are
changed. -/
def writeOutcome (region : DataRegion) (data : List UInt8) (offset : UInt64) (len : UInt32) :
    Option (FsResponse × Option (List UInt8)) :=
  if fsDataLen < len then some (.error .badSharedRegion, none)
  else if offset.toNat + len.toNat ≤ maxFileBytes then
    some (.written len, some (Extent.splice (Extent.grow 0 (offset.toNat + len.toNat) data)
      ⟨offset.toNat, region.front len⟩))
  else if offset.toNat + len.toNat < 2 ^ 64 then some (.error .io, none)
  else none

theorem Serving.write_permitted (serving : Serving session id data)
    (canWrite : session.fs.CanWrite handle) :
    handleRequest checks (.write handle offset len sharedCap) ⟨session.fs, region⟩ =
      (writeOutcome region data offset len).map fun (resp, contents) =>
        (resp, ⟨contents.elim session.fs (session.fs.setFile id), region⟩) := by
  obtain ⟨file, opened, writes⟩ := canWrite
  obtain ⟨flags, _, rfl⟩ := serving.held handle file opened
  rw [writeOutcome]
  by_cases long : fsDataLen < len
  · rw [if_pos long]
    exact handleRequest_write_of_lt long
  · have fits := UInt32.not_lt.1 long
    rw [if_neg long]
    by_cases small : offset.toNat + len.toNat ≤ maxFileBytes
    · rw [if_pos small]
      exact handleRequest_write fits opened writes serving.stored small
    · rw [if_neg small]
      have large := Nat.lt_of_not_le small
      by_cases inside : offset.toNat + len.toNat < 2 ^ 64
      · rw [if_pos inside]
        exact handleRequest_write_tooLarge fits opened writes serving.stored large inside
      · rw [if_neg inside]
        exact handleRequest_write_panics fits opened writes serving.stored
          (Nat.le_of_not_lt inside)

theorem writeOutcome_ne_badHandle {contents : Option (List UInt8)} (fits : len ≤ fsDataLen) :
    writeOutcome region data offset len ≠ some (.error .badHandle, contents) := by
  rw [writeOutcome, if_neg (UInt32.not_lt.2 fits)]
  by_cases small : offset.toNat + len.toNat ≤ maxFileBytes
  · rw [if_pos small]
    simp
  · rw [if_neg small]
    simp

theorem writeOutcome_ne_opened {contents : Option (List UInt8)}
    (ended : writeOutcome region data offset len = some (resp, contents)) :
    ∀ handle, resp ≠ .opened handle := by
  rintro handle rfl
  rw [writeOutcome] at ended
  by_cases long : fsDataLen < len
  · simp [long] at ended
  · by_cases small : offset.toNat + len.toNat ≤ maxFileBytes
    · simp [long, small] at ended
    · simp [long, small] at ended

/-! ## One foreign request -/

/-- Requests on handles fail with `BadHandle` exactly on handles that are not open. -/
theorem Serving.badHandle_iff (serving : Serving session id data)
    (names : req.handle? = some handle) :
    handleRequest checks req ⟨session.fs, region⟩ =
        some (.error .badHandle, ⟨session.fs, region⟩) ↔
      session.fs.opened handle = none ∧ req.len ≤ fsDataLen := by
  cases req with
  | «open» path flags => cases names
  | stat path => cases names
  | close other =>
      obtain rfl : other = handle := Option.some.inj names
      have short : FsRequest.len (.close other) ≤ fsDataLen := UInt32.zero_le
      cases opened : session.fs.opened other with
      | none => exact iff_of_true (handleRequest_close_closed opened) ⟨rfl, short⟩
      | some file =>
          rw [handleRequest_close_opened opened]
          exact iff_of_false (by simp) (by simp)
  | read other offset len sharedCap =>
      obtain rfl : other = handle := Option.some.inj names
      by_cases fits : len ≤ fsDataLen
      · cases opened : session.fs.opened other with
        | none => exact iff_of_true (handleRequest_read_closed fits opened) ⟨rfl, fits⟩
        | some file =>
            obtain ⟨flags, _, rfl⟩ := serving.held other file opened
            rw [@handleRequest_read checks ⟨session.fs, region⟩ other offset len sharedCap _ data
              fits opened serving.stored]
            exact iff_of_false (by simp) (by simp)
      · rw [handleRequest_read_of_lt (UInt32.not_le.1 fits)]
        exact iff_of_false (by simp) fun closed => fits closed.2
  | write other offset len sharedCap =>
      obtain rfl : other = handle := Option.some.inj names
      by_cases fits : len ≤ fsDataLen
      · cases opened : session.fs.opened other with
        | none => exact iff_of_true (handleRequest_write_closed fits opened) ⟨rfl, fits⟩
        | some file =>
            refine iff_of_false ?_ (by simp)
            by_cases canWrite : session.fs.CanWrite other
            · rw [serving.write_permitted canWrite]
              intro refused
              obtain ⟨⟨resp, contents⟩, outcome, same⟩ := Option.map_eq_some_iff.1 refused
              obtain ⟨rfl, _⟩ := Prod.mk.inj same
              exact writeOutcome_ne_badHandle fits outcome
            · rw [handleRequest_write_refused canWrite, opened, refusal,
                if_neg (UInt32.not_lt.2 fits)]
              simp
      · rw [handleRequest_write_of_lt (UInt32.not_le.1 fits)]
        exact iff_of_false (by simp) fun closed => fits closed.2

/-! ## The two runs side by side -/

/-- Two servers that differ only in which handles of the other clients are open. -/
inductive Alike (client : ThreadId) (left : Clients) : Clients → Prop where
  | intro (table : FileHandle → Option OpenFile)
      (held : ∀ handle, (client, handle) ∈ left.issued → table handle = left.fs.opened handle) :
      Alike client left ⟨{ left.fs with opened := table }, left.issued⟩

theorem Alike.files_eq (alike : Alike client left right) : right.fs.files = left.fs.files := by
  cases alike with
  | intro table held => rfl

/-- Both servers panic, or the servers after their answers are alike and the client was
answered the same. -/
inductive Agree (client sender : ThreadId) (left right : Clients) :
    Option (FsResponse × FsServer) → Option (FsResponse × FsServer) → Prop where
  | panic : Agree client sender left right none none
  | answer {resp resp' : FsResponse} {after after' : FsServer}
      (same : sender = client → resp' = resp ∧ after'.data = after.data)
      (alike : Alike client ⟨after.fs, left.noted sender resp⟩
        ⟨after'.fs, right.noted sender resp'⟩) :
      Agree client sender left right (some (resp, after)) (some (resp', after'))

section TwoRuns

variable {fs : MemFs} {table : FileHandle → Option OpenFile} {issued : List (ThreadId × FileHandle)}
  {modes modes' : FileHandle → Option OpenFlags} {first second : FileHandle}

theorem update_congr {opened : FileHandle → Option OpenFile} {value : Option OpenFile}
    (same : table handle = opened handle) :
    Function.update table other value handle = Function.update opened other value handle := by
  by_cases updated : handle = other
  · rw [updated, Function.update_self, Function.update_self]
  · rw [Function.update_of_ne updated, Function.update_of_ne updated]
    exact same

theorem closeAnswer_ne (found : Option OpenFile) :
    ∀ handle, closeAnswer found ≠ .opened handle := by
  intro handle
  rw [closeAnswer]
  split
  · simp
  · simp

/-- The client is not affected when handles of others are closed. -/
theorem update_held {opened : FileHandle → Option OpenFile}
    (closed : (client, other) ∈ issued → opened other = none)
    (own : (client, handle) ∈ issued) :
    Function.update opened other none handle = opened handle := by
  by_cases same : handle = other
  · rw [same, Function.update_self]
    exact (closed (same ▸ own)).symm
  · exact Function.update_of_ne same _ _

/-- Both answers change the same besides the open handles. -/
theorem agree_of_held {kept : MemFs} {after : FileHandle → Option OpenFile}
    {resp resp' : FsResponse} {filled filled' : DataRegion}
    (noted : Clients.noted ⟨fs, issued⟩ sender resp' = Clients.noted ⟨fs, issued⟩ sender resp)
    (same : sender = client → resp' = resp ∧ filled' = filled)
    (heldAfter : ∀ handle, (client, handle) ∈ Clients.noted ⟨fs, issued⟩ sender resp →
      after handle = kept.opened handle) :
    Agree client sender ⟨fs, issued⟩ ⟨{ fs with opened := table }, issued⟩
      (some (resp, ⟨kept, filled⟩)) (some (resp', ⟨{ kept with opened := after }, filled'⟩)) := by
  apply Agree.answer same
  have notedRight : Clients.noted ⟨{ fs with opened := table }, issued⟩ sender resp' =
      Clients.noted ⟨fs, issued⟩ sender resp' := by
    cases resp' with
    | opened handle => rfl
    | read bytes => rfl
    | written bytes => rfl
    | stat size isDir => rfl
    | closed => rfl
    | error code => rfl
  rw [notedRight, noted]
  exact .intro after heldAfter

variable (held : ∀ handle, (client, handle) ∈ issued → table handle = fs.opened handle)

include held

/-- An answer that changes neither file system. -/
theorem agree_of_kept {resp resp' : FsResponse} {filled filled' : DataRegion}
    (other : ∀ handle, resp ≠ .opened handle) (other' : ∀ handle, resp' ≠ .opened handle)
    (same : sender = client → resp' = resp ∧ filled' = filled) :
    Agree client sender ⟨fs, issued⟩ ⟨{ fs with opened := table }, issued⟩
      (some (resp, ⟨fs, filled⟩)) (some (resp', ⟨{ fs with opened := table }, filled'⟩)) := by
  have noted := @Clients.noted_of_ne ⟨fs, issued⟩ sender resp other
  have noted' := @Clients.noted_of_ne ⟨fs, issued⟩ sender resp' other'
  apply agree_of_held (noted'.trans noted.symm) same
  rw [noted]
  exact held

/-- The next handle is taken in both runs. -/
theorem agree_of_taken {resp : FsResponse} (file : Option OpenFile)
    (fresh : ∀ handle, handle ≠ fs.nextHandle →
      (client, handle) ∈ Clients.noted ⟨fs, issued⟩ sender resp → (client, handle) ∈ issued) :
    Agree client sender ⟨fs, issued⟩ ⟨{ fs with opened := table }, issued⟩
      (some (resp, ⟨takeHandle fs file, region⟩))
      (some (resp, ⟨takeHandle { fs with opened := table } file, region⟩)) := by
  have heldAfter : ∀ handle, (client, handle) ∈ Clients.noted ⟨fs, issued⟩ sender resp →
      Function.update table fs.nextHandle file handle = (takeHandle fs file).opened handle := by
    intro handle own
    change _ = Function.update fs.opened fs.nextHandle file handle
    by_cases next : handle = fs.nextHandle
    · rw [next, Function.update_self, Function.update_self]
    · rw [Function.update_of_ne next, Function.update_of_ne next]
      exact held handle (fresh handle next own)
  exact agree_of_held rfl (fun _ => ⟨rfl, rfl⟩) heldAfter

/-! ## The requests -/

theorem agree_open {path : PathId} {flags : OpenFlags}
    (serving : Serving ⟨fs, modes⟩ id data) :
    Agree client sender ⟨fs, issued⟩ ⟨{ fs with opened := table }, issued⟩
      (handleRequest checks (.open path flags) ⟨fs, region⟩)
      (handleRequest checks (.open path flags) ⟨{ fs with opened := table }, region⟩) := by
  by_cases registered : path = 0
  · obtain rfl := registered
    by_cases last : NoHandleLeft checks fs
    · rw [handleRequest_open_panics serving.indexed last,
        handleRequest_open_panics serving.indexed last]
      exact .panic
    · rw [handleRequest_open serving.indexed last, handleRequest_open serving.indexed last]
      apply agree_of_taken held
      intro handle next own
      refine (List.mem_cons.1 own).resolve_left fun first => next ?_
      exact congrArg Prod.snd first
  · rw [handleRequest_open_of_ne registered, handleRequest_open_of_ne registered]
    exact agree_of_kept held (by simp) (by simp) (fun _ => ⟨rfl, rfl⟩)

theorem agree_stat {path : PathId} (serving : Serving ⟨fs, modes⟩ id data) :
    Agree client sender ⟨fs, issued⟩ ⟨{ fs with opened := table }, issued⟩
      (handleRequest checks (.stat path) ⟨fs, region⟩)
      (handleRequest checks (.stat path) ⟨{ fs with opened := table }, region⟩) := by
  by_cases registered : path = 0
  · obtain rfl := registered
    by_cases last : NoHandleLeft checks fs
    · rw [handleRequest_stat_panics serving.indexed last,
        handleRequest_stat_panics serving.indexed last]
      exact .panic
    · rw [handleRequest_stat serving.indexed serving.stored last,
        handleRequest_stat serving.indexed serving.stored last]
      apply agree_of_taken held
      exact fun _ _ own => own
  · rw [handleRequest_stat_of_ne registered, handleRequest_stat_of_ne registered]
    exact agree_of_kept held (by simp) (by simp) (fun _ => ⟨rfl, rfl⟩)

variable (closed : sender ≠ client → (client, first) ∈ issued → fs.opened first = none)
  (closed' : sender ≠ client → (client, second) ∈ issued → table second = none)
  (own : sender = client → second = first ∧ table first = fs.opened first)

include own

/-- A `Read` changes no file system. -/
theorem agree_read (serving : Serving ⟨fs, modes⟩ id data)
    (serving' : Serving ⟨{ fs with opened := table }, modes'⟩ id data) :
    Agree client sender ⟨fs, issued⟩ ⟨{ fs with opened := table }, issued⟩
      (handleRequest checks (.read first offset len sharedCap) ⟨fs, region⟩)
      (handleRequest checks (.read second offset len sharedCap)
        ⟨{ fs with opened := table }, region⟩) := by
  rw [serving.read_eq, serving'.read_eq]
  apply agree_of_kept held
  · exact readAnswer_ne
  · exact readAnswer_ne
  · intro mine
    obtain ⟨rfl, same⟩ := own mine
    dsimp only
    rw [same]
    exact ⟨rfl, rfl⟩

/-- A `Write` is made in both runs or in none. -/
theorem agree_write (serving : Serving ⟨fs, modes⟩ id data)
    (serving' : Serving ⟨{ fs with opened := table }, modes'⟩ id data)
    (writes : sender ≠ client →
      (fs.CanWrite first ↔ ({ fs with opened := table } : MemFs).CanWrite second)) :
    Agree client sender ⟨fs, issued⟩ ⟨{ fs with opened := table }, issued⟩
      (handleRequest checks (.write first offset len sharedCap) ⟨fs, region⟩)
      (handleRequest checks (.write second offset len sharedCap)
        ⟨{ fs with opened := table }, region⟩) := by
  have both : fs.CanWrite first ↔ ({ fs with opened := table } : MemFs).CanWrite second := by
    by_cases mine : sender = client
    · obtain ⟨rfl, same⟩ := own mine
      rw [MemFs.CanWrite, MemFs.CanWrite, ← same]
    · exact writes mine
  by_cases canWrite : fs.CanWrite first
  · rw [serving.write_permitted canWrite, serving'.write_permitted (both.1 canWrite)]
    cases outcome : writeOutcome region data offset len with
    | none => exact .panic
    | some ended =>
        obtain ⟨resp, contents⟩ := ended
        have other := writeOutcome_ne_opened outcome
        cases contents with
        | none => exact agree_of_kept held other other fun _ => ⟨rfl, rfl⟩
        | some contents =>
            have heldAfter : ∀ handle, (client, handle) ∈ Clients.noted ⟨fs, issued⟩ sender resp →
                table handle = (fs.setFile id contents).opened handle := by
              rw [Clients.noted_of_ne other]
              exact held
            exact agree_of_held rfl (fun _ => ⟨rfl, rfl⟩) heldAfter
  · rw [handleRequest_write_refused canWrite,
      handleRequest_write_refused fun allowed => canWrite (both.2 allowed)]
    apply agree_of_kept held (by simp) (by simp)
    intro mine
    obtain ⟨rfl, same⟩ := own mine
    dsimp only
    rw [same]
    exact ⟨rfl, rfl⟩

include closed closed'

theorem agree_close :
    Agree client sender ⟨fs, issued⟩ ⟨{ fs with opened := table }, issued⟩
      (handleRequest checks (.close first) ⟨fs, region⟩)
      (handleRequest checks (.close second) ⟨{ fs with opened := table }, region⟩) := by
  rw [handleRequest_close, handleRequest_close]
  have noted := @Clients.noted_of_ne ⟨fs, issued⟩ sender _ (closeAnswer_ne (fs.opened first))
  have noted' := @Clients.noted_of_ne ⟨fs, issued⟩ sender _ (closeAnswer_ne (table second))
  have heldAfter : ∀ handle, (client, handle) ∈
      Clients.noted ⟨fs, issued⟩ sender (closeAnswer (fs.opened first)) →
        Function.update table second none handle =
          ({ fs with opened := Function.update fs.opened first none } : MemFs).opened handle := by
    intro handle issuedToClient
    rw [noted] at issuedToClient
    by_cases mine : sender = client
    · obtain ⟨rfl, same⟩ := own mine
      exact update_congr (held handle issuedToClient)
    · change _ = Function.update fs.opened first none handle
      rw [update_held (closed mine) issuedToClient, update_held (closed' mine) issuedToClient]
      exact held handle issuedToClient
  refine agree_of_held (noted'.trans noted.symm) ?_ heldAfter
  intro mine
  obtain ⟨rfl, same⟩ := own mine
  dsimp only
  rw [same]
  exact ⟨rfl, rfl⟩

end TwoRuns

/-! ## One turn -/

theorem Clients.Tracked.closed_of_foreign (tracked : clients.Tracked id data)
    (unissued : (sender, handle) ∉ clients.issued)
    (apart : clients.IssuedElsewhere sender handle → clients.fs.opened handle = none) :
    clients.fs.opened handle = none := by
  cases opened : clients.fs.opened handle with
  | none => rfl
  | some file =>
      obtain ⟨other, issued⟩ := tracked.known handle file opened
      have ne : other ≠ sender := by
        rintro rfl
        exact unissued issued
      rw [← opened]
      exact apart ⟨other, ne, issued⟩

/-- One request that two servers are sent, with two handles if another client sends it. -/
theorem agree_handleRequest {second : FileHandle} {table : FileHandle → Option OpenFile}
    (trackedLeft : left.Tracked id data)
    (trackedRight : Clients.Tracked ⟨{ left.fs with opened := table }, left.issued⟩ id data)
    (held : ∀ handle, (client, handle) ∈ left.issued → table handle = left.fs.opened handle)
    (apart : ∀ handle, req.handle? = some handle → left.IssuedElsewhere sender handle →
      left.fs.opened handle = none)
    (apart' : ∀ handle, (req.withHandle second).handle? = some handle →
      left.IssuedElsewhere sender handle → table handle = none)
    (own : sender = client → req.withHandle second = req)
    (writes : sender ≠ client → ∀ first offset len sharedCap,
      req = .write first offset len sharedCap → (left.fs.CanWrite first ↔
        ({ left.fs with opened := table } : MemFs).CanWrite second)) :
    Agree client sender left ⟨{ left.fs with opened := table }, left.issued⟩
      (handleRequest checks req ⟨left.fs, region⟩)
      (handleRequest checks (req.withHandle second)
        ⟨{ left.fs with opened := table }, region⟩) := by
  obtain ⟨modes, serving⟩ := trackedLeft.serving
  obtain ⟨modes', serving'⟩ := trackedRight.serving
  have closed : ∀ first, req.handle? = some first → sender ≠ client →
      (client, first) ∈ left.issued → left.fs.opened first = none :=
    fun first names mine issued => apart first names ⟨client, Ne.symm mine, issued⟩
  have closed' : ∀ first, (req.withHandle second).handle? = some first → sender ≠ client →
      (client, first) ∈ left.issued → table first = none :=
    fun first names mine issued => apart' first names ⟨client, Ne.symm mine, issued⟩
  have mine : ∀ first, req.handle? = some first → (req.withHandle second).handle? = some second →
      sender = client → second = first ∧ table first = left.fs.opened first := by
    intro first names names' same
    rw [own same] at names' apart'
    obtain rfl : first = second := Option.some.inj (names.symm.trans names')
    refine ⟨rfl, ?_⟩
    by_cases issued : (sender, first) ∈ left.issued
    · exact held first (same ▸ issued)
    · have none := trackedLeft.closed_of_foreign issued (apart first names)
      have none' := trackedRight.closed_of_foreign issued (apart' first names)
      exact none'.trans none.symm
  cases req with
  | «open» path flags => exact agree_open held serving
  | stat path => exact agree_stat held serving
  | close first =>
      exact agree_close held (closed first rfl) (closed' second rfl) (mine first rfl rfl)
  | read first offset len sharedCap => exact agree_read held (mine first rfl rfl) serving serving'
  | write first offset len sharedCap =>
      exact agree_write held (mine first rfl rfl) serving serving' fun other =>
        writes other first offset len sharedCap rfl

/-- Every request names some handle as it is. -/
theorem exists_withHandle (req : FsRequest) : ∃ handle, req.withHandle handle = req := by
  cases req with
  | «open» path flags => exact ⟨0, rfl⟩
  | read handle offset len sharedCap => exact ⟨handle, rfl⟩
  | write handle offset len sharedCap => exact ⟨handle, rfl⟩
  | stat path => exact ⟨0, rfl⟩
  | close handle => exact ⟨handle, rfl⟩

theorem Varies.decoded {servers : Clients × Clients} {turns : ThreadId × Arrival × Arrival}
    (varies : Varies client servers turns) :
    (∃ error, decodeFsRequest turns.2.1.msg = .error error ∧
      decodeFsRequest turns.2.2.msg = .error error) ∨
    ∃ req handle, decodeFsRequest turns.2.1.msg = .ok req ∧
      decodeFsRequest turns.2.2.msg = .ok (req.withHandle handle) ∧
      (turns.1 = client → req.withHandle handle = req) := by
  rcases varies.request with same | ⟨ne, req, handle, first, second⟩
  · rw [same]
    cases decoded : decodeFsRequest turns.2.1.msg with
    | error error => exact .inl ⟨error, rfl, rfl⟩
    | ok req =>
        obtain ⟨handle, keeps⟩ := exists_withHandle req
        exact .inr ⟨req, handle, rfl, by rw [keeps], fun _ => keeps⟩
  · exact .inr ⟨req, handle, first, second, fun mine => absurd mine ne⟩

/-- Both servers have the file with the same contents, and are alike for the client. -/
structure Paired (client : ThreadId) (servers : Clients × Clients) (id : UInt32)
    (data : List UInt8) : Prop where
  left : servers.1.Tracked id data
  right : servers.2.Tracked id data
  alike : Alike client servers.1 servers.2

theorem Paired.agree {servers : Clients × Clients} {turns : ThreadId × Arrival × Arrival}
    (paired : Paired client servers id data) (varies : Varies client servers turns)
    (apart : servers.1.Apart (turns.1, turns.2.1)) (apart' : servers.2.Apart (turns.1, turns.2.2)) :
    Agree client turns.1 servers.1 servers.2 (serve checks turns.2.1 servers.1.fs)
      (serve checks turns.2.2 servers.2.fs) := by
  obtain ⟨left, right⟩ := servers
  obtain ⟨sender, first, second⟩ := turns
  have tracked : right.Tracked id data := paired.right
  have alike : Alike client left right := paired.alike
  have region : second.data = first.data := varies.region
  cases alike with
  | intro table held =>
      rw [serve, serve, region]
      rcases varies.decoded with ⟨error, refused, refused'⟩ | ⟨req, handle, decoded, decoded', own⟩
      · rw [refused, refused']
        exact agree_of_kept held (by simp) (by simp) fun _ => ⟨rfl, rfl⟩
      · rw [decoded, decoded']
        apply agree_handleRequest paired.left tracked held
        · exact fun named names => apart req named decoded names
        · exact fun named names => apart' _ named decoded' names
        · exact own
        · rintro other named offset len sharedCap rfl
          exact varies.write other named handle offset len sharedCap decoded decoded'

/-- What the servers are after a turn that they agree on. -/
theorem Paired.next {servers after : Clients × Clients} {turns : ThreadId × Arrival × Arrival}
    (paired : Paired client servers id data) (varies : Varies client servers turns)
    (apart : servers.1.Apart (turns.1, turns.2.1)) (apart' : servers.2.Apart (turns.1, turns.2.2))
    (taken : both checks servers turns = some after) :
    ∃ contents, Paired client after id contents := by
  obtain ⟨left, tookLeft, rest⟩ := Option.bind_eq_some_iff.1 taken
  obtain ⟨right, tookRight, same⟩ := Option.bind_eq_some_iff.1 rest
  obtain rfl := Option.some.inj same
  obtain ⟨contents, trackedLeft⟩ := paired.left.next tookLeft
  obtain ⟨contents', trackedRight⟩ := paired.right.next tookRight
  obtain ⟨⟨resp, after⟩, ran, rfl⟩ := Option.map_eq_some_iff.1 tookLeft
  obtain ⟨⟨resp', after'⟩, ran', rfl⟩ := Option.map_eq_some_iff.1 tookRight
  have agrees := @Paired.agree checks _ _ _ _ _ paired varies apart apart'
  rw [ran, ran'] at agrees
  cases agrees with
  | answer _ alike =>
      have same := alike.files_eq
      obtain ⟨modes, serving⟩ := trackedLeft.serving
      obtain ⟨modes', serving'⟩ := trackedRight.serving
      have stored' := serving'.stored
      rw [same, serving.stored] at stored'
      obtain rfl := Option.some.inj stored'
      exact ⟨contents, trackedLeft, trackedRight, alike⟩

/-- The observer sees the same of a turn that they agree on. -/
theorem Agree.seen_eq {ended ended' : Option (FsResponse × FsServer)}
    (agrees : Agree client sender left right ended ended') :
    seen client sender ended = seen client sender ended' := by
  cases agrees with
  | panic => rfl
  | @answer resp resp' after after' same _ =>
      rw [seen, seen, Option.map_some, Option.map_some]
      by_cases mine : sender = client
      · obtain ⟨rfl, region⟩ := same mine
        dsimp only
        rw [region]
      · dsimp only
        rw [if_neg mine, if_neg mine]

/-! ## Runs -/

/-- Requests on foreign handles are refused in every run exactly if each of them comes after
the handle was closed and is not too long.  A client sees the same in two runs in which
no request names an open handle that another client was given. -/
theorem clients_isolated_iff (checks : Bool) :
    (∀ turns, ForeignRefused checks turns ↔ ForeignClosed checks turns) ∧
    ∀ client turns,
      TransitionSystem.Throughout (both checks)
        (fun servers turns => Varies client servers turns ∧
          servers.1.Apart (turns.1, turns.2.1) ∧ servers.2.Apart (turns.1, turns.2.2))
        (.start checks, .start checks) turns →
      Isolated checks client turns := by
  constructor
  · intro turns
    apply @TransitionSystem.throughout_congr _ _ _
      (fun clients => ∃ id data, clients.Tracked id data)
    · rintro clients turn later ⟨id, data, tracked⟩ taken
      exact ⟨id, tracked.next taken⟩
    · rintro clients turn ⟨id, data, tracked⟩
      obtain ⟨modes, serving⟩ := tracked.serving
      apply forall₂_congr
      intro req decoded
      rw [serve, decoded]
      apply forall₃_congr
      intro handle names foreign
      exact serving.badHandle_iff names
    · exact ⟨0, greeting, .start checks⟩
  · intro client turns meets
    apply @TransitionSystem.Throughout.imp _ _ _
      (fun servers => ∃ id data, Paired client servers id data) _ _ _ _ _ _ _ meets
    · rintro servers turns later ⟨id, data, paired⟩ ⟨varies, apart, apart'⟩ taken
      exact ⟨id, paired.next varies apart apart' taken⟩
    · rintro servers turns ⟨id, data, paired⟩ ⟨varies, apart, apart'⟩
      exact (paired.agree varies apart apart').seen_eq
    · refine ⟨0, greeting, .start checks, .start checks, ?_⟩
      exact .intro _ fun _ _ => rfl

theorem varies_of_same {servers : Clients × Clients} {arrival : Arrival} :
    Varies client servers (client, arrival, arrival) where
  region := rfl
  request := .inl rfl
  write ne := absurd rfl ne

/-- Two clients open the file.  Client 2 closes its own handle or names another one, and
client 1 reads. -/
def bystander : List (ThreadId × Arrival × Arrival) :=
  [(1, .ofRequest (.open 0 ⟨3, by decide⟩), .ofRequest (.open 0 ⟨3, by decide⟩)),
    (2, .ofRequest (.open 0 ⟨3, by decide⟩), .ofRequest (.open 0 ⟨3, by decide⟩)),
    (2, .ofRequest (.close 2), .ofRequest (.close 7)),
    (1, .ofRequest (.read 1 0 20 0), .ofRequest (.read 1 0 20 0))]

/-- A request is apart if only its sender was given the handle that it names. -/
theorem apart_of_issued {clients : Clients} {entries : List (ThreadId × FileHandle)}
    (issued : clients.issued = entries)
    (own : ∀ handle, req.handle? = some handle →
      ∀ entry ∈ entries, entry.2 = handle → entry.1 = sender) :
    clients.Apart (sender, .ofRequest req) := by
  rintro other handle decoded named ⟨client, ne, elsewhere⟩
  have same := (FsRequest.follows.decode_encode req).symm.trans decoded
  cases same
  rw [issued] at elsewhere
  exact absurd (own handle named _ elsewhere rfl) ne

theorem clients_isolated_iff_sample :
    Isolated true 1 bystander ∧
      (bystander.foldlM (both true) (.start true, .start true)).isSome := by
  refine ⟨(clients_isolated_iff true).2 1 bystander ?_, rfl⟩
  have opens {clients : Clients} {sender : ThreadId} :
      clients.Apart (sender, .ofRequest (.open 0 ⟨3, by decide⟩)) :=
    apart_of_issued rfl fun handle named => by cases named
  refine ⟨⟨varies_of_same, opens, opens⟩, fun second taken => ?_⟩
  obtain rfl := Option.some.inj taken
  refine ⟨⟨⟨rfl, .inl rfl, ?_⟩, opens, opens⟩, fun third taken => ?_⟩
  · intro _ handle other offset len sharedCap decoded
    cases decoded
  obtain rfl := Option.some.inj taken
  refine ⟨⟨⟨rfl, .inr ⟨by decide, .close 2, 7, rfl, rfl⟩, ?_⟩, ?_, ?_⟩, fun last taken => ?_⟩
  · intro _ handle other offset len sharedCap decoded
    cases decoded
  · refine apart_of_issued (show _ = [(2, 2), (1, 1)] from rfl) fun handle named => ?_
    cases named
    decide
  · refine apart_of_issued (show _ = [(2, 2), (1, 1)] from rfl) fun handle named => ?_
    cases named
    decide
  obtain rfl := Option.some.inj taken
  have reads {clients : Clients} (issued : clients.issued = [(2, 2), (1, 1)]) :
      clients.Apart (1, .ofRequest (.read 1 0 20 0)) := by
    refine apart_of_issued issued fun handle named => ?_
    cases named
    decide
  exact ⟨⟨varies_of_same, reads rfl, reads rfl⟩, fun _ _ => trivial⟩

/-- Client 1 opens the file and reads it, and between the two client 2 names a handle to
close. -/
def intrusion : List (ThreadId × Arrival × Arrival) :=
  [(1, .ofRequest (.open 0 ⟨3, by decide⟩), .ofRequest (.open 0 ⟨3, by decide⟩)),
    (2, .ofRequest (.close 1), .ofRequest (.close 7)),
    (1, .ofRequest (.read 1 0 20 0), .ofRequest (.read 1 0 20 0))]

/-- Client 2 reads from the handle of client 1, and closes it, after which client 1 cannot
read. -/
theorem clients_not_isolated :
    ¬ ForeignRefused true [(1, .ofRequest (.open 0 ⟨3, by decide⟩)),
      (2, .ofRequest (.read 1 0 20 0))] ∧
    ¬ ForeignRefused true [(1, .ofRequest (.open 0 ⟨3, by decide⟩)),
      (2, .ofRequest (.close 1))] ∧
    TransitionSystem.Throughout (both true) (Varies 1) (.start true, .start true) intrusion ∧
    ¬ Isolated true 1 intrusion := by
  have foreign : Clients.Foreign ⟨(Clients.start true).fs, [(1, 1)]⟩ 2 1 :=
    ⟨⟨1, by decide, by decide⟩, by decide⟩
  refine ⟨?_, ?_, ?_, ?_⟩
  · intro refused
    have refuses := (refused.2 _ rfl).1 (.read 1 0 20 0) rfl
    cases refuses 1 rfl foreign
  · intro refused
    have refuses := (refused.2 _ rfl).1 (.close 1) rfl
    cases refuses 1 rfl foreign
  · refine ⟨varies_of_same, fun later _ => ⟨?_, fun last _ => ⟨varies_of_same, fun _ _ => trivial⟩⟩⟩
    constructor
    · rfl
    · exact .inr ⟨by decide, .close 1, 7, rfl, rfl⟩
    · intro _ handle other offset len sharedCap decoded
      cases decoded
  · intro isolated
    have same := ((isolated.2 _ rfl).2 _ rfl).1
    cases same

end FsServer

end Simurgh
