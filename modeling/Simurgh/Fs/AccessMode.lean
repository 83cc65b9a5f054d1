import Simurgh.Fs.Server

/-!
# Access modes of file handles

A session of the file server keeps beside the file system the flags with which each handle
was opened.  A request honours them if it does what they say, and `Meets` is the condition on
the session and the request under which the server does.
-/

namespace Simurgh

/-- The contents of the file behind an open handle. -/
def MemFs.behind (fs : MemFs) (handle : FileHandle) : Option (List UInt8) :=
  (fs.opened handle).bind fun file => fs.files file.fileId

/-- The handle of an open file that a request names. -/
def FsRequest.handle? : FsRequest → Option FileHandle
  | .read handle .. => some handle
  | .write handle .. => some handle
  | .close handle => some handle
  | .open .. => none
  | .stat .. => none

namespace FsServer

structure Session where
  fs : MemFs
  /-- The flags of the newest `Open` that returned a handle. -/
  modes : FileHandle → Option OpenFlags

namespace Session

/-- The session at the start of the loop. -/
def start (checks : Bool) : Session where
  fs := ((boot checks MemFs.new).state?).getD MemFs.new
  modes _ := none

/-- The flags that are known after a request was answered. -/
def noted (session : Session) (req : FsRequest) (resp : FsResponse) :
    FileHandle → Option OpenFlags :=
  match req, resp with
  | .open _ flags, .opened handle => Function.update session.modes handle (some flags)
  | _, _ => session.modes

/-- The session after an arrival, unless the server panics. -/
def next (checks : Bool) (session : Session) (arrival : Arrival) : Option Session :=
  (serve checks arrival session.fs).map fun (resp, after) =>
    match decodeFsRequest arrival.msg with
    | .ok req => ⟨after.fs, session.noted req resp⟩
    | .error _ => ⟨after.fs, session.modes⟩

end Session

/-! ## What the flags say -/

/-- The bytes of a `Write` land at the end of a file.  If they do not fit there, the `Write`
fails. -/
def Appends (handle : FileHandle) (before src : List UInt8)
    (ended : Option (FsResponse × FsServer)) : Prop :=
  if before.length + src.length ≤ maxFileBytes then
    ∃ bytes after, ended = some (.written bytes, after) ∧
      after.fs.behind handle = some (before ++ src)
  else
    ∃ code after, ended = some (.error code, after) ∧ after.fs.behind handle = some before

/-- A request that came with `region` ended as the flags of the handles say. -/
structure Honours (session : Session) (region : DataRegion) (req : FsRequest)
    (ended : Option (FsResponse × FsServer)) : Prop where
  read : ∀ handle offset len sharedCap flags, req = .read handle offset len sharedCap →
    session.modes handle = some flags → flags.contains .read = false →
      ∃ code after, ended = some (.error code, after) ∧ after.data = region
  write : ∀ handle flags, req.handle? = some handle → session.modes handle = some flags →
    flags.contains .write = false →
      ∀ resp after, ended = some (resp, after) → after.fs.files = session.fs.files
  truncate : ∀ path flags, req = .open path flags → flags.contains .write = true →
    flags.contains .truncate = true →
      ∀ handle after, ended = some (.opened handle, after) → after.fs.behind handle = some []
  append : ∀ handle offset len sharedCap flags before, req = .write handle offset len sharedCap →
    session.modes handle = some flags → flags.contains .write = true →
      flags.contains .append = true → session.fs.behind handle = some before →
        len ≤ fsDataLen → Appends handle before (region.front len) ended

/-! ## The condition on requests -/

/-- A `Write` at the offset does what it does at the end of the file. -/
def AtEnd (before : List UInt8) (offset : UInt64) (len : UInt32) : Prop :=
  offset.toNat = before.length ∨ (len.toNat = 0 ∧ offset.toNat ≤ before.length) ∨
    (maxFileBytes < before.length + len.toNat ∧ maxFileBytes < offset.toNat + len.toNat ∧
      offset.toNat + len.toNat < 2 ^ 64)

/-- Reads are made on handles that were opened for reading, only an empty file is opened to be
truncated, and an append is made at the end of the file. -/
structure Meets (checks : Bool) (session : Session) (req : FsRequest) : Prop where
  read : ∀ handle offset len sharedCap flags, req = .read handle offset len sharedCap →
    session.modes handle = some flags → flags.contains .read = false →
      fsDataLen < len ∨ session.fs.opened handle = none
  truncate : ∀ flags, req = .open 0 flags → flags.contains .write = true →
    flags.contains .truncate = true →
      NoHandleLeft checks session.fs ∨ session.fs.contents "/greeting" = some []
  append : ∀ handle offset len sharedCap flags before, req = .write handle offset len sharedCap →
    session.modes handle = some flags → flags.contains .write = true →
      flags.contains .append = true → session.fs.behind handle = some before →
        len ≤ fsDataLen → AtEnd before offset len

variable {checks : Bool} {session later : Session} {region : DataRegion} {id : UInt32}
  {data before : List UInt8} {handle : FileHandle} {offset : UInt64} {len sharedCap : UInt32}
  {path : PathId} {flags : OpenFlags} {req : FsRequest} {arrival : Arrival}

/-- A file does not grow past its cap. -/
theorem length_written (fits : len ≤ fsDataLen) (small : data.length ≤ maxFileBytes)
    (inside : offset.toNat + len.toNat ≤ maxFileBytes) :
    (Extent.splice (Extent.grow 0 (offset.toNat + len.toNat) data)
      ⟨offset.toNat, region.front len⟩).length ≤ maxFileBytes := by
  have stop : (Extent.mk offset.toNat (region.front len)).stop =
      offset.toNat + len.toNat := by
    rw [Extent.stop, region.length_front fits]
  rw [← stop, Extent.length_splice_grow, stop]
  exact Nat.max_le.2 ⟨small, inside⟩

/-! ## The session of a server -/

/-- There is one file, and every open handle leads to it with the access it was opened
with. -/
structure Serving (session : Session) (id : UInt32) (data : List UInt8) : Prop where
  indexed : session.fs.index "/greeting" = some id
  stored : session.fs.files id = some data
  small : data.length ≤ maxFileBytes
  held : ∀ handle file, session.fs.opened handle = some file →
    ∃ flags, session.modes handle = some flags ∧ file = ⟨id, flags.contains .write⟩

namespace Serving

theorem start (checks : Bool) : Serving (.start checks) 0 greeting where
  indexed := by cases checks <;> rfl
  stored := by cases checks <;> rfl
  small := by decide
  held handle file opened := by
    have closed : (Session.start checks).fs.opened handle = none := by
      cases checks with
      | false =>
          change Function.update (Function.update (fun _ => none) 0 _) 0 none handle = none
          rw [Function.update_idem, Function.update_eq_self]
      | true =>
          change Function.update (Function.update (fun _ => none) 0 _) 0 none handle = none
          rw [Function.update_idem, Function.update_eq_self]
    rw [closed] at opened
    cases opened

theorem contents (serving : Serving session id data) :
    session.fs.contents "/greeting" = some data := by
  rw [MemFs.contents, serving.indexed]
  exact serving.stored

theorem behind (serving : Serving session id data) {file : OpenFile}
    (opened : session.fs.opened handle = some file) : session.fs.behind handle = some data := by
  obtain ⟨_, _, rfl⟩ := serving.held handle file opened
  rw [MemFs.behind, opened]
  exact serving.stored

/-- An open handle whose flags are known. -/
theorem opened_of_behind (serving : Serving session id data)
    (mode : session.modes handle = some flags) (found : session.fs.behind handle = some before) :
    session.fs.opened handle = some ⟨id, flags.contains .write⟩ ∧ before = data := by
  cases opened : session.fs.opened handle with
  | none =>
      rw [MemFs.behind, opened] at found
      cases found
  | some file =>
      obtain ⟨known, noted, rfl⟩ := serving.held handle file opened
      obtain rfl := Option.some.inj (noted.symm.trans mode)
      exact ⟨rfl, Option.some.inj (found.symm.trans (serving.behind opened))⟩

/-! ## One request -/

/-- What a `Read` does: on an open handle it succeeds. -/
theorem read_cases (serving : Serving session id data) (checks : Bool) (handle : FileHandle)
    (offset : UInt64) (len sharedCap : UInt32) (region : DataRegion) :
    ((fsDataLen < len ∨ session.fs.opened handle = none) ∧
      ∃ code, handleRequest checks (.read handle offset len sharedCap) ⟨session.fs, region⟩ =
        some (.error code, ⟨session.fs, region⟩)) ∨
    (¬ (fsDataLen < len ∨ session.fs.opened handle = none) ∧
      ∃ bytes filled,
        handleRequest checks (.read handle offset len sharedCap) ⟨session.fs, region⟩ =
          some (.read bytes, ⟨session.fs, filled⟩)) := by
  by_cases long : fsDataLen < len
  · exact .inl ⟨.inl long, _, handleRequest_read_of_lt long⟩
  · have fits := UInt32.not_lt.1 long
    cases opened : session.fs.opened handle with
    | none => exact .inl ⟨.inr rfl, _, handleRequest_read_closed fits opened⟩
    | some file =>
        obtain ⟨flags, mode, rfl⟩ := serving.held handle file opened
        have ran := @handleRequest_read checks ⟨session.fs, region⟩ handle offset len sharedCap _
          data fits opened serving.stored
        exact .inr ⟨by simp [long], _, _, ran⟩

/-- What a `Write` does: it fails, or panics, or changes the file of a handle that was opened
for writing. -/
theorem write_cases (serving : Serving session id data) (checks : Bool) (handle : FileHandle)
    (offset : UInt64) (len sharedCap : UInt32) (region : DataRegion) :
    (∃ code, handleRequest checks (.write handle offset len sharedCap) ⟨session.fs, region⟩ =
      some (.error code, ⟨session.fs, region⟩)) ∨
    handleRequest checks (.write handle offset len sharedCap) ⟨session.fs, region⟩ = none ∨
    ∃ flags, session.modes handle = some flags ∧ flags.contains .write = true ∧
      len ≤ fsDataLen ∧ offset.toNat + len.toNat ≤ maxFileBytes ∧
      handleRequest checks (.write handle offset len sharedCap) ⟨session.fs, region⟩ =
        some (.written len, ⟨session.fs.setFile id
          (Extent.splice (Extent.grow 0 (offset.toNat + len.toNat) data)
            ⟨offset.toNat, region.front len⟩), region⟩) := by
  by_cases fits : len ≤ fsDataLen
  · cases opened : session.fs.opened handle with
    | none => exact .inl ⟨_, handleRequest_write_closed fits opened⟩
    | some file =>
        obtain ⟨flags, mode, rfl⟩ := serving.held handle file opened
        cases writes : flags.contains .write with
        | false => exact .inl ⟨_, handleRequest_write_denied fits opened writes⟩
        | true =>
            by_cases small : offset.toNat + len.toNat ≤ maxFileBytes
            · have written := @handleRequest_write checks ⟨session.fs, region⟩ handle offset len
                sharedCap _ data fits opened writes serving.stored small
              exact .inr (.inr ⟨flags, mode, writes, fits, small, written⟩)
            · have large := Nat.lt_of_not_le small
              by_cases inside : offset.toNat + len.toNat < 2 ^ 64
              · exact .inl ⟨_, handleRequest_write_tooLarge fits opened writes serving.stored
                  large inside⟩
              · exact .inr (.inl (handleRequest_write_panics fits opened writes serving.stored
                  (Nat.le_of_not_lt inside)))
  · exact .inl ⟨_, handleRequest_write_of_lt (UInt32.not_le.1 fits)⟩

/-- The next handle is taken by the file, or by none. -/
theorem takeHandle (serving : Serving session id data) {file : Option OpenFile}
    {modes : FileHandle → Option OpenFlags}
    (others : ∀ other, other ≠ session.fs.nextHandle → modes other = session.modes other)
    (own : ∀ taken, file = some taken → ∃ flags, modes session.fs.nextHandle = some flags ∧
      taken = ⟨id, flags.contains .write⟩) :
    Serving ⟨FsServer.takeHandle session.fs file, modes⟩ id data where
  indexed := serving.indexed
  stored := serving.stored
  small := serving.small
  held handle taken opened := by
    change Function.update session.fs.opened session.fs.nextHandle file handle = _ at opened
    by_cases same : handle = session.fs.nextHandle
    · rw [same, Function.update_self] at opened
      rw [same]
      exact own taken opened
    · rw [Function.update_of_ne same] at opened
      obtain ⟨flags, mode, shape⟩ := serving.held handle taken opened
      exact ⟨flags, (others handle same).trans mode, shape⟩

theorem close (serving : Serving session id data) (handle : FileHandle) :
    Serving ⟨{ session.fs with opened := Function.update session.fs.opened handle none },
      session.modes⟩ id data where
  indexed := serving.indexed
  stored := serving.stored
  small := serving.small
  held other file opened := by
    change Function.update session.fs.opened handle none other = _ at opened
    by_cases same : other = handle
    · rw [same, Function.update_self] at opened
      cases opened
    · rw [Function.update_of_ne same] at opened
      exact serving.held other file opened

theorem setFile (serving : Serving session id data) {after : List UInt8}
    (small : after.length ≤ maxFileBytes) :
    Serving ⟨session.fs.setFile id after, session.modes⟩ id after where
  indexed := serving.indexed
  stored := Function.update_self _ _ _
  small := small
  held := serving.held

/-- What a request that is answered does to the file system. -/
inductive Effect (session : Session) (id : UInt32) : FsRequest → FsResponse → MemFs → Prop
  | opened (flags : OpenFlags) :
      Effect session id (.open 0 flags) (.opened session.fs.nextHandle)
        (FsServer.takeHandle session.fs (some ⟨id, flags.contains .write⟩))
  | looked (size : UInt64) :
      Effect session id (.stat 0) (.stat size false) (FsServer.takeHandle session.fs none)
  | closed (handle : FileHandle) :
      Effect session id (.close handle) (closeAnswer (session.fs.opened handle))
        { session.fs with opened := Function.update session.fs.opened handle none }
  | same {req : FsRequest} {resp : FsResponse} (others : ∀ handle, resp ≠ .opened handle) :
      Effect session id req resp session.fs
  | written {handle : FileHandle} {offset : UInt64} {len sharedCap : UInt32} {flags : OpenFlags}
      {bytes : List UInt8} (mode : session.modes handle = some flags)
      (writes : flags.contains .write = true) (small : bytes.length ≤ maxFileBytes) :
      Effect session id (.write handle offset len sharedCap) (.written len)
        (session.fs.setFile id bytes)

theorem effect (serving : Serving session id data) {resp : FsResponse} {after : FsServer}
    (ran : handleRequest checks req ⟨session.fs, region⟩ = some (resp, after)) :
    Effect session id req resp after.fs := by
  cases req with
  | «open» path flags =>
      by_cases registered : path = 0
      · obtain rfl := registered
        by_cases last : NoHandleLeft checks session.fs
        · rw [handleRequest_open_panics serving.indexed last] at ran
          cases ran
        · rw [handleRequest_open serving.indexed last] at ran
          obtain ⟨rfl, rfl⟩ := Prod.mk.inj (Option.some.inj ran)
          exact .opened flags
      · rw [handleRequest_open_of_ne registered] at ran
        obtain ⟨rfl, rfl⟩ := Prod.mk.inj (Option.some.inj ran)
        exact .same (by simp)
  | stat path =>
      by_cases registered : path = 0
      · obtain rfl := registered
        by_cases last : NoHandleLeft checks session.fs
        · rw [handleRequest_stat_panics serving.indexed last] at ran
          cases ran
        · rw [handleRequest_stat serving.indexed serving.stored last] at ran
          obtain ⟨rfl, rfl⟩ := Prod.mk.inj (Option.some.inj ran)
          exact .looked _
      · rw [handleRequest_stat_of_ne registered] at ran
        obtain ⟨rfl, rfl⟩ := Prod.mk.inj (Option.some.inj ran)
        exact .same (by simp)
  | close handle =>
      rw [handleRequest_close] at ran
      obtain ⟨rfl, rfl⟩ := Prod.mk.inj (Option.some.inj ran)
      exact .closed handle
  | read handle offset len sharedCap =>
      rcases serving.read_cases checks handle offset len sharedCap region with
        ⟨_, code, failed⟩ | ⟨_, bytes, filled, succeeded⟩
      · rw [failed] at ran
        obtain ⟨rfl, rfl⟩ := Prod.mk.inj (Option.some.inj ran)
        exact .same (by simp)
      · rw [succeeded] at ran
        obtain ⟨rfl, rfl⟩ := Prod.mk.inj (Option.some.inj ran)
        exact .same (by simp)
  | write handle offset len sharedCap =>
      rcases serving.write_cases checks handle offset len sharedCap region with
        ⟨code, failed⟩ | panicked | ⟨flags, mode, writes, fits, small, written⟩
      · rw [failed] at ran
        obtain ⟨rfl, rfl⟩ := Prod.mk.inj (Option.some.inj ran)
        exact .same (by simp)
      · rw [panicked] at ran
        cases ran
      · rw [written] at ran
        obtain ⟨rfl, rfl⟩ := Prod.mk.inj (Option.some.inj ran)
        exact .written mode writes (length_written fits serving.small small)

theorem noted_of_ne {resp : FsResponse} (others : ∀ handle, resp ≠ .opened handle) :
    session.noted req resp = session.modes := by
  cases resp with
  | opened handle => exact absurd rfl (others handle)
  | _ => cases req <;> rfl

theorem answered (serving : Serving session id data) {resp : FsResponse} {after : FsServer}
    (ran : handleRequest checks req ⟨session.fs, region⟩ = some (resp, after)) :
    ∃ contents, Serving ⟨after.fs, session.noted req resp⟩ id contents := by
  have effect := serving.effect ran
  generalize after.fs = fs at effect
  cases effect with
  | opened flags =>
      refine ⟨data, serving.takeHandle (fun other ne => Function.update_of_ne ne _ _) ?_⟩
      intro taken same
      obtain rfl := Option.some.inj same
      exact ⟨flags, Function.update_self _ _ _, rfl⟩
  | looked size =>
      exact ⟨data, serving.takeHandle (fun _ _ => rfl) (fun _ taken => by cases taken)⟩
  | closed handle => exact ⟨data, serving.close handle⟩
  | same others =>
      rw [noted_of_ne others]
      exact ⟨data, serving⟩
  | written _ _ small => exact ⟨_, serving.setFile small⟩

theorem next (serving : Serving session id data)
    (taken : session.next checks arrival = some later) :
    ∃ contents, Serving later id contents := by
  obtain ⟨⟨resp, after⟩, ran, rfl⟩ := Option.map_eq_some_iff.1 taken
  cases decoded : decodeFsRequest arrival.msg with
  | error error =>
      rw [serve, decoded] at ran
      obtain ⟨rfl, rfl⟩ := Prod.mk.inj (Option.some.inj ran)
      exact ⟨data, serving⟩
  | ok req =>
      rw [serve, decoded] at ran
      exact serving.answered ran

/-! ## The parts of the condition -/

theorem read_iff (serving : Serving session id data) :
    (∃ code after, handleRequest checks (.read handle offset len sharedCap)
        ⟨session.fs, region⟩ = some (.error code, after) ∧ after.data = region) ↔
      fsDataLen < len ∨ session.fs.opened handle = none := by
  rcases serving.read_cases checks handle offset len sharedCap region with
    ⟨refused, code, failed⟩ | ⟨granted, bytes, filled, succeeded⟩
  · exact iff_of_true ⟨code, _, failed, rfl⟩ refused
  · refine iff_of_false ?_ granted
    rintro ⟨code, after, failed, _⟩
    rw [succeeded] at failed
    cases failed

theorem truncate_iff (serving : Serving session id data) :
    (∀ handle after, handleRequest checks (.open path flags) ⟨session.fs, region⟩ =
        some (.opened handle, after) → after.fs.behind handle = some []) ↔
      (path = 0 → NoHandleLeft checks session.fs ∨
        session.fs.contents "/greeting" = some []) := by
  by_cases registered : path = 0
  · obtain rfl := registered
    by_cases last : NoHandleLeft checks session.fs
    · rw [handleRequest_open_panics serving.indexed last]
      exact iff_of_true (fun _ _ opened => by cases opened) (fun _ => .inl last)
    · have behind : (FsServer.takeHandle session.fs (some ⟨id, flags.contains .write⟩)).behind
          session.fs.nextHandle = some data := by
        have taken : (FsServer.takeHandle session.fs (some ⟨id, flags.contains .write⟩)).opened
            session.fs.nextHandle = some ⟨id, flags.contains .write⟩ := Function.update_self _ _ _
        rw [MemFs.behind, taken]
        exact serving.stored
      rw [handleRequest_open serving.indexed last, serving.contents]
      constructor
      · intro empties _
        exact .inr (behind.symm.trans (empties _ _ rfl))
      · intro empty handle after opened
        obtain ⟨same, rfl⟩ := Prod.mk.inj (Option.some.inj opened)
        obtain rfl := FsResponse.opened.inj same
        rw [← (empty rfl).resolve_left last]
        exact behind
  · rw [handleRequest_open_of_ne registered]
    exact iff_of_true (fun _ _ opened => by cases opened) (fun same => absurd same registered)

end Serving

/-! ## Appending -/

section Appending

variable {src contents : List UInt8} {after : FsServer}

theorem appends_written {bytes : UInt32} (stored : after.fs.behind handle = some contents) :
    Appends handle before src (some (.written bytes, after)) ↔
      before.length + src.length ≤ maxFileBytes ∧ contents = before ++ src := by
  rw [Appends]
  by_cases room : before.length + src.length ≤ maxFileBytes
  · rw [if_pos room]
    constructor
    · rintro ⟨bytes, later, same, appended⟩
      obtain ⟨_, rfl⟩ := Prod.mk.inj (Option.some.inj same)
      exact ⟨room, Option.some.inj (stored.symm.trans appended)⟩
    · rintro ⟨_, rfl⟩
      exact ⟨bytes, after, rfl, stored⟩
  · rw [if_neg room]
    apply iff_of_false
    · rintro ⟨code, later, same, _⟩
      cases same
    · exact fun appended => room appended.1

theorem appends_error {code : FsErrorCode} (stored : after.fs.behind handle = some before) :
    Appends handle before src (some (.error code, after)) ↔
      ¬ before.length + src.length ≤ maxFileBytes := by
  rw [Appends]
  by_cases room : before.length + src.length ≤ maxFileBytes
  · rw [if_pos room]
    apply iff_of_false
    · rintro ⟨bytes, later, same, _⟩
      cases same
    · exact fun full => full room
  · rw [if_neg room]
    exact iff_of_true ⟨code, after, rfl, stored⟩ room

theorem not_appends_none : ¬ Appends handle before src none := by
  rw [Appends]
  split
  · rintro ⟨_, _, same, _⟩
    cases same
  · rintro ⟨_, _, same, _⟩
    cases same

/-- The server appends exactly the writes that are at the end anyway. -/
theorem Serving.append_iff (serving : Serving session id data)
    (mode : session.modes handle = some flags) (writes : flags.contains .write = true)
    (found : session.fs.behind handle = some before) (fits : len ≤ fsDataLen) :
    Appends handle before (region.front len)
        (handleRequest checks (.write handle offset len sharedCap) ⟨session.fs, region⟩) ↔
      AtEnd before offset len := by
  obtain ⟨opened, rfl⟩ := serving.opened_of_behind mode found
  rw [writes] at opened
  have length := region.length_front fits
  have short : len.toNat ≤ 4096 := UInt32.le_iff_toNat_le.1 fits
  have limit : maxFileBytes = 1048576 := rfl
  have small := serving.small
  rw [AtEnd]
  by_cases inside : offset.toNat + len.toNat ≤ maxFileBytes
  · have stop : (Extent.mk offset.toNat (region.front len)).stop =
        offset.toNat + len.toNat := by
      rw [Extent.stop, length]
    have appends : Extent.splice (Extent.grow 0 (offset.toNat + len.toNat) before)
        ⟨offset.toNat, region.front len⟩ = before ++ region.front len ↔
          offset.toNat = before.length ∨
            (len.toNat = 0 ∧ offset.toNat ≤ before.length) := by
      rw [← stop, ← length, List.length_eq_zero_iff]
      exact Extent.splice_grow_eq_append_iff _ _
    have stored : (session.fs.setFile id (Extent.splice
        (Extent.grow 0 (offset.toNat + len.toNat) before)
          ⟨offset.toNat, region.front len⟩)).behind handle = _ :=
      (serving.setFile (length_written fits small inside)).behind opened
    rw [@handleRequest_write checks ⟨session.fs, region⟩ handle offset len sharedCap _ before
      fits opened rfl serving.stored inside, appends_written stored, appends, length]
    constructor
    · intro appended
      omega
    · intro atEnd
      omega
  · have large := Nat.lt_of_not_le inside
    by_cases wraps : offset.toNat + len.toNat < 2 ^ 64
    · rw [@handleRequest_write_tooLarge checks ⟨session.fs, region⟩ handle offset len sharedCap _
        before fits opened rfl serving.stored large wraps, appends_error found, length]
      constructor
      · intro full
        omega
      · intro atEnd
        omega
    · rw [@handleRequest_write_panics checks ⟨session.fs, region⟩ handle offset len sharedCap _
        before fits opened rfl serving.stored (Nat.le_of_not_lt wraps)]
      apply iff_of_false not_appends_none
      omega

end Appending

/-! ## Runs -/

/-- A handle that was not opened for writing changes no file. -/
theorem Serving.write_honoured (serving : Serving session id data)
    (names : req.handle? = some handle) (mode : session.modes handle = some flags)
    (readOnly : flags.contains .write = false) {resp : FsResponse} {after : FsServer}
    (ran : handleRequest checks req ⟨session.fs, region⟩ = some (resp, after)) :
    after.fs.files = session.fs.files := by
  have effect := serving.effect ran
  generalize after.fs = fs at effect ⊢
  cases effect with
  | opened flags => cases names
  | looked size => cases names
  | closed other => rfl
  | same others => rfl
  | written known writes =>
      obtain rfl := Option.some.inj names
      obtain rfl := Option.some.inj (known.symm.trans mode)
      rw [readOnly] at writes
      cases writes

/-- One request. -/
theorem Serving.honours_iff (serving : Serving session id data) (req : FsRequest) :
    Honours session region req (handleRequest checks req ⟨session.fs, region⟩) ↔
      Meets checks session req := by
  constructor
  · intro honours
    constructor
    · rintro handle offset len sharedCap flags rfl mode lacks
      exact serving.read_iff.1 (honours.read handle offset len sharedCap flags rfl mode lacks)
    · rintro flags rfl writes truncates
      exact serving.truncate_iff.1 (honours.truncate 0 flags rfl writes truncates) rfl
    · rintro handle offset len sharedCap flags before rfl mode writes appends found fits
      exact (serving.append_iff mode writes found fits).1
        (honours.append handle offset len sharedCap flags before rfl mode writes appends found
          fits)
  · intro meets
    constructor
    · rintro handle offset len sharedCap flags rfl mode lacks
      exact serving.read_iff.2 (meets.read handle offset len sharedCap flags rfl mode lacks)
    · intro handle flags names mode readOnly resp after ran
      exact serving.write_honoured names mode readOnly ran
    · rintro path flags rfl writes truncates
      apply serving.truncate_iff.2
      rintro rfl
      exact meets.truncate flags rfl writes truncates
    · rintro handle offset len sharedCap flags before rfl mode writes appends found fits
      exact (serving.append_iff mode writes found fits).2
        (meets.append handle offset len sharedCap flags before rfl mode writes appends found fits)

/-- Every request of a run from the boot on is served as the flags of its handle say. -/
def ModesHonoured (checks : Bool) (arrivals : List Arrival) : Prop :=
  TransitionSystem.Throughout (Session.next checks)
    (fun session arrival => ∀ req, decodeFsRequest arrival.msg = .ok req →
      Honours session arrival.data req (serve checks arrival session.fs))
    (.start checks) arrivals

/-- In every run the modes are honoured exactly if each request meets the condition. -/
theorem access_modes_iff (checks : Bool) (arrivals : List Arrival) :
    ModesHonoured checks arrivals ↔
      TransitionSystem.Throughout (Session.next checks)
        (fun session arrival => ∀ req, decodeFsRequest arrival.msg = .ok req →
          Meets checks session req)
        (.start checks) arrivals := by
  apply @TransitionSystem.throughout_congr _ _ _ (fun session => ∃ id data, Serving session id data)
  · rintro session arrival later ⟨id, data, serving⟩ taken
    exact ⟨id, serving.next taken⟩
  · rintro session arrival ⟨id, data, serving⟩
    apply forall₂_congr
    intro req decoded
    rw [serve, decoded]
    exact serving.honours_iff req
  · exact ⟨0, greeting, .start checks⟩

/-- A request whose data region is all zeros. -/
def Arrival.ofRequest (req : FsRequest) : Arrival where
  msg := encodeFsRequest req
  data := .zeroed

/-- Opened with `WRITE | TRUNCATE` the file is not emptied.  Opened with `WRITE` alone it can be
read.  Opened with `WRITE | APPEND` it is written at the front. -/
theorem modes_dropped :
    ¬ ModesHonoured true [.ofRequest (.open 0 ⟨10, by decide⟩)] ∧
    ¬ ModesHonoured true [.ofRequest (.open 0 ⟨2, by decide⟩), .ofRequest (.read 1 0 20 0)] ∧
    ¬ ModesHonoured true [.ofRequest (.open 0 ⟨18, by decide⟩), .ofRequest (.write 1 0 1 0)] := by
  refine ⟨?_, ?_, ?_⟩
  · intro honoured
    have honours := honoured.1 (.open 0 ⟨10, by decide⟩) rfl
    have empty := honours.truncate 0 ⟨10, by decide⟩ rfl rfl rfl 1 _ rfl
    cases empty
  · intro honoured
    have honours := (honoured.2 _ rfl).1 (.read 1 0 20 0) rfl
    obtain ⟨code, after, failed, _⟩ := honours.read 1 0 20 0 _ rfl rfl rfl
    cases failed
  · intro honoured
    have honours := (honoured.2 _ rfl).1 (.write 1 0 1 0) rfl
    have appends := honours.append 1 0 1 0 _ greeting rfl rfl rfl rfl rfl (by decide)
    rw [Appends, if_pos (by decide)] at appends
    obtain ⟨bytes, after, ran, stored⟩ := appends
    have length : (after.fs.behind 1).map List.length = some 20 := by
      cases ran
      rfl
    rw [stored] at length
    cases length

end FsServer

end Simurgh
