import Simurgh.Fs.Conform
import Simurgh.Protocol.Fs

/-!
# The file server

`fs-native` answers the requests of the file system protocol from an in-memory file system
with one registered path.  The bytes of a `Read` or a `Write` are in a page that the server
shares with its client.
-/

namespace Simurgh

/-- Size of the shared data region, in bytes. -/
def fsDataLen : UInt32 := 4096

/-- The shared data region. -/
structure DataRegion where
  bytes : List UInt8
  full : bytes.length = fsDataLen.toNat
  deriving DecidableEq, Repr

namespace DataRegion

/-- The slice of the first bytes. -/
def front (data : DataRegion) (len : UInt32) : List UInt8 := data.bytes.take len.toNat

/-- The region after its first bytes were overwritten. -/
def fill (data : DataRegion) (buf : List UInt8) : DataRegion where
  bytes := (buf ++ data.bytes.drop buf.length).take fsDataLen.toNat
  full := by
    rw [List.length_take, List.length_append, List.length_drop, data.full]
    omega

def zeroed : DataRegion where
  bytes := List.replicate fsDataLen.toNat 0
  full := List.length_replicate

theorem length_front (data : DataRegion) {len : UInt32} (fits : len ≤ fsDataLen) :
    (data.front len).length = len.toNat := by
  rw [front, List.length_take, data.full]
  exact Nat.min_eq_left (UInt32.le_iff_toNat_le.1 fits)

end DataRegion

/-- The file system and the data region. -/
structure FsServer where
  fs : MemFs
  data : DataRegion

namespace FsServer

/-- The one registered path. -/
def resolvePath (id : PathId) : Option String := if id = 0 then some "/greeting" else none

/-- The error code of the protocol. -/
def errorCode : FsError → FsErrorCode
  | .notFound => .notFound
  | .badHandle => .badHandle
  | .tooLarge => .io
  | .denied => .denied

/-- A call to the file system.  An error is answered with its code. -/
def onFs {α : Type} (call : Exec MemFs FsError α) : Exec FsServer FsErrorCode α :=
  Exec.zoom FsServer.fs (fun fs server => { server with fs }) errorCode call

/-- The arms of `handle_request`, where an error is the code of an `Error` response. -/
def handle (checks : Bool) : FsRequest → Exec FsServer FsErrorCode FsResponse
  | .open path flags => do
      let path ← Exec.okOr .badPath (resolvePath path)
      let handle ← onFs (MemFs.openFile checks path (flags.contains .write)
        (flags.contains .create))
      return .opened handle
  | .stat path => do
      let path ← Exec.okOr .badPath (resolvePath path)
      let handle ← onFs (MemFs.openFile checks path false false)
      let size ← onFs (Exec.asOption (MemFs.size handle))
      Exec.attempt (onFs (MemFs.close handle))
      return .stat (.ofNat (size.getD 0)) false
  | .close handle => do
      onFs (MemFs.close handle)
      return .closed
  | .read handle offset len _ => do
      Exec.guard (decide (len ≤ fsDataLen)) .badSharedRegion
      let server ← Exec.get
      let (bytes, buf) ← onFs (MemFs.read handle offset (server.data.front len))
      Exec.modify fun server => { server with data := server.data.fill buf }
      return .read (.ofNat bytes)
  | .write handle offset len _ => do
      Exec.guard (decide (len ≤ fsDataLen)) .badSharedRegion
      let server ← Exec.get
      let bytes ← onFs (MemFs.write checks handle offset (server.data.front len))
      return .written (.ofNat bytes)

/-- The response to a request and the server after it, unless the server panics. -/
def handleRequest (checks : Bool) (req : FsRequest) (server : FsServer) :
    Option (FsResponse × FsServer) :=
  match handle checks req server with
  | .ok resp after => some (resp, after)
  | .err code after => some (.error code, after)
  | .panic => none

/-- A message of the client, and what the client left in the data region. -/
structure Arrival where
  msg : SmallMessage
  data : DataRegion

/-- One turn of the loop in `subsystem_main`. -/
def serve (checks : Bool) (arrival : Arrival) (fs : MemFs) : Option (FsResponse × FsServer) :=
  match decodeFsRequest arrival.msg with
  | .ok req => handleRequest checks req ⟨fs, arrival.data⟩
  | .error _ => some (.error .unsupported, ⟨fs, arrival.data⟩)

/-- What the file has at first. -/
def greeting : List UInt8 := "hello from fs-native".toList.map fun letter => letter.toUInt8

/-- What `subsystem_main` does before its loop. -/
def boot (checks : Bool) : Exec MemFs FsError Unit := do
  let _ ← MemFs.create checks "/greeting"
  match ← Exec.asOption (MemFs.openFile checks "/greeting" true false) with
  | some handle =>
      Exec.attempt (MemFs.write checks handle 0 greeting)
      Exec.attempt (MemFs.close handle)
  | none => return ()

/-! ## Calls to the file system -/

section Calls

variable {α : Type} {call : Exec MemFs FsError α} {server : FsServer} {fs : MemFs} {value : α}
  {error : FsError}

theorem onFs_of_ok (ran : call server.fs = .ok value fs) :
    onFs call server = .ok value { server with fs } := by
  rw [onFs, Exec.zoom, ran]

theorem onFs_of_err (ran : call server.fs = .err error fs) :
    onFs call server = .err (errorCode error) { server with fs } := by
  rw [onFs, Exec.zoom, ran]

theorem onFs_of_panic (ran : call server.fs = .panic) : onFs call server = .panic :=
  Exec.zoom_eq_panic.2 ran

end Calls

/-! ## Requests -/

section Requests

variable {checks : Bool} {req : FsRequest} {server after : FsServer} {fs : MemFs}
  {handle : FileHandle} {offset : UInt64} {len sharedCap : UInt32} {file : OpenFile}
  {data : List UInt8} {path : String} {id : UInt32}

theorem handleRequest_of_ok {resp : FsResponse}
    (ran : FsServer.handle checks req server = .ok resp after) :
    handleRequest checks req server = some (resp, after) := by
  rw [handleRequest, ran]

theorem handleRequest_of_err {code : FsErrorCode}
    (ran : FsServer.handle checks req server = .err code after) :
    handleRequest checks req server = some (.error code, after) := by
  rw [handleRequest, ran]

theorem handleRequest_of_panic (ran : FsServer.handle checks req server = .panic) :
    handleRequest checks req server = none := by
  rw [handleRequest, ran]

/-- No handle is left in a build that panics when the counter overflows. -/
def NoHandleLeft (checks : Bool) (fs : MemFs) : Prop :=
  checks = true ∧ fs.nextHandle.toNat + 1 = 2 ^ 32

instance : Decidable (NoHandleLeft checks fs) :=
  inferInstanceAs (Decidable (checks = true ∧ fs.nextHandle.toNat + 1 = 2 ^ 32))

/-- The next handle is taken. -/
def takeHandle (fs : MemFs) (file : Option OpenFile) : MemFs :=
  { fs with
    nextHandle := fs.nextHandle + 1
    opened := Function.update fs.opened fs.nextHandle file }

theorem openFile_panics {write create : Bool} (indexed : fs.index path = some id)
    (last : NoHandleLeft checks fs) : MemFs.openFile checks path write create fs = .panic := by
  obtain ⟨checked, full⟩ := last
  have overflows : MemFs.succU32 checks fs.nextHandle fs = .panic := by
    rw [MemFs.succU32, if_neg (by omega), if_pos checked]
    rfl
  rw [MemFs.openFile, Exec.bind_of_ok (MemFs.fileToOpen_run_of_some indexed),
    Exec.get_bind_run, Exec.bind_run, overflows]

/-- A file that is there is opened under the next handle. -/
theorem openFile_opens {write create : Bool} (indexed : fs.index path = some id)
    (more : ¬ NoHandleLeft checks fs) :
    MemFs.openFile checks path write create fs =
      .ok fs.nextHandle (takeHandle fs (some ⟨id, write⟩)) := by
  apply MemFs.openFile_run (MemFs.fileToOpen_run_of_some indexed)
  intro checked
  have fits := fs.nextHandle.toNat_lt
  have room : fs.nextHandle.toNat + 1 ≠ 2 ^ 32 := fun full => more ⟨checked, full⟩
  omega

/-- The end of a write is past the last offset. -/
theorem write_panics {src : List UInt8} (opened : fs.opened handle = some file)
    (canWrite : file.canWrite = true) (stored : fs.files file.fileId = some data)
    (short : src.length ≤ maxFileBytes) (past : 2 ^ 64 ≤ offset.toNat + src.length) :
    MemFs.write checks handle offset src fs = .panic := by
  rw [MemFs.write, Exec.get_bind_run, opened, Exec.okOr_some, Exec.pure_bind_run, canWrite,
    Exec.bind_of_ok (Exec.guard_eq_ok.2 ⟨rfl, rfl⟩), stored, Exec.okOr_some, Exec.pure_bind_run]
  have overflows := Nat.not_lt_of_le past
  cases checks with
  | true =>
      have panics : MemFs.addUsize true offset.toNat src.length fs = .panic := by
        rw [MemFs.addUsize, if_neg overflows]
        rfl
      rw [Exec.bind_run, panics]
  | false =>
      -- The end wraps to an offset in front of the start.
      have before := offset.toNat_lt
      have wrapped : (offset.toNat + src.length) % 2 ^ 64 =
          offset.toNat + src.length - 2 ^ 64 := by
        rw [Nat.mod_eq_sub_mod past]
        apply Nat.mod_eq_of_lt
        unfold maxFileBytes at short
        omega
      have small : (offset.toNat + src.length) % 2 ^ 64 ≤ maxFileBytes := by omega
      have inverted : ¬ offset.toNat ≤ (offset.toNat + src.length) % 2 ^ 64 := by
        unfold maxFileBytes at short
        omega
      have sum : MemFs.addUsize false offset.toNat src.length fs =
          .ok ((offset.toNat + src.length) % 2 ^ 64) fs := by
        rw [MemFs.addUsize, if_neg overflows]
        rfl
      rw [Exec.bind_of_ok sum,
        Exec.bind_of_ok (Exec.guard_eq_ok.2 ⟨decide_eq_true small, rfl⟩), MemFs.copyInto,
        MemFs.slice, decide_eq_false inverted]
      rfl

/-! ## Responses -/

theorem handleRequest_open_of_ne {path : PathId} {flags : OpenFlags} (other : path ≠ 0) :
    handleRequest checks (.open path flags) server = some (.error .badPath, server) := by
  apply handleRequest_of_err
  rw [FsServer.handle, resolvePath, if_neg other]
  rfl

theorem handleRequest_open_panics {flags : OpenFlags}
    (indexed : server.fs.index "/greeting" = some id) (last : NoHandleLeft checks server.fs) :
    handleRequest checks (.open 0 flags) server = none := by
  apply handleRequest_of_panic
  rw [FsServer.handle, resolvePath, if_pos rfl, Exec.okOr_some, Exec.pure_bind_run,
    Exec.bind_run, onFs_of_panic (openFile_panics indexed last)]

theorem handleRequest_open {flags : OpenFlags}
    (indexed : server.fs.index "/greeting" = some id)
    (more : ¬ NoHandleLeft checks server.fs) :
    handleRequest checks (.open 0 flags) server = some (.opened server.fs.nextHandle,
      { server with fs := takeHandle server.fs (some ⟨id, flags.contains .write⟩) }) := by
  apply handleRequest_of_ok
  rw [FsServer.handle, resolvePath, if_pos rfl, Exec.okOr_some, Exec.pure_bind_run,
    Exec.bind_of_ok (onFs_of_ok (openFile_opens indexed more))]
  rfl

theorem handleRequest_stat_of_ne {path : PathId} (other : path ≠ 0) :
    handleRequest checks (.stat path) server = some (.error .badPath, server) := by
  apply handleRequest_of_err
  rw [FsServer.handle, resolvePath, if_neg other]
  rfl

theorem handleRequest_stat_panics (indexed : server.fs.index "/greeting" = some id)
    (last : NoHandleLeft checks server.fs) :
    handleRequest checks (.stat 0) server = none := by
  apply handleRequest_of_panic
  rw [FsServer.handle, resolvePath, if_pos rfl, Exec.okOr_some, Exec.pure_bind_run,
    Exec.bind_run, onFs_of_panic (openFile_panics indexed last)]

/-- `Stat` takes a handle and closes it. -/
theorem handleRequest_stat (indexed : server.fs.index "/greeting" = some id)
    (stored : server.fs.files id = some data) (more : ¬ NoHandleLeft checks server.fs) :
    handleRequest checks (.stat 0) server = some (.stat (.ofNat data.length) false,
      { server with fs := takeHandle server.fs none }) := by
  let fs := takeHandle server.fs (some ⟨id, false⟩)
  have taken : fs.opened server.fs.nextHandle = some ⟨id, false⟩ := Function.update_self _ _ _
  have kept : fs.files id = some data := stored
  have sized : MemFs.size server.fs.nextHandle fs = .ok data.length fs := by
    rw [MemFs.size, Exec.get_bind_run, taken, Exec.okOr_some, Exec.pure_bind_run, kept]
    rfl
  have sizedOption : (Exec.asOption (MemFs.size server.fs.nextHandle) :
      Exec MemFs FsError (Option Nat)) fs = .ok (some data.length) fs := by
    rw [Exec.asOption, sized]
  have closed : MemFs.close server.fs.nextHandle fs = .ok () (takeHandle server.fs none) := by
    rw [MemFs.close, Exec.get_bind_run, Exec.modify_bind_run, taken]
    change Outcome.ok () { fs with opened := Function.update fs.opened _ none } = _
    have replaced : Function.update fs.opened server.fs.nextHandle none =
        Function.update server.fs.opened server.fs.nextHandle none := Function.update_idem _ _ _
    rw [replaced]
    rfl
  have attempted : (Exec.attempt (onFs (MemFs.close server.fs.nextHandle)) :
      Exec FsServer FsErrorCode Unit) { server with fs } =
        .ok () { server with fs := takeHandle server.fs none } := by
    rw [Exec.attempt, onFs_of_ok closed]
  apply handleRequest_of_ok
  rw [FsServer.handle, resolvePath, if_pos rfl, Exec.okOr_some, Exec.pure_bind_run,
    Exec.bind_of_ok (onFs_of_ok (openFile_opens indexed more)),
    Exec.bind_of_ok (onFs_of_ok sizedOption), Exec.bind_of_ok attempted]
  rfl

theorem handleRequest_close_closed (closed : server.fs.opened handle = none) :
    handleRequest checks (.close handle) server = some (.error .badHandle, server) := by
  have same : Function.update server.fs.opened handle none = server.fs.opened := by
    rw [← closed, Function.update_eq_self]
  have ran : MemFs.close handle server.fs = .err .badHandle server.fs := by
    rw [MemFs.close, Exec.get_bind_run, Exec.modify_bind_run, closed, same]
    rfl
  exact handleRequest_of_err (Exec.bind_of_err (onFs_of_err ran) _)

theorem handleRequest_close_opened (opened : server.fs.opened handle = some file) :
    handleRequest checks (.close handle) server = some (.closed, { server with
      fs := { server.fs with opened := Function.update server.fs.opened handle none } }) := by
  have ran : MemFs.close handle server.fs = .ok ()
      { server.fs with opened := Function.update server.fs.opened handle none } := by
    rw [MemFs.close, Exec.get_bind_run, Exec.modify_bind_run, opened]
    rfl
  exact handleRequest_of_ok (Exec.bind_of_ok (onFs_of_ok ran) _)

/-- What a `Close` answers. -/
def closeAnswer (file : Option OpenFile) : FsResponse :=
  if file = none then .error .badHandle else .closed

theorem handleRequest_close :
    handleRequest checks (.close handle) server = some (closeAnswer (server.fs.opened handle),
      { server with
        fs := { server.fs with opened := Function.update server.fs.opened handle none } }) := by
  cases opened : server.fs.opened handle with
  | none =>
      have same : Function.update server.fs.opened handle none = server.fs.opened := by
        rw [← opened, Function.update_eq_self]
      rw [same]
      exact handleRequest_close_closed opened
  | some file => exact handleRequest_close_opened opened

theorem guard_of_le (fits : len ≤ fsDataLen) (server : FsServer) :
    (Exec.guard (decide (len ≤ fsDataLen)) .badSharedRegion : Exec FsServer FsErrorCode Unit)
      server = .ok () server :=
  Exec.guard_eq_ok.2 ⟨decide_eq_true fits, rfl⟩

theorem guard_of_lt (long : fsDataLen < len) (server : FsServer) :
    (Exec.guard (decide (len ≤ fsDataLen)) .badSharedRegion : Exec FsServer FsErrorCode Unit)
      server = .err .badSharedRegion server := by
  rw [decide_eq_false (UInt32.not_le.2 long)]
  rfl

theorem handleRequest_read_of_lt (long : fsDataLen < len) :
    handleRequest checks (.read handle offset len sharedCap) server =
      some (.error .badSharedRegion, server) :=
  handleRequest_of_err (Exec.bind_of_err (guard_of_lt long server) _)

theorem handleRequest_write_of_lt (long : fsDataLen < len) :
    handleRequest checks (.write handle offset len sharedCap) server =
      some (.error .badSharedRegion, server) :=
  handleRequest_of_err (Exec.bind_of_err (guard_of_lt long server) _)

theorem handleRequest_read_closed (fits : len ≤ fsDataLen)
    (closed : server.fs.opened handle = none) :
    handleRequest checks (.read handle offset len sharedCap) server =
      some (.error .badHandle, server) := by
  have ran : MemFs.read handle offset (server.data.front len) server.fs =
      .err .badHandle server.fs := MemFs.badHandle_run closed
  apply handleRequest_of_err
  rw [FsServer.handle, Exec.bind_of_ok (guard_of_le fits server), Exec.get_bind_run,
    Exec.bind_of_err (onFs_of_err ran)]
  rfl

/-- An open handle is read, whatever it was opened for. -/
theorem handleRequest_read (fits : len ≤ fsDataLen) (opened : server.fs.opened handle = some file)
    (stored : server.fs.files file.fileId = some data) :
    handleRequest checks (.read handle offset len sharedCap) server =
      some (.read (.ofNat ((data.drop offset.toNat).take len.toNat).length), { server with
        data := server.data.fill (Extent.splice (server.data.front len)
          ⟨0, (data.drop offset.toNat).take len.toNat⟩) }) := by
  obtain ⟨bytes, length, same, ran⟩ :=
    MemFs.read_run offset (server.data.front len) opened stored
  rw [server.data.length_front fits] at length
  have read : bytes = (data.drop offset.toNat).take len.toNat := by
    apply List.ext_getElem?
    intro i
    by_cases within : i < bytes.length
    · rw [same i within, List.getElem?_take, if_pos (by omega), List.getElem?_drop]
    · have outside : ((data.drop offset.toNat).take len.toNat).length ≤ i := by
        rw [List.length_take, List.length_drop]
        omega
      rw [List.getElem?_eq_none (Nat.le_of_not_lt within), List.getElem?_eq_none outside]
  rw [read] at ran
  apply handleRequest_of_ok
  rw [FsServer.handle, Exec.bind_of_ok (guard_of_le fits server), Exec.get_bind_run,
    Exec.bind_of_ok (onFs_of_ok ran)]
  rfl

/-- A `Write` that the file system refuses. -/
theorem handleRequest_write_err {error : FsError} (fits : len ≤ fsDataLen)
    (ran : MemFs.write checks handle offset (server.data.front len) server.fs =
      .err error server.fs) :
    handleRequest checks (.write handle offset len sharedCap) server =
      some (.error (errorCode error), server) := by
  apply handleRequest_of_err
  rw [FsServer.handle, Exec.bind_of_ok (guard_of_le fits server), Exec.get_bind_run,
    Exec.bind_of_err (onFs_of_err ran)]

theorem handleRequest_write_closed (fits : len ≤ fsDataLen)
    (closed : server.fs.opened handle = none) :
    handleRequest checks (.write handle offset len sharedCap) server =
      some (.error .badHandle, server) := by
  apply @handleRequest_write_err _ _ _ _ _ _ .badHandle fits
  exact MemFs.badHandle_run closed

theorem handleRequest_write_denied (fits : len ≤ fsDataLen)
    (opened : server.fs.opened handle = some file) (readOnly : file.canWrite = false) :
    handleRequest checks (.write handle offset len sharedCap) server =
      some (.error .denied, server) := by
  apply @handleRequest_write_err _ _ _ _ _ _ .denied fits
  rw [MemFs.write, Exec.get_bind_run, opened, Exec.okOr_some, Exec.pure_bind_run, readOnly]
  rfl

section Written

variable (fits : len ≤ fsDataLen) (opened : server.fs.opened handle = some file)
  (canWrite : file.canWrite = true) (stored : server.fs.files file.fileId = some data)

include fits opened canWrite stored

theorem handleRequest_write (small : offset.toNat + len.toNat ≤ maxFileBytes) :
    handleRequest checks (.write handle offset len sharedCap) server = some (.written len,
      { server with
        fs := server.fs.setFile file.fileId
          (Extent.splice (Extent.grow 0 (offset.toNat + len.toNat) data)
            ⟨offset.toNat, server.data.front len⟩) }) := by
  have length := server.data.length_front fits
  have ran : MemFs.write checks handle offset (server.data.front len) server.fs = _ :=
    MemFs.write_run opened canWrite stored (by rw [length]; exact small)
  rw [length] at ran
  apply handleRequest_of_ok
  rw [FsServer.handle, Exec.bind_of_ok (guard_of_le fits server), Exec.get_bind_run,
    Exec.bind_of_ok (onFs_of_ok ran), UInt32.ofNat_toNat]
  rfl

theorem handleRequest_write_tooLarge (large : maxFileBytes < offset.toNat + len.toNat)
    (inside : offset.toNat + len.toNat < 2 ^ 64) :
    handleRequest checks (.write handle offset len sharedCap) server =
      some (.error .io, server) := by
  have length := server.data.length_front fits
  rw [← length] at large inside
  obtain ⟨stop, sum, past⟩ :=
    @MemFs.addUsize_run checks _ offset server.fs (.inl inside) large
  apply @handleRequest_write_err _ _ _ _ _ _ .tooLarge fits
  exact MemFs.write_tooLarge opened canWrite stored sum past

theorem handleRequest_write_panics (past : 2 ^ 64 ≤ offset.toNat + len.toNat) :
    handleRequest checks (.write handle offset len sharedCap) server = none := by
  have length := server.data.length_front fits
  have short : len.toNat ≤ maxFileBytes :=
    Nat.le_trans (UInt32.le_iff_toNat_le.1 fits) (by decide)
  rw [← length] at past short
  have ran : MemFs.write checks handle offset (server.data.front len) server.fs = .panic :=
    write_panics opened canWrite stored short past
  apply handleRequest_of_panic
  rw [FsServer.handle, Exec.bind_of_ok (guard_of_le fits server), Exec.get_bind_run,
    Exec.bind_run, onFs_of_panic ran]

end Written

end Requests

end FsServer

end Simurgh
