import Simurgh.Fs.MemFs

/-!
# Histories of a file system

A history lists what calls did, newest first, in terms of paths and handles alone.  It says
which handles are open, which writes a file has, and with them what every later call has to
return.
-/

namespace Simurgh

inductive FsEvent where
  /-- The file is new, or emptied. -/
  | created (path : String)
  | opened (handle : UInt32) (path : String) (canWrite : Bool)
  | wrote (path : String) (extent : Extent UInt8)
  | closed (handle : UInt32)
  deriving DecidableEq, Repr

abbrev FsHistory := List FsEvent

namespace FsHistory

/-- The writes since the file was created. -/
def writes (path : String) : FsHistory → Option (List (Extent UInt8))
  | [] => none
  | .created other :: older => if other = path then some [] else writes path older
  | .wrote other extent :: older =>
      if other = path then (writes path older).map (extent :: ·) else writes path older
  | .opened .. :: older => writes path older
  | .closed _ :: older => writes path older

/-- The path of an open handle, and whether it can write. -/
def holder (handle : UInt32) : FsHistory → Option (String × Bool)
  | [] => none
  | .opened other path canWrite :: older =>
      if other = handle then some (path, canWrite) else holder handle older
  | .closed other :: older => if other = handle then none else holder handle older
  | .created _ :: older => holder handle older
  | .wrote .. :: older => holder handle older

variable (history : FsHistory)

def size (path : String) : Nat := Extent.size ((history.writes path).getD [])

/-- The byte last written at a position, or zero. -/
def byteAt (path : String) (position : Nat) : UInt8 :=
  Extent.valueAt 0 ((history.writes path).getD []) position

/-- The history after a call that returned a reply. -/
def record : MemFs.Call → MemFs.Reply → FsHistory
  | .create path, _ => .created path :: history
  | .open path canWrite create, .handle handle =>
      .opened handle path canWrite ::
        (if history.writes path = none ∧ create = true then .created path :: history
          else history)
  | .write handle offset src, _ =>
      match history.holder handle with
      | some (path, _) => .wrote path ⟨offset.toNat, src⟩ :: history
      | none => history
  | .close handle, _ => .closed handle :: history
  | _, _ => history

/-! ## What calls return -/

/-- A buffer after a read: up to the end of the file it has the bytes last written, and
behind these it is as before. -/
structure ReadsInto (path : String) (offset : Nat) (buf : List UInt8) (n : Nat)
    (after : List UInt8) : Prop where
  short : n = min buf.length (history.size path - offset)
  length : after.length = buf.length
  bytes : ∀ i < n, after[i]? = some (history.byteAt path (offset + i))
  rest : ∀ i, n ≤ i → after[i]? = buf[i]?

/-- What a file system of byte arrays answers to a call. -/
def Answers : MemFs.Call → Except FsError MemFs.Reply → Prop
  | .create _, answer => ∃ id, answer = .ok (.file id)
  | .open path _ create, answer =>
      if history.writes path = none ∧ create = false then answer = .error .notFound
      else ∃ handle, history.holder handle = none ∧ answer = .ok (.handle handle)
  | .read handle offset buf, answer =>
      match history.holder handle with
      | none => answer = .error .badHandle
      | some (path, _) => ∃ n after, answer = .ok (.bytes n after) ∧
          history.ReadsInto path offset.toNat buf n after
  | .write handle offset src, answer =>
      match history.holder handle with
      | none => answer = .error .badHandle
      | some (_, false) => answer = .error .denied
      | some (_, true) =>
          if offset.toNat + src.length ≤ maxFileBytes then answer = .ok (.count src.length)
          else answer = .error .tooLarge
  | .size handle, answer =>
      match history.holder handle with
      | none => answer = .error .badHandle
      | some (path, _) => answer = .ok (.count (history.size path))
  | .close handle, answer =>
      if history.holder handle = none then answer = .error .badHandle
      else answer = .ok .closed

/-! ## What calls change -/

/-- The only file that a call may change. -/
def target : MemFs.Call → Option String
  | .create path => some path
  | .open path _ create => if history.writes path = none ∧ create = true then some path else none
  | .write handle _ _ => (history.holder handle).map Prod.fst
  | _ => none

variable {history} {path : String} {handle : UInt32} {call : MemFs.Call} {reply : MemFs.Reply}

@[simp]
theorem writes_created : writes path (.created path :: history) = some [] := by
  rw [writes, if_pos rfl]

theorem writes_created_of_ne {other : String} (ne : other ≠ path) :
    writes path (.created other :: history) = history.writes path := by
  rw [writes, if_neg ne]

@[simp]
theorem writes_wrote {extent : Extent UInt8} :
    writes path (.wrote path extent :: history) = (history.writes path).map (extent :: ·) := by
  rw [writes, if_pos rfl]

theorem writes_wrote_of_ne {other : String} {extent : Extent UInt8} (ne : other ≠ path) :
    writes path (.wrote other extent :: history) = history.writes path := by
  rw [writes, if_neg ne]

@[simp]
theorem writes_opened {other : String} {canWrite : Bool} :
    writes path (.opened handle other canWrite :: history) = history.writes path := rfl

@[simp]
theorem writes_closed : writes path (.closed handle :: history) = history.writes path := rfl

/-- No other file is written. -/
theorem writes_record (other : history.target call ≠ some path) :
    (history.record call reply).writes path = history.writes path := by
  cases call with
  | create name =>
      refine writes_created_of_ne fun same => other ?_
      rw [target, same]
  | «open» name canWrite create =>
      cases reply with
      | handle handle =>
          rw [record, writes_opened]
          by_cases new : history.writes name = none ∧ create = true
          · rw [if_pos new]
            refine writes_created_of_ne fun same => other ?_
            rw [target, if_pos new, same]
          · rw [if_neg new]
      | file id => rfl
      | bytes n buf => rfl
      | count n => rfl
      | closed => rfl
  | write handle offset src =>
      cases held : history.holder handle with
      | none => simp only [record, held]
      | some file =>
          obtain ⟨name, canWrite⟩ := file
          simp only [record, held]
          refine writes_wrote_of_ne fun same => other ?_
          rw [target, held, Option.map_some, same]
  | read handle offset buf => rfl
  | size handle => rfl
  | close handle => rfl

theorem byteAt_record_write {offset : UInt64} {src : List UInt8} {position : Nat}
    (outside : ¬ (Extent.mk offset.toNat src).Covers position) :
    (history.record (.write handle offset src) reply).byteAt path position =
      history.byteAt path position := by
  cases held : history.holder handle with
  | none => simp only [record, held]
  | some file =>
      obtain ⟨name, canWrite⟩ := file
      simp only [record, held, byteAt]
      by_cases same : name = path
      · obtain rfl := same
        rw [writes_wrote]
        cases history.writes name with
        | none => rfl
        | some writes => exact Extent.valueAt_cons_of_not_covers outside
      · rw [writes_wrote_of_ne same]

end FsHistory

end Simurgh
