import Simurgh.Cap.Rights
import Simurgh.Lib.Exec

/-!
# Notifications

A word of sticky signal bits and the threads that wait for it.
-/

namespace Simurgh

inductive NotificationError where
  | queueFull
  deriving DecidableEq, Repr

/-- A notification with room for `W` waiters. -/
structure Notification (W : Nat) where
  signalWord : Nat
  waiters : List ThreadId
  deriving DecidableEq, Repr

namespace Notification

variable {W : Nat}

def new : Notification W := { signalWord := 0, waiters := [] }

/-- Add `bits` to the signal word and return the threads that were waiting. -/
def signal (bits : Nat) : Exec (Notification W) NotificationError (List ThreadId) := do
  let notification ← Exec.get
  Exec.modify fun notification =>
    { notification with signalWord := notification.signalWord ||| bits, waiters := [] }
  return notification.waiters

/-- Take the signal bits. -/
def poll : Exec (Notification W) NotificationError Nat := do
  let notification ← Exec.get
  Exec.modify fun notification => { notification with signalWord := 0 }
  return notification.signalWord

/-- Append a waiter. -/
def wait (thread : ThreadId) : Exec (Notification W) NotificationError Unit := do
  let notification ← Exec.get
  Exec.guard (notification.waiters.length < W) .queueFull
  Exec.modify fun notification =>
    { notification with waiters := notification.waiters ++ [thread] }

/-! ## What the calls do -/

section Spec

variable {notification : Notification W}

theorem signal_run (bits : Nat) (notification : Notification W) :
    signal bits notification =
      .ok notification.waiters
        { signalWord := notification.signalWord ||| bits, waiters := [] } := rfl

theorem poll_run (notification : Notification W) :
    poll notification =
      .ok notification.signalWord { notification with signalWord := 0 } := rfl

theorem wait_of_room (room : notification.waiters.length < W) (thread : ThreadId) :
    wait thread notification =
      .ok () { notification with waiters := notification.waiters ++ [thread] } := by
  simp [wait, Exec.guard, room]

theorem wait_of_full (full : ¬ notification.waiters.length < W) (thread : ThreadId) :
    wait thread notification = .err .queueFull notification := by
  simp [wait, Exec.guard, full]

end Spec

/-! ## Capacity -/

/-- The waiters are within their array. -/
def Fits (notification : Notification W) : Prop := notification.waiters.length ≤ W

theorem wait_fits (thread : ThreadId) :
    (wait thread : Exec (Notification W) _ _).Preserves Fits := by
  intro notification final fits ended
  by_cases room : notification.waiters.length < W
  · rw [wait_of_room room] at ended
    obtain rfl := Option.some.inj ended
    simpa [Fits] using Nat.succ_le_of_lt room
  · rw [wait_of_full room] at ended
    obtain rfl := Option.some.inj ended
    exact fits

theorem poll_fits : (poll : Exec (Notification W) _ _).Preserves Fits := by
  intro notification final fits ended
  rw [poll_run] at ended
  obtain rfl := Option.some.inj ended
  exact fits

/-! ## Returning -/

theorem signal_total (bits : Nat) : (signal bits : Exec (Notification W) _ _).Total :=
  Exec.Total.get.bind fun _ => (Exec.Total.modify _).bind fun _ => Exec.Total.pure _

theorem poll_total : (poll : Exec (Notification W) _ _).Total :=
  Exec.Total.get.bind fun _ => (Exec.Total.modify _).bind fun _ => Exec.Total.pure _

theorem wait_total (thread : ThreadId) : (wait thread : Exec (Notification W) _ _).Total :=
  Exec.Total.get.bind fun _ => (Exec.Total.guard _ _).bind fun _ => Exec.Total.modify _

end Notification

end Simurgh
