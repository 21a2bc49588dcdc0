import KernelDriverLab.Lib.Pool
import KernelDriverLab.Lib.System
import KernelDriverLab.Usb.Attach

/-!
# Disconnect, the work item and the completion functions

After a successful probe three kinds of activity share the device: the work item
`init_usb_protocols`, the completion functions, and `usb_disconnect`.  Each is a
thread, and a step is one operation of one thread.  The work item and
`usb_disconnect` are there from the start, as threads that need not have begun.

`usb_kill_urb` waits until its URB is idle and its completion function has returned.
`World.gone` is what `usb_disconnect` has freed or set to NULL.  The model lets an
operation on freed memory go on with what was there before; `World.Safe` says that
no thread is about to perform one.
-/

namespace KernelDriverLab.Usb

open Lib Prog

/-! ## What an operation uses and gives away -/

/-- The device, its URBs and its buffers. -/
inductive Thing where
  | dev
  | urb (u : Pair)
  | buffer (b : Pair)
deriving DecidableEq, Repr

/-- What the operation dereferences, fills, submits or passes as a buffer. -/
@[simp] def Op.uses : Op → List Thing
  | readDev | setUdev _ | setMyCbw _ | setCbwTag _ | setBulkIn _ | setBulkOut _ | setUrb _ _
  | setBuffer _ _ | setDma _ _ => [.dev]
  | setTransferDma u _ _ | setNoTransferDmaMap u _ | usbSubmitUrb u _ => [.urb u]
  | readBuf b | writeBuf b _ _ => [.buffer b]
  | usbFillBulkUrb u _ _ _ _ _ => [.urb u, .buffer u]
  | _ => []

/-- What the operation frees or sets to NULL. -/
@[simp] def Op.releases : Op → List Thing
  | usbFreeUrb u _ | setUrb u none => [.urb u]
  | usbFreeCoherent b _ _ | kfree b _ | setBuffer b none => [.buffer b]
  | kfreeDev _ => [.dev]
  | _ => []

/-- The URB that the operation kills, unless the pointer is NULL. -/
@[simp] def Op.kills : Op → Option Pair
  | usbKillUrb u (some _) => some u
  | _ => none

/-! ## The threads -/

/-- What a thread is running. -/
inductive Role where
  | work
  | disconnect
  /-- The completion function of the URB of a pair. -/
  | callback (u : Pair)
deriving DecidableEq, Repr

/-- The thread is running `data_callback`. -/
def Role.isData : Role → Bool
  | callback u => u.callback = .dataCallback
  | _ => false

/-- A thread of the driver. -/
abbrev UsbThread : Type := Thread Op Op.Ans Role Unit

/-- What the next operation of the thread uses. -/
def pending (th : UsbThread) : List Thing :=
  match th.prog with
  | .ret _ => []
  | .act o _ => o.uses

/-- The threads with the device they share, what `usb_disconnect` has freed or set to
NULL, and the URBs that it has killed. -/
structure World where
  pool : Pool Op Op.Ans Role Unit State
  gone : List Thing
  killed : List Pair

/-- What can happen next. -/
inductive Act where
  /-- The URB of a pair is given back. -/
  | complete (u : Pair) (status : Int) (received : List UInt8)
  /-- Thread `i` performs its next operation. -/
  | run (i : ℕ) (e : Env)

namespace World

/-- The device. -/
abbrev drv (w : World) : State := w.pool.shared

/-- The operation need not wait. -/
def Ready (w : World) (o : Op) : Prop :=
  ∀ u ∈ o.kills, w.drv.inflight u = false ∧
    ∀ th ∈ w.pool.threads, th.role = .callback u → th.returned = true

instance (w : World) (o : Op) : Decidable (w.Ready o) :=
  inferInstanceAs (Decidable (∀ u ∈ o.kills, _))

/-- The world after thread `i` with role `r` has performed `o`. -/
def after (w : World) (r : Role) (o : Op) (p : Pool Op Op.Ans Role Unit State) : World where
  pool := p
  gone := if r = .disconnect then o.releases ++ w.gone else w.gone
  killed := if r = .disconnect then o.kills.toList ++ w.killed else w.killed

/-- One step. -/
def next (w : World) : Act → Option World
  | .complete u st received =>
      match w.drv.inflight u, (w.drv.urb u).complete with
      | true, some cb =>
          some { w with
            pool := ({ w.pool with shared := w.drv.giveBack u st received } :
              Pool Op Op.Ans Role Unit State).spawn
                ⟨.callback u, cb.body { w.drv.urb u with status := st }⟩ }
      | _, _ => none
  | .run i e =>
      match w.pool.threads[i]? with
      | some ⟨r, .act o _⟩ =>
          if w.Ready o then (w.pool.stepAt (fun _ => sem e) i).map (w.after r o) else none
      | _ => none

/-- No thread is about to use what `usb_disconnect` has freed or set to NULL. -/
def Safe (w : World) : Prop := ∀ th ∈ w.pool.threads, ∀ x ∈ pending th, x ∉ w.gone

instance (w : World) : Decidable w.Safe :=
  inferInstanceAs (Decidable (∀ th ∈ w.pool.threads, _))

end World

/-- The driver from a successful probe on, one operation at a time. -/
def interleaved : System World Act where
  Init w := (∃ s e altsetting, run (sem e) (usbProbe altsetting) s = .done 0 w.drv) ∧
    w.pool.threads = [⟨.work, initUsbProtocols⟩, ⟨.disconnect, usbDisconnect⟩] ∧
    w.gone = [] ∧ w.killed = []
  next := World.next

section Inversion

variable {w w' : World}

lemma inv_complete {u : Pair} {st : Int} {received : List UInt8}
    (h : interleaved.next w (.complete u st received) = some w') :
    w.drv.inflight u = true ∧ ∃ cb, (w.drv.urb u).complete = some cb ∧
      w' = { w with
        pool := ({ w.pool with shared := w.drv.giveBack u st received } :
          Pool Op Op.Ans Role Unit State).spawn
            ⟨.callback u, cb.body { w.drv.urb u with status := st }⟩ } := by
  simp only [interleaved, World.next] at h
  split at h
  · rename_i cb hu hcb
    exact ⟨hu, cb, hcb, (Option.some.inj h).symm⟩
  · cases h

lemma inv_run {i : ℕ} {e : Env} (h : interleaved.next w (.run i e) = some w') :
    ∃ r o k x s, w.pool.threads[i]? = some ⟨r, .act o k⟩ ∧ w.Ready o ∧
      sem e o w.drv = .done x s ∧ w' = w.after r o ⟨s, w.pool.threads.set i ⟨r, k x⟩⟩ := by
  simp only [interleaved, World.next] at h
  split at h
  · rename_i r o k hi
    simp only [Option.ite_none_right_eq_some, Option.map_eq_some_iff] at h
    obtain ⟨hready, p, hp, rfl⟩ := h
    obtain ⟨x, s, hsem, rfl⟩ := Pool.stepAt_inv hi hp
    exact ⟨r, o, k, x, s, hi, hready, hsem, rfl⟩
  · cases h

end Inversion

end KernelDriverLab.Usb
