import KernelDriverLab.Lib.Pool
import KernelDriverLab.UsbV1.Runs

/-!
# Interleavings of the driver

The finest view of the driver: every call is a thread of its own, and a step is one
operation of one thread.  The threads run `queue_command`, the completion functions
and the error handlers, with the same programs and the same operations as in
`session`.  The SCSI layer hands over the next command as soon as `scsi_done` has
been called for the previous one, whether or not the threads of that command have
ended.

`usb_kill_urb` waits here: the thread stays at it until the URB is idle and its
completion function has returned.
-/

namespace KernelDriverLab.UsbV1

open Lib Prog

/-- What a thread is running. -/
inductive Kind where
  | queue
  | callback (u : UrbId)
  | handler
  /-- Nothing any more. -/
  | ended
deriving DecidableEq, Repr

/-- The function that a thread is running and the command on whose behalf. -/
structure Role where
  kind : Kind
  own : CmndId
deriving DecidableEq, Repr

/-- The thread is running a completion function. -/
def Role.isCallback (r : Role) : Bool :=
  match r.kind with
  | .callback _ => true
  | _ => false

/-- A thread of the driver. -/
abbrev DriverThread : Type := Thread Op Op.Ans Role Int

/-- A use of `active_scmd` by a completion function: the command for which its URB
was submitted, and what `active_scmd` was. -/
structure Use where
  own : CmndId
  value : Option CmndId
deriving DecidableEq, Repr

/-- The operation reads `active_scmd` or stores into it. -/
def Op.usesActive : Op → Bool
  | activeScmd | setActiveScmd _ => true
  | _ => false

/-- The threads with the device they share, the commands handed over, those that
`queue_command` refused, and the uses of `active_scmd` by completion functions. -/
structure World where
  pool : Pool Op Op.Ans Role Int State
  queued : List CmndId
  refused : List CmndId
  uses : List Use

/-- What can happen next. -/
inductive Act where
  | queue (c : CmndId)
  | complete (u : UrbId) (status : Int) (actualLength : UInt32) (received : List UInt8)
  | handler (h : Handler) (c : CmndId)
  /-- Thread `i` performs its next operation. -/
  | run (i : ℕ) (e : Env)
  /-- The function of thread `i` returns. -/
  | finish (i : ℕ)

namespace World

/-- The device. -/
abbrev drv (w : World) : State := w.pool.shared

/-- The SCSI layer may hand over command `c`. -/
def MayQueue (w : World) (c : CmndId) : Prop :=
  c ∉ w.queued ∧ ∀ d ∈ w.queued, d ∈ w.drv.done ∨ d ∈ w.refused

instance (w : World) (c : CmndId) : Decidable (w.MayQueue c) :=
  inferInstanceAs (Decidable (_ ∧ _))

/-- The operation need not wait. -/
def Ready (w : World) (o : Op) : Prop :=
  ∀ u ∈ o.kills, w.drv.inflight u = none ∧ ∀ th ∈ w.pool.threads, th.role.kind ≠ .callback u

instance (w : World) (o : Op) : Decidable (w.Ready o) :=
  inferInstanceAs (Decidable (∀ u ∈ o.kills, _))

/-- The list of uses after the operation `o` in a thread with role `r`. -/
def noteUse (w : World) (r : Role) (o : Op) : List Use :=
  if r.isCallback && o.usesActive then ⟨r.own, w.drv.activeScmd⟩ :: w.uses else w.uses

/-- A new thread. -/
def start (w : World) (r : Role) (p : Driver Int) : World :=
  { w with pool := w.pool.spawn ⟨r, p⟩ }

/-- The completion function of a thread, with a value like the other functions. -/
def callbackProg (cb : Callback) (u : UrbId) : Driver Int := do
  cb.body u
  return 0

/-- One step. -/
def next (w : World) : Act → Option World
  | .queue c =>
      if w.MayQueue c then
        some { w.start ⟨.queue, c⟩ (queueCommand c) with queued := c :: w.queued }
      else none
  | .complete u status n received =>
      match w.drv.inflight u, (w.drv.urb u).complete with
      | some c, some cb =>
          some ({ w with
            pool := { w.pool with shared := w.drv.giveBack u status n received } }.start
              ⟨.callback u, c⟩ (callbackProg cb u))
      | _, _ => none
  | .handler h c =>
      if c ∈ w.queued then some (w.start ⟨.handler, c⟩ (h.body c)) else none
  | .run i e =>
      match w.pool.threads[i]? with
      | some ⟨r, .act o _⟩ =>
          if w.Ready o then
            (w.pool.stepAt (fun r => sem e r.own) i).map fun p =>
              { w with pool := p, uses := w.noteUse r o }
          else none
      | _ => none
  | .finish i =>
      match w.pool.threads[i]? with
      | some ⟨r, .ret v⟩ =>
          some { w with
            pool := w.pool.put i ⟨⟨.ended, r.own⟩, .ret v⟩
            refused := if r.kind = .queue ∧ v ≠ 0 then r.own :: w.refused else w.refused }
      | _ => none

end World

/-- The driver from a successful probe on, one operation at a time. -/
def interleaved : System World Act where
  Init w := Probed w.drv ∧ w.pool.threads = [] ∧ w.queued = [] ∧ w.refused = [] ∧ w.uses = []
  next := World.next

section Inversion

variable {w w' : World}

lemma inv_queue {c : CmndId} (h : interleaved.next w (.queue c) = some w') :
    w.MayQueue c ∧ w' = { w.start ⟨.queue, c⟩ (queueCommand c) with queued := c :: w.queued } := by
  simp only [interleaved, World.next, Option.ite_none_right_eq_some, Option.some.injEq] at h
  exact ⟨h.1, h.2.symm⟩

lemma inv_complete {u : UrbId} {st : Int} {n : UInt32} {received : List UInt8}
    (h : interleaved.next w (.complete u st n received) = some w') :
    ∃ c cb, w.drv.inflight u = some c ∧ (w.drv.urb u).complete = some cb ∧
      w' = { w with pool := { w.pool with shared := w.drv.giveBack u st n received } }.start
        ⟨.callback u, c⟩ (World.callbackProg cb u) := by
  simp only [interleaved, World.next] at h
  split at h
  · rename_i c cb hc hcb
    exact ⟨c, cb, hc, hcb, (Option.some.inj h).symm⟩
  · cases h

lemma inv_handler {hd : Handler} {c : CmndId} (h : interleaved.next w (.handler hd c) = some w') :
    c ∈ w.queued ∧ w' = w.start ⟨.handler, c⟩ (hd.body c) := by
  simp only [interleaved, World.next, Option.ite_none_right_eq_some, Option.some.injEq] at h
  exact ⟨h.1, h.2.symm⟩

lemma inv_run {i : ℕ} {e : Env} (h : interleaved.next w (.run i e) = some w') :
    ∃ r o k x s, w.pool.threads[i]? = some ⟨r, .act o k⟩ ∧ w.Ready o ∧
      sem e r.own o w.drv = .done x s ∧
      w' = { w with pool := ⟨s, w.pool.threads.set i ⟨r, k x⟩⟩, uses := w.noteUse r o } := by
  simp only [interleaved, World.next] at h
  split at h
  · rename_i r o k hi
    simp only [Option.ite_none_right_eq_some, Option.map_eq_some_iff] at h
    obtain ⟨hready, p, hp, rfl⟩ := h
    obtain ⟨x, s, hsem, rfl⟩ := Pool.stepAt_inv hi hp
    exact ⟨r, o, k, x, s, hi, hready, hsem, rfl⟩
  · cases h

lemma inv_finish {i : ℕ} (h : interleaved.next w (.finish i) = some w') :
    ∃ r v, w.pool.threads[i]? = some ⟨r, .ret v⟩ ∧ w' = { w with
      pool := w.pool.put i ⟨⟨.ended, r.own⟩, .ret v⟩
      refused := if r.kind = .queue ∧ v ≠ 0 then r.own :: w.refused else w.refused } := by
  simp only [interleaved, World.next] at h
  split at h
  · rename_i r v hi
    exact ⟨r, v, hi, (Option.some.inj h).symm⟩
  · cases h

end Inversion

/-! ## A device to start from -/

/-- The device before the first command, with nothing running. -/
def World.before (cmnd : CmndId → Cmnd) : World := ⟨⟨.start cmnd, []⟩, [], [], []⟩

lemma reach_before (C : World → Act → Prop) (cmnd : CmndId → Cmnd) :
    interleaved.Reach C (.before cmnd) :=
  .init ⟨probed_start cmnd, rfl, rfl, rfl, rfl⟩

/-- `n` operations of thread `i`. -/
def turns (i n : ℕ) : List Act := List.replicate n (.run i {})

end KernelDriverLab.UsbV1
