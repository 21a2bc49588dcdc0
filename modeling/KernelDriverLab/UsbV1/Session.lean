import KernelDriverLab.Lib.System
import KernelDriverLab.UsbV1.Exec

/-!
# Runs of the driver, one call at a time

The transition system whose steps are whole calls of the driver: the SCSI layer
hands over a command, an URB completes, an error handler is called.  A new
command is handed over only when every earlier one has been completed or refused,
because `can_queue` is 1.  A call that ends in an oops ends the run.
-/

namespace KernelDriverLab.UsbV1

open Lib Prog

/-! ## Completions -/

namespace State

/-- What the device stores for an IN transfer: the bytes `received`, as far as the
transfer length allows. -/
def receive (s : State) (u : UrbId) (received : List UInt8) : State :=
  let r := s.urb u
  let bs := received.take r.transferBufferLength.toNat
  match r.pipe.dirIn, r.transferBuffer with
  | true, some .data =>
      { s with dmaMem := fun a =>
          if r.transferDma ≤ a then bs.getD (a - r.transferDma) (s.dmaMem a) else s.dmaMem a }
  | true, some b => s.setBuf b (overwrite (s.buf b) bs)
  | _, _ => s

/-- URB `u` is given back to the driver. -/
def giveBack (s : State) (u : UrbId) (status : Int) (actualLength : UInt32)
    (received : List UInt8) : State :=
  ((s.receive u received).modUrb u fun r =>
    { r with status := status, actualLength := actualLength }).setInflight u none

section GiveBack

variable (s : State) (u : UrbId) (st : Int) (n : UInt32) (received : List UInt8)

@[simp] lemma receive_dev : (s.receive u received).dev = s.dev := by
  simp only [receive]
  split <;> rfl

@[simp] lemma receive_urb : (s.receive u received).urb = s.urb := by
  simp only [receive]
  split <;> rfl

@[simp] lemma receive_ledger : (s.receive u received).ledger = s.ledger := by
  simp only [receive]
  split <;> rfl

@[simp] lemma giveBack_cmnd : (s.giveBack u st n received).cmnd = s.cmnd := by
  simp only [giveBack, receive]
  split <;> rfl

@[simp] lemma giveBack_dev : (s.giveBack u st n received).dev = s.dev := by
  simp [giveBack]

@[simp] lemma giveBack_ledger : (s.giveBack u st n received).ledger = s.ledger := by
  simp [giveBack]

@[simp] lemma giveBack_urb : (s.giveBack u st n received).urb u =
    { s.urb u with status := st, actualLength := n } := by
  simp [giveBack]

end GiveBack

end State

/-- The call of the completion function of `u`, submitted for command `c`. -/
def runCallback (e : Env) (u : UrbId) (c : CmndId) (s : State) : Outcome State Unit :=
  match (s.urb u).complete with
  | none => .oops s
  | some cb => run (sem e c) (cb.body u) s

/-- The meaning of the operations in a function that kills URBs: `usb_kill_urb` on
an URB in flight runs its completion function with status `-ENOENT`. -/
def killSem (e : Env) (own : CmndId) : Prog.Sem Op Op.Ans State
  | .usbKillUrb u, s =>
      match s.inflight u with
      | none => .done () s
      | some c => runCallback e u c (s.giveBack u (-ENOENT) 0 [])
  | o, s => sem e own o s

lemma killSem_kill (e : Env) (own : CmndId) (u : UrbId) (s : State) :
    killSem e own (.usbKillUrb u) s = match s.inflight u with
      | none => .done () s
      | some c => runCallback e u c (s.giveBack u (-ENOENT) 0 []) := rfl

lemma killSem_of_ne (e : Env) (own : CmndId) {o : Op} (h : ∀ u, o ≠ .usbKillUrb u) (s : State) :
    killSem e own o s = sem e own o s := by
  unfold killSem
  split
  · exact absurd rfl (h _)
  · rfl

/-! ## The system -/

/-- A device in use: the driver's state, the commands handed over so far with the
outcome of `queue_command`, and whether a call has ended in an oops. -/
structure Config where
  drv : State
  queued : List CmndId
  accepted : List CmndId
  refused : List CmndId
  oops : Bool

namespace Config

/-- The SCSI layer may hand over command `c`. -/
def MayQueue (k : Config) (c : CmndId) : Prop :=
  c ∉ k.queued ∧ ∀ d ∈ k.queued, d ∈ k.drv.done ∨ d ∈ k.refused

instance (k : Config) (c : CmndId) : Decidable (k.MayQueue c) :=
  inferInstanceAs (Decidable (_ ∧ _))

/-- The device after a call that is not one of `queue_command`. -/
def after {α : Type} (k : Config) : Outcome State α → Config
  | .done _ s => { k with drv := s }
  | .oops s => { k with drv := s, oops := true }

/-- The device after `queue_command` was called for `c`. -/
def afterQueue (k : Config) (c : CmndId) : Outcome State Int → Config
  | .done rv s =>
      if rv = 0 then
        { k with drv := s, queued := c :: k.queued, accepted := c :: k.accepted }
      else { k with drv := s, queued := c :: k.queued, refused := c :: k.refused }
  | .oops s => { k with drv := s, queued := c :: k.queued, oops := true }

end Config

/-- The error handlers of the host template. -/
inductive Handler where
  | abort
  | devReset
  | busReset
  | hostReset
deriving DecidableEq, Repr

/-- The function that the host template names for a handler. -/
def Handler.body : Handler → CmndId → Driver Int
  | .abort => usbEhAbort
  | .devReset => usbEhDevReset
  | .busReset => usbEhBusReset
  | .hostReset => usbEhHostReset

/-- One call of the driver, with the choices of the kernel. -/
inductive Call where
  | queueCommand (c : CmndId) (e : Env)
  | complete (u : UrbId) (status : Int) (actualLength : UInt32) (received : List UInt8) (e : Env)
  | handler (h : Handler) (c : CmndId) (e : Env)

/-- The call of an error handler. -/
def runHandler (h : Handler) (c : CmndId) (e : Env) (s : State) : Outcome State Int :=
  run (killSem e c) (h.body c) s

/-- One call. -/
def step (k : Config) : Call → Option Config
  | .queueCommand c e =>
      if k.oops = false ∧ k.MayQueue c then
        some (k.afterQueue c (run (sem e c) (queueCommand c) k.drv))
      else none
  | .complete u status n received e =>
      if k.oops = false then
        (k.drv.inflight u).map fun c =>
          k.after (runCallback e u c (k.drv.giveBack u status n received))
      else none
  | .handler h c e =>
      if k.oops = false ∧ c ∈ k.queued then some (k.after (runHandler h c e k.drv)) else none

/-- The state that a successful probe leaves: all URBs and the buffers of the
wrappers are allocated, and nothing has happened yet. -/
structure Probed (s : State) : Prop where
  urb_ptr : ∀ u, s.dev.urb u ≠ none
  buf_ptr : ∀ b, b ≠ .data → s.dev.buffer b ≠ none
  data_ptr : s.dev.buffer .data = none
  urb : ∀ u, s.urb u = .zero
  active : s.activeScmd = none
  count : s.dev.count = 0
  tag : s.dev.cbwTag = 1
  inflight : ∀ u, s.inflight u = none
  done : s.done = []
  clash : s.clash = []
  dmaMem : s.dmaMem = s.fresh

/-- A device in use, from a successful probe on. -/
def session : System Config Call where
  Init k := Probed k.drv ∧ k.queued = [] ∧ k.accepted = [] ∧ k.refused = [] ∧ k.oops = false
  next := step

/-- Runs without resets: commands, completions and `usb_eh_abort`. -/
def NoReset (_ : Config) : Call → Prop
  | .handler h _ _ => h = .abort
  | _ => True

/-- Runs without error handling: commands and completions. -/
def NoHandler (_ : Config) : Call → Prop
  | .handler _ _ _ => False
  | _ => True

instance (k : Config) : (l : Call) → Decidable (NoReset k l)
  | .handler _ _ _ => inferInstanceAs (Decidable (_ = _))
  | .queueCommand _ _ | .complete _ _ _ _ _ => inferInstanceAs (Decidable True)

instance (k : Config) : (l : Call) → Decidable (NoHandler k l)
  | .handler _ _ _ => inferInstanceAs (Decidable False)
  | .queueCommand _ _ | .complete _ _ _ _ _ => inferInstanceAs (Decidable True)

end KernelDriverLab.UsbV1
