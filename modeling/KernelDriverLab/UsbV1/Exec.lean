import KernelDriverLab.UsbV1.Driver

/-!
# Symbolic execution of the driver

For each single operation the equation that executes it, so that `simp` carries a
run through a driver function, and the same for the helpers that follow a pointer.
-/

namespace KernelDriverLab.UsbV1

open Lib Prog

variable {e : Env} {own : CmndId} {s : State}

/-! ## Operations -/

@[simp] lemma run_readDev : run (sem e own) readDev s = .done s.dev s := rfl

@[simp] lemma run_writeDev (f : Dev → Dev) :
    run (sem e own) (writeDev f) s = .done () (s.modDev f) := rfl

@[simp] lemma run_activeScmd : run (sem e own) activeScmd s = .done s.activeScmd s := rfl

@[simp] lemma run_setActiveScmd (c : Option CmndId) :
    run (sem e own) (setActiveScmd c) s = .done () (s.setActive c) := rfl

@[simp] lemma run_readUrb (u : UrbId) : run (sem e own) (readUrb u) s = .done (s.urb u) s := rfl

@[simp] lemma run_writeUrb (u : UrbId) (f : Urb → Urb) :
    run (sem e own) (writeUrb u f) s = .done () (s.modUrb u f) := rfl

@[simp] lemma run_readBuf (b : BufId) : run (sem e own) (readBuf b) s = .done (s.buf b) s := rfl

@[simp] lemma run_writeBuf (b : BufId) (bs : List UInt8) :
    run (sem e own) (writeBuf b bs) s = .done () (s.setBuf b (overwrite (s.buf b) bs)) := rfl

@[simp] lemma run_sgVirt {c : CmndId} (h : (s.cmnd c).length ≠ 0) :
    run (sem e own) (sgVirt c) s = .done () s := (run_op _ _).trans (if_neg h)

@[simp] lemma run_sgVirt_null {c : CmndId} (h : (s.cmnd c).length = 0) :
    run (sem e own) (sgVirt c) s = .oops s := (run_op _ _).trans (if_pos h)

@[simp] lemma run_readCsw_some (b : BufId) :
    run (sem e own) (readCsw (some b)) s = .done (s.buf b) s := rfl

@[simp] lemma run_readCsw_none : run (sem e own) (readCsw none) s = .oops s := rfl

@[simp] lemma run_readCmnd (c : CmndId) :
    run (sem e own) (readCmnd c) s = .done (s.cmnd c) s := rfl

@[simp] lemma run_writeCmnd (c : CmndId) (f : Cmnd → Cmnd) :
    run (sem e own) (writeCmnd c f) s = .done () (s.modCmnd c f) := rfl

@[simp] lemma run_usbKillUrb (u : UrbId) : run (sem e own) (usbKillUrb u) s = .done () s := rfl

@[simp] lemma run_usbClearHalt (p : Pipe) :
    run (sem e own) (usbClearHalt p) s = .done e.clearHalt s := rfl

@[simp] lemma run_scsiDone_some (c : CmndId) :
    run (sem e own) (scsiDone (some c)) s = .done () (s.addDone c) := rfl

@[simp] lemma run_scsiDone_none : run (sem e own) (scsiDone none) s = .oops s := rfl

@[simp] lemma run_oops {α : Type} : run (sem e own) (oops : Driver α) s = .oops s := rfl

/-- Reading a response table changes nothing. -/
lemma run_readTable (e : Env) (own : CmndId) (s : State) (t : List UInt8) (n : ℕ) :
    ∃ bs, run (sem e own) (readTable t n) s = .done bs s := ⟨_, rfl⟩

/-! ## Pointers -/

@[simp] lemma run_deref_some {α : Type} (a : α) :
    run (sem e own) (deref (some a)) s = .done a s := rfl

@[simp] lemma run_deref_none {α : Type} :
    run (sem e own) (deref (none : Option α)) s = .oops s := rfl

section Active

variable {c : CmndId} (h : s.activeScmd = some c)

include h

@[simp] lemma run_derefActive : run (sem e own) derefActive s = .done c s := by
  simp [derefActive, h]

@[simp] lemma run_setActiveResult (r : ℕ) :
    run (sem e own) (setActiveResult r) s =
      .done () (s.modCmnd c fun x => { x with result := r }) := by
  simp [setActiveResult, h]

@[simp] lemma run_setActiveResid (n : UInt32) :
    run (sem e own) (setActiveResid n) s =
      .done () (s.modCmnd c fun x => { x with resid := n }) := by
  simp [setActiveResid, h]

@[simp] lemma run_doneActive : run (sem e own) doneActive s = .done () (s.addDone c) := by
  simp [doneActive, h]

end Active

section NullActive

variable (h : s.activeScmd = none)

include h

@[simp] lemma run_derefActive_none : run (sem e own) derefActive s = .oops s := by
  simp [derefActive, h]

@[simp] lemma run_setActiveResult_none (r : ℕ) :
    run (sem e own) (setActiveResult r) s = .oops s := by
  simp [setActiveResult, h]

end NullActive

/-! ## URBs and buffers -/

section Pointers

variable {u : UrbId} {b : BufId}

@[simp] lemma run_storeUrb (h : s.dev.urb u ≠ none) (f : Urb → Urb) :
    run (sem e own) (storeUrb u f) s = .done () (s.modUrb u f) := by
  obtain ⟨i, hi⟩ := Option.ne_none_iff_exists'.1 h
  simp [storeUrb, hi]

@[simp] lemma run_memcpyTo (h : s.dev.buffer b ≠ none) (bs : List UInt8) :
    run (sem e own) (memcpyTo b bs) s = .done () (s.setBuf b (overwrite (s.buf b) bs)) := by
  obtain ⟨i, hi⟩ := Option.ne_none_iff_exists'.1 h
  simp [memcpyTo, hi]

@[simp] lemma run_useDma (h : s.dev.urb u ≠ none) (b : BufId) :
    run (sem e own) (useDma u b) s =
      .done () (s.modUrb u fun r =>
        { r with transferDma := s.dev.dma b, noTransferDmaMap := true }) := by
  simp [useDma, h]

@[simp] lemma run_fillBulkUrb (h : s.dev.urb u ≠ none) (pipe : Pipe) (b : BufId) (len : UInt32)
    (cb : Callback) :
    run (sem e own) (usbFillBulkUrb u pipe b len cb) s =
      .done () ((s.noteClash u).fillBulkUrb u pipe b len cb) := by
  obtain ⟨i, hi⟩ := Option.ne_none_iff_exists'.1 h
  refine (run_op _ _).trans ?_
  simp only [sem, hi]

end Pointers

namespace State

/-- `dev->u` after it has been filled for its own buffer and told to use the DMA
address of that buffer. -/
def ready (s : State) (u : UrbId) (pipe : Pipe) (len : UInt32) (cb : Callback) : State :=
  ((s.noteClash u).fillBulkUrb u pipe u.buf len cb).modUrb u fun r =>
    { r with transferDma := s.dev.dma u.buf, noTransferDmaMap := true }

/-- The return value of `usb_submit_urb` on a filled URB. -/
def submitValue (s : State) (e : Env) (u : UrbId) : Int :=
  if s.inflight u = none then e.submit else -EBUSY

/-- The state after `usb_submit_urb` on a filled URB. -/
def submit (s : State) (e : Env) (own : CmndId) (u : UrbId) : State :=
  if s.inflight u = none then (if e.submit = 0 then s.setInflight u (some own) else s)
  else s.addClash u

/-- `dev->active_scmd->result = r` and `scsi_done(dev->active_scmd)` for the active
command `c`. -/
def finish (s : State) (c : CmndId) (r : ℕ) : State :=
  (s.modCmnd c fun x => { x with result := r }).addDone c

/-- The state after `submitOrFail` with the active command `c`. -/
def submitOrFail (s : State) (e : Env) (own c : CmndId) (u : UrbId) : State :=
  if s.submitValue e u = 0 then s.submit e own u else (s.submit e own u).finish c didError

end State

@[simp] lemma run_usbSubmitUrb {u : UrbId} (h : s.dev.urb u ≠ none)
    (hc : (s.urb u).complete ≠ none) :
    run (sem e own) (usbSubmitUrb u) s = .done (s.submitValue e u) (s.submit e own u) := by
  refine (run_op _ _).trans ?_
  cases hu : s.inflight u <;>
    simp [sem, h, hc, hu, State.submitValue, State.submit, State.noteClash, State.addClash]

lemma submitValue_eq_zero (s : State) (e : Env) (u : UrbId) :
    s.submitValue e u = 0 ↔ s.inflight u = none ∧ e.submit = 0 := by
  unfold State.submitValue
  split <;> simp [*, EBUSY]

@[simp] lemma submit_activeScmd (s : State) (e : Env) (own : CmndId) (u : UrbId) :
    (s.submit e own u).activeScmd = s.activeScmd := by
  unfold State.submit
  repeat' split
  all_goals rfl

@[simp] lemma run_submitOrFail {u : UrbId} {c : CmndId} (h : s.dev.urb u ≠ none)
    (hcb : (s.urb u).complete ≠ none) (hc : s.activeScmd = some c) :
    run (sem e own) (submitOrFail u) s = .done () (s.submitOrFail e own c u) := by
  by_cases hrv : s.submitValue e u = 0 <;>
    simp [submitOrFail, h, hcb, hc, hrv, State.submitOrFail, State.finish]

end KernelDriverLab.UsbV1
