import KernelDriverLab.UsbV1.Shape

/-!
# The command traffic of a device

`Traffic` is what a device looks like to somebody who watches only its commands:
which one is active, which URB is in flight for which command, which commands
have been completed, and which URBs were touched while they were in flight.  Its
operations are the moves that a transaction of the transport is made of.

The second half says of each function of the driver which move it is.  Nothing
later needs to know the functions themselves to follow the commands.
-/

namespace KernelDriverLab.UsbV1

open Lib Prog

/-! ## The abstract device -/

/-- The commands and URBs of a device. -/
structure Traffic where
  active : Option CmndId
  inflight : UrbId → Option CmndId
  done : List CmndId
  clash : List UrbId

namespace Traffic

variable (t : Traffic)

/-- The slot of the active command is set. -/
@[simps -fullyApplied]
def activate (c : Option CmndId) : Traffic := { t with active := c }

/-- `c` is completed. -/
@[simps -fullyApplied]
def finish (c : CmndId) : Traffic := { t with done := c :: t.done }

/-- `c` is completed and there is no active command any more. -/
@[simps! -fullyApplied]
def settle (c : CmndId) : Traffic := (t.finish c).activate none

/-- `u` is submitted for `own`. -/
@[simps -fullyApplied]
def launch (u : UrbId) (own : CmndId) : Traffic :=
  { t with inflight := Function.update t.inflight u (some own) }

/-- `u` is given back. -/
@[simps -fullyApplied]
def land (u : UrbId) : Traffic := { t with inflight := Function.update t.inflight u none }

/-- `u` is filled and submitted for `own`, where `rv` is what the submission of an
idle URB returns; when it fails, `c` is completed. -/
def trySubmit (u : UrbId) (rv : Int) (own c : CmndId) : Traffic :=
  if t.inflight u = none then if rv = 0 then t.launch u own else t.finish c
  else { t with done := c :: t.done, clash := u :: u :: t.clash }

/-- The end of `cbw_callback`, where `next` is the URB it goes on with. -/
def followOn (next : Option UrbId) (rv : Int) (own c : CmndId) : Traffic :=
  match next with
  | none => t
  | some u => t.trySubmit u rv own c

end Traffic

namespace State

/-- The traffic of a device. -/
@[simps -fullyApplied]
def traffic (s : State) : Traffic := ⟨s.activeScmd, s.inflight, s.done, s.clash⟩

variable (s : State)

@[simp] lemma traffic_modDev (f : Dev → Dev) : (s.modDev f).traffic = s.traffic := rfl

@[simp] lemma traffic_modUrb (u : UrbId) (f : Urb → Urb) : (s.modUrb u f).traffic = s.traffic := rfl

@[simp] lemma traffic_setBuf (b : BufId) (bs : List UInt8) :
    (s.setBuf b bs).traffic = s.traffic := rfl

@[simp] lemma traffic_modCmnd (c : CmndId) (f : Cmnd → Cmnd) :
    (s.modCmnd c f).traffic = s.traffic := rfl

@[simp] lemma traffic_setActive (c : Option CmndId) :
    (s.setActive c).traffic = s.traffic.activate c := rfl

@[simp] lemma traffic_addDone (c : CmndId) : (s.addDone c).traffic = s.traffic.finish c := rfl

@[simp] lemma traffic_finish (c : CmndId) (r : ℕ) :
    (s.finish c r).traffic = s.traffic.finish c := rfl

/-- Filling an URB and submitting it, with the completion of `c` when the
submission fails. -/
lemma traffic_ready_submit (e : Env) (own c : CmndId) (u : UrbId) (pipe : Pipe) (len : UInt32)
    (cb : Callback) :
    ((s.ready u pipe len cb).submitOrFail e own c u).traffic =
      s.traffic.trySubmit u e.submit own c := by
  cases hu : s.inflight u with
  | none =>
    by_cases hrv : e.submit = 0
    · simp [submitOrFail, submitValue, submit, hu, hrv, Traffic.trySubmit, traffic, ready,
        setInflight, fillBulkUrb, modUrb, noteClash, Traffic.launch]
    · simp [submitOrFail, submitValue, submit, hu, hrv, Traffic.trySubmit, traffic, ready, finish,
        modCmnd, addDone, fillBulkUrb, modUrb, noteClash, Traffic.finish]
  | some o =>
    simp [submitOrFail, submitValue, submit, hu, EBUSY, Traffic.trySubmit, traffic, ready, finish,
      modCmnd, addDone, addClash, fillBulkUrb, modUrb, noteClash]

end State

/-! ## The completion functions -/

/-- `csw_urb` has been filled. -/
def State.StatusFilled (s : State) : Prop := (s.urb .csw).complete ≠ none

instance (s : State) : Decidable s.StatusFilled := inferInstanceAs (Decidable (¬ _ = _))

section Callbacks

variable (e : Env) (own : CmndId) {c : CmndId} {s : State} {u : UrbId} {b : BufId}

namespace State

/-- What `data_callback` and `csw_callback` do about the status of their URB:
complete `c` with `r` when it is bad, and go on. -/
def badStatus (s : State) (u : UrbId) (c : CmndId) (r : ℕ) : State :=
  if (s.urb u).status < 0 then s.finish c r else s

/-- The end of `csw_callback`, which looks at the signature in buffer `b`. -/
def judge (s : State) (c : CmndId) (b : BufId) : State :=
  if (CommandStatusWrapper.ofBytes (s.buf b)).dCSWSignature = CSW_SIG then
    (s.finish c samStatGood).setActive none
  else s.finish c didError

/-- The state after `data_callback` has made up a status wrapper for `c`. -/
def faked (s : State) (c : CmndId) : State :=
  ((s.setBuf .csw (overwrite (s.buf .csw) (fakeCsw s.dev.cbwTag).bytes)).modCmnd c fun x =>
    { x with result := samStatGood }).modUrb .csw fun r =>
      { r with actualLength := .ofNat CSW_LEN, status := 0, context := true }

@[simp] lemma badStatus_buf (r : ℕ) : (s.badStatus u c r).buf = s.buf := by
  unfold badStatus
  split <;> rfl

@[simp] lemma badStatus_urb (r : ℕ) : (s.badStatus u c r).urb = s.urb := by
  unfold badStatus
  split <;> rfl

@[simp] lemma badStatus_dev (r : ℕ) : (s.badStatus u c r).dev = s.dev := by
  unfold badStatus
  split <;> rfl

@[simp] lemma badStatus_activeScmd (r : ℕ) : (s.badStatus u c r).activeScmd = s.activeScmd := by
  unfold badStatus
  split <;> rfl

lemma modCmnd_modCmnd (f g : Cmnd → Cmnd) :
    (s.modCmnd c f).modCmnd c g = s.modCmnd c fun x => g (f x) := by
  simp [modCmnd]

lemma modCmnd_id : s.modCmnd c id = s := by
  simp [modCmnd]

/-- A made-up status wrapper is always judged good. -/
lemma judge_faked :
    (s.faked c).judge c .csw = ((s.faked c).finish c samStatGood).setActive none := by
  have hcsw : CommandStatusWrapper.ofBytes ((s.faked c).buf .csw) = fakeCsw s.dev.cbwTag := by
    simp [faked, overwrite, CommandStatusWrapper.ofBytes_bytes_append]
  simp [judge, hcsw, fakeCsw]

end State

lemma Shape.badStatus (hs : Shape s) (u : UrbId) (c : CmndId) (r : ℕ) :
    Shape (s.badStatus u c r) := by
  unfold State.badStatus
  split
  · exact hs.finish c r
  · exact hs

lemma Shape.faked (hs : Shape s) (c : CmndId) : Shape (s.faked c) :=
  ((hs.setBuf_csw _).modCmnd c _).modUrb .csw fun _ => ⟨rfl, rfl, rfl, rfl, fun _ => rfl⟩

/-- **`csw_callback` on a filled URB.** A bad status completes the command, and
then the signature completes it once more. -/
theorem run_cswCallback (hctx : (s.urb u).context = true) (hbuf : (s.urb u).transferBuffer = some b)
    (hc : s.activeScmd = some c) :
    run (sem e own) (cswCallback u) s = .done () ((s.badStatus u c didError).judge c b) := by
  by_cases hst : (s.urb u).status < 0 <;>
    by_cases hsig : (CommandStatusWrapper.ofBytes (s.buf b)).dCSWSignature = CSW_SIG <;>
    simp [cswCallback, hctx, hbuf, hc, hst, hsig, State.badStatus, State.judge, State.finish]

lemma run_cswCallback_none (hctx : (s.urb u).context = true) (hc : s.activeScmd = none) :
    run (sem e own) (cswCallback u) s = .oops s := by
  by_cases hst : (s.urb u).status < 0
  · simp [cswCallback, hctx, hc, hst]
  · cases hbuf : (s.urb u).transferBuffer <;> simp [cswCallback, hctx, hc, hst, hbuf]

lemma run_cswCallback_unfilled (hctx : (s.urb u).context = true)
    (hbuf : (s.urb u).transferBuffer = none) (hst : ¬ (s.urb u).status < 0) :
    run (sem e own) (cswCallback u) s = .oops s := by
  simp [cswCallback, hctx, hbuf, hst]

/-- The copy and the residue of `data_callback` touch only the command. -/
lemma run_takeData (n : UInt32) :
    run (sem e own) (takeData (some c) n) s = .oops s ∨
      ∃ f, run (sem e own) (takeData (some c) n) s = .done () (s.modCmnd c f) := by
  by_cases hn : 0 < n
  · cases hb : s.dev.buffer .data with
    | none => exact .inl (by simp [takeData, sgCopyFromBuffer, hn, hb])
    | some i =>
      by_cases hlen : n < s.dev.bufferlength
      · exact .inr ⟨_, by
          simp [takeData, sgCopyFromBuffer, hn, hb, hlen, State.modCmnd_modCmnd]
          rfl⟩
      · exact .inr ⟨_, by simp [takeData, sgCopyFromBuffer, hn, hb, hlen]; rfl⟩
  · by_cases hlen : n < s.dev.bufferlength
    · exact .inr ⟨_, by simp [takeData, hn, hlen]; rfl⟩
    · exact .inr ⟨id, by simp [takeData, hn, hlen, State.modCmnd_id]⟩

lemma run_fakeStatus (hs : Shape s) (hc : s.activeScmd = some c) :
    run (sem e own) fakeStatus s = .done () (s.faked c) := by
  simp [fakeStatus, hc, hs.buf_ptr .csw, hs.urb_ptr .csw, State.faked]

/-- After the completion for a bad status `data_callback` takes the data and makes up a status
wrapper. -/
lemma run_dataBody_eq (hctx : (s.urb u).context = true) (hc : s.activeScmd = some c)
    (hd : (s.cmnd c).length ≠ 0) :
    run (sem e own) (dataBody u) s =
      run (sem e own) (takeData (some c) (s.urb u).actualLength >>= fun _ => fakeStatus)
        (s.badStatus u c didAbort) := by
  by_cases hst : (s.urb u).status < 0 <;>
    simp [dataBody, hctx, hc, hd, hst, State.badStatus, State.finish]

/-- The body of `data_callback` either stops at a null data buffer or goes on to make up a
status wrapper. -/
lemma run_dataBody (hs : Shape s) (hctx : (s.urb u).context = true) (hc : s.activeScmd = some c)
    (hd : (s.cmnd c).length ≠ 0) :
    run (sem e own) (dataBody u) s = .oops (s.badStatus u c didAbort) ∨
      ∃ f, run (sem e own) (dataBody u) s =
        .done () (((s.badStatus u c didAbort).modCmnd c f).faked c) := by
  rw [run_dataBody_eq e own hctx hc hd, run_bind]
  -- the null data buffer is the only thing that stops it
  rcases run_takeData e own (s := s.badStatus u c didAbort) (s.urb u).actualLength with
    h | ⟨f, h⟩ <;> rw [h]
  · exact .inl rfl
  · exact .inr ⟨f, run_fakeStatus e own ((hs.badStatus u c didAbort).modCmnd c f) (by simp [hc])⟩

lemma run_dataCallback_none (hctx : (s.urb u).context = true) (hc : s.activeScmd = none) :
    run (sem e own) (dataCallback u) s = .oops s := by
  simp [dataCallback, dataBody, hctx, hc]

/-- For a command without data `data_callback` stops at the null scatter-gather list. -/
lemma run_dataBody_null (hctx : (s.urb u).context = true) (hc : s.activeScmd = some c)
    (hd : (s.cmnd c).length = 0) : run (sem e own) (dataBody u) s = .oops s := by
  simp [dataBody, hctx, hc, hd]

lemma run_dataCallback_null (hctx : (s.urb u).context = true) (hc : s.activeScmd = some c)
    (hd : (s.cmnd c).length = 0) : run (sem e own) (dataCallback u) s = .oops s := by
  rw [dataCallback, run_bind, run_dataBody_null e own hctx hc hd]

/-- On the wrapper that `data_callback` has made up, `csw_callback` completes the command as
good if `csw_urb` has been filled, and stops at its null buffer otherwise. -/
lemma run_cswCallback_faked (hs : Shape s) (hc : s.activeScmd = some c) :
    run (sem e own) (cswCallback .csw) (s.faked c) =
      if s.StatusFilled then .done () (((s.faked c).finish c samStatGood).setActive none)
      else .oops (s.faked c) := by
  have hctx : ((s.faked c).urb .csw).context = true := by simp [State.faked]
  have hst : ¬ ((s.faked c).urb .csw).status < 0 := by simp [State.faked]
  have hc' : (s.faked c).activeScmd = some c := by simp [State.faked, hc]
  have hcomplete : ((s.faked c).urb .csw).complete = (s.urb .csw).complete := by
    simp [State.faked]
  have hurb := (hs.faked c).urb .csw
  by_cases hfilled : s.StatusFilled
  · have hbuf := hurb.buffer (by rwa [hcomplete]) (by decide)
    rw [if_pos hfilled, run_cswCallback e own hctx hbuf hc', State.badStatus, if_neg hst]
    exact congrArg _ State.judge_faked
  · have hbuf := hurb.unfilled (by rw [hcomplete]; exact not_not.1 hfilled)
    rw [if_neg hfilled]
    exact run_cswCallback_unfilled e own hctx hbuf hst

/-- **`data_callback`.** After the completion for a bad status it either stops at
a null pointer or, if `csw_urb` has been filled, completes the command as good, whatever the
device did. -/
theorem run_dataCallback (hs : Shape s) (hctx : (s.urb u).context = true)
    (hc : s.activeScmd = some c) (hd : (s.cmnd c).length ≠ 0) :
    (∃ s', run (sem e own) (dataCallback u) s = .oops s' ∧
      s'.traffic = (s.badStatus u c didAbort).traffic) ∨
    s.StatusFilled ∧ ∃ f, run (sem e own) (dataCallback u) s = .done ()
      (((((s.badStatus u c didAbort).modCmnd c f).faked c).finish c samStatGood).setActive
        none) := by
  rw [dataCallback, run_bind]
  rcases run_dataBody e own hs hctx hc hd with h | ⟨f, h⟩ <;> rw [h]
  · exact .inl ⟨_, rfl, rfl⟩
  · have hs₁ : Shape ((s.badStatus u c didAbort).modCmnd c f) :=
      (hs.badStatus u c didAbort).modCmnd c f
    have hsame : ((s.badStatus u c didAbort).modCmnd c f).StatusFilled ↔ s.StatusFilled := by
      simp [State.StatusFilled]
    simp only [run_cswCallback_faked e own (c := c) hs₁ (by simp [hc]), hsame]
    by_cases hfilled : s.StatusFilled
    · exact .inr ⟨hfilled, f, if_pos hfilled⟩
    · exact .inl ⟨_, if_neg hfilled, rfl⟩

/-- Between `s` and `s'` command `c` was completed as good on a made-up status
wrapper. -/
structure MadeUp (s s' : State) (c : CmndId) : Prop where
  buf : s'.buf .csw = overwrite (s.buf .csw) (fakeCsw s.dev.cbwTag).bytes
  good : (s'.cmnd c).result = samStatGood

lemma madeUp_faked {s s₁ : State} (hbuf : s₁.buf = s.buf) (hdev : s₁.dev = s.dev) (c : CmndId) :
    MadeUp s (((s₁.faked c).finish c samStatGood).setActive none) c :=
  ⟨by simp [State.faked, State.finish, hbuf, hdev], by simp [State.finish]⟩

/-! ## The continuation of a command -/

/-- The URB that `cbw_callback` goes on with. -/
def Dev.nextUrb (d : Dev) : Option UrbId :=
  if 0 < d.bufferlength then (if d.direction = .dmaToDevice then some .data else none)
  else some .csw

lemma run_submit_data (hs : Shape s) (hc : s.activeScmd = some c) (hlen : 0 < s.dev.bufferlength)
    (hdir : s.dev.direction = .dmaToDevice) :
    run (sem e own) submitDataOrCsw s = .done () ((s.ready .data ⟨false, s.dev.bulkOutEndpointaddr⟩
      s.dev.bufferlength .dataCallback).submitOrFail e own c .data) := by
  simp [submitDataOrCsw, hlen, hdir, hs.urb_ptr, State.fillBulkUrb, hc, State.ready, UrbId.buf]

lemma run_submit_csw (hs : Shape s) (hc : s.activeScmd = some c) (hlen : ¬ 0 < s.dev.bufferlength) :
    run (sem e own) submitDataOrCsw s = .done () ((s.ready .csw ⟨true, s.dev.bulkInEndpointaddr⟩
      (.ofNat CSW_LEN) .cswCallback).submitOrFail e own c .csw) := by
  simp [submitDataOrCsw, hlen, hs.urb_ptr, State.fillBulkUrb, hc, State.ready, UrbId.buf]

/-- The end of `cbw_callback` fills and submits the next URB, if there is one. -/
lemma traffic_submitDataOrCsw (hs : Shape s) (hc : s.activeScmd = some c) :
    ∃ s', run (sem e own) submitDataOrCsw s = .done () s' ∧
      s'.traffic = s.traffic.followOn s.dev.nextUrb e.submit own c := by
  by_cases hlen : 0 < s.dev.bufferlength
  · by_cases hto : s.dev.direction = .dmaToDevice
    · exact ⟨_, run_submit_data e own hs hc hlen hto, by
        simp [State.traffic_ready_submit, Dev.nextUrb, hlen, hto, Traffic.followOn]⟩
    · by_cases hfrom : s.dev.direction = .dmaFromDevice
      · simp [submitDataOrCsw, hlen, hfrom, hs.urb_ptr, Dev.nextUrb, Traffic.followOn]
      · simp [submitDataOrCsw, hlen, hto, hfrom, Dev.nextUrb, Traffic.followOn]
  · exact ⟨_, run_submit_csw e own hs hc hlen, by
      simp [State.traffic_ready_submit, Dev.nextUrb, hlen, Traffic.followOn]⟩

/-! ## cbw_callback -/

/-- The first byte of the descriptor block in the buffer of a CBW URB. -/
def State.opcode (s : State) (u : UrbId) : UInt8 :=
  (CommandBlockWrapper.ofBytes (s.buf u.buf)).cdb 0

/-- INQUIRY stores bytes of a table and the residue, and calls `data_callback` on a
`data_urb` that looks successful. -/
lemma run_inquiry_stores (hs : Shape s) (hc : s.activeScmd = some c) (length len : UInt32)
    (evpd : UInt8) :
    ∃ bs, run (sem e own) (inquiry c length len evpd) s = run (sem e own) (dataCallback .data)
      ((s.modCmnd c fun x =>
        { x.store bs with resid := length - len, result := samStatGood }).modUrb .data fun r =>
          { r with actualLength := len, status := 0, context := true }) := by
  by_cases hevpd : evpd = 0
  · obtain ⟨bs, hbs⟩ := run_readTable e own s fakeInquiryResponse len.toNat
    exact ⟨bs, by simp [inquiry, hevpd, hbs, hc, hs.urb_ptr, State.modCmnd_modCmnd]⟩
  · obtain ⟨bs, hbs⟩ := run_readTable e own s vpdPage00
      (min len.toNat vpdPage00.length)
    exact ⟨bs, by simp [inquiry, hevpd, hbs, hc, hs.urb_ptr, State.modCmnd_modCmnd]⟩

lemma run_inquiry (hs : Shape s) (hc : s.activeScmd = some c) (length len : UInt32) (evpd : UInt8) :
    ∃ f, ((s.modCmnd c f).cmnd c).length = (s.cmnd c).length ∧
      run (sem e own) (inquiry c length len evpd) s = run (sem e own) (dataCallback .data)
        ((s.modCmnd c f).modUrb .data fun r =>
          { r with actualLength := len, status := 0, context := true }) := by
  obtain ⟨bs, h⟩ := run_inquiry_stores e own hs hc length len evpd
  exact ⟨_, by simp [Cmnd.store], h⟩

/-- REQUEST SENSE completes its command. -/
lemma run_requestSense (hc : s.activeScmd = some c) (length len : UInt32) :
    ∃ f, run (sem e own) (requestSense c length len) s = .done () ((s.modCmnd c f).addDone c) := by
  obtain ⟨bs, hbs⟩ := run_readTable e own s noSenseResponse len.toNat
  exact ⟨_, by simp [requestSense, hbs, hc, State.modCmnd_modCmnd]; rfl⟩

lemma run_testUnitReady (hc : s.activeScmd = some c) :
    ∃ f, run (sem e own) testUnitReady s = .done () (s.modCmnd c f) :=
  ⟨_, by simp [testUnitReady, hc, State.modCmnd_modCmnd]; rfl⟩

lemma run_cbwCallback_none (hctx : (s.urb u).context = true) (hc : s.activeScmd = none) :
    run (sem e own) (cbwCallback u) s = .oops s := by
  simp [cbwCallback, hctx, hc]

/-- For a command without data `cbw_callback` stops at the null scatter-gather list. -/
lemma run_cbwCallback_null (hctx : (s.urb u).context = true) (hc : s.activeScmd = some c)
    (hd : (s.cmnd c).length = 0) : run (sem e own) (cbwCallback u) s = .oops s := by
  simp [cbwCallback, hctx, hc, hd]

section Cbw

variable (hs : Shape s) (hu : u.callback = .cbwCallback) (hfilled : (s.urb u).complete ≠ none)
  (hc : s.activeScmd = some c) (hd : (s.cmnd c).length ≠ 0)

include hs hfilled hc hd

/-- A bad status completes the active command. -/
lemma run_cbwCallback_bad (hst : (s.urb u).status < 0) :
    run (sem e own) (cbwCallback u) s = .done () (s.finish c didError) := by
  simp [cbwCallback, (hs.complete_eq hfilled).2, hc, hd, hst, State.finish]

include hu

/-- The rest of `cbw_callback` when the status is good: the wrapper in the buffer
has a signature, so the opcode decides. -/
lemma run_cbwCallback_good (hst : ¬ (s.urb u).status < 0) :
    run (sem e own) (cbwCallback u) s =
      let len := min (s.cmnd c).length s.dev.bufferlength
      if s.opcode u = 0x12 then
        run (sem e own) (inquiry c (s.cmnd c).length len
          ((CommandBlockWrapper.ofBytes (s.buf u.buf)).cdb 1)) s
      else if s.opcode u = 0x00 then
        run (sem e own) (testUnitReady >>= fun _ => submitDataOrCsw) s
      else if s.opcode u = 0x03 then
        run (sem e own) (requestSense c (s.cmnd c).length len >>= fun _ => submitDataOrCsw) s
      else run (sem e own) submitDataOrCsw s := by
  have hdata : u ≠ .data := by
    rintro rfl
    cases hu
  have hbuf := (hs.urb u).buffer hfilled hdata
  simp [cbwCallback, (hs.complete_eq hfilled).2, hc, hd, hst, hbuf, hs.signature u hu hfilled,
    State.opcode]

/-- **`cbw_callback` for INQUIRY** stops at a null pointer or, if `csw_urb` has been filled,
completes the command without asking the device anything. -/
theorem traffic_cbwCallback_inquiry (hst : ¬ (s.urb u).status < 0) (hop : s.opcode u = 0x12) :
    (∃ s', run (sem e own) (cbwCallback u) s = .oops s' ∧ s'.traffic = s.traffic) ∨
      s.StatusFilled ∧ ∃ s', run (sem e own) (cbwCallback u) s = .done () s' ∧
        s'.traffic = s.traffic.settle c ∧ MadeUp s s' c := by
  rw [run_cbwCallback_good e own hs hu hfilled hc hd hst, if_pos hop]
  obtain ⟨f, hlength, hrun⟩ := run_inquiry e own hs hc (s.cmnd c).length
    (min (s.cmnd c).length s.dev.bufferlength) ((CommandBlockWrapper.ofBytes (s.buf u.buf)).cdb 1)
  rw [hrun]
  have hs' := (hs.modCmnd c f).modUrb .data (f := fun r =>
    { r with
      actualLength := min (s.cmnd c).length s.dev.bufferlength, status := 0, context := true })
    fun _ => ⟨rfl, rfl, rfl, rfl, fun _ => rfl⟩
  have hd' : (((s.modCmnd c f).modUrb .data fun r =>
      { r with
        actualLength := min (s.cmnd c).length s.dev.bufferlength, status := 0,
        context := true }).cmnd c).length ≠ 0 := by
    rw [State.modUrb_cmnd, hlength]
    exact hd
  rcases run_dataCallback e own (u := .data) hs' (by simp) hc hd' with
    ⟨s', hrun', ht⟩ | ⟨hF, g, hrun'⟩
  · exact .inl ⟨s', hrun', by simpa [State.badStatus] using ht⟩
  · refine .inr ⟨by simpa [State.StatusFilled] using hF, _, hrun',
      by simp [State.badStatus, State.faked]; rfl, madeUp_faked ?_ ?_ c⟩ <;>
      simp [State.badStatus]

/-- For everything else `cbw_callback` ends with the submission of the next URB,
in a state where only commands and the calls of `scsi_done` have changed. -/
lemma run_cbwCallback_rest (hst : ¬ (s.urb u).status < 0) (hop : s.opcode u ≠ 0x12) :
    ∃ s₁, run (sem e own) (cbwCallback u) s = run (sem e own) submitDataOrCsw s₁ ∧ Shape s₁ ∧
      s₁.activeScmd = some c ∧ s₁.dev = s.dev ∧ s₁.urb = s.urb ∧ s₁.dmaMem = s.dmaMem ∧
      s₁.traffic = if s.opcode u = 0x03 then s.traffic.finish c else s.traffic := by
  rw [run_cbwCallback_good e own hs hu hfilled hc hd hst, if_neg hop]
  by_cases h0 : s.opcode u = 0x00
  · obtain ⟨f, hrun⟩ := run_testUnitReady e own hc
    exact ⟨s.modCmnd c f, by simp [h0, hrun], hs.modCmnd c f, hc, rfl, rfl, rfl, by simp [h0]⟩
  · by_cases h3 : s.opcode u = 0x03
    · obtain ⟨f, hrun⟩ := run_requestSense e own hc (s.cmnd c).length
        (min (s.cmnd c).length s.dev.bufferlength)
      exact ⟨(s.modCmnd c f).addDone c, by simp [h3, hrun], (hs.modCmnd c f).addDone c, hc, rfl,
        rfl, rfl, by simp [h3]⟩
    · exact ⟨s, by simp [h0, h3], hs, hc, rfl, rfl, rfl, by simp [h3]⟩

/-- **`cbw_callback` for everything else** goes on with the next URB, after
REQUEST SENSE has completed the command. -/
theorem traffic_cbwCallback (hst : ¬ (s.urb u).status < 0) (hop : s.opcode u ≠ 0x12) :
    ∃ s', run (sem e own) (cbwCallback u) s = .done () s' ∧
      s'.traffic = (if s.opcode u = 0x03 then s.traffic.finish c else s.traffic).followOn
        s.dev.nextUrb e.submit own c := by
  obtain ⟨s₁, hrun, hs₁, hc₁, hdev, -, -, ht⟩ :=
    run_cbwCallback_rest e own hs hu hfilled hc hd hst hop
  obtain ⟨s', hrun', ht'⟩ := traffic_submitDataOrCsw e own hs₁ hc₁
  exact ⟨s', hrun.trans hrun', by rw [ht', ht, hdev]⟩

end Cbw

end Callbacks

/-! ## Completions -/

namespace Traffic

variable (t : Traffic)

/-- What a completion function does first about the status of its URB. -/
def badStatus (st : Int) (c : CmndId) : Traffic := if st < 0 then t.finish c else t

@[simp] lemma badStatus_inflight (st : Int) (c : CmndId) :
    (t.badStatus st c).inflight = t.inflight := by
  unfold badStatus
  split <;> rfl

@[simp] lemma badStatus_clash (st : Int) (c : CmndId) : (t.badStatus st c).clash = t.clash := by
  unfold badStatus
  split <;> rfl

/-- The part of `cbw_callback` that depends on the opcode. -/
def sense (op : UInt8) (c : CmndId) : Traffic := if op = 0x03 then t.finish c else t

end Traffic

lemma State.traffic_badStatus (s : State) (u : UrbId) (c : CmndId) (r : ℕ) :
    (s.badStatus u c r).traffic = s.traffic.badStatus (s.urb u).status c := by
  unfold State.badStatus Traffic.badStatus
  split <;> rfl

@[simp] lemma State.traffic_giveBack (s : State) (u : UrbId) (st : Int) (n : UInt32)
    (received : List UInt8) : (s.giveBack u st n received).traffic = s.traffic.land u := by
  simp only [State.giveBack, State.receive]
  split <;> rfl

section Completions

variable (e : Env) (st : Int) (n : UInt32) (received : List UInt8) {o c : CmndId} {s : State}
  {u : UrbId} (hs : Shape s) (hu : s.inflight u = some o)

include hs hu

/-- An URB that is given back runs its own completion function. -/
lemma giveBack_filled : ((s.giveBack u st n received).urb u).complete = some u.callback ∧
    ((s.giveBack u st n received).urb u).context = true := by
  simpa using hs.complete_eq (hs.filled u (by simp [hu]))

lemma complete_eq : runCallback e u o (s.giveBack u st n received) =
    run (sem e o) (u.callback.body u) (s.giveBack u st n received) :=
  runCallback_eq (giveBack_filled st n received hs hu).1

/-- Without an active command every completion function stops at the null pointer. -/
lemma complete_none (hc : s.activeScmd = none) :
    runCallback e u o (s.giveBack u st n received) = .oops (s.giveBack u st n received) := by
  have hctx := (giveBack_filled st n received hs hu).2
  have hc' : (s.giveBack u st n received).activeScmd = none :=
    (congrArg Traffic.active (s.traffic_giveBack u st n received)).trans hc
  rw [complete_eq e st n received hs hu]
  cases u.callback with
  | cbwCallback => exact run_cbwCallback_none e o hctx hc'
  | dataCallback => exact run_dataCallback_none e o hctx hc'
  | cswCallback => exact run_cswCallback_none e o hctx hc'

variable (hc : s.activeScmd = some c)

include hc

omit hs hu in
private lemma giveBack_active : (s.giveBack u st n received).activeScmd = some c :=
  (congrArg Traffic.active (s.traffic_giveBack u st n received)).trans hc

/-- `csw_urb` completes the active command, for a bad status twice. -/
theorem complete_csw (hcb : u = .csw) : runCallback e u o (s.giveBack u st n received) =
    .done () (((s.giveBack u st n received).badStatus u c didError).judge c .csw) := by
  subst hcb
  rw [complete_eq e st n received hs hu]
  have hbuf : (s.urb .csw).transferBuffer = some .csw :=
    (hs.urb .csw).buffer (hs.filled .csw (by simp [hu])) (by simp)
  exact run_cswCallback e o (giveBack_filled st n received hs hu).2 (by simpa using hbuf)
    (giveBack_active st n received hc)

/-- Without data of the active command the other two completion functions stop at the null
scatter-gather list. -/
lemma complete_null (hcb : u ≠ .csw) (hd : (s.cmnd c).length = 0) :
    runCallback e u o (s.giveBack u st n received) = .oops (s.giveBack u st n received) := by
  have hctx := (giveBack_filled st n received hs hu).2
  have hc' := giveBack_active st n received (u := u) hc
  have hd' : ((s.giveBack u st n received).cmnd c).length = 0 := by simpa using hd
  rw [complete_eq e st n received hs hu]
  cases h : u.callback with
  | cbwCallback => exact run_cbwCallback_null e o hctx hc' hd'
  | dataCallback => exact run_dataCallback_null e o hctx hc' hd'
  | cswCallback => cases u <;> simp [UrbId.callback] at h hcb

lemma traffic_complete_csw (hcb : u = .csw) :
    ∃ s', runCallback e u o (s.giveBack u st n received) = .done () s' ∧
      (s'.traffic = ((s.traffic.land u).badStatus st c).settle c ∨
        s'.traffic = ((s.traffic.land u).badStatus st c).finish c) := by
  refine ⟨_, complete_csw e st n received hs hu hc hcb, ?_⟩
  unfold State.judge
  split
  · exact .inl (by simp [State.traffic_badStatus]; rfl)
  · exact .inr (by simp [State.traffic_badStatus])

omit hs hu hc in
lemma statusFilled_giveBack : (s.giveBack u st n received).StatusFilled ↔ s.StatusFilled := by
  by_cases hcsw : .csw = u
  · subst hcsw
    simp [State.StatusFilled]
  · simp [State.StatusFilled, State.giveBack, hcsw]

/-- `data_urb` completes the active command, for a bad status twice, unless a
pointer on the way is null. -/
theorem complete_data (hcb : u = .data) (hd : (s.cmnd c).length ≠ 0) :
    (∃ s', runCallback e u o (s.giveBack u st n received) = .oops s' ∧
      s'.traffic = (s.traffic.land u).badStatus st c) ∨
    s.StatusFilled ∧ ∃ s', runCallback e u o (s.giveBack u st n received) = .done () s' ∧
      s'.traffic = ((s.traffic.land u).badStatus st c).settle c ∧ MadeUp s s' c := by
  subst hcb
  rw [complete_eq e st n received hs hu]
  rcases run_dataCallback e o (hs.giveBack .data st n received)
    (giveBack_filled st n received hs hu).2 (giveBack_active st n received hc)
    (by simpa using hd) with ⟨s', hrun, ht⟩ | ⟨hF, f, hrun⟩
  · exact .inl ⟨s', hrun, by simpa [State.traffic_badStatus] using ht⟩
  · refine .inr ⟨(statusFilled_giveBack st n received).1 hF, _, hrun, ?_, madeUp_faked ?_ ?_ c⟩
    · simp [State.faked, State.traffic_badStatus]
      rfl
    · simp [hs.giveBack_buf]
    · simp

section Cbw

variable (hcb : u.callback = .cbwCallback)

include hcb

omit hu hc in
lemma opcode_giveBack : (s.giveBack u st n received).opcode u = s.opcode u := by
  have hbuf : u.buf ≠ .csw := by cases u <;> simp [UrbId.callback, UrbId.buf] at hcb ⊢
  rw [State.opcode, (hs.frame_giveBack u st n received).buf _ hbuf]
  rfl

variable (hd : (s.cmnd c).length ≠ 0)

include hd

/-- A CBW URB with a bad status completes the active command. -/
theorem complete_cbw_bad (hst : st < 0) :
    ∃ s', runCallback e u o (s.giveBack u st n received) = .done () s' ∧
      s'.traffic = (s.traffic.land u).finish c := by
  obtain ⟨hfilled, hctx⟩ := giveBack_filled st n received hs hu
  refine ⟨(s.giveBack u st n received).finish c didError, ?_, by simp⟩
  rw [complete_eq e st n received hs hu, hcb]
  exact run_cbwCallback_bad e o (hs.giveBack u st n received) (by rw [hfilled]; simp)
    (giveBack_active st n received hc) (by simpa using hd) (by simpa using hst)

/-- After the CBW of INQUIRY the active command is completed at once. -/
theorem complete_cbw_inquiry (hst : ¬ st < 0) (hop : s.opcode u = 0x12) :
    (∃ s', runCallback e u o (s.giveBack u st n received) = .oops s' ∧
      s'.traffic = s.traffic.land u) ∨
    s.StatusFilled ∧ ∃ s', runCallback e u o (s.giveBack u st n received) = .done () s' ∧
      s'.traffic = (s.traffic.land u).settle c ∧ MadeUp s s' c := by
  obtain ⟨hfilled, hctx⟩ := giveBack_filled st n received hs hu
  have hbuf := hs.giveBack_buf (u := u) (by rintro rfl; cases hcb) st n received
  rw [complete_eq e st n received hs hu, hcb, ← s.traffic_giveBack u st n received]
  refine (traffic_cbwCallback_inquiry e o (hs.giveBack u st n received) hcb (by rw [hfilled]; simp)
    (giveBack_active st n received hc) (by simpa using hd) (by simpa using hst)
    ((opcode_giveBack st n received hs hcb).trans hop)).imp_right ?_
  rintro ⟨hF, s', hrun, ht, hmade, hgood⟩
  exact ⟨(statusFilled_giveBack st n received).1 hF, s', hrun, ht, by simpa [hbuf] using hmade,
    hgood⟩

/-- After any other CBW the device goes on with the next URB. -/
theorem complete_cbw (hst : ¬ st < 0) (hop : s.opcode u ≠ 0x12) :
    ∃ s', runCallback e u o (s.giveBack u st n received) = .done () s' ∧
      s'.traffic = ((s.traffic.land u).sense (s.opcode u) c).followOn s.dev.nextUrb
        e.submit o c := by
  obtain ⟨hfilled, hctx⟩ := giveBack_filled st n received hs hu
  have hop' := opcode_giveBack st n received hs hcb
  rw [complete_eq e st n received hs hu, hcb]
  obtain ⟨s', hrun, ht⟩ := traffic_cbwCallback e o (hs.giveBack u st n received) hcb
    (by rw [hfilled]; simp) (giveBack_active st n received hc) (by simpa using hd)
    (by simpa using hst) (by rwa [hop'])
  exact ⟨s', hrun, by simpa [hop', Traffic.sense] using ht⟩

end Cbw

end Completions

/-- The moves of a completion of `u` with status `st`, submitted for `o` while `c`
is active: `t` is the traffic after `u` has been given back, `op` the opcode in the
buffer of a CBW URB, `next` the URB that follows it, and `rv` what submitting that
one returns.  `data` says that `c` has data, and `filled` that `csw_urb` has been filled. -/
inductive Traffic.Completes (u : UrbId) (st : Int) (op : UInt8) (next : Option UrbId) (rv : Int)
    (o c : CmndId) (data filled : Prop) (t : Traffic) : Outcome Traffic Unit → Prop where
  | null (hu : u ≠ .csw) (hd : ¬ data) : Completes u st op next rv o c data filled t (.oops t)
  | cbwBad (hu : u.callback = .cbwCallback) (hd : data) (hst : st < 0) :
      Completes u st op next rv o c data filled t (.done () (t.finish c))
  | inquiryFault (hu : u.callback = .cbwCallback) (hst : ¬ st < 0) (hop : op = 0x12) :
      Completes u st op next rv o c data filled t (.oops t)
  | inquiry (hu : u.callback = .cbwCallback) (hst : ¬ st < 0) (hop : op = 0x12)
      (hfilled : filled) : Completes u st op next rv o c data filled t (.done () (t.settle c))
  | cbw (hu : u.callback = .cbwCallback) (hd : data) (hst : ¬ st < 0) (hop : op ≠ 0x12) :
      Completes u st op next rv o c data filled t (.done () ((t.sense op c).followOn next rv o c))
  | dataFault (hu : u = .data) :
      Completes u st op next rv o c data filled t (.oops (t.badStatus st c))
  | data (hu : u = .data) (hfilled : filled) :
      Completes u st op next rv o c data filled t (.done () ((t.badStatus st c).settle c))
  | cswGood (hu : u = .csw) (hfilled : filled) :
      Completes u st op next rv o c data filled t (.done () ((t.badStatus st c).settle c))
  | cswBad (hu : u = .csw) (hfilled : filled) :
      Completes u st op next rv o c data filled t (.done () ((t.badStatus st c).finish c))

/-- **Completions are moves of the traffic.** -/
theorem traffic_complete (e : Env) (st : Int) (n : UInt32) (received : List UInt8) {o c : CmndId}
    {s : State} {u : UrbId} (hs : Shape s) (hu : s.inflight u = some o)
    (hc : s.activeScmd = some c) :
    Traffic.Completes u st (s.opcode u) s.dev.nextUrb e.submit o c ((s.cmnd c).length ≠ 0)
      s.StatusFilled (s.traffic.land u)
      ((runCallback e u o (s.giveBack u st n received)).map State.traffic) := by
  by_cases hcsw : u = .csw
  · have hfilled : s.StatusFilled := hs.filled .csw (by rw [← hcsw, hu]; simp)
    obtain ⟨s', hrun, ht | ht⟩ := traffic_complete_csw e st n received hs hu hc hcsw <;>
      rw [hrun, Outcome.map, ht]
    · exact .cswGood hcsw hfilled
    · exact .cswBad hcsw hfilled
  by_cases hd : (s.cmnd c).length = 0
  · rw [complete_null e st n received hs hu hc hcsw hd, Outcome.map, State.traffic_giveBack]
    exact .null hcsw (not_not.2 hd)
  cases hcb : u.callback with
  | cbwCallback =>
    by_cases hst : st < 0
    · obtain ⟨s', hrun, ht⟩ := complete_cbw_bad e st n received hs hu hc hcb hd hst
      rw [hrun, Outcome.map, ht]
      exact .cbwBad hcb hd hst
    · by_cases hop : s.opcode u = 0x12
      · rcases complete_cbw_inquiry e st n received hs hu hc hcb hd hst hop with
          ⟨s', hrun, ht⟩ | ⟨hfilled, s', hrun, ht, -⟩ <;> rw [hrun, Outcome.map, ht]
        · exact .inquiryFault hcb hst hop
        · exact .inquiry hcb hst hop hfilled
      · obtain ⟨s', hrun, ht⟩ := complete_cbw e st n received hs hu hc hcb hd hst hop
        rw [hrun, Outcome.map, ht]
        exact .cbw hcb hd hst hop
  | dataCallback =>
    have hdata : u = .data := by cases u <;> simp [UrbId.callback] at hcb ⊢
    rcases complete_data e st n received hs hu hc hdata hd with
      ⟨s', hrun, ht⟩ | ⟨hfilled, s', hrun, ht, -⟩ <;> rw [hrun, Outcome.map, ht]
    · exact .dataFault hdata
    · exact .data hdata hfilled
  | cswCallback => cases u <;> simp [UrbId.callback] at hcb hcsw

namespace Traffic

/-- Everything that happened between `t` and `t'` was done for the command that is
active in `t`. -/
structure Serves (t t' : Traffic) : Prop where
  active : t'.active = t.active ∨ t'.active = none
  done : ∀ c ∈ t'.done, c ∈ t.done ∨ t.active = some c

namespace Serves

lemma refl (t : Traffic) : t.Serves t := ⟨.inl rfl, fun _ => .inl⟩

lemma trans {t₁ t₂ t₃ : Traffic} (h : t₁.Serves t₂) (h' : t₂.Serves t₃) : t₁.Serves t₃ where
  active := by
    rcases h'.active with ha | ha
    · exact ha ▸ h.active
    · exact .inr ha
  done c hc := by
    rcases h'.done c hc with hd | ha
    · exact h.done c hd
    · rcases h.active with h₂ | h₂
      · exact .inr (h₂ ▸ ha)
      · rw [h₂] at ha
        cases ha

end Serves

variable {t : Traffic} {c : CmndId}

lemma serves_finish (hc : t.active = some c) : t.Serves (t.finish c) :=
  ⟨.inl rfl, fun _ hx => (List.mem_cons.1 hx).elim (fun h => .inr (h ▸ hc)) .inl⟩

lemma serves_settle (hc : t.active = some c) : t.Serves (t.settle c) :=
  ⟨.inr rfl, (serves_finish hc).done⟩

lemma serves_badStatus (hc : t.active = some c) (st : Int) : t.Serves (t.badStatus st c) := by
  unfold badStatus
  split
  · exact serves_finish hc
  · exact .refl t

lemma serves_followOn (hc : t.active = some c) (next : Option UrbId) (rv : Int) (o : CmndId) :
    t.Serves (t.followOn next rv o c) := by
  cases next with
  | none => exact .refl t
  | some u =>
    rw [followOn, trySubmit]
    split
    · split
      · exact ⟨.inl rfl, fun _ => .inl⟩
      · exact serves_finish hc
    · exact ⟨.inl rfl, (serves_finish hc).done⟩

@[simp] lemma badStatus_active (st : Int) (c : CmndId) : (t.badStatus st c).active = t.active := by
  unfold badStatus
  split <;> rfl

@[simp] lemma sense_active (op : UInt8) (c : CmndId) : (t.sense op c).active = t.active := by
  unfold sense
  split <;> rfl

lemma Completes.serves {u : UrbId} {st : Int} {op : UInt8} {next : Option UrbId} {rv : Int}
    {o : CmndId} {data filled : Prop} {out : Outcome Traffic Unit}
    (h : Completes u st op next rv o c data filled t out) (hc : t.active = some c) :
    t.Serves out.state := by
  have hbad : (t.badStatus st c).active = some c := (badStatus_active ..).trans hc
  cases h with
  | null | inquiryFault => exact .refl t
  | cbwBad => exact serves_finish hc
  | inquiry => exact serves_settle hc
  | cbw hu hd hst hop =>
    have hsense : t.Serves (t.sense op c) := by
      unfold sense
      split
      · exact serves_finish hc
      · exact .refl t
    exact hsense.trans (serves_followOn ((sense_active ..).trans hc) next rv o)
  | dataFault => exact serves_badStatus hc st
  | data | cswGood => exact (serves_badStatus hc st).trans (serves_settle hbad)
  | cswBad => exact (serves_badStatus hc st).trans (serves_finish hbad)

/-- A completion with a bad status submits nothing. -/
lemma Completes.bad {u : UrbId} {st : Int} {op : UInt8} {next : Option UrbId} {rv : Int}
    {o : CmndId} {data filled : Prop} {out : Outcome Traffic Unit}
    (h : Completes u st op next rv o c data filled t out) (hst : st < 0) :
    out.state.inflight = t.inflight ∧ out.state.clash = t.clash := by
  cases h with
  | null | cbwBad => exact ⟨rfl, rfl⟩
  | inquiryFault _ h | inquiry _ h | cbw _ _ h => exact absurd hst h
  | dataFault | data | cswGood | cswBad => simp

end Traffic

end KernelDriverLab.UsbV1
