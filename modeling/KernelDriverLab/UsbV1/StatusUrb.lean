import KernelDriverLab.UsbV1.Accesses
import KernelDriverLab.UsbV1.CarriedCommand

/-!
# The status URB before it is parsed

`csw_callback` follows the buffer pointer of `csw_urb`.  Only one path of `cbw_callback` fills
that URB, for a command without data, and no such command gets there: `cbw_callback` stops at its
null scatter-gather list.  `data_callback` calls `csw_callback` all the same.  `filled_along_iff`
says in which runs it is not called.
-/

namespace KernelDriverLab.UsbV1

open Lib Prog

/-! ## What a reading of the status wrapper asks for -/

/-- A status wrapper is read only when `csw_urb` has been filled, and from `csw_buffer`. -/
def Op.Filled (o : Op) (s : State) : Prop := ∀ p ∈ o.parses, s.StatusFilled ∧ p = some .csw

instance (o : Op) (s : State) : Decidable (o.Filled s) :=
  inferInstanceAs (Decidable (∀ p ∈ _, _))

/-- In the completion function of `u`, called for command `o`, every status wrapper is read from
a filled `csw_urb`. -/
def State.CompletesFilled (s : State) (e : Env) (u : UrbId) (o : CmndId) : Prop :=
  ∀ cb ∈ (s.urb u).complete, (cb.body u).Throughout (sem e o) Op.Filled s

instance (s : State) (e : Env) (u : UrbId) (o : CmndId) : Decidable (s.CompletesFilled e u o) :=
  inferInstanceAs (Decidable (∀ cb ∈ _, _))

/-- The same for an operation of an error handler, which may run a completion function. -/
def Op.KillFilled (e : Env) (o : Op) (s : State) : Prop :=
  o.Filled s ∧ ∀ u ∈ o.kills, ∀ c ∈ s.inflight u,
    (s.giveBack u (-ENOENT) 0 []).CompletesFilled e u c

instance (e : Env) (o : Op) (s : State) : Decidable (o.KillFilled e s) :=
  inferInstanceAs (Decidable (_ ∧ ∀ u ∈ _, ∀ c ∈ _, _))

/-- In a call every status wrapper is read from a filled `csw_urb`. -/
def Filled (k : Config) : Call → Prop
  | .queueCommand c e => (queueCommand c).Throughout (sem e c) Op.Filled k.drv
  | .complete u st n received e =>
      ∀ o ∈ k.drv.inflight u, (k.drv.giveBack u st n received).CompletesFilled e u o
  | .handler h c e => (h.body c).Throughout (killSem e c) (Op.KillFilled e) k.drv

instance (k : Config) : (l : Call) → Decidable (Filled k l)
  | .queueCommand _ _ | .handler _ _ _ => Throughout.decidable _ _
  | .complete _ _ _ _ _ => inferInstanceAs (Decidable (∀ o ∈ _, _))

/-! ## Programs that leave the status URB alone -/

/-- The operation reads no status wrapper. -/
@[simp] def Op.NoParse (o : Op) : Prop := o.parses = none

/-- The operation neither fills nor empties `csw_urb`. -/
@[simp] def Op.KeepsStatus : Op → Prop
  | writeUrb _ f => ∀ r, (f r).complete = r.complete
  | usbFillBulkUrb u _ _ _ _ | usbAllocUrb u => u ≠ .csw
  | _ => True

/-- Both. -/
@[simp] def Op.Quiet (o : Op) : Prop := o.NoParse ∧ o.KeepsStatus

lemma Op.NoParse.filled {o : Op} (ho : o.NoParse) (s : State) : o.Filled s := by
  simp [Op.Filled, show o.parses = none from ho]

lemma Op.Direct.filled (o : Op) (s : State) (ho : o.Direct) : o.Filled s :=
  Op.NoParse.filled ho.2.2 s

section Quiet

lemma Op.Routine.keepsStatus {o : Op} (ho : o.Routine) : o.KeepsStatus := by
  cases ho <;> simp

lemma quiet_queueCommand (c : CmndId) : All Op.Quiet (queueCommand c) := by
  have hcsw (n : ℕ) : cbwUrb n ≠ .csw := by
    unfold cbwUrb
    split <;> decide
  refine all_queueCommand (fun o ho => ⟨ho.direct.2.2, ho.keepsStatus⟩) fun o ho => ?_
  cases ho <;> simp [hcsw, Op.parses]

lemma keepsStatus_cswCallback (u : UrbId) : All Op.KeepsStatus (cswCallback u) :=
  all_cswCallback (fun _ ho => ho.keepsStatus) (by simp) (by simp) u

lemma keepsStatus_dataCallback (u : UrbId) : All Op.KeepsStatus (dataCallback u) :=
  all_dataCallback (fun _ ho => ho.keepsStatus) (by simp) (by simp) (by simp) u

lemma keepsStatus_inquiry (c : CmndId) (length len : UInt32) (evpd : UInt8) :
    All Op.KeepsStatus (inquiry c length len evpd) :=
  all_inquiry (fun _ ho => ho.keepsStatus) (by simp) (keepsStatus_dataCallback .data) c length len
    evpd

end Quiet

section Keeps

variable {e : Env} {own : CmndId} {s : State} {α : Type} {p : Driver α}

lemma statusFilled_sem {o : Op} (ho : o.KeepsStatus) :
    (sem e own o s).state.StatusFilled ↔ s.StatusFilled := by
  unfold State.StatusFilled
  cases o <;> simp only [sem, Op.KeepsStatus] at ho ⊢
  case writeUrb u f =>
    by_cases hu : .csw = u
    · subst hu
      simp [ho]
    · simp [hu]
  case usbFillBulkUrb u pipe b len cb =>
    cases hptr : s.dev.urb u <;> simp [State.fillBulkUrb, Ne.symm ho]
  case usbAllocUrb u =>
    cases e.urb u <;> simp [Ne.symm ho]
  case usbAllocCoherent b size =>
    cases e.coherent b with
    | none => rfl
    | some r => cases b <;> rfl
  case usbFreeUrb u => cases s.dev.urb u <;> rfl
  case usbFreeCoherent b n => cases s.dev.buffer b <;> rfl
  case usbPutDev => cases s.dev.udev <;> rfl
  case scsiHostPut h => cases h <;> rfl
  case readCsw | sgVirt | kmalloc | usbSubmitUrb | scsiHostAlloc | scsiDone =>
    repeat' split
    all_goals rfl
  all_goals rfl

/-- A program of such operations neither fills nor empties `csw_urb`. -/
lemma statusFilled_run (hp : All Op.KeepsStatus p) :
    (run (sem e own) p s).state.StatusFilled ↔ s.StatusFilled :=
  hp.run (I := fun t => State.StatusFilled t ↔ s.StatusFilled)
    (fun _ _ ho h => (statusFilled_sem ho).trans h) Iff.rfl

end Keeps

/-! ## The completion functions -/

section Callbacks

variable {e : Env} {own c : CmndId} {s : State} {u : UrbId} {n : UInt32}

/-- `csw_callback` reads through the buffer pointer of its URB, unless it stops before at a null
pointer. -/
lemma filled_cswCallback (hctx : (s.urb u).context = true) :
    (cswCallback u).Throughout (sem e own) Op.Filled s ↔
      (((s.urb u).status < 0 → s.activeScmd ≠ none) →
        s.StatusFilled ∧ (s.urb u).transferBuffer = some .csw) := by
  have hread (t : State) (hurb : t.urb = s.urb) (f : List UInt8 → Driver Unit)
      (hf : ∀ bs, All Op.NoParse (f bs)) :
      Throughout (sem e own) Op.Filled (readCsw (s.urb u).transferBuffer >>= f) t ↔
        s.StatusFilled ∧ (s.urb u).transferBuffer = some .csw := by
    rw [readCsw, op_bind, throughout_act]
    refine (and_iff_left ?_).trans ?_
    · cases (s.urb u).transferBuffer with
      | none => trivial
      | some b => exact (hf _).throughout (fun _ t ho => ho.filled t) t
    · simp [Op.Filled, Op.parses, State.StatusFilled, hurb]
  by_cases hst : (s.urb u).status < 0
  · cases hc : s.activeScmd with
    | none =>
      simp [cswCallback, readUrb, activeScmd, deref, oops, throughout_act, sem, Op.Filled,
        Op.parses, hctx, hst, hc]
    | some c =>
      simp only [cswCallback, readUrb, activeScmd, deref, writeCmnd, doneActive, scsiDone, op_bind,
        act_bind, throughout_act, sem, Op.Filled, Op.parses, Option.mem_def, reduceCtorEq,
        false_imp_iff, implies_true, true_and, hctx, hst, hc, State.modCmnd_activeScmd, pure_eq,
        ret_bind, Bool.true_eq_false, if_true, if_false, ne_eq, not_false_eq_true, forall_const]
      refine hread _ ?_ _ fun bs => ?_
      · rfl
      simp [setActiveResult, derefActive, activeScmd, writeCmnd, setActiveScmd, all_deref_bind,
        Op.parses]
  · simp only [cswCallback, readUrb, activeScmd, op_bind, throughout_act, sem, Op.Filled,
      Op.parses, Option.mem_def, reduceCtorEq, false_imp_iff, implies_true, true_and, hctx, hst,
      Bool.true_eq_false, if_false, forall_const]
    refine hread s rfl _ fun bs => ?_
    simp [setActiveResult, derefActive, activeScmd, writeCmnd, doneActive, scsiDone, setActiveScmd,
      all_deref_bind, Op.parses]

/-- `data_callback` gets over the copy of `n` bytes from `data_buffer`. -/
def State.CopiesData (s : State) (n : UInt32) : Prop := n = 0 ∨ s.dev.buffer .data ≠ none

instance (s : State) (n : UInt32) : Decidable (s.CopiesData n) :=
  inferInstanceAs (Decidable (_ ∨ _))

lemma run_takeData_eq_oops_iff :
    run (sem e own) (takeData (some c) n) s = .oops s ↔ ¬ s.CopiesData n := by
  by_cases hn : n = 0
  · by_cases hlen : 0 < s.dev.bufferlength <;>
      simp [takeData, State.CopiesData, hn, hlen]
  · have hpos : 0 < n := UInt32.pos_iff_ne_zero.2 hn
    cases hptr : s.dev.buffer .data with
    | none => simp [takeData, sgCopyFromBuffer, State.CopiesData, hpos, hn, hptr]
    | some i =>
      by_cases hlen : n < s.dev.bufferlength <;>
        simp [takeData, sgCopyFromBuffer, State.CopiesData, hpos, hptr, hlen]

/-- `data_callback` reads through `csw_urb` unless it stops before at a null data buffer. -/
lemma filled_dataCallback (hs : Shape s) (hctx : (s.urb u).context = true)
    (hc : s.activeScmd = some c) (hd : (s.cmnd c).length ≠ 0) :
    (dataCallback u).Throughout (sem e own) Op.Filled s ↔
      (s.CopiesData (s.urb u).actualLength → s.StatusFilled) := by
  have hsg : (Op.sgVirt c).Filled s := Op.NoParse.filled (by rfl) s
  rw [dataCallback, throughout_bind, throughout_dataBody Op.Direct.filled hctx hc,
    and_iff_right hsg, run_dataBody_eq e own hctx hc hd, run_bind]
  have hcopies : (s.badStatus u c didAbort).CopiesData (s.urb u).actualLength ↔
      s.CopiesData (s.urb u).actualLength := by
    simp [State.CopiesData]
  rcases run_takeData e own (c := c) (s := s.badStatus u c didAbort) (s.urb u).actualLength with
    h | ⟨f, h⟩
  · have hnot := hcopies.not.1 (run_takeData_eq_oops_iff.1 h)
    simp [h, hnot]
  · have hcopy : s.CopiesData (s.urb u).actualLength := by
      rw [← hcopies, ← not_not (a := State.CopiesData _ _), ← run_takeData_eq_oops_iff, h]
      simp
    have hshape := (hs.badStatus u c didAbort).modCmnd c f
    have hactive : ((s.badStatus u c didAbort).modCmnd c f).activeScmd = some c := by simp [hc]
    simp only [h, run_fakeStatus e own hshape hactive]
    set t := ((s.badStatus u c didAbort).modCmnd c f).faked c with ht
    have hurb : (t.urb .csw).complete = (s.urb .csw).complete := by
      simp [ht, State.faked]
    rw [filled_cswCallback (by simp [ht, State.faked]), State.StatusFilled, hurb]
    have hbuf : (s.urb .csw).complete ≠ none → (t.urb .csw).transferBuffer = some .csw :=
      fun hfilled => ((hs.badStatus u c didAbort).modCmnd c f).faked c |>.urb .csw |>.buffer
        (by rwa [← ht, hurb]) (by simp)
    constructor
    · exact fun h _ => (h fun hst => absurd hst (by simp [ht, State.faked])).1
    · exact fun h _ => ⟨h hcopy, hbuf (h hcopy)⟩

/-- INQUIRY calls `data_callback` for the bytes that it has stored. -/
lemma filled_inquiry (hs : Shape s) (hc : s.activeScmd = some c) (hd : (s.cmnd c).length ≠ 0)
    (length : UInt32) (evpd : UInt8) :
    (inquiry c length n evpd).Throughout (sem e own) Op.Filled s ↔
      (s.CopiesData n → s.StatusFilled) := by
  obtain ⟨bs, h⟩ := throughout_inquiry Op.Direct.filled e own hc length n evpd
  have htable : Op.Filled (if evpd ≠ 0 then .readTable vpdPage00 (min n.toNat vpdPage00.length)
      else .readTable fakeInquiryResponse n.toNat) s := by
    split
    · exact Op.NoParse.filled (by rfl) s
    · exact Op.NoParse.filled (by rfl) s
  rw [h, and_iff_right htable, forall_prop_of_true (hs.urb_ptr .data)]
  refine (filled_dataCallback (c := c) ?_ ?_ ?_ ?_).trans ?_
  · exact (hs.modCmnd c _).modUrb .data fun _ => ⟨rfl, rfl, rfl, rfl, fun _ => rfl⟩
  · simp
  · exact hc
  · simpa [Cmnd.store] using hd
  · simp [State.CopiesData, State.StatusFilled]

/-- `cbw_callback` reads a status wrapper only for INQUIRY. -/
lemma filled_cbwCallback (hs : Shape s) (hu : u.callback = .cbwCallback)
    (hfilled : (s.urb u).complete ≠ none) (hc : s.activeScmd = some c) :
    (cbwCallback u).Throughout (sem e own) Op.Filled s ↔
      ((s.cmnd c).length ≠ 0 → ¬ (s.urb u).status < 0 → s.opcode u = 0x12 →
        s.CopiesData (min (s.cmnd c).length s.dev.bufferlength) → s.StatusFilled) := by
  have hdata : u ≠ .data := by
    rintro rfl
    cases hu
  have hbuf := (hs.urb u).buffer hfilled hdata
  have hsig := hs.signature u hu hfilled
  have hsg : (Op.sgVirt c).Filled s := Op.NoParse.filled (by rfl) s
  have htable (m : ℕ) : (Op.readTable noSenseResponse m).Filled s := Op.NoParse.filled (by rfl) s
  rw [throughout_cbwCallback Op.Direct.filled (hs.complete_eq hfilled).2 hc rfl, and_iff_right hsg,
    hbuf]
  refine forall_congr' fun hd => forall_congr' fun _ => ⟨fun h hop => ?_, ?_⟩
  · exact (filled_inquiry hs hc hd _ _).1 ((h u.buf _ rfl rfl hsig).1 hop)
  · rintro h _ _ ⟨⟩ rfl -
    exact ⟨fun hop => (filled_inquiry hs hc hd _ _).2 (h hop), fun _ => htable _⟩

end Callbacks

/-! ## Completions -/

namespace State

/-- The active command has data. -/
def ActiveData (s : State) : Prop := ∃ c ∈ s.activeScmd, (s.cmnd c).length ≠ 0

instance (s : State) : Decidable s.ActiveData := inferInstanceAs (Decidable (∃ c ∈ _, _))

/-- The completion of `u` has `csw_callback` look at a status wrapper that `data_callback` has
made up: `data_urb` or the wrapper of an INQUIRY comes back while a command with data is active,
and there is nothing to copy or something to copy it from. -/
def FakesStatus (s : State) (u : UrbId) (st : Int) (n : UInt32) : Prop :=
  ∃ c ∈ s.activeScmd, (s.cmnd c).length ≠ 0 ∧ (u = .data ∧ s.CopiesData n ∨
    u.callback = .cbwCallback ∧ ¬ st < 0 ∧ s.opcode u = 0x12 ∧
      s.CopiesData (min (s.cmnd c).length s.dev.bufferlength))

instance (s : State) (u : UrbId) (st : Int) (n : UInt32) : Decidable (s.FakesStatus u st n) :=
  inferInstanceAs (Decidable (∃ c ∈ _, _))

end State

section Completions

variable {e : Env} {o : CmndId} {s : State} {u : UrbId} {st : Int} {n : UInt32}
  {received : List UInt8}

/-- Without an active command no status wrapper is read before the null pointer. -/
lemma filled_none (hctx : (s.urb u).context = true) (hc : s.activeScmd = none)
    (hu : u ≠ .csw) : (u.callback.body u).Throughout (sem e o) Op.Filled s := by
  cases u <;>
    simp [UrbId.callback, Callback.body, cbwCallback, dataCallback, dataBody, readUrb, derefActive,
      activeScmd, deref, oops, throughout_act, sem, Op.Filled, Op.parses, hc, hctx] at hu ⊢

/-- **A completion** reads status wrappers from a filled `csw_urb`, unless it makes one up before
there is such an URB. -/
theorem filled_complete (hs : Shape s) (hu : s.inflight u = some o) :
    (s.giveBack u st n received).CompletesFilled e u o ↔
      (s.FakesStatus u st n → s.StatusFilled) := by
  obtain ⟨hfilled, hctx⟩ := giveBack_filled st n received hs hu
  have hg := hs.giveBack u st n received
  have hne : ((s.giveBack u st n received).urb u).complete ≠ none := by
    rw [hfilled]
    simp
  have hactive : (s.giveBack u st n received).activeScmd = s.activeScmd :=
    congrArg Traffic.active (s.traffic_giveBack u st n received)
  rw [State.CompletesFilled, hfilled]
  simp only [Option.mem_def, Option.some.injEq, forall_eq']
  by_cases hcsw : u = .csw
  · -- an URB in flight has been filled
    subst hcsw
    have hF : s.StatusFilled := hs.filled .csw (by simp [hu])
    exact iff_of_true ((filled_cswCallback hctx).2 fun _ =>
      ⟨(statusFilled_giveBack st n received).2 hF, (hg.urb .csw).buffer hne (by simp)⟩)
        fun _ => hF
  cases hc : s.activeScmd with
  | none =>
    exact iff_of_true (filled_none hctx (hactive.trans hc) hcsw) (by simp [State.FakesStatus, hc])
  | some c =>
    have hcopies (m : UInt32) : (s.giveBack u st n received).CopiesData m ↔ s.CopiesData m := by
      simp [State.CopiesData]
    cases hcb : u.callback with
    | cbwCallback =>
      have hdata : u ≠ .data := by
        rintro rfl
        cases hcb
      refine (filled_cbwCallback hg hcb hne (hactive.trans hc)).trans ?_
      rw [opcode_giveBack st n received hs hcb, statusFilled_giveBack, hcopies]
      simp only [State.giveBack_cmnd, State.giveBack_dev, State.giveBack_urb]
      simp [State.FakesStatus, hc, hcb, hdata]
    | dataCallback =>
      obtain rfl : u = .data := by cases u <;> simp [UrbId.callback] at hcb ⊢
      by_cases hd : (s.cmnd c).length = 0
      · -- without data it stops at the null scatter-gather list
        refine iff_of_true ?_ (by simp [State.FakesStatus, hc, hd])
        have hd' : ((s.giveBack .data st n received).cmnd c).length = 0 := by simpa using hd
        rw [Callback.body, dataCallback, throughout_bind,
          throughout_dataBody Op.Direct.filled hctx (hactive.trans hc),
          run_dataBody_null e o hctx (hactive.trans hc) hd']
        exact ⟨Op.NoParse.filled (by rfl) _, trivial⟩
      refine (filled_dataCallback hg hctx (hactive.trans hc) (by simpa using hd)).trans ?_
      rw [statusFilled_giveBack, hcopies]
      simp [State.FakesStatus, hc, hd, UrbId.callback]
    | cswCallback => cases u <;> simp [UrbId.callback] at hcb hcsw

/-- Submitting `data_urb` leaves `csw_urb` as it was. -/
lemma statusFilled_ready_submit {c : CmndId} {pipe : Pipe} {len : UInt32} {cb : Callback} :
    ((s.ready .data pipe len cb).submitOrFail e o c .data).StatusFilled ↔ s.StatusFilled := by
  have hsubmit (t : State) : (t.submitOrFail e o c .data).urb = t.urb := by
    unfold State.submitOrFail State.submit
    repeat' split
    all_goals rfl
  rw [State.StatusFilled, hsubmit]
  simp [State.ready, State.fillBulkUrb, State.StatusFilled]

/-- With data the end of `cbw_callback` does not come to `csw_urb`. -/
lemma statusFilled_submitDataOrCsw (hs : Shape s) {c : CmndId} (hc : s.activeScmd = some c)
    (hne : s.dev.bufferlength ≠ 0) :
    (run (sem e o) submitDataOrCsw s).state.StatusFilled ↔ s.StatusFilled := by
  have hlen : 0 < s.dev.bufferlength := UInt32.pos_iff_ne_zero.2 hne
  by_cases hto : s.dev.direction = .dmaToDevice
  · rw [run_submit_data e o hs hc hlen hto, Outcome.state_done, statusFilled_ready_submit]
  · by_cases hfrom : s.dev.direction = .dmaFromDevice
    · simp [submitDataOrCsw, hlen, hfrom, hs.urb_ptr, State.StatusFilled]
    · simp [submitDataOrCsw, hlen, hto, hfrom]

/-- **A completion** does not fill `csw_urb`: only a command without data would have it filled,
and for that one `cbw_callback` stops before. -/
theorem statusFilled_complete (hs : Shape s) (hm : s.Matched) (hu : s.inflight u = some o) :
    (runCallback e u o (s.giveBack u st n received)).state.StatusFilled ↔ s.StatusFilled := by
  obtain ⟨hfilled, hctx⟩ := giveBack_filled st n received hs hu
  have hg := hs.giveBack u st n received
  have hkeeps (hp : All Op.KeepsStatus (u.callback.body u)) :
      (runCallback e u o (s.giveBack u st n received)).state.StatusFilled ↔ s.StatusFilled := by
    rw [complete_eq e st n received hs hu, statusFilled_run hp, statusFilled_giveBack]
  cases hcb : u.callback with
  | dataCallback => exact hkeeps (hcb ▸ keepsStatus_dataCallback u)
  | cswCallback => exact hkeeps (hcb ▸ keepsStatus_cswCallback u)
  | cbwCallback =>
    cases hc : s.activeScmd with
    | none =>
      rw [complete_none e st n received hs hu hc, Outcome.state_oops, statusFilled_giveBack]
    | some c =>
      by_cases hd : (s.cmnd c).length = 0
      · have hcsw : u ≠ .csw := by
          rintro rfl
          cases hcb
        rw [complete_null e st n received hs hu hc hcsw hd, Outcome.state_oops,
          statusFilled_giveBack]
      have hd' : ((s.giveBack u st n received).cmnd c).length ≠ 0 := by simpa using hd
      have hne : ((s.giveBack u st n received).urb u).complete ≠ none := by
        rw [hfilled]
        simp
      have hactive : (s.giveBack u st n received).activeScmd = some c :=
        (congrArg Traffic.active (s.traffic_giveBack u st n received)).trans hc
      rw [complete_eq e st n received hs hu, hcb]
      by_cases hst : st < 0
      · rw [Callback.body, run_cbwCallback_bad e o hg hne hactive hd' (by simpa using hst)]
        exact statusFilled_giveBack st n received
      have hst' : ¬ ((s.giveBack u st n received).urb u).status < 0 := by simpa using hst
      -- INQUIRY never comes to the end of `cbw_callback`
      by_cases hop : (s.giveBack u st n received).opcode u = 0x12
      · rw [Callback.body, run_cbwCallback_good e o hg hcb hne hactive hd' hst', if_pos hop,
          statusFilled_run (keepsStatus_inquiry ..), statusFilled_giveBack]
      · obtain ⟨s₁, hrun, hs₁, hc₁, hdev, hurb, -, -⟩ :=
          run_cbwCallback_rest e o hg hcb hne hactive hd' hst' hop
        have hlen : s₁.dev.bufferlength ≠ 0 := by
          rw [hdev, State.giveBack_dev, hm c hc]
          exact hd
        rw [Callback.body, hrun, statusFilled_submitDataOrCsw hs₁ hc₁ hlen, State.StatusFilled,
          hurb]
        exact statusFilled_giveBack st n received

end Completions

/-! ## The error handlers -/

section Handlers

variable {e : Env} {own c : CmndId} {s : State}

/-- An operation that parses and kills nothing. -/
@[simp] def Op.Harmless (o : Op) : Prop := o.NoParse ∧ o.NoKill

lemma Op.Harmless.filled {o : Op} (ho : o.Harmless) (s : State) : o.KillFilled e s :=
  ⟨Op.NoParse.filled ho.1 s, fun _ hu => (by cases ho.2.symm.trans hu)⟩

lemma filled_killUrb (hs : Shape s) (u : UrbId) :
    (killUrb u).Throughout (killSem e own) (Op.KillFilled e) s ↔
      (s.inflight u ≠ none → s.FakesStatus u (-ENOENT) 0 → s.StatusFilled) := by
  have hread : run (killSem e own) readDev s = .done s.dev s := rfl
  have hkill : (Op.usbKillUrb u).KillFilled e s ↔
      ∀ o ∈ s.inflight u, (s.giveBack u (-ENOENT) 0 []).CompletesFilled e u o := by
    simp [Op.KillFilled, Op.Filled, Op.parses]
  obtain ⟨i, hi⟩ := Option.ne_none_iff_exists'.1 (hs.urb_ptr u)
  rw [killUrb, throughout_bind_of_all (R := Op.Harmless) (by simp [readDev, Op.parses])
    (fun _ t ho => ho.filled t) hread, hi, Option.isSome_some, if_pos rfl, usbKillUrb,
    throughout_op, hkill]
  constructor
  · intro h hu
    obtain ⟨o, ho⟩ := Option.ne_none_iff_exists'.1 hu
    exact (filled_complete hs ho).1 (h o ho)
  · exact fun h o ho => (filled_complete hs ho).2 (h (by simp [show s.inflight u = some o from ho]))

/-- A kill changes neither the transfer that is set up nor `csw_urb`. -/
lemma statusFilled_killUrb (e : Env) (own : CmndId) (hs : Shape s) (hm : s.Matched) (u : UrbId) :
    (run (killSem e own) (killUrb u) s).state.Matched ∧
      ((run (killSem e own) (killUrb u) s).state.StatusFilled ↔ s.StatusFilled) := by
  rw [run_killUrb e own hs]
  cases hu : s.inflight u with
  | none => exact ⟨hm, Iff.rfl⟩
  | some o => exact ⟨hm.continue (continued_complete _ _ _), statusFilled_complete hs hm hu⟩

/-- Behind a kill the handler goes on in a state of the same kind. -/
lemma filled_killUrb_bind (hs : Shape s) (hm : s.Matched) (u : UrbId) {f : Unit → Driver Unit} :
    (killUrb u >>= f).Throughout (killSem e own) (Op.KillFilled e) s ↔
      (s.inflight u ≠ none → s.FakesStatus u (-ENOENT) 0 → s.StatusFilled) ∧
        ∀ t, run (killSem e own) (killUrb u) s = .done () t → Shape t → t.Matched →
          (t.StatusFilled ↔ s.StatusFilled) →
            (f ()).Throughout (killSem e own) (Op.KillFilled e) t := by
  rw [throughout_bind, filled_killUrb hs]
  refine and_congr_right fun _ => ?_
  have hshape := (killUrb_effect e own hs u).1
  obtain ⟨hmatched, hfilled⟩ := statusFilled_killUrb e own hs hm u
  cases hrun : run (killSem e own) (killUrb u) s with
  | oops t => simp
  | done x t =>
    rw [hrun] at hshape hmatched hfilled
    constructor
    · rintro h _ ⟨⟩ - - -
      exact h
    · exact fun h => h t rfl hshape hmatched hfilled

lemma fakesStatus_data : s.FakesStatus .data (-ENOENT) 0 ↔ s.ActiveData := by
  simp [State.FakesStatus, State.ActiveData, State.CopiesData]

lemma not_fakesStatus_cbw : ¬ s.FakesStatus .cbw (-ENOENT) 0 := by
  simp [State.FakesStatus, ENOENT]

/-- The kill of `cbw_urb` leaves the active command and `data_urb` as they are, if it returns;
it does not when the URB is in flight and the active command has no data. -/
lemma run_killUrb_cbw (e : Env) (own : CmndId) (hs : Shape s) :
    (∃ t, run (killSem e own) (killUrb .cbw) s = .oops t ∧ ¬ s.ActiveData) ∨
      ∃ t, run (killSem e own) (killUrb .cbw) s = .done () t ∧ (t.ActiveData ↔ s.ActiveData) ∧
        t.inflight .data = s.inflight .data := by
  rw [run_killUrb e own hs]
  cases hu : s.inflight .cbw with
  | none => exact .inr ⟨s, rfl, Iff.rfl, rfl⟩
  | some o =>
    dsimp only
    cases hc : s.activeScmd with
    | none => exact .inl ⟨_, complete_none e _ _ _ hs hu hc, by simp [State.ActiveData, hc]⟩
    | some c =>
      by_cases hd : (s.cmnd c).length = 0
      · exact .inl ⟨_, complete_null e _ _ _ hs hu hc (by decide) hd,
          by simp [State.ActiveData, hc, hd]⟩
      obtain ⟨t, hrun, ht⟩ := complete_cbw_bad e (-ENOENT) 0 [] hs hu hc rfl hd (by decide)
      have hactive : t.activeScmd = some c := (congrArg Traffic.active ht).trans hc
      have hin : t.inflight .data = s.inflight .data :=
        congrFun (congrArg Traffic.inflight ht) .data
      have hlength : (t.cmnd c).length = (s.cmnd c).length := by
        have hk := continued_complete (e := e) (u := .cbw) (c := o) (s := s) (-ENOENT) 0 []
        rw [hrun] at hk
        exact (wrapper_congr (hk.request c)).2.1
      exact .inr ⟨t, hrun, by simp [State.ActiveData, hc, hactive, hlength], hin⟩

/-- `usb_eh_abort` makes up a status wrapper when it kills `data_urb`. -/
lemma filled_killUrbs (hs : Shape s) (hm : s.Matched) :
    killUrbs.Throughout (killSem e own) (Op.KillFilled e) s ↔
      (s.inflight .data ≠ none → s.ActiveData → s.StatusFilled) := by
  rw [killUrbs, filled_killUrb_bind hs hm]
  -- the kills keep `StatusFilled`; when it does not hold, `csw_urb` is idle and the second kill
  -- does nothing, so that `data_urb` decides
  by_cases hF : s.StatusFilled
  · refine iff_of_true ⟨fun _ _ => hF, fun t _ ht hmt hFt => ?_⟩ fun _ _ => hF
    rw [filled_killUrb_bind ht hmt]
    refine ⟨fun _ _ => hFt.2 hF, fun t' _ ht' _ hFt' => ?_⟩
    exact (filled_killUrb ht' .data).2 fun _ _ => hFt'.2 (hFt.2 hF)
  · have hcsw {t : State} (ht : Shape t) (hFt : ¬ t.StatusFilled) : t.inflight .csw = none := by
      by_contra h
      exact hFt (ht.filled .csw h)
    refine (and_iff_right fun _ h => absurd h not_fakesStatus_cbw).trans ?_
    rcases run_killUrb_cbw e own hs with ⟨t, hrun, hc⟩ | ⟨t, hrun, hc, hin⟩
    · simp [hrun, hc]
    · have ht : Shape t := by simpa [hrun] using (killUrb_effect e own hs .cbw).1
      obtain ⟨hmt, hFt⟩ : t.Matched ∧ (t.StatusFilled ↔ s.StatusFilled) := by
        simpa [hrun] using statusFilled_killUrb e own hs hm .cbw
      have hidle : run (killSem e own) (killUrb .csw) t = .done () t := by
        rw [run_killUrb e own ht, hcsw ht (hFt.not.2 hF)]
      have hdata : (killUrb .csw >>= fun _ => killUrb .data).Throughout (killSem e own)
          (Op.KillFilled e) t ↔
            (s.inflight .data ≠ none → s.ActiveData → s.StatusFilled) := by
        rw [throughout_bind, hidle, filled_killUrb ht]
        refine (and_iff_right fun h => absurd (hcsw ht (hFt.not.2 hF)) h).trans ?_
        dsimp only
        rw [filled_killUrb ht, fakesStatus_data, hFt, hc, hin]
      refine Iff.trans ⟨fun h => h t hrun ht hmt hFt, fun h t' hrun' _ _ _ => ?_⟩ hdata
      obtain ⟨-, rfl⟩ := Outcome.done.inj (hrun.symm.trans hrun')
      exact h

lemma Op.Routine.harmless {o : Op} (ho : o.Routine) : o.Harmless := by
  cases ho <;> exact ⟨rfl, rfl⟩

lemma harmless_afterReset : All Op.Harmless afterReset :=
  all_afterReset (fun _ ho => ho.harmless) ⟨rfl, rfl⟩ ⟨rfl, rfl⟩

/-- **An error handler** reads a status wrapper only when it kills an URB. -/
lemma filled_handler (hs : Shape s) (hm : s.Matched) (h : Handler) :
    (h.body c).Throughout (killSem e c) (Op.KillFilled e) s ↔
      (h = .abort → s.inflight .data ≠ none → s.ActiveData → s.StatusFilled) := by
  have hreset {p : Driver Int} (hp : All Op.Harmless p) (hh : h ≠ .abort) :
      p.Throughout (killSem e c) (Op.KillFilled e) s ↔
        (h = .abort → s.inflight .data ≠ none → s.ActiveData → s.StatusFilled) :=
    iff_of_true (hp.throughout (fun _ t ho => ho.filled t) s) fun h => absurd h hh
  cases h with
  | devReset =>
    exact hreset (by simp [Handler.body, usbEhDevReset, usbControlMsg, harmless_afterReset,
      Op.parses]) (by decide)
  | busReset | hostReset =>
    exact hreset (by simp [Handler.body, usbEhHostReset, usbEhBusReset, usbResetDevice,
      harmless_afterReset, Op.parses]) (by decide)
  | abort =>
    have hthen {α : Type} {a : α} {p : Driver α} {f : α → Driver Int} (hp : All Op.Routine p)
        (hrun : run (killSem e c) p s = .done a s) :
        (p >>= f).Throughout (killSem e c) (Op.KillFilled e) s ↔
          (f a).Throughout (killSem e c) (Op.KillFilled e) s :=
      throughout_bind_of_all hp (fun _ t ho => ho.harmless.filled t) hrun
    have hend : All Op.Routine (writeCmnd c (fun x => { x with result := didAbort }) >>= fun _ =>
        scsiDone (some c) >>= fun _ => (pure SUCCESS : Driver Int)) := by
      simp [writeCmnd, scsiDone]
    rw [Handler.body, usbEhAbort, hthen (by simp [readDev]) rfl, hthen (by simp [usbClearHalt]) rfl,
      hthen (by simp [readDev]) rfl, hthen (by simp [usbClearHalt]) rfl, throughout_bind,
      filled_killUrbs hs hm]
    refine (and_iff_left ?_).trans (by simp)
    cases run (killSem e c) killUrbs s with
    | oops t => trivial
    | done x t => exact hend.throughout (fun _ t ho => ho.harmless.filled t) t

lemma keepsStatus_handler (h : Handler) (c : CmndId) : All Op.KeepsStatus (h.body c) :=
  all_handler (fun _ ho => ho.keepsStatus) (by simp) (by simp) (by simp) (by simp) (by simp) h c

lemma statusFilled_handler (hs : Shape s) (hm : s.Matched) (h : Handler) :
    (runHandler h c e s).state.StatusFilled ↔ s.StatusFilled := by
  by_cases hh : h = .abort
  · subst hh
    refine (((tame_handler .abort c).and ((keepsStatus_handler .abort c).and
      (continues_usbEhAbort c))).run (I := fun t => Shape t ∧ t.Matched ∧
        (State.StatusFilled t ↔ s.StatusFilled)) ?_ ⟨hs, hm, Iff.rfl⟩).2.2
    rintro o t ⟨htame, hkeeps, hcont⟩ ⟨ht, hmt, hFt⟩
    refine ⟨(killSem_keeps ht htame).2, ?_⟩
    by_cases hkill : ∃ u, o = .usbKillUrb u
    · obtain ⟨u, rfl⟩ := hkill
      rw [killSem_kill]
      cases hu : t.inflight u with
      | none => exact ⟨hmt, hFt⟩
      | some a =>
        exact ⟨hmt.continue (continued_complete _ _ _), (statusFilled_complete ht hmt hu).trans hFt⟩
    · rw [killSem_of_ne e c (not_exists.1 hkill)]
      exact ⟨hmt.continue (continued_sem hcont), (statusFilled_sem hkeeps).trans hFt⟩
  · rw [run_reset e c hh]
    split <;> exact Iff.rfl

end Handlers

/-! ## Runs -/

/-- The call makes up a status wrapper. -/
def FakesStatus (k : Config) : Call → Prop
  | .queueCommand _ _ => False
  | .complete u st n _ _ => k.drv.inflight u ≠ none ∧ k.drv.FakesStatus u st n
  | .handler h _ _ => h = .abort ∧ k.drv.inflight .data ≠ none ∧ k.drv.ActiveData

instance (k : Config) : (l : Call) → Decidable (FakesStatus k l)
  | .queueCommand _ _ => inferInstanceAs (Decidable False)
  | .complete _ _ _ _ _ | .handler _ _ _ => inferInstanceAs (Decidable (_ ∧ _))

lemma filled_iff {k : Config} (hs : Shape k.drv) (hm : k.drv.Matched) (l : Call) :
    Filled k l ↔ k.drv.StatusFilled ∨ ¬ FakesStatus k l := by
  cases l with
  | queueCommand c e =>
    exact iff_of_true ((quiet_queueCommand c).throughout (fun _ t ho => ho.1.filled t) _)
      (.inr id)
  | complete u st n received e =>
    rw [or_comm, ← imp_iff_not_or]
    constructor
    · rintro h ⟨hu, hfakes⟩
      obtain ⟨o, ho⟩ := Option.ne_none_iff_exists'.1 hu
      exact (filled_complete hs ho).1 (h o ho) hfakes
    · exact fun h o ho => (filled_complete hs ho).2 fun hfakes =>
        h ⟨Option.ne_none_iff_exists'.2 ⟨o, ho⟩, hfakes⟩
  | handler h c e =>
    rw [or_comm, ← imp_iff_not_or]
    refine (filled_handler hs hm h).trans ?_
    simp only [FakesStatus, and_imp]

lemma statusFilled_step {k k' : Config} {l : Call} (hs : Shape k.drv) (hm : k.drv.Matched)
    (h : session.next k l = some k') : k'.drv.StatusFilled ↔ k.drv.StatusFilled := by
  cases l with
  | queueCommand c e =>
    obtain ⟨-, -, rfl⟩ := next_queueCommand h
    rw [Config.afterQueue_drv, statusFilled_run ((quiet_queueCommand c).mono fun _ ho => ho.2)]
  | complete u st n received e =>
    obtain ⟨-, o, hu, rfl⟩ := next_complete h
    rw [Config.after_drv]
    exact statusFilled_complete hs hm hu
  | handler hd c e =>
    obtain ⟨-, -, rfl⟩ := next_handler h
    rw [Config.after_drv, statusFilled_handler hs hm]

/-- Shape, transfer and `csw_urb` of a device whose calls come one after the other. -/
structure Unfilled (s : State) : Prop where
  shape : Shape s
  matched : s.Matched
  unfilled : ¬ s.StatusFilled

lemma Probed.unfilled {s : State} (h : Probed s) : Unfilled s where
  shape := h.shape
  matched c hc := by
    rw [h.active] at hc
    cases hc
  unfilled := by simp [State.StatusFilled, h.urb, Urb.zero]

lemma Unfilled.step {k k' : Config} {l : Call} (h : Unfilled k.drv)
    (hk : session.next k l = some k') : Unfilled k'.drv where
  shape := shape_step h.shape hk
  matched := matched_step h.shape h.matched hk
  unfilled := (statusFilled_step h.shape h.matched hk).not.2 h.unfilled

/-- **The status URB is filled before it is parsed** in a run from a successful probe on, each
time and from `csw_buffer`, exactly when no call of the run makes up a status wrapper. -/
theorem filled_along_iff {k : Config} (hk : session.Init k) (ls : List Call) :
    session.Along Filled k ls ↔ session.Along (fun k l => ¬ FakesStatus k l) k ls :=
  System.along_congr (I := fun k => Unfilled k.drv) (fun _ _ _ h _ hk => h.step hk)
    (fun _ l h => (filled_iff h.shape h.matched l).trans (or_iff_right h.unfilled))
    hk.1.unfilled ls

/-- The data of REQUEST SENSE is read, and a WRITE gets to its data phase. -/
def senseThenWrite : List Call :=
  [.queueCommand 0 {}, .complete .cbw 0 31 [] {}, .queueCommand 1 {},
    .complete .sec 0 31 [] {}]

/-- A run up to the data phase of its second command. -/
theorem filled_along_iff_write : ∃ k : Config, session.Init k ∧
    (session.exec k senseThenWrite).any (fun t => decide (t.drv.inflight .data = some 1)) = true ∧
    session.Along Filled k senseThenWrite := by
  have hinit : session.Init (.start fun c =>
      if c = 0 then .plain 0x03 .dmaFromDevice 18 0 else .plain 0x2a .dmaToDevice 512 0) :=
    ⟨probed_start _, rfl, rfl, rfl, rfl⟩
  exact ⟨_, hinit, by decide +kernel, (filled_along_iff hinit _).2 (by decide +kernel)⟩

/-- **No status is asked for.** In a run from a successful probe on, whose calls come one after the
other, `csw_urb` is never filled and never submitted. -/
theorem status_urb_unused {k : Config} (hk : session.Reachable k) :
    (k.drv.urb .csw).complete = none ∧ (k.drv.urb .csw).transferBuffer = none ∧
      k.drv.inflight .csw = none := by
  have hk' : Unfilled k.drv := System.Reach.invariant (S := session)
    (I := fun k => Unfilled k.drv) (fun _ h => h.1.unfilled) (fun _ _ _ hk _ h => hk.step h) hk
  have hcomplete : (k.drv.urb .csw).complete = none := not_not.1 hk'.unfilled
  have hbuf : (k.drv.urb .csw).transferBuffer = none := (hk'.shape.urb .csw).unfilled hcomplete
  refine ⟨hcomplete, hbuf, ?_⟩
  by_contra hflight
  exact hk'.shape.filled .csw hflight hcomplete

/-- Two commands are handed over, and the second is in its data phase. -/
theorem status_urb_unused_write : ∃ k : Config, session.Reachable k ∧ k.accepted = [1, 0] ∧
    k.drv.inflight .data = some 1 ∧ (k.drv.urb .csw).complete = none := by
  obtain ⟨k, hk, hacc, hdata⟩ := System.exists_reachable (S := session)
    (P := fun k => k.accepted = [1, 0] ∧ k.drv.inflight .data = some 1) senseThenWrite
    (reach_start _ fun c =>
      if c = 0 then .plain 0x03 .dmaFromDevice 18 0 else .plain 0x2a .dmaToDevice 512 0)
    (by decide +kernel)
  exact ⟨k, hk, hacc, hdata, (status_urb_unused hk).1⟩

/-- **The first INQUIRY** has `csw_callback` parse what an unfilled `csw_urb` points to, which
is nothing. -/
theorem parses_unfilled : ∃ k : Config, session.Init k ∧ (k.drv.cmnd 0).length = 36 ∧
    (session.exec k [.queueCommand 0 {}]).isSome = true ∧
    ¬ session.Along Filled k [.queueCommand 0 {}, .complete .cbw 0 31 [] {}] ∧
    (session.exec k [.queueCommand 0 {}, .complete .cbw 0 31 [] {}]).any (·.oops) = true :=
  ⟨.start fun _ => .plain 0x12 .dmaFromDevice 36 0, ⟨probed_start _, rfl, rfl, rfl, rfl⟩, rfl,
    by decide +kernel, by decide +kernel, by decide +kernel⟩

end KernelDriverLab.UsbV1
