import KernelDriverLab.UsbV1.InterleavedShape
import KernelDriverLab.UsbV1.Runs

/-!
# What a good status means

`csw_callback` looks at nothing but the signature of the status wrapper in
`csw_buffer`: neither the tag nor the status byte is compared with anything.  And
the wrapper need not come from the device.  For INQUIRY and after a data phase
`data_callback` writes one itself and calls `csw_callback` on it.

With calls one after the other `csw_callback` never gets that far, because `csw_urb` is not
filled.  It is filled when a command without data is handed over while `cbw_callback` goes on
after the `scsi_done` of REQUEST SENSE.
-/

namespace KernelDriverLab.UsbV1

open Lib Prog

/-- The completion of `u` ends in `csw_callback`: for `csw_urb` directly, for
`data_urb` and for the CBW of INQUIRY through `data_callback`. -/
def State.EndsInCsw (s : State) (u : UrbId) : Prop :=
  u = .csw ∨ u = .data ∨ u.callback = .cbwCallback ∧ s.opcode u = 0x12

lemma didError_ne_samStatGood : didError ≠ samStatGood := by decide

/-- The verdict of `csw_callback` is good exactly for a signature. -/
lemma judge_good_iff (s : State) (c : CmndId) (b : BufId) :
    (((s.judge c b).cmnd c).result = samStatGood ↔
      (CommandStatusWrapper.ofBytes (s.buf b)).dCSWSignature = CSW_SIG) ∧
    (s.judge c b).buf = s.buf ∧ (s.judge c b).done = c :: s.done := by
  unfold State.judge
  split
  · simp [State.finish, *]
  · simp [State.finish, didError_ne_samStatGood, *]

/-- **When a command is completed as good.** Suppose that in some interleaving an URB in flight
completes with a good status, that its completion function runs without a step of another
thread, and that it ends in `csw_callback`.  Then the active command is completed, with a good
result exactly when the bytes in `csw_buffer` carry the signature of a status wrapper.  These
bytes are what the device returned for `csw_urb`, or else the wrapper that `data_callback` made
up. -/
theorem good_iff_signature {w : World} (hw : interleaved.Reachable w) {u : UrbId} {o c : CmndId}
    (hu : w.drv.inflight u = some o) (hc : w.drv.activeScmd = some c) (hend : w.drv.EndsInCsw u)
    {st : Int} (hst : ¬ st < 0) {n : UInt32} {received : List UInt8} {e : Env} {s' : State}
    (hrun : runCallback e u o (w.drv.giveBack u st n received) = .done () s') :
    s'.done = c :: w.drv.done ∧
    ((s'.cmnd c).result = samStatGood ↔
      (CommandStatusWrapper.ofBytes (s'.buf .csw)).dCSWSignature = CSW_SIG) ∧
    s'.buf .csw = overwrite (w.drv.buf .csw)
      (if u = .csw then received.take CSW_LEN else (fakeCsw w.drv.dev.cbwTag).bytes) := by
  have hs : Shape w.drv := shape_interleaved hw
  by_cases hcsw : u = .csw
  · subst hcsw
    have hclosed := complete_csw e st n received hs hu hc rfl
    obtain rfl : s' = _ := (Outcome.done.inj (hrun.symm.trans hclosed)).2
    have hbad : (w.drv.giveBack .csw st n received).badStatus .csw c didError =
        w.drv.giveBack .csw st n received := by
      simp [State.badStatus, hst]
    obtain ⟨hgood, hbuf, hdone⟩ := judge_good_iff (w.drv.giveBack .csw st n received) c .csw
    rw [hbad]
    refine ⟨hdone.trans ?_, hbuf ▸ hgood, ?_⟩
    · exact congrArg (c :: ·) (congrArg Traffic.done (w.drv.traffic_giveBack .csw st n received))
    · rw [hbuf, if_pos rfl, hs.giveBack_csw (hs.filled .csw (by simp [hu]))]
  · -- the other URBs get to `csw_callback` with a wrapper that is made up
    have hd : (w.drv.cmnd c).length ≠ 0 := by
      intro hd
      cases hrun.symm.trans (complete_null e st n received hs hu hc hcsw hd)
    obtain ⟨ht, hm⟩ : s'.traffic = (w.drv.traffic.land u).settle c ∧ MadeUp w.drv s' c := by
      rcases hend with rfl | rfl | ⟨hcb, hop⟩
      · exact absurd rfl hcsw
      · rcases complete_data e st n received hs hu hc rfl hd with ⟨t, ht, -⟩ | ⟨-, t, ht, htr, hm⟩
        · cases hrun.symm.trans ht
        · obtain rfl : s' = t := (Outcome.done.inj (hrun.symm.trans ht)).2
          exact ⟨by simpa [Traffic.badStatus, hst] using htr, hm⟩
      · rcases complete_cbw_inquiry e st n received hs hu hc hcb hd hst hop with
          ⟨t, ht, -⟩ | ⟨-, t, ht, htr, hm⟩
        · cases hrun.symm.trans ht
        · obtain rfl : s' = t := (Outcome.done.inj (hrun.symm.trans ht)).2
          exact ⟨htr, hm⟩
    refine ⟨congrArg Traffic.done ht, ?_, by rw [if_neg hcsw, hm.buf]⟩
    rw [hm.buf, overwrite, CommandStatusWrapper.ofBytes_bytes_append]
    exact iff_of_true hm.good rfl

/-! ## A status URB that is filled -/

/-- A REQUEST SENSE of 18 bytes, a TEST UNIT READY, and INQUIRY for ever. -/
def senseReadyInquiry (c : CmndId) : Cmnd :=
  if c = 0 then .plain 0x03 .dmaFromDevice 18 0
  else if c = 1 then .plain 0x00 .dmaNone 0 0
  else .plain 0x12 .dmaFromDevice 36 0

/-- `cbw_callback` has called `scsi_done` for the REQUEST SENSE when the TEST UNIT READY is
handed over, whose submission returns `rv`; then it goes on and submits `csw_urb`. -/
def statusFilledRun (rv : Int) : List Act :=
  [.queue 0] ++ turns 0 20 ++ [.finish 0, .complete .cbw 0 31 []] ++ turns 1 14 ++ [.queue 1] ++
    turns 2 14 ++ [.run 2 { submit := rv }] ++ turns 2 (if rv = 0 then 1 else 3) ++ [.finish 2] ++
    turns 1 6 ++ [.finish 1]

/-- The status wrapper of a failed command, with a tag that was never sent. -/
def failedCsw : CommandStatusWrapper := ⟨CSW_SIG, 0xDEAD, 0, 1⟩

/-- `csw_urb`, submitted for the REQUEST SENSE, returns `failedCsw`. -/
theorem good_iff_signature_failedCsw : ∃ (w : World) (s' : State),
    w.drv.inflight .csw = some 0 ∧ s'.done = 1 :: w.drv.done ∧
    ((s'.cmnd 1).result = samStatGood ↔
      (CommandStatusWrapper.ofBytes (s'.buf .csw)).dCSWSignature = CSW_SIG) ∧
    s'.buf .csw = overwrite (w.drv.buf .csw)
      (if UrbId.csw = .csw then failedCsw.bytes.take CSW_LEN
        else (fakeCsw w.drv.dev.cbwTag).bytes) := by
  have hw := System.reach_get (statusFilledRun 0) (reach_before _ senseReadyInquiry)
    (System.along_of_forall (fun _ _ => trivial) _ _) (by decide +kernel)
  have hst : ¬ (0 : Int) < 0 := by decide
  exact ⟨_, _, rfl, good_iff_signature (e := {}) (n := 13) hw rfl rfl (.inl rfl) hst rfl⟩

/-- The failure that the device reports for another command, under a tag of its own, becomes the
success of the TEST UNIT READY. -/
theorem failure_turned_good : ∃ w, interleaved.Reachable w ∧ w.refused = [] ∧
    w.drv.done = [1, 0] ∧ ⟨0, some 1⟩ ∈ w.uses ∧ w.drv.buf .csw = failedCsw.bytes ∧
    (CommandBlockWrapper.ofBytes (w.drv.buf .cbw)).dCBWTag = 2 ∧
    (w.drv.cmnd 1).result = samStatGood := by
  refine System.exists_reachable
    (statusFilledRun 0 ++ [.complete .csw 0 13 failedCsw.bytes] ++ turns 3 7)
    (reach_before _ senseReadyInquiry) ?_
  decide +kernel

end KernelDriverLab.UsbV1
