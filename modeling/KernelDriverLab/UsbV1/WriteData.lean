import KernelDriverLab.UsbV1.CarriedCommand

/-!
# What the device is sent

`queue_command` allocates a coherent buffer, keeps its DMA address in `data_dma`,
and then replaces the pointer to it by one from `kmalloc`.  Nothing is ever copied
into either buffer, and the submitted URB names the DMA address.  So the bytes that
go to the device are those that the allocator found in the coherent memory.
-/

namespace KernelDriverLab.UsbV1

open Lib Prog

/-! ## Nobody writes the coherent memory -/

/-- The coherent memory holds what the allocator found there. -/
def State.Untouched (s : State) : Prop := s.dmaMem = s.fresh

lemma untouched_sem {e : Env} {own : CmndId} {s : State} {o : Op} (hs : s.Untouched) :
    (sem e own o s).state.Untouched := by
  cases o <;> simp only [sem]
  case usbAllocCoherent b n =>
    split
    · exact hs
    · rename_i addr found _
      cases b
      case data =>
        funext a
        simp only [State.allocCoherent, Outcome.state_done, State.modLedger_dmaMem,
          State.modLedger_fresh]
        rw [show s.dmaMem = s.fresh from hs]
      all_goals exact hs
  case usbFreeUrb u =>
    cases h : s.dev.urb u <;> simpa [State.releasePtr, State.Untouched, h] using hs
  case usbFreeCoherent b n =>
    cases h : s.dev.buffer b <;> simpa [State.releasePtr, State.Untouched, h] using hs
  case usbPutDev => cases h : s.dev.udev <;> simpa [State.releasePtr, State.Untouched, h] using hs
  case scsiHostPut p => cases p <;> simpa [State.releasePtr, State.Untouched] using hs
  all_goals repeat' split
  all_goals exact hs

lemma untouched_run {e : Env} {own : CmndId} {α : Type} (p : Driver α) {s : State}
    (hs : s.Untouched) : (run (sem e own) p s).state.Untouched :=
  (all_true p).run (fun _ _ _ h => untouched_sem h) hs

lemma Frame.untouched {s s' : State} (h : Frame s s') (hs : s.Untouched) : s'.Untouched :=
  h.dmaMem.trans (Eq.trans hs h.fresh.symm)

lemma untouched_step {k k' : Config} {l : Call} (hs : Shape k.drv) (hu : k.drv.Untouched)
    (h : session.next k l = some k') : k'.drv.Untouched := by
  cases l with
  | queueCommand c e =>
    obtain ⟨-, -, rfl⟩ := next_queueCommand h
    simpa using untouched_run _ hu
  | complete u st n received e =>
    obtain ⟨-, o, -, rfl⟩ := next_complete h
    simpa using ((hs.frame_giveBack u st n received).trans frame_runCallback).untouched hu
  | handler hd c e =>
    obtain ⟨-, -, rfl⟩ := next_handler h
    simpa using (runHandler_keeps hs hd).1.untouched hu

/-- **In every run the coherent memory is untouched.** -/
theorem untouched_reach {C : Config → Call → Prop} {k : Config} (hk : session.Reach C k) :
    k.drv.Untouched :=
  (System.Reach.invariant (S := session) (I := fun k => Shape k.drv ∧ k.drv.Untouched)
    (fun _ h => ⟨h.1.shape, h.1.dmaMem⟩)
    (fun _ _ _ hs _ h => ⟨shape_step hs.1 h, untouched_step hs.1 hs.2 h⟩) hk).2

/-! ## The data phase of a write -/

/-- **What a write sends.** When the CBW of a command with data for the device has
been sent and `cbw_callback` submits `data_urb`, the `bufferlength` bytes at
`transfer_dma` are the data of the command exactly when the allocator happened to
find these very bytes in the coherent memory. -/
theorem sent_data_iff {k : Config} (hk : session.Reachable k) {u : UrbId} {o c : CmndId}
    (hu : k.drv.inflight u = some o) (hcb : u.callback = .cbwCallback)
    (hc : k.drv.activeScmd = some c) {st : Int} (hst : ¬ st < 0) (hop : k.drv.opcode u ≠ 0x12)
    (hlen : 0 < k.drv.dev.bufferlength) (hdir : k.drv.dev.direction = .dmaToDevice)
    (hidle : k.drv.inflight .data = none) {e : Env} (hsubmit : e.submit = 0) (n : UInt32)
    (received : List UInt8) :
    ∃ s', runCallback e u o (k.drv.giveBack u st n received) = .done () s' ∧
      s'.inflight .data = some o ∧ (s'.urb .data).noTransferDmaMap = true ∧
      (s'.urb .data).transferBufferLength = k.drv.dev.bufferlength ∧
      (s'.dmaBytes (s'.urb .data).transferDma k.drv.dev.bufferlength.toNat = (k.drv.cmnd c).data ↔
        k.drv.freshBytes (k.drv.dev.dma .data) k.drv.dev.bufferlength.toNat =
          (k.drv.cmnd c).data) := by
  have hs : Shape k.drv := shape_reach hk
  obtain ⟨hfilled, hctx⟩ := giveBack_filled st n received hs hu
  have hactive : (k.drv.giveBack u st n received).activeScmd = some c :=
    (congrArg Traffic.active (k.drv.traffic_giveBack u st n received)).trans hc
  have hdata : (k.drv.cmnd c).length ≠ 0 :=
    matched_reach hk c hc ▸ UInt32.pos_iff_ne_zero.1 hlen
  obtain ⟨s₁, hrun, hs₁, hc₁, hdev, -, hmem, ht⟩ := run_cbwCallback_rest e o
    (hs.giveBack u st n received) hcb (by rw [hfilled]; simp) hactive (by simpa using hdata)
    (by simpa using hst) (by rwa [opcode_giveBack st n received hs hcb])
  rw [k.drv.giveBack_dev] at hdev
  have hin : s₁.inflight .data = none := by
    have hland : s₁.traffic.inflight = (k.drv.giveBack u st n received).traffic.inflight := by
      rw [ht]
      split <;> rfl
    have hne : UrbId.data ≠ u := by
      rintro rfl
      cases hcb
    rw [show s₁.inflight = (k.drv.traffic.land u).inflight from
      hland.trans (congrArg Traffic.inflight (k.drv.traffic_giveBack u st n received))]
    simpa [hne] using hidle
  have hmem' : s₁.dmaMem = k.drv.fresh :=
    hmem.trans ((hs.frame_giveBack u st n received).dmaMem.trans (untouched_reach hk))
  have hsent : runCallback e u o (k.drv.giveBack u st n received) = .done ()
      ((s₁.ready .data ⟨false, s₁.dev.bulkOutEndpointaddr⟩ s₁.dev.bufferlength
        .dataCallback).submitOrFail e o c .data) := by
    rw [complete_eq e st n received hs hu, hcb]
    exact hrun.trans (run_submit_data e o hs₁ hc₁ (hdev ▸ hlen) (hdev ▸ hdir))
  refine ⟨_, hsent, ?_, ?_, ?_, ?_⟩
  all_goals simp [State.submitOrFail, State.submitValue, State.submit, State.ready, hin, hsubmit,
    State.fillBulkUrb, hdev, State.dmaBytes, State.freshBytes, hmem', UrbId.buf]

/-- Two writes of four bytes `0xAA`. -/
def writeFour (_ : CmndId) : Cmnd := .plain 0x2A .dmaToDevice 4 0xAA

/-- A write for which the allocator finds the data in the coherent memory already. -/
theorem sent_data_iff_lucky : ∃ (k : Config) (s' : State),
    runCallback {} .cbw 0 (k.drv.giveBack .cbw 0 31 []) = .done () s' ∧
      s'.inflight .data = some 0 ∧ (s'.urb .data).noTransferDmaMap = true ∧
      (s'.urb .data).transferBufferLength = k.drv.dev.bufferlength ∧
      (s'.dmaBytes (s'.urb .data).transferDma k.drv.dev.bufferlength.toNat = (k.drv.cmnd 0).data ↔
        k.drv.freshBytes (k.drv.dev.dma .data) k.drv.dev.bufferlength.toNat =
          (k.drv.cmnd 0).data) := by
  have hk := System.reach_get
    [.queueCommand 0 { coherent := fun _ => some (0x1000, fun _ => 0xAA) }]
    (reach_start (fun _ _ => True) writeFour) (by decide +kernel) (by decide +kernel)
  have hst : ¬ (0 : Int) < 0 := by decide
  obtain ⟨s', h⟩ := sent_data_iff (u := .cbw) (e := {}) hk rfl rfl rfl hst (by decide +kernel)
    (by decide +kernel) rfl rfl rfl 31 []
  exact ⟨_, s', h⟩

/-- In general the device is sent other bytes than those of the command. -/
theorem write_sends_other_bytes : ∃ k : Config, session.Reachable k ∧ k.oops = false ∧
    k.accepted = [0] ∧ k.drv.inflight .data = some 0 ∧
    (k.drv.urb .data).noTransferDmaMap = true ∧
    k.drv.dmaBytes (k.drv.urb .data).transferDma 4 = [0, 0, 0, 0] ∧
    (k.drv.cmnd 0).data = [0xAA, 0xAA, 0xAA, 0xAA] := by
  refine System.exists_reachable [.queueCommand 0 {}, .complete .cbw 0 31 [] {}]
    (reach_start (fun _ _ => True) writeFour) ?_
  decide +kernel

end KernelDriverLab.UsbV1
