import KernelDriverLab.UsbV1.StatusUrb

/-!
# No command is stranded

An accepted command must be completed or have an URB in flight for it, or nothing
but the timeout of the SCSI layer will ever look at it again.  The invariant is
that the one command that is not completed is active and has an URB in flight.
It breaks where `cbw_callback` returns without completing the command and without
submitting anything, with data to transfer in any direction but `DMA_TO_DEVICE`, and
where a completion function stops at a null pointer: for a command without data, for
INQUIRY, and when the data has been sent.
-/

namespace KernelDriverLab.UsbV1

open Lib Prog

namespace Traffic

/-- `c` is active and has an URB in flight. -/
def Pending (t : Traffic) (c : CmndId) : Prop := t.active = some c ∧ ∃ u, t.inflight u = some c

variable {t t' : Traffic} {u : UrbId} {rv : Int} {o c : CmndId}

/-- An accepted command is pending. -/
lemma queue_pending {usable : Bool} (h : (t.queue usable u rv c).1 = 0) :
    (t.queue usable u rv c).2.Pending c := by
  cases usable with
  | false => simp [queue, ENOMEM] at h
  | true =>
    by_cases hu : t.inflight u = none ∧ rv = 0
    · refine ⟨by simp [queue, trySubmit, hu], u, by simp [queue, trySubmit, hu]⟩
    · simp [queue, hu, ENOMEM] at h

lemma queue_done_mono {usable : Bool} : ∀ x ∈ t.done, x ∈ (t.queue usable u rv c).2.done := by
  intro x hx
  cases usable with
  | false => exact hx
  | true =>
    simp only [queue, trySubmit, Bool.true_eq_false, if_false]
    split
    · split
      · exact hx
      · exact List.mem_cons_of_mem _ hx
    · exact List.mem_cons_of_mem _ hx

lemma badStatus_done_mono (st : Int) (c : CmndId) : ∀ x ∈ t.done, x ∈ (t.badStatus st c).done := by
  intro x hx
  unfold badStatus
  split
  · exact List.mem_cons_of_mem _ hx
  · exact hx

lemma followOn_done_mono {next : Option UrbId} :
    ∀ x ∈ t.done, x ∈ (t.followOn next rv o c).done := by
  intro x hx
  cases next with
  | none => exact hx
  | some v =>
    simp only [followOn, trySubmit]
    repeat' split
    · exact hx
    all_goals exact List.mem_cons_of_mem _ hx

/-- Completions are never taken back. -/
lemma Completes.done_mono {st : Int} {op : UInt8} {next : Option UrbId} {data filled : Prop}
    {out : Outcome Traffic Unit} (h : Completes u st op next rv o c data filled t out) :
    ∀ x ∈ t.done, x ∈ out.state.done := by
  intro x hx
  have hbad := badStatus_done_mono st c x hx
  cases h with
  | cbwBad | inquiry => exact List.mem_cons_of_mem _ hx
  | null | inquiryFault => exact hx
  | dataFault => exact hbad
  | data | cswGood | cswBad => exact List.mem_cons_of_mem _ hbad
  | cbw =>
    refine followOn_done_mono x ?_
    unfold sense
    split
    · exact List.mem_cons_of_mem _ hx
    · exact hx

/-- A command that is pending stays so when an URB of another one is given back. -/
lemma Pending.land (hp : t.Pending c) (hne : t.inflight u ≠ some c) : (t.land u).Pending c := by
  obtain ⟨w, hw⟩ := hp.2
  have hwu : w ≠ u := by
    rintro rfl
    exact hne hw
  exact ⟨hp.1, w, by simpa [hwu] using hw⟩

/-- A bad status leaves a command pending or completes it. -/
lemma Pending.badStatus (hp : t.Pending c) (st : Int) :
    c ∈ (t.badStatus st c).done ∨ (t.badStatus st c).Pending c := by
  unfold Traffic.badStatus
  split
  · exact .inl List.mem_cons_self
  · exact .inr hp

/-- **The end of `cbw_callback`** completes the active command or leaves it pending, if there is
an URB to go on with. -/
lemma followOn_pending {v : UrbId} (hu : t.inflight u = some o) (hp : t.Pending c) :
    c ∈ ((t.land u).followOn (some v) rv o c).done ∨
      ((t.land u).followOn (some v) rv o c).Pending c := by
  by_cases hv : (t.land u).inflight v = none
  · by_cases hrv : rv = 0
    · -- the new URB is in flight for `o`; the one `c` had is `u` itself or untouched
      refine .inr ⟨by simp [followOn, trySubmit, hv, hrv, hp.1], ?_⟩
      obtain ⟨w, hw⟩ := hp.2
      by_cases hwu : w = u
      · subst hwu
        obtain rfl : o = c := Option.some.inj (hu.symm.trans hw)
        exact ⟨v, by simp [followOn, trySubmit, hv, hrv]⟩
      · have hland : (t.land u).inflight w = some c := by simpa [hwu] using hw
        have hwv : w ≠ v := by
          rintro rfl
          simp [hland] at hv
        exact ⟨w, by simpa [followOn, trySubmit, hv, hrv, hwv] using hland⟩
    · exact .inl (by simp [followOn, trySubmit, hv, hrv])
  · refine .inl ?_
    simp only [followOn, trySubmit, if_neg hv]
    exact List.mem_cons_self

/-- **One completion.** Afterwards the active command is completed or still pending, provided
that it has data, that `cbw_callback` has an URB to go on with, and that the URB of the data
phase fails or belonged to another command. -/
theorem Completes.pending {st : Int} {op : UInt8} {next : Option UrbId} {data filled : Prop}
    {out : Outcome Traffic Unit} (h : Completes u st op next rv o c data filled (t.land u) out)
    (hu : t.inflight u = some o) (hp : t.Pending c)
    (hcbw : u.callback = .cbwCallback → data ∧ (¬ st < 0 → op ≠ 0x12 ∧ (op ≠ 0x03 → next ≠ none)))
    (hdata : u = .data → data ∧ st < 0 ∨ o ≠ c) :
    c ∈ out.state.done ∨ out.state.Pending c := by
  have hother (hne : o ≠ c) : (t.land u).Pending c :=
    hp.land (by rw [hu]; exact fun h => hne (Option.some.inj h))
  cases h with
  | cbwBad | inquiry | data | cswGood | cswBad => exact .inl List.mem_cons_self
  | null hcsw hd =>
    cases u with
    | cbw | sec => exact absurd (hcbw rfl).1 hd
    | csw => exact absurd rfl hcsw
    | data =>
      rcases hdata rfl with ⟨h, -⟩ | hne
      · exact absurd h hd
      · exact .inr (hother hne)
  | inquiryFault hcb hst hop => exact absurd hop ((hcbw hcb).2 hst).1
  | dataFault hcb =>
    rcases hdata hcb with ⟨-, hst⟩ | hne
    · refine .inl ?_
      simp [badStatus, hst]
    · exact (hother hne).badStatus st
  | cbw hcb hd hst hop =>
    by_cases hsense : op = 0x03
    · -- REQUEST SENSE has completed the command before the next URB is tried
      refine .inl (followOn_done_mono c ?_)
      simp [sense, hsense]
    · obtain ⟨v, rfl⟩ := Option.ne_none_iff_exists'.1 (((hcbw hcb).2 hst).2 hsense)
      rw [sense, if_neg hsense]
      exact followOn_pending hu hp

end Traffic

/-! ## Runs -/

/-- The steps after which the command is completed or goes on.  `cbw_callback` has a command
with data whose CBW has failed, or which is REQUEST SENSE or is sent to the device, and is not
INQUIRY; `data_callback` has a failed transfer, or one of a command that is completed already. -/
def Served (k : Config) : Call → Prop
  | .queueCommand _ _ => True
  | .complete u st _ _ _ =>
      (u.callback = .cbwCallback → k.drv.ActiveData ∧ (¬ st < 0 → k.drv.opcode u ≠ 0x12 ∧
        (k.drv.opcode u ≠ 0x03 → k.drv.dev.nextUrb ≠ none))) ∧
      (u = .data → k.drv.ActiveData ∧ st < 0 ∨ ∀ o ∈ k.drv.inflight u, o ∈ k.drv.done)
  | .handler _ _ _ => False

instance (k : Config) : (l : Call) → Decidable (Served k l)
  | .queueCommand _ _ => inferInstanceAs (Decidable True)
  | .complete _ _ _ _ _ => inferInstanceAs (Decidable ((_ → _) ∧ (_ → _)))
  | .handler _ _ _ => inferInstanceAs (Decidable False)

/-- Every accepted command is completed or pending. -/
structure Attended (k : Config) : Prop where
  shape : Shape k.drv
  books : Books k
  pending : ∀ c ∈ k.accepted, c ∈ k.drv.done ∨ k.drv.traffic.Pending c

namespace Attended

variable {k k' : Config}

lemma init (h : session.Init k) : Attended k :=
  ⟨h.1.shape, .init h, fun c hc => by simp [h.2.2.1] at hc⟩

/-- Handing over a command: the earlier ones are all completed, because `can_queue` is 1. -/
lemma queue (hk : Attended k) {c : CmndId} (e : Env) (hmay : k.MayQueue c) :
    ∀ d ∈ (k.afterQueue c (run (sem e c) (queueCommand c) k.drv)).accepted,
      d ∈ (k.afterQueue c (run (sem e c) (queueCommand c) k.drv)).drv.done ∨
        (k.afterQueue c (run (sem e c) (queueCommand c) k.drv)).drv.traffic.Pending d := by
  obtain ⟨rv, s', hrun, -, ht⟩ := traffic_queueCommand e c hk.shape
  obtain ⟨hrv, hs⟩ := Prod.mk.inj ht
  have hold (d : CmndId) (hd : d ∈ k.accepted) : d ∈ s'.done := by
    have hdone := (hmay.2 d (hk.books.accepted d hd)).resolve_right (hk.books.disjoint d hd)
    have : d ∈ s'.traffic.done := hs ▸ Traffic.queue_done_mono d hdone
    exact this
  rw [hrun]
  by_cases h0 : rv = 0
  · simp only [Config.afterQueue, h0, if_true]
    intro d hd
    rcases List.mem_cons.1 hd with rfl | hd
    · exact .inr (hs ▸ Traffic.queue_pending (hrv ▸ h0))
    · exact .inl (hold d hd)
  · simp only [Config.afterQueue, h0, if_false]
    exact fun d hd => .inl (hold d hd)

/-- **The step lemma.** -/
theorem step (hk : Attended k) {l : Call} (hc : Served k l) (h : session.next k l = some k') :
    Attended k' := by
  refine ⟨shape_step hk.shape h, hk.books.step hk.shape h, ?_⟩
  cases l with
  | queueCommand c e =>
    obtain ⟨-, hmay, rfl⟩ := next_queueCommand h
    exact hk.queue e hmay
  | complete u st n received e =>
    obtain ⟨ho, o, hu, rfl⟩ := next_complete h
    rw [Config.after_accepted, Config.after_drv]
    intro d hd
    cases ha : k.drv.activeScmd with
    | none =>
      -- nothing is pending, so every command is completed already
      rw [complete_none e st n received hk.shape hu ha]
      have hsame : (k.drv.giveBack u st n received).done = k.drv.done :=
        congrArg Traffic.done (k.drv.traffic_giveBack u st n received)
      rcases hk.pending d hd with hdone | hp
      · exact .inl (hsame ▸ hdone)
      · exact absurd (ha.symm.trans hp.1) (by simp)
    | some a =>
      have hmoves := traffic_complete e st n received hk.shape hu ha
      have hdata (h : k.drv.ActiveData) : (k.drv.cmnd a).length ≠ 0 := by
        obtain ⟨b, hb, hlen⟩ := h
        obtain rfl : a = b := Option.some.inj (ha.symm.trans hb)
        exact hlen
      show d ∈ (State.traffic _).done ∨ _
      rw [← Outcome.state_map State.traffic]
      by_cases hdone : d ∈ k.drv.done
      · exact .inl (hmoves.done_mono d hdone)
      · have hp := (hk.pending d hd).resolve_left hdone
        obtain rfl : a = d := Option.some.inj (ha.symm.trans hp.1)
        refine hmoves.pending hu hp (fun hcb => (hc.1 hcb).imp_left hdata) fun hcb => ?_
        exact (hc.2 hcb).imp (fun h => ⟨hdata h.1, h.2⟩) fun h heq => hdone (heq ▸ h o hu)
  | handler hd c e => exact hc.elim

theorem reach (hk : session.Reach Served k) : Attended k :=
  System.Reach.invariant (S := session) (I := Attended) (fun _ h => .init h)
    (fun _ _ _ hk hc h => hk.step hc h) hk

end Attended

/-- **No stranded command.** In every run whose steps meet `Served`, whenever no
function of the driver is running, an accepted command has been completed or has an
URB in flight that was submitted for it. -/
theorem not_stranded {k : Config} (hk : session.Reach Served k) :
    ∀ c ∈ k.accepted, c ∈ k.drv.done ∨ ∃ u, k.drv.inflight u = some c :=
  fun c hc => ((Attended.reach hk).pending c hc).imp_right fun hp => hp.2

/-- A REQUEST SENSE is answered, and a WRITE is in its data phase. -/
theorem not_stranded_write : ∃ k : Config, k.accepted = [1, 0] ∧ k.drv.done = [0] ∧
    k.drv.inflight .data = some 1 ∧
    ∀ c ∈ k.accepted, c ∈ k.drv.done ∨ ∃ u, k.drv.inflight u = some c := by
  have hk := System.reach_get senseThenWrite
    (reach_start Served fun c =>
      if c = 0 then .plain 0x03 .dmaFromDevice 18 0 else .plain 0x2a .dmaToDevice 512 0)
    (by decide +kernel) (by decide +kernel)
  exact ⟨_, by decide +kernel, by decide +kernel, by decide +kernel, not_stranded hk⟩

/-- A READ(10) is left with nothing in flight once its CBW is sent. -/
theorem read_stranded : ∃ k : Config, session.Reach NoHandler k ∧ k.oops = false ∧
    k.accepted = [0] ∧ k.drv.done = [] ∧ ∀ u, k.drv.inflight u = none := by
  have hk := System.reach_get [.queueCommand 0 {}, .complete .cbw 0 31 [] {}]
    (reach_start NoHandler readThenReady) (by decide +kernel) (by decide +kernel)
  exact ⟨_, hk, by decide +kernel, by decide +kernel, by decide +kernel,
    fun u => by cases u <;> decide +kernel⟩

end KernelDriverLab.UsbV1
