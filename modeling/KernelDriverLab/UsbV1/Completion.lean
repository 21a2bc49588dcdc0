import KernelDriverLab.UsbV1.Exclusive

/-!
# Completing a command once

`scsi_done` must be called at most once for a command, and never for one that
`queue_command` refuses.  The driver breaks this wherever it goes on after
`scsi_done` as if it had not called it: in `queue_command` when the submission
fails, after REQUEST SENSE, and in `usb_eh_abort`, which completes the command that
the killed URB has just completed.  `data_callback` goes on as well, but stops at the
null buffer of `csw_urb` before it completes the command again.  In the runs without
such a step the accounts are right.
-/

namespace KernelDriverLab.UsbV1

open Lib Prog

/-- The steps that complete no command twice: the CBW can be submitted, `data_urb` does
not follow REQUEST SENSE, and a command is aborted only when it is not completed and its
CBW is not in flight. -/
def Once (k : Config) : Call → Prop
  | .queueCommand c e => e.usable (k.drv.cmnd c).length = true → e.submit = 0
  | .complete u st _ _ _ => ¬ k.drv.SenseGoesOn u st
  | .handler h c _ => h = .abort ∧ c ∈ k.accepted ∧ c ∉ k.drv.done ∧
      k.drv.inflight .cbw = none ∧ k.drv.inflight .sec = none

instance (k : Config) : (l : Call) → Decidable (Once k l)
  | .queueCommand _ _ => inferInstanceAs (Decidable (_ → _))
  | .complete _ _ _ _ _ => inferInstanceAs (Decidable (¬ _))
  | .handler _ _ _ => inferInstanceAs (Decidable (_ ∧ _))

/-- Such steps also keep to one URB at a time. -/
lemma Once.exclusive {k : Config} {l : Call} (h : Once k l) : Exclusive k l := by
  cases l with
  | queueCommand c e => trivial
  | complete u st n received e => exact fun hsense => absurd hsense h
  | handler hd c e => exact ⟨h.1, h.2.2.2.2⟩

/-- A completion completes its command at most once while `csw_urb` is not filled and nothing
follows REQUEST SENSE. -/
lemma Traffic.Completes.once {u : UrbId} {st : Int} {op : UInt8} {next : Option UrbId} {rv : Int}
    {o : CmndId} {data filled : Prop} {t : Traffic} {out : Outcome Traffic Unit}
    (h : Completes u st op next rv o o data filled t out) (hin : t.inflight = fun _ => none)
    (hunfilled : ¬ filled)
    (hsense : u.callback = .cbwCallback → data → ¬ st < 0 → op = 0x03 → next = none) :
    out.state.done = t.done ∨ out.state.done = o :: t.done := by
  cases h with
  | null | inquiryFault => exact .inl rfl
  | cbwBad => exact .inr rfl
  | dataFault =>
    -- a bad status completes the command; then the null buffer stops the function
    rw [Outcome.state_oops, badStatus]
    split
    · exact .inr rfl
    · exact .inl rfl
  | inquiry _ _ _ hfilled | data _ hfilled | cswGood _ hfilled | cswBad _ hfilled =>
    exact absurd hfilled hunfilled
  | cbw hu hd hst hop =>
    -- REQUEST SENSE may complete the command, or the failed submission, but not both
    cases next with
    | none =>
      simp only [followOn, sense, Outcome.state_done]
      split
      · exact .inr rfl
      · exact .inl rfl
    | some v =>
      have hop' : op ≠ 0x03 := fun h => (by cases hsense hu hd hst h)
      simp only [followOn, trySubmit, sense, hop', hin, if_true, if_false, Outcome.state_done]
      split
      · exact .inl rfl
      · exact .inr rfl

/-- While `csw_urb` is not filled `data_callback` stops before it completes the command as good. -/
lemma Traffic.Completes.data_oops {st : Int} {op : UInt8} {next : Option UrbId} {rv : Int}
    {o c : CmndId} {data filled : Prop} {t : Traffic} {out : Outcome Traffic Unit}
    (h : Completes .data st op next rv o c data filled t out) (hunfilled : ¬ filled) :
    out = .oops t ∨ out = .oops (t.badStatus st c) := by
  cases h with
  | null => exact .inl rfl
  | dataFault => exact .inr rfl
  | data _ hfilled => exact absurd hfilled hunfilled
  | cbwBad hu | inquiryFault hu | inquiry hu | cbw hu | cswGood hu | cswBad hu => cases hu

/-- With `cbw_urb` idle `usb_eh_abort` completes its command, unless `data_urb` is in flight:
then the killed URB completes the active command, and the function stops. -/
lemma abort_done (e : Env) (c : CmndId) {s : State} (hs : Unfilled s)
    (hcbw : s.inflight .cbw = none) :
    (runHandler .abort c e s).state.done = c :: s.done ∨
      ∃ o, s.inflight .data = some o ∧ ((runHandler .abort c e s).state.done = s.done ∨
        ∃ a, s.activeScmd = some a ∧ (runHandler .abort c e s).state.done = a :: s.done) := by
  have hcsw : s.inflight .csw = none := by
    by_contra h
    exact hs.unfilled (hs.shape.filled .csw h)
  have hkills : run (killSem e c) killUrbs s = run (killSem e c) (killUrb .data) s := by
    simp only [killUrbs, run_bind, run_killUrb e c hs.shape .cbw, hcbw,
      run_killUrb e c hs.shape .csw, hcsw]
  simp only [runHandler, Handler.body, run_usbEhAbort, hkills, run_killUrb e c hs.shape .data]
  cases hdata : s.inflight .data with
  | none => exact .inl rfl
  | some o =>
    refine .inr ⟨o, rfl, ?_⟩
    -- the killed URB runs `data_callback`, which ends in an oops
    cases ha : s.activeScmd with
    | none =>
      dsimp only
      rw [complete_none e (-ENOENT) 0 [] hs.shape hdata ha]
      exact .inl (congrArg Traffic.done (s.traffic_giveBack .data (-ENOENT) 0 []))
    | some a =>
      have h := (traffic_complete e (-ENOENT) 0 [] hs.shape hdata ha).data_oops hs.unfilled
      dsimp only
      cases hrun : runCallback e .data o (s.giveBack .data (-ENOENT) 0 []) with
      | done x t => simp [hrun, Outcome.map] at h
      | oops t =>
        simp only [hrun, Outcome.map, Outcome.oops.injEq] at h
        exact h.imp (congrArg Traffic.done) fun h => ⟨a, rfl, congrArg Traffic.done h⟩

/-- The accounts of an orderly device: no command is completed twice, and only
accepted ones are. -/
structure Accounts (k : Config) : Prop where
  nodup : k.drv.done.Nodup
  accepted : ∀ c ∈ k.drv.done, c ∈ k.accepted

namespace Accounts

variable {k k' : Config}

lemma keep (ha : Accounts k) (hdone : k'.drv.done = k.drv.done)
    (hacc : ∀ c ∈ k.accepted, c ∈ k'.accepted) : Accounts k' :=
  ⟨hdone ▸ ha.nodup, fun c hc => hacc c (ha.accepted c (hdone ▸ hc))⟩

lemma complete (ha : Accounts k) {c : CmndId} (hc : c ∈ k.accepted) (hnew : c ∉ k.drv.done)
    (hdone : k'.drv.done = c :: k.drv.done) (hacc : k'.accepted = k.accepted) : Accounts k' where
  nodup := hdone ▸ List.nodup_cons.2 ⟨hnew, ha.nodup⟩
  accepted d hd := by
    rw [hacc]
    rcases List.mem_cons.1 (hdone ▸ hd) with rfl | hd
    · exact hc
    · exact ha.accepted d hd

/-- **The step lemma.** -/
theorem step (hk : Orderly k) (ha : Accounts k) {l : Call} (hc : Once k l)
    (h : session.next k l = some k') : Accounts k' := by
  cases l with
  | queueCommand c e =>
    obtain ⟨ho, hmay, rfl⟩ := next_queueCommand h
    obtain ⟨rv, s', hrun, -, ht⟩ := traffic_queueCommand e c hk.shape
    rw [hrun]
    have hin : k.drv.traffic.inflight = fun _ => none := hk.idle ho hmay
    rcases Traffic.queue_idle hin (e.usable (k.drv.cmnd c).length) (cbwUrb k.drv.dev.count) e.submit
      c with ⟨-, h⟩ | ⟨-, -, h⟩ | ⟨hu, hrv, -⟩
    · obtain ⟨rfl, hs⟩ := Prod.mk.inj (ht.trans h)
      exact ha.keep (by simpa using congrArg Traffic.done hs) fun _ => id
    · obtain ⟨rfl, hs⟩ := Prod.mk.inj (ht.trans h)
      exact ha.keep (by simpa using congrArg Traffic.done hs) fun _ => List.mem_cons_of_mem _
    · exact absurd (hc hu) hrv
  | complete u st n received e =>
    obtain ⟨ho, o, hu, rfl⟩ := next_complete h
    obtain ⟨hactive, hacc, hdone, hin⟩ := (hk.traffic ho).land hu
    have hdone' := (traffic_complete e st n received hk.shape hu hactive).once hin
      hk.unfilled.unfilled fun hcb hd hst hop => by
        by_contra hnext
        exact hc ⟨hcb, hst, hop, hk.unfilled.matched.nextUrb hactive hd hnext⟩
    rw [Outcome.state_map] at hdone'
    rcases hdone' with hd | hd
    · exact ha.keep (by simpa using hd) (by simp)
    · exact ha.complete hacc hdone (by simpa using hd) (by simp)
  | handler hd c e =>
    obtain ⟨rfl, hacc, hnew, hcbw, hsec⟩ := hc
    obtain ⟨ho, -, rfl⟩ := next_handler h
    rcases abort_done e c hk.unfilled hcbw with hd | ⟨o, hdata, hd | ⟨a, hactive, hd⟩⟩
    · exact ha.complete hacc hnew (by simpa using hd) (by simp)
    · exact ha.keep (by simpa using hd) (by simp)
    · obtain ⟨hactive', hacc', hnew', -⟩ := (hk.traffic ho).land hdata
      obtain rfl : o = a := Option.some.inj (hactive'.symm.trans hactive)
      exact ha.complete hacc' hnew' (by simpa using hd) (by simp)

lemma init (h : session.Init k) : Accounts k :=
  ⟨by simp [h.1.done], by simp [h.1.done]⟩

end Accounts

/-- **At most one completion.** In every run whose steps meet `Once`, `scsi_done` is
called at most once for each command and never for a refused one. -/
theorem done_once {k : Config} (hk : session.Reach Once k) :
    k.drv.done.Nodup ∧ ∀ c ∈ k.refused, c ∉ k.drv.done := by
  obtain ⟨hord, hacc⟩ := System.Reach.invariant (S := session)
    (I := fun k => Orderly k ∧ Accounts k) (fun _ h => ⟨.init h, .init h⟩)
    (fun _ _ _ hk hc h => ⟨hk.1.step hc.exclusive h, hk.2.step hk.1 hc h⟩) hk
  exact ⟨hacc.nodup, fun c hc hd => hord.books.disjoint c (hacc.accepted c hd) hc⟩

/-- A READ(10) is aborted when it is stuck, and a REQUEST SENSE is answered. -/
theorem done_once_readThenSense : ∃ k : Config, k.accepted = [1, 0] ∧ k.drv.done = [1, 0] ∧
    k.drv.done.Nodup ∧ ∀ c ∈ k.refused, c ∉ k.drv.done := by
  have hk := System.reach_get (abortedRead ++ [.complete .sec 0 31 [] {}])
    (reach_start Once fun c => if c = 0 then .plain 0x28 .dmaFromDevice 8 0
      else .plain 0x03 .dmaFromDevice 18 0) (by decide +kernel) (by decide +kernel)
  exact ⟨_, by decide +kernel, by decide +kernel, done_once hk⟩

/-- A READ that is aborted while its CBW is in flight is completed twice, and so is a REQUEST
SENSE whose data for the device fails.  A READ whose CBW cannot be submitted is completed and
refused. -/
theorem done_twice :
    (∃ k : Config, session.Reach NoReset k ∧ k.oops = false ∧ k.drv.done = [0, 0]) ∧
    (∃ k : Config, session.Reach NoReset k ∧ k.drv.done = [0, 0] ∧ k.drv.opcode .cbw = 0x03) ∧
    ∃ k : Config, session.Reach NoReset k ∧ k.refused = [0] ∧ k.drv.done = [0] := by
  have hread := reach_start NoReset readThenReady
  refine ⟨?_, ?_, ?_⟩
  · exact System.exists_reach [.queueCommand 0 {}, .handler .abort 0 {}] hread (by decide +kernel)
      (by decide +kernel)
  · exact System.exists_reach
      [.queueCommand 0 {}, .complete .cbw 0 31 [] {}, .complete .data (-32) 0 [] {}]
      (reach_start NoReset (senseFirst .dmaToDevice)) (by decide +kernel) (by decide +kernel)
  · exact System.exists_reach [.queueCommand 0 { submit := -ENOMEM }] hread (by decide +kernel)
      (by decide +kernel)

end KernelDriverLab.UsbV1
