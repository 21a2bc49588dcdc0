import KernelDriverLab.UsbV1.Wrapping

/-!
# What a command block wrapper in flight carries

`cbw_callback` reads the opcode and the rest of the descriptor block from the buffer of its URB,
and the length from the active command.  Both belong to one command in every run: `count`
changes only when no URB of a wrapper is left in flight, so the wrapper in flight is in the
buffer that `queue_command` has written last.
-/

namespace KernelDriverLab.UsbV1

open Lib Prog

/-- What the URBs of the wrappers carry while no function is running. -/
structure Carries (s : State) : Prop where
  selected : ∀ u, u.callback = .cbwCallback → s.inflight u ≠ none → u = cbwUrb s.dev.count
  data : ∀ c u, s.activeScmd = some c → u.callback = .cbwCallback → s.inflight u ≠ none →
    s.HasData (s.cmnd c).length
  /-- Without the data buffer that it needs the active command has not been wrapped. -/
  wrapped : ∀ c u, s.activeScmd = some c → u.callback = .cbwCallback → s.inflight u ≠ none →
    ((s.cmnd c).length ≠ 0 → s.dev.buffer .data ≠ none) → (s.cmnd c).cmdLen ≤ 32 →
    ∃ tag old, s.buf u.buf = overwrite old ((s.cmnd c).wrapper tag).bytes

/-! ## What continues a command -/

section Continue

variable {e : Env} {u v : UrbId} {o c : CmndId} {s t : State}

/-- The wrapper and the length are determined by the request. -/
lemma wrapper_congr {x y : Cmnd} (h : y.request = x.request) :
    y.wrapper = x.wrapper ∧ y.length = x.length ∧ y.cmdLen = x.cmdLen := by
  simp only [Cmnd.request, Prod.mk.injEq] at h
  obtain ⟨hcmnd, hlen, hdir, hlength⟩ := h
  refine ⟨funext fun tag => ?_, hlength, hlen⟩
  simp only [Cmnd.wrapper, Cmnd.cbLength, hcmnd, hlen, hdir, hlength]

lemma Carries.continue (hs : Carries s) (hk : Continued s t) (hf : Frame s t)
    (hin : ∀ v, v.callback = .cbwCallback → t.inflight v ≠ none →
      s.inflight v ≠ none ∧ t.dev.count = s.dev.count) : Carries t := by
  have hactive (c : CmndId) (hc : t.activeScmd = some c) : s.activeScmd = some c := by
    rcases hk.active with h | h
    · exact h ▸ hc
    · rw [h] at hc
      cases hc
  constructor
  case selected =>
    intro v hv hflight
    obtain ⟨hbefore, hcount⟩ := hin v hv hflight
    rw [hcount]
    exact hs.selected v hv hbefore
  case data =>
    intro c v hc hv hflight
    rw [State.HasData, (wrapper_congr (hk.request c)).2.1, hk.dev.bufferlength, hk.dev.buffer,
      hf.buf .data (by decide)]
    exact hs.data c v (hactive c hc) hv (hin v hv hflight).1
  case wrapped =>
    intro c v hc hv hflight hptr hlen
    obtain ⟨hwrapper, hlength, hcmdLen⟩ := wrapper_congr (hk.request c)
    have hne : v.buf ≠ .csw := by cases v <;> simp [UrbId.callback, UrbId.buf] at hv ⊢
    rw [hwrapper, hf.buf _ hne]
    rw [hlength, hk.dev.buffer] at hptr
    exact hs.wrapped c v (hactive c hc) hv (hin v hv hflight).1 hptr (hcmdLen ▸ hlen)

/-- No completion submits an URB of a wrapper. -/
lemma Traffic.Completes.cbw_inflight {t : Traffic} {st : Int} {op : UInt8} {next : Option UrbId}
    {rv : Int} {data filled : Prop} {out : Outcome Traffic Unit}
    (h : t.Completes u st op next rv o c data filled out)
    (hnext : ∀ w, next = some w → w.callback ≠ .cbwCallback) (hv : v.callback = .cbwCallback) :
    out.state.inflight v = t.inflight v := by
  cases h with
  | cbw hu hd hst hop =>
    have hsense : (t.sense op c).inflight = t.inflight := by
      unfold sense
      split <;> rfl
    cases hn : next with
    | none => simp [followOn, hsense]
    | some w =>
      have hne : v ≠ w := fun heq => hnext w hn (heq ▸ hv)
      simp only [followOn, trySubmit, Outcome.state_done]
      repeat' split
      all_goals simp [hsense, hne]
  | dataFault => simp
  | data | cswGood => simp [settle]
  | cswBad => simp
  | _ => rfl

lemma nextUrb_callback (d : Dev) (w : UrbId) (hw : d.nextUrb = some w) :
    w.callback ≠ .cbwCallback := by
  unfold Dev.nextUrb at hw
  split_ifs at hw <;> obtain rfl := Option.some.inj hw <;> simp [UrbId.callback]

/-- After a completion the URBs of wrappers in flight are those of before, without that one. -/
lemma complete_cbw_inflight (hs : Shape s) (hu : s.inflight u = some o) (st : Int) (n : UInt32)
    (received : List UInt8) (hv : v.callback = .cbwCallback)
    (hflight : (runCallback e u o (s.giveBack u st n received)).state.inflight v ≠ none) :
    v ≠ u ∧ s.inflight v ≠ none := by
  have hland : (runCallback e u o (s.giveBack u st n received)).state.inflight v =
      (s.traffic.land u).inflight v := by
    cases hc : s.activeScmd with
    | none =>
      rw [complete_none e st n received hs hu hc]
      exact congrFun (congrArg Traffic.inflight (s.traffic_giveBack u st n received)) v
    | some c =>
      have h := (traffic_complete e st n received hs hu hc).cbw_inflight
        (nextUrb_callback _) hv
      rwa [Outcome.state_map] at h
  rw [hland] at hflight
  by_cases hvu : v = u
  · simp [hvu] at hflight
  · exact ⟨hvu, by simpa [hvu] using hflight⟩

/-- Only `cbw_callback` on a good status can change `count`. -/
lemma complete_dev (hs : Shape s) (hu : s.inflight u = some o) {st : Int} {n : UInt32}
    {received : List UInt8} (hst : u.callback = .cbwCallback → st < 0)
    (hrun : runCallback e u o (s.giveBack u st n received) = .done () t) : t.dev = s.dev := by
  obtain ⟨hfilled, hctx⟩ := giveBack_filled st n received hs hu
  have hs' := hs.giveBack u st n received
  cases hc : s.activeScmd with
  | none =>
    rw [complete_none e st n received hs hu hc] at hrun
    cases hrun
  | some c =>
    have hc' : (s.giveBack u st n received).activeScmd = some c :=
      (congrArg Traffic.active (s.traffic_giveBack u st n received)).trans hc
    by_cases hcsw : u = .csw
    · rw [complete_csw e st n received hs hu hc hcsw] at hrun
      obtain rfl := (Outcome.done.inj hrun).2
      unfold State.judge
      split <;> simp [State.finish]
    by_cases hd : (s.cmnd c).length = 0
    · rw [complete_null e st n received hs hu hc hcsw hd] at hrun
      cases hrun
    have hd' : ((s.giveBack u st n received).cmnd c).length ≠ 0 := by simpa using hd
    cases hcb : u.callback with
    | cbwCallback =>
      rw [complete_eq e st n received hs hu, hcb] at hrun
      have hbad := run_cbwCallback_bad e o hs' (by rw [hfilled]; simp) hc' hd'
        (by simpa using hst hcb)
      obtain rfl := (Outcome.done.inj (hbad.symm.trans hrun)).2
      simp [State.finish]
    | dataCallback =>
      rw [complete_eq e st n received hs hu, hcb] at hrun
      rcases run_dataCallback e o hs' hctx hc' hd' with ⟨s', h, -⟩ | ⟨-, f, h⟩
      · cases h.symm.trans hrun
      · obtain rfl := (Outcome.done.inj (h.symm.trans hrun)).2
        simp [State.finish, State.faked]
    | cswCallback => cases u <;> simp [UrbId.callback] at hcb hcsw

/-- A completion keeps what the wrappers carry. -/
lemma Carries.complete (hcarries : Carries s) (hs : Shape s) (hu : s.inflight u = some o)
    {st : Int} {n : UInt32} {received : List UInt8}
    (hrun : runCallback e u o (s.giveBack u st n received) = .done () t) : Carries t := by
  have hk := continued_complete (e := e) (u := u) (c := o) (s := s) st n received
  have hf := (hs.frame_giveBack u st n received).trans
    (frame_runCallback (e := e) (u := u) (c := o))
  rw [hrun] at hk hf
  refine hcarries.continue hk hf fun v hv hflight => ?_
  obtain ⟨hvu, hbefore⟩ := complete_cbw_inflight (e := e) hs hu st n received hv (by rwa [hrun])
  refine ⟨hbefore, ?_⟩
  by_cases hcb : u.callback = .cbwCallback
  · -- both URBs would be the one that `count` selects
    have hsame : u = v := (hcarries.selected u hcb (by simp [hu])).trans
      (hcarries.selected v hv hbefore).symm
    exact absurd hsame.symm hvu
  · rw [complete_dev hs hu (fun h => absurd h hcb) hrun]

lemma killUrb_dev (hs : Shape s) (u : UrbId)
    (hrun : run (killSem e c) (killUrb u) s = .done () t) : Shape t ∧ t.dev = s.dev := by
  have hshape := (killUrb_effect e c hs u).1
  rw [hrun] at hshape
  refine ⟨hshape, ?_⟩
  rw [run_killUrb e c hs] at hrun
  cases hu : s.inflight u with
  | none =>
    simp only [hu, Outcome.done.injEq, true_and] at hrun
    rw [hrun]
  | some o =>
    simp only [hu] at hrun
    exact complete_dev hs hu (fun _ => by decide) hrun

lemma abort_dev (hs : Shape s) {rv : Int} (hrun : runHandler .abort c e s = .done rv t) :
    t.dev = s.dev := by
  simp only [runHandler, Handler.body, run_usbEhAbort] at hrun
  cases h : run (killSem e c) killUrbs s with
  | oops s' => simp [h] at hrun
  | done x s' =>
    simp only [h, Outcome.done.injEq] at hrun
    obtain ⟨-, rfl⟩ := hrun
    simp only [killUrbs, run_bind] at h
    cases h₁ : run (killSem e c) (killUrb .cbw) s with
    | oops _ => simp [h₁] at h
    | done _ s₁ =>
      obtain ⟨hs₁, hd₁⟩ := killUrb_dev hs .cbw h₁
      simp only [h₁] at h
      cases h₂ : run (killSem e c) (killUrb .csw) s₁ with
      | oops _ => simp [h₂] at h
      | done _ s₂ =>
        obtain ⟨hs₂, hd₂⟩ := killUrb_dev hs₁ .csw h₂
        simp only [h₂] at h
        exact ((killUrb_dev hs₂ .data h).2.trans hd₂).trans hd₁

end Continue

/-! ## Runs -/

section Runs

variable {e : Env} {c : CmndId} {s t : State} {k k' : Config}

/-- `queue_command` puts at most the selected URB in flight. -/
lemma Traffic.queue_inflight {t : Traffic} {usable : Bool} {u v : UrbId} {rv : Int}
    (h : (t.queue usable u rv c).2.inflight v ≠ none) : v = u ∨ t.inflight v ≠ none := by
  by_cases hv : v = u
  · exact .inl hv
  · refine .inr ?_
    unfold Traffic.queue trySubmit at h
    split_ifs at h <;> simpa [hv] using h

/-- What `queue_command` leaves of its command, whether it accepts it or not. -/
lemma queueCommand_leaves (hs : Shape s) {rv : Int}
    (hrun : run (sem e c) (queueCommand c) s = .done rv t) :
    t.activeScmd = some c ∧ t.dev.count = s.dev.count ∧ t.HasData (t.cmnd c).length ∧
      (((t.cmnd c).length ≠ 0 → t.dev.buffer .data ≠ none) → (t.cmnd c).cmdLen ≤ 32 →
        ∃ tag old, t.buf (cbwUrb s.dev.count).buf =
          overwrite old ((t.cmnd c).wrapper tag).bytes) := by
  obtain ⟨rv', t', hrun', -, ht⟩ := traffic_queueCommand e c hs
  obtain ⟨rfl, rfl⟩ := Outcome.done.inj (hrun.symm.trans hrun')
  have hactive : t.activeScmd = some c := by
    have := (s.traffic.queue_effect (e.usable (s.cmnd c).length) (cbwUrb s.dev.count)
      e.submit c).1
    rwa [← ht] at this
  refine ⟨hactive, ?_⟩
  cases hu : e.usable (s.cmnd c).length with
  | true =>
    obtain ⟨-, rv', t', hrun', hw⟩ := queueCommand_wraps e c ⟨hs.urb_ptr, hs.buf_ptr⟩ hu
    obtain ⟨rfl, rfl⟩ := Outcome.done.inj (hrun.symm.trans hrun')
    obtain ⟨hwrapper, hlength, hcmdLen⟩ := wrapper_congr (hw.request c)
    rw [hwrapper, hlength, hcmdLen]
    exact ⟨hw.count, hw.data, fun _ hlen => ⟨_, hw.buf hlen⟩⟩
  | false =>
    obtain ⟨t', hrun', hsame, -, hdata, hlen0, hnone⟩ := run_queueCommand_refused e c hu
    obtain ⟨rfl, rfl⟩ := Outcome.done.inj (hrun.symm.trans hrun')
    have hcmnd : t.cmnd c = s.cmnd c := congrFun hsame.cmnd c
    rw [hcmnd]
    exact ⟨hsame.count, hdata, fun hptr => absurd hnone (hptr hlen0)⟩

/-- Handing over a command puts its wrapper and its data buffer in place. -/
lemma Carries.queue (hcarries : Carries s) (hs : Shape s) {rv : Int}
    (hrun : run (sem e c) (queueCommand c) s = .done rv t) : Carries t := by
  obtain ⟨rv', t', hrun', -, ht⟩ := traffic_queueCommand e c hs
  obtain ⟨rfl, rfl⟩ := Outcome.done.inj (hrun.symm.trans hrun')
  obtain ⟨hactive, hcount, hdata, hwrapped⟩ := queueCommand_leaves hs hrun
  have hselected (v : UrbId) (hv : v.callback = .cbwCallback) (hflight : t.inflight v ≠ none) :
      v = cbwUrb s.dev.count := by
    have hq : (s.traffic.queue (e.usable (s.cmnd c).length) (cbwUrb s.dev.count)
        e.submit c).2.inflight v ≠ none := by rwa [← ht]
    exact (Traffic.queue_inflight hq).elim id (hcarries.selected v hv)
  -- the command that is active now is `c`
  refine ⟨fun v hv hflight => hcount ▸ hselected v hv hflight, fun d v hd _ _ => ?_,
    fun d v hd hv hflight hptr hlen => ?_⟩ <;>
    obtain rfl : c = d := Option.some.inj (hactive.symm.trans hd)
  · exact hdata
  · rw [hselected v hv hflight]
    exact hwrapped hptr hlen

/-- An error handler that returns keeps what the wrappers carry, or forgets the command. -/
lemma Carries.handler (hcarries : Carries s) (hs : Shape s) {h : Handler} {rv : Int}
    (hrun : runHandler h c e s = .done rv t) : Carries t := by
  by_cases hh : h = .abort
  · subst hh
    have hk := continued_abort (e := e) (c := c) (s := s)
    have hf := (runHandler_keeps (e := e) (c := c) hs .abort).1
    have hin := (abort_effect e c hs).2.2.2 rv t hrun
    rw [hrun] at hk hf
    refine hcarries.continue hk hf fun v hv hflight => ⟨?_, by rw [abort_dev hs hrun]⟩
    rw [hin v] at hflight
    split_ifs at hflight
    · exact hflight
    · exact absurd rfl hflight
  · rw [run_reset e c hh] at hrun
    split_ifs at hrun <;> obtain ⟨-, rfl⟩ := Outcome.done.inj hrun
    · refine ⟨hcarries.selected, fun d v hd => ?_, fun d v hd => ?_⟩ <;> cases hd
    · exact hcarries

lemma carries_step {l : Call} (hs : Shape k.drv) (hcarries : k.oops = false → Carries k.drv)
    (h : session.next k l = some k') (ho : k'.oops = false) : Carries k'.drv := by
  cases l with
  | queueCommand c e =>
    obtain ⟨hok, -, rfl⟩ := next_queueCommand h
    obtain ⟨rv, t, hrun, -⟩ := traffic_queueCommand e c hs
    rw [hrun, Config.afterQueue_drv]
    exact (hcarries hok).queue hs hrun
  | complete u st n received e =>
    obtain ⟨hok, o, hu, rfl⟩ := next_complete h
    cases hrun : runCallback e u o (k.drv.giveBack u st n received) with
    | done x t => exact (hcarries hok).complete hs hu hrun
    | oops t =>
      rw [hrun] at ho
      cases ho
  | handler hd c e =>
    obtain ⟨hok, -, rfl⟩ := next_handler h
    cases hrun : runHandler hd c e k.drv with
    | done rv t => exact (hcarries hok).handler hs hrun
    | oops t =>
      rw [hrun] at ho
      cases ho

/-- The transfer is set up for the active command. -/
def State.Matched (s : State) : Prop :=
  ∀ c, s.activeScmd = some c → s.dev.bufferlength = (s.cmnd c).length

lemma State.Matched.continue (hs : s.Matched) (hk : Continued s t) : t.Matched := by
  intro c hc
  rw [hk.dev.bufferlength, (wrapper_congr (hk.request c)).2.1]
  rcases hk.active with h | h <;> rw [h] at hc
  · exact hs c hc
  · cases hc

lemma matched_step {l : Call} (hs : Shape k.drv) (hm : k.drv.Matched)
    (h : session.next k l = some k') : k'.drv.Matched := by
  cases l with
  | queueCommand c e =>
    obtain ⟨-, -, rfl⟩ := next_queueCommand h
    obtain ⟨rv, t, hrun, -⟩ := traffic_queueCommand e c hs
    obtain ⟨hactive, -, hdata, -⟩ := queueCommand_leaves hs hrun
    rw [hrun, Config.afterQueue_drv]
    intro d hd
    obtain rfl : c = d := Option.some.inj (hactive.symm.trans hd)
    exact hdata.1
  | complete u st n received e =>
    obtain ⟨-, o, -, rfl⟩ := next_complete h
    rw [Config.after_drv]
    exact hm.continue (continued_complete st n received)
  | handler hd c e =>
    obtain ⟨-, -, rfl⟩ := next_handler h
    rw [Config.after_drv]
    by_cases hh : hd = .abort
    · subst hh
      exact hm.continue continued_abort
    · rw [run_reset e c hh]
      split
      · exact fun d hd => (by cases hd)
      · exact hm

/-- **In every run the transfer is set up for the active command**, also after an oops. -/
theorem matched_reach {C : Config → Call → Prop} (hk : session.Reach C k) : k.drv.Matched :=
  (System.Reach.invariant (S := session) (I := fun k => Shape k.drv ∧ k.drv.Matched)
    (fun _ h => ⟨h.1.shape, fun c hc => (by rw [h.1.active] at hc; cases hc)⟩)
    (fun _ _ _ hs _ h => ⟨shape_step hs.1 h, matched_step hs.1 hs.2 h⟩) hk).2

end Runs

end KernelDriverLab.UsbV1
