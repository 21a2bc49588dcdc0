import KernelDriverLab.UsbV1.StatusUrb

/-!
# One URB at a time

The invariant that the transport is built on: at most one URB is in flight, it is
in flight for the active command, and that command was accepted and is not
completed yet.  Two kinds of steps break it.  REQUEST SENSE completes its command
and then submits `data_urb` for it, if its data goes to the device, and
`usb_eh_abort` completes its command while `sec_urb`, which it does not kill, is in
flight.  Without these steps no URB is ever filled or submitted while it is in flight.
-/

namespace KernelDriverLab.UsbV1

open Lib Prog

namespace Traffic

/-- At most one URB is in flight, and it is so for the active command, which is
one of the `accepted` and not completed. -/
inductive Orderly (accepted : List CmndId) (t : Traffic) : Prop where
  | idle (h : t.inflight = fun _ => none)
  | busy (u : UrbId) (o : CmndId) (h : t.inflight = Function.update (fun _ => none) u (some o))
      (hactive : t.active = some o) (hacc : o ∈ accepted) (hdone : o ∉ t.done)

variable {t : Traffic} {accepted : List CmndId} {u : UrbId} {o : CmndId}

/-- The URB that is given back was the only one in flight. -/
lemma Orderly.land (h : t.Orderly accepted) (hu : t.inflight u = some o) :
    t.active = some o ∧ o ∈ accepted ∧ o ∉ t.done ∧ (t.land u).inflight = fun _ => none := by
  cases h with
  | idle h => simp [h] at hu
  | busy v p h hactive hacc hdone =>
    obtain rfl : u = v := by
      by_contra hne
      simp [h, hne] at hu
    obtain rfl : p = o := by simpa [h] using hu
    exact ⟨hactive, hacc, hdone, by simp [h]⟩

/-- A completion keeps the order, unless REQUEST SENSE goes on after it has
completed its command. -/
lemma Completes.orderly {st : Int} {op : UInt8} {next : Option UrbId} {rv : Int}
    {data filled : Prop} {out : Outcome Traffic Unit}
    (h : Completes u st op next rv o o data filled t out)
    (hin : t.inflight = fun _ => none) (hactive : t.active = some o) (hacc : o ∈ accepted)
    (hdone : o ∉ t.done)
    (hsense : u.callback = .cbwCallback → data → ¬ st < 0 → op = 0x03 → next ≠ none → rv ≠ 0) :
    out.state.Orderly accepted ∧ out.state.clash = t.clash := by
  have hbad : (t.badStatus st o).inflight = fun _ => none := (t.badStatus_inflight st o).trans hin
  cases h with
  | null | cbwBad | inquiryFault | inquiry => exact ⟨.idle hin, rfl⟩
  | dataFault | data | cswGood | cswBad => exact ⟨.idle hbad, t.badStatus_clash st o⟩
  | cbw hu hd hst hop =>
    have hin' : (t.sense op o).inflight = fun _ => none := by
      unfold sense
      split <;> exact hin
    have hclash : (t.sense op o).clash = t.clash := by
      unfold sense
      split <;> rfl
    cases next with
    | none => exact ⟨.idle hin', hclash⟩
    | some v =>
      simp only [followOn, trySubmit, hin', if_true, Outcome.state_done]
      by_cases hrv : rv = 0
      · -- the command is not completed yet when its next URB is submitted
        have hop' : op ≠ 0x03 := fun h => hsense hu hd hst h (by simp) hrv
        simp only [sense, hop', hrv, if_true, if_false]
        exact ⟨.busy v o (by simp [launch, hin]) hactive hacc hdone, rfl⟩
      · simp only [hrv, if_false]
        exact ⟨.idle hin', hclash⟩

end Traffic

/-! ## The invariant -/

/-- The device works on one command at a time and has touched no URB in flight. -/
structure Orderly (k : Config) : Prop where
  unfilled : Unfilled k.drv
  books : Books k
  clash : k.drv.clash = []
  traffic : k.oops = false → k.drv.traffic.Orderly k.accepted

/-- REQUEST SENSE, whose CBW has been sent, goes on with `data_urb`. -/
def State.SenseGoesOn (s : State) (u : UrbId) (st : Int) : Prop :=
  u.callback = .cbwCallback ∧ ¬ st < 0 ∧ s.opcode u = 0x03 ∧ s.dev.nextUrb = some .data

instance (s : State) (u : UrbId) (st : Int) : Decidable (s.SenseGoesOn u st) :=
  inferInstanceAs (Decidable (_ ∧ _))

/-- The steps that keep the device orderly: after the CBW of REQUEST SENSE `data_urb`
is not submitted, and `usb_eh_abort` finds `sec_urb` idle. -/
def Exclusive (k : Config) : Call → Prop
  | .queueCommand _ _ => True
  | .complete u st _ _ e => k.drv.SenseGoesOn u st → e.submit ≠ 0
  | .handler h _ _ => h = .abort ∧ k.drv.inflight .sec = none

instance (k : Config) : (l : Call) → Decidable (Exclusive k l)
  | .queueCommand _ _ => inferInstanceAs (Decidable True)
  | .complete _ _ _ _ _ => inferInstanceAs (Decidable (_ → _))
  | .handler _ _ _ => inferInstanceAs (Decidable (_ ∧ _))

/-- With data the next URB is not `csw_urb`. -/
lemma State.Matched.nextUrb {s : State} (hm : s.Matched) {c : CmndId} (hc : s.activeScmd = some c)
    (hd : (s.cmnd c).length ≠ 0) (hnext : s.dev.nextUrb ≠ none) : s.dev.nextUrb = some .data := by
  have hlen : 0 < s.dev.bufferlength := UInt32.pos_iff_ne_zero.2 (hm c hc ▸ hd)
  unfold Dev.nextUrb at hnext ⊢
  rw [if_pos hlen] at hnext ⊢
  split
  · rfl
  · rename_i h
    exact absurd (if_neg h) hnext

namespace Orderly

variable {k k' : Config}

lemma shape (hk : Orderly k) : Shape k.drv := hk.unfilled.shape

/-- When the next command may be handed over, no URB is in flight. -/
lemma idle (hk : Orderly k) (ho : k.oops = false) {c : CmndId} (hc : k.MayQueue c) :
    k.drv.inflight = fun _ => none := by
  cases hk.traffic ho with
  | idle h => exact h
  | busy u o h hactive hacc hdone =>
    -- `o` would be accepted and neither completed nor refused
    rcases hc.2 o (hk.books.accepted o hacc) with h | h
    · exact absurd h hdone
    · exact absurd h (hk.books.disjoint o hacc)

lemma init (h : session.Init k) : Orderly k :=
  ⟨h.1.unfilled, .init h, h.1.clash, fun _ => .idle (funext h.1.inflight)⟩

/-- Handing over a command submits at most the CBW, for that command. -/
lemma queue (hk : Orderly k) {c : CmndId} {e : Env}
    (h : session.next k (.queueCommand c e) = some k') : Orderly k' := by
  have hun := hk.unfilled.step h
  have hb := hk.books.step hk.shape h
  obtain ⟨ho, hc, rfl⟩ := next_queueCommand h
  have hin : k.drv.traffic.inflight = fun _ => none := hk.idle ho hc
  have hnew : c ∉ k.drv.done := fun h => hc.1 (hk.books.done c h)
  obtain ⟨rv, s', hrun, -, ht⟩ := traffic_queueCommand e c hk.shape
  rw [hrun] at hun hb ⊢
  have hclash (h : s'.traffic.clash = k.drv.traffic.clash) :
      (k.afterQueue c (.done rv s')).drv.clash = [] := by
    simpa using h.trans hk.clash
  rcases Traffic.queue_idle hin (e.usable (k.drv.cmnd c).length) (cbwUrb k.drv.dev.count) e.submit c
    with ⟨-, h⟩ | ⟨-, -, h⟩ | ⟨-, -, h⟩ <;>
    obtain ⟨rfl, hs⟩ := Prod.mk.inj (ht.trans h)
  · exact ⟨hun, hb, hclash (by rw [hs]; rfl), fun _ => .idle (by simpa [hs] using hin)⟩
  · refine ⟨hun, hb, hclash (by rw [hs]; rfl), fun _ => ?_⟩
    simp only [Config.afterQueue, if_true, hs]
    refine .busy (cbwUrb k.drv.dev.count) c ?_ rfl List.mem_cons_self hnew
    rw [Traffic.launch_inflight, Traffic.activate_inflight, hin]
  · exact ⟨hun, hb, hclash (by rw [hs]; rfl), fun _ => .idle (by simpa [hs] using hin)⟩

lemma complete (hk : Orderly k) {u : UrbId} {st : Int} {n : UInt32} {received : List UInt8}
    {e : Env}
    (hc : Exclusive k (.complete u st n received e))
    (h : session.next k (.complete u st n received e) = some k') : Orderly k' := by
  have hun := hk.unfilled.step h
  have hb' := hk.books.step hk.shape h
  obtain ⟨ho, o, hu, rfl⟩ := next_complete h
  obtain ⟨hactive, hacc, hdone, hin⟩ := (hk.traffic ho).land hu
  obtain ⟨hord, hcl⟩ := (traffic_complete e st n received hk.shape hu hactive).orderly hin hactive
    hacc hdone fun hcb hd hst hop hnext =>
      hc ⟨hcb, hst, hop, hk.unfilled.matched.nextUrb hactive hd hnext⟩
  rw [Outcome.state_map] at hord hcl
  exact ⟨hun, hb', by simpa using hcl.trans hk.clash, fun _ => by simpa using hord⟩

lemma abort (hk : Orderly k) {c : CmndId} {e : Env} (hsec : k.drv.inflight .sec = none)
    (h : session.next k (.handler .abort c e) = some k') : Orderly k' := by
  have hun := hk.unfilled.step h
  have hb' := hk.books.step hk.shape h
  obtain ⟨ho, -, rfl⟩ := next_handler h
  obtain ⟨hcl, -, -, hin⟩ := abort_effect e c hk.shape
  refine ⟨hun, hb', by simpa using hcl.trans hk.clash, fun ho' => ?_⟩
  cases hr : runHandler .abort c e k.drv with
  | oops s => simp [hr, Config.after] at ho'
  | done rv t =>
    refine .idle (funext fun u => ?_)
    have hu := hin rv t hr u
    by_cases hsecu : u = .sec
    · simpa [hr, hsecu, hsec, Config.after] using hu
    · simpa [hr, hsecu, Config.after] using hu

/-- **The step lemma.** Every call that meets `Exclusive` keeps the device orderly. -/
theorem step (hk : Orderly k) {l : Call} (hc : Exclusive k l) (h : session.next k l = some k') :
    Orderly k' := by
  cases l with
  | queueCommand c e => exact hk.queue h
  | complete u st n received e => exact hk.complete hc h
  | handler hd c e =>
    obtain ⟨rfl, hsec⟩ := hc
    exact hk.abort hsec h

/-- **The run lemma.** -/
theorem reach (hk : session.Reach Exclusive k) : Orderly k :=
  System.Reach.invariant (S := session) (I := Orderly) (fun _ h => .init h)
    (fun _ _ _ hk hc h => hk.step hc h) hk

end Orderly

/-- **URB exclusivity.** In every run whose steps meet `Exclusive`, no URB is filled
or submitted while it is in flight. -/
theorem no_clash {k : Config} (hk : session.Reach Exclusive k) : k.drv.clash = [] :=
  (Orderly.reach hk).clash

/-- A REQUEST SENSE of 18 bytes, whose data goes in `direction`, then a WRITE and a READ. -/
def senseFirst (direction : DmaDataDirection) (c : CmndId) : Cmnd :=
  if c = 0 then .plain 0x03 direction 18 0
  else if c = 1 then .plain 0x2a .dmaToDevice 512 0
  else .plain 0x28 .dmaFromDevice 8 0

/-- A REQUEST SENSE is answered, the CBW of a WRITE fails, and a READ is handed over. -/
theorem no_clash_answered : ∃ k : Config, k.accepted = [2, 1, 0] ∧ k.drv.done = [1, 0] ∧
    k.drv.inflight .sec = some 2 ∧ k.drv.clash = [] :=
  ⟨(session.exec (.start (senseFirst .dmaFromDevice))
      [.queueCommand 0 {}, .complete .cbw 0 31 [] {}, .queueCommand 1 {},
        .complete .sec (-32) 0 [] {}, .queueCommand 2 {}]).get (by decide +kernel),
    by decide +kernel, by decide +kernel, by decide +kernel,
    no_clash (System.reach_get
      [.queueCommand 0 {}, .complete .cbw 0 31 [] {}, .queueCommand 1 {},
        .complete .sec (-32) 0 [] {}, .queueCommand 2 {}]
      (reach_start _ _) (by decide +kernel) (by decide +kernel))⟩

/-- After a REQUEST SENSE with data for the device a WRITE fills and submits `data_urb` in
flight, and after an abort the next command does so with `sec_urb`. -/
theorem urb_touched_in_flight :
    (∃ k : Config, session.Reach NoReset k ∧ k.drv.clash = [.data, .data]) ∧
    ∃ k : Config, session.Reach NoReset k ∧ k.drv.clash = [.sec, .sec] :=
  ⟨System.exists_reach
      [.queueCommand 0 {}, .complete .cbw 0 31 [] {}, .queueCommand 1 {},
        .complete .cbw 0 31 [] {}]
      (reach_start _ (senseFirst .dmaToDevice)) (by decide +kernel) (by decide +kernel),
    System.exists_reach (abortedRead ++ [.handler .abort 1 {}, .queueCommand 2 {}])
      (reach_start _ readThenReady) (by decide +kernel) (by decide +kernel)⟩

end KernelDriverLab.UsbV1
