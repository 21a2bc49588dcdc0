import KernelDriverLab.UsbV1.Interleaving

/-!
# Sessions are interleavings

Every run of `session` is the run of `interleaved` in which each call is scheduled
alone from its beginning to its end.  So the calls of the session do nothing that
the driver cannot do one operation at a time, and what fails in a session fails in
an interleaving.
-/

namespace KernelDriverLab.UsbV1

open Lib Prog

/-- Nothing is running. -/
def World.Calm (w : World) : Prop := w.pool.Each fun _ th => th.role.kind = .ended

/-- Nothing is running, and the device and the books are those of `k`. -/
structure World.Shows (w : World) (k : Config) : Prop where
  drv : w.drv = k.drv
  queued : w.queued = k.queued
  refused : w.refused = k.refused
  calm : w.Calm

section Alone

variable {w : World} {e : Env} {r : Role} {p : Driver Int} {v : Int} {s : State}

lemma ready_of_noKill {o : Op} (h : o.NoKill) : w.Ready o := by
  intro u hu
  rw [show o.kills = none from h] at hu
  cases hu

/-- A thread that kills nothing, scheduled alone, does what its execution does. -/
lemma alone_of_noKill {i : ℕ} (hp : All Op.NoKill p)
    (hw : interleaved.Reachable w) (hi : w.pool.threads[i]? = some ⟨r, p⟩)
    (hrun : p.run (sem e r.own) w.drv = .done v s) :
    ∃ uses, interleaved.Reachable
      { w with pool := ⟨s, w.pool.threads.set i ⟨r, .ret v⟩⟩, uses := uses } := by
  have hlt : i < w.pool.threads.length := (List.getElem?_eq_some_iff.1 hi).1
  induction p generalizing w with
  | ret a =>
    obtain ⟨rfl, rfl⟩ := Outcome.done.inj hrun
    refine ⟨w.uses, ?_⟩
    rw [← (List.getElem?_eq_some_iff.1 hi).2, List.set_getElem_self]
    exact hw
  | act o k ih =>
    cases ho : sem e r.own o w.drv with
    | oops t => simp [run_act_oops ho] at hrun
    | done x t =>
      rw [run_act_done ho] at hrun
      have hready : w.Ready o := ready_of_noKill hp.1
      have hstep : interleaved.next w (.run i e) =
          some { w with pool := ⟨t, w.pool.threads.set i ⟨r, k x⟩⟩, uses := w.noteUse r o } := by
        have hat := Pool.stepAt_done (fun r => sem e r.own) hi ho
        simp [interleaved, World.next, hi, hready, hat]
      obtain ⟨uses, hreach⟩ := ih x (hp.2 x) (hw.step trivial hstep) (by simp [hlt]) hrun
        (by simpa using hlt)
      exact ⟨uses, by simpa using hreach⟩

lemma reach_finish {i : ℕ} (hw : interleaved.Reachable w)
    (hi : w.pool.threads[i]? = some ⟨r, .ret v⟩) :
    interleaved.Reachable { w with
      pool := w.pool.put i ⟨⟨.ended, r.own⟩, .ret v⟩
      refused := if r.kind = .queue ∧ v ≠ 0 then r.own :: w.refused else w.refused } := by
  refine hw.step (l := .finish i) trivial ?_
  simp [interleaved, World.next, hi]

/-- A call that kills nothing, from its beginning to its end. -/
lemma call_of_noKill (hp : All Op.NoKill p)
    (hw : interleaved.Reachable (w.start r p)) (hrun : p.run (sem e r.own) w.drv = .done v s) :
    ∃ uses, interleaved.Reachable
      { w with
        pool := ⟨s, w.pool.threads ++ [⟨⟨.ended, r.own⟩, .ret v⟩]⟩
        refused := if r.kind = .queue ∧ v ≠ 0 then r.own :: w.refused else w.refused
        uses := uses } := by
  have hset (th th' : DriverThread) :
      (w.pool.threads ++ [th]).set w.pool.threads.length th' = w.pool.threads ++ [th'] := by simp
  obtain ⟨uses, halone⟩ := alone_of_noKill hp hw (i := w.pool.threads.length)
    (by simp [World.start, Pool.spawn]) hrun
  simp only [World.start, Pool.spawn, hset] at halone
  have hfinish := reach_finish (r := r) (v := v) halone (i := w.pool.threads.length) (by simp)
  exact ⟨uses, by simpa [Pool.put] using hfinish⟩

/-- The completion function that a kill waits for, from its beginning to its end. -/
lemma call_callback {u : UrbId} {c : CmndId} {st : Int} {n : UInt32} {received : List UInt8}
    (hw : interleaved.Reachable w) (hu : w.drv.inflight u = some c)
    (hrun : runCallback e u c (w.drv.giveBack u st n received) = .done () s) :
    ∃ v uses, interleaved.Reachable
      { w with pool := ⟨s, w.pool.threads ++ [⟨⟨.ended, c⟩, .ret v⟩]⟩, uses := uses } := by
  have hcomplete : ((w.drv.giveBack u st n received).urb u).complete = (w.drv.urb u).complete := by
    simp
  unfold runCallback at hrun
  cases hcb : (w.drv.urb u).complete with
  | none => simp [hcb] at hrun
  | some cb =>
    simp only [hcomplete, hcb] at hrun
    have hstep : interleaved.next w (.complete u st n received) =
        some ({ w with pool := { w.pool with shared := w.drv.giveBack u st n received } }.start
          ⟨.callback u, c⟩ (World.callbackProg cb u)) := by
      simp [interleaved, World.next, hu, hcb]
    have hmild : All Op.NoKill (World.callbackProg cb u) :=
      ((mild_callback cb u).mono fun _ h => h.2).bind fun _ => trivial
    have hprog : run (sem e c) (World.callbackProg cb u) (w.drv.giveBack u st n received) =
        .done 0 s := by
      simp [World.callbackProg, hrun]
    obtain ⟨uses, hreach⟩ := call_of_noKill (r := ⟨.callback u, c⟩)
      (w := { w with pool := { w.pool with shared := w.drv.giveBack u st n received } }) hmild
      (hw.step trivial hstep) hprog
    exact ⟨0, uses, by simpa using hreach⟩

/-- The device is in the state `s`, thread `i` runs `p` in the role `r` and all other
threads have ended. -/
structure World.Only (w : World) (s : State) (i : ℕ) (r : Role) (p : Driver Int) : Prop where
  drv : w.drv = s
  thread : w.pool.threads[i]? = some ⟨r, p⟩
  others : w.pool.Each fun j th => j ≠ i → th.role.kind = .ended

lemma World.Only.next {i : ℕ} {o : Op} {k : o.Ans → Driver Int} {x : o.Ans}
    (hw : interleaved.Reachable w) (honly : w.Only s i r (.act o k)) (hready : w.Ready o)
    {t : State} (hsem : sem e r.own o s = .done x t) :
    ∃ w', interleaved.Reachable w' ∧ w'.Only t i r (k x) ∧ w'.queued = w.queued ∧
      w'.refused = w.refused := by
  obtain ⟨rfl, hi, hothers⟩ := honly
  have hlt : i < w.pool.threads.length := (List.getElem?_eq_some_iff.1 hi).1
  have hat := Pool.stepAt_done (fun r : Role => sem e r.own) hi hsem
  have hstep : interleaved.next w (.run i e) =
      some { w with pool := ⟨t, w.pool.threads.set i ⟨r, k x⟩⟩, uses := w.noteUse r o } := by
    simp [interleaved, World.next, hi, hready, hat]
  refine ⟨_, hw.step trivial hstep, ⟨rfl, by simp [hlt], ?_⟩, rfl, rfl⟩
  exact Pool.each_set (fun j th _ hth => hothers j th hth) fun h => absurd rfl h

/-- One operation of an error handler.  A kill lets the completion function of its
URB run first. -/
lemma step_handler {i : ℕ} {o : Op} {k : o.Ans → Driver Int} {x : o.Ans} {t : State}
    (hw : interleaved.Reachable w) (honly : w.Only s i r (.act o k)) (hs : Shape s)
    (hr : r.isCallback = false) (hsem : killSem e r.own o s = .done x t) :
    ∃ w', interleaved.Reachable w' ∧ w'.Only t i r (k x) ∧ w'.queued = w.queued ∧
      w'.refused = w.refused := by
  by_cases hkill : ∃ u, o = .usbKillUrb u
  · obtain ⟨u, rfl⟩ := hkill
    have hquiet (w : World) (honly : w.Only t i r (.act (.usbKillUrb u) k))
        (hidle : t.inflight u = none) : w.Ready (.usbKillUrb u) := by
      rintro v hv
      obtain rfl : u = v := by simpa using hv
      refine ⟨honly.drv ▸ hidle, fun th hmem hkind => ?_⟩
      obtain ⟨j, hj⟩ := List.mem_iff_getElem?.1 hmem
      by_cases hji : j = i
      · subst hji
        rw [honly.thread] at hj
        cases hj
        have hcallback : r.kind = .callback u := hkind
        simp [Role.isCallback, hcallback] at hr
      · simp [honly.others j th hj hji] at hkind
    have heffect := (killUrb_effect e r.own hs u).2.1
    have hsame : run (killSem e r.own) (killUrb u) s = killSem e r.own (.usbKillUrb u) s :=
      (run_killUrb e r.own hs u).trans (killSem_kill e r.own u s).symm
    rw [hsame, hsem] at heffect
    have hidle : t.inflight u = none := by simpa using congrFun heffect u
    rw [killSem_kill] at hsem
    cases hu : s.inflight u with
    | none =>
      simp only [hu] at hsem
      obtain ⟨rfl, rfl⟩ := Outcome.done.inj hsem
      exact World.Only.next (e := e) hw honly (hquiet w honly hidle) rfl
    | some c =>
      simp only [hu] at hsem
      obtain ⟨rfl, hi, hothers⟩ := honly
      obtain ⟨v, uses, hreach⟩ := call_callback hw hu hsem
      have hlt : i < w.pool.threads.length := (List.getElem?_eq_some_iff.1 hi).1
      -- the completion function has ended, and the kill finds its URB idle
      have honly : World.Only
          { w with pool := ⟨t, w.pool.threads ++ [⟨⟨.ended, c⟩, .ret v⟩]⟩, uses := uses } t i r
          (.act (.usbKillUrb u) k) := by
        refine ⟨rfl, by simp [List.getElem?_append_left hlt, hi], ?_⟩
        exact Pool.Each.spawn (w := w.pool) hothers fun _ => rfl
      exact World.Only.next (e := e) hreach honly (hquiet _ honly hidle) rfl
  · rw [killSem_of_ne e r.own (not_exists.1 hkill)] at hsem
    refine World.Only.next hw honly (ready_of_noKill ?_) hsem
    cases o <;> first | rfl | exact absurd ⟨_, rfl⟩ hkill

/-- An error handler, scheduled alone but for the completion functions that it waits
for, does what its execution does. -/
lemma alone_handler {i : ℕ} (hp : All Op.Tame p) (hw : interleaved.Reachable w)
    (honly : w.Only s i r p) (hs : Shape s) (hr : r.isCallback = false) {t : State}
    (hrun : p.run (killSem e r.own) s = .done v t) :
    ∃ w', interleaved.Reachable w' ∧ w'.Only t i r (.ret v) ∧ w'.queued = w.queued ∧
      w'.refused = w.refused := by
  induction p generalizing w s with
  | ret a =>
    obtain ⟨rfl, rfl⟩ := Outcome.done.inj hrun
    exact ⟨w, hw, honly, rfl, rfl⟩
  | act o k ih =>
    cases ho : killSem e r.own o s with
    | oops t => simp [run_act_oops ho] at hrun
    | done x s' =>
      rw [run_act_done ho] at hrun
      have hs' : Shape s' := by
        have hkeep : Shape (killSem e r.own o s).state := (killSem_keeps hs hp.1).2
        simpa [ho] using hkeep
      obtain ⟨w₁, hw₁, honly₁, hq₁, hr₁⟩ := step_handler hw honly hs hr ho
      obtain ⟨w₂, hw₂, honly₂, hq₂, hr₂⟩ := ih x (hp.2 x) hw₁ honly₁ hs' hrun
      exact ⟨w₂, hw₂, honly₂, hq₂.trans hq₁, hr₂.trans hr₁⟩

end Alone

/-! ## Calls of a session -/

lemma noKill_queueCommand (c : CmndId) : All Op.NoKill (queueCommand c) :=
  all_queueCommand (fun _ ho => ho.mild.2) fun o ho => by cases ho <;> rfl

section Session

variable {w : World} {k k' : Config} {e : Env}

lemma World.Calm.append (h : w.Calm) {s : State} {c : CmndId} {v : Int} {uses : List Use}
    {queued refused : List CmndId} : World.Calm
      ⟨⟨s, w.pool.threads ++ [⟨⟨.ended, c⟩, .ret v⟩]⟩, queued, refused, uses⟩ :=
  Pool.Each.spawn (w := w.pool) (P := fun _ th => th.role.kind = .ended) h rfl

lemma shows_queueCommand {c : CmndId} (hw : interleaved.Reachable w) (h : w.Shows k)
    (hstep : session.next k (.queueCommand c e) = some k') (hok : k'.oops = false) :
    ∃ w', interleaved.Reachable w' ∧ w'.Shows k' := by
  obtain ⟨hok', hmay, rfl⟩ := next_queueCommand hstep
  obtain ⟨hdrv, hqueued, hrefused, hcalm⟩ := h
  have hmay' : w.MayQueue c := by
    rw [World.MayQueue, hqueued, hrefused, hdrv]
    exact hmay
  have hqueue : interleaved.next w (.queue c) = some
      ({ w with queued := c :: w.queued }.start ⟨.queue, c⟩ (queueCommand c)) := by
    simp [interleaved, World.next, hmay', World.start]
  cases hrun : run (sem e c) (queueCommand c) k.drv with
  | oops s => simp [hrun, Config.afterQueue] at hok
  | done rv s =>
    obtain ⟨uses, hreach⟩ := call_of_noKill (w := { w with queued := c :: w.queued })
      (r := ⟨.queue, c⟩) (noKill_queueCommand c) (hw.step trivial hqueue) (hdrv ▸ hrun)
    refine ⟨_, hreach, ?_⟩
    by_cases hrv : rv = 0
    · refine ⟨?_, ?_, ?_, hcalm.append⟩ <;> simp [Config.afterQueue, hrv, hqueued, hrefused]
    · refine ⟨?_, ?_, ?_, hcalm.append⟩ <;> simp [Config.afterQueue, hrv, hqueued, hrefused]

lemma shows_complete {u : UrbId} {st : Int} {n : UInt32} {received : List UInt8}
    (hw : interleaved.Reachable w) (h : w.Shows k)
    (hstep : session.next k (.complete u st n received e) = some k') (hok : k'.oops = false) :
    ∃ w', interleaved.Reachable w' ∧ w'.Shows k' := by
  obtain ⟨-, c, hu, rfl⟩ := next_complete hstep
  obtain ⟨hdrv, hqueued, hrefused, hcalm⟩ := h
  cases hrun : runCallback e u c (k.drv.giveBack u st n received) with
  | oops s => simp [hrun, Config.after] at hok
  | done x s =>
    obtain ⟨v, uses, hreach⟩ := call_callback hw (hdrv ▸ hu) (hdrv ▸ hrun)
    exact ⟨_, hreach, ⟨rfl, hqueued, hrefused, hcalm.append⟩⟩

lemma shows_handler {hd : Handler} {c : CmndId} (hw : interleaved.Reachable w) (h : w.Shows k)
    (hs : Shape k.drv) (hstep : session.next k (.handler hd c e) = some k')
    (hok : k'.oops = false) : ∃ w', interleaved.Reachable w' ∧ w'.Shows k' := by
  obtain ⟨-, hc, rfl⟩ := next_handler hstep
  obtain ⟨hdrv, hqueued, hrefused, hcalm⟩ := h
  have hcall : interleaved.next w (.handler hd c) = some (w.start ⟨.handler, c⟩ (hd.body c)) := by
    simp [interleaved, World.next, hqueued, hc]
  cases hrun : runHandler hd c e k.drv with
  | oops s => simp [hrun, Config.after] at hok
  | done v s =>
    have honly : (w.start ⟨.handler, c⟩ (hd.body c)).Only k.drv w.pool.threads.length
        ⟨.handler, c⟩ (hd.body c) := by
      refine ⟨hdrv, by simp [World.start, Pool.spawn], ?_⟩
      exact Pool.Each.spawn (P := fun j th => j ≠ w.pool.threads.length → th.role.kind = .ended)
        (fun j th hj _ => hcalm j th hj) fun h => absurd rfl h
    obtain ⟨w', hw', ⟨hdrv', hi, hothers⟩, hq, hr⟩ :=
      alone_handler (tame_handler hd c) (hw.step trivial hcall) honly hs rfl hrun
    refine ⟨_, reach_finish hw' hi, ⟨hdrv', hq.trans hqueued, ?_, ?_⟩⟩
    · simpa using hr.trans hrefused
    · exact Pool.each_set (fun j th hj hth => hothers j th hth hj) rfl

/-- **One call of a session** is a run of the interleaved driver. -/
lemma shows_step {l : Call} (hw : interleaved.Reachable w) (h : w.Shows k) (hs : Shape k.drv)
    (hstep : session.next k l = some k') (hok : k'.oops = false) :
    ∃ w', interleaved.Reachable w' ∧ w'.Shows k' := by
  cases l with
  | queueCommand c e => exact shows_queueCommand hw h hstep hok
  | complete u st n received e => exact shows_complete hw h hstep hok
  | handler hd c e => exact shows_handler hw h hs hstep hok

/-- A call begins only while there has been no oops. -/
lemma ok_of_step {l : Call} (hstep : session.next k l = some k') : k.oops = false := by
  cases l with
  | queueCommand c e => exact (next_queueCommand hstep).1
  | complete u st n received e => exact (next_complete hstep).1
  | handler hd c e => exact (next_handler hstep).1

/-- **Sessions are interleavings.** Whatever a session reaches without an oops, the
interleaved driver reaches with every call scheduled alone. -/
theorem interleaved_of_session (hk : session.Reachable k) (hok : k.oops = false) :
    ∃ w, interleaved.Reachable w ∧ w.Shows k := by
  induction hk with
  | @init k h =>
    obtain ⟨hprobed, hq, -, hr, -⟩ := h
    refine ⟨⟨⟨k.drv, []⟩, [], [], []⟩, .init ⟨hprobed, rfl, rfl, rfl, rfl⟩,
      ⟨rfl, hq.symm, hr.symm, fun j th hj => ?_⟩⟩
    simp at hj
  | @step k k' l hk _ h ih =>
    obtain ⟨w, hw, hshows⟩ := ih (ok_of_step h)
    exact shows_step hw hshows (shape_reach hk) h hok

end Session

end KernelDriverLab.UsbV1
