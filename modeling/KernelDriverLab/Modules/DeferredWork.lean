import KernelDriverLab.Lib.Machine
import KernelDriverLab.Modules.Loading

/-!
# Interrupts, deferred work and unloading

A module is loaded and, when `hello_init` has returned 0, unloaded again, one operation at
a time.  In between, an interrupt can arrive whenever the handler is registered, and the
work item or tasklet that it queues can begin and end; it does not run twice at the same
time.  `flush_work` and `tasklet_kill` wait for what is queued when they begin, and
`destroy_workqueue` for everything.

`Timely` is a condition on the interrupts: in the modules with a workqueue of their own
none arrives while there is no workqueue, and in the other modules the work is neither
queued nor running when `free_irq` is called.  Under this condition nothing is queued on a
workqueue that does not exist, and no work is left behind.
-/

namespace KernelDriverLab.Loading

open Lib Prog

/-! ## The machine -/

/-- The work is neither queued nor running. -/
def State.Idle (s : State) : Prop := s.begun = s.queued ∧ s.ended = s.queued

instance (s : State) : Decidable s.Idle := inferInstanceAs (Decidable (_ ∧ _))

/-- Load a module and unload it again; the value is whether `hello_exit` was called. -/
def LoadModule.life (m : LoadModule) : Driver Bool := do
  let ret ← m.helloInit
  if ret = 0 then
    m.helloExit
    pure true
  else pure false

/-- The module and the function that runs of it. -/
abbrev World : Type := Pool Op Op.Ans Unit Bool State

/-- What the interrupt handler and the queue do. -/
inductive Event where
  | interrupt
  /-- The work begins. -/
  | begin
  /-- The work ends. -/
  | done
deriving DecidableEq, Repr

/-- The life of the module, with interrupts and work at any time. -/
def machine (m : LoadModule) : Machine Op Op.Ans Unit Bool State Env Event where
  sem e _ := sem e
  ready s _
    | .awaitWork n => n ≤ s.ended
    | .release .workqueue => s.ended = s.queued
    | _ => true
  again _ _ := none
  event n s := match n with
    | .interrupt => if s.irq then some ((m.irqHandler.run (sem {}) s).state, []) else none
    | .begin =>
        if s.begun < s.queued ∧ s.ended = s.begun then some ({ s with begun := s.begun + 1 }, [])
        else none
    | .done => if s.ended < s.begun then some ({ s with ended := s.ended + 1 }, []) else none

/-- The lives of a module. -/
def system (m : LoadModule) : System World (Move Env Event) :=
  (machine m).system fun w => ∃ l, w = ⟨.fresh l, [⟨(), m.life⟩]⟩

/-- `hello_exit` has returned. -/
def Exited (w : World) : Prop := ∃ th ∈ w.threads, th.result = some true

/-- An interrupt arrives only while the workqueue of the module, if it has one, is there:
`alloc_workqueue` is not still to be called or has failed, and `free_irq` is not the next
call of `hello_exit`, after `destroy_workqueue`.  In the other modules `free_irq` is called
only while the work is neither queued nor running. -/
def Timely (m : LoadModule) (w : World) : Move Env Event → Prop
  | .run i _ => m.own = false → w.opAt i = some (.release .irq) → w.shared.Idle
  | .event .interrupt => m.own = true → ∀ th ∈ w.threads, th.returned = false ∧
      th.nextOp ≠ some (.acquire .workqueue) ∧ th.nextOp ≠ some (.release .irq)
  | .event _ => True

/-! ## What the module does to the work -/

/-- How far the life is, as far as the handler and the queue go. -/
inductive Stage where
  /-- No interrupt handler is registered. -/
  | quiet
  /-- The handler is registered, and `alloc_workqueue` has still to be called. -/
  | between
  | up
  /-- The workqueue is destroyed, and the handler is still registered. -/
  | destroyed
  /-- `alloc_workqueue` has failed. -/
  | failed
  /-- The handler has been removed. -/
  | down
deriving DecidableEq, Repr

/-- The operations of a stage. -/
@[simp] def Stage.allow (own : Bool) : Stage → Op → Prop
  | .quiet, .acquire r | .quiet, .release r => r ≠ .workqueue
  | .between, .acquire r => r = .workqueue ∧ own = true
  | .up, .lastQueued | .up, .awaitWork _ | .up, .loadNodes | .up, .freeNode _ => True
  | .up, .release r => if own then r = .workqueue else r = .irq
  | .destroyed, .release r => r = .irq ∧ own = true
  | .down, .release r => r ≠ .workqueue ∧ r ≠ .irq
  | _, _ => False

/-- The stage after an operation. -/
@[simp] def Stage.after (own : Bool) : Stage → (o : Op) → o.Ans → Stage
  | .quiet, .acquire r, answer =>
      if r = .irq ∧ answer = 0 then (if own then .between else .up) else .quiet
  | .between, .acquire _, answer => if answer = 0 then .up else .failed
  | .up, .release r, _ => if r = .workqueue then .destroyed else .down
  | .destroyed, .release _, _ => .down
  | st, _, _ => st

/-- The stages of a life. -/
@[simps]
def proto (own : Bool) : Protocol Op Op.Ans Stage where
  allow := Stage.allow own
  expect _ _ _ := True
  after := Stage.after own

/-- The stages in which the life of a module ends. -/
@[simp] def Ends : Stage → Bool → Prop
  | .quiet, _ => True
  | .failed, exited => exited = false
  | .down, exited => exited = true
  | _, _ => False

section Follow

variable {own : Bool}

lemma follows_freeEach (ns : List ℕ) :
    (freeEach ns).Follows (proto own) .up fun st _ => st = .up := by
  induction ns with
  | nil => rfl
  | cons n ns ih => exact ⟨trivial, fun _ _ => ih⟩

lemma follows_register {rest : Driver Int} {Q : Stage → Int → Prop}
    (hrest : rest.Follows (proto own) .quiet Q) (hQ : ∀ x, x ≠ 0 → Q .quiet x) :
    (register rest).Follows (proto own) .quiet Q := by
  have hneg (x : Int) (hx : x < 0) : Q .quiet x := hQ x (by omega)
  simpa [register, allocChrdevRegion, cdevAdd, classCreate, deviceCreate, kobjectCreateAndAdd,
    sysfsCreateFile, acquirePtr, rClass, rDevice, rSysfs, unregisterChrdevRegion, cdevDel,
    classDestroy, kobjectPut, sysfsRemoveFile, hrest, hQ] using hneg

lemma follows_rThread :
    rThread.Follows (proto own) .quiet fun st x => st = .quiet ∧ x = -1 := by
  simp [rThread, rSysfs, rClass, kthreadStop, unregisterChrdevRegion, cdevDel, kobjectPut,
    sysfsRemoveFile]

/-- `hello_init` ends with 0 when everything is registered. -/
def Inits (st : Stage) (x : Int) : Prop :=
  if x = 0 then st = .up else st = .quiet ∨ st = .failed

lemma follows_irqInit : (irqInit own).Follows (proto own) .quiet Inits := by
  have hthread : (kthreadRun 0).Follows (proto own) .quiet fun st _ => st = .quiet := by
    simp [kthreadRun, acquirePtr]
  have herror (st : Stage) (x : Int) (h : st = .quiet ∧ x = -1) : Inits st x := by
    simp [Inits, h]
  refine follows_register (follows_bind.2 (hthread.mono ?_)) fun x hx => by simp [Inits, hx]
  rintro _ kthread rfl
  refine follows_ite.2 ⟨fun _ => follows_rThread.mono herror, fun _ => ⟨by simp, fun ret _ => ?_⟩⟩
  refine follows_ite.2 ⟨fun hret => ?_, fun hret => ?_⟩
  · -- nothing is registered when `free_irq` is called
    have hquiet : (proto own).after .quiet (.acquire .irq) ret = .quiet := by simp [hret]
    rw [hquiet]
    exact ⟨by simp, fun _ _ => follows_rThread.mono herror⟩
  · obtain rfl : ret = 0 := not_not.1 hret
    cases own with
    | false => rfl
    | true =>
      have halloc : allocWorkqueue.Follows (proto true) .between fun st wq =>
          if wq = .null then st = .failed else st = .up := by
        refine ⟨by simp, fun ret _ => ?_⟩
        show if (if ret = 0 then Ptr.valid else Ptr.null) = .null then _ else _
        by_cases hret : ret = 0
        · simp [hret]
        · simp [hret]
      refine follows_bind.2 (halloc.mono fun st wq hwq => ?_)
      refine follows_ite.2 ⟨fun hnull => ?_, fun hnull => ?_⟩
      · have hst : st = .failed := by simpa [hnull] using hwq
        simp [Inits, hst, Chardev.ENOMEM]
      · simpa [Inits, hnull] using hwq

lemma follows_rwspinlockInit :
    rwspinlockInit.Follows (proto own) .quiet fun st _ => st = .quiet := by
  refine follows_register ?_ fun _ _ => rfl
  simp [kthreadRun, acquirePtr, rThread1, rThread2, rSysfs, rClass, kthreadStop,
    unregisterChrdevRegion, cdevDel, kobjectPut, sysfsRemoveFile]

/-- What is left of `hello_exit` when the work has been dealt with. -/
lemma follows_unregister : unregister.Follows (proto own) .down fun st _ => st = .down := by
  simp [unregister, unregisterChrdevRegion, cdevDel, classDestroy, deviceDestroy, kobjectPut,
    sysfsRemoveFile, op]

lemma follows_freeNodes : freeNodes.Follows (proto own) .up fun st _ => st = .up :=
  ⟨trivial, fun _ _ => follows_freeEach _⟩

lemma follows_helloExit (m : LoadModule) (hm : m ≠ .rwspinlockModule) :
    m.helloExit.Follows (proto m.own) .up fun st _ => st = .down := by
  have hflush {own : Bool} : flushWork.Follows (proto own) .up fun st _ => st = .up := by
    simp [flushWork, op]
  have hrest {own : Bool} : (kthreadStop 0 >>= fun _ => unregister).Follows (proto own)
      .down fun st _ => st = .down :=
    ⟨by simp, fun _ _ => follows_unregister⟩
  cases m with
  | ownWorkqueues =>
    refine follows_bind.2 (hflush.mono ?_)
    rintro _ _ rfl
    exact ⟨by simp [LoadModule.own], fun _ _ => ⟨by simp [LoadModule.own], fun _ _ => hrest⟩⟩
  | workqueuesOnCpu =>
    refine follows_bind.2 (hflush.mono ?_)
    rintro _ _ rfl
    exact ⟨by simp [LoadModule.own], fun _ _ => hrest⟩
  | workqueuesModule => exact ⟨by simp [LoadModule.own], fun _ _ => hrest⟩
  | taskletModule =>
    refine follows_bind.2 (hflush.mono ?_)
    rintro _ _ rfl
    refine follows_bind.2 (follows_freeNodes.mono ?_)
    rintro _ _ rfl
    exact ⟨by simp [LoadModule.own], fun _ _ => hrest⟩
  | linkedList =>
    refine follows_bind.2 (follows_freeNodes.mono ?_)
    rintro _ _ rfl
    refine follows_bind.2 (hflush.mono ?_)
    rintro _ _ rfl
    exact ⟨by simp [LoadModule.own], fun _ _ => ⟨by simp [LoadModule.own], fun _ _ => hrest⟩⟩
  | rwspinlockModule => exact absurd rfl hm

lemma follows_life (m : LoadModule) : m.life.Follows (proto m.own) .quiet Ends := by
  by_cases hm : m = .rwspinlockModule
  · subst hm
    refine follows_bind.2 (follows_rwspinlockInit.mono ?_)
    rintro _ ret rfl
    simp [LoadModule.helloExit, unregister, kthreadStop, unregisterChrdevRegion, cdevDel,
      classDestroy, deviceDestroy, kobjectPut, sysfsRemoveFile]
  · have hinit : m.helloInit.Follows (proto m.own) .quiet Inits := by
      cases m <;> first | exact follows_irqInit | exact absurd rfl hm
    refine follows_bind.2 (hinit.mono fun st ret hst => ?_)
    refine follows_ite.2 ⟨fun hret => ?_, fun hret => ?_⟩
    · obtain rfl : st = .up := by simpa [Inits, hret] using hst
      refine follows_bind.2 ((follows_helloExit m hm).mono ?_)
      rintro _ _ rfl
      rfl
    · obtain rfl | rfl : st = .quiet ∨ st = .failed := by simpa [Inits, hret] using hst
      · trivial
      · rfl

end Follow

/-! ## The work and the workqueue -/

/-- Nothing was queued on a workqueue that did not exist, and the work has not ended more
often than it has begun. -/
structure State.Sane (s : State) : Prop where
  misqueued : s.misqueued = false
  ended_le : s.ended ≤ s.begun
  begun_le : s.begun ≤ s.queued

/-- What holds at a stage. -/
def Stage.Here (own : Bool) : Stage → State → Prop
  | .quiet, s | .down, s => s.irq = false ∧ s.Idle
  | .between, s | .destroyed, s => own = true ∧ s.Idle
  | .up, s => own = true → s.queue = .alive
  | .failed, _ => own = true

section Steps

variable {own : Bool} {st : Stage} {s s' : State} {e : Env} {o : Op} {x : o.Ans}

/-- What has happened to the work. -/
def State.work (s : State) : ℕ × ℕ × ℕ × Bool := (s.queued, s.begun, s.ended, s.misqueued)

lemma State.Idle.congr (hs : s.Idle) (h : s'.work = s.work) : s'.Idle := by
  simp only [State.work, Prod.mk.injEq] at h
  obtain ⟨hq, hb, he, -⟩ := h
  rwa [State.Idle, hq, hb, he]

lemma State.Sane.congr (hs : s.Sane) (h : s'.work = s.work) : s'.Sane := by
  simp only [State.work, Prod.mk.injEq] at h
  obtain ⟨hq, hb, he, hm⟩ := h
  refine ⟨hm.trans hs.misqueued, ?_, ?_⟩
  · rw [he, hb]
    exact hs.ended_le
  · rw [hb, hq]
    exact hs.begun_le

/-- Only `queue_work` touches the work. -/
lemma work_sem (ho : ∀ b, o ≠ .queueWork b) (h : sem e o s = .done x s') : s'.work = s.work := by
  cases o with
  | acquire r =>
    obtain ⟨rfl, rfl⟩ := Outcome.done.inj h
    obtain h | ⟨y, -, h⟩ := s.tryAcquire_cases e r
    · rw [h]
      rfl
    · rw [h]
      rfl
  | release r =>
    obtain ⟨rfl, rfl⟩ := Outcome.done.inj h
    split_ifs <;> rfl
  | queueWork b => exact absurd rfl (ho b)
  | addNode =>
    simp only [sem] at h
    split_ifs at h <;> obtain ⟨-, rfl⟩ := Outcome.done.inj h <;> rfl
  | lastQueued | awaitWork n | copyMessage user | loadNodes | freeNode n =>
    obtain ⟨rfl, rfl⟩ := Outcome.done.inj h
    rfl

/-- What an acquisition leads to. -/
lemma here_acquire {r : Registration} {x : Op.Ans (.acquire r)} (hst : st.Here own s)
    (hallow : st.allow own (.acquire r)) (h : sem e (.acquire r) s = .done x s') :
    (st.after own (.acquire r) x).Here own s' := by
  have hwork : s'.work = s.work := work_sem (fun b => by simp) h
  obtain ⟨rfl, rfl⟩ := Outcome.done.inj h
  cases st with
  | quiet =>
    obtain hr | ⟨y, hy, hr⟩ := s.tryAcquire_cases e r
    · by_cases hri : r = .irq
      · subst hri
        cases own with
        | false => simp [hr, Stage.Here]
        | true => simpa [hr, Stage.Here] using hst.2.congr hwork
      · simpa [hr, hri, Stage.Here, hst.1] using hst.2.congr hwork
    · simpa [hr, hy, Stage.Here, hst.1] using hst.2.congr hwork
  | between =>
    obtain ⟨rfl, hown⟩ := hallow
    obtain hr | ⟨y, hy, hr⟩ := s.tryAcquire_cases e .workqueue
    · simp [hr, Stage.Here]
    · simp [hr, hy, Stage.Here, hown]
  | up | destroyed | failed | down => exact hallow.elim

/-- What a release leads to. -/
lemma here_release {r : Registration} {x : Op.Ans (.release r)} (hst : st.Here own s) (hs : s.Sane)
    (hallow : st.allow own (.release r)) (hready : r = .workqueue → s.ended = s.queued)
    (hirq : own = false → r = .irq → s.Idle) (h : sem e (.release r) s = .done x s') :
    (st.after own (.release r) x).Here own s' := by
  have hidle (hi : s.Idle) : s'.Idle := hi.congr (work_sem (fun b => by simp) h)
  obtain ⟨rfl, rfl⟩ := Outcome.done.inj h
  cases st with
  | quiet =>
    split_ifs with hnull
    · exact hst
    · exact ⟨by simp [hst.1], hst.2⟩
  | up =>
    cases own with
    | false =>
      obtain rfl : r = .irq := hallow
      exact ⟨by simp, hidle (hirq rfl rfl)⟩
    | true =>
      -- `destroy_workqueue` has waited for the work
      obtain rfl : r = .workqueue := hallow
      have hended := hready rfl
      exact ⟨rfl, hidle ⟨le_antisymm hs.begun_le (hended ▸ hs.ended_le), hended⟩⟩
  | destroyed =>
    obtain ⟨rfl, -⟩ := hallow
    exact ⟨by simp, hidle hst.2⟩
  | down =>
    split_ifs with hnull
    · exact hst
    · exact ⟨by simp [hst.1], hst.2⟩
  | between | failed => exact hallow.elim

/-- **What an operation leads to.** -/
lemma here_sem (hst : st.Here own s) (hs : s.Sane) (hallow : st.allow own o)
    (hready : o = .release .workqueue → s.ended = s.queued)
    (hirq : own = false → o = .release .irq → s.Idle)
    (h : sem e o s = .done x s') : (st.after own o x).Here own s' ∧ s'.Sane := by
  have hwork : s'.work = s.work := by
    refine work_sem (fun b hb => ?_) h
    subst hb
    cases st <;> exact hallow
  refine ⟨?_, hs.congr hwork⟩
  cases o with
  | acquire r => exact here_acquire hst hallow h
  | release r =>
    exact here_release hst hs hallow (fun hr => hready (hr ▸ rfl))
      (fun ho hr => hirq ho (hr ▸ rfl)) h
  | lastQueued | awaitWork n | loadNodes | freeNode n =>
    obtain ⟨rfl, rfl⟩ := Outcome.done.inj h
    cases st with
    | up => exact hst
    | quiet | between | destroyed | failed | down => exact hallow.elim
  | queueWork b | addNode | copyMessage user => cases st <;> exact hallow.elim

/-- What `irq_handler` does when its workqueue is there. -/
lemma sane_irqHandler {m : LoadModule} (hs : s.Sane) (hqueue : m.own = true → s.queue = .alive) :
    (m.irqHandler.run (sem {}) s).state.Sane ∧
      (m.irqHandler.run (sem {}) s).state.queue = s.queue := by
  have hthere : ¬ (m.own = true ∧ s.queue ≠ .alive) := fun h => h.2 (hqueue h.1)
  by_cases hpending : s.begun < s.queued
  · simp only [LoadModule.irqHandler, op_bind, run_act, sem, hthere, if_false, hpending, if_true]
    exact ⟨hs, rfl⟩
  · simp only [LoadModule.irqHandler, op_bind, run_act, sem, hthere, if_false, hpending]
    exact ⟨⟨hs.misqueued, hs.ended_le, hs.begun_le.trans (Nat.le_succ _)⟩, rfl⟩

end Steps

/-! ## All runs -/

/-- What holds of the queue at a stage. -/
@[simps]
def outline (m : LoadModule) : Outline Op Op.Ans Unit Bool State Stage Unit where
  proto _ := proto m.own
  ends _ := Ends
  here _ _ _ st s := st.Here m.own s
  always _ s := s.Sane

section Runs

variable {m : LoadModule} {w w' : World} {l : Move Env Event}

/-- What an event does. -/
lemma event_cases {n : Event} {s s' : State} {ths : List (Thread Op Op.Ans Unit Bool)}
    (h : (machine m).event n s = some (s', ths)) : ths = [] ∧
      (n = .interrupt ∧ s.irq = true ∧ s' = (m.irqHandler.run (sem {}) s).state ∨
        n = .begin ∧ s.begun < s.queued ∧ s.ended = s.begun ∧ s' = { s with begun := s.begun + 1 } ∨
        n = .done ∧ s.ended < s.begun ∧ s' = { s with ended := s.ended + 1 }) := by
  cases n with
  | interrupt =>
    simp only [machine, Option.ite_none_right_eq_some, Option.some.injEq, Prod.mk.injEq] at h
    obtain ⟨hirq, rfl, rfl⟩ := h
    exact ⟨rfl, .inl ⟨rfl, hirq, rfl⟩⟩
  | begin =>
    simp only [machine, Option.ite_none_right_eq_some, Option.some.injEq, Prod.mk.injEq] at h
    obtain ⟨⟨hqueued, hended⟩, rfl, rfl⟩ := h
    exact ⟨rfl, .inr (.inl ⟨rfl, hqueued, hended, rfl⟩)⟩
  | done =>
    simp only [machine, Option.ite_none_right_eq_some, Option.some.injEq, Prod.mk.injEq] at h
    obtain ⟨hbegun, rfl, rfl⟩ := h
    exact ⟨rfl, .inr (.inr ⟨rfl, hbegun, rfl⟩)⟩

/-- There is only the thread that loads and unloads the module. -/
lemma single_of_reach {C : World → Move Env Event → Prop} (hw : (system m).Reach C w) :
    w.threads.length = 1 := by
  refine Machine.length_of_reach (fun n s s' ths h => (event_cases h).1) ?_ hw
  rintro _ ⟨l, rfl⟩
  rfl

/-- Nothing can happen to work that is idle but an interrupt. -/
lemma here_event {n : Event} {s s' : State} {ths : List (Thread Op Op.Ans Unit Bool)} {st : Stage}
    (hst : st.Here m.own s) (hs : s.Sane)
    (hn : n = .interrupt → m.own = true → st ≠ .between ∧ st ≠ .destroyed ∧ st ≠ .failed)
    (h : (machine m).event n s = some (s', ths)) : st.Here m.own s' ∧ s'.Sane := by
  obtain ⟨-, ⟨rfl, hirq, rfl⟩ | ⟨rfl, hqueued, hended, rfl⟩ | ⟨rfl, hbegun, rfl⟩⟩ := event_cases h
  · cases st with
    | quiet | down =>
      rw [hst.1] at hirq
      cases hirq
    | up =>
      obtain ⟨hsane, hqueue⟩ := sane_irqHandler hs hst
      exact ⟨fun ho => hqueue.trans (hst ho), hsane⟩
    | between => exact absurd rfl (hn rfl hst.1).1
    | destroyed => exact absurd rfl (hn rfl hst.1).2.1
    | failed => exact absurd rfl (hn rfl hst).2.2
  · have hsane : State.Sane { s with begun := s.begun + 1 } :=
      ⟨hs.misqueued, hs.ended_le.trans (Nat.le_succ _), hqueued⟩
    refine ⟨?_, hsane⟩
    cases st with
    | quiet | down => exact absurd hst.2.1 hqueued.ne
    | between | destroyed => exact absurd hst.2.1 hqueued.ne
    | up | failed => exact hst
  · have hsane : State.Sane { s with ended := s.ended + 1 } := ⟨hs.misqueued, hbegun, hs.begun_le⟩
    have hbusy : ¬ s.Idle := fun hi => by
      have := hi.1
      have := hi.2
      omega
    refine ⟨?_, hsane⟩
    cases st with
    | quiet | down | between | destroyed => exact absurd hst.2 hbusy
    | up | failed => exact hst

/-- Where the thread is while there is no workqueue but the handler is registered. -/
lemma nextOp_of_at {s : State} {j : ℕ} {th : Thread Op Op.Ans Unit Bool} {st : Stage}
    (hst : (outline m).At () s j th st) (h : st = .between ∨ st = .destroyed ∨ st = .failed) :
    th.returned = true ∨ th.nextOp = some (.acquire .workqueue) ∨
      th.nextOp = some (.release .irq) := by
  obtain ⟨_, p⟩ := th
  cases p with
  | ret a => exact .inl rfl
  | act o k =>
    right
    have hallow : st.allow m.own o := hst.follows.1
    obtain rfl | rfl | rfl := h
    · cases o with
      | acquire r =>
        obtain ⟨rfl, -⟩ := hallow
        exact .inl rfl
      | _ => exact hallow.elim
    · cases o with
      | release r =>
        obtain ⟨rfl, -⟩ := hallow
        exact .inr rfl
      | _ => exact hallow.elim
    · exact hallow.elim

lemma sound (m : LoadModule) :
    (outline m).Sound (machine m) fun w l => Timely m w l ∧ w.threads.length = 1 where
  act {g w i e r st o k x s} hw hc hi hst hready hsem := by
    obtain ⟨hc, hone⟩ := hc
    have hqueue (ho : o = .release .workqueue) : w.shared.ended = w.shared.queued := by
      subst ho
      exact of_decide_eq_true hready
    have hirq (hown : m.own = false) (ho : o = .release .irq) : w.shared.Idle := by
      subst ho
      exact hc hown (Pool.opAt_eq hi)
    obtain ⟨hhere, hsane⟩ := here_sem hst.here hw.always hst.follows.1 hqueue hirq hsem
    -- there is no other thread
    exact ⟨trivial, (), hsane, hhere, fun j th st' hj hth _ =>
      absurd (Pool.eq_of_single hone hth hi) hj⟩
  again hst hagain := by cases hagain
  event {g w n s ths} hw hc hevent := by
    obtain ⟨hc, hone⟩ := hc
    have hn {j : ℕ} {th : Thread Op Op.Ans Unit Bool} {st : Stage} (hj : w.threads[j]? = some th)
        (hst : (outline m).At g w.shared j th st) (hn : n = .interrupt) (hown : m.own = true) :
        st ≠ .between ∧ st ≠ .destroyed ∧ st ≠ .failed := by
      subst hn
      obtain ⟨hreturned, hacquire, hrelease⟩ := hc hown th (List.mem_of_getElem? hj)
      have hnot : ¬ (st = .between ∨ st = .destroyed ∨ st = .failed) := fun h => by
        obtain hr | ha | hf := nextOp_of_at hst h
        · rw [hreturned] at hr
          cases hr
        · exact hacquire ha
        · exact hrelease hf
      simpa only [not_or] using hnot
    obtain ⟨th, hth⟩ : ∃ th, w.threads[0]? = some th :=
      ⟨_, List.getElem?_eq_getElem (by omega)⟩
    obtain ⟨st, hst⟩ := hw.threads 0 th hth
    obtain ⟨rfl, -⟩ := event_cases hevent
    refine ⟨(), (here_event hst.here hw.always (hn hth hst) hevent).2, fun j th st hj hst => ?_, ?_⟩
    · exact (here_event hst.here hw.always (hn hj hst) hevent).1
    · simp

/-- **Under the condition no work is queued nowhere and none is left.** -/
theorem no_work_left_of_timely (m : LoadModule) {w : World} (hw : (system m).Reach (Timely m) w) :
    w.shared.misqueued = false ∧ (Exited w → w.shared.Idle) := by
  have hinit (w : World) (hw : ∃ l, w = ⟨.fresh l, [⟨(), m.life⟩]⟩) :
      ∃ g, (outline m).Holds g w := by
    obtain ⟨l, rfl⟩ := hw
    exact ⟨(), Outline.holds_single ⟨rfl, le_rfl, le_rfl⟩ ⟨follows_life m, rfl, rfl, rfl⟩⟩
  obtain ⟨g, hholds⟩ := (sound m).holds_of_reach hinit (hw.strengthen fun _ => single_of_reach)
  refine ⟨hholds.always.misqueued, ?_⟩
  rintro ⟨th, hth, hresult⟩
  obtain ⟨j, st, -, hst⟩ := hholds.of_mem hth
  have hends : Ends st true := hst.ends hresult
  cases st with
  | quiet | down => exact hst.here.2
  | failed => cases hends
  | between | up | destroyed => exact hends.elim

end Runs

/-! ## Runs -/

/-- The machine before the module is loaded. -/
def start (m : LoadModule) : World := ⟨.fresh .empty, [⟨(), m.life⟩]⟩

lemma reach_start (m : LoadModule) (C : World → Move Env Event → Prop) :
    (system m).Reach C (start m) :=
  .init ⟨.empty, rfl⟩

instance (w : World) : Decidable (Exited w) := inferInstanceAs (Decidable (∃ th ∈ w.threads, _))

instance (m : LoadModule) (w : World) : (l : Move Env Event) → Decidable (Timely m w l)
  | .run _ _ => inferInstanceAs (Decidable (_ → _ → _))
  | .event .interrupt => inferInstanceAs (Decidable (_ → _))
  | .event .begin | .event .done => inferInstanceAs (Decidable True)

/-- `n` operations that succeed. -/
def turns (n : ℕ) : List (Move Env Event) := List.replicate n (.run 0 {})

theorem no_work_left_of_timely_oneInterrupt :
    ∃ w, w.shared.misqueued = false ∧ Exited w ∧ w.shared.queued = 1 ∧ w.shared.Idle := by
  have hw := System.reach_get
    (turns 9 ++ [.event .interrupt] ++ turns 1 ++ [.event .begin, .event .done] ++ turns 10)
    (reach_start .ownWorkqueues (Timely .ownWorkqueues)) (by decide +kernel) (by decide +kernel)
  obtain ⟨hqueue, hidle⟩ := no_work_left_of_timely .ownWorkqueues hw
  exact ⟨_, hqueue, by decide +kernel, by decide +kernel, hidle (by decide +kernel)⟩

/-- **Work is queued nowhere, and work is left behind.** In `own_workqueues.c` the interrupt
arrives before `alloc_workqueue` or after `destroy_workqueue`; in the other modules nothing
waits for the work that the last interrupt queues. -/
theorem work_left_behind :
    (∃ w, (system .ownWorkqueues).Reachable w ∧ w.shared.queue = .absent ∧
        w.shared.misqueued = true) ∧
      (∃ w, (system .ownWorkqueues).Reachable w ∧ w.shared.queue = .destroyed ∧
        w.shared.misqueued = true) ∧
      (∃ w, (system .workqueuesOnCpu).Reachable w ∧ Exited w ∧ ¬ w.shared.Idle) ∧
      (∃ w, (system .workqueuesModule).Reachable w ∧ Exited w ∧ ¬ w.shared.Idle) ∧
      ∃ w, (system .taskletModule).Reachable w ∧ Exited w ∧ ¬ w.shared.Idle := by
  refine ⟨?_, ?_, ?_, ?_, ?_⟩
  · -- between `request_irq` and `alloc_workqueue`
    exact System.exists_reachable (turns 8 ++ [.event .interrupt]) (reach_start _ _)
      (by decide +kernel)
  · -- between `destroy_workqueue` and `free_irq`
    exact System.exists_reachable (turns 12 ++ [.event .interrupt]) (reach_start _ _)
      (by decide +kernel)
  · -- between `flush_work` and `free_irq`
    exact System.exists_reachable (turns 10 ++ [.event .interrupt] ++ turns 8) (reach_start _ _)
      (by decide +kernel)
  · -- there is no `flush_work`
    exact System.exists_reachable (turns 8 ++ [.event .interrupt] ++ turns 8) (reach_start _ _)
      (by decide +kernel)
  · -- between `tasklet_kill` and `free_irq`
    exact System.exists_reachable (turns 10 ++ [.event .interrupt] ++ turns 9) (reach_start _ _)
      (by decide +kernel)

end KernelDriverLab.Loading
