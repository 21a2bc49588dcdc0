import KernelDriverLab.Lib.Machine
import KernelDriverLab.Modules.Loading

/-!
# Timers that re-arm themselves

The timer handlers of `timer_module.c` and `spinlock_with_interrupts.c` end with a
`mod_timer` of their own timer, and `hello_exit` removes the timer with `del_timer`, which
does not wait for a handler that is running.  An expiry takes the timer off the queue and
starts a handler; from then on the steps of the handler, of `hello_exit` and of the kernel
thread of `spinlock_with_interrupts.c` come in any order.

The timer is `Dead` when it is not pending and no handler is running.  Until `del_timer`
is called the timer is pending or a handler is running, and both ways of being are kept
afterwards: the timer is dead from `del_timer` on, or never again.
-/

namespace KernelDriverLab.Timer

open Lib Prog

/-- The two modules. -/
inductive TimerModule where
  | timerModule
  | spinlockWithInterrupts
deriving DecidableEq, Repr

/-- The operations on the timer, on the lock and on the thread. -/
inductive Op where
  /-- Read `jiffies`. -/
  | jiffies
  /-- `timer_count++` -/
  | countTimer
  | spinLock
  | spinUnlock
  | setGlobalVariable (v : Int)
  /-- `mod_timer(&my_timer, expires)` -/
  | modTimer (expires : ℕ)
  /-- `del_timer(&my_timer)` -/
  | delTimer
  | kthreadShouldStop
  | msleep (ms : ℕ)
  /-- The first half of `kthread_stop`, which asks the thread to stop. -/
  | requestStop
  /-- The second half of `kthread_stop`, which waits for the end of the thread. -/
  | awaitStop
  | release (r : Registration)
deriving DecidableEq, Repr

/-- What an operation answers. -/
@[reducible] def Op.Ans : Op → Type
  | jiffies => ℕ
  | countTimer => BitVec 32
  | kthreadShouldStop => Bool
  | _ => Unit

/-- A function of the modules.  A round of a loop returns whether there is another one. -/
abbrev Driver : Type := Prog Op Op.Ans Bool

/-- The timer and the variables of the module. -/
structure State where
  /-- When the timer expires, while it is pending. -/
  timer : Option ℕ
  timerCount : BitVec 32
  locked : Bool
  globalVariable : Int
  stopRequested : Bool
  /-- The kernel thread has ended. -/
  stopped : Bool
deriving DecidableEq, Repr

/-- What each operation does, when `jiffies` has this value. -/
def sem (jiffies : ℕ) : Prog.Sem Op Op.Ans State
  | .jiffies, s => .done jiffies s
  | .countTimer, s => .done s.timerCount { s with timerCount := s.timerCount + 1 }
  | .spinLock, s => .done () { s with locked := true }
  | .spinUnlock, s => .done () { s with locked := false }
  | .setGlobalVariable v, s => .done () { s with globalVariable := v }
  | .modTimer expires, s => .done () { s with timer := some expires }
  | .delTimer, s => .done () { s with timer := none }
  | .kthreadShouldStop, s => .done s.stopRequested { s with stopped := s.stopRequested }
  | .msleep _, s => .done () s
  | .requestStop, s => .done () { s with stopRequested := true }
  | .awaitStop, s => .done () s
  | .release _, s => .done () s

/-! ## The functions -/

/-- `msecs_to_jiffies`, which rounds up. -/
def msecsToJiffies (hz ms : ℕ) : ℕ := (ms * hz + 999) / 1000

/-- `TIMEOUT`, in milliseconds. -/
def TIMEOUT : ℕ := 5000

/-- `timer_handler` of `timer_module.c`; the two times that it reads first go to the log. -/
def timerHandler (hz : ℕ) : Driver := do
  let _ ← op Op.jiffies
  let _ ← op Op.countTimer
  let _ ← op Op.jiffies
  let now ← op Op.jiffies
  op (Op.modTimer (now + msecsToJiffies hz TIMEOUT))
  pure false

/-- `timer_callback` of `spinlock_with_interrupts.c`. -/
def timerCallback (hz : ℕ) : Driver := do
  op Op.spinLock
  op (Op.setGlobalVariable 100)
  op Op.spinUnlock
  let now ← op Op.jiffies
  op (Op.modTimer (now + msecsToJiffies hz 5000))
  pure false

/-- A round of the loop of `thread_function` of `spinlock_with_interrupts.c`. -/
def threadFunction : Driver := do
  let stop ← op Op.kthreadShouldStop
  if stop then pure false
  else
    op Op.spinLock
    op (Op.setGlobalVariable 50)
    op Op.spinUnlock
    op (Op.msleep 2000)
    pure true

namespace TimerModule

/-- The function given to `timer_setup`. -/
def handler (hz : ℕ) : TimerModule → Driver
  | timerModule => timerHandler hz
  | spinlockWithInterrupts => timerCallback hz

/-- `hello_exit`. -/
def helloExit : TimerModule → Driver
  | timerModule => do
    op Op.delTimer
    op (Op.release .device)
    op (Op.release .cls)
    op (Op.release .cdev)
    op (Op.release .chrdevRegion)
    pure false
  | spinlockWithInterrupts => do
    op Op.requestStop
    op Op.awaitStop
    op Op.delTimer
    op (Op.release .sysfsFile)
    op (Op.release .kobject)
    op (Op.release .device)
    op (Op.release .cls)
    op (Op.release .cdev)
    op (Op.release .chrdevRegion)
    pure false

end TimerModule

/-! ## The machine -/

/-- What a thread runs. -/
inductive Role where
  | handler
  | kthread
  | exit
deriving DecidableEq, Repr

/-- The state and the functions that run. -/
abbrev World : Type := Pool Op Op.Ans Role Bool State

/-- The timer expires. -/
inductive Expiry where
  | expire

/-- The threads of a module on a kernel with `hz` ticks in a second. -/
def machine (m : TimerModule) (hz : ℕ) : Machine Op Op.Ans Role Bool State ℕ Expiry where
  sem jiffies _ := sem jiffies
  ready s _
    | .spinLock => !s.locked
    | .awaitStop => s.stopped
    | _ => true
  again
    | .kthread, true => some threadFunction
    | _, _ => none
  event
    | .expire, s => s.timer.map fun _ => ({ s with timer := none }, [⟨.handler, m.handler hz⟩])

/-- The module after `hello_init`, with a `hello_exit` that has not begun. -/
structure Loaded (m : TimerModule) (w : World) : Prop where
  shared : ∃ expires, w.shared = ⟨some expires, 0, false, 0, false, false⟩
  threads : w.threads = match m with
    | .timerModule => [⟨.exit, m.helloExit⟩]
    | .spinlockWithInterrupts => [⟨.exit, m.helloExit⟩, ⟨.kthread, threadFunction⟩]

/-- The lives of a module. -/
def system (m : TimerModule) (hz : ℕ) : System World (Move ℕ Expiry) :=
  (machine m hz).system (Loaded m)

/-- A handler is running. -/
def HandlerRuns (w : World) : Prop := ∃ th ∈ w.threads, th.role = .handler ∧ th.returned = false

/-- The timer can never fire again. -/
def Dead (w : World) : Prop := w.shared.timer = none ∧ ¬ HandlerRuns w

/-- `hello_exit` has returned. -/
def Exited (w : World) : Prop := ∃ th ∈ w.threads, th.role = .exit ∧ th.returned = true

/-- The step is the `del_timer` of `hello_exit`. -/
def Deletes (w : World) : Move ℕ Expiry → Prop
  | .run i _ => w.AboutTo i .exit .delTimer
  | .event _ => False

/-! ## What the functions do to the timer -/

/-- Each function works on the timer once: a handler re-arms it at its end, `hello_exit`
deletes it.  The stage says whether that has been done. -/
@[simps]
def proto (r : Role) : Protocol Op Op.Ans Bool where
  allow done o := match r, o with
    | .handler, .delTimer | .kthread, .delTimer | .kthread, .modTimer _ | .exit, .modTimer _ =>
        False
    | .exit, .delTimer | .handler, _ => done = false
    | _, _ => True
  expect _ _ _ := True
  after done o _ := match o with
    | .modTimer _ | .delTimer => true
    | _ => done

/-- A handler and `hello_exit` do not end before they have done it. -/
@[simp] def Ends (r : Role) (done : Bool) (_ : Bool) : Prop := r = .kthread ∨ done = true

section Follow

variable (m : TimerModule) (hz : ℕ)

lemma follows_handler : (m.handler hz).Follows (proto .handler) false (Ends .handler) := by
  cases m <;> simp [TimerModule.handler, timerHandler, timerCallback, op]

lemma follows_helloExit : m.helloExit.Follows (proto .exit) false (Ends .exit) := by
  cases m <;> simp [TimerModule.helloExit, op]

lemma follows_threadFunction (done : Bool) :
    threadFunction.Follows (proto .kthread) done (Ends .kthread) := by
  simp [threadFunction, op]

lemma handler_runs : (⟨.handler, m.handler hz⟩ : Thread Op Op.Ans Role Bool).returned = false := by
  cases m <;> rfl

end Follow

/-- What an operation does to the timer. -/
lemma timer_sem {j : ℕ} {o : Op} {s s' : State} {x : o.Ans} (h : sem j o s = .done x s') :
    s'.timer = match o with
      | .modTimer expires => some expires
      | .delTimer => none
      | _ => s.timer := by
  cases o <;> obtain ⟨-, rfl⟩ := Outcome.done.inj h <;> rfl

/-! ## What del_timer decides -/

section Since

variable {m : TimerModule} {hz : ℕ} {w w' : World} {l : Move ℕ Expiry} {P : World → Prop}

/-- The protocols as an outline without assertions. -/
@[simps]
def outline : Outline Op Op.Ans Role Bool State Bool Unit where
  proto := proto
  ends := Ends
  here _ _ _ _ _ := True
  always _ _ := True

lemma sound_outline : outline.Sound (machine m hz) fun _ _ => True where
  act := by
    intros
    exact ⟨trivial, (), trivial, trivial, fun _ _ _ _ _ _ => trivial⟩
  again {_ _ _ r done a p} _ hagain := by
    cases r <;> cases a <;> simp only [machine, reduceCtorEq] at hagain
    obtain rfl := Option.some.inj hagain
    exact follows_threadFunction done
  event {_ w n s ths} _ _ hevent := by
    obtain ⟨expires, -, heq⟩ := Option.map_eq_some_iff.1 hevent
    obtain ⟨-, rfl⟩ := Prod.mk.inj heq
    refine ⟨(), trivial, fun _ _ _ _ _ => trivial, fun j th hth => ?_⟩
    obtain rfl := List.mem_singleton.1 (List.mem_of_getElem? hth)
    exact ⟨false, follows_handler m hz, trivial⟩

/-- Every thread follows its protocol, and once `hello_exit` has called `del_timer`, `P`
holds. -/
def Since (P : World → Prop) (w : World) : Prop :=
  w.Each fun j th => ∃ done, outline.At () w.shared j th done ∧ (th.role = .exit → done = true → P w)

lemma Since.holds (h : Since P w) : outline.Holds () w := by
  refine ⟨trivial, fun j th hj => ?_⟩
  obtain ⟨done, hat, -⟩ := h j th hj
  exact ⟨done, hat⟩

/-- When `P` holds, nothing more is to be shown. -/
lemma since_of_holds (hw : outline.Holds () w) (hP : P w) : Since P w := by
  intro j th hj
  obtain ⟨done, hat⟩ := hw.threads j th hj
  exact ⟨done, hat, fun _ _ => hP⟩

lemma since_loaded (h : Loaded m w) : Since P w := by
  intro j th hj
  have hth := List.mem_of_getElem? hj
  rw [h.threads] at hth
  have hexit : ∃ done, outline.At () w.shared j ⟨.exit, m.helloExit⟩ done ∧
      (Role.exit = .exit → done = true → P w) :=
    ⟨false, ⟨follows_helloExit m, trivial⟩, fun _ hdone => absurd hdone Bool.false_ne_true⟩
  cases m with
  | timerModule =>
    obtain rfl := List.mem_singleton.1 hth
    exact hexit
  | spinlockWithInterrupts =>
    rcases List.mem_cons.1 hth with rfl | hth
    · exact hexit
    · obtain rfl := List.mem_singleton.1 hth
      exact ⟨false, ⟨follows_threadFunction false, trivial⟩, fun hrole => by cases hrole⟩

/-- The exit function has deleted the timer before, unless it does so now. -/
lemma done_of_after {done : Bool} {o : Op} {x : o.Ans} (ho : o ≠ .delTimer)
    (hallow : (proto .exit).allow done o) (h : (proto .exit).after done o x = true) :
    done = true := by
  cases o
  case modTimer => exact hallow.elim
  case delTimer => exact absurd rfl ho
  all_goals exact h

/-- What `del_timer` establishes and every other step keeps holds from `del_timer` on. -/
lemma Since.step (hw : Since P w) (h : (machine m hz).Moves w l w')
    (hP : Deletes w l → P w') (hkeep : ¬ Deletes w l → P w → P w') : Since P w' := by
  obtain ⟨⟨⟩, hholds⟩ := sound_outline.step hw.holds trivial h
  by_cases hdel : Deletes w l
  · exact since_of_holds hholds (hP hdel)
  · by_cases hPw : P w
    · exact since_of_holds hholds (hkeep hdel hPw)
    · -- `del_timer` has not been called
      have hbefore (j : ℕ) (th : Thread Op Op.Ans Role Bool) (hj : w.threads[j]? = some th) :
          ∃ done, outline.At () w'.shared j th done ∧ (th.role = .exit → done = true → P w') := by
        obtain ⟨done, hat, hPdone⟩ := hw j th hj
        exact ⟨done, ⟨hat.follows, trivial⟩, fun hr hdone => absurd (hPdone hr hdone) hPw⟩
      cases h with
      | @act i e r o k x s hi hready hsem =>
        refine Pool.each_set (fun j th _ hj => hbefore j th hj) ?_
        obtain ⟨done, hat, hPdone⟩ := hw i _ hi
        refine ⟨_, ⟨hat.follows.2 x trivial, trivial⟩, ?_⟩
        rintro rfl hdone
        have ho : o ≠ .delTimer := by
          rintro rfl
          exact hdel ((Pool.aboutTo_iff hi).2 ⟨rfl, rfl⟩)
        exact absurd (hPdone rfl (done_of_after ho hat.follows.1 hdone)) hPw
      | @again i e r a p hi hagain =>
        refine Pool.each_set (fun j th _ hj => hbefore j th hj) ?_
        obtain ⟨done, hat, hPdone⟩ := hw i _ hi
        exact ⟨done, ⟨sound_outline.again hat hagain, trivial⟩,
          fun hr hdone => absurd (hPdone hr hdone) hPw⟩
      | @event n s ths hevent =>
        refine Pool.each_append hbefore fun j th hth => ?_
        obtain ⟨expires, -, heq⟩ := Option.map_eq_some_iff.1 hevent
        obtain ⟨-, rfl⟩ := Prod.mk.inj heq
        obtain rfl := List.mem_singleton.1 (List.mem_of_getElem? hth)
        exact ⟨false, ⟨follows_handler m hz, trivial⟩, fun hrole => by cases hrole⟩

/-- A dead timer stays dead. -/
lemma dead_step (hw : outline.Holds () w) (h : (machine m hz).Moves w l w') (hdead : Dead w) :
    Dead w' := by
  obtain ⟨htimer, hquiet⟩ := hdead
  cases h with
  | @act i e r o k x s hi hready hsem =>
    have hr : r ≠ .handler := by
      rintro rfl
      exact hquiet ⟨_, List.mem_of_getElem? hi, rfl, rfl⟩
    obtain ⟨done, hat⟩ := hw.threads _ _ hi
    refine ⟨?_, fun ⟨th, hth, hrole, hruns⟩ => ?_⟩
    · have hallow := hat.follows.1
      rw [timer_sem hsem]
      cases o <;> first | rfl | exact htimer | cases r <;> simp at hr hallow
    · rcases List.mem_or_eq_of_mem_set hth with hth | rfl
      · exact hquiet ⟨th, hth, hrole, hruns⟩
      · exact hr hrole
  | @again i e r a p hi hagain =>
    refine ⟨htimer, fun ⟨th, hth, hrole, hruns⟩ => ?_⟩
    rcases List.mem_or_eq_of_mem_set hth with hth | rfl
    · exact hquiet ⟨th, hth, hrole, hruns⟩
    · obtain rfl : r = .handler := hrole
      cases hagain
  | @event n s ths hevent =>
    simp [machine, htimer] at hevent

/-- A handler that ends has re-armed the timer just before. -/
lemma armed_of_ends {done : Bool} {j : ℕ} {o : Op} {k : o.Ans → Driver} {x : o.Ans} {s s' : State}
    (hf : (Prog.act o k).Follows (proto .handler) done (Ends .handler)) {a : Bool}
    (hk : k x = .ret a) (hsem : sem j o s = .done x s') : s'.timer ≠ none := by
  have hend := hf.2 x trivial
  rw [hk] at hend
  have hallow := hf.1
  rw [timer_sem hsem]
  cases o
  case modTimer => exact Option.some_ne_none _
  case delTimer => exact hallow.elim
  all_goals
    obtain rfl : done = false := hallow
    simp at hend

/-- A running handler still runs after a step, or has re-armed the timer. -/
lemma runs_step (hw : outline.Holds () w) (h : (machine m hz).Moves w l w')
    (hruns : HandlerRuns w) : HandlerRuns w' ∨ w'.shared.timer ≠ none := by
  obtain ⟨th, hth, hrole, hrun⟩ := hruns
  obtain ⟨j, hj⟩ := List.mem_iff_getElem?.1 hth
  have hother {i : ℕ} {th' : Thread Op Op.Ans Role Bool} (hji : j ≠ i) :
      th ∈ w.threads.set i th' :=
    List.mem_iff_getElem?.2 ⟨j, by rwa [List.getElem?_set_ne hji.symm]⟩
  cases h with
  | @act i e r o k x s hi hready hsem =>
    by_cases hji : j = i
    · subst hji
      obtain rfl : _ = th := Option.some.inj (hi.symm.trans hj)
      obtain rfl : r = .handler := hrole
      cases hk : k x with
      | ret a =>
        obtain ⟨done, hat⟩ := hw.threads _ _ hi
        exact .inr (armed_of_ends hat.follows hk hsem)
      | act o' k' =>
        have hlt : j < w.threads.length := (List.getElem?_eq_some_iff.1 hi).1
        exact .inl ⟨⟨.handler, .act o' k'⟩, List.mem_iff_getElem?.2 ⟨j, by simp [hlt]⟩, rfl, rfl⟩
    · exact .inl ⟨th, hother hji, hrole, hrun⟩
  | @again i e r a p hi hagain =>
    refine .inl ⟨th, hother ?_, hrole, hrun⟩
    rintro rfl
    obtain rfl : _ = th := Option.some.inj (hi.symm.trans hj)
    cases hrun
  | @event n s ths hevent =>
    exact .inl ⟨th, List.mem_append_left _ hth, hrole, hrun⟩

/-- A timer that is not dead stays so without `del_timer`. -/
lemma alive_step (hw : outline.Holds () w) (h : (machine m hz).Moves w l w') (hdel : ¬ Deletes w l)
    (halive : ¬ Dead w) : ¬ Dead w' := by
  rintro ⟨htimer, hquiet⟩
  refine halive ⟨?_, fun hruns => ?_⟩
  · cases h with
    | @act i e r o k x s hi hready hsem =>
      obtain ⟨done, hat⟩ := hw.threads _ _ hi
      have hallow := hat.follows.1
      rw [timer_sem hsem] at htimer
      cases o
      case modTimer => cases htimer
      case delTimer =>
        cases r
        case exit => exact absurd ((Pool.aboutTo_iff hi).2 ⟨rfl, rfl⟩) hdel
        all_goals exact hallow.elim
      all_goals exact htimer
    | again hi hagain => exact htimer
    | @event n s ths hevent =>
      -- an expiry starts a handler
      obtain ⟨expires, -, heq⟩ := Option.map_eq_some_iff.1 hevent
      obtain ⟨-, rfl⟩ := Prod.mk.inj heq
      exact absurd ⟨_, List.mem_append_right _ (List.mem_singleton_self _), rfl,
        handler_runs m hz⟩ hquiet
  · rcases runs_step hw h hruns with hruns' | harmed
    · exact hquiet hruns'
    · exact harmed htimer

end Since

/-- The `del_timer` of the run is called while no handler is running if `quiet`, and while
one is running otherwise. -/
def DeleteWhile (quiet : Prop) (w : World) (l : Move ℕ Expiry) : Prop :=
  Deletes w l → (¬ HandlerRuns w ↔ quiet)

section Exit

variable {m : TimerModule} {hz : ℕ} {w : World} {quiet : Prop}

/-- What `del_timer` establishes and every other step keeps holds when `hello_exit` has
returned. -/
lemma since_exit {P : World → Prop} {C : World → Move ℕ Expiry → Prop}
    (hP : ∀ w l w', outline.Holds () w → C w l → (machine m hz).Moves w l w' → Deletes w l → P w')
    (hkeep : ∀ w l w', outline.Holds () w → (machine m hz).Moves w l w' → ¬ Deletes w l →
      P w → P w')
    (hw : (system m hz).Reach C w) (hexit : Exited w) : P w := by
  have hsince : Since P w := (machine m hz).invariant (fun _ h => since_loaded h)
    (fun v l v' hv hc h => hv.step h (hP v l v' hv.holds hc h) (hkeep v l v' hv.holds h)) hw
  obtain ⟨th, hth, hrole, hret⟩ := hexit
  obtain ⟨j, hj⟩ := List.mem_iff_getElem?.1 hth
  obtain ⟨done, hat, hPdone⟩ := hsince j th hj
  obtain ⟨r, prog⟩ := th
  cases prog with
  | ret a =>
    obtain rfl : r = .exit := hrole
    have hend : done = true := by simpa using hat.follows
    exact hPdone rfl hend
  | act o k => cases hret

/-- What `del_timer` leaves. -/
lemma dead_iff_of_deletes {w' : World} {l : Move ℕ Expiry} (h : (machine m hz).Moves w l w')
    (hdel : Deletes w l) : Dead w' ↔ ¬ HandlerRuns w := by
  cases h with
  | @act i e r o k x s hi hready hsem =>
    obtain ⟨rfl, rfl⟩ := (Pool.aboutTo_iff hi).1 hdel
    have htimer : s.timer = none := timer_sem (j := e) (o := .delTimer) hsem
    have hruns : HandlerRuns ⟨s, w.threads.set i ⟨.exit, k x⟩⟩ ↔ HandlerRuns w := by
      constructor
      · rintro ⟨th, hth, hrole, hrun⟩
        rcases List.mem_or_eq_of_mem_set hth with hth | rfl
        · exact ⟨th, hth, hrole, hrun⟩
        · cases hrole
      · rintro ⟨th, hth, hrole, hrun⟩
        obtain ⟨j, hj⟩ := List.mem_iff_getElem?.1 hth
        have hji : i ≠ j := by
          rintro rfl
          obtain rfl : _ = th := Option.some.inj (hi.symm.trans hj)
          cases hrole
        exact ⟨th, List.mem_iff_getElem?.2 ⟨j, by rwa [List.getElem?_set_ne hji]⟩, hrole, hrun⟩
    rw [Dead, hruns]
    exact and_iff_right htimer
  | again hi hagain => exact absurd hdel (Pool.not_aboutTo hi)
  | event hevent => exact hdel.elim

/-- **When the timer is dead after hello_exit.** When `hello_exit` has returned, the timer is
not pending and no handler is running if and only if none was running when it called
`del_timer`. -/
theorem dead_iff_quiet (hw : (system m hz).Reach (DeleteWhile quiet) w) (hexit : Exited w) :
    Dead w ↔ quiet := by
  by_cases hq : quiet
  · refine iff_of_true ?_ hq
    refine since_exit (fun v l v' _ hc h hdel => ?_) (fun v l v' hv h _ hP => ?_) hw hexit
    · exact (dead_iff_of_deletes h hdel).2 ((hc hdel).2 hq)
    · exact dead_step hv h hP
  · refine iff_of_false ?_ hq
    refine since_exit (P := fun v => ¬ Dead v) (fun v l v' _ hc h hdel hdead => ?_)
      (fun v l v' hv h hd hP => ?_) hw hexit
    · exact hq ((hc hdel).1 ((dead_iff_of_deletes h hdel).1 hdead))
    · exact alive_step hv h hd hP

end Exit

/-! ## Two runs -/

/-- The module after it has been loaded. -/
def loaded (m : TimerModule) : World where
  shared := ⟨some 5000, 0, false, 0, false, false⟩
  threads := match m with
    | .timerModule => [⟨.exit, m.helloExit⟩]
    | .spinlockWithInterrupts => [⟨.exit, m.helloExit⟩, ⟨.kthread, threadFunction⟩]

lemma reach_loaded (m : TimerModule) (C : World → Move ℕ Expiry → Prop) :
    (system m 1000).Reach C (loaded m) :=
  .init ⟨⟨5000, rfl⟩, rfl⟩

instance (w : World) : Decidable (HandlerRuns w) :=
  inferInstanceAs (Decidable (∃ th ∈ w.threads, _))

instance (w : World) : Decidable (Dead w) := inferInstanceAs (Decidable (_ ∧ _))

instance (w : World) : Decidable (Exited w) :=
  inferInstanceAs (Decidable (∃ th ∈ w.threads, _))

instance (w : World) : (l : Move ℕ Expiry) → Decidable (Deletes w l)
  | .run _ _ => inferInstanceAs (Decidable (Pool.AboutTo _ _ _ _))
  | .event _ => inferInstanceAs (Decidable False)

instance (quiet : Prop) [Decidable quiet] (w : World) (l : Move ℕ Expiry) :
    Decidable (DeleteWhile quiet w l) :=
  inferInstanceAs (Decidable (_ → _))

/-- `n` operations of thread `i`. -/
def turns (i n : ℕ) : List (Move ℕ Expiry) := List.replicate n (.run i 0)

theorem dead_iff_quiet_oneExpiry : ∃ w, Exited w ∧ Dead w := by
  have hw := System.reach_get ([.event .expire] ++ turns 1 5 ++ turns 0 5)
    (reach_loaded .timerModule (DeleteWhile True)) (by decide +kernel) (by decide +kernel)
  exact ⟨_, by decide +kernel, (dead_iff_quiet hw (by decide +kernel)).2 trivial⟩

/-- **The timer survives the module.** It expires, `hello_exit` deletes it while the handler
is running and returns, and the handler makes it pending again. -/
theorem pending_after_exit :
    (∃ w, (system .timerModule 1000).Reachable w ∧ Exited w ∧ w.shared.timer = some 5000) ∧
      ∃ w, (system .spinlockWithInterrupts 1000).Reachable w ∧ Exited w ∧
        w.shared.timer = some 5000 := by
  constructor
  · exact System.exists_reachable ([.event .expire] ++ turns 1 4 ++ turns 0 5 ++ turns 1 1)
      (reach_loaded _ _) (by decide +kernel)
  · -- the kernel thread is stopped before the timer is deleted
    exact System.exists_reachable
      (turns 0 1 ++ turns 1 1 ++ turns 0 1 ++ [.event .expire] ++ turns 2 4 ++ turns 0 7 ++
        turns 2 1)
      (reach_loaded _ _) (by decide +kernel)

end KernelDriverLab.Timer
