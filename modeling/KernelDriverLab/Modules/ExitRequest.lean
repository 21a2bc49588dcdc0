import KernelDriverLab.Chardev.Handlers
import KernelDriverLab.Lib.Machine
import KernelDriverLab.Modules.Loading

/-!
# The exit request of the wait threads

In `wait_queue_module.c` and `completion_module.c` a kernel thread waits for `my_read` and
`hello_exit`, which say in one flag who they are.  The thread looks at the flag after each
wait: on 2 it returns, otherwise it clears the flag and waits again.  The wait queue is
modelled as `wait_event_interruptible` uses it, with a check of the flag before the thread
puts itself on the queue and one after it; a completion is a counter.  The messages to the
log are left out, but not the counter of the reads in one of them.

`Blocked` says that the wait thread has to wait, `Signalled` that `hello_exit` has stored
its 2 and signalled.  `Ordered` is a condition on the order of the three stores to the
flag: the thread does not clear a 2 that it has not seen, and `my_read` does not overwrite
it.  Under this condition no request is lost.
-/

namespace KernelDriverLab.ExitRequest

open Lib Prog Chardev

/-- The two modules. -/
inductive WaitModule where
  | waitQueueModule
  | completionModule
deriving DecidableEq, Repr

/-- The operations on the flag, on the wait queue and on the completion. -/
inductive Op where
  /-- Load `wait_queue_flag` or `wait_flag`. -/
  | loadFlag
  | storeFlag (v : Int)
  /-- `++read_count` -/
  | countRead
  /-- The thread puts itself on the wait queue. -/
  | prepareToWait
  /-- The thread sleeps until it is woken up. -/
  | schedule
  /-- The thread takes itself off the wait queue. -/
  | finishWait
  /-- `wake_up_interruptible(&wq)` -/
  | wakeUp
  | waitForCompletion
  | completionDone
  | complete
  /-- The part of `my_read` that works on the message. -/
  | copyMessage (offset : ℕ)
  | release (r : Registration)
deriving DecidableEq, Repr

/-- What an operation answers. -/
@[reducible] def Op.Ans : Op → Type
  | loadFlag => Int
  | completionDone => Bool
  | copyMessage _ => Reply
  | _ => Unit

/-- How a round of a thread ends. -/
inductive Next where
  | stop
  /-- Back to the beginning of `while(1)`. -/
  | again
  /-- Back to the beginning of the loop in `wait_event_interruptible`. -/
  | recheck
deriving DecidableEq, Repr

/-- A round of a function. -/
abbrev Driver : Type := Prog Op Op.Ans Next

/-- The variables of the module. -/
structure State where
  flag : Int
  readCount : UInt32
  /-- The wait thread is on the wait queue and has not been woken up since. -/
  asleep : Bool
  /-- The counter of the completion. -/
  done : ℕ
  deviceBuffer : List UInt8
  /-- `hello_exit` has been called. -/
  unloading : Bool
deriving DecidableEq, Repr

/-- What `complete_all` leaves in the counter of the completion. -/
def UINT_MAX : ℕ := 2 ^ 32 - 1

/-- What each operation does; `copy_to_user` faults as given. -/
def sem (fault : Option ℕ) : Prog.Sem Op Op.Ans State
  | .loadFlag, s => .done s.flag s
  | .storeFlag v, s => .done () { s with flag := v }
  | .countRead, s => .done () { s with readCount := s.readCount + 1 }
  | .prepareToWait, s => .done () { s with asleep := true }
  | .schedule, s => .done () s
  | .finishWait, s => .done () { s with asleep := false }
  | .wakeUp, s => .done () { s with asleep := false }
  | .waitForCompletion, s =>
      .done () { s with done := if s.done = UINT_MAX then s.done else s.done - 1 }
  | .completionDone, s => .done (s.done != 0) s
  | .complete, s => .done () { s with done := if s.done = UINT_MAX then s.done else s.done + 1 }
  | .copyMessage offset, s =>
      .done (readMessage (terminate s.deviceBuffer offset) offset fault id)
        { s with deviceBuffer := terminate s.deviceBuffer offset }
  | .release _, s => .done () s

/-! ## The functions -/

/-- `wait_function` of `wait_queue_module.c` from the end of the wait on. -/
def afterEvent : Driver := do
  let flag ← op Op.loadFlag
  if flag = 2 then pure .stop
  else
    op Op.countRead
    op (Op.storeFlag 0)
    pure .again

/-- A round of the loop in `wait_event_interruptible(wq, wait_queue_flag != 0)`. -/
def waitLoop : Driver := do
  op Op.prepareToWait
  let flag ← op Op.loadFlag
  if flag ≠ 0 then
    op Op.finishWait
    afterEvent
  else
    op Op.schedule
    pure .recheck

namespace WaitModule

/-- A round of the loop of `wait_function`. -/
def waitFunction : WaitModule → Driver
  | waitQueueModule => do
    let flag ← op Op.loadFlag
    if flag ≠ 0 then afterEvent else waitLoop
  | completionModule => do
    op Op.waitForCompletion
    let flag ← op Op.loadFlag
    if flag = 2 then
      op (Op.storeFlag 0)
      pure .stop
    else
      op (Op.storeFlag 0)
      pure .again

/-- How `my_read` and `hello_exit` signal that they have stored the flag. -/
def signal : WaitModule → Prog Op Op.Ans Unit
  | waitQueueModule => op Op.wakeUp
  | completionModule => do
    let done ← op Op.completionDone
    if done then pure () else op Op.complete

/-- `my_read` -/
def myRead (m : WaitModule) (offset : ℕ) : Driver := do
  let r ← op (Op.copyMessage offset)
  if r.ret ≤ 0 then pure .stop
  else
    op (Op.storeFlag 1)
    m.signal
    pure .stop

/-- `hello_exit` -/
def helloExit (m : WaitModule) : Driver := do
  op (Op.storeFlag 2)
  m.signal
  op (Op.release .device)
  op (Op.release .cls)
  op (Op.release .cdev)
  op (Op.release .chrdevRegion)
  pure .stop

end WaitModule

/-! ## The machine -/

/-- What a thread runs. -/
inductive Role where
  | waiter
  | reader
  | exit
deriving DecidableEq, Repr

/-- A thread of the module. -/
abbrev WaitThread : Type := Thread Op Op.Ans Role Next

/-- The variables, and the threads that work on them. -/
abbrev World : Type := Pool Op Op.Ans Role Next State

/-- A call of a function of the module. -/
inductive Event where
  /-- `my_write` is called. -/
  | write (user : List UInt8) (fault : Option (ℕ × ℕ))
  /-- `my_read` is called. -/
  | read (offset : ℕ)
  /-- `hello_exit` is called. -/
  | rmmod

/-- The wait thread and any number of calls. -/
def machine (m : WaitModule) : Machine Op Op.Ans Role Next State (Option ℕ) Event where
  sem fault _ := sem fault
  ready s _
    | .schedule => !s.asleep
    | .waitForCompletion => s.done != 0
    | _ => true
  again
    | .waiter, .again => some m.waitFunction
    | .waiter, .recheck => some waitLoop
    | _, _ => none
  event n s :=
    if s.unloading then none
    else match n with
      | .write user fault =>
          some ({ s with deviceBuffer := (writeMessage s.deviceBuffer user fault).2 }, [])
      | .read offset => some (s, [⟨.reader, m.myRead offset⟩])
      | .rmmod => some ({ s with unloading := true }, [⟨.exit, m.helloExit⟩])

/-- The module after `hello_init`. -/
structure Loaded (m : WaitModule) (w : World) : Prop where
  shared : w.shared = ⟨0, 0, false, 0, List.replicate BUFF_SIZE 0, false⟩
  threads : w.threads = [⟨.waiter, m.waitFunction⟩]

/-- The runs of a module. -/
def system (m : WaitModule) : System World (Move (Option ℕ) Event) := (machine m).system (Loaded m)

/-- The wait thread is at an operation that has to wait. -/
def Blocked (m : WaitModule) (w : World) : Prop :=
  ∃ th ∈ w.threads, th.role = .waiter ∧
    ∃ o ∈ th.nextOp, (machine m).ready w.shared .waiter o = false

/-- The thread has nothing to do any more, or nothing but to give registrations back. -/
def PastSignal (th : WaitThread) : Prop := ∀ o ∈ th.nextOp, ∃ r, o = .release r

/-- `hello_exit` has stored 2 and signalled. -/
def Signalled (w : World) : Prop := ∃ th ∈ w.threads, th.role = .exit ∧ PastSignal th

/-- The thread has returned. -/
def HasReturned (th : WaitThread) : Prop := th.result = some .stop

/-- The thread is the wait thread after a test of the flag that has not found 2, or on its way
out of `completion_module.c`. -/
def AboutToClear (th : WaitThread) : Prop :=
  th.nextOp = some .countRead ∨ th.nextOp = some (.storeFlag 0)

/-- `hello_exit` stores 2 only while the wait thread is not about to clear the flag, and
`my_read` stores 1 only before that, or when the wait thread has returned or is about to
clear the flag. -/
def Ordered (w : World) : Move (Option ℕ) Event → Prop
  | .run i _ =>
      (w.AboutTo i .exit (.storeFlag 2) → ∀ th ∈ w.threads, th.role = .waiter →
        ¬ AboutToClear th) ∧
      (w.AboutTo i .reader (.storeFlag 1) →
        (∀ th ∈ w.threads, th.role = .exit → th.nextOp = some (.storeFlag 2)) ∨
          ∃ th ∈ w.threads, th.role = .waiter ∧ (HasReturned th ∨ AboutToClear th))
  | .event _ => True

/-! ## Where the threads are -/

/-- How far a thread is. -/
inductive Stage where
  -- the wait thread: before the first check of the flag
  | check
  -- in the loop of `wait_event_interruptible`
  | prepare | recheck | sleep | finish
  -- before `wait_for_completion`
  | wait
  -- after the wait
  | test
  -- it has seen no 2
  | count | clear
  -- it has seen the 2
  | leave | left
  -- `my_read`
  | reading
  -- `hello_exit`
  | before | stored | completing | signalled
deriving DecidableEq, Repr

/-- The operations of a stage. -/
@[simp] def Stage.allow (m : WaitModule) : Stage → Op → Prop
  | .check, .loadFlag | .prepare, .prepareToWait | .recheck, .loadFlag | .sleep, .schedule
  | .finish, .finishWait => m = .waitQueueModule
  | .wait, .waitForCompletion => m = .completionModule
  | .test, .loadFlag => True
  | .count, .countRead => m = .waitQueueModule
  | .clear, .storeFlag v | .leave, .storeFlag v => v = 0
  | .reading, .copyMessage _ | .reading, .wakeUp | .reading, .completionDone
  | .reading, .complete => True
  | .reading, .storeFlag v => v = 1
  | .before, .storeFlag v => v = 2
  | .stored, .wakeUp => m = .waitQueueModule
  | .stored, .completionDone | .completing, .complete => m = .completionModule
  | .signalled, .release _ => True
  | _, _ => False

/-- The stage after an operation. -/
@[simp] def Stage.after (m : WaitModule) : Stage → (o : Op) → o.Ans → Stage
  | .check, .loadFlag, flag => if flag ≠ 0 then .test else .prepare
  | .prepare, .prepareToWait, _ => .recheck
  | .recheck, .loadFlag, flag => if flag ≠ 0 then .finish else .sleep
  | .sleep, .schedule, _ => .prepare
  | .finish, .finishWait, _ => .test
  | .wait, .waitForCompletion, _ => .test
  | .test, .loadFlag, flag =>
      match m with
      | .waitQueueModule => if flag = 2 then .left else .count
      | .completionModule => if flag = 2 then .leave else .clear
  | .count, .countRead, _ => .clear
  | .clear, .storeFlag _, _ =>
      match m with
      | .waitQueueModule => .check
      | .completionModule => .wait
  | .leave, .storeFlag _, _ => .left
  | .before, .storeFlag _, _ => .stored
  | .stored, .wakeUp, _ => .signalled
  | .stored, .completionDone, done => if done = true then .signalled else .completing
  | .completing, .complete, _ => .signalled
  | st, _, _ => st

/-- The stages of the functions. -/
@[simps]
def proto (m : WaitModule) : Protocol Op Op.Ans Stage where
  allow := Stage.allow m
  expect _ _ _ := True
  after := Stage.after m

/-- Where a round can end, and how. -/
@[simp] def Ends (m : WaitModule) : Stage → Next → Prop
  | .prepare, .recheck | .check, .again => m = .waitQueueModule
  | .wait, .again => m = .completionModule
  | .left, .stop | .reading, .stop | .signalled, .stop => True
  | _, _ => False

/-- The first stage of the wait thread. -/
def WaitModule.start : WaitModule → Stage
  | waitQueueModule => .check
  | completionModule => .wait

section Follow

variable (m : WaitModule)

lemma follows_waitLoop :
    waitLoop.Follows (proto .waitQueueModule) .prepare (Ends .waitQueueModule) := by
  simp +contextual [waitLoop, afterEvent, op]

lemma follows_waitFunction : m.waitFunction.Follows (proto m) m.start (Ends m) := by
  cases m <;> simp +contextual [WaitModule.waitFunction, WaitModule.start, waitLoop, afterEvent, op]

lemma follows_myRead (offset : ℕ) : (m.myRead offset).Follows (proto m) .reading (Ends m) := by
  cases m <;> simp +contextual [WaitModule.myRead, WaitModule.signal, op, follows_bind]

lemma follows_helloExit : m.helloExit.Follows (proto m) .before (Ends m) := by
  cases m <;> simp +contextual [WaitModule.helloExit, WaitModule.signal, op, follows_bind]

end Follow

/-! ## What holds where -/

/-- The wait thread at stage `g` has seen the 2 of `hello_exit`, or will see it next. -/
def Told (g : Stage) (s : State) : Prop :=
  g = .leave ∨ g = .left ∨ s.flag = 2 ∧ g ≠ .count ∧ g ≠ .clear

/-- What holds while `hello_exit` is at a stage and the wait thread at stage `g`. -/
@[simp] def ExitAt (m : WaitModule) (g : Stage) (s : State) : Stage → Prop
  | .before => True
  | .stored | .completing => Told g s
  | .signalled => Told g s ∧ (m = .waitQueueModule → g = .sleep → s.asleep = false) ∧
      (m = .completionModule → g = .wait → s.done ≠ 0)
  | _ => False

/-- A stage of the wait thread. -/
@[simp] def Stage.ofWaiter : Stage → Bool
  | reading | before | stored | completing | signalled => false
  | _ => true

/-- The ghost variable is the stage of the wait thread, which is thread 0. -/
@[simps]
def outline (m : WaitModule) : Outline Op Op.Ans Role Next State Stage Stage where
  proto _ := proto m
  ends _ := Ends m
  here g j r st s := match r with
    | .waiter => j = 0 ∧ g = st ∧ st.ofWaiter = true
    | .reader => st = .reading
    | .exit => ExitAt m g s st
  always _ _ := True

/-- `complete` leaves a completion that is done. -/
lemma complete_ne_zero (s : State) : (if s.done = UINT_MAX then s.done else s.done + 1) ≠ 0 := by
  split_ifs with hmax
  · rw [hmax]
    decide
  · exact Nat.succ_ne_zero _

section Keep

variable {m : WaitModule} {g e : Stage} {s s' : State} {fault : Option ℕ} {o : Op} {x : o.Ans}

/-- A thread that has been told keeps on its way out. -/
lemma told_after (h : Told g s) (hg : g.ofWaiter = true) (hallow : g.allow m o)
    (hsem : sem fault o s = .done x s') :
    Told (g.after m o x) s' ∧ g.after m o x ≠ .sleep ∧ g.after m o x ≠ .wait := by
  rcases h with rfl | rfl | ⟨hflag, hclear⟩
  · cases o <;> first | exact hallow.elim | simp [Told]
  · cases o <;> exact hallow.elim
  · cases g
    case count => exact absurd rfl hclear.1
    case clear => exact absurd rfl hclear.2
    case leave => cases o <;> first | exact hallow.elim | simp [Told]
    case left | reading | before | stored | completing | signalled =>
      cases o <;> first | exact hallow.elim | cases hg
    all_goals
      -- the thread finds the flag 2 wherever it looks
      cases o <;> first | exact hallow.elim | skip
      obtain ⟨rfl, rfl⟩ := Outcome.done.inj hsem
      cases m <;> simp [Told, hflag]

lemma ofWaiter_after (hg : g.ofWaiter = true) (hallow : g.allow m o) :
    (g.after m o x).ofWaiter = true := by
  cases g <;> cases o <;> first | exact hallow.elim | cases hg
  all_goals cases m <;> simp <;> split_ifs <;> rfl

/-- Every step of the wait thread keeps what `hello_exit` relies on. -/
lemma exitAt_after (h : ExitAt m g s e) (hg : g.ofWaiter = true) (hallow : g.allow m o)
    (hsem : sem fault o s = .done x s') : ExitAt m (g.after m o x) s' e := by
  cases e
  case before => trivial
  case stored | completing => exact (told_after h hg hallow hsem).1
  case signalled =>
    obtain ⟨htold, hsleep, hwait⟩ := told_after h.1 hg hallow hsem
    exact ⟨htold, fun _ hs => absurd hs hsleep, fun _ hw => absurd hw hwait⟩
  all_goals exact h.elim

/-- So does every step of another thread that leaves the flag as it is or stores 2, and
wakes the thread up rather than putting it to sleep. -/
lemma ExitAt.mono (h : ExitAt m g s e) (hflag : s'.flag = s.flag ∨ s'.flag = 2)
    (hasleep : s.asleep = false → s'.asleep = false) (hdone : s.done ≠ 0 → s'.done ≠ 0) :
    ExitAt m g s' e := by
  have htold (ht : Told g s) : Told g s' := by
    refine ht.imp_right fun ht => ht.imp_right fun ⟨h2, hclear⟩ => ⟨?_, hclear⟩
    rcases hflag with heq | h2'
    · rw [heq, h2]
    · exact h2'
  cases e
  case before => trivial
  case stored | completing => exact htold h
  case signalled => exact
    ⟨htold h.1, fun hm hs => hasleep (h.2.1 hm hs), fun hm hw => hdone (h.2.2 hm hw)⟩
  all_goals exact h.elim

/-- `my_read` may store its 1 when the wait thread is on its way out. -/
lemma ExitAt.store (h : ExitAt m g s e) (hg : g = .count ∨ g = .clear ∨ g = .leave ∨ g = .left) :
    ExitAt m g s' e := by
  have htold (ht : Told g s) : Told g s' := by
    rcases hg with rfl | rfl | hg | hg
    · simp [Told] at ht
    · simp [Told] at ht
    · exact .inl hg
    · exact .inr (.inl hg)
  cases e
  case before => trivial
  case stored | completing => exact htold h
  case signalled =>
    refine ⟨htold h.1, fun _ hs => ?_, fun _ hw => ?_⟩
    · subst hs
      simp at hg
    · subst hw
      simp at hg
  all_goals exact h.elim

/-- The operations of `my_read` and `hello_exit`, apart from the store of 1. -/
@[simp] def Op.Signals : Op → Prop
  | copyMessage _ | wakeUp | completionDone | complete | release _ => True
  | storeFlag v => v = 2
  | _ => False

lemma ExitAt.signals (h : ExitAt m g s e) (ho : o.Signals) (hsem : sem fault o s = .done x s') :
    ExitAt m g s' e := by
  cases o
  case storeFlag v =>
    obtain ⟨-, rfl⟩ := Outcome.done.inj hsem
    exact h.mono (.inr ho) id id
  case complete =>
    obtain ⟨-, rfl⟩ := Outcome.done.inj hsem
    exact h.mono (.inl rfl) id fun _ => complete_ne_zero s
  case wakeUp =>
    obtain ⟨-, rfl⟩ := Outcome.done.inj hsem
    exact h.mono (.inl rfl) (fun _ => rfl) id
  case copyMessage | completionDone | release =>
    obtain ⟨-, rfl⟩ := Outcome.done.inj hsem
    exact h.mono (.inl rfl) id id
  all_goals exact ho.elim

/-- The steps of `hello_exit` establish what it relies on, when it stores its 2 while the
wait thread is not about to clear the flag. -/
lemma exitAt_own (h : ExitAt m g s e) (hallow : e.allow m o)
    (hclear : e = .before → g ≠ .count ∧ g ≠ .clear)
    (hsem : sem fault o s = .done x s') : ExitAt m g s' (e.after m o x) := by
  cases e
  case before =>
    cases o <;> first | exact hallow.elim | skip
    obtain ⟨-, rfl⟩ := Outcome.done.inj hsem
    exact .inr (.inr ⟨hallow, hclear rfl⟩)
  case stored =>
    cases o <;> first | exact hallow.elim | skip
    case wakeUp =>
      obtain ⟨-, rfl⟩ := Outcome.done.inj hsem
      refine ⟨h, fun _ _ => rfl, fun hm => ?_⟩
      exact absurd (hallow.symm.trans hm) (by decide)
    case completionDone =>
      obtain ⟨rfl, rfl⟩ := Outcome.done.inj hsem
      by_cases hdone : s.done = 0
      · simpa [hdone] using h
      · simp only [Stage.after, bne_iff_ne, ne_eq, hdone, not_false_eq_true, if_true]
        refine ⟨h, fun hm => ?_, fun _ _ => hdone⟩
        exact absurd (hallow.symm.trans hm) (by decide)
  case completing =>
    cases o <;> first | exact hallow.elim | skip
    obtain ⟨-, rfl⟩ := Outcome.done.inj hsem
    refine ⟨h, fun hm => ?_, fun _ _ => ?_⟩
    · exact absurd (hallow.symm.trans hm) (by decide)
    · exact complete_ne_zero s
  case signalled =>
    cases o <;> first | exact hallow.elim | skip
    exact h.signals (o := .release _) trivial hsem
  all_goals exact h.elim

end Keep

section Sound

variable {m : WaitModule} {g : Stage} {w : World}

/-- What the next operation of the wait thread says about its stage. -/
lemma stage_of_nextOp {p : Driver} (hf : p.Follows (proto m) g (Ends m)) (hg : g.ofWaiter = true) :
    (g = .count ∨ g = .clear → AboutToClear ⟨.waiter, p⟩) ∧
      (HasReturned ⟨.waiter, p⟩ ∨ AboutToClear ⟨.waiter, p⟩ →
        g = .count ∨ g = .clear ∨ g = .leave ∨ g = .left) := by
  cases p with
  | ret a =>
    refine ⟨?_, ?_⟩
    · rintro (rfl | rfl) <;> exact (follows_ret.1 hf).elim
    · rintro (hret | hnext | hnext)
      · obtain rfl : a = .stop := Option.some.inj hret
        cases g <;> simp at hf hg ⊢
      · cases hnext
      · cases hnext
  | act o k =>
    have hallow := hf.1
    refine ⟨?_, ?_⟩
    · rintro (rfl | rfl) <;> cases o <;> first | exact hallow.elim | skip
      · exact .inl rfl
      · obtain rfl := hallow
        exact .inr rfl
    · rintro (hret | hnext | hnext)
      · cases hret
      · obtain rfl : o = .countRead := Option.some.inj hnext
        cases g <;> simp at hallow hg ⊢
      · obtain rfl : o = .storeFlag 0 := Option.some.inj hnext
        cases g <;> simp at hallow hg ⊢

/-- The operations of `hello_exit` are among those that keep what it relies on. -/
lemma signals_of_exitAt {s : State} {st : Stage} {o : Op} (h : ExitAt m g s st)
    (hallow : st.allow m o) : o.Signals := by
  cases st <;> first | exact h.elim | skip
  all_goals cases o <;> first | exact hallow.elim | exact hallow | trivial

/-- The condition under which the outline is kept: the steps are ordered, and thread 0 is the
wait thread. -/
def OrderedWithWaiter (w : World) (l : Move (Option ℕ) Event) : Prop :=
  Ordered w l ∧ w.threads[0]?.map Thread.role = some .waiter

/-- A wait thread of a world with an outline is at the stage of the ghost variable. -/
lemma follows_of_waiter (hw : (outline m).Holds g w) {p : Driver}
    (hth : (⟨.waiter, p⟩ : WaitThread) ∈ w.threads) :
    p.Follows (proto m) g (Ends m) ∧ g.ofWaiter = true := by
  obtain ⟨j, st, -, hst⟩ := hw.of_mem hth
  obtain ⟨-, rfl, hg⟩ := hst.here
  exact ⟨hst.follows, hg⟩

/-- There is such a thread. -/
lemma waiter_at (hw : (outline m).Holds g w) (h0 : w.threads[0]?.map Thread.role = some .waiter) :
    ∃ p, (⟨.waiter, p⟩ : WaitThread) ∈ w.threads ∧ p.Follows (proto m) g (Ends m) ∧
      g.ofWaiter = true := by
  obtain ⟨p, st, hth, -⟩ := hw.of_role h0
  exact ⟨p, hth, follows_of_waiter hw hth⟩

section Land

variable {i : ℕ} {fault : Option ℕ} {st : Stage} {o : Op} {k : o.Ans → Driver} {x : o.Ans}
  {s : State}

/-- The steps of the wait thread change the ghost variable. -/
lemma lands_waiter (hst : (outline m).At g w.shared i ⟨.waiter, .act o k⟩ st)
    (hsem : sem fault o w.shared = .done x s) :
    (outline m).Lands g (g.after m o x) w i .waiter (st.after m o x) s := by
  have hallow : st.allow m o := hst.follows.1
  obtain ⟨rfl, rfl, hg⟩ := hst.here
  refine ⟨trivial, ⟨rfl, rfl, ofWaiter_after hg hallow⟩, ?_⟩
  rintro j ⟨r', p⟩ st' hj hth hst'
  cases r' with
  | waiter => exact absurd hst'.here.1 hj
  | reader => exact hst'.here
  | exit => exact exitAt_after hst'.here hg hallow hsem

/-- `my_read` stores its 1 before `hello_exit` stores its 2, or when the wait thread is on its
way out. -/
lemma exitAt_store (hw : (outline m).Holds g w) (hc : Ordered w (.run i fault))
    (habout : w.AboutTo i .reader (.storeFlag 1)) {j : ℕ} {p : Driver}
    (hj : w.threads[j]? = some ⟨.exit, p⟩)
    (hst : (outline m).At g w.shared j ⟨.exit, p⟩ st) : ExitAt m g s st := by
  have hat : ExitAt m g w.shared st := hst.here
  rcases hc.2 habout with hbefore | ⟨⟨r, q⟩, hth, hrole, hout⟩
  · have hnext := hst.allow (hbefore _ (List.mem_of_getElem? hj) rfl)
    cases st <;> first | exact hnext.elim | exact hat.elim | trivial
  · obtain rfl : r = .waiter := hrole
    obtain ⟨hf, hg⟩ := follows_of_waiter hw hth
    exact hat.store ((stage_of_nextOp hf hg).2 hout)

lemma lands_reader (hw : (outline m).Holds g w) (hc : Ordered w (.run i fault))
    (hi : w.threads[i]? = some ⟨.reader, .act o k⟩)
    (hst : (outline m).At g w.shared i ⟨.reader, .act o k⟩ st)
    (hsem : sem fault o w.shared = .done x s) :
    (outline m).Lands g g w i .reader (st.after m o x) s := by
  have hallow : st.allow m o := hst.follows.1
  obtain rfl : st = .reading := hst.here
  refine ⟨trivial, by cases o <;> rfl, ?_⟩
  rintro j ⟨r', p⟩ st' hj hth hst'
  cases r' with
  | waiter => exact hst'.here
  | reader => exact hst'.here
  | exit =>
    by_cases hstore : o = .storeFlag 1
    · exact exitAt_store hw hc ((Pool.aboutTo_iff hi).2 ⟨rfl, hstore⟩) hth hst'
    · have ho : o.Signals := by
        cases o <;> first | exact hallow.elim | trivial | skip
        obtain rfl := hallow
        exact absurd rfl hstore
      exact hst'.here.signals ho hsem

lemma lands_exit (hw : (outline m).Holds g w) (hc : OrderedWithWaiter w (.run i fault))
    (hi : w.threads[i]? = some ⟨.exit, .act o k⟩)
    (hst : (outline m).At g w.shared i ⟨.exit, .act o k⟩ st)
    (hsem : sem fault o w.shared = .done x s) :
    (outline m).Lands g g w i .exit (st.after m o x) s := by
  have hallow : st.allow m o := hst.follows.1
  refine ⟨trivial, exitAt_own hst.here hallow ?_ hsem, ?_⟩
  · -- it is about to store 2, and the wait thread is not about to clear the flag
    rintro rfl
    obtain ⟨p, hp, hf, hg⟩ := waiter_at hw hc.2
    cases o <;> first | exact hallow.elim | skip
    obtain rfl := hallow
    have hclear := hc.1.1 ((Pool.aboutTo_iff hi).2 ⟨rfl, rfl⟩) _ hp rfl
    rw [← not_or]
    exact fun hg' => hclear ((stage_of_nextOp hf hg).1 hg')
  · rintro j ⟨r', p⟩ st' hj hth hst'
    cases r' with
    | waiter => exact hst'.here
    | reader => exact hst'.here
    | exit => exact hst'.here.signals (signals_of_exitAt hst.here hallow) hsem

/-- The events leave the flag, the wait queue and the completion alone. -/
lemma old_event (hflag : s.flag = w.shared.flag) (hasleep : s.asleep = w.shared.asleep)
    (hdone : s.done = w.shared.done) (j : ℕ) (th : WaitThread) (st : Stage)
    (_ : w.threads[j]? = some th) (hst : (outline m).At g w.shared j th st) :
    (outline m).here g j th.role st s := by
  obtain ⟨r, p⟩ := th
  cases r with
  | waiter => exact hst.here
  | reader => exact hst.here
  | exit => exact hst.here.mono (.inl hflag) (hasleep ▸ id) (hdone ▸ id)

end Land

lemma sound_outline : (outline m).Sound (machine m) OrderedWithWaiter where
  act {g w i fault r st o k x s} hw hc hi hst hready hsem := by
    suffices h : ∃ g', (outline m).Lands g g' w i r (st.after m o x) s from
      ⟨trivial, h.imp fun _ h => ⟨h.always, h.own, h.others⟩⟩
    cases r with
    | waiter => exact ⟨_, lands_waiter hst hsem⟩
    | reader => exact ⟨g, lands_reader hw hc.1 hi hst hsem⟩
    | exit => exact ⟨g, lands_exit hw hc hi hst hsem⟩
  again {_ _ _ r st a p} hst hagain := by
    have hend : Ends m st a := hst.follows
    cases r <;> cases a <;> simp only [machine, reduceCtorEq] at hagain
    · obtain rfl := Option.some.inj hagain
      have hstart : st = m.start := by
        cases st <;> simp at hend <;> subst hend <;> rfl
      rw [hstart]
      exact follows_waitFunction m
    · obtain rfl := Option.some.inj hagain
      cases st <;> simp at hend
      subst hend
      exact follows_waitLoop
  event {g w n s ths} hw hc hevent := by
    suffices h : (outline m).Admits g g w s ths from ⟨g, h.always, h.old, h.new⟩
    simp only [machine, Option.ite_none_left_eq_some] at hevent
    obtain ⟨-, hevent⟩ := hevent
    cases n with
    | write user fault =>
      obtain ⟨rfl, rfl⟩ := Prod.mk.inj (Option.some.inj hevent)
      exact Outline.admits_nil trivial (old_event rfl rfl rfl)
    | read offset =>
      obtain ⟨rfl, rfl⟩ := Prod.mk.inj (Option.some.inj hevent)
      exact Outline.admits_single .reading trivial (old_event rfl rfl rfl)
        ⟨follows_myRead m offset, rfl⟩
    | rmmod =>
      obtain ⟨rfl, rfl⟩ := Prod.mk.inj (Option.some.inj hevent)
      exact Outline.admits_single .before trivial (old_event rfl rfl rfl)
        ⟨follows_helloExit m, trivial⟩

lemma holds_of_loaded (h : Loaded m w) : (outline m).Holds m.start w := by
  obtain ⟨s, ths⟩ := w
  obtain rfl := h.threads
  exact Outline.holds_single trivial ⟨follows_waitFunction m, rfl, rfl, by cases m <;> rfl⟩

lemma holds_of_reach (hw : (system m).Reach Ordered w) : ∃ g, (outline m).Holds g w := by
  have hrole (w : World) (hw : (system m).Reach Ordered w) :
      w.threads[0]?.map Thread.role = some .waiter :=
    Machine.role_of_reach (fun w h => by rw [h.threads]; rfl) hw
  exact sound_outline.holds_of_reach (fun w h => ⟨_, holds_of_loaded h⟩) (hw.strengthen hrole)

/-- When `hello_exit` has signalled, it is at its last stage. -/
lemma told_of_signalled (hw : (outline m).Holds g w) (hsig : Signalled w) :
    ExitAt m g w.shared .signalled := by
  obtain ⟨⟨r, p⟩, hth, rfl, hpast⟩ := hsig
  obtain ⟨j, st, -, hf, hat⟩ := hw.of_mem hth
  have hst : st = .signalled := by
    cases p with
    | ret a =>
      have hend : Ends m st a := hf
      cases st <;> first | exact hat.elim | rfl | exact hend.elim
    | act o k =>
      obtain ⟨r, rfl⟩ := hpast o rfl
      have hallow : st.allow m (.release r) := hf.1
      cases st <;> first | exact hat.elim | rfl | exact hallow.elim
  rwa [hst] at hat

/-- A thread that has been told is on its way out, unless the flag still says so. -/
lemma ends_of_told {s : State} {p : Driver} (hf : p.Follows (proto m) g (Ends m))
    (h : Told g s) : s.flag = 2 ∨ p.Ends (· = .stop) := by
  have hleft {p : Driver} (hf : p.Follows (proto m) .left (Ends m)) : p.Ends (· = .stop) := by
    cases p with
    | ret a => cases a <;> first | rfl | exact hf.elim
    | act o k => cases o <;> exact hf.1.elim
  rcases h with rfl | rfl | ⟨hflag, -⟩
  · right
    cases p with
    | ret a => cases a <;> exact hf.elim
    | act o k =>
      intro x
      cases o <;> first | exact hf.1.elim | exact hleft (hf.2 x trivial)
  · exact .inr (hleft hf)
  · exact .inl hflag

/-- **No exit request is lost.** When the stores to the flag are ordered, then once
`hello_exit` has signalled the wait thread does not have to wait, and it finds the 2 or has
found it. -/
theorem not_blocked_of_ordered (hw : (system m).Reach Ordered w) (hsig : Signalled w) :
    ¬ Blocked m w ∧ (w.shared.flag = 2 ∨
      ∀ th ∈ w.threads, th.role = .waiter → th.prog.Ends (· = .stop)) := by
  obtain ⟨g, hg⟩ := holds_of_reach hw
  obtain ⟨htold, hsleep, hwait⟩ := told_of_signalled hg hsig
  refine ⟨?_, ?_⟩
  · rintro ⟨⟨r, p⟩, hth, rfl, o, hnext, hready⟩
    obtain ⟨hf, -⟩ := follows_of_waiter hg hth
    cases p with
    | ret a => cases hnext
    | act o' k =>
      obtain rfl : o' = o := Option.some.inj hnext
      have hallow : g.allow m o' := hf.1
      cases o' <;> simp only [machine, Bool.not_eq_false', bne_eq_false_iff_eq, reduceCtorEq]
        at hready
      · -- asleep on the wait queue
        cases g <;> first | exact hallow.elim | skip
        exact absurd hready (by rw [hsleep hallow rfl]; decide)
      · -- at `wait_for_completion`
        cases g <;> first | exact hallow.elim | skip
        exact hwait hallow rfl hready
  · by_cases hflag : w.shared.flag = 2
    · exact .inl hflag
    · right
      rintro ⟨r, p⟩ hth rfl
      obtain ⟨hf, -⟩ := follows_of_waiter hg hth
      exact (ends_of_told hf htold).resolve_left hflag

end Sound

/-! ## Three runs -/

section Runs

instance (m : WaitModule) (w : World) : Decidable (Blocked m w) :=
  inferInstanceAs (Decidable (∃ th ∈ w.threads, _ ∧ ∃ _, _ ∧ _))

instance (o : Op) : Decidable (∃ r, o = .release r) :=
  match o with
  | .release r => isTrue ⟨r, rfl⟩
  | .loadFlag | .storeFlag _ | .countRead | .prepareToWait | .schedule | .finishWait | .wakeUp
  | .waitForCompletion | .completionDone | .complete | .copyMessage _ =>
      isFalse (by rintro ⟨r, h⟩; cases h)

instance (th : WaitThread) : Decidable (PastSignal th) :=
  inferInstanceAs (Decidable (∀ o ∈ th.nextOp, _))

instance (w : World) : Decidable (Signalled w) :=
  inferInstanceAs (Decidable (∃ th ∈ w.threads, _))

instance (th : WaitThread) : Decidable (HasReturned th) := inferInstanceAs (Decidable (_ = _))

instance (th : WaitThread) : Decidable (AboutToClear th) := inferInstanceAs (Decidable (_ ∨ _))

instance (w : World) : (l : Move (Option ℕ) Event) → Decidable (Ordered w l)
  | .run _ _ => inferInstanceAs (Decidable (_ ∧ _))
  | .event _ => inferInstanceAs (Decidable True)

/-- The module after it has been loaded. -/
def loaded (m : WaitModule) : World :=
  ⟨⟨0, 0, false, 0, List.replicate BUFF_SIZE 0, false⟩, [⟨.waiter, m.waitFunction⟩]⟩

lemma reach_loaded (m : WaitModule) (C : World → Move (Option ℕ) Event → Prop) :
    (system m).Reach C (loaded m) :=
  .init ⟨rfl, rfl⟩

/-- `n` operations of thread `i`. -/
def turns (i n : ℕ) : List (Move (Option ℕ) Event) := List.replicate n (.run i none)

/-- A message is written, and then read while the wait thread sleeps. -/
def sleepThenRead : List (Move (Option ℕ) Event) :=
  [.event (.write [97] none), .event (.read 0)] ++ turns 0 3 ++ turns 1 3

theorem not_blocked_of_ordered_wokenUp :
    ∃ w, (system .waitQueueModule).Reachable w ∧ Signalled w ∧ ¬ Blocked .waitQueueModule w := by
  have hw := System.reach_get (sleepThenRead ++ turns 0 8 ++ [.event .rmmod] ++ turns 2 2)
    (reach_loaded .waitQueueModule Ordered) (by decide +kernel) (by decide +kernel)
  exact ⟨_, hw.mono fun _ _ _ => trivial, by decide +kernel,
    (not_blocked_of_ordered hw (by decide +kernel)).1⟩

/-- **The request is lost.** A message has been read, and the wait thread has seen the 1 but
not cleared it when `hello_exit` stores 2 and signals; the thread clears the 2 and waits
again, and nothing is left that could wake it up. -/
theorem request_lost :
    (∃ w, (system .waitQueueModule).Reachable w ∧ Signalled w ∧ Blocked .waitQueueModule w ∧
      w.shared.flag = 0 ∧ ∀ th ∈ w.threads, th.role ≠ .waiter → th.returned = true) ∧
    ∃ w, (system .completionModule).Reachable w ∧ Signalled w ∧ Blocked .completionModule w ∧
      w.shared.done = 0 ∧ ∀ th ∈ w.threads, th.role ≠ .waiter → th.returned = true := by
  constructor
  · exact System.exists_reachable
      (sleepThenRead ++ turns 0 6 ++ [.event .rmmod] ++ turns 2 6 ++ turns 0 6)
      (reach_loaded _ _) (by decide +kernel)
  · exact System.exists_reachable
      ([.event (.write [97] none), .event (.read 0)] ++ turns 1 4 ++ turns 0 2 ++
        [.event .rmmod] ++ turns 2 7 ++ turns 0 6)
      (reach_loaded _ _) (by decide +kernel)

end Runs

end KernelDriverLab.ExitRequest
