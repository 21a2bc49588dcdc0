import KernelDriverLab.Lib.Progress

/-!
# The spinlock that a timer takes too

In `spinlock_with_interrupts.c` a kernel thread and the callback of a timer store into
`global_variable` and print it under one spinlock.  The callback runs in an interrupt, on any
CPU; while it runs nothing else does on that CPU, so a thread interrupted while it holds the
lock would never give it back.  `thread_function` therefore disables the interrupts of its CPU
before it takes the lock.

The thread may be on any CPU, is moved to another one only while it is neither interrupted nor
has disabled the interrupts, and wakes up from `msleep` on any CPU.  The timer does not expire
while its callback runs; `hello_init` sets it after it has started the thread, and one that is
not set yet is one that does not expire yet.  The prints are kept in a ghost field.
-/

namespace KernelDriverLab.IrqLock

open Lib Prog

/-- The thread and the callback of the timer. -/
inductive Role where
  | kthread
  | callback
deriving DecidableEq, Repr

/-- The operations on the lock, on the variable and on the timer. -/
inductive Op where
  | kthreadShouldStop
  /-- `spin_is_locked` -/
  | isLocked
  /-- The first half of `spin_lock_irqsave`. -/
  | localIrqSave
  | spinLock
  | spinUnlock
  /-- The second half of `spin_unlock_irqrestore`. -/
  | localIrqRestore
  /-- Load `global_variable`. -/
  | load
  /-- Store into `global_variable`. -/
  | store (v : Int)
  /-- `pr_info` with the value of `global_variable`. -/
  | print (v : Int)
  | msleep (ms : ℕ)
  /-- `mod_timer` from now. -/
  | modTimer (ms : ℕ)
  /-- The interrupt is over. -/
  | leave
deriving DecidableEq, Repr

/-- What an operation answers. -/
@[reducible] def Op.Ans : Op → Type
  | kthreadShouldStop | isLocked => Bool
  | load => Int
  | _ => Unit

/-- A function of the module.  A round of a loop returns whether there is another one. -/
abbrev Driver : Type := Prog Op Op.Ans Bool

/-- The lock, the variable, the timer, and where the two run. -/
structure State where
  /-- Who holds `spinlock_test`. -/
  holder : Option Role
  globalVariable : Int
  /-- The timer is pending. -/
  timer : Bool
  /-- The CPU of the thread. -/
  cpu : ℕ
  /-- The interrupts of that CPU are disabled. -/
  irqsOff : Bool
  /-- The CPU on which the callback runs. -/
  callback : Option ℕ
  /-- What has been printed, in order. -/
  prints : List (Role × Int)
deriving DecidableEq, Repr

/-- What the kernel chooses. -/
structure Env where
  /-- What `kthread_should_stop` returns. -/
  stop : Bool := false
  /-- The CPU on which a sleeper wakes up. -/
  cpu : ℕ := 0
deriving Inhabited

/-- What each operation does. -/
def sem (e : Env) (r : Role) : Prog.Sem Op Op.Ans State
  | .kthreadShouldStop, s => .done e.stop s
  | .isLocked, s => .done s.holder.isSome s
  | .localIrqSave, s => .done () { s with irqsOff := true }
  | .spinLock, s => .done () { s with holder := some r }
  | .spinUnlock, s => .done () { s with holder := none }
  | .localIrqRestore, s => .done () { s with irqsOff := false }
  | .load, s => .done s.globalVariable s
  | .store v, s => .done () { s with globalVariable := v }
  | .print v, s => .done () { s with prints := s.prints ++ [(r, v)] }
  | .msleep _, s => .done () { s with cpu := e.cpu }
  | .modTimer _, s => .done () { s with timer := true }
  | .leave, s => .done () { s with callback := none }

/-! ## The functions -/

/-- `thread_function` -/
def threadFunction : Driver := do
  let stop ← op Op.kthreadShouldStop
  if stop then pure false
  else
    let _ ← op Op.isLocked
    op Op.localIrqSave
    op Op.spinLock
    op (Op.store 50)
    let v ← op Op.load
    op (Op.print v)
    let _ ← op Op.isLocked
    op Op.spinUnlock
    op Op.localIrqRestore
    op (Op.msleep 2000)
    pure true

/-- `timer_callback`, and the end of the interrupt. -/
def timerCallback : Driver := do
  op Op.spinLock
  op (Op.store 100)
  let v ← op Op.load
  op (Op.print v)
  op Op.spinUnlock
  op (Op.modTimer 5000)
  op Op.leave
  pure false

/-! ## The machine -/

/-- The state, the thread and the callbacks. -/
abbrev World : Type := Pool Op Op.Ans Role Bool State

/-- What happens to the CPUs. -/
inductive Event where
  /-- The timer expires and interrupts a CPU. -/
  | expire (cpu : ℕ)
  /-- The thread is moved to another CPU. -/
  | migrate (cpu : ℕ)

/-- The thread has the CPU. -/
def State.runs (s : State) : Role → Bool
  | .kthread => decide (s.callback ≠ some s.cpu)
  | .callback => true

/-- The thread and the callbacks that interrupt it. -/
def machine : Machine Op Op.Ans Role Bool State Env Event where
  sem := sem
  ready s r o := s.runs r && match o with
    | .spinLock => s.holder.isNone
    | _ => true
  again
    | .kthread, true => some threadFunction
    | _, _ => none
  event
    | .expire c, s =>
        if s.timer = true ∧ s.callback = none ∧ ¬ (s.irqsOff = true ∧ s.cpu = c) then
          some ({ s with timer := false, callback := some c }, [⟨.callback, timerCallback⟩])
        else none
    | .migrate c, s =>
        if s.irqsOff = false ∧ s.callback ≠ some s.cpu then some ({ s with cpu := c }, [])
        else none

/-- The module after `hello_init`. -/
structure Loaded (w : World) : Prop where
  shared : ∃ cpu, w.shared = ⟨none, 0, true, cpu, false, none, []⟩
  threads : w.threads = [⟨.kthread, threadFunction⟩]

/-- The runs of the module. -/
def system : System World (Move Env Event) := machine.system Loaded

/-- The module after `hello_init`, with the thread on the first CPU. -/
def loaded : World := ⟨⟨none, 0, true, 0, false, none, []⟩, [⟨.kthread, threadFunction⟩]⟩

/-! ## Where the threads are -/

/-- How far the thread or a callback is. -/
inductive Stage where
  | outside
  -- the interrupts are disabled but the lock is not held
  | masked
  -- in the section: before the store, before the load, before the print, after it
  | entered | stored | loaded (v : Int) | shown
  -- the callback: before its section, after it, at the end
  | arrived | leaving | gone
deriving DecidableEq, Repr

/-- The thread holds the lock. -/
@[simp] def Stage.inside : Stage → Prop
  | entered | stored | loaded _ | shown => True
  | outside | masked | arrived | leaving | gone => False

/-- What a thread stores. -/
@[simp] def Role.value : Role → Int
  | kthread => 50
  | callback => 100

/-- The stages of an operation. -/
@[simp] def Stage.allow (r : Role) (st : Stage) (o : Op) : Prop :=
  match o with
  | .kthreadShouldStop | .msleep _ | .localIrqSave => r = .kthread ∧ st = .outside
  | .isLocked => r = .kthread ∧ (st = .outside ∨ st = .shown)
  | .localIrqRestore => r = .kthread ∧ st = .masked
  | .spinLock => r = .kthread ∧ st = .masked ∨ r = .callback ∧ st = .arrived
  | .store v => v = r.value ∧ st = .entered
  | .load => st = .stored
  | .print v => st = .loaded v
  | .spinUnlock => st = .shown
  | .modTimer _ | .leave => r = .callback ∧ st = .leaving

/-- The stage after an operation. -/
@[simp] def Stage.after (r : Role) (st : Stage) (o : Op) (x : o.Ans) : Stage :=
  match o with
  | .localIrqSave => .masked
  | .spinLock => .entered
  | .store _ => .stored
  | .load => .loaded x
  | .print _ => .shown
  | .spinUnlock => if r = .kthread then .masked else .leaving
  | .localIrqRestore => .outside
  | .leave => .gone
  | _ => st

/-- The stages of a round. -/
@[simps]
def proto (r : Role) : Protocol Op Op.Ans Stage where
  allow := Stage.allow r
  expect _ _ _ := True
  after := Stage.after r

/-- The stages in which a round ends. -/
@[simp] def Ends (r : Role) (st : Stage) (again : Bool) : Prop :=
  match r with
  | .kthread => st = .outside
  | .callback => st = .gone ∧ again = false

lemma follows_threadFunction : threadFunction.Follows (proto .kthread) .outside (Ends .kthread) := by
  simp [threadFunction, op]

lemma follows_timerCallback : timerCallback.Follows (proto .callback) .arrived (Ends .callback) := by
  simp [timerCallback, op]

/-! ## What holds where -/

/-- The variable is what the thread has stored. -/
@[simp] def Stored (s : State) (r : Role) : Stage → Prop
  | .stored => s.globalVariable = r.value
  | .loaded v => v = r.value
  | _ => True

/-- What a thread knows of the lock and the variable. -/
structure Locked (r : Role) (s : State) (st : Stage) : Prop where
  holder : s.holder = some r ↔ st.inside
  stored : Stored s r st

/-- What a thread at a stage knows.  The ghost variable is the position of the callback that
runs; the others are gone. -/
@[simp] def RoleAt (g : Option ℕ) (j : ℕ) (st : Stage) (s : State) : Role → Prop
  | .kthread => j = 0 ∧ (s.irqsOff = true ↔ st ≠ .outside) ∧ Locked .kthread s st
  | .callback => (g = some j ↔ st ≠ .gone) ∧ (st ≠ .gone → Locked .callback s st)

/-- What always holds. -/
structure Guarded (g : Option ℕ) (s : State) : Prop where
  running : g = none ↔ s.callback = none
  holder : g = none → s.holder ≠ some .callback
  /-- The CPU of the thread is not interrupted while it has disabled the interrupts. -/
  masked : s.irqsOff = true → s.callback ≠ some s.cpu
  prints : ∀ p ∈ s.prints, p.2 = p.1.value

/-- What holds of the lock and of the variable at a stage. -/
@[simps]
def outline : Outline Op Op.Ans Role Bool State Stage (Option ℕ) where
  proto := proto
  ends := Ends
  here g j r st s := RoleAt g j st s r
  always := Guarded

section Step

variable {g g' : Option ℕ} {w w' : World} {i : ℕ} {r : Role} {st : Stage} {o : Op} {x : o.Ans}
  {s s' : State} {e : Env} {l : Move Env Event}

/-- What the other one does is not seen, except by who holds the lock. -/
lemma Locked.congr (h : Locked r s st) (hholder : s'.holder = some r ↔ s.holder = some r)
    (hglobal : s'.globalVariable = s.globalVariable ∨ s.holder ≠ some r) : Locked r s' st := by
  refine ⟨hholder.trans h.holder, ?_⟩
  have hstored := h.stored
  cases st with
  | stored =>
    have hsame := hglobal.resolve_right fun hne => hne (h.holder.2 trivial)
    rw [Stored, hsame]
    exact hstored
  | loaded v => exact hstored
  | _ => trivial

/-- What an operation of the thread has to give. -/
lemma lands_kthread (halways : Guarded g s) (hown : RoleAt g i st s .kthread)
    (hholder : s.holder = some .callback ↔ w.shared.holder = some .callback)
    (hglobal : s.globalVariable = w.shared.globalVariable ∨ w.shared.holder ≠ some .callback) :
    outline.Lands g g w i .kthread st s where
  always := halways
  own := hown
  others j th st' hj _ hat := by
    have hhere := hat.here
    rw [outline_here] at hhere ⊢
    cases hr : th.role with
    | kthread =>
      rw [hr] at hhere
      exact absurd (hhere.1.trans hown.1.symm) hj
    | callback =>
      rw [hr] at hhere
      exact ⟨hhere.1, fun hgone => (hhere.2 hgone).congr hholder hglobal⟩

/-- What an operation of the callback that runs has to give. -/
lemma lands_callback (hg : g = some i) (hg' : g' = some i ∨ g' = none) (halways : Guarded g' s)
    (hown : RoleAt g' i st s .callback) (hirqs : s.irqsOff = w.shared.irqsOff)
    (hholder : s.holder = some .kthread ↔ w.shared.holder = some .kthread)
    (hglobal : s.globalVariable = w.shared.globalVariable ∨ w.shared.holder ≠ some .kthread) :
    outline.Lands g g' w i .callback st s where
  always := halways
  own := hown
  others j th st' hj _ hat := by
    have hhere := hat.here
    rw [outline_here] at hhere ⊢
    cases hr : th.role with
    | kthread =>
      rw [hr] at hhere
      obtain ⟨hzero, hoff, hlocked⟩ := hhere
      refine ⟨hzero, ?_, hlocked.congr hholder hglobal⟩
      rw [hirqs]
      exact hoff
    | callback =>
      -- only one callback runs
      rw [hr] at hhere
      have hgone : st' = .gone := by
        by_contra hst
        have hsame := hg.symm.trans (hhere.1.2 hst)
        exact hj (Option.some.inj hsame).symm
      subst hgone
      refine ⟨⟨fun h => ?_, fun h => absurd rfl h⟩, fun h => absurd rfl h⟩
      rcases hg' with h' | h'
      · rw [h'] at h
        exact absurd (Option.some.inj h).symm hj
      · rw [h'] at h
        cases h

/-- The stages of the thread and the lock, before an operation. -/
lemma kthread_of_at (hst : outline.here g i .kthread st w.shared) :
    i = 0 ∧ (w.shared.irqsOff = true ↔ st ≠ .outside) ∧ Locked .kthread w.shared st := hst

/-- A callback that is not gone is the one that runs. -/
lemma callback_of_at (hst : outline.here g i .callback st w.shared) (hgone : st ≠ .gone) :
    g = some i ∧ Locked .callback w.shared st := ⟨hst.1.2 hgone, hst.2 hgone⟩

/-- An operation of the thread. -/
lemma lands_act_kthread (hw : outline.Holds g w) (hhere : outline.here g i .kthread st w.shared)
    (hallow : st.allow .kthread o) (hready : machine.ready w.shared .kthread o = true)
    (hsem : sem e .kthread o w.shared = .done x s) :
    outline.Lands g g w i .kthread (st.after .kthread o x) s := by
  obtain ⟨hrunning, hholder, hmasked, hprints⟩ := hw.always
  obtain ⟨rfl, hoff, hlocked⟩ := kthread_of_at hhere
  obtain ⟨hruns, hfree⟩ := (Bool.and_eq_true _ _).mp hready
  have hruns : w.shared.callback ≠ some w.shared.cpu := of_decide_eq_true hruns
  have hother (hin : st.inside) : w.shared.holder ≠ some .callback := by
    rw [hlocked.holder.2 hin]
    simp
  cases o with
  | kthreadShouldStop | isLocked =>
    obtain ⟨-, rfl⟩ := Outcome.done.inj hsem
    exact lands_kthread hw.always hhere Iff.rfl (.inl rfl)
  | localIrqSave =>
    obtain ⟨-, rfl⟩ := Outcome.done.inj hsem
    obtain ⟨-, rfl⟩ := hallow
    exact lands_kthread ⟨hrunning, hholder, fun _ => hruns, hprints⟩
      ⟨rfl, by simp, hlocked.holder, trivial⟩ Iff.rfl (.inl rfl)
  | spinLock =>
    obtain ⟨-, rfl⟩ := Outcome.done.inj hsem
    obtain rfl : st = .masked := by simpa using hallow
    have hnone : w.shared.holder = none := Option.isNone_iff_eq_none.1 hfree
    refine lands_kthread ⟨hrunning, fun _ => by simp, hmasked, hprints⟩
      ⟨rfl, by simpa using hoff, by simp, trivial⟩ ?_ (.inl rfl)
    simp [hnone]
  | store v =>
    obtain ⟨-, rfl⟩ := Outcome.done.inj hsem
    obtain ⟨rfl, rfl⟩ := hallow
    exact lands_kthread ⟨hrunning, hholder, hmasked, hprints⟩
      ⟨rfl, by simpa using hoff, by simpa using hlocked.holder, rfl⟩ Iff.rfl
      (.inr (hother trivial))
  | load =>
    obtain ⟨rfl, rfl⟩ := Outcome.done.inj hsem
    obtain rfl : st = .stored := hallow
    exact lands_kthread hw.always
      ⟨rfl, by simpa using hoff, by simpa using hlocked.holder, hlocked.stored⟩ Iff.rfl (.inl rfl)
  | print v =>
    obtain ⟨-, rfl⟩ := Outcome.done.inj hsem
    obtain rfl : st = .loaded v := hallow
    refine lands_kthread ⟨hrunning, hholder, hmasked, fun p hp => ?_⟩
      ⟨rfl, by simpa using hoff, by simpa using hlocked.holder, trivial⟩ Iff.rfl (.inl rfl)
    rcases List.mem_append.1 hp with hp | hp
    · exact hprints p hp
    · obtain rfl := List.mem_singleton.1 hp
      exact hlocked.stored
  | spinUnlock =>
    obtain ⟨-, rfl⟩ := Outcome.done.inj hsem
    obtain rfl : st = .shown := hallow
    have hnot := hother trivial
    exact lands_kthread ⟨hrunning, fun _ => by simp, hmasked, hprints⟩
      ⟨rfl, by simpa using hoff, by simp, trivial⟩ (by simpa using hnot) (.inl rfl)
  | localIrqRestore =>
    obtain ⟨-, rfl⟩ := Outcome.done.inj hsem
    obtain ⟨-, rfl⟩ := hallow
    exact lands_kthread ⟨hrunning, hholder, fun h => (by cases h), hprints⟩
      ⟨rfl, by simp, by simpa using hlocked.holder, trivial⟩ Iff.rfl (.inl rfl)
  | msleep ms =>
    obtain ⟨-, rfl⟩ := Outcome.done.inj hsem
    obtain ⟨-, rfl⟩ := hallow
    have hon : w.shared.irqsOff ≠ true := by simpa using hoff
    exact lands_kthread ⟨hrunning, hholder, fun h => absurd h hon, hprints⟩
      ⟨rfl, hoff, hlocked.holder, trivial⟩ Iff.rfl (.inl rfl)
  | modTimer ms | leave => cases hallow.1

/-- An operation of a callback. -/
lemma lands_act_callback (hw : outline.Holds g w) (hhere : outline.here g i .callback st w.shared)
    (hallow : st.allow .callback o) (hready : machine.ready w.shared .callback o = true)
    (hsem : sem e .callback o w.shared = .done x s) :
    ∃ g', outline.Lands g g' w i .callback (st.after .callback o x) s ∧ (g' = g ∨ g' = none) := by
  obtain ⟨hrunning, -, hmasked, hprints⟩ := hw.always
  have hgone : st ≠ .gone := by
    rintro rfl
    cases o <;> simp at hallow
  obtain ⟨rfl, hlocked⟩ := callback_of_at hhere hgone
  have hother (hin : st.inside) : w.shared.holder ≠ some .kthread := by
    rw [hlocked.holder.2 hin]
    simp
  cases o with
  | kthreadShouldStop | msleep ms | localIrqSave | isLocked | localIrqRestore => cases hallow.1
  | spinLock =>
    obtain ⟨-, rfl⟩ := Outcome.done.inj hsem
    obtain rfl : st = .arrived := by simpa using hallow
    have hnone : w.shared.holder = none := Option.isNone_iff_eq_none.1 hready
    refine ⟨some i, ?_, .inl rfl⟩
    refine lands_callback rfl (.inl rfl) ⟨hrunning, fun h => (by cases h), hmasked, hprints⟩
      ⟨by simp, fun _ => ⟨by simp, trivial⟩⟩ rfl ?_ (.inl rfl)
    simp [hnone]
  | store v =>
    obtain ⟨-, rfl⟩ := Outcome.done.inj hsem
    obtain ⟨rfl, rfl⟩ := hallow
    refine ⟨some i, ?_, .inl rfl⟩
    exact lands_callback rfl (.inl rfl) ⟨hrunning, fun h => (by cases h), hmasked, hprints⟩
      ⟨by simp, fun _ => ⟨by simpa using hlocked.holder, rfl⟩⟩ rfl Iff.rfl (.inr (hother trivial))
  | load =>
    obtain ⟨rfl, rfl⟩ := Outcome.done.inj hsem
    obtain rfl : st = .stored := hallow
    refine ⟨some i, ?_, .inl rfl⟩
    exact lands_callback rfl (.inl rfl) hw.always
      ⟨by simp, fun _ => ⟨by simpa using hlocked.holder, hlocked.stored⟩⟩ rfl Iff.rfl (.inl rfl)
  | print v =>
    obtain ⟨-, rfl⟩ := Outcome.done.inj hsem
    obtain rfl : st = .loaded v := hallow
    refine ⟨some i, ?_, .inl rfl⟩
    refine lands_callback rfl (.inl rfl)
      ⟨hrunning, fun h => (by cases h), hmasked, fun p hp => ?_⟩
      ⟨by simp, fun _ => ⟨by simpa using hlocked.holder, trivial⟩⟩ rfl Iff.rfl (.inl rfl)
    rcases List.mem_append.1 hp with hp | hp
    · exact hprints p hp
    · obtain rfl := List.mem_singleton.1 hp
      exact hlocked.stored
  | spinUnlock =>
    obtain ⟨-, rfl⟩ := Outcome.done.inj hsem
    obtain rfl : st = .shown := hallow
    have hnot := hother trivial
    refine ⟨some i, ?_, .inl rfl⟩
    exact lands_callback rfl (.inl rfl) ⟨hrunning, fun h => (by cases h), hmasked, hprints⟩
      ⟨by simp, fun _ => ⟨by simp, trivial⟩⟩ rfl (by simpa using hnot) (.inl rfl)
  | modTimer ms =>
    obtain ⟨-, rfl⟩ := Outcome.done.inj hsem
    obtain ⟨-, rfl⟩ := hallow
    refine ⟨some i, ?_, .inl rfl⟩
    exact lands_callback rfl (.inl rfl) ⟨hrunning, fun h => (by cases h), hmasked, hprints⟩
      ⟨by simp, fun _ => ⟨hlocked.holder, trivial⟩⟩ rfl Iff.rfl (.inl rfl)
  | leave =>
    obtain ⟨-, rfl⟩ := Outcome.done.inj hsem
    obtain ⟨-, rfl⟩ := hallow
    have hnot : w.shared.holder ≠ some .callback := by simpa using hlocked.holder
    refine ⟨none, ?_, .inr rfl⟩
    exact lands_callback rfl (.inr rfl) ⟨by simp, fun _ => hnot, fun _ => by simp, hprints⟩
      ⟨by simp, fun h => absurd rfl h⟩ rfl Iff.rfl (.inl rfl)

/-- The position of the callback that runs is one of a callback. -/
def Placed (g : Option ℕ) (w : World) : Prop :=
  ∀ j, g = some j → w.threads[j]?.map Thread.role = some .callback

lemma kept_expire {c : ℕ} {ths : List (Thread Op Op.Ans Role Bool)} (hw : outline.Holds g w)
    (hevent : machine.event (.expire c) w.shared = some (s, ths)) :
    outline.Holds (some w.threads.length) ⟨s, w.threads ++ ths⟩ ∧
      Placed (some w.threads.length) ⟨s, w.threads ++ ths⟩ := by
  obtain ⟨⟨-, hnone, hmask⟩, heq⟩ := Option.ite_none_right_eq_some.1 hevent
  obtain ⟨rfl, rfl⟩ := Prod.mk.inj (Option.some.inj heq)
  obtain ⟨hrunning, hholder, -, hprints⟩ := hw.always
  obtain rfl := hrunning.2 hnone
  have hnot := hholder rfl
  have halways : Guarded (some w.threads.length)
      { w.shared with timer := false, callback := some c } :=
    ⟨by simp, fun h => (by cases h), fun hoff hsame => hmask ⟨hoff, (Option.some.inj hsame).symm⟩,
      hprints⟩
  have hnew : outline.At (some w.threads.length)
      { w.shared with timer := false, callback := some c } w.threads.length
      ⟨.callback, timerCallback⟩ .arrived :=
    ⟨follows_timerCallback, by simp, fun _ => ⟨by simpa using hnot, trivial⟩⟩
  constructor
  · refine (Outline.admits_single .arrived halways ?_ hnew).holds hw
    · intro j th st hj hat
      have hlt := (List.getElem?_eq_some_iff.1 hj).1
      have hhere := hat.here
      rw [outline_here] at hhere ⊢
      cases hr : th.role with
      | kthread =>
        rw [hr] at hhere
        exact ⟨hhere.1, hhere.2.1, hhere.2.2.congr Iff.rfl (.inl rfl)⟩
      | callback =>
        rw [hr] at hhere
        have hgone : st = .gone := by
          by_contra hst
          cases hhere.1.2 hst
        subst hgone
        refine ⟨⟨fun h => ?_, fun h => absurd rfl h⟩, fun h => absurd rfl h⟩
        exact absurd (Option.some.inj h) (Nat.ne_of_gt hlt)
  · rintro j hj
    obtain rfl := Option.some.inj hj
    simp

lemma kept_migrate {c : ℕ} {ths : List (Thread Op Op.Ans Role Bool)} (hw : outline.Holds g w)
    (hevent : machine.event (.migrate c) w.shared = some (s, ths)) :
    outline.Holds g ⟨s, w.threads ++ ths⟩ := by
  obtain ⟨⟨hon, -⟩, heq⟩ := Option.ite_none_right_eq_some.1 hevent
  obtain ⟨rfl, rfl⟩ := Prod.mk.inj (Option.some.inj heq)
  obtain ⟨hrunning, hholder, -, hprints⟩ := hw.always
  have halways : Guarded g { w.shared with cpu := c } := by
    refine ⟨hrunning, hholder, fun hoff => ?_, hprints⟩
    have hoff : w.shared.irqsOff = true := hoff
    rw [hon] at hoff
    cases hoff
  refine (Outline.admits_nil (O := outline) halways fun j th st _ hat => ?_).holds hw
  have hhere := hat.here
  rw [outline_here] at hhere ⊢
  cases hr : th.role with
  | kthread =>
    rw [hr] at hhere
    exact ⟨hhere.1, hhere.2.1, hhere.2.2.congr Iff.rfl (.inl rfl)⟩
  | callback =>
    rw [hr] at hhere
    exact ⟨hhere.1, fun hgone => (hhere.2 hgone).congr Iff.rfl (.inl rfl)⟩

/-- Every step keeps the outline. -/
lemma kept_step (hw : ∃ g, outline.Holds g w ∧ Placed g w) (h : machine.Moves w l w') :
    ∃ g, outline.Holds g w' ∧ Placed g w' := by
  obtain ⟨g, hholds, hplaced⟩ := hw
  have hkeep : Placed g w' := fun j hj => h.role (hplaced j hj)
  cases h with
  | @act i e r o k x s hi hready hsem =>
    obtain ⟨st, hst⟩ := hholds.threads _ _ hi
    cases r with
    | kthread =>
      have hlands := lands_act_kthread hholds hst.here hst.follows.1 hready hsem
      exact ⟨g, hlands.holds hholds hst trivial, hkeep⟩
    | callback =>
      obtain ⟨g', hlands, hg'⟩ := lands_act_callback hholds hst.here hst.follows.1 hready hsem
      refine ⟨g', hlands.holds hholds hst trivial, fun j hj => ?_⟩
      rcases hg' with rfl | rfl
      · exact hkeep j hj
      · cases hj
  | @again i e r a p hi hagain =>
    refine ⟨g, hholds.put hi fun st hst => ?_, hkeep⟩
    cases r with
    | kthread =>
      obtain rfl : st = .outside := hst.follows
      cases a with
      | true =>
        obtain rfl := Option.some.inj hagain
        exact follows_threadFunction
      | false => cases hagain
    | callback => cases hagain
  | @event n s ths hevent =>
    cases n with
    | expire c => exact ⟨_, kept_expire hholds hevent⟩
    | migrate c => exact ⟨g, kept_migrate hholds hevent, hkeep⟩

end Step

lemma kept_loaded {w : World} (hw : Loaded w) : ∃ g, outline.Holds g w ∧ Placed g w := by
  obtain ⟨⟨cpu, hshared⟩, hthreads⟩ := hw
  refine ⟨none, ⟨?_, fun j th hj => ⟨.outside, ?_⟩⟩, fun j hj => (by cases hj)⟩
  · rw [hshared]
    exact ⟨by simp, fun _ => by simp, fun h => (by cases h), fun p hp => (by cases hp)⟩
  · rw [hthreads] at hj
    obtain ⟨rfl, rfl⟩ : j = 0 ∧ th = ⟨.kthread, threadFunction⟩ := by
      cases j with
      | zero => exact ⟨rfl, (Option.some.inj hj).symm⟩
      | succ j => cases hj
    refine ⟨follows_threadFunction, rfl, ?_⟩
    rw [hshared]
    exact ⟨by simp, by simp, trivial⟩

lemma kept_of_reach {w : World} (hw : system.Reachable w) : ∃ g, outline.Holds g w ∧ Placed g w :=
  Machine.invariant (I := fun w => ∃ g, outline.Holds g w ∧ Placed g w) (fun _ => kept_loaded)
    (fun _ _ _ hI _ h => kept_step hI h) hw

/-! ## The results -/

section Results

variable {g : Option ℕ} {w : World} {i j : ℕ} {th : Thread Op Op.Ans Role Bool}

/-- **Each prints what it has stored.** In every interleaving every print of the thread is 50
and every print of the callback is 100. -/
theorem own_value_printed (hw : system.Reachable w) :
    ∀ p ∈ w.shared.prints, p.2 = match p.1 with
      | .kthread => 50
      | .callback => 100 := by
  obtain ⟨g, hholds, -⟩ := kept_of_reach hw
  intro p hp
  rw [hholds.always.prints p hp]
  cases p.1 <;> rfl

/-- The timer expires on another CPU while the thread prints. -/
theorem own_value_printed_both :
    ∃ w, system.Reachable w ∧ w.shared.prints = [(.kthread, 50), (.callback, 100)] ∧
      ∀ p ∈ w.shared.prints, p.2 = match p.1 with
        | .kthread => 50
        | .callback => 100 := by
  obtain ⟨w, hw, hprints⟩ := System.exists_reachable (S := system)
    (P := fun w => w.shared.prints = [(.kthread, 50), (.callback, 100)])
    (List.replicate 4 (.run 0 {}) ++ [.event (.expire 1)] ++ List.replicate 5 (.run 0 {}) ++
      List.replicate 4 (.run 1 {}))
    (s := loaded) (.init ⟨⟨0, rfl⟩, rfl⟩) (by decide +kernel)
  exact ⟨w, hw, hprints, own_value_printed hw⟩

/-- The callback that runs can go on unless the thread has the lock. -/
lemma canRun_callback (hholds : outline.Holds g w) (hplaced : Placed g w) (hg : g ≠ none)
    (hfree : w.shared.holder ≠ some .kthread) :
    ∃ j, w.threads[j]?.map Thread.role = some .callback ∧ machine.CanRun w j := by
  obtain ⟨j, rfl⟩ := Option.ne_none_iff_exists'.1 hg
  have hrole := hplaced j rfl
  refine ⟨j, hrole, ?_⟩
  obtain ⟨⟨r, p⟩, hth, rfl⟩ := Option.map_eq_some_iff.1 hrole
  obtain ⟨st, hat⟩ := hholds.threads j _ hth
  have hgone : st ≠ .gone := hat.here.1.1 rfl
  obtain ⟨-, hlocked⟩ := callback_of_at hat.here hgone
  cases p with
  | ret a => exact absurd hat.follows.1 hgone
  | act o k =>
    have hallow : st.allow .callback o := hat.follows.1
    have hready : machine.ready w.shared .callback o = true := by
      cases o with
      | spinLock =>
        obtain rfl : st = .arrived := by simpa using hallow
        have hnot : w.shared.holder ≠ some .callback := by simpa using hlocked.holder
        cases hholder : w.shared.holder with
        | none => simp [machine, State.runs, hholder]
        | some r =>
          cases r with
          | kthread => exact absurd hholder hfree
          | callback => exact absurd hholder hnot
      | _ => rfl
    cases o <;> exact Machine.canRun_of_ready (e := {}) hth hready rfl

/-- While the thread has the lock it can go on. -/
lemma canRun_kthread (hholds : outline.Holds g w)
    (hrole : w.threads[0]?.map Thread.role = some .kthread)
    (hholder : w.shared.holder = some .kthread) :
    w.shared.callback ≠ some w.shared.cpu ∧ machine.CanRun w 0 := by
  obtain ⟨⟨r, p⟩, hth, rfl⟩ := Option.map_eq_some_iff.1 hrole
  obtain ⟨st, hat⟩ := hholds.threads 0 _ hth
  obtain ⟨-, hoff, hlocked⟩ := kthread_of_at hat.here
  have hin := hlocked.holder.1 hholder
  have hout : st ≠ .outside := by
    rintro rfl
    exact hin
  have hruns := hholds.always.masked (hoff.2 hout)
  refine ⟨hruns, ?_⟩
  cases p with
  | ret a => exact absurd hat.follows hout
  | act o k =>
    have hallow : st.allow .kthread o := hat.follows.1
    have hready : machine.ready w.shared .kthread o = true := by
      cases o with
      | spinLock =>
        obtain rfl : st = .masked := by simpa using hallow
        exact absurd hin id
      | _ => simpa [machine, State.runs] using hruns
    cases o <;> exact Machine.canRun_of_ready (e := {}) hth hready rfl

/-- **The interrupt does not deadlock.** In every interleaving the CPU of the thread is not
interrupted while the thread has the lock; and the thread and each call of the callback can go
on, or are over, or wait for the other one, which can. -/
theorem irq_never_deadlocked (hw : system.Reachable w) (hi : w.threads[i]? = some th) :
    (w.shared.holder = some .kthread → w.shared.callback ≠ some w.shared.cpu) ∧
      (machine.CanRun w i ∨ machine.Over w i ∨ (∃ o, machine.Waits w i th.role o) ∧
        ∃ j r, r ≠ th.role ∧ w.threads[j]?.map Thread.role = some r ∧ machine.CanRun w j) := by
  obtain ⟨g, hholds, hplaced⟩ := kept_of_reach hw
  have hzero : w.threads[0]?.map Thread.role = some .kthread := by
    refine Machine.role_of_reach (M := machine) (fun v hv => ?_) hw
    rw [hv.threads]
    rfl
  refine ⟨fun hholder => (canRun_kthread hholds hzero hholder).1, ?_⟩
  have hsem : ∀ o, ∃ e x s, machine.sem e th.role o w.shared = .done x s := by
    intro o
    cases o <;> exact ⟨{}, _, _, rfl⟩
  obtain hrun | hover | ⟨o, habout, hready⟩ := Machine.canRun_or_waits hi hsem
  · exact .inl hrun
  · exact .inr (.inl hover)
  · refine .inr (.inr ⟨⟨o, habout, hready⟩, ?_⟩)
    obtain ⟨st, hat⟩ := hholds.threads i th hi
    have hallow := hat.allow (Pool.nextOp_of_aboutTo hi habout)
    obtain ⟨r, p⟩ := th
    cases r with
    | kthread =>
      obtain ⟨-, hoff, hlocked⟩ := kthread_of_at hat.here
      suffices h : g ≠ none ∧ w.shared.holder ≠ some .kthread by
        obtain ⟨j, hj, hrun⟩ := canRun_callback hholds hplaced h.1 h.2
        exact ⟨j, .callback, by simp, hj, hrun⟩
      by_cases hcpu : w.shared.callback = some w.shared.cpu
      · -- it is interrupted
        have hg : g ≠ none := by
          rintro rfl
          rw [hholds.always.running.1 rfl] at hcpu
          cases hcpu
        exact ⟨hg, fun hholder => (canRun_kthread hholds hzero hholder).1 hcpu⟩
      · -- it waits for the lock
        have hruns : w.shared.runs .kthread = true := by simpa [State.runs] using hcpu
        cases o with
        | spinLock =>
          obtain rfl : st = .masked := by simpa using hallow
          have hnot : w.shared.holder ≠ some .kthread := by simpa using hlocked.holder
          have hsome : w.shared.holder ≠ none := by
            intro hnone
            simp [machine, hruns, hnone] at hready
          refine ⟨?_, hnot⟩
          rintro rfl
          have hcallback := hholds.always.holder rfl
          cases hholder : w.shared.holder with
          | none => exact hsome hholder
          | some r =>
            cases r with
            | kthread => exact hnot hholder
            | callback => exact hcallback hholder
        | _ => simp [machine, hruns] at hready
    | callback =>
      cases o with
      | spinLock =>
        obtain rfl : st = .arrived := by simpa using hallow
        obtain ⟨-, hlocked⟩ := callback_of_at hat.here (by simp)
        have hnot : w.shared.holder ≠ some .callback := by simpa using hlocked.holder
        cases hholder : w.shared.holder with
        | none => simp [machine, State.runs, hholder] at hready
        | some r =>
          cases r with
          | kthread =>
            exact ⟨0, .kthread, by simp, hzero, (canRun_kthread hholds hzero hholder).2⟩
          | callback => exact absurd hholder hnot
      | _ => cases hready

/-- The callback waits on another CPU for the thread. -/
theorem irq_never_deadlocked_waiting :
    ∃ w i th, system.Reachable w ∧ w.threads[i]? = some th ∧
      w.shared.holder = some .kthread ∧ w.shared.callback = some 1 ∧
      ¬ (w.shared.callback = some w.shared.cpu) ∧
      (machine.CanRun w i ∨ machine.Over w i ∨ (∃ o, machine.Waits w i th.role o) ∧
        ∃ j r, r ≠ th.role ∧ w.threads[j]?.map Thread.role = some r ∧ machine.CanRun w j) := by
  obtain ⟨w, hw, hrole, hholder, hcallback⟩ := System.exists_reachable (S := system)
    (P := fun w => w.threads[1]?.map Thread.role = some .callback ∧
      w.shared.holder = some .kthread ∧ w.shared.callback = some 1)
    (List.replicate 4 (.run 0 {}) ++ [.event (.expire 1)]) (s := loaded) (.init ⟨⟨0, rfl⟩, rfl⟩)
    (by decide +kernel)
  obtain ⟨th, hth, -⟩ := Option.map_eq_some_iff.1 hrole
  obtain ⟨hcpu, hrun⟩ := irq_never_deadlocked hw hth
  exact ⟨w, 1, th, hw, hth, hholder, hcallback, hcpu hholder, hrun⟩

end Results

end KernelDriverLab.IrqLock
