import KernelDriverLab.Lib.Machine
import Mathlib.Algebra.Group.Nat.Defs

/-!
# The locked counters

In `mutex_module.c` and `spinlock_module.c` two kernel threads increment one counter of 32
bits for ever, each time between a lock and an unlock, and print it there.  The increment is
a load and a store, and the print loads the counter again.  A thread can stop at any test of
its loop.  The lock is the kernel's: `lock` waits until the lock is free.

Three ghost fields of the state follow the critical sections: the threads that are `inside`
one, how many have been `completed`, and the values `printed` under the lock.
-/

namespace KernelDriverLab.LockedCounter

open Lib Prog

/-- The operations on the lock and on the counter. -/
inductive Op where
  | kthreadShouldStop
  /-- `spin_is_locked` -/
  | isLocked
  /-- `mutex_lock`, `spin_lock` -/
  | lock
  | unlock
  /-- Load the counter. -/
  | load
  /-- Store into the counter. -/
  | store (v : BitVec 32)
  /-- `pr_info` with the value of the counter. -/
  | print (v : BitVec 32)
  | msleep (ms : ℕ)
deriving DecidableEq, Repr

/-- What an operation answers. -/
@[reducible] def Op.Ans : Op → Type
  | kthreadShouldStop | isLocked => Bool
  | load => BitVec 32
  | _ => Unit

/-- A round of a loop ends with the value of the function, or goes back to the start. -/
abbrev Driver : Type := Prog Op Op.Ans (Option Int)

/-- The two modules. -/
inductive Module where
  | mutexModule
  | spinlockModule
deriving DecidableEq, Repr

/-- The threads, in the order in which `hello_init` starts them. -/
inductive Role where
  | first
  | second
deriving DecidableEq, Repr

/-- The counter and its lock, with what has happened under it. -/
structure State where
  /-- `read_count` or `global_variable`. -/
  counter : BitVec 32
  locked : Bool
  /-- The threads between their lock and their unlock. -/
  inside : List Role
  /-- The number of critical sections that have ended. -/
  completed : ℕ
  /-- What has been printed under the lock, in order. -/
  printed : List (BitVec 32)
deriving DecidableEq, Repr

/-- What the kernel chooses. -/
structure Env where
  /-- What `kthread_should_stop` returns. -/
  stop : Bool := false

/-- What each operation does. -/
def sem (e : Env) (r : Role) : Prog.Sem Op Op.Ans State
  | .kthreadShouldStop, s => .done e.stop s
  | .isLocked, s => .done s.locked s
  | .lock, s => .done () { s with locked := true, inside := r :: s.inside }
  | .unlock, s =>
      .done () { s with
        locked := false
        inside := s.inside.erase r
        completed := s.completed + 1 }
  | .load, s => .done s.counter s
  | .store v, s => .done () { s with counter := v }
  | .print v, s => .done () { s with printed := s.printed ++ [v] }
  | .msleep _, s => .done () s

/-! ## The thread functions -/

/-- The increment and the print of it. -/
def incrementAndPrint : Prog Op Op.Ans Unit := do
  let v ← op Op.load
  op (Op.store (v + 1))
  let v ← op Op.load
  op (Op.print v)

/-- A round of the loop in the three functions that do not look at the lock. -/
def countingThread : Driver := do
  let stop ← op Op.kthreadShouldStop
  if stop then pure (some 0)
  else
    op Op.lock
    incrementAndPrint
    op Op.unlock
    op (Op.msleep 2000)
    pure none

namespace MutexModule

/-- `kthread_function` -/
def kthreadFunction : Driver := countingThread

/-- `kthread_function1` -/
def kthreadFunction1 : Driver := countingThread

end MutexModule

namespace SpinlockModule

/-- `thread_function`, which looks at the lock twice and only logs what it sees. -/
def threadFunction : Driver := do
  let stop ← op Op.kthreadShouldStop
  if stop then pure (some 0)
  else
    let _ ← op Op.isLocked
    op Op.lock
    incrementAndPrint
    let _ ← op Op.isLocked
    op Op.unlock
    pure none

/-- `thread_function1` -/
def threadFunction1 : Driver := countingThread

end SpinlockModule

/-- The function that a thread of the module runs. -/
def Module.body : Module → Role → Driver
  | mutexModule, .first => MutexModule.kthreadFunction1
  | mutexModule, .second => MutexModule.kthreadFunction
  | spinlockModule, .first => SpinlockModule.threadFunction
  | spinlockModule, .second => SpinlockModule.threadFunction1

/-! ## The machine -/

/-- The counter and the two threads. -/
abbrev World : Type := Pool Op Op.Ans Role (Option Int) State

/-- The two threads go on until they are asked to stop. -/
def machine (m : Module) : Machine Op Op.Ans Role (Option Int) State Env Empty where
  sem := sem
  ready s _ o := match o with
    | .lock => !s.locked
    | _ => true
  again r a := match a with
    | none => some (m.body r)
    | some _ => none
  event n _ := n.elim

/-- The module after it has been loaded. -/
def loaded (m : Module) : World where
  shared := ⟨0, false, [], 0, []⟩
  threads := [⟨.first, m.body .first⟩, ⟨.second, m.body .second⟩]

/-- The runs of a module. -/
def system (m : Module) : System World (Move Env Empty) := (machine m).system (· = loaded m)

/-- The counter of the module shows `n`: `read_count` modulo 2^32, `global_variable` as long
as `n` is an `int`. -/
def Module.Shows (m : Module) (v : BitVec 32) (n : ℕ) : Prop :=
  match m with
  | mutexModule => v.toNat = n % 2 ^ 32
  | spinlockModule => n < 2 ^ 31 → v.toInt = n

lemma Module.shows_ofNat (m : Module) (n : ℕ) : m.Shows (.ofNat 32 n) n := by
  cases m with
  | mutexModule => exact BitVec.toNat_ofNat n 32
  | spinlockModule =>
    intro hn
    rw [BitVec.toInt_eq_toNat_of_lt] <;> rw [BitVec.toNat_ofNat] <;> omega

/-! ## Where the threads are -/

/-- Where a thread is in its round. -/
inductive Stage where
  | outside
  -- in the critical section: before the load, before the store of the value loaded plus 1,
  -- before the second load, before the print of what it has loaded, and after that
  | entered | loaded (v : BitVec 32) | stored | reloaded (v : BitVec 32) | shown
deriving DecidableEq, Repr

/-- The stages of an operation. -/
@[simp] def Stage.allow (st : Stage) (o : Op) : Prop :=
  match o with
  | .kthreadShouldStop | .msleep _ | .lock => st = .outside
  | .isLocked => st = .outside ∨ st = .shown
  | .load => st = .entered ∨ st = .stored
  | .store v => st = .loaded (v - 1)
  | .print v => st = .reloaded v
  | .unlock => st = .shown

/-- The stage after an operation. -/
@[simp] def Stage.after (st : Stage) (o : Op) (x : o.Ans) : Stage :=
  match o with
  | .lock => .entered
  | .load => if st = .entered then .loaded x else .reloaded x
  | .store _ => .stored
  | .print _ => .shown
  | .unlock => .outside
  | _ => st

/-- The stages of a round. -/
@[simps]
def proto : Protocol Op Op.Ans Stage where
  allow := Stage.allow
  expect _ _ _ := True
  after := Stage.after

/-- A round ends outside of the critical section. -/
@[simp] def Ends (st : Stage) (_ : Option Int) : Prop := st = .outside

lemma follows_body (m : Module) (r : Role) : (m.body r).Follows proto .outside Ends := by
  have hsub (v : BitVec 32) : v + 1#32 - 1#32 = v := BitVec.add_sub_cancel v 1#32
  cases m <;> cases r <;>
    simp [Module.body, MutexModule.kthreadFunction, MutexModule.kthreadFunction1,
      SpinlockModule.threadFunction, SpinlockModule.threadFunction1, countingThread,
      incrementAndPrint, op, hsub]

/-! ## What holds where -/

/-- The counter and the print of the sections that are finished. -/
structure Counted (s : State) (counter printed : ℕ) : Prop where
  counter : s.counter = .ofNat 32 counter
  printed : s.printed = (List.range printed).map fun i => BitVec.ofNat 32 (i + 1)

/-- What holds in the critical section. -/
@[simp] def Within (s : State) : Stage → Prop
  | .outside => False
  | .entered => Counted s s.completed s.completed
  | .loaded v => v = s.counter ∧ Counted s s.completed s.completed
  | .stored => Counted s (s.completed + 1) s.completed
  | .reloaded v => v = s.counter ∧ Counted s (s.completed + 1) s.completed
  | .shown => Counted s (s.completed + 1) (s.completed + 1)

/-- What holds while a thread is at a stage. -/
@[simp] def RoleAt (r : Role) (s : State) (st : Stage) : Prop :=
  if st = .outside then r ∉ s.inside else s.inside = [r] ∧ Within s st

/-- What always holds. -/
structure Guarded (s : State) : Prop where
  locked : s.locked = false → s.inside = []
  alone : s.inside.length ≤ 1
  free : s.inside = [] → Counted s s.completed s.completed
  printed : s.printed = (List.range s.printed.length).map fun i => BitVec.ofNat 32 (i + 1)

/-- The position of a thread in the pool. -/
def Role.position : Role → ℕ
  | first => 0
  | second => 1

/-- What holds of the counter while a thread is at a stage. -/
@[simps]
def outline : Outline Op Op.Ans Role (Option Int) State Stage Unit where
  proto _ := proto
  ends _ := Ends
  here _ j r st s := r.position = j ∧ RoleAt r s st
  always _ := Guarded

section Sound

variable {m : Module} {w : World} {i : ℕ} {e : Env} {r : Role} {st : Stage} {s : State}

/-- The thread that is inside is alone there: the others do not care what it does. -/
lemma others_of_inside (hin : w.shared.inside = [r]) (hpos : r.position = i)
    (hinside : s.inside = w.shared.inside ∨ s.inside = []) (j : ℕ)
    (th : Thread Op Op.Ans Role (Option Int)) (st' : Stage) (hj : j ≠ i)
    (_ : w.threads[j]? = some th) (hat : outline.At () w.shared j th st') :
    outline.here () j th.role st' s := by
  obtain ⟨hpos', hrole⟩ := hat.here
  have hne : th.role ≠ r := by
    rintro rfl
    exact hj (hpos'.symm.trans hpos)
  refine ⟨hpos', ?_⟩
  by_cases hst : st' = .outside
  · rw [RoleAt, if_pos hst]
    rcases hinside with h | h <;> rw [h]
    · simpa [hin] using hne
    · exact List.not_mem_nil
  · rw [RoleAt, if_neg hst, hin] at hrole
    exact absurd (List.singleton_inj.1 hrole.1).symm hne

/-- What an operation in the critical section has to give. -/
lemma lands_inside {st' : Stage} (hin : w.shared.inside = [r]) (hpos : r.position = i)
    (halways : Guarded s) (hinside : s.inside = w.shared.inside) (hst' : st' ≠ .outside)
    (hwithin : Within s st') : outline.Lands () () w i r st' s where
  always := halways
  own := ⟨hpos, by rw [RoleAt, if_neg hst', hinside]; exact ⟨hin, hwithin⟩⟩
  others := others_of_inside hin hpos (.inl hinside)

/-- The stages in the critical section. -/
lemma within_of_at (hat : outline.here () i r st w.shared) (hst : st ≠ .outside) :
    w.shared.inside = [r] ∧ r.position = i ∧ Within w.shared st := by
  obtain ⟨hpos, hrole⟩ := hat
  rw [RoleAt, if_neg hst] at hrole
  exact ⟨hrole.1, hpos, hrole.2⟩

/-- A thread outside takes the lock. -/
lemma lands_lock (hw : outline.Holds () w) (hhere : outline.here () i r .outside w.shared)
    (hfree : w.shared.locked = false) :
    outline.Lands () () w i r .entered
      { w.shared with locked := true, inside := r :: w.shared.inside } := by
  have hnil := hw.always.locked hfree
  obtain ⟨hpos, -⟩ := hhere
  refine ⟨⟨fun h => (by cases h), ?_, fun h => (by cases h), hw.always.printed⟩,
    ⟨hpos, ?_⟩, fun j th st hj hth hat => ?_⟩
  · rw [hnil]
    exact Nat.le_refl 1
  · have hfree := hw.always.free hnil
    rw [RoleAt, if_neg (by decide), hnil]
    exact ⟨rfl, hfree.counter, hfree.printed⟩
  · obtain ⟨hpos', hrole⟩ := hat.here
    refine ⟨hpos', ?_⟩
    by_cases hst : st = .outside
    · have hne : th.role ≠ r := by
        rintro rfl
        exact hj (hpos'.symm.trans hpos)
      rw [RoleAt, if_pos hst, hnil]
      simpa using hne
    · -- nobody can be inside while the lock is free
      rw [RoleAt, if_neg hst, hnil] at hrole
      exact absurd hrole.1 (List.cons_ne_nil _ _).symm

/-- A thread inside gives the lock back. -/
lemma lands_unlock (hhere : outline.here () i r .shown w.shared) :
    outline.Lands () () w i r .outside
      { w.shared with
        locked := false
        inside := w.shared.inside.erase r
        completed := w.shared.completed + 1 } := by
  obtain ⟨hin, hpos, hcounted⟩ := within_of_at hhere (by decide)
  have hcounted : Counted w.shared (w.shared.completed + 1) (w.shared.completed + 1) := hcounted
  have hnil : w.shared.inside.erase r = [] := by rw [hin, List.erase_cons_head]
  have hlen : w.shared.printed.length = w.shared.completed + 1 := by
    rw [hcounted.printed, List.length_map, List.length_range]
  rw [hnil]
  refine ⟨⟨fun _ => rfl, Nat.zero_le 1, fun _ => ⟨hcounted.counter, hcounted.printed⟩, ?_⟩,
    ⟨hpos, ?_⟩, others_of_inside hin hpos (.inr rfl)⟩
  · rw [hlen]
    exact hcounted.printed
  · rw [RoleAt, if_pos rfl]
    exact List.not_mem_nil

/-- A step that changes nothing. -/
lemma lands_same (hw : outline.Holds () w) (hown : outline.here () i r st w.shared) :
    outline.Lands () () w i r st w.shared :=
  ⟨hw.always, hown, fun _ _ _ _ _ hat => hat.here⟩

/-- The counter is incremented. -/
lemma lands_store {v : BitVec 32} (hw : outline.Holds () w)
    (hhere : outline.here () i r (.loaded (v - 1)) w.shared) :
    outline.Lands () () w i r .stored { w.shared with counter := v } := by
  obtain ⟨hin, hpos, hv, hcounted⟩ := within_of_at hhere (by simp)
  have hnew : v = .ofNat 32 (w.shared.completed + 1) := by
    rw [hcounted.counter] at hv
    rw [BitVec.ofNat_add, ← hv]
    exact (BitVec.sub_add_cancel v 1).symm
  have hne : w.shared.inside ≠ [] := by rw [hin]; exact List.cons_ne_nil _ _
  exact lands_inside hin hpos
    ⟨hw.always.locked, hw.always.alone, fun h => absurd h hne, hw.always.printed⟩ rfl (by decide)
    ⟨hnew, hcounted.printed⟩

/-- The value is printed. -/
lemma lands_print {v : BitVec 32} (hw : outline.Holds () w)
    (hhere : outline.here () i r (.reloaded v) w.shared) :
    outline.Lands () () w i r .shown { w.shared with printed := w.shared.printed ++ [v] } := by
  obtain ⟨hin, hpos, hv, hcounted⟩ := within_of_at hhere (by simp)
  have hne : w.shared.inside ≠ [] := by rw [hin]; exact List.cons_ne_nil _ _
  have hlen : w.shared.printed.length = w.shared.completed := by
    rw [hcounted.printed, List.length_map, List.length_range]
  have hprinted : w.shared.printed ++ [v] =
      (List.range (w.shared.completed + 1)).map fun i => BitVec.ofNat 32 (i + 1) := by
    rw [List.range_succ, List.map_append, ← hcounted.printed, hv, hcounted.counter,
      List.map_singleton]
  refine lands_inside hin hpos ⟨hw.always.locked, hw.always.alone, fun h => absurd h hne, ?_⟩ rfl
    (by decide) ⟨hcounted.counter, hprinted⟩
  rw [List.length_append, List.length_singleton, hlen]
  exact hprinted

lemma sound_outline : outline.Sound (machine m) fun _ _ => True where
  act {_ w i e r st o k x s} hw _ _ hst hready hsem := by
    have hallow : st.allow o := hst.follows.1
    have hhere := hst.here
    suffices h : outline.Lands () () w i r (st.after o x) s from
      ⟨trivial, (), h.always, h.own, h.others⟩
    cases o with
    | kthreadShouldStop =>
      obtain ⟨-, rfl⟩ := Outcome.done.inj hsem
      exact lands_same hw hhere
    | isLocked =>
      obtain ⟨-, rfl⟩ := Outcome.done.inj hsem
      exact lands_same hw hhere
    | msleep ms =>
      obtain ⟨-, rfl⟩ := Outcome.done.inj hsem
      exact lands_same hw hhere
    | lock =>
      obtain ⟨-, rfl⟩ := Outcome.done.inj hsem
      obtain rfl : st = .outside := hallow
      exact lands_lock hw hhere (by simpa [machine] using hready)
    | unlock =>
      obtain ⟨-, rfl⟩ := Outcome.done.inj hsem
      obtain rfl : st = .shown := hallow
      exact lands_unlock hhere
    | store v =>
      obtain ⟨-, rfl⟩ := Outcome.done.inj hsem
      obtain rfl : st = .loaded (v - 1) := hallow
      exact lands_store hw hhere
    | print v =>
      obtain ⟨-, rfl⟩ := Outcome.done.inj hsem
      obtain rfl : st = .reloaded v := hallow
      exact lands_print hw hhere
    | load =>
      obtain ⟨rfl, rfl⟩ := Outcome.done.inj hsem
      rcases hallow with rfl | rfl
      · obtain ⟨hin, hpos, hcounted⟩ := within_of_at hhere (by decide)
        exact lands_inside hin hpos hw.always rfl (by simp) ⟨rfl, hcounted⟩
      · obtain ⟨hin, hpos, hcounted⟩ := within_of_at hhere (by decide)
        exact lands_inside hin hpos hw.always rfl (by simp) ⟨rfl, hcounted⟩
  again {_ _ _ r st a p} hst hagain := by
    cases a with
    | none =>
      obtain rfl := Option.some.inj hagain
      obtain rfl : st = .outside := hst.follows
      exact follows_body m r
    | some v => cases hagain
  event {_ _ n} _ _ _ := n.elim

end Sound

/-- The operations that belong into the critical section. -/
def Op.Critical : Op → Prop
  | load | store _ | print _ | unlock => True
  | _ => False

lemma Op.Critical.ne_outside {o : Op} (h : o.Critical) {st : Stage} (hallow : st.allow o) :
    st ≠ .outside := by
  rintro rfl
  cases o with
  | load => exact hallow.elim Stage.noConfusion Stage.noConfusion
  | store v => cases hallow
  | print v => cases hallow
  | unlock => cases hallow
  | _ => exact h

/-- **No increment is lost.** In every interleaving at most one thread is between its lock and
its unlock, and only there are the operations on the counter; when nobody is there the counter
shows the number of completed sections, and the values printed are 1, 2, 3, … -/
theorem no_increment_lost (m : Module) {w : World} (hw : (system m).Reachable w) :
    w.shared.inside.length ≤ 1 ∧
      (∀ th ∈ w.threads, ∀ o, th.nextOp = some o → o.Critical → w.shared.inside = [th.role]) ∧
      (w.shared.inside = [] → m.Shows w.shared.counter w.shared.completed) ∧
      ∀ i v, w.shared.printed[i]? = some v → m.Shows v (i + 1) := by
  have hinit : ∀ v, v = loaded m → ∃ g, outline.Holds g v := by
    rintro _ rfl
    refine ⟨(), ⟨fun _ => rfl, Nat.zero_le 1, fun _ => ⟨rfl, rfl⟩, rfl⟩, fun j th hj => ?_⟩
    have hat (r : Role) (hr : r.position = j) (hth : th = ⟨r, m.body r⟩) :
        outline.At () (loaded m).shared j th .outside := by
      subst hth
      refine ⟨follows_body m r, hr, ?_⟩
      rw [RoleAt, if_pos rfl]
      exact List.not_mem_nil
    match j, hj with
    | 0, hj => exact ⟨_, hat .first rfl (Option.some.inj hj).symm⟩
    | 1, hj => exact ⟨_, hat .second rfl (Option.some.inj hj).symm⟩
  obtain ⟨g, hholds⟩ := sound_outline.holds_of_reach hinit hw
  refine ⟨hholds.always.alone, fun th hth o hnext hcritical => ?_, fun hnil => ?_, fun i v hv => ?_⟩
  · obtain ⟨j, st, -, hst⟩ := hholds.of_mem hth
    have hallow : st.allow o := hst.allow hnext
    exact (within_of_at hst.here (hcritical.ne_outside hallow)).1
  · rw [(hholds.always.free hnil).counter]
    exact m.shows_ofNat _
  · rw [hholds.always.printed, List.getElem?_map] at hv
    obtain ⟨n, hn, rfl⟩ := Option.map_eq_some_iff.1 hv
    obtain ⟨-, rfl⟩ := List.getElem?_eq_some_iff.1 hn
    rw [List.getElem_range]
    exact m.shows_ofNat _

/-- The first thread has been through a section, and the second is before its store. -/
theorem no_increment_lost_two :
    ∃ w : World, w.shared.completed = 1 ∧ w.shared.inside = [.second] ∧
      ∀ i v, w.shared.printed[i]? = some v → Module.mutexModule.Shows v (i + 1) := by
  obtain ⟨w, hw, hcompleted, hinside⟩ := System.exists_reachable (S := system .mutexModule)
    (P := fun w => w.shared.completed = 1 ∧ w.shared.inside = [.second])
    (List.replicate 7 (.run 0 {}) ++ List.replicate 3 (.run 1 {})) (.init rfl) (by decide +kernel)
  exact ⟨w, hcompleted, hinside, (no_increment_lost .mutexModule hw).2.2.2⟩

end KernelDriverLab.LockedCounter
