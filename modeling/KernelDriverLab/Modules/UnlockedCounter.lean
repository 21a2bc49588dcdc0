import KernelDriverLab.Lib.Increments
import KernelDriverLab.Lib.Trace
import KernelDriverLab.Modules.LockedCounter

/-!
# The counter without a lock

`without_mutex_module.c` is `mutex_module.c` without the mutex: the two threads increment
`read_count` by a load and a store, and nothing keeps one of them from storing between the
load and the store of the other.

What the threads do to the counter is read off the log.  In every run `read_count` is the
number of increments exactly when none of them has been disturbed, and under the mutex none
ever is.
-/

namespace KernelDriverLab.UnlockedCounter

open Lib Prog
open LockedCounter (Op Driver Role State Env World Module Stage incrementAndPrint)

/-! ## The thread functions -/

/-- A round of the loop of the two threads. -/
def countingThread : Driver := do
  let stop ← op Op.kthreadShouldStop
  if stop then pure (some 0)
  else
    incrementAndPrint
    op (Op.msleep 1000)
    pure none

/-- `kthread_function` of `without_mutex_module.c`. -/
def kthreadFunction : Driver := countingThread

/-- `kthread_function1` of `without_mutex_module.c`. -/
def kthreadFunction1 : Driver := countingThread

/-- The function that a thread runs. -/
def body : Role → Driver
  | .first => kthreadFunction1
  | .second => kthreadFunction

/-! ## The machine -/

/-- The machine of the locked counters, with these functions. -/
def machineOf (body : Role → Driver) : Machine Op Op.Ans Role (Option Int) State Env Empty where
  sem := LockedCounter.sem
  ready s _ o := match o with
    | .lock => !s.locked
    | _ => true
  again r a := match a with
    | none => some (body r)
    | some _ => none
  event n _ := n.elim

/-- After `hello_init`. -/
def loadedOf (body : Role → Driver) : World where
  shared := ⟨0, false, [], 0, []⟩
  threads := [⟨.first, body .first⟩, ⟨.second, body .second⟩]

/-- What has been done, the latest first. -/
abbrev Log : Type := List (Entry Op Op.Ans Role)

/-- The runs of the two threads, with their logs. -/
def systemOf (body : Role → Driver) : System (World × Log) (Move Env Empty) :=
  (machineOf body).traced (· = loadedOf body)

/-- The runs of `without_mutex_module.c`. -/
def system : System (World × Log) (Move Env Empty) := systemOf body

/-- The runs of one of the modules with a lock. -/
def lockedSystem (m : Module) : System (World × Log) (Move Env Empty) :=
  (LockedCounter.machine m).traced (· = LockedCounter.loaded m)

/-- What an entry of the log does to the counter. -/
def access (e : Entry Op Op.Ans Role) : Option (Access Role 32) :=
  match e with
  | ⟨_, r, .load, v⟩ => some (.load r v)
  | ⟨_, r, .store v, _⟩ => some (.store r v)
  | _ => none

/-- The accesses to the counter, the latest first. -/
def accesses (log : Log) : List (Access Role 32) := log.filterMap access

/-- The number of increments. -/
def increments (log : Log) : ℕ := Access.stores (accesses log)

@[simp] lemma accesses_load {i : ℕ} {r : Role} {v : BitVec 32} (log : Log) :
    accesses (⟨i, r, .load, v⟩ :: log) = .load r v :: accesses log := rfl

@[simp] lemma accesses_store {i : ℕ} {r : Role} {v : BitVec 32} {x : Op.Ans (.store v)}
    (log : Log) : accesses (⟨i, r, .store v, x⟩ :: log) = .store r v :: accesses log := rfl

/-- The operations that are no accesses. -/
@[simp] def Other : Op → Prop
  | .load | .store _ => False
  | _ => True

lemma accesses_other {i : ℕ} {r : Role} {o : Op} {x : o.Ans} (log : Log) (ho : Other o) :
    accesses (⟨i, r, o, x⟩ :: log) = accesses log := by
  cases o with
  | load | store v => exact ho.elim
  | _ => rfl

/-! ## The accesses are increments -/

/-- A thread stores only what it has loaded last plus 1; the stage is what it has loaded. -/
@[simps]
def loading : Protocol Op Op.Ans (Option (BitVec 32)) where
  allow st o := match o with
    | .store v => st = some (v - 1)
    | _ => True
  expect _ _ _ := True
  after st o x := match o with
    | .load => some x
    | _ => st

/-- The functions increment the counter in this way, whatever they have loaded before. -/
def Increment (body : Role → Driver) : Prop :=
  ∀ r st, (body r).Follows loading st fun _ _ => True

lemma increment_body : Increment body := by
  intro r st
  have hsub (v : BitVec 32) : v + 1#32 - 1#32 = v := BitVec.add_sub_cancel v 1#32
  cases r <;>
    simp [body, kthreadFunction, kthreadFunction1, countingThread, incrementAndPrint, op, hsub]

/-- What a thread knows of its loads, and the counter of the history. -/
@[simps]
def outline : Outline Op Op.Ans Role (Option Int) State (Option (BitVec 32)) (Log × Unit) where
  proto _ := loading
  ends _ _ _ := True
  here g j r st _ := r.position = j ∧
    ∀ v, st = some v → Access.loadedBy r (accesses g.1) = some v
  always g s := s.counter = Access.value (accesses g.1) ∧ Access.Coherent (accesses g.1)

section Sound

variable {fs : Role → Driver} {w : World} {log : Log} {i : ℕ} {r : Role}
  {st : Option (BitVec 32)} {o : Op} {x : o.Ans} {s : State}

/-- What a thread has loaded is not changed by the other one. -/
lemma lands_of_own (hpos : r.position = i)
    (halways : outline.always (⟨i, r, o, x⟩ :: log, ()) s)
    (hown : ∀ v, st = some v → Access.loadedBy r (accesses (⟨i, r, o, x⟩ :: log)) = some v) :
    outline.Lands (log, ()) (⟨i, r, o, x⟩ :: log, ()) w i r st s := by
  refine ⟨halways, ⟨hpos, hown⟩, fun j th st' hj _ hat => ?_⟩
  obtain ⟨hpos', hloaded⟩ := hat.here
  have hne : r ≠ th.role := by
    rintro rfl
    exact hj (hpos'.symm.trans hpos)
  refine ⟨hpos', fun v hv => ?_⟩
  rw [← hloaded v hv]
  cases o with
  | load => rw [accesses_load, Access.loadedBy, if_neg hne]
  | store u => rw [accesses_store, Access.loadedBy]
  | _ =>
    rw [accesses_other]
    trivial

/-- A step that is no access. -/
lemma lands_other (hpos : r.position = i) (halways : outline.always (log, ()) s)
    (hown : ∀ v, st = some v → Access.loadedBy r (accesses log) = some v) (ho : Other o) :
    outline.Lands (log, ()) (⟨i, r, o, x⟩ :: log, ()) w i r st s := by
  refine lands_of_own hpos ?_ ?_
  · rw [outline_always, accesses_other log ho]
    exact halways
  · rw [accesses_other log ho]
    exact hown

lemma logged_outline (hfs : Increment fs) : outline.Logged (machineOf fs) fun _ _ => True where
  act {log _ w i e r st o k x s} hw _ _ hst hready hsem := by
    have hallow : loading.allow st o := hst.follows.1
    obtain ⟨hpos, hloaded⟩ := hst.here
    obtain ⟨hvalue, hcoherent⟩ := hw.always
    refine ⟨trivial, (), ?_⟩
    cases o with
    | load =>
      obtain ⟨rfl, rfl⟩ := Outcome.done.inj hsem
      refine lands_of_own hpos ⟨hvalue, hvalue, hcoherent⟩ fun v hv => ?_
      obtain rfl := Option.some.inj hv
      rw [accesses_load, Access.loadedBy, if_pos rfl]
    | store v =>
      obtain ⟨-, rfl⟩ := Outcome.done.inj hsem
      have hstore := hloaded _ hallow
      exact lands_of_own hpos
        ⟨rfl, ⟨v - 1, hstore, (BitVec.sub_add_cancel v 1).symm⟩, hcoherent⟩ hloaded
    | kthreadShouldStop | isLocked | lock | unlock | print v | msleep ms =>
      obtain ⟨-, rfl⟩ := Outcome.done.inj hsem
      exact lands_other hpos hw.always hloaded trivial
  again {_ _ _ r st a p} hst hagain := by
    cases a with
    | none =>
      obtain rfl := Option.some.inj hagain
      exact hfs r st
    | some v => cases hagain
  event {_ _ _ n} _ _ _ := n.elim

end Sound

/-- **The history of the counter**, whatever functions increment it. -/
lemma coherent_of_reach {fs : Role → Driver} (hfs : Increment fs) {v : World × Log}
    (hv : (systemOf fs).Reachable v) :
    v.1.shared.counter = Access.value (accesses v.2) ∧ Access.Coherent (accesses v.2) := by
  have hinit (w : World) (hw : w = loadedOf fs) : ∃ d, outline.Holds ([], d) w := by
    subst hw
    refine ⟨(), ⟨rfl, trivial⟩, fun j th hj => ⟨none, ?_⟩⟩
    have hat (r : Role) (hr : r.position = j) (hth : th = ⟨r, fs r⟩) :
        outline.At ([], ()) (loadedOf fs).shared j th none := by
      subst hth
      exact ⟨hfs r none, hr, fun v hv => by cases hv⟩
    match j, hj with
    | 0, hj => exact hat .first rfl (Option.some.inj hj).symm
    | 1, hj => exact hat .second rfl (Option.some.inj hj).symm
  obtain ⟨⟨⟩, hholds⟩ := (logged_outline hfs).holds_of_reach hinit hv
  exact hholds.always

/-- **What is lost without the mutex.** In every interleaving of fewer than 2^32 increments
`read_count` is at most their number, and it is their number exactly when none of them has
been disturbed: no other store came between its load and its store. -/
theorem counter_eq_iff_undisturbed {v : World × Log} (hv : system.Reachable v)
    (hn : increments v.2 < 2 ^ 32) :
    v.1.shared.counter.toNat ≤ increments v.2 ∧
      (v.1.shared.counter.toNat = increments v.2 ↔ Access.Undisturbed (accesses v.2)) := by
  obtain ⟨hvalue, hcoherent⟩ := coherent_of_reach increment_body hv
  rw [hvalue]
  exact ⟨(Access.bounded hcoherent hn).1, Access.toNat_value_eq_iff hcoherent hn⟩

/-- The second thread stores between the load and the store of the first one. -/
theorem counter_eq_iff_undisturbed_lost :
    ∃ v, system.Reachable v ∧ increments v.2 = 2 ∧ v.1.shared.counter = 1 ∧
      ¬ Access.Undisturbed (accesses v.2) ∧
      (v.1.shared.counter.toNat = increments v.2 ↔ Access.Undisturbed (accesses v.2)) := by
  obtain ⟨v, hv, hincrements, hcounter, hdisturbed⟩ := System.exists_reachable (S := system)
    (P := fun v => increments v.2 = 2 ∧ v.1.shared.counter = 1 ∧
      ¬ Access.Undisturbed (accesses v.2))
    [.run 0 {}, .run 0 {}, .run 1 {}, .run 1 {}, .run 1 {}, .run 0 {}]
    (show system.Reachable (loadedOf body, []) from .init ⟨rfl, rfl⟩) (by decide +kernel)
  have hfew : increments v.2 < 2 ^ 32 := by
    rw [hincrements]
    decide
  exact ⟨v, hv, hincrements, hcounter, hdisturbed, (counter_eq_iff_undisturbed hv hfew).2⟩

/-! ## What the lock does -/

/-- A thread in its section is alone there, and what it has loaded is fresh until it stores. -/
@[simps]
def lockOutline : Outline Op Op.Ans Role (Option Int) State Stage (Log × Unit) where
  proto _ := LockedCounter.proto
  ends _ := LockedCounter.Ends
  here g j r st s := r.position = j ∧ (st ≠ .outside → s.inside = [r]) ∧
    ∀ v, st = .loaded v → Access.Fresh r (accesses g.1)
  always g s := (s.locked = false → s.inside = []) ∧ Access.Undisturbed (accesses g.1)

section Lock

variable {m : Module} {w : World} {log : Log} {i : ℕ} {r : Role} {st : Stage} {o : Op} {x : o.Ans}
  {s : State}

/-- What a step has to give that changes neither the accesses nor who is inside. -/
lemma lockLands_other (hw : lockOutline.Holds (log, ()) w) (hpos : r.position = i)
    (hlocked : s.locked = w.shared.locked) (hinside : s.inside = w.shared.inside) (ho : Other o)
    (hin : st ≠ .outside → w.shared.inside = [r])
    (hfresh : ∀ v, st = .loaded v → Access.Fresh r (accesses log)) :
    lockOutline.Lands (log, ()) (⟨i, r, o, x⟩ :: log, ()) w i r st s := by
  refine ⟨?_, ⟨hpos, ?_, ?_⟩, fun j th st' _ _ hat => ⟨hat.here.1, ?_, ?_⟩⟩
  · rw [lockOutline_always, hlocked, hinside, accesses_other log ho]
    exact hw.always
  · rw [hinside]
    exact hin
  · rw [accesses_other log ho]
    exact hfresh
  · rw [hinside]
    exact hat.here.2.1
  · rw [accesses_other log ho]
    exact hat.here.2.2

/-- While one thread is inside, the other one is outside. -/
lemma outside_of_inside {j : ℕ} {th : Thread Op Op.Ans Role (Option Int)} (hpos : r.position = i)
    (hin : w.shared.inside = [r]) (hj : j ≠ i)
    (hat : lockOutline.At (log, ()) w.shared j th st) : st = .outside := by
  obtain ⟨hpos', hin', -⟩ := hat.here
  by_contra hst
  obtain rfl : r = th.role := List.singleton_inj.1 (hin.symm.trans (hin' hst))
  exact hj (hpos'.symm.trans hpos)

/-- What an access in a section has to give. -/
lemma lockLands_access (hw : lockOutline.Holds (log, ()) w) (hpos : r.position = i)
    (hlocked : s.locked = w.shared.locked) (hinside : s.inside = w.shared.inside)
    (hin : w.shared.inside = [r])
    (hundisturbed : Access.Undisturbed (accesses (⟨i, r, o, x⟩ :: log)))
    (hfresh : ∀ v, st = .loaded v → Access.Fresh r (accesses (⟨i, r, o, x⟩ :: log))) :
    lockOutline.Lands (log, ()) (⟨i, r, o, x⟩ :: log, ()) w i r st s := by
  refine ⟨⟨?_, hundisturbed⟩, ⟨hpos, fun _ => ?_, hfresh⟩, fun j th st' hj _ hat => ?_⟩
  · rw [hlocked, hinside]
    exact hw.always.1
  · rw [hinside]
    exact hin
  · obtain ⟨hpos', -, -⟩ := hat.here
    obtain rfl := outside_of_inside hpos hin hj hat
    exact ⟨hpos', fun hne => absurd rfl hne, fun v hv => (by cases hv)⟩

lemma lockLands_lock (hw : lockOutline.Holds (log, ()) w) (hpos : r.position = i)
    (hfree : w.shared.locked = false) {x : Op.Ans .lock} :
    lockOutline.Lands (log, ()) (⟨i, r, .lock, x⟩ :: log, ()) w i r .entered
      { w.shared with locked := true, inside := r :: w.shared.inside } := by
  have hnil := hw.always.1 hfree
  refine ⟨⟨fun h => (by cases h), ?_⟩, ⟨hpos, fun _ => ?_, fun v hv => (by cases hv)⟩,
    fun j th st' _ _ hat => ?_⟩
  · rw [accesses_other (o := .lock) log trivial]
    exact hw.always.2
  · rw [hnil]
  · obtain ⟨hpos', hin', -⟩ := hat.here
    -- nobody is inside while the lock is free
    have hout : st' = .outside := by
      by_contra hst
      have hcons := hin' hst
      rw [hnil] at hcons
      cases hcons
    subst hout
    exact ⟨hpos', fun hne => absurd rfl hne, fun v hv => (by cases hv)⟩

lemma lockLands_unlock (hw : lockOutline.Holds (log, ()) w) (hpos : r.position = i)
    (hin : w.shared.inside = [r]) {x : Op.Ans .unlock} :
    lockOutline.Lands (log, ()) (⟨i, r, .unlock, x⟩ :: log, ()) w i r .outside
      { w.shared with
        locked := false
        inside := w.shared.inside.erase r
        completed := w.shared.completed + 1 } := by
  have hnil : w.shared.inside.erase r = [] := by rw [hin, List.erase_cons_head]
  refine ⟨⟨fun _ => hnil, ?_⟩, ⟨hpos, fun hne => absurd rfl hne, fun v hv => (by cases hv)⟩,
    fun j th st' hj _ hat => ?_⟩
  · rw [accesses_other (o := .unlock) log trivial]
    exact hw.always.2
  · obtain ⟨hpos', -, -⟩ := hat.here
    obtain rfl := outside_of_inside hpos hin hj hat
    exact ⟨hpos', fun hne => absurd rfl hne, fun v hv => (by cases hv)⟩

lemma logged_lockOutline : lockOutline.Logged (machineOf m.body) fun _ _ => True where
  act {log _ w i e r st o k x s} hw _ _ hst hready hsem := by
    have hallow : st.allow o := hst.follows.1
    obtain ⟨hpos, hin, hfresh⟩ := hst.here
    refine ⟨trivial, (), ?_⟩
    show lockOutline.Lands _ _ w i r (st.after o x) s
    cases o with
    | kthreadShouldStop | isLocked | msleep ms =>
      obtain ⟨-, rfl⟩ := Outcome.done.inj hsem
      exact lockLands_other hw hpos rfl rfl trivial hin hfresh
    | print v =>
      obtain ⟨-, rfl⟩ := Outcome.done.inj hsem
      obtain rfl : st = .reloaded v := hallow
      exact lockLands_other hw hpos rfl rfl trivial (fun _ => hin (by simp))
        fun v hv => by cases hv
    | lock =>
      obtain ⟨-, rfl⟩ := Outcome.done.inj hsem
      exact lockLands_lock hw hpos (by simpa [machineOf] using hready)
    | unlock =>
      obtain ⟨-, rfl⟩ := Outcome.done.inj hsem
      obtain rfl : st = .shown := hallow
      exact lockLands_unlock hw hpos (hin (by simp))
    | load =>
      obtain ⟨rfl, rfl⟩ := Outcome.done.inj hsem
      have hne : st ≠ .outside := by
        rintro rfl
        exact hallow.elim Stage.noConfusion Stage.noConfusion
      exact lockLands_access hw hpos rfl rfl (hin hne) hw.always.2 fun _ _ => .inl rfl
    | store v =>
      obtain ⟨-, rfl⟩ := Outcome.done.inj hsem
      obtain rfl : st = .loaded (v - 1) := hallow
      exact lockLands_access hw hpos rfl rfl (hin (by simp)) ⟨hfresh _ rfl, hw.always.2⟩
        fun v hv => by cases hv
  again {_ _ _ r st a p} hst hagain := by
    cases a with
    | none =>
      obtain rfl := Option.some.inj hagain
      obtain rfl : st = .outside := hst.follows
      exact LockedCounter.follows_body m r
    | some v => cases hagain
  event {_ _ _ n} _ _ _ := n.elim

end Lock

lemma increment_of_locked (m : Module) : Increment m.body := by
  intro r st
  have hsub (v : BitVec 32) : v + 1#32 - 1#32 = v := BitVec.add_sub_cancel v 1#32
  cases m <;> cases r <;>
    simp [Module.body, LockedCounter.MutexModule.kthreadFunction,
      LockedCounter.MutexModule.kthreadFunction1, LockedCounter.SpinlockModule.threadFunction,
      LockedCounter.SpinlockModule.threadFunction1, LockedCounter.countingThread,
      incrementAndPrint, op, hsub]

/-- **What the lock is good for.** In every interleaving of the two modules with a lock no
increment is disturbed, and the counter shows their number at every moment, also in the middle
of a section. -/
theorem undisturbed_of_lock (m : Module) {v : World × Log} (hv : (lockedSystem m).Reachable v) :
    Access.Undisturbed (accesses v.2) ∧ m.Shows v.1.shared.counter (increments v.2) := by
  have hinit (w : World) (hw : w = LockedCounter.loaded m) : ∃ d, lockOutline.Holds ([], d) w := by
    subst hw
    refine ⟨(), ⟨fun _ => rfl, trivial⟩, fun j th hj => ⟨.outside, ?_⟩⟩
    have hat (r : Role) (hr : r.position = j) (hth : th = ⟨r, m.body r⟩) :
        lockOutline.At ([], ()) (LockedCounter.loaded m).shared j th .outside := by
      subst hth
      exact ⟨LockedCounter.follows_body m r, hr, fun hne => absurd rfl hne,
        fun v hv => (by cases hv)⟩
    match j, hj with
    | 0, hj => exact hat .first rfl (Option.some.inj hj).symm
    | 1, hj => exact hat .second rfl (Option.some.inj hj).symm
  obtain ⟨⟨⟩, hholds⟩ := (logged_lockOutline (m := m)).holds_of_reach hinit hv
  obtain ⟨hvalue, hcoherent⟩ := coherent_of_reach (increment_of_locked m) hv
  refine ⟨hholds.always.2, ?_⟩
  rw [hvalue, Access.value_eq_ofNat hcoherent hholds.always.2]
  exact m.shows_ofNat _

/-- Both threads of `spinlock_module.c` have incremented, and the second one is inside. -/
theorem undisturbed_of_lock_two :
    ∃ v, (lockedSystem .spinlockModule).Reachable v ∧ increments v.2 = 2 ∧
      v.1.shared.inside = [.second] ∧
      Module.spinlockModule.Shows v.1.shared.counter (increments v.2) := by
  obtain ⟨v, hv, hincrements, hinside⟩ := System.exists_reachable
    (S := lockedSystem .spinlockModule)
    (P := fun v => increments v.2 = 2 ∧ v.1.shared.inside = [.second])
    (List.replicate 10 (.run 0 {}) ++ List.replicate 4 (.run 1 {}))
    (show (lockedSystem .spinlockModule).Reachable (LockedCounter.loaded .spinlockModule, []) from
      .init ⟨rfl, rfl⟩) (by decide +kernel)
  exact ⟨v, hv, hincrements, hinside, (undisturbed_of_lock .spinlockModule hv).2⟩

end KernelDriverLab.UnlockedCounter
