import KernelDriverLab.Lib.Trace
import Mathlib.Algebra.Group.Nat.Defs
import Mathlib.Data.Nat.Init

/-!
# The counter and the bit of atomic_variable.c

Two kernel threads increment `atomic_v` and then toggle bit 1 of `bit_check`, for ever.  Each of
the two operations is atomic, but not both together: a thread can stop at any test of its loop,
and the other one can come between its increment and its toggle.  The counter and the bit
therefore agree up to the threads that are between the two operations; and since the toggles
themselves are in an order, the values they return alternate.

How many increments and toggles there have been, and what the toggles returned, is read off the
log of the machine.
-/

namespace KernelDriverLab.AtomicVariable

open Lib Prog

/-- The operations of the two threads. -/
inductive Op where
  | kthreadShouldStop
  /-- `atomic_inc(&atomic_v)` -/
  | atomicInc
  /-- `test_and_change_bit(nr, &bit_check)`, which returns the old bit. -/
  | testAndChangeBit (nr : ℕ)
  /-- `atomic_read(&atomic_v)` -/
  | atomicRead
  /-- `pr_info` with the counter and the bit. -/
  | print (value : BitVec 32) (bit : Bool)
  | msleep (ms : ℕ)
deriving DecidableEq, Repr

/-- What an operation answers. -/
@[reducible] def Op.Ans : Op → Type
  | kthreadShouldStop | testAndChangeBit _ => Bool
  | atomicRead => BitVec 32
  | _ => Unit

/-- A round of a loop ends with the value of the function, or goes back to the start. -/
abbrev Driver : Type := Prog Op Op.Ans (Option Int)

/-- The threads, in the order in which they are started. -/
inductive Role where
  | first
  | second
deriving DecidableEq, Repr

/-- The counter and the word with the bit. -/
structure State where
  atomicV : BitVec 32
  bitCheck : BitVec 32
deriving DecidableEq, Repr

/-- What the kernel chooses. -/
structure Env where
  /-- What `kthread_should_stop` returns. -/
  stop : Bool := false

/-- What each operation does. -/
def sem (e : Env) : Prog.Sem Op Op.Ans State
  | .kthreadShouldStop, s => .done e.stop s
  | .atomicInc, s => .done () { s with atomicV := s.atomicV + 1 }
  | .testAndChangeBit nr, s =>
      .done (s.bitCheck.getLsbD nr) { s with bitCheck := s.bitCheck ^^^ (1#32 <<< nr) }
  | .atomicRead, s => .done s.atomicV s
  | .print _ _, s => .done () s
  | .msleep _, s => .done () s

/-! ## The thread functions -/

/-- A round of the loop in both functions. -/
def countingThread : Driver := do
  let stop ← op Op.kthreadShouldStop
  if stop then pure (some 0)
  else
    op Op.atomicInc
    let perValue ← op (Op.testAndChangeBit 1)
    let value ← op Op.atomicRead
    op (Op.print value perValue)
    op (Op.msleep 1000)
    pure none

/-- `thread_function` -/
def threadFunction : Driver := countingThread

/-- `thread_function2` -/
def threadFunction2 : Driver := countingThread

/-- The function that a thread runs. -/
def Role.body : Role → Driver
  | first => threadFunction
  | second => threadFunction2

/-! ## The machine -/

/-- The variables and the two threads. -/
abbrev World : Type := Pool Op Op.Ans Role (Option Int) State

/-- What has been done, the latest first. -/
abbrev Log : Type := List (Entry Op Op.Ans Role)

/-- The two threads go on for ever, until they are asked to stop. -/
def machine : Machine Op Op.Ans Role (Option Int) State Env Empty where
  sem e _ := sem e
  ready _ _ _ := true
  again r a := match a with
    | none => some r.body
    | some _ => none
  event n _ := n.elim

/-- The module after it has been loaded. -/
def loaded : World where
  shared := ⟨0, 0⟩
  threads := [⟨.first, Role.first.body⟩, ⟨.second, Role.second.body⟩]

/-- The runs of the module, with their logs. -/
def system : System (World × Log) (Move Env Empty) := machine.traced (· = loaded)

/-- Both threads have returned. -/
def Stopped (w : World) : Prop := ∀ th ∈ w.threads, th.result = some (some 0)

/-- The number of increments, of all threads. -/
def increments (log : Log) : ℕ := log.countP fun e => e.op = .atomicInc

/-- How often the bit has been toggled. -/
def toggles (log : Log) : ℕ := log.countP fun e => e.op = .testAndChangeBit 1

/-- What a toggle has returned. -/
def toggled (e : Entry Op Op.Ans Role) : Option Bool :=
  match e with
  | ⟨_, _, .testAndChangeBit 1, old⟩ => some old
  | _ => none

/-- What the toggles have returned, the first one first. -/
def returned (log : Log) : List Bool := (log.filterMap toggled).reverse

/-! ## Where the threads are -/

/-- Where a thread is in its round. -/
inductive Stage where
  | outside
  /-- Between the increment and the toggle. -/
  | between
deriving DecidableEq, Repr

/-- The operations of a stage. -/
@[simp] def Stage.allow : Stage → Op → Prop
  | .outside, .testAndChangeBit _ => False
  | .outside, _ => True
  | .between, .testAndChangeBit nr => nr = 1
  | .between, _ => False

/-- The stage after an operation. -/
@[simp] def Stage.after : Stage → Op → Stage
  | _, .atomicInc => .between
  | _, .testAndChangeBit _ => .outside
  | st, _ => st

/-- The stages of a round. -/
@[simps]
def proto : Protocol Op Op.Ans Stage where
  allow := Stage.allow
  expect _ _ _ := True
  after st o _ := st.after o

/-- A round ends with as many toggles as increments. -/
@[simp] def Ends (st : Stage) (_ : Option Int) : Prop := st = .outside

lemma follows_body (r : Role) : r.body.Follows proto .outside Ends := by
  cases r <;> simp [Role.body, threadFunction, threadFunction2, countingThread, op]

/-! ## What holds where -/

/-- The position of a thread in the pool. -/
def Role.position : Role → ℕ
  | first => 0
  | second => 1

/-- The number of times that a thread has done an operation. -/
def done (r : Role) (o : Op) (log : Log) : ℕ := log.countP fun e => e.role = r ∧ e.op = o

/-- What always holds: the counter counts the increments, the bit is the parity of the toggles,
and these have returned what they should. -/
structure Counted (log : Log) (s : State) : Prop where
  counter : s.atomicV = .ofNat 32 (increments log)
  bit : s.bitCheck = if toggles log % 2 = 1 then 2 else 0
  alternate : returned log = (List.range (toggles log)).map fun i => decide (i % 2 = 1)

/-- A thread has done one more increment than toggles when it is between the two. -/
@[simps]
def outline : Outline Op Op.Ans Role (Option Int) State Stage (Log × Unit) where
  proto _ := proto
  ends _ := Ends
  here g j r st _ := r.position = j ∧
    done r .atomicInc g.1 =
      done r (.testAndChangeBit 1) g.1 + if st = .between then 1 else 0
  always g s := Counted g.1 s

section Counting

variable (log : Log) {e : Entry Op Op.Ans Role} {r : Role} {o : Op}

lemma done_cons_of_ne (hr : e.role ≠ r) : done r o (e :: log) = done r o log := by
  simp [done, hr]

lemma done_cons_of_op_ne (ho : e.op ≠ o) : done r o (e :: log) = done r o log := by
  simp [done, ho]

lemma done_cons_self (hr : e.role = r) (ho : e.op = o) :
    done r o (e :: log) = done r o log + 1 := by
  simp [done, hr, ho]

/-- Both threads together. -/
lemma countP_eq_done (o : Op) :
    log.countP (fun e => e.op = o) = done .first o log + done .second o log := by
  induction log with
  | nil => rfl
  | cons e log ih =>
    rw [List.countP_cons, ih]
    by_cases ho : e.op = o
    · cases hr : e.role with
      | first =>
        rw [done_cons_self log hr ho, done_cons_of_ne log (by rw [hr]; decide)]
        simp only [ho, decide_true, if_true]
        omega
      | second =>
        rw [done_cons_self log hr ho, done_cons_of_ne log (by rw [hr]; decide)]
        simp only [ho, decide_true, if_true]
        omega
    · rw [done_cons_of_op_ne log ho, done_cons_of_op_ne log ho]
      simp [ho]

end Counting

section Keep

variable {log : Log} {s : State} {i : ℕ} {r : Role} {o : Op} {x : o.Ans}

lemma Counted.increment (h : Counted log s) (x : Op.Ans .atomicInc) :
    Counted (⟨i, r, .atomicInc, x⟩ :: log) { s with atomicV := s.atomicV + 1 } where
  counter := by
    have hcount : increments (⟨i, r, .atomicInc, x⟩ :: log) = increments log + 1 := by
      simp [increments]
    show s.atomicV + 1 = _
    rw [hcount, h.counter, BitVec.ofNat_add]
    rfl
  bit := by
    have hcount : toggles (⟨i, r, .atomicInc, x⟩ :: log) = toggles log := by simp [toggles]
    rw [hcount, ← h.bit]
  alternate := by
    have hcount : toggles (⟨i, r, .atomicInc, x⟩ :: log) = toggles log := by simp [toggles]
    rw [hcount, ← h.alternate]
    rfl

/-- A toggle returns the parity of the toggles before it. -/
lemma Counted.toggle (h : Counted log s) :
    Counted (⟨i, r, .testAndChangeBit 1, s.bitCheck.getLsbD 1⟩ :: log)
      { s with bitCheck := s.bitCheck ^^^ (1#32 <<< 1) } := by
  have hcount (x : Bool) : toggles (⟨i, r, .testAndChangeBit 1, x⟩ :: log) = toggles log + 1 := by
    simp [toggles]
  have hold : s.bitCheck.getLsbD 1 = decide (toggles log % 2 = 1) := by
    rw [h.bit]
    split_ifs with hodd <;> simp [hodd]
  refine ⟨?_, ?_, ?_⟩
  · rw [h.counter]
    simp [increments]
  · show s.bitCheck ^^^ (1#32 <<< 1) = _
    rw [hcount, h.bit]
    rcases Nat.mod_two_eq_zero_or_one (toggles log) with hmod | hmod
    · have hnext : (toggles log + 1) % 2 = 1 := by omega
      rw [hmod, hnext]
      decide
    · have hnext : (toggles log + 1) % 2 = 0 := by omega
      rw [hmod, hnext]
      decide
  · rw [hcount, List.range_succ, List.map_append, ← h.alternate, hold]
    simp [returned, toggled]

/-- The other operations are not counted. -/
lemma Counted.other (h : Counted log s) (hinc : o ≠ .atomicInc) (htoggle : o ≠ .testAndChangeBit 1) :
    Counted (⟨i, r, o, x⟩ :: log) s := by
  have hincrements : increments (⟨i, r, o, x⟩ :: log) = increments log := by
    simp [increments, hinc]
  have htoggles : toggles (⟨i, r, o, x⟩ :: log) = toggles log := by simp [toggles, htoggle]
  have hreturned : returned (⟨i, r, o, x⟩ :: log) = returned log := by
    have hnone : toggled ⟨i, r, o, x⟩ = none := by
      cases o with
      | testAndChangeBit nr =>
        have hnr : nr ≠ 1 := by
          rintro rfl
          exact htoggle rfl
        unfold toggled
        split
        · rename_i heq
          cases heq
          exact absurd rfl hnr
        · rfl
      | _ => rfl
    simp [returned, hnone]
  exact ⟨by rw [hincrements, h.counter], by rw [htoggles, h.bit],
    by rw [hreturned, htoggles, h.alternate]⟩

end Keep

section Sound

variable {w : World} {log : Log} {i : ℕ} {r : Role} {st st' : Stage} {o : Op} {x : o.Ans}
  {s : State}

/-- An operation of one thread leaves the counts of the other. -/
lemma lands_of_own (hpos : r.position = i) (halways : Counted (⟨i, r, o, x⟩ :: log) s)
    (hown : done r .atomicInc (⟨i, r, o, x⟩ :: log) =
      done r (.testAndChangeBit 1) (⟨i, r, o, x⟩ :: log) + if st' = .between then 1 else 0) :
    outline.Lands (log, ()) (⟨i, r, o, x⟩ :: log, ()) w i r st' s := by
  refine ⟨halways, ⟨hpos, hown⟩, fun j th st hj _ hst => ?_⟩
  obtain ⟨hpos', hcounts⟩ := hst.here
  have hne : r ≠ th.role := by
    rintro rfl
    exact hj (hpos'.symm.trans hpos)
  refine ⟨hpos', ?_⟩
  rw [done_cons_of_ne _ hne, done_cons_of_ne _ hne]
  exact hcounts

lemma lands_increment (hw : outline.Holds (log, ()) w) (x : Op.Ans .atomicInc)
    (hhere : outline.here (log, ()) i r .outside w.shared) :
    outline.Lands (log, ()) (⟨i, r, .atomicInc, x⟩ :: log, ()) w i r .between
      { w.shared with atomicV := w.shared.atomicV + 1 } := by
  obtain ⟨hpos, hcounts⟩ := hhere
  have hincrement : done r .atomicInc (⟨i, r, .atomicInc, x⟩ :: log) = done r .atomicInc log + 1 :=
    done_cons_self log rfl rfl
  have htoggle : done r (.testAndChangeBit 1) (⟨i, r, .atomicInc, x⟩ :: log) =
      done r (.testAndChangeBit 1) log := done_cons_of_op_ne log (by simp)
  refine lands_of_own hpos (hw.always.increment x) ?_
  rw [hincrement, htoggle, if_pos rfl]
  simpa using hcounts

lemma lands_toggle (hw : outline.Holds (log, ()) w)
    (hhere : outline.here (log, ()) i r .between w.shared) :
    outline.Lands (log, ())
      (⟨i, r, .testAndChangeBit 1, w.shared.bitCheck.getLsbD 1⟩ :: log, ()) w i r .outside
      { w.shared with bitCheck := w.shared.bitCheck ^^^ (1#32 <<< 1) } := by
  obtain ⟨hpos, hcounts⟩ := hhere
  have htoggle : done r (.testAndChangeBit 1)
      (⟨i, r, .testAndChangeBit 1, w.shared.bitCheck.getLsbD 1⟩ :: log) =
        done r (.testAndChangeBit 1) log + 1 := done_cons_self log rfl rfl
  have hincrement : done r .atomicInc
      (⟨i, r, .testAndChangeBit 1, w.shared.bitCheck.getLsbD 1⟩ :: log) =
        done r .atomicInc log := done_cons_of_op_ne log (by simp)
  refine lands_of_own hpos hw.always.toggle ?_
  rw [htoggle, hincrement, if_neg (by decide)]
  simpa using hcounts

lemma lands_other (hw : outline.Holds (log, ()) w) (hhere : outline.here (log, ()) i r st w.shared)
    (hinc : o ≠ .atomicInc) (htoggle : o ≠ .testAndChangeBit 1) :
    outline.Lands (log, ()) (⟨i, r, o, x⟩ :: log, ()) w i r st w.shared := by
  obtain ⟨hpos, hcounts⟩ := hhere
  refine lands_of_own hpos (hw.always.other hinc htoggle) ?_
  rw [done_cons_of_op_ne log hinc, done_cons_of_op_ne log htoggle]
  exact hcounts

lemma logged_outline : outline.Logged machine fun _ _ => True where
  act {log _ w i e r st o k x s} hw _ hi hst hready hsem := by
    have hallow : st.allow o := hst.follows.1
    have hhere := hst.here
    refine ⟨trivial, (), ?_⟩
    show outline.Lands _ _ w i r (st.after o) s
    cases o with
    | atomicInc =>
      obtain ⟨-, rfl⟩ := Outcome.done.inj hsem
      cases st with
      | outside => exact lands_increment hw x hhere
      | between => exact hallow.elim
    | testAndChangeBit nr =>
      obtain ⟨rfl, rfl⟩ := Outcome.done.inj hsem
      cases st with
      | outside => exact hallow.elim
      | between =>
        obtain rfl : nr = 1 := hallow
        exact lands_toggle hw hhere
    | kthreadShouldStop | atomicRead | print value bit | msleep ms =>
      obtain ⟨-, rfl⟩ := Outcome.done.inj hsem
      cases st <;> exact lands_other hw hhere (by simp) (by simp)
  again {_ _ _ r st a p} hst hagain := by
    cases a with
    | none =>
      obtain rfl := Option.some.inj hagain
      obtain rfl : st = .outside := hst.follows
      exact follows_body r
    | some v => cases hagain
  event {_ _ _ n} _ _ _ := n.elim

end Sound

/-- Where a thread of the module is. -/
lemma stage_of_role {w : World} {log : Log} (hholds : outline.Holds (log, ()) w) {r : Role}
    (hrole : w.threads[r.position]?.map Thread.role = some r) :
    ∃ th st, th ∈ w.threads ∧ outline.At (log, ()) w.shared r.position th st ∧
      done r .atomicInc log =
        done r (.testAndChangeBit 1) log + if st = .between then 1 else 0 := by
  obtain ⟨p, st, hth, hst⟩ := hholds.of_role hrole
  exact ⟨_, st, hth, hst, hst.here.2⟩

lemma getLsbD_two (i : ℕ) : (2 : BitVec 32).getLsbD i = decide (i = 1) := by
  have hpow : (2 : BitVec 32) = BitVec.twoPow 32 1 := by decide
  rw [hpow, BitVec.getLsbD_twoPow]
  by_cases hi : i = 1
  · simp [hi]
  · simp [hi, Ne.symm hi]

/-- In the beginning nothing has been done. -/
lemma holds_loaded : outline.Holds ([], ()) loaded := by
  refine ⟨⟨rfl, rfl, rfl⟩, fun j th hj => ⟨.outside, ?_⟩⟩
  match j, hj with
  | 0, hj =>
    obtain rfl := Option.some.inj hj
    exact ⟨follows_body .first, rfl, rfl⟩
  | 1, hj =>
    obtain rfl := Option.some.inj hj
    exact ⟨follows_body .second, rfl, rfl⟩

/-- **The counter and the bit.** In every interleaving `atomic_v` is the number of increments
modulo 2^32; bit 1 of `bit_check` is the parity of the number of toggles and its other bits are
0; the increments are at most two ahead of the toggles, and not at all when both threads have
returned; and the toggles return 0, 1, 0, 1, … -/
theorem counter_and_bit {v : World × Log} (hv : system.Reachable v) :
    v.1.shared.atomicV.toNat = increments v.2 % 2 ^ 32 ∧
      (∀ i, v.1.shared.bitCheck.getLsbD i = decide (i = 1 ∧ toggles v.2 % 2 = 1)) ∧
      toggles v.2 ≤ increments v.2 ∧ increments v.2 ≤ toggles v.2 + 2 ∧
      (Stopped v.1 → increments v.2 = toggles v.2) ∧
      returned v.2 = (List.range (toggles v.2)).map fun i => decide (i % 2 = 1) := by
  have hinit (w : World) (hw : w = loaded) : ∃ d, outline.Holds ([], d) w := by
    subst hw
    exact ⟨(), holds_loaded⟩
  obtain ⟨⟨⟩, hholds⟩ := logged_outline.holds_of_reach hinit hv
  have hrole (r : Role) : v.1.threads[r.position]?.map Thread.role = some r := by
    refine Machine.role_of_reach (M := machine) (C := fun _ _ => True) ?_
      (Machine.reach_of_traced (fun _ _ _ => trivial) hv)
    rintro _ rfl
    cases r <;> rfl
  obtain ⟨th₁, st₁, hmem₁, hat₁, hdone₁⟩ := stage_of_role hholds (hrole .first)
  obtain ⟨th₂, st₂, hmem₂, hat₂, hdone₂⟩ := stage_of_role hholds (hrole .second)
  have hincrements : increments v.2 = done .first .atomicInc v.2 + done .second .atomicInc v.2 :=
    countP_eq_done v.2 .atomicInc
  have htoggles : toggles v.2 =
      done .first (.testAndChangeBit 1) v.2 + done .second (.testAndChangeBit 1) v.2 :=
    countP_eq_done v.2 (.testAndChangeBit 1)
  refine ⟨?_, fun i => ?_, ?_, ?_, fun hstopped => ?_, hholds.always.alternate⟩
  · rw [hholds.always.counter, BitVec.toNat_ofNat]
  · rw [hholds.always.bit]
    split_ifs with hodd
    · rw [getLsbD_two]
      simp [hodd]
    · simp [hodd]
  · split_ifs at hdone₁ hdone₂ <;> omega
  · split_ifs at hdone₁ hdone₂ <;> omega
  · -- a round ends outside
    obtain rfl : st₁ = .outside := hat₁.ends (hstopped th₁ hmem₁)
    obtain rfl : st₂ = .outside := hat₂.ends (hstopped th₂ hmem₂)
    rw [if_neg (by decide)] at hdone₁ hdone₂
    omega

/-- The second thread has incremented while the first is between its increment and its toggle. -/
theorem counter_and_bit_two :
    ∃ v, system.Reachable v ∧ increments v.2 = 2 ∧ toggles v.2 = 0 ∧
      v.1.shared.atomicV.toNat = increments v.2 % 2 ^ 32 := by
  obtain ⟨v, hv, hincrements, htoggles⟩ := System.exists_reachable (S := system)
    (P := fun v => increments v.2 = 2 ∧ toggles v.2 = 0)
    [.run 0 {}, .run 0 {}, .run 1 {}, .run 1 {}]
    (show system.Reachable (loaded, []) from .init ⟨rfl, rfl⟩) (by decide +kernel)
  exact ⟨v, hv, hincrements, htoggles, (counter_and_bit hv).1⟩

end KernelDriverLab.AtomicVariable
