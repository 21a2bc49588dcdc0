import KernelDriverLab.Lib.Trace
import KernelDriverLab.Modules.ExitRequest
import Mathlib.Data.List.Perm.Subperm

/-!
# The events of wait_queue_module.c

The wait thread of `wait_queue_module.c` counts an event for each wait that ends with something
else than a 2 in `wait_queue_flag`, and clears the flag afterwards.  So an event is counted only
for a `my_read` that has stored its 1, and for each such call at most once; but when a `my_read`
stores its 1 between the increment and the store of 0, nothing is left of it.

`Assigned` gives each increment a `my_read` that has stored 1 before it, and to no two the same;
`Answered` says that each store of a 1 has been followed by an increment.  Both are about the log of
the machine of `ExitRequest`.  The events stop when `hello_exit` begins, but calls of `my_read`
that have been made by then go on.
-/

namespace KernelDriverLab.WaitQueue

open Lib Prog ExitRequest

/-- What has been done, the latest first. -/
abbrev Log : Type := List (Entry Op Op.Ans Role)

/-- The runs of the module, with their logs. -/
def system : System (World × Log) (Move (Option ℕ) Event) :=
  (machine .waitQueueModule).traced (Loaded .waitQueueModule)

/-- A `my_read` has stored its 1. -/
def Stores (e : Entry Op Op.Ans Role) : Prop := e.role = .reader ∧ e.op = .storeFlag 1

instance (e : Entry Op Op.Ans Role) : Decidable (Stores e) := inferInstanceAs (Decidable (_ ∧ _))

/-- The calls of `my_read` that have stored their 1, the latest first. -/
def storers (log : Log) : List ℕ := (log.filter fun e => Stores e).map Entry.thread

/-- How often the wait thread has incremented `read_count`. -/
def increments (log : Log) : ℕ := log.countP fun e => e.op = .countRead

/-- Every store of a 1 by a `my_read` has been followed by an increment. -/
def Answered (log : Log) : Prop :=
  ∀ after e before, log = after ++ e :: before → Stores e → ∃ c ∈ after, c.op = .countRead

/-- Each increment has a call of `my_read` that has stored its 1 before, and another one than
the increments before it. -/
inductive Assigned : Log → List ℕ → Prop where
  | nil : Assigned [] []
  | count {log : Log} {calls : List ℕ} {e : Entry Op Op.Ans Role} {i : ℕ} (h : Assigned log calls)
      (he : e.op = .countRead) (hstored : i ∈ storers log) (hother : i ∉ calls) :
      Assigned (e :: log) (i :: calls)
  | other {log : Log} {calls : List ℕ} {e : Entry Op Op.Ans Role} (h : Assigned log calls)
      (he : e.op ≠ .countRead) : Assigned (e :: log) calls

section Logs

variable {log : Log} {calls : List ℕ} {e : Entry Op Op.Ans Role} {i : ℕ}

lemma storers_cons (he : Stores e) : storers (e :: log) = e.thread :: storers log := by
  simp [storers, he]

lemma storers_cons_of_not (he : ¬ Stores e) : storers (e :: log) = storers log := by
  simp [storers, he]

/-- A call that has stored its 1 stays one. -/
lemma mem_storers_cons (h : i ∈ storers log) : i ∈ storers (e :: log) := by
  by_cases he : Stores e
  · rw [storers_cons he]
    exact List.mem_cons_of_mem _ h
  · rwa [storers_cons_of_not he]

namespace Assigned

lemma length_eq (h : Assigned log calls) : calls.length = increments log := by
  induction h with
  | nil => rfl
  | count h he hstored hother ih => simp [increments, he, ih]
  | other h he ih => simp [increments, he, ih]

lemma nodup (h : Assigned log calls) : calls.Nodup := by
  induction h with
  | nil => exact List.nodup_nil
  | count h he hstored hother ih => exact List.nodup_cons.2 ⟨hother, ih⟩
  | other h he ih => exact ih

lemma subset (h : Assigned log calls) : calls ⊆ storers log := by
  induction h with
  | nil => exact List.nil_subset _
  | count h he hstored hother ih =>
    rintro j hj
    rcases List.mem_cons.1 hj with rfl | hj
    · exact mem_storers_cons hstored
    · exact mem_storers_cons (ih hj)
  | other h he ih => exact fun j hj => mem_storers_cons (ih hj)

/-- There are no more increments than calls that have stored their 1. -/
lemma increments_le (h : Assigned log calls) : increments log ≤ (storers log).length := by
  rw [← h.length_eq]
  exact (h.nodup.subperm h.subset).length_le

end Assigned

lemma answered_nil : Answered [] := by
  intro after e before h
  simp at h

/-- An increment answers all stores before it, and another operation answers none. -/
lemma answered_cons : Answered (e :: log) ↔ e.op = .countRead ∨ ¬ Stores e ∧ Answered log := by
  constructor
  · intro h
    by_cases he : e.op = .countRead
    · exact .inl he
    · refine .inr ⟨fun hstores => ?_, fun after e' before heq hstores => ?_⟩
      · obtain ⟨c, hc, -⟩ := h [] e log rfl hstores
        cases hc
      · obtain ⟨c, hc, hcount⟩ := h (e :: after) e' before (by rw [heq]; rfl) hstores
        rcases List.mem_cons.1 hc with rfl | hc
        · exact absurd hcount he
        · exact ⟨c, hc, hcount⟩
  · rintro h (_ | ⟨c, after⟩) e' before heq hstores
    · obtain ⟨rfl, -⟩ := List.cons.inj heq
      rcases h with he | ⟨he, -⟩
      · exact absurd (he.symm.trans hstores.2) (by simp)
      · exact absurd hstores he
    · obtain ⟨rfl, hlog⟩ := List.cons.inj heq
      rcases h with he | ⟨-, h⟩
      · exact ⟨e, List.mem_cons_self, he⟩
      · obtain ⟨c, hc, hcount⟩ := h after e' before hlog hstores
        exact ⟨c, List.mem_cons_of_mem _ hc, hcount⟩

instance instDecidableAnswered : (log : Log) → Decidable (Answered log)
  | [] => isTrue answered_nil
  | _ :: log =>
    have : Decidable (Answered log) := instDecidableAnswered log
    decidable_of_iff' _ answered_cons

end Logs

/-! ## Where the threads are -/

/-- A call that copies a message or not, stores `v` at most once, and wakes the thread up: the
stages are those of `ExitRequest`. -/
@[simps]
def caller (v : Int) : Protocol Op Op.Ans Stage where
  allow st o := match st, o with
    | .before, .copyMessage _ | .stored, .wakeUp | .signalled, .release _ => True
    | .before, .storeFlag u => u = v
    | _, _ => False
  expect _ _ _ := True
  after st o _ := match st, o with
    | .before, .storeFlag _ => .stored
    | .stored, .wakeUp => .signalled
    | st, _ => st

/-- The protocols of the three functions. -/
def protoOf : Role → Protocol Op Op.Ans Stage
  | .waiter => proto .waitQueueModule
  | .reader => caller 1
  | .exit => caller 2

/-- How their rounds end. -/
def EndsOf : Role → Stage → Next → Prop
  | .waiter => Ends .waitQueueModule
  | .reader | .exit => fun _ _ => True

lemma follows_reader (offset : ℕ) :
    (WaitModule.waitQueueModule.myRead offset).Follows (caller 1) .before fun _ _ => True := by
  simp [WaitModule.myRead, WaitModule.signal, op]

lemma follows_exit :
    WaitModule.waitQueueModule.helloExit.Follows (caller 2) .before fun _ _ => True := by
  simp [WaitModule.helloExit, WaitModule.signal, op]

/-- The stages of the wait thread in this module. -/
def Waiting (st : Stage) : Prop := st.ofWaiter = true ∧ st ≠ .leave ∧ st ≠ .wait

lemma Waiting.after {st : Stage} {o : Op} {x : o.Ans} (h : Waiting st)
    (hallow : st.allow .waitQueueModule o) : Waiting (st.after .waitQueueModule o x) := by
  obtain ⟨hwaiter, hleave, hwait⟩ := h
  refine ⟨ofWaiter_after hwaiter hallow, ?_, ?_⟩
  all_goals
    cases st <;> cases o <;> first | exact hallow.elim | skip
    all_goals first | exact absurd rfl hleave | exact absurd rfl hwait | skip
    all_goals simp <;> split_ifs <;> simp

/-- What a step of the wait thread does: it counts, it clears the flag, or it does neither. -/
inductive WaiterStep (s : State) : Stage → Op → Stage → State → Prop where
  | count : WaiterStep s .count .countRead .clear { s with readCount := s.readCount + 1 }
  | clear : WaiterStep s .clear (.storeFlag 0) .check { s with flag := 0 }
  | other {g g' : Stage} {o : Op} {s' : State} (ho : o ≠ .countRead) (hflag : s'.flag = s.flag)
      (hcount : s'.readCount = s.readCount) (hg : g ≠ .clear) (hg' : g' ≠ .clear)
      (hseen : g' = .finish ∨ g' = .test → s.flag ≠ 0 ∨ g = .finish)
      (htest : g' = .count → g = .test ∧ s.flag ≠ 2) : WaiterStep s g o g' s'

lemma waiterStep {g : Stage} {o : Op} {x : o.Ans} {fault : Option ℕ} {s s' : State}
    (hg : Waiting g) (hallow : g.allow .waitQueueModule o) (hsem : sem fault o s = .done x s') :
    WaiterStep s g o (g.after .waitQueueModule o x) s' := by
  obtain ⟨hwaiter, hleave, hwait⟩ := hg
  cases g
  case count =>
    cases o <;> first | exact hallow.elim | skip
    obtain ⟨-, rfl⟩ := Outcome.done.inj hsem
    exact .count
  case clear =>
    cases o <;> first | exact hallow.elim | skip
    obtain rfl := hallow
    obtain ⟨-, rfl⟩ := Outcome.done.inj hsem
    exact .clear
  case leave => exact absurd rfl hleave
  case wait => exact absurd rfl hwait
  case left | reading | before | stored | completing | signalled =>
    cases o <;> first | exact hallow.elim | cases hwaiter
  all_goals
    cases o <;> first | exact hallow.elim | skip
    obtain ⟨rfl, rfl⟩ := Outcome.done.inj hsem
    refine .other (by simp) rfl rfl (by simp) ?_ ?_ ?_
  -- a look at the flag leads to one of two stages
  case check.loadFlag.refine_1 | recheck.loadFlag.refine_1 | test.loadFlag.refine_1 =>
    simp only [Stage.after]
    split_ifs <;> simp
  case check.loadFlag.refine_2 | recheck.loadFlag.refine_2 | test.loadFlag.refine_2 =>
    simp only [Stage.after]
    split_ifs with hflag <;> simp [hflag]
  case check.loadFlag.refine_3 | recheck.loadFlag.refine_3 | test.loadFlag.refine_3 =>
    simp only [Stage.after]
    split_ifs with hflag <;> simp [hflag]
  all_goals simp

/-- What a proof about the events has to keep: `P` of the log, the stage of the wait thread, the
flag and the count.  The ghost variable is the log and that stage. -/
@[simps]
def outline (P : Log → Stage → Int → UInt32 → Prop) :
    Outline Op Op.Ans Role Next State Stage (Log × Stage) where
  proto := protoOf
  ends := EndsOf
  here g j r st _ := match r with
    | .waiter => j = 0 ∧ g.2 = st ∧ Waiting st
    | .reader => st = .before → j ∉ storers g.1
    | .exit => True
  always g s := (storers g.1).Nodup ∧ P g.1 g.2 s.flag s.readCount

/-- Thread 0 is the wait thread, and the threads of the log are there. -/
structure Placed (v : World × Log) : Prop where
  waiter : v.1.threads[0]?.map Thread.role = some .waiter
  lt : ∀ e ∈ v.2, e.thread < v.1.threads.length

/-- The steps that meet `C` keep `P`. -/
structure Keeps (P : Log → Stage → Int → UInt32 → Prop)
    (C : World × Log → Move (Option ℕ) Event → Prop) : Prop where
  init : P [] .check 0 0
  /-- The steps of the wait thread. -/
  waiter {log : Log} {g g' : Stage} {i : ℕ} {o : Op} {x : o.Ans} {s s' : State}
    (h : P log g s.flag s.readCount) (hstep : WaiterStep s g o g' s') :
    P (⟨i, .waiter, o, x⟩ :: log) g' s'.flag s'.readCount
  /-- The store of a `my_read`. -/
  reader {v : World × Log} {g : Stage} {i : ℕ} {fault : Option ℕ} (x : (Op.storeFlag 1).Ans)
    (hv : (outline P).Holds (v.2, g) v.1) (hplaced : Placed v) (hc : C v (.run i fault))
    (habout : v.1.AboutTo i .reader (.storeFlag 1)) (hi : i ∉ storers v.2) :
    P (⟨i, .reader, .storeFlag 1, x⟩ :: v.2) g 1 v.1.shared.readCount
  /-- The store of `hello_exit`. -/
  exit {v : World × Log} {g : Stage} {i : ℕ} {fault : Option ℕ}
    (hv : (outline P).Holds (v.2, g) v.1) (hc : C v (.run i fault))
    (habout : v.1.AboutTo i .exit (.storeFlag 2)) : P v.2 g 2 v.1.shared.readCount
  /-- Other operations that neither store a 1 nor count. -/
  quiet {log : Log} {g : Stage} {flag : Int} {count : UInt32} {e : Entry Op Op.Ans Role}
    (h : P log g flag count) (hstores : ¬ Stores e) (hcount : e.op ≠ .countRead) :
    P (e :: log) g flag count

section Sound

variable {P : Log → Stage → Int → UInt32 → Prop} {C : World × Log → Move (Option ℕ) Event → Prop}
  {w : World} {log : Log} {g : Stage} {i : ℕ} {fault : Option ℕ} {r : Role} {st : Stage} {o : Op}
  {k : o.Ans → Driver} {x : o.Ans} {s : State}

lemma not_mem_storers (h : ∀ e ∈ log, e.thread < i) : i ∉ storers log := by
  intro hmem
  obtain ⟨e, he, rfl⟩ := List.mem_map.1 hmem
  exact Nat.lt_irrefl _ (h e (List.mem_of_mem_filter he))

/-- The threads are not interested in what the others do, apart from the stage of the wait
thread. -/
lemma here_other {g' : Stage} {e : Entry Op Op.Ans Role} {j : ℕ} {th : WaitThread} {st : Stage}
    {s' : State} (hst : (outline P).At (log, g) w.shared j th st)
    (hwaiter : th.role = .waiter → g' = g) (hthread : Stores e → e.thread ≠ j) :
    (outline P).here (e :: log, g') j th.role st s' := by
  obtain ⟨r, p⟩ := th
  cases r with
  | waiter =>
    obtain ⟨hj, hg, hwaiting⟩ := hst.here
    exact ⟨hj, (hwaiter rfl).trans hg, hwaiting⟩
  | reader =>
    intro hbefore hmem
    have hold : j ∉ storers log := hst.here hbefore
    by_cases he : Stores e
    · rw [storers_cons he] at hmem
      rcases List.mem_cons.1 hmem with hj | hmem
      · exact hthread he hj.symm
      · exact hold hmem
    · rw [storers_cons_of_not he] at hmem
      exact hold hmem
  | exit => trivial

lemma lands_waiter (hP : Keeps P C) (hw : (outline P).Holds (log, g) w)
    (hst : (outline P).At (log, g) w.shared i ⟨.waiter, .act o k⟩ st)
    (hsem : sem fault o w.shared = .done x s) :
    (outline P).Lands (log, g) (⟨i, .waiter, o, x⟩ :: log, g.after .waitQueueModule o x) w i .waiter
      (st.after .waitQueueModule o x) s := by
  have hallow : st.allow .waitQueueModule o := hst.follows.1
  obtain ⟨rfl, rfl, hwaiting⟩ := hst.here
  obtain ⟨hnodup, hkept⟩ := hw.always
  have hnot : ¬ Stores (⟨0, .waiter, o, x⟩ : Entry Op Op.Ans Role) := fun h => by cases h.1
  refine ⟨⟨?_, hP.waiter hkept (waiterStep hwaiting hallow hsem)⟩, ⟨rfl, rfl, hwaiting.after hallow⟩, ?_⟩
  · rwa [storers_cons_of_not hnot]
  · intro j th st' hj hth hst'
    refine here_other hst' (fun hrole => ?_) fun h => absurd h hnot
    obtain ⟨r, p⟩ := th
    obtain rfl : r = .waiter := hrole
    exact absurd hst'.here.1 hj

/-- The operations of `my_read` and `hello_exit` apart from their stores. -/
@[simp] def Quiet : Op → Prop
  | .copyMessage _ | .wakeUp | .release _ => True
  | _ => False

lemma Quiet.same (ho : Quiet o) {s s' : State} (hsem : sem fault o s = .done x s') :
    s'.flag = s.flag ∧ s'.readCount = s.readCount := by
  cases o
  case copyMessage | wakeUp | release =>
    obtain ⟨-, rfl⟩ := Outcome.done.inj hsem
    exact ⟨rfl, rfl⟩
  all_goals exact ho.elim

/-- They lead no call back. -/
lemma Quiet.before {v : Int} (ho : Quiet o) (hallow : (caller v).allow st o)
    (h : (caller v).after st o x = .before) : st = .before := by
  cases st <;> cases o <;> first | rfl | exact hallow.elim | exact ho.elim | cases h

lemma lands_quiet (hP : Keeps P C) (hw : (outline P).Holds (log, g) w) (hr : r ≠ .waiter)
    (hst : (outline P).At (log, g) w.shared i ⟨r, .act o k⟩ st) (ho : Quiet o)
    (hsem : sem fault o w.shared = .done x s) :
    (outline P).Lands (log, g) (⟨i, r, o, x⟩ :: log, g) w i r ((protoOf r).after st o x) s := by
  obtain ⟨hflag, hcount⟩ := ho.same hsem
  have hnot : ¬ Stores (⟨i, r, o, x⟩ : Entry Op Op.Ans Role) := by
    rintro ⟨-, rfl⟩
    exact ho
  have hne : o ≠ .countRead := by
    rintro rfl
    exact ho
  obtain ⟨hnodup, hkept⟩ := hw.always
  refine ⟨⟨?_, ?_⟩, ?_, fun j th st' hj hth hst' => ?_⟩
  · rwa [storers_cons_of_not hnot]
  · rw [hflag, hcount]
    exact hP.quiet hkept hnot hne
  · cases r with
    | waiter => exact absurd rfl hr
    | reader =>
      intro hbefore
      rw [storers_cons_of_not hnot]
      exact hst.here (ho.before hst.follows.1 hbefore)
    | exit => trivial
  · exact here_other hst' (fun _ => rfl) fun h => absurd h hnot

lemma lands_reader (hP : Keeps P C) (hw : (outline P).Holds (log, g) w) (hplaced : Placed (w, log))
    (hc : C (w, log) (.run i fault)) (hi : w.threads[i]? = some ⟨.reader, .act o k⟩)
    (hst : (outline P).At (log, g) w.shared i ⟨.reader, .act o k⟩ st)
    (hsem : sem fault o w.shared = .done x s) :
    (outline P).Lands (log, g) (⟨i, .reader, o, x⟩ :: log, g) w i .reader
      ((caller 1).after st o x) s := by
  have hallow : (caller 1).allow st o := hst.follows.1
  cases o
  case storeFlag v =>
    cases st <;> first | exact hallow.elim | skip
    obtain rfl : v = 1 := hallow
    obtain ⟨-, rfl⟩ := Outcome.done.inj hsem
    have hnew : i ∉ storers log := hst.here rfl
    have hstores : Stores (⟨i, .reader, .storeFlag 1, x⟩ : Entry Op Op.Ans Role) := ⟨rfl, rfl⟩
    have habout : w.AboutTo i .reader (.storeFlag 1) := (Pool.aboutTo_iff hi).2 ⟨rfl, rfl⟩
    refine ⟨⟨?_, ?_⟩, fun h => (by cases h), fun j th st' hj hth hst' => ?_⟩
    · rw [storers_cons hstores]
      exact List.nodup_cons.2 ⟨hnew, hw.always.1⟩
    · exact hP.reader (v := (w, log)) x hw hplaced hc habout hnew
    · exact here_other hst' (fun _ => rfl) fun _ => hj.symm
  case copyMessage | wakeUp | release => exact lands_quiet hP hw (by decide) hst trivial hsem
  all_goals cases st <;> exact hallow.elim

lemma lands_exit (hP : Keeps P C) (hw : (outline P).Holds (log, g) w)
    (hc : C (w, log) (.run i fault)) (hi : w.threads[i]? = some ⟨.exit, .act o k⟩)
    (hst : (outline P).At (log, g) w.shared i ⟨.exit, .act o k⟩ st)
    (hsem : sem fault o w.shared = .done x s) :
    (outline P).Lands (log, g) (⟨i, .exit, o, x⟩ :: log, g) w i .exit
      ((caller 2).after st o x) s := by
  have hallow : (caller 2).allow st o := hst.follows.1
  cases o
  case storeFlag v =>
    cases st <;> first | exact hallow.elim | skip
    obtain rfl : v = 2 := hallow
    obtain ⟨-, rfl⟩ := Outcome.done.inj hsem
    have hnot : ¬ Stores (⟨i, .exit, .storeFlag 2, x⟩ : Entry Op Op.Ans Role) := fun h => by cases h.1
    have habout : w.AboutTo i .exit (.storeFlag 2) := (Pool.aboutTo_iff hi).2 ⟨rfl, rfl⟩
    have hkept : P log g 2 w.shared.readCount := hP.exit (v := (w, log)) hw hc habout
    refine ⟨⟨?_, hP.quiet hkept hnot (by simp)⟩, trivial, fun j th st' hj hth hst' => ?_⟩
    · rw [storers_cons_of_not hnot]
      exact hw.always.1
    · exact here_other hst' (fun _ => rfl) fun h => absurd h hnot
  case copyMessage | wakeUp | release => exact lands_quiet hP hw (by decide) hst trivial hsem
  all_goals cases st <;> exact hallow.elim

lemma Keeps.logged (hP : Keeps P C) :
    (outline P).Logged (machine .waitQueueModule) fun v l => C v l ∧ Placed v where
  act {log d w i fault r st o k x s} hw hc hi hst hready hsem := by
    refine ⟨by cases r <;> trivial, ?_⟩
    cases r with
    | waiter => exact ⟨_, lands_waiter hP hw hst hsem⟩
    | reader => exact ⟨d, lands_reader hP hw hc.2 hc.1 hi hst hsem⟩
    | exit => exact ⟨d, lands_exit hP hw hc.1 hi hst hsem⟩
  again {_ _ _ r st a p} hst hagain := by
    have hend : EndsOf r st a := hst.follows
    cases r <;> cases a <;> simp only [machine, reduceCtorEq] at hagain
    · obtain rfl := Option.some.inj hagain
      obtain rfl : st = .check := by
        cases st <;> first | rfl | exact hend.elim | cases hend
      exact follows_waitFunction .waitQueueModule
    · obtain rfl := Option.some.inj hagain
      obtain rfl : st = .prepare := by
        cases st <;> first | rfl | exact hend.elim
      exact follows_waitLoop
  event {log d w n s ths} hw hc hevent := by
    refine ⟨d, ?_⟩
    simp only [machine, Option.ite_none_left_eq_some] at hevent
    obtain ⟨-, hevent⟩ := hevent
    cases n with
    | write user fault =>
      obtain ⟨rfl, rfl⟩ := Prod.mk.inj (Option.some.inj hevent)
      exact Outline.admits_nil hw.always fun _ _ _ _ hst => hst.here
    | read offset =>
      obtain ⟨rfl, rfl⟩ := Prod.mk.inj (Option.some.inj hevent)
      exact Outline.admits_single .before hw.always (fun _ _ _ _ hst => hst.here)
        ⟨follows_reader offset, fun _ => not_mem_storers hc.2.lt⟩
    | rmmod =>
      obtain ⟨rfl, rfl⟩ := Prod.mk.inj (Option.some.inj hevent)
      exact Outline.admits_single .before hw.always (fun _ _ _ _ hst => hst.here)
        ⟨follows_exit, trivial⟩

lemma placed_of_reach {v : World × Log} (hv : system.Reach C v) : Placed v where
  waiter :=
    Machine.role_of_reach (C := fun _ _ => True) (fun w (h : Loaded _ w) => by rw [h.threads]; rfl)
      (Machine.reach_of_traced (fun _ _ _ => trivial) hv)
  lt := Machine.thread_lt_of_reach hv

lemma Keeps.holds_of_reach (hP : Keeps P C) {v : World × Log} (hv : system.Reach C v) :
    ∃ g, (outline P).Holds (v.2, g) v.1 := by
  refine hP.logged.holds_of_reach ?_ (hv.strengthen fun _ => placed_of_reach)
  rintro ⟨s, ths⟩ ⟨rfl, rfl⟩
  have hwaiting : Waiting .check := by simp [Waiting]
  exact ⟨.check, Outline.holds_single ⟨List.nodup_nil, hP.init⟩
    (show (outline P).At _ _ _ _ .check from
      ⟨follows_waitFunction .waitQueueModule, rfl, rfl, hwaiting⟩)⟩

end Sound

/-! ## Every event has a call -/

/-- There is a call that has stored its 1 and is not one of these. -/
def Spare (log : Log) (calls : List ℕ) : Prop := ∃ i ∈ storers log, i ∉ calls

/-- What holds of a log whose increments have been assigned to these calls. -/
structure Counted (log : Log) (g : Stage) (flag : Int) (count : UInt32) (calls : List ℕ) :
    Prop where
  assigned : Assigned log calls
  total : count = .ofNat calls.length
  values : flag = 0 ∨ flag = 1 ∨ flag = 2
  /-- The thread has seen the flag, and nobody else clears it. -/
  seen : g = .finish ∨ g = .test → flag ≠ 0
  /-- The event that the thread is about to count, or will count, has a call. -/
  spare : g = .count ∨ flag = 1 ∧ g ≠ .clear → Spare log calls

section Count

variable {log : Log} {g : Stage} {flag : Int} {count : UInt32} {calls : List ℕ} {i : ℕ}
  {e : Entry Op Op.Ans Role}

lemma Spare.cons (h : Spare log calls) : Spare (e :: log) calls := by
  obtain ⟨i, hi, hcalls⟩ := h
  exact ⟨i, mem_storers_cons hi, hcalls⟩

namespace Counted

lemma init : Counted [] .check 0 0 [] :=
  ⟨.nil, rfl, .inl rfl, by simp, by simp⟩

lemma quiet (h : Counted log g flag count calls) (he : e.op ≠ .countRead) :
    Counted (e :: log) g flag count calls :=
  ⟨h.assigned.other he, h.total, h.values, h.seen, fun hg => (h.spare hg).cons⟩

/-- The store of a call of `my_read`. -/
lemma store (h : Counted log g flag count calls) (hi : i ∉ storers log)
    (x : (Op.storeFlag 1).Ans) :
    Counted (⟨i, .reader, .storeFlag 1, x⟩ :: log) g 1 count calls := by
  refine ⟨h.assigned.other (by simp), h.total, .inr (.inl rfl), fun _ => by decide, fun _ => ?_⟩
  refine ⟨i, ?_, fun hmem => hi (h.assigned.subset hmem)⟩
  rw [storers_cons ⟨rfl, rfl⟩]
  exact List.mem_cons_self

lemma exit (h : Counted log g flag count calls) : Counted log g 2 count calls := by
  refine ⟨h.assigned, h.total, .inr (.inr rfl), fun _ => by decide, ?_⟩
  rintro (hg | ⟨hflag, -⟩)
  · exact h.spare (.inl hg)
  · exact absurd hflag (by decide)

/-- The steps of the wait thread that do not count. -/
lemma move {g' : Stage} (h : Counted log g flag count calls) (he : e.op ≠ .countRead)
    (hseen : g' = .finish ∨ g' = .test → flag ≠ 0)
    (hspare : g' = .count ∨ flag = 1 ∧ g' ≠ .clear → g = .count ∨ flag = 1 ∧ g ≠ .clear) :
    Counted (e :: log) g' flag count calls :=
  ⟨h.assigned.other he, h.total, h.values, hseen, fun hg => (h.spare (hspare hg)).cons⟩

/-- The increment. -/
lemma increment (h : Counted log .count flag count calls) (he : e.op = .countRead) :
    ∃ calls', Counted (e :: log) .clear flag (count + 1) calls' := by
  obtain ⟨i, hi, hother⟩ := h.spare (.inl rfl)
  refine ⟨i :: calls, h.assigned.count he hi hother, ?_, h.values, by simp, by simp⟩
  rw [h.total, List.length_cons, UInt32.ofNat_add]
  rfl

/-- The store of 0. -/
lemma clear (h : Counted log .clear flag count calls) (he : e.op ≠ .countRead) :
    Counted (e :: log) .check 0 count calls :=
  ⟨h.assigned.other he, h.total, .inl rfl, by simp, by simp⟩

/-- The steps of the wait thread. -/
lemma waiter {g' : Stage} {s s' : State} {o : Op} {x : o.Ans}
    (h : Counted log g s.flag s.readCount calls) (hstep : WaiterStep s g o g' s') :
    ∃ calls', Counted (⟨i, .waiter, o, x⟩ :: log) g' s'.flag s'.readCount calls' := by
  cases hstep with
  | count => exact h.increment rfl
  | clear => exact ⟨calls, h.clear (by simp)⟩
  | other ho hflag hcount hg hg' hseen htest =>
    rw [hflag, hcount]
    refine ⟨calls, h.move ho (fun hafter => ?_) ?_⟩
    · rcases hseen hafter with hseen | hfinish
      · exact hseen
      · exact h.seen (.inl hfinish)
    · rintro (hafter | ⟨hone, -⟩)
      · -- it has seen neither 0 nor 2
        obtain ⟨rfl, htwo⟩ := htest hafter
        have hzero : s.flag ≠ 0 := h.seen (.inr rfl)
        exact .inr ⟨(h.values.resolve_left hzero).resolve_right htwo, hg⟩
      · exact .inr ⟨hone, hg⟩

end Counted

end Count

lemma keeps_counted :
    Keeps (fun log g flag count => ∃ calls, Counted log g flag count calls) fun _ _ => True where
  init := ⟨[], .init⟩
  waiter := fun ⟨_, h⟩ hstep => h.waiter hstep
  reader x hv _ _ _ hi := by
    obtain ⟨calls, h⟩ := hv.always.2
    exact ⟨calls, h.store hi x⟩
  exit hv _ _ := by
    obtain ⟨calls, h⟩ := hv.always.2
    exact ⟨calls, h.exit⟩
  quiet := fun ⟨calls, h⟩ _ hcount => ⟨calls, h.quiet hcount⟩

/-- **No event without a call, and none for two.** In every interleaving `read_count` is at most
the number of calls of `my_read` that have stored their 1, and each increment can be given such
a call, which has stored before it and is given to no other increment.  With fewer than 2^32 such
calls `read_count` is the number of the increments. -/
theorem read_count_le {v : World × Log} (hv : system.Reachable v) :
    (storers v.2).Nodup ∧ v.1.shared.readCount.toNat ≤ (storers v.2).length ∧
      (∃ calls, Assigned v.2 calls ∧ calls.Nodup ∧ calls.length = increments v.2) ∧
      ((storers v.2).length < 2 ^ 32 → v.1.shared.readCount.toNat = increments v.2) := by
  obtain ⟨g, hholds⟩ := keeps_counted.holds_of_reach hv
  obtain ⟨hnodup, calls, h⟩ := hholds.always
  have hle : increments v.2 ≤ (storers v.2).length := h.assigned.increments_le
  have hcount : v.1.shared.readCount.toNat = increments v.2 % 2 ^ 32 := by
    rw [h.total, ← h.assigned.length_eq]
    exact UInt32.toNat_ofNat'
  refine ⟨hnodup, ?_, ⟨calls, h.assigned, h.assigned.nodup, h.assigned.length_eq⟩, fun hlt => ?_⟩
  · rw [hcount]
    exact (Nat.mod_le _ _).trans hle
  · rw [hcount, Nat.mod_eq_of_lt (hle.trans_lt hlt)]

lemma reach_loaded (C : World × Log → Move (Option ℕ) Event → Prop) :
    system.Reach C (loaded .waitQueueModule, []) :=
  .init ⟨⟨rfl, rfl⟩, rfl⟩

/-- `my_read` has stored its 1 twice, and the thread has counted once. -/
theorem read_count_le_two :
    ∃ v, system.Reachable v ∧ (storers v.2).length = 2 ∧ increments v.2 = 1 ∧
      v.1.shared.readCount.toNat ≤ (storers v.2).length := by
  obtain ⟨v, hv, hstorers, hincrements⟩ := System.exists_reachable (S := system)
    (P := fun v => (storers v.2).length = 2 ∧ increments v.2 = 1)
    [.event (.write [104, 105] none), .event (.read 0), .event (.read 0),
      .run 1 none, .run 1 none, .run 2 none, .run 2 none, .run 0 none, .run 0 none, .run 0 none]
    (reach_loaded _) (by decide +kernel)
  exact ⟨v, hv, hstorers, hincrements, (read_count_le hv).2.1⟩

/-! ## Events that are lost -/

/-- `hello_exit` does not store its 2, and no `my_read` stores its 1 while the wait thread is
about to clear the flag. -/
def Undisturbed (v : World × Log) : Move (Option ℕ) Event → Prop
  | .run i _ =>
      ¬ v.1.AboutTo i .exit (.storeFlag 2) ∧
        (v.1.AboutTo i .reader (.storeFlag 1) →
          ∀ th ∈ v.1.threads, th.role = .waiter → th.nextOp ≠ some (.storeFlag 0))
  | .event _ => True

/-- All stores are answered, or the last one still will be. -/
def Pending (log : Log) (g : Stage) (flag : Int) (_ : UInt32) : Prop :=
  Answered log ∨ flag = 1 ∧ g ≠ .clear

section Lost

variable {log : Log} {g : Stage} {w : World}

/-- The wait thread at the stage before the store of 0. -/
lemma nextOp_of_clear {P : Log → Stage → Int → UInt32 → Prop}
    (hw : (outline P).Holds (log, .clear) w) (hplaced : Placed (w, log)) :
    ∃ th ∈ w.threads, th.role = .waiter ∧ th.nextOp = some (.storeFlag 0) := by
  obtain ⟨p, st, hth, hst⟩ := hw.of_role hplaced.waiter
  obtain ⟨-, rfl, -⟩ := hst.here
  refine ⟨_, hth, rfl, ?_⟩
  cases p with
  | ret a => exact (Prog.follows_ret.1 hst.follows).elim
  | act o k =>
    have hallow : Stage.allow .waitQueueModule .clear o := hst.follows.1
    cases o <;> first | exact hallow.elim | skip
    obtain rfl := hallow
    rfl

lemma keeps_pending : Keeps Pending Undisturbed where
  init := .inl answered_nil
  waiter {log g g' i o x s s'} h hstep := by
    have hnot : ¬ Stores (⟨i, .waiter, o, x⟩ : Entry Op Op.Ans Role) := fun h => by cases h.1
    cases hstep with
    | count => exact .inl (answered_cons.2 (.inl rfl))
    | clear =>
      rcases h with h | ⟨-, hclear⟩
      · exact .inl (answered_cons.2 (.inr ⟨hnot, h⟩))
      · exact absurd rfl hclear
    | other ho hflag hcount hg hg' hseen htest =>
      rw [hflag]
      rcases h with h | ⟨hone, -⟩
      · exact .inl (answered_cons.2 (.inr ⟨hnot, h⟩))
      · exact .inr ⟨hone, hg'⟩
  reader {v g i fault} x hv hplaced hc habout hi := by
    refine .inr ⟨rfl, ?_⟩
    rintro rfl
    obtain ⟨th, hth, hrole, hnext⟩ := nextOp_of_clear hv hplaced
    exact hc.2 habout th hth hrole hnext
  exit _ hc habout := absurd habout hc.1
  quiet h hstores _ := h.imp_left fun h => answered_cons.2 (.inr ⟨hstores, h⟩)

end Lost

/-- **No event is lost in a run without the race.** When no `my_read` stores its 1 between the
increment and the store of 0, and `hello_exit` has not stored its 2, then each store of a 1 has
been followed by an increment whenever the flag is 0, and so whenever the wait thread has to
wait for another store. -/
theorem answered_of_undisturbed {v : World × Log} (hv : system.Reach Undisturbed v)
    (hflag : v.1.shared.flag = 0) : Answered v.2 := by
  obtain ⟨g, hholds⟩ := keeps_pending.holds_of_reach hv
  rcases hholds.always.2 with h | ⟨hone, -⟩
  · exact h
  · exact absurd (hflag.symm.trans hone) (by decide)

instance (v : World × Log) : (l : Move (Option ℕ) Event) → Decidable (Undisturbed v l)
  | .run _ _ => inferInstanceAs (Decidable (_ ∧ _))
  | .event _ => inferInstanceAs (Decidable True)

/-- The thread has counted an event and waits for the next one. -/
theorem answered_of_undisturbed_once :
    ∃ v, system.Reach Undisturbed v ∧ Blocked .waitQueueModule v.1 ∧ v.1.shared.flag = 0 ∧
      storers v.2 = [1] ∧ Answered v.2 := by
  obtain ⟨v, hv, hblocked, hflag, hstorers⟩ := System.exists_reach (S := system)
    (P := fun v => Blocked .waitQueueModule v.1 ∧ v.1.shared.flag = 0 ∧ storers v.2 = [1])
    (sleepThenRead ++ turns 0 12) (reach_loaded Undisturbed) (by decide +kernel)
    (by decide +kernel)
  exact ⟨v, hv, hblocked, hflag, hstorers, answered_of_undisturbed hv hflag⟩

/-- **An event is lost.** The second `my_read` stores its 1 between the increment for the first one
and the store of 0: the thread has to wait, the flag is 0, both calls have returned, and there is
no increment after the second store. -/
theorem second_event_lost :
    ∃ v, system.Reachable v ∧ Blocked .waitQueueModule v.1 ∧ v.1.shared.flag = 0 ∧
      storers v.2 = [2, 1] ∧ increments v.2 = 1 ∧ ¬ Answered v.2 :=
  System.exists_reachable
    (sleepThenRead ++ [.event (.read 0)] ++ turns 0 7 ++ turns 2 3 ++ turns 0 5)
    (reach_loaded _) (by decide +kernel)

end KernelDriverLab.WaitQueue
