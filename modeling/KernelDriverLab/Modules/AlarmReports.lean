import KernelDriverLab.Lib.Trace
import KernelDriverLab.Modules.TempWatch

/-!
# The reports of temp_watch

A `wait_read` of `temp_watch.c` that returns a positive count should report an alarm: it has
copied as many bytes to its caller, and `thread_function` has stored 2 for a sample above the
threshold since the last such return.  It does not check this.  The wait also ends when a
`my_read` has stored 1, or when a signal arrives, and then nothing is copied; and two calls
that wait for the same alarm both report it.

The log of the machine of `TempWatch` says what has been copied and stored.  A call returns a
positive count just after it has stored 0, which nothing else does, so that these stores stand
for the returns.  `Separate` excludes the two ways to report what is no alarm.
-/

namespace KernelDriverLab.AlarmReports

open Lib Prog Chardev TempWatch

/-- What has been done, the latest first. -/
abbrev Log : Type := List (Entry Op Op.Ans Role)

/-- The runs of the module, with their logs. -/
def system : System (World × Log) (Move Env Event) := machine.traced (· = loaded)

/-- An operation and its answer. -/
abbrev Step : Type := (o : Op) × o.Ans

/-- What `thread_function` has done. -/
def sampled (log : Log) : List Step :=
  (log.filter fun e => e.role = .sampler).map fun e => ⟨e.op, e.ans⟩

/-- The answers of the calls of `copy_to_user` that thread `i` has made in `wait_read`: whether all
bytes of the message have been copied. -/
def copies (i : ℕ) (log : Log) : List Bool :=
  log.filterMap fun
    | ⟨j, _, .copyAlarm, copied⟩ => if j = i then some copied else none
    | _ => none

/-- A `wait_read` stores 0, its last operation, and returns a positive count. -/
def Returns (e : Entry Op Op.Ans Role) : Prop := e.op = .storeFlag 0

instance (e : Entry Op Op.Ans Role) : Decidable (Returns e) := inferInstanceAs (Decidable (_ = _))

/-- `thread_function` has taken a sample and found it above the threshold. -/
def AboveThreshold (steps : List Step) : Prop :=
  ∃ (random : UInt32) (temperature threshold : Int) (rest : List Step),
    steps = ⟨.loadThreshold, threshold⟩ :: ⟨.loadTemperature, temperature⟩ ::
      ⟨.storeTemperature temperature, ()⟩ :: ⟨.getRandomU32, random⟩ :: rest ∧
    temperature = (random.toNat % 100 : ℕ) ∧ threshold < temperature

/-- `thread_function` stores 2 for a sample above the threshold. -/
structure Alarm (e : Entry Op Op.Ans Role) (before : Log) : Prop where
  role : e.role = .sampler
  op : e.op = .storeFlag 2
  above : AboveThreshold (sampled before)

/-- There has been an alarm since the last return of a positive count. -/
def Alarmed (log : Log) : Prop :=
  ∃ since e before, log = since ++ e :: before ∧ Alarm e before ∧ ∀ c ∈ since, ¬ Returns c

/-- Each return of a positive count has been preceded by the copy of the whole message to its
caller, and by an alarm since the last such return. -/
def AllReal (log : Log) : Prop :=
  ∀ e before, e :: before <:+ log → Returns e → copies e.thread before = [true] ∧ Alarmed before

section Logs

variable {log : Log} {e : Entry Op Op.Ans Role} {i : ℕ} {r : Role} {o : Op} {x : o.Ans}

lemma sampled_cons_of_ne (hr : r ≠ .sampler) : sampled (⟨i, r, o, x⟩ :: log) = sampled log := by
  simp [sampled, hr]

lemma sampled_cons : sampled (⟨i, .sampler, o, x⟩ :: log) = ⟨o, x⟩ :: sampled log := by
  simp [sampled]

lemma copies_cons_of_ne (h : e.thread ≠ i ∨ e.op ≠ .copyAlarm) :
    copies i (e :: log) = copies i log := by
  obtain ⟨j, r, o, x⟩ := e
  cases o
  case copyAlarm =>
    have hne : j ≠ i := h.resolve_right fun hop => hop rfl
    simp [copies, hne]
  all_goals rfl

lemma copies_cons {copied : Bool} :
    copies i (⟨i, r, .copyAlarm, copied⟩ :: log) = copied :: copies i log := by
  simp [copies]

/-- A thread that is not in the log has copied nothing. -/
lemma copies_eq_nil (h : ∀ e ∈ log, e.thread ≠ i) : copies i log = [] := by
  induction log with
  | nil => rfl
  | cons e log ih =>
    rw [copies_cons_of_ne (.inl (h e List.mem_cons_self))]
    exact ih fun e' he' => h e' (List.mem_cons_of_mem _ he')

lemma alarmed_cons : Alarmed (e :: log) ↔ Alarm e log ∨ ¬ Returns e ∧ Alarmed log := by
  constructor
  · rintro ⟨_ | ⟨c, since⟩, a, before, heq, halarm, hsince⟩
    · obtain ⟨rfl, rfl⟩ := List.cons.inj heq
      exact .inl halarm
    · obtain ⟨rfl, rfl⟩ := List.cons.inj heq
      exact .inr ⟨hsince e List.mem_cons_self, since, a, before, rfl, halarm,
        fun c hc => hsince c (List.mem_cons_of_mem _ hc)⟩
  · rintro (halarm | ⟨he, since, a, before, rfl, halarm, hsince⟩)
    · exact ⟨[], e, log, rfl, halarm, fun _ hc => by cases hc⟩
    · refine ⟨e :: since, a, before, rfl, halarm, fun c hc => ?_⟩
      rcases List.mem_cons.1 hc with rfl | hc
      · exact he
      · exact hsince c hc

lemma Alarmed.cons (h : Alarmed log) (he : ¬ Returns e) : Alarmed (e :: log) :=
  alarmed_cons.2 (.inr ⟨he, h⟩)

lemma allReal_nil : AllReal [] := by
  intro e before h
  simp at h

lemma allReal_cons :
    AllReal (e :: log) ↔
      (Returns e → copies e.thread log = [true] ∧ Alarmed log) ∧ AllReal log := by
  constructor
  · intro h
    exact ⟨h e log (List.suffix_refl _), fun e' before hsuffix =>
      h e' before (hsuffix.trans (List.suffix_cons _ _))⟩
  · rintro ⟨he, h⟩ e' before hsuffix
    rcases List.suffix_cons_iff.1 hsuffix with heq | hsuffix
    · obtain ⟨rfl, rfl⟩ := List.cons.inj heq
      exact he
    · exact h e' before hsuffix

/-- There are no more reports than alarms, and fewer when there has been an alarm since the last
report. -/
lemma AllReal.returns_le (h : AllReal log) :
    log.countP (Returns ·) ≤ log.countP (·.op = .storeFlag 2) ∧
      (Alarmed log → log.countP (Returns ·) < log.countP (·.op = .storeFlag 2)) := by
  induction log with
  | nil =>
    refine ⟨le_rfl, ?_⟩
    rintro ⟨since, e, before, heq, -⟩
    simp at heq
  | cons e log ih =>
    obtain ⟨hreal, hrest⟩ := allReal_cons.1 h
    obtain ⟨hle, hlt⟩ := ih hrest
    simp only [List.countP_cons, decide_eq_true_eq]
    by_cases he : Returns e
    · have hop : e.op ≠ .storeFlag 2 := fun hop => by cases hop.symm.trans he
      have hfewer := hlt (hreal he).2
      rw [if_pos he, if_neg hop]
      refine ⟨hfewer, fun halarmed => ?_⟩
      rcases alarmed_cons.1 halarmed with halarm | ⟨hnot, -⟩
      · exact absurd halarm.op hop
      · exact absurd he hnot
    · rw [if_neg he]
      refine ⟨by omega, fun halarmed => ?_⟩
      rcases alarmed_cons.1 halarmed with halarm | ⟨-, halarmed⟩
      · rw [if_pos halarm.op]
        omega
      · have hfewer := hlt halarmed
        omega

end Logs

/-! ## Where the threads are -/

/-- How far a thread is. -/
inductive Stage where
  /-- `thread_function` has taken these steps. -/
  | sampling (steps : List Step)
  | device
  -- `wait_read`: before the end of its wait, before its test of the flag, before the copy,
  -- before it clears the flag, and after a copy that has failed or the store of 0
  | before | test | copy | clear | failed | cleared

/-- The operations of a stage. -/
@[simp] def Stage.allow : Stage → Op → Prop
  | .sampling _, .kthreadShouldStop | .sampling _, .getRandomU32 | .sampling _, .loadTemperature
  | .sampling _, .storeTemperature _ | .sampling _, .loadThreshold | .sampling _, .wakeUp
  | .sampling _, .msleep _ => True
  | .sampling steps, .storeFlag v => v = 2 ∧ AboveThreshold steps
  | .device, .copyMessage _ | .device, .wakeUp => True
  | .device, .storeFlag v => v = 1
  | .before, .waitEvent | .test, .loadFlag | .copy, .copyAlarm => True
  | .clear, .storeFlag v => v = 0
  | _, _ => False

/-- The stage after an operation. -/
@[simp] def Stage.after : Stage → (o : Op) → o.Ans → Stage
  | .sampling steps, o, x => .sampling (⟨o, x⟩ :: steps)
  | .before, .waitEvent, _ => .test
  | .test, .loadFlag, flag => if flag = 2 then .copy else .clear
  | .copy, .copyAlarm, copied => if copied = true then .clear else .failed
  | .clear, .storeFlag _, _ => .cleared
  | st, _, _ => st

/-- A thread that has just stored the temperature has stored this one. -/
@[simp] def Current : List Step → Int → Prop
  | ⟨.storeTemperature v, _⟩ :: _, temperature => temperature = v
  | _, _ => True

/-- `thread_function` loads the temperature that it has stored. -/
@[simp] def Stage.expect : Stage → (o : Op) → o.Ans → Prop
  | .sampling steps, .loadTemperature, temperature => Current steps temperature
  | _, _, _ => True

/-- The stages of the threads. -/
@[simps]
def proto : Protocol Op Op.Ans Stage where
  allow := Stage.allow
  expect := Stage.expect
  after := Stage.after

/-- The stages in which a round can end, and the values of the calls of `wait_read`. -/
@[simp] def Ends : Stage → Option Int → Prop
  | .sampling _, _ | .device, _ => True
  | .before, a => a = some 0
  | .failed, a => a = some (-EFAULT)
  | .cleared, a => a = some alarm.length
  | _, _ => False

lemma follows_threadFunction (steps : List Step) :
    threadFunction.Follows proto (.sampling steps) Ends := by
  -- it stores 2 when it has found the temperature above the threshold
  suffices h : ∀ (random : UInt32) (x : Unit) (threshold : Int), threshold < random.toNat % 100 →
      AboveThreshold (⟨.loadThreshold, threshold⟩ :: ⟨.loadTemperature, random.toNat % 100⟩ ::
        ⟨.storeTemperature (random.toNat % 100), x⟩ :: ⟨.getRandomU32, random⟩ ::
        ⟨.kthreadShouldStop, false⟩ :: steps) by
    simpa [threadFunction, op] using h
  intro random _ threshold habove
  exact ⟨random, _, threshold, _, rfl, by simp, habove⟩

lemma follows_myRead (offset : ℕ) : (myRead offset).Follows proto .device Ends := by
  simp [myRead, op]

lemma follows_waitRead (offset : ℕ) : (waitRead offset).Follows proto .before Ends := by
  simp +contextual [waitRead, op]

/-! ## What holds where -/

/-- A `wait_read` has returned a positive count. -/
def Returned (i : ℕ) (log : Log) : Prop := ∃ e ∈ log, e.thread = i ∧ Returns e

/-- What has happened when the `wait_read` of thread `i` is at a stage. -/
@[simp] def WaitAt (i : ℕ) (log : Log) : Stage → Prop
  | .before | .test => copies i log = [] ∧ ¬ Returned i log
  | .copy => copies i log = [] ∧ ¬ Returned i log ∧ Alarmed log
  | .clear => copies i log = [true] ∧ ¬ Returned i log ∧ Alarmed log
  | .failed => ¬ Returned i log
  | .cleared => copies i log = [true] ∧ Returned i log
  | _ => False

/-- A 2 in the flag is an alarm that has not been reported, and so far all reports have been
real. -/
@[simps]
def outline : Outline Op Op.Ans Role (Option Int) State Stage (Log × Unit) where
  proto _ := proto
  ends _ := Ends
  here g j r st s := match r with
    | .sampler => j = 0 ∧ st = .sampling (sampled g.1) ∧ Current (sampled g.1) s.temperature
    | .device => st = .device
    | .wait _ => WaitAt j g.1 st
  always g s := (s.waitFlag = 2 → Alarmed g.1) ∧ AllReal g.1

/-- The thread is a `wait_read` between its test of the flag and its store of 0. -/
def PastTest (w : World) (i : ℕ) : Prop :=
  w.opAt i = some .copyAlarm ∨ w.opAt i = some (.storeFlag 0)

/-- A `wait_read` tests the flag while it is 2, and stores 0 while no other one is between its
test and its store of 0. -/
def Separate (v : World × Log) : Move Env Event → Prop
  | .run i _ =>
      (v.1.opAt i = some .loadFlag → v.1.shared.waitFlag = 2) ∧
      (v.1.opAt i = some (.storeFlag 0) → ∀ j < v.1.threads.length, j ≠ i → ¬ PastTest v.1 j)
  | .event _ => True

section Keep

variable {log : Log} {e : Entry Op Op.Ans Role} {i j : ℕ} {st : Stage}

lemma returned_cons_of_ne (h : e.thread ≠ i ∨ ¬ Returns e) :
    Returned i (e :: log) ↔ Returned i log := by
  simp only [Returned, List.mem_cons, exists_eq_or_imp, or_iff_right_iff_imp]
  rintro ⟨hthread, he⟩
  exact absurd he (h.resolve_left fun hne => hne hthread)

/-- What another thread does, unless it returns a positive count while this one is between its test
and its store of 0. -/
lemma WaitAt.cons (h : WaitAt i log st) (hthread : e.thread ≠ i)
    (he : st = .copy ∨ st = .clear → ¬ Returns e) : WaitAt i (e :: log) st := by
  have hcopies : copies i (e :: log) = copies i log := copies_cons_of_ne (.inl hthread)
  have hreturned : Returned i (e :: log) ↔ Returned i log := returned_cons_of_ne (.inl hthread)
  cases st
  case before | test => simpa [hcopies, hreturned] using h
  case copy =>
    obtain ⟨hnil, hnot, halarmed⟩ := h
    exact ⟨hcopies.trans hnil, mt hreturned.1 hnot, halarmed.cons (he (.inl rfl))⟩
  case clear =>
    obtain ⟨htrue, hnot, halarmed⟩ := h
    exact ⟨hcopies.trans htrue, mt hreturned.1 hnot, halarmed.cons (he (.inr rfl))⟩
  case failed => exact mt hreturned.1 h
  case cleared => exact ⟨hcopies.trans h.1, hreturned.2 h.2⟩
  all_goals exact h.elim

/-- The next operation of a `wait_read` between its test and its store of 0. -/
lemma pastTest_of_follows {w : World} {r : Role} {p : Driver} (hj : w.threads[j]? = some ⟨r, p⟩)
    (hf : p.Follows proto st Ends) (hst : st = .copy ∨ st = .clear) : PastTest w j := by
  cases p with
  | ret a => rcases hst with rfl | rfl <;> exact (follows_ret.1 hf).elim
  | act o k =>
    have hop : w.opAt j = some o := Pool.opAt_eq hj
    have hallow : st.allow o := hf.1
    rcases hst with rfl | rfl <;> cases o <;> first | exact hallow.elim | skip
    · exact .inl hop
    · obtain rfl := hallow
      exact .inr hop

end Keep

section Sound

variable {w : World} {log : Log} {i n : ℕ} {e : Env} {r : Role} {st : Stage} {o : Op}
  {k : o.Ans → Driver} {x : o.Ans} {s : State}

/-- Only the stores change the flag and the temperature. -/
lemma same_of_sem (hsem : sem e r o w.shared = .done x s) :
    ((∀ v, o ≠ .storeFlag v) → s.waitFlag = w.shared.waitFlag) ∧
      ((∀ v, o ≠ .storeTemperature v) → s.temperature = w.shared.temperature) := by
  cases o <;> cases r <;> obtain ⟨-, rfl⟩ := Outcome.done.inj hsem
  all_goals
    refine ⟨fun hstore => ?_, fun hstore => ?_⟩ <;> first | rfl | exact absurd rfl (hstore _)

/-- An operation lands when its entry in the log is right, and no other call is disturbed. -/
lemma lands_of (hw : outline.Holds (log, ()) w)
    (hflag : s.waitFlag = 2 → Alarmed (⟨i, r, o, x⟩ :: log))
    (hreal : o = .storeFlag 0 → (copies i log = [true] ∧ Alarmed log) ∧
      ∀ j < w.threads.length, j ≠ i → ¬ PastTest w j)
    (hsampler : r = .sampler → i = 0)
    (htemperature : r ≠ .sampler → s.temperature = w.shared.temperature)
    (hown : outline.here (⟨i, r, o, x⟩ :: log, ()) i r st s) :
    outline.Lands (log, ()) (⟨i, r, o, x⟩ :: log, ()) w i r st s := by
  refine ⟨⟨hflag, allReal_cons.2 ⟨fun he => (hreal he).1, hw.always.2⟩⟩, hown, ?_⟩
  rintro j ⟨r', p⟩ st' hj hth hst
  cases r' with
  | sampler =>
    obtain ⟨hpos, hsteps, hcurrent⟩ := hst.here
    have hr : r ≠ .sampler := fun hr => hj (hpos.trans (hsampler hr).symm)
    have hsampled : sampled (⟨i, r, o, x⟩ :: log) = sampled log := sampled_cons_of_ne hr
    refine ⟨hpos, hsteps.trans (congrArg Stage.sampling hsampled.symm), ?_⟩
    show Current (sampled _) s.temperature
    rw [hsampled, htemperature hr]
    exact hcurrent
  | device => exact hst.here
  | wait n =>
    have hlt : j < w.threads.length := (List.getElem?_eq_some_iff.1 hth).1
    refine WaitAt.cons hst.here hj.symm fun hpast he => ?_
    exact (hreal he).2 j hlt hj (pastTest_of_follows hth hst.follows hpast)

/-- An operation that leaves the flag alone keeps an alarm. -/
lemma alarmed_of_sem (hw : outline.Holds (log, ()) w) (hstore : ∀ v, o ≠ .storeFlag v)
    (hsem : sem e r o w.shared = .done x s) (hflag : s.waitFlag = 2) :
    Alarmed (⟨i, r, o, x⟩ :: log) := by
  rw [(same_of_sem hsem).1 hstore] at hflag
  exact (hw.always.1 hflag).cons (hstore 0)

/-- What `thread_function` has stored is current. -/
lemma here_sampler (hsem : sem e .sampler o w.shared = .done x s) :
    outline.here (⟨0, .sampler, o, x⟩ :: log, ()) 0 .sampler
      (Stage.after (.sampling (sampled log)) o x) s := by
  refine ⟨rfl, congrArg Stage.sampling sampled_cons.symm, ?_⟩
  show Current (sampled _) s.temperature
  rw [sampled_cons]
  cases o
  case storeTemperature v =>
    obtain ⟨-, rfl⟩ := Outcome.done.inj hsem
    rfl
  all_goals trivial

lemma lands_sampler (hw : outline.Holds (log, ()) w)
    (hst : outline.At (log, ()) w.shared i ⟨.sampler, .act o k⟩ st)
    (hsem : sem e .sampler o w.shared = .done x s) :
    st.expect o x ∧ outline.Lands (log, ()) (⟨i, .sampler, o, x⟩ :: log, ()) w i .sampler
      (st.after o x) s := by
  have hallow : st.allow o := hst.follows.1
  obtain ⟨rfl, rfl, hcurrent⟩ := hst.here
  have hown : outline.here (⟨0, .sampler, o, x⟩ :: log, ()) 0 .sampler
      (Stage.after (.sampling (sampled log)) o x) s := here_sampler hsem
  refine ⟨?_, ?_⟩
  · cases o
    case loadTemperature =>
      obtain ⟨rfl, -⟩ := Outcome.done.inj hsem
      exact hcurrent
    all_goals trivial
  · by_cases hstore : ∃ v, o = .storeFlag v
    · obtain ⟨v, rfl⟩ := hstore
      obtain ⟨rfl, habove⟩ := hallow
      refine lands_of hw (fun _ => alarmed_cons.2 (.inl ⟨rfl, rfl, habove⟩)) ?_ (fun _ => rfl)
        (fun hr => absurd rfl hr) hown
      rintro ⟨⟩
    · refine lands_of hw (alarmed_of_sem hw (not_exists.1 hstore) hsem) ?_ (fun _ => rfl)
        (fun hr => absurd rfl hr) hown
      exact fun ho => absurd ⟨0, ho⟩ hstore

lemma lands_device (hw : outline.Holds (log, ()) w)
    (hst : outline.At (log, ()) w.shared i ⟨.device, .act o k⟩ st)
    (hsem : sem e .device o w.shared = .done x s) :
    outline.Lands (log, ()) (⟨i, .device, o, x⟩ :: log, ()) w i .device (st.after o x) s := by
  have hallow : st.allow o := hst.follows.1
  obtain rfl : st = .device := hst.here
  have hown : Stage.after .device o x = .device := by cases o <;> rfl
  have htemperature : s.temperature = w.shared.temperature := by
    refine (same_of_sem hsem).2 ?_
    rintro v rfl
    exact hallow
  by_cases hstore : ∃ v, o = .storeFlag v
  · obtain ⟨v, rfl⟩ := hstore
    obtain rfl : v = 1 := hallow
    obtain ⟨-, rfl⟩ := Outcome.done.inj hsem
    exact lands_of hw (fun hflag => by cases hflag) (fun ho => by cases ho) (fun hr => by cases hr)
      (fun _ => htemperature) hown
  · exact lands_of hw (alarmed_of_sem hw (not_exists.1 hstore) hsem)
      (fun ho => absurd ⟨0, ho⟩ hstore) (fun hr => by cases hr) (fun _ => htemperature) hown

/-- An operation of a `wait_read` that is not its store of 0 and leaves the flag alone. -/
lemma lands_wait (hw : outline.Holds (log, ()) w) (hstore : ∀ v, o ≠ .storeFlag v)
    (htemperature : ∀ v, o ≠ .storeTemperature v) (hsem : sem e (.wait n) o w.shared = .done x s)
    (hown : WaitAt i (⟨i, .wait n, o, x⟩ :: log) st) :
    outline.Lands (log, ()) (⟨i, .wait n, o, x⟩ :: log, ()) w i (.wait n) st s :=
  lands_of hw (alarmed_of_sem hw hstore hsem) (fun ho => absurd ho (hstore 0))
    (fun hr => by cases hr) (fun _ => (same_of_sem hsem).2 htemperature) hown

/-- It has neither copied anything nor returned a positive count, and still has not. -/
lemma nothing_cons (h : copies i log = [] ∧ ¬ Returned i log) (hcopy : o ≠ .copyAlarm)
    (hstore : o ≠ .storeFlag 0) :
    copies i (⟨i, r, o, x⟩ :: log) = [] ∧ ¬ Returned i (⟨i, r, o, x⟩ :: log) := by
  have hne : ¬ Returns (⟨i, r, o, x⟩ : Entry Op Op.Ans Role) := hstore
  exact ⟨(copies_cons_of_ne (.inr hcopy)).trans h.1, mt (returned_cons_of_ne (.inr hne)).1 h.2⟩

/-- It tests the flag, and finds an alarm there. -/
lemma lands_tested {x : Op.Ans .loadFlag} (hw : outline.Holds (log, ()) w)
    (hhere : copies i log = [] ∧ ¬ Returned i log) (hflag : w.shared.waitFlag = 2)
    (hsem : sem e (.wait n) .loadFlag w.shared = .done x s) :
    outline.Lands (log, ()) (⟨i, .wait n, .loadFlag, x⟩ :: log, ()) w i (.wait n)
      (Stage.after .test .loadFlag x) s := by
  refine lands_wait hw (by simp) (by simp) hsem ?_
  obtain ⟨rfl, rfl⟩ := Outcome.done.inj hsem
  have hafter : Stage.after .test .loadFlag w.shared.waitFlag = .copy := by simp [hflag]
  obtain ⟨hnil, hnot⟩ := nothing_cons (r := .wait n) (x := w.shared.waitFlag) hhere
    (show Op.loadFlag ≠ .copyAlarm by simp) (by simp)
  rw [hafter]
  exact ⟨hnil, hnot, (hw.always.1 hflag).cons (by simp [Returns])⟩

/-- It copies the message. -/
lemma lands_copied {x : Op.Ans .copyAlarm} (hw : outline.Holds (log, ()) w)
    (hhere : copies i log = [] ∧ ¬ Returned i log ∧ Alarmed log)
    (hsem : sem e (.wait n) .copyAlarm w.shared = .done x s) :
    outline.Lands (log, ()) (⟨i, .wait n, .copyAlarm, x⟩ :: log, ()) w i (.wait n)
      (Stage.after .copy .copyAlarm x) s := by
  obtain ⟨hnil, hnot, halarmed⟩ := hhere
  refine lands_wait hw (by simp) (by simp) hsem ?_
  have hne : ¬ Returns (⟨i, .wait n, .copyAlarm, x⟩ : Entry Op Op.Ans Role) := by simp [Returns]
  have hnot' : ¬ Returned i (⟨i, .wait n, .copyAlarm, x⟩ :: log) :=
    mt (returned_cons_of_ne (.inr hne)).1 hnot
  cases hx : x with
  | false =>
    rw [hx] at hnot'
    exact hnot'
  | true =>
    rw [hx] at hnot' hne
    refine ⟨?_, hnot', halarmed.cons hne⟩
    rw [copies_cons, hnil]

/-- It stores 0 and returns a positive count. -/
lemma lands_cleared {x : Op.Ans (.storeFlag 0)} (hw : outline.Holds (log, ()) w)
    (hhere : copies i log = [true] ∧ ¬ Returned i log ∧ Alarmed log)
    (hpast : ∀ j < w.threads.length, j ≠ i → ¬ PastTest w j)
    (hsem : sem e (.wait n) (.storeFlag 0) w.shared = .done x s) :
    outline.Lands (log, ()) (⟨i, .wait n, .storeFlag 0, x⟩ :: log, ()) w i (.wait n) .cleared s := by
  obtain ⟨htrue, -, halarmed⟩ := hhere
  obtain ⟨-, rfl⟩ := Outcome.done.inj hsem
  have hcopies : copies i (⟨i, .wait n, .storeFlag 0, x⟩ :: log) = [true] :=
    (copies_cons_of_ne (.inr (by simp))).trans htrue
  exact lands_of hw (fun hflag => by cases hflag) (fun _ => ⟨⟨htrue, halarmed⟩, hpast⟩)
    (fun hr => by cases hr) (fun _ => rfl) ⟨hcopies, _, List.mem_cons_self, rfl, rfl⟩

/-- The operations of a `wait_read`, under the condition. -/
lemma lands_waitRead (hw : outline.Holds (log, ()) w) (hc : Separate (w, log) (.run i e))
    (hi : w.threads[i]? = some ⟨.wait n, .act o k⟩)
    (hst : outline.At (log, ()) w.shared i ⟨.wait n, .act o k⟩ st)
    (hsem : sem e (.wait n) o w.shared = .done x s) :
    st.expect o x ∧ outline.Lands (log, ()) (⟨i, .wait n, o, x⟩ :: log, ()) w i (.wait n)
      (st.after o x) s := by
  have hallow : st.allow o := hst.follows.1
  have hhere : WaitAt i log st := hst.here
  have hop : w.opAt i = some o := Pool.opAt_eq hi
  cases st
  case before =>
    cases o <;> first | exact hallow.elim | skip
    exact ⟨trivial, lands_wait (e := e) hw (by simp) (by simp) hsem
      (nothing_cons hhere (by simp) (by simp))⟩
  case test =>
    cases o <;> first | exact hallow.elim | skip
    exact ⟨trivial, lands_tested (e := e) hw hhere (hc.1 hop) hsem⟩
  case copy =>
    cases o <;> first | exact hallow.elim | skip
    exact ⟨trivial, lands_copied hw hhere hsem⟩
  case clear =>
    cases o <;> first | exact hallow.elim | skip
    obtain rfl := hallow
    exact ⟨trivial, lands_cleared (e := e) hw hhere (hc.2 hop) hsem⟩
  case failed | cleared => cases o <;> exact hallow.elim
  all_goals exact hhere.elim

/-- The threads of the log are there. -/
def Placed (v : World × Log) : Prop := ∀ e ∈ v.2, e.thread < v.1.threads.length

lemma logged_outline : outline.Logged machine fun v l => Separate v l ∧ Placed v where
  act {log _ w i e r st o k x s} hw hc hi hst hready hsem := by
    cases r with
    | sampler =>
      obtain ⟨hexpect, hlands⟩ := lands_sampler hw hst hsem
      exact ⟨hexpect, (), hlands⟩
    | device =>
      have hexpect : st.expect o x := by
        obtain rfl : st = .device := hst.here
        trivial
      exact ⟨hexpect, (), lands_device hw hst hsem⟩
    | wait n =>
      obtain ⟨hexpect, hlands⟩ := lands_waitRead hw hc.1 hi hst hsem
      exact ⟨hexpect, (), hlands⟩
  again {_ _ _ r st a p} hst hagain := by
    cases r <;> cases a <;> simp only [machine, reduceCtorEq] at hagain
    obtain rfl := Option.some.inj hagain
    obtain ⟨-, rfl, -⟩ := hst.here
    exact follows_threadFunction _
  event {log _ w n s ths} hw hc hevent := by
    refine ⟨(), ?_⟩
    cases n <;> obtain ⟨rfl, rfl⟩ := Prod.mk.inj (Option.some.inj hevent)
    case waitRead offset =>
      have hnew : copies w.threads.length log = [] ∧ ¬ Returned w.threads.length log := by
        refine ⟨copies_eq_nil fun e he => (hc.2 e he).ne, ?_⟩
        rintro ⟨e, he, hthread, -⟩
        exact Nat.lt_irrefl _ (hthread ▸ hc.2 e he)
      exact Outline.admits_single .before hw.always (fun _ _ _ _ hst => hst.here)
        ⟨follows_waitRead offset, hnew⟩
    case read offset =>
      exact Outline.admits_single .device hw.always (fun _ _ _ _ hst => hst.here)
        ⟨follows_myRead offset, rfl⟩
    -- the other events do not touch the flag and the temperature
    all_goals exact Outline.admits_nil hw.always fun _ _ _ _ hst => hst.here

lemma holds_of_reach {v : World × Log} (hv : system.Reach Separate v) :
    outline.Holds (v.2, ()) v.1 := by
  have hplaced (v : World × Log) (hv : system.Reach Separate v) : Placed v :=
    Machine.thread_lt_of_reach hv
  have hinit (w : World) (hw : w = loaded) : ∃ d, outline.Holds ([], d) w := by
    subst hw
    have halways : outline.always ([], ()) loaded.shared := ⟨fun h => (by cases h), allReal_nil⟩
    exact ⟨(), Outline.holds_single halways (show outline.At _ _ _ _ (.sampling []) from
      ⟨follows_threadFunction _, rfl, rfl, trivial⟩)⟩
  obtain ⟨⟨⟩, hholds⟩ := logged_outline.holds_of_reach hinit (hv.strengthen hplaced)
  exact hholds

end Sound

/-- The calls of `wait_read` report only real alarms: a call returns a positive count just when it
stores 0; the count is the number of bytes that it has copied; and each of these returns has been
preceded by an alarm since the one before. -/
structure ReportsReal (v : World × Log) : Prop where
  returned (i : ℕ) (th : WatchThread) (n : ℕ) (hi : v.1.threads[i]? = some th)
    (hrole : th.role = .wait n) :
    (∃ r, th.result = some (some r) ∧ 0 < r) ↔ Returned i v.2
  copied (i : ℕ) (th : WatchThread) (n : ℕ) (r : Int) (hi : v.1.threads[i]? = some th)
    (hrole : th.role = .wait n) (hresult : th.result = some (some r)) (hr : 0 < r) :
    r = alarm.length ∧ copies i v.2 = [true]
  real : AllReal v.2

section Reports

variable {log : Log} {i n : ℕ} {s : State} {p : Driver} {st : Stage}

/-- A call that has returned a positive count. -/
lemma cleared_of_positive (hst : outline.At (log, ()) s i ⟨.wait n, p⟩ st) {r : Int}
    (hresult : (⟨.wait n, p⟩ : WatchThread).result = some (some r)) (hr : 0 < r) : st = .cleared := by
  have hend : Ends st (some r) := hst.ends hresult
  have hhere : WaitAt i log st := hst.here
  cases st
  case cleared => rfl
  case before =>
    obtain rfl : r = 0 := Option.some.inj hend
    exact absurd hr (Int.lt_irrefl 0)
  case failed =>
    obtain rfl : r = -EFAULT := Option.some.inj hend
    exact absurd hr (by decide)
  case sampling | device => exact hhere.elim
  all_goals exact hend.elim

/-- The call after its store of 0. -/
lemma result_of_returned (hst : outline.At (log, ()) s i ⟨.wait n, p⟩ st) (h : Returned i log) :
    (⟨.wait n, p⟩ : WatchThread).result = some (some (alarm.length : Int)) := by
  have hhere : WaitAt i log st := hst.here
  obtain rfl : st = .cleared := by
    cases st
    case cleared => rfl
    case before | test => exact absurd h hhere.2
    case copy | clear => exact absurd h hhere.2.1
    case failed => exact absurd h hhere
    all_goals exact hhere.elim
  cases p with
  | ret a =>
    obtain rfl : a = some (alarm.length : Int) := hst.follows
    rfl
  | act o k =>
    have hallow : Stage.cleared.allow o := hst.follows.1
    cases o <;> exact hallow.elim

end Reports

/-- **The reports are real.** When every `wait_read` tests the flag while it is 2, and stores 0
while no other one is between its test and its store of 0, then all reports are those of an
alarm. -/
theorem reportsReal_of_separate {v : World × Log} (hv : system.Reach Separate v) :
    ReportsReal v := by
  have hholds := holds_of_reach hv
  refine ⟨?_, ?_, hholds.always.2⟩
  · rintro i ⟨_, p⟩ n hi rfl
    obtain ⟨st, hst⟩ := hholds.threads _ _ hi
    constructor
    · rintro ⟨r, hresult, hr⟩
      obtain rfl := cleared_of_positive hst hresult hr
      exact hst.here.2
    · intro hreturned
      exact ⟨alarm.length, result_of_returned hst hreturned, by decide⟩
  · rintro i ⟨_, p⟩ n r hi rfl hresult hr
    obtain ⟨st, hst⟩ := hholds.threads _ _ hi
    obtain rfl := cleared_of_positive hst hresult hr
    have hcount : some r = some (alarm.length : Int) := hst.ends hresult
    exact ⟨Option.some.inj hcount, hst.here.1⟩

/-! ## Three runs -/

section Runs

instance (w : World) (i : ℕ) : Decidable (PastTest w i) := inferInstanceAs (Decidable (_ ∨ _))

instance (v : World × Log) : (l : Move Env Event) → Decidable (Separate v l)
  | .run _ _ => inferInstanceAs (Decidable (_ ∧ _))
  | .event _ => inferInstanceAs (Decidable True)

instance (i : ℕ) (log : Log) : Decidable (Returned i log) :=
  inferInstanceAs (Decidable (∃ e ∈ log, _))

/-- Thread `i` is the `wait_read` with the number `n`, and it has returned `r`. -/
def HasReturned (w : World) (i n : ℕ) (r : Int) : Prop :=
  w.threads[i]?.map (fun th => (th.role, th.result)) = some (.wait n, some (some r))

instance (w : World) (i n : ℕ) (r : Int) : Decidable (HasReturned w i n r) :=
  inferInstanceAs (Decidable (_ = _))

lemma reach_loaded (C : World × Log → Move Env Event → Prop) : system.Reach C (loaded, []) :=
  .init ⟨rfl, rfl⟩

/-- A `wait_read` reports a sample of 99 degrees. -/
theorem reportsReal_of_separate_raised : ∃ v, Returned 1 v.2 ∧ ReportsReal v := by
  obtain ⟨v, hv, hreturned⟩ := System.exists_reach (S := system) (P := fun v => Returned 1 v.2)
    (alarmRaised ++ turns 1 4) (reach_loaded Separate) (by decide +kernel) (by decide +kernel)
  exact ⟨v, hreturned, reportsReal_of_separate hv⟩

/-- **A report of nothing.** A `my_read` of the character device has stored 1, which ends the wait
of a `wait_read`: it returns 4, but it has copied nothing, and there has been no alarm.  And two
calls that have waited for the same alarm both return 4. -/
theorem false_report :
    (∃ v, system.Reachable v ∧ HasReturned v.1 2 0 4 ∧ copies 2 v.2 = [] ∧
      (∀ e ∈ v.2, e.op ≠ .storeFlag 2) ∧ ¬ ReportsReal v) ∧
    ∃ v, system.Reachable v ∧ HasReturned v.1 1 0 4 ∧ HasReturned v.1 2 1 4 ∧
      v.2.countP (·.op = .storeFlag 2) = 1 ∧ ¬ ReportsReal v := by
  constructor
  · obtain ⟨v, hv, hresult, hcopies, halarm, hreturned⟩ := System.exists_reachable (S := system)
      (P := fun v => HasReturned v.1 2 0 4 ∧ copies 2 v.2 = [] ∧
        (∀ e ∈ v.2, e.op ≠ .storeFlag 2) ∧ 0 < v.2.countP (Returns ·))
      ([.event (.write [97] none), .event (.read 0), .event (.waitRead 0)] ++ turns 1 3 ++ turns 2 3)
      (reach_loaded _) (by decide +kernel)
    refine ⟨v, hv, hresult, hcopies, halarm, fun h => ?_⟩
    have hzero : v.2.countP (·.op = .storeFlag 2) = 0 :=
      List.countP_eq_zero.2 (by simpa using halarm)
    have hle := h.real.returns_le.1
    omega
  · obtain ⟨v, hv, hfirst, hsecond, halarm, hreturned⟩ := System.exists_reachable (S := system)
      (P := fun v => HasReturned v.1 1 0 4 ∧ HasReturned v.1 2 1 4 ∧
        v.2.countP (·.op = .storeFlag 2) = 1 ∧ v.2.countP (Returns ·) = 2)
      ([.event (.waitRead 0)] ++ alarmRaised ++ turns 1 2 ++ turns 2 4 ++ turns 1 2)
      (reach_loaded _) (by decide +kernel)
    refine ⟨v, hv, hfirst, hsecond, halarm, fun h => ?_⟩
    have hle := h.real.returns_le.1
    omega

end Runs

end KernelDriverLab.AlarmReports
