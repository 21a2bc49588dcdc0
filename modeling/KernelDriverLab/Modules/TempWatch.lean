import KernelDriverLab.Chardev.Handlers
import KernelDriverLab.Lib.Machine

/-!
# The alarm of temp_watch

In `temp_watch.c` a kernel thread stores 2 in `wait_flag` for each sample above the
threshold, `my_read` of the character device stores 1, and `wait_read` waits until the flag
is not 0, copies the alarm message when the flag is 2, and clears the flag.  Any number of
calls run at the same time.  `wait_event_interruptible` is one step, the last look at the
flag, which a signal also allows when the flag is 0.

Three ghost fields of the state follow an alarm: `undelivered` until a `wait_read` has
copied it, `awaited` until a `wait_read` has completed its wait, and `owed` the calls that
were the first to do so after an alarm.  `AlarmsKept` says that the flag is 2 where it
matters, and `Ordered` is a condition on the order of the stores to the flag under which
it always is.
-/

namespace KernelDriverLab.TempWatch

open Lib Prog Chardev

/-- The operations on the temperature, on the threshold and on the flag. -/
inductive Op where
  | kthreadShouldStop
  | getRandomU32
  | loadTemperature
  | storeTemperature (v : Int)
  | loadThreshold
  | loadFlag
  | storeFlag (v : ℕ)
  /-- `wake_up_interruptible(&wq)` -/
  | wakeUp
  | msleep (ms : ℕ)
  /-- `wait_event_interruptible(wq, wait_flag != 0)` -/
  | waitEvent
  /-- The `copy_to_user` of `wait_read`; the answer is whether all bytes were copied. -/
  | copyAlarm
  /-- The part of `my_read` that works on the message. -/
  | copyMessage (offset : ℕ)
deriving DecidableEq, Repr

/-- What an operation answers. -/
@[reducible] def Op.Ans : Op → Type
  | kthreadShouldStop | copyAlarm => Bool
  | getRandomU32 => UInt32
  | loadTemperature | loadThreshold => Int
  | loadFlag => ℕ
  | copyMessage _ => Reply
  | _ => Unit

/-- A function returns a value, and a round of a loop may also go back to its start. -/
abbrev Driver : Type := Prog Op Op.Ans (Option Int)

/-- What a thread runs. -/
inductive Role where
  | sampler
  /-- A call of `my_read`. -/
  | device
  /-- The call of `wait_read` with this number. -/
  | wait (n : ℕ)
deriving DecidableEq, Repr

/-- The variables of the module, with what has become of the alarms. -/
structure State where
  temperature : Int
  thresholdValue : Int
  waitFlag : ℕ
  deviceBuffer : List UInt8
  stopRequested : Bool
  /-- The `wait_read` calls that have a signal pending. -/
  signalled : List ℕ
  /-- The number of `wait_read` calls so far. -/
  calls : ℕ
  /-- No `wait_read` has copied the alarm message since the last alarm. -/
  undelivered : Bool
  /-- No `wait_read` has completed its wait since the last alarm. -/
  awaited : Bool
  /-- The `wait_read` calls that were the first to complete their wait after an alarm. -/
  owed : List ℕ
deriving DecidableEq, Repr

/-- What the kernel chooses. -/
structure Env where
  random : UInt32 := 0
  /-- Where `copy_to_user` faults. -/
  fault : Option ℕ := none

/-- `" %d\n"` with 44, which `wait_read` copies. -/
def alarm : List UInt8 := [32, 52, 52, 10]

/-- What each operation does. -/
def sem (e : Env) : Role → Prog.Sem Op Op.Ans State
  | _, .kthreadShouldStop, s => .done s.stopRequested s
  | _, .getRandomU32, s => .done e.random s
  | _, .loadTemperature, s => .done s.temperature s
  | _, .storeTemperature v, s => .done () { s with temperature := v }
  | _, .loadThreshold, s => .done s.thresholdValue s
  | _, .loadFlag, s => .done s.waitFlag s
  | _, .storeFlag v, s =>
      .done () { s with
        waitFlag := v
        undelivered := s.undelivered || v == 2
        awaited := s.awaited || v == 2 }
  | _, .wakeUp, s => .done () s
  | _, .msleep _, s => .done () s
  | .wait n, .waitEvent, s =>
      .done () { s with awaited := false, owed := if s.awaited then n :: s.owed else s.owed }
  | _, .waitEvent, s => .done () s
  | _, .copyAlarm, s =>
      let copied := (copyToUser alarm alarm.length e.fault).2
      .done copied { s with undelivered := s.undelivered && !copied }
  | _, .copyMessage offset, s =>
      .done (readMessage (terminate s.deviceBuffer offset) offset e.fault id)
        { s with deviceBuffer := terminate s.deviceBuffer offset }

/-! ## The functions -/

/-- A round of the loop of `thread_function`. -/
def threadFunction : Driver := do
  let stop ← op Op.kthreadShouldStop
  if stop then pure (some 0)
  else
    let random ← op Op.getRandomU32
    op (Op.storeTemperature (random.toNat % 100 : ℕ))
    let temperature ← op Op.loadTemperature
    let threshold ← op Op.loadThreshold
    if temperature > threshold then
      op (Op.storeFlag 2)
      op Op.wakeUp
      op (Op.msleep 2000)
      pure none
    else
      op (Op.msleep 2000)
      pure none

/-- `my_read` -/
def myRead (offset : ℕ) : Driver := do
  let r ← op (Op.copyMessage offset)
  if r.ret ≤ 0 then pure (some r.ret)
  else
    op (Op.storeFlag 1)
    op Op.wakeUp
    pure (some r.ret)

/-- `wait_read` -/
def waitRead (offset : ℕ) : Driver := do
  if offset ≥ alarm.length then pure (some 0)
  else
    op Op.waitEvent
    let flag ← op Op.loadFlag
    if flag = 2 then
      let copied ← op Op.copyAlarm
      if copied then
        op (Op.storeFlag 0)
        pure (some alarm.length)
      else pure (some (-EFAULT))
    else
      op (Op.storeFlag 0)
      pure (some alarm.length)

/-! ## The machine -/

/-- A thread of the module. -/
abbrev WatchThread : Type := Thread Op Op.Ans Role (Option Int)

/-- The variables, and the threads that work on them. -/
abbrev World : Type := Pool Op Op.Ans Role (Option Int) State

/-- A call of a function, or something from outside. -/
inductive Event where
  /-- `my_write` is called. -/
  | write (user : List UInt8) (fault : Option (ℕ × ℕ))
  /-- `my_read` is called. -/
  | read (offset : ℕ)
  /-- `wait_read` is called. -/
  | waitRead (offset : ℕ)
  /-- A signal is sent to the caller of `wait_read` number `n`. -/
  | signal (n : ℕ)
  /-- `threshold_write` stores a threshold. -/
  | threshold (v : Int)
  /-- `hello_exit` asks the thread to stop. -/
  | stop

/-- The sampling thread and any number of calls. -/
def machine : Machine Op Op.Ans Role (Option Int) State Env Event where
  sem := sem
  ready s r o := match r, o with
    | .wait n, .waitEvent => s.waitFlag != 0 || s.signalled.contains n
    | _, _ => true
  again
    | .sampler, none => some threadFunction
    | _, _ => none
  event n s := match n with
    | .write user fault =>
        some ({ s with deviceBuffer := (writeMessage s.deviceBuffer user fault).2 }, [])
    | .read offset => some (s, [⟨.device, myRead offset⟩])
    | .waitRead offset => some ({ s with calls := s.calls + 1 }, [⟨.wait s.calls, waitRead offset⟩])
    | .signal n => some ({ s with signalled := n :: s.signalled }, [])
    | .threshold v => some ({ s with thresholdValue := v }, [])
    | .stop => some ({ s with stopRequested := true }, [])

/-- The module after `hello_init`. -/
def loaded : World where
  shared := ⟨0, 75, 0, List.replicate BUFF_SIZE 0, false, [], 0, false, false, []⟩
  threads := [⟨.sampler, threadFunction⟩]

/-- The runs of the module. -/
def system : System World (Move Env Event) := machine.system (· = loaded)

/-- The thread is a `wait_read` call that is owed an alarm and has not tested the flag. -/
def OwedTest (s : State) (th : WatchThread) : Prop :=
  match th.role with
  | .wait n => n ∈ s.owed ∧ th.nextOp = some .loadFlag
  | _ => False

/-- The thread is a `wait_read` call between the end of its wait and its store of 0. -/
def PastWait (th : WatchThread) : Prop :=
  th.nextOp = some .loadFlag ∨ th.nextOp = some .copyAlarm ∨ th.nextOp = some (.storeFlag 0)

/-- An alarm is in the flag until a `wait_read` has copied it, and also until one has
completed its wait; and the first one to do so finds it there and goes on to copy the
message. -/
structure AlarmsKept (w : World) : Prop where
  undelivered : w.shared.undelivered = true → w.shared.waitFlag = 2
  awaited : w.shared.awaited = true → w.shared.waitFlag = 2
  owed : ∀ th ∈ w.threads, OwedTest w.shared th → w.shared.waitFlag = 2
  copies : ∀ i th e w', w.threads[i]? = some th → OwedTest w.shared th →
    machine.next w (.run i e) = some w' → w'.opAt i = some .copyAlarm

/-- The thread stores 2 while no `wait_read` is between the end of its wait and its store of
0, `my_read` stores 1 while the flag is not 2 or a `wait_read` is about to store 0, and the
stores of 1 and 0 wait for the test of a `wait_read` that is owed an alarm. -/
def Ordered (w : World) : Move Env Event → Prop
  | .run i _ =>
      (w.opAt i = some (.storeFlag 2) → ∀ th ∈ w.threads, ¬ PastWait th) ∧
      (w.opAt i = some (.storeFlag 1) → w.shared.waitFlag ≠ 2 ∨
        (∃ th ∈ w.threads, th.nextOp = some (.storeFlag 0)) ∧
          ∀ th ∈ w.threads, ¬ OwedTest w.shared th) ∧
      (w.opAt i = some (.storeFlag 0) → ∀ th ∈ w.threads, ¬ OwedTest w.shared th)
  | .event _ => True

/-! ## Where the threads are -/

/-- How far a thread is. -/
inductive Stage where
  | sampling
  | device
  -- `wait_read`: before the end of its wait, before its test of the flag, before the copy,
  -- before it clears the flag, and after that
  | before | test | copy | clear | done
deriving DecidableEq, Repr

/-- The operations of a stage. -/
@[simp] def Stage.allow : Stage → Op → Prop
  | .sampling, .kthreadShouldStop | .sampling, .getRandomU32 | .sampling, .loadTemperature
  | .sampling, .storeTemperature _ | .sampling, .loadThreshold | .sampling, .wakeUp
  | .sampling, .msleep _ => True
  | .sampling, .storeFlag v => v = 2
  | .device, .copyMessage _ | .device, .wakeUp => True
  | .device, .storeFlag v => v = 1
  | .before, .waitEvent | .test, .loadFlag | .copy, .copyAlarm => True
  | .clear, .storeFlag v => v = 0
  | _, _ => False

/-- The stage after an operation. -/
@[simp] def Stage.after : Stage → (o : Op) → o.Ans → Stage
  | .before, .waitEvent, _ => .test
  | .test, .loadFlag, flag => if flag = 2 then .copy else .clear
  | .copy, .copyAlarm, copied => if copied = true then .clear else .done
  | .clear, .storeFlag _, _ => .done
  | st, _, _ => st

/-- The stages of the functions. -/
@[simps]
def proto : Protocol Op Op.Ans Stage where
  allow := Stage.allow
  expect _ _ _ := True
  after := Stage.after

/-- The stages in which a round can end. -/
@[simp] def Ends : Stage → Option Int → Prop
  | .sampling, _ | .device, _ | .before, _ | .done, _ => True
  | _, _ => False

lemma follows_threadFunction : threadFunction.Follows proto .sampling Ends := by
  simp [threadFunction, op]

lemma follows_myRead (offset : ℕ) : (myRead offset).Follows proto .device Ends := by
  simp [myRead, op]

lemma follows_waitRead (offset : ℕ) : (waitRead offset).Follows proto .before Ends := by
  simp +contextual [waitRead, op]

/-! ## What holds where -/

/-- What holds while the `wait_read` call with number `n` is at a stage. -/
@[simp] def WaitAt (n : ℕ) (s : State) : Stage → Prop
  | .before => n ∉ s.owed
  | .test => s.awaited = false ∧ (n ∈ s.owed → s.waitFlag = 2)
  | .copy => s.awaited = false
  | .clear => s.awaited = false ∧ s.undelivered = false
  | .done => True
  | _ => False

/-- What always holds of the flag and the ghost fields. -/
structure Kept (s : State) : Prop where
  undelivered : s.undelivered = true → s.waitFlag = 2
  awaited : s.awaited = true → s.waitFlag = 2
  owed : ∀ n ∈ s.owed, n < s.calls

/-- The ghost variable says which thread has which number. -/
@[simps]
def outline : Outline Op Op.Ans Role (Option Int) State Stage (ℕ → ℕ) where
  proto _ := proto
  ends _ := Ends
  here thread j r st s := match r with
    | .sampler => st = .sampling
    | .device => st = .device
    | .wait n => thread n = j ∧ n < s.calls ∧ WaitAt n s st
  always _ := Kept

section Keep

variable {s s' : State} {n : ℕ} {e : Stage}

/-- The flag and the ghost fields are the same. -/
structure SameAlarm (s s' : State) : Prop where
  waitFlag : s'.waitFlag = s.waitFlag
  calls : s'.calls = s.calls
  undelivered : s'.undelivered = s.undelivered
  awaited : s'.awaited = s.awaited
  owed : s'.owed = s.owed

lemma sameAlarm_sem {env : Env} {r : Role} {o : Op} {x : o.Ans} (hstore : ∀ v, o ≠ .storeFlag v)
    (hwait : o ≠ .waitEvent) (hcopy : o ≠ .copyAlarm) (hsem : sem env r o s = .done x s') :
    SameAlarm s s' := by
  cases o
  case storeFlag v => exact absurd rfl (hstore v)
  case waitEvent => exact absurd rfl hwait
  case copyAlarm => exact absurd rfl hcopy
  all_goals
    cases r <;> (obtain ⟨-, rfl⟩ := Outcome.done.inj hsem; exact ⟨rfl, rfl, rfl, rfl, rfl⟩)

lemma Kept.congr (h : Kept s) (hs : SameAlarm s s') : Kept s' := by
  refine ⟨?_, ?_, ?_⟩
  · rw [hs.undelivered, hs.waitFlag]
    exact h.undelivered
  · rw [hs.awaited, hs.waitFlag]
    exact h.awaited
  · rw [hs.owed, hs.calls]
    exact h.owed

lemma WaitAt.congr (h : WaitAt n s e) (hs : SameAlarm s s') : WaitAt n s' e := by
  cases e
  case before => exact fun hn => h (hs.owed ▸ hn)
  case test => exact ⟨hs.awaited.trans h.1, fun hn => hs.waitFlag.trans (h.2 (hs.owed ▸ hn))⟩
  case copy => exact hs.awaited.trans h
  case clear => exact ⟨hs.awaited.trans h.1, hs.undelivered.trans h.2⟩
  case done => trivial
  all_goals exact h.elim

/-- The copy of an alarm only clears a ghost field. -/
lemma WaitAt.copied (h : WaitAt n s e) (b : Bool) :
    WaitAt n { s with undelivered := s.undelivered && b } e := by
  cases e
  case clear => exact ⟨h.1, by simp [h.2]⟩
  all_goals exact h

/-- A store to the flag of another value than 2 matters to a call that is owed an alarm. -/
lemma WaitAt.store (h : WaitAt n s e) {v : ℕ} (hv : v ≠ 2) (howed : e = .test → n ∉ s.owed) :
    WaitAt n { s with
      waitFlag := v
      undelivered := s.undelivered || v == 2
      awaited := s.awaited || v == 2 } e := by
  have hv' : (v == 2) = false := beq_false_of_ne hv
  cases e
  case before => exact h
  case test => exact ⟨by simp [h.1, hv'], fun hn => absurd hn (howed rfl)⟩
  case copy =>
    have hawaited : s.awaited = false := h
    simp [hawaited, hv']
  case clear => exact ⟨by simp [h.1, hv'], by simp [h.2, hv']⟩
  case done => trivial
  all_goals exact h.elim

/-- Another call completes its wait. -/
lemma WaitAt.waited (h : WaitAt n s e) {n' : ℕ} (hne : n ≠ n') :
    WaitAt n { s with awaited := false, owed := if s.awaited then n' :: s.owed else s.owed } e := by
  have hmem : n ∈ (if s.awaited = true then n' :: s.owed else s.owed) → n ∈ s.owed := by
    split_ifs
    · exact fun hn => (List.mem_cons.1 hn).resolve_left hne
    · exact id
  cases e
  case before => exact fun hn => h (hmem hn)
  case test => exact ⟨rfl, fun hn => h.2 (hmem hn)⟩
  case copy => rfl
  case clear => exact ⟨rfl, h.2⟩
  case done => trivial
  all_goals exact h.elim

end Keep

section Position

variable {p : Driver} {r : Role} {e : Stage}

/-- The next operation of a `wait_read` call says where it is. -/
lemma nextOp_of_follows (hf : p.Follows proto e Ends) :
    (e = .test → (⟨r, p⟩ : WatchThread).nextOp = some .loadFlag) ∧
      (e = .copy → (⟨r, p⟩ : WatchThread).nextOp = some .copyAlarm) ∧
      (e = .clear → (⟨r, p⟩ : WatchThread).nextOp = some (.storeFlag 0)) := by
  cases p with
  | ret a => refine ⟨?_, ?_, ?_⟩ <;> (rintro rfl; exact (follows_ret.1 hf).elim)
  | act o k =>
    have hallow := hf.1
    refine ⟨?_, ?_, ?_⟩ <;> rintro rfl <;> cases o <;> first | exact hallow.elim | skip
    · rfl
    · rfl
    · obtain rfl := hallow
      rfl

/-- A call that is not between the end of its wait and its store of 0 has no interest in the
flag. -/
lemma WaitAt.of_not_pastWait {n : ℕ} {s s' : State} (h : WaitAt n s e)
    (hf : p.Follows proto e Ends) (hpast : ¬ PastWait ⟨r, p⟩) (howed : s'.owed = s.owed) :
    WaitAt n s' e := by
  obtain ⟨htest, hcopy, hclear⟩ := nextOp_of_follows (r := r) hf
  cases e
  case before => exact fun hn => h (howed ▸ hn)
  case done => trivial
  case test => exact absurd (.inl (htest rfl)) hpast
  case copy => exact absurd (.inr (.inl (hcopy rfl))) hpast
  case clear => exact absurd (.inr (.inr (hclear rfl))) hpast
  all_goals exact h.elim

/-- A call before its test that is not owed an alarm. -/
lemma not_mem_owed {n : ℕ} {s : State} (hf : p.Follows proto e Ends)
    (howed : ¬ OwedTest s ⟨.wait n, p⟩) : e = .test → n ∉ s.owed :=
  fun he hn => howed ⟨hn, (nextOp_of_follows hf).1 he⟩

end Position

section Sound

variable {w : World} {thread : ℕ → ℕ}

/-- The threads whose assertions do not speak about the flag, and the calls of `wait_read`
for which a proof is given. -/
lemma here_others {s s' : State} {j : ℕ} {th : WatchThread} {st : Stage}
    (hat : outline.At thread s j th st) (hcalls : s'.calls = s.calls)
    (hwait : ∀ n, th.role = .wait n → thread n = j → WaitAt n s st → WaitAt n s' st) :
    outline.here thread j th.role st s' := by
  obtain ⟨r, p⟩ := th
  cases r with
  | sampler => exact hat.here
  | device => exact hat.here
  | wait n =>
    obtain ⟨hpos, hlt, hn⟩ := hat.here
    exact ⟨hpos, hcalls ▸ hlt, hwait n rfl hpos hn⟩

/-- The store of 1 does not overwrite an alarm that is still needed. -/
lemma ordered_device {i : ℕ} {e : Env} (hw : outline.Holds thread w) (hc : Ordered w (.run i e))
    (hi : w.opAt i = some (.storeFlag 1)) :
    w.shared.undelivered = false ∧ w.shared.awaited = false ∧
      ∀ (j n : ℕ) (p : Driver), w.threads[j]? = some ⟨.wait n, p⟩ → p.Follows proto .test Ends →
        WaitAt n w.shared .test → n ∉ w.shared.owed := by
  obtain ⟨hdelivered, hawaited, -⟩ := hw.always
  rcases hc.2.1 hi with hflag | ⟨⟨th, hth, hnext⟩, howed⟩
  · refine ⟨?_, ?_, fun j n p _ _ hn hmem => hflag (hn.2 hmem)⟩
    · exact Bool.eq_false_iff.2 fun h => hflag (hdelivered h)
    · exact Bool.eq_false_iff.2 fun h => hflag (hawaited h)
  · -- the call that is about to store 0 has seen the alarm
    obtain ⟨j, st, -, hst⟩ := hw.of_mem hth
    have hallow : st.allow (.storeFlag 0) := hst.allow hnext
    obtain rfl : st = .clear := by
      cases st <;> simp at hallow ⊢
    obtain ⟨r, p⟩ := th
    cases r with
    | sampler => cases hst.here
    | device => cases hst.here
    | wait n =>
      obtain ⟨-, -, hn⟩ := hst.here
      exact ⟨hn.2, hn.1, fun j n p hj hf _ =>
        not_mem_owed hf (howed _ (List.mem_of_getElem? hj)) rfl⟩

/-- A step that leaves the flag and the ghost fields alone keeps the assertions. -/
lemma old_sameAlarm {s : State} (hsame : SameAlarm w.shared s) (j : ℕ) (th : WatchThread)
    (st : Stage) (_ : w.threads[j]? = some th) (hst : outline.At thread w.shared j th st) :
    outline.here thread j th.role st s :=
  here_others hst hsame.calls fun _ _ _ hn => hn.congr hsame

section Land

variable {i n : ℕ} {e : Env} {s : State}

/-- An operation that leaves the flag and the ghost fields alone. -/
lemma lands_sameAlarm {r : Role} {st : Stage} (hw : outline.Holds thread w)
    (hsame : SameAlarm w.shared s) (hown : outline.here thread i r st s) :
    outline.Lands thread thread w i r st s where
  always := hw.always.congr hsame
  own := hown
  others j th st _ hth hst := old_sameAlarm hsame j th st hth hst

/-- `thread_function` stores 2. -/
lemma lands_alarm {x : Op.Ans (.storeFlag 2)} (hw : outline.Holds thread w)
    (hpast : ∀ th ∈ w.threads, ¬ PastWait th)
    (hsem : sem e .sampler (.storeFlag 2) w.shared = .done x s) :
    outline.Lands thread thread w i .sampler .sampling s := by
  obtain ⟨-, rfl⟩ := Outcome.done.inj hsem
  refine ⟨⟨fun _ => rfl, fun _ => rfl, hw.always.owed⟩, rfl, fun j th st _ hth hst => ?_⟩
  have hth' := hpast th (List.mem_of_getElem? hth)
  exact here_others hst rfl fun n _ _ hn => hn.of_not_pastWait hst.follows hth' rfl

/-- `my_read` stores 1. -/
lemma lands_message {x : Op.Ans (.storeFlag 1)} (hw : outline.Holds thread w)
    (hc : Ordered w (.run i e)) (hop : w.opAt i = some (.storeFlag 1))
    (hsem : sem e .device (.storeFlag 1) w.shared = .done x s) :
    outline.Lands thread thread w i .device .device s := by
  obtain ⟨-, rfl⟩ := Outcome.done.inj hsem
  obtain ⟨hdelivered, hawaited, howed⟩ := ordered_device hw hc hop
  refine ⟨⟨by simp [hdelivered], by simp [hawaited], hw.always.owed⟩, rfl,
    fun j th st _ hth hst => ?_⟩
  refine here_others hst rfl fun n hrole _ hn => hn.store (by decide) ?_
  obtain ⟨r, p⟩ := th
  obtain rfl : r = .wait n := hrole
  rintro rfl
  exact howed j n p hth hst.follows hn

/-- A `wait_read` completes its wait. -/
lemma lands_waited {x : Op.Ans .waitEvent} (hw : outline.Holds thread w)
    (hhere : outline.here thread i (.wait n) .before w.shared)
    (hsem : sem e (.wait n) .waitEvent w.shared = .done x s) :
    outline.Lands thread thread w i (.wait n) .test s := by
  obtain ⟨hpos, hlt, hn⟩ := hhere
  obtain ⟨-, rfl⟩ := Outcome.done.inj hsem
  refine ⟨⟨hw.always.undelivered, fun h => (by cases h), ?_⟩, ⟨hpos, hlt, rfl, ?_⟩, ?_⟩
  · intro n' hn'
    split_ifs at hn' with hawaited
    · rcases List.mem_cons.1 hn' with rfl | hn'
      · exact hlt
      · exact hw.always.owed n' hn'
    · exact hw.always.owed n' hn'
  · intro hn'
    split_ifs at hn' with hawaited
    · exact hw.always.awaited hawaited
    · exact absurd hn' hn
  · intro j th st hj hth hst
    refine here_others hst rfl fun n' _ hpos' hn' => hn'.waited ?_
    rintro rfl
    exact hj (hpos'.symm.trans hpos)

/-- It tests the flag. -/
lemma lands_tested {x : Op.Ans .loadFlag} (hw : outline.Holds thread w)
    (hhere : outline.here thread i (.wait n) .test w.shared)
    (hsem : sem e (.wait n) .loadFlag w.shared = .done x s) :
    outline.Lands thread thread w i (.wait n) (Stage.after .test .loadFlag x) s := by
  obtain ⟨hpos, hlt, hn⟩ := hhere
  obtain ⟨rfl, rfl⟩ := Outcome.done.inj hsem
  refine ⟨hw.always, ⟨hpos, hlt, ?_⟩, fun j th st _ _ hst => hst.here⟩
  by_cases hflag : w.shared.waitFlag = 2
  · simpa [hflag] using hn.1
  · have hdelivered : w.shared.undelivered = false :=
      Bool.eq_false_iff.2 fun h => hflag (hw.always.undelivered h)
    simpa [hflag] using ⟨hn.1, hdelivered⟩

/-- It copies the message. -/
lemma lands_copied {x : Op.Ans .copyAlarm} (hw : outline.Holds thread w)
    (hhere : outline.here thread i (.wait n) .copy w.shared)
    (hsem : sem e (.wait n) .copyAlarm w.shared = .done x s) :
    outline.Lands thread thread w i (.wait n) (Stage.after .copy .copyAlarm x) s := by
  obtain ⟨hpos, hlt, hn⟩ := hhere
  obtain ⟨rfl, rfl⟩ := Outcome.done.inj hsem
  refine ⟨⟨?_, hw.always.awaited, hw.always.owed⟩, ⟨hpos, hlt, ?_⟩, fun j th st _ _ hst =>
    here_others hst rfl fun _ _ _ hn => hn.copied _⟩
  · intro h
    exact hw.always.undelivered (Bool.and_elim_left h)
  · have hawaited : w.shared.awaited = false := hn
    by_cases hcopied : (copyToUser alarm alarm.length e.fault).2 = true <;>
      simp [hcopied, hawaited]

/-- It clears the flag. -/
lemma lands_cleared {x : Op.Ans (.storeFlag 0)} (hw : outline.Holds thread w)
    (howed : ∀ th ∈ w.threads, ¬ OwedTest w.shared th)
    (hhere : outline.here thread i (.wait n) .clear w.shared)
    (hsem : sem e (.wait n) (.storeFlag 0) w.shared = .done x s) :
    outline.Lands thread thread w i (.wait n) .done s := by
  obtain ⟨hpos, hlt, hn⟩ := hhere
  obtain ⟨-, rfl⟩ := Outcome.done.inj hsem
  refine ⟨⟨by simp [hn.2], by simp [hn.1], hw.always.owed⟩, ⟨hpos, hlt, trivial⟩,
    fun j th st _ hth hst => ?_⟩
  refine here_others hst rfl fun n hrole _ hn => hn.store (by decide) ?_
  obtain ⟨r, p⟩ := th
  obtain rfl : r = .wait n := hrole
  exact not_mem_owed hst.follows (howed _ (List.mem_of_getElem? hth))

end Land

/-- A call of `wait_read` gets the next number. -/
lemma admits_waitRead (hw : outline.Holds thread w) (offset : ℕ) :
    outline.Admits thread (Function.update thread w.shared.calls w.threads.length) w
      { w.shared with calls := w.shared.calls + 1 }
      [⟨.wait w.shared.calls, waitRead offset⟩] := by
  refine Outline.admits_single .before ?_ ?_ ⟨follows_waitRead offset, ?_⟩
  · exact ⟨hw.always.undelivered, hw.always.awaited,
      fun n hn => Nat.lt_succ_of_lt (hw.always.owed n hn)⟩
  · rintro j ⟨r, p⟩ st hth hst
    cases r with
    | sampler => exact hst.here
    | device => exact hst.here
    | wait n =>
      obtain ⟨hpos, hlt, hn⟩ := hst.here
      refine ⟨?_, Nat.lt_succ_of_lt hlt, ?_⟩
      · rwa [Function.update_of_ne hlt.ne]
      · cases st <;> exact hn
  · refine ⟨Function.update_self .., Nat.lt_succ_self _, fun hmem => ?_⟩
    exact Nat.lt_irrefl _ (hw.always.owed _ hmem)

lemma sound_outline : outline.Sound machine Ordered where
  act {thread w i e r st o k x s} hw hc hi hst hready hsem := by
    have hallow : st.allow o := hst.follows.1
    have hop : w.opAt i = some o := Pool.opAt_eq hi
    suffices h : outline.Lands thread thread w i r (st.after o x) s from
      ⟨trivial, thread, h.always, h.own, h.others⟩
    cases r with
    | sampler =>
      obtain rfl : st = .sampling := hst.here
      by_cases hstore : o = .storeFlag 2
      · subst hstore
        exact lands_alarm (e := e) hw (hc.1 hop) hsem
      · have hsame : SameAlarm w.shared s := sameAlarm_sem
          (by rintro v rfl; obtain rfl := hallow; exact hstore rfl)
          (by rintro rfl; exact hallow) (by rintro rfl; exact hallow) hsem
        exact lands_sameAlarm hw hsame (by cases o <;> rfl)
    | device =>
      obtain rfl : st = .device := hst.here
      by_cases hstore : o = .storeFlag 1
      · subst hstore
        exact lands_message hw hc hop hsem
      · have hsame : SameAlarm w.shared s := sameAlarm_sem
          (by rintro v rfl; obtain rfl := hallow; exact hstore rfl)
          (by rintro rfl; exact hallow) (by rintro rfl; exact hallow) hsem
        exact lands_sameAlarm hw hsame (by cases o <;> rfl)
    | wait n =>
      cases st
      case before =>
        cases o <;> first | exact hallow.elim | skip
        exact lands_waited (e := e) hw hst.here hsem
      case test =>
        cases o <;> first | exact hallow.elim | skip
        exact lands_tested (e := e) hw hst.here hsem
      case copy =>
        cases o <;> first | exact hallow.elim | skip
        exact lands_copied hw hst.here hsem
      case clear =>
        cases o <;> first | exact hallow.elim | skip
        obtain rfl := hallow
        exact lands_cleared (e := e) hw (hc.2.2 hop) hst.here hsem
      case done => cases o <;> exact hallow.elim
      all_goals exact hst.here.2.2.elim
  again {_ _ _ r st a p} hst hagain := by
    cases r <;> cases a <;> simp only [machine, reduceCtorEq] at hagain
    obtain rfl := Option.some.inj hagain
    obtain rfl : st = .sampling := hst.here
    exact follows_threadFunction
  event {thread w n s ths} hw hc hevent := by
    suffices h : ∃ thread', outline.Admits thread thread' w s ths from
      h.imp fun _ h => ⟨h.always, h.old, h.new⟩
    cases n <;> obtain ⟨rfl, rfl⟩ := Prod.mk.inj (Option.some.inj hevent)
    case waitRead offset => exact ⟨_, admits_waitRead hw offset⟩
    case read offset =>
      have hsame : SameAlarm w.shared w.shared := ⟨rfl, rfl, rfl, rfl, rfl⟩
      exact ⟨thread, Outline.admits_single .device (hw.always.congr hsame)
        (old_sameAlarm hsame) ⟨follows_myRead offset, rfl⟩⟩
    all_goals
      -- the flag and the ghost fields are the same
      refine ⟨thread, Outline.admits_nil (hw.always.congr ?_) (old_sameAlarm ?_)⟩ <;>
        exact ⟨rfl, rfl, rfl, rfl, rfl⟩

/-- What an outline says about a call that is owed an alarm. -/
lemma test_of_owed (hw : outline.Holds thread w) {j : ℕ} {th : WatchThread}
    (hj : w.threads[j]? = some th) (howed : OwedTest w.shared th) :
    outline.At thread w.shared j th .test ∧ w.shared.waitFlag = 2 := by
  obtain ⟨st, hst⟩ := hw.threads j th hj
  obtain ⟨r, p⟩ := th
  cases r with
  | sampler => exact howed.elim
  | device => exact howed.elim
  | wait n =>
    have hallow : st.allow .loadFlag := hst.allow howed.2
    obtain rfl : st = .test := by
      cases st <;> simp at hallow ⊢
    obtain ⟨-, -, hn⟩ := hst.here
    exact ⟨hst, hn.2 howed.1⟩

/-- Such a call copies the message next. -/
lemma copies_of_owed (hw : outline.Holds thread w) {j : ℕ} {th : WatchThread} {e : Env} {w' : World}
    (hj : w.threads[j]? = some th) (howed : OwedTest w.shared th)
    (hnext : machine.next w (.run j e) = some w') : w'.opAt j = some .copyAlarm := by
  obtain ⟨hst, hflag⟩ := test_of_owed hw hj howed
  have hlt : j < w.threads.length := (List.getElem?_eq_some_iff.1 hj).1
  cases Machine.moves hnext with
  | @act _ _ r o k x s hi hready hsem =>
    obtain rfl : _ = th := Option.some.inj (hi.symm.trans hj)
    have hallow : Stage.test.allow o := hst.follows.1
    cases o <;> first | exact hallow.elim | skip
    obtain ⟨rfl, rfl⟩ := Outcome.done.inj hsem
    have hf := hst.follows.2 w.shared.waitFlag trivial
    simp only [outline_proto, proto_after, Stage.after, hflag, if_true] at hf
    have hcopy := (nextOp_of_follows (r := r) hf).2.1 rfl
    simpa [Pool.opAt, hlt, hflag] using hcopy
  | again hi hagain =>
    obtain rfl : _ = th := Option.some.inj (hi.symm.trans hj)
    exact hst.follows.elim

/-- **No alarm is lost.** When the stores to the flag are ordered, an alarm stays in the flag
until a `wait_read` has copied it, and the next `wait_read` that completes its wait finds it
there. -/
theorem alarmsKept_of_ordered (hw : system.Reach Ordered w) : AlarmsKept w := by
  have hinit : ∀ v, v = loaded → ∃ thread, outline.Holds thread v := by
    rintro _ rfl
    refine ⟨id, Outline.holds_single ?_ ⟨follows_threadFunction, rfl⟩⟩
    exact ⟨fun h => (by cases h), fun h => (by cases h), fun n hn => (by cases hn)⟩
  obtain ⟨thread, hholds⟩ := sound_outline.holds_of_reach hinit hw
  refine ⟨hholds.always.undelivered, hholds.always.awaited, fun th hth howed => ?_,
    fun i th e w' hi howed hnext => copies_of_owed hholds hi howed hnext⟩
  obtain ⟨j, hj⟩ := List.mem_iff_getElem?.1 hth
  exact (test_of_owed hholds hj howed).2

end Sound

/-! ## Two runs -/

section Runs

instance (s : State) : (th : WatchThread) → Decidable (OwedTest s th)
  | ⟨.wait _, _⟩ => inferInstanceAs (Decidable (_ ∧ _))
  | ⟨.sampler, _⟩ | ⟨.device, _⟩ => inferInstanceAs (Decidable False)

instance (th : WatchThread) : Decidable (PastWait th) := inferInstanceAs (Decidable (_ ∨ _))

instance (w : World) : (l : Move Env Event) → Decidable (Ordered w l)
  | .run _ _ => inferInstanceAs (Decidable (_ ∧ _ ∧ _))
  | .event _ => inferInstanceAs (Decidable True)

/-- `n` operations of thread `i`. -/
def turns (i n : ℕ) : List (Move Env Event) := List.replicate n (.run i { random := 99 })

/-- A sample of 99 degrees is above the threshold while a `wait_read` waits. -/
def alarmRaised : List (Move Env Event) := [.event (.waitRead 0)] ++ turns 0 6

lemma reach_loaded (C : World → Move Env Event → Prop) : system.Reach C loaded := .init rfl

theorem alarmsKept_of_ordered_raised :
    ∃ w, w.shared.undelivered = true ∧ w.shared.owed = [0] ∧ AlarmsKept w := by
  have hw := System.reach_get (alarmRaised ++ turns 1 1) (reach_loaded Ordered)
    (by decide +kernel) (by decide +kernel)
  exact ⟨_, by decide +kernel, by decide +kernel, alarmsKept_of_ordered hw⟩

/-- **An alarm is lost.** A `my_read` of the character device stores 1 over the alarm; the
`wait_read` that waits for it clears the flag and returns, and nobody has got the message. -/
theorem alarm_lost :
    ∃ w, system.Reachable w ∧ w.shared.owed = [0] ∧ w.shared.undelivered = true ∧
      w.shared.waitFlag = 0 ∧ (∀ th ∈ w.threads, th.role = .wait 0 → th.returned = true) ∧
      ¬ AlarmsKept w := by
  have hrun : ∃ w, system.Reachable w ∧ w.shared.owed = [0] ∧ w.shared.undelivered = true ∧
      w.shared.waitFlag = 0 ∧ ∀ th ∈ w.threads, th.role = .wait 0 → th.returned = true :=
    System.exists_reachable
      (alarmRaised ++ [.event (.write [97] none), .event (.read 0)] ++ turns 2 2 ++ turns 1 3)
      (reach_loaded _) (by decide +kernel)
  obtain ⟨w, hw, howed, hundelivered, hflag, hreturned⟩ := hrun
  refine ⟨w, hw, howed, hundelivered, hflag, hreturned, fun hkept => ?_⟩
  have htwo := hkept.undelivered hundelivered
  rw [hflag] at htwo
  cases htwo

end Runs

end KernelDriverLab.TempWatch
