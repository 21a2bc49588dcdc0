import KernelDriverLab.Lib.Machine
import KernelDriverLab.Lib.SeqLock

/-!
# The readers of seqlock_module.c

One thread of the module increments `seq_variable` between `write_seqlock` and
`write_sequnlock`, the other reads and prints it between `read_seqbegin` and `read_seqretry`
and does so again as long as it is told to.  The print comes before the test: what the reader
prints in an attempt that is repeated may be the value of a section that has not ended.

Four ghost fields of the state follow this: how many sections have begun and ended, what the
writer has printed, and the attempts of the reader.
-/

namespace KernelDriverLab.Seqlock

open Lib Prog

/-- The operations on the sequence lock and on the variable. -/
inductive Op where
  | kthreadShouldStop
  | writeSeqlock
  | writeSequnlock
  | readSeqbegin
  | readSeqretry (start : BitVec 32)
  /-- Load `seq_variable`. -/
  | load
  /-- Store into `seq_variable`. -/
  | store (v : BitVec 64)
  /-- `pr_info` with the value of `seq_variable`. -/
  | print (v : BitVec 64)
  | msleep (ms : ℕ)
deriving DecidableEq, Repr

/-- What an operation answers. -/
@[reducible] def Op.Ans : Op → Type
  | kthreadShouldStop | readSeqretry _ => Bool
  | readSeqbegin => BitVec 32
  | load => BitVec 64
  | _ => Unit

/-- How a round of the loops ends. -/
inductive Round where
  | returned (v : Int)
  /-- Back to the test of the outer loop. -/
  | loop
  /-- Back to `read_seqbegin`. -/
  | retry
deriving DecidableEq, Repr

/-- A round of a thread. -/
abbrev Driver : Type := Prog Op Op.Ans Round

/-- The threads, in the order in which `hello_init` starts them. -/
inductive Role where
  | writer
  | reader
deriving DecidableEq, Repr

/-- From a `read_seqbegin` to its `read_seqretry`. -/
structure Attempt where
  /-- The sections that had ended when it began. -/
  since : ℕ
  /-- What has been printed. -/
  value : Option (BitVec 64)
  /-- The sections that have begun and ended at its end. -/
  begun : ℕ
  ended : ℕ
  /-- The answer of `read_seqretry`. -/
  again : Bool
deriving DecidableEq, Repr

/-- The lock and the variable, with what has happened under it. -/
structure State where
  lock : SeqLock 31
  seqVariable : BitVec 64
  begun : ℕ
  ended : ℕ
  /-- What the writer has printed, in order. -/
  printed : List (BitVec 64)
  /-- The sections that had ended at the latest `read_seqbegin`, and what has been printed
  since then. -/
  current : ℕ × Option (BitVec 64)
  /-- The attempts that have ended, in order. -/
  attempts : List Attempt
deriving DecidableEq, Repr

/-- What the kernel chooses. -/
structure Env where
  /-- What `kthread_should_stop` returns. -/
  stop : Bool := false

/-- A value is printed. -/
def State.show (s : State) (v : BitVec 64) : Role → State
  | .writer => { s with printed := s.printed ++ [v] }
  | .reader => { s with current := (s.current.1, some v) }

/-- The attempt that ends with this answer. -/
def State.attempt (s : State) (again : Bool) : Attempt :=
  ⟨s.current.1, s.current.2, s.begun, s.ended, again⟩

/-- What each operation does. -/
def sem (e : Env) (r : Role) : Prog.Sem Op Op.Ans State
  | .kthreadShouldStop, s => .done e.stop s
  | .writeSeqlock, s => .done () { s with lock := s.lock.writeLock, begun := s.begun + 1 }
  | .writeSequnlock, s => .done () { s with lock := s.lock.writeUnlock, ended := s.ended + 1 }
  | .readSeqbegin, s => .done s.lock.sequence { s with current := (s.ended, none) }
  | .readSeqretry start, s =>
      .done (s.lock.retry start)
        { s with attempts := s.attempts ++ [s.attempt (s.lock.retry start)] }
  | .load, s => .done s.seqVariable s
  | .store v, s => .done () { s with seqVariable := v }
  | .print v, s => .done () (s.show v r)
  | .msleep _, s => .done () s

/-! ## The thread functions -/

/-- `thread_function` -/
def threadFunction : Driver := do
  let stop ← op Op.kthreadShouldStop
  if stop then pure (.returned 0)
  else
    op Op.writeSeqlock
    let v ← op Op.load
    op (Op.store (v + 1))
    let v ← op Op.load
    op (Op.print v)
    op Op.writeSequnlock
    op (Op.msleep 2000)
    pure .loop

/-- The body of the inner loop of `thread_function1`, and what follows the loop. -/
def attempt : Driver := do
  let seqNo ← op Op.readSeqbegin
  let v ← op Op.load
  op (Op.print v)
  let again ← op (Op.readSeqretry seqNo)
  if again then pure .retry
  else
    op (Op.msleep 2000)
    pure .loop

/-- `thread_function1` -/
def threadFunction1 : Driver := do
  let stop ← op Op.kthreadShouldStop
  if stop then pure (.returned 0)
  else attempt

/-- The function that a thread runs. -/
def Role.body : Role → Driver
  | writer => threadFunction
  | reader => threadFunction1

/-! ## The machine -/

/-- The state and the two threads. -/
abbrev World : Type := Pool Op Op.Ans Role Round State

/-- `read_seqbegin` waits for an even number, `write_seqlock` for the end of a section. -/
def machine : Machine Op Op.Ans Role Round State Env Empty where
  sem := sem
  ready s _ o := match o with
    | .writeSeqlock => !s.lock.locked
    | .readSeqbegin => s.lock.readable
    | _ => true
  again r a := match a with
    | .returned _ => none
    | .loop => some r.body
    | .retry => some attempt
  event n _ := n.elim

/-- The module after it has been loaded. -/
def loaded : World where
  shared := ⟨.init, 0, 0, 0, [], (0, none), []⟩
  threads := [⟨.writer, Role.writer.body⟩, ⟨.reader, Role.reader.body⟩]

/-- The runs of the module. -/
def system : System World (Move Env Empty) := machine.system (· = loaded)

/-! ## Where the threads are -/

/-- Where a thread is in its round. -/
inductive Stage where
  | outside
  -- the writer in its section: before the load, before the store of the value loaded plus 1,
  -- before the second load, before the print of what it has loaded, and after that
  | entered | loaded (v : BitVec 64) | stored | reloaded (v : BitVec 64) | shown
  -- the reader, with the number it has got: before the load, before the print, after it
  | started (n : BitVec 32) | seen (n : BitVec 32) (v : BitVec 64) | told (n : BitVec 32)
deriving DecidableEq, Repr

/-- The stages of an operation. -/
@[simp] def Stage.allow (r : Role) (st : Stage) (o : Op) : Prop :=
  match o with
  | .kthreadShouldStop | .msleep _ => st = .outside
  | .writeSeqlock => r = .writer ∧ st = .outside
  | .store v => r = .writer ∧ st = .loaded (v - 1)
  | .writeSequnlock => r = .writer ∧ st = .shown
  | .readSeqbegin => r = .reader ∧ st = .outside
  | .readSeqretry n => r = .reader ∧ st = .told n
  | .load => match r with
    | .writer => st = .entered ∨ st = .stored
    | .reader => ∃ n, st = .started n
  | .print v => match r with
    | .writer => st = .reloaded v
    | .reader => ∃ n, st = .seen n v

/-- The stage after `seq_variable` has been loaded. -/
@[simp] def Stage.afterLoad (v : BitVec 64) : Stage → Stage
  | .entered => .loaded v
  | .stored => .reloaded v
  | .started n => .seen n v
  | st => st

/-- The stage after a print. -/
@[simp] def Stage.afterPrint : Stage → Stage
  | .seen n _ => .told n
  | _ => .shown

/-- The stage after an operation. -/
@[simp] def Stage.after (st : Stage) (o : Op) (x : o.Ans) : Stage :=
  match o with
  | .writeSeqlock => .entered
  | .load => st.afterLoad x
  | .store _ => .stored
  | .print _ => st.afterPrint
  | .writeSequnlock | .readSeqretry _ => .outside
  | .readSeqbegin => .started x
  | .kthreadShouldStop | .msleep _ => st

/-- The stages of a round. -/
@[simps]
def proto (r : Role) : Protocol Op Op.Ans Stage where
  allow := Stage.allow r
  expect _ _ _ := True
  after := Stage.after

/-- A round ends outside of a section, and only the reader tries again. -/
@[simp] def Ends (r : Role) (st : Stage) (a : Round) : Prop :=
  st = .outside ∧ (a = .retry → r = .reader)

lemma follows_attempt : attempt.Follows (proto .reader) .outside (Ends .reader) := by
  simp [attempt, op]

lemma follows_body (r : Role) : r.body.Follows (proto r) .outside (Ends r) := by
  cases r with
  | writer =>
    have hsub (v : BitVec 64) : v + 1#64 - 1#64 = v := BitVec.add_sub_cancel v 1#64
    simp [Role.body, threadFunction, op, hsub]
  | reader => simp [Role.body, threadFunction1, op, follows_attempt]

/-! ## What holds where -/

/-- What is known of an attempt that has ended. -/
structure Attempt.Sound (a : Attempt) : Prop where
  order : a.since ≤ a.ended
  passes : a.again = false ↔ a.begun = a.ended ∧ 2 ^ 31 ∣ a.ended - a.since
  quiet : a.ended - a.since < 2 ^ 31 → a.again = false → a.begun = a.since
  value : ∃ k, a.value = some (.ofNat 64 k) ∧ a.since ≤ k ∧ k ≤ a.begun

/-- What always holds. -/
structure Guarded (s : State) : Prop where
  history : s.lock.History s.begun s.ended
  between : ∃ k, s.seqVariable = .ofNat 64 k ∧ s.ended ≤ k ∧ k ≤ s.begun
  printed : s.printed = (List.range s.printed.length).map fun i => BitVec.ofNat 64 (i + 1)
  attempts : ∀ a ∈ s.attempts, a.Sound
  inOrder : s.attempts.Pairwise fun a a' => a.ended ≤ a'.since
  past : ∀ a ∈ s.attempts, a.ended ≤ s.ended

/-- What the writer knows. -/
structure Holding (s : State) (locked : Bool) (value prints : ℕ) : Prop where
  locked : s.lock.locked = locked
  value : s.seqVariable = .ofNat 64 value
  prints : s.printed.length = prints

/-- The writer at a stage. -/
@[simp] def Writing (s : State) : Stage → Prop
  | .outside => Holding s false s.ended s.ended
  | .entered => Holding s true s.ended s.ended
  | .loaded v => v = s.seqVariable ∧ Holding s true s.ended s.ended
  | .stored => Holding s true (s.ended + 1) s.ended
  | .reloaded v => v = s.seqVariable ∧ Holding s true (s.ended + 1) s.ended
  | .shown => Holding s true (s.ended + 1) (s.ended + 1)
  | .started _ | .seen _ _ | .told _ => False

/-- The reader with the number of `read_seqbegin`. -/
structure Reading (s : State) (n : BitVec 32) : Prop where
  number : n = .ofNat 32 (2 * s.current.1)
  since : s.current.1 ≤ s.ended
  past : ∀ a ∈ s.attempts, a.ended ≤ s.current.1

/-- The value after one of the sections since the attempt began. -/
def Recent (s : State) (v : BitVec 64) : Prop :=
  ∃ k, v = .ofNat 64 k ∧ s.current.1 ≤ k ∧ k ≤ s.begun

/-- The reader at a stage. -/
@[simp] def Trying (s : State) : Stage → Prop
  | .outside => True
  | .started n => Reading s n
  | .seen n v => Reading s n ∧ Recent s v
  | .told n => Reading s n ∧ ∃ v, s.current.2 = some v ∧ Recent s v
  | _ => False

/-- The position of a thread in the pool. -/
def Role.position : Role → ℕ
  | writer => 0
  | reader => 1

/-- What a thread at a stage knows. -/
@[simp] def RoleAt (s : State) (st : Stage) : Role → Prop
  | .writer => Writing s st
  | .reader => Trying s st

/-- What holds of the lock and of the variable while a thread is at a stage. -/
@[simps]
def outline : Outline Op Op.Ans Role Round State Stage Unit where
  proto := proto
  ends := Ends
  here _ j r st s := r.position = j ∧ RoleAt s st r
  always _ := Guarded

/-! ## What the threads leave to each other -/

/-- What the writer does not touch, and the sections do not become fewer. -/
structure Later (s s' : State) : Prop where
  current : s'.current = s.current
  attempts : s'.attempts = s.attempts
  begun : s.begun ≤ s'.begun
  ended : s.ended ≤ s'.ended

/-- What the reader does not touch. -/
structure Kept (s s' : State) : Prop where
  lock : s'.lock = s.lock
  seqVariable : s'.seqVariable = s.seqVariable
  begun : s'.begun = s.begun
  ended : s'.ended = s.ended
  printed : s'.printed = s.printed

section Frame

variable {s s' : State} {st : Stage}

lemma Reading.later {n : BitVec 32} (h : Reading s n) (hs : Later s s') : Reading s' n := by
  refine ⟨?_, ?_, ?_⟩
  · rw [hs.current]
    exact h.number
  · rw [hs.current]
    exact h.since.trans hs.ended
  · rw [hs.current, hs.attempts]
    exact h.past

lemma Recent.later {v : BitVec 64} (h : Recent s v) (hs : Later s s') : Recent s' v := by
  obtain ⟨k, hv, hle, hge⟩ := h
  refine ⟨k, hv, ?_, hge.trans hs.begun⟩
  rw [hs.current]
  exact hle

lemma trying_later (h : Trying s st) (hs : Later s s') : Trying s' st := by
  cases st with
  | outside => trivial
  | started n => exact h.later hs
  | seen n v => exact ⟨h.1.later hs, h.2.later hs⟩
  | told n =>
    obtain ⟨hreading, v, hv, hrecent⟩ := h
    exact ⟨hreading.later hs, v, by rw [hs.current]; exact hv, hrecent.later hs⟩
  | _ => exact h

lemma Holding.kept {b : Bool} {k n : ℕ} (h : Holding s b k n) (hs : Kept s s') :
    Holding s' b k n := by
  refine ⟨?_, ?_, ?_⟩
  · rw [hs.lock]
    exact h.locked
  · rw [hs.seqVariable]
    exact h.value
  · rw [hs.printed]
    exact h.prints

lemma writing_kept (h : Writing s st) (hs : Kept s s') : Writing s' st := by
  have hended := hs.ended
  have hvariable := hs.seqVariable
  cases st with
  | outside | entered | stored | shown =>
    rw [Writing, hended]
    exact Holding.kept h hs
  | loaded v | reloaded v =>
    rw [Writing, hended, hvariable]
    exact ⟨h.1, h.2.kept hs⟩
  | _ => exact h

end Frame

section Sound

variable {w : World} {i : ℕ} {e : Env} {st : Stage} {s : State}

/-- What an operation of the writer has to give. -/
lemma lands_writer (hpos : Role.writer.position = i) (halways : Guarded s) (hown : Writing s st)
    (hlater : Later w.shared s) : outline.Lands () () w i .writer st s where
  always := halways
  own := ⟨hpos, hown⟩
  others j th st' hj _ hat := by
    obtain ⟨hpos', hrole⟩ := hat.here
    refine ⟨hpos', ?_⟩
    cases hth : th.role with
    | writer =>
      rw [hth] at hpos'
      exact absurd (hpos'.symm.trans hpos) hj
    | reader =>
      rw [hth] at hrole
      exact trying_later hrole hlater

/-- What an operation of the reader has to give. -/
lemma lands_reader (hpos : Role.reader.position = i) (halways : Guarded s) (hown : Trying s st)
    (hkept : Kept w.shared s) : outline.Lands () () w i .reader st s where
  always := halways
  own := ⟨hpos, hown⟩
  others j th st' hj _ hat := by
    obtain ⟨hpos', hrole⟩ := hat.here
    refine ⟨hpos', ?_⟩
    cases hth : th.role with
    | reader =>
      rw [hth] at hpos'
      exact absurd (hpos'.symm.trans hpos) hj
    | writer =>
      rw [hth] at hrole
      exact writing_kept hrole hkept

/-- A step that changes nothing. -/
lemma lands_same {r : Role} {st' : Stage} (hw : outline.Holds () w) (hpos : r.position = i)
    (hown : RoleAt w.shared st' r) : outline.Lands () () w i r st' w.shared :=
  ⟨hw.always, ⟨hpos, hown⟩, fun _ _ _ _ _ hat => hat.here⟩

/-! ### The writer -/

lemma lands_writeSeqlock (hw : outline.Holds () w)
    (hhere : outline.here () i .writer .outside w.shared) :
    outline.Lands () () w i .writer .entered
      { w.shared with lock := w.shared.lock.writeLock, begun := w.shared.begun + 1 } := by
  obtain ⟨hpos, hholding⟩ := hhere
  have hholding : Holding w.shared false w.shared.ended w.shared.ended := hholding
  obtain ⟨hhistory, ⟨k, hk, hle, hge⟩, hprinted, hattempts, hinOrder, hpast⟩ := hw.always
  have hguarded : Guarded
      { w.shared with lock := w.shared.lock.writeLock, begun := w.shared.begun + 1 } :=
    ⟨hhistory.writeLock hholding.locked, ⟨k, hk, hle, hge.trans (Nat.le_succ _)⟩, hprinted,
      hattempts, hinOrder, hpast⟩
  exact lands_writer hpos hguarded ⟨rfl, hholding.value, hholding.prints⟩
    ⟨rfl, rfl, Nat.le_succ _, Nat.le_refl _⟩

/-- The variable is incremented. -/
lemma lands_store {v : BitVec 64} (hw : outline.Holds () w)
    (hhere : outline.here () i .writer (.loaded (v - 1)) w.shared) :
    outline.Lands () () w i .writer .stored { w.shared with seqVariable := v } := by
  obtain ⟨hpos, hv, hholding⟩ := hhere
  obtain ⟨hhistory, -, hprinted, hattempts, hinOrder, hpast⟩ := hw.always
  have hbegun : w.shared.begun = w.shared.ended + 1 := by
    rw [hhistory.sections, hholding.locked]
    rfl
  have hnew : v = .ofNat 64 (w.shared.ended + 1) := by
    rw [hholding.value] at hv
    rw [BitVec.ofNat_add, ← hv]
    exact (BitVec.sub_add_cancel v 1).symm
  have hguarded : Guarded { w.shared with seqVariable := v } :=
    ⟨hhistory, ⟨_, hnew, Nat.le_succ _, Nat.le_of_eq hbegun.symm⟩, hprinted, hattempts, hinOrder,
      hpast⟩
  exact lands_writer hpos hguarded ⟨hholding.locked, hnew, hholding.prints⟩
    ⟨rfl, rfl, Nat.le_refl _, Nat.le_refl _⟩

/-- The new value is printed. -/
lemma lands_printWriter {v : BitVec 64} (hw : outline.Holds () w)
    (hhere : outline.here () i .writer (.reloaded v) w.shared) :
    outline.Lands () () w i .writer .shown
      { w.shared with printed := w.shared.printed ++ [v] } := by
  obtain ⟨hpos, hv, hholding⟩ := hhere
  obtain ⟨hhistory, hbetween, hprinted, hattempts, hinOrder, hpast⟩ := hw.always
  have hlen : (w.shared.printed ++ [v]).length = w.shared.ended + 1 := by
    rw [List.length_append, hholding.prints, List.length_singleton]
  have hnew : w.shared.printed ++ [v] =
      (List.range (w.shared.printed ++ [v]).length).map fun i => BitVec.ofNat 64 (i + 1) := by
    rw [hlen, List.range_succ, List.map_append, ← hholding.prints, ← hprinted, hv, hholding.value,
      hholding.prints, List.map_singleton]
  have hguarded : Guarded { w.shared with printed := w.shared.printed ++ [v] } :=
    ⟨hhistory, hbetween, hnew, hattempts, hinOrder, hpast⟩
  exact lands_writer hpos hguarded ⟨hholding.locked, hholding.value, hlen⟩
    ⟨rfl, rfl, Nat.le_refl _, Nat.le_refl _⟩

lemma lands_writeSequnlock (hw : outline.Holds () w)
    (hhere : outline.here () i .writer .shown w.shared) :
    outline.Lands () () w i .writer .outside
      { w.shared with lock := w.shared.lock.writeUnlock, ended := w.shared.ended + 1 } := by
  obtain ⟨hpos, hholding⟩ := hhere
  have hholding : Holding w.shared true (w.shared.ended + 1) (w.shared.ended + 1) := hholding
  obtain ⟨hhistory, -, hprinted, hattempts, hinOrder, hpast⟩ := hw.always
  have hbegun : w.shared.begun = w.shared.ended + 1 := by
    rw [hhistory.sections, hholding.locked]
    rfl
  have hguarded : Guarded
      { w.shared with lock := w.shared.lock.writeUnlock, ended := w.shared.ended + 1 } :=
    ⟨hhistory.writeUnlock hholding.locked,
      ⟨_, hholding.value, Nat.le_refl _, Nat.le_of_eq hbegun.symm⟩, hprinted, hattempts, hinOrder,
      fun a ha => (hpast a ha).trans (Nat.le_succ _)⟩
  exact lands_writer hpos hguarded ⟨rfl, hholding.value, hholding.prints⟩
    ⟨rfl, rfl, Nat.le_refl _, Nat.le_succ _⟩

/-! ### The reader -/

lemma lands_readSeqbegin (hw : outline.Holds () w)
    (hhere : outline.here () i .reader .outside w.shared) (hready : w.shared.lock.readable = true) :
    outline.Lands () () w i .reader (.started w.shared.lock.sequence)
      { w.shared with current := (w.shared.ended, none) } := by
  obtain ⟨hpos, -⟩ := hhere
  obtain ⟨hhistory, hbetween, hprinted, hattempts, hinOrder, hpast⟩ := hw.always
  have hquiet : w.shared.begun = w.shared.ended := hhistory.readable_iff.1 hready
  have hnumber : w.shared.lock.sequence = .ofNat 32 (2 * w.shared.ended) := by
    rw [hhistory.sequence, hquiet, Nat.two_mul]
  have hguarded : Guarded { w.shared with current := (w.shared.ended, none) } :=
    ⟨hhistory, hbetween, hprinted, hattempts, hinOrder, hpast⟩
  exact lands_reader hpos hguarded ⟨hnumber, Nat.le_refl _, hpast⟩ ⟨rfl, rfl, rfl, rfl, rfl⟩

/-- What the reader loads may be the value of a section that has not ended. -/
lemma recent_of_guarded {n : BitVec 32} (hs : Guarded s) (hreading : Reading s n) :
    Recent s s.seqVariable := by
  obtain ⟨k, hk, hle, hge⟩ := hs.between
  exact ⟨k, hk, hreading.since.trans hle, hge⟩

lemma lands_printReader {n : BitVec 32} {v : BitVec 64} (hw : outline.Holds () w)
    (hhere : outline.here () i .reader (.seen n v) w.shared) :
    outline.Lands () () w i .reader (.told n)
      { w.shared with current := (w.shared.current.1, some v) } := by
  obtain ⟨hpos, hreading, hrecent⟩ := hhere
  obtain ⟨hhistory, hbetween, hprinted, hattempts, hinOrder, hpast⟩ := hw.always
  have hguarded : Guarded { w.shared with current := (w.shared.current.1, some v) } :=
    ⟨hhistory, hbetween, hprinted, hattempts, hinOrder, hpast⟩
  exact lands_reader hpos hguarded
    ⟨⟨hreading.number, hreading.since, hreading.past⟩, v, rfl, hrecent⟩ ⟨rfl, rfl, rfl, rfl, rfl⟩

/-- The attempt ends. -/
lemma lands_readSeqretry {n : BitVec 32} (hw : outline.Holds () w)
    (hhere : outline.here () i .reader (.told n) w.shared) :
    outline.Lands () () w i .reader .outside
      { w.shared with
        attempts := w.shared.attempts ++ [w.shared.attempt (w.shared.lock.retry n)] } := by
  obtain ⟨hpos, hreading, v, hv, k, hk, hle, hge⟩ := hhere
  obtain ⟨hhistory, hbetween, hprinted, hattempts, hinOrder, hpast⟩ := hw.always
  have hsound : (w.shared.attempt (w.shared.lock.retry n)).Sound := by
    rw [State.attempt, hreading.number]
    refine ⟨hreading.since, hhistory.retry_eq_false_iff hreading.since, fun hfew hpass => ?_, k,
      ?_, hle, hge⟩
    · exact (hhistory.quiet hreading.since hfew hpass).1
    · rw [hv, hk]
  have hguarded : Guarded { w.shared with
      attempts := w.shared.attempts ++ [w.shared.attempt (w.shared.lock.retry n)] } := by
    refine ⟨hhistory, hbetween, hprinted, fun a ha => ?_, ?_, fun a ha => ?_⟩
    · rcases List.mem_append.1 ha with ha | ha
      · exact hattempts a ha
      · obtain rfl := List.mem_singleton.1 ha
        exact hsound
    · refine List.pairwise_append.2 ⟨hinOrder, List.pairwise_singleton .., fun a ha a' ha' => ?_⟩
      obtain rfl := List.mem_singleton.1 ha'
      exact hreading.past a ha
    · rcases List.mem_append.1 ha with ha | ha
      · exact hpast a ha
      · obtain rfl := List.mem_singleton.1 ha
        exact Nat.le_refl _
  exact lands_reader hpos hguarded trivial ⟨rfl, rfl, rfl, rfl, rfl⟩

lemma sound_outline : outline.Sound machine fun _ _ => True where
  act {_ w i e r st o k x s} hw _ _ hst hready hsem := by
    have hallow : st.allow r o := hst.follows.1
    have hhere := hst.here
    suffices h : outline.Lands () () w i r (st.after o x) s from
      ⟨trivial, (), h.always, h.own, h.others⟩
    cases o with
    | kthreadShouldStop | msleep ms =>
      obtain ⟨-, rfl⟩ := Outcome.done.inj hsem
      exact lands_same hw hhere.1 hhere.2
    | writeSeqlock =>
      obtain ⟨-, rfl⟩ := Outcome.done.inj hsem
      obtain ⟨rfl, rfl⟩ := hallow
      exact lands_writeSeqlock hw hhere
    | store v =>
      obtain ⟨-, rfl⟩ := Outcome.done.inj hsem
      obtain ⟨rfl, rfl⟩ := hallow
      exact lands_store hw hhere
    | writeSequnlock =>
      obtain ⟨-, rfl⟩ := Outcome.done.inj hsem
      obtain ⟨rfl, rfl⟩ := hallow
      exact lands_writeSequnlock hw hhere
    | readSeqbegin =>
      obtain ⟨rfl, rfl⟩ := Outcome.done.inj hsem
      obtain ⟨rfl, rfl⟩ := hallow
      exact lands_readSeqbegin hw hhere hready
    | readSeqretry n =>
      obtain ⟨rfl, rfl⟩ := Outcome.done.inj hsem
      obtain ⟨rfl, rfl⟩ := hallow
      exact lands_readSeqretry hw hhere
    | load =>
      obtain ⟨rfl, rfl⟩ := Outcome.done.inj hsem
      obtain ⟨hpos, hrole⟩ := hhere
      cases r with
      | writer =>
        rcases hallow with rfl | rfl
        · exact lands_same hw hpos ⟨rfl, hrole⟩
        · exact lands_same hw hpos ⟨rfl, hrole⟩
      | reader =>
        obtain ⟨n, rfl⟩ := hallow
        exact lands_same hw hpos ⟨hrole, recent_of_guarded hw.always hrole⟩
    | print v =>
      obtain ⟨-, rfl⟩ := Outcome.done.inj hsem
      cases r with
      | writer =>
        obtain rfl : st = .reloaded v := hallow
        exact lands_printWriter hw hhere
      | reader =>
        obtain ⟨n, rfl⟩ := hallow
        exact lands_printReader hw hhere
  again {_ _ _ r st a p} hst hagain := by
    obtain ⟨hout, hretry⟩ : Ends r st a := hst.follows
    obtain rfl : st = .outside := hout
    cases a with
    | returned v => cases hagain
    | loop =>
      obtain rfl := Option.some.inj hagain
      exact follows_body r
    | retry =>
      obtain rfl := Option.some.inj hagain
      obtain rfl := hretry rfl
      exact follows_attempt
  event {_ _ n} _ _ _ := n.elim

end Sound

/-- Before the first step. -/
lemma holds_loaded : outline.Holds () loaded := by
  refine ⟨⟨SeqLock.history_init, ⟨0, rfl, Nat.le_refl _, Nat.le_refl _⟩, rfl,
    fun _ ha => (by cases ha), .nil, fun _ ha => (by cases ha)⟩, fun j th hj => ⟨.outside, ?_⟩⟩
  match j, hj with
  | 0, hj =>
    obtain rfl := Option.some.inj hj
    exact ⟨follows_body .writer, rfl, rfl, rfl, rfl⟩
  | 1, hj =>
    obtain rfl := Option.some.inj hj
    exact ⟨follows_body .reader, rfl, trivial⟩

/-- **What the reader gets.** In every interleaving each attempt prints the value after one of
the sections that began before its end and not before the last one that had ended at its
beginning.  It is let through exactly when nobody is in a section and a multiple of 2^31
sections have ended since it began; if these are fewer than 2^31, there was none at all, and
what it printed is the value that the variable had all the time.  The attempts do not go back,
and the writer prints 1, 2, 3, … -/
theorem attempts_consistent {w : World} (hw : system.Reachable w) :
    (∀ a ∈ w.shared.attempts,
      (∃ k, a.value = some (.ofNat 64 k) ∧ a.since ≤ k ∧ k ≤ a.begun) ∧
      (a.again = false ↔ a.begun = a.ended ∧ 2 ^ 31 ∣ a.ended - a.since) ∧
      (a.ended - a.since < 2 ^ 31 → a.again = false →
        a.begun = a.since ∧ a.value = some (.ofNat 64 a.since))) ∧
    w.shared.attempts.Pairwise (fun a a' => a.since ≤ a.ended ∧ a.ended ≤ a'.since) ∧
    ∀ i v, w.shared.printed[i]? = some v → v = BitVec.ofNat 64 (i + 1) := by
  have hinit : ∀ v, v = loaded → ∃ g, outline.Holds g v := by
    rintro _ rfl
    exact ⟨(), holds_loaded⟩
  obtain ⟨⟨⟩, hholds⟩ := sound_outline.holds_of_reach hinit hw
  obtain ⟨-, -, hprinted, hattempts, hinOrder, -⟩ := hholds.always
  refine ⟨fun a ha => ?_, ?_, fun i v hv => ?_⟩
  · obtain ⟨-, hpasses, hquiet, k, hk, hle, hge⟩ := hattempts a ha
    refine ⟨⟨k, hk, hle, hge⟩, hpasses, fun hfew hpass => ?_⟩
    have hbegun := hquiet hfew hpass
    obtain rfl : k = a.since := by omega
    exact ⟨hbegun, hk⟩
  · exact hinOrder.imp_of_mem fun ha _ hle => ⟨(hattempts _ ha).order, hle⟩
  · rw [hprinted, List.getElem?_map] at hv
    obtain ⟨j, hj, rfl⟩ := Option.map_eq_some_iff.1 hv
    obtain ⟨hlt, rfl⟩ := List.getElem?_eq_some_iff.1 hj
    rw [List.getElem_range]

/-- The first attempt prints the value of a section that has not ended and is repeated; the
second one is let through. -/
theorem attempts_consistent_two :
    ∃ w, system.Reachable w ∧
      w.shared.attempts = [⟨0, some 1, 1, 0, true⟩, ⟨1, some 1, 1, 1, false⟩] ∧
      ∀ i v, w.shared.printed[i]? = some v → v = BitVec.ofNat 64 (i + 1) := by
  obtain ⟨w, hw, hattempts⟩ := System.exists_reachable (S := system)
    (P := fun w => w.shared.attempts = [⟨0, some 1, 1, 0, true⟩, ⟨1, some 1, 1, 1, false⟩])
    -- the reader begins, the writer stores, the reader loads, prints and is told to try again
    ([.run 1 {}, .run 1 {}, .run 0 {}, .run 0 {}, .run 0 {}, .run 0 {}, .run 1 {}, .run 1 {},
      .run 1 {}] ++
    -- the writer ends its section, and the reader goes through
      [.run 0 {}, .run 0 {}, .run 0 {}, .run 1 {}, .run 1 {}, .run 1 {}, .run 1 {}, .run 1 {}])
    (.init rfl) (by decide +kernel)
  exact ⟨w, hw, hattempts, (attempts_consistent hw).2.2⟩

end KernelDriverLab.Seqlock
