import KernelDriverLab.Lib.Progress
import KernelDriverLab.Lib.RwLock
import Mathlib.Algebra.Group.Nat.Defs

/-!
# The threads of rwspinlock_module.c

One thread adds 10 to `global_variable` as a writer, and measures how long that takes; two
threads print the variable as readers, at the same time or not.

The ghost fields of the state are the number of sections of the writer that have ended, and
what has been printed, each time with that number.
-/

namespace KernelDriverLab.Rwlock

open Lib Prog

/-- The threads, in the order in which `hello_init` starts them. -/
inductive Role where
  | writer
  | reader1
  | reader2
deriving DecidableEq, Repr

/-- The operations on the lock and on `global_variable`. -/
inductive Op where
  | kthreadShouldStop
  | rdtsc
  /-- Store into `start`. -/
  | setStart (t : BitVec 64)
  /-- Store into `end`. -/
  | setEnd (t : BitVec 64)
  /-- Load `end - start`. -/
  | loadCycles
  | writeLock
  | writeUnlock
  | readLock
  | readUnlock
  /-- Load `global_variable`. -/
  | load
  /-- Store into `global_variable`. -/
  | store (v : BitVec 32)
  /-- `pr_info` with the value of `global_variable`. -/
  | print (v : BitVec 32)
  /-- `pr_info` with the number of cycles. -/
  | printCycles (c : BitVec 64)
  | msleep (ms : ℕ)
deriving DecidableEq, Repr

/-- What an operation answers. -/
@[reducible] def Op.Ans : Op → Type
  | kthreadShouldStop => Bool
  | rdtsc | loadCycles => BitVec 64
  | load => BitVec 32
  | _ => Unit

/-- A round of a loop ends with the value of the function, or goes back to the start. -/
abbrev Driver : Type := Prog Op Op.Ans (Option Int)

/-- What a thread has printed, and the sections of the writer that had ended then. -/
structure Print where
  role : Role
  value : BitVec 32
  completed : ℕ
deriving DecidableEq, Repr

/-- The lock and the variable, with what has happened under it. -/
structure State where
  lock : RwLock Role
  globalVariable : BitVec 32
  /-- `start` -/
  started : BitVec 64
  /-- `end` -/
  finished : BitVec 64
  completed : ℕ
  /-- What has been printed, in order. -/
  prints : List Print
deriving DecidableEq, Repr

/-- What the kernel chooses. -/
structure Env where
  /-- What `kthread_should_stop` returns. -/
  stop : Bool := false
  tsc : BitVec 64 := 0
deriving Inhabited

/-- What each operation does. -/
def sem (e : Env) (r : Role) : Prog.Sem Op Op.Ans State
  | .kthreadShouldStop, s => .done e.stop s
  | .rdtsc, s => .done e.tsc s
  | .setStart t, s => .done () { s with started := t }
  | .setEnd t, s => .done () { s with finished := t }
  | .loadCycles, s => .done (s.finished - s.started) s
  | .writeLock, s => .done () { s with lock := s.lock.writeLock r }
  | .writeUnlock, s =>
      .done () { s with lock := s.lock.writeUnlock, completed := s.completed + 1 }
  | .readLock, s => .done () { s with lock := s.lock.readLock r }
  | .readUnlock, s => .done () { s with lock := s.lock.readUnlock r }
  | .load, s => .done s.globalVariable s
  | .store v, s => .done () { s with globalVariable := v }
  | .print v, s => .done () { s with prints := s.prints ++ [⟨r, v, s.completed⟩] }
  | .printCycles _, s => .done () s
  | .msleep _, s => .done () s

/-! ## The thread functions -/

/-- `thread_function` -/
def threadFunction : Driver := do
  let stop ← op Op.kthreadShouldStop
  if stop then pure (some 0)
  else
    let start ← op Op.rdtsc
    op (Op.setStart start)
    op Op.writeLock
    let v ← op Op.load
    op (Op.store (v + 10))
    let v ← op Op.load
    op (Op.print v)
    op Op.writeUnlock
    let finish ← op Op.rdtsc
    op (Op.setEnd finish)
    let cycles ← op Op.loadCycles
    op (Op.printCycles cycles)
    op (Op.msleep 2000)
    pure none

/-- A round of the loop of the two readers. -/
def readingThread : Driver := do
  let stop ← op Op.kthreadShouldStop
  if stop then pure (some 0)
  else
    op Op.readLock
    let v ← op Op.load
    op (Op.print v)
    op Op.readUnlock
    op (Op.msleep 1000)
    pure none

/-- `thread_function1` -/
def threadFunction1 : Driver := readingThread

/-- `thread_function2` -/
def threadFunction2 : Driver := readingThread

/-- The function that a thread runs. -/
def Role.body : Role → Driver
  | writer => threadFunction
  | reader1 => threadFunction1
  | reader2 => threadFunction2

/-! ## The machine -/

/-- The state and the three threads. -/
abbrev World : Type := Pool Op Op.Ans Role (Option Int) State

/-- The three threads go on until they are asked to stop. -/
def machine : Machine Op Op.Ans Role (Option Int) State Env Empty where
  sem := sem
  ready s _ o := match o with
    | .readLock => s.lock.canRead
    | .writeLock => s.lock.canWrite
    | _ => true
  again r a := match a with
    | none => some r.body
    | some _ => none
  event n _ := n.elim

/-- The module after it has been loaded. -/
def loaded : World where
  shared := ⟨.init, 0, 0, 0, 0, []⟩
  threads := [⟨.writer, Role.writer.body⟩, ⟨.reader1, Role.reader1.body⟩,
    ⟨.reader2, Role.reader2.body⟩]

/-- The runs of the module. -/
def system : System World (Move Env Empty) := machine.system (· = loaded)

/-! ## Where the threads are -/

/-- Where a thread is in its round. -/
inductive Stage where
  | outside
  -- in a section: before the load, before the store of the value loaded plus 10, before the
  -- second load, before the print of what has been loaded, and after it
  | entered | loaded (v : BitVec 32) | stored | seen (v : BitVec 32) | shown
deriving DecidableEq, Repr

/-- The stages of an operation. -/
@[simp] def Stage.allow (r : Role) (st : Stage) (o : Op) : Prop :=
  match o with
  | .kthreadShouldStop | .rdtsc | .setStart _ | .setEnd _ | .loadCycles | .printCycles _
  | .msleep _ => st = .outside
  | .writeLock => r = .writer ∧ st = .outside
  | .readLock => r ≠ .writer ∧ st = .outside
  | .load => st = .entered ∨ r = .writer ∧ st = .stored
  | .store v => r = .writer ∧ st = .loaded (v - 10)
  | .print v => st = .seen v
  | .writeUnlock => r = .writer ∧ st = .shown
  | .readUnlock => r ≠ .writer ∧ st = .shown

/-- The stage after a load: only the writer loads twice. -/
@[simp] def Stage.afterLoad (r : Role) (v : BitVec 32) (st : Stage) : Stage :=
  if r = .writer ∧ st = .entered then .loaded v else .seen v

/-- The stage after an operation. -/
@[simp] def Stage.after (r : Role) (st : Stage) (o : Op) (x : o.Ans) : Stage :=
  match o with
  | .writeLock | .readLock => .entered
  | .load => st.afterLoad r x
  | .store _ => .stored
  | .print _ => .shown
  | .writeUnlock | .readUnlock => .outside
  | _ => st

/-- The stages of a round. -/
@[simps]
def proto (r : Role) : Protocol Op Op.Ans Stage where
  allow := Stage.allow r
  expect _ _ _ := True
  after := Stage.after r

/-- A round ends outside of the section. -/
@[simp] def Ends (st : Stage) (_ : Option Int) : Prop := st = .outside

lemma follows_body (r : Role) : r.body.Follows (proto r) .outside Ends := by
  have hsub (v : BitVec 32) : v + 10#32 - 10#32 = v := BitVec.add_sub_cancel v 10#32
  cases r with
  | writer => simp [Role.body, threadFunction, op, hsub]
  | reader1 => simp [Role.body, threadFunction1, readingThread, op]
  | reader2 => simp [Role.body, threadFunction2, readingThread, op]

/-! ## What holds where -/

/-- `global_variable` after `k` sections. -/
def valueAfter (k : ℕ) : BitVec 32 := .ofNat 32 (10 * k)

lemma valueAfter_succ (k : ℕ) : valueAfter (k + 1) = valueAfter k + 10 := BitVec.ofNat_add ..

/-- The writer prints the value after its own section, a reader the value after the last one. -/
def Print.Sound (p : Print) : Prop :=
  p.value = valueAfter (if p.role = .writer then p.completed + 1 else p.completed)

/-- What the writer has printed, in order. -/
def State.written (s : State) : List Print := s.prints.filter fun p => p.role = .writer

/-- The variable is that after `sections` sections, and the writer has printed so many times. -/
structure Holding (s : State) (sections prints : ℕ) : Prop where
  value : s.globalVariable = valueAfter sections
  prints : s.written.length = prints

/-- What always holds. -/
structure Guarded (s : State) : Prop where
  free : s.lock.writer = none → Holding s s.completed s.completed
  nodup : s.lock.readers.Nodup
  prints : ∀ p ∈ s.prints, p.Sound ∧ p.completed ≤ s.completed
  inOrder : s.prints.Pairwise fun p p' => p.completed ≤ p'.completed
  /-- The writer has printed in each of its sections, one after the other. -/
  written : s.written.map Print.completed = List.range s.written.length
  once : s.completed ≤ s.written.length ∧ s.written.length ≤ s.completed + 1

/-- The writer in its section. -/
@[simp] def Writing (s : State) : Stage → Prop
  | .outside => False
  | .entered => Holding s s.completed s.completed
  | .loaded v => v = s.globalVariable ∧ Holding s s.completed s.completed
  | .stored => Holding s (s.completed + 1) s.completed
  | .seen v => v = s.globalVariable ∧ Holding s (s.completed + 1) s.completed
  | .shown => Holding s (s.completed + 1) (s.completed + 1)

/-- A reader in its section. -/
@[simp] def Reading (s : State) : Stage → Prop
  | .entered | .shown => True
  | .seen v => v = valueAfter s.completed
  | .outside | .loaded _ | .stored => False

/-- What holds while a thread is at a stage. -/
@[simp] def RoleAt (r : Role) (s : State) (st : Stage) : Prop :=
  if st = .outside then r ∉ s.lock.readers ∧ s.lock.writer ≠ some r
  else if r = .writer then s.lock.writer = some .writer ∧ Writing s st
  else r ∈ s.lock.readers ∧ Reading s st

/-- The position of a thread in the pool. -/
def Role.position : Role → ℕ
  | writer => 0
  | reader1 => 1
  | reader2 => 2

/-- What holds of the lock and of the variable while a thread is at a stage. -/
@[simps]
def outline : Outline Op Op.Ans Role (Option Int) State Stage Unit where
  proto := proto
  ends _ := Ends
  here _ j r st s := r.position = j ∧ RoleAt r s st
  always _ := Guarded

section Sound

variable {w : World} {i : ℕ} {r : Role} {st : Stage} {s s' : State}

lemma roleAt_outside (h : RoleAt r s .outside) : r ∉ s.lock.readers ∧ s.lock.writer ≠ some r := by
  rwa [RoleAt, if_pos rfl] at h

lemma writing_of_roleAt (h : RoleAt .writer s st) (hst : st ≠ .outside) :
    s.lock.writer = some .writer ∧ Writing s st := by
  rwa [RoleAt, if_neg hst, if_pos rfl] at h

lemma reading_of_roleAt (h : RoleAt r s st) (hst : st ≠ .outside) (hr : r ≠ .writer) :
    r ∈ s.lock.readers ∧ Reading s st := by
  rwa [RoleAt, if_neg hst, if_neg hr] at h

lemma roleAt_of_writing (hlock : s.lock.writer = some .writer) (hst : st ≠ .outside)
    (h : Writing s st) : RoleAt .writer s st := by
  rw [RoleAt, if_neg hst, if_pos rfl]
  exact ⟨hlock, h⟩

lemma roleAt_of_reading (hlock : r ∈ s.lock.readers) (hst : st ≠ .outside) (hr : r ≠ .writer)
    (h : Reading s st) : RoleAt r s st := by
  rw [RoleAt, if_neg hst, if_neg hr]
  exact ⟨hlock, h⟩

/-- While the writer is inside, the others are outside. -/
lemma outside_of_writer (hlock : s.lock.writer = some .writer) (hr : r ≠ .writer)
    (h : RoleAt r s st) : st = .outside := by
  by_contra hst
  have hmem := (reading_of_roleAt h hst hr).1
  rw [RwLock.readers_of_writer hlock] at hmem
  cases hmem

lemma Holding.congr {k n : ℕ} (h : Holding s k n) (hglobal : s'.globalVariable = s.globalVariable)
    (hwritten : s'.written = s.written) : Holding s' k n := by
  refine ⟨?_, ?_⟩
  · rw [hglobal]
    exact h.value
  · rw [hwritten]
    exact h.prints

/-- What the assertions about a thread in its section are about. -/
structure SameVariable (s s' : State) : Prop where
  globalVariable : s'.globalVariable = s.globalVariable
  completed : s'.completed = s.completed
  written : s'.written = s.written

lemma writing_congr (hsame : SameVariable s s') (h : Writing s st) : Writing s' st := by
  obtain ⟨hglobal, hcompleted, hwritten⟩ := hsame
  cases st with
  | outside => exact h
  | entered | stored | shown =>
    rw [Writing, hcompleted]
    exact Holding.congr h hglobal hwritten
  | loaded v | seen v =>
    rw [Writing, hcompleted, hglobal]
    exact ⟨h.1, h.2.congr hglobal hwritten⟩

lemma reading_congr (hcompleted : s'.completed = s.completed) : Reading s' st ↔ Reading s st := by
  cases st <;> simp [hcompleted]

/-- A thread does not see what does not concern its own place at the lock, and a thread outside
sees nothing else. -/
lemma roleAt_congr (h : RoleAt r s st) (hreaders : r ∈ s'.lock.readers ↔ r ∈ s.lock.readers)
    (hwriter : s'.lock.writer = some r ↔ s.lock.writer = some r)
    (hvalue : st = .outside ∨ SameVariable s s') : RoleAt r s' st := by
  by_cases hst : st = .outside
  · subst hst
    obtain ⟨hnot, hne⟩ := roleAt_outside h
    rw [RoleAt, if_pos rfl]
    exact ⟨fun hmem => hnot (hreaders.1 hmem), fun hsome => hne (hwriter.1 hsome)⟩
  · have hsame := hvalue.resolve_left hst
    by_cases hr : r = .writer
    · subst hr
      obtain ⟨hlock, hwriting⟩ := writing_of_roleAt h hst
      exact roleAt_of_writing (hwriter.2 hlock) hst (writing_congr hsame hwriting)
    · obtain ⟨hlock, hreading⟩ := reading_of_roleAt h hst hr
      exact roleAt_of_reading (hreaders.2 hlock) hst hr
        ((reading_congr hsame.completed).2 hreading)

lemma role_ne {r' : Role} {j : ℕ} (hpos : r.position = i) (hpos' : r'.position = j) (hj : j ≠ i) :
    r' ≠ r := by
  rintro rfl
  exact hj (hpos'.symm.trans hpos)

/-- What an operation of the writer in its section has to give. -/
lemma lands_writing (hlock : w.shared.lock.writer = some .writer) (hpos : Role.writer.position = i)
    (halways : Guarded s) (hsame : s.lock = w.shared.lock) (hst : st ≠ .outside)
    (hown : Writing s st) : outline.Lands () () w i .writer st s where
  always := halways
  own := ⟨hpos, roleAt_of_writing (by rw [hsame]; exact hlock) hst hown⟩
  others j th st' hj _ hat := by
    obtain ⟨hpos', hrole⟩ := hat.here
    have hout := outside_of_writer hlock (role_ne hpos hpos' hj) hrole
    exact ⟨hpos', roleAt_congr hrole (by rw [hsame]) (by rw [hsame]) (.inl hout)⟩

/-- What an operation of a reader in its section has to give. -/
lemma lands_reading (hlock : r ∈ w.shared.lock.readers) (hr : r ≠ .writer)
    (hpos : r.position = i) (halways : Guarded s) (hsame : s.lock = w.shared.lock)
    (hvariable : SameVariable w.shared s) (hst : st ≠ .outside) (hown : Reading s st) :
    outline.Lands () () w i r st s where
  always := halways
  own := ⟨hpos, roleAt_of_reading (by rw [hsame]; exact hlock) hst hr hown⟩
  others j th st' _ _ hat := by
    obtain ⟨hpos', hrole⟩ := hat.here
    exact ⟨hpos', roleAt_congr hrole (by rw [hsame]) (by rw [hsame]) (.inr hvariable)⟩

/-- A step outside that none of the threads sees. -/
lemma lands_unseen (hw : outline.Holds () w) (hhere : outline.here () i r st w.shared)
    (hlock : s.lock = w.shared.lock) (hglobal : s.globalVariable = w.shared.globalVariable)
    (hcompleted : s.completed = w.shared.completed) (hprints : s.prints = w.shared.prints) :
    outline.Lands () () w i r st s := by
  have hwritten : s.written = w.shared.written := by rw [State.written, hprints, State.written]
  have hvariable : SameVariable w.shared s := ⟨hglobal, hcompleted, hwritten⟩
  refine ⟨?_, ⟨hhere.1, ?_⟩, fun j th st' _ _ hat => ?_⟩
  · obtain ⟨hfree, hnodup, hp, hinOrder, hordered, honce⟩ := hw.always
    refine ⟨fun h => ?_, ?_, ?_, ?_, ?_, ?_⟩
    · rw [hlock] at h
      rw [hcompleted]
      exact (hfree h).congr hglobal hwritten
    · rw [hlock]
      exact hnodup
    · rw [hprints, hcompleted]
      exact hp
    · rw [hprints]
      exact hinOrder
    · rw [hwritten]
      exact hordered
    · rw [hwritten, hcompleted]
      exact honce
  · exact roleAt_congr hhere.2 (by rw [hlock]) (by rw [hlock]) (.inr hvariable)
  · obtain ⟨hpos', hrole⟩ := hat.here
    exact ⟨hpos', roleAt_congr hrole (by rw [hlock]) (by rw [hlock]) (.inr hvariable)⟩

/-! ### The locks -/

lemma lands_writeLock (hw : outline.Holds () w)
    (hhere : outline.here () i .writer .outside w.shared) (hready : w.shared.lock.canWrite = true) :
    outline.Lands () () w i .writer .entered
      { w.shared with lock := w.shared.lock.writeLock .writer } := by
  obtain ⟨hnone, hnil⟩ := RwLock.canWrite_iff.1 hready
  have hwriter : (w.shared.lock.writeLock Role.writer).writer = some .writer :=
    RwLock.writer_writeLock hnil
  obtain ⟨hfree, hnodup, hprints, hinOrder, hwritten, honce⟩ := hw.always
  refine ⟨⟨fun h => ?_, ?_, hprints, hinOrder, hwritten, honce⟩, ⟨hhere.1, ?_⟩,
    fun j th st' hj _ hat => ?_⟩
  · rw [hwriter] at h
    cases h
  · rw [RwLock.readers_writeLock]
    exact hnodup
  · exact roleAt_of_writing hwriter (by decide) ⟨(hfree hnone).value, (hfree hnone).prints⟩
  · obtain ⟨hpos', hrole⟩ := hat.here
    have hne := role_ne hhere.1 hpos' hj
    refine ⟨hpos', roleAt_congr hrole (by rw [RwLock.readers_writeLock]) ?_
      (.inr ⟨rfl, rfl, rfl⟩)⟩
    rw [hwriter, hnone, Option.some_inj]
    exact ⟨fun h => absurd h.symm hne, fun h => (by cases h)⟩

lemma lands_writeUnlock (hw : outline.Holds () w)
    (hhere : outline.here () i .writer .shown w.shared) :
    outline.Lands () () w i .writer .outside
      { w.shared with
        lock := w.shared.lock.writeUnlock
        completed := w.shared.completed + 1 } := by
  obtain ⟨hlock, hvalue⟩ := writing_of_roleAt hhere.2 (by decide)
  have hvalue : Holding w.shared (w.shared.completed + 1) (w.shared.completed + 1) := hvalue
  obtain ⟨-, hnodup, hprints, hinOrder, hwritten, -⟩ := hw.always
  refine ⟨⟨fun _ => ⟨hvalue.value, hvalue.prints⟩, hnodup, fun p hp => ?_, hinOrder, hwritten,
    Nat.le_of_eq hvalue.prints.symm, ?_⟩, ⟨hhere.1, ?_⟩, fun j th st' hj _ hat => ?_⟩
  · exact ⟨(hprints p hp).1, Nat.le_succ_of_le (hprints p hp).2⟩
  · exact Nat.le_succ_of_le (Nat.le_of_eq hvalue.prints)
  · rw [RoleAt, if_pos rfl, RwLock.readers_writeUnlock, RwLock.readers_of_writer hlock]
    exact ⟨List.not_mem_nil, fun h => (by cases h)⟩
  · obtain ⟨hpos', hrole⟩ := hat.here
    have hne := role_ne hhere.1 hpos' hj
    have hout := outside_of_writer hlock hne hrole
    refine ⟨hpos', roleAt_congr hrole Iff.rfl ?_ (.inl hout)⟩
    rw [RwLock.writer_writeUnlock, hlock, Option.some_inj]
    exact ⟨fun h => (by cases h), fun h => absurd h.symm hne⟩

lemma lands_readLock (hw : outline.Holds () w) (hr : r ≠ .writer)
    (hhere : outline.here () i r .outside w.shared) (hready : w.shared.lock.canRead = true) :
    outline.Lands () () w i r .entered { w.shared with lock := w.shared.lock.readLock r } := by
  have hnone := RwLock.canRead_iff.1 hready
  have hreaders : (w.shared.lock.readLock r).readers = r :: w.shared.lock.readers :=
    RwLock.readers_readLock hnone
  obtain ⟨hfree, hnodup, hprints, hinOrder, hwritten, honce⟩ := hw.always
  have hnot := (roleAt_outside hhere.2).1
  refine ⟨⟨fun _ => ⟨(hfree hnone).value, (hfree hnone).prints⟩, ?_, hprints, hinOrder, hwritten,
    honce⟩, ⟨hhere.1, ?_⟩, fun j th st' hj _ hat => ?_⟩
  · rw [hreaders]
    exact List.nodup_cons.2 ⟨hnot, hnodup⟩
  · refine roleAt_of_reading ?_ (by decide) hr trivial
    rw [hreaders]
    exact List.mem_cons_self
  · obtain ⟨hpos', hrole⟩ := hat.here
    have hne := role_ne hhere.1 hpos' hj
    refine ⟨hpos', roleAt_congr hrole ?_ (by rw [RwLock.writer_readLock])
      (.inr ⟨rfl, rfl, rfl⟩)⟩
    rw [hreaders, List.mem_cons, or_iff_right hne]

lemma lands_readUnlock (hw : outline.Holds () w) (hr : r ≠ .writer)
    (hhere : outline.here () i r .shown w.shared) :
    outline.Lands () () w i r .outside { w.shared with lock := w.shared.lock.readUnlock r } := by
  obtain ⟨hmem, -⟩ := reading_of_roleAt hhere.2 (by decide) hr
  have hnone := RwLock.writer_of_mem hmem
  obtain ⟨hfree, hnodup, hprints, hinOrder, hwritten, honce⟩ := hw.always
  refine ⟨⟨fun h => ⟨(hfree h).value, (hfree h).prints⟩, hnodup.erase r, hprints, hinOrder,
    hwritten, honce⟩, ⟨hhere.1, ?_⟩, fun j th st' hj _ hat => ?_⟩
  · rw [RoleAt, if_pos rfl, RwLock.readers_readUnlock, RwLock.writer_readUnlock, hnone]
    exact ⟨hnodup.not_mem_erase, fun h => (by cases h)⟩
  · obtain ⟨hpos', hrole⟩ := hat.here
    have hne := role_ne hhere.1 hpos' hj
    exact ⟨hpos', roleAt_congr hrole (List.mem_erase_of_ne hne) Iff.rfl (.inr ⟨rfl, rfl, rfl⟩)⟩

/-! ### The variable and the prints -/

lemma lands_store {v : BitVec 32} (hw : outline.Holds () w)
    (hhere : outline.here () i .writer (.loaded (v - 10)) w.shared) :
    outline.Lands () () w i .writer .stored { w.shared with globalVariable := v } := by
  obtain ⟨hlock, hv, hvalue⟩ := writing_of_roleAt hhere.2 (by simp)
  obtain ⟨-, hnodup, hprints, hinOrder, hwritten, honce⟩ := hw.always
  have hnew : v = valueAfter (w.shared.completed + 1) := by
    rw [valueAfter_succ, ← hvalue.value, ← hv]
    exact (BitVec.sub_add_cancel v 10).symm
  have hguarded : Guarded { w.shared with globalVariable := v } := by
    refine ⟨fun h => ?_, hnodup, hprints, hinOrder, hwritten, honce⟩
    rw [hlock] at h
    cases h
  exact lands_writing hlock hhere.1 hguarded rfl (by decide) ⟨hnew, hvalue.prints⟩

/-- The log after a print. -/
def State.log (s : State) (r : Role) (v : BitVec 32) : State :=
  { s with prints := s.prints ++ [⟨r, v, s.completed⟩] }

lemma written_log_reader (hr : r ≠ .writer) (v : BitVec 32) :
    (s.log r v).written = s.written := by
  simp [State.written, State.log, hr]

lemma written_log_writer (v : BitVec 32) :
    (s.log .writer v).written = s.written ++ [⟨.writer, v, s.completed⟩] := by
  simp [State.written, State.log]

/-- A print that is sound keeps the order of the prints. -/
lemma prints_log {v : BitVec 32} (h : Guarded s) (hv : (⟨r, v, s.completed⟩ : Print).Sound) :
    (∀ p ∈ (s.log r v).prints, p.Sound ∧ p.completed ≤ s.completed) ∧
      (s.log r v).prints.Pairwise fun p p' => p.completed ≤ p'.completed := by
  refine ⟨fun p hp => ?_, ?_⟩
  · rcases List.mem_append.1 hp with hp | hp
    · exact h.prints p hp
    · obtain rfl := List.mem_singleton.1 hp
      exact ⟨hv, Nat.le_refl _⟩
  · refine List.pairwise_append.2 ⟨h.inOrder, List.pairwise_singleton .., fun p hp p' hp' => ?_⟩
    obtain rfl := List.mem_singleton.1 hp'
    exact (h.prints p hp).2

lemma lands_printWriter {v : BitVec 32} (hw : outline.Holds () w)
    (hhere : outline.here () i .writer (.seen v) w.shared) :
    outline.Lands () () w i .writer .shown (w.shared.log .writer v) := by
  obtain ⟨hlock, hv, hvalue⟩ := writing_of_roleAt hhere.2 (by simp)
  have hsound : (⟨.writer, v, w.shared.completed⟩ : Print).Sound := hv.trans hvalue.value
  obtain ⟨hprints, hinOrder⟩ := prints_log hw.always hsound
  have hlen : (w.shared.log .writer v).written.length = w.shared.completed + 1 := by
    rw [written_log_writer, List.length_append, hvalue.prints, List.length_singleton]
  have hguarded : Guarded (w.shared.log .writer v) := by
    refine ⟨fun h => ?_, hw.always.nodup, hprints, hinOrder, ?_, ?_⟩
    · have hnone : w.shared.lock.writer = none := h
      rw [hlock] at hnone
      cases hnone
    · -- this print is the one of the section that has not ended
      rw [hlen, written_log_writer, List.map_append, hw.always.written, hvalue.prints,
        List.range_succ]
      rfl
    · rw [hlen]
      exact ⟨Nat.le_succ _, Nat.le_refl _⟩
  exact lands_writing hlock hhere.1 hguarded rfl (by decide) ⟨hvalue.value, hlen⟩

lemma lands_printReader {v : BitVec 32} (hw : outline.Holds () w) (hr : r ≠ .writer)
    (hhere : outline.here () i r (.seen v) w.shared) :
    outline.Lands () () w i r .shown (w.shared.log r v) := by
  obtain ⟨hlock, hv⟩ := reading_of_roleAt hhere.2 (by simp) hr
  have hsound : (⟨r, v, w.shared.completed⟩ : Print).Sound := by
    rw [Print.Sound, if_neg hr]
    exact hv
  obtain ⟨hprints, hinOrder⟩ := prints_log hw.always hsound
  have hwritten := written_log_reader (s := w.shared) hr v
  have hguarded : Guarded (w.shared.log r v) := by
    refine ⟨fun h => (hw.always.free h).congr rfl hwritten, hw.always.nodup, hprints, hinOrder,
      ?_, ?_⟩
    · rw [hwritten]
      exact hw.always.written
    · rw [hwritten]
      exact hw.always.once
  exact lands_reading hlock hr hhere.1 hguarded rfl ⟨rfl, rfl, hwritten⟩ (by decide) trivial

lemma lands_load (hw : outline.Holds () w) (hallow : st.allow r .load)
    (hhere : outline.here () i r st w.shared) :
    outline.Lands () () w i r (st.afterLoad r w.shared.globalVariable) w.shared := by
  by_cases hr : r = .writer
  · subst hr
    have hst : st ≠ .outside := by
      rintro rfl
      simp at hallow
    obtain ⟨hlock, hvalue⟩ := writing_of_roleAt hhere.2 hst
    rcases hallow with rfl | ⟨-, rfl⟩
    · exact lands_writing hlock hhere.1 hw.always rfl (by simp) ⟨rfl, hvalue⟩
    · exact lands_writing hlock hhere.1 hw.always rfl (by simp) ⟨rfl, hvalue⟩
  · obtain rfl : st = .entered := hallow.resolve_right fun h => hr h.1
    obtain ⟨hlock, -⟩ := reading_of_roleAt hhere.2 (by simp) hr
    have hvalue := (hw.always.free (RwLock.writer_of_mem hlock)).value
    rw [Stage.afterLoad, if_neg fun h => hr h.1]
    exact lands_reading hlock hr hhere.1 hw.always rfl ⟨rfl, rfl, rfl⟩ (by simp) hvalue

lemma sound_outline : outline.Sound machine fun _ _ => True where
  act {_ w i e r st o k x s} hw _ _ hst hready hsem := by
    have hallow : st.allow r o := hst.follows.1
    have hhere := hst.here
    suffices h : outline.Lands () () w i r (st.after r o x) s from
      ⟨trivial, (), h.always, h.own, h.others⟩
    cases o with
    | kthreadShouldStop | rdtsc | setStart t | setEnd t | loadCycles | printCycles c | msleep ms =>
      obtain ⟨-, rfl⟩ := Outcome.done.inj hsem
      exact lands_unseen hw hhere rfl rfl rfl rfl
    | writeLock =>
      obtain ⟨-, rfl⟩ := Outcome.done.inj hsem
      obtain ⟨rfl, rfl⟩ := hallow
      exact lands_writeLock hw hhere hready
    | writeUnlock =>
      obtain ⟨-, rfl⟩ := Outcome.done.inj hsem
      obtain ⟨rfl, rfl⟩ := hallow
      exact lands_writeUnlock hw hhere
    | readLock =>
      obtain ⟨-, rfl⟩ := Outcome.done.inj hsem
      obtain ⟨hr, rfl⟩ := hallow
      exact lands_readLock hw hr hhere hready
    | readUnlock =>
      obtain ⟨-, rfl⟩ := Outcome.done.inj hsem
      obtain ⟨hr, rfl⟩ := hallow
      exact lands_readUnlock hw hr hhere
    | store v =>
      obtain ⟨-, rfl⟩ := Outcome.done.inj hsem
      obtain ⟨rfl, rfl⟩ := hallow
      exact lands_store hw hhere
    | print v =>
      obtain ⟨-, rfl⟩ := Outcome.done.inj hsem
      obtain rfl : st = .seen v := hallow
      by_cases hr : r = .writer
      · subst hr
        exact lands_printWriter hw hhere
      · exact lands_printReader hw hr hhere
    | load =>
      obtain ⟨rfl, rfl⟩ := Outcome.done.inj hsem
      exact lands_load hw hallow hhere
  again {_ _ _ r st a p} hst hagain := by
    cases a with
    | none =>
      obtain rfl := Option.some.inj hagain
      obtain rfl : st = .outside := hst.follows
      exact follows_body r
    | some v => cases hagain
  event {_ _ n} _ _ _ := n.elim

end Sound

/-! ## The results -/

/-- The operations that belong into a section. -/
def Op.Critical : Op → Prop
  | load | store _ | print _ | writeUnlock | readUnlock => True
  | _ => False

lemma Op.Critical.ne_outside {o : Op} (h : o.Critical) {r : Role} {st : Stage}
    (hallow : st.allow r o) : st ≠ .outside := by
  rintro rfl
  cases o with
  | load => simp at hallow
  | store v | writeUnlock | readUnlock => cases hallow.2
  | print v => cases hallow
  | _ => exact h

/-- The place of a thread at the lock. -/
def Inside (r : Role) (l : RwLock Role) : Prop :=
  if r = .writer then l.writer = some .writer ∧ l.readers = [] else r ∈ l.readers ∧ l.writer = none

lemma inside_of_roleAt {r : Role} {s : State} {st : Stage} (h : RoleAt r s st)
    (hst : st ≠ .outside) : Inside r s.lock := by
  by_cases hr : r = .writer
  · subst hr
    obtain ⟨hlock, -⟩ := writing_of_roleAt h hst
    rw [Inside, if_pos rfl]
    exact ⟨hlock, RwLock.readers_of_writer hlock⟩
  · obtain ⟨hmem, -⟩ := reading_of_roleAt h hst hr
    rw [Inside, if_neg hr]
    exact ⟨hmem, RwLock.writer_of_mem hmem⟩

lemma holds_loaded : outline.Holds () loaded := by
  refine ⟨⟨fun _ => ⟨rfl, rfl⟩, List.nodup_nil, fun _ hp => (by cases hp), .nil, rfl,
    Nat.le_refl _, Nat.zero_le _⟩, fun j th hj => ⟨.outside, ?_⟩⟩
  have hat (r : Role) (hr : r.position = j) (hth : th = ⟨r, r.body⟩) :
      outline.At () loaded.shared j th .outside := by
    subst hth
    exact ⟨follows_body r, hr, List.not_mem_nil, fun h => (by cases h)⟩
  match j, hj with
  | 0, hj => exact hat .writer rfl (Option.some.inj hj).symm
  | 1, hj => exact hat .reader1 rfl (Option.some.inj hj).symm
  | 2, hj => exact hat .reader2 rfl (Option.some.inj hj).symm

lemma holds_of_reach {w : World} (hw : system.Reachable w) : outline.Holds () w := by
  have hinit : ∀ v, v = loaded → ∃ g, outline.Holds g v := by
    rintro _ rfl
    exact ⟨(), holds_loaded⟩
  obtain ⟨⟨⟩, hholds⟩ := sound_outline.holds_of_reach hinit hw
  exact hholds

/-- **Readers see whole sections.** In every interleaving the writer is alone when it is inside,
and the variable is loaded, stored into and printed only inside.  The writer prints once in each
section: its `k`-th print, from 1 on, is 10 k, and there are as many as sections that have
ended, or one more.  A reader prints 10 k when k sections have ended.  All this is as an `int`,
and in the order of the prints k does not decrease. -/
theorem readers_see_whole_sections {w : World} (hw : system.Reachable w) :
    (∀ th ∈ w.threads, ∀ o, th.nextOp = some o → o.Critical → Inside th.role w.shared.lock) ∧
      (∀ p ∈ w.shared.prints, p.completed ≤ w.shared.completed ∧
        p.value = .ofNat 32 (10 * if p.role = .writer then p.completed + 1 else p.completed)) ∧
      w.shared.prints.Pairwise (fun p p' => p.completed ≤ p'.completed) ∧
      (∀ (i : ℕ) (p : Print), w.shared.written[i]? = some p →
        p.completed = i ∧ p.value = .ofNat 32 (10 * (i + 1))) ∧
      w.shared.completed ≤ w.shared.written.length ∧
      w.shared.written.length ≤ w.shared.completed + 1 := by
  have hholds := holds_of_reach hw
  refine ⟨fun th hth o ho hcritical => ?_, fun p hp => ?_, hholds.always.inOrder,
    fun i p hp => ?_, hholds.always.once⟩
  · obtain ⟨j, st, -, hat⟩ := hholds.of_mem hth
    exact inside_of_roleAt hat.here.2 (hcritical.ne_outside (hat.allow ho))
  · exact ⟨(hholds.always.prints p hp).2, (hholds.always.prints p hp).1⟩
  · obtain ⟨hmem, hrole⟩ := List.mem_filter.1 (List.mem_of_getElem? hp)
    have hcompleted : p.completed = i := by
      have hmap : (w.shared.written.map Print.completed)[i]? = some p.completed := by
        rw [List.getElem?_map, hp, Option.map_some]
      obtain ⟨hlt, -⟩ := List.getElem?_eq_some_iff.1 hp
      rw [hholds.always.written, List.getElem?_range hlt, Option.some_inj] at hmap
      exact hmap.symm
    have hsound := (hholds.always.prints p hmem).1
    rw [Print.Sound, if_pos (of_decide_eq_true hrole), hcompleted] at hsound
    exact ⟨hcompleted, hsound⟩

/-- Both readers are inside at once, after a section of the writer. -/
theorem readers_see_whole_sections_shared :
    ∃ w, system.Reachable w ∧ w.shared.lock.readers = [.reader2, .reader1] ∧
      w.shared.prints = [⟨.writer, 10, 0⟩, ⟨.reader1, 10, 1⟩, ⟨.reader2, 10, 1⟩] ∧
      ∀ (i : ℕ) (p : Print), w.shared.written[i]? = some p →
        p.completed = i ∧ p.value = .ofNat 32 (10 * (i + 1)) := by
  obtain ⟨w, hw, hreaders, hprints⟩ := System.exists_reachable (S := system)
    (P := fun w => w.shared.lock.readers = [.reader2, .reader1] ∧
      w.shared.prints = [⟨.writer, 10, 0⟩, ⟨.reader1, 10, 1⟩, ⟨.reader2, 10, 1⟩])
    (List.replicate 9 (.run 0 {}) ++ [.run 1 {}, .run 1 {}, .run 2 {}, .run 2 {}, .run 1 {},
      .run 1 {}, .run 2 {}, .run 2 {}])
    (.init rfl) (by decide +kernel)
  exact ⟨w, hw, hreaders, hprints, (readers_see_whole_sections hw).2.2.2.1⟩

/-- A thread inside can go on. -/
lemma canRun_of_inside {w : World} (hw : system.Reachable w) {r : Role}
    (hin : r ∈ w.shared.lock.readers ∨ w.shared.lock.writer = some r) :
    machine.CanRun w r.position := by
  have hrole : w.threads[r.position]?.map Thread.role = some r := by
    refine Machine.role_of_reach (M := machine) ?_ hw
    rintro _ rfl
    cases r <;> rfl
  obtain ⟨⟨r', p⟩, hth, hr'⟩ := Option.map_eq_some_iff.1 hrole
  obtain rfl : r' = r := hr'
  obtain ⟨st, hat⟩ := (holds_of_reach hw).threads _ _ hth
  have hst : st ≠ .outside := by
    rintro rfl
    obtain ⟨hnot, hne⟩ := roleAt_outside hat.here.2
    rcases hin with h | h
    · exact hnot h
    · exact hne h
  cases p with
  | ret a => exact absurd hat.follows hst
  | act o k =>
    have hallow : st.allow r' o := hat.follows.1
    have hready : machine.ready w.shared r' o = true := by
      cases o with
      | writeLock | readLock => exact absurd hallow.2 hst
      | _ => rfl
    cases o <;> exact Machine.canRun_of_ready (e := {}) hth hready rfl

/-- **No deadlock.** In every interleaving a thread that has not returned can go on, unless it
waits for the lock; and then another thread is inside and can go on. -/
theorem never_deadlocked {w : World} (hw : system.Reachable w) {i : ℕ}
    {th : Thread Op Op.Ans Role (Option Int)} (hi : w.threads[i]? = some th) :
    machine.CanRun w i ∨ machine.Over w i ∨ (∃ o, machine.Waits w i th.role o) ∧ ∃ r, r ≠ th.role ∧
      (r ∈ w.shared.lock.readers ∨ w.shared.lock.writer = some r) ∧
      machine.CanRun w r.position := by
  have hsem : ∀ o, ∃ e x s, machine.sem e th.role o w.shared = .done x s := by
    intro o
    cases o <;> exact ⟨{}, _, _, rfl⟩
  obtain hrun | hover | ⟨o, habout, hready⟩ := Machine.canRun_or_waits hi hsem
  · exact .inl hrun
  · exact .inr (.inl hover)
  · refine .inr (.inr ?_)
    obtain ⟨st, hat⟩ := (holds_of_reach hw).threads i th hi
    have hallow : st.allow th.role o := hat.allow (Pool.nextOp_of_aboutTo hi habout)
    -- only the two locks make a thread wait, and it stands before them outside
    have hout : st = .outside := by
      cases o with
      | writeLock | readLock => exact hallow.2
      | _ => cases hready
    subst hout
    obtain ⟨hnot, hne⟩ := roleAt_outside hat.here.2
    have hholder : ∃ r, r ∈ w.shared.lock.readers ∨ w.shared.lock.writer = some r := by
      cases hwriter : w.shared.lock.writer with
      | some r => exact ⟨r, .inr rfl⟩
      | none =>
        cases hreaders : w.shared.lock.readers with
        | cons r rs => exact ⟨r, .inl List.mem_cons_self⟩
        | nil =>
          cases o with
          | writeLock | readLock =>
            simp [machine, RwLock.canWrite, RwLock.canRead, hwriter, hreaders] at hready
          | _ => cases hready
    obtain ⟨r, hr⟩ := hholder
    refine ⟨⟨o, habout, hready⟩, r, ?_, hr, canRun_of_inside hw hr⟩
    rintro rfl
    rcases hr with h | h
    · exact hnot h
    · exact hne h

/-- A reader waits for the writer. -/
theorem never_deadlocked_waiting :
    ∃ w i th, system.Reachable w ∧ w.threads[i]? = some th ∧ w.AboutTo i .reader1 .readLock ∧
      w.shared.lock.canRead = false ∧
      (machine.CanRun w i ∨ machine.Over w i ∨ (∃ o, machine.Waits w i th.role o) ∧
        ∃ r, r ≠ th.role ∧ (r ∈ w.shared.lock.readers ∨ w.shared.lock.writer = some r) ∧
          machine.CanRun w r.position) := by
  obtain ⟨w, hw, habout, hwait⟩ := System.exists_reachable (S := system)
    (P := fun w => w.AboutTo 1 .reader1 .readLock ∧ w.shared.lock.canRead = false)
    (List.replicate 4 (.run 0 {}) ++ [.run 1 {}]) (.init rfl) (by decide +kernel)
  obtain ⟨th, hth, -⟩ := Option.map_eq_some_iff.1 habout
  exact ⟨w, 1, th, hw, hth, habout, hwait, never_deadlocked hw hth⟩

end KernelDriverLab.Rwlock
