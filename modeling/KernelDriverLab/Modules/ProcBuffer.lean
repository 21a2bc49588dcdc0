import KernelDriverLab.Chardev.Handlers
import KernelDriverLab.Lib.Ledger
import KernelDriverLab.Lib.Machine
import KernelDriverLab.Modules.Loading

/-!
# The owner of proc_buffer

`proc_write` of `procfs_module.c` frees the block of the last message and allocates one for
the next, `proc_read` reads through the same pointer, and `hello_exit` frees the block
before it removes the file.  A call is one step between two operations of `hello_exit`, and
calls arrive until `proc_remove` has returned.

The blocks are numbered by a ledger, in which a `kfree` of a block that is not allocated is
a wrong release; `misused` records that something else was done through a pointer to no
allocated block.  `Owned` is the invariant: the blocks that are allocated are the one that
`proc_buffer` points to.  It holds when no `proc_read` finds the pointer NULL and no call
arrives after the `kfree` of `hello_exit`.
-/

namespace KernelDriverLab.ProcBuffer

open Lib Prog Chardev

/-- The operations on `proc_buffer` and on its memory. -/
inductive Op where
  /-- `proc_buffer == NULL` -/
  | isNull
  /-- `kfree(proc_buffer)` -/
  | kfree
  /-- `proc_buffer = kmalloc(size)`, and whether it is not NULL. -/
  | kmalloc (size : ℕ)
  /-- `copy_from_user` to `proc_buffer`, and whether everything was copied. -/
  | copyFromUser (user : List UInt8)
  /-- `proc_buffer[i] = '\0'` -/
  | terminate (i : ℕ)
  /-- `pr_info` of the string. -/
  | print
  /-- `strlen(proc_buffer)` -/
  | strlen
  /-- `copy_to_user` from `proc_buffer`: what was stored, and whether all was. -/
  | copyToUser (n : ℕ)
  | procRemove
  | release (r : Registration)
deriving DecidableEq, Repr

/-- What an operation answers. -/
@[reducible] def Op.Ans : Op → Type
  | isNull | kmalloc _ | copyFromUser _ => Bool
  | strlen => ℕ
  | copyToUser _ => List UInt8 × Bool
  | _ => Unit

/-- A function of the module. -/
abbrev Driver (α : Type) : Type := Prog Op Op.Ans α

/-- `proc_buffer` and the blocks that are allocated. -/
structure State where
  /-- The block that `proc_buffer` points to; it stays when the block is freed. -/
  procBuffer : Option ℕ
  /-- The blocks that are allocated. -/
  ledger : Ledger Unit
  /-- The memory from the start of each block on, also beyond its end. -/
  memory : ℕ → List UInt8
  /-- Something was read or written through a pointer to no allocated block. -/
  misused : Bool
  /-- The file is there. -/
  listed : Bool

/-- What the kernel answers in a call. -/
structure Env where
  /-- What is in the memory that `kmalloc` finds, if it finds some. -/
  kmalloc : Option (List UInt8) := some []
  writeFault : Option (ℕ × ℕ) := none
  readFault : Option ℕ := none

namespace State

/-- The memory from the start of the block on. -/
def bytes (s : State) : List UInt8 := s.procBuffer.elim [] s.memory

/-- The block that `proc_buffer` points to is allocated. -/
def Live (s : State) : Prop := ∃ i ∈ s.procBuffer, (i, ()) ∈ s.ledger.live

instance (s : State) : Decidable s.Live :=
  match h : s.procBuffer with
  | none => isFalse (by simp [Live, h])
  | some i => decidable_of_iff ((i, ()) ∈ s.ledger.live) (by simp [Live, h])

/-- An access through `proc_buffer`. -/
@[simps]
def access (s : State) : State := { s with misused := s.misused || !decide s.Live }

/-- Store these bytes. -/
def store (s : State) (mem : List UInt8) : State :=
  { s.access with memory := match s.procBuffer with
      | none => s.memory
      | some i => Function.update s.memory i mem }

/-- `kfree` does nothing for NULL. -/
def free (s : State) : State :=
  match s.procBuffer with
  | none => s
  | some i => { s with ledger := s.ledger.release i () }

/-- A new block of this size, with the memory as it is found there; one byte behind the
block is always there. -/
def alloc (s : State) (size : ℕ) (found : List UInt8) : State :=
  { s with
    procBuffer := some s.ledger.next
    ledger := s.ledger.acquire ()
    memory := Function.update s.memory s.ledger.next
      (overwrite (List.replicate (size + 1) 0) found) }

end State

/-- What each operation does. -/
def sem (e : Env) : Prog.Sem Op Op.Ans State
  | .isNull, s => .done s.procBuffer.isNone s
  | .kfree, s => .done () s.free
  | .kmalloc size, s =>
      match e.kmalloc with
      | none => .done false { s with procBuffer := none }
      | some found => .done true (s.alloc size found)
  | .copyFromUser user, s =>
      .done (copyFromUser s.bytes user user.length e.writeFault).2
        (s.store (copyFromUser s.bytes user user.length e.writeFault).1)
  | .terminate i, s => .done () (s.store (s.bytes.set i 0))
  | .print, s => .done () s.access
  | .strlen, s => .done (Chardev.strlen s.bytes) s.access
  | .copyToUser n, s => .done (copyToUser s.bytes n e.readFault) s.access
  | .procRemove, s => .done () { s with listed := false }
  | .release _, s => .done () s

/-! ## The functions -/

/-- `proc_write` -/
def procWrite (user : List UInt8) : Driver Int := do
  let null ← op Op.isNull
  if !null then op Op.kfree
  let len := user.length
  let found ← op (Op.kmalloc (len + 1))
  if !found then pure (-EFAULT)
  else
    let copied ← op (Op.copyFromUser user)
    if !copied then pure (-EFAULT)
    else
      op (Op.terminate (len + 1))
      op Op.print
      pure len

/-- `proc_read`, which does not look at the length of the buffer of its caller. -/
def procRead (_len offset : ℕ) : Driver Reply := do
  let length ← op Op.strlen
  if offset ≥ length then pure ⟨0, [], offset⟩
  else
    let (stored, copied) ← op (Op.copyToUser length)
    if !copied then pure ⟨-EFAULT, stored, offset⟩
    else pure ⟨length, stored, offset + length⟩

/-- `hello_exit` -/
def helloExit : Driver Unit := do
  op Op.kfree
  op Op.procRemove
  op (Op.release .device)
  op (Op.release .cls)
  op (Op.release .cdev)
  op (Op.release .chrdevRegion)

/-! ## The machine -/

/-- The state and the calls that work on it. -/
abbrev World : Type := Pool Op Op.Ans Unit Unit State

/-- A call through the file. -/
inductive Call where
  | write (user : List UInt8) (e : Env)
  | read (len offset : ℕ) (e : Env)

/-- The state after a call. -/
def Call.after (s : State) : Call → State
  | .write user e => ((procWrite user).run (sem e) s).state
  | .read len offset e => ((procRead len offset).run (sem e) s).state

/-- Any process can call one of the functions at any time. -/
def machine : Machine Op Op.Ans Unit Unit State Unit Call where
  sem _ _ := sem {}
  ready _ _ _ := true
  again _ _ := none
  event c s := if s.listed then some (c.after s, []) else none

/-- The state after `hello_init`. -/
def State.loaded : State := ⟨none, .empty, fun _ => [], false, true⟩

/-- The runs of the module. -/
def system : System World (Move Unit Call) :=
  machine.system fun w => w = ⟨.loaded, [⟨(), helloExit⟩]⟩

/-- `hello_exit` has returned. -/
def Unloaded (w : World) : Prop := ∃ th ∈ w.threads, th.result = some ()

/-- Every `kfree` and every access was of an allocated block, and at most one block is
allocated; none is after the module has been unloaded. -/
structure Kept (w : World) : Prop where
  frees : w.shared.ledger.wrong = []
  accesses : w.shared.misused = false
  single : w.shared.ledger.live.length ≤ 1
  unloaded : Unloaded w → w.shared.ledger.live = []

/-- `hello_exit` has not been called, or is about to call `kfree`. -/
def Open (w : World) : Prop := ∀ th ∈ w.threads, th.nextOp = some .kfree

/-- Calls arrive before `hello_exit`, and a `proc_read` only when `proc_buffer` is not NULL.
A `proc_write` that finds it NULL and no memory is harmless also later. -/
def Timely (w : World) : Move Unit Call → Prop
  | .run _ _ => True
  | .event (.read _ _ _) => Open w ∧ w.shared.procBuffer ≠ none
  | .event (.write _ e) => Open w ∨ w.shared.procBuffer = none ∧ e.kmalloc = none

/-! ## The invariant -/

/-- The blocks that are allocated are those in the list, and nothing has gone wrong. -/
structure State.Allocated (s : State) (blocks : List ℕ) : Prop where
  live : s.ledger.live = blocks.map (·, ())
  frees : s.ledger.wrong = []
  accesses : s.misused = false

/-- The only block that is allocated is the one that `proc_buffer` points to. -/
def State.Owned (s : State) : Prop := s.Allocated s.procBuffer.toList

/-- What is known of `proc_buffer` between two operations. -/
inductive Stage where
  | owned
  /-- It is not NULL. -/
  | present
  /-- No block is allocated, whatever it points to. -/
  | freed
  /-- The file has been removed, too. -/
  | closed
deriving DecidableEq, Repr

namespace Stage

/-- What a call may do before and after its `kfree`. -/
@[simp] def allow : Stage → Op → Prop
  | owned, .isNull | owned, .kfree => True
  | present, .kfree | present, .copyFromUser _ | present, .terminate _ | present, .print => True
  | present, .strlen | present, .copyToUser _ => True
  | freed, .kmalloc _ | freed, .procRemove => True
  | closed, .release _ => True
  | _, _ => False

/-- The stage after an operation. -/
@[simp] def after : Stage → (o : Op) → o.Ans → Stage
  | owned, .isNull, null => if null then freed else present
  | owned, .kfree, _ | present, .kfree, _ => freed
  | freed, .kmalloc _, found => if found then present else owned
  | freed, .procRemove, _ => closed
  | st, _, _ => st

/-- What holds at a stage. -/
def Here : Stage → State → Prop
  | owned, s => s.Owned
  | present, s => s.Owned ∧ s.procBuffer ≠ none
  | freed, s => s.Allocated []
  | closed, s => s.Allocated [] ∧ s.listed = false

end Stage

/-- The protocol of a call. -/
@[simps]
def proto : Protocol Op Op.Ans Stage where
  allow := Stage.allow
  expect _ _ _ := True
  after := Stage.after

section Invariant

variable {s s' : State} {e : Env} {st : Stage} {o : Op} {x : o.Ans}

/-- After `kfree` nothing is allocated. -/
lemma State.Owned.free (h : s.Owned) : s.free.Allocated [] := by
  obtain ⟨hlive, hfrees, haccesses⟩ := h
  unfold State.free
  cases hp : s.procBuffer with
  | none =>
    rw [hp] at hlive
    exact ⟨hlive, hfrees, haccesses⟩
  | some i =>
    have hone : s.ledger.live = [(i, ())] := by simpa [hp] using hlive
    refine ⟨by simp [Ledger.release, hone], ?_, haccesses⟩
    simpa [Ledger.release, hone] using hfrees

/-- A NULL pointer owns nothing. -/
lemma State.Owned.allocated_nil (h : s.Owned) (hp : s.procBuffer = none) : s.Allocated [] := by
  rw [State.Owned, hp] at h
  exact h

lemma State.Allocated.alloc (h : s.Allocated []) (size : ℕ) (found : List UInt8) :
    (s.alloc size found).Owned where
  live := by simp [State.alloc, Ledger.acquire, h.live]
  frees := h.frees
  accesses := h.accesses

/-- An access to the block that is allocated. -/
lemma here_access (h : Stage.present.Here s) : Stage.present.Here s.access := by
  obtain ⟨⟨hlive, hfrees, haccesses⟩, hp⟩ := h
  obtain ⟨i, hi⟩ := Option.ne_none_iff_exists'.1 hp
  have hmem : s.Live := ⟨i, hi, by simp [hlive, hi]⟩
  exact ⟨⟨hlive, hfrees, by simp [hmem, haccesses]⟩, hp⟩

lemma here_store (h : Stage.present.Here s) (mem : List UInt8) :
    Stage.present.Here (s.store mem) := by
  obtain ⟨⟨hlive, hfrees, haccesses⟩, hp⟩ := here_access h
  exact ⟨⟨hlive, hfrees, haccesses⟩, hp⟩

/-- **Every operation leads to the next stage.** -/
lemma here_sem (h : st.Here s) (hallow : st.allow o) (hsem : sem e o s = .done x s') :
    (st.after o x).Here s' := by
  cases st with
  | owned =>
    cases o with
    | isNull =>
      obtain ⟨rfl, rfl⟩ := Outcome.done.inj hsem
      cases hp : s.procBuffer with
      | none => exact State.Owned.allocated_nil h hp
      | some i => exact ⟨h, by simp [hp]⟩
    | kfree =>
      obtain ⟨-, rfl⟩ := Outcome.done.inj hsem
      exact State.Owned.free h
    | _ => exact hallow.elim
  | present =>
    cases o with
    | kfree =>
      obtain ⟨-, rfl⟩ := Outcome.done.inj hsem
      exact h.1.free
    | copyFromUser user | terminate i =>
      obtain ⟨-, rfl⟩ := Outcome.done.inj hsem
      exact here_store h _
    | print | strlen | copyToUser n =>
      obtain ⟨-, rfl⟩ := Outcome.done.inj hsem
      exact here_access h
    | _ => exact hallow.elim
  | freed =>
    cases o with
    | kmalloc size =>
      simp only [sem] at hsem
      cases he : e.kmalloc with
      | none =>
        obtain ⟨rfl, rfl⟩ := Outcome.done.inj (by simpa only [he] using hsem)
        exact ⟨h.live, h.frees, h.accesses⟩
      | some found =>
        obtain ⟨rfl, rfl⟩ := Outcome.done.inj (by simpa only [he] using hsem)
        exact ⟨State.Allocated.alloc h _ _, by simp [State.alloc]⟩
    | procRemove =>
      obtain ⟨-, rfl⟩ := Outcome.done.inj hsem
      exact ⟨⟨h.live, h.frees, h.accesses⟩, rfl⟩
    | _ => exact hallow.elim
  | closed =>
    cases o with
    | release r =>
      obtain ⟨-, rfl⟩ := Outcome.done.inj hsem
      exact h
    | _ => exact hallow.elim

/-! ## The functions -/

/-- `proc_write` ends with the new block, if there is one, in the hands of the pointer. -/
lemma follows_procWrite (user : List UInt8) :
    (procWrite user).Follows proto .owned fun st _ => st = .owned ∨ st = .present := by
  simp [procWrite]

lemma follows_procRead (len offset : ℕ) :
    (procRead len offset).Follows proto .present fun st _ => st = .present := by
  simp [procRead]

/-- No operation of a call fails to return. -/
lemma run_done {α : Type} (p : Driver α) (e : Env) (s : State) :
    ∃ a s', p.run (sem e) s = .done a s' := by
  induction p generalizing s with
  | ret a => exact ⟨a, s, rfl⟩
  | act o k ih =>
    obtain ⟨x, t, ho⟩ : ∃ x t, sem e o s = .done x t := by
      cases o with
      | kmalloc size =>
        simp only [sem]
        cases e.kmalloc <;> exact ⟨_, _, rfl⟩
      | _ => exact ⟨_, _, rfl⟩
    rw [run_act_done ho]
    exact ih x t

lemma here_run {α : Type} {p : Driver α} {Q : Stage → α → Prop} (hp : p.Follows proto st Q)
    (h : st.Here s) : ∃ st' a, Q st' a ∧ st'.Here (p.run (sem e) s).state := by
  have hstep (st : Stage) (o : Op) (s : State) (x : o.Ans) (s' : State) (hallow : st.allow o)
      (hs : st.Here s) (hsem : sem e o s = .done x s') :
      proto.expect st o x ∧ (proto.after st o x).Here s' :=
    ⟨trivial, here_sem hs hallow hsem⟩
  obtain ⟨a, s', hrun⟩ := run_done p e s
  obtain ⟨st', hQ, hst'⟩ := hp.run hstep h hrun
  exact ⟨st', a, hQ, by rwa [hrun]⟩

lemma owned_procWrite (h : s.Owned) (user : List UInt8) :
    ((procWrite user).run (sem e) s).state.Owned := by
  have hhere : Stage.owned.Here s := h
  obtain ⟨st, -, rfl | rfl, hst⟩ := here_run (e := e) (follows_procWrite user) hhere
  · exact hst
  · exact hst.1

lemma owned_procRead (h : s.Owned) (hp : s.procBuffer ≠ none) (len offset : ℕ) :
    ((procRead len offset).run (sem e) s).state.Owned := by
  have hhere : Stage.present.Here s := ⟨h, hp⟩
  obtain ⟨st, -, rfl, hst⟩ := here_run (e := e) (follows_procRead len offset) hhere
  exact hst.1

/-- `proc_read` answers from the block as the handler does from memory. -/
lemma reply_procRead (len offset : ℕ) : ∃ t, (procRead len offset).run (sem e) s =
    .done (Procfs.procRead s.bytes len offset e.readFault) t := by
  have hbytes : s.access.bytes = s.bytes := rfl
  by_cases hend : offset ≥ Chardev.strlen s.bytes
  · exact ⟨s.access, by simp [procRead, Procfs.procRead, readMessage, run_act, sem, hend]⟩
  · simp only [procRead, Procfs.procRead, readMessage, op_bind, run_act, sem, hend, if_false,
      hbytes]
    rcases copyToUser s.bytes (Chardev.strlen s.bytes) e.readFault with ⟨stored, copied⟩
    cases copied with
    | false => exact ⟨_, rfl⟩
    | true => exact ⟨_, rfl⟩

/-- A `proc_write` that finds NULL and no memory leaves NULL. -/
lemma run_procWrite_null (user : List UInt8) (hp : s.procBuffer = none) (he : e.kmalloc = none) :
    ((procWrite user).run (sem e) s).state = s := by
  have hs : { s with procBuffer := none } = s := by rw [← hp]
  simp [procWrite, run_act, sem, hp, he, hs]

end Invariant

/-! ## All runs -/

/-- What `hello_exit` does at each stage. -/
@[simp] def Stage.exits : Stage → Op → Prop
  | .owned, .kfree | .freed, .procRemove | .closed, .release _ => True
  | _, _ => False

/-- What holds of `proc_buffer` while a call is at a stage. -/
@[simps]
def outline : Outline Op Op.Ans Unit Unit State Stage Unit where
  proto _ := { proto with allow := Stage.exits }
  ends _ st _ := st = .closed
  here _ _ _ st s := st ≠ .present ∧ st.Here s
  always _ _ := True

section Runs

variable {w w' : World} {l : Move Unit Call}

lemma follows_helloExit :
    helloExit.Follows (outline.proto ()) .owned fun st _ => st = .closed := by
  simp [helloExit, op]

/-- A call is over in one step. -/
lemma event_inv {c : Call} {s s' : State} {ths : List (Thread Op Op.Ans Unit Unit)}
    (h : machine.event c s = some (s', ths)) : s' = c.after s ∧ ths = [] := by
  obtain ⟨-, heq⟩ := Option.ite_none_right_eq_some.1 h
  obtain ⟨rfl, rfl⟩ := Prod.mk.inj (Option.some.inj heq)
  exact ⟨rfl, rfl⟩

/-- There is only the thread that unloads the module. -/
lemma single_of_reach {C : World → Move Unit Call → Prop} (hw : system.Reach C w) :
    w.threads.length = 1 := by
  refine Machine.length_of_reach (fun c s s' ths h => (event_inv h).2) ?_ hw
  rintro _ rfl
  rfl

/-- As long as `kfree` has still to be called, the block is owned. -/
lemma stage_of_open {s : State} {j : ℕ} {th : Thread Op Op.Ans Unit Unit} {st : Stage}
    (hst : outline.At () s j th st) (hnext : th.nextOp = some .kfree) : st = .owned := by
  have hallow : st.exits .kfree := hst.allow hnext
  cases st with
  | owned => rfl
  | present | freed | closed => exact hallow.elim

/-- A call in time keeps the assertions. -/
lemma here_call {c : Call} {j : ℕ} {th : Thread Op Op.Ans Unit Unit} {st : Stage}
    (hc : Timely w (.event c)) (hj : w.threads[j]? = some th)
    (hst : outline.At () w.shared j th st) : st.Here (c.after w.shared) := by
  have howned (hopen : Open w) : st = .owned :=
    stage_of_open hst (hopen th (List.mem_of_getElem? hj))
  cases c with
  | read len offset e =>
    obtain ⟨hopen, hp⟩ := hc
    obtain rfl := howned hopen
    exact owned_procRead hst.here.2 hp len offset
  | write user e =>
    rcases hc with hopen | ⟨hp, he⟩
    · obtain rfl := howned hopen
      exact owned_procWrite hst.here.2 user
    · rw [Call.after, run_procWrite_null user hp he]
      exact hst.here.2

lemma sound : outline.Sound machine fun w l => Timely w l ∧ w.threads.length = 1 where
  act {g w i e r st o k x s} hw hc hi hst hready hsem := by
    have hexits : st.exits o := hst.follows.1
    have hallow : st.allow o ∧ st.after o x ≠ .present := by
      cases st <;> cases o <;> simp at hexits ⊢
    have hhere := here_sem hst.here.2 hallow.1 (show sem {} o w.shared = .done x s from hsem)
    -- there is no other thread
    exact ⟨trivial, (), trivial, ⟨hallow.2, hhere⟩, fun j th st' hj hth _ =>
      absurd (Pool.eq_of_single hc.2 hth hi) hj⟩
  again hst hagain := by cases hagain
  event {g w n s ths} hw hc hevent := by
    obtain ⟨rfl, rfl⟩ := event_inv hevent
    exact ⟨(), trivial, fun j th st hj hst => ⟨hst.here.1, here_call hc.1 hj hst⟩, by simp⟩

/-- **The pointer owns the block.** In every run in which the calls come in time, every
`kfree` and every access is of an allocated block, at most one block is allocated, and none
after the module has been unloaded. -/
theorem kept_of_timely (hw : system.Reach Timely w) : Kept w := by
  have hinit (w : World) (hw : w = ⟨.loaded, [⟨(), helloExit⟩]⟩) :
      ∃ g, outline.Holds g w := by
    subst hw
    exact ⟨(), Outline.holds_single trivial ⟨follows_helloExit, by decide, rfl, rfl, rfl⟩⟩
  have hone := single_of_reach hw
  obtain ⟨⟨⟩, hholds⟩ := sound.holds_of_reach hinit (hw.strengthen fun _ => single_of_reach)
  obtain ⟨th, hth⟩ : ∃ th, w.threads[0]? = some th := ⟨_, List.getElem?_eq_getElem (by omega)⟩
  obtain ⟨st, hst⟩ := hholds.threads 0 th hth
  have hallocated : ∃ blocks : List ℕ, blocks.length ≤ 1 ∧ w.shared.Allocated blocks := by
    cases st with
    | owned => exact ⟨_, by cases w.shared.procBuffer <;> simp, hst.here.2⟩
    | present => exact absurd rfl hst.here.1
    | freed => exact ⟨[], by simp, hst.here.2⟩
    | closed => exact ⟨[], by simp, hst.here.2.1⟩
  obtain ⟨blocks, hlength, hlive, hfrees, haccesses⟩ := hallocated
  refine ⟨hfrees, haccesses, by simpa [hlive] using hlength, ?_⟩
  rintro ⟨th', hth', hresult⟩
  obtain ⟨j, st', -, hst'⟩ := hholds.of_mem hth'
  obtain rfl : st' = .closed := hst'.ends hresult
  exact hst'.here.2.1.live

end Runs

/-! ## Runs -/

/-- The machine after `hello_init`. -/
def start : World := ⟨.loaded, [⟨(), helloExit⟩]⟩

lemma reach_start (C : World → Move Unit Call → Prop) : system.Reach C start := .init rfl

instance (w : World) : Decidable (Unloaded w) := inferInstanceAs (Decidable (∃ th ∈ w.threads, _))

instance (w : World) : Decidable (Open w) := inferInstanceAs (Decidable (∀ th ∈ w.threads, _))

instance (w : World) : (l : Move Unit Call) → Decidable (Timely w l)
  | .run _ _ => inferInstanceAs (Decidable True)
  | .event (.read _ _ _) => inferInstanceAs (Decidable (_ ∧ _))
  | .event (.write _ _) => inferInstanceAs (Decidable (_ ∨ _))

/-- `n` operations of `hello_exit`. -/
def exits (n : ℕ) : List (Move Unit Call) := List.replicate n (.run 0 ())

/-- Two messages are written, the second of which faults, and read, and the module is
unloaded. -/
theorem kept_of_timely_faulted : ∃ w, Unloaded w ∧ Kept w := by
  have hw := System.reach_get
    ([.event (.write [72, 105] {}), .event (.read 10 0 {}),
      .event (.write [33] { writeFault := some (0, 0) }), .event (.read 10 0 {})] ++ exits 6)
    (reach_start Timely) (by decide +kernel) (by decide +kernel)
  exact ⟨_, by decide +kernel, kept_of_timely hw⟩

/-- **The pointer does not own the block**: a `proc_read` before the first message reads
through NULL, a `proc_write` after the `kfree` of `hello_exit` frees the block again, and
when there was no block, its own is never freed. -/
theorem freed_twice :
    (∃ w, system.Reachable w ∧ w.shared.misused = true) ∧
      (∃ w, system.Reachable w ∧ w.shared.ledger.wrong ≠ []) ∧
      ∃ w, system.Reachable w ∧ Unloaded w ∧ w.shared.ledger.live ≠ [] := by
  refine ⟨?_, ?_, ?_⟩
  · exact System.exists_reachable [.event (.read 10 0 {})] (reach_start _) (by decide +kernel)
  · exact System.exists_reachable
      ([.event (.write [72, 105] {})] ++ exits 1 ++ [.event (.write [33] {})]) (reach_start _)
      (by decide +kernel)
  · exact System.exists_reachable (exits 1 ++ [.event (.write [33] {})] ++ exits 5)
      (reach_start _) (by decide +kernel)

end KernelDriverLab.ProcBuffer
