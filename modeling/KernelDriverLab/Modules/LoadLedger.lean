import KernelDriverLab.Lib.Protocol
import KernelDriverLab.Lib.System
import KernelDriverLab.Modules.Loading
import Mathlib.Data.List.Nodup

/-!
# The balance of loading and unloading

A module is loaded and, when `hello_init` has returned 0, unloaded, any number of times,
with calls of `my_write` while it is loaded.  `Life.Settled` is what is expected after a
failed load and after an unload: nothing acquired since the load began is left, and every
release was of something held.

An `Account` is what a load has to remember for this: what is held, which of the static
variables refer to something, the nodes, and whether a release was wrong.  Every operation
keeps the account and the ledger in agreement (`Books`), so that the balance of a function
is read off the account at its end.
-/

namespace KernelDriverLab.Loading

open Lib Prog Chardev

/-! ## The life of a module -/

/-- A module: its state as the latest load left it and the calls changed it, whether it is
loaded, and the ledger number from which the latest load acquired. -/
structure Life where
  drv : State
  loaded : Bool
  base : ℕ

namespace Life

/-- A step of the life of a module. -/
inductive Event where
  | load (e : Env)
  | write (user : List UInt8) (e : Env)
  | unload (e : Env)

/-- The module after a function has returned; after an oops there is none. -/
def after {α : Type} (k : Life) (loaded : α → Bool) : Outcome State α → Option Life
  | .done x s => some { k with drv := s, loaded := loaded x }
  | .oops _ => none

/-- One event. -/
def step (m : LoadModule) (k : Life) : Event → Option Life
  | .load e =>
      if k.loaded = false then
        { k with base := k.drv.ledger.next }.after (· == 0)
          (m.helloInit.run (sem e) (.fresh k.drv.ledger.reopen))
      else none
  | .write user e =>
      if k.loaded then k.after (fun _ => true) ((m.myWrite user).run (sem e) k.drv) else none
  | .unload e =>
      if k.loaded then k.after (fun _ => false) (m.helloExit.run (sem e) k.drv) else none

/-- Nothing acquired since the latest load began is held, and no release was wrong. -/
def Settled (k : Life) : Prop := k.drv.ledger.Settled k.base

instance (k : Life) : Decidable k.Settled := inferInstanceAs (Decidable (Ledger.Settled _ _))

/-- With the event, `hello_init` returned an error or `hello_exit` returned. -/
def Ended (k : Life) : Event → Prop
  | .load _ | .unload _ => k.loaded = false
  | .write _ _ => False

instance (k : Life) : (l : Event) → Decidable (k.Ended l)
  | .load _ | .unload _ => inferInstanceAs (Decidable (_ = _))
  | .write _ _ => inferInstanceAs (Decidable False)

end Life

/-- The life of a module from the first load on. -/
def lifecycle (m : LoadModule) : System Life Life.Event where
  Init k := k.loaded = false
  next := Life.step m

/-! ## Accounts -/

/-- What a load has to remember for the balance at its end. -/
structure Account where
  held : List Registration
  /-- The static variables that refer to something. -/
  refs : List Registration
  nodes : List ℕ
  /-- Something was released that was not held. -/
  wrong : Bool
deriving DecidableEq, Repr

namespace Account

/-- Nothing has been acquired yet. -/
@[simps]
def start : Account := ⟨[], [], [], false⟩

/-- Nothing is held any more, and no release was wrong. -/
def Clean (a : Account) : Prop := a.held = [] ∧ a.nodes = [] ∧ a.wrong = false

instance (a : Account) : Decidable a.Clean := inferInstanceAs (Decidable (_ ∧ _))

/-- Something is acquired. -/
@[simps]
def grant (a : Account) (r : Registration) : Account :=
  { a with held := r :: a.held, refs := r :: a.refs }

/-- Something is refused. -/
@[simps]
def refuse (a : Account) (r : Registration) : Account :=
  { a with refs := a.refs.filter (· ≠ r) }

/-- Something is given back. -/
@[simps]
def giveBack (a : Account) (r : Registration) : Account :=
  { a with held := a.held.erase r, wrong := a.wrong || r ∉ a.held }

/-- What a function that registers something returns. -/
def answer (a : Account) (e : Env) (r : Registration) : Int :=
  if r = .sysfsFile ∧ .kobject ∉ a.refs then -EINVAL else e.answer r

lemma answer_of_ne {a : Account} {e : Env} {r : Registration} (hr : r ≠ .sysfsFile) :
    a.answer e r = e.answer r := if_neg fun h => hr h.1

end Account

/-- Nothing is registered twice, and only nodes of the list are freed. -/
@[simp] def Account.allow (a : Account) : Op → Prop
  | .acquire r => r ∉ a.held ∧ r ≠ .node
  | .release r => r ≠ .node
  | .freeNode n => n ∈ a.nodes
  | .queueWork _ => False
  | _ => True

/-- What the account expects of an answer. -/
@[simp] def Account.expect (e : Env) (a : Account) : (o : Op) → o.Ans → Prop
  | .acquire r, x => x = a.answer e r
  | .loadNodes, ns => ns = a.nodes
  | _, _ => True

/-- The account after an operation. -/
@[simp] def Account.after (a : Account) : (o : Op) → o.Ans → Account
  | .acquire r, x => if x = 0 then a.grant r else a.refuse r
  | .release r, _ => if r = .kobject ∧ .kobject ∉ a.refs then a else a.giveBack r
  | .addNode, some n => { a with nodes := a.nodes ++ [n] }
  | .freeNode n, _ => { a with nodes := a.nodes.erase n }
  | _, _ => a

/-- The account that is kept along a run. -/
@[simps]
def accounts (e : Env) : Protocol Op Op.Ans Account where
  allow := Account.allow
  expect := Account.expect e
  after := Account.after

/-! ## The books -/

/-- The acquisition that a static variable refers to. -/
def State.entry (s : State) (r : Registration) : ℕ × Registration := ((s.handle r).getD 0, r)

/-- The account and the ledger agree. -/
structure Books (base : ℕ) (old : List (ℕ × Registration)) (a : Account) (s : State) : Prop where
  live : s.ledger.live.Perm (a.held.map s.entry ++ (a.nodes.map (·, .node) ++ old))
  nodes : s.nodes.map Prod.fst = a.nodes
  wrong : s.ledger.wrong = [] ↔ a.wrong = false
  held_nodup : a.held.Nodup
  nodes_nodup : a.nodes.Nodup
  node_notMem : .node ∉ a.held
  held_refs : ∀ r ∈ a.held, r ∈ a.refs
  refs : ∀ r, r ∈ a.refs ↔ s.handle r ≠ none
  handle_mem : ∀ r i, s.handle r = some i → base ≤ i ∧ i < s.ledger.next
  nodes_mem : ∀ n ∈ a.nodes, base ≤ n ∧ n < s.ledger.next
  old_lt : ∀ p ∈ old, p.1 < base
  base_le : base ≤ s.ledger.next

namespace Books

variable {base : ℕ} {old : List (ℕ × Registration)} {a : Account} {s : State} {e : Env}

lemma mem_live (h : Books base old a s) {p : ℕ × Registration} :
    p ∈ s.ledger.live ↔ p ∈ a.held.map s.entry ∨ p ∈ a.nodes.map (·, .node) ∨ p ∈ old := by
  rw [h.live.mem_iff, List.mem_append, List.mem_append]

lemma entry_of_held (h : Books base old a s) {r : Registration} (hr : r ∈ a.held) :
    ∃ i, s.handle r = some i ∧ s.entry r = (i, r) ∧ base ≤ i := by
  obtain ⟨i, hi⟩ := Option.ne_none_iff_exists'.1 ((h.refs r).1 (h.held_refs r hr))
  exact ⟨i, hi, by simp [State.entry, hi], (h.handle_mem r i hi).1⟩

/-- What is not held is not in the ledger under the number of its static variable. -/
lemma notMem_live (h : Books base old a s) {r : Registration} (hr : r ∉ a.held)
    (hnode : r ≠ .node) : ((s.handle r).getD s.ledger.next, r) ∉ s.ledger.live := by
  intro hmem
  rcases h.mem_live.1 hmem with hheld | hn | hold
  · obtain ⟨r', hr', heq⟩ := List.mem_map.1 hheld
    obtain rfl : r' = r := congrArg Prod.snd heq
    exact hr hr'
  · obtain ⟨n, -, heq⟩ := List.mem_map.1 hn
    exact hnode (congrArg Prod.snd heq).symm
  · have hlt := h.old_lt _ hold
    have hlt' := s.ledger.numbered _ hmem
    cases hr' : s.handle r with
    | none => simp [hr'] at hlt'
    | some i =>
      have hle := (h.handle_mem r i hr').1
      simp only [hr', Option.getD_some] at hlt
      omega

/-- **The balance is read off the account.** -/
lemma settled_iff (h : Books base old a s) : s.ledger.Settled base ↔ a.Clean := by
  constructor
  · intro ⟨hlive, hwrong⟩
    refine ⟨List.eq_nil_iff_forall_not_mem.2 fun r hr => ?_,
      List.eq_nil_iff_forall_not_mem.2 fun n hn => ?_, h.wrong.1 hwrong⟩
    · obtain ⟨i, -, hentry, hle⟩ := h.entry_of_held hr
      have hlt := hlive (i, r) (h.mem_live.2 (.inl (hentry ▸ List.mem_map_of_mem hr)))
      exact absurd hlt (Nat.not_lt.2 hle)
    · have hlt := hlive (n, .node) (h.mem_live.2 (.inr (.inl (List.mem_map.2 ⟨n, hn, rfl⟩))))
      exact absurd hlt (Nat.not_lt.2 (h.nodes_mem n hn).1)
  · rintro ⟨hheld, hnodes, hwrong⟩
    refine ⟨fun p hp => h.old_lt p ?_, h.wrong.2 hwrong⟩
    simpa [hheld, hnodes] using h.mem_live.1 hp

/-- The entries of what is held do not change when another static variable does. -/
lemma map_entry_congr {held : List Registration} {r : Registration} {s' : State} (hr : r ∉ held)
    (hs' : ∀ r', r' ≠ r → s'.handle r' = s.handle r') :
    held.map s'.entry = held.map s.entry := by
  refine List.map_congr_left fun r' hr' => ?_
  have hne : r' ≠ r := fun heq => hr (heq ▸ hr')
  rw [State.entry, State.entry, hs' r' hne]

lemma grant (h : Books base old a s) {r : Registration} (hr : r ∉ a.held) (hnode : r ≠ .node) :
    Books base old (a.grant r) (s.grant r) where
  live := by
    have hmap : a.held.map (s.grant r).entry = a.held.map s.entry :=
      map_entry_congr hr fun r' hne => by simp [hne]
    have hentry : (s.grant r).entry r = (s.ledger.next, r) := by simp [State.entry]
    simpa [hmap, hentry, Ledger.acquire] using h.live
  nodes := h.nodes
  wrong := h.wrong
  held_nodup := List.nodup_cons.2 ⟨hr, h.held_nodup⟩
  nodes_nodup := h.nodes_nodup
  node_notMem := by simpa [Ne.symm hnode] using h.node_notMem
  held_refs r' hr' := by
    rcases List.mem_cons.1 hr' with rfl | hr'
    · exact List.mem_cons_self
    · exact List.mem_cons_of_mem _ (h.held_refs r' hr')
  refs r' := by
    by_cases heq : r' = r
    · simp [heq]
    · simpa [heq] using h.refs r'
  handle_mem r' i hi := by
    by_cases heq : r' = r
    · obtain rfl : s.ledger.next = i := by simpa [heq] using hi
      exact ⟨h.base_le, Nat.lt_succ_self _⟩
    · obtain ⟨hle, hlt⟩ := h.handle_mem r' i (by simpa [heq] using hi)
      exact ⟨hle, hlt.trans (Nat.lt_succ_self _)⟩
  nodes_mem n hn := ⟨(h.nodes_mem n hn).1, (h.nodes_mem n hn).2.trans (Nat.lt_succ_self _)⟩
  old_lt := h.old_lt
  base_le := h.base_le.trans (Nat.le_succ _)

lemma refuse (h : Books base old a s) {r : Registration} (hr : r ∉ a.held) :
    Books base old (a.refuse r) (s.refuse r) where
  live := by
    have hmap : a.held.map (s.refuse r).entry = a.held.map s.entry :=
      map_entry_congr hr fun r' hne => by simp [hne]
    simpa [hmap] using h.live
  nodes := h.nodes
  wrong := h.wrong
  held_nodup := h.held_nodup
  nodes_nodup := h.nodes_nodup
  node_notMem := h.node_notMem
  held_refs r' hr' := by
    have hne : r' ≠ r := fun heq => hr (heq ▸ hr')
    simpa [hne] using h.held_refs r' hr'
  refs r' := by
    by_cases heq : r' = r
    · simp [heq]
    · simpa [heq] using h.refs r'
  handle_mem r' i hi := by
    by_cases heq : r' = r
    · simp [heq] at hi
    · exact h.handle_mem r' i (by simpa [heq] using hi)
  nodes_mem := h.nodes_mem
  old_lt := h.old_lt
  base_le := h.base_le

lemma giveBack (h : Books base old a s) {r : Registration} (hnode : r ≠ .node) :
    Books base old (a.giveBack r) (s.giveBack r) where
  live := by
    have hsame : (s.giveBack r).entry = s.entry := rfl
    rw [hsame]
    by_cases hr : r ∈ a.held
    · obtain ⟨i, hi, hentry, -⟩ := h.entry_of_held hr
      have hperm := (h.live.trans (List.Perm.append_right _
        ((List.perm_cons_erase hr).map s.entry))).erase (i, r)
      simpa [hi, hentry, Ledger.release] using hperm
    · have hnot := h.notMem_live hr hnode
      simpa [Ledger.release, List.erase_of_not_mem hnot, List.erase_of_not_mem hr] using h.live
  nodes := h.nodes
  wrong := by
    by_cases hr : r ∈ a.held
    · obtain ⟨i, hi, hentry, -⟩ := h.entry_of_held hr
      have hmem : (i, r) ∈ s.ledger.live := h.mem_live.2 (.inl (hentry ▸ List.mem_map_of_mem hr))
      simpa [hi, Ledger.release, hmem, hr] using h.wrong
    · have hnot := h.notMem_live hr hnode
      simp [Ledger.release, hnot, hr]
  held_nodup := h.held_nodup.erase r
  nodes_nodup := h.nodes_nodup
  node_notMem hmem := h.node_notMem (List.mem_of_mem_erase hmem)
  held_refs r' hr' := h.held_refs r' (List.mem_of_mem_erase hr')
  refs := h.refs
  handle_mem := h.handle_mem
  nodes_mem := h.nodes_mem
  old_lt := h.old_lt
  base_le := h.base_le

lemma addNode (h : Books base old a s) (data : Int) :
    Books base old { a with nodes := a.nodes ++ [s.ledger.next] } { s with
      ledger := s.ledger.acquire .node
      nodes := s.nodes ++ [(s.ledger.next, data)]
      tempValue := data } where
  live := by
    have hfirst : List.Perm ((s.ledger.next, .node) :: s.ledger.live) (a.held.map s.entry ++
        (s.ledger.next, .node) :: (a.nodes.map (·, .node) ++ old)) :=
      (h.live.cons _).trans List.perm_middle.symm
    have hlast : List.Perm ((s.ledger.next, .node) :: (a.nodes.map (·, .node) ++ old))
        ((a.nodes ++ [s.ledger.next]).map (·, .node) ++ old) := by
      simpa using List.perm_middle.symm
    exact hfirst.trans (hlast.append_left _)
  nodes := by simp [h.nodes]
  wrong := h.wrong
  held_nodup := h.held_nodup
  nodes_nodup := by
    have hnot : s.ledger.next ∉ a.nodes := fun hmem => Nat.lt_irrefl _ (h.nodes_mem _ hmem).2
    rw [List.nodup_append]
    refine ⟨h.nodes_nodup, by simp, fun n hn n' hn' => ?_⟩
    obtain rfl := List.mem_singleton.1 hn'
    exact fun heq => hnot (heq ▸ hn)
  node_notMem := h.node_notMem
  held_refs := h.held_refs
  refs := h.refs
  handle_mem r i hi :=
    ⟨(h.handle_mem r i hi).1, (h.handle_mem r i hi).2.trans (Nat.lt_succ_self _)⟩
  nodes_mem n hn := by
    rcases List.mem_append.1 hn with hn | hn
    · exact ⟨(h.nodes_mem n hn).1, (h.nodes_mem n hn).2.trans (Nat.lt_succ_self _)⟩
    · obtain rfl := List.mem_singleton.1 hn
      exact ⟨h.base_le, Nat.lt_succ_self _⟩
  old_lt := h.old_lt
  base_le := h.base_le.trans (Nat.le_succ _)

lemma freeNode (h : Books base old a s) {n : ℕ} (hn : n ∈ a.nodes) :
    Books base old { a with nodes := a.nodes.erase n } { s with
      ledger := s.ledger.release n .node
      nodes := s.nodes.filter fun p => p.1 != n } where
  live := by
    have hheld : ((n, .node) : ℕ × Registration) ∉ a.held.map s.entry := by
      intro hmem
      obtain ⟨r, hr, heq⟩ := List.mem_map.1 hmem
      obtain rfl : r = .node := congrArg Prod.snd heq
      exact h.node_notMem hr
    have hperm : ((a.nodes.map (·, Registration.node) ++ old).erase (n, .node)).Perm
        ((a.nodes.erase n).map (·, .node) ++ old) := by
      have hcons := ((List.perm_cons_erase hn).map (·, Registration.node)).append_right old
      simpa using hcons.erase (n, .node)
    have herase := h.live.erase (n, .node)
    rw [List.erase_append_right _ hheld] at herase
    exact herase.trans (hperm.append_left _)
  nodes := by
    have herase : a.nodes.erase n = a.nodes.filter (· != n) := h.nodes_nodup.erase_eq_filter n
    rw [herase, ← h.nodes, List.filter_map]
    rfl
  wrong := by
    have hmem : (n, .node) ∈ s.ledger.live :=
      h.mem_live.2 (.inr (.inl (List.mem_map.2 ⟨n, hn, rfl⟩)))
    simpa [Ledger.release, hmem] using h.wrong
  held_nodup := h.held_nodup
  nodes_nodup := h.nodes_nodup.erase n
  node_notMem := h.node_notMem
  held_refs := h.held_refs
  refs := h.refs
  handle_mem := h.handle_mem
  nodes_mem n' hn' := h.nodes_mem n' (List.mem_of_mem_erase hn')
  old_lt := h.old_lt
  base_le := h.base_le

/-- **Every operation keeps the books.** -/
lemma step (h : Books base old a s) {o : Op} {x : o.Ans} {s' : State} (hallow : a.allow o)
    (hsem : sem e o s = .done x s') : a.expect e o x ∧ Books base old (a.after o x) s' := by
  cases o with
  | acquire r =>
    obtain ⟨rfl, rfl⟩ := Outcome.done.inj hsem
    have hanswer : (s.tryAcquire e r).1 = a.answer e r := by
      have hnull : s.handle .kobject = none ↔ .kobject ∉ a.refs := by rw [h.refs, not_not]
      simp only [State.tryAcquire, Account.answer, hnull]
      split_ifs with hsysfs hok
      · rfl
      · exact hok.symm
      · rfl
    refine ⟨hanswer, ?_⟩
    obtain hr | ⟨y, hy, hr⟩ := s.tryAcquire_cases e r
    · simpa [hr] using h.grant hallow.1 hallow.2
    · simpa [hr, hy] using h.refuse hallow.1
  | release r =>
    obtain ⟨-, rfl⟩ := Outcome.done.inj hsem
    refine ⟨trivial, ?_⟩
    by_cases hnull : r = .kobject ∧ .kobject ∉ a.refs
    · have hnone : s.handle .kobject = none := by simpa [h.refs] using hnull.2
      simpa [hnull, hnone] using h
    · have hsome : ¬ (r = .kobject ∧ s.handle r = none) := by
        rintro ⟨rfl, hnone⟩
        exact hnull ⟨rfl, fun hmem => (h.refs _).1 hmem hnone⟩
      rw [if_neg hsome]
      show Books base old (if _ then _ else _) _
      rw [if_neg hnull]
      exact h.giveBack hallow
  | queueWork own => exact hallow.elim
  | copyMessage user =>
    obtain ⟨-, rfl⟩ := Outcome.done.inj hsem
    exact ⟨trivial, { h with }⟩
  | addNode =>
    simp only [sem] at hsem
    split_ifs at hsem
    · obtain ⟨rfl, rfl⟩ := Outcome.done.inj hsem
      exact ⟨trivial, h.addNode _⟩
    · obtain ⟨rfl, rfl⟩ := Outcome.done.inj hsem
      exact ⟨trivial, h⟩
  | loadNodes =>
    obtain ⟨rfl, rfl⟩ := Outcome.done.inj hsem
    exact ⟨h.nodes, h⟩
  | freeNode n =>
    obtain ⟨-, rfl⟩ := Outcome.done.inj hsem
    exact ⟨trivial, h.freeNode hallow⟩
  | lastQueued | awaitWork n =>
    obtain ⟨-, rfl⟩ := Outcome.done.inj hsem
    exact ⟨trivial, h⟩

end Books

/-! ## The account of each function -/

/-- What `register` has acquired when it goes on to the rest. -/
def registered : List Registration := [.sysfsFile, .kobject, .device, .cls, .cdev, .chrdevRegion]

/-- The account of a load that has come this far. -/
def Account.opened : Account := ⟨registered, registered, [], false⟩

/-- A load fails before anything is left behind: there is no device number, or there is no
class. -/
def Env.FailsEarly (e : Env) : Prop :=
  e.answer .chrdevRegion ≠ 0 ∨ e.answer .cdev = 0 ∧ e.answer .cls ≠ 0

instance (e : Env) : Decidable e.FailsEarly := inferInstanceAs (Decidable (_ ∨ _))

/-- The functions that register something return 0 or a negative error. -/
lemma answer_neg_iff {e : Env} {r : Registration} : e.answer r < 0 ↔ e.answer r ≠ 0 := by
  unfold Env.answer
  cases e.fails r with
  | none => simp
  | some n =>
    have : -((n + 1 : ℕ) : Int) < 0 := by omega
    exact iff_of_true this this.ne

/-- The threads of a module, the latest first. -/
def LoadModule.kthreads : LoadModule → List ℕ
  | .rwspinlockModule => [2, 1, 0]
  | _ => [0]

/-- `my_write` adds nodes to a list. -/
def LoadModule.hasList : LoadModule → Bool
  | .taskletModule | .linkedList => true
  | _ => false

/-- What a module acquires after its threads. -/
def LoadModule.interrupts : LoadModule → List Registration
  | .rwspinlockModule => []
  | .ownWorkqueues | .linkedList => [.workqueue, .irq]
  | _ => [.irq]

/-- What `hello_exit` gives back. -/
def LoadModule.resources (m : LoadModule) : List Registration :=
  m.interrupts ++ m.kthreads.reverse.map .thread ++ registered

namespace Account

section Follow

variable {e : Env} {a : Account} {r : Registration} {α : Type} {Q : Account → α → Prop}

/-- A call that can fail. -/
lemma follows_acquire {k : Int → Driver α} (hr : r ∉ a.held ∧ r ≠ .node)
    (hbad : a.answer e r ≠ 0 → (k (a.answer e r)).Follows (accounts e) (a.refuse r) Q)
    (hok : a.answer e r = 0 → (k 0).Follows (accounts e) (a.grant r) Q) :
    (op (Op.acquire r) >>= k).Follows (accounts e) a Q := by
  refine ⟨hr, ?_⟩
  rintro _ rfl
  by_cases h : a.answer e r = 0
  · have hafter : (accounts e).after a (.acquire r) (a.answer e r) = a.grant r := if_pos h
    rw [hafter, h]
    exact hok h
  · have hafter : (accounts e).after a (.acquire r) (a.answer e r) = a.refuse r := if_neg h
    rw [hafter]
    exact hbad h

/-- A call that returns a pointer. -/
lemma follows_acquirePtr {bad : Ptr} {k : Ptr → Driver α} (hr : r ∉ a.held ∧ r ≠ .node)
    (hbad : a.answer e r ≠ 0 → (k bad).Follows (accounts e) (a.refuse r) Q)
    (hok : a.answer e r = 0 → (k .valid).Follows (accounts e) (a.grant r) Q) :
    (acquirePtr r bad >>= k).Follows (accounts e) a Q := by
  refine follows_acquire (k := fun ret => k (if ret = 0 then .valid else bad)) hr (fun h => ?_) hok
  rw [if_neg h]
  exact hbad h

/-- `kthread_run` does not return NULL, and the test for it never fires. -/
lemma follows_kthreadRun {i : ℕ} {error rest : Driver α} (hr : .thread i ∉ a.held)
    (hbad : rest.Follows (accounts e) (a.refuse (.thread i)) Q)
    (hok : rest.Follows (accounts e) (a.grant (.thread i)) Q) :
    (kthreadRun i >>= fun kthread => if kthread = .null then error else rest).Follows
      (accounts e) a Q := by
  refine follows_acquirePtr ⟨hr, by simp⟩ (fun _ => ?_) fun _ => ?_
  · exact follows_ite.2 ⟨fun herr => absurd herr (by decide), fun _ => hbad⟩
  · exact follows_ite.2 ⟨fun herr => absurd herr (by decide), fun _ => hok⟩

end Follow

section Init

variable {e : Env} {a : Account} {Q : Account → Int → Prop}

lemma follows_rClass (h : Q ((a.giveBack .chrdevRegion).giveBack .cdev) (-1)) :
    rClass.Follows (accounts e) a Q := by
  simpa [rClass, unregisterChrdevRegion, cdevDel] using h

lemma follows_rDevice (h : Q (a.giveBack .cls) (-1)) : rDevice.Follows (accounts e) a Q := by
  simpa [rDevice, classDestroy] using h

/-- No sysfs file was made, and its release is wrong. -/
lemma follows_rSysfs (hfile : .sysfsFile ∉ a.held)
    (h : ∀ a' : Account, a'.wrong = true → Q a' (-1)) : rSysfs.Follows (accounts e) a Q := by
  refine ⟨by simp, fun _ _ => ⟨by simp, fun _ _ => follows_rClass (h _ ?_)⟩⟩
  by_cases hnull : .kobject ∈ a.refs
  · simp [hfile, hnull]
  · simp [hfile, hnull]

/-- `hello_init` fails with something left behind or wrongly released, or before. -/
def Fails (e : Env) (a : Account) (x : Int) : Prop := x ≠ 0 ∧ (a.Clean ↔ e.FailsEarly)

lemma follows_register {rest : Driver Int}
    (hrest : ¬ e.FailsEarly → rest.Follows (accounts e) .opened Q)
    (hQ : ∀ a x, Fails e a x → Q a x) : (register rest).Follows (accounts e) .start Q := by
  refine follows_acquire (by decide) (fun hregion => ?_) fun hregion => ?_
  · rw [Account.answer_of_ne (by decide)] at hregion
    refine follows_ite.2 ⟨fun _ => ?_, fun hneg => absurd (answer_neg_iff.2 hregion) hneg⟩
    exact hQ _ _ ⟨hregion, iff_of_true (by decide) (.inl hregion)⟩
  rw [Account.answer_of_ne (by decide)] at hregion
  refine follows_ite.2 ⟨fun hneg => absurd hneg (by decide), fun _ => ?_⟩
  refine follows_acquire (by decide) (fun hcdev => ?_) fun hcdev => ?_
  · rw [Account.answer_of_ne (by decide)] at hcdev ⊢
    refine follows_ite.2 ⟨fun _ => follows_rClass ?_, fun h => absurd (answer_neg_iff.2 hcdev) h⟩
    refine hQ _ _ ⟨by decide, iff_of_false (by decide) ?_⟩
    simp [Env.FailsEarly, hregion, hcdev]
  rw [Account.answer_of_ne (by decide)] at hcdev
  refine follows_ite.2 ⟨fun hneg => absurd hneg (by decide), fun _ => ?_⟩
  refine follows_acquirePtr (by decide) (fun hcls => ?_) fun hcls => ?_
  · rw [Account.answer_of_ne (by decide)] at hcls
    refine follows_ite.2 ⟨fun _ => follows_rClass ?_, fun h => absurd rfl h⟩
    exact hQ _ _ ⟨by decide, iff_of_true (by decide) (.inr ⟨hcdev, hcls⟩)⟩
  rw [Account.answer_of_ne (by decide)] at hcls
  -- from here on a failure leaves something behind
  have hlate : ¬ e.FailsEarly := by simp [Env.FailsEarly, hregion, hcls]
  have hfail (a : Account) (ha : ¬ a.Clean) : Q a (-1) :=
    hQ a (-1) ⟨by decide, iff_of_false ha hlate⟩
  have hsysfs {a : Account} (hfile : .sysfsFile ∉ a.held) : rSysfs.Follows (accounts e) a Q :=
    follows_rSysfs hfile fun a' ha' => hfail a' fun h => by simp [h.2.2] at ha'
  refine follows_ite.2 ⟨fun herr => absurd herr (by decide), fun _ => ?_⟩
  refine follows_acquirePtr (by decide) (fun _ => ?_) fun _ => ?_
  · exact follows_ite.2 ⟨fun _ => follows_rDevice (hfail _ (by decide)), fun h => absurd rfl h⟩
  refine follows_ite.2 ⟨fun herr => absurd herr (by decide), fun _ => ?_⟩
  refine follows_acquirePtr (by decide) (fun _ => ?_) fun _ => ?_
  · -- without a kobject there is no sysfs file
    refine follows_acquire (by decide) (fun hbad => ?_) fun hok => ?_
    · exact follows_ite.2 ⟨fun _ => hsysfs (by decide), fun h => absurd hbad h⟩
    · simp [Account.answer, EINVAL] at hok
  refine follows_acquire (by decide) (fun hbad => ?_) fun _ => ?_
  · exact follows_ite.2 ⟨fun _ => hsysfs (by decide), fun h => absurd hbad h⟩
  exact follows_ite.2 ⟨fun hne => absurd rfl hne, fun _ => hrest hlate⟩

/-- The account of a module that is loaded.  The `kthread_run` of some thread may have
failed. -/
structure Loaded (m : LoadModule) (a : Account) : Prop where
  nodes : m.hasList = false → a.nodes = []
  held : a.held =
    m.interrupts ++ (m.kthreads.filter (.thread · ∈ a.refs)).map .thread ++ registered
  kobject : .kobject ∈ a.refs
  wrong : a.wrong = false

/-- What the account says when `hello_init` returns `x`: everything is loaded, or the load has
failed as the labels leave it. -/
def Inits (m : LoadModule) (e : Env) (a : Account) (x : Int) : Prop :=
  x = 0 ∧ Loaded m a ∨ Fails e a x

/-- When something was released wrongly, the labels do not make up for it. -/
lemma follows_rThread (ha : a.wrong = true) (h : ∀ a' : Account, a'.wrong = true → Q a' (-1)) :
    rThread.Follows (accounts e) a Q := by
  refine ⟨by simp, fun _ _ => ⟨by simp, fun _ _ => ⟨by simp, fun _ _ => follows_rClass (h _ ?_)⟩⟩⟩
  by_cases hnull : .kobject ∈ a.refs
  · simp [ha, hnull]
  · simp [ha, hnull]

/-- `hello_init` from `request_irq` on. -/
lemma follows_irq {m : LoadModule} (hirq : .irq ∉ a.held) (hwq : .workqueue ∉ a.held)
    (hlate : ¬ e.FailsEarly)
    (hloaded : Loaded m
      (if m.own then (a.grant .irq).grant .workqueue else a.grant .irq)) :
    (requestIrq >>= fun ret => if ret ≠ 0 then rIrq
      else if m.own then allocWorkqueue >>= fun wq => if wq = .null then pure (-ENOMEM) else pure 0
      else pure 0).Follows (accounts e) a (Inits m e) := by
  refine follows_acquire ⟨hirq, by decide⟩ (fun hbad => ?_) fun _ => ?_
  · refine follows_ite.2 ⟨fun _ => ⟨by simp, fun _ _ => ?_⟩, fun h => absurd hbad h⟩
    refine follows_rThread (by simp [hirq]) fun a' ha' => .inr ⟨by decide, iff_of_false ?_ hlate⟩
    exact fun h => by simp [h.2.2] at ha'
  refine follows_ite.2 ⟨fun hne => absurd rfl hne, fun _ => ?_⟩
  by_cases hown : m.own = true
  · rw [if_pos hown] at hloaded ⊢
    refine follows_acquirePtr ⟨by simpa using hwq, by decide⟩ (fun _ => ?_) fun _ => ?_
    · -- everything else stays registered
      exact .inr ⟨by decide, iff_of_false (by simp [Account.Clean]) hlate⟩
    · exact .inl ⟨rfl, hloaded⟩
  · rw [if_neg hown] at hloaded ⊢
    exact .inl ⟨rfl, hloaded⟩

lemma follows_irqInit {m : LoadModule} (hm : m ≠ .rwspinlockModule) :
    (irqInit m.own).Follows (accounts e) .start (Inits m e) := by
  refine follows_register (fun hlate => ?_) fun a x h => .inr h
  refine follows_kthreadRun (by decide) (follows_irq (by decide) (by decide) hlate ?_)
    (follows_irq (by decide) (by decide) hlate ?_)
  · cases m <;> first | exact ⟨fun _ => rfl, by decide, by decide, rfl⟩ | exact absurd rfl hm
  · cases m <;> first | exact ⟨fun _ => rfl, by decide, by decide, rfl⟩ | exact absurd rfl hm

lemma follows_rwspinlockInit :
    rwspinlockInit.Follows (accounts e) .start (Inits .rwspinlockModule e) := by
  refine follows_register (fun hlate => ?_) fun a x h => .inr h
  refine follows_kthreadRun (by decide) ?_ ?_
  all_goals refine follows_kthreadRun (by decide) ?_ ?_
  all_goals refine follows_kthreadRun (by decide) ?_ ?_
  all_goals exact .inl ⟨rfl, fun _ => rfl, by decide, by decide, rfl⟩

lemma follows_helloInit (m : LoadModule) :
    m.helloInit.Follows (accounts e) .start (Inits m e) := by
  cases m with
  | rwspinlockModule => exact follows_rwspinlockInit
  | ownWorkqueues | workqueuesOnCpu | workqueuesModule | taskletModule | linkedList =>
    exact follows_irqInit (by decide)

end Init

section Exit

variable {e : Env} {a : Account} {r : Registration} {α : Type} {Q : Account → α → Prop}

/-- `my_write` only adds a node. -/
lemma follows_myWrite {m : LoadModule} (h : Loaded m a) (user : List UInt8) :
    (m.myWrite user).Follows (accounts e) a fun a' _ => Loaded m a' := by
  refine ⟨trivial, fun toCopy _ => follows_ite.2 ⟨fun _ => h, fun _ => ?_⟩⟩
  cases m with
  | linkedList | taskletModule =>
    refine ⟨trivial, fun node _ => ?_⟩
    cases node with
    | none => exact h
    | some n => exact ⟨fun hno => absurd hno (by decide), h.held, h.kobject, h.wrong⟩
  | ownWorkqueues | workqueuesOnCpu | workqueuesModule | rwspinlockModule => exact h

lemma follows_freeEach {ns : List ℕ} (hns : a.nodes = ns) :
    (freeEach ns).Follows (accounts e) a fun a' _ => a' = { a with nodes := [] } := by
  induction ns generalizing a with
  | nil =>
    show a = { a with nodes := [] }
    rw [← hns]
  | cons n ns ih =>
    refine ⟨by simp [hns], fun _ _ => ?_⟩
    have herase : { a with nodes := a.nodes.erase n }.nodes = ns := by simp [hns]
    exact ih herase

lemma follows_freeNodes {k : Unit → Driver α}
    (h : (k ()).Follows (accounts e) { a with nodes := [] } Q) :
    (freeNodes >>= k).Follows (accounts e) a Q := by
  refine ⟨trivial, fun ns hns => ?_⟩
  refine follows_bind.2 ((follows_freeEach (Eq.symm hns)).mono ?_)
  rintro _ _ rfl
  exact h

lemma follows_flushWork {k : Unit → Driver α} (h : (k ()).Follows (accounts e) a Q) :
    (flushWork >>= k).Follows (accounts e) a Q :=
  ⟨trivial, fun _ _ => ⟨trivial, fun _ _ => h⟩⟩

lemma follows_release {k : Unit → Driver α} (hnode : r ≠ .node) (hkobject : .kobject ∈ a.refs)
    (h : (k ()).Follows (accounts e) (a.giveBack r) Q) :
    (op (Op.release r) >>= k).Follows (accounts e) a Q := by
  refine ⟨hnode, fun _ _ => ?_⟩
  have hafter : (accounts e).after a (.release r) () = a.giveBack r :=
    if_neg fun hn => hn.2 hkobject
  rw [hafter]
  exact h

/-- The account after these things have been given back one after the other. -/
def giveBackAll (a : Account) (rs : List Registration) : Account := rs.foldl giveBack a

lemma held_giveBackAll (rs : List Registration) : (a.giveBackAll rs).held = a.held.diff rs := by
  induction rs generalizing a with
  | nil => rfl
  | cons r rs ih =>
    rw [List.diff_cons]
    exact ih

lemma nodes_giveBackAll (rs : List Registration) : (a.giveBackAll rs).nodes = a.nodes := by
  induction rs generalizing a with
  | nil => rfl
  | cons r rs ih => exact ih

lemma wrong_giveBackAll {rs : List Registration} (hrs : rs.Nodup) :
    (a.giveBackAll rs).wrong = false ↔ a.wrong = false ∧ ∀ r ∈ rs, r ∈ a.held := by
  induction rs generalizing a with
  | nil => simp [giveBackAll]
  | cons r rs ih =>
    obtain ⟨hr, hrs⟩ := List.nodup_cons.1 hrs
    have herase (r' : Registration) (hr' : r' ∈ rs) : r' ∈ a.held.erase r ↔ r' ∈ a.held :=
      List.mem_erase_of_ne fun heq => hr (heq ▸ hr')
    show ((a.giveBack r).giveBackAll rs).wrong = false ↔ _
    rw [ih hrs, List.forall_mem_cons]
    simp only [giveBack_held, giveBack_wrong, Bool.or_eq_false_iff, decide_eq_false_iff_not,
      not_not, and_assoc]
    exact and_congr_right fun _ => and_congr_right fun _ => forall₂_congr herase

/-- Giving back a list of things that contains all that is held leaves the account clean
when all of them are held. -/
lemma clean_giveBackAll {rs : List Registration} (hrs : rs.Nodup) (hheld : a.held.Nodup)
    (hsub : ∀ r ∈ a.held, r ∈ rs) (hnodes : a.nodes = []) (hwrong : a.wrong = false) :
    (a.giveBackAll rs).Clean ↔ ∀ r ∈ rs, r ∈ a.held := by
  have hnil : a.held.diff rs = [] := by
    refine List.eq_nil_iff_forall_not_mem.2 fun r hr => ?_
    obtain ⟨hmem, hnot⟩ := (List.Nodup.mem_sdiff_iff hheld).1 hr
    exact hnot (hsub r hmem)
  rw [Clean, held_giveBackAll, nodes_giveBackAll, wrong_giveBackAll hrs]
  exact ⟨fun h => h.2.2.2, fun h => ⟨hnil, hnodes, hwrong, h⟩⟩

lemma follows_unregister {Q : Account → Unit → Prop} (hkobject : .kobject ∈ a.refs)
    (h : Q (a.giveBackAll registered) ()) : unregister.Follows (accounts e) a Q := by
  refine follows_release (by decide) hkobject (follows_release (by decide) hkobject ?_)
  refine follows_release (by decide) hkobject (follows_release (by decide) hkobject ?_)
  refine follows_release (by decide) hkobject ⟨by simp, fun _ _ => h⟩

lemma clean_loaded {m : LoadModule} (h : Loaded m a) (hnodes : a.nodes = []) :
    (a.giveBackAll m.resources).Clean ↔ ∀ i ∈ m.kthreads, .thread i ∈ a.refs := by
  have hmem (r : Registration) : r ∈ a.held ↔ r ∈ m.interrupts ∨
      (∃ i ∈ m.kthreads, .thread i ∈ a.refs ∧ .thread i = r) ∨ r ∈ registered := by
    simp [h.held, and_assoc]
  have hnodup : a.held.Nodup := by
    have hall : (m.interrupts ++ m.kthreads.map Registration.thread ++ registered).Nodup := by
      cases m <;> decide
    rw [h.held]
    exact hall.sublist (((List.filter_sublist.map _).append_left _).append_right _)
  rw [clean_giveBackAll (by cases m <;> decide) hnodup (fun r hr => ?_) hnodes h.wrong]
  · constructor
    · intro hall i hi
      have hheld : .thread i ∈ a.held := hall _ (by simp [LoadModule.resources, hi])
      rcases (hmem _).1 hheld with hint | ⟨j, -, hj, heq⟩ | hreg
      · exact absurd hint (by cases m <;> simp [LoadModule.interrupts])
      · cases heq
        exact hj
      · simp [registered] at hreg
    · intro hall r hr
      simp only [LoadModule.resources, List.mem_append, List.mem_map, List.mem_reverse] at hr
      rcases hr with (hint | ⟨i, hi, rfl⟩) | hreg
      · exact (hmem r).2 (.inl hint)
      · exact (hmem _).2 (.inr (.inl ⟨i, hi, hall i hi, rfl⟩))
      · exact (hmem r).2 (.inr (.inr hreg))
  · simp only [LoadModule.resources, List.mem_append, List.mem_map, List.mem_reverse]
    rcases (hmem r).1 hr with hint | ⟨i, hi, -, heq⟩ | hreg
    · exact .inl (.inl hint)
    · exact .inl (.inr ⟨i, hi, heq⟩)
    · exact .inr hreg

/-- **The account after hello_exit** is clean when all the threads were there. -/
lemma follows_helloExit {m : LoadModule} (h : Loaded m a) :
    m.helloExit.Follows (accounts e) a fun a' _ =>
      a'.Clean ↔ ∀ i ∈ m.kthreads, .thread i ∈ a.refs := by
  have hk := h.kobject
  have hclean (hnodes : a.nodes = []) : (a.giveBackAll m.resources).Clean ↔
      ∀ i ∈ m.kthreads, .thread i ∈ a.refs := clean_loaded h hnodes
  -- the account when the list has been freed
  have hfreed : ({ a with nodes := [] }.giveBackAll m.resources).Clean ↔
      ∀ i ∈ m.kthreads, .thread i ∈ a.refs :=
    clean_loaded (a := { a with nodes := [] }) ⟨fun _ => rfl, h.held, h.kobject, h.wrong⟩ rfl
  cases m with
  | ownWorkqueues =>
    rw [LoadModule.helloExit]
    refine follows_flushWork (follows_release (by decide) hk ?_)
    refine follows_release (by decide) hk (follows_release (by decide) hk ?_)
    exact follows_unregister hk (hclean (h.nodes rfl))
  | workqueuesOnCpu =>
    rw [LoadModule.helloExit]
    refine follows_flushWork (follows_release (by decide) hk ?_)
    refine follows_release (by decide) hk ?_
    exact follows_unregister hk (hclean (h.nodes rfl))
  | workqueuesModule =>
    rw [LoadModule.helloExit]
    refine follows_release (by decide) hk (follows_release (by decide) hk ?_)
    exact follows_unregister hk (hclean (h.nodes rfl))
  | taskletModule =>
    rw [LoadModule.helloExit]
    refine follows_flushWork (follows_freeNodes ?_)
    refine follows_release (by decide) hk (follows_release (by decide) hk ?_)
    exact follows_unregister hk hfreed
  | linkedList =>
    rw [LoadModule.helloExit]
    refine follows_freeNodes (follows_flushWork ?_)
    refine follows_release (by decide) hk (follows_release (by decide) hk ?_)
    exact follows_release (by decide) hk (follows_unregister hk hfreed)
  | rwspinlockModule =>
    rw [LoadModule.helloExit]
    refine follows_release (by decide) hk (follows_release (by decide) hk ?_)
    refine follows_release (by decide) hk ?_
    exact follows_unregister hk (hclean (h.nodes rfl))

end Exit

end Account

/-! ## Where the balance is kept -/

section Lives

variable {m : LoadModule} {k k' : Life} {e : Env}

lemma Life.after_inv {α : Type} {loaded : α → Bool} {o : Outcome State α}
    (h : k.after loaded o = some k') :
    ∃ x s, o = .done x s ∧ k' = { k with drv := s, loaded := loaded x } := by
  cases o with
  | done x s => exact ⟨x, s, rfl, (Option.some.inj h).symm⟩
  | oops s => cases h

lemma next_load (h : (lifecycle m).next k (.load e) = some k') :
    ∃ x s, m.helloInit.run (sem e) (.fresh k.drv.ledger.reopen) = .done x s ∧
      k' = ⟨s, x == 0, k.drv.ledger.next⟩ := by
  simp only [lifecycle, Life.step, Option.ite_none_right_eq_some] at h
  obtain ⟨x, s, hrun, rfl⟩ := Life.after_inv h.2
  exact ⟨x, s, hrun, rfl⟩

lemma next_write {user : List UInt8} (h : (lifecycle m).next k (.write user e) = some k') :
    k.loaded = true ∧ ∃ x s, (m.myWrite user).run (sem e) k.drv = .done x s ∧
      k' = { k with drv := s, loaded := true } := by
  simp only [lifecycle, Life.step, Option.ite_none_right_eq_some] at h
  exact ⟨h.1, Life.after_inv h.2⟩

lemma next_unload (h : (lifecycle m).next k (.unload e) = some k') :
    k.loaded = true ∧ ∃ x s, m.helloExit.run (sem e) k.drv = .done x s ∧
      k' = { k with drv := s, loaded := false } := by
  simp only [lifecycle, Life.step, Option.ite_none_right_eq_some] at h
  exact ⟨h.1, Life.after_inv h.2⟩

/-- The books of a load that has just begun. -/
lemma books_start (l : Ledger Registration) :
    Books l.next l.live .start (.fresh l.reopen) where
  live := by simp [State.fresh, Ledger.reopen]
  nodes := rfl
  wrong := by simp [State.fresh, Ledger.reopen]
  held_nodup := List.nodup_nil
  nodes_nodup := List.nodup_nil
  node_notMem := by simp
  held_refs r hr := by simp at hr
  refs r := by simp [State.fresh]
  handle_mem r i hi := by simp [State.fresh] at hi
  nodes_mem n hn := by simp at hn
  old_lt := l.numbered
  base_le := le_rfl

/-- A load ends with the books in agreement with an account of it. -/
lemma account_load (h : (lifecycle m).next k (.load e) = some k') :
    ∃ a x, Account.Inits m e a x ∧ k'.loaded = (x == 0) ∧
      Books k'.base k.drv.ledger.live a k'.drv := by
  obtain ⟨x, s, hrun, rfl⟩ := next_load h
  obtain ⟨a, ha, hbooks⟩ := (Account.follows_helloInit m).run
    (fun _ _ _ _ _ hallow hb hsem => hb.step hallow hsem) (books_start k.drv.ledger) hrun
  exact ⟨a, x, ha, rfl, hbooks⟩

/-- The books of a module that is loaded. -/
def Kept (m : LoadModule) (k : Life) : Prop :=
  k.loaded = true → ∃ a old, Account.Loaded m a ∧ Books k.base old a k.drv

lemma kept_of_reach (hk : (lifecycle m).Reachable k) : Kept m k := by
  refine hk.invariant (fun k hk hloaded => ?_) fun k l k' hI _ h hloaded => ?_
  · rw [show k.loaded = false from hk] at hloaded
    cases hloaded
  · cases l with
    | load e =>
      obtain ⟨a, x, ha, hx, hbooks⟩ := account_load h
      rw [hx, beq_iff_eq] at hloaded
      rcases ha with ⟨-, ha⟩ | ha
      · exact ⟨a, _, ha, hbooks⟩
      · exact absurd hloaded ha.1
    | write user e =>
      obtain ⟨hl, x, s, hrun, rfl⟩ := next_write h
      obtain ⟨a, old, ha, hbooks⟩ := hI hl
      obtain ⟨a', ha', hbooks'⟩ := (Account.follows_myWrite ha user).run
        (fun _ _ _ _ _ hallow hb hsem => hb.step hallow hsem) hbooks hrun
      exact ⟨a', old, ha', hbooks'⟩
    | unload e =>
      obtain ⟨-, x, s, -, rfl⟩ := next_unload h
      cases hloaded

/-- The load fails early, or every thread is there when `hello_exit` is called. -/
def Balanced (m : LoadModule) (k : Life) : Life.Event → Prop
  | .load e => e.FailsEarly
  | .unload _ => ∀ i ∈ m.kthreads, k.drv.handle (.thread i) ≠ none
  | .write _ _ => True

/-- **When loading and unloading are inverse.** After a load that failed everything has
been given back properly if and only if it failed early; after an unload, whatever was
written in between, if and only if `kthread_run` had succeeded for every thread. -/
theorem settled_iff_balanced (m : LoadModule) {k k' : Life} {l : Life.Event}
    (hk : (lifecycle m).Reachable k) (h : (lifecycle m).next k l = some k') (hend : k'.Ended l) :
    k'.Settled ↔ Balanced m k l := by
  cases l with
  | load e =>
    obtain ⟨a, x, ha, hx, hbooks⟩ := account_load h
    rw [Life.Settled, hbooks.settled_iff]
    rcases ha with ⟨rfl, -⟩ | ha
    · rw [show k'.loaded = false from hend] at hx
      cases hx
    · exact ha.2
  | write user e => exact hend.elim
  | unload e =>
    obtain ⟨hl, x, s, hrun, rfl⟩ := next_unload h
    obtain ⟨a, old, ha, hbooks⟩ := kept_of_reach hk hl
    obtain ⟨a', ha', hbooks'⟩ := (Account.follows_helloExit ha).run
      (fun _ _ _ _ _ hallow hb hsem => hb.step hallow hsem) hbooks hrun
    rw [Life.Settled, hbooks'.settled_iff, ha']
    exact forall₂_congr fun i _ => hbooks.refs _

end Lives

/-! ## Runs -/

/-- A module that was never loaded. -/
def Life.never : Life := ⟨.fresh .empty, false, 0⟩

lemma reach_never (m : LoadModule) : (lifecycle m).Reachable .never := .init rfl

/-- Only this function fails. -/
def onlyFails (r : Registration) : Env where
  fails := fun r' => if r' = r then some 11 else none

/-- The module is loaded and written to. -/
def written : List Life.Event := [.load {}, .write [72, 105] {}, .write [33] {}]

theorem settled_iff_balanced_written : ∃ k k' : Life, k.drv.nodes ≠ [] ∧
    (lifecycle .linkedList).next k (.unload {}) = some k' ∧ k'.Ended (.unload {}) ∧
    (k'.Settled ↔ Balanced .linkedList k (.unload {})) := by
  have hk := System.reach_get written (reach_never .linkedList) (by decide +kernel)
    (by decide +kernel)
  have hnext := (Option.some_get (show ((lifecycle .linkedList).next
    (((lifecycle .linkedList).exec .never written).get (by decide +kernel))
    (.unload {})).isSome = true by decide +kernel)).symm
  refine ⟨_, _, by decide +kernel, hnext, by decide +kernel, ?_⟩
  exact settled_iff_balanced .linkedList hk hnext (by decide +kernel)

/-- **Neither module keeps the balance**: the cdev and the device number are left when there
is no device, and `kthread_stop` is called for a thread that could not be created. -/
theorem cdev_left_behind :
    (∃ k k' : Life, ∃ e, (lifecycle .linkedList).Reachable k ∧
      (lifecycle .linkedList).next k (.load e) = some k' ∧ k'.Ended (.load e) ∧
      k'.drv.ledger.live.map Prod.snd = [.cdev, .chrdevRegion] ∧ ¬ k'.Settled) ∧
    (∃ k k' : Life, ∃ e, (lifecycle .rwspinlockModule).Reachable k ∧
      (lifecycle .rwspinlockModule).next k (.load e) = some k' ∧ k'.Ended (.load e) ∧
      k'.drv.ledger.live.map Prod.snd = [.cdev, .chrdevRegion] ∧ ¬ k'.Settled) ∧
    (∃ k k' : Life, ∃ e, (lifecycle .linkedList).Reachable k ∧
      (lifecycle .linkedList).next k (.unload e) = some k' ∧ k'.drv.ledger.wrong ≠ []) ∧
    ∃ k k' : Life, ∃ e, (lifecycle .rwspinlockModule).Reachable k ∧
      (lifecycle .rwspinlockModule).next k (.unload e) = some k' ∧ k'.drv.ledger.wrong ≠ [] := by
  have hlist := System.reach_get [.load (onlyFails (.thread 0))] (reach_never .linkedList)
    (by decide +kernel) (by decide +kernel)
  have hlock := System.reach_get [.load (onlyFails (.thread 1))] (reach_never .rwspinlockModule)
    (by decide +kernel) (by decide +kernel)
  refine ⟨?_, ?_, ?_, ?_⟩
  · exact ⟨_, ((lifecycle .linkedList).next .never (.load (onlyFails .device))).get
      (by decide +kernel), _, reach_never _, (Option.some_get _).symm, by decide +kernel,
      by decide +kernel, by decide +kernel⟩
  · exact ⟨_, ((lifecycle .rwspinlockModule).next .never (.load (onlyFails .device))).get
      (by decide +kernel), _, reach_never _, (Option.some_get _).symm, by decide +kernel,
      by decide +kernel, by decide +kernel⟩
  · exact ⟨_, ((lifecycle .linkedList).next _ (.unload {})).get (by decide +kernel), _, hlist,
      (Option.some_get _).symm, by decide +kernel⟩
  · exact ⟨_, ((lifecycle .rwspinlockModule).next _ (.unload {})).get (by decide +kernel), _, hlock,
      (Option.some_get _).symm, by decide +kernel⟩

end KernelDriverLab.Loading
