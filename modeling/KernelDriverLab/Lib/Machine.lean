import KernelDriverLab.Lib.Pool
import KernelDriverLab.Lib.Protocol
import KernelDriverLab.Lib.System

/-!
# Machines: threads, events and proof outlines

A machine is a pool of threads together with the events that can change the shared state
and start threads.  A step is one operation of one thread, the next round of a thread
that has ended a round, or an event; `Moves` is its inversion.

An `Outline` gives every thread a protocol and every stage of it an assertion about the
shared state and a ghost variable.  It holds along all runs under a condition `C` when each
step that meets `C` leads its thread to the assertion of the next stage and does not
interfere with the assertions of the other threads (`Outline.Sound`);
`Outline.Sound.holds_of_reach` is the rule.  `Outline.Lands` and `Outline.Admits` say what it
asks of one operation and of one event, so that each can be proved by itself.
-/

namespace KernelDriverLab.Lib

/-- What threads with the roles `ρ` do to a shared state `σ`, and the events `ν`. -/
structure Machine (Op : Type) (Ans : Op → Type) (ρ α σ ε ν : Type) where
  /-- What the operations do, in an environment. -/
  sem : ε → ρ → Prog.Sem Op Ans σ
  /-- The operation need not wait. -/
  ready : σ → ρ → Op → Bool
  /-- The next round of a thread that has ended a round with this value. -/
  again : ρ → α → Option (Prog Op Ans α)
  /-- The state after an event, and the threads that it starts. -/
  event : ν → σ → Option (σ × List (Thread Op Ans ρ α))

/-- What can happen next. -/
inductive Move (ε ν : Type) where
  /-- Thread `i` goes on. -/
  | run (i : ℕ) (e : ε)
  | event (n : ν)

section Threads

variable {Op : Type} {Ans : Op → Type} {ρ α σ : Type}

/-- The operation that a thread is about to perform. -/
def Thread.nextOp (th : Thread Op Ans ρ α) : Option Op :=
  match th.prog with
  | .ret _ => none
  | .act o _ => some o

@[simp] lemma nextOp_act {r : ρ} {o : Op} {k : Ans o → Prog Op Ans α} :
    (⟨r, .act o k⟩ : Thread Op Ans ρ α).nextOp = some o := rfl

@[simp] lemma nextOp_ret {r : ρ} {a : α} : (⟨r, .ret a⟩ : Thread Op Ans ρ α).nextOp = none := rfl

/-- The value with which a thread has ended a round. -/
def Thread.result (th : Thread Op Ans ρ α) : Option α :=
  match th.prog with
  | .ret a => some a
  | .act _ _ => none

@[simp] lemma result_act {r : ρ} {o : Op} {k : Ans o → Prog Op Ans α} :
    (⟨r, .act o k⟩ : Thread Op Ans ρ α).result = none := rfl

@[simp] lemma result_ret {r : ρ} {a : α} : (⟨r, .ret a⟩ : Thread Op Ans ρ α).result = some a := rfl

/-- Thread `i` is about to perform `o`. -/
def Pool.AboutTo (w : Pool Op Ans ρ α σ) (i : ℕ) (r : ρ) (o : Op) : Prop :=
  w.threads[i]?.map (fun th => (th.role, th.nextOp)) = some (r, some o)

instance [DecidableEq ρ] [DecidableEq Op] (w : Pool Op Ans ρ α σ) (i : ℕ) (r : ρ) (o : Op) :
    Decidable (w.AboutTo i r o) :=
  inferInstanceAs (Decidable (_ = _))

lemma Pool.aboutTo_iff {w : Pool Op Ans ρ α σ} {i : ℕ} {r r' : ρ} {o o' : Op}
    {k : Ans o → Prog Op Ans α} (hi : w.threads[i]? = some ⟨r, .act o k⟩) :
    w.AboutTo i r' o' ↔ r = r' ∧ o = o' := by
  simp [AboutTo, hi]

/-- A thread that has ended a round is not about to do anything. -/
lemma Pool.not_aboutTo {w : Pool Op Ans ρ α σ} {i : ℕ} {r r' : ρ} {a : α} {o' : Op}
    (hi : w.threads[i]? = some ⟨r, .ret a⟩) : ¬ w.AboutTo i r' o' := by
  simp [AboutTo, hi]

/-- The operation that thread `i` is about to perform. -/
def Pool.opAt (w : Pool Op Ans ρ α σ) (i : ℕ) : Option Op := w.threads[i]?.bind Thread.nextOp

lemma Pool.opAt_eq {w : Pool Op Ans ρ α σ} {i : ℕ} {r : ρ} {o : Op} {k : Ans o → Prog Op Ans α}
    (hi : w.threads[i]? = some ⟨r, .act o k⟩) : w.opAt i = some o := by
  simp [opAt, hi]

lemma Pool.each_append {w : Pool Op Ans ρ α σ} {P : ℕ → Thread Op Ans ρ α → Prop} {s : σ}
    {ths : List (Thread Op Ans ρ α)} (h : w.Each P)
    (hths : ∀ j th, ths[j]? = some th → P (w.threads.length + j) th) :
    Each (⟨s, w.threads ++ ths⟩ : Pool Op Ans ρ α σ) P := by
  intro j th hj
  rcases Nat.lt_or_ge j w.threads.length with hlt | hle
  · exact h j th (by simpa [List.getElem?_append_left hlt] using hj)
  · rw [List.getElem?_append_right hle] at hj
    have hnew := hths _ th hj
    rwa [Nat.add_sub_cancel' hle] at hnew

/-- There is only one thread. -/
lemma Pool.eq_of_single {w : Pool Op Ans ρ α σ} (hone : w.threads.length = 1) {i j : ℕ}
    {th th' : Thread Op Ans ρ α} (hi : w.threads[i]? = some th) (hj : w.threads[j]? = some th') :
    i = j := by
  have hilt := (List.getElem?_eq_some_iff.1 hi).1
  have hjlt := (List.getElem?_eq_some_iff.1 hj).1
  omega

end Threads

namespace Machine

variable {Op : Type} {Ans : Op → Type} {ρ α σ ε ν : Type} (M : Machine Op Ans ρ α σ ε ν)

/-- One step. -/
def next (w : Pool Op Ans ρ α σ) : Move ε ν → Option (Pool Op Ans ρ α σ)
  | .run i e =>
      match w.threads[i]? with
      | some ⟨r, .act o _⟩ => if M.ready w.shared r o then w.stepAt (M.sem e) i else none
      | some ⟨r, .ret a⟩ => (M.again r a).map fun p => w.put i ⟨r, p⟩
      | none => none
  | .event n => (M.event n w.shared).map fun (s, ths) => ⟨s, w.threads ++ ths⟩

/-- The runs of a machine that begin in a pool with `Init`. -/
@[simps]
def system (Init : Pool Op Ans ρ α σ → Prop) : System (Pool Op Ans ρ α σ) (Move ε ν) where
  Init := Init
  next := M.next

/-- What a step does. -/
inductive Moves (w : Pool Op Ans ρ α σ) : Move ε ν → Pool Op Ans ρ α σ → Prop where
  | act {i : ℕ} {e : ε} {r : ρ} {o : Op} {k : Ans o → Prog Op Ans α} {x : Ans o} {s : σ}
      (hi : w.threads[i]? = some ⟨r, .act o k⟩) (hready : M.ready w.shared r o = true)
      (hsem : M.sem e r o w.shared = .done x s) :
      Moves w (.run i e) ⟨s, w.threads.set i ⟨r, k x⟩⟩
  | again {i : ℕ} {e : ε} {r : ρ} {a : α} {p : Prog Op Ans α}
      (hi : w.threads[i]? = some ⟨r, .ret a⟩) (hagain : M.again r a = some p) :
      Moves w (.run i e) (w.put i ⟨r, p⟩)
  | event {n : ν} {s : σ} {ths : List (Thread Op Ans ρ α)}
      (hevent : M.event n w.shared = some (s, ths)) :
      Moves w (.event n) ⟨s, w.threads ++ ths⟩

variable {M} {w w' : Pool Op Ans ρ α σ} {l : Move ε ν}

/-- **Inversion of a step.** -/
lemma moves (h : M.next w l = some w') : M.Moves w l w' := by
  cases l with
  | run i e =>
    simp only [next] at h
    split at h
    · rename_i r o k hi
      rw [Option.ite_none_right_eq_some] at h
      obtain ⟨hready, hstep⟩ := h
      obtain ⟨x, s, hsem, rfl⟩ := Pool.stepAt_inv hi hstep
      exact .act hi hready hsem
    · rename_i r a hi
      obtain ⟨p, hp, rfl⟩ := Option.map_eq_some_iff.1 h
      exact .again hi hp
    · cases h
  | event n =>
    obtain ⟨⟨s, ths⟩, hn, rfl⟩ := Option.map_eq_some_iff.1 h
    exact .event hn

/-- **The invariant rule for machines**: one case for each kind of step. -/
theorem invariant {Init : Pool Op Ans ρ α σ → Prop} {C : Pool Op Ans ρ α σ → Move ε ν → Prop}
    {I : Pool Op Ans ρ α σ → Prop} (hinit : ∀ w, Init w → I w)
    (hstep : ∀ w l w', I w → C w l → M.Moves w l w' → I w') (hw : (M.system Init).Reach C w) :
    I w :=
  hw.invariant hinit fun w l w' hI hc hn => hstep w l w' hI hc (moves hn)

/-- Threads keep their positions and roles. -/
lemma Moves.role {j : ℕ} {r : ρ} (h : M.Moves w l w')
    (hj : w.threads[j]?.map Thread.role = some r) : w'.threads[j]?.map Thread.role = some r := by
  have hset {i : ℕ} {r' : ρ} {p q : Prog Op Ans α} (hi : w.threads[i]? = some ⟨r', p⟩) :
      (w.threads.set i ⟨r', q⟩)[j]?.map Thread.role = some r := by
    by_cases hij : i = j
    · subst hij
      obtain ⟨hlt, -⟩ := List.getElem?_eq_some_iff.1 hi
      rw [hi] at hj
      simpa [List.getElem?_set_self hlt] using hj
    · rwa [List.getElem?_set_ne hij]
  cases h with
  | act hi hready hsem => exact hset hi
  | again hi hagain => exact hset hi
  | @event n s ths hevent =>
    obtain ⟨th, hth, hrole⟩ := Option.map_eq_some_iff.1 hj
    have hlt := (List.getElem?_eq_some_iff.1 hth).1
    rw [List.getElem?_append_left hlt, hth]
    exact congrArg some hrole

/-- A thread that is there at the beginning of every run is there in every state. -/
lemma role_of_reach {Init : Pool Op Ans ρ α σ → Prop} {C : Pool Op Ans ρ α σ → Move ε ν → Prop}
    {j : ℕ} {r : ρ} (hinit : ∀ w, Init w → w.threads[j]?.map Thread.role = some r)
    (hw : (M.system Init).Reach C w) : w.threads[j]?.map Thread.role = some r :=
  invariant hinit (fun _ _ _ hj _ h => h.role hj) hw

/-- Where the events start no threads there are as many as in the beginning. -/
lemma length_of_reach {Init : Pool Op Ans ρ α σ → Prop} {C : Pool Op Ans ρ α σ → Move ε ν → Prop}
    {k : ℕ} (hevent : ∀ n s s' ths, M.event n s = some (s', ths) → ths = [])
    (hinit : ∀ w, Init w → w.threads.length = k) (hw : (M.system Init).Reach C w) :
    w.threads.length = k := by
  refine invariant (I := fun w => w.threads.length = k) hinit (fun w l w' hI _ h => ?_) hw
  cases h with
  | act hi hready hsem => rwa [List.length_set]
  | again hi hagain => rwa [Pool.put, List.length_set]
  | event hn =>
    obtain rfl := hevent _ _ _ _ hn
    rwa [List.append_nil]

/-! ### Calls one after the other -/

/-- The thread has ended a round, and there is no next one. -/
def Ended (M : Machine Op Ans ρ α σ ε ν) (th : Thread Op Ans ρ α) : Bool :=
  th.result.any fun a => (M.again th.role a).isNone

/-- An event comes only when every thread has ended. -/
def InTurn (M : Machine Op Ans ρ α σ ε ν) (w : Pool Op Ans ρ α σ) : Move ε ν → Prop
  | .run _ _ => True
  | .event _ => ∀ th ∈ w.threads, M.Ended th = true

section Alone

variable {Init : Pool Op Ans ρ α σ → Prop} {C : Pool Op Ans ρ α σ → Move ε ν → Prop} {e : ε} {r : ρ}
  {a : α} {s s' : σ} {ths : List (Thread Op Ans ρ α)} {p : Prog Op Ans α}

lemma ended_ret (h : M.again r a = none) : M.Ended (⟨r, .ret a⟩ : Thread Op Ans ρ α) = true := by
  simp [Ended, h]

/-- **A call that nothing interrupts**: the last thread goes on to the end of its round. -/
lemma reach_run (hC : ∀ w i e, C w (.run i e)) (hready : ∀ s o, M.ready s r o = true)
    (hrun : p.run (M.sem e r) s = .done a s')
    (hw : (M.system Init).Reach C ⟨s, ths ++ [⟨r, p⟩]⟩) :
    (M.system Init).Reach C ⟨s', ths ++ [⟨r, .ret a⟩]⟩ := by
  induction p generalizing s with
  | ret b =>
    obtain ⟨rfl, rfl⟩ := Outcome.done.inj hrun
    exact hw
  | act o k ih =>
    cases hsem : M.sem e r o s with
    | oops t => simp [Prog.run_act_oops hsem] at hrun
    | done x t =>
      rw [Prog.run_act_done hsem] at hrun
      refine ih x hrun (.step hw (hC _ _ _) (l := .run ths.length e) ?_)
      have hi : (ths ++ [(⟨r, .act o k⟩ : Thread Op Ans ρ α)])[ths.length]? =
          some ⟨r, .act o k⟩ := List.getElem?_concat_length
      have hset : (ths ++ [(⟨r, .act o k⟩ : Thread Op Ans ρ α)]).set ths.length ⟨r, k x⟩ =
          ths ++ [⟨r, k x⟩] := by
        rw [List.set_append_right _ _ (Nat.le_refl _), Nat.sub_self]
        rfl
      simp only [system_next, next, hi, hready, if_true]
      rw [Pool.stepAt_done (M.sem e) hi hsem, hset]

/-- It begins its next round. -/
lemma reach_again (hC : ∀ w i e, C w (.run i e)) (e : ε) (hagain : M.again r a = some p)
    (hw : (M.system Init).Reach C ⟨s, ths ++ [⟨r, .ret a⟩]⟩) :
    (M.system Init).Reach C ⟨s, ths ++ [⟨r, p⟩]⟩ := by
  refine .step hw (hC _ _ _) (l := .run ths.length e) ?_
  have hi : (ths ++ [(⟨r, .ret a⟩ : Thread Op Ans ρ α)])[ths.length]? = some ⟨r, .ret a⟩ :=
    List.getElem?_concat_length
  have hset : (ths ++ [(⟨r, .ret a⟩ : Thread Op Ans ρ α)]).set ths.length ⟨r, p⟩ =
      ths ++ [⟨r, p⟩] := by
    rw [List.set_append_right _ _ (Nat.le_refl _), Nat.sub_self]
    rfl
  simp only [system_next, next, hi, hagain, Option.map_some, Pool.put, hset]

/-- **Calls in turn.** When each call of a sequential system is a call here that nothing
interrupts, the runs of that system are runs in which no call begins before the last one has
ended. -/
theorem exists_in_turn {τ κ : Type} {S : System τ κ} {f : κ → ρ} {R : τ → σ → Prop}
    (hcall : ∀ {t t' : τ} {c : κ} {w : Pool Op Ans ρ α σ}, R t w.shared →
      (M.system Init).Reach M.InTurn w → (∀ th ∈ w.threads, M.Ended th = true) →
      S.next t c = some t' → ∃ s a, R t' s ∧ M.again (f c) a = none ∧
        (M.system Init).Reach M.InTurn ⟨s, w.threads ++ [⟨f c, .ret a⟩]⟩)
    {cs : List κ} {t t' : τ} {w : Pool Op Ans ρ α σ} (hR : R t w.shared)
    (hw : (M.system Init).Reach M.InTurn w) (hended : ∀ th ∈ w.threads, M.Ended th = true)
    (h : S.exec t cs = some t') :
    ∃ w', (M.system Init).Reach M.InTurn w' ∧ R t' w'.shared ∧
      w'.threads.map Thread.role = w.threads.map Thread.role ++ cs.map f ∧
      ∀ th ∈ w'.threads, M.Ended th = true := by
  induction cs generalizing t w with
  | nil =>
    obtain rfl := Option.some.inj h
    exact ⟨w, hw, hR, (List.append_nil _).symm, hended⟩
  | cons c cs ih =>
    cases hn : S.next t c with
    | none => simp [System.exec, hn] at h
    | some t₁ =>
      obtain ⟨s, a, hs, hagain, hreach⟩ := hcall hR hw hended hn
      have hended₁ : ∀ th ∈ w.threads ++ [⟨f c, .ret a⟩], M.Ended th = true := by
        intro th hth
        rcases List.mem_append.1 hth with hth | hth
        · exact hended th hth
        · rw [List.mem_singleton.1 hth]
          exact ended_ret hagain
      obtain ⟨w', hw', hR', hroles, hended'⟩ := ih hs hreach hended₁
        (by simpa [System.exec, hn] using h)
      refine ⟨w', hw', hR', ?_, hended'⟩
      rw [hroles, List.map_append, List.append_assoc]
      rfl

end Alone

end Machine

/-! ## Proof outlines -/

/-- Protocols for the threads, with assertions about the shared state and about a ghost
variable that the steps of the machine do not see. -/
structure Outline (Op : Type) (Ans : Op → Type) (ρ α σ ι γ : Type) where
  proto : ρ → Protocol Op Ans ι
  /-- The stages and the values with which a round can end. -/
  ends : ρ → ι → α → Prop
  /-- What holds while the thread at a position is at a stage. -/
  here : γ → ℕ → ρ → ι → σ → Prop
  /-- What always holds. -/
  always : γ → σ → Prop

namespace Outline

variable {Op : Type} {Ans : Op → Type} {ρ α σ ε ν ι γ : Type} (O : Outline Op Ans ρ α σ ι γ)
  (M : Machine Op Ans ρ α σ ε ν) (C : Pool Op Ans ρ α σ → Move ε ν → Prop)

/-- Thread `j` is at this stage, and the assertion of the stage holds. -/
structure At (g : γ) (s : σ) (j : ℕ) (th : Thread Op Ans ρ α) (i : ι) : Prop where
  follows : th.prog.Follows (O.proto th.role) i (O.ends th.role)
  here : O.here g j th.role i s

variable {O} in
/-- A thread is about to perform only what its stage allows. -/
lemma At.allow {g : γ} {s : σ} {j : ℕ} {th : Thread Op Ans ρ α} {i : ι} (h : O.At g s j th i)
    {o : Op} (hnext : th.nextOp = some o) : (O.proto th.role).allow i o := by
  obtain ⟨r, p⟩ := th
  cases p with
  | ret a => cases hnext
  | act o' k =>
    obtain rfl : o' = o := Option.some.inj hnext
    exact h.follows.1

variable {O} in
/-- A thread ends a round only as its stage allows. -/
lemma At.ends {g : γ} {s : σ} {j : ℕ} {th : Thread Op Ans ρ α} {i : ι} (h : O.At g s j th i)
    {a : α} (hresult : th.result = some a) : O.ends th.role i a := by
  obtain ⟨r, p⟩ := th
  cases p with
  | ret a' =>
    obtain rfl : a' = a := Option.some.inj hresult
    exact h.follows
  | act o k => cases hresult

/-- Every thread is at a stage of its protocol, and all assertions hold. -/
structure Holds (g : γ) (w : Pool Op Ans ρ α σ) : Prop where
  always : O.always g w.shared
  threads : w.Each fun j th => ∃ i, O.At g w.shared j th i

/-- The steps that meet `C` keep the outline, with a suitable change of the ghost variable. -/
structure Sound : Prop where
  /-- An operation leads its thread to the next stage and does not interfere with the
  other threads. -/
  act {g : γ} {w : Pool Op Ans ρ α σ} {i : ℕ} {e : ε} {r : ρ} {st : ι} {o : Op}
    {k : Ans o → Prog Op Ans α} {x : Ans o} {s : σ} (hw : O.Holds g w) (hc : C w (.run i e))
    (hi : w.threads[i]? = some ⟨r, .act o k⟩) (hst : O.At g w.shared i ⟨r, .act o k⟩ st)
    (hready : M.ready w.shared r o = true) (hsem : M.sem e r o w.shared = .done x s) :
    (O.proto r).expect st o x ∧ ∃ g', O.always g' s ∧ O.here g' i r ((O.proto r).after st o x) s ∧
      ∀ (j : ℕ) (th : Thread Op Ans ρ α) (st' : ι), j ≠ i → w.threads[j]? = some th →
        O.At g w.shared j th st' → O.here g' j th.role st' s
  /-- A new round begins where the last one ended. -/
  again {g : γ} {s : σ} {j : ℕ} {r : ρ} {st : ι} {a : α} {p : Prog Op Ans α}
    (hst : O.At g s j ⟨r, .ret a⟩ st) (hagain : M.again r a = some p) :
    p.Follows (O.proto r) st (O.ends r)
  /-- An event keeps the assertions, and the threads that it starts are at a stage. -/
  event {g : γ} {w : Pool Op Ans ρ α σ} {n : ν} {s : σ} {ths : List (Thread Op Ans ρ α)}
    (hw : O.Holds g w) (hc : C w (.event n)) (hevent : M.event n w.shared = some (s, ths)) :
    ∃ g', O.always g' s ∧
      (∀ (j : ℕ) (th : Thread Op Ans ρ α) (st : ι), w.threads[j]? = some th →
        O.At g w.shared j th st → O.here g' j th.role st s) ∧
      ∀ (j : ℕ) (th : Thread Op Ans ρ α), ths[j]? = some th →
        ∃ st, O.At g' s (w.threads.length + j) th st

/-- What the rule asks of an operation of thread `i` that leads it to a stage. -/
structure Lands (g g' : γ) (w : Pool Op Ans ρ α σ) (i : ℕ) (r : ρ) (st : ι) (s : σ) : Prop where
  always : O.always g' s
  own : O.here g' i r st s
  others : ∀ (j : ℕ) (th : Thread Op Ans ρ α) (st' : ι), j ≠ i → w.threads[j]? = some th →
    O.At g w.shared j th st' → O.here g' j th.role st' s

/-- What the rule asks of an event that starts threads. -/
structure Admits (g g' : γ) (w : Pool Op Ans ρ α σ) (s : σ) (ths : List (Thread Op Ans ρ α)) :
    Prop where
  always : O.always g' s
  old : ∀ (j : ℕ) (th : Thread Op Ans ρ α) (st : ι), w.threads[j]? = some th →
    O.At g w.shared j th st → O.here g' j th.role st s
  new : ∀ (j : ℕ) (th : Thread Op Ans ρ α), ths[j]? = some th →
    ∃ st, O.At g' s (w.threads.length + j) th st

variable {O M C} {w w' : Pool Op Ans ρ α σ} {l : Move ε ν} {g : γ}

/-- Where a thread of the pool is. -/
lemma Holds.of_mem (hw : O.Holds g w) {th : Thread Op Ans ρ α} (hth : th ∈ w.threads) :
    ∃ j i, w.threads[j]? = some th ∧ O.At g w.shared j th i := by
  obtain ⟨j, hj⟩ := List.mem_iff_getElem?.1 hth
  obtain ⟨i, hi⟩ := hw.threads j th hj
  exact ⟨j, i, hj, hi⟩

/-- Where the thread at a position is. -/
lemma Holds.of_role (hw : O.Holds g w) {j : ℕ} {r : ρ}
    (hj : w.threads[j]?.map Thread.role = some r) :
    ∃ p i, (⟨r, p⟩ : Thread Op Ans ρ α) ∈ w.threads ∧ O.At g w.shared j ⟨r, p⟩ i := by
  obtain ⟨⟨_, p⟩, hth, rfl⟩ := Option.map_eq_some_iff.1 hj
  obtain ⟨i, hi⟩ := hw.threads j _ hth
  exact ⟨p, i, List.mem_of_getElem? hth, hi⟩

/-- An event that starts one thread. -/
lemma admits_single {g' : γ} {s : σ} {th : Thread Op Ans ρ α} (st : ι) (halways : O.always g' s)
    (hold : ∀ (j : ℕ) (th : Thread Op Ans ρ α) (st : ι), w.threads[j]? = some th →
      O.At g w.shared j th st → O.here g' j th.role st s)
    (hst : O.At g' s w.threads.length th st) : O.Admits g g' w s [th] := by
  refine ⟨halways, hold, fun j th' hj => ⟨st, ?_⟩⟩
  obtain ⟨rfl, rfl⟩ : j = 0 ∧ th = th' := by
    cases j with
    | zero => exact ⟨rfl, Option.some.inj hj⟩
    | succ j => cases hj
  exact hst

/-- An event that starts no thread. -/
lemma admits_nil {g' : γ} {s : σ} (halways : O.always g' s)
    (hold : ∀ (j : ℕ) (th : Thread Op Ans ρ α) (st : ι), w.threads[j]? = some th →
      O.At g w.shared j th st → O.here g' j th.role st s) : O.Admits g g' w s [] :=
  ⟨halways, hold, fun _ _ hj => by cases hj⟩

/-- The outline of a pool with one thread. -/
lemma holds_single {s : σ} {th : Thread Op Ans ρ α} {st : ι} (halways : O.always g s)
    (hst : O.At g s 0 th st) : O.Holds g ⟨s, [th]⟩ := by
  refine ⟨halways, fun j th' hj => ⟨st, ?_⟩⟩
  obtain ⟨rfl, rfl⟩ : j = 0 ∧ th = th' := by
    cases j with
    | zero => exact ⟨rfl, Option.some.inj hj⟩
    | succ j => cases hj
  exact hst

/-- After an operation that lands, the outline holds again. -/
lemma Lands.holds {g' : γ} {i : ℕ} {r : ρ} {st : ι} {o : Op} {k : Ans o → Prog Op Ans α} {x : Ans o}
    {s : σ} (h : O.Lands g g' w i r ((O.proto r).after st o x) s) (hw : O.Holds g w)
    (hst : O.At g w.shared i ⟨r, .act o k⟩ st) (hx : (O.proto r).expect st o x) :
    O.Holds g' ⟨s, w.threads.set i ⟨r, k x⟩⟩ := by
  refine ⟨h.always, Pool.each_set (fun j th hj hth => ?_) ⟨_, hst.follows.2 x hx, h.own⟩⟩
  obtain ⟨st', hst'⟩ := hw.threads j th hth
  exact ⟨st', hst'.follows, h.others j th st' hj hth hst'⟩

/-- So does it after an event that is admitted. -/
lemma Admits.holds {g' : γ} {s : σ} {ths : List (Thread Op Ans ρ α)} (h : O.Admits g g' w s ths)
    (hw : O.Holds g w) : O.Holds g' ⟨s, w.threads ++ ths⟩ := by
  refine ⟨h.always, Pool.each_append (fun j th hth => ?_) h.new⟩
  obtain ⟨st, hst⟩ := hw.threads j th hth
  exact ⟨st, hst.follows, h.old j th st hth hst⟩

/-- And so does it when a thread begins its next round. -/
lemma Holds.put (hw : O.Holds g w) {i : ℕ} {r : ρ} {a : α} {p : Prog Op Ans α}
    (hi : w.threads[i]? = some ⟨r, .ret a⟩)
    (hp : ∀ st, O.At g w.shared i ⟨r, .ret a⟩ st → p.Follows (O.proto r) st (O.ends r)) :
    O.Holds g (w.put i ⟨r, p⟩) := by
  obtain ⟨st, hst⟩ := hw.threads _ _ hi
  exact ⟨hw.always, Pool.each_set (fun j th _ hth => hw.threads j th hth)
    ⟨st, hp st hst, hst.here⟩⟩

lemma Sound.step (hO : O.Sound M C) (hw : O.Holds g w) (hc : C w l) (h : M.Moves w l w') :
    ∃ g', O.Holds g' w' := by
  cases h with
  | @act i e r o k x s hi hready hsem =>
    obtain ⟨st, hst⟩ := hw.threads _ _ hi
    obtain ⟨hx, g', halways, hown, hothers⟩ := hO.act hw hc hi hst hready hsem
    exact ⟨g', Lands.holds ⟨halways, hown, hothers⟩ hw hst hx⟩
  | again hi hagain => exact ⟨g, hw.put hi fun st hst => hO.again hst hagain⟩
  | @event n s ths hevent =>
    obtain ⟨g', halways, hold, hnew⟩ := hO.event hw hc hevent
    exact ⟨g', Admits.holds ⟨halways, hold, hnew⟩ hw⟩

/-- **The rule of proof outlines.** -/
theorem Sound.holds_of_reach (hO : O.Sound M C) {Init : Pool Op Ans ρ α σ → Prop}
    (hinit : ∀ w, Init w → ∃ g, O.Holds g w) (hw : (M.system Init).Reach C w) :
    ∃ g, O.Holds g w :=
  M.invariant hinit (fun _ _ _ ⟨_, hw⟩ hc h => hO.step hw hc h) hw

end Outline

end KernelDriverLab.Lib
