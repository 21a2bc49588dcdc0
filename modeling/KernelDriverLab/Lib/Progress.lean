import KernelDriverLab.Lib.Machine

/-!
# Which threads can go on

A thread can go on when some choice of the environment lets it take a step.  A thread that
waits at an operation that is not ready cannot; a lock is not a deadlock as long as the thread
inside can.
-/

namespace KernelDriverLab.Lib

/-- What a thread is about to do is its next operation. -/
lemma Pool.nextOp_of_aboutTo {Op : Type} {Ans : Op → Type} {ρ α σ : Type} {w : Pool Op Ans ρ α σ}
    {i : ℕ} {r : ρ} {o : Op} {th : Thread Op Ans ρ α} (hi : w.threads[i]? = some th)
    (h : w.AboutTo i r o) : th.nextOp = some o := by
  have hpair : some (th.role, th.nextOp) = some (r, some o) := by
    simpa [AboutTo, hi] using h
  exact (Prod.mk.inj (Option.some.inj hpair)).2

namespace Machine

variable {Op : Type} {Ans : Op → Type} {ρ α σ ε ν : Type} (M : Machine Op Ans ρ α σ ε ν)

/-- Thread `i` can take a step. -/
def CanRun (w : Pool Op Ans ρ α σ) (i : ℕ) : Prop := ∃ e w', M.next w (.run i e) = some w'

/-- Thread `i` is over: it has ended a round after which there is no other one. -/
def Over (w : Pool Op Ans ρ α σ) (i : ℕ) : Prop :=
  ∃ r a, w.threads[i]? = some ⟨r, .ret a⟩ ∧ M.again r a = none

/-- Thread `i` waits. -/
def Waits (w : Pool Op Ans ρ α σ) (i : ℕ) (r : ρ) (o : Op) : Prop :=
  w.AboutTo i r o ∧ M.ready w.shared r o = false

variable {M} {w : Pool Op Ans ρ α σ} {i : ℕ} {r : ρ}

lemma canRun_of_ready {o : Op} {k : Ans o → Prog Op Ans α} {e : ε} {x : Ans o} {s : σ}
    (hi : w.threads[i]? = some ⟨r, .act o k⟩) (hready : M.ready w.shared r o = true)
    (hsem : M.sem e r o w.shared = .done x s) : M.CanRun w i := by
  refine ⟨e, ⟨s, w.threads.set i ⟨r, k x⟩⟩, ?_⟩
  simp only [next, hi, hready, if_true]
  exact Pool.stepAt_done _ hi hsem

lemma canRun_of_again {a : α} {p : Prog Op Ans α} [Nonempty ε]
    (hi : w.threads[i]? = some ⟨r, .ret a⟩) (hagain : M.again r a = some p) : M.CanRun w i := by
  obtain ⟨e⟩ := ‹Nonempty ε›
  refine ⟨e, w.put i ⟨r, p⟩, ?_⟩
  simp only [next, hi, hagain, Option.map_some]

/-- **A thread goes on, is over, or waits**, where no operation that is ready faults. -/
theorem canRun_or_waits [Nonempty ε] {th : Thread Op Ans ρ α} (hi : w.threads[i]? = some th)
    (hsem : ∀ o, ∃ e x s, M.sem e th.role o w.shared = .done x s) :
    M.CanRun w i ∨ M.Over w i ∨ ∃ o, M.Waits w i th.role o := by
  obtain ⟨r, p⟩ := th
  cases p with
  | ret a =>
    cases hagain : M.again r a with
    | none => exact .inr (.inl ⟨r, a, hi, hagain⟩)
    | some p => exact .inl (canRun_of_again hi hagain)
  | act o k =>
    cases hready : M.ready w.shared r o with
    | true =>
      obtain ⟨e, x, s, hdone⟩ := hsem o
      exact .inl (canRun_of_ready hi hready hdone)
    | false => exact .inr (.inr ⟨o, (Pool.aboutTo_iff hi).2 ⟨rfl, rfl⟩, hready⟩)

end Machine

end KernelDriverLab.Lib
