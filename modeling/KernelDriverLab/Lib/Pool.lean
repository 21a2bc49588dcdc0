import KernelDriverLab.Lib.Prog
import Mathlib.Data.List.Basic

/-!
# Threads that share a state

A pool holds a shared state and the threads that work on it, each with a role and
the program it has still to execute.  `stepAt` lets one thread perform one
operation; which thread that is, and when threads are added, is for the system
that uses the pool to say.  A thread at an operation that faults is stuck there.
`Each` says what holds of every thread, and has a rule for each change of a pool.
-/

namespace KernelDriverLab.Lib

/-- A thread: what it is there for and what it has still to do. -/
structure Thread (Op : Type) (Ans : Op → Type) (ρ α : Type) where
  role : ρ
  prog : Prog Op Ans α

/-- The thread has nothing more to do. -/
def Thread.returned {Op : Type} {Ans : Op → Type} {ρ α : Type} (th : Thread Op Ans ρ α) : Bool :=
  match th.prog with
  | .ret _ => true
  | .act _ _ => false

/-- Threads and the state they share.  A thread is known by its position. -/
structure Pool (Op : Type) (Ans : Op → Type) (ρ α σ : Type) where
  shared : σ
  threads : List (Thread Op Ans ρ α)

namespace Pool

variable {Op : Type} {Ans : Op → Type} {ρ α σ : Type} {w w' : Pool Op Ans ρ α σ} {i : ℕ}

/-- The pool after a new thread has been added. -/
def spawn (w : Pool Op Ans ρ α σ) (th : Thread Op Ans ρ α) : Pool Op Ans ρ α σ :=
  { w with threads := w.threads ++ [th] }

/-- The pool with another thread at position `i`. -/
def put (w : Pool Op Ans ρ α σ) (i : ℕ) (th : Thread Op Ans ρ α) : Pool Op Ans ρ α σ :=
  { w with threads := w.threads.set i th }

/-- The pool after thread `i` has performed its next operation. -/
def stepAt (sem : ρ → Prog.Sem Op Ans σ) (w : Pool Op Ans ρ α σ) (i : ℕ) :
    Option (Pool Op Ans ρ α σ) :=
  match w.threads[i]? with
  | some ⟨r, .act o k⟩ =>
      match sem r o w.shared with
      | .done x s => some ⟨s, w.threads.set i ⟨r, k x⟩⟩
      | .oops _ => none
  | _ => none

/-- **Inversion of a step.** -/
lemma stepAt_inv {sem : ρ → Prog.Sem Op Ans σ} {r : ρ} {o : Op} {k : Ans o → Prog Op Ans α}
    (hi : w.threads[i]? = some ⟨r, .act o k⟩) (h : w.stepAt sem i = some w') :
    ∃ x s, sem r o w.shared = .done x s ∧ w' = ⟨s, w.threads.set i ⟨r, k x⟩⟩ := by
  simp only [stepAt, hi] at h
  cases ho : sem r o w.shared with
  | done x s => exact ⟨x, s, rfl, by simpa [ho] using h.symm⟩
  | oops s => simp [ho] at h

lemma stepAt_done (sem : ρ → Prog.Sem Op Ans σ) {r : ρ} {o : Op} {k : Ans o → Prog Op Ans α}
    {x : Ans o} {s : σ} (hi : w.threads[i]? = some ⟨r, .act o k⟩)
    (ho : sem r o w.shared = .done x s) :
    w.stepAt sem i = some ⟨s, w.threads.set i ⟨r, k x⟩⟩ := by
  simp only [stepAt, hi, ho]

/-! ## What holds of every thread -/

/-- Every thread, with its position, satisfies `P`. -/
def Each (w : Pool Op Ans ρ α σ) (P : ℕ → Thread Op Ans ρ α → Prop) : Prop :=
  ∀ j th, w.threads[j]? = some th → P j th

lemma Each.spawn {P : ℕ → Thread Op Ans ρ α → Prop} (h : w.Each P) {th : Thread Op Ans ρ α}
    (hth : P w.threads.length th) : (w.spawn th).Each P := by
  intro j th' hj
  rcases Nat.lt_trichotomy j w.threads.length with hlt | rfl | hlt
  · exact h j th' (by simpa [Pool.spawn, List.getElem?_append_left hlt] using hj)
  · obtain rfl : th = th' := by simpa [Pool.spawn] using hj
    exact hth
  · have hlen : (w.spawn th).threads.length ≤ j := by
      simpa [Pool.spawn] using Nat.succ_le_of_lt hlt
    rw [List.getElem?_eq_none hlen] at hj
    cases hj

/-- A new thread does not move the others. -/
lemma getElem?_spawn {th th' : Thread Op Ans ρ α} (h : w.threads[i]? = some th') :
    (w.spawn th).threads[i]? = some th' := by
  have hlt : i < w.threads.length := (List.getElem?_eq_some_iff.1 h).1
  exact (List.getElem?_append_left hlt).trans h

/-- When one thread is replaced, the others matter as they were. -/
lemma each_set {P : ℕ → Thread Op Ans ρ α → Prop} {s : σ} {th : Thread Op Ans ρ α}
    (h : ∀ j th', j ≠ i → w.threads[j]? = some th' → P j th') (hth : P i th) :
    Each (⟨s, w.threads.set i th⟩ : Pool Op Ans ρ α σ) P := by
  intro j th' hj
  by_cases hji : j = i
  · subst hji
    have hlt : j < w.threads.length := by
      simpa using (List.getElem?_eq_some_iff.1 hj).1
    obtain rfl : th = th' := by simpa [hlt] using hj
    exact hth
  · exact h j th' hji (by simpa [List.getElem?_set_ne (Ne.symm hji)] using hj)

end Pool

end KernelDriverLab.Lib
