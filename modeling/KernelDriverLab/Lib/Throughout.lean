import KernelDriverLab.Lib.Prog

/-!
# The operations that an execution performs

`Prog.Throughout sem P p s` says that every operation which `p` really performs when it is
executed from `s` satisfies `P`, in the state in which it is performed.  `Prog.All` asks this
of the operations that `p` could perform whatever the answers; `All.throughout` compares the
two, and `throughout_bind` follows an execution from one program to the next.

`Prog.guarded P sem` is the meaning of the operations that stops at the first one that does not
satisfy `P`.  A program that returns under it returns all the same without it, and `P` holds
throughout (`throughout_of_guarded`).

`Prog.performed sem f p s` lists those operations of the execution that `f` picks, with the states
in which they are performed.
-/

namespace KernelDriverLab.Lib.Prog

variable {Op : Type} {Ans : Op → Type} {α β σ : Type} {sem : Sem Op Ans σ} {P : Op → σ → Prop}

/-- `P` holds of every operation of the execution of a program. -/
def Throughout (sem : Sem Op Ans σ) (P : Op → σ → Prop) : Prog Op Ans α → σ → Prop
  | ret _, _ => True
  | act o k, s => P o s ∧ match sem o s with
    | .done x t => Throughout sem P (k x) t
    | .oops _ => True

@[simp] lemma throughout_ret {a : α} {s : σ} :
    Throughout sem P (ret a : Prog Op Ans α) s ↔ True := by
  rw [Throughout]

lemma throughout_act {o : Op} {k : Ans o → Prog Op Ans α} {s : σ} :
    Throughout sem P (act o k) s ↔ P o s ∧ match sem o s with
      | .done x t => Throughout sem P (k x) t
      | .oops _ => True := by
  rw [Throughout]

instance Throughout.decidable [∀ o s, Decidable (P o s)] :
    ∀ (p : Prog Op Ans α) (s : σ), Decidable (Throughout sem P p s)
  | ret _, _ => .isTrue (throughout_ret.2 trivial)
  | act o k, s =>
    letI : Decidable (match sem o s with
        | .done x t => Throughout sem P (k x) t
        | .oops _ => True) :=
      match sem o s with
      | .done x t => Throughout.decidable (k x) t
      | .oops _ => .isTrue trivial
    decidable_of_iff _ throughout_act.symm

lemma throughout_op {o : Op} {s : σ} :
    Throughout sem P (op o : Prog Op Ans (Ans o)) s ↔ P o s := by
  rw [op, throughout_act]
  cases sem o s <;> simp

@[simp] lemma throughout_ite {c : Prop} [Decidable c] {p q : Prog Op Ans α} {s : σ} :
    Throughout sem P (if c then p else q) s ↔
      if c then Throughout sem P p s else Throughout sem P q s := by
  split <;> rfl

/-- **Sequential composition**: the second program is executed from where the first has
returned. -/
lemma throughout_bind {p : Prog Op Ans α} {f : α → Prog Op Ans β} {s : σ} :
    Throughout sem P (p >>= f) s ↔ Throughout sem P p s ∧ match run sem p s with
      | .done a t => Throughout sem P (f a) t
      | .oops _ => True := by
  induction p generalizing s with
  | ret a => simp
  | act o k ih =>
    rw [act_bind, throughout_act, throughout_act, run_act, and_assoc]
    cases sem o s with
    | done x t => exact and_congr_right fun _ => ih x
    | oops t => simp

/-- What holds of every operation that a program can perform holds throughout. -/
lemma All.throughout {R : Op → Prop} {p : Prog Op Ans α} (hp : All R p)
    (hR : ∀ o t, R o → P o t) (s : σ) : Throughout sem P p s := by
  induction p generalizing s with
  | ret a => exact throughout_ret.2 trivial
  | act o k ih =>
    rw [throughout_act]
    refine ⟨hR o s hp.1, ?_⟩
    cases sem o s with
    | done x t => exact ih x (hp.2 x) t
    | oops t => trivial

/-- Behind a program whose operations all satisfy `P` the execution goes on in the state that the
program leaves. -/
lemma throughout_bind_of_all {R : Op → Prop} {p : Prog Op Ans α} {f : α → Prog Op Ans β} {s t : σ}
    {a : α} (hp : All R p) (hR : ∀ o t, R o → P o t) (hrun : run sem p s = .done a t) :
    Throughout sem P (p >>= f) s ↔ Throughout sem P (f a) t := by
  rw [throughout_bind, hrun]
  exact and_iff_right (hp.throughout hR s)

/-! ## Guarded executions -/

section Guarded

variable [∀ o s, Decidable (P o s)]

/-- The execution stops at an operation that does not satisfy `P`. -/
def guarded (P : Op → σ → Prop) [∀ o s, Decidable (P o s)] (sem : Sem Op Ans σ) : Sem Op Ans σ :=
  fun o s => if P o s then sem o s else .oops s

lemma guarded_of {o : Op} {s : σ} (h : P o s) : guarded P sem o s = sem o s := if_pos h

lemma guarded_of_not {o : Op} {s : σ} (h : ¬ P o s) : guarded P sem o s = .oops s := if_neg h

lemma run_op_guarded {o : Op} {s : σ} (h : P o s) :
    run (guarded P sem) (op o) s = sem o s := (run_op _ _).trans (guarded_of h)

/-- **An execution that the guard does not stop** is an execution of the program, and `P` holds
throughout. -/
theorem throughout_of_guarded {p : Prog Op Ans α} {s t : σ} {a : α}
    (h : run (guarded P sem) p s = .done a t) :
    run sem p s = .done a t ∧ Throughout sem P p s := by
  induction p generalizing s with
  | ret b => exact ⟨h, throughout_ret.2 trivial⟩
  | act o k ih =>
    by_cases ho : P o s
    · rw [run_act, guarded_of ho] at h
      rw [run_act, throughout_act]
      cases hsem : sem o s with
      | done x s' =>
        rw [hsem] at h
        obtain ⟨hrun, hall⟩ := ih x h
        exact ⟨hrun, ho, hall⟩
      | oops s' =>
        rw [hsem] at h
        cases h
    · rw [run_act, guarded_of_not ho] at h
      cases h

end Guarded

/-! ## A list of operations -/

section Performed

variable {κ : Type} {f : Op → Option κ}

/-- What `f` picks of the operations of an execution, each with the state in which it is
performed. -/
def performed (sem : Sem Op Ans σ) (f : Op → Option κ) : Prog Op Ans α → σ → List (κ × σ)
  | ret _, _ => []
  | act o k, s => (f o).toList.map (·, s) ++ match sem o s with
    | .done x t => performed sem f (k x) t
    | .oops _ => []

@[simp] lemma performed_ret {a : α} {s : σ} :
    performed sem f (ret a : Prog Op Ans α) s = [] := by
  rw [performed]

lemma performed_act {o : Op} {k : Ans o → Prog Op Ans α} {s : σ} :
    performed sem f (act o k) s = (f o).toList.map (·, s) ++ match sem o s with
      | .done x t => performed sem f (k x) t
      | .oops _ => [] := by
  rw [performed]

@[simp] lemma performed_op {o : Op} {s : σ} :
    performed sem f (op o : Prog Op Ans (Ans o)) s = (f o).toList.map (·, s) := by
  rw [op, performed_act]
  cases sem o s <;> simp

@[simp] lemma performed_ite {c : Prop} [Decidable c] {p q : Prog Op Ans α} {s : σ} :
    performed sem f (if c then p else q) s =
      if c then performed sem f p s else performed sem f q s := by
  split <;> rfl

/-- **Sequential composition**: the second program performs its operations after the first. -/
lemma performed_bind {p : Prog Op Ans α} {g : α → Prog Op Ans β} {s : σ} :
    performed sem f (p >>= g) s = performed sem f p s ++ match run sem p s with
      | .done a t => performed sem f (g a) t
      | .oops _ => [] := by
  induction p generalizing s with
  | ret a => simp
  | act o k ih =>
    rw [act_bind, performed_act, performed_act, run_act, List.append_assoc]
    cases sem o s with
    | done x t => exact congrArg _ (ih x)
    | oops t => simp

/-- Nothing is picked of a program without such operations. -/
lemma All.performed {p : Prog Op Ans α} (hp : All (fun o => f o = none) p) (s : σ) :
    performed sem f p s = [] := by
  induction p generalizing s with
  | ret a => exact performed_ret
  | act o k ih =>
    have hnone : f o = none := hp.1
    rw [performed_act, hnone]
    cases sem o s with
    | done x t => exact ih x (hp.2 x) t
    | oops t => rfl

end Performed

end KernelDriverLab.Lib.Prog
