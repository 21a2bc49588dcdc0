import Mathlib.Tactic.Common

/-!
# Programs over atomic operations

A sequential program that works on shared state is a tree: it either has a
value, or performs one operation and goes on with the answer.  The tree says
nothing about what the operations do.  `run` executes all of a program without
interruption, for a given meaning of the operations, and stops early when an
operation faults.  A scheduler can also take the tree apart one operation at a
time and interleave it with the operations of other programs.

`Prog.All` and `Prog.Ends` speak about the operations a program can perform and
the values it can end with at all, whatever the answers; the first gives the
frame rule `All.run`.
-/

namespace KernelDriverLab.Lib

/-- A program over the operations `Op`, where `Ans o` is the type of the answer
to the operation `o`. -/
inductive Prog (Op : Type) (Ans : Op → Type) (α : Type) : Type where
  /-- The program has ended with the value `a`. -/
  | ret (a : α) : Prog Op Ans α
  /-- The program performs `o` and goes on with the answer. -/
  | act (o : Op) (k : Ans o → Prog Op Ans α) : Prog Op Ans α

/-- How an execution ends: with a value, or at an operation that faults. -/
inductive Outcome (σ α : Type) : Type where
  | done (a : α) (s : σ) : Outcome σ α
  | oops (s : σ) : Outcome σ α

namespace Outcome

variable {σ α : Type}

/-- The state in which an execution ended. -/
def state : Outcome σ α → σ
  | done _ s => s
  | oops s => s

@[simp] lemma state_done (a : α) (s : σ) : (done a s).state = s := rfl

@[simp] lemma state_oops (s : σ) : (oops s : Outcome σ α).state = s := rfl

/-- The state at the end, if the execution has not ended at a fault. -/
def final : Outcome σ α → Option σ
  | done _ s => some s
  | oops _ => none

lemma state_of_final {x : Outcome σ α} {s : σ} (h : x.final = some s) : x.state = s := by
  cases x with
  | done a t => exact Option.some.inj h
  | oops t => cases h

/-- The same execution, seen through `f`. -/
def map {τ : Type} (f : σ → τ) : Outcome σ α → Outcome τ α
  | done a s => done a (f s)
  | oops s => oops (f s)

@[simp] lemma state_map {τ : Type} (f : σ → τ) (x : Outcome σ α) : (x.map f).state = f x.state := by
  cases x <;> rfl

end Outcome

namespace Prog

variable {Op : Type} {Ans : Op → Type} {α β : Type}

/-- Sequential composition. -/
def bind : Prog Op Ans α → (α → Prog Op Ans β) → Prog Op Ans β
  | ret a, f => f a
  | act o k, f => act o fun x => (k x).bind f

instance : Monad (Prog Op Ans) where
  pure := ret
  bind := bind

/-- The program that performs one operation and returns the answer. -/
def op (o : Op) : Prog Op Ans (Ans o) := act o ret

@[simp] lemma pure_eq (a : α) : (pure a : Prog Op Ans α) = ret a := rfl

@[simp] lemma ret_bind (a : α) (f : α → Prog Op Ans β) : (ret a >>= f) = f a := rfl

@[simp] lemma act_bind (o : Op) (k : Ans o → Prog Op Ans α) (f : α → Prog Op Ans β) :
    (act o k >>= f) = act o fun x => k x >>= f := rfl

@[simp] lemma op_bind (o : Op) (f : Ans o → Prog Op Ans β) : (op o >>= f) = act o f := rfl

private lemma prog_id_map (p : Prog Op Ans α) : id <$> p = p := by
  induction p with
  | ret a => rfl
  | act o k ih => exact congrArg (act o) (funext ih)

private lemma prog_bind_assoc {γ : Type} (p : Prog Op Ans α) (f : α → Prog Op Ans β)
    (g : β → Prog Op Ans γ) : p >>= f >>= g = p >>= fun a => f a >>= g := by
  induction p with
  | ret a => rfl
  | act o k ih => exact congrArg (act o) (funext ih)

instance : LawfulMonad (Prog Op Ans) :=
  LawfulMonad.mk' _ prog_id_map (fun _ _ => rfl) prog_bind_assoc

/-! ## Every operation of a program -/

/-- Every operation that `p` can perform, whatever the answers, satisfies `P`. -/
def All (P : Op → Prop) : Prog Op Ans α → Prop
  | ret _ => True
  | act o k => P o ∧ ∀ x, All P (k x)

variable {P Q : Op → Prop}

@[simp] lemma all_ret (a : α) : All P (ret a : Prog Op Ans α) := trivial

@[simp] lemma all_act {o : Op} {k : Ans o → Prog Op Ans α} :
    All P (act o k) ↔ P o ∧ ∀ x, All P (k x) := Iff.rfl

@[simp] lemma all_op {o : Op} : All P (op o : Prog Op Ans (Ans o)) ↔ P o := by
  simp [op]

@[simp] lemma all_ite {c : Prop} [Decidable c] {p q : Prog Op Ans α} :
    All P (if c then p else q) ↔ (c → All P p) ∧ (¬ c → All P q) := by
  split <;> simp [*]

lemma All.bind {p : Prog Op Ans α} {f : α → Prog Op Ans β} (hp : All P p)
    (hf : ∀ a, All P (f a)) : All P (p >>= f) := by
  induction p with
  | ret a => exact hf a
  | act o k ih => exact ⟨hp.1, fun x => ih x (hp.2 x)⟩

lemma all_true (p : Prog Op Ans α) : All (fun _ => True) p := by
  induction p with
  | ret a => trivial
  | act o k ih => exact ⟨trivial, ih⟩

lemma All.mono {p : Prog Op Ans α} (hp : All P p) (hPQ : ∀ o, P o → Q o) : All Q p := by
  induction p with
  | ret a => trivial
  | act o k ih => exact ⟨hPQ o hp.1, fun x => ih x (hp.2 x)⟩

lemma All.and {p : Prog Op Ans α} (hp : All P p) (hq : All Q p) : All (fun o => P o ∧ Q o) p := by
  induction p with
  | ret a => trivial
  | act o k ih => exact ⟨⟨hp.1, hq.1⟩, fun x => ih x (hp.2 x) (hq.2 x)⟩

/-! ## Every value of a program -/

/-- Every value that `p` can end with, whatever the answers, satisfies `R`. -/
def Ends (R : α → Prop) : Prog Op Ans α → Prop
  | ret a => R a
  | act _ k => ∀ x, Ends R (k x)

@[simp] lemma ends_ret {R : α → Prop} {a : α} : Ends R (ret a : Prog Op Ans α) ↔ R a := Iff.rfl

lemma ends_bind {R : β → Prop} (p : Prog Op Ans α) {f : α → Prog Op Ans β}
    (hf : ∀ a, Ends R (f a)) : Ends R (p >>= f) := by
  induction p with
  | ret a => exact hf a
  | act o k ih => exact fun x => ih x

/-! ## Uninterrupted execution -/

variable {σ : Type}

/-- What each operation does to the state, and its answer. -/
abbrev Sem (Op : Type) (Ans : Op → Type) (σ : Type) : Type :=
  (o : Op) → σ → Outcome σ (Ans o)

/-- Execute all of a program; an operation that faults ends the execution. -/
def run (sem : Sem Op Ans σ) : Prog Op Ans α → σ → Outcome σ α
  | ret a, s => .done a s
  | act o k, s =>
      match sem o s with
      | .done x s' => (k x).run sem s'
      | .oops s' => .oops s'

variable {sem : Sem Op Ans σ}

@[simp] lemma run_ret (a : α) (s : σ) : run sem (ret a) s = .done a s := rfl

lemma run_act (o : Op) (k : Ans o → Prog Op Ans α) (s : σ) :
    run sem (act o k) s = match sem o s with
      | .done x s' => (k x).run sem s'
      | .oops s' => .oops s' := by
  rw [run]

lemma run_act_done {o : Op} {k : Ans o → Prog Op Ans α} {s s' : σ} {x : Ans o}
    (h : sem o s = .done x s') : run sem (act o k) s = run sem (k x) s' := by
  rw [run_act, h]

lemma run_act_oops {o : Op} {k : Ans o → Prog Op Ans α} {s s' : σ} (h : sem o s = .oops s') :
    run sem (act o k) s = .oops s' := by
  rw [run_act, h]

lemma run_op (o : Op) (s : σ) : run sem (op o) s = sem o s := by
  rw [op, run_act]
  cases sem o s <;> rfl

@[simp] lemma run_bind (p : Prog Op Ans α) (f : α → Prog Op Ans β) (s : σ) :
    run sem (p >>= f) s = match run sem p s with
      | .done a s' => run sem (f a) s'
      | .oops s' => .oops s' := by
  induction p generalizing s with
  | ret a => rfl
  | act o k ih =>
    rw [act_bind, run_act, run_act]
    cases sem o s with
    | done x s' => exact ih x s'
    | oops s' => rfl

@[simp] lemma run_ite {c : Prop} [Decidable c] (p q : Prog Op Ans α) (s : σ) :
    run sem (if c then p else q) s = if c then run sem p s else run sem q s := by
  split <;> rfl

/-- **The frame rule.** What every operation of a program keeps, the execution
keeps, also when it ends at a fault. -/
theorem All.run {I : σ → Prop} {p : Prog Op Ans α} (hp : All P p)
    (hI : ∀ o s, P o → I s → I (sem o s).state) {s : σ} (hs : I s) :
    I (run sem p s).state := by
  induction p generalizing s with
  | ret a => exact hs
  | act o k ih =>
    have ho := hI o s hp.1 hs
    cases h : sem o s with
    | done x s' =>
      rw [run_act_done h]
      exact ih x (hp.2 x) (by simpa [h] using ho)
    | oops s' =>
      rw [run_act_oops h]
      simpa [h] using ho

/-- An execution ends with a value that the program can end with. -/
lemma Ends.run {R : α → Prop} {p : Prog Op Ans α} (hp : Ends R p) {s s' : σ} {a : α}
    (h : p.run sem s = .done a s') : R a := by
  induction p generalizing s with
  | ret b =>
    obtain ⟨rfl, -⟩ := Outcome.done.inj h
    exact hp
  | act o k ih =>
    rw [run_act] at h
    cases ho : sem o s with
    | done x t => exact ih x (hp x) (by simpa only [ho] using h)
    | oops t => simp [ho] at h

/-- Two meanings that agree on the operations of a program agree on its execution. -/
lemma All.run_congr {sem' : Sem Op Ans σ} {p : Prog Op Ans α} (hp : All P p)
    (h : ∀ o s, P o → sem o s = sem' o s) (s : σ) : p.run sem s = p.run sem' s := by
  induction p generalizing s with
  | ret a => rfl
  | act o k ih =>
    rw [run_act, run_act, h o s hp.1]
    cases sem' o s with
    | done x t => exact ih x (hp.2 x) t
    | oops t => rfl

end Prog

end KernelDriverLab.Lib
