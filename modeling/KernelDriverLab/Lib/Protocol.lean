import KernelDriverLab.Lib.Prog

/-!
# Protocols that a thread follows

A protocol has stages.  In each stage it says which operations are allowed and
which answers can come back, and the answer leads to the next stage.
`Follows T p i Q` says that the program `p`, begun in stage `i`, performs only
allowed operations as long as the answers are expected ones, and that `Q` holds
of the stage and the value at its end.  It is computed along the program, so
`simp` decides it for a concrete function.  `Follows.run` and `Follows.state` carry an
invariant with one assertion for each stage through an uninterrupted execution.
-/

namespace KernelDriverLab.Lib

/-- What a thread may do, stage by stage. -/
structure Protocol (Op : Type) (Ans : Op → Type) (ι : Type) where
  /-- The operation is allowed in this stage. -/
  allow : ι → Op → Prop
  /-- The answer is one that can come back in this stage. -/
  expect : ι → (o : Op) → Ans o → Prop
  /-- The stage after the operation has been answered. -/
  after : ι → (o : Op) → Ans o → ι

namespace Prog

variable {Op : Type} {Ans : Op → Type} {α β ι : Type} {T : Protocol Op Ans ι}

/-- The program keeps to the protocol from the given stage on, and ends in a stage
and with a value that satisfy `Q`. -/
def Follows (T : Protocol Op Ans ι) : Prog Op Ans α → ι → (ι → α → Prop) → Prop
  | ret a, i, Q => Q i a
  | act o k, i, Q => T.allow i o ∧ ∀ x, T.expect i o x → Follows T (k x) (T.after i o x) Q

@[simp] lemma follows_ret {a : α} {i : ι} {Q : ι → α → Prop} :
    Follows T (ret a) i Q ↔ Q i a := Iff.rfl

@[simp] lemma follows_act {o : Op} {k : Ans o → Prog Op Ans α} {i : ι} {Q : ι → α → Prop} :
    Follows T (act o k) i Q ↔
      T.allow i o ∧ ∀ x, T.expect i o x → Follows T (k x) (T.after i o x) Q := Iff.rfl

@[simp] lemma follows_ite {c : Prop} [Decidable c] {p q : Prog Op Ans α} {i : ι}
    {Q : ι → α → Prop} :
    Follows T (if c then p else q) i Q ↔ (c → Follows T p i Q) ∧ (¬ c → Follows T q i Q) := by
  split <;> simp [*]

/-- **Sequential composition**: the second program begins where the first ends. -/
lemma follows_bind {p : Prog Op Ans α} {f : α → Prog Op Ans β} {i : ι} {Q : ι → β → Prop} :
    Follows T (p >>= f) i Q ↔ Follows T p i fun j a => Follows T (f a) j Q := by
  induction p generalizing i with
  | ret a => rfl
  | act o k ih =>
    rw [act_bind, follows_act, follows_act]
    exact and_congr_right fun _ => forall₂_congr fun x _ => ih x

lemma Follows.mono {p : Prog Op Ans α} {i : ι} {Q Q' : ι → α → Prop} (h : Follows T p i Q)
    (hQ : ∀ j a, Q j a → Q' j a) : Follows T p i Q' := by
  induction p generalizing i with
  | ret a => exact hQ i a h
  | act o k ih => exact ⟨h.1, fun x hx => ih x (h.2 x hx)⟩

/-- A program all of whose operations are allowed in a stage that they do not leave
follows the protocol. -/
lemma All.follows {P : Op → Prop} {p : Prog Op Ans α} {i : ι} (hp : All P p)
    (hallow : ∀ o, P o → T.allow i o) (hstay : ∀ o x, P o → T.after i o x = i) :
    Follows T p i fun j _ => j = i := by
  induction p with
  | ret a => rfl
  | act o k ih =>
    refine ⟨hallow o hp.1, fun x _ => ?_⟩
    rw [hstay o x hp.1]
    exact ih x (hp.2 x)

/-- A program all of whose operations are allowed in every stage follows the protocol from
anywhere. -/
lemma All.follows_of_allow {P : Op → Prop} {p : Prog Op Ans α} (hp : All P p)
    (hallow : ∀ i o, P o → T.allow i o) (i : ι) : Follows T p i fun _ _ => True := by
  induction p generalizing i with
  | ret a => trivial
  | act o k ih => exact ⟨hallow i o hp.1, fun x _ => ih x (hp.2 x) (T.after i o x)⟩

/-- **Uninterrupted execution under a protocol.** When every allowed operation gets an
answer that is expected and leads from one invariant to the next, the execution ends
with the invariant of the stage in which the program ends. -/
theorem Follows.run {σ : Type} {sem : Sem Op Ans σ} {I : ι → σ → Prop}
    (hsem : ∀ i o s x s', T.allow i o → I i s → sem o s = .done x s' →
      T.expect i o x ∧ I (T.after i o x) s')
    {p : Prog Op Ans α} {i : ι} {Q : ι → α → Prop} (h : Follows T p i Q) {s s' : σ} {a : α}
    (hs : I i s) (hrun : p.run sem s = .done a s') : ∃ j, Q j a ∧ I j s' := by
  induction p generalizing i s with
  | ret b =>
    obtain ⟨rfl, rfl⟩ := Outcome.done.inj hrun
    exact ⟨i, h, hs⟩
  | act o k ih =>
    rw [run_act] at hrun
    cases ho : sem o s with
    | done x t =>
      obtain ⟨hx, ht⟩ := hsem i o s x t h.1 hs ho
      exact ih x (h.2 x hx) ht (by simpa only [ho] using hrun)
    | oops t => simp [ho] at hrun

/-- The same for the state in which the execution ends, also when it ends at a fault. -/
theorem Follows.state {σ : Type} {sem : Sem Op Ans σ} {I : ι → σ → Prop} {J : σ → Prop}
    (hend : ∀ i s, I i s → J s)
    (hsem : ∀ i o s x s', T.allow i o → I i s → sem o s = .done x s' →
      T.expect i o x ∧ I (T.after i o x) s')
    (hoops : ∀ i o s s', T.allow i o → I i s → sem o s = .oops s' → J s')
    {p : Prog Op Ans α} {i : ι} {Q : ι → α → Prop} (h : Follows T p i Q) {s : σ} (hs : I i s) :
    J (p.run sem s).state := by
  induction p generalizing i s with
  | ret b => exact hend i s hs
  | act o k ih =>
    cases ho : sem o s with
    | done x t =>
      obtain ⟨hx, ht⟩ := hsem i o s x t h.1 hs ho
      rw [run_act_done ho]
      exact ih x (h.2 x hx) ht
    | oops t =>
      rw [run_act_oops ho]
      exact hoops i o s t h.1 hs ho

end Prog

end KernelDriverLab.Lib
