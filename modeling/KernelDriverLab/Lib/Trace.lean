import KernelDriverLab.Lib.Machine

/-!
# Machines with a log

`Machine.traced` keeps beside the pool the list of the operations that the threads have
performed, with their answers and the latest first, so that a statement can speak about the
order of what has happened.  The machine does not see its log.

In an outline for a machine with a log the assertions may speak about the log, and
`Outline.Logged.holds_of_reach` is the rule of proof outlines for it.
-/

namespace KernelDriverLab.Lib

/-- An operation that a thread has performed, and its answer. -/
structure Entry (Op : Type) (Ans : Op → Type) (ρ : Type) where
  thread : ℕ
  role : ρ
  op : Op
  ans : Ans op

namespace Machine

variable {Op : Type} {Ans : Op → Type} {ρ α σ ε ν : Type} (M : Machine Op Ans ρ α σ ε ν)

/-- What a step adds to the log. -/
def shown (w : Pool Op Ans ρ α σ) : Move ε ν → List (Entry Op Ans ρ)
  | .run i e =>
      match w.threads[i]? with
      | some ⟨r, .act o _⟩ =>
          match M.sem e r o w.shared with
          | .done x _ => [⟨i, r, o, x⟩]
          | .oops _ => []
      | _ => []
  | .event _ => []

/-- The runs of a machine, with their logs. -/
@[simps]
def traced (Init : Pool Op Ans ρ α σ → Prop) :
    System (Pool Op Ans ρ α σ × List (Entry Op Ans ρ)) (Move ε ν) where
  Init v := Init v.1 ∧ v.2 = []
  next v l := (M.next v.1 l).map fun w => (w, M.shown v.1 l ++ v.2)

variable {M} {Init : Pool Op Ans ρ α σ → Prop}
  {C : Pool Op Ans ρ α σ × List (Entry Op Ans ρ) → Move ε ν → Prop}
  {v v' : Pool Op Ans ρ α σ × List (Entry Op Ans ρ)} {l : Move ε ν}

lemma shown_act {w : Pool Op Ans ρ α σ} {i : ℕ} {e : ε} {r : ρ} {o : Op} {k : Ans o → Prog Op Ans α}
    {x : Ans o} {s : σ} (hi : w.threads[i]? = some ⟨r, .act o k⟩)
    (hsem : M.sem e r o w.shared = .done x s) : M.shown w (.run i e) = [⟨i, r, o, x⟩] := by
  simp only [shown, hi, hsem]

lemma shown_ret {w : Pool Op Ans ρ α σ} {i : ℕ} {e : ε} {r : ρ} {a : α}
    (hi : w.threads[i]? = some ⟨r, .ret a⟩) : M.shown w (.run i e) = [] := by
  simp only [shown, hi]

/-- **Inversion of a step with a log.** -/
lemma moves_traced (h : (M.traced Init).next v l = some v') :
    M.Moves v.1 l v'.1 ∧ v'.2 = M.shown v.1 l ++ v.2 := by
  obtain ⟨w, hw, rfl⟩ := Option.map_eq_some_iff.1 h
  exact ⟨moves hw, rfl⟩

/-- Without its log a run is a run of the machine. -/
lemma reach_of_traced {D : Pool Op Ans ρ α σ → Move ε ν → Prop} (hD : ∀ v l, C v l → D v.1 l)
    (hv : (M.traced Init).Reach C v) : (M.system Init).Reach D v.1 := by
  induction hv with
  | init h => exact .init h.1
  | step _ hc h ih =>
    obtain ⟨w, hw, rfl⟩ := Option.map_eq_some_iff.1 h
    exact .step ih (hD _ _ hc) hw

/-- And every run has a log. -/
lemma exists_log {D : Pool Op Ans ρ α σ → Move ε ν → Prop} {w : Pool Op Ans ρ α σ}
    (hw : (M.system Init).Reach D w) :
    ∃ log, (M.traced Init).Reach (fun v l => D v.1 l) (w, log) := by
  induction hw with
  | init h => exact ⟨[], .init ⟨h, rfl⟩⟩
  | @step w w' l _ hc h ih =>
    obtain ⟨log, hlog⟩ := ih
    refine ⟨M.shown w l ++ log, .step (l := l) hlog hc ?_⟩
    exact Option.map_eq_some_iff.2 ⟨w', h, rfl⟩

/-- The threads of the log are there. -/
lemma thread_lt_of_reach (hv : (M.traced Init).Reach C v) :
    ∀ e ∈ v.2, e.thread < v.1.threads.length := by
  refine hv.invariant (I := fun v => ∀ e ∈ v.2, e.thread < v.1.threads.length) ?_ ?_
  · rintro ⟨w, log⟩ ⟨-, rfl⟩ e he
    cases he
  · rintro v l ⟨w', log'⟩ hI - h
    obtain ⟨hmoves, hlog⟩ := moves_traced h
    obtain rfl : log' = _ := hlog
    intro e he
    cases hmoves with
    | act hi hready hsem =>
      rw [shown_act hi hsem] at he
      rw [List.length_set]
      rcases List.mem_cons.1 he with rfl | he
      · exact (List.getElem?_eq_some_iff.1 hi).1
      · exact hI e he
    | again hi hagain =>
      rw [shown_ret hi] at he
      simp only [List.length_set]
      exact hI e he
    | event hevent =>
      rw [List.length_append]
      exact Nat.lt_of_lt_of_le (hI e he) (Nat.le_add_right _ _)

end Machine

namespace Outline

variable {Op : Type} {Ans : Op → Type} {ρ α σ ε ν ι δ : Type}
  (O : Outline Op Ans ρ α σ ι (List (Entry Op Ans ρ) × δ)) (M : Machine Op Ans ρ α σ ε ν)
  (C : Pool Op Ans ρ α σ × List (Entry Op Ans ρ) → Move ε ν → Prop)

/-- The steps that meet `C` keep the outline, with the log as part of the ghost variable. -/
structure Logged : Prop where
  act {log : List (Entry Op Ans ρ)} {d : δ} {w : Pool Op Ans ρ α σ} {i : ℕ} {e : ε} {r : ρ}
    {st : ι} {o : Op} {k : Ans o → Prog Op Ans α} {x : Ans o} {s : σ}
    (hw : O.Holds (log, d) w) (hc : C (w, log) (.run i e))
    (hi : w.threads[i]? = some ⟨r, .act o k⟩) (hst : O.At (log, d) w.shared i ⟨r, .act o k⟩ st)
    (hready : M.ready w.shared r o = true) (hsem : M.sem e r o w.shared = .done x s) :
    (O.proto r).expect st o x ∧
      ∃ d', O.Lands (log, d) (⟨i, r, o, x⟩ :: log, d') w i r ((O.proto r).after st o x) s
  again {g : List (Entry Op Ans ρ) × δ} {s : σ} {j : ℕ} {r : ρ} {st : ι} {a : α}
    {p : Prog Op Ans α} (hst : O.At g s j ⟨r, .ret a⟩ st) (hagain : M.again r a = some p) :
    p.Follows (O.proto r) st (O.ends r)
  event {log : List (Entry Op Ans ρ)} {d : δ} {w : Pool Op Ans ρ α σ} {n : ν} {s : σ}
    {ths : List (Thread Op Ans ρ α)} (hw : O.Holds (log, d) w) (hc : C (w, log) (.event n))
    (hevent : M.event n w.shared = some (s, ths)) : ∃ d', O.Admits (log, d) (log, d') w s ths

variable {O M C} {v v' : Pool Op Ans ρ α σ × List (Entry Op Ans ρ)} {l : Move ε ν}

lemma Logged.step {Init : Pool Op Ans ρ α σ → Prop} (hO : O.Logged M C) {d : δ}
    (hv : O.Holds (v.2, d) v.1) (hc : C v l) (h : (M.traced Init).next v l = some v') :
    ∃ d', O.Holds (v'.2, d') v'.1 := by
  obtain ⟨hmoves, hlog⟩ := Machine.moves_traced h
  obtain ⟨w', log'⟩ := v'
  obtain rfl : log' = _ := hlog
  cases hmoves with
  | @act i e r o k x s hi hready hsem =>
    obtain ⟨st, hst⟩ := hv.threads _ _ hi
    obtain ⟨hx, d', hlands⟩ := hO.act hv hc hi hst hready hsem
    rw [Machine.shown_act hi hsem]
    exact ⟨d', hlands.holds hv hst hx⟩
  | again hi hagain =>
    rw [Machine.shown_ret hi]
    exact ⟨d, hv.put hi fun st hst => hO.again hst hagain⟩
  | @event n s ths hevent =>
    obtain ⟨d', hadmits⟩ := hO.event hv hc hevent
    exact ⟨d', hadmits.holds hv⟩

/-- **The rule of proof outlines for logs.** -/
theorem Logged.holds_of_reach {Init : Pool Op Ans ρ α σ → Prop} (hO : O.Logged M C)
    (hinit : ∀ w, Init w → ∃ d, O.Holds ([], d) w) (hv : (M.traced Init).Reach C v) :
    ∃ d, O.Holds (v.2, d) v.1 := by
  refine hv.invariant (I := fun v => ∃ d, O.Holds (v.2, d) v.1) ?_
    fun _ _ _ ⟨_, hv⟩ hc h => hO.step hv hc h
  rintro ⟨w, log⟩ ⟨hw, rfl⟩
  exact hinit w hw

end Outline

end KernelDriverLab.Lib
