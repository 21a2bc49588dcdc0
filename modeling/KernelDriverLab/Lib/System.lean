import Mathlib.Tactic.Common

/-!
# Labelled transition systems and the runs that meet a condition

A system has initial states and a partial step function on labels; all
nondeterminism sits in the label.  `System.Reach C s` says that a run leads to
`s` every step of which meets the condition `C` on the state before the step and
its label.  `Reach.invariant` is the one induction over runs: what holds
initially and is kept by each step that meets the condition holds at the end of
every such run.

`System.exec` runs a list of labels, and `System.Along` says that a run of a
given list meets the condition; `reach_of_exec` turns a computation into a run, and
`exists_reachable` one that ends well into a reachable state.
-/

namespace KernelDriverLab.Lib

/-- A transition system with states `σ` and labels `ι`. -/
structure System (σ ι : Type) where
  /-- The states in which a run may begin. -/
  Init : σ → Prop
  /-- The step with a label, when that label is possible. -/
  next : σ → ι → Option σ

namespace System

variable {σ ι : Type} {S : System σ ι} {C C' : σ → ι → Prop}

/-- The states at the end of the runs whose steps all meet `C`. -/
inductive Reach (S : System σ ι) (C : σ → ι → Prop) : σ → Prop where
  | init {s : σ} (h : S.Init s) : Reach S C s
  | step {s t : σ} {l : ι} (hs : Reach S C s) (hc : C s l) (h : S.next s l = some t) : Reach S C t

/-- The states at the end of all runs. -/
abbrev Reachable (S : System σ ι) : σ → Prop := S.Reach fun _ _ => True

/-- **The invariant rule.** -/
theorem Reach.invariant {I : σ → Prop} (hinit : ∀ s, S.Init s → I s)
    (hstep : ∀ s l t, I s → C s l → S.next s l = some t → I t) {s : σ} (hs : S.Reach C s) :
    I s := by
  induction hs with
  | init h => exact hinit _ h
  | step _ hc h ih => exact hstep _ _ _ ih hc h

lemma Reach.mono (hC : ∀ s l, C s l → C' s l) {s : σ} (hs : S.Reach C s) : S.Reach C' s := by
  induction hs with
  | init h => exact .init h
  | step _ hc h ih => exact .step ih (hC _ _ hc) h

/-- What holds along all these runs may be assumed of the state before each step. -/
lemma Reach.strengthen {I : σ → Prop} (hI : ∀ s, S.Reach C s → I s) {s : σ} (hs : S.Reach C s) :
    S.Reach (fun s l => C s l ∧ I s) s := by
  induction hs with
  | init h => exact .init h
  | step hs hc h ih => exact .step ih ⟨hc, hI _ hs⟩ h

/-! ## Running a list of labels -/

/-- The state after the labels of a list, when all of them are possible. -/
def exec (S : System σ ι) (s : σ) : List ι → Option σ
  | [] => some s
  | l :: ls => match S.next s l with
    | none => none
    | some t => S.exec t ls

/-- Every step of the run of a list of labels meets `C`. -/
def Along (S : System σ ι) (C : σ → ι → Prop) (s : σ) : List ι → Prop
  | [] => True
  | l :: ls => C s l ∧ match S.next s l with
    | none => True
    | some t => S.Along C t ls

instance Along.decidable [∀ s l, Decidable (C s l)] :
    ∀ (s : σ) (ls : List ι), Decidable (S.Along C s ls)
  | _, [] => inferInstanceAs (Decidable True)
  | s, l :: ls =>
    letI : Decidable (match S.next s l with
        | none => True
        | some t => S.Along C t ls) :=
      match S.next s l with
      | none => inferInstanceAs (Decidable True)
      | some t => Along.decidable t ls
    inferInstanceAs (Decidable (C s l ∧ _))

lemma reach_of_exec {ls : List ι} {s t : σ} (hs : S.Reach C s) (hc : S.Along C s ls)
    (h : S.exec s ls = some t) : S.Reach C t := by
  induction ls generalizing s with
  | nil =>
    obtain rfl : s = t := by simpa [exec] using h
    exact hs
  | cons l ls ih =>
    cases hn : S.next s l with
    | none => simp [exec, hn] at h
    | some u =>
      have hcu : S.Along C u ls := by simpa [Along, hn] using hc.2
      exact ih (.step hs hc.1 hn) hcu (by simpa [exec, hn] using h)

/-- The state at the end of a list of labels that is possible. -/
lemma reach_get {s : σ} (ls : List ι) (hs : S.Reach C s) (hc : S.Along C s ls)
    (h : (S.exec s ls).isSome = true) : S.Reach C ((S.exec s ls).get h) :=
  reach_of_exec hs hc (Option.some_get h).symm

/-- A computation that ends in a state with `P` shows that one can be reached. -/
lemma exists_reach {P : σ → Prop} [DecidablePred P] {s : σ} (ls : List ι) (hs : S.Reach C s)
    (hc : S.Along C s ls) (h : (S.exec s ls).any (fun t => decide (P t)) = true) :
    ∃ t, S.Reach C t ∧ P t := by
  obtain ⟨t, ht, hP⟩ := (Option.any_eq_true _ _).1 h
  exact ⟨t, reach_of_exec hs hc ht, of_decide_eq_true hP⟩

/-- A run of any list of labels is a run without a condition. -/
lemma along_of_forall (hC : ∀ s l, C s l) (s : σ) (ls : List ι) : S.Along C s ls := by
  induction ls generalizing s with
  | nil => trivial
  | cons l ls ih =>
    refine ⟨hC s l, ?_⟩
    cases S.next s l with
    | none => trivial
    | some t => exact ih t

/-- **The congruence rule.** Two conditions that agree wherever the steps that meet the second
one lead are met by the same lists of labels. -/
theorem along_congr {I : σ → Prop} {P : σ → ι → Prop}
    (hI : ∀ s l t, I s → C s l → S.next s l = some t → I t)
    (hP : ∀ s l, I s → (P s l ↔ C s l)) {s : σ} (hs : I s) (ls : List ι) :
    S.Along P s ls ↔ S.Along C s ls := by
  induction ls generalizing s with
  | nil => exact Iff.rfl
  | cons l ls ih =>
    rw [Along, Along, hP s l hs]
    refine and_congr_right fun hc => ?_
    cases hn : S.next s l with
    | none => exact Iff.rfl
    | some t => exact ih (hI s l t hs hc hn)

/-- A condition on the labels alone, when the steps that meet it are possible. -/
lemma along_iff_forall {I : σ → Prop} {D : ι → Prop}
    (hI : ∀ s l, I s → D l → ∃ t, S.next s l = some t ∧ I t) {s : σ} (hs : I s) (ls : List ι) :
    S.Along (fun _ l => D l) s ls ↔ ∀ l ∈ ls, D l := by
  induction ls generalizing s with
  | nil => simp [Along]
  | cons l ls ih =>
    rw [Along, List.forall_mem_cons]
    refine and_congr_right fun hl => ?_
    obtain ⟨t, ht, hIt⟩ := hI s l hs hl
    rw [ht]
    exact ih hIt

/-- A list of labels whose steps meet a condition under which they are possible runs to its end,
where the invariant of the condition holds. -/
lemma exists_exec {I : σ → Prop} (hI : ∀ s l, I s → C s l → ∃ t, S.next s l = some t ∧ I t)
    {s : σ} (hs : I s) {ls : List ι} (hc : S.Along C s ls) : ∃ t, S.exec s ls = some t ∧ I t := by
  induction ls generalizing s with
  | nil => exact ⟨s, rfl, hs⟩
  | cons l ls ih =>
    obtain ⟨hl, hrest⟩ := hc
    obtain ⟨t, ht, hIt⟩ := hI s l hs hl
    rw [ht] at hrest
    rw [exec, ht]
    exact ih hIt hrest

lemma exists_reachable {P : σ → Prop} [DecidablePred P] {s : σ} (ls : List ι)
    (hs : S.Reachable s) (h : (S.exec s ls).any (fun t => decide (P t)) = true) :
    ∃ t, S.Reachable t ∧ P t :=
  exists_reach ls hs (along_of_forall (fun _ _ => trivial) s ls) h

end System

end KernelDriverLab.Lib
