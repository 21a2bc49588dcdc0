import KernelDriverLab.Lib.Ledger
import Mathlib.Data.List.Perm.Basic
import Mathlib.Data.List.Nodup
import Mathlib.Logic.Function.Basic

/-!
# Accounts

A function that acquires several things keeps them in variables.  An account says for each
variable which entry of the ledger it stands for, if any: the entries that are still held since
the account was opened are exactly those, no two variables stand for the same entry, and no
release was wrong.  Acquiring for a variable that stands for nothing, and releasing what a
variable stands for, change the account at that variable alone.
-/

namespace KernelDriverLab.Lib

namespace Ledger

variable {κ τ : Type} {l : Ledger κ} {base : ℕ} {held : τ → Option (ℕ × κ)} {t : τ} {i : ℕ}
  {k : κ}

/-- What is held under a number from `base` on is what the variables `τ` stand for. -/
structure Account (l : Ledger κ) (base : ℕ) (held : τ → Option (ℕ × κ)) : Prop where
  mem : ∀ x, x ∈ l.live ∧ base ≤ x.1 ↔ ∃ t, held t = some x
  inj : ∀ t t' x x', held t = some x → held t' = some x' → x.1 = x'.1 → t = t'
  distinct : (l.live.map Prod.fst).Nodup
  opened : base ≤ l.next
  wrong : l.wrong = []

namespace Account

/-- A new account, in which nothing is held. -/
lemma init (hdistinct : (l.live.map Prod.fst).Nodup) (hwrong : l.wrong = []) :
    l.Account l.next fun _ : τ => none where
  mem x := by
    refine iff_of_false ?_ (by simp)
    rintro ⟨hmem, hbase⟩
    exact Nat.not_lt.2 hbase (l.numbered x hmem)
  inj _ _ _ _ h := by cases h
  distinct := hdistinct
  opened := Nat.le_refl _
  wrong := hwrong

lemma mem_live (h : l.Account base held) (ht : held t = some (i, k)) : (i, k) ∈ l.live :=
  ((h.mem _).2 ⟨t, ht⟩).1

/-- A number is held only once. -/
lemma eq_of_number (h : l.Account base held) {x y : ℕ × κ} (hx : x ∈ l.live) (hy : y ∈ l.live)
    (hxy : x.1 = y.1) : x = y := List.inj_on_of_nodup_map h.distinct hx hy hxy

/-- What is held is found by its number. -/
lemma find? (h : l.Account base held) (ht : held t = some (i, k)) :
    l.live.find? (·.1 = i) = some (i, k) := by
  have hmem := h.mem_live ht
  have hsome : (l.live.find? (·.1 = i)).isSome = true :=
    List.find?_isSome.2 ⟨_, hmem, decide_eq_true rfl⟩
  obtain ⟨y, hy⟩ := Option.isSome_iff_exists.1 hsome
  have hnumber : y.1 = i := by simpa using List.find?_some hy
  have hsame : y = (i, k) := h.eq_of_number (List.mem_of_find?_eq_some hy) hmem hnumber
  rw [hy, hsame]

/-- **Acquiring** for a variable that stands for nothing. -/
lemma acquire [DecidableEq τ] (h : l.Account base held) (ht : held t = none) (k : κ) :
    (l.acquire k).Account base (Function.update held t (some (l.next, k))) where
  mem x := by
    rw [mem_acquire]
    constructor
    · rintro ⟨rfl | hmem, hbase⟩
      · exact ⟨t, Function.update_self ..⟩
      · obtain ⟨t', ht'⟩ := (h.mem x).1 ⟨hmem, hbase⟩
        have hne : t' ≠ t := by
          rintro rfl
          rw [ht] at ht'
          cases ht'
        exact ⟨t', by rw [Function.update_of_ne hne, ht']⟩
    · rintro ⟨t', ht'⟩
      by_cases hne : t' = t
      · subst hne
        rw [Function.update_self, Option.some_inj] at ht'
        subst ht'
        exact ⟨.inl rfl, h.opened⟩
      · rw [Function.update_of_ne hne] at ht'
        obtain ⟨hmem, hbase⟩ := (h.mem x).2 ⟨t', ht'⟩
        exact ⟨.inr hmem, hbase⟩
  inj t₁ t₂ x₁ x₂ h₁ h₂ hsame := by
    have hnew {t' : τ} {x : ℕ × κ} (h' : held t' = some x) : x.1 < l.next :=
      l.numbered x (h.mem_live h')
    by_cases ht₁ : t₁ = t <;> by_cases ht₂ : t₂ = t
    · rw [ht₁, ht₂]
    · subst ht₁
      rw [Function.update_self, Option.some_inj] at h₁
      rw [Function.update_of_ne ht₂] at h₂
      have hlt := hnew h₂
      subst h₁
      exact absurd hsame.symm (Nat.ne_of_lt hlt)
    · subst ht₂
      rw [Function.update_self, Option.some_inj] at h₂
      rw [Function.update_of_ne ht₁] at h₁
      have hlt := hnew h₁
      subst h₂
      exact absurd hsame (Nat.ne_of_lt hlt)
    · rw [Function.update_of_ne ht₁] at h₁
      rw [Function.update_of_ne ht₂] at h₂
      exact h.inj t₁ t₂ x₁ x₂ h₁ h₂ hsame
  distinct := by
    refine List.nodup_cons.2 ⟨fun hmem => ?_, h.distinct⟩
    obtain ⟨x, hx, hnext⟩ := List.mem_map.1 hmem
    exact absurd hnext (Nat.ne_of_lt (l.numbered x hx))
  opened := Nat.le_succ_of_le h.opened
  wrong := h.wrong

/-- **Releasing** what a variable stands for. -/
lemma release [DecidableEq τ] [DecidableEq κ] (h : l.Account base held)
    (ht : held t = some (i, k)) : (l.release i k).Account base (Function.update held t none) where
  mem x := by
    have hlive : x ∈ l.live.erase (i, k) ↔ x ≠ (i, k) ∧ x ∈ l.live :=
      h.distinct.of_map.mem_erase_iff
    constructor
    · rintro ⟨hmem, hbase⟩
      obtain ⟨hne, hmem⟩ := hlive.1 hmem
      obtain ⟨t', ht'⟩ := (h.mem x).1 ⟨hmem, hbase⟩
      have htt : t' ≠ t := by
        rintro rfl
        exact hne (Option.some.inj (ht'.symm.trans ht))
      exact ⟨t', by rw [Function.update_of_ne htt, ht']⟩
    · rintro ⟨t', ht'⟩
      have htt : t' ≠ t := by
        rintro rfl
        simp at ht'
      rw [Function.update_of_ne htt] at ht'
      obtain ⟨hmem, hbase⟩ := (h.mem x).2 ⟨t', ht'⟩
      refine ⟨hlive.2 ⟨?_, hmem⟩, hbase⟩
      rintro rfl
      exact htt (h.inj t' t _ _ ht' ht rfl)
  inj t₁ t₂ x₁ x₂ h₁ h₂ hsame := by
    have hold {t' : τ} {x : ℕ × κ} (h' : Function.update held t none t' = some x) :
        held t' = some x := by
      by_cases htt : t' = t
      · subst htt
        simp at h'
      · rwa [Function.update_of_ne htt] at h'
    exact h.inj t₁ t₂ x₁ x₂ (hold h₁) (hold h₂) hsame
  distinct := h.distinct.sublist (List.erase_sublist.map Prod.fst)
  opened := h.opened
  wrong := by
    have hmem := h.mem_live ht
    rw [Ledger.release]
    exact (if_pos hmem).trans h.wrong

/-- **What is left**, when the variables are listed. -/
lemma left_perm (h : l.Account base held) {ts : List τ} (hnodup : ts.Nodup) (hall : ∀ t, t ∈ ts) :
    (l.live.filter (base ≤ ·.1)).Perm (ts.filterMap held) := by
  have hlive : (l.live.filter (base ≤ ·.1)).Nodup := h.distinct.of_map.filter _
  have hvariables : (ts.filterMap held).Nodup := by
    refine hnodup.filterMap fun t t' x ht ht' => ?_
    exact h.inj t t' x x ht ht' rfl
  refine (List.perm_ext_iff_of_nodup hlive hvariables).2 fun x => ?_
  rw [List.mem_filter, decide_eq_true_iff, h.mem, List.mem_filterMap]
  exact ⟨fun ⟨t, ht⟩ => ⟨t, hall t, ht⟩, fun ⟨t, _, ht⟩ => ⟨t, ht⟩⟩

end Account

end Ledger

end KernelDriverLab.Lib
