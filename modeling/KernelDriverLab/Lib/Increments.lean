import Mathlib.Algebra.Group.Nat.Defs
import Mathlib.Data.Nat.Init
import Mathlib.Tactic.Common

/-!
# Increments that are not atomic

Threads increment a shared counter of `n` bits, each time by a load and a store of the value
loaded plus 1.  A history lists their accesses, the latest first; it is `Coherent` when every
load has the value of the counter and every store the latest load of its thread plus 1.

A store is disturbed when another store came after the load of its thread.  The counter never
exceeds the number of stores, and it is equal to it exactly when no store has been disturbed:
what a disturbed store has lost never comes back (`toNat_value_eq_iff`).  Without disturbed
stores it is their number also when it has come round (`value_eq_ofNat`).
-/

namespace KernelDriverLab.Lib

/-- An access of a thread to the counter. -/
inductive Access (τ : Type) (n : ℕ) where
  /-- A load, with the value loaded. -/
  | load (t : τ) (v : BitVec n)
  | store (t : τ) (v : BitVec n)
deriving DecidableEq, Repr

namespace Access

variable {τ : Type} {n : ℕ}

/-- The counter after a history. -/
def value : List (Access τ n) → BitVec n
  | [] => 0
  | load _ _ :: h => value h
  | store _ v :: _ => v

/-- The number of stores. -/
def stores : List (Access τ n) → ℕ
  | [] => 0
  | load _ _ :: h => stores h
  | store _ _ :: h => stores h + 1

variable [DecidableEq τ]

/-- What a thread has loaded last. -/
def loadedBy (t : τ) : List (Access τ n) → Option (BitVec n)
  | [] => none
  | load t' v :: h => if t' = t then some v else loadedBy t h
  | store _ _ :: h => loadedBy t h

/-- Nobody has stored since the thread has loaded. -/
def Fresh (t : τ) : List (Access τ n) → Prop
  | [] => False
  | load t' _ :: h => t' = t ∨ Fresh t h
  | store _ _ :: _ => False

instance Fresh.decidable (t : τ) : (h : List (Access τ n)) → Decidable (Fresh t h)
  | [] => inferInstanceAs (Decidable False)
  | load t' _ :: h =>
    letI := Fresh.decidable t h
    inferInstanceAs (Decidable (t' = t ∨ Fresh t h))
  | store _ _ :: _ => inferInstanceAs (Decidable False)

/-- The loads and stores are those of a counter that the threads increment. -/
def Coherent : List (Access τ n) → Prop
  | [] => True
  | load _ v :: h => v = value h ∧ Coherent h
  | store t v :: h => (∃ u, loadedBy t h = some u ∧ v = u + 1) ∧ Coherent h

/-- No store came between the load and the store of another increment. -/
def Undisturbed : List (Access τ n) → Prop
  | [] => True
  | load _ _ :: h => Undisturbed h
  | store t _ :: h => Fresh t h ∧ Undisturbed h

instance Undisturbed.decidable : (h : List (Access τ n)) → Decidable (Undisturbed h)
  | [] => inferInstanceAs (Decidable True)
  | load _ _ :: h => Undisturbed.decidable h
  | store t _ :: h =>
    letI := Undisturbed.decidable h
    inferInstanceAs (Decidable (Fresh t h ∧ Undisturbed h))

variable {h : List (Access τ n)} {t : τ}

omit [DecidableEq τ] in
/-- An increment that does not overflow. -/
lemma toNat_succ {u : BitVec n} (hu : u.toNat + 1 < 2 ^ n) : (u + 1).toNat = u.toNat + 1 := by
  have hone : (1 : BitVec n).toNat = 1 % 2 ^ n := BitVec.toNat_ofNat ..
  rw [BitVec.toNat_add, hone, Nat.mod_eq_of_lt (a := 1) (by omega), Nat.mod_eq_of_lt hu]

/-- As long as nobody has stored since, the value loaded is that of the counter. -/
lemma loadedBy_of_fresh (hh : Coherent h) (hfresh : Fresh t h) : loadedBy t h = some (value h) := by
  induction h with
  | nil => exact hfresh.elim
  | cons a h ih =>
    cases a with
    | store t' v => exact hfresh.elim
    | load t' v =>
      rw [loadedBy, value]
      split_ifs with ht
      · rw [hh.1]
      · exact ih hh.2 (hfresh.resolve_left ht)

/-- **A counter without disturbed stores** is their number, as far as its width goes. -/
theorem value_eq_ofNat (hh : Coherent h) (hundisturbed : Undisturbed h) :
    value h = .ofNat n (stores h) := by
  induction h with
  | nil => rfl
  | cons a h ih =>
    cases a with
    | load t v => exact ih hh.2 hundisturbed
    | store t v =>
      obtain ⟨⟨u, hu, rfl⟩, hh⟩ := hh
      obtain ⟨hfresh, hundisturbed⟩ := hundisturbed
      obtain rfl : u = value h := Option.some.inj (hu.symm.trans (loadedBy_of_fresh hh hfresh))
      rw [value, stores, ih hh hundisturbed, BitVec.ofNat_add]
      rfl

/-- **What a thread has loaded** is at most the number of stores, and less if there has been
a store since; and so is the counter. -/
lemma bounded (hh : Coherent h) (hn : stores h < 2 ^ n) :
    (value h).toNat ≤ stores h ∧ ∀ t v, loadedBy t h = some v →
      v.toNat ≤ stores h ∧ (¬ Fresh t h → v.toNat < stores h) := by
  induction h with
  | nil => exact ⟨Nat.le_of_eq (BitVec.toNat_ofNat ..), fun t v hv => by cases hv⟩
  | cons a h ih =>
    cases a with
    | load t' v' =>
      obtain ⟨hvalue, hloaded⟩ := ih hh.2 hn
      refine ⟨hvalue, fun t v hv => ?_⟩
      rw [loadedBy] at hv
      split_ifs at hv with ht
      · obtain rfl := Option.some.inj hv
        refine ⟨?_, fun hnot => absurd (.inl ht) hnot⟩
        rw [hh.1]
        exact hvalue
      · obtain ⟨hle, hlt⟩ := hloaded t v hv
        exact ⟨hle, fun hnot => hlt fun hfresh => hnot (.inr hfresh)⟩
    | store t' v' =>
      obtain ⟨⟨u, hu, rfl⟩, hh⟩ := hh
      have hn' : stores h + 1 < 2 ^ n := hn
      obtain ⟨-, hloaded⟩ := ih hh (Nat.lt_of_succ_lt hn')
      refine ⟨?_, fun t v hv => ?_⟩
      · have hle := (hloaded t' u hu).1
        rw [value, stores, toNat_succ (by omega)]
        omega
      · have hle := (hloaded t v hv).1
        rw [stores]
        exact ⟨Nat.le_succ_of_le hle, fun _ => Nat.lt_succ_of_le hle⟩

/-- **No update is lost exactly when no store was disturbed.** -/
theorem toNat_value_eq_iff (hh : Coherent h) (hn : stores h < 2 ^ n) :
    (value h).toNat = stores h ↔ Undisturbed h := by
  induction h with
  | nil => simp [value, stores, Undisturbed]
  | cons a h ih =>
    cases a with
    | load t v => exact ih hh.2 hn
    | store t v =>
      obtain ⟨⟨u, hu, rfl⟩, hh⟩ := hh
      have hn' : stores h + 1 < 2 ^ n := hn
      obtain ⟨hle, hlt⟩ := (bounded hh (Nat.lt_of_succ_lt hn')).2 t u hu
      rw [value, stores, Undisturbed, toNat_succ (by omega), Nat.add_right_cancel_iff]
      by_cases hfresh : Fresh t h
      · obtain rfl : u = value h :=
          Option.some.inj (hu.symm.trans (loadedBy_of_fresh hh hfresh))
        rw [ih hh (Nat.lt_of_succ_lt hn')]
        exact ⟨fun hundisturbed => ⟨hfresh, hundisturbed⟩, fun hboth => hboth.2⟩
      · constructor
        · intro heq
          have hless := hlt hfresh
          omega
        · intro hboth
          exact absurd hboth.1 hfresh

end Access

end KernelDriverLab.Lib
