import Mathlib.Data.List.Basic
import Mathlib.Tactic.Common

/-!
# A ledger of acquisitions and releases

Every acquisition gets a number of its own and an entry that says what was
acquired and how.  A release names a number and the form in which the thing is
given back; it strikes the entry when the two agree and is booked as wrong when
nothing of that number is held in that form, so a second release and a release
by the wrong function are both wrong.  `Settled base` says that everything with
a number from `base` on has been given back properly, with no wrong release since
the list of these was last emptied by `reopen`.
-/

namespace KernelDriverLab.Lib

/-- What is held at the moment, and the releases that were wrong. -/
structure Ledger (κ : Type) where
  /-- The number of the next acquisition. -/
  next : ℕ
  /-- The acquisitions that have not been released, the latest first. -/
  live : List (ℕ × κ)
  /-- The numbers of the releases that did not match what was held. -/
  wrong : List ℕ
  /-- Numbers are given out in order. -/
  numbered : ∀ p ∈ live, p.1 < next

namespace Ledger

variable {κ : Type} [DecidableEq κ]

/-- Nothing was ever acquired. -/
def empty : Ledger κ := ⟨0, [], [], by simp⟩

/-- The ledger after an acquisition; the number it got is the old `next`. -/
def acquire (l : Ledger κ) (k : κ) : Ledger κ where
  next := l.next + 1
  live := (l.next, k) :: l.live
  wrong := l.wrong
  numbered := by
    intro p hp
    rcases List.mem_cons.1 hp with rfl | hp
    · exact Nat.lt_succ_self _
    · exact Nat.lt_succ_of_lt (l.numbered p hp)

/-- The ledger after number `i` has been released in the form `k`. -/
def release (l : Ledger κ) (i : ℕ) (k : κ) : Ledger κ where
  next := l.next
  live := l.live.erase (i, k)
  wrong := if (i, k) ∈ l.live then l.wrong else i :: l.wrong
  numbered := fun p hp => l.numbered p (List.mem_of_mem_erase hp)

/-- The ledger with an empty list of wrong releases. -/
def reopen (l : Ledger κ) : Ledger κ := { l with wrong := [] }

/-- Everything acquired from number `base` on has been released, and no release
was wrong. -/
def Settled (l : Ledger κ) (base : ℕ) : Prop := (∀ p ∈ l.live, p.1 < base) ∧ l.wrong = []

instance (l : Ledger κ) (base : ℕ) : Decidable (l.Settled base) :=
  inferInstanceAs (Decidable (_ ∧ _))

section Acquire

omit [DecidableEq κ]

@[simp] lemma next_acquire (l : Ledger κ) (k : κ) : (l.acquire k).next = l.next + 1 := rfl

@[simp] lemma next_reopen (l : Ledger κ) : l.reopen.next = l.next := rfl

@[simp] lemma mem_acquire {l : Ledger κ} {k : κ} {p : ℕ × κ} :
    p ∈ (l.acquire k).live ↔ p = (l.next, k) ∨ p ∈ l.live := List.mem_cons

/-- What is still held was not given back. -/
lemma not_settled_of_mem {l : Ledger κ} {p : ℕ × κ} {base : ℕ} (hp : p ∈ l.live)
    (hbase : base ≤ p.1) : ¬ l.Settled base := by
  intro h
  have hlt : p.1 < base := h.1 p hp
  omega

/-- Number `i` is held, and as `k`. -/
def Holds (l : Ledger κ) (i : ℕ) (k : κ) : Prop := ∀ k', (i, k') ∈ l.live ↔ k' = k

lemma Holds.mem {l : Ledger κ} {i : ℕ} {k : κ} (h : l.Holds i k) : (i, k) ∈ l.live := (h k).2 rfl

lemma Holds.lt_next {l : Ledger κ} {i : ℕ} {k : κ} (h : l.Holds i k) : i < l.next :=
  l.numbered _ h.mem

/-- A new acquisition is held under a number that nothing held has. -/
lemma holds_acquire {l : Ledger κ} {i : ℕ} {k k' : κ} :
    (l.acquire k).Holds i k' ↔ (i = l.next ∧ k' = k) ∨ l.Holds i k' := by
  by_cases hi : i = l.next
  · subst hi
    have hnot (k'' : κ) : (l.next, k'') ∉ l.live := fun hmem => Nat.lt_irrefl _ (l.numbered _ hmem)
    constructor
    · intro h
      have hk : k' = k := by simpa [hnot] using h.mem
      exact .inl ⟨rfl, hk⟩
    · rintro (⟨-, rfl⟩ | h)
      · intro k''
        simp [hnot]
      · exact absurd h.mem (hnot k')
  · simp [Holds, hi]

/-- An account that has just been opened is settled. -/
lemma settled_reopen (l : Ledger κ) : l.reopen.Settled l.next := ⟨l.numbered, rfl⟩

end Acquire

@[simp] lemma next_release (l : Ledger κ) (i : ℕ) (k : κ) : (l.release i k).next = l.next := rfl

/-- A release strikes no entry but its own. -/
lemma mem_release_of_ne {l : Ledger κ} {i : ℕ} {k : κ} {p : ℕ × κ} (hne : p ≠ (i, k)) :
    p ∈ (l.release i k).live ↔ p ∈ l.live := List.mem_erase_of_ne hne

/-- A release is never without effect: it strikes an entry or is booked as wrong. -/
lemma release_ne (l : Ledger κ) (i : ℕ) (k : κ) : l.release i k ≠ l := by
  intro heq
  by_cases hmem : (i, k) ∈ l.live
  · have hlen : (l.live.erase (i, k)).length + 1 = l.live.length :=
      List.length_erase_add_one hmem
    have hlive : l.live.erase (i, k) = l.live := congrArg Ledger.live heq
    rw [hlive] at hlen
    omega
  · have hwrong : (l.release i k).wrong = i :: l.wrong := by simp [release, hmem]
    rw [heq] at hwrong
    exact List.cons_ne_self _ _ hwrong.symm

/-- What is held stays held when something else is released. -/
lemma Holds.release {l : Ledger κ} {i j : ℕ} {k k' : κ} (h : l.Holds i k)
    (hne : (i, k) ≠ (j, k')) : (l.release j k').Holds i k := by
  intro k''
  constructor
  · intro hmem
    exact (h k'').1 (List.mem_of_mem_erase hmem)
  · rintro rfl
    exact (mem_release_of_ne hne).2 h.mem

end Ledger

end KernelDriverLab.Lib
