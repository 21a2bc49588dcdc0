import Mathlib.Data.Nat.ModEq
import Mathlib.Tactic.Common

/-!
# Sequence locks

The number of a sequence lock is odd while a writer is in its section.  A reader begins when
the number is even and keeps what it has read only if the number is still the same at the end.

`History l b e` says that `b` sections have begun and `e` have ended: the number is `b + e`,
as far as its width goes.  A reader that began when `c` sections had ended is therefore let
through exactly when nobody is in a section and the sections since then are a multiple of
half the range of the number (`retry_eq_false_iff`).  When they are fewer than that, there
were none (`History.quiet`), and everything it has read is of the same version.
-/

namespace KernelDriverLab.Lib

/-- A sequence lock with a number of `n + 1` bits. -/
structure SeqLock (n : ℕ) where
  sequence : BitVec (n + 1)
  /-- A writer is in its section. -/
  locked : Bool
deriving DecidableEq, Repr

namespace SeqLock

variable {n : ℕ}

/-- `seqlock_init` -/
def init : SeqLock n := ⟨0, false⟩

/-- `write_seqlock` -/
def writeLock (l : SeqLock n) : SeqLock n := ⟨l.sequence + 1, true⟩

/-- `write_sequnlock` -/
def writeUnlock (l : SeqLock n) : SeqLock n := ⟨l.sequence + 1, false⟩

/-- `read_seqbegin` returns: the number is even. -/
def readable (l : SeqLock n) : Bool := l.sequence.toNat % 2 == 0

/-- `read_seqretry` -/
def retry (l : SeqLock n) (start : BitVec (n + 1)) : Bool := l.sequence != start

/-- The number after `b` sections have begun and `e` have ended. -/
structure History (l : SeqLock n) (b e : ℕ) : Prop where
  sequence : l.sequence = .ofNat (n + 1) (b + e)
  sections : b = if l.locked then e + 1 else e

variable {l : SeqLock n} {b e c : ℕ}

lemma history_init : History (init : SeqLock n) 0 0 := ⟨rfl, rfl⟩

namespace History

lemma ended_le (h : History l b e) : e ≤ b := by
  have hb := h.sections
  split_ifs at hb <;> omega

lemma begun_le (h : History l b e) : b ≤ e + 1 := by
  have hb := h.sections
  split_ifs at hb <;> omega

lemma writeLock (h : History l b e) (hfree : l.locked = false) :
    History l.writeLock (b + 1) e where
  sequence := by
    rw [SeqLock.writeLock, h.sequence, Nat.add_right_comm, BitVec.ofNat_add (b + e) 1]
    rfl
  sections := by
    have hb := h.sections
    rw [hfree] at hb
    simpa [SeqLock.writeLock] using hb

lemma writeUnlock (h : History l b e) (hlocked : l.locked = true) :
    History l.writeUnlock b (e + 1) where
  sequence := by
    rw [SeqLock.writeUnlock, h.sequence, ← Nat.add_assoc, BitVec.ofNat_add (b + e) 1]
    rfl
  sections := by
    have hb := h.sections
    rw [hlocked] at hb
    simpa [SeqLock.writeUnlock] using hb

/-- The width of the number does not change its parity. -/
lemma readable_iff (h : History l b e) : l.readable = true ↔ b = e := by
  have hle := h.ended_le
  have hge := h.begun_le
  have hdvd : 2 ∣ 2 ^ (n + 1) := Dvd.intro_left (2 ^ n) (Nat.pow_succ ..).symm
  rw [readable, h.sequence, BitVec.toNat_ofNat, Nat.mod_mod_of_dvd _ hdvd, beq_iff_eq]
  constructor <;> intro hb <;> omega

/-- **A reader is let through** exactly when nobody is in a section and the number has come
round to where it was. -/
theorem retry_eq_false_iff (h : History l b e) (hc : c ≤ e) :
    l.retry (.ofNat (n + 1) (2 * c)) = false ↔ b = e ∧ 2 ^ n ∣ e - c := by
  have hle := h.ended_le
  have hge := h.begun_le
  have hpow : 2 ^ (n + 1) = 2 * 2 ^ n := Nat.pow_succ'
  rw [retry, bne_eq_false_iff_eq, h.sequence, BitVec.toNat_eq, BitVec.toNat_ofNat,
    BitVec.toNat_ofNat, hpow, eq_comm]
  change 2 * c ≡ b + e [MOD 2 * 2 ^ n] ↔ _
  rw [Nat.modEq_iff_dvd' (by omega)]
  constructor
  · intro hdvd
    -- the difference is even
    have heven : 2 ∣ b + e - 2 * c := Nat.dvd_trans (Nat.dvd_mul_right 2 _) hdvd
    obtain rfl : b = e := by omega
    have hsub : b + b - 2 * c = 2 * (b - c) := by omega
    rw [hsub] at hdvd
    exact ⟨rfl, Nat.dvd_of_mul_dvd_mul_left Nat.zero_lt_two hdvd⟩
  · rintro ⟨rfl, hdvd⟩
    have hsub : b + b - 2 * c = 2 * (b - c) := by omega
    rw [hsub]
    exact Nat.mul_dvd_mul_left 2 hdvd

/-- A reader that is let through before the number can have come round was alone. -/
lemma quiet (h : History l b e) (hc : c ≤ e) (hfew : e - c < 2 ^ n)
    (hpass : l.retry (.ofNat (n + 1) (2 * c)) = false) : b = c ∧ e = c := by
  obtain ⟨rfl, hdvd⟩ := (h.retry_eq_false_iff hc).1 hpass
  have hzero : b - c = 0 := Nat.eq_zero_of_dvd_of_lt hdvd hfew
  omega

end History

end SeqLock

end KernelDriverLab.Lib
