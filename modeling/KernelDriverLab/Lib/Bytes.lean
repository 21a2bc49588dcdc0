import Mathlib.Data.List.Basic
import Mathlib.Tactic.Ring
import Mathlib.Tactic.Common

/-!
# Numbers and records as bytes

`leBytes n x` is the little-endian encoding of `x` in `n` bytes and `ofLeBytes`
the value of a list of bytes read in that order.  The two are inverse below
`256 ^ n`.  `ofBeBytes` reads a list of bytes in the opposite order.  `overwrite dst src` is
what `memcpy` leaves at the destination: the bytes copied, followed by what was behind them
before.
-/

namespace KernelDriverLab.Lib

/-- The `n` low-order bytes of `x`, the lowest first. -/
def leBytes : ℕ → ℕ → List UInt8
  | 0, _ => []
  | n + 1, x => UInt8.ofNat x :: leBytes n (x / 256)

/-- The number whose bytes, the lowest first, are those of the list. -/
def ofLeBytes : List UInt8 → ℕ
  | [] => 0
  | b :: bs => b.toNat + 256 * ofLeBytes bs

/-- The number whose bytes, the highest first, are those of the list. -/
def ofBeBytes (bs : List UInt8) : ℕ := bs.foldl (fun x b => 256 * x + b.toNat) 0

@[simp] lemma length_leBytes (n x : ℕ) : (leBytes n x).length = n := by
  induction n generalizing x with
  | zero => rfl
  | succ n ih => simp [leBytes, ih]

/-- Reading back an encoding gives the number, reduced to the bytes kept. -/
theorem ofLeBytes_leBytes (n x : ℕ) : ofLeBytes (leBytes n x) = x % 256 ^ n := by
  induction n generalizing x with
  | zero => simp [leBytes, ofLeBytes, Nat.mod_one]
  | succ n ih =>
    rw [leBytes, ofLeBytes, ih, pow_succ, Nat.mul_comm (256 ^ n) 256, Nat.mod_mul]
    simp

lemma ofLeBytes_leBytes_of_lt {n x : ℕ} (h : x < 256 ^ n) : ofLeBytes (leBytes n x) = x := by
  rw [ofLeBytes_leBytes, Nat.mod_eq_of_lt h]

/-- The 32-bit number at the front of a list of bytes. -/
def le32At (bs : List UInt8) : UInt32 := UInt32.ofNat (ofLeBytes (bs.take 4))

/-- A 32-bit number at the front of some bytes is read back unchanged. -/
@[simp] lemma le32At_leBytes_append (x : UInt32) (bs : List UInt8) :
    le32At (leBytes 4 x.toNat ++ bs) = x := by
  rw [le32At, List.take_left' (length_leBytes 4 _),
    ofLeBytes_leBytes_of_lt (show x.toNat < 256 ^ 4 from x.toNat_lt), UInt32.ofNat_toNat]

@[simp] lemma drop_leBytes_append (n x : ℕ) (bs : List UInt8) :
    (leBytes n x ++ bs).drop n = bs :=
  List.drop_left' (length_leBytes n x)

/-- A record that begins with three 32-bit numbers is read back field by field. -/
theorem words_of_append {bs rest : List UInt8} {x y z : UInt32}
    (h : bs = leBytes 4 x.toNat ++ (leBytes 4 y.toNat ++ (leBytes 4 z.toNat ++ rest))) :
    le32At bs = x ∧ le32At (bs.drop 4) = y ∧ le32At (bs.drop 8) = z ∧ bs.drop 12 = rest := by
  have h8 : bs.drop 8 = leBytes 4 z.toNat ++ rest := by
    rw [h, show 8 = 4 + 4 from rfl, ← List.drop_drop, drop_leBytes_append, drop_leBytes_append]
  refine ⟨by rw [h, le32At_leBytes_append], ?_, by rw [h8, le32At_leBytes_append], ?_⟩
  · rw [h, drop_leBytes_append, le32At_leBytes_append]
  · rw [show 12 = 8 + 4 from rfl, ← List.drop_drop, h8, drop_leBytes_append]

/-- The bytes at `dst` after the bytes `src` have been copied to its start. -/
def overwrite (dst src : List UInt8) : List UInt8 := src ++ dst.drop src.length

@[simp] lemma overwrite_nil (dst : List UInt8) : overwrite dst [] = dst := rfl

end KernelDriverLab.Lib
