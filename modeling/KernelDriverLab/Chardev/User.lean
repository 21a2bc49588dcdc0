import KernelDriverLab.Lib.Stream

/-!
# Strings and user memory

What the read and write handlers of the character devices are built from: C strings in
kernel memory and the two copies between kernel and user memory.  Kernel memory at a
pointer is the list of the bytes from there on.  A copy can end at a fault, after any
prefix; a copy from user memory may then clear some of the bytes behind it.
-/

namespace KernelDriverLab.Chardev

open Lib

def EFAULT : Int := 14
def ENOMEM : Int := 12
def EINVAL : Int := 22

/-- The C string in this memory. -/
def cString (mem : List UInt8) : List UInt8 := mem.takeWhile (· ≠ 0)

/-- `strlen`. -/
def strlen (mem : List UInt8) : ℕ := (cString mem).length

@[simp] lemma take_strlen (mem : List UInt8) : mem.take (strlen mem) = cString mem :=
  (List.prefix_iff_eq_take.1 (List.takeWhile_prefix _)).symm

/-- `copy_to_user` of `n` bytes, which faults after some of them or not at all: what it
stores, and whether all was stored. -/
def copyToUser (mem : List UInt8) (n : ℕ) (fault : Option ℕ) : List UInt8 × Bool :=
  match fault with
  | none => (mem.take n, true)
  | some k => if k < n then (mem.take k, false) else (mem.take n, true)

/-- `copy_from_user` of `n` bytes.  A fault after `k` bytes may leave up to `z` bytes
cleared behind them. -/
def copyFromUser (mem user : List UInt8) (n : ℕ) (fault : Option (ℕ × ℕ)) : List UInt8 × Bool :=
  match fault with
  | none => (overwrite mem (user.take n), true)
  | some (k, z) =>
      if k < n then
        (overwrite mem (user.take k ++ List.replicate (min z (n - k)) 0), false)
      else (overwrite mem (user.take n), true)

/-- The copy of `n` bytes from user memory ends at a fault. -/
def Faults (n : ℕ) : Option (ℕ × ℕ) → Prop
  | none => False
  | some (k, _) => k < n

instance (n : ℕ) : (fault : Option (ℕ × ℕ)) → Decidable (Faults n fault)
  | none => inferInstanceAs (Decidable False)
  | some (k, _) => inferInstanceAs (Decidable (k < n))

/-- The memory of a caller from the pointer on that it passes: the bytes that it offers, and
what lies behind them. -/
structure UserMem where
  offered : List UInt8
  behind : ℕ → UInt8

namespace UserMem

/-- The length that the caller passes. -/
def len (u : UserMem) : ℕ := u.offered.length

/-- The first `n` bytes from the pointer on. -/
def first (u : UserMem) (n : ℕ) : List UInt8 :=
  u.offered.take n ++ (List.range (n - u.len)).map u.behind

variable (u : UserMem) {n : ℕ}

@[simp] lemma length_first : (u.first n).length = n := by
  rw [first, List.length_append, List.length_take, List.length_map, List.length_range, len]
  omega

lemma first_of_le (h : n ≤ u.len) : u.first n = u.offered.take n := by
  rw [first, Nat.sub_eq_zero_of_le h, List.range_zero, List.map_nil, List.append_nil]

@[simp] lemma first_len : u.first u.len = u.offered := by
  rw [u.first_of_le le_rfl, len, List.take_length]

lemma first_len_succ : u.first (u.len + 1) = u.offered ++ [u.behind 0] := by
  have hall : u.offered.length ≤ u.len + 1 := Nat.le_succ _
  rw [first, Nat.add_sub_cancel_left, List.take_of_length_le hall]
  rfl

end UserMem

end KernelDriverLab.Chardev
