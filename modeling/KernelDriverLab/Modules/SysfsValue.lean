import KernelDriverLab.Chardev.User
import KernelDriverLab.Lib.Decimal

/-!
# The sysfs file

`sysfs_show` and `sysfs_store` are the same in ten of the modules: `sprintf` and `sscanf` with
`"%d"` on the static `kobj_value`.  `sscanf` skips blanks, reads digits with an optional `-`
before them, and stores the number cut to an `int`; what is no number leaves `kobj_value` as it
was, and the store reports success all the same.  sysfs puts a 0 behind what the user writes.
-/

namespace KernelDriverLab.SysfsValue

open Lib Chardev

/-- `isspace` of the kernel. -/
def isSpace (b : UInt8) : Bool := (9 ≤ b && b ≤ 13) || b == 32 || b == 160

/-- `sscanf(buff, "%d", ..)` -/
def sscanf (buff : List UInt8) : Option Int := scanInt ((cString buff).dropWhile isSpace)

/-- `sysfs_show`: what `sprintf` puts into the buffer. -/
def sysfsShow (kobjValue : BitVec 32) : List UInt8 := showInt kobjValue.toInt

/-- `sysfs_store`: the value returned, and `kobj_value` afterwards. -/
def sysfsStore (kobjValue : BitVec 32) (buff : List UInt8) (count : ℕ) : ℕ × BitVec 32 :=
  match sscanf buff with
  | some x => (count, .ofInt 32 x)
  | none => (count, kobjValue)

/-- A read or a write of the file. -/
inductive Call where
  | read
  | write (user : List UInt8)

/-- `kobj_value` after a call. -/
def after (kobjValue : BitVec 32) : Call → BitVec 32
  | .read => kobjValue
  | .write user => (sysfsStore kobjValue (user ++ [0]) user.length).2

/-- `kobj_value` after some calls; it begins with 10. -/
def afterCalls (calls : List Call) : BitVec 32 := calls.foldl after 10

/-- What a call stores, if anything. -/
def Call.stored : Call → Option (BitVec 32)
  | read => none
  | write user => (sscanf (user ++ [0])).map (BitVec.ofInt 32)

lemma after_eq (v : BitVec 32) (c : Call) : after v c = c.stored.getD v := by
  cases c with
  | read => rfl
  | write user =>
    rw [after, sysfsStore, Call.stored]
    cases sscanf (user ++ [0]) <;> rfl

/-! ## Text -/

section Text

variable {blanks s rest : List UInt8} {x : Int}

lemma isSpace_of_digit {b : UInt8} (h : (readDigit b).isSome) : b ≠ 0 ∧ isSpace b = false := by
  obtain ⟨d, hd⟩ := Option.isSome_iff_exists.1 h
  obtain ⟨hlt, rfl⟩ := readDigit_eq_some_iff.1 hd
  have hall : ∀ d < 10, digit d ≠ 0 ∧ isSpace (digit d) = false := by decide
  exact hall d hlt

/-- A number has no 0 and no blanks in it. -/
lemma no_space_of_intText (h : IntText s x) : ∀ b ∈ s, b ≠ 0 ∧ isSpace b = false := by
  cases h with
  | plain hs => exact fun b hb => isSpace_of_digit (hs.isSome b hb)
  | plus hs | minus hs =>
    intro b hb
    rcases List.mem_cons.1 hb with rfl | hb
    · decide
    · exact isSpace_of_digit (hs.isSome b hb)

/-- `sscanf` finds a number behind blanks, whatever follows it. -/
lemma sscanf_text (hblanks : ∀ b ∈ blanks, isSpace b = true) (hs : IntText s x)
    (hplus : s.head? ≠ some 43) (hrest : NoDigit rest) :
    sscanf (blanks ++ s ++ rest ++ [0]) = some x := by
  have hfront : ∀ b ∈ blanks ++ s, decide (b ≠ 0) = true := by
    intro b hb
    rcases List.mem_append.1 hb with hb | hb
    · refine decide_eq_true fun hzero => ?_
      have hspace := hblanks b hb
      rw [hzero] at hspace
      exact absurd hspace (by decide)
    · exact decide_eq_true (no_space_of_intText hs b hb).1
  have hstring : cString (blanks ++ s ++ rest ++ [0]) =
      blanks ++ (s ++ cString (rest ++ [0])) := by
    rw [cString, List.append_assoc, List.takeWhile_append_of_pos hfront, List.append_assoc]
    rfl
  have hdrop : (blanks ++ (s ++ cString (rest ++ [0]))).dropWhile isSpace =
      s ++ cString (rest ++ [0]) := by
    rw [List.dropWhile_append_of_pos hblanks]
    obtain ⟨b, t, rfl⟩ := List.exists_cons_of_ne_nil hs.ne_nil
    have hb := (no_space_of_intText hs b List.mem_cons_self).2
    simp [hb]
  have hbehind : NoDigit (cString (rest ++ [0])) := by
    intro b hb
    cases rest with
    | nil => simp [cString] at hb
    | cons b' rest =>
      rw [cString, List.cons_append, List.takeWhile_cons] at hb
      split_ifs at hb
      · exact hrest b hb
      · simp at hb
  rw [sscanf, hstring, hdrop]
  exact hs.scanInt hplus hbehind

lemma afterCalls_text (hblanks : ∀ b ∈ blanks, isSpace b = true) (hs : IntText s x)
    (hplus : s.head? ≠ some 43) (hrest : NoDigit rest) (calls : List Call) :
    afterCalls (calls ++ [.write (blanks ++ s ++ rest)]) = .ofInt 32 x := by
  rw [afterCalls, List.foldl_append, ← afterCalls, List.foldl_cons, List.foldl_nil, after_eq,
    Call.stored, sscanf_text hblanks hs hplus hrest]
  rfl

/-- **A number is kept exactly when it is an `int`.** After any calls and a write of a number,
behind blanks and before whatever is no digit, the file says this number if it lies in the range
of `int`, and another one if it does not. -/
theorem text_kept_iff (hblanks : ∀ b ∈ blanks, isSpace b = true) (hs : IntText s x)
    (hplus : s.head? ≠ some 43) (hrest : NoDigit rest) (calls : List Call) :
    sysfsShow (afterCalls (calls ++ [.write (blanks ++ s ++ rest)])) = showInt x ↔
      -2 ^ 31 ≤ x ∧ x < 2 ^ 31 := by
  rw [afterCalls_text hblanks hs hplus hrest, sysfsShow]
  constructor
  · intro h
    have hlow := BitVec.le_toInt (BitVec.ofInt 32 x)
    have hhigh := BitVec.toInt_lt (x := BitVec.ofInt 32 x)
    rw [showInt_injective h] at hlow hhigh
    exact ⟨hlow, hhigh⟩
  · rintro ⟨hlow, hhigh⟩
    rw [BitVec.toInt_ofInt_eq_self (by decide) hlow hhigh]

lemma noDigit_newline : NoDigit [10] := by
  intro b hb
  obtain rfl := Option.mem_some_iff.1 hb
  rfl

/-- -7 is kept, and 2^32 + 7 is not. -/
theorem text_kept_iff_seven :
    sysfsShow (afterCalls ([.write [49]] ++ [.write ([32] ++ showInt (-7) ++ [10])])) =
        showInt (-7) ∧
      sysfsShow (afterCalls ([.write [49]] ++ [.write ([32] ++ showInt 4294967303 ++ [10])])) ≠
        showInt 4294967303 := by
  have hblanks : ∀ b ∈ ([32] : List UInt8), isSpace b = true := by
    intro b hb
    obtain rfl := List.mem_singleton.1 hb
    rfl
  constructor
  · have hiff := text_kept_iff hblanks (intText_showInt (-7)) (head_showInt (-7)) noDigit_newline
      [.write [49]]
    exact hiff.2 (by decide)
  · intro h
    have hiff := text_kept_iff hblanks (intText_showInt 4294967303) (head_showInt 4294967303)
      noDigit_newline [.write [49]]
    exact absurd (hiff.1 h) (by decide)

/-- **What was read can be written back.** The text of the file, with whatever is no digit behind
it, restores what the file says, after any other calls. -/
theorem written_back (hrest : NoDigit rest) (calls calls' : List Call) :
    sysfsShow (afterCalls (calls' ++ [.write (sysfsShow (afterCalls calls) ++ rest)])) =
      sysfsShow (afterCalls calls) := by
  have hblanks : ∀ b ∈ ([] : List UInt8), isSpace b = true := fun b hb => by cases hb
  have h := afterCalls_text hblanks (intText_showInt (afterCalls calls).toInt) (head_showInt _)
    hrest calls'
  rw [List.nil_append, BitVec.ofInt_toInt] at h
  exact congrArg sysfsShow h

theorem written_back_ten :
    sysfsShow (afterCalls ([.write [53]] ++ [.write (sysfsShow (afterCalls []) ++ [10])])) =
      [49, 48] :=
  (written_back noDigit_newline [] [.write [53]]).trans (by decide)

end Text

end KernelDriverLab.SysfsValue
