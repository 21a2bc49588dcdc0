import Mathlib.Data.List.Basic
import Mathlib.Data.List.Induction
import Mathlib.Tactic.Common

/-!
# Decimal numbers as text

`Decimal lo hi s x` says that the bytes `s` are the text of the integer `x`, which lies between
`lo` and `hi`: an optional sign, decimal digits, and an optional newline behind them.
`readDecimal` reads such a text, and `readDecimal_eq_some_iff` says that it reads nothing else.
-/

namespace KernelDriverLab.Lib

/-- The character of a digit. -/
def digit (d : ℕ) : UInt8 := UInt8.ofNat (48 + d)

/-- Digits, the most significant one first, and the number they say. -/
inductive NatText : List UInt8 → ℕ → Prop where
  | single {d : ℕ} (hd : d < 10) : NatText [digit d] d
  | append {s : List UInt8} {n d : ℕ} (hs : NatText s n) (hd : d < 10) :
      NatText (s ++ [digit d]) (10 * n + d)

/-- Digits with an optional sign before them. -/
inductive IntText : List UInt8 → Int → Prop where
  | plain {s : List UInt8} {n : ℕ} (hs : NatText s n) : IntText s n
  | plus {s : List UInt8} {n : ℕ} (hs : NatText s n) : IntText (43 :: s) n
  | minus {s : List UInt8} {n : ℕ} (hs : NatText s n) : IntText (45 :: s) (-n)

/-- An integer with an optional newline behind it. -/
inductive IntLine : List UInt8 → Int → Prop where
  | bare {s : List UInt8} {x : Int} (hs : IntText s x) : IntLine s x
  | newline {s : List UInt8} {x : Int} (hs : IntText s x) : IntLine (s ++ [10]) x

/-- The text of an integer in a range. -/
structure Decimal (lo hi : Int) (s : List UInt8) (x : Int) : Prop where
  line : IntLine s x
  ge : lo ≤ x
  le : x ≤ hi

/-! ## Reading -/

/-- The value of a digit. -/
def readDigit (b : UInt8) : Option ℕ :=
  if 48 ≤ b.toNat ∧ b.toNat < 58 then some (b.toNat - 48) else none

/-- Read digits behind others that have said `n`. -/
def readDigits (n : ℕ) : List UInt8 → Option ℕ
  | [] => some n
  | b :: s => match readDigit b with
    | none => none
    | some d => readDigits (10 * n + d) s

/-- The number that some digits are. -/
def readNat (s : List UInt8) : Option ℕ := if s = [] then none else readDigits 0 s

/-- Digits, with an optional sign. -/
def readInt : List UInt8 → Option Int
  | [] => none
  | b :: s =>
      if b = 43 then (readNat s).map fun n : ℕ => (n : Int)
      else if b = 45 then (readNat s).map fun n : ℕ => -(n : Int)
      else (readNat (b :: s)).map fun n : ℕ => (n : Int)

/-- A number with an optional line end. -/
def readLine (s : List UInt8) : Option Int :=
  if s.getLast? = some 10 then readInt s.dropLast else readInt s

/-- A number within bounds. -/
def readDecimal (lo hi : Int) (s : List UInt8) : Option Int :=
  (readLine s).filter fun x => lo ≤ x ∧ x ≤ hi

section Digits

variable {s s' : List UInt8} {b : UInt8} {n d : ℕ} {x : Int}

lemma toNat_digit (hd : d < 10) : (digit d).toNat = 48 + d := by
  rw [digit, UInt8.toNat_ofNat']
  omega

lemma readDigit_digit (hd : d < 10) : readDigit (digit d) = some d := by
  rw [readDigit, toNat_digit hd, if_pos (by omega), Nat.add_sub_cancel_left]

lemma readDigit_eq_some_iff : readDigit b = some d ↔ d < 10 ∧ b = digit d := by
  constructor
  · intro h
    rw [readDigit] at h
    split_ifs at h with hb
    obtain rfl := Option.some.inj h
    have hd : b.toNat - 48 < 10 := by omega
    refine ⟨hd, UInt8.toNat_inj.1 ?_⟩
    rw [toNat_digit hd]
    omega
  · rintro ⟨hd, rfl⟩
    exact readDigit_digit hd

lemma readDigits_append (n : ℕ) (s s' : List UInt8) :
    readDigits n (s ++ s') = (readDigits n s).bind fun m => readDigits m s' := by
  induction s generalizing n with
  | nil => rfl
  | cons b s ih =>
    rw [List.cons_append, readDigits, readDigits]
    cases readDigit b with
    | none => rfl
    | some d => exact ih _

lemma readDigits_single (hd : d < 10) : readDigits n [digit d] = some (10 * n + d) := by
  rw [readDigits, readDigit_digit hd]
  rfl

/-- Text ends with a digit. -/
lemma NatText.getLast? (h : NatText s n) : ∃ d < 10, s.getLast? = some (digit d) := by
  cases h with
  | single hd => exact ⟨_, hd, rfl⟩
  | append hs hd => exact ⟨_, hd, List.getLast?_concat⟩

lemma NatText.ne_nil (h : NatText s n) : s ≠ [] := by
  rintro rfl
  obtain ⟨d, -, hlast⟩ := h.getLast?
  cases hlast

lemma NatText.readDigits (h : NatText s n) : readDigits 0 s = some n := by
  induction h with
  | single hd => rw [readDigits_single hd, Nat.mul_zero, Nat.zero_add]
  | append hs hd ih => rw [readDigits_append, ih, Option.bind_some, readDigits_single hd]

/-- What is read as digits is their text. -/
lemma natText_of_readDigits (hne : s ≠ []) (h : readDigits 0 s = some n) : NatText s n := by
  induction s using List.reverseRecOn generalizing n with
  | nil => exact absurd rfl hne
  | append_singleton s b ih =>
    rw [readDigits_append] at h
    obtain ⟨m, hm, hlast⟩ := Option.bind_eq_some_iff.1 h
    rw [Lib.readDigits] at hlast
    cases hb : readDigit b with
    | none => simp [hb] at hlast
    | some d =>
      obtain ⟨hd, rfl⟩ := readDigit_eq_some_iff.1 hb
      rw [hb] at hlast
      obtain rfl := Option.some.inj hlast
      by_cases hs : s = []
      · subst hs
        obtain rfl : 0 = m := Option.some.inj hm
        rw [Nat.mul_zero, Nat.zero_add]
        exact .single hd
      · exact .append (ih hs hm) hd

lemma readNat_eq_some_iff : readNat s = some n ↔ NatText s n := by
  rw [readNat]
  constructor
  · intro h
    split_ifs at h with hs
    exact natText_of_readDigits hs h
  · intro h
    rw [if_neg h.ne_nil, h.readDigits]

/-! ## Signs and newlines -/

/-- Text begins with a digit. -/
lemma NatText.head (h : NatText (b :: s) n) : 48 ≤ b.toNat := by
  have hread := h.readDigits
  rw [Lib.readDigits] at hread
  cases hb : readDigit b with
  | none => simp [hb] at hread
  | some d =>
    obtain ⟨hd, rfl⟩ := readDigit_eq_some_iff.1 hb
    rw [toNat_digit hd]
    omega

lemma readInt_eq_some_iff : readInt s = some x ↔ IntText s x := by
  constructor
  · intro h
    cases s with
    | nil => cases h
    | cons b s =>
      rw [readInt] at h
      split_ifs at h with hplus hminus
      · obtain ⟨n, hn, rfl⟩ := Option.map_eq_some_iff.1 h
        rw [hplus]
        exact .plus (readNat_eq_some_iff.1 hn)
      · obtain ⟨n, hn, rfl⟩ := Option.map_eq_some_iff.1 h
        rw [hminus]
        exact .minus (readNat_eq_some_iff.1 hn)
      · obtain ⟨n, hn, rfl⟩ := Option.map_eq_some_iff.1 h
        exact .plain (readNat_eq_some_iff.1 hn)
  · intro h
    cases h with
    | plus hs => rw [readInt, if_pos rfl, readNat_eq_some_iff.2 hs, Option.map_some]
    | minus hs =>
      rw [readInt, if_neg (by decide), if_pos rfl, readNat_eq_some_iff.2 hs, Option.map_some]
    | plain hs =>
      cases s with
      | nil => exact absurd rfl hs.ne_nil
      | cons b s =>
        -- a digit is no sign
        have hb := hs.head
        have hplus : b ≠ 43 := by
          rintro rfl
          exact absurd hb (by decide)
        have hminus : b ≠ 45 := by
          rintro rfl
          exact absurd hb (by decide)
        rw [readInt, if_neg hplus, if_neg hminus, readNat_eq_some_iff.2 hs, Option.map_some]

lemma IntText.ne_nil (h : IntText s x) : s ≠ [] := by
  cases h with
  | plain hs => exact hs.ne_nil
  | plus hs | minus hs => exact List.cons_ne_nil _ _

/-- An integer does not end with a newline. -/
lemma IntText.getLast?_ne (h : IntText s x) : s.getLast? ≠ some 10 := by
  have hdigit {t : List UInt8} {n : ℕ} (ht : NatText t n) : t.getLast? ≠ some 10 := by
    obtain ⟨d, hd, hlast⟩ := ht.getLast?
    intro h10
    rw [hlast, Option.some_inj] at h10
    have htoNat := congrArg UInt8.toNat h10
    rw [toNat_digit hd] at htoNat
    exact absurd htoNat (by simp; omega)
  cases h with
  | plain hs => exact hdigit hs
  | plus hs | minus hs =>
    rw [List.getLast?_cons_of_ne_nil hs.ne_nil]
    exact hdigit hs

lemma readLine_eq_some_iff : readLine s = some x ↔ IntLine s x := by
  rw [readLine]
  constructor
  · intro h
    split_ifs at h with hlast
    · have hs : s.dropLast ++ [10] = s := by
        obtain ⟨front, rfl⟩ := List.getLast?_eq_some_iff.1 hlast
        rw [List.dropLast_concat]
      rw [← hs]
      exact .newline (readInt_eq_some_iff.1 h)
    · exact .bare (readInt_eq_some_iff.1 h)
  · intro h
    cases h with
    | bare hs => rw [if_neg hs.getLast?_ne, readInt_eq_some_iff.2 hs]
    | newline hs =>
      rw [if_pos List.getLast?_concat, List.dropLast_concat, readInt_eq_some_iff.2 hs]

/-- **The reader and the text agree.** -/
theorem readDecimal_eq_some_iff {lo hi : Int} :
    readDecimal lo hi s = some x ↔ Decimal lo hi s x := by
  rw [readDecimal, Option.filter_eq_some_iff, readLine_eq_some_iff]
  constructor
  · rintro ⟨hline, hrange⟩
    obtain ⟨hge, hle⟩ := of_decide_eq_true hrange
    exact ⟨hline, hge, hle⟩
  · rintro ⟨hline, hge, hle⟩
    exact ⟨hline, decide_eq_true ⟨hge, hle⟩⟩

/-! ## Reading what text begins with -/

/-- Read the digits at the front. -/
def scanNat (s : List UInt8) : Option ℕ := readNat (s.takeWhile fun b => (readDigit b).isSome)

/-- Read an integer at the front, of which only the sign `-` is understood. -/
def scanInt : List UInt8 → Option Int
  | [] => none
  | b :: s =>
      if b = 45 then (scanNat s).map fun n : ℕ => -(n : Int)
      else (scanNat (b :: s)).map fun n : ℕ => (n : Int)

/-- The text begins with no digit. -/
def NoDigit (s : List UInt8) : Prop := ∀ b ∈ s.head?, readDigit b = none

lemma NatText.isSome (h : NatText s n) : ∀ b ∈ s, (readDigit b).isSome := by
  induction h with
  | single hd =>
    intro b hb
    rw [List.mem_singleton.1 hb, readDigit_digit hd]
    rfl
  | append hs hd ih =>
    intro b hb
    rcases List.mem_append.1 hb with hb | hb
    · exact ih b hb
    · rw [List.mem_singleton.1 hb, readDigit_digit hd]
      rfl

lemma NatText.scanNat (h : NatText s n) (hrest : NoDigit s') : scanNat (s ++ s') = some n := by
  have hstop : s'.takeWhile (fun b => (readDigit b).isSome) = [] := by
    cases s' with
    | nil => rfl
    | cons b s' => simp [hrest b rfl]
  rw [Lib.scanNat, List.takeWhile_append_of_pos h.isSome, hstop, List.append_nil]
  exact readNat_eq_some_iff.2 h

/-- **What follows a number is not looked at.** -/
lemma IntText.scanInt (h : IntText s x) (hplus : s.head? ≠ some 43) (hrest : NoDigit s') :
    scanInt (s ++ s') = some x := by
  cases h with
  | plus hs => exact absurd rfl hplus
  | minus hs => rw [List.cons_append, Lib.scanInt, if_pos rfl, hs.scanNat hrest, Option.map_some]
  | plain hs =>
    have hscan := hs.scanNat hrest
    cases s with
    | nil => exact absurd rfl hs.ne_nil
    | cons b s =>
      have hb := hs.head
      have hminus : b ≠ 45 := by
        rintro rfl
        exact absurd hb (by decide)
      rw [List.cons_append] at hscan ⊢
      rw [Lib.scanInt, if_neg hminus, hscan, Option.map_some]

end Digits

/-! ## Printing -/

/-- The digits of a number below `k`. -/
def showBelow : ℕ → ℕ → List UInt8
  | 0, _ => []
  | k + 1, n => if n < 10 then [digit n] else showBelow k (n / 10) ++ [digit (n % 10)]

/-- The digits of a number. -/
def showNat (n : ℕ) : List UInt8 := showBelow (n + 1) n

/-- The digits of a number, with its sign. -/
def showInt : Int → List UInt8
  | .ofNat n => showNat n
  | .negSucc n => 45 :: showNat (n + 1)

lemma natText_showBelow {k n : ℕ} (h : n < k) : NatText (showBelow k n) n := by
  induction k generalizing n with
  | zero => omega
  | succ k ih =>
    rw [showBelow]
    split_ifs with hsmall
    · exact .single hsmall
    · have htext := NatText.append (ih (n := n / 10) (by omega)) (Nat.mod_lt n (by decide : 10 > 0))
      rwa [Nat.div_add_mod] at htext

lemma natText_showNat (n : ℕ) : NatText (showNat n) n := natText_showBelow (Nat.lt_succ_self n)

lemma intText_showInt (x : Int) : IntText (showInt x) x := by
  cases x with
  | ofNat n => exact .plain (natText_showNat n)
  | negSucc n => exact .minus (natText_showNat (n + 1))

/-- No `+` is printed. -/
lemma head_showInt (x : Int) : (showInt x).head? ≠ some 43 := by
  cases x with
  | ofNat n =>
    intro h
    have htext : NatText (showNat n) n := natText_showNat n
    rw [showInt] at h
    obtain ⟨s, hs⟩ := List.head?_eq_some_iff.1 h
    rw [hs] at htext
    exact absurd htext.head (by decide)
  | negSucc n => simp [showInt]

lemma showInt_injective {x y : Int} (h : showInt x = showInt y) : x = y := by
  have hx := readInt_eq_some_iff.2 (intText_showInt x)
  rw [h, readInt_eq_some_iff.2 (intText_showInt y)] at hx
  exact (Option.some.inj hx).symm

end KernelDriverLab.Lib
