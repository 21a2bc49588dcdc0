import KernelDriverLab.Chardev.Buffer
import KernelDriverLab.Lib.System

/-!
# The LED of gpio.c

`g_write` sets the LED by an integer that the caller gives, and `g_read` delivers the level.
The handler always copies the four bytes of an `int` and always returns 4, whatever the caller
has offered; and when the copy faults it only says so in the log and goes on with what is in
its local variable.  The level follows the writes as long as every write has four bytes and its
copy does not fault.
-/

namespace KernelDriverLab.Gpio

open Lib Chardev

/-- `led_desc` after `gpio_init` has succeeded, which leaves it not NULL. -/
structure State where
  level : Bool
deriving DecidableEq, Repr

/-- `gpiod_set_value(led_desc, value)` -/
def State.gpiodSetValue (_s : State) (value : ℕ) : State := ⟨decide (value ≠ 0)⟩

/-- `gpiod_get_value(led_desc)` -/
def State.gpiodGetValue (s : State) : UInt8 := if s.level then 1 else 0

/-- What a call of `g_write` does. -/
structure Written where
  ret : Int
  /-- How many bytes it asks for from the memory of the caller. -/
  asked : ℕ
  state : State
deriving DecidableEq, Repr

/-- `sizeof(int)` -/
def intSize : ℕ := 4

/-- `g_write`, whose local variable holds `value` before the copy.  What it stores in `len`
afterwards is not used. -/
def gWrite (s : State) (u : UserMem) (value : UInt32) (fault : Option (ℕ × ℕ)) : Written :=
  let mem := (copyFromUser (leBytes intSize value.toNat) (u.first intSize) intSize fault).1
  if le32At mem = 1 then ⟨intSize, intSize, s.gpiodSetValue 1⟩
  else ⟨intSize, intSize, s.gpiodSetValue 0⟩

/-- `g_read`, which does not move the position. -/
def gRead (s : State) (_len offset : ℕ) (fault : Option ℕ) : Reply :=
  match copyToUser [s.gpiodGetValue] 1 fault with
  | (stored, false) => ⟨-1, stored, offset⟩
  | (stored, true) => ⟨1, stored, offset⟩

/-! ## Runs -/

/-- A call of `g_write` or `g_read`. -/
inductive Call where
  | write (u : UserMem) (value : UInt32) (fault : Option (ℕ × ℕ))
  | read (len offset : ℕ) (fault : Option ℕ)

/-- The LED, and the integer that the last write has given that returned no error; the handlers
do not look at the integer. -/
structure World where
  led : State
  given : Option UInt32

/-- The world after a call. -/
def Call.after (w : World) : Call → World
  | .write u value fault =>
      let r := gWrite w.led u value fault
      ⟨r.state, if r.ret < 0 then w.given else some (le32At u.offered)⟩
  | .read _ _ _ => w

/-- After `gpiod_direction_output(led_desc, 0)`. -/
def World.loaded : World := ⟨⟨false⟩, none⟩

/-- The runs of the module. -/
def system : System World Call where
  Init w := w = .loaded
  next w c := some (c.after w)

/-- A write uses no more than it was offered and says so, or fails and leaves the LED; a read
delivers whether the integer given last was 1. -/
def Follows (w : World) : Call → Prop
  | .write u value fault =>
      (gWrite w.led u value fault).asked ≤ u.len ∧
      (gWrite w.led u value fault).ret ≤ u.len ∧
      (Faults (gWrite w.led u value fault).asked fault →
        (gWrite w.led u value fault).ret < 0 ∧ (gWrite w.led u value fault).state = w.led)
  | .read len offset fault =>
      (gRead w.led len offset fault).ret < 0 ∨
        gRead w.led len offset fault =
          ⟨1, [if w.given = some 1 then 1 else 0], offset⟩

/-- A write offers the bytes of an integer, and they can be read. -/
def Call.Complete : Call → Prop
  | .write u _ fault => intSize ≤ u.len ∧ ¬ Faults intSize fault
  | .read _ _ _ => True

instance : (c : Call) → Decidable c.Complete
  | .write _ _ _ => inferInstanceAs (Decidable (_ ∧ _))
  | .read _ _ _ => inferInstanceAs (Decidable True)

/-! ## The level -/

variable {w w' : World} {c : Call}

/-- The LED is on when the integer given last was 1. -/
def Lit (w : World) : Prop := w.led.level = decide (w.given = some 1)

lemma ret_gWrite (s : State) (u : UserMem) (value : UInt32) (fault : Option (ℕ × ℕ)) :
    (gWrite s u value fault).ret = intSize ∧ (gWrite s u value fault).asked = intSize := by
  rw [gWrite]
  split_ifs <;> exact ⟨rfl, rfl⟩

/-- A write of a whole integer sets the LED by it. -/
lemma state_gWrite (s : State) {u : UserMem} (hlen : intSize ≤ u.len) (value : UInt32)
    {fault : Option (ℕ × ℕ)} (hfault : ¬ Faults intSize fault) :
    (gWrite s u value fault).state.level = decide (le32At u.offered = 1) := by
  have hall : (u.first intSize).take intSize = u.offered.take intSize := by
    rw [u.first_of_le hlen, List.take_take, Nat.min_self]
  have hsrc : (u.offered.take intSize).length = intSize := by
    rw [List.length_take]
    exact min_eq_left hlen
  have hfront : (overwrite (leBytes intSize value.toNat) (u.offered.take intSize)).take 4 =
      u.offered.take 4 := List.take_left' hsrc
  have hvalue : le32At (overwrite (leBytes intSize value.toNat) (u.offered.take intSize)) =
      le32At u.offered := by
    rw [le32At, le32At, hfront]
  rw [gWrite, copyFromUser_eq, fromUser_of_not_faults hfault, hall]
  dsimp only
  rw [hvalue]
  split_ifs with hone <;> simp [State.gpiodSetValue, hone]

lemma lit_after (hw : Lit w) (hc : c.Complete) : Lit (c.after w) := by
  cases c with
  | write u value fault =>
    obtain ⟨hlen, hfault⟩ := hc
    have hret : ¬ (gWrite w.led u value fault).ret < 0 := by
      rw [(ret_gWrite _ _ _ _).1]
      decide
    rw [Lit, Call.after, if_neg hret, state_gWrite w.led hlen value hfault]
    simp
  | read len offset fault => exact hw

/-- What is delivered is the level. -/
lemma follows_read (hw : Lit w) (len offset : ℕ) (fault : Option ℕ) :
    Follows w (.read len offset fault) := by
  have hvalue : w.led.gpiodGetValue = if w.given = some 1 then 1 else 0 := by
    rw [State.gpiodGetValue, show w.led.level = decide (w.given = some 1) from hw]
    simp
  have hcopy : copyToUser [w.led.gpiodGetValue] 1 fault = ([w.led.gpiodGetValue], true) ∨
      (copyToUser [w.led.gpiodGetValue] 1 fault).2 = false := by
    rcases fault with _ | k
    · exact .inl rfl
    · rw [copyToUser]
      split_ifs
      · exact .inr rfl
      · exact .inl rfl
  rw [Follows, gRead]
  rcases hcopy with hcopy | hcopy
  · rw [hcopy, ← hvalue]
    exact .inr rfl
  · revert hcopy
    rcases copyToUser [w.led.gpiodGetValue] 1 fault with ⟨stored, ok⟩
    rintro rfl
    exact .inl (show (-1 : Int) < 0 by decide)

lemma follows_iff (hw : Lit w) : Follows w c ↔ c.Complete := by
  cases c with
  | write u value fault =>
    obtain ⟨hret, hasked⟩ := ret_gWrite w.led u value fault
    rw [Follows, hret, hasked, Call.Complete]
    constructor
    · rintro ⟨hlen, -, hfails⟩
      refine ⟨hlen, fun hfault => ?_⟩
      exact absurd (hfails hfault).1 (by decide)
    · rintro ⟨hlen, hfault⟩
      exact ⟨hlen, by exact_mod_cast hlen, fun h => absurd h hfault⟩
  | read len offset fault => exact iff_of_true (follows_read hw len offset fault) trivial

/-- **When the LED follows the writes.** In any sequence of calls, every write stays within the
bytes offered and fails when they cannot be read, and every read delivers whether the last
integer was 1, exactly when every write offers at least four bytes that can be read. -/
theorem led_follows_iff (calls : List Call) :
    system.Along Follows .loaded calls ↔ ∀ c ∈ calls, c.Complete := by
  have hstep (w : World) (c : Call) (w' : World) (hw : Lit w) (hc : c.Complete)
      (h : system.next w c = some w') : Lit w' := by
    rw [← Option.some.inj h]
    exact lit_after hw hc
  have hloaded : Lit .loaded := rfl
  rw [System.along_congr hstep (fun w c hw => follows_iff hw) hloaded]
  exact System.along_iff_forall (fun w c hw hc => ⟨_, rfl, lit_after hw hc⟩) hloaded calls

/-- **An integer nobody has given.** A write of one byte uses the three behind it and returns 4;
and when the copy of an integer faults, the LED that was on goes off. -/
theorem short_write_sets_led :
    ¬ system.Along Follows .loaded [.write ⟨[1], fun _ => 0⟩ 7 none] ∧
    (gWrite ⟨false⟩ ⟨[1], fun _ => 0⟩ 7 none) = ⟨4, 4, ⟨true⟩⟩ ∧
    (gWrite ⟨true⟩ ⟨[1, 0, 0, 0], fun _ => 0⟩ 7 (some (0, 0))) = ⟨4, 4, ⟨false⟩⟩ ∧
    ¬ system.Along Follows .loaded [.write ⟨[1, 0, 0, 0], fun _ => 0⟩ 7 (some (0, 0))] := by
  refine ⟨?_, by decide, by decide, ?_⟩
  · rintro ⟨⟨hasked, -⟩, -⟩
    exact absurd hasked (by decide)
  · rintro ⟨⟨-, -, hfails⟩, -⟩
    exact absurd (hfails (by decide)).1 (by decide)

end KernelDriverLab.Gpio
