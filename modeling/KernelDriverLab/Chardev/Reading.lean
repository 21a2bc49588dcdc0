import KernelDriverLab.Chardev.Handlers
import Mathlib.Data.List.TakeWhile

/-!
# The read contract of the character devices

The four read handlers copy the whole string from its start, whatever the length that
the caller asked for and wherever the position is.  A call meets the contract `serve`
exactly when the position is behind the string, or at its start with a buffer that takes
the whole string.  `vmalloc.c` also returns the length of the buffer, so there the buffer
must be as long as the string.  A reader gets the message exactly when its first call
meets the contract.
-/

namespace KernelDriverLab.Chardev

open Lib

/-- The read handlers. -/
inductive ReadHandler
  | procfsMyRead | procRead | vmallocMyRead | linkedListMyRead
deriving DecidableEq, Repr

namespace ReadHandler

/-- A call that does not fault, on a device with this memory. -/
def call (mem : List UInt8) (len offset : ℕ) : ReadHandler → Reply
  | procfsMyRead => (Procfs.myRead mem len offset none).1
  | procRead => Procfs.procRead mem len offset none
  | vmallocMyRead => Vmalloc.myRead mem len offset none
  | linkedListMyRead => (LinkedList.myRead mem len offset none).1

/-- What a handler returns for a string that it has copied. -/
def value (len length : ℕ) : ReadHandler → ℕ
  | vmallocMyRead => len
  | _ => length

/-- A buffer of `len` bytes is right for a string of this length. -/
def Suits (len length : ℕ) : ReadHandler → Prop
  | vmallocMyRead => len = length
  | _ => length ≤ len

/-- Nothing is left to be read, or everything is and the buffer is right for it. -/
def Fits (s : List UInt8) (len offset : ℕ) (h : ReadHandler) : Prop :=
  s.length ≤ offset ∨ offset = 0 ∧ h.Suits len s.length

end ReadHandler

/-- Writing the terminator over itself changes nothing. -/
lemma set_strlen (buf : List UInt8) : buf.set (strlen buf) 0 = buf := by
  induction buf with
  | nil => rfl
  | cons b buf ih =>
    by_cases hb : b = 0
    · subst hb
      rfl
    · have hlen : strlen (b :: buf) = strlen buf + 1 := by simp [strlen, cString, hb]
      rw [hlen, List.set_cons_succ, ih]

@[simp] lemma terminate_eq (buf : List UInt8) (offset : ℕ) : terminate buf offset = buf := by
  rw [terminate, set_strlen, ite_self]

/-- A string ends at its first 0, whatever lies behind. -/
lemma cString_append_zero (src rest : List UInt8) :
    cString (src ++ 0 :: rest) = cString src := by
  induction src with
  | nil => rfl
  | cons b src ih =>
    by_cases hb : b = 0
    · simp [cString, hb]
    · simpa [cString, hb] using ih

lemma cString_eq_self {s : List UInt8} (h : 0 ∉ s) : cString s = s := by
  refine List.takeWhile_eq_self_iff.2 fun b hb => ?_
  have hne : b ≠ 0 := fun heq => h (heq ▸ hb)
  simpa using hne

/-- A read from the start gives the whole string. -/
lemma readMessage_start (mem : List UInt8) :
    readMessage mem 0 none id = ⟨strlen mem, cString mem, strlen mem⟩ := by
  by_cases hlen : strlen mem = 0
  · have hempty : cString mem = [] := List.eq_nil_of_length_eq_zero hlen
    simp [readMessage, hlen, hempty]
  · have hpos : ¬ 0 ≥ strlen mem := by omega
    simp [readMessage, copyToUser, hpos]

namespace ReadHandler

variable (h : ReadHandler) {mem : List UInt8} {len offset : ℕ}

/-- What a call does, in terms of the string. -/
lemma call_eq :
    h.call mem len offset =
      if (cString mem).length ≤ offset then ⟨0, [], offset⟩
      else ⟨h.value len (cString mem).length, cString mem, offset + (cString mem).length⟩ := by
  have hread (value : ℕ → ℕ) : readMessage mem offset none value =
      if (cString mem).length ≤ offset then ⟨0, [], offset⟩
      else ⟨value (cString mem).length, cString mem, offset + (cString mem).length⟩ := by
    have htake := take_strlen mem
    rw [strlen] at htake
    simp [readMessage, copyToUser, strlen, htake]
  cases h <;> simp [call, value, hread, Procfs.myRead, Procfs.procRead, Vmalloc.myRead,
    LinkedList.myRead]

lemma call_of_le (hoff : (cString mem).length ≤ offset) :
    h.call mem len offset = ⟨0, [], offset⟩ := by
  rw [call_eq, if_pos hoff]

lemma call_of_lt (hoff : offset < (cString mem).length) :
    h.call mem len offset =
      ⟨h.value len (cString mem).length, cString mem, offset + (cString mem).length⟩ := by
  rw [call_eq, if_neg (by omega)]

/-- A buffer is right for a string when it takes the string and the value returned is the
length of the string. -/
lemma suits_iff {length : ℕ} : h.Suits len length ↔ length ≤ len ∧ h.value len length = length := by
  cases h <;> simp [Suits, value]
  omega

/-- **When a call meets the contract.** -/
lemma call_eq_serve_iff :
    h.call mem len offset = serve (cString mem) len offset ↔ h.Fits (cString mem) len offset := by
  rw [Fits, suits_iff, serve]
  by_cases hoff : (cString mem).length ≤ offset
  · have hr : min len ((cString mem).length - offset) = 0 := by omega
    rw [h.call_of_le hoff, hr]
    simp [hoff]
  · rw [h.call_of_lt (not_le.1 hoff)]
    constructor
    · intro heq
      rw [Reply.mk.injEq] at heq
      obtain ⟨hret, -, hend⟩ := heq
      omega
    · rintro (hle | ⟨rfl, hle, hval⟩)
      · exact absurd hle hoff
      · have hr : min len ((cString mem).length - 0) = (cString mem).length := by omega
        rw [hr, hval, List.drop_zero, List.take_length, Nat.zero_add]

/-- The first call gives everything that a reader gets, the second one returns 0. -/
lemma readAll_call (hs : cString mem ≠ []) (buf buf' : List UInt8) (bufs : List (List UInt8))
    (hbuf : buf ≠ []) :
    readAll (fun len offset => h.call mem len offset) (buf :: buf' :: bufs) 0 =
      some ((overwrite buf (cString mem)).take
        (min buf.length (h.value buf.length (cString mem).length))) := by
  have hpos : 0 < (cString mem).length := List.length_pos_of_ne_nil hs
  have hvalue : (h.value buf.length (cString mem).length : Int) ≠ 0 := by
    have hlen := List.length_pos_of_ne_nil hbuf
    cases h <;> simp only [value] <;> omega
  rw [readAll, h.call_of_lt hpos]
  simp only [hvalue, if_false, readAll, Nat.zero_add, h.call_of_le le_rfl, if_true, Option.map_some,
    List.append_nil, Reply.received, Int.toNat_natCast]

end ReadHandler

/-- **When the contract is met.** A call returns, stores and advances as the contract says
exactly when it `Fits`; and a reader with non-empty buffers receives the message exactly
when its first call does. -/
theorem contract_iff_fits (h : ReadHandler) (mem : List UInt8) :
    (∀ len offset, h.call mem len offset = serve (cString mem) len offset ↔
      h.Fits (cString mem) len offset) ∧
    ∀ buf buf' bufs, buf ≠ [] →
      (readAll (fun len offset => h.call mem len offset) (buf :: buf' :: bufs) 0 =
        some (cString mem) ↔ h.Fits (cString mem) buf.length 0) := by
  refine ⟨fun len offset => h.call_eq_serve_iff, fun buf buf' bufs hbuf => ?_⟩
  by_cases hs : cString mem = []
  · simp [readAll, h.call_of_le, hs, ReadHandler.Fits]
  · have hpos : 0 < (cString mem).length := List.length_pos_of_ne_nil hs
    rw [h.readAll_call hs _ _ _ hbuf, Option.some_inj, ReadHandler.Fits, ReadHandler.suits_iff]
    constructor
    · intro heq
      have htaken := congrArg List.length heq
      have hlen : (overwrite buf (cString mem)).length = max buf.length (cString mem).length := by
        rw [overwrite, List.length_append, List.length_drop]
        omega
      rw [List.length_take, hlen] at htaken
      refine .inr ⟨rfl, by omega, ?_⟩
      cases h with
      | vmallocMyRead =>
        rw [ReadHandler.value] at htaken ⊢
        omega
      | _ => rfl
    · rintro (hle | ⟨-, hle, hval⟩)
      · omega
      · rw [hval, min_eq_right hle, overwrite, List.take_left]

theorem contract_iff_fits_hi :
    readAll (fun len offset => ReadHandler.procfsMyRead.call [104, 105, 0] len offset)
      [[0, 0, 0], [0, 0, 0]] 0 = some [104, 105] := by
  have hfits : ReadHandler.procfsMyRead.Fits (cString [104, 105, 0]) 3 0 :=
    .inr ⟨rfl, show (cString [104, 105, 0]).length ≤ 3 by decide⟩
  exact ((contract_iff_fits .procfsMyRead [104, 105, 0]).2 [0, 0, 0] [0, 0, 0] []
    (by decide)).2 hfits

/-- **Small buffers are overrun.** After a write of "hello" to `procfs_module.c`, a read
of 2 bytes stores 5 and moves behind the message, and a reader with buffers of 2 bytes
receives "he".  In `vmalloc.c` a read of 8 bytes returns 8. -/
theorem small_buffer_overrun :
    ∃ buf, Procfs.myWrite (List.replicate BUFF_SIZE 0) [104, 101, 108, 108, 111] none = (5, buf) ∧
      ReadHandler.procfsMyRead.call buf 2 0 = ⟨5, [104, 101, 108, 108, 111], 5⟩ ∧
      ReadHandler.procfsMyRead.call buf 2 0 ≠ serve (cString buf) 2 0 ∧
      readAll (fun len offset => ReadHandler.procfsMyRead.call buf len offset)
        [[0, 0], [0, 0], [0, 0], [0, 0]] 0 = some [104, 101] ∧
      (ReadHandler.vmallocMyRead.call buf 8 0).ret = 8 := by
  refine ⟨_, rfl, ?_⟩
  decide +kernel

end KernelDriverLab.Chardev
