import KernelDriverLab.Chardev.Buffer
import KernelDriverLab.Modules.SignalTarget

/-!
# Accepted bytes

A write handler that returns r says that it has taken the first r bytes of the message.
`Accepted` is what this promises to the next reader.  The handlers with a fixed buffer keep
at most 1023 bytes and the terminator, but return up to 1024; and without a registered
process, `my_write` of `signal_module.c` returns `IRQ_HANDLED`, which is 1.
-/

namespace KernelDriverLab.Chardev

open Lib

/-- After a write of `m` that has returned `ret` without an error, the reply to a read from the
start has exactly the first `ret` bytes of `m`. -/
def Accepted (m : List UInt8) (ret : Int) (reply : Reply) : Prop :=
  0 ≤ ret → ret ≤ m.length ∧ reply.ret = ret ∧ reply.stored = m.take ret.toNat

variable {buf m : List UInt8} {fault : Option (ℕ × ℕ)} {ret : Int}

/-- An error promises nothing. -/
lemma accepted_efault (m : List UInt8) (reply : Reply) : Accepted m (-EFAULT) reply := by
  intro hret
  exact absurd hret (by decide)

/-- What a reader gets after a message has been copied. -/
lemma readMessage_writeMessage (hm : 0 ∉ m) (hbuf : buf.length = BUFF_SIZE)
    (hfault : ¬ Faults (toCopy m) fault) :
    readMessage (writeMessage buf m fault).2 0 none id =
      ⟨(min (BUFF_SIZE - 1) m.length : ℕ), m.take (BUFF_SIZE - 1),
        min (BUFF_SIZE - 1) m.length⟩ := by
  have hkept : 0 ∉ m.take (BUFF_SIZE - 1) := fun h => hm (List.mem_of_mem_take h)
  have hstring : cString (writeMessage buf m fault).2 = m.take (BUFF_SIZE - 1) := by
    rw [writeMessage_of_not_faults hfault hbuf, overwrite, List.append_assoc,
      List.singleton_append, cString_append_zero, cString_eq_self hkept]
  have hlen : strlen (writeMessage buf m fault).2 = min (BUFF_SIZE - 1) m.length := by
    rw [strlen, hstring, List.length_take]
  rw [readMessage_start, hlen, hstring]

/-- The promise is kept when the value returned is the length of what was kept. -/
lemma accepted_iff (hm : 0 ∉ m) (hbuf : buf.length = BUFF_SIZE)
    (hfault : ¬ Faults (toCopy m) fault) (hret : 0 ≤ ret) :
    Accepted m ret (readMessage (writeMessage buf m fault).2 0 none id) ↔
      ret = (min (BUFF_SIZE - 1) m.length : ℕ) := by
  rw [readMessage_writeMessage hm hbuf hfault]
  constructor
  · intro h
    exact (h hret).2.1.symm
  · rintro rfl -
    refine ⟨by omega, rfl, ?_⟩
    rw [Int.toNat_natCast, ← List.take_take, List.take_length]

/-- **When accepted bytes are readable.** The bytes that `my_write` accepts are those that a
read from the start gives exactly when the copy faults, so that nothing is accepted, or the
message leaves room for the terminator; in `signal_module.c` a process must be registered too,
or the message have the one byte that `IRQ_HANDLED` says. -/
theorem accepted_iff_fits (hm : 0 ∉ m) (fault : Option (ℕ × ℕ)) (len : ℕ) :
    (∀ buf : List UInt8, buf.length = BUFF_SIZE →
      (Accepted m (Procfs.myWrite buf m fault).1
          (Procfs.myRead (Procfs.myWrite buf m fault).2 len 0 none).1 ↔
        Faults (toCopy m) fault ∨ m.length < BUFF_SIZE)) ∧
    ∀ s : SignalTarget.State, s.deviceBuffer.length = BUFF_SIZE →
      (Accepted m (SignalTarget.myWrite s m fault).ret
          (SignalTarget.myRead (SignalTarget.myWrite s m fault).state len 0 none).1 ↔
        Faults (toCopy m) fault ∨
          m.length < BUFF_SIZE ∧ (s.task ≠ none ∨ m.length = 1)) := by
  have hsize : BUFF_SIZE = 1024 := rfl
  constructor
  · intro buf hbuf
    simp only [Procfs.myWrite, Procfs.myRead, terminate_eq]
    by_cases hfault : Faults (toCopy m) fault
    · rw [writeMessage_of_faults hfault]
      exact iff_of_true (accepted_efault m _) (.inl hfault)
    · have hret : (writeMessage buf m fault).1 = toCopy m := by
        rw [writeMessage_of_not_faults hfault hbuf]
      simp only [hfault, false_or]
      rw [hret, accepted_iff hm hbuf hfault (Int.natCast_nonneg _), toCopy]
      split_ifs <;> omega
  · intro s hbuf
    simp only [SignalTarget.myWrite, SignalTarget.myRead, terminate_eq]
    by_cases hfault : Faults (toCopy m) fault
    · rw [writeMessage_of_faults hfault, if_pos (show -EFAULT < 0 by decide)]
      exact iff_of_true (accepted_efault m _) (.inl hfault)
    · have hret : (writeMessage s.deviceBuffer m fault).1 = toCopy m := by
        rw [writeMessage_of_not_faults hfault hbuf]
      have hpos : ¬ ((toCopy m : Int) < 0) := not_lt.2 (Int.natCast_nonneg _)
      rw [hret, if_neg hpos]
      cases htask : s.task with
      | none =>
        -- `IRQ_HANDLED` is returned in place of a length
        simp only [hfault, false_or]
        rw [accepted_iff hm hbuf hfault (by decide), SignalTarget.IRQ_HANDLED]
        simp only [ne_eq, not_true_eq_false, false_or]
        omega
      | some task =>
        simp only [hfault, false_or]
        rw [accepted_iff hm hbuf hfault (Int.natCast_nonneg _), toCopy]
        simp only [ne_eq, reduceCtorEq, not_false_eq_true, true_or, and_true]
        split_ifs <;> omega

theorem accepted_iff_fits_hi :
    Accepted [104, 105] (Procfs.myWrite (List.replicate BUFF_SIZE 0) [104, 105] none).1
      (Procfs.myRead (Procfs.myWrite (List.replicate BUFF_SIZE 0) [104, 105] none).2
        1024 0 none).1 :=
  ((accepted_iff_fits (by decide) none 1024).1 _ List.length_replicate).2 (.inr (by decide))

/-- **A full buffer is one byte short, and no listener means one byte.** A message of 1024 bytes
is accepted whole and read back with 1023; and of "hi", written while no process is registered,
one byte is accepted and two are read. -/
theorem accepted_not_readable :
    ¬ Accepted (List.replicate 1024 120)
      (Procfs.myWrite (List.replicate BUFF_SIZE 0) (List.replicate 1024 120) none).1
      (Procfs.myRead (Procfs.myWrite (List.replicate BUFF_SIZE 0)
        (List.replicate 1024 120) none).2 1024 0 none).1 ∧
    ¬ Accepted [104, 105]
      (SignalTarget.myWrite ⟨List.replicate BUFF_SIZE 0, none, 0⟩ [104, 105] none).ret
      (SignalTarget.myRead (SignalTarget.myWrite ⟨List.replicate BUFF_SIZE 0, none, 0⟩
        [104, 105] none).state 1024 0 none).1 := by
  constructor
  · intro h
    have hret := (h (by decide +kernel)).2.1
    revert hret
    decide +kernel
  · intro h
    have hret := (h (by decide)).2.1
    revert hret
    decide +kernel

end KernelDriverLab.Chardev
