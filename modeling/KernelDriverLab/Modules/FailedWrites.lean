import KernelDriverLab.Chardev.DeviceBuffer
import KernelDriverLab.Chardev.HeapBuffer

/-!
# Failed writes

What a read from the start gives before and after a write that returns an error, for the three
write handlers of `procfs_module.c` and `linked_list.c`.  The handlers with a fixed buffer copy
over the message in place, so a copy that faults has changed its front, and in `linked_list.c`
the whole message is replaced before `kmalloc` can fail.  `proc_write` frees the message first;
when there is no memory for the next one, `proc_buffer` is left NULL.

The node list and its counter are changed after everything that can fail.
-/

namespace KernelDriverLab

open Lib Prog Chardev

namespace ProcBuffer

variable {s : State} {e : Env}

/-- `proc_write` after it has freed the block of the last message. -/
def storeMessage (user : List UInt8) : Driver Int := do
  let found ← op (Op.kmalloc (user.length + 1))
  if !found then pure (-EFAULT)
  else
    let copied ← op (Op.copyFromUser user)
    if !copied then pure (-EFAULT)
    else
      op (Op.terminate (user.length + 1))
      op Op.print
      pure user.length

lemma run_procWrite_eq (user : List UInt8) : ∃ s₁,
    (procWrite user).run (sem e) s = (storeMessage user).run (sem e) s₁ := by
  cases hp : s.procBuffer with
  | none => exact ⟨s, by simp [procWrite, storeMessage, run_act, sem, hp]⟩
  | some i => exact ⟨s.free, by simp [procWrite, storeMessage, op, run_act, sem, hp]⟩

lemma bytes_store {i : ℕ} (hp : s.procBuffer = some i) (mem : List UInt8) :
    (s.store mem).bytes = mem := by
  simp [State.store, State.bytes, hp]

/-- `proc_write` does what the handler does to the block that it allocates; without memory
there is none. -/
lemma run_procWrite (s : State) (u : UserMem) (e : Env) :
    ∃ t, (procWrite u.offered).run (sem e) s =
        .done (Procfs.procWrite u e.kmalloc e.writeFault).ret t ∧
      t.bytes = (Procfs.procWrite u e.kmalloc e.writeFault).memory ∧
      (t.Live ↔ e.kmalloc ≠ none) := by
  obtain ⟨s₁, hrun⟩ := run_procWrite_eq (s := s) (e := e) u.offered
  rw [hrun]
  cases he : e.kmalloc with
  | none =>
    refine ⟨{ s₁ with procBuffer := none }, ?_, rfl, ?_⟩
    · simp [storeMessage, run_act, sem, he, Procfs.procWrite, heapWrite]
    · simp [State.Live]
  | some found =>
    obtain ⟨s₂, hs₂, hp, hbytes, hlive⟩ : ∃ s₂, s₁.alloc (u.len + 1) found = s₂ ∧
        s₂.procBuffer = some s₁.ledger.next ∧ s₂.bytes = blockOf (u.len + 1) found ∧ s₂.Live :=
      ⟨_, rfl, rfl, by simp [State.alloc, State.bytes, blockOf],
        _, rfl, by simp [State.alloc, Ledger.acquire]⟩
    have hlen : u.offered.length = u.len := rfl
    have hcopy : copyFromUser s₂.bytes u.offered u.len e.writeFault =
        (overwrite (blockOf (u.len + 1) found) (fromUser u.offered u.len e.writeFault).1,
          (fromUser u.offered u.len e.writeFault).2) := by
      rw [copyFromUser_eq, hbytes]
    simp only [storeMessage, op, act_bind, ret_bind, pure_eq, run_act, sem, he, hlen, hs₂,
      Bool.not_true, Bool.false_eq_true, if_false, hcopy, Procfs.procWrite, heapWrite,
      UserMem.first_len]
    rcases fromUser u.offered u.len e.writeFault with ⟨src, ok⟩
    cases ok with
    | false => exact ⟨_, rfl, bytes_store hp _, iff_of_true hlive (by simp)⟩
    | true =>
      have hbytes' := bytes_store hp (overwrite (blockOf (u.len + 1) found) src)
      refine ⟨_, rfl, ?_, iff_of_true hlive (by simp)⟩
      show ((s₂.store _).store _).bytes = _
      rw [bytes_store (show (s₂.store _).procBuffer = _ from hp), hbytes']
      rfl

/-- What a read from the start gives, when `proc_buffer` points to an allocated block. -/
def State.content (s : State) : Option Reply :=
  if s.Live then
    match (procRead 0 0).run (sem {}) s with
    | .done reply _ => some reply
    | .oops _ => none
  else none

lemma content_of_live (h : s.Live) :
    s.content = some ⟨Chardev.strlen s.bytes, cString s.bytes, Chardev.strlen s.bytes⟩ := by
  obtain ⟨t, ht⟩ := reply_procRead (s := s) (e := {}) 0 0
  rw [State.content, if_pos h, ht, Procfs.procRead, readMessage_start]

lemma content_of_not_live (h : ¬ s.Live) : s.content = none := if_neg h

/-- Two messages are read alike when they are the same string. -/
lemma content_eq_iff {s t : State} (ht : t.Live) :
    t.content = s.content ↔ s.Live ∧ cString t.bytes = cString s.bytes := by
  rw [content_of_live ht]
  by_cases hs : s.Live
  · rw [content_of_live hs, Option.some_inj, Reply.mk.injEq]
    constructor
    · rintro ⟨-, hstring, -⟩
      exact ⟨hs, hstring⟩
    · rintro ⟨-, hstring⟩
      simp [Chardev.strlen, hstring]
  · simp [content_of_not_live hs, hs]

/-- **When a failed `proc_write` keeps the message.** -/
lemma content_procWrite_iff (s : State) (u : UserMem) (e : Env) :
    ∃ t, (procWrite u.offered).run (sem e) s =
        .done (Procfs.procWrite u e.kmalloc e.writeFault).ret t ∧
      (((Procfs.procWrite u e.kmalloc e.writeFault).ret < 0 → t.content = s.content) ↔
        match e.kmalloc with
        | none => ¬ s.Live
        | some found => Faults u.len e.writeFault → s.Live ∧
            cString (overwrite (blockOf (u.len + 1) found)
              (fromUser u.offered u.len e.writeFault).1) = cString s.bytes) := by
  obtain ⟨t, hrun, hbytes, hlive⟩ := run_procWrite s u e
  refine ⟨t, hrun, ?_⟩
  cases he : e.kmalloc with
  | none =>
    have ht : ¬ t.Live := by simp [hlive, he]
    have hret : (Procfs.procWrite u none e.writeFault).ret < 0 := show -EFAULT < 0 by decide
    rw [content_of_not_live ht]
    simp only [hret, true_implies]
    by_cases hs : s.Live
    · simp [content_of_live hs, hs]
    · simp [content_of_not_live hs, hs]
  | some found =>
    have ht : t.Live := by simp [hlive, he]
    rw [he] at hbytes
    rw [content_eq_iff ht, hbytes]
    by_cases hfault : Faults u.len e.writeFault
    · have hret : (Procfs.procWrite u (some found) e.writeFault).ret < 0 := by
        rw [Procfs.procWrite, heapWrite_of_faults hfault]
        show -EFAULT < 0
        decide
      simp only [hret, hfault, true_implies]
      rw [Procfs.procWrite, heapWrite_of_faults hfault, u.first_len]
    · have hret : ¬ (Procfs.procWrite u (some found) e.writeFault).ret < 0 := by
        rw [Procfs.procWrite, heapWrite_of_not_faults hfault]
        exact not_lt.2 (Int.natCast_nonneg _)
      simp only [hret, hfault, false_implies]

end ProcBuffer

namespace Chardev

/-! ## The fixed buffers -/

/-- A message `old` reads the same after `src` has been copied over its front. -/
def Repeats (old src : List UInt8) : Prop := if 0 ∈ src then cString src = old else src <+: old

instance (old src : List UInt8) : Decidable (Repeats old src) :=
  inferInstanceAs (Decidable (if 0 ∈ src then cString src = old else src <+: old))

variable {buf src user : List UInt8} {fault : Option (ℕ × ℕ)}

lemma prefix_cString (mem : List UInt8) : cString mem <+: mem := List.takeWhile_prefix _

lemma cString_append_of_mem (h : 0 ∈ src) (rest : List UInt8) :
    cString (src ++ rest) = cString src := by
  obtain ⟨front, back, rfl⟩ := List.append_of_mem h
  rw [List.append_assoc, List.cons_append, cString_append_zero, cString_append_zero]

lemma cString_append_of_not_mem (h : 0 ∉ src) (rest : List UInt8) :
    cString (src ++ rest) = src ++ cString rest := by
  have hself : src.takeWhile (· ≠ 0) = src := cString_eq_self h
  rw [cString, List.takeWhile_append, hself, if_pos rfl, cString]

/-- **What a copy over a message does to it.** -/
lemma cString_overwrite_iff : cString (overwrite buf src) = cString buf ↔
    Repeats (cString buf) src := by
  rw [Repeats, overwrite]
  split_ifs with hzero
  · rw [cString_append_of_mem hzero]
  · constructor
    · intro h
      rw [cString_append_of_not_mem hzero] at h
      exact ⟨_, h⟩
    · -- the copy stores what is there
      intro h
      obtain ⟨rest, hrest⟩ := h.trans (prefix_cString buf)
      rw [← hrest, List.drop_left]

/-- What a write handler with a fixed buffer has stored when it ends at a fault, with the zeros
behind the bytes that were copied. -/
def copied (user : List UInt8) (fault : Option (ℕ × ℕ)) : List UInt8 :=
  (fromUser user (toCopy user) fault).1

lemma readMessage_eq_iff {mem mem' : List UInt8} :
    readMessage mem 0 none id = readMessage mem' 0 none id ↔ cString mem = cString mem' := by
  rw [readMessage_start, readMessage_start, Reply.mk.injEq]
  constructor
  · rintro ⟨-, hstring, -⟩
    exact hstring
  · intro hstring
    simp [strlen, hstring]

/-- **When a failed `my_write` of `procfs_module.c` keeps the message.** -/
lemma procfs_myWrite_iff (hbuf : buf.length = BUFF_SIZE) (len : ℕ) :
    ((Procfs.myWrite buf user fault).1 < 0 →
        (Procfs.myRead (Procfs.myWrite buf user fault).2 len 0 none).1 =
          (Procfs.myRead buf len 0 none).1) ↔
      (Faults (toCopy user) fault → Repeats (cString buf) (copied user fault)) := by
  simp only [Procfs.myRead, Procfs.myWrite, terminate_eq]
  by_cases hfault : Faults (toCopy user) fault
  · have herr : -EFAULT < 0 := by decide
    rw [writeMessage_of_faults hfault]
    simp only [herr, hfault, true_implies]
    rw [readMessage_eq_iff, cString_overwrite_iff, copied]
  · have hok : ¬ ((toCopy user : Int) < 0) := not_lt.2 (Int.natCast_nonneg _)
    rw [writeMessage_of_not_faults hfault hbuf]
    simp only [hok, hfault, false_implies]

end Chardev

namespace NodeList

variable {s s' : State} {user : List UInt8} {fault : Option (ℕ × ℕ)} {ret : Int}
  {found : Option (Ptr × MyList)}

/-- The list and its counter are the same in both states. -/
structure SameList (s s' : State) : Prop where
  links : s'.links = s.links
  data : s'.data = s.data
  tempValue : s'.tempValue = s.tempValue

/-- Whether `my_write` fails; when it does, it has not come to the list. -/
lemma myWrite_fails (hbuf : s.deviceBuffer.length = BUFF_SIZE)
    (h : myWrite s user fault found = some (ret, s')) :
    (ret < 0 ↔ Faults (toCopy user) fault ∨ found = none) ∧ (ret < 0 → SameList s s') := by
  have herr : -EFAULT < 0 := by decide
  have hok : ¬ ((toCopy user : Int) < 0) := not_lt.2 (Int.natCast_nonneg _)
  rw [myWrite] at h
  by_cases hfault : Faults (toCopy user) fault
  · rw [writeMessage_of_faults hfault] at h
    simp only [herr, if_true, Option.some.injEq, Prod.mk.injEq] at h
    obtain ⟨rfl, rfl⟩ := h
    exact ⟨iff_of_true herr (.inl hfault), fun _ => ⟨rfl, rfl, rfl⟩⟩
  · rw [writeMessage_of_not_faults hfault hbuf] at h
    simp only [hok, if_false] at h
    rcases found with _ | ⟨new, junk⟩
    · simp only [Option.some.injEq, Prod.mk.injEq] at h
      obtain ⟨rfl, rfl⟩ := h
      exact ⟨iff_of_true (by decide) (.inr rfl), fun _ => ⟨rfl, rfl, rfl⟩⟩
    · simp only [Option.bind_eq_bind, Option.bind_eq_some_iff, State.setData, State.kmalloc,
        Option.map_eq_some_iff] at h
      obtain ⟨_, ⟨_, -, rfl⟩, _, -, _, -, h⟩ := h
      obtain ⟨rfl, -⟩ := Prod.mk.inj (Option.some.inj h)
      exact ⟨iff_of_false hok (by simp [hfault]), fun hneg => absurd hneg hok⟩

/-- **When a failed `my_write` of `linked_list.c` keeps the message.** -/
lemma myWrite_iff (hbuf : s.deviceBuffer.length = BUFF_SIZE)
    (h : myWrite s user fault found = some (ret, s')) (len : ℕ) :
    (ret < 0 → (LinkedList.myRead s'.deviceBuffer len 0 none).1 =
        (LinkedList.myRead s.deviceBuffer len 0 none).1) ↔
      if Faults (toCopy user) fault then Repeats (cString s.deviceBuffer) (copied user fault)
      else found = none → cString (user.take (BUFF_SIZE - 1)) = cString s.deviceBuffer := by
  rw [(myWrite_fails hbuf h).1, deviceBuffer_myWrite h]
  simp only [LinkedList.myRead, terminate_eq, readMessage_eq_iff]
  split_ifs with hfault
  · simp only [hfault, true_or, true_implies]
    rw [writeMessage_of_faults hfault, cString_overwrite_iff, copied]
  · simp only [hfault, false_or]
    rw [writeMessage_of_not_faults hfault hbuf, overwrite, List.append_assoc,
      List.singleton_append, cString_append_zero]

end NodeList

/-- **When failed writes leave the message intact.** After a write that returns an error, a read
from the start gives what it gave before exactly when

* in `my_write` of `procfs_module.c`, what the copy leaves in the buffer, that is the bytes copied
  before the fault and the zeros behind them, spells the old message up to its first zero, or
  the front of the old message if there is none;
* in `my_write` of `linked_list.c`, the same, and when it is `kmalloc` that fails, the new message
  is the old one; the list and its counter are intact in any case;
* in `proc_write`, no memory is found and there was no message, or the copy faults and what it
  leaves spells the old message together with what was found behind it. -/
theorem failed_writes_intact_iff (len : ℕ) :
    (∀ buf, procfs.Reachable buf → ∀ user fault,
      (((Procfs.myWrite buf user fault).1 < 0 →
          (Procfs.myRead (Procfs.myWrite buf user fault).2 len 0 none).1 =
            (Procfs.myRead buf len 0 none).1) ↔
        (Faults (toCopy user) fault → Repeats (cString buf) (copied user fault)))) ∧
    (∀ w, NodeList.system.Reachable w → ∀ user fault found ret s,
      NodeList.myWrite w.drv user fault found = some (ret, s) →
        (ret < 0 → NodeList.SameList w.drv s) ∧
        ((ret < 0 → (LinkedList.myRead s.deviceBuffer len 0 none).1 =
            (LinkedList.myRead w.drv.deviceBuffer len 0 none).1) ↔
          if Faults (toCopy user) fault then
            Repeats (cString w.drv.deviceBuffer) (copied user fault)
          else found = none →
            cString (user.take (BUFF_SIZE - 1)) = cString w.drv.deviceBuffer)) ∧
    ∀ (s : ProcBuffer.State) (u : UserMem) (e : ProcBuffer.Env),
      ∃ t, (ProcBuffer.procWrite u.offered).run (ProcBuffer.sem e) s =
          .done (Procfs.procWrite u e.kmalloc e.writeFault).ret t ∧
        (((Procfs.procWrite u e.kmalloc e.writeFault).ret < 0 → t.content = s.content) ↔
          match e.kmalloc with
          | none => ¬ s.Live
          | some found => Faults u.len e.writeFault → s.Live ∧
              cString (overwrite (blockOf (u.len + 1) found)
                (fromUser u.offered u.len e.writeFault).1) = cString s.bytes) := by
  refine ⟨fun buf hbuf user fault => ?_, fun w hw user fault found ret s h => ?_, fun s u e => ?_⟩
  · exact procfs_myWrite_iff (terminated_procfs hbuf).length len
  · have hbuf := (terminated_nodeList hw).length
    exact ⟨(NodeList.myWrite_fails hbuf h).2, NodeList.myWrite_iff hbuf h len⟩
  · exact ProcBuffer.content_procWrite_iff s u e

/-- The buffer of `procfs_module.c` that holds "hi". -/
def hiBuffer : List UInt8 := (Procfs.myWrite (List.replicate BUFF_SIZE 0) [104, 105] none).2

lemma reachable_hiBuffer : procfs.Reachable hiBuffer :=
  .step (.init rfl) trivial
    (show procfs.next _ (.write [104, 105] none) = some hiBuffer from rfl)

/-- A write of "hi!" over "hi" that faults after two bytes leaves the message. -/
theorem failed_writes_intact_iff_hi :
    (Procfs.myWrite hiBuffer [104, 105, 33] (some (2, 1))).1 < 0 →
      (Procfs.myRead (Procfs.myWrite hiBuffer [104, 105, 33] (some (2, 1))).2 1024 0 none).1 =
        (Procfs.myRead hiBuffer 1024 0 none).1 :=
  ((failed_writes_intact_iff 1024).1 _ reachable_hiBuffer [104, 105, 33] (some (2, 1))).2
    (fun _ => by decide +kernel)

/-- **A failed write is seen by the next reader.** Over "hi", a write of "ab" that faults after
one byte leaves "a" in `procfs_module.c`, because `copy_from_user` clears the rest; in
`linked_list.c` a write of "ab" that finds no memory for its node leaves "ab"; and a `proc_write`
that finds none leaves no message. -/
theorem failed_write_changes_message :
    (procfs.Reachable hiBuffer ∧ (Procfs.myWrite hiBuffer [97, 98] (some (1, 1))).1 = -EFAULT ∧
      (Procfs.myRead hiBuffer 1024 0 none).1.stored = [104, 105] ∧
      (Procfs.myRead (Procfs.myWrite hiBuffer [97, 98] (some (1, 1))).2 1024 0 none).1.stored =
        [97]) ∧
    (∃ w, NodeList.system.Reachable w ∧
      (LinkedList.myRead w.drv.deviceBuffer 1024 0 none).1.stored = [104, 105] ∧
      ∃ s, NodeList.myWrite w.drv [97, 98] none none = some (-EINVAL, s) ∧
        (LinkedList.myRead s.deviceBuffer 1024 0 none).1.stored = [97, 98]) ∧
    ∃ w, ProcBuffer.system.Reachable w ∧ w.shared.content = some ⟨2, [104, 105], 2⟩ ∧
      ∃ t, (ProcBuffer.procWrite [97, 98]).run (ProcBuffer.sem { kmalloc := none }) w.shared =
        .done (-EFAULT) t ∧ t.content = none := by
  refine ⟨⟨reachable_hiBuffer, by decide +kernel⟩, ?_, ?_⟩
  · have hw := System.reach_get (S := NodeList.system) (C := fun _ _ => True)
      [.write [104, 105] none (some (16, ⟨⟨7, 7⟩, 7⟩))] (.init rfl) (by decide +kernel)
      (by decide +kernel)
    exact ⟨_, hw, by decide +kernel, _, rfl, by decide +kernel⟩
  · have hw := System.reach_get (S := ProcBuffer.system) (C := fun _ _ => True)
      [.event (.write [104, 105] {})] (.init rfl) (by decide +kernel) (by decide +kernel)
    exact ⟨_, hw, by decide +kernel, _, rfl, by decide +kernel⟩

end KernelDriverLab
