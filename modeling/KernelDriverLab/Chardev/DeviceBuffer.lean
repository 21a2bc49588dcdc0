import KernelDriverLab.Chardev.NodeList

/-!
# The device buffer is a bounded string

`procfs_module.c` and `linked_list.c` keep their message in a buffer of 1024 bytes.  After
any calls of their `my_write` and `my_read` the buffer is `Terminated`, so `strlen` stops in
it, and no call stores behind its end.
-/

namespace KernelDriverLab.Chardev

open Lib

/-- A call of `my_write` or `my_read`. -/
inductive BufferCall where
  | write (user : List UInt8) (fault : Option (ℕ × ℕ))
  | read (len offset : ℕ) (fault : Option ℕ)

/-- The buffer of `procfs_module.c`. -/
def procfs : System (List UInt8) BufferCall where
  Init buf := buf = List.replicate BUFF_SIZE 0
  next buf
    | .write user fault => some (Procfs.myWrite buf user fault).2
    | .read len offset fault => some (Procfs.myRead buf len offset fault).2

/-- A buffer in which `strlen` stops, and behind which no call stores. -/
structure Bounded (buf : List UInt8) : Prop where
  last : buf[BUFF_SIZE - 1]? = some 0
  stops : buf[strlen buf]? = some 0
  strlen_le : strlen buf ≤ BUFF_SIZE - 1
  write : ∀ user fault, ∀ p ∈ writeStores user fault, p.1 < BUFF_SIZE
  read : ∀ offset, ∀ p ∈ readStores buf offset, p.1 < BUFF_SIZE

lemma Terminated.bounded {buf : List UInt8} (h : Terminated buf) : Bounded buf where
  last := h.last
  stops := by
    have hle := h.strlen_le
    have hlen := h.length
    exact getElem?_strlen (by rw [hlen]; exact hle.trans_lt (by decide))
  strlen_le := h.strlen_le
  write _ _ _ := writeStores_lt
  read _ _ := h.readStores_lt

lemma terminated_procfs {buf : List UInt8} (h : procfs.Reachable buf) : Terminated buf := by
  refine h.invariant (fun buf hinit => ?_) (fun buf c buf' hbuf _ hstep => ?_)
  · rw [hinit]
    exact terminated_zeroed
  · cases c with
    | write user fault =>
      rw [← Option.some.inj hstep]
      exact hbuf.writeMessage user fault
    | read len offset fault =>
      rw [← Option.some.inj hstep, Procfs.myRead, terminate_eq]
      exact hbuf

lemma terminated_nodeList {w : NodeList.World} (h : NodeList.system.Reachable w) :
    Terminated w.drv.deviceBuffer := by
  refine h.invariant (I := fun w => Terminated w.drv.deviceBuffer) (fun w hinit => ?_)
    (fun w c w' hw _ hstep => ?_)
  · rw [hinit]
    exact terminated_zeroed
  · cases c with
    | write user fault found =>
      obtain ⟨-, hstep⟩ := Option.ite_none_right_eq_some.1 hstep
      obtain ⟨⟨ret, s⟩, hwrite, rfl⟩ := Option.map_eq_some_iff.1 hstep
      dsimp only
      rw [NodeList.deviceBuffer_myWrite hwrite]
      exact hw.writeMessage user fault
    | read fuel len offset fault =>
      obtain ⟨r, hread, rfl⟩ := Option.map_eq_some_iff.1 hstep
      rw [NodeList.state_myRead hread]
      exact hw

/-- **The device buffer stays a bounded string.** After any writes and reads the last of the
1024 bytes is 0, `strlen` stops in the buffer, and no call stores behind it: the buffer after
a call is what the listed stores make of it.  A read leaves it as it was. -/
theorem device_buffer_bounded :
    (∀ buf, procfs.Reachable buf → Bounded buf ∧
      (∀ user fault, (Procfs.myWrite buf user fault).2 = store buf (writeStores user fault)) ∧
      ∀ len offset fault,
        (Procfs.myRead buf len offset fault).2 = store buf (readStores buf offset) ∧
        (Procfs.myRead buf len offset fault).2 = buf) ∧
    ∀ w, NodeList.system.Reachable w → Bounded w.drv.deviceBuffer ∧
      (∀ user fault found ret s, NodeList.myWrite w.drv user fault found = some (ret, s) →
        s.deviceBuffer = store w.drv.deviceBuffer (writeStores user fault)) ∧
      ∀ fuel len offset fault r, NodeList.myRead fuel w.drv len offset fault = some r →
        r.state.deviceBuffer = store w.drv.deviceBuffer (readStores w.drv.deviceBuffer offset) ∧
        r.state.deviceBuffer = w.drv.deviceBuffer := by
  constructor
  · intro buf hbuf
    have hterm := terminated_procfs hbuf
    refine ⟨hterm.bounded, fun user fault => ?_, fun len offset fault => ?_⟩
    · rw [store_writeStores hterm.length, Procfs.myWrite]
    · rw [store_readStores, Procfs.myRead, terminate_eq]
      exact ⟨rfl, rfl⟩
  · intro w hw
    have hterm := terminated_nodeList hw
    refine ⟨hterm.bounded, fun user fault found ret s h => ?_, fun fuel len offset fault r h => ?_⟩
    · rw [store_writeStores hterm.length, NodeList.deviceBuffer_myWrite h]
    · rw [store_readStores, terminate_eq, NodeList.state_myRead h]
      exact ⟨rfl, rfl⟩

end KernelDriverLab.Chardev
