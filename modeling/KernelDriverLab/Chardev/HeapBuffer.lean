import KernelDriverLab.Modules.ProcBuffer
import KernelDriverLab.Chardev.Buffer

/-!
# Writers with a buffer on the heap

Three write handlers allocate a buffer of `len + 1` bytes for a message of `len` bytes, copy
the message and store a terminator: `my_write` of `kmalloc.c` and of `vmalloc.c`, and
`proc_write` of `procfs_module.c`.  `heapWrite` is what they have in common; they differ in how
many bytes they ask for and in the error for no memory.  The terminator goes to the index
`len + 1`, the first one behind the block, so the byte behind the message is whatever lay in
the memory that was found, and in `kmalloc.c` a byte that the caller did not offer.
-/

namespace KernelDriverLab

open Lib Chardev

namespace Chardev

/-- What a call does, up to the `strlen` of the block. -/
structure HeapWrite where
  ret : Int
  /-- How many bytes are allocated. -/
  size : ℕ
  /-- How many bytes are asked for from the memory of the caller. -/
  asked : ℕ
  stores : Stores
  /-- The memory from the start of the block on, also beyond its end. -/
  memory : List UInt8
  /-- The block has been given back when the call returns. -/
  freed : Bool
deriving DecidableEq

/-- The memory from the start of a new block on; one byte behind the block is always there. -/
def blockOf (size : ℕ) (found : List UInt8) : List UInt8 :=
  overwrite (List.replicate (size + 1) 0) found

/-- The body of the handlers, with what the allocator finds in the memory it gives. -/
def heapWrite (asked : ℕ) (noMemory : Int) (frees : Bool) (u : UserMem)
    (found : Option (List UInt8)) (fault : Option (ℕ × ℕ)) : HeapWrite :=
  match found with
  | none => ⟨noMemory, 0, 0, [], [], false⟩
  | some found =>
    let mem := blockOf (u.len + 1) found
    match fromUser (u.first asked) asked fault with
    | (src, false) => ⟨-EFAULT, u.len + 1, asked, storesOf src, overwrite mem src, false⟩
    | (src, true) =>
      ⟨u.len, u.len + 1, asked, storesOf src ++ [(u.len + 1, 0)],
        (overwrite mem src).set (u.len + 1) 0, frees⟩

end Chardev

/-- `my_write` of `kmalloc.c`, which prints the message and frees the block. -/
def Kmalloc.myWrite (u : UserMem) (found : Option (List UInt8)) (fault : Option (ℕ × ℕ)) :
    HeapWrite :=
  heapWrite (u.len + 1) (-EFAULT) true u found fault

/-- `my_write` of `vmalloc.c`; the block becomes the one of `device_buffer`. -/
def Vmalloc.myWrite (u : UserMem) (found : Option (List UInt8)) (fault : Option (ℕ × ℕ)) :
    HeapWrite :=
  heapWrite u.len (-ENOMEM) false u found fault

/-- `proc_write` after it has freed the block of the last message. -/
def Procfs.procWrite (u : UserMem) (found : Option (List UInt8)) (fault : Option (ℕ × ℕ)) :
    HeapWrite :=
  heapWrite u.len (-EFAULT) false u found fault

namespace Chardev

/-- The write handlers with a buffer on the heap. -/
inductive HeapWriter
  | kmallocMyWrite | vmallocMyWrite | procWrite
deriving DecidableEq, Repr

namespace HeapWriter

/-- The call of a handler. -/
def call (u : UserMem) (found : Option (List UInt8)) (fault : Option (ℕ × ℕ)) :
    HeapWriter → HeapWrite
  | kmallocMyWrite => Kmalloc.myWrite u found fault
  | vmallocMyWrite => Vmalloc.myWrite u found fault
  | procWrite => Procfs.procWrite u found fault

/-- How many bytes a handler asks for. -/
def asks (len : ℕ) : HeapWriter → ℕ
  | kmallocMyWrite => len + 1
  | _ => len

/-- The byte that comes to lie behind the message. -/
def behind (u : UserMem) (found : List UInt8) : HeapWriter → UInt8
  | kmallocMyWrite => u.behind 0
  | _ => found.getD u.len 0

end HeapWriter

/-- What a call with these bytes may do: ask for no others, store within the block, and leave
the message in it as a string. -/
structure InBounds (u : UserMem) (w : HeapWrite) : Prop where
  asked : w.asked = u.len
  size : w.size = u.len + 1
  stores : ∀ p ∈ w.stores, p.1 ≤ u.len
  terminated : w.memory[u.len]? = some 0
  strlen : strlen w.memory = strlen u.offered

variable {u : UserMem} {found src rest : List UInt8} {fault : Option (ℕ × ℕ)} {n : ℕ}
  {b : UInt8}

/-! ## The block -/

lemma length_blockOf (size : ℕ) (found : List UInt8) : size < (blockOf size found).length := by
  rw [blockOf, overwrite, List.length_append, List.length_drop, List.length_replicate]
  omega

lemma getElem?_blockOf {size : ℕ} (h : n ≤ size) (found : List UInt8) :
    (blockOf size found)[n]? = some (found.getD n 0) := by
  rw [blockOf, List.getD_eq_getElem?_getD]
  by_cases hn : n < found.length
  · rw [getElem?_overwrite_of_lt hn, List.getElem?_eq_getElem hn, Option.getD_some]
  · rw [getElem?_overwrite_of_le (not_lt.1 hn), List.getElem?_replicate, if_pos (by omega),
      List.getElem?_eq_none (not_lt.1 hn), Option.getD_none]

lemma strlen_append_cons_iff : strlen (src ++ b :: rest) = strlen src ↔ 0 ∈ src ∨ b = 0 := by
  induction src with
  | nil =>
    by_cases hb : b = 0 <;> simp [strlen, cString, hb]
  | cons c src ih =>
    by_cases hc : c = 0
    · simp [strlen, cString, hc]
    · have hcons (l : List UInt8) : strlen (c :: l) = strlen l + 1 := by
        simp [strlen, cString, hc]
      rw [List.cons_append, hcons, hcons, Nat.add_right_cancel_iff, ih, List.mem_cons]
      simp [Ne.symm hc]

lemma heapWrite_of_not_faults {asked : ℕ} (hfault : ¬ Faults asked fault) (noMemory : Int)
    (frees : Bool) :
    heapWrite asked noMemory frees u (some found) fault =
      ⟨u.len, u.len + 1, asked, storesOf (u.first asked) ++ [(u.len + 1, 0)],
        (overwrite (blockOf (u.len + 1) found) (u.first asked)).set (u.len + 1) 0, frees⟩ := by
  have hall : (u.first asked).take asked = u.first asked := List.take_of_length_le (by simp)
  simp only [heapWrite, fromUser_of_not_faults hfault, hall]

lemma heapWrite_of_faults {asked : ℕ} (hfault : Faults asked fault) (noMemory : Int)
    (frees : Bool) :
    heapWrite asked noMemory frees u (some found) fault =
      ⟨-EFAULT, u.len + 1, asked, storesOf (fromUser (u.first asked) asked fault).1,
        overwrite (blockOf (u.len + 1) found) (fromUser (u.first asked) asked fault).1, false⟩ := by
  have hbad := fromUser_of_faults hfault (u.first asked)
  simp only [heapWrite]
  revert hbad
  rcases fromUser (u.first asked) asked fault with ⟨src, ok⟩
  rintro rfl
  rfl

namespace HeapWriter

variable (h : HeapWriter)

/-- A call that copies everything. -/
lemma call_of_not_faults (hfault : ¬ Faults (h.asks u.len) fault) :
    h.call u (some found) fault =
      ⟨u.len, u.len + 1, h.asks u.len, storesOf (u.first (h.asks u.len)) ++ [(u.len + 1, 0)],
        (overwrite (blockOf (u.len + 1) found) (u.first (h.asks u.len))).set (u.len + 1) 0,
        decide (h = kmallocMyWrite)⟩ := by
  cases h with
  | kmallocMyWrite => exact heapWrite_of_not_faults hfault (-EFAULT) true
  | vmallocMyWrite => exact heapWrite_of_not_faults hfault (-ENOMEM) false
  | procWrite => exact heapWrite_of_not_faults hfault (-EFAULT) false

/-- The message, and the byte behind it, are at the start of the block. -/
lemma overwrite_first (u : UserMem) (found : List UInt8) :
    ∃ rest, overwrite (blockOf (u.len + 1) found) (u.first (h.asks u.len)) =
      u.offered ++ h.behind u found :: rest := by
  have hlen := length_blockOf (u.len + 1) found
  cases h with
  | kmallocMyWrite =>
    rw [asks, overwrite, u.first_len_succ, List.append_assoc]
    exact ⟨_, rfl⟩
  | vmallocMyWrite | procWrite =>
    have hbyte : (blockOf (u.len + 1) found)[u.len]? = some (found.getD u.len 0) :=
      getElem?_blockOf (by omega) found
    rw [List.getElem?_eq_getElem (by omega), Option.some_inj] at hbyte
    refine ⟨(blockOf (u.len + 1) found).drop (u.len + 1), ?_⟩
    show overwrite _ (u.first u.len) = u.offered ++ found.getD u.len 0 :: _
    rw [overwrite, u.first_len, ← UserMem.len, List.drop_eq_getElem_cons (by omega), hbyte]

/-- The terminator is stored behind that byte. -/
lemma memory_call (hfault : ¬ Faults (h.asks u.len) fault) (found : List UInt8) :
    ∃ rest, (h.call u (some found) fault).memory = u.offered ++ h.behind u found :: rest := by
  obtain ⟨rest, hrest⟩ := h.overwrite_first u found
  have hlen : u.offered.length ≤ u.len + 1 := Nat.le_succ _
  have hone : u.len + 1 - u.offered.length = 1 := Nat.add_sub_cancel_left _ _
  rw [h.call_of_not_faults hfault, hrest, List.set_append_right _ _ hlen, hone, List.set_cons_succ]
  exact ⟨_, rfl⟩

/-- The listed stores make the memory what it is. -/
lemma store_call (hfault : ¬ Faults (h.asks u.len) fault) (found : List UInt8) :
    store (blockOf (u.len + 1) found) (h.call u (some found) fault).stores =
      (h.call u (some found) fault).memory := by
  have hlen := length_blockOf (u.len + 1) found
  have hasks : h.asks u.len ≤ u.len + 1 := by
    cases h with
    | kmallocMyWrite => exact le_rfl
    | vmallocMyWrite | procWrite => exact Nat.le_succ _
  rw [h.call_of_not_faults hfault, store_append, store_storesOf (by rw [u.length_first]; omega)]
  rfl

end HeapWriter

/-- **The terminator is stored behind the block.** Whenever allocation and copy succeed, the
last store goes to the index after the block, and no call stays in bounds.  All other stores
stay in it.  The message ends where it should only if a 0 comes to lie behind it, which nobody
has stored there, and `strlen` is right only in that case or when the message has a 0 itself. -/
theorem heap_write_out_of_bounds (h : HeapWriter) (u : UserMem) (found : List UInt8)
    (hfault : ¬ Faults (h.asks u.len) fault) :
    ¬ InBounds u (h.call u (some found) fault) ∧
      ((h.call u (some found) fault).asked = u.len ↔ h ≠ .kmallocMyWrite) ∧
      (h.call u (some found) fault).size = u.len + 1 ∧
      store (blockOf (u.len + 1) found) (h.call u (some found) fault).stores =
        (h.call u (some found) fault).memory ∧
      (∃ stores, (h.call u (some found) fault).stores = stores ++ [(u.len + 1, 0)] ∧
        ∀ p ∈ stores, p.1 ≤ u.len) ∧
      ((h.call u (some found) fault).memory[u.len]? = some 0 ↔ h.behind u found = 0) ∧
      (strlen (h.call u (some found) fault).memory = strlen u.offered ↔
        0 ∈ u.offered ∨ h.behind u found = 0) := by
  obtain ⟨rest, hmem⟩ := h.memory_call hfault found
  have hstores : (h.call u (some found) fault).stores =
      storesOf (u.first (h.asks u.len)) ++ [(u.len + 1, 0)] := by
    rw [h.call_of_not_faults hfault]
  have hasks : (h.call u (some found) fault).asked = h.asks u.len := by
    rw [h.call_of_not_faults hfault]
  refine ⟨fun hbounds => ?_, ?_, by rw [h.call_of_not_faults hfault], h.store_call hfault found,
    ⟨_, hstores, fun p hp => ?_⟩, ?_, ?_⟩
  · -- the terminator
    have hlast := hbounds.stores (u.len + 1, 0) (by simp [hstores])
    dsimp only at hlast
    omega
  · rw [hasks]
    cases h <;> simp [HeapWriter.asks]
  · have hlt := mem_storesOf hp
    rw [u.length_first] at hlt
    cases h <;> simp only [HeapWriter.asks] at hlt <;> omega
  · rw [hmem, UserMem.len, List.getElem?_append_right le_rfl, Nat.sub_self,
      List.getElem?_cons_zero, Option.some_inj]
  · rw [hmem, strlen_append_cons_iff]

theorem heap_write_out_of_bounds_hi :
    ¬ InBounds ⟨[104, 105], fun _ => 0⟩
      (HeapWriter.procWrite.call ⟨[104, 105], fun _ => 0⟩ (some [1, 2, 3, 4]) (some (2, 0))) :=
  (heap_write_out_of_bounds .procWrite ⟨[104, 105], fun _ => 0⟩ [1, 2, 3, 4]
    (show ¬ Faults 2 (some (2, 0)) by decide)).1

/-- "hi", with "x" behind it. -/
def hix : UserMem := ⟨[104, 105], fun _ => 120⟩

/-- **A message runs on.** Of "hi", written where the memory is full of "x", each handler stores
a 0 at the index 3 behind the 3 bytes it has allocated, and leaves the string "hix"; that of
`kmalloc.c` has also asked the caller for 3 bytes. -/
theorem heap_write_hix :
    ((3, 0) ∈ (Kmalloc.myWrite hix (some [120, 120, 120, 120]) none).stores ∧
      (Kmalloc.myWrite hix (some [120, 120, 120, 120]) none).asked = 3 ∧
      cString (Kmalloc.myWrite hix (some [120, 120, 120, 120]) none).memory = [104, 105, 120] ∧
      ¬ InBounds hix (Kmalloc.myWrite hix (some [120, 120, 120, 120]) none)) ∧
    ((3, 0) ∈ (Vmalloc.myWrite hix (some [120, 120, 120, 120]) none).stores ∧
      cString (Vmalloc.myWrite hix (some [120, 120, 120, 120]) none).memory = [104, 105, 120] ∧
      ¬ InBounds hix (Vmalloc.myWrite hix (some [120, 120, 120, 120]) none)) ∧
    (3, 0) ∈ (Procfs.procWrite hix (some [120, 120, 120, 120]) none).stores ∧
      cString (Procfs.procWrite hix (some [120, 120, 120, 120]) none).memory = [104, 105, 120] ∧
      ¬ InBounds hix (Procfs.procWrite hix (some [120, 120, 120, 120]) none) := by
  have hlate {w : HeapWrite} (hmem : (3, 0) ∈ w.stores) : ¬ InBounds hix w := by
    intro hbounds
    exact absurd (hbounds.stores _ hmem) (by decide)
  exact ⟨⟨by decide, by decide, by decide, hlate (by decide)⟩,
    ⟨by decide, by decide, hlate (by decide)⟩, by decide, by decide, hlate (by decide)⟩

end Chardev

end KernelDriverLab
