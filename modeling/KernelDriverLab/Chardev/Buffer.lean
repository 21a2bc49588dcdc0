import KernelDriverLab.Chardev.Reading
import Mathlib.Data.List.Induction
import Mathlib.Data.List.TakeWhile

/-!
# The fixed device buffer

`Terminated` is what the handlers rely on: the buffer has its 1024 bytes, and the last one
is 0.  A write can fill all bytes, but the terminator follows a copy that succeeds, and a
copy that faults stops before the last byte or clears it.  `writeStores` and `readStores` are
the single stores of the two functions, in order; the handlers are what they do to the
buffer.
-/

namespace KernelDriverLab.Chardev

open Lib

variable {buf user src : List UInt8} {fault : Option (ℕ × ℕ)} {n i : ℕ}

/-! ## Copies -/

lemma length_overwrite (h : src.length ≤ buf.length) : (overwrite buf src).length = buf.length := by
  rw [overwrite, List.length_append, List.length_drop]
  omega

lemma getElem?_overwrite_of_le (h : src.length ≤ i) : (overwrite buf src)[i]? = buf[i]? := by
  rw [overwrite, List.getElem?_append_right h, List.getElem?_drop]
  congr 1
  omega

lemma getElem?_overwrite_of_lt (h : i < src.length) : (overwrite buf src)[i]? = src[i]? := by
  rw [overwrite, List.getElem?_append_left h]

/-- What `copy_from_user` stores, and whether it could read all bytes. -/
def fromUser (user : List UInt8) (n : ℕ) (fault : Option (ℕ × ℕ)) : List UInt8 × Bool :=
  match fault with
  | none => (user.take n, true)
  | some (k, z) =>
      if k < n then (user.take k ++ List.replicate (min z (n - k)) 0, false)
      else (user.take n, true)

lemma copyFromUser_eq (mem user : List UInt8) (n : ℕ) (fault : Option (ℕ × ℕ)) :
    copyFromUser mem user n fault =
      (overwrite mem (fromUser user n fault).1, (fromUser user n fault).2) := by
  rcases fault with _ | ⟨k, z⟩
  · rfl
  · rw [copyFromUser, fromUser]
    split_ifs <;> rfl

/-- The number of bytes that the write handlers ask for. -/
def toCopy (user : List UInt8) : ℕ := if user.length > BUFF_SIZE then BUFF_SIZE else user.length

lemma toCopy_le (user : List UInt8) : toCopy user ≤ user.length ∧ toCopy user ≤ BUFF_SIZE := by
  rw [toCopy]
  split_ifs <;> omega

/-- A copy stays within the bytes asked for. -/
lemma length_fromUser_le (h : n ≤ user.length) (fault : Option (ℕ × ℕ)) :
    (fromUser user n fault).1.length ≤ n := by
  rcases fault with _ | ⟨k, z⟩
  · simp [fromUser]
  · rw [fromUser]
    split_ifs with hk
    · simp only [List.length_append, List.length_take, List.length_replicate]
      omega
    · simp

lemma length_fromUser (h : n ≤ user.length) (hok : (fromUser user n fault).2 = true) :
    (fromUser user n fault).1.length = n := by
  rcases fault with _ | ⟨k, z⟩
  · simpa [fromUser] using h
  · rw [fromUser] at hok ⊢
    split_ifs with hk
    · simp [hk] at hok
    · simpa using h

/-- A copy that faults leaves the last byte alone or clears it. -/
lemma last_fromUser (hbad : (fromUser user n fault).2 = false)
    (hlast : (fromUser user n fault).1.length = n) :
    (fromUser user n fault).1[n - 1]? = some 0 := by
  rcases fault with _ | ⟨k, z⟩
  · cases hbad
  · rw [fromUser] at hbad hlast ⊢
    split_ifs at hbad hlast ⊢ with hk
    simp only [List.length_append, List.length_take, List.length_replicate] at hlast
    have hle : (user.take k).length ≤ n - 1 := by
      rw [List.length_take]
      omega
    rw [List.getElem?_append_right hle, List.getElem?_replicate, if_pos]
    rw [List.length_take]
    omega

lemma fromUser_of_not_faults (h : ¬ Faults n fault) (user : List UInt8) :
    fromUser user n fault = (user.take n, true) := by
  rcases fault with _ | ⟨k, z⟩
  · rfl
  · exact if_neg h

lemma fromUser_of_faults (h : Faults n fault) (user : List UInt8) :
    (fromUser user n fault).2 = false := by
  rcases fault with _ | ⟨k, z⟩
  · exact h.elim
  · have hk : k < n := h
    rw [fromUser, if_pos hk]

/-! ## The invariant -/

/-- A buffer of the full size whose last byte is 0. -/
structure Terminated (buf : List UInt8) : Prop where
  length : buf.length = BUFF_SIZE
  last : buf[BUFF_SIZE - 1]? = some 0

lemma terminated_zeroed : Terminated (List.replicate BUFF_SIZE 0) :=
  ⟨List.length_replicate, by rw [List.getElem?_replicate, if_pos (by decide)]⟩

/-- `strlen` stops at a zero. -/
lemma strlen_le (h : buf[i]? = some 0) : strlen buf ≤ i := by
  by_contra hlt
  have hi : (cString buf)[i]? = some 0 := by
    rw [← take_strlen, List.getElem?_take, if_pos (not_le.1 hlt), h]
  have hmem := List.mem_takeWhile_imp (List.mem_of_getElem? hi)
  simp at hmem

/-- The byte at which `strlen` stops within the buffer is 0. -/
lemma getElem?_strlen (h : strlen buf < buf.length) : buf[strlen buf]? = some 0 := by
  have hset := congrArg (fun l : List UInt8 => l[strlen buf]?) (set_strlen buf)
  simpa [h] using hset.symm

lemma Terminated.strlen_le (h : Terminated buf) : strlen buf ≤ BUFF_SIZE - 1 :=
  Chardev.strlen_le h.last

/-- **Writes keep the terminator**, also those that fault. -/
lemma Terminated.writeMessage (h : Terminated buf) (user : List UInt8)
    (fault : Option (ℕ × ℕ)) : Terminated (writeMessage buf user fault).2 := by
  obtain ⟨huser, hsize⟩ := toCopy_le user
  have hlen := length_fromUser_le huser fault
  have hbuf := h.length
  simp only [Chardev.writeMessage, copyFromUser_eq]
  rw [← toCopy]
  cases hok : (fromUser user (toCopy user) fault).2 with
  | false =>
    refine ⟨by rw [length_overwrite (by omega), hbuf], ?_⟩
    rcases Nat.lt_or_ge (BUFF_SIZE - 1) (fromUser user (toCopy user) fault).1.length with hlt | hle
    · -- the copy comes as far as the last byte of the buffer
      have hfull : toCopy user = BUFF_SIZE := by omega
      have hlast := last_fromUser hok (by omega)
      rw [hfull] at hlast hlt ⊢
      rw [getElem?_overwrite_of_lt hlt, hlast]
    · rw [getElem?_overwrite_of_le hle, h.last]
  | true =>
    have hall := length_fromUser huser hok
    refine ⟨by rw [List.length_set, length_overwrite (by omega), hbuf], ?_⟩
    split_ifs with hlt
    · rw [List.getElem?_set_ne (by omega), getElem?_overwrite_of_le (by omega), h.last]
    · rw [List.getElem?_set_self]
      rw [length_overwrite (by omega), hbuf]
      decide

/-! ## The single stores -/

/-- The stores `device_buffer[i] = b` of a call, in order. -/
abbrev Stores : Type := List (ℕ × UInt8)

/-- What the stores make of the buffer. -/
def store (buf : List UInt8) (stores : Stores) : List UInt8 :=
  stores.foldl (fun buf p => buf.set p.1 p.2) buf

/-- The stores of a copy to the start of the buffer. -/
def storesOf (src : List UInt8) : Stores := src.mapIdx Prod.mk

/-- The stores of the write handlers. -/
def writeStores (user : List UInt8) (fault : Option (ℕ × ℕ)) : Stores :=
  match fromUser user (toCopy user) fault with
  | (src, false) => storesOf src
  | (src, true) =>
    let safeLen := if toCopy user < BUFF_SIZE - 1 then toCopy user else BUFF_SIZE - 1
    storesOf src ++ [(safeLen, 0)]

/-- The stores of the read handlers. -/
def readStores (buf : List UInt8) (offset : ℕ) : Stores :=
  if offset ≥ strlen buf then [] else [(strlen buf, 0)]

lemma store_append (buf : List UInt8) (l l' : Stores) :
    store buf (l ++ l') = store (store buf l) l' := List.foldl_append

lemma overwrite_concat {b : UInt8} (h : src.length < buf.length) :
    overwrite buf (src ++ [b]) = (overwrite buf src).set src.length b := by
  rw [overwrite, overwrite, List.set_append_right _ _ le_rfl, Nat.sub_self,
    List.drop_eq_getElem_cons h, List.set_cons_zero, List.length_append, List.length_singleton,
    List.append_assoc, List.singleton_append]

lemma store_storesOf (h : src.length ≤ buf.length) :
    store buf (storesOf src) = overwrite buf src := by
  induction src using List.reverseRecOn with
  | nil => rfl
  | append_singleton src b ih =>
    rw [List.length_append, List.length_singleton] at h
    rw [storesOf, List.mapIdx_concat, store_append, ← storesOf, ih (by omega), overwrite_concat h]
    rfl

lemma mem_storesOf {p : ℕ × UInt8} (h : p ∈ storesOf src) : p.1 < src.length := by
  obtain ⟨i, hi, rfl⟩ := List.mem_mapIdx.1 h
  exact hi

/-- A write whose copy faults leaves what was copied at the front of the buffer. -/
lemma writeMessage_of_faults (hfault : Faults (toCopy user) fault) (buf : List UInt8) :
    writeMessage buf user fault =
      (-EFAULT, overwrite buf (fromUser user (toCopy user) fault).1) := by
  have hbad := fromUser_of_faults hfault user
  simp only [writeMessage, copyFromUser_eq]
  rw [← toCopy, hbad]

/-- A write that copies its message leaves it there as a string, cut to the 1023 bytes that fit. -/
lemma writeMessage_of_not_faults (hfault : ¬ Faults (toCopy user) fault)
    (hbuf : buf.length = BUFF_SIZE) :
    writeMessage buf user fault =
      ((toCopy user : Int), overwrite buf (user.take (BUFF_SIZE - 1) ++ [0])) := by
  have hsize : BUFF_SIZE = 1024 := rfl
  simp only [writeMessage, copyFromUser_eq]
  rw [← toCopy, fromUser_of_not_faults hfault]
  refine Prod.ext rfl ?_
  dsimp only
  by_cases hshort : user.length < BUFF_SIZE
  · -- the terminator goes behind the message
    have hn : toCopy user = user.length := if_neg (by omega)
    have hsafe : (if user.length < BUFF_SIZE - 1 then user.length else BUFF_SIZE - 1) =
        user.length := by
      split_ifs <;> omega
    rw [hn, hsafe, List.take_length, List.take_of_length_le (by omega),
      overwrite_concat (by omega)]
  · -- the terminator replaces the last of 1024 bytes
    have hn : toCopy user = BUFF_SIZE := by
      rw [toCopy]
      split_ifs <;> omega
    have hkept : (user.take (BUFF_SIZE - 1)).length = BUFF_SIZE - 1 := by
      rw [List.length_take]
      omega
    have hlast : user.take BUFF_SIZE = user.take (BUFF_SIZE - 1) ++ [user[BUFF_SIZE - 1]] :=
      List.take_succ_eq_append_getElem (by omega)
    rw [hn, if_neg (by omega), hlast, overwrite_concat (by omega), overwrite_concat (by omega),
      hkept, List.set_set]

/-- The write handlers are their stores. -/
lemma store_writeStores (h : buf.length = BUFF_SIZE) (user : List UInt8)
    (fault : Option (ℕ × ℕ)) :
    store buf (writeStores user fault) = (writeMessage buf user fault).2 := by
  obtain ⟨huser, hsize⟩ := toCopy_le user
  have hlen := length_fromUser_le huser fault
  have hcopy : store buf (storesOf (fromUser user (toCopy user) fault).1) =
      overwrite buf (fromUser user (toCopy user) fault).1 := store_storesOf (by omega)
  simp only [writeMessage, copyFromUser_eq, writeStores]
  rw [← toCopy]
  revert hcopy
  rcases fromUser user (toCopy user) fault with ⟨src, _ | _⟩ <;> intro hcopy
  · exact hcopy
  · rw [store_append, hcopy]
    rfl

/-- The write handlers store below 1024 only. -/
lemma writeStores_lt {p : ℕ × UInt8} (h : p ∈ writeStores user fault) : p.1 < BUFF_SIZE := by
  obtain ⟨huser, hsize⟩ := toCopy_le user
  have hlen := length_fromUser_le huser fault
  have hmem : p ∈ storesOf (fromUser user (toCopy user) fault).1 ∨ p.1 ≤ BUFF_SIZE - 1 := by
    rw [writeStores] at h
    revert h
    rcases fromUser user (toCopy user) fault with ⟨src, _ | _⟩ <;> intro h
    · exact .inl h
    · refine (List.mem_append.1 h).imp_right fun hp => ?_
      rw [List.mem_singleton.1 hp]
      dsimp only
      split_ifs <;> omega
  rcases hmem with hp | hp
  · exact (mem_storesOf hp).trans_le (hlen.trans hsize)
  · exact hp.trans_lt (by decide)

/-- The read handlers store one terminator, over the terminator. -/
lemma store_readStores (buf : List UInt8) (offset : ℕ) :
    store buf (readStores buf offset) = terminate buf offset := by
  rw [readStores, terminate]
  split_ifs <;> rfl

lemma Terminated.readStores_lt (h : Terminated buf) {offset : ℕ} {p : ℕ × UInt8}
    (hp : p ∈ readStores buf offset) : p.1 < BUFF_SIZE := by
  have hlen := h.strlen_le
  rw [readStores] at hp
  split_ifs at hp with hoff
  · cases hp
  · rw [List.mem_singleton.1 hp]
    exact hlen.trans_lt (by decide)

end KernelDriverLab.Chardev
