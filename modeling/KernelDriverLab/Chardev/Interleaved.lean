import KernelDriverLab.Chardev.DeviceBuffer
import KernelDriverLab.Lib.Machine

/-!
# Calls that overlap

Nothing keeps two calls of `my_read` and `my_write` of `procfs_module.c` apart, and
`device_buffer` has no lock.  Here a call is the sequence of its accesses to single bytes, and the
accesses of any number of calls interleave.  The memory is the buffer with whatever lies behind
it, which may change at any time: a `strlen` that finds no 0 in the buffer reads on there, and an
access beyond the memory is where the model ends.

A call that nothing interrupts is the handler of the sequential model.  With others between,
the last byte of the buffer is 0 unless a call that has filled all of it stands before its
terminator (`Unfinished`), so no call leaves the buffer as long as none looks at the last byte
just then.
-/

namespace KernelDriverLab.Chardev.Interleaved

open Lib Prog

/-- An access to a byte, counted from the beginning of the buffer. -/
inductive Op where
  /-- `strlen`, or `printk` of the string, looks at a byte. -/
  | scan (i : ℕ)
  /-- `copy_to_user` loads a byte. -/
  | load (i : ℕ)
  /-- A byte is stored, by `copy_from_user` or as the terminator. -/
  | store (i : ℕ) (b : UInt8)
deriving DecidableEq, Repr

/-- What an access answers. -/
@[reducible] def Op.Ans : Op → Type
  | store _ _ => Unit
  | _ => UInt8

/-- The byte that is accessed. -/
def Op.index : Op → ℕ
  | scan i | load i | store i _ => i

/-- A function of the module, as the accesses that it makes. -/
abbrev Driver (α : Type) : Type := Prog Op Op.Ans α

/-- An answer, when there is such a byte. -/
def look (mem : List UInt8) (i : ℕ) : Outcome (List UInt8) UInt8 :=
  match mem[i]? with
  | some b => .done b mem
  | none => .oops mem

/-- What each access does. -/
def sem : Prog.Sem Op Op.Ans (List UInt8)
  | .scan i, mem => look mem i
  | .load i, mem => look mem i
  | .store i b, mem => if i < mem.length then .done () (mem.set i b) else .oops mem

/-! ## The calls -/

/-- The search for the end of a string from byte `i` on, with `n` bytes of memory left. -/
def scanFrom : ℕ → ℕ → Driver ℕ
  -- there is no byte `i`
  | 0, i => do
    let _ ← op (Op.scan i)
    pure i
  | n + 1, i => do
    let b ← op (Op.scan i)
    if b = 0 then pure i else scanFrom n (i + 1)

/-- `strlen(device_buffer)` in a memory of `size` bytes; `printk` of the string looks at the same
bytes. -/
def strlen (size : ℕ) : Driver ℕ := scanFrom size 0

/-- One store after the other. -/
def storeEach : Stores → Driver Unit
  | [] => pure ()
  | p :: l => do
    op (Op.store p.1 p.2)
    storeEach l

/-- Load `n` bytes from byte `i` on. -/
def loadEach : ℕ → ℕ → Driver (List UInt8)
  | 0, _ => pure []
  | n + 1, i => do
    let b ← op (Op.load i)
    let bs ← loadEach n (i + 1)
    pure (b :: bs)

/-- `copy_to_user` of `n` bytes from the beginning of the buffer. -/
def copyToUser (n : ℕ) : Option ℕ → Driver (List UInt8 × Bool)
  | some k =>
    if k < n then do
      let bs ← loadEach k 0
      pure (bs, false)
    else do
      let bs ← loadEach n 0
      pure (bs, true)
  | none => do
    let bs ← loadEach n 0
    pure (bs, true)

/-- `my_write`: the copy and, unless it has faulted, the terminator and the message for the
log. -/
def myWrite (size : ℕ) (user : List UInt8) (fault : Option (ℕ × ℕ)) : Driver Int := do
  storeEach (writeStores user fault)
  if (fromUser user (toCopy user) fault).2 then
    let _ ← strlen size
    pure (toCopy user)
  else pure (-EFAULT)

/-- `my_read`: the length, the terminator, the copy and, unless it has faulted, the message for
the log. -/
def myRead (size offset : ℕ) (fault : Option ℕ) : Driver Reply := do
  let length ← strlen size
  if offset ≥ length then pure ⟨0, [], offset⟩
  else
    op (Op.store length 0)
    match ← copyToUser length fault with
    | (stored, false) => pure ⟨-EFAULT, stored, offset⟩
    | (stored, true) => do
      let _ ← strlen size
      pure ⟨length, stored, offset + length⟩

/-! ## A call that nothing interrupts -/

section Alone

variable {buf behind mem : List UInt8}

lemma run_storeEach (l : Stores) (hl : ∀ p ∈ l, p.1 < mem.length) :
    run sem (storeEach l) mem = .done () (store mem l) := by
  induction l generalizing mem with
  | nil => rfl
  | cons p l ih =>
    have hp : p.1 < mem.length := hl p List.mem_cons_self
    have hrest : ∀ q ∈ l, q.1 < (mem.set p.1 p.2).length := by
      intro q hq
      rw [List.length_set]
      exact hl q (List.mem_cons_of_mem _ hq)
    have hstep : sem (.store p.1 p.2) mem = .done () (mem.set p.1 p.2) := if_pos hp
    rw [storeEach, op_bind, run_act_done hstep, ih hrest]
    rfl

/-- Stores into the buffer leave what is behind it alone. -/
lemma store_behind (l : Stores) (hl : ∀ p ∈ l, p.1 < buf.length) :
    store (buf ++ behind) l = store buf l ++ behind := by
  induction l generalizing buf with
  | nil => rfl
  | cons p l ih =>
    have hrest : ∀ q ∈ l, q.1 < (buf.set p.1 p.2).length := by
      intro q hq
      rw [List.length_set]
      exact hl q (List.mem_cons_of_mem _ hq)
    show store ((buf ++ behind).set p.1 p.2) l = store (buf.set p.1 p.2) l ++ behind
    rw [List.set_append_left _ _ (hl p List.mem_cons_self), ih hrest]

lemma run_loadEach (n i : ℕ) (hn : i + n ≤ mem.length) :
    run sem (loadEach n i) mem = .done ((mem.drop i).take n) mem := by
  induction n generalizing i with
  | zero => simp [loadEach]
  | succ n ih =>
    have hi : i < mem.length := by omega
    have hstep : sem (.load i) mem = .done mem[i] mem := by
      simp [sem, look, hi]
    rw [loadEach, op_bind, run_act_done hstep, run_bind, ih (i + 1) (by omega),
      List.drop_eq_getElem_cons hi]
    rfl

lemma run_copyToUser (n : ℕ) (hn : n ≤ buf.length) (fault : Option ℕ) :
    run sem (copyToUser n fault) (buf ++ behind) =
      .done (Chardev.copyToUser buf n fault) (buf ++ behind) := by
  have hload {k : ℕ} (hk : k ≤ buf.length) :
      run sem (loadEach k 0) (buf ++ behind) = .done (buf.take k) (buf ++ behind) := by
    rw [run_loadEach k 0 (by rw [List.length_append]; omega), List.drop_zero,
      List.take_append_of_le_length hk]
  cases fault with
  | none =>
    rw [copyToUser, run_bind, hload hn]
    rfl
  | some k =>
    rw [copyToUser, Chardev.copyToUser]
    split_ifs with hk
    · rw [run_bind, hload (by omega)]
      rfl
    · rw [run_bind, hload hn]
      rfl

/-- `strlen` passes over what is not 0. -/
lemma run_scanFrom (h : Terminated buf) (n i : ℕ) (hn : BUFF_SIZE ≤ i + n)
    (hi : i ≤ Chardev.strlen buf) :
    run sem (scanFrom n i) (buf ++ behind) = .done (Chardev.strlen buf) (buf ++ behind) := by
  have hlen := h.length
  have hstrlen := h.strlen_le
  have hsize : BUFF_SIZE = 1024 := rfl
  induction n generalizing i with
  | zero => omega
  | succ n ih =>
    have hlt : i < buf.length := by omega
    have hstep : sem (.scan i) (buf ++ behind) = .done buf[i] (buf ++ behind) := by
      simp [sem, look, List.getElem?_append_left hlt, hlt]
    rw [scanFrom, op_bind, run_act_done hstep]
    rcases Nat.lt_or_eq_of_le hi with hbefore | rfl
    · have hne : buf[i] ≠ 0 := by
        intro hzero
        have hle : Chardev.strlen buf ≤ i := strlen_le (by rw [List.getElem?_eq_getElem hlt, hzero])
        omega
      rw [if_neg hne]
      exact ih (i + 1) (by omega) (by omega)
    · have hzero := getElem?_strlen hlt
      rw [List.getElem?_eq_getElem hlt] at hzero
      rw [if_pos (Option.some.inj hzero)]
      rfl

lemma run_strlen (h : Terminated buf) :
    run sem (strlen (buf ++ behind).length) (buf ++ behind) =
      .done (Chardev.strlen buf) (buf ++ behind) := by
  refine run_scanFrom h _ 0 ?_ (Nat.zero_le _)
  rw [List.length_append, h.length, Nat.zero_add]
  exact Nat.le_add_right _ _

/-- **`my_write` alone** is the handler of the sequential model. -/
lemma run_myWrite (h : Terminated buf) (user : List UInt8) (fault : Option (ℕ × ℕ)) :
    run sem (myWrite (buf ++ behind).length user fault) (buf ++ behind) =
      .done (Procfs.myWrite buf user fault).1 ((Procfs.myWrite buf user fault).2 ++ behind) := by
  have hlt : ∀ p ∈ writeStores user fault, p.1 < buf.length := by
    intro p hp
    rw [h.length]
    exact writeStores_lt hp
  have hlt' : ∀ p ∈ writeStores user fault, p.1 < (buf ++ behind).length := by
    intro p hp
    rw [List.length_append]
    exact Nat.lt_add_right _ (hlt p hp)
  have hret : (writeMessage buf user fault).1 =
      if (fromUser user (toCopy user) fault).2 then (toCopy user : Int) else -EFAULT := by
    simp only [writeMessage, copyFromUser_eq]
    rw [← toCopy]
    rcases fromUser user (toCopy user) fault with ⟨src, _ | _⟩ <;> rfl
  have hterm : Terminated (writeMessage buf user fault).2 := h.writeMessage user fault
  have hsize : (buf ++ behind).length = ((writeMessage buf user fault).2 ++ behind).length := by
    rw [List.length_append, List.length_append, h.length, hterm.length]
  rw [Procfs.myWrite, hret, myWrite, run_bind, run_storeEach _ hlt', store_behind _ hlt,
    store_writeStores h.length]
  dsimp only
  split_ifs
  · rw [hsize, run_bind, run_strlen hterm]
    rfl
  · rfl

/-- **`my_read` alone** is the handler of the sequential model. -/
lemma run_myRead (h : Terminated buf) (len offset : ℕ) (fault : Option ℕ) :
    run sem (myRead (buf ++ behind).length offset fault) (buf ++ behind) =
      .done (Procfs.myRead buf len offset fault).1
        ((Procfs.myRead buf len offset fault).2 ++ behind) := by
  have hlen := h.length
  have hstrlen := h.strlen_le
  have hsize : BUFF_SIZE = 1024 := rfl
  have hlt : Chardev.strlen buf < buf.length := by omega
  rw [Procfs.myRead, terminate_eq, readMessage, myRead, run_bind, run_strlen h]
  dsimp only
  split_ifs with hoff
  · rfl
  · have hstep : sem (.store (Chardev.strlen buf) 0) (buf ++ behind) =
        .done () (buf ++ behind) := by
      rw [sem, if_pos (by rw [List.length_append]; omega), List.set_append_left _ _ hlt, set_strlen]
    rw [op_bind, run_act_done hstep, run_bind, run_copyToUser _ (by omega)]
    rcases Chardev.copyToUser buf (Chardev.strlen buf) fault with ⟨stored, _ | _⟩
    · rfl
    · dsimp only
      rw [run_bind, run_strlen h]
      rfl

end Alone

/-! ## Calls that overlap -/

/-- A call from beginning to end. -/
def body (size : ℕ) : BufferCall → Driver Unit
  | .write user fault => do
    let _ ← myWrite size user fault
    pure ()
  | .read _ offset fault => do
    let _ ← myRead size offset fault
    pure ()

/-- What happens beside the accesses of the calls. -/
inductive Event where
  | call (c : BufferCall)
  /-- What lies behind the buffer changes. -/
  | behind (bs : List UInt8)

/-- Any process can call one of the functions at any time. -/
def machine : Machine Op Op.Ans BufferCall Unit (List UInt8) Unit Event where
  sem _ _ := sem
  ready _ _ _ := true
  again _ _ := none
  event
    | .call c, mem => some (mem, [⟨c, body mem.length c⟩])
    | .behind bs, mem =>
        if BUFF_SIZE + bs.length = mem.length then some (mem.take BUFF_SIZE ++ bs, []) else none

/-- The memory and the calls that work on it. -/
abbrev World : Type := Pool Op Op.Ans BufferCall Unit (List UInt8)

/-- The module has been loaded. -/
def loaded (behind : List UInt8) : World := ⟨List.replicate BUFF_SIZE 0 ++ behind, []⟩

/-- The runs of the module, with these bytes behind its buffer. -/
def system (behind : List UInt8) : System World (Move Unit Event) :=
  machine.system (· = loaded behind)

/-- A call of `my_read`. -/
def Reads : BufferCall → Bool
  | .write _ _ => false
  | .read _ _ _ => true

/-- The last byte gets something other than 0 before the terminator. -/
def Fills : BufferCall → Bool
  | .write user fault => (writeStores user fault).any fun p => p.1 == BUFF_SIZE - 1 && p.2 != 0
  | .read _ _ _ => false

/-- A call that has filled the buffer stands before its terminator. -/
def Unfinished (w : World) : Prop :=
  ∃ th ∈ w.threads, Fills th.role = true ∧ th.nextOp = some (.store (BUFF_SIZE - 1) 0)

instance (w : World) : Decidable (Unfinished w) := inferInstanceAs (Decidable (∃ _ ∈ _, _))

/-- Neither `strlen` nor `printk` looks at the last byte while a call is unfinished. -/
def Timely (w : World) : Move Unit Event → Prop
  | .run i _ => w.opAt i = some (.scan (BUFF_SIZE - 1)) → ¬ Unfinished w
  | .event _ => True

instance (w : World) : (l : Move Unit Event) → Decidable (Timely w l)
  | .run _ _ => inferInstanceAs (Decidable (_ → _))
  | .event _ => inferInstanceAs (Decidable True)

/-! ## What a call accesses -/

/-- What a call may access, before and after it has filled the buffer.  When the accesses are
`strict`, they do not leave the buffer; otherwise a `my_read` may. -/
@[simp] def allow (strict : Prop) (c : BufferCall) (filled : Bool) : Op → Prop
  | .scan i => filled = false ∧ (strict → i < BUFF_SIZE)
  | .load i => filled = false ∧ (strict → i < BUFF_SIZE)
  | .store i b => (i < BUFF_SIZE ∨ ¬ strict ∧ Reads c = true ∧ b = 0) ∧
      (filled = true → i = BUFF_SIZE - 1 ∧ b = 0) ∧ (i = BUFF_SIZE - 1 → b ≠ 0 → Fills c = true)

/-- What a strict call finds: the last byte is 0 when it is looked at. -/
@[simp] def expect (strict : Prop) : (o : Op) → o.Ans → Prop
  | .scan i, b => strict → i = BUFF_SIZE - 1 → b = 0
  | .load _, _ => True
  | .store _ _, _ => True

/-- Whether the call has filled the buffer. -/
@[simp] def after (filled : Bool) : (o : Op) → o.Ans → Bool
  | .scan _, _ => filled
  | .load _, _ => filled
  | .store i b, _ => i = BUFF_SIZE - 1 ∧ b ≠ 0

/-- What a call may access and finds. -/
@[simps]
def proto (strict : Prop) (c : BufferCall) : Protocol Op Op.Ans Bool where
  allow := allow strict c
  expect _ := expect strict
  after := after

section Follows

variable {strict : Prop} {c : BufferCall}

lemma follows_scanFrom (n i : ℕ) (hi : strict → i < BUFF_SIZE) :
    (scanFrom n i).Follows (proto strict c) false fun filled length =>
      filled = false ∧ (strict → length < BUFF_SIZE) := by
  induction n generalizing i with
  | zero =>
    rw [scanFrom, op_bind]
    exact ⟨⟨rfl, hi⟩, fun _ _ => ⟨rfl, hi⟩⟩
  | succ n ih =>
    rw [scanFrom, op_bind]
    refine ⟨⟨rfl, hi⟩, fun b hb => ?_⟩
    have hlast : strict → i = BUFF_SIZE - 1 → b = 0 := hb
    rw [follows_ite]
    refine ⟨fun _ => ⟨rfl, hi⟩, fun hne => ih (i + 1) fun h => ?_⟩
    have hlt := hi h
    have hbefore : i ≠ BUFF_SIZE - 1 := fun heq => hne (hlast h heq)
    omega

lemma follows_strlen (size : ℕ) : (strlen size).Follows (proto strict c) false
    fun filled length => filled = false ∧ (strict → length < BUFF_SIZE) :=
  follows_scanFrom size 0 fun _ => (by decide)

lemma follows_loadEach (n i : ℕ) (hn : strict → i + n ≤ BUFF_SIZE) :
    (loadEach n i).Follows (proto strict c) false fun filled _ => filled = false := by
  induction n generalizing i with
  | zero => rfl
  | succ n ih =>
    rw [loadEach, op_bind]
    refine ⟨⟨rfl, fun h => ?_⟩, fun b _ => follows_bind.2 (ih (i + 1) fun h => ?_)⟩
    · have hle := hn h
      omega
    · have hle := hn h
      omega

lemma follows_copyToUser (n : ℕ) (hn : strict → n ≤ BUFF_SIZE) (fault : Option ℕ) :
    (copyToUser n fault).Follows (proto strict c) false fun filled _ => filled = false := by
  have hall := @follows_loadEach strict c n 0 fun h => by rw [Nat.zero_add]; exact hn h
  cases fault with
  | none => exact follows_bind.2 hall
  | some k =>
    rw [copyToUser, follows_ite]
    refine ⟨fun hk => follows_bind.2 (follows_loadEach k 0 fun h => ?_),
      fun _ => follows_bind.2 hall⟩
    have hle := hn h
    omega

/-- The stores of a call: either the last byte gets nothing but 0, or it gets the last byte of
the message and then the terminator. -/
lemma writeStores_cases (user : List UInt8) (fault : Option (ℕ × ℕ)) :
    (∀ p ∈ writeStores user fault, p.1 = BUFF_SIZE - 1 → p.2 = 0) ∨
      ∃ front b, writeStores user fault = front ++ [(BUFF_SIZE - 1, b), (BUFF_SIZE - 1, 0)] ∧
        ∀ p ∈ front, p.1 < BUFF_SIZE - 1 := by
  obtain ⟨huser, hsize⟩ := toCopy_le user
  have hlen := length_fromUser_le huser fault
  have hbuf : BUFF_SIZE = 1024 := rfl
  rw [writeStores]
  cases hok : (fromUser user (toCopy user) fault).2 with
  | false =>
    have hcopy : fromUser user (toCopy user) fault =
        ((fromUser user (toCopy user) fault).1, false) := Prod.ext rfl hok
    rw [hcopy]
    refine .inl fun p hp hlast => ?_
    obtain ⟨i, hi, rfl⟩ := List.mem_mapIdx.1 hp
    have hi' : i = BUFF_SIZE - 1 := hlast
    have hzero := last_fromUser hok (by omega)
    have hget := List.getElem?_eq_getElem hi
    rw [show toCopy user - 1 = i by omega, hget] at hzero
    exact Option.some.inj hzero
  | true =>
    have hcopy : fromUser user (toCopy user) fault =
        ((fromUser user (toCopy user) fault).1, true) := Prod.ext rfl hok
    have hall := length_fromUser huser hok
    rw [hcopy]
    dsimp only
    by_cases hfull : toCopy user = BUFF_SIZE
    · right
      have hne : (fromUser user (toCopy user) fault).1 ≠ [] := by
        intro hnil
        rw [hnil, List.length_nil] at hall
        omega
      have hfront : (fromUser user (toCopy user) fault).1.dropLast.length = BUFF_SIZE - 1 := by
        rw [List.length_dropLast, hall, hfull]
      refine ⟨storesOf (fromUser user (toCopy user) fault).1.dropLast,
        (fromUser user (toCopy user) fault).1.getLast hne, ?_, fun p hp => ?_⟩
      · rw [if_neg (by omega)]
        conv_lhs => rw [← List.dropLast_append_getLast hne]
        rw [storesOf, List.mapIdx_concat, hfront]
        simp [storesOf]
      · rw [← hfront]
        exact mem_storesOf hp
    · refine .inl fun p hp hlast => ?_
      rcases List.mem_append.1 hp with hp | hp
      · have hlt := mem_storesOf hp
        omega
      · rw [List.mem_singleton.1 hp]

lemma storeEach_append (l l' : Stores) :
    storeEach (l ++ l') = (do storeEach l; storeEach l') := by
  induction l with
  | nil => rfl
  | cons p l ih =>
    rw [List.cons_append, storeEach, storeEach, ih]
    rfl

lemma follows_storeEach {l : Stores}
    (hl : ∀ p ∈ l, p.1 < BUFF_SIZE ∧ (p.1 = BUFF_SIZE - 1 → p.2 = 0)) :
    (storeEach l).Follows (proto strict c) false fun filled _ => filled = false := by
  induction l with
  | nil => rfl
  | cons p l ih =>
    obtain ⟨hlt, hzero⟩ := hl p List.mem_cons_self
    have hstay : (decide (p.1 = BUFF_SIZE - 1 ∧ p.2 ≠ 0)) = false := by
      rw [decide_eq_false_iff_not]
      exact fun h => h.2 (hzero h.1)
    rw [storeEach, op_bind]
    refine ⟨⟨.inl hlt, fun h => (by cases h), fun hlast hne => absurd (hzero hlast) hne⟩,
      fun _ _ => ?_⟩
    show (storeEach l).Follows _ (decide (p.1 = BUFF_SIZE - 1 ∧ p.2 ≠ 0)) _
    rw [hstay]
    exact ih fun q hq => hl q (List.mem_cons_of_mem _ hq)

lemma follows_writeStores (user : List UInt8) (fault : Option (ℕ × ℕ)) :
    (storeEach (writeStores user fault)).Follows (proto strict (.write user fault)) false
      fun filled _ => filled = false := by
  rcases writeStores_cases user fault with hzero | ⟨front, b, hstores, hfront⟩
  · exact follows_storeEach fun p hp => ⟨writeStores_lt hp, hzero p hp⟩
  · have hfills : b ≠ 0 → Fills (.write user fault) = true := by
      intro hne
      rw [Fills, hstores]
      simp [hne]
    have hlast : BUFF_SIZE - 1 < BUFF_SIZE := by decide
    rw [hstores, storeEach_append, follows_bind]
    refine (follows_storeEach fun p hp => ⟨(hfront p hp).trans hlast,
      fun h => absurd h (Nat.ne_of_lt (hfront p hp))⟩).mono fun filled _ hfilled => ?_
    subst hfilled
    rw [storeEach, op_bind]
    refine ⟨⟨.inl hlast, fun h => (by cases h), fun _ => hfills⟩, fun _ _ => ?_⟩
    rw [storeEach, op_bind]
    refine ⟨⟨.inl hlast, fun _ => ⟨rfl, rfl⟩, fun _ h => absurd rfl h⟩, fun _ _ => ?_⟩
    show decide (BUFF_SIZE - 1 = BUFF_SIZE - 1 ∧ (0 : UInt8) ≠ 0) = false
    simp

lemma follows_body (strict : Prop) (size : ℕ) (c : BufferCall) :
    (body size c).Follows (proto strict c) false fun filled _ => filled = false := by
  cases c with
  | write user fault =>
    rw [body, myWrite, follows_bind, follows_bind]
    refine (follows_writeStores user fault).mono fun filled _ hfilled => ?_
    subst hfilled
    rw [follows_ite]
    refine ⟨fun _ => follows_bind.2 ((follows_strlen size).mono fun _ _ h => h.1), fun _ => rfl⟩
  | read len offset fault =>
    rw [body, myRead, follows_bind, follows_bind]
    refine (follows_strlen size).mono fun filled length hlength => ?_
    obtain ⟨rfl, hlt⟩ := hlength
    rw [follows_ite]
    refine ⟨fun _ => rfl, fun _ => ?_⟩
    rw [op_bind]
    have hinside : length < BUFF_SIZE ∨ ¬ strict ∧ Reads (.read len offset fault) = true ∧
        (0 : UInt8) = 0 := by
      by_cases h : strict
      · exact .inl (hlt h)
      · exact .inr ⟨h, rfl, rfl⟩
    refine ⟨⟨hinside, fun h => (by cases h), fun _ h => absurd rfl h⟩, fun _ _ => ?_⟩
    rw [follows_bind]
    have hstay : (proto strict (.read len offset fault)).after false (.store length 0) () =
        false := by
      simp
    rw [hstay]
    refine (follows_copyToUser length (fun h => Nat.le_of_lt (hlt h)) fault).mono
      fun filled p hfilled => ?_
    subst hfilled
    obtain ⟨stored, _ | _⟩ := p
    · exact rfl
    · exact follows_bind.2 ((follows_strlen size).mono fun _ _ h => h.1)

end Follows

/-! ## Every interleaving -/

/-- Between the accesses the memory keeps its size. -/
@[simps]
def outline (size : ℕ) (strict : Prop) :
    Outline Op Op.Ans BufferCall Unit (List UInt8) Bool Unit where
  proto := proto strict
  ends _ filled _ := filled = false
  here _ _ _ _ _ := True
  always _ mem := mem.length = size

/-- What a scan finds in the last byte. -/
def Settled (strict : Prop) (w : World) : Move Unit Event → Prop
  | .run i _ => strict → w.opAt i = some (.scan (BUFF_SIZE - 1)) →
      w.shared[BUFF_SIZE - 1]? = some 0
  | .event _ => True

lemma look_done {mem mem' : List UInt8} {i : ℕ} {b : UInt8} (h : look mem i = .done b mem') :
    mem' = mem ∧ mem[i]? = some b := by
  rw [look] at h
  split at h
  · rename_i b' hb
    obtain ⟨rfl, rfl⟩ := Outcome.done.inj h
    exact ⟨rfl, hb⟩
  · cases h

lemma store_done {mem mem' : List UInt8} {i : ℕ} {b : UInt8} {x : Unit}
    (h : sem (.store i b) mem = .done x mem') : i < mem.length ∧ mem' = mem.set i b := by
  rw [sem] at h
  split_ifs at h with hlt
  exact ⟨hlt, (Outcome.done.inj h).2.symm⟩

/-- What an event does to the memory. -/
lemma event_done {n : Event} {mem mem' : List UInt8}
    {ths : List (Thread Op Op.Ans BufferCall Unit)} (h : machine.event n mem = some (mem', ths)) :
    (∃ c, mem' = mem ∧ ths = [⟨c, body mem.length c⟩]) ∨
      ∃ bs, BUFF_SIZE + bs.length = mem.length ∧ mem' = mem.take BUFF_SIZE ++ bs ∧ ths = [] := by
  cases n with
  | call c =>
    obtain ⟨rfl, rfl⟩ := Prod.mk.inj (Option.some.inj h)
    exact .inl ⟨c, rfl, rfl⟩
  | behind bs =>
    obtain ⟨hlen, h⟩ := Option.ite_none_right_eq_some.1 h
    obtain ⟨rfl, rfl⟩ := Prod.mk.inj (Option.some.inj h)
    exact .inr ⟨bs, hlen, rfl, rfl⟩

lemma sound_outline (size : ℕ) (strict : Prop) :
    (outline size strict).Sound machine (Settled strict) where
  act {g w i e r st o k x s} hw hc hi hst hready hsem := by
    have hlen : w.shared.length = size := hw.always
    refine ⟨?_, (), ?_, trivial, fun _ _ _ _ _ _ => trivial⟩
    · cases o with
      | scan n =>
        obtain ⟨-, hb⟩ := look_done hsem
        intro h hlast
        subst hlast
        exact Option.some.inj (hb.symm.trans (hc h (Pool.opAt_eq hi)))
      | load n => trivial
      | store n b => trivial
    · cases o with
      | scan n =>
        obtain ⟨rfl, -⟩ := look_done hsem
        exact hlen
      | load n =>
        obtain ⟨rfl, -⟩ := look_done hsem
        exact hlen
      | store n b =>
        obtain ⟨-, rfl⟩ := store_done hsem
        rw [outline_always, List.length_set]
        exact hlen
  again _ hagain := by cases hagain
  event {g w n s ths} hw _ hevent := by
    have hlen : w.shared.length = size := hw.always
    rcases event_done hevent with ⟨c, rfl, rfl⟩ | ⟨bs, hbs, rfl, rfl⟩
    · have hadmits : (outline size strict).Admits g () w w.shared [⟨c, body w.shared.length c⟩] :=
        Outline.admits_single false hlen (fun _ _ _ _ _ => trivial)
          ⟨follows_body strict _ c, trivial⟩
      exact ⟨(), hadmits.always, hadmits.old, hadmits.new⟩
    · have hlen' : (w.shared.take BUFF_SIZE ++ bs).length = size := by
        rw [List.length_append, List.length_take]
        omega
      have hadmits : (outline size strict).Admits g () w (w.shared.take BUFF_SIZE ++ bs) [] :=
        Outline.admits_nil hlen' fun _ _ _ _ _ => trivial
      exact ⟨(), hadmits.always, hadmits.old, hadmits.new⟩

lemma holds_loaded (behind : List UInt8) (strict : Prop) :
    (outline (BUFF_SIZE + behind.length) strict).Holds () (loaded behind) := by
  refine ⟨?_, fun j th hj => by cases hj⟩
  simp [loaded]

/-- **The last byte is 0 unless a call is unfinished.** -/
structure Inv (size : ℕ) (w : World) : Prop where
  holds : (outline size False).Holds () w
  last : w.shared[BUFF_SIZE - 1]? = some 0 ∨ Unfinished w

/-- A call that has filled the buffer goes on with the terminator. -/
lemma nextOp_of_filled {strict : Prop} {c : BufferCall} {p : Driver Unit}
    (h : p.Follows (proto strict c) true fun filled _ => filled = false) :
    (⟨c, p⟩ : Thread Op Op.Ans BufferCall Unit).nextOp = some (.store (BUFF_SIZE - 1) 0) := by
  cases p with
  | ret a => cases h
  | act o k =>
    obtain ⟨hallow, -⟩ := h
    cases o with
    | scan i => cases hallow.1
    | load i => cases hallow.1
    | store i b =>
      obtain ⟨rfl, rfl⟩ := hallow.2.1 rfl
      rfl

/-- An unfinished call stays so until it stores its terminator. -/
lemma unfinished_set {w : World} (hw : Unfinished w) {i : ℕ} {c : BufferCall} {o : Op}
    {k : o.Ans → Driver Unit} (hi : w.threads[i]? = some ⟨c, .act o k⟩)
    (ho : o ≠ .store (BUFF_SIZE - 1) 0) (th : Thread Op Op.Ans BufferCall Unit)
    (mem : List UInt8) : Unfinished ⟨mem, w.threads.set i th⟩ := by
  obtain ⟨th', hth', hfills, hnext⟩ := hw
  obtain ⟨j, hj⟩ := List.mem_iff_getElem?.1 hth'
  have hne : i ≠ j := by
    rintro rfl
    rw [hi] at hj
    obtain rfl := Option.some.inj hj
    exact ho (Option.some.inj hnext)
  refine ⟨th', List.mem_of_getElem? (i := j) ?_, hfills, hnext⟩
  rw [List.getElem?_set_ne hne]
  exact hj

lemma inv_act {size : ℕ} {w : World} (hw : Inv size w) {i : ℕ} {c : BufferCall} {o : Op}
    {k : o.Ans → Driver Unit} {x : o.Ans} {mem : List UInt8}
    (hi : w.threads[i]? = some ⟨c, .act o k⟩) (hsem : sem o w.shared = .done x mem) :
    mem[BUFF_SIZE - 1]? = some 0 ∨ Unfinished ⟨mem, w.threads.set i ⟨c, k x⟩⟩ := by
  have hsame (heq : mem = w.shared) (ho : o ≠ .store (BUFF_SIZE - 1) 0) :
      mem[BUFF_SIZE - 1]? = some 0 ∨ Unfinished ⟨mem, w.threads.set i ⟨c, k x⟩⟩ := by
    rw [heq]
    exact hw.last.imp id fun h => unfinished_set h hi ho _ _
  cases o with
  | scan n => exact hsame (look_done hsem).1 (by simp)
  | load n => exact hsame (look_done hsem).1 (by simp)
  | store n b =>
    obtain ⟨hlt, rfl⟩ := store_done hsem
    by_cases hn : n = BUFF_SIZE - 1
    · subst hn
      by_cases hb : b = 0
      · left
        rw [List.getElem?_set_self hlt, hb]
      · -- the call itself is unfinished now
        obtain ⟨st, hst⟩ := hw.holds.threads i _ hi
        have hfills : Fills c = true := hst.follows.1.2.2 rfl hb
        have hrest := hst.follows.2 x trivial
        have hfilled : after st (.store (BUFF_SIZE - 1) b) x = true := by simp [hb]
        have hnext : (⟨c, k x⟩ : Thread Op Op.Ans BufferCall Unit).nextOp =
            some (.store (BUFF_SIZE - 1) 0) := by
          have hflows : (k x).Follows (proto False c) true fun filled _ => filled = false := by
            rw [← hfilled]
            exact hrest
          exact nextOp_of_filled hflows
        refine .inr ⟨⟨c, k x⟩, List.mem_of_getElem? (i := i) ?_, hfills, hnext⟩
        rw [List.getElem?_set_self (List.getElem?_eq_some_iff.1 hi).1]
    · have hne : (Op.store n b) ≠ .store (BUFF_SIZE - 1) 0 := by
        intro heq
        exact hn (Op.store.inj heq).1
      rcases hw.last with h | h
      · left
        rw [List.getElem?_set_ne hn]
        exact h
      · exact .inr (unfinished_set h hi hne _ _)

lemma inv_event {size : ℕ} {w : World} (hw : Inv size w) {n : Event} {mem : List UInt8}
    {ths : List (Thread Op Op.Ans BufferCall Unit)}
    (hevent : machine.event n w.shared = some (mem, ths)) :
    mem[BUFF_SIZE - 1]? = some 0 ∨ Unfinished ⟨mem, w.threads ++ ths⟩ := by
  have hkept (h : Unfinished w) : Unfinished ⟨mem, w.threads ++ ths⟩ := by
    obtain ⟨th, hth, hunfinished⟩ := h
    exact ⟨th, List.mem_append_left _ hth, hunfinished⟩
  refine hw.last.imp (fun hlast => ?_) hkept
  rcases event_done hevent with ⟨c, rfl, -⟩ | ⟨bs, hbs, rfl, -⟩
  · exact hlast
  · have hpos : 0 < BUFF_SIZE := by decide
    rw [List.getElem?_append_left (by rw [List.length_take]; omega), List.getElem?_take,
      if_pos (by omega), hlast]

lemma inv_of_reach {behind : List UInt8} {C : World → Move Unit Event → Prop} {w : World}
    (hw : (system behind).Reach C w) : Inv (BUFF_SIZE + behind.length) w := by
  refine Machine.invariant (M := machine) (I := Inv (BUFF_SIZE + behind.length)) ?_
    (fun w l w' hw _ h => ?_) hw
  · rintro _ rfl
    refine ⟨holds_loaded behind False, .inl ?_⟩
    rw [loaded, List.getElem?_append_left (by rw [List.length_replicate]; decide)]
    exact terminated_zeroed.last
  · have hsettled : Settled False w l := by
      cases l with
      | run i e => exact fun h => h.elim
      | event c => trivial
    obtain ⟨⟨⟩, hholds⟩ := (sound_outline _ False).step hw.holds hsettled h
    refine ⟨hholds, ?_⟩
    cases h with
    | act hi hready hsem => exact inv_act hw hi hsem
    | again hi hagain => cases hagain
    | event hevent => exact inv_event hw hevent

/-! ## The results -/

/-- One call in the sequential model and here. -/
lemma call_in_turn {behind buf buf' : List UInt8} {w : World}
    (hw : (system behind).Reach machine.InTurn w) (hshared : w.shared = buf ++ behind)
    (hended : ∀ th ∈ w.threads, machine.Ended th = true) (h : Terminated buf) {c : BufferCall}
    (hnext : procfs.next buf c = some buf') :
    (system behind).Reach machine.InTurn ⟨buf' ++ behind, w.threads ++ [⟨c, .ret ()⟩]⟩ := by
  have hrun : run sem (body w.shared.length c) w.shared = .done () (buf' ++ behind) := by
    rw [hshared]
    cases c with
    | write user fault =>
      obtain rfl := Option.some.inj hnext
      rw [body, run_bind, run_myWrite h]
      rfl
    | read len offset fault =>
      obtain rfl := Option.some.inj hnext
      rw [body, run_bind, run_myRead h len]
      rfl
  have hbegun : (system behind).Reach machine.InTurn
      ⟨w.shared, w.threads ++ [⟨c, body w.shared.length c⟩]⟩ :=
    .step (l := .event (.call c)) hw hended rfl
  exact Machine.reach_run (M := machine) (e := ()) (fun _ _ _ => trivial) (fun _ _ => rfl) hrun
    hbegun

/-- **The sequential model is a part of this one**: what calls make of the buffer one after the
other is what they make of it here, in a run in which none begins before the last one has
ended. -/
theorem sequential_runs (behind : List UInt8) {cs : List BufferCall} {buf : List UInt8}
    (h : procfs.exec (List.replicate BUFF_SIZE 0) cs = some buf) :
    ∃ w, (system behind).Reach machine.InTurn w ∧ w.shared = buf ++ behind ∧
      w.threads.map Thread.role = cs ∧ ∀ th ∈ w.threads, machine.Ended th = true := by
  obtain ⟨w, hw, ⟨-, hshared⟩, hroles, hended⟩ := Machine.exists_in_turn (M := machine)
    (S := procfs) (f := id) (R := fun buf mem => procfs.Reachable buf ∧ mem = buf ++ behind)
    (fun ⟨hreach, hshared⟩ hw hended hn => ⟨_, (), ⟨.step hreach trivial hn, rfl⟩, rfl,
      call_in_turn hw hshared hended (terminated_procfs hreach) hn⟩)
    (w := loaded behind) ⟨.init rfl, rfl⟩ (.init rfl) (fun th hth => by cases hth) h
  exact ⟨w, hw, hshared, by rw [hroles, List.map_id]; rfl, hended⟩

/-- A message is written and read, with one byte behind the buffer. -/
theorem sequential_runs_hi :
    ∃ w, (system [7]).Reach machine.InTurn w ∧
      w.shared = (Procfs.myWrite (List.replicate BUFF_SIZE 0) [104, 105] none).2 ++ [7] ∧
      w.threads.length = 2 := by
  obtain ⟨w, hw, hshared, hroles, -⟩ := @sequential_runs [7]
    [.write [104, 105] none, .read 8 0 none] _ rfl
  refine ⟨w, hw, ?_, ?_⟩
  · rw [hshared, Procfs.myRead, terminate_eq]
  · rw [← List.length_map Thread.role, hroles]
    rfl

/-- **The buffer under overlapping calls.** In every interleaving of any calls, whatever lies
behind the buffer, its last byte is 0 unless some call that fills it stands before its
terminator.  Every store is into the buffer, but for the 0 that a `my_read` stores behind the
string that its `strlen` has found. -/
theorem terminated_unless_unfinished {behind : List UInt8} {w : World}
    (hw : (system behind).Reachable w) :
    w.shared.length = BUFF_SIZE + behind.length ∧
      (w.shared[BUFF_SIZE - 1]? = some 0 ∨ Unfinished w) ∧
      ∀ th ∈ w.threads, ∀ i b, th.nextOp = some (.store i b) →
        i < BUFF_SIZE ∨ Reads th.role = true ∧ b = 0 := by
  have hinv := inv_of_reach hw
  refine ⟨hinv.holds.always, hinv.last, fun th hth i b ho => ?_⟩
  obtain ⟨j, filled, -, hat⟩ := hinv.holds.of_mem hth
  have hallow := hat.allow ho
  exact hallow.1.imp id fun h => h.2

/-- A `my_read` that looks at the first byte of a message before the second is there. -/
def overlap : List (Move Unit Event) :=
  [.event (.call (.write [104, 105] none)), .event (.call (.read 8 0 none)), .run 0 (), .run 1 (),
    .run 0 (), .run 1 (), .run 0 (), .run 1 (), .run 1 (), .run 1 ()]

/-- The read gets the whole message. -/
theorem terminated_unless_unfinished_overlap :
    ∃ w, (system [7]).Reachable w ∧ w.opAt 0 = some (.scan 0) ∧ w.opAt 1 = some (.load 1) ∧
      w.shared.length = 1025 ∧ (w.shared[BUFF_SIZE - 1]? = some 0 ∨ Unfinished w) := by
  obtain ⟨w, hw, hwrite, hread⟩ := System.exists_reachable (S := system [7])
    (P := fun w => w.opAt 0 = some (.scan 0) ∧ w.opAt 1 = some (.load 1))
    overlap (.init rfl) (by decide +kernel)
  obtain ⟨hlen, hlast, -⟩ := terminated_unless_unfinished hw
  exact ⟨w, hw, hwrite, hread, hlen, hlast⟩

/-- **Overlapping calls stay in the buffer** as long as neither `strlen` nor `printk` looks at the
last byte while some call that has filled the buffer stands before its terminator. -/
theorem accesses_inside {behind : List UInt8} {w : World} (hw : (system behind).Reach Timely w) :
    ∀ th ∈ w.threads, ∀ o, th.nextOp = some o → o.index < BUFF_SIZE := by
  have hstrict : (system behind).Reach (Settled True) w :=
    (hw.strengthen fun _ h => inv_of_reach h).mono ?_
  · obtain ⟨⟨⟩, hholds⟩ := (sound_outline (BUFF_SIZE + behind.length) True).holds_of_reach
      (by rintro _ rfl; exact ⟨(), holds_loaded behind True⟩) hstrict
    intro th hth o ho
    obtain ⟨j, filled, -, hat⟩ := hholds.of_mem hth
    have hallow := hat.allow ho
    cases o with
    | scan i => exact hallow.2 trivial
    | load i => exact hallow.2 trivial
    | store i b => exact hallow.1.resolve_right fun h => h.1 trivial
  · intro w l h
    obtain ⟨htimely, hinv⟩ := h
    cases l with
    | run i e => exact fun _ hscan => hinv.last.resolve_right (htimely hscan)
    | event c => trivial

theorem accesses_inside_overlap :
    ∃ w, (system [7]).Reach Timely w ∧ w.opAt 1 = some (.load 1) ∧
      ∀ th ∈ w.threads, ∀ o, th.nextOp = some o → o.index < BUFF_SIZE := by
  obtain ⟨w, hw, hread⟩ := System.exists_reach (S := system [7]) (C := Timely)
    (P := fun w => w.opAt 1 = some (.load 1)) overlap (.init rfl) (by decide +kernel)
    (by decide +kernel)
  exact ⟨w, hw, hread, accesses_inside hw⟩

end KernelDriverLab.Chardev.Interleaved
