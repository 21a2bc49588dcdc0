import KernelDriverLab.Chardev.DeviceBuffer
import KernelDriverLab.Chardev.NodeList
import KernelDriverLab.Lib.ListAdds
import KernelDriverLab.Lib.Trace

/-!
# Overlapping calls and the list

In `linked_list.c` and `tasklet_module.c` nothing keeps the calls of `my_read` and `my_write`
apart, and the list from `head_node` has no lock.  Here each access to the list, to a node and to
`temp_value` is an operation of its own, and the operations of any number of calls interleave.
A call that touches memory in which nothing is allocated faults.  The copies to and from
`device_buffer` are one operation each.

`additions` reads the steps of `list_add_tail` off the log, and `printed` the nodes that a call of
`my_read` has printed.  Each call keeps to the stages of `proto`.
-/

namespace KernelDriverLab.ListCalls

open Lib Prog Links Chardev NodeList

/-! ## The calls -/

/-- An access to the list, to a node, to `temp_value` or to `device_buffer`. -/
inductive Op where
  /-- `copy_from_user` into `device_buffer` and the terminator behind the copy. -/
  | copyMessage (user : List UInt8) (fault : Option (ℕ × ℕ))
  | kmalloc
  | loadTemp
  | storeTemp (x : Int)
  /-- `p->data = x` -/
  | setData (p : Ptr) (x : Int)
  | loadData (p : Ptr)
  | loadNext (p : Ptr)
  /-- The load of `head_node.prev` for the addition of `new`. -/
  | loadTail (new : Ptr)
  | setNext (p q : Ptr)
  | setPrev (p q : Ptr)
  /-- `strlen(device_buffer)` -/
  | strlen
  /-- `device_buffer[i] = '\0'` -/
  | terminate (i : ℕ)
  | copyToUser (n : ℕ) (fault : Option ℕ)
deriving DecidableEq, Repr

/-- What an operation answers. -/
@[reducible] def Op.Ans : Op → Type
  | copyMessage _ _ | loadTemp | loadData _ => Int
  | kmalloc => Option Ptr
  | loadNext _ | loadTail _ => Ptr
  | strlen => ℕ
  | copyToUser _ _ => List UInt8 × Bool
  | _ => Unit

/-- A function of the module. -/
abbrev Driver (α : Type) : Type := Prog Op Op.Ans α

/-- What `kmalloc` finds, if anything. -/
structure Env where
  found : Option (Ptr × MyList) := none

/-- What each operation does. -/
def sem (e : Env) : Prog.Sem Op Op.Ans State
  | .copyMessage user fault, s =>
      .done (writeMessage s.deviceBuffer user fault).1
        { s with deviceBuffer := (writeMessage s.deviceBuffer user fault).2 }
  | .kmalloc, s => match e.found with
    | none => .done none s
    | some (p, junk) => if s.links p = none then .done (some p) (s.kmalloc p junk) else .oops s
  | .loadTemp, s => .done s.tempValue s
  | .storeTemp x, s => .done () { s with tempValue := x }
  | .setData p x, s => match s.setData p x with
    | some s' => .done () s'
    | none => .oops s
  | .loadData p, s => match s.data p with
    | some x => .done x s
    | none => .oops s
  | .loadNext p, s => match s.links.next p with
    | some q => .done q s
    | none => .oops s
  | .loadTail _, s => match s.links.prev headNode with
    | some q => .done q s
    | none => .oops s
  | .setNext p q, s => match s.links.setNext p q with
    | some links => .done () { s with links := links }
    | none => .oops s
  | .setPrev p q, s => match s.links.setPrev p q with
    | some links => .done () { s with links := links }
    | none => .oops s
  | .strlen, s => .done (strlen s.deviceBuffer) s
  | .terminate i, s =>
      if i < s.deviceBuffer.length then .done () { s with deviceBuffer := s.deviceBuffer.set i 0 }
      else .oops s
  | .copyToUser n fault, s =>
      if n ≤ s.deviceBuffer.length then .done (copyToUser s.deviceBuffer n fault) s else .oops s

/-- How a round of a call ends. -/
inductive Round where
  /-- The loop of `my_read` is at `pos`, having counted so many nodes. -/
  | listing (pos : Ptr) (count length : ℕ)
  | wrote (ret : Int)
  | replied (reply : Reply)
deriving DecidableEq

/-- `INIT_LIST_HEAD` -/
def initListHead (p : Ptr) : Driver Unit := do
  op (Op.setNext p p)
  op (Op.setPrev p p)

/-- `list_add_tail(&new_node->list, &head_node)` -/
def listAddTail (new : Ptr) : Driver Unit := do
  let prev ← op (Op.loadTail new)
  op (Op.setPrev headNode new)
  op (Op.setNext new headNode)
  op (Op.setPrev new prev)
  op (Op.setNext prev new)

/-- The node gets its number and is added to the list. -/
def addNode (new : Ptr) : Driver Unit := do
  let tempValue ← op Op.loadTemp
  op (Op.storeTemp (int32 (tempValue + 1)))
  op (Op.setData new (int32 (tempValue + 1)))
  initListHead new
  listAddTail new

/-- `my_write` -/
def myWrite (user : List UInt8) (fault : Option (ℕ × ℕ)) : Driver Round := do
  let ret ← op (Op.copyMessage user fault)
  if ret < 0 then pure (.wrote ret)
  else match ← op Op.kmalloc with
    | none => pure (.wrote (-EINVAL))
    | some new => do
      addNode new
      pure (.wrote ret)

/-- `my_read` up to the loop. -/
def myRead (offset : ℕ) : Driver Round := do
  let length ← op Op.strlen
  if offset ≥ length then pure (.replied ⟨0, [], offset⟩)
  else do
    let pos ← op (Op.loadNext headNode)
    pure (.listing pos 0 length)

/-- `my_read` behind the loop. -/
def finishRead (offset : ℕ) (fault : Option ℕ) (length : ℕ) : Driver Round := do
  op (Op.terminate length)
  match ← op (Op.copyToUser length fault) with
  | (stored, false) => pure (.replied ⟨-EFAULT, stored, offset⟩)
  | (stored, true) => pure (.replied ⟨length, stored, offset + length⟩)

/-- A round of `list_for_each_entry` in `my_read`, which prints a node. -/
def listEntry (offset : ℕ) (fault : Option ℕ) (pos : Ptr) (count length : ℕ) : Driver Round :=
  if pos = headNode then finishRead offset fault length
  else do
    let _ ← op (Op.loadData pos)
    let next ← op (Op.loadNext pos)
    pure (.listing next (count + 1) length)

/-- A call up to its first round. -/
def body : BufferCall → Driver Round
  | .write user fault => myWrite user fault
  | .read _ offset _ => myRead offset

/-- The next round of a call. -/
def nextRound : BufferCall → Round → Option (Driver Round)
  | .read _ offset fault, .listing pos count length =>
      some (listEntry offset fault pos count length)
  | _, _ => none

/-- Any process can call one of the functions at any time. -/
def machine : Machine Op Op.Ans BufferCall Round State Env BufferCall where
  sem e _ := sem e
  ready _ _ _ := true
  again := nextRound
  event c s := some (s, [⟨c, body c⟩])

/-- The state of the module and the calls that work on it. -/
abbrev World : Type := Pool Op Op.Ans BufferCall Round State

/-- The module has been loaded. -/
def loaded : World := ⟨State.loaded, []⟩

/-- What has been done, the latest first. -/
abbrev Log : Type := List (Entry Op Op.Ans BufferCall)

/-- The runs of the module, with their logs. -/
def system : System (World × Log) (Move Env BufferCall) := machine.traced (· = loaded)

/-! ## What the log says -/

/-- The step of `list_add_tail` that an operation is. -/
def adding : Entry Op Op.Ans BufferCall → Option (Adding Ptr)
  | ⟨_, _, .loadTail new, p⟩ => some (.load new p)
  | ⟨_, _, .setNext p q, _⟩ =>
      if q = headNode then some (.close p) else if p = q then none else some (.link q p)
  | ⟨_, _, .setPrev p q, _⟩ =>
      if p = headNode then some (.publish q) else if p = q then none else some (.back p q)
  | _ => none

/-- The steps of all additions, the latest first. -/
def additions (log : Log) : List (Adding Ptr) := log.filterMap adding

/-- The nodes in the order in which `head_node.prev` has pointed to them. -/
def added (log : Log) : List Ptr := (Adding.published (additions log)).reverse

/-- The thread that a node was allocated for. -/
def owner : Log → Ptr → Option ℕ
  | [] => fun _ => none
  | ⟨i, _, .kmalloc, some p⟩ :: log => Function.update (owner log) p (some i)
  | _ :: log => owner log

/-- The nodes that a call has printed, the latest first. -/
def shown (i : ℕ) : Log → List Ptr
  | [] => []
  | ⟨j, _, .loadData p, _⟩ :: log => if j = i then p :: shown i log else shown i log
  | _ :: log => shown i log

/-- The nodes that a call has printed, in order. -/
def printed (i : ℕ) (log : Log) : List Ptr := (shown i log).reverse

section Log

variable {log : Log} {e : Entry Op Op.Ans BufferCall} {a : Adding Ptr} {i j n : ℕ} {x : Ptr}

lemma additions_cons (ha : adding e = some a) : additions (e :: log) = a :: additions log :=
  List.filterMap_cons_some ha

lemma additions_cons_none (he : adding e = none) : additions (e :: log) = additions log :=
  List.filterMap_cons_none he

lemma owner_cons (he : e.op ≠ .kmalloc) : owner (e :: log) = owner log := by
  obtain ⟨i, c, o, x⟩ := e
  cases o with
  | kmalloc => exact absurd rfl he
  | _ => rfl

lemma shown_cons (he : e.thread = i → ∀ p, e.op ≠ .loadData p) :
    shown i (e :: log) = shown i log := by
  obtain ⟨j, c, o, x⟩ := e
  cases o with
  | loadData p =>
    rw [shown]
    exact if_neg fun heq => he heq p rfl
  | _ => rfl

/-- A thread that is not there yet has done nothing. -/
lemma shown_eq_nil (hlog : ∀ e ∈ log, e.thread < n) : shown n log = [] := by
  induction log with
  | nil => rfl
  | cons e log ih =>
    have hne : e.thread ≠ n := Nat.ne_of_lt (hlog e List.mem_cons_self)
    rw [shown_cons fun heq => absurd heq hne]
    exact ih fun e he => hlog e (List.mem_cons_of_mem _ he)

lemma owner_lt (hlog : ∀ e ∈ log, e.thread < n) (hx : owner log x = some i) : i < n := by
  induction log with
  | nil => cases hx
  | cons e log ih =>
    have hrest := ih fun e he => hlog e (List.mem_cons_of_mem _ he)
    by_cases he : e.op = .kmalloc
    · obtain ⟨j, c, o, y⟩ := e
      obtain rfl : o = .kmalloc := he
      cases y with
      | none => exact hrest hx
      | some p =>
        rw [owner, Function.update_apply] at hx
        split_ifs at hx
        · obtain rfl := Option.some.inj hx
          exact hlog _ List.mem_cons_self
        · exact hrest hx
    · rw [owner_cons he] at hx
      exact hrest hx

end Log

/-! ## What a call does -/

/-- A call of `my_write`. -/
def Adds : BufferCall → Bool
  | .write _ _ => true
  | .read _ _ _ => false

/-- How far a call is. -/
inductive Stage where
  | idle
  -- `my_write` has a node and, in `list_add_tail`, has loaded the pointer and made each store
  | owns (new : Ptr)
  | loaded (new p : Ptr)
  | published (new p : Ptr)
  | closed (new p : Ptr)
  | backed (new p : Ptr)
  | added
  -- `my_read` is at a node, or has printed it
  | listing (pos : Ptr) (count : ℕ)
  | printed (pos : Ptr) (count : ℕ)
deriving DecidableEq, Repr

namespace Stage

/-- The node that is being added. -/
def node : Stage → Option Ptr
  | owns new | loaded new _ | published new _ | closed new _ | backed new _ => some new
  | idle | added | listing _ _ | printed _ _ => none

/-- The list is being printed. -/
def Lists : Stage → Prop
  | listing _ _ | printed _ _ => True
  | _ => False

/-- After a store into a `list_head`. -/
def stored : Stage → Stage
  | loaded new p => published new p
  | published new p => closed new p
  | closed new p => backed new p
  | backed _ _ => added
  | st => st

/-- After the load of a pointer `next`. -/
def followed (q : Ptr) : Stage → Stage
  | idle => listing q 0
  | printed _ n => listing q (n + 1)
  | st => st

/-- After the load of a field `data`. -/
def shown : Stage → Stage
  | listing pos n => printed pos n
  | st => st

end Stage

/-- The stages of an operation. -/
@[simp] def allow (c : BufferCall) (st : Stage) : Op → Prop
  | .copyMessage _ _ | .strlen => st = .idle
  | .kmalloc => Adds c = true ∧ st = .idle
  | .loadTemp | .storeTemp _ => ∃ new, st = .owns new
  | .setData p _ | .loadTail p => st = .owns p
  | .setNext p q => st = .owns p ∧ q = p ∨ (∃ r, st = .published p r) ∧ q = headNode ∨
      st = .backed q p
  | .setPrev p q => st = .owns p ∧ q = p ∨ (∃ r, st = .loaded q r) ∧ p = headNode ∨
      st = .closed p q
  | .loadNext p => st = .idle ∧ p = headNode ∨ ∃ n, st = .printed p n
  | .loadData p => p ≠ headNode ∧ ∃ n, st = .listing p n
  | .terminate i => i < BUFF_SIZE ∧ ∃ n, st = .listing headNode n
  | .copyToUser i _ => i < BUFF_SIZE ∧ ∃ n, st = .listing headNode n

/-- `strlen` stops in the buffer. -/
@[simp] def expect : (o : Op) → o.Ans → Prop
  | .strlen, length => length < BUFF_SIZE
  | _, _ => True

/-- The stage behind an operation. -/
@[simp] def after (st : Stage) : (o : Op) → o.Ans → Stage
  | .kmalloc, none => st
  | .kmalloc, some p => .owns p
  | .loadTail new, p => .loaded new p
  | .setNext _ _, _ | .setPrev _ _, _ => st.stored
  | .loadNext _, q => st.followed q
  | .loadData _, _ => st.shown
  | _, _ => st

/-- The stages of a call. -/
@[simps]
def proto (c : BufferCall) : Protocol Op Op.Ans Stage where
  allow := allow c
  expect _ := expect
  after := after

/-- How a round ends. -/
@[simp] def Ends (st : Stage) : Round → Prop
  | .listing pos count length => st = .listing pos count ∧ length < BUFF_SIZE
  | .wrote _ | .replied _ => st.node = none

section Follows

variable {c : BufferCall}

lemma follows_addNode (new : Ptr) :
    (addNode new).Follows (proto c) (.owns new) fun st _ => st = .added := by
  simp [addNode, initListHead, listAddTail, op, Stage.stored]

lemma follows_finishRead (offset : ℕ) (fault : Option ℕ) (count : ℕ) {length : ℕ}
    (hlength : length < BUFF_SIZE) :
    (finishRead offset fault length).Follows (proto c) (.listing headNode count) Ends := by
  rw [finishRead, op_bind]
  refine ⟨⟨hlength, count, rfl⟩, fun _ _ => ?_⟩
  rw [op_bind]
  refine ⟨⟨hlength, count, rfl⟩, fun x _ => ?_⟩
  obtain ⟨stored, _ | _⟩ := x <;> exact rfl

lemma follows_body (c : BufferCall) : (body c).Follows (proto c) .idle Ends := by
  cases c with
  | write user fault =>
    rw [body, myWrite, op_bind]
    refine ⟨rfl, fun ret _ => ?_⟩
    rw [follows_ite]
    refine ⟨fun _ => rfl, fun _ => ?_⟩
    rw [op_bind]
    refine ⟨⟨rfl, rfl⟩, fun x _ => ?_⟩
    cases x with
    | none => exact rfl
    | some new =>
      refine follows_bind.2 ((follows_addNode new).mono fun st _ hst => ?_)
      subst hst
      exact rfl
  | read len offset fault =>
    rw [body, myRead, op_bind]
    refine ⟨rfl, fun length hlength => ?_⟩
    rw [follows_ite]
    refine ⟨fun _ => rfl, fun _ => ?_⟩
    rw [op_bind]
    exact ⟨.inl ⟨rfl, rfl⟩, fun pos _ => ⟨rfl, hlength⟩⟩

lemma follows_listEntry (offset : ℕ) (fault : Option ℕ) (pos : Ptr) (count : ℕ) {length : ℕ}
    (hlength : length < BUFF_SIZE) :
    (listEntry offset fault pos count length).Follows (proto c) (.listing pos count) Ends := by
  rw [listEntry, follows_ite]
  refine ⟨fun hpos => ?_, fun hpos => ?_⟩
  · subst hpos
    exact follows_finishRead offset fault count hlength
  · rw [op_bind]
    refine ⟨⟨hpos, count, rfl⟩, fun x _ => ?_⟩
    rw [op_bind]
    exact ⟨.inr ⟨count, rfl⟩, fun q _ => ⟨rfl, hlength⟩⟩

end Follows

end KernelDriverLab.ListCalls
