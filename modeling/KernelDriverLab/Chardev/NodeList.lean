import KernelDriverLab.Chardev.Buffer
import KernelDriverLab.Lib.ListHead
import KernelDriverLab.Lib.System
import Mathlib.Data.Int.Basic
import Mathlib.Data.List.Induction

/-!
# The nodes of linked_list.c

Each message that is written adds a node to the list from `head_node`, a read prints the
nodes, and `hello_exit` frees them.  The model has the nodes in memory with their pointers:
where nothing is allocated nothing can be read, written or freed, so a call that touched a
node after its `kfree` would have no result.  `kmalloc` gives any memory that is not in use,
with anything in it, or NULL.  `freed` and the `node` of a printed line are there for the
statements only.
-/

namespace KernelDriverLab.NodeList

open Lib Links Chardev

/-! ## The module -/

/-- The address of a `list_head`; the one in a node stands for the node. -/
abbrev Ptr : Type := ℕ

/-- `LIST_HEAD(head_node)` -/
def headNode : Ptr := 0

/-- What `list_del` leaves in an entry: `LIST_POISON1` and `LIST_POISON2`. -/
def listPoison : ListHead Ptr := ⟨0x100, 0x122⟩

/-- `struct my_list` -/
structure MyList where
  list : ListHead Ptr
  data : Int

/-- The variables of the module and the nodes in memory. -/
structure State where
  deviceBuffer : List UInt8
  tempValue : Int
  links : Links Ptr
  /-- The field `data` of the nodes in memory. -/
  data : Ptr → Option Int
  /-- What `kfree` has been called with, in order. -/
  freed : List Ptr

/-- The value of an `int`. -/
def int32 (x : Int) : Int := x.bmod (2 ^ 32)

namespace State

/-- A `kmalloc` that finds memory with `junk` in it. -/
def kmalloc (s : State) (p : Ptr) (junk : MyList) : State :=
  { s with
    links := Function.update s.links p (some junk.list)
    data := Function.update s.data p (some junk.data) }

/-- `kfree` of a node that is in memory. -/
def kfree (s : State) (p : Ptr) : Option State :=
  (s.data p).map fun _ => { s with
    links := Function.update s.links p none
    data := Function.update s.data p none
    freed := s.freed ++ [p] }

/-- `p->data = x` -/
def setData (s : State) (p : Ptr) (x : Int) : Option State :=
  (s.data p).map fun _ => { s with data := Function.update s.data p (some x) }

end State

/-- `my_write`, with what `kmalloc` finds: the value returned and the state afterwards. -/
def myWrite (s : State) (user : List UInt8) (fault : Option (ℕ × ℕ))
    (found : Option (Ptr × MyList)) : Option (Int × State) :=
  let (ret, deviceBuffer) := writeMessage s.deviceBuffer user fault
  let s := { s with deviceBuffer := deviceBuffer }
  if ret < 0 then some (ret, s)
  else match found with
    | none => some (-EINVAL, s)
    | some (new, junk) => do
      let s := s.kmalloc new junk
      let s := { s with tempValue := int32 (s.tempValue + 1) }
      let s ← s.setData new s.tempValue
      let links ← s.links.initListHead new
      let links ← links.listAddTail new headNode
      some (ret, { s with links := links })

/-- A line that `my_read` prints about a node. -/
structure Line where
  node : Ptr
  count : ℕ
  data : Int
deriving DecidableEq, Repr

/-- The body of the loop in `my_read`, with `count` and the lines so far. -/
def printNode (s : State) (temp : Ptr) (acc : ℕ × List Line) : Option (ℕ × List Line) :=
  (s.data temp).map fun x => (acc.1 + 1, acc.2 ++ [⟨temp, acc.1, x⟩])

/-- What a call of `my_read` does. -/
structure ReadCall where
  reply : Reply
  lines : List Line
  state : State

/-- `my_read`, which lists the nodes when it is not behind the message. -/
def myRead (fuel : ℕ) (s : State) (len offset : ℕ) (fault : Option ℕ) : Option ReadCall :=
  let (reply, deviceBuffer) := LinkedList.myRead s.deviceBuffer len offset fault
  let s' := { s with deviceBuffer := deviceBuffer }
  if offset ≥ strlen s.deviceBuffer then some ⟨reply, [], s'⟩
  else
    (forEach (fun _ => s.links) headNode (printNode s) fuel (0, [])).map fun (_, lines) =>
      ⟨reply, lines, s'⟩

/-- The body of the loop in `hello_exit`. -/
def freeNode (cursor : Ptr) (s : State) : Option State := do
  let links ← s.links.listDel listPoison cursor
  { s with links := links }.kfree cursor

/-- The loop of `hello_exit`. -/
def helloExit (fuel : ℕ) (s : State) : Option State :=
  forEachSafe State.links headNode freeNode fuel s

/-! ## Runs -/

/-- The module after it has been loaded, with `LIST_HEAD(head_node)`. -/
def State.loaded : State where
  deviceBuffer := List.replicate BUFF_SIZE 0
  tempValue := 0
  links := Function.update (fun _ => none) headNode (some ⟨headNode, headNode⟩)
  data := fun _ => none
  freed := []

/-- The module, the number of calls of `my_write`, and how many of them have returned a
non-negative value. -/
structure World where
  drv : State
  writes : ℕ
  accepted : ℕ

/-- A call of `my_write` or `my_read`. -/
inductive Call where
  | write (user : List UInt8) (fault : Option (ℕ × ℕ)) (found : Option (Ptr × MyList))
  | read (fuel len offset : ℕ) (fault : Option ℕ)

/-- `kmalloc` finds memory that is not in use. -/
def State.Free (s : State) (found : Option (Ptr × MyList)) : Prop :=
  ∀ p ∈ found, s.links p.1 = none

instance (s : State) : (found : Option (Ptr × MyList)) → Decidable (s.Free found)
  | none => .isTrue (by simp [State.Free])
  | some p => decidable_of_iff ((s.links p.1).isNone = true) (by simp [State.Free])

/-- What a call does. -/
def World.step (w : World) : Call → Option World
  | .write user fault found =>
      if w.drv.Free found then
        (myWrite w.drv user fault found).map fun (ret, s) =>
          ⟨s, w.writes + 1, if 0 ≤ ret then w.accepted + 1 else w.accepted⟩
      else none
  | .read fuel len offset fault =>
      (myRead fuel w.drv len offset fault).map fun r => { w with drv := r.state }

/-- The runs of the module. -/
def system : System World Call where
  Init w := w = ⟨State.loaded, 0, 0⟩
  next := World.step

/-! ## The list -/

/-- The list is `xs`, and its nodes hold 1, 2, 3, … -/
structure Numbered (s : State) (xs : List Ptr) : Prop where
  ring : s.links.Ring headNode xs
  data : xs.map s.data = (List.range xs.length).map fun i : ℕ => some ((i : Int) + 1)

variable {s s' : State} {w w' : World} {xs : List Ptr} {fuel len offset : ℕ}

lemma int32_eq {x : Int} (h0 : 0 ≤ x) (h1 : x < 2 ^ 31) : int32 x = x := by
  exact Int.bmod_eq_of_le_mul_two (by omega) (by omega)

/-- What `my_write` does to the list: nothing, or it appends a node. -/
lemma myWrite_spec (hring : s.links.Ring headNode xs) (user : List UInt8)
    (fault : Option (ℕ × ℕ)) {found : Option (Ptr × MyList)} (hfree : s.Free found) :
    ∃ ret s', myWrite s user fault found = some (ret, s') ∧
      s'.deviceBuffer = (writeMessage s.deviceBuffer user fault).2 ∧ s'.freed = s.freed ∧
      ((ret < 0 ∧ s'.links = s.links ∧ s'.data = s.data ∧ s'.tempValue = s.tempValue) ∨
        (0 ≤ ret ∧ ∃ new, new ∉ headNode :: xs ∧ s'.links.Ring headNode (xs ++ [new]) ∧
          s'.tempValue = int32 (s.tempValue + 1) ∧
          s'.data = Function.update s.data new (some s'.tempValue))) := by
  rw [myWrite]
  rcases writeMessage s.deviceBuffer user fault with ⟨ret, buf⟩
  dsimp only
  split_ifs with hret
  · exact ⟨ret, _, rfl, rfl, rfl, .inl ⟨hret, rfl, rfl, rfl⟩⟩
  · rcases found with _ | ⟨new, junk⟩
    · exact ⟨-EINVAL, _, rfl, rfl, rfl, .inl ⟨by decide, rfl, rfl, rfl⟩⟩
    · have hnew : new ∉ headNode :: xs := hring.not_mem (hfree _ rfl)
      -- the list is not touched until `list_add_tail`
      have hring₁ := hring.update hnew (some junk.list)
      obtain ⟨m₂, hm₂, hring₂, hsome₂⟩ := hring₁.initListHead hnew
        (by rw [Function.update_self, Option.isSome_some])
      obtain ⟨m₃, hm₃, hring₃⟩ := hring₂.listAddTail hsome₂ hnew
      refine ⟨ret, { s with
        deviceBuffer := buf
        tempValue := int32 (s.tempValue + 1)
        links := m₃
        data := Function.update s.data new (some (int32 (s.tempValue + 1))) }, ?_, rfl, rfl,
        .inr ⟨not_lt.1 hret, new, hnew, hring₃, rfl, rfl⟩⟩
      simp [State.kmalloc, State.setData, hm₂, hm₃]

/-- A node with the next number is appended. -/
lemma Numbered.append {new : Ptr} (h : Numbered s xs) (hnew : new ∉ headNode :: xs)
    (hring : s'.links.Ring headNode (xs ++ [new]))
    (hdata : s'.data = Function.update s.data new (some ((xs.length : Int) + 1))) :
    Numbered s' (xs ++ [new]) := by
  refine ⟨hring, ?_⟩
  have hold : xs.map s'.data = xs.map s.data := by
    refine List.map_congr_left fun x hx => ?_
    have hne : x ≠ new := by
      rintro rfl
      exact hnew (List.mem_cons_of_mem headNode hx)
    rw [hdata, Function.update_of_ne hne]
  rw [List.map_append, hold, h.data, List.length_append, List.length_singleton, List.range_succ,
    List.map_append, List.map_singleton, List.map_singleton, hdata, Function.update_self]

/-- What holds after any run of fewer than 2^31 writes. -/
structure Inv (w : World) (xs : List Ptr) : Prop where
  numbered : Numbered w.drv xs
  accepted : w.accepted = xs.length
  tempValue : w.drv.tempValue = xs.length
  le : w.accepted ≤ w.writes
  terminated : Terminated w.drv.deviceBuffer
  freed : w.drv.freed = []

lemma inv_init : Inv ⟨State.loaded, 0, 0⟩ [] := by
  refine ⟨⟨⟨⟨?_, ?_⟩, List.nodup_singleton _⟩, rfl⟩, rfl, rfl, le_rfl, terminated_zeroed, rfl⟩
  all_goals simp [next, prev, State.loaded]

/-- Whatever happens to the list, the message is copied as in the other modules. -/
lemma deviceBuffer_myWrite {user : List UInt8} {fault : Option (ℕ × ℕ)}
    {found : Option (Ptr × MyList)} {ret : Int} (h : myWrite s user fault found = some (ret, s')) :
    s'.deviceBuffer = (writeMessage s.deviceBuffer user fault).2 := by
  rw [myWrite] at h
  revert h
  rcases writeMessage s.deviceBuffer user fault with ⟨r, buf⟩
  dsimp only
  split_ifs with hr
  · intro h
    rw [← (Prod.mk.inj (Option.some.inj h)).2]
  · rcases found with _ | ⟨new, junk⟩
    · intro h
      rw [← (Prod.mk.inj (Option.some.inj h)).2]
    · intro h
      simp only [Option.bind_eq_bind, Option.bind_eq_some_iff, State.setData, State.kmalloc,
        Option.map_eq_some_iff] at h
      obtain ⟨_, ⟨_, -, rfl⟩, _, -, _, -, h⟩ := h
      rw [← (Prod.mk.inj (Option.some.inj h)).2]

/-- A read changes nothing. -/
lemma state_myRead {fault : Option ℕ} {r : ReadCall} (h : myRead fuel s len offset fault = some r) :
    r.state = s := by
  simp only [myRead, LinkedList.myRead, terminate_eq] at h
  split_ifs at h
  · rw [← Option.some.inj h]
  · obtain ⟨acc, -, rfl⟩ := Option.map_eq_some_iff.1 h
    rfl

lemma inv_step {c : Call} (hI : w.writes < 2 ^ 31 → ∃ xs, Inv w xs)
    (h : system.next w c = some w') : w'.writes < 2 ^ 31 → ∃ xs, Inv w' xs := by
  intro hlt
  cases c with
  | write user fault found =>
    obtain ⟨hfree, hstep⟩ := Option.ite_none_right_eq_some.1 h
    obtain ⟨⟨ret, s⟩, hwrite, rfl⟩ := Option.map_eq_some_iff.1 hstep
    have hw : w.writes + 1 < 2 ^ 31 := hlt
    obtain ⟨xs, hinv⟩ := hI (by omega)
    have hterm := hinv.terminated.writeMessage user fault
    have hle := hinv.le
    obtain ⟨ret', s', hwrite', hbuf, hfreed, hcase⟩ :=
      myWrite_spec hinv.numbered.ring user fault hfree
    obtain ⟨rfl, rfl⟩ : ret' = ret ∧ s' = s := by
      rw [hwrite, Option.some.injEq, Prod.mk.injEq] at hwrite'
      exact ⟨hwrite'.1.symm, hwrite'.2.symm⟩
    rw [← hbuf] at hterm
    rcases hcase with ⟨hneg, hlinks, hdata, htemp⟩ | ⟨hpos, new, hnew, hring, htemp, hdata⟩
    · -- the call has failed and the list is as it was
      dsimp only
      rw [if_neg (not_le.2 hneg)]
      exact ⟨xs,
        ⟨by rw [hlinks]; exact hinv.numbered.ring, by rw [hdata]; exact hinv.numbered.data⟩,
        hinv.accepted, htemp.trans hinv.tempValue, by dsimp only; omega, hterm,
        hfreed.trans hinv.freed⟩
    · have hlen := hinv.accepted
      have hnext : s'.tempValue = (xs.length : Int) + 1 := by
        rw [htemp, hinv.tempValue, int32_eq (by omega) (by omega)]
      rw [hnext] at hdata
      dsimp only
      rw [if_pos hpos]
      refine ⟨xs ++ [new], hinv.numbered.append hnew hring hdata, ?_, ?_, ?_, hterm,
        hfreed.trans hinv.freed⟩
      · simp [hinv.accepted]
      · simp [hnext]
      · dsimp only
        omega
  | read fuel len offset fault =>
    obtain ⟨r, hr, rfl⟩ := Option.map_eq_some_iff.1 h
    obtain ⟨xs, hinv⟩ := hI hlt
    rw [state_myRead hr]
    exact ⟨xs, hinv⟩

lemma inv_reach (hw : system.Reachable w) (hlt : w.writes < 2 ^ 31) : ∃ xs, Inv w xs := by
  refine hw.invariant (I := fun w => w.writes < 2 ^ 31 → ∃ xs, Inv w xs) ?_ ?_ hlt
  · rintro w rfl -
    exact ⟨[], inv_init⟩
  · intro w c w' hI _ h
    exact inv_step hI h

/-! ## Listing and freeing -/

/-- What `my_read` prints of a list: node `i` has the number `i + 1`. -/
def linesOf (xs : List Ptr) : List Line := xs.mapIdx fun i p => ⟨p, i, i + 1⟩

lemma linesOf_concat (xs : List Ptr) (x : Ptr) :
    linesOf (xs ++ [x]) = linesOf xs ++ [⟨x, xs.length, xs.length + 1⟩] := List.mapIdx_concat

lemma foldlM_printNode
    (hdata : xs.map s.data = (List.range xs.length).map fun i : ℕ => some ((i : Int) + 1)) :
    xs.foldlM (fun acc x => printNode s x acc) (0, []) = some (xs.length, linesOf xs) := by
  induction xs using List.reverseRecOn with
  | nil => rfl
  | append_singleton xs x ih =>
    simp only [List.map_append, List.length_append, List.length_singleton, List.range_succ,
      List.map_singleton] at hdata
    obtain ⟨hxs, hx⟩ := List.append_inj' hdata rfl
    rw [List.foldlM_append, ih hxs, linesOf_concat]
    simp [printNode, List.singleton_inj.1 hx]

/-- **A read lists every node.** -/
lemma Numbered.myRead (h : Numbered s xs) (hfuel : xs.length < fuel) (len offset : ℕ)
    (fault : Option ℕ) :
    myRead fuel s len offset fault = some ⟨(LinkedList.myRead s.deviceBuffer len offset fault).1,
      if offset < strlen s.deviceBuffer then linesOf xs else [], s⟩ := by
  have hloop : forEach (fun _ => s.links) headNode (printNode s) fuel (0, []) =
      xs.foldlM (fun acc x => printNode s x acc) (0, []) :=
    Ring.forEach (fun _ : ℕ × List Line => s.links) h.ring (fun _ _ _ _ => rfl) hfuel
  rw [foldlM_printNode h.data] at hloop
  simp only [NodeList.myRead, LinkedList.myRead, terminate_eq]
  by_cases hoff : offset < strlen s.deviceBuffer
  · rw [if_neg (not_le.2 hoff), if_pos hoff, hloop, Option.map_some]
  · rw [if_pos (not_lt.1 hoff), if_neg hoff]

/-- What holds in the loop of `hello_exit` while the nodes `rest` are still there. -/
structure Freeing (xs rest : List Ptr) (s : State) : Prop where
  ring : s.links.Ring headNode rest
  live : ∀ x ∈ rest, (s.data x).isSome = true
  freed : s.freed ++ rest = xs
  gone : ∀ x ∈ s.freed, s.links x = none ∧ s.data x = none

/-- One round frees one node. -/
lemma Freeing.freeNode {x : Ptr} {rest : List Ptr} (h : Freeing xs (x :: rest) s) :
    ∃ s', freeNode x s = some s' ∧ Freeing xs rest s' := by
  obtain ⟨links, hlinks, hring, hkeep⟩ := h.ring.listDel listPoison
  obtain ⟨data, hdata⟩ := Option.isSome_iff_exists.1 (h.live x List.mem_cons_self)
  obtain ⟨hhead, hnodup⟩ := List.nodup_cons.1 h.ring.nodup
  obtain ⟨hxrest, -⟩ := List.nodup_cons.1 hnodup
  have hx : x ∉ headNode :: rest := by
    rintro hmem
    rcases List.mem_cons.1 hmem with rfl | hmem
    · exact hhead List.mem_cons_self
    · exact hxrest hmem
  refine ⟨{ s with
    links := Function.update links x none
    data := Function.update s.data x none
    freed := s.freed ++ [x] }, ?_, hring.update hx none, ?_, ?_, ?_⟩
  · simp [NodeList.freeNode, hlinks, State.kfree, hdata]
  · intro y hy
    have hne : y ≠ x := by
      rintro rfl
      exact hxrest hy
    have hlive := h.live y (List.mem_cons_of_mem x hy)
    simpa [hne] using hlive
  · rw [List.append_assoc, List.singleton_append, h.freed]
  · intro y hy
    dsimp only at hy ⊢
    by_cases hyx : y = x
    · rw [hyx, Function.update_self, Function.update_self]
      exact ⟨rfl, rfl⟩
    · have hy' : y ∈ s.freed := by simpa [hyx] using hy
      rw [Function.update_of_ne hyx, Function.update_of_ne hyx]
      exact ⟨hkeep y (h.gone y hy').1, (h.gone y hy').2⟩

/-- **The loop frees every node once.** -/
lemma Numbered.helloExit (h : Numbered s xs) (hfreed : s.freed = []) (hfuel : xs.length < fuel) :
    ∃ s', helloExit fuel s = some s' ∧ Freeing xs [] s' := by
  refine forEachSafe_rule (P := Freeing xs) (fun _ _ hP => hP.ring) (fun _ _ _ => Freeing.freeNode)
    ⟨h.ring, fun x hx => ?_, by rw [hfreed, List.nil_append], by simp [hfreed]⟩ hfuel
  have hmem : s.data x ∈ xs.map s.data := List.mem_map_of_mem hx
  rw [h.data] at hmem
  obtain ⟨i, -, hi⟩ := List.mem_map.1 hmem
  rw [← hi, Option.isSome_some]

/-- **The list and its counter stay in step.** After any run of fewer than 2^31 writes the list
holds 1, …, k, where k is the number of writes that have succeeded; a read prints these nodes
and changes nothing, and the loop of `hello_exit` frees each of them once. -/
theorem list_in_step (hw : system.Reachable w) (hlt : w.writes < 2 ^ 31) :
    ∃ xs, Numbered w.drv xs ∧ xs.length = w.accepted ∧ w.drv.tempValue = w.accepted ∧
      (∀ user fault found, w.drv.Free found → (myWrite w.drv user fault found).isSome = true) ∧
      (∀ fuel len offset fault, w.accepted < fuel →
        myRead fuel w.drv len offset fault = some
          ⟨(LinkedList.myRead w.drv.deviceBuffer len offset fault).1,
            if offset < strlen w.drv.deviceBuffer then linesOf xs else [], w.drv⟩) ∧
      ∀ fuel, w.accepted < fuel → ∃ s, helloExit fuel w.drv = some s ∧ s.freed = xs ∧
        s.links.Ring headNode [] ∧ ∀ x ∈ xs, s.links x = none ∧ s.data x = none := by
  obtain ⟨xs, hinv⟩ := inv_reach hw hlt
  rw [hinv.accepted]
  refine ⟨xs, hinv.numbered, rfl, hinv.tempValue, ?_, ?_, ?_⟩
  · intro user fault found hfree
    obtain ⟨ret, s', hwrite, -⟩ := myWrite_spec hinv.numbered.ring user fault hfree
    rw [hwrite, Option.isSome_some]
  · intro fuel len offset fault hfuel
    exact hinv.numbered.myRead hfuel len offset fault
  · intro fuel hfuel
    obtain ⟨s, hs, hfreeing⟩ := hinv.numbered.helloExit hinv.freed hfuel
    have hall : s.freed = xs := by rw [← hfreeing.freed, List.append_nil]
    exact ⟨s, hs, hall, hfreeing.ring, fun x hx => hfreeing.gone x (hall ▸ hx)⟩

/-- Two nodes are listed and freed. -/
theorem list_in_step_hi :
    ∃ (w : World) (xs : List Ptr), w.accepted = 2 ∧ Numbered w.drv xs ∧ xs.length = w.accepted ∧
      ∃ s, helloExit 3 w.drv = some s ∧ s.freed = xs := by
  obtain ⟨w, hw, haccepted, hwrites⟩ := System.exists_reachable (S := system)
    (P := fun w => w.accepted = 2 ∧ w.writes < 2 ^ 31)
    [.write [104, 105] none (some (16, ⟨⟨7, 7⟩, 7⟩)), .read 2 8 0 none, .write [33] none none,
      .write [34] none (some (32, ⟨⟨7, 7⟩, 7⟩))]
    (.init rfl) (by decide +kernel)
  obtain ⟨xs, hnumbered, hlen, -, -, -, hexit⟩ := list_in_step hw hwrites
  obtain ⟨s, hs, hfreed, -⟩ := hexit 3 (by rw [haccepted]; decide)
  exact ⟨w, xs, haccepted, hnumbered, hlen, s, hs, hfreed⟩

end KernelDriverLab.NodeList
