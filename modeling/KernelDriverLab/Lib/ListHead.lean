import Mathlib.Data.List.Nodup
import Mathlib.Logic.Function.Basic
import Mathlib.Tactic.Common

/-!
# Circular doubly linked lists

The lists of `<linux/list.h>`: a `list_head` is a pair of pointers inside each node and in
the head of the list, and the pointers form a ring through all of them.  The addresses are
arbitrary, and where no `list_head` is in memory nothing can be read or written: an operation
that tries to has no result.

`Links.Ring m head xs` says that the ring from `head` on leads through exactly the nodes
`xs`, each of them once, and back again along `prev`.  `Ring.listAddTail` and `Ring.listDel`
say what the operations do to it.  The two loops run with fuel; `Ring.forEach` and
`forEachSafe_rule` are their rules, for any fuel greater than the number of nodes.

Taking nodes out from the front does not need all of the ring: `Track` leaves out the pointer
`prev` of the head.
-/

namespace KernelDriverLab.Lib

/-- `struct list_head` -/
structure ListHead (α : Type) where
  next : α
  prev : α
deriving DecidableEq, Repr

/-- The `list_head`s in memory, by their addresses. -/
abbrev Links (α : Type) : Type := α → Option (ListHead α)

namespace Links

variable {α : Type}

/-- The pointer `next` of an entry. -/
def next (m : Links α) (a : α) : Option α := (m a).map ListHead.next

/-- The pointer `prev` of an entry. -/
def prev (m : Links α) (a : α) : Option α := (m a).map ListHead.prev

lemma isSome_next (m : Links α) (a : α) : (m.next a).isSome = (m a).isSome := Option.isSome_map

lemma isSome_prev (m : Links α) (a : α) : (m.prev a).isSome = (m a).isSome := Option.isSome_map

/-- Only what is in memory points somewhere. -/
lemma isSome_of_next {m : Links α} {a b : α} (h : m.next a = some b) : (m a).isSome = true := by
  rw [← isSome_next, h, Option.isSome_some]

/-! ## The operations -/

section Operations

variable [DecidableEq α]

/-- `a->next = b` -/
def setNext (m : Links α) (a b : α) : Option (Links α) :=
  (m a).map fun h => Function.update m a (some { h with next := b })

/-- `a->prev = b` -/
def setPrev (m : Links α) (a b : α) : Option (Links α) :=
  (m a).map fun h => Function.update m a (some { h with prev := b })

/-- `INIT_LIST_HEAD` -/
def initListHead (m : Links α) (a : α) : Option (Links α) := do
  let m ← m.setNext a a
  m.setPrev a a

/-- `list_add_tail` -/
def listAddTail (m : Links α) (new head : α) : Option (Links α) := do
  let prev ← m.prev head
  let m ← m.setPrev head new
  let m ← m.setNext new head
  let m ← m.setPrev new prev
  m.setNext prev new

/-- `list_del`, which leaves `poison` in the entry. -/
def listDel (poison : ListHead α) (m : Links α) (entry : α) : Option (Links α) := do
  let prev ← m.prev entry
  let next ← m.next entry
  let m ← m.setPrev next prev
  let m ← m.setNext prev next
  let m ← m.setNext entry poison.next
  m.setPrev entry poison.prev

/-- The loop of `list_for_each_entry` from `pos` on, in a state that the body may change. -/
def forEachFrom {σ : Type} (links : σ → Links α) (head : α) (body : α → σ → Option σ) :
    ℕ → α → σ → Option σ
  | 0, _, _ => none
  | fuel + 1, pos, s =>
    if pos = head then some s
    else do
      let s ← body pos s
      let pos ← (links s).next pos
      forEachFrom links head body fuel pos s

/-- `list_for_each_entry` -/
def forEach {σ : Type} (links : σ → Links α) (head : α) (body : α → σ → Option σ) (fuel : ℕ)
    (s : σ) : Option σ := do
  let pos ← (links s).next head
  forEachFrom links head body fuel pos s

/-- The loop of `list_for_each_entry_safe` from `pos` on, with the node after it. -/
def forEachSafeFrom {σ : Type} (links : σ → Links α) (head : α) (body : α → σ → Option σ) :
    ℕ → α → α → σ → Option σ
  | 0, _, _, _ => none
  | fuel + 1, pos, n, s =>
    if pos = head then some s
    else do
      let s ← body pos s
      let next ← (links s).next n
      forEachSafeFrom links head body fuel n next s

/-- `list_for_each_entry_safe` -/
def forEachSafe {σ : Type} (links : σ → Links α) (head : α) (body : α → σ → Option σ) (fuel : ℕ)
    (s : σ) : Option σ := do
  let pos ← (links s).next head
  let n ← (links s).next pos
  forEachSafeFrom links head body fuel pos n s

end Operations

/-! ## The ring -/

/-- The pointers lead from `a` through `xs` to `b`, and back. -/
def Seg (m : Links α) (a : α) : List α → α → Prop
  | [], b => m.next a = some b ∧ m.prev b = some a
  | x :: xs, b => m.next a = some x ∧ m.prev x = some a ∧ Seg m x xs b

/-- The pointers lead from `a` through `xs` to `b`, and from `xs` back. -/
def Track (m : Links α) (a : α) : List α → α → Prop
  | [], b => m.next a = some b
  | x :: xs, b => m.next a = some x ∧ m.prev x = some a ∧ Track m x xs b

/-- The list from `head` has exactly the nodes `xs`. -/
structure Ring (m : Links α) (head : α) (xs : List α) : Prop where
  seg : m.Seg head xs head
  nodup : (head :: xs).Nodup

section Seg

variable {m m' : Links α} {a b c head : α} {xs ys : List α}

lemma seg_append : m.Seg a (xs ++ c :: ys) b ↔ m.Seg a xs c ∧ m.Seg c ys b := by
  induction xs generalizing a with
  | nil => simp [Seg, and_assoc]
  | cons x xs ih => simp [Seg, ih, and_assoc]

/-- A segment depends on the pointers inside only. -/
lemma Seg.congr (hnext : ∀ x ∈ a :: xs, m'.next x = m.next x)
    (hprev : ∀ x ∈ xs ++ [b], m'.prev x = m.prev x) (h : m.Seg a xs b) : m'.Seg a xs b := by
  induction xs generalizing a with
  | nil =>
    obtain ⟨hn, hp⟩ := h
    exact ⟨(hnext a (by simp)).trans hn, (hprev b (by simp)).trans hp⟩
  | cons x xs ih =>
    obtain ⟨hn, hp, hrest⟩ := h
    refine ⟨(hnext a (by simp)).trans hn, (hprev x (by simp)).trans hp, ih ?_ ?_ hrest⟩
    · exact fun y hy => hnext y (List.mem_cons_of_mem a hy)
    · exact fun y hy => hprev y (List.mem_cons_of_mem x hy)

/-- The end of a segment is bent to another node. -/
lemma Seg.bend (h : m.Seg a xs b) (hnodup : (a :: xs).Nodup)
    (hnext : ∀ x ∈ a :: xs, x ≠ xs.getLastD a → m'.next x = m.next x)
    (hprev : ∀ x ∈ xs, m'.prev x = m.prev x) (hn : m'.next (xs.getLastD a) = some c)
    (hp : m'.prev c = some (xs.getLastD a)) : m'.Seg a xs c := by
  induction xs generalizing a with
  | nil => exact ⟨hn, hp⟩
  | cons x xs ih =>
    obtain ⟨han, hxp, hrest⟩ := h
    obtain ⟨hmem, hnodup⟩ := List.nodup_cons.1 hnodup
    rw [List.getLastD_cons] at hnext hn hp
    have hne : a ≠ xs.getLastD x := by
      rintro rfl
      exact hmem List.getLastD_mem_cons
    refine ⟨(hnext a (by simp) hne).trans han, (hprev x (by simp)).trans hxp,
      ih hrest hnodup ?_ ?_ hn hp⟩
    · exact fun y hy => hnext y (List.mem_cons_of_mem a hy)
    · exact fun y hy => hprev y (List.mem_cons_of_mem x hy)

/-- Each node of a segment is in memory. -/
lemma Seg.isSome (h : m.Seg a xs b) {x : α} (hx : x ∈ a :: xs) : (m x).isSome = true := by
  induction xs generalizing a with
  | nil =>
    obtain rfl := List.mem_singleton.1 hx
    exact isSome_of_next h.1
  | cons y ys ih =>
    rcases List.mem_cons.1 hx with rfl | hx
    · exact isSome_of_next h.1
    · exact ih h.2.2 hx

lemma Seg.prev_eq (h : m.Seg a xs b) : m.prev b = some (xs.getLastD a) := by
  induction xs generalizing a with
  | nil => exact h.2
  | cons x xs ih => rw [List.getLastD_cons, ih h.2.2]

lemma Seg.next_eq (h : m.Seg a xs b) : m.next a = some (xs.headD b) := by
  cases xs with
  | nil => exact h.1
  | cons x xs => exact h.1

lemma seg_iff_track : m.Seg a xs b ↔ m.Track a xs b ∧ m.prev b = some (xs.getLastD a) := by
  induction xs generalizing a with
  | nil => exact Iff.rfl
  | cons x xs ih => rw [Seg, Track, ih, List.getLastD_cons, and_assoc, and_assoc]

lemma Track.congr (hnext : ∀ x ∈ a :: xs, m'.next x = m.next x)
    (hprev : ∀ x ∈ xs, m'.prev x = m.prev x) (h : m.Track a xs b) : m'.Track a xs b := by
  induction xs generalizing a with
  | nil => exact (hnext a (by simp)).trans h
  | cons x xs ih =>
    obtain ⟨hn, hp, hrest⟩ := h
    refine ⟨(hnext a (by simp)).trans hn, (hprev x (by simp)).trans hp, ih ?_ ?_ hrest⟩
    · exact fun y hy => hnext y (List.mem_cons_of_mem a hy)
    · exact fun y hy => hprev y (List.mem_cons_of_mem x hy)

lemma Track.next_eq (h : m.Track a xs b) : m.next a = some (xs.headD b) := by
  cases xs with
  | nil => exact h
  | cons x xs => exact h.1

lemma Track.isSome (h : m.Track a xs b) {x : α} (hx : x ∈ a :: xs) : (m x).isSome = true := by
  induction xs generalizing a with
  | nil =>
    obtain rfl := List.mem_singleton.1 hx
    exact isSome_of_next h
  | cons y ys ih =>
    rcases List.mem_cons.1 hx with rfl | hx
    · exact isSome_of_next h.1
    · exact ih h.2.2 hx

/-- Memory outside of it does not matter. -/
lemma Track.update [DecidableEq α] (h : m.Track a xs b) {x : α} (hx : x ∉ a :: xs)
    (v : Option (ListHead α)) : Track (Function.update m x v) a xs b := by
  have hsame : ∀ y ∈ a :: xs, Function.update m x v y = m y := by
    intro y hy
    have hne : y ≠ x := by
      rintro rfl
      exact hx hy
    exact Function.update_of_ne hne _ _
  refine h.congr (fun y hy => ?_) (fun y hy => ?_)
  · rw [next, hsame y hy, next]
  · rw [prev, hsame y (List.mem_cons_of_mem a hy), prev]

end Seg

namespace Ring

variable {m : Links α} {head x : α} {xs : List α}

lemma isSome (h : m.Ring head xs) {x : α} (hx : x ∈ head :: xs) : (m x).isSome = true :=
  h.seg.isSome hx

/-- What is not in memory is not in the list. -/
lemma not_mem (h : m.Ring head xs) (hx : m x = none) : x ∉ head :: xs := by
  intro hmem
  simpa [hx] using h.isSome hmem

lemma next_head (h : m.Ring head xs) : m.next head = some (xs.headD head) := h.seg.next_eq

/-- Only the pointers of the list matter. -/
lemma congr {m' : Links α} (h : m.Ring head xs) (hnext : ∀ x ∈ head :: xs, m'.next x = m.next x)
    (hprev : ∀ x ∈ head :: xs, m'.prev x = m.prev x) : m'.Ring head xs :=
  ⟨h.seg.congr hnext fun x hx => hprev x (by simpa [or_comm] using hx), h.nodup⟩

/-- Memory outside of the list does not matter. -/
lemma update [DecidableEq α] (h : m.Ring head xs) (hx : x ∉ head :: xs)
    (v : Option (ListHead α)) : Ring (Function.update m x v) head xs := by
  have hsame : ∀ y ∈ head :: xs, Function.update m x v y = m y := by
    intro y hy
    have hne : y ≠ x := by
      rintro rfl
      exact hx hy
    exact Function.update_of_ne hne _ _
  refine h.congr (fun y hy => ?_) (fun y hy => ?_)
  · rw [next, hsame y hy, next]
  · rw [prev, hsame y hy, prev]

end Ring

/-! ## What the operations do -/

section Specs

variable [DecidableEq α] {m : Links α} {a b p n head new : α} {xs : List α} {poison : ListHead α}

lemma setNext_spec (b : α) (h : (m a).isSome = true) :
    ∃ m', m.setNext a b = some m' ∧ m'.next = Function.update m.next a (some b) ∧
      m'.prev = m.prev := by
  obtain ⟨l, hl⟩ := Option.isSome_iff_exists.1 h
  refine ⟨_, by rw [setNext, hl, Option.map_some], ?_, ?_⟩ <;> funext x <;> by_cases hx : x = a
  all_goals simp [next, prev, hx, hl]

lemma setPrev_spec (b : α) (h : (m a).isSome = true) :
    ∃ m', m.setPrev a b = some m' ∧ m'.next = m.next ∧
      m'.prev = Function.update m.prev a (some b) := by
  obtain ⟨l, hl⟩ := Option.isSome_iff_exists.1 h
  refine ⟨_, by rw [setPrev, hl, Option.map_some], ?_, ?_⟩ <;> funext x <;> by_cases hx : x = a
  all_goals simp [next, prev, hx, hl]

/-- Inversion of a store; what is in memory stays there. -/
lemma setNext_inv {m' : Links α} (h : m.setNext a b = some m') :
    m'.next = Function.update m.next a (some b) ∧ m'.prev = m.prev ∧
      ∀ x, (m' x).isSome = (m x).isSome := by
  obtain ⟨l, hl, -⟩ := Option.map_eq_some_iff.1 h
  obtain ⟨m₁, h₁, hn, hp⟩ := @setNext_spec α _ m a b (by rw [hl, Option.isSome_some])
  obtain rfl : m₁ = m' := Option.some.inj (h₁.symm.trans h)
  refine ⟨hn, hp, fun x => ?_⟩
  rw [← isSome_prev, hp, isSome_prev]

lemma setPrev_inv {m' : Links α} (h : m.setPrev a b = some m') :
    m'.next = m.next ∧ m'.prev = Function.update m.prev a (some b) ∧
      ∀ x, (m' x).isSome = (m x).isSome := by
  obtain ⟨l, hl, -⟩ := Option.map_eq_some_iff.1 h
  obtain ⟨m₁, h₁, hn, hp⟩ := @setPrev_spec α _ m a b (by rw [hl, Option.isSome_some])
  obtain rfl : m₁ = m' := Option.some.inj (h₁.symm.trans h)
  refine ⟨hn, hp, fun x => ?_⟩
  rw [← isSome_next, hn, isSome_next]

lemma initListHead_spec (h : (m a).isSome = true) :
    ∃ m', m.initListHead a = some m' ∧ m'.next = Function.update m.next a (some a) ∧
      m'.prev = Function.update m.prev a (some a) := by
  obtain ⟨m₁, h₁, hn₁, hp₁⟩ := setNext_spec a h
  have ha : (m₁ a).isSome = true := by rw [← isSome_prev, hp₁, isSome_prev, h]
  obtain ⟨m₂, h₂, hn₂, hp₂⟩ := setPrev_spec a ha
  exact ⟨m₂, by simp [initListHead, h₁, h₂], by rw [hn₂, hn₁], by rw [hp₂, hp₁]⟩

lemma listAddTail_spec (hprev : m.prev head = some p) (hnew : (m new).isSome = true)
    (hp : (m p).isSome = true) :
    ∃ m', m.listAddTail new head = some m' ∧
      m'.next = Function.update (Function.update m.next new (some head)) p (some new) ∧
      m'.prev = Function.update (Function.update m.prev head (some new)) new (some p) := by
  have hhead : (m head).isSome = true := by rw [← isSome_prev, hprev, Option.isSome_some]
  obtain ⟨m₁, h₁, hn₁, hp₁⟩ := setPrev_spec new hhead
  have hnew₁ : (m₁ new).isSome = true := by rw [← isSome_next, hn₁, isSome_next, hnew]
  obtain ⟨m₂, h₂, hn₂, hp₂⟩ := setNext_spec head hnew₁
  have hnew₂ : (m₂ new).isSome = true := by rw [← isSome_next, hn₂, Function.update_self]; rfl
  obtain ⟨m₃, h₃, hn₃, hp₃⟩ := setPrev_spec p hnew₂
  have hp₃' : (m₃ p).isSome = true := by
    rw [← isSome_next, hn₃, hn₂, hn₁]
    by_cases hpn : p = new
    · rw [hpn, Function.update_self, Option.isSome_some]
    · rw [Function.update_of_ne hpn, isSome_next, hp]
  obtain ⟨m₄, h₄, hn₄, hp₄⟩ := setNext_spec new hp₃'
  refine ⟨m₄, by simp [listAddTail, hprev, h₁, h₂, h₃, h₄], ?_, ?_⟩
  · rw [hn₄, hn₃, hn₂, hn₁]
  · rw [hp₄, hp₃, hp₂, hp₁]

lemma listDel_spec (poison : ListHead α) (hprev : m.prev a = some p) (hnext : m.next a = some n)
    (hp : (m p).isSome = true) (hn : (m n).isSome = true) :
    ∃ m', m.listDel poison a = some m' ∧
      m'.next = Function.update (Function.update m.next p (some n)) a (some poison.next) ∧
      m'.prev = Function.update (Function.update m.prev n (some p)) a (some poison.prev) := by
  have ha : (m a).isSome = true := isSome_of_next hnext
  obtain ⟨m₁, h₁, hn₁, hp₁⟩ := setPrev_spec p hn
  have hp' : (m₁ p).isSome = true := by rw [← isSome_next, hn₁, isSome_next, hp]
  obtain ⟨m₂, h₂, hn₂, hp₂⟩ := setNext_spec n hp'
  have ha₂ : (m₂ a).isSome = true := by
    rw [← isSome_next, hn₂, hn₁]
    by_cases hap : a = p
    · rw [hap, Function.update_self, Option.isSome_some]
    · rw [Function.update_of_ne hap, isSome_next, ha]
  obtain ⟨m₃, h₃, hn₃, hp₃⟩ := setNext_spec poison.next ha₂
  have ha₃ : (m₃ a).isSome = true := by rw [← isSome_next, hn₃, Function.update_self]; rfl
  obtain ⟨m₄, h₄, hn₄, hp₄⟩ := setPrev_spec poison.prev ha₃
  refine ⟨m₄, by simp [listDel, hprev, hnext, h₁, h₂, h₃, h₄], ?_, ?_⟩
  · rw [hn₄, hn₃, hn₂, hn₁]
  · rw [hp₄, hp₃, hp₂, hp₁]

/-- A node is initialised that is not in the list. -/
lemma Ring.initListHead (h : m.Ring head xs) (ha : a ∉ head :: xs) (hsome : (m a).isSome = true) :
    ∃ m', m.initListHead a = some m' ∧ m'.Ring head xs ∧ (m' a).isSome = true := by
  obtain ⟨m', hm', hn, hp⟩ := initListHead_spec hsome
  have hne {x : α} (hx : x ∈ head :: xs) : x ≠ a := by
    rintro rfl
    exact ha hx
  refine ⟨m', hm', h.congr (fun x hx => ?_) (fun x hx => ?_), ?_⟩
  · rw [hn, Function.update_of_ne (hne hx)]
  · rw [hp, Function.update_of_ne (hne hx)]
  · rw [← isSome_next, hn, Function.update_self, Option.isSome_some]

/-- **A node is appended.** -/
theorem Ring.listAddTail (h : m.Ring head xs) (hnew : (m new).isSome = true)
    (hfresh : new ∉ head :: xs) :
    ∃ m', m.listAddTail new head = some m' ∧ m'.Ring head (xs ++ [new]) := by
  have hmem : xs.getLastD head ∈ head :: xs := List.getLastD_mem_cons
  have hne : new ≠ xs.getLastD head := fun heq => hfresh (heq ▸ hmem)
  have hhead : new ≠ head := fun heq => hfresh (heq ▸ List.mem_cons_self)
  obtain ⟨m', hm', hn, hp⟩ := listAddTail_spec h.seg.prev_eq hnew (h.isSome hmem)
  refine ⟨m', hm', seg_append.2 ⟨?_, ?_, ?_⟩, ?_⟩
  · refine h.seg.bend h.nodup (fun x hx hlast => ?_) (fun x hx => ?_) ?_ ?_
    · have hxnew : x ≠ new := fun heq => hfresh (heq ▸ hx)
      rw [hn, Function.update_of_ne hlast, Function.update_of_ne hxnew]
    · have hxnew : x ≠ new := fun heq => hfresh (heq ▸ List.mem_cons_of_mem head hx)
      have hxhead : x ≠ head := fun heq => (List.nodup_cons.1 h.nodup).1 (heq ▸ hx)
      rw [hp, Function.update_of_ne hxnew, Function.update_of_ne hxhead]
    · rw [hn, Function.update_self]
    · rw [hp, Function.update_self]
  · rw [hn, Function.update_of_ne hne, Function.update_self]
  · rw [hp, Function.update_of_ne hhead.symm, Function.update_self]
  · rw [← List.cons_append]
    exact List.nodup_append.2 ⟨h.nodup, List.nodup_singleton _, by
      rintro x hx y hy rfl
      exact hfresh (List.mem_singleton.1 hy ▸ hx)⟩

/-- **The first node is taken out**; it stays in memory. -/
theorem Track.listDel (poison : ListHead α) (h : m.Track head (a :: xs) head)
    (hnodup : (head :: a :: xs).Nodup) :
    ∃ m', m.listDel poison a = some m' ∧ m'.Track head xs head ∧
      (∀ x, (m' x).isSome = (m x).isSome) ∧
      m'.prev head = if xs = [] then some head else m.prev head := by
  have hsome {x : α} (hx : x ∈ head :: a :: xs) : (m x).isSome = true := h.isSome hx
  obtain ⟨hhead, haprev, hrest⟩ := h
  obtain ⟨hnot, hnodup⟩ := List.nodup_cons.1 hnodup
  obtain ⟨hane, hnodup'⟩ := List.nodup_cons.1 hnodup
  have hne : head ≠ a := fun heq => hnot (heq ▸ List.mem_cons_self)
  have hn : (m (xs.headD head)).isSome = true := by
    refine hsome ?_
    cases xs <;> simp
  obtain ⟨m', hm', hn', hp'⟩ :=
    listDel_spec poison haprev hrest.next_eq (hsome List.mem_cons_self) hn
  have hkeep (x : α) : (m' x).isSome = (m x).isSome := by
    rw [← isSome_next, hn', Function.update_apply, Function.update_apply]
    split_ifs with hxa hxh
    · rw [hxa, hsome (List.mem_cons_of_mem head List.mem_cons_self), Option.isSome_some]
    · rw [hxh, hsome List.mem_cons_self, Option.isSome_some]
    · rw [isSome_next]
  refine ⟨m', hm', ?_, hkeep, ?_⟩
  · cases xs with
    | nil =>
      show m'.next head = some head
      rw [hn', Function.update_of_ne hne, Function.update_self, List.headD_nil]
    | cons y ys =>
      have hya : y ≠ a := fun heq => hane (heq ▸ List.mem_cons_self)
      refine ⟨?_, ?_, hrest.2.2.congr (fun z hz => ?_) (fun z hz => ?_)⟩
      · rw [hn', Function.update_of_ne hne, Function.update_self, List.headD_cons]
      · rw [hp', Function.update_of_ne hya, List.headD_cons, Function.update_self]
      · have hza : z ≠ a := fun heq => hane (heq ▸ hz)
        have hzh : z ≠ head := by
          rintro rfl
          exact hnot (List.mem_cons_of_mem a hz)
        rw [hn', Function.update_of_ne hza, Function.update_of_ne hzh]
      · have hza : z ≠ a := fun heq => hane (heq ▸ List.mem_cons_of_mem y hz)
        have hzy : z ≠ y := by
          rintro rfl
          exact (List.nodup_cons.1 hnodup').1 hz
        rw [hp', Function.update_of_ne hza, List.headD_cons, Function.update_of_ne hzy]
  · rw [hp', Function.update_of_ne hne]
    split_ifs with hxs
    · rw [hxs, List.headD_nil, Function.update_self]
    · obtain ⟨y, ys, rfl⟩ := List.exists_cons_of_ne_nil hxs
      have hy : head ≠ y := by
        rintro rfl
        exact hnot (by simp)
      rw [List.headD_cons, Function.update_of_ne hy]

/-- The same for the ring. -/
theorem Ring.listDel (poison : ListHead α) (h : m.Ring head (a :: xs)) :
    ∃ m', m.listDel poison a = some m' ∧ m'.Ring head xs ∧ ∀ x, m x = none → m' x = none := by
  obtain ⟨htrack, hprev⟩ := seg_iff_track.1 h.seg
  obtain ⟨m', hm', htrack', hsome, hprev'⟩ := htrack.listDel poison h.nodup
  obtain ⟨hnot, hnodup⟩ := List.nodup_cons.1 h.nodup
  refine ⟨m', hm', ⟨seg_iff_track.2 ⟨htrack', ?_⟩, List.nodup_cons.2
    ⟨fun hx => hnot (List.mem_cons_of_mem a hx), (List.nodup_cons.1 hnodup).2⟩⟩, fun x hx => ?_⟩
  · rw [hprev', hprev]
    cases xs <;> rfl
  · rw [← Option.not_isSome_iff_eq_none, hsome, hx]
    simp

end Specs

/-! ## The loops -/

section Loops

variable [DecidableEq α] {σ : Type} {links : σ → Links α} {head : α} {body : α → σ → Option σ}
  {xs : List α} {s : σ} {fuel : ℕ}

lemma forEachFrom_seg (hbody : ∀ x s s', body x s = some s' → links s' = links s) {a : α}
    (hseg : (links s).Seg a xs head) (hhead : head ∉ xs) (hfuel : xs.length < fuel) :
    forEachFrom links head body fuel (xs.headD head) s = xs.foldlM (fun s x => body x s) s := by
  induction xs generalizing a s fuel with
  | nil =>
    obtain ⟨fuel, rfl⟩ := Nat.exists_eq_add_one.2 hfuel
    simp [forEachFrom]
  | cons x xs ih =>
    obtain ⟨fuel, rfl⟩ := Nat.exists_eq_add_one.2 (Nat.zero_lt_of_lt hfuel)
    obtain ⟨hx, hxs⟩ := List.ne_and_not_mem_of_not_mem_cons hhead
    rw [List.headD_cons, forEachFrom, if_neg hx.symm, List.foldlM_cons]
    cases hs : body x s with
    | none => rfl
    | some s' =>
      have hlinks := hbody x s s' hs
      have hrest : (links s').Seg x xs head := by
        rw [hlinks]
        exact hseg.2.2
      have hlen : xs.length < fuel := by simpa using hfuel
      simp only [Option.bind_eq_bind, Option.bind_some, hrest.next_eq, ih hrest hxs hlen]

/-- **The loop over a list** whose body leaves the pointers as they are goes through the nodes
in order. -/
theorem Ring.forEach (links : σ → Links α) (h : (links s).Ring head xs)
    (hbody : ∀ x s s', body x s = some s' → links s' = links s) (hfuel : xs.length < fuel) :
    forEach links head body fuel s = xs.foldlM (fun s x => body x s) s := by
  have hloop := forEachFrom_seg hbody h.seg (List.nodup_cons.1 h.nodup).1 hfuel
  simpa only [Links.forEach, h.next_head, Option.bind_eq_bind, Option.bind_some] using hloop

variable {P : List α → σ → Prop}

lemma forEachSafeFrom_rule
    (htrack : ∀ xs s, P xs s → (links s).Track head xs head ∧ (head :: xs).Nodup)
    (hbody : ∀ x xs s, P (x :: xs) s → ∃ s', body x s = some s' ∧ P xs s') (h : P xs s)
    (hfuel : xs.length < fuel) :
    ∃ s', forEachSafeFrom links head body fuel (xs.headD head) (xs.tail.headD head) s = some s' ∧
      P [] s' := by
  induction xs generalizing s fuel with
  | nil =>
    obtain ⟨fuel, rfl⟩ := Nat.exists_eq_add_one.2 hfuel
    exact ⟨s, by simp [forEachSafeFrom], h⟩
  | cons x xs ih =>
    obtain ⟨fuel, rfl⟩ := Nat.exists_eq_add_one.2 (Nat.zero_lt_of_lt hfuel)
    have hx : x ≠ head := fun heq => (List.nodup_cons.1 (htrack _ _ h).2).1 (heq ▸ by simp)
    obtain ⟨s₁, hs₁, hP₁⟩ := hbody x xs s h
    obtain ⟨s', hs', hP'⟩ := ih hP₁ (by simpa using hfuel)
    -- the node after the next one, read when `x` has been dealt with
    have hnext : (links s₁).next (xs.headD head) = some (xs.tail.headD head) := by
      have ht := (htrack _ _ hP₁).1
      cases xs with
      | nil => exact ht
      | cons y ys => exact ht.2.2.next_eq
    refine ⟨s', ?_, hP'⟩
    rw [List.headD_cons, List.tail_cons, forEachSafeFrom, if_neg hx, hs₁]
    simp only [Option.bind_eq_bind, Option.bind_some, hnext, hs']

/-- **The rule of the safe loop**: the body may take the node out and free it, as long as the
rest of the list can still be followed. -/
theorem forEachSafe_of_track
    (htrack : ∀ xs s, P xs s → (links s).Track head xs head ∧ (head :: xs).Nodup)
    (hbody : ∀ x xs s, P (x :: xs) s → ∃ s', body x s = some s' ∧ P xs s') (h : P xs s)
    (hfuel : xs.length < fuel) :
    ∃ s', forEachSafe links head body fuel s = some s' ∧ P [] s' := by
  have ht := (htrack _ _ h).1
  have hnext : (links s).next (xs.headD head) = some (xs.tail.headD head) := by
    cases xs with
    | nil => exact ht
    | cons x xs => exact ht.2.2.next_eq
  obtain ⟨s', hs', hP'⟩ := forEachSafeFrom_rule htrack hbody h hfuel
  refine ⟨s', ?_, hP'⟩
  simp only [forEachSafe, ht.next_eq, Option.bind_eq_bind, Option.bind_some, hnext, hs']

/-- The same where the rest of the list is still a ring. -/
theorem forEachSafe_rule (hring : ∀ xs s, P xs s → (links s).Ring head xs)
    (hbody : ∀ x xs s, P (x :: xs) s → ∃ s', body x s = some s' ∧ P xs s') (h : P xs s)
    (hfuel : xs.length < fuel) :
    ∃ s', forEachSafe links head body fuel s = some s' ∧ P [] s' :=
  forEachSafe_of_track
    (fun xs s hP => ⟨(seg_iff_track.1 (hring xs s hP).seg).1, (hring xs s hP).nodup⟩) hbody h hfuel

end Loops

end Links

end KernelDriverLab.Lib
