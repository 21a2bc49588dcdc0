import KernelDriverLab.Lib.ListHead

/-!
# Nodes that are added to a list without a lock

`list_add_tail` loads `head->prev` and makes four stores, and without a lock the steps of
several additions interleave.  A history lists these steps, the latest first, each with the node
that is added.  It is `Coherent` when every addition makes its steps in order, each of them once,
and loads what `head->prev` then is.

In every interleaving the pointers `next` lead from the head through some of the nodes, in the
order in which they were published, and back to the head (`exists_leads`).  They lead through all
of them exactly when the additions were `Undisturbed`: each node was published while `head->prev`
still was what its addition had loaded, and linked to a node whose own `next` was set before
(`leads_published_iff`).

`Agrees` says that the `list_head`s in memory are those of a history.
-/

namespace KernelDriverLab.Lib

/-! ## Lists without repetition -/

section Sublist

variable {α : Type} {L l m : List α} {x y : α}

/-- Two sublists that meet in one element are one sublist. -/
lemma sublist_glue (hnodup : L.Nodup) (hl : (l ++ [x]).Sublist L) (hm : (x :: m).Sublist L) :
    (l ++ x :: m).Sublist L := by
  induction L generalizing l with
  | nil =>
    have hnil := List.eq_nil_of_sublist_nil hl
    simp at hnil
  | cons z L ih =>
    obtain ⟨hz, hnodup'⟩ := List.nodup_cons.1 hnodup
    cases l with
    | nil => exact hm
    | cons y l =>
      have hrest (hx : x ∈ L) : (x :: m).Sublist L := by
        rcases List.cons_sublist_cons'.1 hm with h | ⟨rfl, -⟩
        · exact h
        · exact absurd hx hz
      rcases List.cons_sublist_cons'.1 hl with hl' | ⟨rfl, hl'⟩
      · have hx : x ∈ L := hl'.subset (by simp)
        exact (ih hnodup' (l := y :: l) hl' (hrest hx)).cons z
      · have hx : x ∈ L := hl'.subset (by simp)
        exact (ih hnodup' hl' (hrest hx)).cons_cons y

lemma idxOf_lt_of_sublist [DecidableEq α] (hnodup : L.Nodup) (h : [x, y].Sublist L) :
    L.idxOf x < L.idxOf y := by
  induction L with
  | nil => cases h
  | cons z L ih =>
    obtain ⟨hz, hnodup'⟩ := List.nodup_cons.1 hnodup
    rcases List.cons_sublist_cons'.1 h with h' | ⟨rfl, h'⟩
    · have hx : z ≠ x := by
        rintro rfl
        exact hz (h'.subset (by simp))
      have hy : z ≠ y := by
        rintro rfl
        exact hz (h'.subset (by simp))
      rw [List.idxOf_cons_ne L hx, List.idxOf_cons_ne L hy]
      exact Nat.succ_lt_succ (ih hnodup' h')
    · have hy : x ≠ y := by
        rintro rfl
        exact hz (List.singleton_sublist.1 h')
      rw [List.idxOf_cons_self, List.idxOf_cons_ne L hy]
      exact Nat.succ_pos _

/-- Nothing comes before the first element. -/
lemma not_sublist_headD (hnodup : (l ++ [x]).Nodup) : ¬ [y, l.headD x].Sublist (l ++ [x]) := by
  intro h
  cases l with
  | nil => simp at h
  | cons z l =>
    obtain ⟨hz, -⟩ := List.nodup_cons.1 hnodup
    rw [List.headD_cons, List.cons_append] at h
    rcases List.cons_sublist_cons'.1 h with h' | ⟨-, h'⟩
    · exact hz (h'.subset (by simp))
    · exact hz (List.singleton_sublist.1 h')

end Sublist

/-! ## Following pointers -/

section Leads

variable {α : Type} {f : α → Option α} {a b c x : α} {xs ys : List α}

/-- The pointers `f` lead from `a` through `xs` to `b`. -/
def Leads (f : α → Option α) (a : α) : List α → α → Prop
  | [], b => f a = some b
  | x :: xs, b => f a = some x ∧ Leads f x xs b

lemma leads_append : Leads f a (xs ++ c :: ys) b ↔ Leads f a xs c ∧ Leads f c ys b := by
  induction xs generalizing a with
  | nil => rfl
  | cons x xs ih => rw [List.cons_append, Leads, Leads, ih, and_assoc]

/-- Every node on the way is pointed to. -/
lemma Leads.exists_pred (h : Leads f a xs b) (hx : x ∈ xs) : ∃ y, f y = some x := by
  induction xs generalizing a with
  | nil => cases hx
  | cons y xs ih =>
    obtain ⟨hy, hrest⟩ := h
    rcases List.mem_cons.1 hx with rfl | hx
    · exact ⟨a, hy⟩
    · exact ih hrest hx

lemma Leads.mono {g : α → Option α} (h : Leads f a xs b)
    (hfg : ∀ x y, x ∈ a :: xs → f x = some y → g x = some y) : Leads g a xs b := by
  induction xs generalizing a with
  | nil => exact hfg a b List.mem_cons_self h
  | cons x xs ih =>
    exact ⟨hfg a x List.mem_cons_self h.1,
      ih h.2 fun y z hy => hfg y z (List.mem_cons_of_mem a hy)⟩

/-- There is one way to `b`. -/
lemma Leads.unique (hxs : Leads f a xs b) (hys : Leads f a ys b) (hx : b ∉ xs) (hy : b ∉ ys) :
    xs = ys := by
  induction xs generalizing a ys with
  | nil =>
    cases ys with
    | nil => rfl
    | cons y ys =>
      obtain rfl : b = y := Option.some.inj (hxs.symm.trans hys.1)
      exact absurd List.mem_cons_self hy
  | cons x xs ih =>
    cases ys with
    | nil =>
      obtain rfl : b = x := Option.some.inj ((show f a = some b from hys).symm.trans hxs.1)
      exact absurd List.mem_cons_self hx
    | cons y ys =>
      obtain rfl : x = y := Option.some.inj (hxs.1.symm.trans hys.1)
      rw [ih hxs.2 hys.2 (fun h => hx (List.mem_cons_of_mem x h))
        fun h => hy (List.mem_cons_of_mem x h)]

lemma leads_of_seg {m : Links α} (h : m.Seg a xs b) : Leads m.next a xs b := by
  induction xs generalizing a with
  | nil => exact h.1
  | cons x xs ih => exact ⟨h.1, ih h.2.2⟩

end Leads

/-! ## Histories -/

/-- A step of the addition of `x` behind the node, or the head, `p`. -/
inductive Adding (α : Type) where
  /-- `head->prev` is loaded and is `p`. -/
  | load (x p : α)
  /-- `head->prev = x` -/
  | publish (x : α)
  /-- `x->next = head` -/
  | close (x : α)
  /-- `x->prev = p` -/
  | back (x p : α)
  /-- `p->next = x` -/
  | link (x p : α)
deriving DecidableEq, Repr

namespace Adding

variable {α : Type}

/-- The node that is added. -/
def node : Adding α → α
  | load x _ | publish x | close x | back x _ | link x _ => x

/-- The nodes that `head->prev` has pointed to, the latest first. -/
def published : List (Adding α) → List α
  | [] => []
  | publish x :: h => x :: published h
  | _ :: h => published h

/-- `head->prev` -/
def last (head : α) (h : List (Adding α)) : α := (published h).headD head

/-- What a step must find. -/
def Allowed (head : α) (h : List (Adding α)) : Adding α → Prop
  | load x p => x ≠ head ∧ (∀ q, load x q ∉ h) ∧ p = last head h
  | publish x => (∃ p, load x p ∈ h) ∧ publish x ∉ h
  | close x => publish x ∈ h ∧ close x ∉ h
  | back x p => load x p ∈ h ∧ close x ∈ h ∧ back x p ∉ h
  | link x p => back x p ∈ h ∧ link x p ∉ h

/-- The steps are those of additions that run one after the other or interleave. -/
def Coherent (head : α) : List (Adding α) → Prop
  | [] => True
  | e :: h => Allowed head h e ∧ Coherent head h

/-- No addition has got in the way of another one. -/
def Undisturbed (head : α) : List (Adding α) → Prop
  | [] => True
  | publish x :: h => load x (last head h) ∈ h ∧ Undisturbed head h
  | link _ p :: h => (p = head ∨ close p ∈ h) ∧ Undisturbed head h
  | _ :: h => Undisturbed head h

instance Undisturbed.decidable [DecidableEq α] (head : α) :
    (h : List (Adding α)) → Decidable (Undisturbed head h)
  | [] => inferInstanceAs (Decidable True)
  | publish x :: h =>
    letI := Undisturbed.decidable head h
    inferInstanceAs (Decidable (load x (last head h) ∈ h ∧ Undisturbed head h))
  | link _ p :: h =>
    letI := Undisturbed.decidable head h
    inferInstanceAs (Decidable ((p = head ∨ close p ∈ h) ∧ Undisturbed head h))
  | load _ _ :: h | close _ :: h | back _ _ :: h => Undisturbed.decidable head h

/-- Every addition that has begun has ended. -/
def Quiet (h : List (Adding α)) : Prop := ∀ x p, load x p ∈ h → link x p ∈ h

/-- The pointers `next` of the head and of the nodes. -/
def next [DecidableEq α] (head : α) : List (Adding α) → α → Option α
  | [] => Function.update (fun _ => none) head (some head)
  | close x :: h => Function.update (next head h) x (some head)
  | link x p :: h => Function.update (next head h) p (some x)
  | _ :: h => next head h

variable {head a b p q x y : α} {e : Adding α} {h h₀ : List (Adding α)}

lemma mem_published : x ∈ published h ↔ publish x ∈ h := by
  induction h with
  | nil => simp [published]
  | cons e h ih => cases e <;> simp [published, ih]

lemma published_suffix (hsuffix : h₀ <:+ h) : published h₀ <:+ published h := by
  induction h with
  | nil =>
    obtain rfl := List.suffix_nil.1 hsuffix
    exact List.suffix_refl _
  | cons e h ih =>
    rcases List.suffix_cons_iff.1 hsuffix with rfl | hrest
    · exact List.suffix_refl _
    · cases e with
      | publish x => exact (ih hrest).trans (List.suffix_cons x _)
      | _ => exact ih hrest

lemma sublist_published_cons (e : Adding α) (h : List (Adding α)) :
    (published h).Sublist (published (e :: h)) :=
  (published_suffix (List.suffix_cons e h)).sublist

/-- A step that adds another node. -/
lemma not_mem_cons {e' : Adding α} (hne : e.node ≠ e'.node) (h' : e' ∉ h) : e' ∉ e :: h := by
  intro hmem
  rcases List.mem_cons.1 hmem with rfl | hmem
  · exact hne rfl
  · exact h' hmem

/-- A step that is in a history was allowed when it was made. -/
lemma Coherent.allowed (hh : Coherent head h) (he : e ∈ h) :
    ∃ h₀, e :: h₀ <:+ h ∧ Allowed head h₀ e := by
  induction h with
  | nil => cases he
  | cons e' h ih =>
    rcases List.mem_cons.1 he with rfl | he
    · exact ⟨h, List.suffix_refl _, hh.1⟩
    · obtain ⟨h₀, hsuffix, hallowed⟩ := ih hh.2 he
      exact ⟨h₀, hsuffix.trans (List.suffix_cons e' h), hallowed⟩

/-- What was there before a step of a history is in the history. -/
lemma subset_of_suffix (hsuffix : e :: h₀ <:+ h) : h₀ ⊆ h :=
  fun _ he => hsuffix.subset (List.mem_cons_of_mem e he)

/-! ### The order of the steps -/

lemma Coherent.ne_head (hh : Coherent head h) (hload : load x p ∈ h) : x ≠ head := by
  obtain ⟨h₀, -, hne, -⟩ := hh.allowed hload
  exact hne

lemma Coherent.load_of_publish (hh : Coherent head h) (hpublish : publish x ∈ h) :
    ∃ p, load x p ∈ h := by
  obtain ⟨h₀, hsuffix, ⟨p, hload⟩, -⟩ := hh.allowed hpublish
  exact ⟨p, subset_of_suffix hsuffix hload⟩

lemma Coherent.publish_of_close (hh : Coherent head h) (hclose : close x ∈ h) :
    publish x ∈ h := by
  obtain ⟨h₀, hsuffix, hpublish, -⟩ := hh.allowed hclose
  exact subset_of_suffix hsuffix hpublish

lemma Coherent.of_back (hh : Coherent head h) (hback : back x p ∈ h) :
    load x p ∈ h ∧ close x ∈ h := by
  obtain ⟨h₀, hsuffix, hload, hclose, -⟩ := hh.allowed hback
  exact ⟨subset_of_suffix hsuffix hload, subset_of_suffix hsuffix hclose⟩

lemma Coherent.back_of_link (hh : Coherent head h) (hlink : link x p ∈ h) : back x p ∈ h := by
  obtain ⟨h₀, hsuffix, hback, -⟩ := hh.allowed hlink
  exact subset_of_suffix hsuffix hback

/-- What is linked has been through all the steps. -/
lemma Coherent.of_link (hh : Coherent head h) (hlink : link x p ∈ h) :
    load x p ∈ h ∧ publish x ∈ h ∧ close x ∈ h := by
  obtain ⟨hload, hclose⟩ := hh.of_back (hh.back_of_link hlink)
  exact ⟨hload, hh.publish_of_close hclose, hclose⟩

/-- An addition loads once. -/
lemma Coherent.load_unique (hh : Coherent head h) (hp : load x p ∈ h) (hq : load x q ∈ h) :
    p = q := by
  induction h with
  | nil => cases hp
  | cons e h ih =>
    obtain ⟨hallowed, hh⟩ := hh
    rcases List.mem_cons.1 hp with rfl | hp'
    · rcases List.mem_cons.1 hq with hq | hq
      · exact (load.inj hq).2.symm
      · exact absurd hq (hallowed.2.1 q)
    · rcases List.mem_cons.1 hq with rfl | hq
      · exact absurd hp' (hallowed.2.1 p)
      · exact ih hh hp' hq

/-- Nothing is published twice, and the head never is. -/
lemma Coherent.nodup (hh : Coherent head h) : (published h ++ [head]).Nodup := by
  induction h with
  | nil => exact List.nodup_singleton head
  | cons e h ih =>
    obtain ⟨hallowed, hh⟩ := hh
    cases e with
    | publish x =>
      obtain ⟨⟨p, hload⟩, hnew⟩ := hallowed
      refine List.nodup_cons.2 ⟨fun hmem => ?_, ih hh⟩
      rcases List.mem_append.1 hmem with hmem | hmem
      · exact hnew (mem_published.1 hmem)
      · exact hh.ne_head hload (List.mem_singleton.1 hmem)
    | _ => exact ih hh

lemma last_mem (head : α) (h : List (Adding α)) : last head h ∈ published h ++ [head] := by
  rw [last]
  cases published h <;> simp

/-- What is loaded is the head or a node that is published. -/
lemma Coherent.mem_of_load (hh : Coherent head h) (hload : load x p ∈ h) :
    p ∈ published h ++ [head] := by
  obtain ⟨h₀, hsuffix, -, -, rfl⟩ := hh.allowed hload
  have hpublished := (published_suffix hsuffix).sublist.append_right [head]
  exact hpublished.subset (last_mem head h₀)

/-- **A node is published after what its addition has loaded.** -/
lemma Coherent.sublist_of_load (hh : Coherent head h) (hload : load x p ∈ h)
    (hpublish : publish x ∈ h) : [x, p].Sublist (published h ++ [head]) := by
  induction h with
  | nil => cases hload
  | cons e h ih =>
    obtain ⟨hallowed, hh⟩ := hh
    cases e with
    | publish y =>
      have hload' : load x p ∈ h := by simpa using hload
      rcases List.mem_cons.1 hpublish with heq | hpublish
      · obtain rfl := publish.inj heq
        exact (List.singleton_sublist.2 (hh.mem_of_load hload')).cons_cons x
      · exact (ih hh hload' hpublish).cons y
    | load y q =>
      have hpublish' : publish x ∈ h := by simpa using hpublish
      rcases List.mem_cons.1 hload with heq | hload
      · obtain ⟨rfl, rfl⟩ := load.inj heq
        obtain ⟨q, hq⟩ := hh.load_of_publish hpublish'
        exact absurd hq (hallowed.2.1 q)
      · exact ih hh hload hpublish'
    | close y | back y q | link y q => exact ih hh (by simpa using hload) (by simpa using hpublish)

/-- What is closed is published. -/
lemma Coherent.mem_of_closed (hh : Coherent head h) (ha : a = head ∨ close a ∈ h) :
    a ∈ published h ++ [head] := by
  rcases ha with rfl | hclose
  · simp
  · exact List.mem_append_left _ (mem_published.2 (hh.publish_of_close hclose))

/-! ### Additions that disturb each other -/

/-- Undisturbed additions load what was published just before. -/
lemma Undisturbed.load_of_suffix (hu : Undisturbed head h) {l : List α}
    (hl : x :: l <:+ published h) : load x (l.headD head) ∈ h := by
  induction h with
  | nil => simp [published] at hl
  | cons e h ih =>
    cases e with
    | publish y =>
      obtain ⟨hload, hu⟩ := hu
      rcases List.suffix_cons_iff.1 hl with heq | hl
      · obtain ⟨rfl, rfl⟩ := List.cons.inj heq
        exact List.mem_cons_of_mem _ hload
      · exact List.mem_cons_of_mem _ (ih hu hl)
    | link y p => exact List.mem_cons_of_mem _ (ih hu.2 hl)
    | load y p | close y | back y p => exact List.mem_cons_of_mem _ (ih hu hl)

/-- Only behind what was published last is there no node yet. -/
lemma Undisturbed.exists_behind (hu : Undisturbed head h) (hp : p ∈ published h ++ [head])
    (hlast : p ≠ last head h) : ∃ y, load y p ∈ h ∧ publish y ∈ h := by
  obtain ⟨l, m, hsplit⟩ := List.append_of_mem hp
  rcases List.eq_nil_or_concat l with rfl | ⟨l, y, rfl⟩
  · have hfirst : (published h ++ [head]).headD head = last head h := by
      rw [last]
      cases published h <;> rfl
    rw [hsplit] at hfirst
    exact absurd hfirst hlast
  · -- `y` is the node before `p`
    obtain ⟨m, hpublished, rfl⟩ : ∃ m, published h = l ++ y :: m ∧ m.headD head = p := by
      rcases List.eq_nil_or_concat m with rfl | ⟨m, z, rfl⟩
      · obtain ⟨hl, hhead⟩ := List.append_inj' hsplit rfl
        refine ⟨[], by rw [hl, List.concat_eq_append], ?_⟩
        exact (List.singleton_inj.1 hhead)
      · have hsplit' : published h ++ [head] = (l ++ y :: p :: m) ++ [z] := by simpa using hsplit
        obtain ⟨hl, -⟩ := List.append_inj' hsplit' rfl
        exact ⟨p :: m, hl, rfl⟩
    have hsuffix : y :: m <:+ published h := ⟨l, hpublished.symm⟩
    refine ⟨y, hu.load_of_suffix hsuffix, mem_published.1 ?_⟩
    rw [hpublished]
    simp

/-- No two of them have loaded the same. -/
lemma Undisturbed.unique (hu : Undisturbed head h) (hh : Coherent head h)
    (hx : load x p ∈ h) (hy : load y p ∈ h) (hpx : publish x ∈ h) (hpy : publish y ∈ h) :
    x = y := by
  -- the later one has loaded what was published last
  have hlast {x y : α} {h : List (Adding α)} (hh : Coherent head h)
      (hx : load x (last head h) ∈ h) (hxp : load x p ∈ h) (hy : load y p ∈ h)
      (hpy : publish y ∈ h) : False := by
    obtain rfl := hh.load_unique hx hxp
    exact not_sublist_headD hh.nodup (hh.sublist_of_load hy hpy)
  induction h with
  | nil => cases hx
  | cons e h ih =>
    obtain ⟨hallowed, hh⟩ := hh
    cases e with
    | publish z =>
      obtain ⟨hload, hu⟩ := hu
      have hx' : load x p ∈ h := by simpa using hx
      have hy' : load y p ∈ h := by simpa using hy
      rcases List.mem_cons.1 hpx with heq | hpx'
      · obtain rfl := publish.inj heq
        rcases List.mem_cons.1 hpy with heq | hpy'
        · exact (publish.inj heq).symm
        · exact (hlast hh hload hx' hy' hpy').elim
      · rcases List.mem_cons.1 hpy with heq | hpy'
        · obtain rfl := publish.inj heq
          exact (hlast hh hload hy' hx' hpx').elim
        · exact ih hu hh hx' hy' hpx' hpy'
    | load z q =>
      have hpx' : publish x ∈ h := by simpa using hpx
      have hpy' : publish y ∈ h := by simpa using hpy
      have hold {w : α} (hw : load w p ∈ load z q :: h) (hpw : publish w ∈ h) : load w p ∈ h := by
        rcases List.mem_cons.1 hw with heq | hw
        · obtain ⟨rfl, rfl⟩ := load.inj heq
          obtain ⟨q, hq⟩ := hh.load_of_publish hpw
          exact absurd hq (hallowed.2.1 q)
        · exact hw
      exact ih hu hh (hold hx hpx') (hold hy hpy') hpx' hpy'
    | link z q =>
      exact ih hu.2 hh (by simpa using hx) (by simpa using hy) (by simpa using hpx)
        (by simpa using hpy)
    | close z | back z q =>
      exact ih hu hh (by simpa using hx) (by simpa using hy) (by simpa using hpx)
        (by simpa using hpy)

/-- They link only to what is closed. -/
lemma Undisturbed.closed (hu : Undisturbed head h) (hlink : link x p ∈ h) :
    p = head ∨ close p ∈ h := by
  induction h with
  | nil => cases hlink
  | cons e h ih =>
    have hold (hu : Undisturbed head h) (hlink : link x p ∈ h) : p = head ∨ close p ∈ e :: h :=
      (ih hu hlink).imp id (List.mem_cons_of_mem e)
    cases e with
    | publish z => exact hold hu.2 (by simpa using hlink)
    | link z q =>
      rcases List.mem_cons.1 hlink with heq | hlink
      · obtain ⟨rfl, rfl⟩ := link.inj heq
        exact hu.1.imp id (List.mem_cons_of_mem _)
      · exact hold hu.2 hlink
    | load z q | close z | back z q => exact hold hu (by simpa using hlink)

/-! ### The pointers -/

section Pointers

variable [DecidableEq α]

/-- A pointer leads back to the head, where the head and what is closed point, or to a node that
was linked here. -/
lemma link_of_next (hnext : next head h a = some b) :
    link b a ∈ h ∨ b = head ∧ (a = head ∨ close a ∈ h) := by
  induction h with
  | nil =>
    rw [next, Function.update_apply] at hnext
    split_ifs at hnext with ha
    exact .inr ⟨(Option.some.inj hnext).symm, .inl ha⟩
  | cons e h ih =>
    have hold (hnext : next head h a = some b) :
        link b a ∈ e :: h ∨ b = head ∧ (a = head ∨ close a ∈ e :: h) :=
      (ih hnext).imp (List.mem_cons_of_mem _) fun h => ⟨h.1, h.2.imp id (List.mem_cons_of_mem _)⟩
    cases e with
    | close x =>
      rw [next, Function.update_apply] at hnext
      split_ifs at hnext with hax
      · exact .inr ⟨(Option.some.inj hnext).symm, .inr (hax ▸ List.mem_cons_self)⟩
      · exact hold hnext
    | link x p =>
      rw [next, Function.update_apply] at hnext
      split_ifs at hnext with hap
      · obtain rfl := Option.some.inj hnext
        exact .inl (hap ▸ List.mem_cons_self)
      · exact hold hnext
    | load x p | publish x | back x p => exact hold hnext

/-- The pointers of the head and of the nodes that are closed are set. -/
lemma next_isSome (ha : a = head ∨ close a ∈ h) : (next head h a).isSome = true := by
  induction h with
  | nil =>
    obtain rfl : a = head := by simpa using ha
    simp [next]
  | cons e h ih =>
    cases e with
    | close x =>
      rw [next, Function.update_apply]
      split_ifs with hax
      · rfl
      · exact ih (ha.imp id fun hmem => by simpa [hax] using hmem)
    | link x p =>
      rw [next, Function.update_apply]
      split_ifs
      · rfl
      · exact ih (ha.imp id fun hmem => by simpa using hmem)
    | load x p | publish x | back x p => exact ih (ha.imp id fun hmem => by simpa using hmem)

/-- Where a pointer that is set leads. -/
lemma next_cases (ha : a = head ∨ close a ∈ h) :
    next head h a = some head ∨ ∃ x, next head h a = some x ∧ link x a ∈ h := by
  obtain ⟨b, hb⟩ := Option.isSome_iff_exists.1 (next_isSome ha)
  rcases link_of_next hb with hlink | ⟨rfl, -⟩
  · exact .inr ⟨b, hb, hlink⟩
  · exact .inl hb

/-- Only nodes whose addition has begun have pointers. -/
lemma Coherent.eq_head_or_load (hh : Coherent head h) (hnext : next head h a = some b) :
    a = head ∨ ∃ p, load a p ∈ h := by
  rcases link_of_next hnext with hlink | ⟨-, ha⟩
  · rcases List.mem_append.1 (hh.mem_of_load (hh.of_link hlink).1) with hmem | hmem
    · exact .inr (hh.load_of_publish (mem_published.1 hmem))
    · exact .inl (List.mem_singleton.1 hmem)
  · exact ha.imp id fun hclose => hh.load_of_publish (hh.publish_of_close hclose)

/-! ### Following the list -/

/-- **The list ends**: from the head, and from every node that is closed, the pointers lead back
to the head, through nodes that were published one after the other. -/
theorem Coherent.exists_leads (hh : Coherent head h) (ha : a = head ∨ close a ∈ h) :
    ∃ xs, Leads (next head h) a xs head ∧ (xs.reverse ++ [a]).Sublist (published h ++ [head]) := by
  -- the later a node was published the smaller is its index
  induction hn : (published h ++ [head]).idxOf a using Nat.strongRecOn generalizing a with
  | ind n ih =>
    subst hn
    rcases next_cases ha with hend | ⟨x, hx, hlink⟩
    · exact ⟨[], hend, List.singleton_sublist.2 (hh.mem_of_closed ha)⟩
    · obtain ⟨hload, hpublish, hclose⟩ := hh.of_link hlink
      have hafter := hh.sublist_of_load hload hpublish
      obtain ⟨xs, hxs, hsub⟩ := ih _ (idxOf_lt_of_sublist hh.nodup hafter) (.inr hclose) rfl
      refine ⟨x :: xs, ⟨hx, hxs⟩, ?_⟩
      rw [List.reverse_cons, List.append_assoc]
      exact sublist_glue hh.nodup hsub hafter

/-- What the list from the head leads through. -/
lemma Coherent.exists_leads_head (hh : Coherent head h) :
    ∃ xs, Leads (next head h) head xs head ∧ xs.Sublist (published h).reverse := by
  obtain ⟨xs, hxs, hsub⟩ := hh.exists_leads (.inl rfl)
  refine ⟨xs, hxs, ?_⟩
  have hreverse := (List.append_sublist_append_right [head]).1 hsub
  rw [← List.reverse_sublist, List.reverse_reverse]
  exact hreverse

/-! ### Whether a node is lost -/

/-- What is linked stays linked. -/
lemma Undisturbed.next_eq (hu : Undisturbed head h) (hh : Coherent head h)
    (hlink : link x p ∈ h) : next head h p = some x := by
  induction h with
  | nil => cases hlink
  | cons e h ih =>
    obtain ⟨hallowed, hh'⟩ := hh
    cases e with
    | publish z => exact ih hu.2 hh' (by simpa using hlink)
    | close z =>
      have hlink' : link x p ∈ h := by simpa using hlink
      have hu' : Undisturbed head h := hu
      have hne : p ≠ z := by
        rintro rfl
        rcases hu'.closed hlink' with rfl | hclose
        · obtain ⟨q, hq⟩ := hh'.load_of_publish hallowed.1
          exact hh'.ne_head hq rfl
        · exact hallowed.2 hclose
      rw [next, Function.update_of_ne hne]
      exact ih hu' hh' hlink'
    | link z q =>
      rcases List.mem_cons.1 hlink with heq | hlink'
      · obtain ⟨rfl, rfl⟩ := link.inj heq
        rw [next, Function.update_self]
      · have hold := ih hu.2 hh' hlink'
        rw [next, Function.update_apply]
        split_ifs with hpq
        · subst hpq
          obtain ⟨hx, hpx, -⟩ := hh'.of_link hlink'
          obtain ⟨hz, -⟩ := hh'.of_back hallowed.1
          have hpz := hh'.publish_of_close (hh'.of_back hallowed.1).2
          rw [hu.2.unique hh' hz hx hpz hpx]
        · exact hold
    | load z q | back z q => exact ih hu hh' (by simpa using hlink)

/-- **Undisturbed additions** are all in the list when they have ended. -/
lemma Undisturbed.leads (hu : Undisturbed head h) (hh : Coherent head h) (hq : Quiet h) :
    Leads (next head h) head (published h).reverse head := by
  have hfront (l : List α) (hl : l <:+ published h) (b : α)
      (hb : next head h (l.headD head) = some b) : Leads (next head h) head l.reverse b := by
    induction l generalizing b with
    | nil => exact hb
    | cons x l ih =>
      have hload := hu.load_of_suffix hl
      rw [List.reverse_cons]
      exact leads_append.2 ⟨ih ((List.suffix_cons x l).trans hl) x
        (hu.next_eq hh (hq _ _ hload)), hb⟩
  refine hfront _ (List.suffix_refl _) head ?_
  -- nothing is linked to what was published last
  have hlast : last head h = head ∨ close (last head h) ∈ h := by
    rcases List.mem_append.1 (last_mem head h) with hmem | hmem
    · obtain ⟨p, hp⟩ := hh.load_of_publish (mem_published.1 hmem)
      exact .inr (hh.of_link (hq _ _ hp)).2.2
    · exact .inl (List.mem_singleton.1 hmem)
  rcases next_cases hlast with hend | ⟨x, -, hlink⟩
  · exact hend
  · obtain ⟨hload, hpublish, -⟩ := hh.of_link hlink
    exact absurd (hh.sublist_of_load hload hpublish) (not_sublist_headD hh.nodup)

/-- A node is or will be missing from the list. -/
inductive Damaged (head : α) (h : List (Adding α)) : Prop where
  /-- Two nodes are to be linked to the same one. -/
  | shared {x y p : α} (hne : x ≠ y) (hx : load x p ∈ h) (hy : load y p ∈ h)
      (hpx : publish x ∈ h) (hpy : publish y ∈ h)
  /-- A node was linked, and the link is gone or will be overwritten. -/
  | lost {x p : α} (hlink : link x p ∈ h)
      (hgone : p ≠ head ∧ close p ∉ h ∨ next head h p ≠ some x)

/-- The damage is not repaired. -/
lemma Damaged.cons (hd : Damaged head h) (hh : Coherent head (e :: h)) :
    Damaged head (e :: h) := by
  obtain ⟨hallowed, hh⟩ := hh
  rcases hd with ⟨hne, hx, hy, hpx, hpy⟩ | @⟨x, p, hlink, hgone⟩
  · exact .shared hne (List.mem_cons_of_mem e hx) (List.mem_cons_of_mem e hy)
      (List.mem_cons_of_mem e hpx) (List.mem_cons_of_mem e hpy)
  · have hx : x ≠ head := hh.ne_head (hh.of_link hlink).1
    refine .lost (List.mem_cons_of_mem e hlink) ?_
    cases e with
    | close z =>
      rw [next, Function.update_apply]
      split_ifs with hpz
      · right
        intro heq
        exact hx (Option.some.inj heq).symm
      · exact hgone.imp (fun hopen => ⟨hopen.1, by simpa [hpz] using hopen.2⟩) id
    | link z q =>
      rw [next, Function.update_apply]
      split_ifs with hpq
      · right
        intro heq
        obtain rfl := Option.some.inj heq
        exact hallowed.2 (hpq ▸ hlink)
      · exact hgone.imp (fun hopen => ⟨hopen.1, by simpa using hopen.2⟩) id
    | load z q | publish z | back z q =>
      exact hgone.imp (fun hopen => ⟨hopen.1, by simpa using hopen.2⟩) id

/-- The first disturbance does damage. -/
lemma undisturbed_or_damaged (hh : Coherent head h) : Undisturbed head h ∨ Damaged head h := by
  induction h with
  | nil => exact .inl trivial
  | cons e h ih =>
    obtain ⟨hallowed, hh'⟩ := hh
    rcases ih hh' with hu | hd
    · cases e with
      | publish x =>
        obtain ⟨⟨p, hload⟩, hnew⟩ := hallowed
        by_cases hlast : p = last head h
        · exact .inl ⟨hlast ▸ hload, hu⟩
        · -- another node was published behind `p` in the meantime
          obtain ⟨y, hy, hpy⟩ := hu.exists_behind (hh'.mem_of_load hload) hlast
          have hne : x ≠ y := by
            rintro rfl
            exact hnew hpy
          exact .inr (.shared hne (List.mem_cons_of_mem _ hload) (List.mem_cons_of_mem _ hy)
            List.mem_cons_self (List.mem_cons_of_mem _ hpy))
      | link x p =>
        by_cases hclosed : p = head ∨ close p ∈ h
        · exact .inl ⟨hclosed, hu⟩
        · rw [not_or] at hclosed
          exact .inr (.lost List.mem_cons_self (.inl ⟨hclosed.1, by simpa using hclosed.2⟩))
      | load x p | close x | back x p => exact .inl hu
    · exact .inr (hd.cons ⟨hallowed, hh'⟩)

/-- A damaged list has lost a node when all additions have ended. -/
lemma Damaged.not_leads (hd : Damaged head h) (hh : Coherent head h) (hq : Quiet h) :
    ¬ Leads (next head h) head (published h).reverse head := by
  intro hall
  -- every node is where it was linked
  have hnext {x p : α} (hload : load x p ∈ h) : next head h p = some x := by
    have hmem : x ∈ (published h).reverse := by
      rw [List.mem_reverse, mem_published]
      exact (hh.of_link (hq _ _ hload)).2.1
    obtain ⟨y, hy⟩ := hall.exists_pred hmem
    rcases link_of_next hy with hlink | ⟨rfl, -⟩
    · rwa [hh.load_unique hload (hh.of_link hlink).1]
    · exact absurd rfl (hh.ne_head hload)
  rcases hd with ⟨hne, hx, hy, -, -⟩ | ⟨hlink, hopen | hgone⟩
  · exact hne (Option.some.inj ((hnext hx).symm.trans (hnext hy)))
  · obtain ⟨hp, hopen⟩ := hopen
    rcases List.mem_append.1 (hh.mem_of_load (hh.of_link hlink).1) with hmem | hmem
    · obtain ⟨q, hload⟩ := hh.load_of_publish (mem_published.1 hmem)
      exact hopen (hh.of_link (hq _ _ hload)).2.2
    · exact hp (List.mem_singleton.1 hmem)
  · exact hgone (hnext (hh.of_link hlink).1)

/-- **No node is lost exactly when no addition was disturbed.** -/
theorem leads_published_iff (hh : Coherent head h) (hq : Quiet h) :
    Leads (next head h) head (published h).reverse head ↔ Undisturbed head h := by
  constructor
  · intro hall
    rcases undisturbed_or_damaged hh with hu | hd
    · exact hu
    · exact absurd hall (hd.not_leads hh hq)
  · intro hu
    exact hu.leads hh hq

/-! ### The pointers in memory -/

/-- The pointers that a history has set are in memory. -/
structure Agrees (head : α) (m : Links α) (h : List (Adding α)) : Prop where
  next : ∀ a b, next head h a = some b → m.next a = some b
  prev_head : m.prev head = some (last head h)
  prev : ∀ x p, back x p ∈ h → m.prev x = some p

section Agrees

variable {m m' : Links α}

lemma Agrees.load (hm : Agrees head m h) (x p : α) : Agrees head m (.load x p :: h) where
  next := hm.next
  prev_head := hm.prev_head
  prev y q hback := hm.prev y q (by simpa using hback)

lemma Agrees.publish (hm : Agrees head m h) (hh : Coherent head h) (hn : m'.next = m.next)
    (hp : m'.prev = Function.update m.prev head (some x)) : Agrees head m' (.publish x :: h) where
  next a b hnext := by
    rw [hn]
    exact hm.next a b hnext
  prev_head := by rw [hp, Function.update_self, last, published, List.headD_cons]
  prev y q hback := by
    have hback' : Adding.back y q ∈ h := by simpa using hback
    rw [hp, Function.update_of_ne (hh.ne_head (hh.of_back hback').1)]
    exact hm.prev y q hback'

lemma Agrees.close (hm : Agrees head m h) (hn : m'.next = Function.update m.next x (some head))
    (hp : m'.prev = m.prev) : Agrees head m' (.close x :: h) where
  next a b hnext := by
    rw [Adding.next, Function.update_apply] at hnext
    rw [hn, Function.update_apply]
    split_ifs at hnext ⊢
    · exact hnext
    · exact hm.next a b hnext
  prev_head := by
    rw [hp]
    exact hm.prev_head
  prev y q hback := by
    rw [hp]
    exact hm.prev y q (by simpa using hback)

lemma Agrees.back (hm : Agrees head m h) (hh : Coherent head h) (hload : Adding.load x p ∈ h)
    (hn : m'.next = m.next) (hp : m'.prev = Function.update m.prev x (some p)) :
    Agrees head m' (.back x p :: h) where
  next a b hnext := by
    rw [hn]
    exact hm.next a b hnext
  prev_head := by
    rw [hp, Function.update_of_ne (hh.ne_head hload).symm]
    exact hm.prev_head
  prev y q hback := by
    rw [hp, Function.update_apply]
    rcases List.mem_cons.1 hback with heq | hback'
    · obtain ⟨rfl, rfl⟩ := Adding.back.inj heq
      exact if_pos rfl
    · split_ifs with hyx
      · subst hyx
        rw [hh.load_unique hload (hh.of_back hback').1]
      · exact hm.prev y q hback'

lemma Agrees.link (hm : Agrees head m h) (hn : m'.next = Function.update m.next p (some x))
    (hp : m'.prev = m.prev) : Agrees head m' (.link x p :: h) where
  next a b hnext := by
    rw [Adding.next, Function.update_apply] at hnext
    rw [hn, Function.update_apply]
    split_ifs at hnext ⊢
    · exact hnext
    · exact hm.next a b hnext
  prev_head := by
    rw [hp]
    exact hm.prev_head
  prev y q hback := by
    rw [hp]
    exact hm.prev y q (by simpa using hback)

/-- A node whose addition has not begun can be changed. -/
lemma Agrees.congr (hm : Agrees head m h) (hh : Coherent head h) (hx : x ≠ head)
    (hnew : ∀ p, Adding.load x p ∉ h) (hn : ∀ a, a ≠ x → m'.next a = m.next a)
    (hp : ∀ a, a ≠ x → m'.prev a = m.prev a) : Agrees head m' h where
  next a b hnext := by
    have hne : a ≠ x := by
      rintro rfl
      rcases hh.eq_head_or_load hnext with rfl | ⟨p, hload⟩
      · exact hx rfl
      · exact hnew p hload
    rw [hn a hne]
    exact hm.next a b hnext
  prev_head := by
    rw [hp head hx.symm]
    exact hm.prev_head
  prev y q hback := by
    have hne : y ≠ x := by
      rintro rfl
      exact hnew q (hh.of_back hback).1
    rw [hp y hne]
    exact hm.prev y q hback

/-- Where the history leads, the pointers in memory lead, and back. -/
lemma Agrees.track (hm : Agrees head m h) (hh : Coherent head h) {xs : List α}
    (hxs : Leads (Adding.next head h) a xs head) (hhead : head ∉ xs) : m.Track a xs head := by
  induction xs generalizing a with
  | nil => exact hm.next a head hxs
  | cons x xs ih =>
    obtain ⟨hx, hrest⟩ := hxs
    obtain ⟨hne, hhead⟩ := List.ne_and_not_mem_of_not_mem_cons hhead
    rcases link_of_next hx with hlink | ⟨rfl, -⟩
    · exact ⟨hm.next a x hx, hm.prev x a (hh.back_of_link hlink), ih hrest hhead⟩
    · exact absurd rfl hne

end Agrees

end Pointers

end Adding

end KernelDriverLab.Lib
