import KernelDriverLab.Chardev.ListCalls

/-!
# The proof outline of overlapping calls

What holds while a call is at a stage, and what always holds of the list, whatever the
interleaving: the pointers in memory are those of the additions that the log shows, and what is
in memory is the head and the nodes that were allocated.  Each operation keeps both; `lands`
puts them together, and `holds_of_reach` has the result for every run.
-/

namespace KernelDriverLab.ListCalls

open Lib Prog Links Chardev NodeList

/-! ## Every interleaving -/

/-- What the steps `h` of the additions and the nodes that it has printed say of a call. -/
def Fact (h : List (Adding Ptr)) (seen : List Ptr) : Stage → Prop
  | .idle | .added => True
  | .owns x => ∀ p, .load x p ∉ h
  | .loaded x p => .load x p ∈ h ∧ .publish x ∉ h
  | .published x p => .load x p ∈ h ∧ .publish x ∈ h ∧ .close x ∉ h
  | .closed x p => .load x p ∈ h ∧ .close x ∈ h ∧ .back x p ∉ h
  | .backed x p => .back x p ∈ h ∧ .link x p ∉ h
  | .listing pos n => seen.length = n ∧ (pos = headNode ∨
      .close pos ∈ h ∧ (pos :: (seen ++ [headNode])).Sublist (Adding.published h ++ [headNode]))
  | .printed pos n => seen.length = n + 1 ∧ .close pos ∈ h ∧ seen.head? = some pos

/-- What holds while call `i` is at a stage. -/
structure Here (h : List (Adding Ptr)) (own : Ptr → Option ℕ) (seen : List Ptr) (i : ℕ)
    (c : BufferCall) (st : Stage) : Prop where
  node : ∀ x, st.node = some x → own x = some i
  own : ∀ x, own x = some i → Adds c = true ∧ (st.node = some x ∨ ∃ p, .link x p ∈ h)
  blank : ¬ st.Lists → seen = []
  printed : (seen ++ [headNode]).Sublist (Adding.published h ++ [headNode])
  fact : Fact h seen st

/-- What always holds. -/
structure Always (log : Log) (s : State) : Prop where
  coherent : Adding.Coherent headNode (additions log)
  agrees : Adding.Agrees headNode s.links (additions log)
  begun : ∀ x p, .load x p ∈ additions log → owner log x ≠ none
  links : ∀ p, (s.links p).isSome = true ↔ p = headNode ∨ owner log p ≠ none
  data : ∀ p, (s.data p).isSome = true ↔ owner log p ≠ none
  head : owner log headNode = none
  terminated : Terminated s.deviceBuffer
  freed : s.freed = []

/-- What holds while a call is at a stage, and what always holds. -/
@[simps]
def outline : Outline Op Op.Ans BufferCall Round State Stage (Log × Unit) where
  proto := proto
  ends _ := Ends
  here g i c st _ := Here (additions g.1) (owner g.1) (shown i g.1) i c st
  always g s := Always g.1 s

section Frame

variable {h : List (Adding Ptr)} {a : Adding Ptr} {own : Ptr → Option ℕ} {seen : List Ptr}
  {i j : ℕ} {c : BufferCall} {st : Stage} {p : Ptr}

lemma Fact.cons (hf : Fact h seen st) (ha : st.node ≠ some a.node) : Fact (a :: h) seen st := by
  have hne {x : Ptr} (hx : st.node = some x) : a.node ≠ x := by
    rintro rfl
    exact ha hx
  cases st with
  | idle | added => trivial
  | owns x => exact fun p => Adding.not_mem_cons (hne rfl) (hf p)
  | loaded x p =>
    exact ⟨List.mem_cons_of_mem a hf.1, Adding.not_mem_cons (hne rfl) hf.2⟩
  | published x p =>
    exact ⟨List.mem_cons_of_mem a hf.1, List.mem_cons_of_mem a hf.2.1,
      Adding.not_mem_cons (hne rfl) hf.2.2⟩
  | closed x p =>
    exact ⟨List.mem_cons_of_mem a hf.1, List.mem_cons_of_mem a hf.2.1,
      Adding.not_mem_cons (hne rfl) hf.2.2⟩
  | backed x p =>
    exact ⟨List.mem_cons_of_mem a hf.1, Adding.not_mem_cons (hne rfl) hf.2⟩
  | listing pos n =>
    refine ⟨hf.1, hf.2.imp id fun hpos => ⟨List.mem_cons_of_mem a hpos.1, ?_⟩⟩
    exact hpos.2.trans ((Adding.sublist_published_cons a h).append_right [headNode])
  | printed pos n => exact ⟨hf.1, List.mem_cons_of_mem a hf.2.1, hf.2.2⟩

/-- A step of another addition. -/
lemma Here.cons (hst : Here h own seen i c st) (ha : own a.node ≠ some i) :
    Here (a :: h) own seen i c st where
  node := hst.node
  own x hx := (hst.own x hx).imp id fun hx => hx.imp id fun hlink =>
    hlink.imp fun _ => List.mem_cons_of_mem a
  blank := hst.blank
  printed := hst.printed.trans ((Adding.sublist_published_cons a h).append_right [headNode])
  fact := hst.fact.cons fun hnode => ha (hst.node _ hnode)

/-- Another call allocates a node. -/
lemma Here.alloc (hst : Here h own seen i c st) (hp : own p = none) (hij : i ≠ j) :
    Here h (Function.update own p (some j)) seen i c st where
  node x hx := by
    have hne : x ≠ p := by
      rintro rfl
      exact absurd ((hst.node x hx).symm.trans hp) (by simp)
    rw [Function.update_of_ne hne]
    exact hst.node x hx
  own x hx := by
    rw [Function.update_apply] at hx
    split_ifs at hx
    · exact absurd (Option.some.inj hx).symm hij
    · exact hst.own x hx
  blank := hst.blank
  printed := hst.printed
  fact := hst.fact

end Frame

section Steps

variable {log log' : Log} {w : World} {s : State} {i : ℕ} {c : BufferCall} {st st' : Stage}
  {o : Op} {x : o.Ans} {a : Adding Ptr} {p q : Ptr}

/-- What an operation of a call does to the others. -/
lemma lands_of (halways : Always (⟨i, c, o, x⟩ :: log) s)
    (hown : Here (additions (⟨i, c, o, x⟩ :: log)) (owner (⟨i, c, o, x⟩ :: log))
      (shown i (⟨i, c, o, x⟩ :: log)) i c st')
    (hadd : additions (⟨i, c, o, x⟩ :: log) = additions log ∨
      ∃ a, additions (⟨i, c, o, x⟩ :: log) = a :: additions log ∧ owner log a.node = some i)
    (howner : owner (⟨i, c, o, x⟩ :: log) = owner log ∨ ∃ p, owner log p = none ∧
      owner (⟨i, c, o, x⟩ :: log) = Function.update (owner log) p (some i)) :
    outline.Lands (log, ()) (⟨i, c, o, x⟩ :: log, ()) w i c st' s := by
  refine ⟨halways, hown, fun j th st'' hj hth hst => ?_⟩
  have hst' : Here (additions log) (owner log) (shown j log) j th.role st'' := hst.here
  show Here (additions (⟨i, c, o, x⟩ :: log)) (owner (⟨i, c, o, x⟩ :: log))
    (shown j (⟨i, c, o, x⟩ :: log)) j th.role st''
  have hstep : Here (additions (⟨i, c, o, x⟩ :: log)) (owner log) (shown j log) j th.role st'' := by
    rcases hadd with hadd | ⟨a, hadd, ha⟩
    · rwa [hadd]
    · rw [hadd]
      refine hst'.cons fun heq => hj ?_
      exact (Option.some.inj (ha.symm.trans heq)).symm
  rw [shown_cons fun heq => absurd heq.symm hj]
  rcases howner with howner | ⟨p, hp, howner⟩
  · rwa [howner]
  · rw [howner]
    exact hstep.alloc hp hj

/-- What is left of the invariant when memory and the text in the buffer are kept. -/
lemma Always.step (hw : Always log w.shared) (howner : owner log' = owner log)
    (hcoherent : Adding.Coherent headNode (additions log'))
    (hagrees : Adding.Agrees headNode s.links (additions log'))
    (hbegun : ∀ x p, .load x p ∈ additions log' → owner log x ≠ none)
    (hlinks : ∀ p, (s.links p).isSome = (w.shared.links p).isSome)
    (hdata : ∀ p, (s.data p).isSome = (w.shared.data p).isSome)
    (hterm : Terminated s.deviceBuffer) (hfreed : s.freed = w.shared.freed) : Always log' s where
  coherent := hcoherent
  agrees := hagrees
  begun x p hload := by
    rw [howner]
    exact hbegun x p hload
  links p := by rw [hlinks, hw.links, howner]
  data p := by rw [hdata, hw.data, howner]
  head := by rw [howner, hw.head]
  terminated := hterm
  freed := hfreed.trans hw.freed

/-- An operation that is no step of an addition. -/
lemma lands_same (hw : Always log w.shared)
    (hst : Here (additions log) (owner log) (shown i log) i c st')
    (hadd : adding ⟨i, c, o, x⟩ = none) (hkmalloc : o ≠ .kmalloc) (hload : ∀ p, o ≠ .loadData p)
    (hagrees : Adding.Agrees headNode s.links (additions log))
    (hlinks : ∀ p, (s.links p).isSome = (w.shared.links p).isSome)
    (hdata : ∀ p, (s.data p).isSome = (w.shared.data p).isSome)
    (hterm : Terminated s.deviceBuffer) (hfreed : s.freed = w.shared.freed) :
    outline.Lands (log, ()) (⟨i, c, o, x⟩ :: log, ()) w i c st' s := by
  have hadditions := @additions_cons_none log ⟨i, c, o, x⟩ hadd
  have howner := @owner_cons log ⟨i, c, o, x⟩ hkmalloc
  refine lands_of ?_ ?_ (.inl hadditions) (.inl howner)
  · refine hw.step howner ?_ ?_ ?_ hlinks hdata hterm hfreed
    · rw [hadditions]
      exact hw.coherent
    · rw [hadditions]
      exact hagrees
    · rw [hadditions]
      exact hw.begun
  · rw [hadditions, howner, shown_cons fun _ => hload]
    exact hst

/-- A step of an addition. -/
lemma lands_add {links : Links Ptr} (hw : Always log w.shared)
    (hst : Here (a :: additions log) (owner log) (shown i log) i c st')
    (hadd : adding ⟨i, c, o, x⟩ = some a) (hkmalloc : o ≠ .kmalloc) (hload : ∀ p, o ≠ .loadData p)
    (hallowed : Adding.Allowed headNode (additions log) a) (hnode : owner log a.node = some i)
    (hagrees : Adding.Agrees headNode links (a :: additions log))
    (hlinks : ∀ p, (links p).isSome = (w.shared.links p).isSome) :
    outline.Lands (log, ()) (⟨i, c, o, x⟩ :: log, ()) w i c st'
      { w.shared with links := links } := by
  have hadditions := @additions_cons log ⟨i, c, o, x⟩ a hadd
  have howner := @owner_cons log ⟨i, c, o, x⟩ hkmalloc
  refine lands_of ?_ ?_ (.inr ⟨a, hadditions, hnode⟩) (.inl howner)
  · refine hw.step howner ?_ ?_ ?_ hlinks (fun _ => rfl) hw.terminated rfl
    · rw [hadditions]
      exact ⟨hallowed, hw.coherent⟩
    · rw [hadditions]
      exact hagrees
    · rw [hadditions]
      intro y p hy
      rcases List.mem_cons.1 hy with rfl | hy
      · exact fun hnone => absurd (hnode.symm.trans hnone) (by simp)
      · exact hw.begun y p hy
  · rw [hadditions, howner, shown_cons fun _ => hload]
    exact hst

section Own

variable {h : List (Adding Ptr)} {own : Ptr → Option ℕ} {seen : List Ptr} {new : Ptr}

/-- The addition of a node goes on. -/
lemma Here.advance (hst : Here h own seen i c st) (hnode : st'.node = st.node)
    (hlists : ¬ st.Lists) (hfact : Fact (a :: h) seen st') :
    Here (a :: h) own seen i c st' where
  node x hx := hst.node x (hnode ▸ hx)
  own x hx := (hst.own x hx).imp id fun hx => by
    rw [hnode]
    exact hx.imp id fun hlink => hlink.imp fun _ => List.mem_cons_of_mem a
  blank _ := hst.blank hlists
  printed := hst.printed.trans ((Adding.sublist_published_cons a h).append_right [headNode])
  fact := hfact

lemma Here.load (hst : Here h own seen i c (.owns new)) (hh : Adding.Coherent headNode h) (p : Ptr) :
    Here (.load new p :: h) own seen i c (.loaded new p) := by
  refine hst.advance rfl (fun h => h) ⟨List.mem_cons_self, fun hmem => ?_⟩
  have hpublish : .publish new ∈ h := by simpa using hmem
  obtain ⟨q, hq⟩ := hh.load_of_publish hpublish
  exact hst.fact q hq

lemma Here.publish (hst : Here h own seen i c (.loaded new p)) (hh : Adding.Coherent headNode h) :
    Here (.publish new :: h) own seen i c (.published new p) := by
  obtain ⟨hload, hnew⟩ := hst.fact
  refine hst.advance rfl (fun h => h)
    ⟨List.mem_cons_of_mem _ hload, List.mem_cons_self, fun hmem => ?_⟩
  have hclose : .close new ∈ h := by simpa using hmem
  exact hnew (hh.publish_of_close hclose)

lemma Here.close (hst : Here h own seen i c (.published new p))
    (hh : Adding.Coherent headNode h) :
    Here (.close new :: h) own seen i c (.closed new p) := by
  obtain ⟨hload, -, hopen⟩ := hst.fact
  refine hst.advance rfl (fun h => h)
    ⟨List.mem_cons_of_mem _ hload, List.mem_cons_self, fun hmem => ?_⟩
  have hback : .back new p ∈ h := by simpa using hmem
  exact hopen (hh.of_back hback).2

lemma Here.back (hst : Here h own seen i c (.closed new p)) (hh : Adding.Coherent headNode h) :
    Here (.back new p :: h) own seen i c (.backed new p) := by
  obtain ⟨-, -, hnew⟩ := hst.fact
  refine hst.advance rfl (fun h => h) ⟨List.mem_cons_self, fun hmem => ?_⟩
  have hlink : .link new p ∈ h := by simpa using hmem
  exact hnew (hh.back_of_link hlink)

/-- The addition of a node ends. -/
lemma Here.link (hst : Here h own seen i c (.backed new p)) :
    Here (.link new p :: h) own seen i c .added where
  node x hx := by cases hx
  own x hx := by
    obtain ⟨hadds, hnode | ⟨q, hlink⟩⟩ := hst.own x hx
    · obtain rfl := Option.some.inj hnode
      exact ⟨hadds, .inr ⟨p, List.mem_cons_self⟩⟩
    · exact ⟨hadds, .inr ⟨q, List.mem_cons_of_mem _ hlink⟩⟩
  blank _ := hst.blank fun h => h
  printed := hst.printed
  fact := trivial

end Own

/-! ### The operations -/

variable {links : Links Ptr} {junk : MyList} {new : Ptr} {n : ℕ}

/-- A node that a call has is not the head. -/
lemma Always.owned_ne (hw : Always log w.shared) (hp : owner log p = some i) : p ≠ headNode := by
  rintro rfl
  exact absurd (hw.head.symm.trans hp) (by simp)

/-- What an addition has loaded is not its node. -/
lemma Always.load_ne (hw : Always log w.shared) (hload : .load p q ∈ additions log)
    (hpublish : .publish p ∈ additions log) : p ≠ q := by
  rintro rfl
  have hnodup := (hw.coherent.sublist_of_load hload hpublish).nodup hw.coherent.nodup
  simp at hnodup

/-- `INIT_LIST_HEAD`, the first store. -/
lemma lands_initNext (hw : Always log w.shared)
    (hst : Here (additions log) (owner log) (shown i log) i c (.owns p))
    (hset : w.shared.links.setNext p p = some links) :
    outline.Lands (log, ()) (⟨i, c, .setNext p p, ()⟩ :: log, ()) w i c (.owns p)
      { w.shared with links := links } := by
  have hne := hw.owned_ne (hst.node p rfl)
  obtain ⟨hn, hp, hsome⟩ := setNext_inv hset
  refine lands_same hw hst (by simp [adding, hne]) (by simp) (by simp) ?_ hsome (fun _ => rfl)
    hw.terminated rfl
  refine hw.agrees.congr hw.coherent hne hst.fact (fun y hy => ?_) (fun y _ => ?_)
  · rw [hn, Function.update_of_ne hy]
  · rw [hp]

/-- `INIT_LIST_HEAD`, the second store. -/
lemma lands_initPrev (hw : Always log w.shared)
    (hst : Here (additions log) (owner log) (shown i log) i c (.owns p))
    (hset : w.shared.links.setPrev p p = some links) :
    outline.Lands (log, ()) (⟨i, c, .setPrev p p, ()⟩ :: log, ()) w i c (.owns p)
      { w.shared with links := links } := by
  have hne := hw.owned_ne (hst.node p rfl)
  obtain ⟨hn, hp, hsome⟩ := setPrev_inv hset
  refine lands_same hw hst (by simp [adding, hne]) (by simp) (by simp) ?_ hsome (fun _ => rfl)
    hw.terminated rfl
  refine hw.agrees.congr hw.coherent hne hst.fact (fun y _ => ?_) (fun y hy => ?_)
  · rw [hn]
  · rw [hp, Function.update_of_ne hy]

lemma lands_loadTail (hw : Always log w.shared)
    (hst : Here (additions log) (owner log) (shown i log) i c (.owns new))
    (hprev : w.shared.links.prev headNode = some p) :
    outline.Lands (log, ()) (⟨i, c, .loadTail new, p⟩ :: log, ()) w i c (.loaded new p)
      w.shared := by
  have hlast : p = Adding.last headNode (additions log) :=
    Option.some.inj (hprev.symm.trans hw.agrees.prev_head)
  exact lands_add hw (hst.load hw.coherent p) rfl (by simp) (by simp)
    ⟨hw.owned_ne (hst.node new rfl), hst.fact, hlast⟩ (hst.node new rfl)
    (hw.agrees.load new p) (fun _ => rfl)

lemma lands_publish (hw : Always log w.shared)
    (hst : Here (additions log) (owner log) (shown i log) i c (.loaded new p))
    (hset : w.shared.links.setPrev headNode new = some links) :
    outline.Lands (log, ()) (⟨i, c, .setPrev headNode new, ()⟩ :: log, ()) w i c
      (.published new p) { w.shared with links := links } := by
  obtain ⟨hn, hp, hsome⟩ := setPrev_inv hset
  exact lands_add hw (hst.publish hw.coherent) rfl (by simp) (by simp)
    ⟨⟨p, hst.fact.1⟩, hst.fact.2⟩ (hst.node new rfl) (hw.agrees.publish hw.coherent hn hp) hsome

lemma lands_close (hw : Always log w.shared)
    (hst : Here (additions log) (owner log) (shown i log) i c (.published new p))
    (hset : w.shared.links.setNext new headNode = some links) :
    outline.Lands (log, ()) (⟨i, c, .setNext new headNode, ()⟩ :: log, ()) w i c
      (.closed new p) { w.shared with links := links } := by
  obtain ⟨hn, hp, hsome⟩ := setNext_inv hset
  exact lands_add hw (hst.close hw.coherent) rfl (by simp) (by simp)
    ⟨hst.fact.2.1, hst.fact.2.2⟩ (hst.node new rfl) (hw.agrees.close hn hp) hsome

lemma lands_back (hw : Always log w.shared)
    (hst : Here (additions log) (owner log) (shown i log) i c (.closed new p))
    (hset : w.shared.links.setPrev new p = some links) :
    outline.Lands (log, ()) (⟨i, c, .setPrev new p, ()⟩ :: log, ()) w i c
      (.backed new p) { w.shared with links := links } := by
  obtain ⟨hload, hclose, hnew⟩ := hst.fact
  have hhead := hw.owned_ne (hst.node new rfl)
  have hne := hw.load_ne hload (hw.coherent.publish_of_close hclose)
  obtain ⟨hn, hp, hsome⟩ := setPrev_inv hset
  exact lands_add hw (hst.back hw.coherent) (by simp [adding, hhead, hne]) (by simp) (by simp)
    ⟨hload, hclose, hnew⟩ (hst.node new rfl) (hw.agrees.back hw.coherent hload hn hp) hsome

lemma lands_link (hw : Always log w.shared)
    (hst : Here (additions log) (owner log) (shown i log) i c (.backed new p))
    (hset : w.shared.links.setNext p new = some links) :
    outline.Lands (log, ()) (⟨i, c, .setNext p new, ()⟩ :: log, ()) w i c
      .added { w.shared with links := links } := by
  obtain ⟨hback, hnew⟩ := hst.fact
  obtain ⟨hload, hclose⟩ := hw.coherent.of_back hback
  have hhead := hw.owned_ne (hst.node new rfl)
  have hne := hw.load_ne hload (hw.coherent.publish_of_close hclose)
  obtain ⟨hn, hp, hsome⟩ := setNext_inv hset
  exact lands_add hw hst.link (by simp [adding, hhead, hne.symm]) (by simp) (by simp)
    ⟨hback, hnew⟩ (hst.node new rfl) (hw.agrees.link hn hp) hsome

lemma lands_kmalloc (hw : Always log w.shared) (hadds : Adds c = true)
    (hst : Here (additions log) (owner log) (shown i log) i c .idle)
    (hfree : w.shared.links p = none) :
    outline.Lands (log, ()) (⟨i, c, .kmalloc, some p⟩ :: log, ()) w i c (.owns p)
      (w.shared.kmalloc p junk) := by
  have hnone : ¬ (p = headNode ∨ owner log p ≠ none) := by
    rw [← hw.links, hfree]
    simp
  rw [not_or, not_not] at hnone
  obtain ⟨hhead, howner⟩ := hnone
  have hnew (q : Ptr) : .load p q ∉ additions log := fun hload => hw.begun p q hload howner
  have hcons : owner (⟨i, c, .kmalloc, some p⟩ :: log) =
      Function.update (owner log) p (some i) := rfl
  have hsame {y : Ptr} (hy : y ≠ p) : (w.shared.kmalloc p junk).links y = w.shared.links y :=
    Function.update_of_ne hy _ _
  refine lands_of ?_ ?_ (.inl rfl) (.inr ⟨p, howner, hcons⟩)
  · refine ⟨hw.coherent, ?_, fun x q hload => ?_, fun x => ?_, fun x => ?_, ?_, hw.terminated,
      hw.freed⟩
    · refine hw.agrees.congr hw.coherent hhead hnew (fun y hy => ?_) (fun y hy => ?_)
      · rw [Links.next, hsame hy, Links.next]
      · rw [Links.prev, hsame hy, Links.prev]
    · have hne : x ≠ p := by
        rintro rfl
        exact hnew q hload
      rw [hcons, Function.update_of_ne hne]
      exact hw.begun x q hload
    · rw [hcons]
      by_cases hx : x = p
      · simp [State.kmalloc, hx]
      · rw [hsame hx, hw.links, Function.update_of_ne hx]
    · rw [hcons, State.kmalloc]
      by_cases hx : x = p
      · simp [hx]
      · simpa [hx] using hw.data x
    · rw [hcons, Function.update_of_ne (Ne.symm hhead)]
      exact hw.head
  · show Here (additions log) (Function.update (owner log) p (some i)) (shown i log) i c (.owns p)
    refine ⟨fun x hx => ?_, fun x hx => ?_, fun _ => hst.blank fun h => h, hst.printed, hnew⟩
    · obtain rfl := Option.some.inj hx
      exact Function.update_self ..
    · rw [Function.update_apply] at hx
      split_ifs at hx with hxp
      · exact ⟨hadds, .inl (congrArg some hxp.symm)⟩
      · obtain ⟨-, hnode | hlink⟩ := hst.own x hx
        · cases hnode
        · exact ⟨hadds, .inr hlink⟩

/-- A node is printed. -/
lemma lands_loadData (hw : Always log w.shared) {v : Int} (hp : p ≠ headNode)
    (hst : Here (additions log) (owner log) (shown i log) i c (.listing p n)) :
    outline.Lands (log, ()) (⟨i, c, .loadData p, v⟩ :: log, ()) w i c (.printed p n)
      w.shared := by
  obtain ⟨hlen, hpos⟩ := hst.fact
  obtain ⟨hclose, hsub⟩ := hpos.resolve_left hp
  have hshown : shown i (⟨i, c, .loadData p, v⟩ :: log) = p :: shown i log := if_pos rfl
  refine lands_of ?_ ?_ (.inl rfl) (.inl rfl)
  · exact hw.step rfl hw.coherent hw.agrees hw.begun (fun _ => rfl) (fun _ => rfl) hw.terminated rfl
  · rw [hshown]
    refine ⟨hst.node, hst.own, fun h => absurd trivial h, hsub, ?_, hclose, rfl⟩
    rw [List.length_cons, hlen]

/-- The list is followed. -/
lemma lands_loadNext (hw : Always log w.shared)
    (hst : Here (additions log) (owner log) (shown i log) i c st)
    (hp : st = .idle ∧ p = headNode ∨ ∃ n, st = .printed p n)
    (hnext : w.shared.links.next p = some q) :
    outline.Lands (log, ()) (⟨i, c, .loadNext p, q⟩ :: log, ()) w i c (st.followed q)
      w.shared := by
  -- `p` is what has been printed last, or the head
  obtain ⟨hclosed, ⟨rest, hrest⟩, hnode, n, hlen, hstage⟩ :
      (p = headNode ∨ .close p ∈ additions log) ∧
      (∃ rest, shown i log ++ [headNode] = p :: rest) ∧ st.node = none ∧
      ∃ n, (shown i log).length = n ∧ st.followed q = .listing q n := by
    rcases hp with ⟨rfl, rfl⟩ | ⟨n, rfl⟩
    · have hnil : shown i log = [] := hst.blank fun h => h
      exact ⟨.inl rfl, ⟨[], by rw [hnil, List.nil_append]⟩, rfl, 0, by rw [hnil]; rfl, rfl⟩
    · obtain ⟨hlen, hclose, hhead⟩ := hst.fact
      obtain ⟨rest, hrest⟩ := List.head?_eq_some_iff.1 hhead
      exact ⟨.inr hclose, ⟨rest ++ [headNode], by rw [hrest, List.cons_append]⟩, rfl, n + 1, hlen, rfl⟩
  have hpos : q = headNode ∨ .close q ∈ additions log ∧
      (q :: (shown i log ++ [headNode])).Sublist
        (Adding.published (additions log) ++ [headNode]) := by
    obtain ⟨b, hb⟩ := Option.isSome_iff_exists.1 (Adding.next_isSome hclosed)
    obtain rfl : b = q := Option.some.inj ((hw.agrees.next p b hb).symm.trans hnext)
    rcases Adding.link_of_next hb with hlink | ⟨rfl, -⟩
    · obtain ⟨hload, hpublish, hclose⟩ := hw.coherent.of_link hlink
      refine .inr ⟨hclose, ?_⟩
      have hprinted := hst.printed
      rw [hrest] at hprinted ⊢
      exact @sublist_glue Ptr _ [b] _ p hw.coherent.nodup
        (hw.coherent.sublist_of_load hload hpublish) hprinted
    · exact .inl rfl
  rw [hstage]
  refine lands_same hw ⟨fun x hx => (by cases hx), fun x hx => ?_, fun h => absurd trivial h,
    hst.printed, hlen, hpos⟩ rfl (by simp) (by simp) hw.agrees (fun _ => rfl) (fun _ => rfl)
    hw.terminated rfl
  obtain ⟨hadds, hown | hlink⟩ := hst.own x hx
  · rw [hnode] at hown
    cases hown
  · exact ⟨hadds, .inr hlink⟩

/-- **Every operation** leads its call to the next stage and does not interfere with the
others. -/
lemma lands {e : Env} (hw : Always log w.shared)
    (hst : Here (additions log) (owner log) (shown i log) i c st) (hallow : allow c st o)
    (hsem : sem e o w.shared = .done x s) :
    expect o x ∧ outline.Lands (log, ()) (⟨i, c, o, x⟩ :: log, ()) w i c (after st o x) s := by
  cases o with
  | copyMessage user fault =>
    obtain ⟨rfl, rfl⟩ := Outcome.done.inj hsem
    exact ⟨trivial, lands_same hw hst rfl (by simp) (by simp) hw.agrees (fun _ => rfl)
      (fun _ => rfl) (hw.terminated.writeMessage user fault) rfl⟩
  | kmalloc =>
    obtain ⟨hadds, rfl⟩ := hallow
    simp only [sem] at hsem
    split at hsem
    · obtain ⟨rfl, rfl⟩ := Outcome.done.inj hsem
      refine ⟨trivial, lands_of ?_ hst (.inl rfl) (.inl rfl)⟩
      exact hw.step rfl hw.coherent hw.agrees hw.begun (fun _ => rfl) (fun _ => rfl)
        hw.terminated rfl
    · split_ifs at hsem with hfree
      obtain ⟨rfl, rfl⟩ := Outcome.done.inj hsem
      exact ⟨trivial, lands_kmalloc hw hadds hst hfree⟩
  | loadTemp =>
    obtain ⟨rfl, rfl⟩ := Outcome.done.inj hsem
    exact ⟨trivial, lands_same hw hst rfl (by simp) (by simp) hw.agrees (fun _ => rfl)
      (fun _ => rfl) hw.terminated rfl⟩
  | storeTemp v =>
    obtain ⟨rfl, rfl⟩ := Outcome.done.inj hsem
    exact ⟨trivial, lands_same hw hst rfl (by simp) (by simp) hw.agrees (fun _ => rfl)
      (fun _ => rfl) hw.terminated rfl⟩
  | setData p v =>
    simp only [sem] at hsem
    split at hsem
    · rename_i s' hset
      obtain ⟨rfl, rfl⟩ := Outcome.done.inj hsem
      obtain ⟨v', hv', rfl⟩ := Option.map_eq_some_iff.1 hset
      refine ⟨trivial, lands_same hw hst rfl (by simp) (by simp) hw.agrees (fun _ => rfl)
        (fun y => ?_) hw.terminated rfl⟩
      dsimp only
      rw [Function.update_apply]
      split_ifs with hy
      · rw [hy, hv']
        rfl
      · rfl
    · cases hsem
  | loadData p =>
    obtain ⟨hp, n, rfl⟩ := hallow
    simp only [sem] at hsem
    split at hsem
    · obtain ⟨rfl, rfl⟩ := Outcome.done.inj hsem
      exact ⟨trivial, lands_loadData hw hp hst⟩
    · cases hsem
  | loadNext p =>
    simp only [sem] at hsem
    split at hsem
    · rename_i q hnext
      obtain ⟨rfl, rfl⟩ := Outcome.done.inj hsem
      exact ⟨trivial, lands_loadNext hw hst hallow hnext⟩
    · cases hsem
  | loadTail new =>
    obtain rfl : st = .owns new := hallow
    simp only [sem] at hsem
    split at hsem
    · rename_i q hprev
      obtain ⟨rfl, rfl⟩ := Outcome.done.inj hsem
      exact ⟨trivial, lands_loadTail hw hst hprev⟩
    · cases hsem
  | setNext p q =>
    simp only [sem] at hsem
    split at hsem
    · rename_i links hset
      obtain ⟨⟨⟩, rfl⟩ := Outcome.done.inj hsem
      rcases hallow with ⟨rfl, rfl⟩ | ⟨⟨r, rfl⟩, rfl⟩ | rfl
      · exact ⟨trivial, lands_initNext hw hst hset⟩
      · exact ⟨trivial, lands_close hw hst hset⟩
      · exact ⟨trivial, lands_link hw hst hset⟩
    · cases hsem
  | setPrev p q =>
    simp only [sem] at hsem
    split at hsem
    · rename_i links hset
      obtain ⟨⟨⟩, rfl⟩ := Outcome.done.inj hsem
      rcases hallow with ⟨rfl, rfl⟩ | ⟨⟨r, rfl⟩, rfl⟩ | rfl
      · exact ⟨trivial, lands_initPrev hw hst hset⟩
      · exact ⟨trivial, lands_publish hw hst hset⟩
      · exact ⟨trivial, lands_back hw hst hset⟩
    · cases hsem
  | strlen =>
    obtain ⟨rfl, rfl⟩ := Outcome.done.inj hsem
    have hle := hw.terminated.strlen_le
    have hsize : BUFF_SIZE = 1024 := rfl
    refine ⟨?_, lands_same hw hst rfl (by simp) (by simp) hw.agrees (fun _ => rfl)
      (fun _ => rfl) hw.terminated rfl⟩
    show Chardev.strlen w.shared.deviceBuffer < BUFF_SIZE
    omega
  | terminate n =>
    simp only [sem] at hsem
    split_ifs at hsem with hn
    obtain ⟨rfl, rfl⟩ := Outcome.done.inj hsem
    refine ⟨trivial, lands_same hw hst rfl (by simp) (by simp) hw.agrees (fun _ => rfl)
      (fun _ => rfl) ⟨?_, ?_⟩ rfl⟩
    · rw [List.length_set]
      exact hw.terminated.length
    · rw [List.getElem?_set]
      split_ifs
      · rfl
      · exact hw.terminated.last
  | copyToUser n fault =>
    simp only [sem] at hsem
    split_ifs at hsem with hn
    obtain ⟨rfl, rfl⟩ := Outcome.done.inj hsem
    exact ⟨trivial, lands_same hw hst rfl (by simp) (by simp) hw.agrees (fun _ => rfl)
      (fun _ => rfl) hw.terminated rfl⟩

end Steps

/-- The threads of the log are there. -/
def Indexed (v : World × Log) (_ : Move Env BufferCall) : Prop :=
  ∀ e ∈ v.2, e.thread < v.1.threads.length

lemma logged_outline : outline.Logged machine Indexed where
  act hw _ _ hst _ hsem := by
    obtain ⟨hx, hlands⟩ := lands hw.always hst.here hst.follows.1 hsem
    exact ⟨hx, (), hlands⟩
  again {g s j c st a p} hst hagain := by
    cases c with
    | write user fault => cases hagain
    | read len offset fault =>
      cases a with
      | listing pos count length =>
        obtain rfl := Option.some.inj hagain
        obtain ⟨rfl, hlength⟩ : st = .listing pos count ∧ length < BUFF_SIZE := hst.follows
        exact follows_listEntry offset fault pos count hlength
      | wrote ret => cases hagain
      | replied reply => cases hagain
  event {log d w n s ths} hw hc hevent := by
    obtain ⟨rfl, rfl⟩ := Prod.mk.inj (Option.some.inj hevent)
    have hnew : Here (additions log) (owner log) (shown w.threads.length log) w.threads.length n
        .idle := by
      have hnil : shown w.threads.length log = [] := shown_eq_nil hc
      refine ⟨fun x hx => (by cases hx), fun x hx => ?_, fun _ => hnil, ?_, trivial⟩
      · exact absurd (owner_lt hc hx) (Nat.lt_irrefl _)
      · rw [hnil, List.nil_append]
        exact List.sublist_append_right _ _
    exact ⟨(), Outline.admits_single .idle hw.always (fun j th st _ hst => hst.here)
      ⟨follows_body n, hnew⟩⟩

lemma always_loaded : Always [] State.loaded where
  coherent := trivial
  agrees := by
    refine ⟨fun a b h => ?_, rfl, fun x p hback => by cases hback⟩
    have hsame : State.loaded.links.next a = Adding.next headNode [] a := by
      by_cases ha : a = headNode <;> simp [Links.next, State.loaded, Adding.next, ha]
    exact hsame.trans h
  begun x p h := by cases h
  links p := by simp [State.loaded, owner, Function.update_apply]
  data p := by simp [State.loaded, owner]
  head := rfl
  terminated := terminated_zeroed
  freed := rfl

/-- The outline holds along every run. -/
lemma holds_of_reach {v : World × Log} (hv : system.Reachable v) : outline.Holds (v.2, ()) v.1 := by
  have hindexed : system.Reach Indexed v :=
    (hv.strengthen fun _ h => Machine.thread_lt_of_reach h).mono fun _ _ h => h.2
  obtain ⟨⟨⟩, hholds⟩ := logged_outline.holds_of_reach
    (by rintro _ rfl; exact ⟨(), always_loaded, fun j th hj => by cases hj⟩) hindexed
  exact hholds

end KernelDriverLab.ListCalls
