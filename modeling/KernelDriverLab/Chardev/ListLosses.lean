import KernelDriverLab.Chardev.ListOutline

/-!
# What becomes of the nodes

Whatever calls of `my_write` and `my_read` overlap, and however: no call touches memory that is
not there, and a read lists each node at most once and comes to an end.  The list is complete
exactly when no addition was disturbed, and the nodes that are missing from it are those that
`hello_exit` does not free.  The sequential model of the handlers is a part of this one.
-/

namespace KernelDriverLab.ListCalls

open Lib Prog Links Chardev NodeList

/-! ## Safety -/

section Safety

variable {log : Log} {s : State} {i : ℕ} {c : BufferCall} {st : Stage} {o : Op} {p : Ptr}

/-- What is published is in memory, and so is the head. -/
lemma Always.isSome_of_mem (hw : Always log s)
    (hp : p ∈ Adding.published (additions log) ++ [headNode]) : (s.links p).isSome = true := by
  rw [hw.links]
  rcases List.mem_append.1 hp with hp | hp
  · obtain ⟨q, hq⟩ := hw.coherent.load_of_publish (Adding.mem_published.1 hp)
    exact .inr (hw.begun p q hq)
  · exact .inl (List.mem_singleton.1 hp)

lemma done_setNext {e : Env} {q : Ptr} (h : (s.links p).isSome = true) :
    ∃ x s', sem e (.setNext p q) s = .done x s' := by
  obtain ⟨m, hm, -⟩ := setNext_spec q h
  exact ⟨(), { s with links := m }, by simp [sem, hm]⟩

lemma done_setPrev {e : Env} {q : Ptr} (h : (s.links p).isSome = true) :
    ∃ x s', sem e (.setPrev p q) s = .done x s' := by
  obtain ⟨m, hm, -⟩ := setPrev_spec q h
  exact ⟨(), { s with links := m }, by simp [sem, hm]⟩

/-- What a stage allows does not fault. -/
lemma done_of_allow {e : Env} (hw : Always log s)
    (hst : Here (additions log) (owner log) (shown i log) i c st) (hallow : allow c st o)
    (hfree : s.Free e.found) : ∃ x s', sem e o s = .done x s' := by
  have howned {x : Ptr} (hx : st.node = some x) : (s.links x).isSome = true := by
    rw [hw.links, hst.node x hx]
    simp
  have hhead : (s.links headNode).isSome = true := by
    rw [hw.links]
    exact .inl rfl
  have hclosed {x : Ptr} (hx : .close x ∈ additions log) : owner log x ≠ none := by
    obtain ⟨q, hq⟩ := hw.coherent.load_of_publish (hw.coherent.publish_of_close hx)
    exact hw.begun x q hq
  have hlen := hw.terminated.length
  cases o with
  | copyMessage user fault => exact ⟨_, _, rfl⟩
  | kmalloc =>
    obtain ⟨found⟩ := e
    cases found with
    | none => exact ⟨_, _, rfl⟩
    | some f => exact ⟨_, _, if_pos (hfree f rfl)⟩
  | loadTemp => exact ⟨_, _, rfl⟩
  | storeTemp v => exact ⟨_, _, rfl⟩
  | setData p v =>
    obtain rfl : st = .owns p := hallow
    have hdata : (s.data p).isSome = true := by
      rw [hw.data, hst.node p rfl]
      simp
    obtain ⟨v', hv'⟩ := Option.isSome_iff_exists.1 hdata
    exact ⟨(), _, by simp [sem, State.setData, hv']; rfl⟩
  | loadData p =>
    obtain ⟨hp, n, rfl⟩ := hallow
    have hclose := (hst.fact.2.resolve_left hp).1
    obtain ⟨v, hv⟩ := Option.isSome_iff_exists.1 ((hw.data p).2 (hclosed hclose))
    exact ⟨v, s, by simp [sem, hv]⟩
  | loadNext p =>
    have hp : (s.links p).isSome = true := by
      rcases hallow with ⟨-, rfl⟩ | ⟨n, rfl⟩
      · exact hhead
      · exact (hw.links p).2 (.inr (hclosed hst.fact.2.1))
    rw [← isSome_next] at hp
    obtain ⟨q, hq⟩ := Option.isSome_iff_exists.1 hp
    exact ⟨q, s, by simp [sem, hq]⟩
  | loadTail new =>
    exact ⟨_, s, by simp only [sem, hw.agrees.prev_head]; rfl⟩
  | setNext p q =>
    rcases hallow with ⟨rfl, -⟩ | ⟨⟨r, rfl⟩, -⟩ | rfl
    · exact done_setNext (howned rfl)
    · exact done_setNext (howned rfl)
    · have hload := (hw.coherent.of_back hst.fact.1).1
      exact done_setNext (hw.isSome_of_mem (hw.coherent.mem_of_load hload))
  | setPrev p q =>
    rcases hallow with ⟨rfl, -⟩ | ⟨-, rfl⟩ | rfl
    · exact done_setPrev (howned rfl)
    · exact done_setPrev hhead
    · exact done_setPrev (howned rfl)
  | strlen => exact ⟨_, _, rfl⟩
  | terminate n => exact ⟨(), _, if_pos (by rw [hlen]; exact hallow.1)⟩
  | copyToUser n fault => exact ⟨_, _, if_pos (by rw [hlen]; exact Nat.le_of_lt hallow.1)⟩

end Safety

/-- **No call faults.** Whatever calls of `my_write` and `my_read` overlap, and however, the next
operation of each of them finds the memory that it touches. -/
theorem calls_never_fault {v : World × Log} (hv : system.Reachable v)
    {th : Thread Op Op.Ans BufferCall Round} (hth : th ∈ v.1.threads) {o : Op}
    (ho : th.nextOp = some o) {e : Env} (hfree : v.1.shared.Free e.found) :
    ∃ x s, sem e o v.1.shared = .done x s := by
  have hholds := holds_of_reach hv
  obtain ⟨i, st, -, hat⟩ := hholds.of_mem hth
  exact done_of_allow hholds.always hat.here (hat.allow ho) hfree

/-- Two calls of `my_write`, the second of which runs between the first one's load of
`head_node.prev` and its first store into a pointer, and a `my_read` after the second one. -/
def overtaken : List (Move Env BufferCall) :=
  [.event (.write [104, 105] none), .run 0 {}, .run 0 ⟨some (16, ⟨⟨7, 7⟩, 7⟩)⟩, .run 0 {},
    .run 0 {}, .run 0 {}, .run 0 {}, .run 0 {}, .run 0 {},
    .event (.write [33] none), .run 1 {}, .run 1 ⟨some (32, ⟨⟨7, 7⟩, 7⟩)⟩, .run 1 {},
    .run 1 {}, .run 1 {}, .run 1 {}, .run 1 {}, .run 1 {}, .run 1 {}, .run 1 {}, .run 1 {},
    .run 1 {}, .event (.read 8 0 none), .run 2 {}, .run 2 {}]

/-- Its end, where the first call goes on. -/
def finished : List (Move Env BufferCall) :=
  overtaken ++ [.run 0 {}, .run 0 {}, .run 0 {}, .run 0 {}]

lemma begun : system.Reachable (loaded, []) := .init ⟨rfl, rfl⟩

theorem calls_never_fault_overtaken :
    ∃ v, system.Reachable v ∧ v.1.opAt 0 = some (.setPrev headNode 16) ∧
      ∃ x s, sem {} (.setPrev headNode 16) v.1.shared = .done x s := by
  obtain ⟨v, hv, hop⟩ := System.exists_reachable (S := system)
    (P := fun v => v.1.opAt 0 = some (.setPrev headNode 16)) overtaken begun
    (by decide +kernel)
  obtain ⟨th, hth, ho⟩ := Option.bind_eq_some_iff.1 hop
  exact ⟨v, hv, hop, calls_never_fault hv (List.mem_of_getElem? hth) ho
    (e := {}) (fun p hp => by cases hp)⟩

/-! ## What is listed -/

section Listing

variable {log : Log} {s : State} {l xs : List Ptr} {a : Ptr}

lemma sublist_added
    (h : (l ++ [headNode]).Sublist (Adding.published (additions log) ++ [headNode])) :
    l.reverse.Sublist (added log) :=
  ((List.append_sublist_append_right [headNode]).1 h).reverse

lemma Always.nodup_added (hw : Always log s) : (headNode :: added log).Nodup := by
  have hnodup := List.nodup_reverse.2 hw.coherent.nodup
  rwa [List.reverse_append, List.reverse_singleton, List.singleton_append] at hnodup

/-- The steps of the additions lead where the pointers lead. -/
lemma Always.leads (hw : Always log s)
    (hxs : Leads (Adding.next headNode (additions log)) a xs headNode) :
    Leads s.links.next a xs headNode :=
  hxs.mono fun x y _ hnext => hw.agrees.next x y hnext

end Listing

/-- **What a read lists.** Whatever calls overlap, a read prints nodes in the order in which
they were published, none of them twice, and counts them.  Where it stands the list leads back
to its head, through nodes that it has not printed. -/
theorem listing_ends {v : World × Log} (hv : system.Reachable v) :
    (added v.2).Nodup ∧ (∀ i, (printed i v.2).Sublist (added v.2)) ∧
      ∀ i th pos count length, v.1.threads[i]? = some th →
        th.result = some (.listing pos count length) →
        (printed i v.2).length = count ∧
        (pos = headNode ∨ ∃ rest, Leads v.1.shared.links.next pos rest headNode ∧
          (printed i v.2 ++ pos :: rest).Sublist (added v.2)) := by
  have hholds := holds_of_reach hv
  have hw : Always v.2 v.1.shared := hholds.always
  refine ⟨(List.nodup_cons.1 hw.nodup_added).2, fun i => ?_, fun i th pos count length hi hth => ?_⟩
  · rcases Nat.lt_or_ge i v.1.threads.length with hlt | hle
    · obtain ⟨st, hat⟩ := hholds.threads i _ (List.getElem?_eq_getElem hlt)
      exact sublist_added hat.here.printed
    · have hnil : shown i v.2 = [] := by
        refine shown_eq_nil fun e he => ?_
        exact Nat.lt_of_lt_of_le (Machine.thread_lt_of_reach hv e he) hle
      rw [printed, hnil]
      exact List.nil_sublist _
  · obtain ⟨st, hat⟩ := hholds.threads i th hi
    obtain ⟨rfl, -⟩ : st = .listing pos count ∧ length < BUFF_SIZE := hat.ends hth
    obtain ⟨hlen, hpos⟩ : (shown i v.2).length = count ∧ _ := hat.here.fact
    refine ⟨by rw [printed, List.length_reverse, hlen], hpos.imp id fun hpos => ?_⟩
    obtain ⟨hclose, hsub⟩ := hpos
    obtain ⟨rest, hrest, hlast⟩ := hw.coherent.exists_leads (.inr hclose)
    have hall := @sublist_added v.2 (rest.reverse ++ pos :: shown i v.2)
      (by rw [List.append_assoc]; exact sublist_glue hw.coherent.nodup hlast hsub)
    refine ⟨rest, hw.leads hrest, ?_⟩
    simpa [printed] using hall

/-- A call of `my_write` goes on from its beginning, with `n` operations behind its `kmalloc`. -/
def adds (i : ℕ) (p : Ptr) (n : ℕ) : List (Move Env BufferCall) :=
  .run i {} :: .run i ⟨some (p, ⟨⟨7, 7⟩, 7⟩)⟩ :: List.replicate n (.run i {})

/-- A `my_read` prints two nodes, and the third is linked before it goes on; a fourth one has been
published meanwhile. -/
def overlapping : List (Move Env BufferCall) :=
  .event (.write [104, 105] none) :: adds 0 16 10 ++
  .event (.write [33] none) :: adds 1 32 10 ++
  .event (.write [34] none) :: adds 2 48 6 ++
  .event (.read 8 0 none) :: List.replicate 7 (.run 3 {}) ++ List.replicate 4 (.run 2 {}) ++
  .run 3 {} :: .event (.write [35] none) :: adds 4 64 7

/-- The read goes on with the third node, from which the list leads back without the fourth. -/
theorem listing_ends_overtaken :
    ∃ v, system.Reachable v ∧ added v.2 = [16, 32, 48, 64] ∧ printed 3 v.2 = [16, 32] ∧
      v.1.opAt 4 = some (.setNext 64 headNode) ∧
      ∃ rest, Leads v.1.shared.links.next 48 rest headNode ∧
        (printed 3 v.2 ++ 48 :: rest).Sublist (added v.2) := by
  obtain ⟨v, hv, hadded, hprinted, hwrite, hread⟩ := System.exists_reachable (S := system)
    (P := fun v => added v.2 = [16, 32, 48, 64] ∧ printed 3 v.2 = [16, 32] ∧
      v.1.opAt 4 = some (.setNext 64 headNode) ∧
        v.1.threads[3]?.bind Thread.result = some (.listing 48 2 1)) overlapping begun
    (by decide +kernel)
  obtain ⟨th, hth, hresult⟩ := Option.bind_eq_some_iff.1 hread
  have hlisting := (listing_ends hv).2.2 3 th 48 2 1 hth hresult
  exact ⟨v, hv, hadded, hprinted, hwrite, hlisting.2.resolve_left (by decide)⟩

/-! ## What is kept and what is freed -/

/-- Every call of `my_write` has returned. -/
def Settled (w : World) : Prop := ∀ th ∈ w.threads, Adds th.role = true → th.nextOp = none

instance (w : World) : Decidable (Settled w) := inferInstanceAs (Decidable (∀ _ ∈ _, _))

section Settled

variable {v : World × Log} {p : Ptr}

/-- A node whose call has returned has been added. -/
lemma link_of_settled (hv : system.Reachable v) (hs : Settled v.1) (hp : owner v.2 p ≠ none) :
    ∃ q, .link p q ∈ additions v.2 := by
  have hholds := holds_of_reach hv
  obtain ⟨i, hi⟩ := Option.ne_none_iff_exists'.1 hp
  have hlt := owner_lt (Machine.thread_lt_of_reach hv) hi
  obtain ⟨st, hat⟩ := hholds.threads i _ (List.getElem?_eq_getElem hlt)
  obtain ⟨hadds, hnode | hlink⟩ := hat.here.own p hi
  · have hnext := hs _ (List.getElem_mem hlt) hadds
    generalize v.1.threads[i] = th at hat hnext
    obtain ⟨c, ⟨r⟩ | ⟨o, k⟩⟩ := th
    · have hends : Ends st r := hat.follows
      cases r with
      | listing pos count length =>
        obtain ⟨rfl, -⟩ := hends
        cases hnode
      | wrote ret => exact absurd (hends.symm.trans hnode) (by simp)
      | replied reply => exact absurd (hends.symm.trans hnode) (by simp)
    · cases hnext
  · exact hlink

lemma quiet_of_settled (hv : system.Reachable v) (hs : Settled v.1) :
    Adding.Quiet (additions v.2) := by
  intro x p hload
  have hw : Always v.2 v.1.shared := (holds_of_reach hv).always
  obtain ⟨q, hlink⟩ := link_of_settled hv hs (hw.begun x p hload)
  rwa [hw.coherent.load_unique hload (hw.coherent.of_link hlink).1]

/-- The nodes in memory are those that were added. -/
lemma mem_added_iff (hv : system.Reachable v) (hs : Settled v.1) :
    p ∈ added v.2 ↔ owner v.2 p ≠ none := by
  have hw : Always v.2 v.1.shared := (holds_of_reach hv).always
  rw [added, List.mem_reverse, Adding.mem_published]
  constructor
  · intro hpublish
    obtain ⟨q, hq⟩ := hw.coherent.load_of_publish hpublish
    exact hw.begun p q hq
  · intro hp
    obtain ⟨q, hlink⟩ := link_of_settled hv hs hp
    exact (hw.coherent.of_link hlink).2.1

/-- The pointers lead through all nodes exactly when no addition was disturbed. -/
lemma leads_added_iff (hv : system.Reachable v) (hs : Settled v.1) :
    Leads v.1.shared.links.next headNode (added v.2) headNode ↔
      Adding.Undisturbed headNode (additions v.2) := by
  have hw : Always v.2 v.1.shared := (holds_of_reach hv).always
  have hquiet := quiet_of_settled hv hs
  rw [← Adding.leads_published_iff hw.coherent hquiet]
  refine ⟨fun h => h.mono fun x y hx hnext => ?_, hw.leads⟩
  have hclosed : x = headNode ∨ .close x ∈ additions v.2 := by
    refine (List.mem_cons.1 hx).imp id fun hx => ?_
    obtain ⟨q, hlink⟩ := link_of_settled hv hs ((mem_added_iff hv hs).1 hx)
    exact (hw.coherent.of_link hlink).2.2
  obtain ⟨z, hz⟩ := Option.isSome_iff_exists.1 (Adding.next_isSome hclosed)
  rwa [Option.some.inj (hnext.symm.trans (hw.agrees.next x z hz))]

/-- The way from the head and back. -/
lemma exists_track (hv : system.Reachable v) :
    ∃ xs, v.1.shared.links.Track headNode xs headNode ∧
      Leads v.1.shared.links.next headNode xs headNode ∧ xs.Sublist (added v.2) := by
  have hw : Always v.2 v.1.shared := (holds_of_reach hv).always
  obtain ⟨xs, hxs, hsub⟩ := hw.coherent.exists_leads_head
  have hhead : headNode ∉ xs := fun h => (List.nodup_cons.1 hw.nodup_added).1 (hsub.subset h)
  exact ⟨xs, hw.agrees.track hw.coherent hxs hhead, hw.leads hxs, hsub⟩

end Settled

/-- **When a node is lost.** Let every call of `my_write` have returned.  The list is a ring
through all nodes that were added exactly when no addition was disturbed: each node was
published while `head_node.prev` still was what its addition had loaded, and was linked to the
head or to a node that pointed to the head already. -/
theorem all_listed_iff {v : World × Log} (hv : system.Reachable v) (hs : Settled v.1) :
    v.1.shared.links.Ring headNode (added v.2) ↔
      Adding.Undisturbed headNode (additions v.2) := by
  have hw : Always v.2 v.1.shared := (holds_of_reach hv).always
  rw [← leads_added_iff hv hs]
  refine ⟨fun h => leads_of_seg h.seg, fun h => ⟨seg_iff_track.2 ⟨?_, ?_⟩, hw.nodup_added⟩⟩
  · obtain ⟨xs, htrack, hleads, hsub⟩ := exists_track hv
    have hhead := (List.nodup_cons.1 hw.nodup_added).1
    rwa [h.unique hleads hhead fun hmem => hhead (hsub.subset hmem)]
  · rw [hw.agrees.prev_head, Adding.last, added, List.getLastD_eq_getLast?,
      List.getLast?_reverse, List.headD_eq_head?_getD]

/-- The node of the call that was overtaken is missing. -/
theorem all_listed_iff_finished :
    ∃ v, system.Reachable v ∧ Settled v.1 ∧ added v.2 = [32, 16] ∧
      ¬ v.1.shared.links.Ring headNode (added v.2) := by
  obtain ⟨v, hv, hs, hadded, hdisturbed⟩ := System.exists_reachable (S := system)
    (P := fun v => Settled v.1 ∧ added v.2 = [32, 16] ∧
      ¬ Adding.Undisturbed headNode (additions v.2)) finished begun
    (by decide +kernel)
  exact ⟨v, hv, hs, hadded, (not_congr (all_listed_iff hv hs)).2 hdisturbed⟩

/-- What holds in the loop of `hello_exit` while the nodes `rest` are still in the list. -/
structure Exiting (xs : List Ptr) (s₀ : State) (rest : List Ptr) (s : State) : Prop where
  track : s.links.Track headNode rest headNode
  freed : s.freed ++ rest = xs
  links : ∀ p, (s.links p).isSome = true ↔ (s₀.links p).isSome = true ∧ p ∉ s.freed
  data : ∀ p, (s.data p).isSome = true ↔ (s₀.data p).isSome = true ∧ p ∉ s.freed

/-- One round frees one node. -/
lemma Exiting.freeNode {xs rest : List Ptr} {s₀ s : State} {x : Ptr}
    (h : Exiting xs s₀ (x :: rest) s) (hnodup : (headNode :: xs).Nodup)
    (hlive : ∀ y ∈ xs, (s₀.data y).isSome = true) :
    ∃ s', freeNode x s = some s' ∧ Exiting xs s₀ rest s' := by
  obtain ⟨hhead, hxs⟩ := List.nodup_cons.1 hnodup
  rw [← h.freed] at hhead hxs
  obtain ⟨-, hrest, hdisjoint⟩ := List.nodup_append.1 hxs
  have hheadRest : headNode ∉ x :: rest := fun hmem => hhead (List.mem_append_right _ hmem)
  have hx : x ∉ s.freed := fun hmem => hdisjoint x hmem x List.mem_cons_self rfl
  have hmem : x ∈ xs := by
    rw [← h.freed]
    simp
  obtain ⟨links, hlinks, htrack, hsome, -⟩ :=
    h.track.listDel listPoison (List.nodup_cons.2 ⟨hheadRest, hrest⟩)
  obtain ⟨v, hv⟩ := Option.isSome_iff_exists.1 ((h.data x).2 ⟨hlive x hmem, hx⟩)
  have hgone {α : Type} (f : Ptr → Option α) (g : Ptr → Option α)
      (hf : ∀ p, (f p).isSome = true ↔ (g p).isSome = true ∧ p ∉ s.freed) (p : Ptr) :
      (Function.update f x none p).isSome = true ↔
        (g p).isSome = true ∧ p ∉ s.freed ++ [x] := by
    rw [Function.update_apply]
    split_ifs with hpx
    · simp [hpx]
    · rw [hf]
      simp [hpx]
  refine ⟨{ s with
    links := Function.update links x none
    data := Function.update s.data x none
    freed := s.freed ++ [x] }, ?_, ?_, ?_, hgone links s₀.links fun p => ?_,
    hgone s.data s₀.data h.data⟩
  · simp [NodeList.freeNode, hlinks, State.kfree, hv]
  · refine htrack.update (fun hmem => ?_) none
    rcases List.mem_cons.1 hmem with rfl | hmem
    · exact hheadRest List.mem_cons_self
    · exact (List.nodup_cons.1 hrest).1 hmem
  · rw [List.append_assoc, List.singleton_append, h.freed]
  · rw [hsome, h.links]

/-- **What `hello_exit` frees.** When every call of `my_write` has returned, its loop touches no
freed memory and frees each node that can be reached from the head once; the other nodes that
were added stay allocated.  There are none exactly when no addition was disturbed. -/
theorem exit_frees_listed {v : World × Log} (hv : system.Reachable v) (hs : Settled v.1)
    {fuel : ℕ} (hfuel : (added v.2).length < fuel) :
    ∃ xs s, Leads v.1.shared.links.next headNode xs headNode ∧ xs.Sublist (added v.2) ∧
      helloExit fuel v.1.shared = some s ∧ s.freed = xs ∧
      (∀ p, (s.links p).isSome = true ↔ p = headNode ∨ p ∈ added v.2 ∧ p ∉ xs) ∧
      (xs = added v.2 ↔ Adding.Undisturbed headNode (additions v.2)) := by
  have hw : Always v.2 v.1.shared := (holds_of_reach hv).always
  obtain ⟨xs, htrack, hleads, hsub⟩ := exists_track hv
  have hnodup : (headNode :: xs).Nodup := (hsub.cons_cons headNode).nodup hw.nodup_added
  have hhead := (List.nodup_cons.1 hnodup).1
  have hlive (y : Ptr) (hy : y ∈ xs) : (v.1.shared.data y).isSome = true :=
    (hw.data y).2 ((mem_added_iff hv hs).1 (hsub.subset hy))
  have hbegin : Exiting xs v.1.shared xs v.1.shared := by
    refine ⟨htrack, by rw [hw.freed, List.nil_append], fun p => ?_, fun p => ?_⟩ <;>
      simp [hw.freed]
  obtain ⟨s, hs', hexit⟩ : ∃ s, helloExit fuel v.1.shared = some s ∧
      Exiting xs v.1.shared [] s := by
    refine forEachSafe_of_track (P := Exiting xs v.1.shared) (fun rest s h => ⟨h.track, ?_⟩)
      (fun x rest s h => h.freeNode hnodup hlive) hbegin (hsub.length_le.trans_lt hfuel)
    have hrest : rest.Sublist xs := h.freed ▸ List.sublist_append_right s.freed rest
    exact (hrest.cons_cons headNode).nodup hnodup
  have hfreed : s.freed = xs := by rw [← hexit.freed, List.append_nil]
  refine ⟨xs, s, hleads, hsub, hs', hfreed, fun p => ?_, ?_⟩
  · rw [hexit.links, hw.links, ← mem_added_iff hv hs, hfreed, or_and_right]
    refine or_congr_left (and_iff_left_of_imp ?_)
    rintro rfl
    exact hhead
  · rw [← leads_added_iff hv hs]
    refine ⟨fun h => h ▸ hleads, fun h => ?_⟩
    exact hleads.unique h hhead (List.nodup_cons.1 hw.nodup_added).1

theorem exit_frees_listed_finished :
    ∃ v xs s, system.Reachable v ∧ added v.2 = [32, 16] ∧ helloExit 3 v.1.shared = some s ∧
      s.freed = xs ∧ xs ≠ added v.2 := by
  obtain ⟨v, hv, hs, hadded, hdisturbed⟩ := System.exists_reachable (S := system)
    (P := fun v => Settled v.1 ∧ added v.2 = [32, 16] ∧
      ¬ Adding.Undisturbed headNode (additions v.2)) finished begun
    (by decide +kernel)
  obtain ⟨xs, s, -, -, hexit, hfreed, -, hall⟩ := @exit_frees_listed v hv hs 3
    (by rw [hadded]; decide)
  exact ⟨v, xs, s, hv, hadded, hexit, hfreed, fun h => hdisturbed (hall.1 h)⟩

/-! ## Calls one after the other -/

section Alone

variable {e : Env} {s s' : State} {p q : Ptr} {m : Links Ptr} {ret : Int}

lemma sem_setNext (h : s.links.setNext p q = some m) :
    sem e (.setNext p q) s = .done () { s with links := m } := by
  simp only [sem, h]

lemma sem_setPrev (h : s.links.setPrev p q = some m) :
    sem e (.setPrev p q) s = .done () { s with links := m } := by
  simp only [sem, h]

lemma run_initListHead (h : s.links.initListHead p = some m) :
    run (sem e) (initListHead p) s = .done () { s with links := m } := by
  obtain ⟨m₁, h₁, h₂⟩ := Option.bind_eq_some_iff.1 h
  rw [initListHead, op_bind, run_act_done (sem_setNext h₁), run_op]
  exact sem_setPrev h₂

lemma run_listAddTail (h : s.links.listAddTail p headNode = some m) :
    run (sem e) (listAddTail p) s = .done () { s with links := m } := by
  obtain ⟨q, hq, h⟩ := Option.bind_eq_some_iff.1 h
  obtain ⟨m₁, h₁, h⟩ := Option.bind_eq_some_iff.1 h
  obtain ⟨m₂, h₂, h⟩ := Option.bind_eq_some_iff.1 h
  obtain ⟨m₃, h₃, h₄⟩ := Option.bind_eq_some_iff.1 h
  have hload : sem e (.loadTail p) s = .done q s := by
    simp only [sem, hq]
  rw [listAddTail, op_bind, run_act_done hload, op_bind, run_act_done (sem_setPrev h₁), op_bind,
    run_act_done (sem_setNext h₂), op_bind, run_act_done (sem_setPrev h₃), run_op]
  exact sem_setNext h₄

lemma run_addNode {t : State} {x : Int} {m₁ m₂ : Links Ptr}
    (ht : State.setData { s with tempValue := int32 (s.tempValue + 1) } p x = some t)
    (hx : x = int32 (s.tempValue + 1)) (h₁ : t.links.initListHead p = some m₁)
    (h₂ : m₁.listAddTail p headNode = some m₂) :
    run (sem e) (addNode p) s = .done () { t with links := m₂ } := by
  have hset : sem e (.setData p x) { s with tempValue := int32 (s.tempValue + 1) } = .done () t := by
    simp only [sem, ht]
  have hload : sem e .loadTemp s = .done s.tempValue s := rfl
  have hstore : sem e (.storeTemp (int32 (s.tempValue + 1))) s =
      .done () { s with tempValue := int32 (s.tempValue + 1) } := rfl
  subst hx
  rw [addNode, op_bind, run_act_done hload, op_bind, run_act_done hstore, op_bind,
    run_act_done hset, run_bind, run_initListHead h₁]
  exact run_listAddTail h₂

/-- **`my_write` alone** is the handler of the sequential model. -/
lemma run_myWrite {user : List UInt8} {fault : Option (ℕ × ℕ)} (hfree : s.Free e.found)
    (h : NodeList.myWrite s user fault e.found = some (ret, s')) :
    run (sem e) (myWrite user fault) s = .done (.wrote ret) s' := by
  have hcopy : sem e (.copyMessage user fault) s = .done (writeMessage s.deviceBuffer user fault).1
      { s with deviceBuffer := (writeMessage s.deviceBuffer user fault).2 } := rfl
  rw [myWrite, op_bind, run_act_done hcopy, run_ite]
  rw [NodeList.myWrite] at h
  revert h
  rcases writeMessage s.deviceBuffer user fault with ⟨r, buf⟩
  dsimp only
  split_ifs with hr
  · intro h
    obtain ⟨rfl, rfl⟩ := Prod.mk.inj (Option.some.inj h)
    rfl
  · obtain ⟨_ | ⟨new, junk⟩⟩ := e
    · intro h
      obtain ⟨rfl, rfl⟩ := Prod.mk.inj (Option.some.inj h)
      rfl
    · intro h
      obtain ⟨t, ht, h⟩ := Option.bind_eq_some_iff.1 h
      obtain ⟨m₁, h₁, h⟩ := Option.bind_eq_some_iff.1 h
      obtain ⟨m₂, h₂, h⟩ := Option.bind_eq_some_iff.1 h
      obtain ⟨rfl, rfl⟩ := Prod.mk.inj (Option.some.inj h)
      have hkmalloc : sem ⟨some (new, junk)⟩ .kmalloc { s with deviceBuffer := buf } =
          .done (some new) (State.kmalloc { s with deviceBuffer := buf } new junk) :=
        if_pos (hfree _ rfl)
      rw [op_bind, run_act_done hkmalloc]
      rw [run_bind, run_addNode ht rfl h₁ h₂]
      rfl

/-- `my_read` behind the loop changes nothing. -/
lemma run_finishRead (h : Terminated s.deviceBuffer) (offset : ℕ) (fault : Option ℕ) :
    ∃ reply, run (sem e) (finishRead offset fault (strlen s.deviceBuffer)) s =
      .done (.replied reply) s := by
  have hlt : strlen s.deviceBuffer < s.deviceBuffer.length := by
    rw [h.length]
    exact h.strlen_le.trans_lt (by decide)
  have hterminate : sem e (.terminate (strlen s.deviceBuffer)) s = .done () s := by
    simp only [sem, if_pos hlt, set_strlen]
  have hcopy : sem e (.copyToUser (strlen s.deviceBuffer) fault) s =
      .done (copyToUser s.deviceBuffer (strlen s.deviceBuffer) fault) s :=
    if_pos (Nat.le_of_lt hlt)
  rw [finishRead, op_bind, run_act_done hterminate, op_bind, run_act_done hcopy]
  rcases copyToUser s.deviceBuffer (strlen s.deviceBuffer) fault with ⟨stored, _ | _⟩ <;>
    exact ⟨_, rfl⟩

variable {ths : List (Thread Op Op.Ans BufferCall Round)} {len offset : ℕ} {fault : Option ℕ}

/-- A round for a node changes nothing either. -/
lemma run_listEntry {x : Int} (hp : p ≠ headNode) (hx : s.data p = some x)
    (hq : s.links.next p = some q) (count length : ℕ) :
    run (sem e) (listEntry offset fault p count length) s =
      .done (.listing q (count + 1) length) s := by
  have hdata : sem e (.loadData p) s = .done x s := by
    simp only [sem, hx]
  have hnext : sem e (.loadNext p) s = .done q s := by
    simp only [sem, hq]
  rw [listEntry, if_neg hp, op_bind, run_act_done hdata, op_bind, run_act_done hnext]
  rfl

/-- The state in which calls have been made one after the other. -/
abbrev Turn : World → Prop := (machine.system (· = loaded)).Reach machine.InTurn

/-- **The loop of `my_read` alone** ends where the one of the sequential model does. -/
lemma turn_listing (h : Terminated s.deviceBuffer) {fuel count : ℕ} {pos : Ptr} {lines : List Line}
    {acc : ℕ × List Line}
    (hloop : forEachFrom (fun _ => s.links) headNode (printNode s) fuel pos (count, lines) =
      some acc)
    (hw : Turn ⟨s, ths ++ [⟨.read len offset fault,
      .ret (.listing pos count (strlen s.deviceBuffer))⟩]⟩) :
    ∃ reply, Turn ⟨s, ths ++ [⟨.read len offset fault, .ret (.replied reply)⟩]⟩ := by
  induction fuel generalizing pos count lines with
  | zero => cases hloop
  | succ fuel ih =>
    have hround := Machine.reach_again (M := machine) (fun _ _ _ => trivial) {} rfl hw
    rw [forEachFrom] at hloop
    by_cases hpos : pos = headNode
    · obtain ⟨reply, hrun⟩ := run_finishRead (e := {}) h offset fault
      refine ⟨reply, Machine.reach_run (M := machine) (e := {}) (fun _ _ _ => trivial)
        (fun _ _ => rfl) ?_ hround⟩
      rw [listEntry, if_pos hpos]
      exact hrun
    · rw [if_neg hpos] at hloop
      obtain ⟨acc', hprint, hloop⟩ := Option.bind_eq_some_iff.1 hloop
      obtain ⟨x, hx, rfl⟩ := Option.map_eq_some_iff.1 hprint
      obtain ⟨q, hq, hloop⟩ := Option.bind_eq_some_iff.1 hloop
      have hrun : run (sem {}) (listEntry offset fault pos count (strlen s.deviceBuffer)) s =
          .done (.listing q (count + 1) (strlen s.deviceBuffer)) s :=
        run_listEntry hpos hx hq count _
      exact ih hloop (Machine.reach_run (M := machine) (e := {}) (fun _ _ _ => trivial)
        (fun _ _ => rfl) hrun hround)

/-- **`my_read` alone** is the handler of the sequential model. -/
lemma turn_myRead (h : Terminated s.deviceBuffer) {fuel : ℕ} {c : ReadCall}
    (hread : NodeList.myRead fuel s len offset fault = some c)
    (hw : Turn ⟨s, ths ++ [⟨.read len offset fault, myRead offset⟩]⟩) :
    ∃ reply, Turn ⟨s, ths ++ [⟨.read len offset fault, .ret (.replied reply)⟩]⟩ := by
  have hstrlen : sem {} .strlen s = .done (strlen s.deviceBuffer) s := rfl
  have hrun {r : Round} (hr : run (sem {}) (myRead offset) s = .done r s) :
      Turn ⟨s, ths ++ [⟨.read len offset fault, .ret r⟩]⟩ :=
    Machine.reach_run (M := machine) (e := {}) (fun _ _ _ => trivial) (fun _ _ => rfl) hr hw
  simp only [NodeList.myRead] at hread
  by_cases hoff : offset ≥ strlen s.deviceBuffer
  · refine ⟨_, hrun (r := .replied ⟨0, [], offset⟩) ?_⟩
    rw [myRead, op_bind, run_act_done hstrlen, if_pos hoff]
    rfl
  · rw [if_neg hoff] at hread
    obtain ⟨acc, hloop, -⟩ := Option.map_eq_some_iff.1 hread
    obtain ⟨pos, hpos, hloop⟩ := Option.bind_eq_some_iff.1 hloop
    have hnext : sem {} (.loadNext headNode) s = .done pos s := by
      simp only [sem, hpos]
    refine turn_listing h hloop (hrun ?_)
    rw [myRead, op_bind, run_act_done hstrlen, if_neg hoff, op_bind, run_act_done hnext]
    rfl

end Alone

/-- The call of a function that a call of the sequential model is. -/
def handler : NodeList.Call → BufferCall
  | .write user fault _ => .write user fault
  | .read _ len offset fault => .read len offset fault

/-- One call in the sequential model and here. -/
lemma call_in_turn {w w' : NodeList.World} {u : World} {c : NodeList.Call}
    (hw : NodeList.system.Reachable w) (hu : Turn u) (hshared : u.shared = w.drv)
    (hended : ∀ th ∈ u.threads, machine.Ended th = true) (h : NodeList.system.next w c = some w') :
    ∃ round, Turn ⟨w'.drv, u.threads ++ [⟨handler c, .ret round⟩]⟩ ∧
      nextRound (handler c) round = none := by
  have hbegun : Turn ⟨w.drv, u.threads ++ [⟨handler c, body (handler c)⟩]⟩ := by
    refine .step (l := .event (handler c)) hu hended ?_
    rw [← hshared]
    rfl
  cases c with
  | write user fault found =>
    obtain ⟨hfree, hstep⟩ := Option.ite_none_right_eq_some.1 h
    obtain ⟨⟨ret, s⟩, hwrite, rfl⟩ := Option.map_eq_some_iff.1 hstep
    have hrun := @run_myWrite ⟨found⟩ w.drv s ret user fault hfree hwrite
    exact ⟨.wrote ret, Machine.reach_run (M := machine) (fun _ _ _ => trivial) (fun _ _ => rfl)
      hrun hbegun, rfl⟩
  | read fuel len offset fault =>
    obtain ⟨r, hread, rfl⟩ := Option.map_eq_some_iff.1 h
    obtain ⟨reply, hreply⟩ := turn_myRead (terminated_nodeList hw) hread hbegun
    exact ⟨.replied reply, by rw [state_myRead hread]; exact hreply, rfl⟩

/-- **The sequential model is a part of this one**: the states that calls lead to one after the
other are reached here by the same calls, in a run in which none begins before the last one has
ended. -/
theorem calls_in_turn {cs : List NodeList.Call} {w : NodeList.World}
    (h : NodeList.system.exec ⟨State.loaded, 0, 0⟩ cs = some w) :
    ∃ v, system.Reach (fun v l => machine.InTurn v.1 l) v ∧ v.1.shared = w.drv ∧
      v.1.threads.map Thread.role = cs.map handler ∧
      ∀ th ∈ v.1.threads, machine.Ended th = true := by
  have hloaded : Turn loaded := .init rfl
  obtain ⟨u, hu, ⟨-, hshared⟩, hroles, hended⟩ := Machine.exists_in_turn (M := machine)
    (S := NodeList.system) (R := fun w s => NodeList.system.Reachable w ∧ s = w.drv)
    (fun ⟨hw, hshared⟩ hu hended hn => by
      obtain ⟨round, hu₁, hround⟩ := call_in_turn hw hu hshared hended hn
      exact ⟨_, round, ⟨.step hw trivial hn, rfl⟩, hround, hu₁⟩)
    ⟨.init rfl, rfl⟩ hloaded (fun th hth => by cases hth) h
  obtain ⟨log, hlog⟩ := Machine.exists_log hu
  exact ⟨(u, log), hlog, hshared, hroles, hended⟩

/-- Two messages are written, with a read between them. -/
theorem calls_in_turn_two :
    ∃ v, system.Reach (fun v l => machine.InTurn v.1 l) v ∧ v.1.shared.tempValue = 2 ∧
      v.1.threads.map Thread.role =
        [.write [104, 105] none, .read 8 0 none, .write [33] none] := by
  have hexec := (Option.some_get (show (NodeList.system.exec ⟨State.loaded, 0, 0⟩
    [.write [104, 105] none (some (16, ⟨⟨7, 7⟩, 7⟩)), .read 2 8 0 none,
      .write [33] none (some (32, ⟨⟨7, 7⟩, 7⟩))]).isSome = true by decide +kernel)).symm
  obtain ⟨v, hv, hshared, hroles, -⟩ := calls_in_turn hexec
  exact ⟨v, hv, by rw [hshared]; decide +kernel, hroles⟩

end KernelDriverLab.ListCalls
