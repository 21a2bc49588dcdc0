import KernelDriverLab.UsbV1.Handlers
import KernelDriverLab.UsbV1.Queue

/-!
# Facts about all runs

The step of `session` taken apart by the kind of call, and what holds in every
run whatever the device and the SCSI layer do: the shape of the device, the
books about which command was handed over, accepted and refused, and the memory
behind `data_dma`, which nobody ever writes.
-/

namespace KernelDriverLab.UsbV1

open Lib Prog

/-! ## The steps -/

section Next

variable {k k' : Config} {e : Env} {c : CmndId}

lemma next_queueCommand (h : session.next k (.queueCommand c e) = some k') :
    k.oops = false ∧ k.MayQueue c ∧ k' = k.afterQueue c (run (sem e c) (queueCommand c) k.drv) := by
  simp only [session, step, Option.ite_none_right_eq_some, Option.some.injEq] at h
  exact ⟨h.1.1, h.1.2, h.2.symm⟩

lemma next_complete {u : UrbId} {st : Int} {n : UInt32} {received : List UInt8}
    (h : session.next k (.complete u st n received e) = some k') :
    k.oops = false ∧ ∃ o, k.drv.inflight u = some o ∧
      k' = k.after (runCallback e u o (k.drv.giveBack u st n received)) := by
  simp only [session, step, Option.ite_none_right_eq_some, Option.map_eq_some_iff] at h
  obtain ⟨ho, o, hu, hk⟩ := h
  exact ⟨ho, o, hu, hk.symm⟩

lemma next_handler {h : Handler} (hk : session.next k (.handler h c e) = some k') :
    k.oops = false ∧ c ∈ k.queued ∧ k' = k.after (runHandler h c e k.drv) := by
  simp only [session, step, Option.ite_none_right_eq_some, Option.some.injEq] at hk
  exact ⟨hk.1.1, hk.1.2, hk.2.symm⟩

end Next

namespace Config

variable {k : Config} {c : CmndId} {α : Type} (out : Outcome State α) (out' : Outcome State Int)

@[simp] lemma after_drv : (k.after out).drv = out.state := by cases out <;> rfl
@[simp] lemma after_queued : (k.after out).queued = k.queued := by cases out <;> rfl
@[simp] lemma after_accepted : (k.after out).accepted = k.accepted := by cases out <;> rfl
@[simp] lemma after_refused : (k.after out).refused = k.refused := by cases out <;> rfl

@[simp] lemma afterQueue_drv : (k.afterQueue c out').drv = out'.state := by
  cases out' with
  | done rv s =>
    rw [afterQueue]
    split <;> rfl
  | oops s => rfl

end Config

/-! ## The shape -/

lemma Probed.shape {s : State} (h : Probed s) : Shape s where
  urb_ptr := h.urb_ptr
  buf_ptr := h.buf_ptr
  urb u := by
    rw [h.urb u]
    exact ⟨.inl rfl, fun hc _ => absurd rfl hc, .inl rfl, fun _ => rfl, (fun hd => by cases hd),
      fun hc _ => absurd rfl hc⟩
  filled u hu := absurd (h.inflight u) hu
  signature u _ hc := absurd (by rw [h.urb u]; rfl) hc

/-- Every call keeps the shape of the device. -/
lemma shape_step {k k' : Config} {l : Call} (hs : Shape k.drv) (h : session.next k l = some k') :
    Shape k'.drv := by
  cases l with
  | queueCommand c e =>
    obtain ⟨-, -, rfl⟩ := next_queueCommand h
    obtain ⟨rv, s', hrun, hs', -⟩ := traffic_queueCommand e c hs
    simpa [hrun] using hs'
  | complete u st n received e =>
    obtain ⟨-, o, -, rfl⟩ := next_complete h
    simpa using (hs.giveBack u st n received).runCallback
  | handler hd c e =>
    obtain ⟨-, -, rfl⟩ := next_handler h
    simpa using (runHandler_keeps hs hd).2

/-- **The shape of the device** holds in every run. -/
theorem shape_reach {C : Config → Call → Prop} {k : Config} (hk : session.Reach C k) :
    Shape k.drv :=
  System.Reach.invariant (S := session) (I := fun k => Shape k.drv) (fun _ h => h.1.shape)
    (fun _ _ _ hs _ h => shape_step hs h) hk

/-! ## The books -/

/-- A command was handed over if it was accepted or refused, and not both; only
commands that were handed over are ever active or completed. -/
structure Books (k : Config) : Prop where
  accepted : ∀ c ∈ k.accepted, c ∈ k.queued
  refused : ∀ c ∈ k.refused, c ∈ k.queued
  disjoint : ∀ c ∈ k.accepted, c ∉ k.refused
  active : ∀ c, k.drv.activeScmd = some c → c ∈ k.queued
  done : ∀ c ∈ k.drv.done, c ∈ k.queued

namespace Books

variable {k k' : Config}

/-- A call that hands over nothing and serves only commands that were handed over. -/
lemma after (hb : Books k) {α : Type} {out : Outcome State α}
    (hactive : out.state.activeScmd = k.drv.activeScmd ∨ out.state.activeScmd = none)
    (hdone : ∀ c ∈ out.state.done, c ∈ k.queued) : Books (k.after out) where
  accepted := by simpa using hb.accepted
  refused := by simpa using hb.refused
  disjoint := by simpa using hb.disjoint
  active c hc := by
    rw [Config.after_drv] at hc
    rw [Config.after_queued]
    rcases hactive with h | h <;> rw [h] at hc
    · exact hb.active c hc
    · cases hc
  done := by simpa using hdone

lemma afterQueue (hb : Books k) {c : CmndId} (hc : c ∉ k.queued) {rv : Int} {s : State}
    (hactive : s.activeScmd = some c) (hdone : ∀ x ∈ s.done, x = c ∨ x ∈ k.drv.done) :
    Books (k.afterQueue c (.done rv s)) := by
  -- `c` is new, so it is in none of the lists yet
  have hnew (d : CmndId) (hd : d ∈ k.queued) : d ≠ c := fun h => hc (h ▸ hd)
  have hdone' (x : CmndId) (hx : x ∈ s.done) : x ∈ c :: k.queued :=
    (hdone x hx).elim (fun h => h ▸ List.mem_cons_self)
      fun h => List.mem_cons_of_mem _ (hb.done x h)
  have hactive' (x : CmndId) (hx : s.activeScmd = some x) : x ∈ c :: k.queued := by
    rw [hactive, Option.some.injEq] at hx
    exact hx ▸ List.mem_cons_self
  by_cases hrv : rv = 0
  · simp only [Config.afterQueue, hrv, if_true]
    refine ⟨fun d hd => ?_, fun d hd => List.mem_cons_of_mem _ (hb.refused d hd), fun d hd hr => ?_,
      hactive', hdone'⟩
    · rcases List.mem_cons.1 hd with rfl | hd
      · exact List.mem_cons_self
      · exact List.mem_cons_of_mem _ (hb.accepted d hd)
    · rcases List.mem_cons.1 hd with rfl | hd
      · exact hnew d (hb.refused d hr) rfl
      · exact hb.disjoint d hd hr
  · simp only [Config.afterQueue, hrv, if_false]
    refine ⟨fun d hd => List.mem_cons_of_mem _ (hb.accepted d hd), fun d hd => ?_,
      fun d hd hr => ?_, hactive', hdone'⟩
    · rcases List.mem_cons.1 hd with rfl | hd
      · exact List.mem_cons_self
      · exact List.mem_cons_of_mem _ (hb.refused d hd)
    · rcases List.mem_cons.1 hr with rfl | hr
      · exact hnew d (hb.accepted d hd) rfl
      · exact hb.disjoint d hd hr

lemma queue (hs : Shape k.drv) (hb : Books k) {c : CmndId} (e : Env) (hc : k.MayQueue c) :
    Books (k.afterQueue c (run (sem e c) (queueCommand c) k.drv)) := by
  obtain ⟨rv, s', hrun, -, ht⟩ := traffic_queueCommand e c hs
  have hq := k.drv.traffic.queue_effect (e.usable (k.drv.cmnd c).length)
    (cbwUrb k.drv.dev.count) e.submit c
  rw [← ht] at hq
  rw [hrun]
  exact hb.afterQueue hc.1 hq.1 hq.2

lemma step {l : Call} (hs : Shape k.drv) (hb : Books k) (h : session.next k l = some k') :
    Books k' := by
  cases l with
  | queueCommand c e =>
    obtain ⟨-, hc, rfl⟩ := next_queueCommand h
    exact hb.queue hs e hc
  | complete u st n received e =>
    obtain ⟨-, o, hu, rfl⟩ := next_complete h
    cases hc : k.drv.activeScmd with
    | none =>
      have ht := k.drv.traffic_giveBack u st n received
      rw [complete_none e st n received hs hu hc]
      have hdone : (k.drv.giveBack u st n received).done = k.drv.done := congrArg Traffic.done ht
      exact hb.after (.inl (congrArg Traffic.active ht)) (by simpa [hdone] using hb.done)
    | some a =>
      have hserves := (traffic_complete e st n received hs hu hc).serves hc
      rw [Outcome.state_map] at hserves
      exact hb.after hserves.active fun c hc' =>
        (hserves.done c hc').elim (hb.done c) (hb.active c)
  | handler hd c e =>
    obtain ⟨-, hc, rfl⟩ := next_handler h
    by_cases hh : hd = .abort
    · subst hh
      obtain ⟨-, hactive, hdone, -⟩ := abort_effect e c hs
      exact hb.after hactive fun x hx =>
        (hdone x hx).elim (fun h => h ▸ hc) fun h => h.elim (hb.done x) (hb.active x)
    · rw [run_reset e c hh]
      split
      · exact hb.after (.inr rfl) hb.done
      · exact hb.after (.inl rfl) hb.done

lemma init (h : session.Init k) : Books k := by
  obtain ⟨hp, hq, ha, hr, -⟩ := h
  exact ⟨by simp [ha], by simp [hr], by simp [ha], by simp [hp.active], by simp [hp.done]⟩

end Books

/-! ## A device to start from -/

/-- A command with opcode `op` and `n` bytes of data, all of them `b`. -/
def Cmnd.plain (op : UInt8) (direction : DmaDataDirection) (n : UInt32) (b : UInt8) : Cmnd where
  cmnd := op :: List.replicate 31 0
  cmnd_length := rfl
  cmdLen := 6
  scDataDirection := direction
  length := n
  data := List.replicate n.toNat b
  data_length := List.length_replicate
  result := 0
  resid := 0

/-- A device right after a successful probe, with the commands that the SCSI layer
is going to hand over. -/
def State.start (cmnd : CmndId → Cmnd) : State where
  dev :=
    { Dev.zero with
      udev := some 1
      bulkInEndpointaddr := 0x81
      bulkOutEndpointaddr := 0x02
      cbwTag := 1
      urb := fun
        | .cbw => some 2
        | .sec => some 4
        | .csw => some 6
        | .data => some 8
      buffer := fun
        | .cbw => some 3
        | .sec => some 5
        | .csw => some 7
        | .data => none }
  activeScmd := none
  urb := fun _ => .zero
  buf := fun _ => []
  dmaMem := fun _ => 0
  fresh := fun _ => 0
  adjacent := fun _ => 0
  cmnd := cmnd
  inflight := fun _ => none
  done := []
  clash := []
  ledger :=
    { next := 9
      live := [(8, .urb), (7, .coherent CSW_LEN), (6, .urb), (5, .coherent CBW_LEN), (4, .urb),
        (3, .coherent CBW_LEN), (2, .urb), (1, .usbDevice), (0, .scsiHost)]
      wrong := []
      numbered := by decide }
  host := some 0

/-- The device before the first command. -/
def Config.start (cmnd : CmndId → Cmnd) : Config := ⟨.start cmnd, [], [], [], false⟩

lemma probed_start (cmnd : CmndId → Cmnd) : Probed (.start cmnd) where
  urb_ptr u := by cases u <;> simp [State.start]
  buf_ptr b hb := by cases b <;> simp [State.start] at hb ⊢
  data_ptr := rfl
  urb _ := rfl
  active := rfl
  count := rfl
  tag := rfl
  inflight _ := rfl
  done := rfl
  clash := rfl
  dmaMem := rfl

lemma reach_start (C : Config → Call → Prop) (cmnd : CmndId → Cmnd) :
    session.Reach C (.start cmnd) :=
  .init ⟨probed_start cmnd, rfl, rfl, rfl, rfl⟩

/-- A READ(10) of eight bytes, followed by TEST UNIT READY for ever. -/
def readThenReady (c : CmndId) : Cmnd :=
  if c = 0 then .plain 0x28 .dmaFromDevice 8 0 else .plain 0x00 .dmaNone 0 0

/-- The READ(10) is aborted after its CBW, and the next command uses `sec_urb`. -/
def abortedRead : List Call :=
  [.queueCommand 0 {}, .complete .cbw 0 31 [] {}, .handler .abort 0 {}, .queueCommand 1 {}]

end KernelDriverLab.UsbV1
