import KernelDriverLab.UsbTest.Session

/-!
# Whole lives of an interface

In every life of an interface in which the work item has run before a disconnect, each function
of `Test_usb_driver.c` returns and accesses nothing outside of what is allocated, every release
is of something held, and what is left behind is known exactly: the pairs allocated before the
one that failed after a failed probe, and the inquiry buffer after a disconnect.  The URBs that
are filled are those of one INQUIRY, in order, each with a buffer as large as the transfer; the
lengths in the cases for WRITE(10) and READ(10), which no buffer has, are never used.

A disconnect with the work item queued leaves it with a device structure that is freed.
-/

namespace KernelDriverLab.UsbTest

open Lib Prog
open Usb (Pair Ptr Callback Dev Urb State Op Env Driver Resource Fill)
open UsbV1 (UsbEndpointDescriptor CommandBlockWrapper)

/-! ## What is left -/

/-- What a probe that fails leaves behind. -/
def lostAtProbe (altsetting : Option (List UsbEndpointDescriptor)) (e : Env) : List Resource :=
  if e.kzalloc then .storage :: .usbDevice ::
    (keptPairs altsetting e).flatMap fun p => [.kmalloc (size p), .urb]
  else []

/-- What is left after a probe that failed and after a disconnect. -/
def LeftAfter (k : Life) (l : Life.Event) (k' : Life) : Prop :=
  match l with
  | .probe alt e => k'.bound = false → k'.left.Perm (lostAtProbe alt e)
  | .disconnect _ => k'.left = if k.drv.dev.buffer .inquiry = none then [] else [.kmalloc 36]
  | _ => True

section Left

variable {e : Env} {s t : State} {n base : ℕ} {us : List Pair}
  {altsetting : Option (List UsbEndpointDescriptor)}

lemma things_nodup : things.Nodup := by decide

lemma mem_things (t : Thing) : t ∈ things := by
  cases t with
  | storage | udev => simp [things]
  | buffer p | urb p => simp [things, mem_pairs]

lemma filter_mem_takeWhile {α : Type} [DecidableEq α] {l : List α} (h : l.Nodup) (p : α → Bool) :
    l.filter (fun x => decide (x ∈ l.takeWhile p)) = l.takeWhile p := by
  induction l with
  | nil => rfl
  | cons a l ih =>
    obtain ⟨ha, hl⟩ := List.nodup_cons.1 h
    cases hp : p a with
    | false => simp [hp]
    | true =>
      have hsame : l.filter (fun x => decide (x ∈ a :: l.takeWhile p)) =
          l.filter fun x => decide (x ∈ l.takeWhile p) := by
        refine List.filter_congr fun x hx => ?_
        have hne : x ≠ a := fun heq => ha (heq ▸ hx)
        simp [hne]
      rw [List.takeWhile_cons_of_pos hp, List.filter_cons_of_pos (by simp), hsame, ih hl]

lemma filter_keptPairs : pairs.filter (fun p => decide (p ∈ keptPairs altsetting e)) =
    keptPairs altsetting e := by
  cases altsetting with
  | none => simp [keptPairs]
  | some epds => exact filter_mem_takeWhile (by decide) _

/-- The pairs that are allocated, in the order of the probe. -/
lemma Built.map_pairs (h : Built n base us s) (ps : List Pair) :
    ((ps.flatMap fun p => [Thing.buffer p, .urb p]).filterMap (holdings n s.dev)).map Prod.snd =
      (ps.filter fun p => decide (p ∈ us)).flatMap fun p => [Resource.kmalloc (size p), .urb] := by
  induction ps with
  | nil => rfl
  | cons p ps ih =>
    rw [List.flatMap_cons, List.filterMap_append, List.map_append, ih]
    by_cases hp : p ∈ us
    · obtain ⟨i, hi⟩ := Option.ne_none_iff_exists'.1 ((h.urb p).1 hp)
      obtain ⟨j, hj⟩ := Option.ne_none_iff_exists'.1 ((h.buffer p).1 hp)
      simp [hp, holdings, hi, hj]
    · simp [hp, holdings, h.urb_none hp, h.buffer_none hp]

/-- What a probe leaves, once it has the device structure. -/
lemma Built.left_perm (h : Built n base us s)
    (hus : ∀ p, p ∈ us ↔ p ∈ keptPairs altsetting e) (hz : e.kzalloc = true) :
    ((s.ledger.live.filter (base ≤ ·.1)).map Prod.snd).Perm (lostAtProbe altsetting e) := by
  obtain ⟨m, hm⟩ := Option.ne_none_iff_exists'.1 h.udev
  have hleft := (h.account.left_perm things_nodup mem_things).map Prod.snd
  have hpairs := h.map_pairs pairs
  simp only [hus, filter_keptPairs] at hpairs
  have hthings : (things.filterMap (holdings n s.dev)).map Prod.snd = lostAtProbe altsetting e := by
    simp only [things, List.filterMap_cons, holdings, hm, Option.map_some, List.map_cons, hpairs,
      lostAtProbe, hz, if_true]
  rwa [hthings] at hleft

/-- What `usb_disconnect` leaves. -/
lemma left_of_disconnect (h : t.ledger.Account base (lostAtDisconnect s.dev)) :
    (t.ledger.live.filter (base ≤ ·.1)).map Prod.snd =
      if s.dev.buffer .inquiry = none then [] else [.kmalloc 36] := by
  have hleft := (h.left_perm things_nodup mem_things).map Prod.snd
  cases hb : s.dev.buffer .inquiry with
  | none =>
    have hthings : (things.filterMap (lostAtDisconnect s.dev)).map Prod.snd = [] := by
      simp [things, pairs, lostAtDisconnect, hb]
    rw [hthings] at hleft
    exact hleft.eq_nil
  | some b =>
    have hthings : (things.filterMap (lostAtDisconnect s.dev)).map Prod.snd = [.kmalloc 36] := by
      simp [things, pairs, lostAtDisconnect, hb, List.filterMap_cons]
    rw [hthings] at hleft
    exact List.perm_singleton.1 hleft

end Left

/-! ## The invariant -/

/-- What holds between the events. -/
structure Life.Inv (k : Life) : Prop where
  bound : k.bound = true → ∃ ph, Session k.base k.base ph k.drv
  free : k.bound = false → (k.drv.ledger.live.map Prod.fst).Nodup ∧
    (∀ u, k.drv.inflight u = false) ∧ k.drv.scheduled = false
  wrong : k.drv.ledger.wrong = []
  fits : ∀ f ∈ k.drv.fills, f.Fits
  exchange : ∃ j, k.drv.fills.reverse.map Fill.len = exchange.take j

section Inv

variable {k : Life} {ph : Phase} {l : Life.Event} {p : Driver Int} {s : State}

lemma Session.inv (h : Session k.base k.base ph k.drv) (hbound : k.bound = true) : k.Inv where
  bound _ := ⟨ph, h⟩
  free hfree := by
    rw [hbound] at hfree
    cases hfree
  wrong := h.account.wrong
  fits := h.fits
  exchange := by
    obtain ⟨j, -, -, hj⟩ := h.filled
    exact ⟨j, hj⟩

/-- What follows from an event. -/
def Good (k : Life) (l : Life.Event) (k' : Life) : Prop := k'.Inv ∧ LeftAfter k l k'

lemma good_probe (hk : k.Inv) {alt : Option (List UsbEndpointDescriptor)} {e : Env}
    (hbound : k.bound = false) : ∃ rv t,
      run (checked k.drv.ledger.next e) (usbProbe alt) { k.drv with fills := [] } = .done rv t ∧
        Good k (.probe alt e) (k.after (.probe alt e) rv t) := by
  obtain ⟨hdistinct, hidle, hqueue⟩ := hk.free hbound
  have hprobe := run_usbProbe (e := e) (s := { k.drv with fills := [] }) hdistinct hk.wrong hidle
    rfl hqueue alt
  cases hz : e.kzalloc with
  | false =>
    rw [hz] at hprobe
    refine ⟨_, _, hprobe, ⟨fun h => (by cases h), fun _ => ⟨hdistinct, hidle, hqueue⟩, hk.wrong,
      fun f hf => (by cases hf), 0, rfl⟩, fun _ => ?_⟩
    -- nothing was acquired
    have hnone : k.drv.ledger.live.filter (k.drv.ledger.next ≤ ·.1) = [] := by
      refine List.filter_eq_nil_iff.2 fun x hx => ?_
      simpa using k.drv.ledger.numbered x hx
    show ((k.drv.ledger.live.filter (k.drv.ledger.next ≤ ·.1)).map Prod.snd).Perm _
    simp [hnone, lostAtProbe, hz]
  | true =>
    rw [hz] at hprobe
    obtain ⟨rv, t, us, hrun, ht, hus, hrv⟩ := hprobe
    refine ⟨rv, _, hrun, ?_, fun _ => ht.left_perm hus hz⟩
    by_cases hzero : rv = 0
    · subst hzero
      have hall := hrv rfl
      have hsession : Session k.drv.ledger.next k.drv.ledger.next .queued
          { t with scheduled := true } :=
        { account := ht.account
          udev := ht.udev
          intfdata := ht.intfdata
          fits := by
            show ∀ f ∈ t.fills, f.Fits
            simp [ht.fills]
          inflight := fun u => by simp [ht.idle, Phase.inflight]
          scheduled := fun _ => rfl
          equipped := fun _ p => ⟨(ht.urb p).1 (hall p), (ht.buffer p).1 (hall p)⟩
          prepared := fun u hu => by cases hu
          length := fun _ => ht.length .cbw (hall .cbw)
          command := fun hph => by simp at hph
          filled := ⟨0, Nat.le_refl _, fun _ => rfl, by
            show t.fills.reverse.map Fill.len = _
            rw [ht.fills]
            rfl⟩ }
      exact Session.inv (k := k.after (.probe alt e) 0 { t with scheduled := true }) hsession rfl
    · refine ⟨fun h => absurd (beq_iff_eq.1 h) hzero, fun _ => ?_, ht.account.wrong, ?_, 0, ?_⟩
      · exact ⟨ht.account.distinct, ht.idle, decide_eq_false hzero⟩
      · show ∀ f ∈ t.fills, f.Fits
        rw [ht.fills]
        simp
      · show t.fills.reverse.map Fill.len = _
        rw [ht.fills]
        rfl

/-- `usb_disconnect`, whether the work item has run or not. -/
lemma Session.disconnect (h : Session k.base k.base ph k.drv) (e : Env)
    (hidle : ∀ u, k.drv.inflight u = false) :
    ∃ t, run (checked k.base e) usbDisconnect k.drv = .done () t ∧
      t.ledger.Account k.base (lostAtDisconnect k.drv.dev) ∧ t.inflight = k.drv.inflight ∧
      t.fills = k.drv.fills ∧ t.scheduled = k.drv.scheduled := by
  obtain ⟨m, hm⟩ := Option.ne_none_iff_exists'.1 h.udev
  exact run_usbDisconnect h.account h.intfdata hm hidle

lemma good_disconnect (hk : k.Inv) {e : Env} (hbound : k.bound = true)
    (hidle : ∀ u, k.drv.inflight u = false) (hqueue : k.drv.scheduled = false) : ∃ t,
      run (checked k.base e) usbDisconnect k.drv = .done () t ∧
        Good k (.disconnect e) (k.after (.disconnect e) 0 t) := by
  obtain ⟨ph, h⟩ := hk.bound hbound
  obtain ⟨t, hrun, ht, hinflight, hfills, hscheduled⟩ := h.disconnect e hidle
  refine ⟨t, hrun, ⟨fun h => (by cases h), fun _ => ⟨ht.distinct, ?_, ?_⟩, ht.wrong, ?_, ?_⟩,
    left_of_disconnect ht⟩
  · show ∀ u, t.inflight u = false
    rw [hinflight]
    exact hidle
  · exact hscheduled.trans hqueue
  · show ∀ f ∈ t.fills, f.Fits
    rw [hfills]
    exact hk.fits
  · show ∃ j, t.fills.reverse.map Fill.len = exchange.take j
    rw [hfills]
    exact hk.exchange

/-- The completion function of the URB in flight. -/
lemma good_complete (hk : k.Inv) {u : Pair} {cb : Callback} (st : Int) {received : List UInt8}
    {e : Env} (hbound : k.bound = true) (hu : k.drv.inflight u = true)
    (hcb : (k.drv.urb u).complete = some cb) (hreceived : Life.Receives (k.drv.urb u) received) :
    ∃ t, run (checked k.base e) (body cb { k.drv.urb u with status := st })
        (k.drv.giveBack u st received) = .done () t ∧
      Good k (.complete u st received e) (k.after (.complete u st received e) 0 t) := by
  obtain ⟨ph, h⟩ := hk.bound hbound
  have hph := (h.inflight u).1 hu
  obtain rfl : u.callback = cb := Option.some.inj ((h.prepared u hph).complete.symm.trans hcb)
  have hgood {t : State} {ph' : Phase} (ht : Session k.base k.base ph' t) :
      Good k (.complete u st received e) (k.after (.complete u st received e) 0 t) :=
    ⟨Session.inv (k := k.after (.complete u st received e) 0 t) ht hbound, trivial⟩
  cases ph with
  | queued | ended => cases hph
  | command =>
    obtain rfl := Option.some.inj hph
    obtain ⟨t, ph', hrun, ht⟩ := run_cbwCallback (e := e) st h hreceived
    exact ⟨t, hrun, hgood ht⟩
  | data =>
    obtain rfl := Option.some.inj hph
    obtain ⟨t, ph', hrun, ht⟩ := run_dataCallback (e := e) st received h
    exact ⟨t, hrun, hgood ht⟩
  | status =>
    obtain rfl := Option.some.inj hph
    obtain ⟨t, hrun, ht⟩ := run_cswCallback (e := e) st received h
    exact ⟨t, hrun, hgood ht⟩

/-- A function without a value is called. -/
lemma run_returns {d : Prog.Sem Op Op.Ans State} {f : Driver Unit} {t : State}
    (h : run d f s = .done () t) : run d (f >>= fun _ => pure (0 : Int)) s = .done 0 t := by
  rw [run_bind, h]
  rfl

/-- **Every call returns**, without an access outside, and with what follows from the event. -/
lemma good_call (hk : k.Inv) (hc : k.Timely l) (h : k.call l = some (p, s)) :
    ∃ rv t, run (checked (k.device l) l.env) p s = .done rv t ∧ Good k l (k.after l rv t) := by
  cases l with
  | probe alt e =>
    simp only [Life.call, Option.ite_none_left_eq_some] at h
    obtain ⟨hbound, heq⟩ := h
    obtain ⟨rfl, rfl⟩ := Prod.mk.inj (Option.some.inj heq)
    exact good_probe hk (by simpa using hbound)
  | work e =>
    simp only [Life.call, Option.ite_none_right_eq_some] at h
    obtain ⟨hscheduled, heq⟩ := h
    obtain ⟨rfl, rfl⟩ := Prod.mk.inj (Option.some.inj heq)
    -- the work item is queued only while the interface is bound
    have hbound : k.bound = true := by
      cases hb : k.bound with
      | true => rfl
      | false =>
        rw [(hk.free hb).2.2] at hscheduled
        cases hscheduled
    obtain ⟨ph, hsession⟩ := hk.bound hbound
    obtain rfl := hsession.scheduled hscheduled
    obtain ⟨t, ph', hrun, ht⟩ := run_initUsbProtocols (e := e) hsession
    exact ⟨0, t, run_returns hrun, Session.inv (k := k.after (.work e) 0 t) ht hbound, trivial⟩
  | complete u st received e =>
    simp only [Life.call] at h
    split at h
    · rename_i cb hcb
      rw [Option.ite_none_right_eq_some] at h
      obtain ⟨⟨hbound, hu, hreceived⟩, heq⟩ := h
      obtain ⟨rfl, rfl⟩ := Prod.mk.inj (Option.some.inj heq)
      obtain ⟨t, hrun, hgood⟩ := good_complete (e := e) hk st hbound hu hcb hreceived
      exact ⟨0, t, run_returns hrun, hgood⟩
    · cases h
  | disconnect e =>
    simp only [Life.call, Option.ite_none_right_eq_some] at h
    obtain ⟨⟨hbound, hidle⟩, heq⟩ := h
    obtain ⟨rfl, rfl⟩ := Prod.mk.inj (Option.some.inj heq)
    obtain ⟨t, hrun, hgood⟩ := good_disconnect (e := e) hk hbound
      (fun u => hidle u (mem_pairs u)) hc
    exact ⟨0, t, run_returns hrun, hgood⟩

lemma good_step {k' : Life} (hk : k.Inv) (hc : k.Timely l) (h : k.step l = some k') :
    Good k l k' := by
  obtain ⟨⟨p, s⟩, hcall, hrun⟩ := Option.bind_eq_some_iff.1 h
  obtain ⟨rv, t, hdone, hgood⟩ := good_call hk hc hcall
  simp only [(throughout_of_guarded hdone).1] at hrun
  obtain rfl := Option.some.inj hrun
  exact hgood

lemma inv_of_reach (hk : lifecycle.Reach Life.Timely k) : k.Inv := by
  refine System.Reach.invariant (S := lifecycle) (I := Life.Inv) ?_ ?_ hk
  · rintro _ rfl
    exact ⟨fun h => (by cases h), fun _ => ⟨List.nodup_nil, fun _ => rfl, rfl⟩, rfl,
      fun f hf => (by cases hf), 0, rfl⟩
  · exact fun _ _ _ hk hc h => (good_step hk hc h).1

/-- The URBs in flight and their buffers are allocated, and the buffers are as large as the
transfers. -/
def TransfersInside (s : State) : Prop :=
  ∀ u, s.inflight u = true → (∃ i ∈ s.dev.urb u, Has s i .urb) ∧
    (s.urb u).transferBuffer = some u ∧
      HasBytes s (s.dev.buffer u) (s.urb u).transferBufferLength

lemma Life.Inv.transfersInside (hk : k.Inv) : TransfersInside k.drv := by
  intro u hu
  have hbound : k.bound = true := by
    cases hb : k.bound with
    | true => rfl
    | false =>
      rw [(hk.free hb).2.1 u] at hu
      cases hu
  obtain ⟨ph, h⟩ := hk.bound hbound
  have hph := (h.inflight u).1 hu
  have hne : ph ≠ .ended := by
    rintro rfl
    cases hph
  obtain ⟨hurb, hbuffer⟩ := h.equipped hne u
  obtain ⟨i, hi⟩ := Option.ne_none_iff_exists'.1 hurb
  have hprepared := h.prepared u hph
  exact ⟨⟨i, hi, h.toKept.hasUrb hi⟩, hprepared.transferBuffer,
    h.toKept.hasBytes hbuffer (Nat.le_of_eq hprepared.length)⟩

/-- After a disconnect the device structure is freed. -/
lemma not_has_of_disconnect {t : State}
    (h : t.ledger.Account k.base (lostAtDisconnect k.drv.dev)) : ¬ Has t k.base .storage := by
  intro hmem
  obtain ⟨x, hx⟩ := (h.mem _).1 ⟨hmem, Nat.le_refl _⟩
  cases x with
  | storage | udev | urb q => cases hx
  | buffer q => cases q <;> simp [lostAtDisconnect] at hx

end Inv

/-! ## The results -/

/-- An interface with one bulk endpoint in each direction. -/
def bulkInterface : Option (List UsbEndpointDescriptor) := some [⟨0x81, 2⟩, ⟨0x02, 2⟩]

/-- A probe and the whole exchange. -/
def wholeSession : List Life.Event :=
  [.probe bulkInterface {}, .work {}, .complete .cbw 0 [] {}, .complete .inquiry 0 [0, 0x80] {},
    .complete .csw 0 [] {}]

/-- The interface after that. -/
def afterSession : Life := (lifecycle.exec .fresh wholeSession).get (by decide +kernel)

lemma reach_afterSession : lifecycle.Reach Life.Timely afterSession :=
  System.reach_get wholeSession (.init rfl) (by decide +kernel) (by decide +kernel)

/-- **Nothing is accessed outside.** In every life of an interface whose work item has run before
each disconnect, every function that is called returns: no NULL pointer is followed, no URB is
killed in flight, and whatever is read or written is allocated and large enough, by the device
as well.  After a disconnect with the work item queued, the work item follows the freed device
structure. -/
theorem every_call_returns {k : Life} (hk : lifecycle.Reach Life.Timely k) :
    TransfersInside k.drv ∧
    (∀ l p s, k.Timely l → k.call l = some (p, s) → ∃ rv t, run (sem l.env) p s = .done rv t ∧
      Throughout (sem l.env) (Op.Inside (k.device l)) p s ∧
        lifecycle.next k l = some (k.after l rv t)) ∧
    ∀ e k', k.drv.scheduled = true → lifecycle.next k (.disconnect e) = some k' →
      ∀ e', ∃ p s, k'.call (.work e') = some (p, s) ∧
        ¬ Has s (k'.device (.work e')) .storage ∧
          ¬ Throughout (sem e') (Op.Inside (k'.device (.work e'))) p s := by
  have hinv := inv_of_reach hk
  refine ⟨hinv.transfersInside, fun l p s hc h => ?_, fun e k' hqueue h e' => ?_⟩
  · obtain ⟨rv, t, hrun, -⟩ := good_call hinv hc h
    obtain ⟨hdone, hinside⟩ := throughout_of_guarded hrun
    refine ⟨rv, t, hdone, hinside, ?_⟩
    simp [lifecycle, Life.step, h, hdone]
  · obtain ⟨⟨p, s⟩, hcall, hrun⟩ := Option.bind_eq_some_iff.1 h
    simp only [Life.call, Option.ite_none_right_eq_some] at hcall
    obtain ⟨⟨hbound, hidle⟩, heq⟩ := hcall
    obtain ⟨rfl, rfl⟩ := Prod.mk.inj (Option.some.inj heq)
    obtain ⟨ph, hsession⟩ := hinv.bound hbound
    obtain ⟨t, hdone, ht, -, -, hscheduled⟩ :=
      hsession.disconnect e fun u => hidle u (mem_pairs u)
    simp only [Life.Event.env, run_returns (throughout_of_guarded hdone).1] at hrun
    obtain rfl := Option.some.inj hrun
    have hgone : ¬ Has t k.base .storage := not_has_of_disconnect ht
    refine ⟨_, _, if_pos (hscheduled.trans hqueue), hgone, fun hall => ?_⟩
    -- the first access of the work item is to the device structure
    rw [initUsbProtocols, throughout_bind] at hall
    exact hgone hall.1.1

/-- The device is taken apart after the exchange. -/
theorem every_call_returns_disconnect :
    ∃ k p s, lifecycle.Reach Life.Timely k ∧ k.call (.disconnect {}) = some (p, s) ∧
      k.drv.fills.length = 3 ∧ ∃ rv t, run (sem {}) p s = .done rv t ∧
        Throughout (sem {}) (Op.Inside k.base) p s ∧
        lifecycle.next k (.disconnect {}) = some (k.after (.disconnect {}) rv t) := by
  have hcall := (Option.some_get (show (afterSession.call (.disconnect {})).isSome = true by
    decide +kernel)).symm
  have hall := (every_call_returns reach_afterSession).2.1 (.disconnect {}) _ _
    (by decide +kernel) hcall
  exact ⟨_, _, _, reach_afterSession, hcall, by decide +kernel, hall⟩

/-- **What is left.** In every life of an interface whose work item has run before each
disconnect, no release is wrong; a probe that fails leaves the device structure, the reference to
the `usb_device` and the pairs before the first that was not allocated, or nothing if there was
no memory for the structure; a disconnect leaves the inquiry buffer, unless it has been
dropped. -/
theorem left_exactly {k k' : Life} {l : Life.Event} (hk : lifecycle.Reach Life.Timely k)
    (hc : k.Timely l) (h : lifecycle.next k l = some k') :
    k'.drv.ledger.wrong = [] ∧ LeftAfter k l k' := by
  obtain ⟨hinv, hleft⟩ := good_step (inv_of_reach hk) hc h
  exact ⟨hinv.wrong, hleft⟩

/-- After the exchange the inquiry buffer is left. -/
theorem left_exactly_disconnect :
    ∃ k k' : Life, lifecycle.Reach Life.Timely k ∧
      lifecycle.next k (.disconnect {}) = some k' ∧
      k'.left = [.kmalloc 36] ∧ k'.drv.ledger.wrong = [] := by
  have hnext := (Option.some_get (show (lifecycle.next afterSession (.disconnect {})).isSome = true
    by decide +kernel)).symm
  exact ⟨_, _, reach_afterSession, hnext, by decide +kernel,
    (left_exactly reach_afterSession (by decide +kernel) hnext).1⟩

/-- **One INQUIRY.** In every life of an interface whose work item has run before each disconnect,
the URBs filled since the latest probe are those for the wrapper, the 36 bytes of data and the
status, in this order and each at most once, and each with an URB and a buffer that are allocated
and large enough; while the data are in flight, the transfer has the direction and the length
that the wrapper announces. -/
theorem one_inquiry {k : Life} (hk : lifecycle.Reach Life.Timely k) :
    (∃ j, k.drv.fills.reverse.map Fill.len = exchange.take j) ∧ (∀ f ∈ k.drv.fills, f.Fits) ∧
      (k.bound = true → k.drv.inflight .inquiry = true →
        (k.drv.urb .inquiry).pipe.dirIn = true ∧
          (CommandBlockWrapper.ofBytes (k.drv.buf .cbw)).bmCBWFlags = 0x80 ∧
          (k.drv.urb .inquiry).transferBufferLength =
            (CommandBlockWrapper.ofBytes (k.drv.buf .cbw)).dCBWDataTransferLength.toNat) := by
  have hinv := inv_of_reach hk
  refine ⟨hinv.exchange, hinv.fits, fun hbound hflight => ?_⟩
  obtain ⟨ph, h⟩ := hinv.bound hbound
  have hph := (h.inflight .inquiry).1 hflight
  have hprepared := h.prepared .inquiry hph
  obtain rfl : ph = .data := by
    cases ph with
    | data => rfl
    | queued | command | status | ended => cases hph
  rw [h.command (.inr rfl), CommandBlockWrapper.ofBytes_bytes, hprepared.length]
  exact ⟨hprepared.dirIn, rfl, rfl⟩

/-- After the exchange three URBs have been filled. -/
theorem one_inquiry_complete : ∃ k : Life, lifecycle.Reach Life.Timely k ∧
    k.drv.fills.reverse.map Fill.len = exchange ∧ ∀ f ∈ k.drv.fills, f.Fits := by
  exact ⟨_, reach_afterSession, by decide +kernel, (one_inquiry reach_afterSession).2.1⟩

end KernelDriverLab.UsbTest
