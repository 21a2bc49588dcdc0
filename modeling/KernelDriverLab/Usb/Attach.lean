import KernelDriverLab.Usb.Driver

/-!
# What a successful allocation leaves

`usb_alloc_buffer_and_urb` returns 0 only when every allocation that it tests has
succeeded, and then every pair has an URB and a buffer of its own.  `usb_probe`
returns 0 only after that, with the work queued and the device as interface data.
-/

namespace KernelDriverLab.Usb

open Lib Prog
open UsbV1 (UsbEndpointDescriptor ENOMEM EINVAL)

namespace State

/-- The pair has its URB and a buffer of the kind that belongs to it. -/
def Equipped (s : State) (p : Pair) : Prop :=
  ∃ i b, s.dev.urb p = some i ∧ s.dev.buffer p = some b ∧
    s.ledger.Holds i .urb ∧ s.ledger.Holds b p.resource

/-- Every pair is equipped, and no two pairs have the same URB. -/
structure Allocated (s : State) : Prop where
  equipped : ∀ p, s.Equipped p
  urb_inj : ∀ p q, s.dev.urb p = s.dev.urb q → p = q

/-- No URB has been filled or is in flight. -/
def Fresh (s : State) : Prop := ∀ p, s.urb p = .zero ∧ s.inflight p = false

/-- What the pairs have is told by the two pointer fields and the ledger. -/
def SamePairs (s t : State) : Prop :=
  t.dev.urb = s.dev.urb ∧ t.dev.buffer = s.dev.buffer ∧ t.ledger = s.ledger

lemma Equipped.of_same {s t : State} {p : Pair} (h : s.Equipped p) (hst : s.SamePairs t) :
    t.Equipped p := by
  obtain ⟨hurb, hbuffer, hledger⟩ := hst
  rw [Equipped, hurb, hbuffer, hledger]
  exact h

lemma Allocated.of_same {s t : State} (h : s.Allocated) (hst : s.SamePairs t) : t.Allocated where
  equipped p := (h.equipped p).of_same hst
  urb_inj p q hpq := h.urb_inj p q (by rwa [hst.1] at hpq)

/-- On the way from `s₀` to an allocated device: the pairs `us` have their URBs and
the pairs `bs` their buffers. -/
structure Built (s₀ s : State) (us bs : List Pair) : Prop where
  urb : ∀ p ∈ us, ∃ i, s.dev.urb p = some i ∧ s.ledger.Holds i .urb
  buffer : ∀ p ∈ bs, ∃ b, s.dev.buffer p = some b ∧ s.ledger.Holds b p.resource
  urb_inj : ∀ p ∈ us, ∀ q ∈ us, s.dev.urb p = s.dev.urb q → p = q
  fresh : ∀ p ∈ us, s.urb p = .zero ∧ s.inflight p = false
  intfdata : s.intfdata = s₀.intfdata
  fills : s.fills = s₀.fills

lemma Built.nil (s : State) : Built s s [] [] where
  urb := by simp
  buffer := by simp
  urb_inj := by simp
  fresh := by simp
  intfdata := rfl
  fills := rfl

/-- The device after `dev->u` has been set to a new URB. -/
@[simps -fullyApplied]
def withUrb (s : State) (u : Pair) : State :=
  { s with
    dev := { s.dev with urb := Function.update s.dev.urb u (some s.ledger.next) }
    urb := Function.update s.urb u .zero
    inflight := Function.update s.inflight u false
    ledger := s.ledger.acquire .urb }

/-- The device after `dev->b` has been set to a new buffer. -/
@[simps -fullyApplied]
def withBuffer (s : State) (b : Pair) (k : Resource) (dma : Pair → ℕ) (bs : List UInt8) : State :=
  { s with
    dev :=
      { s.dev with
        buffer := Function.update s.dev.buffer b (some s.ledger.next)
        dma := dma }
    buf := Function.update s.buf b bs
    ledger := s.ledger.acquire k }

variable {s₀ s : State} {us bs : List Pair}

lemma Built.withUrb (h : Built s₀ s us bs) {u : Pair} (hu : u ∉ us) :
    Built s₀ (s.withUrb u) (u :: us) bs := by
  have hold : ∀ p ∈ us, (s.withUrb u).dev.urb p = s.dev.urb p := by
    intro p hp
    have hpu : p ≠ u := fun h => hu (h ▸ hp)
    exact Function.update_of_ne hpu _ _
  have hnew : (s.withUrb u).dev.urb u = some s.ledger.next := Function.update_self ..
  -- an older URB has a smaller number
  have hne : ∀ p ∈ us, s.dev.urb p ≠ some s.ledger.next := by
    intro p hp hsame
    obtain ⟨i, hi, hheld⟩ := h.urb p hp
    have hlt : i < s.ledger.next := hheld.lt_next
    rw [hi, Option.some.injEq] at hsame
    omega
  constructor
  case urb =>
    intro p hp
    rcases List.mem_cons.1 hp with rfl | hp
    · exact ⟨_, hnew, Ledger.holds_acquire.2 (.inl ⟨rfl, rfl⟩)⟩
    · obtain ⟨i, hi, hheld⟩ := h.urb p hp
      exact ⟨i, (hold p hp).trans hi, Ledger.holds_acquire.2 (.inr hheld)⟩
  case buffer =>
    intro p hp
    obtain ⟨b, hb, hheld⟩ := h.buffer p hp
    exact ⟨b, hb, Ledger.holds_acquire.2 (.inr hheld)⟩
  case urb_inj =>
    intro p hp q hq hpq
    rcases List.mem_cons.1 hp with rfl | hp' <;> rcases List.mem_cons.1 hq with rfl | hq'
    · rfl
    · rw [hnew, hold q hq'] at hpq
      exact absurd hpq.symm (hne q hq')
    · rw [hnew, hold p hp'] at hpq
      exact absurd hpq (hne p hp')
    · rw [hold p hp', hold q hq'] at hpq
      exact h.urb_inj p hp' q hq' hpq
  case fresh =>
    intro p hp
    by_cases hpu : p = u
    · simp [hpu]
    · simpa [hpu] using h.fresh p ((List.mem_cons.1 hp).resolve_left hpu)
  case intfdata => exact h.intfdata
  case fills => exact h.fills

lemma Built.withBuffer (h : Built s₀ s us bs) {b : Pair} (hb : b ∉ bs) {k : Resource}
    (hk : k = b.resource) (dma : Pair → ℕ) (data : List UInt8) :
    Built s₀ (s.withBuffer b k dma data) us (b :: bs) where
  urb := by
    intro p hp
    obtain ⟨i, hi, hheld⟩ := h.urb p hp
    exact ⟨i, hi, Ledger.holds_acquire.2 (.inr hheld)⟩
  buffer := by
    intro p hp
    rcases List.mem_cons.1 hp with rfl | hp
    · exact ⟨_, Function.update_self .., Ledger.holds_acquire.2 (.inl ⟨rfl, hk.symm⟩)⟩
    · obtain ⟨i, hi, hheld⟩ := h.buffer p hp
      have hpb : p ≠ b := fun h => hb (h ▸ hp)
      exact ⟨i, (Function.update_of_ne hpb _ _).trans hi, Ledger.holds_acquire.2 (.inr hheld)⟩
  urb_inj := h.urb_inj
  fresh := h.fresh
  intfdata := h.intfdata
  fills := h.fills

/-- The pointer of a pair whose buffer is not allocated yet, and a further
acquisition, do not matter. -/
lemma Built.setBuffer (h : Built s₀ s us bs) {b : Pair} (hb : b ∉ bs) {p : Ptr}
    {l : Ledger Resource} (hl : ∀ i k, s.ledger.Holds i k → l.Holds i k)
    (buf : Pair → List UInt8) :
    Built s₀ { s with
      dev := { s.dev with buffer := Function.update s.dev.buffer b p }
      buf := buf
      ledger := l } us bs where
  urb := by
    intro q hq
    obtain ⟨i, hi, hheld⟩ := h.urb q hq
    exact ⟨i, hi, hl i _ hheld⟩
  buffer := by
    intro q hq
    obtain ⟨i, hi, hheld⟩ := h.buffer q hq
    have hqb : q ≠ b := fun h => hb (h ▸ hq)
    exact ⟨i, (Function.update_of_ne hqb _ _).trans hi, hl i _ hheld⟩
  urb_inj := h.urb_inj
  fresh := h.fresh
  intfdata := h.intfdata
  fills := h.fills

end State

section Allocate

variable {e : Env} {s₀ s s' : State} {us bs : List Pair}

/-- When the failure of an allocation leads to an error, success means that the
URB was allocated. -/
lemma allocUrb_success {u : Pair} {f : Bool → Driver Int} (hs : State.Built s₀ s us bs)
    (h : run (sem e) (allocUrb u >>= f) s = .done 0 s') (hf : Ends (· ≠ 0) (f false))
    (hu : u ∉ us) :
    ∃ t, State.Built s₀ t (u :: us) bs ∧ run (sem e) (f true) t = .done 0 s' := by
  by_cases he : e.urb u
  · simp [allocUrb, setUrb, op, run_act, sem, he] at h
    exact ⟨s.withUrb u, hs.withUrb hu, h⟩
  · simp [allocUrb, setUrb, op, run_act, sem, he] at h
    exact absurd rfl (hf.run h)

lemma allocCoherent_success {b : Pair} {size : ℕ} {f : Bool → Driver Int}
    (hs : State.Built s₀ s us bs)
    (h : run (sem e) (allocCoherent b size >>= f) s = .done 0 s') (hf : Ends (· ≠ 0) (f false))
    (hb : b ∉ bs) (hk : .coherent size = b.resource) :
    ∃ t, State.Built s₀ t us (b :: bs) ∧ run (sem e) (f true) t = .done 0 s' := by
  cases he : e.coherent b with
  | none =>
    simp [allocCoherent, readDev, setBuffer, op, run_act, sem, he] at h
    exact absurd rfl (hf.run h)
  | some addr =>
    simp [allocCoherent, readDev, setBuffer, op, run_act, sem, he] at h
    exact ⟨s.withBuffer b (.coherent size) (Function.update s.dev.dma b addr) _,
      hs.withBuffer hb hk _ _, h⟩

lemma allocKmalloc_success {b : Pair} {size : ℕ} {f : Bool → Driver Int}
    (hs : State.Built s₀ s us bs)
    (h : run (sem e) (allocKmalloc b size >>= f) s = .done 0 s') (hf : Ends (· ≠ 0) (f false))
    (hb : b ∉ bs) (hk : .kmalloc size = b.resource) :
    ∃ t, State.Built s₀ t us (b :: bs) ∧ run (sem e) (f true) t = .done 0 s' := by
  by_cases he : e.kmalloc b
  · simp [allocKmalloc, setBuffer, op, run_act, sem, he] at h
    exact ⟨s.withBuffer b (.kmalloc size) s.dev.dma _, hs.withBuffer hb hk _ _, h⟩
  · simp [allocKmalloc, setBuffer, op, run_act, sem, he] at h
    exact absurd rfl (hf.run h)

/-- The `kmalloc` of the inquiry buffer is not tested. -/
lemma allocKmalloc_any {b : Pair} {size : ℕ} {p : Driver Int} (hs : State.Built s₀ s us bs)
    (h : run (sem e) (allocKmalloc b size >>= fun _ => p) s = .done 0 s') (hb : b ∉ bs) :
    ∃ t, State.Built s₀ t us bs ∧ run (sem e) p t = .done 0 s' := by
  by_cases he : e.kmalloc b
  · simp [allocKmalloc, setBuffer, op, run_act, sem, he] at h
    exact ⟨_, hs.setBuffer hb (fun i k hi => Ledger.holds_acquire.2 (.inr hi)) _, h⟩
  · simp [allocKmalloc, setBuffer, op, run_act, sem, he] at h
    exact ⟨_, hs.setBuffer hb (fun i k hi => hi) _, h⟩

lemma ends_rWrite : Ends (· ≠ 0) rWrite := ends_bind _ fun _ => by simp [EINVAL]

lemma ends_rRead : Ends (· ≠ 0) rRead := by
  refine ends_bind _ fun b => ?_
  cases b
  · exact ends_rWrite
  · simp [EINVAL]

lemma ends_rInquiry : Ends (· ≠ 0) rInquiry := by
  refine ends_bind _ fun b => ?_
  cases b
  · exact ends_rRead
  · simp [EINVAL]

lemma ends_rCsw : Ends (· ≠ 0) rCsw := by
  refine ends_bind _ fun b => ?_
  cases b
  · exact ends_rInquiry
  · simp [EINVAL]

lemma ends_rCbw : Ends (· ≠ 0) rCbw := by
  refine ends_bind _ fun b => ?_
  cases b
  · exact ends_rCsw
  · simp [EINVAL]

/-- **A successful allocation** equips every pair. -/
theorem usbAllocBufferAndUrb_success (h : run (sem e) usbAllocBufferAndUrb s = .done 0 s') :
    s'.Allocated ∧ s'.Fresh ∧ s'.intfdata = s.intfdata ∧ s'.fills = s.fills := by
  unfold usbAllocBufferAndUrb at h
  obtain ⟨_, hs, h⟩ := allocCoherent_success (.nil s) h (by simp [ENOMEM]) (by simp) rfl
  obtain ⟨_, hs, h⟩ := allocUrb_success hs h (by simpa using ends_rCbw) (by simp)
  obtain ⟨_, hs, h⟩ := allocKmalloc_success hs h (by simp [ENOMEM]) (by simp) rfl
  obtain ⟨_, hs, h⟩ := allocUrb_success hs h (by simpa using ends_rCsw) (by simp)
  obtain ⟨_, hs, h⟩ := allocCoherent_success hs h (by simp [ENOMEM]) (by simp) rfl
  obtain ⟨_, hs, h⟩ := allocUrb_success hs h (by simpa using ends_rRead) (by simp)
  obtain ⟨_, hs, h⟩ := allocKmalloc_any hs h (by simp)
  obtain ⟨_, hs, h⟩ := allocCoherent_success hs h (by simp [ENOMEM]) (by simp) rfl
  obtain ⟨_, hs, h⟩ := allocUrb_success hs h (by simpa using ends_rInquiry) (by simp)
  obtain ⟨_, hs, h⟩ := allocKmalloc_success hs h (by simp [ENOMEM]) (by simp) rfl
  obtain ⟨_, hs, h⟩ := allocUrb_success hs h (by simpa using ends_rWrite) (by simp)
  obtain rfl : _ = s' := by simpa using h
  have hall (p : Pair) : p ∈ [Pair.write, .inquiry, .read, .csw, .cbw] := by cases p <;> decide
  refine ⟨⟨fun p => ?_, fun p q => hs.urb_inj p (hall p) q (hall q)⟩, fun p => hs.fresh p (hall p),
    hs.intfdata, hs.fills⟩
  obtain ⟨i, hi, hurb⟩ := hs.urb p (hall p)
  obtain ⟨b, hb, hbuffer⟩ := hs.buffer p (hall p)
  exact ⟨i, b, hi, hb, hurb, hbuffer⟩

end Allocate

/-! ## usb_probe -/

/-- The device after a successful probe. -/
structure Attached (s : State) : Prop where
  allocated : s.Allocated
  fresh : s.Fresh
  intfdata : s.intfdata ≠ none
  scheduled : s.scheduled = true

section Probe

variable {e : Env} {s s' : State}

/-- The operations of the loop over the endpoints. -/
@[simp] def Op.StoresEndpoint : Op → Prop
  | setBulkIn _ | setBulkOut _ => True
  | _ => False

lemma all_setEndpoints (epds : List UsbEndpointDescriptor) :
    All Op.StoresEndpoint (setEndpoints epds) := by
  induction epds with
  | nil => trivial
  | cons epd epds ih =>
    simp only [setEndpoints]
    split <;> split <;> simp [ih]

lemma setEndpoints_same (epds : List UsbEndpointDescriptor) :
    let t := (run (sem e) (setEndpoints epds) s).state
    s.SamePairs t ∧ t.urb = s.urb ∧ t.inflight = s.inflight ∧ t.intfdata = s.intfdata := by
  refine (all_setEndpoints epds).run (I := fun t => s.SamePairs t ∧ t.urb = s.urb ∧
    t.inflight = s.inflight ∧ t.intfdata = s.intfdata) ?_ ⟨⟨rfl, rfl, rfl⟩, rfl, rfl, rfl⟩
  intro o t ho ht
  cases o <;> first | exact absurd ho id | exact ht

lemma probeResources_success {epds : List UsbEndpointDescriptor} (hs : s.intfdata ≠ none)
    (h : run (sem e) (probeResources epds) s = .done 0 s') : Attached s' := by
  rw [probeResources, run_bind] at h
  cases halloc : run (sem e) usbAllocBufferAndUrb s with
  | oops t => simp [halloc] at h
  | done rv t =>
    simp only [halloc] at h
    by_cases hrv : rv = 0
    · subst hrv
      obtain ⟨hallocated, hfresh, hintf, -⟩ := usbAllocBufferAndUrb_success halloc
      obtain ⟨hsame, hurb, hinflight, hintf'⟩ := setEndpoints_same (e := e) (s := t) epds
      simp only [ne_eq, not_true_eq_false, if_false, run_bind] at h
      cases hset : run (sem e) (setEndpoints epds) t with
      | oops t' => simp [hset] at h
      | done _ t' =>
        rw [hset, Outcome.state_done] at hsame hurb hinflight hintf'
        simp [hset, readDev, op, run_act, sem] at h
        split_ifs at h
        · simp [ENODEV] at h
        · obtain ⟨-, rfl⟩ := Outcome.done.inj h
          constructor
          case allocated => exact hallocated.of_same hsame
          case fresh =>
            intro p
            rw [hurb, hinflight]
            exact hfresh p
          case intfdata =>
            show t'.intfdata ≠ none
            rw [hintf', hintf]
            exact hs
          case scheduled => rfl
    · simp [hrv, EINVAL] at h

/-- **A successful probe** leaves every pair equipped and the work queued. -/
theorem attached_of_usbProbe {altsetting : Option (List UsbEndpointDescriptor)}
    (h : run (sem e) (usbProbe altsetting) s = .done 0 s') : Attached s' := by
  by_cases hz : e.kzalloc
  · simp [usbProbe, usbSetIntfdata, op, run_act, sem, hz] at h
    cases altsetting with
    | none => simp [EINVAL] at h
    | some epds => exact probeResources_success (by simp) h
  · simp [usbProbe, op, run_act, sem, hz, ENOMEM] at h

end Probe

end KernelDriverLab.Usb
