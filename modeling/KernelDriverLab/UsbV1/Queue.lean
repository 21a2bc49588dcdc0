import KernelDriverLab.Lib.Throughout
import KernelDriverLab.UsbV1.Traffic

/-!
# Handing over a command

`queue_command` as a move of the command traffic.  It always makes its command the
active one; it may then fail to get a data buffer, or to submit the CBW, and only
in the second case has it completed the command it refuses.
-/

namespace KernelDriverLab.UsbV1

open Lib Prog

/-- What `queue_command` does to the traffic, and its return value: `usable` is
whether there is a data buffer, `u` the CBW URB and `rv` what submitting an idle
URB returns. -/
def Traffic.queue (t : Traffic) (usable : Bool) (u : UrbId) (rv : Int) (c : CmndId) :
    Int × Traffic :=
  if usable = false then (-ENOMEM, t.activate c)
  else (if t.inflight u = none ∧ rv = 0 then 0 else -ENOMEM,
    (t.activate c).trySubmit u rv c c)

/-- Handing over `c` makes it the active command and completes nothing else. -/
lemma Traffic.queue_effect (t : Traffic) (usable : Bool) (u : UrbId) (rv : Int) (c : CmndId) :
    (t.queue usable u rv c).2.active = some c ∧
      ∀ x ∈ (t.queue usable u rv c).2.done, x = c ∨ x ∈ t.done := by
  have hserves : (t.activate (some c)).Serves ((t.activate (some c)).trySubmit u rv c c) :=
    serves_followOn rfl (some u) rv c
  cases usable with
  | false => exact ⟨rfl, fun x hx => .inr hx⟩
  | true =>
    refine ⟨?_, fun x hx => ?_⟩
    · simp only [queue, Bool.true_eq_false, if_false, trySubmit]
      repeat' split
      all_goals rfl
    · rcases hserves.done x hx with h | h
      · exact .inr h
      · exact .inl (Option.some.inj h).symm

/-- Handing over a command while nothing is in flight: there is no data buffer, or
the CBW is submitted, or it is not. -/
lemma Traffic.queue_idle {t : Traffic} (hin : t.inflight = fun _ => none) (usable : Bool)
    (u : UrbId) (rv : Int) (c : CmndId) :
    usable = false ∧ t.queue usable u rv c = (-ENOMEM, t.activate (some c)) ∨
    usable = true ∧ rv = 0 ∧ t.queue usable u rv c = (0, (t.activate (some c)).launch u c) ∨
    usable = true ∧ rv ≠ 0 ∧ t.queue usable u rv c = (-ENOMEM, (t.activate (some c)).finish c) := by
  cases usable with
  | false => exact .inl ⟨rfl, rfl⟩
  | true =>
    by_cases hrv : rv = 0
    · exact .inr (.inl ⟨rfl, hrv, by simp [queue, trySubmit, hin, hrv]⟩)
    · exact .inr (.inr ⟨rfl, hrv, by simp [queue, trySubmit, hin, hrv]⟩)

section Alloc

variable (e : Env) (own : CmndId) (s : State)

lemma run_usbAllocCoherent_none {b : BufId} (h : e.coherent b = none) (n : ℕ) :
    run (sem e own) (usbAllocCoherent b n) s = .done none s := by
  refine (run_op _ _).trans ?_
  simp only [sem, h]

lemma run_usbAllocCoherent_some {b : BufId} {addr : ℕ} {found : ℕ → UInt8}
    (h : e.coherent b = some (addr, found)) (n : ℕ) :
    run (sem e own) (usbAllocCoherent b n) s =
      .done (some (s.ledger.next, addr)) (s.allocCoherent b n addr found) := by
  refine (run_op _ _).trans ?_
  simp only [sem, h]

@[simp] lemma run_kmalloc_none (h : e.kmalloc = none) (n : ℕ) :
    run (sem e own) (kmalloc n) s = .done none s := by
  refine (run_op _ _).trans ?_
  simp only [sem, h]

@[simp] lemma run_kmalloc_some {found : ℕ → UInt8} (h : e.kmalloc = some found) (n : ℕ) :
    run (sem e own) (kmalloc n) s = .done (some s.ledger.next)
      ((s.modLedger (·.acquire (.kmalloc n))).setBuf .data ((List.range n).map found)) := by
  refine (run_op _ _).trans ?_
  simp only [sem, h]

/-- Whether `queue_command` gets a usable data buffer for a transfer of `n` bytes. -/
def Env.usable (e : Env) (n : UInt32) : Bool := n == 0 || e.kmalloc.isSome

/-- The operations by which `queue_command` gets its data buffer. -/
def Op.OnlyData : Op → Prop
  | readDev | kmalloc _ => True
  | writeDev f => ∀ d, (f d).urb = d.urb ∧ (f d).count = d.count ∧
      ∀ b, b ≠ .data → (f d).buffer b = d.buffer b
  | usbAllocCoherent b _ => b = .data
  | _ => False

/-- Two states that differ at most in their data buffers. -/
structure SameButData (s s' : State) : Prop where
  traffic : s'.traffic = s.traffic
  cmnd : s'.cmnd = s.cmnd
  urb : s'.urb = s.urb
  urb_ptr : s'.dev.urb = s.dev.urb
  count : s'.dev.count = s.dev.count
  buffer : ∀ b, b ≠ .data → s'.dev.buffer b = s.dev.buffer b
  buf : ∀ b, b ≠ .data → s'.buf b = s.buf b

lemma sameButData_sem {t : State} {o : Op} (ho : o.OnlyData) (h : SameButData s t) :
    SameButData s (sem e own o t).state := by
  obtain ⟨ht, hcmnd, hurb, hptr, hcount, hbuffer, hbuf⟩ := h
  have hset (bs : List UInt8) (b : BufId) (hb : b ≠ .data) : (t.setBuf .data bs).buf b = s.buf b :=
    (Function.update_of_ne hb _ _).trans (hbuf b hb)
  cases o <;> simp only [Op.OnlyData] at ho
  case readDev => exact ⟨ht, hcmnd, hurb, hptr, hcount, hbuffer, hbuf⟩
  case writeDev f =>
    obtain ⟨hu, hk, hb⟩ := ho t.dev
    exact ⟨ht, hcmnd, hurb, hu.trans hptr, hk.trans hcount,
      fun b hne => (hb b hne).trans (hbuffer b hne), hbuf⟩
  case usbAllocCoherent b n =>
    subst ho
    simp only [sem]
    split <;> exact ⟨ht, hcmnd, hurb, hptr, hcount, hbuffer, hbuf⟩
  case kmalloc n =>
    simp only [sem]
    split
    · exact ⟨ht, hcmnd, hurb, hptr, hcount, hbuffer, hbuf⟩
    · exact ⟨ht, hcmnd, hurb, hptr, hcount, hbuffer, hset _⟩

lemma onlyData_allocDataBuffer (n : UInt32) : All Op.OnlyData (allocDataBuffer n) := by
  have hset (p : Option ℕ) (d : Dev) (b : BufId) (hb : b ≠ .data) :
      Function.update d.buffer .data p b = d.buffer b := Function.update_of_ne hb _ _
  simpa [allocDataBuffer, readDev, usbAllocCoherent, kmalloc, writeDev, Op.OnlyData,
    Dev.storeCoherent] using fun _ _ _ => ⟨hset _, fun _ => hset _⟩

/-- The allocations of `queue_command` change only the data buffer, and always return. -/
lemma run_allocDataBuffer (n : UInt32) (hn : s.dev.bufferlength = n) :
    ∃ s', run (sem e own) (allocDataBuffer n) s = .done (e.usable n) s' ∧ SameButData s s' := by
  have hsame : SameButData s (run (sem e own) (allocDataBuffer n) s).state :=
    (onlyData_allocDataBuffer n).run (I := SameButData s)
      (fun _ _ ho h => sameButData_sem e own s ho h)
      ⟨rfl, rfl, rfl, rfl, rfl, fun _ _ => rfl, fun _ _ => rfl⟩
  -- the frame is known, so it remains to show that the allocations return
  suffices h : ∃ s', run (sem e own) (allocDataBuffer n) s = .done (e.usable n) s' by
    obtain ⟨s', h⟩ := h
    exact ⟨s', h, by simpa [h] using hsame⟩
  by_cases h0 : n = 0
  · simp [allocDataBuffer, Env.usable, hn, h0]
  · -- what the coherent allocation returns is overwritten, so its result does not matter
    have hcoh : ∃ r t, run (sem e own) (usbAllocCoherent .data n.toNat) s = .done r t := by
      rcases hc : e.coherent .data with - | ⟨addr, found⟩
      · exact ⟨_, _, run_usbAllocCoherent_none e own s hc _⟩
      · exact ⟨_, _, run_usbAllocCoherent_some e own s hc _⟩
    obtain ⟨r, t, hcoh⟩ := hcoh
    cases hk : e.kmalloc <;> simp [allocDataBuffer, Env.usable, hn, h0, hcoh, hk]

/-- The device is set up for a transfer of `n` bytes: a data buffer, when there is one, has
that size. -/
def State.HasData (s : State) (n : UInt32) : Prop :=
  s.dev.bufferlength = n ∧
    (n ≠ 0 → s.dev.buffer .data ≠ none → (s.buf .data).length = n.toNat)

variable {e own s}

/-- The allocations leave the tag alone and set the data buffer up. -/
lemma hasData_allocDataBuffer {s' : State} {n : UInt32} {usable : Bool}
    (hn : s.dev.bufferlength = n)
    (hrun : run (sem e own) (allocDataBuffer n) s = .done usable s') :
    s'.dev.cbwTag = s.dev.cbwTag ∧ s'.HasData n ∧
      (usable = false → n ≠ 0 ∧ s'.dev.buffer .data = none) := by
  by_cases h0 : n = 0
  · obtain ⟨rfl, rfl⟩ : usable = true ∧ s = s' := by
      simpa [allocDataBuffer, hn, h0, eq_comm] using hrun
    exact ⟨rfl, ⟨hn, fun h => absurd h0 h⟩, fun h => (by cases h)⟩
  · have hcoh : ∃ r t, run (sem e own) (usbAllocCoherent .data n.toNat) s = .done r t ∧
        t.dev = s.dev := by
      rcases hc : e.coherent .data with - | ⟨addr, found⟩
      · exact ⟨_, _, run_usbAllocCoherent_none e own s hc _, rfl⟩
      · exact ⟨_, _, run_usbAllocCoherent_some e own s hc _, rfl⟩
    obtain ⟨r, t, hcoh, hdev⟩ := hcoh
    cases hk : e.kmalloc with
    | none =>
      simp only [allocDataBuffer, run_bind, run_readDev, hn, h0, if_false, hcoh, run_writeDev,
        run_kmalloc_none (h := hk), pure_eq, run_ret, Outcome.done.injEq] at hrun
      obtain ⟨-, rfl⟩ := hrun
      simp [State.HasData, Dev.storeCoherent, hdev, hn, h0]
    | some found =>
      simp only [allocDataBuffer, run_bind, run_readDev, hn, h0, if_false, hcoh, run_writeDev,
        run_kmalloc_some (h := hk), pure_eq, run_ret, Option.isSome_some,
        Outcome.done.injEq] at hrun
      obtain ⟨rfl, rfl⟩ := hrun
      simp [State.HasData, Dev.storeCoherent, hdev, hn]

end Alloc

lemma SameButData.shape {s s' : State} (h : SameButData s s') (hs : Shape s) : Shape s' :=
  hs.congr h.urb_ptr h.buffer h.urb (congrArg Traffic.inflight h.traffic) h.buf

/-! ## What is submitted -/

/-- The URB that an operation submits. -/
def Op.submits : Op → Option UrbId
  | usbSubmitUrb u => some u
  | _ => none

section Submits

variable {e : Env} {own : CmndId} {s : State} {α : Type} {p : Driver α}

/-- A function without a submission submits nothing. -/
lemma performed_submits (hp : All (fun o => o.submits = none) p) :
    performed (sem e own) Op.submits p s = [] :=
  hp.performed (f := Op.submits) s

@[simp] lemma performed_usbSubmitUrb (u : UrbId) :
    performed (sem e own) Op.submits (usbSubmitUrb u) s = [(u, s)] := performed_op

@[simp] lemma performed_usbFillBulkUrb (u : UrbId) (pipe : Pipe) (b : BufId) (len : UInt32)
    (cb : Callback) :
    performed (sem e own) Op.submits (usbFillBulkUrb u pipe b len cb) s = [] := performed_op

@[simp] lemma performed_readDev : performed (sem e own) Op.submits readDev s = [] := rfl

@[simp] lemma performed_writeDev (f : Dev → Dev) :
    performed (sem e own) Op.submits (writeDev f) s = [] := rfl

@[simp] lemma performed_readCmnd (c : CmndId) :
    performed (sem e own) Op.submits (readCmnd c) s = [] := rfl

@[simp] lemma performed_writeCmnd (c : CmndId) (f : Cmnd → Cmnd) :
    performed (sem e own) Op.submits (writeCmnd c f) s = [] := rfl

@[simp] lemma performed_setActiveScmd (c : Option CmndId) :
    performed (sem e own) Op.submits (setActiveScmd c) s = [] := rfl

@[simp] lemma performed_doneActive : performed (sem e own) Op.submits doneActive s = [] :=
  performed_submits (by simp [doneActive, activeScmd, scsiDone, Op.submits])

@[simp] lemma performed_useDma (u : UrbId) (b : BufId) :
    performed (sem e own) Op.submits (useDma u b) s = [] :=
  performed_submits (by
    simp [useDma, storeUrb, readDev, writeUrb, all_deref_bind, Op.submits])

@[simp] lemma performed_memcpyTo (b : BufId) (bs : List UInt8) :
    performed (sem e own) Op.submits (memcpyTo b bs) s = [] :=
  performed_submits (by simp [memcpyTo, readDev, writeBuf, all_deref_bind, Op.submits])

@[simp] lemma performed_allocDataBuffer (n : UInt32) :
    performed (sem e own) Op.submits (allocDataBuffer n) s = [] :=
  performed_submits (by
    simp [allocDataBuffer, readDev, usbAllocCoherent, kmalloc, writeDev, Op.submits])

end Submits

/-! ## queue_command -/

section QueueCommand

/-- The state in which `queue_command` asks for the data buffer. -/
def State.take (s : State) (c : CmndId) : State :=
  (s.modDev fun d =>
    { d with bufferlength := (s.cmnd c).length, direction := (s.cmnd c).scDataDirection }).setActive
      (some c)

/-- The state in which `queue_command` has wrapped the descriptor block of `sc`. -/
def State.wrap (s : State) (sc : Cmnd) : State :=
  let s := (s.modDev (Dev.wrapHeader sc)).modDev (Dev.wrapCdb sc)
  let b := (cbwUrb s.dev.count).buf
  s.setBuf b (overwrite (s.buf b) s.dev.cbw.bytes)

@[simp] lemma cbwUrb_callback (n : ℕ) : (cbwUrb n).callback = .cbwCallback := by
  unfold cbwUrb
  split <;> rfl

@[simp] lemma cbwUrb_buf_ne_data (n : ℕ) : (cbwUrb n).buf ≠ .data := by
  unfold cbwUrb
  split <;> simp [UrbId.buf]

lemma wrapped_signature (d : Dev) (sc : Cmnd) (old : List UInt8) :
    (CommandBlockWrapper.ofBytes
      (overwrite old ((d.wrapHeader sc).wrapCdb sc).cbw.bytes)).dCBWSignature = CBW_SIG := by
  simp [overwrite, CommandBlockWrapper.signature_append, Dev.wrapCdb, Dev.wrapHeader, cbwHeader]

lemma wrap_signature (s : State) (sc : Cmnd) :
    (CommandBlockWrapper.ofBytes ((s.wrap sc).buf (cbwUrb s.dev.count).buf)).dCBWSignature =
      CBW_SIG := by
  have hcount : ((s.dev.wrapHeader sc).wrapCdb sc).count = s.dev.count := rfl
  simp [State.wrap, hcount, wrapped_signature]

lemma Shape.wrap {s : State} (hs : Shape s) (sc : Cmnd) : Shape (s.wrap sc) := by
  have hs' : Shape ((s.modDev (Dev.wrapHeader sc)).modDev (Dev.wrapCdb sc)) :=
    hs.congr rfl (fun _ _ => rfl) rfl rfl fun _ _ => rfl
  exact hs'.setBuf_cbw _ (wrapped_signature s.dev sc _)

variable (e : Env) (c : CmndId) {s : State}

/-- Without a data buffer the command is refused, and no tag is used up. -/
lemma run_queueCommand_refused (hu : e.usable (s.cmnd c).length = false) :
    ∃ s', run (sem e c) (queueCommand c) s = .done (-ENOMEM) s' ∧ SameButData (s.take c) s' ∧
      s'.dev.cbwTag = s.dev.cbwTag ∧ s'.HasData (s.cmnd c).length ∧
      (s.cmnd c).length ≠ 0 ∧ s'.dev.buffer .data = none := by
  obtain ⟨s', hrun, hsame⟩ := run_allocDataBuffer e c (s.take c) (s.cmnd c).length rfl
  obtain ⟨htag, hdata, hnone⟩ := hasData_allocDataBuffer (s := s.take c) rfl hrun
  refine ⟨s', ?_, hsame, htag, hdata, hnone hu⟩
  rw [State.take] at hrun
  simp [queueCommand, hrun, hu]

/-- Nor is anything submitted then. -/
lemma performed_queueCommand_refused (hu : e.usable (s.cmnd c).length = false) :
    performed (sem e c) Op.submits (queueCommand c) s = [] := by
  obtain ⟨s', hrun, -⟩ := run_allocDataBuffer e c (s.take c) (s.cmnd c).length rfl
  rw [State.take] at hrun
  simp [queueCommand, performed_bind, hrun, hu]

lemma run_queueCommand_unusable (hu : e.usable (s.cmnd c).length = false) :
    ∃ s', run (sem e c) (queueCommand c) s = .done (-ENOMEM) s' ∧ SameButData (s.take c) s' := by
  obtain ⟨s', hrun, hsame, -⟩ := run_queueCommand_refused e c hu
  exact ⟨s', hrun, hsame⟩

/-- With a data buffer the wrapped command is submitted, by the URB that `count` selects; when
that fails the command is completed with an error and refused as well.  Nothing but the pointers
to the URBs and to the buffers of the wrappers matters. -/
lemma run_queueCommand_of_ptr (hurb : ∀ u, s.dev.urb u ≠ none)
    (hbuf : ∀ b, b ≠ .data → s.dev.buffer b ≠ none) (hu : e.usable (s.cmnd c).length = true) :
    ∃ s', SameButData (s.take c) s' ∧ s'.dev.cbwTag = s.dev.cbwTag ∧
      s'.HasData (s.cmnd c).length ∧ ∀ u s₁, u = cbwUrb s.dev.count →
      s₁ = (s'.wrap (s.cmnd c)).ready u ⟨false, s'.dev.bulkOutEndpointaddr⟩ (.ofNat CBW_LEN)
        .cbwCallback →
      performed (sem e c) Op.submits (queueCommand c) s = [(u, s₁)] ∧
      run (sem e c) (queueCommand c) s =
        if s₁.submitValue e u = 0 then
          .done 0 ((s₁.submit e c u).modCmnd c fun x => { x with result := samStatGood })
        else .done (-ENOMEM) ((s₁.submit e c u).finish c didError) := by
  obtain ⟨s', hrun, hsame⟩ := run_allocDataBuffer e c (s.take c) (s.cmnd c).length rfl
  have hc : s'.activeScmd = some c := congrArg Traffic.active hsame.traffic
  have hcount : s.dev.count = s'.dev.count := hsame.count.symm
  have hurb' (u : UrbId) : s'.dev.urb u ≠ none := hsame.urb_ptr ▸ hurb u
  have hbuf' (b : BufId) (hb : b ≠ .data) : s'.dev.buffer b ≠ none :=
    hsame.buffer b hb ▸ hbuf b hb
  obtain ⟨htag, hdata, -⟩ := hasData_allocDataBuffer (s := s.take c) rfl hrun
  refine ⟨s', hsame, htag, hdata, ?_⟩
  rintro u s₁ rfl rfl
  rw [State.take] at hrun
  constructor
  · simp [queueCommand, performed_bind, hrun, hu, hurb', hbuf', hc, hcount, Dev.wrapHeader,
      Dev.wrapCdb, State.fillBulkUrb, State.wrap, State.ready]
  · simp [queueCommand, hrun, hu, hurb', hbuf', hc, hcount, Dev.wrapHeader, Dev.wrapCdb,
      State.fillBulkUrb, State.wrap, State.ready, State.finish]

/-- On a device between two calls that is also how its shape is kept. -/
lemma run_queueCommand (hs : Shape s) (hu : e.usable (s.cmnd c).length = true) :
    ∃ s', SameButData (s.take c) s' ∧ Shape s' ∧ ∀ u s₁, u = cbwUrb s.dev.count →
      s₁ = (s'.wrap (s.cmnd c)).ready u ⟨false, s'.dev.bulkOutEndpointaddr⟩ (.ofNat CBW_LEN)
        .cbwCallback →
      run (sem e c) (queueCommand c) s =
        if s₁.submitValue e u = 0 then
          .done 0 ((s₁.submit e c u).modCmnd c fun x => { x with result := samStatGood })
        else .done (-ENOMEM) ((s₁.submit e c u).finish c didError) := by
  obtain ⟨s', hsame, -, -, hrun⟩ := run_queueCommand_of_ptr e c hs.urb_ptr hs.buf_ptr hu
  exact ⟨s', hsame, hsame.shape (hs.congr rfl (fun _ _ => rfl) rfl rfl fun _ _ => rfl),
    fun u s₁ hu hs₁ => (hrun u s₁ hu hs₁).2⟩

/-- **`queue_command`** always returns, keeps the shape of the device, and is the
move `Traffic.queue`. -/
theorem traffic_queueCommand (hs : Shape s) :
    ∃ rv s', run (sem e c) (queueCommand c) s = .done rv s' ∧ Shape s' ∧
      (rv, s'.traffic) = s.traffic.queue (e.usable (s.cmnd c).length) (cbwUrb s.dev.count)
        e.submit c := by
  cases hu : e.usable (s.cmnd c).length with
  | false =>
    obtain ⟨s', hrun, hsame⟩ := run_queueCommand_unusable e c hu
    exact ⟨_, s', hrun, hsame.shape (hs.congr rfl (fun _ _ => rfl) rfl rfl fun _ _ => rfl),
      by
        rw [Traffic.queue, if_pos rfl, hsame.traffic]
        rfl⟩
  | true =>
    obtain ⟨s', hsame, hs', hrun⟩ := run_queueCommand e c hs hu
    -- `u` and `s₁` as variables keep `simp` from unfolding what was submitted
    obtain ⟨u, hu⟩ : ∃ u, u = cbwUrb s.dev.count := ⟨_, rfl⟩
    obtain ⟨s₁, hs₁⟩ : ∃ s₁, s₁ = (s'.wrap (s.cmnd c)).ready u ⟨false, s'.dev.bulkOutEndpointaddr⟩
      (.ofNat CBW_LEN) .cbwCallback := ⟨_, rfl⟩
    have hcb : u.callback = .cbwCallback := hu ▸ cbwUrb_callback _
    have hcount : s'.dev.count = s.dev.count := hsame.count
    have ht : (s'.wrap (s.cmnd c)).traffic = s.traffic.activate (some c) := hsame.traffic
    have hin : s₁.inflight = s.inflight := hs₁ ▸ congrArg Traffic.inflight hsame.traffic
    have hfilled : (s₁.urb u).complete ≠ none := by simp [hs₁, State.ready, State.fillBulkUrb]
    have hshape : Shape s₁ := by
      rw [hs₁, ← hcb]
      refine (hs'.wrap (s.cmnd c)).ready u (.inr ⟨?_, rfl⟩) fun _ => ?_
      · rintro rfl
        cases hcb
      · rw [hu, ← hcount]
        exact wrap_signature s' (s.cmnd c)
    have hsubmit := (s'.wrap (s.cmnd c)).traffic_ready_submit e c c u
      ⟨false, s'.dev.bulkOutEndpointaddr⟩ (.ofNat CBW_LEN) .cbwCallback
    rw [← hs₁, ht, State.submitOrFail] at hsubmit
    have hval : (s.traffic.inflight u = none ∧ e.submit = 0) ↔ s₁.submitValue e u = 0 := by
      rw [submitValue_eq_zero, hin]
      rfl
    rw [hrun u s₁ hu hs₁, ← hu]
    simp only [Traffic.queue, Bool.true_eq_false, if_false, hval, ← hsubmit]
    by_cases hrv : s₁.submitValue e u = 0 <;> simp only [hrv, if_true, if_false]
    · exact ⟨0, _, rfl, (hshape.submit hfilled).modCmnd c _, rfl⟩
    · exact ⟨-ENOMEM, _, rfl, (hshape.submit hfilled).finish c _, rfl⟩

end QueueCommand

end KernelDriverLab.UsbV1
