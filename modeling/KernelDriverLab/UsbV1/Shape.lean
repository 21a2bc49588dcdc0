import KernelDriverLab.UsbV1.Operations

/-!
# What the completion functions and the error handlers leave alone

`Op.Tame` bounds the operations of the completion functions and of the error
handlers: they allocate and free nothing, they write no buffer but `csw_buffer`,
and they fill only `data_urb` and `csw_urb`.  From it follow, by the frame rule,
the two facts that every later proof about whole runs rests on.  `Frame` says
what such a function does not change at all, and `Shape` says how the URBs of a
device are set up whenever no function is running.
-/

namespace KernelDriverLab.UsbV1

open Lib Prog

/-! ## Tame operations -/

/-- Two device structures with the same pointers and the same transfer. -/
structure Dev.Same (d d' : Dev) : Prop where
  udev : d'.udev = d.udev
  bufferlength : d'.bufferlength = d.bufferlength
  direction : d'.direction = d.direction
  urb : d'.urb = d.urb
  buffer : d'.buffer = d.buffer
  dma : d'.dma = d.dma

lemma Dev.Same.refl (d : Dev) : d.Same d := ⟨rfl, rfl, rfl, rfl, rfl, rfl⟩

lemma Dev.Same.trans {d₁ d₂ d₃ : Dev} (h : d₁.Same d₂) (h' : d₂.Same d₃) : d₁.Same d₃ :=
  ⟨h'.udev.trans h.udev, h'.bufferlength.trans h.bufferlength, h'.direction.trans h.direction,
    h'.urb.trans h.urb, h'.buffer.trans h.buffer, h'.dma.trans h.dma⟩

/-- How the fields of an URB may change outside `usb_fill_bulk_urb`. -/
structure Urb.Same (r r' : Urb) : Prop where
  complete : r'.complete = r.complete
  transferBuffer : r'.transferBuffer = r.transferBuffer
  pipe : r'.pipe = r.pipe
  transferBufferLength : r'.transferBufferLength = r.transferBufferLength
  context : r.context = true → r'.context = true

/-- The operations of the error handlers. -/
@[simp] def Op.Tame : Op → Prop
  | writeDev f => ∀ d, Dev.Same d (f d)
  | writeUrb _ f => ∀ r, Urb.Same r (f r)
  | writeBuf b _ => b = .csw
  | usbFillBulkUrb u pipe b len cb =>
      (u = .csw ∧ pipe.dirIn = true ∧ len = .ofNat CSW_LEN ∨ u = .data ∧ pipe.dirIn = false) ∧
        b = u.buf ∧ cb = u.callback
  | usbAllocUrb _ | usbFreeUrb _ | usbAllocCoherent _ _ | usbFreeCoherent _ _ | kmalloc _ => False
  | usbGetDev | usbPutDev | usbSetIntfdata _ | scsiHostAlloc | scsiHostPut _ => False
  | _ => True

/-- The URB that an operation kills. -/
@[simp] def Op.kills : Op → Option UrbId
  | usbKillUrb u => some u
  | _ => none

/-- The operation kills no URB. -/
@[simp] def Op.NoKill (o : Op) : Prop := o.kills = none

/-- The operations of the completion functions, which kill nothing. -/
@[simp] def Op.Mild (o : Op) : Prop := o.Tame ∧ o.NoKill

section Tame

lemma Op.Routine.mild {o : Op} (ho : o.Routine) : o.Mild := by
  cases ho with
  | markUrb u n => exact ⟨fun _ => ⟨rfl, rfl, rfl, rfl, fun _ => rfl⟩, rfl⟩
  | useDma u a => exact ⟨fun _ => ⟨rfl, rfl, rfl, rfl, id⟩, rfl⟩
  | _ => simp

lemma Op.Sends.mild {o : Op} (ho : o.Sends) : o.Mild := by
  cases ho with
  | setCount => exact ⟨fun _ => ⟨rfl, rfl, rfl, rfl, rfl, rfl⟩, rfl⟩
  | _ => simp [UrbId.buf, UrbId.callback]

lemma mild_callback (cb : Callback) (u : UrbId) : All Op.Mild (cb.body u) :=
  all_callback (fun _ ho => ho.mild) (by simp) (by simp) (by simp) (by simp) (fun _ ho => ho.mild)
    cb u

lemma tame_callback (cb : Callback) (u : UrbId) : All Op.Tame (cb.body u) :=
  (mild_callback cb u).mono fun _ h => h.1

lemma tame_handler (h : Handler) (c : CmndId) : All Op.Tame (h.body c) :=
  all_handler (fun _ ho => ho.mild.1) (by simp) (by simp) (by simp)
    (fun _ => ⟨rfl, rfl, rfl, rfl, rfl, rfl⟩) (by simp) h c

end Tame

/-! ## The frame of a tame function -/

/-- What the completion functions and the error handlers do not change. -/
structure Frame (s s' : State) : Prop where
  dev : s.dev.Same s'.dev
  buf : ∀ b, b ≠ .csw → s'.buf b = s.buf b
  dmaMem : s'.dmaMem = s.dmaMem
  fresh : s'.fresh = s.fresh
  ledger : s'.ledger = s.ledger
  host : s'.host = s.host

namespace Frame

lemma refl (s : State) : Frame s s := ⟨.refl _, fun _ _ => rfl, rfl, rfl, rfl, rfl⟩

lemma trans {s₁ s₂ s₃ : State} (h : Frame s₁ s₂) (h' : Frame s₂ s₃) : Frame s₁ s₃ :=
  ⟨h.dev.trans h'.dev, fun b hb => (h'.buf b hb).trans (h.buf b hb), h'.dmaMem.trans h.dmaMem,
    h'.fresh.trans h.fresh, h'.ledger.trans h.ledger, h'.host.trans h.host⟩

end Frame

lemma frame_sem {e : Env} {own : CmndId} {s : State} {o : Op} (ho : o.Tame) :
    Frame s (sem e own o s).state := by
  cases o <;> simp only [sem, Op.Tame] at ho ⊢
  case writeDev f => exact ⟨ho s.dev, fun _ _ => rfl, rfl, rfl, rfl, rfl⟩
  case writeBuf b bs =>
    subst ho
    exact ⟨.refl _, fun b hb => Function.update_of_ne hb _ _, rfl, rfl, rfl, rfl⟩
  case sgVirt | readCsw | usbFillBulkUrb | usbSubmitUrb | scsiDone =>
    repeat' split
    all_goals exact ⟨.refl _, fun _ _ => rfl, rfl, rfl, rfl, rfl⟩
  all_goals exact ⟨.refl _, fun _ _ => rfl, rfl, rfl, rfl, rfl⟩

/-- A tame function changes nothing outside its frame. -/
theorem frame_run {e : Env} {own : CmndId} {α : Type} {p : Driver α} (hp : All Op.Tame p)
    (s : State) : Frame s (run (sem e own) p s).state :=
  hp.run (I := Frame s) (fun _ _ ho h => h.trans (frame_sem ho)) (.refl s)

/-! ## The shape of a device -/

/-- How an URB is set up: as allocated, or filled for its own buffer and its own
completion function. -/
structure UrbShape (u : UrbId) (r : Urb) : Prop where
  complete : r.complete = none ∨ r.complete = some u.callback ∧ r.context = true
  buffer : r.complete ≠ none → u ≠ .data → r.transferBuffer = some u.buf
  transferBuffer : r.transferBuffer = none ∨ r.transferBuffer = some u.buf
  unfilled : r.complete = none → r.transferBuffer = none
  dirIn : r.pipe.dirIn = true → u = .csw
  /-- `csw_urb` asks for a status wrapper. -/
  status : r.complete ≠ none → u = .csw →
    r.pipe.dirIn = true ∧ r.transferBufferLength = .ofNat CSW_LEN

lemma UrbShape.same {u : UrbId} {r r' : Urb} (h : UrbShape u r) (hr : r.Same r') :
    UrbShape u r' where
  complete := by
    rw [hr.complete]
    exact h.complete.imp_right fun hc => ⟨hc.1, hr.context hc.2⟩
  buffer := by
    rw [hr.complete, hr.transferBuffer]
    exact h.buffer
  transferBuffer := hr.transferBuffer ▸ h.transferBuffer
  unfilled := by
    rw [hr.complete, hr.transferBuffer]
    exact h.unfilled
  dirIn := hr.pipe ▸ h.dirIn
  status := by
    rw [hr.complete, hr.pipe, hr.transferBufferLength]
    exact h.status

/-- The device between two calls of the driver. -/
structure Shape (s : State) : Prop where
  urb_ptr : ∀ u, s.dev.urb u ≠ none
  buf_ptr : ∀ b, b ≠ .data → s.dev.buffer b ≠ none
  urb : ∀ u, UrbShape u (s.urb u)
  filled : ∀ u, s.inflight u ≠ none → (s.urb u).complete ≠ none
  /-- A CBW URB that has ever been filled has a wrapper in its buffer. -/
  signature : ∀ u, u.callback = .cbwCallback → (s.urb u).complete ≠ none →
    (CommandBlockWrapper.ofBytes (s.buf u.buf)).dCBWSignature = CBW_SIG

namespace Shape

variable {s : State}

/-- An URB in flight will run its own completion function. -/
lemma complete_eq (hs : Shape s) {u : UrbId} (hu : (s.urb u).complete ≠ none) :
    (s.urb u).complete = some u.callback ∧ (s.urb u).context = true :=
  (hs.urb u).complete.resolve_left hu

lemma modUrb (hs : Shape s) (u : UrbId) {f : Urb → Urb} (hf : ∀ r : Urb, r.Same (f r)) :
    Shape (s.modUrb u f) where
  urb_ptr := hs.urb_ptr
  buf_ptr := hs.buf_ptr
  urb v := by
    by_cases h : v = u
    · subst h
      simpa using (hs.urb v).same (hf _)
    · simpa [h] using hs.urb v
  filled v hv := by
    by_cases h : v = u
    · subst h
      simpa [(hf _).complete] using hs.filled v hv
    · simpa [h] using hs.filled v hv
  signature v hv := by
    by_cases h : v = u
    · subst h
      simpa [(hf _).complete] using hs.signature v hv
    · simpa [h] using hs.signature v hv

/-- The shape does not depend on the data buffer. -/
lemma congr {s' : State} (hs : Shape s) (hurb : s'.dev.urb = s.dev.urb)
    (hbuffer : ∀ b, b ≠ .data → s'.dev.buffer b = s.dev.buffer b) (hu : s'.urb = s.urb)
    (hin : s'.inflight = s.inflight) (hbuf : ∀ b, b ≠ .data → s'.buf b = s.buf b) : Shape s' where
  urb_ptr u := hurb ▸ hs.urb_ptr u
  buf_ptr b hb := hbuffer b hb ▸ hs.buf_ptr b hb
  urb := hu ▸ hs.urb
  filled u := by
    rw [hin, hu]
    exact hs.filled u
  signature u hcb := by
    have hb : u.buf ≠ .data := by cases u <;> simp [UrbId.callback, UrbId.buf] at hcb ⊢
    rw [hu, hbuf _ hb]
    exact hs.signature u hcb

lemma modDev (hs : Shape s) {f : Dev → Dev} (hf : s.dev.Same (f s.dev)) : Shape (s.modDev f) where
  urb_ptr u := by simpa [hf.urb] using hs.urb_ptr u
  buf_ptr b hb := by simpa [hf.buffer] using hs.buf_ptr b hb
  urb := hs.urb
  filled := hs.filled
  signature := hs.signature

lemma modCmnd (hs : Shape s) (c : CmndId) (f : Cmnd → Cmnd) : Shape (s.modCmnd c f) :=
  ⟨hs.urb_ptr, hs.buf_ptr, hs.urb, hs.filled, hs.signature⟩

lemma addDone (hs : Shape s) (c : CmndId) : Shape (s.addDone c) :=
  ⟨hs.urb_ptr, hs.buf_ptr, hs.urb, hs.filled, hs.signature⟩

lemma finish (hs : Shape s) (c : CmndId) (r : ℕ) : Shape (s.finish c r) :=
  ⟨hs.urb_ptr, hs.buf_ptr, hs.urb, hs.filled, hs.signature⟩

lemma setBuf_csw (hs : Shape s) (bs : List UInt8) : Shape (s.setBuf .csw bs) where
  urb_ptr := hs.urb_ptr
  buf_ptr := hs.buf_ptr
  urb := hs.urb
  filled := hs.filled
  signature u hu hc := by
    have hb : u.buf ≠ .csw := by cases u <;> simp [UrbId.callback, UrbId.buf] at hu ⊢
    simpa [hb] using hs.signature u hu hc

/-- A buffer may always be given another command block wrapper. -/
lemma setBuf_cbw (hs : Shape s) (b : BufId) {bs : List UInt8}
    (hsig : (CommandBlockWrapper.ofBytes bs).dCBWSignature = CBW_SIG) : Shape (s.setBuf b bs) where
  urb_ptr := hs.urb_ptr
  buf_ptr := hs.buf_ptr
  urb := hs.urb
  filled := hs.filled
  signature u hcb hc := by
    by_cases h : u.buf = b
    · simpa [h] using hsig
    · simpa [h] using hs.signature u hcb hc

lemma setInflight (hs : Shape s) (u : UrbId) {c : Option CmndId}
    (hc : c ≠ none → (s.urb u).complete ≠ none) : Shape (s.setInflight u c) where
  urb_ptr := hs.urb_ptr
  buf_ptr := hs.buf_ptr
  urb := hs.urb
  filled v hv := by
    by_cases h : v = u
    · subst h
      exact hc (by simpa using hv)
    · exact hs.filled v (by simpa [h] using hv)
  signature := hs.signature

/-- Filling an URB for its own buffer and completion function. -/
lemma fill (hs : Shape s) (u : UrbId) {pipe : Pipe} {len : UInt32}
    (hp : u = .csw ∧ pipe.dirIn = true ∧ len = .ofNat CSW_LEN ∨ u ≠ .csw ∧ pipe.dirIn = false)
    (hsig : u.callback = .cbwCallback →
      (CommandBlockWrapper.ofBytes (s.buf u.buf)).dCBWSignature = CBW_SIG) :
    Shape (s.fillBulkUrb u pipe u.buf len u.callback) where
  urb_ptr := hs.urb_ptr
  buf_ptr := hs.buf_ptr
  urb v := by
    by_cases h : v = u
    · subst h
      have hptr : v ≠ .data → ∃ i, s.dev.buffer v.buf = some i := fun hv =>
        Option.ne_none_iff_exists'.1 (hs.buf_ptr _ (by cases v <;> simp [UrbId.buf] at hv ⊢))
      refine ⟨.inr ⟨by simp [State.fillBulkUrb], by simp [State.fillBulkUrb]⟩, fun _ hv => ?_, ?_,
        by simp [State.fillBulkUrb], ?_, fun _ hv => ?_⟩
      · obtain ⟨i, hi⟩ := hptr hv
        simp [State.fillBulkUrb, hi]
      · cases hb : s.dev.buffer v.buf <;> simp [State.fillBulkUrb, hb]
      · rcases hp with ⟨hv, -, -⟩ | ⟨-, hdir⟩
        · exact fun _ => hv
        · simp [State.fillBulkUrb, hdir]
      · rcases hp with ⟨-, hdir, hlen⟩ | ⟨hne, -⟩
        · simp [State.fillBulkUrb, hdir, hlen]
        · exact absurd hv hne
    · simpa [State.fillBulkUrb, h] using hs.urb v
  filled v hv := by
    by_cases h : v = u
    · subst h
      simp [State.fillBulkUrb]
    · simpa [State.fillBulkUrb, h] using hs.filled v hv
  signature v hv := by
    by_cases h : v = u
    · subst h
      exact fun _ => hsig hv
    · simpa [State.fillBulkUrb, h] using hs.signature v hv

lemma noteClash (hs : Shape s) (u : UrbId) : Shape (s.noteClash u) :=
  ⟨hs.urb_ptr, hs.buf_ptr, hs.urb, hs.filled, hs.signature⟩

lemma ready (hs : Shape s) (u : UrbId) {pipe : Pipe} {len : UInt32}
    (hp : u = .csw ∧ pipe.dirIn = true ∧ len = .ofNat CSW_LEN ∨ u ≠ .csw ∧ pipe.dirIn = false)
    (hsig : u.callback = .cbwCallback →
      (CommandBlockWrapper.ofBytes (s.buf u.buf)).dCBWSignature = CBW_SIG) :
    Shape (s.ready u pipe len u.callback) :=
  ((hs.noteClash u).fill u hp hsig).modUrb u fun _ => ⟨rfl, rfl, rfl, rfl, id⟩

/-- What `usb_submit_urb` does to an URB that has been filled. -/
lemma submit (hs : Shape s) {e : Env} {own : CmndId} {u : UrbId} (hu : (s.urb u).complete ≠ none) :
    Shape (s.submit e own u) := by
  unfold State.submit
  repeat' split
  · exact hs.setInflight u fun _ => hu
  · exact hs
  · exact ⟨hs.urb_ptr, hs.buf_ptr, hs.urb, hs.filled, hs.signature⟩

end Shape

lemma shape_sem {e : Env} {own : CmndId} {s : State} {o : Op} (ho : o.Tame) (hs : Shape s) :
    Shape (sem e own o s).state := by
  cases o <;> simp only [sem, Op.Tame] at ho ⊢
  case writeDev f => exact hs.modDev (ho _)
  case writeUrb u f => exact hs.modUrb u ho
  case writeBuf b bs =>
    subst ho
    exact hs.setBuf_csw _
  case usbFillBulkUrb u pipe b len cb =>
    obtain ⟨hu, rfl, rfl⟩ := ho
    split
    · exact hs
    · refine (hs.noteClash u).fill u (hu.imp_right fun h => ⟨by simp [h.1], h.2⟩) fun hcb => ?_
      rcases hu with ⟨rfl, -⟩ | ⟨rfl, -⟩ <;> cases hcb
  case usbSubmitUrb u =>
    split
    · exact hs.noteClash u
    · rename_i h
      split
      · exact hs.noteClash u
      · split
        · exact hs.setInflight u fun _ => (not_or.1 h).2
        · exact hs
  case sgVirt c => split <;> exact hs
  case readCsw p => cases p <;> exact hs
  case scsiDone c => cases c <;> exact ⟨hs.urb_ptr, hs.buf_ptr, hs.urb, hs.filled, hs.signature⟩
  all_goals exact ⟨hs.urb_ptr, hs.buf_ptr, hs.urb, hs.filled, hs.signature⟩

/-- A tame function keeps the shape. -/
theorem shape_run {e : Env} {own : CmndId} {α : Type} {p : Driver α} (hp : All Op.Tame p)
    {s : State} (hs : Shape s) : Shape (run (sem e own) p s).state :=
  hp.run (fun _ _ ho h => shape_sem ho h) hs

/-! ## Completions and kills -/

namespace Shape

variable {s : State}

/-- A device stores nothing but status wrappers. -/
lemma receive_eq (hs : Shape s) (u : UrbId) (received : List UInt8) :
    s.receive u received = s ∨
      u = .csw ∧ s.receive u received = s.setBuf .csw
        (overwrite (s.buf .csw) (received.take (s.urb .csw).transferBufferLength.toNat)) := by
  cases hdir : (s.urb u).pipe.dirIn with
  | false => exact .inl (by simp [State.receive, hdir])
  | true =>
    obtain rfl := (hs.urb u).dirIn hdir
    rcases (hs.urb .csw).transferBuffer with hb | hb
    · exact .inl (by simp [State.receive, hdir, hb])
    · exact .inr ⟨rfl, by simp [State.receive, hdir, hb, UrbId.buf]⟩

/-- Nothing but `csw_urb` changes a buffer when it is given back. -/
lemma giveBack_buf (hs : Shape s) {u : UrbId} (hu : u ≠ .csw) (status : Int) (n : UInt32)
    (received : List UInt8) : (s.giveBack u status n received).buf = s.buf := by
  rcases hs.receive_eq u received with h | ⟨h, -⟩
  · simp [State.giveBack, h]
  · exact absurd h hu

/-- A filled `csw_urb` that is given back has stored a status wrapper. -/
lemma giveBack_csw (hs : Shape s) (hc : (s.urb .csw).complete ≠ none) (status : Int) (n : UInt32)
    (received : List UInt8) : (s.giveBack .csw status n received).buf .csw =
      overwrite (s.buf .csw) (received.take CSW_LEN) := by
  obtain ⟨hdir, hlen⟩ := (hs.urb .csw).status hc rfl
  have hbuf : (s.urb .csw).transferBuffer = some .csw := (hs.urb .csw).buffer hc (by simp)
  simp [State.giveBack, State.receive, hdir, hlen, hbuf, CSW_LEN]

lemma frame_giveBack (hs : Shape s) (u : UrbId) (status : Int) (n : UInt32)
    (received : List UInt8) : Frame s (s.giveBack u status n received) := by
  unfold State.giveBack
  rcases hs.receive_eq u received with h | ⟨-, h⟩ <;> rw [h]
  · exact ⟨.refl _, fun _ _ => rfl, rfl, rfl, rfl, rfl⟩
  · exact ⟨.refl _, fun b hb => Function.update_of_ne hb _ _, rfl, rfl, rfl, rfl⟩

lemma giveBack (hs : Shape s) (u : UrbId) (status : Int) (n : UInt32) (received : List UInt8) :
    Shape (s.giveBack u status n received) := by
  have hr : Shape (s.receive u received) := by
    rcases hs.receive_eq u received with h | ⟨-, h⟩ <;> rw [h]
    · exact hs
    · exact hs.setBuf_csw _
  exact (hr.modUrb u (f := fun r => { r with status := status, actualLength := n })
    fun _ => ⟨rfl, rfl, rfl, rfl, id⟩).setInflight u fun h => absurd rfl h

end Shape

section Completion

variable {e : Env} {u : UrbId} {c own : CmndId} {s : State}

/-- The completion function that runs for an URB that was filled is the one the
driver gives to it. -/
lemma runCallback_eq (hu : (s.urb u).complete = some u.callback) :
    runCallback e u c s = run (sem e c) (u.callback.body u) s := by
  rw [runCallback, hu]

lemma frame_runCallback : Frame s (runCallback e u c s).state := by
  unfold runCallback
  split
  · exact .refl s
  · exact frame_run (tame_callback _ u) s

lemma Shape.runCallback (hs : Shape s) : Shape (runCallback e u c s).state := by
  unfold UsbV1.runCallback
  split
  · exact hs
  · exact shape_run (tame_callback _ u) hs

lemma killSem_keeps (hs : Shape s) {o : Op} (ho : o.Tame) :
    Frame s (killSem e own o s).state ∧ Shape (killSem e own o s).state := by
  by_cases hkill : ∃ u, o = .usbKillUrb u
  · obtain ⟨u, rfl⟩ := hkill
    rw [killSem_kill]
    split
    · exact ⟨.refl s, hs⟩
    · exact ⟨(hs.frame_giveBack u _ 0 []).trans frame_runCallback,
        (hs.giveBack u _ 0 []).runCallback⟩
  · rw [killSem_of_ne e own (not_exists.1 hkill)]
    exact ⟨frame_sem ho, shape_sem ho hs⟩

/-- The error handlers keep the frame and the shape. -/
theorem runHandler_keeps (hs : Shape s) (h : Handler) :
    Frame s (runHandler h c e s).state ∧ Shape (runHandler h c e s).state := by
  refine (tame_handler h c).run (I := fun t => Frame s t ∧ Shape t) ?_ ⟨.refl s, hs⟩
  rintro o t ho ⟨hframe, hshape⟩
  obtain ⟨hframe', hshape'⟩ : Frame t (killSem e c o t).state ∧ Shape (killSem e c o t).state :=
    killSem_keeps hshape ho
  exact ⟨hframe.trans hframe', hshape'⟩

end Completion

end KernelDriverLab.UsbV1
