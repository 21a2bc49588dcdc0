import KernelDriverLab.Lib.Protocol
import KernelDriverLab.UsbV1.Interleaving
import KernelDriverLab.UsbV1.Operations

/-!
# The shape of a device under interleaving

A CBW URB is filled only when a wrapper is in its buffer.  Under interleaving that is a matter
of what a thread of `queue_command` knows while it goes on: that `dev->cbw` has a signature once
it has stored one there, and that a buffer begins with a wrapper once it has copied one to it.
No other thread undoes either, so the URBs of a device are set up in every interleaving as they
are between two calls.
-/

namespace KernelDriverLab.UsbV1

open Lib Prog

/-! ## What a thread knows -/

/-- What a thread knows about the wrappers: `dev->cbw` has a signature, and the buffers of the
URBs in `written` begin with one. -/
structure Known where
  header : Prop
  written : UrbId → Prop

/-- The knowledge is right. -/
structure Known.Holds (i : Known) (s : State) : Prop where
  header : i.header → s.dev.cbw.dCBWSignature = CBW_SIG
  written : ∀ u, u.callback = .cbwCallback → i.written u →
    (CommandBlockWrapper.ofBytes (s.buf u.buf)).dCBWSignature = CBW_SIG

/-- What is known at the start of a function. -/
def Known.nothing : Known := ⟨False, fun _ => False⟩

lemma Known.holds_nothing (s : State) : Known.nothing.Holds s :=
  ⟨False.elim, fun _ _ => False.elim⟩

/-- A buffer begins with a signature after these bytes have been copied to its start. -/
def Signs (bs : List UInt8) : Prop :=
  ∀ old, (CommandBlockWrapper.ofBytes (overwrite old bs)).dCBWSignature = CBW_SIG

/-- A change of the device structure that keeps the pointers that a `Shape` is about, and the
signature. -/
structure Dev.Kept (d d' : Dev) : Prop where
  urb : d'.urb = d.urb
  buffer : ∀ b, b ≠ .data → d'.buffer b = d.buffer b
  signature : d.cbw.dCBWSignature = CBW_SIG → d'.cbw.dCBWSignature = CBW_SIG

/-- The operations of a thread that knows `i`. -/
@[simp] def Known.allow (i : Known) : Op → Prop
  | .writeDev f => ∀ d, Dev.Kept d (f d)
  | .writeUrb _ f => ∀ r, Urb.Same r (f r)
  | .writeBuf b bs => b = .csw ∨ Signs bs
  | .usbFillBulkUrb u pipe b len cb =>
      (u = .csw ∧ pipe.dirIn = true ∧ len = .ofNat CSW_LEN ∨ u ≠ .csw ∧ pipe.dirIn = false) ∧
        b = u.buf ∧ cb = u.callback ∧ (cb = .cbwCallback → i.written u)
  | .usbAllocCoherent b _ => b = .data
  | .usbAllocUrb _ | .usbFreeUrb _ | .usbFreeCoherent _ _ | .usbGetDev | .usbPutDev => False
  | .usbSetIntfdata _ | .scsiHostAlloc | .scsiHostPut _ => False
  | _ => True

/-- The answers that it can count on. -/
@[simp] def Known.expect (i : Known) : (o : Op) → o.Ans → Prop
  | .readDev, d => i.header → d.cbw.dCBWSignature = CBW_SIG
  | _, _ => True

/-- What it knows after an operation. -/
@[simp] def Known.after (i : Known) : (o : Op) → o.Ans → Known
  | .writeDev f, _ => { i with header := i.header ∨ ∀ d, (f d).cbw.dCBWSignature = CBW_SIG }
  | .writeBuf b bs, _ => { i with written := fun u => i.written u ∨ u.buf = b ∧ Signs bs }
  | _, _ => i

/-- The protocol of the wrappers. -/
@[simps]
def wrapping : Protocol Op Op.Ans Known where
  allow := Known.allow
  expect := Known.expect
  after := Known.after

/-! ## The functions follow the protocol -/

section Follow

/-- The operation needs no knowledge. -/
@[simp] def Op.Free (o : Op) : Prop := ∀ i, wrapping.allow i o

lemma follows_free {α : Type} {p : Driver α} (hp : All Op.Free p) (i : Known) :
    Follows wrapping p i fun _ _ => True :=
  hp.follows_of_allow (fun i _ ho => ho i) i

lemma Op.Routine.free {o : Op} (ho : o.Routine) : o.Free := by
  intro i
  cases ho with
  | markUrb u n => exact fun _ => ⟨rfl, rfl, rfl, rfl, fun _ => rfl⟩
  | useDma u a => exact fun _ => ⟨rfl, rfl, rfl, rfl, id⟩
  | _ => simp

lemma Op.Sends.free {o : Op} (ho : o.Sends) : o.Free := by
  intro i
  cases ho with
  | setCount => exact fun _ => ⟨rfl, fun _ _ => rfl, id⟩
  | _ => simp [UrbId.buf, UrbId.callback]

/-- A completion function or an error handler need not know anything. -/
lemma follows_wrapping_callback (cb : Callback) (u : UrbId) (i : Known) :
    Follows wrapping (World.callbackProg cb u) i fun _ _ => True := by
  have hall : All Op.Free (World.callbackProg cb u) :=
    (all_callback (fun _ ho => ho.free) (by simp) (by simp) (by simp) (by simp)
      (fun _ ho => ho.free) cb u).bind fun _ => trivial
  exact follows_free hall i

lemma follows_wrapping_handler (h : Handler) (c : CmndId) (i : Known) :
    Follows wrapping (h.body c) i fun _ _ => True :=
  follows_free (all_handler (fun _ ho => ho.free) (by simp) (by simp) (by simp)
    (fun _ _ => ⟨rfl, fun _ _ => rfl, id⟩) (by simp) h c) i

lemma signs_bytes {cbw : CommandBlockWrapper} (h : cbw.dCBWSignature = CBW_SIG) :
    Signs cbw.bytes :=
  fun _ => (CommandBlockWrapper.signature_append cbw _).trans h

lemma kept_wrapHeader (sc : Cmnd) (d : Dev) : d.Kept (d.wrapHeader sc) :=
  ⟨rfl, fun _ _ => rfl, fun _ => rfl⟩

lemma kept_wrapCdb (sc : Cmnd) (d : Dev) : d.Kept (d.wrapCdb sc) := ⟨rfl, fun _ _ => rfl, id⟩

lemma kept_storeBuffer (p : Option ℕ) (d : Dev) :
    d.Kept { d with buffer := Function.update d.buffer .data p } :=
  ⟨rfl, fun _ hb => Function.update_of_ne hb _ _, id⟩

lemma kept_storeCoherent (r : Option (ℕ × ℕ)) (d : Dev) : d.Kept (d.storeCoherent .data r) :=
  ⟨rfl, fun _ hb => Function.update_of_ne hb _ _, id⟩

/-- The allocations tell nothing about the wrappers. -/
lemma follows_allocDataBuffer (n : UInt32) (i : Known) :
    Follows wrapping (allocDataBuffer n) i fun _ _ => True := by
  refine follows_free ?_ i
  simp [allocDataBuffer, readDev, usbAllocCoherent, writeDev, kmalloc, kept_storeBuffer,
    kept_storeCoherent]

lemma follows_wrapping_deref {α : Type} {p : Option α} {i : Known} {Q : Known → α → Prop} :
    Follows wrapping (deref p) i Q ↔ ∀ a, p = some a → Q i a := by
  cases p with
  | none => simp [deref, oops]
  | some a => simp [deref]

/-- `queue_command` puts the signature into `dev->cbw`, copies it to the buffer and fills the URB,
in this order. -/
lemma follows_wrapping_queueCommand (c : CmndId) (i : Known) :
    Follows wrapping (queueCommand c) i fun _ _ => True := by
  have halloc (n : UInt32) (j : Known) {Q : Known → Bool → Prop} (hQ : ∀ j x, Q j x) :
      Follows wrapping (allocDataBuffer n) j Q :=
    (follows_allocDataBuffer n j).mono fun j x _ => hQ j x
  simp only [queueCommand, readCmnd, writeDev, setActiveScmd, readDev, op_bind]
  refine ⟨trivial, fun sc _ => ⟨fun d => ⟨rfl, fun _ _ => rfl, id⟩, fun _ _ => ⟨trivial, fun _ _ =>
    follows_bind.2 (halloc _ _ fun j usable => ?_)⟩⟩⟩
  rw [follows_ite]
  refine ⟨fun _ => trivial, fun _ => ⟨kept_wrapHeader sc, fun _ _ => ⟨trivial, fun d _ => ?_⟩⟩⟩
  rw [follows_ite]
  refine ⟨fun _ => trivial, fun _ => ⟨kept_wrapCdb sc, fun _ _ => ⟨trivial, fun d hd => ?_⟩⟩⟩
  have hsig : Signs d.cbw.bytes := signs_bytes (hd (.inl (.inr fun _ => rfl)))
  have hcsw (n : ℕ) : cbwUrb n ≠ .csw := by
    unfold cbwUrb
    split <;> decide
  refine follows_bind.2 ?_
  simp only [memcpyTo, readDev, writeBuf, op_bind]
  refine ⟨trivial, fun _ _ => follows_bind.2 (follows_wrapping_deref.2 fun _ _ =>
    ⟨.inr hsig, fun _ _ => ?_⟩)⟩
  rw [usbFillBulkUrb, op_bind]
  refine ⟨⟨.inr ⟨hcsw _, rfl⟩, rfl, (cbwUrb_callback _).symm, fun _ => .inr ⟨rfl, hsig⟩⟩,
    fun _ _ => ?_⟩
  -- the URB is filled, and what follows needs no knowledge any more
  refine follows_free (((routine_useDma _ _).mono fun _ ho => ho.free).bind fun _ => ?_) _
  simp [usbSubmitUrb, writeCmnd, doneActive, activeScmd, scsiDone]

end Follow

/-! ## One operation -/

section Sem

variable {e : Env} {own : CmndId} {s s' : State} {o : Op} {x : o.Ans} {i j : Known}

/-- An operation that is allowed keeps the shape, if what the thread knows is right. -/
lemma shape_allowed (ho : i.allow o) (hi : i.Holds s) (hs : Shape s) :
    Shape (sem e own o s).state := by
  cases o <;> simp only [sem, Known.allow] at ho ⊢
  case writeDev f => exact hs.congr (ho _).urb (ho _).buffer rfl rfl fun _ _ => rfl
  case writeUrb u f => exact hs.modUrb u ho
  case writeBuf b bs =>
    rcases ho with rfl | hsigns
    · exact hs.setBuf_csw _
    · exact hs.setBuf_cbw b (hsigns _)
  case usbAllocCoherent b n =>
    subst ho
    split
    · exact hs
    · exact hs.congr rfl (fun _ _ => rfl) rfl rfl fun _ _ => rfl
  case kmalloc n =>
    split
    · exact hs
    · exact hs.congr rfl (fun _ _ => rfl) rfl rfl fun b hb => Function.update_of_ne hb _ _
  case usbFillBulkUrb u pipe b len cb =>
    obtain ⟨hpipe, rfl, rfl, hknown⟩ := ho
    split
    · exact hs
    · exact (hs.noteClash u).fill u hpipe fun hcb => hi.written u hcb (hknown hcb)
  case usbSubmitUrb u =>
    split
    · exact hs.noteClash u
    · rename_i h
      split
      · exact hs.noteClash u
      · split
        · exact hs.setInflight u fun _ => (not_or.1 h).2
        · exact hs
  case sgVirt c => split <;> exact hs
  case readCsw p => cases p <;> exact hs
  case scsiDone c => cases c <;> exact ⟨hs.urb_ptr, hs.buf_ptr, hs.urb, hs.filled, hs.signature⟩
  all_goals exact ⟨hs.urb_ptr, hs.buf_ptr, hs.urb, hs.filled, hs.signature⟩

/-- **What a thread knows stays right** when another one performs an operation. -/
lemma holds_allowed (ho : i.allow o) (hj : j.Holds s) : j.Holds (sem e own o s).state := by
  cases o <;> simp only [sem, Known.allow] at ho ⊢
  case writeDev f => exact ⟨fun h => (ho _).signature (hj.header h), hj.written⟩
  case writeBuf b bs =>
    refine ⟨hj.header, fun u hu hknown => ?_⟩
    by_cases hb : u.buf = b
    · have hcsw : b ≠ .csw := by
        rintro rfl
        cases u <;> simp [UrbId.callback, UrbId.buf] at hu hb
      simpa [hb] using (ho.resolve_left hcsw) (s.buf b)
    · simpa [hb] using hj.written u hu hknown
  case usbAllocCoherent b n =>
    subst ho
    split <;> exact ⟨hj.header, hj.written⟩
  case kmalloc n =>
    split
    · exact hj
    · refine ⟨hj.header, fun u hu hknown => ?_⟩
      have hb : u.buf ≠ .data := by cases u <;> simp [UrbId.callback, UrbId.buf] at hu ⊢
      simpa [hb] using hj.written u hu hknown
  case sgVirt | readCsw | usbFillBulkUrb | usbSubmitUrb | scsiDone =>
    repeat' split
    all_goals exact ⟨hj.header, hj.written⟩
  all_goals exact ⟨hj.header, hj.written⟩

/-- The device stores into `csw_buffer` only. -/
lemma Known.Holds.giveBack (hj : j.Holds s) (hs : Shape s) (u : UrbId) (st : Int) (n : UInt32)
    (received : List UInt8) : j.Holds (s.giveBack u st n received) where
  header h := by simpa using hj.header h
  written v hv hknown := by
    have hb : v.buf ≠ .csw := by cases v <;> simp [UrbId.callback, UrbId.buf] at hv ⊢
    rw [(hs.frame_giveBack u st n received).buf _ hb]
    exact hj.written v hv hknown

/-- The thread itself gets an answer that it can count on, and learns what it may. -/
lemma learns_allowed (ho : i.allow o) (hi : i.Holds s) (h : sem e own o s = .done x s') :
    wrapping.expect i o x ∧ (wrapping.after i o x).Holds s' := by
  have hstay : i.Holds s' := by
    have hstate : i.Holds (sem e own o s).state := holds_allowed ho hi
    rwa [h] at hstate
  cases o <;> simp only [wrapping_expect, wrapping_after, Known.expect, Known.after] <;>
    simp only [sem, Known.allow] at h ho
  case readDev =>
    obtain ⟨rfl, rfl⟩ := Outcome.done.inj h
    exact ⟨hi.header, hstay⟩
  case writeDev f =>
    obtain ⟨-, rfl⟩ := Outcome.done.inj h
    exact ⟨trivial, fun hheader => hheader.elim hstay.header fun hf => hf _, hstay.written⟩
  case writeBuf b bs =>
    obtain ⟨-, rfl⟩ := Outcome.done.inj h
    refine ⟨trivial, hstay.header, fun u hu hknown => hknown.elim (hstay.written u hu) ?_⟩
    rintro ⟨rfl, hsigns⟩
    simpa using hsigns (s.buf u.buf)
  all_goals exact ⟨trivial, hstay⟩

end Sem

/-! ## Every interleaving -/

/-- The thread goes on as the protocol says, and what it knows is right. -/
def Informed (s : State) (th : DriverThread) : Prop :=
  ∃ i : Known, i.Holds s ∧ Follows wrapping th.prog i fun _ _ => True

/-- The URBs are set up, and every thread is informed. -/
structure World.Sound (w : World) : Prop where
  shape : Shape w.drv
  informed : w.pool.Each fun _ th => Informed w.drv th

namespace World.Sound

variable {w w' : World}

/-- A new thread knows nothing yet. -/
lemma start (hw : w.Sound) {r : Role} {p : Driver Int}
    (hp : Follows wrapping p .nothing fun _ _ => True) : (w.start r p).Sound where
  shape := hw.shape
  informed := hw.informed.spawn ⟨.nothing, Known.holds_nothing _, hp⟩

/-- **The step lemma.** -/
lemma step (hw : w.Sound) {l : Act} (h : interleaved.next w l = some w') : w'.Sound := by
  cases l with
  | queue c =>
    obtain ⟨-, rfl⟩ := inv_queue h
    exact ⟨hw.shape, (hw.start (r := ⟨.queue, c⟩) (follows_wrapping_queueCommand c _)).informed⟩
  | complete u st n received =>
    obtain ⟨c, cb, -, -, rfl⟩ := inv_complete h
    have hgive : World.Sound
        { w with pool := { w.pool with shared := w.drv.giveBack u st n received } } := by
      refine ⟨hw.shape.giveBack u st n received, fun k th hk => ?_⟩
      obtain ⟨i, hi, hp⟩ := hw.informed k th hk
      exact ⟨i, hi.giveBack hw.shape u st n received, hp⟩
    exact hgive.start (follows_wrapping_callback cb u _)
  | handler hd c =>
    obtain ⟨-, rfl⟩ := inv_handler h
    exact hw.start (follows_wrapping_handler hd c _)
  | run k e =>
    obtain ⟨r, o, f, x, s, hk, -, hsem, rfl⟩ := inv_run h
    obtain ⟨i, hi, hallow, hnext⟩ := hw.informed k _ hk
    obtain ⟨hexpect, hlearn⟩ := learns_allowed hallow hi hsem
    have hstate : (sem e r.own o w.drv).state = s := by rw [hsem]; rfl
    refine ⟨hstate ▸ shape_allowed hallow hi hw.shape,
      Pool.each_set ?_ ⟨_, hlearn, hnext x hexpect⟩⟩
    intro m th _ hm
    obtain ⟨j, hj, hp⟩ := hw.informed m th hm
    exact ⟨j, hstate ▸ holds_allowed hallow hj, hp⟩
  | finish k =>
    obtain ⟨r, v, -, rfl⟩ := inv_finish h
    exact ⟨hw.shape, Pool.each_set (fun m th _ hm => hw.informed m th hm)
      ⟨.nothing, Known.holds_nothing _, trivial⟩⟩

end World.Sound

/-- **The shape of the device** holds in every interleaving. -/
theorem shape_interleaved {C : World → Act → Prop} {w : World} (hw : interleaved.Reach C w) :
    Shape w.drv := by
  refine (System.Reach.invariant (S := interleaved) (I := World.Sound) ?_
    (fun _ _ _ hw _ h => hw.step h) hw).shape
  rintro w ⟨hprobed, hthreads, -⟩
  refine ⟨hprobed.shape, fun k th hk => ?_⟩
  simp [hthreads] at hk

end KernelDriverLab.UsbV1
