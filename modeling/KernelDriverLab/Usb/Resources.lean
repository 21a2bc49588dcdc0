import KernelDriverLab.Lib.Protocol
import KernelDriverLab.Lib.System
import KernelDriverLab.Usb.Attach

/-!
# The balance of resources

The life of an interface: probes, disconnects, and between a probe that succeeded and
the disconnect the work item and the completion functions, in any number.
`Life.Settled` is what is expected after a failed probe and after a disconnect: no URB,
buffer or `struct my_usb_storage` acquired since the probe began is left, and every
release was of something held, in the form in which it was acquired.

No path of `usb_probe` frees the device structure, so a failed probe is settled only
when the structure could not be allocated.  `usb_clear_buffer_and_urb` names
`csw_buffer` in the block for the inquiry pair, so `inquiry_buffer` is never released,
and `csw_urb`, so `inquiry_urb` stays behind as a stale pointer.
-/

namespace KernelDriverLab.Usb

open Lib Prog
open UsbV1 (UsbEndpointDescriptor ENOMEM EINVAL)

/-! ## The life of an interface -/

/-- An interface: the device as the latest probe left it and the calls changed it,
whether it is bound to the driver, and the ledger number from which the latest probe
acquired. -/
structure Life where
  drv : State
  bound : Bool
  base : ℕ

namespace Life

/-- What can happen to an interface. -/
inductive Event where
  | probe (altsetting : Option (List UsbEndpointDescriptor)) (e : Env)
  /-- The work item runs. -/
  | work (e : Env)
  /-- The URB of a pair is given back and its completion function runs. -/
  | complete (u : Pair) (status : Int) (received : List UInt8) (e : Env)
  | disconnect (e : Env)

/-- The interface after a function has returned; after an oops there is none. -/
def after {α : Type} (k : Life) (bound : α → Bool) : Outcome State α → Option Life
  | .done x s => some { k with drv := s, bound := bound x }
  | .oops _ => none

/-- One event. -/
def step (k : Life) : Event → Option Life
  | .probe alt e =>
      if k.bound = false then
        let s := k.drv.modLedger Ledger.reopen
        { k with base := s.ledger.next }.after (· == 0) (run (sem e) (usbProbe alt) s)
      else none
  | .work e =>
      if k.bound then k.after (fun _ => true) (run (sem e) initUsbProtocols k.drv) else none
  | .complete u st received e =>
      match k.bound, k.drv.inflight u, (k.drv.urb u).complete with
      | true, true, some cb =>
          k.after (fun _ => true)
            (run (sem e) (cb.body { k.drv.urb u with status := st }) (k.drv.giveBack u st received))
      | _, _, _ => none
  | .disconnect e =>
      if k.bound then k.after (fun _ => false) (run (sem e) usbDisconnect k.drv) else none

/-- No URB, buffer or device structure acquired since the latest probe began is held,
and no release was wrong. -/
def Settled (k : Life) : Prop :=
  (∀ p ∈ k.drv.ledger.live, k.base ≤ p.1 → p.2 = .usbDevice) ∧ k.drv.ledger.wrong = []

instance (k : Life) : Decidable k.Settled := inferInstanceAs (Decidable (_ ∧ _))

/-- With the event, a probe returned an error or a disconnect returned. -/
def Ended (k : Life) : Event → Prop
  | .probe _ _ | .disconnect _ => k.bound = false
  | .work _ | .complete _ _ _ _ => False

instance (k : Life) : (l : Event) → Decidable (k.Ended l)
  | .probe _ _ | .disconnect _ => inferInstanceAs (Decidable (_ = _))
  | .work _ | .complete _ _ _ _ => inferInstanceAs (Decidable False)

end Life

/-- The life of an interface from the first probe on. -/
def lifecycle : System Life Life.Event where
  Init k := k.bound = false
  next := Life.step

section Inversion

variable {k k' : Life}

lemma after_inv {α : Type} {bound : α → Bool} {o : Outcome State α}
    (h : k.after bound o = some k') :
    ∃ x s, o = .done x s ∧ k' = { k with drv := s, bound := bound x } := by
  cases o with
  | done x s => exact ⟨x, s, rfl, (Option.some.inj h).symm⟩
  | oops s => cases h

lemma next_probe {alt : Option (List UsbEndpointDescriptor)} {e : Env}
    (h : lifecycle.next k (.probe alt e) = some k') :
    ∃ rv s, run (sem e) (usbProbe alt) (k.drv.modLedger Ledger.reopen) = .done rv s ∧
      k' = ⟨s, rv == 0, k.drv.ledger.next⟩ := by
  simp only [lifecycle, Life.step, Option.ite_none_right_eq_some] at h
  obtain ⟨rv, s, hrun, rfl⟩ := after_inv h.2
  exact ⟨rv, s, hrun, rfl⟩

lemma next_disconnect {e : Env} (h : lifecycle.next k (.disconnect e) = some k') :
    k.bound = true ∧ ∃ x s, run (sem e) usbDisconnect k.drv = .done x s ∧
      k' = { k with drv := s, bound := false } := by
  simp only [lifecycle, Life.step, Option.ite_none_right_eq_some] at h
  exact ⟨h.1, after_inv h.2⟩

lemma next_work {e : Env} (h : lifecycle.next k (.work e) = some k') :
    k.bound = true ∧ ∃ x s, run (sem e) initUsbProtocols k.drv = .done x s ∧
      k' = { k with drv := s, bound := true } := by
  simp only [lifecycle, Life.step, Option.ite_none_right_eq_some] at h
  exact ⟨h.1, after_inv h.2⟩

lemma next_complete {u : Pair} {st : Int} {received : List UInt8} {e : Env}
    (h : lifecycle.next k (.complete u st received e) = some k') :
    k.bound = true ∧ ∃ (cb : Callback) (x : Unit) (s : State),
      run (sem e) (cb.body { k.drv.urb u with status := st }) (k.drv.giveBack u st received) =
        .done x s ∧ k' = { k with drv := s, bound := true } := by
  simp only [lifecycle, Life.step] at h
  split at h
  · rename_i cb hb _ _
    obtain ⟨x, s, hrun, rfl⟩ := after_inv h
    exact ⟨hb, cb, x, s, hrun, rfl⟩
  · cases h

end Inversion

/-! ## The device structure -/

/-- A release strikes no entry of another kind. -/
lemma mem_releasePtr {s : State} {n : ℕ} {k k' : Resource} (h : (n, k) ∈ s.ledger.live) (p : Ptr)
    (hk : k' ≠ k) : (n, k) ∈ (s.releasePtr p k').ledger.live := by
  cases p with
  | none => exact h
  | some i =>
    refine (Ledger.mem_release_of_ne ?_).2 h
    intro heq
    exact hk (Prod.ext_iff.1 heq).2.symm

/-- Every number the pointer can be is above `n`. -/
@[simp] def Above (n : ℕ) (p : Ptr) : Prop := ∀ i, p = some i → n < i

/-- What `usb_probe` does once it has the device structure, with number `n`: it never
frees it, and every buffer it gets is newer. -/
@[simps]
def newer (n : ℕ) : Protocol Op Op.Ans Unit where
  allow _
    | .kfree _ p | .setBuffer _ p => Above n p
    | .kfreeDev _ | .kzalloc => False
    | _ => True
  expect _
    | .readDev, dev => ∀ b, Above n (dev.buffer b)
    | .kmalloc _ _, p => Above n p
    | .usbAllocCoherent _ _, x => ∀ q, x = some q → n < q.1
    | _, _ => True
  after _ _ _ := ()

/-- The device structure with number `n` is held, and every buffer is newer. -/
structure State.Newer (s : State) (n : ℕ) : Prop where
  held : (n, .storage) ∈ s.ledger.live
  buffer : ∀ b, Above n (s.dev.buffer b)

section Newer

variable {e : Env} {s s' : State} {n : ℕ}

lemma State.Newer.lt_next (h : s.Newer n) : n < s.ledger.next := s.ledger.numbered _ h.held

lemma held_kfree (h : (n, .storage) ∈ s.ledger.live) {p : Ptr} (hp : Above n p) :
    (n, .storage) ∈ (s.kfree p).ledger.live := by
  cases p with
  | none => exact h
  | some i =>
    have hne (k : Resource) : (n, Resource.storage) ≠ (i, k) := by
      intro heq
      exact (hp i rfl).ne (Prod.ext_iff.1 heq).1
    simp only [State.kfree]
    split <;> exact (Ledger.mem_release_of_ne (hne _)).2 h

lemma Newer.newBuffer (h : s.Newer n) (b : Pair) (k : Resource) : (s.newBuffer e b k).Newer n where
  held := Ledger.mem_acquire.2 (.inr h.held)
  buffer := h.buffer

lemma newer_sem {o : Op} {x : o.Ans} (ho : (newer n).allow () o) (hs : s.Newer n)
    (h : sem e o s = .done x s') : (newer n).expect () o x ∧ s'.Newer n := by
  have hlt : n < s.ledger.next := hs.lt_next
  cases o <;> simp only [sem] at h
  case kzalloc | kfreeDev => exact absurd ho id
  case setBuffer b p =>
    obtain ⟨rfl, rfl⟩ := Outcome.done.inj h
    refine ⟨trivial, hs.held, fun b' => ?_⟩
    by_cases hb : b' = b
    · subst hb
      simpa using ho
    · simpa [hb] using hs.buffer b'
  case readDev =>
    obtain ⟨rfl, rfl⟩ := Outcome.done.inj h
    exact ⟨hs.buffer, hs⟩
  case kmalloc b size =>
    split_ifs at h <;> obtain ⟨rfl, rfl⟩ := Outcome.done.inj h
    · exact ⟨by simpa using hlt, Newer.newBuffer hs b _⟩
    · exact ⟨by simp, hs⟩
  case usbAllocCoherent b size =>
    split at h <;> obtain ⟨rfl, rfl⟩ := Outcome.done.inj h
    · exact ⟨by simp, hs⟩
    · exact ⟨by simpa using hlt, Newer.newBuffer hs b _⟩
  case usbAllocUrb u =>
    split_ifs at h <;> obtain ⟨rfl, rfl⟩ := Outcome.done.inj h
    · exact ⟨trivial, Ledger.mem_acquire.2 (.inr hs.held), hs.buffer⟩
    · exact ⟨trivial, hs⟩
  case usbGetDev =>
    obtain ⟨rfl, rfl⟩ := Outcome.done.inj h
    exact ⟨trivial, Ledger.mem_acquire.2 (.inr hs.held), hs.buffer⟩
  case usbFreeUrb u p =>
    obtain ⟨rfl, rfl⟩ := Outcome.done.inj h
    exact ⟨trivial, mem_releasePtr hs.held p (by simp), by simpa using hs.buffer⟩
  case usbFreeCoherent b p size =>
    obtain ⟨rfl, rfl⟩ := Outcome.done.inj h
    exact ⟨trivial, mem_releasePtr hs.held p (by simp), by simpa using hs.buffer⟩
  case usbPutDev p =>
    obtain ⟨rfl, rfl⟩ := Outcome.done.inj h
    exact ⟨trivial, mem_releasePtr hs.held p (by simp), by simpa using hs.buffer⟩
  case kfree b p =>
    obtain ⟨rfl, rfl⟩ := Outcome.done.inj h
    exact ⟨trivial, held_kfree hs.held ho, by simpa using hs.buffer⟩
  -- the other operations change neither the ledger nor a buffer pointer
  all_goals
    repeat' split at h
    all_goals cases h
  all_goals exact ⟨trivial, hs.held, hs.buffer⟩

/-- The program keeps to `newer n` to its end. -/
def KeepsStorage {α : Type} (n : ℕ) (p : Driver α) : Prop := Follows (newer n) p () fun _ _ => True

lemma KeepsStorage.bind {α β : Type} {p : Driver α} {f : α → Driver β} (hp : KeepsStorage n p)
    (hf : ∀ a, KeepsStorage n (f a)) : KeepsStorage n (p >>= f) :=
  follows_bind.2 (hp.mono fun _ a _ => hf a)

lemma KeepsStorage.run {α : Type} {p : Driver α} {x : α} (hp : KeepsStorage n p) (hs : s.Newer n)
    (h : run (sem e) p s = .done x s') : s'.Newer n := by
  obtain ⟨-, -, hs'⟩ := Follows.run (I := fun _ t => State.Newer t n)
    (fun _ _ _ _ _ ho ht hsem => newer_sem ho ht hsem) hp hs h
  exact hs'

lemma keepsStorage_clearPair (u field b : Pair) {free : Driver Unit} (hfree : KeepsStorage n free) :
    KeepsStorage n (clearPair u field b free) := by
  have hurb : KeepsStorage n (clearUrb u field) := by
    simp [KeepsStorage, clearUrb, usbKillUrb, usbFreeUrb, setUrb, readDev, op]
  have hset : KeepsStorage n (setBuffer b none) := by
    simp [KeepsStorage, setBuffer, op]
  have hbuffer : KeepsStorage n (clearBuffer b free) := by
    rw [KeepsStorage, clearBuffer, readDev, op_bind]
    refine ⟨trivial, fun dev _ => follows_ite.2 ⟨fun _ => ?_, fun _ => trivial⟩⟩
    exact hfree.bind fun _ => hset
  rw [KeepsStorage, clearPair, readDev, op_bind]
  refine ⟨trivial, fun dev _ => follows_ite.2 ⟨fun _ => trivial, fun _ => ?_⟩⟩
  exact hurb.bind fun _ => hbuffer.bind fun _ => trivial

lemma keepsStorage_kfree (b : Pair) : KeepsStorage n (kfree b) := by
  rw [KeepsStorage, kfree, readDev, op_bind]
  exact ⟨trivial, fun dev hdev => ⟨hdev b, fun _ _ => trivial⟩⟩

lemma keepsStorage_usbFreeCoherent (b : Pair) (size : ℕ) :
    KeepsStorage n (usbFreeCoherent b size) := by
  simp [KeepsStorage, usbFreeCoherent, readDev, op]

/-- A label of `usb_alloc_buffer_and_urb`. -/
lemma keepsStorage_label (u field b : Pair) {free : Driver Unit} {next : Driver Int}
    (hfree : KeepsStorage n free) (hnext : KeepsStorage n next) :
    KeepsStorage n (clearPair u field b free >>= fun x =>
      if x = true then return -EINVAL else next) := by
  refine (keepsStorage_clearPair u field b hfree).bind fun x => ?_
  cases x
  · exact hnext
  · trivial

lemma keepsStorage_usbAllocBufferAndUrb : KeepsStorage n usbAllocBufferAndUrb := by
  have hwrite : KeepsStorage n rWrite :=
    (keepsStorage_clearPair _ _ _ (keepsStorage_kfree _)).bind fun _ => trivial
  have hread : KeepsStorage n rRead :=
    keepsStorage_label _ _ _ (keepsStorage_usbFreeCoherent _ _) hwrite
  have hinquiry : KeepsStorage n rInquiry :=
    keepsStorage_label _ _ _ (keepsStorage_usbFreeCoherent _ _) hread
  have hcsw : KeepsStorage n rCsw := keepsStorage_label _ _ _ (keepsStorage_kfree _) hinquiry
  have hcbw : KeepsStorage n rCbw :=
    keepsStorage_label _ _ _ (keepsStorage_usbFreeCoherent _ _) hcsw
  have hcoherent (b : Pair) (size : ℕ) : KeepsStorage n (allocCoherent b size) := by
    rw [KeepsStorage, allocCoherent, readDev, op_bind]
    refine ⟨trivial, fun _ _ => ⟨trivial, fun x hx => ?_⟩⟩
    cases x with
    | none => exact ⟨by simp, fun _ _ => trivial⟩
    | some q => exact ⟨trivial, fun _ _ => ⟨by simpa using hx q rfl, fun _ _ => trivial⟩⟩
  have hkmalloc (b : Pair) (size : ℕ) : KeepsStorage n (allocKmalloc b size) := by
    simp [KeepsStorage, allocKmalloc, setBuffer, op]
  have hurb (u : Pair) : KeepsStorage n (allocUrb u) := by
    simp [KeepsStorage, allocUrb, setUrb, op]
  have htest {q r : Driver Int} {a : Driver Bool} (ha : KeepsStorage n a)
      (hq : KeepsStorage n q) (hr : KeepsStorage n r) :
      KeepsStorage n (a >>= fun x => if x = false then q else r) := by
    refine ha.bind fun x => ?_
    cases x
    · exact hq
    · exact hr
  exact htest (hcoherent _ _) trivial <| htest (hurb _) hcbw <|
    htest (hkmalloc _ _) trivial <| htest (hurb _) hcsw <|
    htest (hcoherent _ _) trivial <| htest (hurb _) hread <|
    (hkmalloc _ _).bind fun _ =>
    htest (hcoherent _ _) trivial <| htest (hurb _) hinquiry <|
    htest (hkmalloc _ _) trivial <| htest (hurb _) hwrite trivial

lemma keepsStorage_probeResources (epds : List UsbEndpointDescriptor) :
    KeepsStorage n (probeResources epds) := by
  have hset : KeepsStorage n (setEndpoints epds) := by
    refine ((all_setEndpoints epds).follows (i := ()) ?_ fun _ _ _ => rfl).mono fun _ _ _ => trivial
    intro o ho
    cases o <;> first | exact absurd ho id | trivial
  refine keepsStorage_usbAllocBufferAndUrb.bind fun rv =>
    follows_ite.2 ⟨fun _ => trivial, fun _ => ?_⟩
  refine hset.bind fun _ => ?_
  simp [KeepsStorage, readDev, op]

/-- The device when `usb_probe` comes to the test of `iface_desc`. -/
def State.withStorage (s : State) : State :=
  { s with
    dev := { Dev.zero with udev := some (s.ledger.next + 1) }
    ledger := (s.ledger.acquire .storage).acquire .usbDevice
    intfdata := some s.ledger.next }

lemma run_usbProbe (he : e.kzalloc = true) (alt : Option (List UsbEndpointDescriptor)) :
    run (sem e) (usbProbe alt) s = match alt with
      | none => .done (-EINVAL) s.withStorage
      | some epds => run (sem e) (probeResources epds) s.withStorage := by
  cases alt <;> simp [usbProbe, usbSetIntfdata, op, run_act, sem, he, State.withStorage]

lemma run_usbProbe_noStorage (he : e.kzalloc = false)
    (alt : Option (List UsbEndpointDescriptor)) :
    run (sem e) (usbProbe alt) s = .done (-ENOMEM) s := by
  simp [usbProbe, op, run_act, sem, he]

/-- **A probe that gets a device structure** still holds it at its end, whatever it
returns. -/
theorem newer_usbProbe {alt : Option (List UsbEndpointDescriptor)} {rv : Int}
    (he : e.kzalloc = true) (h : run (sem e) (usbProbe alt) s = .done rv s') :
    s'.Newer s.ledger.next := by
  have hstart : s.withStorage.Newer s.ledger.next := by
    constructor
    · exact Ledger.mem_acquire.2 (.inr (Ledger.mem_acquire.2 (.inl rfl)))
    · simp [State.withStorage, Dev.zero]
  rw [run_usbProbe he] at h
  cases alt with
  | none =>
    obtain ⟨-, rfl⟩ := Outcome.done.inj h
    exact hstart
  | some epds => exact (keepsStorage_probeResources epds).run hstart h

end Newer

/-! ## The inquiry buffer -/

/-- The operation is not one that releases a coherent buffer of the size of the inquiry
buffer. -/
@[simp] def Op.SparesInquiry : Op → Prop
  | usbFreeCoherent _ _ size => size ≠ REQ_LEN
  | _ => True

/-- An inquiry buffer with a number from `base` on is held. -/
def State.InquiryHeld (s : State) (base : ℕ) : Prop :=
  ∃ n, base ≤ n ∧ (n, .coherent REQ_LEN) ∈ s.ledger.live

section Inquiry

variable {e : Env} {s s' : State} {base : ℕ}

/-- What is held as a coherent buffer is not struck by `kfree`. -/
lemma mem_kfree {n size : ℕ} (h : (n, .coherent size) ∈ s.ledger.live) (p : Ptr) :
    (n, .coherent size) ∈ (s.kfree p).ledger.live := by
  cases p with
  | none => exact h
  | some i =>
    simp only [State.kfree]
    split <;> exact (Ledger.mem_release_of_ne (by simp)).2 h

lemma inquiryHeld_sem {o : Op} (ho : o.SparesInquiry) (h : s.InquiryHeld base) :
    (sem e o s).state.InquiryHeld base := by
  obtain ⟨n, hn, hmem⟩ := h
  refine ⟨n, hn, ?_⟩
  cases o <;> simp only [sem]
  case usbFreeUrb u p => exact mem_releasePtr hmem p (by simp)
  case usbFreeCoherent b p size => exact mem_releasePtr hmem p (by simpa using ho)
  case usbPutDev p => exact mem_releasePtr hmem p (by simp)
  case kfree b p => exact mem_kfree hmem p
  case kfreeDev p => exact mem_kfree hmem p
  all_goals repeat' split
  all_goals first | exact hmem | exact Ledger.mem_acquire.2 (.inr hmem)

lemma InquiryHeld.run {α : Type} {p : Driver α} (hp : All Op.SparesInquiry p)
    (h : s.InquiryHeld base) {x : α} (hrun : run (sem e) p s = .done x s') :
    s'.InquiryHeld base := by
  have hstate := hp.run (I := fun t : State => t.InquiryHeld base)
    (fun _ _ ho ht => inquiryHeld_sem (e := e) ho ht) h
  simpa [hrun] using hstate

lemma spares_clearPair (u field b : Pair) {free : Driver Unit} (hfree : All Op.SparesInquiry free) :
    All Op.SparesInquiry (clearPair u field b free) := by
  have hurb : All Op.SparesInquiry (clearUrb u field) := by
    simp [clearUrb, usbKillUrb, usbFreeUrb, setUrb, readDev, op]
  have hbuffer : All Op.SparesInquiry (clearBuffer b free) := by
    have hset : All Op.SparesInquiry (setBuffer b none) := by simp [setBuffer, op]
    rw [clearBuffer, readDev, op_bind]
    exact ⟨trivial, fun dev => all_ite.2 ⟨fun _ => hfree.bind fun _ => hset, fun _ => trivial⟩⟩
  rw [clearPair, readDev, op_bind]
  refine ⟨trivial, fun dev => all_ite.2 ⟨fun _ => trivial, fun _ => ?_⟩⟩
  exact hurb.bind fun _ => hbuffer.bind fun _ => trivial

/-- `usb_disconnect` never releases the inquiry buffer. -/
lemma spares_usbDisconnect : All Op.SparesInquiry usbDisconnect := by
  have hkfree (b : Pair) : All Op.SparesInquiry (kfree b) := by simp [kfree, readDev, op]
  have hcoherent (b : Pair) {size : ℕ} (hsize : size ≠ REQ_LEN) :
      All Op.SparesInquiry (usbFreeCoherent b size) := by
    simp [usbFreeCoherent, readDev, op, hsize]
  have hclear : All Op.SparesInquiry usbClearBufferAndUrb :=
    (spares_clearPair _ _ _ (hcoherent _ (by decide))).bind fun _ =>
      (spares_clearPair _ _ _ (hkfree _)).bind fun _ =>
      (spares_clearPair _ _ _ (hkfree _)).bind fun _ =>
      (spares_clearPair _ _ _ (hcoherent _ (by decide))).bind fun _ =>
      (spares_clearPair _ _ _ (hkfree _)).bind fun _ => trivial
  refine ⟨trivial, fun p => ?_⟩
  cases p with
  | none => exact ⟨trivial, fun _ => ⟨trivial, fun x => (by cases x)⟩⟩
  | some dev =>
    refine ⟨trivial, fun _ => hclear.bind fun rv => ?_⟩
    simp [usbClearHalt, usbSetIntfdata, kfreeDev, readDev, op]

lemma spares_initUsbProtocols : All Op.SparesInquiry initUsbProtocols := by
  simp [initUsbProtocols, sendCommand, msleep, memcpyTo, setMyCbw, usbFillBulkUrb, useDma,
    usbSubmitUrb, readDev, op]

lemma spares_receiveStatus : All Op.SparesInquiry receiveStatus := by
  simp [receiveStatus, usbFillBulkUrb, usbSubmitUrb, readDev, op]

lemma spares_transferData (u : Pair) (dirIn : Bool) (len : ℕ) (dma : Bool) {cleanup : Driver Unit}
    (hc : All Op.SparesInquiry cleanup) :
    All Op.SparesInquiry (transferData u dirIn len dma cleanup) := by
  cases dma <;>
    simp [transferData, beginTransfer, usbFillBulkUrb, useDma, usbSubmitUrb, readDev, op, hc]

lemma spares_callback (cb : Callback) (urb : Urb) : All Op.SparesInquiry (cb.body urb) := by
  have hdrop (u : Pair) : All Op.SparesInquiry (dropPair u) := by
    simp [dropPair, usbKillUrb, usbFreeUrb, kfree, setBuffer, setUrb, readDev, op]
  have hread : All Op.SparesInquiry rUrb := by
    simp [rUrb, usbKillUrb, usbFreeUrb, kfree, setBuffer, setUrb, readDev, op]
  have hdispatch (opcode : UInt8) : All Op.SparesInquiry (dispatch opcode) := by
    simp [dispatch, writeData, readData, inquiryData, senseData, capacityData,
      spares_transferData, spares_receiveStatus, hdrop, hread]
  cases cb with
  | cbwCallback =>
    cases h : urb.transferBuffer <;>
      simp [Callback.body, cbwCallback, h, oops, readCbw, readBuf, setCbwTag, op, hdispatch]
  | dataCallback => simp [Callback.body, dataCallback, spares_receiveStatus]
  | cswCallback =>
    cases h : urb.transferBuffer <;>
      simp [Callback.body, cswCallback, h, oops, readCsw, readBuf, usbClearHalt, readDev, op]

end Inquiry

/-- In every life of the interface an inquiry buffer is held while the driver is bound. -/
lemma inquiryHeld_bound {k : Life} (hk : lifecycle.Reachable k) (hb : k.bound = true) :
    k.drv.InquiryHeld k.base := by
  induction hk with
  | init h =>
    rw [show _ = false from h] at hb
    cases hb
  | @step k k' l hk _ h ih =>
    cases l with
    | probe alt e =>
      obtain ⟨rv, s, hrun, rfl⟩ := next_probe h
      obtain rfl : rv = 0 := by simpa using hb
      cases he : e.kzalloc with
      | false => simp [run_usbProbe_noStorage he, ENOMEM] at hrun
      | true =>
        obtain ⟨i, b, -, hbuffer, -, hheld⟩ :=
          (attached_of_usbProbe hrun).allocated.equipped .inquiry
        have hlt : k.drv.ledger.next < b := (newer_usbProbe he hrun).buffer .inquiry b hbuffer
        exact ⟨b, hlt.le, hheld.mem⟩
    | work e =>
      obtain ⟨hb', x, s, hrun, rfl⟩ := next_work h
      exact InquiryHeld.run spares_initUsbProtocols (ih hb') hrun
    | complete u st received e =>
      obtain ⟨hb', cb, x, s, hrun, rfl⟩ := next_complete h
      exact InquiryHeld.run (spares_callback cb _) (s := k.drv.giveBack u st received) (ih hb') hrun
    | disconnect e =>
      obtain ⟨-, x, s, -, rfl⟩ := next_disconnect h
      cases hb

/-! ## Clearing twice -/

section Twice

variable {e e' : Env} {s t : State}

/-- What one block of `usb_clear_buffer_and_urb` does to the pointers. -/
def Dev.clearPair (d : Dev) (u field b : Pair) : Dev :=
  { d with
    urb := if d.urb u = none then d.urb else Function.update d.urb field none
    buffer :=
      if d.urb u = none ∧ d.buffer u = none then d.buffer
      else Function.update d.buffer b none }

section ClearPair

variable (d : Dev) {u field b p : Pair}

/-- The block clears the URB of its own pair when it names the right field. -/
@[simp] lemma clearPair_urb_self : (d.clearPair u u b).urb u = none := by
  by_cases hu : d.urb u = none <;> simp [Dev.clearPair, hu]

@[simp] lemma clearPair_urb_of_ne (hp : p ≠ field) : (d.clearPair u field b).urb p = d.urb p := by
  by_cases hu : d.urb u = none <;> simp [Dev.clearPair, hu, hp]

lemma clearPair_urb_none (hp : d.urb p = none) : (d.clearPair u field b).urb p = none := by
  by_cases hf : p = field
  · subst hf
    by_cases hu : d.urb u = none <;> simp [Dev.clearPair, hu, hp]
  · rw [clearPair_urb_of_ne d hf, hp]

@[simp] lemma clearPair_buffer_self : (d.clearPair u field u).buffer u = none := by
  by_cases hu : d.urb u = none ∧ d.buffer u = none <;> simp [Dev.clearPair, hu]

@[simp] lemma clearPair_buffer_of_ne (hp : p ≠ b) :
    (d.clearPair u field b).buffer p = d.buffer p := by
  by_cases hu : d.urb u = none ∧ d.buffer u = none <;> simp [Dev.clearPair, hu, hp]

lemma clearPair_buffer_none (hp : d.buffer p = none) :
    (d.clearPair u field b).buffer p = none := by
  by_cases hb : p = b
  · subst hb
    by_cases hu : d.urb u = none ∧ d.buffer u = none <;> simp [Dev.clearPair, hu, hp]
  · rw [clearPair_buffer_of_ne d hb, hp]

end ClearPair

/-- The function releases something and changes nothing else. -/
def Releases (e : Env) (free : Driver Unit) : Prop :=
  ∀ s, ∃ f, run (sem e) free s = .done () (s.modLedger f)

lemma releases_kfree (b : Pair) : Releases e (kfree b) := by
  intro s
  obtain ⟨f, hf⟩ := State.kfree_eq (s := s) (s.dev.buffer b)
  exact ⟨f, by simp [kfree, readDev, op, run_act, sem, hf]⟩

lemma releases_usbFreeCoherent (b : Pair) (size : ℕ) : Releases e (usbFreeCoherent b size) := by
  intro s
  obtain ⟨f, hf⟩ := State.releasePtr_eq (s := s) (s.dev.buffer b) (.coherent size)
  exact ⟨f, by simp [usbFreeCoherent, readDev, op, run_act, sem, hf]⟩

lemma run_clearUrb_none {u : Pair} (field : Pair) (hu : s.dev.urb u = none) :
    run (sem e) (clearUrb u field) s = .done () s := by
  simp [clearUrb, readDev, op, run_act, sem, hu]

lemma run_clearUrb_some {u : Pair} {i : ℕ} (field : Pair) (hu : s.dev.urb u = some i) :
    run (sem e) (clearUrb u field) s = .done ()
      (((s.setInflight u false).modLedger (·.release i .urb)).modDev fun d =>
        { d with urb := Function.update d.urb field none }) := by
  simp [clearUrb, usbKillUrb, usbFreeUrb, setUrb, readDev, op, run_act, sem, hu, State.releasePtr]

lemma run_clearBuffer_none {b : Pair} (free : Driver Unit) (hb : s.dev.buffer b = none) :
    run (sem e) (clearBuffer b free) s = .done () s := by
  simp [clearBuffer, readDev, op, run_act, sem, hb]

lemma run_clearBuffer {free : Driver Unit} (hfree : Releases e free) (b : Pair) (s : State) :
    ∃ t, run (sem e) (clearBuffer b free) s = .done () t ∧
      t.dev = { s.dev with buffer := Function.update s.dev.buffer b none } := by
  by_cases hb : s.dev.buffer b = none
  · refine ⟨s, run_clearBuffer_none free hb, ?_⟩
    rw [← hb, Function.update_eq_self]
  · obtain ⟨f, hf⟩ := hfree s
    exact ⟨_, by simp [clearBuffer, readDev, setBuffer, op, run_act, sem, hb, hf]; rfl, rfl⟩

lemma run_clearPair_none {u : Pair} (field b : Pair) (free : Driver Unit)
    (hu : s.dev.urb u = none) (hb : s.dev.buffer u = none) :
    run (sem e) (clearPair u field b free) s = .done false s := by
  simp [clearPair, readDev, op, run_act, sem, hu, hb]

lemma run_clearPair {free : Driver Unit} (hfree : Releases e free) (u field b : Pair) (s : State) :
    ∃ x t, run (sem e) (clearPair u field b free) s = .done x t ∧
      t.dev = s.dev.clearPair u field b := by
  by_cases hnone : s.dev.urb u = none ∧ s.dev.buffer u = none
  · refine ⟨false, s, run_clearPair_none field b free hnone.1 hnone.2, ?_⟩
    simp [Dev.clearPair, hnone]
  · cases hu : s.dev.urb u with
    | none =>
      have hbuffer : s.dev.buffer u ≠ none := by simpa [hu] using hnone
      obtain ⟨t, hrun, ht⟩ := run_clearBuffer hfree b s
      refine ⟨true, t, ?_, ?_⟩
      · simp [clearPair, readDev, op, run_act, sem, hbuffer, run_clearUrb_none field hu, hrun]
      · simp [Dev.clearPair, ht, hu, hbuffer]
    | some i =>
      obtain ⟨t, hrun, ht⟩ := run_clearBuffer hfree b
        (((s.setInflight u false).modLedger (·.release i .urb)).modDev fun d =>
          { d with urb := Function.update d.urb field none })
      refine ⟨true, t, ?_, ?_⟩
      · simp [clearPair, readDev, op, run_act, sem, hu, run_clearUrb_some field hu, hrun]
      · simp [Dev.clearPair, ht, hu]

/-- What a call of `usb_clear_buffer_and_urb` leaves: everything is NULL but the pointers
of the inquiry pair. -/
def State.Cleared (s t : State) : Prop :=
  t.dev.urb .inquiry = s.dev.urb .inquiry ∧
    ∀ p, p ≠ .inquiry → t.dev.urb p = none ∧ t.dev.buffer p = none

/-- **The first call.** -/
lemma run_usbClearBufferAndUrb (s : State) :
    ∃ t, run (sem e) usbClearBufferAndUrb s = .done 0 t ∧ s.Cleared t := by
  obtain ⟨x₁, s₁, h₁, hd₁⟩ := run_clearPair (releases_usbFreeCoherent (e := e) .cbw CBW_LEN)
    .cbw .cbw .cbw s
  obtain ⟨x₂, s₂, h₂, hd₂⟩ := run_clearPair (releases_kfree (e := e) .csw) .csw .csw .csw s₁
  obtain ⟨x₃, s₃, h₃, hd₃⟩ := run_clearPair (releases_kfree (e := e) .csw) .inquiry .csw .csw s₂
  obtain ⟨x₄, s₄, h₄, hd₄⟩ := run_clearPair (releases_usbFreeCoherent (e := e) .read READ_LEN)
    .read .read .read s₃
  obtain ⟨x₅, s₅, h₅, hd₅⟩ := run_clearPair (releases_kfree (e := e) .write)
    .write .write .write s₄
  refine ⟨s₅, ?_, ?_⟩
  · simp only [usbClearBufferAndUrb, run_bind, h₁, h₂, h₃, h₄, h₅]
    rfl
  · rw [State.Cleared, hd₅, hd₄, hd₃, hd₂, hd₁]
    refine ⟨by simp, fun p hp => ?_⟩
    cases p with
    | inquiry => exact absurd rfl hp
    | cbw | read | write => simp
    | csw =>
      -- the block for the inquiry pair finds what its own block has left
      refine ⟨?_, ?_⟩
      · simp [clearPair_urb_none]
      · simp [clearPair_buffer_none]

/-- **The second call** finds nothing but `inquiry_urb`, and releases it again. -/
lemma run_usbClearBufferAndUrb_again
    (h : ∀ p, p ≠ .inquiry → t.dev.urb p = none ∧ t.dev.buffer p = none) :
    (run (sem e) usbClearBufferAndUrb t).state.ledger = match t.dev.urb .inquiry with
      | none => t.ledger
      | some i => t.ledger.release i .urb := by
  obtain ⟨hcbw, hcbw'⟩ := h .cbw (by decide)
  obtain ⟨hcsw, hcsw'⟩ := h .csw (by decide)
  obtain ⟨hread, hread'⟩ := h .read (by decide)
  obtain ⟨hwrite, hwrite'⟩ := h .write (by decide)
  cases hu : t.dev.urb .inquiry with
  | none =>
    have hinquiry : ∃ x, run (sem e) (clearPair .inquiry .csw .csw (kfree .csw)) t = .done x t := by
      cases hb : t.dev.buffer .inquiry with
      | none => exact ⟨_, run_clearPair_none _ _ _ hu hb⟩
      | some b =>
        exact ⟨true, by simp [clearPair, readDev, op, run_act, sem, hu, hb, run_clearUrb_none _ hu,
          run_clearBuffer_none _ hcsw']⟩
    obtain ⟨x, hinquiry⟩ := hinquiry
    simp only [usbClearBufferAndUrb, run_bind, run_clearPair_none _ _ _ hcbw hcbw',
      run_clearPair_none _ _ _ hcsw hcsw', hinquiry, run_clearPair_none _ _ _ hread hread',
      run_clearPair_none _ _ _ hwrite hwrite']
    rfl
  | some i =>
    set t' := ((t.setInflight .inquiry false).modLedger (·.release i .urb)).modDev fun d =>
      { d with urb := Function.update d.urb .csw none } with ht'
    have hinquiry :
        run (sem e) (clearPair .inquiry .csw .csw (kfree .csw)) t = .done true t' := by
      simp [clearPair, readDev, op, run_act, sem, hu, run_clearUrb_some _ hu, ← ht',
        run_clearBuffer_none (s := t') _ hcsw']
    have hread₁ : t'.dev.urb .read = none := by simp [ht', hread]
    have hwrite₁ : t'.dev.urb .write = none := by simp [ht', hwrite]
    simp only [usbClearBufferAndUrb, run_bind, run_clearPair_none _ _ _ hcbw hcbw',
      run_clearPair_none _ _ _ hcsw hcsw', hinquiry,
      run_clearPair_none (s := t') _ _ _ hread₁ hread',
      run_clearPair_none (s := t') _ _ _ hwrite₁ hwrite']
    rfl

/-- The device after a call of `usb_clear_buffer_and_urb`. -/
def State.cleared (s : State) (e : Env) : State := (run (sem e) usbClearBufferAndUrb s).state

/-- A second call frees nothing further only where there was no `inquiry_urb`. -/
lemma cleared_again_iff :
    ((s.cleared e).cleared e').ledger = (s.cleared e).ledger ↔ s.dev.urb .inquiry = none := by
  obtain ⟨t, hrun, hinquiry, hnone⟩ := run_usbClearBufferAndUrb (e := e) s
  have hcleared : s.cleared e = t := by rw [State.cleared, hrun]; rfl
  rw [hcleared, State.cleared, run_usbClearBufferAndUrb_again hnone, hinquiry]
  cases s.dev.urb .inquiry with
  | none => simp
  | some i => simp [Ledger.release_ne]

end Twice

/-! ## Where the balance is kept -/

/-- **When allocation and cleanup are inverse.** In every life of an interface, after a
probe that returned an error and after a disconnect, everything acquired since the probe
has been released properly if and only if it was a probe that could not allocate the
device structure.  A second call of `usb_clear_buffer_and_urb` frees nothing further if
and only if there was no `inquiry_urb`. -/
theorem settled_iff_no_storage {k k' : Life} {l : Life.Event} (hk : lifecycle.Reachable k)
    (h : lifecycle.next k l = some k') (hend : k'.Ended l) (s : State) (e e' : Env) :
    (k'.Settled ↔ ∃ alt e, l = .probe alt e ∧ e.kzalloc = false) ∧
      (((s.cleared e).cleared e').ledger = (s.cleared e).ledger ↔ s.dev.urb .inquiry = none) := by
  refine ⟨?_, cleared_again_iff⟩
  cases l with
  | probe alt e =>
    obtain ⟨rv, s, hrun, rfl⟩ := next_probe h
    cases he : e.kzalloc with
    | false =>
      -- nothing was acquired
      rw [run_usbProbe_noStorage he] at hrun
      obtain ⟨-, rfl⟩ := Outcome.done.inj hrun
      have hsettled := Ledger.settled_reopen k.drv.ledger
      refine iff_of_true ⟨fun p hp hbase => ?_, hsettled.2⟩ ⟨alt, e, rfl, he⟩
      exact absurd (hsettled.1 p hp) (Nat.not_lt.2 hbase)
    | true =>
      -- the device structure is still held
      have hheld := (newer_usbProbe he hrun).held
      refine iff_of_false ?_ ?_
      · intro hsettled
        exact absurd (hsettled.1 _ hheld le_rfl) (by simp)
      · rintro ⟨_, _, heq, hno⟩
        injection heq with _ heq
        simp [← heq, he] at hno
  | work e | complete u st received e => exact absurd hend id
  | disconnect e =>
    -- the inquiry buffer is still held
    obtain ⟨hb, x, s, hrun, rfl⟩ := next_disconnect h
    obtain ⟨n, hn, hheld⟩ :=
      InquiryHeld.run spares_usbDisconnect (inquiryHeld_bound hk hb) hrun
    refine iff_of_false ?_ ?_
    · intro hsettled
      exact absurd (hsettled.1 _ hheld hn) (by simp)
    · rintro ⟨_, _, heq, -⟩
      cases heq

/-- An interface that was never probed. -/
def Life.fresh : Life := ⟨.blank, false, 0⟩

/-- An interface with one bulk endpoint in each direction. -/
def bulkInterface : Option (List UsbEndpointDescriptor) := some [⟨0x81, 2⟩, ⟨0x02, 2⟩]

theorem settled_iff_no_storage_noStorage :
    ∃ k k' : Life, ∃ l : Life.Event, lifecycle.next k l = some k' ∧ k'.Ended l ∧
      (k'.Settled ↔ ∃ alt e, l = .probe alt e ∧ e.kzalloc = false) := by
  have hk : lifecycle.Reachable .fresh := .init rfl
  have hnext := (Option.some_get (show (lifecycle.next .fresh
    (.probe bulkInterface { kzalloc := false })).isSome = true by decide +kernel)).symm
  have hend : ((lifecycle.next .fresh (.probe bulkInterface { kzalloc := false })).get
      (by decide +kernel)).Ended (.probe bulkInterface { kzalloc := false }) := by decide +kernel
  exact ⟨_, _, _, hnext, hend, (settled_iff_no_storage hk hnext hend .blank {} {}).1⟩

/-- **Resources that are kept**: after a probe without any failure and a disconnect the
inquiry buffer is still held, after a probe that failed at `usb_alloc_urb` the device
structure is, and a second call of `usb_clear_buffer_and_urb` frees `inquiry_urb` again. -/
theorem inquiry_buffer_kept :
    (∃ k k' : Life, ∃ e, lifecycle.Reachable k ∧ lifecycle.next k (.disconnect e) = some k' ∧
      ¬ k'.Settled) ∧
    (∃ k k' : Life, ∃ alt e, lifecycle.Reachable k ∧ lifecycle.next k (.probe alt e) = some k' ∧
      k'.bound = false ∧ ¬ k'.Settled) ∧
    ∃ k : Life, lifecycle.Reachable k ∧ k.bound = true ∧
      (k.drv.cleared {}).ledger.wrong = [] ∧ ((k.drv.cleared {}).cleared {}).ledger.wrong ≠ [] := by
  have hfresh : lifecycle.Reachable .fresh := .init rfl
  have hk := System.reach_get [.probe bulkInterface {}] hfresh (by decide +kernel)
    (by decide +kernel)
  refine ⟨?_, ?_, ?_⟩
  · exact ⟨_, (lifecycle.next _ (.disconnect {})).get (by decide +kernel), {}, hk,
      (Option.some_get _).symm, by decide +kernel⟩
  · exact ⟨_, (lifecycle.next _ (.probe bulkInterface { urb := fun _ => false })).get
      (by decide +kernel), _, _, hfresh, (Option.some_get _).symm, by decide +kernel,
      by decide +kernel⟩
  · exact ⟨_, hk, by decide +kernel, by decide +kernel, by decide +kernel⟩

end KernelDriverLab.Usb
