import KernelDriverLab.Lib.Account
import KernelDriverLab.Lib.Throughout
import KernelDriverLab.UsbTest.Driver

/-!
# What `Test_usb_driver.c` accesses

`Op.Inside n o s` says that everything that the operation `o` reads or writes in the state `s` is
allocated and large enough: the device structure, which has the number `n`, the URBs, the buffers
and the `usb_device`.  Under `checked` an execution stops at the first operation that is not
inside, so a function that returns has accessed nothing else.
-/

namespace KernelDriverLab.UsbTest

open Lib Prog
open Usb (Pair Ptr Callback Dev Urb State Op Env Driver Resource CBW_LEN CSW_LEN readDev setCbwTag
  setMyCbw setUrb setBuffer readCbw readCsw readBuf kfree usbKillUrb usbFreeUrb usbSubmitUrb
  usbFillBulkUrb usbClearHalt memcpyTo allocKmalloc allocUrb bulkPipe)
open UsbV1 (CommandBlockWrapper)

/-- `k` with the number `i` is allocated. -/
def Has (s : State) (i : ℕ) (k : Resource) : Prop := (i, k) ∈ s.ledger.live

instance (s : State) (i : ℕ) (k : Resource) : Decidable (Has s i k) :=
  inferInstanceAs (Decidable (_ ∈ _))

/-- There are `len` bytes behind the pointer. -/
def HasBytes (s : State) (p : Ptr) (len : ℕ) : Prop :=
  ∃ x ∈ s.ledger.live, p = some x.1 ∧ len ≤ x.2.size

instance (s : State) (p : Ptr) (len : ℕ) : Decidable (HasBytes s p len) :=
  inferInstanceAs (Decidable (∃ x ∈ _, _))

/-- The device has its `usb_device`. -/
def HasUdev (s : State) : Prop := ∃ m ∈ s.dev.udev, Has s m .usbDevice

instance (s : State) : Decidable (HasUdev s) := inferInstanceAs (Decidable (∃ m ∈ _, _))

/-- What the completion function of an URB of a pair reads of its buffer. -/
def wrapperLen : Pair → ℕ
  | .csw => CSW_LEN
  | _ => CBW_LEN

/-- What an operation reads and writes is allocated. -/
def Op.Inside (n : ℕ) : Op → State → Prop
  | .readDev, s | .setUdev _, s | .setMyCbw _, s | .setCbwTag _, s | .setBulkIn _, s
  | .setBulkOut _, s | .setUrb _ _, s | .setBuffer _ _, s | .setDma _ _, s | .scheduleWork, s =>
      Has s n .storage
  | .readBuf b, s => HasBytes s (s.dev.buffer b) (wrapperLen b)
  | .writeBuf _ buffer bs, s => HasBytes s buffer bs.length
  | .setTransferDma _ urb _, s | .setNoTransferDmaMap _ urb, s => ∃ i ∈ urb, Has s i .urb
  | .usbFillBulkUrb _ urb _ _ _ _, s => (∃ i ∈ urb, Has s i .urb) ∧ HasUdev s
  -- for these NULL is as good as an URB
  | .usbSubmitUrb _ urb, s | .usbKillUrb _ urb, s | .usbFreeUrb _ urb, s =>
      ∀ i ∈ urb, Has s i .urb
  | .kfree _ p, s | .kfreeDev p, s | .usbFreeCoherent _ p _, s =>
      ∀ i ∈ p, ∃ x ∈ s.ledger.live, x.1 = i
  | .usbPutDev p, s => ∀ i ∈ p, Has s i .usbDevice
  | .usbClearHalt _, s => HasUdev s
  | .oops, _ => False
  | _, _ => True

instance (n : ℕ) : (o : Op) → (s : State) → Decidable (Op.Inside n o s)
  | .readDev, _ | .setUdev _, _ | .setMyCbw _, _ | .setCbwTag _, _ | .setBulkIn _, _
  | .setBulkOut _, _ | .setUrb _ _, _ | .setBuffer _ _, _ | .setDma _ _, _ | .scheduleWork, _ =>
      inferInstanceAs (Decidable (Has _ _ _))
  | .readBuf _, _ | .writeBuf _ _ _, _ => inferInstanceAs (Decidable (HasBytes _ _ _))
  | .setTransferDma _ _ _, _ | .setNoTransferDmaMap _ _, _ =>
      inferInstanceAs (Decidable (∃ i ∈ _, _))
  | .usbFillBulkUrb _ _ _ _ _ _, _ => inferInstanceAs (Decidable (_ ∧ _))
  | .usbSubmitUrb _ _, _ | .usbKillUrb _ _, _ | .usbFreeUrb _ _, _ | .kfree _ _, _
  | .kfreeDev _, _ | .usbFreeCoherent _ _ _, _ | .usbPutDev _, _ =>
      inferInstanceAs (Decidable (∀ i ∈ _, _))
  | .usbClearHalt _, _ => inferInstanceAs (Decidable (HasUdev _))
  | .oops, _ => inferInstanceAs (Decidable False)
  | .kzalloc, _ | .kmalloc _ _, _ | .usbAllocCoherent _ _, _ | .usbAllocUrb _, _ | .usbGetDev, _
  | .usbGetIntfdata, _ | .usbSetIntfdata _, _ | .msleep, _ => inferInstanceAs (Decidable True)

/-- The meaning of the operations on the device structure `n`, up to the first access outside. -/
def checked (n : ℕ) (e : Env) : Prog.Sem Op Op.Ans State := guarded (Op.Inside n) (sem e)

lemma HasBytes.of_has {s : State} {i m len : ℕ} (h : Has s i (.kmalloc m)) (hlen : len ≤ m) :
    HasBytes s (some i) len := ⟨_, h, rfl, hlen⟩

/-- A release strikes nothing of another form. -/
lemma has_release {s : State} {i j : ℕ} {k k' : Resource} (hne : k ≠ k') :
    Has (s.modLedger (·.release j k')) i k ↔ Has s i k := by
  show (i, k) ∈ s.ledger.live.erase (j, k') ↔ (i, k) ∈ s.ledger.live
  exact List.mem_erase_of_ne fun heq => hne (Prod.mk.inj heq).2

/-! ## Single calls -/

section Calls

variable {e : Env} {s : State} {u b p : Pair} {n i j m base : ℕ}

lemma run_checked {o : Op} (h : Op.Inside n o s) : run (checked n e) (op o) s = sem e o s :=
  run_op_guarded h

lemma run_readDev (hn : Has s n .storage) : run (checked n e) readDev s = .done s.dev s :=
  run_checked (o := .readDev) hn

lemma run_setUrb (hn : Has s n .storage) (x : Ptr) : run (checked n e) (setUrb u x) s =
    .done () (s.modDev fun d => { d with urb := Function.update d.urb u x }) :=
  run_checked (o := .setUrb u x) hn

lemma run_setBuffer (hn : Has s n .storage) (x : Ptr) : run (checked n e) (setBuffer u x) s =
    .done () (s.modDev fun d => { d with buffer := Function.update d.buffer u x }) :=
  run_checked (o := .setBuffer u x) hn

lemma run_setMyCbw (hn : Has s n .storage) (cbw : CommandBlockWrapper) :
    run (checked n e) (setMyCbw cbw) s = .done () (s.modDev fun d => { d with myCbw := cbw }) :=
  run_checked (o := .setMyCbw cbw) hn

lemma run_setCbwTag (hn : Has s n .storage) (tag : UInt32) :
    run (checked n e) (setCbwTag tag) s = .done () (s.modDev fun d => { d with cbwTag := tag }) :=
  run_checked (o := .setCbwTag tag) hn

lemma run_usbKillUrb (hn : Has s n .storage) (hu : ∀ i ∈ s.dev.urb u, Has s i .urb)
    (hidle : s.inflight u = false) : run (checked n e) (usbKillUrb u) s = .done () s := by
  have hsame : s.setInflight u false = s := by
    have hupdate : Function.update s.inflight u false = s.inflight := by
      rw [← hidle, Function.update_eq_self]
    rw [State.setInflight, hupdate]
  rw [usbKillUrb, run_bind, run_readDev hn]
  refine (run_checked (o := .usbKillUrb u (s.dev.urb u)) hu).trans ?_
  cases hp : s.dev.urb u with
  | none => rfl
  | some i => simp [sem, Op.killsBusy, Usb.sem, hidle, hsame]

lemma run_usbFreeUrb (hn : Has s n .storage) (hu : s.dev.urb u = some i) (hi : Has s i .urb) :
    run (checked n e) (usbFreeUrb u) s = .done () (s.modLedger (·.release i .urb)) := by
  rw [usbFreeUrb, run_bind, run_readDev hn]
  refine (run_checked (o := .usbFreeUrb u (s.dev.urb u)) fun j hj => ?_).trans ?_
  · obtain rfl : i = j := Option.some.inj (hu.symm.trans hj)
    exact hi
  · rw [hu]
    rfl

lemma run_kfree {τ : Type} {held : τ → Option (ℕ × Resource)} {t : τ}
    (h : s.ledger.Account base held) (hn : Has s n .storage) (hb : s.dev.buffer b = some j)
    (hheld : held t = some (j, .kmalloc m)) :
    run (checked n e) (kfree b) s = .done () (s.modLedger (·.release j (.kmalloc m))) := by
  rw [kfree, run_bind, run_readDev hn]
  refine (run_checked (o := .kfree b (s.dev.buffer b)) fun i hi => ?_).trans ?_
  · obtain rfl : j = i := Option.some.inj (hb.symm.trans hi)
    exact ⟨_, h.mem_live hheld, rfl⟩
  · simp [sem, Op.killsBusy, Usb.sem, hb, State.kfree, h.find? hheld]

lemma run_memcpyTo {bs : List UInt8} (hn : Has s n .storage)
    (hb : HasBytes s (s.dev.buffer b) bs.length) :
    run (checked n e) (memcpyTo b bs) s = .done () (s.setBuf b (overwrite (s.buf b) bs)) := by
  rw [memcpyTo, run_bind, run_readDev hn]
  refine (run_checked (o := .writeBuf b (s.dev.buffer b) bs) hb).trans ?_
  obtain ⟨x, -, hx, -⟩ := hb
  rw [hx]
  rfl

lemma run_readCbw (h : HasBytes s (s.dev.buffer b) (wrapperLen b)) :
    run (checked n e) (readCbw b) s = .done (.ofBytes (s.buf b)) s := by
  rw [readCbw, run_bind, readBuf, run_checked (o := .readBuf b) h]
  rfl

lemma run_readCsw (h : HasBytes s (s.dev.buffer b) (wrapperLen b)) :
    run (checked n e) (readCsw b) s = .done (.ofBytes (s.buf b)) s := by
  rw [readCsw, run_bind, readBuf, run_checked (o := .readBuf b) h]
  rfl

lemma run_usbClearHalt (hn : Has s n .storage) (hudev : HasUdev s) (dirIn : Bool) :
    run (checked n e) (usbClearHalt dirIn) s = .done () s := by
  rw [usbClearHalt, run_bind, run_readDev hn]
  dsimp only
  rw [run_bind, run_checked (o := .usbClearHalt _) hudev]
  rfl

/-- The device after a call of `usb_fill_bulk_urb`. -/
def filledBy (s : State) (u : Pair) (dirIn : Bool) (len : ℕ) (cb : Callback) : State :=
  (s.noteFill (s.dev.urb u) (s.dev.buffer u) len).modUrb u fun r =>
    { r with
      pipe := bulkPipe dirIn s.dev
      transferBuffer := (s.dev.buffer u).map fun _ => u
      transferBufferLength := len
      complete := some cb }

lemma run_usbFillBulkUrb {dirIn : Bool} {len : ℕ} {cb : Callback} (hn : Has s n .storage)
    (hu : s.dev.urb u = some i) (hi : Has s i .urb) (hudev : HasUdev s) :
    run (checked n e) (usbFillBulkUrb u dirIn len cb) s =
      .done () (filledBy s u dirIn len cb) := by
  rw [usbFillBulkUrb, run_bind, run_readDev hn, filledBy]
  dsimp only
  rw [run_checked (o := .usbFillBulkUrb ..) ⟨⟨i, hu, hi⟩, hudev⟩, hu]
  rfl

lemma run_usbSubmitUrb (hn : Has s n .storage) (hu : s.dev.urb u = some i) (hi : Has s i .urb)
    (hcomplete : (s.urb u).complete ≠ none) (hidle : s.inflight u = false) :
    run (checked n e) (usbSubmitUrb u) s =
      .done e.submit (if e.submit = 0 then s.setInflight u true else s) := by
  rw [usbSubmitUrb, run_bind, run_readDev hn]
  dsimp only
  rw [run_checked (o := .usbSubmitUrb u (s.dev.urb u)) fun j hj => by
    obtain rfl : i = j := Option.some.inj (hu.symm.trans hj)
    exact hi]
  simp [sem, Op.killsBusy, Usb.sem, hu, hcomplete, hidle]

/-! ### Allocations -/

lemma run_allocKmalloc_none (hn : Has s n .storage) (hk : e.kmalloc p = false) :
    run (checked n e) (allocKmalloc p m) s =
      .done false (s.modDev fun d => { d with buffer := Function.update d.buffer p none }) := by
  have hkmalloc : sem e (.kmalloc p m) s = .done none s := by
    simp [sem, Op.killsBusy, Usb.sem, hk]
  rw [allocKmalloc, run_bind, run_checked (o := .kmalloc p m) trivial, hkmalloc]
  dsimp only
  rw [run_bind, run_setBuffer hn]
  rfl

/-- The state with a new buffer for a pair. -/
def withBuffer (s : State) (e : Env) (p : Pair) (m : ℕ) : State :=
  (s.newBuffer e p (.kmalloc m)).modDev fun d =>
    { d with buffer := Function.update d.buffer p (some s.ledger.next) }

lemma has_withBuffer {k : Resource} (h : Has s i k) : Has (withBuffer s e p m) i k :=
  List.mem_cons_of_mem _ h

lemma run_allocKmalloc_some (hn : Has s n .storage) (hk : e.kmalloc p = true) :
    run (checked n e) (allocKmalloc p m) s = .done true (withBuffer s e p m) := by
  have hkmalloc : sem e (.kmalloc p m) s =
      .done (some s.ledger.next) (s.newBuffer e p (.kmalloc m)) := by
    simp [sem, Op.killsBusy, Usb.sem, hk]
  have hnew : Has (s.newBuffer e p (.kmalloc m)) n .storage := List.mem_cons_of_mem _ hn
  rw [allocKmalloc, run_bind, run_checked (o := .kmalloc p m) trivial, hkmalloc]
  dsimp only
  rw [run_bind, run_setBuffer hnew]
  rfl

lemma run_allocUrb_none (hn : Has s n .storage) (hu : e.urb p = false) :
    run (checked n e) (allocUrb p) s =
      .done false (s.modDev fun d => { d with urb := Function.update d.urb p none }) := by
  have halloc : sem e (.usbAllocUrb p) s = .done none s := by
    simp [sem, Op.killsBusy, Usb.sem, hu]
  rw [allocUrb, run_bind, run_checked (o := .usbAllocUrb p) trivial, halloc]
  dsimp only
  rw [run_bind, run_setUrb hn]
  rfl

/-- The state with a new URB for a pair. -/
def withUrb (s : State) (p : Pair) : State :=
  (((s.modLedger (·.acquire .urb)).modUrb p fun _ => .zero).setInflight p false).modDev fun d =>
    { d with urb := Function.update d.urb p (some s.ledger.next) }

lemma run_allocUrb_some (hn : Has s n .storage) (hu : e.urb p = true) :
    run (checked n e) (allocUrb p) s = .done true (withUrb s p) := by
  have halloc : sem e (.usbAllocUrb p) s = .done (some s.ledger.next)
      (((s.modLedger (·.acquire .urb)).modUrb p fun _ => .zero).setInflight p false) := by
    simp [sem, Op.killsBusy, Usb.sem, hu]
  have hnew : Has (((s.modLedger (·.acquire .urb)).modUrb p fun _ => .zero).setInflight p false)
      n .storage := List.mem_cons_of_mem _ hn
  rw [allocUrb, run_bind, run_checked (o := .usbAllocUrb p) trivial, halloc]
  dsimp only
  rw [run_bind, run_setUrb hnew]
  rfl

end Calls

end KernelDriverLab.UsbTest
