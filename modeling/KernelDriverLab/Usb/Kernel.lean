import KernelDriverLab.Usb.Types

/-!
# The operations of `usb.c`

`Op` lists what the functions of `usb.c` do in one atomic step, and `sem` says what
each of them does to the device.  Reading a field of the device is an operation of
its own, so a function that passes `dev->cbw_urb` to the kernel first reads the
device and then makes the call with the value it has read.  An operation on an URB
or a buffer names the pair it belongs to and carries the pointer.

`State.fills` records every call of `usb_fill_bulk_urb` with what was allocated at
that moment.
-/

namespace KernelDriverLab.Usb

open Lib
open UsbV1 (CommandBlockWrapper Pipe EINVAL EBUSY)

/-- A call of `usb_fill_bulk_urb`, and the ledger when it was made. -/
structure Fill where
  urb : Ptr
  buffer : Ptr
  len : ℕ
  held : Ledger Resource

/-- The URB and its buffer are allocated and not freed, and the length is at most
the size that the buffer was allocated with. -/
def Fill.Fits (f : Fill) : Prop :=
  (∃ p ∈ f.held.live, f.urb = some p.1 ∧ p.2 = .urb) ∧
    ∃ p ∈ f.held.live, f.buffer = some p.1 ∧ f.len ≤ p.2.size

instance (f : Fill) : Decidable f.Fits := inferInstanceAs (Decidable (_ ∧ _))

/-- A device and what the kernel knows about it. -/
structure State where
  dev : Dev
  urb : Pair → Urb
  /-- The bytes of the buffers. -/
  buf : Pair → List UInt8
  inflight : Pair → Bool
  ledger : Ledger Resource
  /-- The interface data, a pointer to the device. -/
  intfdata : Ptr
  /-- `my_work` is queued. -/
  scheduled : Bool
  fills : List Fill

namespace State

/-- A device that nothing has been done with. -/
def blank : State :=
  ⟨.zero, fun _ => .zero, fun _ => [], fun _ => false, .empty, none, false, []⟩

@[simps -fullyApplied]
def modDev (s : State) (f : Dev → Dev) : State := { s with dev := f s.dev }

@[simps -fullyApplied]
def modUrb (s : State) (u : Pair) (f : Urb → Urb) : State :=
  { s with urb := Function.update s.urb u (f (s.urb u)) }

@[simps -fullyApplied]
def setBuf (s : State) (b : Pair) (bs : List UInt8) : State :=
  { s with buf := Function.update s.buf b bs }

@[simps -fullyApplied]
def setInflight (s : State) (u : Pair) (v : Bool) : State :=
  { s with inflight := Function.update s.inflight u v }

@[simps -fullyApplied]
def modLedger (s : State) (f : Ledger Resource → Ledger Resource) : State :=
  { s with ledger := f s.ledger }

/-- A fill is recorded with what is held at the moment. -/
@[simps -fullyApplied]
def noteFill (s : State) (urb buffer : Ptr) (len : ℕ) : State :=
  { s with fills := ⟨urb, buffer, len, s.ledger⟩ :: s.fills }

/-- The URB is not in flight any more, and the device has sent these bytes. -/
@[simps -fullyApplied]
def giveBack (s : State) (u : Pair) (status : Int) (received : List UInt8) : State :=
  { s with
    urb := Function.update s.urb u { s.urb u with status := status }
    buf := Function.update s.buf u (overwrite (s.buf u) received)
    inflight := Function.update s.inflight u false }

/-- The release of what the pointer holds, in the form `k`; NULL is ignored. -/
def releasePtr (s : State) (p : Ptr) (k : Resource) : State :=
  match p with
  | none => s
  | some i => s.modLedger (·.release i k)

/-- `kfree`, which gives back what `kmalloc` and `kzalloc` returned. -/
def kfree (s : State) (p : Ptr) : State :=
  match p with
  | none => s
  | some i => match s.ledger.live.find? (·.1 = i) with
    | some (_, .kmalloc n) => s.modLedger (·.release i (.kmalloc n))
    | some (_, .storage) => s.modLedger (·.release i .storage)
    | _ => s.modLedger (·.release i (.kmalloc 0))

/-! A release changes nothing but the ledger. -/

section Release

variable {s : State} (p : Ptr) (k : Resource)

lemma releasePtr_eq : ∃ f, s.releasePtr p k = s.modLedger f := by
  cases p with
  | none => exact ⟨id, rfl⟩
  | some i => exact ⟨(·.release i k), rfl⟩

lemma kfree_eq : ∃ f, s.kfree p = s.modLedger f := by
  cases p with
  | none => exact ⟨id, rfl⟩
  | some i =>
    simp only [kfree]
    split <;> exact ⟨_, rfl⟩

@[simp] lemma releasePtr_dev : (s.releasePtr p k).dev = s.dev := by
  obtain ⟨f, hf⟩ := releasePtr_eq (s := s) p k
  simp [hf]

@[simp] lemma releasePtr_urb : (s.releasePtr p k).urb = s.urb := by
  obtain ⟨f, hf⟩ := releasePtr_eq (s := s) p k
  simp [hf]

@[simp] lemma releasePtr_inflight : (s.releasePtr p k).inflight = s.inflight := by
  obtain ⟨f, hf⟩ := releasePtr_eq (s := s) p k
  simp [hf]

@[simp] lemma releasePtr_intfdata : (s.releasePtr p k).intfdata = s.intfdata := by
  obtain ⟨f, hf⟩ := releasePtr_eq (s := s) p k
  simp [hf]

@[simp] lemma releasePtr_fills : (s.releasePtr p k).fills = s.fills := by
  obtain ⟨f, hf⟩ := releasePtr_eq (s := s) p k
  simp [hf]

@[simp] lemma kfree_dev : (s.kfree p).dev = s.dev := by
  obtain ⟨f, hf⟩ := kfree_eq (s := s) p
  simp [hf]

@[simp] lemma kfree_urb : (s.kfree p).urb = s.urb := by
  obtain ⟨f, hf⟩ := kfree_eq (s := s) p
  simp [hf]

@[simp] lemma kfree_inflight : (s.kfree p).inflight = s.inflight := by
  obtain ⟨f, hf⟩ := kfree_eq (s := s) p
  simp [hf]

@[simp] lemma kfree_intfdata : (s.kfree p).intfdata = s.intfdata := by
  obtain ⟨f, hf⟩ := kfree_eq (s := s) p
  simp [hf]

@[simp] lemma kfree_fills : (s.kfree p).fills = s.fills := by
  obtain ⟨f, hf⟩ := kfree_eq (s := s) p
  simp [hf]

end Release

end State

/-- The operations. -/
inductive Op where
  | readDev
  | setUdev (p : Ptr)
  | setMyCbw (cbw : CommandBlockWrapper)
  | setCbwTag (tag : UInt32)
  | setBulkIn (a : UInt8)
  | setBulkOut (a : UInt8)
  | setUrb (u : Pair) (p : Ptr)
  | setBuffer (b : Pair) (p : Ptr)
  | setDma (b : Pair) (addr : ℕ)
  /-- Store into `transfer_dma` of an URB. -/
  | setTransferDma (u : Pair) (urb : Ptr) (addr : ℕ)
  /-- Set `URB_NO_TRANSFER_DMA_MAP` in `transfer_flags` of an URB. -/
  | setNoTransferDmaMap (u : Pair) (urb : Ptr)
  | readBuf (b : Pair)
  | writeBuf (b : Pair) (buffer : Ptr) (bs : List UInt8)
  | kzalloc
  | kmalloc (b : Pair) (size : ℕ)
  | usbAllocCoherent (b : Pair) (size : ℕ)
  | usbAllocUrb (u : Pair)
  | usbFreeUrb (u : Pair) (urb : Ptr)
  | usbFreeCoherent (b : Pair) (buffer : Ptr) (size : ℕ)
  | kfree (b : Pair) (buffer : Ptr)
  | kfreeDev (dev : Ptr)
  | usbFillBulkUrb (u : Pair) (urb buffer : Ptr) (pipe : Pipe) (len : ℕ) (cb : Callback)
  | usbSubmitUrb (u : Pair) (urb : Ptr)
  | usbKillUrb (u : Pair) (urb : Ptr)
  | usbClearHalt (pipe : Pipe)
  | usbGetDev
  | usbPutDev (udev : Ptr)
  | usbGetIntfdata
  | usbSetIntfdata (dev : Ptr)
  | msleep
  | scheduleWork
  /-- A null pointer is dereferenced. -/
  | oops

/-- The type of the answer to an operation. -/
@[reducible] def Op.Ans : Op → Type
  | readDev => Dev
  | readBuf _ => List UInt8
  | kzalloc | kmalloc _ _ | usbAllocUrb _ | usbGetIntfdata => Ptr
  | usbAllocCoherent _ _ => Option (ℕ × ℕ)
  | usbGetDev => ℕ
  | usbSubmitUrb _ _ | usbClearHalt _ => Int
  | oops => Empty
  | _ => Unit

/-- A driver function that returns an `α`. -/
abbrev Driver (α : Type) : Type := Prog Op Op.Ans α

/-- The choices of the kernel during one call of a driver function. -/
structure Env where
  /-- The return value of `usb_submit_urb` on an URB that is not in flight. -/
  submit : Int := 0
  kzalloc : Bool := true
  /-- Whether `kmalloc` returns a buffer for each pair. -/
  kmalloc : Pair → Bool := fun _ => true
  /-- The DMA address of the buffer that `usb_alloc_coherent` returns for each pair,
  if it returns one. -/
  coherent : Pair → Option ℕ := fun _ => some 0
  /-- Whether `usb_alloc_urb` returns an URB for each pair. -/
  urb : Pair → Bool := fun _ => true
  /-- The bytes that a new buffer holds. -/
  found : Pair → ℕ → UInt8 := fun _ _ => 0
  clearHalt : Int := 0

/-- A new buffer for the pair `b`. -/
def State.newBuffer (s : State) (e : Env) (b : Pair) (k : Resource) : State :=
  (s.modLedger (·.acquire k)).setBuf b ((List.range k.size).map (e.found b))

/-- What each operation does.  `usb_kill_urb` gives the URB back with the status
`-ENOENT`, on which no completion function of this driver changes anything. -/
def sem (e : Env) : Prog.Sem Op Op.Ans State
  | .readDev, s => .done s.dev s
  | .setUdev p, s => .done () (s.modDev fun d => { d with udev := p })
  | .setMyCbw cbw, s => .done () (s.modDev fun d => { d with myCbw := cbw })
  | .setCbwTag tag, s => .done () (s.modDev fun d => { d with cbwTag := tag })
  | .setBulkIn a, s => .done () (s.modDev fun d => { d with bulkInEndpointaddr := a })
  | .setBulkOut a, s => .done () (s.modDev fun d => { d with bulkOutEndpointaddr := a })
  | .setUrb u p, s => .done () (s.modDev fun d => { d with urb := Function.update d.urb u p })
  | .setBuffer b p, s =>
      .done () (s.modDev fun d => { d with buffer := Function.update d.buffer b p })
  | .setDma b addr, s => .done () (s.modDev fun d => { d with dma := Function.update d.dma b addr })
  | .setTransferDma u urb addr, s => match urb with
    | none => .oops s
    | some _ => .done () (s.modUrb u fun r => { r with transferDma := addr })
  | .setNoTransferDmaMap u urb, s => match urb with
    | none => .oops s
    | some _ => .done () (s.modUrb u fun r => { r with noTransferDmaMap := true })
  | .readBuf b, s => .done (s.buf b) s
  | .writeBuf b buffer bs, s => match buffer with
    | none => .oops s
    | some _ => .done () (s.setBuf b (overwrite (s.buf b) bs))
  | .kzalloc, s =>
      if e.kzalloc then
        .done (some s.ledger.next) ((s.modLedger (·.acquire .storage)).modDev fun _ => .zero)
      else .done none s
  | .kmalloc b size, s =>
      if e.kmalloc b then .done (some s.ledger.next) (s.newBuffer e b (.kmalloc size))
      else .done none s
  | .usbAllocCoherent b size, s => match e.coherent b with
    | none => .done none s
    | some addr => .done (some (s.ledger.next, addr)) (s.newBuffer e b (.coherent size))
  | .usbAllocUrb u, s =>
      if e.urb u then
        .done (some s.ledger.next)
          (((s.modLedger (·.acquire .urb)).modUrb u fun _ => .zero).setInflight u false)
      else .done none s
  | .usbFreeUrb _ urb, s => .done () (s.releasePtr urb .urb)
  | .usbFreeCoherent _ buffer size, s => .done () (s.releasePtr buffer (.coherent size))
  | .kfree _ buffer, s => .done () (s.kfree buffer)
  | .kfreeDev dev, s => .done () (s.kfree dev)
  | .usbFillBulkUrb u urb buffer pipe len cb, s => match urb with
    | none => .oops (s.noteFill urb buffer len)
    | some _ => .done () ((s.noteFill urb buffer len).modUrb u fun r =>
        { r with
          pipe := pipe
          transferBuffer := buffer.map fun _ => u
          transferBufferLength := len
          complete := some cb })
  | .usbSubmitUrb u urb, s =>
      if urb = none ∨ (s.urb u).complete = none then .done (-EINVAL) s
      else if s.inflight u then .done (-EBUSY) s
      else .done e.submit (if e.submit = 0 then s.setInflight u true else s)
  | .usbKillUrb u urb, s => .done () (if urb = none then s else s.setInflight u false)
  | .usbClearHalt _, s => .done e.clearHalt s
  | .usbGetDev, s => .done s.ledger.next (s.modLedger (·.acquire .usbDevice))
  | .usbPutDev udev, s => .done () (s.releasePtr udev .usbDevice)
  | .usbGetIntfdata, s => .done s.intfdata s
  | .usbSetIntfdata dev, s => .done () { s with intfdata := dev }
  | .msleep, s => .done () s
  | .scheduleWork, s => .done () { s with scheduled := true }
  | .oops, s => .oops s

end KernelDriverLab.Usb
