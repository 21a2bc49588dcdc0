import KernelDriverLab.UsbV1.Types
import Mathlib.Tactic.Simps.Basic

/-!
# The state of one device

`Dev` is `struct my_usb_storage` without the field `active_scmd`, which stands
apart in `State` because its single accesses matter.  `State` holds the driver's
structure, the URBs and buffers it points to, the commands of the SCSI layer, and
what the kernel records: which URBs are in flight and for which command each was
submitted, the calls of `scsi_done`, and the ledger of what is held.
-/

namespace KernelDriverLab.UsbV1

open Lib

/-- The number by which a `struct scsi_cmnd` is known. -/
abbrev CmndId : Type := ℕ

/-- `enum dma_data_direction`. -/
inductive DmaDataDirection where
  | dmaBidirectional
  | dmaToDevice
  | dmaFromDevice
  | dmaNone
deriving DecidableEq, Repr

/-- The URBs of a device, by the field that points to them: `cbw_urb`, `sec_urb`,
`csw_urb`, `data_urb`. -/
inductive UrbId where
  | cbw
  | sec
  | csw
  | data
deriving DecidableEq, Repr

/-- The buffers of a device, by the field that points to them: `cbw_buffer`,
`sec_buffer`, `csw_buffer`, `data_buffer`. -/
inductive BufId where
  | cbw
  | sec
  | csw
  | data
deriving DecidableEq, Repr

/-- The completion functions. -/
inductive Callback where
  | cbwCallback
  | dataCallback
  | cswCallback
deriving DecidableEq, Repr

/-- The buffer that the driver gives to an URB. -/
def UrbId.buf : UrbId → BufId
  | .cbw => .cbw
  | .sec => .sec
  | .csw => .csw
  | .data => .data

/-- The completion function that the driver gives to an URB. -/
def UrbId.callback : UrbId → Callback
  | .cbw | .sec => .cbwCallback
  | .csw => .cswCallback
  | .data => .dataCallback

/-- A bulk pipe: its direction and its endpoint address. -/
structure Pipe where
  dirIn : Bool
  endpoint : UInt8
deriving DecidableEq, Repr

/-- What a ledger entry stands for; buffers carry the size they were allocated
with. -/
inductive Resource where
  | urb
  | coherent (size : ℕ)
  | kmalloc (size : ℕ)
  | usbDevice
  | scsiHost
deriving DecidableEq, Repr

/-- The part of `struct scsi_cmnd` that the driver uses; the scatter-gather list
is taken as one contiguous run of `length` bytes. -/
structure Cmnd where
  /-- The command descriptor block, `cmnd[32]`. -/
  cmnd : List UInt8
  cmnd_length : cmnd.length = 32
  cmdLen : UInt16
  scDataDirection : DmaDataDirection
  /-- `sdb.length`, which `scsi_bufflen` returns. -/
  length : UInt32
  data : List UInt8
  data_length : data.length = length.toNat
  result : ℕ
  resid : UInt32

/-- The command after `bs` has been copied to the start of its data. -/
def Cmnd.store (c : Cmnd) (bs : List UInt8) : Cmnd :=
  { c with
    data := (overwrite c.data bs).take c.length.toNat
    data_length := by
      have := c.data_length
      simp [overwrite]
      omega }

/-- The part of `struct urb` that the driver uses. -/
structure Urb where
  status : Int
  actualLength : UInt32
  /-- Whether `context` points to the device structure; it is NULL otherwise. -/
  context : Bool
  complete : Option Callback
  pipe : Pipe
  transferBuffer : Option BufId
  transferBufferLength : UInt32
  transferDma : ℕ
  /-- `URB_NO_TRANSFER_DMA_MAP` in `transfer_flags`. -/
  noTransferDmaMap : Bool
deriving DecidableEq, Repr

/-- What `usb_alloc_urb` returns. -/
def Urb.zero : Urb := ⟨0, 0, false, none, ⟨false, 0⟩, none, 0, 0, false⟩

/-- `struct my_usb_storage` without `active_scmd`. -/
structure Dev where
  /-- The reference to the `usb_device`. -/
  udev : Option ℕ
  cbw : CommandBlockWrapper
  bufferlength : UInt32
  direction : DmaDataDirection
  bulkInEndpointaddr : UInt8
  bulkOutEndpointaddr : UInt8
  cbwTag : UInt32
  count : ℕ
  /-- The pointers `cbw_urb`, `sec_urb`, `csw_urb`, `data_urb`. -/
  urb : UrbId → Option ℕ
  /-- The pointers `cbw_buffer`, `sec_buffer`, `csw_buffer`, `data_buffer`. -/
  buffer : BufId → Option ℕ
  /-- The addresses `cbw_dma`, `sec_dma`, `csw_dma`, `data_dma`. -/
  dma : BufId → ℕ

/-- The zeroed structure at the end of a fresh `struct Scsi_Host`. -/
def Dev.zero : Dev :=
  ⟨none, .zero, 0, .dmaBidirectional, 0, 0, 0, 0, fun _ => none, fun _ => none, fun _ => 0⟩

/-- A device, the commands it serves and what the kernel knows about both. -/
structure State where
  dev : Dev
  /-- `dev->active_scmd`. -/
  activeScmd : Option CmndId
  urb : UrbId → Urb
  /-- The bytes of the buffers that the CPU sees. -/
  buf : BufId → List UInt8
  /-- The bytes that the host controller sees at the addresses of the coherent
  data buffers. -/
  dmaMem : ℕ → UInt8
  /-- The bytes that `usb_alloc_coherent` found at those addresses. -/
  fresh : ℕ → UInt8
  /-- The bytes of the kernel image behind a response table. -/
  adjacent : ℕ → UInt8
  cmnd : CmndId → Cmnd
  /-- The command for which an URB in flight was submitted. -/
  inflight : UrbId → Option CmndId
  /-- The arguments of the calls of `scsi_done`, the latest first. -/
  done : List CmndId
  /-- The URBs that were filled or submitted while they were in flight. -/
  clash : List UrbId
  ledger : Ledger Resource
  /-- The interface data, a reference to the `Scsi_Host`. -/
  host : Option ℕ

namespace State

/-! ## Updates, one component each -/

@[simps -fullyApplied]
def modDev (s : State) (f : Dev → Dev) : State := { s with dev := f s.dev }

@[simps -fullyApplied]
def setActive (s : State) (c : Option CmndId) : State := { s with activeScmd := c }

@[simps -fullyApplied]
def modUrb (s : State) (u : UrbId) (f : Urb → Urb) : State :=
  { s with urb := Function.update s.urb u (f (s.urb u)) }

@[simps -fullyApplied]
def setBuf (s : State) (b : BufId) (bs : List UInt8) : State :=
  { s with buf := Function.update s.buf b bs }

@[simps -fullyApplied]
def modCmnd (s : State) (c : CmndId) (f : Cmnd → Cmnd) : State :=
  { s with cmnd := Function.update s.cmnd c (f (s.cmnd c)) }

@[simps -fullyApplied]
def setInflight (s : State) (u : UrbId) (c : Option CmndId) : State :=
  { s with inflight := Function.update s.inflight u c }

@[simps -fullyApplied]
def setHost (s : State) (h : Option ℕ) : State := { s with host := h }

/-- `scsi_done` is called for `c`. -/
@[simps -fullyApplied]
def addDone (s : State) (c : CmndId) : State := { s with done := c :: s.done }

/-- `u` is filled or submitted while it is in flight. -/
@[simps -fullyApplied]
def addClash (s : State) (u : UrbId) : State := { s with clash := u :: s.clash }

@[simps -fullyApplied]
def modLedger (s : State) (f : Ledger Resource → Ledger Resource) : State :=
  { s with ledger := f s.ledger }

/-- The memory that the host controller sees at the `n` addresses from `addr`. -/
def dmaBytes (s : State) (addr n : ℕ) : List UInt8 :=
  (List.range n).map fun i => s.dmaMem (addr + i)

/-- What `usb_alloc_coherent` found at the `n` addresses from `addr`. -/
def freshBytes (s : State) (addr n : ℕ) : List UInt8 :=
  (List.range n).map fun i => s.fresh (addr + i)

end State

end KernelDriverLab.UsbV1
