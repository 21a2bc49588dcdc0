import KernelDriverLab.UsbV1.Probe

/-!
# The data of `usb.c`

`usb.c` is an earlier driver for the same transport: it knows no SCSI layer and
sends one command of its own from a work item.  The two wrappers, the pipes and
the endpoint descriptors are declared as in `usbv1.c` and taken from there; the
macros that build a command block wrapper are new.

The device has five pairs of an URB and a buffer, and each pair is known by the
name that its two fields have in common.  A pointer is `none` for NULL and
otherwise the number the ledger gave to the acquisition.
-/

namespace KernelDriverLab.Usb

open Lib
open UsbV1 (CommandBlockWrapper Pipe)

/-! ## Constants -/

def CBW_SIG : UInt32 := 0x43425355
def CBW_LEN : ℕ := 31
def CSW_LEN : ℕ := 13
def READ_LEN : ℕ := 8
def REQ_LEN : ℕ := 18

def ENODEV : Int := 19

/-! ## The command macros -/

/-- What the macros have in common: every field that is not named keeps the 0 of
the `memset`. -/
def scsiCbw (dataTransferLength : UInt32) (flags cbLength : UInt8) (cdb : List UInt8) :
    CommandBlockWrapper where
  dCBWSignature := CBW_SIG
  dCBWTag := 0x12345678
  dCBWDataTransferLength := dataTransferLength
  bmCBWFlags := flags
  bCBWLUN := 0
  bCBWCBLength := cbLength
  cbwcb := cdb ++ List.replicate (16 - cdb.length) 0

/-- The low-order byte of `x >> n`. -/
def byteAt (x n : UInt32) : UInt8 := ((x >>> n) &&& 0xFF).toUInt8

/-- `SCSI_TEST_UNIT_READY`. -/
def scsiTestUnitReady : CommandBlockWrapper := scsiCbw 0 0x00 6 [0x00]

/-- `SCSI_REQUEST_SENSE`. -/
def scsiRequestSense (allocLen : UInt32) : CommandBlockWrapper :=
  scsiCbw allocLen 0x80 6 [0x03, 0, 0, 0, allocLen.toUInt8]

/-- `SCSI_INQUIRY`. -/
def scsiInquiry (allocLen : UInt32) : CommandBlockWrapper :=
  scsiCbw allocLen 0x80 6 [0x12, 0x00, 0x00, 0x00, byteAt allocLen 0, 0x00]

/-- `SCSI_READ_CAPACITY_10`. -/
def scsiReadCapacity10 : CommandBlockWrapper := scsiCbw 8 0x80 10 [0x25]

/-- `SCSI_READ_10`. -/
def scsiRead10 (lba numBlocks blockSize : UInt32) : CommandBlockWrapper :=
  scsiCbw (numBlocks * blockSize) 0x80 10
    [0x28, byteAt lba 24, byteAt lba 16, byteAt lba 8, byteAt lba 0,
      byteAt numBlocks 8, byteAt numBlocks 0]

/-- `SCSIWRITE_10`. -/
def scsiWrite10 (lba numBlocks blockSize : UInt32) : CommandBlockWrapper :=
  scsiCbw (numBlocks * blockSize) 0x00 10
    [0x2A, byteAt lba 24, byteAt lba 16, byteAt lba 8, byteAt lba 0,
      byteAt numBlocks 8, byteAt numBlocks 0]

/-- A use of one of the macros. -/
inductive ScsiCommand where
  | testUnitReady
  | requestSense (allocLen : UInt32)
  | inquiry (allocLen : UInt32)
  | readCapacity10
  | read10 (lba numBlocks blockSize : UInt32)
  | write10 (lba numBlocks blockSize : UInt32)
deriving DecidableEq, Repr

/-- The wrapper that the macro builds. -/
def ScsiCommand.cbw : ScsiCommand → CommandBlockWrapper
  | testUnitReady => scsiTestUnitReady
  | requestSense n => scsiRequestSense n
  | inquiry n => scsiInquiry n
  | readCapacity10 => scsiReadCapacity10
  | read10 lba n size => scsiRead10 lba n size
  | write10 lba n size => scsiWrite10 lba n size

/-- `CBWCB[0]` of the wrapper that the macro builds. -/
def ScsiCommand.opcode : ScsiCommand → UInt8
  | testUnitReady => 0x00
  | requestSense _ => 0x03
  | inquiry _ => 0x12
  | readCapacity10 => 0x25
  | read10 _ _ _ => 0x28
  | write10 _ _ _ => 0x2A

lemma ScsiCommand.cdb_cbw (c : ScsiCommand) : c.cbw.cdb 0 = c.opcode := by cases c <;> rfl

lemma ScsiCommand.signature_cbw (c : ScsiCommand) : c.cbw.dCBWSignature = CBW_SIG := by
  cases c <;> rfl

/-! ## The device -/

/-- A pointer to something that the ledger numbers; `none` is NULL. -/
abbrev Ptr : Type := Option ℕ

/-- The pairs of an URB and a buffer: `cbw_urb` and `cbw_buffer`, `csw_urb` and
`csw_buffer`, `read_urb` and `read_buf`, `inquiry_urb` and `inquiry_buffer`,
`write_urb` and `write_buffer`. -/
inductive Pair where
  | cbw
  | csw
  | read
  | inquiry
  | write
deriving DecidableEq, Repr

/-- The completion functions. -/
inductive Callback where
  | cbwCallback
  | dataCallback
  | cswCallback
deriving DecidableEq, Repr

/-- The completion function that the driver gives to the URB of a pair. -/
def Pair.callback : Pair → Callback
  | cbw => .cbwCallback
  | csw => .cswCallback
  | read | inquiry | write => .dataCallback

/-- What a ledger entry stands for; buffers carry the size they were allocated
with. -/
inductive Resource where
  | urb
  | coherent (size : ℕ)
  | kmalloc (size : ℕ)
  /-- A `struct my_usb_storage`. -/
  | storage
  | usbDevice
deriving DecidableEq, Repr

/-- The number of bytes in a buffer. -/
def Resource.size : Resource → ℕ
  | coherent n | kmalloc n => n
  | _ => 0

/-- What `usb_alloc_buffer_and_urb` leaves in the buffer field of a pair. -/
def Pair.resource : Pair → Resource
  | cbw => .coherent CBW_LEN
  | csw => .kmalloc CSW_LEN
  | read => .coherent READ_LEN
  | inquiry => .coherent REQ_LEN
  | write => .kmalloc CSW_LEN

/-- The part of `struct urb` that the driver uses.  The context of every URB that
has been filled is the device. -/
structure Urb where
  status : Int
  complete : Option Callback
  pipe : Pipe
  transferBuffer : Option Pair
  transferBufferLength : ℕ
  transferDma : ℕ
  /-- `URB_NO_TRANSFER_DMA_MAP` in `transfer_flags`. -/
  noTransferDmaMap : Bool
deriving DecidableEq, Repr

/-- What `usb_alloc_urb` returns. -/
def Urb.zero : Urb := ⟨0, none, ⟨false, 0⟩, none, 0, 0, false⟩

/-- `struct my_usb_storage`. -/
structure Dev where
  /-- The reference to the `usb_device`. -/
  udev : Ptr
  myCbw : CommandBlockWrapper
  bulkInEndpointaddr : UInt8
  bulkOutEndpointaddr : UInt8
  cbwTag : UInt32
  urb : Pair → Ptr
  buffer : Pair → Ptr
  /-- `cbw_dma`, `read_dma`, `inquiry_dma`. -/
  dma : Pair → ℕ

/-- What `kzalloc` returns. -/
def Dev.zero : Dev := ⟨none, .zero, 0, 0, 0, fun _ => none, fun _ => none, fun _ => 0⟩

end KernelDriverLab.Usb
