import KernelDriverLab.Usb.Kernel

/-!
# The functions of `usb.c`

The functions of the driver as programs over the operations of the kernel.  The
messages are left out.  A completion function gets the URB it is called for as it
is when it is given back; its status does not change while the function runs.

The six commands of `cbw_callback` are one definition each, because they differ in
the pair they use, in the length, in whether they pass a DMA address, and in the
order of the stores when the submission fails.  `usb_alloc_buffer_and_urb` and
`usb_clear_buffer_and_urb` release a pair by the same statements, `clearPair`, with
the fields that each block really names.
-/

namespace KernelDriverLab.Usb

open Lib
open UsbV1 (CommandBlockWrapper CommandStatusWrapper UsbEndpointDescriptor EINVAL ENOMEM ENOENT)

/-! ## Single operations -/

section Wrappers

def readDev : Driver Dev := .op Op.readDev
def setCbwTag (tag : UInt32) : Driver Unit := .op (Op.setCbwTag tag)
def setMyCbw (cbw : CommandBlockWrapper) : Driver Unit := .op (Op.setMyCbw cbw)
def setUrb (u : Pair) (p : Ptr) : Driver Unit := .op (Op.setUrb u p)
def setBuffer (b : Pair) (p : Ptr) : Driver Unit := .op (Op.setBuffer b p)
def readBuf (b : Pair) : Driver (List UInt8) := .op (Op.readBuf b)
def kfreeDev (p : Ptr) : Driver Unit := .op (Op.kfreeDev p)
def usbGetIntfdata : Driver Ptr := .op Op.usbGetIntfdata
def usbSetIntfdata (p : Ptr) : Driver Unit := .op (Op.usbSetIntfdata p)
def msleep : Driver Unit := .op Op.msleep
def oops {α : Type} : Driver α := .act .oops Empty.elim

end Wrappers

/-! ## Calls that read the device for their arguments -/

section Calls

/-- `memset` or `memcpy` to `dev->b`. -/
def memcpyTo (b : Pair) (bs : List UInt8) : Driver Unit := do
  .op (Op.writeBuf b ((← readDev).buffer b) bs)

/-- `usb_rcvbulkpipe` or `usb_sndbulkpipe` of the device. -/
def bulkPipe (dirIn : Bool) (dev : Dev) : UsbV1.Pipe :=
  ⟨dirIn, if dirIn then dev.bulkInEndpointaddr else dev.bulkOutEndpointaddr⟩

/-- `usb_fill_bulk_urb(dev->u, dev->udev, .., len, cb, dev)` with the buffer of the
same pair. -/
def usbFillBulkUrb (u : Pair) (dirIn : Bool) (len : ℕ) (cb : Callback) : Driver Unit := do
  let dev ← readDev
  .op (Op.usbFillBulkUrb u (dev.urb u) (dev.buffer u) (bulkPipe dirIn dev) len cb)

/-- `dev->u->transfer_dma = ..; dev->u->transfer_flags |= URB_NO_TRANSFER_DMA_MAP`. -/
def useDma (u : Pair) : Driver Unit := do
  let dev ← readDev
  .op (Op.setTransferDma u (dev.urb u) (dev.dma u))
  .op (Op.setNoTransferDmaMap u ((← readDev).urb u))

def usbSubmitUrb (u : Pair) : Driver Int := do .op (Op.usbSubmitUrb u ((← readDev).urb u))

def usbKillUrb (u : Pair) : Driver Unit := do .op (Op.usbKillUrb u ((← readDev).urb u))

def usbFreeUrb (u : Pair) : Driver Unit := do .op (Op.usbFreeUrb u ((← readDev).urb u))

def kfree (b : Pair) : Driver Unit := do .op (Op.kfree b ((← readDev).buffer b))

def usbFreeCoherent (b : Pair) (size : ℕ) : Driver Unit := do
  .op (Op.usbFreeCoherent b ((← readDev).buffer b) size)

/-- `usb_clear_halt` on the pipe of one direction. -/
def usbClearHalt (dirIn : Bool) : Driver Unit := do
  let _ ← Prog.op (Op.usbClearHalt (bulkPipe dirIn (← readDev)))

end Calls

/-! ## init_usb_protocols -/

/-- `init_usb_protocols`, with the command that it sends. -/
def sendCommand (cbw : CommandBlockWrapper) : Driver Unit := do
  msleep
  memcpyTo .cbw (List.replicate CBW_LEN 0)
  setMyCbw .zero
  setMyCbw cbw
  memcpyTo .cbw (← readDev).myCbw.bytes
  usbFillBulkUrb .cbw false CBW_LEN .cbwCallback
  useDma .cbw
  -- a failed submission is reported and nothing else
  let _ ← usbSubmitUrb .cbw

/-- `init_usb_protocols`. -/
def initUsbProtocols : Driver Unit := sendCommand (scsiInquiry 36)

/-! ## cbw_callback -/

/-- The status phase, as `cbw_callback` and `data_callback` begin it. -/
def receiveStatus : Driver Unit := do
  usbFillBulkUrb .csw true CSW_LEN .cswCallback
  let _ ← usbSubmitUrb .csw

/-- What `cbw_callback` does when the submission of `write_urb` or `inquiry_urb` fails. -/
def dropPair (u : Pair) : Driver Unit := do
  usbKillUrb u
  usbFreeUrb u
  kfree u
  setBuffer u none
  setUrb u none

/-- The label `r_urb`. -/
def rUrb : Driver Unit := do
  usbKillUrb .read
  usbFreeUrb .read
  kfree .read
  setUrb .read none
  setBuffer .read none

/-- Fill the URB of a pair and submit it. -/
def beginTransfer (u : Pair) (dirIn : Bool) (len : ℕ) (dma : Bool) : Driver Int := do
  usbFillBulkUrb u dirIn len .dataCallback
  if dma then useDma u
  usbSubmitUrb u

/-- The data phase: fill the URB of a pair, submit it, and clean up if that fails. -/
def transferData (u : Pair) (dirIn : Bool) (len : ℕ) (dma : Bool) (cleanup : Driver Unit) :
    Driver Unit := do
  if (← beginTransfer u dirIn len dma) ≠ 0 then cleanup

/-- The case `0x2A`. -/
def writeData : Driver Unit := transferData .write false 15 false (dropPair .write)

/-- The case `0x28`. -/
def readData : Driver Unit := transferData .read true 512 false rUrb

/-- The case `0x12`. -/
def inquiryData : Driver Unit := transferData .inquiry true 36 false (dropPair .inquiry)

/-- The case `0x03`. -/
def senseData : Driver Unit := transferData .inquiry true 18 true (dropPair .inquiry)

/-- The case `0x25`. -/
def capacityData : Driver Unit := transferData .read true READ_LEN true rUrb

/-- The `switch` of `cbw_callback`. -/
def dispatch (opcode : UInt8) : Driver Unit :=
  if opcode = 0x2A then writeData
  else if opcode = 0x28 then readData
  else if opcode = 0x00 then receiveStatus
  else if opcode = 0x12 then inquiryData
  else if opcode = 0x03 then senseData
  else if opcode = 0x25 then capacityData
  else return ()

/-- The wrapper in a buffer. -/
def readCbw (b : Pair) : Driver CommandBlockWrapper := do
  return .ofBytes (← readBuf b)

/-- `cbw_callback`. -/
def cbwCallback (urb : Urb) : Driver Unit := do
  if urb.status < 0 then return ()
  match urb.transferBuffer with
  | none => oops
  | some b =>
    if (← readCbw b).dCBWSignature ≠ CBW_SIG then return ()
    setCbwTag (← readCbw b).dCBWTag
    dispatch ((← readCbw b).cdb 0)

/-! ## data_callback and csw_callback -/

/-- `data_callback`. -/
def dataCallback (urb : Urb) : Driver Unit := do
  if urb.status < 0 then return ()
  receiveStatus

/-- The wrapper in a buffer. -/
def readCsw (b : Pair) : Driver CommandStatusWrapper := do
  return .ofBytes (← readBuf b)

/-- `csw_callback`.  Its comparisons only choose a message. -/
def cswCallback (urb : Urb) : Driver Unit := do
  if urb.status ≠ 0 then
    if urb.status = -ENOENT then
      usbClearHalt true
      usbClearHalt false
    return ()
  match urb.transferBuffer with
  | none => oops
  | some b =>
    if (← readCsw b).dCSWSignature ≠ CBW_SIG then return ()
    let csw ← readCsw b
    if csw.dCSWTag ≠ (← readDev).cbwTag then return ()

/-- The body of a completion function. -/
def Callback.body : Callback → Urb → Driver Unit
  | cbwCallback => Usb.cbwCallback
  | dataCallback => Usb.dataCallback
  | cswCallback => Usb.cswCallback

/-! ## Releasing a pair -/

/-- `if(dev->u) { usb_kill_urb(dev->u); usb_free_urb(dev->u); dev->field = NULL; }`. -/
def clearUrb (u field : Pair) : Driver Unit := do
  if (← readDev).urb u ≠ none then
    usbKillUrb u
    usbFreeUrb u
    setUrb field none

/-- `if(dev->b) { .. dev->b = NULL; }`. -/
def clearBuffer (b : Pair) (free : Driver Unit) : Driver Unit := do
  if (← readDev).buffer b ≠ none then
    free
    setBuffer b none

/-- One block: when the pair `u` has an URB or a buffer, clear its URB and set `field`
to NULL, then clear the buffer of `b`.  The value says whether there was anything. -/
def clearPair (u field b : Pair) (free : Driver Unit) : Driver Bool := do
  let dev ← readDev
  if dev.urb u = none ∧ dev.buffer u = none then return false
  clearUrb u field
  clearBuffer b free
  return true

/-! ## usb_alloc_buffer_and_urb -/

/-- `dev->b = usb_alloc_coherent(dev->udev, size, .., &dev->b_dma)`, and whether that
succeeded. -/
def allocCoherent (b : Pair) (size : ℕ) : Driver Bool := do
  let _ ← readDev
  match ← Prog.op (Op.usbAllocCoherent b size) with
  | none => setBuffer b none; return false
  | some (p, addr) =>
    Prog.op (Op.setDma b addr)
    setBuffer b (some p)
    return true

/-- `dev->b = kmalloc(size, GFP_KERNEL)`, and whether that succeeded. -/
def allocKmalloc (b : Pair) (size : ℕ) : Driver Bool := do
  let p ← Prog.op (Op.kmalloc b size)
  setBuffer b p
  return p.isSome

/-- `dev->u = usb_alloc_urb(0, GFP_KERNEL)`, and whether that succeeded. -/
def allocUrb (u : Pair) : Driver Bool := do
  let p ← Prog.op (Op.usbAllocUrb u)
  setUrb u p
  return p.isSome

/-- The label `r_write`. -/
def rWrite : Driver Int := do
  let _ ← clearPair .write .write .write (kfree .write)
  return -EINVAL

/-- The label `r_read`. -/
def rRead : Driver Int := do
  if ← clearPair .read .read .read (usbFreeCoherent .read READ_LEN) then return -EINVAL
  rWrite

/-- The label `r_inquiry`, which sets `csw_urb` to NULL. -/
def rInquiry : Driver Int := do
  if ← clearPair .inquiry .csw .inquiry (usbFreeCoherent .inquiry REQ_LEN) then return -EINVAL
  rRead

/-- The label `r_csw`. -/
def rCsw : Driver Int := do
  if ← clearPair .csw .csw .csw (kfree .csw) then return -EINVAL
  rInquiry

/-- The label `r_cbw`. -/
def rCbw : Driver Int := do
  if ← clearPair .cbw .cbw .cbw (usbFreeCoherent .cbw CBW_LEN) then return -EINVAL
  rCsw

/-- `usb_alloc_buffer_and_urb`. -/
def usbAllocBufferAndUrb : Driver Int := do
  if (← allocCoherent .cbw CBW_LEN) = false then return -ENOMEM
  if (← allocUrb .cbw) = false then return ← rCbw
  if (← allocKmalloc .csw CSW_LEN) = false then return -ENOMEM
  if (← allocUrb .csw) = false then return ← rCsw
  if (← allocCoherent .read READ_LEN) = false then return -ENOMEM
  if (← allocUrb .read) = false then return ← rRead
  -- the pointer that `kmalloc` returns is overwritten at once
  let _ ← allocKmalloc .inquiry 36
  if (← allocCoherent .inquiry REQ_LEN) = false then return -ENOMEM
  if (← allocUrb .inquiry) = false then return ← rInquiry
  if (← allocKmalloc .write CSW_LEN) = false then return -ENOMEM
  if (← allocUrb .write) = false then return ← rWrite
  return 0

/-! ## usb_clear_buffer_and_urb -/

/-- `usb_clear_buffer_and_urb` on a device that is not NULL.  The block for the inquiry
pair names `csw_urb` and `csw_buffer`. -/
def usbClearBufferAndUrb : Driver Int := do
  let _ ← clearPair .cbw .cbw .cbw (usbFreeCoherent .cbw CBW_LEN)
  let _ ← clearPair .csw .csw .csw (kfree .csw)
  let _ ← clearPair .inquiry .csw .csw (kfree .csw)
  let _ ← clearPair .read .read .read (usbFreeCoherent .read READ_LEN)
  let _ ← clearPair .write .write .write (kfree .write)
  return 0

/-! ## usb_probe and usb_disconnect -/

/-- The loop over the endpoints. -/
def setEndpoints : List UsbEndpointDescriptor → Driver Unit
  | [] => return ()
  | epd :: epds => do
    if epd.isBulkIn then Prog.op (Op.setBulkIn epd.bEndpointAddress)
    if epd.isBulkOut then Prog.op (Op.setBulkOut epd.bEndpointAddress)
    setEndpoints epds

/-- `usb_probe` behind the test of `iface_desc`. -/
def probeResources (epds : List UsbEndpointDescriptor) : Driver Int := do
  if (← usbAllocBufferAndUrb) ≠ 0 then return -EINVAL
  setEndpoints epds
  let dev ← readDev
  if dev.bulkInEndpointaddr = 0 ∧ dev.bulkOutEndpointaddr = 0 then return -ENODEV
  Prog.op Op.scheduleWork
  return 0

/-- `usb_probe` on an interface with these endpoints in `cur_altsetting`. -/
def usbProbe (altsetting : Option (List UsbEndpointDescriptor)) : Driver Int := do
  match ← Prog.op Op.kzalloc with
  | none => return -ENOMEM
  | some dev =>
    Prog.op (Op.setUdev (some (← Prog.op Op.usbGetDev)))
    usbSetIntfdata (some dev)
    match altsetting with
    | none => return -EINVAL
    | some epds => probeResources epds

/-- `usb_disconnect`. -/
def usbDisconnect : Driver Unit := do
  match ← usbGetIntfdata with
  | none => usbSetIntfdata none; oops
  | some dev =>
    setCbwTag 0
    if (← usbClearBufferAndUrb) ≠ 0 then return ()
    usbClearHalt true
    usbClearHalt false
    usbSetIntfdata none
    Prog.op (Op.usbPutDev (← readDev).udev)
    kfreeDev (some dev)

end KernelDriverLab.Usb
