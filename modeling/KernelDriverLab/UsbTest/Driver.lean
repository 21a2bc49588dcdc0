import KernelDriverLab.Usb.Driver

/-!
# The functions of `Test_usb_driver.c`

`Test_usb_driver.c` is the first version of `usb.c`.  The device, the operations of the kernel
and the statements that release a pair are those of `usb.c`; here every buffer comes from
`kmalloc`, no URB has a DMA address, and `cbw_callback` knows fewer commands.

A completion function that is called by `usb_kill_urb` would run inside the function that kills
its URB.  The model has no such call: an execution stops at a kill of an URB in flight.
-/

namespace KernelDriverLab.UsbTest

open Lib Prog
open Usb (Pair Ptr Callback Dev Urb State Op Env Driver Resource CBW_SIG CBW_LEN CSW_LEN ENODEV
  readDev setCbwTag setMyCbw setUrb setBuffer readCbw oops kfree usbKillUrb usbFreeUrb
  usbSubmitUrb usbFillBulkUrb usbClearHalt usbGetIntfdata usbSetIntfdata kfreeDev memcpyTo
  clearPair allocKmalloc allocUrb setEndpoints scsiInquiry)
open UsbV1 (UsbEndpointDescriptor EINVAL ENOMEM)

/-- `EPIPE` -/
def EPIPE : Int := 32

/-- An URB in flight would be killed. -/
def Op.killsBusy : Op → State → Bool
  | .usbKillUrb u (some _), s => s.inflight u
  | _, _ => false

/-- What each operation does. -/
def sem (e : Env) : Prog.Sem Op Op.Ans State := fun o s =>
  if Op.killsBusy o s then .oops s else Usb.sem e o s

/-! ## Failed submissions -/

/-- What follows a failed submission of the URB of a pair. -/
def dropPair (u : Pair) : Driver Unit := do
  usbKillUrb u
  usbFreeUrb u
  kfree u
  setBuffer u none
  setUrb u none

/-! ## init_usb_protocols -/

/-- The label `r_urb` of `init_usb_protocols`. -/
def cleanCommand : Driver Unit := do
  if (← readDev).urb .cbw ≠ none then dropPair .cbw

/-- `init_usb_protocols`.  Its tests of `dev` and `dev->udev` only choose messages. -/
def initUsbProtocols : Driver Unit := do
  let _ ← readDev
  memcpyTo .cbw (List.replicate CBW_LEN 0)
  setMyCbw .zero
  setMyCbw (scsiInquiry 36)
  memcpyTo .cbw (← readDev).myCbw.bytes
  usbFillBulkUrb .cbw false CBW_LEN .cbwCallback
  if (← usbSubmitUrb .cbw) ≠ 0 then cleanCommand

/-! ## cbw_callback -/

/-- The label `r_urb` of `cbw_callback`. -/
def rUrb : Driver Unit := do
  usbKillUrb .read
  usbFreeUrb .read
  kfree .read
  setUrb .read none
  setBuffer .read none

/-- The data phase: fill the URB of a pair, submit it, and clean up if that fails. -/
def transferData (u : Pair) (dirIn : Bool) (len : ℕ) (cleanup : Driver Unit) : Driver Unit := do
  usbFillBulkUrb u dirIn len .dataCallback
  if (← usbSubmitUrb u) ≠ 0 then cleanup

/-- The case `0x2A`. -/
def writeData : Driver Unit := transferData .write false 15 (dropPair .write)

/-- The case `0x28`. -/
def readData : Driver Unit := transferData .read true 512 rUrb

/-- The case `0x12`. -/
def inquiryData : Driver Unit := transferData .inquiry true 36 (dropPair .inquiry)

/-- The `switch` of `cbw_callback`; the case `0x1A` only prints. -/
def dispatch (opcode : UInt8) : Driver Unit :=
  if opcode = 0x2A then writeData
  else if opcode = 0x28 then readData
  else if opcode = 0x1A then return ()
  else if opcode = 0x12 then inquiryData
  else return ()

/-- `cbw_callback` -/
def cbwCallback (urb : Urb) : Driver Unit := do
  if urb.status ≠ 0 then
    if urb.status = -EPIPE then
      usbClearHalt true
      usbClearHalt false
    return ()
  match urb.transferBuffer with
  | none => oops
  | some b =>
    if (← readCbw b).dCBWSignature ≠ CBW_SIG then return ()
    setCbwTag (← readCbw b).dCBWTag
    dispatch ((← readCbw b).cdb 0)

/-! ## data_callback and csw_callback -/

/-- `data_callback`.  A failed submission is reported and nothing else. -/
def dataCallback (urb : Urb) : Driver Unit := do
  if urb.status = -EPIPE then return ()
  usbFillBulkUrb .csw true CSW_LEN .cswCallback
  let _ ← usbSubmitUrb .csw

/-- `csw_callback`, as in `usb.c`. -/
def cswCallback (urb : Urb) : Driver Unit := Usb.cswCallback urb

/-- The body of a completion function. -/
def body : Callback → Urb → Driver Unit
  | .cbwCallback => cbwCallback
  | .dataCallback => dataCallback
  | .cswCallback => cswCallback

/-! ## usb_alloc_buffer_and_urb -/

/-- The length with which the buffer of a pair is allocated. -/
def size : Pair → ℕ
  | .cbw => CBW_LEN
  | .csw | .write => CSW_LEN
  | .read | .inquiry => 36

/-- A label: clear the pair, with its URB in `field`, and go on if there was nothing. -/
def label (u field : Pair) (next : Driver Int) : Driver Int := do
  if ← clearPair u field u (kfree u) then return -EINVAL
  next

/-- The label `r_write`. -/
def rWrite : Driver Int := label .write .write (return -EINVAL)

/-- The label `r_read`. -/
def rRead : Driver Int := label .read .read rWrite

/-- The label `r_inquiry`, which sets `csw_urb` to NULL. -/
def rInquiry : Driver Int := label .inquiry .csw rRead

/-- The label `r_csw`. -/
def rCsw : Driver Int := label .csw .csw rInquiry

/-- The label `r_cbw`. -/
def rCbw : Driver Int := label .cbw .cbw rCsw

/-- Allocate a pair, and go on with the next one if that succeeds. -/
def allocPair (p : Pair) (onUrb next : Driver Int) : Driver Int := do
  if (← allocKmalloc p (size p)) = false then return -ENOMEM
  if (← allocUrb p) = false then return ← onUrb
  next

/-- `usb_alloc_buffer_and_urb` -/
def usbAllocBufferAndUrb : Driver Int :=
  allocPair .cbw rCbw <|
  allocPair .csw rCsw <|
  allocPair .read rRead <|
  allocPair .inquiry rInquiry <|
  allocPair .write rWrite <|
  return 0

/-! ## usb_clear_buffer_and_urb -/

/-- `usb_clear_buffer_and_urb` on a device that is not NULL.  The block for the inquiry pair
names `csw_urb` and `csw_buffer`. -/
def usbClearBufferAndUrb : Driver Int := do
  let _ ← clearPair .cbw .cbw .cbw (kfree .cbw)
  let _ ← clearPair .csw .csw .csw (kfree .csw)
  let _ ← clearPair .inquiry .csw .csw (kfree .csw)
  let _ ← clearPair .read .read .read (kfree .read)
  let _ ← clearPair .write .write .write (kfree .write)
  return 0

/-! ## usb_probe and usb_disconnect -/

/-- `usb_probe` behind the test of `iface_desc`. -/
def probeResources (epds : List UsbEndpointDescriptor) : Driver Int := do
  if (← usbAllocBufferAndUrb) ≠ 0 then return -EINVAL
  setEndpoints epds
  let dev ← readDev
  if dev.bulkInEndpointaddr = 0 ∧ dev.bulkOutEndpointaddr = 0 then return -ENODEV
  Prog.op Op.scheduleWork
  return 0

/-- `usb_probe` on an interface with these endpoints in `cur_altsetting`. -/
def usbProbe (altsetting : Option (List UsbEndpointDescriptor)) : Driver Int := do
  match ← Prog.op Op.kzalloc with
  | none => return -ENOMEM
  | some dev =>
    Prog.op (Op.setUdev (some (← Prog.op Op.usbGetDev)))
    usbSetIntfdata (some dev)
    match altsetting with
    | none => return -EINVAL
    | some epds => probeResources epds

/-- `usb_disconnect` -/
def usbDisconnect : Driver Unit := do
  match ← usbGetIntfdata with
  | none =>
    usbSetIntfdata none
    oops
  | some dev =>
    setCbwTag 0
    if (← usbClearBufferAndUrb) ≠ 0 then return ()
    usbClearHalt true
    usbClearHalt false
    usbSetIntfdata none
    Prog.op (Op.usbPutDev (← readDev).udev)
    kfreeDev (some dev)

end KernelDriverLab.UsbTest
