import KernelDriverLab.UsbV1.Session

/-!
# Probe and disconnect

`usb_probe` with `allocate_usb_resource`, and `usb_disconnect` with
`deallocate_usb_resource`.  The labels at the end of `allocate_usb_resource` all
release one URB and one buffer and fall through to the next label when there was
neither, so they are one function, `cleanup`, applied three times.

`scsi_scan_host` and `mutex_init` do nothing to the data modelled here; the
commands that the scan sends are calls of their own.
-/

namespace KernelDriverLab.UsbV1

open Lib

/-! ## Single operations -/

section Wrappers

def usbAllocUrb (u : UrbId) : Driver (Option ℕ) := .op (Op.usbAllocUrb u)
def usbFreeUrb (u : UrbId) : Driver Unit := .op (Op.usbFreeUrb u)
def usbFreeCoherent (b : BufId) (n : ℕ) : Driver Unit := .op (Op.usbFreeCoherent b n)
def usbGetDev : Driver ℕ := .op Op.usbGetDev
def usbPutDev : Driver Unit := .op Op.usbPutDev
def usbGetIntfdata : Driver (Option ℕ) := .op Op.usbGetIntfdata
def usbSetIntfdata (host : Option ℕ) : Driver Unit := .op (Op.usbSetIntfdata host)
def scsiHostAlloc : Driver (Option ℕ) := .op Op.scsiHostAlloc
def scsiHostPut (host : Option ℕ) : Driver Unit := .op (Op.scsiHostPut host)
def scsiAddHost : Driver Int := .op Op.scsiAddHost
def scsiRemoveHost : Driver Unit := .op Op.scsiRemoveHost

end Wrappers

/-- `dev->u = p`. -/
def setUrbPtr (u : UrbId) (p : Option ℕ) : Driver Unit :=
  writeDev fun d => { d with urb := Function.update d.urb u p }

/-- `dev->b = p`. -/
def setBufPtr (b : BufId) (p : Option ℕ) : Driver Unit :=
  writeDev fun d => { d with buffer := Function.update d.buffer b p }

/-! ## allocate_usb_resource -/

/-- `dev->u = usb_alloc_urb(0, GFP_KERNEL)`, and whether that succeeded. -/
def allocUrb (u : UrbId) : Driver Bool := do
  let p ← usbAllocUrb u
  setUrbPtr u p
  return p.isSome

/-- `dev->b = usb_alloc_coherent(.., size, .., &dev->b_dma)`, and whether that
succeeded. -/
def allocBuffer (b : BufId) (size : ℕ) : Driver Bool := do
  let r ← usbAllocCoherent b size
  writeDev (Dev.storeCoherent b r)
  return r.isSome

/-- The statements of one label: release the URB and the buffer as far as they
exist, and say whether there was anything to release. -/
def cleanup (u : UrbId) (size : ℕ) : Driver Bool := do
  let d ← readDev
  if d.urb u = none ∧ d.buffer u.buf = none then return false
  if d.urb u ≠ none then
    usbKillUrb u
    usbFreeUrb u
    setUrbPtr u none
  if d.buffer u.buf ≠ none then
    usbFreeCoherent u.buf size
    setBufPtr u.buf none
  return true

/-- The label `r_csw`. -/
def rCsw : Driver Int := do
  let _ ← cleanup .csw CSW_LEN
  return -1

/-- The label `r_sec`. -/
def rSec : Driver Int := do
  if ← cleanup .sec CBW_LEN then return -1
  rCsw

/-- The label `r_cbw`. -/
def rCbw : Driver Int := do
  if ← cleanup .cbw CBW_LEN then return -1
  rSec

/-- `allocate_usb_resource`. -/
def allocateUsbResource : Driver Int := do
  if (← allocUrb .cbw) = false then return -ENOMEM
  if (← allocBuffer .cbw CBW_LEN) = false then return ← rCbw
  if (← allocUrb .sec) = false then return -ENOMEM
  if (← allocBuffer .sec CBW_LEN) = false then return ← rSec
  if (← allocUrb .csw) = false then return -ENOMEM
  if (← allocBuffer .csw CSW_LEN) = false then return ← rCsw
  if (← allocUrb .data) = false then return -ENOMEM
  return 0

/-! ## deallocate_usb_resource -/

/-- One block of `deallocate_usb_resource`. -/
def releasePair (u : UrbId) (size : ℕ) : Driver Unit := do
  let d ← readDev
  if d.urb u ≠ none ∧ d.buffer u.buf ≠ none then
    usbKillUrb u
    usbFreeUrb u
    usbFreeCoherent u.buf size
    setUrbPtr u none
    setBufPtr u.buf none

/-- `deallocate_usb_resource`. -/
def deallocateUsbResource : Driver Int := do
  releasePair .cbw CBW_LEN
  releasePair .csw CSW_LEN
  releasePair .data DATA_LEN
  return 0

/-! ## usb_probe -/

/-- The part of `struct usb_endpoint_descriptor` that the probe uses. -/
structure UsbEndpointDescriptor where
  bEndpointAddress : UInt8
  bmAttributes : UInt8
deriving DecidableEq, Repr

namespace UsbEndpointDescriptor

/-- `usb_endpoint_is_bulk_in`. -/
def isBulkIn (epd : UsbEndpointDescriptor) : Bool :=
  epd.bmAttributes &&& 0x03 == 2 && epd.bEndpointAddress &&& 0x80 == 0x80

/-- `usb_endpoint_is_bulk_out`. -/
def isBulkOut (epd : UsbEndpointDescriptor) : Bool :=
  epd.bmAttributes &&& 0x03 == 2 && epd.bEndpointAddress &&& 0x80 == 0

end UsbEndpointDescriptor

/-- The loop over the endpoints; a later endpoint of a kind replaces an earlier one. -/
def Dev.setEndpoints (epds : List UsbEndpointDescriptor) (d : Dev) : Dev :=
  epds.foldl (fun d epd =>
    { d with
      bulkInEndpointaddr := if epd.isBulkIn then epd.bEndpointAddress else d.bulkInEndpointaddr
      bulkOutEndpointaddr :=
        if epd.isBulkOut then epd.bEndpointAddress else d.bulkOutEndpointaddr }) d

/-- The labels `r_host` and `r_scsi`, which do the same. -/
def rScsi (host : Option ℕ) : Driver Int := do
  if host.isSome then
    scsiRemoveHost
    let _ ← deallocateUsbResource
    scsiHostPut host
  return -1

/-- `usb_probe` behind the test of `iface_desc`. -/
def probeResources (host : ℕ) (epds : List UsbEndpointDescriptor) : Driver Int := do
  if (← allocateUsbResource) ≠ 0 then return -ENOMEM
  writeDev (Dev.setEndpoints epds)
  let d ← readDev
  if d.bulkInEndpointaddr = 0 ∧ d.bulkOutEndpointaddr = 0 then return -EINVAL
  if (← scsiAddHost) ≠ 0 then return ← rScsi (some host)
  return 0

/-- `usb_probe` on an interface with these endpoints in `cur_altsetting`. -/
def usbProbe (altsetting : Option (List UsbEndpointDescriptor)) : Driver Int := do
  match ← scsiHostAlloc with
  | none => rScsi none
  | some host =>
    let udev ← usbGetDev
    writeDev fun d => { d with udev := some udev }
    usbSetIntfdata (some host)
    writeDev fun d => { d with cbwTag := 1 }
    match altsetting with
    | none => return -EINVAL
    | some epds => probeResources host epds

/-! ## usb_disconnect -/

/-- `usb_disconnect`. -/
def usbDisconnect : Driver Unit := do
  let host ← usbGetIntfdata
  if host.isSome then
    scsiRemoveHost
    usbSetIntfdata none
    writeDev fun d => { d with cbwTag := 0 }
    if (← deallocateUsbResource) ≠ 0 then return ()
    let _ ← usbClearHalt ⟨true, (← readDev).bulkInEndpointaddr⟩
    let _ ← usbClearHalt ⟨false, (← readDev).bulkOutEndpointaddr⟩
    usbPutDev
    scsiHostPut host

end KernelDriverLab.UsbV1
