import KernelDriverLab.UsbV1.Kernel

/-!
# The functions of `usbv1.c`

The functions of the driver as programs over the operations of the kernel, in
the order of the source: `queueCommand`, the three completion functions and the
error handlers.  The messages of `dev_info` and `pr_info` are left out, and so
are the tests of the device pointer after it has been used.  The statements of
`data_callback` behind its unconditional `return` are never executed.
-/

namespace KernelDriverLab.UsbV1

open Lib

/-! ## Single operations -/

section Wrappers

def readDev : Driver Dev := .op Op.readDev
def writeDev (f : Dev → Dev) : Driver Unit := .op (Op.writeDev f)
def activeScmd : Driver (Option CmndId) := .op Op.activeScmd
def setActiveScmd (c : Option CmndId) : Driver Unit := .op (Op.setActiveScmd c)
def readUrb (u : UrbId) : Driver Urb := .op (Op.readUrb u)
def writeUrb (u : UrbId) (f : Urb → Urb) : Driver Unit := .op (Op.writeUrb u f)
def readBuf (b : BufId) : Driver (List UInt8) := .op (Op.readBuf b)
def writeBuf (b : BufId) (bs : List UInt8) : Driver Unit := .op (Op.writeBuf b bs)
def readCmnd (c : CmndId) : Driver Cmnd := .op (Op.readCmnd c)
def writeCmnd (c : CmndId) (f : Cmnd → Cmnd) : Driver Unit := .op (Op.writeCmnd c f)
def readTable (t : List UInt8) (n : ℕ) : Driver (List UInt8) := .op (Op.readTable t n)
def sgVirt (c : CmndId) : Driver Unit := .op (Op.sgVirt c)
def readCsw (b : Option BufId) : Driver (List UInt8) := .op (Op.readCsw b)
def usbAllocCoherent (b : BufId) (n : ℕ) : Driver (Option (ℕ × ℕ)) := .op (Op.usbAllocCoherent b n)
def kmalloc (n : ℕ) : Driver (Option ℕ) := .op (Op.kmalloc n)
def usbFillBulkUrb (u : UrbId) (pipe : Pipe) (b : BufId) (len : UInt32) (cb : Callback) :
    Driver Unit := .op (Op.usbFillBulkUrb u pipe b len cb)
def usbSubmitUrb (u : UrbId) : Driver Int := .op (Op.usbSubmitUrb u)
def usbKillUrb (u : UrbId) : Driver Unit := .op (Op.usbKillUrb u)
def usbClearHalt (pipe : Pipe) : Driver Int := .op (Op.usbClearHalt pipe)
def usbControlMsg : Driver Int := .op Op.usbControlMsg
def usbResetDevice : Driver Int := .op Op.usbResetDevice
def scsiDone (c : Option CmndId) : Driver Unit := .op (Op.scsiDone c)
def oops {α : Type} : Driver α := .act .oops Empty.elim

end Wrappers

/-- Follow a pointer. -/
def deref {α : Type} : Option α → Driver α
  | some a => pure a
  | none => oops

/-- Follow `dev->active_scmd`. -/
def derefActive : Driver CmndId := do deref (← activeScmd)

/-- `dev->active_scmd->result = r`. -/
def setActiveResult (r : ℕ) : Driver Unit := do
  writeCmnd (← derefActive) fun c => { c with result := r }

/-- `scsi_set_resid(dev->active_scmd, n)`. -/
def setActiveResid (n : UInt32) : Driver Unit := do
  writeCmnd (← derefActive) fun c => { c with resid := n }

/-- `scsi_done(dev->active_scmd)`. -/
def doneActive : Driver Unit := do scsiDone (← activeScmd)

/-- Change the fields of an URB through the pointer to it in the device structure. -/
def storeUrb (u : UrbId) (f : Urb → Urb) : Driver Unit := do
  let _ ← deref ((← readDev).urb u)
  writeUrb u f

/-- `memcpy` to the start of a buffer of the device structure. -/
def memcpyTo (b : BufId) (bs : List UInt8) : Driver Unit := do
  let _ ← deref ((← readDev).buffer b)
  writeBuf b bs

/-- The three stores before each submission:
`urb->transfer_dma = dma` and `urb->transfer_flags |= URB_NO_TRANSFER_DMA_MAP`. -/
def useDma (u : UrbId) (b : BufId) : Driver Unit := do
  let d ← readDev
  storeUrb u fun r => { r with transferDma := d.dma b, noTransferDmaMap := true }

/-! ## queue_command -/

/-- `dev->b = usb_alloc_coherent(.., &dev->b_dma)`, which returned `r`. -/
def Dev.storeCoherent (b : BufId) (r : Option (ℕ × ℕ)) (d : Dev) : Dev :=
  { d with
    buffer := Function.update d.buffer b (r.map Prod.fst)
    dma := Function.update d.dma b ((r.map Prod.snd).getD (d.dma b)) }

/-- The allocations of `queue_command`; the result says whether `data_buffer` is
usable. -/
def allocDataBuffer (bufflen : UInt32) : Driver Bool := do
  if (← readDev).bufferlength = 0 then return true
  let r ← usbAllocCoherent .data bufflen.toNat
  writeDev (Dev.storeCoherent .data r)
  let p ← kmalloc bufflen.toNat
  -- the pointer to the coherent memory is lost here; its address stays in `data_dma`
  writeDev fun d => { d with buffer := Function.update d.buffer .data p }
  return p.isSome

/-- The command block wrapper of `queue_command`, before the descriptor block is
copied into it. -/
def cbwHeader (tag : UInt32) (direction : DmaDataDirection) (bufflen : UInt32) (cmdLen : UInt16) :
    CommandBlockWrapper :=
  { CommandBlockWrapper.zero with
    dCBWSignature := CBW_SIG
    dCBWTag := tag
    dCBWDataTransferLength := bufflen
    bmCBWFlags := if direction = .dmaFromDevice then 0x80 else 0x00
    bCBWLUN := 0
    bCBWCBLength := min cmdLen.toUInt8 16 }

/-- Which of the two CBW URBs, with its buffer, `dev->count` selects. -/
def cbwUrb (count : ℕ) : UrbId := if count = 0 then .cbw else .sec

/-- The fields of the wrapper up to the descriptor block. -/
def Dev.wrapHeader (sc : Cmnd) (d : Dev) : Dev :=
  { d with
    cbw := cbwHeader d.cbwTag sc.scDataDirection sc.length sc.cmdLen
    cbwTag := d.cbwTag + 1 }

/-- `memcpy(dev->cbw.CBWCB, scmd->cmnd, dev->cbw.bCBWCBLength)`. -/
def Dev.wrapCdb (sc : Cmnd) (d : Dev) : Dev :=
  { d with
    cbw :=
      { d.cbw with
        cbwcb := overwrite d.cbw.cbwcb (sc.cmnd.take d.cbw.bCBWCBLength.toNat) } }

/-- `queue_command`. -/
def queueCommand (scmd : CmndId) : Driver Int := do
  let sc ← readCmnd scmd
  let bufflen := sc.length
  writeDev fun d => { d with bufferlength := bufflen, direction := sc.scDataDirection }
  setActiveScmd (some scmd)
  let usable ← allocDataBuffer bufflen
  if usable = false then return -ENOMEM
  writeDev (Dev.wrapHeader sc)
  let d ← readDev
  -- `sec_buffer` and `sec_urb` are not tested
  if d.buffer .cbw = none ∨ d.urb .cbw = none then return -ENOMEM
  writeDev (Dev.wrapCdb sc)
  let d ← readDev
  let u := cbwUrb d.count
  memcpyTo u.buf d.cbw.bytes
  usbFillBulkUrb u ⟨false, d.bulkOutEndpointaddr⟩ u.buf (.ofNat CBW_LEN) .cbwCallback
  useDma u u.buf
  let ret ← usbSubmitUrb u
  if ret ≠ 0 then
    writeCmnd scmd fun c => { c with result := didError }
    doneActive
    return -ENOMEM
  writeCmnd scmd fun c => { c with result := samStatGood }
  return 0

/-! ## The completion functions -/

/-- `csw_callback`. -/
def cswCallback (urb : UrbId) : Driver Unit := do
  let r ← readUrb urb
  if r.context = false then oops
  let scmd ← activeScmd
  if r.status < 0 then
    writeCmnd (← deref scmd) fun c => { c with result := didError }
    -- there is no `return` behind the error
    doneActive
  let csw := CommandStatusWrapper.ofBytes (← readCsw r.transferBuffer)
  if csw.dCSWSignature ≠ CSW_SIG then
    setActiveResult didError
    doneActive
  else
    setActiveResult samStatGood
    scsiDone scmd
    setActiveScmd none

/-- The status wrapper that `data_callback` makes up. -/
def fakeCsw (tag : UInt32) : CommandStatusWrapper := ⟨CSW_SIG, tag, 0, 0⟩

/-- The copy to the command's data in `data_callback`:
`scsi_sg_copy_from_buffer(scmd, dev->data_buffer, n)`. -/
def sgCopyFromBuffer (scmd : CmndId) (n : UInt32) : Driver Unit := do
  let _ ← deref ((← readDev).buffer .data)
  let bs ← readBuf .data
  writeCmnd scmd fun c => c.store (bs.take n.toNat)

/-- The copy and the residue of `data_callback`, both under the test of `scmd`. -/
def takeData (scmd : Option CmndId) (actualLength : UInt32) : Driver Unit :=
  match scmd with
  | none => return ()
  | some scmd => do
    if 0 < actualLength then
      sgCopyFromBuffer scmd actualLength
    let d ← readDev
    if actualLength < d.bufferlength then
      writeCmnd scmd fun c => { c with resid := d.bufferlength - actualLength }

/-- The part of `data_callback` that makes up the status wrapper. -/
def fakeStatus : Driver Unit := do
  let d ← readDev
  memcpyTo .csw (fakeCsw d.cbwTag).bytes
  setActiveResult samStatGood
  storeUrb .csw fun r => { r with actualLength := .ofNat CSW_LEN, status := 0, context := true }

/-- `data_callback` up to the call of `csw_callback`. -/
def dataBody (urb : UrbId) : Driver Unit := do
  let r ← readUrb urb
  if r.context = false then oops
  let scmd ← activeScmd
  sgVirt (← derefActive)
  -- as in `csw_callback`, a bad status is not the end
  if r.status < 0 then
    setActiveResult didAbort
    doneActive
  takeData scmd r.actualLength
  fakeStatus

/-- `data_callback`. -/
def dataCallback (urb : UrbId) : Driver Unit := do
  dataBody urb
  cswCallback .csw

/-- Submit an URB; when that fails, complete the active command with an error. -/
def submitOrFail (u : UrbId) : Driver Unit := do
  let ret ← usbSubmitUrb u
  if ret ≠ 0 then
    setActiveResult didError
    doneActive

/-- The end of `cbw_callback`: submit `data_urb` or `csw_urb` based on the
direction.  For `DMA_FROM_DEVICE` the fill and the submission of `data_urb` are
commented out in the source. -/
def submitDataOrCsw : Driver Unit := do
  let d ← readDev
  if 0 < d.bufferlength then
    if d.direction = .dmaFromDevice then
      useDma .data .data
      writeDev fun d => { d with count := 1 }
    else if d.direction = .dmaToDevice then
      usbFillBulkUrb .data ⟨false, d.bulkOutEndpointaddr⟩ .data d.bufferlength .dataCallback
      useDma .data .data
      submitOrFail .data
  else
    usbFillBulkUrb .csw ⟨true, d.bulkInEndpointaddr⟩ .csw (.ofNat CSW_LEN) .cswCallback
    useDma .csw .csw
    submitOrFail .csw

/-- The case `0x12` of `cbw_callback`, for the command `scmd` that was active at
its start: the answer is made up and `data_callback` is called directly. -/
def inquiry (scmd : CmndId) (length len : UInt32) (evpd : UInt8) : Driver Unit := do
  let bs ← if evpd ≠ 0 then readTable vpdPage00 (min len.toNat vpdPage00.length)
    else readTable fakeInquiryResponse len.toNat
  writeCmnd scmd fun c => c.store bs
  setActiveResid (length - len)
  setActiveResult samStatGood
  storeUrb .data fun r => { r with actualLength := len, status := 0, context := true }
  dataCallback .data

/-- The case `0x03` of `cbw_callback`. -/
def requestSense (scmd : CmndId) (length len : UInt32) : Driver Unit := do
  let bs ← readTable noSenseResponse len.toNat
  writeCmnd scmd fun c => c.store bs
  setActiveResid (length - len)
  setActiveResult samStatGood
  doneActive

/-- The case `0x00` of `cbw_callback`. -/
def testUnitReady : Driver Unit := do
  setActiveResid 0
  setActiveResult samStatGood

/-- `cbw_callback`. -/
def cbwCallback (urb : UrbId) : Driver Unit := do
  let r ← readUrb urb
  if r.context = false then oops
  let scmd ← derefActive
  sgVirt scmd
  let sc ← readCmnd scmd
  let len := min sc.length (← readDev).bufferlength
  if r.status < 0 then
    let _ ← usbClearHalt ⟨false, (← readDev).bulkInEndpointaddr⟩
    setActiveResult didError
    doneActive
  else
    let cbw := CommandBlockWrapper.ofBytes (← readBuf (← deref r.transferBuffer))
    if cbw.dCBWSignature ≠ CBW_SIG then
      return ()
    else if cbw.cdb 0 = 0x12 then
      inquiry scmd sc.length len (cbw.cdb 1)
    else if cbw.cdb 0 = 0x00 then
      testUnitReady
      submitDataOrCsw
    else if cbw.cdb 0 = 0x03 then
      requestSense scmd sc.length len
      submitDataOrCsw
    else
      submitDataOrCsw

/-- The function that a completion runs. -/
def Callback.body : Callback → UrbId → Driver Unit
  | .cbwCallback => UsbV1.cbwCallback
  | .dataCallback => UsbV1.dataCallback
  | .cswCallback => UsbV1.cswCallback

/-! ## The error handlers -/

/-- `usb_kill_urb(dev->urb)` under the test that the pointer is not NULL. -/
def killUrb (u : UrbId) : Driver Unit := do
  if ((← readDev).urb u).isSome then
    usbKillUrb u

/-- The three kills of `usb_eh_abort`. -/
def killUrbs : Driver Unit := do
  killUrb .cbw
  killUrb .csw
  killUrb .data

/-- `usb_eh_abort`. -/
def usbEhAbort (scmd : CmndId) : Driver Int := do
  let _ ← usbClearHalt ⟨false, (← readDev).bulkOutEndpointaddr⟩
  let _ ← usbClearHalt ⟨true, (← readDev).bulkInEndpointaddr⟩
  killUrbs
  writeCmnd scmd fun c => { c with result := didAbort }
  scsiDone (some scmd)
  return SUCCESS

/-- What `usb_eh_dev_reset` and `usb_eh_bus_reset` do once the device has been
reset. -/
def afterReset : Driver Int := do
  let _ ← usbClearHalt ⟨true, (← readDev).bulkInEndpointaddr⟩
  let _ ← usbClearHalt ⟨false, (← readDev).bulkOutEndpointaddr⟩
  writeDev fun d => { d with cbwTag := 0 }
  setActiveScmd none
  return SUCCESS

/-- `usb_eh_dev_reset`. -/
def usbEhDevReset (_scmd : CmndId) : Driver Int := do
  let ret ← usbControlMsg
  if ret < 0 then return FAILED
  afterReset

/-- `usb_eh_bus_reset`. -/
def usbEhBusReset (_scmd : CmndId) : Driver Int := do
  let ret ← usbResetDevice
  if ret ≠ 0 then return FAILED
  afterReset

/-- `usb_eh_host_reset`. -/
def usbEhHostReset (scmd : CmndId) : Driver Int := usbEhBusReset scmd

end KernelDriverLab.UsbV1
