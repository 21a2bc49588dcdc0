import KernelDriverLab.Lib.Prog
import KernelDriverLab.UsbV1.State

/-!
# The operations of the driver

`Op` lists what a driver function can do in one atomic step: read or write one
object, or call one function of the kernel.  `sem` says what each of them does.
The choices that the kernel makes during one call of a driver function are in
`Env`; the command on whose behalf that function runs is a parameter, because an
URB that it submits is submitted for that command.

An operation on a null pointer is an oops: the function stops there.
-/

namespace KernelDriverLab.UsbV1

open Lib

/-- The operations. -/
inductive Op where
  | readDev
  | writeDev (f : Dev → Dev)
  /-- Read `dev->active_scmd`. -/
  | activeScmd
  /-- Store into `dev->active_scmd`. -/
  | setActiveScmd (scmd : Option CmndId)
  | readUrb (u : UrbId)
  | writeUrb (u : UrbId) (f : Urb → Urb)
  | readBuf (b : BufId)
  | writeBuf (b : BufId) (bs : List UInt8)
  | readCmnd (c : CmndId)
  | writeCmnd (c : CmndId) (f : Cmnd → Cmnd)
  /-- Read the `n` bytes at the start of a response table and behind it. -/
  | readTable (table : List UInt8) (n : ℕ)
  /-- `sg_virt`: read the first entry of the scatter-gather list of a command. -/
  | sgVirt (c : CmndId)
  /-- Read a status wrapper through `transfer_buffer` of an URB. -/
  | readCsw (b : Option BufId)
  | usbAllocUrb (u : UrbId)
  | usbFreeUrb (u : UrbId)
  | usbAllocCoherent (b : BufId) (size : ℕ)
  | usbFreeCoherent (b : BufId) (size : ℕ)
  | kmalloc (size : ℕ)
  | usbFillBulkUrb (u : UrbId) (pipe : Pipe) (b : BufId) (len : UInt32) (cb : Callback)
  | usbSubmitUrb (u : UrbId)
  | usbKillUrb (u : UrbId)
  | usbClearHalt (pipe : Pipe)
  | usbControlMsg
  | usbResetDevice
  | usbGetDev
  | usbPutDev
  | usbGetIntfdata
  | usbSetIntfdata (host : Option ℕ)
  | scsiHostAlloc
  | scsiHostPut (host : Option ℕ)
  | scsiAddHost
  | scsiRemoveHost
  | scsiDone (scmd : Option CmndId)
  /-- A null pointer is dereferenced. -/
  | oops

/-- The type of the answer to an operation. -/
@[reducible] def Op.Ans : Op → Type
  | readDev => Dev
  | activeScmd => Option CmndId
  | readUrb _ => Urb
  | readBuf _ | readTable _ _ | readCsw _ => List UInt8
  | readCmnd _ => Cmnd
  | usbAllocUrb _ | kmalloc _ | usbGetIntfdata | scsiHostAlloc => Option ℕ
  | usbAllocCoherent _ _ => Option (ℕ × ℕ)
  | usbGetDev => ℕ
  | usbSubmitUrb _ | usbClearHalt _ | usbControlMsg | usbResetDevice | scsiAddHost => Int
  | oops => Empty
  | _ => Unit

/-- A driver function that returns an `α`. -/
abbrev Driver (α : Type) : Type := Prog Op Op.Ans α

/-- The choices of the kernel during one call of a driver function. -/
structure Env where
  /-- The return value of `usb_submit_urb` on an URB that is not in flight. -/
  submit : Int := 0
  /-- Whether `kmalloc` returns a buffer, and the bytes it holds. -/
  kmalloc : Option (ℕ → UInt8) := some fun _ => 0
  /-- Whether `usb_alloc_coherent` returns a buffer for each pointer, its DMA
  address, and the bytes it holds. -/
  coherent : BufId → Option (ℕ × (ℕ → UInt8)) := fun _ => some (0, fun _ => 0)
  /-- Whether `usb_alloc_urb` returns an URB for each pointer. -/
  urb : UrbId → Bool := fun _ => true
  clearHalt : Int := 0
  controlMsg : Int := 0
  resetDevice : Int := 0
  hostAlloc : Bool := true
  addHost : Int := 0

namespace State

/-- `usb_alloc_coherent` for the pointer to `b`: the memory at the new addresses
is what the allocator found there. -/
def allocCoherent (s : State) (b : BufId) (size addr : ℕ) (found : ℕ → UInt8) : State :=
  let s := s.modLedger (·.acquire (.coherent size))
  match b with
  | .data =>
      { s with
        dmaMem := fun a => if addr ≤ a ∧ a < addr + size then found (a - addr) else s.dmaMem a
        fresh := fun a => if addr ≤ a ∧ a < addr + size then found (a - addr) else s.fresh a }
  | b => s.setBuf b ((List.range size).map found)

/-- `usb_fill_bulk_urb` on an URB that exists. -/
def fillBulkUrb (s : State) (u : UrbId) (pipe : Pipe) (b : BufId) (len : UInt32)
    (cb : Callback) : State :=
  s.modUrb u fun r =>
    { r with
      pipe := pipe
      transferBuffer := (s.dev.buffer b).map fun _ => b
      transferBufferLength := len
      complete := some cb
      context := true }

/-- Book that `u` was filled or submitted, if it is in flight. -/
@[simps -fullyApplied]
def noteClash (s : State) (u : UrbId) : State :=
  { s with clash := if s.inflight u = none then s.clash else u :: s.clash }

/-- The release of what the pointer holds, in the form `k`; NULL is ignored. -/
def releasePtr (s : State) (p : Option ℕ) (k : Resource) : State :=
  match p with
  | none => s
  | some i => s.modLedger (·.release i k)

end State

/-- What each operation does in a function that runs on behalf of command `own`.
`usb_kill_urb` is here the call that finds its URB idle.  The scatter-gather list of a command
without data is NULL. -/
def sem (e : Env) (own : CmndId) : Prog.Sem Op Op.Ans State
  | .readDev, s => .done s.dev s
  | .writeDev f, s => .done () (s.modDev f)
  | .activeScmd, s => .done s.activeScmd s
  | .setActiveScmd c, s => .done () (s.setActive c)
  | .readUrb u, s => .done (s.urb u) s
  | .writeUrb u f, s => .done () (s.modUrb u f)
  | .readBuf b, s => .done (s.buf b) s
  | .writeBuf b bs, s => .done () (s.setBuf b (overwrite (s.buf b) bs))
  | .readCmnd c, s => .done (s.cmnd c) s
  | .writeCmnd c f, s => .done () (s.modCmnd c f)
  | .readTable t n, s =>
      .done ((List.range n).map fun i => t.getD i (s.adjacent (i - t.length))) s
  | .sgVirt c, s => if (s.cmnd c).length = 0 then .oops s else .done () s
  | .readCsw b, s =>
      match b with
      | none => .oops s
      | some b => .done (s.buf b) s
  | .usbAllocUrb u, s =>
      if e.urb u then
        .done (some s.ledger.next) ((s.modLedger (·.acquire .urb)).modUrb u fun _ => .zero)
      else .done none s
  | .usbFreeUrb u, s => .done () (s.releasePtr (s.dev.urb u) .urb)
  | .usbAllocCoherent b size, s =>
      match e.coherent b with
      | none => .done none s
      | some (addr, found) => .done (some (s.ledger.next, addr)) (s.allocCoherent b size addr found)
  | .usbFreeCoherent b size, s => .done () (s.releasePtr (s.dev.buffer b) (.coherent size))
  | .kmalloc size, s =>
      match e.kmalloc with
      | none => .done none s
      | some found =>
          .done (some s.ledger.next)
            ((s.modLedger (·.acquire (.kmalloc size))).setBuf .data ((List.range size).map found))
  | .usbFillBulkUrb u pipe b len cb, s =>
      match s.dev.urb u with
      | none => .oops s
      | some _ => .done () ((s.noteClash u).fillBulkUrb u pipe b len cb)
  | .usbSubmitUrb u, s =>
      if s.dev.urb u = none ∨ (s.urb u).complete = none then .done (-EINVAL) (s.noteClash u)
      else if s.inflight u ≠ none then .done (-EBUSY) (s.noteClash u)
      else .done e.submit (if e.submit = 0 then s.setInflight u (some own) else s)
  | .usbKillUrb _, s => .done () s
  | .usbClearHalt _, s => .done e.clearHalt s
  | .usbControlMsg, s => .done e.controlMsg s
  | .usbResetDevice, s => .done e.resetDevice s
  | .usbGetDev, s => .done s.ledger.next (s.modLedger (·.acquire .usbDevice))
  | .usbPutDev, s => .done () (s.releasePtr s.dev.udev .usbDevice)
  | .usbGetIntfdata, s => .done s.host s
  | .usbSetIntfdata h, s => .done () (s.setHost h)
  | .scsiHostAlloc, s =>
      if e.hostAlloc then
        .done (some s.ledger.next)
          (((s.modLedger (·.acquire .scsiHost)).modDev fun _ => .zero).setActive none)
      else .done none s
  | .scsiHostPut h, s => .done () (s.releasePtr h .scsiHost)
  | .scsiAddHost, s => .done e.addHost s
  | .scsiRemoveHost, s => .done () s
  | .scsiDone c, s =>
      match c with
      | none => .oops s
      | some c => .done () (s.addDone c)
  | .oops, s => .oops s

end KernelDriverLab.UsbV1
