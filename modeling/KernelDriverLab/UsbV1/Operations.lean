import KernelDriverLab.UsbV1.Session

/-!
# The operations of the functions of the driver

A completion function consists of routine steps: it reads what the device structure points to,
notes the outcome in the command, makes up a status and completes the command.  Besides it hands
an URB over, reads a response table, and reads through a pointer.  `queue_command` adds the
allocations and the wrapper, an error handler the kills and the resets.  A property of operations
that the routine ones have holds of a whole function as soon as it holds of its few others; the
rules below say of which.
-/

namespace KernelDriverLab.UsbV1

open Lib Prog

/-- The routine operations. -/
inductive Op.Routine : Op → Prop
  | readDev : Routine readDev
  | activeScmd : Routine activeScmd
  | readUrb (u : UrbId) : Routine (readUrb u)
  | readBuf (b : BufId) : Routine (readBuf b)
  | readCmnd (c : CmndId) : Routine (readCmnd c)
  | setResult (c : CmndId) (r : ℕ) : Routine (writeCmnd c fun x => { x with result := r })
  | setResid (c : CmndId) (n : UInt32) : Routine (writeCmnd c fun x => { x with resid := n })
  | store (c : CmndId) (bs : List UInt8) : Routine (writeCmnd c fun x => x.store bs)
  | writeCsw (bs : List UInt8) : Routine (writeBuf .csw bs)
  /-- Before the direct call of the next completion function. -/
  | markUrb (u : UrbId) (n : UInt32) :
      Routine (writeUrb u fun r => { r with actualLength := n, status := 0, context := true })
  | useDma (u : UrbId) (a : ℕ) :
      Routine (writeUrb u fun r => { r with transferDma := a, noTransferDmaMap := true })
  | usbClearHalt (pipe : Pipe) : Routine (usbClearHalt pipe)
  | scsiDone (c : Option CmndId) : Routine (scsiDone c)
  | oops : Routine oops

/-- The operations that hand `data_urb` or `csw_urb` over. -/
inductive Op.Sends : Op → Prop
  | setCount : Sends (writeDev fun d => { d with count := 1 })
  | fillData (ep : UInt8) (len : UInt32) :
      Sends (usbFillBulkUrb .data ⟨false, ep⟩ .data len .dataCallback)
  | fillCsw (ep : UInt8) :
      Sends (usbFillBulkUrb .csw ⟨true, ep⟩ .csw (.ofNat CSW_LEN) .cswCallback)
  | usbSubmitUrb (u : UrbId) : Sends (usbSubmitUrb u)

/-- The operations of `queue_command` that are not routine. -/
inductive Op.Queues (c : CmndId) : Op → Prop
  | setTransfer (len : UInt32) (dir : DmaDataDirection) :
      Queues c (writeDev fun d => { d with bufferlength := len, direction := dir })
  | setActiveScmd : Queues c (setActiveScmd (some c))
  | usbAllocCoherent (n : ℕ) : Queues c (usbAllocCoherent .data n)
  | storeCoherent (r : Option (ℕ × ℕ)) : Queues c (writeDev (Dev.storeCoherent .data r))
  | kmalloc (n : ℕ) : Queues c (kmalloc n)
  | storeBuffer (p : Option ℕ) :
      Queues c (writeDev fun d => { d with buffer := Function.update d.buffer .data p })
  | wrapHeader (sc : Cmnd) : Queues c (writeDev (Dev.wrapHeader sc))
  | wrapCdb (sc : Cmnd) : Queues c (writeDev (Dev.wrapCdb sc))
  | writeBuf (n : ℕ) (bs : List UInt8) : Queues c (writeBuf (cbwUrb n).buf bs)
  | fill (n : ℕ) (ep : UInt8) :
      Queues c (usbFillBulkUrb (cbwUrb n) ⟨false, ep⟩ (cbwUrb n).buf (.ofNat CBW_LEN) .cbwCallback)
  | usbSubmitUrb (u : UrbId) : Queues c (usbSubmitUrb u)

attribute [simp] Op.Routine.readDev Op.Routine.activeScmd Op.Routine.readUrb Op.Routine.readBuf
  Op.Routine.readCmnd Op.Routine.setResult Op.Routine.setResid Op.Routine.store
  Op.Routine.writeCsw Op.Routine.markUrb Op.Routine.useDma Op.Routine.usbClearHalt
  Op.Routine.scsiDone Op.Routine.oops Op.Sends.setCount Op.Sends.fillData Op.Sends.fillCsw
  Op.Sends.usbSubmitUrb Op.Queues.setTransfer Op.Queues.setActiveScmd Op.Queues.usbAllocCoherent
  Op.Queues.storeCoherent Op.Queues.kmalloc Op.Queues.storeBuffer Op.Queues.wrapHeader
  Op.Queues.wrapCdb Op.Queues.writeBuf Op.Queues.fill Op.Queues.usbSubmitUrb

lemma all_deref_bind {P : Op → Prop} {α β : Type} {p : Option α} {f : α → Driver β} :
    All P (deref p >>= f) ↔ (p = none → P .oops) ∧ ∀ a, p = some a → All P (f a) := by
  cases p with
  | none => simp [deref, oops]
  | some a => simp [deref]

section Routine

lemma routine_setActiveResult (r : ℕ) : All Op.Routine (setActiveResult r) := by
  simp [setActiveResult, derefActive, activeScmd, writeCmnd, all_deref_bind]

lemma routine_setActiveResid (n : UInt32) : All Op.Routine (setActiveResid n) := by
  simp [setActiveResid, derefActive, activeScmd, writeCmnd, all_deref_bind]

lemma routine_doneActive : All Op.Routine doneActive := by
  simp [doneActive, activeScmd, scsiDone]

lemma routine_markUrb (u : UrbId) (n : UInt32) : All Op.Routine (storeUrb u fun r =>
    { r with actualLength := n, status := 0, context := true }) := by
  simp [storeUrb, readDev, writeUrb, all_deref_bind]

lemma routine_useDma (u : UrbId) (b : BufId) : All Op.Routine (useDma u b) := by
  simp [useDma, storeUrb, readDev, writeUrb, all_deref_bind]

lemma routine_takeData (scmd : Option CmndId) (n : UInt32) :
    All Op.Routine (takeData scmd n) := by
  cases scmd with
  | none => simp [takeData]
  | some c => simp [takeData, sgCopyFromBuffer, readDev, readBuf, writeCmnd, all_deref_bind]

lemma routine_fakeStatus : All Op.Routine fakeStatus := by
  simp [fakeStatus, readDev, memcpyTo, writeBuf, setActiveResult, derefActive, activeScmd,
    writeCmnd, storeUrb, writeUrb, all_deref_bind]

lemma routine_testUnitReady : All Op.Routine testUnitReady :=
  (routine_setActiveResid 0).bind fun _ => routine_setActiveResult samStatGood

end Routine

section Rules

variable {P : Op → Prop} (hP : ∀ o, o.Routine → P o)

include hP

lemma all_queueCommand {c : CmndId} (hqueue : ∀ o, o.Queues c → P o) : All P (queueCommand c) := by
  have halloc (n : UInt32) {f : Bool → Driver Int} (hf : ∀ x, All P (f x)) :
      All P (allocDataBuffer n >>= f) := by
    refine All.bind ?_ hf
    simp [allocDataBuffer, readDev, usbAllocCoherent, writeDev, kmalloc, hP, hqueue]
  simp [queueCommand, readCmnd, writeDev, setActiveScmd, readDev, memcpyTo, writeBuf,
    usbFillBulkUrb, useDma, storeUrb, writeUrb, usbSubmitUrb, writeCmnd, doneActive, activeScmd,
    scsiDone, all_deref_bind, hP, hqueue, halloc]

lemma all_cswCallback (hread : ∀ b, P (.readCsw b)) (hset : P (.setActiveScmd none)) (u : UrbId) :
    All P (cswCallback u) := by
  simp [cswCallback, readUrb, oops, activeScmd, readCsw, writeCmnd, doneActive, scsiDone,
    setActiveResult, derefActive, setActiveScmd, all_deref_bind, hP, hread, hset]

lemma all_dataBody (hsg : ∀ c, P (.sgVirt c)) (u : UrbId) : All P (dataBody u) := by
  have hrest (scmd : Option CmndId) (n : UInt32) :
      All P (takeData scmd n >>= fun _ => fakeStatus) :=
    ((routine_takeData scmd n).bind fun _ => routine_fakeStatus).mono hP
  simp [dataBody, readUrb, oops, activeScmd, sgVirt, writeCmnd, doneActive, scsiDone,
    setActiveResult, derefActive, all_deref_bind, hP, hsg, hrest]

lemma all_dataCallback (hsg : ∀ c, P (.sgVirt c)) (hread : ∀ b, P (.readCsw b))
    (hset : P (.setActiveScmd none)) (u : UrbId) : All P (dataCallback u) :=
  (all_dataBody hP hsg u).bind fun _ => all_cswCallback hP hread hset .csw

lemma all_submitDataOrCsw (hsend : ∀ o, o.Sends → P o) : All P submitDataOrCsw := by
  have hdma (u : UrbId) (b : BufId) {α : Type} {f : Unit → Driver α}
      (hf : ∀ x, All P (f x)) : All P (useDma u b >>= f) := ((routine_useDma u b).mono hP).bind hf
  simp [submitDataOrCsw, readDev, writeDev, usbFillBulkUrb, submitOrFail, usbSubmitUrb,
    setActiveResult, doneActive, derefActive, activeScmd, writeCmnd, scsiDone, all_deref_bind,
    hP, hsend, hdma]

/-- What the cases `0x12` and `0x03` of `cbw_callback` store after the copy. -/
lemma all_copied (c : CmndId) (bs : List UInt8) (n : UInt32) {p : Driver Unit} (hp : All P p) :
    All P (do
      writeCmnd c fun x => x.store bs
      setActiveResid n
      setActiveResult samStatGood
      p) :=
  All.bind (by simp [writeCmnd, hP]) fun _ =>
    ((routine_setActiveResid n).mono hP).bind fun _ =>
      ((routine_setActiveResult _).mono hP).bind fun _ => hp

lemma all_inquiry (htable : ∀ t n, P (.readTable t n)) (hdata : All P (dataCallback .data))
    (c : CmndId) (length len : UInt32) (evpd : UInt8) : All P (inquiry c length len evpd) := by
  have hrest (bs : List UInt8) := all_copied hP c bs (length - len)
    (((routine_markUrb .data len).mono hP).bind fun _ => hdata)
  simp [inquiry, readTable, htable, hrest]

lemma all_requestSense (htable : ∀ t n, P (.readTable t n)) (c : CmndId) (length len : UInt32) :
    All P (requestSense c length len) := by
  have hrest (bs : List UInt8) := all_copied hP c bs (length - len) (routine_doneActive.mono hP)
  simp [requestSense, readTable, htable, hrest]

lemma all_cbwCallback (hsg : ∀ c, P (.sgVirt c)) (htable : ∀ t n, P (.readTable t n))
    (hsend : ∀ o, o.Sends → P o) (hdata : All P (dataCallback .data)) (u : UrbId) :
    All P (cbwCallback u) := by
  have hsubmit : All P submitDataOrCsw := all_submitDataOrCsw hP hsend
  have hready : All P (testUnitReady >>= fun _ => submitDataOrCsw) :=
    (routine_testUnitReady.mono hP).bind fun _ => hsubmit
  have hsense (c : CmndId) (length len : UInt32) :
      All P (requestSense c length len >>= fun _ => submitDataOrCsw) :=
    (all_requestSense hP htable c length len).bind fun _ => hsubmit
  simp [cbwCallback, readUrb, oops, sgVirt, readCmnd, readDev, usbClearHalt, readBuf, writeCmnd,
    setActiveResult, doneActive, scsiDone, derefActive, activeScmd, all_deref_bind,
    hP, hsg, hsubmit, hready, hsense, all_inquiry hP htable hdata]

/-- **What a completion function asks** of a property of operations. -/
theorem all_callback (hsg : ∀ c, P (.sgVirt c)) (htable : ∀ t n, P (.readTable t n))
    (hread : ∀ b, P (.readCsw b)) (hset : P (.setActiveScmd none)) (hsend : ∀ o, o.Sends → P o)
    (cb : Callback) (u : UrbId) : All P (cb.body u) := by
  have hdata (v : UrbId) : All P (dataCallback v) := all_dataCallback hP hsg hread hset v
  cases cb with
  | cbwCallback => exact all_cbwCallback hP hsg htable hsend (hdata .data) u
  | dataCallback => exact hdata u
  | cswCallback => exact all_cswCallback hP hread hset u

lemma all_usbEhAbort (hkill : ∀ u, P (.usbKillUrb u)) (c : CmndId) : All P (usbEhAbort c) := by
  have hone (u : UrbId) : All P (killUrb u) := by simp [killUrb, readDev, usbKillUrb, hP, hkill]
  have hkills {f : Unit → Driver Int} (hf : ∀ x, All P (f x)) : All P (killUrbs >>= f) :=
    ((hone .cbw).bind fun _ => (hone .csw).bind fun _ => hone .data).bind hf
  simp [usbEhAbort, readDev, usbClearHalt, writeCmnd, scsiDone, hP, hkills]

lemma all_afterReset (htag : P (.writeDev fun d => { d with cbwTag := 0 }))
    (hset : P (.setActiveScmd none)) : All P afterReset := by
  simp [afterReset, readDev, usbClearHalt, writeDev, setActiveScmd, hP, htag, hset]

/-- **What an error handler asks** of a property of operations. -/
theorem all_handler (hkill : ∀ u, P (.usbKillUrb u)) (hmsg : P .usbControlMsg)
    (hdev : P .usbResetDevice) (htag : P (.writeDev fun d => { d with cbwTag := 0 }))
    (hset : P (.setActiveScmd none)) (h : Handler) (c : CmndId) : All P (h.body c) := by
  have hafter : All P afterReset := all_afterReset hP htag hset
  cases h with
  | abort => exact all_usbEhAbort hP hkill c
  | devReset => simp [Handler.body, usbEhDevReset, usbControlMsg, hmsg, hafter]
  | busReset | hostReset =>
    simp [Handler.body, usbEhHostReset, usbEhBusReset, usbResetDevice, hdev, hafter]

end Rules

end KernelDriverLab.UsbV1
