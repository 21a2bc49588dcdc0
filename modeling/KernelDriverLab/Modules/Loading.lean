import KernelDriverLab.Chardev.Handlers
import KernelDriverLab.Lib.Ledger
import KernelDriverLab.Lib.Prog

/-!
# Loading and unloading

`hello_init`, `hello_exit` and `my_write` of the modules with deferred work, of
`linked_list.c` and of `rwspinlock_module.c`, with the interrupt handlers.  The first part
of `hello_init` and the labels at its end are the same everywhere.

A ledger numbers what is acquired.  `handle` is what the static variables of the module
refer to: the number of the latest acquisition of each kind since the module was loaded,
and `none` for NULL and for an error pointer.  A release by a handle that refers to nothing
is booked under a number that was never given out.
-/

namespace KernelDriverLab

/-- What a module gets from the kernel and gives back. -/
inductive Registration where
  | chrdevRegion | cdev | cls | device | kobject | sysfsFile
  /-- One of the kernel threads of the module. -/
  | thread (i : ℕ)
  | irq
  | workqueue
  /-- A node of the list of the module. -/
  | node
deriving DecidableEq, Repr

end KernelDriverLab

namespace KernelDriverLab.Loading

open Lib Prog Chardev

/-! ## The kernel -/

/-- The operations of the functions on the kernel and on the list. -/
inductive Op where
  /-- One of the functions that register something; the answer is 0 or a negative error. -/
  | acquire (r : Registration)
  /-- The function that gives it back. -/
  | release (r : Registration)
  /-- `queue_work(own_workqueue, &workqueue)`; with `false`, `schedule_work` and
  `tasklet_schedule`, which need no queue of the module. -/
  | queueWork (own : Bool)
  /-- The beginning of `flush_work` or `tasklet_kill`, which looks up what is queued last. -/
  | lastQueued
  /-- Wait until that has run. -/
  | awaitWork (n : ℕ)
  /-- `copy_from_user` into `device_buffer` and the terminator behind the copy. -/
  | copyMessage (user : List UInt8)
  /-- `kmalloc` a node, number it and append it to the list, unless there is no memory. -/
  | addNode
  /-- The nodes of the list. -/
  | loadNodes
  /-- `list_del` and `kfree` -/
  | freeNode (n : ℕ)
deriving DecidableEq, Repr

/-- What an operation answers. -/
@[reducible] def Op.Ans : Op → Type
  | acquire _ | copyMessage _ => Int
  | queueWork _ => Bool
  | lastQueued => ℕ
  | addNode => Option ℕ
  | loadNodes => List ℕ
  | _ => Unit

/-- A function of a module. -/
abbrev Driver (α : Type) : Type := Prog Op Op.Ans α

/-- The workqueue of the module. -/
inductive Queue where
  | absent
  | alive
  | destroyed
deriving DecidableEq, Repr

/-- What is registered and queued. -/
structure State where
  ledger : Ledger Registration
  handle : Registration → Option ℕ
  /-- The list from `head_node` on: what was allocated for a node, and its data. -/
  nodes : List (ℕ × Int)
  tempValue : Int
  deviceBuffer : List UInt8
  /-- The interrupt handler is registered. -/
  irq : Bool
  /-- What `own_workqueue` refers to. -/
  queue : Queue
  /-- How often the work item or tasklet has been queued, has begun and has ended. -/
  queued : ℕ
  begun : ℕ
  ended : ℕ
  /-- Work was queued on a workqueue that did not exist. -/
  misqueued : Bool

/-- The choices of the kernel. -/
structure Env where
  /-- The error of each function that registers something, as `-(n + 1)`. -/
  fails : Registration → Option ℕ := fun _ => none
  copyFault : Option (ℕ × ℕ) := none
  kmalloc : Bool := true

/-- The answer of a function that registers something. -/
def Env.answer (e : Env) (r : Registration) : Int :=
  match e.fails r with
  | none => 0
  | some n => -(n + 1 : ℕ)

namespace State

/-- Something has been registered. -/
@[simps]
def grant (s : State) (r : Registration) : State :=
  { s with
    ledger := s.ledger.acquire r
    handle := Function.update s.handle r (some s.ledger.next)
    irq := s.irq || r == .irq
    queue := if r = .workqueue then .alive else s.queue }

/-- The static variable becomes NULL or an error pointer. -/
@[simps]
def refuse (s : State) (r : Registration) : State :=
  { s with handle := Function.update s.handle r none }

/-- Something has been given back. -/
@[simps]
def giveBack (s : State) (r : Registration) : State :=
  { s with
    ledger := s.ledger.release ((s.handle r).getD s.ledger.next) r
    irq := s.irq && r != .irq
    queue := if r = .workqueue then .destroyed else s.queue }

/-- A function that registers something.  `sysfs_create_file` fails on a NULL kobject. -/
def tryAcquire (s : State) (e : Env) (r : Registration) : Int × State :=
  if r = .sysfsFile ∧ s.handle .kobject = none then (-EINVAL, s.refuse r)
  else if e.answer r = 0 then (0, s.grant r)
  else (e.answer r, s.refuse r)

lemma tryAcquire_cases (s : State) (e : Env) (r : Registration) :
    s.tryAcquire e r = (0, s.grant r) ∨ ∃ x, x ≠ 0 ∧ s.tryAcquire e r = (x, s.refuse r) := by
  unfold tryAcquire
  split_ifs with hsysfs hok
  · exact .inr ⟨-EINVAL, by decide, rfl⟩
  · exact .inl rfl
  · exact .inr ⟨_, hok, rfl⟩

end State

/-- What each operation does.  `kobject_put` does nothing for NULL. -/
def sem (e : Env) : Prog.Sem Op Op.Ans State
  | .acquire r, s => .done (s.tryAcquire e r).1 (s.tryAcquire e r).2
  | .release r, s =>
      .done () (if r = .kobject ∧ s.handle r = none then s else s.giveBack r)
  | .queueWork own, s =>
      if own ∧ s.queue ≠ .alive then .done true { s with misqueued := true }
      else if s.begun < s.queued then .done false s
      else .done true { s with queued := s.queued + 1 }
  | .lastQueued, s => .done s.queued s
  | .awaitWork _, s => .done () s
  | .copyMessage user, s =>
      .done (writeMessage s.deviceBuffer user e.copyFault).1
        { s with deviceBuffer := (writeMessage s.deviceBuffer user e.copyFault).2 }
  | .addNode, s =>
      if e.kmalloc then
        .done (some s.ledger.next) { s with
          ledger := s.ledger.acquire .node
          nodes := s.nodes ++ [(s.ledger.next, s.tempValue + 1)]
          tempValue := s.tempValue + 1 }
      else .done none s
  | .loadNodes, s => .done (s.nodes.map Prod.fst) s
  | .freeNode n, s =>
      .done () { s with
        ledger := s.ledger.release n .node
        nodes := s.nodes.filter fun p => p.1 != n }

/-! ## The kernel functions under their names -/

/-- A pointer that a kernel function returns. -/
inductive Ptr where
  | valid
  | null
  /-- An error pointer, of which `IS_ERR` is true. -/
  | err
deriving DecidableEq, Repr

/-- A function that returns `bad` when it fails. -/
def acquirePtr (r : Registration) (bad : Ptr) : Driver Ptr := do
  let ret ← op (Op.acquire r)
  pure (if ret = 0 then .valid else bad)

def allocChrdevRegion : Driver Int := op (Op.acquire .chrdevRegion)
def cdevAdd : Driver Int := op (Op.acquire .cdev)
def classCreate : Driver Ptr := acquirePtr .cls .err
def deviceCreate : Driver Ptr := acquirePtr .device .err
def kobjectCreateAndAdd : Driver Ptr := acquirePtr .kobject .null
def sysfsCreateFile : Driver Int := op (Op.acquire .sysfsFile)
def kthreadRun (i : ℕ) : Driver Ptr := acquirePtr (.thread i) .err
def requestIrq : Driver Int := op (Op.acquire .irq)
def allocWorkqueue : Driver Ptr := acquirePtr .workqueue .null
def unregisterChrdevRegion : Driver Unit := op (Op.release .chrdevRegion)
def cdevDel : Driver Unit := op (Op.release .cdev)
def classDestroy : Driver Unit := op (Op.release .cls)
def deviceDestroy : Driver Unit := op (Op.release .device)
def kobjectPut : Driver Unit := op (Op.release .kobject)
def sysfsRemoveFile : Driver Unit := op (Op.release .sysfsFile)
def kthreadStop (i : ℕ) : Driver Unit := op (Op.release (.thread i))
def freeIrq : Driver Unit := op (Op.release .irq)
def destroyWorkqueue : Driver Unit := op (Op.release .workqueue)

/-- `flush_work` and `tasklet_kill` -/
def flushWork : Driver Unit := do
  let n ← op Op.lastQueued
  op (Op.awaitWork n)

/-! ## hello_init -/

/-- The label `r_class`. -/
def rClass : Driver Int := do
  unregisterChrdevRegion
  cdevDel
  pure (-1)

/-- The label `r_device`. -/
def rDevice : Driver Int := do
  classDestroy
  pure (-1)

/-- The label `r_sysfs`. -/
def rSysfs : Driver Int := do
  sysfsRemoveFile
  kobjectPut
  rClass

/-- `hello_init` up to the sysfs file, and then the rest. -/
def register (rest : Driver Int) : Driver Int := do
  let ret ← allocChrdevRegion
  if ret < 0 then pure ret
  else
    let ret ← cdevAdd
    if ret < 0 then rClass
    else
      let myclass ← classCreate
      if myclass = .err then rClass
      else
        let mydevice ← deviceCreate
        if mydevice = .err then rDevice
        else
          let _ ← kobjectCreateAndAdd
          let ret ← sysfsCreateFile
          if ret ≠ 0 then rSysfs
          else rest

/-- The label `r_thread`. -/
def rThread : Driver Int := do
  kthreadStop 0
  rSysfs

/-- The label `r_irq`. -/
def rIrq : Driver Int := do
  freeIrq
  rThread

/-- `hello_init` of the modules with an interrupt handler; two of them end with
`alloc_workqueue`. -/
def irqInit (own : Bool) : Driver Int :=
  register do
    let kthread ← kthreadRun 0
    if kthread = .null then rThread
    else
      let ret ← requestIrq
      if ret ≠ 0 then rIrq
      else if own then
        let own_workqueue ← allocWorkqueue
        if own_workqueue = .null then pure (-ENOMEM)
        else pure 0
      else pure 0

/-- `r_thread2` of `rwspinlock_module.c`. -/
def rThread2 : Driver Int := do
  kthreadStop 2
  rSysfs

/-- `r_thread1` of `rwspinlock_module.c`. -/
def rThread1 : Driver Int := do
  kthreadStop 1
  rThread2

/-- `hello_init` of `rwspinlock_module.c`; its `r_thread` goes on to the other two labels. -/
def rwspinlockInit : Driver Int :=
  register do
    let kthread ← kthreadRun 0
    if kthread = .null then do
      kthreadStop 0
      rThread1
    else
      let kthread1 ← kthreadRun 1
      if kthread1 = .null then rThread1
      else
        let kthread2 ← kthreadRun 2
        if kthread2 = .null then rThread2
        else pure 0

/-! ## hello_exit -/

/-- The end of `hello_exit`. -/
def unregister : Driver Unit := do
  sysfsRemoveFile
  kobjectPut
  deviceDestroy
  classDestroy
  cdevDel
  unregisterChrdevRegion

/-- Free each of these nodes. -/
def freeEach : List ℕ → Driver Unit
  | [] => pure ()
  | n :: ns => do
    op (Op.freeNode n)
    freeEach ns

/-- The loop `list_for_each_entry_safe` of `hello_exit`. -/
def freeNodes : Driver Unit := do
  let nodes ← op Op.loadNodes
  freeEach nodes

/-- The modules that are loaded and unloaded. -/
inductive LoadModule where
  | ownWorkqueues
  | workqueuesOnCpu
  | workqueuesModule
  | taskletModule
  | linkedList
  | rwspinlockModule
deriving DecidableEq, Repr

namespace LoadModule

/-- The module has a workqueue of its own. -/
def own : LoadModule → Bool
  | ownWorkqueues | linkedList => true
  | _ => false

/-- `hello_init` -/
def helloInit : LoadModule → Driver Int
  | rwspinlockModule => rwspinlockInit
  | m => irqInit m.own

/-- `hello_exit` -/
def helloExit : LoadModule → Driver Unit
  | ownWorkqueues => do
    flushWork
    destroyWorkqueue
    freeIrq
    kthreadStop 0
    unregister
  | workqueuesOnCpu => do
    flushWork
    freeIrq
    kthreadStop 0
    unregister
  | workqueuesModule => do
    freeIrq
    kthreadStop 0
    unregister
  | taskletModule => do
    flushWork
    freeNodes
    freeIrq
    kthreadStop 0
    unregister
  | linkedList => do
    freeNodes
    flushWork
    destroyWorkqueue
    freeIrq
    kthreadStop 0
    unregister
  | rwspinlockModule => do
    kthreadStop 0
    kthreadStop 1
    kthreadStop 2
    unregister

/-- `irq_handler` -/
def irqHandler (m : LoadModule) : Driver Unit := do
  let _ ← op (Op.queueWork m.own)
  pure ()

/-- `my_write`; two of the modules have a list, to which each message adds a node. -/
def myWrite (m : LoadModule) (user : List UInt8) : Driver Int := do
  let toCopy ← op (Op.copyMessage user)
  if toCopy < 0 then pure toCopy
  else match m with
    | taskletModule | linkedList => do
      let newNode ← op Op.addNode
      match newNode with
      | none => pure (-EINVAL)
      | some _ => pure toCopy
    | _ => pure toCopy

end LoadModule

/-- The state of a module that is about to be loaded; the ledger outlives it. -/
def State.fresh (l : Ledger Registration) : State where
  ledger := l
  handle _ := none
  nodes := []
  tempValue := 0
  deviceBuffer := List.replicate BUFF_SIZE 0
  irq := false
  queue := .absent
  queued := 0
  begun := 0
  ended := 0
  misqueued := false

end KernelDriverLab.Loading
