import KernelDriverLab.Lib.Custody
import KernelDriverLab.Modules.Loading

/-!
# hello_init and hello_exit of the other modules

What the modules outside of `Loading` register when they are loaded, what they give back on
the way out when the kernel refuses something, and what they give back when they are
unloaded.

A thread counts as given back when `kthread_stop` has returned, and a wait thread when it has
been told to end.  What the handlers allocate, and what the threads, timers and files do, is
described elsewhere.
-/

namespace KernelDriverLab.Startup

open Lib Prog Custody
open Chardev (EFAULT)
open Loading (Ptr)

/-! ## The kernel -/

/-- What a module registers or asks for. -/
inductive Resource where
  | chrdevRegion | cdev | cls | device | kobject | sysfsFile
  /-- One of the kernel threads of the module. -/
  | thread (i : ℕ)
  | irq
  | timer
  | procDir
  /-- One of the files in that directory. -/
  | procFile (i : ℕ)
  | slabCache
  | miscdevice
  | gpio | gpioExport | gpioLink
  /-- `gpio_is_valid`, `gpio_to_desc` and `gpiod_direction_output` register nothing. -/
  | gpioNumber | gpioDesc | gpioDirection
deriving DecidableEq, Repr

/-- `device_create` refuses an error pointer and `sysfs_create_file` a NULL kobject;
`class_destroy`, `kobject_put`, `kmem_cache_destroy`, `proc_remove` and `gpiod_unexport` do
nothing for them; a directory takes its files along.  `wake_up_process` and `kthread_stop`
follow the pointer to the thread, and `sysfs_remove_file` the one to the kobject. -/
@[simps]
def rules : Rules Resource where
  needs
    | .device => [.cls]
    | .sysfsFile => [.kobject]
    | _ => []
  sure
    | .timer => true
    | _ => false
  lenient
    | .cls | .kobject | .slabCache | .procDir | .gpioExport => true
    | _ => false
  inside
    | .sysfsFile => some .kobject
    | .procFile _ => some .procDir
    | _ => none
  follows
    | .thread i => [.thread i]
    | .sysfsFile => [.kobject]
    | _ => []

/-- A function of a module, as a program over what it acquires and gives back. -/
abbrev Driver (α : Type) : Type := Prog (Op Resource) Op.Ans α

/-- What an init function returns. -/
inductive Ret where
  | value (x : Int)
  /-- The negative error of the call that has just failed. -/
  | error
deriving DecidableEq, Repr

/-- The kernel keeps a module unless its init function returns a negative number. -/
def Ret.keeps : Ret → Bool
  | value x => 0 ≤ x
  | error => false

/-- A function that returns a negative error when it fails; `true` stands for its success. -/
def acquire (r : Resource) : Driver Bool := op (Op.acquire r)

/-- A function that returns `bad` when it fails. -/
def acquirePtr (r : Resource) (bad : Ptr) : Driver Ptr := do
  let ok ← acquire r
  pure (if ok then .valid else bad)

/-- A function that gives something back. -/
def release (r : Resource) : Driver Unit := op (Op.release r)

def allocChrdevRegion : Driver Bool := acquire .chrdevRegion
def cdevAdd : Driver Bool := acquire .cdev
def classCreate : Driver Ptr := acquirePtr .cls .err
def deviceCreate : Driver Ptr := acquirePtr .device .err
def kobjectCreateAndAdd : Driver Ptr := acquirePtr .kobject .null
def sysfsCreateFile : Driver Bool := acquire .sysfsFile
def requestIrq : Driver Bool := acquire .irq
def procMkdir : Driver Ptr := acquirePtr .procDir .null
def procCreate (i : ℕ) : Driver Ptr := acquirePtr (.procFile i) .null
def kmemCacheCreate : Driver Ptr := acquirePtr .slabCache .null
def miscRegister : Driver Bool := acquire .miscdevice

/-- `kthread_run` and `kthread_create` -/
def kthreadRun (i : ℕ) : Driver Ptr := acquirePtr (.thread i) .err

/-- `mod_timer` and `hrtimer_start` -/
def startTimer : Driver Bool := acquire .timer

def unregisterChrdevRegion : Driver Unit := release .chrdevRegion
def cdevDel : Driver Unit := release .cdev
def classDestroy : Driver Unit := release .cls
def deviceDestroy : Driver Unit := release .device
def kobjectPut : Driver Unit := release .kobject
def sysfsRemoveFile : Driver Unit := release .sysfsFile
def kthreadStop (i : ℕ) : Driver Unit := release (.thread i)
def freeIrq : Driver Unit := release .irq
def procRemove : Driver Unit := release .procDir
def removeProcEntry (i : ℕ) : Driver Unit := release (.procFile i)
def kmemCacheDestroy : Driver Unit := release .slabCache
def miscDeregister : Driver Unit := release .miscdevice

/-- `del_timer` and `hrtimer_cancel` -/
def stopTimer : Driver Unit := release .timer

/-- The 2 in the flag and the signal of `completion_module.c` and `wait_queue_module.c`, on which
the wait thread ends by itself. -/
def signalThread : Driver Unit := release (.thread 0)

/-- `wake_up_process` -/
def wakeUpProcess (i : ℕ) : Driver Unit := op (Op.use (.thread i))

/-! ## The labels of hello_init -/

/-- The label `r_class`. -/
def rClass : Driver Ret := do
  unregisterChrdevRegion
  cdevDel
  pure (.value (-1))

/-- The label `r_device`. -/
def rDevice : Driver Ret := do
  classDestroy
  pure (.value (-1))

/-- The label `r_sysfs`. -/
def rSysfs : Driver Ret := do
  sysfsRemoveFile
  kobjectPut
  rClass

/-- `r_thread` of the modules with two threads. -/
def rThread : Driver Ret := do
  kthreadStop 0
  kthreadStop 1
  rSysfs

/-! ## hello_init -/

/-- The beginning that most modules share; `noRegion` is returned when there is no device
number. -/
def register (noRegion : Ret) (rest : Driver Ret) : Driver Ret := do
  let ok ← allocChrdevRegion
  if !ok then pure noRegion
  else
    let ok ← cdevAdd
    if !ok then rClass
    else
      let myclass ← classCreate
      if myclass = .err then rClass
      else
        let mydevice ← deviceCreate
        if mydevice = .err then rDevice
        else rest

/-- The sysfs file that several of them go on with. -/
def registerFile (rest : Driver Ret) : Driver Ret := do
  let _ ← kobjectCreateAndAdd
  let ok ← sysfsCreateFile
  if !ok then rSysfs
  else rest

/-- The rest of `kthread_module.c`, `completion_module.c` and `wait_queue_module.c`. -/
def createThread : Driver Ret := do
  let thread ← kthreadRun 0
  if thread = .null then pure (.value (-1))
  else
    wakeUpProcess 0
    pure (.value 0)

/-- The rest of `atomic_variable.c`, which only reports that there is no second thread. -/
def createThreads : Driver Ret := do
  let exmp_thread ← kthreadRun 0
  if exmp_thread = .null then pure (.value (-1))
  else
    wakeUpProcess 0
    let _ ← kthreadRun 1
    pure (.value 0)

/-- The rest of `mutex_module.c` and `without_mutex_module.c`. -/
def runThreads : Driver Ret := do
  let mutex_thread1 ← kthreadRun 1
  if mutex_thread1 = .null then pure (.value (-1))
  else
    let mutex_thread ← kthreadRun 0
    if mutex_thread = .null then pure (.value (-1))
    else pure (.value 0)

/-- The rest of `seqlock_module.c` and `spinlock_module.c`. -/
def runLockThreads : Driver Ret := do
  let kthread ← kthreadRun 0
  if kthread = .null then rThread
  else
    let kthread1 ← kthreadRun 1
    if kthread1 = .null then rThread
    else pure (.value 0)

/-- The rest of `spinlock_with_interrupts.c`. -/
def runThreadAndTimer : Driver Ret := do
  let kthread ← kthreadRun 0
  if kthread = .null then do
    kthreadStop 0
    rSysfs
  else
    let _ ← startTimer
    pure (.value 0)

/-- `request_irq` at the end of a function whose labels go on with `rest`. -/
def requestIrqOr (rest : Driver Ret) : Driver Ret := do
  let ok ← requestIrq
  if !ok then do
    freeIrq
    rest
  else pure (.value 0)

/-- The rest of `timer_module.c` and `hrtimer_module.c`. -/
def runTimer : Driver Ret := do
  let _ ← startTimer
  pure (.value 0)

/-- The rest of `temp_watch.c`. -/
def tempWatchFiles : Driver Ret := do
  let parent ← procMkdir
  if parent = .null then pure (.value 0)
  else
    let _ ← procCreate 0
    let _ ← procCreate 1
    let _ ← procCreate 2
    let kthread ← kthreadRun 0
    if kthread = .null then rClass
    else pure (.value 0)

/-- `hello_init` of `procfs_module.c`. -/
def procfsInit : Driver Ret := do
  let ok ← allocChrdevRegion
  if !ok then pure .error
  else
    let ok ← cdevAdd
    if !ok then rClass
    else
      let myclass ← classCreate
      if myclass = .err then rClass
      else
        let mydevice ← deviceCreate
        if mydevice = .err then rDevice
        else
          let parent ← procMkdir
          if parent = .null then pure (.value (-EFAULT))
          else
            let _ ← procCreate 0
            pure (.value 0)
where
  rClass : Driver Ret := do
    cdevDel
    unregisterChrdevRegion
    pure (.value (-1))

/-- `driver_init_sysfs`, whose labels go on into one another. -/
def driverInitSysfs : Driver Ret := do
  let ok ← allocChrdevRegion
  if !ok then pure (.value (-EFAULT))
  else
    let ok ← cdevAdd
    if !ok then rClass
    else
      let x_class ← classCreate
      if x_class = .err then rClass
      else
        let x_device ← deviceCreate
        if x_device = .err then rDevice
        else
          let kobj_ref ← kobjectCreateAndAdd
          if kobj_ref = .null then pure (.value (-EFAULT))
          else
            let ok ← sysfsCreateFile
            if !ok then rSysfs
            else pure (.value 0)
where
  rDevice : Driver Ret := do
    classDestroy
    rClass
  rSysfs : Driver Ret := do
    kobjectPut
    sysfsRemoveFile
    rDevice

/-- `ioctl_driver` -/
def ioctlDriver : Driver Ret := do
  let ok ← allocChrdevRegion
  if !ok then pure (.value (-1))
  else
    let ok ← cdevAdd
    if !ok then rClass
    else
      let dev_class ← classCreate
      if dev_class = .err then rClass
      else
        let device ← deviceCreate
        if device = .err then rDevice
        else pure (.value 0)
where
  rClass : Driver Ret := do
    unregisterChrdevRegion
    pure (.value (-1))
  rDevice : Driver Ret := do
    classDestroy
    rClass

/-- `dev_init` of `device_driver.c` -/
def devInit : Driver Ret := do
  let ok ← allocChrdevRegion
  if !ok then rChrdev
  else
    let dev_class ← classCreate
    if dev_class = .err then rClass
    else
      let dev_device ← deviceCreate
      if dev_device = .err then rDevice
      else pure (.value 0)
where
  rChrdev : Driver Ret := do
    unregisterChrdevRegion
    pure (.value 1)
  rClass : Driver Ret := do
    classDestroy
    rChrdev
  rDevice : Driver Ret := do
    deviceDestroy
    rClass

/-- `hello_init` of `custom_slab_cache.c`. -/
def customSlabInit : Driver Ret := do
  let ok ← allocChrdevRegion
  if !ok then pure .error
  else
    let ok ← cdevAdd
    if !ok then pure .error
    else
      let _ ← classCreate
      let _ ← deviceCreate
      let _ ← kmemCacheCreate
      pure (.value 0)

/-- `kmalloc_init` and `vmalloc_init` -/
def kmallocInit : Driver Ret := do
  let ok ← allocChrdevRegion
  if !ok then pure (.value (-EFAULT))
  else
    let _ ← cdevAdd
    let _ ← classCreate
    let _ ← deviceCreate
    pure (.value 0)

/-- `misc_init` -/
def miscInit : Driver Ret := do
  let ok ← miscRegister
  if !ok then do
    miscDeregister
    pure (.value 0)
  else pure (.value 0)

/-- `gpio_init`; each label goes on into the next one. -/
def gpioInit : Driver Ret := do
  let ok ← allocChrdevRegion
  if !ok then rUnreg
  else
    let ok ← cdevAdd
    if !ok then rCdev
    else
      let dev_class ← classCreate
      if dev_class = .err then rClass
      else
        let dev_device ← deviceCreate
        if dev_device = .err then rDevice
        else
          let valid ← op (Op.ask .gpioNumber)
          if !valid then rDevice
          else
            let ok ← acquire .gpio
            if !ok then rDevice
            else
              let led_desc ← op (Op.ask .gpioDesc)
              if !led_desc then rGpio
              else
                let ok ← op (Op.ask .gpioDirection)
                if !ok then rGpio
                else
                  let _ ← acquire .gpioExport
                  let _ ← acquire .gpioLink
                  pure (.value 0)
where
  rUnreg : Driver Ret := do
    unregisterChrdevRegion
    pure (.value (-1))
  rCdev : Driver Ret := do
    cdevDel
    rUnreg
  rClass : Driver Ret := do
    classDestroy
    rCdev
  rDevice : Driver Ret := do
    deviceDestroy
    rClass
  rGpio : Driver Ret := do
    release .gpio
    rDevice

/-! ## The modules -/

/-- The modules, under the names of their files. -/
inductive LabModule where
  | atomicVariable | completionModule | customSlabCache | deviceDriver | exportSymbol
  | exportSymbol2 | gpio | hrtimerModule | interruptModule | ioctl | kmalloc | kthreadModule
  | miscModule | mutexModule | procfsModule | secSignalModule | seqlockModule | signalModule
  | spinlockModule | spinlockWithInterrupts | sysfsModule | tempWatch | timerModule | vmalloc
  | waitQueueModule | withoutMutexModule
deriving DecidableEq, Repr

namespace LabModule

/-- The init function. -/
def helloInit : LabModule → Driver Ret
  | atomicVariable => register (.value (-1)) createThreads
  | kthreadModule => register (.value (-1)) createThread
  | completionModule | waitQueueModule => register .error createThread
  | exportSymbol | exportSymbol2 | secSignalModule => register .error (pure (.value 0))
  | interruptModule => register .error (requestIrqOr rClass)
  | signalModule => register .error (registerFile (requestIrqOr rSysfs))
  | mutexModule | withoutMutexModule => register .error runThreads
  | seqlockModule | spinlockModule => register .error (registerFile runLockThreads)
  | spinlockWithInterrupts => register .error (registerFile runThreadAndTimer)
  | timerModule | hrtimerModule => register .error runTimer
  | tempWatch => register .error tempWatchFiles
  | procfsModule => procfsInit
  | sysfsModule => driverInitSysfs
  | ioctl => ioctlDriver
  | deviceDriver => devInit
  | customSlabCache => customSlabInit
  | kmalloc | vmalloc => kmallocInit
  | miscModule => miscInit
  | gpio => gpioInit

end LabModule

/-- The end of most exit functions. -/
def unregister : Driver Unit := do
  deviceDestroy
  classDestroy
  cdevDel
  unregisterChrdevRegion

/-- The same for the modules with a sysfs file. -/
def unregisterFile : Driver Unit := do
  sysfsRemoveFile
  kobjectPut
  unregister

/-- `dev_exit` of `device_driver.c` and `ioctl_exit` -/
def devExit : Driver Unit := do
  deviceDestroy
  classDestroy
  unregisterChrdevRegion

namespace LabModule

/-- The exit function. -/
def helloExit : LabModule → Driver Unit
  | exportSymbol | exportSymbol2 | secSignalModule | sysfsModule | kmalloc | vmalloc => unregister
  | completionModule | waitQueueModule => do
    signalThread
    unregister
  | ioctl | deviceDriver => devExit
  | atomicVariable => do
    kthreadStop 0
    kthreadStop 1
    unregister
  | kthreadModule => do
    kthreadStop 0
    unregister
  | interruptModule => do
    freeIrq
    unregister
  | signalModule => do
    freeIrq
    unregisterFile
  | mutexModule | withoutMutexModule => do
    kthreadStop 0
    kthreadStop 1
    unregister
  | seqlockModule | spinlockModule => do
    kthreadStop 0
    kthreadStop 1
    unregisterFile
  | spinlockWithInterrupts => do
    kthreadStop 0
    stopTimer
    unregisterFile
  | timerModule | hrtimerModule => do
    stopTimer
    unregister
  | tempWatch => do
    kthreadStop 0
    removeProcEntry 0
    removeProcEntry 1
    removeProcEntry 2
    procRemove
    unregister
  | procfsModule => do
    procRemove
    unregister
  | customSlabCache => do
    kmemCacheDestroy
    unregister
  | miscModule => miscDeregister
  | gpio => do
    release .gpioExport
    release .gpio
    release .gpio
    unregister

end LabModule

end KernelDriverLab.Startup
