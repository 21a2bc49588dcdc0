import KernelDriverLab.Lib.System
import KernelDriverLab.Modules.Startup

/-!
# What loading and unloading leave behind

A module is loaded, whatever the kernel refuses, and unloaded, any number of times.  The
tables say for each module which refusals its init function overlooks and which ones it does
not survive, what it leaves behind and what it gives back wrongly after another one, what its
exit function needs, and what it can leave behind at all.  Their proofs go through the ends of
`hello_init` and `hello_exit`.
-/

namespace KernelDriverLab.Startup

open Lib Prog Custody

/-! ## The life of a module -/

/-- A module between two loads or unloads. -/
structure Life where
  /-- What the latest load has acquired and is still held. -/
  custody : Custody Resource
  /-- What the loads and unloads before have left behind. -/
  left : List Resource
  loaded : Bool
  /-- A function of the module has followed a pointer to something that was not held. -/
  oops : Bool

namespace Life

/-- What the user can do. -/
inductive Event where
  /-- The kernel grants these things. -/
  | load (grants : Resource → Bool)
  | unload

/-- The module after its init function. -/
def ofInit (left : List Resource) : Outcome (Custody Resource) Ret → Life
  | .done x c => ⟨c, left, x.keeps, false⟩
  | .oops c => ⟨c, left, false, true⟩

/-- The module after its exit function. -/
def ofExit (left : List Resource) : Outcome (Custody Resource) Unit → Life
  | .done _ c => ⟨c, left, false, false⟩
  | .oops c => ⟨c, left, true, true⟩

/-- The variables of the module are new, and what is left of the last load stays. -/
def load (m : LabModule) (k : Life) (grants : Resource → Bool) : Life :=
  ofInit (k.custody.held ++ k.left) (m.helloInit.run (sem rules grants) .start)

/-- The exit function asks for nothing that could be refused. -/
def unload (m : LabModule) (k : Life) : Life :=
  ofExit k.left (m.helloExit.run (sem rules fun _ => false) k.custody)

/-- Nothing more can be done with a module after an oops. -/
def step (m : LabModule) (k : Life) : Event → Option Life
  | .load grants => if k.loaded = true ∨ k.oops = true then none else some (k.load m grants)
  | .unload => if k.loaded = true ∧ k.oops = false then some (k.unload m) else none

/-- What nothing can give back any more. -/
def leftBehind (k : Life) : List Resource :=
  (if k.loaded then [] else k.custody.held) ++ k.left

/-- A module that was never loaded. -/
def never : Life := ⟨.start, [], false, false⟩

lemma leftBehind_ofInit (left : List Resource) (x : Outcome (Custody Resource) Ret) :
    (ofInit left x).leftBehind = (ofInit [] x).leftBehind ++ left := by
  cases x <;> rw [leftBehind, leftBehind, List.append_assoc] <;> rfl

lemma leftBehind_ofExit (left : List Resource) (x : Outcome (Custody Resource) Unit) :
    (ofExit left x).leftBehind = (ofExit [] x).leftBehind ++ left := by
  cases x <;> rw [leftBehind, leftBehind, List.append_assoc] <;> rfl

end Life

/-- The life of a module from the first load on. -/
@[simps]
def lifecycle (m : LabModule) : System Life Life.Event where
  Init k := k = .never
  next := Life.step m

variable {m : LabModule} {k k' : Life} {grants : Resource → Bool} {r : Resource}

lemma load_inv (h : (lifecycle m).next k (.load grants) = some k') :
    k.loaded = false ∧ k.oops = false ∧ k' = k.load m grants := by
  simp only [lifecycle_next, Life.step, Option.ite_none_left_eq_some, not_or,
    Bool.not_eq_true, Option.some.injEq] at h
  exact ⟨h.1.1, h.1.2, h.2.symm⟩

lemma unload_inv (h : (lifecycle m).next k .unload = some k') :
    k.loaded = true ∧ k.oops = false ∧ k' = k.unload m := by
  simp only [lifecycle_next, Life.step, Option.ite_none_right_eq_some, Option.some.injEq] at h
  exact ⟨h.1.1, h.1.2, h.2.symm⟩

/-- A load comes to one of the ends of `hello_init`. -/
lemma of_load {P : Outcome (Custody Resource) Ret → Prop}
    (hP : ∀ x ∈ ends rules m.helloInit .start, P x)
    (h : (lifecycle m).next k (.load grants) = some k') :
    ∃ x, k' = .ofInit (k.custody.held ++ k.left) x ∧ P x := by
  obtain ⟨-, -, rfl⟩ := load_inv h
  exact ⟨_, rfl, of_ends hP grants⟩

/-- A module that is loaded is at one of the ends of `hello_init`. -/
lemma of_loaded {P : Outcome (Custody Resource) Ret → Prop}
    (hP : ∀ x ∈ ends rules m.helloInit .start, P x) (hk : (lifecycle m).Reachable k)
    (hloaded : k.loaded = true) (hok : k.oops = false) : ∃ l x, k = .ofInit l x ∧ P x := by
  cases hk with
  | init h =>
    obtain rfl := h
    cases hloaded
  | @step k' _ l hk' _ h =>
    cases l with
    | load grants =>
      obtain ⟨x, hx, hPx⟩ := of_load hP h
      exact ⟨_, x, hx, hPx⟩
    | unload =>
      obtain ⟨-, -, rfl⟩ := unload_inv h
      rw [Life.unload] at hloaded hok
      generalize m.helloExit.run (sem rules fun _ => false) k'.custody = y at hloaded hok
      cases y with
      | done _ c => cases hloaded
      | oops c => cases hok

/-- An unload comes to one of the ends of `hello_exit`, after one of the ends of
`hello_init`. -/
lemma of_unload {P : Custody Resource → Outcome (Custody Resource) Unit → Prop}
    (hP : ∀ x ∈ ends rules m.helloInit .start, (Life.ofInit [] x).loaded = true →
      ∀ y ∈ ends rules m.helloExit (Life.ofInit [] x).custody, P (Life.ofInit [] x).custody y)
    (hk : (lifecycle m).Reachable k) (h : (lifecycle m).next k .unload = some k') :
    ∃ y, k' = .ofExit k.left y ∧ P k.custody y := by
  obtain ⟨hloaded, hok, rfl⟩ := unload_inv h
  obtain ⟨l, x, rfl, hx⟩ := of_loaded hP hk hloaded hok
  cases x with
  | done x c => exact ⟨_, rfl, of_ends (hx hloaded) _⟩
  | oops c => cases hok

/-! ## Loading -/

namespace LabModule

/-- The init function does not survive that this is refused: it wakes up a thread that there
is not, or removes the file of a kobject that there is not. -/
def crashes (m : LabModule) (c : Custody Resource) : Resource → Bool
  | .thread 0 => m ∈ [atomicVariable, completionModule, kthreadModule, waitQueueModule]
  | .sysfsFile => m = sysfsModule ∨ .kobject ∉ c.refs
  | _ => false

/-- The init function goes on, or the module stays loaded, when this is refused. -/
def overlooks : LabModule → Resource → Bool
  | deviceDriver, _ | miscModule, _ | _, .thread _ | _, .procFile _ => true
  | customSlabCache, .cls | customSlabCache, .device | _, .slabCache => true
  | kmalloc, .cdev | kmalloc, .cls | kmalloc, .device => true
  | vmalloc, .cdev | vmalloc, .cls | vmalloc, .device => true
  | tempWatch, .procDir | _, .gpioExport | _, .gpioLink => true
  | _, _ => false

/-- What stays registered when the load fails because this is refused. -/
def left : LabModule → Resource → List Resource
  | gpio, _ => []
  | procfsModule, .procDir | sysfsModule, .kobject => [.device, .cls, .cdev, .chrdevRegion]
  | sysfsModule, .device => []
  | customSlabCache, .cdev => [.chrdevRegion]
  | ioctl, .cls | ioctl, .device => [.cdev]
  | _, .device => [.cdev, .chrdevRegion]
  | _, .sysfsFile | _, .irq => [.device, .cls]
  | _, _ => []

/-- What is given back then without being held. -/
def misgiven : LabModule → Resource → List Resource
  | customSlabCache, _ | ioctl, _ => []
  | gpio, .chrdevRegion => [.chrdevRegion]
  | gpio, .device => [.device]
  | _, .cdev => [.cdev]
  | _, .sysfsFile => [.sysfsFile]
  | _, .irq => [.irq]
  | _, _ => []

/-- What a load comes to, by what has been refused last. -/
def Loads (m : LabModule) (k : Life) : Prop :=
  match k.custody.refused with
  | none => k.oops = false ∧ k.loaded = true
  | some r =>
    if m.crashes k.custody r then k.oops = true
    else if m.overlooks r then k.oops = false ∧ k.loaded = true
    else k.oops = false ∧ k.loaded = false ∧ k.custody.held = m.left r ∧
      k.custody.wrong = m.misgiven r

instance (k : Life) : Decidable (m.Loads k) := by
  unfold Loads
  cases k.custody.refused <;> infer_instance

end LabModule

section Loading

lemma loads_of_mem_ends (m : LabModule) :
    ∀ x ∈ ends rules m.helloInit .start, m.Loads (.ofInit [] x) := by
  cases m <;> decide +kernel

/-- **What a load comes to.** -/
theorem load_outcome (m : LabModule) {k k' : Life} {grants : Resource → Bool}
    (h : (lifecycle m).next k (.load grants) = some k') : m.Loads k' := by
  obtain ⟨x, rfl, hx⟩ := of_load (loads_of_mem_ends m) h
  cases x <;> exact hx

/-- There is no directory in `/proc`: everything that was registered before stays. -/
theorem load_outcome_procDir : ∃ k' : Life,
    (lifecycle .procfsModule).next .never (.load (· ≠ .procDir)) = some k' ∧
      k'.custody.held = [.device, .cls, .cdev, .chrdevRegion] ∧
      LabModule.Loads .procfsModule k' := by
  have hnext := (Option.some_get (show ((lifecycle .procfsModule).next .never
    (.load (· ≠ .procDir))).isSome = true by decide +kernel)).symm
  exact ⟨_, hnext, by decide +kernel, load_outcome .procfsModule hnext⟩

end Loading

/-! ## Unloading -/

namespace LabModule

/-- The threads that the exit function stops. -/
def stops : LabModule → List Resource
  | atomicVariable | mutexModule | withoutMutexModule | seqlockModule | spinlockModule =>
      [.thread 0, .thread 1]
  | kthreadModule | spinlockWithInterrupts | tempWatch => [.thread 0]
  | _ => []

/-- What else must be held for the exit function to give everything back, if anything can. -/
def needed : LabModule → Option (List Resource)
  | gpio | ioctl | sysfsModule => none
  | tempWatch => some [.procFile 0, .procFile 1, .procFile 2]
  | kmalloc | vmalloc => some [.cdev, .device]
  | customSlabCache | deviceDriver => some [.device]
  | miscModule => some [.miscdevice]
  | _ => some []

/-- The exit function gives everything back, and nothing else. -/
def Returns (m : LabModule) (c : Custody Resource) : Prop :=
  match m.needed with
  | none => False
  | some rs => ∀ r ∈ rs, r ∈ c.held

instance (c : Custody Resource) : Decidable (m.Returns c) := by
  unfold Returns
  cases m.needed <;> infer_instance

/-- What an unload comes to. -/
def Unloads (m : LabModule) (c : Custody Resource) (k : Life) : Prop :=
  (k.oops = false ↔ ∀ r ∈ m.stops, r ∈ c.held) ∧
    (k.oops = false → (k.custody.Clean ↔ m.Returns c))

instance (c : Custody Resource) (k : Life) : Decidable (m.Unloads c k) :=
  inferInstanceAs (Decidable (_ ∧ _))

end LabModule

lemma unloads_of_mem_ends (m : LabModule) :
    ∀ x ∈ ends rules m.helloInit .start, (Life.ofInit [] x).loaded = true →
      ∀ y ∈ ends rules m.helloExit (Life.ofInit [] x).custody,
        m.Unloads (Life.ofInit [] x).custody (.ofExit [] y) := by
  cases m <;> decide +kernel

/-- What a module can leave behind: of `procfs_module.c` for example a character device whose
functions are gone, of `sysfs_module.c` its file. -/
def LabModule.leavable : LabModule → List Resource
  | .deviceDriver | .kmalloc | .vmalloc | .miscModule => []
  | .customSlabCache => [.chrdevRegion]
  | .ioctl => [.cdev]
  | .gpio => [.gpioLink]
  | .atomicVariable | .completionModule | .exportSymbol | .exportSymbol2 | .hrtimerModule
  | .kthreadModule | .mutexModule | .secSignalModule | .tempWatch | .timerModule
  | .waitQueueModule | .withoutMutexModule => [.cdev, .chrdevRegion]
  | .interruptModule | .procfsModule | .seqlockModule | .signalModule | .spinlockModule
  | .spinlockWithInterrupts => [.device, .cls, .cdev, .chrdevRegion]
  | .sysfsModule => [.sysfsFile, .kobject, .device, .cls, .cdev, .chrdevRegion]

section Runs

/-- Nothing but this is left behind when there has been no oops. -/
def Life.Leaves (m : LabModule) (k : Life) : Prop :=
  k.oops = false → ∀ r ∈ k.leftBehind, r ∈ m.leavable

instance : Decidable (k.Leaves m) := inferInstanceAs (Decidable (_ → _))

lemma leaves_of_mem_ends (m : LabModule) :
    ∀ x ∈ ends rules m.helloInit .start, (Life.ofInit [] x).Leaves m ∧
      ((Life.ofInit [] x).loaded = true → ∀ y ∈ ends rules m.helloExit (Life.ofInit [] x).custody,
        (Life.ofExit [] y).Leaves m) := by
  cases m <;> decide +kernel

lemma leaves_of_reach (hk : (lifecycle m).Reachable k) : k.Leaves m := by
  induction hk with
  | init h =>
    obtain rfl := h
    intro _ r hr
    cases hr
  | @step k k' l hk _ h ih =>
    intro hoops r hr
    cases l with
    | load grants =>
      obtain ⟨hunloaded, hok, -⟩ := load_inv h
      obtain ⟨x, rfl, hx, -⟩ := of_load (leaves_of_mem_ends m) h
      rw [Life.leftBehind_ofInit, List.mem_append] at hr
      rcases hr with hr | hr
      · exact hx (by cases x <;> exact hoops) r hr
      · refine ih hok r ?_
        rwa [Life.leftBehind, hunloaded]
    | unload =>
      obtain ⟨hloaded, hok, -⟩ := unload_inv h
      obtain ⟨y, rfl, hy⟩ := of_unload (P := fun _ y => (Life.ofExit [] y).Leaves m)
        (fun x hx => (leaves_of_mem_ends m x hx).2) hk h
      rw [Life.leftBehind_ofExit, List.mem_append] at hr
      rcases hr with hr | hr
      · exact hy (by cases y <;> exact hoops) r hr
      · refine ih hok r ?_
        rwa [Life.leftBehind, hloaded]

/-- A load without this, or a load and an unload. -/
def spoiled : Option Resource → List Life.Event
  | none => [.load fun _ => true, .unload]
  | some r => [.load (· ≠ r)]

/-- Refusals after which something is left behind; `none` stands for no refusal. -/
def refusable : List (Option Resource) :=
  [none, some .cdev, some .cls, some .device, some .kobject, some .sysfsFile, some .procDir,
    some .irq]

lemma exists_spoiled (m : LabModule) : ∀ r ∈ m.leavable, ∃ x ∈ refusable,
    ((lifecycle m).exec .never (spoiled x)).any
      (fun k => decide (k.oops = false ∧ r ∈ k.leftBehind)) = true := by
  cases m <;> decide +kernel

end Runs

end KernelDriverLab.Startup
