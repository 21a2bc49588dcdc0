import KernelDriverLab.Chardev.Handlers
import KernelDriverLab.Lib.System

/-!
# The target of the signal

`signal_module.c` announces each message to the process that has registered last, by
`ioctl(IO_WRITE)`.  Any number of processes open, register, write, close and exit in any
order, and a release runs in the context of the process that closes.  `Aimed` says of a
history that a process is the right target: it has registered, nobody has since, and it has
neither closed a device file nor exited since.

`my_release` forgets the process only when `get_current` returns NULL, which it never does,
so the target stays when its process has gone.
-/

namespace KernelDriverLab.SignalTarget

open Lib Chardev

/-- A process, as its `task_struct`. -/
abbrev Task : Type := ℕ

/-- The variables of the module. -/
structure State where
  deviceBuffer : List UInt8
  task : Option Task
  signum : Int
deriving DecidableEq, Repr

/-- A call of `send_sig_info`. -/
structure Signal where
  signo : Int
  code : Int
  int : Int
  target : Task
deriving DecidableEq, Repr

/-- The number of the signal. -/
def SIGNO : Int := 44
/-- The code of a queued signal. -/
def SI_QUEUE : Int := -1
/-- What the interrupt handler returns. -/
def IRQ_HANDLED : Int := 1

/-- The number of an ioctl command. -/
def ioc (dir type nr size : ℕ) : ℕ := dir * 2 ^ 30 + size * 2 ^ 16 + type * 2 ^ 8 + nr

/-- `_IOW('a', 'b', int)` -/
def IO_WRITE : ℕ := ioc 1 97 98 4

/-! ## The functions -/

/-- What a call of `my_write` does. -/
structure Written where
  ret : Int
  signals : List Signal
  state : State
deriving DecidableEq, Repr

/-- `my_write`; whether `send_sig_info` fails is only logged. -/
def myWrite (s : State) (user : List UInt8) (fault : Option (ℕ × ℕ)) : Written :=
  let (ret, deviceBuffer) := writeMessage s.deviceBuffer user fault
  let s := { s with deviceBuffer := deviceBuffer }
  if ret < 0 then ⟨ret, [], s⟩
  else match s.task with
    | none => ⟨IRQ_HANDLED, [], s⟩
    | some task => ⟨ret, [⟨SIGNO, SI_QUEUE, 1, task⟩], s⟩

/-- `my_read`.  Its test `length < 0`, behind which it would give " NO DATA ", never holds of a
`size_t`. -/
def myRead (s : State) (_len offset : ℕ) (fault : Option ℕ) : Reply × State :=
  (readMessage (terminate s.deviceBuffer offset) offset fault id,
    { s with deviceBuffer := terminate s.deviceBuffer offset })

/-- `my_ioctl`, with what `get_current` returns. -/
def myIoctl (s : State) (current : Option Task) (cmd _arg : ℕ) : Int × State :=
  if cmd = IO_WRITE then (0, { s with task := current, signum := SIGNO }) else (0, s)

/-- `my_release`, with what `get_current` returns. -/
def myRelease (s : State) (current : Option Task) : Int × State :=
  if current = none then (0, { s with task := none }) else (0, s)

/-! ## The processes -/

/-- What a process does. -/
inductive Event where
  | open (p : Task)
  | ioctl (p : Task) (cmd arg : ℕ)
  | write (p : Task) (user : List UInt8) (fault : Option (ℕ × ℕ))
  /-- The last reference to one of its device files is closed. -/
  | close (p : Task)
  /-- It exits, which closes all its device files. -/
  | exit (p : Task)
deriving DecidableEq, Repr

/-- The module and the processes that have it open. -/
structure World where
  drv : State
  /-- How many device files each process has open. -/
  files : Task → ℕ
  exited : List Task
  /-- What has happened, the latest first. -/
  history : List Event

/-- One event. -/
def World.step (w : World) : Event → Option World
  | .open p =>
      if p ∉ w.exited then some { w with files := Function.update w.files p (w.files p + 1) }
      else none
  | .ioctl p cmd arg =>
      if 0 < w.files p then some { w with drv := (myIoctl w.drv (some p) cmd arg).2 } else none
  | .write p user fault =>
      if 0 < w.files p then some { w with drv := (myWrite w.drv user fault).state } else none
  | .close p =>
      if 0 < w.files p then
        some { w with
          drv := (myRelease w.drv (some p)).2
          files := Function.update w.files p (w.files p - 1) }
      else none
  | .exit p =>
      if p ∉ w.exited then
        some { w with
          drv := (fun s => (myRelease s (some p)).2)^[w.files p] w.drv
          files := Function.update w.files p 0
          exited := p :: w.exited }
      else none

/-- The module after it has been loaded. -/
def World.loaded : World := ⟨⟨List.replicate BUFF_SIZE 0, none, 0⟩, fun _ => 0, [], []⟩

/-- The runs of the module. -/
def system : System World Event where
  Init w := w = .loaded
  next w ev := (w.step ev).map fun w' => { w' with history := ev :: w.history }

/-- The process has registered, it is the latest to have done so, and it has neither closed a
device file nor exited since. -/
def Aimed (t : Task) : List Event → Prop
  | [] => False
  | .ioctl p cmd _ :: h => if cmd = IO_WRITE then p = t else Aimed t h
  | .close p :: h | .exit p :: h => p ≠ t ∧ Aimed t h
  | .open _ :: h | .write _ _ _ :: h => Aimed t h

instance Aimed.decidable (t : Task) : (h : List Event) → Decidable (Aimed t h)
  | [] => inferInstanceAs (Decidable False)
  | .ioctl p cmd _ :: h =>
    letI := Aimed.decidable t h
    inferInstanceAs (Decidable (if cmd = IO_WRITE then p = t else Aimed t h))
  | .close p :: h | .exit p :: h =>
    letI := Aimed.decidable t h
    inferInstanceAs (Decidable (p ≠ t ∧ Aimed t h))
  | .open _ :: h | .write _ _ _ :: h => Aimed.decidable t h

/-- The process that `task` refers to closes no device file and does not exit. -/
def Stays (w : World) : Event → Prop
  | .close p | .exit p => w.drv.task ≠ some p
  | _ => True

instance (w : World) : (ev : Event) → Decidable (Stays w ev)
  | .close _ | .exit _ => inferInstanceAs (Decidable (_ ≠ _))
  | .open _ | .ioctl _ _ _ | .write _ _ _ => inferInstanceAs (Decidable True)

/-! ## The registered process -/

section Runs

variable {s : State} {w w' : World} {ev : Event} {t : Task}

/-- A release in the context of a process changes nothing. -/
lemma myRelease_some (s : State) (p : Task) : myRelease s (some p) = (0, s) := if_neg (by simp)

lemma iterate_myRelease (p : Task) (n : ℕ) :
    (fun s => (myRelease s (some p)).2)^[n] s = s := by
  have hid : (fun s => (myRelease s (some p)).2) = id := funext fun s => by rw [myRelease_some]; rfl
  rw [hid, Function.iterate_id]
  rfl

/-- What `my_write` does with the registration: it keeps it, and signals it at most. -/
lemma myWrite_spec (s : State) (user : List UInt8) (fault : Option (ℕ × ℕ)) :
    (myWrite s user fault).state.task = s.task ∧
      ∀ sig ∈ (myWrite s user fault).signals, s.task = some sig.target := by
  unfold myWrite
  rcases writeMessage s.deviceBuffer user fault with ⟨ret, buf⟩
  dsimp only
  split_ifs with hret
  · exact ⟨rfl, by simp⟩
  · cases ht : s.task with
    | none => exact ⟨rfl, by simp⟩
    | some t => exact ⟨rfl, by simp⟩

/-- A message that is copied is announced to the process in `task`. -/
lemma signals_myWrite {t : Task} (ht : s.task = some t) (user : List UInt8) :
    (myWrite s user none).signals = [⟨SIGNO, SI_QUEUE, 1, t⟩] := by
  have hret : ¬ (writeMessage s.deviceBuffer user none).1 < 0 := by
    simp only [writeMessage, copyFromUser]
    exact not_lt.2 (Int.natCast_nonneg _)
  unfold myWrite
  dsimp only
  rw [if_neg hret, ht]

/-- **The registration follows the history** as long as the registered process stays. -/
lemma aimed_step (hI : ∀ t, w.drv.task = some t → Aimed t w.history) (hc : Stays w ev)
    (h : system.next w ev = some w') : ∀ t, w'.drv.task = some t → Aimed t w'.history := by
  obtain ⟨v, hv, rfl⟩ := Option.map_eq_some_iff.1 h
  intro t ht
  cases ev with
  | «open» p =>
    obtain ⟨-, rfl⟩ : _ ∧ _ = v := by simpa [World.step] using hv
    exact hI t ht
  | ioctl p cmd arg =>
    obtain ⟨-, rfl⟩ : _ ∧ _ = v := by simpa [World.step] using hv
    show if cmd = IO_WRITE then p = t else Aimed t w.history
    by_cases hcmd : cmd = IO_WRITE
    · rw [if_pos hcmd]
      simpa [myIoctl, hcmd] using ht
    · rw [if_neg hcmd]
      exact hI t (by simpa [myIoctl, hcmd] using ht)
  | write p user fault =>
    obtain ⟨-, rfl⟩ : _ ∧ _ = v := by simpa [World.step] using hv
    have hsame : w.drv.task = some t := (myWrite_spec w.drv user fault).1 ▸ ht
    exact hI t hsame
  | close p =>
    obtain ⟨-, rfl⟩ : _ ∧ _ = v := by simpa [World.step] using hv
    have hsame : w.drv.task = some t := by simpa [myRelease_some] using ht
    exact ⟨fun hp => hc (hp ▸ hsame), hI t hsame⟩
  | exit p =>
    obtain ⟨-, rfl⟩ : _ ∧ _ = v := by simpa [World.step] using hv
    have hsame : w.drv.task = some t := by simpa [iterate_myRelease] using ht
    exact ⟨fun hp => hc (hp ▸ hsame), hI t hsame⟩

/-- **Every signal is aimed.** In every run in which the process that is registered neither
closes a device file nor exits, `my_write` signals only a process that has registered, is the
latest to have done so, and is still there. -/
theorem aimed_of_stays (hw : system.Reach Stays w) {user : List UInt8}
    {fault : Option (ℕ × ℕ)} {sig : Signal} (hsig : sig ∈ (myWrite w.drv user fault).signals) :
    Aimed sig.target w.history := by
  have hinv : ∀ t, w.drv.task = some t → Aimed t w.history := by
    refine hw.invariant (I := fun w => ∀ t, w.drv.task = some t → Aimed t w.history) ?_
      fun w l w' hI hc h => aimed_step hI hc h
    rintro _ rfl t ht
    cases ht
  exact hinv _ ((myWrite_spec w.drv user fault).2 sig hsig)

/-- When the registered process leaves, the next message is still announced to it. -/
theorem signalled_of_leaves (hc : ¬ Stays w ev) (h : system.next w ev = some w')
    (user : List UInt8) :
    ∃ sig ∈ (myWrite w'.drv user none).signals, ¬ Aimed sig.target w'.history := by
  obtain ⟨v, hv, rfl⟩ := Option.map_eq_some_iff.1 h
  cases ev with
  | close p =>
    obtain ⟨-, rfl⟩ : _ ∧ _ = v := by simpa [World.step] using hv
    have hp : (myRelease w.drv (some p)).2.task = some p := by
      rw [myRelease_some]
      exact not_not.1 hc
    exact ⟨_, by rw [signals_myWrite hp]; exact List.mem_singleton_self _, fun h => h.1 rfl⟩
  | exit p =>
    obtain ⟨-, rfl⟩ : _ ∧ _ = v := by simpa [World.step] using hv
    have hp : ((fun s => (myRelease s (some p)).2)^[w.files p] w.drv).task = some p := by
      rw [iterate_myRelease]
      exact not_not.1 hc
    exact ⟨_, by rw [signals_myWrite hp]; exact List.mem_singleton_self _, fun h => h.1 rfl⟩
  | «open» p | ioctl p cmd arg | write p user fault => exact absurd trivial hc

end Runs

/-! ## Runs -/

lemma reach_loaded (C : World → Event → Prop) : system.Reach C .loaded := .init rfl

/-- Process 1 registers, and process 2 opens the device. -/
def registered : List Event := [.open 1, .ioctl 1 IO_WRITE 0, .open 2]

theorem aimed_of_stays_registered : ∃ (w : World) (sig : Signal),
    sig ∈ (myWrite w.drv [72, 105] none).signals ∧ sig.target = 1 ∧ Aimed 1 w.history := by
  have hw := System.reach_get (registered ++ [.ioctl 2 0 0, .close 2, .open 2])
    (reach_loaded Stays) (by decide +kernel) (by decide +kernel)
  refine ⟨_, ⟨SIGNO, SI_QUEUE, 1, 1⟩, ?_, rfl, aimed_of_stays hw
    (show (⟨SIGNO, SI_QUEUE, 1, 1⟩ : Signal) ∈ (myWrite _ [72, 105] none).signals by
      decide +kernel)⟩
  decide +kernel

/-- **A process that has gone is signalled**: the registered process closes its device file,
or exits, and a message of another process is announced to it. -/
theorem signalled_after_release :
    (∃ (w w' : World) (sig : Signal), system.Reachable w ∧
      system.next w (.write 2 [72, 105] none) = some w' ∧
      sig ∈ (myWrite w.drv [72, 105] none).signals ∧ w.history.head? = some (.close sig.target) ∧
      ¬ Aimed sig.target w.history) ∧
    ∃ (w w' : World) (sig : Signal), system.Reachable w ∧
      system.next w (.write 2 [72, 105] none) = some w' ∧
      sig ∈ (myWrite w.drv [72, 105] none).signals ∧ sig.target ∈ w.exited ∧
      ¬ Aimed sig.target w.history := by
  constructor
  · have hw := System.reach_get (registered ++ [.close 1]) (reach_loaded fun _ _ => True)
      (by decide +kernel) (by decide +kernel)
    exact ⟨_, (system.next _ _).get (by decide +kernel), ⟨SIGNO, SI_QUEUE, 1, 1⟩, hw,
      (Option.some_get _).symm, by decide +kernel, by decide +kernel, by decide +kernel⟩
  · have hw := System.reach_get (registered ++ [.exit 1]) (reach_loaded fun _ _ => True)
      (by decide +kernel) (by decide +kernel)
    exact ⟨_, (system.next _ _).get (by decide +kernel), ⟨SIGNO, SI_QUEUE, 1, 1⟩, hw,
      (Option.some_get _).symm, by decide +kernel, by decide +kernel, by decide +kernel⟩

end KernelDriverLab.SignalTarget
