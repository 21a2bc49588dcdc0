import KernelDriverLab.Lib.Machine
import KernelDriverLab.Lib.Progress
import KernelDriverLab.Modules.Loading
import Mathlib.Algebra.Group.Nat.Defs
import Mathlib.Data.Nat.Init

/-!
# The high resolution timer

`timer_callback` of `hrtimer_module.c` asks to be started again, with the expiry moved on by
`hrtimer_forward_now`, and `hello_exit` begins with `hrtimer_cancel`, which waits for a callback
that is running.  Time is a number of nanoseconds that grows between any two steps.  The
callback ends in `__run_hrtimer` of the kernel, which queues the timer again.

Every expiry lies a whole number of periods after the start (`Due`), each callback uses up one
of them at least, and after `hrtimer_cancel` there is nothing that could queue the timer.
-/

namespace KernelDriverLab.Hrtimer

open Lib Prog

/-- `TIMEOUT_SEC`, in seconds. -/
def TIMEOUT_SEC : ℕ := 4
/-- `TIMEOUT_NSEC`, in nanoseconds. -/
def TIMEOUT_NSEC : ℕ := 1000000000

/-- The nanoseconds of a second. -/
def NSEC_PER_SEC : ℕ := 1000000000

/-- `ktime_set` -/
def ktimeSet (secs nsecs : ℕ) : ℕ := secs * NSEC_PER_SEC + nsecs

/-- `ktime_set(TIMEOUT_SEC, TIMEOUT_NSEC)` -/
def period : ℕ := ktimeSet TIMEOUT_SEC TIMEOUT_NSEC

/-- `ktime_add_us` -/
def ktimeAddUs (t us : ℕ) : ℕ := t + us * 1000

/-- The expiry after `hrtimer_forward(timer, now, interval)`. -/
def hrtimerForward (expires now interval : ℕ) : ℕ :=
  if now < expires then expires
  else if now - expires ≥ interval then
    let orun := (now - expires) / interval
    if expires + interval * orun > now then expires + interval * orun
    else expires + interval * orun + interval
  else expires + interval

/-- The expiry goes on by whole intervals, past the present. -/
lemma hrtimerForward_spec {expires now interval : ℕ} (hpos : 0 < interval)
    (hle : expires ≤ now) : ∃ m, 0 < m ∧
      hrtimerForward expires now interval = expires + m * interval ∧
      now < hrtimerForward expires now interval := by
  have hdiv := Nat.div_add_mod (now - expires) interval
  have hmod := Nat.mod_lt (now - expires) hpos
  rw [hrtimerForward, if_neg (by omega)]
  dsimp only
  split_ifs with hlate hpast
  · -- a whole number of intervals never leads past the present
    omega
  · refine ⟨(now - expires) / interval + 1, Nat.succ_pos _, ?_, ?_⟩
    · rw [Nat.add_mul, Nat.one_mul, Nat.mul_comm _ interval]
      omega
    · omega
  · exact ⟨1, Nat.one_pos, by omega, by omega⟩

/-- The operations on the clock and on the timer. -/
inductive Op where
  /-- `ktime_get` -/
  | ktimeGet
  | setTarget (t : ℕ)
  | hrtimerInit
  /-- `hrtimer_start(&my_timer, ktime, HRTIMER_MODE_REL)` -/
  | hrtimerStart (ktime : ℕ)
  /-- `pr_info` with `timer_count++` -/
  | printCount
  | target
  /-- `pr_info` with `delta_ns` -/
  | printDelta (d : Int)
  /-- `hrtimer_forward_now` -/
  | forwardNow (interval : ℕ)
  /-- The end of `__run_hrtimer`, after a callback that returned `HRTIMER_RESTART` or not. -/
  | finish (restart : Bool)
  /-- `hrtimer_cancel` -/
  | hrtimerCancel
  | release (r : Registration)
deriving DecidableEq, Repr

/-- What an operation answers. -/
@[reducible] def Op.Ans : Op → Type
  | ktimeGet | target => ℕ
  | _ => Unit

/-- A function of the module. -/
abbrev Driver : Type := Prog Op Op.Ans Unit

/-- The clock, the timer and what has been printed. -/
structure State where
  now : ℕ
  target : ℕ
  /-- When `hrtimer_start` was called. -/
  started : Option ℕ
  expires : ℕ
  queued : Bool
  /-- The callback is running. -/
  running : Bool
  timerCount : BitVec 32
  /-- What has been printed, the latest first. -/
  counts : List (BitVec 32)
  deltas : List Int
deriving DecidableEq, Repr

/-- What each operation does. -/
def sem : Prog.Sem Op Op.Ans State
  | .ktimeGet, s => .done s.now s
  | .setTarget t, s => .done () { s with target := t }
  | .hrtimerInit, s => .done () { s with queued := false }
  | .hrtimerStart ktime, s =>
      .done () { s with started := some s.now, expires := s.now + ktime, queued := true }
  | .printCount, s =>
      .done () { s with timerCount := s.timerCount + 1, counts := s.timerCount :: s.counts }
  | .target, s => .done s.target s
  | .printDelta d, s => .done () { s with deltas := d :: s.deltas }
  | .forwardNow interval, s =>
      .done () { s with expires := hrtimerForward s.expires s.now interval }
  | .finish restart, s => .done () { s with queued := s.queued || restart, running := false }
  | .hrtimerCancel, s => .done () { s with queued := false }
  | .release _, s => .done () s

/-! ## The functions -/

/-- `timer_callback`, as `__run_hrtimer` calls it. -/
def timerCallback : Driver := do
  let firedTime ← op Op.ktimeGet
  op Op.printCount
  let target ← op Op.target
  op (Op.printDelta ((firedTime : Int) - target))
  op (Op.forwardNow period)
  op (Op.finish true)

/-- The end of `hello_init`, after everything has been registered. -/
def helloInit : Driver := do
  let now ← op Op.ktimeGet
  op (Op.setTarget (ktimeAddUs now 500))
  op Op.hrtimerInit
  op (Op.hrtimerStart period)

/-- `hello_exit` -/
def helloExit : Driver := do
  op Op.hrtimerCancel
  op (Op.release .device)
  op (Op.release .cls)
  op (Op.release .cdev)
  op (Op.release .chrdevRegion)

/-! ## The machine -/

/-- What a thread runs. -/
inductive Role where
  /-- `hello_init` and, at any time after it, `hello_exit`. -/
  | module
  | callback
deriving DecidableEq, Repr

/-- The timer and the functions that run. -/
abbrev World : Type := Pool Op Op.Ans Role Unit State

/-- What happens by itself. -/
inductive Event where
  /-- Time goes by. -/
  | tick (ns : ℕ)
  /-- The timer has expired: it is taken off the queue, and the callback begins. -/
  | expire
deriving DecidableEq, Repr

/-- The life of the module, with the callbacks of its timer. -/
def machine : Machine Op Op.Ans Role Unit State Unit Event where
  sem _ _ := sem
  ready s _
    | .hrtimerCancel => !s.running
    | _ => true
  again _ _ := none
  event
    | .tick ns, s => some ({ s with now := s.now + ns }, [])
    | .expire, s =>
        if s.queued ∧ s.expires ≤ s.now then
          some ({ s with queued := false, running := true }, [⟨.callback, timerCallback⟩])
        else none

/-- The module before `hello_init` starts the timer, at any time. -/
def Fresh (w : World) : Prop :=
  ∃ now, w = ⟨⟨now, 0, none, 0, false, false, 0, [], []⟩,
    [⟨.module, do helloInit; helloExit⟩]⟩

/-- The lives of the module. -/
def system : System World (Move Unit Event) := machine.system Fresh

/-! ## What the threads do, in order -/

/-- How far a function is. -/
inductive Stage where
  | loading
  | timed (now : ℕ)
  | aimed
  | started
  | cancelled
  | begun
  | fired (t : ℕ)
  | counted (t : ℕ)
  | measured (t target : ℕ)
  | printed
  | forwarded
  | ended
deriving DecidableEq, Repr

/-- The stages of an operation. -/
@[simp] def Stage.allow (st : Stage) : Op → Prop
  | .ktimeGet => st = .loading ∨ st = .begun
  | .setTarget t => ∃ now, st = .timed now ∧ t = ktimeAddUs now 500
  | .hrtimerInit => st = .aimed
  | .hrtimerStart ktime => st = .aimed ∧ ktime = period
  | .printCount => ∃ t, st = .fired t
  | .target => ∃ t, st = .counted t
  | .printDelta d => ∃ t target : ℕ, st = .measured t target ∧ d = (t : Int) - target
  | .forwardNow interval => st = .printed ∧ interval = period
  | .finish restart => st = .forwarded ∧ restart = true
  | .hrtimerCancel => st = .started
  | .release _ => st = .cancelled

/-- The stage behind an operation. -/
@[simp] def Stage.after (st : Stage) : (o : Op) → o.Ans → Stage
  | .ktimeGet, t => if st = .loading then .timed t else .fired t
  | .setTarget _, _ => .aimed
  | .hrtimerInit, _ => .aimed
  | .hrtimerStart _, _ => .started
  | .printCount, _ => match st with
    | .fired t => .counted t
    | _ => st
  | .target, target => match st with
    | .counted t => .measured t target
    | _ => st
  | .printDelta _, _ => .printed
  | .forwardNow _, _ => .forwarded
  | .finish _, _ => .ended
  | .hrtimerCancel, _ => .cancelled
  | .release _, _ => .cancelled

/-- The stages of the functions. -/
@[simps]
def proto : Protocol Op Op.Ans Stage where
  allow := Stage.allow
  expect _ _ _ := True
  after := Stage.after

/-- The stages in which the functions end. -/
@[simp] def Role.last : Role → Stage
  | module => .cancelled
  | callback => .ended

lemma follows_timerCallback :
    timerCallback.Follows proto .begun fun st _ => st = .ended := by
  simp [timerCallback, op]

lemma follows_module :
    (do helloInit; helloExit : Driver).Follows proto .loading fun st _ => st = .cancelled := by
  simp [helloInit, helloExit, op]

/-! ## The grid -/

/-- When the callback that printed `d` read the clock. -/
def State.firedAt (s : State) (d : Int) : Int := s.target + d

/-- The timer expires on the grid of the periods after the start, at a point that no callback
has come up to. -/
def Ahead (t₀ : ℕ) (s : State) : Prop :=
  ∃ k, s.deltas.length < k ∧ s.expires = t₀ + k * period ∧ ∀ d ∈ s.deltas, s.firedAt d < s.expires

/-- It has expired by the time `t`. -/
def Due (t₀ : ℕ) (s : State) (t : ℕ) : Prop := Ahead t₀ s ∧ s.expires ≤ t ∧ t ≤ s.now

/-- What holds since the timer was started at `t₀`. -/
structure Schedule (t₀ : ℕ) (s : State) : Prop where
  target : s.target ≤ t₀ + 500000
  late : ∀ n d, s.deltas.reverse[n]? = some d → ((t₀ + (n + 1) * period : ℕ) : Int) ≤ s.firedAt d
  apart : s.deltas.Pairwise fun d d' => ∃ k : ℕ,
    s.firedAt d' < (t₀ + k * period : ℕ) ∧ ((t₀ + k * period : ℕ) : Int) ≤ s.firedAt d
  past : ∀ d ∈ s.deltas, s.firedAt d ≤ s.now
  count : s.timerCount = BitVec.ofNat 32 s.counts.length
  counts : ∀ n c, s.counts.reverse[n]? = some c → c = BitVec.ofNat 32 n
  queued : s.queued = true →
    s.running = false ∧ s.counts.length = s.deltas.length ∧ Ahead t₀ s

/-- Nothing has been started yet. -/
structure Unstarted (s : State) : Prop where
  started : s.started = none
  queued : s.queued = false
  running : s.running = false
  timerCount : s.timerCount = 0
  counts : s.counts = []
  deltas : s.deltas = []

/-- The assertion of a stage of the callback. -/
@[simp] def Here (t₀ : ℕ) (s : State) : Stage → Prop
  | .begun => s.counts.length = s.deltas.length ∧ Due t₀ s s.now
  | .fired t => s.counts.length = s.deltas.length ∧ Due t₀ s t
  | .counted t => s.counts.length = s.deltas.length + 1 ∧ Due t₀ s t
  | .measured t target => s.counts.length = s.deltas.length + 1 ∧ Due t₀ s t ∧ target = s.target
  | .printed => s.counts.length = s.deltas.length ∧
      ∃ k, s.deltas.length ≤ k ∧ s.expires = t₀ + k * period ∧ s.expires ≤ s.now
  | .forwarded => s.counts.length = s.deltas.length ∧ Ahead t₀ s
  | _ => False

/-- The module has one thread, at position 0, and at most one callback that has not ended, at
the position that the ghost variable tells. -/
@[simps]
def outline : Outline Op Op.Ans Role Unit State Stage (Option ℕ) where
  proto _ := proto
  ends r st _ := st = r.last
  here g j _ st s := match st with
    | .loading => j = 0 ∧ Unstarted s
    | .timed now => j = 0 ∧ Unstarted s ∧ now ≤ s.now
    | .aimed => j = 0 ∧ Unstarted s ∧ s.target ≤ s.now + 500000
    | .started => j = 0 ∧ s.started ≠ none
    | .cancelled => j = 0 ∧ s.started ≠ none ∧ s.queued = false ∧ s.running = false
    | .ended => True
    | st => g = some j ∧ ∃ t₀, s.started = some t₀ ∧ Here t₀ s st
  always g s := (s.running = true ↔ g ≠ none) ∧
    (s.started = none → Unstarted s) ∧ ∀ t₀, s.started = some t₀ → Schedule t₀ s

/-! ## Steps -/

section Steps

variable {g g' : Option ℕ} {i j t₀ : ℕ} {r : Role} {st : Stage} {s s' : State} {w : World}

/-- While nothing has been started no callback is running. -/
lemma none_of_unstarted (halways : outline.always g s) (h : Unstarted s) : g = none := by
  by_contra hg
  have hrunning := halways.1.2 hg
  rw [h.running] at hrunning
  cases hrunning

/-- Beside a callback that is running there are the module, which has started the timer and not
cancelled it, and callbacks that have ended. -/
lemma others_of_running (halways : outline.always (some i) s) (hne : j ≠ i)
    (h : outline.here (some i) j r st s) (hstarted : s'.started = s.started) :
    outline.here g' j r st s' := by
  have hrunning : s.running = true := halways.1.2 (by simp)
  have hnot : ¬ some i = some j := fun heq => hne (Option.some.inj heq).symm
  cases st with
  | loading =>
    rw [h.2.running] at hrunning
    cases hrunning
  | timed now =>
    rw [h.2.1.running] at hrunning
    cases hrunning
  | aimed =>
    rw [h.2.1.running] at hrunning
    cases hrunning
  | started =>
    refine ⟨h.1, ?_⟩
    rw [hstarted]
    exact h.2
  | cancelled =>
    rw [h.2.2.2] at hrunning
    cases hrunning
  | ended => trivial
  | _ => exact absurd h.1 hnot

/-- Beside the module, while no callback is running, there are only callbacks that have ended. -/
lemma ended_of_none (hne : j ≠ 0) (h : outline.here none j r st s) : st = .ended := by
  cases st with
  | ended => rfl
  | loading | timed | aimed | started | cancelled => exact absurd h.1 hne
  | _ => cases h.1

/-- An operation of the callback. -/
lemma lands_callback (halways : outline.always (some i) w.shared)
    (ht : w.shared.started = some t₀) (hstarted : s'.started = w.shared.started)
    (hrunning : s'.running = true ↔ g' ≠ none) (hschedule : Schedule t₀ s')
    (hown : outline.here g' i r st s') : outline.Lands (some i) g' w i r st s' := by
  refine ⟨⟨hrunning, fun h => ?_, fun t h => ?_⟩, hown, fun j th st' hne _ hat => ?_⟩
  · rw [hstarted, ht] at h
    cases h
  · rw [hstarted, ht] at h
    obtain rfl := Option.some.inj h
    exact hschedule
  · exact others_of_running halways hne hat.here hstarted

/-- An operation of the module while no callback is running. -/
lemma lands_module (halways : outline.always none s') (hown : outline.here none 0 r st s') :
    outline.Lands none none w 0 r st s' := by
  refine ⟨halways, hown, fun j th st' hne _ hat => ?_⟩
  rw [ended_of_none hne hat.here]
  trivial

/-- An operation that changes nothing. -/
lemma lands_same (halways : outline.always g w.shared) (hown : outline.here g i r st w.shared) :
    outline.Lands g g w i r st w.shared :=
  ⟨halways, hown, fun _ _ _ _ _ hat => hat.here⟩

lemma Unstarted.always (h : Unstarted s) : outline.always none s := by
  refine ⟨?_, fun _ => h, fun t ht => ?_⟩
  · simp [h.running]
  · rw [h.started] at ht
    cases ht

/-- In the order in which they were printed the latest line is the last. -/
lemma getElem?_reverse_cons {α : Type} {a x : α} {l : List α} {n : ℕ}
    (h : (a :: l).reverse[n]? = some x) : l.reverse[n]? = some x ∨ n = l.length ∧ x = a := by
  rw [List.reverse_cons] at h
  rcases Nat.lt_trichotomy n l.reverse.length with hlt | rfl | hgt
  · rw [List.getElem?_append_left hlt] at h
    exact .inl h
  · rw [List.getElem?_concat_length] at h
    exact .inr ⟨List.length_reverse, (Option.some.inj h).symm⟩
  · have hlen : (l.reverse ++ [a]).length ≤ n := by
      rw [List.length_append, List.length_singleton]
      omega
    rw [List.getElem?_eq_none hlen] at h
    cases h

/-- Printing the count. -/
lemma Schedule.printCount (h : Schedule t₀ s) (hrunning : s.running = true) :
    Schedule t₀ { s with timerCount := s.timerCount + 1, counts := s.timerCount :: s.counts } where
  target := h.target
  late := h.late
  apart := h.apart
  past := h.past
  count := by
    show s.timerCount + 1 = _
    rw [h.count, List.length_cons, BitVec.ofNat_add]
    rfl
  counts n c hc := by
    rcases getElem?_reverse_cons hc with hc | ⟨rfl, rfl⟩
    · exact h.counts n c hc
    · exact h.count
  queued hq := by
    obtain ⟨hidle, -⟩ := h.queued hq
    rw [hrunning] at hidle
    cases hidle

/-- Printing the delay of a callback that read the clock at `t`. -/
lemma Schedule.printDelta (h : Schedule t₀ s) (hrunning : s.running = true) {t : ℕ}
    (hdue : Due t₀ s t) : Schedule t₀ { s with deltas := ((t : Int) - s.target) :: s.deltas } := by
  obtain ⟨⟨k, hk, hexpires, hahead⟩, hle, hnow⟩ := hdue
  have hfired : s.firedAt ((t : Int) - s.target) = t := by
    rw [State.firedAt]
    omega
  have hfirst : t₀ + (s.deltas.length + 1) * period ≤ t := by
    have hmul : (s.deltas.length + 1) * period ≤ k * period := Nat.mul_le_mul_right _ hk
    omega
  refine ⟨h.target, fun n d hd => ?_, ?_, fun d hd => ?_, h.count, h.counts, fun hq => ?_⟩
  · show _ ≤ s.firedAt d
    rcases getElem?_reverse_cons hd with hd | ⟨rfl, rfl⟩
    · exact h.late n d hd
    · rw [hfired]
      exact_mod_cast hfirst
  · refine List.pairwise_cons.2 ⟨fun d' hd' => ⟨k, ?_, ?_⟩, h.apart⟩
    · show s.firedAt d' < _
      rw [← hexpires]
      exact hahead d' hd'
    · show _ ≤ s.firedAt _
      rw [hfired, ← hexpires]
      exact_mod_cast hle
  · show s.firedAt d ≤ _
    rcases List.mem_cons.1 hd with rfl | hd
    · rw [hfired]
      exact_mod_cast hnow
    · exact h.past d hd
  · obtain ⟨hidle, -⟩ := h.queued hq
    rw [hrunning] at hidle
    cases hidle

/-- Moving the expiry on. -/
lemma ahead_forward (h : Schedule t₀ s) {k : ℕ} (hk : s.deltas.length ≤ k)
    (hexpires : s.expires = t₀ + k * period) (hle : s.expires ≤ s.now) :
    Ahead t₀ { s with expires := hrtimerForward s.expires s.now period } := by
  have hperiod : 0 < period := by decide
  obtain ⟨m, hm, hforward, hnow⟩ := hrtimerForward_spec hperiod hle
  refine ⟨k + m, ?_, ?_, fun d hd => ?_⟩
  · show s.deltas.length < k + m
    omega
  · show hrtimerForward s.expires s.now period = _
    rw [hforward, hexpires, Nat.add_mul]
    omega
  · have hpast := h.past d hd
    show s.firedAt d < (hrtimerForward s.expires s.now period : ℕ)
    omega

/-- The time goes by. -/
lemma Schedule.tick (h : Schedule t₀ s) (ns : ℕ) : Schedule t₀ { s with now := s.now + ns } where
  target := h.target
  late := h.late
  apart := h.apart
  past d hd := by
    have hpast := h.past d hd
    show s.firedAt d ≤ (s.now + ns : ℕ)
    omega
  count := h.count
  counts := h.counts
  queued := h.queued

lemma Due.tick {t : ℕ} (h : Due t₀ s t) (ns : ℕ) : Due t₀ { s with now := s.now + ns } t :=
  ⟨h.1, h.2.1, Nat.le_trans h.2.2 (Nat.le_add_right _ _)⟩

lemma here_tick (h : outline.here g j r st s) (ns : ℕ) :
    outline.here g j r st { s with now := s.now + ns } := by
  have hquiet (h : Unstarted s) : Unstarted { s with now := s.now + ns } :=
    ⟨h.started, h.queued, h.running, h.timerCount, h.counts, h.deltas⟩
  cases st with
  | loading => exact ⟨h.1, hquiet h.2⟩
  | timed now => exact ⟨h.1, hquiet h.2.1, Nat.le_trans h.2.2 (Nat.le_add_right _ _)⟩
  | aimed =>
    have hle : s.target ≤ s.now + 500000 := h.2.2
    refine ⟨h.1, hquiet h.2.1, ?_⟩
    show s.target ≤ s.now + ns + 500000
    omega
  | started => exact h
  | cancelled => exact h
  | begun =>
    obtain ⟨hg, t, ht, hlen, hahead, hle, -⟩ := h
    exact ⟨hg, t, ht, hlen, hahead, Nat.le_trans hle (Nat.le_add_right _ _), Nat.le_refl _⟩
  | fired =>
    obtain ⟨hg, t, ht, hlen, hdue⟩ := h
    exact ⟨hg, t, ht, hlen, hdue.tick ns⟩
  | counted =>
    obtain ⟨hg, t, ht, hlen, hdue⟩ := h
    exact ⟨hg, t, ht, hlen, hdue.tick ns⟩
  | measured =>
    obtain ⟨hg, t, ht, hlen, hdue, htarget⟩ := h
    exact ⟨hg, t, ht, hlen, hdue.tick ns, htarget⟩
  | printed =>
    obtain ⟨hg, t, ht, hlen, k, hk, hexpires, hle⟩ := h
    exact ⟨hg, t, ht, hlen, k, hk, hexpires, Nat.le_trans hle (Nat.le_add_right _ _)⟩
  | forwarded => exact h
  | ended => trivial

/-- What each operation does to the outline. -/
lemma lands_act (hw : outline.Holds g w) {o : Op} {x : o.Ans}
    (hhere : outline.here g i r st w.shared) (hallow : st.allow o)
    (hready : machine.ready w.shared r o = true) (hsem : sem o w.shared = .done x s') :
    ∃ g', outline.Lands g g' w i r (st.after o x) s' := by
  have halways := hw.always
  cases o with
  | ktimeGet =>
    obtain ⟨rfl, rfl⟩ := Outcome.done.inj hsem
    rcases hallow with rfl | rfl
    · obtain ⟨rfl, hquiet⟩ := hhere
      exact ⟨g, lands_same halways ⟨rfl, hquiet, Nat.le_refl _⟩⟩
    · obtain ⟨rfl, t, ht, hlen, hdue⟩ := hhere
      exact ⟨_, lands_same halways ⟨rfl, t, ht, hlen, hdue⟩⟩
  | setTarget target =>
    obtain ⟨-, rfl⟩ := Outcome.done.inj hsem
    obtain ⟨now, rfl, rfl⟩ := hallow
    obtain ⟨rfl, hquiet, hnow⟩ := hhere
    obtain rfl := none_of_unstarted halways hquiet
    have hquiet' : Unstarted { w.shared with target := ktimeAddUs now 500 } :=
      ⟨hquiet.started, hquiet.queued, hquiet.running, hquiet.timerCount, hquiet.counts,
        hquiet.deltas⟩
    refine ⟨none, lands_module hquiet'.always ⟨rfl, hquiet', ?_⟩⟩
    show ktimeAddUs now 500 ≤ w.shared.now + 500000
    rw [ktimeAddUs]
    omega
  | hrtimerInit =>
    obtain ⟨-, rfl⟩ := Outcome.done.inj hsem
    obtain rfl : st = .aimed := hallow
    obtain ⟨rfl, hquiet, htarget⟩ := hhere
    obtain rfl := none_of_unstarted halways hquiet
    have hquiet' : Unstarted { w.shared with queued := false } :=
      ⟨hquiet.started, rfl, hquiet.running, hquiet.timerCount, hquiet.counts, hquiet.deltas⟩
    exact ⟨none, lands_module hquiet'.always ⟨rfl, hquiet', htarget⟩⟩
  | hrtimerStart ktime =>
    obtain ⟨-, rfl⟩ := Outcome.done.inj hsem
    obtain ⟨rfl, rfl⟩ : st = .aimed ∧ ktime = period := hallow
    obtain ⟨rfl, hquiet, htarget⟩ := hhere
    obtain rfl := none_of_unstarted halways hquiet
    have hdeltas := hquiet.deltas
    have hcounts := hquiet.counts
    refine ⟨none, lands_module ⟨by simp [hquiet.running], fun h => (by cases h), fun t ht => ?_⟩
      ⟨rfl, by simp⟩⟩
    obtain rfl := Option.some.inj ht
    refine ⟨htarget, ?_, ?_, ?_, ?_, ?_, fun _ => ⟨hquiet.running, ?_, 1, ?_, ?_, ?_⟩⟩
    · simp [hdeltas]
    · simp [hdeltas]
    · simp [hdeltas]
    · simp [hcounts, hquiet.timerCount]
    · simp [hcounts]
    · simp [hdeltas, hcounts]
    · simp [hdeltas]
    · simp
    · simp [hdeltas]
  | printCount =>
    obtain ⟨-, rfl⟩ := Outcome.done.inj hsem
    obtain ⟨t, rfl⟩ := hallow
    obtain ⟨rfl, t₀, ht, hlen, hdue⟩ := hhere
    have hrunning := halways.1.2 (by simp)
    refine ⟨_, lands_callback halways ht rfl halways.1
      ((halways.2.2 t₀ ht).printCount hrunning) ⟨rfl, t₀, ht, ?_, hdue⟩⟩
    rw [List.length_cons, hlen]
  | target =>
    obtain ⟨rfl, rfl⟩ := Outcome.done.inj hsem
    obtain ⟨t, rfl⟩ := hallow
    obtain ⟨rfl, t₀, ht, hlen, hdue⟩ := hhere
    exact ⟨_, lands_same halways ⟨rfl, t₀, ht, hlen, hdue, rfl⟩⟩
  | printDelta d =>
    obtain ⟨-, rfl⟩ := Outcome.done.inj hsem
    obtain ⟨t, target, rfl, rfl⟩ := hallow
    obtain ⟨rfl, t₀, ht, hlen, hdue, rfl⟩ := hhere
    have hrunning := halways.1.2 (by simp)
    have hschedule := (halways.2.2 t₀ ht).printDelta hrunning hdue
    obtain ⟨⟨k, hk, hexpires, -⟩, hle, hnow⟩ := hdue
    exact ⟨_, lands_callback halways ht rfl halways.1 hschedule
      ⟨rfl, t₀, ht, hlen, k, hk, hexpires, Nat.le_trans hle hnow⟩⟩
  | forwardNow interval =>
    obtain ⟨-, rfl⟩ := Outcome.done.inj hsem
    obtain ⟨rfl, rfl⟩ : st = .printed ∧ interval = period := hallow
    obtain ⟨rfl, t₀, ht, hlen, k, hk, hexpires, hle⟩ := hhere
    have hrunning := halways.1.2 (by simp)
    have hschedule := halways.2.2 t₀ ht
    have hahead := ahead_forward hschedule hk hexpires hle
    refine ⟨_, lands_callback halways ht rfl halways.1
      ⟨hschedule.target, hschedule.late, hschedule.apart, hschedule.past, hschedule.count,
        hschedule.counts, fun hq => ?_⟩ ⟨rfl, t₀, ht, hlen, hahead⟩⟩
    exact absurd (hschedule.queued hq).1 (by simp [hrunning])
  | finish restart =>
    obtain ⟨-, rfl⟩ := Outcome.done.inj hsem
    obtain ⟨rfl, rfl⟩ : st = .forwarded ∧ restart = true := hallow
    obtain ⟨rfl, t₀, ht, hlen, hahead⟩ := hhere
    have hschedule := halways.2.2 t₀ ht
    exact ⟨none, lands_callback halways ht rfl (by simp)
      ⟨hschedule.target, hschedule.late, hschedule.apart, hschedule.past, hschedule.count,
        hschedule.counts, fun _ => ⟨rfl, hlen, hahead⟩⟩ trivial⟩
  | hrtimerCancel =>
    obtain ⟨-, rfl⟩ := Outcome.done.inj hsem
    obtain rfl : st = .started := hallow
    obtain ⟨rfl, hstarted⟩ := hhere
    -- it has waited for the callback
    have hidle : w.shared.running = false := by simpa [machine] using hready
    obtain rfl : g = none := by
      by_contra hg
      rw [halways.1.2 hg] at hidle
      cases hidle
    refine ⟨none, lands_module ⟨halways.1, fun h => absurd h hstarted, fun t ht => ?_⟩
      ⟨rfl, hstarted, rfl, hidle⟩⟩
    have hschedule := halways.2.2 t ht
    exact ⟨hschedule.target, hschedule.late, hschedule.apart, hschedule.past, hschedule.count,
      hschedule.counts, fun h => (by cases h)⟩
  | release reg =>
    obtain ⟨-, rfl⟩ := Outcome.done.inj hsem
    obtain rfl : st = .cancelled := hallow
    exact ⟨g, lands_same halways hhere⟩

/-- The timer expires. -/
lemma admits_expire (hw : outline.Holds g w) (hq : w.shared.queued = true)
    (hle : w.shared.expires ≤ w.shared.now) :
    outline.Admits g (some w.threads.length) w { w.shared with queued := false, running := true }
      [⟨.callback, timerCallback⟩] := by
  obtain ⟨hrunning, hquiet, hschedule⟩ := hw.always
  obtain ⟨t₀, ht⟩ : ∃ t₀, w.shared.started = some t₀ := by
    refine Option.ne_none_iff_exists'.1 fun hnone => ?_
    rw [(hquiet hnone).queued] at hq
    cases hq
  obtain ⟨hidle, hlen, hahead⟩ := (hschedule t₀ ht).queued hq
  obtain rfl : g = none := by
    by_contra hg
    rw [hrunning.2 hg] at hidle
    cases hidle
  have hschedule' := hschedule t₀ ht
  refine Outline.admits_single .begun ⟨by simp, fun h => ?_, fun t h => ?_⟩
    (fun j th st hj hat => ?_)
    ⟨follows_timerCallback, rfl, t₀, ht, hlen, hahead, hle, Nat.le_refl _⟩
  · exact absurd (ht.symm.trans h) (by simp)
  · obtain rfl := Option.some.inj (ht.symm.trans h)
    exact ⟨hschedule'.target, hschedule'.late, hschedule'.apart, hschedule'.past,
      hschedule'.count, hschedule'.counts, fun h => (by cases h)⟩
  · have hhere := hat.here
    by_cases hzero : j = 0
    · -- the module has started the timer and not cancelled it
      cases st with
      | loading =>
        rw [hhere.2.queued] at hq
        cases hq
      | timed now =>
        rw [hhere.2.1.queued] at hq
        cases hq
      | aimed =>
        rw [hhere.2.1.queued] at hq
        cases hq
      | started => exact hhere
      | cancelled =>
        rw [hhere.2.2.1] at hq
        cases hq
      | ended => trivial
      | _ => cases hhere.1
    · rw [ended_of_none hzero hhere]
      trivial

end Steps

/-! ## Every run -/

section Runs

variable {g : Option ℕ} {i t₀ : ℕ} {w : World} {th : Thread Op Op.Ans Role Unit}

lemma sound_outline : outline.Sound machine fun _ _ => True where
  act {g w i e r st o k x s} hw _ hi hst hready hsem := by
    obtain ⟨g', h⟩ := lands_act hw hst.here hst.follows.1 hready hsem
    exact ⟨trivial, g', h.always, h.own, h.others⟩
  again _ hagain := by cases hagain
  event {g w n s ths} hw _ hevent := by
    cases n with
    | tick ns =>
      obtain ⟨rfl, rfl⟩ := Prod.mk.inj (Option.some.inj hevent)
      obtain ⟨hrunning, hquiet, hschedule⟩ := hw.always
      refine ⟨g, ⟨hrunning, fun h => ?_, fun t h => (hschedule t h).tick ns⟩,
        fun j th st _ hat => here_tick hat.here ns, fun j th hj => (by cases hj)⟩
      have hquiet' := hquiet h
      exact ⟨h, hquiet'.queued, hquiet'.running, hquiet'.timerCount, hquiet'.counts,
        hquiet'.deltas⟩
    | expire =>
      obtain ⟨⟨hq, hle⟩, heq⟩ := Option.ite_none_right_eq_some.1 hevent
      obtain ⟨rfl, rfl⟩ := Prod.mk.inj (Option.some.inj heq)
      have h := admits_expire hw hq hle
      exact ⟨_, h.always, h.old, h.new⟩

lemma holds_of_reach (hw : system.Reachable w) : ∃ g, outline.Holds g w := by
  refine sound_outline.holds_of_reach ?_ hw
  rintro _ ⟨now, rfl⟩
  have hquiet : Unstarted ⟨now, 0, none, 0, false, false, 0, [], []⟩ := ⟨rfl, rfl, rfl, rfl, rfl, rfl⟩
  exact ⟨none, Outline.holds_single hquiet.always ⟨follows_module, rfl, hquiet⟩⟩

/-- **The timer keeps its schedule.** In every run the expiry for which the timer is queued lies
a whole number of periods after the start, more than callbacks have printed; the n-th callback
prints n as an `int` and a delay of at least n + 1 periods less half a millisecond; and between
any two callbacks there is a point of the grid. -/
theorem on_schedule (hw : system.Reachable w) (ht : w.shared.started = some t₀) :
    (w.shared.queued = true →
      ∃ k, w.shared.deltas.length < k ∧ w.shared.expires = t₀ + k * period) ∧
    (∀ n c, w.shared.counts.reverse[n]? = some c → c = BitVec.ofNat 32 n) ∧
    (∀ n d, w.shared.deltas.reverse[n]? = some d →
      (((n + 1) * period : ℕ) : Int) - 500000 ≤ d) ∧
    w.shared.deltas.Pairwise fun d d' => ∃ k : ℕ,
      w.shared.firedAt d' < (t₀ + k * period : ℕ) ∧
        ((t₀ + k * period : ℕ) : Int) ≤ w.shared.firedAt d := by
  obtain ⟨g, hholds⟩ := holds_of_reach hw
  have hschedule := hholds.always.2.2 t₀ ht
  refine ⟨fun hq => ?_, hschedule.counts, fun n d hd => ?_, hschedule.apart⟩
  · obtain ⟨-, -, k, hk, hexpires, -⟩ := hschedule.queued hq
    exact ⟨k, hk, hexpires⟩
  · have hlate := hschedule.late n d hd
    have htarget := hschedule.target
    rw [State.firedAt] at hlate
    omega

/-- The module before `hello_init`, one second after the start of the clock. -/
def fresh : World :=
  ⟨⟨NSEC_PER_SEC, 0, none, 0, false, false, 0, [], []⟩, [⟨.module, do helloInit; helloExit⟩]⟩

/-- `hello_init` starts the timer, which expires after five seconds. -/
def firstExpiry : List (Move Unit Event) :=
  List.replicate 4 (.run 0 ()) ++ [.event (.tick 5000000000), .event .expire]

/-- A first callback, and a second one that is two periods late. -/
theorem on_schedule_late :
    ∃ w, system.Reachable w ∧ w.shared.expires = 26000000000 ∧
      w.shared.deltas = [19999500000, 4999500000] ∧
      (w.shared.queued = true →
        ∃ k, w.shared.deltas.length < k ∧ w.shared.expires = NSEC_PER_SEC + k * period) := by
  obtain ⟨w, hw, hstarted, hexpires, hdeltas⟩ := System.exists_reachable (S := system)
    (P := fun w => w.shared.started = some NSEC_PER_SEC ∧ w.shared.expires = 26000000000 ∧
      w.shared.deltas = [19999500000, 4999500000])
    (firstExpiry ++ List.replicate 6 (.run 1 ()) ++ [.event (.tick 15000000000), .event .expire] ++
      List.replicate 6 (.run 2 ())) (s := fresh) (.init ⟨_, rfl⟩) (by decide +kernel)
  exact ⟨w, hw, hexpires, hdeltas, (on_schedule hw hstarted).1⟩

/-- `hrtimer_cancel` has returned. -/
def Cancelled (w : World) : Prop :=
  ∃ th ∈ w.threads, th.role = .module ∧ (th.nextOp = none ∨ ∃ reg, th.nextOp = some (.release reg))

/-- A callback has not ended. -/
def Inside (w : World) : Prop :=
  ∃ (j : ℕ) (o : Op) (k : o.Ans → Driver), w.threads[j]? = some ⟨.callback, .act o k⟩

/-- Only the end of `__run_hrtimer` ends a callback. -/
lemma after_ne_ended {st : Stage} {o : Op} {x : o.Ans} (hallow : st.allow o)
    (ho : ∀ restart, o ≠ .finish restart) : st.after o x ≠ .ended := by
  cases o with
  | ktimeGet =>
    show (if st = .loading then Stage.timed x else Stage.fired x) ≠ .ended
    split_ifs <;> simp
  | printCount =>
    obtain ⟨t, rfl⟩ := hallow
    simp
  | target =>
    obtain ⟨t, rfl⟩ := hallow
    simp
  | finish restart => exact absurd rfl (ho restart)
  | _ => simp

lemma running_sem {o : Op} {x : o.Ans} {s s' : State} (h : sem o s = .done x s')
    (hrunning : s'.running = true) :
    s.running = true ∧ ∀ restart, o ≠ .finish restart := by
  cases o with
  | finish restart =>
    obtain ⟨-, rfl⟩ := Outcome.done.inj h
    cases hrunning
  | _ =>
    obtain ⟨-, rfl⟩ := Outcome.done.inj h
    exact ⟨hrunning, by simp⟩

/-- A callback that is running has not ended. -/
lemma inside_of_running (hw : system.Reachable w) : w.shared.running = true → Inside w := by
  refine Machine.invariant (M := machine) (I := fun w => w.shared.running = true → Inside w) ?_
    (fun w l w' hI hc h => ?_) (hw.strengthen fun _ => holds_of_reach)
  · rintro _ ⟨now, rfl⟩ h
    cases h
  · obtain ⟨-, g, hholds⟩ := hc
    cases h with
    | @act i e r o k x s hi hready hsem =>
      intro hrunning
      obtain ⟨hbefore, hfinish⟩ := running_sem hsem hrunning
      obtain ⟨j, o', k', hj⟩ := hI hbefore
      by_cases hij : i = j
      · subst hij
        obtain rfl : r = .callback := congrArg Thread.role (Option.some.inj (hi.symm.trans hj))
        obtain ⟨st, hst⟩ := hholds.threads i _ hi
        have hrest := hst.follows.2 x trivial
        have hlt := (List.getElem?_eq_some_iff.1 hi).1
        cases hkx : k x with
        | ret a =>
          rw [hkx] at hrest
          exact absurd hrest (after_ne_ended hst.follows.1 hfinish)
        | act o'' k'' =>
          refine ⟨i, o'', k'', ?_⟩
          rw [List.getElem?_set_self hlt]
      · refine ⟨j, o', k', ?_⟩
        rw [List.getElem?_set_ne hij]
        exact hj
    | again hi hagain => cases hagain
    | @event n s ths hevent =>
      intro hrunning
      cases n with
      | tick ns =>
        obtain ⟨rfl, rfl⟩ := Prod.mk.inj (Option.some.inj hevent)
        rw [List.append_nil]
        exact hI hrunning
      | expire =>
        obtain ⟨-, heq⟩ := Option.ite_none_right_eq_some.1 hevent
        obtain ⟨rfl, rfl⟩ := Prod.mk.inj (Option.some.inj heq)
        obtain ⟨o, k, hbegin⟩ : ∃ o k, timerCallback = .act o k := ⟨.ktimeGet, _, rfl⟩
        refine ⟨w.threads.length, o, k, ?_⟩
        rw [hbegin, List.getElem?_concat_length]

/-- A callback that has not ended can go on. -/
lemma canRun_callback {j : ℕ} {o : Op} {k : o.Ans → Driver} (hholds : outline.Holds g w)
    (hj : w.threads[j]? = some ⟨.callback, .act o k⟩)
    (hzero : w.threads[0]?.map Thread.role = some .module) : machine.CanRun w j := by
  have hready : machine.ready w.shared .callback o = true := by
    cases o with
    | hrtimerCancel =>
      obtain ⟨st, hst⟩ := hholds.threads j _ hj
      obtain rfl : st = .started := hst.follows.1
      obtain rfl : j = 0 := hst.here.1
      rw [hj] at hzero
      cases hzero
    | _ => rfl
  cases o <;> exact Machine.canRun_of_ready (e := ()) hj hready rfl

/-- **After `hrtimer_cancel` the timer is dead**, in every run: it is not queued and no callback
is running.  Before that, `hello_exit` waits for nothing but a callback, which can go on. -/
theorem dead_after_cancel (hw : system.Reachable w) :
    (Cancelled w → w.shared.queued = false ∧ w.shared.running = false ∧
      ∀ th ∈ w.threads, th.role = .callback → th.nextOp = none) ∧
    ∀ i th, w.threads[i]? = some th → machine.CanRun w i ∨ machine.Over w i ∨
      machine.Waits w i .module .hrtimerCancel ∧
        ∃ j, w.threads[j]?.map Thread.role = some .callback ∧ machine.CanRun w j := by
  obtain ⟨g, hholds⟩ := holds_of_reach hw
  have hzero : w.threads[0]?.map Thread.role = some .module := by
    refine Machine.role_of_reach (M := machine) ?_ hw
    rintro _ ⟨now, rfl⟩
    rfl
  constructor
  · rintro ⟨⟨r, p⟩, hth, hrole, hnext⟩
    obtain rfl : r = .module := hrole
    obtain ⟨i, st, -, hat⟩ := hholds.of_mem hth
    have hst : st = .cancelled := by
      rcases hnext with hnone | ⟨reg, hreg⟩
      · cases p with
        | ret a => exact hat.follows
        | act o k => cases hnone
      · exact hat.allow hreg
    subst hst
    obtain ⟨-, -, hq, hidle⟩ := hat.here
    obtain rfl : g = none := by
      by_contra hg
      rw [hholds.always.1.2 hg] at hidle
      cases hidle
    refine ⟨hq, hidle, fun th hth hrole => ?_⟩
    obtain ⟨j, st, hj, hst⟩ := hholds.of_mem hth
    have hne : j ≠ 0 := by
      rintro rfl
      rw [hj, Option.map_some, hrole] at hzero
      cases hzero
    obtain rfl := ended_of_none hne hst.here
    cases hop : th.nextOp with
    | none => rfl
    | some o =>
      have hallow : Stage.allow .ended o := hst.allow hop
      cases o <;> simp at hallow
  · intro i th hi
    have hsem : ∀ o, ∃ e x s, machine.sem e th.role o w.shared = .done x s := by
      intro o
      cases o <;> exact ⟨(), _, _, rfl⟩
    obtain hrun | hover | ⟨o, habout, hready⟩ := Machine.canRun_or_waits hi hsem
    · exact .inl hrun
    · exact .inr (.inl hover)
    · refine .inr (.inr ?_)
      have hrunning : o = .hrtimerCancel ∧ w.shared.running = true := by
        cases o with
        | hrtimerCancel => exact ⟨rfl, by simpa [machine] using hready⟩
        | _ => cases hready
      obtain ⟨rfl, hrunning⟩ := hrunning
      obtain ⟨st, hst⟩ := hholds.threads i th hi
      obtain rfl : st = .started := hst.allow (Pool.nextOp_of_aboutTo hi habout)
      obtain rfl : i = 0 := hst.here.1
      have hrole : th.role = .module := by
        rw [hi] at hzero
        exact Option.some.inj hzero
      rw [hrole] at habout hready
      obtain ⟨j, o, k, hj⟩ := inside_of_running hw hrunning
      refine ⟨⟨habout, hready⟩, j, ?_, canRun_callback hholds hj hzero⟩
      rw [hj]
      rfl

/-- `hello_exit` waits for a callback. -/
theorem dead_after_cancel_waiting :
    ∃ w, system.Reachable w ∧ machine.Waits w 0 .module .hrtimerCancel ∧ ¬ Cancelled w ∧
      ∀ i th, w.threads[i]? = some th → machine.CanRun w i ∨ machine.Over w i ∨
        machine.Waits w i .module .hrtimerCancel ∧
          ∃ j, w.threads[j]?.map Thread.role = some .callback ∧ machine.CanRun w j := by
  obtain ⟨w, hw, habout, hwait⟩ := System.exists_reachable (S := system)
    (P := fun w => w.AboutTo 0 .module .hrtimerCancel ∧
      machine.ready w.shared .module .hrtimerCancel = false)
    (firstExpiry ++ [.run 1 ()]) (s := fresh) (.init ⟨_, rfl⟩) (by decide +kernel)
  obtain ⟨hdead, hrun⟩ := dead_after_cancel hw
  refine ⟨w, hw, ⟨habout, hwait⟩, fun h => ?_, hrun⟩
  have hidle := (hdead h).2.1
  simp [machine, hidle] at hwait

end Runs

end KernelDriverLab.Hrtimer
