import KernelDriverLab.Lib.Protocol
import KernelDriverLab.UsbV1.Interleaving
import KernelDriverLab.UsbV1.Operations

/-!
# The active command under interleaving

`active_scmd` is one slot without a lock.  It is used correctly as long as one
activity at a time is responsible for it: an URB in flight for the active command,
or one thread.  `slot` is the protocol by which a thread takes the responsibility
(`queue_command` stores its command), passes it on (an URB is submitted) and gives
it up (the slot is cleared), and every function of the driver follows it.

The protocol says nothing about when the responsibility may be taken, and neither
does the driver.  `Serial` is the missing rule; runs that keep it use the slot
correctly, and `slot_misused` is a run that does not.
-/

namespace KernelDriverLab.UsbV1

open Lib Prog

/-! ## The protocol -/

/-- What a thread has to do with `active_scmd`. -/
inductive Stage where
  /-- It does not use the slot before it has stored into it. -/
  | waiting
  /-- It is responsible for the slot, which holds its command. -/
  | holding
  /-- It does not use the slot any more. -/
  | quiet
deriving DecidableEq, Repr

/-- The operations of a thread with command `own` in a stage. -/
@[simp] def Stage.allow (own : CmndId) : Stage → Op → Prop
  | .quiet, .setActiveScmd _ => False
  | .waiting, .setActiveScmd a => a = none ∨ a = some own
  | .holding, .setActiveScmd a => a = none
  | i, .activeScmd | i, .usbSubmitUrb _ => i = .holding
  | _, .scsiHostAlloc => False
  | _, _ => True

/-- The answers that a thread can count on. -/
@[simp] def Stage.expect (own : CmndId) : Stage → (o : Op) → o.Ans → Prop
  | .holding, .activeScmd, a => a = some own
  | _, _, _ => True

/-- The stage after an operation.  A submission that succeeds hands the
responsibility to the URB. -/
@[simp] def Stage.after : Stage → (o : Op) → o.Ans → Stage
  | .holding, .usbSubmitUrb _, rv => if rv = 0 then .quiet else .holding
  | .waiting, .setActiveScmd a, _ => if a = none then .quiet else .holding
  | .holding, .setActiveScmd _, _ => .quiet
  | i, _, _ => i

/-- The protocol of `active_scmd` for a thread with command `own`. -/
@[simps]
def slot (own : CmndId) : Protocol Op Op.Ans Stage where
  allow := Stage.allow own
  expect := Stage.expect own
  after := Stage.after

/-- The operation is allowed to the responsible thread, which stays responsible. -/
def Op.Keeps : Op → Prop
  | setActiveScmd _ | usbSubmitUrb _ | scsiHostAlloc => False
  | _ => True

lemma Op.Routine.keeps {o : Op} (ho : o.Routine) : o.Keeps := by
  cases ho <;> trivial

section Follow

variable {c : CmndId}

@[simp] lemma follows_deref {α : Type} {p : Option α} {i : Stage} {Q : Stage → α → Prop} :
    Follows (slot c) (deref p) i Q ↔ ∀ a, p = some a → Q i a := by
  cases p with
  | none => simp [deref, oops]
  | some a => simp [deref]

lemma follows_cswCallback (u : UrbId) :
    Follows (slot c) (cswCallback u) .holding fun _ _ => True := by
  simp [cswCallback, readUrb, oops, activeScmd, readCsw, writeCmnd, doneActive, scsiDone,
    setActiveResult, derefActive, setActiveScmd, follows_bind, op]

lemma follows_keeps {α : Type} {p : Driver α} {Q : Stage → α → Prop} (hp : All Op.Keeps p)
    (hQ : ∀ a, Q .holding a) : Follows (slot c) p .holding Q := by
  have hallow (o : Op) (ho : o.Keeps) : (slot c).allow .holding o := by
    cases o <;> first | exact absurd ho id | simp
  have hstay (o : Op) (x : o.Ans) (ho : o.Keeps) : (slot c).after .holding o x = .holding := by
    cases o <;> first | exact absurd ho id | rfl
  refine (hp.follows hallow hstay).mono ?_
  rintro _ a rfl
  exact hQ a

lemma follows_dataCallback (u : UrbId) :
    Follows (slot c) (dataCallback u) .holding fun _ _ => True := by
  have hbody : All Op.Keeps (dataBody u) :=
    all_dataBody (fun _ ho => ho.keeps) (fun _ => trivial) u
  exact follows_bind.2 (follows_keeps hbody fun _ => follows_cswCallback .csw)

lemma follows_submitOrFail (u : UrbId) :
    Follows (slot c) (submitOrFail u) .holding fun _ _ => True := by
  rw [submitOrFail, usbSubmitUrb, op_bind]
  refine ⟨rfl, fun rv _ => ?_⟩
  by_cases hrv : rv = 0 <;>
    simp [hrv, setActiveResult, derefActive, activeScmd, writeCmnd, doneActive, scsiDone,
      follows_bind, op]

lemma follows_submitDataOrCsw :
    Follows (slot c) submitDataOrCsw .holding fun _ _ => True := by
  simp [submitDataOrCsw, readDev, useDma, storeUrb, writeUrb, writeDev, usbFillBulkUrb,
    follows_submitOrFail, follows_bind, op]

lemma follows_inquiry (sc : CmndId) (length len : UInt32) (evpd : UInt8) :
    Follows (slot c) (inquiry sc length len evpd) .holding fun _ _ => True := by
  simp [inquiry, readTable, writeCmnd, setActiveResid, setActiveResult, derefActive, activeScmd,
    storeUrb, readDev, writeUrb, follows_dataCallback, follows_bind, op]

lemma follows_cbwCallback (u : UrbId) :
    Follows (slot c) (cbwCallback u) .holding fun _ _ => True := by
  have hready : Follows (slot c) testUnitReady .holding fun j _ =>
      Follows (slot c) submitDataOrCsw j fun _ _ => True :=
    follows_keeps (routine_testUnitReady.mono fun _ ho => ho.keeps) fun _ =>
      follows_submitDataOrCsw
  have hsense (sc : CmndId) (length len : UInt32) :
      Follows (slot c) (requestSense sc length len) .holding fun j _ =>
        Follows (slot c) submitDataOrCsw j fun _ _ => True :=
    follows_keeps (all_requestSense (fun _ ho => ho.keeps) (fun _ _ => trivial) sc length len)
      fun _ => follows_submitDataOrCsw
  simp [cbwCallback, readUrb, oops, activeScmd, sgVirt, derefActive, readCmnd, readDev,
    usbClearHalt, setActiveResult, writeCmnd, doneActive, scsiDone, readBuf, follows_inquiry,
    hready, hsense, follows_submitDataOrCsw, follows_bind, op]

/-- A completion function is responsible for the slot from the start. -/
lemma follows_callback (cb : Callback) (u : UrbId) :
    Follows (slot c) (World.callbackProg cb u) .holding fun _ _ => True := by
  refine follows_bind.2 ?_
  cases cb with
  | cbwCallback => exact follows_cbwCallback u
  | dataCallback => exact follows_dataCallback u
  | cswCallback => exact follows_cswCallback u

lemma follows_queueCommand : Follows (slot c) (queueCommand c) .waiting fun _ _ => True := by
  simp [queueCommand, readCmnd, writeDev, setActiveScmd, allocDataBuffer, usbAllocCoherent, kmalloc,
    readDev, memcpyTo, writeBuf, usbFillBulkUrb, useDma, storeUrb, writeUrb, usbSubmitUrb,
    writeCmnd, doneActive, activeScmd, scsiDone, follows_bind, op]

lemma follows_handler (h : Handler) : Follows (slot c) (h.body c) .waiting fun _ _ => True := by
  cases h <;>
    simp [Handler.body, usbEhAbort, usbEhDevReset, usbEhHostReset, usbEhBusReset, killUrbs, killUrb,
      usbKillUrb, readDev, usbClearHalt, writeCmnd, scsiDone, usbControlMsg, usbResetDevice,
      afterReset, writeDev, setActiveScmd, follows_bind, op]

end Follow

/-! ## Operations that have nothing to do with the slot -/

/-- The operation neither uses the slot nor submits an URB. -/
def Op.Plain : Op → Prop
  | activeScmd | setActiveScmd _ | usbSubmitUrb _ | scsiHostAlloc => False
  | _ => True

lemma follows_plain {c : CmndId} {o : Op} {k : o.Ans → Driver Int} {i : Stage}
    {Q : Stage → Int → Prop} (ho : o.Plain) (h : Follows (slot c) (.act o k) i Q) (x : o.Ans) :
    Follows (slot c) (k x) i Q := by
  cases o <;> first | exact absurd ho id | cases i <;> exact h.2 x trivial

lemma plain_sem {e : Env} {own : CmndId} {s : State} {o : Op} (ho : o.Plain) :
    (sem e own o s).state.activeScmd = s.activeScmd ∧
      (sem e own o s).state.inflight = s.inflight := by
  cases o <;> simp only [sem]
  case usbFreeUrb u => cases h : s.dev.urb u <;> exact ⟨rfl, rfl⟩
  case usbFreeCoherent b n => cases h : s.dev.buffer b <;> exact ⟨rfl, rfl⟩
  case usbPutDev => cases h : s.dev.udev <;> exact ⟨rfl, rfl⟩
  case scsiHostPut p => cases p <;> exact ⟨rfl, rfl⟩
  case usbAllocCoherent b n =>
    split
    · exact ⟨rfl, rfl⟩
    · cases b <;> exact ⟨rfl, rfl⟩
  case activeScmd | setActiveScmd | usbSubmitUrb | scsiHostAlloc => exact absurd ho id
  all_goals repeat' split
  all_goals exact ⟨rfl, rfl⟩

/-! ## Who is responsible for the slot -/

/-- The thread is not responsible for the slot: a completion function does not use
it any more, and another function not before it has stored its own command. -/
def Rests (th : DriverThread) : Prop :=
  Follows (slot th.role.own) th.prog .quiet (fun _ _ => True) ∨
    th.role.isCallback = false ∧ Follows (slot th.role.own) th.prog .waiting fun _ _ => True

/-- The thread is responsible for the slot. -/
def Holds (active : Option CmndId) (th : DriverThread) : Prop :=
  active = some th.role.own ∧ Follows (slot th.role.own) th.prog .holding fun _ _ => True

/-- At most one activity is responsible for the slot: an URB in flight for the active
command, or the thread with the number `i`. -/
inductive Token (p : Pool Op Op.Ans Role Int State) : Prop where
  | urb {u : UrbId} {c : CmndId} (inflight : p.shared.inflight u = some c)
      (other : ∀ v, v ≠ u → p.shared.inflight v = none) (active : p.shared.activeScmd = some c)
      (rest : p.Each fun _ th => Rests th)
  | thread (i : ℕ) (idle : ∀ u, p.shared.inflight u = none)
      (each : p.Each fun j th => Rests th ∨ j = i ∧ Holds p.shared.activeScmd th)

/-- The next operation of thread `i` is a store into the slot by `queue_command` or
an error handler. -/
def World.storing (w : World) (i : ℕ) : Bool :=
  match w.pool.threads[i]? with
  | some ⟨r, .act (.setActiveScmd _) _⟩ => !r.isCallback
  | _ => false

/-- **The missing rule.** `queue_command` and the reset handlers store into the slot
only while no URB is in flight and every other thread rests. -/
def Serial (w : World) : Act → Prop
  | .run i _ => w.storing i = true →
      (∀ u, w.drv.inflight u = none) ∧ w.pool.Each fun j th => j ≠ i → Rests th
  | _ => True

/-- Every use of the slot by a completion function found the command for which its
URB was submitted. -/
def World.UsesOwn (w : World) : Prop := ∀ use ∈ w.uses, use.value = some use.own

namespace Token

variable {p : Pool Op Op.Ans Role Int State} {i : ℕ} {r : Role}

lemma rests_plain {o : Op} {k : o.Ans → Driver Int} (ho : o.Plain) (h : Rests ⟨r, .act o k⟩)
    (x : o.Ans) : Rests ⟨r, k x⟩ :=
  h.imp (fun h => follows_plain ho h x) fun h => ⟨h.1, follows_plain ho h.2 x⟩

/-- A thread that has nothing to do with the slot for the moment changes nothing. -/
lemma plain (h : Token p) {o : Op} {k : o.Ans → Driver Int} {x : o.Ans} {s : State}
    (hi : p.threads[i]? = some ⟨r, .act o k⟩) (ho : o.Plain)
    (hactive : s.activeScmd = p.shared.activeScmd) (hin : s.inflight = p.shared.inflight) :
    Token ⟨s, p.threads.set i ⟨r, k x⟩⟩ := by
  cases h with
  | urb hu hother hact hrest =>
    refine .urb (hin ▸ hu) (hin ▸ hother) (hactive.trans hact) ?_
    exact Pool.each_set (fun j th _ => hrest j th) (rests_plain ho (hrest i _ hi) x)
  | thread t hidle heach =>
    refine .thread t (hin ▸ hidle) ?_
    rw [hactive]
    refine Pool.each_set (fun j th _ => heach j th) ?_
    exact (heach i _ hi).imp (fun h => rests_plain ho h x)
      fun h => ⟨h.1, h.2.1, follows_plain ho h.2.2 x⟩

/-- A store by a thread that rests takes the responsibility, if the rule is kept. -/
lemma store {a : Option CmndId} {k : Unit → Driver Int}
    (hrest : Rests ⟨r, .act (.setActiveScmd a) k⟩) (hidle : ∀ u, p.shared.inflight u = none)
    (hothers : p.Each fun j th => j ≠ i → Rests th) :
    Token ⟨p.shared.setActive a, p.threads.set i ⟨r, k ()⟩⟩ := by
  refine .thread i hidle (Pool.each_set (fun j th hj hth => .inl (hothers j th hth hj)) ?_)
  rcases hrest with hquiet | ⟨hr, hwaiting⟩
  · exact absurd hquiet.1 id
  · have hallow : a = none ∨ a = some r.own := hwaiting.1
    have hnext := hwaiting.2 () trivial
    rcases hallow with rfl | rfl
    · exact .inl (.inl hnext)
    · exact .inr ⟨rfl, rfl, hnext⟩

lemma submit_inv {e : Env} {own : CmndId} {u : UrbId} {s s' : State} {x : Int}
    (h : sem e own (.usbSubmitUrb u) s = .done x s') :
    s'.activeScmd = s.activeScmd ∧ (x = 0 ∧ s'.inflight = Function.update s.inflight u (some own) ∨
      x ≠ 0 ∧ s'.inflight = s.inflight) := by
  simp only [sem] at h
  split at h
  · obtain ⟨rfl, rfl⟩ := Outcome.done.inj h
    exact ⟨rfl, .inr ⟨by decide, rfl⟩⟩
  · split at h
    · obtain ⟨rfl, rfl⟩ := Outcome.done.inj h
      exact ⟨rfl, .inr ⟨by decide, rfl⟩⟩
    · obtain ⟨rfl, rfl⟩ := Outcome.done.inj h
      split
      · exact ⟨rfl, .inl ⟨by assumption, rfl⟩⟩
      · exact ⟨rfl, .inr ⟨by assumption, rfl⟩⟩

/-- The responsible thread goes on. -/
lemma hold {e : Env} {o : Op} {k : o.Ans → Driver Int} {x : o.Ans} {s : State}
    (hidle : ∀ u, p.shared.inflight u = none)
    (hothers : ∀ j th, j ≠ i → p.threads[j]? = some th → Rests th)
    (hold : Holds p.shared.activeScmd ⟨r, .act o k⟩) (ho : ¬ o.Plain)
    (hsem : sem e r.own o p.shared = .done x s) : Token ⟨s, p.threads.set i ⟨r, k x⟩⟩ := by
  obtain ⟨hactive, hfollow⟩ := hold
  have hothers' (a : Option CmndId) (j : ℕ) (th : DriverThread) (hj : j ≠ i)
      (hth : p.threads[j]? = some th) : Rests th ∨ j = i ∧ Holds a th := .inl (hothers j th hj hth)
  cases o <;> first | exact absurd trivial ho | skip
  case activeScmd =>
    obtain ⟨rfl, rfl⟩ := Outcome.done.inj hsem
    exact .thread i hidle (Pool.each_set (hothers' _) (.inr ⟨rfl, hactive, hfollow.2 _ hactive⟩))
  case setActiveScmd a =>
    obtain ⟨rfl, rfl⟩ := Outcome.done.inj hsem
    exact .thread i hidle (Pool.each_set (hothers' _) (.inl (.inl (hfollow.2 () trivial))))
  case usbSubmitUrb u =>
    obtain ⟨hkeep, ⟨rfl, hin⟩ | ⟨hx, hin⟩⟩ := submit_inv hsem
    · -- the URB takes over
      have hmine : s.inflight u = some r.own := by simp [hin]
      refine .urb hmine (fun v hv => ?_) (hkeep.trans hactive)
        (Pool.each_set hothers (.inl (hfollow.2 0 trivial)))
      exact (congrFun hin v).trans ((Function.update_of_ne hv _ _).trans (hidle v))
    · have hnext : Holds s.activeScmd ⟨r, k x⟩ :=
        ⟨hkeep.trans hactive, by simpa [hx] using hfollow.2 x trivial⟩
      exact .thread i (fun v => hin ▸ hidle v) (Pool.each_set (hothers' _) (.inr ⟨rfl, hnext⟩))
  case scsiHostAlloc => exact absurd hfollow.1 id

/-- A thread that does not rest is the responsible one. -/
lemma holder (h : Token p) {th : DriverThread} (hi : p.threads[i]? = some th) (hrest : ¬ Rests th) :
    (∀ u, p.shared.inflight u = none) ∧ Holds p.shared.activeScmd th ∧
      ∀ j th, j ≠ i → p.threads[j]? = some th → Rests th := by
  cases h with
  | urb _ _ _ hall => exact absurd (hall i _ hi) hrest
  | thread t hidle heach =>
    obtain ⟨rfl, hhold⟩ := (heach i _ hi).resolve_left hrest
    exact ⟨hidle, hhold, fun j th hj hth => (heach j th hth).resolve_right fun h => hj h.1⟩

/-- A use by a completion function is a use of its own command. -/
lemma own_use (h : Token p) {o : Op} {k : o.Ans → Driver Int}
    (hi : p.threads[i]? = some ⟨r, .act o k⟩) (hr : r.isCallback = true)
    (ho : o.usesActive = true) : p.shared.activeScmd = some r.own := by
  have hrest : ¬ Rests ⟨r, .act o k⟩ := by
    rintro (hquiet | ⟨hno, -⟩)
    · cases o <;> simp only [Op.usesActive, Bool.false_eq_true] at ho
      case activeScmd => exact absurd hquiet.1 (by simp)
      case setActiveScmd => exact absurd hquiet.1 id
    · simp [hr] at hno
  exact (h.holder hi hrest).2.1.1

lemma spawn (h : Token p) {th : DriverThread} (hrest : Rests th) : Token (p.spawn th) := by
  cases h with
  | urb hu hother hactive hall => exact .urb hu hother hactive (hall.spawn hrest)
  | thread t hidle heach => exact .thread t hidle (heach.spawn (.inl hrest))

/-- The completion function takes over from its URB. -/
lemma complete (h : Token p) {u : UrbId} {c : CmndId} {cb : Callback}
    (hu : p.shared.inflight u = some c) (st : Int) (n : UInt32) (received : List UInt8) :
    Token (({ p with shared := p.shared.giveBack u st n received } :
      Pool Op Op.Ans Role Int State).spawn ⟨⟨.callback u, c⟩, World.callbackProg cb u⟩) := by
  have hactive : (p.shared.giveBack u st n received).activeScmd = p.shared.activeScmd :=
    congrArg Traffic.active (p.shared.traffic_giveBack u st n received)
  have hin : (p.shared.giveBack u st n received).inflight =
      Function.update p.shared.inflight u none :=
    congrArg Traffic.inflight (p.shared.traffic_giveBack u st n received)
  cases h with
  | thread t hidle heach => simp [hidle u] at hu
  | urb hv hother hact hall =>
    rename_i v c'
    obtain rfl : u = v := by
      by_contra hne
      simp [hother u hne] at hu
    obtain rfl : c = c' := by simpa [hu] using hv
    refine .thread p.threads.length (fun w => ?_) ?_
    · show (p.shared.giveBack u st n received).inflight w = none
      by_cases hw : w = u <;> simp [hin, hw, hother]
    · refine Pool.Each.spawn (fun j th hj => .inl (hall j th hj)) (.inr ⟨rfl, ?_⟩)
      exact ⟨hactive.trans hact, follows_callback cb u⟩

end Token

variable {w w' : World}

/-- One operation of one thread. -/
lemma token_run (h : Token w.pool) {i : ℕ} {e : Env} (hserial : Serial w (.run i e))
    (hstep : interleaved.next w (.run i e) = some w') : Token w'.pool := by
  obtain ⟨r, o, k, x, s, hi, -, hsem, rfl⟩ := inv_run hstep
  by_cases ho : o.Plain
  · have hkeep : (sem e r.own o w.drv).state.activeScmd = w.drv.activeScmd ∧
        (sem e r.own o w.drv).state.inflight = w.drv.inflight := plain_sem ho
    rw [hsem] at hkeep
    exact h.plain hi ho hkeep.1 hkeep.2
  by_cases hrest : Rests ⟨r, .act o k⟩
  · -- of the operations that matter to the slot, a thread that rests can only store
    cases o <;> first | exact absurd trivial ho | skip
    case setActiveScmd a =>
      have hr : r.isCallback = false := hrest.elim (fun h => absurd h.1 id) (·.1)
      obtain ⟨hidle, hothers⟩ := hserial (by simp [World.storing, hi, hr])
      obtain ⟨rfl, rfl⟩ := Outcome.done.inj hsem
      exact .store hrest hidle hothers
    all_goals rcases hrest with hquiet | ⟨-, hwaiting⟩
    all_goals first | exact absurd hquiet.1 (by simp) | exact absurd hwaiting.1 (by simp)
  · obtain ⟨hidle, hhold, hothers⟩ := h.holder hi hrest
    exact .hold hidle hothers hhold ho hsem

/-- **The step lemma**: a step that keeps the rule leaves one activity responsible. -/
lemma token_step (h : Token w.pool) {l : Act} (hserial : Serial w l)
    (hstep : interleaved.next w l = some w') : Token w'.pool := by
  cases l with
  | queue c =>
    obtain ⟨-, rfl⟩ := inv_queue hstep
    exact h.spawn (.inr ⟨rfl, follows_queueCommand⟩)
  | complete u st n received =>
    obtain ⟨c, cb, hu, -, rfl⟩ := inv_complete hstep
    exact h.complete hu st n received
  | handler hd c =>
    obtain ⟨-, rfl⟩ := inv_handler hstep
    exact h.spawn (.inr ⟨rfl, follows_handler hd⟩)
  | run i e => exact token_run h hserial hstep
  | finish i =>
    obtain ⟨r, v, hi, rfl⟩ := inv_finish hstep
    have hended : Rests ⟨⟨.ended, r.own⟩, .ret v⟩ := .inl trivial
    cases h with
    | urb hu hother hactive hall =>
      exact .urb hu hother hactive (Pool.each_set (fun j th _ => hall j th) hended)
    | thread t hidle heach =>
      exact .thread t hidle (Pool.each_set (fun j th _ => heach j th) (.inl hended))

lemma usesOwn_step (h : Token w.pool) (huses : w.UsesOwn) {l : Act}
    (hstep : interleaved.next w l = some w') : w'.UsesOwn := by
  cases l with
  | queue c =>
    obtain ⟨-, rfl⟩ := inv_queue hstep
    exact huses
  | complete u st n received =>
    obtain ⟨c, cb, -, -, rfl⟩ := inv_complete hstep
    exact huses
  | handler hd c =>
    obtain ⟨-, rfl⟩ := inv_handler hstep
    exact huses
  | run i e =>
    obtain ⟨r, o, k, x, s, hi, -, -, rfl⟩ := inv_run hstep
    intro use hmem
    simp only [World.noteUse] at hmem
    split at hmem
    · rename_i huse
      simp only [Bool.and_eq_true] at huse
      rcases List.mem_cons.1 hmem with rfl | hmem
      · exact h.own_use hi huse.1 huse.2
      · exact huses use hmem
    · exact huses use hmem
  | finish i =>
    obtain ⟨r, v, -, rfl⟩ := inv_finish hstep
    exact huses

/-- **The active command belongs to the URB.** In every run that keeps the rule,
whenever a completion function uses `active_scmd` while it runs for an URB submitted
for command `c`, `active_scmd` is `c`. -/
theorem uses_own (hw : interleaved.Reach Serial w) : ∀ use ∈ w.uses, use.value = some use.own := by
  refine (System.Reach.invariant (S := interleaved)
    (I := fun w => Token w.pool ∧ w.UsesOwn) ?_ ?_ hw).2
  · rintro w ⟨hprobed, hthreads, -, -, huses⟩
    refine ⟨.thread 0 hprobed.inflight fun j th hj => ?_, fun use hmem => ?_⟩
    · simp [hthreads] at hj
    · simp [huses] at hmem
  · rintro w l w' ⟨htoken, huses⟩ hserial hstep
    exact ⟨token_step htoken hserial hstep, usesOwn_step htoken huses hstep⟩

/-! ## Two schedules -/

/-- A stronger rule that can be evaluated: stores happen while all other threads have
only to return. -/
def Alone (w : World) : Act → Prop
  | .run i _ => w.storing i = true →
      (w.drv.inflight .cbw = none ∧ w.drv.inflight .sec = none ∧ w.drv.inflight .csw = none ∧
        w.drv.inflight .data = none) ∧
      ∀ th ∈ w.pool.threads.eraseIdx i, th.returned = true
  | _ => True

instance (w : World) : (l : Act) → Decidable (Alone w l)
  | .run _ _ => inferInstanceAs (Decidable (_ → _))
  | .queue _ | .complete _ _ _ _ | .handler _ _ | .finish _ => inferInstanceAs (Decidable True)

lemma serial_of_alone {w : World} {l : Act} (h : Alone w l) : Serial w l := by
  cases l with
  | run i e =>
    intro hstore
    obtain ⟨⟨hcbw, hsec, hcsw, hdata⟩, hall⟩ := h hstore
    refine ⟨fun u => by cases u <;> assumption, fun j th hj hne => ?_⟩
    have hreturn : th.returned = true := hall th (List.mem_eraseIdx_iff_getElem?.2 ⟨j, hne, hj⟩)
    obtain ⟨r, prog⟩ := th
    cases prog with
    | ret v => exact .inl trivial
    | act o k => simp [Thread.returned] at hreturn
  | _ => trivial

/-- A REQUEST SENSE of 18 bytes, whose data goes in `direction`, then a WRITE. -/
def senseThen (direction : DmaDataDirection) (c : CmndId) : Cmnd :=
  if c = 0 then .plain 0x03 direction 18 0 else .plain 0x2a .dmaToDevice 512 0

/-- `queue_command` for the REQUEST SENSE, and `cbw_callback` up to the call of `scsi_done`. -/
def senseAnswered : List Act :=
  [.queue 0] ++ turns 0 20 ++ [.finish 0, .complete .cbw 0 31 []] ++ turns 1 14

/-- The REQUEST SENSE is answered, and the WRITE is sent to the device. -/
theorem uses_own_senseThen : ∃ w : World, ⟨0, some 0⟩ ∈ w.uses ∧ ⟨1, some 1⟩ ∈ w.uses ∧
    ∀ use ∈ w.uses, use.value = some use.own := by
  have hw := System.reach_get
    (senseAnswered ++ turns 1 5 ++ [.finish 1, .queue 1] ++ turns 2 20 ++
      [.finish 2, .complete .sec 0 31 []] ++ turns 3 3)
    (reach_before Alone (senseThen .dmaFromDevice)) (by decide +kernel) (by decide +kernel)
  exact ⟨_, by decide +kernel, by decide +kernel, uses_own (hw.mono fun _ _ => serial_of_alone)⟩

/-- **The slot is misused.** `usb_eh_dev_reset` clears the slot while the CBW of a READ is in
flight, and `cbw_callback` finds it NULL.  And the SCSI layer hands over the second command
right after `cbw_callback` has called `scsi_done` for a REQUEST SENSE; when the submission of
`data_urb` then fails, `cbw_callback` finds the second command in the slot. -/
theorem slot_misused :
    (∃ w, interleaved.Reachable w ∧ ⟨0, none⟩ ∈ w.uses) ∧
    ∃ w, interleaved.Reachable w ∧ ⟨0, some 1⟩ ∈ w.uses := by
  constructor
  · refine System.exists_reachable
      ([.queue 0] ++ turns 0 20 ++ [.finish 0, .handler .devReset 0] ++ turns 1 7 ++
        [.complete .cbw 0 31 []] ++ turns 2 2) (reach_before _ readThenReady) ?_
    decide +kernel
  · refine System.exists_reachable
      (senseAnswered ++ [.queue 1] ++ turns 2 20 ++ turns 1 5 ++ [.run 1 { submit := -ENOMEM }] ++
        turns 1 1) (reach_before _ (senseThen .dmaToDevice)) ?_
    decide +kernel

end KernelDriverLab.UsbV1
