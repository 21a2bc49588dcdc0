import KernelDriverLab.UsbV1.Traffic

/-!
# The error handlers

What the handlers do to the command traffic.  `usb_eh_abort` kills three of the
four URBs, each of which runs its completion function first, and completes the
command it was given; the reset handlers only forget the active command.
-/

namespace KernelDriverLab.UsbV1

open Lib Prog

section Handlers

variable (e : Env) (own c : CmndId) {s : State}

/-- A function that kills nothing means the same to the error handlers. -/
lemma run_killSem {α : Type} {p : Driver α} (hp : All (fun o => ∀ u, o ≠ .usbKillUrb u) p)
    (s : State) : run (killSem e own) p s = run (sem e own) p s :=
  hp.run_congr (fun _ t ho => killSem_of_ne e own ho t) s

lemma run_killUrb (hs : Shape s) (u : UrbId) :
    run (killSem e own) (killUrb u) s = match s.inflight u with
      | none => .done () s
      | some o => runCallback e u o (s.giveBack u (-ENOENT) 0 []) := by
  have hread : run (killSem e own) readDev s = .done s.dev s := rfl
  have hkill : run (killSem e own) (usbKillUrb u) s = killSem e own (.usbKillUrb u) s := run_op _ _
  obtain ⟨i, hi⟩ := Option.ne_none_iff_exists'.1 (hs.urb_ptr u)
  cases hu : s.inflight u <;> simp [killUrb, hread, hi, hkill, killSem_kill, hu]

/-- **Killing one URB.** Afterwards that URB is idle and the others are as they
were; its completion function submits nothing. -/
theorem killUrb_effect (hs : Shape s) (u : UrbId) :
    let s' := (run (killSem e own) (killUrb u) s).state
    Shape s' ∧ s'.inflight = Function.update s.inflight u none ∧ s'.clash = s.clash ∧
      s.traffic.Serves s'.traffic := by
  rw [run_killUrb e own hs]
  cases hu : s.inflight u with
  | none => exact ⟨hs, by simp [← hu], rfl, .refl _⟩
  | some o =>
    dsimp only
    have hshape := (hs.giveBack u (-ENOENT) 0 []).runCallback (e := e) (u := u) (c := o)
    cases hc : s.activeScmd with
    | none =>
      rw [complete_none e _ _ _ hs hu hc] at hshape ⊢
      have ht := s.traffic_giveBack u (-ENOENT) 0 []
      exact ⟨hshape, congrArg Traffic.inflight ht, congrArg Traffic.clash ht,
        ht ▸ ⟨.inl rfl, fun _ => .inl⟩⟩
    | some c =>
      have h := traffic_complete e (-ENOENT) 0 [] hs hu hc
      have hland : s.traffic.Serves (s.traffic.land u) := ⟨.inl rfl, fun _ => .inl⟩
      have hserves := h.serves hc
      obtain ⟨hin, hcl⟩ := h.bad (by decide)
      rw [Outcome.state_map] at hin hcl hserves
      exact ⟨hshape, hin, hcl, hland.trans hserves⟩

/-- The three kills together: when they return, only `sec_urb` can be in flight. -/
lemma killUrbs_effect (hs : Shape s) :
    (run (killSem e own) killUrbs s).state.clash = s.clash ∧
      s.traffic.Serves (run (killSem e own) killUrbs s).state.traffic ∧
      ∀ s', run (killSem e own) killUrbs s = .done () s' →
        ∀ u, s'.inflight u = if u = .sec then s.inflight u else none := by
  -- a kill that stops at a null pointer ends the handler, so each one may assume the shape
  obtain ⟨hs₁, hin₁, hcl₁, ht₁⟩ := killUrb_effect e own hs .cbw
  rw [killUrbs, run_bind]
  rcases hr₁ : run (killSem e own) (killUrb .cbw) s with ⟨⟨⟩, s₁⟩ | s₁ <;>
    simp only [hr₁, Outcome.state_done, Outcome.state_oops] at hs₁ hin₁ hcl₁ ht₁
  · obtain ⟨hs₂, hin₂, hcl₂, ht₂⟩ := killUrb_effect e own hs₁ .csw
    simp only [run_bind]
    rcases hr₂ : run (killSem e own) (killUrb .csw) s₁ with ⟨⟨⟩, s₂⟩ | s₂ <;>
      simp only [hr₂, Outcome.state_done, Outcome.state_oops] at hs₂ hin₂ hcl₂ ht₂
    · obtain ⟨-, hin₃, hcl₃, ht₃⟩ := killUrb_effect e own hs₂ .data
      refine ⟨(hcl₃.trans hcl₂).trans hcl₁, (ht₁.trans ht₂).trans ht₃, fun s' hrun u => ?_⟩
      simp only [hrun, Outcome.state_done] at hin₃
      rw [hin₃, hin₂, hin₁]
      cases u <;> simp [Function.update]
    · exact ⟨hcl₂.trans hcl₁, ht₁.trans ht₂, fun s' hrun => (by cases hrun)⟩
  · exact ⟨hcl₁, ht₁, fun s' hrun => (by cases hrun)⟩

lemma run_usbEhAbort : run (killSem e c) (usbEhAbort c) s =
    match run (killSem e c) killUrbs s with
    | .done _ s' => .done SUCCESS (s'.finish c didAbort)
    | .oops s' => .oops s' := by
  have hread (t : State) : run (killSem e c) readDev t = .done t.dev t := rfl
  have hhalt (t : State) (p : Pipe) :
      run (killSem e c) (usbClearHalt p) t = .done e.clearHalt t := rfl
  have hwrite (t : State) (f : Cmnd → Cmnd) :
      run (killSem e c) (writeCmnd c f) t = .done () (t.modCmnd c f) := rfl
  have hdone (t : State) : run (killSem e c) (scsiDone (some c)) t = .done () (t.addDone c) := rfl
  simp only [usbEhAbort, run_bind, hread, hhalt, hwrite, hdone, pure_eq, run_ret]
  cases run (killSem e c) killUrbs s <;> rfl

/-- **`usb_eh_abort`** serves the active command and the one it is given.  When it
returns, only `sec_urb` can be in flight. -/
theorem abort_effect (hs : Shape s) :
    let s' := (runHandler .abort c e s).state
    s'.clash = s.clash ∧ (s'.activeScmd = s.activeScmd ∨ s'.activeScmd = none) ∧
      (∀ x ∈ s'.done, x = c ∨ x ∈ s.done ∨ s.activeScmd = some x) ∧
      ∀ rv t, runHandler .abort c e s = .done rv t →
        ∀ u, t.inflight u = if u = .sec then s.inflight u else none := by
  obtain ⟨hcl, ht, hin⟩ := killUrbs_effect e c hs
  simp only [runHandler, Handler.body, run_usbEhAbort]
  rcases hr : run (killSem e c) killUrbs s with ⟨⟨⟩, s'⟩ | s' <;>
    simp only [hr, Outcome.state_done, Outcome.state_oops] at hcl ht
  · refine ⟨hcl, ht.active, fun x hx => (List.mem_cons.1 hx).imp_right (ht.done x), ?_⟩
    rintro rv t hrun u
    obtain ⟨-, rfl⟩ := Outcome.done.injEq .. ▸ hrun
    exact hin s' hr u
  · exact ⟨hcl, ht.active, fun x hx => .inr (ht.done x hx), fun _ _ hrun => (by cases hrun)⟩

/-- The state after a reset that succeeded. -/
def State.reset (s : State) : State := (s.modDev fun d => { d with cbwTag := 0 }).setActive none

lemma run_afterReset : run (killSem e c) afterReset s = .done SUCCESS s.reset := by
  have hread (t : State) : run (killSem e c) readDev t = .done t.dev t := rfl
  have hhalt (t : State) (p : Pipe) :
      run (killSem e c) (usbClearHalt p) t = .done e.clearHalt t := rfl
  have hwrite (t : State) (f : Dev → Dev) :
      run (killSem e c) (writeDev f) t = .done () (t.modDev f) := rfl
  have hactive (t : State) :
      run (killSem e c) (setActiveScmd none) t = .done () (t.setActive none) := rfl
  simp [afterReset, hread, hhalt, hwrite, hactive, State.reset]

/-- Whether the request to reset the device succeeds. -/
def Handler.resets (e : Env) : Handler → Bool
  | .abort => false
  | .devReset => 0 ≤ e.controlMsg
  | .busReset | .hostReset => e.resetDevice = 0

/-- **A reset handler** forgets the active command and the tag, or does nothing. -/
theorem run_reset {h : Handler} (hh : h ≠ .abort) : runHandler h c e s =
    if h.resets e = true then .done SUCCESS s.reset else .done FAILED s := by
  have hmsg : run (killSem e c) usbControlMsg s = .done e.controlMsg s := rfl
  have hreset : run (killSem e c) usbResetDevice s = .done e.resetDevice s := rfl
  cases h with
  | abort => exact absurd rfl hh
  | devReset =>
    by_cases hm : e.controlMsg < 0 <;>
      simp [runHandler, Handler.body, usbEhDevReset, hmsg, hm, Handler.resets, run_afterReset]
  | busReset | hostReset =>
    by_cases hr : e.resetDevice = 0 <;>
      simp [runHandler, Handler.body, usbEhHostReset, usbEhBusReset, hreset, hr, Handler.resets,
        run_afterReset]

end Handlers

end KernelDriverLab.UsbV1
