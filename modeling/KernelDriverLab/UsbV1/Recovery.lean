import KernelDriverLab.UsbV1.Runs

/-!
# Quiescence after error handling

An error handler leaves the device quiet only when the URBs it does not kill were
idle anyway: `sec_urb` for `usb_eh_abort`, all four for the resets.
-/

namespace KernelDriverLab.UsbV1

open Lib Prog

/-- The URBs that a handler kills. -/
def Handler.kills : Handler → UrbId → Bool
  | .abort, u => u ≠ .sec
  | _, _ => false

/-- **When an error handler leaves the device quiet.**  A handler that returns
`SUCCESS` has stopped every URB that was in flight before exactly when the URBs
that it does not kill were idle: `sec_urb` for `usb_eh_abort`, all four for the
resets. -/
theorem success_quiet_iff {k : Config} (hk : session.Reachable k) {h : Handler} {c : CmndId}
    {e : Env} {s' : State} (hrun : runHandler h c e k.drv = .done SUCCESS s') :
    (∀ u, k.drv.inflight u ≠ none → s'.inflight u = none) ↔
      ∀ u, h.kills u = false → k.drv.inflight u = none := by
  have hs : Shape k.drv := shape_reach hk
  have hafter : ∀ u, s'.inflight u = if h.kills u then none else k.drv.inflight u := by
    by_cases hh : h = .abort
    · subst hh
      intro u
      rw [(abort_effect e c hs).2.2.2 _ _ hrun u]
      cases u <;> rfl
    · rw [run_reset e c hh] at hrun
      split at hrun <;> simp only [Outcome.done.injEq] at hrun
      · obtain ⟨-, rfl⟩ := hrun
        intro u
        cases h <;> simp [Handler.kills, State.reset] at hh ⊢
      · exact absurd hrun.1 (by decide)
  constructor
  · intro hq u hu
    by_contra hne
    exact hne (by simpa [hafter, hu] using hq u hne)
  · intro hq u _
    rw [hafter]
    cases hu : h.kills u with
    | true => rfl
    | false => exact hq u hu

/-- The equivalence at a state in which `sec_urb` is in flight. -/
theorem success_quiet_iff_abortedRead :
    ∃ (k : Config) (s' : State), runHandler .abort 1 {} k.drv = .done SUCCESS s' ∧
      k.drv.inflight .sec = some 1 ∧
      ((∀ u, k.drv.inflight u ≠ none → s'.inflight u = none) ↔
        ∀ u, Handler.abort.kills u = false → k.drv.inflight u = none) :=
  ⟨(session.exec (.start readThenReady) abortedRead).get (by decide +kernel), _, rfl, rfl,
    success_quiet_iff (e := {})
      (System.reach_get abortedRead (reach_start _ _) (by decide +kernel) (by decide +kernel)) rfl⟩

/-- `usb_eh_abort` returns `SUCCESS` with `sec_urb` still in flight, and
`usb_eh_dev_reset` with `cbw_urb` still in flight. -/
theorem success_with_urb_in_flight :
    (∃ (k : Config) (s' : State), session.Reachable k ∧ 1 ∈ k.queued ∧
      runHandler .abort 1 {} k.drv = .done SUCCESS s' ∧
      k.drv.inflight .sec = some 1 ∧ s'.inflight .sec = some 1) ∧
    ∃ (k : Config) (s' : State), session.Reachable k ∧ 0 ∈ k.queued ∧
      runHandler .devReset 0 {} k.drv = .done SUCCESS s' ∧
      k.drv.inflight .cbw = some 0 ∧ s'.inflight .cbw = some 0 := by
  constructor
  · have hk := System.reach_get abortedRead (reach_start (fun _ _ => True) readThenReady)
      (by decide +kernel) (by decide +kernel)
    exact ⟨_, _, hk, by decide, rfl, rfl, rfl⟩
  · have hk := System.reach_get [.queueCommand 0 {}]
      (reach_start (fun _ _ => True) readThenReady) (by decide +kernel) (by decide +kernel)
    exact ⟨_, _, hk, by decide, rfl, rfl, rfl⟩

end KernelDriverLab.UsbV1
