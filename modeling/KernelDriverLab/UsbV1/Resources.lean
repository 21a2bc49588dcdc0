import KernelDriverLab.UsbV1.Attach

/-!
# The balance of resources

The life of an interface: probes, the calls of the driver while it is bound, and
disconnects, in any number.  `Life.Settled` is what is expected after a failed
probe and after a disconnect: everything acquired since the probe began has been
released, once and in the form in which it was acquired.

That holds only when `scsi_host_alloc` failed, so that there was nothing to
release.  Every other failed probe keeps the reference to the `usb_device`, and
`deallocate_usb_resource` never releases `sec_urb`.
-/

namespace KernelDriverLab.UsbV1

open Lib Prog

/-! ## The life of an interface -/

/-- An interface: the device as the latest probe left it and the calls changed it,
whether it is bound to the driver, and the ledger number from which the latest
probe acquired. -/
structure Life where
  conf : Config
  bound : Bool
  base : ℕ

/-- What can happen to an interface. -/
inductive Event where
  /-- `usb_probe`, in memory as `found` has it. -/
  | probe (found : State) (altsetting : Option (List UsbEndpointDescriptor)) (e : Env)
  | call (l : Call)
  | disconnect (e : Env)

namespace Life

/-- The interface after `usb_probe`. -/
def afterProbe (k : Life) : Outcome State Int → Life
  | .done rv s => ⟨⟨s, [], [], [], false⟩, decide (rv = 0), k.conf.drv.ledger.next⟩
  | .oops s => ⟨⟨s, [], [], [], true⟩, false, k.conf.drv.ledger.next⟩

/-- One event.  Probe and disconnect submit no URB, so the command on whose behalf
they run does not matter. -/
def step (k : Life) : Event → Option Life
  | .probe found alt e =>
      if k.bound = false ∧ k.conf.oops = false then
        some (k.afterProbe
          (run (killSem e 0) (usbProbe alt) (found.blank k.conf.drv.ledger.reopen)))
      else none
  | .call l =>
      if k.bound then (UsbV1.step k.conf l).map fun c => { k with conf := c } else none
  | .disconnect e =>
      if k.bound ∧ k.conf.oops = false then
        some { k with
          conf := k.conf.after (run (killSem e 0) usbDisconnect k.conf.drv)
          bound := false }
      else none

/-- Everything acquired since the latest probe began has been released exactly
once, by the matching function and with the right size. -/
def Settled (k : Life) : Prop := k.conf.drv.ledger.Settled k.base

instance (k : Life) : Decidable k.Settled := inferInstanceAs (Decidable (Ledger.Settled _ _))

/-- With the event, a probe returned an error or a disconnect returned. -/
def Ended (k : Life) : Event → Prop
  | .probe _ _ _ | .disconnect _ => k.bound = false ∧ k.conf.oops = false
  | .call _ => False

instance (k : Life) : (l : Event) → Decidable (k.Ended l)
  | .probe _ _ _ | .disconnect _ => inferInstanceAs (Decidable (_ ∧ _))
  | .call _ => inferInstanceAs (Decidable False)

end Life

/-- The life of an interface from the first probe on. -/
def lifecycle : System Life Event where
  Init k := k.bound = false ∧ k.conf.oops = false
  next := Life.step

section Inversion

variable {k k' : Life}

lemma next_probe {found : State} {alt : Option (List UsbEndpointDescriptor)} {e : Env}
    (h : lifecycle.next k (.probe found alt e) = some k') :
    k' = k.afterProbe
      (run (killSem e 0) (usbProbe alt) (found.blank k.conf.drv.ledger.reopen)) := by
  simp only [lifecycle, Life.step, Option.ite_none_right_eq_some, Option.some.injEq] at h
  exact h.2.symm

lemma next_call {l : Call} (h : lifecycle.next k (.call l) = some k') :
    k.bound = true ∧ ∃ c, session.next k.conf l = some c ∧ k' = { k with conf := c } := by
  simp only [lifecycle, Life.step, Option.ite_none_right_eq_some, Option.map_eq_some_iff] at h
  obtain ⟨hb, c, hc, rfl⟩ := h
  exact ⟨hb, c, hc, rfl⟩

lemma next_disconnect {e : Env} (h : lifecycle.next k (.disconnect e) = some k') :
    k.bound = true ∧ k' = { k with
      conf := k.conf.after (run (killSem e 0) usbDisconnect k.conf.drv), bound := false } := by
  simp only [lifecycle, Life.step, Option.ite_none_right_eq_some, Option.some.injEq] at h
  exact ⟨h.1.1, h.2.symm⟩

end Inversion

/-- **A bound interface is in a session**: what holds in every session holds
between every successful probe and the disconnect. -/
theorem session_of_bound {k : Life} (hk : lifecycle.Reachable k) (hb : k.bound = true) :
    session.Reachable k.conf := by
  refine System.Reach.invariant (S := lifecycle)
    (I := fun k => k.bound = true → session.Reachable k.conf) ?_ ?_ hk hb
  · intro k h hb
    simp [h.1] at hb
  · rintro k l k' ih - h hb
    cases l with
    | probe found alt e =>
      obtain rfl := next_probe h
      cases hrun : run (killSem e 0) (usbProbe alt) (found.blank k.conf.drv.ledger.reopen) with
      | oops s => simp [hrun, Life.afterProbe] at hb
      | done rv s =>
        obtain rfl : rv = 0 := by simpa [hrun, Life.afterProbe] using hb
        exact .init ⟨probed_of_usbProbe hrun, rfl, rfl, rfl, rfl⟩
    | call l =>
      obtain ⟨hb', c, hc, rfl⟩ := next_call h
      exact .step (ih hb') trivial hc
    | disconnect e =>
      obtain ⟨-, rfl⟩ := next_disconnect h
      simp at hb

/-! ## What an operation releases -/

/-- The ledger entry that an operation strikes when it is a release. -/
def Op.frees (s : State) : Op → Option (ℕ × Resource)
  | usbFreeUrb u => (s.dev.urb u).map (·, .urb)
  | usbFreeCoherent b n => (s.dev.buffer b).map (·, .coherent n)
  | usbPutDev => s.dev.udev.map (·, .usbDevice)
  | scsiHostPut h => h.map (·, .scsiHost)
  | _ => none

section Keep

variable {e : Env} {own : CmndId} {s : State} {p : ℕ × Resource}

lemma mem_releasePtr {i : Option ℕ} {k : Resource} (hp : p ∈ s.ledger.live)
    (hne : i.map (·, k) ≠ some p) : p ∈ (s.releasePtr i k).ledger.live := by
  cases i with
  | none => exact hp
  | some i => exact (Ledger.mem_release_of_ne fun h => hne (congrArg some h.symm)).2 hp

/-- An operation strikes no entry but the one it frees. -/
lemma mem_ledger_sem {o : Op} (hp : p ∈ s.ledger.live) (ho : o.frees s ≠ some p) :
    p ∈ (sem e own o s).state.ledger.live := by
  cases o <;> simp only [sem]
  case usbFreeUrb | usbFreeCoherent | usbPutDev | scsiHostPut => exact mem_releasePtr hp ho
  case usbAllocCoherent b n =>
    split
    · exact hp
    · cases b <;> exact Ledger.mem_acquire.2 (.inr hp)
  all_goals repeat' split
  all_goals first | exact hp | exact Ledger.mem_acquire.2 (.inr hp)

/-- Killing an URB strikes no entry, whatever its completion function does. -/
lemma kill_same (u : UrbId) : (killSem e own (.usbKillUrb u) s).state.ledger = s.ledger ∧
    s.dev.Same (killSem e own (.usbKillUrb u) s).state.dev := by
  rw [killSem_kill]
  split
  · exact ⟨rfl, .refl _⟩
  · rename_i c _
    have hf : Frame _ (runCallback e u c (s.giveBack u (-ENOENT) 0 [])).state := frame_runCallback
    exact ⟨hf.ledger.trans (by simp), by simpa using hf.dev⟩

lemma mem_ledger_killSem {o : Op} (hp : p ∈ s.ledger.live) (ho : o.frees s ≠ some p) :
    p ∈ (killSem e own o s).state.ledger.live := by
  by_cases hkill : ∃ u, o = .usbKillUrb u
  · obtain ⟨u, rfl⟩ := hkill
    rw [(kill_same u).1]
    exact hp
  · rw [killSem_of_ne e own (not_exists.1 hkill)]
    exact mem_ledger_sem hp ho

end Keep

/-! ## The reference to the device -/

section FailedProbe

variable {e : Env} {own : CmndId} {s s' : State}

/-- What the release of one pair does, in both functions that release pairs. -/
structure MayRelease (P : Op → Prop) (u : UrbId) (size : ℕ) : Prop where
  read : P .readDev
  kill : P (.usbKillUrb u)
  urb : P (.usbFreeUrb u)
  buffer : P (.usbFreeCoherent u.buf size)
  urbPtr : P (.writeDev fun d => { d with urb := Function.update d.urb u none })
  bufPtr : P (.writeDev fun d => { d with buffer := Function.update d.buffer u.buf none })

lemma MayRelease.cleanup {P : Op → Prop} {u : UrbId} {size : ℕ} (h : MayRelease P u size) :
    All P (cleanup u size) := by
  simp [UsbV1.cleanup, readDev, usbKillUrb, usbFreeUrb, setUrbPtr, writeDev, usbFreeCoherent,
    setBufPtr, h.read, h.kill, h.urb, h.buffer, h.urbPtr, h.bufPtr]

lemma MayRelease.releasePair {P : Op → Prop} {u : UrbId} {size : ℕ} (h : MayRelease P u size) :
    All P (releasePair u size) := by
  simp [UsbV1.releasePair, readDev, usbKillUrb, usbFreeUrb, setUrbPtr, writeDev, usbFreeCoherent,
    setBufPtr, h.read, h.kill, h.urb, h.buffer, h.urbPtr, h.bufPtr]

lemma all_deallocate {P : Op → Prop} (hcbw : MayRelease P .cbw CBW_LEN)
    (hcsw : MayRelease P .csw CSW_LEN) (hdata : MayRelease P .data DATA_LEN) :
    All P deallocateUsbResource :=
  hcbw.releasePair.bind fun _ => hcsw.releasePair.bind fun _ => hdata.releasePair.bind fun _ =>
    trivial

/-- `usb_probe` never gives back the reference to the device. -/
lemma keeps_probeResources (host : ℕ) (epds : List UsbEndpointDescriptor) :
    All (· ≠ .usbPutDev) (probeResources host epds) := by
  have hmay (u : UrbId) (size : ℕ) : MayRelease (· ≠ .usbPutDev) u size := by
    constructor <;> simp
  have hcsw : All (· ≠ .usbPutDev) rCsw := (hmay .csw CSW_LEN).cleanup.bind fun _ => by simp
  have hsec : All (· ≠ .usbPutDev) rSec :=
    (hmay .sec CBW_LEN).cleanup.bind fun b => by cases b <;> simp [hcsw]
  have hcbw : All (· ≠ .usbPutDev) rCbw :=
    (hmay .cbw CBW_LEN).cleanup.bind fun b => by cases b <;> simp [hsec]
  have halloc : All (· ≠ .usbPutDev) allocateUsbResource := by
    simp [allocateUsbResource, allocUrb, allocBuffer, usbAllocUrb, setUrbPtr, writeDev,
      usbAllocCoherent, hcsw, hsec, hcbw]
  have hscsi (h : Option ℕ) : All (· ≠ .usbPutDev) (rScsi h) := by
    cases h with
    | none => simp [rScsi]
    | some h =>
      have hremove : All (· ≠ .usbPutDev) scsiRemoveHost := by simp [scsiRemoveHost]
      have hput : All (· ≠ .usbPutDev) (scsiHostPut (some h)) := by simp [scsiHostPut]
      exact hremove.bind fun _ => (all_deallocate (hmay _ _) (hmay _ _) (hmay _ _)).bind fun _ =>
        hput.bind fun _ => trivial
  refine halloc.bind fun rv => ?_
  simp [writeDev, readDev, scsiAddHost, hscsi]

/-- **A probe that gets a host and fails** still holds the `usb_device`. -/
theorem device_held (h : e.hostAlloc = true) (alt : Option (List UsbEndpointDescriptor)) :
    (s.ledger.next + 1, .usbDevice) ∈
      (run (killSem e own) (usbProbe alt) s).state.ledger.live := by
  have hkeep (o : Op) (t : State) (ho : o ≠ .usbPutDev)
      (ht : (s.ledger.next + 1, .usbDevice) ∈ t.ledger.live) :
      (s.ledger.next + 1, .usbDevice) ∈ (killSem e own o t).state.ledger.live := by
    refine mem_ledger_killSem ht fun hfree => ?_
    cases o <;> simp [Op.frees] at ho hfree
  have hstart : (s.ledger.next + 1, .usbDevice) ∈ s.hosted.ledger.live :=
    Ledger.mem_acquire.2 (.inl rfl)
  rw [run_usbProbe h]
  cases alt with
  | none => exact hstart
  | some epds =>
    exact (keeps_probeResources _ epds).run
      (I := fun t : State => (s.ledger.next + 1, Resource.usbDevice) ∈ t.ledger.live) hkeep hstart

end FailedProbe

/-! ## The second URB -/

/-- An URB with a number from `base` on is held to which no pointer but `sec_urb`
leads. -/
def State.SecHeld (s : State) (base : ℕ) : Prop :=
  ∃ n, base ≤ n ∧ (n, .urb) ∈ s.ledger.live ∧ ∀ u, u ≠ .sec → s.dev.urb u ≠ some n

/-- The operations that neither free `sec_urb` nor make another pointer lead to an
URB. -/
@[simp] def Op.SparesSec : Op → Prop
  | writeDev f => ∀ d u, (f d).urb u = d.urb u ∨ (f d).urb u = none
  | usbFreeUrb u => u ≠ .sec
  | scsiHostAlloc => False
  | _ => True

section Sec

variable {e : Env} {own : CmndId} {s : State} {base : ℕ}

lemma urbPtr_sem {o : Op} (ho : o.SparesSec) (u : UrbId) :
    (sem e own o s).state.dev.urb u = s.dev.urb u ∨ (sem e own o s).state.dev.urb u = none := by
  cases o <;> simp only [sem, Op.SparesSec] at ho ⊢
  case writeDev f => exact ho s.dev u
  case usbFreeUrb v => cases h : s.dev.urb v <;> exact .inl rfl
  case usbFreeCoherent b n => cases h : s.dev.buffer b <;> exact .inl rfl
  case usbPutDev => cases h : s.dev.udev <;> exact .inl rfl
  case scsiHostPut p => cases p <;> exact .inl rfl
  case usbAllocCoherent b n =>
    split
    · exact .inl rfl
    · cases b <;> exact .inl rfl
  all_goals repeat' split
  all_goals exact .inl rfl

lemma secHeld_killSem {o : Op} (ho : o.SparesSec) (h : s.SecHeld base) :
    (killSem e own o s).state.SecHeld base := by
  obtain ⟨n, hn, hmem, hptr⟩ := h
  refine ⟨n, hn, mem_ledger_killSem hmem fun hfree => ?_, fun u hu => ?_⟩
  · cases o <;> simp [Op.frees] at ho hfree
    exact hptr _ ho hfree
  · by_cases hkill : ∃ v, o = .usbKillUrb v
    · obtain ⟨v, rfl⟩ := hkill
      rw [(kill_same v).2.urb]
      exact hptr u hu
    · rw [killSem_of_ne e own (not_exists.1 hkill)]
      have hptr' : (sem e own o s).state.dev.urb u = s.dev.urb u ∨
          (sem e own o s).state.dev.urb u = none := urbPtr_sem ho u
      rcases hptr' with h | h
      · rw [h]
        exact hptr u hu
      · simp [h]

lemma secHeld_sem {o : Op} (ho : o.SparesSec) (h : s.SecHeld base) :
    (sem e own o s).state.SecHeld base := by
  by_cases hkill : ∃ v, o = .usbKillUrb v
  · obtain ⟨v, rfl⟩ := hkill
    exact h
  · rw [← killSem_of_ne e own (not_exists.1 hkill)]
    exact secHeld_killSem ho h

lemma spares_queueCommand (c : CmndId) : All Op.SparesSec (queueCommand c) := by
  refine all_queueCommand (fun o ho => ?_) fun o ho => ?_
  · cases ho <;> simp
  · cases ho <;> simp [Dev.storeCoherent, Dev.wrapHeader, Dev.wrapCdb]

lemma spares_usbDisconnect : All Op.SparesSec usbDisconnect := by
  have hmay {u : UrbId} (hu : u ≠ .sec) (size : ℕ) : MayRelease Op.SparesSec u size := by
    constructor <;> simp [hu]
    intro d v
    by_cases hv : v = u <;> simp [hv]
  have hdealloc {f : Int → Driver Unit} (hf : ∀ x, All Op.SparesSec (f x)) :
      All Op.SparesSec (deallocateUsbResource >>= f) :=
    (all_deallocate (hmay (by simp) _) (hmay (by simp) _) (hmay (by simp) _)).bind hf
  simp [usbDisconnect, hdealloc, usbGetIntfdata, scsiRemoveHost, usbSetIntfdata, writeDev, readDev,
    usbClearHalt, usbPutDev, scsiHostPut]

end Sec

/-- After a successful probe `sec_urb` is held. -/
lemma secHeld_of_usbProbe {e : Env} {own : CmndId} {s s' : State}
    {alt : Option (List UsbEndpointDescriptor)}
    (h : run (killSem e own) (usbProbe alt) s = .done 0 s') : s'.SecHeld s.ledger.next := by
  obtain ⟨epds, x, y, z, rfl⟩ := usbProbe_success h
  obtain ⟨hurb, -⟩ := setEndpoints_same epds (s.hosted.equipped x y z).dev
  refine ⟨s.ledger.next + 4, by omega, ?_, fun u hu => ?_⟩
  · simp [State.equipped, State.hosted]
  · simp only [State.modDev_dev, hurb]
    cases u <;> simp [State.equipped, State.hosted] at hu ⊢ <;> omega

/-- Every call of the driver leaves `sec_urb` held. -/
lemma secHeld_call {k k' : Config} {l : Call} {base : ℕ} (hs : Shape k.drv)
    (hsec : k.drv.SecHeld base) (h : session.next k l = some k') : k'.drv.SecHeld base := by
  have hframe {s : State} (hf : Frame k.drv s) : s.SecHeld base := by
    obtain ⟨n, hn, hmem, hptr⟩ := hsec
    exact ⟨n, hn, hf.ledger ▸ hmem, fun u hu => hf.dev.urb ▸ hptr u hu⟩
  cases l with
  | queueCommand c e =>
    obtain ⟨-, -, rfl⟩ := next_queueCommand h
    simpa using (spares_queueCommand c).run (I := fun s : State => s.SecHeld base)
      (fun _ _ ho => secHeld_sem ho) hsec
  | complete u st n received e =>
    obtain ⟨-, o, -, rfl⟩ := next_complete h
    simpa using hframe ((hs.frame_giveBack u st n received).trans frame_runCallback)
  | handler hd c e =>
    obtain ⟨-, -, rfl⟩ := next_handler h
    simpa using hframe (runHandler_keeps hs hd).1

/-! ## Where the balance is kept -/

/-- An interface that was never probed. -/
def Life.fresh (cmnd : CmndId → Cmnd) : Life :=
  ⟨⟨(State.start cmnd).blank .empty, [], [], [], false⟩, false, 0⟩

/-- An interface with one bulk endpoint in each direction. -/
def bulkInterface : Option (List UsbEndpointDescriptor) := some [⟨0x81, 2⟩, ⟨0x02, 2⟩]

/-- In every life of the interface `sec_urb` is held while the driver is bound. -/
lemma secHeld_bound {k : Life} (hk : lifecycle.Reachable k) (hb : k.bound = true) :
    k.conf.drv.SecHeld k.base := by
  induction hk with
  | init h => simp [h.1] at hb
  | @step k k' l hk _ h ih =>
    cases l with
    | probe found alt e =>
      obtain rfl := next_probe h
      cases hrun : run (killSem e 0) (usbProbe alt) (found.blank k.conf.drv.ledger.reopen) with
      | oops s => simp [hrun, Life.afterProbe] at hb
      | done rv s =>
        obtain rfl : rv = 0 := by simpa [hrun, Life.afterProbe] using hb
        have hsec := secHeld_of_usbProbe hrun
        exact hsec
    | call l =>
      obtain ⟨hb', c, hc, rfl⟩ := next_call h
      exact secHeld_call (shape_reach (session_of_bound hk hb')) (ih hb') hc
    | disconnect e =>
      obtain ⟨-, rfl⟩ := next_disconnect h
      simp at hb

/-- **When the balance is kept.** In every life of an interface, after a probe that
returned an error and after a disconnect, everything acquired since the probe has
been released exactly once and properly if and only if it was a probe whose
`scsi_host_alloc` failed. -/
theorem settled_iff_no_host {k k' : Life} {l : Event} (hk : lifecycle.Reachable k)
    (h : lifecycle.next k l = some k') (hend : k'.Ended l) :
    k'.Settled ↔ ∃ found alt e, l = .probe found alt e ∧ e.hostAlloc = false := by
  cases l with
  | probe found alt e =>
    obtain rfl := next_probe h
    set s := found.blank k.conf.drv.ledger.reopen
    cases hhost : e.hostAlloc with
    | false =>
      -- nothing was acquired
      have hsettled : Life.Settled (k.afterProbe (run (killSem e 0) (usbProbe alt) s)) := by
        rw [run_usbProbe_noHost hhost]
        exact Ledger.settled_reopen _
      exact ⟨fun _ => ⟨found, alt, e, rfl, hhost⟩, fun _ => hsettled⟩
    | true =>
      -- the reference to the device is still held
      have hheld : (s.ledger.next + 1, .usbDevice) ∈
          (run (killSem e 0) (usbProbe alt) s).state.ledger.live := device_held hhost alt
      refine iff_of_false ?_ fun ⟨_, _, _, heq, hno⟩ => ?_
      · cases hrun : run (killSem e 0) (usbProbe alt) s with
        | oops t => simp [hrun, Life.afterProbe, Life.Ended] at hend
        | done rv t =>
          rw [hrun] at hheld
          exact Ledger.not_settled_of_mem hheld (Nat.le_succ _)
      · injection heq with _ _ he
        simp [← he, hhost] at hno
  | call l => exact absurd hend id
  | disconnect e =>
    -- `sec_urb` is still held
    obtain ⟨hb, rfl⟩ := next_disconnect h
    have hsec : (run (killSem e 0) usbDisconnect k.conf.drv).state.SecHeld k.base :=
      spares_usbDisconnect.run (I := fun s : State => s.SecHeld k.base)
        (fun _ _ ho => secHeld_killSem ho) (secHeld_bound hk hb)
    refine iff_of_false ?_ fun ⟨_, _, _, heq, _⟩ => (by cases heq)
    obtain ⟨n, hn, hmem, -⟩ := hsec
    exact Ledger.not_settled_of_mem (p := (n, .urb)) (by simpa using hmem) hn

/-- A probe on that interface. -/
def probeWith (e : Env) : Event := .probe (.start readThenReady) bulkInterface e

theorem settled_iff_no_host_noHost : ∃ k k' : Life, ∃ l : Event, lifecycle.Reachable k ∧
    k'.Ended l ∧ (k'.Settled ↔ ∃ found alt e, l = .probe found alt e ∧ e.hostAlloc = false) := by
  have hk : lifecycle.Reachable (.fresh readThenReady) := .init ⟨rfl, rfl⟩
  have hend : ((lifecycle.next (.fresh readThenReady) (probeWith { hostAlloc := false })).get
      (by decide +kernel)).Ended (probeWith { hostAlloc := false }) := by decide +kernel
  exact ⟨_, _, _, hk, hend, settled_iff_no_host hk (Option.some_get _).symm hend⟩

/-- A probe and a READ(10) of eight bytes whose CBW completes. -/
def shortLife : List Event :=
  [probeWith {}, .call (.queueCommand 0 {}), .call (.complete .cbw 0 31 [] {})]

/-- **Resources that are kept**: after a disconnect `sec_urb` is still held and the
data buffer has been released in the wrong form, and after a probe that failed at
`scsi_add_host` the `usb_device` is still held. -/
theorem resources_kept :
    (∃ k k' : Life, ∃ l : Event, lifecycle.Reachable k ∧ lifecycle.next k l = some k' ∧
      k'.Ended l ∧ ¬ k'.Settled ∧ k'.conf.drv.ledger.wrong ≠ []) ∧
    ∃ k k' : Life, ∃ l : Event, lifecycle.Reachable k ∧ lifecycle.next k l = some k' ∧
      k'.Ended l ∧ ¬ k'.Settled := by
  have hfresh : lifecycle.Reachable (.fresh readThenReady) := .init ⟨rfl, rfl⟩
  have hk := System.reach_get shortLife hfresh (by decide +kernel) (by decide +kernel)
  refine ⟨⟨_, (lifecycle.next _ (.disconnect {})).get (by decide +kernel), .disconnect {}, hk,
      (Option.some_get _).symm, by decide +kernel, by decide +kernel, by decide +kernel⟩,
    ⟨_, (lifecycle.next _ (probeWith { addHost := -12 })).get (by decide +kernel), _, hfresh,
      (Option.some_get _).symm, by decide +kernel, by decide +kernel⟩⟩

end KernelDriverLab.UsbV1
