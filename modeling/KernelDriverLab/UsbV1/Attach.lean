import KernelDriverLab.UsbV1.Probe
import KernelDriverLab.UsbV1.Runs

/-!
# What a successful probe leaves

`usb_probe` returns 0 only when every allocation has succeeded, and then the
device is as `Probed` says: the sessions of the other modules begin where the
probe ends.
-/

namespace KernelDriverLab.UsbV1

open Lib Prog

namespace State

/-- The device after `dev->u` has been set to a new URB. -/
@[simps -fullyApplied]
def withUrb (s : State) (u : UrbId) : State :=
  { s with
    dev := { s.dev with urb := Function.update s.dev.urb u (some s.ledger.next) }
    urb := Function.update s.urb u .zero
    ledger := s.ledger.acquire .urb }

/-- The device after `dev->b` has been set to a new coherent buffer, which is not
the data buffer. -/
@[simps -fullyApplied]
def withBuffer (s : State) (b : BufId) (size : ℕ) (r : ℕ × (ℕ → UInt8)) : State :=
  { s with
    dev :=
      { s.dev with
        buffer := Function.update s.dev.buffer b (some s.ledger.next)
        dma := Function.update s.dev.dma b r.1 }
    buf := Function.update s.buf b ((List.range size).map r.2)
    ledger := s.ledger.acquire (.coherent size) }

/-- The device after `allocate_usb_resource` has succeeded with these buffers. -/
def equipped (s : State) (x y z : ℕ × (ℕ → UInt8)) : State :=
  ((((((s.withUrb .cbw).withBuffer .cbw CBW_LEN x).withUrb .sec).withBuffer .sec CBW_LEN
    y).withUrb .csw).withBuffer .csw CSW_LEN z).withUrb .data

end State

section Allocate

variable {e : Env} {own : CmndId} {s s' : State}

lemma run_usbAllocUrb (u : UrbId) : run (sem e own) (usbAllocUrb u) s =
    if e.urb u then
      .done (some s.ledger.next) ((s.modLedger (·.acquire .urb)).modUrb u fun _ => .zero)
    else .done none s := run_op _ _

lemma run_allocUrb (u : UrbId) : run (killSem e own) (allocUrb u) s =
    if e.urb u then .done true (s.withUrb u)
    else .done false (s.modDev fun d => { d with urb := Function.update d.urb u none }) := by
  rw [run_killSem e own (by simp [allocUrb, usbAllocUrb, setUrbPtr, writeDev])]
  by_cases h : e.urb u
  · simp [allocUrb, setUrbPtr, run_usbAllocUrb, h]
    rfl
  · simp [allocUrb, setUrbPtr, run_usbAllocUrb, h]

lemma run_allocBuffer {b : BufId} (hb : b ≠ .data) (size : ℕ) :
    run (killSem e own) (allocBuffer b size) s = match e.coherent b with
      | none => .done false (s.modDev (Dev.storeCoherent b none))
      | some r => .done true (s.withBuffer b size r) := by
  rw [run_killSem e own (by simp [allocBuffer, usbAllocCoherent, writeDev])]
  rcases h : e.coherent b with - | ⟨addr, found⟩
  · simp [allocBuffer, run_usbAllocCoherent_none e own s h]
  · have hset : s.allocCoherent b size addr found =
        (s.modLedger (·.acquire (.coherent size))).setBuf b ((List.range size).map found) := by
      cases b <;> first | rfl | exact absurd rfl hb
    simp [allocBuffer, run_usbAllocCoherent_some e own s h, hset]
    rfl

lemma ends_rCsw : Ends (· ≠ 0) rCsw := ends_bind _ fun _ => by simp

lemma ends_rSec : Ends (· ≠ 0) rSec := by
  refine ends_bind _ fun b => ?_
  cases b
  · exact ends_rCsw
  · simp

lemma ends_rCbw : Ends (· ≠ 0) rCbw := by
  refine ends_bind _ fun b => ?_
  cases b
  · exact ends_rSec
  · simp

/-- When the failure of an allocation leads to an error, success means that the
URB was allocated. -/
lemma allocUrb_success {u : UrbId} {f : Bool → Driver Int} (hf : Ends (· ≠ 0) (f false))
    (h : run (killSem e own) (allocUrb u >>= f) s = .done 0 s') :
    run (killSem e own) (f true) (s.withUrb u) = .done 0 s' := by
  rw [run_bind, run_allocUrb] at h
  by_cases hu : e.urb u
  · simpa [hu] using h
  · simp only [hu] at h
    exact absurd rfl (hf.run h)

lemma allocBuffer_success {b : BufId} (hb : b ≠ .data) {size : ℕ} {f : Bool → Driver Int}
    (hf : Ends (· ≠ 0) (f false))
    (h : run (killSem e own) (allocBuffer b size >>= f) s = .done 0 s') :
    ∃ r, run (killSem e own) (f true) (s.withBuffer b size r) = .done 0 s' := by
  rw [run_bind, run_allocBuffer hb] at h
  cases hr : e.coherent b with
  | none =>
    simp only [hr] at h
    exact absurd rfl (hf.run h)
  | some r => exact ⟨r, by simpa only [hr] using h⟩

/-- `allocate_usb_resource` returns 0 only when every allocation has succeeded. -/
theorem allocateUsbResource_success
    (h : run (killSem e own) allocateUsbResource s = .done 0 s') :
    ∃ x y z, s' = s.equipped x y z := by
  unfold allocateUsbResource at h
  have hcbw := allocUrb_success (by simp [ENOMEM]) h
  obtain ⟨x, hx⟩ := allocBuffer_success (by decide) (by simpa using ends_rCbw) hcbw
  have hsec := allocUrb_success (by simp [ENOMEM]) hx
  obtain ⟨y, hy⟩ := allocBuffer_success (by decide) (by simpa using ends_rSec) hsec
  have hcsw := allocUrb_success (by simp [ENOMEM]) hy
  obtain ⟨z, hz⟩ := allocBuffer_success (by decide) (by simpa using ends_rCsw) hcsw
  have hdata := allocUrb_success (by simp [ENOMEM]) hz
  exact ⟨x, y, z, by simpa [State.equipped] using hdata.symm⟩

end Allocate

/-! ## usb_probe -/

namespace State

/-- A device that nothing has been done with, in the memory of `s`. -/
def blank (s : State) (l : Ledger Resource) : State :=
  { s with
    dmaMem := s.fresh
    inflight := fun _ => none
    done := []
    clash := []
    ledger := l
    host := none }

/-- The device when `usb_probe` begins to allocate. -/
def hosted (s : State) : State :=
  let l := s.ledger.acquire .scsiHost
  { s with
    dev := { Dev.zero with udev := some l.next, cbwTag := 1 }
    activeScmd := none
    ledger := l.acquire .usbDevice
    host := some s.ledger.next }

end State

section Probe

variable {e : Env} {own : CmndId} {s s' : State}

lemma run_usbProbe_noHost (h : e.hostAlloc = false) (alt : Option (List UsbEndpointDescriptor)) :
    run (killSem e own) (usbProbe alt) s = .done (-1) s := by
  have halloc : killSem e own .scsiHostAlloc s = .done none s := by simp [killSem, sem, h]
  simp [usbProbe, scsiHostAlloc, run_act_done halloc, rScsi]

lemma run_usbProbe (h : e.hostAlloc = true) (alt : Option (List UsbEndpointDescriptor)) :
    run (killSem e own) (usbProbe alt) s = run (killSem e own)
      (match alt with
        | none => ret (-EINVAL)
        | some epds => probeResources s.ledger.next epds) s.hosted := by
  have halloc : killSem e own .scsiHostAlloc s = .done (some s.ledger.next)
      (((s.modLedger (·.acquire .scsiHost)).modDev fun _ => .zero).setActive none) := by
    simp [killSem, sem, h]
  simp only [usbProbe, scsiHostAlloc, op_bind]
  rw [run_act_done halloc]
  cases alt <;> rfl

lemma ends_rScsi (host : Option ℕ) : Ends (· ≠ 0) (rScsi host) := by
  cases host with
  | none => simp [rScsi]
  | some h =>
    exact ends_bind scsiRemoveHost fun _ => ends_bind deallocateUsbResource fun _ =>
      ends_bind (scsiHostPut (some h)) fun _ => by simp

lemma probeResources_success {host : ℕ} {epds : List UsbEndpointDescriptor}
    (h : run (killSem e own) (probeResources host epds) s = .done 0 s') :
    ∃ x y z, s' = (s.equipped x y z).modDev (Dev.setEndpoints epds) := by
  rw [probeResources, run_bind] at h
  cases halloc : run (killSem e own) allocateUsbResource s with
  | oops t => simp [halloc] at h
  | done rv t =>
    simp only [halloc] at h
    by_cases hrv : rv = 0
    · subst hrv
      obtain ⟨x, y, z, rfl⟩ := allocateUsbResource_success halloc
      refine ⟨x, y, z, ?_⟩
      set t := s.equipped x y z
      have hwrite : run (killSem e own) (writeDev (Dev.setEndpoints epds)) t =
          .done () (t.modDev (Dev.setEndpoints epds)) := rfl
      have hread (t : State) : run (killSem e own) readDev t = .done t.dev t := rfl
      have hadd (t : State) : run (killSem e own) scsiAddHost t = .done e.addHost t := rfl
      simp only [run_bind, hwrite, hread, hadd, ne_eq, not_true_eq_false, run_ite, if_false] at h
      split_ifs at h
      · simp [EINVAL] at h
      · simpa using h.symm
      · exact absurd rfl ((ends_rScsi _).run h)
    · simp [hrv, ENOMEM] at h

/-- **A successful probe** has allocated everything and read the endpoints. -/
theorem usbProbe_success {alt : Option (List UsbEndpointDescriptor)}
    (h : run (killSem e own) (usbProbe alt) s = .done 0 s') :
    ∃ epds x y z, s' = (s.hosted.equipped x y z).modDev (Dev.setEndpoints epds) := by
  cases hhost : e.hostAlloc with
  | false => simp [run_usbProbe_noHost hhost] at h
  | true =>
    rw [run_usbProbe hhost] at h
    cases alt with
    | none => simp [EINVAL] at h
    | some epds => exact ⟨epds, probeResources_success h⟩

lemma setEndpoints_same (epds : List UsbEndpointDescriptor) (d : Dev) :
    (d.setEndpoints epds).urb = d.urb ∧ (d.setEndpoints epds).buffer = d.buffer ∧
      (d.setEndpoints epds).count = d.count ∧ (d.setEndpoints epds).cbwTag = d.cbwTag := by
  induction epds generalizing d with
  | nil => exact ⟨rfl, rfl, rfl, rfl⟩
  | cons epd epds ih => exact ih _

/-- **The probe opens a session**: a successful probe leaves the state in which the
sessions begin. -/
theorem probed_of_usbProbe {alt : Option (List UsbEndpointDescriptor)} {found : State}
    {l : Ledger Resource}
    (h : run (killSem e own) (usbProbe alt) (found.blank l) = .done 0 s') : Probed s' := by
  obtain ⟨epds, x, y, z, rfl⟩ := usbProbe_success h
  obtain ⟨hurb, hbuffer, hcount, htag⟩ :=
    setEndpoints_same epds ((found.blank l).hosted.equipped x y z).dev
  constructor
  case urb_ptr =>
    intro u
    simp only [State.modDev_dev, hurb]
    cases u <;> simp [State.equipped]
  case buf_ptr =>
    intro b hb
    simp only [State.modDev_dev, hbuffer]
    cases b <;> simp [State.equipped] at hb ⊢
  case data_ptr =>
    simp only [State.modDev_dev, hbuffer]
    simp [State.equipped, State.hosted, Dev.zero]
  case urb =>
    intro u
    cases u <;> simp [State.equipped]
  case count => exact hcount.trans rfl
  case tag => exact htag.trans rfl
  all_goals first | rfl | exact fun _ => rfl

end Probe

end KernelDriverLab.UsbV1
