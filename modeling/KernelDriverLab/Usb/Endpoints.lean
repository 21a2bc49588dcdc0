import KernelDriverLab.Usb.Attach
import KernelDriverLab.UsbV1.Attach
import Mathlib.Data.List.Induction

/-!
# The selection of the endpoints

Both drivers go through the endpoints of the interface, keep the address of the last
bulk-IN and of the last bulk-OUT endpoint, and then refuse the interface when both addresses
are 0, where a driver that needs both would refuse when one of them is.  So an interface with
only one of the two is taken, and the driver uses endpoint 0 in place of the other.
-/

namespace KernelDriverLab.Endpoints

open Lib Prog
open UsbV1 (UsbEndpointDescriptor)

/-! ## The last endpoint of a kind -/

/-- The address of the last endpoint of a kind. -/
def lastAddress (kind : UsbEndpointDescriptor → Bool) (epds : List UsbEndpointDescriptor) :
    Option UInt8 :=
  (epds.filter kind).getLast?.map UsbEndpointDescriptor.bEndpointAddress

/-- `if(kind(epd)) a = epd->bEndpointAddress`, in a loop over the endpoints. -/
def selectAddress (kind : UsbEndpointDescriptor → Bool) (epds : List UsbEndpointDescriptor)
    (a : UInt8) : UInt8 :=
  epds.foldl (fun a epd => if kind epd then epd.bEndpointAddress else a) a

section Last

variable {kind : UsbEndpointDescriptor → Bool} {epds : List UsbEndpointDescriptor}

lemma selectAddress_cons (epd : UsbEndpointDescriptor) (a : UInt8) :
    selectAddress kind (epd :: epds) a =
      selectAddress kind epds (if kind epd then epd.bEndpointAddress else a) := rfl

/-- The loop finds the last one. -/
lemma selectAddress_eq (a : UInt8) :
    selectAddress kind epds a = (lastAddress kind epds).getD a := by
  induction epds using List.reverseRecOn with
  | nil => rfl
  | append_singleton epds epd ih =>
    have hstep : selectAddress kind (epds ++ [epd]) a =
        if kind epd then epd.bEndpointAddress else selectAddress kind epds a := List.foldl_concat ..
    rw [hstep, ih, lastAddress, lastAddress, List.filter_append]
    by_cases h : kind epd <;> simp [h]

lemma lastAddress_ne_none : lastAddress kind epds ≠ none ↔ ∃ epd ∈ epds, kind epd = true := by
  simp [lastAddress]

/-- The last one is one of them. -/
lemma exists_of_lastAddress {a : UInt8} (h : lastAddress kind epds = some a) :
    ∃ epd ∈ epds, kind epd = true ∧ epd.bEndpointAddress = a := by
  obtain ⟨epd, hepd, rfl⟩ := Option.map_eq_some_iff.1 h
  obtain ⟨hmem, hkind⟩ := List.mem_filter.1 (List.mem_of_getLast? hepd)
  exact ⟨epd, hmem, hkind, rfl⟩

/-- The address of a bulk-IN endpoint has the direction bit. -/
lemma ne_zero_of_isBulkIn {epd : UsbEndpointDescriptor} (h : epd.isBulkIn = true) :
    epd.bEndpointAddress ≠ 0 := by
  intro hzero
  simp [UsbEndpointDescriptor.isBulkIn, hzero] at h

end Last

/-! ## What a probe should do -/

/-- The interface has an endpoint that sends in bulk to the host. -/
def HasBulkIn (epds : List UsbEndpointDescriptor) : Prop :=
  ∃ epd ∈ epds, epd.isBulkIn = true

/-- The interface has an endpoint that receives in bulk from the host. -/
def HasBulkOut (epds : List UsbEndpointDescriptor) : Prop :=
  ∃ epd ∈ epds, epd.isBulkOut = true

/-- A probe that returns `ret` with these addresses has taken an interface with both kinds of
endpoints, and no other, and keeps the last of each kind. -/
structure Selected (epds : List UsbEndpointDescriptor) (ret : Int) (bulkIn bulkOut : UInt8) :
    Prop where
  taken : ret = 0 ↔ HasBulkIn epds ∧ HasBulkOut epds
  last : ret = 0 → lastAddress (·.isBulkIn) epds = some bulkIn ∧
    lastAddress (·.isBulkOut) epds = some bulkOut

/-- Both kinds are there, or nothing that the drivers take for an endpoint: no bulk-IN, and
no bulk-OUT unless the last one has the address 0. -/
def BothOrNothing (epds : List UsbEndpointDescriptor) : Prop :=
  HasBulkIn epds ∧ HasBulkOut epds ∨
    ¬ HasBulkIn epds ∧
      (lastAddress (·.isBulkOut) epds = none ∨ lastAddress (·.isBulkOut) epds = some 0)

/-- The test of the drivers is right exactly then. -/
lemma selected_iff {epds : List UsbEndpointDescriptor} {ret : Int} {bulkIn bulkOut : UInt8}
    (hin : bulkIn = (lastAddress (·.isBulkIn) epds).getD 0)
    (hout : bulkOut = (lastAddress (·.isBulkOut) epds).getD 0)
    (hret : ret = 0 ↔ ¬ (bulkIn = 0 ∧ bulkOut = 0)) :
    Selected epds ret bulkIn bulkOut ↔ BothOrNothing epds := by
  have hhasIn : HasBulkIn epds ↔ lastAddress (·.isBulkIn) epds ≠ none := lastAddress_ne_none.symm
  have hhasOut : HasBulkOut epds ↔ lastAddress (·.isBulkOut) epds ≠ none :=
    lastAddress_ne_none.symm
  have hne (a : UInt8) (ha : lastAddress (·.isBulkIn) epds = some a) : a ≠ 0 := by
    obtain ⟨epd, -, hkind, rfl⟩ := exists_of_lastAddress ha
    exact ne_zero_of_isBulkIn hkind
  rw [BothOrNothing, hhasIn, hhasOut]
  constructor
  · rintro ⟨htaken, -⟩
    rw [hret, hhasIn, hhasOut] at htaken
    cases hi : lastAddress (·.isBulkIn) epds with
    | none =>
      refine .inr ⟨by simp, ?_⟩
      -- the interface is refused, so the other address is 0
      have hzero : bulkIn = 0 ∧ bulkOut = 0 := by
        by_contra hnot
        exact (htaken.1 hnot).1 hi
      cases ho : lastAddress (·.isBulkOut) epds with
      | none => exact .inl rfl
      | some a =>
        rw [ho, Option.getD_some] at hout
        rw [← hout, hzero.2]
        exact .inr rfl
    | some a =>
      have hin' : bulkIn ≠ 0 := by
        rw [hin, hi, Option.getD_some]
        exact hne a hi
      exact .inl ⟨by simp, (htaken.1 fun h => hin' h.1).2⟩
  · rintro (⟨hi, ho⟩ | ⟨hi, ho⟩)
    · obtain ⟨a, ha⟩ := Option.ne_none_iff_exists'.1 hi
      obtain ⟨b, hb⟩ := Option.ne_none_iff_exists'.1 ho
      rw [ha, Option.getD_some] at hin
      rw [hb, Option.getD_some] at hout
      have hzero : ret = 0 := hret.2 fun h => hne a ha (hin ▸ h.1)
      refine ⟨iff_of_true hzero ⟨hhasIn.2 hi, hhasOut.2 ho⟩, fun _ => ?_⟩
      rw [ha, hb, hin, hout]
      exact ⟨rfl, rfl⟩
    · have hzero : bulkIn = 0 ∧ bulkOut = 0 := by
        rw [not_not] at hi
        refine ⟨by rw [hin, hi, Option.getD_none], ?_⟩
        rcases ho with ho | ho <;> rw [hout, ho] <;> rfl
      have hnot : ret ≠ 0 := fun h => hret.1 h hzero
      exact ⟨iff_of_false hnot fun h => hi (hhasIn.1 h.1), fun h => absurd h hnot⟩

/-! ## usbv1.c -/

section UsbV1

open UsbV1 (UrbId BufId CmndId killSem)

variable {e : UsbV1.Env} {own : CmndId} {s : UsbV1.State} {epds : List UsbEndpointDescriptor}

/-- Every allocation of the probe succeeds, and so does `scsi_add_host`. -/
structure GrantsUsbV1 (e : UsbV1.Env) : Prop where
  hostAlloc : e.hostAlloc = true
  urb : ∀ u, e.urb u = true
  coherent : ∀ b, (e.coherent b).isSome = true
  addHost : e.addHost = 0

lemma run_allocateUsbResource (own : CmndId) (s : UsbV1.State) (he : GrantsUsbV1 e) :
    ∃ x y z, run (killSem e own) UsbV1.allocateUsbResource s = .done 0 (s.equipped x y z) := by
  obtain ⟨x, hx⟩ := Option.isSome_iff_exists.1 (he.coherent .cbw)
  obtain ⟨y, hy⟩ := Option.isSome_iff_exists.1 (he.coherent .sec)
  obtain ⟨z, hz⟩ := Option.isSome_iff_exists.1 (he.coherent .csw)
  refine ⟨x, y, z, ?_⟩
  simp [UsbV1.allocateUsbResource, UsbV1.run_allocUrb, UsbV1.run_allocBuffer, he.urb, hx, hy, hz,
    UsbV1.State.equipped]

lemma setEndpoints_addresses (epds : List UsbEndpointDescriptor) (d : UsbV1.Dev) :
    (d.setEndpoints epds).bulkInEndpointaddr =
        selectAddress (·.isBulkIn) epds d.bulkInEndpointaddr ∧
      (d.setEndpoints epds).bulkOutEndpointaddr =
        selectAddress (·.isBulkOut) epds d.bulkOutEndpointaddr := by
  induction epds generalizing d with
  | nil => exact ⟨rfl, rfl⟩
  | cons epd epds ih => exact ih _

/-- The probe gets as far as the test, which decides. -/
lemma selects_usbV1 (own : CmndId) (s : UsbV1.State) (epds : List UsbEndpointDescriptor)
    (he : GrantsUsbV1 e) :
    ∃ ret t, run (killSem e own) (UsbV1.usbProbe (some epds)) s = .done ret t ∧
      t.dev.bulkInEndpointaddr = (lastAddress (·.isBulkIn) epds).getD 0 ∧
      t.dev.bulkOutEndpointaddr = (lastAddress (·.isBulkOut) epds).getD 0 ∧
      (ret = 0 ↔ ¬ (t.dev.bulkInEndpointaddr = 0 ∧ t.dev.bulkOutEndpointaddr = 0)) := by
  obtain ⟨x, y, z, halloc⟩ := run_allocateUsbResource own s.hosted he
  set t := (s.hosted.equipped x y z).modDev (UsbV1.Dev.setEndpoints epds) with ht
  obtain ⟨hin, hout⟩ := setEndpoints_addresses epds (s.hosted.equipped x y z).dev
  rw [selectAddress_eq] at hin hout
  have hwrite : run (killSem e own) (UsbV1.writeDev (UsbV1.Dev.setEndpoints epds))
      (s.hosted.equipped x y z) = .done () t := rfl
  have hread : run (killSem e own) UsbV1.readDev t = .done t.dev t := rfl
  have hadd : run (killSem e own) UsbV1.scsiAddHost t = .done 0 t := by rw [← he.addHost]; rfl
  refine ⟨if t.dev.bulkInEndpointaddr = 0 ∧ t.dev.bulkOutEndpointaddr = 0 then -UsbV1.EINVAL else 0,
    t, ?_, hin, hout, ?_⟩
  · rw [UsbV1.run_usbProbe he.hostAlloc]
    simp only [UsbV1.probeResources, run_bind, halloc, hwrite, hread, hadd, ne_eq,
      not_true_eq_false, if_false, run_ite, pure_eq, run_ret]
    split_ifs <;> rfl
  · split_ifs with h
    · exact iff_of_false (by decide) (not_not.2 h)
    · exact iff_of_true rfl h

end UsbV1

/-! ## usb.c -/

section Usb

open Usb (Pair Ptr sem)

variable {e : Usb.Env} {s : Usb.State} {epds : List UsbEndpointDescriptor}

/-- Every allocation of the probe succeeds. -/
structure GrantsUsb (e : Usb.Env) : Prop where
  kzalloc : e.kzalloc = true
  urb : ∀ u, e.urb u = true
  coherent : ∀ b, (e.coherent b).isSome = true
  kmalloc : ∀ b, e.kmalloc b = true

/-- The device has got more URBs and buffers, and its endpoints are as they were. -/
def SameEndpoints (s t : Usb.State) : Prop :=
  t.dev.bulkInEndpointaddr = s.dev.bulkInEndpointaddr ∧
    t.dev.bulkOutEndpointaddr = s.dev.bulkOutEndpointaddr

/-- The rest of an allocation goes on after a step that succeeds. -/
lemma alloc_step {f : Bool → Usb.Driver Int} {p : Usb.Driver Bool} {t : Usb.State}
    (hp : run (sem e) p s = .done true t) (hst : SameEndpoints s t)
    (hf : ∃ t', run (sem e) (f true) t = .done 0 t' ∧ SameEndpoints t t') :
    ∃ t', run (sem e) (p >>= f) s = .done 0 t' ∧ SameEndpoints s t' := by
  obtain ⟨t', hrun, hin, hout⟩ := hf
  exact ⟨t', by rw [run_bind, hp]; exact hrun, hin.trans hst.1, hout.trans hst.2⟩

variable {f : Bool → Usb.Driver Int}

lemma alloc_urb (he : GrantsUsb e) (u : Pair)
    (hf : ∀ t, ∃ t', run (sem e) (f true) t = .done 0 t' ∧ SameEndpoints t t') :
    ∃ t', run (sem e) (Usb.allocUrb u >>= f) s = .done 0 t' ∧ SameEndpoints s t' := by
  refine alloc_step (t := s.withUrb u) ?_ ⟨rfl, rfl⟩ (hf _)
  simp [Usb.allocUrb, Usb.setUrb, op, run_act, sem, he.urb]
  rfl

lemma alloc_kmalloc (he : GrantsUsb e) (b : Pair) (size : ℕ)
    (hf : ∀ t, ∃ t', run (sem e) (f true) t = .done 0 t' ∧ SameEndpoints t t') :
    ∃ t', run (sem e) (Usb.allocKmalloc b size >>= f) s = .done 0 t' ∧ SameEndpoints s t' := by
  refine alloc_step (t := s.withBuffer b (.kmalloc size) s.dev.dma
    ((List.range size).map (e.found b))) ?_ ⟨rfl, rfl⟩ (hf _)
  simp [Usb.allocKmalloc, Usb.setBuffer, op, run_act, sem, he.kmalloc]
  rfl

lemma alloc_coherent (he : GrantsUsb e) (b : Pair) (size : ℕ)
    (hf : ∀ t, ∃ t', run (sem e) (f true) t = .done 0 t' ∧ SameEndpoints t t') :
    ∃ t', run (sem e) (Usb.allocCoherent b size >>= f) s = .done 0 t' ∧ SameEndpoints s t' := by
  obtain ⟨addr, haddr⟩ := Option.isSome_iff_exists.1 (he.coherent b)
  refine alloc_step (t := s.withBuffer b (.coherent size) (Function.update s.dev.dma b addr)
    ((List.range size).map (e.found b))) ?_ ⟨rfl, rfl⟩ (hf _)
  simp [Usb.allocCoherent, Usb.readDev, Usb.setBuffer, op, run_act, sem, haddr]
  rfl

/-- `usb_alloc_buffer_and_urb` succeeds. -/
lemma run_usbAllocBufferAndUrb (he : GrantsUsb e) :
    ∃ t, run (sem e) Usb.usbAllocBufferAndUrb s = .done 0 t ∧ SameEndpoints s t := by
  unfold Usb.usbAllocBufferAndUrb
  refine alloc_coherent he .cbw _ fun _ => alloc_urb he .cbw fun _ =>
    alloc_kmalloc he .csw _ fun _ => alloc_urb he .csw fun _ =>
    alloc_coherent he .read _ fun _ => alloc_urb he .read fun _ =>
    alloc_kmalloc he .inquiry _ fun _ => alloc_coherent he .inquiry _ fun _ =>
    alloc_urb he .inquiry fun _ => alloc_kmalloc he .write _ fun _ =>
    alloc_urb he .write fun t => ⟨t, rfl, rfl, rfl⟩

/-- The loop over the endpoints. -/
lemma run_setEndpoints (epds : List UsbEndpointDescriptor) (s : Usb.State) :
    ∃ t, run (sem e) (Usb.setEndpoints epds) s = .done () t ∧
      t.dev.bulkInEndpointaddr = selectAddress (·.isBulkIn) epds s.dev.bulkInEndpointaddr ∧
      t.dev.bulkOutEndpointaddr = selectAddress (·.isBulkOut) epds s.dev.bulkOutEndpointaddr := by
  induction epds generalizing s with
  | nil => exact ⟨s, rfl, rfl, rfl⟩
  | cons epd epds ih =>
    rw [selectAddress_cons, selectAddress_cons]
    obtain ⟨t, hrun, hin, hout⟩ := ih (s.modDev fun d => { d with
      bulkInEndpointaddr := if epd.isBulkIn then epd.bEndpointAddress else d.bulkInEndpointaddr
      bulkOutEndpointaddr :=
        if epd.isBulkOut then epd.bEndpointAddress else d.bulkOutEndpointaddr })
    refine ⟨t, ?_, hin, hout⟩
    rw [← hrun]
    by_cases hi : epd.isBulkIn <;> by_cases ho : epd.isBulkOut <;>
      simp [Usb.setEndpoints, hi, ho, op, run_act, sem, Usb.State.modDev]

/-- The probe gets as far as the test, which decides. -/
lemma selects_usb (s : Usb.State) (epds : List UsbEndpointDescriptor) (he : GrantsUsb e) :
    ∃ ret t, run (sem e) (Usb.usbProbe (some epds)) s = .done ret t ∧
      t.dev.bulkInEndpointaddr = (lastAddress (·.isBulkIn) epds).getD 0 ∧
      t.dev.bulkOutEndpointaddr = (lastAddress (·.isBulkOut) epds).getD 0 ∧
      (ret = 0 ↔ ¬ (t.dev.bulkInEndpointaddr = 0 ∧ t.dev.bulkOutEndpointaddr = 0)) := by
  -- the device after `kzalloc`, `usb_get_dev` and `usb_set_intfdata`
  let l := s.ledger.acquire .storage
  let s₁ : Usb.State := { s with
    dev := { Usb.Dev.zero with udev := some l.next }
    ledger := l.acquire .usbDevice
    intfdata := some s.ledger.next }
  have hprobe : run (sem e) (Usb.usbProbe (some epds)) s =
      run (sem e) (Usb.probeResources epds) s₁ := by
    simp only [Usb.usbProbe, Usb.usbSetIntfdata, op_bind, run_act, sem, he.kzalloc, if_true]
    rfl
  obtain ⟨t₁, halloc, hin₁, hout₁⟩ := run_usbAllocBufferAndUrb (s := s₁) he
  obtain ⟨t, hset, hin, hout⟩ := run_setEndpoints (e := e) epds t₁
  rw [selectAddress_eq, hin₁] at hin
  rw [selectAddress_eq, hout₁] at hout
  have hread : run (sem e) Usb.readDev t = .done t.dev t := rfl
  rw [hprobe, Usb.probeResources]
  by_cases h : t.dev.bulkInEndpointaddr = 0 ∧ t.dev.bulkOutEndpointaddr = 0
  · refine ⟨-Usb.ENODEV, t, ?_, hin, hout, iff_of_false (by decide) (not_not.2 h)⟩
    simp [halloc, hset, hread, h]
  · refine ⟨0, { t with scheduled := true }, ?_, hin, hout, iff_of_true rfl h⟩
    simp [halloc, hset, hread, h, op, run_act, sem]

end Usb

/-- **When the probes select right.** With every allocation and registration successful, each
of the two probes takes exactly the interfaces with both kinds of endpoints, and keeps the
last of each, if and only if the interface has both or nothing. -/
theorem selected_iff_bothOrNothing (epds : List UsbEndpointDescriptor) :
    (∀ (e : UsbV1.Env) (own : UsbV1.CmndId) (s : UsbV1.State), GrantsUsbV1 e →
      ∃ ret t, run (UsbV1.killSem e own) (UsbV1.usbProbe (some epds)) s = .done ret t ∧
        (Selected epds ret t.dev.bulkInEndpointaddr t.dev.bulkOutEndpointaddr ↔
          BothOrNothing epds)) ∧
    ∀ (e : Usb.Env) (s : Usb.State), GrantsUsb e →
      ∃ ret t, run (Usb.sem e) (Usb.usbProbe (some epds)) s = .done ret t ∧
        (Selected epds ret t.dev.bulkInEndpointaddr t.dev.bulkOutEndpointaddr ↔
          BothOrNothing epds) := by
  constructor
  · intro e own s he
    obtain ⟨ret, t, hrun, hin, hout, hret⟩ := selects_usbV1 own s epds he
    exact ⟨ret, t, hrun, selected_iff hin hout hret⟩
  · intro e s he
    obtain ⟨ret, t, hrun, hin, hout, hret⟩ := selects_usb s epds he
    exact ⟨ret, t, hrun, selected_iff hin hout hret⟩

theorem selected_iff_bothOrNothing_both :
    (∃ ret t, run (UsbV1.killSem {} 0) (UsbV1.usbProbe (some [⟨0x81, 2⟩, ⟨0x02, 2⟩]))
        (UsbV1.State.start UsbV1.readThenReady) = .done ret t ∧
      Selected [⟨0x81, 2⟩, ⟨0x02, 2⟩] ret t.dev.bulkInEndpointaddr t.dev.bulkOutEndpointaddr) ∧
    ∃ ret t, run (Usb.sem {}) (Usb.usbProbe (some [⟨0x81, 2⟩, ⟨0x02, 2⟩])) .blank =
        .done ret t ∧
      Selected [⟨0x81, 2⟩, ⟨0x02, 2⟩] ret t.dev.bulkInEndpointaddr t.dev.bulkOutEndpointaddr := by
  have hboth : BothOrNothing [⟨0x81, 2⟩, ⟨0x02, 2⟩] :=
    .inl ⟨⟨⟨0x81, 2⟩, by decide, by decide⟩, ⟨⟨0x02, 2⟩, by decide, by decide⟩⟩
  obtain ⟨h₁, h₂⟩ := selected_iff_bothOrNothing [⟨0x81, 2⟩, ⟨0x02, 2⟩]
  obtain ⟨ret, t, hrun, hiff⟩ := h₁ {} 0 (.start UsbV1.readThenReady)
    ⟨rfl, fun _ => rfl, fun _ => rfl, rfl⟩
  obtain ⟨ret', t', hrun', hiff'⟩ := h₂ {} .blank ⟨rfl, fun _ => rfl, fun _ => rfl, fun _ => rfl⟩
  exact ⟨⟨ret, t, hrun, hiff.2 hboth⟩, ⟨ret', t', hrun', hiff'.2 hboth⟩⟩

/-- **One kind is enough.** Both probes take an interface whose only endpoint is the bulk-IN
endpoint 0x81, with 0 as the address of the bulk-OUT endpoint. -/
theorem taken_without_bulkOut :
    (∃ t, run (UsbV1.killSem {} 0) (UsbV1.usbProbe (some [⟨0x81, 2⟩]))
        (.start UsbV1.readThenReady) = .done 0 t ∧ t.dev.bulkOutEndpointaddr = 0) ∧
      (∃ t, run (Usb.sem {}) (Usb.usbProbe (some [⟨0x81, 2⟩])) .blank = .done 0 t ∧
        t.dev.bulkOutEndpointaddr = 0) ∧
      ¬ HasBulkOut [⟨0x81, 2⟩] := by
  refine ⟨⟨_, rfl, rfl⟩, ⟨_, rfl, rfl⟩, ?_⟩
  rintro ⟨epd, hmem, hout⟩
  obtain rfl := List.mem_singleton.1 hmem
  exact absurd hout (by decide)

end KernelDriverLab.Endpoints
