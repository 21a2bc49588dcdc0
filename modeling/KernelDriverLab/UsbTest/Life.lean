import KernelDriverLab.Lib.System
import KernelDriverLab.UsbTest.Accesses
import KernelDriverLab.Usb.Resources

/-!
# The life of an interface of `Test_usb_driver.c`

Probes and disconnects, the work item and the completion functions, one function after the
other.  The driver does not set `soft_unbind`, so the USB core gives every URB back before it
calls `usb_disconnect`.  Nothing keeps `usb_disconnect` from being called while the work item is
queued, because the driver does not cancel it; a life is `Timely` when that does not happen.

The functions are followed with `checked`: in a timely life they access nothing outside of what
is allocated, and what they leave on the ledger is what the pointers of the device say.
-/

namespace KernelDriverLab.UsbTest

open Lib Prog
open Usb (Pair Ptr Callback Dev Urb State Op Env Driver Resource Fill CBW_SIG CBW_LEN CSW_LEN
  ENODEV readDev setCbwTag setMyCbw setUrb setBuffer readCbw oops kfree usbKillUrb usbFreeUrb
  usbSubmitUrb usbFillBulkUrb usbClearHalt usbGetIntfdata usbSetIntfdata kfreeDev memcpyTo
  clearPair clearUrb clearBuffer allocKmalloc allocUrb setEndpoints scsiInquiry bulkPipe)
open UsbV1 (UsbEndpointDescriptor EINVAL ENOMEM CommandBlockWrapper)

/-- The pairs in the order in which they are allocated. -/
def pairs : List Pair := [.cbw, .csw, .read, .inquiry, .write]

lemma mem_pairs (p : Pair) : p ∈ pairs := by cases p <;> simp [pairs]

/-! ## The life of an interface -/

/-- An interface: the device, whether it is bound to the driver, and the ledger number from
which the latest probe acquired. -/
structure Life where
  drv : State
  bound : Bool
  base : ℕ

namespace Life

/-- What can happen to an interface. -/
inductive Event where
  | probe (altsetting : Option (List UsbEndpointDescriptor)) (e : Env)
  /-- The work item runs. -/
  | work (e : Env)
  /-- The URB of a pair is given back and its completion function runs. -/
  | complete (u : Pair) (status : Int) (received : List UInt8) (e : Env)
  | disconnect (e : Env)

/-- The device can have sent these bytes in the transfer of the URB. -/
def Receives (r : Urb) (received : List UInt8) : Prop :=
  received = [] ∨ r.pipe.dirIn = true ∧ received.length ≤ r.transferBufferLength

instance (r : Urb) (received : List UInt8) : Decidable (Receives r received) :=
  inferInstanceAs (Decidable (_ ∨ _))

/-- What runs with the event, and on what; `none` when the event cannot happen now. -/
def call (k : Life) : Event → Option (Driver Int × State)
  | .probe alt _ => if k.bound then none else some (usbProbe alt, { k.drv with fills := [] })
  | .work _ =>
      if k.drv.scheduled then
        some (initUsbProtocols >>= fun _ => pure 0, { k.drv with scheduled := false })
      else none
  | .complete u st received _ =>
      match (k.drv.urb u).complete with
      | some cb =>
          if k.bound ∧ k.drv.inflight u ∧ Receives (k.drv.urb u) received then
            some (body cb { k.drv.urb u with status := st } >>= fun _ => pure 0,
              k.drv.giveBack u st received)
          else none
      | none => none
  | .disconnect _ =>
      if k.bound ∧ ∀ u ∈ pairs, k.drv.inflight u = false then
        some (usbDisconnect >>= fun _ => pure 0, k.drv)
      else none

/-- The choices of the kernel in an event. -/
def Event.env : Event → Env
  | probe _ e | work e | complete _ _ _ e | disconnect e => e

/-- The interface after a function has returned. -/
def after (k : Life) (l : Event) (rv : Int) (s : State) : Life :=
  match l with
  | .probe _ _ => ⟨s, rv == 0, k.drv.ledger.next⟩
  | .work _ | .complete _ _ _ _ => { k with drv := s }
  | .disconnect _ => { k with drv := s, bound := false }

/-- One event; there is none after a function that faults. -/
def step (k : Life) (l : Event) : Option Life :=
  (k.call l).bind fun (p, s) =>
    match run (sem l.env) p s with
    | .done rv t => some (k.after l rv t)
    | .oops _ => none

/-- The number of the device structure that a function works on. -/
def device (k : Life) : Event → ℕ
  | .probe _ _ => k.drv.ledger.next
  | _ => k.base

/-- The work item has run when the device is disconnected. -/
def Timely (k : Life) : Event → Prop
  | .disconnect _ => k.drv.scheduled = false
  | _ => True

instance (k : Life) : (l : Event) → Decidable (Timely k l)
  | .disconnect _ => inferInstanceAs (Decidable (_ = false))
  | .probe _ _ | .work _ | .complete _ _ _ _ => inferInstanceAs (Decidable True)

/-- An interface that was never probed. -/
def fresh : Life := ⟨.blank, false, 0⟩

/-- What has been acquired since the latest probe began and is held. -/
def left (k : Life) : List Resource :=
  (k.drv.ledger.live.filter (k.base ≤ ·.1)).map Prod.snd

end Life

/-- The lives of an interface. -/
def lifecycle : System Life Life.Event where
  Init k := k = .fresh
  next := Life.step

/-! ## What the device holds -/

/-- What a probe acquires. -/
inductive Thing where
  | storage
  | udev
  | buffer (p : Pair)
  | urb (p : Pair)
deriving DecidableEq, Repr

/-- All of them, in the order of the probe. -/
def things : List Thing := .storage :: .udev :: pairs.flatMap fun p => [.buffer p, .urb p]

/-- What the pointers of the device structure with number `n` stand for. -/
def holdings (n : ℕ) (d : Dev) : Thing → Option (ℕ × Resource)
  | .storage => some (n, .storage)
  | .udev => d.udev.map (·, .usbDevice)
  | .buffer p => (d.buffer p).map (·, .kmalloc (size p))
  | .urb p => (d.urb p).map (·, .urb)

section Holdings

variable {n : ℕ} {d d' : Dev} {p : Pair} {x : Ptr}

/-- The other fields hold nothing. -/
lemma holdings_congr (hudev : d'.udev = d.udev) (hurb : d'.urb = d.urb)
    (hbuffer : d'.buffer = d.buffer) : holdings n d' = holdings n d := by
  funext t
  cases t <;> simp [holdings, hudev, hurb, hbuffer]

lemma account_congr {s t : State} {base : ℕ} (h : s.ledger.Account base (holdings n s.dev))
    (hledger : t.ledger = s.ledger) (hudev : t.dev.udev = s.dev.udev)
    (hurb : t.dev.urb = s.dev.urb) (hbuffer : t.dev.buffer = s.dev.buffer) :
    t.ledger.Account base (holdings n t.dev) := by
  rw [hledger, holdings_congr hudev hurb hbuffer]
  exact h

lemma holdings_update_urb : holdings n { d with urb := Function.update d.urb p x } =
    Function.update (holdings n d) (.urb p) (x.map (·, .urb)) := by
  funext t
  cases t with
  | urb q =>
    by_cases hq : q = p
    · subst hq
      simp [holdings]
    · simp [holdings, hq]
  | _ => simp [holdings]

lemma holdings_update_buffer : holdings n { d with buffer := Function.update d.buffer p x } =
    Function.update (holdings n d) (.buffer p) (x.map (·, .kmalloc (size p))) := by
  funext t
  cases t with
  | buffer q =>
    by_cases hq : q = p
    · subst hq
      simp [holdings]
    · simp [holdings, hq]
  | _ => simp [holdings]

end Holdings

/-! ## Releasing a pair -/

/-- Only the pointers and the ledger have changed: the device is `d`, and `held` is held. -/
structure Leads (base : ℕ) (held : Thing → Option (ℕ × Resource)) (d : Dev) (s t : State) :
    Prop where
  account : t.ledger.Account base held
  dev : t.dev = d
  urb : t.urb = s.urb
  buf : t.buf = s.buf
  inflight : t.inflight = s.inflight
  intfdata : t.intfdata = s.intfdata
  scheduled : t.scheduled = s.scheduled
  fills : t.fills = s.fills

section Release

variable {e : Env} {s t t' : State} {u f b : Pair} {n base : ℕ} {d d' : Dev}
  {held held' : Thing → Option (ℕ × Resource)}

lemma Leads.refl (h : s.ledger.Account base held) : Leads base held s.dev s s :=
  ⟨h, rfl, rfl, rfl, rfl, rfl, rfl, rfl⟩

lemma Leads.trans (h : Leads base held d s t) (h' : Leads base held' d' t t') :
    Leads base held' d' s t' where
  account := h'.account
  dev := h'.dev
  urb := h'.urb.trans h.urb
  buf := h'.buf.trans h.buf
  inflight := h'.inflight.trans h.inflight
  intfdata := h'.intfdata.trans h.intfdata
  scheduled := h'.scheduled.trans h.scheduled
  fills := h'.fills.trans h.fills

lemma run_clearUrb (h : s.ledger.Account base held) (hn : held .storage = some (n, .storage))
    (hu : held (.urb u) = (s.dev.urb u).map (·, .urb)) (hidle : s.inflight u = false) :
    ∃ t, run (checked n e) (clearUrb u f) s = .done () t ∧
      Leads base (Function.update held (.urb u) none)
        { s.dev with
          urb := Function.update s.dev.urb f
            (if s.dev.urb u = none then s.dev.urb f else none) } s t := by
  have hs : Has s n .storage := h.mem_live hn
  cases hnone : s.dev.urb u with
  | none =>
    rw [hnone, Option.map_none] at hu
    refine ⟨s, ?_, ?_⟩
    · simp [clearUrb, run_readDev hs, hnone]
    · rw [if_pos rfl, ← hu, Function.update_eq_self, Function.update_eq_self]
      exact .refl h
  | some i =>
    rw [hnone] at hu
    have hi : Has s i .urb := h.mem_live hu
    have hkill : run (checked n e) (usbKillUrb u) s = .done () s := by
      refine run_usbKillUrb hs (fun j hj => ?_) hidle
      obtain rfl : i = j := Option.some.inj (hnone.symm.trans hj)
      exact hi
    have hs₁ : Has (s.modLedger (·.release i .urb)) n .storage := (has_release (by simp)).2 hs
    refine ⟨(s.modLedger (·.release i .urb)).modDev fun d =>
      { d with urb := Function.update d.urb f none }, ?_, ?_⟩
    · simp only [clearUrb, run_bind, run_readDev hs, hnone, ne_eq, reduceCtorEq,
        not_false_eq_true, if_true, hkill, run_usbFreeUrb hs hnone hi, run_setUrb hs₁]
    · exact ⟨h.release hu, by simp, rfl, rfl, rfl, rfl, rfl, rfl⟩

lemma run_clearBuffer (h : s.ledger.Account base held) (hn : held .storage = some (n, .storage))
    (hb : held (.buffer b) = (s.dev.buffer b).map (·, .kmalloc (size b))) :
    ∃ t, run (checked n e) (clearBuffer b (kfree b)) s = .done () t ∧
      Leads base (Function.update held (.buffer b) none)
        { s.dev with buffer := Function.update s.dev.buffer b none } s t := by
  have hs : Has s n .storage := h.mem_live hn
  cases hnone : s.dev.buffer b with
  | none =>
    rw [hnone, Option.map_none] at hb
    refine ⟨s, ?_, ?_⟩
    · simp [clearBuffer, run_readDev hs, hnone]
    · rw [← hb, Function.update_eq_self, ← hnone, Function.update_eq_self]
      exact .refl h
  | some i =>
    rw [hnone] at hb
    have hs₁ : Has (s.modLedger (·.release i (.kmalloc (size b)))) n .storage :=
      (has_release (by simp)).2 hs
    refine ⟨(s.modLedger (·.release i (.kmalloc (size b)))).modDev fun d =>
      { d with buffer := Function.update d.buffer b none }, ?_, ?_⟩
    · simp only [clearBuffer, run_bind, run_readDev hs, hnone, ne_eq, reduceCtorEq,
        not_false_eq_true, if_true, run_kfree h hs hnone hb, run_setBuffer hs₁]
    · exact ⟨h.release hb, rfl, rfl, rfl, rfl, rfl, rfl, rfl⟩

/-- **A block** of the cleanups. -/
lemma run_clearPair (h : s.ledger.Account base held) (hn : held .storage = some (n, .storage))
    (hu : held (.urb u) = (s.dev.urb u).map (·, .urb))
    (hb : held (.buffer b) = (s.dev.buffer b).map (·, .kmalloc (size b)))
    (hpair : b = u ∨ s.dev.buffer b = none) (hidle : s.inflight u = false) :
    ∃ x t, run (checked n e) (clearPair u f b (kfree b)) s = .done x t ∧
      (x = false ↔ s.dev.urb u = none ∧ s.dev.buffer u = none) ∧
      Leads base (Function.update (Function.update held (.urb u) none) (.buffer b) none)
        { s.dev with
          urb := Function.update s.dev.urb f
            (if s.dev.urb u = none then s.dev.urb f else none)
          buffer := Function.update s.dev.buffer b none } s t := by
  have hs : Has s n .storage := h.mem_live hn
  by_cases hnone : s.dev.urb u = none ∧ s.dev.buffer u = none
  · obtain ⟨hurb, hbuffer⟩ := hnone
    have hnull : s.dev.buffer b = none := by
      rcases hpair with rfl | hnull
      · exact hbuffer
      · exact hnull
    rw [hurb, Option.map_none] at hu
    rw [hnull, Option.map_none] at hb
    have hu' : Function.update held (.urb u) none = held := by rw [← hu, Function.update_eq_self]
    have hb' : Function.update held (.buffer b) none = held := by
      rw [← hb, Function.update_eq_self]
    have hnull' : Function.update s.dev.buffer b none = s.dev.buffer := by
      rw [← hnull, Function.update_eq_self]
    refine ⟨false, s, ?_, by simp [hurb, hbuffer], ?_⟩
    · simp [clearPair, run_readDev hs, hurb, hbuffer]
    · rw [hu', hb', hnull', if_pos hurb, Function.update_eq_self]
      exact .refl h
  · obtain ⟨t, hrun, ht⟩ := run_clearUrb (e := e) (f := f) h hn hu hidle
    have hb' : Function.update held (.urb u) none (.buffer b) =
        (t.dev.buffer b).map (·, .kmalloc (size b)) := by
      rw [Function.update_of_ne (by simp), hb, ht.dev]
    obtain ⟨t', hrun', ht'⟩ := run_clearBuffer (e := e) ht.account (by simpa using hn) hb'
    refine ⟨true, t', ?_, by simp [hnone], ?_⟩
    · simp [clearPair, run_readDev hs, hnone, hrun, hrun']
    · rw [ht.dev] at ht'
      exact ht.trans ht'

/-- The device structure after the URB and the buffer of a pair have become NULL. -/
def dropped (d : Dev) (u : Pair) : Dev :=
  { d with urb := Function.update d.urb u none, buffer := Function.update d.buffer u none }

lemma holdings_dropped (n : ℕ) (d : Dev) (u : Pair) : holdings n (dropped d u) =
    Function.update (Function.update (holdings n d) (.urb u) none) (.buffer u) none := by
  have hurb := holdings_update_urb (n := n) (d := d) (p := u) (x := none)
  have hbuffer := holdings_update_buffer (n := n)
    (d := { d with urb := Function.update d.urb u none }) (p := u) (x := none)
  rw [Option.map_none] at hurb hbuffer
  rw [dropped, hbuffer, hurb]

/-- What follows a failed submission. -/
lemma run_dropPair {i j : ℕ} (h : s.ledger.Account base (holdings n s.dev))
    (hu : s.dev.urb u = some i) (hb : s.dev.buffer u = some j) (hidle : s.inflight u = false) :
    ∃ t, run (checked n e) (dropPair u) s = .done () t ∧
      Leads base (holdings n (dropped s.dev u)) (dropped s.dev u) s t := by
  have hs : Has s n .storage := h.mem_live (t := .storage) rfl
  have hi : Has s i .urb := h.mem_live (t := .urb u) (by simp [holdings, hu])
  set s₁ := s.modLedger (·.release i .urb) with hs₁
  have h₁ : s₁.ledger.Account base (Function.update (holdings n s.dev) (.urb u) none) :=
    h.release (by simp [holdings, hu])
  have hn₁ : Has s₁ n .storage := (has_release (by simp)).2 hs
  have hheld : Function.update (holdings n s.dev) (.urb u) none (.buffer u) =
      some (j, .kmalloc (size u)) := by
    simp [holdings, hb]
  set s₂ := s₁.modLedger (·.release j (.kmalloc (size u))) with hs₂
  have hn₂ : Has s₂ n .storage := (has_release (by simp)).2 hn₁
  set s₃ := s₂.modDev fun d => { d with buffer := Function.update d.buffer u none } with hs₃
  have hn₃ : Has s₃ n .storage := hn₂
  have hkill : run (checked n e) (usbKillUrb u) s = .done () s := by
    refine run_usbKillUrb hs (fun k hk => ?_) hidle
    obtain rfl : i = k := Option.some.inj (hu.symm.trans hk)
    exact hi
  refine ⟨s₃.modDev fun d => { d with urb := Function.update d.urb u none }, ?_, ?_⟩
  · simp only [dropPair, run_bind, hkill, run_usbFreeUrb hs hu hi, ← hs₁,
      run_kfree h₁ hn₁ hb hheld, ← hs₂, run_setBuffer hn₂, ← hs₃, run_setUrb hn₃]
  · rw [holdings_dropped]
    exact ⟨h₁.release hheld, rfl, rfl, rfl, rfl, rfl, rfl, rfl⟩

/-- What `usb_clear_buffer_and_urb` leaves. -/
def uncleared (n : ℕ) (d : Dev) : Thing → Option (ℕ × Resource)
  | .storage => some (n, .storage)
  | .udev => d.udev.map (·, .usbDevice)
  | .buffer .inquiry => (d.buffer .inquiry).map (·, .kmalloc 36)
  | _ => none

/-- **The cleanup** releases everything but the inquiry buffer. -/
lemma run_usbClearBufferAndUrb (h : s.ledger.Account base (holdings n s.dev))
    (hidle : ∀ u, s.inflight u = false) :
    ∃ t, run (checked n e) usbClearBufferAndUrb s = .done 0 t ∧
      t.ledger.Account base (uncleared n s.dev) ∧ t.dev.udev = s.dev.udev ∧
      t.inflight = s.inflight ∧ t.fills = s.fills ∧ t.scheduled = s.scheduled := by
  obtain ⟨x₁, s₁, h₁, -, hd₁⟩ := run_clearPair (n := n) (e := e) (u := .cbw) (f := .cbw)
    (b := .cbw) h rfl rfl rfl (.inl rfl) (hidle _)
  obtain ⟨x₂, s₂, h₂, -, hd₂⟩ := run_clearPair (n := n) (e := e) (u := .csw) (f := .csw) (b := .csw)
    hd₁.account (by simp [holdings]) (by simp [holdings, hd₁.dev]) (by simp [holdings, hd₁.dev])
    (.inl rfl) (by simp [hd₁.inflight, hidle])
  -- `csw_buffer` is NULL by now
  obtain ⟨x₃, s₃, h₃, -, hd₃⟩ := run_clearPair (n := n) (e := e) (u := .inquiry) (f := .csw)
    (b := .csw) hd₂.account (by simp [holdings]) (by simp [holdings, hd₁.dev, hd₂.dev])
    (by simp [hd₁.dev, hd₂.dev]) (.inr (by simp [hd₂.dev]))
    (by simp [hd₂.inflight, hd₁.inflight, hidle])
  obtain ⟨x₄, s₄, h₄, -, hd₄⟩ := run_clearPair (n := n) (e := e) (u := .read) (f := .read)
    (b := .read) hd₃.account (by simp [holdings]) (by simp [holdings, hd₁.dev, hd₂.dev, hd₃.dev])
    (by simp [holdings, hd₁.dev, hd₂.dev, hd₃.dev]) (.inl rfl)
    (by simp [hd₃.inflight, hd₂.inflight, hd₁.inflight, hidle])
  obtain ⟨x₅, s₅, h₅, -, hd₅⟩ := run_clearPair (n := n) (e := e) (u := .write) (f := .write)
    (b := .write) hd₄.account (by simp [holdings])
    (by simp [holdings, hd₁.dev, hd₂.dev, hd₃.dev, hd₄.dev])
    (by simp [holdings, hd₁.dev, hd₂.dev, hd₃.dev, hd₄.dev]) (.inl rfl)
    (by simp [hd₄.inflight, hd₃.inflight, hd₂.inflight, hd₁.inflight, hidle])
  refine ⟨s₅, ?_, ?_, ?_, ?_, ?_, ?_⟩
  · simp [usbClearBufferAndUrb, h₁, h₂, h₃, h₄, h₅]
  · convert hd₅.account using 1
    funext x
    cases x with
    | storage | udev => simp [uncleared, holdings]
    | buffer p => cases p <;> simp [uncleared, holdings, size]
    | urb p => cases p <;> simp [uncleared]
  · simp [hd₁.dev, hd₂.dev, hd₃.dev, hd₄.dev, hd₅.dev]
  · rw [hd₅.inflight, hd₄.inflight, hd₃.inflight, hd₂.inflight, hd₁.inflight]
  · rw [hd₅.fills, hd₄.fills, hd₃.fills, hd₂.fills, hd₁.fills]
  · rw [hd₅.scheduled, hd₄.scheduled, hd₃.scheduled, hd₂.scheduled, hd₁.scheduled]

/-- What is held when `usb_disconnect` has returned. -/
def lostAtDisconnect (d : Dev) : Thing → Option (ℕ × Resource)
  | .buffer .inquiry => (d.buffer .inquiry).map (·, .kmalloc 36)
  | _ => none

/-- **`usb_disconnect`**. -/
lemma run_usbDisconnect {m : ℕ} (h : s.ledger.Account base (holdings n s.dev))
    (hintf : s.intfdata = some n) (hudev : s.dev.udev = some m)
    (hidle : ∀ u, s.inflight u = false) :
    ∃ t, run (checked n e) usbDisconnect s = .done () t ∧
      t.ledger.Account base (lostAtDisconnect s.dev) ∧ t.inflight = s.inflight ∧
      t.fills = s.fills ∧ t.scheduled = s.scheduled := by
  set s₀ := s.modDev fun d => { d with cbwTag := 0 } with hs₀
  have hs : Has s n .storage := h.mem_live (t := .storage) rfl
  have h₀ : s₀.ledger.Account base (holdings n s₀.dev) := account_congr h rfl rfl rfl rfl
  obtain ⟨t, hrun, ht, hudev', hinflight, hfills, hscheduled⟩ :=
    run_usbClearBufferAndUrb (e := e) h₀ hidle
  have hm : t.dev.udev = some m := hudev'.trans hudev
  have hn : Has t n .storage := ht.mem_live (t := .storage) rfl
  have hudevice : Has t m .usbDevice :=
    ht.mem_live (t := .udev) (by simp [uncleared, hs₀, hudev])
  have hclear (dirIn : Bool) : run (checked n e) (usbClearHalt dirIn) t = .done () t :=
    run_usbClearHalt hn ⟨m, hm, hudevice⟩ dirIn
  set t₁ : State := { t with intfdata := none } with ht₁
  set t₂ := t₁.modLedger (·.release m .usbDevice) with ht₂
  have haccount : t₂.ledger.Account base (Function.update (uncleared n s₀.dev) .udev none) := by
    refine ht.release ?_
    simp [uncleared, hs₀, hudev]
  have hput : run (checked n e) (op (.usbPutDev t₁.dev.udev)) t₁ = .done () t₂ := by
    rw [run_checked (o := .usbPutDev t₁.dev.udev) fun k hk => by
      obtain rfl : m = k := Option.some.inj (hm.symm.trans hk)
      exact hudevice]
    simp [sem, Op.killsBusy, Usb.sem, ht₁, ht₂, hm, State.releasePtr]
  have hheld : Function.update (uncleared n s₀.dev) .udev none .storage = some (n, .storage) := by
    simp [uncleared]
  have hfind := haccount.find? hheld
  have hstorage : Has t₂ n .storage := haccount.mem_live hheld
  have hfree : run (checked n e) (kfreeDev (some n)) t₂ =
      .done () (t₂.modLedger (·.release n .storage)) := by
    rw [kfreeDev, run_checked (o := .kfreeDev (some n)) fun k hk => by
      obtain rfl : n = k := Option.some.inj hk
      exact ⟨_, hstorage, rfl⟩]
    simp [sem, Op.killsBusy, Usb.sem, State.kfree, hfind]
  have hget : run (checked n e) usbGetIntfdata s = .done (some n) s := by
    rw [usbGetIntfdata, run_checked (o := .usbGetIntfdata) trivial, ← hintf]
    rfl
  have hset : run (checked n e) (usbSetIntfdata none) t = .done () t₁ :=
    run_checked (o := .usbSetIntfdata none) trivial
  refine ⟨t₂.modLedger (·.release n .storage), ?_, ?_, hinflight, hfills, hscheduled⟩
  · simp only [usbDisconnect, run_bind, hget, run_setCbwTag hs, ← hs₀, hrun, ne_eq,
      not_true_eq_false, if_false, hclear, hset, run_readDev (s := t₁) hn, hput, hfree]
  · have hlost : Function.update (Function.update (uncleared n s₀.dev) .udev none) .storage none =
        lostAtDisconnect s.dev := by
      funext x
      cases x with
      | storage | udev | urb p => simp [lostAtDisconnect, uncleared]
      | buffer p => cases p <;> simp [lostAtDisconnect, uncleared, hs₀]
    rw [← hlost]
    exact haccount.release hheld

end Release

/-! ## usb_alloc_buffer_and_urb -/

/-- The pairs `us` are allocated and the others are not. -/
structure Built (n base : ℕ) (us : List Pair) (s : State) : Prop where
  account : s.ledger.Account base (holdings n s.dev)
  urb : ∀ p, p ∈ us ↔ s.dev.urb p ≠ none
  buffer : ∀ p, p ∈ us ↔ s.dev.buffer p ≠ none
  length : ∀ p ∈ us, (s.buf p).length = size p
  idle : ∀ p, s.inflight p = false
  udev : s.dev.udev ≠ none
  intfdata : s.intfdata = some n
  fills : s.fills = []
  scheduled : s.scheduled = false

/-- Both allocations of a pair succeed. -/
def grants (e : Env) (p : Pair) : Bool := e.kmalloc p && e.urb p

section Allocate

variable {e : Env} {s : State} {n base : ℕ} {us : List Pair} {p : Pair} {onUrb next : Driver Int}

lemma Built.urb_none (h : Built n base us s) (hp : p ∉ us) : s.dev.urb p = none := by
  by_contra hne
  exact hp ((h.urb p).2 hne)

lemma Built.buffer_none (h : Built n base us s) (hp : p ∉ us) : s.dev.buffer p = none := by
  by_contra hne
  exact hp ((h.buffer p).2 hne)

lemma Built.has (h : Built n base us s) : Has s n .storage :=
  h.account.mem_live (t := .storage) rfl

/-- A further buffer, for a pair that has nothing yet. -/
lemma Built.account_buffer (h : Built n base us s) (hp : p ∉ us) :
    (withBuffer s e p (size p)).ledger.Account base
      (holdings n (withBuffer s e p (size p)).dev) := by
  show (s.ledger.acquire (.kmalloc (size p))).Account base (holdings n { s.dev with
    buffer := Function.update s.dev.buffer p (some s.ledger.next) })
  rw [holdings_update_buffer]
  refine h.account.acquire ?_ _
  simp [holdings, h.buffer_none hp]

/-- The label of a pair whose URB is not allocated releases its buffer. -/
lemma Built.run_label (h : Built n base us s) (hp : p ∉ us) (f : Pair) (rest : Driver Int) :
    ∃ t, run (checked n e) (label p f rest) (withBuffer s e p (size p)) = .done (-EINVAL) t ∧
      Built n base us t := by
  have hurb := h.urb_none hp
  have hbuffer := h.buffer_none hp
  set s₁ := withBuffer s e p (size p) with hs₁
  have hnull : s₁.dev.urb p = none := hurb
  obtain ⟨x, t, hrun, hx, ht⟩ := run_clearPair (n := n) (e := e) (u := p) (f := f) (b := p)
    (h.account_buffer (e := e) hp) rfl rfl rfl (.inl rfl) (h.idle p)
  have hx : x = true := by
    rw [← Bool.not_eq_false, hx]
    simp [withBuffer]
  have hold : Function.update s₁.dev.buffer p none = s.dev.buffer := by
    rw [hs₁, withBuffer, State.modDev_dev]
    dsimp only
    rw [Function.update_idem, ← hbuffer]
    exact Function.update_eq_self ..
  have hdropped : dropped s₁.dev p = s.dev := by
    have hsame : Function.update s₁.dev.urb p none = s.dev.urb := by
      rw [← hurb]
      exact Function.update_eq_self ..
    rw [dropped, hsame, hold]
    rfl
  have hdev : t.dev = s.dev := by
    rw [ht.dev, if_pos hnull, Function.update_eq_self, hold]
    rfl
  have haccount := ht.account
  rw [← holdings_dropped, hdropped, ← hdev] at haccount
  have hlabel : run (checked n e) (label p f rest) s₁ = .done (-EINVAL) t := by
    rw [label, run_bind, hs₁, hrun, hx]
    rfl
  refine ⟨t, hlabel, haccount, ?_, ?_, fun q hq => ?_, ?_, ?_, ?_, ?_, ?_⟩
  · rw [hdev]
    exact h.urb
  · rw [hdev]
    exact h.buffer
  · have hne : q ≠ p := fun heq => hp (heq ▸ hq)
    rw [ht.buf, ← h.length q hq]
    exact congrArg _ (Function.update_of_ne hne _ _)
  · rw [ht.inflight]
    exact h.idle
  · rw [hdev]
    exact h.udev
  · rw [ht.intfdata]
    exact h.intfdata
  · rw [ht.fills]
    exact h.fills
  · rw [ht.scheduled]
    exact h.scheduled

/-- A pair is allocated. -/
lemma Built.cons (h : Built n base us s) (hp : p ∉ us) :
    Built n base (p :: us) (withUrb (withBuffer s e p (size p)) p) := by
  have hurb := h.urb_none hp
  set s₁ := withBuffer s e p (size p) with hs₁
  refine ⟨?_, fun q => ?_, fun q => ?_, fun q hq => ?_, fun q => ?_, h.udev, h.intfdata, h.fills,
    h.scheduled⟩
  · have hacquire := (h.account_buffer (e := e) hp).acquire (t := .urb p)
      (by simp [holdings, withBuffer, State.newBuffer, hurb]) .urb
    rwa [← Option.map_some (f := (·, Resource.urb)), ← holdings_update_urb] at hacquire
  · by_cases hq : q = p
    · simp [withUrb, hq]
    · simpa [withUrb, hq, hs₁, withBuffer, State.newBuffer] using h.urb q
  · by_cases hq : q = p
    · simp [withUrb, hq, hs₁, withBuffer]
    · simpa [withUrb, hq, hs₁, withBuffer, State.newBuffer] using h.buffer q
  · by_cases hqp : q = p
    · simp [withUrb, hqp, hs₁, withBuffer, State.newBuffer, Resource.size]
    · have hq := (List.mem_cons.1 hq).resolve_left hqp
      simpa [withUrb, hqp, hs₁, withBuffer, State.newBuffer] using h.length q hq
  · by_cases hq : q = p
    · simp [withUrb, hq]
    · simpa [withUrb, hq, hs₁, withBuffer, State.newBuffer] using h.idle q

/-- **One pair.** If `Post` holds whenever the function ends here with an error and nothing
more is allocated, and whenever it goes on with this pair allocated, then it holds. -/
lemma run_allocPair {Post : Outcome State Int → Prop} (h : Built n base us s) (hp : p ∉ us)
    {f : Pair} {rest : Driver Int} (hlabel : onUrb = label p f rest)
    (hfail : grants e p = false → ∀ t rv, rv ≠ 0 → Built n base us t → Post (.done rv t))
    (hnext : grants e p = true → ∀ t, Built n base (p :: us) t →
      Post (run (checked n e) next t)) :
    Post (run (checked n e) (allocPair p onUrb next) s) := by
  cases hk : e.kmalloc p with
  | false =>
    -- the buffer stays NULL
    have hsame : Function.update s.dev.buffer p none = s.dev.buffer := by
      rw [← h.buffer_none hp, Function.update_eq_self]
    have hrun : run (checked n e) (allocPair p onUrb next) s = .done (-ENOMEM) s := by
      simp [allocPair, run_allocKmalloc_none h.has hk, State.modDev, hsame]
    rw [hrun]
    exact hfail (by simp [grants, hk]) s _ (by decide) h
  | true =>
    have hs₁ : Has (withBuffer s e p (size p)) n .storage := has_withBuffer h.has
    cases hu : e.urb p with
    | false =>
      obtain ⟨t, hrun, ht⟩ := h.run_label (e := e) hp f rest
      have hsame : (withBuffer s e p (size p)).modDev
          (fun d => { d with urb := Function.update d.urb p none }) =
            withBuffer s e p (size p) := by
        have hnull : Function.update s.dev.urb p none = s.dev.urb := by
          rw [← h.urb_none hp, Function.update_eq_self]
        simp [withBuffer, State.modDev, State.newBuffer, State.setBuf, State.modLedger, hnull]
      have hrun' : run (checked n e) (allocPair p onUrb next) s = .done (-EINVAL) t := by
        simp [allocPair, run_allocKmalloc_some h.has hk, run_allocUrb_none hs₁ hu, hsame, hlabel,
          hrun]
      rw [hrun']
      exact hfail (by simp [grants, hu]) t _ (by decide) ht
    | true =>
      have hrun : run (checked n e) (allocPair p onUrb next) s =
          run (checked n e) next (withUrb (withBuffer s e p (size p)) p) := by
        simp [allocPair, run_allocKmalloc_some h.has hk, run_allocUrb_some hs₁ hu]
      rw [hrun]
      exact hnext (by simp [grants, hk, hu]) _ (h.cons hp)

/-- How an allocation ends: the pairs before the first that is not granted are allocated. -/
def AllocEnds (n base : ℕ) (e : Env) (o : Outcome State Int) : Prop :=
  ∃ rv t us, o = .done rv t ∧ Built n base us t ∧ (∀ p, p ∈ us ↔ p ∈ pairs.takeWhile (grants e)) ∧
    (rv = 0 ↔ ∀ p, p ∈ us)

/-- The allocation stops at the first pair that is not granted. -/
lemma allocEnds_of_failed (done : List Pair) {rest : List Pair} (hpairs : pairs = done ++ p :: rest)
    (hdone : ∀ q ∈ done, grants e q = true) (hus : us = done.reverse) (hp : p ∉ us)
    (hgrants : grants e p = false) {t : State} {rv : Int} (hrv : rv ≠ 0) (ht : Built n base us t) :
    AllocEnds n base e (.done rv t) := by
  refine ⟨rv, t, us, rfl, ht, fun q => ?_, iff_of_false hrv fun hall => hp (hall p)⟩
  rw [hus, List.mem_reverse, hpairs, List.takeWhile_append_of_pos hdone,
    List.takeWhile_cons_of_neg (by simp [hgrants]), List.append_nil]

lemma run_usbAllocBufferAndUrb (h : Built n base [] s) :
    AllocEnds n base e (run (checked n e) usbAllocBufferAndUrb s) := by
  unfold usbAllocBufferAndUrb
  refine run_allocPair h (by simp) rfl (fun hg t rv hrv ht => ?_) fun hcbw s h => ?_
  · exact allocEnds_of_failed [] rfl (by simp) rfl (by simp) hg hrv ht
  refine run_allocPair h (by simp) rfl (fun hg t rv hrv ht => ?_) fun hcsw s h => ?_
  · exact allocEnds_of_failed [.cbw] rfl (by simp [hcbw]) rfl (by simp) hg hrv ht
  refine run_allocPair h (by simp) rfl (fun hg t rv hrv ht => ?_) fun hread s h => ?_
  · exact allocEnds_of_failed [.cbw, .csw] rfl (by simp [hcbw, hcsw]) rfl (by simp) hg
      hrv ht
  refine run_allocPair h (by simp) rfl (fun hg t rv hrv ht => ?_) fun hinquiry s h => ?_
  · exact allocEnds_of_failed [.cbw, .csw, .read] rfl (by simp [hcbw, hcsw, hread])
      rfl (by simp) hg hrv ht
  refine run_allocPair h (by simp) rfl (fun hg t rv hrv ht => ?_) fun hwrite s h => ?_
  · exact allocEnds_of_failed [.cbw, .csw, .read, .inquiry] rfl
      (by simp [hcbw, hcsw, hread, hinquiry]) rfl (by simp) hg hrv ht
  refine ⟨0, s, _, rfl, h, fun p => ?_, iff_of_true rfl fun p => by cases p <;> simp⟩
  have hall : pairs.takeWhile (grants e) = pairs := by
    simp [pairs, hcbw, hcsw, hread, hinquiry, hwrite]
  rw [hall]
  exact iff_of_true (by cases p <;> simp) (mem_pairs p)

end Allocate

/-! ## usb_probe -/

section Probe

variable {e : Env} {s : State} {n base : ℕ} {us : List Pair}

lemma Built.setEndpoint (h : Built n base us s) (f : Dev → Dev)
    (hudev : ∀ d, (f d).udev = d.udev) (hurb : ∀ d, (f d).urb = d.urb)
    (hbuffer : ∀ d, (f d).buffer = d.buffer) : Built n base us (s.modDev f) := by
  refine ⟨account_congr h.account rfl (hudev _) (hurb _) (hbuffer _), ?_, ?_, h.length, h.idle,
    ?_, h.intfdata, h.fills, h.scheduled⟩
  · rw [State.modDev_dev, hurb]
    exact h.urb
  · rw [State.modDev_dev, hbuffer]
    exact h.buffer
  · rw [State.modDev_dev, hudev]
    exact h.udev

lemma run_setEndpoints (epds : List UsbEndpointDescriptor) (h : Built n base us s) :
    ∃ t, run (checked n e) (setEndpoints epds) s = .done () t ∧ Built n base us t := by
  induction epds generalizing s with
  | nil => exact ⟨s, rfl, h⟩
  | cons epd epds ih =>
    have hin {t : State} (ht : Built n base us t) (a : UInt8) : checked n e (.setBulkIn a) t =
        .done () (t.modDev fun d => { d with bulkInEndpointaddr := a }) := guarded_of ht.has
    have hout {t : State} (ht : Built n base us t) (a : UInt8) : checked n e (.setBulkOut a) t =
        .done () (t.modDev fun d => { d with bulkOutEndpointaddr := a }) := guarded_of ht.has
    have hbuilt (a : UInt8) :
        Built n base us (s.modDev fun d => { d with bulkInEndpointaddr := a }) :=
      h.setEndpoint _ (fun _ => rfl) (fun _ => rfl) fun _ => rfl
    have hbuilt' {t : State} (ht : Built n base us t) (a : UInt8) :
        Built n base us (t.modDev fun d => { d with bulkOutEndpointaddr := a }) :=
      ht.setEndpoint _ (fun _ => rfl) (fun _ => rfl) fun _ => rfl
    by_cases hbin : epd.isBulkIn <;> by_cases hbout : epd.isBulkOut
    · obtain ⟨t, hrun, ht⟩ := ih (hbuilt' (hbuilt epd.bEndpointAddress) epd.bEndpointAddress)
      refine ⟨t, ?_, ht⟩
      simpa [setEndpoints, hbin, hbout, run_act, hin h, hout (hbuilt _)] using hrun
    · obtain ⟨t, hrun, ht⟩ := ih (hbuilt epd.bEndpointAddress)
      exact ⟨t, by simpa [setEndpoints, hbin, hbout, run_act, hin h] using hrun, ht⟩
    · obtain ⟨t, hrun, ht⟩ := ih (hbuilt' h epd.bEndpointAddress)
      exact ⟨t, by simpa [setEndpoints, hbin, hbout, run_act, hout h] using hrun, ht⟩
    · obtain ⟨t, hrun, ht⟩ := ih h
      exact ⟨t, by simpa [setEndpoints, hbin, hbout] using hrun, ht⟩

/-- The pairs that a probe with a device structure leaves allocated. -/
def keptPairs (altsetting : Option (List UsbEndpointDescriptor)) (e : Env) : List Pair :=
  match altsetting with
  | none => []
  | some _ => pairs.takeWhile (grants e)

/-- How a probe ends once it has the device structure: when it returns 0, everything is
allocated and the work item is queued. -/
def ProbeEnds (n : ℕ) (altsetting : Option (List UsbEndpointDescriptor)) (e : Env)
    (o : Outcome State Int) : Prop :=
  ∃ rv t us, o = .done rv { t with scheduled := decide (rv = 0) } ∧ Built n n us t ∧
    (∀ p, p ∈ us ↔ p ∈ keptPairs altsetting e) ∧ (rv = 0 → ∀ p, p ∈ us)

lemma Built.probeEnds {alt : Option (List UsbEndpointDescriptor)} {rv : Int} (h : Built n n us s)
    (hus : ∀ p, p ∈ us ↔ p ∈ keptPairs alt e) (hrv : rv ≠ 0) :
    ProbeEnds n alt e (.done rv s) := by
  refine ⟨rv, s, us, ?_, h, hus, fun hzero => absurd hzero hrv⟩
  rw [decide_eq_false hrv, ← h.scheduled]

lemma run_probeResources (h : Built n n [] s) (epds : List UsbEndpointDescriptor) :
    ProbeEnds n (some epds) e (run (checked n e) (probeResources epds) s) := by
  obtain ⟨rv, t, us, hrun, ht, hus, hrv⟩ := run_usbAllocBufferAndUrb (e := e) h
  by_cases hzero : rv = 0
  · obtain ⟨t', hset, ht'⟩ := run_setEndpoints (e := e) epds ht
    by_cases hend : t'.dev.bulkInEndpointaddr = 0 ∧ t'.dev.bulkOutEndpointaddr = 0
    · have hreturns : run (checked n e) (probeResources epds) s = .done (-ENODEV) t' := by
        simp [probeResources, hrun, hzero, hset, run_readDev ht'.has, hend]
      rw [hreturns]
      exact ht'.probeEnds hus (by decide)
    · have hschedule : checked n e .scheduleWork t' = .done () { t' with scheduled := true } :=
        guarded_of ht'.has
      refine ⟨0, t', us, ?_, ht', hus, fun _ => hrv.1 hzero⟩
      simp [probeResources, hrun, hzero, hset, run_readDev ht'.has, hend, run_act, hschedule]
  · have hreturns : run (checked n e) (probeResources epds) s = .done (-EINVAL) t := by
      simp [probeResources, hrun, hzero]
    rw [hreturns]
    exact ht.probeEnds hus (by decide)

/-- The beginning of `usb_probe` on a device structure. -/
lemma run_usbProbe_storage (hz : e.kzalloc = true)
    (altsetting : Option (List UsbEndpointDescriptor)) :
    run (checked s.ledger.next e) (usbProbe altsetting) s = match altsetting with
      | none => .done (-EINVAL) s.withStorage
      | some epds => run (checked s.ledger.next e) (probeResources epds) s.withStorage := by
  set n := s.ledger.next with hn
  set s₁ := (s.modLedger (·.acquire .storage)).modDev fun _ => .zero with hs₁
  set s₂ := s₁.modLedger (·.acquire .usbDevice) with hs₂
  have hstorage : Has s₂ n .storage := List.mem_cons_of_mem _ List.mem_cons_self
  have hkzalloc : checked n e .kzalloc s = .done (some n) s₁ := by
    rw [checked, guarded_of (by exact trivial)]
    simp [sem, Op.killsBusy, Usb.sem, hz, hs₁, hn]
  have hget : checked n e .usbGetDev s₁ = .done (n + 1) s₂ := guarded_of trivial
  have hudev : checked n e (.setUdev (some (n + 1))) s₂ =
      .done () (s₂.modDev fun d => { d with udev := some (n + 1) }) := guarded_of hstorage
  have hset (x : State) : run (checked n e) (usbSetIntfdata (some n)) x =
      .done () { x with intfdata := some n } := run_checked (o := .usbSetIntfdata _) trivial
  cases altsetting <;>
    simp only [usbProbe, op_bind, run_act, hkzalloc, hget, hudev, run_bind, hset] <;> rfl

/-- **`usb_probe`**, on a ledger in order and with nothing in flight. -/
lemma run_usbProbe (hdistinct : (s.ledger.live.map Prod.fst).Nodup) (hwrong : s.ledger.wrong = [])
    (hidle : ∀ u, s.inflight u = false) (hfills : s.fills = []) (hqueue : s.scheduled = false)
    (altsetting : Option (List UsbEndpointDescriptor)) :
    if e.kzalloc then ProbeEnds s.ledger.next altsetting e
        (run (checked s.ledger.next e) (usbProbe altsetting) s)
    else run (checked s.ledger.next e) (usbProbe altsetting) s = .done (-ENOMEM) s := by
  cases hz : e.kzalloc with
  | false =>
    have hkzalloc : checked s.ledger.next e .kzalloc s = .done none s := by
      rw [checked, guarded_of (by exact trivial)]
      simp [sem, Op.killsBusy, Usb.sem, hz]
    simp [usbProbe, run_act, hkzalloc]
  | true =>
    rw [if_pos rfl, run_usbProbe_storage hz]
    have hempty : s.ledger.Account s.ledger.next (fun _ : Thing => none) :=
      .init hdistinct hwrong
    have hbuilt : Built s.ledger.next s.ledger.next [] s.withStorage := by
      refine ⟨?_, by simp [State.withStorage, Dev.zero], by simp [State.withStorage, Dev.zero],
        by simp, hidle, by simp [State.withStorage], rfl, hfills, hqueue⟩
      have hstorage := hempty.acquire (t := .storage) rfl .storage
      have hudev := hstorage.acquire (t := .udev) (by simp) .usbDevice
      have hheld : holdings s.ledger.next s.withStorage.dev = Function.update (Function.update
          (fun _ => none) Thing.storage (some (s.ledger.next, Resource.storage))) Thing.udev
          (some ((s.ledger.acquire .storage).next, Resource.usbDevice)) := by
        funext x
        cases x <;> simp [holdings, State.withStorage, Dev.zero]
      rw [hheld]
      exact hudev
    cases altsetting with
    | none => exact hbuilt.probeEnds (by simp [keptPairs]) (by decide)
    | some epds => exact run_probeResources hbuilt epds

end Probe

end KernelDriverLab.UsbTest
