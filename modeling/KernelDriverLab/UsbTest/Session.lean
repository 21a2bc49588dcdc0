import KernelDriverLab.UsbTest.Life

/-!
# The one command of `Test_usb_driver.c`

Between a probe and the disconnect the work item sends INQUIRY, `cbw_callback` receives the
data and `data_callback` the status.  `Phase` says how far the command is, and `Session` what
holds of the device then.
-/

namespace KernelDriverLab.UsbTest

open Lib Prog
open Usb (Pair Ptr Callback Dev Urb State Op Env Driver Resource Fill CBW_SIG CBW_LEN CSW_LEN
  readDev setCbwTag setMyCbw readBuf readCbw readCsw usbSubmitUrb usbFillBulkUrb usbClearHalt
  memcpyTo scsiInquiry bulkPipe)
open UsbV1 (UsbEndpointDescriptor CommandBlockWrapper)

/-- Where the command is: the work item is queued, the wrapper, the data or the status is in
flight, or nothing more will happen. -/
inductive Phase where
  | queued
  | command
  | data
  | status
  | ended
deriving DecidableEq, Repr

namespace Phase

/-- The URB in flight. -/
def inflight : Phase → Option Pair
  | command => some .cbw
  | data => some .inquiry
  | status => some .csw
  | queued | ended => none

/-- The number of URBs that have been filled. -/
def filled : Phase → ℕ
  | queued => 0
  | command => 1
  | data => 2
  | status | ended => 3

end Phase

/-- The lengths of the transfers, in order. -/
def exchange : List ℕ := [CBW_LEN, 36, CSW_LEN]

/-- The URB of a pair as the driver fills it for the exchange. -/
structure Prepared (u : Pair) (r : Urb) : Prop where
  complete : r.complete = some u.callback
  transferBuffer : r.transferBuffer = some u
  dirIn : r.pipe.dirIn = decide (u ≠ .cbw)
  length : r.transferBufferLength = size u

/-- What holds of the device between two functions, whatever the phase. -/
structure Kept (n base : ℕ) (s : State) : Prop where
  account : s.ledger.Account base (holdings n s.dev)
  udev : s.dev.udev ≠ none
  intfdata : s.intfdata = some n
  fits : ∀ f ∈ s.fills, f.Fits

/-- The device in a phase. -/
structure Session (n base : ℕ) (ph : Phase) (s : State) : Prop extends Kept n base s where
  inflight : ∀ u, s.inflight u = true ↔ ph.inflight = some u
  scheduled : s.scheduled = true → ph = .queued
  equipped : ph ≠ .ended → ∀ p, s.dev.urb p ≠ none ∧ s.dev.buffer p ≠ none
  prepared : ∀ u, ph.inflight = some u → Prepared u (s.urb u)
  length : ph = .queued → (s.buf .cbw).length = CBW_LEN
  command : ph = .command ∨ ph = .data → s.buf .cbw = (scsiInquiry 36).bytes
  filled : ∃ k ≤ ph.filled, (ph ≠ .ended → k = ph.filled) ∧
    s.fills.reverse.map Fill.len = exchange.take k

/-! ## Filling and submitting -/

section Fill

variable {e : Env} {s : State} {u : Pair} {dirIn : Bool} {len n base : ℕ} {cb : Callback}

/-- What the pointers of the device stand for is allocated. -/
lemma Kept.has (h : Kept n base s) : Has s n .storage := h.account.mem_live (t := .storage) rfl

lemma Kept.hasUdev (h : Kept n base s) : HasUdev s := by
  obtain ⟨m, hm⟩ := Option.ne_none_iff_exists'.1 h.udev
  exact ⟨m, hm, h.account.mem_live (t := .udev) (by simp [holdings, hm])⟩

lemma Kept.hasUrb (h : Kept n base s) {i : ℕ} (hu : s.dev.urb u = some i) : Has s i .urb :=
  h.account.mem_live (t := .urb u) (by simp [holdings, hu])

lemma Kept.hasBytes (h : Kept n base s) (hb : s.dev.buffer u ≠ none) (hlen : len ≤ size u) :
    HasBytes s (s.dev.buffer u) len := by
  obtain ⟨j, hj⟩ := Option.ne_none_iff_exists'.1 hb
  rw [hj]
  exact .of_has (h.account.mem_live (t := .buffer u) (by simp [holdings, hj])) hlen

lemma Kept.congr {t : State} (h : Kept n base s) (hledger : t.ledger = s.ledger)
    (hudev : t.dev.udev = s.dev.udev) (hurb : t.dev.urb = s.dev.urb)
    (hbuffer : t.dev.buffer = s.dev.buffer) (hintf : t.intfdata = s.intfdata)
    (hfills : t.fills = s.fills) : Kept n base t where
  account := account_congr h.account hledger hudev hurb hbuffer
  udev := by rw [hudev]; exact h.udev
  intfdata := hintf.trans h.intfdata
  fits := by rw [hfills]; exact h.fits

/-- **An URB is filled** with a length that its buffer has. -/
lemma Kept.filledBy (h : Kept n base s) (hu : s.dev.urb u ≠ none) (hb : s.dev.buffer u ≠ none)
    (hlen : len ≤ size u) : Kept n base (filledBy s u dirIn len cb) where
  account := h.account
  udev := h.udev
  intfdata := h.intfdata
  fits f hf := by
    rcases List.mem_cons.1 hf with rfl | hf
    · obtain ⟨i, hi⟩ := Option.ne_none_iff_exists'.1 hu
      exact ⟨⟨(i, .urb), h.hasUrb hi, hi, rfl⟩, h.hasBytes hb hlen⟩
    · exact h.fits f hf

lemma prepared_filledBy (hb : s.dev.buffer u ≠ none) :
    Prepared u ((filledBy s u (decide (u ≠ .cbw)) (size u) u.callback).urb u) := by
  obtain ⟨j, hj⟩ := Option.ne_none_iff_exists'.1 hb
  constructor <;> simp [filledBy, bulkPipe, hj]

end Fill

/-! ## Between two transfers -/

/-- The device with `k` transfers behind it and nothing in flight. -/
structure Ready (n base k : ℕ) (s : State) : Prop extends Kept n base s where
  idle : ∀ u, s.inflight u = false
  scheduled : s.scheduled = false
  equipped : ∀ p, s.dev.urb p ≠ none ∧ s.dev.buffer p ≠ none
  filled : s.fills.reverse.map Fill.len = exchange.take k

section Ready

variable {e : Env} {s t : State} {u : Pair} {n base k : ℕ} {ph : Phase} {dirIn : Bool}
  {cb : Callback}

/-- The next URB of the exchange is filled. -/
lemma Ready.filledBy (h : Ready n base k s) (hlen : exchange[k]? = some (size u)) :
    Ready n base (k + 1) (filledBy s u dirIn (size u) cb) where
  toKept := h.toKept.filledBy (h.equipped u).1 (h.equipped u).2 (Nat.le_refl _)
  idle := h.idle
  scheduled := h.scheduled
  equipped := h.equipped
  filled := by
    show (_ :: s.fills).reverse.map Fill.len = _
    rw [List.reverse_cons, List.map_append, h.filled, List.take_add_one, hlen]
    rfl

/-- It is submitted. -/
lemma Ready.submitted (h : Ready n base ph.filled s) (hu : ph.inflight = some u)
    (hprepared : Prepared u (s.urb u))
    (hcommand : ph = .command ∨ ph = .data → s.buf .cbw = (scsiInquiry 36).bytes) :
    Session n base ph (s.setInflight u true) where
  toKept := h.toKept.congr rfl rfl rfl rfl rfl rfl
  inflight v := by
    by_cases hv : v = u
    · simp [hv, hu]
    · have hne : ¬ u = v := fun heq => hv heq.symm
      simp [hv, hu, hne, h.idle v]
  scheduled hs := by
    rw [State.setInflight_scheduled, h.scheduled] at hs
    cases hs
  equipped _ := h.equipped
  prepared v hv := by
    obtain rfl : u = v := Option.some.inj (hu.symm.trans hv)
    exact hprepared
  length hph := by
    subst hph
    cases hu
  command := hcommand
  filled := ⟨_, Nat.le_refl _, fun _ => rfl, h.filled⟩

lemma Kept.ended (h : Kept n base s) (hidle : ∀ u, s.inflight u = false)
    (hscheduled : s.scheduled = false) (hk : k ≤ 3)
    (hfilled : s.fills.reverse.map Fill.len = exchange.take k) : Session n base .ended s where
  toKept := h
  inflight u := by simp [hidle, Phase.inflight]
  scheduled hs := by
    rw [hscheduled] at hs
    cases hs
  equipped hph := absurd rfl hph
  prepared u hu := by cases hu
  length hph := by cases hph
  command hph := by simp at hph
  filled := ⟨k, hk, fun hph => absurd rfl hph, hfilled⟩

/-- Nothing more is submitted. -/
lemma Ready.ended (h : Ready n base k s) (hk : k ≤ 3) : Session n base .ended s :=
  h.toKept.ended h.idle h.scheduled hk h.filled

/-- The URB and the buffer of a pair are dropped. -/
lemma Ready.dropped (h : Ready n base k s) (hk : k ≤ 3) (u : Pair) :
    ∃ t, run (checked n e) (dropPair u) s = .done () t ∧ Session n base .ended t := by
  obtain ⟨i, hi⟩ := Option.ne_none_iff_exists'.1 (h.equipped u).1
  obtain ⟨j, hj⟩ := Option.ne_none_iff_exists'.1 (h.equipped u).2
  obtain ⟨t, hrun, ht⟩ := run_dropPair (e := e) h.account hi hj (h.idle u)
  refine ⟨t, hrun, Kept.ended (k := k) ⟨?_, ?_, ?_, ?_⟩ ?_ ?_ hk ?_⟩
  · rw [ht.dev]
    exact ht.account
  · rw [ht.dev]
    exact h.udev
  · rw [ht.intfdata]
    exact h.intfdata
  · rw [ht.fills]
    exact h.fits
  · rw [ht.inflight]
    exact h.idle
  · rw [ht.scheduled]
    exact h.scheduled
  · rw [ht.fills]
    exact h.filled

/-- **One transfer of the exchange**: fill, submit, and clean up if that fails. -/
lemma run_transfer (u : Pair) (ph : Phase) (cleanup : Driver Unit) (h : Ready n base k s)
    (hph : ph.filled = k + 1) (hu : ph.inflight = some u) (hlen : exchange[k]? = some (size u))
    (hcommand : ph = .command ∨ ph = .data → s.buf .cbw = (scsiInquiry 36).bytes)
    (hcleanup : ∀ t, Ready n base (k + 1) t →
      ∃ t', run (checked n e) cleanup t = .done () t' ∧ Session n base .ended t') :
    ∃ t ph', run (checked n e) (do
      usbFillBulkUrb u (decide (u ≠ .cbw)) (size u) u.callback
      if (← usbSubmitUrb u) ≠ 0 then cleanup) s = .done () t ∧ Session n base ph' t := by
  obtain ⟨i, hi⟩ := Option.ne_none_iff_exists'.1 (h.equipped u).1
  set s' := filledBy s u (decide (u ≠ .cbw)) (size u) u.callback with hs'
  have hfilled : Ready n base (k + 1) s' := h.filledBy hlen
  have hprepared : Prepared u (s'.urb u) := prepared_filledBy (h.equipped u).2
  have hcomplete : (s'.urb u).complete ≠ none := by
    rw [hprepared.complete]
    simp
  have hfill : run (checked n e) (usbFillBulkUrb u (decide (u ≠ .cbw)) (size u) u.callback) s =
      .done () s' := run_usbFillBulkUrb h.has hi (h.hasUrb hi) h.hasUdev
  have hsend := run_usbSubmitUrb (e := e) hfilled.has (u := u) hi (hfilled.hasUrb hi) hcomplete
    (h.idle u)
  by_cases hsubmit : e.submit = 0
  · refine ⟨_, ph, ?_, Ready.submitted (hph ▸ hfilled) hu hprepared hcommand⟩
    simp only [run_bind, hfill, hsend, hsubmit]
    rfl
  · obtain ⟨t, hrun, ht⟩ := hcleanup _ hfilled
    refine ⟨t, .ended, ?_, ht⟩
    simp only [run_bind, hfill, hsend, hsubmit]
    simpa [hsubmit] using hrun

end Ready

/-! ## The functions between the transfers -/

section Functions

variable {e : Env} {s t : State} {u : Pair} {n base : ℕ} {ph : Phase} {st : Int}
  {received : List UInt8}

/-- The wrapper that the work item leaves in the buffer. -/
lemma overwrite_command (bs : List UInt8) (hlen : bs.length = CBW_LEN) :
    overwrite (overwrite bs (List.replicate CBW_LEN 0)) (scsiInquiry 36).bytes =
      (scsiInquiry 36).bytes := by
  have hbytes : (scsiInquiry 36).bytes.length = CBW_LEN := by decide
  have hzero : (overwrite bs (List.replicate CBW_LEN 0)).length = CBW_LEN := by
    simp [overwrite, hlen]
  rw [overwrite, hbytes, List.drop_eq_nil_of_le hzero.le, List.append_nil]

/-- **The work item** sends the command. -/
lemma run_initUsbProtocols (h : Session n base .queued s) :
    ∃ t ph, run (checked n e) initUsbProtocols { s with scheduled := false } = .done () t ∧
      Session n base ph t := by
  obtain ⟨k, -, hk, hfilled⟩ := h.filled
  obtain rfl := hk (by decide)
  have hidle : ∀ u, s.inflight u = false := by
    intro u
    rw [← Bool.not_eq_true, h.inflight]
    simp [Phase.inflight]
  have hbuffer := ((h.equipped (by decide)) .cbw).2
  have hbytes {bs : List UInt8} (hlen : bs.length = CBW_LEN) :
      HasBytes s (s.dev.buffer .cbw) bs.length := h.hasBytes hbuffer (Nat.le_of_eq hlen)
  -- the device before and after the wrapper is copied into the buffer
  set s₀ : State := { s with scheduled := false } with hs₀
  set s₁ := s₀.setBuf .cbw (overwrite (s₀.buf .cbw) (List.replicate CBW_LEN 0)) with hs₁
  set s₂ := s₁.modDev fun d => { d with myCbw := .zero } with hs₂
  set x := s₂.modDev fun d => { d with myCbw := scsiInquiry 36 } with hx
  set t : State := x.setBuf .cbw (scsiInquiry 36).bytes with ht
  have hn : Has s n .storage := h.has
  have hclear : run (checked n e) (memcpyTo .cbw (List.replicate CBW_LEN 0)) s₀ = .done () s₁ :=
    run_memcpyTo (s := s₀) hn (hbytes List.length_replicate)
  have hcopy : run (checked n e) (memcpyTo .cbw x.dev.myCbw.bytes) x = .done () t := by
    have hbuf : x.buf .cbw = overwrite (s.buf .cbw) (List.replicate CBW_LEN 0) := by
      simp [hx, hs₂, hs₁, hs₀]
    have hlength : x.dev.myCbw.bytes.length = CBW_LEN := by
      show (scsiInquiry 36).bytes.length = CBW_LEN
      decide
    rw [run_memcpyTo (s := x) hn (hbytes hlength), hbuf]
    exact congrArg (fun bs => Outcome.done () (x.setBuf .cbw bs))
      (overwrite_command (s.buf .cbw) (h.length rfl))
  have hready : Ready n base 0 t :=
    ⟨h.toKept.congr rfl rfl rfl rfl rfl rfl, hidle, rfl, h.equipped (by decide), hfilled⟩
  have hcleanup : ∀ t', Ready n base 1 t' →
      ∃ t'', run (checked n e) cleanCommand t' = .done () t'' ∧ Session n base .ended t'' := by
    intro t' ht'
    obtain ⟨t'', hrun, ht''⟩ := Ready.dropped (e := e) ht' (by decide) .cbw
    exact ⟨t'', by simp [cleanCommand, run_readDev ht'.has, (ht'.equipped .cbw).1, hrun], ht''⟩
  obtain ⟨t', ph, hrun, hsession⟩ := run_transfer (e := e) .cbw .command cleanCommand hready rfl
    rfl rfl (fun _ => by simp [ht]) hcleanup
  refine ⟨t', ph, ?_, hsession⟩
  simp only [initUsbProtocols, run_bind, run_readDev (s := s₀) hn, hclear,
    run_setMyCbw (s := s₁) hn, ← hs₂, run_setMyCbw (s := s₂) hn, ← hx, run_readDev (s := x) hn,
    hcopy]
  simp only [run_bind] at hrun
  exact hrun

/-- The URB in flight is given back. -/
lemma ready_giveBack (ph : Phase) (st : Int) (received : List UInt8) (h : Session n base ph s)
    (hu : ph.inflight = some u) : Ready n base ph.filled (s.giveBack u st received) := by
  have hne : ph ≠ .ended := by
    rintro rfl
    cases hu
  have hqueued : ph ≠ .queued := by
    rintro rfl
    cases hu
  obtain ⟨k, -, hk, hfilled⟩ := h.filled
  obtain rfl := hk hne
  refine ⟨h.toKept.congr rfl rfl rfl rfl rfl rfl, fun v => ?_, ?_, h.equipped hne, hfilled⟩
  · by_cases hv : v = u
    · simp [hv]
    · have hidle : ¬ s.inflight v = true := by
        rw [h.inflight, hu]
        exact fun heq => hv (Option.some.inj heq).symm
      simpa [hv] using hidle
  · exact Bool.not_eq_true _ ▸ fun hs => hqueued (h.scheduled hs)

/-- Nothing is received into the buffer of the command. -/
lemma buf_giveBack (hprepared : Prepared u (s.urb u))
    (hreceived : Life.Receives (s.urb u) received) :
    (s.giveBack u st received).buf .cbw = s.buf .cbw := by
  by_cases hu : u = .cbw
  · subst hu
    obtain rfl : received = [] := by
      refine hreceived.resolve_right fun hin => ?_
      rw [hprepared.dirIn] at hin
      exact absurd hin.1 (by decide)
    simp
  · have hne : Pair.cbw ≠ u := fun heq => hu heq.symm
    simp [hne]

/-- **`cbw_callback`** receives the data. -/
lemma run_cbwCallback (st : Int) (h : Session n base .command s)
    (hreceived : Life.Receives (s.urb .cbw) received) :
    ∃ t ph, run (checked n e) (cbwCallback { s.urb .cbw with status := st })
      (s.giveBack .cbw st received) = .done () t ∧ Session n base ph t := by
  have hready : Ready n base 1 (s.giveBack .cbw st received) :=
    ready_giveBack .command st received h rfl
  have hprepared := h.prepared .cbw rfl
  by_cases hst : st = 0
  · subst hst
    set x := s.giveBack .cbw 0 received with hx
    have hbuf : x.buf .cbw = (scsiInquiry 36).bytes :=
      (buf_giveBack hprepared hreceived).trans (h.command (.inl rfl))
    have hcbw : CommandBlockWrapper.ofBytes (x.buf .cbw) = scsiInquiry 36 := by
      rw [hbuf, CommandBlockWrapper.ofBytes_bytes]
    set t := x.modDev fun d => { d with cbwTag := (scsiInquiry 36).dCBWTag } with ht
    have hready' : Ready n base 1 t :=
      ⟨hready.toKept.congr rfl rfl rfl rfl rfl rfl, hready.idle, hready.scheduled, hready.equipped,
        hready.filled⟩
    have hbytes : HasBytes x (x.dev.buffer .cbw) CBW_LEN :=
      hready.hasBytes (hready.equipped .cbw).2 (Nat.le_refl _)
    have hread : run (checked n e) (readCbw .cbw) x = .done (scsiInquiry 36) x := by
      rw [run_readCbw hbytes, hcbw]
    have hread' : run (checked n e) (readCbw .cbw) t = .done (scsiInquiry 36) t := by
      rw [run_readCbw (s := t) hbytes]
      exact congrArg (Outcome.done · t) hcbw
    obtain ⟨t', ph, hrun, hsession⟩ := run_transfer (e := e) .inquiry .data
      (dropPair .inquiry) hready' rfl rfl rfl (fun _ => hbuf)
      fun t' ht' => ht'.dropped (by decide) .inquiry
    refine ⟨t', ph, ?_, hsession⟩
    have hsignature : (scsiInquiry 36).dCBWSignature = CBW_SIG := rfl
    have hopcode : (scsiInquiry 36).cdb 0 = 0x12 := rfl
    simp only [cbwCallback, hprepared.transferBuffer, run_bind, hread, hsignature,
      run_setCbwTag hready.has, ← ht, hread', hopcode, ne_eq, not_true_eq_false, if_false]
    exact hrun
  · refine ⟨_, .ended, ?_, hready.ended (by decide)⟩
    by_cases hpipe : st = -EPIPE
    · have hclear := run_usbClearHalt (e := e) hready.has hready.hasUdev
      subst hpipe
      simp [cbwCallback, hst, hclear]
    · simp [cbwCallback, hst, hpipe]

/-- **`data_callback`** receives the status. -/
lemma run_dataCallback (st : Int) (received : List UInt8) (h : Session n base .data s) :
    ∃ t ph, run (checked n e) (dataCallback { s.urb .inquiry with status := st })
      (s.giveBack .inquiry st received) = .done () t ∧ Session n base ph t := by
  have hready : Ready n base 2 (s.giveBack .inquiry st received) :=
    ready_giveBack .data st received h rfl
  by_cases hpipe : st = -EPIPE
  · exact ⟨_, .ended, by simp [dataCallback, hpipe], hready.ended (by decide)⟩
  · obtain ⟨t, ph, hrun, hsession⟩ := run_transfer (e := e) .csw .status
      (pure ()) hready rfl rfl rfl (fun hph => by simp at hph)
      fun t ht => ⟨t, rfl, ht.ended (by decide)⟩
    refine ⟨t, ph, ?_, hsession⟩
    have hite (x : Int) : (if x ≠ 0 then pure () else pure () : Driver Unit) = pure () :=
      ite_self _
    simp only [hite, run_bind] at hrun
    simp only [dataCallback, hpipe, run_bind, if_false]
    exact hrun

/-- **`csw_callback`** only looks at the status. -/
lemma run_cswCallback (st : Int) (received : List UInt8) (h : Session n base .status s) :
    ∃ t, run (checked n e) (cswCallback { s.urb .csw with status := st })
      (s.giveBack .csw st received) = .done () t ∧ Session n base .ended t := by
  have hready : Ready n base 3 (s.giveBack .csw st received) :=
    ready_giveBack .status st received h rfl
  refine ⟨_, ?_, hready.ended (by decide)⟩
  have hprepared := h.prepared .csw rfl
  have hcsw := run_readCsw (n := n) (e := e) (b := .csw)
    (hready.hasBytes (hready.equipped .csw).2 (Nat.le_refl _))
  have hclear := run_usbClearHalt (e := e) hready.has hready.hasUdev
  by_cases hst : st = 0
  · subst hst
    simp [cswCallback, Usb.cswCallback, hprepared.transferBuffer, hcsw, run_readDev hready.has]
  · by_cases hent : st = -UsbV1.ENOENT
    · subst hent
      have hne : UsbV1.ENOENT ≠ 0 := by decide
      simp [cswCallback, Usb.cswCallback, hne, hclear]
    · simp [cswCallback, Usb.cswCallback, hst, hent]

end Functions

end KernelDriverLab.UsbTest
