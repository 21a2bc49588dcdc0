import KernelDriverLab.Lib.Protocol
import KernelDriverLab.Usb.Transfers

/-!
# The status handshake of usb.c

`csw_callback` decides whether the status wrapper that the device has sent belongs to the
command: it should have the signature of a status wrapper and the tag of the command.  The
function compares the signature with `CBW_SIG`, the signature of a command, so what it
accepts is never a status wrapper.

An exchange is a command that was sent and the data phases after it, up to a status phase in
flight, in any run of the device.
-/

namespace KernelDriverLab.Usb

open Lib Prog
open UsbV1 (CommandBlockWrapper CommandStatusWrapper CSW_SIG)

/-! ## The verdict -/

/-- `csw_callback` with its verdict: whether it comes to the message for success. -/
def cswVerdict (urb : Urb) : Driver Bool := do
  if urb.status ≠ 0 then
    if urb.status = -UsbV1.ENOENT then
      usbClearHalt true
      usbClearHalt false
    return false
  match urb.transferBuffer with
  | none => oops
  | some b =>
    if (← readCsw b).dCSWSignature ≠ CBW_SIG then return false
    let csw ← readCsw b
    if csw.dCSWTag ≠ (← readDev).cbwTag then return false
    return true

/-- The verdict is only reported. -/
lemma cswCallback_eq (urb : Urb) : cswCallback urb = cswVerdict urb >>= fun _ => pure () := by
  have hite {c : Prop} [Decidable c] (p q : Driver Bool) (f : Bool → Driver Unit) :
      (if c then p else q) >>= f = if c then p >>= f else q >>= f := apply_ite (· >>= f) c p q
  rcases hb : urb.transferBuffer with _ | b
  · simp only [cswCallback, cswVerdict, hb, oops, hite, bind_assoc, act_bind, pure_eq, ret_bind]
    congr 2
    funext x
    exact x.elim
  · simp only [cswCallback, cswVerdict, hb, hite, bind_assoc, pure_eq, ret_bind]

/-! ## The URB of the status phase -/

/-- What holds of `csw_urb` between the calls. -/
structure StatusReady (s : State) : Prop where
  buffer : s.dev.buffer .csw ≠ none
  complete : s.inflight .csw = true → (s.urb .csw).complete ≠ none
  filled : (s.urb .csw).complete ≠ none → (s.urb .csw).transferBuffer = some .csw

/-- Operations that keep `csw_urb` ready, given that `csw_buffer` is there, and `cbw_tag`. -/
@[simps]
def keepsReady : Protocol Op Op.Ans Unit where
  allow _ o := match o with
    | .usbFillBulkUrb u _ buffer _ _ _ => u = .csw → buffer ≠ none
    | .setBuffer b _ => b ≠ .csw
    | .kzalloc | .usbAllocUrb _ | .setCbwTag _ => False
    | _ => True
  expect _ o x := match o with
    | .readDev => (x : Dev).buffer .csw ≠ none
    | _ => True
  after _ _ _ := ()

section Ready

variable {e : Env} {s t : State} {α : Type}

/-- Only these fields matter. -/
lemma StatusReady.congr (h : StatusReady s) (hbuffer : t.dev.buffer .csw = s.dev.buffer .csw)
    (hinflight : t.inflight .csw = true → s.inflight .csw = true)
    (hcomplete : (t.urb .csw).complete = (s.urb .csw).complete)
    (htransfer : (t.urb .csw).transferBuffer = (s.urb .csw).transferBuffer) : StatusReady t where
  buffer := by rw [hbuffer]; exact h.buffer
  complete ht := by rw [hcomplete]; exact h.complete (hinflight ht)
  filled := by rw [hcomplete, htransfer]; exact h.filled

/-- A change of an URB that does not touch what `usb_fill_bulk_urb` has stored there. -/
lemma StatusReady.modUrb (h : StatusReady s) (u : Pair) {f : Urb → Urb}
    (hcomplete : ∀ r, (f r).complete = r.complete)
    (htransfer : ∀ r, (f r).transferBuffer = r.transferBuffer) : StatusReady (s.modUrb u f) := by
  refine h.congr rfl id ?_ ?_ <;> by_cases hu : Pair.csw = u
  all_goals simp [hu, hcomplete, htransfer]

lemma statusReady_fill (h : StatusReady s) {u : Pair} {urb buffer : Ptr} {pipe : UsbV1.Pipe}
    {len : ℕ} {cb : Callback} (hbuffer : u = .csw → buffer ≠ none) :
    StatusReady (sem e (.usbFillBulkUrb u urb buffer pipe len cb) s).state := by
  cases urb with
  | none => exact h.congr rfl id rfl rfl
  | some i =>
    by_cases hu : u = .csw
    · subst hu
      obtain ⟨b, hb⟩ := Option.ne_none_iff_exists'.1 (hbuffer rfl)
      refine ⟨h.buffer, fun _ => ?_, fun _ => ?_⟩ <;> simp [sem, hb]
    · have hne : Pair.csw ≠ u := fun heq => hu heq.symm
      refine h.congr rfl id ?_ ?_ <;> simp [sem, hne]

lemma statusReady_submit (h : StatusReady s) (u : Pair) (urb : Ptr) :
    StatusReady (sem e (.usbSubmitUrb u urb) s).state := by
  simp only [sem]
  split_ifs with hnone hin hok
  · exact h
  · exact h
  · refine ⟨h.buffer, fun hflight => ?_, h.filled⟩
    by_cases hu : u = .csw
    · subst hu
      exact fun hc => hnone (.inr hc)
    · have hne : Pair.csw ≠ u := fun heq => hu heq.symm
      exact h.complete (by simpa [hne] using hflight)
  · exact h

lemma statusReady_sem {o : Op} (ho : keepsReady.allow () o) (hs : StatusReady s) :
    StatusReady (sem e o s).state := by
  cases o
  case usbFillBulkUrb u urb buffer pipe len cb => exact statusReady_fill hs ho
  case usbSubmitUrb u urb => exact statusReady_submit hs u urb
  case kzalloc | usbAllocUrb | setCbwTag => exact ho.elim
  case setBuffer b p =>
    have hne : Pair.csw ≠ b := fun heq => ho heq.symm
    exact hs.congr (Function.update_of_ne hne _ _) id rfl rfl
  case setTransferDma u urb addr =>
    cases urb with
    | none => exact hs
    | some i =>
      exact hs.modUrb u (f := fun r => { r with transferDma := addr }) (fun _ => rfl) fun _ => rfl
  case setNoTransferDmaMap u urb =>
    cases urb with
    | none => exact hs
    | some i =>
      exact hs.modUrb u (f := fun r => { r with noTransferDmaMap := true }) (fun _ => rfl)
        fun _ => rfl
  case usbKillUrb u urb =>
    simp only [sem]
    split_ifs
    · exact hs
    · refine hs.congr rfl (fun h => ?_) rfl rfl
      by_cases hu : Pair.csw = u
      · simp [hu] at h
      · simpa [hu] using h
  case usbFreeUrb | usbFreeCoherent | kfree | kfreeDev | usbPutDev =>
    exact hs.congr (by simp [sem]) (by simp [sem]) (by simp [sem]) (by simp [sem])
  all_goals
    simp only [sem]
    repeat' split
    all_goals first
      | exact hs
      | exact hs.congr rfl id rfl rfl

lemma cbwTag_sem {o : Op} (ho : keepsReady.allow () o) :
    (sem e o s).state.dev.cbwTag = s.dev.cbwTag := by
  cases o
  case kzalloc | usbAllocUrb | setCbwTag => exact ho.elim
  all_goals
    simp only [sem]
    repeat' split
    all_goals simp [State.newBuffer]

/-- A function that keeps to the protocol keeps `csw_urb` ready and the tag as it is. -/
lemma statusReady_run {p : Driver α} {Q : Unit → α → Prop} (hp : p.Follows keepsReady () Q)
    (hs : StatusReady s) : StatusReady (run (sem e) p s).state ∧
      (run (sem e) p s).state.dev.cbwTag = s.dev.cbwTag := by
  have hstep (o : Op) (t : State) (ho : keepsReady.allow () o)
      (ht : StatusReady t ∧ t.dev.cbwTag = s.dev.cbwTag) :
      StatusReady (sem e o t).state ∧ (sem e o t).state.dev.cbwTag = s.dev.cbwTag :=
    ⟨statusReady_sem ho ht.1, (cbwTag_sem ho).trans ht.2⟩
  refine Follows.state (I := fun _ t => StatusReady t ∧ t.dev.cbwTag = s.dev.cbwTag)
    (fun _ _ h => h) ?_ ?_ hp ⟨hs, rfl⟩
  · intro _ o t x t' ho ht hdone
    have ht' := hstep o t ho ht
    rw [hdone] at ht'
    refine ⟨?_, ht'⟩
    cases o <;> first | trivial | skip
    obtain ⟨rfl, -⟩ := Outcome.done.inj hdone
    exact ht.1.buffer
  · intro _ o t t' ho ht hoops
    have ht' := hstep o t ho ht
    rwa [hoops] at ht'

end Ready

section Follows

/-- Whatever the value. -/
@[simp] def Any {α : Type} (_ : Unit) (_ : α) : Prop := True

lemma follows_usbFillBulkUrb (u : Pair) (dirIn : Bool) (len : ℕ) (cb : Callback) :
    (usbFillBulkUrb u dirIn len cb).Follows keepsReady () Any := by
  simp only [usbFillBulkUrb, readDev, op, act_bind, ret_bind, follows_act, follows_ret]
  refine ⟨trivial, fun dev hdev => ⟨?_, fun _ _ => trivial⟩⟩
  rintro rfl
  exact hdev

lemma follows_receiveStatus : receiveStatus.Follows keepsReady () Any := by
  refine follows_bind.2 ((follows_usbFillBulkUrb ..).mono fun _ _ _ => ?_)
  simp [usbSubmitUrb, readDev, op]

lemma follows_dropPair {u : Pair} (hu : u ≠ .csw) : (dropPair u).Follows keepsReady () Any := by
  simp [dropPair, usbKillUrb, usbFreeUrb, kfree, setBuffer, setUrb, readDev, op, hu]

lemma follows_rUrb : rUrb.Follows keepsReady () Any := by
  simp [rUrb, usbKillUrb, usbFreeUrb, kfree, setBuffer, setUrb, readDev, op]

lemma follows_transferData {u : Pair} {dirIn : Bool} {len : ℕ} {dma : Bool}
    {cleanup : Driver Unit} (hc : cleanup.Follows keepsReady () Any) :
    (transferData u dirIn len dma cleanup).Follows keepsReady () Any := by
  rw [transferData, beginTransfer, bind_assoc]
  refine follows_bind.2 ((follows_usbFillBulkUrb ..).mono fun _ _ _ => ?_)
  cases dma <;> simp [useDma, usbSubmitUrb, readDev, op, hc]

lemma follows_dispatch (opcode : UInt8) : (dispatch opcode).Follows keepsReady () Any := by
  simp only [dispatch, follows_ite]
  have hwrite := follows_dropPair (u := .write) (by decide)
  have hinquiry := follows_dropPair (u := .inquiry) (by decide)
  exact ⟨fun _ => follows_transferData hwrite, fun _ => ⟨fun _ => follows_transferData follows_rUrb,
    fun _ => ⟨fun _ => follows_receiveStatus, fun _ => ⟨fun _ => follows_transferData hinquiry,
    fun _ => ⟨fun _ => follows_transferData hinquiry,
    fun _ => ⟨fun _ => follows_transferData follows_rUrb, fun _ => trivial⟩⟩⟩⟩⟩⟩

lemma follows_dataCallback (urb : Urb) : (dataCallback urb).Follows keepsReady () Any := by
  simp [dataCallback, follows_receiveStatus]

lemma follows_cswCallback (urb : Urb) : (cswCallback urb).Follows keepsReady () Any := by
  rcases hb : urb.transferBuffer with _ | b <;>
    simp [cswCallback, hb, oops, readCsw, readBuf, readDev, usbClearHalt, op]

end Follows

section Runs

variable {s t : State}

/-- A completion changes nothing that matters, but takes the URB out of flight. -/
lemma StatusReady.giveBack (h : StatusReady s) (u : Pair) (status : Int) (received : List UInt8) :
    StatusReady (s.giveBack u status received) := by
  refine h.congr rfl ?_ ?_ ?_ <;> by_cases hu : Pair.csw = u
  all_goals simp [hu]

/-- The URB of a command leaves the tag of its wrapper behind, when it was sent. -/
lemma statusReady_command {e : Env} (h : StatusReady s) (c : ScsiCommand) (st : Int) :
    StatusReady (run (sem e) (cbwCallback (cbwUrb st)) (s.setBuf .cbw c.cbw.bytes)).state ∧
      (0 ≤ st → (run (sem e) (cbwCallback (cbwUrb st))
        (s.setBuf .cbw c.cbw.bytes)).state.dev.cbwTag = c.cbw.dCBWTag) := by
  by_cases hst : 0 ≤ st
  · have haccepted : StatusReady (s.accepted c) := h.congr rfl id rfl rfl
    have hrun := statusReady_run (e := e) (follows_dispatch c.opcode) haccepted
    rw [run_cbwCallback c hst]
    exact ⟨hrun.1, fun _ => hrun.2⟩
  · rw [run_cbwCallback_neg c (not_le.1 hst)]
    exact ⟨h.congr rfl id rfl rfl, fun h0 => absurd h0 hst⟩

/-- The event is not a new command. -/
def Event.Continues : Event → Prop
  | .command _ _ _ => False
  | _ => True

instance : (l : Event) → Decidable l.Continues
  | .command _ _ _ => inferInstanceAs (Decidable False)
  | .data _ _ _ _ | .status _ _ _ => inferInstanceAs (Decidable True)

lemma statusReady_step {l : Event} (h : StatusReady s) (hl : transfers.next s l = some t) :
    StatusReady t ∧ (l.Continues → t.dev.cbwTag = s.dev.cbwTag) := by
  cases l with
  | command c st e =>
    obtain rfl := Option.some.inj hl
    exact ⟨(statusReady_command h c _).1, False.elim⟩
  | data u st received e =>
    simp only [transfers, State.step, Option.ite_none_right_eq_some, Option.some.injEq] at hl
    obtain ⟨-, rfl⟩ := hl
    have hrun := statusReady_run (e := e) (follows_dataCallback { s.urb u with status := st })
      (h.giveBack u st received)
    exact ⟨hrun.1, fun _ => hrun.2⟩
  | status st received e =>
    simp only [transfers, State.step, Option.ite_none_right_eq_some, Option.some.injEq] at hl
    obtain ⟨-, rfl⟩ := hl
    have hrun := statusReady_run (e := e) (follows_cswCallback { s.urb .csw with status := st })
      (h.giveBack .csw st received)
    exact ⟨hrun.1, fun _ => hrun.2⟩

/-- Until the next command nothing changes the tag. -/
lemma cbwTag_exec (h : StatusReady s) {ls : List Event} (hls : ∀ l ∈ ls, l.Continues)
    (hexec : transfers.exec s ls = some t) : StatusReady t ∧ t.dev.cbwTag = s.dev.cbwTag := by
  induction ls generalizing s with
  | nil =>
    obtain rfl : s = t := by simpa [System.exec] using hexec
    exact ⟨h, rfl⟩
  | cons l ls ih =>
    cases hn : transfers.next s l with
    | none => simp [System.exec, hn] at hexec
    | some u =>
      have hrest : transfers.exec u ls = some t := by simpa [System.exec, hn] using hexec
      obtain ⟨hready, htag⟩ := statusReady_step h hn
      obtain ⟨hready', htag'⟩ := ih hready (fun l hl => hls l (.tail _ hl)) hrest
      exact ⟨hready', htag'.trans (htag (hls l (.head _)))⟩

lemma statusReady_reach (hs : transfers.Reachable s) : StatusReady s := by
  refine hs.invariant ?_ fun _ _ _ h _ hl => (statusReady_step h hl).1
  rintro s ⟨s₀, e, hrun, -⟩
  obtain ⟨hallocated, hfresh, -⟩ := usbAllocBufferAndUrb_success hrun
  obtain ⟨i, b, -, hb, -⟩ := hallocated.equipped .csw
  obtain ⟨hzero, hidle⟩ := hfresh .csw
  refine ⟨by simp [hb], by simp [hidle], ?_⟩
  rw [hzero]
  exact fun h => absurd rfl h

end Runs

/-! ## The answer of the device -/

/-- The device says, about the command in this wrapper, that it is done. -/
def Accepts (cbw : CommandBlockWrapper) (status : Int) (csw : CommandStatusWrapper) : Prop :=
  status = 0 ∧ csw.dCSWSignature = CSW_SIG ∧ csw.dCSWTag = cbw.dCBWTag

/-- An answer with the right tag and the signature of a status wrapper or of a command. -/
def Mistaken (cbw : CommandBlockWrapper) (status : Int) (csw : CommandStatusWrapper) : Prop :=
  status = 0 ∧ csw.dCSWTag = cbw.dCBWTag ∧
    (csw.dCSWSignature = CSW_SIG ∨ csw.dCSWSignature = CBW_SIG)

section Answer

variable {e : Env} {s t : State}

/-- The structure in the first 13 bytes, whatever is behind them. -/
lemma ofBytes_overwrite (old : List UInt8) {received : List UInt8} (h : received.length = 13) :
    (CommandStatusWrapper.ofBytes (overwrite old received)).dCSWSignature =
        (CommandStatusWrapper.ofBytes received).dCSWSignature ∧
      (CommandStatusWrapper.ofBytes (overwrite old received)).dCSWTag =
        (CommandStatusWrapper.ofBytes received).dCSWTag := by
  have hsig : (overwrite old received).take 4 = received.take 4 := by
    rw [overwrite, List.take_append_of_le_length (by omega)]
  have htag : ((overwrite old received).drop 4).take 4 = (received.drop 4).take 4 := by
    rw [overwrite, List.drop_append_of_le_length (by omega),
      List.take_append_of_le_length (by rw [List.length_drop]; omega)]
  exact ⟨by simp only [CommandStatusWrapper.ofBytes, le32At, hsig],
    by simp only [CommandStatusWrapper.ofBytes, le32At, htag]⟩

/-- What `csw_callback` accepts: the tag of the command under the signature of a command. -/
lemma run_cswVerdict (e : Env) (s : State) {urb : Urb} (hb : urb.transferBuffer = some .csw) :
    ∃ accepted t, run (sem e) (cswVerdict urb) s = .done accepted t ∧
      (accepted = true ↔ urb.status = 0 ∧
        (CommandStatusWrapper.ofBytes (s.buf .csw)).dCSWSignature = CBW_SIG ∧
        (CommandStatusWrapper.ofBytes (s.buf .csw)).dCSWTag = s.dev.cbwTag) := by
  by_cases hst : urb.status = 0
  · by_cases hsig : (CommandStatusWrapper.ofBytes (s.buf .csw)).dCSWSignature = CBW_SIG <;>
      by_cases htag : (CommandStatusWrapper.ofBytes (s.buf .csw)).dCSWTag = s.dev.cbwTag <;>
      simp [cswVerdict, hb, hst, hsig, htag, readCsw, readBuf, readDev, op, run_act, sem]
  · by_cases hkilled : urb.status = -UsbV1.ENOENT
    · have hne : ¬ -UsbV1.ENOENT = 0 := by decide
      simp [cswVerdict, hkilled, hne, usbClearHalt, readDev, op, run_act, sem]
    · simp [cswVerdict, hst, hkilled]

lemma accepts_iff_not_mistaken {cbw : CommandBlockWrapper} {status : Int}
    {csw : CommandStatusWrapper} :
    ((status = 0 ∧ csw.dCSWSignature = CBW_SIG ∧ csw.dCSWTag = cbw.dCBWTag) ↔
      Accepts cbw status csw) ↔ ¬ Mistaken cbw status csw := by
  have hne : CSW_SIG ≠ CBW_SIG := by decide
  have hnot : csw.dCSWSignature = CSW_SIG → csw.dCSWSignature ≠ CBW_SIG := fun h => h ▸ hne
  simp only [Accepts, Mistaken]
  tauto

end Answer

/-- **Acceptance.** A command is sent in any state that the device can be in, and after any
events up to the status phase the device answers with 13 bytes.  `csw_callback` accepts the
answer when it should, and rejects it when it should, except for an answer with the tag of the
command that carries the signature of a status wrapper, which is rejected, or of a command,
which is accepted. -/
theorem accepts_iff_of_not_mistaken {s t : State} (hs : transfers.Reachable s)
    (c : ScsiCommand) {st₀ : Int} {e₀ : Env} (hst₀ : 0 ≤ st₀) {ls : List Event}
    (hls : ∀ l ∈ ls, l.Continues)
    (hexec : transfers.exec s (.command c st₀ e₀ :: ls) = some t)
    (hflight : t.inflight .csw = true) (st : Int) {received : List UInt8}
    (hlen : received.length = 13) (e : Env) :
    ∃ accepted t', run (sem e) (cswVerdict { t.urb .csw with status := st })
        (t.giveBack .csw st received) = .done accepted t' ∧
      ((accepted = true ↔ Accepts c.cbw st (.ofBytes received)) ↔
        ¬ Mistaken c.cbw st (.ofBytes received)) := by
  have hready := statusReady_reach hs
  obtain ⟨hready₁, htag₁⟩ := statusReady_command (e := e₀) hready c st₀
  have hrest : transfers.exec (run (sem e₀) (cbwCallback (cbwUrb st₀))
      (s.setBuf .cbw c.cbw.bytes)).state ls = some t := by
    simpa [System.exec, transfers, State.step] using hexec
  obtain ⟨hready₂, htag₂⟩ := cbwTag_exec hready₁ hls hrest
  have htag : t.dev.cbwTag = c.cbw.dCBWTag := htag₂.trans (htag₁ hst₀)
  have hb : (t.urb .csw).transferBuffer = some .csw := hready₂.filled (hready₂.complete hflight)
  obtain ⟨accepted, t', hrun, haccepted⟩ := run_cswVerdict e
    (t.giveBack .csw st received) (show Urb.transferBuffer { t.urb .csw with status := st } = _
      from hb)
  refine ⟨accepted, t', hrun, ?_⟩
  have hbuf : (t.giveBack .csw st received).buf .csw = overwrite (t.buf .csw) received := by simp
  obtain ⟨hsig, htag'⟩ := ofBytes_overwrite (t.buf .csw) hlen
  rw [hbuf, hsig, htag', State.giveBack_dev, htag] at haccepted
  rw [haccepted]
  exact accepts_iff_not_mistaken

/-- The wrapper that a device answers to TEST UNIT READY with, under a signature. -/
def answer (signature : UInt32) : CommandStatusWrapper :=
  ⟨signature, ScsiCommand.testUnitReady.cbw.dCBWTag, 0, 0⟩

/-- A new device after TEST UNIT READY has been sent. -/
def State.asked : State :=
  (run (sem {}) (cbwCallback (cbwUrb 0))
    (State.ready.setBuf .cbw ScsiCommand.testUnitReady.cbw.bytes)).state

theorem accepts_iff_of_not_mistaken_other_tag : ∃ accepted t',
    run (sem {}) (cswVerdict { State.asked.urb .csw with status := 0 })
        (State.asked.giveBack .csw 0 (CommandStatusWrapper.bytes ⟨CSW_SIG, 7, 0, 0⟩)) =
      .done accepted t' ∧
    ((accepted = true ↔ Accepts ScsiCommand.testUnitReady.cbw 0
        (.ofBytes (CommandStatusWrapper.bytes ⟨CSW_SIG, 7, 0, 0⟩))) ↔
      ¬ Mistaken ScsiCommand.testUnitReady.cbw 0
        (.ofBytes (CommandStatusWrapper.bytes ⟨CSW_SIG, 7, 0, 0⟩))) :=
  @accepts_iff_of_not_mistaken .ready .asked (.init init_ready) .testUnitReady 0 {} le_rfl []
    (by simp) rfl (by decide +kernel) 0 _ (by decide) {}

/-- **The right answer is rejected and a wrong one accepted.** After TEST UNIT READY a device
answers with the status wrapper of that command, or with a wrapper of the same tag under the
signature of a command. -/
theorem right_answer_rejected :
    transfers.exec .ready [.command .testUnitReady 0 {}] = some .asked ∧
      State.asked.inflight .csw = true ∧
    (∃ t, run (sem {}) (cswVerdict { State.asked.urb .csw with status := 0 })
        (State.asked.giveBack .csw 0 (answer CSW_SIG).bytes) = .done false t) ∧
      Accepts ScsiCommand.testUnitReady.cbw 0 (.ofBytes (answer CSW_SIG).bytes) ∧
    (∃ t, run (sem {}) (cswVerdict { State.asked.urb .csw with status := 0 })
        (State.asked.giveBack .csw 0 (answer CBW_SIG).bytes) = .done true t) ∧
      ¬ Accepts ScsiCommand.testUnitReady.cbw 0 (.ofBytes (answer CBW_SIG).bytes) :=
  ⟨rfl, by decide +kernel, ⟨_, rfl⟩, ⟨by decide, by decide, by decide⟩, ⟨_, rfl⟩,
    fun h => absurd h.2.1 (by decide)⟩

end KernelDriverLab.Usb
