import KernelDriverLab.Lib.Throughout
import KernelDriverLab.UsbV1.Requests

/-!
# The command block wrapper

`queue_command` clears the wrapper in the device structure, stores its fields, copies the
descriptor block behind them and copies the whole into the buffer of the URB that `count`
selects.  `Cmnd.wrapper` is what a device should read there, whatever was in the structure and
in the buffer before.

`calls` runs the calls of the driver in any order and from any state in which the URBs and
the buffers of the wrappers are allocated; `sentAlong` are the URBs that `queue_command` submits
in such a run, with what their transfer buffers show when it does.
-/

namespace KernelDriverLab.UsbV1

open Lib Prog

/-! ## One wrapper -/

/-- How much of the descriptor block of a command fits into a wrapper. -/
def Cmnd.cbLength (sc : Cmnd) : ℕ := min sc.cmdLen.toNat 16

/-- The wrapper that a device is to be sent for a command. -/
def Cmnd.wrapper (sc : Cmnd) (tag : UInt32) : CommandBlockWrapper where
  dCBWSignature := CBW_SIG
  dCBWTag := tag
  dCBWDataTransferLength := sc.length
  bmCBWFlags := if sc.scDataDirection = .dmaFromDevice then 0x80 else 0
  bCBWLUN := 0
  bCBWCBLength := .ofNat sc.cbLength
  cbwcb := sc.cmnd.take sc.cbLength ++ List.replicate (16 - sc.cbLength) 0

/-- The wrapper in the transfer buffer of an URB, when there are 31 bytes. -/
def State.sent (s : State) (u : UrbId) : Option CommandBlockWrapper :=
  (s.urb u).transferBuffer.bind fun b =>
    if CBW_LEN ≤ (s.buf b).length then some (.ofBytes ((s.buf b).take CBW_LEN)) else none

section Wrapper

variable {sc : Cmnd}

lemma cbLength_le (sc : Cmnd) : sc.cbLength ≤ 16 := Nat.min_le_right _ _

/-- `min_t(u8, cmd_len, 16)` loses nothing of a length that fits into a byte. -/
lemma toNat_cbLength (hlen : sc.cmdLen ≤ 32) :
    min sc.cmdLen.toUInt8 16 = .ofNat sc.cbLength ∧
      (min sc.cmdLen.toUInt8 16).toNat = sc.cbLength := by
  have h32 : sc.cmdLen.toNat ≤ 32 := hlen
  have hbyte : sc.cmdLen.toUInt8.toNat = sc.cmdLen.toNat := by
    rw [UInt16.toNat_toUInt8]
    omega
  have hnat : (min sc.cmdLen.toUInt8 16).toNat = sc.cbLength := by
    rw [Cmnd.cbLength, ← hbyte]
    exact UInt8.toNat_min _ _
  exact ⟨by rw [← hnat, UInt8.ofNat_toNat], hnat⟩

/-- The stages of `queue_command` make up the wrapper from nothing but the command and the
tag. -/
lemma wrapped_cbw (d : Dev) (hlen : sc.cmdLen ≤ 32) :
    ((d.wrapHeader sc).wrapCdb sc).cbw = sc.wrapper d.cbwTag := by
  obtain ⟨hlength, hnat⟩ := toNat_cbLength hlen
  have htake : (sc.cmnd.take sc.cbLength).length = sc.cbLength := by
    have := sc.cmnd_length
    have := cbLength_le sc
    rw [List.length_take]
    omega
  simp only [Dev.wrapCdb, Dev.wrapHeader, cbwHeader, CommandBlockWrapper.zero, overwrite, hnat,
    htake, List.drop_replicate]
  rw [hlength]
  rfl

lemma length_wrapper_bytes (sc : Cmnd) (tag : UInt32) :
    (sc.wrapper tag).bytes.length = CBW_LEN := by
  have := sc.cmnd_length
  have := cbLength_le sc
  simp only [Cmnd.wrapper, CommandBlockWrapper.bytes, List.length_append, length_leBytes,
    List.length_cons, List.length_take, List.length_replicate, CBW_LEN]
  omega

end Wrapper

/-! ## One call -/

/-- The URBs and the buffers of the wrappers are there. -/
structure State.Allocated (s : State) : Prop where
  urb : ∀ u, s.dev.urb u ≠ none
  buffer : ∀ b, b ≠ .data → s.dev.buffer b ≠ none

lemma State.Allocated.same {s t : State} (h : s.Allocated) (hdev : s.dev.Same t.dev) :
    t.Allocated :=
  ⟨fun u => hdev.urb ▸ h.urb u, fun b hb => hdev.buffer ▸ h.buffer b hb⟩

/-- What `queue_command` leaves behind when it has wrapped command `c`. -/
structure Wraps (s : State) (c : CmndId) (t : State) : Prop where
  allocated : t.Allocated
  tag : t.dev.cbwTag = s.dev.cbwTag + 1
  count : t.dev.count = s.dev.count
  data : t.HasData (s.cmnd c).length
  request : ∀ d, (t.cmnd d).request = (s.cmnd d).request
  transfer : (t.urb (cbwUrb s.dev.count)).transferBuffer = some (cbwUrb s.dev.count).buf
  buf : (s.cmnd c).cmdLen ≤ 32 → ∃ old, t.buf (cbwUrb s.dev.count).buf =
    overwrite old ((s.cmnd c).wrapper s.dev.cbwTag).bytes

namespace Wraps

variable {s t : State} {c : CmndId}

lemma congr (h : Wraps s c t) {t' : State} (hdev : t'.dev = t.dev) (hurb : t'.urb = t.urb)
    (hbuf : t'.buf = t.buf) (hcmnd : ∀ d, (t'.cmnd d).request = (t.cmnd d).request) :
    Wraps s c t' where
  allocated := h.allocated.same (hdev ▸ .refl _)
  tag := hdev ▸ h.tag
  count := hdev ▸ h.count
  data := by
    rw [State.HasData, hdev, hbuf]
    exact h.data
  request d := (hcmnd d).trans (h.request d)
  transfer := hurb ▸ h.transfer
  buf hlen := hbuf ▸ h.buf hlen

lemma setResult (h : Wraps s c t) (d : CmndId) (r : ℕ) :
    Wraps s c (t.modCmnd d fun x => { x with result := r }) := by
  refine h.congr rfl rfl rfl fun b => ?_
  by_cases hb : b = d
  · subst hb
    simp [Cmnd.request]
  · simp [hb]

lemma submit (h : Wraps s c t) (e : Env) (own : CmndId) (u : UrbId) :
    Wraps s c (t.submit e own u) := by
  unfold State.submit
  repeat' split
  all_goals exact h.congr rfl rfl rfl fun _ => rfl

/-- The transfer buffer shows the wrapper of the command. -/
lemma sent (h : Wraps s c t) (hlen : (s.cmnd c).cmdLen ≤ 32) :
    t.sent (cbwUrb s.dev.count) = some ((s.cmnd c).wrapper s.dev.cbwTag) := by
  obtain ⟨old, hbuf⟩ := h.buf hlen
  have hbytes := length_wrapper_bytes (s.cmnd c) s.dev.cbwTag
  have htake : (overwrite old ((s.cmnd c).wrapper s.dev.cbwTag).bytes).take CBW_LEN =
      ((s.cmnd c).wrapper s.dev.cbwTag).bytes := by
    rw [overwrite, List.take_left' hbytes]
  have hle : CBW_LEN ≤ (overwrite old ((s.cmnd c).wrapper s.dev.cbwTag).bytes).length := by
    rw [overwrite, List.length_append]
    omega
  simp [State.sent, h.transfer, hbuf, htake, hle]

end Wraps

section Call

variable (e : Env) (c : CmndId) {s : State}

/-- **One call.** With a data buffer `queue_command` submits the selected URB, once, and always
returns.  The transfer buffer of that URB begins with the wrapper of the command under the tag
that the device had before, and the next tag is one more. -/
lemma queueCommand_wraps (hs : s.Allocated) (hu : e.usable (s.cmnd c).length = true) :
    (∃ s₁, performed (sem e c) Op.submits (queueCommand c) s = [(cbwUrb s.dev.count, s₁)] ∧
      Wraps s c s₁) ∧
      ∃ rv t, run (sem e c) (queueCommand c) s = .done rv t ∧ Wraps s c t := by
  obtain ⟨s', hsame, htag, hdata, hrun⟩ := run_queueCommand_of_ptr e c hs.urb hs.buffer hu
  obtain ⟨u, hucbw⟩ : ∃ u, u = cbwUrb s.dev.count := ⟨_, rfl⟩
  obtain ⟨s₁, hs₁⟩ : ∃ s₁, s₁ = (s'.wrap (s.cmnd c)).ready u ⟨false, s'.dev.bulkOutEndpointaddr⟩
    (.ofNat CBW_LEN) .cbwCallback := ⟨_, rfl⟩
  have hne : u.buf ≠ .data := hucbw ▸ cbwUrb_buf_ne_data _
  have hdev : s₁.dev = (s'.dev.wrapHeader (s.cmnd c)).wrapCdb (s.cmnd c) := by
    rw [hs₁]
    rfl
  have hbuf : s₁.buf = Function.update s'.buf u.buf (overwrite (s'.buf u.buf)
      ((s'.dev.wrapHeader (s.cmnd c)).wrapCdb (s.cmnd c)).cbw.bytes) := by
    have hcount : s'.dev.count = s.dev.count := hsame.count
    rw [hs₁, hucbw, ← hcount]
    rfl
  obtain ⟨i, hi⟩ := Option.ne_none_iff_exists'.1 (hsame.buffer _ hne ▸ hs.buffer _ hne)
  have hwraps : Wraps s c s₁ := by
    constructor
    case allocated =>
      refine ⟨fun v => ?_, fun b hb => ?_⟩ <;> rw [hdev]
      · exact hsame.urb_ptr ▸ hs.urb v
      · exact hsame.buffer b hb ▸ hs.buffer b hb
    case tag =>
      rw [hdev, ← htag]
      rfl
    case count =>
      rw [hdev]
      exact hsame.count
    case data =>
      rw [State.HasData, hdev, hbuf, Function.update_of_ne hne.symm]
      exact hdata
    case request =>
      intro d
      rw [hs₁]
      exact congrArg (fun f => (f d).request) hsame.cmnd
    case transfer =>
      simp [← hucbw, hs₁, State.ready, State.fillBulkUrb, State.wrap, Dev.wrapHeader,
        Dev.wrapCdb, hi]
    case buf =>
      intro hlen
      exact ⟨s'.buf u.buf, by rw [← hucbw, hbuf, Function.update_self, wrapped_cbw _ hlen, htag]⟩
  obtain ⟨hsubmits, hrun⟩ := hrun u s₁ hucbw hs₁
  refine ⟨⟨s₁, hucbw ▸ hsubmits, hwraps⟩, ?_⟩
  -- a submission that fails leaves the wrapper in the buffer
  rw [hrun]
  by_cases hrv : s₁.submitValue e u = 0
  · exact ⟨0, _, if_pos hrv, (hwraps.submit e c u).setResult c _⟩
  · refine ⟨-ENOMEM, _, if_neg hrv, ?_⟩
    exact ((hwraps.submit e c u).setResult c didError).congr rfl rfl rfl fun _ => rfl

end Call

/-! ## Runs -/

/-- The calls of the driver, on any device that has its URBs and buffers.  There is no next
state after an oops. -/
def calls : System State Call where
  Init := State.Allocated
  next s
    | .queueCommand c e => (run (sem e c) (queueCommand c) s).final
    | .complete u st n received e =>
        (s.inflight u).bind fun c => (runCallback e u c (s.giveBack u st n received)).final
    | .handler h c e => (runHandler h c e s).final

/-- No error handler resets the device in this call. -/
def Call.NoReset : Call → Prop
  | .handler h _ e => h.resets e = false
  | _ => True

/-- A submission of `queue_command`: the command, the tag and `count` of the device when it was
called, the URB that it hands to `usb_submit_urb` and what the transfer buffer of that URB
shows there. -/
structure Sent where
  cmd : Cmnd
  tag : UInt32
  count : ℕ
  urb : UrbId
  wrapper : Option CommandBlockWrapper

/-- The submissions of `queue_command` in a call from `s`. -/
def sentBy (s : State) : Call → List Sent
  | .queueCommand c e =>
      (performed (sem e c) Op.submits (queueCommand c) s).map fun x =>
        ⟨s.cmnd c, s.dev.cbwTag, s.dev.count, x.1, x.2.sent x.1⟩
  | _ => []

/-- The submissions of `queue_command` in the calls of a run. -/
def sentAlong (s : State) : List Call → List Sent
  | [] => []
  | l :: ls => match calls.next s l with
    | none => []
    | some t => sentBy s l ++ sentAlong t ls

section Run

variable {s t : State} {l : Call}

lemma next_calls_queueCommand {c : CmndId} {e : Env} (hs : s.Allocated)
    (h : calls.next s (.queueCommand c e) = some t) :
    if e.usable (s.cmnd c).length then Wraps s c t
    else t.Allocated ∧ t.dev.cbwTag = s.dev.cbwTag := by
  split_ifs with hu
  · obtain ⟨-, rv, t', hrun, hw⟩ := queueCommand_wraps e c hs hu
    obtain rfl : t' = t := by simpa [calls, hrun, Outcome.final] using h
    exact hw
  · obtain ⟨t', hrun, hsame, htag, -⟩ := run_queueCommand_refused e c (by simpa using hu)
    obtain rfl : t' = t := by simpa [calls, hrun, Outcome.final] using h
    exact ⟨⟨fun u => hsame.urb_ptr ▸ hs.urb u, fun b hb => hsame.buffer b hb ▸ hs.buffer b hb⟩,
      htag⟩

/-- A call that is not one of `queue_command` keeps the pointers, and the tag unless it
resets the device. -/
lemma next_calls_other (hs : s.Allocated) (hl : ∀ c e, l ≠ .queueCommand c e)
    (h : calls.next s l = some t) :
    t.Allocated ∧ (l.NoReset → t.dev.cbwTag = s.dev.cbwTag) := by
  cases l with
  | queueCommand c e => exact absurd rfl (hl c e)
  | complete u st n received e =>
    simp only [calls, Option.bind_eq_some_iff] at h
    obtain ⟨c, -, hfinal⟩ := h
    have hk := continued_complete (e := e) (u := u) (c := c) (s := s) st n received
    rw [Outcome.state_of_final hfinal] at hk
    exact ⟨hs.same hk.dev, fun _ => hk.tag⟩
  | handler hd c e =>
    have hstate := Outcome.state_of_final (show (runHandler hd c e s).final = some t from h)
    by_cases hh : hd = .abort
    · subst hh
      have hk := continued_abort (e := e) (c := c) (s := s)
      rw [hstate] at hk
      exact ⟨hs.same hk.dev, fun _ => hk.tag⟩
    · rw [run_reset e c hh] at hstate
      split_ifs at hstate with hreset <;> obtain rfl := hstate
      · refine ⟨⟨hs.urb, hs.buffer⟩, fun hno => ?_⟩
        have hno' : hd.resets e = false := hno
        rw [hno'] at hreset
        cases hreset
      · exact ⟨hs, fun _ => rfl⟩

/-- Without a data buffer `queue_command` submits nothing; otherwise it is one submission, of the
selected URB with the wrapper. -/
lemma sentBy_queueCommand (hs : s.Allocated) (c : CmndId) (e : Env) :
    if e.usable (s.cmnd c).length then
      ∃ s₁, Wraps s c s₁ ∧ sentBy s (.queueCommand c e) =
        [⟨s.cmnd c, s.dev.cbwTag, s.dev.count, cbwUrb s.dev.count,
          s₁.sent (cbwUrb s.dev.count)⟩]
    else sentBy s (.queueCommand c e) = [] := by
  split_ifs with hu
  · obtain ⟨⟨s₁, hsubmits, hw⟩, -⟩ := queueCommand_wraps e c hs hu
    exact ⟨s₁, hw, by simp [sentBy, hsubmits]⟩
  · simp [sentBy, performed_queueCommand_refused e c (by simpa using hu)]

/-- What a call submits is the selected URB, with a wrapper of its command under the tag of the
device. -/
lemma sentBy_wrapper (hs : s.Allocated) {x : Sent} (hx : x ∈ sentBy s l) :
    x.urb = cbwUrb x.count ∧ (x.cmd.cmdLen ≤ 32 → x.wrapper = some (x.cmd.wrapper x.tag)) := by
  cases l with
  | queueCommand c e =>
    have hq := sentBy_queueCommand hs c e
    split_ifs at hq with hu
    · obtain ⟨s₁, hw, hsent⟩ := hq
      rw [hsent, List.mem_singleton] at hx
      subst hx
      exact ⟨rfl, hw.sent⟩
    · rw [hq] at hx
      cases hx
  | complete | handler => cases hx

/-- A step submits nothing, or one wrapper, which uses up the tag. -/
lemma sentBy_tag (hs : s.Allocated) (h : calls.next s l = some t) (hl : l.NoReset) :
    sentBy s l = [] ∧ t.dev.cbwTag = s.dev.cbwTag ∨
      ∃ x, sentBy s l = [x] ∧ x.tag = s.dev.cbwTag ∧ t.dev.cbwTag = s.dev.cbwTag + 1 := by
  cases l with
  | queueCommand c e =>
    have hq := next_calls_queueCommand hs h
    have hsent := sentBy_queueCommand hs c e
    split_ifs at hq hsent with hu
    · obtain ⟨s₁, -, hsent⟩ := hsent
      exact .inr ⟨_, hsent, rfl, hq.tag⟩
    · exact .inl ⟨hsent, hq.2⟩
  | complete | handler =>
    exact .inl ⟨rfl, (next_calls_other hs (by simp) h).2 hl⟩

lemma allocated_next (hs : s.Allocated) (h : calls.next s l = some t) : t.Allocated := by
  cases l with
  | queueCommand c e =>
    have hq := next_calls_queueCommand hs h
    split_ifs at hq
    · exact hq.allocated
    · exact hq.1
  | complete | handler => exact (next_calls_other hs (by simp) h).1

lemma sentAlong_wrapper (hs : s.Allocated) {ls : List Call} {x : Sent}
    (hx : x ∈ sentAlong s ls) :
    x.urb = cbwUrb x.count ∧ (x.cmd.cmdLen ≤ 32 → x.wrapper = some (x.cmd.wrapper x.tag)) := by
  induction ls generalizing s with
  | nil => cases hx
  | cons l ls ih =>
    cases h : calls.next s l with
    | none => simp [sentAlong, h] at hx
    | some t =>
      simp only [sentAlong, h, List.mem_append] at hx
      rcases hx with hx | hx
      · exact sentBy_wrapper hs hx
      · exact ih (allocated_next hs h) hx

/-- The `i`-th wrapper of a run without resets has the `i`-th tag. -/
lemma sentAlong_tag (hs : s.Allocated) {ls : List Call} (hls : ∀ l ∈ ls, l.NoReset) {i : ℕ}
    {x : Sent} (hx : (sentAlong s ls)[i]? = some x) : x.tag = s.dev.cbwTag + .ofNat i := by
  induction ls generalizing s i with
  | nil => simp [sentAlong] at hx
  | cons l ls ih =>
    cases h : calls.next s l with
    | none => simp [sentAlong, h] at hx
    | some t =>
      have hrest {j : ℕ} (hj : (sentAlong t ls)[j]? = some x) :
          x.tag = t.dev.cbwTag + .ofNat j :=
        ih (allocated_next hs h) (fun l hl => hls l (.tail _ hl)) hj
      simp only [sentAlong, h] at hx
      rcases sentBy_tag hs h (hls l (.head _)) with ⟨hsent, htag⟩ | ⟨y, hsent, hy, htag⟩ <;>
        rw [hsent] at hx
      · rw [← htag]
        exact hrest hx
      · -- the call has used up a tag: its own wrapper comes first, the others are one further
        cases i with
        | zero =>
          obtain rfl : y = x := by simpa using hx
          simpa using hy
        | succ j =>
          rw [hrest (by simpa using hx), htag, UInt32.add_assoc, UInt32.add_comm 1,
            UInt32.ofNat_add]
          rfl

end Run

/-- **The wrappers of a run.** In a run of any calls of the driver from any state with the URBs
and the buffers of the wrappers in place, `queue_command` submits the URB that `count` selects
and no other, and at that moment its transfer buffer shows the command and the tag that the
device had on entry.  As long as the device is not reset the tags go up one by one, so two of
them are different unless `2 ^ 32` commands or more lie between them. -/
theorem wrappers_and_tags {s : State} (hs : s.Allocated) (ls : List Call) :
    (∀ x ∈ sentAlong s ls, x.urb = cbwUrb x.count ∧
      (x.cmd.cmdLen ≤ 32 → x.wrapper = some (x.cmd.wrapper x.tag))) ∧
    ((∀ l ∈ ls, l.NoReset) →
      (∀ i x, (sentAlong s ls)[i]? = some x → x.tag = s.dev.cbwTag + .ofNat i) ∧
      ∀ i j x y, (sentAlong s ls)[i]? = some x → (sentAlong s ls)[j]? = some y → i < j →
        j - i < 2 ^ 32 → x.tag ≠ y.tag) := by
  refine ⟨fun x hx => sentAlong_wrapper hs hx, fun hls => ?_⟩
  have htag (i : ℕ) (x : Sent) (hx : (sentAlong s ls)[i]? = some x) :
      x.tag = s.dev.cbwTag + .ofNat i := sentAlong_tag hs hls hx
  refine ⟨htag, fun i j x y hx hy hij hdist heq => ?_⟩
  rw [htag i x hx, htag j y hy, UInt32.add_right_inj, ← UInt32.toNat_inj,
    UInt32.toNat_ofNat', UInt32.toNat_ofNat'] at heq
  omega

/-- Two READ(10), of which the second uses the other URB. -/
def twoReads : List Call :=
  [.queueCommand 0 {}, .complete .cbw 0 31 [] {}, .queueCommand 1 {}]

/-- READ(10) for ever, on a device before the last tag. -/
def State.lastTag : State :=
  (State.start fun _ => .plain 0x28 .dmaFromDevice 8 0).modDev fun d =>
    { d with cbwTag := 0xFFFFFFFF }

theorem wrappers_and_tags_two : ∃ x y : Sent,
    (sentAlong .lastTag twoReads)[0]? = some x ∧
      (sentAlong .lastTag twoReads)[1]? = some y ∧ y.urb = cbwUrb y.count ∧
      x.wrapper = some (x.cmd.wrapper x.tag) ∧ y.tag = 0xFFFFFFFF + 1 ∧ x.tag ≠ y.tag := by
  have hlen : (sentAlong .lastTag twoReads).length = 2 := by decide +kernel
  have hx := List.getElem?_eq_getElem (l := sentAlong .lastTag twoReads) (i := 0) (by omega)
  have hy := List.getElem?_eq_getElem (l := sentAlong .lastTag twoReads) (i := 1) (by omega)
  have hstart := probed_start fun _ => .plain 0x28 .dmaFromDevice 8 0
  obtain ⟨hwrapper, htags⟩ :=
    wrappers_and_tags (s := .lastTag) ⟨hstart.urb_ptr, hstart.buf_ptr⟩ twoReads
  have hcdb : ∀ x ∈ sentAlong .lastTag twoReads, x.cmd.cmdLen ≤ 32 := by decide +kernel
  obtain ⟨htag, hne⟩ := htags (by simp [twoReads, Call.NoReset])
  obtain ⟨-, hshown⟩ := hwrapper _ (List.mem_of_getElem? hx)
  obtain ⟨hurb, -⟩ := hwrapper _ (List.mem_of_getElem? hy)
  exact ⟨_, _, hx, hy, hurb, hshown (hcdb _ (List.getElem_mem _)), htag 1 _ hy,
    hne 0 1 _ _ hx hy (by decide) (by decide)⟩

end KernelDriverLab.UsbV1
