import KernelDriverLab.Lib.Protocol
import KernelDriverLab.Usb.Interleaving

/-!
# Taking the device apart

`usb_disconnect` kills and frees the pairs one after the other and the device last.
`teardown` is the order in which it does that, as a protocol with four stages, and
`Scope` says what each of the other functions uses.  `not_gone_of_scope` is the
comparison of the two: what may be gone in a stage is out of scope for every function
that may still do something in it.

The operations of both sides keep what `usb_disconnect` relies on, which is that an
URB it is to kill is still there, and that an URB it has killed stays idle.
-/

namespace KernelDriverLab.Usb

open Lib Prog
open UsbV1 (EINVAL)

/-! ## What usb_disconnect does, stage by stage -/

/-- How far `usb_disconnect` has come. -/
inductive Stage where
  /-- It has not killed `cbw_urb` yet. -/
  | intact
  /-- It has killed `cbw_urb`, but not `csw_urb`. -/
  | cbwKilled
  /-- It has killed `csw_urb`. -/
  | cswKilled
  /-- It has freed the device. -/
  | freed
deriving DecidableEq, Repr

/-- The operations by which URBs and buffers are released. -/
@[simp] def Op.Clears : Op → Prop
  | readDev | usbKillUrb _ _ | usbFreeUrb _ _ | usbFreeCoherent _ _ _ | kfree _ _ | usbClearHalt _
  | usbSetIntfdata _ | usbPutDev _ => True
  | setUrb _ p | setBuffer _ p => p = none
  | _ => False

/-- The operations of `usb_disconnect` in a stage. -/
@[simp] def Stage.allow : Stage → Op → Prop
  | .intact, .readDev | .intact, .setCbwTag _ | .intact, .usbGetIntfdata => True
  | .intact, .usbKillUrb u p => u = .cbw ∧ p ≠ none
  | .intact, _ => False
  | .cbwKilled, .readDev => True
  | .cbwKilled, .usbFreeUrb u _ => u = .cbw
  | .cbwKilled, .setUrb u p => u = .cbw ∧ p = none
  | .cbwKilled, .usbFreeCoherent b _ _ => b = .cbw
  | .cbwKilled, .setBuffer b p => b = .cbw ∧ p = none
  | .cbwKilled, .usbKillUrb u p => u = .csw ∧ p ≠ none
  | .cbwKilled, _ => False
  | .cswKilled, .kfreeDev _ => True
  | .cswKilled, o => o.Clears
  | .freed, _ => False

/-- What `usb_disconnect` finds: an URB that it is to kill next is there. -/
@[simp] def Stage.expect : Stage → (o : Op) → o.Ans → Prop
  | .intact, .readDev, dev => dev.urb .cbw ≠ none
  | .intact, .usbGetIntfdata, p => p ≠ none
  | .cbwKilled, .readDev, dev => dev.urb .csw ≠ none
  | _, _, _ => True

/-- The stage after an operation. -/
@[simp] def Stage.after : Stage → (o : Op) → o.Ans → Stage
  | .intact, .usbKillUrb _ _, _ => .cbwKilled
  | .cbwKilled, .usbKillUrb _ _, _ => .cswKilled
  | .cswKilled, .kfreeDev _, _ => .freed
  | d, _, _ => d

/-- The order in which `usb_disconnect` takes the device apart. -/
@[simps]
def teardown : Protocol Op Op.Ans Stage where
  allow := Stage.allow
  expect := Stage.expect
  after := Stage.after

section Follow

lemma follows_clearCbw (free : ℕ) :
    Follows teardown (clearPair .cbw .cbw .cbw (usbFreeCoherent .cbw free)) .intact
      fun d _ => d = .cbwKilled := by
  simp +contextual [clearPair, clearUrb, clearBuffer, usbKillUrb, usbFreeUrb, usbFreeCoherent,
    setUrb, setBuffer, readDev, follows_bind, op]

lemma follows_clearCsw :
    Follows teardown (clearPair .csw .csw .csw (kfree .csw)) .cbwKilled
      fun d _ => d = .cswKilled := by
  simp +contextual [clearPair, clearUrb, clearBuffer, usbKillUrb, usbFreeUrb, kfree, setUrb,
    setBuffer, readDev, follows_bind, op]

/-- Once `csw_urb` has been killed, pairs may be released in any way. -/
lemma follows_clears {α : Type} {p : Driver α} (hp : All Op.Clears p) :
    Follows teardown p .cswKilled fun d _ => d = .cswKilled := by
  refine hp.follows (fun o ho => ?_) fun o x ho => ?_
  · cases o <;> first | exact absurd ho id | exact ho
  · cases o <;> first | exact absurd ho id | rfl

lemma clears_clearPair (u field b : Pair) {free : Driver Unit} (hfree : All Op.Clears free) :
    All Op.Clears (clearPair u field b free) := by
  have hurb : All Op.Clears (clearUrb u field) := by
    simp [clearUrb, usbKillUrb, usbFreeUrb, setUrb, readDev, op]
  have hbuffer : All Op.Clears (clearBuffer b free) := by
    simp only [clearBuffer, readDev, op_bind, all_act, all_ite]
    exact ⟨trivial, fun _ =>
      ⟨fun _ => hfree.bind fun _ => by simp [setBuffer, op], fun _ => trivial⟩⟩
  simp only [clearPair, readDev, op_bind, all_act, all_ite]
  exact ⟨trivial, fun _ =>
    ⟨fun _ => trivial, fun _ => hurb.bind fun _ => hbuffer.bind fun _ => trivial⟩⟩

lemma follows_usbClearBufferAndUrb :
    Follows teardown usbClearBufferAndUrb .intact fun d rv => d = .cswKilled ∧ rv = 0 := by
  simp only [usbClearBufferAndUrb, follows_bind]
  refine (follows_clearCbw _).mono ?_
  rintro _ - rfl
  refine follows_clearCsw.mono ?_
  rintro _ - rfl
  -- the other three pairs are released behind `csw_urb`
  refine (follows_clears (clears_clearPair _ _ _ (by simp [kfree, readDev, op]))).mono ?_
  rintro _ - rfl
  refine (follows_clears (clears_clearPair _ _ _ (by simp [usbFreeCoherent, readDev, op]))).mono ?_
  rintro _ - rfl
  refine (follows_clears (clears_clearPair _ _ _ (by simp [kfree, readDev, op]))).mono ?_
  rintro _ - rfl
  exact ⟨rfl, rfl⟩

lemma follows_usbDisconnect : Follows teardown usbDisconnect .intact fun _ _ => True := by
  rw [usbDisconnect, usbGetIntfdata, op_bind]
  refine ⟨trivial, fun p hp => ?_⟩
  cases p with
  | none => exact absurd rfl hp
  | some dev =>
    simp only [setCbwTag, op_bind, follows_act]
    refine ⟨trivial, fun _ _ => follows_bind.2 (follows_usbClearBufferAndUrb.mono ?_)⟩
    rintro _ _ ⟨rfl, rfl⟩
    simp [usbClearHalt, usbSetIntfdata, kfreeDev, readDev, op]

end Follow

/-! ## What the other functions use -/

/-- What a function of each kind uses. -/
@[simp] def Scope : Role → Thing → Prop
  | .work, x => x = .dev ∨ x = .urb .cbw ∨ x = .buffer .cbw
  | .disconnect, _ => False
  | .callback .cbw, x => x ≠ .urb .cbw
  | .callback .csw, x => x = .dev ∨ x = .buffer .csw
  | .callback _, x => x = .dev ∨ x = .urb .csw ∨ x = .buffer .csw

/-- The operation uses only what is in scope.  It may drop a pair, but not the two on
which `usb_disconnect` begins, and it fills an URB with its own completion function. -/
@[simp] def Op.Within (r : Role) : Op → Prop
  | setUrb u p => Scope r .dev ∧ p = none ∧ u ≠ .cbw ∧ u ≠ .csw
  | usbFillBulkUrb u _ _ _ _ cb => (∀ x ∈ [Thing.urb u, .buffer u], Scope r x) ∧ cb = u.callback
  | setUdev _ | setBulkIn _ | setBulkOut _ | setDma _ _ | kzalloc | kmalloc _ _
  | usbAllocCoherent _ _ | usbAllocUrb _ | usbGetDev | usbPutDev _ | usbGetIntfdata
  | usbSetIntfdata _ | scheduleWork | kfreeDev _ => False
  | o => ∀ x ∈ o.uses, Scope r x

/-- The URB has been filled for its own pair, if at all. -/
structure Urb.Own (r : Urb) (u : Pair) : Prop where
  complete : ∀ cb, r.complete = some cb → cb = u.callback
  transferBuffer : ∀ b, r.transferBuffer = some b → b = u

section Shape

lemma within_initUsbProtocols : All (Op.Within .work) initUsbProtocols := by
  simp [initUsbProtocols, sendCommand, msleep, memcpyTo, setMyCbw, usbFillBulkUrb, useDma,
    usbSubmitUrb, readDev, op, Pair.callback]

lemma within_receiveStatus {r : Role} (hdev : Scope r .dev) (hurb : Scope r (.urb .csw))
    (hbuffer : Scope r (.buffer .csw)) : All (Op.Within r) receiveStatus := by
  simp [receiveStatus, usbFillBulkUrb, usbSubmitUrb, readDev, op, -Scope, hdev, hurb, hbuffer,
    Pair.callback]

lemma within_transferData {u : Pair} (hcbw : u ≠ .cbw) (hdata : u.callback = .dataCallback)
    {dirIn : Bool} {len : ℕ} {dma : Bool} {cleanup : Driver Unit}
    (hc : All (Op.Within (.callback .cbw)) cleanup) :
    All (Op.Within (.callback .cbw)) (transferData u dirIn len dma cleanup) := by
  cases dma <;>
    simp [transferData, beginTransfer, usbFillBulkUrb, useDma, usbSubmitUrb, readDev, op, hc, hcbw,
      hdata]

lemma within_dropPair {u : Pair} (hcbw : u ≠ .cbw) (hcsw : u ≠ .csw) :
    All (Op.Within (.callback .cbw)) (dropPair u) := by
  simp [dropPair, usbKillUrb, usbFreeUrb, kfree, setBuffer, setUrb, readDev, op, hcbw, hcsw]

lemma within_rUrb : All (Op.Within (.callback .cbw)) rUrb := by
  simp [rUrb, usbKillUrb, usbFreeUrb, kfree, setBuffer, setUrb, readDev, op]

lemma within_dispatch (opcode : UInt8) : All (Op.Within (.callback .cbw)) (dispatch opcode) := by
  have hwrite := within_dropPair (u := .write) (by decide) (by decide)
  have hinquiry := within_dropPair (u := .inquiry) (by decide) (by decide)
  simp only [dispatch, all_ite]
  refine ⟨fun _ => ?_, fun _ => ⟨fun _ => ?_, fun _ => ⟨fun _ => ?_, fun _ => ⟨fun _ => ?_,
    fun _ => ⟨fun _ => ?_, fun _ => ⟨fun _ => ?_, fun _ => trivial⟩⟩⟩⟩⟩⟩
  · exact within_transferData (by decide) rfl hwrite
  · exact within_transferData (by decide) rfl within_rUrb
  · exact within_receiveStatus (by simp) (by simp) (by simp)
  · exact within_transferData (by decide) rfl hinquiry
  · exact within_transferData (by decide) rfl hinquiry
  · exact within_transferData (by decide) rfl within_rUrb

lemma within_cbwCallback {urb : Urb} (hurb : urb.Own .cbw) :
    All (Op.Within (.callback .cbw)) (cbwCallback urb) := by
  cases h : urb.transferBuffer with
  | none => simp [cbwCallback, h, oops]
  | some b =>
    obtain rfl := hurb.transferBuffer b h
    simp [cbwCallback, h, readCbw, readBuf, setCbwTag, op, within_dispatch]

lemma within_dataCallback {u : Pair} (hu : u.callback = .dataCallback) (urb : Urb) :
    All (Op.Within (.callback u)) (dataCallback urb) := by
  have hstatus : All (Op.Within (.callback u)) receiveStatus := by
    cases u with
    | cbw | csw => cases hu
    | read | inquiry | write => exact within_receiveStatus (by simp) (by simp) (by simp)
  simp [dataCallback, hstatus]

lemma within_cswCallback {urb : Urb} (hurb : urb.Own .csw) :
    All (Op.Within (.callback .csw)) (cswCallback urb) := by
  cases h : urb.transferBuffer with
  | none => simp [cswCallback, h, oops, usbClearHalt, readDev, op]
  | some b =>
    obtain rfl := hurb.transferBuffer b h
    simp [cswCallback, h, readCsw, readBuf, usbClearHalt, readDev, op]

/-- A completion function uses what is in its scope. -/
lemma within_callback {u : Pair} {urb : Urb} (hurb : urb.Own u) :
    All (Op.Within (.callback u)) (u.callback.body urb) := by
  cases u with
  | cbw => exact within_cbwCallback hurb
  | csw => exact within_cswCallback hurb
  | read | inquiry | write => exact within_dataCallback rfl urb

end Shape

lemma uses_of_within {r : Role} {o : Op} (ho : o.Within r) : ∀ x ∈ o.uses, Scope r x := by
  cases o <;> first | exact absurd ho id | exact ho | skip
  case setUrb u p =>
    intro x hx
    obtain rfl : x = .dev := by simpa using hx
    exact ho.1
  case usbFillBulkUrb u urb buffer pipe len cb => exact ho.1

/-! ## The two sides together -/

/-- What may be gone in a stage. -/
def Stage.Gone : Stage → Thing → Prop
  | .intact, _ => False
  | .cbwKilled, x => x = .urb .cbw ∨ x = .buffer .cbw
  | .cswKilled, x => x ≠ .dev
  | .freed, _ => True

/-- A function of this kind may still have something to do. -/
def Stage.Alive : Stage → Role → Prop
  | .intact, _ => True
  | .cbwKilled, r => r ≠ .work ∧ r ≠ .callback .cbw
  | .cswKilled, _ | .freed, _ => False

/-- What `usb_disconnect` relies on in a stage. -/
def Stage.Sound (s : State) : Stage → Prop
  | .intact => s.dev.urb .cbw ≠ none ∧ s.dev.urb .csw ≠ none ∧ s.intfdata ≠ none
  | .cbwKilled => s.inflight .cbw = false ∧ s.dev.urb .csw ≠ none
  | .cswKilled | .freed => s.inflight .cbw = false ∧ s.inflight .csw = false

/-- What is gone is out of scope for every function that may still do something. -/
lemma not_gone_of_scope {d : Stage} {r : Role} {x : Thing} (hr : r ≠ .disconnect) (ha : d.Alive r)
    (hx : Scope r x) : ¬ d.Gone x := by
  cases d with
  | intact => exact id
  | cbwKilled =>
    rintro (rfl | rfl)
    · cases r with
      | work => exact ha.1 rfl
      | disconnect => exact hr rfl
      | callback u => cases u <;> simp at hx
    · cases r with
      | work => exact ha.1 rfl
      | disconnect => exact hr rfl
      | callback u =>
        cases u with
        | cbw => exact ha.2 rfl
        | _ => simp at hx
  | cswKilled | freed => exact absurd ha id

/-- `usb_disconnect` itself uses the device only, and not after it has freed it. -/
lemma not_gone_of_allow {d : Stage} {o : Op} (ho : d.allow o) : ∀ x ∈ o.uses, ¬ d.Gone x := by
  cases d <;> cases o <;> first | exact absurd ho id | simp [Stage.Gone]

section Steps

variable {e : Env} {s s' : State} {o : Op}

/-- The operation fills an URB, if any, for its own pair. -/
def Op.FillsOwn : Op → Prop
  | usbFillBulkUrb u _ _ _ _ cb => cb = u.callback
  | _ => True

/-- An URB is put in flight only by an operation that uses it. -/
lemma inflight_sem {u : Pair} (h : (sem e o s).state.inflight u = true) :
    s.inflight u = true ∨ .urb u ∈ o.uses := by
  cases o <;> simp only [sem] at h
  case usbSubmitUrb v p =>
    by_cases hv : u = v
    · exact .inr (by simp [hv])
    · left
      revert h
      split_ifs <;> simp [hv]
  case usbKillUrb v p | usbAllocUrb v =>
    left
    revert h
    by_cases hv : u = v <;> split_ifs <;> simp [hv]
  all_goals left
  all_goals revert h
  all_goals repeat' split
  all_goals simp [State.newBuffer]

lemma own_update {f : Pair → Urb} {v : Pair} {r : Urb} (hf : ∀ u, (f u).Own u) (hr : r.Own v)
    (u : Pair) : (Function.update f v r u).Own u := by
  by_cases hu : u = v
  · subst hu
    simpa using hr
  · simpa [hu] using hf u

lemma own_sem (ho : o.FillsOwn) (hs : ∀ u, (s.urb u).Own u) (u : Pair) :
    ((sem e o s).state.urb u).Own u := by
  cases o <;> simp only [sem]
  case setTransferDma v p addr =>
    cases p with
    | none => exact hs u
    | some i =>
      exact own_update (r := { s.urb v with transferDma := addr }) hs
        ⟨(hs v).complete, (hs v).transferBuffer⟩ u
  case setNoTransferDmaMap v p =>
    cases p with
    | none => exact hs u
    | some i =>
      exact own_update (r := { s.urb v with noTransferDmaMap := true }) hs
        ⟨(hs v).complete, (hs v).transferBuffer⟩ u
  case usbFillBulkUrb v p buffer pipe len cb =>
    cases p with
    | none => exact hs u
    | some i =>
      refine own_update (r := _) hs ⟨fun cb' hcb => ?_, fun b hb => ?_⟩ u
      · exact (Option.some.inj hcb).symm.trans ho
      · obtain ⟨_, _, rfl⟩ := Option.map_eq_some_iff.1 hb
        rfl
  case usbAllocUrb v =>
    split
    · exact own_update (r := .zero) hs ⟨by simp [Urb.zero], by simp [Urb.zero]⟩ u
    · exact hs u
  all_goals repeat' split
  all_goals simp [State.newBuffer, hs u]

/-- The functions other than `usb_disconnect` keep what it relies on. -/
lemma within_sem {r : Role} (ho : o.Within r) :
    (sem e o s).state.dev.urb .cbw = s.dev.urb .cbw ∧
      (sem e o s).state.dev.urb .csw = s.dev.urb .csw ∧
      (sem e o s).state.intfdata = s.intfdata := by
  cases o <;> first | exact absurd ho id | simp only [sem]
  case setUrb u p =>
    obtain ⟨-, -, hcbw, hcsw⟩ := ho
    simp [Function.update_of_ne hcbw.symm, Function.update_of_ne hcsw.symm]
  all_goals repeat' split
  all_goals simp

variable {x : o.Ans}

/-- What `usb_disconnect` frees may be gone from then on. -/
lemma gone_disconnect {d : Stage} (ho : d.allow o) (x : o.Ans) :
    ∀ y ∈ o.releases, (d.after o x).Gone y := by
  cases d <;> cases o <;> first | exact absurd ho id | simp [Stage.Gone]
  all_goals simp_all

/-- One operation of `usb_disconnect` before it has killed `cbw_urb`. -/
lemma sound_intact (ho : Stage.intact.allow o) (hs : Stage.intact.Sound s)
    (h : sem e o s = .done x s') :
    Stage.intact.expect o x ∧ (Stage.intact.after o x).Sound s' := by
  cases o <;> first | exact absurd ho id | skip
  case usbKillUrb u p =>
    obtain ⟨rfl, hp⟩ : u = .cbw ∧ p ≠ none := ho
    simp only [sem, hp, if_false, Outcome.done.injEq] at h
    obtain ⟨-, rfl⟩ := h
    exact ⟨trivial, by simp, hs.2.1⟩
  all_goals
    obtain ⟨rfl, rfl⟩ := Outcome.done.inj h
    simp_all [Stage.Sound]

/-- One operation before it has killed `csw_urb`. -/
lemma sound_cbwKilled (ho : Stage.cbwKilled.allow o) (hs : Stage.cbwKilled.Sound s)
    (h : sem e o s = .done x s') :
    Stage.cbwKilled.expect o x ∧ (Stage.cbwKilled.after o x).Sound s' := by
  cases o <;> first | exact absurd ho id | skip
  case usbKillUrb u p =>
    obtain ⟨rfl, hp⟩ : u = .csw ∧ p ≠ none := ho
    simp only [sem, hp, if_false, Outcome.done.injEq] at h
    obtain ⟨-, rfl⟩ := h
    exact ⟨trivial, by simpa using hs.1, by simp⟩
  case usbFreeUrb u p =>
    obtain ⟨rfl, rfl⟩ := Outcome.done.inj h
    obtain ⟨f, hf⟩ := s.releasePtr_eq p .urb
    rw [hf]
    exact ⟨trivial, hs⟩
  case usbFreeCoherent b p n =>
    obtain ⟨rfl, rfl⟩ := Outcome.done.inj h
    obtain ⟨f, hf⟩ := s.releasePtr_eq p (.coherent n)
    rw [hf]
    exact ⟨trivial, hs⟩
  all_goals
    obtain ⟨rfl, rfl⟩ := Outcome.done.inj h
    simp_all [Stage.Sound]

/-- One operation after that. -/
lemma sound_cswKilled (ho : Stage.cswKilled.allow o) (hs : Stage.cswKilled.Sound s)
    (h : sem e o s = .done x s') :
    Stage.cswKilled.expect o x ∧ (Stage.cswKilled.after o x).Sound s' := by
  have hidle (u : Pair) (hu : s.inflight u = false) : s'.inflight u = false := by
    by_contra hne
    rcases inflight_sem (e := e) (o := o) (s := s) (u := u) (by simpa [h] using hne) with hin | huse
    · simp [hu] at hin
    · cases o <;> first | exact absurd ho id | simp at huse
  have hsound : s'.inflight .cbw = false ∧ s'.inflight .csw = false :=
    ⟨hidle _ hs.1, hidle _ hs.2⟩
  cases o <;> exact ⟨trivial, hsound⟩

lemma sound_disconnect {d : Stage} (ho : d.allow o) (hs : d.Sound s)
    (h : sem e o s = .done x s') : d.expect o x ∧ (d.after o x).Sound s' := by
  cases d with
  | intact => exact sound_intact ho hs h
  | cbwKilled => exact sound_cbwKilled ho hs h
  | cswKilled => exact sound_cswKilled ho hs h
  | freed => exact absurd ho id

end Steps

end KernelDriverLab.Usb
