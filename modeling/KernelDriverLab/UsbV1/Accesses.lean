import KernelDriverLab.Lib.Throughout
import KernelDriverLab.UsbV1.Traffic

/-!
# Reading through a pointer

Three operations of the completion functions read memory through a pointer that need not lead
there: the copy from a response table, the address of the data of a command, and the status
wrapper that `csw_urb` points to.  All others are direct.  For a property that the direct
operations have, the rules below say what it asks of a completion function.
-/

namespace KernelDriverLab.UsbV1

open Lib Prog

/-- The table and the number of bytes of a `memcpy`. -/
def Op.copy : Op → Option (List UInt8 × ℕ)
  | readTable t n => some (t, n)
  | _ => none

/-- The command for whose data `sg_virt` is asked. -/
def Op.asks : Op → Option CmndId
  | sgVirt c => some c
  | _ => none

/-- The buffer pointer that an operation follows to a status wrapper. -/
def Op.parses : Op → Option (Option BufId)
  | readCsw b => some b
  | _ => none

/-- The operation reads through none of these pointers. -/
@[simp] def Op.Direct (o : Op) : Prop := o.copy = none ∧ o.asks = none ∧ o.parses = none

section Direct

lemma Op.Routine.direct {o : Op} (ho : o.Routine) : o.Direct := by
  cases ho <;> exact ⟨rfl, rfl, rfl⟩

lemma Op.Sends.direct {o : Op} (ho : o.Sends) : o.Direct := by
  cases ho <;> exact ⟨rfl, rfl, rfl⟩

lemma direct_submitDataOrCsw : All Op.Direct submitDataOrCsw :=
  all_submitDataOrCsw (fun _ ho => ho.direct) fun _ ho => ho.direct

lemma direct_testUnitReady : All Op.Direct testUnitReady :=
  routine_testUnitReady.mono fun _ ho => ho.direct

end Direct

section Rules

variable {e : Env} {own c : CmndId} {s : State} {u : UrbId} {P : Op → State → Prop}
  (hP : ∀ o t, o.Direct → P o t)

include hP

/-- A program of routine operations does what it is asked to. -/
lemma throughout_of_routine {α : Type} {p : Driver α} (hp : All Op.Routine p) (s : State) :
    p.Throughout (sem e own) P s :=
  hp.throughout (fun o t ho => hP o t ho.direct) s

/-- `data_callback` asks for the data of the active command, before `csw_callback`. -/
lemma throughout_dataBody (hctx : (s.urb u).context = true) (hc : s.activeScmd = some c) :
    (dataBody u).Throughout (sem e own) P s ↔ P (.sgVirt c) s := by
  have htake (scmd : Option CmndId) (n : UInt32) :
      All Op.Routine (takeData scmd n >>= fun _ => fakeStatus) :=
    (routine_takeData scmd n).bind fun _ => routine_fakeStatus
  have hurb : P (.readUrb u) s := hP _ _ (Op.Routine.readUrb u).direct
  have hactive : P .activeScmd s := hP _ _ Op.Routine.activeScmd.direct
  simp only [dataBody, readUrb, activeScmd, derefActive, deref, sgVirt, op_bind, act_bind,
    throughout_act, sem, hctx, hc, hurb, hactive, pure_eq, ret_bind, Bool.true_eq_false,
    if_false, true_and]
  refine and_iff_left ?_
  by_cases hd : (s.cmnd c).length = 0
  · rw [if_pos hd]
    trivial
  · rw [if_neg hd]
    refine throughout_of_routine hP ?_ s
    simp [setActiveResult, derefActive, activeScmd, writeCmnd, doneActive, scsiDone, all_deref_bind,
      htake]

/-- Behind its copy INQUIRY calls `data_callback` on a `data_urb` that looks successful, if
there is one. -/
lemma throughout_copied (hc : s.activeScmd = some c) (bs : List UInt8) (resid n : UInt32) :
    Throughout (sem e own) P (do
      writeCmnd c fun x => x.store bs
      setActiveResid resid
      setActiveResult samStatGood
      storeUrb .data fun r => { r with actualLength := n, status := 0, context := true }
      dataCallback .data) s ↔
      (s.dev.urb .data ≠ none → (dataCallback .data).Throughout (sem e own) P
        ((s.modCmnd c fun x =>
          { x.store bs with resid := resid, result := samStatGood }).modUrb .data fun r =>
            { r with actualLength := n, status := 0, context := true })) := by
  have hthen {p : Driver Unit} {f : Unit → Driver Unit} {t t' : State} (hp : All Op.Routine p)
      (hrun : run (sem e own) p t = .done () t') :
      (p >>= f).Throughout (sem e own) P t ↔ (f ()).Throughout (sem e own) P t' :=
    throughout_bind_of_all (hp.mono fun _ ho => ho.direct) hP hrun
  rw [hthen (by simp [writeCmnd]) (run_writeCmnd ..),
    hthen (routine_setActiveResid _) (run_setActiveResid (c := c) (by exact hc) _),
    hthen (routine_setActiveResult _) (run_setActiveResult (c := c) (by exact hc) _),
    State.modCmnd_modCmnd, State.modCmnd_modCmnd]
  cases hptr : s.dev.urb .data with
  | none =>
    refine iff_of_true ?_ fun h => absurd rfl h
    rw [throughout_bind]
    refine ⟨throughout_of_routine hP (routine_markUrb .data n) _, ?_⟩
    simp [storeUrb, hptr]
  | some i =>
    rw [hthen (routine_markUrb .data n) (run_storeUrb (by simp [hptr]) _)]
    simp

/-- INQUIRY copies a table and goes on with `data_callback`. -/
lemma throughout_inquiry (e : Env) (own : CmndId) (hc : s.activeScmd = some c)
    (length n : UInt32) (evpd : UInt8) :
    ∃ bs, (inquiry c length n evpd).Throughout (sem e own) P s ↔
      P (if evpd ≠ 0 then .readTable vpdPage00 (min n.toNat vpdPage00.length)
        else .readTable fakeInquiryResponse n.toNat) s ∧
      (s.dev.urb .data ≠ none → (dataCallback .data).Throughout (sem e own) P
        ((s.modCmnd c fun x =>
          { x.store bs with resid := length - n, result := samStatGood }).modUrb .data fun r =>
            { r with actualLength := n, status := 0, context := true })) := by
  have hcopy (table : List UInt8) (m : ℕ) (f : List UInt8 → Driver Unit) :
      ∃ bs, (readTable table m >>= f).Throughout (sem e own) P s ↔
        P (.readTable table m) s ∧ (f bs).Throughout (sem e own) P s := ⟨_, throughout_act⟩
  rw [inquiry]
  split
  · obtain ⟨bs, h⟩ := hcopy vpdPage00 (min n.toNat vpdPage00.length) _
    exact ⟨bs, h.trans (and_congr_right fun _ => throughout_copied hP hc bs _ n)⟩
  · obtain ⟨bs, h⟩ := hcopy fakeInquiryResponse n.toNat _
    exact ⟨bs, h.trans (and_congr_right fun _ => throughout_copied hP hc bs _ n)⟩

/-- The branches of `cbw_callback` by the opcode. -/
lemma throughout_dispatch {length len : UInt32} (cbw : CommandBlockWrapper) :
    Throughout (sem e own) P
      (if cbw.cdb 0 = 0x12 then inquiry c length len (cbw.cdb 1)
      else if cbw.cdb 0 = 0x00 then testUnitReady >>= fun _ => submitDataOrCsw
      else if cbw.cdb 0 = 0x03 then requestSense c length len >>= fun _ => submitDataOrCsw
      else submitDataOrCsw) s ↔
      (cbw.cdb 0 = 0x12 → (inquiry c length len (cbw.cdb 1)).Throughout (sem e own) P s) ∧
        (cbw.cdb 0 = 0x03 → P (.readTable noSenseResponse len.toNat) s) := by
  -- the cases are those of the `switch`
  by_cases h12 : cbw.cdb 0 = 0x12
  · rw [if_pos h12, h12]
    simp
  rw [if_neg h12]
  by_cases h0 : cbw.cdb 0 = 0x00
  · rw [if_pos h0]
    refine iff_of_true ?_ ⟨fun h => absurd h h12, fun h => (by cases h0.symm.trans h)⟩
    exact (direct_testUnitReady.bind fun _ => direct_submitDataOrCsw).throughout hP s
  rw [if_neg h0]
  by_cases h3 : cbw.cdb 0 = 0x03
  · rw [if_pos h3, requestSense, bind_assoc, readTable, op_bind, throughout_act]
    refine Iff.trans (and_iff_left ?_)
      ⟨fun h => ⟨fun h' => absurd h' h12, fun _ => h⟩, fun h => h.2 h3⟩
    refine All.throughout (R := Op.Direct) ?_ hP s
    refine All.bind ?_ fun _ => direct_submitDataOrCsw
    exact all_copied (fun _ ho => ho.direct) c _ _ (routine_doneActive.mono fun _ ho => ho.direct)
  · rw [if_neg h3]
    exact iff_of_true (direct_submitDataOrCsw.throughout hP s)
      ⟨fun h => absurd h h12, fun h => absurd h h3⟩

/-- **What `cbw_callback` asks** of such a property: something of the data of the active command,
and of the copies of INQUIRY and REQUEST SENSE. -/
lemma throughout_cbwCallback (hctx : (s.urb u).context = true) (hc : s.activeScmd = some c)
    {len : UInt32} (hlen : len = min (s.cmnd c).length s.dev.bufferlength) :
    (cbwCallback u).Throughout (sem e own) P s ↔ P (.sgVirt c) s ∧
      ((s.cmnd c).length ≠ 0 → ¬ (s.urb u).status < 0 →
        ∀ b cbw, (s.urb u).transferBuffer = some b → cbw = CommandBlockWrapper.ofBytes (s.buf b) →
          cbw.dCBWSignature = CBW_SIG →
          (cbw.cdb 0 = 0x12 →
            (inquiry c (s.cmnd c).length len (cbw.cdb 1)).Throughout (sem e own) P s) ∧
          (cbw.cdb 0 = 0x03 → P (.readTable noSenseResponse len.toNat) s)) := by
  subst hlen
  have hroutine {o : Op} (ho : o.Routine) : P o s := hP o s ho.direct
  have hdone {p : Driver Unit} (hp : All Op.Routine p) (Q : Prop) (hQ : Q) :
      p.Throughout (sem e own) P s ↔ Q := iff_of_true (throughout_of_routine hP hp s) hQ
  have hurb : P (.readUrb u) s := hroutine (.readUrb u)
  have hactive : P .activeScmd s := hroutine .activeScmd
  have hcmnd : P (.readCmnd c) s := hroutine (.readCmnd c)
  have hdev : P .readDev s := hroutine .readDev
  have hbuf (b : BufId) : P (.readBuf b) s := hroutine (.readBuf b)
  simp only [cbwCallback, readUrb, activeScmd, derefActive, deref, sgVirt, readCmnd, readDev,
    op_bind, act_bind, throughout_act, sem, hurb, hactive, hctx, hc, pure_eq, ret_bind,
    Bool.true_eq_false, if_false, true_and, throughout_ite]
  refine and_congr_right fun _ => ?_
  by_cases hd : (s.cmnd c).length = 0
  · rw [if_pos hd]
    exact iff_of_true trivial fun h => absurd hd h
  simp only [if_neg hd, hcmnd, hdev, true_and]
  refine Iff.trans ?_ (forall_prop_of_true hd).symm
  by_cases hst : (s.urb u).status < 0
  · rw [if_pos hst]
    refine hdone ?_ _ fun h => absurd hst h
    simp [usbClearHalt, setActiveResult, derefActive, activeScmd, writeCmnd, doneActive, scsiDone,
      all_deref_bind]
  rw [if_neg hst]
  refine Iff.trans ?_ (forall_prop_of_true hst).symm
  cases hb : (s.urb u).transferBuffer with
  | none =>
    exact hdone (by simp [oops]) _ fun b cbw h => (by cases h)
  | some b =>
    have hcast {Q : BufId → CommandBlockWrapper → Prop} :
        (∀ b' cbw, some b = some b' → cbw = CommandBlockWrapper.ofBytes (s.buf b') → Q b' cbw) ↔
          Q b (CommandBlockWrapper.ofBytes (s.buf b)) := by
      simp
    rw [hcast]
    simp only [ret_bind, readBuf, op_bind, throughout_act, sem, hbuf, true_and]
    set cbw := CommandBlockWrapper.ofBytes (s.buf b)
    by_cases hsig : cbw.dCBWSignature = CBW_SIG
    · rw [if_neg (not_not.2 hsig)]
      refine Iff.trans ?_ (forall_prop_of_true hsig).symm
      exact throughout_dispatch hP cbw
    · rw [if_pos hsig]
      exact iff_of_true (throughout_ret.2 trivial) fun h => absurd h hsig

end Rules

end KernelDriverLab.UsbV1
