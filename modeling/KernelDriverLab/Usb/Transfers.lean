import KernelDriverLab.Lib.System
import KernelDriverLab.Usb.Attach

/-!
# Transfers and their buffers

`cbw_callback` and `data_callback` fill URBs with lengths that are literals, while the
buffers are allocated elsewhere.  A run is a sequence of commands given back to
`cbw_callback`, of data phases given back to `data_callback` and of status phases given
back to `csw_callback`, and `State.fills` has every URB that was filled.

Three of the six commands never fit: WRITE(10) transfers 15 bytes through a buffer of
13, READ(10) 512 through 8, and INQUIRY 36 through 18.  The others fit as long as
their pair is there, and a submission that fails takes it away for good.
-/

namespace KernelDriverLab.Usb

open Lib Prog

/-! ## Runs -/

/-- What can happen to a device after the allocation. -/
inductive Event where
  /-- The URB that carried the wrapper of `c` is given back. -/
  | command (c : ScsiCommand) (status : Int) (e : Env)
  /-- The URB of a data phase is given back. -/
  | data (u : Pair) (status : Int) (received : List UInt8) (e : Env)
  /-- The URB of a status phase is given back. -/
  | status (status : Int) (received : List UInt8) (e : Env)

/-- `cbw_urb` when it is given back. -/
def cbwUrb (status : Int) : Urb :=
  { Urb.zero with
    status := status
    complete := some .cbwCallback
    transferBuffer := some .cbw
    transferBufferLength := CBW_LEN }

/-- One call of a completion function.  It ends early when it follows a null pointer. -/
def State.step (s : State) : Event → Option State
  | .command c st e =>
      some (run (sem e) (cbwCallback (cbwUrb st)) (s.setBuf .cbw c.cbw.bytes)).state
  | .data u st received e =>
      if s.inflight u ∧ (s.urb u).complete = some .dataCallback then
        some (run (sem e) (dataCallback { s.urb u with status := st })
          (s.giveBack u st received)).state
      else none
  | .status st received e =>
      if s.inflight .csw then
        some (run (sem e) (cswCallback { s.urb .csw with status := st })
          (s.giveBack .csw st received)).state
      else none

/-- The completion functions on a device whose allocation has succeeded. -/
def transfers : System State Event where
  Init s := ∃ s₀ e, run (sem e) usbAllocBufferAndUrb s₀ = .done 0 s ∧ s₀.fills = []
  next := State.step

/-- Every URB that was filled was allocated and had a buffer as large as the transfer. -/
def State.AllFit (s : State) : Prop := ∀ f ∈ s.fills, f.Fits

instance (s : State) : Decidable s.AllFit := inferInstanceAs (Decidable (∀ f ∈ s.fills, f.Fits))

/-- The data phase of the command is no longer than its buffer, and the pair that it
needs is still there. -/
def ScsiCommand.Fitting (s : State) : ScsiCommand → Prop
  | testUnitReady => True
  | requestSense _ => s.dev.urb .inquiry ≠ none
  | readCapacity10 => s.dev.urb .read ≠ none
  | inquiry _ | read10 _ _ _ | write10 _ _ _ => False

instance (s : State) : (c : ScsiCommand) → Decidable (c.Fitting s)
  | .testUnitReady => inferInstanceAs (Decidable True)
  | .requestSense _ | .readCapacity10 => inferInstanceAs (Decidable (¬ _ = _))
  | .inquiry _ | .read10 _ _ _ | .write10 _ _ _ => inferInstanceAs (Decidable False)

/-- A command that was sent is one that fits. -/
def Event.Fitting (s : State) : Event → Prop
  | .command c st _ => 0 ≤ st → c.Fitting s
  | _ => True

instance (s : State) : (l : Event) → Decidable (l.Fitting s)
  | .command _ _ _ => inferInstanceAs (Decidable (_ → _))
  | .data _ _ _ _ | .status _ _ _ => inferInstanceAs (Decidable True)

/-! ## What the operations can do -/

/-- The operation does not fill an URB. -/
@[simp] def Op.NoFill : Op → Prop
  | usbFillBulkUrb _ _ _ _ _ _ => False
  | _ => True

/-- The operation changes neither the pointers to the pairs nor the ledger. -/
@[simp] def Op.KeepsPairs : Op → Prop
  | setUrb _ _ | setBuffer _ _ | kzalloc | kmalloc _ _ | usbAllocCoherent _ _ | usbAllocUrb _
  | usbFreeUrb _ _ | usbFreeCoherent _ _ _ | kfree _ _ | kfreeDev _ | usbGetDev
  | usbPutDev _ => False
  | _ => True

section Sem

variable {e : Env} {s : State}

lemma fills_sem {o : Op} (ho : o.NoFill) : (sem e o s).state.fills = s.fills := by
  cases o <;> simp only [sem]
  case usbFillBulkUrb => exact absurd ho id
  all_goals repeat' split
  all_goals simp [State.newBuffer]

lemma pairs_sem {o : Op} (ho : o.KeepsPairs) : s.SamePairs (sem e o s).state := by
  cases o <;> first | exact absurd ho id | simp only [sem]
  all_goals repeat' split
  all_goals exact ⟨rfl, rfl, rfl⟩

/-- No operation takes a fill back. -/
lemma fills_suffix_sem (o : Op) : s.fills <:+ (sem e o s).state.fills := by
  by_cases ho : o.NoFill
  · exact (fills_sem ho).symm ▸ List.suffix_rfl
  · cases o <;> first | exact absurd trivial ho | skip
    case usbFillBulkUrb u urb buffer pipe len cb =>
      cases urb <;> exact List.suffix_cons _ _

variable {α : Type} {p : Driver α}

lemma fills_run (hp : All Op.NoFill p) : (run (sem e) p s).state.fills = s.fills :=
  hp.run (I := fun t : State => t.fills = s.fills) (fun _ _ ho ht => (fills_sem ho).trans ht) rfl

lemma pairs_run (hp : All Op.KeepsPairs p) : s.SamePairs (run (sem e) p s).state := by
  refine hp.run (I := s.SamePairs) (fun o t ho ht => ?_) ⟨rfl, rfl, rfl⟩
  obtain ⟨hurb, hbuffer, hledger⟩ := pairs_sem (e := e) (s := t) ho
  exact ⟨hurb.trans ht.1, hbuffer.trans ht.2.1, hledger.trans ht.2.2⟩

lemma fills_suffix_run (p : Driver α) : s.fills <:+ (run (sem e) p s).state.fills :=
  (all_true p).run (I := fun t : State => s.fills <:+ t.fills)
    (fun o _ _ ht => ht.trans (fills_suffix_sem o)) List.suffix_rfl

end Sem

/-! ## The completion functions -/

section Shape

lemma keepsPairs_beginTransfer (u : Pair) (dirIn : Bool) (len : ℕ) (dma : Bool) :
    All Op.KeepsPairs (beginTransfer u dirIn len dma) := by
  cases dma <;> simp [beginTransfer, usbFillBulkUrb, useDma, usbSubmitUrb, readDev, op]

lemma keepsPairs_receiveStatus : All Op.KeepsPairs receiveStatus := by
  simp [receiveStatus, usbFillBulkUrb, usbSubmitUrb, readDev, op]

lemma noFill_dropPair (u : Pair) : All Op.NoFill (dropPair u) := by
  simp [dropPair, usbKillUrb, usbFreeUrb, kfree, setBuffer, setUrb, readDev, op]

lemma noFill_rUrb : All Op.NoFill rUrb := by
  simp [rUrb, usbKillUrb, usbFreeUrb, kfree, setBuffer, setUrb, readDev, op]

lemma noFill_cswCallback (urb : Urb) : All Op.NoFill (cswCallback urb) := by
  cases h : urb.transferBuffer <;>
    simp [cswCallback, h, oops, readCsw, readBuf, readDev, usbClearHalt, op]

lemma keepsPairs_cswCallback (urb : Urb) : All Op.KeepsPairs (cswCallback urb) := by
  cases h : urb.transferBuffer <;>
    simp [cswCallback, h, oops, readCsw, readBuf, readDev, usbClearHalt, op]

end Shape

/-- The fill of the URB of a pair as the fields of the device are now. -/
def State.fill (s : State) (u : Pair) (len : ℕ) : Fill :=
  ⟨s.dev.urb u, s.dev.buffer u, len, s.ledger⟩

section Fills

variable {e : Env} {s : State} {α : Type}

lemma fills_act {u : Pair} {urb buffer : Ptr} {pipe : UsbV1.Pipe} {len : ℕ} {cb : Callback}
    {k : Unit → Driver α} (hk : All Op.NoFill (k ())) :
    (run (sem e) (act (.usbFillBulkUrb u urb buffer pipe len cb) k) s).state.fills =
      ⟨urb, buffer, len, s.ledger⟩ :: s.fills := by
  cases urb with
  | none => rfl
  | some _ => exact fills_run hk

lemma fills_fill {u : Pair} {dirIn : Bool} {len : ℕ} {cb : Callback} {k : Unit → Driver α}
    (hk : All Op.NoFill (k ())) :
    (run (sem e) (usbFillBulkUrb u dirIn len cb >>= k) s).state.fills = s.fill u len :: s.fills :=
  fills_act hk

lemma fills_receiveStatus :
    (run (sem e) receiveStatus s).state.fills = s.fill .csw CSW_LEN :: s.fills :=
  fills_fill (by simp [usbSubmitUrb, readDev, op])

lemma fills_transferData {u : Pair} {dirIn : Bool} {len : ℕ} {dma : Bool} {cleanup : Driver Unit}
    (hc : All Op.NoFill cleanup) :
    (run (sem e) (transferData u dirIn len dma cleanup) s).state.fills =
      s.fill u len :: s.fills := by
  rw [transferData, beginTransfer, bind_assoc]
  refine fills_fill ?_
  cases dma <;> simp [useDma, usbSubmitUrb, readDev, op, hc]

end Fills

/-! ## The pairs while commands are processed -/

/-- The status pair is there, and each other pair is there or its URB pointer is NULL. -/
structure Serving (s : State) : Prop where
  csw : s.Equipped .csw
  other : ∀ p, s.dev.urb p = none ∨ s.Equipped p
  urb_inj : ∀ p q i, s.dev.urb p = some i → s.dev.urb q = some i → p = q

namespace Serving

variable {s t : State}

lemma of_allocated (h : s.Allocated) : Serving s where
  csw := h.equipped .csw
  other p := .inr (h.equipped p)
  urb_inj p q _ hp hq := h.urb_inj p q (hp.trans hq.symm)

lemma of_same (h : Serving s) (hst : s.SamePairs t) : Serving t where
  csw := h.csw.of_same hst
  other p := by
    rw [hst.1]
    exact (h.other p).imp_right fun hp => hp.of_same hst
  urb_inj := by
    rw [hst.1]
    exact h.urb_inj

/-- When an URB is filled, only the pointer and the size matter. -/
lemma fits_fill (h : Serving s) (u : Pair) (len : ℕ) :
    (s.fill u len).Fits ↔ s.dev.urb u ≠ none ∧ len ≤ u.resource.size := by
  rcases h.other u with hnone | ⟨i, b, hi, hb, hurb, hbuffer⟩
  · simp [Fill.Fits, State.fill, hnone]
  · constructor
    · rintro ⟨-, ⟨j, k⟩, hmem, hj, hlen⟩
      obtain rfl : b = j := Option.some.inj (hb.symm.trans hj)
      obtain rfl : k = u.resource := (hbuffer k).1 hmem
      exact ⟨by simp [hi], hlen⟩
    · rintro ⟨-, hlen⟩
      exact ⟨⟨_, hurb.mem, hi, rfl⟩, ⟨_, hbuffer.mem, hb, hlen⟩⟩

end Serving

/-! ## A failed submission -/

/-- The device after the URB and the buffer of a pair have been given to `usb_free_urb`
and `kfree`. -/
def State.drop (s : State) (u : Pair) : State :=
  (((if s.dev.urb u = none then s else s.setInflight u false).releasePtr (s.dev.urb u) .urb).kfree
    (s.dev.buffer u)).modDev fun d =>
      { d with
        urb := Function.update d.urb u none
        buffer := Function.update d.buffer u none }

section Drop

variable {e : Env} {s : State}

lemma run_dropPair (u : Pair) : run (sem e) (dropPair u) s = .done () (s.drop u) := by
  by_cases hu : s.dev.urb u = none <;>
    simp [dropPair, usbKillUrb, usbFreeUrb, kfree, setBuffer, setUrb, readDev, op, run_act, sem,
      State.drop, hu] <;> rfl

lemma run_rUrb : run (sem e) rUrb s = .done () (s.drop .read) := by
  by_cases hu : s.dev.urb .read = none <;>
    simp [rUrb, usbKillUrb, usbFreeUrb, kfree, setBuffer, setUrb, readDev, op, run_act, sem,
      State.drop, hu] <;> rfl

/-- `kfree` is the wrong function for a coherent buffer. -/
lemma kfree_coherent {b n : ℕ} (h : s.ledger.Holds b (.coherent n)) :
    s.kfree (some b) = s.modLedger (·.release b (.kmalloc 0)) := by
  simp only [State.kfree]
  cases hf : s.ledger.live.find? (·.1 = b) with
  | none => rfl
  | some p =>
    obtain ⟨j, k⟩ := p
    obtain rfl : j = b := by simpa using List.find?_some hf
    obtain rfl : k = .coherent n := (h k).1 (List.mem_of_find?_eq_some hf)
    rfl

lemma serving_drop {u : Pair} (h : Serving s) (hu : s.Equipped u) (hcsw : u ≠ .csw)
    {n : ℕ} (hk : u.resource = .coherent n) : Serving (s.drop u) := by
  obtain ⟨i, b, hi, hb, hurb, hbuffer⟩ := hu
  rw [hk] at hbuffer
  have hledger : (s.drop u).ledger = (s.ledger.release i .urb).release b (.kmalloc 0) := by
    have hfree : ((s.setInflight u false).releasePtr (some i) .urb).ledger.Holds b (.coherent n) :=
      Ledger.Holds.release hbuffer (by simp)
    simp [State.drop, hi, hb, kfree_coherent hfree]
    rfl
  have hptr (p : Pair) (hp : p ≠ u) : (s.drop u).dev.urb p = s.dev.urb p ∧
      (s.drop u).dev.buffer p = s.dev.buffer p := by
    simp [State.drop, hi, hp]
  have hnone : (s.drop u).dev.urb u = none := by simp [State.drop]
  -- another pair keeps what it has
  have hkeep (p : Pair) (hp : p ≠ u) (heq : s.Equipped p) : (s.drop u).Equipped p := by
    obtain ⟨i', b', hi', hb', hurb', hbuffer'⟩ := heq
    have hne : i' ≠ i := fun h' => hp (h.urb_inj p u i (h' ▸ hi') hi)
    refine ⟨i', b', (hptr p hp).1.trans hi', (hptr p hp).2.trans hb', ?_, ?_⟩
    · rw [hledger]
      exact (hurb'.release (by simp [hne])).release (by simp)
    · rw [hledger]
      refine (hbuffer'.release ?_).release ?_ <;> cases p <;>
        simp [Pair.resource, CSW_LEN]
  constructor
  case csw => exact hkeep .csw hcsw.symm h.csw
  case other =>
    intro p
    by_cases hp : p = u
    · exact .inl (hp ▸ hnone)
    · rw [(hptr p hp).1]
      exact (h.other p).imp_right (hkeep p hp)
  case urb_inj =>
    intro p q j hpj hqj
    have hpu : p ≠ u := by
      rintro rfl
      simp [hnone] at hpj
    have hqu : q ≠ u := by
      rintro rfl
      simp [hnone] at hqj
    rw [(hptr p hpu).1] at hpj
    rw [(hptr q hqu).1] at hqj
    exact h.urb_inj p q j hpj hqj

end Drop

/-! ## One event -/

/-- The device when `cbw_callback` comes to its `switch`. -/
def State.accepted (s : State) (c : ScsiCommand) : State :=
  (s.setBuf .cbw c.cbw.bytes).modDev fun d => { d with cbwTag := c.cbw.dCBWTag }

section Step

variable {e : Env} {s t : State}

lemma run_cbwCallback (c : ScsiCommand) {st : Int} (hst : 0 ≤ st) :
    run (sem e) (cbwCallback (cbwUrb st)) (s.setBuf .cbw c.cbw.bytes) =
      run (sem e) (dispatch c.opcode) (s.accepted c) := by
  simp [cbwCallback, cbwUrb, readCbw, readBuf, setCbwTag, op, run_act, sem, not_lt.2 hst,
    c.signature_cbw, c.cdb_cbw]
  rfl

lemma run_cbwCallback_neg (c : ScsiCommand) {st : Int} (hst : st < 0) :
    run (sem e) (cbwCallback (cbwUrb st)) (s.setBuf .cbw c.cbw.bytes) =
      .done () (s.setBuf .cbw c.cbw.bytes) := by
  simp [cbwCallback, cbwUrb, hst]

/-- What the wrapper of a command makes `cbw_callback` do. -/
lemma dispatch_opcode (c : ScsiCommand) : dispatch c.opcode = match c with
    | .testUnitReady => receiveStatus
    | .requestSense _ => senseData
    | .inquiry _ => inquiryData
    | .readCapacity10 => capacityData
    | .read10 _ _ _ => readData
    | .write10 _ _ _ => writeData := by
  cases c <;> rfl

lemma allFit_cons {f : Fill} (h : t.fills = f :: s.fills) : t.AllFit ↔ f.Fits ∧ s.AllFit := by
  simp [State.AllFit, h]

/-- The pairs after a data phase has begun, whether or not the URB was submitted. -/
lemma serving_transferData {u : Pair} (h : Serving s) (hu : s.Equipped u) (hcsw : u ≠ .csw)
    {n : ℕ} (hk : u.resource = .coherent n) {dirIn : Bool} {len : ℕ} {dma : Bool}
    {cleanup : Driver Unit} (hc : ∀ t, run (sem e) cleanup t = .done () (t.drop u)) :
    Serving (run (sem e) (transferData u dirIn len dma cleanup) s).state := by
  have hsame : s.SamePairs (run (sem e) (beginTransfer u dirIn len dma) s).state :=
    pairs_run (keepsPairs_beginTransfer u dirIn len dma)
  rw [transferData, run_bind]
  cases hrun : run (sem e) (beginTransfer u dirIn len dma) s with
  | oops t =>
    rw [hrun] at hsame
    exact h.of_same hsame
  | done rv t =>
    rw [hrun] at hsame
    by_cases hrv : rv = 0
    · simpa [hrv] using h.of_same hsame
    · simpa [hrv, hc] using serving_drop (h.of_same hsame) (hu.of_same hsame) hcsw hk

/-- **One command**: it fills one URB, which fits when the condition says so. -/
lemma step_command (h : Serving s) (c : ScsiCommand) :
    ((run (sem e) (dispatch c.opcode) s).state.AllFit ↔ c.Fitting s ∧ s.AllFit) ∧
      (c.Fitting s → Serving (run (sem e) (dispatch c.opcode) s).state) := by
  have hdrop (u : Pair) : All Op.NoFill (dropPair u) := noFill_dropPair u
  rw [dispatch_opcode]
  cases c with
  | testUnitReady =>
    have hfit : (s.fill .csw CSW_LEN).Fits :=
      (h.fits_fill _ _).2 ⟨by obtain ⟨i, _, hi, _⟩ := h.csw; simp [hi], le_rfl⟩
    refine ⟨?_, fun _ => h.of_same (pairs_run keepsPairs_receiveStatus)⟩
    rw [allFit_cons fills_receiveStatus]
    simp [hfit, ScsiCommand.Fitting]
  | requestSense n =>
    refine ⟨?_, fun hn => ?_⟩
    · rw [senseData, allFit_cons (fills_transferData (hdrop _)), h.fits_fill]
      simp [ScsiCommand.Fitting, Pair.resource, Resource.size, REQ_LEN]
    · exact serving_transferData h ((h.other _).resolve_left hn) (by decide) rfl
        fun t => run_dropPair _
  | inquiry n =>
    refine ⟨?_, False.elim⟩
    rw [inquiryData, allFit_cons (fills_transferData (hdrop _)), h.fits_fill]
    simp [ScsiCommand.Fitting, Pair.resource, Resource.size, REQ_LEN]
  | readCapacity10 =>
    refine ⟨?_, fun hn => ?_⟩
    · rw [capacityData, allFit_cons (fills_transferData noFill_rUrb), h.fits_fill]
      simp [ScsiCommand.Fitting, Pair.resource, Resource.size]
    · exact serving_transferData h ((h.other _).resolve_left hn) (by decide) rfl
        fun t => run_rUrb
  | read10 lba n size =>
    refine ⟨?_, False.elim⟩
    rw [readData, allFit_cons (fills_transferData noFill_rUrb), h.fits_fill]
    simp [ScsiCommand.Fitting, Pair.resource, Resource.size, READ_LEN]
  | write10 lba n size =>
    refine ⟨?_, False.elim⟩
    rw [writeData, allFit_cons (fills_transferData (hdrop _)), h.fits_fill]
    simp [ScsiCommand.Fitting, Pair.resource, Resource.size, CSW_LEN]

/-- What a status phase that `data_callback` begins leaves. -/
lemma run_dataCallback (h : Serving s) (urb : Urb) :
    ((run (sem e) (dataCallback urb) s).state.AllFit ↔ s.AllFit) ∧
      Serving (run (sem e) (dataCallback urb) s).state := by
  by_cases hst : urb.status < 0
  · simp [dataCallback, hst, h]
  · have hrun : run (sem e) (dataCallback urb) s = run (sem e) receiveStatus s := by
      simp [dataCallback, hst]
    have hcommand := step_command (e := e) h .testUnitReady
    rw [dispatch_opcode] at hcommand
    rw [hrun]
    exact ⟨by simpa [ScsiCommand.Fitting] using hcommand.1, hcommand.2 trivial⟩

/-- **The step lemma.** An event leaves everything fitting when everything fitted before
and its command is one that fits, and then the pairs are as they were or taken away. -/
lemma step_event (h : Serving s) {l : Event} (hl : transfers.next s l = some t) :
    (t.AllFit ↔ l.Fitting s ∧ s.AllFit) ∧ (l.Fitting s → Serving t) := by
  cases l with
  | command c st e =>
    simp only [transfers, State.step, Option.some.injEq] at hl
    subst hl
    by_cases hst : 0 ≤ st
    · have haccepted : Serving (s.accepted c) := h.of_same ⟨rfl, rfl, rfl⟩
      have hfitting : c.Fitting (s.accepted c) ↔ c.Fitting s := by cases c <;> rfl
      obtain ⟨hfits, hserving⟩ := step_command (e := e) haccepted c
      rw [run_cbwCallback c hst]
      rw [hfitting] at hfits hserving
      have hl : Event.Fitting s (.command c st e) ↔ c.Fitting s := by simp [Event.Fitting, hst]
      exact ⟨hfits.trans (and_congr hl.symm Iff.rfl), fun h => hserving (hl.1 h)⟩
    · rw [run_cbwCallback_neg c (not_le.1 hst)]
      exact ⟨by simp [Event.Fitting, hst, State.AllFit], fun _ => h.of_same ⟨rfl, rfl, rfl⟩⟩
  | data u st received e =>
    simp only [transfers, State.step, Option.ite_none_right_eq_some, Option.some.injEq] at hl
    obtain ⟨-, rfl⟩ := hl
    have hgiven : Serving (s.giveBack u st received) := h.of_same ⟨rfl, rfl, rfl⟩
    obtain ⟨hfits, hserving⟩ := run_dataCallback (e := e) hgiven { s.urb u with status := st }
    exact ⟨hfits.trans (by simp [Event.Fitting, State.AllFit]), fun _ => hserving⟩
  | status st received e =>
    simp only [transfers, State.step, Option.ite_none_right_eq_some, Option.some.injEq] at hl
    obtain ⟨-, rfl⟩ := hl
    have hfills := fills_run (e := e) (s := s.giveBack .csw st received)
      (noFill_cswCallback { s.urb .csw with status := st })
    have hsame := pairs_run (e := e) (s := s.giveBack .csw st received)
      (keepsPairs_cswCallback { s.urb .csw with status := st })
    refine ⟨by simp [Event.Fitting, State.AllFit, hfills], fun _ => ?_⟩
    exact (h.of_same (t := s.giveBack .csw st received) ⟨rfl, rfl, rfl⟩).of_same hsame

/-- A fill that was too long stays on record. -/
lemma allFit_of_step {l : Event} (hl : transfers.next s l = some t) (ht : t.AllFit) : s.AllFit := by
  have hsuffix : s.fills <:+ t.fills := by
    cases l with
    | command c st e =>
      simp only [transfers, State.step, Option.some.injEq] at hl
      subst hl
      exact fills_suffix_run (s := s.setBuf .cbw c.cbw.bytes) _
    | data u st received e =>
      simp only [transfers, State.step, Option.ite_none_right_eq_some, Option.some.injEq] at hl
      obtain ⟨-, rfl⟩ := hl
      exact fills_suffix_run (s := s.giveBack u st received) _
    | status st received e =>
      simp only [transfers, State.step, Option.ite_none_right_eq_some, Option.some.injEq] at hl
      obtain ⟨-, rfl⟩ := hl
      exact fills_suffix_run (s := s.giveBack .csw st received) _
  exact fun f hf => ht f (hsuffix.subset hf)

lemma allFit_of_exec {ls : List Event} (h : transfers.exec s ls = some t) (ht : t.AllFit) :
    s.AllFit := by
  induction ls generalizing s with
  | nil =>
    obtain rfl : s = t := by simpa [System.exec] using h
    exact ht
  | cons l ls ih =>
    cases hn : transfers.next s l with
    | none => simp [System.exec, hn] at h
    | some u => exact allFit_of_step hn (ih (by simpa [System.exec, hn] using h))

lemma allFit_exec_iff (hs : Serving s) {ls : List Event} (h : transfers.exec s ls = some t) :
    t.AllFit ↔ s.AllFit ∧ transfers.Along (fun s l => Event.Fitting s l) s ls := by
  induction ls generalizing s with
  | nil =>
    obtain rfl : s = t := by simpa [System.exec] using h
    simp [System.Along]
  | cons l ls ih =>
    cases hn : transfers.next s l with
    | none => simp [System.exec, hn] at h
    | some u =>
      have hrest : transfers.exec u ls = some t := by simpa [System.exec, hn] using h
      obtain ⟨hfits, hserving⟩ := step_event hs hn
      simp only [System.Along, hn]
      by_cases hl : l.Fitting s
      · rw [ih (hserving hl) hrest, hfits]
        simp [hl]
      · -- the fill of this event does not fit, whatever happens afterwards
        have hbad : ¬ t.AllFit := fun ht => hl (hfits.1 (allFit_of_exec hrest ht)).1
        simp [hl, hbad]

end Step

/-- **Every transfer fits exactly when every command does.** In a run of any length on a
device whose allocation has succeeded, every URB that is filled has a live buffer of
sufficient size if and only if no command is an INQUIRY, a READ(10) or a WRITE(10), and
no REQUEST SENSE or READ CAPACITY comes after a submission of its URB has failed. -/
theorem allFit_iff {s t : State} (hs : transfers.Init s) {ls : List Event}
    (h : transfers.exec s ls = some t) :
    t.AllFit ↔ transfers.Along (fun s l => Event.Fitting s l) s ls := by
  obtain ⟨s₀, e, hrun, hfills⟩ := hs
  obtain ⟨hallocated, -, -, hsame⟩ := usbAllocBufferAndUrb_success hrun
  have hnone : s.AllFit := by simp [State.AllFit, hsame, hfills]
  rw [allFit_exec_iff (.of_allocated hallocated) h]
  simp [hnone]

/-! ## Two runs -/

/-- A new device after the allocation. -/
def State.ready : State := (run (sem {}) usbAllocBufferAndUrb .blank).state

lemma init_ready : transfers.Init .ready := ⟨.blank, {}, rfl, rfl⟩

/-- REQUEST SENSE with its data and status phases, a READ CAPACITY that cannot be
submitted, and TEST UNIT READY. -/
def senseRun : List Event :=
  [.command (.requestSense 18) 0 {}, .data .inquiry 0 [] {}, .status 0 [] {},
    .command .readCapacity10 0 { submit := -12 }, .command .testUnitReady 0 {}]

theorem allFit_iff_sense : ∃ t : State, t.fills.length = 4 ∧ t.AllFit :=
  ⟨(transfers.exec .ready senseRun).get (by decide +kernel), by decide +kernel,
    (allFit_iff init_ready (Option.some_get _).symm).2 (by decide +kernel)⟩

/-- **The first command does not fit.** The INQUIRY that the work item sends makes
`cbw_callback` fill `inquiry_urb` with 36 bytes for a buffer of 18. -/
theorem inquiry_overruns : ∃ (s t : State) (ls : List Event), transfers.Init s ∧
    transfers.exec s ls = some t ∧ ¬ t.AllFit :=
  ⟨.ready, (transfers.exec .ready [.command (.inquiry 36) 0 {}]).get (by decide +kernel), _,
    init_ready, (Option.some_get _).symm, by decide +kernel⟩

end KernelDriverLab.Usb
