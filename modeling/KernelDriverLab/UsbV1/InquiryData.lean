import KernelDriverLab.UsbV1.CarriedCommand
import KernelDriverLab.UsbV1.Serialized
import KernelDriverLab.UsbV1.Status

/-!
# The data of an emulated INQUIRY

For INQUIRY `cbw_callback` copies one of its tables to the data of the command and calls
`data_callback`, which copies `data_buffer` over it: the memory that `queue_command` got from
`kmalloc` and that nothing has been stored into.

That an INQUIRY is completed at all takes a `csw_urb` that has been filled, and only overlapping
calls fill it.  So the runs here begin where an interleaving has come to rest.
-/

namespace KernelDriverLab.UsbV1

open Lib Prog

/-! ## The descriptor block -/

/-- Byte `i` of the descriptor block of a command. -/
def Cmnd.cdb (x : Cmnd) (i : ℕ) : UInt8 := if i < x.cmdLen.toNat then x.cmnd.getD i 0 else 0

/-- The table with the answer to an INQUIRY, by the EVPD bit. -/
def Cmnd.inquiryTable (x : Cmnd) : List UInt8 :=
  if x.cdb 1 &&& 0x01 = 0x01 then vpdPage00 else fakeInquiryResponse

section Cdb

variable {x : Cmnd} {tag : UInt32} {old : List UInt8} {i : ℕ}

lemma length_cbwcb : (x.wrapper tag).cbwcb.length = 16 := by
  have := x.cmnd_length
  have := cbLength_le x
  simp only [Cmnd.wrapper, List.length_append, List.length_take, List.length_replicate]
  omega

lemma cdb_wrapper (tag : UInt32) (hi : i < 16) : (x.wrapper tag).cdb i = x.cdb i := by
  have hcmnd := x.cmnd_length
  have hle := cbLength_le x
  have htake : (x.cmnd.take x.cbLength).length = x.cbLength := by
    rw [List.length_take]
    omega
  have hlt : i < x.cbLength ↔ i < x.cmdLen.toNat := by
    rw [Cmnd.cbLength]
    omega
  simp only [CommandBlockWrapper.cdb, Cmnd.wrapper, Cmnd.cdb, ← hlt, List.getD_eq_getElem?_getD]
  split_ifs with h
  · rw [List.getElem?_append_left (by omega), List.getElem?_take_of_lt h]
  · rw [List.getElem?_append_right (by omega), List.getElem?_replicate]
    split_ifs <;> rfl

/-- What `cbw_callback` reads in a transfer buffer that begins with the wrapper. -/
lemma cdb_overwrite (hi : i < 16) :
    (CommandBlockWrapper.ofBytes (overwrite old (x.wrapper tag).bytes)).cdb i = x.cdb i := by
  have hbytes := length_wrapper_bytes x tag
  have hback : (CommandBlockWrapper.ofBytes (x.wrapper tag).bytes).cbwcb =
      (x.wrapper tag).cbwcb := by
    rw [CommandBlockWrapper.ofBytes_bytes]
  have hdrop : (x.wrapper tag).bytes.drop 15 = (x.wrapper tag).cbwcb := hback
  rw [← cdb_wrapper tag hi]
  simp only [CommandBlockWrapper.cdb, CommandBlockWrapper.ofBytes, overwrite,
    List.getD_eq_getElem?_getD]
  rw [List.drop_append_of_le_length (by rw [hbytes]; decide), hdrop,
    List.getElem?_append_left (by rw [length_cbwcb]; exact hi)]

end Cdb

/-! ## The copies -/

section Copies

variable {e : Env} {own c : CmndId} {s t : State} {u : UrbId}

/-- `data_callback` copies as much of `data_buffer` as the device has transferred. -/
lemma run_takeData_all {n : UInt32} (hn : 0 < n) (hptr : s.dev.buffer .data ≠ none)
    (hlen : s.dev.bufferlength = n) :
    run (sem e own) (takeData (some c) n) s =
      .done () (s.modCmnd c fun x => x.store ((s.buf .data).take n.toNat)) := by
  obtain ⟨i, hi⟩ := Option.ne_none_iff_exists'.1 hptr
  simp [takeData, sgCopyFromBuffer, hn, hi, hlen]

/-- **What `data_callback` leaves** when it returns, for an URB with a good status: the data
buffer in the place of the data, nothing else about the command but its result. -/
lemma cmnd_dataCallback (hs : Shape s) (hctx : (s.urb u).context = true)
    (hc : s.activeScmd = some c) (hd : (s.cmnd c).length ≠ 0) (hst : ¬ (s.urb u).status < 0)
    (hpos : 0 < (s.urb u).actualLength)
    (hlen : s.dev.bufferlength = (s.urb u).actualLength)
    (hrun : run (sem e own) (dataCallback u) s = .done () t) :
    s.dev.buffer .data ≠ none ∧ t.done = c :: s.done ∧
      t.cmnd c = { (s.cmnd c).store ((s.buf .data).take (s.urb u).actualLength.toNat) with
        result := samStatGood } := by
  have hptr : s.dev.buffer .data ≠ none := by
    intro hnone
    rw [dataCallback, run_bind, run_dataBody_eq e own hctx hc hd, State.badStatus, if_neg hst] at hrun
    simp [takeData, sgCopyFromBuffer, hpos, hnone] at hrun
  refine ⟨hptr, ?_⟩
  set s₁ := s.modCmnd c fun x =>
    x.store ((s.buf .data).take (s.urb u).actualLength.toNat) with hs₁
  have hshape : Shape s₁ := hs.modCmnd c _
  have hbody : run (sem e own) (dataBody u) s = .done () (s₁.faked c) := by
    rw [run_dataBody_eq e own hctx hc hd, State.badStatus, if_neg hst, run_bind,
      run_takeData_all hpos hptr hlen]
    exact run_fakeStatus e own hshape hc
  rw [dataCallback, run_bind, hbody] at hrun
  dsimp only at hrun
  rw [run_cswCallback_faked e own (c := c) hshape hc] at hrun
  split_ifs at hrun
  obtain rfl := (Outcome.done.inj hrun).2
  simp [State.finish, State.faked, hs₁]

/-- **What INQUIRY leaves** when it returns: the data buffer in the place of the data, and the
residue that `cbw_callback` has stored. -/
lemma cmnd_inquiry (hs : Shape s) (hc : s.activeScmd = some c) {len : UInt32} {evpd : UInt8}
    (hpos : 0 < len) (hlen : s.HasData len) (hlength : (s.cmnd c).length = len)
    (hrun : run (sem e own) (inquiry c len len evpd) s = .done () t) :
    s.dev.buffer .data ≠ none ∧ t.done = c :: s.done ∧ (t.cmnd c).result = samStatGood ∧
      (t.cmnd c).resid = 0 ∧ (t.cmnd c).data = s.buf .data := by
  obtain ⟨bs, h⟩ := run_inquiry_stores e own hs hc len len evpd
  rw [h] at hrun
  have hshape : Shape ((s.modCmnd c fun x =>
      { x.store bs with resid := len - len, result := samStatGood }).modUrb .data fun r =>
        { r with actualLength := len, status := 0, context := true }) :=
    (hs.modCmnd c _).modUrb .data fun _ => ⟨rfl, rfl, rfl, rfl, fun _ => rfl⟩
  have hd : (s.cmnd c).length ≠ 0 := hlength ▸ UInt32.pos_iff_ne_zero.1 hpos
  obtain ⟨hptr, hdone, hcmnd⟩ := cmnd_dataCallback hshape (by simp) hc
    (by simpa [Cmnd.store] using hd) (by simp)
    (by simpa using hpos) (by simpa using hlen.1) hrun
  have hdata : (s.buf .data).length = len.toNat :=
    hlen.2 (fun h0 => absurd hpos (by simp [h0])) hptr
  refine ⟨hptr, hdone, by rw [hcmnd], ?_, ?_⟩
  · simp [hcmnd, Cmnd.store]
  · simp [hcmnd, Cmnd.store, hlength, ← hdata, overwrite]

end Copies

/-! ## Runs from where an interleaving rests -/

/-- Calls one after the other, from any state in which the driver rests with no wrapper on its
way to the device, whatever calls have overlapped before. -/
def resumed : System Config Call where
  Init k := k.oops = false ∧ (∀ u, u.callback = .cbwCallback → k.drv.inflight u = none) ∧
    ∃ w, interleaved.Reachable w ∧ w.Shows k
  next := step

/-- In these runs, too, the wrappers in flight carry the active command. -/
lemma carries_resumed {k : Config} (hk : resumed.Reachable k) :
    Shape k.drv ∧ (k.oops = false → Carries k.drv) := by
  refine System.Reach.invariant (S := resumed)
    (I := fun k => Shape k.drv ∧ (k.oops = false → Carries k.drv)) ?_
    (fun _ _ _ hs _ h => ⟨shape_step hs.1 h, carries_step hs.1 hs.2 h⟩) hk
  rintro k ⟨-, hidle, w, hw, hshows⟩
  refine ⟨hshows.drv ▸ shape_interleaved hw, fun _ => ⟨?_, ?_, ?_⟩⟩
  · exact fun u hu hflight => absurd (hidle u hu) hflight
  · exact fun _ u _ hu hflight => absurd (hidle u hu) hflight
  · exact fun _ u _ hu hflight => absurd (hidle u hu) hflight

/-- These runs do nothing that the interleaved driver cannot do. -/
theorem interleaved_of_resumed {k : Config} (hk : resumed.Reachable k) (hok : k.oops = false) :
    ∃ w, interleaved.Reachable w ∧ w.Shows k := by
  induction hk with
  | init h => exact h.2.2
  | @step k k' l hk _ h ih =>
    obtain ⟨w, hw, hshows⟩ := ih (ok_of_step h)
    exact shows_step hw hshows (carries_resumed hk).1 h hok

/-- The runs from the probe on are among them: what holds in every resumed run holds in those. -/
theorem resumed_of_session {k : Config} (hk : session.Reachable k) : resumed.Reachable k := by
  induction hk with
  | init h =>
    exact .init ⟨h.2.2.2.2, fun u _ => h.1.inflight u, interleaved_of_session (.init h) h.2.2.2.2⟩
  | step _ _ h ih => exact ih.step trivial h

/-! ## INQUIRY in a run -/

/-- **The data of an INQUIRY.** In any run, let the URB of a wrapper with the opcode of INQUIRY
complete with a good status while a command with data is active, and let the call return.  Then
that command is an INQUIRY and has been completed as good.  Its data begins with the table that
the EVPD bit selects, as far as the table and the data go, and the residue is what is missing,
exactly when the data is no longer than the table and `kmalloc` happened to find the bytes of
the table in `data_buffer`. -/
theorem inquiry_data_iff {k : Config} (hk : resumed.Reachable k) (ho : k.oops = false) {u : UrbId}
    {o c : CmndId} (hu : k.drv.inflight u = some o) (hcb : u.callback = .cbwCallback)
    (hop : k.drv.opcode u = 0x12) (hc : k.drv.activeScmd = some c)
    (hcdb : (k.drv.cmnd c).cmdLen ≤ 32) (hpos : 0 < (k.drv.cmnd c).length) {st : Int}
    (hst : ¬ st < 0) {n : UInt32} {received : List UInt8} {e : Env} {t : State}
    (hrun : runCallback e u o (k.drv.giveBack u st n received) = .done () t) :
    (k.drv.cmnd c).cdb 0 = 0x12 ∧ t.done = c :: k.drv.done ∧
    (t.cmnd c).result = samStatGood ∧ ∀ len size, len = (k.drv.cmnd c).length.toNat →
      size = (k.drv.cmnd c).inquiryTable.length →
      ((t.cmnd c).data.take (min len size) = (k.drv.cmnd c).inquiryTable.take (min len size) ∧
          (t.cmnd c).resid.toNat = len - min len size ↔
        len ≤ size ∧ k.drv.buf .data = (k.drv.cmnd c).inquiryTable.take len) := by
  have hs : Shape k.drv := (carries_resumed hk).1
  have hcarries : Carries k.drv := (carries_resumed hk).2 ho
  obtain ⟨hlen, hdata⟩ := hcarries.data c u hc hcb (by simp [hu])
  have hd : (k.drv.cmnd c).length ≠ 0 := UInt32.pos_iff_ne_zero.1 hpos
  obtain ⟨hfilled, hctx⟩ := giveBack_filled st n received hs hu
  have hg := hs.giveBack u st n received
  have hbuf : (k.drv.giveBack u st n received).buf = k.drv.buf :=
    hs.giveBack_buf (by rintro rfl; cases hcb) st n received
  have htraffic := k.drv.traffic_giveBack u st n received
  have hactive : (k.drv.giveBack u st n received).activeScmd = some c :=
    (congrArg Traffic.active htraffic).trans hc
  have hdone : (k.drv.giveBack u st n received).done = k.drv.done :=
    congrArg Traffic.done htraffic
  rw [complete_eq e st n received hs hu, hcb] at hrun
  have hgood := run_cbwCallback_good e o hg hcb (by rw [hfilled]; simp) hactive
    (by simpa using hd) (by simpa using hst)
  rw [show (k.drv.giveBack u st n received).opcode u = 0x12 from
    (opcode_giveBack st n received hs hcb).trans hop] at hgood
  have hmin : min (k.drv.cmnd c).length (k.drv.cmnd c).length = (k.drv.cmnd c).length :=
    ite_self _
  simp only [if_true, State.giveBack_cmnd, State.giveBack_dev, hlen, hmin] at hgood
  obtain ⟨hptr, hdone', hresult, hresid, hend⟩ := cmnd_inquiry hg hactive hpos
    (by rw [State.HasData, State.giveBack_dev, hbuf]; exact ⟨hlen, hdata⟩) (by simp)
    (hgood.symm.trans hrun)
  rw [State.giveBack_dev] at hptr
  obtain ⟨tag, old, hwrapped⟩ := hcarries.wrapped c u hc hcb (by simp [hu]) (fun _ => hptr) hcdb
  have hop' : (k.drv.cmnd c).cdb 0 = 0x12 := by
    rw [← hop, State.opcode, hwrapped, cdb_overwrite (by decide)]
  refine ⟨hop', hdone'.trans (hdone ▸ rfl), hresult, ?_⟩
  rintro len size rfl rfl
  have hlength : (k.drv.buf .data).length = (k.drv.cmnd c).length.toNat :=
    hdata (fun h0 => absurd hpos (by simp [h0])) hptr
  rw [hend, hbuf, hresid]
  -- the residue is always 0, which is right only if nothing is missing
  constructor
  · rintro ⟨htake, hzero⟩
    have hle : (k.drv.cmnd c).length.toNat ≤ (k.drv.cmnd c).inquiryTable.length := by
      rw [show (0 : UInt32).toNat = 0 from rfl] at hzero
      omega
    rw [Nat.min_eq_left hle, List.take_of_length_le hlength.le] at htake
    exact ⟨hle, htake⟩
  · rintro ⟨hle, heq⟩
    rw [Nat.min_eq_left hle, List.take_of_length_le hlength.le]
    exact ⟨heq, by simp⟩

/-- The device of an interleaving, when nothing is running. -/
def World.rest (w : World) : Config :=
  ⟨w.drv, w.queued, w.queued.filter (· ∉ w.refused), w.refused, false⟩

lemma reach_rest {w : World} (hw : interleaved.Reachable w)
    (hcalm : ∀ th ∈ w.pool.threads, th.role.kind = .ended)
    (hidle : ∀ u ∈ [UrbId.cbw, .sec], w.drv.inflight u = none) : resumed.Reachable w.rest := by
  refine .init ⟨rfl, fun u hu => hidle u ?_, w, hw, rfl, rfl, rfl, fun _ th hj => ?_⟩
  · cases u <;> simp [UrbId.callback] at hu ⊢
  · exact hcalm th (List.mem_of_getElem? hj)

/-- An INQUIRY for which `kmalloc` finds the response. -/
theorem inquiry_data_iff_lucky : ∃ (k : Config) (t : State),
    (t.cmnd 2).result = samStatGood ∧
      ((t.cmnd 2).data.take (min 36 36) = (k.drv.cmnd 2).inquiryTable.take (min 36 36) ∧
          (t.cmnd 2).resid.toNat = 36 - min 36 36 ↔
        36 ≤ 36 ∧ k.drv.buf .data = (k.drv.cmnd 2).inquiryTable.take 36) := by
  have hw := System.reach_get (statusFilledRun (-ENOMEM)) (reach_before _ senseReadyInquiry)
    (System.along_of_forall (fun _ _ => trivial) _ _) (by decide +kernel)
  have hrest := reach_rest hw (by decide +kernel) (by decide +kernel)
  have hk := System.reach_get
    [.queueCommand 2 { kmalloc := some fun i => fakeInquiryResponse.getD i 0 }]
    hrest (System.along_of_forall (fun _ _ => trivial) _ _) (by decide +kernel)
  have hst : ¬ (0 : Int) < 0 := by decide
  obtain ⟨-, -, hresult, hdata⟩ := inquiry_data_iff (u := .cbw) (e := {}) (n := 31) hk rfl
    rfl rfl (by decide +kernel) rfl (by decide +kernel) (by decide +kernel) hst
    (show runCallback {} .cbw 2 (State.giveBack _ .cbw 0 31 []) = _ from rfl)
  exact ⟨_, _, hresult, hdata 36 36 (by decide +kernel) (by decide +kernel)⟩

/-- **The response does not arrive.** An INQUIRY is completed as good with the zeros that
`kmalloc` has found. -/
theorem inquiry_answers_other_bytes : ∃ w, interleaved.Reachable w ∧ w.refused = [1] ∧
    w.drv.done = [2, 1, 0] ∧ (w.drv.cmnd 2).result = samStatGood ∧
    (w.drv.cmnd 2).cdb 0 = 0x12 ∧ (w.drv.cmnd 2).cdb 1 = 0 ∧
    (w.drv.cmnd 2).data = List.replicate 36 0 ∧
    (w.drv.cmnd 2).data.take (min 36 36) ≠ fakeInquiryResponse.take (min 36 36) := by
  refine System.exists_reachable (statusFilledRun (-ENOMEM) ++ [.queue 2] ++ turns 3 20 ++
    [.finish 3, .complete .cbw 0 31 []] ++ turns 4 36) (reach_before _ senseReadyInquiry) ?_
  decide +kernel

end KernelDriverLab.UsbV1
