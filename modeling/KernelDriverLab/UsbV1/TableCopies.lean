import KernelDriverLab.UsbV1.Accesses
import KernelDriverLab.UsbV1.Runs

/-!
# The copies from the response tables

`cbw_callback` takes the address of the data of the active command before it looks at the
length, and the length of a copy from the command before it looks at the size of the table.
`Op.Inside` is what a copy should keep to, `copies_inside_iff` when all of them do.
-/

namespace KernelDriverLab.UsbV1

open Lib Prog

/-- A copy reads bytes of its table only and writes into the `len` bytes of the data only, and
`sg_virt` is asked for the data of a command that has some. -/
def Op.Inside (len : ℕ) (o : Op) (s : State) : Prop :=
  (∀ p ∈ o.copy, p.2 ≤ p.1.length ∧ p.2 ≤ len) ∧ ∀ c ∈ o.asks, (s.cmnd c).length ≠ 0

instance (len : ℕ) (o : Op) (s : State) : Decidable (o.Inside len s) :=
  inferInstanceAs (Decidable (_ ∧ _))

/-- The operation neither copies from a table nor asks for the data of a command. -/
@[simp] def Op.NoCopy (o : Op) : Prop := o.copy = none ∧ o.asks = none

lemma Op.NoCopy.inside {len : ℕ} {o : Op} (ho : o.NoCopy) (s : State) : o.Inside len s := by
  simp [Op.Inside, ho.1, ho.2]

lemma inside_readTable {len n : ℕ} {table : List UInt8} {s : State} :
    (Op.readTable table n).Inside len s ↔ n ≤ table.length ∧ n ≤ len := by
  simp [Op.Inside, Op.copy, Op.asks]

lemma inside_sgVirt {len : ℕ} {c : CmndId} {s : State} :
    (Op.sgVirt c).Inside len s ↔ (s.cmnd c).length ≠ 0 := by
  simp [Op.Inside, Op.copy, Op.asks]

lemma Op.Direct.inside (len : ℕ) (o : Op) (s : State) (ho : o.Direct) : o.Inside len s :=
  Op.NoCopy.inside ⟨ho.1, ho.2.1⟩ s

section Inside

variable {e : Env} {own c : CmndId} {s : State} {u : UrbId} {len : ℕ}

/-- `data_callback` asks for the data of the active command and copies from no table. -/
lemma inside_dataCallback (hctx : (s.urb u).context = true) (hc : s.activeScmd = some c) :
    (dataCallback u).Throughout (sem e own) (Op.Inside len) s ↔ (s.cmnd c).length ≠ 0 := by
  have hcsw : All Op.NoCopy (cswCallback .csw) :=
    all_cswCallback (fun _ ho => ⟨ho.direct.1, ho.direct.2.1⟩) (fun _ => ⟨rfl, rfl⟩) ⟨rfl, rfl⟩ .csw
  rw [dataCallback, throughout_bind, throughout_dataBody (Op.Direct.inside len) hctx hc,
    inside_sgVirt]
  refine and_iff_left ?_
  cases run (sem e own) (dataBody u) s with
  | oops t => trivial
  | done x t => exact hcsw.throughout (fun _ t ho => ho.inside t) t

/-- The case `0x12`. -/
lemma inside_inquiry (hc : s.activeScmd = some c) {n : UInt32} (hn : n.toNat ≤ len)
    {length : UInt32} {evpd : UInt8} (hdata : (s.cmnd c).length ≠ 0) :
    (inquiry c length n evpd).Throughout (sem e own) (Op.Inside len) s ↔
      (evpd = 0 → n.toNat ≤ fakeInquiryResponse.length) := by
  obtain ⟨bs, h⟩ := throughout_inquiry (Op.Direct.inside len) e own hc
    length n evpd
  -- behind the copy only `data_callback` asks for the data, and that of the same command
  rw [h, and_iff_left fun _ => (inside_dataCallback (c := c) (by simp) (by exact hc)).2
    (by simpa [Cmnd.store] using hdata)]
  by_cases hevpd : evpd = 0
  · rw [if_neg (not_not.2 hevpd), inside_readTable, forall_prop_of_true hevpd]
    exact and_iff_left hn
  · rw [if_pos hevpd, inside_readTable]
    exact iff_of_true ⟨Nat.min_le_right _ _, (Nat.min_le_left _ _).trans hn⟩
      fun h => absurd h hevpd

end Inside

/-- **The copies stay inside** the tables and the data, and `sg_virt` is asked for data that is
there, exactly when the command has data and the copy that its wrapper leads to fits into the
table: for INQUIRY without the second byte of the descriptor block 36 bytes, for REQUEST SENSE
18.  This holds in every state in which `cbw_callback` can be called for an active command. -/
theorem copies_inside_iff {e : Env} {own c : CmndId} {s : State} {u : UrbId}
    (hctx : (s.urb u).context = true) (hc : s.activeScmd = some c) {len : ℕ}
    (hlen : len = (min (s.cmnd c).length s.dev.bufferlength).toNat) :
    (cbwCallback u).Throughout (sem e own) (Op.Inside len) s ↔
      (s.cmnd c).length ≠ 0 ∧ (¬ (s.urb u).status < 0 →
        ∀ b cbw, (s.urb u).transferBuffer = some b → cbw = CommandBlockWrapper.ofBytes (s.buf b) →
          cbw.dCBWSignature = CBW_SIG →
          (cbw.cdb 0 = 0x12 → cbw.cdb 1 = 0 → len ≤ fakeInquiryResponse.length) ∧
            (cbw.cdb 0 = 0x03 → len ≤ noSenseResponse.length)) := by
  subst hlen
  rw [throughout_cbwCallback (Op.Direct.inside _) hctx hc rfl, inside_sgVirt]
  refine and_congr_right fun hdata => (forall_prop_of_true hdata).trans ?_
  refine forall_congr' fun _ => ?_
  refine forall₂_congr fun b cbw => forall₃_congr fun _ _ _ => and_congr ?_ ?_
  · exact forall_congr' fun _ => inside_inquiry hc le_rfl hdata
  · exact forall_congr' fun _ => inside_readTable.trans (and_iff_left le_rfl)

/-- A REQUEST SENSE for as many bytes as its table has. -/
theorem copies_inside_iff_sense : ∃ k : Config, session.Reachable k ∧ k.oops = false ∧
    k.drv.inflight .cbw = some 0 ∧
    (cbwCallback .cbw).Throughout (sem {} 0) (Op.Inside 18) (k.drv.giveBack .cbw 0 31 []) := by
  have hk := System.reach_get [.queueCommand 0 {}]
    (reach_start (fun _ _ => True) fun _ => .plain 0x03 .dmaFromDevice 18 0)
    (by decide +kernel) (by decide +kernel)
  refine ⟨_, hk, rfl, rfl, (copies_inside_iff (c := 0) rfl rfl (by decide +kernel)).2 ?_⟩
  refine ⟨by decide +kernel, fun _ b cbw hb hcbw _ => ?_⟩
  obtain rfl : b = .cbw := (Option.some.inj hb).symm
  have hcdb : cbw.cdb 0 = 0x03 := hcbw ▸ (by decide +kernel)
  exact ⟨fun h => absurd (hcdb.symm.trans h) (by decide), fun _ => le_rfl⟩

/-- **The copies run over**: an INQUIRY for 96 bytes reads past the 36 of its table, and for a
TEST UNIT READY the address of data is taken that is not there. -/
theorem copies_run_over :
    (∃ k : Config, session.Reachable k ∧ k.oops = false ∧ k.drv.inflight .cbw = some 0 ∧
      (CommandBlockWrapper.ofBytes (k.drv.buf .cbw)).cdb 0 = 0x12 ∧
      (k.drv.cmnd 0).length = 96 ∧ k.drv.dev.bufferlength = 96 ∧
      ¬ (cbwCallback .cbw).Throughout (sem {} 0) (Op.Inside 96)
        (k.drv.giveBack .cbw 0 31 [])) ∧
    ∃ k : Config, session.Reachable k ∧ k.oops = false ∧ k.drv.inflight .cbw = some 0 ∧
      (CommandBlockWrapper.ofBytes (k.drv.buf .cbw)).cdb 0 = 0x00 ∧
      (k.drv.cmnd 0).length = 0 ∧ k.drv.dev.bufferlength = 0 ∧
      ¬ (cbwCallback .cbw).Throughout (sem {} 0) (Op.Inside 0) (k.drv.giveBack .cbw 0 31 []) := by
  constructor
  · refine System.exists_reachable [.queueCommand 0 {}]
      (reach_start (fun _ _ => True) fun _ => .plain 0x12 .dmaFromDevice 96 0) ?_
    decide +kernel
  · refine System.exists_reachable [.queueCommand 0 {}]
      (reach_start (fun _ _ => True) fun _ => .plain 0x00 .dmaNone 0 0) ?_
    decide +kernel

end KernelDriverLab.UsbV1
