import KernelDriverLab.Chardev.Buffer
import KernelDriverLab.Lib.Decimal
import KernelDriverLab.Lib.System

/-!
# Writing the threshold

`threshold_write` of `temp_watch.c` takes `mutex_ref`, copies the text of an integer to its
stack, and stores the integer.  Only its last exit gives the mutex back: after a text that is
too long, cannot be read or is no integer, every later call waits forever.  A call that fails
never changes the threshold, and no call stores behind `kbuf`.

What is assumed of `kstrtoint` is in `Kstrtoint`.
-/

namespace KernelDriverLab.ThresholdWrite

open Lib Chardev

/-- The threshold and the lock around it. -/
structure State where
  thresholdValue : Int
  /-- `mutex_ref` is held. -/
  mutexRef : Bool
deriving DecidableEq, Repr

/-- What a call of `threshold_write` does. -/
structure Written where
  ret : Int
  /-- The stores to `kbuf`. -/
  stores : Stores
  state : State
deriving DecidableEq

/-- `sizeof(kbuf)` -/
def kbufSize : ℕ := 32

/-- The text of an `int`. -/
abbrev IntDecimal : List UInt8 → Int → Prop := Decimal (-2 ^ 31) (2 ^ 31 - 1)

/-- `kstrtoint(s, 10, &value)` gives the integer in the string, or an error. -/
def Kstrtoint (kstrtoint : List UInt8 → Option Int) : Prop :=
  ∀ s x, kstrtoint s = some x ↔ IntDecimal s x

section Module

variable (kstrtoint : List UInt8 → Option Int)

/-- `threshold_write`, whose `kbuf` holds any bytes before.  It has no result when
`mutex_lock` waits for a call that will not give the mutex back. -/
def thresholdWrite (s : State) (u : UserMem) (kbuf : Vector UInt8 kbufSize)
    (fault : Option (ℕ × ℕ)) : Option Written :=
  if s.mutexRef then none
  else
    let s := { s with mutexRef := true }
    if u.len ≥ kbufSize then some ⟨-EINVAL, [], s⟩
    else match fromUser (u.first u.len) u.len fault with
      | (src, false) => some ⟨-EFAULT, storesOf src, s⟩
      | (src, true) =>
        let stores := storesOf src ++ [(u.len, 0)]
        match kstrtoint (cString (store kbuf.toList stores)) with
        | none => some ⟨-EINVAL, stores, s⟩
        | some value =>
          let s := { s with thresholdValue := value }
          some ⟨u.len, stores, { s with mutexRef := false }⟩

/-- A call of `threshold_write`. -/
structure Call where
  user : UserMem
  kbuf : Vector UInt8 kbufSize
  fault : Option (ℕ × ℕ)

/-- The calls one after the other. -/
def system : System State Call where
  Init s := s.mutexRef = false
  next s c := (thresholdWrite kstrtoint s c.user c.kbuf c.fault).map Written.state

/-- A call returns and leaves the mutex free; it has stored the integer in its text or has
failed and changed nothing; and it has stayed within `kbuf`. -/
structure AllOrNothing (s : State) (c : Call) (w : Written) : Prop where
  free : w.state.mutexRef = false
  accepted : w.ret = c.user.len →
    IntDecimal (cString c.user.offered) w.state.thresholdValue
  failed : w.ret < 0 → w.state.thresholdValue = s.thresholdValue
  returns : w.ret = c.user.len ∨ w.ret < 0
  stores : ∀ p ∈ w.stores, p.1 < kbufSize

/-- `mutex_ref` is free, and the call does all or nothing. -/
def Sound (s : State) (c : Call) : Prop :=
  ∃ w, thresholdWrite kstrtoint s c.user c.kbuf c.fault = some w ∧ AllOrNothing s c w

/-- A call with a short text that can be read and is that of an `int`. -/
def Call.Accepted (c : Call) : Prop :=
  c.user.len < kbufSize ∧ ¬ Faults c.user.len c.fault ∧
    ∃ x, IntDecimal (cString c.user.offered) x

end Module

/-! ## One call -/

variable {kstrtoint : List UInt8 → Option Int} {s : State} {c : Call} {w : Written}

/-- What `kstrtoint` is given: the text up to its first 0. -/
lemma cString_store_kbuf (kbuf : Vector UInt8 kbufSize) {u : UserMem} (hlen : u.len < kbufSize) :
    cString (store kbuf.toList (storesOf u.offered ++ [(u.len, 0)])) = cString u.offered := by
  have hsize : kbuf.toList.length = kbufSize := Vector.length_toList
  have hlt : u.offered.length < kbuf.toList.length := by
    rw [hsize]
    exact hlen
  have hset : store kbuf.toList (storesOf u.offered ++ [(u.len, 0)]) =
      (overwrite kbuf.toList u.offered).set u.offered.length 0 := by
    rw [store_append, store_storesOf hlt.le]
    rfl
  rw [hset, ← overwrite_concat hlt, overwrite, List.append_assoc, List.singleton_append,
    cString_append_zero]

/-- A call that finds the mutex free: it is accepted and gives the mutex back, or fails and
keeps it. -/
lemma thresholdWrite_spec (hk : Kstrtoint kstrtoint) (hs : s.mutexRef = false) (c : Call) :
    ∃ w, thresholdWrite kstrtoint s c.user c.kbuf c.fault = some w ∧
      (∀ p ∈ w.stores, p.1 < kbufSize) ∧
      (c.Accepted ∧ w.ret = c.user.len ∧ w.state.mutexRef = false ∧
          IntDecimal (cString c.user.offered) w.state.thresholdValue ∨
        ¬ c.Accepted ∧ w.ret < 0 ∧ w.state = { s with mutexRef := true }) := by
  obtain ⟨u, kbuf, fault⟩ := c
  simp only [thresholdWrite, hs, Bool.false_eq_true, if_false, u.first_len]
  by_cases hlen : u.len < kbufSize
  · rw [if_neg (not_le.2 hlen)]
    by_cases hfault : Faults u.len fault
    · -- the copy faults
      have hbad := fromUser_of_faults hfault u.offered
      have hsrc : (fromUser u.offered u.len fault).1.length ≤ u.len :=
        length_fromUser_le le_rfl fault
      revert hbad hsrc
      rcases fromUser u.offered u.len fault with ⟨src, ok⟩
      rintro rfl hsrc
      refine ⟨_, rfl, fun p hp => ?_, .inr ⟨fun h => h.2.1 hfault, ?_, rfl⟩⟩
      · exact (mem_storesOf hp).trans_le (hsrc.trans hlen.le)
      · show -EFAULT < 0
        decide
    · have hstores (p : ℕ × UInt8) (hp : p ∈ storesOf u.offered ++ [(u.len, 0)]) :
          p.1 < kbufSize := by
        rcases List.mem_append.1 hp with hp | hp
        · exact (mem_storesOf hp).trans hlen
        · rw [List.mem_singleton.1 hp]
          exact hlen
      have hall : u.offered.take u.len = u.offered := List.take_length
      rw [fromUser_of_not_faults hfault, hall]
      dsimp only
      rw [cString_store_kbuf kbuf hlen]
      cases hread : kstrtoint (cString u.offered) with
      | none =>
        -- the text is no integer
        refine ⟨_, rfl, hstores, .inr ⟨?_, show -EINVAL < 0 by decide, rfl⟩⟩
        rintro ⟨-, -, x, hx⟩
        rw [(hk _ _).2 hx] at hread
        cases hread
      | some x =>
        have hx := (hk _ _).1 hread
        exact ⟨_, rfl, hstores, .inl ⟨⟨hlen, hfault, x, hx⟩, rfl, rfl, hx⟩⟩
  · -- the text is too long
    rw [if_pos (not_lt.1 hlen)]
    refine ⟨_, rfl, by simp, .inr ⟨fun h => hlen h.1, show -EINVAL < 0 by decide, rfl⟩⟩

lemma sound_iff (hk : Kstrtoint kstrtoint) (hs : s.mutexRef = false) :
    Sound kstrtoint s c ↔ c.Accepted := by
  obtain ⟨w, hw, hstores, hcase⟩ := thresholdWrite_spec hk hs c
  rcases hcase with ⟨hacc, hret, hfree, hx⟩ | ⟨hacc, hret, hstate⟩
  · refine iff_of_true ⟨w, hw, hfree, fun _ => hx, fun hneg => ?_, .inl hret, hstores⟩ hacc
    omega
  · refine iff_of_false ?_ hacc
    rintro ⟨w', hw', hall⟩
    obtain rfl := Option.some.inj (hw.symm.trans hw')
    have hfree := hall.free
    rw [hstate] at hfree
    cases hfree

lemma next_of_accepted (hk : Kstrtoint kstrtoint) (hs : s.mutexRef = false) (hc : c.Accepted) :
    ∃ t, (system kstrtoint).next s c = some t ∧ t.mutexRef = false := by
  obtain ⟨w, hw, -, ⟨-, -, hfree, -⟩ | ⟨hacc, -⟩⟩ := thresholdWrite_spec hk hs c
  · exact ⟨w.state, by simp [system, hw], hfree⟩
  · exact absurd hc hacc

/-- **When writing the threshold is all or nothing.** In a sequence of calls that begins with the
mutex free, every call returns, gives the mutex back, stores the integer in its text or nothing,
and stays within `kbuf`, exactly when every call has a text of less than 32 bytes that can be read
and is that of an `int`. -/
theorem all_or_nothing_iff (hk : Kstrtoint kstrtoint) (hs : s.mutexRef = false)
    (calls : List Call) :
    (system kstrtoint).Along (Sound kstrtoint) s calls ↔ ∀ c ∈ calls, c.Accepted := by
  have hstep (s : State) (c : Call) (t : State) (hs : s.mutexRef = false) (hc : c.Accepted)
      (h : (system kstrtoint).next s c = some t) : t.mutexRef = false := by
    obtain ⟨t', ht', hfree⟩ := next_of_accepted hk hs hc
    rw [Option.some.inj (h.symm.trans ht')]
    exact hfree
  rw [System.along_congr hstep (fun s c hs => sound_iff hk hs) hs]
  exact System.along_iff_forall (fun s c hs hc => next_of_accepted hk hs hc) hs calls

/-- A call that fails leaves the threshold, and no call stores behind `kbuf`. -/
theorem failed_write_keeps_threshold (hk : Kstrtoint kstrtoint)
    (h : thresholdWrite kstrtoint s c.user c.kbuf c.fault = some w) :
    (w.ret < 0 → w.state.thresholdValue = s.thresholdValue) ∧ ∀ p ∈ w.stores, p.1 < kbufSize := by
  have hs : s.mutexRef = false := by
    cases hlocked : s.mutexRef with
    | false => rfl
    | true => simp [thresholdWrite, hlocked] at h
  obtain ⟨w', hw', hstores, hcase⟩ := thresholdWrite_spec hk hs c
  obtain rfl := Option.some.inj (h.symm.trans hw')
  refine ⟨fun hret => ?_, hstores⟩
  rcases hcase with ⟨-, hlen, -⟩ | ⟨-, -, hstate⟩
  · omega
  · rw [hstate]

/-! ## Runs -/

/-- A `kstrtoint` that does what is assumed. -/
def readInt32 : List UInt8 → Option Int := readDecimal (-2 ^ 31) (2 ^ 31 - 1)

lemma kstrtoint_readInt32 : Kstrtoint readInt32 := fun _ _ => readDecimal_eq_some_iff

/-- A call with this text, which is copied. -/
def callWith (text : List UInt8) : Call := ⟨⟨text, fun _ => 0⟩, Vector.replicate _ 7, none⟩

/-- "42", with a newline, and "-7". -/
theorem all_or_nothing_iff_42 :
    (system readInt32).Along (Sound readInt32) ⟨75, false⟩
      [callWith [52, 50, 10], callWith [45, 55]] := by
  refine (all_or_nothing_iff kstrtoint_readInt32 rfl _).2 fun c hc => ?_
  rcases List.mem_pair.1 hc with rfl | rfl
  · exact ⟨by decide, id, 42, readDecimal_eq_some_iff.1 (by decide)⟩
  · exact ⟨by decide, id, -7, readDecimal_eq_some_iff.1 (by decide)⟩

/-- **The mutex stays locked.** A write of "hot" fails and leaves the mutex locked, so that a
write of "42" after it waits forever. -/
theorem second_writer_waits :
    thresholdWrite readInt32 ⟨75, false⟩ ⟨[104, 111, 116], fun _ => 0⟩ (Vector.replicate _ 7)
        none = some ⟨-EINVAL, [(0, 104), (1, 111), (2, 116), (3, 0)], ⟨75, true⟩⟩ ∧
      thresholdWrite readInt32 ⟨75, true⟩ ⟨[52, 50], fun _ => 0⟩ (Vector.replicate _ 7) none =
        none ∧
      ¬ (system readInt32).Along (Sound readInt32) ⟨75, false⟩ [callWith [104, 111, 116]] := by
  have hhot : thresholdWrite readInt32 ⟨75, false⟩ ⟨[104, 111, 116], fun _ => 0⟩
      (Vector.replicate _ 7) none =
        some ⟨-EINVAL, [(0, 104), (1, 111), (2, 116), (3, 0)], ⟨75, true⟩⟩ := by
    decide +kernel
  refine ⟨hhot, rfl, ?_⟩
  rintro ⟨⟨w, hw, hall⟩, -⟩
  obtain rfl := Option.some.inj (hhot.symm.trans hw)
  exact absurd hall.free (by decide)

end KernelDriverLab.ThresholdWrite
