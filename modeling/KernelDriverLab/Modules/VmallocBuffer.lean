import KernelDriverLab.Chardev.HeapBuffer

/-!
# The owner of device_buffer in vmalloc.c

Every `my_write` of `vmalloc.c` allocates a block and lets `device_buffer` point to it, or to
nothing when there is no memory, and only `vmalloc_exit` frees.  So the block of the message
before is lost at every write but the first, and a read before the first reads through NULL.
`kept_iff` says that this is all that can go wrong: a run in which each write finds the pointer
NULL and no read does keeps everything.
-/

namespace KernelDriverLab.VmallocBuffer

open Lib Chardev

/-- The buffer and the blocks that are allocated. -/
structure State where
  /-- The block that `device_buffer` points to. -/
  deviceBuffer : Option ℕ
  /-- The blocks that are allocated. -/
  ledger : Ledger Unit
  /-- The memory from the start of each block on, also beyond its end. -/
  memory : ℕ → List UInt8

namespace State

/-- The block that `device_buffer` points to is allocated. -/
def Live (s : State) : Prop := ∃ i ∈ s.deviceBuffer, (i, ()) ∈ s.ledger.live

instance (s : State) : Decidable s.Live :=
  match h : s.deviceBuffer with
  | none => isFalse (by simp [Live, h])
  | some i => decidable_of_iff (∃ p ∈ s.ledger.live, p = (i, ())) (by simp [Live, h])

/-- The memory from the start of the block on. -/
def bytes (s : State) : List UInt8 := s.deviceBuffer.elim [] s.memory

end State

/-! ## The functions -/

/-- `my_write`, with what `vmalloc` finds: the value returned and the state afterwards. -/
def myWrite (s : State) (u : UserMem) (found : Option (List UInt8)) (fault : Option (ℕ × ℕ)) :
    Int × State :=
  let w := Vmalloc.myWrite u found fault
  match found with
  | none => (w.ret, { s with deviceBuffer := none })
  | some _ =>
    (w.ret, { s with
      deviceBuffer := some s.ledger.next
      ledger := s.ledger.acquire ()
      memory := Function.update s.memory s.ledger.next w.memory })

/-- `my_read`, which has no result when its pointer is to no allocated block. -/
def myRead (s : State) (len offset : ℕ) (fault : Option ℕ) : Option Reply :=
  if s.Live then some (Vmalloc.myRead s.bytes len offset fault) else none

/-- `vmalloc_exit` up to its registrations; `vfree` does nothing for NULL. -/
def vmallocExit (s : State) : State :=
  match s.deviceBuffer with
  | none => s
  | some i => { s with ledger := s.ledger.release i () }

/-! ## Runs -/

/-- A call of `my_write` or `my_read`. -/
inductive Call where
  | write (u : UserMem) (found : Option (List UInt8)) (fault : Option (ℕ × ℕ))
  | read (len offset : ℕ) (fault : Option ℕ)

/-- The state after a call. -/
def Call.after (s : State) : Call → State
  | .write u found fault => (myWrite s u found fault).2
  | .read _ _ _ => s

/-- The module after it has been loaded. -/
def State.loaded : State := ⟨none, .empty, fun _ => []⟩

/-- The runs of the module. -/
def system : System State Call where
  Init s := s = .loaded
  next s c := some (c.after s)

/-- At most one block is allocated, and `device_buffer` points to it. -/
structure Single (s : State) : Prop where
  one : s.ledger.live.length ≤ 1
  owner : ∀ p ∈ s.ledger.live, s.deviceBuffer = some p.1

/-- A call leaves at most the block of `device_buffer`, and reads from an allocated one. -/
def Owns (s : State) : Call → Prop
  | .write u found fault => Single (myWrite s u found fault).2
  | .read len offset fault => Single s ∧ (myRead s len offset fault).isSome = true

/-- After `vmalloc_exit` nothing is allocated, and nothing has been freed twice. -/
structure Unloaded (s : State) : Prop where
  live : (vmallocExit s).ledger.live = []
  frees : (vmallocExit s).ledger.wrong = []

/-- These calls keep the blocks, and so does the `vmalloc_exit` that follows. -/
def Kept (calls : List Call) : Prop :=
  system.Along Owns .loaded calls ∧ ∃ s, system.exec .loaded calls = some s ∧ Unloaded s

/-- A write finds `device_buffer` NULL, and a read does not. -/
def Timely (s : State) : Call → Prop
  | .write _ _ _ => s.deviceBuffer = none
  | .read _ _ _ => s.deviceBuffer ≠ none

instance (s : State) : (c : Call) → Decidable (Timely s c)
  | .write _ _ _ => inferInstanceAs (Decidable (_ = _))
  | .read _ _ _ => inferInstanceAs (Decidable (_ ≠ _))

/-! ## The invariant -/

/-- The blocks that are allocated are just the one that `device_buffer` points to, and no
`vfree` was wrong. -/
structure Owned (s : State) : Prop where
  live : s.ledger.live = s.deviceBuffer.toList.map (·, ())
  frees : s.ledger.wrong = []

variable {s t : State} {c : Call}

lemma owned_loaded : Owned .loaded := ⟨rfl, rfl⟩

lemma Owned.single (h : Owned s) : Single s := by
  obtain ⟨hlive, -⟩ := h
  cases hp : s.deviceBuffer with
  | none =>
    rw [hp] at hlive
    exact ⟨by simp [hlive], by simp [hlive]⟩
  | some i =>
    rw [hp] at hlive
    exact ⟨by simp [hlive], by simp [hlive, hp]⟩

lemma Owned.live_iff (h : Owned s) : s.Live ↔ s.deviceBuffer ≠ none := by
  cases hp : s.deviceBuffer with
  | none => simp [State.Live, hp]
  | some i => simp [State.Live, hp, h.live]

/-- A call in time keeps the invariant. -/
lemma Owned.after (h : Owned s) (hc : Timely s c) : Owned (c.after s) := by
  cases c with
  | write u found fault =>
    have hnull : s.deviceBuffer = none := hc
    have hlive : s.ledger.live = [] := by simp [h.live, hnull]
    cases found with
    | none => exact ⟨hlive, h.frees⟩
    | some found =>
      refine ⟨?_, h.frees⟩
      show (s.ledger.next, ()) :: s.ledger.live = [(s.ledger.next, ())]
      rw [hlive]
  | read len offset fault => exact h

/-- A write over a block that is allocated leaves two, or one that nothing points to. -/
lemma Owned.single_myWrite_iff (h : Owned s) (u : UserMem) (found : Option (List UInt8))
    (fault : Option (ℕ × ℕ)) : Single (myWrite s u found fault).2 ↔ s.deviceBuffer = none := by
  constructor
  · intro hsingle
    cases hp : s.deviceBuffer with
    | none => rfl
    | some i =>
      have hmem : (i, ()) ∈ s.ledger.live := by simp [h.live, hp]
      cases found with
      | none =>
        have howner := hsingle.owner (i, ()) hmem
        cases howner
      | some found =>
        have hone : ((s.ledger.next, ()) :: s.ledger.live).length ≤ 1 := hsingle.one
        have hpos : 0 < s.ledger.live.length := List.length_pos_of_mem hmem
        rw [List.length_cons] at hone
        omega
  · intro hnull
    have hc : Timely s (.write u found fault) := hnull
    exact (h.after hc).single

lemma Owned.owns_iff (h : Owned s) : Owns s c ↔ Timely s c := by
  cases c with
  | write u found fault => exact h.single_myWrite_iff u found fault
  | read len offset fault =>
    have hread : (myRead s len offset fault).isSome = true ↔ s.Live := by
      rw [myRead]
      split_ifs with hlive <;> simp [hlive]
    rw [Owns, hread, h.live_iff]
    exact and_iff_right h.single

lemma Owned.unloaded (h : Owned s) : Unloaded s := by
  obtain ⟨hlive, hfrees⟩ := h
  cases hp : s.deviceBuffer with
  | none =>
    rw [hp] at hlive
    exact ⟨by simp [vmallocExit, hp, hlive], by simp [vmallocExit, hp, hfrees]⟩
  | some i =>
    have hone : s.ledger.live = [(i, ())] := by simp [hlive, hp]
    exact ⟨by simp [vmallocExit, hp, Ledger.release, hone],
      by simp [vmallocExit, hp, Ledger.release, hone, hfrees]⟩

/-- **When the blocks are kept.** Whatever the lengths and however the allocations and copies
end, at most one block is allocated at any time and `device_buffer` points to it, every read is
of an allocated block, and after `vmalloc_exit` none is left and none was freed twice, exactly
when every write finds `device_buffer` NULL and no read does. -/
theorem kept_iff (calls : List Call) : Kept calls ↔ system.Along Timely .loaded calls := by
  have hstep (s : State) (c : Call) (t : State) (hs : Owned s) (hc : Timely s c)
      (h : system.next s c = some t) : Owned t := by
    rw [← Option.some.inj h]
    exact hs.after hc
  have hiff := System.along_congr hstep (fun s c hs => hs.owns_iff) owned_loaded calls
  constructor
  · rintro ⟨howns, -⟩
    exact hiff.1 howns
  · intro htimely
    obtain ⟨s, hexec, hs⟩ := System.exists_exec (fun s c hs hc => ⟨_, rfl, hs.after hc⟩)
      owned_loaded htimely
    exact ⟨hiff.2 htimely, s, hexec, hs.unloaded⟩

/-- **Blocks are lost, and a read comes too early**: after two writes two blocks are allocated,
of which `vmalloc_exit` frees one; and a read before the first write reads through NULL. -/
theorem second_write_leaks :
    (∃ s, system.exec .loaded [.write ⟨[104, 105], fun _ => 0⟩ (some []) none,
        .write ⟨[33], fun _ => 0⟩ (some []) none] = some s ∧ s.ledger.live.length = 2 ∧
      (vmallocExit s).ledger.live.length = 1) ∧
    myRead .loaded 16 0 none = none ∧
    ¬ Kept [.write ⟨[104, 105], fun _ => 0⟩ (some []) none,
      .write ⟨[33], fun _ => 0⟩ (some []) none] ∧ ¬ Kept [.read 16 0 none] := by
  refine ⟨⟨_, rfl, by decide, by decide⟩, rfl, ?_, ?_⟩
  · rintro ⟨-, s, hexec, hunloaded⟩
    obtain rfl := Option.some.inj hexec
    exact absurd hunloaded.live (by decide)
  · rintro ⟨⟨hread, -⟩, -⟩
    exact absurd hread.2 (by decide)

end KernelDriverLab.VmallocBuffer
