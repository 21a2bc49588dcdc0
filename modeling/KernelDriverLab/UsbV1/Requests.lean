import KernelDriverLab.UsbV1.Runs

/-!
# What a command keeps while it is processed

The completion functions and `usb_eh_abort` go on with the command that `queue_command` has
handed over.  They change neither what the SCSI layer asks for nor the tag, and they make no
other command the active one.  `Continued` says so, with the pointers and the transfer of the
device.
-/

namespace KernelDriverLab.UsbV1

open Lib Prog

/-- What the SCSI layer asks for: the descriptor block with its length, the direction and
the number of bytes. -/
def Cmnd.request (x : Cmnd) : List UInt8 × UInt16 × DmaDataDirection × UInt32 :=
  (x.cmnd, x.cmdLen, x.scDataDirection, x.length)

/-- The operations of the functions that go on with a command. -/
@[simp] def Op.Continues : Op → Prop
  | writeDev f => ∀ d, Dev.Same d (f d) ∧ (f d).cbwTag = d.cbwTag
  | writeCmnd _ f => ∀ x, (f x).request = x.request
  | setActiveScmd c => c = none
  | scsiHostAlloc => False
  | _ => True

section Continues

lemma Op.Routine.continues {o : Op} (ho : o.Routine) : o.Continues := by
  cases ho <;> simp [Cmnd.request, Cmnd.store]

lemma Op.Sends.continues {o : Op} (ho : o.Sends) : o.Continues := by
  cases ho with
  | setCount => exact fun _ => ⟨⟨rfl, rfl, rfl, rfl, rfl, rfl⟩, rfl⟩
  | _ => simp

lemma continues_callback (cb : Callback) (u : UrbId) : All Op.Continues (cb.body u) :=
  all_callback (fun _ ho => ho.continues) (by simp) (by simp) (by simp) (by simp)
    (fun _ ho => ho.continues) cb u

lemma continues_usbEhAbort (c : CmndId) : All Op.Continues (usbEhAbort c) :=
  all_usbEhAbort (fun _ ho => ho.continues) (by simp) c

end Continues

/-- A command was continued between `s` and `t`, and none was handed over. -/
structure Continued (s t : State) : Prop where
  dev : s.dev.Same t.dev
  tag : t.dev.cbwTag = s.dev.cbwTag
  request : ∀ c, (t.cmnd c).request = (s.cmnd c).request
  active : t.activeScmd = s.activeScmd ∨ t.activeScmd = none

namespace Continued

lemma refl (s : State) : Continued s s := ⟨.refl _, rfl, fun _ => rfl, .inl rfl⟩

lemma trans {s₁ s₂ s₃ : State} (h : Continued s₁ s₂) (h' : Continued s₂ s₃) :
    Continued s₁ s₃ where
  dev := h.dev.trans h'.dev
  tag := h'.tag.trans h.tag
  request c := (h'.request c).trans (h.request c)
  active := by
    rcases h'.active with ha | ha
    · rw [ha]
      exact h.active
    · exact .inr ha

end Continued

section Calls

variable {e : Env} {u : UrbId} {c own : CmndId} {s : State} {o : Op}

lemma continued_sem (ho : o.Continues) : Continued s (sem e own o s).state := by
  cases o <;> simp only [sem, Op.Continues] at ho ⊢
  case writeDev f => exact ⟨(ho s.dev).1, (ho s.dev).2, fun _ => rfl, .inl rfl⟩
  case writeCmnd d f =>
    refine ⟨.refl _, rfl, fun b => ?_, .inl rfl⟩
    by_cases hb : b = d
    · subst hb
      simpa using ho (s.cmnd b)
    · simp [hb]
  case setActiveScmd a =>
    subst ho
    exact ⟨.refl _, rfl, fun _ => rfl, .inr rfl⟩
  case usbAllocCoherent b n =>
    split
    · exact .refl s
    · cases b <;> exact ⟨.refl _, rfl, fun _ => rfl, .inl rfl⟩
  case usbFreeUrb v => cases h : s.dev.urb v <;> exact ⟨.refl _, rfl, fun _ => rfl, .inl rfl⟩
  case usbFreeCoherent b n =>
    cases h : s.dev.buffer b <;> exact ⟨.refl _, rfl, fun _ => rfl, .inl rfl⟩
  case usbPutDev => cases h : s.dev.udev <;> exact ⟨.refl _, rfl, fun _ => rfl, .inl rfl⟩
  case scsiHostPut p => cases p <;> exact ⟨.refl _, rfl, fun _ => rfl, .inl rfl⟩
  all_goals repeat' split
  all_goals exact ⟨.refl _, rfl, fun _ => rfl, .inl rfl⟩

lemma continued_giveBack (s : State) (u : UrbId) (st : Int) (n : UInt32) (received : List UInt8) :
    Continued s (s.giveBack u st n received) := by
  refine ⟨(s.giveBack_dev u st n received).symm ▸ .refl _, by rw [s.giveBack_dev],
    fun c => by rw [s.giveBack_cmnd], .inl ?_⟩
  exact congrArg Traffic.active (s.traffic_giveBack u st n received)

lemma continued_runCallback : Continued s (runCallback e u c s).state := by
  unfold runCallback
  split
  · exact .refl s
  · exact (continues_callback _ u).run (I := Continued s)
      (fun _ _ ho h => h.trans (continued_sem ho)) (.refl s)

/-- A completion goes on with the command. -/
lemma continued_complete (st : Int) (n : UInt32) (received : List UInt8) :
    Continued s (runCallback e u c (s.giveBack u st n received)).state :=
  (continued_giveBack s u st n received).trans continued_runCallback

/-- `usb_eh_abort` does, too. -/
lemma continued_abort : Continued s (runHandler .abort c e s).state := by
  refine (continues_usbEhAbort c).run (I := Continued s) (fun o t ho h => h.trans ?_) (.refl s)
  by_cases hkill : ∃ v, o = .usbKillUrb v
  · obtain ⟨v, rfl⟩ := hkill
    rw [killSem_kill]
    split
    · exact .refl t
    · exact continued_complete _ 0 []
  · rw [killSem_of_ne e c (not_exists.1 hkill)]
    exact continued_sem ho

end Calls

end KernelDriverLab.UsbV1
