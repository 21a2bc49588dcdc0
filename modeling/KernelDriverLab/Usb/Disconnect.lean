import KernelDriverLab.Usb.Teardown

/-!
# Disconnect against deferred work and callbacks

Nothing that `usb_disconnect` has freed or set to NULL is used in a run in which the
work item has returned before `cbw_urb` is killed, no `data_callback` is running when
`csw_urb` is killed, and no transfer succeeds after that.

The driver ensures none of this.  It does not cancel the work item, and it kills
`csw_urb` before the URBs whose completion function submits `csw_urb`; the two runs at
the end use what is gone in these two ways.
-/

namespace KernelDriverLab.Usb

open Lib Prog

/-! ## The condition -/

/-- The URB that `usb_disconnect` kills when thread `i` runs. -/
def World.killing (w : World) (i : ℕ) : Option Pair :=
  match w.pool.threads[i]? with
  | some ⟨.disconnect, .act o _⟩ => o.kills
  | _ => none

/-- When `usb_kill_urb` returns in `usb_disconnect` for `cbw_urb`, the work item has
returned; when it returns for `csw_urb`, no `data_callback` is running; and no transfer
succeeds after that. -/
def Orderly (w : World) : Act → Prop
  | .complete u st _ => u.callback = .dataCallback → 0 ≤ st → .csw ∉ w.killed
  | .run i _ =>
      (w.killing i = some .cbw →
        ∀ th ∈ w.pool.threads, th.role = .work → th.returned = true) ∧
      (w.killing i = some .csw →
        ∀ th ∈ w.pool.threads, th.role.isData = true → th.returned = true)

instance (w : World) : (l : Act) → Decidable (Orderly w l)
  | .complete _ _ _ => inferInstanceAs (Decidable (_ → _ → _))
  | .run _ _ => inferInstanceAs (Decidable (_ ∧ _))

/-! ## The invariant -/

/-- What holds of a thread other than that of `usb_disconnect`. -/
structure Confined (d : Stage) (th : UsbThread) : Prop where
  role : th.role ≠ .disconnect
  within : All (Op.Within th.role) th.prog
  alive : d.Alive th.role ∨ th.returned = true

/-- `usb_disconnect`, in thread 1, has come to stage `d`, and the others keep to what it
has left. -/
structure Inv (w : World) (d : Stage) : Prop where
  disconnect : ∃ p, w.pool.threads[1]? = some ⟨.disconnect, p⟩ ∧
    Follows teardown p d fun _ _ => True
  others : w.pool.Each fun j th => j ≠ 1 → Confined d th
  own : ∀ u, (w.drv.urb u).Own u
  sound : d.Sound w.drv
  gone : ∀ x ∈ w.gone, d.Gone x
  killed : d = .cswKilled ∨ d = .freed → .csw ∈ w.killed

variable {w w' : World} {d : Stage} {s : State}

lemma Inv.safe (h : Inv w d) : w.Safe := by
  intro th hth x hx hgone
  obtain ⟨j, hj⟩ := List.mem_iff_getElem?.1 hth
  obtain ⟨r, prog⟩ := th
  cases prog with
  | ret v => simp [pending] at hx
  | act o k =>
    by_cases hj1 : j = 1
    · obtain ⟨p, hp, hfollow⟩ := h.disconnect
      rw [hj1, hp] at hj
      obtain ⟨rfl, rfl⟩ : .disconnect = r ∧ p = .act o k := by simpa using hj
      exact not_gone_of_allow hfollow.1 x hx (h.gone x hgone)
    · have hth := h.others j _ hj hj1
      have halive : d.Alive r := hth.alive.resolve_right (by simp [Thread.returned])
      exact not_gone_of_scope hth.role halive (uses_of_within hth.within.1 x hx) (h.gone x hgone)

lemma sound_giveBack (hs : d.Sound s) (u : Pair) (st : Int) (received : List UInt8) :
    d.Sound (s.giveBack u st received) := by
  have hidle (v : Pair) (hv : s.inflight v = false) :
      (s.giveBack u st received).inflight v = false := by
    by_cases hvu : v = u <;> simp [hvu, hv]
  cases d with
  | intact => exact hs
  | cbwKilled => exact ⟨hidle _ hs.1, hs.2⟩
  | cswKilled | freed => exact ⟨hidle _ hs.1, hidle _ hs.2⟩

/-- A completion function begins. -/
lemma step_complete (h : Inv w d) {u : Pair} {st : Int} {received : List UInt8}
    (horderly : Orderly w (.complete u st received))
    (hstep : interleaved.next w (.complete u st received) = some w') : Inv w' d := by
  obtain ⟨hu, cb, hcb, rfl⟩ := inv_complete hstep
  obtain rfl : cb = u.callback := (h.own u).complete cb hcb
  have hown : ({ w.drv.urb u with status := st } : Urb).Own u :=
    ⟨(h.own u).complete, (h.own u).transferBuffer⟩
  have halive : d.Alive (.callback u) ∨ Thread.returned
      (⟨.callback u, u.callback.body { w.drv.urb u with status := st }⟩ : UsbThread) = true := by
    cases d with
    | intact => exact .inl trivial
    | cbwKilled =>
      refine .inl ⟨by simp, ?_⟩
      rintro ⟨⟩
      simp [h.sound.1] at hu
    | cswKilled | freed =>
      -- only the URB of a data phase can still be in flight, and it has failed
      have hdata : u.callback = .dataCallback := by
        cases u with
        | cbw => simp [h.sound.1] at hu
        | csw => simp [h.sound.2] at hu
        | read | inquiry | write => rfl
      have hneg : st < 0 := by
        by_contra hst
        exact horderly hdata (not_lt.1 hst) (h.killed (by simp))
      right
      rw [hdata]
      simp [Callback.body, dataCallback, hneg, Thread.returned]
  constructor
  case disconnect =>
    obtain ⟨p, hp, hfollow⟩ := h.disconnect
    exact ⟨p, Pool.getElem?_spawn hp, hfollow⟩
  case others =>
    exact Pool.Each.spawn h.others fun _ => ⟨by simp, within_callback hown, halive⟩
  case own => exact own_update h.own hown
  case sound => exact sound_giveBack h.sound u st received
  case gone => exact h.gone
  case killed => exact h.killed

lemma sound_within {r : Role} {e : Env} {o : Op} (hs : d.Sound s) (hr : r ≠ .disconnect)
    (ha : d.Alive r) (ho : o.Within r) : d.Sound (sem e o s).state := by
  obtain ⟨hcbw, hcsw, hintf⟩ := within_sem (e := e) (s := s) ho
  cases d with
  | intact =>
    rw [Stage.Sound, hcbw, hcsw, hintf]
    exact hs
  | cbwKilled =>
    refine ⟨?_, by rw [hcsw]; exact hs.2⟩
    by_contra hne
    rcases inflight_sem (by simpa using hne) with hin | huse
    · simp [hs.1] at hin
    · exact not_gone_of_scope hr ha (uses_of_within ho _ huse) (.inl rfl)
  | cswKilled | freed => exact absurd ha id

/-- A function other than `usb_disconnect` goes on. -/
lemma step_other (h : Inv w d) {i : ℕ} (hi1 : i ≠ 1) {e : Env}
    (hstep : interleaved.next w (.run i e) = some w') : Inv w' d := by
  obtain ⟨r, o, k, x, s, hi, -, hsem, rfl⟩ := inv_run hstep
  have hth := h.others i _ hi hi1
  have halive : d.Alive r := hth.alive.resolve_right (by simp [Thread.returned])
  have hr : r ≠ .disconnect := hth.role
  have hwithin : o.Within r := hth.within.1
  have hs : (sem e o w.drv).state = s := by rw [hsem]; rfl
  constructor
  case disconnect =>
    obtain ⟨p, hp, hfollow⟩ := h.disconnect
    exact ⟨p, by simpa [World.after, List.getElem?_set_ne hi1] using hp, hfollow⟩
  case others =>
    exact Pool.each_set (fun j th _ => h.others j th) fun _ => ⟨hr, hth.within.2 x, .inl halive⟩
  case own =>
    have hfills : o.FillsOwn := by
      cases o <;> first | trivial | exact hwithin.2
    exact hs ▸ own_sem hfills h.own
  case sound => exact hs ▸ sound_within h.sound hr halive hwithin
  case gone => simpa [World.after, hr] using h.gone
  case killed => simpa [World.after, hr] using h.killed

section Advance

variable {o : Op} {k : o.Ans → Driver Unit} {x : o.Ans}

/-- What is gone stays gone. -/
lemma gone_after {y : Thing} (hy : d.Gone y) : (d.after o x).Gone y := by
  cases d with
  | intact => exact absurd hy id
  | cbwKilled =>
    cases o <;> first | exact hy | skip
    case usbKillUrb => rcases hy with rfl | rfl <;> simp [Stage.Gone]
  | cswKilled =>
    cases o <;> first | exact hy | trivial
  | freed => exact hy

/-- The stage changes when an URB has been killed, or the device freed. -/
lemma after_cases (ho : d.allow o) : d.after o x = d ∨
    d = .intact ∧ o.kills = some .cbw ∧ d.after o x = .cbwKilled ∨
    d = .cbwKilled ∧ o.kills = some .csw ∧ d.after o x = .cswKilled ∨
    d = .cswKilled ∧ d.after o x = .freed := by
  cases d with
  | intact =>
    cases o <;> first | exact absurd ho id | exact .inl rfl | skip
    case usbKillUrb u p =>
      obtain ⟨rfl, hp⟩ : u = .cbw ∧ p ≠ none := ho
      obtain ⟨i, rfl⟩ := Option.ne_none_iff_exists'.1 hp
      exact .inr (.inl ⟨rfl, rfl, rfl⟩)
  | cbwKilled =>
    cases o <;> first | exact absurd ho id | exact .inl rfl | skip
    case usbKillUrb u p =>
      obtain ⟨rfl, hp⟩ : u = .csw ∧ p ≠ none := ho
      obtain ⟨i, rfl⟩ := Option.ne_none_iff_exists'.1 hp
      exact .inr (.inr (.inl ⟨rfl, rfl, rfl⟩))
  | cswKilled =>
    cases o <;> first | exact .inl rfl | exact .inr (.inr (.inr ⟨rfl, rfl⟩))
  | freed => exact absurd ho id

/-- In a run that keeps the condition, a thread that has no place in the next stage has
returned. -/
lemma confined_after (ho : d.allow o) {e : Env} (horderly : Orderly w (.run 1 e))
    (hi : w.pool.threads[1]? = some ⟨.disconnect, .act o k⟩) (hready : w.Ready o) {th : UsbThread}
    (hmem : th ∈ w.pool.threads) (hth : Confined d th) : Confined (d.after o x) th := by
  refine ⟨hth.role, hth.within, ?_⟩
  have hkilling : w.killing 1 = o.kills := by simp [World.killing, hi]
  rcases after_cases (x := x) ho with hsame | ⟨rfl, hkill, hafter⟩ | ⟨rfl, hkill, hafter⟩ |
    ⟨rfl, hafter⟩
  · rw [hsame]
    exact hth.alive
  · -- `cbw_urb` has been killed: the work item and `cbw_callback` have returned
    rw [hafter]
    by_cases hwork : th.role = .work
    · exact .inr (horderly.1 (hkilling.trans hkill) th hmem hwork)
    by_cases hcbw : th.role = .callback .cbw
    · exact .inr ((hready .cbw hkill).2 th hmem hcbw)
    · exact .inl ⟨hwork, hcbw⟩
  · -- `csw_urb` has been killed: the other completion functions have returned
    rw [hafter]
    right
    rcases hth.alive with ⟨hwork, hcbw⟩ | hreturned
    · cases hrole : th.role with
      | work => exact absurd hrole hwork
      | disconnect => exact absurd hrole hth.role
      | callback u =>
        cases u with
        | cbw => exact absurd hrole hcbw
        | csw => exact (hready .csw hkill).2 th hmem hrole
        | read | inquiry | write =>
          exact horderly.2 (hkilling.trans hkill) th hmem (by rw [hrole]; rfl)
    · exact hreturned
  · rw [hafter]
    exact .inr (hth.alive.resolve_left id)

end Advance

/-- `usb_disconnect` goes on. -/
lemma step_disconnect (h : Inv w d) {e : Env} (horderly : Orderly w (.run 1 e))
    (hstep : interleaved.next w (.run 1 e) = some w') : ∃ d', Inv w' d' := by
  obtain ⟨r, o, k, x, s, hi, hready, hsem, rfl⟩ := inv_run hstep
  obtain ⟨p, hp, hfollow⟩ := h.disconnect
  obtain ⟨rfl, rfl⟩ : .disconnect = r ∧ p = .act o k := by simpa [hp] using hi
  have hallow : d.allow o := hfollow.1
  obtain ⟨hexpect, hsound⟩ := sound_disconnect hallow h.sound hsem
  have hlt : 1 < w.pool.threads.length := (List.getElem?_eq_some_iff.1 hi).1
  have hs : (sem e o w.drv).state = s := by rw [hsem]; rfl
  refine ⟨d.after o x, ?_⟩
  constructor
  case disconnect =>
    exact ⟨k x, by simp [World.after, hlt], hfollow.2 x hexpect⟩
  case others =>
    refine Pool.each_set (fun j th hj hth hj1 => ?_) fun h => absurd rfl h
    exact confined_after hallow horderly hi hready (List.mem_of_getElem? hth)
      (h.others j th hth hj1)
  case own =>
    have hfills : o.FillsOwn := by
      cases d <;> cases o <;> trivial
    exact hs ▸ own_sem hfills h.own
  case sound => exact hsound
  case gone =>
    intro y hy
    rcases List.mem_append.1 (by simpa [World.after] using hy) with hnew | hold
    · exact gone_disconnect hallow x y hnew
    · exact gone_after (h.gone y hold)
  case killed =>
    intro hd
    simp only [World.after, if_true, List.mem_append]
    rcases after_cases (x := x) hallow with hsame | ⟨-, -, hafter⟩ | ⟨-, hkill, -⟩ | ⟨rfl, -⟩
    · exact .inr (h.killed (hsame ▸ hd))
    · rw [hafter] at hd
      rcases hd with hd | hd <;> cases hd
    · rw [hkill]
      exact .inl (by simp)
    · exact .inr (h.killed (.inl rfl))

lemma inv_init (h : interleaved.Init w) : Inv w .intact := by
  obtain ⟨⟨s, e, altsetting, hrun⟩, hthreads, hgone, -⟩ := h
  have hattached := attached_of_usbProbe hrun
  have hurb (p : Pair) : w.drv.dev.urb p ≠ none := by
    obtain ⟨i, b, hi, -⟩ := hattached.allocated.equipped p
    simp [hi]
  constructor
  case disconnect => exact ⟨_, by simp [hthreads], follows_usbDisconnect⟩
  case others =>
    intro j th hj hj1
    rw [hthreads] at hj
    match j, hj1 with
    | 0, _ =>
      obtain rfl : _ = th := by simpa using hj
      exact ⟨by simp, within_initUsbProtocols, .inl trivial⟩
    | 1, hj1 => exact absurd rfl hj1
    | j + 2, _ => simp at hj
  case own =>
    intro u
    rw [(hattached.fresh u).1]
    exact ⟨by simp [Urb.zero], by simp [Urb.zero]⟩
  case sound => exact ⟨hurb _, hurb _, hattached.intfdata⟩
  case gone => simp [hgone]
  case killed => simp

/-- **Nothing that is gone is used.** In every run that keeps the condition, no thread is
ever about to use what `usb_disconnect` has freed or set to NULL. -/
theorem safe_of_orderly (hw : interleaved.Reach Orderly w) : w.Safe := by
  have hinv : ∃ d, Inv w d := by
    refine System.Reach.invariant (S := interleaved) (I := fun w => ∃ d, Inv w d) ?_ ?_ hw
    · exact fun w h => ⟨.intact, inv_init h⟩
    · rintro w l w' ⟨d, h⟩ horderly hstep
      cases l with
      | complete u st received => exact ⟨d, step_complete h horderly hstep⟩
      | run i e =>
        by_cases hi1 : i = 1
        · subst hi1
          exact step_disconnect h horderly hstep
        · exact ⟨d, step_other h hi1 hstep⟩
  obtain ⟨d, h⟩ := hinv
  exact h.safe

/-! ## Three schedules -/

/-- A new device after the probe of an interface with two bulk endpoints. -/
def State.probed : State := (run (sem {}) (usbProbe (some [⟨0x81, 2⟩, ⟨0x02, 2⟩])) .blank).state

/-- The three activities before any of them has begun. -/
def World.ready : World :=
  ⟨⟨.probed, [⟨.work, initUsbProtocols⟩, ⟨.disconnect, usbDisconnect⟩]⟩, [], []⟩

lemma reach_ready (C : World → Act → Prop) : interleaved.Reach C .ready :=
  .init ⟨⟨.blank, {}, some [⟨0x81, 2⟩, ⟨0x02, 2⟩], rfl⟩, rfl, rfl, rfl⟩

/-- `n` operations of thread `i`. -/
def turns (i n : ℕ) : List Act := List.replicate n (.run i {})

/-- The INQUIRY of the work item, up to the call of its `data_callback`. -/
def inquirySent : List Act :=
  turns 0 16 ++ [.complete .cbw 0 []] ++ turns 2 8 ++ [.complete .inquiry 0 []]

/-- The INQUIRY ends before the device is taken apart. -/
theorem safe_of_orderly_inquiry : ∃ w : World, .dev ∈ w.gone ∧ w.Safe := by
  have hw := System.reach_get
    (inquirySent ++ turns 3 4 ++ [.complete .csw 0 []] ++ turns 4 1 ++ turns 1 62)
    (reach_ready Orderly) (by decide +kernel) (by decide +kernel)
  exact ⟨_, by decide +kernel, safe_of_orderly hw⟩

/-- **What is gone is used.** In the first run `usb_disconnect` has freed the device
before the work item wakes up and reads it.  In the second, `data_callback` goes on after
`usb_disconnect` has freed `csw_urb` and is about to fill it. -/
theorem gone_is_used : (∃ w, interleaved.Reachable w ∧ .dev ∈ w.gone ∧ ¬ w.Safe) ∧
    ∃ w, interleaved.Reachable w ∧ .dev ∉ w.gone ∧ ¬ w.Safe := by
  constructor
  · exact System.exists_reachable (turns 1 62 ++ turns 0 1) (reach_ready _) (by decide +kernel)
  · exact System.exists_reachable (inquirySent ++ turns 1 27 ++ turns 3 1) (reach_ready _)
      (by decide +kernel)

end KernelDriverLab.Usb
