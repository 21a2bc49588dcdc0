import KernelDriverLab.Lib.Prog

/-!
# What a program has in its custody

A program acquires things, which can be refused, and gives them back.  Everything is
acquired at most once, and the variable for it refers to something from then on, also when
the thing has been given back.  A release of something that is not held is booked as wrong.
A call that follows a pointer to something that is not held goes no further.

Whatever is refused, a program has finitely many ends, and `ends` lists them: a property of
every execution of a closed program is decided by going through that list (`of_ends`).
-/

namespace KernelDriverLab.Lib

/-- What is held, and what went wrong. -/
structure Custody (κ : Type) where
  /-- The latest first. -/
  held : List κ
  /-- The variables that refer to something. -/
  refs : List κ
  wrong : List κ
  /-- What was refused last. -/
  refused : Option κ
deriving DecidableEq

namespace Custody

/-- How the things behave. -/
structure Rules (κ : Type) where
  /-- The acquisition is refused unless these are held. -/
  needs : κ → List κ
  /-- The acquisition is not refused for any other reason. -/
  sure : κ → Bool
  /-- The release does nothing when the variable refers to nothing. -/
  lenient : κ → Bool
  /-- It goes when this is given back. -/
  inside : κ → Option κ
  /-- A release or a use follows the pointers to these. -/
  follows : κ → List κ

/-- Something is acquired or given back. -/
inductive Op (κ : Type) where
  | acquire (r : κ)
  /-- A call that can fail, and which acquires nothing. -/
  | ask (r : κ)
  | release (r : κ)
  /-- A call with something that must be held. -/
  | use (r : κ)
deriving DecidableEq

/-- What an operation answers. -/
@[reducible] def Op.Ans {κ : Type} : Op κ → Type
  | acquire _ | ask _ => Bool
  | release _ | use _ => Unit

variable {κ α : Type} [DecidableEq κ] {R : Rules κ} {c c' : Custody κ}

/-- Nothing has been acquired yet. -/
def start : Custody κ := ⟨[], [], [], none⟩

/-- It is there from now on. -/
def grant (c : Custody κ) (r : κ) : Custody κ :=
  { c with held := r :: c.held, refs := r :: c.refs }

/-- It could not be acquired. -/
def refuse (c : Custody κ) (r : κ) : Custody κ := { c with refused := some r }

/-- It is given back. -/
def giveBack (R : Rules κ) (c : Custody κ) (r : κ) : Custody κ :=
  if r ∈ c.held then
    { c with held := (c.held.erase r).filter fun r' => R.inside r' ≠ some r }
  else if R.lenient r ∧ r ∉ c.refs then c
  else { c with wrong := r :: c.wrong }

/-- What the acquisition needs is held. -/
def Ready (R : Rules κ) (c : Custody κ) (r : κ) : Prop := ∀ r' ∈ R.needs r, r' ∈ c.held

instance (r : κ) : Decidable (c.Ready R r) := inferInstanceAs (Decidable (∀ r' ∈ _, _))

/-- What a release or a use of it follows the pointers to is held. -/
def Firm (R : Rules κ) (c : Custody κ) (r : κ) : Prop := ∀ r' ∈ R.follows r, r' ∈ c.held

instance (r : κ) : Decidable (c.Firm R r) := inferInstanceAs (Decidable (∀ r' ∈ _, _))

/-- Everything has been given back, and nothing went wrong. -/
def Clean (c : Custody κ) : Prop := c.held = [] ∧ c.wrong = []

instance : Decidable c.Clean := inferInstanceAs (Decidable (_ ∧ _))

/-- What each operation does when it is granted these things. -/
def sem (R : Rules κ) (grants : κ → Bool) : Prog.Sem (Op κ) Op.Ans (Custody κ)
  | .acquire r, c =>
      if c.Ready R r ∧ (R.sure r ∨ grants r) then .done true (c.grant r)
      else .done false (c.refuse r)
  | .ask r, c => if grants r then .done true c else .done false (c.refuse r)
  | .release r, c => if c.Firm R r then .done () (c.giveBack R r) else .oops c
  | .use r, c => if c.Firm R r then .done () c else .oops c

/-- What an operation can come to, whatever is refused. -/
def answers (R : Rules κ) : (o : Op κ) → Custody κ → List (Outcome (Custody κ) o.Ans)
  | .acquire r, c =>
      if c.Ready R r then
        .done true (c.grant r) :: if R.sure r then [] else [.done false (c.refuse r)]
      else [.done false (c.refuse r)]
  | .ask r, c => [.done true c, .done false (c.refuse r)]
  | .release r, c => [if c.Firm R r then .done () (c.giveBack R r) else .oops c]
  | .use r, c => [if c.Firm R r then .done () c else .oops c]

/-- **How a program can end**, whatever is refused. -/
def ends (R : Rules κ) : Prog (Op κ) Op.Ans α → Custody κ → List (Outcome (Custody κ) α)
  | .ret a, c => [.done a c]
  | .act o k, c => (answers R o c).flatMap fun
    | .done x c' => ends R (k x) c'
    | .oops c' => [.oops c']

lemma sem_mem_answers (grants : κ → Bool) (o : Op κ) (c : Custody κ) :
    sem R grants o c ∈ answers R o c := by
  cases o with
  | acquire r =>
    by_cases hready : c.Ready R r
    · by_cases hsure : R.sure r = true
      · simp [sem, answers, hready, hsure]
      · by_cases hgrant : grants r = true <;> simp [sem, answers, hready, hsure, hgrant]
    · simp [sem, answers, hready]
  | ask r => by_cases hgrant : grants r = true <;> simp [sem, answers, hgrant]
  | release r => exact List.mem_singleton_self _
  | use r => exact List.mem_singleton_self _

/-- Every execution comes to one of the ends. -/
theorem run_mem_ends (grants : κ → Bool) (p : Prog (Op κ) Op.Ans α) (c : Custody κ) :
    p.run (sem R grants) c ∈ ends R p c := by
  induction p generalizing c with
  | ret a => exact List.mem_singleton_self _
  | act o k ih =>
    rw [ends]
    refine List.mem_flatMap.2 ⟨_, sem_mem_answers grants o c, ?_⟩
    cases hsem : sem R grants o c with
    | done x c' =>
      rw [Prog.run_act_done hsem]
      exact ih x c'
    | oops c' =>
      rw [Prog.run_act_oops hsem]
      exact List.mem_singleton_self _

/-- **The rule of the ends.** What holds of each end holds after every execution. -/
theorem of_ends {P : Outcome (Custody κ) α → Prop} {p : Prog (Op κ) Op.Ans α}
    (hP : ∀ x ∈ ends R p c, P x) (grants : κ → Bool) : P (p.run (sem R grants) c) :=
  hP _ (run_mem_ends grants p c)

end Custody

end KernelDriverLab.Lib
