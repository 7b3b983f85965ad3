import Mathlib.Data.List.Basic

/-!
# Programs with effects

A program runs in a state of its environment, answers or raises, and leaves a list of effects.
`Runs s m Q` says that `m` run from `s` ends with an outcome, effects and a state that satisfy `Q`;
the rules follow the way programs are composed.
-/

namespace Effects

/-- A program over states `S` with effects `E` that may raise an `X`. -/
def Prog (S E X α : Type) : Type := S → Except X α × List E × S

variable {S E X α β : Type}

namespace Prog

def pure (a : α) : Prog S E X α := fun s => (.ok a, [], s)

/-- What follows a program; its effects come after. -/
def andThen (f : α → Prog S E X β) : Except X α × List E × S → Except X β × List E × S
  | (.ok a, es, s) =>
    let r := f a s
    (r.1, es ++ r.2.1, r.2.2)
  | (.error x, es, s) => (.error x, es, s)

def bind (m : Prog S E X α) (f : α → Prog S E X β) : Prog S E X β := fun s => andThen f (m s)

instance : Monad (Prog S E X) where
  pure := Prog.pure
  bind := Prog.bind

end Prog

def raise (x : X) : Prog S E X α := fun s => (.error x, [], s)

def lift (r : Except X α) : Prog S E X α := fun s => (r, [], s)

def emit (e : E) : Prog S E X Unit := fun s => (.ok (), [e], s)

/-- Call the environment; its error is turned into one of the program. -/
def call {Y : Type} (op : S → Except Y α × S) (err : Y → X) : Prog S E X α := fun s =>
  ((op s).1.mapError err, [], (op s).2)

/-- `m` from `s` ends in `Q`. -/
def Runs (s : S) (m : Prog S E X α) (Q : Except X α → List E → S → Prop) : Prop :=
  Q (m s).1 (m s).2.1 (m s).2.2

variable {s : S} {Q : Except X α → List E → S → Prop}

theorem Runs.mono {m : Prog S E X α} {P : Except X α → List E → S → Prop} (h : Runs s m P)
    (himp : ∀ r es t, P r es t → Q r es t) : Runs s m Q :=
  himp _ _ _ h

theorem runs_pure {a : α} (h : Q (.ok a) [] s) : Runs s (pure a : Prog S E X α) Q := h

theorem runs_raise {x : X} (h : Q (.error x) [] s) : Runs s (raise x : Prog S E X α) Q := h

section Sequence

variable {f : α → Prog S E X β} {Q : Except X β → List E → S → Prop}

/-- **Sequencing**: what the first program ends in, the second starts from, and an error passes it by. -/
theorem runs_bind {m : Prog S E X α} {P : Except X α → List E → S → Prop} (hm : Runs s m P)
    (hok : ∀ a es t, P (.ok a) es t → Runs t (f a) fun r es' u => Q r (es ++ es') u)
    (herr : ∀ x es t, P (.error x) es t → Q (.error x) es t) : Runs s (m >>= f) Q := by
  show Q (Prog.andThen f (m s)).1 (Prog.andThen f (m s)).2.1 (Prog.andThen f (m s)).2.2
  have hm' : P (m s).1 (m s).2.1 (m s).2.2 := hm
  generalize m s = out at hm' ⊢
  obtain ⟨r, es, t⟩ := out
  cases r with
  | ok a => exact hok a es t hm'
  | error x => exact herr x es t hm'

/-- After an effect. -/
theorem runs_emit {e : E} {f : Unit → Prog S E X β} (h : Runs s (f ()) fun r es u => Q r (e :: es) u) :
    Runs s (emit e >>= f) Q := h

/-- After a call of the environment, whatever it does. -/
theorem runs_call {Y : Type} {op : S → Except Y α × S} {err : Y → X}
    (hok : ∀ a, (op s).1 = .ok a → Runs (op s).2 (f a) Q)
    (herr : ∀ y, (op s).1 = .error y → Q (.error (err y)) [] (op s).2) : Runs s (call op err >>= f) Q := by
  refine runs_bind (P := fun r es t => r = (op s).1.mapError err ∧ es = [] ∧ t = (op s).2) ⟨rfl, rfl, rfl⟩ ?_ ?_
  · rintro a es t ⟨ha, rfl, rfl⟩
    refine hok a ?_
    cases h : (op s).1 with
    | ok b =>
      rw [h] at ha
      have hab : a = b := Except.ok.inj ha
      rw [hab]
    | error y => rw [h] at ha; exact absurd ha (by simp [Except.mapError])
  · rintro x es t ⟨hx, rfl, rfl⟩
    cases h : (op s).1 with
    | ok b => rw [h] at hx; exact absurd hx (by simp [Except.mapError])
    | error y =>
      rw [h] at hx
      rw [Except.error.inj hx]
      exact herr y h

/-- After a computation without effects. -/
theorem runs_lift {r : Except X α} (hok : ∀ a, r = .ok a → Runs s (f a) Q)
    (herr : ∀ x, r = .error x → Q (.error x) [] s) : Runs s (lift r >>= f) Q := by
  cases r with
  | ok a => exact hok a rfl
  | error x => exact herr x rfl

end Sequence

end Effects
