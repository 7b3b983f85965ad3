import Mathlib.Data.List.Basic

/-!
# Runs of a machine

A machine is a partial transition function `step : S → A → Option (O × S)`: in state `s` the action
`a` is either not enabled, or answers `o` and moves on.  `Run step s l t` says that `l`, a list of
steps with their state before, action, answer and state after, leads from `s` to `t`.
-/

namespace Machine

variable {S A O : Type}

/-- One step of a run. -/
structure Step (S A O : Type) where
  pre : S
  act : A
  out : O
  post : S

/-- `l` is a run of the machine from `s` to `t`. -/
inductive Run (step : S → A → Option (O × S)) : S → List (Step S A O) → S → Prop
  | nil (s : S) : Run step s [] s
  | cons {s t u : S} {a : A} {o : O} {l : List (Step S A O)} (hs : step s a = some (o, t))
      (h : Run step t l u) : Run step s (⟨s, a, o, t⟩ :: l) u

/-- `t` is reachable from `s`. -/
def Reachable (step : S → A → Option (O × S)) (s t : S) : Prop := ∃ l, Run step s l t

/-- Play a list of actions. -/
def play (step : S → A → Option (O × S)) : S → List A → Option (List (Step S A O) × S)
  | s, [] => some ([], s)
  | s, a :: as => (step s a).bind fun r =>
      (play step r.2 as).map fun q => (⟨s, a, r.1, r.2⟩ :: q.1, q.2)

variable {step : S → A → Option (O × S)}

theorem Run.append {s t u : S} {l l' : List (Step S A O)} (h : Run step s l t)
    (h' : Run step t l' u) : Run step s (l ++ l') u := by
  induction h with
  | nil => exact h'
  | cons hs _ ih => exact Run.cons hs (ih h')

theorem Run.of_play : ∀ (as : List A) {s t : S} {l : List (Step S A O)},
    play step s as = some (l, t) → Run step s l t
  | [], s, t, l, h => by
    simp only [play, Option.some.injEq, Prod.mk.injEq] at h
    obtain ⟨rfl, rfl⟩ := h
    exact Run.nil s
  | a :: as, s, t, l, h => by
    simp only [play, Option.bind_eq_some_iff, Option.map_eq_some_iff, Prod.mk.injEq] at h
    obtain ⟨⟨o, u⟩, hs, ⟨l', t'⟩, hp, rfl, rfl⟩ := h
    exact Run.cons hs (Run.of_play as hp)

/-- The steps of a play are its actions. -/
theorem acts_of_play : ∀ (as : List A) {s t : S} {l : List (Step S A O)},
    play step s as = some (l, t) → l.map Step.act = as
  | [], s, t, l, h => by
    simp only [play, Option.some.injEq, Prod.mk.injEq] at h
    rw [← h.1]
    rfl
  | a :: as, s, t, l, h => by
    simp only [play, Option.bind_eq_some_iff, Option.map_eq_some_iff, Prod.mk.injEq] at h
    obtain ⟨⟨o, u⟩, -, ⟨l', t'⟩, hp, rfl, rfl⟩ := h
    rw [List.map_cons, acts_of_play as hp]

/-- A play that a test finds fine, as a run. -/
theorem Run.of_test {s : S} {as : List A} (test : List (Step S A O) → S → Bool)
    (h : ((play step s as).any fun r => test r.1 r.2) = true) :
    ∃ l t, Run step s l t ∧ l.map Step.act = as ∧ test l t = true := by
  obtain ⟨⟨l, t⟩, hp, ht⟩ := (Option.any_eq_true _ _).mp h
  exact ⟨l, t, Run.of_play as hp, acts_of_play as hp, ht⟩

/-- A run that goes through the step `x` splits there. -/
theorem Run.step_at {u : S} {x : Step S A O} {l' : List (Step S A O)} :
    ∀ (l : List (Step S A O)) {s : S}, Run step s (l ++ x :: l') u →
      Run step s l x.pre ∧ step x.pre x.act = some (x.out, x.post) ∧ Run step x.post l' u
  | [], _, h => by
    cases h with
    | cons hs h => exact ⟨Run.nil _, hs, h⟩
  | y :: l, _, h => by
    cases h with
    | cons hs h =>
      obtain ⟨h1, h2, h3⟩ := Run.step_at l h
      exact ⟨Run.cons hs h1, h2, h3⟩

/-- Every step of a run has a part of the run before it and a part after it. -/
theorem Run.of_mem {s u : S} {x : Step S A O} {l : List (Step S A O)} (h : Run step s l u)
    (hx : x ∈ l) : ∃ l₁ l₂, l = l₁ ++ x :: l₂ ∧ Run step s l₁ x.pre ∧
      step x.pre x.act = some (x.out, x.post) ∧ Run step x.post l₂ u := by
  obtain ⟨l₁, l₂, rfl⟩ := List.append_of_mem hx
  exact ⟨l₁, l₂, rfl, Run.step_at l₁ h⟩

/-- **Invariants**: what holds at the start and is kept by every step holds at the end of a run. -/
theorem Run.invariant {s t : S} {l : List (Step S A O)} (h : Run step s l t) (I : S → Prop)
    (hstep : ∀ u a o v, I u → step u a = some (o, v) → I v) (h0 : I s) : I t := by
  induction h with
  | nil => exact h0
  | cons hs _ ih => exact ih (hstep _ _ _ _ h0 hs)

/-- Invariants that relate the state to the steps so far: `I k u` is kept by every step that
satisfies `P k`, so it holds after a run each of whose steps satisfies `P` where it is taken. -/
theorem Run.history {s t : S} {l : List (Step S A O)} (h : Run step s l t)
    (I : List (Step S A O) → S → Prop) (P : List (Step S A O) → Step S A O → Prop)
    (hstep : ∀ k u a o v, I k u → step u a = some (o, v) → P k ⟨u, a, o, v⟩ →
      I (k ++ [⟨u, a, o, v⟩]) v) :
    ∀ k, I k s → (∀ l₁ x l₂, l = l₁ ++ x :: l₂ → P (k ++ l₁) x) → I (k ++ l) t := by
  induction h with
  | nil => intro k h0 _; simpa using h0
  | cons hs _ ih =>
    intro k h0 hP
    have h1 := hstep k _ _ _ _ h0 hs (by simpa using hP [] _ _ rfl)
    have h2 := ih _ h1 fun l₁ x l₂ hl => by simpa using hP (_ :: l₁) x l₂ (by rw [hl]; rfl)
    simpa using h2

/-- Invariants over the steps so far that every step keeps. -/
theorem Run.record {s t : S} {l : List (Step S A O)} (h : Run step s l t)
    (I : List (Step S A O) → S → Prop)
    (hstep : ∀ k u a o v, I k u → step u a = some (o, v) → I (k ++ [⟨u, a, o, v⟩]) v)
    (h0 : I [] s) : I l t :=
  h.history I (fun _ _ => True) (fun k u a o v hI hs _ => hstep k u a o v hI hs) [] h0
    fun _ _ _ _ => trivial

end Machine
