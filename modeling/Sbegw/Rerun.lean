import Sbegw.Edit

/-!
# Running an edit again

A validator that has returned has put its object into a normal form; run again, perhaps against
another context, it either raises or leaves the object alone.  `Rerun` says this of two programs,
with the keys the first may write and the keys in which the object of the second may differ, so that
it goes through a sequence of steps.
-/

namespace Sbegw

namespace EditM

variable {β γ σ : Type}

/-! ### What running a step means -/

theorem bind_of_error {m : EditM β} {f : β → EditM γ} {a : Obj} {w : List String} {e : Exn}
    (h : m a w = .error e) : (m >>= f) a w = .error e := by
  simp only [bind, h]

theorem bind_of_ok {m : EditM β} {f : β → EditM γ} {a a₁ : Obj} {w w₁ : List String} {b : β}
    (h : m a w = .ok (b, a₁, w₁)) : (m >>= f) a w = f b a₁ w₁ := by
  simp only [bind, h]

theorem bind_eq_ok {m : EditM β} {f : β → EditM γ} {a a' : Obj} {w w' : List String} {c : γ} :
    (m >>= f) a w = .ok (c, a', w') ↔
      ∃ b a₁ w₁, m a w = .ok (b, a₁, w₁) ∧ f b a₁ w₁ = .ok (c, a', w') := by
  cases h : m a w with
  | error e =>
    rw [bind_of_error h]
    simp
  | ok r =>
    obtain ⟨b, a₁, w₁⟩ := r
    rw [bind_of_ok h]
    constructor
    · exact fun hf => ⟨b, a₁, w₁, rfl, hf⟩
    · rintro ⟨b', a₂, w₂, he, hf⟩
      cases he
      exact hf

theorem pure_eq_ok {b c : β} {a a' : Obj} {w w' : List String} :
    (pure b : EditM β) a w = .ok (c, a', w') ↔ b = c ∧ a = a' ∧ w = w' := by
  show Except.ok (b, a, w) = _ ↔ _
  simp

theorem bind_pure_eq (m : EditM β) : m >>= pure = m := by
  funext a w
  cases h : m a w with
  | error e => exact bind_of_error h
  | ok r => exact bind_of_ok h

theorem lift_eq_ok {x : Except Exn β} {a a' : Obj} {w w' : List String} {b : β} :
    lift x a w = .ok (b, a', w') ↔ x = .ok b ∧ a = a' ∧ w = w' := by
  unfold lift
  cases x <;> simp

theorem setdefault_eq_ok {k : String} {v x : Json} {a a' : Obj} {w w' : List String} :
    setdefault k v a w = .ok (x, a', w') ↔
      x = (Dict.lookup k a).getD v ∧ a' = Dict.setdefault k v a ∧ w' = w := by
  unfold setdefault Dict.setdefault
  cases Dict.lookup k a <;> simp <;> grind

theorem within_eq_ok {k : String} {d : Obj} {bad : Json → Exn} {p : EditM β} {a a' : Obj}
    {w w' : List String} {b : β} :
    within k d bad p a w = .ok (b, a', w') ↔
      ∃ o o', (Dict.lookup k a).getD (.obj d) = .obj o ∧ p o w = .ok (b, o', w') ∧
        a' = Dict.set k (.obj o') a := by
  unfold within
  cases (Dict.lookup k a).getD (.obj d) with
  | obj o =>
    cases hp : p o w with
    | error e => simp [hp]
    | ok r =>
      obtain ⟨b', o', w''⟩ := r
      simp only [hp, Except.ok.injEq, Prod.mk.injEq, Json.obj.injEq]
      constructor
      · rintro ⟨rfl, rfl, rfl⟩
        exact ⟨o, o', rfl, hp, rfl⟩
      · rintro ⟨o₁, o₂, rfl, hp', rfl⟩
        rw [hp] at hp'
        simp only [Except.ok.injEq, Prod.mk.injEq] at hp'
        obtain ⟨rfl, rfl, rfl⟩ := hp'
        exact ⟨rfl, rfl, rfl⟩
  | _ => simp

theorem eachEntry_cons_eq_ok {bad : String → Exn} {f : σ → String → EditM σ} {s t : σ} {k : String}
    {o rest a' : Obj} {w w' : List String} :
    eachEntry bad f s ((k, .obj o) :: rest) w = .ok (t, a', w') ↔
      ∃ s₁ o' w₁, f s k o w = .ok (s₁, o', w₁) ∧ ∃ t₂ rest' w₂,
        eachEntry bad f s₁ rest w₁ = .ok (t₂, rest', w₂) ∧ t = t₂ ∧ a' = (k, .obj o') :: rest' ∧
          w' = w₂ := by
  simp only [eachEntry]
  cases hf : f s k o w with
  | error e => simp
  | ok r =>
    obtain ⟨s₁, o', w₁⟩ := r
    cases hr : eachEntry bad f s₁ rest w₁ with
    | error e => simp [hr]
    | ok r' =>
      obtain ⟨t₂, rest', w₂⟩ := r'
      simp [hr]
      grind

theorem eachElem_cons_eq_ok {bad : ℕ → Exn} {f : σ → ℕ → EditM σ} {i : ℕ} {s t : σ} {o : Obj}
    {rest a' : List Json} {w w' : List String} :
    eachElem bad f i s (.obj o :: rest) w = .ok (t, a', w') ↔
      ∃ s₁ o' w₁, f s i o w = .ok (s₁, o', w₁) ∧ ∃ t₂ rest' w₂,
        eachElem bad f (i + 1) s₁ rest w₁ = .ok (t₂, rest', w₂) ∧ t = t₂ ∧ a' = .obj o' :: rest' ∧
          w' = w₂ := by
  simp only [eachElem]
  cases hf : f s i o w with
  | error e => simp
  | ok r =>
    obtain ⟨s₁, o', w₁⟩ := r
    cases hr : eachElem bad f (i + 1) s₁ rest w₁ with
    | error e => simp [hr]
    | ok r' =>
      obtain ⟨t₂, rest', w₂⟩ := r'
      simp [hr]
      grind

/-! ### Programs that write nothing -/

/-- The program leaves the object alone. -/
def Quiet (m : EditM β) : Prop := ∀ a w b a' w', m a w = .ok (b, a', w') → a' = a

theorem Quiet.pure (b : β) : Quiet (pure b : EditM β) := by
  intro a w c a' w' h
  exact (pure_eq_ok.mp h).2.1.symm

theorem Quiet.bind {m : EditM β} {f : β → EditM γ} (hm : Quiet m) (hf : ∀ b, Quiet (f b)) :
    Quiet (m >>= f) := by
  intro a w c a' w' h
  obtain ⟨b, a₁, w₁, h₁, h₂⟩ := bind_eq_ok.mp h
  rw [hf b a₁ w₁ c a' w' h₂, hm a w b a₁ w₁ h₁]

theorem Quiet.lift (x : Except Exn β) : Quiet (lift x) := by
  intro a w b a' w' h
  exact (lift_eq_ok.mp h).2.1.symm

theorem Quiet.warn (text : String) : Quiet (warn text) := by
  intro a w b a' w' h
  simp only [EditM.warn, Except.ok.injEq, Prod.mk.injEq] at h
  exact h.2.1.symm

theorem Quiet.get (k : String) : Quiet (get k) := by
  intro a w b a' w' h
  simp only [EditM.get, Except.ok.injEq, Prod.mk.injEq] at h
  exact h.2.1.symm

theorem Quiet.self : Quiet self := by
  intro a w b a' w' h
  simp only [EditM.self, Except.ok.injEq, Prod.mk.injEq] at h
  exact h.2.1.symm

theorem Quiet.item (k : String) : Quiet (item k) := by
  intro a w b a' w' h
  unfold EditM.item at h
  cases hl : Dict.lookup k a with
  | none => simp [hl] at h
  | some v =>
    simp only [hl, Except.ok.injEq, Prod.mk.injEq] at h
    exact h.2.1.symm

theorem Quiet.throw (e : Exn) : Quiet (throw e : EditM β) := by
  intro a w b a' w' h
  cases h

theorem Quiet.raiseIf (c : Bool) (e : Exn) : Quiet (raiseIf c e) := by
  unfold EditM.raiseIf
  split
  · exact Quiet.throw e
  · exact Quiet.pure ()

theorem Quiet.when {c : Prop} [Decidable c] {p : EditM Unit} (hp : Quiet p) : Quiet (when c p) := by
  unfold EditM.when
  split
  · exact hp
  · exact Quiet.pure ()

/-- A program that only adds warnings. -/
theorem Quiet.warnings (ws : Obj → List String) :
    Quiet (fun a w => .ok ((), a, w ++ ws a) : EditM Unit) := by
  intro a w b a' w' h
  simp only [Except.ok.injEq, Prod.mk.injEq] at h
  exact h.2.1.symm

/-! ### The second run -/

/-- What `m₀` leaves satisfies: run on an object that satisfies `P`, agrees with it outside `U`, `m₁`
changes nothing and its answer is related to the first one by `Q`; `m₀` writes at most the keys
`W`. -/
def Rerun (P : Obj → Prop) (U W : List String) (Q : β → β → Prop) (m₀ m₁ : EditM β) : Prop :=
  ∀ a w b a' w', m₀ a w = .ok (b, a', w') →
    (∀ j, j ∉ W → Dict.lookup j a' = Dict.lookup j a) ∧
    ∀ z u c z' u', (∀ j, j ∉ U → Dict.lookup j z = Dict.lookup j a') → P z →
      m₁ z u = .ok (c, z', u') → z' = z ∧ Q b c

/-- No relation between the answers. -/
def Any : β → β → Prop := fun _ _ => True

/-- The second run on exactly what the first one left. -/
def Fixed (P : Obj → Prop) (Q : β → β → Prop) (m₀ m₁ : EditM β) : Prop :=
  ∀ a w b a' w', m₀ a w = .ok (b, a', w') → P a' →
    ∀ u c z' u', m₁ a' u = .ok (c, z', u') → z' = a' ∧ Q b c

section Rules

variable {P : Obj → Prop} {U W : List String} {Q : γ → γ → Prop}

theorem Rerun.fixed {m₀ m₁ : EditM γ} (h : Rerun P [] W Q m₀ m₁) : Fixed P Q m₀ m₁ :=
  fun a w b a' w' h₀ hP u c z' u' h₁ =>
    (h a w b a' w' h₀).2 a' u c z' u' (fun _ _ => rfl) hP h₁

theorem Rerun.mono {W' : List String} {m₀ m₁ : EditM γ} (h : Rerun P U W Q m₀ m₁)
    (hW : ∀ j, j ∈ W → j ∈ W') : Rerun P U W' Q m₀ m₁ :=
  fun a w b a' w' h₀ =>
    ⟨fun j hj => (h a w b a' w' h₀).1 j fun hjW => hj (hW j hjW), (h a w b a' w' h₀).2⟩

theorem Rerun.any {m₀ m₁ : EditM γ} (h : Rerun P U W Q m₀ m₁) : Rerun P U W Any m₀ m₁ :=
  fun a w b a' w' h₀ => ⟨(h a w b a' w' h₀).1, fun z u c z' u' hz hP h₁ =>
    ⟨((h a w b a' w' h₀).2 z u c z' u' hz hP h₁).1, trivial⟩⟩

/-- **Sequence.** Later steps do not undo a step when they write none of the keys it depends on. -/
theorem Rerun.bind {W₁ W₂ : List String} {R : β → β → Prop} {p₀ p₁ : EditM β} {f₀ f₁ : β → EditM γ}
    (hR : ∀ b, R b b) (hp : Rerun P (W₂ ++ U) W₁ R p₀ p₁)
    (hf : ∀ b c, R b c → Rerun P U W₂ Q (f₀ b) (f₁ c)) :
    Rerun P U (W₁ ++ W₂) Q (p₀ >>= f₀) (p₁ >>= f₁) := by
  intro a w b a' w' h
  obtain ⟨x, a₁, w₁, hx, hb⟩ := bind_eq_ok.mp h
  obtain ⟨hframe₁, hre₁⟩ := hp a w x a₁ w₁ hx
  obtain ⟨hframe₂, -⟩ := hf x x (hR x) a₁ w₁ b a' w' hb
  refine ⟨fun j hj => ?_, fun z u c z' u' hz hP hc => ?_⟩
  · simp only [List.mem_append, not_or] at hj
    rw [hframe₂ j hj.2, hframe₁ j hj.1]
  · obtain ⟨y, z₁, u₁, hy, hc'⟩ := bind_eq_ok.mp hc
    have hz₁ : ∀ j, j ∉ W₂ ++ U → Dict.lookup j z = Dict.lookup j a₁ := by
      intro j hj
      simp only [List.mem_append, not_or] at hj
      rw [hz j hj.2, hframe₂ j hj.1]
    obtain ⟨rfl, hxy⟩ := hre₁ z u y z₁ u₁ hz₁ hP hy
    exact (hf x y hxy a₁ w₁ b a' w' hb).2 z₁ u₁ c z' u' hz hP hc'

theorem Rerun.of_quiet {m₀ m₁ : EditM γ} (h₀ : Quiet m₀) (h₁ : Quiet m₁) :
    Rerun P U [] Any m₀ m₁ := by
  intro a w b a' w' h
  have ha := h₀ a w b a' w' h
  subst ha
  exact ⟨fun _ _ => rfl, fun z u c z' u' _ _ hc => ⟨h₁ z u c z' u' hc, trivial⟩⟩

/-- A step that writes nothing, of whatever answer. -/
theorem Rerun.quiet {p₀ p₁ : EditM β} {f₀ f₁ : β → EditM γ} (h₀ : Quiet p₀) (h₁ : Quiet p₁)
    (hf : ∀ b c, Rerun P U W Q (f₀ b) (f₁ c)) : Rerun P U W Q (p₀ >>= f₀) (p₁ >>= f₁) :=
  Rerun.bind (fun _ => trivial) (Rerun.of_quiet h₀ h₁) fun b c _ => hf b c

/-- The same check in both runs. -/
theorem Rerun.check {x : Except Exn β} {f₀ f₁ : β → EditM γ}
    (hf : ∀ b, Rerun P U W Q (f₀ b) (f₁ b)) : Rerun P U W Q (lift x >>= f₀) (lift x >>= f₁) := by
  refine @Rerun.bind β γ P U Q [] W (fun b c => b = c) _ _ _ _ (fun _ => rfl) ?_ ?_
  · intro a w b a' w' h
    obtain ⟨hb, rfl, -⟩ := lift_eq_ok.mp h
    refine ⟨fun _ _ => rfl, fun z u c z' u' _ _ hc => ?_⟩
    obtain ⟨hx, rfl, -⟩ := lift_eq_ok.mp hc
    exact ⟨rfl, Except.ok.inj (hb.symm.trans hx)⟩
  · rintro b c rfl
    exact hf b

/-- Read a key that no later step writes. -/
theorem Rerun.get {k : String} {f₀ f₁ : Json → EditM γ} (hk : k ∉ W ++ U)
    (hf : ∀ x, Rerun P U W Q (f₀ x) (f₁ x)) : Rerun P U W Q (get k >>= f₀) (get k >>= f₁) := by
  refine @Rerun.bind Json γ P U Q [] W (fun b c => b = c) _ _ _ _ (fun _ => rfl) ?_ ?_
  · intro a w b a' w' h
    simp only [EditM.get, Except.ok.injEq, Prod.mk.injEq] at h
    obtain ⟨rfl, rfl, -⟩ := h
    refine ⟨fun _ _ => rfl, fun z u c z' u' hz _ hc => ?_⟩
    simp only [EditM.get, Except.ok.injEq, Prod.mk.injEq] at hc
    obtain ⟨rfl, rfl, -⟩ := hc
    rw [hz k hk]
    exact ⟨rfl, rfl⟩
  · rintro b c rfl
    exact hf b

theorem setdefault_rerun {k : String} {v : Json} (hk : k ∉ U) :
    Rerun P U [k] (fun b c => b = c) (setdefault k v) (setdefault k v) := by
  intro a w b a' w' h
  obtain ⟨rfl, rfl, rfl⟩ := setdefault_eq_ok.mp h
  refine ⟨fun j hj => Dict.lookup_setdefault_of_ne (by simpa using hj) v a, ?_⟩
  intro z u c z' u' hz _ hc
  obtain ⟨rfl, rfl, rfl⟩ := setdefault_eq_ok.mp hc
  have hkz := hz k hk
  rw [Dict.lookup_setdefault_self] at hkz
  rw [hkz]
  exact ⟨Dict.setdefault_eq_self hkz, rfl⟩

/-- Fill in a key that no later step writes. -/
theorem Rerun.setdefault {k : String} {v : Json} {f₀ f₁ : Json → EditM γ} (hk : k ∉ W ++ U)
    (hf : ∀ x, Rerun P U W Q (f₀ x) (f₁ x)) :
    Rerun P U (k :: W) Q (setdefault k v >>= f₀) (setdefault k v >>= f₁) :=
  @Rerun.bind Json γ P U Q [k] W (fun b c => b = c) _ _ _ _ (fun _ => rfl) (setdefault_rerun hk)
    fun b _ h => h ▸ hf b

/-- Edit the object at a key that no later step writes. -/
theorem Rerun.within {k : String} {d : Obj} {bad bad' : Json → Exn} {P' : Obj → Prop}
    {R : β → β → Prop} {p₀ p₁ : EditM β} {f₀ f₁ : β → EditM γ} (hk : k ∉ W ++ U)
    (hR : ∀ b, R b b) (hp : Fixed P' R p₀ p₁)
    (hP : ∀ z o, P z → Dict.lookup k z = some (.obj o) → P' o)
    (hf : ∀ b c, R b c → Rerun P U W Q (f₀ b) (f₁ c)) :
    Rerun P U (k :: W) Q (within k d bad p₀ >>= f₀) (within k d bad' p₁ >>= f₁) := by
  refine @Rerun.bind β γ P U Q [k] W R _ _ _ _ hR ?_ hf
  intro a w b a' w' h
  obtain ⟨o, o', -, ho, rfl⟩ := within_eq_ok.mp h
  refine ⟨fun j hj => Dict.lookup_set_of_ne (by simpa using hj) _ _, ?_⟩
  intro z u c z' u' hz hPz hc
  obtain ⟨q, q', hq, hq', rfl⟩ := within_eq_ok.mp hc
  have hkz : Dict.lookup k z = some (.obj o') := by rw [hz k hk, Dict.lookup_set_self]
  rw [hkz] at hq
  obtain rfl : o' = q := by simpa using hq
  obtain ⟨rfl, hbc⟩ := hp o w b o' w' ho (hP z o' hPz hkz) u c q' u' hq'
  exact ⟨Dict.set_eq_self hkz, hbc⟩

theorem Rerun.done {b c : γ} (h : Q b c) : Rerun P U [] Q (pure b) (pure c) := by
  intro a w b' a' w' h₀
  obtain ⟨rfl, rfl, -⟩ := pure_eq_ok.mp h₀
  refine ⟨fun _ _ => rfl, fun z u c' z' u' _ _ h₁ => ?_⟩
  obtain ⟨rfl, rfl, -⟩ := pure_eq_ok.mp h₁
  exact ⟨rfl, h⟩

/-- The last step of a program. -/
theorem Rerun.last {m₀ m₁ : EditM γ} (h : Rerun P U W Q (m₀ >>= pure) (m₁ >>= pure)) :
    Rerun P U W Q m₀ m₁ := by
  rwa [bind_pure_eq, bind_pure_eq] at h

/-- A conditional step, under the same condition in both runs. -/
theorem Rerun.when {W₁ : List String} {c : Prop} [Decidable c] {p₀ p₁ : EditM Unit}
    {f₀ f₁ : Unit → EditM γ} (hp : c → Rerun P (W ++ U) W₁ Any p₀ p₁)
    (hf : Rerun P U W Q (f₀ ()) (f₁ ())) :
    Rerun P U (W₁ ++ W) Q (when c p₀ >>= f₀) (when c p₁ >>= f₁) := by
  refine @Rerun.bind Unit γ P U Q W₁ W Any _ _ _ _ (fun _ => trivial) ?_ fun _ _ _ => hf
  by_cases hc : c
  · simp only [EditM.when, if_pos hc]
    exact hp hc
  · simp only [EditM.when, if_neg hc]
    exact (Rerun.done trivial).mono (by simp)

end Rules

/-! ### Loops -/

/-- The entries of an object, each edited by a program that settles it. -/
theorem fixed_eachEntry {P : Obj → Prop} {bad bad' : String → Exn} {f₀ f₁ : σ → String → EditM σ}
    (hf : ∀ s t k, Fixed P Any (f₀ s k) (f₁ t k)) :
    ∀ (a : Obj) {s t s' t' : σ} {w u w' u' : List String} {a' z' : Obj},
      eachEntry bad f₀ s a w = .ok (s', a', w') → (∀ k o, (k, Json.obj o) ∈ a' → P o) →
      eachEntry bad' f₁ t a' u = .ok (t', z', u') → z' = a' := by
  intro a
  induction a with
  | nil =>
    intro s t s' t' w u w' u' a' z' h₀ _ h₁
    simp only [eachEntry, Except.ok.injEq, Prod.mk.injEq] at h₀
    obtain ⟨-, rfl, -⟩ := h₀
    simp only [eachEntry, Except.ok.injEq, Prod.mk.injEq] at h₁
    exact h₁.2.1.symm
  | cons e a ih =>
    intro s t s' t' w u w' u' a' z' h₀ hP h₁
    obtain ⟨k, v⟩ := e
    cases v with
    | obj o =>
      obtain ⟨s₁, o', w₁, hs, s₂, rest', w₂, hr, rfl, rfl, rfl⟩ := eachEntry_cons_eq_ok.mp h₀
      obtain ⟨t₁, q', u₁, ht, t₂, rest'', u₂, hr', rfl, rfl, rfl⟩ := eachEntry_cons_eq_ok.mp h₁
      obtain ⟨rfl, -⟩ := hf s t k o w s₁ o' w₁ hs (hP k o' List.mem_cons_self) u t₁ q' u₁ ht
      rw [ih hr (fun k o h => hP k o (List.mem_cons_of_mem _ h)) hr']
    | _ => simp [eachEntry] at h₀

theorem fixed_entriesOf {P : Obj → Prop} {bad bad' : String → Exn} {f₀ f₁ : σ → String → EditM σ}
    {s t : σ} (hf : ∀ s t k, Fixed P Any (f₀ s k) (f₁ t k)) :
    Fixed (fun a => ∀ k o, (k, Json.obj o) ∈ a → P o) Any (entriesOf bad f₀ s)
      (entriesOf bad' f₁ t) :=
  fun a _ _ _ _ h₀ hP _ _ _ _ h₁ => ⟨fixed_eachEntry hf a h₀ hP h₁, trivial⟩

theorem fixed_eachElem {P : Obj → Prop} {bad bad' : ℕ → Exn} {f₀ f₁ : σ → ℕ → EditM σ}
    (hf : ∀ s t i, Fixed P Any (f₀ s i) (f₁ t i)) :
    ∀ (xs : List Json) {i : ℕ} {s t s' t' : σ} {w u w' u' : List String} {xs' zs' : List Json},
      eachElem bad f₀ i s xs w = .ok (s', xs', w') → (∀ o, Json.obj o ∈ xs' → P o) →
      eachElem bad' f₁ i t xs' u = .ok (t', zs', u') → zs' = xs' := by
  intro xs
  induction xs with
  | nil =>
    intro i s t s' t' w u w' u' xs' zs' h₀ _ h₁
    simp only [eachElem, Except.ok.injEq, Prod.mk.injEq] at h₀
    obtain ⟨-, rfl, -⟩ := h₀
    simp only [eachElem, Except.ok.injEq, Prod.mk.injEq] at h₁
    exact h₁.2.1.symm
  | cons v xs ih =>
    intro i s t s' t' w u w' u' xs' zs' h₀ hP h₁
    cases v with
    | obj o =>
      obtain ⟨s₁, o', w₁, hs, s₂, rest', w₂, hr, rfl, rfl, rfl⟩ := eachElem_cons_eq_ok.mp h₀
      obtain ⟨t₁, q', u₁, ht, t₂, rest'', u₂, hr', rfl, rfl, rfl⟩ := eachElem_cons_eq_ok.mp h₁
      obtain ⟨rfl, -⟩ := hf s t i o w s₁ o' w₁ hs (hP o' List.mem_cons_self) u t₁ q' u₁ ht
      rw [ih hr (fun o h => hP o (List.mem_cons_of_mem _ h)) hr']
    | _ => simp [eachElem] at h₀

theorem elemsOf_eq_ok {k : String} {bad : ℕ → Exn} {f : σ → ℕ → EditM σ} {s t : σ} {a a' : Obj}
    {w w' : List String} (h : elemsOf k bad f s a w = .ok (t, a', w')) :
    (∃ xs xs', (Dict.lookup k a).getD (.arr []) = .arr xs ∧
        eachElem bad f 0 s xs w = .ok (t, xs', w') ∧ a' = Dict.set k (.arr xs') a) ∨
      (a' = a ∧ ∃ v, Dict.lookup k a = some v ∧ ∀ xs, v ≠ .arr xs) := by
  unfold elemsOf at h
  cases hl : (Dict.lookup k a).getD (.arr []) with
  | arr xs =>
    simp only [hl] at h
    cases he : eachElem bad f 0 s xs w with
    | error e => simp [he] at h
    | ok r =>
      obtain ⟨t', xs', w''⟩ := r
      simp only [he, Except.ok.injEq, Prod.mk.injEq] at h
      obtain ⟨rfl, rfl, rfl⟩ := h
      exact .inl ⟨xs, xs', rfl, he, rfl⟩
  | _ =>
    right
    simp only [hl] at h
    refine ⟨?_, ?_⟩
    · split at h <;> simp_all
    · cases hk : Dict.lookup k a with
      | none => simp [hk] at hl
      | some v =>
        rw [hk, Option.getD_some] at hl
        exact ⟨v, rfl, by rw [hl]; simp⟩

/-- Edit the elements of the list at a key that no later step writes. -/
theorem Rerun.elems {P P' : Obj → Prop} {U W : List String} {Q : γ → γ → Prop} {k : String}
    {bad bad' : ℕ → Exn} {g₀ g₁ : σ → ℕ → EditM σ} {s t : σ} {f₀ f₁ : σ → EditM γ} (hk : k ∉ W ++ U)
    (hg : ∀ s t i, Fixed P' Any (g₀ s i) (g₁ t i))
    (hP : ∀ z xs o, P z → Dict.lookup k z = some (.arr xs) → Json.obj o ∈ xs → P' o)
    (hf : ∀ b c, Rerun P U W Q (f₀ b) (f₁ c)) :
    Rerun P U (k :: W) Q (elemsOf k bad g₀ s >>= f₀) (elemsOf k bad' g₁ t >>= f₁) := by
  refine @Rerun.bind σ γ P U Q [k] W Any _ _ _ _ (fun _ => trivial) ?_ fun b c _ => hf b c
  intro a w b a' w' h
  rcases elemsOf_eq_ok h with ⟨xs, xs', -, hxs, rfl⟩ | ⟨rfl, v, hv, hne⟩
  · refine ⟨fun j hj => Dict.lookup_set_of_ne (by simpa using hj) _ _, ?_⟩
    intro z u c z' u' hz hPz hc
    have hkz : Dict.lookup k z = some (.arr xs') := by rw [hz k hk, Dict.lookup_set_self]
    rcases elemsOf_eq_ok hc with ⟨ys, ys', hys, hys', rfl⟩ | ⟨rfl, -⟩
    · rw [hkz] at hys
      obtain rfl : xs' = ys := by simpa using hys
      obtain rfl := fixed_eachElem hg xs hxs (fun o ho => hP z xs' o hPz hkz ho) hys'
      exact ⟨Dict.set_eq_self hkz, trivial⟩
    · exact ⟨rfl, trivial⟩
  · refine ⟨fun _ _ => rfl, ?_⟩
    intro z u c z' u' hz _ hc
    rcases elemsOf_eq_ok hc with ⟨ys, ys', hys, -, -⟩ | ⟨rfl, -⟩
    · rw [hz k hk, hv] at hys
      exact absurd hys (hne ys)
    · exact ⟨rfl, trivial⟩

end EditM

end Sbegw
