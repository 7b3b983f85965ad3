import Sbegw.Rerun
import Sbegw.Schema.Primitives

/-!
# Edits that settle at once

`Rerun` leaves open whether a second run is accepted.  `Settles` says that it is: run again on what it
has left, the program accepts the object, changes nothing and gives a related answer.  Where it depends
on a context, the second run may have another one, as long as `P` holds of the object.
-/

namespace Sbegw

namespace EditM

variable {β γ : Type}

/-- On an object that satisfies `P` and agrees, outside `U`, with what `m₀` leaves, `m₁` is accepted and
changes nothing; `m₀` writes at most the keys `W`. -/
def Settles (P : Obj → Prop) (U W : List String) (Q : β → β → Prop) (m₀ m₁ : EditM β) : Prop :=
  ∀ a w b a' w', m₀ a w = .ok (b, a', w') →
    (∀ j, j ∉ W → Dict.lookup j a' = Dict.lookup j a) ∧
    ∀ z u, (∀ j, j ∉ U → Dict.lookup j z = Dict.lookup j a') → P z →
      ∃ c u', m₁ z u = .ok (c, z, u') ∧ Q b c

section Rules

variable {P : Obj → Prop} {U W : List String} {Q : γ → γ → Prop}

theorem Settles.mono {W' : List String} {m₀ m₁ : EditM γ} (h : Settles P U W Q m₀ m₁)
    (hW : ∀ j, j ∈ W → j ∈ W') : Settles P U W' Q m₀ m₁ := by
  intro a w b a' w' h₀
  obtain ⟨hframe, hagain⟩ := h a w b a' w' h₀
  exact ⟨fun j hj => hframe j fun hjW => hj (hW j hjW), hagain⟩

/-- **Sequence.** Later steps do not undo a step when they write none of the keys it depends on. -/
theorem Settles.bind {W₁ W₂ : List String} {R : β → β → Prop} {p₀ p₁ : EditM β} {f₀ f₁ : β → EditM γ}
    (hR : ∀ b, ∃ c, R b c) (hp : Settles P (W₂ ++ U) W₁ R p₀ p₁)
    (hf : ∀ b c, R b c → Settles P U W₂ Q (f₀ b) (f₁ c)) :
    Settles P U (W₁ ++ W₂) Q (p₀ >>= f₀) (p₁ >>= f₁) := by
  intro a w b a' w' h
  obtain ⟨x, a₁, w₁, hx, hb⟩ := bind_eq_ok.mp h
  obtain ⟨hframe₁, hagain₁⟩ := hp a w x a₁ w₁ hx
  obtain ⟨y₀, hy₀⟩ := hR x
  obtain ⟨hframe₂, -⟩ := hf x y₀ hy₀ a₁ w₁ b a' w' hb
  refine ⟨fun j hj => ?_, fun z u hz hP => ?_⟩
  · simp only [List.mem_append, not_or] at hj
    rw [hframe₂ j hj.2, hframe₁ j hj.1]
  · have hz₁ : ∀ j, j ∉ W₂ ++ U → Dict.lookup j z = Dict.lookup j a₁ := by
      intro j hj
      simp only [List.mem_append, not_or] at hj
      rw [hz j hj.2, hframe₂ j hj.1]
    obtain ⟨y, u₁, hy, hxy⟩ := hagain₁ z u hz₁ hP
    obtain ⟨c, u', hc, hbc⟩ := (hf x y hxy a₁ w₁ b a' w' hb).2 z u₁ hz hP
    exact ⟨c, u', bind_eq_ok.mpr ⟨y, z, u₁, hy, hc⟩, hbc⟩

/-- A step with the same answer in both runs that writes nothing. -/
theorem Settles.quiet {p₀ p₁ : EditM β} {f₀ f₁ : β → EditM γ} (hp : Settles P (W ++ U) [] Eq p₀ p₁)
    (hf : ∀ b, Settles P U W Q (f₀ b) (f₁ b)) : Settles P U W Q (p₀ >>= f₀) (p₁ >>= f₁) :=
  Settles.bind (fun b => ⟨b, rfl⟩) hp fun b _ h => h ▸ hf b

/-- A step with the same answer in both runs that writes one key. -/
theorem Settles.key {k : String} {p₀ p₁ : EditM β} {f₀ f₁ : β → EditM γ}
    (hp : Settles P (W ++ U) [k] Eq p₀ p₁) (hf : ∀ b, Settles P U W Q (f₀ b) (f₁ b)) :
    Settles P U (k :: W) Q (p₀ >>= f₀) (p₁ >>= f₁) :=
  Settles.bind (fun b => ⟨b, rfl⟩) hp fun b _ h => h ▸ hf b

theorem Settles.done {b c : γ} (h : Q b c) : Settles P U [] Q (pure b) (pure c) := by
  intro a w b' a' w' h₀
  obtain ⟨rfl, rfl, -⟩ := pure_eq_ok.mp h₀
  exact ⟨fun _ _ => rfl, fun z u _ _ => ⟨c, u, rfl, h⟩⟩

/-- The last step of a program. -/
theorem Settles.last {m₀ m₁ : EditM γ} (h : Settles P U W Q (m₀ >>= pure) (m₁ >>= pure)) :
    Settles P U W Q m₀ m₁ := by
  rwa [bind_pure_eq, bind_pure_eq] at h

theorem settles_lift {x : Except Exn β} : Settles P U [] Eq (lift x) (lift x) := by
  intro a w b a' w' h
  obtain ⟨hb, rfl, -⟩ := lift_eq_ok.mp h
  exact ⟨fun _ _ => rfl, fun z u _ _ => ⟨b, u, lift_eq_ok.mpr ⟨hb, rfl, rfl⟩, rfl⟩⟩

/-- The same check in both runs. -/
theorem Settles.check {x : Except Exn β} {f₀ f₁ : β → EditM γ}
    (hf : ∀ b, Settles P U W Q (f₀ b) (f₁ b)) : Settles P U W Q (lift x >>= f₀) (lift x >>= f₁) :=
  Settles.quiet settles_lift hf

theorem settles_raiseIf {c : Bool} {e : Exn} : Settles P U [] Eq (raiseIf c e) (raiseIf c e) := by
  intro a w b a' w' h
  unfold raiseIf at h ⊢
  split at h
  · exact absurd h (by simp [throw])
  · next hc =>
    obtain ⟨rfl, rfl, -⟩ := pure_eq_ok.mp h
    rw [if_neg hc]
    exact ⟨fun _ _ => rfl, fun z u _ _ => ⟨(), u, rfl, rfl⟩⟩

theorem settles_get {k : String} (hk : k ∉ U) : Settles P U [] Eq (get k) (get k) := by
  intro a w b a' w' h
  simp only [get, Except.ok.injEq, Prod.mk.injEq] at h
  obtain ⟨rfl, rfl, -⟩ := h
  refine ⟨fun _ _ => rfl, fun z u hz _ => ⟨_, u, rfl, ?_⟩⟩
  rw [hz k hk]

/-- Read a key that no later step writes. -/
theorem Settles.get {k : String} {f₀ f₁ : Json → EditM γ} (hk : k ∉ W ++ U)
    (hf : ∀ x, Settles P U W Q (f₀ x) (f₁ x)) : Settles P U W Q (get k >>= f₀) (get k >>= f₁) :=
  Settles.quiet (settles_get hk) hf

theorem settles_setdefault {k : String} {v : Json} (hk : k ∉ U) :
    Settles P U [k] Eq (setdefault k v) (setdefault k v) := by
  intro a w b a' w' h
  obtain ⟨rfl, rfl, rfl⟩ := setdefault_eq_ok.mp h
  refine ⟨fun j hj => Dict.lookup_setdefault_of_ne (by simpa using hj) v a, fun z u hz _ => ?_⟩
  have hkz := hz k hk
  rw [Dict.lookup_setdefault_self] at hkz
  refine ⟨_, u, setdefault_eq_ok.mpr ⟨rfl, (Dict.setdefault_eq_self hkz).symm, rfl⟩, ?_⟩
  rw [hkz]
  rfl

theorem settles_field {k : String} {v : Json} {check : Json → Except Exn β} (hk : k ∉ U) :
    Settles P U [k] Eq (Schema.field k v check) (Schema.field k v check) :=
  Settles.key (settles_setdefault (by simpa using hk)) fun _ => settles_lift

/-- Fill in and check a key that no later step writes. -/
theorem Settles.field {k : String} {v : Json} {check : Json → Except Exn β} {f₀ f₁ : β → EditM γ}
    (hk : k ∉ W ++ U) (hf : ∀ b, Settles P U W Q (f₀ b) (f₁ b)) :
    Settles P U (k :: W) Q (Schema.field k v check >>= f₀) (Schema.field k v check >>= f₁) :=
  Settles.key (settles_field hk) hf

theorem settles_ifSet {k : String} {check : Json → Except Exn β} (hk : k ∉ U) :
    Settles P U [] Eq (Schema.ifSet k check) (Schema.ifSet k check) := by
  refine Settles.get (by simpa using hk) fun x => ?_
  split
  · exact settles_lift
  · exact Settles.done rfl

/-- Edit the object at a key that no later step writes. -/
theorem settles_within (W' : List String) {k : String} {d : Obj} {bad : Json → Exn} {R : β → β → Prop}
    {p₀ p₁ : EditM β} (hk : k ∉ U) (hp : Settles (fun _ => True) [] W' R p₀ p₁) :
    Settles P U [k] R (within k d bad p₀) (within k d bad p₁) := by
  intro a w b a' w' h
  obtain ⟨o, o', -, ho, rfl⟩ := within_eq_ok.mp h
  refine ⟨fun j hj => Dict.lookup_set_of_ne (by simpa using hj) _ _, fun z u hz _ => ?_⟩
  have hkz : Dict.lookup k z = some (.obj o') := by rw [hz k hk, Dict.lookup_set_self]
  obtain ⟨c, u', hc, hbc⟩ := (hp o w b o' w' ho).2 o' u (fun _ _ => rfl) trivial
  refine ⟨c, u', within_eq_ok.mpr ⟨o', o', ?_, hc, (Dict.set_eq_self hkz).symm⟩, hbc⟩
  rw [hkz]
  rfl

/-- A conditional step, under the same condition in both runs. -/
theorem settles_when {c : Prop} [Decidable c] {p₀ p₁ : EditM Unit} (hp : c → Settles P U W Eq p₀ p₁) :
    Settles P U W Eq (when c p₀) (when c p₁) := by
  unfold EditM.when
  by_cases hc : c
  · rw [if_pos hc, if_pos hc]
    exact hp hc
  · rw [if_neg hc, if_neg hc]
    exact (Settles.done rfl).mono fun _ h => absurd h List.not_mem_nil

end Rules

/-! ### Steps that write nothing -/

/-- A step that writes nothing and passes in the second run, whatever it looks at. -/
theorem settles_passes {P : Obj → Prop} {U : List String} {p₀ p₁ : EditM Unit} (h₀ : Quiet p₀)
    (h₁ : ∀ z u, ∃ u', p₁ z u = .ok ((), z, u')) : Settles P U [] Eq p₀ p₁ := by
  intro a w b a' w' h
  rw [h₀ a w b a' w' h]
  refine ⟨fun _ _ => rfl, fun z u _ _ => ?_⟩
  obtain ⟨u', hu'⟩ := h₁ z u
  exact ⟨(), u', hu', rfl⟩

theorem settles_warn {P : Obj → Prop} {U : List String} (text text' : String) :
    Settles P U [] Eq (warn text) (warn text') :=
  settles_passes (Quiet.warn text) fun _ u => ⟨u ++ [text'], rfl⟩

theorem passes_when {c : Prop} [Decidable c] {p : EditM Unit} (h : ∀ z u, ∃ u', p z u = .ok ((), z, u'))
    (z : Obj) (u : List String) : ∃ u', when c p z u = .ok ((), z, u') := by
  unfold EditM.when
  by_cases hc : c
  · rw [if_pos hc]
    exact h z u
  · rw [if_neg hc]
    exact ⟨u, rfl⟩

/-- Read a key that a later step writes: the second run may read something else. -/
theorem settles_get_any {P : Obj → Prop} {U : List String} (k : String) :
    Settles P U [] Any (EditM.get k) (EditM.get k) := by
  intro a w b a' w' h
  rw [Quiet.get k a w b a' w' h]
  exact ⟨fun _ _ => rfl, fun z u _ _ => ⟨_, u, rfl, trivial⟩⟩

theorem settles_item {P : Obj → Prop} {U : List String} {k : String} (hk : k ∉ U) :
    Settles P U [] Eq (item k) (item k) := by
  intro a w b a' w' h
  unfold item at h ⊢
  cases hl : Dict.lookup k a with
  | none =>
    rw [hl] at h
    cases h
  | some v =>
    rw [hl] at h
    obtain ⟨rfl, rfl, -⟩ : v = b ∧ a = a' ∧ w = w' := by simpa using h
    refine ⟨fun _ _ => rfl, fun z u hz _ => ⟨v, u, ?_, rfl⟩⟩
    rw [hz k hk, hl]

/-- A program that has read one key of the object. -/
theorem Settles.self {P : Obj → Prop} {U W : List String} {Q : γ → γ → Prop} {k : String} (hk : k ∉ W ++ U)
    {f₀ f₁ : Obj → EditM γ} (hf : ∀ x y, Dict.lookup k x = Dict.lookup k y → Settles P U W Q (f₀ x) (f₁ y)) :
    Settles P U W Q (self >>= f₀) (self >>= f₁) := by
  refine @Settles.bind Obj γ P U Q [] W (fun x y => Dict.lookup k x = Dict.lookup k y) _ _ _ _ (fun b => ⟨b, rfl⟩) ?_ hf
  intro a w b a' w' h
  simp only [EditM.self, Except.ok.injEq, Prod.mk.injEq] at h
  obtain ⟨rfl, rfl, -⟩ := h
  exact ⟨fun _ _ => rfl, fun z u hz _ => ⟨z, u, rfl, (hz k hk).symm⟩⟩

/-! ### Whole programs -/

/-- On what `m₀` has left, if `P` holds of it, `m₁` is accepted and changes nothing. -/
def Again (P : Obj → Prop) (Q : β → β → Prop) (m₀ m₁ : EditM β) : Prop :=
  ∀ a w b a' w', m₀ a w = .ok (b, a', w') → P a' → ∀ u, ∃ c u', m₁ a' u = .ok (c, a', u') ∧ Q b c

/-- No condition on what is left. -/
def Always (_ : Obj) : Prop := True

theorem Settles.again {P : Obj → Prop} {W : List String} {Q : β → β → Prop} {m₀ m₁ : EditM β}
    (h : Settles P [] W Q m₀ m₁) : Again P Q m₀ m₁ :=
  fun a w b a' w' h₀ hP u => (h a w b a' w' h₀).2 a' u (fun _ _ => rfl) hP

/-- Edit the object at a key that no later step writes. -/
theorem settles_within_again {P N : Obj → Prop} {U : List String} {k : String} {d : Obj} {bad bad' : Json → Exn}
    {R : β → β → Prop} {p₀ p₁ : EditM β} (hk : k ∉ U) (hp : Again N R p₀ p₁)
    (hP : ∀ z o, P z → Dict.lookup k z = some (.obj o) → N o) :
    Settles P U [k] R (within k d bad p₀) (within k d bad' p₁) := by
  intro a w b a' w' h
  obtain ⟨o, o', -, ho, rfl⟩ := within_eq_ok.mp h
  refine ⟨fun j hj => Dict.lookup_set_of_ne (by simpa using hj) _ _, fun z u hz hPz => ?_⟩
  have hkz : Dict.lookup k z = some (.obj o') := by rw [hz k hk, Dict.lookup_set_self]
  obtain ⟨c, u', hc, hbc⟩ := hp o w b o' w' ho (hP z o' hPz hkz) u
  refine ⟨c, u', within_eq_ok.mpr ⟨o', o', ?_, hc, (Dict.set_eq_self hkz).symm⟩, hbc⟩
  rw [hkz]
  rfl

/-! ### Objects that are like what is left -/

/-- On an object that is like what `m₀` leaves, `m₁` is accepted and changes nothing; `m₀` writes at most the
keys `W`. -/
def SettlesOn (E : Obj → Obj → Prop) (W : List String) (Q : β → β → Prop) (m₀ m₁ : EditM β) : Prop :=
  ∀ a w b a' w', m₀ a w = .ok (b, a', w') →
    (∀ j, j ∉ W → Dict.lookup j a' = Dict.lookup j a) ∧
    ∀ z u, E a' z → ∃ c u', m₁ z u = .ok (c, z, u') ∧ Q b c

section Like

variable {E : Obj → Obj → Prop} {U W : List String} {Q : γ → γ → Prop}

theorem SettlesOn.of_settles (hE : ∀ a z, E a z → ∀ j, j ∉ U → Dict.lookup j z = Dict.lookup j a)
    {m₀ m₁ : EditM γ} (h : Settles Always U W Q m₀ m₁) : SettlesOn E W Q m₀ m₁ := by
  intro a w b a' w' h₀
  obtain ⟨hframe, hagain⟩ := h a w b a' w' h₀
  exact ⟨hframe, fun z u hz => hagain z u (hE a' z hz) trivial⟩

/-- **Sequence.** The first step settles on what the later ones leave of it. -/
theorem SettlesOn.bind {W₁ W₂ : List String} {R : β → β → Prop} {p₀ p₁ : EditM β} {f₀ f₁ : β → EditM γ}
    (hE : ∀ a z, E a z → ∀ j, j ∉ U → Dict.lookup j z = Dict.lookup j a) (hR : ∀ b, ∃ c, R b c)
    (hp : Settles Always (W₂ ++ U) W₁ R p₀ p₁) (hf : ∀ b c, R b c → SettlesOn E W₂ Q (f₀ b) (f₁ c)) :
    SettlesOn E (W₁ ++ W₂) Q (p₀ >>= f₀) (p₁ >>= f₁) := by
  intro a w b a' w' h
  obtain ⟨x, a₁, w₁, hx, hb⟩ := bind_eq_ok.mp h
  obtain ⟨hframe₁, hagain₁⟩ := hp a w x a₁ w₁ hx
  obtain ⟨y₀, hy₀⟩ := hR x
  obtain ⟨hframe₂, -⟩ := hf x y₀ hy₀ a₁ w₁ b a' w' hb
  refine ⟨fun j hj => ?_, fun z u hz => ?_⟩
  · simp only [List.mem_append, not_or] at hj
    rw [hframe₂ j hj.2, hframe₁ j hj.1]
  · have hz₁ : ∀ j, j ∉ W₂ ++ U → Dict.lookup j z = Dict.lookup j a₁ := by
      intro j hj
      simp only [List.mem_append, not_or] at hj
      rw [hE a' z hz j hj.2, hframe₂ j hj.1]
    obtain ⟨y, u₁, hy, hxy⟩ := hagain₁ z u hz₁ trivial
    obtain ⟨c, u', hc, hbc⟩ := (hf x y hxy a₁ w₁ b a' w' hb).2 z u₁ hz
    exact ⟨c, u', bind_eq_ok.mpr ⟨y, z, u₁, hy, hc⟩, hbc⟩

theorem SettlesOn.quiet (hE : ∀ a z, E a z → ∀ j, j ∉ U → Dict.lookup j z = Dict.lookup j a) {p₀ p₁ : EditM β}
    {f₀ f₁ : β → EditM γ} (hp : Settles Always (W ++ U) [] Eq p₀ p₁) (hf : ∀ b, SettlesOn E W Q (f₀ b) (f₁ b)) :
    SettlesOn E W Q (p₀ >>= f₀) (p₁ >>= f₁) :=
  SettlesOn.bind hE (fun b => ⟨b, rfl⟩) hp fun b _ h => h ▸ hf b

theorem SettlesOn.key (hE : ∀ a z, E a z → ∀ j, j ∉ U → Dict.lookup j z = Dict.lookup j a) {k : String}
    {p₀ p₁ : EditM β} {f₀ f₁ : β → EditM γ} (hp : Settles Always (W ++ U) [k] Eq p₀ p₁)
    (hf : ∀ b, SettlesOn E W Q (f₀ b) (f₁ b)) : SettlesOn E (k :: W) Q (p₀ >>= f₀) (p₁ >>= f₁) :=
  SettlesOn.bind hE (fun b => ⟨b, rfl⟩) hp fun b _ h => h ▸ hf b

/-- Edit the object at the key in which the two objects differ. -/
theorem SettlesOn.within {k : String} {d : Obj} {bad bad' : Json → Exn} {K : Obj → Obj → Prop} {p₀ p₁ : EditM β}
    {f₀ f₁ : β → EditM γ} (hk : k ∉ W)
    (hE : ∀ a z o, E a z → Dict.lookup k a = some (.obj o) → ∃ o', Dict.lookup k z = some (.obj o') ∧ K o o')
    (hp : ∀ a w b o w' o', p₀ a w = .ok (b, o, w') → K o o' → ∀ u, ∃ u', p₁ o' u = .ok (b, o', u'))
    (hf : ∀ b, SettlesOn E W Q (f₀ b) (f₁ b)) :
    SettlesOn E (k :: W) Q (within k d bad p₀ >>= f₀) (within k d bad' p₁ >>= f₁) := by
  intro a w b a' w' h
  obtain ⟨x, a₁, w₁, hx, hb⟩ := bind_eq_ok.mp h
  obtain ⟨o, o', -, ho, rfl⟩ := within_eq_ok.mp hx
  obtain ⟨hframe, hagain⟩ := hf x _ w₁ b a' w' hb
  refine ⟨fun j hj => ?_, fun z u hz => ?_⟩
  · rw [List.mem_cons, not_or] at hj
    rw [hframe j hj.2, Dict.lookup_set_of_ne hj.1]
  · have hka : Dict.lookup k a' = some (.obj o') := by rw [hframe k hk, Dict.lookup_set_self]
    obtain ⟨q, hkz, hK⟩ := hE a' z o' hz hka
    obtain ⟨u₁, hq⟩ := hp o w x o' w₁ q ho hK u
    obtain ⟨c, u', hc, hbc⟩ := hagain z u₁ hz
    refine ⟨c, u', bind_eq_ok.mpr ⟨x, z, u₁, within_eq_ok.mpr ⟨q, q, ?_, hq, (Dict.set_eq_self hkz).symm⟩, hc⟩, hbc⟩
    rw [hkz]
    rfl

end Like

/-! ### Loops -/

variable {σ : Type} {P : Obj → Prop}

/-- The loop over entries: the state runs through it as before. -/
theorem again_eachEntry {bad : String → Exn} (bad' : String → Exn) {f₀ f₁ : σ → String → EditM σ}
    (hf : ∀ s k, Again P Eq (f₀ s k) (f₁ s k)) :
    ∀ (a : Obj) {s t : σ} {w w' : List String} {a' : Obj}, eachEntry bad f₀ s a w = .ok (t, a', w') →
      (∀ k o, (k, Json.obj o) ∈ a' → P o) → ∀ u, ∃ u', eachEntry bad' f₁ s a' u = .ok (t, a', u')
  | [], s, t, w, w', a', h, _, u => by
    simp only [eachEntry, Except.ok.injEq, Prod.mk.injEq] at h
    obtain ⟨rfl, rfl, -⟩ := h
    exact ⟨u, rfl⟩
  | (k, v) :: rest, s, t, w, w', a', h, hP, u => by
    cases v with
    | obj o =>
      obtain ⟨s₁, o', w₁, hs, s₂, rest', w₂, hr, rfl, rfl, rfl⟩ := eachEntry_cons_eq_ok.mp h
      obtain ⟨_, u₁, hone, rfl⟩ := hf s k o w s₁ o' w₁ hs (hP k o' List.mem_cons_self) u
      obtain ⟨u₂, hrest⟩ := again_eachEntry bad' hf rest hr (fun k o h => hP k o (List.mem_cons_of_mem _ h)) u₁
      exact ⟨u₂, eachEntry_cons_eq_ok.mpr ⟨s₁, o', u₁, hone, _, rest', u₂, hrest, rfl, rfl, rfl⟩⟩
    | _ => simp [eachEntry] at h

/-- The loop over entries that are like those it has left. -/
theorem settlesOn_eachEntry {E : Obj → Obj → Prop} {W : List String} {bad : String → Exn}
    (bad' : String → Exn) {f₀ f₁ : σ → String → EditM σ} (hf : ∀ s k, SettlesOn E W Eq (f₀ s k) (f₁ s k)) :
    ∀ (a : Obj) {s t : σ} {w w' : List String} {a' z : Obj}, eachEntry bad f₀ s a w = .ok (t, a', w') →
      List.Forall₂ (fun e e' => e.1 = e'.1 ∧ ∃ o o', e.2 = Json.obj o ∧ e'.2 = Json.obj o' ∧ E o o') a' z →
      ∀ u, ∃ u', eachEntry bad' f₁ s z u = .ok (t, z, u')
  | [], s, t, w, w', a', z, h, hz, u => by
    simp only [eachEntry, Except.ok.injEq, Prod.mk.injEq] at h
    obtain ⟨rfl, rfl, -⟩ := h
    obtain rfl := List.forall₂_nil_left_iff.mp hz
    exact ⟨u, rfl⟩
  | (k, v) :: rest, s, t, w, w', a', z, h, hz, u => by
    cases v with
    | obj o =>
      obtain ⟨s₁, o', w₁, hs, s₂, rest', w₂, hr, rfl, rfl, rfl⟩ := eachEntry_cons_eq_ok.mp h
      obtain ⟨⟨k', v'⟩, z', ⟨hkey, o₁, q, ho₁, hq, hE⟩, hz', rfl⟩ := List.forall₂_cons_left_iff.mp hz
      obtain rfl : k = k' := hkey
      obtain rfl : o' = o₁ := Json.obj.inj ho₁
      obtain rfl : v' = .obj q := hq
      obtain ⟨_, u₁, hone, rfl⟩ := (hf s k o w s₁ o' w₁ hs).2 q u hE
      obtain ⟨u₂, hrest⟩ := settlesOn_eachEntry bad' hf rest hr hz' u₁
      exact ⟨u₂, eachEntry_cons_eq_ok.mpr ⟨s₁, q, u₁, hone, _, z', u₂, hrest, rfl, rfl, rfl⟩⟩
    | _ => simp [eachEntry] at h

theorem again_entriesOf {bad bad' : String → Exn} {f₀ f₁ : σ → String → EditM σ} {s : σ}
    (hf : ∀ s k, Again P Eq (f₀ s k) (f₁ s k)) :
    Again (fun a => ∀ k o, (k, Json.obj o) ∈ a → P o) Eq (entriesOf bad f₀ s) (entriesOf bad' f₁ s) := by
  intro a w t a' w' h hP u
  obtain ⟨u', hagain⟩ := again_eachEntry bad' hf a h hP u
  exact ⟨t, u', hagain, rfl⟩

/-- The loop over elements. -/
theorem again_eachElem {bad : ℕ → Exn} (bad' : ℕ → Exn) {f₀ f₁ : σ → ℕ → EditM σ}
    (hf : ∀ s i, Again P Eq (f₀ s i) (f₁ s i)) :
    ∀ (xs : List Json) {i : ℕ} {s t : σ} {w w' : List String} {xs' : List Json},
      eachElem bad f₀ i s xs w = .ok (t, xs', w') → (∀ o, Json.obj o ∈ xs' → P o) →
      ∀ u, ∃ u', eachElem bad' f₁ i s xs' u = .ok (t, xs', u')
  | [], i, s, t, w, w', xs', h, _, u => by
    simp only [eachElem, Except.ok.injEq, Prod.mk.injEq] at h
    obtain ⟨rfl, rfl, -⟩ := h
    exact ⟨u, rfl⟩
  | v :: xs, i, s, t, w, w', xs', h, hP, u => by
    cases v with
    | obj o =>
      obtain ⟨s₁, o', w₁, hs, s₂, rest', w₂, hr, rfl, rfl, rfl⟩ := eachElem_cons_eq_ok.mp h
      obtain ⟨_, u₁, hone, rfl⟩ := hf s i o w s₁ o' w₁ hs (hP o' List.mem_cons_self) u
      obtain ⟨u₂, hrest⟩ := again_eachElem bad' hf xs hr (fun o h => hP o (List.mem_cons_of_mem _ h)) u₁
      exact ⟨u₂, eachElem_cons_eq_ok.mpr ⟨s₁, o', u₁, hone, _, rest', u₂, hrest, rfl, rfl, rfl⟩⟩
    | _ => simp [eachElem] at h

/-- A value that is no list is iterated as before: it has no elements. -/
theorem elemsOf_of_noList {k : String} {bad bad' : ℕ → Exn} {f₀ f₁ : σ → ℕ → EditM σ} {s t : σ} {a a' z : Obj}
    {w w' u : List String} {v : Json} (h : elemsOf k bad f₀ s a w = .ok (t, a', w'))
    (ha : Dict.lookup k a = some v) (hz : Dict.lookup k z = some v) (hv : ∀ xs, v ≠ .arr xs) :
    elemsOf k bad' f₁ s z u = .ok (t, z, u) := by
  unfold elemsOf at h ⊢
  rw [ha, Option.getD_some] at h
  rw [hz, Option.getD_some]
  cases v with
  | arr xs => exact absurd rfl (hv xs)
  | str text =>
    simp only [pyIter] at h ⊢
    cases hchars : text.toList with
    | nil =>
      simp only [hchars, List.map_nil, Except.ok.injEq, Prod.mk.injEq] at h ⊢
      exact ⟨h.1, trivial⟩
    | cons c cs => simp [hchars] at h
  | obj kvs =>
    simp only [pyIter] at h ⊢
    cases kvs with
    | nil =>
      simp only [List.map_nil, Except.ok.injEq, Prod.mk.injEq] at h ⊢
      exact ⟨h.1, trivial⟩
    | cons e kvs => simp at h
  | _ => simp [pyIter] at h

/-- Edit the elements of the list at a key that no later step writes. -/
theorem settles_elems {N : Obj → Prop} {U : List String} {k : String} (bad bad' : ℕ → Exn)
    {f₀ f₁ : σ → ℕ → EditM σ} {s : σ} (hk : k ∉ U) (hf : ∀ s i, Again N Eq (f₀ s i) (f₁ s i))
    (hP : ∀ z xs o, P z → Dict.lookup k z = some (.arr xs) → Json.obj o ∈ xs → N o) :
    Settles P U [k] Eq (elemsOf k bad f₀ s) (elemsOf k bad' f₁ s) := by
  intro a w t a' w' h
  rcases elemsOf_eq_ok h with ⟨xs, xs', -, hxs, rfl⟩ | ⟨rfl, v, hv, hne⟩
  · refine ⟨fun j hj => Dict.lookup_set_of_ne (by simpa using hj) _ _, fun z u hz hPz => ?_⟩
    have hkz : Dict.lookup k z = some (.arr xs') := by rw [hz k hk, Dict.lookup_set_self]
    obtain ⟨u', hagain⟩ := again_eachElem bad' hf xs hxs (fun o ho => hP z xs' o hPz hkz ho) u
    refine ⟨t, u', ?_, rfl⟩
    unfold elemsOf
    rw [hkz, Option.getD_some]
    simp only [hagain, Dict.set_eq_self hkz]
  · refine ⟨fun _ _ => rfl, fun z u hz _ => ⟨t, u, ?_, rfl⟩⟩
    exact elemsOf_of_noList h hv ((hz k hk).trans hv) hne

/-- A step that fills in the key of a list, and looks at most at whether it is one. -/
def Fills (k : String) (v : Json) (p : EditM β) : Prop :=
  ∀ a w b a' w', p a w = .ok (b, a', w') → a' = Dict.setdefault k v a ∧
    ∀ z u, (Dict.lookup k z = Dict.lookup k a' ∨ ∃ xs, Dict.lookup k z = some (.arr xs)) →
      ∃ c, p z u = .ok (c, z, u)

theorem fills_setdefault (k : String) (v : Json) : Fills k v (setdefault k v) := by
  intro a w b a' w' h
  obtain ⟨-, rfl, -⟩ := setdefault_eq_ok.mp h
  refine ⟨rfl, fun z u hz => ?_⟩
  obtain ⟨x, hx⟩ : ∃ x, Dict.lookup k z = some x := by
    rcases hz with hz | ⟨xs, hz⟩
    · exact ⟨_, hz.trans (Dict.lookup_setdefault_self k v a)⟩
    · exact ⟨_, hz⟩
  exact ⟨_, setdefault_eq_ok.mpr ⟨rfl, (Dict.setdefault_eq_self hx).symm, rfl⟩⟩

theorem fills_field (k path what : String) (v : Json) :
    Fills k v (Schema.field k v (Schema.needArr · path what)) := by
  intro a w b a' w' h
  obtain ⟨x, a₁, w₁, hset, hcheck⟩ := bind_eq_ok.mp h
  obtain ⟨hx, rfl, -⟩ := setdefault_eq_ok.mp hset
  obtain ⟨hneed, rfl, -⟩ := lift_eq_ok.mp hcheck
  refine ⟨rfl, fun z u hz => ?_⟩
  have hfield : ∀ y c, Dict.lookup k z = some y → Schema.needArr y path what = .ok c →
      Schema.field k v (Schema.needArr · path what) z u = .ok (c, z, u) := by
    intro y c hy hc
    refine bind_eq_ok.mpr ⟨y, z, u, setdefault_eq_ok.mpr ⟨?_, (Dict.setdefault_eq_self hy).symm, rfl⟩, ?_⟩
    · rw [hy]
      rfl
    · exact lift_eq_ok.mpr ⟨hc, rfl, rfl⟩
  rcases hz with hz | ⟨xs, hz⟩
  · rw [Dict.lookup_setdefault_self, ← hx] at hz
    exact ⟨b, hfield x b hz hneed⟩
  · exact ⟨xs, hfield _ xs hz rfl⟩

/-- Fill in a list and edit its elements. -/
theorem settles_list {p : EditM β} {N : Obj → Prop} {U : List String} {k : String} {v : Json} {bad bad' : ℕ → Exn}
    {f₀ f₁ : σ → ℕ → EditM σ} {s : σ} (hp : Fills k v p) (hk : k ∉ U) (hf : ∀ s i, Again N Eq (f₀ s i) (f₁ s i))
    (hP : ∀ z xs o, P z → Dict.lookup k z = some (.arr xs) → Json.obj o ∈ xs → N o) :
    Settles P U [k] Eq (p >>= fun _ => elemsOf k bad f₀ s) (p >>= fun _ => elemsOf k bad' f₁ s) := by
  intro a w t a' w' h
  obtain ⟨b, a₁, w₁, hfill, hloop⟩ := bind_eq_ok.mp h
  obtain ⟨hset, hagain⟩ := hp a w b a₁ w₁ hfill
  obtain ⟨hframe, hrun⟩ := settles_elems bad bad' hk hf hP a₁ w₁ t a' w' hloop
  refine ⟨fun j hj => ?_, fun z u hz hPz => ?_⟩
  · rw [hframe j hj, hset, Dict.lookup_setdefault_of_ne (by simpa using hj)]
  · obtain ⟨c, hc⟩ := hagain z u (by
      rw [hz k hk]
      rcases elemsOf_eq_ok hloop with ⟨xs, xs', -, -, rfl⟩ | ⟨rfl, -⟩
      · exact .inr ⟨xs', Dict.lookup_set_self _ _ _⟩
      · exact .inl rfl)
    obtain ⟨t', u', ht, rfl⟩ := hrun z u hz hPz
    exact ⟨t, u', bind_eq_ok.mpr ⟨c, z, u, hc, ht⟩, rfl⟩

theorem bind_assoc_eq {δ : Type} (m : EditM β) (f : β → EditM γ) (g : γ → EditM δ) :
    (m >>= fun b => f b >>= g) = (m >>= f) >>= g := by
  funext a w
  cases h : m a w with
  | error e => rw [bind_of_error h, bind_of_error (bind_of_error h)]
  | ok r =>
    obtain ⟨b, a₁, w₁⟩ := r
    rw [bind_of_ok h]
    simp only [bind, h]

/-- The same with the steps after it. -/
theorem Settles.list {p : EditM β} {N : Obj → Prop} {U W : List String} {Q : γ → γ → Prop} {k : String} {v : Json}
    {bad bad' : ℕ → Exn} {f₀ f₁ : σ → ℕ → EditM σ} {s : σ} {g₀ g₁ : σ → EditM γ} (hp : Fills k v p) (hk : k ∉ W ++ U)
    (hf : ∀ s i, Again N Eq (f₀ s i) (f₁ s i))
    (hP : ∀ z xs o, P z → Dict.lookup k z = some (.arr xs) → Json.obj o ∈ xs → N o)
    (hg : ∀ t, Settles P U W Q (g₀ t) (g₁ t)) :
    Settles P U (k :: W) Q (p >>= fun _ => elemsOf k bad f₀ s >>= g₀) (p >>= fun _ => elemsOf k bad' f₁ s >>= g₁) := by
  rw [bind_assoc_eq, bind_assoc_eq]
  exact Settles.key (settles_list hp hk hf hP) hg

end EditM

end Sbegw
