import Sbegw.Json.Paths

/-!
# Equal values

What `a == b` says of two values: they are true together, and if they are objects, their entries are equal
key by key.
-/

namespace Sbegw.Json

/-! ### Values -/

theorem num?_of_pyEq {a b : Json} {q : ℚ} (h : pyEq a b = true) (ha : a.num? = some q) : b.num? = some q := by
  cases a with
  | bool x =>
    rw [pyEq, beq_iff_eq] at h
    rw [h, ← ha]
    rfl
  | int i =>
    rw [pyEq, beq_iff_eq] at h
    rw [h, ← ha]
    rfl
  | float r =>
    rw [pyEq, beq_iff_eq] at h
    rw [h, ← ha]
    rfl
  | _ => cases ha

theorem truthy_of_num? {a : Json} {q : ℚ} (h : a.num? = some q) : a.truthy = decide (q ≠ 0) := by
  cases a with
  | bool x =>
    obtain rfl := Option.some.inj h
    cases x <;> rfl
  | int i =>
    obtain rfl := Option.some.inj h
    by_cases hi : i = 0 <;> simp [truthy, hi]
  | float r =>
    obtain rfl := Option.some.inj h
    by_cases hr : r = 0 <;> simp [truthy, hr]
  | _ => cases h

theorem null_of_pyEq {a b : Json} (h : pyEq a b = true) : a = .null ↔ b = .null := by
  cases a <;> cases b <;> simp_all [pyEq, num?]

theorem str_of_pyEq {a b : Json} {s : String} (h : pyEq a b = true) : a = .str s ↔ b = .str s := by
  cases a <;> cases b <;> simp_all [pyEq, num?]

theorem int_of_pyEq {i j : ℤ} (h : pyEq (.int i) (.int j) = true) : i = j := by
  rw [pyEq, beq_iff_eq] at h
  have hcast : (j : ℚ) = i := Option.some.inj h
  exact_mod_cast hcast.symm

/-- The entries of equal values are equal key by key; what is no object has none. -/
theorem entries_of_pyEq {a b : Json} (h : pyEq a b = true) (k : String) :
    Option.Rel (fun x y => pyEq x y = true) (Dict.lookup k a.entries) (Dict.lookup k b.entries) := by
  cases a with
  | obj kvs =>
    cases b with
    | obj kvs' => exact pyEq_obj_iff.mp h k
    | _ => simp [pyEq] at h
  | _ =>
    cases b with
    | obj kvs' => simp [pyEq, num?] at h
    | _ => exact .none

theorem getD_of_pyEq {a b : Json} (h : pyEq a b = true) (k : String) {d : Json} (hd : pyEq d d = true) :
    pyEq (a.getD k d) (b.getD k d) = true := by
  have hk := entries_of_pyEq h k
  unfold getD get?
  cases hx : Dict.lookup k a.entries with
  | none =>
    rw [hx] at hk
    cases hy : Dict.lookup k b.entries with
    | none => exact hd
    | some y =>
      rw [hy] at hk
      cases hk
  | some x =>
    rw [hx] at hk
    cases hy : Dict.lookup k b.entries with
    | none =>
      rw [hy] at hk
      cases hk
    | some y =>
      rw [hy] at hk
      cases hk with
      | some hxy => exact hxy

theorem truthy_of_pyEq {a b : Json} (h : pyEq a b = true) : a.truthy = b.truthy := by
  cases hnum : a.num? with
  | some q => rw [truthy_of_num? hnum, truthy_of_num? (num?_of_pyEq h hnum)]
  | none =>
    cases a with
    | null => rw [(null_of_pyEq h).mp rfl]
    | str s => rw [(str_of_pyEq h).mp rfl]
    | arr xs =>
      cases b with
      | arr ys =>
        have hempty : xs.isEmpty = ys.isEmpty := by
          rw [pyEq, pyEqArr_iff] at h
          cases h with
          | nil => rfl
          | cons _ _ => rfl
        rw [truthy, truthy, hempty]
      | _ => simp [pyEq] at h
    | obj kvs =>
      cases b with
      | obj kvs' =>
        rw [pyEq_obj_iff] at h
        cases kvs with
        | nil =>
          cases kvs' with
          | nil => rfl
          | cons e rest =>
            have he := h e.1
            rw [Dict.lookup_cons, if_pos rfl] at he
            cases he
        | cons e rest =>
          cases kvs' with
          | nil =>
            have he := h e.1
            rw [Dict.lookup_cons, if_pos rfl] at he
            cases he
          | cons _ _ => rfl
      | _ => simp [pyEq] at h
    | _ => cases hnum

/-! ### Dictionaries -/

/-- Each entry of either has its equal in the other. -/
structure Alike (d d' : Obj) : Prop where
  left : ∀ e ∈ d, ∃ e' ∈ d', e'.1 = e.1 ∧ pyEq e.2 e'.2 = true
  right : ∀ e' ∈ d', ∃ e ∈ d, e.1 = e'.1 ∧ pyEq e.2 e'.2 = true

theorem alike_of_pyEq {a b : Json} (h : pyEq a b = true) (ha : (Dict.keys a.entries).Nodup)
    (hb : (Dict.keys b.entries).Nodup) : Alike a.entries b.entries := by
  constructor
  · intro e he
    have hk := entries_of_pyEq h e.1
    rw [Dict.lookup_of_mem ha he] at hk
    cases hy : Dict.lookup e.1 b.entries with
    | none => rw [hy] at hk; cases hk
    | some y =>
      rw [hy] at hk
      cases hk with
      | some hxy => exact ⟨(e.1, y), Dict.mem_of_lookup hy, rfl, hxy⟩
  · intro e he
    have hk := entries_of_pyEq h e.1
    rw [Dict.lookup_of_mem hb he] at hk
    cases hx : Dict.lookup e.1 a.entries with
    | none => rw [hx] at hk; cases hk
    | some x =>
      rw [hx] at hk
      cases hk with
      | some hxy => exact ⟨(e.1, x), Dict.mem_of_lookup hx, rfl, hxy⟩

/-- What does not tell equal entries apart is true of some entry of the one when it is of the other. -/
theorem Alike.exists_iff {d d' : Obj} (h : Alike d d') {P Q : String × Json → Prop}
    (hP : ∀ e ∈ d, ∀ e' ∈ d', e.1 = e'.1 → pyEq e.2 e'.2 = true → (P e ↔ Q e')) :
    (∃ e ∈ d, P e) ↔ ∃ e ∈ d', Q e := by
  constructor
  · rintro ⟨e, he, hp⟩
    obtain ⟨e', he', hk, hv⟩ := h.left e he
    exact ⟨e', he', (hP e he e' he' hk.symm hv).mp hp⟩
  · rintro ⟨e', he', hp⟩
    obtain ⟨e, he, hk, hv⟩ := h.right e' he'
    exact ⟨e, he, (hP e he e' he' hk hv).mpr hp⟩

end Sbegw.Json
