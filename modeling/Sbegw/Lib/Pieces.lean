import Sbegw.Lib.Text
import Mathlib.Data.List.Infix

/-!
# Parts of texts

`in` as the infix relation on characters, and what splitting at a separator does to a text that was put
together with it.
-/

namespace Text

/-! ### Infixes -/

theorem stripPrefix?_eq_some_iff {p s r : List Char} : stripPrefix? p s = some r ↔ s = p ++ r := by
  constructor
  · intro h
    induction p generalizing s with
    | nil => exact Option.some.inj h
    | cons c p ih =>
      cases s with
      | nil => cases h
      | cons d s =>
        rw [stripPrefix?] at h
        split at h
        · rename_i hcd
          rw [ih h, hcd, List.cons_append]
        · cases h
  · rintro rfl
    exact stripPrefix?_append p r

theorem isSome_cutChars_iff (p : List Char) : ∀ s : List Char, (cutChars p s).isSome = true ↔ p <:+: s
  | [] => by
    rw [cutChars, List.infix_nil, ← List.isEmpty_iff]
    cases p.isEmpty <;> simp
  | c :: s => by
    have ih := isSome_cutChars_iff p s
    rw [cutChars, List.infix_cons_iff]
    cases h : stripPrefix? p (c :: s) with
    | some r => exact ⟨fun _ => .inl ⟨r, (stripPrefix?_eq_some_iff.mp h).symm⟩, fun _ => rfl⟩
    | none =>
      have hnot : ¬ p <+: c :: s := by
        rintro ⟨r, hr⟩
        rw [stripPrefix?_eq_some_iff.mpr hr.symm] at h
        cases h
      show ((cutChars p s).map _).isSome = true ↔ _
      rw [Option.isSome_map, ih]
      exact ⟨.inr, fun h => h.resolve_left hnot⟩

/-- `p in s`. -/
theorem isInfixOf_iff {p s : String} : isInfixOf p s = true ↔ p.toList <:+: s.toList :=
  isSome_cutChars_iff _ _

/-- What does not have the separator lies on one side of it. -/
theorem infix_append_cons {p xs ys : List Char} {c : Char} (hc : c ∉ p) :
    p <:+: xs ++ c :: ys ↔ p <:+: xs ∨ p <:+: ys := by
  constructor
  · rintro ⟨pre, post, h⟩
    rcases List.append_eq_append_iff.mp h with ⟨as, rfl, -⟩ | ⟨bs, hpre, hpost⟩
    · exact .inl ⟨pre, as, rfl⟩
    · cases bs with
      | nil => exact .inl ⟨pre, [], by rw [List.append_nil, hpre, List.append_nil]⟩
      | cons b bs =>
        obtain ⟨rfl, rfl⟩ := List.cons.inj hpost
        rcases List.append_eq_append_iff.mp hpre with ⟨as, rfl, hp⟩ | ⟨as, rfl, hp⟩
        · exact absurd (hp ▸ List.mem_append_right as List.mem_cons_self) hc
        · cases as with
          | nil =>
            rw [List.nil_append] at hp
            exact absurd (hp ▸ List.mem_cons_self) hc
          | cons a as =>
            obtain ⟨-, rfl⟩ := List.cons.inj hp
            exact .inr ⟨as, post, rfl⟩
  · rintro (h | h)
    · exact h.trans (List.prefix_append xs (c :: ys)).isInfix
    · exact (h.trans (List.suffix_cons c ys).isInfix).trans (List.suffix_append xs (c :: ys)).isInfix

/-! ### Pieces -/

theorem splitChars_of_notMem {c : Char} : ∀ {s : List Char}, c ∉ s → splitChars c s = [s]
  | [], _ => rfl
  | d :: s, h => by
    rw [List.mem_cons, not_or] at h
    rw [splitChars, splitChars_of_notMem h.2]
    exact if_neg fun hd => h.1 hd.symm

theorem splitChars_append (c : Char) (ys : List Char) :
    ∀ xs : List Char, splitChars c (xs ++ c :: ys) = splitChars c xs ++ splitChars c ys
  | [] => by
    rw [List.nil_append, splitChars, splitChars]
    cases h : splitChars c ys with
    | nil => exact absurd h (splitChars_ne_nil c ys)
    | cons q qs => exact if_pos rfl
  | d :: xs => by
    have ih := splitChars_append c ys xs
    rw [List.cons_append, splitChars, splitChars, ih]
    cases h : splitChars c xs with
    | nil => exact absurd h (splitChars_ne_nil c xs)
    | cons q qs =>
      rw [List.cons_append]
      show (if d = c then _ else _) = (if d = c then _ else _) ++ _
      split <;> rfl

/-- A piece is a part of the text. -/
theorem infix_of_mem_splitChars {c : Char} {q : List Char} (s : List Char) (h : q ∈ splitChars c s) : q <:+: s := by
  by_cases hc : c ∈ s
  · obtain ⟨xs, ys, rfl⟩ := List.append_of_mem hc
    have hlength : (xs ++ c :: ys).length = xs.length + (ys.length + 1) := List.length_append
    rw [splitChars_append, List.mem_append] at h
    rcases h with h | h
    · exact (infix_of_mem_splitChars xs h).trans (List.prefix_append xs (c :: ys)).isInfix
    · exact ((infix_of_mem_splitChars ys h).trans (List.suffix_cons c ys).isInfix).trans
        (List.suffix_append xs (c :: ys)).isInfix
  · rw [splitChars_of_notMem hc, List.mem_singleton] at h
    rw [h]
termination_by s.length

/-- Splitting at the separator that was put between two texts. -/
theorem split_append {c : Char} {sep : String} (hsep : sep.toList = [c]) (s t : String) :
    split c (s ++ sep ++ t) = split c s ++ split c t := by
  rw [split, String.toList_append, String.toList_append, hsep, List.append_assoc, List.singleton_append,
    splitChars_append, List.map_append]
  rfl

theorem split_of_notMem {c : Char} {s : String} (h : c ∉ s.toList) : split c s = [s] := by
  rw [split, splitChars_of_notMem h, List.map_singleton, String.ofList_toList]

end Text
