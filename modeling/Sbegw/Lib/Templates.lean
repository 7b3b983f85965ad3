import Sbegw.Lib.Settings

/-!
# Path templates

A template is a path whose segments are texts or groups; a group stands for one segment that is not empty.
Filled in, a template is a path, and read back it gives the values it was filled with.  Two templates are
apart when no path has the form of both, and in a list of templates that are pairwise apart the order does
not matter: a path has the form of one at most.
-/

namespace Text

/-- Splitting what was joined. -/
theorem split_join {c : Char} {sep : String} (hsep : sep.toList = [c]) : ∀ {xs : List String}, xs ≠ [] →
    (∀ x ∈ xs, c ∉ x.toList) → split c (join sep xs) = xs
  | [], h, _ => absurd rfl h
  | [x], _, h => split_of_notMem (h x List.mem_cons_self)
  | x :: y :: xs, _, h => by
    show split c (x ++ sep ++ join sep (y :: xs)) = _
    rw [split_append hsep, split_of_notMem (h x List.mem_cons_self),
      split_join hsep (List.cons_ne_nil y xs) fun z hz => h z (List.mem_cons_of_mem x hz)]
    rfl

theorem join_cons {sep : String} (x : String) {xs : List String} (h : xs ≠ []) :
    join sep (x :: xs) = x ++ sep ++ join sep xs := by
  cases xs with
  | nil => exact absurd rfl h
  | cons y ys => rfl

theorem ofList_cons (d : Char) (cs : List Char) : String.ofList (d :: cs) = String.ofList [d] ++ String.ofList cs := by
  rw [← String.ofList_append]
  rfl

theorem join_splitChars {c : Char} {sep : String} (hsep : sep.toList = [c]) :
    ∀ cs : List Char, join sep ((splitChars c cs).map String.ofList) = String.ofList cs
  | [] => rfl
  | d :: cs => by
    have ih := join_splitChars hsep cs
    rw [splitChars]
    cases hs : splitChars c cs with
    | nil => exact absurd hs (splitChars_ne_nil c cs)
    | cons p ps =>
      rw [hs, List.map_cons] at ih
      dsimp only
      split
      · next hd =>
        have hone : String.ofList [d] = sep := by rw [hd, ← hsep, String.ofList_toList]
        rw [List.map_cons, List.map_cons, join_cons _ (List.cons_ne_nil _ _), ih, ofList_cons d cs, hone]
        exact congrArg (· ++ _) (String.empty_append)
      · rw [List.map_cons, ofList_cons d cs, ← ih]
        cases ps with
        | nil => exact ofList_cons d p
        | cons q qs =>
          rw [List.map_cons, join_cons _ (List.cons_ne_nil _ _), join_cons _ (List.cons_ne_nil _ _),
            ofList_cons d p, String.append_assoc, String.append_assoc, String.append_assoc]

/-- Joining what was split. -/
theorem join_split {c : Char} {sep : String} (hsep : sep.toList = [c]) (s : String) : join sep (split c s) = s := by
  rw [split, join_splitChars hsep, String.ofList_toList]

end Text

namespace Template

/-- A segment of a template: a text, or a group with its name. -/
inductive Piece
  | text (s : String)
  | group (name : String)
  deriving DecidableEq, Repr

/-- The groups of a path of this form. -/
def fits : List Piece → List String → Option (List (String × String))
  | [], [] => some []
  | .text s :: ps, x :: xs => if x = s then fits ps xs else none
  | .group name :: ps, x :: xs => if x = "" then none else (fits ps xs).map ((name, x) :: ·)
  | _, _ => none

/-- The names of the groups. -/
def names : List Piece → List String
  | [] => []
  | .text _ :: ps => names ps
  | .group name :: ps => name :: names ps

/-- The path with these values in the groups. -/
def fill : List Piece → List String → List String
  | .text s :: ps, vs => s :: fill ps vs
  | .group _ :: ps, v :: vs => v :: fill ps vs
  | _, _ => []

/-- Values for the groups. -/
structure Values (ps : List Piece) (groups : List (String × String)) : Prop where
  names : groups.map Prod.fst = names ps
  filled : ∀ e ∈ groups, e.2 ≠ ""

/-- **A template reads back what it was filled with**, and no other path. -/
theorem fits_eq_some : ∀ {ps : List Piece} {xs : List String} {groups : List (String × String)},
    fits ps xs = some groups ↔ Values ps groups ∧ xs = fill ps (groups.map Prod.snd)
  | [], [], groups => by
    constructor
    · rintro ⟨⟩
      exact ⟨⟨rfl, by simp⟩, rfl⟩
    · rintro ⟨⟨hn, -⟩, -⟩
      rw [List.map_eq_nil_iff.mp hn]
      rfl
  | [], x :: xs, groups => by simp [fits, fill]
  | .text s :: ps, [], groups => by simp [fits, fill]
  | .group name :: ps, [], groups => by
    refine ⟨nofun, ?_⟩
    rintro ⟨⟨hn, -⟩, hx⟩
    cases groups with
    | nil => cases hn
    | cons e groups => cases hx
  | .text s :: ps, x :: xs, groups => by
    rw [fits, fill, List.cons.injEq]
    split
    · next hx =>
      rw [fits_eq_some]
      exact ⟨fun h => ⟨⟨h.1.names, h.1.filled⟩, hx, h.2⟩, fun h => ⟨⟨h.1.names, h.1.filled⟩, h.2.2⟩⟩
    · next hx => exact ⟨nofun, fun h => absurd h.2.1 hx⟩
  | .group name :: ps, x :: xs, groups => by
    rw [fits]
    split
    · next hx =>
      refine ⟨nofun, ?_⟩
      rintro ⟨⟨hn, hf⟩, hfill⟩
      cases groups with
      | nil => cases hn
      | cons e groups =>
        rw [List.map_cons, fill, List.cons.injEq] at hfill
        exact absurd (hfill.1.symm.trans hx) (hf e List.mem_cons_self)
    · next hx =>
      rw [Option.map_eq_some_iff]
      constructor
      · rintro ⟨rest, hrest, rfl⟩
        obtain ⟨hv, rfl⟩ := fits_eq_some.mp hrest
        refine ⟨⟨by rw [List.map_cons, hv.names]; rfl, fun e he => ?_⟩, rfl⟩
        obtain rfl | he := List.mem_cons.mp he
        · exact hx
        · exact hv.filled e he
      · rintro ⟨⟨hn, hf⟩, hfill⟩
        cases groups with
        | nil => cases hn
        | cons e rest =>
          obtain ⟨k, v⟩ := e
          rw [List.map_cons, names, List.cons.injEq] at hn
          rw [List.map_cons, fill, List.cons.injEq] at hfill
          obtain ⟨rfl, hn⟩ := hn
          obtain ⟨rfl, hfill⟩ := hfill
          exact ⟨rest, fits_eq_some.mpr ⟨⟨hn, fun e he => hf e (List.mem_cons_of_mem _ he)⟩, hfill⟩, rfl⟩

theorem mem_fill : ∀ {ps : List Piece} {vs : List String} {x : String}, x ∈ fill ps vs → .text x ∈ ps ∨ x ∈ vs
  | [], vs, x, h => absurd h List.not_mem_nil
  | .text s :: ps, vs, x, h => by
    obtain rfl | h := List.mem_cons.mp h
    · exact .inl List.mem_cons_self
    · exact (mem_fill h).imp_left (List.mem_cons_of_mem _)
  | .group n :: ps, [], x, h => absurd h List.not_mem_nil
  | .group n :: ps, v :: vs, x, h => by
    obtain rfl | h := List.mem_cons.mp h
    · exact .inr List.mem_cons_self
    · exact (mem_fill h).imp (List.mem_cons_of_mem _) (List.mem_cons_of_mem _)

/-- Every value is in the path. -/
theorem mem_fill_of_names : ∀ {ps : List Piece} {groups : List (String × String)}, groups.map Prod.fst = names ps →
    ∀ v ∈ groups, v.2 ∈ fill ps (groups.map Prod.snd)
  | [], groups, h, v, hv => by
    rw [List.map_eq_nil_iff.mp h] at hv
    cases hv
  | .text s :: ps, groups, h, v, hv => List.mem_cons_of_mem _ (@mem_fill_of_names ps groups h v hv)
  | .group n :: ps, [], h, v, hv => absurd hv List.not_mem_nil
  | .group n :: ps, e :: groups, h, v, hv => by
    rw [List.map_cons, fill]
    obtain rfl | hv := List.mem_cons.mp hv
    · exact List.mem_cons_self
    · exact List.mem_cons_of_mem _ (mem_fill_of_names (List.cons.inj h).2 v hv)

theorem fill_ne_nil {ps : List Piece} {groups : List (String × String)} (hps : ps ≠ [])
    (h : groups.map Prod.fst = names ps) : fill ps (groups.map Prod.snd) ≠ [] := by
  cases ps with
  | nil => exact absurd rfl hps
  | cons p ps =>
    cases p with
    | text s => exact List.cons_ne_nil _ _
    | group n =>
      cases groups with
      | nil => cases h
      | cons e groups => exact List.cons_ne_nil _ _

/-- **Paths and templates**: the paths of a template's form are those it is filled to with values that do not
have the separator in them. -/
theorem fits_split {c : Char} {sep : String} (hsep : sep.toList = [c]) {ps : List Piece} (hps : ps ≠ [])
    (htexts : ∀ s, .text s ∈ ps → c ∉ s.toList) {path : String} {groups : List (String × String)} :
    fits ps (Text.split c path) = some groups ↔ Values ps groups ∧ (∀ v ∈ groups, c ∉ v.2.toList) ∧
      path = Text.join sep (fill ps (groups.map Prod.snd)) := by
  rw [fits_eq_some]
  constructor
  · rintro ⟨hv, hpath⟩
    refine ⟨hv, fun v hmem => ?_, ?_⟩
    · have hin := mem_fill_of_names hv.names v hmem
      rw [← hpath, Text.split, List.mem_map] at hin
      obtain ⟨q, hq, hqv⟩ := hin
      rw [← hqv, String.toList_ofList]
      exact Text.notMem_of_mem_splitChars hq
    · rw [← hpath, Text.join_split hsep]
  · rintro ⟨hv, hplain, rfl⟩
    refine ⟨hv, Text.split_join hsep (fill_ne_nil hps hv.names) fun x hx => ?_⟩
    obtain htext | hval := mem_fill hx
    · exact htexts x htext
    · obtain ⟨v, hmem, rfl⟩ := List.mem_map.mp hval
      exact hplain v hmem

/-- No path has the form of both: they differ in length or in a text. -/
def apart : List Piece → List Piece → Bool
  | [], [] => false
  | .text s :: ps, .text s' :: qs => s ≠ s' || apart ps qs
  | .text s :: ps, .group _ :: qs => s = "" || apart ps qs
  | .group _ :: ps, .text s :: qs => s = "" || apart ps qs
  | .group _ :: ps, .group _ :: qs => apart ps qs
  | _, _ => true

theorem fits_of_apart : ∀ {ps qs : List Piece} {xs : List String} {groups : List (String × String)},
    apart ps qs = true → fits ps xs = some groups → fits qs xs = none
  | [], [], _, _, h, _ => by cases h
  | [], q :: qs, [], _, _, _ => by cases q <;> rfl
  | [], q :: qs, x :: xs, _, _, h => by cases h
  | .text s :: ps, qs, [], _, _, h => by cases h
  | .group n :: ps, qs, [], _, _, h => by cases h
  | p :: ps, [], x :: xs, _, _, _ => rfl
  | .text s :: ps, .text s' :: qs, x :: xs, groups, ha, h => by
    simp only [fits] at h ⊢
    split_ifs at h with hx
    rw [apart, Bool.or_eq_true, decide_eq_true_eq] at ha
    split_ifs with hx'
    · obtain hne | ha := ha
      · exact absurd (hx.symm.trans hx') hne
      · exact fits_of_apart ha h
    · rfl
  | .text s :: ps, .group n :: qs, x :: xs, groups, ha, h => by
    simp only [fits] at h ⊢
    split_ifs at h with hx
    rw [apart, Bool.or_eq_true, decide_eq_true_eq] at ha
    split_ifs with hx'
    · rfl
    · obtain hs | ha := ha
      · exact absurd (hx.trans hs) hx'
      · rw [fits_of_apart ha h]
        rfl
  | .group n :: ps, .text s :: qs, x :: xs, groups, ha, h => by
    simp only [fits] at h ⊢
    split_ifs at h with hx
    obtain ⟨rest, hrest, -⟩ := Option.map_eq_some_iff.mp h
    rw [apart, Bool.or_eq_true, decide_eq_true_eq] at ha
    split_ifs with hx'
    · obtain hs | ha := ha
      · exact absurd (hx'.trans hs) hx
      · exact fits_of_apart ha hrest
    · rfl
  | .group n :: ps, .group n' :: qs, x :: xs, groups, ha, h => by
    simp only [fits] at h ⊢
    split_ifs at h ⊢ with hx
    obtain ⟨rest, hrest, -⟩ := Option.map_eq_some_iff.mp h
    have hrests : apart ps qs = true := ha
    rw [fits_of_apart hrests hrest]
    rfl

/-- **At most one**: in a list of templates that are pairwise apart, those that fit a path are the same. -/
theorem eq_of_fits {R : Type*} {pieces : R → List Piece} {rs : List R}
    (h : rs.Pairwise fun r r' => apart (pieces r) (pieces r') = true) {r r' : R} (hr : r ∈ rs) (hr' : r' ∈ rs)
    {xs : List String} {g g' : List (String × String)} (hf : fits (pieces r) xs = some g)
    (hf' : fits (pieces r') xs = some g') : r = r' := by
  induction rs with
  | nil => cases hr
  | cons s rs ih =>
    rw [List.pairwise_cons] at h
    obtain heq | hin := List.mem_cons.mp hr
    · obtain heq' | hin' := List.mem_cons.mp hr'
      · rw [heq, heq']
      · rw [heq] at hf
        rw [fits_of_apart (h.1 r' hin') hf] at hf'
        cases hf'
    · obtain heq' | hin' := List.mem_cons.mp hr'
      · rw [heq'] at hf'
        rw [fits_of_apart (h.1 r hin) hf'] at hf
        cases hf
      · exact ih h.2 hin hin'

end Template
