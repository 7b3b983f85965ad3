import Sbegw.Lib.Pieces

/-!
# Files of settings

A file of lines `key=value`, with comments and blank lines between them.  What was written line by line is read back as
it was written when no line has a line break in it, and what is read never has one.  Settings that start a section cut
the file into sections.
-/

namespace Text

/-- The texts, each on a line of its own. -/
def unlines (ls : List String) : String := join "\n" ls ++ "\n"

/-- What a line sets: nothing if it is blank or a comment. -/
def readSetting (l : String) : Option (String × String) := if l = "" ∨ startsWith "#" l = true then none else cut "=" l

/-- What a file sets. -/
def readSettings (s : String) : List (String × String) := (split '\n' s).filterMap readSetting

/-! ### Lines -/

theorem split_newline : ∀ {ls : List String}, ls ≠ [] → split '\n' (join "\n" ls) = ls.flatMap (split '\n')
  | [], h => absurd rfl h
  | [l], _ => by rw [join, List.flatMap_singleton]
  | l :: l' :: ls, _ => by
    show split '\n' (l ++ "\n" ++ join "\n" (l' :: ls)) = _
    rw [split_append rfl, split_newline (List.cons_ne_nil l' ls)]
    rfl

theorem readSettings_unlines (ls : List String) :
    readSettings (unlines ls) = ls.flatMap readSettings := by
  have hlast : readSettings "" = [] := rfl
  have hparts : readSettings (unlines ls) = readSettings (join "\n" ls) := by
    unfold readSettings unlines
    have hnil : join "\n" ls ++ "\n" = join "\n" ls ++ "\n" ++ "" := by simp
    rw [hnil, split_append rfl, List.filterMap_append]
    exact (congrArg _ hlast).trans (List.append_nil _)
  rw [hparts]
  cases ls with
  | nil => exact hlast
  | cons l ls =>
    unfold readSettings
    rw [split_newline (List.cons_ne_nil l ls), List.filterMap_flatMap]

theorem notMem_of_mem_splitChars {c : Char} {q : List Char} : ∀ {s : List Char}, q ∈ splitChars c s → c ∉ q
  | [], h => by
    rw [splitChars, List.mem_singleton] at h
    rw [h]
    exact List.not_mem_nil
  | d :: s, h => by
    rw [splitChars] at h
    cases hs : splitChars c s with
    | nil => exact absurd hs (splitChars_ne_nil c s)
    | cons p ps =>
      have ih : ∀ x ∈ p :: ps, c ∉ x := fun x hx => notMem_of_mem_splitChars (hs ▸ hx)
      rw [hs] at h
      dsimp only at h
      split at h
      · rcases List.mem_cons.mp h with rfl | h
        · exact List.not_mem_nil
        · exact ih q h
      · next hd =>
        rcases List.mem_cons.mp h with rfl | h
        · rw [List.mem_cons, not_or]
          exact ⟨fun hcd => hd hcd.symm, ih p List.mem_cons_self⟩
        · exact ih q (List.mem_cons_of_mem p h)

theorem append_of_cutChars {p s a b : List Char} (h : cutChars p s = some (a, b)) : s = a ++ p ++ b := by
  induction s generalizing a with
  | nil =>
    rw [cutChars] at h
    split at h
    · next hp =>
      obtain ⟨rfl, rfl⟩ := Prod.mk.inj (Option.some.inj h)
      rw [List.isEmpty_iff.mp hp]
      rfl
    · cases h
  | cons c s ih =>
    rw [cutChars] at h
    cases hp : stripPrefix? p (c :: s) with
    | some r =>
      rw [hp] at h
      obtain ⟨rfl, rfl⟩ := Prod.mk.inj (Option.some.inj h)
      exact stripPrefix?_eq_some_iff.mp hp
    | none =>
      rw [hp] at h
      obtain ⟨⟨x, y⟩, hcut, heq⟩ := Option.map_eq_some_iff.mp h
      obtain ⟨rfl, rfl⟩ := Prod.mk.inj heq
      rw [ih hcut]
      rfl

/-- **What is read is of one line.** -/
theorem newline_notMem_readSettings {s k v : String} (h : (k, v) ∈ readSettings s) : '\n' ∉ v.toList := by
  obtain ⟨l, hl, hread⟩ := List.mem_filterMap.mp h
  obtain ⟨q, hq, rfl⟩ := List.mem_map.mp hl
  unfold readSetting at hread
  split at hread
  · cases hread
  · obtain ⟨⟨a, b⟩, hcut, heq⟩ := Option.map_eq_some_iff.mp hread
    obtain ⟨rfl, rfl⟩ := Prod.mk.inj heq
    simp only [String.toList_ofList] at hcut ⊢
    intro hmem
    refine notMem_of_mem_splitChars hq ?_
    rw [append_of_cutChars hcut]
    exact List.mem_append_right _ hmem

/-! ### One line -/

theorem readSettings_of_notMem {l : String} (h : '\n' ∉ l.toList) : readSettings l = (readSetting l).toList := by
  unfold readSettings
  rw [split_of_notMem h]
  cases hread : readSetting l with
  | none => simp [hread]
  | some kv => simp [hread]

theorem readSettings_comment {s : String} (h : '\n' ∉ s.toList) : readSettings ("# " ++ s) = [] := by
  have hline : '\n' ∉ ("# " ++ s).toList := by
    rw [String.toList_append, List.mem_append, not_or]
    exact ⟨by decide, h⟩
  have hcomment : startsWith "#" ("# " ++ s) = true := by
    have htext : "# " ++ s = "#" ++ (" " ++ s) := by
      rw [← String.append_assoc]
      rfl
    rw [htext]
    exact startsWith_append "#" (" " ++ s)
  rw [readSettings_of_notMem hline, readSetting, if_pos (.inr hcomment)]
  rfl

theorem cutChars_append {c : Char} {b : List Char} : ∀ {a : List Char}, c ∉ a →
    cutChars [c] (a ++ c :: b) = some (a, b)
  | [], _ => by
    rw [List.nil_append, cutChars, stripPrefix?_eq_some_iff.mpr (rfl : c :: b = [c] ++ b)]
  | d :: a, h => by
    rw [List.mem_cons, not_or] at h
    have hnone : stripPrefix? [c] (d :: (a ++ c :: b)) = none := by
      rw [Option.eq_none_iff_forall_ne_some]
      intro r hr
      exact h.1 (List.cons.inj (stripPrefix?_eq_some_iff.mp hr)).1.symm
    rw [List.cons_append, cutChars, hnone, cutChars_append h.2]
    rfl

/-- A key: it says itself where it ends. -/
def PlainKey (k : String) : Prop := k ≠ "" ∧ startsWith "#" k = false ∧ '=' ∉ k.toList ∧ '\n' ∉ k.toList

instance (k : String) : Decidable (PlainKey k) := inferInstanceAs (Decidable (_ ∧ _))

theorem readSettings_set {k v : String} (hk : PlainKey k) (hv : '\n' ∉ v.toList) :
    readSettings (k ++ "=" ++ v) = [(k, v)] := by
  have hline : '\n' ∉ (k ++ "=" ++ v).toList := by
    simp only [String.toList_append, List.mem_append, not_or]
    exact ⟨⟨hk.2.2.2, by decide⟩, hv⟩
  have hlist : (k ++ "=" ++ v).toList = k.toList ++ '=' :: v.toList := by
    simp only [String.toList_append, List.append_assoc]
    rfl
  have hset : ¬ (k ++ "=" ++ v = "" ∨ startsWith "#" (k ++ "=" ++ v) = true) := by
    rintro (h | h)
    · have hnil := congrArg String.toList h
      rw [hlist] at hnil
      exact List.append_ne_nil_of_right_ne_nil _ (List.cons_ne_nil _ _) hnil
    · have hk₂ := hk.2.1
      unfold startsWith at h hk₂
      rw [hlist] at h
      obtain ⟨r, hr⟩ := Option.isSome_iff_exists.mp h
      have hcons := stripPrefix?_eq_some_iff.mp hr
      cases hkl : k.toList with
      | nil => exact hk.1 (String.toList_inj.mp hkl)
      | cons c cs =>
        rw [hkl, List.cons_append] at hcons
        have hc : c = '#' := (List.cons.inj hcons).1
        have hsome : stripPrefix? "#".toList k.toList = some cs := by
          rw [hkl, hc]
          exact stripPrefix?_eq_some_iff.mpr rfl
        rw [hsome] at hk₂
        cases hk₂
  rw [readSettings_of_notMem hline, readSetting, if_neg hset, cut, hlist]
  show (Option.map _ (cutChars ['='] _)).toList = _
  rw [cutChars_append hk.2.2.1, Option.map_some, String.ofList_toList, String.ofList_toList]
  rfl

/-! ### Sections -/

/-- What comes before the first element that starts a section, and the sections. -/
def sections {α : Type} (starts : α → Bool) : List α → List α × List (List α)
  | [] => ([], [])
  | a :: as =>
    let r := sections starts as
    if starts a then ([], (a :: r.1) :: r.2) else (a :: r.1, r.2)

section Sections

variable {α : Type} {starts : α → Bool}

theorem sections_append {head : List α} (h : ∀ a ∈ head, starts a = false) (as : List α) :
    sections starts (head ++ as) = (head ++ (sections starts as).1, (sections starts as).2) := by
  induction head with
  | nil => rfl
  | cons a head ih =>
    rw [List.cons_append, sections, ih fun b hb => h b (List.mem_cons_of_mem a hb)]
    dsimp only
    rw [h a List.mem_cons_self]
    rfl

/-- Nothing is lost. -/
theorem sections_join (starts : α → Bool) (as : List α) :
    (sections starts as).1 ++ (sections starts as).2.flatten = as := by
  induction as with
  | nil => rfl
  | cons a as ih =>
    rw [sections]
    split
    · rw [List.nil_append, List.flatten_cons, List.cons_append, ih]
    · rw [List.cons_append, ih]

/-- A section: what starts it, and what does not start another. -/
def IsSection (starts : α → Bool) (s : List α) : Prop :=
  ∃ a as, s = a :: as ∧ starts a = true ∧ ∀ b ∈ as, starts b = false

theorem sections_flatten {ss : List (List α)} (h : ∀ s ∈ ss, IsSection starts s) :
    sections starts ss.flatten = ([], ss) := by
  induction ss with
  | nil => rfl
  | cons s ss ih =>
    obtain ⟨a, as, rfl, ha, has⟩ := h s List.mem_cons_self
    rw [List.flatten_cons, List.cons_append, sections, sections_append has,
      ih fun s hs => h s (List.mem_cons_of_mem _ hs)]
    dsimp only
    rw [ha, List.append_nil]
    rfl

end Sections

end Text
