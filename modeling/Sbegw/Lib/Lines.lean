import Sbegw.Lib.Text

/-!
# Lines of a text

`str.splitlines`, and the lines that a text file is read in.
-/

namespace Text

/-- The characters that end a line for `splitlines`, next to the pair `\r\n`. -/
def isBreak (c : Char) : Bool :=
  let n := c.toNat
  (10 ≤ n && n ≤ 13) || (28 ≤ n && n ≤ 30) || n == 0x85 || n == 0x2028 || n == 0x2029

/-- `s.splitlines()` on characters. -/
def splitlinesChars : List Char → List (List Char)
  | [] => []
  | '\r' :: '\n' :: cs => [] :: splitlinesChars cs
  | c :: cs =>
    if isBreak c then [] :: splitlinesChars cs
    else match splitlinesChars cs with
      | [] => [[c]]
      | l :: ls => (c :: l) :: ls

def splitlines (s : String) : List String := (splitlinesChars s.toList).map String.ofList

/-- Universal newlines: `\r` and `\r\n` are read as `\n`. -/
def translate : List UInt8 → List UInt8
  | [] => []
  | [c] => [if c = 13 then 10 else c]
  | c :: d :: bs =>
    if c = 13 ∧ d = 10 then 10 :: translate bs else (if c = 13 then 10 else c) :: translate (d :: bs)

/-- The pieces that end with a line feed, without it, and what is left. -/
def splitLf : List UInt8 → List (List UInt8)
  | [] => []
  | b :: bs =>
    if b = 10 then [] :: splitLf bs
    else match splitLf bs with
      | [] => [[b]]
      | l :: ls => (b :: l) :: ls

/-- The lines of a file that is opened as text, without their ends; the last one may lack its end. -/
def textLines (content : List UInt8) : List (List UInt8) := splitLf (translate content)

theorem translate_snoc : ∀ a b : List UInt8, translate (a ++ 10 :: b) = translate (a ++ [10]) ++ translate b
  | [], [] => rfl
  | [], d :: b => by simp [translate]
  | [c], b => by
    by_cases hc : c = 13
    · simp [translate, hc]
    · cases b <;> simp [translate, hc]
  | c :: d :: a, b => by
    by_cases hpair : c = 13 ∧ d = 10
    · have ih := translate_snoc a b
      simp only [List.cons_append, translate, if_pos hpair, ih]
    · have ih := translate_snoc (d :: a) b
      simp only [List.cons_append] at ih
      simp only [List.cons_append, translate, if_neg hpair, ih]

/-- A text that ends a line still does after translation. -/
theorem translate_ends : ∀ a : List UInt8, ∃ a', translate (a ++ [10]) = a' ++ [10]
  | [] => ⟨[], rfl⟩
  | [c] => by
    by_cases hc : c = 13
    · exact ⟨[], by simp [translate, hc]⟩
    · exact ⟨[c], by simp [translate, hc]⟩
  | c :: d :: a => by
    by_cases hpair : c = 13 ∧ d = 10
    · obtain ⟨a', ih⟩ := translate_ends a
      exact ⟨10 :: a', by simp only [List.cons_append, translate, if_pos hpair, ih]⟩
    · obtain ⟨a', ih⟩ := translate_ends (d :: a)
      simp only [List.cons_append] at ih
      exact ⟨(if c = 13 then 10 else c) :: a', by simp only [List.cons_append, translate, if_neg hpair, ih]⟩

theorem splitLf_snoc (a b : List UInt8) : splitLf (a ++ 10 :: b) = splitLf (a ++ [10]) ++ splitLf b := by
  induction a with
  | nil => simp [splitLf]
  | cons c a ih =>
    by_cases hc : c = 10
    · simp only [List.cons_append, splitLf, if_pos hc, ih]
    · have hne : splitLf (a ++ [10]) ≠ [] := by
        cases a with
        | nil => simp [splitLf]
        | cons d a =>
          simp only [List.cons_append, splitLf]
          split
          · simp
          · split <;> simp
      obtain ⟨l, ls, hl⟩ := List.exists_cons_of_ne_nil hne
      simp only [List.cons_append, splitLf, if_neg hc, ih, hl]

/-- The text is empty or ends a line. -/
def EndsLine (content : List UInt8) : Prop := content = [] ∨ ∃ a, content = a ++ [10]

/-- **Lines are read alike before and after a line end.** -/
theorem textLines_append {a : List UInt8} (h : EndsLine a) (b : List UInt8) :
    textLines (a ++ b) = textLines a ++ textLines b := by
  rcases h with rfl | ⟨a, rfl⟩
  · rfl
  · obtain ⟨a', ha'⟩ := translate_ends a
    unfold textLines
    rw [List.append_assoc, List.singleton_append, translate_snoc, ha', List.append_assoc,
      List.singleton_append, splitLf_snoc]

end Text
