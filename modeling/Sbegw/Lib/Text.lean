import Mathlib.Data.List.Basic
import Mathlib.Algebra.Order.Ring.Int
import Mathlib.Data.Nat.Notation

/-!
# Python text

The `str` methods and the patterns that programs match strings with, on lists of characters.
-/

namespace Text

/-- `c.isspace()`: the characters `strip` removes and `\s` matches. -/
def isSpace (c : Char) : Bool :=
  let n := c.toNat
  (9 ≤ n && n ≤ 13) || (28 ≤ n && n ≤ 32) || n == 0x85 || n == 0xa0 || n == 0x1680 ||
    (0x2000 ≤ n && n ≤ 0x200a) || n == 0x2028 || n == 0x2029 || n == 0x202f || n == 0x205f ||
    n == 0x3000

/-- Drop the characters satisfying `p` at the end. -/
def dropRight (p : Char → Bool) (cs : List Char) : List Char :=
  (cs.reverse.dropWhile p).reverse

/-- `s.strip()`. -/
def strip (s : String) : String := String.ofList (dropRight isSpace (s.toList.dropWhile isSpace))

/-- `s.rstrip(c)` for a single character `c`. -/
def rstrip (c : Char) (s : String) : String := String.ofList (dropRight (· == c) s.toList)

/-- `c.lower()`.  Besides `A`-`Z` only the Kelvin sign has an ASCII lower case; the other
letters stay as they are, outside ASCII before and after. -/
def lowerChar (c : Char) : Char :=
  if 'A' ≤ c ∧ c ≤ 'Z' then Char.ofNat (c.toNat + 32)
  else if c = Char.ofNat 0x212a then 'k' else c

/-- `s.lower()`. -/
def lower (s : String) : String := String.ofList (s.toList.map lowerChar)

/-- `s.replace(a, b)` for single characters. -/
def replace (a b : Char) (s : String) : String :=
  String.ofList (s.toList.map fun c => if c = a then b else c)

/-- The pieces of a list between the occurrences of `c`. -/
def splitChars (c : Char) : List Char → List (List Char)
  | [] => [[]]
  | d :: ds =>
    match splitChars c ds with
    | [] => [[d]]
    | p :: ps => if d = c then [] :: p :: ps else (d :: p) :: ps

/-- `s.split(c)` for a single character `c`. -/
def split (c : Char) (s : String) : List String := (splitChars c s.toList).map String.ofList

/-- The list starts with `p`; what follows. -/
def stripPrefix? : List Char → List Char → Option (List Char)
  | [], cs => some cs
  | p :: ps, c :: cs => if p = c then stripPrefix? ps cs else none
  | _ :: _, [] => none

/-- `s.startswith(p)`. -/
def startsWith (p s : String) : Bool := (stripPrefix? p.toList s.toList).isSome

theorem stripPrefix?_append : ∀ p s : List Char, stripPrefix? p (p ++ s) = some s
  | [], _ => rfl
  | c :: p, s => by
    rw [List.cons_append, stripPrefix?, if_pos rfl]
    exact stripPrefix?_append p s

theorem startsWith_append (p s : String) : startsWith p (p ++ s) = true := by
  unfold startsWith
  rw [String.toList_append, stripPrefix?_append]
  rfl

/-- `s.endswith(p)`. -/
def endsWith (p s : String) : Bool := (stripPrefix? p.toList.reverse s.toList.reverse).isSome

/-- Split at the first occurrence of `p`: what stands before and after it. -/
def cutChars (p : List Char) : List Char → Option (List Char × List Char)
  | [] => if p.isEmpty then some ([], []) else none
  | c :: cs =>
    match stripPrefix? p (c :: cs) with
    | some rest => some ([], rest)
    | none => (cutChars p cs).map fun q => (c :: q.1, q.2)

/-- `s.split(p, 1)` when `p` occurs in `s`. -/
def cut (p s : String) : Option (String × String) :=
  (cutChars p.toList s.toList).map fun q => (String.ofList q.1, String.ofList q.2)

/-- `p in s`. -/
def isInfixOf (p s : String) : Bool := (cutChars p.toList s.toList).isSome

/-- `', '.join(parts)` with any separator. -/
def join (sep : String) : List String → String
  | [] => ""
  | [s] => s
  | s :: ss => s ++ sep ++ join sep ss

/-- The `$` of a pattern: it also matches in front of a line break that ends the string. -/
def chopNewline (cs : List Char) : List Char :=
  match cs.reverse with
  | '\n' :: rest => rest.reverse
  | _ => cs

/-- A decimal digit 0-9. -/
def isDigit (c : Char) : Bool := '0' ≤ c && c ≤ '9'

/-- A hexadecimal digit in lower case. -/
def isHexLower (c : Char) : Bool := isDigit c || ('a' ≤ c && c ≤ 'f')

/-- A hexadecimal digit. -/
def isHex (c : Char) : Bool := isHexLower c || ('A' ≤ c && c ≤ 'F')

def isLowerAlpha (c : Char) : Bool := 'a' ≤ c && c ≤ 'z'

def isUpperAlpha (c : Char) : Bool := 'A' ≤ c && c ≤ 'Z'

def isAlnum (c : Char) : Bool := isDigit c || isLowerAlpha c || isUpperAlpha c

/-- The zero digits of the decimal digit ranges of Unicode, which `int(text)` accepts. -/
def digitZeros : List ℕ :=
  [0x30, 0x660, 0x6f0, 0x7c0, 0x966, 0x9e6, 0xa66, 0xae6, 0xb66, 0xbe6, 0xc66, 0xce6, 0xd66, 0xde6,
   0xe50, 0xed0, 0xf20, 0x1040, 0x1090, 0x17e0, 0x1810, 0x1946, 0x19d0, 0x1a80, 0x1a90, 0x1b50,
   0x1bb0, 0x1c40, 0x1c50, 0xa620, 0xa8d0, 0xa900, 0xa9d0, 0xa9f0, 0xaa50, 0xabf0, 0xff10, 0x104a0,
   0x10d30, 0x11066, 0x110f0, 0x11136, 0x111d0, 0x112f0, 0x11450, 0x114d0, 0x11650, 0x116c0,
   0x11730, 0x118e0, 0x11950, 0x11c50, 0x11d50, 0x11da0, 0x16a60, 0x16ac0, 0x16b50, 0x1d7ce,
   0x1d7d8, 0x1d7e2, 0x1d7ec, 0x1d7f6, 0x1e140, 0x1e2f0, 0x1e950, 0x1fbf0]

/-- The value of a decimal digit. -/
def digitValue? (c : Char) : Option ℕ :=
  (digitZeros.find? fun z => z ≤ c.toNat && c.toNat < z + 10).map fun z => c.toNat - z

/-- Digits with single underscores between them, read after the value `acc`; `last` tells whether
the character before was a digit. -/
def readDigits (acc : ℕ) (last : Bool) : List Char → Option ℕ
  | [] => if last then some acc else none
  | c :: cs =>
    match digitValue? c with
    | some d => readDigits (acc * 10 + d) true cs
    | none => if c = '_' && last then readDigits acc false cs else none

/-- `int(s)`, `none` where it raises `ValueError`. -/
def readInt (s : String) : Option Int :=
  match (strip s).toList with
  | '-' :: cs => (readDigits 0 false cs).map fun n => -(n : Int)
  | '+' :: cs => (readDigits 0 false cs).map fun n => (n : Int)
  | cs => (readDigits 0 false cs).map fun n => (n : Int)

/-- `str(n)`. -/
def ofNat (n : ℕ) : String := String.ofList (Nat.toDigits 10 n)

/-- `str(i)`. -/
def ofInt (i : Int) : String :=
  match i with
  | .ofNat n => ofNat n
  | .negSucc n => "-" ++ ofNat (n + 1)

/-! ### The pieces of a text -/

theorem isSome_cutChars (c : Char) (cs : List Char) : (cutChars [c] cs).isSome = cs.contains c := by
  induction cs with
  | nil => rfl
  | cons d ds ih =>
    have hstep : cutChars [c] (d :: ds) = if c = d then some ([], ds)
        else (cutChars [c] ds).map fun q => (d :: q.1, q.2) := by
      rw [cutChars, stripPrefix?]
      by_cases h : c = d
      · simp [h, stripPrefix?]
      · simp [h]
    rw [hstep, List.contains_cons]
    by_cases h : c = d
    · simp [h]
    · rw [if_neg h, Option.isSome_map, ih]
      simp [h]

/-- `c in s` for a single character. -/
theorem isInfixOf_singleton {p : String} {c : Char} (hp : p.toList = [c]) (s : String) :
    isInfixOf p s = s.toList.contains c := by
  unfold isInfixOf
  rw [hp, isSome_cutChars]

theorem splitChars_ne_nil (c : Char) (cs : List Char) : splitChars c cs ≠ [] := by
  induction cs with
  | nil => simp [splitChars]
  | cons d ds ih =>
    rw [splitChars]
    split
    · simp
    · split <;> simp

/-- A character other than the separator is in one of the pieces. -/
theorem mem_splitChars {c d : Char} (h : d ≠ c) {cs : List Char} :
    d ∈ cs ↔ ∃ p ∈ splitChars c cs, d ∈ p := by
  induction cs with
  | nil => simp [splitChars]
  | cons e ds ih =>
    rw [splitChars, List.mem_cons, ih]
    cases hs : splitChars c ds with
    | nil => exact absurd hs (splitChars_ne_nil c ds)
    | cons p ps =>
      by_cases he : e = c
      · simp only [he, ↓reduceIte, List.exists_mem_cons_iff, List.not_mem_nil, false_or]
        exact ⟨fun hd => hd.resolve_left h, Or.inr⟩
      · show _ ↔ ∃ q ∈ if e = c then _ else _, d ∈ q
        rw [if_neg he, List.exists_mem_cons_iff, List.exists_mem_cons_iff, List.mem_cons, or_assoc]

/-- More than one piece: there is a separator. -/
theorem mem_of_splitChars {c : Char} {cs : List Char} (h : 1 < (splitChars c cs).length) : c ∈ cs := by
  induction cs with
  | nil => simp [splitChars] at h
  | cons d ds ih =>
    by_cases hd : d = c
    · exact hd ▸ List.mem_cons_self
    · refine List.mem_cons_of_mem d (ih ?_)
      rw [splitChars] at h
      cases hs : splitChars c ds with
      | nil => exact absurd hs (splitChars_ne_nil c ds)
      | cons p ps => simpa [hs, hd] using h

/-! ### Numbers as texts -/

theorem ofNat_inj {m n : ℕ} : ofNat m = ofNat n ↔ m = n := by
  constructor
  · intro h
    have hdigits : Nat.toDigits 10 m = Nat.toDigits 10 n := String.ofList_injective h
    rw [← Nat.ofDigitChars_ten_toDigits (n := m), hdigits, Nat.ofDigitChars_ten_toDigits]
  · rintro rfl
    rfl

theorem ofInt_ofNat (n : ℕ) : ofInt n = ofNat n := rfl

/-- Integers that are not negative, by their texts. -/
theorem ofInt_inj {i j : ℤ} (hi : 0 ≤ i) (hj : 0 ≤ j) : ofInt i = ofInt j ↔ i = j := by
  obtain ⟨m, rfl⟩ := Int.eq_ofNat_of_zero_le hi
  obtain ⟨n, rfl⟩ := Int.eq_ofNat_of_zero_le hj
  rw [ofInt_ofNat, ofInt_ofNat, ofNat_inj]
  omega

/-- The text of a number is made of digits. -/
theorem isDigit_of_mem_ofNat {n : ℕ} {c : Char} (h : c ∈ (ofNat n).toList) : c.isDigit = true := by
  unfold ofNat at h
  rw [String.toList_ofList] at h
  exact Nat.isDigit_of_mem_toDigits (by decide) (by decide) h

end Text
