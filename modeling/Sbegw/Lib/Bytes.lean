import Sbegw.Lib.Text
import Mathlib.Tactic.Ring
import Mathlib.Data.List.Induction

/-!
# Byte strings

Hexadecimal text and numbers in network byte order, as Python's `bytes.fromhex` and `struct` read and
write them.
-/

namespace Bytes

open Text

/-- The value of a hexadecimal digit. -/
def nibble (c : Char) : ℕ :=
  if isDigit c then c.toNat - '0'.toNat
  else if isLowerAlpha c then c.toNat - 'a'.toNat + 10 else c.toNat - 'A'.toNat + 10

/-- The characters that `bytes.fromhex` skips between two bytes. -/
def isBlank (c : Char) : Bool := (9 ≤ c.toNat && c.toNat ≤ 13) || c.toNat == 32

/-- `bytes.fromhex`, `none` where it raises `ValueError`. -/
def fromhex : List Char → Option (List UInt8)
  | [] => some []
  | [c] => if isBlank c then some [] else none
  | c :: d :: cs =>
    if isBlank c then fromhex (d :: cs)
    else if isHex c && isHex d then (fromhex cs).map (UInt8.ofNat (nibble c * 16 + nibble d) :: ·)
    else none

/-- `data.hex()` -/
def hex (data : List UInt8) : String :=
  String.ofList (data.flatMap fun b => [Nat.digitChar (b.toNat / 16), Nat.digitChar (b.toNat % 16)])

/-- `n` in `width` bytes, the highest first. -/
def pack : ℕ → ℕ → List UInt8
  | 0, _ => []
  | width + 1, n => pack width (n / 256) ++ [UInt8.ofNat n]

/-- The number that bytes in network order stand for. -/
def unpack (bs : List UInt8) : ℕ := bs.foldl (fun n b => n * 256 + b.toNat) 0

/-- `packet[i:j]` -/
def slice (packet : List UInt8) (i j : ℕ) : List UInt8 := (packet.take j).drop i

/-- The value of a digit of a number in base 16; any decimal digit of Unicode counts. -/
def hexValue? (c : Char) : Option ℕ :=
  (digitValue? c).or (if isHex c then some (nibble c) else none)

/-- Digits with single underscores between them, read after the value `acc`; `last` tells whether an
underscore may stand here. -/
def readHexDigits (acc : ℕ) (last : Bool) : List Char → Option ℕ
  | [] => if last then some acc else none
  | c :: cs =>
    match hexValue? c with
    | some d => readHexDigits (acc * 16 + d) true cs
    | none => if c = '_' && last then readHexDigits acc false cs else none

/-- The digits after the sign, with or without `0x` before them. -/
def readHexBody : List Char → Option ℕ
  | '0' :: 'x' :: cs => if cs.isEmpty then none else readHexDigits 0 true cs
  | '0' :: 'X' :: cs => if cs.isEmpty then none else readHexDigits 0 true cs
  | cs => readHexDigits 0 false cs

/-- `int(s, 16)`, `none` where it raises `ValueError`. -/
def readHex (s : String) : Option Int :=
  match (strip s).toList with
  | '-' :: cs => (readHexBody cs).map fun n => -(n : Int)
  | '+' :: cs => (readHexBody cs).map fun n => (n : Int)
  | cs => (readHexBody cs).map fun n => (n : Int)

/-! ### Hexadecimal text -/

theorem isBlank_of_isHex {c : Char} (h : isHex c = true) : isBlank c = false := by
  simp only [isHex, isHexLower, isDigit, Bool.or_eq_true, Bool.and_eq_true, decide_eq_true_eq,
    Char.le_def, UInt32.le_iff_toNat_le] at h
  simp only [isBlank, Char.toNat, Bool.or_eq_false_iff, Bool.and_eq_false_iff, decide_eq_false_iff_not,
    beq_eq_false_iff_ne]
  have h0 : '0'.val.toNat = 48 := rfl
  have hA : 'A'.val.toNat = 65 := rfl
  have ha : 'a'.val.toNat = 97 := rfl
  omega

/-- A text of hexadecimal digits is read when their number is even, and gives half as many bytes. -/
theorem length_fromhex : ∀ {cs : List Char}, (∀ c ∈ cs, isHex c = true) →
    (fromhex cs).map List.length = if cs.length % 2 = 0 then some (cs.length / 2) else none
  | [], _ => rfl
  | [c], h => by
    have hblank : isBlank c = false := isBlank_of_isHex (h c (by simp))
    simp [fromhex, hblank]
  | c :: d :: cs, h => by
    have hc : isHex c = true := h c (by simp)
    have hd : isHex d = true := h d (by simp)
    have hrest : ∀ x ∈ cs, isHex x = true := fun x hx => h x (by simp [hx])
    have ih := length_fromhex hrest
    have hcons : fromhex (c :: d :: cs) =
        (fromhex cs).map (UInt8.ofNat (nibble c * 16 + nibble d) :: ·) := by
      simp only [fromhex, isBlank_of_isHex hc, hc, hd, Bool.and_self, if_true, Bool.false_eq_true, if_false]
    rw [hcons, List.length_cons, List.length_cons, show (cs.length + 1 + 1) % 2 = cs.length % 2 by omega,
      show (cs.length + 1 + 1) / 2 = cs.length / 2 + 1 by omega]
    cases hf : fromhex cs with
    | none =>
      rw [hf] at ih
      split at ih
      · exact absurd ih (by simp)
      · next hodd => rw [if_neg hodd]; rfl
    | some bs =>
      rw [hf] at ih
      split at ih
      · next heven =>
        rw [if_pos heven]
        have hlen : bs.length = cs.length / 2 := Option.some.inj ih
        simp [hlen]
      · exact absurd ih (by simp)

/-- The case of a digit does not matter. -/
theorem isHex_lowerChar {c : Char} (h : isHex c = true) :
    isHex (lowerChar c) = true ∧ nibble (lowerChar c) = nibble c := by
  have hA : 'A'.val.toNat = 65 := rfl
  have hZ : 'Z'.val.toNat = 90 := rfl
  have hcases : (isDigit c = true ∨ 'a' ≤ c ∧ c ≤ 'f') ∨ 'A' ≤ c ∧ c ≤ 'F' := by
    simpa [isHex, isHexLower] using h
  by_cases hupper : 'A' ≤ c ∧ c ≤ 'Z'
  · have hF : 'A' ≤ c ∧ c ≤ 'F' := by
      rcases hcases with (hd | ha) | hF
      · simp only [isDigit, Bool.and_eq_true, decide_eq_true_eq, Char.le_def,
          UInt32.le_iff_toNat_le] at hd hupper
        have h9 : '9'.val.toNat = 57 := rfl
        omega
      · simp only [Char.le_def, UInt32.le_iff_toNat_le] at ha hupper
        have ha' : 'a'.val.toNat = 97 := rfl
        omega
      · exact hF
    have hletters : ∀ n < 6, isHex (lowerChar (Char.ofNat (65 + n))) = true ∧
        nibble (lowerChar (Char.ofNat (65 + n))) = nibble (Char.ofNat (65 + n)) := by decide
    have hF' : 'F'.val.toNat = 70 := rfl
    simp only [Char.le_def, UInt32.le_iff_toNat_le] at hF
    have hrange : c.toNat - 65 < 6 := by
      show c.val.toNat - 65 < 6
      omega
    have hc : c = Char.ofNat (65 + (c.toNat - 65)) := by
      rw [show 65 + (c.toNat - 65) = c.toNat by show 65 + (c.val.toNat - 65) = c.val.toNat; omega,
        Char.ofNat_toNat]
    rw [hc]
    exact hletters _ hrange
  · have hsame : lowerChar c = c := by
      unfold lowerChar
      rw [if_neg hupper, if_neg]
      rintro rfl
      exact absurd h (by decide)
    rw [hsame]
    exact ⟨h, rfl⟩

theorem fromhex_lower : ∀ {cs : List Char}, (∀ c ∈ cs, isHex c = true) →
    fromhex (cs.map lowerChar) = fromhex cs
  | [], _ => rfl
  | [c], h => by
    have hc := h c (by simp)
    simp only [List.map_cons, List.map_nil, fromhex, isBlank_of_isHex hc,
      isBlank_of_isHex (isHex_lowerChar hc).1]
  | c :: d :: cs, h => by
    have hc := h c (by simp)
    have hd := h d (by simp)
    have hrest : ∀ x ∈ cs, isHex x = true := fun x hx => h x (by simp [hx])
    have ih := fromhex_lower hrest
    simp only [List.map_cons, fromhex, isBlank_of_isHex hc, isBlank_of_isHex (isHex_lowerChar hc).1, hc, hd,
      (isHex_lowerChar hc).1, (isHex_lowerChar hd).1, (isHex_lowerChar hc).2, (isHex_lowerChar hd).2, ih,
      Bool.false_eq_true, if_false]

/-! ### Numbers -/

@[simp] theorem length_pack (width n : ℕ) : (pack width n).length = width := by
  induction width generalizing n with
  | zero => rfl
  | succ w ih => simp [pack, ih]

theorem unpack_snoc (bs : List UInt8) (b : UInt8) : unpack (bs ++ [b]) = unpack bs * 256 + b.toNat := by
  simp [unpack]

/-- **A number that fits is read back.** -/
theorem unpack_pack (width n : ℕ) (h : n < 256 ^ width) : unpack (pack width n) = n := by
  induction width generalizing n with
  | zero =>
    have hn : n = 0 := by omega
    rw [hn]
    rfl
  | succ w ih =>
    have hdiv : n / 256 < 256 ^ w := by
      rw [Nat.div_lt_iff_lt_mul (by decide), ← pow_succ]
      exact h
    show unpack (pack w (n / 256) ++ [UInt8.ofNat n]) = n
    rw [unpack_snoc, ih _ hdiv, UInt8.toNat_ofNat']
    omega

theorem unpack_lt (bs : List UInt8) : unpack bs < 256 ^ bs.length := by
  induction bs using List.reverseRecOn with
  | nil => decide
  | append_singleton bs b ih =>
    have hb : b.toNat < 256 := b.toNat_lt
    rw [unpack_snoc, List.length_append, List.length_singleton, pow_succ]
    omega

/-! ### Slices -/

theorem slice_middle {a b : List UInt8} {i j : ℕ} (hi : a.length = i) (hj : i + b.length = j)
    (c : List UInt8) : slice (a ++ (b ++ c)) i j = b := by
  unfold slice
  rw [← List.append_assoc, List.take_append_of_le_length (by rw [List.length_append]; omega),
    List.take_of_length_le (by rw [List.length_append]; omega), List.drop_append_of_le_length (by omega),
    List.drop_of_length_le (by omega), List.nil_append]

theorem length_slice_le (packet : List UInt8) (i j : ℕ) : (slice packet i j).length ≤ j - i := by
  unfold slice
  rw [List.length_drop, List.length_take]
  omega

/-- A slice of what is left of a packet. -/
theorem slice_take {packet : List UInt8} {n i j : ℕ} (h : j ≤ n) :
    slice (packet.take n) i j = slice packet i j := by
  unfold slice
  rw [List.take_take, Nat.min_eq_left h]

end Bytes
