import Sbegw.Lib.Ip
import Sbegw.Lib.Pieces
import Mathlib.Data.List.GetD
import Mathlib.Data.List.Induction
import Mathlib.Data.List.TakeWhile
import Mathlib.Tactic.IntervalCases

/-!
# The texts of addresses

What `str` prints of an address is read as that address again.
-/

namespace Text

/-! ### Splitting what was joined -/

theorem splitChars_intercalate {c : Char} : ∀ {ps : List (List Char)}, ps ≠ [] → (∀ p ∈ ps, c ∉ p) →
    splitChars c ([c].intercalate ps) = ps
  | [], hne, _ => absurd rfl hne
  | [p], _, h => by
    rw [List.intercalate_singleton]
    exact splitChars_of_notMem (h p List.mem_cons_self)
  | p :: q :: ps, _, h => by
    rw [List.intercalate_cons_cons, List.append_assoc, List.singleton_append, splitChars_append,
      splitChars_of_notMem (h p List.mem_cons_self),
      splitChars_intercalate (by simp) fun r hr => h r (List.mem_cons_of_mem p hr)]
    rfl

theorem mem_intercalate {c d : Char} : ∀ {ps : List (List Char)}, d ∈ [c].intercalate ps →
    d = c ∨ ∃ p ∈ ps, d ∈ p
  | [], h => absurd h (by simp [List.intercalate])
  | [p], h => by
    rw [List.intercalate_singleton] at h
    exact .inr ⟨p, List.mem_cons_self, h⟩
  | p :: q :: ps, h => by
    rw [List.intercalate_cons_cons, List.append_assoc, List.singleton_append, List.mem_append,
      List.mem_cons] at h
    rcases h with h | h | h
    · exact .inr ⟨p, List.mem_cons_self, h⟩
    · exact .inl h
    · rcases mem_intercalate h with h | ⟨r, hr, hd⟩
      · exact .inl h
      · exact .inr ⟨r, List.mem_cons_of_mem p hr, hd⟩

end Text

namespace Ip

open Text

/-! ### Octets and hextets -/

theorem parseOctet_toDigits {n : ℕ} (h : n < 256) : parseOctet (Nat.toDigits 10 n) = some n := by
  have hall : ∀ m < 256, parseOctet (Nat.toDigits 10 m) = some m := by decide +kernel
  exact hall n h

theorem parseOctet_lt {cs : List Char} {n : ℕ} (h : parseOctet cs = some n) : n < 256 := by
  unfold parseOctet at h
  split at h
  · exact absurd h (by simp)
  · split at h
    · exact absurd h (by simp)
    · next hle =>
      obtain rfl := Option.some.inj h
      omega

theorem hexValue_digitChar {n : ℕ} (h : n < 16) : hexValue (Nat.digitChar n) = n ∧
    isHex (Nat.digitChar n) = true := by
  interval_cases n <;> decide

theorem toDigits_hex (n : ℕ) : readBase 16 (Nat.toDigits 16 n) = n ∧ (Nat.toDigits 16 n).all isHex = true := by
  induction n using Nat.strongRecOn with
  | ind n ih =>
    by_cases hn : n < 16
    · rw [Nat.toDigits_of_lt_base hn]
      obtain ⟨hvalue, hhex⟩ := hexValue_digitChar hn
      simp [readBase, hvalue, hhex]
    · obtain ⟨hread, hall⟩ := ih (n / 16) (by omega)
      obtain ⟨hvalue, hhex⟩ := hexValue_digitChar (n := n % 16) (by omega)
      rw [Nat.toDigits_of_base_le (by omega) (by omega)]
      constructor
      · unfold readBase at hread ⊢
        rw [List.foldl_append, hread]
        simp only [List.foldl_cons, List.foldl_nil, hvalue]
        omega
      · rw [List.all_append, hall]
        simp [hhex]

theorem parseHextet_toDigits {n : ℕ} (h : n < 65536) : parseHextet (Nat.toDigits 16 n) = some n := by
  obtain ⟨hread, hall⟩ := toDigits_hex n
  have hlen : (Nat.toDigits 16 n).length ≤ 4 := (Nat.length_toDigits_le_iff (by omega) (by omega)).mpr h
  have hne : Nat.toDigits 16 n ≠ [] := Nat.toDigits_ne_nil
  unfold parseHextet
  rw [hall, hread]
  simp [hne, hlen]

theorem hexValue_lt {c : Char} (h : isHex c = true) : hexValue c < 16 := by
  unfold isHex isHexLower isDigit at h
  unfold hexValue isDigit isLowerAlpha
  simp only [Bool.or_eq_true, Bool.and_eq_true, decide_eq_true_eq, Char.le_def, UInt32.le_iff_toNat_le] at h ⊢
  have hc : c.toNat = c.val.toNat := rfl
  have hzero : '0'.val.toNat = 48 ∧ '9'.val.toNat = 57 ∧ '0'.toNat = 48 := ⟨rfl, rfl, rfl⟩
  have hlower : 'a'.val.toNat = 97 ∧ 'f'.val.toNat = 102 ∧ 'z'.val.toNat = 122 ∧ 'a'.toNat = 97 :=
    ⟨rfl, rfl, rfl, rfl⟩
  have hupper : 'A'.val.toNat = 65 ∧ 'F'.val.toNat = 70 ∧ 'A'.toNat = 65 := ⟨rfl, rfl, rfl⟩
  split
  · omega
  · split <;> omega

theorem readBase_lt : ∀ (cs : List Char) (acc : ℕ), cs.all isHex = true →
    cs.foldl (fun n c => n * 16 + hexValue c) acc < (acc + 1) * 16 ^ cs.length
  | [], acc, _ => by simp
  | c :: cs, acc, h => by
    rw [List.all_cons, Bool.and_eq_true] at h
    have hc := hexValue_lt h.1
    have hrest := readBase_lt cs (acc * 16 + hexValue c) h.2
    calc (c :: cs).foldl (fun n c => n * 16 + hexValue c) acc
        < (acc * 16 + hexValue c + 1) * 16 ^ cs.length := hrest
      _ ≤ ((acc + 1) * 16) * 16 ^ cs.length := Nat.mul_le_mul_right _ (by omega)
      _ = (acc + 1) * 16 ^ (c :: cs).length := by rw [List.length_cons, pow_succ, Nat.mul_assoc, Nat.mul_comm 16]

theorem parseHextet_lt {cs : List Char} {n : ℕ} (h : parseHextet cs = some n) : n < 65536 := by
  unfold parseHextet at h
  split at h
  · exact absurd h (by simp)
  · next hok =>
    simp only [Bool.or_eq_true, not_or, Bool.not_eq_true, Bool.not_eq_false', decide_eq_false_iff_not,
      not_lt] at hok
    obtain rfl := Option.some.inj h
    have hlt := readBase_lt cs 0 hok.1.2
    calc readBase 16 cs < (0 + 1) * 16 ^ cs.length := hlt
      _ ≤ (0 + 1) * 16 ^ 4 := Nat.mul_le_mul_left _ (Nat.pow_le_pow_right (by omega) hok.2)
      _ = 65536 := by norm_num

/-! ### IPv4 -/

/-- The octets of an address. -/
def Octets (os : List ℕ) : Prop := os.length = 4 ∧ ∀ o ∈ os, o < 256

theorem octets_of_parseV4 {cs : List Char} {os : List ℕ} (h : parseV4 cs = some os) : Octets os := by
  unfold parseV4 at h
  split at h
  · simp only [Option.bind_eq_bind, Option.bind_eq_some_iff] at h
    obtain ⟨a, ha, b, hb, c, hc, d, hd, h⟩ := h
    obtain rfl := Option.some.inj h
    refine ⟨rfl, ?_⟩
    simp only [List.forall_mem_cons, List.not_mem_nil, false_imp_iff, implies_true, and_true]
    exact ⟨parseOctet_lt ha, parseOctet_lt hb, parseOctet_lt hc, parseOctet_lt hd⟩
  · exact absurd h (by simp)

theorem isDigit_of_toDigits {n : ℕ} (h : n < 256) : ∀ c ∈ Nat.toDigits 10 n, isDigit c = true :=
  isDigit_of_parseOctet (parseOctet_toDigits h)

theorem parseV4_show {os : List ℕ} (h : Octets os) :
    parseV4 (['.'].intercalate (os.map (Nat.toDigits 10))) = some os := by
  obtain ⟨hlen, hlt⟩ := h
  have hdots : ∀ p ∈ os.map (Nat.toDigits 10), '.' ∉ p := by
    intro p hp hdot
    obtain ⟨o, ho, rfl⟩ := List.mem_map.mp hp
    exact absurd (isDigit_of_toDigits (hlt o ho) '.' hdot) (by decide)
  obtain ⟨a, b, c, d, rfl⟩ := List.length_eq_four.mp hlen
  simp only [List.forall_mem_cons] at hlt
  unfold parseV4
  rw [splitChars_intercalate (by simp) hdots]
  simp only [List.map_cons, List.map_nil, parseOctet_toDigits hlt.1, parseOctet_toDigits hlt.2.1,
    parseOctet_toDigits hlt.2.2.1, parseOctet_toDigits hlt.2.2.2.1]
  rfl

/-! ### IPv6 -/

/-- The hextets of an address. -/
def Hextets (hs : List ℕ) : Prop := hs.length = 8 ∧ ∀ h ∈ hs, h < 65536

theorem mapM_parseHextet {ps : List (List Char)} {hs : List ℕ} (h : ps.mapM parseHextet = some hs) :
    hs.length = ps.length ∧ ∀ n ∈ hs, n < 65536 := by
  induction ps generalizing hs with
  | nil =>
    rw [List.mapM_nil] at h
    obtain rfl := Option.some.inj h
    exact ⟨rfl, fun _ h => absurd h List.not_mem_nil⟩
  | cons p ps ih =>
    simp only [List.mapM_cons, Option.bind_eq_bind, Option.bind_eq_some_iff] at h
    obtain ⟨n, hn, ns, hns, h⟩ := h
    obtain rfl := Option.some.inj h
    obtain ⟨hlen, hlt⟩ := ih hns
    exact ⟨by rw [List.length_cons, List.length_cons, hlen], List.forall_mem_cons.mpr ⟨parseHextet_lt hn, hlt⟩⟩

/-- The texts of hextets. -/
def texts (hs : List ℕ) : List (List Char) := hs.map (Nat.toDigits 16)

theorem mapM_texts {hs : List ℕ} (h : ∀ n ∈ hs, n < 65536) : (texts hs).mapM parseHextet = some hs := by
  induction hs with
  | nil => rfl
  | cons n hs ih =>
    obtain ⟨hn, hrest⟩ := List.forall_mem_cons.mp h
    have htail : (hs.map (Nat.toDigits 16)).mapM parseHextet = some hs := ih hrest
    simp only [texts, List.map_cons, List.mapM_cons, parseHextet_toDigits hn, htail]
    rfl

theorem hextets_of_parseHextets {cs : List Char} {hs : List ℕ} (h : parseHextets cs = some hs) :
    Hextets hs := by
  unfold parseHextets at h
  obtain ⟨parts, -, h⟩ := Option.bind_eq_some_iff.mp h
  split at h
  · exact absurd h (by simp)
  · split at h
    · -- without a gap
      split at h
      · next hlen =>
        obtain ⟨hl, hlt⟩ := mapM_parseHextet h
        exact ⟨hl.trans hlen, hlt⟩
      · exact absurd h (by simp)
    · next i hskip =>
      -- the gap stands for what is missing
      dsimp only at h
      generalize (if (parts.headD []).isEmpty then parts.take (i - 1) else parts.take i) = front at h
      generalize (if (parts.getLastD []).isEmpty then (parts.drop (i + 1)).dropLast else parts.drop (i + 1)) =
        back at h
      split at h
      · exact absurd h (by simp)
      · next hok =>
        simp only [Option.bind_eq_bind, Option.bind_eq_some_iff] at h
        obtain ⟨hi, hhi, lo, hlo, h⟩ := h
        obtain rfl := Option.some.inj h
        obtain ⟨hhiLen, hhiLt⟩ := mapM_parseHextet hhi
        obtain ⟨hloLen, hloLt⟩ := mapM_parseHextet hlo
        simp only [Bool.or_eq_true, not_or, decide_eq_true_eq, not_le] at hok
        rw [← hhiLen, ← hloLen] at hok ⊢
        have hshort := hok.2
        refine ⟨?_, fun n hn => ?_⟩
        · rw [List.length_append, List.length_append, List.length_replicate]
          omega
        · rcases List.mem_append.mp hn with hn | hn
          · rcases List.mem_append.mp hn with hn | hn
            · exact hhiLt n hn
            · rw [List.eq_of_mem_replicate hn]
              omega
          · exact hloLt n hn
    · exact absurd h (by simp)

/-- The longest run of zeros is one. -/
theorem longestZeros_run (hs : List ℕ) : (longestZeros hs).2 =
    ((hs.drop (longestZeros hs).1).takeWhile (· == 0)).length ∨ (longestZeros hs).2 = 0 := by
  unfold longestZeros
  induction List.range hs.length using List.reverseRecOn with
  | nil => exact .inr rfl
  | append_singleton l i ih =>
    rw [List.foldl_append]
    simp only [List.foldl_cons, List.foldl_nil]
    split
    · exact .inl rfl
    · exact ih

/-- Around the longest run of zeros. -/
theorem around_zeros {hs : List ℕ} {i len : ℕ} (h : longestZeros hs = (i, len)) (hlen : 1 < len) :
    hs = hs.take i ++ List.replicate len 0 ++ hs.drop (i + len) := by
  have hrun : len = ((hs.drop i).takeWhile (· == 0)).length := by
    have hrun := longestZeros_run hs
    rw [h] at hrun
    simp only at hrun
    omega
  have hzeros : (hs.drop i).takeWhile (· == 0) = List.replicate len 0 := by
    rw [List.eq_replicate_iff]
    refine ⟨hrun.symm, fun n hn => ?_⟩
    simpa using List.mem_takeWhile_imp hn
  have hsplit : hs.drop i = List.replicate len 0 ++ hs.drop (i + len) := by
    have htake := List.takeWhile_append_dropWhile (p := (· == 0)) (l := hs.drop i)
    rw [hzeros] at htake
    have hdrop : (hs.drop i).drop len = (hs.drop i).dropWhile (· == 0) := by
      conv_lhs => rw [← htake]
      exact List.drop_left' (by rw [List.length_replicate])
    rw [← List.drop_drop, hdrop]
    exact htake.symm
  rw [List.append_assoc, ← hsplit, List.take_append_drop]

/-- Both sides of the gap: nothing is an empty part. -/
def side (hs : List ℕ) : List (List Char) := if hs = [] then [[]] else texts hs

theorem isHex_of_texts {hs : List ℕ} {p : List Char} (h : p ∈ texts hs) : ∀ c ∈ p, isHex c = true := by
  obtain ⟨n, -, rfl⟩ := List.mem_map.mp h
  exact List.all_eq_true.mp (toDigits_hex n).2

theorem notMem_of_texts {hs : List ℕ} {c : Char} (hc : isHex c = false) : ∀ p ∈ texts hs, c ∉ p :=
  fun p hp hmem => absurd (isHex_of_texts hp c hmem) (by simp [hc])

theorem ne_nil_of_texts {hs : List ℕ} {p : List Char} (h : p ∈ texts hs) : p ≠ [] := by
  obtain ⟨n, -, rfl⟩ := List.mem_map.mp h
  exact Nat.toDigits_ne_nil

theorem splitChars_side (hs : List ℕ) : splitChars ':' ([':'].intercalate (texts hs)) = side hs := by
  unfold side
  split
  · next h =>
    rw [h]
    rfl
  · next h =>
    exact splitChars_intercalate (by simpa [texts] using h) (notMem_of_texts (by decide))

/-- What stands in the last part: no dot. -/
theorem expandV4_side (front : List (List Char)) (hs : List ℕ) :
    expandV4 (front ++ side hs) = some (front ++ side hs) := by
  have hne : side hs ≠ [] := by
    unfold side
    split
    · simp
    · next h => simpa [texts] using h
  have hdot : '.' ∉ (side hs).getLast hne := by
    have hmem := List.getLast_mem hne
    revert hmem
    generalize (side hs).getLast hne = p
    unfold side
    split
    · intro hp
      rw [List.mem_singleton.mp hp]
      exact List.not_mem_nil
    · exact fun hp => notMem_of_texts (by decide) p hp
  unfold expandV4
  rw [List.getLast?_append_of_ne_nil front hne, List.getLast?_eq_some_getLast hne]
  simp [hdot]

/-- One index of a range. -/
theorem filter_range_singleton {p : ℕ → Bool} {m : ℕ} : ∀ {n : ℕ}, m < n → (∀ i < n, p i = true ↔ i = m) →
    (List.range n).filter p = [m]
  | 0, hm, _ => absurd hm (by omega)
  | n + 1, hm, h => by
    rw [List.range_succ, List.filter_append]
    by_cases hn : m = n
    · have hnone : (List.range n).filter p = [] := by
        rw [List.filter_eq_nil_iff]
        intro i hi hp
        have hlt := List.mem_range.mp hi
        have heq := (h i (by omega)).mp hp
        omega
      rw [hnone, List.filter_singleton, (h n (by omega)).mpr hn.symm, hn]
      rfl
    · have hlast : p n = false := by
        rw [← Bool.not_eq_true, h n (by omega)]
        omega
      rw [filter_range_singleton (n := n) (by omega) fun i hi => h i (by omega), List.filter_singleton, hlast]
      rfl

theorem length_side (hs : List ℕ) : (side hs).length = max 1 hs.length := by
  unfold side
  split
  · next h => simp [h]
  · next h =>
    have hpos := List.length_pos_iff.mpr h
    rw [texts, List.length_map]
    omega

/-- Only an empty side is an empty part. -/
theorem isEmpty_getD_side (hs : List ℕ) {i : ℕ} (h : ((side hs).getD i ['0']).isEmpty = true) : hs = [] ∧ i = 0 := by
  unfold side at h
  split at h
  · next hnil =>
    refine ⟨hnil, ?_⟩
    cases i with
    | zero => rfl
    | succ i => exact absurd h (by simp)
  · next hne =>
    exfalso
    rw [List.isEmpty_iff, List.getD_eq_getElem?_getD] at h
    cases hget : (texts hs)[i]? with
    | none => exact absurd h (by simp [hget])
    | some p =>
      rw [hget] at h
      exact ne_nil_of_texts (List.mem_of_getElem? hget) h

theorem headD_side (hs : List ℕ) (rest : List (List Char)) :
    (((side hs ++ rest).headD []).isEmpty = true ↔ hs = []) := by
  unfold side
  split
  · next h => simp [h]
  · next h =>
    obtain ⟨n, ns, rfl⟩ := List.exists_cons_of_ne_nil h
    have hne : Nat.toDigits 16 n ≠ [] := Nat.toDigits_ne_nil
    simp [texts, hne]

theorem getLastD_side (hs : List ℕ) (front : List (List Char)) :
    (((front ++ side hs).getLastD []).isEmpty = true ↔ hs = []) := by
  unfold side
  split
  · next h => simp [h]
  · next h =>
    have hne : texts hs ≠ [] := by simpa [texts] using h
    have hlast : (front ++ texts hs).getLastD [] = (texts hs).getLast hne := by
      rw [List.getLastD_eq_getLast?, List.getLast?_append_of_ne_nil front hne, List.getLast?_eq_some_getLast hne]
      rfl
    rw [hlast]
    have hpart := ne_nil_of_texts (List.getLast_mem hne)
    simp [h, hpart]

/-- **A gap is read back.** -/
theorem parseHextets_gap {A B : List ℕ} (hA : ∀ n ∈ A, n < 65536) (hB : ∀ n ∈ B, n < 65536)
    (hlen : A.length + B.length < 8) :
    parseHextets ([':'].intercalate (texts A) ++ ':' :: ':' :: [':'].intercalate (texts B)) =
      some (A ++ List.replicate (8 - (A.length + B.length)) 0 ++ B) := by
  have hsplit : splitChars ':' ([':'].intercalate (texts A) ++ ':' :: ':' :: [':'].intercalate (texts B)) =
      side A ++ [] :: side B := by
    rw [splitChars_append, splitChars_side]
    have htail := splitChars_append ':' ([':'].intercalate (texts B)) []
    rw [List.nil_append, splitChars_side] at htail
    rw [htail]
    rfl
  have hlenA := length_side A
  have hlenB := length_side B
  have hparts : (side A ++ [] :: side B).length = (side A).length + (side B).length + 1 := by
    rw [List.length_append, List.length_cons]
    omega
  have hskip : skipIndices (side A ++ [] :: side B) = [(side A).length] := by
    unfold skipIndices
    refine filter_range_singleton (by omega) fun i hi => ?_
    rw [Bool.and_eq_true, decide_eq_true_eq]
    constructor
    · rintro ⟨⟨hpos, hlast⟩, hempty⟩
      rcases Nat.lt_trichotomy i (side A).length with hlt | heq | hgt
      · rw [List.getD_append _ _ _ _ hlt] at hempty
        have hzero := (isEmpty_getD_side A hempty).2
        omega
      · exact heq
      · rw [List.getD_append_right _ _ _ _ (by omega)] at hempty
        obtain ⟨k, hk⟩ : ∃ k, i - (side A).length = k + 1 := ⟨i - (side A).length - 1, by omega⟩
        rw [hk, List.getD_cons_succ] at hempty
        obtain ⟨hnil, hzero⟩ := isEmpty_getD_side B hempty
        have hzeroB : B.length = 0 := by rw [hnil, List.length_nil]
        omega
    · rintro rfl
      refine ⟨by omega, ?_⟩
      rw [List.getD_append_right _ _ _ _ (le_refl _), Nat.sub_self, List.getD_cons_zero]
      rfl
  have hfront : (if ((side A ++ [] :: side B).headD []).isEmpty = true then
      (side A ++ [] :: side B).take ((side A).length - 1) else (side A ++ [] :: side B).take (side A).length) =
        texts A := by
    by_cases h : A = []
    · rw [if_pos ((headD_side A _).mpr h), h]
      rfl
    · rw [if_neg fun hc => h ((headD_side A _).mp hc), List.take_left']
      · exact if_neg h
      · rfl
  have hfold : side A ++ [] :: side B = (side A ++ [[]]) ++ side B := by simp
  have hback : (if ((side A ++ [] :: side B).getLastD []).isEmpty = true then
      ((side A ++ [] :: side B).drop ((side A).length + 1)).dropLast
      else (side A ++ [] :: side B).drop ((side A).length + 1)) = texts B := by
    have hdrop : (side A ++ [] :: side B).drop ((side A).length + 1) = side B := by
      rw [hfold]
      exact List.drop_left' (by simp)
    rw [hdrop, hfold]
    by_cases h : B = []
    · rw [if_pos ((getLastD_side B _).mpr h), h]
      rfl
    · rw [if_neg fun hc => h ((getLastD_side B _).mp hc)]
      exact if_neg h
  have hlenTexts : (texts A).length = A.length ∧ (texts B).length = B.length :=
    ⟨List.length_map _, List.length_map _⟩
  unfold parseHextets
  rw [hsplit, if_neg (by omega), hfold, expandV4_side, ← hfold, Option.bind_some, if_neg (by omega), hskip]
  dsimp only
  rw [hfront, hback, hlenTexts.1, hlenTexts.2, mapM_texts hA, mapM_texts hB, if_neg ?_]
  · rfl
  · simp only [Bool.or_eq_true, Bool.and_eq_true, decide_eq_true_eq, headD_side, bne_iff_ne, ne_eq]
    rw [hfold, getLastD_side]
    rintro ((⟨hnil, hne⟩ | ⟨hnil, hne⟩) | hge)
    · exact hne (by rw [hnil]; rfl)
    · exact hne (by rw [hnil]; rfl)
    · omega

/-- **Hextets are read back.** -/
theorem parseHextets_show {hs : List ℕ} (h : Hextets hs) : parseHextets (showHextets hs) = some hs := by
  obtain ⟨hlen, hlt⟩ := h
  obtain ⟨⟨i, len⟩, hzeros⟩ : ∃ r, longestZeros hs = r := ⟨_, rfl⟩
  have hshow : showHextets hs = if 1 < len then [':'].intercalate (texts (hs.take i)) ++
      ':' :: ':' :: [':'].intercalate (texts (hs.drop (i + len))) else [':'].intercalate (texts hs) := by
    unfold showHextets
    rw [hzeros]
    dsimp only [texts]
    split
    · simp
    · rfl
  rw [hshow]
  split
  · next hrun =>
    have haround := around_zeros hzeros hrun
    have hcount : (hs.take i).length + len + (hs.drop (i + len)).length = 8 := by
      rw [← hlen]
      conv_rhs => rw [haround]
      rw [List.length_append, List.length_append, List.length_replicate]
    rw [parseHextets_gap (fun n hn => hlt n (List.mem_of_mem_take hn)) (fun n hn => hlt n (List.mem_of_mem_drop hn))
      (by omega), show 8 - ((hs.take i).length + (hs.drop (i + len)).length) = len by omega, ← haround]
  · -- eight parts, none of them empty
    have hne : hs ≠ [] := by
      rintro rfl
      exact absurd hlen (by simp)
    have hside : side hs = texts hs := if_neg hne
    have hparts : (side hs).length = 8 := by rw [hside, texts, List.length_map, hlen]
    have hexpand := expandV4_side [] hs
    rw [List.nil_append] at hexpand
    have hskip : skipIndices (side hs) = [] := by
      unfold skipIndices
      rw [List.filter_eq_nil_iff]
      intro i _ hc
      rw [Bool.and_eq_true] at hc
      exact hne (isEmpty_getD_side hs hc.2).1
    unfold parseHextets
    rw [splitChars_side, if_neg (by omega), hexpand, Option.bind_some, if_neg (by omega), hskip]
    dsimp only
    rw [if_pos hparts, hside, mapM_texts hlt]

/-! ### Addresses -/

/-- What an address is made of: octets, or hextets and perhaps a scope. -/
inductive Valid : Addr → Prop where
  | v4 {os : List ℕ} (h : Octets os) : Valid (.v4 os)
  | v6 {hs : List ℕ} (h : Hextets hs) : Valid (.v6 hs none)
  | zone {hs : List ℕ} {scope : List Char} (h : Hextets hs) (hne : scope ≠ []) (hpercent : '%' ∉ scope)
    (hslash : '/' ∉ scope) : Valid (.v6 hs (some scope))

theorem notMem_of_splitChars {c : Char} {cs : List Char} : ∀ p ∈ splitChars c cs, c ∉ p := by
  induction cs with
  | nil => simp [splitChars]
  | cons d ds ih =>
    rw [splitChars]
    cases hs : splitChars c ds with
    | nil => exact absurd hs (splitChars_ne_nil c ds)
    | cons p ps =>
      rw [hs, List.forall_mem_cons] at ih
      dsimp only
      split
      · exact List.forall_mem_cons.mpr ⟨List.not_mem_nil, List.forall_mem_cons.mpr ih⟩
      · next hd =>
        refine List.forall_mem_cons.mpr ⟨?_, ih.2⟩
        rw [List.mem_cons, not_or]
        exact ⟨fun h => hd h.symm, ih.1⟩

theorem valid_of_ipAddress {s : String} {addr : Addr} (h : ipAddress s = some addr) : Valid addr := by
  unfold ipAddress at h
  split at h
  · exact absurd h (by simp)
  · next hslash =>
    split at h
    · next os hos =>
      obtain rfl := Option.some.inj h
      exact .v4 (octets_of_parseV4 hos)
    · obtain ⟨r, hr, rfl⟩ := Option.map_eq_some_iff.mp h
      unfold parseV6 at hr
      split at hr
      · obtain ⟨hs, hhs, rfl⟩ := Option.map_eq_some_iff.mp hr
        exact .v6 (hextets_of_parseHextets hhs)
      · next a scope hsplit =>
        split at hr
        · exact absurd hr (by simp)
        · next hne =>
          obtain ⟨hs, hhs, rfl⟩ := Option.map_eq_some_iff.mp hr
          have hmem : scope ∈ splitChars '%' s.toList := by simp [hsplit]
          refine .zone (hextets_of_parseHextets hhs) (by simpa using hne) (notMem_of_splitChars scope hmem) ?_
          intro hc
          exact hslash (by simpa using (mem_splitChars (by decide)).mpr ⟨scope, hmem, hc⟩)
      · exact absurd hr (by simp)

theorem mem_showHextets {hs : List ℕ} {c : Char} (h : c ∈ showHextets hs) : c = ':' ∨ isHex c = true := by
  have htext : ∀ {l : List ℕ}, c ∈ [':'].intercalate (texts l) → c = ':' ∨ isHex c = true := by
    intro l hc
    rcases mem_intercalate hc with hc | ⟨p, hp, hc⟩
    · exact .inl hc
    · exact .inr (isHex_of_texts hp c hc)
  unfold showHextets at h
  dsimp only at h
  split at h
  · simp only [List.mem_append, List.mem_cons, List.not_mem_nil, or_false, or_self] at h
    rcases h with (h | h) | h
    · exact htext h
    · exact .inl h
    · exact htext h
  · exact htext h

theorem notMem_showHextets {hs : List ℕ} {c : Char} (hc : isHex c = false) (hne : c ≠ ':') :
    c ∉ showHextets hs := by
  intro h
  rcases mem_showHextets h with h | h
  · exact hne h
  · exact absurd h (by simp [hc])

/-- A character of the printed address that is not one of the format's own comes from what was read. -/
theorem notMem_show {s : String} {addr : Addr} {c : Char} (h : ipAddress s = some addr) (hhex : isHex c = false)
    (hother : c ∉ [':', '.', '%']) (hs' : c ∉ s.toList) : c ∉ addr.show.toList := by
  simp only [List.mem_cons, List.not_mem_nil, or_false, not_or] at hother
  have hhextets : ∀ hs : List ℕ, c ∉ showHextets hs := fun hs => notMem_showHextets hhex hother.1
  unfold ipAddress at h
  split at h
  · exact absurd h (by simp)
  · split at h
    · next os hos =>
      obtain rfl := Option.some.inj h
      unfold Addr.show
      rw [String.toList_ofList]
      intro hc
      rcases mem_intercalate hc with hc | ⟨p, hp, hc⟩
      · exact hother.2.1 hc
      · obtain ⟨o, ho, rfl⟩ := List.mem_map.mp hp
        have hdigit := isDigit_of_toDigits ((octets_of_parseV4 hos).2 o ho) c hc
        simp [isHex, isHexLower, hdigit] at hhex
    · obtain ⟨r, hr, rfl⟩ := Option.map_eq_some_iff.mp h
      unfold parseV6 at hr
      split at hr
      · obtain ⟨hs, hhs, rfl⟩ := Option.map_eq_some_iff.mp hr
        unfold Addr.show
        rw [String.toList_ofList]
        exact hhextets hs
      · next a scope hsplit =>
        split at hr
        · exact absurd hr (by simp)
        · obtain ⟨hs, hhs, rfl⟩ := Option.map_eq_some_iff.mp hr
          have hmem : scope ∈ splitChars '%' s.toList := by simp [hsplit]
          unfold Addr.show
          rw [String.toList_ofList, List.mem_append, List.mem_cons, not_or, not_or]
          exact ⟨hhextets hs, hother.2.2, fun hc => hs' ((mem_splitChars hother.2.2).mpr ⟨scope, hmem, hc⟩)⟩
      · exact absurd hr (by simp)

/-- A text with a `:` is not that of an IPv4 address. -/
theorem ipAddress_of_v6 {cs : List Char} {r : List ℕ × Option (List Char)} (hslash : '/' ∉ cs)
    (h : parseV6 cs = some r) : ipAddress (String.ofList cs) = some (.v6 r.1 r.2) := by
  have hnone : parseV4 cs = none := by
    cases h4 : parseV4 cs with
    | none => rfl
    | some os => exact absurd (colon_of_parseV6 h) (colon_of_parseV4 h4)
  unfold ipAddress
  rw [String.toList_ofList, if_neg (by simpa using hslash), hnone]
  dsimp only
  rw [h]
  rfl

/-- **What is printed is read back.** -/
theorem ipAddress_show {addr : Addr} (h : Valid addr) : ipAddress addr.show = some addr := by
  cases h with
  | @v4 os h =>
    have hslash : '/' ∉ ['.'].intercalate (os.map (Nat.toDigits 10)) := by
      intro hc
      rcases mem_intercalate hc with hc | ⟨p, hp, hc⟩
      · exact absurd hc (by decide)
      · obtain ⟨o, ho, rfl⟩ := List.mem_map.mp hp
        exact absurd (isDigit_of_toDigits (h.2 o ho) '/' hc) (by decide)
    unfold ipAddress Addr.show
    rw [String.toList_ofList, if_neg (by simpa using hslash), parseV4_show h]
  | @v6 hs h =>
    refine ipAddress_of_v6 (notMem_showHextets (by decide) (by decide)) (r := (hs, none)) ?_
    unfold parseV6
    rw [splitChars_of_notMem (notMem_showHextets (by decide) (by decide))]
    dsimp only
    rw [parseHextets_show h]
    rfl
  | @zone hs scope h hne hpercent hslash =>
    refine ipAddress_of_v6 (r := (hs, some scope)) ?_ ?_
    · rw [List.mem_append, List.mem_cons, not_or, not_or]
      exact ⟨notMem_showHextets (by decide) (by decide), by decide, hslash⟩
    · unfold parseV6
      rw [splitChars_append, splitChars_of_notMem (notMem_showHextets (by decide) (by decide)),
        splitChars_of_notMem hpercent, List.singleton_append]
      dsimp only
      rw [if_neg (by simpa using hne), parseHextets_show h]
      rfl

/-- An address that was read is printed in normal form. -/
theorem ipAddress_show_of_ipAddress {s : String} {addr : Addr} (h : ipAddress s = some addr) :
    ipAddress addr.show = some addr := ipAddress_show (valid_of_ipAddress h)

end Ip
