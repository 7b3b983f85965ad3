import Sbegw.Rf.Switch
import Sbegw.Lib.Binary64

/-!
# Blocks on 6 GHz

The channels 1, 5, 9, … fall into aligned blocks, one partition for each width.  `bonded_channels`,
`centre_channel` and `_centre_freq` find the block of a channel by divisions of their own; the last one
divides in floating point.
-/

namespace Sbegw.Rf

open Schema Hostapd Binary64

/-! ### The centre frequency -/

/-- `_centre_freq` with the quotient that `/` gives; `centreFreq` divides exactly. -/
def centreFreqFloat (channel : ℤ) (width : ℕ) (band : String) : Except Exn (Option ℤ) :=
  if width ≤ 20 then .ok (channelToFreq channel band)
  else
    let freqs := (frequencies (occupiedChannels channel width band) band).filter fun f => f ≠ 0
    if freqs.isEmpty then .ok none
    else
      match trueDiv freqs.sum freqs.length with
      | some q => .ok (some (truncate q))
      | none => .error (.other "integer division result too large for a float")

/-! ### The laws -/

/-- The widths of 6 GHz whose blocks are whole. -/
def blockWidths : List ℕ := [20, 40, 80, 160, 320]

/-- What the block of a channel is like, for one width. -/
structure BlockLaws (c : ℤ) (width : ℕ) : Prop where
  mem : c ∈ bondedChannels c width "6g"
  length : (bondedChannels c width "6g").length = width / 20
  spaced : (bondedChannels c width "6g").IsChain fun a b => b = a + 4
  partition : ∀ x ∈ bondedChannels c width "6g", bondedChannels x width "6g" = bondedChannels c width "6g"
  nested : 2 * width ∈ blockWidths → ∀ x ∈ bondedChannels c width "6g", x ∈ bondedChannels c (2 * width) "6g"
  /-- the segment-0 index is the midpoint -/
  centre : 80 ≤ width → ∃ centre, centreChannel c width "6g" = some centre ∧
    Midpoint centre (bondedChannels c width "6g")

/-! ### Aligned blocks -/

variable {c x : ℤ} {n : ℕ}

/-- The members of a block: channels with its index. -/
theorem mem_aligned_iff (hn : 0 < n) : x ∈ aligned c n ↔ x % 4 = 1 ∧ (x - 1) / 4 / n = (c - 1) / 4 / n := by
  rw [mem_aligned]
  have hpos : (0 : ℤ) < n := by omega
  constructor
  · rintro ⟨i, hi, rfl⟩
    have hindex : ((c - 1) / 4 / n * n * 4 + 1 + (i : ℤ) * 4 - 1) / 4 = (i : ℤ) + (c - 1) / 4 / n * n := by omega
    have hzero : (i : ℤ) / n = 0 := Int.ediv_eq_zero_of_lt (by omega) (by omega)
    rw [hindex, Int.add_mul_ediv_right _ _ hpos.ne', hzero]
    omega
  · rintro ⟨hmod, hindex⟩
    have hrange := Int.emod_add_mul_ediv ((x - 1) / 4) n
    have hlow := Int.emod_nonneg ((x - 1) / 4) hpos.ne'
    have hhigh := Int.emod_lt_of_pos ((x - 1) / 4) hpos
    refine ⟨((x - 1) / 4 % n).toNat, by omega, ?_⟩
    rw [← hindex, Int.toNat_of_nonneg hlow, mul_comm ((x - 1) / 4 / (n : ℤ))]
    omega

theorem aligned_eq (h : (x - 1) / 4 / n = (c - 1) / 4 / n) : aligned x n = aligned c n := by
  unfold aligned
  rw [h]

/-- `bonded_channels` of every width above 20. -/
theorem bondedChannels_6g {width : ℕ} (hwidth : 20 < width) : bondedChannels c width "6g" =
    if c % 4 = 1 then aligned c (widthSubchannels width) else [] := by
  have hself : (aligned c (widthSubchannels width)).contains c = true ↔ c % 4 = 1 := by
    rw [List.contains_iff_mem, mem_aligned_iff (widthSubchannels_pos width)]
    exact and_iff_left rfl
  have hwide : ¬ width ≤ 20 := by omega
  have hblock : bondedChannels c width "6g" =
      if (aligned c (widthSubchannels width)).contains c then aligned c (widthSubchannels width) else [] := by
    simp [bondedChannels, hwide, aligned, ← List.map_eq_flatMap, Function.comp_def]
  rw [hblock]
  exact if_congr hself rfl rfl

/-- A block lies in the block of twice as many channels. -/
theorem aligned_double (hn : 0 < n) : ∀ x ∈ aligned c n, x ∈ aligned c (2 * n) := by
  intro x hx
  obtain ⟨hmod, hindex⟩ := (mem_aligned_iff hn).mp hx
  refine (mem_aligned_iff (by omega)).mpr ⟨hmod, ?_⟩
  have hhalf : ∀ y : ℤ, y / ((2 * n : ℕ) : ℤ) = y / n / 2 := by
    intro y
    rw [Int.ediv_ediv_of_nonneg (by omega)]
    push_cast
    rw [mul_comm]
  rw [hhalf, hhalf, hindex]

theorem isChain_aligned (c : ℤ) (n : ℕ) : (aligned c n).IsChain fun a b => b = a + 4 := by
  unfold aligned
  rw [List.isChain_map, List.isChain_iff_getElem]
  intro i hi
  rw [List.getElem_range, List.getElem_range]
  push_cast
  ring

theorem midpoint_channels (c : ℤ) (hn : 0 < n) : Midpoint (blockStart c n + ((n : ℤ) - 1) * 2) (aligned c n) := by
  obtain ⟨m, rfl⟩ : ∃ m, n = m + 1 := ⟨n - 1, by omega⟩
  refine ⟨blockStart c (m + 1), ?_, blockStart c (m + 1) + (m : ℤ) * 4, ?_, ?_⟩
  · unfold aligned
    rw [List.head?_map, List.head?_range]
    simp [blockStart]
  · unfold aligned
    rw [List.getLast?_map, List.getLast?_range]
    simp [blockStart]
  · push_cast
    ring

/-- The segment-0 index is the middle of the block. -/
theorem centreChannel_6g {width : ℕ} (hwidth : width ∈ blockWidths) (hwide : 80 ≤ width) :
    centreChannel c width "6g" = some (blockStart c (widthSubchannels width) +
      ((widthSubchannels width : ℤ) - 1) * 2) := by
  simp only [blockWidths, List.mem_cons, List.not_mem_nil, or_false] at hwidth
  rcases hwidth with rfl | rfl | rfl | rfl | rfl
  · omega
  · omega
  · rfl
  · rfl
  · rfl

/-- `bonded_channels` of the widths that have whole blocks. -/
theorem bonded_of_blockWidths {width : ℕ} (hwidth : width ∈ blockWidths) (hc : c % 4 = 1) :
    bondedChannels c width "6g" = aligned c (widthSubchannels width) := by
  by_cases hwide : 20 < width
  · rw [bondedChannels_6g hwide, if_pos hc]
  · have htwenty : width = 20 := by
      simp only [blockWidths, List.mem_cons, List.not_mem_nil, or_false] at hwidth
      omega
    subst htwenty
    show [c] = [(c - 1) / 4 / ((1 : ℕ) : ℤ) * ((1 : ℕ) : ℤ) * 4 + 1 + ((0 : ℕ) : ℤ) * 4]
    rw [List.cons.injEq]
    exact ⟨by omega, rfl⟩

theorem widthSubchannels_eq {width : ℕ} (hwidth : width ∈ blockWidths) : widthSubchannels width = width / 20 := by
  simp only [blockWidths, List.mem_cons, List.not_mem_nil, or_false] at hwidth
  rcases hwidth with rfl | rfl | rfl | rfl | rfl <;> rfl

/-- **The blocks of one width partition the channels**, and the index is the middle of the block. -/
theorem blockLaws {width : ℕ} (hwidth : width ∈ blockWidths) (hc : c % 4 = 1) : BlockLaws c width := by
  have hpos := widthSubchannels_pos width
  have hblock := bonded_of_blockWidths hwidth hc
  refine ⟨?_, ?_, ?_, ?_, ?_, ?_⟩
  · rw [hblock]
    exact (mem_aligned_iff hpos).mpr ⟨hc, rfl⟩
  · rw [hblock, ← widthSubchannels_eq hwidth]
    unfold aligned
    rw [List.length_map, List.length_range]
  · rw [hblock]
    exact isChain_aligned c _
  · intro x hx
    rw [hblock] at hx ⊢
    obtain ⟨hmod, hindex⟩ := (mem_aligned_iff hpos).mp hx
    rw [bonded_of_blockWidths hwidth hmod, aligned_eq hindex]
  · intro hdouble x hx
    have hcount : widthSubchannels (2 * width) = 2 * widthSubchannels width := by
      rw [widthSubchannels_eq hdouble, widthSubchannels_eq hwidth]
      simp only [blockWidths, List.mem_cons, List.not_mem_nil, or_false] at hwidth
      omega
    rw [bonded_of_blockWidths hdouble hc, hcount]
    rw [hblock] at hx
    exact aligned_double hpos x hx
  · intro hwide
    refine ⟨_, centreChannel_6g hwidth hwide, ?_⟩
    rw [hblock]
    exact midpoint_channels c hpos

/-! ### The frequency of the centre -/

theorem centreFreqFloat_6g {width : ℕ} (hwidth : 20 < width) (centre : ℤ)
    (hcentre : centre = blockStart c (widthSubchannels width) + ((widthSubchannels width : ℤ) - 1) * 2) :
    centreFreqFloat c width "6g" = .ok (channelToFreq centre "6g") ↔
      (trueDiv (widthSubchannels width * (5950 + centre * 5)) (widthSubchannels width)).map truncate =
        some (5950 + centre * 5) := by
  have hpos := widthSubchannels_pos width
  have hwide : ¬ width ≤ 20 := by omega
  have hlength : (frequencies (aligned c (widthSubchannels width)) "6g").length = widthSubchannels width := by
    rw [frequencies_aligned, List.length_map, List.length_range]
  have hsum : (frequencies (aligned c (widthSubchannels width)) "6g").sum =
      widthSubchannels width * (5950 + centre * 5) := by
    rw [frequencies_aligned, sum_progression, hcentre]
    ring
  have hnonempty : ¬ (frequencies (aligned c (widthSubchannels width)) "6g").isEmpty = true := by
    rw [List.isEmpty_iff, ← List.length_eq_zero_iff, hlength]
    omega
  unfold centreFreqFloat
  rw [if_neg hwide, occupiedChannels_6g hwide]
  simp only [nonzero_aligned]
  rw [if_neg hnonempty, hlength, hsum, channelToFreq_6g]
  cases trueDiv (widthSubchannels width * (5950 + centre * 5)) (widthSubchannels width) with
  | none => simp
  | some q => simp

/-- **Blocks, centres and frequencies of 6 GHz**: `_centre_freq` is the frequency of the centre as far as
doubles go, and no other channel is bonded. -/
theorem block_arithmetic :
    (∀ c : ℤ, 1 ≤ c → c % 4 = 1 → ∀ width ∈ blockWidths, BlockLaws c width ∧
      ∀ centre, centreChannel c width "6g" = some centre →
        (centreFreqFloat c width "6g" = .ok (channelToFreq centre "6g") ↔ 5950 + centre * 5 ≤ 2 ^ 53)) ∧
    ∀ c : ℤ, c % 4 ≠ 1 → ∀ width : ℕ, 20 < width → bondedChannels c width "6g" = [] := by
  refine ⟨fun c hlow hc width hwidth => ⟨blockLaws hwidth hc, fun centre hcentre => ?_⟩, fun c hc width hwidth => ?_⟩
  · have hwide : 80 ≤ width := by
      by_contra hnarrow
      unfold centreChannel at hcentre
      rw [if_pos (by omega)] at hcentre
      cases hcentre
    have hindex := Option.some.inj (hcentre.symm.trans (centreChannel_6g hwidth hwide))
    have hpos := widthSubchannels_pos width
    rw [centreFreqFloat_6g (by omega) centre hindex]
    unfold blockStart at hindex
    have hstart : 0 ≤ (c - 1) / 4 / (widthSubchannels width : ℤ) * widthSubchannels width := by positivity
    refine truncate_trueDiv_iff (by omega) ?_ ?_
    · omega
    · omega
  · rw [bondedChannels_6g hwidth, if_neg hc]

/-- Far above all channels the quotient is rounded; below the first channel blocks go on. -/
theorem block_beyond : centreChannel 1801439850947009 80 "6g" = some 1801439850947015 ∧
    centreFreqFloat 1801439850947009 80 "6g" ≠ .ok (channelToFreq 1801439850947015 "6g") ∧
    bondedChannels (-3) 40 "6g" = [-7, -3] := by
  refine ⟨by decide, ?_, by decide⟩
  rw [ne_eq, centreFreqFloat_6g (by decide) 1801439850947015 (by decide),
    truncate_trueDiv_iff (by decide) (by decide) (by decide)]
  decide

end Sbegw.Rf
