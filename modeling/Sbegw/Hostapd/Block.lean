import Sbegw.Hostapd.Channels

/-!
# The validated block and the transmitted one

Validation looks at `bonded_channels`; what the lines of `_band_lines` describe is computed from other
tables.  The two are the same set of channels exactly when `RightBlock` holds.
-/

namespace Sbegw.Hostapd

open Text Schema

/-! ### The condition -/

/-- The bitmap that is rendered where EHT is on. -/
def bitmapOr (radio : Obj) (width : ℕ) : ℕ := (bitmapOf radio).getD (if width = 240 then eht240Bitmap else 0)

/-- Nothing of a block but the primary channel is punctured. -/
def Whole (caps : LinkCaps) (block : List ℤ) (bitmap : ℕ) (primary : ℤ) : Prop :=
  caps.eht = true → ∀ c ∈ punctured block bitmap, c = primary

instance (caps : LinkCaps) (block : List ℤ) (bitmap : ℕ) (primary : ℤ) :
    Decidable (Whole caps block bitmap primary) :=
  inferInstanceAs (Decidable (caps.eht = true → ∀ c ∈ punctured block bitmap, c = primary))

/-- The span of 240 MHz on 5 GHz. -/
def span240 : List ℤ := span eht240Centre 16

/-- **The condition**: the channel can host the width, and

* at 40 MHz below 6 GHz, HT is on and the channel is the lower one of its pair;
* at 80 and 160 MHz on 5 GHz, some generation beyond HT is on, the channel above the primary is in the
  block where HT is on, and nothing is punctured where EHT is;
* at 240 MHz, EHT is on, the channel is 116 or above, and the bitmap punctures the top four channels;
* on 6 GHz, nothing is punctured where EHT is on. -/
def RightBlock (radio : Obj) (caps : LinkCaps) (primary : ℤ) : Prop :=
  let band := bandOf radio
  let width := widthOf radio
  let block := bondedChannels primary width band
  let bitmap := bitmapOr radio width
  width = 20 ∨ primary ∈ block ∧
    if band = "6g" then 80 ≤ width → Whole caps block bitmap primary
    else if width = 40 then caps.ht = true ∧ primary + 4 ∈ block
    else if width = 240 then caps.eht = true ∧ 116 ≤ primary ∧
      ∀ c ∈ span240, c ≠ primary → (c ∈ punctured span240 bitmap ↔ 148 ≤ c)
    else (caps.vht = true ∨ caps.he = true ∨ caps.eht = true) ∧
      (caps.ht = true → primary + 4 ∈ block) ∧ Whole caps block bitmap primary

instance (radio : Obj) (caps : LinkCaps) (primary : ℤ) : Decidable (RightBlock radio caps primary) :=
  inferInstanceAs (Decidable (_ ∨ _ ∧ _))

/-! ### What each generation describes -/

/-- What VHT and HE describe where they are on. -/
def legacyBlock (primary : ℤ) (width : ℕ) (band : String) : List ℤ :=
  operChannels (some (heChwidth width)) (seg0He primary width band)

/-- What EHT describes where it is on. -/
def ehtBlock (primary : ℤ) (width : ℕ) (band : String) : List ℤ :=
  operChannels (some (ehtChwidth width)) (seg0Eht primary width band)

theorem value?_bandLines (key : String) (radio : Obj) (caps : LinkCaps) :
    value? key (bandLines radio caps) =
      ((((((value? key (modeLines radio (bandOf radio) (widthOf radio))).or
        (value? key (channelLines radio caps))).or
        (value? key (htLines caps (widthOf radio) (bandOf radio)))).or
        (value? key (vhtLines caps (renderedChannel radio caps) (widthOf radio) (bandOf radio)))).or
        (value? key (heLines radio caps (renderedChannel radio caps) (widthOf radio) (bandOf radio)))).or
        (value? key (ehtLines radio caps (renderedChannel radio caps) (widthOf radio) (bandOf radio)))).or
        (value? key (tailLines radio (bandOf radio))) := by
  simp only [bandLines, value?_append]

section Keys

variable (radio : Obj) (caps : LinkCaps) {key : String}

theorem value?_mode (h : key ∈ modeKeys) : value? key (bandLines radio caps) =
    value? key (modeLines radio (bandOf radio) (widthOf radio)) := by
  have hnot : ∀ key ∈ modeKeys, key ∉ ["channel"] ∧ key ∉ htKeys ∧ key ∉ vhtKeys ∧ key ∉ heKeys ∧
      key ∉ ehtKeys ∧ key ∉ tailKeys := by decide
  obtain ⟨h₁, h₂, h₃, h₄, h₅, h₆⟩ := hnot key h
  rw [value?_bandLines, value?_of_sets (sets_channelLines _ _) h₁, value?_of_sets (sets_htLines _ _ _) h₂,
    value?_of_sets (sets_vhtLines _ _ _ _) h₃, value?_of_sets (sets_heLines _ _ _ _ _) h₄,
    value?_of_sets (sets_ehtLines _ _ _ _ _) h₅, value?_of_sets (sets_tailLines _ _) h₆]
  simp only [Option.or_none]

theorem value?_channel : value? "channel" (bandLines radio caps) =
    value? "channel" (channelLines radio caps) := by
  rw [value?_bandLines, value?_of_sets (sets_modeLines _ _ _) (by decide),
    value?_of_sets (sets_htLines _ _ _) (by decide), value?_of_sets (sets_vhtLines _ _ _ _) (by decide),
    value?_of_sets (sets_heLines _ _ _ _ _) (by decide), value?_of_sets (sets_ehtLines _ _ _ _ _) (by decide),
    value?_of_sets (sets_tailLines _ _) (by decide)]
  simp only [Option.or_none, Option.none_or]

theorem value?_ht (h : key ∈ htKeys) : value? key (bandLines radio caps) =
    value? key (htLines caps (widthOf radio) (bandOf radio)) := by
  have hnot : ∀ key ∈ htKeys, key ∉ modeKeys ∧ key ∉ ["channel"] ∧ key ∉ vhtKeys ∧ key ∉ heKeys ∧
      key ∉ ehtKeys ∧ key ∉ tailKeys := by decide
  obtain ⟨h₁, h₂, h₃, h₄, h₅, h₆⟩ := hnot key h
  rw [value?_bandLines, value?_of_sets (sets_modeLines _ _ _) h₁, value?_of_sets (sets_channelLines _ _) h₂,
    value?_of_sets (sets_vhtLines _ _ _ _) h₃, value?_of_sets (sets_heLines _ _ _ _ _) h₄,
    value?_of_sets (sets_ehtLines _ _ _ _ _) h₅, value?_of_sets (sets_tailLines _ _) h₆]
  simp only [Option.or_none, Option.none_or]

theorem value?_vht (h : key ∈ vhtKeys) : value? key (bandLines radio caps) =
    value? key (vhtLines caps (renderedChannel radio caps) (widthOf radio) (bandOf radio)) := by
  have hnot : ∀ key ∈ vhtKeys, key ∉ modeKeys ∧ key ∉ ["channel"] ∧ key ∉ htKeys ∧ key ∉ heKeys ∧
      key ∉ ehtKeys ∧ key ∉ tailKeys := by decide
  obtain ⟨h₁, h₂, h₃, h₄, h₅, h₆⟩ := hnot key h
  rw [value?_bandLines, value?_of_sets (sets_modeLines _ _ _) h₁, value?_of_sets (sets_channelLines _ _) h₂,
    value?_of_sets (sets_htLines _ _ _) h₃, value?_of_sets (sets_heLines _ _ _ _ _) h₄,
    value?_of_sets (sets_ehtLines _ _ _ _ _) h₅, value?_of_sets (sets_tailLines _ _) h₆]
  simp only [Option.or_none, Option.none_or]

theorem value?_he (h : key ∈ heKeys) : value? key (bandLines radio caps) =
    value? key (heLines radio caps (renderedChannel radio caps) (widthOf radio) (bandOf radio)) := by
  have hnot : ∀ key ∈ heKeys, key ∉ modeKeys ∧ key ∉ ["channel"] ∧ key ∉ htKeys ∧ key ∉ vhtKeys ∧
      key ∉ ehtKeys ∧ key ∉ tailKeys := by decide
  obtain ⟨h₁, h₂, h₃, h₄, h₅, h₆⟩ := hnot key h
  rw [value?_bandLines, value?_of_sets (sets_modeLines _ _ _) h₁, value?_of_sets (sets_channelLines _ _) h₂,
    value?_of_sets (sets_htLines _ _ _) h₃, value?_of_sets (sets_vhtLines _ _ _ _) h₄,
    value?_of_sets (sets_ehtLines _ _ _ _ _) h₅, value?_of_sets (sets_tailLines _ _) h₆]
  simp only [Option.or_none, Option.none_or]

theorem value?_eht (h : key ∈ ehtKeys) : value? key (bandLines radio caps) =
    value? key (ehtLines radio caps (renderedChannel radio caps) (widthOf radio) (bandOf radio)) := by
  have hnot : ∀ key ∈ ehtKeys, key ∉ modeKeys ∧ key ∉ ["channel"] ∧ key ∉ htKeys ∧ key ∉ vhtKeys ∧
      key ∉ heKeys ∧ key ∉ tailKeys := by decide
  obtain ⟨h₁, h₂, h₃, h₄, h₅, h₆⟩ := hnot key h
  rw [value?_bandLines, value?_of_sets (sets_modeLines _ _ _) h₁, value?_of_sets (sets_channelLines _ _) h₂,
    value?_of_sets (sets_htLines _ _ _) h₃, value?_of_sets (sets_vhtLines _ _ _ _) h₄,
    value?_of_sets (sets_heLines _ _ _ _ _) h₅, value?_of_sets (sets_tailLines _ _) h₆]
  simp only [Option.or_none, Option.none_or]

end Keys

/-! ### The channels, generation by generation -/

/-- The secondary channel where HT is on. -/
def htPart (caps : LinkCaps) (primary : ℤ) (width : ℕ) (band : String) : List ℤ :=
  if band ≠ "6g" ∧ caps.ht ∧ 40 ≤ width then [primary + 4] else []

def vhtPart (caps : LinkCaps) (primary : ℤ) (width : ℕ) (band : String) : List ℤ :=
  if band ≠ "6g" ∧ caps.vht ∧ band ≠ "2g" then legacyBlock primary width band else []

def hePart (caps : LinkCaps) (primary : ℤ) (width : ℕ) (band : String) : List ℤ :=
  if caps.he ∧ band ≠ "2g" then legacyBlock primary width band else []

def ehtPart (caps : LinkCaps) (primary : ℤ) (width : ℕ) (band : String) : List ℤ :=
  if caps.eht ∧ band ≠ "2g" then ehtBlock primary width band else []

def classPart (primary : ℤ) (width : ℕ) (band : String) : List ℤ :=
  if band = "6g" then classChannels (some (sixGhzOpClass width)) primary else []

@[simp] theorem punctured_nil (bitmap : ℕ) : punctured [] bitmap = [] := rfl

@[simp] theorem operChannels_none (chwidth : Option ℤ) : operChannels chwidth none = [] := rfl

theorem int?_channel (radio : Obj) (caps : LinkCaps) :
    int? "channel" (bandLines radio caps) = some (renderedChannel radio caps) := by
  unfold int?
  rw [value?_channel]
  unfold channelLines
  by_cases hauto : (channelOf radio).isNone = true
  · simp [hauto, value?]
  · simp [hauto, value?]

theorem ht_described (radio : Obj) (caps : LinkCaps) (primary : ℤ) :
    htChannels (value? "ht_capab" (bandLines radio caps)) primary =
      htPart caps primary (widthOf radio) (bandOf radio) := by
  rw [value?_ht _ _ (by decide)]
  have hplus : isInfixOf "[HT40+]" ht40Capab = true := by decide
  have hshort : isInfixOf "[HT40+]" "[SHORT-GI-20]" = false := by decide
  have hminus : isInfixOf "[HT40-]" "[SHORT-GI-20]" = false := by decide
  unfold htLines htPart
  by_cases hon : bandOf radio ≠ "6g" ∧ caps.ht
  · rw [if_pos hon]
    by_cases hwidth : 40 ≤ widthOf radio
    · simp [value?, hon.1, hon.2, hwidth, htChannels, hplus]
    · simp [value?, hwidth, htChannels, hshort, hminus]
  · rw [if_neg hon, if_neg fun h => hon ⟨h.1, h.2.1⟩]
    rfl

theorem vht_described (radio : Obj) (caps : LinkCaps) :
    operChannels (int? "vht_oper_chwidth" (bandLines radio caps))
      (int? "vht_oper_centr_freq_seg0_idx" (bandLines radio caps)) =
      vhtPart caps (renderedChannel radio caps) (widthOf radio) (bandOf radio) := by
  unfold int?
  rw [value?_vht _ _ (by decide), value?_vht _ _ (by decide)]
  unfold vhtLines vhtPart legacyBlock
  by_cases hon : bandOf radio ≠ "6g" ∧ caps.vht = true ∧ bandOf radio ≠ "2g"
  · rw [if_pos hon, if_pos hon]
    cases seg0He (renderedChannel radio caps) (widthOf radio) (bandOf radio) with
    | none => simp [value?, centreLine]
    | some centre => simp [value?, centreLine]
  · rw [if_neg hon, if_neg hon]
    rfl

theorem he_described (radio : Obj) (caps : LinkCaps) :
    operChannels (int? "he_oper_chwidth" (bandLines radio caps))
      (int? "he_oper_centr_freq_seg0_idx" (bandLines radio caps)) =
      hePart caps (renderedChannel radio caps) (widthOf radio) (bandOf radio) := by
  unfold int?
  rw [value?_he _ _ (by decide), value?_he _ _ (by decide)]
  unfold heLines hePart legacyBlock
  by_cases hon : caps.he = true
  · by_cases hband : bandOf radio = "2g"
    · by_cases hcolour : field radio "bss_color" .null = .null
      · simp [value?, hon, hband, hcolour]
      · simp [value?, hon, hband, hcolour]
    · cases seg0He (renderedChannel radio caps) (widthOf radio) (bandOf radio) with
      | none =>
        by_cases hcolour : field radio "bss_color" .null = .null
        · simp [value?, hon, hband, hcolour, centreLine]
        · simp [value?, hon, hband, hcolour, centreLine]
      | some centre => simp [value?, hon, hband, centreLine]
  · simp [value?, hon]

theorem value?_bitmapLine {radio : Obj} {width : ℕ} {key : String} (h : key ≠ "punct_bitmap") :
    value? key (bitmapLine radio width) = none := by
  have hsets : Sets ["punct_bitmap"] (bitmapLine radio width) :=
    fun k v hk => List.mem_singleton.mpr (mem_bitmapLine hk)
  exact value?_of_sets hsets (by simpa using h)

theorem eht_described (radio : Obj) (caps : LinkCaps) :
    operChannels (int? "eht_oper_chwidth" (bandLines radio caps))
      (int? "eht_oper_centr_freq_seg0_idx" (bandLines radio caps)) =
      ehtPart caps (renderedChannel radio caps) (widthOf radio) (bandOf radio) := by
  unfold int?
  rw [value?_eht _ _ (by decide), value?_eht _ _ (by decide)]
  unfold ehtLines ehtPart ehtBlock
  by_cases hon : caps.eht = true
  · have hchwidth : value? "eht_oper_chwidth" (bitmapLine radio (widthOf radio)) = none :=
      value?_bitmapLine (by decide)
    have hcentre : value? "eht_oper_centr_freq_seg0_idx" (bitmapLine radio (widthOf radio)) = none :=
      value?_bitmapLine (by decide)
    rw [if_pos hon, ← List.singleton_append]
    simp only [value?_append, hchwidth, hcentre]
    by_cases hband : bandOf radio = "2g"
    · simp [value?, hband]
    · cases seg0Eht (renderedChannel radio caps) (widthOf radio) (bandOf radio) with
      | none => simp [value?, hon, hband, centreLine]
      | some centre => simp [value?, hon, hband, centreLine]
  · simp [value?, hon]

theorem class_described (radio : Obj) (caps : LinkCaps) (primary : ℤ) :
    classChannels (int? "op_class" (bandLines radio caps)) primary =
      classPart primary (widthOf radio) (bandOf radio) := by
  unfold int?
  rw [value?_mode _ _ (by decide)]
  unfold modeLines classPart
  by_cases hband : bandOf radio = "6g"
  · simp [value?, hband]
  · simp [value?, hband, classChannels]

theorem bitmap_described (radio : Obj) (caps : LinkCaps) (hon : caps.eht = true) :
    bitmapValue (value? "punct_bitmap" (bandLines radio caps)) = bitmapOr radio (widthOf radio) := by
  have hline : value? "punct_bitmap" (ehtLines radio caps (renderedChannel radio caps) (widthOf radio)
      (bandOf radio)) = value? "punct_bitmap" (bitmapLine radio (widthOf radio)) := by
    unfold ehtLines
    rw [if_pos hon]
    by_cases hband : bandOf radio = "2g"
    · simp [value?, hband]
    · cases seg0Eht (renderedChannel radio caps) (widthOf radio) (bandOf radio) with
      | none => simp [value?, hband, centreLine]
      | some centre => simp [value?, hband, centreLine]
  rw [value?_eht _ _ (by decide), hline]
  unfold bitmapLine bitmapOr
  by_cases hwidth : widthOf radio = 240
  · simp [hwidth, value?, bitmapValue]
  · cases bitmapOf radio with
    | none => simp [hwidth, value?, bitmapValue]
    | some b => simp [hwidth, value?, bitmapValue]

/-- The channels that the lines describe. -/
theorem described_bandLines (radio : Obj) (caps : LinkCaps) :
    described (bandLines radio caps) =
      let primary := renderedChannel radio caps
      let width := widthOf radio
      let band := bandOf radio
      let out := punctured (ehtPart caps primary width band) (bitmapOr radio width)
      primary :: (htPart caps primary width band ++ vhtPart caps primary width band ++
        hePart caps primary width band ++ ehtPart caps primary width band ++
        classPart primary width band).filter fun c => !out.contains c := by
  unfold described
  rw [int?_channel]
  simp only [ht_described, vht_described, he_described, eht_described, class_described]
  by_cases hon : caps.eht = true
  · rw [bitmap_described radio caps hon]
  · have hnil : ehtPart caps (renderedChannel radio caps) (widthOf radio) (bandOf radio) = [] := by
      unfold ehtPart
      exact if_neg fun h => hon h.1
    simp only [hnil, punctured_nil]

end Sbegw.Hostapd
