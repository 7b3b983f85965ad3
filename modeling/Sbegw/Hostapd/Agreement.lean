import Sbegw.Hostapd.Block
import Sbegw.Schema.Wireless
import Sbegw.Netd

/-!
# When the two blocks agree

For each width the channels of `described_bandLines` are compared with `bondedChannels`, a channel at a
time: the primary channel is in both, and the others have to be in both or in neither.
-/

namespace Sbegw.Hostapd

open Text Schema

/-- A radio as validation leaves it. -/
structure RadioOk (radio : Obj) : Prop where
  band : bandOf radio ∈ bandNames
  width : widthOf radio ∈ widths
  wide320 : widthOf radio = 320 → bandOf radio = "6g"
  wide240 : widthOf radio = 240 → bandOf radio = "5g"
  narrow : bandOf radio = "2g" → widthOf radio ≤ 40

/-! ### A channel at a time -/

theorem mem_punctured {x : ℤ} {spanned : List ℤ} {bitmap : ℕ} (h : x ∈ punctured spanned bitmap) :
    x ∈ spanned := by
  unfold punctured at h
  obtain ⟨e, he, rfl⟩ := List.mem_map.mp h
  exact List.fst_mem_of_mem_zipIdx (List.mem_filter.mp he).1

section Compare

variable {c : ℤ} {parts block out : List ℤ}

theorem same_iff (hc : c ∈ block) :
    SameChannels (c :: parts.filter fun x => !out.contains x) block ↔
      ∀ x, x ≠ c → ((x ∈ parts ∧ x ∉ out) ↔ x ∈ block) := by
  have hmem : ∀ x, x ∈ (parts.filter fun x => !out.contains x) ↔ x ∈ parts ∧ x ∉ out := by
    intro x
    rw [List.mem_filter]
    simp
  constructor
  · intro h x hx
    constructor
    · intro hp
      exact h.1 x (List.mem_cons_of_mem _ ((hmem x).mpr hp))
    · intro hb
      rcases List.mem_cons.mp (h.2 x hb) with heq | hf
      · exact absurd heq hx
      · exact (hmem x).mp hf
  · intro h
    constructor
    · intro x hx
      rcases List.mem_cons.mp hx with rfl | hf
      · exact hc
      · by_cases heq : x = c
        · rw [heq]
          exact hc
        · exact (h x heq).mp ((hmem x).mp hf)
    · intro x hx
      by_cases heq : x = c
      · rw [heq]
        exact List.mem_cons_self
      · exact List.mem_cons_of_mem _ ((hmem x).mpr ((h x heq).mpr hx))

theorem not_same (hc : c ∉ block) : ¬SameChannels (c :: parts) block :=
  fun h => hc (h.1 c List.mem_cons_self)

/-- Parts that cover the block and, with HT, one channel more. -/
theorem same_covering {extra : ℤ} {ht : Prop} (hc : c ∈ block) (hextra : extra ≠ c)
    (hparts : ∀ x, x ∈ parts ↔ x ∈ block ∨ ht ∧ x = extra) (hout : ∀ x ∈ out, x ∈ block) :
    SameChannels (c :: parts.filter fun x => !out.contains x) block ↔
      (ht → extra ∈ block) ∧ ∀ x ∈ out, x = c := by
  rw [same_iff hc]
  constructor
  · intro h
    constructor
    · intro hht
      by_contra hnot
      exact hnot ((h extra hextra).mp ⟨(hparts extra).mpr (.inr ⟨hht, rfl⟩), fun ho => hnot (hout extra ho)⟩)
    · intro x hx
      by_contra hne
      exact ((h x hne).mpr (hout x hx)).2 hx
  · rintro ⟨hin, honly⟩ x hx
    constructor
    · rintro ⟨hp, -⟩
      rcases (hparts x).mp hp with hb | ⟨hht, rfl⟩
      · exact hb
      · exact hin hht
    · intro hb
      exact ⟨(hparts x).mpr (.inl hb), fun ho => hx (honly x ho)⟩

/-- Parts that leave a channel of the block out. -/
theorem not_same_missing {x : ℤ} (hc : c ∈ block) (hx : x ∈ block) (hne : x ≠ c) (hmiss : x ∉ parts) :
    ¬SameChannels (c :: parts.filter fun x => !out.contains x) block := by
  rw [same_iff hc]
  intro h
  exact hmiss ((h x hne).mpr hx).1

end Compare

/-! ### 20 and 40 MHz -/

theorem operChannels_zero (centre : Option ℤ) : operChannels (some 0) centre = [] := by
  cases centre with
  | none => rfl
  | some centre => rfl

theorem legacyBlock_narrow {c : ℤ} {width : ℕ} {band : String} (h : heChwidth width = 0) :
    legacyBlock c width band = [] := by
  unfold legacyBlock
  rw [h]
  exact operChannels_zero _

theorem ehtBlock_narrow {c : ℤ} {width : ℕ} {band : String} (h : ehtChwidth width = 0) :
    ehtBlock c width band = [] := by
  unfold ehtBlock
  rw [h]
  exact operChannels_zero _

theorem vhtPart_narrow {caps : LinkCaps} {c : ℤ} {width : ℕ} {band : String} (h : heChwidth width = 0) :
    vhtPart caps c width band = [] := by
  unfold vhtPart
  rw [legacyBlock_narrow h]
  exact ite_self _

theorem hePart_narrow {caps : LinkCaps} {c : ℤ} {width : ℕ} {band : String} (h : heChwidth width = 0) :
    hePart caps c width band = [] := by
  unfold hePart
  rw [legacyBlock_narrow h]
  exact ite_self _

theorem ehtPart_narrow {caps : LinkCaps} {c : ℤ} {width : ℕ} {band : String} (h : ehtChwidth width = 0) :
    ehtPart caps c width band = [] := by
  unfold ehtPart
  rw [ehtBlock_narrow h]
  exact ite_self _

/-- All the generations. -/
def parts (caps : LinkCaps) (c : ℤ) (width : ℕ) (band : String) : List ℤ :=
  htPart caps c width band ++ vhtPart caps c width band ++ hePart caps c width band ++
    ehtPart caps c width band ++ classPart c width band

/-- The two sets of channels of a radio. -/
def Agrees (caps : LinkCaps) (c : ℤ) (width : ℕ) (band : String) (bitmap : ℕ) : Prop :=
  SameChannels
    (c :: (parts caps c width band).filter fun x => !(punctured (ehtPart caps c width band) bitmap).contains x)
    (bondedChannels c width band)

section Widths

variable {caps : LinkCaps} {c : ℤ} {bitmap : ℕ}

theorem mem_htPart {x : ℤ} {width : ℕ} {band : String} (hband : band ≠ "6g") (hwidth : 40 ≤ width) :
    x ∈ htPart caps c width band ↔ caps.ht = true ∧ x = c + 4 := by
  unfold htPart
  by_cases hht : caps.ht = true
  · simp [hht, hband, hwidth]
  · simp [hht]

theorem agrees_20 {band : String} : Agrees caps c 20 band bitmap := by
  have hparts : parts caps c 20 band = [] := by
    unfold parts
    rw [vhtPart_narrow rfl, hePart_narrow rfl, ehtPart_narrow rfl]
    have hht : htPart caps c 20 band = [] := if_neg fun h => absurd h.2.2 (by decide)
    have hclass : classPart c 20 band = [] := by
      unfold classPart
      exact ite_self _
    rw [hht, hclass]
    rfl
  have hblock : bondedChannels c 20 band = [c] := by
    unfold bondedChannels
    simp
  unfold Agrees
  rw [hparts, hblock]
  exact ⟨fun x hx => hx, fun x hx => hx⟩

/-- Below 6 GHz HT describes 40 MHz, and nothing else does. -/
theorem parts_40 {band : String} (hband : band ≠ "6g") : parts caps c 40 band = htPart caps c 40 band := by
  unfold parts classPart
  rw [vhtPart_narrow rfl, hePart_narrow rfl, ehtPart_narrow rfl, if_neg hband]
  simp only [List.append_nil]

theorem agrees_40 {band : String} (hband : band ≠ "6g")
    (hpair : c ∈ bondedChannels c 40 band →
      c + 4 ∈ bondedChannels c 40 band ∧ (∀ x ∈ bondedChannels c 40 band, x = c ∨ x = c + 4) ∨
        c + 4 ∉ bondedChannels c 40 band ∧ c - 4 ∈ bondedChannels c 40 band) :
    Agrees caps c 40 band bitmap ↔
      c ∈ bondedChannels c 40 band ∧ caps.ht = true ∧ c + 4 ∈ bondedChannels c 40 band := by
  have hne : c + 4 ≠ c := by omega
  have hmem : ∀ x, x ∈ parts caps c 40 band ↔ caps.ht = true ∧ x = c + 4 := by
    intro x
    rw [parts_40 hband]
    exact mem_htPart hband le_rfl
  unfold Agrees
  rw [ehtPart_narrow rfl, punctured_nil]
  by_cases hc : c ∈ bondedChannels c 40 band
  · rw [same_iff hc]
    rcases hpair hc with ⟨hup, hall⟩ | ⟨hup, hdown⟩
    · constructor
      · intro h
        have hht := ((h (c + 4) hne).mpr hup).1
        exact ⟨hc, ((hmem _).mp hht).1, hup⟩
      · rintro ⟨-, hht, -⟩ x hx
        rw [hmem]
        constructor
        · rintro ⟨⟨-, rfl⟩, -⟩
          exact hup
        · intro hxb
          rcases hall x hxb with rfl | rfl
          · exact absurd rfl hx
          · exact ⟨⟨hht, rfl⟩, List.not_mem_nil⟩
    · constructor
      · intro h
        have hlow := ((h (c - 4) (by omega)).mpr hdown).1
        have heq := ((hmem _).mp hlow).2
        omega
      · rintro ⟨-, -, hin⟩
        exact absurd hin hup
  · constructor
    · exact fun h => absurd h (not_same hc)
    · exact fun h => absurd h.1 hc

/-- A pair of 2.4 GHz is the channel and the one above it. -/
theorem agrees_40_2g : Agrees caps c 40 "2g" bitmap ↔
    c ∈ bondedChannels c 40 "2g" ∧ caps.ht = true ∧ c + 4 ∈ bondedChannels c 40 "2g" := by
  refine agrees_40 (by decide) fun hc => .inl ?_
  have hblock : bondedChannels c 40 "2g" = if c + 4 ≤ 14 then [c, c + 4] else [] := by
    simp [bondedChannels]
  rw [hblock] at hc ⊢
  split at hc
  · rename_i hle
    rw [if_pos hle]
    simp
  · exact absurd hc List.not_mem_nil

theorem mem_block5g {width : ℕ} (hwidth : ¬width ≤ 20) (hc : c ∈ bondedChannels c width "5g") :
    bondedChannels c width "5g" ∈ blocks5g width := by
  have hblock : bondedChannels c width "5g" = ((blocks5g width).find? (·.contains c)).getD [] := by
    simp [bondedChannels, hwidth]
  rw [hblock] at hc ⊢
  cases hfind : (blocks5g width).find? (·.contains c) with
  | none =>
    rw [hfind] at hc
    exact absurd hc List.not_mem_nil
  | some block => exact List.mem_of_find?_eq_some hfind

theorem agrees_40_5g : Agrees caps c 40 "5g" bitmap ↔
    c ∈ bondedChannels c 40 "5g" ∧ caps.ht = true ∧ c + 4 ∈ bondedChannels c 40 "5g" := by
  have hpairs : ∀ block ∈ blocks5g 40, ∀ c ∈ block,
      c + 4 ∈ block ∧ (∀ x ∈ block, x = c ∨ x = c + 4) ∨ c + 4 ∉ block ∧ c - 4 ∈ block := by decide
  exact agrees_40 (by decide) fun hc => hpairs _ (mem_block5g (by decide) hc) c hc

/-! ### 80 MHz and more on 5 GHz -/

theorem mem_vhtPart {x : ℤ} {width : ℕ} :
    x ∈ vhtPart caps c width "5g" ↔ caps.vht = true ∧ x ∈ legacyBlock c width "5g" := by
  unfold vhtPart
  by_cases hon : caps.vht = true
  · simp [hon]
  · simp [hon]

theorem mem_hePart {x : ℤ} {width : ℕ} {band : String} (hband : band ≠ "2g") :
    x ∈ hePart caps c width band ↔ caps.he = true ∧ x ∈ legacyBlock c width band := by
  unfold hePart
  by_cases hon : caps.he = true
  · simp [hon, hband]
  · simp [hon]

theorem mem_ehtPart {x : ℤ} {width : ℕ} {band : String} (hband : band ≠ "2g") :
    x ∈ ehtPart caps c width band ↔ caps.eht = true ∧ x ∈ ehtBlock c width band := by
  unfold ehtPart
  by_cases hon : caps.eht = true
  · simp [hon, hband]
  · simp [hon]

theorem mem_parts_5g {x : ℤ} {width : ℕ} (hwidth : 40 ≤ width) :
    x ∈ parts caps c width "5g" ↔ (caps.ht = true ∧ x = c + 4) ∨
      ((caps.vht = true ∨ caps.he = true) ∧ x ∈ legacyBlock c width "5g") ∨
      (caps.eht = true ∧ x ∈ ehtBlock c width "5g") := by
  have hclass : classPart c width "5g" = [] := if_neg (by decide)
  unfold parts
  rw [hclass, List.append_nil, List.mem_append, List.mem_append, List.mem_append,
    mem_htPart (by decide) hwidth, mem_vhtPart, mem_hePart (by decide), mem_ehtPart (by decide)]
  tauto

theorem punctured_ehtPart {width : ℕ} {band : String} (hband : band ≠ "2g") (on : caps.eht = true) :
    punctured (ehtPart caps c width band) bitmap = punctured (ehtBlock c width band) bitmap := by
  unfold ehtPart
  rw [if_pos ⟨on, hband⟩]

theorem ehtPart_off {width : ℕ} {band : String} (hoff : ¬caps.eht = true) : ehtPart caps c width band = [] := by
  unfold ehtPart
  exact if_neg fun h => hoff h.1

/-- `Whole`, in terms of what EHT describes. -/
theorem whole_iff {width : ℕ} {band : String} {block : List ℤ} (hband : band ≠ "2g")
    (heht : ehtBlock c width band = block) :
    (∀ x ∈ punctured (ehtPart caps c width band) bitmap, x = c) ↔ Whole caps block bitmap c := by
  unfold Whole
  by_cases hon : caps.eht = true
  · rw [punctured_ehtPart hband hon, heht]
    exact ⟨fun h _ => h, fun h => h hon⟩
  · rw [ehtPart_off hon, punctured_nil]
    exact ⟨fun _ h => absurd h hon, fun _ x hx => absurd hx List.not_mem_nil⟩

theorem out_subset {width : ℕ} {band : String} {block : List ℤ} (hband : band ≠ "2g")
    (heht : ehtBlock c width band = block) :
    ∀ x ∈ punctured (ehtPart caps c width band) bitmap, x ∈ block := by
  intro x hx
  have hmem := (mem_ehtPart hband).mp (mem_punctured hx)
  rw [heht] at hmem
  exact hmem.2

/-- Where every generation describes the validated block. -/
theorem agrees_wide_5g {width : ℕ} (hwidth : 40 < width)
    (hblocks : ∀ block ∈ blocks5g width, ∀ c ∈ block,
      legacyBlock c width "5g" = block ∧ ehtBlock c width "5g" = block ∧ ∃ x ∈ block, x ≠ c ∧ x ≠ c + 4) :
    Agrees caps c width "5g" bitmap ↔ c ∈ bondedChannels c width "5g" ∧
      (caps.vht = true ∨ caps.he = true ∨ caps.eht = true) ∧
      (caps.ht = true → c + 4 ∈ bondedChannels c width "5g") ∧
      Whole caps (bondedChannels c width "5g") bitmap c := by
  by_cases hc : c ∈ bondedChannels c width "5g"
  · obtain ⟨hlegacy, heht, x, hx, hxc, hx4⟩ := hblocks _ (mem_block5g (by omega) hc) c hc
    have hmem : ∀ y, y ∈ parts caps c width "5g" ↔ (caps.ht = true ∧ y = c + 4) ∨
        ((caps.vht = true ∨ caps.he = true ∨ caps.eht = true) ∧ y ∈ bondedChannels c width "5g") := by
      intro y
      rw [mem_parts_5g (by omega), hlegacy, heht]
      tauto
    by_cases hon : caps.vht = true ∨ caps.he = true ∨ caps.eht = true
    · have hcover : Agrees caps c width "5g" bitmap ↔ (caps.ht = true → c + 4 ∈ bondedChannels c width "5g") ∧
          ∀ x ∈ punctured (ehtPart caps c width "5g") bitmap, x = c := by
        refine same_covering hc (by omega) (fun y => ?_) (out_subset (by decide) heht)
        rw [hmem]
        tauto
      rw [hcover, whole_iff (by decide) heht]
      tauto
    · have hmiss : x ∉ parts caps c width "5g" := by
        rw [hmem]
        tauto
      constructor
      · exact fun h => absurd h (not_same_missing hc hx hxc hmiss)
      · exact fun h => absurd h.2.1 hon
  · constructor
    · exact fun h => absurd h (not_same hc)
    · exact fun h => absurd h.1 hc

theorem agrees_80_5g : Agrees caps c 80 "5g" bitmap ↔ c ∈ bondedChannels c 80 "5g" ∧
    (caps.vht = true ∨ caps.he = true ∨ caps.eht = true) ∧
    (caps.ht = true → c + 4 ∈ bondedChannels c 80 "5g") ∧
    Whole caps (bondedChannels c 80 "5g") bitmap c :=
  agrees_wide_5g (by decide) (by decide)

theorem agrees_160_5g : Agrees caps c 160 "5g" bitmap ↔ c ∈ bondedChannels c 160 "5g" ∧
    (caps.vht = true ∨ caps.he = true ∨ caps.eht = true) ∧
    (caps.ht = true → c + 4 ∈ bondedChannels c 160 "5g") ∧
    Whole caps (bondedChannels c 160 "5g") bitmap c :=
  agrees_wide_5g (by decide) (by decide)

theorem legacyBlock_240 : legacyBlock c 240 "5g" = span eht240HeCentre 8 := by
  simp [legacyBlock, seg0He, heChwidth, operChannels]

theorem ehtBlock_240 : ehtBlock c 240 "5g" = span240 := by
  simp [ehtBlock, seg0Eht, ehtChwidth, operChannels, span240]

theorem legacy_in_span240 : ∀ x ∈ span eht240HeCentre 8, x ∈ span240 := by decide

/-- At 240 MHz a channel below 116 is validated with the block that starts at 36, which no line
describes. -/
theorem not_agrees_240_low (hc : c ∈ bondedChannels c 240 "5g") (hlow : c < 116) :
    ¬Agrees caps c 240 "5g" bitmap := by
  have hfirst : ∀ block ∈ blocks5g 240, ∀ c ∈ block, c < 116 →
      ((blocks5g 240).find? (·.contains c)).getD [] = [36, 40, 44, 48, 52, 56, 60, 64, 100, 104, 108, 112] := by
    decide
  have hmissing : ∀ block ∈ blocks5g 240, ∀ c ∈ block, ∃ x ∈ [(36 : ℤ), 40, 44], x ≠ c ∧ x ≠ c + 4 := by decide
  have houtside : ∀ x ∈ [(36 : ℤ), 40, 44], x ∉ span240 := by decide
  have hmem := mem_block5g (by decide) hc
  obtain ⟨x, hx, hxc, hx4⟩ := hmissing _ hmem c hc
  have hblock : bondedChannels c 240 "5g" = [36, 40, 44, 48, 52, 56, 60, 64, 100, 104, 108, 112] := by
    have hget : bondedChannels c 240 "5g" = ((blocks5g 240).find? (·.contains c)).getD [] := by
      simp [bondedChannels]
    rw [hget]
    exact hfirst _ hmem c hc hlow
  have hin : x ∈ bondedChannels c 240 "5g" := by
    rw [hblock]
    simp only [List.mem_cons, List.not_mem_nil, or_false] at hx ⊢
    tauto
  refine not_same_missing hc hin hxc ?_
  rw [mem_parts_5g (by decide), legacyBlock_240, ehtBlock_240]
  rintro (⟨-, h⟩ | ⟨-, h⟩ | ⟨-, h⟩)
  · exact hx4 h
  · exact houtside x hx (legacy_in_span240 x h)
  · exact houtside x hx h

/-- The block that starts at 100 is what EHT spans below 148. -/
theorem block240_high (hc : c ∈ bondedChannels c 240 "5g") (hhigh : 116 ≤ c) :
    c ∈ [(116 : ℤ), 120, 124, 128, 132, 136, 140, 144] ∧ (∀ x, x ∈ bondedChannels c 240 "5g" ↔ x ∈ span240 ∧ x < 148) := by
  have hsecond : ∀ block ∈ blocks5g 240, ∀ c ∈ block, 116 ≤ c →
      c ∈ [(116 : ℤ), 120, 124, 128, 132, 136, 140, 144] ∧
        ((blocks5g 240).find? (·.contains c)).getD [] = span240.filter fun x => x < 148 := by
    decide
  have hget : bondedChannels c 240 "5g" = ((blocks5g 240).find? (·.contains c)).getD [] := by
    simp [bondedChannels]
  obtain ⟨hin, hblock⟩ := hsecond _ (mem_block5g (by decide) hc) c hc hhigh
  refine ⟨hin, fun x => ?_⟩
  rw [hget, hblock, List.mem_filter]
  simp

theorem agrees_240_5g : Agrees caps c 240 "5g" bitmap ↔ c ∈ bondedChannels c 240 "5g" ∧
    caps.eht = true ∧ 116 ≤ c ∧ ∀ x ∈ span240, x ≠ c → (x ∈ punctured span240 bitmap ↔ 148 ≤ x) := by
  by_cases hc : c ∈ bondedChannels c 240 "5g"
  · by_cases hlow : c < 116
    · constructor
      · exact fun h => absurd h (not_agrees_240_low hc hlow)
      · exact fun h => absurd h.2.2.1 (by omega)
    · have hhigh : 116 ≤ c := by omega
      obtain ⟨hin, hblock⟩ := block240_high hc hhigh
      have hup : c + 4 ∈ span240 := by
        have hall : ∀ c ∈ [(116 : ℤ), 120, 124, 128, 132, 136, 140, 144], c + 4 ∈ span240 := by decide
        exact hall c hin
      by_cases hon : caps.eht = true
      · have hmem : ∀ x, x ∈ parts caps c 240 "5g" ↔ x ∈ span240 := by
          intro x
          rw [mem_parts_5g (by decide), legacyBlock_240, ehtBlock_240]
          constructor
          · rintro (⟨-, rfl⟩ | ⟨-, h⟩ | ⟨-, h⟩)
            · exact hup
            · exact legacy_in_span240 x h
            · exact h
          · exact fun h => .inr (.inr ⟨hon, h⟩)
        have hsame : Agrees caps c 240 "5g" bitmap ↔
            ∀ x, x ≠ c → ((x ∈ span240 ∧ x ∉ punctured span240 bitmap) ↔ x ∈ span240 ∧ x < 148) := by
          unfold Agrees
          rw [same_iff hc, punctured_ehtPart (by decide) hon, ehtBlock_240]
          simp only [hmem, hblock]
        rw [hsame]
        constructor
        · intro h
          refine ⟨hc, hon, hhigh, fun x hx hxc => ?_⟩
          have hx' := h x hxc
          constructor
          · intro hout
            by_contra hlt
            exact (hx'.mpr ⟨hx, by omega⟩).2 hout
          · intro hge
            by_contra hout
            have := (hx'.mp ⟨hx, hout⟩).2
            omega
        · rintro ⟨-, -, -, h⟩ x hxc
          constructor
          · rintro ⟨hx, hout⟩
            refine ⟨hx, ?_⟩
            by_contra hge
            exact hout ((h x hx hxc).mpr (by omega))
          · rintro ⟨hx, hlt⟩
            refine ⟨hx, fun hout => ?_⟩
            have := (h x hx hxc).mp hout
            omega
      · constructor
        · have hmissing : ∀ c ∈ [(116 : ℤ), 120, 124, 128, 132, 136, 140, 144],
              ∃ x ∈ [(132 : ℤ), 136, 140], x ≠ c ∧ x ≠ c + 4 := by decide
          have hspan : ∀ x ∈ [(132 : ℤ), 136, 140], (x ∈ span240 ∧ x < 148) ∧ x ∉ span eht240HeCentre 8 := by decide
          obtain ⟨x, hx, hxc, hx4⟩ := hmissing c hin
          obtain ⟨hxb, hxl⟩ := hspan x hx
          have hmiss : x ∉ parts caps c 240 "5g" := by
            rw [mem_parts_5g (by decide), legacyBlock_240]
            tauto
          exact fun h => absurd h (not_same_missing hc ((hblock x).mpr hxb) hxc hmiss)
        · exact fun h => absurd h.2.1 hon
  · constructor
    · exact fun h => absurd h (not_same hc)
    · exact fun h => absurd h.1 hc

/-! ### 6 GHz -/

theorem mem_aligned {x : ℤ} {n : ℕ} :
    x ∈ aligned c n ↔ ∃ i : ℕ, i < n ∧ x = (c - 1) / 4 / n * n * 4 + 1 + i * 4 := by
  unfold aligned
  rw [List.mem_map]
  constructor
  · rintro ⟨i, hi, rfl⟩
    exact ⟨i, List.mem_range.mp hi, rfl⟩
  · rintro ⟨i, hi, rfl⟩
    exact ⟨i, List.mem_range.mpr hi, rfl⟩

/-- A span around the centre of an aligned block is the block. -/
theorem span_aligned (n : ℕ) : span ((c - 1) / 4 / n * n * 4 + 1 + ((n : ℤ) - 1) * 2) n = aligned c n := by
  unfold span aligned
  refine List.map_congr_left fun i _ => ?_
  omega

theorem bonded_6g {width : ℕ} (hwidth : ¬width ≤ 20) (hc : c ∈ bondedChannels c width "6g") :
    bondedChannels c width "6g" = aligned c (widthSubchannels width) := by
  have hblock : bondedChannels c width "6g" =
      if (aligned c (widthSubchannels width)).contains c then aligned c (widthSubchannels width) else [] := by
    simp [bondedChannels, hwidth, aligned, ← List.map_eq_flatMap, Function.comp_def]
  rw [hblock] at hc ⊢
  split
  · rfl
  · rename_i hnot
    rw [if_neg hnot] at hc
    exact absurd hc List.not_mem_nil

/-- The 160 MHz block of a channel lies in its 320 MHz block. -/
theorem aligned_8_16 : ∀ x ∈ aligned c 8, x ∈ aligned c 16 := by
  intro x hx
  obtain ⟨i, hi, rfl⟩ := mem_aligned.mp hx
  refine mem_aligned.mpr ⟨((c - 1) / 4 / 8 * 8 - (c - 1) / 4 / 16 * 16).toNat + i, ?_, ?_⟩
  · omega
  · push_cast
    omega

theorem mem_parts_6g {x : ℤ} {width : ℕ} : x ∈ parts caps c width "6g" ↔
    (caps.he = true ∧ x ∈ legacyBlock c width "6g") ∨ (caps.eht = true ∧ x ∈ ehtBlock c width "6g") ∨
      x ∈ classChannels (some (sixGhzOpClass width)) c := by
  have hht : htPart caps c width "6g" = [] := if_neg (by simp)
  have hvht : vhtPart caps c width "6g" = [] := if_neg (by simp)
  have hclass : classPart c width "6g" = classChannels (some (sixGhzOpClass width)) c := if_pos rfl
  unfold parts
  rw [hht, hvht, hclass, List.nil_append, List.nil_append, List.mem_append, List.mem_append,
    mem_hePart (by decide), mem_ehtPart (by decide)]
  tauto

/-- On 6 GHz the operating class describes the block, and no generation describes more. -/
theorem agrees_6g {width : ℕ} (hwidth : ¬width ≤ 20)
    (hclass : classChannels (some (sixGhzOpClass width)) c = aligned c (widthSubchannels width))
    (hlegacy : ∀ x ∈ legacyBlock c width "6g", x ∈ aligned c (widthSubchannels width))
    (heht : ∀ x ∈ ehtBlock c width "6g", x ∈ aligned c (widthSubchannels width)) :
    Agrees caps c width "6g" bitmap ↔ c ∈ bondedChannels c width "6g" ∧
      ∀ x ∈ punctured (ehtPart caps c width "6g") bitmap, x = c := by
  by_cases hc : c ∈ bondedChannels c width "6g"
  · have hblock := bonded_6g hwidth hc
    have hmem : ∀ x, x ∈ parts caps c width "6g" ↔ x ∈ bondedChannels c width "6g" ∨ False ∧ x = c + 4 := by
      intro x
      rw [mem_parts_6g, hclass, hblock]
      have h₁ := hlegacy x
      have h₂ := heht x
      tauto
    have hout : ∀ x ∈ punctured (ehtPart caps c width "6g") bitmap, x ∈ bondedChannels c width "6g" := by
      intro x hx
      rw [hblock]
      exact heht x ((mem_ehtPart (by decide)).mp (mem_punctured hx)).2
    have hcover : Agrees caps c width "6g" bitmap ↔ (False → c + 4 ∈ bondedChannels c width "6g") ∧
        ∀ x ∈ punctured (ehtPart caps c width "6g") bitmap, x = c :=
      same_covering hc (by omega) hmem hout
    rw [hcover]
    tauto
  · constructor
    · exact fun h => absurd h (not_same hc)
    · exact fun h => absurd h.1 hc

theorem agrees_40_6g : Agrees caps c 40 "6g" bitmap ↔ c ∈ bondedChannels c 40 "6g" := by
  have hagrees : Agrees caps c 40 "6g" bitmap ↔ c ∈ bondedChannels c 40 "6g" ∧
      ∀ x ∈ punctured (ehtPart caps c 40 "6g") bitmap, x = c := by
    refine agrees_6g (by decide) rfl ?_ ?_
    · rw [legacyBlock_narrow rfl]
      exact fun x hx => absurd hx List.not_mem_nil
    · rw [ehtBlock_narrow rfl]
      exact fun x hx => absurd hx List.not_mem_nil
  rw [hagrees, ehtPart_narrow rfl]
  exact ⟨fun h => h.1, fun h => ⟨h, fun x hx => absurd hx List.not_mem_nil⟩⟩

/-- From 80 MHz on EHT describes the block too, and a bitmap can take channels out of it. -/
theorem agrees_wide_6g {width : ℕ} (hwidth : ¬width ≤ 20)
    (hclass : classChannels (some (sixGhzOpClass width)) c = aligned c (widthSubchannels width))
    (hlegacy : ∀ x ∈ legacyBlock c width "6g", x ∈ aligned c (widthSubchannels width))
    (heht : ehtBlock c width "6g" = aligned c (widthSubchannels width)) :
    Agrees caps c width "6g" bitmap ↔ c ∈ bondedChannels c width "6g" ∧
      Whole caps (bondedChannels c width "6g") bitmap c := by
  rw [agrees_6g hwidth hclass hlegacy fun x hx => heht ▸ hx, whole_iff (by decide) heht]
  constructor
  · rintro ⟨hc, h⟩
    have hblock := bonded_6g hwidth hc
    rw [hblock]
    exact ⟨hblock ▸ hc, h⟩
  · rintro ⟨hc, h⟩
    have hblock := bonded_6g hwidth hc
    rw [hblock] at h
    exact ⟨hc, h⟩

theorem agrees_80_6g : Agrees caps c 80 "6g" bitmap ↔
    c ∈ bondedChannels c 80 "6g" ∧ Whole caps (bondedChannels c 80 "6g") bitmap c := by
  have hlegacy : legacyBlock c 80 "6g" = aligned c 4 := span_aligned 4
  refine agrees_wide_6g (by decide) rfl (fun x hx => ?_) (span_aligned 4)
  rw [hlegacy] at hx
  exact hx

theorem agrees_160_6g : Agrees caps c 160 "6g" bitmap ↔
    c ∈ bondedChannels c 160 "6g" ∧ Whole caps (bondedChannels c 160 "6g") bitmap c := by
  have hlegacy : legacyBlock c 160 "6g" = aligned c 8 := span_aligned 8
  refine agrees_wide_6g (by decide) rfl (fun x hx => ?_) (span_aligned 8)
  rw [hlegacy] at hx
  exact hx

theorem agrees_320_6g : Agrees caps c 320 "6g" bitmap ↔
    c ∈ bondedChannels c 320 "6g" ∧ Whole caps (bondedChannels c 320 "6g") bitmap c := by
  have hlegacy : legacyBlock c 320 "6g" = aligned c 8 := span_aligned 8
  refine agrees_wide_6g (by decide) rfl (fun x hx => ?_) (span_aligned 16)
  rw [hlegacy] at hx
  exact aligned_8_16 x hx

end Widths

/-! ### The condition -/

theorem rightBlock_iff {radio : Obj} {caps : LinkCaps} (hradio : RadioOk radio) (c : ℤ) :
    RightBlock radio caps c ↔
      Agrees caps c (widthOf radio) (bandOf radio) (bitmapOr radio (widthOf radio)) := by
  obtain ⟨hband, hwidth, h320, h240, hnarrow⟩ := hradio
  unfold RightBlock
  dsimp only
  generalize bitmapOr radio (widthOf radio) = bitmap
  generalize bandOf radio = band at *
  generalize widthOf radio = width at *
  simp only [bandNames, widths, List.mem_cons, List.not_mem_nil, or_false] at hband hwidth
  rcases hwidth with rfl | rfl | rfl | rfl | rfl | rfl
  · exact iff_of_true (.inl rfl) agrees_20
  · rcases hband with rfl | rfl | rfl
    · rw [agrees_40_2g]
      simp
    · rw [agrees_40_5g]
      simp
    · rw [agrees_40_6g]
      simp
  · rcases hband with rfl | rfl | rfl
    · exact absurd (hnarrow rfl) (by decide)
    · rw [agrees_80_5g]
      simp
    · rw [agrees_80_6g]
      simp
  · rcases hband with rfl | rfl | rfl
    · exact absurd (hnarrow rfl) (by decide)
    · rw [agrees_160_5g]
      simp
    · rw [agrees_160_6g]
      simp
  · obtain rfl := h240 rfl
    rw [agrees_240_5g]
    simp
  · obtain rfl := h320 rfl
    rw [agrees_320_6g]
    simp

/-- The lines of a radio describe the validated block exactly under the condition. -/
theorem same_iff_rightBlock {radio : Obj} {caps : LinkCaps} {c : ℤ} (hradio : RadioOk radio)
    (hc : channelOf radio = some c) :
    SameChannels (described (bandLines radio caps)) (bondedChannels c (widthOf radio) (bandOf radio)) ↔
      RightBlock radio caps c := by
  have hrendered : renderedChannel radio caps = c := by
    unfold renderedChannel
    rw [hc]
    rfl
  rw [rightBlock_iff hradio, described_bandLines, hrendered]
  rfl

/-! ### Accepted documents -/

/-- `cfg["wifi"]["radios"]` -/
def wifiRadios (cfg : Obj) : Obj := ((Json.obj (Netd.sectionOf cfg "wifi")).getD "radios" .null).entries

theorem mem_widths {value : Json} {width : ℕ} (h : Schema.widthOf value = some width) : width ∈ widths := by
  unfold Schema.widthOf at h
  exact List.mem_of_find?_eq_some h

theorem checkWidth_eq_ok {path band : String} {value : Json} {width : ℕ}
    (h : checkWidth path band value = .ok width) : Schema.widthOf value = some width ∧
      (width = 320 → band = "6g") ∧ (width = 240 → band = "5g") ∧ (band = "2g" → width ≤ 40) := by
  unfold checkWidth at h
  cases hwidth : Schema.widthOf value with
  | none =>
    rw [hwidth] at h
    cases h
  | some n =>
    rw [hwidth] at h
    simp only at h
    split at h
    · cases h
    · rename_i h320
      split at h
      · cases h
      · rename_i h240
        split at h
        · cases h
        · rename_i hnarrow
          obtain rfl : n = width := Except.ok.inj h
          refine ⟨rfl, fun hn => ?_, fun hn => ?_, fun hb => ?_⟩
          · by_contra hne
            exact h320 ⟨hn, hne⟩
          · by_contra hne
            exact h240 ⟨hn, hne⟩
          · by_contra hlt
            exact hnarrow ⟨hb, by omega⟩

theorem radioOk_of_fields {radio : Obj} (h : RadioFields radio) : RadioOk radio := by
  obtain ⟨band, hin, hband, path, width, value, hvalue, hok⟩ := h
  obtain ⟨hwidth, h320, h240, hnarrow⟩ := checkWidth_eq_ok hok
  have hb : bandOf radio = band := by
    unfold bandOf field
    rw [hband]
    rfl
  have hw : widthOf radio = width := by
    unfold widthOf field
    rw [hvalue]
    show (Schema.widthOf value).getD 0 = width
    rw [hwidth]
    rfl
  refine ⟨?_, ?_, ?_, ?_, ?_⟩
  · rw [hb]
    exact hin
  · rw [hw]
    exact mem_widths hwidth
  · rw [hw, hb]
    exact h320
  · rw [hw, hb]
    exact h240
  · rw [hb, hw]
    exact hnarrow

/-- **The validated block is the transmitted one exactly under `RightBlock`**, for every radio of an
accepted document with a channel of its own, whatever the capabilities it was validated against and
whatever the link reports. -/
theorem transmitted_block {caps : Capabilities} {cfg t : Obj} {w : List String}
    (h : validate caps cfg = .ok (t, w)) {rid : String} {radio : Obj} (hr : (rid, .obj radio) ∈ wifiRadios t)
    {c : ℤ} (hc : channelOf radio = some c) (link : LinkCaps) :
    SameChannels (described (bandLines radio link)) (bondedChannels c (widthOf radio) (bandOf radio)) ↔
      RightBlock radio link c := by
  obtain ⟨wifi, radios, hwifi, hradios, hall⟩ := radios_of_validate h
  have hentries : wifiRadios t = radios := by
    simp [wifiRadios, Netd.sectionOf, hwifi, Json.entries, Json.getD, Json.get?, hradios]
  obtain ⟨o, ho, hfields⟩ := hall _ (hentries ▸ hr)
  obtain rfl : radio = o := Json.obj.inj ho
  exact same_iff_rightBlock (radioOk_of_fields hfields) hc

/-- A link on which every generation is on. -/
def fullLink : LinkCaps := ⟨true, true, true, true, []⟩

/-- A radio of 5 GHz at 80 MHz. -/
def radio80 (channel : ℤ) : Obj :=
  [("enabled", .bool true), ("band", .str "5g"), ("channel_width", .int 80), ("channel", .int channel),
    ("tx_power", .str "auto")]

/-- The default document with one radio. -/
def oneRadio (radio : Obj) : Obj :=
  Dict.set "wifi" (.obj (Dict.set "radios" (.obj [("wifi0", .obj radio)]) defaultWifi)) defaultEntries

theorem validate_radio36 : validate Capabilities.empty (oneRadio (radio80 36)) =
    .ok (oneRadio (radio80 36), []) := by
  decide +kernel

/-- Channel 36 at 80 MHz is transmitted as it was validated. -/
theorem transmitted_block_36 :
    SameChannels (described (bandLines (radio80 36) fullLink)) (bondedChannels 36 80 "5g") := by
  have hr : ("wifi0", .obj (radio80 36)) ∈ wifiRadios (oneRadio (radio80 36)) := List.mem_cons_self
  have hright : RightBlock (radio80 36) fullLink 36 := by decide
  exact (transmitted_block validate_radio36 hr rfl fullLink).mpr hright

/-- Channel 48 is the last of its block: `[HT40+]` puts the secondary channel outside of it. -/
theorem secondary_outside :
    validate Capabilities.empty (oneRadio (radio80 48)) = .ok (oneRadio (radio80 48), []) ∧
      ("wifi0", .obj (radio80 48)) ∈ wifiRadios (oneRadio (radio80 48)) ∧ channelOf (radio80 48) = some 48 ∧
      52 ∈ described (bandLines (radio80 48) fullLink) ∧ 52 ∉ bondedChannels 48 80 "5g" ∧
      ¬SameChannels (described (bandLines (radio80 48) fullLink)) (bondedChannels 48 80 "5g") := by
  decide +kernel

end Sbegw.Hostapd
