import Sbegw.Rf.Recommend
import Sbegw.Hostapd.Agreement
import Mathlib.Tactic.Ring

/-!
# Live channel switches

`apply_channel` moves a running radio with `CHAN_SWITCH`, and takes the centre of the new block from the
interference footprint.  Where this is the block that the configuration describes is found width by width.
-/

namespace Sbegw.Rf

open Schema Hostapd

/-! ### The command -/

/-- `channel_to_freq` -/
def channelToFreq (channel : ℤ) (band : String) : Option ℤ :=
  if band = "2g" then
    if channel = 14 then some 2484
    else if 1 ≤ channel ∧ channel ≤ 13 then some (2407 + channel * 5) else none
  else if band = "5g" then some (5000 + channel * 5)
  else if band = "6g" then some (5950 + channel * 5)
  else none

/-- The frequencies of the channels that have one. -/
def frequencies (channels : List ℤ) (band : String) : List ℤ := channels.filterMap fun c => channelToFreq c band

/-- `_centre_freq`; `int` truncates. -/
def centreFreq (channel : ℤ) (width : ℕ) (band : String) : Option ℤ :=
  if width ≤ 20 then channelToFreq channel band
  else
    let freqs := (frequencies (occupiedChannels channel width band) band).filter fun f => f ≠ 0
    if freqs.isEmpty then none else some (freqs.sum.tdiv freqs.length)

/-- `_CSA_BW.get(width, width)` -/
def csaBandwidth : ℕ → ℕ
  | 240 => 320
  | width => width

/-- A `CHAN_SWITCH` command. -/
structure ChanSwitch where
  count : ℕ
  freq : ℤ
  centerFreq1 : ℤ
  bandwidth : ℕ
  vht : Bool
  he : Bool
  eht : Bool
  /-- not sent when it is 0 -/
  punctBitmap : ℕ
deriving DecidableEq

/-- The command of `apply_channel`, if it comes to that: it names no bitmap. -/
def switchCommand (channel : ℤ) (width : ℕ) (band : String) : Option ChanSwitch :=
  match channelToFreq channel band with
  | none => none
  | some freq =>
    match centreFreq channel width band with
    | none => none
    | some centre => some ⟨10, freq, centre, csaBandwidth width, band ≠ "2g", true, true, 0⟩

/-- The frequencies of the 20 MHz channels of the span that a command names. -/
def ChanSwitch.freqs (s : ChanSwitch) : List ℤ :=
  let spanned := (List.range (s.bandwidth / 20)).map fun (i : ℕ) => s.centerFreq1 - s.bandwidth / 2 + 10 + 20 * (i : ℤ)
  spanned.filter fun f => !(punctured spanned s.punctBitmap).contains f

/-! ### The property -/

/-- Halfway between the ends of a list of frequencies. -/
def Midpoint (centre : ℤ) (freqs : List ℤ) : Prop :=
  ∃ low ∈ freqs.head?, ∃ high ∈ freqs.getLast?, 2 * centre = low + high

instance (centre : ℤ) (freqs : List ℤ) : Decidable (Midpoint centre freqs) :=
  decidable_of_iff ((freqs.head?.any fun low => freqs.getLast?.any fun high => 2 * centre = low + high) = true) (by
    simp [Midpoint, Option.any_eq_true])

/-- The centre of a command is the middle of the bonded block, and the centre index of the configuration. -/
structure Centred (c : ℤ) (width : ℕ) (band : String) (s : ChanSwitch) : Prop where
  midpoint : Midpoint s.centerFreq1 (frequencies (bondedChannels c width band) band)
  index : ∀ centre ∈ centreChannel c width band, channelToFreq centre band = some s.centerFreq1

/-- **A command lands where the configuration of the radio would.** -/
structure LandsThere (radio : Obj) (caps : LinkCaps) (c : ℤ) (s : ChanSwitch) : Prop where
  centred : Centred c (widthOf radio) (bandOf radio) s
  same : SameChannels s.freqs (frequencies (described (bandLines radio caps)) (bandOf radio))

/-- The span that a switch to 320 MHz on 5 GHz names. -/
def csaSpan320 : List ℤ := span 82 16

/-- **The condition**: the channel can host the width, and

* on 2.4 GHz the width is 40 MHz, the channel is 1 and HT is on;
* at 320 MHz on 5 GHz only EHT is on beyond HT, and the span around 82 holds the channel, and the one above it
  where HT is on, and is not punctured;
* elsewhere the width is not 240 MHz and the configuration describes the validated block. -/
def SwitchLands (radio : Obj) (caps : LinkCaps) (c : ℤ) : Prop :=
  let band := bandOf radio
  let width := widthOf radio
  width = 20 ∨ c ∈ bondedChannels c width band ∧
    if band = "2g" then width = 40 ∧ c = 1 ∧ caps.ht = true
    else if width = 240 then False
    else if band = "5g" ∧ width = 320 then
      caps.vht = false ∧ caps.he = false ∧ caps.eht = true ∧ c ∈ csaSpan320 ∧
        (caps.ht = true → c + 4 ∈ csaSpan320) ∧ Whole caps csaSpan320 (bitmapOr radio width) c
    else RightBlock radio caps c

instance (radio : Obj) (caps : LinkCaps) (c : ℤ) : Decidable (SwitchLands radio caps c) :=
  inferInstanceAs (Decidable (_ ∨ _ ∧ _))

/-! ### Frequencies -/

@[simp] theorem channelToFreq_5g (c : ℤ) : channelToFreq c "5g" = some (5000 + c * 5) := by simp [channelToFreq]

@[simp] theorem channelToFreq_6g (c : ℤ) : channelToFreq c "6g" = some (5950 + c * 5) := by simp [channelToFreq]

theorem frequencies_5g (l : List ℤ) : frequencies l "5g" = l.map fun c => 5000 + c * 5 := by
  unfold frequencies
  simp only [channelToFreq_5g]
  exact congrFun List.filterMap_eq_map l

theorem frequencies_6g (l : List ℤ) : frequencies l "6g" = l.map fun c => 5950 + c * 5 := by
  unfold frequencies
  simp only [channelToFreq_6g]
  exact congrFun List.filterMap_eq_map l

/-- Above 2.4 GHz frequencies tell channels apart. -/
theorem same_frequencies {band : String} (hband : band = "5g" ∨ band = "6g") (a b : List ℤ) :
    SameChannels (frequencies a band) (frequencies b band) ↔ SameChannels b a := by
  have hmap : ∃ f : ℤ → ℤ, Function.Injective f ∧ ∀ l, frequencies l band = l.map f := by
    rcases hband with rfl | rfl
    · exact ⟨_, fun x y h => by omega, frequencies_5g⟩
    · exact ⟨_, fun x y h => by omega, frequencies_6g⟩
  obtain ⟨f, hinj, hf⟩ := hmap
  unfold SameChannels
  rw [hf, hf]
  simp only [List.forall_mem_map, List.mem_map_of_injective hinj]
  exact and_comm

theorem punctured_zero (l : List ℤ) : punctured l 0 = [] := by
  unfold punctured
  simp

theorem switchCommand_eq_some {c : ℤ} {width : ℕ} {band : String} {s : ChanSwitch}
    (h : switchCommand c width band = some s) :
    channelToFreq c band = some s.freq ∧ centreFreq c width band = some s.centerFreq1 ∧
      s.bandwidth = csaBandwidth width ∧ s.punctBitmap = 0 := by
  unfold switchCommand at h
  split at h
  · exact absurd h (by simp)
  · next freq hfreq =>
    split at h
    · exact absurd h (by simp)
    · next centre hcentre =>
      obtain rfl := Option.some_inj.mp h
      exact ⟨hfreq, hcentre, rfl, rfl⟩

/-- The span of a command, which nothing punctures. -/
theorem freqs_of_command {c : ℤ} {width : ℕ} {band : String} {s : ChanSwitch}
    (h : switchCommand c width band = some s) :
    s.freqs = (List.range (csaBandwidth width / 20)).map fun (i : ℕ) =>
      s.centerFreq1 - csaBandwidth width / 2 + 10 + 20 * (i : ℤ) := by
  obtain ⟨-, -, hwidth, hbitmap⟩ := switchCommand_eq_some h
  unfold ChanSwitch.freqs
  rw [hwidth, hbitmap]
  simp only [punctured_zero]
  simp

/-! ### The block of the configuration -/

/-- What the lines of a radio describe that is set to a channel. -/
def pinned (caps : LinkCaps) (c : ℤ) (width : ℕ) (band : String) (bitmap : ℕ) : List ℤ :=
  c :: (parts caps c width band).filter fun x => !(punctured (ehtPart caps c width band) bitmap).contains x

theorem described_pinned {radio : Obj} {c : ℤ} (hc : channelOf radio = some c) (caps : LinkCaps) :
    described (bandLines radio caps) =
      pinned caps c (widthOf radio) (bandOf radio) (bitmapOr radio (widthOf radio)) := by
  have hrendered : renderedChannel radio caps = c := by
    unfold renderedChannel
    rw [hc]
    rfl
  rw [described_bandLines, hrendered]
  rfl

theorem bonded_nil_or_mem (c : ℤ) (width : ℕ) (band : String) :
    bondedChannels c width band = [] ∨ c ∈ bondedChannels c width band := by
  unfold bondedChannels
  split_ifs with h2 hnarrow hfits hnarrow h5
  · exact .inr (List.mem_singleton_self c)
  · exact .inr List.mem_cons_self
  · exact .inl rfl
  · exact .inr (List.mem_singleton_self c)
  · cases hfind : (blocks5g width).find? (·.contains c) with
    | none => exact .inl rfl
    | some block =>
      have hblock := List.find?_some hfind
      exact .inr (List.contains_iff_mem.mp hblock)
  · dsimp only
    split
    · next h => exact .inr (List.contains_iff_mem.mp h)
    · exact .inl rfl

theorem Centred.mem {c : ℤ} {width : ℕ} {band : String} {s : ChanSwitch} (h : Centred c width band s) :
    c ∈ bondedChannels c width band := by
  rcases bonded_nil_or_mem c width band with hnil | hmem
  · obtain ⟨low, hlow, -⟩ := h.midpoint
    rw [hnil] at hlow
    exact absurd hlow (by simp [frequencies])
  · exact hmem

instance (c : ℤ) (width : ℕ) (band : String) (s : ChanSwitch) : Decidable (Centred c width band s) :=
  decidable_of_iff (Midpoint s.centerFreq1 (frequencies (bondedChannels c width band) band) ∧
    (centreChannel c width band).all (fun centre => channelToFreq centre band = some s.centerFreq1) = true) (by
      constructor
      · rintro ⟨hmid, hindex⟩
        exact ⟨hmid, by simpa [Option.all_eq_true] using hindex⟩
      · rintro ⟨hmid, hindex⟩
        exact ⟨hmid, by simpa [Option.all_eq_true] using hindex⟩)

/-! ### Width by width -/

section Widths

variable {caps : LinkCaps} {c : ℤ} {bitmap : ℕ} {s : ChanSwitch}

/-- A centred command for the bonded block lands right where the configuration describes this block. -/
theorem lands_iff_agrees {width : ℕ} {band : String} (hband : band = "5g" ∨ band = "6g")
    (hcentred : c ∈ bondedChannels c width band → Centred c width band s)
    (hfreqs : c ∈ bondedChannels c width band → s.freqs = frequencies (bondedChannels c width band) band) :
    (Centred c width band s ∧ SameChannels s.freqs (frequencies (pinned caps c width band bitmap) band)) ↔
      c ∈ bondedChannels c width band ∧ Agrees caps c width band bitmap := by
  constructor
  · rintro ⟨h, hsame⟩
    refine ⟨h.mem, ?_⟩
    rw [hfreqs h.mem, same_frequencies hband] at hsame
    exact hsame
  · rintro ⟨hmem, hagrees⟩
    refine ⟨hcentred hmem, ?_⟩
    rw [hfreqs hmem, same_frequencies hband]
    exact hagrees

theorem command_20 {band : String} (h : switchCommand c 20 band = some s) :
    Centred c 20 band s ∧ SameChannels s.freqs (frequencies (pinned caps c 20 band bitmap) band) := by
  obtain ⟨hfreq, hcentre, -, -⟩ := switchCommand_eq_some h
  have hsame : s.freq = s.centerFreq1 := Option.some_inj.mp (hfreq.symm.trans hcentre)
  have hblock : bondedChannels c 20 band = [c] := by
    unfold bondedChannels
    simp
  have hone : frequencies [c] band = [s.centerFreq1] := by
    unfold frequencies
    rw [List.filterMap_cons_some (hsame ▸ hfreq), List.filterMap_nil]
  have hfreqs : s.freqs = [s.centerFreq1] := by
    rw [freqs_of_command h]
    simp [csaBandwidth]
  refine ⟨⟨?_, ?_⟩, ?_⟩
  · rw [hblock, hone]
    exact ⟨s.centerFreq1, rfl, s.centerFreq1, rfl, by omega⟩
  · intro centre hindex
    exact absurd hindex (by simp [centreChannel])
  · have hpinned : SameChannels (pinned caps c 20 band bitmap) [c] := hblock ▸ agrees_20
    have hmem : ∀ x ∈ pinned caps c 20 band bitmap, x = c := fun x hx => List.mem_singleton.mp (hpinned.1 x hx)
    rw [hfreqs]
    constructor
    · intro f hf
      obtain rfl := List.mem_singleton.mp hf
      exact List.mem_filterMap.mpr ⟨c, List.mem_cons_self, hsame ▸ hfreq⟩
    · intro f hf
      obtain ⟨x, hx, hxf⟩ := List.mem_filterMap.mp hf
      rw [hmem x hx, hfreq] at hxf
      rw [← Option.some_inj.mp hxf, hsame]
      exact List.mem_singleton_self _

/-- Up to 160 MHz on 5 GHz the footprint is the bonded block. -/
theorem command_5g : ∀ width ∈ [40, 80, 160], ∀ block ∈ blocks5g width, ∀ c ∈ block,
    ∀ s ∈ switchCommand c width "5g", Centred c width "5g" s ∧
      s.freqs = frequencies (bondedChannels c width "5g") "5g" := by
  decide

theorem lands_5g {width : ℕ} (hwidth : width ∈ [40, 80, 160]) (h : switchCommand c width "5g" = some s) :
    (Centred c width "5g" s ∧ SameChannels s.freqs (frequencies (pinned caps c width "5g" bitmap) "5g")) ↔
      c ∈ bondedChannels c width "5g" ∧ Agrees caps c width "5g" bitmap := by
  have hnarrow : ¬ width ≤ 20 := by
    have hall : ∀ w ∈ [40, 80, 160], ¬ w ≤ 20 := by decide
    exact hall width hwidth
  have hcommand := fun hmem => command_5g width hwidth _ (mem_block5g hnarrow hmem) c hmem s h
  exact lands_iff_agrees (.inl rfl) (fun hmem => (hcommand hmem).1) fun hmem => (hcommand hmem).2

/-- On 2.4 GHz the footprint has the bonded block as its middle for channel 1 only. -/
theorem centred_2g {width : ℕ} (hwidth : ¬ width ≤ 20) (h : switchCommand c width "2g" = some s)
    (hcentred : Centred c width "2g" s) : c = 1 ∧ s.centerFreq1 = 2422 := by
  obtain ⟨hfreq, hcentre, -, -⟩ := switchCommand_eq_some h
  have hrange : 1 ≤ c ∧ c ≤ 14 := by
    unfold channelToFreq at hfreq
    rw [if_pos rfl] at hfreq
    split_ifs at hfreq <;> omega
  have hcentre40 : centreFreq c width "2g" = centreFreq c 40 "2g" := by
    unfold centreFreq occupiedChannels
    simp [hwidth]
  have hbonded40 : bondedChannels c width "2g" = bondedChannels c 40 "2g" := by
    unfold bondedChannels
    simp [hwidth]
  have hmid := hcentred.midpoint
  rw [hbonded40] at hmid
  rw [hcentre40] at hcentre
  have hall : ∀ i ∈ List.range 14, ∀ centre ∈ centreFreq (i + 1) 40 "2g",
      Midpoint centre (frequencies (bondedChannels (i + 1) 40 "2g") "2g") → (i + 1 : ℤ) = 1 ∧ centre = 2422 := by
    decide
  obtain ⟨i, hi, rfl⟩ : ∃ i ∈ List.range 14, c = (i : ℤ) + 1 :=
    ⟨(c - 1).toNat, List.mem_range.mpr (by omega), by omega⟩
  exact hall i hi _ hcentre hmid

theorem channelToFreq_2g_le {x f : ℤ} (h : channelToFreq x "2g" = some f) : 2412 ≤ f := by
  unfold channelToFreq at h
  rw [if_pos rfl] at h
  split_ifs at h
  · have := Option.some_inj.mp h
    omega
  · have := Option.some_inj.mp h
    omega

theorem lands_2g {width : ℕ} (hwidth : width ∈ [40, 80, 160, 240, 320]) (h : switchCommand c width "2g" = some s) :
    (Centred c width "2g" s ∧ SameChannels s.freqs (frequencies (pinned caps c width "2g" bitmap) "2g")) ↔
      c ∈ bondedChannels c width "2g" ∧ width = 40 ∧ c = 1 ∧ caps.ht = true := by
  have hwide : ¬ width ≤ 20 ∧ (width = 40 ∨ 80 ≤ csaBandwidth width) := by
    have hall : ∀ w ∈ [40, 80, 160, 240, 320], ¬ w ≤ 20 ∧ (w = 40 ∨ 80 ≤ csaBandwidth w) := by decide
    exact hall width hwidth
  constructor
  · rintro ⟨hcentred, hsame⟩
    obtain ⟨rfl, hcentre⟩ := centred_2g hwide.1 h hcentred
    rw [freqs_of_command h, hcentre] at hsame
    rcases hwide.2 with rfl | hbw
    · refine ⟨hcentred.mem, rfl, rfl, ?_⟩
      -- channel 5 is in the span, so it has to be described
      have hfive : (2432 : ℤ) ∈ frequencies (pinned caps 1 40 "2g" bitmap) "2g" := hsame.1 2432 (by decide)
      obtain ⟨x, hx, hxf⟩ := List.mem_filterMap.mp hfive
      rcases List.mem_cons.mp hx with rfl | hx
      · exact absurd hxf (by decide)
      · have hpart := (List.mem_filter.mp hx).1
        rw [parts_40 (by decide)] at hpart
        exact ((mem_htPart (by decide) le_rfl).mp hpart).1
    · -- the span begins below the band
      exfalso
      have hlow : (2422 - (csaBandwidth width : ℤ) / 2 + 10 + 20 * ((0 : ℕ) : ℤ)) ∈
          frequencies (pinned caps 1 width "2g" bitmap) "2g" := by
        refine hsame.1 _ (List.mem_map.mpr ⟨0, List.mem_range.mpr ?_, rfl⟩)
        omega
      obtain ⟨x, -, hxf⟩ := List.mem_filterMap.mp hlow
      have hle := channelToFreq_2g_le hxf
      omega
  · rintro ⟨-, rfl, rfl, hht⟩
    obtain ⟨-, hcentre, -, -⟩ := switchCommand_eq_some h
    have hat : centreFreq 1 40 "2g" = some 2422 := by decide
    have hs : s.centerFreq1 = 2422 := Option.some_inj.mp (hcentre.symm.trans hat)
    have hpinned : SameChannels (pinned caps 1 40 "2g" bitmap) [1, 5] :=
      agrees_40_2g.mpr ⟨by decide, hht, by decide⟩
    refine ⟨⟨?_, ?_⟩, ?_⟩
    · rw [hs]
      exact ⟨2412, rfl, 2432, rfl, rfl⟩
    · intro centre hindex
      exact absurd hindex (by simp [centreChannel])
    · rw [freqs_of_command h, hs]
      have hspan : (List.range (csaBandwidth 40 / 20)).map (fun (i : ℕ) =>
          (2422 : ℤ) - csaBandwidth 40 / 2 + 10 + 20 * (i : ℤ)) = frequencies [1, 5] "2g" := by decide
      rw [hspan]
      constructor
      · intro f hf
        obtain ⟨x, hx, hxf⟩ := List.mem_filterMap.mp hf
        exact List.mem_filterMap.mpr ⟨x, hpinned.2 x hx, hxf⟩
      · intro f hf
        obtain ⟨x, hx, hxf⟩ := List.mem_filterMap.mp hf
        exact List.mem_filterMap.mpr ⟨x, hpinned.1 x hx, hxf⟩

/-- At 240 MHz a command that is centred begins at channel 92, which nothing describes. -/
theorem not_lands_240_5g (h : switchCommand c 240 "5g" = some s) :
    ¬ (Centred c 240 "5g" s ∧ SameChannels s.freqs (frequencies (pinned caps c 240 "5g" bitmap) "5g")) := by
  rintro ⟨hcentred, hsame⟩
  have hall : ∀ block ∈ blocks5g 240, ∀ c ∈ block, ∀ s ∈ switchCommand c 240 "5g", Centred c 240 "5g" s →
      5460 ∈ s.freqs ∧ 116 ≤ c := by decide
  obtain ⟨hlow, hhigh⟩ := hall _ (mem_block5g (by decide) hcentred.mem) c hcentred.mem s h hcentred
  have hmem := hsame.1 5460 hlow
  rw [frequencies_5g, List.mem_map] at hmem
  obtain ⟨x, hx, hxf⟩ := hmem
  obtain rfl : x = 92 := by omega
  rcases List.mem_cons.mp hx with rfl | hx
  · omega
  · rcases (mem_parts_5g (by decide)).mp (List.mem_filter.mp hx).1 with ⟨-, hup⟩ | ⟨-, hlegacy⟩ | ⟨-, heht⟩
    · omega
    · rw [legacyBlock_240] at hlegacy
      exact absurd hlegacy (by decide)
    · rw [ehtBlock_240] at heht
      exact absurd heht (by decide)

theorem command_320_5g : ∀ block ∈ blocks5g 320, ∀ c ∈ block, ∀ s ∈ switchCommand c 320 "5g",
    Centred c 320 "5g" s ∧ s.freqs = frequencies csaSpan320 "5g" ∧
      (36 ∈ legacyBlock c 320 "5g" ∨ 128 ∈ legacyBlock c 320 "5g") ∧ ehtBlock c 320 "5g" = csaSpan320 := by
  decide

section Span320

variable (heht : ehtBlock c 320 "5g" = csaSpan320)

include heht

theorem mem_parts_320 (x : ℤ) : x ∈ parts caps c 320 "5g" ↔ (caps.ht = true ∧ x = c + 4) ∨
    ((caps.vht = true ∨ caps.he = true) ∧ x ∈ legacyBlock c 320 "5g") ∨ (caps.eht = true ∧ x ∈ csaSpan320) := by
  rw [mem_parts_5g (by decide), heht]

theorem out_in_span {x : ℤ} (hx : x ∈ punctured (ehtPart caps c 320 "5g") bitmap) : x ∈ csaSpan320 := by
  rw [← heht]
  exact ((mem_ehtPart (by decide)).mp (mem_punctured hx)).2

/-- The 160 MHz block that VHT and HE describe reaches beyond the span. -/
theorem legacy_beyond (hlegacy : 36 ∈ legacyBlock c 320 "5g" ∨ 128 ∈ legacyBlock c 320 "5g")
    (hon : caps.vht = true ∨ caps.he = true) : ¬ SameChannels (pinned caps c 320 "5g" bitmap) csaSpan320 := by
  intro hsame
  have hin : ∀ x, x ∈ legacyBlock c 320 "5g" → x ∈ csaSpan320 := by
    intro x hx
    by_contra hnot
    have hkept : x ∉ punctured (ehtPart caps c 320 "5g") bitmap := fun hout => hnot (out_in_span heht hout)
    have hpart : x ∈ parts caps c 320 "5g" := (mem_parts_320 heht x).mpr (.inr (.inl ⟨hon, hx⟩))
    exact hnot (hsame.1 x (List.mem_cons_of_mem c (List.mem_filter.mpr ⟨hpart, by simpa using hkept⟩)))
  rcases hlegacy with h36 | h128
  · exact absurd (hin 36 h36) (by decide)
  · exact absurd (hin 128 h128) (by decide)

theorem same_span320 (hlegacy : 36 ∈ legacyBlock c 320 "5g" ∨ 128 ∈ legacyBlock c 320 "5g") :
    SameChannels (pinned caps c 320 "5g" bitmap) csaSpan320 ↔
      caps.vht = false ∧ caps.he = false ∧ caps.eht = true ∧ c ∈ csaSpan320 ∧
        (caps.ht = true → c + 4 ∈ csaSpan320) ∧ Whole caps csaSpan320 bitmap c := by
  by_cases hon : caps.vht = true ∨ caps.he = true
  · constructor
    · exact fun h => absurd h (legacy_beyond heht hlegacy hon)
    · rintro ⟨hvht, hhe, -⟩
      rw [hvht, hhe] at hon
      exact absurd hon (by decide)
  · have hoff : caps.vht = false ∧ caps.he = false := by simpa [not_or] using hon
    by_cases hspan : c ∈ csaSpan320
    · by_cases heon : caps.eht = true
      · have hmem : ∀ x, x ∈ parts caps c 320 "5g" ↔ x ∈ csaSpan320 ∨ caps.ht = true ∧ x = c + 4 := by
          intro x
          rw [mem_parts_320 heht]
          tauto
        have hout : ∀ x ∈ punctured (ehtPart caps c 320 "5g") bitmap, x ∈ csaSpan320 :=
          fun x hx => out_in_span heht hx
        have hcover := same_covering hspan (by omega) hmem hout
        unfold pinned
        rw [hcover, whole_iff (by decide) heht]
        tauto
      · -- two channels do not make a span
        constructor
        · intro hsame
          exfalso
          have hfew : ∀ x ∈ csaSpan320, x = c ∨ x = c + 4 := by
            intro x hx
            rcases List.mem_cons.mp (hsame.2 x hx) with heq | hpart
            · exact .inl heq
            · have hmem := (mem_parts_320 heht x).mp (List.mem_filter.mp hpart).1
              tauto
          have h52 := hfew 52 (by decide)
          have h112 := hfew 112 (by decide)
          omega
        · exact fun h => absurd h.2.2.1 heon
    · constructor
      · exact fun h => absurd h (not_same hspan)
      · exact fun h => absurd h.2.2.2.1 hspan

end Span320

theorem lands_320_5g (h : switchCommand c 320 "5g" = some s) :
    (Centred c 320 "5g" s ∧ SameChannels s.freqs (frequencies (pinned caps c 320 "5g" bitmap) "5g")) ↔
      c ∈ bondedChannels c 320 "5g" ∧ caps.vht = false ∧ caps.he = false ∧ caps.eht = true ∧ c ∈ csaSpan320 ∧
        (caps.ht = true → c + 4 ∈ csaSpan320) ∧ Whole caps csaSpan320 bitmap c := by
  by_cases hc : c ∈ bondedChannels c 320 "5g"
  · obtain ⟨hcentred, hfreqs, hlegacy, heht⟩ := command_320_5g _ (mem_block5g (by decide) hc) c hc s h
    rw [hfreqs, same_frequencies (.inl rfl), same_span320 heht hlegacy]
    exact ⟨fun h => ⟨hc, h.2⟩, fun h => ⟨hcentred, h.2⟩⟩
  · constructor
    · exact fun h => absurd h.1.mem hc
    · exact fun h => absurd h.1 hc

/-! ### 6 GHz -/

/-- The first channel of the aligned block. -/
def blockStart (c : ℤ) (n : ℕ) : ℤ := (c - 1) / 4 / n * n * 4 + 1

theorem frequencies_aligned (c : ℤ) (n : ℕ) :
    frequencies (aligned c n) "6g" = (List.range n).map fun (i : ℕ) => 5950 + 5 * blockStart c n + 20 * (i : ℤ) := by
  rw [frequencies_6g]
  unfold aligned blockStart
  rw [List.map_map]
  refine List.map_congr_left fun i _ => ?_
  simp only [Function.comp_apply]
  ring

theorem sum_progression (a : ℤ) (n : ℕ) :
    ((List.range n).map fun (i : ℕ) => a + 20 * (i : ℤ)).sum = n * (a + 10 * ((n : ℤ) - 1)) := by
  induction n with
  | zero => simp
  | succ n ih =>
    rw [List.range_succ, List.map_append, List.sum_append, ih]
    simp only [List.map_cons, List.map_nil, List.sum_cons, List.sum_nil]
    push_cast
    ring

theorem widthSubchannels_pos (width : ℕ) : 0 < widthSubchannels width := by
  unfold widthSubchannels
  split <;> decide

theorem occupiedChannels_6g {width : ℕ} (hwidth : ¬ width ≤ 20) (c : ℤ) :
    occupiedChannels c width "6g" = aligned c (widthSubchannels width) := by
  simp [occupiedChannels, hwidth, aligned, ← List.map_eq_flatMap, Function.comp_def]

/-- No channel of the block is at 0 MHz. -/
theorem nonzero_aligned (c : ℤ) (n : ℕ) :
    (frequencies (aligned c n) "6g").filter (fun f => f ≠ 0) = frequencies (aligned c n) "6g" := by
  rw [List.filter_eq_self]
  intro f hf
  rw [frequencies_aligned, List.mem_map] at hf
  obtain ⟨i, -, rfl⟩ := hf
  unfold blockStart
  rw [decide_eq_true_eq]
  omega

/-- The centre of the aligned block. -/
theorem centreFreq_6g {width : ℕ} (hwidth : ¬ width ≤ 20) :
    centreFreq c width "6g" = some (5950 + 5 * blockStart c (widthSubchannels width) +
      10 * ((widthSubchannels width : ℤ) - 1)) := by
  have hpos := widthSubchannels_pos width
  have hlength : (frequencies (aligned c (widthSubchannels width)) "6g").length = widthSubchannels width := by
    rw [frequencies_aligned, List.length_map, List.length_range]
  unfold centreFreq
  rw [if_neg hwidth, occupiedChannels_6g hwidth]
  simp only [nonzero_aligned]
  rw [if_neg, hlength, frequencies_aligned, sum_progression, Int.mul_tdiv_cancel_left _ (by omega)]
  rw [List.isEmpty_iff, ← List.length_eq_zero_iff, hlength]
  omega

theorem midpoint_aligned (c : ℤ) {n : ℕ} (hn : 0 < n) :
    Midpoint (5950 + 5 * blockStart c n + 10 * ((n : ℤ) - 1)) (frequencies (aligned c n) "6g") := by
  rw [frequencies_aligned]
  obtain ⟨m, rfl⟩ : ∃ m, n = m + 1 := ⟨n - 1, by omega⟩
  refine ⟨5950 + 5 * blockStart c (m + 1), ?_, 5950 + 5 * blockStart c (m + 1) + 20 * (m : ℤ), ?_, ?_⟩
  · rw [List.head?_map, List.head?_range]
    simp
  · rw [List.getLast?_map, List.getLast?_range]
    simp
  · push_cast
    ring

/-- On 6 GHz the footprint is the bonded block, whose channels are evenly spaced. -/
theorem command_6g {width : ℕ} (hwidth : ¬ width ≤ 20) (h : switchCommand c width "6g" = some s)
    (hindex : ∀ centre ∈ centreChannel c width "6g",
      centre = blockStart c (widthSubchannels width) + ((widthSubchannels width : ℤ) - 1) * 2)
    (hc : c ∈ bondedChannels c width "6g") : Centred c width "6g" s := by
  obtain ⟨-, hcentre, -, -⟩ := switchCommand_eq_some h
  have hs := Option.some_inj.mp (hcentre.symm.trans (centreFreq_6g hwidth))
  have hpos := widthSubchannels_pos width
  refine ⟨?_, ?_⟩
  · rw [bonded_6g hwidth hc, hs]
    exact midpoint_aligned c hpos
  · intro centre hcentre
    rw [hindex centre hcentre, channelToFreq_6g, hs]
    congr 1
    ring

theorem freqs_6g {width : ℕ} (hwidth : ¬ width ≤ 20) (h : switchCommand c width "6g" = some s)
    (hband : csaBandwidth width = 20 * widthSubchannels width) (hc : c ∈ bondedChannels c width "6g") :
    s.freqs = frequencies (bondedChannels c width "6g") "6g" := by
  obtain ⟨-, hcentre, -, -⟩ := switchCommand_eq_some h
  have hs := Option.some_inj.mp (hcentre.symm.trans (centreFreq_6g hwidth))
  rw [freqs_of_command h, bonded_6g hwidth hc, frequencies_aligned, hband,
    Nat.mul_div_cancel_left _ (by decide : 0 < 20)]
  refine List.map_congr_left fun i _ => ?_
  rw [hs]
  push_cast
  omega

theorem lands_6g {width : ℕ} (hwidth : width ∈ [40, 80, 160, 320]) (h : switchCommand c width "6g" = some s) :
    (Centred c width "6g" s ∧ SameChannels s.freqs (frequencies (pinned caps c width "6g" bitmap) "6g")) ↔
      c ∈ bondedChannels c width "6g" ∧ Agrees caps c width "6g" bitmap := by
  have hnarrow : ¬ width ≤ 20 ∧ csaBandwidth width = 20 * widthSubchannels width := by
    have hall : ∀ w ∈ [40, 80, 160, 320], ¬ w ≤ 20 ∧ csaBandwidth w = 20 * widthSubchannels w := by decide
    exact hall width hwidth
  have hindex : ∀ centre ∈ centreChannel c width "6g",
      centre = blockStart c (widthSubchannels width) + ((widthSubchannels width : ℤ) - 1) * 2 := by
    intro centre hcentre
    simp only [List.mem_cons, List.not_mem_nil, or_false] at hwidth
    rcases hwidth with rfl | rfl | rfl | rfl
    · exact absurd hcentre (by simp [centreChannel])
    all_goals exact (Option.some_inj.mp hcentre).symm
  exact lands_iff_agrees (.inr rfl) (command_6g hnarrow.1 h hindex) (freqs_6g hnarrow.1 h hnarrow.2)

/-- At 240 MHz on 6 GHz twelve channels are bonded and sixteen named, around the same middle: no block of
sixteen channels begins there. -/
theorem not_lands_240_6g (h : switchCommand c 240 "6g" = some s) :
    ¬ (Centred c 240 "6g" s ∧ SameChannels s.freqs (frequencies (pinned caps c 240 "6g" bitmap) "6g")) := by
  rintro ⟨hcentred, hsame⟩
  obtain ⟨-, hcentre, -, -⟩ := switchCommand_eq_some h
  have hs : s.centerFreq1 = 5950 + 5 * blockStart c 12 + 110 :=
    Option.some_inj.mp (hcentre.symm.trans (centreFreq_6g (by decide)))
  have hin : ∀ x ∈ pinned caps c 240 "6g" bitmap, x ∈ aligned c 16 ∨ x = c := by
    intro x hx
    rcases List.mem_cons.mp hx with heq | hpart
    · exact .inr heq
    · left
      have hlegacy : legacyBlock c 240 "6g" = aligned c 8 := span_aligned 8
      have heht : ehtBlock c 240 "6g" = aligned c 16 := span_aligned 16
      rcases mem_parts_6g.mp (List.mem_filter.mp hpart).1 with ⟨-, hx⟩ | ⟨-, hx⟩ | hx
      · exact aligned_8_16 x (hlegacy ▸ hx)
      · exact heht ▸ hx
      · exact hx
  have hends : ∀ i : ℕ, i < 16 →
      ∃ x, (x ∈ aligned c 16 ∨ x = c) ∧ 5950 + x * 5 = s.centerFreq1 - 150 + 20 * (i : ℤ) := by
    intro i hi
    have hmem : s.centerFreq1 - ((csaBandwidth 240 : ℕ) : ℤ) / 2 + 10 + 20 * (i : ℤ) ∈ s.freqs := by
      rw [freqs_of_command h]
      exact List.mem_map.mpr ⟨i, List.mem_range.mpr hi, rfl⟩
    have hdescribed := hsame.1 _ hmem
    rw [frequencies_6g, List.mem_map] at hdescribed
    obtain ⟨x, hx, hxf⟩ := hdescribed
    have hhalf : ((csaBandwidth 240 : ℕ) : ℤ) / 2 = 160 := by decide
    exact ⟨x, hin x hx, by omega⟩
  have hblock : ∀ (n : ℕ) x, x ∈ aligned c n → blockStart c n ≤ x ∧ x ≤ blockStart c n + 4 * ((n : ℤ) - 1) := by
    intro n x hx
    obtain ⟨i, hi, rfl⟩ := mem_aligned.mp hx
    unfold blockStart
    omega
  have hprimary : c ∈ aligned c 12 := by
    have hc := hcentred.mem
    rwa [bonded_6g (by decide) hc] at hc
  have hprimary := hblock 12 c hprimary
  obtain ⟨low, hlow, hlowf⟩ := hends 0 (by decide)
  obtain ⟨high, hhigh, hhighf⟩ := hends 15 (by decide)
  have hlow := hblock 16 low (hlow.resolve_right (by omega))
  have hhigh := hblock 16 high (hhigh.resolve_right (by omega))
  unfold blockStart at *
  omega

end Widths

/-! ### The result -/

theorem rightBlock_iff_agrees {radio : Obj} {caps : LinkCaps} {c : ℤ} (hband : bandOf radio ∈ bandNames)
    (hwidth : widthOf radio ∈ widths) (hfive : widthOf radio = 320 → bandOf radio = "6g")
    (h240 : widthOf radio ≠ 240) (htwo : bandOf radio ≠ "2g") :
    RightBlock radio caps c ↔ Agrees caps c (widthOf radio) (bandOf radio) (bitmapOr radio (widthOf radio)) :=
  rightBlock_iff ⟨hband, hwidth, hfive, fun h => absurd h h240, fun h => absurd h htwo⟩ c

/-- **A live switch lands where a reconfiguration would** exactly under the condition, for every radio that is
set to a channel and whatever its link reports. -/
theorem switch_lands_iff {radio : Obj} {caps : LinkCaps} {c : ℤ} {s : ChanSwitch} (hband : bandOf radio ∈ bandNames)
    (hwidth : widthOf radio ∈ widths) (hc : channelOf radio = some c)
    (h : switchCommand c (widthOf radio) (bandOf radio) = some s) :
    LandsThere radio caps c s ↔ SwitchLands radio caps c := by
  have hparts : LandsThere radio caps c s ↔ Centred c (widthOf radio) (bandOf radio) s ∧
      SameChannels s.freqs (frequencies (pinned caps c (widthOf radio) (bandOf radio)
        (bitmapOr radio (widthOf radio))) (bandOf radio)) := by
    rw [← described_pinned hc]
    exact ⟨fun hlands => ⟨hlands.centred, hlands.same⟩, fun hboth => ⟨hboth.1, hboth.2⟩⟩
  have hright := @rightBlock_iff_agrees radio caps c hband hwidth
  rw [hparts]
  unfold SwitchLands
  dsimp only
  generalize RightBlock radio caps c = right at hright ⊢
  generalize bitmapOr radio (widthOf radio) = bitmap at hright ⊢
  generalize bandOf radio = band at *
  generalize widthOf radio = width at *
  simp only [bandNames, widths, List.mem_cons, List.not_mem_nil, or_false] at hband hwidth
  rcases hband with rfl | rfl | rfl
  · rcases hwidth with rfl | hwide
    · exact iff_of_true (command_20 h) (.inl rfl)
    · have hne : ¬ width = 20 := by omega
      rw [lands_2g (by simpa using hwide) h, if_pos rfl]
      simp only [hne, false_or]
  · rw [if_neg (by decide)]
    rcases hwidth with rfl | rfl | rfl | rfl | rfl | rfl
    · exact iff_of_true (command_20 h) (.inl rfl)
    · rw [lands_5g (by decide) h, hright (by decide) (by decide) (by decide)]
      simp
    · rw [lands_5g (by decide) h, hright (by decide) (by decide) (by decide)]
      simp
    · rw [lands_5g (by decide) h, hright (by decide) (by decide) (by decide)]
      simp
    · exact iff_of_false (not_lands_240_5g h) (by simp)
    · rw [lands_320_5g h]
      simp
  · rw [if_neg (by decide)]
    rcases hwidth with rfl | rfl | rfl | rfl | rfl | rfl
    · exact iff_of_true (command_20 h) (.inl rfl)
    · rw [lands_6g (by decide) h, hright (by decide) (by decide) (by decide)]
      simp
    · rw [lands_6g (by decide) h, hright (by decide) (by decide) (by decide)]
      simp
    · rw [lands_6g (by decide) h, hright (by decide) (by decide) (by decide)]
      simp
    · exact iff_of_false (not_lands_240_6g h) (by simp)
    · rw [lands_6g (by decide) h, hright (by simp) (by decide) (by decide)]
      simp

/-- Channel 36 at 80 MHz: the command names the block 36 to 48. -/
theorem switch_lands_36 : ∃ s, switchCommand 36 80 "5g" = some s ∧ s.centerFreq1 = 5210 ∧
    LandsThere (radio80 36) fullLink 36 s := by
  refine ⟨⟨10, 5180, 5210, 80, true, true, true, 0⟩, by decide, rfl, ?_⟩
  exact (switch_lands_iff (by decide) (by decide) rfl (by decide)).mpr (by decide)

/-- A radio of 2.4 GHz at 40 MHz on channel 6. -/
def radio40 : Obj := [("enabled", .bool true), ("band", .str "2g"), ("channel_width", .int 40), ("channel", .int 6)]

/-- Channel 6 at 40 MHz on 2.4 GHz: the command is centred on channel 6 instead of between 6 and 10. -/
theorem switch_misses_6 : channelOf radio40 = some 6 ∧ bondedChannels 6 40 "2g" = [6, 10] ∧
    ∃ s, switchCommand 6 40 "2g" = some s ∧ s.centerFreq1 = 2437 ∧ ¬ LandsThere radio40 fullLink 6 s := by
  refine ⟨by decide, by decide, ⟨10, 2437, 2437, 40, false, true, true, 0⟩, by decide, rfl, ?_⟩
  intro h
  have hmid : Midpoint 2437 (frequencies (bondedChannels 6 40 "2g") "2g") := h.centred.midpoint
  exact absurd hmid (by decide)

end Sbegw.Rf
