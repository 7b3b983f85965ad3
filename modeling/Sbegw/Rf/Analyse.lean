import Sbegw.Rf.Optimise

/-!
# From the capability map to a switch

`analyse` builds the channels of a radio out of its capabilities, the neighbours that were heard and the last
survey.  A channel is scored for the configured width and applied at the width the radio runs at, and only
its primary channel has to allow an access point.
-/

namespace Sbegw.Rf

open Schema

/-! ### What `analyse` reads -/

/-- An entry of `channel_details`. -/
structure Detail where
  channel : ℤ
  disabled : Bool
  dfs : Bool
  psc : Bool
  noIr : Bool

structure Neighbour where
  channel : Option ℤ
  width : Option ℕ
  rssi : Option ℚ

structure SurveyEntry where
  frequencyMhz : Option ℤ
  noiseDbm : Option ℚ
  utilisationPercent : Option ℚ

/-- A radio as `analyse` finds it. -/
structure Surroundings where
  radio : String
  band : String
  details : List Detail
  /-- `configured.get("channel_width")` -/
  configuredWidth : Option ℕ
  /-- `runtime.get("channel")` -/
  runtimeChannel : Option ℤ
  /-- `runtime.get("width")` -/
  runtimeWidth : Option ℕ
  neighbours : List Neighbour
  survey : List SurveyEntry

/-- `value or other` -/
def orElse (value : Option ℕ) (other : ℕ) : ℕ :=
  match value with
  | some n => if n ≠ 0 then n else other
  | none => other

/-- `freq_to_channel` -/
def freqToChannel (freq : ℤ) : Option ℤ :=
  if 2412 ≤ freq ∧ freq ≤ 2484 then some (if freq = 2484 then 14 else (freq - 2407) / 5)
  else if 5150 ≤ freq ∧ freq ≤ 5895 then some ((freq - 5000) / 5)
  else if 5925 ≤ freq ∧ freq ≤ 7125 then some ((freq - 5950) / 5)
  else none

/-- What the neighbours put on a channel. -/
structure Load where
  count : ℕ
  weight : ℚ

/-- A neighbour at -50 dBm weighs 1, one of unknown strength 0.3. -/
def Neighbour.weight (n : Neighbour) : ℚ :=
  match n.rssi with
  | some rssi => max 0 ((rssi + 95) / 45)
  | none => 3 / 10

def addLoad (weight : ℚ) (load : Dict ℤ Load) (covered : ℤ) : Dict ℤ Load :=
  let slot := (Dict.lookup covered load).getD ⟨0, 0⟩
  Dict.set covered ⟨slot.count + 1, slot.weight + weight⟩ load

/-- A neighbour weighs on every channel that it covers. -/
def addNeighbour (band : String) (load : Dict ℤ Load) (n : Neighbour) : Dict ℤ Load :=
  match n.channel with
  | none => load
  | some channel => (occupiedChannels channel (orElse n.width 20) band).foldl (addLoad n.weight) load

/-- `survey_by_channel` -/
def surveyByChannel (survey : List SurveyEntry) : Dict ℤ SurveyEntry :=
  Dict.written (fun entry => (freqToChannel (entry.frequencyMhz.getD 0)).map fun c => (c, entry)) survey

/-- The entry of a channel that is not disabled. -/
def channelInfo (load : Dict ℤ Load) (survey : Dict ℤ SurveyEntry) (d : Detail) : ChannelInfo :=
  let slot := Dict.lookup d.channel load
  let entry := Dict.lookup d.channel survey
  { channel := d.channel
    dfs := d.dfs
    psc := d.psc
    noIr := d.noIr
    neighbourCount := (slot.map Load.count).getD 0
    interference := roundTo 2 ((slot.map Load.weight).getD 0)
    noise := entry.bind SurveyEntry.noiseDbm
    utilisation := entry.bind SurveyEntry.utilisationPercent }

/-- `analyse`, for one radio. -/
def analyse (r : Surroundings) : RadioView :=
  let load := r.neighbours.foldl (addNeighbour r.band) []
  let survey := surveyByChannel r.survey
  { radio := r.radio
    band := r.band
    configuredWidth := r.configuredWidth
    currentChannel := r.runtimeChannel
    currentWidth := orElse r.runtimeWidth (orElse r.configuredWidth 20)
    channels := (r.details.filter fun d => !d.disabled).map (channelInfo load survey) }

/-- What `optimise` finds out about the radio. -/
def analysed (settings : Settings) (r : Surroundings) (call : Call) (last : Option ℚ) (now : ℚ) : Analysed :=
  ⟨call, analyse r, recommend settings (analyse r) last now, last, now⟩

/-- The channel and the width that `optimise` hands to `apply_channel`. -/
def Analysed.applies (a : Analysed) : Option (ℤ × ℕ) := a.target.map fun best => (best.channel, a.view.currentWidth)

/-! ### The property -/

/-- The channel is enabled, and an access point may start on it. -/
def Usable (details : List Detail) (channel : ℤ) : Prop :=
  (∃ d ∈ details, d.channel = channel ∧ d.disabled = false) ∧
    ∀ d ∈ details, d.channel = channel → d.disabled = false → d.noIr = false

/-- **Only usable channels are recommended and applied**: every candidate has a block of usable channels, and
the best one is applied at the width it was scored for. -/
structure Sound (r : Surroundings) (a : Analysed) : Prop where
  usable : ∀ candidate ∈ a.recommendation.candidates,
    ∀ c ∈ bondedChannels candidate.channel candidate.width r.band, Usable r.details c
  width : ∀ best, a.target = some best → a.applies = some (best.channel, best.width)

/-- An enabled channel whose primary may start and whose block is enabled. -/
def Surroundings.Hosts (r : Surroundings) (d : Detail) : Prop :=
  let block := bondedChannels d.channel (analyse r).width r.band
  d.disabled = false ∧ d.noIr = false ∧ (r.band = "2g" → d.channel ∈ nonOverlapping2g) ∧ block ≠ [] ∧
    ∀ c ∈ block, ∃ e ∈ r.details, e.channel = c ∧ e.disabled = false

/-- No channel that hosts the width has a passive-only channel in its block. -/
def Surroundings.Clear (r : Surroundings) : Prop :=
  ∀ d ∈ r.details, r.Hosts d → ∀ e ∈ r.details, e.disabled = false → e.noIr = true →
    e.channel ∉ bondedChannels d.channel (analyse r).width r.band

/-- The radio runs at the width that is configured, if any is. -/
def Surroundings.RunsAsConfigured (r : Surroundings) : Prop :=
  orElse r.configuredWidth (analyse r).currentWidth = (analyse r).currentWidth

/-! ### Channels of the view -/

theorem orElse_ne_zero {value : Option ℕ} {other : ℕ} (h : other ≠ 0) : orElse value other ≠ 0 := by
  unfold orElse
  split
  · split_ifs with hn
    · exact hn
    · exact h
  · exact h

theorem currentWidth_ne_zero (r : Surroundings) : (analyse r).currentWidth ≠ 0 :=
  orElse_ne_zero (orElse_ne_zero (by decide))

/-- The width that is scored is the configured one, and without one the one the radio runs at. -/
theorem width_analyse (r : Surroundings) :
    (analyse r).width = orElse r.configuredWidth (analyse r).currentWidth := by
  have hcurrent := currentWidth_ne_zero r
  have hconfigured : (analyse r).configuredWidth = r.configuredWidth := rfl
  unfold RadioView.width orElse
  cases hwidth : r.configuredWidth with
  | none =>
    simp only [hconfigured, hwidth]
    rw [if_pos hcurrent]
  | some width =>
    simp only [hconfigured, hwidth]
    rw [if_pos hcurrent]

theorem mem_channels {r : Surroundings} {entry : ChannelInfo} : entry ∈ (analyse r).channels ↔
    ∃ d ∈ r.details, d.disabled = false ∧
      channelInfo (r.neighbours.foldl (addNeighbour r.band) []) (surveyByChannel r.survey) d = entry := by
  unfold analyse
  rw [List.mem_map]
  constructor
  · rintro ⟨d, hd, rfl⟩
    obtain ⟨hmem, hon⟩ := List.mem_filter.mp hd
    exact ⟨d, hmem, by simpa using hon, rfl⟩
  · rintro ⟨d, hmem, hon, rfl⟩
    exact ⟨d, List.mem_filter.mpr ⟨hmem, by simpa using hon⟩, rfl⟩

theorem any_channel {r : Surroundings} {c : ℤ} :
    ((analyse r).channels.any fun e => e.channel = c) = true ↔
      ∃ e ∈ r.details, e.channel = c ∧ e.disabled = false := by
  rw [List.any_eq_true]
  constructor
  · rintro ⟨entry, hentry, hc⟩
    obtain ⟨d, hd, hon, rfl⟩ := mem_channels.mp hentry
    exact ⟨d, hd, of_decide_eq_true hc, hon⟩
  · rintro ⟨d, hd, hc, hon⟩
    exact ⟨_, mem_channels.mpr ⟨d, hd, hon, rfl⟩, decide_eq_true hc⟩

/-- The channels that are scored are those that host the width. -/
theorem hosts_iff {r : Surroundings} {d : Detail} (hon : d.disabled = false) (load : Dict ℤ Load)
    (survey : Dict ℤ SurveyEntry) : (analyse r).hosts (channelInfo load survey d) = true ↔ r.Hosts d := by
  have hband : (analyse r).band = r.band := rfl
  unfold RadioView.hosts Surroundings.Hosts
  simp only [channelInfo, hband, Bool.and_eq_true, Bool.not_eq_true', List.all_eq_true, any_channel,
    List.isEmpty_eq_false_iff, hon, true_and]
  rw [Bool.and_eq_false_iff]
  simp only [decide_eq_false_iff_not, Bool.not_eq_false', List.contains_iff_mem]
  tauto

theorem mem_candidates {settings : Settings} {view : RadioView} {candidate : Candidate} :
    candidate ∈ candidatesOf settings view ↔
      ∃ entry ∈ view.channels, view.hosts entry = true ∧ candidateOf settings view entry = candidate := by
  unfold candidatesOf
  rw [List.mem_insertionSort, List.mem_map]
  simp only [List.mem_filter, and_assoc]

/-! ### The result -/

variable {settings : Settings} {r : Surroundings} {call : Call} {last : Option ℚ} {now : ℚ}

theorem candidates_usable_iff :
    (∀ candidate ∈ (analysed settings r call last now).recommendation.candidates,
      ∀ c ∈ bondedChannels candidate.channel candidate.width r.band, Usable r.details c) ↔ r.Clear := by
  have hcandidates : (analysed settings r call last now).recommendation.candidates =
      candidatesOf settings (analyse r) := rfl
  rw [hcandidates]
  constructor
  · intro h d hd hhosts e he hon hnoIr hblock
    have hmem : candidateOf settings (analyse r) (channelInfo _ _ d) ∈ candidatesOf settings (analyse r) :=
      mem_candidates.mpr ⟨_, mem_channels.mpr ⟨d, hd, hhosts.1, rfl⟩, (hosts_iff hhosts.1 _ _).mpr hhosts, rfl⟩
    have husable := (h _ hmem e.channel hblock).2 e he rfl hon
    exact absurd (hnoIr.symm.trans husable) (by decide)
  · intro h candidate hcandidate c hc
    obtain ⟨entry, hentry, hhosts, rfl⟩ := mem_candidates.mp hcandidate
    obtain ⟨d, hd, hon, rfl⟩ := mem_channels.mp hentry
    have hhosts := (hosts_iff hon _ _).mp hhosts
    refine ⟨hhosts.2.2.2.2 c hc, ?_⟩
    intro e he hec hon'
    by_contra hnoIr
    refine h d hd hhosts e he hon' (by simpa using hnoIr) ?_
    rw [hec]
    exact hc

theorem best_width {best : Candidate} (h : (analysed settings r call last now).target = some best) :
    best.width = (analyse r).width := by
  have hbest := (target_eq_some h).1
  have hmem : best ∈ candidatesOf settings (analyse r) := List.mem_of_mem_head? hbest
  obtain ⟨entry, -, -, rfl⟩ := mem_candidates.mp hmem
  rfl

/-- **Recommended and applied channels are usable** exactly when no block that is scored has a passive-only
channel, and the radio, if it is moved, runs at the width that is configured. -/
theorem sound_iff (settings : Settings) (r : Surroundings) (call : Call) (last : Option ℚ) (now : ℚ) :
    Sound r (analysed settings r call last now) ↔
      r.Clear ∧ ((analysed settings r call last now).target = none ∨ r.RunsAsConfigured) := by
  have hparts : Sound r (analysed settings r call last now) ↔
      (∀ candidate ∈ (analysed settings r call last now).recommendation.candidates,
        ∀ c ∈ bondedChannels candidate.channel candidate.width r.band, Usable r.details c) ∧
      ∀ best, (analysed settings r call last now).target = some best →
        (analysed settings r call last now).applies = some (best.channel, best.width) :=
    ⟨fun h => ⟨h.usable, h.width⟩, fun h => ⟨h.1, h.2⟩⟩
  rw [hparts, candidates_usable_iff]
  refine and_congr_right fun _ => ?_
  unfold Surroundings.RunsAsConfigured Analysed.applies
  rw [← width_analyse]
  cases htarget : (analysed settings r call last now).target with
  | none => simp
  | some best =>
    have hwidth := best_width htarget
    have hview : (analysed settings r call last now).view = analyse r := rfl
    constructor
    · intro h
      have happlied := h best rfl
      rw [Option.map_some, Option.some_inj, Prod.mk.injEq, hview, hwidth] at happlied
      exact .inr happlied.2.symm
    · intro h best' hbest'
      obtain rfl := Option.some_inj.mp hbest'
      rw [Option.map_some, hview, hwidth, h.resolve_left (by simp)]

/-- A radio that is configured for 80 MHz and runs at 40 MHz beside strong neighbours, and whose channel 40
is passive-only. -/
def mismatched : Surroundings where
  radio := "radio-5g"
  band := "5g"
  details := ⟨36, false, false, false, false⟩ :: ⟨40, false, false, false, true⟩ ::
    [44, 48, 149, 153, 157, 161].map fun c => ⟨c, false, false, false, false⟩
  configuredWidth := some 80
  runtimeChannel := some 149
  runtimeWidth := some 40
  neighbours := List.replicate 5 ⟨some 149, some 20, some (-50)⟩
  survey := []

/-- It is moved to channel 36, scored at 80 MHz over the passive-only channel and applied at 40 MHz. -/
theorem mismatched_switch :
    (∃ best, (analysed .default mismatched .scheduled none 100000).target = some best ∧ best.channel = 36 ∧
      best.width = 80 ∧ (analysed .default mismatched .scheduled none 100000).applies = some (36, 40) ∧
      40 ∈ bondedChannels 36 80 "5g" ∧ ¬ Usable mismatched.details 40) ∧
    ¬ Sound mismatched (analysed .default mismatched .scheduled none 100000) := by
  have hfacts : ((analysed .default mismatched .scheduled none 100000).target.any fun best =>
      best.channel = 36 ∧ best.width = 80) = true := by decide +kernel
  obtain ⟨best, htarget, hbest⟩ := (Option.any_eq_true _ _).mp hfacts
  obtain ⟨hchannel, hwidth⟩ := of_decide_eq_true hbest
  have happlies : (analysed .default mismatched .scheduled none 100000).applies = some (36, 40) := by
    unfold Analysed.applies
    rw [htarget, Option.map_some, hchannel]
    rfl
  refine ⟨⟨best, htarget, hchannel, hwidth, happlies, by decide, ?_⟩, ?_⟩
  · intro husable
    have hfree := husable.2 ⟨40, false, false, false, true⟩ (by simp [mismatched]) rfl rfl
    exact absurd hfree (by decide)
  · intro hsound
    have hsame := happlies.symm.trans (hsound.width best htarget)
    rw [hwidth] at hsame
    exact absurd (Prod.mk.inj (Option.some_inj.mp hsame)).2 (by decide)

end Sbegw.Rf
