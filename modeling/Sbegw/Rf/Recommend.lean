import Sbegw.Schema.Wifi
import Mathlib.Algebra.Order.Ring.Rat

/-!
# Channel recommendations

`recommend` scores the channels that could host a radio's width and says whether the radio should move
to the best one.  Scores are exact rationals, rounded where the code rounds.
-/

namespace Sbegw.Rf

open Schema

/-! ### Channels -/

/-- `NON_OVERLAPPING_2G` -/
def nonOverlapping2g : List ℤ := [1, 6, 11]

/-- `occupied_channels` -/
def occupiedChannels (channel : ℤ) (width : ℕ) (band : String) : List ℤ :=
  if band = "2g" then
    let spread : ℤ := if width ≤ 20 then 2 else 4
    ((List.range (2 * spread + 1).toNat).map fun i => channel - spread + (i : ℤ)).filter fun c =>
      1 ≤ c ∧ c ≤ 14
  else if width ≤ 20 then [channel]
  else if band = "5g" then ((blocks5g width).find? (·.contains channel)).getD [channel]
  else
    let count : ℤ := widthSubchannels width
    let start := (channel - 1) / 4 / count * count
    (List.range (widthSubchannels width)).map fun i => start * 4 + 1 + (i : ℤ) * 4

/-! ### What a recommendation is made of -/

/-- `wifi.channel_optimisation`, over `DEFAULTS`. -/
structure Settings where
  minInterval : ℚ
  minImprovement : ℚ
  avoidDfs : Bool
  preferPsc : Bool

/-- `DEFAULTS` -/
def Settings.default : Settings := ⟨6 * 3600, 15, false, true⟩

/-- An entry of `channels`: what is known about a channel that is not disabled. -/
structure ChannelInfo where
  channel : ℤ
  dfs : Bool
  psc : Bool
  noIr : Bool
  neighbourCount : ℕ
  interference : ℚ
  noise : Option ℚ
  utilisation : Option ℚ

/-- What `analyse` has found out about a radio. -/
structure RadioView where
  radio : String
  band : String
  /-- `configured.get("channel_width")` -/
  configuredWidth : Option ℕ
  currentChannel : Option ℤ
  currentWidth : ℕ
  channels : List ChannelInfo

structure Candidate where
  channel : ℤ
  score : ℚ
  width : ℕ
  interference : ℚ
  neighbourCount : ℕ
  utilisation : Option ℚ
  noise : Option ℚ
  dfs : Bool
  psc : Bool
  covers : List ℤ

/-- The reason that is given. -/
inductive Reason where
  | noneScored
  | noCurrent
  | alreadyBest
  | unscored (channel : ℤ) (width : ℕ) (best : ℤ)
  | smallGain (gain : ℚ)
  | holding (since interval : ℚ)
  | better (channel : ℤ) (gain : ℚ)

structure Recommendation where
  best : Option Candidate
  current : Option Candidate
  shouldSwitch : Bool
  reason : Reason
  candidates : List Candidate

/-! ### Scores -/

/-- `round(q, digits)`: ties go to the even neighbour. -/
def roundTo (digits : ℕ) (q : ℚ) : ℚ :=
  let scaled := q * 10 ^ digits
  let low := scaled.floor
  let rest := scaled - low
  let near := if rest < 1 / 2 then low else if 1 / 2 < rest then low + 1 else low + low % 2
  near / 10 ^ digits

/-- The mean of what is known. -/
def mean (xs : List ℚ) : Option ℚ := if xs.isEmpty then none else some (xs.sum / xs.length)

/-- The width that candidates are scored for. -/
def RadioView.width (view : RadioView) : ℕ :=
  match view.configuredWidth with
  | some width => if width ≠ 0 then width else if view.currentWidth ≠ 0 then view.currentWidth else 20
  | none => if view.currentWidth ≠ 0 then view.currentWidth else 20

/-- The channel can host the width, and an access point may start there. -/
def RadioView.hosts (view : RadioView) (entry : ChannelInfo) : Bool :=
  let required := bondedChannels entry.channel view.width view.band
  !entry.noIr && !(view.band = "2g" && !nonOverlapping2g.contains entry.channel) &&
    !required.isEmpty && required.all fun c => view.channels.any fun e => e.channel = c

/-- The candidate of a channel. -/
def candidateOf (settings : Settings) (view : RadioView) (entry : ChannelInfo) : Candidate :=
  let covered := occupiedChannels entry.channel view.width view.band
  let block := view.channels.filter fun e => covered.contains e.channel
  let interference := (block.map ChannelInfo.interference).sum
  let utilisation := mean (block.filterMap ChannelInfo.utilisation)
  let noise := mean (block.filterMap ChannelInfo.noise)
  let hasDfs := block.any ChannelInfo.dfs
  let score : ℚ := 100 - min 55 (interference * 11)
    - (match utilisation with | some u => min 30 (u * (35 / 100)) | none => 0)
    - (match noise with | some n => max 0 (n + 95) * (12 / 10) | none => 0)
    - (if hasDfs then if settings.avoidDfs then 25 else 6 else 0)
    - (if view.band = "6g" ∧ settings.preferPsc ∧ ¬ entry.psc then 4 else 0)
    -- staying put has a value of its own
    + (if view.currentChannel = some entry.channel then 6 else 0)
  { channel := entry.channel
    score := roundTo 1 (max 0 score)
    width := view.width
    interference := roundTo 2 interference
    neighbourCount := (block.map ChannelInfo.neighbourCount).sum
    utilisation := utilisation.map (roundTo 1)
    noise := noise.map (roundTo 1)
    dfs := hasDfs
    psc := entry.psc
    covers := covered }

/-- The order of the candidates: `(-score, channel)`. -/
def Candidate.before (a b : Candidate) : Prop := b.score < a.score ∨ a.score = b.score ∧ a.channel ≤ b.channel

instance : DecidableRel Candidate.before := fun _ _ => inferInstanceAs (Decidable (_ ∨ _))

def candidatesOf (settings : Settings) (view : RadioView) : List Candidate :=
  ((view.channels.filter view.hosts).map (candidateOf settings view)).insertionSort Candidate.before

/-! ### The decision -/

/-- Whether to move to `best`, and why; `last` is what `_last_switch` has for the radio. -/
def decideSwitch (settings : Settings) (view : RadioView) (last : Option ℚ) (now : ℚ)
    (best current : Option Candidate) : Bool × Reason :=
  match best with
  | none => (false, .noneScored)
  | some best =>
    match view.currentChannel with
    | none => (true, .noCurrent)
    | some channel =>
      if best.channel = channel then (false, .alreadyBest)
      else
        match current with
        | none => (true, .unscored channel view.width best.channel)
        | some current =>
          let gain := best.score - current.score
          let since := now - last.getD 0
          if gain < settings.minImprovement then (false, .smallGain gain)
          else if since < settings.minInterval then (false, .holding since settings.minInterval)
          else (true, .better best.channel gain)

/-- `recommend` -/
def recommend (settings : Settings) (view : RadioView) (last : Option ℚ) (now : ℚ) : Recommendation :=
  let candidates := candidatesOf settings view
  let best := candidates.head?
  let current := candidates.find? fun c => some c.channel = view.currentChannel
  let (shouldSwitch, reason) := decideSwitch settings view last now best current
  ⟨best, current, shouldSwitch, reason, candidates⟩

/-- **The guards**: a radio is told to leave a channel that is scored only for a sufficient gain, and
only when its last switch is long enough ago. -/
theorem recommend_guards {settings : Settings} {view : RadioView} {last : Option ℚ} {now : ℚ}
    (h : (recommend settings view last now).shouldSwitch = true) {current : Candidate}
    (hcurrent : (recommend settings view last now).current = some current) :
    ∃ best, (recommend settings view last now).best = some best ∧
      settings.minImprovement ≤ best.score - current.score ∧
      settings.minInterval ≤ now - last.getD 0 := by
  have hdecide : (decideSwitch settings view last now (candidatesOf settings view).head?
      (some current)).1 = true := by
    rw [← hcurrent]
    exact h
  have hscored : some current.channel = view.currentChannel := by
    have hfound := List.find?_some hcurrent
    exact of_decide_eq_true hfound
  show ∃ best, (candidatesOf settings view).head? = some best ∧ _
  cases hbest : (candidatesOf settings view).head? with
  | none =>
    rw [hbest] at hdecide
    exact absurd hdecide (by simp [decideSwitch])
  | some best =>
    refine ⟨best, rfl, ?_⟩
    rw [hbest] at hdecide
    simp only [decideSwitch, ← hscored] at hdecide
    by_cases hsame : best.channel = current.channel
    · rw [if_pos hsame] at hdecide
      exact absurd hdecide (by simp)
    · rw [if_neg hsame] at hdecide
      by_cases hgain : best.score - current.score < settings.minImprovement
      · rw [if_pos hgain] at hdecide
        exact absurd hdecide (by simp)
      · rw [if_neg hgain] at hdecide
        by_cases hsince : now - last.getD 0 < settings.minInterval
        · rw [if_pos hsince] at hdecide
          exact absurd hdecide (by simp)
        · exact ⟨not_lt.mp hgain, not_lt.mp hsince⟩

end Sbegw.Rf
