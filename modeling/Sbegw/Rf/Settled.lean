import Sbegw.Rf.Optimise
import Mathlib.Data.List.Sort
import Mathlib.Data.Rat.Floor
import Mathlib.Tactic.Linarith

/-!
# Optimisation settles

The channel a radio is on scores a bonus, and no other channel gains from a move.  So the channel that
was best stays best once the radio is there, however the scores are rounded, and a radio that always
moves to the best channel moves once.
-/

namespace Sbegw.Rf

/-! ### The first of a sorted list -/

theorem insertionSort_head {α : Type} {r : α → α → Prop} [DecidableRel r] [Std.Total r] [IsTrans α r]
    [Std.Refl r] {l : List α} {x : α} (h : (l.insertionSort r).head? = some x) :
    x ∈ l ∧ ∀ y ∈ l, r x y := by
  have hsorted := List.pairwise_insertionSort r l
  obtain ⟨rest, hrest⟩ : ∃ rest, l.insertionSort r = x :: rest := by
    obtain ⟨rest, hrest⟩ := List.head?_eq_some_iff.mp h
    exact ⟨rest, hrest⟩
  rw [hrest] at hsorted
  have hmem : ∀ y, y ∈ l ↔ y = x ∨ y ∈ rest := by
    intro y
    rw [← List.mem_insertionSort r, hrest, List.mem_cons]
  refine ⟨(hmem x).mpr (.inl rfl), ?_⟩
  intro y hy
  rcases (hmem y).mp hy with rfl | hlater
  · exact refl_of r y
  · exact (List.pairwise_cons.mp hsorted).1 y hlater

/-! ### The order of the candidates -/

instance : Std.Total Candidate.before where
  total a b := by
    unfold Candidate.before
    rcases lt_trichotomy a.score b.score with h | h | h
    · exact .inr (.inl h)
    · rcases le_total a.channel b.channel with hle | hle
      · exact .inl (.inr ⟨h, hle⟩)
      · exact .inr (.inr ⟨h.symm, hle⟩)
    · exact .inl (.inl h)

instance : Std.Refl Candidate.before where
  refl _ := .inr ⟨rfl, le_rfl⟩

instance : IsTrans Candidate Candidate.before where
  trans a b c hab hbc := by
    unfold Candidate.before at hab hbc ⊢
    rcases hab with hab | ⟨hab, hab'⟩ <;> rcases hbc with hbc | ⟨hbc, hbc'⟩
    · exact .inl (hbc.trans hab)
    · exact .inl (hbc ▸ hab)
    · exact .inl (hab ▸ hbc)
    · exact .inr ⟨hab.trans hbc, hab'.trans hbc'⟩

/-- The first of two candidates stays first when it loses nothing and the other gains nothing. -/
theorem Candidate.channel_eq_of_before {a b a' b' : Candidate} (hfirst : a.before b) (hlater : b'.before a')
    (ha : a'.channel = a.channel) (hb : b'.channel = b.channel) (hgain : a.score ≤ a'.score)
    (hloss : b'.score ≤ b.score) : b'.channel = a.channel := by
  unfold Candidate.before at hfirst hlater
  rcases hlater with hlt | ⟨heq, hle⟩
  · rcases hfirst with hlt' | ⟨heq', -⟩
    · linarith
    · linarith
  · rcases hfirst with hlt' | ⟨-, hle'⟩
    · linarith
    · omega

/-! ### Scores with any rounding -/

/-- The score of a channel before it is clamped and rounded, on a radio that is elsewhere. -/
def baseScore (settings : Settings) (view : RadioView) (entry : ChannelInfo) : ℚ :=
  let covered := occupiedChannels entry.channel view.width view.band
  let block := view.channels.filter fun e => covered.contains e.channel
  let interference := (block.map ChannelInfo.interference).sum
  100 - min 55 (interference * 11)
    - (match mean (block.filterMap ChannelInfo.utilisation) with | some u => min 30 (u * (35 / 100)) | none => 0)
    - (match mean (block.filterMap ChannelInfo.noise) with | some n => max 0 (n + 95) * (12 / 10) | none => 0)
    - (if block.any ChannelInfo.dfs then if settings.avoidDfs then 25 else 6 else 0)
    - (if view.band = "6g" ∧ settings.preferPsc ∧ ¬ entry.psc then 4 else 0)

/-- `candidateOf`, where `rnd` rounds the score. -/
def candidateWith (rnd : ℚ → ℚ) (settings : Settings) (view : RadioView) (entry : ChannelInfo) : Candidate :=
  { candidateOf settings view entry with
    score := rnd (max 0 (baseScore settings view entry + if view.currentChannel = some entry.channel then 6 else 0)) }

theorem candidateWith_roundTo (settings : Settings) (view : RadioView) :
    candidateWith (roundTo 1) settings view = candidateOf settings view := rfl

def candidatesWith (rnd : ℚ → ℚ) (settings : Settings) (view : RadioView) : List Candidate :=
  ((view.channels.filter view.hosts).map (candidateWith rnd settings view)).insertionSort Candidate.before

/-- `recommend`, where `rnd` rounds the scores. -/
def recommendWith (rnd : ℚ → ℚ) (settings : Settings) (view : RadioView) (last : Option ℚ) (now : ℚ) :
    Recommendation :=
  let candidates := candidatesWith rnd settings view
  let best := candidates.head?
  let current := candidates.find? fun c => some c.channel = view.currentChannel
  let (shouldSwitch, reason) := decideSwitch settings view last now best current
  ⟨best, current, shouldSwitch, reason, candidates⟩

theorem recommendWith_roundTo : recommendWith (roundTo 1) = recommend := rfl

/-- The code's own rounding is monotone. -/
theorem roundTo_monotone (digits : ℕ) : Monotone (roundTo digits) := by
  intro p q hpq
  have hpow : (0 : ℚ) < 10 ^ digits := by positivity
  have hscaled : p * 10 ^ digits ≤ q * 10 ^ digits := mul_le_mul_of_nonneg_right hpq hpow.le
  unfold roundTo
  refine div_le_div_of_nonneg_right ?_ hpow.le
  generalize p * 10 ^ digits = x at hscaled ⊢
  generalize q * 10 ^ digits = y at hscaled ⊢
  have hx : ((x.floor : ℤ) : ℚ) ≤ x := Int.floor_le x
  have hlow : x.floor ≤ y.floor := Int.floor_le_floor hscaled
  refine Int.cast_le.mpr ?_
  rcases hlow.lt_or_eq with hlt | heq
  · split_ifs <;> omega
  · rw [← heq]
    split_ifs with h1 h2 h3 h4 <;> first | omega | linarith

/-! ### A radio on another channel -/

/-- The radio on a channel, at a runtime width; everything else is as it was. -/
def RadioView.on (view : RadioView) (channel : Option ℤ) (runtime : ℕ) : RadioView :=
  { view with currentChannel := channel, currentWidth := runtime }

/-- The scores are for the same width whatever the radio runs at, or it runs at the same width. -/
def RadioView.Keeps (view : RadioView) (runtime : ℕ) : Prop :=
  (view.on view.currentChannel runtime).width = view.width

instance (view : RadioView) (runtime : ℕ) : Decidable (view.Keeps runtime) :=
  inferInstanceAs (Decidable (_ = _))

theorem RadioView.keeps_of_configured {view : RadioView} {width : ℕ} (h : view.configuredWidth = some width)
    (hset : width ≠ 0) (runtime : ℕ) : view.Keeps runtime := by
  unfold RadioView.Keeps RadioView.width RadioView.on
  simp only [h]
  rw [if_pos hset, if_pos hset]

theorem RadioView.keeps_self (view : RadioView) : view.Keeps view.currentWidth := rfl

variable {view : RadioView} {runtime : ℕ}

@[simp] theorem RadioView.on_channels (channel : Option ℤ) : (view.on channel runtime).channels = view.channels := rfl

@[simp] theorem RadioView.on_currentChannel (channel : Option ℤ) :
    (view.on channel runtime).currentChannel = channel := rfl

theorem RadioView.on_width (h : view.Keeps runtime) (channel : Option ℤ) :
    (view.on channel runtime).width = view.width := h

theorem RadioView.on_hosts (h : view.Keeps runtime) (channel : Option ℤ) :
    (view.on channel runtime).hosts = view.hosts := by
  ext entry
  unfold RadioView.hosts
  rw [RadioView.on_width h]
  rfl

theorem baseScore_on (settings : Settings) (h : view.Keeps runtime) (channel : Option ℤ) (entry : ChannelInfo) :
    baseScore settings (view.on channel runtime) entry = baseScore settings view entry := by
  unfold baseScore
  rw [RadioView.on_width h]
  rfl

/-! ### The best channel stays best -/

variable {rnd : ℚ → ℚ} {settings : Settings}

@[simp] theorem candidateWith_channel (view : RadioView) (entry : ChannelInfo) :
    (candidateWith rnd settings view entry).channel = entry.channel := rfl

/-- The radio's own channel scores no less than it did from elsewhere. -/
theorem score_own (hrnd : Monotone rnd) {runtime' : ℕ} (h : view.Keeps runtime) (h' : view.Keeps runtime')
    (channel : Option ℤ) (entry : ChannelInfo) :
    (candidateWith rnd settings (view.on channel runtime) entry).score ≤
      (candidateWith rnd settings (view.on (some entry.channel) runtime') entry).score := by
  refine hrnd (max_le_max le_rfl ?_)
  rw [baseScore_on settings h, baseScore_on settings h', RadioView.on_currentChannel, RadioView.on_currentChannel,
    if_pos rfl]
  split_ifs <;> linarith

/-- No other channel scores more. -/
theorem score_other (hrnd : Monotone rnd) {runtime' : ℕ} (h : view.Keeps runtime) (h' : view.Keeps runtime')
    (channel : Option ℤ) {here : ℤ} {entry : ChannelInfo} (hne : entry.channel ≠ here) :
    (candidateWith rnd settings (view.on (some here) runtime') entry).score ≤
      (candidateWith rnd settings (view.on channel runtime) entry).score := by
  refine hrnd (max_le_max le_rfl ?_)
  rw [baseScore_on settings h, baseScore_on settings h', RadioView.on_currentChannel, RadioView.on_currentChannel,
    if_neg fun heq => hne (Option.some_inj.mp heq).symm]
  split_ifs <;> linarith

theorem mem_of_candidatesWith_head {best : Candidate} (h : (candidatesWith rnd settings view).head? = some best) :
    (∃ entry ∈ view.channels.filter view.hosts, candidateWith rnd settings view entry = best) ∧
      ∀ entry ∈ view.channels.filter view.hosts, best.before (candidateWith rnd settings view entry) := by
  obtain ⟨hmem, hfirst⟩ := insertionSort_head h
  obtain ⟨entry, hentry, rfl⟩ := List.mem_map.mp hmem
  exact ⟨⟨entry, hentry, rfl⟩, fun other hother => hfirst _ (List.mem_map_of_mem hother)⟩

theorem candidatesWith_head_of_mem {entry : ChannelInfo} (h : entry ∈ view.channels.filter view.hosts) :
    ∃ best, (candidatesWith rnd settings view).head? = some best := by
  have hmem : candidateWith rnd settings view entry ∈ candidatesWith rnd settings view :=
    (List.mem_insertionSort _).mpr (List.mem_map_of_mem h)
  exact List.isSome_head?.mpr (List.ne_nil_of_mem hmem) |> Option.isSome_iff_exists.mp

theorem best_stays (hrnd : Monotone rnd) {runtime' : ℕ} (h : view.Keeps runtime) (h' : view.Keeps runtime')
    {channel : Option ℤ} {best : Candidate}
    (hbest : (candidatesWith rnd settings (view.on channel runtime)).head? = some best) :
    ∃ again, (candidatesWith rnd settings (view.on (some best.channel) runtime')).head? = some again ∧
      again.channel = best.channel := by
  obtain ⟨⟨entry, hentry, rfl⟩, hfirst⟩ := mem_of_candidatesWith_head hbest
  rw [RadioView.on_channels, RadioView.on_hosts h] at hentry hfirst
  have hentry' : entry ∈ (view.on (some entry.channel) runtime').channels.filter
      (view.on (some entry.channel) runtime').hosts := by
    rw [RadioView.on_channels, RadioView.on_hosts h']
    exact hentry
  obtain ⟨again, hagain⟩ : ∃ again,
      (candidatesWith rnd settings (view.on (some entry.channel) runtime')).head? = some again :=
    candidatesWith_head_of_mem hentry'
  refine ⟨again, hagain, ?_⟩
  obtain ⟨⟨other, hother, rfl⟩, hlater⟩ := mem_of_candidatesWith_head hagain
  rw [RadioView.on_channels, RadioView.on_hosts h'] at hother
  by_cases hsame : other.channel = entry.channel
  · exact hsame
  · exact Candidate.channel_eq_of_before (hfirst other hother) (hlater entry hentry') rfl rfl
      (score_own hrnd h h' channel entry) (score_other hrnd h h' channel hsame)

/-! ### Repeated moves -/

/-- A call of `optimise` for the radio, and whether the switch succeeds if it comes to that. -/
structure Visit where
  call : Call
  runtime : ℕ
  last : Option ℚ
  now : ℚ
  applied : Bool

/-- What a call has analysed. -/
def Visit.analysed (rnd : ℚ → ℚ) (settings : Settings) (view : RadioView) (channel : Option ℤ) (v : Visit) : Analysed :=
  let seen := view.on channel v.runtime
  ⟨v.call, seen, recommendWith rnd settings seen v.last v.now, v.last, v.now⟩

/-- The radio's channel after a call. -/
def Visit.after (rnd : ℚ → ℚ) (settings : Settings) (view : RadioView) (channel : Option ℤ) (v : Visit) : Option ℤ :=
  match (v.analysed rnd settings view channel).target with
  | none => channel
  | some best => if v.applied then some best.channel else channel

/-- How often the channel changes over a run of calls. -/
def moves (rnd : ℚ → ℚ) (settings : Settings) (view : RadioView) : Option ℤ → List Visit → ℕ
  | _, [] => 0
  | channel, v :: rest =>
    let next := v.after rnd settings view channel
    (if next = channel then 0 else 1) + moves rnd settings view next rest

/-- The radio is on the channel that is best for it. -/
def Settled (rnd : ℚ → ℚ) (settings : Settings) (view : RadioView) (channel : Option ℤ) : Prop :=
  ∀ runtime, view.Keeps runtime → ∃ best,
    (candidatesWith rnd settings (view.on channel runtime)).head? = some best ∧ channel = some best.channel

/-- A settled radio is not moved. -/
theorem Settled.after {channel : Option ℤ} {v : Visit} (h : Settled rnd settings view channel)
    (hv : view.Keeps v.runtime) : v.after rnd settings view channel = channel := by
  unfold Visit.after
  cases htarget : (v.analysed rnd settings view channel).target with
  | none => rfl
  | some best =>
    obtain ⟨hbest, -, hmoved⟩ := target_eq_some htarget
    obtain ⟨best', hbest', hchannel⟩ := h v.runtime hv
    obtain rfl := Option.some_inj.mp (hbest.symm.trans hbest')
    exact absurd hchannel.symm hmoved

theorem Settled.moves {channel : Option ℤ} (h : Settled rnd settings view channel) {visits : List Visit}
    (hv : ∀ v ∈ visits, view.Keeps v.runtime) : moves rnd settings view channel visits = 0 := by
  induction visits with
  | nil => rfl
  | cons v rest ih =>
    have hstays := h.after (hv v List.mem_cons_self)
    simp only [Rf.moves, hstays, if_true, Nat.zero_add]
    exact ih fun w hw => hv w (List.mem_cons_of_mem v hw)

/-- A call that moves the radio settles it. -/
theorem settled_of_after (hrnd : Monotone rnd) {channel : Option ℤ} {v : Visit} (hv : view.Keeps v.runtime)
    (h : v.after rnd settings view channel ≠ channel) :
    Settled rnd settings view (v.after rnd settings view channel) := by
  unfold Visit.after at h ⊢
  cases htarget : (v.analysed rnd settings view channel).target with
  | none => simp only [htarget, ne_eq, not_true_eq_false] at h
  | some best =>
    simp only [htarget] at h ⊢
    obtain ⟨hbest, -, -⟩ := target_eq_some htarget
    cases happlied : v.applied with
    | false => simp [happlied] at h
    | true =>
      intro runtime hruntime
      obtain ⟨again, hagain, hchannel⟩ := best_stays hrnd hv hruntime hbest
      exact ⟨again, hagain, by rw [hchannel]; rfl⟩

theorem moves_le_one (hrnd : Monotone rnd) {visits : List Visit} (hv : ∀ v ∈ visits, view.Keeps v.runtime)
    (channel : Option ℤ) : moves rnd settings view channel visits ≤ 1 := by
  induction visits generalizing channel with
  | nil => exact Nat.zero_le 1
  | cons v rest ih =>
    have hrest : ∀ w ∈ rest, view.Keeps w.runtime := fun w hw => hv w (List.mem_cons_of_mem v hw)
    show (if v.after rnd settings view channel = channel then 0 else 1) +
      moves rnd settings view (v.after rnd settings view channel) rest ≤ 1
    by_cases hstays : v.after rnd settings view channel = channel
    · rw [if_pos hstays, Nat.zero_add]
      exact ih hrest _
    · have hsettled := settled_of_after hrnd (hv v List.mem_cons_self) hstays
      rw [if_neg hstays, hsettled.moves hrest]

/-- **No ping-pong**: the channel that is best from anywhere is best again once the radio is there, and
no move is asked for; and however often the radio is moved to its best channel, forced or not, it changes
its channel at most once. -/
theorem optimise_settles {rnd : ℚ → ℚ} (hrnd : Monotone rnd) (settings : Settings) (view : RadioView) :
    (∀ channel runtime last now best, view.Keeps runtime →
      (recommendWith rnd settings (view.on channel runtime) last now).best = some best →
      ∀ runtime' last' now', view.Keeps runtime' → ∃ again,
        (recommendWith rnd settings (view.on (some best.channel) runtime') last' now').best = some again ∧
          again.channel = best.channel ∧
          (recommendWith rnd settings (view.on (some best.channel) runtime') last' now').shouldSwitch = false) ∧
    ∀ channel visits, (∀ v ∈ visits, view.Keeps v.runtime) → moves rnd settings view channel visits ≤ 1 := by
  refine ⟨?_, fun channel visits hv => moves_le_one hrnd hv channel⟩
  intro channel runtime last now best hkeeps hbest runtime' last' now' hkeeps'
  obtain ⟨again, hagain, hchannel⟩ := best_stays hrnd hkeeps hkeeps' hbest
  refine ⟨again, hagain, hchannel, ?_⟩
  show (decideSwitch settings (view.on (some best.channel) runtime') last' now'
    (candidatesWith rnd settings (view.on (some best.channel) runtime')).head? _).1 = false
  rw [hagain]
  simp only [decideSwitch, RadioView.on_currentChannel]
  rw [if_pos hchannel]

/-- A forced call and a scheduled one move the radio off its crowded channel, once. -/
theorem optimise_settles_crowded :
    (∃ best again, (recommendWith (roundTo 1) .default ((crowded 149).on (some 36) 20) none 100000).best = some best ∧
      (recommendWith (roundTo 1) .default ((crowded 149).on (some best.channel) 80) none 100000).best = some again ∧
        again.channel = best.channel) ∧
    moves (roundTo 1) .default (crowded 149) (some 36)
      [⟨⟨[], true, false⟩, 20, none, 100000, true⟩, ⟨.scheduled, 80, none, 100000, true⟩] ≤ 1 := by
  have hset : (crowded 149).configuredWidth = some 20 := rfl
  have hkeeps := RadioView.keeps_of_configured hset (by decide)
  have hsettles := optimise_settles (roundTo_monotone 1) .default (crowded 149)
  refine ⟨?_, hsettles.2 _ _ fun v _ => hkeeps v.runtime⟩
  obtain ⟨⟨best, htarget, -⟩, -⟩ := crowded_moves 149 (by simp)
  have hbest := (target_eq_some htarget).1
  obtain ⟨again, hagain, hchannel, -⟩ :=
    hsettles.1 (some 36) 20 none 100000 best (hkeeps 20) hbest 80 none 100000 (hkeeps 80)
  exact ⟨best, again, hbest, hagain, hchannel⟩

end Sbegw.Rf
