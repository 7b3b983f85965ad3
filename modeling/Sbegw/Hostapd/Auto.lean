import Sbegw.Hostapd.Band

/-!
# The channel of an automatic radio

`default_channel` takes the first usable channel of a fixed order and looks at the width only for 240 MHz.
The channel can carry the width exactly when some usable channel that can comes before every one that
cannot.
-/

namespace Sbegw.Hostapd

open Schema

/-! ### What a channel has to carry -/

/-- The channels that are not disabled. -/
def enabled (caps : LinkCaps) : List ℤ := (caps.details.filter fun d => !d.disabled).map ChannelDetail.channel

/-- The channel hosts the width on enabled channels, and has a centre where hostapd needs one. -/
def Carries (band : String) (caps : LinkCaps) (width : ℕ) (channel : ℤ) : Prop :=
  bondedChannels channel width band ≠ [] ∧ (∀ c ∈ bondedChannels channel width band, c ∈ enabled caps) ∧
    (80 ≤ width → band = "5g" ∨ band = "6g" → (centreChannel channel width band).isSome = true)

instance (band : String) (caps : LinkCaps) (width : ℕ) : DecidablePred (Carries band caps width) :=
  fun _ => inferInstanceAs (Decidable (_ ∧ _))

/-- Some channel on which an access point may start hosts the width on enabled channels. -/
def Feasible (band : String) (caps : LinkCaps) (width : ℕ) : Prop :=
  ∃ d ∈ caps.details, (d.disabled = false ∧ d.noIr = false) ∧ bondedChannels d.channel width band ≠ [] ∧
    ∀ c ∈ bondedChannels d.channel width band, c ∈ enabled caps

instance (band : String) (caps : LinkCaps) (width : ℕ) : Decidable (Feasible band caps width) :=
  inferInstanceAs (Decidable (∃ d ∈ caps.details, _))

/-! ### The order of the choice -/

/-- `usable` -/
def usable (caps : LinkCaps) : List ℤ :=
  let free := (caps.details.filter fun d => !d.disabled && !d.noIr && !d.dfs).map ChannelDetail.channel
  if free.isEmpty then enabled caps else free

/-- `c` is preferred to `d`: it comes earlier among the anchors, or neither is one and it is lower. -/
def Preferred (band : String) (c d : ℤ) : Prop :=
  (channelPreference band).idxOf c < (channelPreference band).idxOf d ∨
    (channelPreference band).idxOf c = (channelPreference band).idxOf d ∧ c < d

instance (band : String) : DecidableRel (Preferred band) := fun _ _ => inferInstanceAs (Decidable (_ ∨ _))

theorem Preferred.asymm {band : String} {c d : ℤ} (h : Preferred band c d) : ¬ Preferred band d c := by
  unfold Preferred at h ⊢
  omega

/-- The first anchor of a list that is in a set comes before all others of the set. -/
theorem idxOf_lt_of_find {p : ℤ → Bool} {l : List ℤ} {c d : ℤ} (h : l.find? p = some c) (hd : p d = true)
    (hne : d ≠ c) : l.idxOf c < l.idxOf d := by
  induction l with
  | nil => exact absurd h (by simp)
  | cons a l ih =>
    by_cases ha : p a = true
    · rw [List.find?_cons_of_pos ha] at h
      obtain rfl := Option.some_inj.mp h
      rw [List.idxOf_cons_self, List.idxOf_cons_ne l hne.symm]
      omega
    · rw [List.find?_cons_of_neg ha] at h
      have hc : p c = true := List.find?_some h
      have hac : a ≠ c := fun heq => ha (heq ▸ hc)
      have had : a ≠ d := fun heq => ha (heq ▸ hd)
      rw [List.idxOf_cons_ne l hac, List.idxOf_cons_ne l had]
      have hlt := ih h
      omega

theorem foldl_min_le (cs : List ℤ) (c : ℤ) : cs.foldl min c ≤ c ∧ ∀ d ∈ cs, cs.foldl min c ≤ d := by
  induction cs generalizing c with
  | nil => exact ⟨le_rfl, fun d hd => absurd hd List.not_mem_nil⟩
  | cons a cs ih =>
    rw [List.foldl_cons]
    obtain ⟨hle, hall⟩ := ih (min c a)
    refine ⟨hle.trans (min_le_left c a), ?_⟩
    intro d hd
    rcases List.mem_cons.mp hd with rfl | hd
    · exact hle.trans (min_le_right c d)
    · exact hall d hd

theorem foldl_min_mem (cs : List ℤ) (c : ℤ) : cs.foldl min c ∈ c :: cs := by
  induction cs generalizing c with
  | nil => exact List.mem_singleton_self c
  | cons a cs ih =>
    rw [List.foldl_cons]
    have hmem := ih (min c a)
    rcases List.mem_cons.mp hmem with heq | hin
    · rw [heq]
      rcases min_choice c a with h | h <;> rw [h] <;> simp
    · exact List.mem_cons_of_mem c (List.mem_cons_of_mem a hin)

theorem defaultChannel_of_anchor {band : String} {caps : LinkCaps} {width : ℕ}
    (hwidth : ¬ (band = "5g" ∧ width = 240)) {channel : ℤ}
    (h : (channelPreference band).find? (usable caps).contains = some channel) :
    defaultChannel band caps width = channel := by
  unfold usable enabled at h
  unfold defaultChannel
  rw [if_neg hwidth]
  simp only [h]

theorem defaultChannel_of_none {band : String} {caps : LinkCaps} {width : ℕ}
    (hwidth : ¬ (band = "5g" ∧ width = 240))
    (h : (channelPreference band).find? (usable caps).contains = none) {c : ℤ} {cs : List ℤ}
    (husable : usable caps = c :: cs) : defaultChannel band caps width = cs.foldl min c := by
  rw [husable] at h
  unfold usable enabled at husable
  unfold defaultChannel
  rw [if_neg hwidth]
  simp only [husable, h]

/-- **The chosen channel is the first** of the usable ones. -/
theorem defaultChannel_first {band : String} {caps : LinkCaps} {width : ℕ} (hwidth : ¬ (band = "5g" ∧ width = 240))
    (husable : usable caps ≠ []) :
    defaultChannel band caps width ∈ usable caps ∧
      ∀ d ∈ usable caps, d ≠ defaultChannel band caps width → Preferred band (defaultChannel band caps width) d := by
  cases hfind : (channelPreference band).find? (usable caps).contains with
  | some channel =>
    rw [defaultChannel_of_anchor hwidth hfind]
    have hmem : (usable caps).contains channel = true := List.find?_some hfind
    refine ⟨List.contains_iff_mem.mp hmem, ?_⟩
    intro d hd hne
    exact .inl (idxOf_lt_of_find hfind (List.contains_iff_mem.mpr hd) hne)
  | none =>
    obtain ⟨c, cs, hcs⟩ := List.exists_cons_of_ne_nil husable
    rw [defaultChannel_of_none hwidth hfind hcs, hcs]
    refine ⟨foldl_min_mem cs c, ?_⟩
    intro d hd hne
    -- no usable channel is an anchor
    have hrank : ∀ x ∈ c :: cs, (channelPreference band).idxOf x = (channelPreference band).length := by
      intro x hx
      rw [List.idxOf_eq_length_iff]
      intro hanchor
      exact List.find?_eq_none.mp hfind x hanchor (List.contains_iff_mem.mpr (hcs ▸ hx))
    have hle : cs.foldl min c ≤ d := by
      obtain ⟨hfirst, hall⟩ := foldl_min_le cs c
      rcases List.mem_cons.mp hd with rfl | hd
      · exact hfirst
      · exact hall d hd
    refine .inr ⟨?_, lt_of_le_of_ne hle hne.symm⟩
    rw [hrank d hd, hrank _ (foldl_min_mem cs c)]

/-! ### When the choice carries the width -/

/-- The block of channel 100 at 240 MHz. -/
def primaryBlock240 : List ℤ := [36, 40, 44, 48, 52, 56, 60, 64, 100, 104, 108, 112]

/-- **The condition**: at 240 MHz on 5 GHz the channels 36 to 64 and 100 to 112 are all enabled, and otherwise
some usable channel that carries the width is preferred to every usable one that does not. -/
def AutoFits (band : String) (caps : LinkCaps) (width : ℕ) : Prop :=
  if band = "5g" ∧ width = 240 then ∀ c ∈ primaryBlock240, c ∈ enabled caps
  else ∃ c ∈ usable caps, Carries band caps width c ∧
    ∀ d ∈ usable caps, ¬ Carries band caps width d → Preferred band c d

/-- Without a usable channel there is no enabled one. -/
theorem enabled_eq_nil {caps : LinkCaps} (h : usable caps = []) : enabled caps = [] := by
  unfold usable at h
  simp only at h
  split at h
  · exact h
  · next hfree => exact absurd (by rw [h]; rfl) hfree

theorem not_carries_of_unusable {band : String} {caps : LinkCaps} {width : ℕ} {c : ℤ} (h : usable caps = []) :
    ¬ Carries band caps width c := by
  rintro ⟨hne, hin, -⟩
  obtain ⟨x, hx⟩ := List.exists_mem_of_ne_nil _ hne
  have hmem := hin x hx
  rw [enabled_eq_nil h] at hmem
  exact absurd hmem List.not_mem_nil

/-- **An automatic channel carries the width** exactly under the condition. -/
theorem default_carries_iff (band : String) (caps : LinkCaps) (width : ℕ) :
    Carries band caps width (defaultChannel band caps width) ↔ AutoFits band caps width := by
  unfold AutoFits
  by_cases hwidth : band = "5g" ∧ width = 240
  · obtain ⟨rfl, rfl⟩ := hwidth
    rw [if_pos ⟨rfl, rfl⟩]
    have hchosen : defaultChannel "5g" caps 240 = 100 := if_pos ⟨rfl, rfl⟩
    have hblock : bondedChannels 100 240 "5g" = primaryBlock240 := by decide
    have hcentre : (centreChannel 100 240 "5g").isSome = true := by decide
    unfold Carries
    rw [hchosen, hblock]
    constructor
    · exact fun h => h.2.1
    · exact fun h => ⟨by decide, h, fun _ _ => hcentre⟩
  · rw [if_neg hwidth]
    by_cases husable : usable caps = []
    · constructor
      · exact fun h => absurd h (not_carries_of_unusable husable)
      · rintro ⟨c, -, hc, -⟩
        exact absurd hc (not_carries_of_unusable husable)
    · obtain ⟨hmem, hfirst⟩ := defaultChannel_first hwidth husable
      constructor
      · intro h
        refine ⟨_, hmem, h, ?_⟩
        intro d hd hnot
        exact hfirst d hd fun heq => hnot (heq ▸ h)
      · rintro ⟨c, hc, hcarries, hbefore⟩
        by_contra hnot
        have hpreferred := hbefore _ hmem hnot
        by_cases hsame : c = defaultChannel band caps width
        · exact hnot (hsame ▸ hcarries)
        · exact hpreferred.asymm (hfirst c hc hsame)

/-- A 5 GHz radio whose channel 40 is disabled, and on which the block of 149 is whole. -/
def brokenLowBlock : LinkCaps :=
  ⟨true, true, true, true, ⟨36, false, false, false⟩ :: ⟨40, true, false, false⟩ ::
    [44, 48, 149, 153, 157, 161].map fun c => ⟨c, false, false, false⟩⟩

/-- The anchor 36 is chosen at 80 MHz, although its block is broken and another one is whole. -/
theorem auto_picks_broken_block : Feasible "5g" brokenLowBlock 80 ∧ defaultChannel "5g" brokenLowBlock 80 = 36 ∧
    ¬ Carries "5g" brokenLowBlock 80 (defaultChannel "5g" brokenLowBlock 80) := by decide

end Sbegw.Hostapd
