import Sbegw.Hwd.Duty
import Mathlib.Tactic.Linarith

/-!
# Hysteresis

Under one curve the level follows the temperature up at once, and goes down from a level only below the
lowest threshold of that level, less the hysteresis.  A curve need not have the top level, which the hot
trip forces: from there the level goes down as soon as the temperature is below the trip.
-/

namespace Sbegw.Hwd

open Machine Text

/-! ### Ticks under one curve -/

/-- A tick in the mode of a curve, with a temperature, a fan and successful writes. -/
structure CurveTick (mode : String) (t : FanTick) : Prop where
  curve : mode ≠ "auto" ∧ mode ≠ "max" ∧ mode ≠ "manual"
  mode : fanMode t.cfg = .str mode
  reads : ∃ temperature, controlTemperature t.thermal = some temperature
  fans : controllable t.thermal ≠ []
  takes : ∀ f ∈ controllable t.thermal, t.takes f.path = true

/-- The step goes down from the level. -/
def Falls (x : FanRun) (m : Level) : Prop :=
  x.pre.manager.fanLevel = some m ∧ ∃ m' < m, x.post.manager.fanLevel = some m'

/-- The step goes up to the level, from a lower one. -/
def Rises (x : FanRun) (m : Level) : Prop :=
  x.post.manager.fanLevel = some m ∧ ∃ m' < m, x.pre.manager.fanLevel = some m'

/-- The temperature is below the lowest threshold of the level, less the hysteresis. -/
def Cleared (c : Curve) (m : Level) (temperature : ℚ) : Prop :=
  ∃ lowest, c.lowest m = some lowest ∧ temperature < lowest - fanHysteresis

/-- The temperature is at or above the lowest threshold of the level. -/
def Reached (c : Curve) (m : Level) (temperature : ℚ) : Prop :=
  ∃ lowest, c.lowest m = some lowest ∧ lowest ≤ temperature

/-- The curve does not reach the level, which is that of the hot trip. -/
def Forced (c : Curve) (m : Level) : Prop := c.lowest m = none ∧ m = topLevel

/-- **Hysteresis** over a run. -/
structure Hysteresis (c : Curve) (l : List FanRun) : Prop where
  /-- The level is at least that of the temperature. -/
  follows : ∀ x ∈ l, ∀ t, controlTemperature x.act.thermal = some t →
    ∃ m, x.post.manager.fanLevel = some m ∧ c.level t ≤ m
  /-- It goes up where the threshold is reached, or at the hot trip. -/
  rises : ∀ x ∈ l, ∀ t m, controlTemperature x.act.thermal = some t → Rises x m → Reached c m t ∨ thermalWarning ≤ t
  /-- It goes down from a level of the curve where the threshold is cleared, and from the hot trip below it. -/
  falls : ∀ x ∈ l, ∀ t m, controlTemperature x.act.thermal = some t → Falls x m →
    Cleared c m t ∨ Forced c m ∧ t < thermalWarning
  /-- From a rise to a level of the curve to a fall from it, the temperature goes from the threshold or the hot
  trip to below the threshold, less the hysteresis. -/
  swings : ∀ before x between y after, l = before ++ x :: (between ++ y :: after) → ∀ m, Rises x m → Falls y m →
    c.lowest m ≠ none → ∀ t t', controlTemperature x.act.thermal = some t →
      controlTemperature y.act.thermal = some t' → (Reached c m t ∨ thermalWarning ≤ t) ∧ Cleared c m t'

/-! ### The next level -/

/-- The level that a temperature selects, from the level that is held. -/
def nextLevel (c : Curve) (t : ℚ) : Option Level → Level
  | none => if thermalWarning ≤ t then topLevel else c.level t
  | some current =>
    if thermalWarning ≤ t then topLevel
    else if c.level t < current ∧ c.stepDownOk t current = false then current
    else c.level t

theorem nextLevel_none (c : Curve) (t : ℚ) :
    nextLevel c t none = if thermalWarning ≤ t then topLevel else c.level t := rfl

theorem nextLevel_some (c : Curve) (t : ℚ) (current : Level) :
    nextLevel c t (some current) =
      if thermalWarning ≤ t then topLevel
      else if c.level t < current ∧ c.stepDownOk t current = false then current
      else c.level t := rfl

theorem ofLevel_top : (⟨100, 255, some topLevel⟩ : Target) = .ofLevel topLevel := by
  unfold Target.ofLevel
  rw [fanLevelPercent_eq]
  rfl

theorem curveTarget_eq (c : Curve) (t : ℚ) (held : Option Level) :
    curveTarget c (some t) held = .ofLevel (nextLevel c t held) := by
  unfold curveTarget
  dsimp only
  cases held with
  | none =>
    rw [nextLevel_none]
    split
    · exact ofLevel_top
    · rfl
  | some current =>
    rw [nextLevel_some]
    split
    · exact ofLevel_top
    · dsimp only
      split
      · rfl
      · rfl

theorem level_le_nextLevel (c : Curve) (t : ℚ) (held : Option Level) : c.level t ≤ nextLevel c t held := by
  cases held with
  | none =>
    rw [nextLevel_none]
    split
    · exact Fin.le_last _
    · exact le_rfl
  | some current =>
    rw [nextLevel_some]
    split
    · exact Fin.le_last _
    · split
      · rename_i hhold
        exact hhold.1.le
      · exact le_rfl

/-- The level goes down only below the hot trip, and only where stepping down is fine. -/
theorem stepDownOk_of_nextLevel_lt {c : Curve} {t : ℚ} {m : Level} (h : nextLevel c t (some m) < m) :
    t < thermalWarning ∧ c.stepDownOk t m = true := by
  rw [nextLevel_some] at h
  split at h
  · exact absurd h (not_lt.mpr (Fin.le_last m))
  · rename_i hcool
    refine ⟨not_le.mp hcool, ?_⟩
    split at h
    · exact absurd h (lt_irrefl m)
    · rename_i hhold
      by_contra hok
      exact hhold ⟨h, by simpa using hok⟩

theorem cleared_of_stepDownOk {c : Curve} {t : ℚ} {m : Level} (h : c.stepDownOk t m = true) :
    c.lowest m = none ∨ Cleared c m t := by
  unfold Curve.stepDownOk at h
  cases hlowest : c.lowest m with
  | none => exact .inl rfl
  | some lowest =>
    rw [hlowest] at h
    exact .inr ⟨lowest, hlowest, of_decide_eq_true h⟩

/-! ### Levels of the curve -/

theorem climb_mem (t : ℚ) : ∀ (points : List (ℚ × Level)) (level : Level),
    climb t level points = level ∨ ∃ p ∈ points, p.1 ≤ t ∧ p.2 = climb t level points
  | [], _ => .inl rfl
  | (threshold, value) :: points, level => by
    unfold climb
    split
    · rename_i hreached
      rcases climb_mem t points value with hsame | ⟨p, hp, hle, heq⟩
      · exact .inr ⟨(threshold, value), List.mem_cons_self, hreached, hsame.symm⟩
      · exact .inr ⟨p, List.mem_cons_of_mem _ hp, hle, heq⟩
    · exact .inl rfl

/-- The level below the first threshold. -/
def Curve.floor (c : Curve) : Level := (c.points.head c.nonempty).2

theorem floor_le (c : Curve) {p : ℚ × Level} (hp : p ∈ c.points) : c.floor ≤ p.2 := by
  unfold Curve.floor
  have hrising := c.rising
  rw [← List.cons_head_tail c.nonempty] at hrising hp
  rcases List.mem_cons.mp hp with rfl | hp
  · exact le_rfl
  · exact (List.pairwise_cons.mp hrising).1 p hp

theorem floor_le_level (c : Curve) (t : ℚ) : c.floor ≤ c.level t := by
  rcases climb_mem t c.points c.floor with hsame | ⟨p, hp, -, heq⟩
  · exact hsame.ge
  · exact (floor_le c hp).trans_eq heq

/-- A level that a point has, has a lowest threshold at or below that of the point. -/
theorem lowest_le (c : Curve) {p : ℚ × Level} (hp : p ∈ c.points) :
    ∃ lowest, c.lowest p.2 = some lowest ∧ lowest ≤ p.1 := by
  have hmem : p.1 ∈ (c.points.filter fun q => p.2 ≤ q.2).map Prod.fst :=
    List.mem_map_of_mem (List.mem_filter.mpr ⟨hp, decide_eq_true le_rfl⟩)
  cases hlowest : c.lowest p.2 with
  | none =>
    unfold Curve.lowest at hlowest
    rw [List.min?_eq_none_iff] at hlowest
    rw [hlowest] at hmem
    exact absurd hmem List.not_mem_nil
  | some lowest => exact ⟨lowest, rfl, (List.min?_eq_some_iff.mp hlowest).2 p.1 hmem⟩

/-- A level of a curve has a threshold. -/
theorem lowest_level_ne_none (c : Curve) (t : ℚ) : c.lowest (c.level t) ≠ none := by
  have hpoint : ∃ p ∈ c.points, p.2 = c.level t := by
    rcases climb_mem t c.points c.floor with hsame | ⟨p, hp, -, heq⟩
    · exact ⟨c.points.head c.nonempty, List.head_mem _, hsame.symm⟩
    · exact ⟨p, hp, heq⟩
  obtain ⟨p, hp, heq⟩ := hpoint
  obtain ⟨lowest, hlowest, -⟩ := lowest_le c hp
  rw [← heq, hlowest]
  exact Option.some_ne_none lowest

/-- A level above the floor is selected at or above its threshold. -/
theorem reached_of_floor_lt {c : Curve} {t : ℚ} (h : c.floor < c.level t) : Reached c (c.level t) t := by
  rcases climb_mem t c.points c.floor with hsame | ⟨p, hp, hle, heq⟩
  · exact absurd hsame h.ne'
  · obtain ⟨lowest, hlowest, hlow⟩ := lowest_le c hp
    refine ⟨lowest, ?_, hlow.trans hle⟩
    rw [← hlowest, heq]
    rfl

/-! ### The invariant -/

/-- The manager holds a level, with its percentage, that the curve has or the hot trip forces; or nothing yet. -/
def Holds (c : Curve) (m : Manager) : Prop :=
  (m.fanDuty = none ∧ m.fanLevel = none) ∨
    ∃ level, m.fanDuty = some (fanLevelPercent level) ∧ m.fanLevel = some level ∧ c.floor ≤ level ∧
      (level = topLevel ∨ c.lowest level ≠ none)

theorem lowest_nextLevel {c : Curve} {m : Manager} (h : Holds c m) (t : ℚ) :
    nextLevel c t m.fanLevel = topLevel ∨ c.lowest (nextLevel c t m.fanLevel) ≠ none := by
  rcases h with ⟨-, hnone⟩ | ⟨level, -, hlevel, -, hpoint⟩
  · rw [hnone]
    rw [nextLevel_none]
    split
    · exact .inl rfl
    · exact .inr (lowest_level_ne_none c t)
  · rw [hlevel]
    rw [nextLevel_some]
    split
    · exact .inl rfl
    · split
      · exact hpoint
      · exact .inr (lowest_level_ne_none c t)

/-- What a tick under the curve does to the manager. -/
theorem curve_step {curves : Dict String Curve} {mode : String} {b b' : Bench} {t : FanTick} {messages : List String}
    (hb : Holds (curveOf curves (.str mode)) b.manager) (ht : CurveTick mode t)
    (h : fanStep curves b t = some (messages, b')) :
    ∃ temperature, controlTemperature t.thermal = some temperature ∧
      b'.manager.fanLevel = some (nextLevel (curveOf curves (.str mode)) temperature b.manager.fanLevel) ∧
      Holds (curveOf curves (.str mode)) b'.manager := by
  obtain ⟨temperature, hreads⟩ := ht.reads
  obtain ⟨hauto, hmax, hmanual⟩ := ht.curve
  have htarget : t.target curves b.manager.fanLevel =
      some (.ofLevel (nextLevel (curveOf curves (.str mode)) temperature b.manager.fanLevel)) := by
    unfold FanTick.target fanTarget
    dsimp only
    rw [ht.mode, if_neg (by simpa using hauto), if_neg (by simpa using hmax), if_neg (by simpa using hmanual), hreads,
      curveTarget_eq]
  obtain rfl : (applyFan curves t b).2 = b' := congrArg Prod.snd (Option.some.inj h)
  refine ⟨temperature, hreads, ?_⟩
  rcases applyFan_cases curves t b with ⟨hnone, -⟩ | ⟨target, hsome, ⟨hempty, -⟩ | ⟨-, hduty, hsame⟩ | ⟨-, -, hwrite⟩⟩
  · rw [htarget] at hnone
    exact absurd hnone (by simp)
  · exact absurd hempty ht.fans
  · rw [htarget] at hsome
    obtain rfl := Option.some.inj hsome
    rw [hsame]
    refine ⟨?_, hb⟩
    rcases hb with ⟨hnone, -⟩ | ⟨level, hpercent, hlevel, -, -⟩
    · rw [hnone] at hduty
      exact absurd hduty (by simp)
    · rw [hpercent] at hduty
      have heq := fanLevelPercent_injective (Option.some.inj hduty)
      rw [hlevel] at heq ⊢
      exact congrArg some heq
  · rw [htarget] at hsome
    obtain rfl := Option.some.inj hsome
    rw [hwrite]
    refine ⟨rfl, .inr ⟨_, rfl, rfl, ?_, lowest_nextLevel hb temperature⟩⟩
    exact (floor_le_level _ _).trans (level_le_nextLevel _ _ _)

/-- A fall under the curve. -/
theorem cleared_of_falls {c : Curve} {x : FanRun} {t : ℚ} {m : Level} (hpre : Holds c x.pre.manager)
    (hpost : x.post.manager.fanLevel = some (nextLevel c t x.pre.manager.fanLevel)) (h : Falls x m) :
    Cleared c m t ∨ Forced c m ∧ t < thermalWarning := by
  obtain ⟨hheld, m', hlt, hm'⟩ := h
  rw [hheld] at hpost
  have hnext : nextLevel c t (some m) < m := by
    rw [hm', Option.some.injEq] at hpost
    rw [← hpost]
    exact hlt
  obtain ⟨hcool, hok⟩ := stepDownOk_of_nextLevel_lt hnext
  rcases cleared_of_stepDownOk hok with hnone | hcleared
  · rcases hpre with ⟨-, habsent⟩ | ⟨level, -, hlevel, -, htop⟩
    · rw [habsent] at hheld
      exact absurd hheld (by simp)
    · obtain rfl : level = m := Option.some.inj (hlevel.symm.trans hheld)
      exact .inr ⟨⟨hnone, htop.resolve_right (not_not.mpr hnone)⟩, hcool⟩
  · exact .inl hcleared

/-- A rise under the curve. -/
theorem reached_of_rises {c : Curve} {x : FanRun} {t : ℚ} {m : Level} (hpre : Holds c x.pre.manager)
    (hpost : x.post.manager.fanLevel = some (nextLevel c t x.pre.manager.fanLevel)) (h : Rises x m) :
    Reached c m t ∨ thermalWarning ≤ t := by
  obtain ⟨hm, m', hlt, hheld⟩ := h
  rcases hpre with ⟨-, habsent⟩ | ⟨level, -, hlevel, hfloor, -⟩
  · rw [habsent] at hheld
    exact absurd hheld (by simp)
  · obtain rfl : level = m' := Option.some.inj (hlevel.symm.trans hheld)
    rw [hm, hlevel, Option.some.injEq, nextLevel_some] at hpost
    split at hpost
    · rename_i hhot
      exact .inr hhot
    · split at hpost
      · exact absurd hpost hlt.ne'
      · subst hpost
        exact .inl (reached_of_floor_lt (hfloor.trans_lt hlt))

/-! ### The result -/

/-- **Fan hysteresis** in every run of a new manager under one curve. -/
theorem hysteresis {curves : Dict String Curve} {mode : String} {pwm : String → Option ℤ} {enabled : String → Bool}
    {l : List FanRun} {b : Bench} (h : Run (fanStep curves) (.init pwm enabled) l b)
    (hticks : ∀ x ∈ l, CurveTick mode x.act) : Hysteresis (curveOf curves (.str mode)) l := by
  have hsteps : ∀ x ∈ l, Holds (curveOf curves (.str mode)) x.pre.manager ∧
      ∃ t, controlTemperature x.act.thermal = some t ∧
        x.post.manager.fanLevel = some (nextLevel (curveOf curves (.str mode)) t x.pre.manager.fanLevel) := by
    intro x hx
    obtain ⟨before, after, heq, hrun, hstep, -⟩ := h.of_mem hx
    have hpre : Holds (curveOf curves (.str mode)) x.pre.manager := by
      refine hrun.history (fun _ b => Holds (curveOf curves (.str mode)) b.manager)
        (fun _ y => CurveTick mode y.act) ?_ [] (.inl ⟨rfl, rfl⟩) ?_
      · intro _ u t messages v hu hs ht
        obtain ⟨_, _, _, hv⟩ := curve_step hu ht hs
        exact hv
      · rintro l₁ y l₂ rfl
        exact hticks y (by rw [heq]; simp)
    obtain ⟨t, hreads, hlevel, -⟩ := curve_step hpre (hticks x hx) hstep
    exact ⟨hpre, t, hreads, hlevel⟩
  have hfalls : ∀ x ∈ l, ∀ t m, controlTemperature x.act.thermal = some t → Falls x m →
      Cleared (curveOf curves (.str mode)) m t ∨ Forced (curveOf curves (.str mode)) m ∧ t < thermalWarning := by
    intro x hx t m hreads hfall
    obtain ⟨hpre, t', hreads', hlevel⟩ := hsteps x hx
    obtain rfl : t' = t := Option.some.inj (hreads'.symm.trans hreads)
    exact cleared_of_falls hpre hlevel hfall
  have hrises : ∀ x ∈ l, ∀ t m, controlTemperature x.act.thermal = some t → Rises x m →
      Reached (curveOf curves (.str mode)) m t ∨ thermalWarning ≤ t := by
    intro x hx t m hreads hrise
    obtain ⟨hpre, t', hreads', hlevel⟩ := hsteps x hx
    obtain rfl : t' = t := Option.some.inj (hreads'.symm.trans hreads)
    exact reached_of_rises hpre hlevel hrise
  constructor
  · intro x hx t hreads
    obtain ⟨-, t', hreads', hlevel⟩ := hsteps x hx
    obtain rfl : t' = t := Option.some.inj (hreads'.symm.trans hreads)
    exact ⟨_, hlevel, level_le_nextLevel _ _ _⟩
  · exact hrises
  · exact hfalls
  · intro before x between y after heq m hrise hfall hlowest t t' hreads hreads'
    refine ⟨hrises x (by rw [heq]; simp) t m hreads hrise, ?_⟩
    rcases hfalls y (by rw [heq]; simp) t' m hreads' hfall with hcleared | ⟨hforced, -⟩
    · exact hcleared
    · exact absurd hforced.1 hlowest

/-! ### A swing, and a curve without the top level -/

theorem curveTick_sample {mode : String} (h : mode ≠ "auto" ∧ mode ≠ "max" ∧ mode ≠ "manual") (temperature : ℚ) :
    CurveTick mode (sampleTick mode 50 temperature) where
  curve := h
  mode := rfl
  reads := by
    have hhint : (fanZoneHints.any fun hint => isInfixOf hint (lower "top-glue-thermal")) = true := by decide
    refine ⟨temperature, ?_⟩
    unfold sampleTick controlTemperature
    dsimp only
    rw [List.filter_singleton, hhint]
    rfl
  fans := List.cons_ne_nil sampleFan []
  takes _ _ := rfl

/-- Up to level 2 at 66 °C, which is held at 62 °C and left at 60 °C. -/
theorem hysteresis_balanced : ∃ l b, Run (fanStep fanCurves) sampleBench l b ∧
    l.map Step.act = [40, 66, 62, 60].map (sampleTick "balanced" 50) ∧
    (∀ x ∈ l, CurveTick "balanced" x.act) ∧
    l.map (fun x => x.post.manager.fanLevel) = [some 0, some 2, some 2, some 1] ∧
    Hysteresis (curveOf fanCurves (.str "balanced")) l := by
  have hticks : ∀ x ∈ fanRun fanCurves sampleBench ([40, 66, 62, 60].map (sampleTick "balanced" 50)),
      CurveTick "balanced" x.act := by
    intro x hx
    have hact : x.act ∈ [40, 66, 62, 60].map (sampleTick "balanced" 50) := List.mem_map_of_mem hx
    obtain ⟨temperature, -, heq⟩ := List.mem_map.mp hact
    rw [← heq]
    exact curveTick_sample (by decide) temperature
  exact ⟨_, _, run_fanRun _ _ _, rfl, hticks, by decide +kernel, hysteresis (run_fanRun _ _ _) hticks⟩

/-- A curve that stays at the lowest level. -/
def flatCurves : Dict String Curve := [("flat", ⟨[(0, floorLevel)], by decide, by decide, by decide⟩)]

/-- At 100 °C the fan is at level 3, and at 99 °C at level 0: the curve has no threshold for level 3. -/
theorem forced_level_falls : ∃ l b, Run (fanStep flatCurves) sampleBench l b ∧
    l.map Step.act = [100, 99].map (sampleTick "flat" 50) ∧ (∀ x ∈ l, CurveTick "flat" x.act) ∧
    ∃ x ∈ l, controlTemperature x.act.thermal = some 99 ∧ Falls x 3 ∧
      ¬ Cleared (curveOf flatCurves (.str "flat")) 3 99 := by
  have hticks : ∀ x ∈ fanRun flatCurves sampleBench ([100, 99].map (sampleTick "flat" 50)), CurveTick "flat" x.act := by
    intro x hx
    have hact : x.act ∈ [100, 99].map (sampleTick "flat" 50) := List.mem_map_of_mem hx
    obtain ⟨temperature, -, heq⟩ := List.mem_map.mp hact
    rw [← heq]
    exact curveTick_sample (by decide) temperature
  have hup : (applyFan flatCurves (sampleTick "flat" 50 100) sampleBench).2.manager.fanLevel = some 3 := by
    decide
  have hdown : (applyFan flatCurves (sampleTick "flat" 50 99)
      (applyFan flatCurves (sampleTick "flat" 50 100) sampleBench).2).2.manager.fanLevel = some 0 := by
    decide +kernel
  have hlowest : (curveOf flatCurves (.str "flat")).lowest 3 = none := by decide
  refine ⟨_, _, run_fanRun _ _ _, rfl, hticks, _, List.mem_pair.mpr (.inr rfl), by decide,
    ⟨hup, 0, by decide, hdown⟩, ?_⟩
  rintro ⟨lowest, hsome, -⟩
  rw [hlowest] at hsome
  exact absurd hsome (by simp)

end Sbegw.Hwd
