import Sbegw.Hwd.Fan

/-!
# The duty the fan runs at

The fans run at the duty that a tick asks for when, each time a percentage is asked for again, the fans
there are those that its writing has reached, and both times or neither time it is an exact manual
percentage.
-/

namespace Sbegw.Hwd

open Machine

abbrev FanRun := Step Bench FanTick (List String)

/-- The target of a tick. -/
def FanTick.target (curves : Dict String Curve) (t : FanTick) (held : Option Level) : Option Target :=
  fanTarget curves t.cfg (controlTemperature t.thermal) held

/-- A percentage that is written as it is. -/
def exactManual (cfg : Obj) : Prop :=
  fanMode cfg = .str "manual" ∧ ¬ (0 < manualPercent cfg ∧ manualPercent cfg < fanLevelPercent floorLevel)

/-- **The fan runs at the commanded duty**: after a tick in another mode than "auto" that finds a fan and has
no message. -/
def Commanded (curves : Dict String Curve) (x : FanRun) : Prop :=
  fanMode x.act.cfg ≠ .str "auto" → controllable x.act.thermal ≠ [] → x.out = [] →
    ∃ target, x.act.target curves x.pre.manager.fanLevel = some target ∧
      (∀ f ∈ controllable x.act.thermal, x.post.pwm f.path = some target.raw) ∧
      x.post.manager.fanLevel = target.level

/-- What a tick that asks for the remembered percentage needs: the tick that wrote it has reached every fan,
and both ask for an exact manual percentage or neither does. -/
structure Repeats (curves : Dict String Curve) (b : Bench) (t : FanTick) : Prop where
  reached : ∀ target, t.target curves b.manager.fanLevel = some target →
    b.manager.fanDuty = some target.percent → ∀ f ∈ controllable t.thermal, f.path ∈ b.reached
  exact : ∀ target, t.target curves b.manager.fanLevel = some target → controllable t.thermal ≠ [] →
    b.manager.fanDuty = some target.percent → (exactManual t.cfg ↔ b.manager.fanLevel = none)

/-! ### Targets -/

/-- The duty of a percentage at a level. -/
def rawOf (percent : ℤ) : Option Level → ℤ
  | none => exactRaw percent
  | some level => fanLevels level

theorem fanLevelPercent_eq : ∀ level, fanLevelPercent level = ![14, 28, 50, 100] level := by decide +kernel

theorem fanLevelPercent_injective : Function.Injective fanLevelPercent := by
  have hall : ∀ a b : Level, (![14, 28, 50, 100] a : ℤ) = ![14, 28, 50, 100] b → a = b := by decide
  intro a b h
  rw [fanLevelPercent_eq, fanLevelPercent_eq] at h
  exact hall a b h

/-- A target whose percentage and level fix the duty. -/
structure Target.Fits (target : Target) : Prop where
  raw : target.raw = rawOf target.percent target.level
  percent : ∀ level, target.level = some level → target.percent = fanLevelPercent level

theorem fits_ofLevel (level : Level) : (Target.ofLevel level).Fits := by
  refine ⟨rfl, ?_⟩
  intro l h
  obtain rfl := Option.some.inj h
  rfl

theorem fits_full : (⟨100, 255, some topLevel⟩ : Target).Fits := by
  refine ⟨rfl, ?_⟩
  intro l h
  obtain rfl := Option.some.inj h
  rw [fanLevelPercent_eq]
  rfl

/-- A curve asks for a level. -/
theorem curveTarget_spec (curve : Curve) (temperature : Option ℚ) (held : Option Level) :
    (curveTarget curve temperature held).Fits ∧ (curveTarget curve temperature held).level ≠ none := by
  have hlevel : ∀ level, (Target.ofLevel level).level ≠ none := fun level => Option.some_ne_none level
  unfold curveTarget
  split
  · exact ⟨fits_ofLevel 2, hlevel 2⟩
  · split
    · exact ⟨fits_full, Option.some_ne_none _⟩
    · split
      · exact ⟨fits_ofLevel _, hlevel _⟩
      · split
        · exact ⟨fits_ofLevel _, hlevel _⟩
        · exact ⟨fits_ofLevel _, hlevel _⟩

/-- What `fan_target` answers: its percentage and level fix the duty, and it has no level exactly for an exact
manual percentage. -/
theorem target_spec {curves : Dict String Curve} {cfg : Obj} {temperature : Option ℚ} {held : Option Level}
    {target : Target} (h : fanTarget curves cfg temperature held = some target) :
    target.Fits ∧ (target.level = none ↔ exactManual cfg) := by
  unfold fanTarget at h
  dsimp only at h
  split at h
  · exact absurd h (by simp)
  · split at h
    · rename_i hmax
      obtain rfl := Option.some.inj h
      refine ⟨fits_full, fun hnone => absurd hnone (by simp), ?_⟩
      rintro ⟨hmanual, -⟩
      rw [hmax] at hmanual
      exact absurd hmanual (by decide)
    · split at h
      · rename_i hmanual
        obtain rfl := Option.some.inj h
        unfold manualTarget
        split
        · rename_i hlow
          exact ⟨fits_ofLevel floorLevel, fun hnone => absurd hnone (Option.some_ne_none _), fun hexact => absurd hlow hexact.2⟩
        · rename_i hexact
          exact ⟨⟨rfl, fun level hlevel => absurd hlevel (by simp)⟩, fun _ => ⟨hmanual, hexact⟩, fun _ => rfl⟩
      · rename_i hmanual
        obtain rfl := Option.some.inj h
        obtain ⟨hfits, hlevel⟩ := curveTarget_spec (curveOf curves (fanMode cfg)) temperature held
        exact ⟨hfits, fun hnone => absurd hnone hlevel, fun hexact => absurd hexact.1 hmanual⟩

theorem target_ne_auto {curves : Dict String Curve} {cfg : Obj} {temperature : Option ℚ} {held : Option Level}
    (h : fanTarget curves cfg temperature held = none) : fanMode cfg = .str "auto" := by
  unfold fanTarget at h
  dsimp only at h
  by_contra hmode
  rw [if_neg hmode] at h
  split at h
  · exact absurd h (by simp)
  · split at h
    · exact absurd h (by simp)
    · exact absurd h (by simp)

/-! ### Writing -/

/-- A fan whose file takes the duty has it. -/
theorem driveAll_of_mem {takes : String → Bool} {raw : ℤ} {fans : List Fan} {pwm : String → Option ℤ} {f : Fan}
    (hf : f ∈ fans) (htakes : takes f.path = true) : driveAll takes raw fans pwm f.path = some raw := by
  have hturn : drive takes raw f = fun _ => some raw := by
    funext last
    exact if_pos htakes
  have hsame : ∀ g ∈ fans, g.path = f.path → drive takes raw g = drive takes raw f := by
    intro g _ hpath
    unfold drive
    rw [hpath]
  unfold driveAll
  rw [Sweep.sweep_of_mem (fun _ => by rw [hturn]) hsame hf, hturn]

/-! ### The invariant -/

/-- The files that were reached hold the duty that is remembered. -/
structure Kept (b : Bench) : Prop where
  percent : ∀ duty level, b.manager.fanDuty = some duty → b.manager.fanLevel = some level →
    duty = fanLevelPercent level
  files : ∀ duty, b.manager.fanDuty = some duty → ∀ path ∈ b.reached,
    b.pwm path = some (rawOf duty b.manager.fanLevel)

theorem kept_init (pwm : String → Option ℤ) (enabled : String → Bool) : Kept (.init pwm enabled) :=
  ⟨fun _ _ h => absurd h (by simp [Bench.init]), fun _ h => absurd h (by simp [Bench.init])⟩

theorem kept_writeFans {t : FanTick} {target : Target} {b : Bench} (h : target.Fits) : Kept (writeFans t target b) := by
  constructor
  · intro duty level hduty hlevel
    obtain rfl := Option.some.inj hduty
    exact h.percent level hlevel
  · intro duty hduty path hpath
    obtain rfl := Option.some.inj hduty
    obtain ⟨hmem, htakes⟩ := List.mem_filter.mp hpath
    obtain ⟨f, hf, rfl⟩ := List.mem_map.mp hmem
    show driveAll t.takes target.raw (controllable t.thermal) b.pwm f.path = _
    rw [driveAll_of_mem hf htakes, h.raw]
    rfl

theorem kept_releaseFan (t : FanTick) (b : Bench) : Kept (releaseFan t b) :=
  ⟨fun _ _ h => absurd h (by simp [releaseFan]), fun _ h => absurd h (by simp [releaseFan])⟩

/-- What a tick does: it hands the fan back, leaves everything, or writes the target. -/
theorem applyFan_cases (curves : Dict String Curve) (t : FanTick) (b : Bench) :
    (t.target curves b.manager.fanLevel = none ∧
      ((applyFan curves t b).2 = releaseFan t b ∨ (applyFan curves t b).2 = b)) ∨
    ∃ target, t.target curves b.manager.fanLevel = some target ∧
      ((controllable t.thermal = [] ∧ (applyFan curves t b).2 = b) ∨
        (controllable t.thermal ≠ [] ∧ b.manager.fanDuty = some target.percent ∧ applyFan curves t b = ([], b)) ∨
        (controllable t.thermal ≠ [] ∧ b.manager.fanDuty ≠ some target.percent ∧
          applyFan curves t b = (((controllable t.thermal).filter fun f => !t.takes f.path).map
            fun f => "could not set " ++ f.id ++ " duty", writeFans t target b))) := by
  unfold FanTick.target applyFan
  cases htarget : fanTarget curves t.cfg (controlTemperature t.thermal) b.manager.fanLevel with
  | none =>
    refine .inl ⟨rfl, ?_⟩
    dsimp only
    split
    · exact .inl rfl
    · exact .inr rfl
  | some target =>
    refine .inr ⟨target, rfl, ?_⟩
    dsimp only
    by_cases hfans : controllable t.thermal = []
    · refine .inl ⟨hfans, ?_⟩
      rw [if_pos (by rw [hfans]; rfl)]
    · rw [if_neg (by rw [List.isEmpty_iff]; exact hfans)]
      by_cases hduty : b.manager.fanDuty = some target.percent
      · rw [if_pos hduty]
        exact .inr (.inl ⟨hfans, hduty, rfl⟩)
      · rw [if_neg hduty]
        exact .inr (.inr ⟨hfans, hduty, rfl⟩)

theorem kept_step {curves : Dict String Curve} {b b' : Bench} {t : FanTick} {messages : List String}
    (hb : Kept b) (h : fanStep curves b t = some (messages, b')) : Kept b' := by
  obtain rfl : (applyFan curves t b).2 = b' := congrArg Prod.snd (Option.some.inj h)
  rcases applyFan_cases curves t b with
    ⟨-, hrelease | hsame⟩ | ⟨target, htarget, ⟨-, hsame⟩ | ⟨-, -, hsame⟩ | ⟨-, -, hwrite⟩⟩
  · rw [hrelease]
    exact kept_releaseFan t b
  · rw [hsame]
    exact hb
  · rw [hsame]
    exact hb
  · rw [hsame]
    exact hb
  · rw [hwrite]
    exact kept_writeFans (target_spec htarget).1

/-! ### The result -/

/-- A tick commands the fans. -/
theorem commanded_step {curves : Dict String Curve} {b b' : Bench} {t : FanTick} {messages : List String}
    (hb : Kept b) (hrepeats : Repeats curves b t) (h : fanStep curves b t = some (messages, b')) :
    Commanded curves ⟨b, t, messages, b'⟩ := by
  intro hmode hfans hout
  have happly : applyFan curves t b = (messages, b') := Option.some.inj h
  rcases applyFan_cases curves t b with ⟨hnone, -⟩ | ⟨target, htarget, ⟨hempty, -⟩ | ⟨-, hduty, hsame⟩ | ⟨-, -, hwrite⟩⟩
  · exact absurd (target_ne_auto hnone) hmode
  · exact absurd hempty hfans
  · obtain ⟨hfits, hnone⟩ := target_spec htarget
    obtain rfl : b = b' := by
      rw [hsame] at happly
      exact congrArg Prod.snd happly
    -- the remembered level is that of the target: both are absent, or both have the same percentage
    have hlevel : b.manager.fanLevel = target.level := by
      have hexact := (hrepeats.exact target htarget hfans hduty).symm.trans hnone.symm
      cases hheld : b.manager.fanLevel with
      | none => exact (hexact.mp hheld).symm
      | some level =>
        cases hnew : target.level with
        | none => exact absurd (hexact.mpr hnew) (by rw [hheld]; simp)
        | some level' =>
          have hpercent := hb.percent target.percent level hduty hheld
          rw [hfits.percent level' hnew] at hpercent
          rw [fanLevelPercent_injective hpercent]
    refine ⟨target, htarget, ?_, hlevel⟩
    intro f hf
    show b.pwm f.path = _
    rw [hb.files target.percent hduty f.path (hrepeats.reached target htarget hduty f hf), hlevel, hfits.raw]
  · rw [hwrite] at happly
    obtain ⟨hmessages, rfl⟩ := Prod.mk.inj happly
    refine ⟨target, htarget, ?_, rfl⟩
    intro f hf
    have htakes : t.takes f.path = true := by
      have hall : (controllable t.thermal).filter (fun f => !t.takes f.path) = [] := by
        rw [← List.map_eq_nil_iff, hmessages]
        exact hout
      have hnot := List.filter_eq_nil_iff.mp hall f hf
      simpa using hnot
    exact driveAll_of_mem hf htakes

/-- **The fan runs at the commanded duty** after every tick of a run whose ticks all find what a remembered
percentage needs. -/
theorem duty_commanded {curves : Dict String Curve} {pwm : String → Option ℤ} {enabled : String → Bool}
    {l : List FanRun} {b : Bench} (h : Run (fanStep curves) (.init pwm enabled) l b)
    (hrepeats : ∀ x ∈ l, Repeats curves x.pre x.act) : ∀ x ∈ l, Commanded curves x := by
  intro x hx
  obtain ⟨before, after, -, hrun, hstep, -⟩ := h.of_mem hx
  have hkept : Kept x.pre := hrun.invariant Kept (fun _ _ _ _ hb hs => kept_step hb hs) (kept_init pwm enabled)
  exact commanded_step hkept (hrepeats x hx) hstep

/-! ### One fan at 40 °C -/

def sampleFan : Fan := ⟨"pwm1", "/sys/class/hwmon/hwmon0/pwm1", none⟩

def fanConfig (mode : String) (percent : ℤ) : Obj :=
  [("system", .obj [("fan", .obj [("mode", .str mode), ("manual_percent", .int percent)])])]

/-- A tick whose writes succeed. -/
def sampleTick (mode : String) (percent : ℤ) (temperature : ℚ) : FanTick :=
  ⟨fanConfig mode percent, ⟨[⟨"top-glue-thermal", some temperature⟩], some temperature, [sampleFan]⟩,
    fun _ => true, fun _ => true⟩

def sampleBench : Bench := .init (fun _ => none) fun _ => false

/-- The bench after a first tick of mode "cool" at 40 °C. -/
def cooledBench : Bench := (applyFan fanCurves (sampleTick "cool" 50 40) sampleBench).2

/-- The bench after a first tick at 28%. -/
def manualBench : Bench := (applyFan fanCurves (sampleTick "manual" 28 40) sampleBench).2

/-- The steps that some ticks take. -/
def fanRun (curves : Dict String Curve) : Bench → List FanTick → List FanRun
  | _, [] => []
  | b, t :: ts => ⟨b, t, (applyFan curves t b).1, (applyFan curves t b).2⟩ :: fanRun curves (applyFan curves t b).2 ts

def benchAfter (curves : Dict String Curve) : Bench → List FanTick → Bench
  | b, [] => b
  | b, t :: ts => benchAfter curves (applyFan curves t b).2 ts

theorem run_fanRun (curves : Dict String Curve) : ∀ (b : Bench) (ts : List FanTick),
    Run (fanStep curves) b (fanRun curves b ts) (benchAfter curves b ts)
  | b, [] => .nil b
  | b, t :: ts => .cons rfl (run_fanRun curves (applyFan curves t b).2 ts)

/-- Mode "cool" twice: the second tick writes nothing, and the fan is at level 1. -/
theorem duty_commanded_cool : ∃ l b, Run (fanStep fanCurves) sampleBench l b ∧
    l.map Step.act = [sampleTick "cool" 50 40, sampleTick "cool" 50 40] ∧
    (∀ x ∈ l, Repeats fanCurves x.pre x.act) ∧ (∀ x ∈ l, Commanded fanCurves x) ∧
    b.pwm sampleFan.path = some 72 := by
  have hfirst : Repeats fanCurves sampleBench (sampleTick "cool" 50 40) :=
    ⟨fun _ _ h => absurd h (by simp [sampleBench, Bench.init]),
      fun _ _ _ h => absurd h (by simp [sampleBench, Bench.init])⟩
  have hmanager : cooledBench.manager = ⟨some 28, some 1, false⟩ := by decide +kernel
  have hreached : cooledBench.reached = [sampleFan.path] := by decide
  have hmode : fanMode (sampleTick "cool" 50 40).cfg ≠ .str "manual" := by decide
  have hsecond : Repeats fanCurves cooledBench (sampleTick "cool" 50 40) := by
    constructor
    · intro _ _ _ f hf
      obtain rfl : f = sampleFan := List.mem_singleton.mp hf
      rw [hreached]
      exact List.mem_singleton_self _
    · intro _ _ _ _
      rw [hmanager]
      constructor
      · intro hexact
        exact absurd hexact.1 hmode
      · intro hnone
        exact absurd hnone (by simp)
  have hrepeats : ∀ x ∈ fanRun fanCurves sampleBench [sampleTick "cool" 50 40, sampleTick "cool" 50 40],
      Repeats fanCurves x.pre x.act := by
    intro x hx
    rcases List.mem_pair.mp hx with rfl | rfl
    · exact hfirst
    · exact hsecond
  exact ⟨_, _, run_fanRun _ _ _, rfl, hrepeats, duty_commanded (run_fanRun _ _ _) hrepeats, by decide +kernel⟩

/-- A manual 28% and then mode "cool": level 1 asks for a duty of 72, and the fan stays at 71. -/
theorem duty_one_short : ∃ l b, Run (fanStep fanCurves) sampleBench l b ∧
    l.map Step.act = [sampleTick "manual" 28 40, sampleTick "cool" 28 40] ∧ b.pwm sampleFan.path = some 71 ∧
    ¬ ∀ x ∈ l, Commanded fanCurves x := by
  refine ⟨_, _, run_fanRun fanCurves sampleBench [sampleTick "manual" 28 40, sampleTick "cool" 28 40], rfl,
    by decide +kernel, ?_⟩
  intro hall
  have hlast : Commanded fanCurves ⟨manualBench, sampleTick "cool" 28 40,
      (applyFan fanCurves (sampleTick "cool" 28 40) manualBench).1,
      (applyFan fanCurves (sampleTick "cool" 28 40) manualBench).2⟩ := hall _ (List.mem_pair.mpr (.inr rfl))
  have hout : (applyFan fanCurves (sampleTick "cool" 28 40) manualBench).1 = [] := by decide +kernel
  have hmode : fanMode (sampleTick "cool" 28 40).cfg ≠ .str "auto" := by decide
  have hlevel : ((sampleTick "cool" 28 40).target fanCurves manualBench.manager.fanLevel).map Target.level =
      some (some 1) := by decide +kernel
  have hheld : (applyFan fanCurves (sampleTick "cool" 28 40) manualBench).2.manager.fanLevel = none := by
    decide +kernel
  obtain ⟨target, htarget, -, hpost⟩ := hlast hmode (List.cons_ne_nil sampleFan []) hout
  rw [htarget, Option.map_some, Option.some.injEq, ← hpost] at hlevel
  rw [hheld] at hlevel
  exact absurd hlevel (by simp)

end Sbegw.Hwd
