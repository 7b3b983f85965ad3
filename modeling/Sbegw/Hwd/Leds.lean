import Sbegw.Hwd.Fan

/-!
# The status LEDs

`apply_leds` writes the LEDs only when the name of the state changes.  The brightness setting and the LEDs
that are there can change without it.
-/

namespace Sbegw.Hwd

open Machine

/-! ### States -/

/-- The keys of `LED_PATTERNS`. -/
inductive LedState where
  | off | booting | applying | healthy | noWan | degraded | fault | thermal | identify
  deriving DecidableEq

structure Pattern where
  red : Bool
  green : Bool
  blue : Bool
  /-- the interval in ms, `none` for solid -/
  blink : Option ℕ

/-- `LED_PATTERNS` -/
def ledPatterns : LedState → Pattern
  | .off => ⟨false, false, false, none⟩
  | .booting => ⟨false, false, true, some 500⟩
  | .applying => ⟨false, false, true, none⟩
  | .healthy => ⟨false, true, false, none⟩
  | .noWan => ⟨true, true, false, none⟩
  | .degraded => ⟨true, true, false, some 700⟩
  | .fault => ⟨true, false, false, none⟩
  | .thermal => ⟨true, false, false, some 200⟩
  | .identify => ⟨false, false, true, some 120⟩

structure Health where
  maxTemperature : Option ℚ
  fault : Bool
  applying : Bool
  wanUp : Option Bool
  degraded : Bool

/-- `led_state`: worst first. -/
def ledState (booted : Bool) (cfg : Obj) (health : Health) : LedState :=
  let mode := setting cfg "leds" "mode" (.str "status")
  if mode = .str "off" then .off
  else if mode = .str "identify" then .identify
  else if health.maxTemperature.any fun t => thermalWarning ≤ t then .thermal
  else if health.fault then .fault
  else if !booted then .booting
  else if health.applying then .applying
  else if health.wanUp = some false then .noWan
  else if health.degraded then .degraded
  else .healthy

/-! ### LEDs -/

/-- An entry of `platform.leds`, apart from what its files hold. -/
structure Led where
  path : String
  colour : Option String
  /-- `role` is "status" -/
  status : Bool
  maxBrightness : ℕ
  deriving DecidableEq

/-- What the files of an LED hold; the trigger is the selected one. -/
structure LedFiles where
  trigger : Option String
  delayOn : Option ℕ
  delayOff : Option ℕ
  brightness : Option ℤ
  deriving DecidableEq

/-- The LEDs that are there, each under its own path. -/
structure Board where
  leds : List Led
  distinct : (leds.map Led.path).Nodup

def Board.status (board : Board) : List Led := board.leds.filter Led.status

/-- `wanted.get(led.get("colour"), False)` -/
def Pattern.lights (pattern : Pattern) (led : Led) : Bool :=
  if led.colour = some "red" then pattern.red
  else if led.colour = some "green" then pattern.green
  else if led.colour = some "blue" then pattern.blue
  else false

/-- `int(leds.get("brightness", 100) or 0)`, of a document that passed its checks. -/
def brightnessPct (cfg : Obj) : ℤ :=
  match setting cfg "leds" "brightness" (.int 100) with
  | .int n => n
  | _ => 0

/-- The level of an LED that the state lights: none at a brightness of 0, else at least 1. -/
def shade (pct : ℤ) (maxBrightness : ℕ) : ℤ :=
  if pct ≤ 0 then 0 else max 1 (roundEven (maxBrightness * pct / 100))

/-- The level of an LED. -/
def Pattern.level (pattern : Pattern) (pct : ℤ) (led : Led) : ℤ :=
  if pattern.lights led then shade pct led.maxBrightness else 0

/-- `blink if on else None` -/
def Pattern.interval (pattern : Pattern) (pct : ℤ) (led : Led) : Option ℕ :=
  if pattern.lights led ∧ 0 < pct then pattern.blink else none

/-- `_set_led`, with the trigger that was read of it. -/
def setLed (trigger : Option String) (level : ℤ) (interval : Option ℕ) (files : LedFiles) : LedFiles :=
  if interval.getD 0 ≠ 0 ∧ level ≠ 0 then ⟨some "timer", interval, interval, some level⟩
  else
    { files with
      trigger := if trigger = none ∨ trigger = some "none" then files.trigger else some "none"
      brightness := some level }

/-! ### Applying a state -/

/-- What a tick meets. -/
structure LedTick where
  cfg : Obj
  health : Health
  booted : Bool
  board : Board

/-- `_led_state` and the files of the LEDs. -/
structure Panel where
  state : Option LedState
  files : String → LedFiles
  /-- the brightness setting of the tick that set `_led_state` -/
  pct : ℤ
  /-- the LEDs that it wrote -/
  written : List Led

def Panel.init (files : String → LedFiles) : Panel := ⟨none, files, 100, []⟩

def LedTick.state (t : LedTick) : LedState := ledState t.booted t.cfg t.health

/-- The rows of the loop: what one does to the files of its LED, which it has read before. -/
def LedTick.turn (t : LedTick) (read : String → LedFiles) (led : Led) : LedFiles → LedFiles :=
  let pattern := ledPatterns t.state
  setLed (read led.path).trigger (pattern.level (brightnessPct t.cfg) led) (pattern.interval (brightnessPct t.cfg) led)

/-- `apply_leds`, with writes that succeed. -/
def applyLeds (t : LedTick) (p : Panel) : Panel :=
  if p.state = some t.state then p
  else
    { state := some t.state
      files := Sweep.sweep Led.path (t.turn p.files) t.board.status p.files
      pct := brightnessPct t.cfg
      written := t.board.status }

/-- A tick of the manager; it has no messages. -/
def ledStep (p : Panel) (t : LedTick) : Option (List String × Panel) := some ([], applyLeds t p)

abbrev LedRun := Step Panel LedTick (List String)

/-- A manager that has just been created, before the same LEDs. -/
def Panel.fresh (p : Panel) : Panel := { p with state := none }

/-- **The output depends only on the present**: trigger and brightness of every status LED are those that a new
manager writes. -/
def Present (x : LedRun) : Prop :=
  ∀ led ∈ x.act.board.status,
    (x.post.files led.path).trigger = ((applyLeds x.act x.pre.fresh).files led.path).trigger ∧
      (x.post.files led.path).brightness = ((applyLeds x.act x.pre.fresh).files led.path).brightness

/-- A tick whose state is the one that was written finds only LEDs that were written then. -/
def SameLeds (x : LedRun) : Prop :=
  x.pre.state = some x.act.state → ∀ led ∈ x.act.board.status, led ∈ x.pre.written

/-- A tick whose state is the one that was written has a brightness that lights the LEDs as much as then. -/
def SameShade (x : LedRun) : Prop :=
  x.pre.state = some x.act.state → ∀ led ∈ x.act.board.status, (ledPatterns x.act.state).lights led = true →
    shade x.pre.pct led.maxBrightness = shade (brightnessPct x.act.cfg) led.maxBrightness

/-! ### What is written -/

theorem setLed_setLed (trigger : Option String) (level : ℤ) (interval : Option ℕ) (files : LedFiles) :
    setLed trigger level interval (setLed trigger level interval files) = setLed trigger level interval files := by
  unfold setLed
  split
  · rfl
  · dsimp only
    split
    · rfl
    · rfl

/-- Reading the trigger again makes no difference. -/
theorem setLed_again (level : ℤ) (interval : Option ℕ) (files : LedFiles) :
    setLed (setLed files.trigger level interval files).trigger level interval
        (setLed files.trigger level interval files) =
      setLed files.trigger level interval files := by
  unfold setLed
  split
  · rfl
  · dsimp only
    split
    · rfl
    · rw [if_pos (.inr rfl)]

theorem brightness_setLed (trigger : Option String) (level : ℤ) (interval : Option ℕ) (files : LedFiles) :
    (setLed trigger level interval files).brightness = some level := by
  unfold setLed
  split
  · rfl
  · rfl

/-- A state that is written turns each LED once. -/
theorem files_of_write {t : LedTick} {p : Panel} (h : p.state ≠ some t.state) {led : Led}
    (hled : led ∈ t.board.status) : (applyLeds t p).files led.path = t.turn p.files led (p.files led.path) := by
  have hidem : ∀ files, t.turn p.files led (t.turn p.files led files) = t.turn p.files led files :=
    fun files => setLed_setLed _ _ _ _
  have hsame : ∀ other ∈ t.board.status, other.path = led.path → t.turn p.files other = t.turn p.files led := by
    intro other hother hpath
    rw [List.inj_on_of_nodup_map t.board.distinct (List.mem_of_mem_filter hother) (List.mem_of_mem_filter hled) hpath]
  unfold applyLeds
  rw [if_neg h]
  exact Sweep.sweep_of_mem hidem hsame hled

/-! ### The invariant -/

/-- The files of an LED are as a state and a brightness have left them. -/
def Shows (state : LedState) (pct : ℤ) (led : Led) (files : LedFiles) : Prop :=
  ∃ before : LedFiles, files =
    setLed before.trigger ((ledPatterns state).level pct led) ((ledPatterns state).interval pct led) before

/-- The LEDs that were written show the state that is remembered. -/
def Panel.Kept (p : Panel) : Prop :=
  ∀ state, p.state = some state → ∀ led ∈ p.written, Shows state p.pct led (p.files led.path)

theorem kept_applyLeds {t : LedTick} {p : Panel} (hp : p.Kept) : (applyLeds t p).Kept := by
  by_cases h : p.state = some t.state
  · unfold applyLeds
    rw [if_pos h]
    exact hp
  · intro state hstate led hled
    have happly : (applyLeds t p).state = some t.state ∧ (applyLeds t p).pct = brightnessPct t.cfg ∧
        (applyLeds t p).written = t.board.status := by
      unfold applyLeds
      rw [if_neg h]
      exact ⟨rfl, rfl, rfl⟩
    obtain ⟨hnew, hpct, hwritten⟩ := happly
    obtain rfl : t.state = state := Option.some.inj (hnew.symm.trans hstate)
    rw [hwritten] at hled
    rw [hpct, files_of_write h hled]
    exact ⟨p.files led.path, rfl⟩

/-! ### The result -/

theorem level_eq_of_shade {pattern : Pattern} {a b : ℤ} {led : Led}
    (h : pattern.lights led = true → shade a led.maxBrightness = shade b led.maxBrightness) :
    pattern.level a led = pattern.level b led := by
  unfold Pattern.level
  split
  · rename_i hlit
    exact h hlit
  · rfl

/-- The level of a lit LED tells whether the brightness is positive. -/
theorem pos_iff_of_shade {a b : ℤ} {n : ℕ} (h : shade a n = shade b n) : 0 < a ↔ 0 < b := by
  have hzero : ∀ c, 0 < c ↔ shade c n ≠ 0 := by
    intro c
    unfold shade
    split
    · rename_i hc
      exact ⟨fun hpos => absurd hpos (not_lt.mpr hc), fun hne => absurd rfl hne⟩
    · rename_i hc
      exact ⟨fun _ => (lt_of_lt_of_le one_pos (le_max_left _ _)).ne', fun _ => not_le.mp hc⟩
  rw [hzero, hzero, h]

theorem interval_eq_of_shade {pattern : Pattern} {a b : ℤ} {led : Led}
    (h : pattern.lights led = true → shade a led.maxBrightness = shade b led.maxBrightness) :
    pattern.interval a led = pattern.interval b led := by
  unfold Pattern.interval
  by_cases hlit : pattern.lights led = true
  · simp only [pos_iff_of_shade (h hlit)]
  · rw [if_neg fun hboth => hlit hboth.1, if_neg fun hboth => hlit hboth.1]

/-- What a new manager makes of an LED. -/
theorem files_of_fresh {t : LedTick} {p : Panel} {led : Led} (hled : led ∈ t.board.status) :
    (applyLeds t p.fresh).files led.path = t.turn p.files led (p.files led.path) :=
  files_of_write (p := p.fresh) (by simp [Panel.fresh]) hled

/-- One tick. -/
theorem present_iff {x : LedRun} (hp : x.pre.Kept) (hpost : x.post = applyLeds x.act x.pre) (hleds : SameLeds x) :
    Present x ↔ SameShade x := by
  unfold Present SameShade
  rw [hpost]
  by_cases h : x.pre.state = some x.act.state
  · have hkeeps : applyLeds x.act x.pre = x.pre := if_pos h
    rw [hkeeps]
    constructor
    · intro hpresent _ led hled hlit
      obtain ⟨before, hfiles⟩ := hp _ h led (hleds h led hled)
      have hbrightness := (hpresent led hled).2
      rw [files_of_fresh hled, LedTick.turn, brightness_setLed, hfiles, brightness_setLed,
        Option.some.injEq] at hbrightness
      unfold Pattern.level at hbrightness
      rw [if_pos hlit, if_pos hlit] at hbrightness
      exact hbrightness
    · intro hshade led hled
      obtain ⟨before, hfiles⟩ := hp _ h led (hleds h led hled)
      have hlevel := level_eq_of_shade (hshade h led hled)
      have hinterval := interval_eq_of_shade (hshade h led hled)
      have hsame : x.act.turn x.pre.files led (x.pre.files led.path) = x.pre.files led.path := by
        unfold LedTick.turn
        rw [← hlevel, ← hinterval, hfiles]
        exact setLed_again _ _ before
      rw [files_of_fresh hled, hsame]
      exact ⟨rfl, rfl⟩
  · constructor
    · intro _ hstate
      exact absurd hstate h
    · intro _ led hled
      rw [files_of_fresh hled, files_of_write h hled]
      exact ⟨rfl, rfl⟩

def greenLed : Led := ⟨"/sys/class/leds/green:status", some "green", true, 1⟩

def ledConfig (brightness : ℤ) : Obj := [("system", .obj [("leds", .obj [("brightness", .int brightness)])])]

/-- A healthy router. -/
def healthyTick (brightness : ℤ) : LedTick :=
  ⟨ledConfig brightness, ⟨some 50, false, false, some true, false⟩, true, ⟨[greenLed], by decide⟩⟩

/-- A panel whose LED is dark. -/
def darkPanel : Panel := .init fun _ => ⟨some "none", none, none, some 0⟩

def litPanel : Panel := applyLeds (healthyTick 100) darkPanel

def ledPair (brightness : ℤ) : List LedRun :=
  [⟨darkPanel, healthyTick 100, [], litPanel⟩,
    ⟨litPanel, healthyTick brightness, [], applyLeds (healthyTick brightness) litPanel⟩]

theorem run_ledPair (brightness : ℤ) :
    Run ledStep darkPanel (ledPair brightness) (applyLeds (healthyTick brightness) litPanel) :=
  .cons rfl (.cons rfl (.nil _))

theorem sameLeds_ledPair (brightness : ℤ) : ∀ x ∈ ledPair brightness, SameLeds x := by
  have hwritten : litPanel.written = [greenLed] := by decide
  intro x hx
  rcases List.mem_pair.mp hx with rfl | rfl
  · intro hstate
    exact absurd hstate (by simp [darkPanel, Panel.init])
  · intro _ led hled
    rw [hwritten]
    exact hled

end Sbegw.Hwd
