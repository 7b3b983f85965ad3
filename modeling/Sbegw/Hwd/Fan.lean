import Sbegw.Netd
import Sbegw.Lib.Run
import Sbegw.Lib.Sweep
import Mathlib.Data.Fin.VecNotation
import Mathlib.Data.Rat.Floor
import Mathlib.Order.Fin.Basic

/-!
# The fan

`apply_fan` writes a duty only when the percentage differs from the one it remembers.  Percentages are
coarser than duties and levels, and a percentage is remembered whether or not its duty could be written.
-/

namespace Sbegw.Hwd

open Text

/-- `cfg["system"][part].get(key, d)` -/
def setting (cfg : Obj) (part key : String) (d : Json) : Json :=
  ((Json.obj (Netd.sectionOf cfg "system")).getD part (.obj [])).getD key d

/-! ### Levels and curves -/

/-- An index into `FAN_LEVELS`. -/
abbrev Level := Fin 4

/-- Index 0. -/
def floorLevel : Level := 0

/-- `len(FAN_LEVELS) - 1` -/
def topLevel : Level := 3

/-- `FAN_LEVELS` -/
def fanLevels : Level → ℤ := ![36, 72, 128, 255]

/-- `round(q)`: ties go to the even neighbour. -/
def roundEven (q : ℚ) : ℤ :=
  let rest := q - ⌊q⌋
  if rest < 1 / 2 then ⌊q⌋ else if 1 / 2 < rest then ⌊q⌋ + 1 else ⌊q⌋ + ⌊q⌋ % 2

/-- `FAN_LEVEL_PERCENT` -/
def fanLevelPercent (level : Level) : ℤ := roundEven (fanLevels level / 255 * 100)

/-- A fan curve: the temperatures at or above which a level is due. -/
structure Curve where
  points : List (ℚ × Level)
  nonempty : points ≠ []
  increasing : points.Pairwise fun p q => p.1 < q.1
  rising : points.Pairwise fun p q => p.2 ≤ q.2

/-- `FAN_CURVES["balanced"]` -/
def balanced : Curve := ⟨[(0, 0), (50, 1), (65, 2), (75, 3)], by decide, by decide, by decide⟩

/-- `FAN_CURVES` -/
def fanCurves : Dict String Curve :=
  [("balanced", balanced),
    ("cool", ⟨[(0, 1), (50, 2), (65, 3)], by decide, by decide, by decide⟩),
    ("quiet", ⟨[(0, 0), (65, 1), (80, 2), (90, 3)], by decide, by decide, by decide⟩)]

/-- `DTS_FAN_POLICY` -/
def dtsFanPolicy : Curve := ⟨[(0, 0), (50, 1), (65, 2), (80, 3)], by decide, by decide, by decide⟩

/-- The loop of `curve_level`, with the level so far. -/
def climb (temperature : ℚ) (level : Level) : List (ℚ × Level) → Level
  | [] => level
  | (threshold, value) :: points => if threshold ≤ temperature then climb temperature value points else level

/-- `curve_level` -/
def Curve.level (c : Curve) (temperature : ℚ) : Level := climb temperature (c.points.head c.nonempty).2 c.points

/-- `FAN_HYSTERESIS_C` -/
def fanHysteresis : ℚ := 4

/-- The lowest threshold with at least the level. -/
def Curve.lowest (c : Curve) (level : Level) : Option ℚ :=
  ((c.points.filter fun p => level ≤ p.2).map Prod.fst).min?

/-- `curve_step_down_ok` -/
def Curve.stepDownOk (c : Curve) (temperature : ℚ) (current : Level) : Bool :=
  match c.lowest current with
  | none => true
  | some lowest => temperature < lowest - fanHysteresis

/-! ### Readings -/

structure Zone where
  type : String
  temperature : Option ℚ

/-- An entry of `platform.fans`: a PWM file, or a cooling device with its state. -/
structure Fan where
  id : String
  path : String
  coolingState : Option ℤ

structure Thermal where
  zones : List Zone
  maxTemperature : Option ℚ
  fans : List Fan

/-- `FAN_ZONE_HINTS` -/
def fanZoneHints : List String := ["cpu", "nss", "wcss", "ath12k", "top-glue"]

/-- `_control_temperature` -/
def controlTemperature (thermal : Thermal) : Option ℚ :=
  let helped := thermal.zones.filter fun z => fanZoneHints.any fun hint => isInfixOf hint (lower z.type)
  (helped.filterMap Zone.temperature).max?.or thermal.maxTemperature

/-- The fans that a duty can be written to. -/
def controllable (thermal : Thermal) : List Fan :=
  thermal.fans.filter fun f => f.coolingState = none && f.path ≠ ""

/-! ### The target -/

/-- What `fan_target` answers, with the duty and the level it leaves in `_pending_raw` and `_pending_level`. -/
structure Target where
  percent : ℤ
  raw : ℤ
  level : Option Level

def Target.ofLevel (level : Level) : Target := ⟨fanLevelPercent level, fanLevels level, some level⟩

/-- `THERMAL_WARNING_C` -/
def thermalWarning : ℚ := 100

/-- `fan.get("mode", DEFAULT_FAN_MODE)` -/
def fanMode (cfg : Obj) : Json := setting cfg "fan" "mode" (.str "auto")

/-- `int(fan.get("manual_percent", 50) or 0)`, of a document that passed its checks. -/
def manualPercent (cfg : Obj) : ℤ :=
  match setting cfg "fan" "manual_percent" (.int 50) with
  | .int n => n
  | _ => 0

/-- `max(0, min(255, round(duty * 255 / 100)))` -/
def exactRaw (duty : ℤ) : ℤ := max 0 (min 255 (roundEven (duty * 255 / 100)))

/-- Mode "manual": below the board's own floor the fan may not turn at all. -/
def manualTarget (duty : ℤ) : Target :=
  if 0 < duty ∧ duty < fanLevelPercent floorLevel then .ofLevel floorLevel else ⟨duty, exactRaw duty, none⟩

/-- A mode with a curve.  `held` is `_fan_level`. -/
def curveTarget (curve : Curve) (temperature : Option ℚ) (held : Option Level) : Target :=
  match temperature with
  | none => .ofLevel 2
  | some t =>
    if thermalWarning ≤ t then ⟨100, 255, some topLevel⟩
    else
      match held with
      | none => .ofLevel (curve.level t)
      | some current =>
        if curve.level t < current ∧ curve.stepDownOk t current = false then .ofLevel current
        else .ofLevel (curve.level t)

/-- `FAN_CURVES.get(mode) or FAN_CURVES["balanced"]` -/
def curveOf (curves : Dict String Curve) : Json → Curve
  | .str mode => (Dict.lookup mode curves).getD balanced
  | _ => balanced

/-- `fan_target`: `none` hands the fan back. -/
def fanTarget (curves : Dict String Curve) (cfg : Obj) (temperature : Option ℚ) (held : Option Level) :
    Option Target :=
  let mode := fanMode cfg
  if mode = .str "auto" then none
  else if mode = .str "max" then some ⟨100, 255, some topLevel⟩
  else if mode = .str "manual" then some (manualTarget (manualPercent cfg))
  else some (curveTarget (curveOf curves mode) temperature held)

/-! ### Applying it -/

/-- What a tick meets: the configuration, the readings and which files can be written. -/
structure FanTick where
  cfg : Obj
  thermal : Thermal
  /-- The `_enable` file beside a PWM file is there and takes a `1`. -/
  enables : String → Bool
  /-- A PWM file takes a duty. -/
  takes : String → Bool

structure Manager where
  fanDuty : Option ℤ
  fanLevel : Option Level
  released : Bool
  deriving DecidableEq

/-- The manager and the files it writes. -/
structure Bench where
  manager : Manager
  /-- the last duty written to a PWM file -/
  pwm : String → Option ℤ
  /-- a `1` has been written beside a PWM file -/
  enabled : String → Bool
  /-- the PWM files that the tick which set `_fan_duty` has written -/
  reached : List String

def Bench.init (pwm : String → Option ℤ) (enabled : String → Bool) : Bench :=
  ⟨⟨none, none, false⟩, pwm, enabled, []⟩

/-- `_write(path, str(raw))`: what the file of a fan holds then, where it held `last`. -/
def drive (takes : String → Bool) (raw : ℤ) (f : Fan) (last : Option ℤ) : Option ℤ :=
  if takes f.path then some raw else last

def driveAll (takes : String → Bool) (raw : ℤ) (fans : List Fan) (pwm : String → Option ℤ) : String → Option ℤ :=
  Sweep.sweep Fan.path (drive takes raw) fans pwm

/-- `_release_fan` -/
def releaseFan (t : FanTick) (b : Bench) : Bench :=
  { manager := ⟨none, none, true⟩
    pwm :=
      match controlTemperature t.thermal with
      | none => b.pwm
      | some temperature =>
        driveAll t.takes (fanLevels (dtsFanPolicy.level temperature)) (controllable t.thermal) b.pwm
    enabled := b.enabled
    reached := [] }

/-- Write the target to the fans, and remember it. -/
def writeFans (t : FanTick) (target : Target) (b : Bench) : Bench :=
  let fans := controllable t.thermal
  { manager := ⟨some target.percent, target.level, false⟩
    pwm := driveAll t.takes target.raw fans b.pwm
    enabled := Sweep.sweep Fan.path (fun f on => on || t.enables f.path) fans b.enabled
    reached := (fans.map Fan.path).filter t.takes }

/-- `apply_fan`: the messages, and the bench after it. -/
def applyFan (curves : Dict String Curve) (t : FanTick) (b : Bench) : List String × Bench :=
  match fanTarget curves t.cfg (controlTemperature t.thermal) b.manager.fanLevel with
  | none => ([], if b.manager.fanDuty.isSome || !b.manager.released then releaseFan t b else b)
  | some target =>
    if (controllable t.thermal).isEmpty then ([], b)
    else if b.manager.fanDuty = some target.percent then ([], b)
    else
      (((controllable t.thermal).filter fun f => !t.takes f.path).map fun f => "could not set " ++ f.id ++ " duty",
        writeFans t target b)

/-- A tick of the manager; it always answers. -/
def fanStep (curves : Dict String Curve) (b : Bench) (t : FanTick) : Option (List String × Bench) :=
  some (applyFan curves t b)

end Sbegw.Hwd
