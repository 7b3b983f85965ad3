import Sbegw.Lib.Streak
import Sbegw.Wifid.Plan
import Mathlib.Data.String.Basic
import Mathlib.Tactic.Linarith

/-!
# BSSes that are stuck

`_check_stuck_bsses` keeps one timer for each interface: from the first check that finds the BSS not enabled
until one that finds it enabled, or hostapd down.  The limit is that of the state it is in now, however long it
has been in it, and the health that is set is that of the radio.
-/

namespace Sbegw.Wifid

open Streak

/-! ### One check -/

/-- `STUCK_TIMEOUT` -/
def stuckTimeout : Dict String ℚ :=
  [("ACS", 120), ("HT_SCAN", 120), ("COUNTRY_UPDATE", 60), ("DFS", 900), ("UNINITIALIZED", 60)]

/-- `STUCK_TIMEOUT.get(state or "", STUCK_TIMEOUT_DEFAULT)` -/
def timeoutOf (state : Option String) : ℚ := (Dict.lookup (state.getD "") stuckTimeout).getD 120

/-- What a check reads: the plan, and for each interface the state of hostapd and the clock. -/
structure Check where
  running : Bool
  bsses : Dict String PlannedBss
  state : String → Option String
  now : String → ℚ
  nodup : (Dict.keys bsses).Nodup

/-- `_stuck_since` and `_radio_health` -/
structure Watch where
  stuckSince : Dict String ℚ
  radioHealth : Dict String String

/-- What is emitted, and logged. -/
inductive StuckEvent
  | ssidUp (radio iface : String)
  | radioDown (radio iface : String) (state : Option String) (waited : ℚ)
deriving DecidableEq

/-- One BSS of the loop. -/
def checkBss (c : Check) (w : Watch) (e : String × PlannedBss) : Watch × List StuckEvent :=
  if c.state e.1 = some "ENABLED" then
    match Dict.lookup e.1 w.stuckSince with
    | none => (w, [])
    | some _ => (⟨Dict.erase e.1 w.stuckSince, Dict.set e.2.radio "up" w.radioHealth⟩, [.ssidUp e.2.radio e.1])
  else
    match Dict.lookup e.1 w.stuckSince with
    | none => ({ w with stuckSince := Dict.set e.1 (c.now e.1) w.stuckSince }, [])
    | some since =>
      let waited := c.now e.1 - since
      if waited < timeoutOf (c.state e.1) then (w, [])
      else if Dict.lookup e.2.radio w.radioHealth = some "failed" then (w, [])
      else
        ({ w with radioHealth := Dict.set e.2.radio "failed" w.radioHealth },
          [.radioDown e.2.radio e.1 (c.state e.1) waited])

def checkAll (c : Check) : Dict String PlannedBss → Watch → Watch × List StuckEvent
  | [], w => (w, [])
  | e :: rest, w =>
    let r := checkBss c w e
    let q := checkAll c rest r.1
    (q.1, r.2 ++ q.2)

/-- `_check_stuck_bsses` -/
def checkStuckBsses (c : Check) (w : Watch) : Watch × List StuckEvent :=
  if c.running then checkAll c (Dict.sorted c.bsses) w else ({ w with stuckSince := [] }, [])

/-- Checks, one after the other. -/
def Watch.after (w : Watch) (checks : List Check) : Watch := checks.foldl (fun w c => (checkStuckBsses c w).1) w

/-! ### What the checks have seen -/

/-- The check has found the BSS of the plan in the state. -/
def Check.Sees (c : Check) (iface : String) (state : Option String) : Prop :=
  c.running = true ∧ iface ∈ Dict.keys c.bsses ∧ c.state iface = state

instance (c : Check) (iface : String) (state : Option String) : Decidable (c.Sees iface state) :=
  inferInstanceAs (Decidable (_ ∧ _ ∧ _))

/-- The BSS is not enabled, and every check has found it in its state for as long as the state may last. -/
def StuckBss (checks : List Check) (c : Check) (iface : String) : Prop :=
  c.state iface ≠ some "ENABLED" ∧ ∃ first, StartsAt (fun d => d.Sees iface (c.state iface)) (checks ++ [c]) first ∧
    timeoutOf (c.state iface) ≤ c.now iface - first.now iface

/-- A BSS of the radio is stuck. -/
def StuckRadio (checks : List Check) (c : Check) (rid : String) : Prop :=
  ∃ e ∈ c.bsses, e.2.radio = rid ∧ StuckBss checks c e.1

/-- All BSSes that the plan has for the radio are enabled. -/
def AllEnabled (c : Check) (rid : String) : Prop :=
  c.running = true ∧ ∀ e ∈ c.bsses, e.2.radio = rid → c.state e.1 = some "ENABLED"

/-- The check is exact: a radio is failed while a BSS of it is stuck, is marked failed only then, and is not
failed any more when all its BSSes are enabled. -/
structure Exact (checks : List Check) (c : Check) (w : Watch) : Prop where
  failed : ∀ rid, StuckRadio checks c rid → Dict.lookup rid (checkStuckBsses c w).1.radioHealth = some "failed"
  marked : ∀ rid, Dict.lookup rid w.radioHealth ≠ some "failed" →
    Dict.lookup rid (checkStuckBsses c w).1.radioHealth = some "failed" → StuckRadio checks c rid
  reported : ∀ rid iface state waited, .radioDown rid iface state waited ∈ (checkStuckBsses c w).2 →
    StuckRadio checks c rid
  cleared : ∀ rid, AllEnabled c rid → Dict.lookup rid (checkStuckBsses c w).1.radioHealth ≠ some "failed"

/-- The last check has found the BSS not enabled. -/
def Waiting (checks : List Check) (iface : String) : Prop :=
  ∃ last ∈ checks.getLast?, ∃ state, state ≠ some "ENABLED" ∧ last.Sees iface state

/-- What makes a check exact. -/
structure Steady (checks : List Check) (c : Check) (w : Watch) : Prop where
  /-- a BSS that was not enabled is still in the plan, in the same state or enabled -/
  state : c.running = true → ∀ last ∈ checks.getLast?, ∀ iface state, state ≠ some "ENABLED" →
    last.Sees iface state → c.Sees iface state ∨ c.Sees iface (some "ENABLED")
  /-- no BSS gets enabled after a stuck one of its radio -/
  order : ∀ a ∈ c.bsses, ∀ b ∈ c.bsses, a.2.radio = b.2.radio → a.1 < b.1 → StuckBss checks c a.1 →
    Waiting checks b.1 → c.state b.1 ≠ some "ENABLED"
  /-- when all BSSes of a failed radio are enabled, one of them was not in the last check -/
  recovery : ∀ rid, Dict.lookup rid w.radioHealth = some "failed" → AllEnabled c rid →
    ∃ e ∈ c.bsses, e.2.radio = rid ∧ Waiting checks e.1

/-! ### What the loop does -/

/-- What the loop finds of one BSS. -/
inductive Verdict
  | quiet
  | recovered
  | expired
deriving DecidableEq

def verdict (c : Check) (iface : String) (timer : Option ℚ) : Verdict :=
  if c.state iface = some "ENABLED" then if timer.isSome then .recovered else .quiet
  else if ∃ since ∈ timer, timeoutOf (c.state iface) ≤ c.now iface - since then .expired
  else .quiet

/-- The timer of a BSS after the loop. -/
def nextTimer (c : Check) (iface : String) (timer : Option ℚ) : Option ℚ :=
  if c.state iface = some "ENABLED" then none else some (timer.getD (c.now iface))

/-- The health of the radio. -/
def Verdict.health : Verdict → Option String → Option String
  | .quiet, h => h
  | .recovered, _ => some "up"
  | .expired, _ => some "failed"

theorem lookup_eq_ite {α : Type} (k j : String) (d : Dict String α) :
    Dict.lookup j d = if j = k then Dict.lookup k d else Dict.lookup j d := by
  split
  · rename_i heq
    rw [heq]
  · rfl

theorem lookup_erase (k j : String) (d : Dict String ℚ) :
    Dict.lookup j (Dict.erase k d) = if j = k then none else Dict.lookup j d := by
  split
  · rename_i heq
    rw [heq]
    exact Dict.lookup_erase_self k d
  · rename_i hne
    exact Dict.lookup_erase_of_ne hne d

/-- What one BSS of the loop leaves: its timer, the health of its radio, and what is reported. -/
structure Handled (c : Check) (w : Watch) (e : String × PlannedBss) (r : Watch × List StuckEvent) : Prop where
  timer : ∀ j, Dict.lookup j r.1.stuckSince =
    if j = e.1 then nextTimer c e.1 (Dict.lookup e.1 w.stuckSince) else Dict.lookup j w.stuckSince
  health : ∀ rid, Dict.lookup rid r.1.radioHealth =
    if rid = e.2.radio then (verdict c e.1 (Dict.lookup e.1 w.stuckSince)).health (Dict.lookup rid w.radioHealth)
    else Dict.lookup rid w.radioHealth
  reported : ∀ rid iface state waited, .radioDown rid iface state waited ∈ r.2 →
    rid = e.2.radio ∧ verdict c e.1 (Dict.lookup e.1 w.stuckSince) = .expired

theorem Handled.of_quiet {c : Check} {w : Watch} {e : String × PlannedBss}
    (hverdict : verdict c e.1 (Dict.lookup e.1 w.stuckSince) = .quiet)
    (htimer : nextTimer c e.1 (Dict.lookup e.1 w.stuckSince) = Dict.lookup e.1 w.stuckSince) :
    Handled c w e (w, []) := by
  refine ⟨fun j => ?_, fun rid => ?_, by simp⟩
  · rw [htimer]
    exact lookup_eq_ite _ _ _
  · rw [hverdict]
    exact (ite_self _).symm

theorem handled_enabled {c : Check} {w : Watch} {e : String × PlannedBss} (h : c.state e.1 = some "ENABLED") :
    Handled c w e (checkBss c w e) := by
  rw [checkBss, if_pos h]
  cases htimer : Dict.lookup e.1 w.stuckSince with
  | none =>
    refine .of_quiet ?_ ?_
    · rw [verdict, if_pos h, htimer]
      rfl
    · rw [nextTimer, if_pos h, htimer]
  | some since =>
    have hverdict : verdict c e.1 (Dict.lookup e.1 w.stuckSince) = .recovered := by
      rw [verdict, if_pos h, htimer]
      rfl
    refine ⟨fun j => ?_, fun rid => ?_, by simp⟩
    · rw [nextTimer, if_pos h]
      exact lookup_erase _ _ _
    · rw [hverdict]
      exact Dict.lookup_set _ _ _ _

theorem handled_pending {c : Check} {w : Watch} {e : String × PlannedBss} (h : c.state e.1 ≠ some "ENABLED") :
    Handled c w e (checkBss c w e) := by
  rw [checkBss, if_neg h]
  cases htimer : Dict.lookup e.1 w.stuckSince with
  | none =>
    have hverdict : verdict c e.1 (Dict.lookup e.1 w.stuckSince) = .quiet := by
      rw [verdict, if_neg h, htimer, if_neg (by simp)]
    refine ⟨fun j => ?_, fun rid => ?_, by simp⟩
    · rw [nextTimer, if_neg h, htimer]
      exact Dict.lookup_set _ _ _ _
    · rw [hverdict]
      exact (ite_self _).symm
  | some since =>
    have hnext : nextTimer c e.1 (Dict.lookup e.1 w.stuckSince) = Dict.lookup e.1 w.stuckSince := by
      rw [nextTimer, if_neg h, htimer]
      rfl
    dsimp only
    by_cases hwaited : c.now e.1 - since < timeoutOf (c.state e.1)
    · rw [if_pos hwaited]
      refine .of_quiet ?_ hnext
      rw [verdict, if_neg h, htimer, if_neg (by simpa using hwaited)]
    · rw [if_neg hwaited]
      have hverdict : verdict c e.1 (Dict.lookup e.1 w.stuckSince) = .expired := by
        rw [verdict, if_neg h, htimer, if_pos ⟨since, rfl, not_lt.mp hwaited⟩]
      by_cases hfailed : Dict.lookup e.2.radio w.radioHealth = some "failed"
      · rw [if_pos hfailed]
        refine ⟨fun j => ?_, fun rid => ?_, by simp⟩
        · rw [hnext]
          exact lookup_eq_ite _ _ _
        · rw [hverdict]
          refine (lookup_eq_ite e.2.radio rid w.radioHealth).trans ?_
          rw [hfailed]
          rfl
      · rw [if_neg hfailed]
        refine ⟨fun j => ?_, fun rid => ?_, fun rid iface state waited hin => ?_⟩
        · rw [hnext]
          exact lookup_eq_ite _ _ _
        · rw [hverdict]
          exact Dict.lookup_set _ _ _ _
        · obtain ⟨rfl, -⟩ := StuckEvent.radioDown.inj (List.mem_singleton.mp hin)
          exact ⟨rfl, hverdict⟩

theorem handled (c : Check) (w : Watch) (e : String × PlannedBss) : Handled c w e (checkBss c w e) := by
  by_cases h : c.state e.1 = some "ENABLED"
  · exact handled_enabled h
  · exact handled_pending h

/-- The health of a radio after its BSSes, each with the timer it had before the loop. -/
def healthAfter (c : Check) (timers : Dict String ℚ) (rid : String) (bsses : Dict String PlannedBss)
    (h : Option String) : Option String :=
  bsses.foldl (fun h e => if rid = e.2.radio then (verdict c e.1 (Dict.lookup e.1 timers)).health h else h) h

/-- What the whole loop leaves. -/
structure HandledAll (c : Check) (w : Watch) (bsses : Dict String PlannedBss) (r : Watch × List StuckEvent) : Prop where
  timer : ∀ j, Dict.lookup j r.1.stuckSince =
    if j ∈ Dict.keys bsses then nextTimer c j (Dict.lookup j w.stuckSince) else Dict.lookup j w.stuckSince
  health : ∀ rid, Dict.lookup rid r.1.radioHealth =
    healthAfter c w.stuckSince rid bsses (Dict.lookup rid w.radioHealth)
  reported : ∀ rid iface state waited, .radioDown rid iface state waited ∈ r.2 →
    ∃ e ∈ bsses, rid = e.2.radio ∧ verdict c e.1 (Dict.lookup e.1 w.stuckSince) = .expired

theorem handledAll (c : Check) : ∀ (bsses : Dict String PlannedBss) (w : Watch), (Dict.keys bsses).Nodup →
    HandledAll c w bsses (checkAll c bsses w)
  | [], w, _ => ⟨fun _ => rfl, fun _ => rfl, fun _ _ _ _ h => nomatch h⟩
  | e :: rest, w, hnodup => by
    obtain ⟨hnew, hrest⟩ := List.nodup_cons.mp hnodup
    have hfirst := handled c w e
    have hlater := handledAll c rest (checkBss c w e).1 hrest
    -- the timers of the other BSSes are as before
    have hsame : ∀ e' ∈ rest, Dict.lookup e'.1 (checkBss c w e).1.stuckSince = Dict.lookup e'.1 w.stuckSince := by
      intro e' he'
      rw [hfirst.timer, if_neg]
      rintro heq
      exact hnew (heq ▸ List.mem_map_of_mem he')
    have hkeys : ∀ j, j ∈ Dict.keys (e :: rest) ↔ j = e.1 ∨ j ∈ Dict.keys rest := fun j => List.mem_cons
    refine ⟨fun j => ?_, fun rid => ?_, fun rid iface state waited hin => ?_⟩
    · show Dict.lookup j (checkAll c rest (checkBss c w e).1).1.stuckSince = _
      rw [hlater.timer]
      by_cases hj : j ∈ Dict.keys rest
      · obtain ⟨e', he', rfl⟩ := List.mem_map.mp hj
        rw [if_pos hj, if_pos ((hkeys _).mpr (.inr hj)), hsame e' he']
      · rw [if_neg hj, hfirst.timer]
        by_cases hself : j = e.1
        · rw [if_pos hself, if_pos ((hkeys j).mpr (.inl hself)), hself]
        · rw [if_neg hself, if_neg fun hin => ((hkeys j).mp hin).elim hself hj]
    · show Dict.lookup rid (checkAll c rest (checkBss c w e).1).1.radioHealth = _
      rw [hlater.health, hfirst.health, healthAfter, healthAfter]
      exact List.foldl_ext _ _ _ fun h e' he' => by rw [hsame e' he']
    · rcases List.mem_append.mp hin with hin | hin
      · exact ⟨e, List.mem_cons_self, hfirst.reported rid iface state waited hin⟩
      · obtain ⟨e', he', hrid, hverdict⟩ := hlater.reported rid iface state waited hin
        rw [hsame e' he'] at hverdict
        exact ⟨e', List.mem_cons_of_mem _ he', hrid, hverdict⟩

/-! ### The last BSS that changes the health decides -/

section

variable {c : Check} {timers : Dict String ℚ} {rid : String} {bsses : Dict String PlannedBss}

/-- Nothing else has happened to the radio: its health is as it was, or as that has made it. -/
theorem healthAfter_of_forall {v : Verdict} {value : String} (hvalue : ∀ h, v.health h = some value) (h : Option String)
    (hall : ∀ e ∈ bsses, rid = e.2.radio → verdict c e.1 (Dict.lookup e.1 timers) ≠ .quiet →
      verdict c e.1 (Dict.lookup e.1 timers) = v) :
    healthAfter c timers rid bsses h = h ∨ healthAfter c timers rid bsses h = some value := by
  induction bsses generalizing h with
  | nil => exact .inl rfl
  | cons e rest ih =>
    have hrest := fun h => ih h fun e' he' => hall e' (List.mem_cons_of_mem _ he')
    rw [healthAfter, List.foldl_cons]
    by_cases hrid : rid = e.2.radio
    · rw [if_pos hrid]
      by_cases hquiet : verdict c e.1 (Dict.lookup e.1 timers) = .quiet
      · rw [hquiet]
        exact hrest h
      · rw [hall e List.mem_cons_self hrid hquiet, hvalue]
        exact .inr ((hrest (some value)).elim id id)
    · rw [if_neg hrid]
      exact hrest h

/-- It has happened to a BSS, and nothing else to those after it. -/
theorem healthAfter_of_last {v : Verdict} {value : String} (hvalue : ∀ h, v.health h = some value) (h : Option String)
    {before after : Dict String PlannedBss} {e : String × PlannedBss} (hrid : rid = e.2.radio)
    (hverdict : verdict c e.1 (Dict.lookup e.1 timers) = v)
    (hall : ∀ e' ∈ after, rid = e'.2.radio → verdict c e'.1 (Dict.lookup e'.1 timers) ≠ .quiet →
      verdict c e'.1 (Dict.lookup e'.1 timers) = v) :
    healthAfter c timers rid (before ++ e :: after) h = some value := by
  have hlater := healthAfter_of_forall hvalue (some value) hall
  rw [healthAfter, List.foldl_append, List.foldl_cons, if_pos hrid, hverdict, hvalue]
  exact hlater.elim id id

end

/-! ### The timers -/

/-- The timers that run, and since when. -/
def Timers (checks : List Check) (w : Watch) : Prop :=
  ∀ iface t, Dict.lookup iface w.stuckSince = some t ↔
    ∃ state first, state ≠ some "ENABLED" ∧ StartsAt (fun d => d.Sees iface state) checks first ∧ first.now iface = t

theorem timers_nil (health : Dict String String) : Timers [] ⟨[], health⟩ :=
  fun _ _ => iff_of_false nofun fun ⟨_, first, _, h, _⟩ => not_startsAt_nil first h

/-- A timer runs just for the BSSes that the last check has found not enabled. -/
theorem Timers.isSome_iff {checks : List Check} {w : Watch} (h : Timers checks w) (iface : String) :
    (Dict.lookup iface w.stuckSince).isSome ↔ Waiting checks iface := by
  rw [Option.isSome_iff_exists]
  constructor
  · rintro ⟨t, ht⟩
    obtain ⟨state, first, hne, hstarts, -⟩ := (h iface t).mp ht
    obtain ⟨last, hlast, hsees⟩ := exists_startsAt_iff.mp ⟨first, hstarts⟩
    exact ⟨last, hlast, state, hne, hsees⟩
  · rintro ⟨last, hlast, state, hne, hsees⟩
    have hstreak : ∃ first, StartsAt (fun d => d.Sees iface state) checks first :=
      exists_startsAt_iff.mpr ⟨last, hlast, hsees⟩
    obtain ⟨first, hstarts⟩ := hstreak
    exact ⟨first.now iface, (h iface _).mpr ⟨state, first, hne, hstarts, rfl⟩⟩

theorem mem_keys_iff {c : Check} {iface : String} :
    iface ∈ Dict.keys (Dict.sorted c.bsses) ↔ iface ∈ Dict.keys c.bsses := by
  have hperm : (Dict.sorted c.bsses).Perm c.bsses := List.perm_insertionSort _ _
  exact (hperm.map Prod.fst).mem_iff

theorem handledAll_check {c : Check} (hrunning : c.running = true) (w : Watch) :
    HandledAll c w (Dict.sorted c.bsses) (checkStuckBsses c w) := by
  have hperm : (Dict.sorted c.bsses).Perm c.bsses := List.perm_insertionSort _ _
  rw [checkStuckBsses, if_pos hrunning]
  exact handledAll c _ w ((hperm.map Prod.fst).nodup_iff.mpr c.nodup)

/-- A timer for the checks up to `c` is for a BSS that `c` has seen. -/
theorem sees_of_startsAt {checks : List Check} {c first : Check} {iface : String} {state : Option String}
    (h : StartsAt (fun d => d.Sees iface state) (checks ++ [c]) first) : c.Sees iface state :=
  (startsAt_concat.mp h).1

/-- A BSS that gets its timer: no check before has seen it in the state. -/
theorem Timers.first {checks : List Check} {w : Watch} (h : Timers checks w) {c : Check} {iface : String}
    (hsees : c.Sees iface (c.state iface)) (hpending : c.state iface ≠ some "ENABLED")
    (hnone : Dict.lookup iface w.stuckSince = none) (t : ℚ) : c.now iface = t ↔ ∃ state first, state ≠ some "ENABLED" ∧
      StartsAt (fun d => d.Sees iface state) (checks ++ [c]) first ∧ first.now iface = t := by
  have hwaiting : ¬ Waiting checks iface := by
    rw [← h.isSome_iff, hnone]
    exact Bool.false_ne_true
  constructor
  · intro ht
    refine ⟨c.state iface, c, hpending, startsAt_concat.mpr ⟨hsees, .inr ⟨rfl, fun last hlast hlastSees => ?_⟩⟩, ht⟩
    exact hwaiting ⟨last, hlast, c.state iface, hpending, hlastSees⟩
  · rintro ⟨state, first, hne, hstarts, ht⟩
    obtain ⟨-, hbefore | ⟨rfl, -⟩⟩ := startsAt_concat.mp hstarts
    · obtain ⟨last, hlast, hlastSees⟩ := exists_startsAt_iff.mp ⟨first, hbefore⟩
      exact absurd ⟨last, hlast, state, hne, hlastSees⟩ hwaiting
    · exact ht

/-- A BSS that keeps its timer: it is still in the state it was in. -/
theorem Timers.again {checks : List Check} {w : Watch} (h : Timers checks w) {c : Check} (hsteady : Steady checks c w)
    {iface : String} (hrunning : c.running = true) (hpending : c.state iface ≠ some "ENABLED") {t₀ : ℚ}
    (hsome : Dict.lookup iface w.stuckSince = some t₀) (t : ℚ) : t₀ = t ↔ ∃ state first, state ≠ some "ENABLED" ∧
      StartsAt (fun d => d.Sees iface state) (checks ++ [c]) first ∧ first.now iface = t := by
  obtain ⟨state₀, first₀, hne₀, hstarts₀, ht₀⟩ := (h iface t₀).mp hsome
  obtain ⟨last, hlast, hlastSees⟩ := exists_startsAt_iff.mp ⟨first₀, hstarts₀⟩
  have hsees : c.Sees iface state₀ := by
    rcases hsteady.state hrunning last hlast iface state₀ hne₀ hlastSees with hsees | hsees
    · exact hsees
    · exact absurd hsees.2.2 hpending
  constructor
  · rintro rfl
    exact ⟨state₀, first₀, hne₀, startsAt_concat.mpr ⟨hsees, .inl hstarts₀⟩, ht₀⟩
  · rintro ⟨state, first, hne, hstarts, ht⟩
    obtain ⟨hsees', hbefore | ⟨-, hnone⟩⟩ := startsAt_concat.mp hstarts
    · have htimer := (h iface t).mpr ⟨state, first, hne, hbefore, ht⟩
      exact Option.some.inj (hsome.symm.trans htimer)
    · have hstate : state = state₀ := hsees'.2.2.symm.trans hsees.2.2
      rw [hstate] at hnone
      exact absurd hlastSees (hnone last hlast)

/-- A steady check keeps the timers in step with what the checks have seen. -/
theorem Timers.check {checks : List Check} {w : Watch} (h : Timers checks w) {c : Check} (hsteady : Steady checks c w) :
    Timers (checks ++ [c]) (checkStuckBsses c w).1 := by
  intro iface t
  by_cases hrunning : c.running = true
  · rw [(handledAll_check hrunning w).timer]
    by_cases hin : iface ∈ Dict.keys c.bsses
    · rw [if_pos (mem_keys_iff.mpr hin), nextTimer]
      by_cases henabled : c.state iface = some "ENABLED"
      · rw [if_pos henabled]
        refine iff_of_false nofun ?_
        rintro ⟨state, first, hne, hstarts, -⟩
        exact hne ((sees_of_startsAt hstarts).2.2.symm.trans henabled)
      · rw [if_neg henabled, Option.some_inj]
        cases htimer : Dict.lookup iface w.stuckSince with
        | none => exact h.first ⟨hrunning, hin, rfl⟩ henabled htimer t
        | some t₀ => exact h.again hsteady hrunning henabled htimer t
    · rw [if_neg (mt mem_keys_iff.mp hin)]
      have hwaiting : ¬ Waiting checks iface := by
        rintro ⟨last, hlast, state, hne, hsees⟩
        exact (hsteady.state hrunning last hlast iface state hne hsees).elim (fun h => hin h.2.1) fun h => hin h.2.1
      rw [← h.isSome_iff, Option.not_isSome_iff_eq_none] at hwaiting
      rw [hwaiting]
      refine iff_of_false nofun ?_
      rintro ⟨state, first, -, hstarts, -⟩
      exact hin (sees_of_startsAt hstarts).2.1
  · rw [checkStuckBsses, if_neg hrunning]
    refine iff_of_false nofun ?_
    rintro ⟨state, first, -, hstarts, -⟩
    exact hrunning (sees_of_startsAt hstarts).1

/-! ### Exactness -/

theorem timeoutOf_pos (state : Option String) : 0 < timeoutOf state := by
  have hlimits : ∀ e ∈ stuckTimeout, 0 < e.2 := by decide
  rw [timeoutOf]
  cases hlimit : Dict.lookup (state.getD "") stuckTimeout with
  | none => exact (by norm_num : (0 : ℚ) < 120)
  | some limit => exact hlimits _ (Dict.mem_of_lookup hlimit)

theorem verdict_expired_iff {c : Check} {iface : String} {timer : Option ℚ} : verdict c iface timer = .expired ↔
    c.state iface ≠ some "ENABLED" ∧ ∃ since ∈ timer, timeoutOf (c.state iface) ≤ c.now iface - since := by
  rw [verdict]
  split
  · rename_i henabled
    refine iff_of_false ?_ fun h => h.1 henabled
    split <;> nofun
  · rename_i hpending
    rw [ite_eq_left_iff, and_iff_right hpending]
    exact ⟨fun h => by_contra fun hnot => (nomatch h hnot), fun h hnot => absurd h hnot⟩

theorem verdict_recovered_iff {c : Check} {iface : String} {timer : Option ℚ} :
    verdict c iface timer = .recovered ↔ c.state iface = some "ENABLED" ∧ timer.isSome := by
  rw [verdict]
  split
  · rename_i henabled
    rw [ite_eq_left_iff, and_iff_right henabled]
    exact ⟨fun h => by_contra fun hnot => (nomatch h hnot), fun h hnot => absurd h hnot⟩
  · rename_i hpending
    refine iff_of_false ?_ fun h => hpending h.1
    split <;> nofun

/-- The loop finds a BSS expired just when it is stuck. -/
theorem Timers.expired_iff {checks : List Check} {w : Watch} (h : Timers checks w) {c : Check}
    (hsteady : Steady checks c w) (hrunning : c.running = true) {e : String × PlannedBss} (he : e ∈ c.bsses) :
    verdict c e.1 (Dict.lookup e.1 w.stuckSince) = .expired ↔ StuckBss checks c e.1 := by
  rw [verdict_expired_iff, StuckBss]
  refine and_congr_right fun hpending => ?_
  have hsees : c.Sees e.1 (c.state e.1) := ⟨hrunning, List.mem_map_of_mem he, rfl⟩
  cases htimer : Dict.lookup e.1 w.stuckSince with
  | none =>
    refine iff_of_false (by simp) ?_
    rintro ⟨first, hstarts, hlimit⟩
    have hnow := (h.first hsees hpending htimer (first.now e.1)).mpr ⟨_, first, hpending, hstarts, rfl⟩
    have hpos := timeoutOf_pos (c.state e.1)
    rw [hnow] at hlimit
    linarith
  | some t₀ =>
    have hagain := h.again hsteady hrunning hpending htimer
    constructor
    · rintro ⟨since, hsince, hlimit⟩
      obtain rfl := Option.some.inj hsince
      obtain ⟨state, first, -, hstarts, rfl⟩ := (hagain t₀).mp rfl
      obtain rfl := (sees_of_startsAt hstarts).2.2
      exact ⟨first, hstarts, hlimit⟩
    · rintro ⟨first, hstarts, hlimit⟩
      have ht₀ := (hagain (first.now e.1)).mpr ⟨_, first, hpending, hstarts, rfl⟩
      exact ⟨t₀, rfl, ht₀ ▸ hlimit⟩

/-- The loop finds a BSS recovered just when it was waiting and is enabled. -/
theorem Timers.recovered_iff {checks : List Check} {w : Watch} (h : Timers checks w) (c : Check) (iface : String) :
    verdict c iface (Dict.lookup iface w.stuckSince) = .recovered ↔
      c.state iface = some "ENABLED" ∧ Waiting checks iface := by
  rw [verdict_recovered_iff, h.isSome_iff]

/-- The BSSes that come after one in the loop. -/
theorem lt_of_sorted {c : Check} {before after : Dict String PlannedBss} {e : String × PlannedBss}
    (h : Dict.sorted c.bsses = before ++ e :: after) : ∀ e' ∈ after, e.1 < e'.1 := by
  have hperm : (Dict.sorted c.bsses).Perm c.bsses := List.perm_insertionSort _ _
  have hnodup : (Dict.keys (Dict.sorted c.bsses)).Nodup := (hperm.map Prod.fst).nodup_iff.mpr c.nodup
  have _total : Std.Total fun a b : String × PlannedBss => a.1 ≤ b.1 := ⟨fun a b => le_total a.1 b.1⟩
  have _trans : IsTrans (String × PlannedBss) fun a b => a.1 ≤ b.1 := ⟨fun _ _ _ => le_trans⟩
  have hsorted : (Dict.sorted c.bsses).Pairwise fun a b => a.1 ≤ b.1 := List.pairwise_insertionSort _ _
  have hstrict := (List.pairwise_map.mp hnodup).and hsorted
  rw [h, List.pairwise_append] at hstrict
  intro e' he'
  obtain ⟨hne, hle⟩ := (List.pairwise_cons.mp hstrict.2.1).1 e' he'
  exact lt_of_le_of_ne hle hne

variable {checks : List Check} {c : Check} {w : Watch}

theorem Timers.failed (h : Timers checks w) (hsteady : Steady checks c w) {rid : String}
    (hstuck : StuckRadio checks c rid) : Dict.lookup rid (checkStuckBsses c w).1.radioHealth = some "failed" := by
  obtain ⟨e, he, rfl, hbss⟩ := hstuck
  obtain ⟨first, hstarts, -⟩ := hbss.2
  have hrunning := (sees_of_startsAt hstarts).1
  have hperm : (Dict.sorted c.bsses).Perm c.bsses := List.perm_insertionSort _ _
  obtain ⟨before, after, hsplit⟩ := List.append_of_mem (hperm.mem_iff.mpr he)
  rw [(handledAll_check hrunning w).health, hsplit]
  refine healthAfter_of_last (fun _ => rfl) _ rfl ((h.expired_iff hsteady hrunning he).mpr hbss) ?_
  intro e' he' hradio hloud
  cases hverdict : verdict c e'.1 (Dict.lookup e'.1 w.stuckSince) with
  | quiet => exact absurd hverdict hloud
  | expired => rfl
  | recovered =>
    obtain ⟨henabled, hwaiting⟩ := (h.recovered_iff c e'.1).mp hverdict
    have hin : e' ∈ c.bsses := hperm.mem_iff.mp (by rw [hsplit]; simp [he'])
    exact absurd henabled (hsteady.order e he e' hin hradio (lt_of_sorted hsplit e' he') hbss hwaiting)

/-- Nothing of the radio is stuck: its health is as it was, or up. -/
theorem Timers.not_failed (h : Timers checks w) (hsteady : Steady checks c w) (hrunning : c.running = true)
    {rid : String} (hstuck : ¬ StuckRadio checks c rid) {bsses : Dict String PlannedBss} (hsub : ∀ e ∈ bsses, e ∈ c.bsses) :
    ∀ e ∈ bsses, rid = e.2.radio → verdict c e.1 (Dict.lookup e.1 w.stuckSince) ≠ .quiet →
      verdict c e.1 (Dict.lookup e.1 w.stuckSince) = .recovered := by
  intro e he hradio hloud
  cases hverdict : verdict c e.1 (Dict.lookup e.1 w.stuckSince) with
  | quiet => exact absurd hverdict hloud
  | recovered => rfl
  | expired =>
    have hbss := (h.expired_iff hsteady hrunning (hsub e he)).mp hverdict
    exact absurd ⟨e, hsub e he, hradio.symm, hbss⟩ hstuck

theorem Timers.marked (h : Timers checks w) (hsteady : Steady checks c w) {rid : String}
    (hbefore : Dict.lookup rid w.radioHealth ≠ some "failed")
    (hafter : Dict.lookup rid (checkStuckBsses c w).1.radioHealth = some "failed") : StuckRadio checks c rid := by
  have hperm : (Dict.sorted c.bsses).Perm c.bsses := List.perm_insertionSort _ _
  by_contra hstuck
  by_cases hrunning : c.running = true
  · rw [(handledAll_check hrunning w).health] at hafter
    have hall := h.not_failed hsteady hrunning hstuck fun e he => hperm.mem_iff.mp he
    rcases healthAfter_of_forall (fun _ => rfl) (Dict.lookup rid w.radioHealth) hall with heq | heq
    · exact hbefore (heq.symm.trans hafter)
    · exact absurd (heq.symm.trans hafter) (by decide)
  · rw [checkStuckBsses, if_neg hrunning] at hafter
    exact hbefore hafter

theorem Timers.reported (h : Timers checks w) (hsteady : Steady checks c w) {rid iface : String} {state : Option String}
    {waited : ℚ} (hin : .radioDown rid iface state waited ∈ (checkStuckBsses c w).2) : StuckRadio checks c rid := by
  have hperm : (Dict.sorted c.bsses).Perm c.bsses := List.perm_insertionSort _ _
  by_cases hrunning : c.running = true
  · obtain ⟨e, he, rfl, hverdict⟩ := (handledAll_check hrunning w).reported rid iface state waited hin
    have hmem := hperm.mem_iff.mp he
    exact ⟨e, hmem, rfl, (h.expired_iff hsteady hrunning hmem).mp hverdict⟩
  · rw [checkStuckBsses, if_neg hrunning] at hin
    cases hin

theorem Timers.cleared (h : Timers checks w) (hsteady : Steady checks c w) {rid : String}
    (henabled : AllEnabled c rid) : Dict.lookup rid (checkStuckBsses c w).1.radioHealth ≠ some "failed" := by
  have hperm : (Dict.sorted c.bsses).Perm c.bsses := List.perm_insertionSort _ _
  have hstuck : ¬ StuckRadio checks c rid := by
    rintro ⟨e, he, hradio, hbss⟩
    exact hbss.1 (henabled.2 e he hradio)
  by_cases hbefore : Dict.lookup rid w.radioHealth = some "failed"
  · obtain ⟨e, he, rfl, hwaiting⟩ := hsteady.recovery rid hbefore henabled
    obtain ⟨before, after, hsplit⟩ := List.append_of_mem (hperm.mem_iff.mpr he)
    have hsub : ∀ e' ∈ after, e' ∈ c.bsses := fun e' he' => hperm.mem_iff.mp (by rw [hsplit]; simp [he'])
    have hverdict := (h.recovered_iff c e.1).mpr ⟨henabled.2 e he rfl, hwaiting⟩
    have hall := h.not_failed hsteady henabled.1 hstuck hsub
    rw [(handledAll_check henabled.1 w).health, hsplit, healthAfter_of_last (fun _ => rfl) _ rfl hverdict hall]
    decide
  · exact fun hafter => hstuck (h.marked hsteady hbefore hafter)

theorem Timers.exact (h : Timers checks w) (hsteady : Steady checks c w) : Exact checks c w :=
  ⟨fun _ => h.failed hsteady, fun _ => h.marked hsteady, fun _ _ _ _ => h.reported hsteady, fun _ => h.cleared hsteady⟩

/-! ### Runs -/

theorem after_concat (w : Watch) (checks : List Check) (c : Check) :
    w.after (checks ++ [c]) = (checkStuckBsses c (w.after checks)).1 := by
  rw [Watch.after, List.foldl_append]
  rfl

/-- Every check of the run is steady. -/
def AllSteady (w : Watch) (run : List Check) : Prop :=
  ∀ checks c, checks ++ [c] <+: run → Steady checks c (w.after checks)

theorem timers_after (health : Dict String String) (run : List Check) (hsteady : AllSteady ⟨[], health⟩ run) :
    Timers run (Watch.after ⟨[], health⟩ run) := by
  induction run using List.reverseRecOn with
  | nil => exact timers_nil health
  | append_singleton checks c ih =>
    have hbefore : AllSteady ⟨[], health⟩ checks := fun checks' c' hpre =>
      hsteady checks' c' (hpre.trans (List.prefix_append checks [c]))
    rw [after_concat]
    exact (ih hbefore).check (hsteady checks c List.prefix_rfl)

/-- **Detection is exact over runs of steady checks**, whatever the radios are said to be when it starts. -/
theorem stuck_exact (health : Dict String String) (run : List Check) (hsteady : AllSteady ⟨[], health⟩ run) :
    ∀ checks c, checks ++ [c] <+: run → Exact checks c (Watch.after ⟨[], health⟩ checks) := by
  intro checks c hpre
  have hbefore : AllSteady ⟨[], health⟩ checks := fun checks' c' hin =>
    hsteady checks' c' ((hin.trans (List.prefix_append checks [c])).trans hpre)
  exact (timers_after health checks hbefore).exact (hsteady checks c hpre)

/-! ### One BSS -/

/-- A BSS on a radio of its own. -/
def onlyBss : PlannedBss := ⟨"wl5g0", "radio-5g", "5g", "home", ⟨0x02, 0, 0, 0, 0, 5⟩, [], 0, none, none⟩

/-- A check that finds it in the state. -/
def observe (state : String) (now : ℚ) : Check where
  running := true
  bsses := [("wl5g0", onlyBss)]
  state _ := some state
  now _ := now
  nodup := List.nodup_singleton _

/-- Seventy seconds in ACS count as seventy seconds in the next state, which may last sixty. -/
theorem new_state_failed : ¬ ∀ health run checks c, checks ++ [c] <+: run →
    Exact checks c (Watch.after ⟨[], health⟩ checks) := by
  intro h
  have hexact := h [] [observe "ACS" 0, observe "COUNTRY_UPDATE" 70] [observe "ACS" 0] (observe "COUNTRY_UPDATE" 70)
    List.prefix_rfl
  have hstuck := hexact.marked "radio-5g" (by decide +kernel) (by decide +kernel)
  obtain ⟨e, he, -, -, first, hstarts, hlimit⟩ := hstuck
  obtain rfl := List.mem_singleton.mp he
  obtain ⟨-, hbefore | ⟨rfl, -⟩⟩ := startsAt_concat.mp hstarts
  · obtain ⟨last, hlast, hsees⟩ := exists_startsAt_iff.mp ⟨first, hbefore⟩
    obtain rfl := Option.some.inj hlast
    exact absurd hsees.2.2 (by decide)
  · exact absurd hlimit (by decide +kernel)

theorem AllSteady.concat {w : Watch} {run : List Check} (h : AllSteady w run) {c : Check}
    (hc : Steady run c (w.after run)) : AllSteady w (run ++ [c]) := by
  intro checks c' hpre
  rcases List.prefix_concat_iff.mp hpre with heq | hpre
  · obtain ⟨rfl, hlast⟩ := List.append_inj' heq rfl
    obtain rfl := (List.cons.inj hlast).1
    exact hc
  · exact h checks c' hpre

/-- The BSS stays in its state, or gets enabled. -/
theorem steady_observe {before state : String} {t t' : ℚ} (checks : List Check) {w : Watch}
    (hpending : before ≠ "ENABLED") (hstate : state = before ∨ state = "ENABLED")
    (hhealth : ∀ rid, Dict.lookup rid w.radioHealth = some "failed" → rid = "radio-5g") :
    Steady (checks ++ [observe before t]) (observe state t') w := by
  have hlast : (checks ++ [observe before t]).getLast? = some (observe before t) := by simp
  refine ⟨fun _ last hmem iface s _ hsees => ?_, fun a ha b hb _ hlt => ?_, fun rid hfailed _ => ?_⟩
  · obtain rfl := Option.some.inj (hlast.symm.trans hmem)
    obtain ⟨-, hin, rfl⟩ := hsees
    rcases hstate with rfl | rfl
    · exact .inl ⟨rfl, hin, rfl⟩
    · exact .inr ⟨rfl, hin, rfl⟩
  · rw [List.mem_singleton.mp ha, List.mem_singleton.mp hb] at hlt
    exact absurd hlt (lt_irrefl _)
  · have hwaiting : Waiting (checks ++ [observe before t]) "wl5g0" := by
      refine ⟨observe before t, hlast, some before, fun heq => hpending (Option.some.inj heq), ?_⟩
      exact ⟨rfl, List.mem_singleton_self _, rfl⟩
    exact ⟨("wl5g0", onlyBss), List.mem_singleton_self _, (hhealth rid hfailed).symm, hwaiting⟩

/-- The BSS is in ACS for longer than it may, and then gets enabled. -/
def slowStart : List Check := [observe "ACS" 0, observe "ACS" 130, observe "ENABLED" 140]

theorem allSteady_slowStart : AllSteady ⟨[], []⟩ slowStart := by
  have hempty : AllSteady ⟨[], []⟩ [] := by
    intro checks c hpre
    simp at hpre
  have hfirst : Steady [] (observe "ACS" 0) ⟨[], []⟩ := by
    refine ⟨by simp, fun a ha b hb _ hlt => ?_, by simp⟩
    rw [List.mem_singleton.mp ha, List.mem_singleton.mp hb] at hlt
    exact absurd hlt (lt_irrefl _)
  refine ((hempty.concat hfirst).concat (steady_observe [] (by decide) (.inl rfl) ?_)).concat
    (steady_observe [observe "ACS" 0] (by decide) (.inr rfl) ?_)
  · intro rid hfailed
    cases hfailed
  · have hhealth : (Watch.after ⟨[], []⟩ [observe "ACS" 0, observe "ACS" 130]).radioHealth =
        [("radio-5g", "failed")] := by decide +kernel
    intro rid hfailed
    have hmem := Dict.mem_of_lookup hfailed
    rw [List.nil_append, List.singleton_append, hhealth] at hmem
    exact (Prod.mk.inj (List.mem_singleton.mp hmem)).1

/-- The check that finds it too long in ACS. -/
theorem stuck_exact_slowStart :
    Exact [observe "ACS" 0] (observe "ACS" 130) (Watch.after ⟨[], []⟩ [observe "ACS" 0]) :=
  stuck_exact [] slowStart allSteady_slowStart [observe "ACS" 0] (observe "ACS" 130) ⟨[observe "ENABLED" 140], rfl⟩

end Sbegw.Wifid
