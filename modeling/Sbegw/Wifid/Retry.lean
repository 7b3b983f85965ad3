import Sbegw.Netd
import Sbegw.Lib.Run
import Mathlib.Algebra.Order.Field.Basic
import Mathlib.Data.Rat.Floor
import Mathlib.Tactic.Linarith
import Mathlib.Tactic.NormNum

/-!
# Restarting hostapd

`poll_health` restarts a hostapd that does not run, with a delay that doubles up to 300 seconds.  The power of
two is an integer that no float takes from 2^1024 on: the 1025th attempt in a row raises before it is made, and
so does every later one.
-/

namespace Sbegw.Wifid

open Machine Text

/-! ### The delay -/

/-- `float(2 ** n)` -/
def floatPow (n : ℕ) : Except Exn ℚ :=
  if n < 1024 then .ok (2 ^ n) else .error (.other "int too large to convert to float")

/-- `min(15.0 * (2 ** (failures - 1)), 300.0)`; where the product is beyond the floats it is infinite. -/
def retryDelay (failures : ℕ) : Except Exn ℚ := (floatPow (failures - 1)).map fun p => min (15 * p) 300

/-! ### Polling -/

/-- `_hostapd_failures` and `_hostapd_retry_after` -/
structure Retry where
  failures : ℕ
  retryAfter : ℚ

def Retry.init : Retry := ⟨0, 0⟩

/-- What a health tick meets. -/
structure HealthTick where
  cfg : Obj
  /-- `_hostapd_running()` -/
  running : Bool
  /-- `monotonic()` -/
  clock : ℚ
  /-- `monotonic()`, when it is read again -/
  later : ℚ
  nonneg : 0 ≤ clock
  inOrder : clock ≤ later
  /-- The apply has started a hostapd. -/
  started : Bool
  /-- The apply was fine, and hostapd runs after it. -/
  succeeded : Bool

/-- A step of the daemon: a health tick, or the apply of a configuration, which may start a hostapd. -/
inductive RetryStep where
  | tick (t : HealthTick)
  | apply (started : Bool)

inductive Polled where
  /-- no wireless network, or hostapd runs -/
  | idle
  | waiting
  | attempted (delay : ℚ) (failed : Bool)
  | raised (e : Exn)
  | applied (started : Bool)

/-- `cfg.get("wifi", {}).get("networks")` is true. -/
def hasNetworks (cfg : Obj) : Bool := ((Json.obj (Netd.sectionOf cfg "wifi")).getD "networks" .null).truthy

/-- hostapd should run and does not. -/
def HealthTick.down (t : HealthTick) : Bool := hasNetworks t.cfg && !t.running

/-- The last part of `poll_health`. -/
def poll (t : HealthTick) (s : Retry) : Polled × Retry :=
  if t.down then
    if t.clock < s.retryAfter then (.waiting, s)
    else
      let failures := s.failures + 1
      match retryDelay failures with
      | .error e => (.raised e, { s with failures := failures })
      | .ok delay =>
        if t.started || t.succeeded then (.attempted delay false, .init)
        else (.attempted delay true, ⟨failures, t.later + delay⟩)
  else (.idle, s)

def retryStep (s : Retry) : RetryStep → Option (Polled × Retry)
  | .tick t => some (poll t s)
  | .apply started => some (.applied started, if started then .init else s)

abbrev RetryRun := Step Retry RetryStep Polled

/-- An attempt is due. -/
def Due (x : RetryRun) : Prop := ∃ t, x.act = .tick t ∧ t.down = true ∧ x.pre.retryAfter ≤ t.clock

/-- The step has not brought hostapd up. -/
def Fruitless (x : RetryRun) : Prop := (∀ delay, x.out ≠ .attempted delay false) ∧ x.out ≠ .applied true

/-- **hostapd is retried forever**, with a bounded backoff. -/
structure Retried (l : List RetryRun) : Prop where
  computes : ∀ x ∈ l, ∀ e, x.out ≠ .raised e
  bounds : ∀ x ∈ l, ∀ delay failed, x.out = .attempted delay failed → 15 ≤ delay ∧ delay ≤ 300
  /-- The delays of consecutive failed attempts do not decrease. -/
  grows : ∀ before x between y after, l = before ++ x :: (between ++ y :: after) → (∀ z ∈ between, Fruitless z) →
    ∀ delay delay' failed, x.out = .attempted delay true → y.out = .attempted delay' failed → delay ≤ delay'
  /-- After a failed attempt another is made on the first tick after the delay, if none was made before. -/
  again : ∀ before x between y after, l = before ++ x :: (between ++ y :: after) →
    (∀ z ∈ between, ∀ delay failed, z.out ≠ .attempted delay failed) →
    ∀ t t' delay, x.act = .tick t → x.out = .attempted delay true → y.act = .tick t' → t'.down = true →
      t.later + delay ≤ t'.clock → ∃ delay' failed, y.out = .attempted delay' failed

/-! ### Delays -/

theorem retryDelay_ok {n : ℕ} (h : n < 1024) : retryDelay (n + 1) = .ok (min (15 * 2 ^ n) 300) := by
  unfold retryDelay floatPow
  rw [Nat.add_sub_cancel, if_pos h]
  rfl

theorem retryDelay_error {n : ℕ} (h : 1024 ≤ n) : ∃ e, retryDelay (n + 1) = .error e := by
  unfold retryDelay floatPow
  rw [Nat.add_sub_cancel, if_neg (not_lt.mpr h)]
  exact ⟨_, rfl⟩

theorem le_delay (n : ℕ) : (15 : ℚ) ≤ min (15 * 2 ^ n) 300 := by
  have hone : (1 : ℚ) ≤ 2 ^ n := one_le_pow₀ one_le_two
  refine le_min ?_ (by norm_num)
  linarith

theorem delay_mono {m n : ℕ} (h : m ≤ n) : min (15 * 2 ^ m) 300 ≤ min (15 * 2 ^ n) (300 : ℚ) := by
  have hpow : (2 : ℚ) ^ m ≤ 2 ^ n := pow_le_pow_right₀ one_le_two h
  refine min_le_min ?_ le_rfl
  linarith

/-! ### Steps -/

/-- What a step does: it has no attempt to make, it raises, or it makes one. -/
theorem retryStep_cases {s s' : Retry} {a : RetryStep} {o : Polled} (h : retryStep s a = some (o, s')) :
    ((∀ delay failed, o ≠ .attempted delay failed) ∧ (∀ e, o ≠ .raised e) ∧
      (s' = s ∨ o = .applied true ∧ s' = .init) ∧ ¬ Due ⟨s, a, o, s'⟩) ∨
    (1024 ≤ s.failures ∧ Due ⟨s, a, o, s'⟩ ∧ (∃ e, o = .raised e) ∧ s' = { s with failures := s.failures + 1 }) ∨
    (s.failures < 1024 ∧ Due ⟨s, a, o, s'⟩ ∧ ∃ t, a = .tick t ∧ ∃ failed,
      o = .attempted (min (15 * 2 ^ s.failures) 300) failed ∧
      s' = if failed then ⟨s.failures + 1, t.later + min (15 * 2 ^ s.failures) 300⟩ else .init) := by
  cases a with
  | apply started =>
    obtain ⟨rfl, rfl⟩ := Prod.mk.inj (Option.some.inj h)
    refine .inl ⟨by simp, by simp, ?_, ?_⟩
    · cases started with
      | false => exact .inl rfl
      | true => exact .inr ⟨rfl, rfl⟩
    · rintro ⟨t, heq, -⟩
      exact absurd heq (by simp)
  | tick t =>
    have hpoll : poll t s = (o, s') := Option.some.inj h
    unfold poll at hpoll
    by_cases hdown : t.down = true
    · rw [if_pos hdown] at hpoll
      by_cases hwait : t.clock < s.retryAfter
      · rw [if_pos hwait] at hpoll
        obtain ⟨rfl, rfl⟩ := Prod.mk.inj hpoll
        refine .inl ⟨by simp, by simp, .inl rfl, ?_⟩
        rintro ⟨u, heq, -, hle⟩
        obtain rfl : t = u := by simpa using heq
        exact absurd hwait (not_lt.mpr hle)
      · rw [if_neg hwait] at hpoll
        have hdue : Due ⟨s, .tick t, o, s'⟩ := ⟨t, rfl, hdown, not_lt.mp hwait⟩
        dsimp only at hpoll
        rcases Nat.lt_or_ge s.failures 1024 with hfew | hmany
        · rw [retryDelay_ok hfew] at hpoll
          refine .inr (.inr ⟨hfew, hdue, t, rfl, ?_⟩)
          dsimp only at hpoll
          split at hpoll
          · obtain ⟨rfl, rfl⟩ := Prod.mk.inj hpoll
            exact ⟨false, rfl, rfl⟩
          · obtain ⟨rfl, rfl⟩ := Prod.mk.inj hpoll
            exact ⟨true, rfl, rfl⟩
        · obtain ⟨e, he⟩ := retryDelay_error hmany
          rw [he] at hpoll
          obtain ⟨rfl, rfl⟩ := Prod.mk.inj hpoll
          exact .inr (.inl ⟨hmany, hdue, ⟨e, rfl⟩, rfl⟩)
    · rw [if_neg hdown] at hpoll
      obtain ⟨rfl, rfl⟩ := Prod.mk.inj hpoll
      refine .inl ⟨by simp, by simp, .inl rfl, ?_⟩
      rintro ⟨u, heq, hdown', -⟩
      obtain rfl : t = u := by simpa using heq
      exact hdown hdown'

/-- A step raises exactly when an attempt is due after 1024 failures. -/
theorem raises_iff {s s' : Retry} {a : RetryStep} {o : Polled} (h : retryStep s a = some (o, s')) :
    (∃ e, o = .raised e) ↔ Due ⟨s, a, o, s'⟩ ∧ 1024 ≤ s.failures := by
  rcases retryStep_cases h with ⟨-, hraised, -, hdue⟩ | ⟨hmany, hdue, hraised, -⟩ | ⟨hfew, -, t, -, failed, rfl, -⟩
  · exact ⟨fun ⟨e, he⟩ => absurd he (hraised e), fun hboth => absurd hboth.1 hdue⟩
  · exact ⟨fun _ => ⟨hdue, hmany⟩, fun _ => hraised⟩
  · exact ⟨fun ⟨e, he⟩ => absurd he (by simp), fun hboth => absurd hboth.2 (not_le.mpr hfew)⟩

/-- What is known of a step that makes an attempt. -/
theorem attempted_spec {s s' : Retry} {a : RetryStep} {delay : ℚ} {failed : Bool}
    (h : retryStep s a = some (.attempted delay failed, s')) :
    delay = min (15 * 2 ^ s.failures) 300 ∧ ∃ t, a = .tick t ∧
      s' = if failed then ⟨s.failures + 1, t.later + delay⟩ else .init := by
  rcases retryStep_cases h with ⟨hnone, -⟩ | ⟨-, -, ⟨e, he⟩, -⟩ | ⟨-, -, t, ht, failed', hout, hpost⟩
  · exact absurd rfl (hnone delay failed)
  · exact absurd he (by simp)
  · obtain ⟨rfl, rfl⟩ := (Polled.attempted.injEq _ _ _ _).mp hout
    exact ⟨rfl, t, ht, hpost⟩

/-- After a failed attempt, steps that bring nothing up do not lower the counter. -/
theorem failures_of_fruitless {s s' : Retry} {l : List RetryRun} (h : Run retryStep s l s')
    (hl : ∀ z ∈ l, Fruitless z) : s.failures ≤ s'.failures := by
  have hrun := h.history (fun _ u => s.failures ≤ u.failures) (fun _ z => Fruitless z) ?_ [] le_rfl
    fun l₁ x l₂ heq => hl x (by rw [heq]; simp)
  · exact hrun
  · intro _ u a o v hle hs hfruitless
    rcases retryStep_cases hs with ⟨-, -, rfl | ⟨happlied, -⟩, -⟩ | ⟨-, -, -, rfl⟩ | ⟨-, -, t, -, failed, hout, rfl⟩
    · exact hle
    · exact absurd happlied hfruitless.2
    · exact hle.trans (Nat.le_succ _)
    · cases failed with
      | false => exact absurd hout (hfruitless.1 _)
      | true => exact hle.trans (Nat.le_succ _)

/-- Steps without an attempt leave the time of the next one, or clear it. -/
theorem retryAfter_of_unattempted {s s' : Retry} {l : List RetryRun} (h : Run retryStep s l s')
    (hl : ∀ z ∈ l, ∀ delay failed, z.out ≠ .attempted delay failed) :
    s'.retryAfter = s.retryAfter ∨ s'.retryAfter = 0 := by
  have hrun := h.history (fun _ u => u.retryAfter = s.retryAfter ∨ u.retryAfter = 0)
    (fun _ z => ∀ delay failed, z.out ≠ .attempted delay failed) ?_ [] (.inl rfl)
    fun l₁ x l₂ heq => hl x (by rw [heq]; simp)
  · exact hrun
  · intro _ u a o v hsame hs hnone
    rcases retryStep_cases hs with ⟨-, -, rfl | ⟨-, rfl⟩, -⟩ | ⟨-, -, -, rfl⟩ | ⟨-, -, t, -, failed, hout, -⟩
    · exact hsame
    · exact .inr rfl
    · exact hsame
    · exact absurd hout (hnone _ failed)

/-! ### The result -/

/-- **hostapd is retried forever**, with a bounded backoff, exactly in the runs in which fewer than 1024 attempts
in a row have failed whenever one is due. -/
theorem retried_iff {l : List RetryRun} {s : Retry} (h : Run retryStep .init l s) :
    Retried l ↔ ∀ x ∈ l, Due x → x.pre.failures < 1024 := by
  constructor
  · intro hretried x hx hdue
    by_contra hmany
    obtain ⟨_, _, _, _, hstep, _⟩ := h.of_mem hx
    obtain ⟨e, he⟩ := (raises_iff hstep).mpr ⟨hdue, not_lt.mp hmany⟩
    exact hretried.computes x hx e he
  · intro hfew
    constructor
    · intro x hx e he
      obtain ⟨_, _, _, _, hstep, _⟩ := h.of_mem hx
      obtain ⟨hdue, hmany⟩ := (raises_iff hstep).mp ⟨e, he⟩
      exact absurd (hfew x hx hdue) (not_lt.mpr hmany)
    · intro x hx delay failed hout
      obtain ⟨_, _, _, _, hstep, _⟩ := h.of_mem hx
      rw [hout] at hstep
      obtain ⟨rfl, -⟩ := attempted_spec hstep
      exact ⟨le_delay _, min_le_right _ _⟩
    · rintro before x between y after rfl hfruitless delay delay' failed hx hy
      obtain ⟨-, hstepx, hrest⟩ := Run.step_at before h
      obtain ⟨hbetween, hstepy, -⟩ := Run.step_at between hrest
      have hle := failures_of_fruitless hbetween hfruitless
      rw [hx] at hstepx
      rw [hy] at hstepy
      obtain ⟨rfl, t, -, hpostx⟩ := attempted_spec hstepx
      obtain ⟨rfl, -⟩ := attempted_spec hstepy
      rw [if_pos rfl] at hpostx
      rw [hpostx] at hle
      exact delay_mono ((Nat.le_succ _).trans hle)
    · rintro before x between y after rfl hnone t t' delay hact hx hact' hdown hclock
      obtain ⟨-, hstepx, hrest⟩ := Run.step_at before h
      obtain ⟨hbetween, hstepy, -⟩ := Run.step_at between hrest
      rw [hx] at hstepx
      obtain ⟨-, u, hu, hpostx⟩ := attempted_spec hstepx
      obtain rfl : t = u := by simpa using hact.symm.trans hu
      rw [if_pos rfl] at hpostx
      have hafter : y.pre.retryAfter ≤ t'.clock := by
        rcases retryAfter_of_unattempted hbetween hnone with hsame | hzero
        · rw [hsame, hpostx]
          exact hclock
        · rw [hzero]
          exact t'.nonneg
      have hdue : Due y := ⟨t', hact', hdown, hafter⟩
      have hless := hfew y (by simp) hdue
      rcases retryStep_cases hstepy with ⟨-, -, -, hnot⟩ | ⟨hmany, -⟩ | ⟨-, -, u, -, failedy, houty, -⟩
      · exact absurd hdue hnot
      · exact absurd hless (not_lt.mpr hmany)
      · exact ⟨_, failedy, houty⟩

/-- After 1024 failures in a row no attempt is made any more, unless an apply starts hostapd. -/
theorem unattempted_of_many {s s' : Retry} {l : List RetryRun} (h : Run retryStep s l s') (hmany : 1024 ≤ s.failures)
    (hl : ∀ z ∈ l, z.out ≠ .applied true) : ∀ z ∈ l, ∀ delay failed, z.out ≠ .attempted delay failed := by
  intro z hz delay failed hout
  obtain ⟨before, after, heq, hrun, hstep, -⟩ := h.of_mem hz
  have hpre : 1024 ≤ z.pre.failures := by
    refine hrun.history (fun _ u => 1024 ≤ u.failures) (fun _ y => y.out ≠ .applied true) ?_ [] hmany
      fun l₁ y l₂ heq' => hl y (by rw [heq, heq']; simp)
    intro _ u a o v hu hs happlied
    rcases retryStep_cases hs with ⟨-, -, rfl | ⟨hstarted, -⟩, -⟩ | ⟨-, -, -, rfl⟩ | ⟨hfew, -⟩
    · exact hu
    · exact absurd hstarted happlied
    · exact hu.trans (Nat.le_succ _)
    · exact absurd hu (not_le.mpr hfew)
  rcases retryStep_cases hstep with ⟨hnone, -⟩ | ⟨-, -, ⟨e, he⟩, -⟩ | ⟨hfew, -⟩
  · exact hnone delay failed hout
  · exact absurd (he.symm.trans hout) (by simp)
  · exact absurd hpre (not_le.mpr hfew)

/-! ### One failure after another -/

/-- The configuration has a wireless network. -/
def wifiConfig : Obj := [("wifi", .obj [("networks", .obj [("home", .obj [])])])]

/-- A tick that finds hostapd down and cannot start it. -/
def failTick (n : ℕ) : HealthTick where
  cfg := wifiConfig
  running := false
  clock := 1000 * n
  later := 1000 * n
  nonneg := by positivity
  inOrder := le_rfl
  started := false
  succeeded := false

theorem down_failTick (n : ℕ) : (failTick n).down = true := rfl

theorem poll_failTick {n : ℕ} (h : n < 1024) {s : Retry} (hs : s.failures = n) (hafter : s.retryAfter ≤ 1000 * n) :
    poll (failTick n) s = (.attempted (min (15 * 2 ^ n) 300) true, ⟨n + 1, 1000 * n + min (15 * 2 ^ n) 300⟩) := by
  have hclock : ¬ (failTick n).clock < s.retryAfter := not_lt.mpr hafter
  unfold poll
  rw [if_pos (down_failTick n), if_neg hclock, hs]
  dsimp only
  rw [retryDelay_ok h]
  rfl

theorem acts_concat {l : List RetryRun} {x : RetryRun} {n : ℕ}
    (hl : l.map Step.act = (List.range n).map fun i => .tick (failTick i)) (hx : x.act = .tick (failTick n)) :
    (l ++ [x]).map Step.act = (List.range (n + 1)).map fun i => .tick (failTick i) := by
  rw [List.map_append, hl, List.map_singleton, hx, List.range_succ, List.map_append, List.map_singleton]

/-- The first failures, 1000 seconds apart. -/
theorem run_failTicks : ∀ n ≤ 1024, ∃ l s, Run retryStep .init l s ∧
    l.map Step.act = (List.range n).map (fun i => .tick (failTick i)) ∧ s.failures = n ∧ s.retryAfter ≤ 1000 * n
  | 0, _ => ⟨[], .init, .nil _, rfl, rfl, by simp [Retry.init]⟩
  | n + 1, h => by
    obtain ⟨l, s, hrun, hacts, hfailures, hafter⟩ := run_failTicks n (Nat.le_of_succ_le h)
    have hstep : retryStep s (.tick (failTick n)) = some (.attempted (min (15 * 2 ^ n) 300) true,
        ⟨n + 1, 1000 * n + min (15 * 2 ^ n) 300⟩) := congrArg some (poll_failTick h hfailures hafter)
    refine ⟨_, _, hrun.append (.cons hstep (.nil _)), acts_concat hacts rfl, rfl, ?_⟩
    have hdelay : min (15 * 2 ^ n) (300 : ℚ) ≤ 300 := min_le_right _ _
    push_cast
    linarith

/-- A step counts one failure at most. -/
theorem failures_le_length {l : List RetryRun} {s : Retry} (h : Run retryStep .init l s) : s.failures ≤ l.length := by
  refine h.record (fun k u => u.failures ≤ k.length) ?_ le_rfl
  intro k u a o v hu hs
  rw [List.length_append, List.length_singleton]
  rcases retryStep_cases hs with ⟨-, -, rfl | ⟨-, rfl⟩, -⟩ | ⟨-, -, -, rfl⟩ | ⟨-, -, t, -, failed, -, rfl⟩
  · exact hu.trans (Nat.le_succ _)
  · exact Nat.zero_le _
  · exact Nat.succ_le_succ hu
  · cases failed with
    | false => exact Nat.zero_le _
    | true => exact Nat.succ_le_succ hu

/-- Three failures. -/
theorem retried_three : ∃ l s, Run retryStep .init l s ∧
    l.map Step.act = (List.range 3).map (fun i => .tick (failTick i)) ∧ (∀ x ∈ l, Due x → x.pre.failures < 1024) ∧
    Retried l := by
  obtain ⟨l, s, hrun, hacts, -, -⟩ := run_failTicks 3 (by decide)
  have hlength : l.length = 3 := by
    rw [← List.length_map (f := Step.act), hacts, List.length_map, List.length_range]
  have hfew : ∀ x ∈ l, Due x → x.pre.failures < 1024 := by
    intro x hx _
    obtain ⟨before, after, rfl, hbefore, -, -⟩ := hrun.of_mem hx
    have hle := failures_le_length hbefore
    rw [List.length_append] at hlength
    omega
  exact ⟨l, s, hrun, hacts, hfew, (retried_iff hrun).mpr hfew⟩

/-- After 1024 failures the next tick raises, and no later one makes an attempt. -/
theorem retries_end : ∃ l s, Run retryStep .init l s ∧
    l.map Step.act = (List.range (1024 + 1)).map (fun i => .tick (failTick i)) ∧ ¬ Retried l ∧
    ∀ l' s', Run retryStep s l' s' → (∀ z ∈ l', z.out ≠ .applied true) →
      ∀ z ∈ l', ∀ delay failed, z.out ≠ .attempted delay failed := by
  obtain ⟨l, s, hrun, hacts, hfailures, hafter⟩ := run_failTicks 1024 le_rfl
  have hstep : retryStep s (.tick (failTick 1024)) =
      some ((poll (failTick 1024) s).1, (poll (failTick 1024) s).2) := rfl
  have hdue : Due ⟨s, .tick (failTick 1024), (poll (failTick 1024) s).1, (poll (failTick 1024) s).2⟩ :=
    ⟨_, rfl, down_failTick _, hafter⟩
  have hraised := (raises_iff hstep).mpr ⟨hdue, hfailures.ge⟩
  have hmany : 1024 ≤ (poll (failTick 1024) s).2.failures := by
    rcases retryStep_cases hstep with ⟨-, hnot, -⟩ | ⟨-, -, -, hpost⟩ | ⟨hfew, -⟩
    · obtain ⟨e, he⟩ := hraised
      exact absurd he (hnot e)
    · rw [hpost]
      exact hfailures.ge.trans (Nat.le_succ _)
    · exact absurd hfailures.ge (not_le.mpr hfew)
  refine ⟨_, _, hrun.append (.cons hstep (.nil _)), acts_concat hacts rfl, ?_, ?_⟩
  · intro hretried
    obtain ⟨e, he⟩ := hraised
    exact hretried.computes _ (List.mem_append_right _ (List.mem_singleton_self _)) e he
  · intro l' s' hrun' happlied
    exact unattempted_of_many hrun' hmany happlied

end Sbegw.Wifid
