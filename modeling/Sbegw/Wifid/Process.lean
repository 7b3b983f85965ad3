import Sbegw.Lib.Directory
import Sbegw.Lib.Run
import Sbegw.Edit
import Mathlib.Data.String.Basic

/-!
# The hostapd process

`WifiDaemon.__call__` writes the files of the plan and starts hostapd over when a file changed or no hostapd
runs, `recover_radio` stops it first, and it may die at any time.  hostapd reads its files when it starts.
A write that fails after another has changed a file leaves hostapd behind what is on disk, and the next apply
may find nothing to change; while no write fails so, hostapd runs what is on disk, and it is started over
exactly when it does not run the files of the plan.
-/

namespace Sbegw.Wifid

open Machine (Step Run)
open Directory (Same sync sync_ok)

/-- `configs`: the rendered files, in the order of the radios. -/
structure Configs where
  files : Dict String String
  sorted : (Dict.keys files).SortedLT

/-- What `_start_hostapd` meets. -/
inductive Start
  | noBinary
  | noRunDir (e : Exn)
  | noLog
  | unlaunched
  /-- The process ends while it is waited for. -/
  | exits
  | stays

/-- What an apply meets. -/
structure ApplyTools where
  /-- `build_plan`, `set_country` and `render_link_config` -/
  plan : Except Exn Configs
  /-- what `_ensure_ap_interfaces` raises -/
  netdevs : Option Exn
  /-- what making the directories raises -/
  dirs : Option Exn
  disk : Directory.Answers String String Exn
  start : Start
  /-- what `_post_apply` raises -/
  post : Option Exn

/-- What there is between two calls. -/
structure ApHost where
  /-- the files of `CONF_DIR` -/
  conf : Dict String String
  /-- what the running hostapd has read -/
  hostapd : Option (Dict String String)

namespace ApHost

/-- After a boot: `CONF_DIR` is under `/run`. -/
def boot : ApHost := ⟨[], none⟩

/-- `_stop_hostapd` -/
def stop (s : ApHost) : ApHost := { s with hostapd := none }

/-- The files hostapd reads as it starts. -/
def read (s : ApHost) (names : List String) : Dict String String :=
  names.map fun n => (n, (Dict.lookup n s.conf).getD "")

/-- `_start_hostapd` -/
def start (tools : Start) (names : List String) (s : ApHost) : Except Exn Bool × ApHost :=
  match tools with
  | .noRunDir e => (.error e, s.stop)
  | .stays => (.ok true, { s.stop with hostapd := some (s.read names) })
  | _ => (.ok false, s.stop)

/-- The outcome of an apply, and whether it started hostapd over. -/
structure Applied where
  ok : Bool
  restarted : Bool
  deriving DecidableEq

/-- `WifiDaemon.__call__` -/
def apply (env : ApplyTools) (s : ApHost) : Applied × ApHost :=
  match env.plan with
  | .error _ => (⟨false, false⟩, s)
  | .ok configs =>
    if configs.files = [] then (⟨true, false⟩, s.stop)
    else match env.netdevs.or env.dirs with
      | some _ => (⟨false, false⟩, s)
      | none =>
        match sync env.disk configs.files s.conf with
        | (.error _, conf) => (⟨false, false⟩, { s with conf := conf })
        | (.ok changed, conf) =>
          let s := { s with conf := conf }
          if changed || s.hostapd.isNone then
            match s.start env.start (Dict.keys configs.files) with
            | (.ok true, s) => (⟨env.post.isNone, true⟩, s)
            | (_, s) => (⟨false, true⟩, s)
          else (⟨env.post.isNone, false⟩, s)

/-- `recover_radio`, whose probe of the radios may raise -/
def recover (env : Option ApplyTools) (s : ApHost) : Applied × ApHost :=
  match env with
  | none => (⟨false, false⟩, s.stop)
  | some env => s.stop.apply env

end ApHost

open ApHost

inductive HostCall
  | apply (env : ApplyTools)
  | recover (env : Option ApplyTools)
  /-- hostapd dies -/
  | dies
  | reboot

/-- One call; `poll_health` applies, or recovers a radio. -/
def hostStep (s : ApHost) : HostCall → Option (Applied × ApHost)
  | .apply env => some (s.apply env)
  | .recover env => some (s.recover env)
  | .dies => some (⟨true, false⟩, s.stop)
  | .reboot => some (⟨true, false⟩, .boot)

/-- hostapd runs what is on disk. -/
def Current (s : ApHost) : Prop :=
  ∀ loaded, s.hostapd = some loaded → (Dict.keys loaded).SortedLT ∧ Same s.conf loaded

/-- A synchronisation that fails while hostapd runs has not changed a file. -/
def FailsClean (s : ApHost) : HostCall → Prop
  | .apply env => s.hostapd ≠ none → ∀ configs, env.plan = .ok configs →
      ∀ e conf, sync env.disk configs.files s.conf = (.error e, conf) → Same conf s.conf
  | _ => True

/-- An apply that says it went well: hostapd runs the files of the plan, or there are none and it does not
run.  It was started over where it did not run these files, and left alone where it did. -/
structure Followed (env : ApplyTools) (s : ApHost) (o : Applied) (t : ApHost) : Prop where
  runs : o.ok = true → ∃ configs, env.plan = .ok configs ∧
    ((configs.files = [] ∧ t.hostapd = none) ∨
      (t.hostapd = some configs.files ∧ Same t.conf configs.files))
  restarted : o.restarted = true → ∀ configs, env.plan = .ok configs → s.hostapd ≠ some configs.files
  left : o.ok = true → o.restarted = false → ∀ configs, env.plan = .ok configs → configs.files ≠ [] →
    s.hostapd = some configs.files

/-! ### Starting -/

/-- What hostapd reads, it reads as it was written. -/
theorem read_eq {s : ApHost} {files : Dict String String} (hfiles : (Dict.keys files).Nodup)
    (h : Same s.conf files) : s.read (Dict.keys files) = files := by
  have hall : ∀ e ∈ files, (e.1, (Dict.lookup e.1 s.conf).getD "") = e := by
    intro e he
    rw [h, Dict.lookup_of_mem hfiles he]
    rfl
  unfold ApHost.read Dict.keys
  rw [List.map_map]
  exact (List.map_congr_left hall).trans (List.map_id files)

/-- A start leaves hostapd running what is on disk, or not running. -/
theorem start_cases {tools : Start} {files : Dict String String} (hfiles : (Dict.keys files).Nodup) {s : ApHost}
    (h : Same s.conf files) :
    (s.start tools (Dict.keys files) = (.ok true, { s with hostapd := some files })) ∨
      ((s.start tools (Dict.keys files)).1 ≠ .ok true ∧ (s.start tools (Dict.keys files)).2 = s.stop) := by
  cases tools with
  | stays =>
    left
    rw [ApHost.start, read_eq hfiles h]
    rfl
  | noBinary => exact .inr ⟨nofun, rfl⟩
  | noRunDir e => exact .inr ⟨nofun, rfl⟩
  | noLog => exact .inr ⟨nofun, rfl⟩
  | unlaunched => exact .inr ⟨nofun, rfl⟩
  | exits => exact .inr ⟨nofun, rfl⟩

theorem current_stop (s : ApHost) : Current s.stop := fun _ h => by cases h

/-! ### Applying -/

/-- What an apply can do. -/
inductive ApplyEffect (env : ApplyTools) (s : ApHost) : Applied → ApHost → Prop
  | nothing (hbad : ∀ configs, env.plan = .ok configs → configs.files ≠ []) : ApplyEffect env s ⟨false, false⟩ s
  | stopped {configs : Configs} (hplan : env.plan = .ok configs) (hnone : configs.files = []) :
      ApplyEffect env s ⟨true, false⟩ s.stop
  | broken {configs : Configs} {e : Exn} {conf : Dict String String} (hplan : env.plan = .ok configs)
      (hsync : sync env.disk configs.files s.conf = (.error e, conf)) :
      ApplyEffect env s ⟨false, false⟩ { s with conf := conf }
  | started {configs : Configs} {changed : Bool} {conf : Dict String String} (ok : Bool)
      (hplan : env.plan = .ok configs) (hsync : sync env.disk configs.files s.conf = (.ok changed, conf))
      (hneed : changed = true ∨ s.hostapd = none) :
      ApplyEffect env s ⟨ok, true⟩ ⟨conf, some configs.files⟩
  | failed {configs : Configs} {changed : Bool} {conf : Dict String String} (hplan : env.plan = .ok configs)
      (hsync : sync env.disk configs.files s.conf = (.ok changed, conf))
      (hneed : changed = true ∨ s.hostapd = none) : ApplyEffect env s ⟨false, true⟩ ⟨conf, none⟩
  | unchanged {configs : Configs} {conf : Dict String String} (ok : Bool) (hplan : env.plan = .ok configs)
      (hsync : sync env.disk configs.files s.conf = (.ok false, conf)) (hruns : s.hostapd ≠ none) :
      ApplyEffect env s ⟨ok, false⟩ { s with conf := conf }

theorem apply_effect (env : ApplyTools) (s : ApHost) : ApplyEffect env s (s.apply env).1 (s.apply env).2 := by
  unfold ApHost.apply
  cases hplan : env.plan with
  | error e => exact .nothing fun configs h => by rw [hplan] at h; cases h
  | ok configs =>
    dsimp only
    split_ifs with hnone
    · exact .stopped hplan hnone
    · cases env.netdevs.or env.dirs with
      | some e =>
        refine .nothing fun c h => ?_
        rw [hplan] at h
        exact Except.ok.inj h ▸ hnone
      | none =>
        dsimp only
        cases hsync : sync env.disk configs.files s.conf with
        | mk out conf =>
          cases out with
          | error e => exact .broken hplan hsync
          | ok changed =>
            have hsame := (sync_ok configs.sorted.nodup hsync).1
            dsimp only
            split_ifs with hneed
            · have hneed' : changed = true ∨ s.hostapd = none := by simpa using hneed
              obtain hstart | ⟨hbad, hstop⟩ :=
                @start_cases env.start configs.files configs.sorted.nodup { s with conf := conf } hsame
              · rw [hstart]
                exact .started _ hplan hsync hneed'
              · cases hres : ({ s with conf := conf } : ApHost).start env.start (Dict.keys configs.files) with
                | mk res t =>
                  rw [hres] at hbad hstop
                  obtain rfl : t = _ := hstop
                  cases res with
                  | error e => exact .failed hplan hsync hneed'
                  | ok b =>
                    cases b with
                    | true => exact absurd rfl hbad
                    | false => exact .failed hplan hsync hneed'
            · rw [Bool.or_eq_true, Option.isNone_iff_eq_none, not_or, Bool.not_eq_true] at hneed
              obtain ⟨hchanged, hruns⟩ := hneed
              exact .unchanged _ hplan (hchanged ▸ hsync) hruns

/-- **One apply** keeps hostapd current and does what it says. -/
theorem current_of_apply {env : ApplyTools} {s t : ApHost} {o : Applied} (h : Current s)
    (hclean : FailsClean s (.apply env)) (he : ApplyEffect env s o t) : Current t ∧ Followed env s o t := by
  -- hostapd that runs these files leaves nothing to change
  have hneeded : ∀ {configs c : Configs} {changed : Bool} {conf : Dict String String}, env.plan = .ok configs →
      sync env.disk configs.files s.conf = (.ok changed, conf) → changed = true ∨ s.hostapd = none →
      env.plan = .ok c → s.hostapd ≠ some c.files := by
    intro configs c changed conf hplan hsync hneed hc hruns
    obtain rfl := Except.ok.inj (hplan.symm.trans hc)
    have hsame := (sync_ok configs.sorted.nodup hsync).2.mpr (h _ hruns).2
    rw [hsame, hruns] at hneed
    simp at hneed
  cases he with
  | nothing hbad => exact ⟨h, nofun, nofun, nofun⟩
  | stopped hplan hnone =>
    refine ⟨current_stop s, fun _ => ⟨_, hplan, .inl ⟨hnone, rfl⟩⟩, nofun, fun _ _ c hc hne => ?_⟩
    obtain rfl := Except.ok.inj (hplan.symm.trans hc)
    exact absurd hnone hne
  | broken hplan hsync =>
    refine ⟨fun loaded hl => ?_, nofun, nofun, nofun⟩
    have hruns : s.hostapd ≠ none := by
      have hl' : s.hostapd = some loaded := hl
      rw [hl']
      exact nofun
    exact ⟨(h loaded hl).1, (hclean hruns _ hplan _ _ hsync).trans (h loaded hl).2⟩
  | @started configs changed conf ok hplan hsync hneed =>
    have hsame := (sync_ok configs.sorted.nodup hsync).1
    refine ⟨fun loaded hl => ?_, fun _ => ⟨configs, hplan, .inr ⟨rfl, hsame⟩⟩,
      fun _ c hc => hneeded hplan hsync hneed hc, nofun⟩
    obtain rfl : configs.files = loaded := Option.some.inj hl
    exact ⟨configs.sorted, hsame⟩
  | failed hplan hsync hneed =>
    exact ⟨nofun, nofun, fun _ c hc => hneeded hplan hsync hneed hc, nofun⟩
  | @unchanged configs conf ok hplan hsync hruns =>
    obtain ⟨hsame, hold⟩ := sync_ok configs.sorted.nodup hsync
    obtain ⟨loaded, hl⟩ := Option.ne_none_iff_exists'.mp hruns
    obtain ⟨hsorted, hread⟩ := h loaded hl
    obtain rfl : loaded = configs.files :=
      Same.eq hsorted configs.sorted (hread.symm.trans (hold.mp rfl))
    refine ⟨fun other ho => ?_, fun _ => ⟨configs, hplan, .inr ⟨hl, hsame⟩⟩, nofun, fun _ _ c hc _ => ?_⟩
    · obtain rfl : configs.files = other := Option.some.inj (hl.symm.trans ho)
      exact ⟨hsorted, hsame⟩
    · obtain rfl := Except.ok.inj (hplan.symm.trans hc)
      exact hl

/-- What a call keeps. -/
def Keeps (a : HostCall) (s : ApHost) (o : Applied) (t : ApHost) : Prop :=
  match a with
  | .apply env => Followed env s o t
  | .recover (some env) => Followed env s.stop o t
  | _ => True

theorem current_step {s t : ApHost} {a : HostCall} {o : Applied} (h : Current s) (hclean : FailsClean s a)
    (hs : hostStep s a = some (o, t)) : Current t ∧ Keeps a s o t := by
  cases a with
  | apply env =>
    have happly : s.apply env = (o, t) := Option.some.inj hs
    have he := apply_effect env s
    rw [happly] at he
    exact current_of_apply h hclean he
  | recover tools =>
    have hrecover : s.recover tools = (o, t) := Option.some.inj hs
    cases tools with
    | none =>
      obtain ⟨-, rfl⟩ := Prod.mk.inj hrecover
      exact ⟨current_stop s, trivial⟩
    | some env =>
      have happly : s.stop.apply env = (o, t) := hrecover
      have he := apply_effect env s.stop
      rw [happly] at he
      exact current_of_apply (current_stop s) (fun hruns => absurd rfl hruns) he
  | dies =>
    obtain ⟨-, rfl⟩ := Prod.mk.inj (Option.some.inj hs)
    exact ⟨current_stop s, trivial⟩
  | reboot =>
    obtain ⟨-, rfl⟩ := Prod.mk.inj (Option.some.inj hs)
    exact ⟨fun _ hl => (nomatch hl), trivial⟩

/-- **hostapd follows the plan** in every run of applies, recoveries, deaths and reboots in which no write
fails after another has changed a file under a running hostapd. -/
theorem hostapd_follows {l : List (Step ApHost HostCall Applied)} {t : ApHost}
    (h : Run hostStep .boot l t) (hclean : ∀ x ∈ l, FailsClean x.pre x.act) :
    Current t ∧ ∀ x ∈ l, Keeps x.act x.pre x.out x.post := by
  refine h.history (fun k s => Current s ∧ ∀ x ∈ k, Keeps x.act x.pre x.out x.post)
    (fun _ x => FailsClean x.pre x.act) (fun k s a o t hk hs hx => ?_) []
    ⟨fun _ hl => (nomatch hl), fun _ hx => absurd hx List.not_mem_nil⟩
    fun l₁ x l₂ heq => hclean x (heq ▸ List.mem_append_right _ List.mem_cons_self)
  obtain ⟨hcurrent, hkeeps⟩ := current_step hk.1 hx hs
  refine ⟨hcurrent, fun x hmem => ?_⟩
  obtain hmem | hmem := List.mem_append.mp hmem
  · exact hk.2 x hmem
  · rw [List.mem_singleton.mp hmem]
    exact hkeeps

/-! ### Two runs -/

/-- A directory whose writes fail for these files. -/
def diskFailing (names : List String) : Directory.Answers String String Exn where
  write := fun n => if n ∈ names then some (.storage "No space left on device") else none
  remove := fun _ => none
  list := Dict.keys
  lists := fun _ _ => Iff.rfl

theorem twoSorted : ["radio-2g", "radio-5g"].SortedLT := by decide

/-- The files of two radios. -/
def twoConfigs (a b : String) : Configs := ⟨[("radio-2g", a), ("radio-5g", b)], twoSorted⟩

/-- An apply of these two files in which nothing else fails. -/
def applyTwo (failing : List String) (a b : String) : HostCall :=
  .apply ⟨.ok (twoConfigs a b), none, none, diskFailing failing, .stays, none⟩

/-- A change restarts hostapd, a death is mended by the next apply, and the one after changes nothing. -/
theorem hostapd_follows_change : ∃ l t, Run hostStep .boot l t ∧ t.hostapd = some (twoConfigs "b" "a").files ∧
    l.map (fun x => x.out.restarted) = [true, true, false, true, false] ∧ Current t ∧
    ∀ x ∈ l, Keeps x.act x.pre x.out x.post := by
  obtain ⟨l, t, h, hacts, htest⟩ := Run.of_test
    (fun (l : List (Step ApHost HostCall Applied)) (t : ApHost) =>
      decide (t.hostapd = some (twoConfigs "b" "a").files) &&
        decide (l.map (fun x => x.out.restarted) = [true, true, false, true, false]))
    (show ((Machine.play hostStep .boot [applyTwo [] "a" "a", applyTwo [] "b" "a", .dies, applyTwo [] "b" "a",
      applyTwo [] "b" "a"]).any _) = true by decide)
  rw [Bool.and_eq_true, decide_eq_true_eq, decide_eq_true_eq] at htest
  refine ⟨l, t, h, htest.1, htest.2, hostapd_follows h fun x hx => ?_⟩
  have hclean : ∀ a b, FailsClean x.pre (applyTwo [] a b) := by
    intro a b _ configs _ e conf hsync
    obtain ⟨c, d, hok⟩ := @Directory.sync_isOk _ _ _ _ _ (diskFailing []) (fun _ => rfl) (fun _ => rfl)
      configs.files x.pre.conf
    rw [hok] at hsync
    cases (Prod.mk.inj hsync).1
  have hact : x.act ∈ l.map Step.act := List.mem_map_of_mem hx
  rw [hacts] at hact
  simp only [List.mem_cons, List.not_mem_nil, or_false] at hact
  obtain hact | hact | hact | hact | hact := hact <;> rw [hact]
  · exact hclean "a" "a"
  · exact hclean "b" "a"
  · trivial
  · exact hclean "b" "a"
  · exact hclean "b" "a"

/-- A write that fails after another: the apply that finds its files on disk leaves hostapd with the old. -/
theorem hostapd_left_behind : ∃ l t, Run hostStep .boot l t ∧ t.hostapd = some (twoConfigs "a" "a").files ∧
    ¬ Same t.conf (twoConfigs "a" "a").files ∧ l.map (fun x => x.out.ok) = [true, false, true] := by
  obtain ⟨l, t, h, -, htest⟩ := Run.of_test
    (fun (l : List (Step ApHost HostCall Applied)) (t : ApHost) =>
      decide (t.hostapd = some (twoConfigs "a" "a").files) &&
        decide (Dict.lookup "radio-2g" t.conf = some "b") && decide (l.map (fun x => x.out.ok) = [true, false, true]))
    (show ((Machine.play hostStep .boot [applyTwo [] "a" "a", applyTwo ["radio-5g"] "b" "b",
      applyTwo [] "b" "a"]).any _) = true by decide)
  rw [Bool.and_eq_true, Bool.and_eq_true, decide_eq_true_eq, decide_eq_true_eq, decide_eq_true_eq] at htest
  obtain ⟨⟨hruns, hconf⟩, hok⟩ := htest
  refine ⟨l, t, h, hruns, fun hsame => ?_, hok⟩
  have hread := hsame "radio-2g"
  rw [hconf] at hread
  exact absurd hread (by decide)

end Sbegw.Wifid
