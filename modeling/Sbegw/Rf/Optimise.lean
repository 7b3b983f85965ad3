import Sbegw.Rf.Recommend
import Sbegw.Lib.Run
import Sbegw.Lib.Written

/-!
# Moving radios

Calls of `optimise` overlap: each analyses the radios, then switches them and records the switches, with
nothing that keeps another call out in between.  The settings are fixed; the history file can be
written.
-/

namespace Sbegw.Rf

open Machine

/-! ### The analyzer -/

/-- An entry of the history. -/
structure Entry where
  ts : ℚ
  radio : String
  band : String
  fromChannel : Option ℤ
  toChannel : ℤ
  width : ℕ
  score : ℚ
  /-- `"manual"` or `"auto"` -/
  trigger : String
  reason : Reason

/-- How `optimise` is called. -/
structure Call where
  radios : List String
  force : Bool
  dryRun : Bool

/-- `optimise(cfg)` -/
def Call.scheduled : Call := ⟨[], false, false⟩

/-- A radio as a call has analysed it. -/
structure Analysed where
  call : Call
  view : RadioView
  recommendation : Recommendation
  /-- `last_switch_ts` -/
  lastSwitch : Option ℚ
  /-- when it was analysed -/
  at_ : ℚ

/-- A switch that is not recorded yet. -/
structure Switched where
  analysed : Analysed
  best : Candidate

/-- The process, its file and the clock. -/
structure Analyzer where
  clock : ℚ
  /-- `_history` -/
  history : List Entry
  /-- `_last_switch` -/
  lastSwitch : Dict String ℚ
  /-- `channel-history.json` -/
  file : List Entry
  /-- what the calls under way have analysed and not acted on -/
  analysed : List Analysed
  /-- what they have switched and not recorded -/
  switched : List Switched

/-- `{entry["radio"]: entry["ts"] for entry in history}` -/
def switchTable (history : List Entry) : Dict String ℚ :=
  Dict.written (fun e => some (e.radio, e.ts)) history

/-- `ChannelAnalyzer()` -/
def Analyzer.load (file : List Entry) (clock : ℚ) : Analyzer := ⟨clock, file, switchTable file, file, [], []⟩

/-- The very first start. -/
def Analyzer.init (clock : ℚ) : Analyzer := Analyzer.load [] clock

/-- The channel that a call moves a radio to. -/
def Analysed.target (a : Analysed) : Option Candidate :=
  if !a.call.radios.isEmpty && !a.call.radios.contains a.view.radio then none
  else
    match a.recommendation.best with
    | none => none
    | some best =>
      if !a.recommendation.shouldSwitch && !a.call.force then none
      else if some best.channel = a.view.currentChannel then none
      else if a.call.dryRun then none
      else some best

/-- What a call records about a switch. -/
def Switched.entry (s : Switched) (ts : ℚ) : Entry where
  ts := ts
  radio := s.analysed.view.radio
  band := s.analysed.view.band
  fromChannel := s.analysed.view.currentChannel
  toChannel := s.best.channel
  width := s.analysed.view.currentWidth
  score := s.best.score
  trigger := if s.analysed.call.force then "manual" else "auto"
  reason := s.analysed.recommendation.reason

/-- `history[-200:]` -/
@[irreducible] def keepLast (history : List Entry) : List Entry := history.drop (history.length - 200)

/-- `_record` -/
def Analyzer.record (entry : Entry) (s : Analyzer) : Analyzer :=
  let history := keepLast (s.history ++ [entry])
  { s with history := history, lastSwitch := Dict.set entry.radio entry.ts s.lastSwitch, file := history }

inductive RfCall where
  /-- time passes -/
  | tick (clock : ℚ)
  /-- a call analyses a radio -/
  | analyse (call : Call) (view : RadioView)
  /-- a call acts on the `i`-th analysis; whether `apply_channel` succeeds, if it comes to that -/
  | act (i : ℕ) (applied : Bool)
  /-- a call records the `i`-th switch -/
  | record (i : ℕ)
  | restart

inductive RfAnswer where
  | quiet
  | moved (s : Switched)
  | recorded (entry : Entry)

/-- One step of the process; the clock never goes back. -/
def rfStep (settings : Settings) (s : Analyzer) : RfCall → Option (RfAnswer × Analyzer)
  | .tick clock => if s.clock ≤ clock then some (.quiet, { s with clock := clock }) else none
  | .analyse call view =>
    let last := Dict.lookup view.radio s.lastSwitch
    let a : Analysed := ⟨call, view, recommend settings view last s.clock, last, s.clock⟩
    some (.quiet, { s with analysed := s.analysed ++ [a] })
  | .act i applied =>
    match s.analysed[i]? with
    | none => none
    | some a =>
      let rest := s.analysed.eraseIdx i
      match a.target with
      | none => some (.quiet, { s with analysed := rest })
      | some best =>
        if applied then
          some (.moved ⟨a, best⟩, { s with analysed := rest, switched := s.switched ++ [⟨a, best⟩] })
        else some (.quiet, { s with analysed := rest })
  | .record i =>
    match s.switched[i]? with
    | none => none
    | some sw =>
      let entry := sw.entry s.clock
      some (.recorded entry, { s.record entry with switched := s.switched.eraseIdx i })
  | .restart => some (.quiet, Analyzer.load s.file s.clock)

/-! ### The property -/

abbrev RfTrail := List (Step Analyzer RfCall RfAnswer)

/-- The entry that a step records. -/
def recordedBy (x : Step Analyzer RfCall RfAnswer) : Option Entry :=
  match x.out with
  | .recorded entry => some entry
  | _ => none

/-- The last switch of a radio that a trail has recorded. -/
def lastRecorded (radio : String) (l : RfTrail) : Option ℚ := Dict.lookup radio (switchTable (l.filterMap recordedBy))

/-- A switch without force, away from a channel that could be scored. -/
def Guarded (sw : Switched) (current : Candidate) : Prop :=
  sw.analysed.call.force = false ∧ sw.analysed.recommendation.current = some current

/-- **No flapping**: a guarded switch improves the score by the minimum, and comes no earlier than the
minimum interval after the last recorded switch of its radio. -/
def Steady (settings : Settings) (l : RfTrail) (x : Step Analyzer RfCall RfAnswer) : Prop :=
  ∀ sw current, x.out = .moved sw → Guarded sw current →
    settings.minImprovement ≤ sw.best.score - current.score ∧
      ∀ ts, lastRecorded sw.analysed.view.radio l = some ts → settings.minInterval ≤ x.pre.clock - ts

/-- The condition on a step.

* Nothing was recorded for the radio since it was analysed.
* A restart still finds every radio in the file whose last switch is not long enough ago. -/
def Unraced (settings : Settings) (l : RfTrail) (x : Step Analyzer RfCall RfAnswer) : Prop :=
  (∀ sw current, x.out = .moved sw → Guarded sw current →
    Dict.lookup sw.analysed.view.radio x.pre.lastSwitch = sw.analysed.lastSwitch) ∧
  (x.act = .restart → ∀ radio ts, lastRecorded radio l = some ts →
    settings.minInterval ≤ x.pre.clock - ts ∨ ∃ e ∈ x.pre.file, e.radio = radio)

/-! ### The table of last switches -/

theorem lastRecorded_quiet {l : RfTrail} {x : Step Analyzer RfCall RfAnswer} (h : recordedBy x = none)
    (radio : String) : lastRecorded radio (l ++ [x]) = lastRecorded radio l := by
  unfold lastRecorded
  rw [List.filterMap_append, List.filterMap_cons_none h, List.filterMap_nil, List.append_nil]

theorem lastRecorded_record {l : RfTrail} {x : Step Analyzer RfCall RfAnswer} {entry : Entry}
    (h : recordedBy x = some entry) (radio : String) :
    lastRecorded radio (l ++ [x]) = if radio = entry.radio then some entry.ts else lastRecorded radio l := by
  unfold lastRecorded switchTable
  rw [List.filterMap_append, List.filterMap_cons_some h, List.filterMap_nil, Dict.written_append]
  exact Dict.lookup_set _ _ _ _

/-- The table of the last entries is that of all of them, as far as it goes. -/
theorem switchTable_suffix {file all : List Entry} (h : file <:+ all) {radio : String} {ts : ℚ}
    (hfile : Dict.lookup radio (switchTable file) = some ts) : Dict.lookup radio (switchTable all) = some ts := by
  obtain ⟨before, rfl⟩ := h
  unfold switchTable at hfile ⊢
  obtain ⟨l₁, e, l₂, rfl, he, hspared⟩ := Dict.lookup_written_eq_some.mp hfile
  exact Dict.lookup_written_eq_some.mpr ⟨before ++ l₁, e, l₂, by simp, he, hspared⟩

theorem switchTable_none {file : List Entry} {radio : String}
    (h : Dict.lookup radio (switchTable file) = none) : ∀ e ∈ file, e.radio ≠ radio := by
  intro e he heq
  exact Dict.lookup_written_eq_none.mp h e he e.ts (by rw [heq])

/-! ### The invariant -/

variable {settings : Settings}

variable (settings) in
/-- What the steps so far have to do with the state. -/
structure Recorded (l : RfTrail) (s : Analyzer) : Prop where
  file : s.file = s.history
  history : s.history <:+ l.filterMap recordedBy
  /-- a radio that the table does not know was last switched long enough ago -/
  table : ∀ radio ts, lastRecorded radio l = some ts →
    Dict.lookup radio s.lastSwitch = some ts ∨
      Dict.lookup radio s.lastSwitch = none ∧ settings.minInterval ≤ s.clock - ts
  known : ∀ radio ts, Dict.lookup radio s.lastSwitch = some ts → lastRecorded radio l = some ts
  analysed : ∀ a ∈ s.analysed, a.at_ ≤ s.clock ∧
    a.recommendation = recommend settings a.view a.lastSwitch a.at_

theorem recorded_init (clock : ℚ) : Recorded settings [] (Analyzer.init clock) where
  file := rfl
  history := List.suffix_refl _
  table := fun _ _ h => absurd h (by simp [lastRecorded, switchTable, Dict.written])
  known := fun _ _ h => h
  analysed := fun _ h => absurd h List.not_mem_nil

/-- Steps that record nothing and keep the history and the table. -/
theorem Recorded.frame {l : RfTrail} {s t : Analyzer} (h : Recorded settings l s)
    {x : Step Analyzer RfCall RfAnswer} (hx : recordedBy x = none) (hfile : t.file = s.file)
    (hhistory : t.history = s.history) (htable : t.lastSwitch = s.lastSwitch) (hclock : s.clock ≤ t.clock)
    (hanalysed : ∀ a ∈ t.analysed, a ∈ s.analysed ∨
      a.at_ ≤ t.clock ∧ a.recommendation = recommend settings a.view a.lastSwitch a.at_) :
    Recorded settings (l ++ [x]) t where
  file := by rw [hfile, hhistory, h.file]
  history := by
    rw [hhistory, List.filterMap_append, List.filterMap_cons_none hx, List.filterMap_nil, List.append_nil]
    exact h.history
  table := by
    intro radio ts hts
    rw [lastRecorded_quiet hx] at hts
    rw [htable]
    rcases h.table radio ts hts with hknown | ⟨hnone, hold⟩
    · exact Or.inl hknown
    · exact Or.inr ⟨hnone, hold.trans (sub_le_sub_right hclock ts)⟩
  known := by
    intro radio ts hts
    rw [lastRecorded_quiet hx]
    exact h.known radio ts (htable ▸ hts)
  analysed := by
    intro a ha
    rcases hanalysed a ha with hold | hnew
    · exact ⟨(h.analysed a hold).1.trans hclock, (h.analysed a hold).2⟩
    · exact hnew

theorem keepLast_suffix (history : List Entry) : keepLast history <:+ history := by
  unfold keepLast
  exact List.drop_suffix _ _

/-- The step that records an entry. -/
theorem Recorded.append {l : RfTrail} {s t : Analyzer} (h : Recorded settings l s)
    {x : Step Analyzer RfCall RfAnswer} {entry : Entry} (hx : recordedBy x = some entry)
    (hfile : t.file = t.history) (hhistory : t.history <:+ s.history ++ [entry])
    (htable : t.lastSwitch = Dict.set entry.radio entry.ts s.lastSwitch) (hclock : t.clock = s.clock)
    (hanalysed : t.analysed = s.analysed) : Recorded settings (l ++ [x]) t where
  file := hfile
  history := by
    rw [List.filterMap_append, List.filterMap_cons_some hx, List.filterMap_nil]
    obtain ⟨before, hbefore⟩ := h.history
    have hall : s.history ++ [entry] <:+ l.filterMap recordedBy ++ [entry] :=
      ⟨before, by rw [← hbefore, List.append_assoc]⟩
    exact hhistory.trans hall
  table := by
    intro radio ts hts
    rw [lastRecorded_record hx] at hts
    rw [htable, hclock, Dict.lookup_set]
    by_cases hradio : radio = entry.radio
    · rw [if_pos hradio] at hts ⊢
      exact Or.inl hts
    · rw [if_neg hradio] at hts ⊢
      exact h.table radio ts hts
  known := by
    intro radio ts hts
    rw [lastRecorded_record hx]
    rw [htable, Dict.lookup_set] at hts
    by_cases hradio : radio = entry.radio
    · rw [if_pos hradio] at hts ⊢
      exact hts
    · rw [if_neg hradio] at hts ⊢
      exact h.known radio ts hts
  analysed := by
    rw [hanalysed, hclock]
    exact h.analysed

theorem Recorded.restart {l : RfTrail} {s : Analyzer} (h : Recorded settings l s)
    {x : Step Analyzer RfCall RfAnswer} (hx : recordedBy x = none)
    (hkept : ∀ radio ts, lastRecorded radio l = some ts →
      settings.minInterval ≤ s.clock - ts ∨ ∃ e ∈ s.file, e.radio = radio) :
    Recorded settings (l ++ [x]) (Analyzer.load s.file s.clock) where
  file := rfl
  history := by
    rw [List.filterMap_append, List.filterMap_cons_none hx, List.filterMap_nil, List.append_nil]
    show s.file <:+ _
    rw [h.file]
    exact h.history
  table := by
    intro radio ts hts
    rw [lastRecorded_quiet hx] at hts
    show Dict.lookup radio (switchTable s.file) = some ts ∨ _
    cases hlook : Dict.lookup radio (switchTable s.file) with
    | some ts' =>
      have hall := switchTable_suffix (h.file ▸ h.history) hlook
      exact Or.inl (hall.symm.trans hts)
    | none =>
      refine Or.inr ⟨hlook, ?_⟩
      rcases hkept radio ts hts with hold | ⟨e, he, heq⟩
      · exact hold
      · exact absurd heq (switchTable_none hlook e he)
  known := by
    intro radio ts hts
    rw [lastRecorded_quiet hx]
    exact switchTable_suffix (h.file ▸ h.history) hts
  analysed := fun _ ha => absurd ha List.not_mem_nil

/-- **One step** keeps the record, under the condition. -/
theorem recorded_step {l : RfTrail} {s t : Analyzer} {act : RfCall} {out : RfAnswer}
    (h : Recorded settings l s) (hs : rfStep settings s act = some (out, t))
    (hok : Unraced settings l ⟨s, act, out, t⟩) : Recorded settings (l ++ [⟨s, act, out, t⟩]) t := by
  cases act with
  | tick clock =>
    simp only [rfStep] at hs
    split at hs
    · next hle =>
      obtain ⟨rfl, rfl⟩ := Prod.mk.inj (Option.some.inj hs)
      exact h.frame rfl rfl rfl rfl hle fun a ha => Or.inl ha
    · exact absurd hs (by simp)
  | analyse call view =>
    obtain ⟨rfl, rfl⟩ := Prod.mk.inj (Option.some.inj hs)
    refine h.frame rfl rfl rfl rfl (le_refl _) fun a ha => ?_
    rcases List.mem_append.mp ha with ha | ha
    · exact Or.inl ha
    · rw [List.mem_singleton.mp ha]
      exact Or.inr ⟨le_refl _, rfl⟩
  | act i applied =>
    simp only [rfStep] at hs
    split at hs
    · exact absurd hs (by simp)
    · have hrest : ∀ a ∈ s.analysed.eraseIdx i, a ∈ s.analysed := fun a ha => List.mem_of_mem_eraseIdx ha
      split at hs
      · obtain ⟨rfl, rfl⟩ := Prod.mk.inj (Option.some.inj hs)
        exact h.frame rfl rfl rfl rfl (le_refl _) fun a ha => Or.inl (hrest a ha)
      · split at hs
        · obtain ⟨rfl, rfl⟩ := Prod.mk.inj (Option.some.inj hs)
          exact h.frame rfl rfl rfl rfl (le_refl _) fun a ha => Or.inl (hrest a ha)
        · obtain ⟨rfl, rfl⟩ := Prod.mk.inj (Option.some.inj hs)
          exact h.frame rfl rfl rfl rfl (le_refl _) fun a ha => Or.inl (hrest a ha)
  | record i =>
    simp only [rfStep] at hs
    split at hs
    · exact absurd hs (by simp)
    · next sw _ =>
      obtain ⟨rfl, rfl⟩ := Prod.mk.inj (Option.some.inj hs)
      exact h.append rfl rfl (keepLast_suffix (s.history ++ [sw.entry s.clock])) rfl rfl rfl
  | restart =>
    obtain ⟨rfl, rfl⟩ := Prod.mk.inj (Option.some.inj hs)
    exact h.restart rfl (hok.2 rfl)

theorem target_eq_some {a : Analysed} {best : Candidate} (h : a.target = some best) :
    a.recommendation.best = some best ∧ (a.call.force = false → a.recommendation.shouldSwitch = true) ∧
      some best.channel ≠ a.view.currentChannel := by
  unfold Analysed.target at h
  split at h
  · exact absurd h (by simp)
  · split at h
    · exact absurd h (by simp)
    · next b hb =>
      split at h
      · exact absurd h (by simp)
      · next hswitch =>
        split at h
        · exact absurd h (by simp)
        · next hmoved =>
          split at h
          · exact absurd h (by simp)
          · obtain rfl := Option.some_inj.mp h
            refine ⟨hb, fun hforce => ?_, hmoved⟩
            simpa [hforce] using hswitch

/-- **A switch that nothing has raced is steady.** -/
theorem steady_step {l : RfTrail} {s t : Analyzer} {act : RfCall} {out : RfAnswer}
    (h : Recorded settings l s) (hs : rfStep settings s act = some (out, t))
    (hok : Unraced settings l ⟨s, act, out, t⟩) : Steady settings l ⟨s, act, out, t⟩ := by
  intro sw current hout hguard
  have hunraced := hok.1 sw current hout hguard
  have hmoved : sw.analysed ∈ s.analysed ∧ sw.analysed.target = some sw.best := by
    have hout' : out = .moved sw := hout
    subst hout'
    cases act with
    | tick clock =>
      simp only [rfStep] at hs
      split at hs
      · exact absurd (Prod.mk.inj (Option.some.inj hs)).1 (by simp)
      · exact absurd hs (by simp)
    | analyse call view => exact absurd (Prod.mk.inj (Option.some.inj hs)).1 (by simp)
    | record i =>
      simp only [rfStep] at hs
      split at hs
      · exact absurd hs (by simp)
      · exact absurd (Prod.mk.inj (Option.some.inj hs)).1 (by simp)
    | restart => exact absurd (Prod.mk.inj (Option.some.inj hs)).1 (by simp)
    | act i applied =>
      simp only [rfStep] at hs
      split at hs
      · exact absurd hs (by simp)
      · next a ha =>
        split at hs
        · exact absurd (Prod.mk.inj (Option.some.inj hs)).1 (by simp)
        · next best hbest =>
          split at hs
          · have hsw := RfAnswer.moved.inj (Prod.mk.inj (Option.some.inj hs)).1
            rw [← hsw]
            exact ⟨List.mem_of_getElem? ha, hbest⟩
          · exact absurd (Prod.mk.inj (Option.some.inj hs)).1 (by simp)
  obtain ⟨hmem, htarget⟩ := hmoved
  obtain ⟨hbest, hswitch, -⟩ := target_eq_some htarget
  obtain ⟨hat, hrec⟩ := h.analysed _ hmem
  have hshould := hswitch hguard.1
  have hcurrent := hguard.2
  rw [hrec] at hbest hshould hcurrent
  obtain ⟨best, hbest', hgain, hsince⟩ := recommend_guards hshould hcurrent
  obtain rfl : best = sw.best := Option.some.inj (hbest'.symm.trans hbest)
  refine ⟨hgain, fun ts hts => ?_⟩
  rcases h.table _ ts hts with hknown | ⟨-, hold⟩
  · rw [hunraced] at hknown
    rw [hknown] at hsince
    exact hsince.trans (sub_le_sub_right hat ts)
  · exact hold

/-- **Channels do not flap** in a run whose switches and restarts are not raced. -/
theorem switches_steady {clock : ℚ} {l : RfTrail} {s : Analyzer}
    (h : Run (rfStep settings) (Analyzer.init clock) l s)
    (hok : ∀ l₁ x l₂, l = l₁ ++ x :: l₂ → Unraced settings l₁ x) :
    ∀ l₁ x l₂, l = l₁ ++ x :: l₂ → Steady settings l₁ x := by
  intro l₁ x l₂ hl
  have hx := hok l₁ x l₂ hl
  subst hl
  obtain ⟨hbefore, hstep, -⟩ := Run.step_at l₁ h
  have hrecorded : Recorded settings ([] ++ l₁) x.pre := by
    refine hbefore.history (Recorded settings) (Unraced settings)
      (fun k u a o v hI hs hP => recorded_step hI hs hP) [] (recorded_init clock) fun k₁ y k₂ hk => ?_
    subst hk
    exact hok k₁ y (k₂ ++ x :: l₂) (by simp)
  exact steady_step hrecorded hstep hx

/-! ### One run without races, and one with -/

/-- A radio on a crowded channel, beside a free one. -/
def crowded (free : ℤ) : RadioView where
  radio := "radio-5g"
  band := "5g"
  configuredWidth := some 20
  currentChannel := some 36
  currentWidth := 20
  channels := [⟨36, false, false, false, 9, 5, none, none⟩, ⟨free, false, false, false, 0, 0, none, none⟩]

/-- What a call finds out about it when no switch is known. -/
def crowdedAnalysis (free : ℤ) : Analysed :=
  ⟨.scheduled, crowded free, recommend .default (crowded free) none 100000, none, 100000⟩

/-- The radio is moved to the free channel, away from one that is scored. -/
theorem crowded_moves : ∀ free ∈ [(149 : ℤ), 44],
    (∃ best, (crowdedAnalysis free).target = some best ∧ best.channel = free) ∧
      ∃ current, (crowdedAnalysis free).recommendation.current = some current := by
  intro free hfree
  have hfacts : ∀ free ∈ [(149 : ℤ), 44],
      ((crowdedAnalysis free).target.any fun best => best.channel = free) = true ∧
        (crowdedAnalysis free).recommendation.current.isSome = true := by decide +kernel
  obtain ⟨hbest, hcurrent⟩ := hfacts free hfree
  obtain ⟨best, htarget, hchannel⟩ := Option.any_eq_true _ _ |>.mp hbest
  exact ⟨⟨best, htarget, of_decide_eq_true hchannel⟩, Option.isSome_iff_exists.mp hcurrent⟩

/-- One call analyses the radio and moves it. -/
theorem switches_steady_once : ∃ l₁ x s, Run (rfStep .default) (Analyzer.init 100000) (l₁ ++ [x]) s ∧
    (∃ sw current, x.out = .moved sw ∧ Guarded sw current) ∧ Steady .default l₁ x := by
  obtain ⟨⟨best, hbest, -⟩, current, hcurrent⟩ := crowded_moves 149 (by simp)
  let s₀ := Analyzer.init 100000
  let s₁ : Analyzer := { s₀ with analysed := [crowdedAnalysis 149] }
  let s₂ : Analyzer := { s₀ with switched := [⟨crowdedAnalysis 149, best⟩] }
  have h₁ : rfStep .default s₀ (.analyse .scheduled (crowded 149)) = some (.quiet, s₁) := rfl
  have h₂ : rfStep .default s₁ (.act 0 true) = some (.moved ⟨crowdedAnalysis 149, best⟩, s₂) := by
    simp only [rfStep, s₁, List.getElem?_cons_zero, hbest, if_true]
    rfl
  have hrun := Run.cons h₁ (Run.cons h₂ (Run.nil s₂))
  refine ⟨[_], _, s₂, hrun, ⟨_, current, rfl, rfl, hcurrent⟩,
    switches_steady hrun (fun k x k₂ hk => ?_) [_] _ [] rfl⟩
  rcases k with _ | ⟨y, k⟩
  · obtain ⟨rfl, -⟩ := List.cons.inj hk
    exact ⟨fun _ _ h => RfAnswer.noConfusion h, fun h => RfCall.noConfusion h⟩
  · obtain ⟨-, hk⟩ := List.cons.inj hk
    rcases k with _ | ⟨z, k⟩
    · obtain ⟨rfl, -⟩ := List.cons.inj hk
      refine ⟨fun sw cur h _ => ?_, fun h => RfCall.noConfusion h⟩
      rw [← RfAnswer.moved.inj h]
      rfl
    · exact absurd (congrArg List.length hk) (by simp)

/-- Two calls scan and analyse the radio before either of them moves it: it is moved twice at once. -/
theorem overlapping_calls_flap : ∃ l₁ x s, Run (rfStep .default) (Analyzer.init 100000) (l₁ ++ [x]) s ∧
    ¬ Steady .default l₁ x := by
  obtain ⟨⟨best, hbest, -⟩, -⟩ := crowded_moves 149 (by simp)
  obtain ⟨⟨other, hother, -⟩, current, hcurrent⟩ := crowded_moves 44 (by simp)
  let s₀ := Analyzer.init 100000
  let s₁ : Analyzer := { s₀ with analysed := [crowdedAnalysis 149] }
  let s₂ : Analyzer := { s₀ with analysed := [crowdedAnalysis 149, crowdedAnalysis 44] }
  let s₃ : Analyzer := { s₀ with
    analysed := [crowdedAnalysis 44], switched := [⟨crowdedAnalysis 149, best⟩] }
  let entry := (⟨crowdedAnalysis 149, best⟩ : Switched).entry 100000
  let s₄ : Analyzer := { s₃.record entry with switched := [] }
  let s₅ : Analyzer := { s₄ with analysed := [], switched := [⟨crowdedAnalysis 44, other⟩] }
  have h₁ : rfStep .default s₀ (.analyse .scheduled (crowded 149)) = some (.quiet, s₁) := rfl
  have h₂ : rfStep .default s₁ (.analyse .scheduled (crowded 44)) = some (.quiet, s₂) := rfl
  have h₃ : rfStep .default s₂ (.act 0 true) = some (.moved ⟨crowdedAnalysis 149, best⟩, s₃) := by
    simp only [rfStep, s₂, List.getElem?_cons_zero, hbest, if_true]
    rfl
  have h₄ : rfStep .default s₃ (.record 0) = some (.recorded entry, s₄) := rfl
  have h₅ : rfStep .default s₄ (.act 0 true) = some (.moved ⟨crowdedAnalysis 44, other⟩, s₅) := by
    have hfirst : s₄.analysed[0]? = some (crowdedAnalysis 44) := rfl
    simp only [rfStep, hfirst, hother, if_true]
    rfl
  refine ⟨[_, _, _, _], _, s₅, Run.cons h₁ (Run.cons h₂ (Run.cons h₃ (Run.cons h₄ (Run.cons h₅
    (Run.nil s₅))))), fun hsteady => ?_⟩
  obtain ⟨-, hinterval⟩ := hsteady _ current rfl ⟨rfl, hcurrent⟩
  have hsoon : (Settings.default).minInterval ≤ (100000 : ℚ) - 100000 := hinterval 100000 rfl
  exact absurd hsoon (by decide +kernel)

end Sbegw.Rf
