import Sbegw.Netd.Wans
import Sbegw.Lib.Run

/-!
# The primary WAN

`select_primary` reads the health table only, and the table keeps what it was told of WANs that have
since been deleted, disabled or edited.  Where no such WAN was last read as usable, the choice is a WAN
of the configuration.
-/

namespace Sbegw.Netd

open Machine Schema

/-! ### Runs of the manager -/

/-- A configuration: its WANs are a dictionary. -/
structure WanConfig where
  doc : Obj
  distinct : (Dict.keys (sectionOf doc "wans")).Nodup

/-- `cfg.get("wans", {})` -/
def WanConfig.wans (cfg : WanConfig) : Obj := sectionOf cfg.doc "wans"

/-- A poll of the sampler, or a tick of the health loop; each with the configuration running then. -/
inductive WanCall where
  | probe (up : Uplinks) (now : ℚ) (cfg : WanConfig)
  | tick (gateway : String → Option String) (cfg : WanConfig)

inductive WanAnswer where
  | probed (results : Dict String (Option Reading)) (events : List WanEvent)
  | chosen (primary : Option String) (route : Option DefaultRoute)

def wanStep (m : WanManager) : WanCall → Option (WanAnswer × WanManager)
  | .probe up now cfg =>
    let r := m.probe up now cfg.doc
    some (.probed r.1 r.2.1, r.2.2)
  | .tick gateway cfg => some (.chosen m.selectPrimary (healthTick gateway cfg.doc m), m)

abbrev WanTrail := List (Step WanManager WanCall WanAnswer)

/-! ### What the probes have seen -/

/-- What is known of a WAN from the probes. -/
structure Sighting where
  /-- the configuration of its last reading -/
  cfg : WanConfig
  state : WanState
  /-- no later probe found it disabled or gone -/
  intact : Bool

/-- What one step adds. -/
def sight (wid : String) (s : Option Sighting) (x : Step WanManager WanCall WanAnswer) :
    Option Sighting :=
  match x.act, x.out with
  | .probe _ _ cfg, .probed results _ =>
    match Dict.lookup wid results with
    | some (some r) => some ⟨cfg, r.state, true⟩
    | some none => s.map fun s => { s with intact := false }
    | none =>
      -- not reached, or not a WAN any more
      if (Dict.lookup wid cfg.wans).isSome then s else s.map fun s => { s with intact := false }
  | _, _ => s

def sighting (wid : String) (l : WanTrail) : Option Sighting := l.foldl (sight wid) none

/-- The WAN has the settings and the interface it had. -/
def SameUplink (before after : WanConfig) (wid : String) : Prop :=
  Dict.lookup wid before.wans = Dict.lookup wid after.wans ∧
    wanBridgeNeeded before.doc = wanBridgeNeeded after.doc

instance (before after : WanConfig) (wid : String) : Decidable (SameUplink before after wid) := by
  unfold SameUplink; infer_instance

/-- The last reading still speaks for the WAN of the configuration. -/
def Sighting.Current (s : Sighting) (cfg : WanConfig) (wid : String) : Prop :=
  s.intact = true ∧ SameUplink s.cfg cfg wid

instance (s : Sighting) (cfg : WanConfig) (wid : String) : Decidable (s.Current cfg wid) := by
  unfold Sighting.Current; infer_instance

/-- The latest probed state of a WAN under the configuration. -/
def probedState (l : WanTrail) (cfg : WanConfig) (wid : String) : Option WanState :=
  (sighting wid l).bind fun s => if s.Current cfg wid then some s.state else none

/-! ### The property -/

/-- The WAN exists, is enabled and is in the state, and none that is has a lower priority value. -/
structure Best (l : WanTrail) (cfg : WanConfig) (state : WanState) (wid : String) (wan : Json) :
    Prop where
  there : Dict.lookup wid cfg.wans = some wan
  enabled : wanEnabled wan = true
  probed : probedState l cfg wid = some state
  least : ∀ w v, Dict.lookup w cfg.wans = some v → wanEnabled v = true →
    probedState l cfg w = some state → wanPriority wan ≤ wanPriority v

/-- A real primary: up, or degraded where no enabled WAN is up. -/
def IsPrimary (l : WanTrail) (cfg : WanConfig) (wid : String) (wan : Json) : Prop :=
  Best l cfg .up wid wan ∨ Best l cfg .degraded wid wan ∧
    ∀ w v, Dict.lookup w cfg.wans = some v → wanEnabled v = true → probedState l cfg w ≠ some .up

/-- What a tick may answer: no WAN and no route, or a real primary and at most a route on its
interface. -/
def RealChoice (l : WanTrail) (cfg : WanConfig) : WanAnswer → Prop
  | .probed _ _ => False
  | .chosen none route => route = none
  | .chosen (some wid) route => ∃ wan, IsPrimary l cfg wid wan ∧
      ∀ r, route = some r → r.dev = wanInterface wan cfg.doc

/-- No WAN that was last read as up or degraded has since been deleted, disabled or edited. -/
def NoneStale (l : WanTrail) (cfg : WanConfig) : Prop :=
  ∀ wid s, sighting wid l = some s → s.state = .up ∨ s.state = .degraded → s.Current cfg wid

/-! ### What a probe does to the table -/

/-- What `select_primary` reads of a WAN. -/
def rowOf (wid : String) (m : WanManager) : Option (WanState × ℤ) :=
  (Dict.lookup wid m.health).map fun e => (e.reading.state, e.priority)

def priorityIn (wans : Obj) (wid : String) : ℤ := ((Dict.lookup wid wans).map wanPriority).getD 1

theorem rowOf_note_self (t : ℚ) (wid : String) (wan : Json) (r : Reading) (m : WanManager) :
    rowOf wid (note t wid wan r m).1 = some (r.state, wanPriority wan) := by
  simp [rowOf, note]

theorem rowOf_note_of_ne {w wid : String} (h : w ≠ wid) (t : ℚ) (wan : Json) (r : Reading)
    (m : WanManager) : rowOf w (note t wid wan r m).1 = rowOf w m := by
  simp [rowOf, note, Dict.lookup_set_of_ne h]

/-- A WAN that the loop does not have is not in the results. -/
theorem lookup_probeAll_of_notMem (up : Uplinks) (t : ℚ) (cfg : Obj) {wid : String} :
    ∀ {wans : Obj}, wid ∉ Dict.keys wans → ∀ m : WanManager,
      Dict.lookup wid (probeAll up t cfg wans m).1 = none
  | [], _, _ => rfl
  | (w, wan) :: rest, h, m => by
    simp only [Dict.keys, List.map_cons, List.mem_cons, not_or] at h
    have hne : w ≠ wid := Ne.symm h.1
    rw [probeAll]
    split
    · split
      · rfl
      · simp only [Dict.lookup_cons, hne, if_false]
        exact lookup_probeAll_of_notMem up t cfg h.2 _
    · simp only [Dict.lookup_cons, hne, if_false]
      exact lookup_probeAll_of_notMem up t cfg h.2 m

/-- **The row of a WAN after a probe**: that of its reading, where it was read. -/
theorem rowOf_probeAll (up : Uplinks) (t : ℚ) (cfg : Obj) (wid : String) :
    ∀ {wans : Obj}, (Dict.keys wans).Nodup → ∀ m : WanManager,
      rowOf wid (probeAll up t cfg wans m).2.2 =
        match Dict.lookup wid (probeAll up t cfg wans m).1 with
        | some (some r) => some (r.state, priorityIn wans wid)
        | _ => rowOf wid m
  | [], _, _ => rfl
  | (w, wan) :: rest, hd, m => by
    have hd : w ∉ Dict.keys rest ∧ (Dict.keys rest).Nodup := by simpa [Dict.keys] using hd
    have hprio : w ≠ wid → priorityIn ((w, wan) :: rest) wid = priorityIn rest wid := by
      intro hne
      simp [priorityIn, Dict.lookup_cons, hne]
    rw [probeAll]
    split
    · split
      · rfl
      · next r _ =>
        have ih := rowOf_probeAll up t cfg wid hd.2 (note t w wan r m).1
        show rowOf wid (probeAll up t cfg rest (note t w wan r m).1).2.2 = _
        simp only [Dict.lookup_cons]
        by_cases hw : w = wid
        · subst hw
          rw [lookup_probeAll_of_notMem up t cfg hd.1, rowOf_note_self] at ih
          simpa [priorityIn, Dict.lookup_cons] using ih
        · rw [rowOf_note_of_ne (Ne.symm hw)] at ih
          rw [ih, if_neg hw, hprio hw]
    · have ih := rowOf_probeAll up t cfg wid hd.2 m
      show rowOf wid (probeAll up t cfg rest m).2.2 = _
      simp only [Dict.lookup_cons]
      by_cases hw : w = wid
      · subst hw
        rw [lookup_probeAll_of_notMem up t cfg hd.1] at ih
        simpa using ih
      · rw [ih, if_neg hw, hprio hw]

/-- Only an enabled WAN of the loop is read. -/
theorem enabled_of_read (up : Uplinks) (t : ℚ) (cfg : Obj) {wid : String} {r : Reading} :
    ∀ {wans : Obj} {m : WanManager}, (Dict.keys wans).Nodup →
      Dict.lookup wid (probeAll up t cfg wans m).1 = some (some r) →
      ∃ wan, Dict.lookup wid wans = some wan ∧ wanEnabled wan = true
  | [], _, _, h => by simp [probeAll] at h
  | (w, wan) :: rest, m, hd, h => by
    have hd : w ∉ Dict.keys rest ∧ (Dict.keys rest).Nodup := by simpa [Dict.keys] using hd
    rw [probeAll] at h
    split at h
    · next hen =>
      split at h
      · simp at h
      · next r' _ =>
        by_cases hw : w = wid
        · exact ⟨wan, by simp [Dict.lookup_cons, hw], hen⟩
        · simp only [Dict.lookup_cons, hw, if_false] at h ⊢
          exact enabled_of_read up t cfg hd.2 h
    · by_cases hw : w = wid
      · simp [Dict.lookup_cons, hw] at h
      · simp only [Dict.lookup_cons, hw, if_false] at h ⊢
        exact enabled_of_read up t cfg hd.2 h

theorem nodup_probeAll (up : Uplinks) (t : ℚ) (cfg : Obj) : ∀ (wans : Obj) {m : WanManager},
    (Dict.keys m.health).Nodup → (Dict.keys (probeAll up t cfg wans m).2.2.health).Nodup
  | [], _, h => h
  | (w, wan) :: rest, m, h => by
    rw [probeAll]
    split
    · split
      · exact h
      · exact nodup_probeAll up t cfg rest (Dict.nodup_keys_set _ _ h)
    · exact nodup_probeAll up t cfg rest h

/-! ### The table along a run -/

/-- The table holds the last reading of every WAN, with the priority of that time. -/
structure Recorded (l : WanTrail) (m : WanManager) : Prop where
  nodup : (Dict.keys m.health).Nodup
  row : ∀ wid, rowOf wid m = (sighting wid l).map fun s => (s.state, priorityIn s.cfg.wans wid)
  enabled : ∀ wid s, sighting wid l = some s →
    ∃ wan, Dict.lookup wid s.cfg.wans = some wan ∧ wanEnabled wan = true

theorem recorded_init : Recorded [] WanManager.init :=
  ⟨List.nodup_nil, fun _ => rfl, fun _ _ h => by simp [sighting] at h⟩

theorem sighting_append (wid : String) (l : WanTrail) (x : Step WanManager WanCall WanAnswer) :
    sighting wid (l ++ [x]) = sight wid (sighting wid l) x := by
  rw [sighting, List.foldl_append]
  rfl

/-- Losing sight of a WAN changes neither its state nor the configuration it was read under. -/
theorem sight_cases (wid : String) (s : Option Sighting) (m m' : WanManager) (up : Uplinks) (now : ℚ)
    (cfg : WanConfig) (results : Dict String (Option Reading)) (events : List WanEvent) :
    (∃ r, Dict.lookup wid results = some (some r) ∧
        sight wid s ⟨m, .probe up now cfg, .probed results events, m'⟩ = some ⟨cfg, r.state, true⟩) ∨
      (∀ r, Dict.lookup wid results ≠ some (some r)) ∧
        (sight wid s ⟨m, .probe up now cfg, .probed results events, m'⟩ = s ∨
          sight wid s ⟨m, .probe up now cfg, .probed results events, m'⟩ =
            s.map fun s => { s with intact := false }) := by
  simp only [sight]
  cases hr : Dict.lookup wid results with
  | none =>
    refine Or.inr ⟨fun _ h => by simp at h, ?_⟩
    by_cases hw : (Dict.lookup wid cfg.wans).isSome = true
    · exact Or.inl (if_pos hw)
    · exact Or.inr (if_neg hw)
  | some o =>
    cases o with
    | none => exact Or.inr ⟨fun _ h => by simp at h, Or.inr rfl⟩
    | some r => exact Or.inl ⟨r, rfl, rfl⟩

theorem recorded_probe {l : WanTrail} {m : WanManager} (h : Recorded l m) (up : Uplinks) (now : ℚ)
    (cfg : WanConfig) :
    let r := m.probe up now cfg.doc
    Recorded (l ++ [⟨m, .probe up now cfg, .probed r.1 r.2.1, r.2.2⟩]) r.2.2 := by
  intro r
  have hrow : ∀ wid, rowOf wid r.2.2 = match Dict.lookup wid r.1 with
      | some (some r) => some (r.state, priorityIn cfg.wans wid)
      | _ => rowOf wid m := fun wid => rowOf_probeAll up now cfg.doc wid cfg.distinct m
  refine ⟨nodup_probeAll up now cfg.doc _ h.nodup, fun wid => ?_, fun wid s hs => ?_⟩
  · rw [sighting_append, hrow wid]
    rcases sight_cases wid (sighting wid l) m r.2.2 up now cfg r.1 r.2.1 with
      ⟨rd, hrd, hs⟩ | ⟨hrd, hs⟩
    · rw [hs, hrd]
      rfl
    · have hold : (match Dict.lookup wid r.1 with
          | some (some r) => some (r.state, priorityIn cfg.wans wid)
          | _ => rowOf wid m) = rowOf wid m := by
        split
        · next rd hsome => exact absurd hsome (hrd rd)
        · rfl
      rw [hold, h.row wid]
      rcases hs with hs | hs
      · rw [hs]
      · rw [hs, Option.map_map]
        rfl
  · rw [sighting_append] at hs
    rcases sight_cases wid (sighting wid l) m r.2.2 up now cfg r.1 r.2.1 with
      ⟨rd, hrd, heq⟩ | ⟨-, heq | heq⟩
    · rw [heq, Option.some.injEq] at hs
      subst hs
      exact enabled_of_read up now cfg.doc cfg.distinct hrd
    · exact h.enabled wid s (heq ▸ hs)
    · rw [heq] at hs
      obtain ⟨s', hs', rfl⟩ := Option.map_eq_some_iff.mp hs
      exact h.enabled wid s' hs'

/-- Every run keeps the record. -/
theorem recorded_of_run {l : WanTrail} {m : WanManager} (h : Run wanStep WanManager.init l m) :
    Recorded l m := by
  refine h.record Recorded (fun k u a o v hI hs => ?_) recorded_init
  cases a with
  | probe up now cfg =>
    simp only [wanStep, Option.some.injEq, Prod.mk.injEq] at hs
    obtain ⟨rfl, rfl⟩ := hs
    exact recorded_probe hI up now cfg
  | tick gateway cfg =>
    simp only [wanStep, Option.some.injEq, Prod.mk.injEq] at hs
    obtain ⟨rfl, rfl⟩ := hs
    have hsame : ∀ wid, sighting wid (k ++ [⟨u, .tick gateway cfg,
        .chosen u.selectPrimary (healthTick gateway cfg.doc u), u⟩]) = sighting wid k :=
      fun wid => sighting_append wid k _
    exact ⟨hI.nodup, fun wid => by rw [hsame, hI.row], fun wid s hs => hI.enabled wid s (hsame wid ▸ hs)⟩

/-! ### What the table makes `select_primary` choose -/

instance : IsTrans (ℤ × String) candidateLe where
  trans a b c hab hbc := by
    unfold candidateLe at *
    rcases hab with hab | ⟨hab, hab'⟩
    · rcases hbc with hbc | ⟨hbc, -⟩
      · exact Or.inl (lt_trans hab hbc)
      · exact Or.inl (hbc ▸ hab)
    · rcases hbc with hbc | ⟨hbc, hbc'⟩
      · exact Or.inl (hab ▸ hbc)
      · exact Or.inr ⟨hab.trans hbc, String.le_trans hab' hbc'⟩

instance : Std.Total candidateLe where
  total a b := by
    unfold candidateLe
    rcases lt_trichotomy a.1 b.1 with h | h | h
    · exact Or.inl (Or.inl h)
    · rcases String.le_total a.2 b.2 with h' | h'
      · exact Or.inl (Or.inr ⟨h, h'⟩)
      · exact Or.inr (Or.inr ⟨h.symm, h'⟩)
    · exact Or.inr (Or.inl h)

theorem head_sorted {cs : List (ℤ × String)} {c : ℤ × String}
    (h : (cs.insertionSort candidateLe).head? = some c) : c ∈ cs ∧ ∀ b ∈ cs, c.1 ≤ b.1 := by
  obtain ⟨tail, htail⟩ := List.head?_eq_some_iff.mp h
  have hsorted := List.pairwise_insertionSort candidateLe cs
  rw [htail, List.pairwise_cons] at hsorted
  have hmem : ∀ b, b ∈ cs ↔ b = c ∨ b ∈ tail := by
    intro b
    rw [← List.mem_insertionSort candidateLe, htail, List.mem_cons]
  refine ⟨(hmem c).mpr (Or.inl rfl), fun b hb => ?_⟩
  rcases (hmem b).mp hb with rfl | hb
  · exact le_refl _
  · rcases hsorted.1 b hb with hlt | ⟨heq, -⟩
    · exact le_of_lt hlt
    · exact le_of_eq heq

theorem mem_candidatesIn {m : WanManager} (hd : (Dict.keys m.health).Nodup) {state : WanState} {p : ℤ}
    {wid : String} : (p, wid) ∈ candidatesIn state m ↔ rowOf wid m = some (state, p) := by
  simp only [candidatesIn, List.mem_map, List.mem_filter, decide_eq_true_eq, rowOf,
    Option.map_eq_some_iff, Prod.mk.injEq]
  constructor
  · rintro ⟨⟨w, e⟩, ⟨hmem, hstate⟩, hp, rfl⟩
    exact ⟨e, Dict.lookup_of_mem hd hmem, hstate, hp⟩
  · rintro ⟨e, he, hstate, hp⟩
    exact ⟨(wid, e), ⟨Dict.mem_of_lookup he, hstate⟩, hp, rfl⟩

/-- The choice has the best row of the table. -/
theorem row_of_selectPrimary {m : WanManager} (hd : (Dict.keys m.health).Nodup) {wid : String}
    (h : m.selectPrimary = some wid) : ∃ state p, rowOf wid m = some (state, p) ∧
      (∀ w q, rowOf w m = some (state, q) → p ≤ q) ∧
      (state = .up ∨ state = .degraded ∧ ∀ w q, rowOf w m ≠ some (.up, q)) := by
  simp only [WanManager.selectPrimary, Option.map_eq_some_iff] at h
  obtain ⟨⟨p, w⟩, hhead, rfl⟩ := h
  have hbest : ∀ state, ((candidatesIn state m).insertionSort candidateLe).head? = some (p, w) →
      rowOf w m = some (state, p) ∧ ∀ w' q, rowOf w' m = some (state, q) → p ≤ q := by
    intro state hs
    obtain ⟨hmem, hleast⟩ := head_sorted hs
    exact ⟨(mem_candidatesIn hd).mp hmem, fun w' q hq => hleast (q, w') ((mem_candidatesIn hd).mpr hq)⟩
  by_cases hup : (candidatesIn .up m).isEmpty = true
  · rw [if_pos hup] at hhead
    have hnone : ∀ w' q, rowOf w' m ≠ some (.up, q) := by
      intro w' q hq
      have hmem := (mem_candidatesIn hd).mpr hq
      rw [List.isEmpty_iff.mp hup] at hmem
      exact List.not_mem_nil hmem
    exact ⟨.degraded, p, (hbest _ hhead).1, (hbest _ hhead).2, Or.inr ⟨rfl, hnone⟩⟩
  · rw [if_neg hup] at hhead
    exact ⟨.up, p, (hbest _ hhead).1, (hbest _ hhead).2, Or.inl rfl⟩

/-! ### The property along a run -/

/-- A WAN whose probed state is known has the row it should have. -/
theorem row_of_probedState {l : WanTrail} {m : WanManager} (h : Recorded l m) {cfg : WanConfig}
    {wid : String} {state : WanState} (hp : probedState l cfg wid = some state) {wan : Json}
    (hw : Dict.lookup wid cfg.wans = some wan) : rowOf wid m = some (state, wanPriority wan) := by
  obtain ⟨s, hs, hcur⟩ := Option.bind_eq_some_iff.mp hp
  split at hcur
  · next hc =>
    rw [Option.some.injEq] at hcur
    have hprio : priorityIn s.cfg.wans wid = wanPriority wan := by
      rw [priorityIn, hc.2.1, hw]
      rfl
    rw [h.row wid, hs, Option.map_some, hprio, hcur]
  · simp at hcur

theorem best_of_row {l : WanTrail} {m : WanManager} (h : Recorded l m) {cfg : WanConfig}
    (hstale : NoneStale l cfg) {wid : String} {state : WanState} {p : ℤ}
    (hstate : state = .up ∨ state = .degraded) (hrow : rowOf wid m = some (state, p))
    (hleast : ∀ w q, rowOf w m = some (state, q) → p ≤ q) : ∃ wan, Best l cfg state wid wan := by
  have hsight := hrow
  rw [h.row wid, Option.map_eq_some_iff] at hsight
  obtain ⟨s, hs, heq⟩ := hsight
  obtain ⟨rfl, -⟩ := Prod.mk.inj heq
  have hcur := hstale wid s hs hstate
  obtain ⟨wan, hwan, hen⟩ := h.enabled wid s hs
  have hthere : Dict.lookup wid cfg.wans = some wan := by rw [← hcur.2.1, hwan]
  have hprobed : probedState l cfg wid = some s.state := by
    rw [probedState, hs, Option.bind_some, if_pos hcur]
  have hp : p = wanPriority wan := by
    rw [row_of_probedState h hprobed hthere] at hrow
    simpa using hrow.symm
  exact ⟨wan, hthere, hen, hprobed, fun w v hv _ hpv =>
    hp ▸ hleast w _ (row_of_probedState h hpv hv)⟩

/-- One tick, from a table that holds the record. -/
theorem realChoice_tick {l : WanTrail} {m : WanManager} (h : Recorded l m) {cfg : WanConfig}
    (hstale : NoneStale l cfg) (gateway : String → Option String) :
    RealChoice l cfg (.chosen m.selectPrimary (healthTick gateway cfg.doc m)) := by
  cases hsel : m.selectPrimary with
  | none => simp [healthTick, hsel, RealChoice]
  | some wid =>
    obtain ⟨state, p, hrow, hleast, hstate⟩ := row_of_selectPrimary h.nodup hsel
    obtain ⟨wan, hbest⟩ := best_of_row h hstale (hstate.imp_right And.left) hrow hleast
    refine ⟨wan, ?_, fun r hr => ?_⟩
    · rcases hstate with rfl | ⟨rfl, hnone⟩
      · exact Or.inl hbest
      · exact Or.inr ⟨hbest, fun w v hv _ hpv => hnone w _ (row_of_probedState h hpv hv)⟩
    · have hthere : Dict.lookup wid (sectionOf cfg.doc "wans") = some wan := hbest.there
      simp only [healthTick, hsel, hthere, Option.getD_some, Option.map_eq_some_iff] at hr
      obtain ⟨gw, -, rfl⟩ := hr
      rfl

/-- **The primary WAN is real**: in every run whose ticks find no stale reading, every tick chooses no
WAN or a real one, and installs a default route on its interface only. -/
theorem primary_is_real {l : WanTrail} {m : WanManager} (h : Run wanStep WanManager.init l m)
    (hok : ∀ l₁ x l₂, l = l₁ ++ x :: l₂ → ∀ gateway cfg, x.act = .tick gateway cfg → NoneStale l₁ cfg) :
    ∀ l₁ x l₂, l = l₁ ++ x :: l₂ → ∀ gateway cfg, x.act = .tick gateway cfg → RealChoice l₁ cfg x.out := by
  intro l₁ x l₂ hl gateway cfg hx
  have hstale := hok l₁ x l₂ hl gateway cfg hx
  subst hl
  obtain ⟨hbefore, hstep, -⟩ := Run.step_at l₁ h
  rw [hx] at hstep
  simp only [wanStep, Option.some.injEq, Prod.mk.injEq] at hstep
  rw [← hstep.1]
  exact realChoice_tick (recorded_of_run hbefore) hstale gateway

/-! ### One run that meets the condition, and one that does not -/

/-- The default configuration. -/
def defaultWans : WanConfig := ⟨defaultEntries, by decide⟩

/-- The default configuration with its WAN disabled. -/
def disabledWans : WanConfig :=
  ⟨Dict.set "wans" (.obj [("wan1", .obj (Dict.set "enabled" (.bool false) defaultWan))]) defaultEntries,
    by decide⟩

/-- An uplink with an address, a gateway and a short way to the targets. -/
def healthyUplink : Uplinks :=
  ⟨fun _ => true, fun _ => ["192.0.2.7/24"], fun _ => some "192.0.2.1",
    fun _ _ => .ok (some 12, some 0), fun _ _ => .ok none⟩

/-- The probe of a healthy uplink, as a step. -/
def healthyProbe : Step WanManager WanCall WanAnswer :=
  let r := WanManager.init.probe healthyUplink 1 defaultEntries
  ⟨WanManager.init, .probe healthyUplink 1 defaultWans, .probed r.1 r.2.1, r.2.2⟩

/-- The tick after it. -/
def healthyTick (cfg : WanConfig) : Step WanManager WanCall WanAnswer :=
  ⟨healthyProbe.post, .tick healthyUplink.gateway cfg, .chosen healthyProbe.post.selectPrimary
    (healthTick healthyUplink.gateway cfg.doc healthyProbe.post), healthyProbe.post⟩

theorem run_healthy (cfg : WanConfig) :
    Run wanStep WanManager.init [healthyProbe, healthyTick cfg] healthyProbe.post :=
  Run.cons rfl (Run.cons rfl (Run.nil _))

theorem sighting_healthy {wid : String} {s : Sighting} (h : sighting wid [healthyProbe] = some s) :
    wid = "wan1" ∧ s = ⟨defaultWans, .up, true⟩ := by
  have hres : (WanManager.init.probe healthyUplink 1 defaultEntries).1 =
      [("wan1", some ⟨"eth3", .up, true, true, ["192.0.2.7/24"], some "192.0.2.1", some 12, some 0⟩)] := by
    rfl
  have hfold : sighting wid [healthyProbe] = sight wid none healthyProbe := rfl
  rw [hfold, sight] at h
  simp only [healthyProbe, hres, Dict.lookup_cons, Dict.lookup_nil] at h
  by_cases hw : "wan1" = wid
  · simp only [hw, if_true, Option.some.injEq] at h
    exact ⟨hw.symm, h.symm⟩
  · simp [hw] at h

theorem primary_is_real_default :
    healthyProbe.post.selectPrimary = some "wan1" ∧
      RealChoice [healthyProbe] defaultWans (healthyTick defaultWans).out := by
  refine ⟨by rfl, ?_⟩
  refine primary_is_real (run_healthy defaultWans) (fun l₁ x l₂ hl gateway cfg hx wid s hs _ => ?_)
    [healthyProbe] (healthyTick defaultWans) [] rfl _ _ rfl
  rcases l₁ with _ | ⟨y, l₁⟩
  · simp [sighting] at hs
  · rcases l₁ with _ | ⟨z, l₁⟩
    · simp only [List.cons_append, List.nil_append, List.cons.injEq] at hl
      obtain ⟨rfl, rfl, -⟩ := hl
      obtain ⟨-, rfl⟩ := WanCall.tick.inj hx
      obtain ⟨rfl, rfl⟩ := sighting_healthy hs
      exact ⟨rfl, rfl, rfl⟩
    · simp at hl

/-- A WAN that has been disabled since the last probe is still chosen, and its route installed. -/
theorem disabled_is_chosen : ∃ (l₁ : WanTrail) (x : Step WanManager WanCall WanAnswer) (m : WanManager)
    (cfg : WanConfig), (validate Capabilities.empty cfg.doc).toOption.map Prod.fst = some cfg.doc ∧
      Run wanStep WanManager.init (l₁ ++ [x]) m ∧ x.act = .tick healthyUplink.gateway cfg ∧
      x.out = .chosen (some "wan1") (some ⟨"192.0.2.1", "eth3", 10⟩) ∧ ¬ RealChoice l₁ cfg x.out := by
  refine ⟨[healthyProbe], healthyTick disabledWans, healthyProbe.post, disabledWans, by decide +kernel,
    run_healthy disabledWans, rfl, by rfl, ?_⟩
  have hout : (healthyTick disabledWans).out =
      .chosen (some "wan1") (some ⟨"192.0.2.1", "eth3", 10⟩) := by rfl
  rw [hout]
  rintro ⟨wan, hprimary, -⟩
  have hthere : Dict.lookup "wan1" disabledWans.wans = some wan ∧ wanEnabled wan = true := by
    rcases hprimary with h | ⟨h, -⟩
    · exact ⟨h.there, h.enabled⟩
    · exact ⟨h.there, h.enabled⟩
  have hlookup : Dict.lookup "wan1" disabledWans.wans =
      some (.obj (Dict.set "enabled" (.bool false) defaultWan)) := by rfl
  rw [hlookup, Option.some.injEq] at hthere
  obtain ⟨rfl, hen⟩ := hthere
  have hdis : wanEnabled (.obj (Dict.set "enabled" (.bool false) defaultWan)) = false := by decide
  rw [hdis] at hen
  exact Bool.noConfusion hen

end Sbegw.Netd
