import Sbegw.Wifid.Identity
import Sbegw.Wifid.Allocation

/-!
# Who is started

Every enabled SSID is visited once on every radio.  A radio starts as many of the SSIDs of its band as its limit
allows, each once, and the plan warns of the others.
-/

namespace Sbegw.Wifid

open Text Schema

/-! ### The loop over SSIDs and radios -/

/-- An SSID and a radio. -/
abbrev Visit := (String × Json) × String × Radio

/-- The two loops as one. -/
def visits (radios : Radios) (cfg : Obj) : List Visit :=
  ((Dict.sorted (wifiNetworks cfg)).filter fun n => isEnabled n.2) ×ˢ Dict.sorted radios

def visit (radios : Radios) (cfg : Obj) (mlds : List Mld) (s : Placed) (v : Visit) : Placed :=
  placeOn radios cfg (mldOf mlds v.1.1) v.1.1 v.1.2 s v.2

/-- Before the first visit. -/
def unplaced (radios : Radios) (cfg : Obj) (slots : Allocator) : Placed :=
  ⟨slots.prune (liveNetworks radios cfg), [], [], (planMlds radios cfg).2⟩

/-- After the last one. -/
def placed (radios : Radios) (cfg : Obj) (slots : Allocator) : Placed :=
  (visits radios cfg).foldl (visit radios cfg (planMlds radios cfg).1) (unplaced radios cfg slots)

theorem placed_eq (radios : Radios) (cfg : Obj) (slots : Allocator) :
    placed radios cfg slots = (Dict.sorted (wifiNetworks cfg)).foldl (placeNetwork radios cfg (planMlds radios cfg).1)
      (unplaced radios cfg slots) := by
  show List.foldl _ _ (List.flatMap (fun n => (Dict.sorted radios).map (Prod.mk n)) _) = _
  rw [List.foldl_flatMap, List.foldl_filter]
  refine congrArg (fun f => List.foldl f _ _) (funext fun s => funext fun n => ?_)
  rw [placeNetwork, List.foldl_map]
  rfl

theorem buildPlan_eq (radios : Radios) (cfg : Obj) (slots : Allocator) : buildPlan radios cfg slots =
    (⟨(placed radios cfg slots).links, (planMlds radios cfg).1, (placed radios cfg slots).bsses,
      (placed radios cfg slots).warnings⟩, (placed radios cfg slots).slots) := by
  rw [placed_eq]
  rfl

theorem mem_visits {radios : Radios} {cfg : Obj} {v : Visit} :
    v ∈ visits radios cfg ↔ (v.1 ∈ wifiNetworks cfg ∧ isEnabled v.1.2 = true) ∧ v.2 ∈ radios := by
  rw [visits, ← Prod.mk.eta (p := v), List.mem_product, List.mem_filter, mem_sorted, mem_sorted]

theorem nodup_sorted {α : Type} {d : Dict String α} (h : d.keys.Nodup) : (Dict.sorted d).Nodup :=
  (List.perm_insertionSort _ d).nodup_iff.mpr (List.Nodup.of_map _ h)

section Visits

variable (c : PlanCall)

theorem nodup_visits : (visits c.radios c.cfg).Nodup :=
  List.Nodup.product ((nodup_sorted c.networksNodup).filter _) (nodup_sorted c.radiosNodup)

/-- An SSID and a radio are visited once. -/
theorem visit_inj {v v' : Visit} (hv : v ∈ visits c.radios c.cfg) (hv' : v' ∈ visits c.radios c.cfg)
    (hssid : v.1.1 = v'.1.1) (hradio : v.2.1 = v'.2.1) : v = v' := by
  obtain ⟨⟨hv, -⟩, hr⟩ := mem_visits.mp hv
  obtain ⟨⟨hv', -⟩, hr'⟩ := mem_visits.mp hv'
  exact Prod.ext (List.inj_on_of_nodup_map c.networksNodup hv hv' hssid)
    (List.inj_on_of_nodup_map c.radiosNodup hr hr' hradio)

end Visits

/-! ### One visit -/

/-- The radio is of a band of the SSID, is not turned off, and can be an access point. -/
def Hosts (cfg : Obj) (v : Visit) : Prop :=
  selectsBand v.1.2 v.2.2.band = true ∧ isEnabled (.obj (radioConfig cfg v.2.1)) = true ∧ v.2.2.apSupported = true

instance (cfg : Obj) (v : Visit) : Decidable (Hosts cfg v) := inferInstanceAs (Decidable (_ ∧ _ ∧ _))

/-- The slot that the visit asks for. -/
def askedSlot (s : Placed) (v : Visit) : Option ℕ × Allocator := s.slots.slot v.2.1 v.1.1 v.2.2.maxApBss

section Visit

variable {radios : Radios} {cfg : Obj} {mlds : List Mld} {s : Placed} {v : Visit}

theorem visit_of_not_hosts (h : ¬ Hosts cfg v) : (visit radios cfg mlds s v).slots = s.slots ∧
    (visit radios cfg mlds s v).links = s.links ∧ (visit radios cfg mlds s v).bsses = s.bsses ∧
      s.warnings ⊆ (visit radios cfg mlds s v).warnings := by
  obtain ⟨⟨wnid, wnet⟩, rid, r⟩ := v
  unfold visit placeOn
  dsimp only
  by_cases hband : selectsBand wnet r.band = true
  · by_cases hon : isEnabled (.obj (radioConfig cfg rid)) = true
    · have hap : ¬ r.apSupported = true := fun hap => h ⟨hband, hon, hap⟩
      rw [if_neg (by simp [hband]), if_neg (by simp [hon]), if_pos (by simp [hap])]
      exact ⟨rfl, rfl, rfl, List.subset_append_left _ _⟩
    · rw [if_neg (by simp [hband]), if_pos (by simp [hon])]
      exact ⟨rfl, rfl, rfl, List.Subset.refl _⟩
  · rw [if_pos (by simp [hband])]
    exact ⟨rfl, rfl, rfl, List.Subset.refl _⟩

theorem visit_of_hosts (h : Hosts cfg v) : visit radios cfg mlds s v =
    match (askedSlot s v).1 with
    | none => { s with
        slots := (askedSlot s v).2
        warnings := s.warnings ++ [fullWarning v.2.1 v.1.1 v.2.2.maxApBss] }
    | some n => { s with slots := (askedSlot s v).2 }.add (radioConfig cfg v.2.1)
        (bssOf radios (mldOf mlds v.1.1) v.1.1 v.1.2 v.2.1 v.2.2 n) := by
  obtain ⟨⟨wnid, wnet⟩, rid, r⟩ := v
  obtain ⟨hband, hon, hap⟩ := h
  unfold visit placeOn
  dsimp only at hband hon hap ⊢
  rw [if_neg (by simp [hband]), if_neg (by simp [hon]), if_neg (by simp [hap])]
  rfl

/-- The slot is refused. -/
theorem visit_of_refused (h : Hosts cfg v) (hslot : (askedSlot s v).1 = none) : visit radios cfg mlds s v =
    { s with
      slots := (askedSlot s v).2
      warnings := s.warnings ++ [fullWarning v.2.1 v.1.1 v.2.2.maxApBss] } := by
  rw [visit_of_hosts h, hslot]

/-- It is given. -/
theorem visit_of_given {n : ℕ} (h : Hosts cfg v) (hslot : (askedSlot s v).1 = some n) : visit radios cfg mlds s v =
    { s with slots := (askedSlot s v).2 }.add (radioConfig cfg v.2.1)
      (bssOf radios (mldOf mlds v.1.1) v.1.1 v.1.2 v.2.1 v.2.2 n) := by
  rw [visit_of_hosts h, hslot]

end Visit

/-! ### What is started -/

/-- The BSSes of a radio. -/
def bssesOn (links : Dict String Link) (rid : String) : List PlannedBss :=
  ((Dict.lookup rid links).map Link.bsses).getD []

/-- The SSIDs that a radio starts. -/
def startedOn (links : Dict String Link) (rid : String) : List String :=
  (bssesOn links rid).map PlannedBss.wirelessNetwork

theorem bssesOn_add (s : Placed) (config : Obj) (b : PlannedBss) (rid : String) :
    bssesOn (s.add config b).links rid =
      if rid = b.radio then bssesOn s.links rid ++ [b] else bssesOn s.links rid := by
  rw [bssesOn, Placed.add]
  dsimp only
  rw [Dict.lookup_set]
  split
  · next h =>
    rw [h, bssesOn]
    cases Dict.lookup b.radio s.links <;> rfl
  · rfl

theorem mem_bssesOn_add (s : Placed) (config : Obj) (b : PlannedBss) :
    b ∈ bssesOn (s.add config b).links b.radio := by
  rw [bssesOn_add, if_pos rfl]
  exact List.mem_append_right _ (List.mem_singleton_self b)

theorem subset_bssesOn_add (s : Placed) (config : Obj) (b : PlannedBss) (rid : String) :
    bssesOn s.links rid ⊆ bssesOn (s.add config b).links rid := by
  rw [bssesOn_add]
  split
  · exact List.subset_append_left _ _
  · exact List.Subset.refl _

/-- The enabled SSIDs of the radio's band. -/
def liveOn (radios : Radios) (cfg : Obj) (rid : String) : List String :=
  (Dict.lookup rid (liveNetworks radios cfg)).getD []

theorem liveOn_of_lookup {radios : Radios} {cfg : Obj} {rid : String} {r : Radio}
    (h : Dict.lookup rid radios = some r) : liveOn radios cfg rid =
      ((wifiNetworks cfg).filter fun n => isEnabled n.2 && selectsBand n.2 r.band).map Prod.fst := by
  rw [liveOn, liveNetworks, Dict.lookup_map_val fun r : Radio =>
    ((wifiNetworks cfg).filter fun n => isEnabled n.2 && selectsBand n.2 r.band).map Prod.fst, h]
  rfl

theorem nodup_liveOn (c : PlanCall) {rid : String} {r : Radio} (h : Dict.lookup rid c.radios = some r) :
    (liveOn c.radios c.cfg rid).Nodup := by
  rw [liveOn_of_lookup h]
  exact List.Nodup.sublist (List.filter_sublist.map _) c.networksNodup

/-- The radios report these limits. -/
def Limited (limit : String → ℕ) (radios : Radios) : Prop := ∀ e ∈ radios, e.2.maxApBss = limit e.1

/-- The BSS that a visit of the radio makes. -/
def Made (radios : Radios) (cfg : Obj) (vs : List Visit) (rid : String) (b : PlannedBss) : Prop :=
  ∃ v ∈ vs, Hosts cfg v ∧ v.2.1 = rid ∧
    b = bssOf radios (mldOf (planMlds radios cfg).1 v.1.1) v.1.1 v.1.2 v.2.1 v.2.2 b.slot

/-- After some visits: the slots of every radio are SSIDs of its band; the BSSes of a radio are of different SSIDs,
each in its slot; and an SSID that has been refused found no slot free. -/
structure Placing (radios : Radios) (cfg : Obj) (limit : String → ℕ) (vs : List Visit) (s : Placed) : Prop where
  allocates : s.slots.Allocates limit
  live : ∀ rid wnid n, s.slots.slotOf rid wnid = some n → wnid ∈ liveOn radios cfg rid
  nodup : ∀ rid, (startedOn s.links rid).Nodup
  held : ∀ rid, ∀ b ∈ bssesOn s.links rid, s.slots.slotOf rid b.wirelessNetwork = some b.slot ∧
    Made radios cfg vs rid b
  settled : ∀ v ∈ vs, Hosts cfg v → v.1.1 ∈ startedOn s.links v.2.1 ∨
    s.slots.slotOf v.2.1 v.1.1 = none ∧ freeSlot (s.slots.of v.2.1) (limit v.2.1) = none ∧
      fullWarning v.2.1 v.1.1 (limit v.2.1) ∈ s.warnings

section Placing

variable {radios : Radios} {cfg : Obj} {limit : String → ℕ} {vs : List Visit} {s : Placed} {v : Visit}

theorem Made.mono {vs' : List Visit} {rid : String} {b : PlannedBss} (h : Made radios cfg vs rid b) (hsub : vs ⊆ vs') :
    Made radios cfg vs' rid b := by
  obtain ⟨v, hv, hmade⟩ := h
  exact ⟨v, hsub hv, hmade⟩

theorem placing_nil {slots : Allocator} (h : slots.Allocates limit) :
    Placing radios cfg limit [] (unplaced radios cfg slots) where
  allocates := allocates_prune h _
  live := fun rid wnid n hn => by
    change Dict.lookup wnid ((slots.prune (liveNetworks radios cfg)).of rid) = some n at hn
    rw [of_prune] at hn
    exact List.contains_iff_mem.mp (Dict.lookup_of_filter (h.nodup rid) hn).2
  nodup := fun _ => List.nodup_nil
  held := fun _ b hb => nomatch hb
  settled := fun v hv => nomatch hv

/-- Slots that are not free stay so. -/
theorem freeSlot_slot {a : Allocator} {rid : String} (h : freeSlot (a.of rid) (limit rid) = none) (r wnid : String) :
    (a.slot r wnid (limit r)).2.of rid = a.of rid := by
  rcases of_slot a r wnid (limit r) rid with hsame | ⟨rfl, n, -, hfree, -⟩
  · exact hsame
  · rw [h] at hfree
    cases hfree

/-- A refusal changes no slot. -/
theorem of_refused {a : Allocator} {rid wnid : String} {n : ℕ} (h : (a.slot rid wnid n).1 = none) (r : String) :
    (a.slot rid wnid n).2.of r = a.of r := by
  rcases of_slot a rid wnid n r with hsame | ⟨rfl, k, hnone, hfree, -⟩
  · exact hsame
  · rw [slot_new hnone hfree] at h
    cases h

/-- A refused SSID has no slot, and none is free. -/
theorem full_of_refused {a : Allocator} (ha : a.Allocates limit) {rid wnid : String}
    (h : (a.slot rid wnid (limit rid)).1 = none) :
    a.slotOf rid wnid = none ∧ freeSlot (a.of rid) (limit rid) = none := by
  cases hown : Dict.lookup wnid (a.of rid) with
  | some n =>
    rw [slot_known hown, if_pos (ha.below rid wnid n hown)] at h
    cases h
  | none =>
    cases hfree : freeSlot (a.of rid) (limit rid) with
    | some n =>
      rw [slot_new hown hfree] at h
      cases h
    | none => exact ⟨hown, rfl⟩

theorem placing_of_not_hosts (h : Placing radios cfg limit vs s) (hv : ¬ Hosts cfg v) :
    Placing radios cfg limit (vs ++ [v]) (visit radios cfg (planMlds radios cfg).1 s v) := by
  obtain ⟨hslots, hlinks, -, hwarn⟩ :=
    @visit_of_not_hosts radios cfg (planMlds radios cfg).1 s v hv
  refine ⟨?_, ?_, ?_, fun rid b hb => ?_, fun v' hv' hhosts => ?_⟩
  · rw [hslots]
    exact h.allocates
  · rw [hslots]
    exact h.live
  · rw [hlinks]
    exact h.nodup
  · rw [hlinks] at hb
    rw [hslots]
    obtain ⟨hslot, hmade⟩ := h.held rid b hb
    exact ⟨hslot, hmade.mono (List.subset_append_left _ _)⟩
  · rcases List.mem_append.mp hv' with hv' | hv'
    · rw [hslots, hlinks]
      rcases h.settled v' hv' hhosts with hin | ⟨hnone, hfull, hw⟩
      · exact .inl hin
      · exact .inr ⟨hnone, hfull, hwarn hw⟩
    · exact absurd (List.mem_singleton.mp hv' ▸ hhosts) hv

theorem placing_of_refused (h : Placing radios cfg limit vs s) (hv : Hosts cfg v)
    (hlimit : v.2.2.maxApBss = limit v.2.1) (hslot : (askedSlot s v).1 = none) :
    Placing radios cfg limit (vs ++ [v]) (visit radios cfg (planMlds radios cfg).1 s v) := by
  rw [visit_of_refused hv hslot]
  rw [askedSlot, hlimit] at hslot
  have hof : ∀ rid, (askedSlot s v).2.of rid = s.slots.of rid := by
    rw [askedSlot, hlimit]
    exact of_refused hslot
  have hslotOf : ∀ rid wnid, (askedSlot s v).2.slotOf rid wnid = s.slots.slotOf rid wnid := by
    intro rid wnid
    rw [Allocator.slotOf, hof]
    rfl
  refine ⟨?_, fun rid wnid n hn => ?_, h.nodup, fun rid b hb => ?_, fun v' hv' hhosts => ?_⟩
  · show (askedSlot s v).2.Allocates limit
    rw [askedSlot, hlimit]
    exact allocates_slot h.allocates _ _
  · exact h.live rid wnid n ((hslotOf rid wnid).symm.trans hn)
  · obtain ⟨hheld, hmade⟩ := h.held rid b hb
    exact ⟨(hslotOf _ _).trans hheld, hmade.mono (List.subset_append_left _ _)⟩
  · dsimp only
    rw [hslotOf, hof]
    rcases List.mem_append.mp hv' with hv' | hv'
    · rcases h.settled v' hv' hhosts with hin | ⟨hnone, hfull, hw⟩
      · exact .inl hin
      · exact .inr ⟨hnone, hfull, List.mem_append_left _ hw⟩
    · obtain rfl := List.mem_singleton.mp hv'
      obtain ⟨hnone, hfull⟩ := full_of_refused h.allocates hslot
      refine .inr ⟨hnone, hfull, List.mem_append_right _ ?_⟩
      rw [hlimit]
      exact List.mem_singleton_self _

theorem placing_of_given (h : Placing radios cfg limit vs s) (hv : Hosts cfg v)
    (hlimit : v.2.2.maxApBss = limit v.2.1) (hlive : v.1.1 ∈ liveOn radios cfg v.2.1)
    (hnew : ∀ v' ∈ vs, v'.1.1 = v.1.1 → v'.2.1 ≠ v.2.1) {n : ℕ} (hslot : (askedSlot s v).1 = some n) :
    Placing radios cfg limit (vs ++ [v]) (visit radios cfg (planMlds radios cfg).1 s v) := by
  rw [visit_of_given hv hslot]
  rw [askedSlot, hlimit] at hslot
  have hasked : askedSlot s v = s.slots.slot v.2.1 v.1.1 (limit v.2.1) := by rw [askedSlot, hlimit]
  have hgrows := grows_slot s.slots v.2.1 v.1.1 (limit v.2.1)
  have hbss : ∀ rid, bssesOn (({ s with slots := (askedSlot s v).2 } : Placed).add (radioConfig cfg v.2.1)
      (bssOf radios (mldOf (planMlds radios cfg).1 v.1.1) v.1.1 v.1.2 v.2.1 v.2.2 n)).links rid =
        if rid = v.2.1 then
          bssesOn s.links rid ++ [bssOf radios (mldOf (planMlds radios cfg).1 v.1.1) v.1.1 v.1.2 v.2.1 v.2.2 n]
        else bssesOn s.links rid := fun rid => bssesOn_add _ _ _ rid
  refine ⟨?_, fun rid wnid m hm => ?_, fun rid => ?_, fun rid b hb => ?_, fun v' hv' hhosts => ?_⟩
  · show (askedSlot s v).2.Allocates limit
    rw [hasked]
    exact allocates_slot h.allocates _ _
  · change Dict.lookup wnid ((askedSlot s v).2.of rid) = some m at hm
    rw [hasked] at hm
    rcases of_slot s.slots v.2.1 v.1.1 (limit v.2.1) rid with hsame | ⟨rfl, k, -, -, hset⟩
    · rw [hsame] at hm
      exact h.live rid wnid m hm
    · rw [hset, Dict.lookup_set] at hm
      split at hm
      · next hw =>
        rw [hw]
        exact hlive
      · exact h.live _ wnid m hm
  · rw [startedOn, hbss]
    split
    · next hrid =>
      rw [List.map_append]
      refine List.nodup_append.mpr ⟨h.nodup rid, List.nodup_singleton _, fun a ha b hb hab => ?_⟩
      obtain ⟨b', hb', rfl⟩ := List.mem_map.mp ha
      obtain ⟨-, v', hin, -, hradio, heq⟩ := h.held rid b' hb'
      have hssid : b'.wirelessNetwork = v'.1.1 := congrArg PlannedBss.wirelessNetwork heq
      have hb : b = v.1.1 := List.mem_singleton.mp hb
      exact hnew v' hin (hssid.symm.trans (hab.trans hb)) (hradio.trans hrid)
    · exact h.nodup rid
  · have hold : b ∈ bssesOn s.links rid → (askedSlot s v).2.slotOf rid b.wirelessNetwork = some b.slot ∧
        Made radios cfg (vs ++ [v]) rid b := by
      intro hb
      obtain ⟨hheld, hmade⟩ := h.held rid b hb
      refine ⟨?_, hmade.mono (List.subset_append_left _ _)⟩
      rw [hasked]
      exact hgrows.slots _ _ _ hheld
    rw [hbss] at hb
    split at hb
    · next hrid =>
      rcases List.mem_append.mp hb with hb | hb
      · exact hold hb
      · obtain rfl := List.mem_singleton.mp hb
        refine ⟨?_, v, List.mem_append_right _ (List.mem_singleton_self v), hv, hrid.symm, rfl⟩
        show (askedSlot s v).2.slotOf rid v.1.1 = some n
        rw [hasked, hrid]
        exact (slot_eq_some hslot).2
    · exact hold hb
  · rcases List.mem_append.mp hv' with hv' | hv'
    · rcases h.settled v' hv' hhosts with hin | ⟨hnone, hfull, hw⟩
      · refine .inl ?_
        rw [startedOn, hbss]
        split
        · rw [List.map_append]
          exact List.mem_append_left _ hin
        · exact hin
      · have hsame : (askedSlot s v).2.of v'.2.1 = s.slots.of v'.2.1 := by
          rw [hasked]
          exact freeSlot_slot hfull _ _
        refine .inr ⟨?_, ?_, hw⟩
        · show Dict.lookup v'.1.1 ((askedSlot s v).2.of v'.2.1) = none
          rw [hsame]
          exact hnone
        · show freeSlot ((askedSlot s v).2.of v'.2.1) _ = none
          rw [hsame]
          exact hfull
    · obtain rfl := List.mem_singleton.mp hv'
      refine .inl ?_
      rw [startedOn, hbss, if_pos rfl, List.map_append]
      exact List.mem_append_right _ (List.mem_singleton_self _)

end Placing

/-- An SSID that a radio can host is one of its band. -/
theorem live_of_hosts (c : PlanCall) {v : Visit} (hv : v ∈ visits c.radios c.cfg) (h : Hosts c.cfg v) :
    v.1.1 ∈ liveOn c.radios c.cfg v.2.1 := by
  obtain ⟨⟨hnet, hon⟩, hradio⟩ := mem_visits.mp hv
  rw [liveOn_of_lookup (Dict.lookup_of_mem c.radiosNodup hradio)]
  refine List.mem_map_of_mem (f := Prod.fst) (List.mem_filter.mpr ⟨hnet, ?_⟩)
  rw [hon, h.1]
  rfl

/-- One visit more. -/
theorem placing_visit (c : PlanCall) {limit : String → ℕ} (hlimit : Limited limit c.radios) {vs : List Visit}
    {s : Placed} {v : Visit} (hv : v ∈ visits c.radios c.cfg)
    (hnew : ∀ v' ∈ vs, v'.1.1 = v.1.1 → v'.2.1 ≠ v.2.1) (h : Placing c.radios c.cfg limit vs s) :
    Placing c.radios c.cfg limit (vs ++ [v]) (visit c.radios c.cfg (planMlds c.radios c.cfg).1 s v) := by
  have hlim : v.2.2.maxApBss = limit v.2.1 := hlimit _ (mem_visits.mp hv).2
  by_cases hhosts : Hosts c.cfg v
  · cases hslot : (askedSlot s v).1 with
    | none => exact placing_of_refused h hhosts hlim hslot
    | some n => exact placing_of_given h hhosts hlim (live_of_hosts c hv hhosts) hnew hslot
  · exact placing_of_not_hosts h hhosts

section Run

variable (c : PlanCall) {limit : String → ℕ} {slots : Allocator} {P : List Visit → Placed → Prop}

theorem placing_foldl (hlimit : Limited limit c.radios)
    (hstep : ∀ vs s v, v ∈ visits c.radios c.cfg → (∀ v' ∈ vs, v'.1.1 = v.1.1 → v'.2.1 ≠ v.2.1) →
      Placing c.radios c.cfg limit vs s → P vs s →
        P (vs ++ [v]) (visit c.radios c.cfg (planMlds c.radios c.cfg).1 s v)) :
    ∀ (vs before : List Visit) {s : Placed}, (∀ v ∈ before ++ vs, v ∈ visits c.radios c.cfg) → (before ++ vs).Nodup →
      Placing c.radios c.cfg limit before s → P before s →
        Placing c.radios c.cfg limit (before ++ vs) (vs.foldl (visit c.radios c.cfg (planMlds c.radios c.cfg).1) s) ∧
          P (before ++ vs) (vs.foldl (visit c.radios c.cfg (planMlds c.radios c.cfg).1) s)
  | [], before, s, _, _, h, hP => by
    rw [List.append_nil]
    exact ⟨h, hP⟩
  | v :: vs, before, s, hin, hnodup, h, hP => by
    have hv : v ∈ visits c.radios c.cfg := hin v (List.mem_append_right _ List.mem_cons_self)
    have hnew : ∀ v' ∈ before, v'.1.1 = v.1.1 → v'.2.1 ≠ v.2.1 := by
      intro v' hv' hssid hradio
      have hsame : v' = v := visit_inj c (hin v' (List.mem_append_left _ hv')) hv hssid hradio
      rw [hsame] at hv'
      exact (List.nodup_append.mp hnodup).2.2 v hv' v List.mem_cons_self rfl
    have hrest := placing_foldl hlimit hstep vs (before ++ [v]) 
      (s := visit c.radios c.cfg (planMlds c.radios c.cfg).1 s v)
    rw [List.append_assoc] at hrest
    exact hrest hin hnodup (placing_visit c hlimit hv hnew h) (hstep before s v hv hnew h hP)

/-- The induction over the visits: beside what every visit keeps. -/
theorem placed_induction (hlimit : Limited limit c.radios) (h : slots.Allocates limit)
    (hstart : P [] (unplaced c.radios c.cfg slots))
    (hstep : ∀ vs s v, v ∈ visits c.radios c.cfg → (∀ v' ∈ vs, v'.1.1 = v.1.1 → v'.2.1 ≠ v.2.1) →
      Placing c.radios c.cfg limit vs s → P vs s →
        P (vs ++ [v]) (visit c.radios c.cfg (planMlds c.radios c.cfg).1 s v)) :
    P (visits c.radios c.cfg) (placed c.radios c.cfg slots) :=
  (placing_foldl c hlimit hstep (visits c.radios c.cfg) [] (fun _ hv => hv) (nodup_visits c) (placing_nil h)
    hstart).2

/-- The plan, after every visit. -/
theorem placing_placed (hlimit : Limited limit c.radios) (h : slots.Allocates limit) :
    Placing c.radios c.cfg limit (visits c.radios c.cfg) (placed c.radios c.cfg slots) :=
  placed_induction c hlimit h (placing_nil h) fun _ _ _ hv hnew hp _ => placing_visit c hlimit hv hnew hp

end Run

/-! ### As many as the limit allows -/

section Count

variable (c : PlanCall) {limit : String → ℕ} {slots : Allocator} {rid : String} {r : Radio}

/-- Every SSID of the radio's band, where the radio is on and can be an access point. -/
theorem hosts_of_live {wnid : String} (hr : Dict.lookup rid c.radios = some r)
    (hon : isEnabled (.obj (radioConfig c.cfg rid)) = true) (hap : r.apSupported = true)
    (h : wnid ∈ liveOn c.radios c.cfg rid) :
    ∃ wnet, ((wnid, wnet), rid, r) ∈ visits c.radios c.cfg ∧ Hosts c.cfg ((wnid, wnet), rid, r) := by
  rw [liveOn_of_lookup hr] at h
  obtain ⟨⟨w, wnet⟩, hin, rfl⟩ := List.mem_map.mp h
  obtain ⟨hnet, hlive⟩ := List.mem_filter.mp hin
  rw [Bool.and_eq_true] at hlive
  exact ⟨wnet, mem_visits.mpr ⟨⟨hnet, hlive.1⟩, Dict.mem_of_lookup hr⟩, hlive.2, hon, hap⟩

/-- The SSIDs that are started are those that have a slot. -/
theorem started_iff (hlimit : Limited limit c.radios) (h : slots.Allocates limit)
    (hr : Dict.lookup rid c.radios = some r) (hon : isEnabled (.obj (radioConfig c.cfg rid)) = true)
    (hap : r.apSupported = true) (wnid : String) :
    wnid ∈ startedOn (placed c.radios c.cfg slots).links rid ↔
      wnid ∈ (placed c.radios c.cfg slots).slots.holders rid := by
  have hp := placing_placed c hlimit h
  rw [Allocator.holders, List.mem_toFinset]
  constructor
  · intro hin
    obtain ⟨b, hb, rfl⟩ := List.mem_map.mp hin
    obtain ⟨hheld, -⟩ := hp.held rid b hb
    exact List.mem_map_of_mem (f := Prod.fst) (Dict.mem_of_lookup hheld)
  · intro hin
    cases hslot : (placed c.radios c.cfg slots).slots.slotOf rid wnid with
    | none => exact absurd hin (Dict.lookup_eq_none_iff.mp hslot)
    | some n =>
      obtain ⟨wnet, hv, hhosts⟩ := hosts_of_live c hr hon hap (hp.live rid wnid n hslot)
      rcases hp.settled _ hv hhosts with hstarted | ⟨hnone, -⟩
      · exact hstarted
      · rw [hslot] at hnone
        cases hnone

theorem started_eq_min (hlimit : Limited limit c.radios) (h : slots.Allocates limit)
    (hr : Dict.lookup rid c.radios = some r) (hon : isEnabled (.obj (radioConfig c.cfg rid)) = true)
    (hap : r.apSupported = true) :
    (startedOn (placed c.radios c.cfg slots).links rid).length =
      min (liveOn c.radios c.cfg rid).length r.maxApBss := by
  have hp := placing_placed c hlimit h
  have hlim : r.maxApBss = limit rid := hlimit _ (Dict.mem_of_lookup hr)
  generalize hs : placed c.radios c.cfg slots = s at hp
  have hstarted : (startedOn s.links rid).toFinset = s.slots.holders rid := by
    ext wnid
    rw [List.mem_toFinset, ← hs]
    exact started_iff c hlimit h hr hon hap wnid
  have hcard : (startedOn s.links rid).length = (s.slots.holders rid).card := by
    rw [← hstarted, List.toFinset_card_of_nodup (hp.nodup rid)]
  have hsub : s.slots.holders rid ⊆ (liveOn c.radios c.cfg rid).toFinset := by
    intro wnid hin
    obtain ⟨e, he, rfl⟩ := List.mem_map.mp (List.mem_toFinset.mp hin)
    exact List.mem_toFinset.mpr (hp.live rid e.1 e.2 (Dict.lookup_of_mem (hp.allocates.nodup rid) he))
  have hle : (s.slots.holders rid).card ≤ (liveOn c.radios c.cfg rid).length := by
    rw [← List.toFinset_card_of_nodup (nodup_liveOn c hr)]
    exact Finset.card_le_card hsub
  have hbound : (s.slots.holders rid).card ≤ limit rid := card_holders_le hp.allocates rid
  rw [hcard, hlim]
  by_cases hall : ∃ wnid ∈ liveOn c.radios c.cfg rid, wnid ∉ startedOn s.links rid
  · -- one has been refused: every slot is taken
    obtain ⟨wnid, hlive, hnot⟩ := hall
    obtain ⟨wnet, hv, hhosts⟩ := hosts_of_live c hr hon hap hlive
    rcases hp.settled _ hv hhosts with hin | ⟨-, hfull, -⟩
    · exact absurd hin hnot
    · have hfull := (freeSlot_eq_none_iff_card hp.allocates rid).mp hfull
      omega
  · have hsup : (liveOn c.radios c.cfg rid).toFinset ⊆ s.slots.holders rid := by
      intro wnid hin
      rw [← hstarted, List.mem_toFinset]
      by_contra hnot
      exact hall ⟨wnid, List.mem_toFinset.mp hin, hnot⟩
    have hge := Finset.card_le_card hsup
    rw [List.toFinset_card_of_nodup (nodup_liveOn c hr)] at hge
    omega

end Count

/-! ### Runs -/

/-- Every probe of the run reports these limits. -/
def LimitedRun (limit : String → ℕ) (events : List PlanEvent) : Prop := ∀ d, .plan d ∈ events → Limited limit d.radios

theorem allocates_after_events {limit : String → ℕ} (events : List PlanEvent) {a : Allocator}
    (ha : a.Allocates limit) (h : LimitedRun limit events) : (a.after events).Allocates limit := by
  induction events generalizing a with
  | nil => exact ha
  | cons e events ih =>
    refine ih ?_ fun d hd => h d (List.mem_cons_of_mem e hd)
    cases e with
    | restart => exact allocates_restart ha
    | plan d =>
      show (buildPlan d.radios d.cfg a).2.Allocates limit
      rw [buildPlan_eq]
      exact (placing_placed d (h d List.mem_cons_self) ha).allocates

/-- From a slot file that is empty. -/
theorem allocates_run {limit : String → ℕ} {events : List PlanEvent} (h : LimitedRun limit events) :
    ((Allocator.load []).after events).Allocates limit :=
  allocates_after_events events (allocates_empty limit) h

/-- **A radio starts as many SSIDs of its band as its limit allows**, each once, and the plan warns of the others:
in every plan of every run. -/
theorem radio_filled {limit : String → ℕ} {events : List PlanEvent} {c : PlanCall}
    (h : LimitedRun limit (events ++ [.plan c])) {rid : String} {r : Radio} (hr : Dict.lookup rid c.radios = some r)
    (hon : isEnabled (.obj (radioConfig c.cfg rid)) = true) (hap : r.apSupported = true) :
    (startedOn (planAfter [] events c).links rid).Nodup ∧
    (∀ wnid ∈ startedOn (planAfter [] events c).links rid, wnid ∈ liveOn c.radios c.cfg rid) ∧
    (startedOn (planAfter [] events c).links rid).length = min (liveOn c.radios c.cfg rid).length r.maxApBss ∧
    ∀ wnid ∈ liveOn c.radios c.cfg rid, wnid ∉ startedOn (planAfter [] events c).links rid →
      fullWarning rid wnid r.maxApBss ∈ (planAfter [] events c).warnings := by
  have hlimit : Limited limit c.radios := h c (List.mem_append_right _ List.mem_cons_self)
  have hslots := @allocates_run _ events fun d hd => h d (List.mem_append_left _ hd)
  have hp := placing_placed c hlimit hslots
  rw [planAfter, buildPlan_eq]
  refine ⟨hp.nodup rid, fun wnid hin => ?_, started_eq_min c hlimit hslots hr hon hap, fun wnid hlive hnot => ?_⟩
  · obtain ⟨b, hb, rfl⟩ := List.mem_map.mp hin
    exact hp.live rid _ _ (hp.held rid b hb).1
  · obtain ⟨wnet, hv, hhosts⟩ := hosts_of_live c hr hon hap hlive
    rcases hp.settled _ hv hhosts with hin | ⟨-, -, hwarn⟩
    · exact absurd hin hnot
    · rw [hlimit _ (Dict.mem_of_lookup hr)]
      exact hwarn

/-- The radio for one SSID alone. -/
def narrow (c : PlanCall) : PlanCall :=
  { c with radios := [("radio-2g", { loneRadio with maxApBss := 1 })], radiosNodup := by decide }

theorem limited_narrow (c : PlanCall) : Limited (fun _ => 1) (narrow c).radios := by
  intro e he
  rw [List.mem_singleton.mp he]

/-- The home network has the only slot, and the guest network is refused. -/
theorem radio_filled_narrow :
    (startedOn (planAfter [] [.plan (narrow homeCall), .restart] (narrow guestCall)).links "radio-2g").length = 1 ∧
      fullWarning "radio-2g" "guest" 1 ∈
        (planAfter [] [.plan (narrow homeCall), .restart] (narrow guestCall)).warnings := by
  have hlimits : LimitedRun (fun _ => 1) ([.plan (narrow homeCall), .restart] ++ [.plan (narrow guestCall)]) := by
    intro d hd
    simp only [List.cons_append, List.nil_append, List.mem_cons, PlanEvent.plan.injEq, reduceCtorEq, List.not_mem_nil,
      or_false, false_or] at hd
    rcases hd with rfl | rfl
    · exact limited_narrow homeCall
    · exact limited_narrow guestCall
  have hradio : Dict.lookup "radio-2g" (narrow guestCall).radios = some { loneRadio with maxApBss := 1 } := rfl
  obtain ⟨-, -, hlength, hwarn⟩ := radio_filled hlimits hradio (by decide) rfl
  refine ⟨hlength.trans (by decide), hwarn "guest" (by decide) (by decide)⟩

end Sbegw.Wifid
