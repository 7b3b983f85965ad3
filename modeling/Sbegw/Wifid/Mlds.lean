import Sbegw.Wifid.Placement

/-!
# The links of an MLD

The BSSes of an SSID are links of the first MLD that names it, on the radios of that MLD: under its address, each with
the number of its radio.  They borrow one netdev exactly when the SSID has the same slot on their radios.
-/

namespace Sbegw.Wifid

open Text Schema

/-! ### The MLDs that are started -/

/-- The MLDs that are looked at, in order. -/
def declared (radios : Radios) (cfg : Obj) : List (String × Json) :=
  Dict.sorted (declareMlds radios (Dict.sorted (wifiNetworks cfg)) (wifiMlds cfg))

theorem planMlds_eq (radios : Radios) (cfg : Obj) :
    planMlds radios cfg = startMlds radios 0 (declared radios cfg) := rfl

/-- What a started MLD is: an entry with two of its radios there, and the first of them with an address. -/
def Starts (radios : Radios) (index : ℕ) (e : String × Json) (m : Mld) : Prop :=
  m.id = e.1 ∧ m.wirelessNetwork = strOf (e.2.getD "wireless_network" .null) ∧ m.radios = linkRadios radios e.2 ∧
    2 ≤ m.radios.length ∧ ∃ primary, primaryMac radios m.radios = some primary ∧
      m.mldMac = mldAddress e.2 primary index

theorem startMlds_cons (radios : Radios) (index : ℕ) (e : String × Json) (rest : List (String × Json)) :
    (startMlds radios index (e :: rest)).1 = (startMlds radios (index + 1) rest).1 ∨
      ∃ m, Starts radios index e m ∧
        (startMlds radios index (e :: rest)).1 = m :: (startMlds radios (index + 1) rest).1 := by
  obtain ⟨mid, mld⟩ := e
  rw [startMlds]
  generalize startMlds radios (index + 1) rest = started
  obtain ⟨mlds, ws⟩ := started
  dsimp only
  split
  · exact .inl rfl
  · split
    · exact .inl rfl
    · next hlen =>
      cases hmac : primaryMac radios (linkRadios radios mld) with
      | none => exact .inl rfl
      | some primary => exact .inr ⟨_, ⟨rfl, rfl, rfl, Nat.le_of_not_lt hlen, primary, hmac, rfl⟩, rfl⟩

theorem mem_startMlds {radios : Radios} {m : Mld} : ∀ {l : List (String × Json)} {index : ℕ},
    m ∈ (startMlds radios index l).1 → ∃ k e, l[k]? = some e ∧ Starts radios (index + k) e m
  | [], _, h => nomatch h
  | e :: rest, index, h => by
    have hlater : m ∈ (startMlds radios (index + 1) rest).1 →
        ∃ k e', (e :: rest)[k]? = some e' ∧ Starts radios (index + k) e' m := by
      intro h
      obtain ⟨k, e', hk, hstarts⟩ := mem_startMlds h
      rw [Nat.add_assoc, Nat.add_comm 1 k] at hstarts
      exact ⟨k + 1, e', hk, hstarts⟩
    rcases startMlds_cons radios index e rest with heq | ⟨m', hstarts, heq⟩
    · rw [heq] at h
      exact hlater h
    · rw [heq] at h
      rcases List.mem_cons.mp h with rfl | h
      · exact ⟨0, e, rfl, hstarts⟩
      · exact hlater h

theorem ids_startMlds (radios : Radios) : ∀ (l : List (String × Json)) (index : ℕ),
    ((startMlds radios index l).1.map Mld.id).Sublist (l.map Prod.fst)
  | [], _ => List.Sublist.refl _
  | e :: rest, index => by
    rcases startMlds_cons radios index e rest with heq | ⟨m, hstarts, heq⟩
    · rw [heq]
      exact (ids_startMlds radios rest _).cons _
    · rw [heq, List.map_cons, hstarts.1]
      exact (ids_startMlds radios rest _).cons_cons _

theorem nodup_declareMlds (radios : Radios) : ∀ (networks : List (String × Json)) {d : Obj}, d.keys.Nodup →
    (Dict.keys (declareMlds radios networks d)).Nodup
  | [], _, h => h
  | (wnid, wnet) :: rest, d, h => by
    rw [declareMlds]
    refine nodup_declareMlds radios rest ?_
    split
    · exact Dict.nodup_keys_set _ _ h
    · exact h

/-- No two MLDs of a plan have one id. -/
theorem nodup_ids (radios : Radios) {cfg : Obj} (h : (wifiMlds cfg).keys.Nodup) :
    ((planMlds radios cfg).1.map Mld.id).Nodup := by
  refine (ids_startMlds radios (declared radios cfg) 0).nodup ?_
  have hperm := (List.perm_insertionSort (fun a b : String × Json => a.1 ≤ b.1)
    (declareMlds radios (Dict.sorted (wifiNetworks cfg)) (wifiMlds cfg))).map Prod.fst
  exact hperm.nodup_iff.mpr (nodup_declareMlds radios _ h)

theorem mem_linkRadios {radios : Radios} {mld : Json} {rid : String} (h : rid ∈ linkRadios radios mld) :
    (Dict.lookup rid radios).isSome = true := by
  unfold linkRadios at h
  split at h
  · exact (List.mem_filter.mp h).2
  · cases h

/-! ### A link -/

/-- The number of the radio in the MLD. -/
theorem getElem?_idxOf {rid : String} : ∀ {rids : List String}, rid ∈ rids → rids[rids.idxOf rid]? = some rid
  | rids, h => by
    rw [List.getElem?_eq_getElem (List.idxOf_lt_length_of_mem h), List.getElem_idxOf]

/-- What the BSS of a radio says of its MLD. -/
structure LinkOf (m : Mld) (rid : String) (b : PlannedBss) (l : MldLink) : Prop where
  network : m.wirelessNetwork = b.wirelessNetwork
  radio : rid ∈ m.radios
  id : l.id = m.id
  mac : l.mldMac = m.mldMac
  number : l.linkId = m.radios.idxOf rid

section Link

variable {radios : Radios} {cfg : Obj} {limit : String → ℕ} {vs : List Visit} {s : Placed} {rid : String}
  {b : PlannedBss}

/-- The links are those of the first MLD that names the SSID. -/
theorem link_of_made (h : Made radios cfg vs rid b) {l : MldLink} (hl : b.mld = some l) :
    ∃ m, mldOf (planMlds radios cfg).1 b.wirelessNetwork = some m ∧ LinkOf m rid b l ∧
      b.netdev = some (ifaceName (anchorRadio radios m.radios) b.slot) := by
  obtain ⟨v, -, -, rfl, heq⟩ := h
  have hnet : b.wirelessNetwork = v.1.1 := congrArg PlannedBss.wirelessNetwork heq
  have hmld := congrArg PlannedBss.mld heq
  have hdev := congrArg PlannedBss.netdev heq
  rw [hl, ← hnet] at hmld
  rw [← hnet] at hdev
  simp only [bssOf] at hmld hdev
  cases hm : (mldOf (planMlds radios cfg).1 b.wirelessNetwork).filter fun m => m.radios.contains v.2.1 with
  | none =>
    rw [hm] at hmld
    cases hmld
  | some m =>
    rw [hm] at hmld hdev
    obtain ⟨hfirst, hin⟩ := Option.filter_eq_some_iff.mp hm
    obtain rfl := Option.some.inj hmld
    refine ⟨m, hfirst, ⟨?_, List.contains_iff_mem.mp hin, rfl, rfl, rfl⟩, hdev⟩
    exact of_decide_eq_true (List.find?_some (p := fun m : Mld => m.wirelessNetwork = b.wirelessNetwork) hfirst)

/-- A BSS of an SSID on a radio of its MLD is a link. -/
theorem isSome_link (h : Made radios cfg vs rid b) {m : Mld}
    (hm : mldOf (planMlds radios cfg).1 b.wirelessNetwork = some m) (hin : rid ∈ m.radios) : b.mld.isSome = true := by
  obtain ⟨v, -, -, rfl, heq⟩ := h
  have hnet : b.wirelessNetwork = v.1.1 := congrArg PlannedBss.wirelessNetwork heq
  rw [congrArg PlannedBss.mld heq]
  show (((mldOf (planMlds radios cfg).1 v.1.1).filter fun m => m.radios.contains v.2.1).map _).isSome = true
  rw [← hnet, hm, Option.filter_some, if_pos (List.contains_iff_mem.mpr hin)]
  rfl

end Link

/-! ### Plans -/

section Plan

variable {c : PlanCall} {limit : String → ℕ} {slots : Allocator} {rid rid' : String} {b b' : PlannedBss}

/-- A BSS on a radio is made there, and the only one of its SSID. -/
theorem made_of_placed (hlimit : Limited limit c.radios) (h : slots.Allocates limit)
    (hb : b ∈ bssesOn (placed c.radios c.cfg slots).links rid) : Made c.radios c.cfg (visits c.radios c.cfg) rid b :=
  ((placing_placed c hlimit h).held rid b hb).2

theorem eq_of_network (hlimit : Limited limit c.radios) (h : slots.Allocates limit)
    (hb : b ∈ bssesOn (placed c.radios c.cfg slots).links rid)
    (hb' : b' ∈ bssesOn (placed c.radios c.cfg slots).links rid) (hnet : b.wirelessNetwork = b'.wirelessNetwork) :
    b = b' :=
  List.inj_on_of_nodup_map ((placing_placed c hlimit h).nodup rid) hb hb' hnet

/-- The MLD of a link is one of the plan, on two radios of the probe at least. -/
theorem mld_of_link {m : Mld} (hm : mldOf (planMlds c.radios c.cfg).1 b.wirelessNetwork = some m) :
    m ∈ (planMlds c.radios c.cfg).1 ∧ 2 ≤ m.radios.length ∧
      ∀ rid ∈ m.radios, (Dict.lookup rid c.radios).isSome = true := by
  have hin : m ∈ (planMlds c.radios c.cfg).1 := List.mem_of_find?_eq_some hm
  refine ⟨hin, ?_⟩
  rw [planMlds_eq] at hin
  obtain ⟨k, e, -, -, -, hradios, hlen, -⟩ := mem_startMlds hin
  refine ⟨hlen, fun rid hrid => ?_⟩
  rw [hradios] at hrid
  exact mem_linkRadios hrid

/-- Two links of one MLD: the SSID is the same, and they differ in radio and number, or not at all. -/
theorem links_agree (hlimit : Limited limit c.radios) (h : slots.Allocates limit)
    (hids : (wifiMlds c.cfg).keys.Nodup) (hb : b ∈ bssesOn (placed c.radios c.cfg slots).links rid)
    (hb' : b' ∈ bssesOn (placed c.radios c.cfg slots).links rid') {l l' : MldLink} (hl : b.mld = some l)
    (hl' : b'.mld = some l') (hid : l.id = l'.id) :
    b.wirelessNetwork = b'.wirelessNetwork ∧ l.mldMac = l'.mldMac ∧ (l.linkId = l'.linkId ↔ b = b') ∧
      (b.netdev = b'.netdev ↔ b.slot = b'.slot) := by
  obtain ⟨m, hm, hlink, hdev⟩ := link_of_made (made_of_placed hlimit h hb) hl
  obtain ⟨m', hm', hlink', hdev'⟩ := link_of_made (made_of_placed hlimit h hb') hl'
  have hsame : m = m' := by
    refine List.inj_on_of_nodup_map (nodup_ids c.radios hids) (mld_of_link hm).1 (mld_of_link hm').1 ?_
    exact hlink.id.symm.trans (hid.trans hlink'.id)
  subst hsame
  have hnet : b.wirelessNetwork = b'.wirelessNetwork := hlink.network.symm.trans hlink'.network
  refine ⟨hnet, hlink.mac.trans hlink'.mac.symm, ⟨fun hnum => ?_, fun heq => ?_⟩, ?_⟩
  · rw [hlink.number, hlink'.number] at hnum
    obtain rfl : rid = rid' := (List.idxOf_inj hlink.radio).mp hnum
    exact eq_of_network hlimit h hb hb' hnet
  · subst heq
    rw [hl] at hl'
    rw [Option.some.inj hl']
  · rw [hdev, hdev', Option.some.injEq]
    exact ⟨ifaceName_inj, fun hslot => by rw [hslot]⟩

end Plan

/-- **The BSSes of an SSID that has an MLD are links of that MLD**: each on a radio of it, under its address and with
the number of the radio.  Two of them differ in their numbers, and borrow one netdev exactly when the SSID has the same
slot on both radios. -/
theorem mld_links {limit : String → ℕ} {events : List PlanEvent} {c : PlanCall}
    (h : LimitedRun limit (events ++ [.plan c])) (hids : (wifiMlds c.cfg).keys.Nodup) {rid rid' : String}
    {b b' : PlannedBss} (hb : b ∈ bssesOn (planAfter [] events c).links rid)
    (hb' : b' ∈ bssesOn (planAfter [] events c).links rid') :
    (∀ m, mldOf (planAfter [] events c).mlds b.wirelessNetwork = some m → (b.mld.isSome = true ↔ rid ∈ m.radios)) ∧
    (∀ l, b.mld = some l → ∃ m ∈ (planAfter [] events c).mlds, LinkOf m rid b l ∧ 2 ≤ m.radios.length ∧
      ∀ r ∈ m.radios, (Dict.lookup r c.radios).isSome = true) ∧
    ∀ l l', b.mld = some l → b'.mld = some l' → l.id = l'.id →
      b.wirelessNetwork = b'.wirelessNetwork ∧ l.mldMac = l'.mldMac ∧ (l.linkId = l'.linkId ↔ b = b') ∧
        (b.netdev = b'.netdev ↔ b.slot = b'.slot) := by
  have hlimit : Limited limit c.radios := h c (List.mem_append_right _ List.mem_cons_self)
  have hslots := @allocates_run _ events fun d hd => h d (List.mem_append_left _ hd)
  rw [planAfter, buildPlan_eq] at hb hb'
  have hmade := made_of_placed hlimit hslots hb
  rw [planAfter, buildPlan_eq]
  refine ⟨fun m hm => ⟨fun hsome => ?_, isSome_link hmade hm⟩, fun l hl => ?_, fun l l' hl hl' =>
    links_agree hlimit hslots hids hb hb' hl hl'⟩
  · obtain ⟨l, hl⟩ := Option.isSome_iff_exists.mp hsome
    obtain ⟨m', hm', hlink, -⟩ := link_of_made hmade hl
    obtain rfl := Option.some.inj (hm.symm.trans hm')
    exact hlink.radio
  · obtain ⟨m, hm, hlink, -⟩ := link_of_made hmade hl
    obtain ⟨hin, hlen, hthere⟩ := mld_of_link hm
    exact ⟨m, hin, hlink, hlen, hthere⟩

theorem nodup_twoRadios : (Dict.keys twoRadios).Nodup := by decide

theorem nodup_mloDoc : (Dict.keys (wifiNetworks (mloDoc "wpa3" "required"))).Nodup := by decide

/-- The SSID of two bands on the wiphy of two radios. -/
def mloCall : PlanCall := ⟨twoRadios, mloDoc "wpa3" "required", nodup_twoRadios, nodup_mloDoc⟩

theorem limited_mloCall : LimitedRun (fun _ => 8) ([] ++ [.plan mloCall]) := by
  intro d hd
  obtain rfl : d = mloCall := PlanEvent.plan.inj (List.mem_singleton.mp hd)
  show ∀ e ∈ twoRadios, e.2.maxApBss = 8
  decide

/-- Its BSS on a radio of a band. -/
def mloBss (rid : String) (r : Radio) : PlannedBss :=
  bssOf twoRadios (mldOf (planMlds twoRadios mloCall.cfg).1 "home") "home"
    ((Dict.lookup "home" (wifiNetworks mloCall.cfg)).getD .null) rid r 0

def mloBss2g : PlannedBss :=
  mloBss "radio-2g" ⟨⟨"2g", [20, 40], [1, 6, 11], false⟩, some ⟨0, 3, 127, 0, 0, 16⟩, true, 8⟩

def mloBss5g : PlannedBss :=
  mloBss "radio-5g" ⟨⟨"5g", [20, 40, 80], [36, 40, 44, 48], false⟩, some ⟨0, 3, 127, 0, 0, 16⟩, true, 8⟩

theorem planned_mlo : mloBss2g ∈ bssesOn (planAfter [] [] mloCall).links "radio-2g" ∧
    mloBss5g ∈ bssesOn (planAfter [] [] mloCall).links "radio-5g" := by decide

theorem linked_mlo : ∃ l l', mloBss2g.mld = some l ∧ mloBss5g.mld = some l' ∧ l.id = "mlo-home" ∧
    l'.id = "mlo-home" := by
  have hids : mloBss2g.mld.map MldLink.id = some "mlo-home" ∧ mloBss5g.mld.map MldLink.id = some "mlo-home" := by
    decide
  obtain ⟨l, hl, hid⟩ := Option.map_eq_some_iff.mp hids.1
  obtain ⟨l', hl', hid'⟩ := Option.map_eq_some_iff.mp hids.2
  exact ⟨l, l', hl, hl', hid, hid'⟩

/-- Both are links of the MLD that the flag stands for, and have one netdev. -/
theorem mld_links_mlo : ∃ l l', mloBss2g.mld = some l ∧ mloBss5g.mld = some l' ∧ l.id = "mlo-home" ∧
    l.mldMac = l'.mldMac ∧ l.linkId ≠ l'.linkId ∧ mloBss2g.netdev = mloBss5g.netdev := by
  obtain ⟨-, -, hpair⟩ := mld_links limited_mloCall (by decide) planned_mlo.1 planned_mlo.2
  obtain ⟨l, l', hl, hl', hid, hid'⟩ := linked_mlo
  obtain ⟨-, hmac, hnum, hdev⟩ := hpair l l' hl hl' (hid.trans hid'.symm)
  refine ⟨l, l', hl, hl', hid, hmac, fun heq => ?_, hdev.mpr rfl⟩
  exact absurd (congrArg PlannedBss.radio (hnum.mp heq)) (by decide)

end Sbegw.Wifid
