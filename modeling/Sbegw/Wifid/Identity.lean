import Sbegw.Wifid.Secure
import Sbegw.Wifid.Stations

/-!
# Who a BSS is

The slot of an SSID on a radio decides the name of its netdev and its BSSID.  Slots outlive restarts, but not a
probe that misses the radio: the next plan prunes them, and the SSIDs get new ones when the radio is back.
-/

namespace Sbegw.Wifid

open Text Schema

/-! ### Runs of `build_plan` -/

/-- One call: what the probe has found, and the document.  No dictionary has a key twice. -/
structure PlanCall where
  radios : Radios
  cfg : Obj
  radiosNodup : (Dict.keys radios).Nodup
  networksNodup : (Dict.keys (wifiNetworks cfg)).Nodup

/-- A call, or a new process that reads the slot file. -/
inductive PlanEvent
  | plan (c : PlanCall)
  | restart

def Allocator.event (a : Allocator) : PlanEvent → Allocator
  | .plan c => (buildPlan c.radios c.cfg a).2
  | .restart => a.restart

def Allocator.after (a : Allocator) (events : List PlanEvent) : Allocator := events.foldl Allocator.event a

/-- A process that has read the slot file. -/
def Allocator.load (file : SlotMap) : Allocator := ⟨file, file⟩

/-- The plan has the BSS for the SSID on the radio. -/
def Plans (p : WifiPlan) (rid wnid : String) (b : PlannedBss) : Prop :=
  b.radio = rid ∧ b.wirelessNetwork = wnid ∧ ((∃ e ∈ p.bsses, e.2 = b) ∨ ∃ e ∈ p.links, b ∈ e.2.bsses)

/-- The names of a BSS and its address. -/
def identityOf (b : PlannedBss) : String × String × Mac := (b.interface, netdevOf b, b.bssid)

/-- The SSID is in every document, and the same. -/
def Stays (wnid : String) (wnet : Json) (events : List PlanEvent) : Prop :=
  ∀ c, .plan c ∈ events → Dict.lookup wnid (wifiNetworks c.cfg) = some wnet

/-- The radio whose name the MLD of the SSID has, for a link on this radio. -/
def anchorOf (c : PlanCall) (rid wnid : String) : Option String :=
  ((mldOf (planMlds c.radios c.cfg).1 wnid).filter fun m => m.radios.contains rid).map fun m =>
    anchorRadio c.radios m.radios

/-- No probe between the two calls misses the radio, and both find it with the same address, as many radios
of this address before it, and the same radio to borrow a name from. -/
structure Settled (c : PlanCall) (between : List PlanEvent) (c' : PlanCall) (rid wnid : String) : Prop where
  present : ∀ d, .plan d ∈ between →
    ∃ r r', Dict.lookup rid c.radios = some r ∧ Dict.lookup rid d.radios = some r' ∧ r'.band = r.band
  address : ∀ r r', Dict.lookup rid c.radios = some r → Dict.lookup rid c'.radios = some r' → r'.address = r.address
  ordinal : Dict.lookup rid (radioOrdinals c'.radios) = Dict.lookup rid (radioOrdinals c.radios)
  anchor : anchorOf c' rid wnid = anchorOf c rid wnid

/-! ### What one call plans -/

/-- The slot of every BSS placed so far is the one that is kept for it. -/
def Slotted (s : Placed) : Prop :=
  ∀ b, ((∃ e ∈ s.bsses, e.2 = b) ∨ ∃ e ∈ s.links, b ∈ e.2.bsses) →
    Dict.lookup b.wirelessNetwork (s.slots.of b.radio) = some b.slot

/-- What placing leaves: BSSes in their slots, and no slot lost. -/
structure Places (s s' : Placed) : Prop where
  slotted : Slotted s → Slotted s'
  grows : Grows s.slots s'.slots

theorem Places.refl (s : Placed) : Places s s := ⟨id, .refl _⟩

theorem Places.trans {s s' s'' : Placed} (h : Places s s') (h' : Places s' s'') : Places s s'' :=
  ⟨h'.slotted ∘ h.slotted, h.grows.trans h'.grows⟩

/-- Nothing is placed, but the allocator may have been asked. -/
theorem Places.of_grows {s s' : Placed} (hbsses : s'.bsses = s.bsses) (hlinks : s'.links = s.links)
    (hgrows : Grows s.slots s'.slots) : Places s s' := by
  refine ⟨fun h b hb => ?_, hgrows⟩
  rw [hbsses, hlinks] at hb
  exact hgrows.slots _ _ _ (h b hb)

/-- A BSS is placed in the slot that is its own. -/
theorem Places.of_add {s : Placed} {slots : Allocator} {config : Obj} {b : PlannedBss} (hgrows : Grows s.slots slots)
    (hslot : Dict.lookup b.wirelessNetwork (slots.of b.radio) = some b.slot) :
    Places s ({ s with slots }.add config b) := by
  refine ⟨fun h b' hb' => ?_, hgrows⟩
  show Dict.lookup b'.wirelessNetwork (slots.of b'.radio) = some b'.slot
  have hold : ((∃ e ∈ s.bsses, e.2 = b') ∨ ∃ e ∈ s.links, b' ∈ e.2.bsses) →
      Dict.lookup b'.wirelessNetwork (slots.of b'.radio) = some b'.slot := fun hin => hgrows.slots _ _ _ (h b' hin)
  rcases hb' with ⟨e, he, rfl⟩ | ⟨e, he, hin⟩
  · rcases Dict.mem_set he with rfl | he
    · exact hslot
    · exact hold (.inl ⟨e, he, rfl⟩)
  · rcases Dict.mem_set he with rfl | he
    · rcases List.mem_append.mp hin with hin | hin
      · cases hlink : Dict.lookup b.radio s.links with
        | none =>
          rw [hlink] at hin
          cases hin
        | some link =>
          rw [hlink] at hin
          exact hold (.inr ⟨_, Dict.mem_of_lookup hlink, hin⟩)
      · rw [List.mem_singleton.mp hin]
        exact hslot
    · exact hold (.inr ⟨e, he, hin⟩)

theorem places_placeOn (radios : Radios) (cfg : Obj) (mld : Option Mld) (wnid : String) (wnet : Json) (s : Placed)
    (e : String × Radio) : Places s (placeOn radios cfg mld wnid wnet s e) := by
  obtain ⟨rid, r⟩ := e
  unfold placeOn
  simp only
  split
  · exact .refl s
  · split
    · exact .refl s
    · split
      · exact .of_grows rfl rfl (.refl _)
      · cases hslot : (s.slots.slot rid wnid r.maxApBss).1 with
        | none => exact .of_grows rfl rfl (grows_slot _ _ _ _)
        | some n => exact .of_add (grows_slot _ _ _ _) (slot_eq_some hslot).2

theorem places_placeNetwork (radios : Radios) (cfg : Obj) (mlds : List Mld) (s : Placed) (e : String × Json) :
    Places s (placeNetwork radios cfg mlds s e) := by
  rw [placeNetwork]
  split
  · exact List.foldlRecOn _ _ (.refl s) fun s' h x _ => h.trans (places_placeOn _ _ _ _ _ s' x)
  · exact .refl s

/-- What a call leaves: the slots that its pruning has left, and those it has given. -/
theorem places_buildPlan (radios : Radios) (cfg : Obj) (slots : Allocator) :
    Places ⟨slots.prune (liveNetworks radios cfg), [], [], (planMlds radios cfg).2⟩
      ((Dict.sorted (wifiNetworks cfg)).foldl (placeNetwork radios cfg (planMlds radios cfg).1)
        ⟨slots.prune (liveNetworks radios cfg), [], [], (planMlds radios cfg).2⟩) :=
  List.foldlRecOn _ _ (.refl _) fun s' h x _ => h.trans (places_placeNetwork radios cfg _ s' x)

/-- A planned BSS has the slot that is kept for its SSID on its radio. -/
theorem slot_of_plans {radios : Radios} {cfg : Obj} {slots : Allocator} {rid wnid : String} {b : PlannedBss}
    (h : Plans (buildPlan radios cfg slots).1 rid wnid b) :
    Dict.lookup wnid ((buildPlan radios cfg slots).2.of rid) = some b.slot := by
  obtain ⟨rfl, rfl, hin⟩ := h
  refine (places_buildPlan radios cfg slots).slotted ?_ b hin
  rintro b' (⟨e, he, -⟩ | ⟨e, he, -⟩)
  · cases he
  · cases he

/-- A call keeps the slots of the SSIDs that are live. -/
theorem lookup_buildPlan {radios : Radios} {cfg : Obj} {slots : Allocator} {rid wnid : String} {n : ℕ}
    {names : List String} (h : Dict.lookup wnid (slots.of rid) = some n)
    (hlive : Dict.lookup rid (liveNetworks radios cfg) = some names) (hin : wnid ∈ names) :
    Dict.lookup wnid ((buildPlan radios cfg slots).2.of rid) = some n :=
  (places_buildPlan radios cfg slots).grows.slots rid wnid n (lookup_prune h hlive hin)

theorem agrees_buildPlan {radios : Radios} {cfg : Obj} {slots : Allocator} (h : slots.Agrees) :
    (buildPlan radios cfg slots).2.Agrees :=
  (places_buildPlan radios cfg slots).grows.agrees (agrees_prune h _)

/-! ### What an identity is made of -/

/-- The names and the address for a slot. -/
def identityFor (c : PlanCall) (rid wnid : String) (r : Radio) (slot : ℕ) : String × String × Mac :=
  (ifaceName rid slot,
    (((anchorOf c rid wnid).map fun anchor => ifaceName anchor slot).filter fun s => s ≠ "").getD (ifaceName rid slot),
    bssid r.address slot ((Dict.lookup rid (radioOrdinals c.radios)).getD 0))

/-- A planned BSS: its radio and SSID, and what follows from its slot. -/
theorem identity_of_plans {c : PlanCall} {slots : Allocator} {rid wnid : String} {b : PlannedBss}
    (h : Plans (buildPlan c.radios c.cfg slots).1 rid wnid b) :
    ∃ r wnet, Dict.lookup rid c.radios = some r ∧ Dict.lookup wnid (wifiNetworks c.cfg) = some wnet ∧
      isEnabled wnet = true ∧ selectsBand wnet r.band = true ∧ identityOf b = identityFor c rid wnid r b.slot := by
  obtain ⟨rfl, rfl, hin⟩ := h
  have horigin : Origin c.radios c.cfg (planMlds c.radios c.cfg).1 b := by
    obtain ⟨hbsses, hlinks⟩ := placedFrom_buildPlan c.radios c.cfg slots
    rcases hin with ⟨e, he, rfl⟩ | ⟨e, he, hb⟩
    · exact hbsses e he
    · exact ((hlinks e he).2 b hb).2
  obtain ⟨wnet, r, slot, hnet, hon, hradio, hband, heq⟩ := horigin
  refine ⟨r, wnet, Dict.lookup_of_mem c.radiosNodup hradio, Dict.lookup_of_mem c.networksNodup hnet, hon, hband, ?_⟩
  have hslot : b.slot = slot := congrArg PlannedBss.slot heq
  rw [hslot, identityOf, netdevOf, identityFor, anchorOf, Option.map_map]
  refine Prod.ext (congrArg PlannedBss.interface heq) (Prod.ext ?_ (congrArg PlannedBss.bssid heq))
  rw [congrArg PlannedBss.netdev heq, congrArg PlannedBss.interface heq]
  rfl

/-- An SSID that is enabled is live on a radio of its bands. -/
theorem live_of_selects {c : PlanCall} {rid wnid : String} {r : Radio} {wnet : Json}
    (hradio : Dict.lookup rid c.radios = some r) (hnet : Dict.lookup wnid (wifiNetworks c.cfg) = some wnet)
    (hon : isEnabled wnet = true) (hband : selectsBand wnet r.band = true) :
    ∃ names, Dict.lookup rid (liveNetworks c.radios c.cfg) = some names ∧ wnid ∈ names := by
  rw [liveNetworks, Dict.lookup_map_val fun r : Radio =>
    ((wifiNetworks c.cfg).filter fun n => isEnabled n.2 && selectsBand n.2 r.band).map Prod.fst, hradio]
  refine ⟨_, rfl, List.mem_map.mpr ⟨(wnid, wnet), List.mem_filter.mpr ⟨Dict.mem_of_lookup hnet, ?_⟩, rfl⟩⟩
  rw [hon, hband]
  rfl

/-! ### Runs -/

theorem agrees_event {a : Allocator} (h : a.Agrees) (e : PlanEvent) : (a.event e).Agrees := by
  cases e with
  | plan c => exact agrees_buildPlan h
  | restart => exact fun _ => rfl

theorem agrees_after {a : Allocator} (h : a.Agrees) (events : List PlanEvent) : (a.after events).Agrees :=
  List.foldlRecOn _ _ h fun _ h e _ => agrees_event h e

/-- A slot is kept by every event at which the radio is there and the SSID is as it was. -/
theorem lookup_after {rid wnid : String} {n : ℕ} {r : Radio} {wnet : Json} (hon : isEnabled wnet = true)
    (hband : selectsBand wnet r.band = true) (events : List PlanEvent) {a : Allocator} (ha : a.Agrees)
    (hstays : Stays wnid wnet events)
    (hpresent : ∀ c, .plan c ∈ events → ∃ r', Dict.lookup rid c.radios = some r' ∧ r'.band = r.band)
    (h : Dict.lookup wnid (a.of rid) = some n) : Dict.lookup wnid ((a.after events).of rid) = some n := by
  induction events generalizing a with
  | nil => exact h
  | cons e events ih =>
    refine ih (agrees_event ha e) (fun c hc => hstays c (List.mem_cons_of_mem e hc))
      (fun c hc => hpresent c (List.mem_cons_of_mem e hc)) ?_
    cases e with
    | restart =>
      show Dict.lookup wnid (a.restart.of rid) = some n
      rw [of_restart ha]
      exact h
    | plan c =>
      obtain ⟨r', hr', hsame⟩ := hpresent c List.mem_cons_self
      obtain ⟨names, hlive, hin⟩ := live_of_selects hr' (hstays c List.mem_cons_self) hon (hsame ▸ hband)
      exact lookup_buildPlan h hlive hin

/-- The plan that a call makes after the events. -/
def planAfter (file : SlotMap) (events : List PlanEvent) (c : PlanCall) : WifiPlan :=
  (buildPlan c.radios c.cfg ((Allocator.load file).after events)).1

theorem after_append (a : Allocator) (events events' : List PlanEvent) :
    a.after (events ++ events') = (a.after events).after events' := List.foldl_append

/-- **An SSID keeps its netdev and its BSSID on a radio** while no probe misses the radio, and whatever else the
identity is made of is found as it was: over every run, with every slot file to begin with. -/
theorem identity_stable (file : SlotMap) (before between : List PlanEvent) (c c' : PlanCall) (rid wnid : String)
    (wnet : Json) (hstays : Stays wnid wnet (.plan c :: between ++ [.plan c']))
    (hsettled : Settled c between c' rid wnid) (b b' : PlannedBss) (hb : Plans (planAfter file before c) rid wnid b)
    (hb' : Plans (planAfter file (before ++ .plan c :: between) c') rid wnid b') : identityOf b = identityOf b' := by
  have hagrees : ((Allocator.load file).after before).Agrees := agrees_after (fun _ => rfl) before
  obtain ⟨r, w, hr, hw, hon, hband, hid⟩ := identity_of_plans hb
  obtain ⟨r', w', hr', hw', hon', hband', hid'⟩ := identity_of_plans hb'
  obtain rfl : w = wnet := Option.some.inj (hw.symm.trans (hstays c (by simp)))
  obtain rfl : w' = w := Option.some.inj (hw'.symm.trans (hstays c' (by simp)))
  have hbetween : Stays wnid w' between := fun d hd => hstays d (by simp [hd])
  have hpresent : ∀ d, .plan d ∈ between → ∃ r'', Dict.lookup rid d.radios = some r'' ∧ r''.band = r.band := by
    intro d hd
    obtain ⟨r₀, r'', h₀, hd, hsame⟩ := hsettled.present d hd
    obtain rfl := Option.some.inj (h₀.symm.trans hr)
    exact ⟨r'', hd, hsame⟩
  have hkept := lookup_after hon hband between (agrees_event hagrees (.plan c)) hbetween hpresent (slot_of_plans hb)
  obtain ⟨names, hlive, hin⟩ := live_of_selects hr' hw' hon' hband'
  have hslot : b.slot = b'.slot := by
    have hlast := slot_of_plans hb'
    rw [after_append] at hlast
    exact Option.some.inj ((lookup_buildPlan hkept hlive hin).symm.trans hlast)
  rw [hid, hid', hslot, identityFor, identityFor, hsettled.anchor, hsettled.ordinal, hsettled.address r r' hr hr']

/-! ### A guest network -/

/-- A radio of its own wiphy. -/
def loneRadio : Radio := ⟨⟨"2g", [20, 40], [1, 6, 11], false⟩, some ⟨0, 3, 127, 0, 0, 16⟩, true, 8⟩

def openSsid (name : String) : Json := plainSsid name ["2g"] false [("mode", .str "open")]

/-- The home network alone. -/
def homeCall : PlanCall where
  radios := [("radio-2g", loneRadio)]
  cfg := withSsids [("home", openSsid "Home")]
  radiosNodup := by decide
  networksNodup := by decide

/-- A guest network is added. -/
def guestCall : PlanCall where
  radios := [("radio-2g", loneRadio)]
  cfg := withSsids [("guest", openSsid "Guest"), ("home", openSsid "Home")]
  radiosNodup := by decide
  networksNodup := by decide

/-- The probe misses the radio. -/
def missedCall : PlanCall := { guestCall with radios := [], radiosNodup := List.nodup_nil }

/-- The BSS of the home network. -/
def homeIn (slot : ℕ) : PlannedBss :=
  bssOf [("radio-2g", loneRadio)] none "home" (openSsid "Home") "radio-2g" loneRadio slot

theorem lookup_home : Dict.lookup "home" (wifiNetworks homeCall.cfg) = some (openSsid "Home") ∧
    Dict.lookup "home" (wifiNetworks guestCall.cfg) = some (openSsid "Home") := by decide

/-- The home network is in every document of the runs below. -/
theorem stays_home {events : List PlanEvent}
    (h : ∀ c, .plan c ∈ events → c.cfg = homeCall.cfg ∨ c.cfg = guestCall.cfg) :
    Stays "home" (openSsid "Home") events := by
  intro c hc
  rcases h c hc with heq | heq
  · rw [heq]
    exact lookup_home.1
  · rw [heq]
    exact lookup_home.2

/-- After a probe that misses the radio, the home network is what the guest network was. -/
theorem missed_radio_renumbers : ¬ ∀ file before between c c' rid wnid wnet,
    Stays wnid wnet (.plan c :: between ++ [.plan c']) → ∀ b b', Plans (planAfter file before c) rid wnid b →
    Plans (planAfter file (before ++ .plan c :: between) c') rid wnid b' → identityOf b = identityOf b' := by
  intro h
  have hfirst : Plans (planAfter [] [] homeCall) "radio-2g" "home" (homeIn 0) :=
    ⟨rfl, rfl, .inr (by decide)⟩
  have hlast : Plans (planAfter [] [.plan homeCall, .plan guestCall, .plan missedCall] guestCall) "radio-2g" "home"
      (homeIn 1) := ⟨rfl, rfl, .inr (by decide)⟩
  have hstays : Stays "home" (openSsid "Home")
      [.plan homeCall, .plan guestCall, .plan missedCall, .plan guestCall] := by
    refine stays_home fun c hc => ?_
    simp only [List.mem_cons, PlanEvent.plan.injEq, List.not_mem_nil, or_false] at hc
    rcases hc with rfl | rfl | rfl | rfl
    · exact .inl rfl
    · exact .inr rfl
    · exact .inr rfl
    · exact .inr rfl
  have hsame := h [] [] [.plan guestCall, .plan missedCall] homeCall guestCall "radio-2g" "home" (openSsid "Home")
    hstays (homeIn 0) (homeIn 1) hfirst hlast
  exact absurd hsame (by decide)

/-- The guest network is added and the daemon restarted, and the radio is there all the time. -/
theorem identity_stable_guest :
    (Dict.lookup "wl2g0" (planAfter [] [] homeCall).bsses).map identityOf =
      (Dict.lookup "wl2g0" (planAfter [] [.plan homeCall, .plan guestCall, .restart] guestCall).bsses).map
        identityOf := by
  have hfirst : Dict.lookup "wl2g0" (planAfter [] [] homeCall).bsses = some (homeIn 0) := by decide
  have hlast : Dict.lookup "wl2g0" (planAfter [] [.plan homeCall, .plan guestCall, .restart] guestCall).bsses =
      some (homeIn 0) := by decide
  have hstays : Stays "home" (openSsid "Home") [.plan homeCall, .plan guestCall, .restart, .plan guestCall] := by
    refine stays_home fun c hc => ?_
    simp only [List.mem_cons, PlanEvent.plan.injEq, reduceCtorEq, List.not_mem_nil, or_false, false_or] at hc
    rcases hc with rfl | rfl | rfl
    · exact .inl rfl
    · exact .inr rfl
    · exact .inr rfl
  have hsettled : Settled homeCall [.plan guestCall, .restart] guestCall "radio-2g" "home" := by
    refine ⟨fun d hd => ?_, fun r r' hr hr' => ?_, rfl, by decide⟩
    · simp only [List.mem_cons, PlanEvent.plan.injEq, reduceCtorEq, List.not_mem_nil, or_false] at hd
      rw [hd]
      exact ⟨loneRadio, loneRadio, rfl, rfl, rfl⟩
    · rw [Option.some.inj (hr.symm.trans hr')]
  have hsame := identity_stable [] [] [.plan guestCall, .restart] homeCall guestCall "radio-2g" "home" (openSsid "Home")
    hstays hsettled (homeIn 0) (homeIn 0) ⟨rfl, rfl, .inl ⟨_, Dict.mem_of_lookup hfirst, rfl⟩⟩
    ⟨rfl, rfl, .inl ⟨_, Dict.mem_of_lookup hlast, rfl⟩⟩
  calc (Dict.lookup "wl2g0" (planAfter [] [] homeCall).bsses).map identityOf
      = some (identityOf (homeIn 0)) := congrArg (Option.map identityOf) hfirst
    _ = some (identityOf (homeIn 0)) := congrArg some hsame
    _ = _ := (congrArg (Option.map identityOf) hlast).symm

end Sbegw.Wifid
