import Sbegw.Wifid.Plan
import Sbegw.Schema.Wireless
import Sbegw.Hostapd.Security

/-!
# The security of planned BSSes

Validation asks for strong security on 6 GHz and on the SSIDs of explicit MLDs; the planner also makes
MLDs out of `mlo` flags, for which nothing was asked.
-/

namespace Sbegw.Wifid

open Text Schema Hostapd

/-! ### Where a BSS comes from -/

/-- A BSS of an enabled SSID on a radio of one of its bands. -/
def Origin (radios : Radios) (cfg : Obj) (mlds : List Mld) (b : PlannedBss) : Prop :=
  ∃ wnet r slot, (b.wirelessNetwork, wnet) ∈ wifiNetworks cfg ∧ isEnabled wnet = true ∧
    (b.radio, r) ∈ radios ∧ selectsBand wnet r.band = true ∧
    b = bssOf radios (mldOf mlds b.wirelessNetwork) b.wirelessNetwork wnet b.radio r slot

/-- Everything placed so far has an origin. -/
structure PlacedFrom (radios : Radios) (cfg : Obj) (mlds : List Mld) (s : Placed) : Prop where
  bsses : ∀ e ∈ s.bsses, Origin radios cfg mlds e.2
  links : ∀ e ∈ s.links, e.2.config = radioConfig cfg e.1 ∧
    ∀ b ∈ e.2.bsses, b.radio = e.1 ∧ Origin radios cfg mlds b

section Place

variable {radios : Radios} {cfg : Obj} {mlds : List Mld}

theorem mem_sorted {α : Type} {e : String × α} {d : Dict String α} : e ∈ Dict.sorted d ↔ e ∈ d := by
  unfold Dict.sorted
  exact List.mem_insertionSort _

theorem placedFrom_add {s : Placed} (h : PlacedFrom radios cfg mlds s) {b : PlannedBss}
    (hb : Origin radios cfg mlds b) (slots : Allocator) :
    PlacedFrom radios cfg mlds ({ s with slots }.add (radioConfig cfg b.radio) b) := by
  -- the link it joins
  have hlink : ((Dict.lookup b.radio s.links).getD ⟨radioConfig cfg b.radio, []⟩).config =
        radioConfig cfg b.radio ∧
      ∀ b' ∈ ((Dict.lookup b.radio s.links).getD ⟨radioConfig cfg b.radio, []⟩).bsses,
        b'.radio = b.radio ∧ Origin radios cfg mlds b' := by
    cases hl : Dict.lookup b.radio s.links with
    | none => exact ⟨rfl, fun b' hb' => absurd hb' List.not_mem_nil⟩
    | some link => exact h.links _ (Dict.mem_of_lookup hl)
  constructor
  · intro e he
    rcases Dict.mem_set he with rfl | he
    · exact hb
    · exact h.bsses e he
  · intro e he
    rcases Dict.mem_set he with rfl | he
    · refine ⟨hlink.1, fun b' hb' => ?_⟩
      rcases List.mem_append.mp hb' with hb' | hb'
      · exact hlink.2 b' hb'
      · obtain rfl := List.mem_singleton.mp hb'
        exact ⟨rfl, hb⟩
    · exact h.links e he

theorem placedFrom_of_same {s s' : Placed} (h : PlacedFrom radios cfg mlds s) (hb : s'.bsses = s.bsses)
    (hl : s'.links = s.links) : PlacedFrom radios cfg mlds s' := by
  constructor
  · rw [hb]
    exact h.bsses
  · rw [hl]
    exact h.links

/-- One SSID on one radio. -/
theorem placedFrom_placeOn {s : Placed} (h : PlacedFrom radios cfg mlds s) {wnid : String} {wnet : Json}
    (hw : (wnid, wnet) ∈ wifiNetworks cfg) (hon : isEnabled wnet = true) {e : String × Radio}
    (he : e ∈ radios) : PlacedFrom radios cfg mlds (placeOn radios cfg (mldOf mlds wnid) wnid wnet s e) := by
  obtain ⟨rid, r⟩ := e
  unfold placeOn
  simp only
  split
  · exact h
  · next hband =>
    split
    · exact h
    · split
      · exact placedFrom_of_same h rfl rfl
      · cases hslot : (s.slots.slot rid wnid r.maxApBss).1 with
        | none => exact placedFrom_of_same h rfl rfl
        | some n =>
          refine placedFrom_add h (b := bssOf radios (mldOf mlds wnid) wnid wnet rid r n) ?_ _
          exact ⟨wnet, r, n, hw, hon, he, by simpa using hband, rfl⟩

/-- One SSID. -/
theorem placedFrom_placeNetwork {s : Placed} (h : PlacedFrom radios cfg mlds s) {e : String × Json}
    (he : e ∈ wifiNetworks cfg) : PlacedFrom radios cfg mlds (placeNetwork radios cfg mlds s e) := by
  unfold placeNetwork
  split
  · next hon =>
    have hrun : ∀ (rs : Radios) (s : Placed), (∀ x ∈ rs, x ∈ radios) → PlacedFrom radios cfg mlds s →
        PlacedFrom radios cfg mlds (rs.foldl (placeOn radios cfg (mldOf mlds e.1) e.1 e.2) s) := by
      intro rs
      induction rs with
      | nil => exact fun s _ hs => hs
      | cons x rs ih =>
        intro s hin hs
        rw [List.foldl_cons]
        refine ih _ (fun y hy => hin y (List.mem_cons_of_mem _ hy)) ?_
        exact placedFrom_placeOn hs he hon (hin x List.mem_cons_self)
    exact hrun _ s (fun x hx => mem_sorted.mp hx) h
  · exact h

/-- **Every BSS of a plan has an origin.** -/
theorem placedFrom_buildPlan (radios : Radios) (cfg : Obj) (slots : Allocator) :
    let p := (buildPlan radios cfg slots).1
    (∀ e ∈ p.bsses, Origin radios cfg p.mlds e.2) ∧
      ∀ e ∈ p.links, e.2.config = radioConfig cfg e.1 ∧
        ∀ b ∈ e.2.bsses, b.radio = e.1 ∧ Origin radios cfg p.mlds b := by
  have hrun : ∀ (ns : List (String × Json)) (s : Placed), (∀ x ∈ ns, x ∈ wifiNetworks cfg) →
      PlacedFrom radios cfg (planMlds radios cfg).1 s →
      PlacedFrom radios cfg (planMlds radios cfg).1
        (ns.foldl (placeNetwork radios cfg (planMlds radios cfg).1) s) := by
    intro ns
    induction ns with
    | nil => exact fun s _ hs => hs
    | cons x ns ih =>
      intro s hin hs
      rw [List.foldl_cons]
      refine ih _ (fun y hy => hin y (List.mem_cons_of_mem _ hy)) ?_
      exact placedFrom_placeNetwork hs (hin x List.mem_cons_self)
  have hstart : PlacedFrom radios cfg (planMlds radios cfg).1
      ⟨slots.prune (liveNetworks radios cfg), [], [], (planMlds radios cfg).2⟩ := by
    constructor
    · intro e he
      exact absurd he List.not_mem_nil
    · intro e he
      exact absurd he List.not_mem_nil
  obtain ⟨hbsses, hlinks⟩ := hrun _ _ (fun x hx => mem_sorted.mp hx) hstart
  exact ⟨hbsses, hlinks⟩

end Place

/-! ### The security that is rendered -/

/-- A document that validation has accepted against these radios.  A JSON object has no key twice. -/
structure WifiConfig (radios : Radios) where
  doc : Obj
  source : Obj
  warnings : List String
  mloSupported : Bool
  mloReason : String
  accepted : validate (capabilities radios mloSupported mloReason) source = .ok (doc, warnings)
  distinct : (Dict.keys (wifiNetworks doc)).Nodup

/-- The band of `radio_cfg.setdefault("band", caps["band"])`. -/
def renderBand (cfg : Obj) (b : PlannedBss) : String :=
  bandOf (Dict.setdefault "band" (.str b.band) (radioConfig cfg b.radio))

/-- The SSID of a BSS. -/
def ssidOf (cfg : Obj) (b : PlannedBss) : Json := (Dict.lookup b.wirelessNetwork (wifiNetworks cfg)).getD .null

/-- **The condition**: validation has asked for strong security, because the SSID is on 6 GHz or an
enabled MLD of the document names it; or the profile is strong of its own accord. -/
def Secured (cfg : Obj) (b : PlannedBss) : Prop :=
  selectsBand (ssidOf cfg b) "6g" = true ∨
    (∃ e ∈ wifiMlds cfg, isEnabled e.2 = true ∧ e.2.getD "wireless_network" .null = .str b.wirelessNetwork) ∨
    StrongProfile ((ssidOf cfg b).getD "security" (.obj [])).entries (renderBand cfg b)

theorem field_set_of_ne {security : Obj} {k key : String} {v d : Json} (h : key ≠ k) :
    Hostapd.field (Dict.set k v security) key d = Hostapd.field security key d := by
  unfold Hostapd.field
  rw [Dict.lookup_set_of_ne h]

/-- `fast_transition` says nothing about strength. -/
theorem strongProfile_bssSecurity (wnet : Json) (band : String) :
    StrongProfile (bssSecurity wnet) band ↔ StrongProfile (wnet.getD "security" (.obj [])).entries band := by
  unfold StrongProfile modeOf bssSecurity
  rw [field_set_of_ne (by decide), field_set_of_ne (by decide), field_set_of_ne (by decide)]

theorem profileOk_bssSecurity {wnet : Json} {six : Prop}
    (h : SecurityFields six (wnet.getD "security" (.obj [])).entries) : ProfileOk (bssSecurity wnet) := by
  obtain ⟨mode, hmode, hlook⟩ := h.mode
  obtain ⟨pmf, hpmf, hlook'⟩ := h.pmf
  unfold bssSecurity
  refine ⟨⟨mode, hmode, ?_⟩, pmf, hpmf, ?_⟩
  · rw [Dict.lookup_set_of_ne (by decide)]
    exact hlook
  · rw [Dict.lookup_set_of_ne (by decide)]
    exact hlook'

/-- What 6 GHz asks for is strong. -/
theorem strong_of_six {six : Prop} {security : Obj} (h : SecurityFields six security) (hsix : six)
    (band : String) : StrongProfile security band := by
  obtain ⟨mode, hmode, hlook⟩ := h.sixMode hsix
  have hm : modeOf security = mode := by
    unfold modeOf Hostapd.field
    rw [hlook]
    rfl
  unfold StrongProfile
  by_cases hopen : mode = "open"
  · rw [if_pos (hm.trans hopen)]
    left
    exact h.sixOwe hsix (hopen ▸ hlook)
  · rw [if_neg fun hc => hopen (hm.symm.trans hc), hm]
    simp only [List.mem_cons, List.not_mem_nil, or_false] at hmode
    refine ⟨?_, ?_, ?_⟩
    · unfold Hostapd.field
      rw [h.sixPmf hsix]
      rfl
    · rintro rfl
      simp at hmode
    · rintro rfl
      simp at hmode

/-- What an enabled MLD asks for is strong. -/
theorem strong_of_strongSsid {o security : Obj} (h : StrongSsid o)
    (hs : Dict.lookup "security" o = some (.obj security)) (band : String) : StrongProfile security band := by
  obtain ⟨security', hs', ⟨mode, hmode, hlook⟩, hpmf⟩ := h
  obtain rfl : security = security' := Json.obj.inj (Option.some.inj (hs.symm.trans hs'))
  have hm : modeOf security = mode := by
    unfold modeOf Hostapd.field
    rw [hlook]
    rfl
  unfold StrongProfile
  simp only [List.mem_cons, List.not_mem_nil, or_false] at hmode
  have hne : modeOf security ≠ "open" := by
    rw [hm]
    rintro rfl
    simp at hmode
  rw [if_neg hne, hm]
  refine ⟨?_, ?_, ?_⟩
  · unfold Hostapd.field
    rw [hpmf]
    rfl
  · rintro rfl
    simp at hmode
  · rintro rfl
    simp at hmode

theorem selectsBand_strings {o : Obj} {bands : List String} {band : String}
    (h : Dict.lookup "bands" o = some (.arr (bands.map .str))) :
    selectsBand (.obj o) band = true ↔ bands.contains band = true := by
  have hget : (Json.obj o).getD "bands" (.arr []) = .arr (bands.map .str) := by
    simp [Json.getD, h]
  unfold selectsBand
  rw [hget]
  simp only [List.any_map, List.any_eq_true, Function.comp_apply, List.contains_iff_mem]
  constructor
  · rintro ⟨x, hx, heq⟩
    have hx' : band = x := by simpa using heq
    rw [hx']
    exact hx
  · intro hin
    exact ⟨band, hin, by simp⟩

/-- **Strong security, exactly.**  Every BSS of a plan is rendered; its security is strong exactly if
validation has asked for it or the profile of its SSID is strong by itself. -/
theorem strong_rendering {radios : Radios} (c : WifiConfig radios) (slots : Allocator) {b : PlannedBss}
    (hb : ∃ e ∈ (buildPlan radios c.doc slots).1.links, b ∈ e.2.bsses) (radius : Obj) :
    ∃ lines, securityLines b.security (renderBand c.doc b) radius b.mld.isSome = .ok lines ∧
      (Strong lines ↔ Secured c.doc b) := by
  obtain ⟨e, he, hbe⟩ := hb
  obtain ⟨-, wnet, r, slot, hw, -, -, -, hbss⟩ :=
    ((placedFrom_buildPlan radios c.doc slots).2 e he).2 b hbe
  obtain ⟨wifi, networks, mlds, hwifi, hnetworks, hall, hmlds, hfields⟩ := mlds_of_validate c.accepted
  have hnets : wifiNetworks c.doc = networks := by
    simp [wifiNetworks, Netd.sectionOf, hwifi, Json.getD, hnetworks]
  have hmldss : wifiMlds c.doc = mlds := by
    simp [wifiMlds, Netd.sectionOf, hwifi, Json.getD, hmlds]
  obtain ⟨o, hobj, bands, security, hbands, hsecurity, hsec⟩ := hall _ (hnets ▸ hw)
  obtain rfl : wnet = .obj o := hobj
  have hlook : Dict.lookup b.wirelessNetwork (wifiNetworks c.doc) = some (.obj o) :=
    Dict.lookup_of_mem c.distinct hw
  have hssid : ssidOf c.doc b = .obj o := by
    unfold ssidOf
    rw [hlook]
    rfl
  have hentries : ((Json.obj o).getD "security" (.obj [])).entries = security := by
    simp [Json.getD, hsecurity]
  have hbsec : b.security = bssSecurity (.obj o) := by
    rw [hbss]
    rfl
  have hprofile : ProfileOk b.security := by
    rw [hbsec]
    exact profileOk_bssSecurity (hentries ▸ hsec)
  obtain ⟨lines, hlines, hiff⟩ := strong_iff hprofile (renderBand c.doc b) radius b.mld.isSome
  refine ⟨lines, hlines, hiff.trans ?_⟩
  rw [hbsec, strongProfile_bssSecurity]
  unfold Secured
  rw [hssid]
  constructor
  · exact fun h => .inr (.inr h)
  · rintro (hsix | ⟨m, hm, hon, hnamed⟩ | h)
    · rw [hentries]
      exact strong_of_six hsec ((selectsBand_strings hbands).mp hsix) _
    · obtain ⟨mo, hmo, enabled, wnid, henabled, hwireless, hserved⟩ := hfields _ (hmldss ▸ hm)
      rw [hmo] at hon hnamed
      have hwnid : wnid = b.wirelessNetwork := by
        simpa [Json.getD, hwireless] using hnamed
      have htrue : enabled = true := by
        simpa [isEnabled, Json.getD, henabled, Json.truthy] using hon
      obtain ⟨o', hlook', hstrong⟩ := hserved htrue
      rw [hwnid, ← hnets, hlook] at hlook'
      obtain rfl : o = o' := Json.obj.inj (Option.some.inj hlook')
      rw [hentries]
      exact strong_of_strongSsid hstrong hsecurity _
    · exact h

/-! ### An MLD that a flag stands for -/

/-- Two radios of one wiphy. -/
def twoRadios : Radios :=
  [("radio-2g", ⟨⟨"2g", [20, 40], [1, 6, 11], false⟩, some ⟨0, 3, 127, 0, 0, 16⟩, true, 8⟩),
    ("radio-5g", ⟨⟨"5g", [20, 40, 80], [36, 40, 44, 48], false⟩, some ⟨0, 3, 127, 0, 0, 16⟩, true, 8⟩)]

/-- An SSID as validation leaves it, with the defaults of everything else. -/
def plainSsid (name : String) (bands : List String) (mlo : Bool) (security : Obj) : Json :=
  .obj [("ssid", .str name), ("mlo", .bool mlo),
    ("security", .obj (security ++ [("private_preshared_keys", .bool false),
      ("sae_anti_clogging_threshold", .int 5), ("sae_sync", .int 5)])),
    ("enabled", .bool true), ("hidden", .bool false), ("uplink", .str "lan"), ("client_isolation", .bool false),
    ("network", .str "default"), ("bands", .arr (bands.map .str)), ("fast_roaming", .bool false),
    ("bss_transition", .bool true), ("neighbor_report", .bool true), ("application", .str "standard"),
    ("broadcasting_aps", .str "all"), ("advanced_mode", .str "auto"), ("minimum_data_rate", .bool false),
    ("multicast_filtering", .str "off"), ("multicast_broadcast_blocker", .bool false),
    ("multicast_to_unicast", .bool false), ("band_steering", .bool true), ("proxy_arp", .bool false),
    ("uapsd", .bool false), ("mac_filter", .bool false), ("radius_mac_auth", .bool false),
    ("speed_limit", .bool false), ("auto_dtim", .bool true), ("dtim_period", .int 2),
    ("group_rekey_interval", .bool false), ("group_rekey_seconds", .int 3600),
    ("show_ap_name_in_beacon", .bool false),
    ("blackout_schedule", .obj [("enabled", .bool false), ("start", .null), ("end", .null)]),
    ("mac_filter_list", .arr []), ("mac_filter_policy", .str "deny"),
    ("bandwidth", .obj [("download_kbps", .int 0), ("upload_kbps", .int 0)])]

/-- The default document with SSIDs. -/
def withSsids (ssids : Obj) : Obj :=
  Dict.set "wifi" (.obj (Dict.set "networks" (.obj ssids) defaultWifi)) defaultEntries

/-- A profile with a passphrase. -/
def passphraseProfile (mode pmf : String) : Obj :=
  [("mode", .str mode), ("pmf", .str pmf), ("passphrase", .str "correct horse")]

/-- An SSID on 2.4 and 5 GHz that asks for MLO. -/
def mloDoc (mode pmf : String) : Obj :=
  withSsids [("home", plainSsid "Home" ["2g", "5g"] true (passphraseProfile mode pmf))]

/-- WPA3 with protected management frames. -/
def strongConfig : WifiConfig twoRadios where
  doc := mloDoc "wpa3" "required"
  source := mloDoc "wpa3" "required"
  warnings := []
  mloSupported := true
  mloReason := ""
  accepted := by decide +kernel
  distinct := by decide +kernel

/-- The default mode. -/
def mixedConfig : WifiConfig twoRadios where
  doc := mloDoc "wpa2-wpa3" "optional"
  source := mloDoc "wpa2-wpa3" "optional"
  warnings := []
  mloSupported := true
  mloReason := ""
  accepted := by decide +kernel
  distinct := by decide +kernel

/-- Its BSS on 2.4 GHz. -/
def homeBss (c : WifiConfig twoRadios) : PlannedBss :=
  bssOf twoRadios (mldOf (planMlds twoRadios c.doc).1 "home") "home"
    ((Dict.lookup "home" (wifiNetworks c.doc)).getD .null) "radio-2g"
    ⟨⟨"2g", [20, 40], [1, 6, 11], false⟩, some ⟨0, 3, 127, 0, 0, 16⟩, true, 8⟩ 0

theorem strong_rendering_wpa3 : ∃ lines,
    securityLines (homeBss strongConfig).security (renderBand strongConfig.doc (homeBss strongConfig)) []
      (homeBss strongConfig).mld.isSome = .ok lines ∧ Strong lines := by
  have hb : ∃ e ∈ (buildPlan twoRadios strongConfig.doc Allocator.empty).1.links,
      homeBss strongConfig ∈ e.2.bsses := by decide
  obtain ⟨lines, hlines, hiff⟩ := strong_rendering strongConfig Allocator.empty hb []
  have hprofile : StrongProfile ((ssidOf strongConfig.doc (homeBss strongConfig)).getD "security"
      (.obj [])).entries (renderBand strongConfig.doc (homeBss strongConfig)) := by decide
  exact ⟨lines, hlines, hiff.mpr (.inr (.inr hprofile))⟩

/-- The default mode is no obstacle to an MLD: its links take WPA2 passphrases, and PMF is optional. -/
theorem flag_mld_weak :
    (∃ e ∈ (buildPlan twoRadios mixedConfig.doc Allocator.empty).1.links, homeBss mixedConfig ∈ e.2.bsses) ∧
      (homeBss mixedConfig).mld.isSome = true ∧
      (securityLines (homeBss mixedConfig).security (renderBand mixedConfig.doc (homeBss mixedConfig)) []
        true).toOption.map akmsOf = some ["WPA-PSK", "SAE"] ∧
      (securityLines (homeBss mixedConfig).security (renderBand mixedConfig.doc (homeBss mixedConfig)) []
        true).toOption.bind (value? "ieee80211w") = some (.text "1") := by
  decide

end Sbegw.Wifid
