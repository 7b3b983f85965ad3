import Sbegw.Lib.Settings
import Sbegw.Hostapd.Bss

/-!
# What hostapd reads

The file of a radio, read back line by line: the settings of the radio, and a section for each BSS with the settings
that were rendered for it, when no value has a line break in it and only then.  A section gives no setting twice, the
servers of a RADIUS profile apart, so that none overrides another.
-/

namespace Sbegw.Hostapd

open Text Schema

/-! ### Keys -/

/-- What a line sets. -/
def Line.setting? : Line → Option (String × String)
  | .set key value => some (key, value.text')
  | .comment _ => none

def settings (lines : List Line) : List (String × String) := lines.filterMap Line.setting?

def keysOf (lines : List Line) : List String := (settings lines).map Prod.fst

theorem settings_append (a b : List Line) : settings (a ++ b) = settings a ++ settings b := List.filterMap_append

@[simp] theorem keysOf_nil : keysOf [] = [] := rfl

@[simp] theorem keysOf_cons_set (key : String) (value : Value) (lines : List Line) :
    keysOf (.set key value :: lines) = key :: keysOf lines := rfl

@[simp] theorem keysOf_cons_comment (text : String) (lines : List Line) :
    keysOf (.comment text :: lines) = keysOf lines := rfl

@[simp] theorem keysOf_append (a b : List Line) : keysOf (a ++ b) = keysOf a ++ keysOf b := by
  unfold keysOf
  rw [settings_append, List.map_append]

section Templates

variable {bss radio security : Obj} {caps : LinkCaps} {a b : List Line} {s t : List String} {key : String}

theorem sublist_ite {c : Prop} [Decidable c] (ha : (keysOf a).Sublist s) (hb : (keysOf b).Sublist s) :
    (keysOf (if c then a else b)).Sublist s := by
  split
  · exact ha
  · exact hb

theorem sublist_append (ha : (keysOf a).Sublist s) (hb : (keysOf b).Sublist t) :
    (keysOf (a ++ b)).Sublist (s ++ t) := by
  rw [keysOf_append]
  exact ha.append hb

theorem sublist_copied (o : Obj) (key line : String) : (keysOf (copied o key line)).Sublist [line] :=
  sublist_ite (List.Sublist.refl _) (List.nil_sublist _)

theorem sublist_whenSet (o : Obj) (key : String) (d : Json) (h : (keysOf a).Sublist s) :
    (keysOf (whenSet o key d a)).Sublist s :=
  sublist_ite h (List.nil_sublist _)

/-! ### The lines of a radio -/

/-- The keys of a radio, in their order. -/
def radioKeys : List String :=
  ["driver", "country_code", "country3", "ieee80211d", "logger_syslog", "logger_syslog_level", "logger_stdout",
    "logger_stdout_level"] ++
  ["hw_mode", "op_class", "he_6ghz_reg_pwr_type"] ++ ["channel"] ++ ["ieee80211n", "ht_capab", "noscan"] ++
  ["ieee80211ac", "vht_oper_chwidth", "vht_oper_centr_freq_seg0_idx"] ++
  ["ieee80211ax", "he_oper_chwidth", "he_oper_centr_freq_seg0_idx", "he_su_beamformer", "he_su_beamformee",
    "he_mu_beamformer", "he_bss_color"] ++
  ["ieee80211be", "eht_oper_chwidth", "eht_oper_centr_freq_seg0_idx", "eht_su_beamformer", "eht_su_beamformee",
    "punct_bitmap"] ++
  ["ieee80211h", "beacon_int", "dtim_period", "rts_threshold"]

theorem sublist_centreLine (key : String) (centre : Option ℤ) : (keysOf (centreLine key centre)).Sublist [key] := by
  cases centre with
  | none => exact List.nil_sublist _
  | some c => exact List.Sublist.refl _

theorem sublist_modeLines (band : String) (width : ℕ) :
    (keysOf (modeLines radio band width)).Sublist ["hw_mode", "op_class", "he_6ghz_reg_pwr_type"] :=
  List.Sublist.cons_cons "hw_mode" (sublist_ite (List.Sublist.refl _) (List.nil_sublist _))

theorem sublist_channelLines : (keysOf (channelLines radio caps)).Sublist ["channel"] :=
  @sublist_append _ _ [] _ (sublist_ite (List.Sublist.refl _) (List.nil_sublist _)) (List.Sublist.refl _)

theorem sublist_htLines (width : ℕ) (band : String) :
    (keysOf (htLines caps width band)).Sublist ["ieee80211n", "ht_capab", "noscan"] :=
  sublist_ite (@sublist_append _ _ ["ieee80211n", "ht_capab"] _ (List.Sublist.refl _)
    (sublist_ite (List.Sublist.refl _) (List.nil_sublist _))) (List.nil_sublist _)

theorem sublist_vhtLines (channel : ℤ) (width : ℕ) (band : String) : (keysOf (vhtLines caps channel width band)).Sublist
    ["ieee80211ac", "vht_oper_chwidth", "vht_oper_centr_freq_seg0_idx"] :=
  sublist_ite (@sublist_append _ _ ["ieee80211ac", "vht_oper_chwidth"] _ (List.Sublist.refl _)
    (sublist_centreLine _ _)) (List.nil_sublist _)

theorem sublist_heLines (channel : ℤ) (width : ℕ) (band : String) :
    (keysOf (heLines radio caps channel width band)).Sublist
      ["ieee80211ax", "he_oper_chwidth", "he_oper_centr_freq_seg0_idx", "he_su_beamformer", "he_su_beamformee",
        "he_mu_beamformer", "he_bss_color"] := by
  refine sublist_ite (List.Sublist.cons_cons "ieee80211ax" ?_) (List.nil_sublist _)
  refine @sublist_append _ _ ["he_oper_chwidth", "he_oper_centr_freq_seg0_idx", "he_su_beamformer",
    "he_su_beamformee", "he_mu_beamformer"] ["he_bss_color"] ?_ (sublist_ite (List.Sublist.refl _) (List.nil_sublist _))
  refine @sublist_append _ _ ["he_oper_chwidth", "he_oper_centr_freq_seg0_idx"] _ ?_ (List.Sublist.refl _)
  exact sublist_ite (List.Sublist.cons_cons "he_oper_chwidth" (sublist_centreLine _ _)) (List.nil_sublist _)

theorem sublist_bitmapLine (width : ℕ) : (keysOf (bitmapLine radio width)).Sublist ["punct_bitmap"] := by
  unfold bitmapLine
  refine sublist_ite (List.Sublist.refl _) ?_
  cases bitmapOf radio with
  | none => exact List.nil_sublist _
  | some n => exact List.Sublist.refl _

theorem sublist_ehtLines (channel : ℤ) (width : ℕ) (band : String) :
    (keysOf (ehtLines radio caps channel width band)).Sublist
      ["ieee80211be", "eht_oper_chwidth", "eht_oper_centr_freq_seg0_idx", "eht_su_beamformer", "eht_su_beamformee",
        "punct_bitmap"] := by
  refine sublist_ite (List.Sublist.cons_cons "ieee80211be" ?_) (List.nil_sublist _)
  refine @sublist_append _ _ ["eht_oper_chwidth", "eht_oper_centr_freq_seg0_idx", "eht_su_beamformer",
    "eht_su_beamformee"] _ ?_ (sublist_bitmapLine width)
  refine @sublist_append _ _ ["eht_oper_chwidth", "eht_oper_centr_freq_seg0_idx"] _ ?_ (List.Sublist.refl _)
  exact sublist_ite (List.Sublist.cons_cons "eht_oper_chwidth" (sublist_centreLine _ _)) (List.nil_sublist _)

theorem sublist_tailLines (band : String) :
    (keysOf (tailLines radio band)).Sublist ["ieee80211h", "beacon_int", "dtim_period", "rts_threshold"] := by
  have hpower : (keysOf (powerComment radio)).Sublist [] := by
    unfold powerComment
    exact sublist_ite (List.Sublist.refl _) (List.Sublist.refl _)
  show (keysOf (tailLines radio band)).Sublist ([] ++ ["ieee80211h"] ++ ["beacon_int"] ++ ["dtim_period"] ++
    ["rts_threshold"])
  unfold tailLines
  refine sublist_append ?_ (sublist_copied radio _ _)
  refine sublist_append ?_ (sublist_copied radio _ _)
  refine sublist_append ?_ (sublist_copied radio _ _)
  exact sublist_append hpower (sublist_ite (List.Sublist.refl _) (List.nil_sublist _))

/-- The keys of a radio come in the order of the template. -/
theorem sublist_radioLines (c : LinkConfig) : (keysOf c.radioLines).Sublist radioKeys := by
  unfold LinkConfig.radioLines bandLines radioKeys
  simp only [← List.append_assoc]
  refine sublist_append ?_ (sublist_tailLines _)
  refine sublist_append ?_ (sublist_ehtLines _ _ _)
  refine sublist_append ?_ (sublist_heLines _ _ _)
  refine sublist_append ?_ (sublist_vhtLines _ _ _)
  refine sublist_append ?_ (sublist_htLines _ _)
  refine sublist_append ?_ sublist_channelLines
  exact sublist_append (List.Sublist.refl _) (sublist_modeLines _ _)

/-! ### The lines of a BSS -/

/-- The keys of a RADIUS server, which is given for each of two servers. -/
def serverKeys : List String := ["auth_server_addr", "auth_server_port", "auth_server_shared_secret"]

def radiusKeys : List String :=
  ["ieee8021x"] ++ serverKeys ++ serverKeys ++
  ["acct_server_addr", "acct_server_port", "acct_server_shared_secret", "radius_acct_interim_interval"] ++
  ["nas_identifier"] ++ ["dynamic_vlan", "vlan_naming"] ++
  ["radius_das_port", "radius_das_client", "radius_das_require_event_timestamp"]

/-- The keys of a security profile; `radius` are those of its RADIUS profile. -/
def securityKeys (radius : List String) : List String :=
  ["wpa", "wpa_key_mgmt"] ++ ["rsn_pairwise", "group_cipher"] ++ ["wpa_pairwise"] ++
  ["sae_password", "sae_require_mfp", "sae_pwe", "wpa_passphrase"] ++ radius ++ ["ieee80211w"]

/-- The keys of a BSS, in their order. -/
def bssKeys (first : Bool) (radius nas : List String) : List String :=
  ([if first then "interface" else "bss", "ctrl_interface"] ++ ["bssid"] ++ ["ssid", "ignore_broadcast_ssid"] ++
    ["bridge"] ++ ["vlan_tagged_interface"]) ++
  (["ap_isolate"] ++ ["max_num_sta"] ++ ["rssi_reject_assoc_rssi", "rssi_reject_assoc_timeout"]) ++
  securityKeys radius ++
  (["rrm_neighbor_report", "rrm_beacon_report"] ++ ["bss_transition"] ++
    (["mobility_domain", "ft_over_ds", "pmk_r1_push", "ft_psk_generate_local", "r0_key_lifetime"] ++ nas)) ++
  (["wmm_enabled"] ++ ["multicast_to_unicast"] ++ ["proxy_arp"] ++ ["uapsd_advertisement_enabled"] ++ ["dtim_period"] ++
    ["wpa_group_rekey"] ++ ["disable_dgaf"] ++ ["macaddr_acl", "accept_mac_file", "deny_mac_file"]) ++
  ["mld_ap", "mld_addr"]

theorem sublist_placeLines (device ssid : Json) (first : Bool) :
    (keysOf (placeLines bss device ssid first)).Sublist
      ([if first then "interface" else "bss", "ctrl_interface"] ++ ["bssid"] ++ ["ssid", "ignore_broadcast_ssid"] ++
        ["bridge"] ++ ["vlan_tagged_interface"]) := by
  unfold placeLines
  refine sublist_append ?_ (sublist_whenSet bss "vlan" .null (sublist_copied bss _ _))
  refine sublist_append ?_ (sublist_copied bss _ _)
  refine sublist_append ?_ (List.Sublist.refl _)
  exact sublist_append (List.Sublist.refl _) (sublist_copied bss _ _)

theorem sublist_admissionLines : (keysOf (admissionLines bss)).Sublist
    (["ap_isolate"] ++ ["max_num_sta"] ++ ["rssi_reject_assoc_rssi", "rssi_reject_assoc_timeout"]) := by
  unfold admissionLines
  refine sublist_append ?_ (sublist_ite (List.Sublist.refl _) (List.nil_sublist _))
  exact sublist_append (List.Sublist.refl _) (sublist_copied bss _ _)

theorem sublist_serverLines_auth (radius : Obj) (suffix : String) (port : ℤ) :
    (keysOf (serverLines radius "auth" suffix port)).Sublist serverKeys := by
  show List.Sublist ["auth" ++ "_server_addr", "auth" ++ "_server_port", "auth" ++ "_server_shared_secret"] serverKeys
  decide

theorem sublist_radiusLines (radius : Obj) : (keysOf (radiusLines radius)).Sublist radiusKeys := by
  unfold radiusLines radiusKeys
  refine sublist_append ?_ (sublist_ite (List.Sublist.refl _) (List.nil_sublist _))
  refine sublist_append ?_ (sublist_ite (List.Sublist.refl _) (List.nil_sublist _))
  refine sublist_append ?_ (sublist_ite (List.Sublist.refl _) (List.nil_sublist _))
  refine sublist_append ?_ (sublist_ite ?_ (List.nil_sublist _))
  · refine sublist_append ?_ (sublist_ite (sublist_serverLines_auth radius _ _) (List.nil_sublist _))
    exact sublist_append (List.Sublist.refl _) (sublist_serverLines_auth radius _ _)
  · show List.Sublist ["acct" ++ "_server_addr", "acct" ++ "_server_port", "acct" ++ "_server_shared_secret",
      "radius_acct_interim_interval"] _
    decide

theorem sublist_cipherLines (mode band : String) (forMlo : Bool) :
    (keysOf (cipherLines mode band forMlo)).Sublist ["rsn_pairwise", "group_cipher"] :=
  sublist_ite (List.Sublist.refl _) (List.Sublist.cons_cons _ (List.nil_sublist _))

theorem sublist_passphraseLines (akms : List String) (band : String) :
    (keysOf (passphraseLines security akms band)).Sublist
      ["sae_password", "sae_require_mfp", "sae_pwe", "wpa_passphrase"] :=
  @sublist_append _ _ ["sae_password", "sae_require_mfp", "sae_pwe"] ["wpa_passphrase"]
    (sublist_ite (List.Sublist.refl _) (List.nil_sublist _)) (sublist_ite (List.Sublist.refl _) (List.nil_sublist _))

/-- The lines of RADIUS are there only with a RADIUS profile. -/
theorem sublist_securityLines {band : String} {radius : Obj} {forMlo : Bool} {lines : List Line} {rs : List String}
    (h : securityLines security band radius forMlo = .ok lines) (hrs : rs = radiusKeys ∨ radius = []) :
    (keysOf lines).Sublist (securityKeys rs) := by
  unfold securityLines at h
  dsimp only at h
  split at h
  · obtain rfl := Except.ok.inj h
    have hopen : ∀ rs : List String,
        ["wpa", "wpa_key_mgmt", "rsn_pairwise", "ieee80211w"].Sublist (securityKeys rs) := by
      intro rs
      refine @List.Sublist.append _ ["wpa", "wpa_key_mgmt", "rsn_pairwise"] _ ["ieee80211w"] _ ?_ (List.Sublist.refl _)
      have hhead : ["wpa", "wpa_key_mgmt", "rsn_pairwise"].Sublist (["wpa", "wpa_key_mgmt"] ++
          ["rsn_pairwise", "group_cipher"] ++ ["wpa_pairwise"] ++
          ["sae_password", "sae_require_mfp", "sae_pwe", "wpa_passphrase"]) := by decide
      exact hhead.trans (List.sublist_append_left _ rs)
    exact sublist_ite (hopen rs) (List.Sublist.trans (by decide) (hopen rs))
  · cases hpmf : pmfValue (field security "pmf" (.str "optional")) with
    | error e =>
      rw [hpmf] at h
      cases h
    | ok pmf =>
      rw [hpmf] at h
      obtain rfl := Except.ok.inj h
      unfold securityKeys
      refine sublist_append ?_ (List.Sublist.refl _)
      refine sublist_append ?_ ?_
      · refine sublist_append ?_ (sublist_passphraseLines _ _)
        refine sublist_append ?_ (List.Sublist.refl _)
        exact sublist_append (List.Sublist.refl _) (sublist_cipherLines _ _ _)
      · rcases hrs with rfl | rfl
        · exact sublist_ite (sublist_radiusLines radius) (List.nil_sublist _)
        · rw [if_neg fun h => h.2 rfl]
          exact List.nil_sublist _

theorem sublist_roamingLines {nas : List String} (h : nas = ["nas_identifier"] ∨ profileOf bss ≠ "") :
    (keysOf (roamingLines bss)).Sublist
      (["rrm_neighbor_report", "rrm_beacon_report"] ++ ["bss_transition"] ++
        (["mobility_domain", "ft_over_ds", "pmk_r1_push", "ft_psk_generate_local", "r0_key_lifetime"] ++ nas)) := by
  unfold roamingLines
  refine sublist_append ?_ (sublist_whenSet bss "fast_roaming" .null (sublist_append (List.Sublist.refl _) ?_))
  · exact sublist_append (sublist_whenSet bss _ _ (List.Sublist.refl _)) (sublist_whenSet bss _ _ (List.Sublist.refl _))
  · rcases h with rfl | h
    · exact sublist_ite (List.Sublist.refl _) (List.nil_sublist _)
    · rw [if_neg h]
      exact List.nil_sublist _

theorem sublist_filterLines :
    (keysOf (filterLines bss)).Sublist ["macaddr_acl", "accept_mac_file", "deny_mac_file"] := by
  unfold filterLines
  refine sublist_ite ?_ (sublist_ite ?_ (List.nil_sublist _))
  · decide
  · dsimp only
    refine sublist_ite ?_ ?_
    · show List.Sublist ["macaddr_acl", "accept_mac_file"] _
      decide
    · show List.Sublist ["macaddr_acl", "deny_mac_file"] _
      decide

theorem sublist_optionLines : (keysOf (optionLines bss)).Sublist
    (["wmm_enabled"] ++ ["multicast_to_unicast"] ++ ["proxy_arp"] ++ ["uapsd_advertisement_enabled"] ++
      ["dtim_period"] ++ ["wpa_group_rekey"] ++ ["disable_dgaf"] ++
      ["macaddr_acl", "accept_mac_file", "deny_mac_file"]) := by
  have hset : ∀ (key : String) (d : Json) (line : String) (value : Value),
      (keysOf (whenSet bss key d [.set line value])).Sublist [line] := fun key d line value =>
    sublist_whenSet bss key d (List.Sublist.refl _)
  unfold optionLines
  refine sublist_append ?_ sublist_filterLines
  refine sublist_append ?_ (hset _ _ _ _)
  refine sublist_append ?_ (hset _ _ _ _)
  refine sublist_append ?_ (sublist_ite (List.nil_sublist _) (List.Sublist.refl _))
  refine sublist_append ?_ (hset _ _ _ _)
  refine sublist_append ?_ (hset _ _ _ _)
  exact sublist_append (hset _ _ _ _) (hset _ _ _ _)

theorem sublist_mldLines {lines : List Line} (h : mldLines bss = .ok lines) :
    (keysOf lines).Sublist ["mld_ap", "mld_addr"] := by
  unfold mldLines at h
  dsimp only at h
  split at h
  · cases hmac : required (field bss "mld" .null).entries "mld_mac" with
    | error e =>
      rw [hmac] at h
      cases h
    | ok mac =>
      rw [hmac] at h
      obtain rfl := Except.ok.inj h
      exact List.Sublist.refl _
  · obtain rfl := Except.ok.inj h
    exact List.nil_sublist _

end Templates

/-! ### A section -/

section Section

variable {c : LinkConfig} {bss radio radius : Obj} {first : Bool} {lines : List Line}

/-- What a BSS is rendered as. -/
theorem bssLines_ok (h : bssLines bss radio radius first = .ok lines) : ∃ device ssid security mld,
    deviceOf bss = .ok device ∧ required bss "ssid" = .ok ssid ∧
      securityLines (field bss "security" (.obj [])).entries (bandOf radio) radius
        (field bss "mld" .null).truthy = .ok security ∧ mldLines bss = .ok mld ∧
      lines = placeLines bss device ssid first ++ admissionLines bss ++ security ++ roamingLines bss ++
        optionLines bss ++ mld := by
  unfold bssLines at h
  cases hdevice : deviceOf bss with
  | error e =>
    rw [hdevice] at h
    cases h
  | ok device =>
    cases hssid : required bss "ssid" with
    | error e =>
      rw [hdevice, hssid] at h
      cases h
    | ok ssid =>
      cases hsecurity : securityLines (field bss "security" (.obj [])).entries (bandOf radio) radius
          (field bss "mld" .null).truthy with
      | error e =>
        rw [hdevice, hssid, hsecurity] at h
        cases h
      | ok security =>
        cases hmld : mldLines bss with
        | error e =>
          rw [hdevice, hssid, hsecurity, hmld] at h
          cases h
        | ok mld =>
          rw [hdevice, hssid, hsecurity, hmld] at h
          exact ⟨device, ssid, security, mld, rfl, rfl, rfl, rfl, (Except.ok.inj h).symm⟩

/-- The keys of a BSS come in the order of the template. -/
theorem sublist_bssLines (h : bssLines bss radio radius first = .ok lines) {rs nas : List String}
    (hrs : rs = radiusKeys ∨ radius = []) (hnas : nas = ["nas_identifier"] ∨ profileOf bss ≠ "") :
    (keysOf lines).Sublist (bssKeys first rs nas) := by
  obtain ⟨device, ssid, security, mld, -, -, hsecurity, hmld, rfl⟩ := bssLines_ok h
  unfold bssKeys
  refine sublist_append ?_ (sublist_mldLines hmld)
  refine sublist_append ?_ sublist_optionLines
  refine sublist_append ?_ (sublist_roamingLines hnas)
  refine sublist_append ?_ (sublist_securityLines hsecurity hrs)
  exact sublist_append (sublist_placeLines device ssid first) sublist_admissionLines

/-- **No setting is given twice**, the servers of RADIUS apart. -/
theorem nodup_bssLines (h : bssLines bss radio radius first = .ok lines) (hprofile : profileOf bss = "" → radius = []) :
    ((keysOf lines).filter (· ∉ serverKeys)).Nodup := by
  by_cases hnamed : profileOf bss = ""
  · have hsub : (keysOf lines).Sublist (bssKeys first [] ["nas_identifier"]) :=
      sublist_bssLines h (.inr (hprofile hnamed)) (.inl rfl)
    refine (hsub.filter _).nodup ?_
    cases first <;> decide
  · have hsub : (keysOf lines).Sublist (bssKeys first radiusKeys []) := sublist_bssLines h (.inl rfl) (.inr hnamed)
    refine (hsub.filter _).nodup ?_
    cases first <;> decide

/-- The setting starts a section. -/
def startsBss (d : String × String) : Bool := d.1 == "interface" || d.1 == "bss"

/-- A BSS is a section: the first of its settings is the interface. -/
theorem isSection_bssLines (h : bssLines bss radio radius first = .ok lines) :
    IsSection startsBss (settings lines) := by
  obtain ⟨device, ssid, security, mld, -, -, hsecurity, hmld, rfl⟩ := bssLines_ok h
  have hsub : (keysOf _).Sublist (bssKeys first radiusKeys ["nas_identifier"]) :=
    sublist_bssLines h (.inl rfl) (.inl rfl)
  have hcons : placeLines bss device ssid first ++ admissionLines bss ++ security ++ roamingLines bss ++
      optionLines bss ++ mld = .set (if first then "interface" else "bss") (.text (pyStr device)) ::
        ((placeLines bss device ssid first).tail ++ admissionLines bss ++ security ++ roamingLines bss ++
          optionLines bss ++ mld) := rfl
  rw [hcons] at hsub ⊢
  refine ⟨_, _, rfl, by cases first <;> rfl, fun d hd => ?_⟩
  have hrest := List.cons_sublist_cons.mp hsub
  have hmem : d.1 ∈ (bssKeys first radiusKeys ["nas_identifier"]).tail :=
    hrest.subset (List.mem_map_of_mem (f := Prod.fst) hd)
  have hnot : ∀ k ∈ (bssKeys first radiusKeys ["nas_identifier"]).tail, (k == "interface" || k == "bss") = false := by
    cases first <;> decide
  exact hnot d.1 hmem

end Section

/-! ### The file -/

/-- The line is one line. -/
def OneLine (l : Line) : Prop := '\n' ∉ l.text.toList

instance (l : Line) : Decidable (OneLine l) := inferInstanceAs (Decidable (¬ _))

theorem notMem_of_oneLine {key : String} {value : Value} (h : OneLine (.set key value)) :
    '\n' ∉ value.text'.toList := by
  intro hmem
  refine h ?_
  show '\n' ∈ (key ++ "=" ++ value.text').toList
  rw [String.toList_append]
  exact List.mem_append_right _ hmem

/-- Lines that are one line each are read as what they set. -/
theorem readSettings_lines : ∀ {lines : List Line}, (∀ l ∈ lines, OneLine l) → (∀ k ∈ keysOf lines, PlainKey k) →
    (lines.map Line.text).flatMap readSettings = settings lines
  | [], _, _ => rfl
  | .set key value :: lines, hone, hkeys => by
    have hvalue := notMem_of_oneLine (hone _ List.mem_cons_self)
    have ih := readSettings_lines (fun l hl => hone l (List.mem_cons_of_mem _ hl))
      fun k hk => hkeys k (List.mem_cons_of_mem _ hk)
    rw [List.map_cons, List.flatMap_cons, ih]
    show readSettings (key ++ "=" ++ value.text') ++ _ = _
    rw [readSettings_set (hkeys key List.mem_cons_self) hvalue]
    rfl
  | .comment text :: lines, hone, hkeys => by
    have ih := readSettings_lines (fun l hl => hone l (List.mem_cons_of_mem _ hl)) hkeys
    have htext : '\n' ∉ text.toList := by
      intro hmem
      refine hone _ List.mem_cons_self ?_
      show '\n' ∈ ("# " ++ text).toList
      rw [String.toList_append]
      exact List.mem_append_right _ hmem
    rw [List.map_cons, List.flatMap_cons, ih]
    show readSettings ("# " ++ text) ++ _ = _
    rw [readSettings_comment htext]
    rfl

section File

variable {c : LinkConfig} {blocks : List (List Line)}

theorem mem_blocksFrom : ∀ {bsses : List Obj} {first : Bool} {blocks : List (List Line)},
    c.blocksFrom first bsses = .ok blocks →
      List.Forall₂ (fun bss lines => ∃ first, bssLines bss c.radio (c.radiusOf bss) first = .ok lines) bsses blocks
  | [], first, blocks, h => by
    obtain rfl := Except.ok.inj h
    exact .nil
  | bss :: bsses, first, blocks, h => by
    unfold LinkConfig.blocksFrom at h
    cases hlines : bssLines bss c.radio (c.radiusOf bss) first with
    | error e =>
      rw [hlines] at h
      cases h
    | ok lines =>
      cases hrest : c.blocksFrom false bsses with
      | error e =>
        rw [hlines, hrest] at h
        cases h
      | ok rest =>
        rw [hlines, hrest] at h
        obtain rfl := Except.ok.inj h
        exact .cons ⟨first, hlines⟩ (mem_blocksFrom hrest)

theorem exists_of_mem_blocks (h : c.blocks = .ok blocks) {b : List Line} (hb : b ∈ blocks) :
    ∃ bss first, bssLines bss c.radio (c.radiusOf bss) first = .ok b := by
  have hall : ∀ {bsses : List Obj} {blocks : List (List Line)},
      List.Forall₂ (fun bss lines => ∃ first, bssLines bss c.radio (c.radiusOf bss) first = .ok lines) bsses blocks →
        b ∈ blocks → ∃ bss first, bssLines bss c.radio (c.radiusOf bss) first = .ok b := by
    intro bsses blocks hforall hmem
    induction hforall with
    | nil => cases hmem
    | cons hlines _ ih =>
      rcases List.mem_cons.mp hmem with rfl | hmem
      · exact ⟨_, hlines⟩
      · exact ih hmem
  exact hall (mem_blocksFrom h) hb

theorem plainKey_radioLines : ∀ k ∈ keysOf c.radioLines, PlainKey k := fun k hk =>
  (by decide +kernel : ∀ k ∈ radioKeys, PlainKey k) k ((sublist_radioLines c).subset hk)

theorem plainKey_block (h : c.blocks = .ok blocks) {b : List Line} (hb : b ∈ blocks) :
    ∀ k ∈ keysOf b, PlainKey k := by
  obtain ⟨bss, first, hlines⟩ := exists_of_mem_blocks h hb
  have hsub : (keysOf b).Sublist (bssKeys first radiusKeys ["nas_identifier"]) :=
    sublist_bssLines hlines (.inl rfl) (.inl rfl)
  have hall : ∀ k ∈ "interface" :: bssKeys false radiusKeys ["nas_identifier"], PlainKey k := by decide +kernel
  intro k hk
  refine hall k ?_
  cases first with
  | false => exact List.mem_cons_of_mem _ (hsub.subset hk)
  | true =>
    have hkeys : bssKeys true radiusKeys ["nas_identifier"] =
        "interface" :: (bssKeys false radiusKeys ["nas_identifier"]).tail := rfl
    rw [hkeys] at hsub
    rcases List.mem_cons.mp (hsub.subset hk) with rfl | hrest
    · exact List.mem_cons_self
    · exact List.mem_cons_of_mem _ (List.mem_of_mem_tail hrest)

theorem startsBss_radioLines : ∀ d ∈ settings c.radioLines, startsBss d = false := fun d hd =>
  (by decide : ∀ k ∈ radioKeys, (k == "interface" || k == "bss") = false) d.1
    ((sublist_radioLines c).subset (List.mem_map_of_mem (f := Prod.fst) hd))

theorem readSettings_fileText (h : c.blocks = .ok blocks) (hone : ∀ l ∈ c.radioLines ++ blocks.flatten, OneLine l) :
    readSettings (c.fileText blocks) = settings c.radioLines ++ (blocks.map settings).flatten := by
  have hfile : c.fileText blocks =
      unlines (c.radioLines.map Line.text ++ blocks.flatMap fun b => "" :: b.map Line.text) := rfl
  have hblocks : ∀ bs : List (List Line), (∀ b ∈ bs, b ∈ blocks) →
      (bs.flatMap fun b => "" :: b.map Line.text).flatMap readSettings = (bs.map settings).flatten := by
    intro bs hbs
    induction bs with
    | nil => rfl
    | cons b bs ih =>
      have hb := hbs b List.mem_cons_self
      have hb₁ : ∀ l ∈ b, OneLine l := fun l hl =>
        hone l (List.mem_append_right _ (List.mem_flatten.mpr ⟨b, hb, hl⟩))
      rw [List.flatMap_cons, List.flatMap_append, List.flatMap_cons, readSettings_lines hb₁ (plainKey_block h hb),
        ih fun b hb => hbs b (List.mem_cons_of_mem _ hb)]
      rfl
  rw [hfile, readSettings_unlines, List.flatMap_append, hblocks blocks fun b hb => hb,
    readSettings_lines (fun l hl => hone l (List.mem_append_left _ hl)) plainKey_radioLines]

/-- **What hostapd reads**: when every line is one line, the settings of the radio and a section for each BSS, as they
were rendered; and that is what it reads only if no value has a line break. -/
theorem link_config_reads_back {text : String} (h : c.render = .ok text) : ∃ blocks, c.blocks = .ok blocks ∧
    ((∀ l ∈ c.radioLines ++ blocks.flatten, OneLine l) →
      sections startsBss (readSettings text) = (settings c.radioLines, blocks.map settings)) ∧
    (sections startsBss (readSettings text) = (settings c.radioLines, blocks.map settings) →
      ∀ d ∈ settings (c.radioLines ++ blocks.flatten), '\n' ∉ d.2.toList) := by
  unfold LinkConfig.render at h
  cases hblocks : c.blocks with
  | error e =>
    rw [hblocks] at h
    cases h
  | ok blocks =>
    rw [hblocks] at h
    obtain rfl : c.fileText blocks = text := Except.ok.inj h
    refine ⟨blocks, rfl, fun hone => ?_, fun hread d hd => ?_⟩
    · have hsections : ∀ s ∈ blocks.map settings, IsSection startsBss s := by
        intro s hs
        obtain ⟨b, hb, rfl⟩ := List.mem_map.mp hs
        obtain ⟨bss, first, hlines⟩ := exists_of_mem_blocks hblocks hb
        exact isSection_bssLines hlines
      rw [readSettings_fileText hblocks hone, sections_append startsBss_radioLines, sections_flatten hsections,
        List.append_nil]
    · have hjoin := sections_join startsBss (readSettings (c.fileText blocks))
      rw [hread] at hjoin
      have hmem : d ∈ readSettings (c.fileText blocks) := by
        rw [← hjoin]
        rw [settings_append] at hd
        refine List.mem_append.mpr ((List.mem_append.mp hd).imp_right fun hd => ?_)
        obtain ⟨l, hl, hset⟩ := List.mem_filterMap.mp hd
        obtain ⟨b, hb, hl⟩ := List.mem_flatten.mp hl
        exact List.mem_flatten.mpr ⟨settings b, List.mem_map_of_mem hb, List.mem_filterMap.mpr ⟨l, hl, hset⟩⟩
      exact newline_notMem_readSettings hmem

/-- An open SSID, whose name brings a line of its own. -/
def brokenLink : LinkConfig where
  radio := [("id", .str "radio-2g"), ("band", .str "2g"), ("channel", .int 6)]
  caps := ⟨true, false, true, false, []⟩
  bsses := [[("interface", .str "wl2g0"), ("ssid", .str "Home\nwpa=0"), ("security", .obj [("mode", .str "wpa3"),
    ("passphrase", .str "correct horse")])]]
  country := "US"
  profiles := []
  regulatory := []

/-- Its file. -/
def brokenText : String := (brokenLink.render.toOption).getD ""

theorem render_brokenLink : brokenLink.render = .ok brokenText := by
  unfold brokenText
  cases h : brokenLink.render with
  | error e =>
    have hok : (brokenLink.render.toOption).isSome = true := by decide
    rw [h] at hok
    cases hok
  | ok text => rfl

/-- Its BSSes. -/
def brokenBlocks : List (List Line) := (brokenLink.blocks.toOption).getD []

theorem blocks_brokenLink : brokenLink.blocks = .ok brokenBlocks := by
  unfold brokenBlocks
  cases h : brokenLink.blocks with
  | error e =>
    have hok : (brokenLink.blocks.toOption).isSome = true := by decide
    rw [h] at hok
    cases hok
  | ok blocks => rfl

theorem link_config_reads_back_broken : ∃ blocks, brokenLink.blocks = .ok blocks ∧
    sections startsBss (readSettings brokenText) ≠ (settings brokenLink.radioLines, blocks.map settings) := by
  obtain ⟨blocks, hblocks, -, hback⟩ := link_config_reads_back render_brokenLink
  refine ⟨blocks, hblocks, fun hread => hback hread ("ssid", "Home\nwpa=0") ?_ (by decide)⟩
  obtain rfl : brokenBlocks = blocks := Except.ok.inj (blocks_brokenLink.symm.trans hblocks)
  decide

end File

end Sbegw.Hostapd
