import Sbegw.Hostapd.Channels

/-!
# The security of a BSS

`_security_lines` renders a security profile.  `Strong` is what 6 GHz and MLO ask for; the profiles that
are rendered so are `StrongProfile`.
-/

namespace Sbegw.Hostapd

open Text Schema

/-! ### `_security_lines` -/

/-- `security.get("mode", "wpa2-wpa3")` -/
def modeOf (security : Obj) : String :=
  match field security "mode" (.str "wpa2-wpa3") with
  | .str mode => mode
  | _ => ""

/-- `{"disabled": "0", "optional": "1", "required": "2"}[pmf]` -/
def pmfValue (pmf : Json) : Except Exn String :=
  if pmf = .str "disabled" then .ok "0"
  else if pmf = .str "optional" then .ok "1"
  else if pmf = .str "required" then .ok "2"
  else .error (.key (pyStr pmf))

/-- The key management of a mode. -/
def modeKeyMgmt : String → List String
  | "wpa2" => ["WPA-PSK"]
  | "wpa2-wpa3" => ["WPA-PSK", "SAE"]
  | "wpa3" => ["SAE"]
  | "wpa2-enterprise" => ["WPA-EAP"]
  | "wpa3-enterprise" => ["WPA-EAP-SHA256"]
  | _ => []

/-- `FT_AKM` -/
def ftAkm : String → Option String
  | "WPA-PSK" => some "FT-PSK"
  | "SAE" => some "FT-SAE"
  | "WPA-EAP" => some "FT-EAP"
  | "WPA-EAP-SHA256" => some "FT-EAP"
  | _ => none

/-- `key_mgmt` -/
def keyMgmt (mode : String) (fastTransition : Bool) : List String :=
  modeKeyMgmt mode ++ if fastTransition then (modeKeyMgmt mode).filterMap ftAkm else []

/-- The pairwise ciphers. -/
def cipherLines (mode band : String) (forMlo : Bool) : List Line :=
  if mode = "wpa3" ∨ mode = "wpa3-enterprise" ∨ forMlo ∨ band = "6g" then
    [.set "rsn_pairwise" (.text "CCMP GCMP-256"), .set "group_cipher" (.text "CCMP")]
  else [.set "rsn_pairwise" (.text "CCMP")]

/-- The passphrase, for SAE and for WPA-PSK. -/
def passphraseLines (security : Obj) (akms : List String) (band : String) : List Line :=
  let passphrase := Value.text (pyStr (field security "passphrase" (.str "")))
  (if akms.contains "SAE" then
    [.set "sae_password" passphrase, .set "sae_require_mfp" (.int 1),
      .set "sae_pwe" (.int (if band = "6g" then 1 else 2))]
  else []) ++
  if akms.contains "WPA-PSK" then [.set "wpa_passphrase" passphrase] else []

/-- One of the servers of a RADIUS profile. -/
def serverLines (radius : Obj) (kind suffix : String) (port : ℤ) : List Line :=
  [.set (kind ++ "_server_addr") (.text (pyStr (field radius (kind ++ "_server" ++ suffix) .null))),
    .set (kind ++ "_server_port") (.text (pyStr (field radius (kind ++ "_port" ++ suffix) (.int port)))),
    .set (kind ++ "_server_shared_secret")
      (.text (pyStr (field radius (kind ++ "_secret" ++ suffix) (.str ""))))]

/-- The lines of a RADIUS profile. -/
def radiusLines (radius : Obj) : List Line :=
  let set? (key : String) : Bool := (field radius key .null).truthy
  [.set "ieee8021x" (.int 1)] ++ serverLines radius "auth" "" 1812 ++
    (if set? "auth_server2" then serverLines radius "auth" "2" 1812 else []) ++
    (if set? "acct_server" then
      serverLines radius "acct" "" 1813 ++
        [.set "radius_acct_interim_interval" (.text (pyStr (field radius "interim_interval" (.int 600))))]
    else []) ++
    (if set? "nas_identifier" then
      [.set "nas_identifier" (.text (pyStr (field radius "nas_identifier" .null)))] else []) ++
    (if set? "dynamic_vlan" then [.set "dynamic_vlan" (.int 1), .set "vlan_naming" (.int 1)] else []) ++
    if set? "coa_secret" then
      [.set "radius_das_port" (.int 3799),
        .set "radius_das_client" (.text (pyStr (field radius "coa_client" (.str "0.0.0.0/0")) ++ " " ++
          pyStr (field radius "coa_secret" .null))),
        .set "radius_das_require_event_timestamp" (.int 1)]
    else []

/-- `_security_lines` -/
def securityLines (security : Obj) (band : String) (radius : Obj) (forMlo : Bool) : Except Exn (List Line) :=
  let mode := modeOf security
  if mode = "open" then
    .ok <|
      if (field security "owe" .null).truthy ∨ band = "6g" then
        [.set "wpa" (.int 2), .set "wpa_key_mgmt" (.text "OWE"), .set "rsn_pairwise" (.text "CCMP"),
          .set "ieee80211w" (.text "2")]
      else [.set "wpa" (.int 0)]
  else do
    let akms := keyMgmt mode (field security "fast_transition" .null).truthy
    let pmf ← pmfValue (field security "pmf" (.str "optional"))
    .ok <|
      [.set "wpa" (.int 2), .set "wpa_key_mgmt" (.text (join " " akms.eraseDups))] ++
        cipherLines mode band forMlo ++ [.set "wpa_pairwise" (.text "CCMP")] ++
        passphraseLines security akms band ++
        (if isInfixOf "EAP" (join " " akms) ∧ radius ≠ [] then radiusLines radius else []) ++
        [.set "ieee80211w" (.text pmf)]

/-! ### What 6 GHz and MLO ask for -/

/-- The key management that is rendered. -/
def akmsOf (lines : List Line) : List String :=
  match value? "wpa_key_mgmt" lines with
  | some (.text t) => split ' ' t
  | _ => []

/-- Management frames are protected, no key is a WPA2 passphrase, and the BSS is encrypted. -/
structure Strong (lines : List Line) : Prop where
  pmf : value? "ieee80211w" lines = some (.text "2")
  akms : "WPA-PSK" ∉ akmsOf lines ∧ "FT-PSK" ∉ akmsOf lines
  encrypted : value? "wpa" lines ≠ some (.int 0)

instance (lines : List Line) : Decidable (Strong lines) :=
  decidable_of_iff (value? "ieee80211w" lines = some (.text "2") ∧
      ("WPA-PSK" ∉ akmsOf lines ∧ "FT-PSK" ∉ akmsOf lines) ∧ value? "wpa" lines ≠ some (.int 0))
    ⟨fun h => ⟨h.1, h.2.1, h.2.2⟩, fun h => ⟨h.pmf, h.akms, h.encrypted⟩⟩

/-- **The profiles that are rendered so.** -/
def StrongProfile (security : Obj) (band : String) : Prop :=
  if modeOf security = "open" then (field security "owe" .null).truthy = true ∨ band = "6g"
  else field security "pmf" (.str "optional") = .str "required" ∧
    modeOf security ≠ "wpa2" ∧ modeOf security ≠ "wpa2-wpa3"

instance (security : Obj) (band : String) : Decidable (StrongProfile security band) :=
  inferInstanceAs (Decidable (if modeOf security = "open" then
    (field security "owe" .null).truthy = true ∨ band = "6g"
  else field security "pmf" (.str "optional") = .str "required" ∧
    modeOf security ≠ "wpa2" ∧ modeOf security ≠ "wpa2-wpa3"))

/-! ### Reading the lines -/

@[simp] theorem value?_nil (key : String) : value? key [] = none := rfl

@[simp] theorem value?_cons_set (key k : String) (v : Value) (lines : List Line) :
    value? key (.set k v :: lines) = if k = key then some v else value? key lines := by
  unfold value?
  by_cases h : k = key
  · simp [h]
  · simp [h]

/-- No line sets the key. -/
def Without (key : String) (lines : List Line) : Prop := value? key lines = none

@[simp] theorem without_nil (key : String) : Without key [] := rfl

@[simp] theorem without_cons_set {key k : String} {v : Value} {lines : List Line} :
    Without key (.set k v :: lines) ↔ k ≠ key ∧ Without key lines := by
  unfold Without
  rw [value?_cons_set]
  by_cases h : k = key
  · simp [h]
  · simp [h]

@[simp] theorem without_append {key : String} {a b : List Line} :
    Without key (a ++ b) ↔ Without key a ∧ Without key b := by
  unfold Without
  rw [value?_append, Option.or_eq_none_iff]

theorem without_ite {key : String} {c : Prop} [Decidable c] {a b : List Line} (ha : Without key a)
    (hb : Without key b) : Without key (if c then a else b) := by
  split
  · exact ha
  · exact hb

/-! ### The profiles -/

/-- The keys that say how strong a BSS is. -/
def strengthKeys : List String := ["ieee80211w", "wpa_key_mgmt", "wpa"]

theorem without_cipherLines (mode band : String) (forMlo : Bool) :
    ∀ key ∈ strengthKeys, Without key (cipherLines mode band forMlo) := by
  intro key hkey
  unfold cipherLines
  simp only [strengthKeys, List.mem_cons, List.not_mem_nil, or_false] at hkey
  rcases hkey with rfl | rfl | rfl
  all_goals exact without_ite (by simp) (by simp)

theorem without_passphraseLines (security : Obj) (akms : List String) (band : String) :
    ∀ key ∈ strengthKeys, Without key (passphraseLines security akms band) := by
  intro key hkey
  unfold passphraseLines
  simp only [strengthKeys, List.mem_cons, List.not_mem_nil, or_false] at hkey
  rw [without_append]
  rcases hkey with rfl | rfl | rfl
  all_goals exact ⟨without_ite (by simp) (by simp), without_ite (by simp) (by simp)⟩

theorem without_radiusLines (radius : Obj) : ∀ key ∈ strengthKeys, Without key (radiusLines radius) := by
  intro key hkey
  unfold radiusLines serverLines
  simp only [strengthKeys, List.mem_cons, List.not_mem_nil, or_false] at hkey
  simp only [without_append]
  rcases hkey with rfl | rfl | rfl
  all_goals
    refine ⟨⟨⟨⟨⟨⟨?_, ?_⟩, ?_⟩, ?_⟩, ?_⟩, ?_⟩, ?_⟩
    · simp
    · simp
    all_goals exact without_ite (by simp) (by simp)

/-- What the lines of a profile with keys say. -/
theorem keyed_lines {security : Obj} {band : String} {radius : Obj} {forMlo : Bool} {pmf : String}
    (hmode : modeOf security ≠ "open") (hpmf : pmfValue (field security "pmf" (.str "optional")) = .ok pmf) :
    ∃ lines, securityLines security band radius forMlo = .ok lines ∧ value? "wpa" lines = some (.int 2) ∧
      akmsOf lines = split ' ' (join " "
        (keyMgmt (modeOf security) (field security "fast_transition" .null).truthy).eraseDups) ∧
      value? "ieee80211w" lines = some (.text pmf) := by
  unfold securityLines
  simp only [if_neg hmode, hpmf, ok_bind]
  refine ⟨_, rfl, ?_, ?_, ?_⟩
  · simp only [List.cons_append, List.nil_append, value?_cons_set, if_pos]
  · unfold akmsOf
    simp only [List.cons_append, List.nil_append, value?_cons_set, if_pos]
    rfl
  · have hin : "ieee80211w" ∈ strengthKeys := List.mem_cons_self
    have hcipher : value? "ieee80211w" (cipherLines (modeOf security) band forMlo) = none :=
      without_cipherLines _ _ _ _ hin
    have hpass := without_passphraseLines security
      (keyMgmt (modeOf security) (field security "fast_transition" .null).truthy) band _ hin
    have hradius : Without "ieee80211w"
        (if isInfixOf "EAP" (join " " (keyMgmt (modeOf security)
          (field security "fast_transition" .null).truthy)) ∧ radius ≠ [] then radiusLines radius else []) :=
      without_ite (without_radiusLines radius _ hin) (without_nil _)
    unfold Without at hpass hradius
    simp only [value?_append, hcipher, hpass, hradius, value?_cons_set, value?_nil]
    simp

/-- The keys of each mode: only the two WPA2 modes use a WPA2 passphrase. -/
theorem psk_iff {mode : String} (hmode : mode ∈ securityModes) (hopen : mode ≠ "open") (ft : Bool) :
    ("WPA-PSK" ∉ split ' ' (join " " (keyMgmt mode ft).eraseDups) ∧
      "FT-PSK" ∉ split ' ' (join " " (keyMgmt mode ft).eraseDups)) ↔ mode ≠ "wpa2" ∧ mode ≠ "wpa2-wpa3" := by
  have hall : ∀ mode ∈ securityModes, mode ≠ "open" → ∀ ft,
      (("WPA-PSK" ∉ split ' ' (join " " (keyMgmt mode ft).eraseDups) ∧
        "FT-PSK" ∉ split ' ' (join " " (keyMgmt mode ft).eraseDups)) ↔ mode ≠ "wpa2" ∧ mode ≠ "wpa2-wpa3") := by
    decide
  exact hall mode hmode hopen ft

/-- The settings of `pmf`. -/
theorem pmfValue_eq_two {pmf : Json} {value : String} (h : pmfValue pmf = .ok value) :
    value = "2" ↔ pmf = .str "required" := by
  unfold pmfValue at h
  split at h
  · next heq =>
    obtain rfl := Except.ok.inj h
    rw [heq]
    simp
  · split at h
    · next heq =>
      obtain rfl := Except.ok.inj h
      rw [heq]
      simp
    · split at h
      · next heq =>
        obtain rfl := Except.ok.inj h
        rw [heq]
        simp
      · cases h

theorem pmfValue_ok {pmf : String} (h : pmf ∈ ["disabled", "optional", "required"]) :
    ∃ value, pmfValue (.str pmf) = .ok value := by
  simp only [List.mem_cons, List.not_mem_nil, or_false] at h
  rcases h with rfl | rfl | rfl
  · exact ⟨"0", rfl⟩
  · exact ⟨"1", rfl⟩
  · exact ⟨"2", rfl⟩

/-- A profile that validation lets through. -/
structure ProfileOk (security : Obj) : Prop where
  mode : ∃ mode ∈ securityModes, Dict.lookup "mode" security = some (.str mode)
  pmf : ∃ pmf ∈ ["disabled", "optional", "required"], Dict.lookup "pmf" security = some (.str pmf)

/-- **A profile is rendered, and strongly exactly if it is a strong profile.** -/
theorem strong_iff {security : Obj} (h : ProfileOk security) (band : String) (radius : Obj) (forMlo : Bool) :
    ∃ lines, securityLines security band radius forMlo = .ok lines ∧
      (Strong lines ↔ StrongProfile security band) := by
  obtain ⟨⟨mode, hmode, hlook⟩, pmf, hpmf, hpl⟩ := h
  have hm : modeOf security = mode := by
    unfold modeOf field
    rw [hlook]
    rfl
  have hp : field security "pmf" (.str "optional") = .str pmf := by
    unfold field
    rw [hpl]
    rfl
  by_cases hopen : mode = "open"
  · have hmo : modeOf security = "open" := hm.trans hopen
    unfold securityLines StrongProfile
    simp only [if_pos hmo]
    refine ⟨_, rfl, ?_⟩
    by_cases howe : (field security "owe" .null).truthy = true ∨ band = "6g"
    · rw [if_pos howe]
      refine iff_of_true ⟨by simp, ?_, by simp⟩ howe
      unfold akmsOf
      simp only [value?_cons_set]
      decide
    · rw [if_neg howe]
      refine iff_of_false (fun hstrong => hstrong.encrypted ?_) howe
      simp
  · have hne : modeOf security ≠ "open" := by
      rw [hm]
      exact hopen
    obtain ⟨value, hvalue⟩ := pmfValue_ok hpmf
    obtain ⟨lines, hlines, hwpa, hakms, hpmf'⟩ := keyed_lines hne (hp.symm ▸ hvalue)
    refine ⟨lines, hlines, ?_⟩
    have htwo : value? "ieee80211w" lines = some (.text "2") ↔ field security "pmf" (.str "optional") = .str "required" := by
      rw [hpmf', hp, ← pmfValue_eq_two hvalue]
      simp
    have hpsk := psk_iff hmode hopen (field security "fast_transition" .null).truthy
    unfold StrongProfile
    rw [if_neg hne, hm, ← htwo, ← hpsk, ← hm, ← hakms]
    constructor
    · rintro ⟨hpmf, hakms, -⟩
      exact ⟨hpmf, hakms⟩
    · rintro ⟨hpmf, hakms⟩
      refine ⟨hpmf, hakms, ?_⟩
      rw [hwpa]
      simp

end Sbegw.Hostapd
