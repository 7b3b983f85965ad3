import Sbegw.Api.Reads
import Sbegw.Configd.System
import Sbegw.Configd.Veil

/-!
# What the read handlers tell about secrets

Two sites whose documents differ only in strings under secret keys, and in which the same secrets
are pending, are compared read by read.  Masking alone does not hide a secret from every read:
`reads_hide_secrets_iff` says which secrets must agree for all answers to agree.
-/

namespace Sbegw.Api

open Configd

/-! ### What masking leaves -/

mutual
/-- The values are the same but for what `_redact_secrets` masks. -/
def sameUnmasked : Json → Json → Bool
  | .arr a, b => match b with | .arr b => sameUnmaskedList a b | _ => false
  | .obj a, b => match b with | .obj b => sameUnmaskedEntries a b | _ => false
  | a, b => decide (a = b)
def sameUnmaskedList : List Json → List Json → Bool
  | [], bs => bs.isEmpty
  | a :: as, bs => match bs with | [] => false | b :: bs => sameUnmasked a b && sameUnmaskedList as bs
def sameUnmaskedEntries : List (String × Json) → List (String × Json) → Bool
  | [], bs => bs.isEmpty
  | (k, a) :: as, bs =>
    match bs with
    | [] => false
    | (l, b) :: bs => (k == l && (isMasked k || sameUnmasked a b)) && sameUnmaskedEntries as bs
end

mutual
theorem redactSecrets_eq_iff : ∀ a b : Json,
    redactSecrets a = redactSecrets b ↔ sameUnmasked a b = true
  | .arr a, b => by
    cases b <;> simp [redactSecrets, sameUnmasked]
    exact redactList_eq_iff a _
  | .obj a, b => by
    cases b <;> simp [redactSecrets, sameUnmasked]
    exact redactEntries_eq_iff a _
  | .null, b => by cases b <;> simp [redactSecrets, sameUnmasked]
  | .bool _, b => by cases b <;> simp [redactSecrets, sameUnmasked]
  | .int _, b => by cases b <;> simp [redactSecrets, sameUnmasked]
  | .float _, b => by cases b <;> simp [redactSecrets, sameUnmasked]
  | .str _, b => by cases b <;> simp [redactSecrets, sameUnmasked]
theorem redactList_eq_iff : ∀ a b : List Json,
    redactList a = redactList b ↔ sameUnmaskedList a b = true
  | [], [] => by simp [redactList, sameUnmaskedList]
  | [], _ :: _ => by simp [redactList, sameUnmaskedList]
  | _ :: _, [] => by simp [redactList, sameUnmaskedList]
  | a :: as, b :: bs => by
    simp only [redactList, sameUnmaskedList, List.cons.injEq, Bool.and_eq_true]
    rw [redactSecrets_eq_iff a b, redactList_eq_iff as bs]
theorem redactEntries_eq_iff : ∀ a b : List (String × Json),
    redactEntries a = redactEntries b ↔ sameUnmaskedEntries a b = true
  | [], [] => by simp [redactEntries, sameUnmaskedEntries]
  | [], _ :: _ => by simp [redactEntries, sameUnmaskedEntries]
  | _ :: _, [] => by simp [redactEntries, sameUnmaskedEntries]
  | (k, a) :: as, (l, b) :: bs => by
    simp only [redactEntries, sameUnmaskedEntries, List.cons.injEq, Bool.and_eq_true,
      Prod.mk.injEq, beq_iff_eq, Bool.or_eq_true]
    rw [redactEntries_eq_iff as bs]
    refine and_congr_left' (and_congr_right fun hkl => ?_)
    subst hkl
    by_cases hk : isMasked k = true
    · simp [hk]
    · simp only [hk, if_false, false_or, Bool.false_eq_true]
      exact redactSecrets_eq_iff a b
end

theorem lookup_redactEntries {k : String} (hk : isMasked k = false) (a : Obj) :
    Dict.lookup k (redactEntries a) = (Dict.lookup k a).map redactSecrets := by
  induction a with
  | nil => rfl
  | cons e a ih =>
    obtain ⟨j, v⟩ := e
    by_cases hjk : j = k
    · subst hjk
      simp [redactEntries, Dict.lookup, hk]
    · simp [redactEntries, Dict.lookup, hjk, ih]

theorem redactSecrets_sect {k : String} (hk : isMasked k = false) {r₁ r₂ : Obj}
    (h : sameUnmasked (.obj r₁) (.obj r₂) = true) :
    redactSecrets (sect r₁ k) = redactSecrets (sect r₂ k) := by
  have he : redactEntries r₁ = redactEntries r₂ := by
    rw [redactEntries_eq_iff]
    simpa [sameUnmasked] using h
  have hk' := congrArg (Dict.lookup k) he
  rw [lookup_redactEntries hk, lookup_redactEntries hk] at hk'
  unfold sect
  cases h₁ : Dict.lookup k r₁ <;> cases h₂ : Dict.lookup k r₂ <;> simp_all

/-! ### The reads -/

/-- The settings as the agent shows them: the same, but for API keys that are both non-empty. -/
def SameSettings (a b : Obj) : Prop :=
  List.Forall₂ (fun x y => x.1 = y.1 ∧
    (x.2 = y.2 ∨ x.1 = "api_key" ∧ x.2.truthy = true ∧ y.2.truthy = true)) a b

/-- The user records are the same in what `GET /users` reads. -/
def SameUsers (a b : Obj) : Prop :=
  List.Forall₂ (fun x y => x.1 = y.1 ∧ x.2.getD "role" .null = y.2.getD "role" .null ∧
    x.2.getD "created" .null = y.2.getD "created" .null ∧
    (x.2.getD "totp_secret" .null).truthy = (y.2.getD "totp_secret" .null).truthy) a b

/-- Every WAN of the telemetry sample has an id. -/
def Site.wansIndexed (s : Site) : Prop :=
  ∃ index, indexById ((Dict.lookup "wans" s.snapshot).getD (.arr [])) = .ok index

/-- No secret in which the sites differ is in a place that the read handlers show. -/
structure Unseen (s : Site) (r₁ c₁ r₂ c₂ : Obj) : Prop where
  system : sect r₁ "system" = sect r₂ "system"
  wifi : sect r₁ "wifi" = sect r₂ "wifi"
  wans : s.wansIndexed → (sect r₁ "wans").isObj = true →
    sect r₁ "wans" = sect r₂ "wans" ∧ sect r₁ "multiwan" = sect r₂ "multiwan"
  controller : s.agent.isSome = true →
    SameSettings (sect r₁ "controller").entries (sect r₂ "controller").entries
  users : (∀ e ∈ (sect r₁ "users").entries, e.2.isObj = true) →
    SameUsers (sect r₁ "users").entries (sect r₂ "users").entries
  running : sameUnmasked (.obj r₁) (.obj r₂) = true
  candidate : sameUnmasked (.obj c₁) (.obj c₂) = true
  pending : SameWhereChanged (.obj r₁) (.obj c₁) (.obj r₂) (.obj c₂)

theorem controllerEntries_eq_iff : ∀ a b : Obj,
    a.map controllerEntry = b.map controllerEntry ↔ SameSettings a b
  | [], [] => by simp [SameSettings]
  | [], _ :: _ => by simp [SameSettings]
  | _ :: _, [] => by simp [SameSettings]
  | (k, v) :: a, (l, w) :: b => by
    have ih := controllerEntries_eq_iff a b
    unfold SameSettings at ih ⊢
    rw [List.forall₂_cons, ← ih, List.map_cons, List.map_cons, List.cons.injEq]
    refine and_congr_left' ?_
    have hstar : (Json.str "********").truthy = true := by decide
    simp only [controllerEntry, Prod.mk.injEq]
    refine and_congr_right fun hkl => ?_
    subst hkl
    by_cases hk : k = "api_key"
    · by_cases hv : v.truthy = true <;> by_cases hw : w.truthy = true
      · simp [hk, hv, hw]
      · simp only [hk, hv, hw, decide_true, Bool.and_true, Bool.and_false, if_true,
          Bool.false_eq_true, if_false]
        grind
      · simp only [hk, hv, hw, decide_true, Bool.and_true, Bool.and_false, if_true,
          Bool.false_eq_true, if_false]
        grind
      · simp [hk, hv, hw]
    · simp [hk]

/-- What `GET /users` shows of a record. -/
def userJson (e : String × Json) : Json :=
  .obj [("username", .str e.1), ("role", e.2.getD "role" .null),
    ("created", e.2.getD "created" .null),
    ("mfa_enabled", .bool (e.2.getD "totp_secret" .null).truthy)]

theorem userItem_of_isObj {e : String × Json} (h : e.2.isObj = true) :
    userItem e = .ok (userJson e) := by
  obtain ⟨name, data⟩ := e
  cases data with
  | obj d => rfl
  | _ => simp [Json.isObj] at h

theorem userItem_of_not_isObj {e : String × Json} (h : e.2.isObj = false) :
    userItem e = .error .attribute := by
  obtain ⟨name, data⟩ := e
  cases data with
  | obj d => simp [Json.isObj] at h
  | _ => rfl

/-- The records are listed if all of them are objects; else the listing raises. -/
theorem forEach_userItem (users : Obj) :
    forEach userItem users =
      if (users.all fun e => e.2.isObj) = true then .ok (users.map userJson)
      else .error .attribute := by
  induction users with
  | nil => rfl
  | cons e users ih =>
    simp only [forEach, List.all_cons]
    by_cases he : e.2.isObj = true
    · rw [userItem_of_isObj he, ih]
      by_cases hu : (users.all fun e => e.2.isObj) = true
      · simp [he, hu]
      · simp [he, hu]
    · rw [Bool.not_eq_true] at he
      rw [userItem_of_not_isObj he]
      simp [he]

theorem userJsons_eq_iff : ∀ a b : Obj, a.map userJson = b.map userJson ↔ SameUsers a b
  | [], [] => by simp [SameUsers]
  | [], _ :: _ => by simp [SameUsers]
  | _ :: _, [] => by simp [SameUsers]
  | x :: a, y :: b => by
    have ih := userJsons_eq_iff a b
    unfold SameUsers at ih ⊢
    rw [List.forall₂_cons, ← ih, List.map_cons, List.map_cons, List.cons.injEq]
    refine and_congr_left' ?_
    simp [userJson]

theorem all_isObj_veiled : ∀ {a b : Obj}, veiledEntries a b = true →
    (a.all fun e => e.2.isObj) = b.all fun e => e.2.isObj
  | [], b, h => by
    have hb : b = [] := by simpa [veiledEntries] using h
    rw [hb]
  | (k, u) :: a, [], h => by simp [veiledEntries] at h
  | (k, u) :: a, (l, v) :: b, h => by
    simp only [veiledEntries, Bool.and_eq_true] at h
    simp only [List.all_cons]
    rw [veiled_isObj h.1.2, all_isObj_veiled h.2]

theorem veiled_sect {a b : Obj} (h : veiledEntries a b = true) (k : String) :
    veiled (isSecretKey k) (sect a k) (sect b k) = true := by
  unfold sect
  rcases veiled_lookup h k with ⟨ha, hb⟩ | ⟨u, v, ha, hb, huv⟩
  · rw [ha, hb]; rfl
  · rw [ha, hb]; exact huv

theorem veiled_entries {s : Bool} {a b : Json} (h : veiled s a b = true) :
    veiledEntries a.entries b.entries = true := by
  cases a <;> cases b <;> simp_all [veiled, Json.entries, veiledEntries]

theorem exists_of_isObj {j : Json} (h : j.isObj = true) : ∃ o, j = .obj o := by
  cases j with
  | obj o => exact ⟨o, rfl⟩
  | _ => simp [Json.isObj] at h

theorem items_of_not_isObj {j : Json} (h : j.isObj = false) : items j = .error .attribute := by
  cases j with
  | obj o => simp [Json.isObj] at h
  | _ => rfl

theorem entries_of_not_isObj {j : Json} (h : j.isObj = false) : j.entries = [] := by
  cases j with
  | obj o => simp [Json.isObj] at h
  | _ => rfl

/-! ### Each read -/

section Read

variable (s : Site) {r₁ c₁ r₂ c₂ : Obj}

theorem getSystem_eq_iff : getSystem (s.holding r₁ c₁) = getSystem (s.holding r₂ c₂) ↔
    sect r₁ "system" = sect r₂ "system" := by
  simp [getSystem, Site.holding, pendingJson]

theorem getWifi_eq_iff : getWifi (s.holding r₁ c₁) = getWifi (s.holding r₂ c₂) ↔
    sect r₁ "wifi" = sect r₂ "wifi" := by
  simp [getWifi, Site.holding]

theorem getConfig_eq_iff : getConfig (s.holding r₁ c₁) = getConfig (s.holding r₂ c₂) ↔
    sameUnmasked (.obj r₁) (.obj r₂) = true ∧ sameUnmasked (.obj c₁) (.obj c₂) = true := by
  rw [← redactSecrets_eq_iff, ← redactSecrets_eq_iff]
  simp [getConfig, Site.holding]

theorem getPending_eq_iff : getPending (s.holding r₁ c₁) = getPending (s.holding r₂ c₂) ↔
    changesOf r₁ c₁ = changesOf r₂ c₂ := by
  have hinj : Function.Injective changeJson := by
    rintro ⟨p, u, v⟩ ⟨q, x, y⟩ h
    simpa [changeJson] using h
  simp [getPending, Site.holding, pendingJson, List.map_inj_right (fun _ _ h => hinj h)]

theorem getWifiNetworks_congr (h : sect r₁ "wifi" = sect r₂ "wifi") :
    getWifiNetworks (s.holding r₁ c₁) = getWifiNetworks (s.holding r₂ c₂) := by
  unfold getWifiNetworks
  simp only [Site.holding, Site.wifiState, h]

theorem getWans_eq_iff (hr : veiledEntries r₁ r₂ = true) :
    getWans (s.holding r₁ c₁) = getWans (s.holding r₂ c₂) ↔
      (s.wansIndexed → (sect r₁ "wans").isObj = true →
        sect r₁ "wans" = sect r₂ "wans" ∧ sect r₁ "multiwan" = sect r₂ "multiwan") := by
  have hw := veiled_sect hr "wans"
  unfold getWans
  simp only [Site.holding, Site.wansIndexed]
  cases indexById ((Dict.lookup "wans" s.snapshot).getD (.arr [])) with
  | error e => simp [Except.bind]
  | ok index =>
    by_cases ho : (sect r₁ "wans").isObj = true
    · obtain ⟨w₁, h₁⟩ := exists_of_isObj ho
      rw [h₁] at hw
      obtain ⟨w₂, h₂, -⟩ := veiled_obj_left hw
      have hinj : Function.Injective fun e : String × Json =>
          Json.obj [("id", .str e.1), ("config", e.2), ("state", indexGet index e.1)] := by
        rintro ⟨p, u⟩ ⟨q, v⟩ h
        simp only [Json.obj.injEq, List.cons.injEq, Prod.mk.injEq, Json.str.injEq, true_and] at h
        exact Prod.ext h.1 h.2.1
      rw [h₁, h₂]
      simp [items, Except.bind, Except.map, Json.isObj, List.map_inj_right (fun _ _ h => hinj h)]
    · have h₁ : items (sect r₁ "wans") = .error .attribute := items_of_not_isObj (by simpa using ho)
      have h₂ : items (sect r₂ "wans") = .error .attribute :=
        items_of_not_isObj (by rw [← veiled_isObj hw]; simpa using ho)
      rw [h₁, h₂]
      simp [Except.bind, Except.map, ho]

theorem getController_eq_iff (hr : veiledEntries r₁ r₂ = true) (ha : s.agent.isSome = true) :
    getController (s.holding r₁ c₁) = getController (s.holding r₂ c₂) ↔
      SameSettings (sect r₁ "controller").entries (sect r₂ "controller").entries := by
  obtain ⟨agent, hagent⟩ := Option.isSome_iff_exists.mp ha
  have hc := veiled_sect hr "controller"
  unfold getController
  simp only [Site.holding, hagent]
  by_cases ho : (sect r₁ "controller").isObj = true
  · obtain ⟨x₁, h₁⟩ := exists_of_isObj ho
    rw [h₁] at hc
    obtain ⟨x₂, h₂, -⟩ := veiled_obj_left hc
    rw [h₁, h₂]
    simp [items, Except.map, controllerEntries_eq_iff]
  · have ho₂ := ho
    rw [veiled_isObj hc] at ho₂
    rw [Bool.not_eq_true] at ho ho₂
    rw [items_of_not_isObj ho, items_of_not_isObj ho₂, entries_of_not_isObj ho,
      entries_of_not_isObj ho₂]
    simp [Except.map, SameSettings]

theorem getController_congr (ha : s.agent = none) (h : sameUnmasked (.obj r₁) (.obj r₂) = true) :
    getController (s.holding r₁ c₁) = getController (s.holding r₂ c₂) := by
  unfold getController
  simp only [Site.holding, ha]
  rw [redactSecrets_sect (by decide) h]

theorem getUsers_eq_iff (hr : veiledEntries r₁ r₂ = true) :
    getUsers (s.holding r₁ c₁) = getUsers (s.holding r₂ c₂) ↔
      ((∀ e ∈ (sect r₁ "users").entries, e.2.isObj = true) →
        SameUsers (sect r₁ "users").entries (sect r₂ "users").entries) := by
  have hu := veiled_sect hr "users"
  unfold getUsers
  simp only [Site.holding]
  by_cases ho : (sect r₁ "users").isObj = true
  · obtain ⟨x₁, h₁⟩ := exists_of_isObj ho
    rw [h₁] at hu
    obtain ⟨x₂, h₂, hx⟩ := veiled_obj_left hu
    rw [h₁, h₂]
    simp only [items, Except.bind, Json.entries_obj, forEach_userItem, all_isObj_veiled hx]
    by_cases hall : (x₂.all fun e => e.2.isObj) = true
    · have hall₁ : ∀ e ∈ x₁, e.2.isObj = true := by
        rw [← all_isObj_veiled hx] at hall
        simpa using hall
      rw [if_pos hall, if_pos hall, imp_iff_right hall₁, ← userJsons_eq_iff]
      simp [Except.map]
    · have hall₁ : ¬∀ e ∈ x₁, e.2.isObj = true := by
        rw [← all_isObj_veiled hx] at hall
        simpa using hall
      rw [if_neg hall, if_neg hall]
      exact ⟨fun _ h => absurd h hall₁, fun _ => rfl⟩
  · have ho₂ := ho
    rw [veiled_isObj hu] at ho₂
    rw [Bool.not_eq_true] at ho ho₂
    rw [items_of_not_isObj ho, items_of_not_isObj ho₂, entries_of_not_isObj ho,
      entries_of_not_isObj ho₂]
    simp [Except.bind, SameUsers]

end Read

/-- **The reads do not tell two sites apart** that differ in secrets only, exactly if no secret in
which they differ is in a place that the read handlers show. -/
theorem reads_hide_secrets_iff (s : Site) {r₁ c₁ r₂ c₂ : Obj}
    (hr : veiled false (.obj r₁) (.obj r₂) = true) (hc : veiled false (.obj c₁) (.obj c₂) = true)
    (hp : SamePattern (.obj r₁) (.obj c₁) (.obj r₂) (.obj c₂)) :
    (∀ q : Read, (s.holding r₁ c₁).get q = (s.holding r₂ c₂).get q) ↔ Unseen s r₁ c₁ r₂ c₂ := by
  have hr' : veiledEntries r₁ r₂ = true := by simpa [veiled] using hr
  constructor
  · intro h
    have hconfig := (getConfig_eq_iff s).mp (h .config)
    exact {
      system := (getSystem_eq_iff s).mp (h .system)
      wifi := (getWifi_eq_iff s).mp (h .wifi)
      wans := (getWans_eq_iff s hr').mp (h .wans)
      controller := fun ha => (getController_eq_iff s hr' ha).mp (h .controller)
      users := (getUsers_eq_iff s hr').mp (h .users)
      running := hconfig.1
      candidate := hconfig.2
      pending := (changesOf_eq_iff hr hc hp).mp ((getPending_eq_iff s).mp (h .pending)) }
  · intro h q
    cases q with
    | config => exact (getConfig_eq_iff s).mpr ⟨h.running, h.candidate⟩
    | pending => exact (getPending_eq_iff s).mpr ((changesOf_eq_iff hr hc hp).mpr h.pending)
    | wifi => exact (getWifi_eq_iff s).mpr h.wifi
    | wifiNetworks => exact getWifiNetworks_congr s h.wifi
    | wans => exact (getWans_eq_iff s hr').mpr h.wans
    | controller =>
      by_cases ha : s.agent.isSome = true
      · exact (getController_eq_iff s hr' ha).mpr (h.controller ha)
      · exact getController_congr s (by simpa using ha) h.running
    | users => exact (getUsers_eq_iff s hr').mpr h.users
    | system => exact (getSystem_eq_iff s).mpr h.system
    | audit limit offset => rfl
    | revisions => rfl

/-! ### A PPPoE password in plain sight -/

/-- The default document with a PPPoE line. -/
def pppoeConfig (password : String) : Obj :=
  let wans := sect Schema.defaultEntries "wans"
  let line := Json.obj [("username", .str "line"), ("password", .str password)]
  let wan := ((wans.getD "wan1" .null).put "mode" (.str "pppoe")).put "pppoe" line
  Dict.set "wans" (wans.put "wan1" wan) Schema.defaultEntries

/-- A site without telemetry and without a controller agent. -/
def bareSite : Site := ⟨Store.blank, [], none⟩

theorem samePattern_self (r₁ r₂ : Json) : SamePattern r₁ r₁ r₂ r₂ := by
  intro p x₁ y₁ x₂ y₂ h₁ h₂ h₃ h₄
  rw [h₁] at h₂
  rw [h₃] at h₄
  simp only [Option.some.injEq, Json.str.injEq] at h₂ h₄
  exact ⟨fun _ => h₄, fun _ => h₂⟩

/-- `GET /wans` answers with the PPPoE password: two sites that differ in nothing else answer
differently. -/
theorem pppoe_password_shown :
    (Schema.validate Schema.Capabilities.empty (pppoeConfig "alpha-secret")).isOk = true ∧
    veiled false (.obj (pppoeConfig "alpha-secret")) (.obj (pppoeConfig "bravo-secret")) = true ∧
    SamePattern (.obj (pppoeConfig "alpha-secret")) (.obj (pppoeConfig "alpha-secret"))
      (.obj (pppoeConfig "bravo-secret")) (.obj (pppoeConfig "bravo-secret")) ∧
    ¬∀ q : Read,
      (bareSite.holding (pppoeConfig "alpha-secret") (pppoeConfig "alpha-secret")).get q =
        (bareSite.holding (pppoeConfig "bravo-secret") (pppoeConfig "bravo-secret")).get q := by
  refine ⟨by decide +kernel, by decide +kernel, samePattern_self _ _, fun h => ?_⟩
  have hwans := h .wans
  revert hwans
  decide +kernel

/-- The two PPPoE sites satisfy what the comparison asks of its sites. -/
theorem reads_hide_secrets_iff_pppoe :
    (∀ q : Read,
      (bareSite.holding (pppoeConfig "alpha-secret") (pppoeConfig "alpha-secret")).get q =
        (bareSite.holding (pppoeConfig "bravo-secret") (pppoeConfig "bravo-secret")).get q) ↔
      Unseen bareSite (pppoeConfig "alpha-secret") (pppoeConfig "alpha-secret")
        (pppoeConfig "bravo-secret") (pppoeConfig "bravo-secret") :=
  reads_hide_secrets_iff bareSite (by decide +kernel) (by decide +kernel) (samePattern_self _ _)

end Sbegw.Api
