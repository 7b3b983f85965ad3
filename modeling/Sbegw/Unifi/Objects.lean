import Sbegw.Unifi.Sync
import Sbegw.Schema.Untouched

/-!
# What becomes of the objects of a controller

Every network and every SSID of a snapshot is kept under a local name, which is made from its own name
and the beginning of its id; the last row of a local name takes it.
-/

namespace Sbegw.Unifi

open Text Schema Api

/-! ### The property -/

/-- What a commit makes of a staged document: it validates it once more, unless nothing has changed. -/
def committed (caps : Capabilities) (running staged : Obj) : Except Exn Obj :=
  if (Configd.changesOf running staged).isEmpty then .ok staged
  else (validate caps staged).map Prod.fst

/-- `sync_once` from the fetched rows to the configuration that results: the trial, where the running
configuration is like it already, or else what is staged on the candidate and committed; and what it
reports. -/
def syncResult (caps : Capabilities) (s : Snapshot) (cfg candidate : Obj) : Except Exn (Obj × List String) := do
  let (doc, unsupported) ← trialOf s cfg
  let (trial, _) ← validate caps doc
  if Json.pyEq (.obj trial) (.obj cfg) then .ok (trial, unsupported)
  else do
    let doc ← applyDesired (normalised trial) candidate
    let (staged, _) ← validate caps doc
    let result ← committed caps cfg staged
    .ok (result, unsupported)

/-- The controller ids of the networks and of the SSIDs of a document. -/
def networkId (doc : Obj) (nid : String) : Option Json := (networkAt doc nid).bind (·.get? "controller_id")

def ssidId (doc : Obj) (ident : String) : Option Json := (ssidAt doc ident).bind (·.get? "controller_id")

/-- A row has an entry of its own, recognisable by its id. -/
def HasOwn (rows : List Json) (ids : String → Option Json) (row : Json) : Prop :=
  ∃ ident, ids ident = some (rowId row) ∧ ∀ other ∈ rows, ids ident = some (rowId other) → other = row

/-- **No object is lost**: each has an entry of its own, or is reported. -/
def NothingLost (s : Snapshot) (result : Obj) (unsupported : List String) : Prop :=
  (∀ row ∈ s.networks, HasOwn s.networks (networkId result) row ∨ report "network" row ∈ unsupported) ∧
    ∀ row ∈ s.wifi, HasOwn s.wifi (ssidId result) row ∨ report "wifi" row ∈ unsupported

/-- The local name of a row that is translated. -/
def networkName (row : Json) : Option String := (localNetwork row).map Prod.fst

def ssidName (cfg : Obj) (row : Json) : Option String := (localSsid cfg [] row).map Prod.fst

/-- No later row takes the local name of a row, or the row is reported under the text of another id. -/
def KeepsNames (name : Json → Option String) (kind : String) (rows : List Json) : Prop :=
  ∀ l₁ row l₂, rows = l₁ ++ row :: l₂ → ∀ ident, name row = some ident →
    (∀ later ∈ l₂, name later ≠ some ident) ∨
      ∃ other ∈ rows, name other = none ∧ report kind other = report kind row

/-! ### Rows with ids of their own -/

theorem later_of_nodup {l₁ l₂ : List Json} {row : Json} (h : ((l₁ ++ row :: l₂).map rowId).Nodup) :
    ∀ later ∈ l₂, rowId later ≠ rowId row := by
  rw [List.map_append, List.map_cons] at h
  have htail := (List.nodup_cons.mp h.of_append_right).1
  exact fun later hlater heq => htail (heq ▸ List.mem_map_of_mem hlater)

/-- **Own entries**: a row keeps its entry exactly if no later row takes its name. -/
theorem hasOwn_iff {rows l₁ l₂ : List Json} {row : Json} {f : Json → Option (String × Obj)}
    {g : Json → Option (String × Json)} {ids : String → Option Json} (hdistinct : (rows.map rowId).Nodup)
    (hg : ∀ r, g r = (f r).map fun e => (e.1, .obj e.2))
    (hid : ∀ r ident value, f r = some (ident, value) → Dict.lookup "controller_id" value = some (rowId r))
    (hids : ∀ ident, ids ident = (Dict.lookup ident (Dict.written g rows)).bind (·.get? "controller_id"))
    (hsplit : rows = l₁ ++ row :: l₂) {ident : String} (hname : (f row).map Prod.fst = some ident) :
    HasOwn rows ids row ↔ ∀ later ∈ l₂, (f later).map Prod.fst ≠ some ident := by
  have hspared : ∀ {rs : List Json} {n : String},
      Dict.Spared g n rs ↔ ∀ r ∈ rs, (f r).map Prod.fst ≠ some n := by
    intro rs n
    refine forall₂_congr fun r _ => ?_
    rw [hg]
    cases f r with
    | none => simp
    | some e => simp [Prod.ext_iff, eq_comm]
  obtain ⟨⟨ident', value⟩, hf, hfst⟩ := Option.map_eq_some_iff.mp hname
  obtain rfl : ident' = ident := hfst
  have hlater := later_of_nodup (hsplit ▸ hdistinct)
  constructor
  · rintro ⟨n, hn, -⟩
    rw [hids] at hn
    obtain ⟨entry, hentry, hcid⟩ := Option.bind_eq_some_iff.mp hn
    obtain ⟨m₁, last, m₂, hsplit', hlast, hsp⟩ := Dict.lookup_written_eq_some.mp hentry
    rw [hg] at hlast
    obtain ⟨⟨n', value'⟩, hf', heq⟩ := Option.map_eq_some_iff.mp hlast
    obtain ⟨rfl, rfl⟩ := Prod.mk.inj heq
    have hlastId : rowId last = rowId row := by
      have hboth := (hid last _ _ hf').symm.trans hcid
      exact Option.some.inj hboth
    have hlater' := later_of_nodup (hsplit' ▸ hdistinct)
    obtain ⟨-, rfl, rfl⟩ := same_row (hsplit.symm.trans hsplit') (p := fun r => rowId r = rowId row)
      (q := fun r => rowId r = rowId last) rfl rfl hlastId hlastId.symm hlater hlater'
    obtain ⟨rfl, -⟩ := Prod.mk.inj (Option.some.inj (hf.symm.trans hf'))
    exact hspared.mp hsp
  · intro hfree
    have hentry : ids ident' = some (rowId row) := by
      rw [hids, Dict.lookup_written_eq_some.mpr ⟨l₁, row, l₂, hsplit, by rw [hg, hf]; rfl, hspared.mpr hfree⟩]
      exact hid row ident' value hf
    refine ⟨ident', hentry, fun other hother hsame => ?_⟩
    have hrow : row ∈ rows := by rw [hsplit]; simp
    have heq : rowId other = rowId row := Option.some.inj (hsame.symm.trans hentry)
    exact List.inj_on_of_nodup_map hdistinct hother hrow heq

/-- The rows of one kind. -/
theorem nothing_lost_of_kind {rows : List Json} {kind : String} {f : Json → Option (String × Obj)}
    {g : Json → Option (String × Json)} {ids : String → Option Json} {lines : List String}
    (hdistinct : (rows.map rowId).Nodup) (hg : ∀ r, g r = (f r).map fun e => (e.1, .obj e.2))
    (hid : ∀ r ident value, f r = some (ident, value) → Dict.lookup "controller_id" value = some (rowId r))
    (hids : ∀ ident, ids ident = (Dict.lookup ident (Dict.written g rows)).bind (·.get? "controller_id"))
    (hlines : ∀ row, report kind row ∈ lines ↔ ∃ other ∈ rows, f other = none ∧ report kind other = report kind row) :
    (∀ row ∈ rows, HasOwn rows ids row ∨ report kind row ∈ lines) ↔
      KeepsNames (fun r => (f r).map Prod.fst) kind rows := by
  constructor
  · intro h l₁ row l₂ hsplit ident hname
    rcases h row (by rw [hsplit]; simp) with hown | hreported
    · exact .inl ((hasOwn_iff hdistinct hg hid hids hsplit hname).mp hown)
    · obtain ⟨other, hother, hnone, hsame⟩ := (hlines row).mp hreported
      refine .inr ⟨other, hother, ?_, hsame⟩
      show (f other).map Prod.fst = none
      rw [hnone]
      rfl
  · intro h row hrow
    obtain ⟨l₁, l₂, hsplit⟩ := List.append_of_mem hrow
    cases hf : f row with
    | none => exact .inr ((hlines row).mpr ⟨row, hrow, hf, rfl⟩)
    | some e =>
      have hname : (f row).map Prod.fst = some e.1 := by rw [hf]; rfl
      rcases h l₁ row l₂ hsplit e.1 hname with hfree | ⟨other, hother, hnone, hsame⟩
      · exact .inl ((hasOwn_iff hdistinct hg hid hids hsplit hname).mpr hfree)
      · exact .inr ((hlines row).mpr ⟨other, hother, by simpa using hnone, hsame⟩)

/-! ### The rows of a snapshot -/

/-- The lines about networks are those of the rows without a translation. -/
theorem networkLoop_lines {rows : List Json} {t : Networks} (h : networkLoop rows = .ok t) (line : String) :
    line ∈ t.unsupported ↔ ∃ row ∈ rows, localNetwork row = none ∧ line = report "network" row := by
  induction rows using List.reverseRecOn generalizing t with
  | nil =>
    obtain rfl : (⟨[], [], []⟩ : Networks) = t := Except.ok.inj h
    simp
  | append_singleton rows row ih =>
    obtain ⟨u, hu, hstep⟩ := foldlM_concat_eq_ok.mp h
    unfold networkStep at hstep
    obtain ⟨o, ho, hrest⟩ := except_bind_eq_ok.mp hstep
    have hlocal : localNetwork row = o := by
      unfold localNetwork
      rw [ho]
      rfl
    have hsplit : (∃ r ∈ rows ++ [row], localNetwork r = none ∧ line = report "network" r) ↔
        line ∈ u.unsupported ∨ localNetwork row = none ∧ line = report "network" row := by
      rw [ih hu]
      simp only [List.mem_append, List.mem_singleton, or_and_right, exists_or, exists_eq_left]
    rw [hsplit, hlocal]
    cases o with
    | none =>
      obtain rfl := Except.ok.inj hrest
      simp
    | some e =>
      obtain rfl := Except.ok.inj hrest
      simp

theorem report_mem_networks {net wifi dns : List String} (hwifi : ∀ line ∈ wifi, ∃ row, line = report "wifi" row)
    (hdns : ∀ line ∈ dns, ∃ text, line = "dns:" ++ text) (row : Json) :
    report "network" row ∈ net ++ wifi ++ dns ↔ report "network" row ∈ net := by
  have hhead : (report "network" row).toList.head? = some 'n' := by simp [report]
  have hother : ∀ {line : String}, line.toList.head? ≠ some 'n' → report "network" row ≠ line :=
    fun hne heq => hne (heq ▸ hhead)
  simp only [List.mem_append]
  constructor
  · rintro ((h | h) | h)
    · exact h
    · obtain ⟨other, hrow⟩ := hwifi _ h
      exact absurd hrow (hother (by simp [report]))
    · obtain ⟨text, htext⟩ := hdns _ h
      exact absurd htext (hother (by simp))
  · exact fun h => .inl (.inl h)

/-- A translated SSID says which one of the controller it is. -/
theorem translateWifi_id {item : Json} {ids : Dict String String} {previous : Option Json} {ident : String}
    {value : Obj} (h : translateWifi item ids previous = .ok (some (ident, value))) :
    Dict.lookup "controller_id" value = some (rowId item) := by
  unfold translateWifi at h
  obtain ⟨type, -, h⟩ := except_bind_eq_ok.mp h
  split at h
  · exact absurd (Except.ok.inj h) (by simp)
  · obtain ⟨name, -, h⟩ := except_bind_eq_ok.mp h
    obtain ⟨secured, -, h⟩ := except_bind_eq_ok.mp h
    cases secured with
    | none => exact absurd (Except.ok.inj h) (by simp)
    | some secured =>
      obtain ⟨ref, -, h⟩ := except_bind_eq_ok.mp h
      obtain ⟨network, -, h⟩ := except_bind_eq_ok.mp h
      obtain ⟨bands, -, h⟩ := except_bind_eq_ok.mp h
      obtain ⟨-, rfl⟩ := Prod.mk.inj (Option.some.inj (Except.ok.inj h))
      rfl

theorem localSsid_id {cfg : Obj} {ids : Dict String String} {row : Json} {ident : String} {value : Obj}
    (h : localSsid cfg ids row = some (ident, value)) : Dict.lookup "controller_id" value = some (rowId row) := by
  unfold localSsid at h
  cases hrow : translateRow cfg ids row with
  | error e =>
    rw [hrow] at h
    exact absurd h (by simp [Except.toOption])
  | ok o =>
    rw [hrow] at h
    have ho : o = some (ident, value) := h
    rw [ho] at hrow
    exact translateWifi_id hrow

/-- The ids of the networks do not decide the name of an SSID. -/
theorem ssidName_eq {cfg : Obj} {ids : Dict String String} {row : Json} {o : Option (String × Obj)}
    (h : translateRow cfg ids row = .ok o) : (localSsid cfg ids row).map Prod.fst = ssidName cfg row := by
  unfold ssidName
  rcases localSsid_eq h with ⟨h₁, h₂⟩ | ⟨_, _, _, _, _, h₁, h₂, -⟩
  · rw [h₁, h₂]
  · rw [h₁, h₂]
    rfl

theorem keepsNames_congr {name name' : Json → Option String} {kind : String} {rows : List Json}
    (h : ∀ row ∈ rows, name row = name' row) : KeepsNames name kind rows ↔ KeepsNames name' kind rows := by
  unfold KeepsNames
  refine forall_congr' fun l₁ => forall_congr' fun row => forall_congr' fun l₂ => forall_congr' fun hsplit =>
    forall_congr' fun ident => ?_
  have hlater : ∀ later ∈ l₂, name later = name' later := fun later hmem => h later (by rw [hsplit]; simp [hmem])
  have hfree : (∀ later ∈ l₂, name later ≠ some ident) ↔ ∀ later ∈ l₂, name' later ≠ some ident :=
    forall₂_congr fun later hmem => by rw [hlater later hmem]
  have hother : (∃ other ∈ rows, name other = none ∧ report kind other = report kind row) ↔
      ∃ other ∈ rows, name' other = none ∧ report kind other = report kind row :=
    exists_congr fun other => and_congr_right fun hmem => by rw [h other hmem]
  rw [h row (by rw [hsplit]; simp), hfree, hother]

/-! ### The configuration that results -/

/-- A document without MLDs whose networks and SSIDs have the ids of those. -/
structure Has (networks ssids doc : Obj) : Prop where
  networks : ∃ nets, Dict.lookup "networks" doc = some (.obj nets) ∧
    ∀ n, (Dict.lookup n nets).bind (·.get? "controller_id") = (Dict.lookup n networks).bind (·.get? "controller_id")
  ssids : ∃ wifi nets, Dict.lookup "wifi" doc = some (.obj wifi) ∧ Dict.lookup "mlds" wifi = some (.obj []) ∧
    Dict.lookup "networks" wifi = some (.obj nets) ∧
    ∀ n, (Dict.lookup n nets).bind (·.get? "controller_id") = (Dict.lookup n ssids).bind (·.get? "controller_id")

theorem has_of_applied {desired : Desired} {base doc : Obj} (h : applyDesired desired base = .ok doc) :
    Has desired.networks desired.wifi doc := by
  obtain ⟨hnetworks, wifi, hwifi, hmlds, hssids⟩ := applyDesired_lookup h
  exact ⟨⟨_, hnetworks, fun _ => rfl⟩, ⟨wifi, _, hwifi, hmlds, hssids, fun _ => rfl⟩⟩

/-- Validation keeps the ids. -/
theorem Has.validated {caps : Capabilities} {networks ssids doc result : Obj} {warnings : List String}
    (h : Has networks ssids doc) (hv : validate caps doc = .ok (result, warnings)) : Has networks ssids result := by
  obtain ⟨⟨nets, hnets, hnetIds⟩, wifi, ssids', hwifi, hmlds, hssids, hssidIds⟩ := h
  obtain ⟨nets', hnets', hids⟩ := networkIds_of_validate hv hnets
  obtain ⟨wifi', ssids'', hwifi', hmlds', hssids', hids'⟩ := ssidIds_of_validate hv hwifi hmlds hssids
  refine ⟨⟨nets', hnets', fun n => ?_⟩, ⟨wifi', ssids'', hwifi', hmlds', hssids', fun n => ?_⟩⟩
  · rw [hids, hnetIds]
  · rw [hids', hssidIds]

theorem Has.ids {networks ssids doc : Obj} (h : Has networks ssids doc) :
    (∀ nid, networkId doc nid = (Dict.lookup nid networks).bind (·.get? "controller_id")) ∧
      ∀ ident, ssidId doc ident = (Dict.lookup ident ssids).bind (·.get? "controller_id") := by
  obtain ⟨⟨nets, hnets, hnetIds⟩, wifi, nets', hwifi, -, hssids, hssidIds⟩ := h
  constructor
  · intro nid
    have hat : networkAt doc nid = Dict.lookup nid nets := by simp [networkAt, sect, hnets, Json.get?]
    rw [networkId, hat, hnetIds]
  · intro ident
    have hat : ssidAt doc ident = Dict.lookup ident nets' := by
      simp [ssidAt, sect, hwifi, Json.getD, hssids, Json.get?]
    rw [ssidId, hat, hssidIds]

theorem Has.committed {caps : Capabilities} {networks ssids running staged result : Obj} (h : Has networks ssids staged)
    (hc : Unifi.committed caps running staged = .ok result) : Has networks ssids result := by
  unfold Unifi.committed at hc
  split at hc
  · obtain rfl := Except.ok.inj hc
    exact h
  · cases hv : validate caps staged with
    | error e =>
      rw [hv] at hc
      exact absurd hc (by simp [Except.map])
    | ok r =>
      rw [hv] at hc
      obtain rfl := Except.ok.inj hc
      exact h.validated hv

theorem ids_of_normalised {trial : Obj} :
    (∀ nid, networkId trial nid = (Dict.lookup nid (normalised trial).networks).bind (·.get? "controller_id")) ∧
      ∀ ident, ssidId trial ident = (Dict.lookup ident (normalised trial).wifi).bind (·.get? "controller_id") :=
  ⟨fun _ => rfl, fun _ => rfl⟩

/-- What a sync has made of a snapshot, whichever way it went. -/
theorem ids_of_syncResult {caps : Capabilities} {s : Snapshot} {cfg candidate result : Obj}
    {unsupported : List String} (h : syncResult caps s cfg candidate = .ok (result, unsupported)) :
    ∃ desired, desiredOf s cfg = .ok (desired, unsupported) ∧
      (∀ nid, networkId result nid = (Dict.lookup nid desired.networks).bind (·.get? "controller_id")) ∧
      ∀ ident, ssidId result ident = (Dict.lookup ident desired.wifi).bind (·.get? "controller_id") := by
  unfold syncResult at h
  obtain ⟨⟨doc, lines⟩, htrial, h₁⟩ := except_bind_eq_ok.mp h
  obtain ⟨⟨trial, warnings⟩, hvalid, h₂⟩ := except_bind_eq_ok.mp h₁
  obtain ⟨⟨desired, lines'⟩, hd, htrial₁⟩ := except_bind_eq_ok.mp htrial
  obtain ⟨doc', ha, htrial₂⟩ := except_bind_eq_ok.mp htrial₁
  obtain ⟨rfl, rfl⟩ := Prod.mk.inj (Except.ok.inj htrial₂)
  obtain ⟨hnet, hssid⟩ := ((has_of_applied ha).validated hvalid).ids
  simp only at h₂
  split at h₂
  · obtain ⟨rfl, rfl⟩ := Prod.mk.inj (Except.ok.inj h₂)
    exact ⟨desired, hd, hnet, hssid⟩
  · obtain ⟨doc₂, ha', h₃⟩ := except_bind_eq_ok.mp h₂
    obtain ⟨⟨staged, warnings'⟩, hvalid', h₄⟩ := except_bind_eq_ok.mp h₃
    obtain ⟨result', hcommitted, h₅⟩ := except_bind_eq_ok.mp h₄
    obtain ⟨rfl, rfl⟩ := Prod.mk.inj (Except.ok.inj h₅)
    obtain ⟨hnet', hssid'⟩ := (((has_of_applied ha').validated hvalid').committed hcommitted).ids
    refine ⟨desired, hd, fun nid => ?_, fun ident => ?_⟩
    · rw [hnet', ← ids_of_normalised.1, hnet]
    · rw [hssid', ← ids_of_normalised.2, hssid]

/-- Two networks, added one after the other, whose names become the same. -/
def roomsSnapshot : Snapshot :=
  ⟨[controllerLan,
    controllerNetwork "66f2a81c9b1e8a0012345601" "Kids room" "192.168.30" "SERVER" [("vlanId", .int 30)],
    controllerNetwork "66f2a81c9b1e8a0012345602" "Kids-Room" "192.168.40" "SERVER" [("vlanId", .int 40)]], [], []⟩

end Sbegw.Unifi
