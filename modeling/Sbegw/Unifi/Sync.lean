import Sbegw.Unifi.Translate

/-!
# Where a synced SSID ends up

`sync_once` collects the translated networks under their local names, and the local name of each under
its controller id; an SSID is attached to what its reference finds there, or else to `default`.
-/

namespace Sbegw.Unifi

open Text Schema Api

/-! ### The loops of `sync_once` -/

/-- What a controller sends: the details of its networks, SSIDs and DNS policies. -/
structure Snapshot where
  networks : List Json
  wifi : List Json
  dns : List Json

/-- `row.get("id")` -/
def rowId (row : Json) : Json := row.getD "id" .null

/-- The line that reports a row. -/
def report (kind : String) (row : Json) : String := kind ++ ":" ++ pyStr (row.getD "id" (.str "unknown"))

/-- What the loop over the networks collects. -/
structure Networks where
  /-- `translated_networks` -/
  entries : Obj
  /-- `controller_to_local` -/
  ids : Dict String String
  unsupported : List String

def networkStep (s : Networks) (row : Json) : Except Exn Networks := do
  match ← translateNetwork row with
  | some (ident, value) =>
    .ok ⟨Dict.set ident (.obj value) s.entries, Dict.set (pyStr (rowId row)) ident s.ids, s.unsupported⟩
  | none => .ok { s with unsupported := s.unsupported ++ [report "network" row] }

def networkLoop (rows : List Json) : Except Exn Networks := rows.foldlM networkStep ⟨[], [], []⟩

/-- `previous_by_controller` -/
def previousByController (cfg : Obj) : Dict String Json :=
  Dict.written (fun value =>
    let id := value.getD "controller_id" .null
    if id.truthy then some (pyStr id, value) else none)
    (((sect cfg "wifi").getD "networks" (.obj [])).entries.map Prod.snd)

/-- `translate_wifi` of a row, with the SSID that came from it before. -/
def translateRow (cfg : Obj) (ids : Dict String String) (row : Json) : Except Exn (Option (String × Obj)) :=
  translateWifi row ids (Dict.lookup (pyStr (rowId row)) (previousByController cfg))

/-- What the loop over the SSIDs collects. -/
structure Ssids where
  /-- `translated_wifi` -/
  entries : Obj
  unsupported : List String

def wifiStep (cfg : Obj) (ids : Dict String String) (s : Ssids) (row : Json) : Except Exn Ssids := do
  match ← translateRow cfg ids row with
  | some (ident, value) => .ok { s with entries := Dict.set ident (.obj value) s.entries }
  | none => .ok { s with unsupported := s.unsupported ++ [report "wifi" row] }

def wifiLoop (cfg : Obj) (ids : Dict String String) (rows : List Json) : Except Exn Ssids :=
  rows.foldlM (wifiStep cfg ids) ⟨[], []⟩

/-- What the loop over the DNS policies collects. -/
structure Policies where
  records : List Json
  forwarders : List Json
  unsupported : List String

def dnsStep (s : Policies) (row : Json) : Except Exn Policies := do
  match ← translateDns row with
  | some (.record r) => .ok { s with records := s.records ++ [r] }
  | some (.forwarder f) => .ok { s with forwarders := s.forwarders ++ [f] }
  | none => .ok { s with unsupported := s.unsupported ++ [report "dns" row] }

def dnsLoop (rows : List Json) : Except Exn Policies := rows.foldlM dnsStep ⟨[], [], []⟩

/-- `sync_once` from the fetched rows to the change that it tries: what is desired, and what is reported. -/
def desiredOf (s : Snapshot) (cfg : Obj) : Except Exn (Desired × List String) := do
  let networks ← networkLoop s.networks
  if (Dict.lookup "default" networks.entries).isNone then
    .error (.value "controller did not return a managed default network")
  let wifi ← wifiLoop cfg networks.ids s.wifi
  let dns ← dnsLoop s.dns
  .ok (⟨networks.entries, wifi.entries, dns.records, dns.forwarders⟩,
    networks.unsupported ++ wifi.unsupported ++ dns.unsupported)

/-- The trial of `sync_once`, which it validates and stages, and what it reports. -/
def trialOf (s : Snapshot) (cfg : Obj) : Except Exn (Obj × List String) := do
  let (desired, unsupported) ← desiredOf s cfg
  let trial ← applyDesired desired cfg
  .ok (trial, unsupported)

/-! ### The property -/

/-- The network that a row is translated to. -/
def localNetwork (row : Json) : Option (String × Obj) := (translateNetwork row).toOption.join

/-- The SSID that a row is translated to, for the ids of the networks. -/
def localSsid (cfg : Obj) (ids : Dict String String) (row : Json) : Option (String × Obj) :=
  (translateRow cfg ids row).toOption.join

/-- The reference of a row names a controller network. -/
def Refers (row id : Json) : Prop := networkRef row = .ok id ∧ id ≠ .null

/-- A network of the snapshot with this id has been translated. -/
def Translated (s : Snapshot) (id : Json) : Prop :=
  ∃ row ∈ s.networks, rowId row = id ∧ (localNetwork row).isSome

/-- The networks and SSIDs of a document. -/
def networkAt (doc : Obj) (nid : String) : Option Json := (sect doc "networks").get? nid

def ssidAt (doc : Obj) (ident : String) : Option Json := ((sect doc "wifi").getD "networks" (.obj [])).get? ident

/-- The SSID `ident` is attached to the local network that the controller network `id` is translated to. -/
def Attached (s : Snapshot) (doc : Obj) (ident : String) (id : Json) : Prop :=
  ∃ ssid nid row value, ssidAt doc ident = some (.obj ssid) ∧ Dict.lookup "network" ssid = some (.str nid) ∧
    row ∈ s.networks ∧ rowId row = id ∧ localNetwork row = some (nid, value) ∧
      networkAt doc nid = some (.obj value)

/-- A row is written under `ident`: no row after it takes the name. -/
def Writes (cfg : Obj) (row : Json) (rest : List Json) (ident : String) : Prop :=
  ∃ value, localSsid cfg [] row = some (ident, value) ∧ Dict.Spared (localSsid cfg []) ident rest

/-- **No SSID moves**: each one that refers to a controller network is attached to what became of that
network; where nothing did, it is not written and is reported. -/
def KeepsNetworks (cfg : Obj) (s : Snapshot) (doc : Obj) (unsupported : List String) : Prop :=
  ∀ l₁ row l₂, s.wifi = l₁ ++ row :: l₂ → ∀ id, Refers row id →
    (∀ ident, Writes cfg row l₂ ident → Attached s doc ident id) ∧
      (¬ Translated s id → (∀ ident, ¬ Writes cfg row l₂ ident) ∧ report "wifi" row ∈ unsupported)

/-- The network with this id is the last of its id and of its local name. -/
def Resolved (s : Snapshot) (id : Json) : Prop :=
  ∃ n₁ row n₂ nid value, s.networks = n₁ ++ row :: n₂ ∧ rowId row = id ∧
    localNetwork row = some (nid, value) ∧ Dict.Spared localNetwork nid n₂ ∧
      ((∃ text, id = .str text) ∧
          (∀ later ∈ n₂, (localNetwork later).isSome → pyStr (rowId later) ≠ pyStr id) ∨
        (∀ text, id ≠ .str text) ∧ nid = "default")

/-- The condition: every reference of an SSID that is written is resolved, and one that is overwritten
by another of its name refers to a network that is translated, or is reported all the same. -/
def Resolves (cfg : Obj) (s : Snapshot) : Prop :=
  ∀ l₁ row l₂, s.wifi = l₁ ++ row :: l₂ → ∀ id, Refers row id →
    ∀ ident value, localSsid cfg [] row = some (ident, value) →
      (Dict.Spared (localSsid cfg []) ident l₂ → Resolved s id) ∧
        (¬ Dict.Spared (localSsid cfg []) ident l₂ → Translated s id ∨
          ∃ other ∈ s.wifi, localSsid cfg [] other = none ∧ report "wifi" other = report "wifi" row)

/-! ### What the loops collect -/

theorem foldlM_concat_eq_ok {σ : Type} {step : σ → Json → Except Exn σ} {s t : σ} {rows : List Json}
    {row : Json} : (rows ++ [row]).foldlM step s = .ok t ↔
      ∃ u, rows.foldlM step s = .ok u ∧ step u row = .ok t := by
  rw [List.foldlM_append, except_bind_eq_ok]
  simp only [List.foldlM_cons, List.foldlM_nil]
  constructor
  · rintro ⟨u, hu, hrest⟩
    obtain ⟨v, hv, hpure⟩ := except_bind_eq_ok.mp hrest
    refine ⟨u, hu, ?_⟩
    rw [hv]
    exact hpure
  · rintro ⟨u, hu, hstep⟩
    refine ⟨u, hu, ?_⟩
    rw [hstep]
    rfl

/-- What a network row puts under its local name. -/
def entryOf (row : Json) : Option (String × Json) := (localNetwork row).map fun e => (e.1, .obj e.2)

/-- What a network row puts under its id. -/
def linkOf (row : Json) : Option (String × String) :=
  (localNetwork row).map fun e => (pyStr (rowId row), e.1)

theorem networkStep_eq_ok {s t : Networks} {row : Json} (h : networkStep s row = .ok t) :
    t.entries = Dict.write entryOf s.entries row ∧ t.ids = Dict.write linkOf s.ids row ∧
      ∀ line, line ∈ t.unsupported → line ∈ s.unsupported ∨ ∃ text, line = "network:" ++ text := by
  unfold networkStep at h
  obtain ⟨o, ho, hrest⟩ := except_bind_eq_ok.mp h
  have hlocal : localNetwork row = o := by
    unfold localNetwork
    rw [ho]
    rfl
  cases o with
  | none =>
    rw [Except.ok.injEq] at hrest
    subst hrest
    refine ⟨?_, ?_, fun line hline => ?_⟩
    · simp [Dict.write, entryOf, hlocal]
    · simp [Dict.write, linkOf, hlocal]
    · rcases List.mem_append.mp hline with hline | hline
      · exact Or.inl hline
      · right
        rw [List.mem_singleton.mp hline]
        exact ⟨_, rfl⟩
  | some e =>
    rw [Except.ok.injEq] at hrest
    subst hrest
    refine ⟨?_, ?_, fun line hline => Or.inl hline⟩
    · simp [Dict.write, entryOf, hlocal]
    · simp [Dict.write, linkOf, hlocal]

/-- **The networks**: the last row of a local name is what the name stands for, the last of an id what
the id stands for. -/
theorem networkLoop_eq_ok {rows : List Json} {t : Networks} (h : networkLoop rows = .ok t) :
    t.entries = Dict.written entryOf rows ∧ t.ids = Dict.written linkOf rows ∧
      ∀ line ∈ t.unsupported, ∃ text, line = "network:" ++ text := by
  induction rows using List.reverseRecOn generalizing t with
  | nil =>
    obtain rfl : (⟨[], [], []⟩ : Networks) = t := Except.ok.inj h
    exact ⟨rfl, rfl, fun _ hl => absurd hl List.not_mem_nil⟩
  | append_singleton rows row ih =>
    obtain ⟨u, hu, hstep⟩ := foldlM_concat_eq_ok.mp h
    obtain ⟨hentries, hids, hlines⟩ := ih hu
    obtain ⟨hentry, hlink, hline⟩ := networkStep_eq_ok hstep
    refine ⟨?_, ?_, fun line hl => ?_⟩
    · rw [hentry, hentries, Dict.written_append]
    · rw [hlink, hids, Dict.written_append]
    · rcases hline line hl with hl | hl
      · exact hlines line hl
      · exact hl

/-- What an SSID row puts under its name. -/
def ssidEntryOf (cfg : Obj) (ids : Dict String String) (row : Json) : Option (String × Json) :=
  (localSsid cfg ids row).map fun e => (e.1, .obj e.2)

theorem wifiStep_eq_ok {cfg : Obj} {ids : Dict String String} {s t : Ssids} {row : Json}
    (h : wifiStep cfg ids s row = .ok t) : t.entries = Dict.write (ssidEntryOf cfg ids) s.entries row ∧
      (∀ line, line ∈ t.unsupported ↔
        line ∈ s.unsupported ∨ localSsid cfg ids row = none ∧ line = report "wifi" row) ∧
      ∃ o, translateRow cfg ids row = .ok o := by
  unfold wifiStep at h
  obtain ⟨o, ho, hrest⟩ := except_bind_eq_ok.mp h
  have hlocal : localSsid cfg ids row = o := by
    unfold localSsid
    rw [ho]
    rfl
  cases o with
  | none =>
    rw [Except.ok.injEq] at hrest
    subst hrest
    refine ⟨?_, fun line => ?_, none, ho⟩
    · simp [Dict.write, ssidEntryOf, hlocal]
    · simp [hlocal]
  | some e =>
    rw [Except.ok.injEq] at hrest
    subst hrest
    refine ⟨?_, fun line => ?_, some e, ho⟩
    · simp [Dict.write, ssidEntryOf, hlocal]
    · simp [hlocal]

/-- **The SSIDs**: the last row of a name is what the name stands for; the rows without a translation
are reported. -/
theorem wifiLoop_eq_ok {cfg : Obj} {ids : Dict String String} {rows : List Json} {t : Ssids}
    (h : wifiLoop cfg ids rows = .ok t) : t.entries = Dict.written (ssidEntryOf cfg ids) rows ∧
      (∀ line, line ∈ t.unsupported ↔
        ∃ row ∈ rows, localSsid cfg ids row = none ∧ line = report "wifi" row) ∧
      ∀ row ∈ rows, ∃ o, translateRow cfg ids row = .ok o := by
  induction rows using List.reverseRecOn generalizing t with
  | nil =>
    obtain rfl : (⟨[], []⟩ : Ssids) = t := Except.ok.inj h
    exact ⟨rfl, by simp, fun _ hl => absurd hl List.not_mem_nil⟩
  | append_singleton rows row ih =>
    obtain ⟨u, hu, hstep⟩ := foldlM_concat_eq_ok.mp h
    obtain ⟨hentries, hlines, hok⟩ := ih hu
    obtain ⟨hentry, hline, ho⟩ := wifiStep_eq_ok hstep
    refine ⟨?_, fun line => ?_, fun r hr => ?_⟩
    · rw [hentry, hentries, Dict.written_append]
    · rw [hline, hlines]
      simp only [List.mem_append, List.mem_singleton, or_and_right, exists_or, exists_eq_left]
    · rcases List.mem_append.mp hr with hr | hr
      · exact hok r hr
      · rw [List.mem_singleton.mp hr]
        exact ho

theorem dnsLoop_lines {rows : List Json} {t : Policies} (h : dnsLoop rows = .ok t) :
    ∀ line ∈ t.unsupported, ∃ text, line = "dns:" ++ text := by
  induction rows using List.reverseRecOn generalizing t with
  | nil =>
    obtain rfl : (⟨[], [], []⟩ : Policies) = t := Except.ok.inj h
    exact fun _ hl => absurd hl List.not_mem_nil
  | append_singleton rows row ih =>
    obtain ⟨u, hu, hstep⟩ := foldlM_concat_eq_ok.mp h
    unfold dnsStep at hstep
    obtain ⟨o, -, hrest⟩ := except_bind_eq_ok.mp hstep
    intro line hl
    rcases o with _ | (r | f)
    · obtain rfl := Except.ok.inj hrest
      rcases List.mem_append.mp hl with hl | hl
      · exact ih hu line hl
      · rw [List.mem_singleton.mp hl]
        exact ⟨_, rfl⟩
    · obtain rfl := Except.ok.inj hrest
      exact ih hu line hl
    · obtain rfl := Except.ok.inj hrest
      exact ih hu line hl

/-! ### The document of a sync -/

theorem inside_eq_ok {k : String} {bad : Exn} {f : Obj → Except Exn Obj} {cfg doc : Obj}
    (h : Configd.inside k bad f cfg = .ok doc) :
    ∃ o o', Dict.lookup k cfg = some (.obj o) ∧ f o = .ok o' ∧ doc = Dict.set k (.obj o') cfg := by
  unfold Configd.inside at h
  split at h
  · next o ho =>
    cases hf : f o with
    | error e =>
      rw [hf] at h
      exact absurd h (by simp [Except.map])
    | ok o' =>
      rw [hf] at h
      exact ⟨o, o', ho, hf, (Except.ok.inj h).symm⟩
  · exact absurd h (by simp)
  · exact absurd h (by simp)

/-- The sections that a sync replaces. -/
theorem applyDesired_lookup {desired : Desired} {cfg doc : Obj} (h : applyDesired desired cfg = .ok doc) :
    Dict.lookup "networks" doc = some (.obj desired.networks) ∧
      ∃ wifi, Dict.lookup "wifi" doc = some (.obj wifi) ∧ Dict.lookup "mlds" wifi = some (.obj []) ∧
        Dict.lookup "networks" wifi = some (.obj desired.wifi) := by
  unfold applyDesired at h
  obtain ⟨d₁, h₁, h⟩ := except_bind_eq_ok.mp h
  obtain ⟨d₂, h₂, h⟩ := except_bind_eq_ok.mp h
  obtain ⟨o₁, o₁', -, hf₁, rfl⟩ := inside_eq_ok h₁
  obtain ⟨o₂, o₂', -, -, rfl⟩ := inside_eq_ok h₂
  have hbefore : ∀ k, k ≠ "ports" → Dict.lookup k doc = Dict.lookup k
      (Dict.set "dns" (.obj o₂') (Dict.set "wifi" (.obj o₁')
        (Dict.set "networks" (.obj desired.networks) cfg))) := by
    intro k hk
    split at h
    · rw [Except.ok.inj h]
    · obtain ⟨o₃, o₃', -, -, rfl⟩ := inside_eq_ok h
      exact Dict.lookup_set_of_ne hk _ _
  have hwifi := Except.ok.inj hf₁
  refine ⟨?_, o₁', ?_, ?_, ?_⟩
  · rw [hbefore "networks" (by decide)]
    simp [Dict.lookup_set]
  · rw [hbefore "wifi" (by decide)]
    simp [Dict.lookup_set]
  · rw [← hwifi]
    exact Dict.lookup_set_self _ _ _
  · rw [← hwifi]
    simp [Dict.lookup_set]

/-- The networks and the SSIDs of the document are those that are desired. -/
theorem applyDesired_eq_ok {desired : Desired} {cfg doc : Obj} (h : applyDesired desired cfg = .ok doc) :
    sect doc "networks" = .obj desired.networks ∧
      (sect doc "wifi").getD "networks" (.obj []) = .obj desired.wifi := by
  obtain ⟨hnetworks, wifi, hwifi, -, hssids⟩ := applyDesired_lookup h
  constructor
  · simp [sect, hnetworks]
  · simp [sect, hwifi, Json.getD, hssids]

/-! ### Following a reference -/

theorem localNetwork_id {row : Json} {nid : String} {value : Obj} (h : localNetwork row = some (nid, value)) :
    Dict.lookup "controller_id" value = some (rowId row) := by
  unfold localNetwork at h
  cases hrow : translateNetwork row with
  | error e =>
    rw [hrow] at h
    exact absurd h (by simp [Except.toOption])
  | ok o =>
    rw [hrow] at h
    have ho : o = some (nid, value) := h
    rw [ho] at hrow
    exact translateNetwork_id hrow

theorem spared_entryOf {nid : String} {rows : List Json} :
    Dict.Spared entryOf nid rows ↔ Dict.Spared localNetwork nid rows := by
  constructor
  · intro h row hrow value hlocal
    exact h row hrow (.obj value) (by rw [entryOf, hlocal]; rfl)
  · intro h row hrow value hentry
    obtain ⟨e, he, heq⟩ := Option.map_eq_some_iff.mp hentry
    refine h row hrow e.2 ?_
    rw [he, ← (Prod.mk.inj heq).1]

theorem spared_linkOf {text : String} {rows : List Json} : Dict.Spared linkOf text rows ↔
    ∀ row ∈ rows, (localNetwork row).isSome → pyStr (rowId row) ≠ text := by
  constructor
  · intro h row hrow hsome heq
    obtain ⟨e, he⟩ := Option.isSome_iff_exists.mp hsome
    exact h row hrow e.1 (by rw [linkOf, he, ← heq]; rfl)
  · intro h row hrow nid hlink
    obtain ⟨e, he, heq⟩ := Option.map_eq_some_iff.mp hlink
    exact h row hrow (by rw [he]; rfl) (Prod.mk.inj heq).1

/-- Of two rows of one list that are each the last to write something the other one writes too, none is
before the other. -/
theorem same_row {p q : Json → Prop} {l₁ l₂ m₁ m₂ : List Json} {a b : Json}
    (heq : l₁ ++ a :: l₂ = m₁ ++ b :: m₂) (ha : p a) (hb : q b) (hbp : p b) (haq : q a)
    (hl : ∀ x ∈ l₂, ¬ p x) (hm : ∀ x ∈ m₂, ¬ q x) : l₁ = m₁ ∧ a = b ∧ l₂ = m₂ := by
  rcases List.append_eq_append_iff.mp heq with ⟨c, rfl, hc⟩ | ⟨c, rfl, hc⟩
  · cases c with
    | nil =>
      rw [List.nil_append] at hc
      obtain ⟨rfl, rfl⟩ := List.cons.inj hc
      exact ⟨(List.append_nil _).symm, rfl, rfl⟩
    | cons x c =>
      obtain ⟨rfl, rfl⟩ := List.cons.inj hc
      exact absurd hbp (hl b (by simp))
  · cases c with
    | nil =>
      rw [List.nil_append] at hc
      obtain ⟨rfl, rfl⟩ := List.cons.inj hc
      exact ⟨List.append_nil _, rfl, rfl⟩
    | cons x c =>
      obtain ⟨rfl, rfl⟩ := List.cons.inj hc
      exact absurd haq (hm a (by simp))

theorem tableGet_of_not_str {table : Dict String String} {key : Json} {r : Option String}
    (h : tableGet table key = .ok r) (hkey : ∀ text, key ≠ .str text) : r = none := by
  unfold tableGet at h
  split at h
  · next s => exact absurd rfl (hkey s)
  · exact absurd h (by simp)
  · exact absurd h (by simp)
  · exact (Except.ok.inj h).symm

/-- **Following a reference**: what the ids say is the translation of the network that is meant exactly
when that network is the last of its id and of its local name. -/
theorem followed_iff_resolved {s : Snapshot} {t : Networks} (ht : networkLoop s.networks = .ok t) {id : Json}
    {network : Option String} (hget : tableGet t.ids id = .ok network) :
    (∃ row value, row ∈ s.networks ∧ rowId row = id ∧
        localNetwork row = some (network.getD "default", value) ∧
        Dict.lookup (network.getD "default") t.entries = some (.obj value)) ↔ Resolved s id := by
  obtain ⟨hentries, hids, -⟩ := networkLoop_eq_ok ht
  constructor
  · rintro ⟨row, value, hrow, hid, hlocal, hentry⟩
    rw [hentries, Dict.lookup_written_eq_some] at hentry
    obtain ⟨n₁, last, n₂, hsplit, hlast, hspared⟩ := hentry
    rw [spared_entryOf] at hspared
    obtain ⟨⟨nid, value'⟩, hlocal', heq⟩ := Option.map_eq_some_iff.mp hlast
    obtain ⟨rfl, hval⟩ := Prod.mk.inj heq
    obtain rfl : value' = value := Json.obj.inj hval
    have hlastId : rowId last = id := by
      have hboth := (localNetwork_id hlocal').symm.trans (localNetwork_id hlocal)
      rw [← hid]
      exact Option.some.inj hboth
    refine ⟨n₁, last, n₂, _, value', hsplit, hlastId, hlocal', hspared, ?_⟩
    by_cases hstr : ∃ text, id = .str text
    · refine Or.inl ⟨hstr, ?_⟩
      obtain ⟨text, rfl⟩ := hstr
      have hlink : Dict.lookup text t.ids = network := Except.ok.inj hget
      cases network with
      | none =>
        rw [hids, Dict.lookup_written_eq_none, spared_linkOf] at hlink
        exact absurd (by rw [hid]; rfl) (hlink row hrow (by rw [hlocal]; rfl))
      | some nid' =>
        rw [hids, Dict.lookup_written_eq_some] at hlink
        obtain ⟨m₁, link, m₂, hsplit', hlinked, hspared'⟩ := hlink
        obtain ⟨e, he, heq'⟩ := Option.map_eq_some_iff.mp hlinked
        obtain ⟨htext, hnid⟩ := Prod.mk.inj heq'
        rw [spared_linkOf] at hspared'
        obtain ⟨-, -, rfl⟩ := same_row (hsplit.symm.trans hsplit')
          (p := fun r => ∃ v, localNetwork r = some (nid', v))
          (q := fun r => (localNetwork r).isSome ∧ pyStr (rowId r) = text)
          ⟨value', hlocal'⟩ ⟨by rw [he]; rfl, htext⟩ ⟨e.2, by rw [he, ← hnid]⟩
          ⟨by rw [hlocal']; rfl, by rw [hlastId]; rfl⟩
          (fun r hr ⟨v, hv⟩ => hspared r hr v hv) (fun r hr ⟨hsome, hr'⟩ => hspared' r hr hsome hr')
        exact hspared'
    · have hnot : ∀ text, id ≠ .str text := fun text h => hstr ⟨text, h⟩
      obtain rfl := tableGet_of_not_str hget hnot
      exact Or.inr ⟨hnot, rfl⟩
  · rintro ⟨n₁, row, n₂, nid, value, hsplit, hid, hlocal, hspared, hend⟩
    have hnid : network.getD "default" = nid := by
      rcases hend with ⟨⟨text, rfl⟩, hlater⟩ | ⟨hnot, rfl⟩
      · have hlink : Dict.lookup text t.ids = some nid := by
          rw [hids, Dict.lookup_written_eq_some]
          refine ⟨n₁, row, n₂, hsplit, ?_, spared_linkOf.mpr hlater⟩
          rw [linkOf, hlocal, hid]
          rfl
        rw [← Except.ok.inj hget, hlink]
        rfl
      · rw [tableGet_of_not_str hget hnot]
        rfl
    refine ⟨row, value, by rw [hsplit]; simp, hid, by rw [hnid]; exact hlocal, ?_⟩
    rw [hnid, hentries, Dict.lookup_written_eq_some]
    exact ⟨n₁, row, n₂, hsplit, by rw [entryOf, hlocal]; rfl, spared_entryOf.mpr hspared⟩

/-! ### Rows of SSIDs -/

/-- What a row is translated to for the ids of the networks, and for none. -/
theorem localSsid_eq {cfg : Obj} {ids : Dict String String} {row : Json} {o : Option (String × Obj)}
    (h : translateRow cfg ids row = .ok o) :
    (localSsid cfg ids row = none ∧ localSsid cfg [] row = none) ∨
      ∃ ident value value' ref network, localSsid cfg ids row = some (ident, value) ∧
        localSsid cfg [] row = some (ident, value') ∧ networkRef row = .ok ref ∧
        tableGet ids ref = .ok network ∧
        Dict.lookup "network" value = some (.str (network.getD "default")) := by
  have hlocal : ∀ {ids' : Dict String String} {o' : Option (String × Obj)},
      translateRow cfg ids' row = .ok o' → localSsid cfg ids' row = o' := by
    intro ids' o' h'
    unfold localSsid
    rw [h']
    rfl
  rcases translateWifi_eq_ok h with ⟨rfl, hall⟩ | ⟨ident, value, ref, network, rfl, href, hget, hnet, hall⟩
  · exact Or.inl ⟨hlocal h, hlocal (hall [])⟩
  · obtain ⟨value', hvalue'⟩ := hall []
    exact Or.inr ⟨ident, value, value', ref, network, hlocal h, hlocal hvalue', href, hget, hnet⟩

theorem spared_ssidEntryOf {cfg : Obj} {ids : Dict String String} {ident : String} {rows : List Json}
    (hok : ∀ row ∈ rows, ∃ o, translateRow cfg ids row = .ok o) :
    Dict.Spared (ssidEntryOf cfg ids) ident rows ↔ Dict.Spared (localSsid cfg []) ident rows := by
  constructor
  · intro h row hrow value hlocal
    obtain ⟨o, ho⟩ := hok row hrow
    rcases localSsid_eq ho with ⟨-, hnone⟩ | ⟨ident', value₁, value₂, ref, network, h₁, h₂, -⟩
    · rw [hnone] at hlocal
      exact absurd hlocal (by simp)
    · rw [h₂, Option.some.injEq, Prod.mk.injEq] at hlocal
      refine h row hrow (.obj value₁) ?_
      rw [ssidEntryOf, h₁, ← hlocal.1]
      rfl
  · intro h row hrow value hentry
    obtain ⟨e, he, heq⟩ := Option.map_eq_some_iff.mp hentry
    obtain ⟨o, ho⟩ := hok row hrow
    rcases localSsid_eq ho with ⟨hnone, -⟩ | ⟨ident', value₁, value₂, ref, network, h₁, h₂, -⟩
    · rw [hnone] at he
      exact absurd he (by simp)
    · rw [h₁, Option.some.injEq] at he
      refine h row hrow value₂ ?_
      rw [h₂, ← (Prod.mk.inj heq).1, ← he]

/-- The reported lines about SSIDs are those of the loop over them. -/
theorem report_mem {net wifi dns : List String} (hnet : ∀ line ∈ net, ∃ text, line = "network:" ++ text)
    (hdns : ∀ line ∈ dns, ∃ text, line = "dns:" ++ text) (row : Json) :
    report "wifi" row ∈ net ++ wifi ++ dns ↔ report "wifi" row ∈ wifi := by
  have hhead : (report "wifi" row).toList.head? = some 'w' := by simp [report]
  have hother : ∀ {line : String}, line.toList.head? ≠ some 'w' → report "wifi" row ≠ line :=
    fun hne heq => hne (heq ▸ hhead)
  simp only [List.mem_append]
  constructor
  · rintro ((h | h) | h)
    · obtain ⟨text, htext⟩ := hnet _ h
      exact absurd htext (hother (by simp))
    · exact h
    · obtain ⟨text, htext⟩ := hdns _ h
      exact absurd htext (hother (by simp))
  · exact fun h => Or.inl (Or.inr h)

theorem Resolved.translated {s : Snapshot} {id : Json} (h : Resolved s id) : Translated s id := by
  obtain ⟨n₁, row, n₂, nid, value, hsplit, hid, hlocal, -⟩ := h
  exact ⟨row, by rw [hsplit]; simp, hid, by rw [hlocal]; rfl⟩

def controllerNetwork (id name net mode : String) (more : Obj) : Json :=
  .obj ([("id", .str id), ("name", .str name), ("management", .str "GATEWAY"),
    ("ipv4Configuration", .obj [("hostIpAddress", .str (net ++ ".1")), ("prefixLength", .int 24),
      ("dhcpConfiguration", .obj [("mode", .str mode), ("ipAddressRange",
        .obj [("start", .str (net ++ ".100")), ("stop", .str (net ++ ".200"))])])])] ++ more)

def controllerLan : Json := controllerNetwork "n1" "LAN" "192.168.2" "SERVER" [("default", .bool true)]

/-- The guest network, whose addresses come from a server of this mode. -/
def controllerGuests (mode : String) : Json :=
  controllerNetwork "n2" "Guest" "192.168.20" mode [("vlanId", .int 20), ("isolationEnabled", .bool true)]

def guestSsid : Json :=
  .obj [("id", .str "w1"), ("type", .str "STANDARD"), ("name", .str "Guest"),
    ("network", .obj [("networkId", .str "n2")]),
    ("securityConfiguration", .obj [("type", .str "WPA2_PERSONAL"), ("passphrase", .str "guest-pass")])]

/-- Two networks, and an SSID on the second. -/
def guestSnapshot (mode : String) : Snapshot := ⟨[controllerLan, controllerGuests mode], [guestSsid], []⟩

theorem refers_guestSsid {id : Json} (h : Refers guestSsid id) : id = .str "n2" := by
  have href : networkRef guestSsid = .ok (.str "n2") := by decide
  exact Except.ok.inj (h.1.symm.trans href)

end Sbegw.Unifi
