import Sbegw.Schema.Again
import Sbegw.Schema.Normal

/-!
# Sections that are rewritten

The DNS section and the controller section are put into a normal form.  Run again, the checks leave it alone,
unless a DNS name ends in a line break.
-/

namespace Sbegw.Schema

open Text EditM

/-! ### The names of a DNS section -/

/-- A string, if it is one. -/
def textOf : Json → Option String
  | .str s => some s
  | _ => none

/-- The string at a key of an object. -/
def textAt (k : String) (j : Json) : Option String := textOf (j.getD k .null)

/-- The elements of the list at a key. -/
def listed (k : String) (o : Obj) : List Json :=
  match (Dict.lookup k o).getD (.arr []) with
  | .arr xs => xs
  | _ => []

/-- `dns["filtering"]` -/
def filteringOf (dns : Obj) : Obj := ((Dict.lookup "filtering" dns).getD (.obj [])).entries

/-- The names of a DNS section: those of the filters, of the forwarders and of the records. -/
def dnsNames (dns : Obj) : List String :=
  (listed "allowlist" (filteringOf dns)).filterMap textOf ++ (listed "blocklist" (filteringOf dns)).filterMap textOf ++
    (listed "conditional_forwarders" dns).filterMap (textAt "domain") ++
    (listed "records" dns).filterMap (textAt "name")

theorem listed_of_lookup {k : String} {o : Obj} {xs : List Json} (h : Dict.lookup k o = some (.arr xs)) :
    listed k o = xs := by
  unfold listed
  rw [h]
  rfl

theorem listed_of_getD {k : String} {o : Obj} {xs : List Json} (h : (Dict.lookup k o).getD (.arr []) = .arr xs) :
    listed k o = xs := by
  unfold listed
  rw [h]

theorem filteringOf_of_lookup {dns o : Obj} (h : Dict.lookup "filtering" dns = some (.obj o)) :
    filteringOf dns = o := by
  unfold filteringOf
  rw [h]
  rfl

theorem textAt_of_lookup {k s : String} {o : Obj} (h : Dict.lookup k o = some (.str s)) :
    textAt k (.obj o) = some s := by
  show textOf ((Dict.lookup k o).getD .null) = some s
  rw [h]
  rfl

theorem filterMap_textOf (ds : List String) : (ds.map Json.str).filterMap textOf = ds := by
  rw [List.filterMap_map]
  exact List.filterMap_some

/-! ### Lists of names -/

/-- What the loop over a list of names answers. -/
theorem domains_eq_ok {path : String} : ∀ {xs : List Json} {i : ℕ} {ds : List String}, domains path i xs = .ok ds →
    ds = (xs.filterMap textOf).map dnsName ∧ ∀ d ∈ ds, domainRe d = true ∧ ∃ s, d = dnsName s
  | [], i, ds, h => by
    obtain rfl : [] = ds := Except.ok.inj h
    exact ⟨rfl, fun d hd => nomatch hd⟩
  | x :: xs, i, ds, h => by
    simp only [domains] at h
    split at h
    · next d hd =>
      obtain ⟨s, rfl, rfl, hre⟩ := domain_eq_ok hd
      cases hrest : domains path (i + 1) xs with
      | error e => simp [hrest, Except.map] at h
      | ok ds' =>
        rw [hrest] at h
        obtain rfl : dnsName s :: ds' = ds := Except.ok.inj h
        obtain ⟨hds, hall⟩ := domains_eq_ok hrest
        refine ⟨?_, fun d hd => ?_⟩
        · rw [hds]
          rfl
        · rcases List.mem_cons.mp hd with rfl | hd
          · exact ⟨hre, s, rfl⟩
          · exact hall d hd
    · cases h

theorem domains_again (path : String) : ∀ (i : ℕ) {ds : List String},
    (∀ d ∈ ds, domainRe d = true ∧ ∃ s, d = dnsName s) → (∀ d ∈ ds, ¬ EndsLine d) →
      domains path i (ds.map Json.str) = .ok ds
  | i, [], _, _ => rfl
  | i, d :: ds, hre, hend => by
    obtain ⟨hd, s, rfl⟩ := hre _ List.mem_cons_self
    have hone : domain (.str (dnsName s)) s!"{path}[{i}]" = .ok (dnsName s) :=
      domain_settled hd (hend _ List.mem_cons_self)
    have hrest := domains_again path (i + 1) (fun d hd => hre d (List.mem_cons_of_mem _ hd))
      fun d hd => hend d (List.mem_cons_of_mem _ hd)
    simp only [List.map_cons, domains, hone, hrest]
    rfl

theorem needArr_getD {k path what : String} {a : Obj} {xs : List Json}
    (h : needArr ((Dict.lookup k a).getD (.arr [])) path what = .ok xs) :
    (Dict.lookup k a).getD (.arr []) = .arr xs := by
  generalize (Dict.lookup k a).getD (.arr []) = v at h ⊢
  unfold needArr at h
  split at h
  · rw [Except.ok.inj h]
  · cases h

theorem nameList_eq_ok {key : String} {a a' : Obj} {w w' : List String} {x : Unit}
    (h : nameList key a w = .ok (x, a', w')) : ∃ ds, ds = ((listed key a).filterMap textOf).map dnsName ∧
      (∀ d ∈ ds, domainRe d = true ∧ ∃ s, d = dnsName s) ∧ ds.Nodup ∧
      Dict.lookup key a' = some (.arr (ds.map Json.str)) ∧ ∀ j, j ≠ key → Dict.lookup j a' = Dict.lookup j a := by
  unfold nameList at h
  obtain ⟨xs, a₁, w₁, hfield, h⟩ := bind_eq_ok.mp h
  obtain ⟨ds, a₂, w₂, hds, h⟩ := bind_eq_ok.mp h
  obtain ⟨_, a₃, w₃, hdup, hput⟩ := bind_eq_ok.mp h
  obtain ⟨hcheck, h₁⟩ := field_eq_ok hfield
  obtain ⟨hds, h₂, -⟩ := lift_eq_ok.mp hds
  obtain ⟨hdup, h₃⟩ := raiseIf_eq_ok hdup
  obtain ⟨hnames, hall⟩ := domains_eq_ok hds
  rw [put_eq_ok hput]
  refine ⟨ds, ?_, hall, by simpa using hdup, Dict.lookup_set_self _ _ _, fun j hj => ?_⟩
  · rw [listed_of_getD (needArr_getD hcheck)]
    exact hnames
  · rw [Dict.lookup_set_of_ne hj, h₃, ← h₂, h₁, Dict.lookup_setdefault_of_ne hj]

/-- The list is left as it is, where no name in it ends in a line break. -/
theorem settles_nameList {P : Obj → Prop} {U : List String} {key : String} (hk : key ∉ U)
    (hP : ∀ z, P z → ∀ s ∈ (listed key z).filterMap textOf, ¬ EndsLine s) :
    Settles P U [key] Eq (nameList key) (nameList key) := by
  intro a w x a' w' h
  obtain ⟨ds, -, hall, hnodup, hkey, hframe⟩ := nameList_eq_ok h
  refine ⟨fun j hj => hframe j (by simpa using hj), fun z u hz hPz => ⟨(), u, ?_, rfl⟩⟩
  have hkz : Dict.lookup key z = some (.arr (ds.map Json.str)) := by rw [hz key hk, hkey]
  have hclean := hP z hPz
  rw [listed_of_lookup hkz, filterMap_textOf] at hclean
  unfold nameList
  have hcheck : needArr (.arr (ds.map Json.str)) ("dns.filtering." ++ key) "a list of DNS names" =
      .ok (ds.map Json.str) := rfl
  refine bind_eq_ok.mpr ⟨_, z, u, field_of_lookup hkz hcheck u, ?_⟩
  refine bind_eq_ok.mpr ⟨ds, z, u, lift_eq_ok.mpr ⟨domains_again _ 0 hall hclean, rfl, rfl⟩, ?_⟩
  exact bind_eq_ok.mpr ⟨(), z, u, raiseIf_of_false (by simpa using hnodup) _ _ _, put_of_lookup hkz u⟩

/-! ### Forwarders -/

theorem validateForwarder_eq_ok {i : ℕ} {a a' : Obj} {w w' : List String} {x : Unit}
    (h : validateForwarder () i a w = .ok (x, a', w')) : ∃ s v server, textAt "domain" (.obj a) = some s ∧
      domainRe (dnsName s) = true ∧ vIp v (s!"dns.conditional_forwarders[{i}]" ++ ".server") none = .ok server ∧
      Dict.lookup "domain" a' = some (.str (dnsName s)) ∧ Dict.lookup "server" a' = some (.str server) := by
  unfold validateForwarder at h
  obtain ⟨d, a₁, w₁, hget, h⟩ := bind_eq_ok.mp h
  obtain ⟨d', a₂, w₂, hdomain, h⟩ := bind_eq_ok.mp h
  obtain ⟨_, a₃, w₃, hput, h⟩ := bind_eq_ok.mp h
  obtain ⟨v, a₄, w₄, hget', h⟩ := bind_eq_ok.mp h
  obtain ⟨server, a₅, w₅, hserver, hput'⟩ := bind_eq_ok.mp h
  obtain ⟨hd, h₁⟩ := get_eq_ok hget
  obtain ⟨hdomain, h₂, -⟩ := lift_eq_ok.mp hdomain
  obtain ⟨-, h₄⟩ := get_eq_ok hget'
  obtain ⟨hserver, h₅, -⟩ := lift_eq_ok.mp hserver
  obtain ⟨s, rfl, rfl, hre⟩ := domain_eq_ok hdomain
  rw [put_eq_ok hput', ← h₅, h₄, put_eq_ok hput]
  refine ⟨s, v, server, ?_, hre, hserver, ?_, Dict.lookup_set_self _ _ _⟩
  · show textOf ((Dict.lookup "domain" a).getD .null) = some s
    rw [← hd]
    rfl
  · rw [Dict.lookup_set_of_ne (by decide), Dict.lookup_set_self]

theorem validateForwarder_again (i : ℕ) :
    Again (fun o => ∀ s, textAt "domain" (.obj o) = some s → ¬ EndsLine s) Eq (validateForwarder () i)
      (validateForwarder () i) := by
  intro a w x a' w' h hclean u
  obtain ⟨s, v, server, -, hre, hserver, hdomain, hlookup⟩ := validateForwarder_eq_ok h
  have hend := hclean _ (textAt_of_lookup hdomain)
  refine ⟨(), u, ?_, rfl⟩
  unfold validateForwarder
  refine bind_eq_ok.mpr ⟨_, a', u, get_of_lookup hdomain u, ?_⟩
  refine bind_eq_ok.mpr ⟨dnsName s, a', u, lift_eq_ok.mpr ⟨domain_settled hre hend, rfl, rfl⟩, ?_⟩
  refine bind_eq_ok.mpr ⟨(), a', u, put_of_lookup hdomain u, ?_⟩
  refine bind_eq_ok.mpr ⟨_, a', u, get_of_lookup hlookup u, ?_⟩
  exact bind_eq_ok.mpr ⟨server, a', u, lift_eq_ok.mpr ⟨vIp_again hserver, rfl, rfl⟩, put_of_lookup hlookup u⟩

/-! ### Records -/

/-- On one line. -/
def SingleLine (s : String) : Prop := '\n' ∉ s.toList ∧ '\r' ∉ s.toList

theorem lowerChar_control {c d : Char} (h : lowerChar d = c) (hc : c.toNat < 32) : d = c := by
  unfold lowerChar at h
  split at h
  · next hupper =>
    exfalso
    have hrange : 65 ≤ d.toNat ∧ d.toNat ≤ 90 := hupper
    rw [← h] at hc
    have hval : (Char.ofNat (d.toNat + 32)).toNat = d.toNat + 32 := by
      have hletters : ∀ n < 26, (Char.ofNat (65 + n + 32)).toNat = 65 + n + 32 := by decide
      have hn := hletters (d.toNat - 65) (by omega)
      rwa [show 65 + (d.toNat - 65) = d.toNat by omega] at hn
    omega
  · split at h
    · rw [← h] at hc
      exact absurd hc (by decide)
    · exact h

theorem notMem_dnsName {s : String} {c : Char} (hc : c.toNat < 32) (h : c ∉ s.toList) : c ∉ (dnsName s).toList := by
  intro hmem
  have hlower : c ∈ (lower (strip s)).toList := (rstrip_sublist '.' _).subset hmem
  unfold lower at hlower
  rw [String.toList_ofList] at hlower
  obtain ⟨d, hd, heq⟩ := List.mem_map.mp hlower
  rw [lowerChar_control heq hc] at hd
  exact h ((strip_sublist s).subset hd)

theorem singleLine_dnsName {s : String} (h : SingleLine s) : SingleLine (dnsName s) :=
  ⟨notMem_dnsName (by decide) h.1, notMem_dnsName (by decide) h.2⟩

theorem read_of_ipOf {s path : String} {version : Option ℕ} {addr : Ip.Addr}
    (h : ipOf (.str s) path version = .ok addr) : Ip.ipAddress s = some addr := by
  unfold ipOf at h
  simp only [needStr, ok_bind] at h
  cases hread : Ip.ipAddress s with
  | none =>
    rw [hread] at h
    cases h
  | some found =>
    rw [hread] at h
    cases version with
    | none => exact congrArg some (Except.ok.inj h)
    | some v =>
      simp only at h
      split at h
      · exact congrArg some (Except.ok.inj h)
      · cases h

theorem vIp_eq_ok {s path text : String} {version : Option ℕ} (h : vIp (.str s) path version = .ok text) :
    ∃ addr, Ip.ipAddress s = some addr ∧ text = addr.show := by
  unfold vIp at h
  cases haddr : ipOf (.str s) path version with
  | error e => simp [haddr, Except.map] at h
  | ok addr =>
    rw [haddr] at h
    exact ⟨addr, read_of_ipOf haddr, (Except.ok.inj h).symm⟩

theorem singleLine_vIp {s path text : String} {version : Option ℕ} (h : vIp (.str s) path version = .ok text)
    (hs : SingleLine s) : SingleLine text := by
  obtain ⟨addr, hread, rfl⟩ := vIp_eq_ok h
  exact ⟨Ip.notMem_show hread (by decide) (by decide) hs.1, Ip.notMem_show hread (by decide) (by decide) hs.2⟩

/-- **A value in normal form stays.** -/
theorem recordValue_again {kind path value v : String} (h : recordValue kind path value = .ok v)
    (hline : SingleLine value) : recordValue kind path v = .ok v ∧ SingleLine v := by
  unfold recordValue at h ⊢
  by_cases hA : kind = "A"
  · rw [if_pos hA] at h ⊢
    exact ⟨vIp_again h, singleLine_vIp h hline⟩
  rw [if_neg hA] at h ⊢
  by_cases hAAAA : kind = "AAAA"
  · rw [if_pos hAAAA] at h ⊢
    exact ⟨vIp_again h, singleLine_vIp h hline⟩
  rw [if_neg hAAAA] at h ⊢
  by_cases hCNAME : kind = "CNAME"
  · rw [if_pos hCNAME] at h ⊢
    obtain ⟨s, hs, rfl, hre⟩ := domain_eq_ok h
    obtain rfl := Json.str.inj hs
    have hsingle := singleLine_dnsName hline
    exact ⟨domain_settled hre fun hend => hsingle.1 (List.mem_of_getLast? hend), hsingle⟩
  rw [if_neg hCNAME] at h ⊢
  split at h
  · cases h
  · next hlen =>
    obtain rfl := Except.ok.inj h
    exact ⟨if_neg hlen, hline⟩

theorem validateRecord_eq_ok {seen seen' : List (String × String)} {i : ℕ} {a a' : Obj} {w w' : List String}
    (h : validateRecord seen i a w = .ok (seen', a', w')) : ∃ x kind s v, Dict.lookup "type" a' = some x ∧
      vEnum x (s!"dns.records[{i}]" ++ ".type") ["A", "AAAA", "CNAME", "SRV", "TXT"] = .ok kind ∧
      textAt "name" (.obj a) = some s ∧ domainRe (dnsName s) = true ∧
      Dict.lookup "name" a' = some (.str (dnsName s)) ∧ Dict.lookup "value" a' = some (.str v) ∧
      recordValue kind (s!"dns.records[{i}]" ++ ".value") v = .ok v ∧ SingleLine v ∧
      seen.contains (kind, dnsName s) = false ∧ seen' = seen ++ [(kind, dnsName s)] := by
  unfold validateRecord at h
  obtain ⟨kind, a₁, w₁, hkind, h⟩ := bind_eq_ok.mp h
  obtain ⟨n, a₂, w₂, hname, h⟩ := bind_eq_ok.mp h
  obtain ⟨name, a₃, w₃, hdomain, h⟩ := bind_eq_ok.mp h
  obtain ⟨_, a₄, w₄, hput, h⟩ := bind_eq_ok.mp h
  obtain ⟨y, a₅, w₅, hvalue, h⟩ := bind_eq_ok.mp h
  obtain ⟨value, a₆, w₆, hstr, h⟩ := bind_eq_ok.mp h
  obtain ⟨_, a₇, w₇, hline, h⟩ := bind_eq_ok.mp h
  obtain ⟨v, a₈, w₈, hnormal, h⟩ := bind_eq_ok.mp h
  obtain ⟨_, a₉, w₉, hput', h⟩ := bind_eq_ok.mp h
  obtain ⟨_, a₁₀, w₁₀, hdup, h⟩ := bind_eq_ok.mp h
  obtain ⟨hseen, h₁₁, -⟩ := pure_eq_ok.mp h
  obtain ⟨hkind, h₁⟩ := field_eq_ok hkind
  obtain ⟨hname, h₂⟩ := get_eq_ok hname
  obtain ⟨hdomain, h₃, -⟩ := lift_eq_ok.mp hdomain
  obtain ⟨-, h₅⟩ := get_eq_ok hvalue
  obtain ⟨-, h₆, -⟩ := lift_eq_ok.mp hstr
  obtain ⟨hline, h₇⟩ := raiseIf_eq_ok hline
  obtain ⟨hnormal, h₈, -⟩ := lift_eq_ok.mp hnormal
  obtain ⟨hdup, h₁₀⟩ := raiseIf_eq_ok hdup
  obtain ⟨s, rfl, rfl, hre⟩ := domain_eq_ok hdomain
  have hsingle : SingleLine value := by simpa [SingleLine] using hline
  obtain ⟨hagain, hsingle'⟩ := recordValue_again hnormal hsingle
  have ha' : a' = Dict.set "value" (.str v)
      (Dict.set "name" (.str (dnsName s)) (Dict.setdefault "type" (.str "A") a)) := by
    rw [← h₁₁, h₁₀, put_eq_ok hput', ← h₈, h₇, ← h₆, h₅, put_eq_ok hput, ← h₃, h₂, h₁]
  refine ⟨_, kind, s, v, ?_, hkind, ?_, hre, ?_, ?_, hagain, hsingle', hdup, hseen.symm⟩
  · rw [ha', Dict.lookup_set_of_ne (by decide), Dict.lookup_set_of_ne (by decide), Dict.lookup_setdefault_self]
  · show textOf ((Dict.lookup "name" a).getD .null) = some s
    rw [h₁, Dict.lookup_setdefault_of_ne (by decide)] at hname
    rw [← hname]
    rfl
  · rw [ha', Dict.lookup_set_of_ne (by decide), Dict.lookup_set_self]
  · rw [ha', Dict.lookup_set_self]

theorem validateRecord_again (seen : List (String × String)) (i : ℕ) :
    Again (fun o => ∀ s, textAt "name" (.obj o) = some s → ¬ EndsLine s) Eq (validateRecord seen i)
      (validateRecord seen i) := by
  intro a w seen' a' w' h hclean u
  obtain ⟨x, kind, s, v, htype, hkind, -, hre, hname, hvalue, hagain, hline, hdup, rfl⟩ := validateRecord_eq_ok h
  have hend := hclean _ (textAt_of_lookup hname)
  refine ⟨_, u, ?_, rfl⟩
  unfold validateRecord
  refine bind_eq_ok.mpr ⟨kind, a', u, field_of_lookup htype hkind u, ?_⟩
  refine bind_eq_ok.mpr ⟨_, a', u, get_of_lookup hname u, ?_⟩
  refine bind_eq_ok.mpr ⟨dnsName s, a', u, lift_eq_ok.mpr ⟨domain_settled hre hend, rfl, rfl⟩, ?_⟩
  refine bind_eq_ok.mpr ⟨(), a', u, put_of_lookup hname u, ?_⟩
  refine bind_eq_ok.mpr ⟨_, a', u, get_of_lookup hvalue u, ?_⟩
  refine bind_eq_ok.mpr ⟨v, a', u, lift_eq_ok.mpr ⟨rfl, rfl, rfl⟩, ?_⟩
  refine bind_eq_ok.mpr ⟨(), a', u, raiseIf_of_false (by simpa [SingleLine] using hline) _ _ _, ?_⟩
  refine bind_eq_ok.mpr ⟨v, a', u, lift_eq_ok.mpr ⟨hagain, rfl, rfl⟩, ?_⟩
  refine bind_eq_ok.mpr ⟨(), a', u, put_of_lookup hvalue u, ?_⟩
  exact bind_eq_ok.mpr ⟨(), a', u, raiseIf_of_false hdup _ _ _, rfl⟩

/-! ### The DNS section -/

/-- No name ends in a line break. -/
def CleanNames (dns : Obj) : Prop := ∀ s ∈ dnsNames dns, ¬ EndsLine s

theorem validateDns_again : Again CleanNames Eq validateDns validateDns := by
  refine Settles.again (W := ["upstream", "cache_size", "dnssec", "query_log", "filtering", "conditional_forwarders",
    "records"]) ?_
  unfold validateDns
  refine Settles.field (by decide) fun _ => ?_
  refine Settles.field (by decide) fun _ => ?_
  refine Settles.field (by decide) fun _ => ?_
  refine Settles.field (by decide) fun _ => ?_
  refine Settles.key (settles_within_again (N := fun o => ∀ s ∈ (listed "allowlist" o).filterMap textOf ++
    (listed "blocklist" o).filterMap textOf, ¬ EndsLine s) (by decide) ?_ ?_) fun _ => ?_
  · refine Settles.again (W := ["enabled", "block_malware", "block_ads", "allowlist", "blocklist"]) ?_
    refine Settles.field (by decide) fun _ => ?_
    refine Settles.field (by decide) fun _ => ?_
    refine Settles.field (by decide) fun _ => ?_
    refine Settles.key (settles_nameList (by decide) fun z hz s hs => hz s (List.mem_append_left _ hs)) fun _ => ?_
    exact settles_nameList (by decide) fun z hz s hs => hz s (List.mem_append_right _ hs)
  · intro z o hz ho s hs
    refine hz s (List.mem_append_left _ (List.mem_append_left _ ?_))
    rwa [filteringOf_of_lookup ho]
  refine Settles.list (N := fun o => ∀ s, textAt "domain" (.obj o) = some s → ¬ EndsLine s) (fills_field _ _ _ _)
    (by decide) (fun _ i => validateForwarder_again i) (fun z xs o hz hxs ho s hs => ?_) fun _ => ?_
  · refine hz s (List.mem_append_left _ (List.mem_append_right _ ?_))
    rw [listed_of_lookup hxs]
    exact List.mem_filterMap.mpr ⟨_, ho, hs⟩
  refine Settles.list (N := fun o => ∀ s, textAt "name" (.obj o) = some s → ¬ EndsLine s) (fills_field _ _ _ _)
    (by decide) (fun seen i => validateRecord_again seen i) (fun z xs o hz hxs ho s hs => ?_) fun _ => Settles.done rfl
  refine hz s (List.mem_append_right _ ?_)
  rw [listed_of_lookup hxs]
  exact List.mem_filterMap.mpr ⟨_, ho, hs⟩

/-- A loop that rewrites one string of each element. -/
theorem eachElem_texts {σ : Type} {bad : ℕ → Exn} {f : σ → ℕ → EditM σ} {k : String} {n : String → String}
    (hf : ∀ s i a w s' a' w', f s i a w = .ok (s', a', w') → ∃ t, textAt k (.obj a) = some t ∧
      Dict.lookup k a' = some (.str (n t))) :
    ∀ {xs : List Json} {i : ℕ} {s s' : σ} {w w' : List String} {xs' : List Json},
      eachElem bad f i s xs w = .ok (s', xs', w') → xs'.filterMap (textAt k) = (xs.filterMap (textAt k)).map n
  | [], i, s, s', w, w', xs', h => by
    simp only [eachElem, Except.ok.injEq, Prod.mk.injEq] at h
    obtain ⟨-, rfl, -⟩ := h
    rfl
  | v :: xs, i, s, s', w, w', xs', h => by
    cases v with
    | obj o =>
      obtain ⟨s₁, o', w₁, hone, s₂, rest', w₂, hrest, rfl, rfl, rfl⟩ := eachElem_cons_eq_ok.mp h
      obtain ⟨t, ht, hlook⟩ := hf s i o w s₁ o' w₁ hone
      rw [List.filterMap_cons_some (textAt_of_lookup hlook), List.filterMap_cons_some ht, List.map_cons,
        eachElem_texts hf hrest]
    | _ => simp [eachElem] at h

/-- The names at a key, after the loop over its list. -/
theorem listed_texts {σ : Type} {key k path what : String} {bad : ℕ → Exn} {f : σ → ℕ → EditM σ} {n : String → String}
    (hf : ∀ s i a w s' a' w', f s i a w = .ok (s', a', w') → ∃ t, textAt k (.obj a) = some t ∧
      Dict.lookup k a' = some (.str (n t))) {a a₁ a' : Obj} {w w₁ w' : List String} {xs : List Json} {s s' : σ}
    (hfield : field key (.arr []) (needArr · path what) a w = .ok (xs, a₁, w₁))
    (hloop : elemsOf key bad f s a₁ w₁ = .ok (s', a', w')) :
    (listed key a').filterMap (textAt k) = ((listed key a).filterMap (textAt k)).map n ∧
      ∀ j, j ≠ key → Dict.lookup j a' = Dict.lookup j a := by
  obtain ⟨hcheck, h₁⟩ := field_eq_ok hfield
  have hxs := needArr_getD hcheck
  have hkey : Dict.lookup key a₁ = some (.arr xs) := by rw [h₁, Dict.lookup_setdefault_self, hxs]
  rcases elemsOf_eq_ok hloop with ⟨ys, ys', hys, heach, ha'⟩ | ⟨-, v, hv, hne⟩
  · rw [hkey, Option.getD_some] at hys
    obtain rfl : xs = ys := Json.arr.inj hys
    refine ⟨?_, fun j hj => ?_⟩
    · rw [listed_of_getD hxs, listed_of_lookup (by rw [ha', Dict.lookup_set_self])]
      exact eachElem_texts hf heach
    · rw [ha', Dict.lookup_set_of_ne hj, h₁, Dict.lookup_setdefault_of_ne hj]
  · rw [hkey] at hv
    exact absurd (Option.some.inj hv).symm (hne xs)

/-- **What is made of the names**: each is put into normal form. -/
theorem names_of_validateDns {a a' : Obj} {w w' : List String} {x : Unit} (h : validateDns a w = .ok (x, a', w')) :
    dnsNames a' = (dnsNames a).map dnsName := by
  unfold validateDns at h
  obtain ⟨_, a₁, w₁, hupstream, h⟩ := bind_eq_ok.mp h
  obtain ⟨_, a₂, w₂, hcache, h⟩ := bind_eq_ok.mp h
  obtain ⟨_, a₃, w₃, hdnssec, h⟩ := bind_eq_ok.mp h
  obtain ⟨_, a₄, w₄, hlog, h⟩ := bind_eq_ok.mp h
  obtain ⟨_, a₅, w₅, hfiltering, h⟩ := bind_eq_ok.mp h
  obtain ⟨forwarders, a₆, w₆, hforwarders, h⟩ := bind_eq_ok.mp h
  obtain ⟨_, a₇, w₇, hfloop, h⟩ := bind_eq_ok.mp h
  obtain ⟨records, a₈, w₈, hrecords, h⟩ := bind_eq_ok.mp h
  obtain ⟨_, a₉, w₉, hrloop, h⟩ := bind_eq_ok.mp h
  obtain ⟨-, h₉, -⟩ := pure_eq_ok.mp h
  have hbefore : ∀ k, k ∉ ["upstream", "cache_size", "dnssec", "query_log"] → Dict.lookup k a₄ = Dict.lookup k a := by
    intro k hk
    simp only [List.mem_cons, List.not_mem_nil, or_false, not_or] at hk
    rw [(field_eq_ok hlog).2, Dict.lookup_setdefault_of_ne hk.2.2.2, (field_eq_ok hdnssec).2,
      Dict.lookup_setdefault_of_ne hk.2.2.1, (field_eq_ok hcache).2, Dict.lookup_setdefault_of_ne hk.2.1,
      (field_eq_ok hupstream).2, Dict.lookup_setdefault_of_ne hk.1]
  -- the filters
  obtain ⟨o, o', ho, hinner, h₅⟩ := within_eq_ok.mp hfiltering
  obtain ⟨_, o₁, v₁, henabled, hinner⟩ := bind_eq_ok.mp hinner
  obtain ⟨_, o₂, v₂, hmalware, hinner⟩ := bind_eq_ok.mp hinner
  obtain ⟨_, o₃, v₃, hads, hinner⟩ := bind_eq_ok.mp hinner
  obtain ⟨_, o₄, v₄, hallow, hblock⟩ := bind_eq_ok.mp hinner
  have hinnerBefore : ∀ k, k ∉ ["enabled", "block_malware", "block_ads"] → Dict.lookup k o₃ = Dict.lookup k o := by
    intro k hk
    simp only [List.mem_cons, List.not_mem_nil, or_false, not_or] at hk
    rw [(field_eq_ok hads).2, Dict.lookup_setdefault_of_ne hk.2.2, (field_eq_ok hmalware).2,
      Dict.lookup_setdefault_of_ne hk.2.1, (field_eq_ok henabled).2, Dict.lookup_setdefault_of_ne hk.1]
  obtain ⟨ds, hds, -, -, hallow', hframe⟩ := nameList_eq_ok hallow
  obtain ⟨es, hes, -, -, hblock', hblockFrame⟩ := nameList_eq_ok hblock
  have hsame : ∀ {k : String} {p q : Obj}, Dict.lookup k p = Dict.lookup k q → listed k p = listed k q := by
    intro k p q heq
    unfold listed
    rw [heq]
  have hallowed : (listed "allowlist" o').filterMap textOf = ((listed "allowlist" o).filterMap textOf).map dnsName := by
    rw [listed_of_lookup ((hblockFrame "allowlist" (by decide)).trans hallow'), filterMap_textOf, hds,
      hsame (hinnerBefore "allowlist" (by decide))]
  have hblocked : (listed "blocklist" o').filterMap textOf = ((listed "blocklist" o).filterMap textOf).map dnsName := by
    rw [listed_of_lookup hblock', filterMap_textOf, hes,
      hsame ((hframe "blocklist" (by decide)).trans (hinnerBefore "blocklist" (by decide)))]
  -- the forwarders and the records
  obtain ⟨hfnames, hfframe⟩ := listed_texts (k := "domain") (n := dnsName) (fun _ i a w s' a' w' hone => by
    obtain ⟨s, _, _, hs, -, -, hlook, -⟩ := validateForwarder_eq_ok hone
    exact ⟨s, hs, hlook⟩) hforwarders hfloop
  obtain ⟨hrnames, hrframe⟩ := listed_texts (k := "name") (n := dnsName) (fun seen i a w s' a' w' hone => by
    obtain ⟨_, _, s, _, -, -, hs, -, hlook, -⟩ := validateRecord_eq_ok hone
    exact ⟨s, hs, hlook⟩) hrecords hrloop
  have hfilter : filteringOf a' = o' := by
    refine filteringOf_of_lookup ?_
    rw [← h₉, hrframe "filtering" (by decide), hfframe "filtering" (by decide), h₅, Dict.lookup_set_self]
  have hfilter₀ : filteringOf a = o := by
    unfold filteringOf
    rw [← hbefore "filtering" (by decide), ho]
    rfl
  have hf' : listed "conditional_forwarders" a' = listed "conditional_forwarders" a₇ :=
    hsame (by rw [← h₉, hrframe "conditional_forwarders" (by decide)])
  have hf₀ : listed "conditional_forwarders" a₅ = listed "conditional_forwarders" a :=
    hsame (by rw [h₅, Dict.lookup_set_of_ne (by decide), hbefore _ (by decide)])
  have hr₀ : listed "records" a₇ = listed "records" a :=
    hsame (by rw [hfframe "records" (by decide), h₅, Dict.lookup_set_of_ne (by decide), hbefore _ (by decide)])
  unfold dnsNames
  rw [hfilter, hfilter₀, hallowed, hblocked, hf', hfnames, hf₀, ← h₉, hrnames, hr₀]
  simp only [List.map_append]

/-! ### The controller section -/

/-- A text setting is on one line and not too long. -/
def ShortLine (s : String) : Prop := SingleLine s ∧ s.length ≤ 2048

theorem shortLine_of_sublist {s t : String} (h : ShortLine s) (hsub : t.toList.Sublist s.toList) : ShortLine t := by
  refine ⟨⟨fun hc => h.1.1 (hsub.subset hc), fun hc => h.1.2 (hsub.subset hc)⟩, ?_⟩
  rw [← String.length_toList]
  refine hsub.length_le.trans ?_
  rw [String.length_toList]
  exact h.2

theorem refused_eq_false {s : String} :
    (s.toList.contains '\n' || s.toList.contains '\r' || decide (2048 < s.length)) = false ↔ ShortLine s := by
  simp [ShortLine, SingleLine]

theorem controllerText_eq_ok {key s : String} {a a' : Obj} {w w' : List String}
    (h : controllerText key a w = .ok (s, a', w')) :
    a' = Dict.setdefault key (.str "") a ∧ Dict.lookup key a' = some (.str s) ∧ ShortLine s := by
  unfold controllerText at h
  obtain ⟨t, a₁, w₁, hfield, h⟩ := bind_eq_ok.mp h
  obtain ⟨_, a₂, w₂, hraise, h⟩ := bind_eq_ok.mp h
  obtain ⟨rfl, h₃, -⟩ := pure_eq_ok.mp h
  obtain ⟨hcheck, h₁⟩ := field_eq_ok hfield
  obtain ⟨hraise, h₂⟩ := raiseIf_eq_ok hraise
  rw [← h₃, h₂, h₁]
  refine ⟨rfl, ?_, refused_eq_false.mp hraise⟩
  rw [Dict.lookup_setdefault_self, needStr_eq_ok hcheck]

theorem controllerText_of_lookup {key s : String} {z : Obj} (h : Dict.lookup key z = some (.str s)) (hs : ShortLine s)
    (u : List String) : controllerText key z u = .ok (s, z, u) := by
  have hcheck : needStr (.str s) ("controller." ++ key) "a string" = .ok s := rfl
  unfold controllerText
  refine bind_eq_ok.mpr ⟨s, z, u, field_of_lookup h hcheck u, ?_⟩
  exact bind_eq_ok.mpr ⟨(), z, u, raiseIf_of_false (refused_eq_false.mpr hs) _ _ _, rfl⟩

/-- The URL to inform, as it is written back. -/
def informUrlOf (enabled : Bool) (url : String) : String := if enabled then rstrip '/' (strip url) else url

/-- The URL of the API, as it is written back. -/
def apiUrlOf (sync : Bool) (url : String) : String := if sync then rstrip '/' (strip url) else url

theorem trimmed_sublist (url : String) : (rstrip '/' (strip url)).toList.Sublist url.toList :=
  (rstrip_sublist '/' _).trans (strip_sublist url)

theorem informStep_eq_ok {enabled : Bool} {url : String} {a a' : Obj} {w w' : List String} {x : Unit}
    (h : EditM.when enabled (do
      let inform := strip url
      raiseIf (!informRe inform) (.validation "controller.inform_url" "use http(s)://controller:8080/inform")
      put "inform_url" (.str (rstrip '/' inform))) a w = .ok (x, a', w'))
    (hurl : Dict.lookup "inform_url" a = some (.str url)) :
    (enabled = true → informRe (strip url) = true) ∧
      a' = Dict.set "inform_url" (.str (informUrlOf enabled url)) a := by
  unfold informUrlOf
  rcases ite_eq_ok h with ⟨hon, hrun⟩ | ⟨hoff, hpure⟩
  · obtain ⟨_, a₁, w₁, hraise, hput⟩ := bind_eq_ok.mp hrun
    obtain ⟨hre, h₁⟩ := raiseIf_eq_ok hraise
    rw [put_eq_ok hput, h₁, if_pos hon]
    exact ⟨fun _ => by simpa using hre, rfl⟩
  · rw [if_neg hoff, Dict.set_eq_self hurl]
    exact ⟨fun hon => absurd hon hoff, Quiet.pure () _ _ _ _ _ hpure⟩

theorem apiStep_eq_ok {sync : Bool} {url apiKey siteId : String} {a a' : Obj} {w w' : List String} {x : Unit}
    (h : EditM.when sync (do
      let url := rstrip '/' (strip url)
      raiseIf (!integrationRe url)
        (.validation "controller.api_url" "must end with /proxy/network/integration/v1")
      raiseIf (strip apiKey == "") (.validation "controller.api_key" "an API key is required")
      raiseIf (!siteIdRe (strip siteId)) (.validation "controller.site_id" "invalid site ID")
      put "api_url" (.str url)) a w = .ok (x, a', w')) (hurl : Dict.lookup "api_url" a = some (.str url)) :
    (sync = true → integrationRe (rstrip '/' (strip url)) = true ∧ (strip apiKey == "") = false ∧
      siteIdRe (strip siteId) = true) ∧ a' = Dict.set "api_url" (.str (apiUrlOf sync url)) a := by
  unfold apiUrlOf
  rcases ite_eq_ok h with ⟨hon, hrun⟩ | ⟨hoff, hpure⟩
  · obtain ⟨_, a₁, w₁, hre, hrun⟩ := bind_eq_ok.mp hrun
    obtain ⟨_, a₂, w₂, hkey, hrun⟩ := bind_eq_ok.mp hrun
    obtain ⟨_, a₃, w₃, hsite, hput⟩ := bind_eq_ok.mp hrun
    obtain ⟨hre, h₁⟩ := raiseIf_eq_ok hre
    obtain ⟨hkey, h₂⟩ := raiseIf_eq_ok hkey
    obtain ⟨hsite, h₃⟩ := raiseIf_eq_ok hsite
    rw [put_eq_ok hput, h₃, h₂, h₁, if_pos hon]
    exact ⟨fun _ => ⟨by simpa using hre, hkey, by simpa using hsite⟩, rfl⟩
  · rw [if_neg hoff, Dict.set_eq_self hurl]
    exact ⟨fun hon => absurd hon hoff, Quiet.pure () _ _ _ _ _ hpure⟩

theorem validateController_again : Again Always Eq validateController validateController := by
  intro a w x a' w' h _ u
  unfold validateController at h
  obtain ⟨enabled, a₁, w₁, henabled, h⟩ := bind_eq_ok.mp h
  obtain ⟨_, a₂, w₂, hdiscovery, h⟩ := bind_eq_ok.mp h
  obtain ⟨sync, a₃, w₃, hsync, h⟩ := bind_eq_ok.mp h
  obtain ⟨_, a₄, w₄, htls, h⟩ := bind_eq_ok.mp h
  obtain ⟨_, a₅, w₅, hinterval, h⟩ := bind_eq_ok.mp h
  obtain ⟨informUrl, a₆, w₆, hinform, h⟩ := bind_eq_ok.mp h
  obtain ⟨apiUrl, a₇, w₇, hapi, h⟩ := bind_eq_ok.mp h
  obtain ⟨apiKey, a₈, w₈, hkey, h⟩ := bind_eq_ok.mp h
  obtain ⟨siteId, a₉, w₉, hsite, h⟩ := bind_eq_ok.mp h
  obtain ⟨_, a₁₀, w₁₀, hstep, hstep'⟩ := bind_eq_ok.mp h
  have h₂ := (field_eq_ok hdiscovery).2
  have h₃ := (field_eq_ok hsync).2
  have h₄ := (field_eq_ok htls).2
  have h₅ := (field_eq_ok hinterval).2
  obtain ⟨h₆, hinformUrl, hinformShort⟩ := controllerText_eq_ok hinform
  obtain ⟨h₇, hapiUrl, hapiShort⟩ := controllerText_eq_ok hapi
  obtain ⟨h₈, hapiKey, hkeyShort⟩ := controllerText_eq_ok hkey
  obtain ⟨h₉, hsiteId, hsiteShort⟩ := controllerText_eq_ok hsite
  have hinform₉ : Dict.lookup "inform_url" a₉ = some (.str informUrl) := by
    rw [h₉, Dict.lookup_setdefault_of_ne (by decide), h₈, Dict.lookup_setdefault_of_ne (by decide), h₇,
      Dict.lookup_setdefault_of_ne (by decide), hinformUrl]
  have hapi₉ : Dict.lookup "api_url" a₉ = some (.str apiUrl) := by
    rw [h₉, Dict.lookup_setdefault_of_ne (by decide), h₈, Dict.lookup_setdefault_of_ne (by decide), hapiUrl]
  obtain ⟨hre, h₁₀⟩ := informStep_eq_ok hstep hinform₉
  obtain ⟨hre', h₁₁⟩ := apiStep_eq_ok hstep' (by rw [h₁₀, Dict.lookup_set_of_ne (by decide), hapi₉])
  -- the final document
  have hlater : ∀ k, k ∉ ["inform_url", "api_url"] → Dict.lookup k a' = Dict.lookup k a₉ := by
    intro k hk
    simp only [List.mem_cons, List.not_mem_nil, or_false, not_or] at hk
    rw [h₁₁, Dict.lookup_set_of_ne hk.2, h₁₀, Dict.lookup_set_of_ne hk.1]
  have hflags : ∀ k, k ∉ ["inform_url", "api_url", "api_key", "site_id"] → Dict.lookup k a' = Dict.lookup k a₅ := by
    intro k hk
    simp only [List.mem_cons, List.not_mem_nil, or_false, not_or] at hk
    rw [hlater k (by simp [hk.1, hk.2.1]), h₉, Dict.lookup_setdefault_of_ne hk.2.2.2, h₈,
      Dict.lookup_setdefault_of_ne hk.2.2.1, h₇, Dict.lookup_setdefault_of_ne hk.2.1, h₆,
      Dict.lookup_setdefault_of_ne hk.1]
  have hinform' : Dict.lookup "inform_url" a' = some (.str (informUrlOf enabled informUrl)) := by
    rw [h₁₁, Dict.lookup_set_of_ne (by decide), h₁₀, Dict.lookup_set_self]
  have hapi' : Dict.lookup "api_url" a' = some (.str (apiUrlOf sync apiUrl)) := by
    rw [h₁₁, Dict.lookup_set_self]
  have hkey' : Dict.lookup "api_key" a' = some (.str apiKey) := by
    rw [hlater _ (by decide), h₉, Dict.lookup_setdefault_of_ne (by decide), hapiKey]
  have hsite' : Dict.lookup "site_id" a' = some (.str siteId) := by
    rw [hlater _ (by decide), hsiteId]
  have hinformShort' : ShortLine (informUrlOf enabled informUrl) := by
    unfold informUrlOf
    split
    · exact shortLine_of_sublist hinformShort (trimmed_sublist _)
    · exact hinformShort
  have hapiShort' : ShortLine (apiUrlOf sync apiUrl) := by
    unfold apiUrlOf
    split
    · exact shortLine_of_sublist hapiShort (trimmed_sublist _)
    · exact hapiShort
  refine ⟨(), u, ?_, rfl⟩
  unfold validateController
  refine bind_eq_ok.mpr ⟨enabled, a', u, field_settled henabled ?_ u, ?_⟩
  · rw [hflags _ (by decide), h₅, Dict.lookup_setdefault_of_ne (by decide), h₄,
      Dict.lookup_setdefault_of_ne (by decide), h₃, Dict.lookup_setdefault_of_ne (by decide), h₂,
      Dict.lookup_setdefault_of_ne (by decide)]
  refine bind_eq_ok.mpr ⟨_, a', u, field_settled hdiscovery ?_ u, ?_⟩
  · rw [hflags _ (by decide), h₅, Dict.lookup_setdefault_of_ne (by decide), h₄,
      Dict.lookup_setdefault_of_ne (by decide), h₃, Dict.lookup_setdefault_of_ne (by decide)]
  refine bind_eq_ok.mpr ⟨sync, a', u, field_settled hsync ?_ u, ?_⟩
  · rw [hflags _ (by decide), h₅, Dict.lookup_setdefault_of_ne (by decide), h₄,
      Dict.lookup_setdefault_of_ne (by decide)]
  refine bind_eq_ok.mpr ⟨_, a', u, field_settled htls ?_ u, ?_⟩
  · rw [hflags _ (by decide), h₅, Dict.lookup_setdefault_of_ne (by decide)]
  refine bind_eq_ok.mpr ⟨_, a', u, field_settled hinterval (hflags _ (by decide)) u, ?_⟩
  refine bind_eq_ok.mpr ⟨_, a', u, controllerText_of_lookup hinform' hinformShort' u, ?_⟩
  refine bind_eq_ok.mpr ⟨_, a', u, controllerText_of_lookup hapi' hapiShort' u, ?_⟩
  refine bind_eq_ok.mpr ⟨_, a', u, controllerText_of_lookup hkey' hkeyShort u, ?_⟩
  refine bind_eq_ok.mpr ⟨_, a', u, controllerText_of_lookup hsite' hsiteShort u, ?_⟩
  refine bind_eq_ok.mpr ⟨(), a', u, ite_of_run (fun hon => ?_) fun _ => rfl, ite_of_run (fun hon => ?_) fun _ => rfl⟩
  · have hurl : informUrlOf enabled informUrl = rstrip '/' (strip informUrl) := if_pos hon
    rw [hurl] at hinform' ⊢
    obtain ⟨hstrip, hagain⟩ := inform_again (fun hc => hinformShort.1.1 ((strip_sublist _).subset hc)) (hre hon)
    refine bind_eq_ok.mpr ⟨(), a', u, raiseIf_of_false (by rw [hstrip, hagain]; rfl) _ _ _, ?_⟩
    rw [hstrip, rstrip_rstrip]
    exact put_of_lookup hinform' u
  · have hurl : apiUrlOf sync apiUrl = rstrip '/' (strip apiUrl) := if_pos hon
    rw [hurl] at hapi' ⊢
    obtain ⟨hintegration, hkeySet, hsiteSet⟩ := hre' hon
    have hsame := integration_again hapiShort.1.1 hintegration
    refine bind_eq_ok.mpr ⟨(), a', u, raiseIf_of_false (by rw [hsame, hintegration]; rfl) _ _ _, ?_⟩
    refine bind_eq_ok.mpr ⟨(), a', u, raiseIf_of_false hkeySet _ _ _, ?_⟩
    refine bind_eq_ok.mpr ⟨(), a', u, raiseIf_of_false (by rw [hsiteSet]; rfl) _ _ _, ?_⟩
    rw [hsame]
    exact put_of_lookup hapi' u

end Sbegw.Schema
