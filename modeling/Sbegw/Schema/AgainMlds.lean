import Sbegw.Schema.AgainWifi

/-!
# The multi-link devices settle at once

The SSIDs that the MLDs have left are those they have been checked against, with PMF raised; against them, the
MLDs are accepted and nothing is raised any more.
-/

namespace Sbegw.Schema

open EditM

/-! ### Raised SSIDs -/

/-- The same SSIDs, some with PMF raised. -/
def RaisedAll (networks networks' : Obj) : Prop :=
  List.Forall₂ (fun e e' => e.1 = e'.1 ∧ ∃ o o', e.2 = Json.obj o ∧ e'.2 = Json.obj o' ∧ Raised o o') networks networks'

theorem raised_of_fields {o : Obj} (h : SsidFields o) : Raised o o := by
  obtain ⟨bands, security, -, hsecurity, -⟩ := h
  exact raised_refl hsecurity

theorem raisedAll_refl : ∀ {networks : Obj}, AllSsids networks → RaisedAll networks networks
  | [], _ => .nil
  | (k, v) :: rest, h => by
    obtain ⟨o, rfl, ho⟩ : ∃ o, v = .obj o ∧ SsidFields o := h _ List.mem_cons_self
    exact .cons ⟨rfl, o, o, rfl, rfl, raised_of_fields ho⟩ (raisedAll_refl fun e he => h e (List.mem_cons_of_mem _ he))

theorem raisedAll_trans {n₁ n₂ n₃ : Obj} (h₁ : RaisedAll n₁ n₂) (h₂ : RaisedAll n₂ n₃) : RaisedAll n₁ n₃ := by
  unfold RaisedAll at h₁
  induction h₁ generalizing n₃ with
  | nil => exact h₂
  | @cons e₁ e₂ r₁ r₂ hone hrest ih =>
    obtain ⟨e₃, r₃, hone', hrest', rfl⟩ := List.forall₂_cons_left_iff.mp h₂
    obtain ⟨hkey, o₁, o₂, ho₁, ho₂, hraised⟩ := hone
    obtain ⟨hkey', o, o₃, ho, ho₃, hraised'⟩ := hone'
    obtain rfl : o₂ = o := Json.obj.inj (ho₂.symm.trans ho)
    exact .cons ⟨hkey.trans hkey', o₁, o₃, ho₁, ho₃, raised_trans hraised hraised'⟩ (ih hrest')

theorem raisedAll_set {wnid : String} {o o' : Obj} (hr : Raised o o') : ∀ {networks : Obj}, AllSsids networks →
    Dict.lookup wnid networks = some (.obj o) → RaisedAll networks (Dict.set wnid (.obj o') networks)
  | [], _, h => by cases h
  | (k, v) :: rest, hall, h => by
    have hrest : AllSsids rest := fun e he => hall e (List.mem_cons_of_mem _ he)
    rw [Dict.lookup_cons] at h
    rw [Dict.set]
    by_cases hk : k = wnid
    · rw [if_pos hk] at h ⊢
      exact .cons ⟨rfl, o, o', Option.some.inj h, rfl, hr⟩ (raisedAll_refl hrest)
    · rw [if_neg hk] at h ⊢
      obtain ⟨q, hq, hfields⟩ : ∃ q, v = .obj q ∧ SsidFields q := hall _ List.mem_cons_self
      exact .cons ⟨rfl, q, q, hq, hq, raised_of_fields hfields⟩ (raisedAll_set hr hrest h)

theorem lookup_of_raisedAll {wnid : String} {networks networks' : Obj} {v : Json} (h : RaisedAll networks networks')
    (hlook : Dict.lookup wnid networks = some v) :
    ∃ o o', v = .obj o ∧ Dict.lookup wnid networks' = some (.obj o') ∧ Raised o o' := by
  unfold RaisedAll at h
  induction h with
  | nil => cases hlook
  | @cons e e' rest rest' hone hrest ih =>
    obtain ⟨k, x⟩ := e
    obtain ⟨k', x'⟩ := e'
    obtain ⟨rfl, o, o', rfl, rfl, hraised⟩ := hone
    rw [Dict.lookup_cons] at hlook ⊢
    by_cases hk : k = wnid
    · rw [if_pos hk] at hlook ⊢
      exact ⟨o, o', (Option.some.inj hlook).symm, rfl, hraised⟩
    · rw [if_neg hk] at hlook ⊢
      exact ih hlook

/-! ### Forced PMF -/

theorem strong_of_raised {o o' : Obj} (h : StrongSsid o) (hr : Raised o o') : StrongSsid o' := by
  obtain ⟨s, hs, hmode, hpmf⟩ := h
  obtain ⟨s', hs', hraised⟩ := security_of_raised hr hs
  refine ⟨s', hs', ?_, ?_⟩
  · rw [lookup_of_pmfRaised hraised (by decide)]
    exact hmode
  · rcases hraised with rfl | rfl
    · exact hpmf
    · exact Dict.lookup_set_self _ _ _

theorem requirePmf_strong {wnet : Obj} (h : StrongSsid wnet) (mid base wnid : String) (w : List String) :
    requirePmf mid base wnid wnet w = .ok (wnet, w) := by
  obtain ⟨s, hs, ⟨mode, hmodes, hmode⟩, hpmf⟩ := h
  unfold requirePmf
  have hentries : ((Dict.lookup "security" wnet).getD (.obj [])).entries = s := by
    rw [hs]
    rfl
  dsimp only
  rw [hentries, hmode, hpmf, Option.getD_some, Option.getD_some, if_neg, if_neg]
  · exact fun h => h rfl
  · rintro ⟨h₁, h₂⟩
    simp only [List.mem_cons, List.not_mem_nil, or_false] at hmodes
    rcases hmodes with rfl | rfl
    · exact h₁ rfl
    · exact h₂ rfl

theorem raised_of_requirePmf {mid base wnid : String} {wnet wnet' : Obj} {w w' : List String}
    (h : requirePmf mid base wnid wnet w = .ok (wnet', w')) (hf : SsidFields wnet) : Raised wnet wnet' := by
  have hsame := raised_of_fields hf
  obtain ⟨bands, security, -, hsecurity, -⟩ := hf
  have hentries : ((Dict.lookup "security" wnet).getD (.obj [])).entries = security := by
    rw [hsecurity]
    rfl
  unfold requirePmf at h
  dsimp only at h
  rw [hentries] at h
  split at h
  · cases h
  · split at h
    · obtain ⟨rfl, -⟩ := Prod.mk.inj (Except.ok.inj h)
      exact ⟨security, _, hsecurity, .inr rfl, rfl⟩
    · obtain ⟨rfl, -⟩ := Prod.mk.inj (Except.ok.inj h)
      exact hsame

/-! ### One MLD -/

/-- **An MLD is accepted again** against SSIDs that have been raised no less than it has raised its own. -/
theorem validateMld_again {known : Dict String (Json × Json)} {s s' : Claims × Obj} {mid : String} {a a' : Obj}
    {w w' : List String} (h : validateMld known s mid a w = .ok (s', a', w')) (hall : AllSsids s.2) :
    RaisedAll s.2 s'.2 ∧ ∀ networks u, RaisedAll s'.2 networks →
      ∃ u', validateMld known (s.1, networks) mid a' u = .ok ((s'.1, networks), a', u') := by
  unfold validateMld at h
  obtain ⟨_, a₁, w₁, hid, h⟩ := bind_eq_ok.mp h
  obtain ⟨_, a₂, w₂, hname, h⟩ := bind_eq_ok.mp h
  obtain ⟨enabled, a₃, w₃, henabled, h⟩ := bind_eq_ok.mp h
  obtain ⟨named, a₄, w₄, hnamed, h⟩ := bind_eq_ok.mp h
  obtain ⟨⟨wnid, wnet⟩, a₅, w₅, hnet, h⟩ := bind_eq_ok.mp h
  obtain ⟨links, a₆, w₆, hlinks, h⟩ := bind_eq_ok.mp h
  obtain ⟨_, a₇, w₇, hfew, h⟩ := bind_eq_ok.mp h
  obtain ⟨duplicate, a₈, w₈, hdup, h⟩ := bind_eq_ok.mp h
  obtain ⟨_, a₉, w₉, htwice, h⟩ := bind_eq_ok.mp h
  obtain ⟨⟨claimed, ws⟩, a₁₀, w₁₀, hcheck, h⟩ := bind_eq_ok.mp h
  obtain ⟨_, a₁₁, w₁₁, hwarn, h⟩ := bind_eq_ok.mp h
  obtain ⟨wnet', a₁₂, w₁₂, hpmf, h⟩ := bind_eq_ok.mp h
  obtain ⟨_, a₁₃, w₁₃, hmac, h⟩ := bind_eq_ok.mp h
  obtain ⟨_, a₁₄, w₁₄, hsteer, h⟩ := bind_eq_ok.mp h
  obtain ⟨hs', h₁₄, -⟩ := pure_eq_ok.mp h
  -- what the steps leave of the MLD itself
  obtain ⟨hid, h₁, -⟩ := lift_eq_ok.mp hid
  have h₂ := (field_eq_ok hname).2
  have h₃ := (field_eq_ok henabled).2
  obtain ⟨hget, h₄⟩ := get_eq_ok hnamed
  obtain ⟨hnet, h₅, -⟩ := lift_eq_ok.mp hnet
  have h₆ := (field_eq_ok hlinks).2
  obtain ⟨hfew, h₇⟩ := raiseIf_eq_ok hfew
  obtain ⟨hdup, h₈, -⟩ := lift_eq_ok.mp hdup
  obtain ⟨htwice, h₉⟩ := raiseIf_eq_ok htwice
  obtain ⟨hcheck, h₁₀, -⟩ := lift_eq_ok.mp hcheck
  have h₁₁ : a₁₁ = a₁₀ := Quiet.warnings (fun _ => ws) _ _ _ _ _ hwarn
  have h₁₃ : a₁₃ = a₁₂ := quiet_ifSet _ _ _ _ _ _ _ hmac
  have h₁₄' := (field_eq_ok hsteer).2
  obtain ⟨hvalue, v, hlook, hwnet⟩ := mldNetwork_eq_ok hnet
  obtain ⟨o, rfl, ho⟩ := hall _ (Dict.mem_of_lookup hlook)
  rw [Json.entries_obj] at hwnet
  subst hwnet
  have hrun : a₁₂ = a₁₁ ∧ (enabled = true → Raised wnet wnet' ∧ StrongSsid wnet') := by
    rcases ite_eq_ok hpmf with ⟨-, hr⟩ | ⟨hoff, hr⟩
    · cases hreq : requirePmf mid ("wifi.mlds." ++ mid) wnid wnet w₁₁ with
      | error e => simp [hreq, Except.map] at hr
      | ok r =>
        simp only [hreq, Except.map, Except.ok.injEq, Prod.mk.injEq] at hr
        obtain ⟨rfl, rfl, -⟩ := hr
        exact ⟨rfl, fun _ => ⟨raised_of_requirePmf hreq ho, (requirePmf_eq_ok hreq ho).2⟩⟩
    · exact ⟨(pure_eq_ok.mp hr).2.1.symm, fun hc => absurd hc hoff⟩
  have hsteady : a₁₃ = a₆ := by rw [h₁₃, hrun.1, h₁₁, ← h₁₀, h₉, ← h₈, h₇]
  have hlast : ∀ k, k ≠ "link_steering" → Dict.lookup k a' = Dict.lookup k a₆ := by
    intro k hk
    rw [← h₁₄, h₁₄', Dict.lookup_setdefault_of_ne hk, hsteady]
  have hbefore : ∀ k, k ≠ "link_steering" → k ≠ "links" → Dict.lookup k a' = Dict.lookup k a₃ := by
    intro k hk₁ hk₂
    rw [hlast k hk₁, h₆, Dict.lookup_setdefault_of_ne hk₂, ← h₅, h₄]
  have hnetworks : s'.2 = if enabled then Dict.set wnid (.obj wnet') s.2 else s.2 := by rw [← hs']
  have hclaims : s'.1 = claimed := by rw [← hs']
  refine ⟨?_, fun networks u hraised => ?_⟩
  · rw [hnetworks]
    split
    · next hon => exact raisedAll_set (hrun.2 hon).1 hall hlook
    · exact raisedAll_refl hall
  -- the SSID as it stands in the end
  obtain ⟨final, hfinal, hraise, hstrong⟩ : ∃ final, Dict.lookup wnid networks = some (.obj final) ∧
      Raised wnet final ∧ (enabled = true → StrongSsid final) := by
    rw [hnetworks] at hraised
    by_cases hon : enabled = true
    · rw [if_pos hon] at hraised
      obtain ⟨o₁, final, ho₁, hfinal, hr⟩ := lookup_of_raisedAll hraised (Dict.lookup_set_self _ _ _)
      obtain rfl : wnet' = o₁ := Json.obj.inj ho₁
      exact ⟨final, hfinal, raised_trans (hrun.2 hon).1 hr, fun _ => strong_of_raised (hrun.2 hon).2 hr⟩
    · rw [if_neg hon] at hraised
      obtain ⟨o₁, final, ho₁, hfinal, hr⟩ := lookup_of_raisedAll hraised hlook
      obtain rfl : wnet = o₁ := Json.obj.inj ho₁
      exact ⟨final, hfinal, hr, fun hc => absurd hc hon⟩
  have hbands : Dict.lookup "bands" final = Dict.lookup "bands" wnet := lookup_of_raised hraise _ (by decide)
  have hnamed' : (Dict.lookup "wireless_network" a').getD .null = named := by
    rw [hget, hbefore "wireless_network" (by decide) (by decide)]
  have hnet' : mldNetwork networks ("wifi.mlds." ++ mid) named = .ok (wnid, final) := by
    rw [hvalue]
    unfold mldNetwork
    simp only [hfinal, Json.entries_obj]
  obtain ⟨u₁, hmac'⟩ : ∃ u', ifSet "mld_mac" (vMac · ("wifi.mlds." ++ mid ++ ".mld_mac")) a' (u ++ ws) =
      .ok ((), a', u') := by
    obtain ⟨-, hagain⟩ := settles_ifSet (P := Always) (U := ["link_steering"]) (by decide) a₁₂ w₁₂ _ a₁₃ w₁₃ hmac
    obtain ⟨_, u', hu', -⟩ := hagain a' (u ++ ws) (fun j hj => by rw [hlast j (by simpa using hj), hsteady]) trivial
    exact ⟨u', hu'⟩
  refine ⟨u₁, ?_⟩
  unfold validateMld
  refine bind_eq_ok.mpr ⟨_, a', u, lift_eq_ok.mpr ⟨hid, rfl, rfl⟩, ?_⟩
  refine bind_eq_ok.mpr ⟨_, a', u, field_settled hname ?_ u, ?_⟩
  · rw [hbefore "name" (by decide) (by decide), h₃, Dict.lookup_setdefault_of_ne (by decide)]
  refine bind_eq_ok.mpr ⟨enabled, a', u, field_settled henabled (hbefore "enabled" (by decide) (by decide)) u, ?_⟩
  refine bind_eq_ok.mpr ⟨named, a', u, ?_, ?_⟩
  · rw [← hnamed']
    rfl
  refine bind_eq_ok.mpr ⟨(wnid, final), a', u, lift_eq_ok.mpr ⟨hnet', rfl, rfl⟩, ?_⟩
  refine bind_eq_ok.mpr ⟨links, a', u, field_settled hlinks (hlast "links" (by decide)) u, ?_⟩
  refine bind_eq_ok.mpr ⟨(), a', u, raiseIf_of_false hfew _ _ _, ?_⟩
  refine bind_eq_ok.mpr ⟨duplicate, a', u, lift_eq_ok.mpr ⟨hdup, rfl, rfl⟩, ?_⟩
  refine bind_eq_ok.mpr ⟨(), a', u, raiseIf_of_false htwice _ _ _, ?_⟩
  refine bind_eq_ok.mpr ⟨(claimed, ws), a', u, lift_eq_ok.mpr ⟨?_, rfl, rfl⟩, ?_⟩
  · rw [hbands]
    exact hcheck
  refine bind_eq_ok.mpr ⟨(), a', u ++ ws, rfl, ?_⟩
  refine bind_eq_ok.mpr ⟨final, a', u ++ ws, ?_, ?_⟩
  · refine ite_of_run (fun hon => ?_) fun _ => rfl
    rw [requirePmf_strong (hstrong hon)]
    rfl
  refine bind_eq_ok.mpr ⟨(), a', u₁, hmac', ?_⟩
  refine bind_eq_ok.mpr ⟨_, a', u₁, field_settled hsteer (by rw [h₁₄]) u₁, ?_⟩
  refine pure_eq_ok.mpr ⟨?_, rfl, rfl⟩
  rw [hclaims, Dict.set_eq_self hfinal]
  split <;> rfl

/-! ### The loop over the MLDs -/

theorem mlds_again {known : Dict String (Json × Json)} {bad : String → Exn} (bad' : String → Exn) :
    ∀ (mlds : Obj) {s s' : Claims × Obj} {mlds' : Obj} {w w' : List String},
      eachEntry bad (validateMld known) s mlds w = .ok (s', mlds', w') → AllSsids s.2 →
      RaisedAll s.2 s'.2 ∧ ∀ networks u, RaisedAll s'.2 networks →
        ∃ u', eachEntry bad' (validateMld known) (s.1, networks) mlds' u = .ok ((s'.1, networks), mlds', u')
  | [], s, s', mlds', w, w', h, hall => by
    simp only [eachEntry, Except.ok.injEq, Prod.mk.injEq] at h
    obtain ⟨rfl, rfl, -⟩ := h
    exact ⟨raisedAll_refl hall, fun networks u _ => ⟨u, rfl⟩⟩
  | (mid, v) :: rest, s, s', mlds', w, w', h, hall => by
    cases v with
    | obj o =>
      obtain ⟨s₁, o', w₁, hone, s₂, rest', w₂, hrest, rfl, rfl, rfl⟩ := eachEntry_cons_eq_ok.mp h
      obtain ⟨hraised₁, hagain₁⟩ := validateMld_again hone hall
      have hall₁ : AllSsids s₁.2 := (mld_of_validateMld hone hall).1
      obtain ⟨hraised₂, hagain₂⟩ := mlds_again bad' rest hrest hall₁
      refine ⟨raisedAll_trans hraised₁ hraised₂, fun networks u hraised => ?_⟩
      obtain ⟨u₁, hu₁⟩ := hagain₁ networks u (raisedAll_trans hraised₂ hraised)
      obtain ⟨u₂, hu₂⟩ := hagain₂ networks u₁ hraised
      exact ⟨u₂, eachEntry_cons_eq_ok.mpr ⟨_, o', u₁, hu₁, _, rest', u₂, hu₂, rfl, rfl, rfl⟩⟩
    | _ => simp [eachEntry] at h

/-- **The MLDs**: the SSIDs are raised, and the check passes again on what it leaves. -/
theorem validateMlds_again {caps : Capabilities} {a a' networks : Obj} {w w' : List String} {x : Unit}
    (h : validateMlds caps a w = .ok (x, a', w')) (hlook : Dict.lookup "networks" a = some (.obj networks))
    (hall : AllSsids networks) : ∃ networks' mlds', Dict.lookup "networks" a' = some (.obj networks') ∧
      RaisedAll networks networks' ∧ Dict.lookup "mlds" a' = some (.obj mlds') ∧ (∀ e ∈ mlds', ∃ m, e.2 = .obj m) ∧
      (∀ k, k ∉ ["networks", "mlds"] → Dict.lookup k a' = Dict.lookup k a) ∧
      ∀ u, ∃ u', validateMlds caps a' u = .ok ((), a', u') := by
  unfold validateMlds at h
  obtain ⟨radios, a₁, w₁, hradios, h⟩ := bind_eq_ok.mp h
  obtain ⟨nets, a₂, w₂, hget, h⟩ := bind_eq_ok.mp h
  obtain ⟨s, a₃, w₃, hwithin, hput⟩ := bind_eq_ok.mp h
  obtain ⟨hradios, h₁⟩ := get_eq_ok hradios
  obtain ⟨hnets, h₂⟩ := get_eq_ok hget
  rw [h₁, hlook, Option.getD_some] at hnets
  obtain ⟨mlds, mlds', -, hloop, h₄⟩ := within_eq_ok.mp hwithin
  rw [hnets, Json.entries_obj] at hloop
  obtain ⟨hraised, hagain⟩ := mlds_again (badEntry "wifi.mlds") mlds hloop hall
  obtain ⟨hall', -, hmlds⟩ := mlds_of_eachEntry hloop hall
  have ha' : a' = Dict.set "networks" (.obj s.2) (Dict.set "mlds" (.obj mlds') a) := by
    rw [put_eq_ok hput, h₄, h₂, h₁]
  have hnetworks' : Dict.lookup "networks" a' = some (.obj s.2) := by
    rw [ha', Dict.lookup_set_self]
  have hmlds' : Dict.lookup "mlds" a' = some (.obj mlds') := by
    rw [ha', Dict.lookup_set_of_ne (by decide), Dict.lookup_set_self]
  have hrest : ∀ k, k ∉ ["networks", "mlds"] → Dict.lookup k a' = Dict.lookup k a := by
    intro k hk
    simp only [List.mem_cons, List.not_mem_nil, or_false, not_or] at hk
    rw [ha', Dict.lookup_set_of_ne hk.1, Dict.lookup_set_of_ne hk.2]
  refine ⟨s.2, mlds', hnetworks', hraised, hmlds', fun e he => ?_, hrest, fun u => ?_⟩
  · obtain ⟨m, hm, -⟩ := hmlds e he
    exact ⟨m, hm⟩
  obtain ⟨u', hu'⟩ := hagain s.2 u (raisedAll_refl hall')
  refine ⟨u', ?_⟩
  unfold validateMlds
  refine bind_eq_ok.mpr ⟨radios, a', u, ?_, ?_⟩
  · rw [hradios, ← hrest "radios" (by decide)]
    rfl
  refine bind_eq_ok.mpr ⟨_, a', u, get_of_lookup hnetworks' u, ?_⟩
  exact bind_eq_ok.mpr ⟨s, a', u', within_of_lookup hmlds' hu', put_of_lookup hnetworks' u'⟩

/-! ### The section -/

theorem validateWirelessNetwork_congr {cfg cfg' : Obj} (h : Dict.lookup "networks" cfg = Dict.lookup "networks" cfg')
    (caps : Capabilities) (wifi : Obj) :
    validateWirelessNetwork caps cfg wifi = validateWirelessNetwork caps cfg' wifi := by
  funext _ wnid
  unfold validateWirelessNetwork
  simp only [h]

theorem validateWifi_again {caps : Capabilities} {cfg cfg' : Obj}
    (hsame : Dict.lookup "networks" cfg = Dict.lookup "networks" cfg') :
    Again Always Eq (validateWifi caps cfg) (validateWifi caps cfg') := by
  intro a w x a' w' h _ u
  unfold validateWifi at h
  obtain ⟨country, a₁, w₁, hcountry, h⟩ := bind_eq_ok.mp h
  obtain ⟨_, a₂, w₂, hcode, h⟩ := bind_eq_ok.mp h
  obtain ⟨_, a₃, w₃, hradios, h⟩ := bind_eq_ok.mp h
  obtain ⟨wifi, a₄, w₄, hself, h⟩ := bind_eq_ok.mp h
  obtain ⟨_, a₅, w₅, hnetworks, h⟩ := bind_eq_ok.mp h
  obtain ⟨_, a₆, w₆, hregulatory, h⟩ := bind_eq_ok.mp h
  obtain ⟨radios, a₇, w₇, hget, h⟩ := bind_eq_ok.mp h
  obtain ⟨_, a₈, w₈, hwarn, h⟩ := bind_eq_ok.mp h
  obtain ⟨_, a₉, w₉, hopt, h⟩ := bind_eq_ok.mp h
  obtain ⟨hcountry, h₁, -⟩ := setdefault_eq_ok.mp hcountry
  obtain ⟨hcode, h₂⟩ := raiseIf_eq_ok hcode
  obtain ⟨ro, ro', -, hrloop, h₃⟩ := within_eq_ok.mp hradios
  simp only [self, Except.ok.injEq, Prod.mk.injEq] at hself
  obtain ⟨hwifi, h₄, -⟩ := hself
  obtain ⟨no, no', -, hnloop, h₅⟩ := within_eq_ok.mp hnetworks
  obtain ⟨rego, rego', -, hreg, h₆⟩ := within_eq_ok.mp hregulatory
  have h₇ := (get_eq_ok hget).2
  have h₈ : a₈ = a₇ := Quiet.warnings (fun _ => widthWarnings radios.entries) _ _ _ _ _ hwarn
  obtain ⟨opto, opto', -, hoptrun, h₉⟩ := within_eq_ok.mp hopt
  -- the networks that the MLDs are checked with
  have hone : ∀ (s : Unit) k a w s' a' w', validateWirelessNetwork caps cfg wifi s k a w = .ok (s', a', w') →
      SsidFields a' := fun s k a w s' a' w' hk => network_of_validateWirelessNetwork hk
  have hall : AllSsids no' := (eachEntry_post hone _ hnloop).2
  have hbase : a₉ = Dict.set "channel_optimisation" (.obj opto') (Dict.set "regulatory" (.obj rego')
      (Dict.set "networks" (.obj no') (Dict.set "radios" (.obj ro') a₁))) := by
    rw [h₉, h₈, h₇, h₆, h₅, ← h₄, h₃, h₂]
  have hnets₉ : Dict.lookup "networks" a₉ = some (.obj no') := by
    rw [hbase, Dict.lookup_set_of_ne (by decide), Dict.lookup_set_of_ne (by decide), Dict.lookup_set_self]
  obtain ⟨networks', mlds', hnets', hraised, hmlds', hobjects, hrest, hagain⟩ := validateMlds_again h hnets₉ hall
  have hradios' : Dict.lookup "radios" a' = some (.obj ro') := by
    rw [hrest _ (by decide), hbase, Dict.lookup_set_of_ne (by decide), Dict.lookup_set_of_ne (by decide),
      Dict.lookup_set_of_ne (by decide), Dict.lookup_set_self]
  have hreg' : Dict.lookup "regulatory" a' = some (.obj rego') := by
    rw [hrest _ (by decide), hbase, Dict.lookup_set_of_ne (by decide), Dict.lookup_set_self]
  have hopt' : Dict.lookup "channel_optimisation" a' = some (.obj opto') := by
    rw [hrest _ (by decide), hbase, Dict.lookup_set_self]
  have hcountry' : Dict.lookup "country" a' = some country := by
    rw [hrest _ (by decide), hbase, Dict.lookup_set_of_ne (by decide), Dict.lookup_set_of_ne (by decide),
      Dict.lookup_set_of_ne (by decide), Dict.lookup_set_of_ne (by decide), h₁, Dict.lookup_setdefault_self, hcountry]
  have hradius : radiusOf wifi = radiusOf a' := by
    unfold radiusOf
    rw [hrest _ (by decide), hbase, Dict.lookup_set_of_ne (by decide), Dict.lookup_set_of_ne (by decide),
      Dict.lookup_set_of_ne (by decide), Dict.lookup_set_of_ne (by decide), ← hwifi, h₃, h₂,
      Dict.lookup_set_of_ne (by decide)]
  -- the second run
  obtain ⟨u₁, hu₁⟩ := again_eachEntry (fun rid => notObject ("wifi.radios." ++ rid))
    (fun _ rid => validateRadio_again caps (pyStr country) rid) ro hrloop (fun _ _ _ => trivial) u
  obtain ⟨u₂, hu₂⟩ := settlesOn_eachEntry (badEntry "wifi.networks")
    (fun _ wnid => validateWirelessNetwork_again caps cfg hradius
      (mldsRead_of_objects hmlds' hobjects) wnid) no hnloop hraised u₁
  obtain ⟨_, u₃, hu₃, -⟩ := validateRegulatory_again _ _ _ _ _ hreg trivial u₂
  obtain ⟨_, u₄, hu₄, -⟩ := validateOptimisation_again _ _ _ _ _ hoptrun trivial (u₃ ++ widthWarnings ro')
  obtain ⟨u₅, hu₅⟩ := hagain u₄
  refine ⟨(), u₅, ?_, rfl⟩
  unfold validateWifi
  rw [validateWirelessNetwork_congr hsame] at hu₂
  refine bind_eq_ok.mpr ⟨country, a', u, setdefault_eq_ok.mpr ⟨?_, (Dict.setdefault_eq_self hcountry').symm, rfl⟩, ?_⟩
  · rw [hcountry']
    rfl
  refine bind_eq_ok.mpr ⟨(), a', u, raiseIf_of_false hcode _ _ _, ?_⟩
  refine bind_eq_ok.mpr ⟨(), a', u₁, within_of_lookup hradios' hu₁, ?_⟩
  refine bind_eq_ok.mpr ⟨a', a', u₁, rfl, ?_⟩
  refine bind_eq_ok.mpr ⟨(), a', u₂, within_of_lookup hnets' hu₂, ?_⟩
  refine bind_eq_ok.mpr ⟨(), a', u₃, within_of_lookup hreg' hu₃, ?_⟩
  refine bind_eq_ok.mpr ⟨.obj ro', a', u₃, get_of_lookup hradios' u₃, ?_⟩
  refine bind_eq_ok.mpr ⟨(), a', u₃ ++ widthWarnings ro', rfl, ?_⟩
  exact bind_eq_ok.mpr ⟨(), a', u₄, within_of_lookup hopt' hu₄, hu₅⟩

end Sbegw.Schema
