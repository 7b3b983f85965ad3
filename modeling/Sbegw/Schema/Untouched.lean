import Sbegw.Schema.Wireless

/-!
# Fields that validation does not know

A network and an SSID may carry fields that no check looks at, such as the id that a controller gave
them.  Validation leaves them where they are.
-/

namespace Sbegw

namespace EditM

variable {β γ σ : Type} {k : String}

theorem Leaves.of_quiet {m : EditM β} (h : Quiet m) : Leaves k m := by
  intro a w b a' w' hm
  rw [h a w b a' w' hm]

theorem Leaves.of_checked {fs : Facts} {m : EditM β} (h : Checked fs m) (hk : k ∉ fs.map Prod.fst) :
    Leaves k m := fun a w b a' w' hm => (h a w b a' w' hm).1 k hk

theorem Leaves.bind {m : EditM β} {f : β → EditM γ} (hm : Leaves k m) (hf : ∀ b, Leaves k (f b)) :
    Leaves k (m >>= f) := by
  intro a w c a' w' h
  obtain ⟨b, a₁, w₁, h₁, h₂⟩ := bind_eq_ok.mp h
  rw [hf b a₁ w₁ c a' w' h₂, hm a w b a₁ w₁ h₁]

theorem leaves_field {j : String} {v : Json} {check : Json → Except Exn β} (h : k ≠ j) :
    Leaves k (Schema.field j v check) := by
  refine Leaves.bind (Leaves.of_checked (checked_setdefault j v) (by simpa using h)) fun x => ?_
  exact Leaves.of_quiet (Quiet.lift _)

theorem leaves_within {j : String} {d : Obj} {bad : Json → Exn} {p : EditM β} (h : k ≠ j) :
    Leaves k (within j d bad p) := Leaves.of_checked (checked_within j d bad p) (by simpa using h)

/-- **A loop over entries** leaves a field of each where its body does. -/
theorem eachEntry_leaves {bad : String → Exn} {f : σ → String → EditM σ} (hf : ∀ s n, Leaves k (f s n)) :
    ∀ (a : Obj) {s t : σ} {w w' : List String} {a' : Obj}, eachEntry bad f s a w = .ok (t, a', w') →
      ∀ n, (Dict.lookup n a').bind (·.get? k) = (Dict.lookup n a).bind (·.get? k)
  | [], s, t, w, w', a', h, n => by
    simp only [eachEntry, Except.ok.injEq, Prod.mk.injEq] at h
    rw [h.2.1]
  | (j, v) :: rest, s, t, w, w', a', h, n => by
    cases v with
    | obj o =>
      obtain ⟨s₁, o', w₁, hs, s₂, rest', w₂, hr, rfl, rfl, rfl⟩ := eachEntry_cons_eq_ok.mp h
      have hfield : Dict.lookup k o' = Dict.lookup k o := hf s j o w s₁ o' w₁ hs
      rw [Dict.lookup_cons, Dict.lookup_cons]
      by_cases hn : j = n
      · rw [if_pos hn, if_pos hn]
        exact hf s j o w s₁ o' w₁ hs
      · rw [if_neg hn, if_neg hn]
        exact eachEntry_leaves hf rest hr n
    | _ => simp [eachEntry] at h

end EditM

namespace Schema

open EditM

theorem leaves_flag {k j base : String} {d : Bool} (h : k ≠ j) : Leaves k (flag base j d) := leaves_field h

/-- The checks of an SSID do not look at its controller id. -/
theorem leaves_validateWirelessNetwork (caps : Capabilities) (cfg wifi : Obj) (wnid : String) :
    Leaves "controller_id" (validateWirelessNetwork caps cfg wifi () wnid) := by
  unfold validateWirelessNetwork
  have hquiet : ∀ {β : Type} {m : EditM β}, Quiet m → Leaves "controller_id" m := fun h => Leaves.of_quiet h
  have hbound : ∀ (c : Prop) [Decidable c] (text : String),
      Leaves "controller_id" (EditM.when c do
        let bound ← lift (do boundByMld wnid (← mldsOf wifi))
        EditM.when (!bound) (warn text)) := fun c _ text =>
    hquiet (Quiet.when (Quiet.bind (Quiet.lift _) fun _ => Quiet.when (Quiet.warn _)))
  repeat' first
    | exact leaves_flag (by decide)
    | exact leaves_within (by decide)
    | exact hbound _ _
    | exact hquiet (Quiet.lift _)
    | exact hquiet (Quiet.get _)
    | exact hquiet (quiet_warnOf _)
    | exact hquiet (Quiet.raiseIf _ _)
    | exact hquiet (Quiet.when (Quiet.warn _))
    | exact hquiet (Quiet.when (Quiet.lift _))
    | exact leaves_field (by decide)
    | refine Leaves.bind ?_ fun _ => ?_

/-- Without MLDs the networks stay as they are. -/
theorem networks_of_validateMlds {caps : Capabilities} {a a' : Obj} {w w' : List String} {u : Unit} {nets : Obj}
    (h : validateMlds caps a w = .ok (u, a', w')) (hmlds : Dict.lookup "mlds" a = some (.obj []))
    (hnets : Dict.lookup "networks" a = some (.obj nets)) :
    Dict.lookup "networks" a' = some (.obj nets) ∧ Dict.lookup "mlds" a' = some (.obj []) := by
  unfold validateMlds at h
  obtain ⟨radios, a₁, w₁, hradios, h⟩ := bind_eq_ok.mp h
  obtain ⟨networks, a₂, w₂, hget, h⟩ := bind_eq_ok.mp h
  obtain ⟨s, a₃, w₃, hwithin, h⟩ := bind_eq_ok.mp h
  obtain ⟨-, h₁⟩ := get_eq_ok hradios
  obtain ⟨hvalue, h₂⟩ := get_eq_ok hget
  rw [h₁, hnets] at hvalue
  obtain ⟨mlds, mlds', hlook, hloop, h₃⟩ := within_eq_ok.mp hwithin
  rw [h₂, h₁, hmlds] at hlook
  obtain rfl : [] = mlds := Json.obj.inj hlook
  obtain ⟨hs, rfl, -⟩ : ([], networks.entries) = s ∧ [] = mlds' ∧ w₂ = w₃ := by
    simpa [entriesOf, eachEntry] using hloop
  rw [put_eq_ok h]
  constructor
  · rw [Dict.lookup_set_self, ← hs, hvalue]
    rfl
  · rw [Dict.lookup_set_of_ne (by decide), h₃]
    exact Dict.lookup_set_self _ _ _

/-- The SSIDs of a document without MLDs. -/
theorem ids_of_validateWifi {caps : Capabilities} {cfg a a' : Obj} {w w' : List String} {u : Unit} {nets : Obj}
    (h : validateWifi caps cfg a w = .ok (u, a', w')) (hmlds : Dict.lookup "mlds" a = some (.obj []))
    (hnets : Dict.lookup "networks" a = some (.obj nets)) :
    ∃ nets', Dict.lookup "networks" a' = some (.obj nets') ∧ Dict.lookup "mlds" a' = some (.obj []) ∧
      ∀ n, (Dict.lookup n nets').bind (·.get? "controller_id") = (Dict.lookup n nets).bind (·.get? "controller_id") := by
  unfold validateWifi at h
  obtain ⟨country, a₁, w₁, hcountry, h⟩ := bind_eq_ok.mp h
  obtain ⟨_, a₂, w₂, hre, h⟩ := bind_eq_ok.mp h
  obtain ⟨_, a₃, w₃, hradios, h⟩ := bind_eq_ok.mp h
  obtain ⟨wifi, a₄, w₄, hself, h⟩ := bind_eq_ok.mp h
  obtain ⟨_, a₅, w₅, hnetworks, h⟩ := bind_eq_ok.mp h
  obtain ⟨_, a₆, w₆, hregulatory, h⟩ := bind_eq_ok.mp h
  obtain ⟨radios, a₇, w₇, hread, h⟩ := bind_eq_ok.mp h
  obtain ⟨_, a₈, w₈, hwarn, h⟩ := bind_eq_ok.mp h
  obtain ⟨_, a₉, w₉, hopt, h⟩ := bind_eq_ok.mp h
  -- the steps before the SSIDs
  obtain ⟨-, h₁, -⟩ := setdefault_eq_ok.mp hcountry
  obtain ⟨-, h₂⟩ := raiseIf_eq_ok hre
  obtain ⟨_, _, -, -, h₃⟩ := within_eq_ok.mp hradios
  have h₄ : a₄ = a₃ := Quiet.self _ _ _ _ _ hself
  have hbefore : ∀ k, k ≠ "country" → k ≠ "radios" → Dict.lookup k a₄ = Dict.lookup k a := by
    intro k hk₁ hk₂
    rw [h₄, h₃, Dict.lookup_set_of_ne hk₂, h₂, h₁, Dict.lookup_setdefault_of_ne hk₁]
  -- the steps after them
  obtain ⟨o, nets', hlook, hloop, h₅⟩ := within_eq_ok.mp hnetworks
  obtain ⟨_, _, -, -, h₆⟩ := within_eq_ok.mp hregulatory
  obtain ⟨-, h₇⟩ := get_eq_ok hread
  have h₈ : a₈ = a₇ := Quiet.warnings (fun _ => widthWarnings radios.entries) _ _ _ _ _ hwarn
  obtain ⟨_, _, -, -, h₉⟩ := within_eq_ok.mp hopt
  have hafter : ∀ k, k ≠ "regulatory" → k ≠ "channel_optimisation" →
      Dict.lookup k a₉ = Dict.lookup k (Dict.set "networks" (.obj nets') a₄) := by
    intro k hk₁ hk₂
    rw [h₉, Dict.lookup_set_of_ne hk₂, h₈, h₇, h₆, Dict.lookup_set_of_ne hk₁, h₅]
  have hmlds' : Dict.lookup "mlds" a₉ = some (.obj []) := by
    rw [hafter "mlds" (by decide) (by decide), Dict.lookup_set_of_ne (by decide),
      hbefore "mlds" (by decide) (by decide)]
    exact hmlds
  have hnets' : Dict.lookup "networks" a₉ = some (.obj nets') := by
    rw [hafter "networks" (by decide) (by decide)]
    exact Dict.lookup_set_self _ _ _
  rw [hbefore "networks" (by decide) (by decide), hnets] at hlook
  obtain rfl : nets = o := Json.obj.inj hlook
  obtain ⟨hnets'', hmlds''⟩ := networks_of_validateMlds h hmlds' hnets'
  refine ⟨nets', hnets'', hmlds'', ?_⟩
  exact eachEntry_leaves (fun _ wnid => leaves_validateWirelessNetwork caps cfg wifi wnid) nets hloop

/-- **The networks keep their controller ids.** -/
theorem networkIds_of_validate {caps : Capabilities} {cfg t nets : Obj} {w : List String}
    (h : validate caps cfg = .ok (t, w)) (hnets : Dict.lookup "networks" cfg = some (.obj nets)) :
    ∃ nets', Dict.lookup "networks" t = some (.obj nets') ∧
      ∀ n, (Dict.lookup n nets').bind (·.get? "controller_id") = (Dict.lookup n nets).bind (·.get? "controller_id") := by
  obtain ⟨m, o, nets', _, _, hbefore, hcheck, hlook, -, -⟩ := section_of_validate h [_, _] _ _ rfl
  rw [show Dict.lookup _ cfg = some (.obj nets) from hnets] at hbefore
  obtain rfl : nets = o := Json.obj.inj hbefore
  have hcheck' : validateNetworks m nets _ = _ := hcheck
  unfold validateNetworks at hcheck'
  obtain ⟨networks, a₁, w₁, hself, hcheck'⟩ := bind_eq_ok.mp hcheck'
  obtain ⟨_, a₂, w₂, hraise, hcheck'⟩ := bind_eq_ok.mp hcheck'
  obtain ⟨s, a₃, w₃, hloop, hcheck'⟩ := bind_eq_ok.mp hcheck'
  obtain ⟨-, rfl, -⟩ := pure_eq_ok.mp hcheck'
  have h₁ : a₁ = nets := Quiet.self _ _ _ _ _ hself
  have h₂ : a₂ = a₁ := Quiet.raiseIf _ _ _ _ _ _ _ hraise
  rw [h₂, h₁] at hloop
  have hleaves : ∀ (seen : SeenNetworks) nid, Leaves "controller_id" (validateNetwork m seen nid) :=
    fun seen nid => Leaves.of_checked (checked_validateNetwork m seen nid) (by decide)
  exact ⟨_, hlook, eachEntry_leaves hleaves nets hloop⟩

/-- **The SSIDs of a document without MLDs keep their controller ids.** -/
theorem ssidIds_of_validate {caps : Capabilities} {cfg t wifi nets : Obj} {w : List String}
    (h : validate caps cfg = .ok (t, w)) (hwifi : Dict.lookup "wifi" cfg = some (.obj wifi))
    (hmlds : Dict.lookup "mlds" wifi = some (.obj [])) (hnets : Dict.lookup "networks" wifi = some (.obj nets)) :
    ∃ wifi' nets', Dict.lookup "wifi" t = some (.obj wifi') ∧ Dict.lookup "mlds" wifi' = some (.obj []) ∧
      Dict.lookup "networks" wifi' = some (.obj nets') ∧
      ∀ n, (Dict.lookup n nets').bind (·.get? "controller_id") = (Dict.lookup n nets).bind (·.get? "controller_id") := by
  obtain ⟨m, o, wifi', _, _, hbefore, hcheck, hlook, -, -⟩ :=
    section_of_validate h [_, _, _, _, _, _, _, _, _, _, _] _ _ rfl
  rw [show Dict.lookup _ cfg = some (.obj wifi) from hwifi] at hbefore
  obtain rfl : wifi = o := Json.obj.inj hbefore
  obtain ⟨nets', hnets', hmlds', hids⟩ := ids_of_validateWifi hcheck hmlds hnets
  exact ⟨wifi', nets', hlook, hmlds', hnets', hids⟩

end Schema

end Sbegw
