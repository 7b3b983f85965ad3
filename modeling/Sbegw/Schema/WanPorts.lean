import Sbegw.Schema.Wireless
import Sbegw.Settle

/-!
# The ports of the WANs

The loop over the WANs moves an uplink whose port has lost its role onto the only free port that has
it.  What it claims for one WAN comes from the WANs before it, which have moved, and those after it,
which have not; the ports are different all the same, and a second validation moves nothing.
-/

namespace Sbegw.Schema

open EditM Text

/-! ### The property -/

/-- `cfg.get("ports", {})` -/
def portsOf (cfg : Obj) : Obj := ((Dict.lookup "ports" cfg).getD (.obj [])).entries

/-- The port has role `wan`. -/
def RoleWan (ports : Obj) (port : String) : Prop :=
  attr (attr (.obj ports) port .null) "role" .null = .str "wan"

/-- `wan.get("port")` -/
def wanPortOf (wan : Json) : Json := attr wan "port" .null

/-- `wan.get("enabled", True)` -/
def wanEnabled (wan : Json) : Json := attr wan "enabled" (.bool true)

/-- A WAN after validation and before it: it stays where it was when that port has the role, or when
the WAN is disabled. -/
def Follows (ports : Obj) (before after : String × Json) : Prop :=
  after.1 = before.1 ∧ wanEnabled after.2 = wanEnabled before.2 ∧
    ∀ port, wanPortOf before.2 = .str port → RoleWan ports port ∨ wanEnabled before.2 = .bool false →
      wanPortOf after.2 = .str port

/-- **The WANs are on ports of their own**: existing ones, those of role `wan` for the enabled WANs. -/
structure SafePorts (ports wans wans' : Obj) : Prop where
  exist : ∀ e ∈ wans', ∃ port, wanPortOf e.2 = .str port ∧ (Dict.lookup port ports).isSome
  distinct : wans'.Pairwise fun a b => wanPortOf a.2 ≠ wanPortOf b.2
  backed : ∀ e ∈ wans', ∀ port, wanEnabled e.2 = .bool true → wanPortOf e.2 = .str port → RoleWan ports port
  kept : List.Forall₂ (Follows ports) wans wans'

/-! ### One WAN -/

/-- A port of role `wan` that is enabled is a port, of that role. -/
theorem mem_wanRolePorts {ports : Obj} (hports : (Dict.keys ports).Nodup) {port : String}
    (h : port ∈ wanRolePorts ports) : (Dict.lookup port ports).isSome ∧ RoleWan ports port := by
  unfold wanRolePorts at h
  obtain ⟨e, he, hport⟩ := List.mem_filterMap.mp h
  split at hport
  · next hrole =>
    obtain rfl := Option.some.inj hport
    have hmem : (e.1, e.2) ∈ ports := (List.mem_insertionSort _).mp he
    have hlook : Dict.lookup e.1 ports = some e.2 := Dict.lookup_of_mem hports hmem
    refine ⟨by rw [hlook]; rfl, ?_⟩
    have hattr : attr (.obj ports) e.1 .null = e.2 := by
      show (Dict.lookup e.1 ports).getD .null = e.2
      rw [hlook]
      rfl
    unfold RoleWan
    rw [hattr]
    exact hrole.1
  · exact absurd hport (by simp)

/-- A claimed port is a port that no earlier WAN is on. -/
theorem claimPort_free {ports : Obj} {used : Dict String String} {base p : String} {port : Json}
    (h : claimPort ports used base port = .ok p) :
    (Dict.lookup p ports).isSome ∧ Dict.lookup p used = none := by
  obtain rfl := claimPort_eq_ok h
  unfold claimPort at h
  obtain ⟨b, hb, h⟩ := except_bind_eq_ok.mp h
  simp only [pyIn, Except.ok.injEq] at hb
  split at h
  · exact absurd h (by simp)
  · next hin =>
    refine ⟨by simpa [hb] using hin, ?_⟩
    simp only at h
    split at h
    · exact absurd h (by simp)
    · next hnone => exact hnone

theorem claimPort_of_free {ports : Obj} {used : Dict String String} {port : String} (base : String)
    (hin : (Dict.lookup port ports).isSome = true) (hfree : Dict.lookup port used = none) :
    claimPort ports used base (.str port) = .ok port := by
  simp only [claimPort, pyIn, hin, ok_bind, hfree]
  rfl

/-- Where an enabled WAN goes: nowhere while its port has the role, else onto a free port that has it. -/
theorem wanPort_eq_ok {ports others : Obj} {used : Dict String String} {wid own port : String}
    (hports : (Dict.keys ports).Nodup) (h : wanPort ports others used wid own = .ok port) :
    RoleWan ports port ∧ (RoleWan ports own ∧ port = own ∨
      ¬ RoleWan ports own ∧ (Dict.lookup port ports).isSome ∧ Dict.lookup port used = none) := by
  unfold wanPort at h
  split at h
  · next hrole =>
    obtain rfl := Except.ok.inj h
    exact ⟨hrole, .inl ⟨hrole, rfl⟩⟩
  · next hrole =>
    obtain ⟨claimed, -, h⟩ := except_bind_eq_ok.mp h
    simp only at h
    split at h
    · next p hfree =>
      obtain rfl := Except.ok.inj h
      have hmem := List.mem_filter.mp (hfree ▸ List.mem_singleton_self p)
      obtain ⟨hin, hwan⟩ := mem_wanRolePorts hports hmem.1
      refine ⟨hwan, .inr ⟨hrole, hin, ?_⟩⟩
      have hunused : p ∉ used.keys := by
        intro hused
        have := hmem.2
        simp [hused] at this
      exact Dict.lookup_eq_none_iff.mpr hunused
    · exact absurd h (by simp)

/-- What becomes of the port of a WAN. -/
structure Settled (ports : Obj) (used : Dict String String) (enabled : Bool) (own port : String) : Prop where
  exists_port : (Dict.lookup port ports).isSome
  unused : Dict.lookup port used = none
  backed : enabled = true → RoleWan ports port
  kept : RoleWan ports own ∨ enabled = false → port = own

theorem settlePort_eq_ok {ports others : Obj} {used : Dict String String} {wid : String} {enabled : Bool}
    (hports : (Dict.keys ports).Nodup) {a a' : Obj} {w w' : List String} {port : String}
    (h : settlePort ports others used wid enabled a w = .ok (port, a', w')) :
    (∀ j, j ≠ "port" → Dict.lookup j a' = Dict.lookup j a) ∧ Dict.lookup "port" a' = some (.str port) ∧
      ∃ own, Dict.lookup "port" a = some (.str own) ∧ Settled ports used enabled own port := by
  unfold settlePort at h
  obtain ⟨named, a₁, w₁, hget, h⟩ := bind_eq_ok.mp h
  simp only [EditM.get, Except.ok.injEq, Prod.mk.injEq] at hget
  obtain ⟨rfl, rfl, rfl⟩ := hget
  obtain ⟨own, a₂, w₂, hown, h⟩ := bind_eq_ok.mp h
  obtain ⟨hclaim, rfl, rfl⟩ := lift_eq_ok.mp hown
  obtain ⟨moved, a₃, w₃, hport, h⟩ := bind_eq_ok.mp h
  obtain ⟨hmoved, rfl, rfl⟩ := lift_eq_ok.mp hport
  obtain ⟨u, a₄, w₄, hwhen, h⟩ := bind_eq_ok.mp h
  obtain ⟨rfl, rfl, -⟩ := pure_eq_ok.mp h
  have hnamed : Dict.lookup "port" a = some (.str own) := by
    have hstr := claimPort_eq_ok hclaim
    cases hl : Dict.lookup "port" a with
    | none => simp [hl] at hstr
    | some x => simpa [hl] using hstr
  obtain ⟨hin, hfree⟩ := claimPort_free hclaim
  have hsettled : Settled ports used enabled own moved := by
    cases enabled with
    | false =>
      obtain rfl := Except.ok.inj hmoved
      exact ⟨hin, hfree, fun h => absurd h (by simp), fun _ => rfl⟩
    | true =>
      obtain ⟨hwan, ⟨hrole, rfl⟩ | ⟨hrole, hin', hfree'⟩⟩ := wanPort_eq_ok hports hmoved
      · exact ⟨hin, hfree, fun _ => hwan, fun _ => rfl⟩
      · refine ⟨hin', hfree', fun _ => hwan, fun h => ?_⟩
        rcases h with h | h
        · exact absurd h hrole
        · exact absurd h (by simp)
  unfold EditM.when at hwhen
  split at hwhen
  · -- moved to another port
    obtain ⟨u', a₅, w₅, hwarn, hput⟩ := bind_eq_ok.mp hwhen
    simp only [EditM.warn, Except.ok.injEq, Prod.mk.injEq] at hwarn
    simp only [EditM.put, Except.ok.injEq, Prod.mk.injEq] at hput
    obtain ⟨-, rfl, -⟩ := hwarn
    obtain ⟨-, rfl, -⟩ := hput
    exact ⟨fun j hj => Dict.lookup_set_of_ne hj _ _, Dict.lookup_set_self _ _ _, own, hnamed, hsettled⟩
  · next hsame =>
    obtain ⟨-, rfl, -⟩ := pure_eq_ok.mp hwhen
    have hown : moved = own := not_not.mp hsame
    exact ⟨fun _ _ => rfl, by rw [hown]; exact hnamed, own, hnamed, hsettled⟩

/-- The second time a WAN stays on its port, as long as no WAN before it is on that port. -/
def Unclaimed (used : Dict String String) (z : Obj) : Prop :=
  ∀ port, Dict.lookup "port" z = some (.str port) → Dict.lookup port used = none

theorem settlePort_again {ports others others' : Obj} {used used' : Dict String String} {wid : String}
    {enabled : Bool} (hports : (Dict.keys ports).Nodup) {U : List String} (hU : "port" ∉ U) :
    Settles (Unclaimed used') U ["port"] Eq (settlePort ports others used wid enabled)
      (settlePort ports others' used' wid enabled) := by
  intro a w port a' w' h
  obtain ⟨hframe, hport, own, -, hsettled⟩ := settlePort_eq_ok hports h
  refine ⟨fun j hj => hframe j (by simpa using hj), fun z u hz hfree => ⟨port, u, ?_, rfl⟩⟩
  have hz : Dict.lookup "port" z = some (.str port) := by rw [hz "port" hU, hport]
  have hclaim : claimPort ports used' ("wans." ++ wid) (.str port) = .ok port :=
    claimPort_of_free ("wans." ++ wid) hsettled.exists_port (hfree port hz)
  have hstays : (if enabled then wanPort ports others' used' wid port else pure port) = .ok port := by
    cases enabled with
    | false => rfl
    | true =>
      have hrole : attr (attr (.obj ports) port .null) "role" .null = .str "wan" := hsettled.backed rfl
      simp only [if_true, wanPort, if_pos hrole]
      rfl
  unfold settlePort
  refine bind_eq_ok.mpr ⟨.str port, z, u, ?_, ?_⟩
  · simp only [EditM.get, hz, Option.getD_some]
  · refine bind_eq_ok.mpr ⟨port, z, u, lift_eq_ok.mpr ⟨hclaim, rfl, rfl⟩, ?_⟩
    refine bind_eq_ok.mpr ⟨port, z, u, lift_eq_ok.mpr ⟨hstays, rfl, rfl⟩, ?_⟩
    refine bind_eq_ok.mpr ⟨(), z, u, ?_, rfl⟩
    unfold EditM.when
    rw [if_neg (not_not.mpr rfl)]
    rfl

/-! ### The fields of a WAN -/

/-- A step that fills in one key leaves the others. -/
theorem lookup_of_field {β : Type} {k j : String} {v : Json} {check : Json → Except Exn β} {a a' : Obj}
    {w w' : List String} {b : β} (h : field k v check a w = .ok (b, a', w')) (hj : j ≠ k) :
    Dict.lookup j a' = Dict.lookup j a := by
  obtain ⟨-, rfl⟩ := field_eq_ok h
  exact Dict.lookup_setdefault_of_ne hj v a

theorem lookup_of_checked {β : Type} {fs : Facts} {m : EditM β} (hm : Checked fs m) {j : String}
    {a a' : Obj} {w w' : List String} {b : β} (h : m a w = .ok (b, a', w')) (hj : j ∉ fs.map Prod.fst) :
    Dict.lookup j a' = Dict.lookup j a :=
  (hm a w b a' w' h).1 j hj

theorem validateWan_eq_ok {ports others : Obj} {used : Dict String String} {wid port : String}
    (hports : (Dict.keys ports).Nodup) {a a' : Obj} {w w' : List String}
    (h : validateWan ports others used wid a w = .ok (port, a', w')) :
    ∃ enabled own, wanEnabled (.obj a) = .bool enabled ∧ wanEnabled (.obj a') = .bool enabled ∧
      wanPortOf (.obj a) = .str own ∧ wanPortOf (.obj a') = .str port ∧
        Settled ports used enabled own port := by
  unfold validateWan at h
  obtain ⟨_, a₁, w₁, hid, h⟩ := bind_eq_ok.mp h
  obtain ⟨_, a₂, w₂, hname, h⟩ := bind_eq_ok.mp h
  obtain ⟨mode, a₃, w₃, hmode, h⟩ := bind_eq_ok.mp h
  obtain ⟨enabled, a₄, w₄, henabled, h⟩ := bind_eq_ok.mp h
  obtain ⟨_, a₅, w₅, hpriority, h⟩ := bind_eq_ok.mp h
  obtain ⟨_, a₆, w₆, hweight, h⟩ := bind_eq_ok.mp h
  obtain ⟨_, a₇, w₇, hmtu, h⟩ := bind_eq_ok.mp h
  obtain ⟨_, a₈, w₈, hvlan, h⟩ := bind_eq_ok.mp h
  obtain ⟨_, a₉, w₉, hcheck, h⟩ := bind_eq_ok.mp h
  obtain ⟨settled, b₁, v₁, hsettle, h⟩ := bind_eq_ok.mp h
  obtain ⟨hframe, hport, own, hown, hsettled⟩ := settlePort_eq_ok hports hsettle
  have hread : a₉ = a₇ := by rw [← (lift_eq_ok.mp hcheck).2.1, (get_eq_ok hvlan).2]
  rw [hread] at hframe hown
  obtain ⟨_, b₂, v₂, hstatic, h⟩ := bind_eq_ok.mp h
  obtain ⟨_, b₃, v₃, hpppoe, h⟩ := bind_eq_ok.mp h
  obtain ⟨_, b₄, v₄, hmac, h⟩ := bind_eq_ok.mp h
  obtain ⟨_, b₅, v₅, hipv6, h⟩ := bind_eq_ok.mp h
  obtain ⟨_, b₆, v₆, hdns, h⟩ := bind_eq_ok.mp h
  obtain ⟨hsame, hlast, -⟩ := pure_eq_ok.mp h
  -- before the port
  have hown' : Dict.lookup "port" a = some (.str own) := by
    rw [lookup_of_field hmtu (by decide), lookup_of_field hweight (by decide),
      lookup_of_field hpriority (by decide), lookup_of_field henabled (by decide),
      lookup_of_field hmode (by decide), lookup_of_field hname (by decide)] at hown
    rw [(lift_eq_ok.mp hid).2.1, hown]
  have hswitch : Dict.lookup "enabled" a₃ = Dict.lookup "enabled" a := by
    rw [lookup_of_field hmode (by decide), lookup_of_field hname (by decide), (lift_eq_ok.mp hid).2.1]
  obtain ⟨hcheckEnabled, hfilled⟩ := field_eq_ok henabled
  have hbool : (Dict.lookup "enabled" a).getD (.bool true) = .bool enabled := by
    rw [← hswitch]
    exact vBool_eq_ok hcheckEnabled
  have hset : Dict.lookup "enabled" b₁ = some (.bool enabled) := by
    rw [hframe "enabled" (by decide), lookup_of_field hmtu (by decide), lookup_of_field hweight (by decide),
      lookup_of_field hpriority (by decide), hfilled, Dict.lookup_setdefault_self, hswitch, hbool]
  -- after the port
  have hrest : ∀ k, k ∉ ["static", "pppoe", "ipv6", "dns"] → Dict.lookup k a' = Dict.lookup k b₁ := by
    intro k hk
    simp only [List.mem_cons, List.not_mem_nil, or_false, not_or] at hk
    rw [← hlast, lookup_of_field hdns hk.2.2.2,
      lookup_of_checked (checked_within "ipv6" _ _ _) hipv6 (by simpa using hk.2.2.1),
      quiet_ifSet _ _ _ _ _ _ _ hmac,
      lookup_of_checked (checked_when_within "pppoe" _ _ _) hpppoe (by simpa using hk.2.1),
      lookup_of_checked (checked_when_within "static" _ _ _) hstatic (by simpa using hk.1)]
  rw [← hsame]
  refine ⟨enabled, own, hbool, ?_, ?_, ?_, hsettled⟩
  · show (Dict.lookup "enabled" a').getD (.bool true) = .bool enabled
    rw [hrest "enabled" (by decide), hset]
    rfl
  · show (Dict.lookup "port" a).getD .null = .str own
    rw [hown']
    rfl
  · show (Dict.lookup "port" a').getD .null = .str settled
    rw [hrest "port" (by decide), hport]
    rfl

/-- **A WAN settles at once.** -/
theorem validateWan_again {ports others others' : Obj} {used used' : Dict String String} {wid : String}
    (hports : (Dict.keys ports).Nodup) :
    Settles (Unclaimed used') []
      ["name", "mode", "enabled", "priority", "weight", "mtu", "port", "static", "pppoe", "ipv6", "dns"] Eq
      (validateWan ports others used wid) (validateWan ports others' used' wid) := by
  unfold validateWan
  refine Settles.check fun _ => ?_
  refine Settles.field (by decide) fun _ => ?_
  refine Settles.field (by decide) fun mode => ?_
  refine Settles.field (by decide) fun enabled => ?_
  refine Settles.field (by decide) fun _ => ?_
  refine Settles.field (by decide) fun _ => ?_
  refine Settles.field (by decide) fun _ => ?_
  refine Settles.get (by decide) fun vlan => ?_
  refine Settles.check fun _ => ?_
  refine Settles.key (settlePort_again hports (by decide)) fun port => ?_
  refine Settles.key ?_ fun _ => Settles.key ?_ fun _ => Settles.quiet (settles_ifSet (by decide)) fun _ =>
    Settles.key ?_ fun _ => Settles.field (by decide) fun _ => Settles.done rfl
  · refine settles_when fun _ => settles_within [] (by decide) ?_
    refine Settles.get (by simp) fun _ => ?_
    refine Settles.check fun _ => ?_
    refine Settles.get (by simp) fun _ => ?_
    exact Settles.check fun _ => Settles.done rfl
  · refine settles_when fun _ => settles_within ["mru"] (by decide) ?_
    refine Settles.get (by decide) fun _ => ?_
    refine Settles.quiet settles_raiseIf fun _ => ?_
    exact Settles.field (by decide) fun _ => Settles.done rfl
  · refine settles_within ["mode"] (by decide) ?_
    exact Settles.field (by decide) fun _ => Settles.done rfl

/-! ### All WANs -/

/-- The loop leaves the WANs on free ports of their own, and would leave them there again. -/
structure Placed (ports : Obj) (used : Dict String String) (rest after : Obj) : Prop where
  follows : List.Forall₂ (Follows ports) rest after
  free : ∀ e ∈ after, ∃ port, wanPortOf e.2 = .str port ∧ (Dict.lookup port ports).isSome ∧
    Dict.lookup port used = none
  backed : ∀ e ∈ after, ∀ port, wanEnabled e.2 = .bool true → wanPortOf e.2 = .str port → RoleWan ports port
  distinct : after.Pairwise fun a b => wanPortOf a.2 ≠ wanPortOf b.2
  again : ∀ (used' : Dict String String) (before : Obj) (u : List String),
    (∀ e ∈ after, ∀ port, wanPortOf e.2 = .str port → Dict.lookup port used' = none) →
      ∃ u', validateWanList ports used' before after u = .ok (before ++ after, u')

theorem placed_nil (ports : Obj) (used : Dict String String) : Placed ports used [] [] where
  follows := .nil
  free := fun _ h => absurd h List.not_mem_nil
  backed := fun _ h => absurd h List.not_mem_nil
  distinct := .nil
  again := fun used' before u _ => ⟨u, by simp [validateWanList]⟩

/-- One more WAN in front. -/
theorem placed_cons {ports others : Obj} {used : Dict String String} {wid port : String} {o o' rest after : Obj}
    {w w' : List String} (hports : (Dict.keys ports).Nodup)
    (hone : validateWan ports others used wid o w = .ok (port, o', w'))
    (hrest : Placed ports (Dict.set port wid used) rest after) :
    Placed ports used ((wid, .obj o) :: rest) ((wid, .obj o') :: after) := by
  obtain ⟨enabled, own, hbefore, hafter, hown, hport, hsettled⟩ := validateWan_eq_ok hports hone
  have hlater : ∀ e ∈ after, ∀ p, wanPortOf e.2 = .str p → p ≠ port ∧ Dict.lookup p used = none := by
    intro e he p hp
    obtain ⟨q, hq, -, hfree⟩ := hrest.free e he
    obtain rfl : p = q := Json.str.inj (hp.symm.trans hq)
    rw [Dict.lookup_set] at hfree
    split at hfree
    · exact absurd hfree (by simp)
    · next hne => exact ⟨hne, hfree⟩
  constructor
  · refine .cons ⟨rfl, by rw [hbefore, hafter], fun p hp hstay => ?_⟩ hrest.follows
    obtain rfl : own = p := Json.str.inj (hown.symm.trans hp)
    rw [hport, hsettled.kept]
    refine hstay.imp_right fun hoff => ?_
    rw [hbefore] at hoff
    exact Json.bool.inj hoff
  · refine List.forall_mem_cons.mpr ⟨⟨port, hport, hsettled.exists_port, hsettled.unused⟩, fun e he => ?_⟩
    obtain ⟨p, hp, hin, -⟩ := hrest.free e he
    exact ⟨p, hp, hin, (hlater e he p hp).2⟩
  · refine List.forall_mem_cons.mpr ⟨fun p hon hp => ?_, hrest.backed⟩
    obtain rfl : port = p := Json.str.inj (hport.symm.trans hp)
    rw [hafter] at hon
    exact hsettled.backed (Json.bool.inj hon)
  · refine List.pairwise_cons.mpr ⟨fun e he heq => ?_, hrest.distinct⟩
    exact (hlater e he port (heq ▸ hport)).1 rfl
  · intro used' before u hfree
    have hunclaimed : Unclaimed used' o' := by
      intro p hp
      refine hfree (wid, .obj o') List.mem_cons_self p ?_
      show (Dict.lookup "port" o').getD .null = .str p
      rw [hp]
      rfl
    obtain ⟨c, u₁, hagain, rfl⟩ : ∃ c u₁, validateWan ports (before ++ after) used' wid o' u = .ok (c, o', u₁) ∧
        port = c := (validateWan_again hports o w port o' w' hone).2 o' u (fun _ _ => rfl) hunclaimed
    obtain ⟨u₂, hlist⟩ := hrest.again (Dict.set port wid used') (before ++ [(wid, .obj o')]) u₁ (by
      intro e he p hp
      rw [Dict.lookup_set_of_ne (hlater e he p hp).1]
      exact hfree e (List.mem_cons_of_mem _ he) p hp)
    refine ⟨u₂, ?_⟩
    simp only [validateWanList, hagain]
    rw [hlist, List.append_assoc]
    rfl

theorem placed_of_list {ports : Obj} (hports : (Dict.keys ports).Nodup) : ∀ {used : Dict String String}
    {before rest wans : Obj} {w w' : List String}, validateWanList ports used before rest w = .ok (wans, w') →
    ∃ after, wans = before ++ after ∧ Placed ports used rest after
  | used, before, [], wans, w, w', h => by
    simp only [validateWanList, Except.ok.injEq, Prod.mk.injEq] at h
    exact ⟨[], by rw [List.append_nil, h.1], placed_nil ports used⟩
  | used, before, (wid, wan) :: rest, wans, w, w', h => by
    cases wan with
    | obj o =>
      simp only [validateWanList] at h
      split at h
      · next port o' w₁ hone =>
        obtain ⟨after, rfl, hplaced⟩ := placed_of_list hports h
        exact ⟨(wid, .obj o') :: after, by simp, placed_cons hports hone hplaced⟩
      · exact absurd h (by simp)
    | _ => exact absurd h (by simp [validateWanList])

/-- **WAN port reassignment is safe**, in whatever order the WANs are checked, and settles at once.  The
ports are a dictionary: no name occurs twice. -/
theorem wan_ports_safe {cfg wans wans' : Obj} {w w' : List String}
    (hports : (Dict.keys (portsOf cfg)).Nodup) (h : validateWans cfg wans w = .ok ((), wans', w')) :
    SafePorts (portsOf cfg) wans wans' ∧ ∀ u, ∃ u', validateWans cfg wans' u = .ok ((), wans', u') := by
  unfold validateWans at h
  simp only at h
  split at h
  · next checked w₁ hlist =>
    simp only [Except.ok.injEq, Prod.mk.injEq, true_and] at h
    obtain ⟨rfl, -⟩ := h
    obtain ⟨after, hafter, hplaced⟩ := placed_of_list hports hlist
    obtain rfl : checked = after := hafter
    refine ⟨⟨fun e he => ?_, hplaced.distinct, hplaced.backed, hplaced.follows⟩, fun u => ?_⟩
    · obtain ⟨port, hport, hin, -⟩ := hplaced.free e he
      exact ⟨port, hport, hin⟩
    · obtain ⟨u', hagain⟩ := hplaced.again [] [] u fun _ _ _ _ => rfl
      have hrun : validateWanList ((Dict.lookup "ports" cfg).getD (.obj [])).entries [] [] checked u =
          .ok (checked, u') := hagain
      refine ⟨u' ++ warnUnusedWanPorts (portsOf cfg) checked, ?_⟩
      simp only [validateWans, hrun]
      rfl
  · exact absurd h (by simp)

/-- The second port promoted to an uplink, the first demoted. -/
def promoted : Obj :=
  Dict.set "ports" (.obj [("eth2", .obj [("role", .str "wan")]), ("eth3", .obj [("role", .str "lan")])])
    defaultEntries

/-- The WAN on the demoted port follows, and stays. -/
theorem wan_ports_safe_promoted : ∃ wan' w', validateWans promoted [("wan1", .obj defaultWan)] [] =
      .ok ((), [("wan1", wan')], w') ∧ wanPortOf wan' = .str "eth2" ∧
    SafePorts (portsOf promoted) [("wan1", .obj defaultWan)] [("wan1", wan')] ∧
    ∃ u', validateWans promoted [("wan1", wan')] [] = .ok ((), [("wan1", wan')], u') := by
  obtain ⟨r, hr⟩ : ∃ r, validateWans promoted [("wan1", .obj defaultWan)] [] = .ok ((), [("wan1",
      .obj (Dict.set "port" (.str "eth2") defaultWan))], r) := ⟨_, by rfl⟩
  have hnodup : (Dict.keys (portsOf promoted)).Nodup := by decide
  obtain ⟨hsafe, hagain⟩ := wan_ports_safe hnodup hr
  exact ⟨_, r, hr, rfl, hsafe, hagain []⟩

end Sbegw.Schema
