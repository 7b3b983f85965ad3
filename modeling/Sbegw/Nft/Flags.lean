import Sbegw.Nft.Defaults

/-!
# Two networks in one zone

The isolation of a network and its missing internet access are lines about the zone of the network.
Another network of that zone is under the same lines; `Spared` says which of its packets do not notice.
-/

namespace Sbegw.Nft

open Text Schema EditM

variable {zones : ZoneMap} {p : Packet}

/-! ### Changing a flag -/

/-- `cfg["networks"][n][flag] = b` -/
def setFlag (cfg : Obj) (n : String) (flag : Flag) (b : Bool) : Obj :=
  let networks := Netd.sectionOf cfg "networks"
  let net := (Dict.lookup n networks).getD .null
  Dict.set "networks" (.obj (Dict.set n (net.put flag.key (.bool b)) networks)) cfg

/-- The networks before the first entry of `n`. -/
def networksBefore (cfg : Obj) (n : String) : Obj :=
  (Netd.sectionOf cfg "networks").takeWhile fun e => e.1 ≠ n

/-- The networks after it. -/
def networksAfter (cfg : Obj) (n : String) : Obj :=
  ((Netd.sectionOf cfg "networks").dropWhile fun e => e.1 ≠ n).tail

/-- What is said before the flag of the network: the networks before it, and its own isolation before
its internet access. -/
def earlierVerdict (cfg : Obj) (zones : ZoneMap) (p : Packet) (n : String) (net : Json) (flag : Flag) :
    Option Verdict :=
  (networksVerdict zones p (networksBefore cfg n)).or
    (if flag = .internetAccess then flagVerdict zones p net .isolation else none)

/-- What is said after it. -/
def laterVerdict (cfg : Obj) (zones : ZoneMap) (p : Packet) (n : String) (net : Json) (flag : Flag) :
    Verdict :=
  ((if flag = .isolation then flagVerdict zones p net .internetAccess else none).or
    (networksVerdict zones p (networksAfter cfg n))).getD (defaultVerdict cfg zones p)

/-- The packet does not notice that the flag of the network is now `b`: it was so before, or something
before the flags decides, or it is not about the flag, or what is said before or after the flag comes
to the same. -/
def Spared (cfg : Obj) (zones : ZoneMap) (p : Packet) (n : String) (net : Json) (flag : Flag) (b : Bool) :
    Prop :=
  net.getD flag.key .null = .bool b ∨ ¬ Fresh zones p ∨
    (∃ r ∈ rulesInForce cfg, ruleMatches cfg zones p r = true) ∨ ¬ Concerns zones p flag net ∨
    (earlierVerdict cfg zones p n net flag).isSome = true ∨
    laterVerdict cfg zones p n net flag = flag.verdict

/-! ### What a flag leaves as it is -/

theorem split_of_lookup {n : String} {net : Json} : ∀ {networks : Obj},
    Dict.lookup n networks = some net →
    networks = (networks.takeWhile fun e => e.1 ≠ n) ++ (n, net) :: (networks.dropWhile fun e => e.1 ≠ n).tail
  | [], h => by simp at h
  | (k, v) :: networks, h => by
    rw [Dict.lookup_cons] at h
    by_cases hk : k = n
    · rw [if_pos hk] at h
      obtain rfl := Option.some.inj h
      simp [hk]
    · rw [if_neg hk] at h
      simpa [hk] using split_of_lookup h

theorem set_of_lookup {n : String} {net : Json} (u : Json) : ∀ {networks : Obj},
    Dict.lookup n networks = some net → Dict.set n u networks =
      (networks.takeWhile fun e => e.1 ≠ n) ++ (n, u) :: (networks.dropWhile fun e => e.1 ≠ n).tail
  | [], h => by simp at h
  | (k, v) :: networks, h => by
    rw [Dict.lookup_cons] at h
    unfold Dict.set
    by_cases hk : k = n
    · simp [hk]
    · rw [if_neg hk] at h
      rw [if_neg hk, set_of_lookup u h]
      simp [hk]

section Changed

variable {t : Obj} {n : String} {net : Json} (flag : Flag) (b : Bool)

theorem lookup_setFlag {k : String} (hk : k ≠ "networks") :
    Dict.lookup k (setFlag t n flag b) = Dict.lookup k t :=
  Dict.lookup_set_of_ne hk _ _

theorem firewallOf_setFlag : firewallOf (setFlag t n flag b) = firewallOf t := by
  unfold firewallOf
  rw [lookup_setFlag flag b (by decide)]

theorem networks_setFlag (hn : Dict.lookup n (Netd.sectionOf t "networks") = some net) : Netd.sectionOf (setFlag t n flag b) "networks" =
    networksBefore t n ++ (n, net.put flag.key (.bool b)) :: networksAfter t n := by
  unfold setFlag
  simp only
  rw [hn]
  unfold Netd.sectionOf
  rw [Dict.lookup_set_self]
  exact set_of_lookup _ hn

theorem networks_split (hn : Dict.lookup n (Netd.sectionOf t "networks") = some net) : Netd.sectionOf t "networks" =
    networksBefore t n ++ (n, net) :: networksAfter t n :=
  split_of_lookup hn

/-- Fields other than the flag. -/
theorem getD_put {o : Obj} {k : String} (hk : k ≠ flag.key) (d : Json) :
    ((Json.obj o).put flag.key (.bool b)).getD k d = (Json.obj o).getD k d := by
  show (Dict.lookup k (Dict.set flag.key (.bool b) o)).getD d = (Dict.lookup k o).getD d
  rw [Dict.lookup_set_of_ne hk]

theorem getD_put_self (o : Obj) (d : Json) :
    ((Json.obj o).put flag.key (.bool b)).getD flag.key d = .bool b := by
  show (Dict.lookup flag.key (Dict.set flag.key (.bool b) o)).getD d = .bool b
  rw [Dict.lookup_set_self]
  rfl

/-- No interface changes its zone. -/
theorem zoneInterfaces_setFlag (hn : Dict.lookup n (Netd.sectionOf t "networks") = some net) {o : Obj}
    (hnet : net = .obj o) (wanIfaces : Dict String String) (links : Netd.Links) : Netd.zoneInterfaces (setFlag t n flag b) wanIfaces links =
      Netd.zoneInterfaces t wanIfaces links := by
  have hzone : (net.put flag.key (.bool b)).getD "zone" (.str "lan") = net.getD "zone" (.str "lan") := by
    rw [hnet, getD_put flag b (by cases flag <;> decide)]
  have hvlan : (net.put flag.key (.bool b)).getD "vlan" .null = net.getD "vlan" .null := by
    rw [hnet, getD_put flag b (by cases flag <;> decide)]
  unfold Netd.zoneInterfaces Netd.placements
  rw [networks_setFlag flag b hn, networks_split hn]
  simp only [List.map_append, List.map_cons, Netd.networkInterface, hzone, hvlan]

/-! ### The verdicts -/

/-- What the networks and the defaults say, around one flag. -/
theorem networksVerdict_around (cfg : Obj) (zones : ZoneMap) (p : Packet) (n : String) (net : Json)
    (flag : Flag) :
    (networksVerdict zones p (networksBefore cfg n ++ (n, net) :: networksAfter cfg n)).getD
        (defaultVerdict cfg zones p) =
      ((earlierVerdict cfg zones p n net flag).or (flagVerdict zones p net flag)).getD
        (laterVerdict cfg zones p n net flag) := by
  have hsplit : networksVerdict zones p (networksBefore cfg n ++ (n, net) :: networksAfter cfg n) =
      (networksVerdict zones p (networksBefore cfg n)).or
        (((flagVerdict zones p net .isolation).or (flagVerdict zones p net .internetAccess)).or
          (networksVerdict zones p (networksAfter cfg n))) := by
    unfold networksVerdict
    rw [List.findSome?_append, List.findSome?_cons]
    cases (flagVerdict zones p net .isolation).or (flagVerdict zones p net .internetAccess) with
    | none => rfl
    | some u => rfl
  rw [hsplit]
  unfold earlierVerdict laterVerdict
  cases networksVerdict zones p (networksBefore cfg n) with
  | some u => rfl
  | none =>
    cases flag with
    | isolation =>
      cases flagVerdict zones p net .isolation with
      | some u => rfl
      | none => rfl
    | internetAccess =>
      cases flagVerdict zones p net .isolation with
      | some u => rfl
      | none =>
        cases flagVerdict zones p net .internetAccess with
        | some u => rfl
        | none => rfl

theorem concerns_put (zones : ZoneMap) (p : Packet) (other : Flag) (o : Obj) :
    Concerns zones p other ((Json.obj o).put flag.key (.bool b)) ↔ Concerns zones p other (.obj o) := by
  have hzone := getD_put flag b (o := o) (k := "zone") (by cases flag <;> decide) (.str "lan")
  cases other with
  | isolation =>
    unfold Concerns Flag.toward netZone
    rw [hzone]
  | internetAccess =>
    unfold Concerns Flag.toward netZone
    rw [hzone]

theorem denies_put {other : Flag} (hne : other ≠ flag) (o : Obj) :
    other.denies ((Json.obj o).put flag.key (.bool b)) = other.denies (.obj o) := by
  have hkey : other.key ≠ flag.key := by
    cases other <;> cases flag <;> simp_all [Flag.key]
  cases other with
  | isolation => exact congrArg Json.truthy (getD_put flag b hkey .null)
  | internetAccess => exact congrArg (fun x : Json => !x.truthy) (getD_put flag b hkey (.bool true))

/-- The other flag of the network says what it said. -/
theorem flagVerdict_put {other : Flag} (hne : other ≠ flag) (zones : ZoneMap) (p : Packet) (o : Obj) :
    flagVerdict zones p ((Json.obj o).put flag.key (.bool b)) other = flagVerdict zones p (.obj o) other := by
  unfold flagVerdict
  rw [denies_put flag b hne]
  exact if_congr (and_congr_right fun _ => concerns_put flag b zones p other o) rfl rfl

theorem earlierVerdict_put (cfg : Obj) (zones : ZoneMap) (p : Packet) (n : String) (o : Obj) :
    earlierVerdict cfg zones p n ((Json.obj o).put flag.key (.bool b)) flag =
      earlierVerdict cfg zones p n (.obj o) flag := by
  unfold earlierVerdict
  split
  · next hflag => rw [flagVerdict_put flag b (by simp [hflag]) zones p o]
  · rfl

theorem laterVerdict_put (cfg : Obj) (zones : ZoneMap) (p : Packet) (n : String) (o : Obj) :
    laterVerdict cfg zones p n ((Json.obj o).put flag.key (.bool b)) flag =
      laterVerdict cfg zones p n (.obj o) flag := by
  unfold laterVerdict
  split
  · next hflag => rw [flagVerdict_put flag b (by simp [hflag]) zones p o]
  · rfl

/-- What a value of the flag says. -/
def Flag.deniedBy (b : Bool) : Flag → Bool
  | isolation => b
  | internetAccess => !b

theorem denies_of_getD {net : Json} {flag : Flag} {b : Bool} (h : ∀ d, net.getD flag.key d = .bool b) :
    flag.denies net = flag.deniedBy b := by
  cases flag with
  | isolation =>
    unfold Flag.denies isolated
    rw [show net.getD "isolation" .null = .bool b from h _]
    rfl
  | internetAccess =>
    unfold Flag.denies offline
    rw [show net.getD "internet_access" (.bool true) = .bool b from h _]
    rfl

theorem deniedBy_inj {flag : Flag} {b c : Bool} : flag.deniedBy b = flag.deniedBy c ↔ b = c := by
  cases flag with
  | isolation => rfl
  | internetAccess =>
    show (!b) = (!c) ↔ b = c
    simp

end Changed

/-! ### Documents with the same firewall -/

section Same

variable {cfg cfg' : Obj} (hfw : firewallOf cfg' = firewallOf cfg)
include hfw

theorem forwardChain_of_firewall {lines : List Line} (h : forwardChain cfg zones = .ok lines) :
    ∃ lines', forwardChain cfg' zones = .ok lines' := by
  obtain ⟨user, huser, -⟩ := except_bind_eq_ok.mp h
  refine ⟨_, except_bind_eq_ok.mpr ⟨user, ?_, rfl⟩⟩
  unfold groupsOf schedulesOf
  rw [hfw]
  exact huser

theorem rulesVerdict_of_firewall : rulesVerdict cfg' zones p = rulesVerdict cfg zones p := by
  have hrules : rulesInForce cfg' = rulesInForce cfg := by
    unfold rulesInForce rulesOf
    rw [hfw]
  have hmatches : ruleMatches cfg' zones p = ruleMatches cfg zones p := by
    unfold ruleMatches groupsOf schedulesOf
    rw [hfw]
  unfold rulesVerdict
  rw [hrules, hmatches]

theorem defaultVerdict_of_firewall : defaultVerdict cfg' zones p = defaultVerdict cfg zones p := by
  have hpolicies : policiesOf cfg' = policiesOf cfg := by
    unfold policiesOf
    rw [hfw]
  have htunnel : ∀ iface, IsTunnel cfg' iface ↔ IsTunnel cfg iface := by
    intro iface
    unfold IsTunnel
    rw [hfw]
  unfold defaultVerdict policyVerdict tunnelVerdict internetVerdict
  simp only [hpolicies, htunnel]

end Same

/-! ### Who notices -/

theorem isBool_of_network {o : Obj} (h : Holds networkFacts o) (flag : Flag) :
    ∃ c, ∀ d, (Json.obj o).getD flag.key d = .bool c := by
  have hbool : IsBool (Dict.lookup flag.key o) := by
    cases flag with
    | isolation => exact h.get (by simp [networkFacts, Flag.key])
    | internetAccess => exact h.get (by simp [networkFacts, Flag.key])
  obtain ⟨c, hc⟩ := hbool
  refine ⟨c, fun d => ?_⟩
  show (Dict.lookup flag.key o).getD d = .bool c
  rw [hc]
  rfl

theorem network_of_lookup {t : Obj} (ht : Accepted t) {n : String} {net : Json}
    (hn : Dict.lookup n (Netd.sectionOf t "networks") = some net) :
    ∃ o, net = .obj o ∧ Holds networkFacts o := by
  obtain ⟨networks, hnet, hall⟩ := ht.networks
  have hsection : Netd.sectionOf t "networks" = networks := by
    unfold Netd.sectionOf
    rw [hnet]
    rfl
  rw [hsection] at hn
  exact (hall _ (Dict.mem_of_lookup hn)).2

/-- Two values of the flag, before the same rest. -/
theorem flagVerdict_eq_iff {net net' : Json} {flag : Flag} {b c : Bool} (later : Verdict)
    (hnet : flag.denies net = flag.deniedBy c) (hnet' : flag.denies net' = flag.deniedBy b)
    (hconcerns : Concerns zones p flag net' ↔ Concerns zones p flag net) :
    (flagVerdict zones p net' flag).getD later = (flagVerdict zones p net flag).getD later ↔
      c = b ∨ ¬ Concerns zones p flag net ∨ later = flag.verdict := by
  have hbits : flag.denies net = flag.denies net' ↔ c = b := by
    rw [hnet, hnet']
    exact deniedBy_inj
  rw [← hbits]
  unfold flagVerdict
  by_cases hc : Concerns zones p flag net
  · have hc' : Concerns zones p flag net' := hconcerns.mpr hc
    cases hd : flag.denies net with
    | false => cases hd' : flag.denies net' <;> simp [hc, hc', eq_comm]
    | true => cases hd' : flag.denies net' <;> simp [hc, hc']
  · have hc' : ¬ Concerns zones p flag net' := mt hconcerns.mp hc
    simp [hc, hc']

/-- **One flag, one network?** Setting a flag of a network changes nothing for the packets of other
interfaces exactly where they are spared: the flag is about the zone of the network. -/
theorem flags_per_network {caps : Capabilities} {cfg t : Obj} {w : List String}
    (h : validate caps cfg = .ok (t, w)) {n : String} {net : Json}
    (hn : Dict.lookup n (Netd.sectionOf t "networks") = some net) (flag : Flag) (b : Bool)
    (wanIfaces : Dict String String) (links : Netd.Links) {lines : List Line}
    (hl : forwardChain t (Netd.zoneInterfaces t wanIfaces links) = .ok lines) (p : Packet) :
    ∃ lines', forwardChain (setFlag t n flag b)
        (Netd.zoneInterfaces (setFlag t n flag b) wanIfaces links) = .ok lines' ∧
      ((p.iif ≠ Netd.networkInterface net →
          verdict (Netd.zoneInterfaces (setFlag t n flag b) wanIfaces links) lines' p =
            verdict (Netd.zoneInterfaces t wanIfaces links) lines p) ↔
        p.iif = Netd.networkInterface net ∨
          Spared t (Netd.zoneInterfaces t wanIfaces links) p n net flag b) := by
  obtain ⟨o, rfl, hfacts⟩ := network_of_lookup (accepted_of_validate h) hn
  obtain ⟨c, hc⟩ := isBool_of_network hfacts flag
  rw [zoneInterfaces_setFlag flag b hn rfl]
  have hfw : firewallOf (setFlag t n flag b) = firewallOf t := firewallOf_setFlag flag b
  obtain ⟨lines', hl'⟩ := forwardChain_of_firewall hfw hl
  refine ⟨lines', hl', ?_⟩
  have hsame : verdict (Netd.zoneInterfaces t wanIfaces links) lines' p =
      verdict (Netd.zoneInterfaces t wanIfaces links) lines p ↔
        Spared t (Netd.zoneInterfaces t wanIfaces links) p n (.obj o) flag b := by
    generalize Netd.zoneInterfaces t wanIfaces links = zones at hl hl' ⊢
    by_cases hp : Fresh zones p
    · rw [verdict_fresh hl' hp, verdict_fresh hl hp, rulesVerdict_of_firewall hfw,
        defaultVerdict_of_firewall hfw, networks_setFlag flag b hn, networks_split hn,
        networksVerdict_around t zones p n _ flag, networksVerdict_around t zones p n _ flag,
        earlierVerdict_put, laterVerdict_put]
      unfold Spared
      rw [hc .null]
      cases hr : rulesVerdict t zones p with
      | some v =>
        have hsome : ∃ r ∈ rulesInForce t, ruleMatches t zones p r = true := by
          by_contra hnone
          push Not at hnone
          rw [rulesVerdict_eq_none.mpr fun r hmem => by simpa using hnone r hmem] at hr
          cases hr
        exact iff_of_true rfl (.inr (.inr (.inl hsome)))
      | none =>
        have hnone : ¬ ∃ r ∈ rulesInForce t, ruleMatches t zones p r = true := by
          rintro ⟨r, hmem, hmatch⟩
          rw [rulesVerdict_eq_none.mp hr r hmem] at hmatch
          exact absurd hmatch (by decide)
        cases he : earlierVerdict t zones p n (.obj o) flag with
        | some v => exact iff_of_true rfl (.inr (.inr (.inr (.inr (.inl rfl)))))
        | none =>
          have hflag := flagVerdict_eq_iff (laterVerdict t zones p n (.obj o) flag)
            (denies_of_getD hc) (denies_of_getD (getD_put_self flag b o))
            (concerns_put flag b zones p flag o)
          simpa [hp, hnone] using hflag
    · rw [verdict_not_fresh hl' hp, verdict_not_fresh hl hp]
      exact iff_of_true rfl (.inr (.inl hp))
  rw [hsame]
  tauto

/-! ### Two networks of the LAN -/

/-- A second network in the zone of the first. -/
def secondNetwork : Obj :=
  Dict.set "dhcp" (.obj [("enabled", .bool false)])
    (Dict.set "subnet" (.str "192.168.20.1/24") (Dict.set "vlan" (.int 20) defaultNetwork))

def twoNetworks : Obj :=
  Dict.set "networks" (.obj [("default", .obj defaultNetwork), ("second", .obj secondNetwork)]) defaultEntries

def lanZones : ZoneMap := Netd.zoneInterfaces twoNetworks [("wan1", "eth3")] noLinks

theorem validate_twoNetworks : validate Capabilities.empty twoNetworks = .ok (twoNetworks, []) := by
  decide +kernel

/-- Isolating the second network leaves the first one's way to the internet as it is. -/
theorem flags_per_network_outbound : ∃ lines', forwardChain (setFlag twoNetworks "second" .isolation true)
      (Netd.zoneInterfaces (setFlag twoNetworks "second" .isolation true) [("wan1", "eth3")] noLinks) =
        .ok lines' ∧
    verdict (Netd.zoneInterfaces (setFlag twoNetworks "second" .isolation true) [("wan1", "eth3")] noLinks)
      lines' (outbound .ip) = verdict lanZones (chainOf twoNetworks lanZones) (outbound .ip) := by
  have hsecond : Dict.lookup "second" (Netd.sectionOf twoNetworks "networks") =
      some (.obj secondNetwork) := by decide
  have hchain : forwardChain twoNetworks lanZones = .ok (chainOf twoNetworks lanZones) := by decide
  obtain ⟨lines', hl', hiff⟩ := flags_per_network validate_twoNetworks hsecond .isolation true
    [("wan1", "eth3")] noLinks hchain (outbound .ip)
  -- the packet leaves the zone
  have hleaves : ¬ Concerns lanZones (outbound .ip) .isolation (.obj secondNetwork) := by decide
  exact ⟨lines', hl', hiff.mpr (.inr (.inr (.inr (.inr (.inl hleaves))))) (by decide)⟩

/-- Taking the internet from the second network takes it from the first one too. -/
theorem offline_spreads :
    validate Capabilities.empty twoNetworks = .ok (twoNetworks, []) ∧
      Dict.lookup "second" (Netd.sectionOf twoNetworks "networks") = some (.obj secondNetwork) ∧
      (outbound .ip).iif = Netd.networkInterface (.obj defaultNetwork) ∧
      (outbound .ip).iif ≠ Netd.networkInterface (.obj secondNetwork) ∧
      Netd.zoneInterfaces (setFlag twoNetworks "second" .internetAccess false) [("wan1", "eth3")] noLinks =
        lanZones ∧
      forwardChain twoNetworks lanZones = .ok (chainOf twoNetworks lanZones) ∧
      verdict lanZones (chainOf twoNetworks lanZones) (outbound .ip) = .accept ∧
      verdict lanZones (chainOf (setFlag twoNetworks "second" .internetAccess false) lanZones)
        (outbound .ip) = .reject := by
  refine ⟨validate_twoNetworks, by decide +kernel, by decide +kernel, by decide +kernel, by decide +kernel,
    by decide +kernel, by decide +kernel, by decide +kernel⟩

end Sbegw.Nft
