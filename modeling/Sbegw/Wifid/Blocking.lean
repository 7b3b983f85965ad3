import Sbegw.Clientd
import Sbegw.Lib.Run

/-!
# Blocking clients

The `blocked` flag of a client is in the database; what keeps the client out are the deny lists of
the BSSes, which hostapd holds and which are empty whenever it starts.  Every command to a control
socket that is there succeeds.
-/

namespace Sbegw.Wifid

open Machine Text Clientd

/-! ### Plans and hostapd -/

/-- A BSS of the plan, as far as its control socket goes. -/
structure Bss where
  /-- its key in `plan["bsses"]` -/
  iface : String
  /-- `_netdev`: the links of an MLD share one -/
  netdev : String
  /-- it is a link of an MLD -/
  mld : Bool
deriving DecidableEq

/-- A plan: BSSes under names of the planner's form, and whatever else its files say. -/
structure Plan where
  bsses : List Bss
  rest : String
  plain : ∀ b ∈ bsses, '_' ∉ b.iface.toList

/-- What the configuration files say. -/
def Plan.files (p : Plan) : List Bss × String := (p.bsses, p.rest)

def Plan.ifaces (p : Plan) : List String := p.bsses.map Bss.iface

/-- `{"links": {}, "mlds": {}, "bsses": {}}` -/
def Plan.none : Plan := ⟨[], "", fun _ h => absurd h List.not_mem_nil⟩

/-- A BSS that hostapd runs. -/
structure Running where
  bss : Bss
  socket : String
  deny : List String
deriving DecidableEq

/-- hostapd names the control socket of an MLD link after the netdev and the next free link id. -/
def socketName (b : Bss) (linkId : ℕ) : String :=
  if b.mld then b.netdev ++ "_link" ++ ofNat linkId else b.iface

/-- hostapd starts: `seen` are the netdevs of the MLD links started before. -/
def startFrom (seen : List String) : List Bss → List Running
  | [] => []
  | b :: rest =>
    ⟨b, socketName b (seen.count b.netdev), []⟩ ::
      startFrom (if b.mld then b.netdev :: seen else seen) rest

/-- `DENY_ACL ADD_MAC` -/
def Running.add (mac : String) (r : Running) : Running :=
  if mac ∈ r.deny then r else { r with deny := r.deny ++ [mac] }

/-- `DENY_ACL DEL_MAC` -/
def Running.remove (mac : String) (r : Running) : Running := { r with deny := r.deny.filter (· ≠ mac) }

/-- A command to a control socket, if it is there. -/
def request (socket : String) (f : Running → Running) (rs : List Running) : Bool × List Running :=
  (rs.any fun r => r.socket = socket, rs.map fun r => if r.socket = socket then f r else r)

/-- `hostapd.deny_mac` -/
def denyMac (iface mac : String) : List Running → Bool × List Running := request iface (Running.add mac)

/-- `hostapd.allow_mac` -/
def allowMac (iface mac : String) : List Running → Bool × List Running := request iface (Running.remove mac)

/-- The loop of `block_client`. -/
def blockAll (mac : String) : List String → List Running → Bool × List Running
  | [], rs => (false, rs)
  | iface :: rest, rs =>
    let (ok, rs) := denyMac iface mac rs
    let (blocked, rs) := blockAll mac rest rs
    (ok || blocked, rs)

/-- The `any` of `unblock_client`: it stops at the first command that succeeds. -/
def unblockAny (mac : String) : List String → List Running → Bool × List Running
  | [], rs => (false, rs)
  | iface :: rest, rs =>
    let (ok, rs) := allowMac iface mac rs
    if ok then (true, rs) else unblockAny mac rest rs

/-! ### The gateway -/

structure Hotspot where
  /-- the `blocked` column of the known clients -/
  blocked : Dict String Bool
  /-- `_plan` -/
  plan : Plan
  /-- what the configuration files say, once they have been written -/
  written : Option (List Bss × String)
  /-- the BSSes of hostapd, while it runs -/
  hostapd : Option (List Running)

/-- After a boot: the database is that of before. -/
def Hotspot.boot (blocked : Dict String Bool) : Hotspot := ⟨blocked, .none, .none, .none⟩

def Hotspot.isBlocked (h : Hotspot) (mac : String) : Prop := Dict.lookup mac h.blocked = some true

/-- `clients.update(mac, blocked=…)`: only a known client has a row. -/
def setBlocked (mac : String) (value : Bool) (rows : Dict String Bool) : Dict String Bool :=
  match Dict.lookup mac rows with
  | some _ => Dict.set mac value rows
  | none => rows

/-- `action == "block"` in `post_client_action` -/
def Hotspot.block (mac : String) (h : Hotspot) : Bool × Hotspot :=
  let mac := normaliseMac mac
  let h := { h with blocked := setBlocked mac true h.blocked }
  match h.hostapd with
  | some rs =>
    let (ok, rs) := blockAll mac h.plan.ifaces rs
    (ok, { h with hostapd := some rs })
  | none => (false, h)

/-- `action == "unblock"` in `post_client_action` -/
def Hotspot.unblock (mac : String) (h : Hotspot) : Bool × Hotspot :=
  let mac := normaliseMac mac
  let h := { h with blocked := setBlocked mac false h.blocked }
  match h.hostapd with
  | some rs =>
    let (ok, rs) := unblockAny mac h.plan.ifaces rs
    (ok, { h with hostapd := some rs })
  | none => (false, h)

/-- `WifiDaemon.__call__`, where hostapd starts when it is told to: a plan without links stops it, and
otherwise it is restarted when the files change or when it does not run. -/
def Hotspot.apply (plan : Plan) (h : Hotspot) : Hotspot :=
  if plan.bsses.isEmpty then { h with plan := plan, hostapd := none }
  else if h.written ≠ some plan.files ∨ h.hostapd.isNone then
    { h with plan := plan, written := some plan.files, hostapd := some (startFrom [] plan.bsses) }
  else { h with plan := plan }

/-- `recover_radio`: hostapd is stopped, and the configuration applied again. -/
def Hotspot.recover (plan : Plan) (h : Hotspot) : Hotspot := ({ h with hostapd := none }).apply plan

inductive WifiCall where
  | block (mac : String)
  | unblock (mac : String)
  | apply (plan : Plan)
  | recover (plan : Plan)
  /-- hostapd dies; the health loop applies the configuration again -/
  | dies

def wifiStep (h : Hotspot) : WifiCall → Option (Bool × Hotspot)
  | .block mac => some (h.block mac)
  | .unblock mac => some (h.unblock mac)
  | .apply plan => some (true, h.apply plan)
  | .recover plan => some (true, h.recover plan)
  | .dies => some (true, { h with hostapd := none })

/-! ### The property -/

/-- The BSSes of the plan run, and a client is on the deny list of one exactly when it is blocked. -/
def Faithful (h : Hotspot) : Prop :=
  ∀ rs, h.hostapd = some rs → rs.map Running.bss = h.plan.bsses ∧
    ∀ r ∈ rs, ∀ mac, mac ∈ r.deny ↔ h.isBlocked mac

/-- Hostapd need not be told: it does not run, or it runs no BSS. -/
def Hotspot.Idle (h : Hotspot) : Prop := h.hostapd = none ∨ h.plan.bsses = []

/-- The condition on a step.

* Blocking reaches no MLD link, and an unknown client has no row to remember it in.
* Unblocking reaches one BSS.
* A restart forgets every list. -/
def Harmless (h : Hotspot) : WifiCall → Prop
  | .block mac => h.Idle ∨ h.isBlocked (normaliseMac mac) ∨
      if (Dict.lookup (normaliseMac mac) h.blocked).isSome then ∀ b ∈ h.plan.bsses, b.mld = false
      else ∀ b ∈ h.plan.bsses, b.mld = true
  | .unblock mac => h.Idle ∨ ¬ h.isBlocked (normaliseMac mac) ∨
      ∃ b, h.plan.bsses = [b] ∧ b.mld = false
  | .apply plan => plan.bsses = [] ∨ (∀ mac, ¬ h.isBlocked mac) ∨
      h.written = some plan.files ∧ h.hostapd.isSome = true
  | .recover plan => plan.bsses = [] ∨ ∀ mac, ¬ h.isBlocked mac
  | .dies => True

/-! ### The loops -/

theorem mem_add {mac m : String} {r : Running} : m ∈ (r.add mac).deny ↔ m ∈ r.deny ∨ m = mac := by
  unfold Running.add
  split
  · next h =>
    constructor
    · exact Or.inl
    · rintro (hm | rfl)
      · exact hm
      · exact h
  · simp

theorem mem_remove {mac m : String} {r : Running} : m ∈ (r.remove mac).deny ↔ m ∈ r.deny ∧ m ≠ mac := by
  simp [Running.remove]

theorem add_frame (mac : String) (r : Running) : (r.add mac).bss = r.bss ∧ (r.add mac).socket = r.socket := by
  unfold Running.add
  split
  · exact ⟨rfl, rfl⟩
  · exact ⟨rfl, rfl⟩

theorem add_add (mac : String) (r : Running) : (r.add mac).add mac = r.add mac := by
  have hmem : mac ∈ (r.add mac).deny := mem_add.mpr (Or.inr rfl)
  show (if mac ∈ (r.add mac).deny then r.add mac else _) = _
  rw [if_pos hmem]

/-- **Blocking**: the client is added to every list whose socket has the name of a BSS. -/
theorem blockAll_lists (mac : String) (ifaces : List String) (rs : List Running) :
    (blockAll mac ifaces rs).2 = rs.map fun r => if r.socket ∈ ifaces then r.add mac else r := by
  induction ifaces generalizing rs with
  | nil => simp [blockAll]
  | cons iface rest ih =>
    show (blockAll mac rest (denyMac iface mac rs).2).2 = _
    rw [ih]
    show (rs.map _).map _ = _
    rw [List.map_map]
    refine List.map_congr_left fun r _ => ?_
    simp only [Function.comp_apply, List.mem_cons]
    by_cases h1 : r.socket = iface
    · by_cases h2 : iface ∈ rest
      · simp [h1, h2, (add_frame mac r).2, add_add]
      · simp [h1, h2, (add_frame mac r).2]
    · by_cases h2 : r.socket ∈ rest
      · simp [h1, h2]
      · simp [h1, h2]

/-- Unblocking only ever takes the client off lists. -/
theorem unblockAny_lists (mac : String) (ifaces : List String) (rs : List Running) :
    ∃ p : Running → Bool, (unblockAny mac ifaces rs).2 = rs.map fun r => if p r then r.remove mac else r := by
  induction ifaces generalizing rs with
  | nil => exact ⟨fun _ => false, by simp [unblockAny]⟩
  | cons iface rest ih =>
    by_cases hok : (allowMac iface mac rs).1 = true
    · refine ⟨fun r => r.socket = iface, ?_⟩
      simp only [unblockAny, hok, if_true]
      simp [allowMac, request]
    · obtain ⟨p, hp⟩ := ih rs
      have hsame : (allowMac iface mac rs).2 = rs := by
        simp only [allowMac, request, List.any_eq_true, decide_eq_true_eq, not_exists, not_and] at hok ⊢
        have hall : ∀ r ∈ rs, (if r.socket = iface then r.remove mac else r) = r :=
          fun r hr => if_neg (hok r hr)
        rw [List.map_congr_left hall, List.map_id']
      refine ⟨p, ?_⟩
      simp only [unblockAny, hok, hsame]
      exact hp

/-! ### What is kept along -/

/-- The sockets have the names hostapd gives them, and what runs is what the files say. -/
structure Named (h : Hotspot) : Prop where
  links : ∀ rs, h.hostapd = some rs → ∀ r ∈ rs,
    (r.bss.mld = false → r.socket = r.bss.iface) ∧ (r.bss.mld = true → '_' ∈ r.socket.toList)
  files : h.hostapd.isSome = true → h.written = some h.plan.files

theorem startFrom_spec : ∀ (bsses : List Bss) (seen : List String),
    (startFrom seen bsses).map Running.bss = bsses ∧
      ∀ r ∈ startFrom seen bsses, r.deny = [] ∧
        (r.bss.mld = false → r.socket = r.bss.iface) ∧ (r.bss.mld = true → '_' ∈ r.socket.toList)
  | [], seen => ⟨rfl, fun _ h => absurd h List.not_mem_nil⟩
  | b :: rest, seen => by
    obtain ⟨hmap, hall⟩ := startFrom_spec rest (if b.mld then b.netdev :: seen else seen)
    refine ⟨?_, fun r hr => ?_⟩
    · rw [startFrom, List.map_cons, hmap]
    · rw [startFrom, List.mem_cons] at hr
      rcases hr with rfl | hr
      · refine ⟨rfl, fun hm => ?_, fun hm => ?_⟩
        · simp only at hm
          simp [socketName, hm]
        · simp only at hm
          simp [socketName, hm]
      · exact hall r hr

/-- Lists that change only in what they deny. -/
theorem Named.relist {h : Hotspot} (hn : Named h) {rs : List Running} (hrs : h.hostapd = some rs)
    {f : Running → Running} (hf : ∀ r, (f r).bss = r.bss ∧ (f r).socket = r.socket)
    (blocked : Dict String Bool) : Named { h with blocked := blocked, hostapd := some (rs.map f) } := by
  refine ⟨fun rs' hrs' r' hr' => ?_, fun _ => hn.files (by rw [hrs]; rfl)⟩
  rw [Option.some.injEq] at hrs'
  subst hrs'
  obtain ⟨r, hr, rfl⟩ := List.mem_map.mp hr'
  rw [(hf r).1, (hf r).2]
  exact hn.links rs hrs r hr

theorem Named.flags {h : Hotspot} (hn : Named h) (blocked : Dict String Bool) :
    Named { h with blocked := blocked } := ⟨hn.links, hn.files⟩

/-- A start, from whatever there was. -/
theorem Named.start (h : Hotspot) (plan : Plan) : Named { h with
    plan := plan, written := some plan.files, hostapd := some (startFrom [] plan.bsses) } := by
  refine ⟨fun rs hrs r hr => ?_, fun _ => rfl⟩
  rw [Option.some.injEq] at hrs
  subst hrs
  exact ((startFrom_spec plan.bsses []).2 r hr).2

theorem lookup_setBlocked (mac m : String) (value : Bool) (rows : Dict String Bool) :
    Dict.lookup m (setBlocked mac value rows) =
      if m = mac ∧ (Dict.lookup mac rows).isSome then some value else Dict.lookup m rows := by
  unfold setBlocked
  cases hrow : Dict.lookup mac rows with
  | none => simp
  | some b =>
    rw [Dict.lookup_set]
    by_cases hm : m = mac
    · simp [hm]
    · simp [hm]

theorem isBlocked_block {h : Hotspot} {mac m : String} :
    Dict.lookup m (setBlocked mac true h.blocked) = some true ↔
      h.isBlocked m ∨ m = mac ∧ (Dict.lookup mac h.blocked).isSome := by
  rw [lookup_setBlocked]
  unfold Hotspot.isBlocked
  by_cases hm : m = mac ∧ (Dict.lookup mac h.blocked).isSome
  · simp [hm]
  · rw [if_neg hm]
    simp [hm]

theorem isBlocked_unblock {h : Hotspot} {mac m : String} :
    Dict.lookup m (setBlocked mac false h.blocked) = some true ↔ h.isBlocked m ∧ m ≠ mac := by
  rw [lookup_setBlocked]
  unfold Hotspot.isBlocked
  by_cases hm : m = mac
  · subst hm
    cases hrow : Dict.lookup m h.blocked with
    | none => simp
    | some b => simp
  · simp [hm]

/-! ### One step -/

/-- The invariant of a run. -/
def Kept (h : Hotspot) : Prop := Faithful h ∧ Named h

/-- Nothing is promised while hostapd does not run. -/
theorem Kept.stopped {h : Hotspot} (hstop : h.hostapd = none) : Kept h := by
  refine ⟨fun rs hrs => ?_, fun rs hrs => ?_, fun hsome => ?_⟩
  · rw [hstop] at hrs
    exact absurd hrs (by simp)
  · rw [hstop] at hrs
    exact absurd hrs (by simp)
  · rw [hstop] at hsome
    exact absurd hsome (by simp)

/-- The lists follow a change of the flags. -/
theorem Kept.relist {h : Hotspot} (hk : Kept h) {rs : List Running} (hrs : h.hostapd = some rs)
    (f : Running → Running) (hf : ∀ r, (f r).bss = r.bss ∧ (f r).socket = r.socket)
    (blocked : Dict String Bool) (hdeny : ∀ r ∈ rs, ∀ mac,
      mac ∈ (f r).deny ↔ Dict.lookup mac blocked = some true) :
    Kept { h with blocked := blocked, hostapd := some (rs.map f) } := by
  refine ⟨fun rs' hrs' => ?_, hk.2.relist hrs hf blocked⟩
  rw [Option.some.injEq] at hrs'
  subst hrs'
  constructor
  · rw [List.map_map, ← (hk.1 rs hrs).1]
    exact List.map_congr_left fun r _ => (hf r).1
  · intro r' hr' mac
    obtain ⟨r, hr, rfl⟩ := List.mem_map.mp hr'
    exact hdeny r hr mac

/-- A plan without BSSes has no lists. -/
theorem Kept.unlisted {h : Hotspot} (hk : Kept h) (hempty : h.plan.bsses = []) {rs : List Running}
    (hrs : h.hostapd = some rs) : rs = [] := by
  have hmap := (hk.1 rs hrs).1
  rw [hempty] at hmap
  exact List.map_eq_nil_iff.mp hmap

theorem mem_plan {h : Hotspot} (hk : Kept h) {rs : List Running} (hrs : h.hostapd = some rs) {r : Running}
    (hr : r ∈ rs) : r.bss ∈ h.plan.bsses := by
  rw [← (hk.1 rs hrs).1]
  exact List.mem_map_of_mem hr

theorem kept_block {h : Hotspot} (hk : Kept h) {mac : String} (hok : Harmless h (.block mac)) :
    Kept (h.block mac).2 := by
  unfold Hotspot.block
  cases hrs : h.hostapd with
  | none =>
    refine Kept.stopped ?_
    simp
  | some rs =>
    simp only
    rw [blockAll_lists]
    have hf : ∀ r : Running, (if r.socket ∈ h.plan.ifaces then r.add (normaliseMac mac) else r).bss = r.bss ∧
        (if r.socket ∈ h.plan.ifaces then r.add (normaliseMac mac) else r).socket = r.socket := by
      intro r
      split
      · exact add_frame _ r
      · exact ⟨rfl, rfl⟩
    refine hk.relist hrs _ hf _ fun r hr m => ?_
    have hlist := (hk.1 rs hrs).2 r hr m
    rw [isBlocked_block]
    rcases hok with hidle | hblocked | hreach
    · rcases hidle with hnone | hempty
      · exact absurd hnone (by simp [hrs])
      · rw [hk.unlisted hempty hrs] at hr
        exact absurd hr List.not_mem_nil
    · have hsame : m = normaliseMac mac → h.isBlocked m := fun hm => hm ▸ hblocked
      split
      · rw [mem_add, hlist]
        constructor
        · rintro (hm | hm)
          · exact Or.inl hm
          · exact Or.inl (hsame hm)
        · rintro (hm | ⟨hm, -⟩)
          · exact Or.inl hm
          · exact Or.inr hm
      · rw [hlist]
        constructor
        · exact Or.inl
        · rintro (hm | ⟨hm, -⟩)
          · exact hm
          · exact hsame hm
    · by_cases hrow : (Dict.lookup (normaliseMac mac) h.blocked).isSome
      · -- a known client: every BSS has a socket under its own name
        rw [if_pos hrow] at hreach
        have hbss := mem_plan hk hrs hr
        have hsock : r.socket = r.bss.iface := (hk.2.links rs hrs r hr).1 (hreach _ hbss)
        have hmem : r.socket ∈ h.plan.ifaces := by
          rw [hsock]
          exact List.mem_map_of_mem hbss
        rw [if_pos hmem, mem_add, hlist]
        simp [hrow]
      · -- an unknown client: no socket is reached
        rw [if_neg hrow] at hreach
        have hscore := (hk.2.links rs hrs r hr).2 (hreach _ (mem_plan hk hrs hr))
        have hmem : r.socket ∉ h.plan.ifaces := by
          intro hin
          obtain ⟨b, hb, heq⟩ := List.mem_map.mp hin
          rw [← heq] at hscore
          exact h.plan.plain b hb hscore
        rw [if_neg hmem, hlist]
        simp [hrow]

theorem kept_unblock {h : Hotspot} (hk : Kept h) {mac : String} (hok : Harmless h (.unblock mac)) :
    Kept (h.unblock mac).2 := by
  unfold Hotspot.unblock
  cases hrs : h.hostapd with
  | none =>
    refine Kept.stopped ?_
    simp
  | some rs =>
    simp only
    rcases hok with hidle | hclear | ⟨b, hplan, hmld⟩
    · rcases hidle with hnone | hempty
      · exact absurd hnone (by simp [hrs])
      · have hnil := hk.unlisted hempty hrs
        subst hnil
        have hstill := hk.relist hrs id (fun r => ⟨rfl, rfl⟩) (setBlocked (normaliseMac mac) false h.blocked)
          fun r hr => absurd hr List.not_mem_nil
        obtain ⟨p, hp⟩ := unblockAny_lists (normaliseMac mac) h.plan.ifaces []
        rw [hp]
        exact hstill
    · obtain ⟨p, hp⟩ := unblockAny_lists (normaliseMac mac) h.plan.ifaces rs
      rw [hp]
      refine hk.relist hrs _ (fun r => ?_) _ fun r hr m => ?_
      · split
        · exact ⟨rfl, rfl⟩
        · exact ⟨rfl, rfl⟩
      · have hlist := (hk.1 rs hrs).2 r hr m
        have hne : h.isBlocked m → m ≠ normaliseMac mac := fun hm heq => hclear (heq ▸ hm)
        rw [isBlocked_unblock]
        split
        · rw [mem_remove, hlist]
        · rw [hlist]
          exact ⟨fun hm => ⟨hm, hne hm⟩, fun hm => hm.1⟩
    · -- one BSS: the first command is the only one
      have hmap := (hk.1 rs hrs).1
      rw [hplan] at hmap
      obtain ⟨r, rfl, rfl⟩ := List.map_eq_singleton_iff.mp hmap
      have hsock : r.socket = r.bss.iface := (hk.2.links _ hrs r List.mem_cons_self).1 hmld
      have hifaces : h.plan.ifaces = [r.bss.iface] := by
        unfold Plan.ifaces
        rw [hplan]
        rfl
      have hlists : (unblockAny (normaliseMac mac) h.plan.ifaces [r]).2 =
          [r].map (Running.remove (normaliseMac mac)) := by
        rw [hifaces]
        simp [unblockAny, allowMac, request, hsock]
      rw [hlists]
      refine hk.relist hrs (Running.remove (normaliseMac mac)) (fun r => ⟨rfl, rfl⟩) _ fun r' hr' m => ?_
      rw [mem_remove, (hk.1 _ hrs).2 r' hr' m, isBlocked_unblock]

/-- A start while nobody is blocked. -/
theorem Kept.start {h : Hotspot} (hnone : ∀ mac, ¬ h.isBlocked mac) (plan : Plan) : Kept { h with
    plan := plan, written := some plan.files, hostapd := some (startFrom [] plan.bsses) } := by
  refine ⟨fun rs hrs => ?_, Named.start h plan⟩
  rw [Option.some.injEq] at hrs
  subst hrs
  obtain ⟨hmap, hall⟩ := startFrom_spec plan.bsses []
  refine ⟨hmap, fun r hr mac => ?_⟩
  rw [(hall r hr).1]
  constructor
  · intro hin
    exact absurd hin List.not_mem_nil
  · intro hb
    exact absurd hb (hnone mac)

theorem kept_apply {h : Hotspot} (hk : Kept h) {plan : Plan} (hok : Harmless h (.apply plan)) :
    Kept (h.apply plan) := by
  unfold Hotspot.apply
  split
  · exact Kept.stopped rfl
  · next hne =>
    split
    · next hstart =>
      rcases hok with hempty | hnone | ⟨hfiles, hrun⟩
      · rw [hempty] at hne
        exact absurd rfl hne
      · exact Kept.start hnone plan
      · rcases hstart with hnew | hdown
        · exact absurd hfiles hnew
        · rw [Option.isNone_iff_eq_none] at hdown
          rw [hdown] at hrun
          exact absurd hrun (by simp)
    · next hsame =>
      -- neither the files nor the daemon change
      rw [not_or, not_not, Bool.not_eq_true, Option.isNone_eq_false_iff] at hsame
      obtain ⟨hfiles, hrun⟩ := hsame
      have hplan : plan.bsses = h.plan.bsses := by
        have hold := hk.2.files hrun
        rw [hfiles, Option.some.injEq] at hold
        exact congrArg Prod.fst hold
      refine ⟨fun rs hrs => ?_, hk.2.links, fun _ => hfiles⟩
      obtain ⟨hmap, hlists⟩ := hk.1 rs hrs
      exact ⟨hmap.trans hplan.symm, hlists⟩

theorem kept_recover {h : Hotspot} {plan : Plan} (hok : Harmless h (.recover plan)) :
    Kept (h.recover plan) := by
  have hstopped : Kept { h with hostapd := none } := Kept.stopped rfl
  refine kept_apply hstopped ?_
  rcases hok with hempty | hnone
  · exact Or.inl hempty
  · exact Or.inr (Or.inl hnone)

/-- **A harmless step keeps the lists faithful.** -/
theorem kept_step {h h' : Hotspot} {call : WifiCall} {ok : Bool} (hk : Kept h) (hok : Harmless h call)
    (hs : wifiStep h call = some (ok, h')) : Kept h' := by
  cases call with
  | block mac =>
    rw [← (Prod.mk.inj (Option.some.inj hs)).2]
    exact kept_block hk hok
  | unblock mac =>
    rw [← (Prod.mk.inj (Option.some.inj hs)).2]
    exact kept_unblock hk hok
  | apply plan =>
    obtain ⟨-, rfl⟩ := Prod.mk.inj (Option.some.inj hs)
    exact kept_apply hk hok
  | recover plan =>
    obtain ⟨-, rfl⟩ := Prod.mk.inj (Option.some.inj hs)
    exact kept_recover hok
  | dies =>
    obtain ⟨-, rfl⟩ := Prod.mk.inj (Option.some.inj hs)
    exact Kept.stopped rfl

/-! ### Whole runs -/

/-- **Blocking is complete and reversible** in every run whose steps are harmless: while hostapd runs, a
client is on the deny list of every BSS of the plan if it is blocked, and on none if not. -/
theorem blocking_faithful {blocked : Dict String Bool} {l : List (Step Hotspot WifiCall Bool)} {h : Hotspot}
    (hrun : Run wifiStep (Hotspot.boot blocked) l h) (hok : ∀ x ∈ l, Harmless x.pre x.act) : Faithful h := by
  have hkept : Kept h := by
    refine hrun.history (fun _ h => Kept h) (fun _ x => Harmless x.pre x.act)
      (fun _ _ _ _ _ hk hs hP => kept_step hk hP hs) [] (Kept.stopped rfl) fun l₁ x l₂ hl => hok x ?_
    simp [hl]
  exact hkept.1

/-! ### One run of harmless steps, and one that leaves a list behind -/

def guestBss : Bss := ⟨"guest0", "guest0", false⟩

def onePlan : Plan := ⟨[⟨"lan0", "lan0", false⟩], "", by decide⟩

def twoPlan : Plan := ⟨[⟨"lan0", "lan0", false⟩, guestBss], "", by decide⟩

/-- A client is blocked, unblocked and blocked again where there is one BSS. -/
theorem blocking_faithful_one : ∃ l h, Run wifiStep (Hotspot.boot [("02:00:00:00:00:01", false)]) l h ∧
    h.hostapd = some [⟨⟨"lan0", "lan0", false⟩, "lan0", ["02:00:00:00:00:01"]⟩] ∧ Faithful h := by
  have hplay : play wifiStep (Hotspot.boot [("02:00:00:00:00:01", false)]) [.apply onePlan,
      .block "02:00:00:00:00:01", .unblock "02:00:00:00:00:01", .block "02:00:00:00:00:01"] = some _ := rfl
  have hrun := Run.of_play _ hplay
  refine ⟨_, _, hrun, by decide, blocking_faithful hrun fun x hx => ?_⟩
  simp only [List.mem_cons, List.not_mem_nil, or_false] at hx
  rcases hx with rfl | rfl | rfl | rfl
  · refine Or.inr (Or.inl fun mac hb => ?_)
    have hrow : Dict.lookup mac [("02:00:00:00:00:01", false)] = some true := hb
    simp [Dict.lookup] at hrow
  · exact Or.inr (Or.inr (by decide))
  · exact Or.inr (Or.inr ⟨_, rfl, rfl⟩)
  · exact Or.inr (Or.inr (by decide))

/-- A client is blocked and unblocked where there are two: the second keeps denying it. -/
theorem unblock_leaves_list : ∃ l h, Run wifiStep (Hotspot.boot [("02:00:00:00:00:01", false)]) l h ∧
    h.hostapd = some [⟨⟨"lan0", "lan0", false⟩, "lan0", []⟩, ⟨guestBss, "guest0", ["02:00:00:00:00:01"]⟩] ∧
      ¬ Faithful h := by
  have hplay : play wifiStep (Hotspot.boot [("02:00:00:00:00:01", false)]) [.apply twoPlan,
      .block "02:00:00:00:00:01", .unblock "02:00:00:00:00:01"] = some _ := rfl
  refine ⟨_, _, Run.of_play _ hplay, by decide, fun hf => ?_⟩
  have hlist := (hf _ rfl).2 ⟨guestBss, "guest0", ["02:00:00:00:00:01"]⟩ (by decide) "02:00:00:00:00:01"
  have hflag := hlist.mp List.mem_cons_self
  exact absurd hflag (by unfold Hotspot.isBlocked; decide)

end Sbegw.Wifid
