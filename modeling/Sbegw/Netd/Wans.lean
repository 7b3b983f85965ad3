import Sbegw.Netd
import Sbegw.Edit

/-!
# Health of the WANs

`WanManager.probe` and `select_primary`.  What a probe learns from the kernel and from the network is a
parameter, and so is the clock.
-/

namespace Sbegw.Netd

open Text Schema

/-- `state` -/
inductive WanState where
  | linkDown
  | noAddress
  | noInternet
  | degraded
  | up
deriving DecidableEq, Repr

/-- What the tools report while a probe runs. -/
structure Uplinks where
  /-- `ethtool.link_info(port)["link_detected"]` -/
  linkDetected : String → Bool
  /-- the global addresses in `rtnl.addresses(iface)` -/
  addresses : String → List String
  /-- `_default_gateway(iface)` -/
  gateway : String → Option String
  /-- `_icmp_probe(targets, iface)`: latency and loss -/
  icmp : Json → String → Except Exn (Option ℚ × Option ℚ)
  /-- `_tcp_probe(targets, iface)` -/
  tcp : Json → String → Except Exn (Option ℚ)

/-- What one probe finds out about an enabled WAN. -/
structure Reading where
  iface : String
  state : WanState
  linkUp : Bool
  internet : Bool
  addresses : List String
  gateway : Option String
  latency : Option ℚ
  loss : Option ℚ

/-- An entry of `self._health`. -/
structure Health where
  reading : Reading
  priority : ℤ
  since : ℚ

/-- The data of a WAN event. -/
structure WanEvent where
  kind : String
  wan : String
  state : WanState
  linkUp : Bool
  latency : Option ℚ
  loss : Option ℚ

/-- `WanManager`, as far as probing goes. -/
structure WanManager where
  health : Dict String Health
  /-- `_state` -/
  last : Dict String WanState
  /-- `_pending`: the candidate and the consecutive polls that saw it -/
  pending : Dict String (WanState × ℕ)

/-- `WanManager.__init__` -/
def WanManager.init : WanManager := ⟨[], [], []⟩

/-! ### One reading -/

/-- `wan.get("enabled", True)` -/
def wanEnabled (wan : Json) : Bool := (wan.getD "enabled" (.bool true)).truthy

/-- `wan.get("priority", 1)`, an integer in a validated document. -/
def wanPriority (wan : Json) : ℤ :=
  match wan.getD "priority" (.int 1) with
  | .int i => i
  | _ => 1

/-- `health.get(key, d)`; a health block that is no object has no `get`. -/
def healthGet (wan : Json) (key : String) (d : Json) : Except Exn Json :=
  match wan.getD "health" (.obj []) with
  | .obj kvs => .ok ((Dict.lookup key kvs).getD d)
  | _ => .error .attribute

/-- `value >= health.get(key, d)`; only numbers compare with a number. -/
def atLeast (wan : Json) (key : String) (d : ℤ) (value : ℚ) : Except Exn Bool := do
  let bound ← healthGet wan key (.int d)
  match bound.num? with
  | some q => .ok (decide (q ≤ value))
  | none => .error .type

/-- The measurements of a WAN whose link is up: ICMP first, and a TCP handshake where every ping was
lost. -/
def measure (up : Uplinks) (wan : Json) (iface : String) (gateway : Option String) :
    Except Exn (Option ℚ × Option ℚ) := do
  let enabled ← healthGet wan "enabled" (.bool true)
  match enabled.truthy, gateway with
  | true, some gw => do
    let targets ← healthGet wan "targets" .null
    let targets := if targets.truthy then targets else .arr [.str gw]
    let (latency, loss) ← up.icmp targets iface
    if 100 ≤ loss.getD 0 then
      let tcp ← up.tcp targets iface
      match tcp with
      | some t => .ok (some t, some 0)
      | none => .ok (latency, loss)
    else .ok (latency, loss)
  | _, _ => .ok (none, none)

/-- The state that the measurements amount to. -/
def stateOf (wan : Json) (linkUp : Bool) (addresses : List String) (internet : Bool)
    (latency loss : Option ℚ) : Except Exn WanState :=
  if !linkUp then .ok .linkDown
  else if addresses.isEmpty then .ok .noAddress
  else if !internet then .ok .noInternet
  else do
    if ← atLeast wan "loss_threshold" 40 (loss.getD 0) then .ok .degraded
    else if ← atLeast wan "latency_threshold_ms" 400 (latency.getD 0) then .ok .degraded
    else .ok .up

/-- The body of the loop up to `state`. -/
def observe (up : Uplinks) (cfg : Obj) (wan : Json) : Except Exn Reading := do
  let iface := wanInterface wan cfg
  let linkUp := up.linkDetected (pyStr (wan.getD "port" (.str iface)))
  let addresses := up.addresses iface
  let gateway := up.gateway iface
  let (latency, loss) ← if linkUp then measure up wan iface gateway else .ok (none, none)
  let internet := !addresses.isEmpty && gateway.isSome && decide (loss.getD 0 < 100)
  let state ← stateOf wan linkUp addresses internet latency loss
  .ok ⟨iface, state, linkUp, internet, addresses, gateway, latency, loss⟩

/-! ### The table -/

/-- The kind of the event for a state. -/
def eventKind : WanState → String
  | .up => "WAN_UP"
  | .degraded => "WAN_DEGRADED"
  | .linkDown => "WAN_DOWN"
  | .noAddress => "WAN_ACQUIRING"
  | .noInternet => "WAN_NO_INTERNET"

/-- The body of the loop from `previous = self._state.get(wid)` on. -/
def note (t : ℚ) (wid : String) (wan : Json) (r : Reading) (m : WanManager) :
    WanManager × List WanEvent :=
  let previous := Dict.lookup wid m.last
  let pending := (Dict.lookup wid m.pending).getD (r.state, 0)
  let count := if pending.1 = r.state then pending.2 + 1 else 1
  let settled := 2 ≤ count ∨ previous = none
  let emits := previous ≠ none ∧ previous ≠ some r.state ∧ settled
  let since := if previous = some r.state then ((Dict.lookup wid m.health).map Health.since).getD t else t
  ({ health := Dict.set wid ⟨r, wanPriority wan, since⟩ m.health
     last := Dict.set wid r.state m.last
     pending := Dict.set wid (r.state, count) m.pending },
    if emits then [⟨eventKind r.state, wid, r.state, r.linkUp, r.latency, r.loss⟩] else [])

/-- The loop of `probe`: what it answers for each WAN (nothing for a disabled one), the events, and
the table it leaves.  An exception ends it where it is raised. -/
def probeAll (up : Uplinks) (t : ℚ) (cfg : Obj) :
    Obj → WanManager → Dict String (Option Reading) × List WanEvent × WanManager
  | [], m => ([], [], m)
  | (wid, wan) :: rest, m =>
    if wanEnabled wan then
      match observe up cfg wan with
      | .error _ => ([], [], m)
      | .ok r =>
        let (m, events) := note t wid wan r m
        let (results, more, m) := probeAll up t cfg rest m
        ((wid, some r) :: results, events ++ more, m)
    else
      let (results, more, m) := probeAll up t cfg rest m
      ((wid, none) :: results, more, m)

/-- `WanManager.probe` -/
def WanManager.probe (up : Uplinks) (t : ℚ) (cfg : Obj) (m : WanManager) :
    Dict String (Option Reading) × List WanEvent × WanManager :=
  probeAll up t cfg (sectionOf cfg "wans") m

/-! ### The choice -/

/-- The candidates in one state. -/
def candidatesIn (state : WanState) (m : WanManager) : List (ℤ × String) :=
  (m.health.filter fun e => e.2.reading.state = state).map fun e => (e.2.priority, e.1)

/-- The order of `candidates.sort()`. -/
def candidateLe (a b : ℤ × String) : Prop := a.1 < b.1 ∨ a.1 = b.1 ∧ a.2 ≤ b.2

instance : DecidableRel candidateLe := fun a b => by unfold candidateLe; infer_instance

/-- `WanManager.select_primary`; the table alone decides, whatever the configuration. -/
def WanManager.selectPrimary (m : WanManager) : Option String :=
  let candidates := if (candidatesIn .up m).isEmpty then candidatesIn .degraded m else candidatesIn .up m
  (candidates.insertionSort candidateLe).head?.map Prod.snd

/-- A default route as `Gateway._health_loop` installs it. -/
structure DefaultRoute where
  via : String
  dev : String
  metric : ℕ
deriving DecidableEq

/-- The multi-WAN part of `Gateway._health_loop`. -/
def healthTick (gateway : String → Option String) (cfg : Obj) (m : WanManager) : Option DefaultRoute :=
  match m.selectPrimary with
  | none => none
  | some primary =>
    let wan := (Dict.lookup primary (sectionOf cfg "wans")).getD (.obj [])
    let iface := wanInterface wan cfg
    (gateway iface).map fun gw => ⟨gw, iface, 10⟩

end Sbegw.Netd
