import Sbegw.Netd
import Mathlib.Logic.Function.Basic
import Mathlib.Data.List.Chain

/-!
# Smart Queues

`TrafficManager.apply` on the queueing disciplines, where every command succeeds.  An apply first
cleans the WAN interfaces and the IFB devices of the configuration it is given, by position, and then
builds what that configuration asks for.
-/

namespace Sbegw.Netd

open Text Schema

/-! ### Queueing disciplines -/

/-- `IFB_PREFIX` -/
def ifbPrefix : String := "ifb-sbegw"

/-- `ROOT_HANDLE` -/
def rootHandle : String := "1:"

/-- `_ifb` -/
def ifbName (index : ℕ) : String := ifbPrefix ++ ofNat index

inductive Qdisc where
  | cake (handle : String) (options : List String)
  | other (kind handle : String)
deriving DecidableEq

/-- A filter of an ingress qdisc. -/
inductive Filter where
  /-- to the device of that name -/
  | redirect (dev : String)
  /-- to a device of that name that has been deleted -/
  | lost (dev : String)
  | other (text : String)
deriving DecidableEq

/-- What there is of traffic control. -/
structure Tc where
  root : String → Option Qdisc
  /-- the filters of the ingress qdisc, where there is one; the last one added comes first -/
  ingress : String → Option (List Filter)
  /-- the IFB devices of the gateway -/
  ifb : ℕ → Bool

namespace Tc

/-- `tc qdisc del dev … root` -/
def delRoot (dev : String) (tc : Tc) : Tc := { tc with root := Function.update tc.root dev none }

/-- `tc qdisc del dev … ingress` -/
def delIngress (dev : String) (tc : Tc) : Tc := { tc with ingress := Function.update tc.ingress dev none }

/-- A redirect to a device that goes away stays, without its device. -/
def loseDev (dev : String) : Filter → Filter
  | .redirect d => if d = dev then .lost d else .redirect d
  | f => f

/-- `ip link del dev …` of an IFB device. -/
def delIfb (i : ℕ) (tc : Tc) : Tc where
  root := Function.update tc.root (ifbName i) none
  ingress := fun dev => if dev = ifbName i then none else (tc.ingress dev).map (·.map (loseDev (ifbName i)))
  ifb := Function.update tc.ifb i false

/-- `tc qdisc replace dev … root handle 1: cake …` -/
def replaceRoot (dev : String) (options : List String) (tc : Tc) : Tc :=
  { tc with root := Function.update tc.root dev (some (.cake rootHandle options)) }

/-- `ip link add … type ifb`, unless the device is there. -/
def ensureIfb (i : ℕ) (tc : Tc) : Tc := { tc with ifb := Function.update tc.ifb i true }

/-- `tc qdisc replace dev … handle ffff: ingress`: an ingress qdisc that is there keeps its filters. -/
def replaceIngress (dev : String) (tc : Tc) : Tc :=
  { tc with ingress := Function.update tc.ingress dev (some ((tc.ingress dev).getD [])) }

/-- `tc filter replace dev … parent ffff: … redirect dev …`: without a preference of its own the filter
goes in front of the others. -/
def redirectTo (dev : String) (i : ℕ) (tc : Tc) : Tc :=
  let filters := (tc.ingress dev).map fun fs => .redirect (ifbName i) :: fs
  { tc with ingress := Function.update tc.ingress dev filters }

end Tc

/-! ### The manager -/

/-- A CAKE with the handle of the gateway. -/
def Qdisc.owned : Qdisc → Bool
  | .cake handle _ => handle == rootHandle
  | .other _ _ => false

/-- `_has_owned_cake` -/
def hasOwnedCake (tc : Tc) (dev : String) : Bool := (tc.root dev).any Qdisc.owned

/-- `_cleanup` -/
def cleanup (iface : String) (i : ℕ) (tc : Tc) : Tc :=
  let owned := tc.ifb i
  let tc := if hasOwnedCake tc iface then tc.delRoot iface else tc
  let tc := if owned && (tc.ingress iface).isSome then tc.delIngress iface else tc
  if owned then (if hasOwnedCake tc (ifbName i) then tc.delRoot (ifbName i) else tc).delIfb i else tc

/-- The first loop of `apply`, from the index `k` on. -/
def cleanupAll : ℕ → List String → Tc → Tc
  | _, [], tc => tc
  | k, iface :: rest, tc => cleanupAll (k + 1) rest (cleanup iface k tc)

def uploadOptions (up : ℤ) : List String :=
  ["bandwidth", ofInt up ++ "kbit", "diffserv4", "nat", "dual-srchost", "ack-filter"]

def downloadOptions (down : ℤ) : List String :=
  ["bandwidth", ofInt down ++ "kbit", "diffserv4", "nat", "wash", "dual-dsthost", "ingress"]

/-- One WAN of the second loop. -/
def shape (up down : ℤ) (iface : String) (i : ℕ) (tc : Tc) : Tc :=
  let tc := if up ≠ 0 then tc.replaceRoot iface (uploadOptions up) else tc
  if down ≠ 0 then
    (((tc.ensureIfb i).replaceIngress iface).redirectTo iface i).replaceRoot (ifbName i)
      (downloadOptions down)
  else tc

def shapeAll (up down : ℤ) : ℕ → List String → Tc → Tc
  | _, [], tc => tc
  | k, iface :: rest, tc => shapeAll up down (k + 1) rest (shape up down iface k tc)

/-- `wan_items` -/
def wanItems (cfg : Obj) : List (String × Json) :=
  (Dict.sorted (sectionOf cfg "wans")).filter fun e =>
    (e.2.getD "enabled" (.bool true)).truthy && e.2.getD "mode" .null != .str "disabled"

/-- The interfaces of `wan_items`. -/
def wanIfaces (cfg : Obj) : List String := (wanItems cfg).map fun e => wanInterface e.2 cfg

/-- `int(qos.get(key) or 0)`, an integer in a validated document. -/
def kbps (cfg : Obj) (key : String) : ℤ :=
  match Dict.lookup key (sectionOf cfg "qos") with
  | some (.int i) => i
  | _ => 0

def qosRequested (cfg : Obj) : Bool :=
  ((Dict.lookup "enabled" (sectionOf cfg "qos")).getD .null).truthy

/-- What an apply says of one WAN. -/
def shapedMessage (up down : ℤ) (wid : String) : String :=
  let directions := (if down ≠ 0 then ["download"] else []) ++ if up ≠ 0 then ["upload"] else []
  "Smart Queues enabled on " ++ wid ++ " (" ++ join "/" directions ++ ")"

/-- `TrafficManager.apply`, where `tc` is installed. -/
def applyTraffic (cfg : Obj) (tc : Tc) : List String × Tc :=
  let tc := cleanupAll 0 (wanIfaces cfg) tc
  if !(qosRequested cfg && !apMode cfg) then
    (if qosRequested cfg && apMode cfg then ["Smart Queues are bypassed in AP mode"] else [], tc)
  else if (wanItems cfg).isEmpty then
    (["Smart Queues unavailable: no enabled WAN is configured"], tc)
  else
    let down := kbps cfg "download_kbps"
    let up := kbps cfg "upload_kbps"
    ((wanItems cfg).map fun e => shapedMessage up down e.1, shapeAll up down 0 (wanIfaces cfg) tc)

end Sbegw.Netd
