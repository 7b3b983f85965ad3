import Sbegw.Lib.Templates
import Sbegw.Api.System
import Mathlib.Data.Finset.Sort
import Mathlib.Data.String.Basic

/-!
# The routes of the API

The table `_register` fills, the search of `Router.match`, and `_dispatch` from the request line on.  The
lines of the table are pairwise apart, so that the order in which they are registered does not matter.
-/

namespace Sbegw.Api

open Template Text
open Authd (Principal)

/-- `API_PREFIX` -/
def apiPrefix : String := "/api/v1"

/-- A registered route: its pattern after `API_PREFIX`, and what it is handled as. -/
structure Entry where
  method : String
  pattern : List Piece
  permission : Option String
  route : List (String × String) → Route

namespace Entry

/-- The segments of `API_PREFIX + pattern`. -/
def pieces (e : Entry) : List Piece := .text "" :: .text "api" :: .text "v1" :: e.pattern

/-- A route whose handler only reads. -/
def get (pattern : List Piece) (permission : Option String) : Entry :=
  ⟨"GET", pattern, permission, fun _ => .read permission⟩

end Entry

/-- `params[name]` -/
def param (name : String) (groups : List (String × String)) : String := (Dict.lookup name groups).getD ""

/-- `_register()` -/
def routes : List Entry :=
  [.get [.text "setup"] none,
   ⟨"POST", [.text "setup"], none, fun _ => .postSetup⟩,
   ⟨"POST", [.text "auth", .text "login"], none, fun _ => .postLogin⟩,
   ⟨"POST", [.text "auth", .text "logout"], none, fun _ => .postLogout⟩,
   .get [.text "auth", .text "self"] (some "system.read"),
   .get [.text "auth", .text "sessions"] (some "users.manage"),
   ⟨"DELETE", [.text "auth", .text "sessions", .group "id"], some "users.manage",
     fun p => .deleteSession (param "id" p)⟩,
   .get [.text "auth", .text "history"] (some "audit.read"),
   .get [.text "system"] (some "system.read"),
   .get [.text "platform"] (some "system.read"),
   .get [.text "platform", .text "identity"] (some "system.read"),
   .get [.text "platform", .text "identity", .text "factory-credentials"] (some "system.write"),
   ⟨"PUT", [.text "system"], some "system.write", fun _ => .putSystem⟩,
   .get [.text "dashboard"] (some "system.read"),
   .get [.text "health"] (some "system.read"),
   .get [.text "controller"] (some "system.read"),
   ⟨"PUT", [.text "controller"], some "system.write", fun _ => .putController⟩,
   ⟨"POST", [.text "controller", .text "inform"], some "system.write", fun _ => .postControllerInform⟩,
   ⟨"POST", [.text "controller", .text "sync"], some "system.write", fun _ => .postControllerSync⟩,
   ⟨"POST", [.text "controller", .text "reset"], some "system.write", fun _ => .postControllerReset⟩,
   .get [.text "ports"] (some "network.read"),
   ⟨"PUT", [.text "ports", .group "id"], some "network.write", fun p => .putPort (param "id" p)⟩,
   .get [.text "networks"] (some "network.read"),
   ⟨"POST", [.text "networks"], some "network.write", fun _ => .postNetwork⟩,
   ⟨"PUT", [.text "networks", .group "id"], some "network.write", fun p => .putNetwork (param "id" p)⟩,
   ⟨"DELETE", [.text "networks", .group "id"], some "network.write", fun p => .deleteNetwork (param "id" p)⟩,
   .get [.text "wans"] (some "network.read"),
   ⟨"PUT", [.text "wans", .group "id"], some "network.write", fun p => .putWan (param "id" p)⟩,
   .get [.text "firewall"] (some "security.read"),
   ⟨"PUT", [.text "firewall"], some "security.write", fun _ => .putFirewall⟩,
   .get [.text "firewall", .text "counters"] (some "security.read"),
   .get [.text "nat"] (some "security.read"),
   ⟨"PUT", [.text "nat"], some "security.write", fun _ => .putNat⟩,
   .get [.text "routing"] (some "routing.read"),
   ⟨"PUT", [.text "routing"], some "routing.write", fun _ => .putRouting⟩,
   .get [.text "services"] (some "network.read"),
   ⟨"PUT", [.text "services"], some "network.write", fun _ => .putServices⟩,
   .get [.text "dpi"] (some "security.read"),
   ⟨"PUT", [.text "dpi"], some "security.write", fun _ => .putDpi⟩,
   .get [.text "wifi"] (some "network.read"),
   .get [.text "wifi", .text "radios"] (some "network.read"),
   ⟨"PUT", [.text "wifi", .text "radios", .group "id"], some "network.write", fun p => .putRadio (param "id" p)⟩,
   .get [.text "wifi", .text "networks"] (some "network.read"),
   ⟨"POST", [.text "wifi", .text "networks"], some "network.write", fun _ => .postWifiNetwork⟩,
   ⟨"PUT", [.text "wifi", .text "networks", .group "id"], some "network.write",
     fun p => .putWifiNetwork (param "id" p)⟩,
   ⟨"DELETE", [.text "wifi", .text "networks", .group "id"], some "network.write",
     fun p => .deleteWifiNetwork (param "id" p)⟩,
   .get [.text "wifi", .text "mlo"] (some "network.read"),
   ⟨"POST", [.text "wifi", .text "mlo"], some "network.write", fun _ => .postMld⟩,
   ⟨"PUT", [.text "wifi", .text "mlo", .group "id"], some "network.write", fun p => .putMld (param "id" p)⟩,
   ⟨"DELETE", [.text "wifi", .text "mlo", .group "id"], some "network.write", fun p => .deleteMld (param "id" p)⟩,
   .get [.text "wifi", .text "regulatory"] (some "network.read"),
   ⟨"PUT", [.text "wifi", .text "regulatory"], some "network.write", fun _ => .putRegulatory⟩,
   .get [.text "wifi", .text "clients"] (some "network.read"),
   .get [.text "wifi", .text "neighbors"] (some "security.read"),
   ⟨"POST", [.text "wifi", .text "radios", .group "id", .text "recover"], some "network.write",
     fun p => .postRadioRecover (param "id" p)⟩,
   .get [.text "wifi", .text "capabilities"] (some "network.read"),
   .get [.text "wifi", .text "channels"] (some "network.read"),
   ⟨"POST", [.text "wifi", .text "channels", .text "scan"], some "network.write", fun _ => .postChannelScan⟩,
   ⟨"POST", [.text "wifi", .text "channels", .text "optimize"], some "network.write",
     fun _ => .postChannelOptimize⟩,
   ⟨"PUT", [.text "wifi", .text "channels", .text "settings"], some "network.write",
     fun _ => .putChannelSettings⟩,
   .get [.text "wifi", .text "channels", .text "history"] (some "network.read"),
   .get [.text "clients"] (some "network.read"),
   .get [.text "clients", .group "mac"] (some "network.read"),
   ⟨"PUT", [.text "clients", .group "mac"], some "clients.write", fun p => .putClient (param "mac" p)⟩,
   ⟨"POST", [.text "clients", .group "mac", .text "actions", .group "action"], some "clients.write",
     fun p => .postClientAction (param "mac" p) (param "action" p)⟩,
   .get [.text "telemetry"] (some "system.read"),
   .get [.text "telemetry", .text "series"] (some "system.read"),
   .get [.text "telemetry", .text "history"] (some "system.read"),
   .get [.text "events"] (some "system.read"),
   .get [.text "topology"] (some "network.read"),
   .get [.text "config"] (some "system.read"),
   .get [.text "config", .text "pending"] (some "system.read"),
   ⟨"POST", [.text "config", .text "commit"], some "system.write", fun _ => .postCommit⟩,
   ⟨"POST", [.text "config", .text "confirm"], some "system.write", fun _ => .postConfirm⟩,
   ⟨"POST", [.text "config", .text "discard"], some "system.write", fun _ => .postDiscard⟩,
   .get [.text "config", .text "revisions"] (some "system.read"),
   ⟨"POST", [.text "config", .text "revisions", .group "id", .text "rollback"], some "system.write",
     fun p => .postRollback (param "id" p)⟩,
   .get [.text "audit"] (some "audit.read"),
   .get [.text "users"] (some "users.manage"),
   ⟨"POST", [.text "users"], some "users.manage", fun _ => .postUser⟩,
   ⟨"PUT", [.text "users", .group "name"], some "users.manage", fun p => .putUser (param "name" p)⟩,
   ⟨"DELETE", [.text "users", .group "name"], some "users.manage", fun p => .deleteUser (param "name" p)⟩,
   .get [.text "rbac"] (some "users.manage"),
   .get [.text "backups", .text "export"] (some "backup.manage"),
   ⟨"POST", [.text "backups", .text "import"], some "backup.manage", fun _ => .postBackup⟩]

/-- The loop of `Router.match`; `ApiError(405, ...)` is told by the methods it allows. -/
def matchFrom (method : String) (segments : List String) :
    List Entry → Finset String → Except (List String) (Option (Entry × List (String × String)))
  | [], allowed => if allowed.Nonempty then .error allowed.sort else .ok none
  | e :: es, allowed =>
    match fits e.pieces segments with
    | none => matchFrom method segments es allowed
    | some groups =>
      if e.method ≠ method then matchFrom method segments es (insert e.method allowed)
      else .ok (some (e, groups))

/-- `Router.match` -/
def matchRoute (method path : String) : Except (List String) (Option (Entry × List (String × String))) :=
  matchFrom method (split '/' path) routes ∅

/-! ### Dispatch -/

/-- The verbs that reach `_dispatch`, and the method each is dispatched as. -/
inductive Verb
  | get
  | head
  | post
  | put
  | delete
  deriving DecidableEq

def Verb.method : Verb → String
  | .get | .head => "GET"
  | .post => "POST"
  | .put => "PUT"
  | .delete => "DELETE"

/-- A request as it arrives. -/
structure RawRequest where
  verb : Verb
  /-- `urlsplit(self.path).path` -/
  urlPath : String
  /-- `int(Content-Length)`, or what `int` says of it -/
  length : Except String ℤ
  credentials : Credentials
  sourceIp : String
  agent : String
  body : Body

namespace RawRequest

/-- `parsed.path.rstrip("/") or parsed.path` -/
def path (r : RawRequest) : String := if rstrip '/' r.urlPath = "" then r.urlPath else rstrip '/' r.urlPath

/-- The request for a route. -/
def request (r : RawRequest) (route : Route) : Request :=
  ⟨route, r.verb.method = "GET", r.credentials, r.sourceIp, r.agent, r.body⟩

end RawRequest

/-- `MAX_BODY` -/
def maxBody : ℤ := 4 * 1024 * 1024

/-- What a request is answered with: a reply, or the stream of events. -/
inductive Served
  | reply (x : Except Exn Json)
  | events

/-- `_handle_stream`, up to the stream itself -/
def handleStream (w : World) (c : Credentials) (g : Gateway) : Served × Gateway :=
  match authenticate w c g with
  | (.error e, g) => (.reply (.error e), g)
  | (.ok (p, _), g) =>
    if p.can "system.read" then (.events, g)
    else (.reply (.error (.api 403 "forbidden" "system.read required")), g)

/-- `_dispatch` -/
def serve (w : World) (r : RawRequest) (g : Gateway) : Served × Gateway :=
  if r.path = apiPrefix ++ "/stream" then handleStream w r.credentials g
  else match r.length with
    | .error message => (.reply (.error (.api 500 "internal_error" message)), g)
    | .ok length =>
      if maxBody < length then (.reply (.error (.api 413 "too_large" "request body too large")), g)
      else match matchRoute r.verb.method r.path with
        | .error _ =>
          (.reply (.error (.api 405 "method_not_allowed" (r.verb.method ++ " not allowed here"))), g)
        | .ok none =>
          (.reply (.error (.api 404 "not_found" ("no route for " ++ r.verb.method ++ " " ++ r.path))), g)
        | .ok (some (e, groups)) =>
          let x := dispatch w (r.request (e.route groups)) g
          (.reply x.1, x.2)

/-! ### The search -/

/-- A route and the values of its groups that this request line asks for. -/
structure Addressed (method path : String) (e : Entry) (groups : List (String × String)) : Prop where
  mem : e ∈ routes
  method : e.method = method
  values : Values e.pieces groups
  plain : ∀ v ∈ groups, '/' ∉ v.2.toList
  path : path = join "/" (fill e.pieces (groups.map Prod.snd))

/-- The line of a route: its method and its path. -/
def Entry.line (e : Entry) : List Piece := .text e.method :: e.pieces

theorem routes_apart : routes.Pairwise fun e e' => apart e.line e'.line = true := by decide +kernel

theorem routes_plain : ∀ e ∈ routes, ∀ p ∈ e.pieces, ∀ s, p = .text s → '/' ∉ s.toList := by
  have hall : routes.all (fun e => e.pieces.all
      (Piece.rec (motive := fun _ => Bool) (fun s => !s.toList.contains '/') fun _ => true)) = true := by decide +kernel
  intro e he p hp s hs
  have h := List.all_eq_true.mp (List.all_eq_true.mp hall e he) p hp
  subst hs
  simpa using h

theorem slash : "/".toList = ['/'] := rfl

theorem addressed_iff_fits {method path : String} {e : Entry} {groups : List (String × String)} :
    Addressed method path e groups ↔
      e ∈ routes ∧ e.method = method ∧ fits e.pieces (split '/' path) = some groups := by
  constructor
  · rintro ⟨hmem, hmethod, hvalues, hplain, hpath⟩
    exact ⟨hmem, hmethod, (fits_split slash (List.cons_ne_nil _ _)
      fun s hs => routes_plain e hmem _ hs s rfl).mpr ⟨hvalues, hplain, hpath⟩⟩
  · rintro ⟨hmem, hmethod, hfits⟩
    obtain ⟨hvalues, hplain, hpath⟩ := (fits_split slash (List.cons_ne_nil _ _)
      fun s hs => routes_plain e hmem _ hs s rfl).mp hfits
    exact ⟨hmem, hmethod, hvalues, hplain, hpath⟩

/-- **One route a line**: a method and a path ask for one route at most, with its values. -/
theorem Addressed.unique {method path : String} {e e' : Entry} {groups groups' : List (String × String)}
    (h : Addressed method path e groups) (h' : Addressed method path e' groups') : e = e' ∧ groups = groups' := by
  obtain ⟨hmem, hmethod, hfits⟩ := addressed_iff_fits.mp h
  obtain ⟨hmem', hmethod', hfits'⟩ := addressed_iff_fits.mp h'
  have hline : fits e.line (method :: split '/' path) = some groups := by
    rw [Entry.line, fits, if_pos hmethod.symm, hfits]
  have hline' : fits e'.line (method :: split '/' path) = some groups' := by
    rw [Entry.line, fits, if_pos hmethod'.symm, hfits']
  obtain rfl := eq_of_fits routes_apart hmem hmem' hline hline'
  exact ⟨rfl, Option.some.inj (hfits.symm.trans hfits')⟩

/-- The methods of the routes of a path. -/
def methodsOf (segments : List String) (es : List Entry) : Finset String :=
  ((es.filter fun e => (fits e.pieces segments).isSome).map Entry.method).toFinset

theorem methodsOf_cons (segments : List String) (e : Entry) (es : List Entry) : methodsOf segments (e :: es) =
    if (fits e.pieces segments).isSome then insert e.method (methodsOf segments es) else methodsOf segments es := by
  unfold methodsOf
  rw [List.filter_cons]
  split
  · rw [List.map_cons, List.toFinset_cons]
  · rfl

/-- What the search finds is of the method and fits. -/
theorem matchFrom_ok {method : String} {segments : List String} {e : Entry} {groups : List (String × String)} :
    ∀ {es : List Entry} {allowed : Finset String}, matchFrom method segments es allowed = .ok (some (e, groups)) →
      e ∈ es ∧ e.method = method ∧ fits e.pieces segments = some groups
  | [], allowed, h => by
    unfold matchFrom at h
    split_ifs at h
    cases h
  | d :: es, allowed, h => by
    unfold matchFrom at h
    split at h
    · obtain ⟨hmem, hrest⟩ := matchFrom_ok h
      exact ⟨List.mem_cons_of_mem d hmem, hrest⟩
    · next found hfits =>
      split_ifs at h with hmethod
      · obtain ⟨hmem, hrest⟩ := matchFrom_ok h
        exact ⟨List.mem_cons_of_mem d hmem, hrest⟩
      · obtain ⟨rfl, rfl⟩ := Prod.mk.inj (Option.some.inj (Except.ok.inj h))
        exact ⟨List.mem_cons_self, not_not.mp hmethod, hfits⟩

/-- Where no route of the method fits, the search comes to the methods of those that do. -/
theorem matchFrom_of_none {method : String} {segments : List String} :
    ∀ {es : List Entry} {allowed : Finset String},
      (∀ e ∈ es, e.method = method → fits e.pieces segments = none) →
      matchFrom method segments es allowed =
        if (methodsOf segments es ∪ allowed).Nonempty then .error (methodsOf segments es ∪ allowed).sort else .ok none
  | [], allowed, _ => by
    have hnone : methodsOf segments [] ∪ allowed = allowed := Finset.empty_union allowed
    rw [hnone, matchFrom]
  | e :: es, allowed, h => by
    have hes : ∀ d ∈ es, d.method = method → fits d.pieces segments = none :=
      fun d hd => h d (List.mem_cons_of_mem e hd)
    rw [matchFrom, methodsOf_cons]
    cases hfits : fits e.pieces segments with
    | none => exact matchFrom_of_none hes
    | some groups =>
      have hmethod : e.method ≠ method := fun hm => by
        rw [h e List.mem_cons_self hm] at hfits
        cases hfits
      have hunion : insert e.method (methodsOf segments es) ∪ allowed =
          methodsOf segments es ∪ insert e.method allowed := by
        rw [Finset.insert_union, Finset.union_insert]
      have hsome : (some groups).isSome = true := rfl
      dsimp only
      rw [if_pos hmethod, if_pos hsome, hunion]
      exact matchFrom_of_none hes

/-- A route of the method that fits is found, or one before it. -/
theorem matchFrom_isOk {method : String} {segments : List String} {e : Entry} {groups : List (String × String)} :
    ∀ {es : List Entry} {allowed : Finset String}, e ∈ es → e.method = method →
      fits e.pieces segments = some groups → ∃ r, matchFrom method segments es allowed = .ok (some r)
  | d :: es, allowed, hmem, hmethod, hfits => by
    rw [matchFrom]
    cases hd : fits d.pieces segments with
    | none =>
      obtain rfl | hin := List.mem_cons.mp hmem
      · rw [hfits] at hd
        cases hd
      · exact matchFrom_isOk hin hmethod hfits
    | some found =>
      dsimp only
      split_ifs with hother
      · obtain rfl | hin := List.mem_cons.mp hmem
        · exact absurd hmethod hother
        · exact matchFrom_isOk hin hmethod hfits
      · exact ⟨_, rfl⟩

/-- What the router makes of a method and a path. -/
structure Decides (method path : String) : Prop where
  found : ∀ e groups, matchRoute method path = .ok (some (e, groups)) ↔ Addressed method path e groups
  missing : matchRoute method path = .ok none ↔ ∀ m e groups, ¬ Addressed m path e groups
  /-- The methods that are allowed, each once and in order, are those of the path. -/
  refused : ∀ allow, matchRoute method path = .error allow ↔
    (∀ e groups, ¬ Addressed method path e groups) ∧ allow ≠ [] ∧ allow.SortedLT ∧
      ∀ m, m ∈ allow ↔ ∃ e groups, Addressed m path e groups

theorem mem_methodsOf {m path : String} :
    m ∈ methodsOf (split '/' path) routes ↔ ∃ e groups, Addressed m path e groups := by
  unfold methodsOf
  simp only [List.mem_toFinset, List.mem_map, List.mem_filter, Option.isSome_iff_exists]
  constructor
  · rintro ⟨e, ⟨hmem, groups, hfits⟩, hmethod⟩
    exact ⟨e, groups, addressed_iff_fits.mpr ⟨hmem, hmethod, hfits⟩⟩
  · rintro ⟨e, groups, h⟩
    obtain ⟨hmem, hmethod, hfits⟩ := addressed_iff_fits.mp h
    exact ⟨e, ⟨hmem, groups, hfits⟩, hmethod⟩

/-- **The router decides**: a request line is answered by the route it asks for, with 405 and the methods of
its path where it asks for none, and with 404 where its path is none of a route. -/
theorem router_decides (method path : String) : Decides method path := by
  by_cases hany : ∃ e groups, Addressed method path e groups
  · obtain ⟨e, groups, h⟩ := hany
    obtain ⟨hmem, hmethod, hfits⟩ := addressed_iff_fits.mp h
    obtain ⟨⟨d, found⟩, hd⟩ := @matchFrom_isOk method (split '/' path) e groups routes ∅ hmem hmethod hfits
    have haddressed : Addressed method path d found := addressed_iff_fits.mpr (matchFrom_ok hd)
    have hmatch : matchRoute method path = .ok (some (d, found)) := hd
    refine ⟨fun e' groups' => ⟨fun h' => addressed_iff_fits.mpr (matchFrom_ok h'), fun h' => ?_⟩,
      ⟨fun h' => ?_, fun h' => absurd h (h' method e groups)⟩,
      fun allow => ⟨fun h' => ?_, fun h' => absurd h (h'.1 e groups)⟩⟩
    · obtain ⟨rfl, rfl⟩ := haddressed.unique h'
      exact hmatch
    · rw [hmatch] at h'
      cases h'
    · rw [hmatch] at h'
      cases h'
  · have hnone : ∀ e ∈ routes, e.method = method → fits e.pieces (split '/' path) = none := by
      intro e hmem hmethod
      cases hfits : fits e.pieces (split '/' path) with
      | none => rfl
      | some groups => exact absurd ⟨e, groups, addressed_iff_fits.mpr ⟨hmem, hmethod, hfits⟩⟩ hany
    have hmatch := @matchFrom_of_none method (split '/' path) routes ∅ hnone
    rw [Finset.union_empty] at hmatch
    have hempty : ¬ (methodsOf (split '/' path) routes).Nonempty ↔ ∀ m e groups, ¬ Addressed m path e groups := by
      unfold Finset.Nonempty
      simp only [mem_methodsOf, not_exists]
    refine ⟨fun e groups => ⟨fun h' => addressed_iff_fits.mpr (matchFrom_ok h'), fun h' => absurd ⟨e, groups, h'⟩ hany⟩,
      ?_, fun allow => ⟨fun h' => ?_, fun h' => ?_⟩⟩
    · rw [← hempty]
      constructor
      · intro h' hsome
        rw [matchRoute, hmatch, if_pos hsome] at h'
        cases h'
      · intro hsome
        rw [matchRoute, hmatch, if_neg hsome]
    · rw [matchRoute, hmatch] at h'
      split_ifs at h' with hsome
      obtain rfl := Except.error.inj h'
      refine ⟨fun e groups ha => hany ⟨e, groups, ha⟩, ?_, Finset.sortedLT_sort _, fun m => ?_⟩
      · intro hnil
        obtain ⟨m, hm⟩ := hsome
        rw [← Finset.mem_sort (· ≤ ·), hnil] at hm
        exact absurd hm List.not_mem_nil
      · rw [Finset.mem_sort, mem_methodsOf]
    · obtain ⟨-, hne, hsorted, hmem⟩ := h'
      have hset : (methodsOf (split '/' path) routes).sort = allow := by
        refine (Finset.sortedLT_sort _).eq_of_mem_iff hsorted fun m => ?_
        rw [Finset.mem_sort, mem_methodsOf, hmem]
      have hsome : (methodsOf (split '/' path) routes).Nonempty := by
        obtain ⟨m, hm⟩ := List.exists_mem_of_ne_nil allow hne
        exact ⟨m, mem_methodsOf.mpr ((hmem m).mp hm)⟩
      rw [matchRoute, hmatch, if_pos hsome, hset]

/-! ### The front door -/

/-- A route is handled with the permission it is registered with, and a `GET` only reads. -/
theorem routes_handled : ∀ e ∈ routes, ∀ groups, (e.route groups).permission = e.permission ∧
    (e.method = "GET" → e.route groups = .read e.permission) := by
  unfold routes
  simp only [List.forall_mem_cons]
  simp [Entry.get, Route.permission]

/-- The request may have what the permission guards: the caller is known, has shown the token of its session
unless it is an API token itself, and holds the permission. -/
def Admits (w : World) (c : Credentials) (g : Gateway) (permission : String) : Prop :=
  ∃ p token g', authenticate w c g = (.ok (p, token), g') ∧ checkCsrf c p token g' = .ok () ∧
    p.can permission = true

theorem admits_of_admission {w : World} {r : Request} {permission : String} {g g' : Gateway}
    {x : Principal × Option String} (hget : r.isGet = false) (h : admission w r permission g = (.ok x, g')) :
    Admits w r.credentials g permission := by
  unfold admission at h
  split at h
  · cases h
  · next p token g₁ hauth =>
    rw [hget] at h
    split at h
    · cases h
    · next hcsrf =>
      split at h
      · next hcan => exact ⟨p, token, g₁, hauth, hcsrf, hcan⟩
      · cases h

/-- What a request for a route that is no `GET` needs. -/
theorem enter_admits {w : World} {r : Request} {g g' : Gateway} {ctx : Ctx} (hget : r.isGet = false)
    (h : enter w r g = (.ok ctx, g')) : r.route.permission = none ∨
      ∃ permission, r.route.permission = some permission ∧ Admits w r.credentials g permission := by
  unfold enter at h
  cases hp : r.route.permission with
  | none => exact .inl rfl
  | some permission =>
    rw [hp] at h
    dsimp only at h
    split at h
    · cases h
    · next p token g₁ hadm => exact .inr ⟨permission, rfl, admits_of_admission hget hadm⟩

/-- The store and the clients are as they were. -/
def Untouched (g g' : Gateway) : Prop := g'.store = g.store ∧ g'.clients = g.clients

/-- A request was handled as a route that changes something. -/
structure LetThrough (w : World) (r : RawRequest) (g : Gateway) (e : Entry) (groups : List (String × String)) :
    Prop where
  addressed : Addressed r.verb.method r.path e groups
  writes : e.method ≠ "GET"
  handled : serve w r g =
    (.reply (dispatch w (r.request (e.route groups)) g).1, (dispatch w (r.request (e.route groups)) g).2)
  admitted : e.permission = none ∨ ∃ permission, e.permission = some permission ∧ Admits w r.credentials g permission

theorem handleStream_untouched (w : World) (c : Credentials) (g : Gateway) : Untouched g (handleStream w c g).2 := by
  obtain ⟨m, hstate, -⟩ := authenticate_effect w c g
  unfold handleStream
  split
  · next hauth =>
    rw [hauth] at hstate
    subst hstate
    exact ⟨rfl, rfl⟩
  · next hauth =>
    rw [hauth] at hstate
    subst hstate
    split <;> exact ⟨rfl, rfl⟩

/-- **The front door**: whatever a request line asks for, store and clients stay as they are, or the line is
that of one route with the method `POST`, `PUT` or `DELETE`, whose permission the caller was found to have. -/
theorem serve_guarded (w : World) (r : RawRequest) (g : Gateway) :
    Untouched g (serve w r g).2 ∨ ∃ e groups, LetThrough w r g e groups := by
  by_cases hstream : r.path = apiPrefix ++ "/stream"
  · rw [serve, if_pos hstream]
    exact .inl (handleStream_untouched w r.credentials g)
  · cases hlen : r.length with
    | error message =>
      rw [serve, if_neg hstream, hlen]
      exact .inl ⟨rfl, rfl⟩
    | ok length =>
      by_cases hlong : maxBody < length
      · have hserve : (serve w r g).2 = g := by
          rw [serve, if_neg hstream, hlen]
          dsimp only
          rw [if_pos hlong]
        rw [hserve]
        exact .inl ⟨rfl, rfl⟩
      · cases hmatch : matchRoute r.verb.method r.path with
        | error allow =>
          have hserve : (serve w r g).2 = g := by
            rw [serve, if_neg hstream, hlen]
            dsimp only
            rw [if_neg hlong, hmatch]
          rw [hserve]
          exact .inl ⟨rfl, rfl⟩
        | ok found =>
          cases found with
          | none =>
            have hserve : (serve w r g).2 = g := by
              rw [serve, if_neg hstream, hlen]
              dsimp only
              rw [if_neg hlong, hmatch]
            rw [hserve]
            exact .inl ⟨rfl, rfl⟩
          | some hit =>
            obtain ⟨e, groups⟩ := hit
            have haddressed := ((router_decides r.verb.method r.path).found e groups).mp hmatch
            have hserve : serve w r g = (.reply (dispatch w (r.request (e.route groups)) g).1,
                (dispatch w (r.request (e.route groups)) g).2) := by
              rw [serve, if_neg hstream, hlen]
              dsimp only
              rw [if_neg hlong, hmatch]
            obtain ⟨hpermission, hread⟩ := routes_handled e haddressed.mem groups
            obtain ⟨m, hstate, -⟩ := enter_effect w (r.request (e.route groups)) g
            cases henter : enter w (r.request (e.route groups)) g with
            | mk out g₁ =>
              rw [henter] at hstate
              subst hstate
              cases out with
              | error x =>
                left
                rw [hserve, dispatch_eq, henter]
                exact ⟨rfl, rfl⟩
              | ok ctx =>
                by_cases hget : e.method = "GET"
                · left
                  rw [hserve, dispatch_eq, henter]
                  have hroute : (r.request (e.route groups)).route = .read e.permission := hread hget
                  dsimp only
                  rw [hroute]
                  exact ⟨rfl, rfl⟩
                · right
                  have hverb : (r.request (e.route groups)).isGet = false :=
                    decide_eq_false (haddressed.method ▸ hget)
                  refine ⟨e, groups, haddressed, hget, hserve, ?_⟩
                  rw [← hpermission]
                  exact enter_admits hverb henter

end Sbegw.Api
