import Mathlib.Data.String.Basic
import Mathlib.Data.List.Dedup
import Sbegw.Lib.Pieces
import Sbegw.Netd.Wans

/-!
# The DHCP clients

What `WanManager.apply` does to the processes of the host.  Clients are told from other processes by their arguments
alone: the program, the interface, the family, and the pid file, whose name has the WAN in it.  A client that is started
runs under a number of its own and writes it into its pid file; one that is stopped is gone.
-/

namespace Sbegw.Netd

open Text

/-! ### Processes -/

/-- A process: its number, and its arguments without the empty ones. -/
structure Process where
  pid : ℕ
  argv : List String
deriving DecidableEq

/-- The processes, and the pid files by path. -/
structure Host where
  procs : List Process
  pidfiles : Dict String ℕ

/-- The family of a lease. -/
inductive Lease where
  | v4
  | v6
deriving DecidableEq

def Lease.digit : Lease → String
  | .v4 => "4"
  | .v6 => "6"

/-- `DHCLIENT_DIR` -/
def dhclientDir : String := "/run/sbegw/dhclient"

/-- `f"{DHCLIENT_DIR}/{key}.pid"` -/
def pidfileOf (wid : String) (f : Lease) : String := dhclientDir ++ "/" ++ (wid ++ "-v" ++ f.digit) ++ ".pid"

def leaseFileOf (wid : String) (f : Lease) : String := dhclientDir ++ "/" ++ (wid ++ "-v" ++ f.digit) ++ ".leases"

/-- `os.path.basename` -/
def basename (path : String) : String := String.ofList (path.toList.reverse.takeWhile (· != '/')).reverse

/-- What starting a client rests on. -/
structure HostTools where
  /-- `which("dhclient")` -/
  dhclient : String
  /-- `rtnl.link(port)` is there -/
  present : String → Bool
  /-- the number that the next process gets -/
  number : Host → ℕ
  named : basename dhclient = "dhclient"
  rooted : '/' ∈ dhclient.toList
  plain : ¬ "-v".toList <:+: dhclient.toList
  /-- no process has the number, nor does a pid file hold it -/
  unused : ∀ h, (∀ p ∈ h.procs, p.pid ≠ number h) ∧ ∀ e ∈ h.pidfiles, e.2 ≠ number h

/-- The arguments of a client. -/
def dhclientArgv (t : HostTools) (wid : String) (f : Lease) (iface : String) : List String :=
  [t.dhclient, "-nw", "-" ++ f.digit, "-pf", pidfileOf wid f, "-lf", leaseFileOf wid f, iface]

/-! ### What runs -/

/-- The interface of a process that looks like a client of the WAN. -/
def clientIface (wid : String) (argv : List String) : Option String :=
  match argv with
  | [] => none
  | prog :: _ =>
    if isInfixOf "dhclient" prog && argv.any (isInfixOf ("/" ++ wid ++ "-v")) then
      argv.getLast?.filter fun last => !startsWith "-" last
    else none

/-- The process is a DHCP client. -/
def isDhclient (argv : List String) : Bool := (argv.take 2).any fun a => startsWith "dhclient" (basename a)

/-- The process is a client on the interface, of the family. -/
def clientOn (iface : String) (f : Lease) (argv : List String) : Bool :=
  isDhclient argv && argv.contains iface && argv.contains "-6" == decide (f = .v6)

namespace Host

/-- `_dhclient_ifaces` -/
def dhclientIfaces (wid : String) (h : Host) : List String :=
  (h.procs.filterMap fun p => clientIface wid p.argv).dedup.insertionSort (· ≤ ·)

/-- `_dhclients_on` -/
def dhclientsOn (iface : String) (f : Lease) (h : Host) : List ℕ :=
  ((h.procs.filter fun p => clientOn iface f p.argv).map Process.pid).insertionSort (· ≤ ·)

/-- The number is that of a process. -/
def alive (pid : ℕ) (h : Host) : Bool := h.procs.any fun p => p.pid == pid

/-- `_read_pidfile` -/
def readPidfile (path : String) (h : Host) : Option ℕ := (Dict.lookup path h.pidfiles).filter fun pid => h.alive pid

/-! ### What is done -/

/-- `_kill_pid` -/
def kill (pid : ℕ) (h : Host) : Host := { h with procs := h.procs.filter fun p => p.pid != pid }

def killAll (pids : List ℕ) (h : Host) : Host := pids.foldl (fun h pid => h.kill pid) h

/-- The process of a pid file is killed. -/
def killNamed (path : String) (h : Host) : Host :=
  match h.readPidfile path with
  | some pid => h.kill pid
  | none => h

/-- `_stop_dhclient`, for one family. -/
def stopLease (wid iface : String) (f : Lease) (h : Host) : Host :=
  let h := h.killNamed (pidfileOf wid f)
  h.killAll (h.dhclientsOn iface f)

/-- `_stop_dhclient` -/
def stopDhclient (wid iface : String) (h : Host) : Host := (h.stopLease wid iface .v4).stopLease wid iface .v6

/-- The client that is launched on the interface. -/
def launch (t : HostTools) (wid iface : String) (f : Lease) (h : Host) : Host :=
  { procs := h.procs ++ [⟨t.number h, dhclientArgv t wid f iface⟩],
    pidfiles := Dict.set (pidfileOf wid f) (t.number h) h.pidfiles }

/-- `_start_dhclient`.  A client does not start while its pid file is that of a process. -/
def startDhclient (t : HostTools) (wid iface : String) (f : Lease) (h : Host) : Host :=
  match h.dhclientsOn iface f with
  | _ :: rest => h.killAll rest
  | [] =>
    match h.readPidfile (pidfileOf wid f) with
    | some _ => h
    | none => { h with pidfiles := Dict.erase (pidfileOf wid f) h.pidfiles }.launch t wid iface f

/-- The interfaces that the WAN has clients on and is no longer at. -/
def staleIfaces (wid iface : String) (h : Host) : List String := (h.dhclientIfaces wid).filter fun x => x != iface

end Host

/-- `wan.get("mode", "dhcp")` -/
def wanMode (wan : Json) : Json := wan.getD "mode" (.str "dhcp")

/-- `wan.get("ipv6", {}).get("mode", "disabled")` -/
def wanIpv6Mode (wan : Json) : Json := (wan.getD "ipv6" (.obj [])).getD "mode" (.str "disabled")

/-- The port of the WAN is there. -/
def HostTools.hasPort (t : HostTools) (wan : Json) : Bool := t.present (Schema.pyStr (wan.getD "port" .null))

namespace Host

/-- The clients of the WAN on interfaces that it is no longer at are stopped. -/
def release (wid iface : String) (h : Host) : Host :=
  (h.staleIfaces wid iface).foldl (fun h stale => h.stopDhclient wid stale) h

/-- The mode of the WAN, as far as its client goes. -/
def applyMode (t : HostTools) (wan : Json) (wid iface : String) (h : Host) : Host :=
  if wanMode wan = .str "dhcp" then h.startDhclient t wid iface .v4
  else if wanMode wan = .str "static" ∨ wanMode wan = .str "pppoe" then h.stopDhclient wid iface
  else h

/-- Its IPv6 mode. -/
def applyIpv6 (t : HostTools) (wan : Json) (wid iface : String) (h : Host) : Host :=
  if wanIpv6Mode wan = .str "dhcpv6" ∨ wanIpv6Mode wan = .str "dhcpv6-pd" then h.startDhclient t wid iface .v6 else h

/-- `WanManager.apply`, for one WAN. -/
def applyUplink (t : HostTools) (cfg : Obj) (h : Host) (e : String × Json) : Host :=
  let iface := wanInterface e.2 cfg
  let h := h.release e.1 iface
  if !wanEnabled e.2 then h.stopDhclient e.1 iface
  else if !t.hasPort e.2 then h
  else (h.applyMode t e.2 e.1 iface).applyIpv6 t e.2 e.1 iface

/-- `WanManager.apply` -/
def applyWans (t : HostTools) (cfg : Obj) (h : Host) : Host :=
  if apMode cfg then
    let h := (sectionOf cfg "wans").foldl (fun h e => h.stopDhclient e.1 (wanInterface e.2 cfg)) h
    h.startDhclient t "ap" bridge .v4
  else
    (sectionOf cfg "wans").foldl (fun h e => h.applyUplink t cfg e) (h.stopDhclient "ap" bridge)

end Host

/-! ### How clients are recognised -/

/-- The name of an interface: no path and no option. -/
def PlainName (s : String) : Prop := '/' ∉ s.toList ∧ startsWith "-" s = false ∧ s ≠ ""

instance (s : String) : Decidable (PlainName s) := inferInstanceAs (Decidable (_ ∧ _))

theorem startsWith_iff {p s : String} : startsWith p s = true ↔ p.toList <+: s.toList := by
  unfold startsWith
  rw [Option.isSome_iff_exists]
  constructor
  · rintro ⟨r, hr⟩
    exact ⟨r, (stripPrefix?_eq_some_iff.mp hr).symm⟩
  · rintro ⟨r, hr⟩
    exact ⟨r, stripPrefix?_eq_some_iff.mpr hr.symm⟩

theorem ne_of_slash {s x : String} (h : '/' ∈ s.toList) (hx : PlainName x) : s ≠ x :=
  fun heq => hx.1 (heq ▸ h)

theorem ne_of_dash {s x : String} (h : startsWith "-" s = true) (hx : PlainName x) : s ≠ x :=
  fun heq => Bool.false_ne_true (hx.2.1.symm.trans (heq ▸ h))

theorem slash_mem_pidfileOf (wid : String) (f : Lease) : '/' ∈ (pidfileOf wid f).toList := by
  simp [pidfileOf, dhclientDir]

theorem slash_mem_leaseFileOf (wid : String) (f : Lease) : '/' ∈ (leaseFileOf wid f).toList := by
  simp [leaseFileOf, dhclientDir]

section Argv

variable {t : HostTools} {wid x : String} {f : Lease}

theorem isDhclient_argv : isDhclient (dhclientArgv t wid f x) = true := by
  unfold isDhclient dhclientArgv
  rw [List.take_succ_cons, List.any_cons, t.named]
  rfl

/-- Among the arguments only the last is the name of an interface. -/
theorem mem_argv {y : String} (hy : PlainName y) : y ∈ dhclientArgv t wid f x ↔ y = x := by
  unfold dhclientArgv
  have h₁ : t.dhclient ≠ y := ne_of_slash t.rooted hy
  have h₂ : "-nw" ≠ y := ne_of_dash rfl hy
  have h₃ : "-" ++ f.digit ≠ y := ne_of_dash (startsWith_append _ _) hy
  have h₄ : "-pf" ≠ y := ne_of_dash rfl hy
  have h₅ : pidfileOf wid f ≠ y := ne_of_slash (slash_mem_pidfileOf wid f) hy
  have h₆ : "-lf" ≠ y := ne_of_dash rfl hy
  have h₇ : leaseFileOf wid f ≠ y := ne_of_slash (slash_mem_leaseFileOf wid f) hy
  simp only [List.mem_cons, List.not_mem_nil, or_false, h₁.symm, h₂.symm, h₃.symm, h₄.symm, h₅.symm, h₆.symm, h₇.symm,
    false_or]

/-- The option of the other family is not among them. -/
theorem six_mem_argv (hx : PlainName x) : "-6" ∈ dhclientArgv t wid f x ↔ f = .v6 := by
  have hslash : ∀ s : String, '/' ∈ s.toList → "-6" ≠ s := by
    rintro s hs rfl
    exact absurd hs (by decide)
  have h₁ := hslash t.dhclient t.rooted
  have h₂ := hslash (pidfileOf wid f) (slash_mem_pidfileOf wid f)
  have h₃ := hslash (leaseFileOf wid f) (slash_mem_leaseFileOf wid f)
  have h₄ : "-6" ≠ x := ne_of_dash rfl hx
  unfold dhclientArgv
  simp only [List.mem_cons, List.not_mem_nil, or_false, h₁, h₂, h₃, h₄, false_or]
  cases f <;> decide

theorem clientOn_argv {y : String} (hy : PlainName y) (hx : PlainName x) (g : Lease) :
    clientOn y g (dhclientArgv t wid f x) = true ↔ x = y ∧ f = g := by
  unfold clientOn
  rw [isDhclient_argv, Bool.true_and, Bool.and_eq_true, List.contains_iff_mem, mem_argv hy, beq_iff_eq,
    Bool.eq_iff_iff, List.contains_iff_mem, six_mem_argv hx, decide_eq_true_eq]
  refine and_congr eq_comm ?_
  cases f <;> cases g <;> decide

end Argv

/-! ### Whose they are -/

/-- The name of a WAN has no slash. -/
def PlainId (wid : String) : Prop := '/' ∉ wid.toList

instance (wid : String) : Decidable (PlainId wid) := inferInstanceAs (Decidable (¬ _))

/-- The one WAN is mistaken for the other: the name of the latter goes on from that of the former with `-v`. -/
def Tangled (wid other : String) : Prop := (wid ++ "-v").toList <+: other.toList

instance (wid other : String) : Decidable (Tangled wid other) := inferInstanceAs (Decidable (_ <+: _))

theorem prefix_append_cons {s u r : List Char} {c : Char} (hs : c ∉ s) : s <+: u ++ c :: r ↔ s <+: u := by
  constructor
  · rintro ⟨x, hx⟩
    rcases List.append_eq_append_iff.mp hx with ⟨as, rfl, -⟩ | ⟨bs, rfl, hbs⟩
    · exact List.prefix_append s as
    · cases bs with
      | nil => exact ⟨[], by simp⟩
      | cons b bs =>
        obtain ⟨rfl, -⟩ := List.cons.inj hbs
        exact absurd (List.mem_append_right u List.mem_cons_self) hs
  · exact fun h => h.trans (List.prefix_append u _)

/-- Where a piece of a path that starts with a slash can lie. -/
theorem infix_slash {s u r : List Char} {c : Char} (hu : c ∉ u) :
    c :: s <:+: u ++ c :: r ↔ s <+: r ∨ c :: s <:+: r := by
  induction u with
  | nil => rw [List.nil_append, List.infix_cons_iff, List.cons_prefix_cons, and_iff_right rfl]
  | cons d u ih =>
    have hne : c ≠ d := fun h => hu (h ▸ List.mem_cons_self)
    rw [List.cons_append, List.infix_cons_iff, List.cons_prefix_cons, ih fun h => hu (List.mem_cons_of_mem d h)]
    exact or_iff_right fun h => hne h.1

theorem infix_path {w rest : List Char} (hw : '/' ∉ w) (hrest : '/' ∉ rest) :
    '/' :: (w ++ "-v".toList) <:+: "/run/sbegw/dhclient/".toList ++ rest ↔ w ++ "-v".toList <+: rest := by
  have hs : '/' ∉ w ++ "-v".toList := by
    rw [List.mem_append, not_or]
    exact ⟨hw, by decide⟩
  have hpart : ∀ u r : List Char, '-' ∉ u → ¬ w ++ "-v".toList <+: u ++ '/' :: r := fun u r hu hpre =>
    hu (((prefix_append_cons hs).mp hpre).subset (List.mem_append_right w (by decide)))
  have hpath : "/run/sbegw/dhclient/".toList ++ rest =
      [] ++ '/' :: ("run".toList ++ '/' :: ("sbegw".toList ++ '/' :: ("dhclient".toList ++ '/' :: rest))) := rfl
  have hnot : ¬ '/' :: (w ++ "-v".toList) <:+: rest := fun h => hrest (h.subset List.mem_cons_self)
  rw [hpath, infix_slash (by decide), infix_slash (by decide), infix_slash (by decide), infix_slash (by decide)]
  simp only [hpart "run".toList _ (by decide), hpart "sbegw".toList _ (by decide),
    hpart "dhclient".toList _ (by decide), hnot, false_or, or_false]

theorem prefix_version {z : List Char} (hz : '-' ∉ z) : ∀ {a b : List Char},
    a ++ ['-', 'v'] <+: b ++ (['-', 'v'] ++ z) → a = b ∨ a ++ ['-', 'v'] <+: b
  | [], [], _ => .inl rfl
  | c :: a, [], h => by
    obtain ⟨-, hrest⟩ := List.cons_prefix_cons.mp h
    have hmem : '-' ∈ 'v' :: z := hrest.subset (List.mem_append_right a List.mem_cons_self)
    rcases List.mem_cons.mp hmem with h | h
    · exact absurd h (by decide)
    · exact absurd h hz
  | [], c :: b, h => by
    obtain ⟨rfl, hrest⟩ := List.cons_prefix_cons.mp h
    cases b with
    | nil => exact absurd (List.cons_prefix_cons.mp hrest).1 (by decide)
    | cons d b =>
      obtain ⟨rfl, -⟩ := List.cons_prefix_cons.mp hrest
      exact .inr ⟨b, rfl⟩
  | c :: a, d :: b, h => by
    obtain ⟨rfl, hrest⟩ := List.cons_prefix_cons.mp h
    rcases prefix_version hz hrest with hab | hab
    · exact .inl (congrArg _ hab)
    · exact .inr (List.cons_prefix_cons.mpr ⟨rfl, hab⟩)

section Tags

variable {t : HostTools} {wid other x : String} {f : Lease}

theorem pidfileOf_toList (wid : String) (f : Lease) : (pidfileOf wid f).toList =
    "/run/sbegw/dhclient/".toList ++ (wid.toList ++ ("-v".toList ++ (f.digit.toList ++ ".pid".toList))) := by
  simp [pidfileOf, dhclientDir]

theorem leaseFileOf_toList (wid : String) (f : Lease) : (leaseFileOf wid f).toList =
    "/run/sbegw/dhclient/".toList ++ (wid.toList ++ ("-v".toList ++ (f.digit.toList ++ ".leases".toList))) := by
  simp [leaseFileOf, dhclientDir]

theorem infix_basename (path : String) : (basename path).toList <:+: path.toList := by
  have h : (path.toList.reverse.takeWhile (· != '/')).reverse <:+ path.toList := by
    rw [← List.reverse_prefix, List.reverse_reverse]
    exact List.takeWhile_prefix _
  unfold basename
  rw [String.toList_ofList]
  exact h.isInfix

theorem getLast?_argv : (dhclientArgv t wid f x).getLast? = some x := rfl

theorem isInfixOf_dhclient (t : HostTools) : isInfixOf "dhclient" t.dhclient = true := by
  rw [isInfixOf_iff, ← t.named]
  exact infix_basename t.dhclient

/-- A client is seen to be of the WAN that it was started for. -/
theorem clientIface_argv (hx : PlainName x) : clientIface wid (dhclientArgv t wid f x) = some x := by
  have htag : (dhclientArgv t wid f x).any (isInfixOf ("/" ++ wid ++ "-v")) = true := by
    refine List.any_eq_true.mpr ⟨pidfileOf wid f, by simp [dhclientArgv], isInfixOf_iff.mpr ?_⟩
    refine ⟨dhclientDir.toList, f.digit.toList ++ ".pid".toList, ?_⟩
    simp [pidfileOf, dhclientDir]
  show (if (isInfixOf "dhclient" t.dhclient && _) = true then _ else _) = _
  rw [isInfixOf_dhclient, htag, getLast?_argv]
  simp [hx.2.1]

/-- A WAN that a client does not belong to takes it for its own only if the names are tangled. -/
theorem clientIface_other (hwid : PlainId wid) (hother : PlainId other) (hx : PlainName x) (hne : wid ≠ other)
    (htangled : ¬ Tangled wid other) : clientIface wid (dhclientArgv t other f x) = none := by
  have htext : ("/" ++ wid ++ "-v").toList = '/' :: (wid.toList ++ "-v".toList) := by simp
  have hfree : ∀ s : String, '/' ∉ s.toList → isInfixOf ("/" ++ wid ++ "-v") s = false := by
    intro s hs
    rw [Bool.eq_false_iff, Ne, isInfixOf_iff, htext]
    exact fun h => hs (h.subset List.mem_cons_self)
  have hdhclient : isInfixOf ("/" ++ wid ++ "-v") t.dhclient = false := by
    rw [Bool.eq_false_iff, Ne, isInfixOf_iff, htext]
    exact fun h => t.plain (((List.suffix_append ('/' :: wid.toList) "-v".toList).isInfix).trans h)
  have hpath : ∀ ext : List Char, '/' ∉ ext → '-' ∉ ext → ¬ '/' :: (wid.toList ++ "-v".toList) <:+:
      "/run/sbegw/dhclient/".toList ++ (other.toList ++ ("-v".toList ++ (f.digit.toList ++ ext))) := by
    intro ext hslash hdash hinfix
    have hdigit : '/' ∉ f.digit.toList ∧ '-' ∉ f.digit.toList := by cases f <;> decide
    have hrest : '/' ∉ other.toList ++ ("-v".toList ++ (f.digit.toList ++ ext)) := by
      simp only [List.mem_append, not_or]
      exact ⟨hother, by decide, hdigit.1, hslash⟩
    have hz : '-' ∉ f.digit.toList ++ ext := by
      rw [List.mem_append, not_or]
      exact ⟨hdigit.2, hdash⟩
    rcases prefix_version hz ((infix_path hwid hrest).mp hinfix) with h | h
    · exact hne (String.toList_inj.mp h)
    · exact htangled (by rwa [Tangled, String.toList_append])
  have hpid : isInfixOf ("/" ++ wid ++ "-v") (pidfileOf other f) = false := by
    rw [Bool.eq_false_iff, Ne, isInfixOf_iff, htext, pidfileOf_toList]
    exact hpath _ (by decide) (by decide)
  have hleases : isInfixOf ("/" ++ wid ++ "-v") (leaseFileOf other f) = false := by
    rw [Bool.eq_false_iff, Ne, isInfixOf_iff, htext, leaseFileOf_toList]
    exact hpath _ (by decide) (by decide)
  have hdigit : isInfixOf ("/" ++ wid ++ "-v") ("-" ++ f.digit) = false := hfree _ (by cases f <;> decide)
  have htag : (dhclientArgv t other f x).any (isInfixOf ("/" ++ wid ++ "-v")) = false := by
    unfold dhclientArgv
    simp only [List.any_cons, List.any_nil, hdhclient, hpid, hleases, hdigit, hfree x hx.1,
      hfree "-nw" (by decide), hfree "-pf" (by decide), hfree "-lf" (by decide), Bool.or_false]
  show (if (isInfixOf "dhclient" t.dhclient && _) = true then _ else _) = _
  rw [htag, Bool.and_false]
  rfl

/-- Pid files tell the WANs and the families apart. -/
theorem pidfileOf_inj {g : Lease} (h : pidfileOf wid f = pidfileOf other g) : wid = other ∧ f = g := by
  have hlist := congrArg String.toList h
  rw [pidfileOf_toList, pidfileOf_toList, List.append_cancel_left_eq, ← List.append_assoc, ← List.append_assoc,
    ← List.append_assoc, ← List.append_assoc, List.append_cancel_right_eq] at hlist
  have hlen : f.digit.toList.length = g.digit.toList.length := by cases f <;> cases g <;> rfl
  obtain ⟨hwid, hdigit⟩ := List.append_inj' hlist hlen
  rw [List.append_cancel_right_eq] at hwid
  refine ⟨String.toList_inj.mp hwid, ?_⟩
  cases f <;> cases g
  · rfl
  · exact absurd hdigit (by decide)
  · exact absurd hdigit (by decide)
  · rfl

end Tags

end Sbegw.Netd
