import Sbegw.Edit
import Sbegw.Lib.Run
import Sbegw.Lib.Text

/-!
# The dnsmasq service

`ServiceManager.apply` and `ensure_running`, for any renderer.  The tests, the launches and the disk
answer as they like.

The file is overwritten before it is tested, so a rejected rendering is what the next start loads, and
what a retry takes for unchanged.  As long as no rejected rendering is written, the file has passed
its test and the running daemon has loaded it.
-/

namespace Sbegw.Netd

open Machine Text

/-! ### The service -/

/-- What there is of dnsmasq between two calls. -/
structure Dnsmasq where
  /-- the text of `DNSMASQ_CONF` -/
  conf : Option String
  /-- what the process named by `DNSMASQ_PID` has loaded, while it lives -/
  daemon : Option String
  lastError : Option String

/-- After a boot. -/
def Dnsmasq.init : Dnsmasq := ⟨none, none, none⟩

/-- What `dnsmasq --test` comes to. -/
inductive Verdict where
  | accepted
  /-- `ToolError` -/
  | rejected (stderr : String)
  /-- a time-out, or any other exception -/
  | broken (exc : Exn)

/-- What starting dnsmasq comes to. -/
inductive Launch where
  /-- `OSError` or a time-out -/
  | unlaunched (exc : String)
  | failed (code : ℤ) (stderr : String)
  | started (stderr : String)

/-- How the machine answers during one call. -/
structure Tools where
  /-- what writing the file raises -/
  disk : Option Exn
  /-- `which("dnsmasq")` is there -/
  installed : Bool
  verdict : Verdict
  /-- the old process outlives the wait after `SIGTERM` -/
  lingers : Bool
  launch : Launch
  /-- the new process is seen running -/
  stays : Bool

/-- `write_atomic(path, data)`: the file it leaves, and whether it changed. -/
def writeAtomic (disk : Option Exn) (data : String) (file : Option String) :
    Except Exn (Bool × Option String) :=
  if file = some data then .ok (false, file)
  else match disk with
    | some e => .error e
    | none => .ok (true, some data)

/-- `_running` -/
def Dnsmasq.running (w : Dnsmasq) : Bool := w.daemon.isSome

/-- `x or y` of two strings. -/
def orText (x y : String) : String := if x = "" then y else x

/-- The hint about a launching unit without the capabilities to drop privileges. -/
def privilegeHint (stderr : String) : String :=
  if isInfixOf "change group-id" stderr || isInfixOf "change user-id" stderr then
    " — the service's CapabilityBoundingSet is missing CAP_SETGID/CAP_SETUID, which dnsmasq needs to " ++
      "drop privileges"
  else ""

/-- `_restart` -/
def Dnsmasq.restart (env : Tools) (w : Dnsmasq) : (Bool × String) × Dnsmasq :=
  let left := if env.lingers then w.daemon else none
  match env.launch with
  | .unlaunched exc =>
    ((false, "dnsmasq could not be launched: " ++ exc), { w with daemon := left, lastError := some exc })
  | .failed code stderr =>
    let error := orText (strip stderr) ("exit " ++ ofInt code)
    ((false, "dnsmasq exited " ++ ofInt code ++ ": " ++ error ++ privilegeHint stderr),
      { w with daemon := left, lastError := some error })
  | .started stderr =>
    let stderr := strip stderr
    if env.stays then
      ((true, "dnsmasq started" ++ if stderr = "" then "" else " (warnings: " ++ stderr ++ ")"),
        { w with daemon := w.conf, lastError := none })
    else
      let error := orText stderr "process vanished after starting"
      ((false, "dnsmasq did not stay running: " ++ error), { w with daemon := none, lastError := some error })

/-- What `apply` reports. -/
inductive Report where
  | notInstalled
  | rejected (stderr : String)
  | unchanged
  | restarted (ok : Bool) (detail : String)

/-- The messages of a report. -/
def Report.messages : Report → List String
  | .notInstalled => ["dnsmasq is not installed; DHCP and DNS are unavailable"]
  | .rejected stderr => ["dnsmasq config rejected, keeping previous: " ++ stderr]
  | .unchanged => []
  | .restarted _ detail => [detail]

variable (render : Obj → String)

/-- `ServiceManager.apply` -/
def Dnsmasq.apply (env : Tools) (cfg : Obj) (w : Dnsmasq) : Except Exn Report × Dnsmasq :=
  match writeAtomic env.disk (render cfg) w.conf with
  | .error e => (.error e, w)
  | .ok (changed, file) =>
    let w := { w with conf := file }
    if !env.installed then
      (.ok .notInstalled, { w with lastError := some "dnsmasq is not installed" })
    else match env.verdict with
      | .rejected stderr =>
        (.ok (.rejected stderr), { w with lastError := some ("config rejected: " ++ stderr) })
      | .broken e => (.error e, w)
      | .accepted =>
        if changed || !w.running then
          let r := w.restart env
          (.ok (.restarted r.1.1 r.1.2), r.2)
        else (.ok .unchanged, w)

/-- `ServiceManager.ensure_running` -/
def Dnsmasq.ensureRunning (env : Tools) (w : Dnsmasq) : (Bool × String) × Dnsmasq :=
  if !env.installed then ((false, "dnsmasq is not installed"), w)
  else if w.running then ((true, "running"), w)
  else w.restart env

/-! ### Runs -/

inductive ServiceCall where
  | apply (env : Tools) (cfg : Obj)
  | ensureRunning (env : Tools)
  /-- the daemon dies -/
  | dies

inductive ServiceAnswer where
  | applied (report : Except Exn Report)
  | ensured (ok : Bool) (detail : String)
  | died

def serviceStep (w : Dnsmasq) : ServiceCall → Option (ServiceAnswer × Dnsmasq)
  | .apply env cfg => some (.applied (w.apply render env cfg).1, (w.apply render env cfg).2)
  | .ensureRunning env => some (.ensured (w.ensureRunning env).1.1 (w.ensureRunning env).1.2,
      (w.ensureRunning env).2)
  | .dies => some (.died, { w with daemon := none })

abbrev ServiceTrail := List (Step Dnsmasq ServiceCall ServiceAnswer)

/-- The rendering that a step has tested and found good. -/
def acceptedBy (x : Step Dnsmasq ServiceCall ServiceAnswer) : Option String :=
  match x.act, x.out with
  | .apply _ cfg, .applied (.ok .unchanged) => some (render cfg)
  | .apply _ cfg, .applied (.ok (.restarted _ _)) => some (render cfg)
  | _, _ => none

/-- A rendering that has passed the test. -/
def Passed (l : ServiceTrail) (body : String) : Prop := ∃ x ∈ l, acceptedBy render x = some body

/-- What (re)starting loads is a rendering that passed the test. -/
def LoadsPassed (l : ServiceTrail) (w : Dnsmasq) : Prop := ∀ body, w.conf = some body → Passed render l body

/-- A step keeps its word: a rejected rendering leaves what is in use as it was, and an apply without
an error leaves its own rendering running. -/
def KeepsWord (x : Step Dnsmasq ServiceCall ServiceAnswer) : Prop :=
  match x.act, x.out with
  | .apply _ _, .applied (.ok (.rejected _)) => x.post.conf = x.pre.conf ∧ x.post.daemon = x.pre.daemon
  | .apply _ cfg, .applied (.ok .unchanged) => x.post.daemon = some (render cfg)
  | .apply _ cfg, .applied (.ok (.restarted true _)) => x.post.daemon = some (render cfg)
  | _, _ => True

/-- The condition on a step: a rendering that changes the file passes the test, and no launch fails
behind a daemon that outlives its `SIGTERM`. -/
def Orderly (w : Dnsmasq) : ServiceCall → Prop
  | .apply env cfg =>
    (w.conf ≠ some (render cfg) → env.disk = none → env.installed = true ∧ env.verdict = .accepted) ∧
      (env.lingers = true → ∃ stderr, env.launch = .started stderr)
  | .ensureRunning env => env.lingers = true → ∃ stderr, env.launch = .started stderr
  | .dies => True

/-! ### What a step does -/

variable {render}

/-- A restart leaves the file alone. -/
@[simp] theorem restart_conf (env : Tools) (w : Dnsmasq) : (w.restart env).2.conf = w.conf := by
  unfold Dnsmasq.restart
  cases env.launch with
  | unlaunched exc => rfl
  | failed code stderr => rfl
  | started stderr =>
    simp only
    split
    · rfl
    · rfl

/-- After an orderly restart what runs, if anything, has loaded the file. -/
theorem restart_daemon {env : Tools} (henv : env.lingers = true → ∃ stderr, env.launch = .started stderr)
    (w : Dnsmasq) {body : String} (h : (w.restart env).2.daemon = some body) : w.conf = some body := by
  unfold Dnsmasq.restart at h
  cases hl : env.launch with
  | unlaunched exc =>
    have hgone : env.lingers = false := by
      by_contra hling
      obtain ⟨stderr, hs⟩ := henv (by simpa using hling)
      rw [hl] at hs
      exact Launch.noConfusion hs
    simp [hl, hgone] at h
  | failed code stderr =>
    have hgone : env.lingers = false := by
      by_contra hling
      obtain ⟨stderr, hs⟩ := henv (by simpa using hling)
      rw [hl] at hs
      exact Launch.noConfusion hs
    simp [hl, hgone] at h
  | started stderr =>
    simp only [hl] at h
    split at h
    · exact h
    · simp at h

/-- A restart that reports success has loaded the file. -/
theorem restart_ok {env : Tools} {w : Dnsmasq} (h : (w.restart env).1.1 = true) :
    (w.restart env).2.daemon = w.conf := by
  unfold Dnsmasq.restart at h ⊢
  cases hl : env.launch with
  | unlaunched exc => simp [hl] at h
  | failed code stderr => simp [hl] at h
  | started stderr =>
    simp only [hl] at h ⊢
    by_cases hs : env.stays = true
    · rw [if_pos hs]
    · rw [if_neg hs] at h
      simp at h

theorem writeAtomic_eq_ok {disk : Option Exn} {data : String} {file file' : Option String} {changed : Bool}
    (h : writeAtomic disk data file = .ok (changed, file')) : file' = some data ∧
      (changed = false ↔ file = some data) ∧ (file ≠ some data → disk = none) := by
  unfold writeAtomic at h
  split at h
  · next heq =>
    obtain ⟨rfl, rfl⟩ := Prod.mk.inj (Except.ok.inj h)
    exact ⟨heq, by simp [heq], fun hne => absurd heq hne⟩
  · next hne =>
    split at h
    · exact absurd h (by simp)
    · obtain ⟨rfl, rfl⟩ := Prod.mk.inj (Except.ok.inj h)
      exact ⟨rfl, by simp [hne], fun _ => rfl⟩

/-- The daemon that runs has loaded the file. -/
def InUse (w : Dnsmasq) : Prop := ∀ body, w.daemon = some body → w.conf = some body

theorem passed_append {l : ServiceTrail} {body : String} (h : Passed render l body)
    (x : Step Dnsmasq ServiceCall ServiceAnswer) : Passed render (l ++ [x]) body := by
  obtain ⟨y, hy, hacc⟩ := h
  exact ⟨y, List.mem_append_left _ hy, hacc⟩

theorem passed_last {l : ServiceTrail} {body : String} {x : Step Dnsmasq ServiceCall ServiceAnswer}
    (h : acceptedBy render x = some body) : Passed render (l ++ [x]) body :=
  ⟨x, List.mem_append_right _ (List.mem_singleton_self x), h⟩

variable (render) in
/-- The invariant: the file has passed its test, what runs has loaded it, and every step has kept its
word. -/
structure Tested (l : ServiceTrail) (w : Dnsmasq) : Prop where
  passed : LoadsPassed render l w
  inUse : InUse w
  word : ∀ x ∈ l, KeepsWord render x

theorem Tested.frame {l : ServiceTrail} {w v : Dnsmasq} (h : Tested render l w) {a : ServiceCall}
    {o : ServiceAnswer} (hconf : v.conf = w.conf) (hdaemon : ∀ body, v.daemon = some body → w.conf = some body)
    (hword : KeepsWord render ⟨w, a, o, v⟩) : Tested render (l ++ [⟨w, a, o, v⟩]) v where
  passed := fun body hb => passed_append (h.passed body (hconf ▸ hb)) _
  inUse := fun body hb => hconf ▸ hdaemon body hb
  word := by
    intro x hx
    rcases List.mem_append.mp hx with hx | hx
    · exact h.word x hx
    · rw [List.mem_singleton.mp hx]
      exact hword

/-- An apply whose test accepts: the file holds its rendering, tested. -/
theorem Tested.accept {l : ServiceTrail} {w v : Dnsmasq} (h : Tested render l w) {a : ServiceCall}
    {o : ServiceAnswer} {body : String} (hacc : acceptedBy render ⟨w, a, o, v⟩ = some body)
    (hconf : v.conf = some body) (hdaemon : ∀ b, v.daemon = some b → b = body)
    (hword : KeepsWord render ⟨w, a, o, v⟩) : Tested render (l ++ [⟨w, a, o, v⟩]) v where
  passed := fun b hb => by
    have heq : b = body := by simpa [hconf, eq_comm] using hb
    rw [heq]
    exact passed_last hacc
  inUse := fun b hb => by rw [hconf, hdaemon b hb]
  word := by
    intro x hx
    rcases List.mem_append.mp hx with hx | hx
    · exact h.word x hx
    · rw [List.mem_singleton.mp hx]
      exact hword

/-- An apply that finds the file writable and its rendering not accepted leaves the daemon alone. -/
theorem apply_of_not_accepted {env : Tools} {cfg : Obj} {w : Dnsmasq} {changed : Bool}
    (hw : writeAtomic env.disk (render cfg) w.conf = .ok (changed, some (render cfg)))
    (hacc : ¬ (env.installed = true ∧ env.verdict = .accepted)) : ∃ o error,
      w.apply render env cfg = (o, { w with conf := some (render cfg), lastError := error }) ∧
        o ≠ .ok .unchanged ∧ ∀ ok detail, o ≠ .ok (.restarted ok detail) := by
  by_cases hinst : env.installed = true
  · cases hv : env.verdict with
    | accepted => exact absurd ⟨hinst, hv⟩ hacc
    | rejected stderr =>
      refine ⟨.ok (.rejected stderr), some ("config rejected: " ++ stderr), ?_, by simp, by simp⟩
      simp only [Dnsmasq.apply, hw, hinst, hv, Bool.not_true, Bool.false_eq_true, if_false]
    | broken e =>
      refine ⟨.error e, w.lastError, ?_, by simp, by simp⟩
      simp only [Dnsmasq.apply, hw, hinst, hv, Bool.not_true, Bool.false_eq_true, if_false]
  · refine ⟨.ok .notInstalled, some "dnsmasq is not installed", ?_, by simp, by simp⟩
    simp only [Dnsmasq.apply, hw, hinst, Bool.not_false, if_true]

/-- An apply whose rendering is accepted restarts, or finds what runs up to date. -/
theorem apply_of_accepted {env : Tools} {cfg : Obj} {w : Dnsmasq} {changed : Bool}
    (hw : writeAtomic env.disk (render cfg) w.conf = .ok (changed, some (render cfg)))
    (hinst : env.installed = true) (hver : env.verdict = .accepted) :
    let v : Dnsmasq := { w with conf := some (render cfg) }
    (changed = false ∧ w.running = true ∧ w.apply render env cfg = (.ok .unchanged, v)) ∨
      w.apply render env cfg = (.ok (.restarted (v.restart env).1.1 (v.restart env).1.2), (v.restart env).2) := by
  intro v
  have hrun : v.running = w.running := rfl
  by_cases hre : (changed || !v.running) = true
  · right
    simp only [Dnsmasq.apply, hw, hinst, hver]
    exact if_pos hre
  · left
    have hsame : changed = false ∧ w.running = true := by
      rw [hrun] at hre
      cases changed with
      | true => simp at hre
      | false => exact ⟨rfl, by simpa using hre⟩
    refine ⟨hsame.1, hsame.2, ?_⟩
    simp only [Dnsmasq.apply, hw, hinst, hver]
    exact if_neg hre

/-- **An apply keeps the invariant** under the condition. -/
theorem tested_apply {l : ServiceTrail} {w : Dnsmasq} (h : Tested render l w) {env : Tools}
    {cfg : Obj} (hok : Orderly render w (.apply env cfg)) :
    Tested render (l ++ [⟨w, .apply env cfg, .applied (w.apply render env cfg).1,
      (w.apply render env cfg).2⟩]) (w.apply render env cfg).2 := by
  obtain ⟨hchange, hlinger⟩ := hok
  cases hw : writeAtomic env.disk (render cfg) w.conf with
  | error e =>
    have heq : w.apply render env cfg = (.error e, w) := by simp only [Dnsmasq.apply, hw]
    rw [heq]
    exact h.frame rfl h.inUse trivial
  | ok r =>
    obtain ⟨changed, file⟩ := r
    obtain ⟨rfl, hch, hdisk⟩ := writeAtomic_eq_ok hw
    by_cases hacc : env.installed = true ∧ env.verdict = .accepted
    · rcases apply_of_accepted hw hacc.1 hacc.2 with ⟨hsame, hrun, heq⟩ | heq
      · have hfile : w.conf = some (render cfg) := hch.mp hsame
        obtain ⟨b, hb⟩ := Option.isSome_iff_exists.mp hrun
        have hbody : b = render cfg := by
          have hin := h.inUse b hb
          rw [hfile] at hin
          exact (Option.some.inj hin).symm
        have hdaemon : w.daemon = some (render cfg) := hbody ▸ hb
        rw [heq]
        refine h.accept (show _ = some (render cfg) from rfl) rfl (fun c hc => ?_) hdaemon
        exact (Option.some.inj (hdaemon.symm.trans hc)).symm
      · rw [heq]
        refine h.accept (show _ = some (render cfg) from rfl) (restart_conf env _) (fun b hb => ?_) ?_
        · have hfile := restart_daemon hlinger _ hb
          exact (Option.some.inj hfile).symm
        · cases hr : (Dnsmasq.restart env { w with conf := some (render cfg) }).1.1 with
          | false => trivial
          | true => exact restart_ok hr
    · -- not accepted: the file already held the rendering
      have hfile : w.conf = some (render cfg) := by
        by_contra hne
        exact hacc (hchange hne (hdisk hne))
      obtain ⟨o, error, heq, hun, hre⟩ := apply_of_not_accepted hw hacc
      rw [heq]
      refine h.frame hfile.symm h.inUse ?_
      cases o with
      | error e => trivial
      | ok report =>
        cases report with
        | notInstalled => trivial
        | rejected stderr => exact ⟨hfile.symm, rfl⟩
        | unchanged => exact absurd rfl hun
        | restarted ok detail => exact absurd rfl (hre ok detail)

theorem tested_ensureRunning {l : ServiceTrail} {w : Dnsmasq} (h : Tested render l w)
    {env : Tools} (hok : Orderly render w (.ensureRunning env)) :
    Tested render (l ++ [⟨w, .ensureRunning env, .ensured (w.ensureRunning env).1.1
      (w.ensureRunning env).1.2, (w.ensureRunning env).2⟩]) (w.ensureRunning env).2 := by
  unfold Dnsmasq.ensureRunning
  split
  · exact h.frame rfl h.inUse trivial
  · split
    · exact h.frame rfl h.inUse trivial
    · exact h.frame (restart_conf env w) (fun body hb => restart_daemon hok w hb) trivial

/-- **A rejected configuration never takes effect** in a run whose steps are orderly: the file has
passed its test, what runs has loaded it, and every step has kept its word. -/
theorem services_keep_tested (render : Obj → String) {l : ServiceTrail} {w : Dnsmasq}
    (h : Run (serviceStep render) Dnsmasq.init l w) (hok : ∀ x ∈ l, Orderly render x.pre x.act) :
    LoadsPassed render l w ∧ ∀ x ∈ l, KeepsWord render x := by
  have hinit : Tested render [] Dnsmasq.init :=
    ⟨fun _ hb => by simp [Dnsmasq.init] at hb, fun _ hb => by simp [Dnsmasq.init] at hb,
      fun _ hx => absurd hx List.not_mem_nil⟩
  have hrun : Tested render ([] ++ l) w := by
    refine h.history (Tested render) (fun _ x => Orderly render x.pre x.act)
      (fun k u a o v hI hs hP => ?_) [] hinit fun l₁ x l₂ hl => hok x (by simp [hl])
    cases a with
    | apply env cfg =>
      obtain ⟨rfl, rfl⟩ := Prod.mk.inj (Option.some.inj hs)
      exact tested_apply hI hP
    | ensureRunning env =>
      obtain ⟨rfl, rfl⟩ := Prod.mk.inj (Option.some.inj hs)
      exact tested_ensureRunning hI hP
    | dies =>
      obtain ⟨rfl, rfl⟩ := Prod.mk.inj (Option.some.inj hs)
      exact hI.frame rfl (fun _ hb => by simp at hb) trivial
  exact ⟨hrun.passed, hrun.word⟩

/-! ### One orderly run, and one with a rejected rendering -/

/-- The `cache-size` line of the rendering. -/
def cacheLine (cfg : Obj) : String :=
  "cache-size=" ++ match Dict.lookup "cache_size" cfg with
    | some (.int i) => ofInt i
    | _ => "4096"

/-- Everything works, and the test answers `v`. -/
def workingTools (v : Verdict) : Tools := ⟨none, true, v, false, .started "", true⟩

/-- An apply, a death and the restart after it. -/
def orderlyCalls : List ServiceCall :=
  [.apply (workingTools .accepted) [], .dies, .ensureRunning (workingTools .accepted)]

theorem services_keep_tested_restart : ∃ l w, Run (serviceStep cacheLine) Dnsmasq.init l w ∧
    w.daemon = some "cache-size=4096" ∧ LoadsPassed cacheLine l w ∧ ∀ x ∈ l, KeepsWord cacheLine x := by
  have hplay : play (serviceStep cacheLine) Dnsmasq.init orderlyCalls = some _ := rfl
  have hrun := Run.of_play orderlyCalls hplay
  refine ⟨_, _, hrun, rfl, services_keep_tested cacheLine hrun fun x hx => ?_⟩
  simp only [List.mem_cons, List.not_mem_nil, or_false] at hx
  rcases hx with rfl | rfl | rfl
  · exact ⟨fun _ _ => ⟨rfl, rfl⟩, fun h => Bool.noConfusion h⟩
  · trivial
  · exact fun h => Bool.noConfusion h

/-- A rejected rendering, a death and the restart after it. -/
def rejectedCalls : List ServiceCall :=
  [.apply (workingTools .accepted) [],
    .apply (workingTools (.rejected "bad option")) [("cache_size", .int (-1))],
    .dies, .ensureRunning (workingTools .accepted)]

/-- The restart loads the rendering that has been rejected. -/
theorem rejected_takes_effect : ∃ l w, Run (serviceStep cacheLine) Dnsmasq.init l w ∧
    w.daemon = some "cache-size=-1" ∧ ¬ Passed cacheLine l "cache-size=-1" := by
  have hplay : play (serviceStep cacheLine) Dnsmasq.init rejectedCalls = some _ := rfl
  refine ⟨_, _, Run.of_play rejectedCalls hplay, rfl, ?_⟩
  rintro ⟨x, hx, hacc⟩
  simp only [List.mem_cons, List.not_mem_nil, or_false] at hx
  rcases hx with rfl | rfl | rfl | rfl
  · exact absurd hacc (by decide)
  · exact absurd hacc (by decide)
  · exact absurd hacc (by decide)
  · exact absurd hacc (by decide)

end Sbegw.Netd
