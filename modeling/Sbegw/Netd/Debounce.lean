import Sbegw.Netd.Wans
import Sbegw.Lib.Debounce

/-!
# WAN events

The candidate that `probe` counts is always the state it saw last, so the count starts again with
every change and no change ever settles.
-/

namespace Sbegw.Netd

/-! ### The reference -/

/-- `debounce` of the tests: `pending` is the candidate with its count. -/
def testDebounce {α : Type} [DecidableEq α] (previous : α) (pending : Option (α × ℕ)) :
    List α → List α
  | [] => []
  | observed :: rest =>
    let candidate := pending.getD (observed, 0)
    let count := if candidate.1 = observed then candidate.2 + 1 else 1
    if previous ≠ observed ∧ 2 ≤ count then
      observed :: testDebounce observed (some (observed, count)) rest
    else testDebounce previous (some (observed, count)) rest

/-- The debouncer of the tests is the reference, from its second observation on. -/
theorem testDebounce_eq_reportFrom {α : Type} [DecidableEq α] (last prev : α) {n : ℕ} (hn : 1 ≤ n)
    (l : List α) : testDebounce last (some (prev, n)) l = Debounce.reportFrom last prev l := by
  induction l generalizing last prev n with
  | nil => rfl
  | cons a l ih =>
    rw [testDebounce, Debounce.reportFrom]
    simp only [Option.getD_some]
    by_cases hp : prev = a
    · subst hp
      have hcount : 2 ≤ n + 1 := by omega
      have hn' : 1 ≤ n + 1 := by omega
      by_cases hl : last = prev
      · subst hl
        simp [ih last last hn']
      · have hl' : prev ≠ last := Ne.symm hl
        simp [hl, hl', hcount, ih prev prev hn']
    · have hp' : a ≠ prev := Ne.symm hp
      simp [hp, hp', ih last a (le_refl 1)]

/-! ### Runs of probes -/

/-- One call of `probe`. -/
structure ProbeCall where
  up : Uplinks
  now : ℚ
  cfg : Obj

/-- The results and the events of the calls, one after the other. -/
def WanManager.probes : WanManager → List ProbeCall → List (Dict String (Option Reading)) × List WanEvent
  | _, [] => ([], [])
  | m, c :: calls =>
    let (results, events, m) := m.probe c.up c.now c.cfg
    let (more, later) := m.probes calls
    (results :: more, events ++ later)

/-- The states in which the calls find a WAN: nothing where it is gone, disabled or not reached. -/
def observed (wid : String) (results : List (Dict String (Option Reading))) : List WanState :=
  results.filterMap fun r => ((Dict.lookup wid r).join).map Reading.state

/-- The states that the events of a WAN tell. -/
def emitted (wid : String) (events : List WanEvent) : List WanState :=
  (events.filter fun e => e.wan = wid).map WanEvent.state

/-! ### The candidate is the state seen last -/

def InStep (m : WanManager) : Prop :=
  ∀ wid, (Dict.lookup wid m.pending).map Prod.fst = Dict.lookup wid m.last

theorem inStep_init : InStep WanManager.init := fun _ => rfl

theorem inStep_note {m : WanManager} (h : InStep m) (t : ℚ) (wid : String) (wan : Json) (r : Reading) :
    InStep (note t wid wan r m).1 := by
  intro w
  simp only [note, Dict.lookup_set]
  split
  · rfl
  · exact h w

/-- **A change never settles**: the poll that sees it starts the count again. -/
theorem note_quiet {m : WanManager} (h : InStep m) (t : ℚ) (wid : String) (wan : Json) (r : Reading) :
    (note t wid wan r m).2 = [] := by
  have hw := h wid
  simp only [note]
  rw [if_neg]
  rintro ⟨hsome, hchange, hsettled⟩
  obtain ⟨s, hs⟩ := Option.ne_none_iff_exists'.mp hsome
  rw [hs] at hw hchange hsettled
  obtain ⟨⟨candidate, n⟩, hp, rfl⟩ := Option.map_eq_some_iff.mp hw
  have hne : candidate ≠ r.state := fun heq => hchange (congrArg some heq)
  rw [hp, Option.getD_some, if_neg hne] at hsettled
  rcases hsettled with hcount | hnone
  · omega
  · exact absurd hnone (Option.some_ne_none _)

theorem probeAll_quiet (up : Uplinks) (t : ℚ) (cfg : Obj) : ∀ (wans : Obj) {m : WanManager}, InStep m →
    (probeAll up t cfg wans m).2.1 = [] ∧ InStep (probeAll up t cfg wans m).2.2
  | [], _, h => ⟨rfl, h⟩
  | (wid, wan) :: rest, m, h => by
    rw [probeAll]
    split
    · split
      · exact ⟨rfl, h⟩
      · next r _ =>
        obtain ⟨hev, hstep⟩ := probeAll_quiet up t cfg rest (inStep_note h t wid wan r)
        refine ⟨?_, hstep⟩
        show (note t wid wan r m).2 ++ _ = []
        rw [note_quiet h, hev, List.append_nil]
    · exact probeAll_quiet up t cfg rest h

/-- `probe` emits no event, ever. -/
theorem probes_quiet (calls : List ProbeCall) {m : WanManager} (h : InStep m) :
    (m.probes calls).2 = [] := by
  induction calls generalizing m with
  | nil => rfl
  | cons c calls ih =>
    obtain ⟨hev, hstep⟩ := probeAll_quiet c.up c.now c.cfg (sectionOf c.cfg "wans") h
    show (m.probe c.up c.now c.cfg).2.1 ++ _ = []
    rw [ih hstep, List.append_nil]
    exact hev

/-! ### Against the reference -/

/-- **WAN events**: for every WAN and every sequence of probes, the events are those of the reference
exactly when no state but the first is ever observed twice running. -/
theorem events_eq_reference_iff (calls : List ProbeCall) (wid : String) :
    emitted wid (WanManager.init.probes calls).2 =
        Debounce.report (observed wid (WanManager.init.probes calls).1) ↔
      Debounce.OnlyFlaps (observed wid (WanManager.init.probes calls).1) := by
  rw [probes_quiet calls inStep_init, ← Debounce.report_eq_nil_iff]
  exact eq_comm

/-- A call under the default configuration; the link of the WAN is up or down. -/
def defaultProbe (link : Bool) : ProbeCall :=
  ⟨⟨fun _ => link, fun _ => ["192.0.2.7/24"], fun _ => some "192.0.2.1",
    fun _ _ => .ok (some 12, some 0), fun _ _ => .ok none⟩, 0, Schema.defaultEntries⟩

/-- An outage that lasts and the recovery from it: neither is reported. -/
theorem outage_unreported : ∃ (calls : List ProbeCall) (wid : String),
    emitted wid (WanManager.init.probes calls).2 ≠
      Debounce.report (observed wid (WanManager.init.probes calls).1) := by
  refine ⟨[true, true, false, false, true, true].map defaultProbe, "wan1", ?_⟩
  rw [probes_quiet _ inStep_init]
  have hobs : observed "wan1" (WanManager.init.probes
      ([true, true, false, false, true, true].map defaultProbe)).1 =
        [.up, .up, .linkDown, .linkDown, .up, .up] := by decide
  rw [hobs]
  decide

end Sbegw.Netd
