import Sbegw.Configd.Failure
import Sbegw.Configd.Staged

/-!
# Nothing left to commit

A store is clean when its candidate has no changes and `running.json` is the running configuration.  A change that is
committed leaves it so; a change that is refused does where the caller discards the candidate, as long as storage works
and the commit finds nothing wrong that `stage` has let through.
-/

namespace Sbegw.Configd

open Schema

/-- The candidate has no changes, and what runs is on disk. -/
structure Docs.Clean (ds : Docs) : Prop where
  candidate : changesOf ds.running ds.candidate = []
  disk : ds.disk = some ds.running

/-- The store is clean. -/
def Store.Clean (s : Store) : Prop := s.docs.Clean

theorem Store.Clean.of_docs {s t : Store} (h : s.Clean) (hdocs : t.docs = s.docs) : t.Clean := by
  unfold Store.Clean
  rw [hdocs]
  exact h

theorem clean_restart {s : Store} (h : ∀ cfg, s.disk = some cfg → migrate cfg = cfg) : s.restart.Clean := by
  refine ⟨changesOf_self _, ?_⟩
  unfold Store.restart Store.docs
  cases hd : s.disk with
  | none => rfl
  | some cfg => exact congrArg some (h cfg hd).symm

/-- What the change makes of the document is committed as it is staged: no port is given twice, and no DNS name keeps a
line break. -/
def Sound (d : Draft) (cfg : Obj) : Prop :=
  ∀ trial, d.mutate cfg = .ok trial →
    (Dict.keys (portsOf trial)).Nodup ∧ ∀ s ∈ dnsNames (dnsOf trial), ¬ EndsLine (dnsName s)

instance (d : Draft) (cfg : Obj) : Decidable (Sound d cfg) :=
  decidable_of_iff (∀ trial ∈ (d.mutate cfg).toOption,
    (Dict.keys (portsOf trial)).Nodup ∧ ∀ s ∈ dnsNames (dnsOf trial), ¬ EndsLine (dnsName s)) <| by
    unfold Sound
    cases d.mutate cfg with
    | error e => simp [Except.toOption]
    | ok trial => simp [Except.toOption]

/-- The documents after a guarded change, and whether it was taken. -/
inductive Guarded (env : Env) (d : Draft) (s : Store) : Bool → Docs → Prop
  /-- the change does not apply, or does not validate -/
  | refused : Guarded env d s false s.docs
  /-- the commit is refused -/
  | discarded : Guarded env d s false ⟨s.running, s.running, s.disk⟩
  /-- an applier or a health check fails -/
  | restored : Guarded env d s false ⟨s.running, s.running, some s.running⟩
  /-- there is nothing to commit -/
  | idle {t : Obj} (h : Stages env d s t) (hc : changesOf s.running t = []) :
      Guarded env d s true ⟨s.running, t, s.disk⟩
  | installed {t : Obj} (h : Stages env d s t) : Guarded env d s true ⟨t, t, some t⟩

section

variable {env : Env} {args : CommitArgs} {d : Draft} {s t : Store} {ds : Docs} {txid : String} {taken : Bool}

theorem CommitSettles.clean (h : CommitSettles env args s ds) (hdisk : s.disk = some s.running) : ds.Clean := by
  cases h with
  | idle _ hc _ => exact ⟨hc, hdisk⟩
  | installed _ _ _ _ => exact ⟨changesOf_self _, rfl⟩

/-- A commit that returns leaves nothing. -/
theorem clean_of_commit {r : CommitReturn} (h : commit env args txid s = (.ok r, t))
    (hdisk : s.disk = some s.running) : t.Clean := by
  rcases commit_ends false env args s with ⟨ds, hds⟩ | ⟨ds, hds⟩
  · obtain ⟨r', u, hu, hdocs, -⟩ := @commit_settles env args txid s ds hds
    obtain ⟨-, rfl⟩ := Prod.mk.inj (hu.symm.trans h)
    unfold Store.Clean
    rw [hdocs]
    exact hds.clean hdisk
  · obtain ⟨e, u, hu, -⟩ := @commit_fails env args txid s false ds hds
    cases (Prod.mk.inj (hu.symm.trans h)).1

/-- Nor does a change that returns. -/
theorem clean_of_submit {r : CommitReturn × List String} (h : submit env txid d s = (.ok r, t))
    (hdisk : s.disk = some s.running) : t.Clean := by
  unfold submit at h
  rcases stage_cases env d s with ⟨-, e, he⟩ | ⟨u, -, ⟨-, he⟩ | ⟨-, warnings, hw⟩⟩
  · simp [he] at h
  · simp [he] at h
  · rw [hw] at h
    dsimp only at h
    cases hc : commit env d.args txid (s.staged u) with
    | mk x v =>
      rw [hc] at h
      cases x with
      | error e => cases h
      | ok c =>
        obtain ⟨-, rfl⟩ := Prod.mk.inj h
        exact clean_of_commit hc hdisk

/-- A commit of a clean candidate changes no document. -/
theorem docs_commit_clean (hc : changesOf s.running s.candidate = []) (hf : args.force = false) :
    (commit env args txid s).2.docs = s.docs := by
  unfold commit
  cases s.pending with
  | some p => rfl
  | none =>
    dsimp only
    rw [if_pos (by simp [hc, hf])]

/-- What is staged is what the commit validates. -/
theorem Sound.again (hd : Sound d s.candidate) {u : Obj} (h : Stages env d s u) :
    ∃ w, validate env.capabilities u = .ok (u, w) := by
  obtain ⟨trial, warnings, hm, hv⟩ := h
  obtain ⟨hports, hnames⟩ := hd trial hm
  exact (validate_again_iff hports hv).mpr hnames

theorem Guarded.of_settles (hd : Sound d s.candidate) {u : Obj} (hu : Stages env d s u)
    (h : CommitSettles env d.args (s.staged u) ds) : Guarded env d s true ds := by
  cases h with
  | idle _ hc _ => exact .idle hu hc
  | @installed new happ _ _ _ =>
    obtain ⟨w, hagain⟩ := hd.again hu
    obtain ⟨w', hv⟩ := happ.valid
    obtain rfl : u = new := (Prod.mk.inj (Except.ok.inj (hagain.symm.trans hv))).1
    exact .installed hu

theorem Guarded.of_fails (hf : env.faults = Faults.none) (hd : Sound d s.candidate) {u : Obj}
    (hu : Stages env d s u) (h : CommitFails true env d.args (s.staged u) ds) : Guarded env d s false ds := by
  have hrefused : ∀ v : Store, refusedCandidate true env v = v.running := by
    intro v
    unfold refusedCandidate
    rw [hf]
    rfl
  cases h with
  | locked _ => exact .discarded
  | invalid _ _ _ =>
    rw [hrefused]
    exact .discarded
  | broken _ _ hv _ =>
    obtain ⟨w, hagain⟩ := hd.again hu
    cases hagain.symm.trans hv
  | preflight _ _ _ _ =>
    rw [hrefused]
    exact .discarded
  | checkpoint _ _ _ _ hfault =>
    rw [hf] at hfault
    cases hfault
  | backedOut _ _ =>
    unfold restoredDisk
    rw [hf]
    exact .restored
  | unwritten _ _ hw =>
    refine absurd (Or.inl ?_) hw
    rw [hf]
    rfl
  | unrecorded _ _ _ hr =>
    refine absurd ⟨Or.inr ?_, ?_⟩ hr
    · rw [hf]
      rfl
    · rw [hf]
      rfl

theorem Guarded.failed (h : Guarded env d s false ds) : ds.running = s.running := by
  cases h with
  | refused => rfl
  | discarded => rfl
  | restored => rfl

theorem Guarded.done (h : Guarded env d s true ds) : ∃ t, Stages env d s t ∧ changesOf ds.running t = [] ∧
    (ds.running = t ∨ ds.running = s.running) := by
  cases h with
  | @idle t ht hc => exact ⟨t, ht, hc, .inr rfl⟩
  | @installed t ht => exact ⟨t, ht, changesOf_self t, .inl rfl⟩

/-- Either way a clean store stays clean. -/
theorem Guarded.clean (h : Guarded env d s taken ds) (hs : s.Clean) : ds.Clean := by
  cases h with
  | refused => exact hs
  | discarded => exact ⟨changesOf_self _, hs.disk⟩
  | restored => exact ⟨changesOf_self _, rfl⟩
  | idle _ hc => exact ⟨hc, hs.disk⟩
  | installed _ => exact ⟨changesOf_self _, rfl⟩

end

end Sbegw.Configd
