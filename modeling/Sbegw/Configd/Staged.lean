import Sbegw.Schema.Idempotent
import Sbegw.Configd.Effect

/-!
# What is staged and what is committed

A commit validates the candidate once more, after the changes have been computed.  The document that runs in the
end is the one that was staged when this second run changes nothing.
-/

namespace Sbegw.Configd

open Schema

/-- The document `t` is accepted as it stands, and a commit of it records and runs exactly `t`. -/
structure CommittedAsStaged (caps : Capabilities) (t : Obj) : Prop where
  again : ∃ w, validate caps t = .ok (t, w)
  committed : ∀ (env : Env) (args : CommitArgs) (txid : String) (s s' : Store) (c : CommitReturn),
    env.capabilities = caps → s.candidate = t → commit env args txid s = (.ok c, s') →
      c.changes = changesOf s.running t ∧ s'.candidate = t ∧
        (s'.running = t ∨ changesOf s.running t = [] ∧ s'.running = s.running)

theorem committed_of_again {env : Env} {args : CommitArgs} {txid : String} {s s' : Store} {c : CommitReturn}
    {w : List String} (hval : validate env.capabilities s.candidate = .ok (s.candidate, w))
    (h : commit env args txid s = (.ok c, s')) : c.changes = changesOf s.running s.candidate ∧
      s'.candidate = s.candidate ∧
      (s'.running = s.candidate ∨ changesOf s.running s.candidate = [] ∧ s'.running = s.running) := by
  have heffect := commit_effect env args txid s
  rw [h] at heffect
  cases heffect with
  | kept hsame hr =>
    obtain ⟨-, hnone, hchanges, -⟩ := hr c rfl
    exact ⟨hchanges.trans hnone.symm, hsame.candidate, .inr ⟨hnone, hsame.running⟩⟩
  | @installed r t new warnings hpend hval' hgate he =>
    rw [hval] at hval'
    obtain rfl : s.candidate = new := (Prod.mk.inj (Except.ok.inj hval')).1
    cases he with
    | plain hrun hpend' htimer htimers hdisk hclock hr hfault =>
      obtain ⟨hchanges, -, hcand, -⟩ := hr c rfl
      exact ⟨hchanges, hcand, .inl hrun⟩
    | armed hawaits hrun hcand hdisk hpend' htimer htimers hclock hr =>
      exact ⟨(hr c rfl).1, hcand, .inl hrun⟩

/-- **Validation is idempotent exactly where no DNS name keeps a line break at its end**: the staged document is
then the one that is committed. -/
theorem committedAsStaged_iff {caps : Capabilities} {cfg t : Obj} {w : List String}
    (hports : (Dict.keys (portsOf cfg)).Nodup) (h : validate caps cfg = .ok (t, w)) :
    CommittedAsStaged caps t ↔ ∀ s ∈ dnsNames (dnsOf cfg), ¬ EndsLine (dnsName s) := by
  rw [← validate_again_iff hports h]
  constructor
  · exact fun hc => hc.again
  · rintro ⟨w', hagain⟩
    refine ⟨⟨w', hagain⟩, fun env args txid s s' c hcaps hs hcommit => ?_⟩
    subst hcaps hs
    exact committed_of_again hagain hcommit

/-- The default document with these filters. -/
def filtered (filters : Obj) : Obj :=
  Dict.set "dns" (((Json.obj defaultEntries).getD "dns" .null).put "filtering" (.obj filters)) defaultEntries

/-- The filters that are made of one name on the allow list. -/
def checkedFilters (name : String) : Obj :=
  [("allowlist", .arr [.str name]), ("enabled", .bool false), ("block_malware", .bool true),
    ("block_ads", .bool false), ("blocklist", .arr [])]

/-- A name in capitals, with a dot at its end. -/
theorem committedAsStaged_capitals :
    CommittedAsStaged Capabilities.empty (filtered (checkedFilters "example.com")) ↔
      ∀ s ∈ dnsNames (dnsOf (filtered [("allowlist", .arr [.str "Example.COM."])])), ¬ EndsLine (dnsName s) := by
  have hcheck : validate Capabilities.empty (filtered [("allowlist", .arr [.str "Example.COM."])]) =
      .ok (filtered (checkedFilters "example.com"), []) := by decide +kernel
  exact committedAsStaged_iff (by decide +kernel) hcheck

/-- A line break before the dot is kept at first, and stripped by the commit. -/
theorem staged_not_committed :
    ¬ ∀ (caps : Capabilities) (cfg t : Obj) (w : List String), validate caps cfg = .ok (t, w) →
      CommittedAsStaged caps t := by
  intro hall
  have hcheck : validate Capabilities.empty (filtered [("allowlist", .arr [.str "example.com\n."])]) =
      .ok (filtered (checkedFilters "example.com\n"), []) := by decide +kernel
  have hagain : validate Capabilities.empty (filtered (checkedFilters "example.com\n")) =
      .ok (filtered (checkedFilters "example.com"), []) := by decide +kernel
  obtain ⟨w, hw⟩ := (hall _ _ _ _ hcheck).again
  rw [hagain] at hw
  have hne : filtered (checkedFilters "example.com") ≠ filtered (checkedFilters "example.com\n") := by decide +kernel
  exact hne (Prod.mk.inj (Except.ok.inj hw)).1

end Sbegw.Configd
