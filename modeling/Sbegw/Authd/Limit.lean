import Sbegw.Authd.Attempts

/-!
# The bound on failed sign-ins

`login` checks the failures recorded under the source address and under the username, verifies, and
records a failure afterwards.  Calls that pass a check side by side all verify, and a wrong second
factor is recorded under the username only; where neither matters, no window has more failures than
the limit.
-/

namespace Sbegw.Authd

open Machine

/-! ### Orderly steps -/

/-- The check that the next step of a call makes is that of the key. -/
def Call.checks (key : LimitKey) (c : Call) : Bool :=
  match c.phase with
  | .checkIp => key == .ip c.sourceIp
  | .checkUser => key == .user c.username
  | _ => false

/-- The failures recorded under the key in the window that ends now. -/
def Attempts.recent (key : LimitKey) (now : ℚ) (s : Attempts) : ℕ :=
  Throttle.after (now - loginWindow) (s.auth.recorded key)

/-- The step lets a call past the check of the key although the failures recorded in the window and
the calls that are past it and have not recorded a failure reach the limit. -/
def crowds (key : LimitKey) (x : AttemptStep) : Bool :=
  match x.act with
  | .advance id env _ =>
    match Dict.lookup id x.pre.calls with
    | some c => c.checks key && decide (x.pre.recent key env.now < loginMaxFailures) &&
        decide (loginMaxFailures ≤ x.pre.recent key env.now + x.pre.pending key)
    | none => false
  | _ => false

/-- The step finds the second factor of a call from the address wrong. -/
def missesCode (sourceIp : String) (x : AttemptStep) : Bool :=
  match x.act with
  | .advance id env running =>
    match Dict.lookup id x.pre.calls with
    | some c => c.sourceIp == sourceIp &&
        match c.phase, verdict env running c.username c.password c.totp with
        | .verify, .wrongCode => true
        | _, _ => false
    | none => false
  | _ => false

/-- The step leaves the bound of the key alone. -/
def Orderly (key : LimitKey) (x : AttemptStep) : Prop :=
  crowds key x = false ∧ ∀ sourceIp, key = .ip sourceIp → missesCode sourceIp x = false

/-! ### What a step does -/

section

variable {s : Attempts} {id : ℕ} {c : Call} {env : Env} {running : Obj} {key : LimitKey}

/-- A call that ends without a failure to record leaves the key. -/
theorem moves_done {now : ℚ} {m : AuthManager} (hc : Dict.lookup id s.calls = some c)
    (h : Moves (s.view key) { s.view key with clock := now, recorded := m.recorded key })
    (howing : c.owing key = false) (outcome : Except Exn Session) :
    Moves (s.view key) ((s.stepped id now { c with phase := .done outcome } m []).view key) := by
  cases ha : c.active key with
  | false => exact moves_stay hc h ha.symm howing.symm rfl
  | true => exact moves_leave hc h ha rfl howing.symm rfl

/-- Checking a key may forget old failures under it, and changes nothing else. -/
theorem moves_rateLimited (hclock : s.clock ≤ env.now) (k : LimitKey) :
    Moves (s.view key) { s.view key with
      clock := env.now, recorded := (s.auth.rateLimited env k.text).2.recorded key } := by
  apply moves_clock hclock
  rw [AuthManager.recorded_rateLimited]
  by_cases hkey : key = k
  · rw [if_pos hkey, hkey]
    exact Or.inr rfl
  · rw [if_neg hkey]
    exact Or.inl rfl

/-- A check of the limit refuses the call, or lets it pass: then the call is one more that is open
under the key of the check. -/
theorem moves_check {k : LimitKey} {next : Phase} (hc : Dict.lookup id s.calls = some c)
    (hclock : s.clock ≤ env.now) (howing : c.owing key = false)
    (hnext : ({ c with phase := next } : Call).owing key = false)
    (hother : key ≠ k → ({ c with phase := next } : Call).active key = c.active key)
    (hown : key = k → c.active key = false ∧ ({ c with phase := next } : Call).active key = true)
    (hroom : key = k → s.recent key env.now < loginMaxFailures →
      s.recent key env.now + s.pending key < loginMaxFailures) :
    Moves (s.view key) ((s.stepped id env.now { c with phase := (c.check env k next s.auth).1 }
      (c.check env k next s.auth).2 []).view key) := by
  have hclean := @moves_rateLimited s env key hclock k
  rcases c.check_cases env k next s.auth with ⟨-, hcheck⟩ | ⟨hpass, hcheck⟩
  · rw [hcheck]
    refine moves_done hc ?_ howing _
    rw [Call.recorded_refuse]
    exact hclean
  · rw [hcheck]
    by_cases hkey : key = k
    · obtain ⟨ha, ha'⟩ := hown hkey
      rw [AuthManager.rateLimited_eq, decide_eq_false_iff_not, not_le, ← hkey] at hpass
      refine moves_enter hc hclean ha ha' (hnext.trans howing.symm) rfl ?_
      rw [AuthManager.recorded_rateLimited, if_pos hkey, ← hkey, Throttle.after_filter le_rfl]
      exact hroom hkey hpass
    · exact moves_stay hc hclean (hother hkey) (hnext.trans howing.symm) rfl

/-- The verification passes, or fails and leaves a failure to record. -/
theorem moves_verify (hc : Dict.lookup id s.calls = some c) (hclock : s.clock ≤ env.now)
    (hphase : c.phase = .verify)
    (hcode : ∀ sourceIp, key = .ip sourceIp → c.sourceIp = sourceIp →
      verdict env running c.username c.password c.totp ≠ .wrongCode) :
    Moves (s.view key) ((s.stepped id env.now
      { c with phase := (c.judged env s.auth
        (verdict env running c.username c.password c.totp)).1 }
      (c.judged env s.auth (verdict env running c.username c.password c.totp)).2
      (c.failure env running)).view key) := by
  have hkept : Moves (s.view key)
      { s.view key with clock := env.now, recorded := s.auth.recorded key } :=
    moves_clock hclock (Or.inl rfl)
  have howing : c.owing key = false := by simp [Call.owing, hphase]
  cases hv : verdict env running c.username c.password c.totp with
  | passed user =>
    have hf : c.failure env running = [] := by simp [Call.failure, hphase, hv]
    rw [hf]
    have hrec : (c.judged env s.auth (.passed user)).2.recorded key = s.auth.recorded key :=
      c.recorded_signedIn env user s.auth key
    refine moves_done hc ?_ howing _
    rw [hrec]
    exact hkept
  | wrongPassword =>
    have hf : c.failure env running = [⟨env.now, c.username, c.sourceIp⟩] := by
      simp [Call.failure, hphase, hv]
    rw [hf]
    cases ha : c.active key with
    | false =>
      have hkey : (key == .ip c.sourceIp || key == .user c.username) = false := by
        simpa [Call.active, hphase] using ha
      refine moves_stay hc hkept ha.symm ?_ ?_
      · exact hkey.trans howing.symm
      · simp [Failed.under, hkey]
    | true =>
      have hkey : (key == .ip c.sourceIp || key == .user c.username) = true := by
        simpa [Call.active, hphase] using ha
      refine moves_fail hc hkept ha rfl howing hkey ?_
      simp [Failed.under, hkey]
  | wrongCode =>
    have hf : c.failure env running = [⟨env.now, c.username, c.sourceIp⟩] := by
      simp [Call.failure, hphase, hv]
    rw [hf]
    have hip : (key == .ip c.sourceIp) = false := by
      by_contra hne
      exact hcode c.sourceIp (by simpa using hne) rfl hv
    cases ha : c.active key with
    | false =>
      have hkey : (key == .user c.username) = false := by
        simpa [Call.active, hphase, hip] using ha
      refine moves_stay hc hkept ha.symm ?_ ?_
      · exact hkey.trans howing.symm
      · simp [Failed.under, hip, hkey]
    | true =>
      have hkey : (key == .user c.username) = true := by
        simpa [Call.active, hphase, hip] using ha
      refine moves_fail hc hkept ha rfl howing hkey ?_
      simp [Failed.under, hip, hkey]

/-- A failure is recorded under the key `k`, the next of those it is owed to. -/
theorem moves_recordFailure {k : LimitKey} {c' : Call} {m : AuthManager}
    (hc : Dict.lookup id s.calls = some c) (hclock : s.clock ≤ env.now)
    (hm : m.recorded key = (s.auth.recordFailure env k.text).recorded key)
    (hactive : c'.active key = c.active key)
    (hown : key = k → c.owing key = true ∧ c'.owing key = false)
    (hother : key ≠ k → c'.owing key = c.owing key) :
    Moves (s.view key) ((s.stepped id env.now c' m []).view key) := by
  have hkept : Moves (s.view key)
      { s.view key with clock := env.now, recorded := s.auth.recorded key } :=
    moves_clock hclock (Or.inl rfl)
  rw [AuthManager.recorded_recordFailure] at hm
  by_cases hkey : key = k
  · obtain ⟨ho, ho'⟩ := hown hkey
    rw [if_pos hkey, ← hkey] at hm
    exact moves_record hc hkept hm hactive ho ho' rfl
  · rw [if_neg hkey] at hm
    rw [← hm] at hkept
    exact moves_stay hc hkept hactive (hother hkey) rfl

/-- Once the failure is recorded under the username, the call raises. -/
theorem Call.advance_recordUser (env : Env) (running : Obj) (c : Call) (m : AuthManager)
    {wrongCode : Bool} (h : c.phase = .recordUser wrongCode) : ∃ outcome m',
      c.advance env running m = (.done outcome, m') ∧ ∀ key, m'.recorded key =
        (m.recordFailure env (LimitKey.user c.username).text).recorded key := by
  unfold Call.advance
  rw [h]
  cases wrongCode with
  | true => exact ⟨_, _, rfl, fun key => c.recorded_refuse env _ _ _ key⟩
  | false => exact ⟨_, _, rfl, fun key => c.recorded_refuse env _ _ _ key⟩

/-- The next step of a call, where it is orderly for the key. -/
theorem moves_advance (hc : Dict.lookup id s.calls = some c) (hclock : s.clock ≤ env.now)
    (hroom : c.checks key = true → s.recent key env.now < loginMaxFailures →
      s.recent key env.now + s.pending key < loginMaxFailures)
    (hcode : c.phase = .verify → ∀ sourceIp, key = .ip sourceIp → c.sourceIp = sourceIp →
      verdict env running c.username c.password c.totp ≠ .wrongCode) :
    Moves (s.view key) ((s.stepped id env.now { c with phase := (c.advance env running s.auth).1 }
      (c.advance env running s.auth).2 (c.failure env running)).view key) := by
  obtain ⟨username, password, sourceIp, agent, totp, phase⟩ := c
  cases phase with
  | checkIp =>
    refine moves_check hc hclock rfl rfl ?_ ?_ ?_
    · intro hkey
      simpa [Call.active] using hkey
    · intro hkey
      exact ⟨rfl, by simpa [Call.active] using hkey⟩
    · intro hkey
      exact hroom (by simpa [Call.checks] using hkey)
  | checkUser =>
    refine moves_check hc hclock rfl rfl ?_ ?_ ?_
    · intro hkey
      simp [Call.active, hkey]
    · intro hkey
      simp [Call.active, hkey]
    · intro hkey
      exact hroom (by simpa [Call.checks] using hkey)
  | verify => exact moves_verify hc hclock rfl (hcode rfl)
  | recordIp =>
    refine @moves_recordFailure s id _ env key (.ip sourceIp) _ _ hc hclock rfl rfl ?_ ?_
    · intro hkey
      simp [Call.owing, Call.advance, hkey]
    · intro hkey
      simp [Call.owing, Call.advance, hkey]
  | recordUser wrongCode =>
    obtain ⟨outcome, m, hadv, hrec⟩ := Call.advance_recordUser env running
      ⟨username, password, sourceIp, agent, totp, .recordUser wrongCode⟩ s.auth rfl
    rw [hadv]
    refine moves_recordFailure hc hclock (hrec key) rfl ?_ ?_
    · intro hkey
      simp [Call.owing, hkey]
    · intro hkey
      simp [Call.owing, hkey]
  | done outcome => exact moves_done hc (moves_clock hclock (Or.inl rfl)) rfl outcome

end

/-- An orderly step is a move of the key, or none. -/
theorem view_attempt {s t : Attempts} {a : AttemptAction} {o : Unit} {key : LimitKey}
    (h : attempt s a = some (o, t)) (horder : Orderly key ⟨s, a, o, t⟩) :
    Moves (s.view key) (t.view key) := by
  cases a with
  | call id username password sourceIp agent totp =>
    unfold attempt at h
    cases hc : Dict.lookup id s.calls with
    | some c => simp [hc] at h
    | none =>
      simp only [hc, Option.some.injEq, Prod.mk.injEq, true_and] at h
      subst h
      let c : Call := ⟨username, password, sourceIp, agent, totp, .checkIp⟩
      have ha : (Dict.set id c s.calls).countP (fun e => e.2.active key) = _ :=
        Dict.countP_set_of_none hc c fun c => c.active key
      have ho : (Dict.set id c s.calls).countP (fun e => e.2.owing key) = _ :=
        Dict.countP_set_of_none hc c fun c => c.owing key
      have hview : Attempts.view key { s with calls := Dict.set id c s.calls } = s.view key := by
        show Throttle.View.mk _ _ _ _ _ = Throttle.View.mk _ _ _ _ _
        rw [ha, ho]
        rfl
      rw [hview]
  | advance id env running =>
    obtain ⟨hcrowd, hmiss⟩ := horder
    unfold attempt at h
    cases hc : Dict.lookup id s.calls with
    | none => simp [hc] at h
    | some c =>
      by_cases hclock : s.clock ≤ env.now
      · simp only [hc, hclock, if_true, Option.some.injEq, Prod.mk.injEq, true_and] at h
        subst h
        refine moves_advance hc hclock ?_ ?_
        · intro hchecks hrecent
          by_contra hfull
          simp [crowds, hc, hchecks, hrecent, not_lt.mp hfull] at hcrowd
        · intro hphase sourceIp hkey hip hv
          have hm := hmiss sourceIp hkey
          simp [missesCode, hc, hphase, hip, hv] at hm
      · simp [hc, hclock] at h

/-- The key of the limit before the first call. -/
theorem kept_start (now : ℚ) (key : LimitKey) :
    Throttle.Kept loginWindow loginMaxFailures ((Attempts.start now).view key) :=
  .start rfl rfl rfl rfl

/-- In a run whose steps are orderly for a key, no window has more failures under it than the
limit. -/
theorem bounded_of_orderly {now : ℚ} {l : List AttemptStep} {s : Attempts} {key : LimitKey}
    (h : AttemptRun (Attempts.start now) l s) (horder : ∀ x ∈ l, Orderly key x) (a : ℚ) :
    Throttle.within loginWindow a (s.failures key) ≤ loginMaxFailures := by
  have hkept : Throttle.Kept loginWindow loginMaxFailures (s.view key) := by
    refine h.history (fun _ s => Throttle.Kept loginWindow loginMaxFailures (s.view key))
      (fun _ x => Orderly key x) ?_ [] (kept_start now key) ?_
    · intro _ u a o v hu hs hx
      exact hu.moves (view_attempt hs hx)
    · intro l₁ x l₂ hl
      exact horder x (by simp [hl])
  exact hkept.bounded a

/-- A configuration with the users, all with the password `right` and the second factor `123456`. -/
def usersDoc (names : List String) : Obj :=
  [("users", .obj (names.map fun name => (name, .obj [("role", .str "owner"),
    ("password_hash", .str "right"), ("totp_secret", .str "123456")])))]

/-- The numbered calls come in. -/
def callsOf (password code : String) (calls : List (ℕ × String)) : List AttemptAction :=
  calls.map fun e => .call e.1 e.2 password "198.51.100.7" "curl" (.str code)

/-- The next step of each of the calls at the time `now`. -/
def advanceAll (now : ℚ) (running : Obj) (ids : List ℕ) : List AttemptAction :=
  ids.map fun id => .advance id (Env.plain now) running

/-- Nine guesses for one username: all pass the two checks before the first one is verified. -/
def overlapping : List AttemptAction :=
  let ids := List.range 9
  callsOf "guess" "" (ids.map fun id => (id, "admin")) ++ advanceAll 0 (usersDoc ["admin"]) ids ++
    advanceAll 0 (usersDoc ["admin"]) ids ++ advanceAll 1 (usersDoc ["admin"]) ids

/-- Nine wrong codes from one address, for nine users, one call after the other. -/
def wrongCodes : List AttemptAction :=
  let names := ["a", "b", "c", "d", "e", "f", "g", "h", "i"]
  let calls := (List.range 9).zip names
  callsOf "right" "000000" calls ++
    calls.flatMap fun e => advanceAll 0 (usersDoc names) (List.replicate 4 e.1)

/-- Nine guesses for one username, one after the other: the ninth is refused at the check. -/
def guesses : List AttemptAction :=
  (List.range 9).flatMap fun id =>
    callsOf "guess" "" [(id, "admin")] ++ advanceAll id (usersDoc ["admin"]) (List.replicate 5 id)

end Sbegw.Authd
