import Sbegw.Lib.Feed

/-!
# The event stream

`EventStream` hands every event and telemetry frame to the browsers that listen.  A browser's handler has
a queue of its own in the list, which the lock guards; `publish` copies the list under the lock and then
goes through the queues without it, one `put_nowait` or `get_nowait` at a time.  The sampler and whoever
emits an event publish from their own threads, so calls overlap, and everything else happens in between.

A step of the machine is one operation on the list or on one queue.  Queues and publish calls are named
by the order in which they were made.
-/

namespace Sbegw.Api.Stream

open Feed (Full putNowait getNowait)
open Machine (Step Run)

variable {F : Type}

/-- Where a `publish` stands at its queue: the `put_nowait` it tries first, the `get_nowait` after
`queue.Full`, the `put_nowait` after that. -/
inductive Move
  | put
  | get
  | putAgain
  deriving DecidableEq, Repr

/-- A call of `publish`: the queues of its `for` loop that are left, the one it is at first. -/
structure Publish (F : Type) where
  frame : F
  targets : List ℕ
  move : Move

/-- The stream, the queues of its subscribers, and the calls of `publish`. -/
structure EventStream (F : Type) where
  maxsize : ℕ
  /-- `_queues` -/
  queues : List ℕ
  held : ℕ → List F
  made : ℕ
  calls : ℕ → Option (Publish F)
  begun : ℕ

inductive Action (F : Type)
  | register
  | unregister (q : ℕ)
  | publish (frame : F)
  | advance (c : ℕ)
  /-- The `q.get(timeout=15)` of a handler, when it has something. -/
  | take (q : ℕ)

inductive Outcome (F : Type)
  | registered (q : ℕ)
  | unregistered
  | began (c : ℕ)
  | full (q c : ℕ)
  | stored (q c : ℕ) (frame : F)
  | evicted (q c : ℕ) (frame : F)
  | skipped (q c : ℕ)
  | raised (q c : ℕ)
  | took (q : ℕ) (frame : F)
  deriving DecidableEq

namespace EventStream

/-- `EventStream(maxsize)` -/
def fresh (maxsize : ℕ) : EventStream F := ⟨maxsize, [], fun _ => [], 0, fun _ => none, 0⟩

/-- A queue's new contents. -/
def hold (s : EventStream F) (q : ℕ) (held : List F) : EventStream F :=
  { s with held := Function.update s.held q held }

/-- A call goes on. -/
def goOn (s : EventStream F) (c : ℕ) (p : Publish F) : EventStream F :=
  { s with calls := Function.update s.calls c (some p) }

def register (s : EventStream F) : EventStream F :=
  { s with queues := s.queues ++ [s.made], held := Function.update s.held s.made [], made := s.made + 1 }

def unregister (q : ℕ) (s : EventStream F) : EventStream F := { s with queues := s.queues.erase q }

/-- `publish`, up to the copy of the list. -/
def publish (frame : F) (s : EventStream F) : EventStream F :=
  { s with calls := Function.update s.calls s.begun (some ⟨frame, s.queues, .put⟩), begun := s.begun + 1 }

/-- The next operation of a call of `publish` on a queue.  Only `queue.Empty` is caught where the queue
was full, so the second `put_nowait` may end the call. -/
def advance (c : ℕ) (s : EventStream F) : Option (Outcome F × EventStream F) :=
  match s.calls c with
  | some ⟨frame, q :: rest, .put⟩ =>
    match putNowait s.maxsize frame (s.held q) with
    | some held => some (.stored q c frame, (s.hold q held).goOn c ⟨frame, rest, .put⟩)
    | none => some (.full q c, s.goOn c ⟨frame, q :: rest, .get⟩)
  | some ⟨frame, q :: rest, .get⟩ =>
    match getNowait (s.held q) with
    | some (oldest, held) => some (.evicted q c oldest, (s.hold q held).goOn c ⟨frame, q :: rest, .putAgain⟩)
    | none => some (.skipped q c, s.goOn c ⟨frame, rest, .put⟩)
  | some ⟨frame, q :: rest, .putAgain⟩ =>
    match putNowait s.maxsize frame (s.held q) with
    | some held => some (.stored q c frame, (s.hold q held).goOn c ⟨frame, rest, .put⟩)
    | none => some (.raised q c, s.goOn c ⟨frame, [], .put⟩)
  | _ => none

def step (s : EventStream F) : Action F → Option (Outcome F × EventStream F)
  | .register => some (.registered s.made, s.register)
  | .unregister q => some (.unregistered, s.unregister q)
  | .publish frame => some (.began s.begun, s.publish frame)
  | .advance c => s.advance c
  | .take q => (getNowait (s.held q)).map fun r => (.took q r.1, s.hold q r.2)

section

variable (s : EventStream F) (q c : ℕ) (held : List F) (p : Publish F) (frame : F)

@[simp] theorem hold_maxsize : (s.hold q held).maxsize = s.maxsize := rfl
@[simp] theorem hold_queues : (s.hold q held).queues = s.queues := rfl
@[simp] theorem hold_held : (s.hold q held).held = Function.update s.held q held := rfl
@[simp] theorem hold_made : (s.hold q held).made = s.made := rfl
@[simp] theorem hold_calls : (s.hold q held).calls = s.calls := rfl
@[simp] theorem hold_begun : (s.hold q held).begun = s.begun := rfl
@[simp] theorem goOn_maxsize : (s.goOn c p).maxsize = s.maxsize := rfl
@[simp] theorem goOn_queues : (s.goOn c p).queues = s.queues := rfl
@[simp] theorem goOn_held : (s.goOn c p).held = s.held := rfl
@[simp] theorem goOn_made : (s.goOn c p).made = s.made := rfl
@[simp] theorem goOn_calls : (s.goOn c p).calls = Function.update s.calls c (some p) := rfl
@[simp] theorem goOn_begun : (s.goOn c p).begun = s.begun := rfl
@[simp] theorem register_maxsize : s.register.maxsize = s.maxsize := rfl
@[simp] theorem register_queues : s.register.queues = s.queues ++ [s.made] := rfl
@[simp] theorem register_held : s.register.held = Function.update s.held s.made [] := rfl
@[simp] theorem register_made : s.register.made = s.made + 1 := rfl
@[simp] theorem register_calls : s.register.calls = s.calls := rfl
@[simp] theorem register_begun : s.register.begun = s.begun := rfl
@[simp] theorem unregister_maxsize : (s.unregister q).maxsize = s.maxsize := rfl
@[simp] theorem unregister_queues : (s.unregister q).queues = s.queues.erase q := rfl
@[simp] theorem unregister_held : (s.unregister q).held = s.held := rfl
@[simp] theorem unregister_made : (s.unregister q).made = s.made := rfl
@[simp] theorem unregister_calls : (s.unregister q).calls = s.calls := rfl
@[simp] theorem unregister_begun : (s.unregister q).begun = s.begun := rfl
@[simp] theorem publish_maxsize : (s.publish frame).maxsize = s.maxsize := rfl
@[simp] theorem publish_queues : (s.publish frame).queues = s.queues := rfl
@[simp] theorem publish_held : (s.publish frame).held = s.held := rfl
@[simp] theorem publish_made : (s.publish frame).made = s.made := rfl
@[simp] theorem publish_calls :
    (s.publish frame).calls = Function.update s.calls s.begun (some ⟨frame, s.queues, .put⟩) := rfl
@[simp] theorem publish_begun : (s.publish frame).begun = s.begun + 1 := rfl

end

/-- The call stands at this queue, about to make this move. -/
def At (s : EventStream F) (c q : ℕ) (m : Move) : Prop :=
  ∃ p ∈ s.calls c, p.targets.head? = some q ∧ p.move = m

/-- The call has ended. -/
def Over (s : EventStream F) (c : ℕ) : Prop := ∃ p, s.calls c = some p ∧ p.targets = []

/-- The call has begun and not ended. -/
def UnderWay (s : EventStream F) (c : ℕ) : Prop := ∃ p ∈ s.calls c, p.targets ≠ []

instance (s : EventStream F) (c q : ℕ) (m : Move) : Decidable (s.At c q m) :=
  inferInstanceAs (Decidable (∃ p ∈ s.calls c, _))

instance (s : EventStream F) (c : ℕ) : Decidable (s.UnderWay c) :=
  inferInstanceAs (Decidable (∃ p ∈ s.calls c, _))

theorem At.underWay {s : EventStream F} {c q : ℕ} {m : Move} (h : s.At c q m) : s.UnderWay c := by
  obtain ⟨p, hp, hq, -⟩ := h
  refine ⟨p, hp, fun hnil => ?_⟩
  rw [hnil] at hq
  cases hq

theorem At.eq {s : EventStream F} {c q q' : ℕ} {m m' : Move} (h : s.At c q m) (h' : s.At c q' m') :
    q = q' ∧ m = m' := by
  obtain ⟨p, hp, hq, hm⟩ := h
  obtain ⟨p', hp', hq', hm'⟩ := h'
  obtain rfl := Option.some.inj ((hp : _ = _).symm.trans hp')
  exact ⟨Option.some.inj (hq.symm.trans hq'), hm.symm.trans hm'⟩

end EventStream

open EventStream

/-- What a step can do, by its outcome. -/
inductive Effect (s : EventStream F) : Action F → Outcome F → EventStream F → Prop
  | registered : Effect s .register (.registered s.made) s.register
  | unregistered (q : ℕ) : Effect s (.unregister q) .unregistered (s.unregister q)
  | began (frame : F) : Effect s (.publish frame) (.began s.begun) (s.publish frame)
  | stored {c q : ℕ} {frame : F} {rest : List ℕ} {m : Move} (hc : s.calls c = some ⟨frame, q :: rest, m⟩)
      (hm : m ≠ .get) (hroom : ¬ Full s.maxsize (s.held q)) :
      Effect s (.advance c) (.stored q c frame)
        ((s.hold q (s.held q ++ [frame])).goOn c ⟨frame, rest, .put⟩)
  | full {c q : ℕ} {frame : F} {rest : List ℕ} (hc : s.calls c = some ⟨frame, q :: rest, .put⟩)
      (hfull : Full s.maxsize (s.held q)) :
      Effect s (.advance c) (.full q c) (s.goOn c ⟨frame, q :: rest, .get⟩)
  | evicted {c q : ℕ} {frame oldest : F} {rest : List ℕ} {held : List F}
      (hc : s.calls c = some ⟨frame, q :: rest, .get⟩) (hq : s.held q = oldest :: held) :
      Effect s (.advance c) (.evicted q c oldest) ((s.hold q held).goOn c ⟨frame, q :: rest, .putAgain⟩)
  | skipped {c q : ℕ} {frame : F} {rest : List ℕ} (hc : s.calls c = some ⟨frame, q :: rest, .get⟩)
      (hq : s.held q = []) : Effect s (.advance c) (.skipped q c) (s.goOn c ⟨frame, rest, .put⟩)
  | raised {c q : ℕ} {frame : F} {rest : List ℕ} (hc : s.calls c = some ⟨frame, q :: rest, .putAgain⟩)
      (hfull : Full s.maxsize (s.held q)) :
      Effect s (.advance c) (.raised q c) (s.goOn c ⟨frame, [], .put⟩)
  | took {q : ℕ} {frame : F} {held : List F} (hq : s.held q = frame :: held) :
      Effect s (.take q) (.took q frame) (s.hold q held)

theorem advance_effect {s t : EventStream F} {c : ℕ} {o : Outcome F} (h : s.advance c = some (o, t)) :
    Effect s (.advance c) o t := by
  unfold advance at h
  split at h
  · next frame q rest hc =>
    unfold putNowait at h
    split_ifs at h with hfull
    · obtain ⟨rfl, rfl⟩ := Prod.mk.inj (Option.some.inj h)
      exact .full hc hfull
    · obtain ⟨rfl, rfl⟩ := Prod.mk.inj (Option.some.inj h)
      exact .stored hc (by decide) hfull
  · next frame q rest hc =>
    cases hq : s.held q with
    | nil =>
      rw [hq] at h
      obtain ⟨rfl, rfl⟩ := Prod.mk.inj (Option.some.inj h)
      exact .skipped hc hq
    | cons oldest held =>
      rw [hq] at h
      obtain ⟨rfl, rfl⟩ := Prod.mk.inj (Option.some.inj h)
      exact .evicted hc hq
  · next frame q rest hc =>
    unfold putNowait at h
    split_ifs at h with hfull
    · obtain ⟨rfl, rfl⟩ := Prod.mk.inj (Option.some.inj h)
      exact .raised hc hfull
    · obtain ⟨rfl, rfl⟩ := Prod.mk.inj (Option.some.inj h)
      exact .stored hc (by decide) hfull
  · cases h

theorem step_effect {s t : EventStream F} {a : Action F} {o : Outcome F} (h : step s a = some (o, t)) :
    Effect s a o t := by
  cases a with
  | register =>
    obtain ⟨rfl, rfl⟩ := Prod.mk.inj (Option.some.inj h)
    exact .registered
  | unregister q =>
    obtain ⟨rfl, rfl⟩ := Prod.mk.inj (Option.some.inj h)
    exact .unregistered q
  | publish frame =>
    obtain ⟨rfl, rfl⟩ := Prod.mk.inj (Option.some.inj h)
    exact .began frame
  | advance c => exact advance_effect h
  | take q =>
    simp only [step] at h
    cases hq : s.held q with
    | nil =>
      rw [hq] at h
      cases h
    | cons frame held =>
      rw [hq] at h
      obtain ⟨rfl, rfl⟩ := Prod.mk.inj (Option.some.inj h)
      exact .took hq

/-! ## What a step does to the calls and the queues -/

namespace Effect

variable {s t : EventStream F} {a : Action F} {o : Outcome F}

theorem maxsize (h : Effect s a o t) : t.maxsize = s.maxsize := by
  cases h <;> rfl

/-- A call is there because it was before, with what it had left or less, or because it has just begun. -/
theorem calls (h : Effect s a o t) {c : ℕ} {p : Publish F} (hp : t.calls c = some p) :
    (∃ p', s.calls c = some p' ∧ p.frame = p'.frame ∧ p.targets.Sublist p'.targets) ∨
      (c = s.begun ∧ a = .publish p.frame ∧ o = .began c ∧ p.targets = s.queues) := by
  have hsame : s.calls c = some p → ∃ p', s.calls c = some p' ∧ p.frame = p'.frame ∧
      p.targets.Sublist p'.targets := fun hs => ⟨p, hs, rfl, List.Sublist.refl _⟩
  have hgoOn : ∀ {d : ℕ} {f : F} {ts us : List ℕ} {m m' : Move}, s.calls d = some ⟨f, ts, m⟩ →
      us.Sublist ts → Function.update s.calls d (some ⟨f, us, m'⟩) c = some p →
      ∃ p', s.calls c = some p' ∧ p.frame = p'.frame ∧ p.targets.Sublist p'.targets := by
    intro d f ts us m m' hd hsub hu
    by_cases hcd : c = d
    · subst hcd
      rw [Function.update_self, Option.some.injEq] at hu
      subst hu
      exact ⟨_, hd, rfl, hsub⟩
    · rw [Function.update_of_ne hcd] at hu
      exact hsame hu
  cases h with
  | registered => exact .inl (hsame hp)
  | unregistered q => exact .inl (hsame hp)
  | began frame =>
    by_cases hc : c = s.begun
    · subst hc
      rw [publish_calls, Function.update_self, Option.some.injEq] at hp
      subst hp
      exact .inr ⟨rfl, rfl, rfl, rfl⟩
    · rw [publish_calls, Function.update_of_ne hc] at hp
      exact .inl (hsame hp)
  | stored hc hm hroom => exact .inl (hgoOn hc (List.sublist_cons_self _ _) hp)
  | full hc hfull => exact .inl (hgoOn hc (List.Sublist.refl _) hp)
  | evicted hc hq => exact .inl (hgoOn hc (List.Sublist.refl _) hp)
  | skipped hc hq => exact .inl (hgoOn hc (List.sublist_cons_self _ _) hp)
  | raised hc hfull => exact .inl (hgoOn hc (List.nil_sublist _) hp)
  | took hq => exact .inl (hsame hp)

/-- A call that has begun stays. -/
theorem keeps (h : Effect s a o t) {c : ℕ} (hc : c ≠ s.begun) {p : Publish F} (hp : s.calls c = some p) :
    ∃ p', t.calls c = some p' := by
  have hgoOn : ∀ (d : ℕ) (r : Publish F), ∃ p', Function.update s.calls d (some r) c = some p' := by
    intro d r
    by_cases hcd : c = d
    · exact ⟨r, by rw [hcd, Function.update_self]⟩
    · exact ⟨p, by rw [Function.update_of_ne hcd, hp]⟩
  cases h with
  | registered => exact ⟨p, hp⟩
  | unregistered q => exact ⟨p, hp⟩
  | began frame => exact ⟨p, by rw [publish_calls, Function.update_of_ne hc, hp]⟩
  | stored hc hm hroom => exact hgoOn _ _
  | full hc hfull => exact hgoOn _ _
  | evicted hc hq => exact hgoOn _ _
  | skipped hc hq => exact hgoOn _ _
  | raised hc hfull => exact hgoOn _ _
  | took hq => exact ⟨p, hp⟩

/-- How a call gets past a queue. -/
theorem passes (h : Effect s a o t) {c q : ℕ} (hc : c ≠ s.begun) {p p' : Publish F}
    (hp : s.calls c = some p) (hp' : t.calls c = some p') (hq : q ∈ p.targets) (hq' : q ∉ p'.targets) :
    o = .stored q c p.frame ∨ o = .skipped q c ∨ ∃ q', o = .raised q' c := by
  have hsame : ∀ {P : Prop}, t.calls c = s.calls c → P := fun heq => by
    rw [heq, hp, Option.some.injEq] at hp'
    exact absurd (hp' ▸ hq) hq'
  have hother : ∀ {P : Prop} {d : ℕ} {r : Publish F},
      t.calls = Function.update s.calls d (some r) → c ≠ d → P :=
    fun ht hne => hsame (by rw [ht, Function.update_of_ne hne])
  have hself : ∀ {d : ℕ} {r : Publish F}, t.calls = Function.update s.calls d (some r) → c = d → p' = r := by
    intro d r ht hcd
    rw [ht, hcd, Function.update_self, Option.some.injEq] at hp'
    exact hp'.symm
  cases h with
  | registered => exact hsame rfl
  | unregistered q => exact hsame rfl
  | began frame => exact hother rfl hc
  | @stored d q₀ frame rest m hd hm hroom =>
    by_cases hcd : c = d
    · subst hcd
      rw [hself rfl rfl] at hq'
      obtain rfl := Option.some.inj (hp.symm.trans hd)
      obtain rfl | hmem := List.mem_cons.mp hq
      · exact .inl rfl
      · exact absurd hmem hq'
    · exact hother rfl hcd
  | @full d q₀ frame rest hd hfull =>
    by_cases hcd : c = d
    · subst hcd
      rw [hself rfl rfl] at hq'
      obtain rfl := Option.some.inj (hp.symm.trans hd)
      exact absurd hq hq'
    · exact hother rfl hcd
  | @evicted d q₀ frame oldest rest held hd hheld =>
    by_cases hcd : c = d
    · subst hcd
      rw [hself rfl rfl] at hq'
      obtain rfl := Option.some.inj (hp.symm.trans hd)
      exact absurd hq hq'
    · exact hother rfl hcd
  | @skipped d q₀ frame rest hd hheld =>
    by_cases hcd : c = d
    · subst hcd
      rw [hself rfl rfl] at hq'
      obtain rfl := Option.some.inj (hp.symm.trans hd)
      obtain rfl | hmem := List.mem_cons.mp hq
      · exact .inr (.inl rfl)
      · exact absurd hmem hq'
    · exact hother rfl hcd
  | @raised d q₀ frame rest hd hfull =>
    by_cases hcd : c = d
    · subst hcd
      exact .inr (.inr ⟨q₀, rfl⟩)
    · exact hother rfl hcd
  | took hheld => exact hsame rfl

/-- A call that stores in a queue has it next, and is past it then. -/
theorem stores {c q : ℕ} {frame : F} (h : Effect s a (.stored q c frame) t) :
    ∃ p rest, s.calls c = some p ∧ p.frame = frame ∧ p.targets = q :: rest ∧
      t.calls c = some ⟨frame, rest, .put⟩ := by
  cases h with
  | stored hc hm hroom => exact ⟨_, _, hc, rfl, rfl, by rw [goOn_calls, Function.update_self]⟩

end Effect

/-! ## States -/

/-- Every queue of the list and of a call has been made, at most once in each, no queue has more than it
may, and calls are named by their order. -/
structure Valid (s : EventStream F) : Prop where
  nodup : s.queues.Nodup
  made : ∀ q ∈ s.queues, q < s.made
  begun : ∀ c p, s.calls c = some p → c < s.begun
  targets_nodup : ∀ c p, s.calls c = some p → p.targets.Nodup
  targets_made : ∀ c p, s.calls c = some p → ∀ q ∈ p.targets, q < s.made
  unmade : ∀ q, s.made ≤ q → s.held q = []
  bounded : 0 < s.maxsize → ∀ q, (s.held q).length ≤ s.maxsize

theorem fresh_valid (n : ℕ) : Valid (EventStream.fresh n : EventStream F) where
  nodup := List.nodup_nil
  made := by simp [EventStream.fresh]
  begun := by simp [EventStream.fresh]
  targets_nodup := by simp [EventStream.fresh]
  targets_made := by simp [EventStream.fresh]
  unmade := fun _ _ => rfl
  bounded := by simp [EventStream.fresh]

namespace Valid

variable {s t : EventStream F} {a : Action F} {o : Outcome F}

theorem hold (h : Valid s) {q : ℕ} {held : List F} (hq : q < s.made)
    (hlen : 0 < s.maxsize → held.length ≤ s.maxsize) : Valid (s.hold q held) where
  nodup := h.nodup
  made := h.made
  begun := h.begun
  targets_nodup := h.targets_nodup
  targets_made := h.targets_made
  unmade := by
    intro q' hq'
    have hne : q' ≠ q := by
      rw [hold_made] at hq'
      omega
    rw [hold_held, Function.update_of_ne hne]
    exact h.unmade q' hq'
  bounded := by
    intro hn q'
    rw [hold_held, hold_maxsize]
    by_cases hqq : q' = q
    · rw [hqq, Function.update_self]
      exact hlen hn
    · rw [Function.update_of_ne hqq]
      exact h.bounded hn q'

theorem goOn (h : Valid s) {c : ℕ} {p p' : Publish F} (hp : s.calls c = some p)
    (hsub : p'.targets.Sublist p.targets) : Valid (s.goOn c p') := by
  have hcalls : ∀ d r, (s.goOn c p').calls d = some r →
      ∃ r', s.calls d = some r' ∧ r.targets.Sublist r'.targets := by
    intro d r hr
    rw [goOn_calls] at hr
    by_cases hd : d = c
    · subst hd
      rw [Function.update_self, Option.some.injEq] at hr
      exact ⟨p, hp, hr ▸ hsub⟩
    · rw [Function.update_of_ne hd] at hr
      exact ⟨r, hr, List.Sublist.refl _⟩
  refine ⟨h.nodup, h.made, fun d r hr => ?_, fun d r hr => ?_, fun d r hr q hq => ?_, h.unmade, h.bounded⟩
  · obtain ⟨r', hr', -⟩ := hcalls d r hr
    exact h.begun d r' hr'
  · obtain ⟨r', hr', hsub'⟩ := hcalls d r hr
    exact (h.targets_nodup d r' hr').sublist hsub'
  · obtain ⟨r', hr', hsub'⟩ := hcalls d r hr
    exact h.targets_made d r' hr' q (hsub'.subset hq)

theorem register (h : Valid s) : Valid s.register where
  nodup := by
    rw [register_queues, List.nodup_append]
    refine ⟨h.nodup, List.pairwise_singleton _ _, fun q hq q' hq' => ?_⟩
    have hlt := h.made q hq
    rw [List.mem_singleton] at hq'
    omega
  made := by
    intro q hq
    rw [register_queues, List.mem_append, List.mem_singleton] at hq
    rw [register_made]
    obtain hq | rfl := hq
    · exact Nat.lt_succ_of_lt (h.made q hq)
    · exact Nat.lt_succ_self _
  begun := h.begun
  targets_nodup := h.targets_nodup
  targets_made := fun c p hp q hq => Nat.lt_succ_of_lt (h.targets_made c p hp q hq)
  unmade := by
    intro q hq
    rw [register_made] at hq
    rw [register_held, Function.update_of_ne (by omega)]
    exact h.unmade q (by omega)
  bounded := by
    intro hn q
    rw [register_held, register_maxsize]
    by_cases hq : q = s.made
    · rw [hq, Function.update_self]
      exact Nat.zero_le _
    · rw [Function.update_of_ne hq]
      exact h.bounded hn q

theorem unregister (h : Valid s) (q : ℕ) : Valid (s.unregister q) where
  nodup := h.nodup.sublist List.erase_sublist
  made := fun q' hq' => h.made q' (List.mem_of_mem_erase hq')
  begun := h.begun
  targets_nodup := h.targets_nodup
  targets_made := h.targets_made
  unmade := h.unmade
  bounded := h.bounded

theorem publish (h : Valid s) (frame : F) : Valid (s.publish frame) := by
  have hcalls : ∀ d r, (s.publish frame).calls d = some r →
      s.calls d = some r ∨ (d = s.begun ∧ r.targets = s.queues) := by
    intro d r hr
    rw [publish_calls] at hr
    by_cases hd : d = s.begun
    · subst hd
      rw [Function.update_self, Option.some.injEq] at hr
      exact .inr ⟨rfl, hr ▸ rfl⟩
    · rw [Function.update_of_ne hd] at hr
      exact .inl hr
  refine ⟨h.nodup, h.made, fun d r hr => ?_, fun d r hr => ?_, fun d r hr q hq => ?_, h.unmade, h.bounded⟩
  · rw [publish_begun]
    obtain hr | ⟨rfl, -⟩ := hcalls d r hr
    · exact Nat.lt_succ_of_lt (h.begun d r hr)
    · exact Nat.lt_succ_self _
  · obtain hr | ⟨-, hr⟩ := hcalls d r hr
    · exact h.targets_nodup d r hr
    · exact hr ▸ h.nodup
  · obtain hr | ⟨-, hr⟩ := hcalls d r hr
    · exact h.targets_made d r hr q hq
    · exact h.made q (hr ▸ hq)

/-- Something has been put into a queue only after it was made. -/
theorem made_of_held (h : Valid s) {q : ℕ} {frame : F} {held : List F} (hq : s.held q = frame :: held) :
    q < s.made := by
  by_contra hle
  rw [h.unmade q (Nat.le_of_not_lt hle)] at hq
  cases hq

theorem of_effect (h : Valid s) (he : Effect s a o t) : Valid t := by
  have htail : ∀ {q : ℕ} {frame : F} {held : List F}, s.held q = frame :: held →
      0 < s.maxsize → held.length ≤ s.maxsize := by
    intro q frame held hq hn
    have hlen := h.bounded hn q
    rw [hq, List.length_cons] at hlen
    omega
  cases he with
  | registered => exact h.register
  | unregistered q => exact h.unregister q
  | began frame => exact h.publish frame
  | stored hc hm hroom =>
    refine (h.hold (h.targets_made _ _ hc _ List.mem_cons_self) fun hn => ?_).goOn hc (List.sublist_cons_self _ _)
    rw [List.length_append, List.length_singleton]
    exact Feed.length_le_of_not_full hroom hn
  | full hc hfull => exact h.goOn hc (List.Sublist.refl _)
  | evicted hc hq => exact (h.hold (h.made_of_held hq) (htail hq)).goOn hc (List.Sublist.refl _)
  | skipped hc hq => exact h.goOn hc (List.sublist_cons_self _ _)
  | raised hc hfull => exact h.goOn hc (List.nil_sublist _)
  | took hq => exact h.hold (h.made_of_held hq) (htail hq)

end Valid

theorem run_valid {n : ℕ} {l : List (Step (EventStream F) (Action F) (Outcome F))} {t : EventStream F}
    (h : Run step (fresh n) l t) : Valid t :=
  h.invariant Valid (fun _ _ _ _ hv hs => hv.of_effect (step_effect hs)) (fresh_valid n)

end Sbegw.Api.Stream
