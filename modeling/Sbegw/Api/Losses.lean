import Sbegw.Api.Delivery

/-!
# Frames that get lost

A `publish` drops the oldest frame of a queue it found full, leaves a queue alone that ran empty after
that, and ends with `queue.Full` when the room it made has gone.  The last needs another publish at the
same queue.  While publishes do not overlap and a browser does not read in the middle of a drop, its queue
is a feed of the newest frames.
-/

namespace Sbegw.Api.Stream

open Feed (Full newest holds)
open Machine (Step Run)
open EventStream Log

variable {F : Type}

namespace Effect

variable {s t : EventStream F} {a : Action F} {o : Outcome F}

/-- Who made the step that moved a call. -/
theorem moved (h : Effect s a o t) {c q : ℕ} {m : Move} (hat : t.At c q m) :
    s.At c q m ∨ (m = .put) ∨ (m = .get ∧ o = .full q c) ∨ (m = .putAgain ∧ ∃ oldest, o = .evicted q c oldest) := by
  obtain ⟨p, hp, hq, hm⟩ := hat
  have hsame : ∀ {P : Prop}, t.calls c = s.calls c → s.At c q m ∨ P := fun heq =>
    .inl ⟨p, heq ▸ hp, hq, hm⟩
  have hgoOn : ∀ {P : Prop} {d : ℕ} {r : Publish F}, t.calls = Function.update s.calls d (some r) →
      (c = d → r = p → P) → s.At c q m ∨ P := by
    intro P d r ht hr
    by_cases hcd : c = d
    · refine .inr (hr hcd ?_)
      rw [ht, hcd, Function.update_self] at hp
      exact Option.some.inj hp
    · exact hsame (by rw [ht, Function.update_of_ne hcd])
  cases h with
  | registered => exact hsame rfl
  | unregistered q => exact hsame rfl
  | began frame => exact hgoOn rfl fun _ hr => .inl (by rw [← hm, ← hr])
  | stored hc hmove hroom => exact hgoOn rfl fun _ hr => .inl (by rw [← hm, ← hr])
  | full hc hfull =>
    refine hgoOn rfl fun hcd hr => .inr (.inl ?_)
    subst hr hcd
    obtain rfl := Option.some.inj hq
    exact ⟨hm.symm, rfl⟩
  | evicted hc hheld =>
    refine hgoOn rfl fun hcd hr => .inr (.inr ?_)
    subst hr hcd
    obtain rfl := Option.some.inj hq
    exact ⟨hm.symm, _, rfl⟩
  | skipped hc hheld => exact hgoOn rfl fun _ hr => .inl (by rw [← hm, ← hr])
  | raised hc hfull => exact hgoOn rfl fun _ hr => .inl (by rw [← hm, ← hr])
  | took hheld => exact hsame rfl

/-- A queue that gets nothing loses what left it. -/
theorem length_held (h : Effect s a o t) (hs : Valid s) (q : ℕ) :
    (s.held q).length + (o.storedAt q).length = (o.goneFrom q).length + (t.held q).length := by
  have hlen := congrArg List.length (h.balance hs q)
  rwa [List.length_append, List.length_append, List.length_map] at hlen

/-- A call that has stored in a queue stands there no longer. -/
theorem not_at_of_stored {c q : ℕ} {frame : F} (h : Effect s a (.stored q c frame) t) (hs : Valid s) (m : Move) :
    ¬ t.At c q m := by
  obtain ⟨p, rest, hp, -, htargets, ht⟩ := h.stores
  rintro ⟨p', hp', hq, -⟩
  obtain rfl := Option.some.inj (ht.symm.trans hp')
  have hnodup := List.nodup_cons.mp (htargets ▸ hs.targets_nodup c p hp)
  exact hnodup.1 (List.mem_of_mem_head? hq)

end Effect

namespace Log

/-- What left the queue while the call stood before its `get_nowait`. -/
def goneMeanwhile (l : Log F) (q c : ℕ) : List F :=
  l.flatMap fun x => if x.pre.At c q .get then x.out.goneFrom q else []

/-- Another call stored in the queue while the call stood before its second `put_nowait`. -/
def Crossed (l : Log F) (q c : ℕ) : Prop :=
  ∃ x ∈ l, ∃ d frame, x.out = .stored q d frame ∧ d ≠ c ∧ x.pre.At c q .putAgain

end Log

/-- A call that found a queue full has it full but for what has left it since, and has the room it made
unless another call took it. -/
structure Looked (n : ℕ) (k : Log F) (s : EventStream F) : Prop where
  valid : Valid s
  maxsize : s.maxsize = n
  full : ∀ c q, s.At c q .get → 0 < n ∧ n ≤ (s.held q).length + (goneMeanwhile k q c).length
  room : ∀ c q, s.At c q .putAgain → ¬ Full n (s.held q) ∨ Crossed k q c

namespace Looked

variable {n : ℕ} {k : Log F} {s t : EventStream F} {a : Action F} {o : Outcome F}

theorem fresh (n : ℕ) : Looked n [] (EventStream.fresh n : EventStream F) where
  valid := fresh_valid n
  maxsize := rfl
  full := by simp [At, EventStream.fresh]
  room := by simp [At, EventStream.fresh]

theorem of_effect (h : Looked n k s) (he : Effect s a o t) : Looked n (k ++ [⟨s, a, o, t⟩]) t := by
  refine ⟨h.valid.of_effect he, he.maxsize.trans h.maxsize, fun c q hat => ?_, fun c q hat => ?_⟩
  · have hgone : goneMeanwhile (k ++ [⟨s, a, o, t⟩]) q c =
        goneMeanwhile k q c ++ if s.At c q .get then o.goneFrom q else [] := by
      unfold goneMeanwhile
      rw [List.flatMap_append, List.flatMap_singleton]
    obtain hat | hput | ⟨-, rfl⟩ | ⟨hput, -⟩ := he.moved hat
    · obtain ⟨hn, hlen⟩ := h.full c q hat
      have hheld := he.length_held h.valid q
      rw [hgone, if_pos hat, List.length_append]
      omega
    · cases hput
    · cases he with
      | full hc hfull =>
        rw [h.maxsize] at hfull
        exact ⟨hfull.1, Nat.le_trans hfull.2 (Nat.le_add_right _ _)⟩
    · cases hput
  · obtain hbefore | hput | ⟨hput, -⟩ | ⟨-, oldest, rfl⟩ := he.moved hat
    · obtain hroom | ⟨x, hx, hrest⟩ := h.room c q hbefore
      · obtain hnone | ⟨d, frame, rfl, hone⟩ := storedAt_cases o q
        · refine .inl fun hfull => hroom ⟨hfull.1, ?_⟩
          have hheld := he.length_held h.valid q
          rw [hnone, List.length_nil] at hheld
          have hlen := hfull.2
          omega
        · refine .inr ⟨_, List.mem_append_right _ List.mem_cons_self, d, frame, rfl, ?_, hbefore⟩
          rintro rfl
          exact he.not_at_of_stored h.valid _ hat
      · exact .inr ⟨x, List.mem_append_left _ hx, hrest⟩
    · cases hput
    · cases hput
    · refine .inl fun hfull => ?_
      have hheld := he.length_held h.valid q
      have hbound := h.valid.bounded (h.maxsize ▸ hfull.1) q
      have hlen := hfull.2
      rw [h.maxsize] at hbound
      simp only [Outcome.storedAt, Outcome.goneFrom, if_true, List.length_nil, List.length_singleton] at hheld
      omega

end Looked

theorem run_looked {n : ℕ} {l : Log F} {t : EventStream F} (h : Run step (fresh n) l t) : Looked n l t :=
  h.record (Looked n) (fun _ _ _ _ _ hk hs => hk.of_effect (step_effect hs)) (Looked.fresh n)

/-- Why a frame does not stay in a queue, at one step of a run after the steps `k`. -/
structure Lost (n : ℕ) (k : Log F) (x : Step (EventStream F) (Action F) (Outcome F)) : Prop where
  /-- `queue.Full` leaves a call when another has stored between its `get_nowait` and its `put_nowait`. -/
  raised : ∀ q c, x.out = .raised q c → Crossed k q c
  /-- A queue is left alone when all it held has left it since the call found it full. -/
  skipped : ∀ q c, x.out = .skipped q c → 0 < n ∧ n ≤ (goneMeanwhile k q c).length
  /-- A call drops the oldest frame of a queue it found full, and less has left the queue since. -/
  evicted : ∀ q c frame, x.out = .evicted q c frame →
    (x.pre.held q).head? = some frame ∧ 0 < n ∧ n ≤ (x.pre.held q).length + (goneMeanwhile k q c).length

/-- **Every loss has its reason**, in every run of publishers, subscribers and handlers. -/
theorem stream_losses {n : ℕ} {l₁ l₂ : Log F} {x : Step (EventStream F) (Action F) (Outcome F)}
    {t : EventStream F} (h : Run step (fresh n) (l₁ ++ x :: l₂) t) : Lost n l₁ x := by
  obtain ⟨s, a, o, u⟩ := x
  obtain ⟨hpre, hs, -⟩ := Run.step_at l₁ h
  have hl : Looked n l₁ s := run_looked hpre
  have he : Effect s a o u := step_effect hs
  refine ⟨?_, ?_, ?_⟩
  · rintro q c rfl
    cases he with
    | raised hc hfull =>
      obtain hroom | hcrossed := hl.room c q ⟨_, hc, rfl, rfl⟩
      · exact absurd (hl.maxsize ▸ hfull) hroom
      · exact hcrossed
  · rintro q c rfl
    cases he with
    | skipped hc hheld =>
      have hfull := hl.full c q ⟨_, hc, rfl, rfl⟩
      rwa [hheld, List.length_nil, Nat.zero_add] at hfull
  · rintro q c frame rfl
    cases he with
    | evicted hc hheld => exact ⟨by rw [hheld]; rfl, hl.full c q ⟨_, hc, rfl, rfl⟩⟩

/-- Two publishes at a queue for one frame, and the second takes the room the first had made. -/
theorem stream_losses_crossed : ∃ (l₁ l₂ : Log ℕ) (x : Step (EventStream ℕ) (Action ℕ) (Outcome ℕ))
    (t : EventStream ℕ), Run step (fresh 1) (l₁ ++ x :: l₂) t ∧ x.out = .raised 0 1 ∧ Lost 1 l₁ x := by
  obtain ⟨l, t, h, -, hraised⟩ := Run.of_test (fun (l : Log ℕ) _ => l.any fun x => x.out = .raised 0 1)
    (show ((Machine.play step (fresh 1) [.register, .publish 10, .advance 0, .publish 20, .publish 30,
      .advance 1, .advance 1, .advance 2, .advance 1]).any _) = true by decide)
  simp only [List.any_eq_true, decide_eq_true_eq] at hraised
  obtain ⟨x, hx, hout⟩ := hraised
  obtain ⟨l₁, l₂, rfl⟩ := List.append_of_mem hx
  exact ⟨l₁, l₂, x, t, h, hout, stream_losses h⟩

/-! ## Publishes that do not overlap -/

/-- What is published for this queue. -/
def offerTo (q : ℕ) (s : EventStream F) : Action F → List F
  | .publish frame => if q ∈ s.queues then [frame] else []
  | _ => []

/-- What happens to the queue as a feed: a frame goes in, or the subscriber takes one. -/
def Outcome.trafficAt (q : ℕ) : Outcome F → List (Feed.Event F)
  | .stored q' _ frame => if q' = q then [.offer frame] else []
  | .took q' _ => if q' = q then [.take] else []
  | _ => []

namespace Log

/-- No publish begins while another is under way. -/
def Serial (l : Log F) : Prop := ∀ x ∈ l, ∀ c, x.out = .began c → ∀ d, ¬ x.pre.UnderWay d

/-- The subscriber does not read while a publish makes room in its queue. -/
def Calm (l : Log F) (q : ℕ) : Prop :=
  ∀ x ∈ l, ∀ frame, x.out = .took q frame → ∀ c m, x.pre.At c q m → m = .put

/-- What was published while the queue was in the list. -/
def offered (l : Log F) (q : ℕ) : List F := l.flatMap fun x => offerTo q x.pre x.act

def traffic (l : Log F) (q : ℕ) : List (Feed.Event F) := l.flatMap fun x => x.out.trafficAt q

variable (l : Log F) (x : Step (EventStream F) (Action F) (Outcome F)) (q : ℕ)

theorem offered_concat : offered (l ++ [x]) q = offered l q ++ offerTo q x.pre x.act := by
  unfold offered
  rw [List.flatMap_append, List.flatMap_singleton]

theorem traffic_concat : traffic (l ++ [x]) q = traffic l q ++ x.out.trafficAt q := by
  unfold traffic
  rw [List.flatMap_append, List.flatMap_singleton]

end Log

/-- At most one publish is under way. -/
def Alone (s : EventStream F) : Prop := ∀ c d, s.UnderWay c → s.UnderWay d → c = d

/-- What is under way was so before, or has just begun. -/
theorem Effect.underWay {s t : EventStream F} {a : Action F} {o : Outcome F} (h : Effect s a o t) {c : ℕ}
    (hc : t.UnderWay c) : s.UnderWay c ∨ o = .began c := by
  obtain ⟨p, hp, hne⟩ := hc
  obtain ⟨p', hp', -, hsub⟩ | ⟨-, -, rfl, -⟩ := h.calls hp
  · exact .inl ⟨p', hp', fun hnil => hne (List.sublist_nil.mp (hnil ▸ hsub))⟩
  · exact .inr rfl

theorem Alone.of_effect {s t : EventStream F} {a : Action F} {o : Outcome F} (h : Alone s) (he : Effect s a o t)
    (hserial : ∀ c, o = .began c → ∀ d, ¬ s.UnderWay d) : Alone t := by
  intro c d hc hd
  obtain hc' | rfl := he.underWay hc
  · obtain hd' | rfl := he.underWay hd
    · exact h c d hc' hd'
    · exact absurd hc' (hserial d rfl c)
  · obtain hd' | hd' := he.underWay hd
    · exact absurd hd' (hserial c rfl d)
    · exact Outcome.began.inj hd'

theorem fresh_alone (n : ℕ) : Alone (EventStream.fresh n : EventStream F) := by
  rintro c d ⟨p, hp, -⟩
  cases hp

theorem serial_alone {n : ℕ} {l : Log F} {t : EventStream F} (h : Run step (fresh n) l t) (hl : Serial l) :
    Alone t :=
  h.history (fun _ s => Alone s) (fun _ x => ∀ c, x.out = .began c → ∀ d, ¬ x.pre.UnderWay d)
    (fun _ _ _ _ _ hs hstep hx => hs.of_effect (step_effect hstep) hx) [] (fresh_alone n)
    fun l₁ x l₂ heq => hl x (heq ▸ by simp)

/-- Only an overlapped publish raises. -/
theorem serial_not_raised {n : ℕ} {l : Log F} {t : EventStream F} (h : Run step (fresh n) l t) (hl : Serial l)
    {x : Step (EventStream F) (Action F) (Outcome F)} (hx : x ∈ l) (q c : ℕ) : x.out ≠ .raised q c := by
  intro hout
  obtain ⟨l₁, l₂, rfl, hpre, -, -⟩ := h.of_mem hx
  obtain ⟨y, hy, d, frame, hstored, hne, hat⟩ := (stream_losses h).raised q c hout
  obtain ⟨k₁, k₂, rfl, hy₁, hstep, -⟩ := hpre.of_mem hy
  have hserial : Serial k₁ := fun z hz => hl z (by simp [hz])
  have he := step_effect hstep
  rw [hstored] at he
  obtain ⟨p, rest, hp, -, htargets, -⟩ := he.stores
  refine hne (serial_alone hy₁ hserial d c ⟨p, hp, ?_⟩ hat.underWay)
  rw [htargets]
  exact List.cons_ne_nil _ _

/-- The queue is a feed, between the `get_nowait` and the second `put_nowait` of a call one frame short of
it, and what was published is stored or about to be. -/
structure Feeds (n q : ℕ) (k : Log F) (s : EventStream F) : Prop where
  valid : Valid s
  maxsize : s.maxsize = n
  alone : Alone s
  full : ∀ c, s.At c q .get → 0 < n ∧ (s.held q).length = n
  short : ∀ c, s.At c q .putAgain →
    ∃ oldest, (oldest :: s.held q).length = n ∧ holds n (traffic k q) = oldest :: s.held q
  feed : (∀ c, ¬ s.At c q .putAgain) → holds n (traffic k q) = s.held q
  due : ∀ c p, s.calls c = some p → q ∈ p.targets → offered k q = (stored k q).map Prod.snd ++ [p.frame]
  done : (∀ c p, s.calls c = some p → q ∉ p.targets) → offered k q = (stored k q).map Prod.snd

namespace Feeds

variable {n q : ℕ} {k : Log F} {s t : EventStream F} {a : Action F} {o : Outcome F}

theorem fresh (n q : ℕ) : Feeds n q [] (EventStream.fresh n : EventStream F) where
  valid := fresh_valid n
  maxsize := rfl
  alone := fresh_alone n
  full := by simp [At, EventStream.fresh]
  short := by simp [At, EventStream.fresh]
  feed := fun _ => rfl
  due := by simp [EventStream.fresh]
  done := fun _ => rfl

/-- The steps of a run that `Serial` and `Calm` allow. -/
structure Allowed (q : ℕ) (s : EventStream F) (o : Outcome F) : Prop where
  serial : ∀ c, o = .began c → ∀ d, ¬ s.UnderWay d
  calm : ∀ frame, o = .took q frame → ∀ c m, s.At c q m → m = .put
  lasting : ∀ q c, o ≠ .raised q c

/-- While a call stays where it is in the middle of a drop, so does the queue. -/
theorem still (h : Feeds n q k s) (he : Effect s a o t) (ha : Allowed q s o) {c : ℕ} {m : Move} (hm : m ≠ .put)
    (hs : s.At c q m) (ht : t.At c q m) : o.trafficAt q = [] ∧ t.held q = s.held q := by
  have hself : ∀ {d q' : ℕ} {frame : F} {rest : List ℕ} {m' : Move},
      s.calls d = some ⟨frame, q' :: rest, m'⟩ → c = d ∧ q = q' ∧ m = m' := by
    intro d q' frame rest m' hd
    have hat : s.At d q' m' := ⟨_, hd, rfl, rfl⟩
    obtain rfl := h.alone c d hs.underWay hat.underWay
    exact ⟨rfl, hs.eq hat⟩
  cases he with
  | registered =>
    refine ⟨rfl, ?_⟩
    rw [register_held]
    by_cases hq : q = s.made
    · rw [hq, Function.update_self, h.valid.unmade _ (Nat.le_refl _)]
    · rw [Function.update_of_ne hq]
  | unregistered q' => exact ⟨rfl, rfl⟩
  | began frame => exact ⟨rfl, rfl⟩
  | stored hc hm' hroom =>
    obtain ⟨rfl, rfl, -⟩ := hself hc
    exact absurd ht ((Effect.stored hc hm' hroom).not_at_of_stored h.valid m)
  | full hc hfull => exact ⟨rfl, rfl⟩
  | evicted hc hheld =>
    obtain ⟨rfl, rfl, rfl⟩ := hself hc
    obtain ⟨p, hp, -, hmove⟩ := ht
    rw [goOn_calls, Function.update_self, Option.mem_some_iff] at hp
    subst hp
    cases hmove
  | skipped hc hheld => exact ⟨rfl, rfl⟩
  | raised hc hfull => exact ⟨rfl, rfl⟩
  | @took q' frame held hheld =>
    by_cases hq : q' = q
    · exact absurd (ha.calm frame (by rw [hq]) c m hs) hm
    · rw [hold_held, Function.update_of_ne (Ne.symm hq)]
      exact ⟨if_neg hq, rfl⟩

theorem full_of_effect (h : Feeds n q k s) (he : Effect s a o t) (ha : Allowed q s o) {c : ℕ}
    (hat : t.At c q .get) : 0 < n ∧ (t.held q).length = n := by
  obtain hbefore | hput | ⟨-, rfl⟩ | ⟨hput, -⟩ := he.moved hat
  · rw [(h.still he ha (by decide) hbefore hat).2]
    exact h.full c hbefore
  · cases hput
  · cases he with
    | full hc hfull =>
      rw [h.maxsize] at hfull
      have hbound := h.valid.bounded (h.maxsize ▸ hfull.1) q
      rw [h.maxsize] at hbound
      exact ⟨hfull.1, Nat.le_antisymm hbound hfull.2⟩
  · cases hput

theorem short_of_effect (h : Feeds n q k s) (he : Effect s a o t) (ha : Allowed q s o) {c : ℕ}
    (hat : t.At c q .putAgain) : ∃ oldest, (oldest :: t.held q).length = n ∧
      holds n (traffic (k ++ [⟨s, a, o, t⟩]) q) = oldest :: t.held q := by
  rw [traffic_concat]
  obtain hbefore | hput | ⟨hput, -⟩ | ⟨-, oldest, rfl⟩ := he.moved hat
  · obtain ⟨hnone, hheld⟩ := h.still he ha (by decide) hbefore hat
    simp only [hnone, hheld, List.append_nil]
    exact h.short c hbefore
  · cases hput
  · cases hput
  · cases he with
    | @evicted _ _ frame _ rest held hc hheld =>
      have hget : s.At c q .get := ⟨_, hc, rfl, rfl⟩
      have hnot : ∀ d, ¬ s.At d q .putAgain := by
        intro d hd
        obtain rfl := h.alone c d hget.underWay hd.underWay
        exact absurd (hget.eq hd).2 (by decide)
      refine ⟨oldest, ?_, ?_⟩
      · rw [goOn_held, hold_held, Function.update_self, ← hheld]
        exact (h.full c hget).2
      · simp only [Outcome.trafficAt, List.append_nil, goOn_held, hold_held, Function.update_self]
        rw [h.feed hnot, hheld]

theorem feed_of_effect (h : Feeds n q k s) (he : Effect s a o t) (ha : Allowed q s o)
    (hnot : ∀ c, ¬ t.At c q .putAgain) : holds n (traffic (k ++ [⟨s, a, o, t⟩]) q) = t.held q := by
  rw [traffic_concat]
  -- a step of one call leaves no other call in the middle of a drop
  have hother : ∀ {d q' : ℕ} {frame : F} {rest : List ℕ} {m : Move},
      s.calls d = some ⟨frame, q' :: rest, m⟩ → q ≠ q' ∨ m ≠ .putAgain → ∀ c, ¬ s.At c q .putAgain := by
    intro d q' frame rest m hd hor c hc
    have hat : s.At d q' m := ⟨_, hd, rfl, rfl⟩
    obtain rfl := h.alone c d hc.underWay hat.underWay
    obtain ⟨hq, hm⟩ := hc.eq hat
    obtain hne | hne := hor
    · exact hne hq
    · exact hne hm.symm
  cases he with
  | registered =>
    simp only [Outcome.trafficAt, List.append_nil]
    rw [h.feed hnot, register_held]
    by_cases hq : q = s.made
    · rw [hq, Function.update_self, h.valid.unmade _ (Nat.le_refl _)]
    · rw [Function.update_of_ne hq]
  | unregistered q' =>
    simp only [Outcome.trafficAt, List.append_nil]
    exact h.feed hnot
  | began frame =>
    simp only [Outcome.trafficAt, List.append_nil]
    exact h.feed fun c hc => ha.serial _ rfl c hc.underWay
  | @stored d q' frame rest m hc hm hroom =>
    by_cases hq : q' = q
    · subst hq
      simp only [Outcome.trafficAt, if_true, goOn_held, hold_held, Function.update_self, Feed.holds_concat,
        Feed.Event.on]
      have hat : s.At d q' m := ⟨_, hc, rfl, rfl⟩
      cases m with
      | put =>
        rw [h.feed (hother hc (.inr (by decide))), Feed.newest_of_not_full (h.maxsize ▸ hroom)]
      | get => exact absurd rfl hm
      | putAgain =>
        obtain ⟨oldest, hlen, hholds⟩ := h.short d hat
        rw [hholds, Feed.newest_of_full hlen]
    · simp only [Outcome.trafficAt, if_neg hq, List.append_nil, goOn_held, hold_held]
      rw [Function.update_of_ne (Ne.symm hq)]
      exact h.feed (hother hc (.inl (Ne.symm hq)))
  | full hc hfull =>
    simp only [Outcome.trafficAt, List.append_nil]
    exact h.feed (hother hc (.inr (by decide)))
  | @evicted d q' frame oldest rest held hc hheld =>
    have hq : q ≠ q' := by
      rintro rfl
      exact hnot d ⟨_, by rw [goOn_calls, Function.update_self]; rfl, rfl, rfl⟩
    simp only [Outcome.trafficAt, List.append_nil, goOn_held, hold_held]
    rw [Function.update_of_ne hq]
    exact h.feed (hother hc (.inl hq))
  | skipped hc hheld =>
    simp only [Outcome.trafficAt, List.append_nil]
    exact h.feed (hother hc (.inr (by decide)))
  | raised hc hfull => exact absurd rfl (ha.lasting _ _)
  | @took q' frame held hheld =>
    by_cases hq : q' = q
    · subst hq
      have hfeed := h.feed fun c hc => absurd (ha.calm frame rfl c _ hc) (by decide)
      simp only [Outcome.trafficAt, if_true, hold_held, Function.update_self, Feed.holds_concat, Feed.Event.on]
      rw [hfeed, hheld, List.tail_cons]
    · simp only [Outcome.trafficAt, if_neg hq, List.append_nil, hold_held]
      rw [Function.update_of_ne (Ne.symm hq)]
      exact h.feed hnot

/-- A call that stores in the queue had it next, and is past it then. -/
theorem stored_by (h : Feeds n q k s) (he : Effect s a o t) {d : ℕ} {frame : F} (ho : o = .stored q d frame) :
    ∃ p, s.calls d = some p ∧ q ∈ p.targets ∧ p.frame = frame ∧ ∀ p', t.calls d = some p' → q ∉ p'.targets := by
  subst ho
  obtain ⟨p, rest, hp, hframe, htargets, ht⟩ := he.stores
  refine ⟨p, hp, htargets ▸ List.mem_cons_self, hframe, fun p' hp' => ?_⟩
  obtain rfl := Option.some.inj (ht.symm.trans hp')
  exact (List.nodup_cons.mp (htargets ▸ h.valid.targets_nodup d p hp)).1

theorem underWay_of_mem {c : ℕ} {p : Publish F} (hp : s.calls c = some p) (hq : q ∈ p.targets) : s.UnderWay c :=
  ⟨p, hp, List.ne_nil_of_mem hq⟩

/-- While a publish is under way nothing new is published. -/
theorem offerTo_eq_nil (he : Effect s a o t) (ha : Allowed q s o) {c : ℕ} (hc : s.UnderWay c) :
    offerTo q s a = [] := by
  cases he with
  | began frame => exact absurd hc (ha.serial _ rfl c)
  | _ => rfl

theorem due_of_effect (h : Feeds n q k s) (he : Effect s a o t) (ha : Allowed q s o) {c : ℕ} {p : Publish F}
    (hp : t.calls c = some p) (hq : q ∈ p.targets) :
    offered (k ++ [⟨s, a, o, t⟩]) q =
      (stored (k ++ [⟨s, a, o, t⟩]) q).map Prod.snd ++ [p.frame] := by
  rw [offered_concat, stored_concat]
  obtain ⟨p', hp', hframe, hsub⟩ | ⟨rfl, rfl, rfl, hqueues⟩ := he.calls hp
  · have hq' : q ∈ p'.targets := hsub.subset hq
    have hway : s.UnderWay c := underWay_of_mem hp' hq'
    have hnone : o.storedAt q = [] := by
      obtain hnone | ⟨d, frame, ho, -⟩ := storedAt_cases o q
      · exact hnone
      · obtain ⟨r, hr, hqr, -, hpast⟩ := h.stored_by he ho
        obtain rfl := h.alone c d hway (underWay_of_mem hr hqr)
        exact absurd hq (hpast p hp)
    simp only [offerTo_eq_nil he ha hway, hnone, List.append_nil]
    rw [h.due c p' hp' hq', hframe]
  · have hidle : ∀ d r, s.calls d = some r → q ∉ r.targets := fun d r hr hqr =>
      ha.serial _ rfl d (underWay_of_mem hr hqr)
    have hlisted : q ∈ s.queues := hqueues ▸ hq
    simp only [offerTo, if_pos hlisted, Outcome.storedAt, List.append_nil]
    rw [h.done hidle]

theorem done_of_effect (h : Feeds n q k s) (he : Effect s a o t) (ha : Allowed q s o)
    (hidle : ∀ c p, t.calls c = some p → q ∉ p.targets) :
    offered (k ++ [⟨s, a, o, t⟩]) q = (stored (k ++ [⟨s, a, o, t⟩]) q).map Prod.snd := by
  rw [offered_concat, stored_concat, List.map_append]
  by_cases hbusy : ∃ c p, s.calls c = some p ∧ q ∈ p.targets
  · obtain ⟨c, p, hp, hq⟩ := hbusy
    have hlt := Nat.ne_of_lt (h.valid.begun c p hp)
    obtain ⟨p', hp'⟩ := he.keeps hlt hp
    simp only [offerTo_eq_nil he ha (underWay_of_mem hp hq), List.append_nil]
    obtain rfl | rfl | ⟨q', rfl⟩ := he.passes hlt hp hp' hq (hidle c p' hp')
    · rw [h.due c p hp hq]
      simp [Outcome.storedAt]
    · cases he with
      | skipped hc hheld =>
        -- the queue the call found full is full still
        obtain ⟨hn, hlen⟩ := h.full c ⟨_, hc, rfl, rfl⟩
        rw [hheld, List.length_nil] at hlen
        omega
    · exact absurd rfl (ha.lasting _ _)
  · have hnone : o.storedAt q = [] := by
      obtain hnone | ⟨d, frame, ho, -⟩ := storedAt_cases o q
      · exact hnone
      · obtain ⟨r, hr, hqr, -⟩ := h.stored_by he ho
        exact absurd ⟨d, r, hr, hqr⟩ hbusy
    have hoffer : offerTo q s a = [] := by
      cases he with
      | began frame =>
        exact if_neg fun hq => hidle s.begun _ (by rw [publish_calls, Function.update_self]) hq
      | _ => rfl
    simp only [hnone, hoffer, List.map_nil, List.append_nil]
    exact h.done fun c p hp hq => hbusy ⟨c, p, hp, hq⟩

theorem of_effect (h : Feeds n q k s) (he : Effect s a o t) (ha : Allowed q s o) :
    Feeds n q (k ++ [⟨s, a, o, t⟩]) t where
  valid := h.valid.of_effect he
  maxsize := he.maxsize.trans h.maxsize
  alone := h.alone.of_effect he ha.serial
  full := fun _ hat => h.full_of_effect he ha hat
  short := fun _ hat => h.short_of_effect he ha hat
  feed := h.feed_of_effect he ha
  due := fun _ _ hp hq => h.due_of_effect he ha hp hq
  done := h.done_of_effect he ha

end Feeds

theorem run_feeds {n : ℕ} {l : Log F} {t : EventStream F} (h : Run step (fresh n) l t) (hserial : Serial l)
    {q : ℕ} (hcalm : Calm l q) : Feeds n q l t := by
  refine h.history (Feeds n q) (fun _ x => Feeds.Allowed q x.pre x.out)
    (fun k s a o t hs hstep hx => hs.of_effect (step_effect hstep) hx) [] (Feeds.fresh n q) ?_
  rintro l₁ x l₂ rfl
  have hx : x ∈ l₁ ++ x :: l₂ := List.mem_append_right _ List.mem_cons_self
  exact ⟨hserial x hx, hcalm x hx, serial_not_raised h hserial hx⟩

theorem trafficAt_of_not_taken {o : Outcome F} {q : ℕ} (h : o.takenFrom q = []) :
    o.trafficAt q = ((o.storedAt q).map Prod.snd).map Feed.Event.offer := by
  cases o with
  | stored q' c frame =>
    simp only [Outcome.trafficAt, Outcome.storedAt]
    split_ifs <;> rfl
  | took q' frame =>
    simp only [Outcome.takenFrom] at h
    split_ifs at h with hq
    exact if_neg hq
  | _ => rfl

/-- Nothing but frames that go in happens to a queue nobody takes from. -/
theorem traffic_of_not_taken {l : Log F} {q : ℕ} (h : taken l q = []) :
    traffic l q = ((stored l q).map Prod.snd).map Feed.Event.offer := by
  induction l with
  | nil => rfl
  | cons x l ih =>
    unfold taken at h
    rw [List.flatMap_cons, List.append_eq_nil_iff] at h
    unfold traffic stored
    rw [List.flatMap_cons, List.flatMap_cons, List.map_append, List.map_append, trafficAt_of_not_taken h.1]
    exact congrArg _ (ih h.2)

/-- A queue that is a feed of what was published for it. -/
structure Fed (n : ℕ) (l : Log F) (t : EventStream F) (q : ℕ) : Prop where
  holds : t.held q = Feed.holds n (traffic l q)
  stored : (stored l q).map Prod.snd = offered l q
  /-- A browser that has stalled finds the newest frames. -/
  stalled : taken l q = [] → t.held q = newest n (offered l q)

/-- **The event stream feeds**: in every run whose publishes do not overlap none of them raises, and when
none is under way, the queue of every subscriber that did not read in the middle of a drop is a feed of what
was published for it. -/
theorem stream_feeds {n : ℕ} {l : Log F} {t : EventStream F} (h : Run step (fresh n) l t) (hserial : Serial l)
    (hquiet : ∀ c, ¬ t.UnderWay c) :
    (∀ x ∈ l, ∀ q c, x.out ≠ .raised q c) ∧ ∀ q, Calm l q → Fed n l t q := by
  refine ⟨fun x hx => serial_not_raised h hserial hx, fun q hcalm => ?_⟩
  have hf := run_feeds h hserial hcalm
  have hfeed := hf.feed fun c hc => hquiet c hc.underWay
  have hdone := hf.done fun c p hp hq => hquiet c (Feeds.underWay_of_mem hp hq)
  refine ⟨hfeed.symm, hdone.symm, fun htaken => ?_⟩
  rw [← hfeed, traffic_of_not_taken htaken, Feed.holds_offers, hdone]

theorem underWay_lt {n : ℕ} {l : Log F} {t : EventStream F} (h : Run step (fresh n) l t) {c : ℕ}
    (hc : t.UnderWay c) : c < t.begun := by
  obtain ⟨p, hp, -⟩ := hc
  exact (run_valid h).begun c p hp

/-- A third frame drops the first from a queue for two, and its browser reads the second. -/
theorem stream_feeds_two : ∃ (l : Log ℕ) (t : EventStream ℕ), Run step (fresh 2) l t ∧
    (∀ x ∈ l, ∀ q c, x.out ≠ .raised q c) ∧ taken l 0 = [20] ∧ t.held 0 = [30] ∧ Fed 2 l t 0 := by
  obtain ⟨l, t, h, -, htest⟩ := Run.of_test (fun (l : Log ℕ) (t : EventStream ℕ) => decide
      ((∀ x ∈ l, x.out = .began x.pre.begun → ∀ d < x.pre.begun, ¬ x.pre.UnderWay d) ∧
      (∀ x ∈ l, x.out.takenFrom 0 ≠ [] → ∀ d < x.pre.begun, ¬ x.pre.UnderWay d) ∧
      (∀ d < t.begun, ¬ t.UnderWay d) ∧ taken l 0 = [20] ∧ t.held 0 = [30]))
    (show ((Machine.play step (fresh 2) [.register, .publish 10, .advance 0, .publish 20, .advance 1,
      .publish 30, .advance 2, .advance 2, .advance 2, .take 0]).any _) = true by decide)
  rw [decide_eq_true_eq] at htest
  obtain ⟨hserial, hcalm, hquiet, htaken, hheld⟩ := htest
  have hpre : ∀ x ∈ l, ∀ c, x.pre.UnderWay c → c < x.pre.begun := by
    intro x hx c hc
    obtain ⟨l₁, l₂, -, hbefore, -, -⟩ := h.of_mem hx
    exact underWay_lt hbefore hc
  obtain ⟨hnone, hfed⟩ := stream_feeds h
    (fun x hx c hout d hd => by
      obtain ⟨l₁, l₂, -, -, hstep, -⟩ := h.of_mem hx
      have hc := (hout ▸ step_effect hstep).begins.1
      exact hserial x hx (hc ▸ hout) d (hpre x hx d hd) hd)
    (fun c hc => hquiet c (underWay_lt h hc) hc)
  refine ⟨l, t, h, hnone, htaken, hheld, hfed 0 fun x hx frame hout c m hat => ?_⟩
  refine absurd hat.underWay (hcalm x hx ?_ c (hpre x hx c hat.underWay))
  rw [hout]
  exact List.cons_ne_nil _ _

end Sbegw.Api.Stream
