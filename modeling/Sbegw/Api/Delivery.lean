import Sbegw.Api.Stream

/-!
# What the event stream delivers

The runs of the event stream, with any number of publishers and browsers in any order.  A browser is
handed frames that were published while it was in the list, each publish at most once, and one that had
ended before another began comes first.  A frame that misses a queue is one whose publish found the queue
full and then empty, or was ended by `queue.Full`.
-/

namespace Sbegw.Api.Stream

open Machine (Step Run)
open EventStream

variable {F : Type}

/-! ## What the runs tell of a queue -/

/-- What is stored in this queue, and by which call. -/
def Outcome.storedAt (q : ℕ) : Outcome F → List (ℕ × F)
  | .stored q' c frame => if q' = q then [(c, frame)] else []
  | _ => []

theorem Outcome.storedAt_stored (q q' c : ℕ) (frame : F) :
    (Outcome.stored q' c frame).storedAt q = if q' = q then [(c, frame)] else [] := rfl

/-- What a subscriber gets out of this queue. -/
def Outcome.takenFrom (q : ℕ) : Outcome F → List F
  | .took q' frame => if q' = q then [frame] else []
  | _ => []

/-- What leaves this queue, to its subscriber or to make room. -/
def Outcome.goneFrom (q : ℕ) : Outcome F → List F
  | .took q' frame => if q' = q then [frame] else []
  | .evicted q' _ frame => if q' = q then [frame] else []
  | _ => []

/-- The steps of a run so far. -/
abbrev Log (F : Type) := List (Step (EventStream F) (Action F) (Outcome F))

namespace Log

def stored (l : Log F) (q : ℕ) : List (ℕ × F) := l.flatMap fun x => x.out.storedAt q

def taken (l : Log F) (q : ℕ) : List F := l.flatMap fun x => x.out.takenFrom q

def gone (l : Log F) (q : ℕ) : List F := l.flatMap fun x => x.out.goneFrom q

/-- The call had ended when the other began. -/
def EndedBefore (l : Log F) (c d : ℕ) : Prop := ∃ x ∈ l, x.out = .began d ∧ x.pre.Over c

/-- The queue ran empty after the call had found it full. -/
def Skipped (l : Log F) (q c : ℕ) : Prop := ∃ x ∈ l, x.out = .skipped q c

/-- `queue.Full` left the call. -/
def Raised (l : Log F) (c : ℕ) : Prop := ∃ x ∈ l, ∃ q, x.out = .raised q c

variable (l : Log F) (x : Step (EventStream F) (Action F) (Outcome F)) (q : ℕ)

theorem stored_concat : stored (l ++ [x]) q = stored l q ++ x.out.storedAt q := by
  unfold stored
  rw [List.flatMap_append, List.flatMap_singleton]

end Log

open Log

theorem taken_sublist (l : Log F) (q : ℕ) : (taken l q).Sublist (gone l q) := by
  induction l with
  | nil => exact List.Sublist.refl _
  | cons x l ih =>
    have hx : (x.out.takenFrom q).Sublist (x.out.goneFrom q) := by
      cases x.out with
      | took q' frame => exact List.Sublist.refl _
      | _ => exact List.nil_sublist _
    unfold taken gone
    rw [List.flatMap_cons, List.flatMap_cons]
    exact hx.append ih

namespace Effect

variable {s t : EventStream F} {a : Action F} {o : Outcome F}

/-- What a queue has and what is stored in it is what leaves it and what it has then. -/
theorem balance (h : Effect s a o t) (hs : Valid s) (q : ℕ) :
    s.held q ++ (o.storedAt q).map Prod.snd = o.goneFrom q ++ t.held q := by
  cases h with
  | registered =>
    rw [register_held]
    by_cases hq : q = s.made
    · rw [hq, Function.update_self, hs.unmade _ (Nat.le_refl _)]
      rfl
    · rw [Function.update_of_ne hq]
      exact List.append_nil _
  | unregistered q' => exact List.append_nil _
  | began frame => exact List.append_nil _
  | @stored c q' frame rest m hc hm hroom =>
    rw [goOn_held, hold_held]
    by_cases hq : q' = q
    · subst hq
      simp [Outcome.storedAt, Outcome.goneFrom]
    · rw [Function.update_of_ne (Ne.symm hq)]
      simp [Outcome.storedAt, Outcome.goneFrom, hq]
  | full hc hfull => exact List.append_nil _
  | @evicted c q' frame oldest rest held hc hheld =>
    rw [goOn_held, hold_held]
    by_cases hq : q' = q
    · subst hq
      simp [Outcome.storedAt, Outcome.goneFrom, hheld]
    · rw [Function.update_of_ne (Ne.symm hq)]
      simp [Outcome.storedAt, Outcome.goneFrom, hq]
  | skipped hc hq => exact List.append_nil _
  | raised hc hfull => exact List.append_nil _
  | @took q' frame held hheld =>
    rw [hold_held]
    by_cases hq : q' = q
    · subst hq
      simp [Outcome.storedAt, Outcome.goneFrom, hheld]
    · rw [Function.update_of_ne (Ne.symm hq)]
      simp [Outcome.storedAt, Outcome.goneFrom, hq]

end Effect

/-- **The books of a queue** over a run: all that was stored in it has left it or is there, in order. -/
theorem stored_eq {n : ℕ} {l : Log F} {t : EventStream F} (h : Run step (fresh n) l t) (q : ℕ) :
    (stored l q).map Prod.snd = gone l q ++ t.held q := by
  have hledger := h.ledger (fun s => s.held q) (fun x => (x.out.storedAt q).map Prod.snd)
    (fun x => x.out.goneFrom q) fun x hx hs => by
      obtain ⟨l₁, l₂, rfl, hpre, -, -⟩ := h.of_mem hx
      exact (step_effect hs).balance (run_valid hpre) q
  rw [← List.map_flatMap] at hledger
  exact hledger

/-! ## Calls and queues -/

theorem mem_storedAt {o : Outcome F} {q : ℕ} {e : ℕ × F} : e ∈ o.storedAt q ↔ o = .stored q e.1 e.2 := by
  cases o with
  | stored q' c frame =>
    rw [Outcome.storedAt_stored]
    split_ifs with hq
    · rw [List.mem_singleton, hq, Outcome.stored.injEq]
      constructor
      · rintro rfl
        exact ⟨rfl, rfl, rfl⟩
      · rintro ⟨-, rfl, rfl⟩
        rfl
    · rw [Outcome.stored.injEq]
      exact ⟨fun he => absurd he List.not_mem_nil, fun he => absurd he.1 hq⟩
  | _ => exact ⟨fun he => absurd he List.not_mem_nil, fun he => by cases he⟩

/-- A queue gets one frame from a step, if any. -/
theorem storedAt_cases (o : Outcome F) (q : ℕ) :
    o.storedAt q = [] ∨ ∃ c frame, o = .stored q c frame ∧ o.storedAt q = [(c, frame)] := by
  cases o with
  | stored q' c frame =>
    rw [Outcome.storedAt_stored]
    split_ifs with hq
    · exact .inr ⟨c, frame, by rw [hq], rfl⟩
    · exact .inl rfl
  | _ => exact .inl rfl

/-- Every call of the state and every frame stored in a queue goes back to the beginning of the call, with
the queue in the list then; what a call has left it has not stored yet; each call is stored once. -/
structure Traced (k : Log F) (s : EventStream F) : Prop where
  valid : Valid s
  calls : ∀ c p, s.calls c = some p →
    ∃ x ∈ k, x.act = .publish p.frame ∧ x.out = .began c ∧ ∀ q ∈ p.targets, q ∈ x.pre.queues
  stored : ∀ q, ∀ e ∈ stored k q, ∃ x ∈ k, x.act = .publish e.2 ∧ x.out = .began e.1 ∧ q ∈ x.pre.queues
  there : ∀ q, ∀ e ∈ Log.stored k q, ∃ p, s.calls e.1 = some p ∧ q ∉ p.targets
  once : ∀ q, ((Log.stored k q).map Prod.fst).Nodup

namespace Traced

variable {k : Log F} {s t : EventStream F} {a : Action F} {o : Outcome F}

theorem fresh (n : ℕ) : Traced [] (EventStream.fresh n : EventStream F) where
  valid := fresh_valid n
  calls := by simp [EventStream.fresh]
  stored := by simp [Log.stored]
  there := by simp [Log.stored]
  once := by simp [Log.stored]

theorem lt_begun (h : Traced k s) {q : ℕ} {e : ℕ × F} (he : e ∈ Log.stored k q) : e.1 < s.begun := by
  obtain ⟨p, hp, -⟩ := h.there q e he
  exact h.valid.begun e.1 p hp

/-- A call that stores something now has not stored it before. -/
theorem not_mem (h : Traced k s) {c q : ℕ} {p : Publish F} (hp : s.calls c = some p) (hq : q ∈ p.targets) :
    c ∉ (Log.stored k q).map Prod.fst := by
  intro hmem
  obtain ⟨e, he, rfl⟩ := List.mem_map.mp hmem
  obtain ⟨p', hp', hq'⟩ := h.there q e he
  rw [hp, Option.some.injEq] at hp'
  exact hq' (hp' ▸ hq)

theorem of_effect (h : Traced k s) (he : Effect s a o t) : Traced (k ++ [⟨s, a, o, t⟩]) t := by
  have hnew : ∀ {c q : ℕ} {frame : F}, o = .stored q c frame →
      ∃ p, s.calls c = some p ∧ p.frame = frame ∧ q ∈ p.targets ∧
        ∃ p', t.calls c = some p' ∧ q ∉ p'.targets := by
    rintro c q frame rfl
    obtain ⟨p, rest, hp, hframe, htargets, ht⟩ := he.stores
    refine ⟨p, hp, hframe, htargets ▸ List.mem_cons_self, _, ht, ?_⟩
    exact (List.nodup_cons.mp (htargets ▸ h.valid.targets_nodup c p hp)).1
  refine ⟨h.valid.of_effect he, fun c p hp => ?_, fun q e hmem => ?_, fun q e hmem => ?_, fun q => ?_⟩
  · obtain ⟨p', hp', hframe, hsub⟩ | ⟨rfl, rfl, rfl, hqueues⟩ := he.calls hp
    · obtain ⟨x, hx, hact, hout, hq⟩ := h.calls c p' hp'
      exact ⟨x, List.mem_append_left _ hx, hframe ▸ hact, hout, fun q hmem => hq q (hsub.subset hmem)⟩
    · exact ⟨_, List.mem_append_right _ List.mem_cons_self, rfl, rfl, fun q hmem => hqueues ▸ hmem⟩
  · rw [stored_concat, List.mem_append, mem_storedAt] at hmem
    obtain hmem | hout := hmem
    · obtain ⟨x, hx, hrest⟩ := h.stored q e hmem
      exact ⟨x, List.mem_append_left _ hx, hrest⟩
    · obtain ⟨p, hp, hframe, hq, -⟩ := hnew hout
      obtain ⟨x, hx, hact, hbegan, hqueues⟩ := h.calls e.1 p hp
      exact ⟨x, List.mem_append_left _ hx, hframe ▸ hact, hbegan, hqueues q hq⟩
  · rw [stored_concat, List.mem_append, mem_storedAt] at hmem
    obtain hmem | hout := hmem
    · obtain ⟨p, hp, hq⟩ := h.there q e hmem
      obtain ⟨p', hp'⟩ := he.keeps (Nat.ne_of_lt (h.lt_begun hmem)) hp
      obtain ⟨r, hr, -, hsub⟩ | ⟨hbegun, -⟩ := he.calls hp'
      · rw [hp, Option.some.injEq] at hr
        exact ⟨p', hp', fun hq' => hq (hr ▸ hsub.subset hq')⟩
      · exact absurd hbegun (Nat.ne_of_lt (h.lt_begun hmem))
    · obtain ⟨-, -, -, -, p', hp', hq⟩ := hnew hout
      exact ⟨p', hp', hq⟩
  · rw [stored_concat, List.map_append]
    obtain hnone | ⟨c, frame, hout, hone⟩ := storedAt_cases o q
    · rw [hnone, List.map_nil, List.append_nil]
      exact h.once q
    · obtain ⟨p, hp, -, hq, -⟩ := hnew hout
      rw [hone, List.map_singleton, List.nodup_append]
      refine ⟨h.once q, List.pairwise_singleton _ _, fun d hd d' hd' => ?_⟩
      rw [List.mem_singleton] at hd'
      rintro rfl
      obtain rfl : d = c := hd'
      exact h.not_mem hp hq hd

end Traced

theorem run_traced {n : ℕ} {l : Log F} {t : EventStream F} (h : Run step (fresh n) l t) : Traced l t :=
  h.record Traced (fun _ _ _ _ _ hk hs => hk.of_effect (step_effect hs)) (Traced.fresh n)

theorem endedBefore_concat {k : Log F} {x : Step (EventStream F) (Action F) (Outcome F)} {c d : ℕ} :
    EndedBefore (k ++ [x]) c d ↔ EndedBefore k c d ∨ (x.out = .began d ∧ x.pre.Over c) := by
  unfold EndedBefore
  simp only [List.mem_append, List.mem_singleton, or_and_right, exists_or, exists_eq_left]

namespace Effect

variable {s t : EventStream F} {a : Action F} {o : Outcome F}

/-- A call begins with all of the list before it. -/
theorem begins {c : ℕ} (h : Effect s a (.began c) t) :
    c = s.begun ∧ ∀ p, t.calls c = some p → p.targets = s.queues := by
  cases h with
  | began frame =>
    refine ⟨rfl, fun p hp => ?_⟩
    rw [publish_calls, Function.update_self, Option.some.injEq] at hp
    exact hp ▸ rfl

/-- What has ended stays so. -/
theorem stays_over (h : Effect s a o t) (hs : Valid s) {c : ℕ} (hc : s.Over c) : t.Over c := by
  obtain ⟨p, hp, hnil⟩ := hc
  have hlt := Nat.ne_of_lt (hs.begun c p hp)
  obtain ⟨p', hp'⟩ := h.keeps hlt hp
  obtain ⟨r, hr, -, hsub⟩ | ⟨hbegun, -⟩ := h.calls hp'
  · obtain rfl := Option.some.inj (hp.symm.trans hr)
    exact ⟨p', hp', List.sublist_nil.mp (hnil ▸ hsub)⟩
  · exact absurd hbegun hlt

end Effect

/-- A call that ended before another has ended, its frames come first, and a call has stored its frame in
every queue it is past, unless it skipped it or was ended by an error. -/
structure Settled (k : Log F) (s : EventStream F) : Prop where
  traced : Traced k s
  ended : ∀ c d, EndedBefore k c d → s.Over c
  order : ∀ q, (stored k q).Pairwise fun d e => ¬ EndedBefore k e.1 d.1
  named : ∀ x ∈ k, ∀ c, x.out = .began c → ∃ p, s.calls c = some p
  reached : ∀ x ∈ k, ∀ c, x.out = .began c → ∀ q ∈ x.pre.queues, ∀ p, s.calls c = some p →
    q ∈ p.targets ∨ c ∈ (stored k q).map Prod.fst ∨ Skipped k q c ∨ Raised k c

namespace Settled

variable {k : Log F} {s t : EventStream F} {a : Action F} {o : Outcome F}

theorem fresh (n : ℕ) : Settled [] (EventStream.fresh n : EventStream F) where
  traced := Traced.fresh n
  ended := by simp [EndedBefore]
  order := fun _ => List.Pairwise.nil
  named := by simp
  reached := by simp

theorem order_of_effect (h : Settled k s) (he : Effect s a o t) (q : ℕ) :
    (stored (k ++ [⟨s, a, o, t⟩]) q).Pairwise fun d e => ¬ EndedBefore (k ++ [⟨s, a, o, t⟩]) e.1 d.1 := by
  rw [stored_concat, List.pairwise_append]
  refine ⟨?_, ?_, fun d hd e hmem => ?_⟩
  · refine (h.order q).imp_of_mem fun {d e} hd _ hde hended => ?_
    obtain hended | ⟨hout, -⟩ := endedBefore_concat.mp hended
    · exact hde hended
    · obtain rfl : o = .began d.1 := hout
      exact absurd he.begins.1 (Nat.ne_of_lt (h.traced.lt_begun hd))
  · obtain hnone | ⟨c, frame, -, hone⟩ := storedAt_cases o q
    · rw [hnone]
      exact List.Pairwise.nil
    · rw [hone]
      exact List.pairwise_singleton _ _
  · -- the call that stores now is under way
    obtain rfl : o = .stored q e.1 e.2 := mem_storedAt.mp hmem
    obtain ⟨p, rest, hp, -, htargets, -⟩ := he.stores
    intro hended
    obtain hended | ⟨hout, -⟩ := endedBefore_concat.mp hended
    · obtain ⟨p', hp', hnil⟩ := h.ended _ _ hended
      obtain rfl := Option.some.inj (hp.symm.trans hp')
      rw [htargets] at hnil
      cases hnil
    · cases hout

theorem reached_of_effect (h : Settled k s) (he : Effect s a o t) {x : Step (EventStream F) (Action F) (Outcome F)}
    (hx : x ∈ k) {c : ℕ} (hout : x.out = .began c) {q : ℕ} (hq : q ∈ x.pre.queues) {p : Publish F}
    (hp : t.calls c = some p) :
    q ∈ p.targets ∨ c ∈ (stored (k ++ [⟨s, a, o, t⟩]) q).map Prod.fst ∨
      Skipped (k ++ [⟨s, a, o, t⟩]) q c ∨ Raised (k ++ [⟨s, a, o, t⟩]) c := by
  obtain ⟨p', hp'⟩ := h.named x hx c hout
  have hlast : (⟨s, a, o, t⟩ : Step (EventStream F) (Action F) (Outcome F)) ∈ k ++ [⟨s, a, o, t⟩] :=
    List.mem_append_right _ List.mem_cons_self
  obtain hleft | hstored | ⟨y, hy, hskip⟩ | ⟨y, hy, hraise⟩ := h.reached x hx c hout q hq p' hp'
  · by_cases hnow : q ∈ p.targets
    · exact .inl hnow
    · obtain rfl | rfl | ⟨q', rfl⟩ := he.passes (Nat.ne_of_lt (h.traced.valid.begun c p' hp')) hp' hp hleft hnow
      · refine .inr (.inl (List.mem_map.mpr ⟨(c, p'.frame), ?_, rfl⟩))
        rw [stored_concat, List.mem_append, mem_storedAt]
        exact .inr rfl
      · exact .inr (.inr (.inl ⟨_, hlast, rfl⟩))
      · exact .inr (.inr (.inr ⟨_, hlast, q', rfl⟩))
  · refine .inr (.inl ?_)
    rw [stored_concat, List.map_append]
    exact List.mem_append_left _ hstored
  · exact .inr (.inr (.inl ⟨y, List.mem_append_left _ hy, hskip⟩))
  · exact .inr (.inr (.inr ⟨y, List.mem_append_left _ hy, hraise⟩))

theorem of_effect (h : Settled k s) (he : Effect s a o t) : Settled (k ++ [⟨s, a, o, t⟩]) t := by
  refine ⟨h.traced.of_effect he, fun c d hended => ?_, h.order_of_effect he, fun x hx c hout => ?_,
    fun x hx c hout q hq p hp => ?_⟩
  · obtain hended | ⟨-, hover⟩ := endedBefore_concat.mp hended
    · exact he.stays_over h.traced.valid (h.ended c d hended)
    · exact he.stays_over h.traced.valid hover
  · rw [List.mem_append, List.mem_singleton] at hx
    obtain hx | rfl := hx
    · obtain ⟨p, hp⟩ := h.named x hx c hout
      exact he.keeps (Nat.ne_of_lt (h.traced.valid.begun c p hp)) hp
    · obtain rfl : o = .began c := hout
      cases he with
      | began frame => exact ⟨_, by rw [publish_calls, Function.update_self]⟩
  · rw [List.mem_append, List.mem_singleton] at hx
    obtain hx | rfl := hx
    · exact h.reached_of_effect he hx hout hq hp
    · obtain rfl : o = .began c := hout
      exact .inl (he.begins.2 p hp ▸ hq)

end Settled

theorem run_settled {n : ℕ} {l : Log F} {t : EventStream F} (h : Run step (fresh n) l t) : Settled l t :=
  h.record Settled (fun _ _ _ _ _ hk hs => hk.of_effect (step_effect hs)) (Settled.fresh n)

/-- What a subscriber gets through a queue that holds at most `n` frames. -/
structure Delivered (n : ℕ) (l : Log F) (t : EventStream F) (q : ℕ) : Prop where
  bounded : 0 < n → (t.held q).length ≤ n
  /-- What it was handed and what waits for it was stored, in this order. -/
  received : (taken l q ++ t.held q).Sublist ((stored l q).map Prod.snd)
  /-- A publish stores its frame at most once. -/
  once : ((stored l q).map Prod.fst).Nodup
  /-- A publish that had ended before another began comes first. -/
  order : (stored l q).Pairwise fun d e => ¬ EndedBefore l e.1 d.1
  /-- What is stored was published while the queue was in the list. -/
  published : ∀ e ∈ stored l q, ∃ x ∈ l, x.act = .publish e.2 ∧ x.out = .began e.1 ∧ q ∈ x.pre.queues
  /-- A publish that has ended stored its frame, or found the queue full and then empty, or raised. -/
  complete : ∀ x ∈ l, ∀ c, x.out = .began c → q ∈ x.pre.queues → t.Over c →
    c ∈ (stored l q).map Prod.fst ∨ Skipped l q c ∨ Raised l c

theorem run_maxsize {n : ℕ} {l : Log F} {t : EventStream F} (h : Run step (fresh n) l t) : t.maxsize = n :=
  h.invariant (fun s => s.maxsize = n) (fun _ _ _ _ hn hs => (step_effect hs).maxsize.trans hn) rfl

/-- **The event stream delivers**: in every run of publishers, subscribers and handlers, whatever the
order of their operations. -/
theorem stream_delivers {n : ℕ} {l : Log F} {t : EventStream F} (h : Run step (fresh n) l t) (q : ℕ) :
    Delivered n l t q := by
  have hs := run_settled h
  refine ⟨fun hn => ?_, ?_, hs.traced.once q, hs.order q, hs.traced.stored q, fun x hx c hout hq hover => ?_⟩
  · have hbounded := hs.traced.valid.bounded
    rw [run_maxsize h] at hbounded
    exact hbounded hn q
  · rw [stored_eq h q]
    exact (taken_sublist l q).append (List.Sublist.refl _)
  · obtain ⟨p, hp, hnil⟩ := hover
    obtain hleft | hrest := hs.reached x hx c hout q hq p hp
    · rw [hnil] at hleft
      exact absurd hleft List.not_mem_nil
    · exact hrest

/-- Two publishes at a queue for one frame: one raises, and its browser finds the frame of the other. -/
theorem stream_delivers_overlapped : ∃ (l : Log ℕ) (t : EventStream ℕ), Run step (fresh 1) l t ∧
    Raised l 1 ∧ t.held 0 = [30] ∧ Delivered 1 l t 0 := by
  obtain ⟨l, t, h, -, htest⟩ := Run.of_test
    (fun (l : Log ℕ) (t : EventStream ℕ) => decide ((∃ x ∈ l, x.out = .raised 0 1) ∧ t.held 0 = [30]))
    (show ((Machine.play step (fresh 1) [.register, .publish 10, .advance 0, .publish 20, .publish 30,
      .advance 1, .advance 1, .advance 2, .advance 1]).any _) = true by decide)
  rw [decide_eq_true_eq] at htest
  obtain ⟨⟨x, hx, hout⟩, hheld⟩ := htest
  exact ⟨l, t, h, ⟨x, hx, 0, hout⟩, hheld, stream_delivers h 0⟩

end Sbegw.Api.Stream
