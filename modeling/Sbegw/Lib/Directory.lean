import Sbegw.Lib.Dict

/-!
# A directory that follows a set of files

A program keeps a directory in line with a set of files: a file is written where the directory has it not or
otherwise, what the directory has besides is removed, and the program is told whether anything changed.  A
write or a removal may fail, and then the rest is not done.
-/

namespace Directory

variable {κ α E : Type} [DecidableEq κ]

/-- The same files. -/
def Same (d e : Dict κ α) : Prop := ∀ k, Dict.lookup k d = Dict.lookup k e

theorem Same.symm {d e : Dict κ α} (h : Same d e) : Same e d := fun k => (h k).symm

theorem Same.trans {d e f : Dict κ α} (h : Same d e) (h' : Same e f) : Same d f := fun k => (h k).trans (h' k)

/-- Write the files that are not there already; what writing a file raises, if anything. -/
def writeAll [DecidableEq α] (fault : κ → Option E) : List (κ × α) → Dict κ α → Bool → Except E Bool × Dict κ α
  | [], dir, changed => (.ok changed, dir)
  | (k, v) :: files, dir, changed =>
    if Dict.lookup k dir = some v then writeAll fault files dir changed
    else match fault k with
      | some e => (.error e, dir)
      | none => writeAll fault files (Dict.set k v dir) true

/-- Remove the listed files that are not to be kept. -/
def removeOthers (fault : κ → Option E) (keep : List κ) : List κ → Dict κ α → Bool → Except E Bool × Dict κ α
  | [], dir, changed => (.ok changed, dir)
  | k :: ks, dir, changed =>
    if k ∈ keep then removeOthers fault keep ks dir changed
    else match fault k with
      | some e => (.error e, dir)
      | none => removeOthers fault keep ks (Dict.erase k dir) true

/-- How a directory answers: what its operations raise, and in which order it is listed. -/
structure Answers (κ α E : Type) where
  write : κ → Option E
  remove : κ → Option E
  list : Dict κ α → List κ
  lists : ∀ d k, k ∈ list d ↔ k ∈ Dict.keys d

/-- Write the files and remove what is there besides. -/
def sync [DecidableEq α] (env : Answers κ α E) (files : Dict κ α) (dir : Dict κ α) : Except E Bool × Dict κ α :=
  match writeAll env.write files dir false with
  | (.error e, dir) => (.error e, dir)
  | (.ok changed, dir) => removeOthers env.remove (Dict.keys files) (env.list dir) dir changed

theorem writeAll_ok [DecidableEq α] {fault : κ → Option E} :
    ∀ {files : Dict κ α} {dir dir' : Dict κ α} {changed changed' : Bool},
      (Dict.keys files).Nodup → writeAll fault files dir changed = (.ok changed', dir') →
      (∀ k, Dict.lookup k dir' = (Dict.lookup k files).or (Dict.lookup k dir)) ∧
        (changed' = false ↔ changed = false ∧ ∀ e ∈ files, Dict.lookup e.1 dir = some e.2)
  | [], dir, dir', changed, changed', _, h => by
    obtain ⟨hok, rfl⟩ := Prod.mk.inj h
    obtain rfl := Except.ok.inj hok
    simp
  | (k, v) :: files, dir, dir', changed, changed', hnodup, h => by
    have hkeys : k ∉ Dict.keys files ∧ (Dict.keys files).Nodup := List.nodup_cons.mp hnodup
    unfold writeAll at h
    split_ifs at h with hthere
    · obtain ⟨hlookup, hchanged⟩ := writeAll_ok hkeys.2 h
      refine ⟨fun j => ?_, ?_⟩
      · rw [hlookup, Dict.lookup_cons]
        split_ifs with hj
        · subst hj
          rw [Dict.lookup_eq_none_iff.mpr hkeys.1, hthere]
          rfl
        · rfl
      · rw [hchanged, List.forall_mem_cons]
        exact ⟨fun hall => ⟨hall.1, hthere, hall.2⟩, fun hall => ⟨hall.1, hall.2.2⟩⟩
    · split at h
      · cases (Prod.mk.inj h).1
      · obtain ⟨hlookup, hchanged⟩ := writeAll_ok hkeys.2 h
        refine ⟨fun j => ?_, ?_⟩
        · rw [hlookup, Dict.lookup_cons]
          split_ifs with hj
          · subst hj
            rw [Dict.lookup_eq_none_iff.mpr hkeys.1, Dict.lookup_set_self]
            rfl
          · rw [Dict.lookup_set_of_ne (Ne.symm hj)]
        · rw [hchanged, List.forall_mem_cons]
          exact ⟨fun hall => absurd hall.1 (by decide), fun hall => absurd hall.2.1 hthere⟩

theorem removeOthers_ok {fault : κ → Option E} {keep : List κ} : ∀ {ks : List κ} {dir dir' : Dict κ α}
    {changed changed' : Bool}, removeOthers fault keep ks dir changed = (.ok changed', dir') →
      (∀ k, Dict.lookup k dir' = if k ∈ ks ∧ k ∉ keep then none else Dict.lookup k dir) ∧
        (changed' = false ↔ changed = false ∧ ∀ k ∈ ks, k ∈ keep)
  | [], dir, dir', changed, changed', h => by
    obtain ⟨hok, rfl⟩ := Prod.mk.inj h
    obtain rfl := Except.ok.inj hok
    simp
  | j :: ks, dir, dir', changed, changed', h => by
    unfold removeOthers at h
    split_ifs at h with hkeep
    · obtain ⟨hlookup, hchanged⟩ := removeOthers_ok h
      refine ⟨fun k => ?_, ?_⟩
      · rw [hlookup]
        by_cases hk : k = j
        · subst hk
          simp [hkeep]
        · simp [hk]
      · rw [hchanged, List.forall_mem_cons]
        exact ⟨fun hall => ⟨hall.1, hkeep, hall.2⟩, fun hall => ⟨hall.1, hall.2.2⟩⟩
    · split at h
      · cases (Prod.mk.inj h).1
      · obtain ⟨hlookup, hchanged⟩ := removeOthers_ok h
        refine ⟨fun k => ?_, ?_⟩
        · rw [hlookup]
          by_cases hk : k = j
          · subst hk
            simp [hkeep]
          · rw [Dict.lookup_erase_of_ne hk]
            simp [hk]
        · rw [hchanged, List.forall_mem_cons]
          exact ⟨fun hall => absurd hall.1 (by decide), fun hall => absurd hall.2.1 hkeep⟩

/-- **A synchronised directory** has the files, and nothing changed exactly where it had them already. -/
theorem sync_ok [DecidableEq α] {env : Answers κ α E} {files dir dir' : Dict κ α} {changed : Bool}
    (hfiles : (Dict.keys files).Nodup) (h : sync env files dir = (.ok changed, dir')) :
    Same dir' files ∧ (changed = false ↔ Same dir files) := by
  unfold sync at h
  cases hw : writeAll env.write files dir false with
  | mk out mid =>
    rw [hw] at h
    cases out with
    | error e => cases (Prod.mk.inj h).1
    | ok wrote =>
      obtain ⟨hmid, hwrote⟩ := writeAll_ok hfiles hw
      obtain ⟨hdir, hchanged⟩ := removeOthers_ok h
      have hsame : Same dir' files := by
        intro k
        rw [hdir]
        split_ifs with hk
        · exact (Dict.lookup_eq_none_iff.mpr hk.2).symm
        · rw [hmid]
          cases hf : Dict.lookup k files with
          | some v => rfl
          | none =>
            have hgone : Dict.lookup k mid = none :=
              Dict.lookup_eq_none_iff.mpr fun hin =>
                hk ⟨(env.lists mid k).mpr hin, Dict.lookup_eq_none_iff.mp hf⟩
            rw [hmid, hf] at hgone
            exact hgone
      refine ⟨hsame, ?_⟩
      rw [hchanged, hwrote]
      constructor
      · rintro ⟨⟨-, hthere⟩, hkept⟩ k
        cases hf : Dict.lookup k files with
        | some v => exact hthere (k, v) (Dict.mem_of_lookup hf)
        | none =>
          have hgone : Dict.lookup k mid = none :=
            Dict.lookup_eq_none_iff.mpr fun hin =>
              Dict.lookup_eq_none_iff.mp hf (hkept k ((env.lists mid k).mpr hin))
          rw [hmid, hf] at hgone
          exact hgone
      · intro hsame'
        refine ⟨⟨rfl, fun e he => ?_⟩, fun k hk => ?_⟩
        · rw [hsame', Dict.lookup_of_mem hfiles he]
        · by_contra hnot
          have hf : Dict.lookup k files = none := Dict.lookup_eq_none_iff.mpr hnot
          have hgone : Dict.lookup k mid = none := by
            rw [hmid, hf, hsame', hf]
            rfl
          exact Dict.lookup_eq_none_iff.mp hgone ((env.lists mid k).mp hk)

theorem writeAll_isOk [DecidableEq α] {fault : κ → Option E} (h : ∀ k, fault k = none) :
    ∀ (files dir : Dict κ α) (changed : Bool), ∃ c d, writeAll fault files dir changed = (.ok c, d)
  | [], dir, changed => ⟨changed, dir, rfl⟩
  | (k, v) :: files, dir, changed => by
    unfold writeAll
    rw [h k]
    split_ifs
    · exact writeAll_isOk h files dir changed
    · exact writeAll_isOk h files _ true

theorem removeOthers_isOk {fault : κ → Option E} (h : ∀ k, fault k = none) (keep : List κ) :
    ∀ (ks : List κ) (dir : Dict κ α) (changed : Bool), ∃ c d, removeOthers fault keep ks dir changed = (.ok c, d)
  | [], dir, changed => ⟨changed, dir, rfl⟩
  | k :: ks, dir, changed => by
    unfold removeOthers
    rw [h k]
    split_ifs
    · exact removeOthers_isOk h keep ks dir changed
    · exact removeOthers_isOk h keep ks _ true

/-- Where no write and no removal fails, the whole does not. -/
theorem sync_isOk [DecidableEq α] {env : Answers κ α E} (hw : ∀ k, env.write k = none)
    (hr : ∀ k, env.remove k = none) (files dir : Dict κ α) : ∃ c d, sync env files dir = (.ok c, d) := by
  obtain ⟨wrote, mid, hmid⟩ := writeAll_isOk hw files dir false
  unfold sync
  rw [hmid]
  exact removeOthers_isOk hr _ _ mid wrote

/-- Sets of files that are listed in order are the same list where they have the same files. -/
theorem Same.eq [LinearOrder κ] {d e : Dict κ α} (hd : (Dict.keys d).SortedLT) (he : (Dict.keys e).SortedLT)
    (h : Same d e) : d = e := by
  have hmem : ∀ x : κ × α, x ∈ d ↔ x ∈ e := by
    intro x
    constructor
    · intro hx
      exact Dict.mem_of_lookup ((h x.1).symm.trans (Dict.lookup_of_mem hd.nodup hx))
    · intro hx
      exact Dict.mem_of_lookup ((h x.1).trans (Dict.lookup_of_mem he.nodup hx))
  have hperm : d.Perm e :=
    (List.perm_ext_iff_of_nodup hd.nodup.of_map he.nodup.of_map).mpr hmem
  refine hperm.eq_of_pairwise (fun a b _ _ hab hba => ?_)
    (List.pairwise_map.mp hd.pairwise) (List.pairwise_map.mp he.pairwise)
  exact absurd (lt_trans (hab : a.1 < b.1) hba) (lt_irrefl _)

end Directory
