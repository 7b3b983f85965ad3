import Sbegw.Lib.Dict
import Sbegw.Lib.Text
import Mathlib.Data.Finset.Card

/-!
# Radio identities

`RadioRegistry` names the radios of a probe.  A radio keeps the id that the file has for its address and band;
others take the one that an older file has for the address alone, or the next number of their band.
-/

namespace Sbegw.Wifid

open Text

/-! ### The probe -/

/-- An entry of `phy_band_capabilities`. -/
structure BandCaps where
  phy : String
  mac : Option String
  band : Option String
  rawAvailable : Bool
deriving DecidableEq

/-- An entry with an answer, and a band. -/
structure ProbedBand where
  phy : String
  mac : Option String
  band : String
deriving DecidableEq

/-- The entries that are published. -/
def BandCaps.probed? (c : BandCaps) : Option ProbedBand :=
  if c.rawAvailable then c.band.map fun band => ⟨c.phy, c.mac, band⟩ else none

/-- `caps.get("mac") or f"phy-{phy}"` -/
def ProbedBand.address (p : ProbedBand) : String := (p.mac.filter fun mac => mac ≠ "").getD ("phy-" ++ p.phy)

/-- The MAC is that of the wiphy, so the band is part of the key. -/
def ProbedBand.key (p : ProbedBand) : String := p.address ++ ":" ++ p.band

/-- `BAND_LABEL.get(band, band)` -/
def bandLabel (band : String) : String :=
  if band = "2g" then "2.4 GHz" else if band = "5g" then "5 GHz" else if band = "6g" then "6 GHz" else band

structure PublishedRadio extends ProbedBand where
  id : String
  label : String
deriving DecidableEq

/-- `RadioRegistry._publish` -/
def publish (p : ProbedBand) (rid : String) : PublishedRadio := { p with id := rid, label := bandLabel p.band }

/-! ### `discover` -/

/-- The id of the radio of this index in its band. -/
def numbered (band : String) (index : ℕ) : String :=
  if index = 0 then "radio-" ++ band else "radio-" ++ band ++ "-" ++ toString (index + 1)

/-- The id of an older file, which had the address alone for a key. -/
def legacyId (map : Dict String String) (p : ProbedBand) : Option String :=
  (Dict.lookup p.address map).filter fun legacy => legacy ≠ "" ∧ startsWith ("radio-" ++ p.band) legacy

/-- The id that the map has for the radio. -/
def knownId (map : Dict String String) (p : ProbedBand) : Option String :=
  (Dict.lookup p.key map).or (legacyId map p)

/-- The loop of `discover`: what is found, the radios of each band, and the map. -/
structure Discovery where
  found : Dict String PublishedRadio
  counts : Dict String ℕ
  map : Dict String String
deriving DecidableEq

def Discovery.idFor (s : Discovery) (p : ProbedBand) : String :=
  ((knownId s.map p).filter fun rid => (Dict.lookup rid s.found).isNone).getD
    (numbered p.band ((Dict.lookup p.band s.counts).getD 0))

def Discovery.visit (s : Discovery) (p : ProbedBand) : Discovery where
  found := Dict.set (s.idFor p) (publish p (s.idFor p)) s.found
  counts := Dict.set p.band ((Dict.lookup p.band s.counts).getD 0 + 1) s.counts
  map := Dict.set p.key (s.idFor p) s.map

structure RadioRegistry where
  caps : Dict String PublishedRadio
  map : Dict String String
deriving DecidableEq

/-- A registry that has read the file. -/
def RadioRegistry.load (map : Dict String String) : RadioRegistry := ⟨[], map⟩

def RadioRegistry.discover (r : RadioRegistry) (force : Bool) (probe : List BandCaps) :
    Dict String PublishedRadio × RadioRegistry :=
  if r.caps ≠ [] ∧ force = false then (r.caps, r)
  else
    let s := (probe.filterMap BandCaps.probed?).foldl Discovery.visit ⟨[], [], r.map⟩
    (s.found, ⟨s.found, s.map⟩)

/-- No radio is lost, and none is renamed. -/
structure KeepsIdentities (map : Dict String String) (probed : List ProbedBand)
    (result : Dict String PublishedRadio × RadioRegistry) : Prop where
  count : result.1.length = (probed.map ProbedBand.key).toFinset.card
  own : ∀ p ∈ probed, ∃ rid radio, Dict.lookup p.key result.2.map = some rid ∧
    Dict.lookup rid result.1 = some radio ∧ radio.toProbedBand = p
  band : ∀ rid radio, Dict.lookup rid result.1 = some radio → startsWith ("radio-" ++ radio.band) rid
  kept : ∀ key rid, Dict.lookup key map = some rid → Dict.lookup key result.2.map = some rid

/-! ### The ids that the radios ask for -/

/-- The map with the ids of the radios before. -/
def assigned (map : Dict String String) (before : List (ProbedBand × String)) : Dict String String :=
  before.foldl (fun map e => Dict.set e.1.key e.2 map) map

/-- What a radio asks for: the id that the file has for it, an older one if no radio before asks for it, or its
number in the band. -/
def askFor (map : Dict String String) (before : List (ProbedBand × String)) (p : ProbedBand) : String :=
  (Dict.lookup p.key map).getD <|
    ((legacyId (assigned map before) p).filter fun rid => rid ∉ before.map Prod.snd).getD <|
      numbered p.band (before.countP fun e => e.1.band = p.band)

/-- The radios in the order of the probe with what they ask for; `before` are the earlier ones. -/
def asks (map : Dict String String) : List (ProbedBand × String) → List ProbedBand → List (ProbedBand × String)
  | before, [] => before
  | before, p :: rest => asks map (before ++ [(p, askFor map before p)]) rest

variable {map : Dict String String}

theorem asks_append (before : List (ProbedBand × String)) (ps : List ProbedBand) :
    ∃ more, asks map before ps = before ++ more ∧ more.map Prod.fst = ps ∧
      ∀ e ∈ more, ∃ earlier, e.2 = askFor map earlier e.1 := by
  induction ps generalizing before with
  | nil => exact ⟨[], (List.append_nil before).symm, rfl, fun e he => nomatch he⟩
  | cons p ps ih =>
    obtain ⟨more, hasks, hfst, hall⟩ := ih (before ++ [(p, askFor map before p)])
    refine ⟨(p, askFor map before p) :: more, ?_, congrArg (p :: ·) hfst, fun e he => ?_⟩
    · rw [asks, hasks, List.append_assoc]
      rfl
    · rcases List.mem_cons.mp he with rfl | he
      · exact ⟨before, rfl⟩
      · exact hall e he

theorem lookup_assigned_of_notMem {key : String} (before : List (ProbedBand × String)) {map : Dict String String}
    (h : key ∉ before.map fun e => e.1.key) : Dict.lookup key (assigned map before) = Dict.lookup key map := by
  induction before generalizing map with
  | nil => rfl
  | cons e before ih =>
    have h : ¬ key = e.1.key ∧ key ∉ before.map fun e => e.1.key := by simpa using h
    show Dict.lookup key (assigned (Dict.set e.1.key e.2 map) before) = _
    rw [ih h.2, Dict.lookup_set_of_ne h.1]

/-- Radios of different keys have in the map what they ask for. -/
theorem lookup_assigned_of_mem {p : ProbedBand} {rid : String} (before : List (ProbedBand × String))
    {map : Dict String String} (hkeys : (before.map fun e => e.1.key).Nodup) (h : (p, rid) ∈ before) :
    Dict.lookup p.key (assigned map before) = some rid := by
  induction before generalizing map with
  | nil => cases h
  | cons e before ih =>
    have hkeys : e.1.key ∉ before.map (fun e => e.1.key) ∧ (before.map fun e => e.1.key).Nodup := by
      simpa using hkeys
    show Dict.lookup p.key (assigned (Dict.set e.1.key e.2 map) before) = some rid
    rcases List.mem_cons.mp h with rfl | h
    · rw [lookup_assigned_of_notMem before hkeys.1, Dict.lookup_set_self]
    · exact ih hkeys.2 h

theorem startsWith_numbered (band : String) (index : ℕ) : startsWith ("radio-" ++ band) (numbered band index) := by
  rw [numbered]
  split
  · have hself := startsWith_append ("radio-" ++ band) ""
    rw [String.append_empty] at hself
    exact hself
  · rw [String.append_assoc]
    exact startsWith_append ("radio-" ++ band) _

/-- An id that is asked for names the band of the radio, if those of the file do. -/
theorem startsWith_askFor {before : List (ProbedBand × String)} {p : ProbedBand}
    (h : ∀ rid, Dict.lookup p.key map = some rid → startsWith ("radio-" ++ p.band) rid) :
    startsWith ("radio-" ++ p.band) (askFor map before p) := by
  rw [askFor]
  cases hown : Dict.lookup p.key map with
  | some rid => exact h rid hown
  | none =>
    rw [Option.getD_none]
    cases hlegacy : (legacyId (assigned map before) p).filter fun rid => rid ∉ before.map Prod.snd with
    | none => exact startsWith_numbered _ _
    | some rid =>
      have hmem := (Option.filter_eq_some_iff.mp hlegacy).1
      rw [legacyId, Option.filter_eq_some_iff] at hmem
      exact (of_decide_eq_true hmem.2).2

/-! ### The loop -/

/-- Every radio so far has what it asks for. -/
structure Follows (map : Dict String String) (before : List (ProbedBand × String)) (s : Discovery) : Prop where
  found : s.found = before.map fun e => (e.2, publish e.1 e.2)
  counts : ∀ band, (Dict.lookup band s.counts).getD 0 = before.countP fun e => e.1.band = band
  map : s.map = assigned map before

section Visit

variable {before : List (ProbedBand × String)} {s : Discovery} {p : ProbedBand}

theorem Follows.keys (h : Follows map before s) : Dict.keys s.found = before.map Prod.snd := by
  rw [h.found, Dict.keys, List.map_map]
  rfl

theorem Follows.isNone (h : Follows map before s) (rid : String) :
    (Dict.lookup rid s.found).isNone = decide (rid ∉ before.map Prod.snd) := by
  rw [← h.keys]
  cases hid : Dict.lookup rid s.found with
  | none => exact (decide_eq_true (Dict.lookup_eq_none_iff.mp hid)).symm
  | some radio =>
    refine (decide_eq_false fun hnot => ?_).symm
    rw [Dict.lookup_eq_none_iff.mpr hnot] at hid
    cases hid

/-- A radio that the file does not know gets what it asks for. -/
theorem idFor_of_new (h : Follows map before s) (hkey : p.key ∉ before.map fun e => e.1.key)
    (hnew : Dict.lookup p.key map = none) : s.idFor p = askFor map before p := by
  rw [Discovery.idFor, knownId, h.map, lookup_assigned_of_notMem before hkey, hnew, Option.none_or, h.counts, askFor,
    hnew, Option.getD_none]
  simp only [h.isNone]

/-- One that it knows gets its id, if no radio before has it. -/
theorem idFor_of_known (h : Follows map before s) (hkey : p.key ∉ before.map fun e => e.1.key) {rid : String}
    (hknown : Dict.lookup p.key map = some rid) (hfree : rid ∉ before.map Prod.snd) : s.idFor p = rid := by
  rw [Discovery.idFor, knownId, h.map, lookup_assigned_of_notMem before hkey, hknown, Option.some_or, Option.filter_some,
    h.isNone, decide_eq_true hfree, if_pos rfl, Option.getD_some]

theorem follows_visit (h : Follows map before s) (hkey : p.key ∉ before.map fun e => e.1.key)
    (hfree : askFor map before p ∉ before.map Prod.snd) :
    Follows map (before ++ [(p, askFor map before p)]) (s.visit p) := by
  have hid : s.idFor p = askFor map before p := by
    cases hown : Dict.lookup p.key map with
    | none => exact idFor_of_new h hkey hown
    | some rid =>
      have hask : askFor map before p = rid := by rw [askFor, hown, Option.getD_some]
      rw [hask] at hfree ⊢
      exact idFor_of_known h hkey hown hfree
  refine ⟨?_, fun band => ?_, ?_⟩
  · show Dict.set (s.idFor p) (publish p (s.idFor p)) s.found = _
    rw [hid, Dict.set_of_notMem _ (h.keys ▸ hfree), h.found, List.map_append]
    rfl
  · show (Dict.lookup band (Dict.set p.band _ s.counts)).getD 0 = _
    rw [List.countP_append, List.countP_singleton, Dict.lookup_set]
    by_cases hband : band = p.band
    · rw [if_pos hband, hband, Option.getD_some, h.counts, decide_eq_true rfl]
      rfl
    · rw [if_neg hband, h.counts, decide_eq_false (Ne.symm hband)]
      rfl
  · show Dict.set p.key (s.idFor p) s.map = _
    rw [hid, h.map, assigned, assigned, List.foldl_append]
    rfl

/-- Two radios ask for one id: an entry is lost, or a radio of the file is renamed. -/
theorem clash_visit (h : Follows map before s) (hkey : p.key ∉ before.map fun e => e.1.key)
    (hclash : askFor map before p ∈ before.map Prod.snd) :
    (s.visit p).found.length = s.found.length ∨
      ∃ rid, Dict.lookup p.key map = some rid ∧ Dict.lookup p.key (s.visit p).map ≠ some rid := by
  have hlost : s.idFor p = askFor map before p → (s.visit p).found.length = s.found.length := by
    intro hid
    refine Dict.length_set_of_mem _ ?_
    rw [h.keys, hid]
    exact hclash
  cases hown : Dict.lookup p.key map with
  | none => exact .inl (hlost (idFor_of_new h hkey hown))
  | some rid =>
    have hask : askFor map before p = rid := by rw [askFor, hown, Option.getD_some]
    by_cases hid : s.idFor p = rid
    · exact .inl (hlost (hid.trans hask.symm))
    · refine .inr ⟨rid, rfl, fun hmap => hid ?_⟩
      have hset : Dict.lookup p.key (s.visit p).map = some (s.idFor p) := Dict.lookup_set_self _ _ _
      exact Option.some.inj (hset.symm.trans hmap)

end Visit

theorem length_found_foldl_le (ps : List ProbedBand) (s : Discovery) :
    (ps.foldl Discovery.visit s).found.length ≤ s.found.length + ps.length := by
  induction ps generalizing s with
  | nil => exact le_rfl
  | cons p ps ih =>
    have hrest := ih (s.visit p)
    have hstep : (s.visit p).found.length ≤ s.found.length + 1 := Dict.length_set_le _ _ _
    rw [List.foldl_cons, List.length_cons]
    omega

theorem lookup_map_foldl {key : String} (ps : List ProbedBand) (h : key ∉ ps.map ProbedBand.key) (s : Discovery) :
    Dict.lookup key (ps.foldl Discovery.visit s).map = Dict.lookup key s.map := by
  induction ps generalizing s with
  | nil => rfl
  | cons p ps ih =>
    have h : ¬ key = p.key ∧ key ∉ ps.map ProbedBand.key := by simpa using h
    rw [List.foldl_cons, ih h.2]
    exact Dict.lookup_set_of_ne h.1 _ _

section Loop

variable {before : List (ProbedBand × String)} {s : Discovery}

/-- The radios of keys that are not among those before. -/
theorem keys_after {p : ProbedBand} {ps : List ProbedBand}
    (hkeys : ((before.map fun e => e.1.key) ++ (p :: ps).map ProbedBand.key).Nodup) (rid : String) :
    p.key ∉ (before.map fun e => e.1.key) ∧ p.key ∉ ps.map ProbedBand.key ∧
      (((before ++ [(p, rid)]).map fun e => e.1.key) ++ ps.map ProbedBand.key).Nodup := by
  have hmiddle := List.nodup_middle.mp hkeys
  have hout := (List.nodup_cons.mp hmiddle).1
  refine ⟨fun h => hout (List.mem_append_left _ h), fun h => hout (List.mem_append_right _ h), ?_⟩
  rw [List.map_append, List.append_assoc]
  exact hkeys

/-- Where no two radios ask for one id, all get what they ask for. -/
theorem follows_foldl (ps : List ProbedBand) (h : Follows map before s)
    (hkeys : ((before.map fun e => e.1.key) ++ ps.map ProbedBand.key).Nodup)
    (hasks : ((asks map before ps).map Prod.snd).Nodup) :
    Follows map (asks map before ps) (ps.foldl Discovery.visit s) := by
  induction ps generalizing before s with
  | nil => exact h
  | cons p ps ih =>
    obtain ⟨hkey, -, hkeys⟩ := keys_after hkeys (askFor map before p)
    rw [asks] at hasks ⊢
    have hfree : askFor map before p ∉ before.map Prod.snd := by
      obtain ⟨more, hmore, -⟩ := @asks_append map (before ++ [(p, askFor map before p)]) ps
      rw [hmore, List.map_append, List.map_append] at hasks
      have hfirst := (List.nodup_append.mp hasks).1
      intro hin
      exact (List.nodup_append.mp hfirst).2.2 _ hin _ List.mem_cons_self rfl
    exact ih (follows_visit h hkey hfree) hkeys hasks

/-- Where no radio is lost and none of the file renamed, no two ask for one id. -/
theorem asks_nodup (ps : List ProbedBand) (h : Follows map before s) (hbefore : (before.map Prod.snd).Nodup)
    (hkeys : ((before.map fun e => e.1.key) ++ ps.map ProbedBand.key).Nodup)
    (hlength : (ps.foldl Discovery.visit s).found.length = s.found.length + ps.length)
    (hkept : ∀ p ∈ ps, ∀ rid, Dict.lookup p.key map = some rid →
      Dict.lookup p.key (ps.foldl Discovery.visit s).map = some rid) :
    ((asks map before ps).map Prod.snd).Nodup := by
  induction ps generalizing before s with
  | nil => exact hbefore
  | cons p ps ih =>
    obtain ⟨hkey, hlater, hkeys⟩ := keys_after hkeys (askFor map before p)
    rw [List.foldl_cons, List.length_cons] at hlength
    have hle := length_found_foldl_le ps (s.visit p)
    have hfree : askFor map before p ∉ before.map Prod.snd := by
      intro hclash
      rcases clash_visit h hkey hclash with hlost | ⟨rid, hown, hrenamed⟩
      · omega
      · have hsame := hkept p List.mem_cons_self rid hown
        rw [List.foldl_cons, lookup_map_foldl ps hlater] at hsame
        exact hrenamed hsame
    have hnext := follows_visit h hkey hfree
    have hgrown : (s.visit p).found.length = s.found.length + 1 := by
      rw [hnext.found, h.found, List.length_map, List.length_map, List.length_append, List.length_singleton]
    refine ih hnext ?_ hkeys (by omega) fun q hq rid hown => hkept q (List.mem_cons_of_mem p hq) rid hown
    rw [List.map_append]
    refine List.nodup_append.mpr ⟨hbefore, List.nodup_singleton _, fun a ha b hb hab => hfree ?_⟩
    rw [hab, List.mem_singleton.mp hb] at ha
    exact ha

end Loop

/-! ### One probe -/

theorem follows_nil (map : Dict String String) : Follows map [] ⟨[], [], map⟩ := ⟨rfl, fun _ => rfl, rfl⟩

theorem discover_load (map : Dict String String) (force : Bool) (probe : List BandCaps) :
    (RadioRegistry.load map).discover force probe =
      (((probe.filterMap BandCaps.probed?).foldl Discovery.visit ⟨[], [], map⟩).found,
        ⟨((probe.filterMap BandCaps.probed?).foldl Discovery.visit ⟨[], [], map⟩).found,
          ((probe.filterMap BandCaps.probed?).foldl Discovery.visit ⟨[], [], map⟩).map⟩) :=
  if_neg fun h => h.1 rfl

/-- **A probe loses no radio and renames none** exactly when no two radios ask for one id, and the ids of the file
are of the bands that they are for. -/
theorem identities_kept_iff (map : Dict String String) (force : Bool) (probe : List BandCaps)
    (hkeys : ((probe.filterMap BandCaps.probed?).map ProbedBand.key).Nodup) :
    KeepsIdentities map (probe.filterMap BandCaps.probed?) ((RadioRegistry.load map).discover force probe) ↔
      ((asks map [] (probe.filterMap BandCaps.probed?)).map Prod.snd).Nodup ∧
        ∀ p ∈ probe.filterMap BandCaps.probed?, ∀ rid, Dict.lookup p.key map = some rid →
          startsWith ("radio-" ++ p.band) rid := by
  rw [discover_load]
  generalize probe.filterMap BandCaps.probed? = ps at hkeys ⊢
  have hcard : (ps.map ProbedBand.key).toFinset.card = ps.length := by
    rw [List.toFinset_card_of_nodup hkeys, List.length_map]
  constructor
  · intro h
    have hlength := h.count.trans hcard
    refine ⟨asks_nodup ps (follows_nil map) List.nodup_nil hkeys ?_ fun p _ rid => h.kept p.key rid, ?_⟩
    · exact hlength.trans (Nat.zero_add _).symm
    · intro p hp rid hown
      obtain ⟨rid', radio, hmap, hfound, rfl⟩ := h.own p hp
      obtain rfl : rid = rid' := Option.some.inj ((h.kept _ rid hown).symm.trans hmap)
      exact h.band rid radio hfound
  · rintro ⟨hasks, hbands⟩
    obtain ⟨more, hmore, hfst, hall⟩ := @asks_append map [] ps
    have h := follows_foldl ps (follows_nil map) hkeys hasks
    rw [hmore, List.nil_append] at h hasks
    have hkeys' : (more.map fun e => e.1.key).Nodup := by
      rw [← hfst, List.map_map] at hkeys
      exact hkeys
    refine ⟨?_, fun p hp => ?_, fun rid radio hfound => ?_, fun key rid hkey => ?_⟩
    · rw [hcard, h.found, List.length_map, ← hfst, List.length_map]
    · rw [← hfst] at hp
      obtain ⟨⟨p, rid⟩, he, rfl⟩ := List.mem_map.mp hp
      refine ⟨rid, publish p rid, ?_, ?_, rfl⟩
      · rw [h.map]
        exact lookup_assigned_of_mem more hkeys' he
      · refine Dict.lookup_of_mem (h.keys ▸ hasks) ?_
        rw [h.found]
        exact List.mem_map_of_mem (f := fun e : ProbedBand × String => (e.2, publish e.1 e.2)) he
    · rw [h.found] at hfound
      obtain ⟨⟨p, rid'⟩, he, heq⟩ := List.mem_map.mp (Dict.mem_of_lookup hfound)
      obtain ⟨rfl, rfl⟩ := Prod.mk.inj heq
      obtain ⟨earlier, hask⟩ := hall _ he
      dsimp only at hask
      rw [hask]
      exact startsWith_askFor (hbands p (hfst ▸ List.mem_map_of_mem (f := Prod.fst) he))
    · rw [h.map]
      by_cases hin : key ∈ more.map fun e => e.1.key
      · obtain ⟨⟨p, rid'⟩, he, rfl⟩ := List.mem_map.mp hin
        obtain ⟨earlier, hask⟩ := hall _ he
        dsimp only at hask hkey
        rw [askFor, hkey, Option.getD_some] at hask
        rw [← hask]
        exact lookup_assigned_of_mem more hkeys' he
      · rw [lookup_assigned_of_notMem more hin]
        exact hkey

/-! ### A card is replaced -/

def capsOf (phy mac band : String) : BandCaps := ⟨phy, some mac, some band, true⟩

/-- The second card of the band keeps its id, and the new one is numbered like it. -/
theorem new_radio_hides_known : ¬ ∀ map force probe,
    ((probe.filterMap BandCaps.probed?).map ProbedBand.key).Nodup →
    KeepsIdentities map (probe.filterMap BandCaps.probed?) ((RadioRegistry.load map).discover force probe) := by
  intro h
  have hkeeps := h [("02:00:00:00:00:0a:5g", "radio-5g-2")] true
    [capsOf "phy0" "02:00:00:00:00:0a" "5g", capsOf "phy1" "02:00:00:00:00:0b" "5g"] (by decide)
  exact absurd hkeeps.count (by decide)

/-- One wiphy of three bands. -/
def wiphy : List BandCaps :=
  [capsOf "phy00" "02:00:00:00:00:0a" "2g", capsOf "phy00" "02:00:00:00:00:0a" "5g",
    capsOf "phy00" "02:00:00:00:00:0a" "6g"]

/-- The file knows one band by the address alone, and one by its key. -/
def wiphyMap : Dict String String := [("02:00:00:00:00:0a", "radio-5g"), ("02:00:00:00:00:0a:2g", "radio-2g")]

theorem identities_kept_wiphy :
    KeepsIdentities wiphyMap (wiphy.filterMap BandCaps.probed?)
      ((RadioRegistry.load wiphyMap).discover false wiphy) := by
  have hbands : ∀ p ∈ wiphy.filterMap BandCaps.probed?, ∀ rid ∈ Dict.lookup p.key wiphyMap,
      startsWith ("radio-" ++ p.band) rid := by decide
  exact (identities_kept_iff wiphyMap false wiphy (by decide)).mpr ⟨by decide, hbands⟩

end Sbegw.Wifid
