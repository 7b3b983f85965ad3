import Sbegw.Schema.Accepted
import Sbegw.Lib.IpText

/-!
# Normal forms

What the checks write back: addresses, DNS names and the URLs of a controller.  An address and a URL in
normal form stay as they are; so does a DNS name, unless it ends in a line break, which the pattern lets
through.
-/

namespace Text

/-! ### Trimming -/

theorem dropRight_eq_self {p : Char → Bool} {cs : List Char} (h : ∀ c, cs.getLast? = some c → p c = false) :
    dropRight p cs = cs := by
  unfold dropRight
  cases hrev : cs.reverse with
  | nil =>
    rw [List.reverse_eq_nil_iff.mp hrev]
    rfl
  | cons c rest =>
    have hlast : cs.getLast? = some c := by rw [List.getLast?_eq_head?_reverse, hrev]; rfl
    rw [List.dropWhile_cons_of_neg (by simp [h c hlast]), ← hrev, List.reverse_reverse]

theorem getLast?_dropRight {p : Char → Bool} {cs : List Char} {c : Char} (h : (dropRight p cs).getLast? = some c) :
    p c = false := by
  unfold dropRight at h
  rw [List.getLast?_reverse] at h
  have hne : cs.reverse.dropWhile p ≠ [] := by
    intro hnil
    rw [hnil] at h
    exact absurd h (by simp)
  rw [List.head?_eq_some_head hne] at h
  have hnot := List.head_dropWhile_not p hne
  rw [Option.some.inj h] at hnot
  simpa using hnot

/-- Trimming at the end, twice. -/
theorem dropRight_idem (p : Char → Bool) (cs : List Char) : dropRight p (dropRight p cs) = dropRight p cs :=
  dropRight_eq_self fun _ h => getLast?_dropRight h

theorem dropRight_sublist (p : Char → Bool) (cs : List Char) : (dropRight p cs).Sublist cs := by
  have h := (List.dropWhile_sublist p (l := cs.reverse)).reverse
  rwa [List.reverse_reverse] at h

theorem rstrip_rstrip (c : Char) (s : String) : rstrip c (rstrip c s) = rstrip c s := by
  unfold rstrip
  rw [String.toList_ofList, dropRight_idem]

theorem strip_sublist (s : String) : (strip s).toList.Sublist s.toList := by
  unfold strip
  rw [String.toList_ofList]
  exact (dropRight_sublist _ _).trans (List.dropWhile_sublist _)

theorem rstrip_sublist (c : Char) (s : String) : (rstrip c s).toList.Sublist s.toList := by
  unfold rstrip
  rw [String.toList_ofList]
  exact dropRight_sublist _ _

/-- A text without spaces is not trimmed. -/
theorem strip_eq_self {s : String} (h : ∀ c ∈ s.toList, isSpace c = false) : strip s = s := by
  unfold strip
  have hfront : s.toList.dropWhile isSpace = s.toList := by
    cases hs : s.toList with
    | nil => rfl
    | cons c cs => rw [List.dropWhile_cons_of_neg (by simp [h c (by simp [hs])])]
  rw [hfront, dropRight_eq_self fun c hc => h c (List.mem_of_getLast? hc), String.ofList_toList]

/-- Lower case, twice. -/
theorem lowerChar_lowerChar (c : Char) : lowerChar (lowerChar c) = lowerChar c := by
  by_cases hupper : 'A' ≤ c ∧ c ≤ 'Z'
  · have hletters : ∀ n < 26, lowerChar (lowerChar (Char.ofNat (65 + n))) = lowerChar (Char.ofNat (65 + n)) := by
      decide
    have hrange : 65 ≤ c.toNat ∧ c.toNat ≤ 90 := hupper
    have hc : c = Char.ofNat (65 + (c.toNat - 65)) := by
      rw [show 65 + (c.toNat - 65) = c.toNat by omega, Char.ofNat_toNat]
    rw [hc]
    exact hletters _ (by omega)
  · by_cases hkelvin : c = Char.ofNat 0x212a
    · rw [hkelvin]
      decide
    · have hsame : lowerChar c = c := by
        unfold lowerChar
        rw [if_neg hupper, if_neg hkelvin]
      rw [hsame, hsame]

theorem lower_eq_self {s : String} (h : ∀ c ∈ s.toList, lowerChar c = c) : lower s = s := by
  unfold lower
  rw [List.map_congr_left h, List.map_id', String.ofList_toList]

end Text

namespace Sbegw.Schema

open Text

/-! ### Addresses -/

theorem ipOf_show {v : Json} {path path' : String} {version : Option ℕ} {addr : Ip.Addr}
    (h : ipOf v path version = .ok addr) : ipOf (.str addr.show) path' version = .ok addr := by
  unfold ipOf at h ⊢
  obtain ⟨s, -, h⟩ := except_bind_eq_ok.mp h
  simp only [needStr, ok_bind]
  split at h
  · exact absurd h (by simp)
  · next found hfound =>
    have haddr : found = addr := by
      cases version with
      | none => exact Except.ok.inj h
      | some v =>
        simp only at h
        split at h
        · exact Except.ok.inj h
        · exact absurd h (by simp)
    subst haddr
    rw [Ip.ipAddress_show_of_ipAddress hfound]
    cases version with
    | none => rfl
    | some v =>
      simp only at h ⊢
      split at h
      · next hv => rw [if_pos hv]; rfl
      · exact absurd h (by simp)

/-- **An address in normal form stays.** -/
theorem vIp_again {v : Json} {path path' s : String} {version : Option ℕ} (h : vIp v path version = .ok s) :
    vIp (.str s) path' version = .ok s := by
  unfold vIp at h ⊢
  cases haddr : ipOf v path version with
  | error e =>
    rw [haddr] at h
    exact absurd h (by simp [Except.map])
  | ok addr =>
    rw [haddr] at h
    obtain rfl := Except.ok.inj h
    rw [ipOf_show haddr]
    rfl

/-! ### DNS names -/

/-- `value.strip().lower().rstrip(".")` -/
def dnsName (s : String) : String := rstrip '.' (lower (strip s))

/-- The text ends in a line break, which `$` overlooks. -/
def EndsLine (s : String) : Prop := s.toList.getLast? = some '\n'

instance (s : String) : Decidable (EndsLine s) := inferInstanceAs (Decidable (_ = _))

theorem chopNewline_eq_self {cs : List Char} (h : cs.getLast? ≠ some '\n') : chopNewline cs = cs := by
  unfold chopNewline
  split
  · next rest hrev =>
    exfalso
    rw [List.getLast?_eq_head?_reverse, hrev] at h
    exact h rfl
  · rfl

theorem domain_eq_ok {v : Json} {path d : String} (h : domain v path = .ok d) :
    ∃ s, v = .str s ∧ d = dnsName s ∧ domainRe d = true := by
  unfold domain at h
  obtain ⟨s, hs, h⟩ := except_bind_eq_ok.mp h
  simp only at h
  split at h
  · next hre =>
    obtain rfl := Except.ok.inj h
    exact ⟨s, needStr_eq_ok hs, rfl, hre⟩
  · exact absurd h (by simp)

theorem domain_of_re {s path : String} (h : domainRe (dnsName s) = true) :
    domain (.str s) path = .ok (dnsName s) := by
  unfold domain
  simp only [needStr, ok_bind]
  exact if_pos h

theorem isSpace_of_alnum {c : Char} (h : (isAlnum c || c == '_' || c == '-') = true) : isSpace c = false := by
  have hbound : 45 ≤ c.toNat ∧ c.toNat ≤ 122 := by
    simp only [isAlnum, isDigit, isLowerAlpha, isUpperAlpha, Bool.or_eq_true, Bool.and_eq_true, decide_eq_true_eq,
      beq_iff_eq] at h
    rcases h with (((h | h) | h) | rfl) | rfl
    · have hrange : 48 ≤ c.toNat ∧ c.toNat ≤ 57 := h
      omega
    · have hrange : 97 ≤ c.toNat ∧ c.toNat ≤ 122 := h
      omega
    · have hrange : 65 ≤ c.toNat ∧ c.toNat ≤ 90 := h
      omega
    · decide
    · decide
  unfold isSpace
  simp only [Bool.or_eq_false_iff, Bool.and_eq_false_iff, decide_eq_false_iff_not, beq_eq_false_iff_ne]
  omega

theorem isSpace_of_label {p q : Char → Bool} {cs : List Char} (h : isLabel p q cs = true)
    (hq : ∀ c, q c = true → (isAlnum c || c == '_' || c == '-') = true) : ∀ c ∈ cs, isSpace c = false := by
  unfold isLabel at h
  simp only [Bool.and_eq_true] at h
  exact fun c hc => isSpace_of_alnum (hq c (List.all_eq_true.mp h.1.1.2 c hc))

/-- The labels of a DNS name, of which a dot at the end is none. -/
theorem labels_of_domainRe {s : String} (h : domainRe s = true) : ∃ body : List Char,
    (∀ c ∈ chopNewline s.toList, c = '.' ∨ c ∈ body) ∧
      (∀ p ∈ (splitChars '.' body).dropLast,
        isLabel (fun c => isAlnum c || c == '_') (fun c => isAlnum c || c == '_' || c == '-') p = true) ∧
      (splitChars '.' body).getLast?.any (isLabel isAlnum fun c => isAlnum c || c == '-') = true := by
  unfold domainRe at h
  generalize chopNewline s.toList = cs at h ⊢
  simp only [Bool.and_eq_true] at h
  split at h
  · next rest hrev =>
    refine ⟨rest.reverse, fun c hc => ?_, List.all_eq_true.mp h.1.2, h.2⟩
    have hmem := List.mem_reverse.mpr hc
    rw [hrev, List.mem_cons] at hmem
    exact hmem.imp_right List.mem_reverse.mpr
  · exact ⟨cs, fun c hc => .inr hc, List.all_eq_true.mp h.1.2, h.2⟩

/-- The characters of a DNS name are no spaces. -/
theorem noSpace_of_domainRe {s : String} (h : domainRe s = true) :
    ∀ c ∈ chopNewline s.toList, isSpace c = false := by
  obtain ⟨body, hsub, hinit, hlast⟩ := labels_of_domainRe h
  intro c hc
  by_cases hdot : c = '.'
  · rw [hdot]
    decide
  · have hin := (hsub c hc).resolve_left hdot
    obtain ⟨p, hp, hcp⟩ := (mem_splitChars hdot).mp hin
    have hne := splitChars_ne_nil '.' body
    rw [← List.dropLast_append_getLast hne, List.mem_append, List.mem_singleton] at hp
    rcases hp with hp | rfl
    · exact isSpace_of_label (hinit p hp) (fun _ h => h) c hcp
    · rw [List.getLast?_eq_some_getLast hne, Option.any_some] at hlast
      exact isSpace_of_label hlast (fun d hd => by
        simp only [Bool.or_eq_true] at hd ⊢
        exact hd.imp_left .inl) c hcp

/-- A DNS name in normal form, unless it ends in a line break. -/
theorem dnsName_eq_self {s : String} (hre : domainRe (dnsName s) = true) (hend : ¬ EndsLine (dnsName s)) :
    dnsName (dnsName s) = dnsName s := by
  have hspaces := noSpace_of_domainRe hre
  rw [chopNewline_eq_self hend] at hspaces
  have hlower : lower (dnsName s) = dnsName s := by
    refine lower_eq_self fun c hc => ?_
    have hmem : c ∈ (lower (strip s)).toList := (rstrip_sublist '.' _).subset hc
    unfold lower at hmem
    rw [String.toList_ofList] at hmem
    obtain ⟨d, -, rfl⟩ := List.mem_map.mp hmem
    exact lowerChar_lowerChar d
  have hdots : rstrip '.' (dnsName s) = dnsName s := rstrip_rstrip '.' _
  conv_lhs => rw [dnsName]
  rw [strip_eq_self hspaces, hlower, hdots]

/-- **A name in normal form stays.** -/
theorem domain_settled {s path : String} (hre : domainRe (dnsName s) = true) (hend : ¬ EndsLine (dnsName s)) :
    domain (.str (dnsName s)) path = .ok (dnsName s) := by
  have hsame := dnsName_eq_self hre hend
  have hre' : domainRe (dnsName (dnsName s)) = true := by rw [hsame, hre]
  rw [domain_of_re hre', hsame]

theorem length_strip_lt {s : String} {c : Char} (hlast : s.toList.getLast? = some c) (hc : isSpace c = true) :
    (strip s).toList.length < s.toList.length := by
  have hle := (strip_sublist s).length_le
  refine lt_of_le_of_ne hle fun heq => ?_
  have hsame := (strip_sublist s).eq_of_length heq
  rw [← hsame] at hlast
  unfold strip at hlast
  rw [String.toList_ofList] at hlast
  exact absurd (getLast?_dropRight hlast) (by simp [hc])

/-- A name that stays does not end in a line break. -/
theorem notEndsLine_of_dnsName {s : String} (h : dnsName s = s) : ¬ EndsLine s := by
  intro hend
  have hlt := length_strip_lt hend (by decide)
  have hlower : (lower (strip s)).toList.length = (strip s).toList.length := by
    unfold lower
    rw [String.toList_ofList, List.length_map]
  have hle := (rstrip_sublist '.' (lower (strip s))).length_le
  have hsame : (rstrip '.' (lower (strip s))).toList.length = s.toList.length := by
    show (dnsName s).toList.length = _
    rw [h]
  omega

/-! ### The URLs of a controller -/

theorem notSpace_of_all {cs : List Char} (h : cs.all (fun c => !isSpace c) = true) :
    ∀ c ∈ cs, isSpace c = false := fun c hc => by
  simpa using List.all_eq_true.mp h c hc

theorem afterHttp_eq_some {cs rest : List Char} (h : afterHttp cs = some rest) :
    ∃ scheme : List Char, (∀ c ∈ scheme, isSpace c = false) ∧ cs = scheme ++ rest ∧
      ∀ rest', afterHttp (scheme ++ rest') = some rest' := by
  unfold afterHttp at h
  cases hhttp : stripPrefix? "http://".toList cs with
  | some r =>
    rw [hhttp] at h
    obtain rfl : r = rest := Option.some.inj h
    refine ⟨"http://".toList, notSpace_of_all (by decide), stripPrefix?_eq_some_iff.mp hhttp, fun rest' => ?_⟩
    unfold afterHttp
    rw [stripPrefix?_append]
    rfl
  | none =>
    rw [hhttp] at h
    refine ⟨"https://".toList, notSpace_of_all (by decide), stripPrefix?_eq_some_iff.mp h, fun rest' => ?_⟩
    unfold afterHttp
    rw [stripPrefix?_append]
    rfl

/-- The URL to inform, without the slash at its end. -/
theorem inform_again {url : String} (hline : '\n' ∉ url.toList) (h : informRe url = true) :
    strip (rstrip '/' url) = rstrip '/' url ∧ informRe (rstrip '/' url) = true := by
  have hchop : ∀ {s : String}, '\n' ∉ s.toList → chopNewline s.toList = s.toList := fun hs =>
    chopNewline_eq_self fun hend => hs (List.mem_of_getLast? hend)
  have hline' : '\n' ∉ (rstrip '/' url).toList := fun hmem => hline ((rstrip_sublist '/' url).subset hmem)
  unfold informRe at h
  rw [hchop hline] at h
  split at h
  · exact absurd h (by simp)
  · next cs hafter =>
    obtain ⟨scheme, hscheme, hurl, hany⟩ := afterHttp_eq_some hafter
    simp only [Bool.and_eq_true, Bool.or_eq_true, beq_iff_eq] at h
    obtain ⟨hhost, hrest⟩ := h
    generalize hhostDef : cs.takeWhile (fun c => c != '/' && !isSpace c) = host at hhost hrest
    have hhostChars : ∀ c ∈ host, c ≠ '/' ∧ isSpace c = false := by
      intro c hc
      rw [← hhostDef] at hc
      have hp := List.mem_takeWhile_imp hc
      simpa using hp
    have hcs : cs = host ++ cs.drop host.length := by
      have htake := List.takeWhile_append_dropWhile (p := fun c => c != '/' && !isSpace c) (l := cs)
      rw [hhostDef] at htake
      conv_rhs => rw [← htake, List.drop_left]
      exact htake.symm
    have hshort : (rstrip '/' url).toList = scheme ++ (host ++ "/inform".toList) := by
      have hbase : dropRight (· == '/') (scheme ++ (host ++ "/inform".toList)) =
          scheme ++ (host ++ "/inform".toList) := by
        refine dropRight_eq_self fun c hc => ?_
        rw [← List.append_assoc, List.getLast?_append_of_ne_nil _ (by decide)] at hc
        rw [← Option.some.inj hc]
        decide
      unfold rstrip
      rw [String.toList_ofList, hurl, hcs]
      rcases hrest with hrest | hrest
      · rw [hrest]
        exact hbase
      · rw [hrest]
        have hslash : scheme ++ (host ++ "/inform/".toList) = scheme ++ (host ++ "/inform".toList) ++ ['/'] := by
          simp
        rw [hslash]
        unfold dropRight at hbase ⊢
        rw [List.reverse_append, List.reverse_singleton, List.singleton_append,
          List.dropWhile_cons_of_pos (by decide)]
        exact hbase
    constructor
    · refine strip_eq_self fun c hc => ?_
      rw [hshort, List.mem_append, List.mem_append] at hc
      rcases hc with hc | hc | hc
      · exact hscheme c hc
      · exact (hhostChars c hc).2
      · exact notSpace_of_all (by decide) c hc
    · have htake : (host ++ "/inform".toList).takeWhile (fun c => c != '/' && !isSpace c) = host := by
        rw [List.takeWhile_append_of_pos (by
          intro c hc
          simpa using hhostChars c hc)]
        have hnone : "/inform".toList.takeWhile (fun c => c != '/' && !isSpace c) = [] := by decide
        rw [hnone, List.append_nil]
      unfold informRe
      rw [hchop hline', hshort, hany]
      dsimp only
      rw [htake, List.drop_left]
      simpa using hhost

/-- The URL of the API. -/
theorem integration_again {url : String} (hline : '\n' ∉ url.toList)
    (h : integrationRe (rstrip '/' (strip url)) = true) :
    rstrip '/' (strip (rstrip '/' (strip url))) = rstrip '/' (strip url) := by
  have hline' : '\n' ∉ (rstrip '/' (strip url)).toList := fun hmem =>
    hline ((strip_sublist url).subset ((rstrip_sublist '/' (strip url)).subset hmem))
  have hspaces : ∀ c ∈ (rstrip '/' (strip url)).toList, isSpace c = false := by
    unfold integrationRe at h
    rw [chopNewline_eq_self fun hend => hline' (List.mem_of_getLast? hend)] at h
    split at h
    · exact absurd h (by simp)
    · next cs hafter =>
      obtain ⟨scheme, hscheme, hurl, -⟩ := afterHttp_eq_some hafter
      rw [Bool.and_eq_true] at h
      intro c hc
      rw [hurl, List.mem_append] at hc
      rcases hc with hc | hc
      · exact hscheme c hc
      · exact notSpace_of_all h.1 c hc
  rw [strip_eq_self hspaces, rstrip_rstrip]

end Sbegw.Schema
