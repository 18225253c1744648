import Mathlib

/-!
# Masked URLs

Responses and logs show RPC URLs through `mask_url`, so that the keys in their paths and
queries stay hidden.  The function looks for the first slash after the scheme and for the
first question mark of the whole text, and never for a hash sign.
-/

namespace Relayer.UrlMask

def schemeSeparator : List Char := "://".toList

/-- The texts before and after the first `://`. -/
def splitScheme : List Char → Option (List Char × List Char)
  | [] => none
  | char :: rest =>
      if schemeSeparator.isPrefixOf (char :: rest) then some ([], rest.drop 2)
      else (splitScheme rest).map fun parts => (char :: parts.1, parts.2)

def maskText (url : List Char) : List Char :=
  match splitScheme url with
  | none => "***".toList
  | some (scheme, rest) =>
      let pathAndBeyond := rest.dropWhile (· != '/')
      if pathAndBeyond ≠ [] then
        if 1 < pathAndBeyond.length ∨ '?' ∈ url then
          scheme ++ schemeSeparator ++ rest.takeWhile (· != '/') ++ "/***".toList
        else url
      else if '?' ∈ url then url.takeWhile (· != '?') ++ "?***".toList
      else url

def maskUrl (url : String) : String := String.ofList (maskText url.toList)

/-! ## What may be shown -/

/-- The first `://` of a text stands between `scheme` and `rest`. -/
structure SchemeEnds (text scheme rest : List Char) : Prop where
  parts : text = scheme ++ schemeSeparator ++ rest
  first : ∀ before after, text = before ++ schemeSeparator ++ after →
    scheme.length ≤ before.length

/-- Path, query and fragment begin with these. -/
def delimits (char : Char) : Bool := char == '/' || char == '?' || char == '#'

def host (rest : List Char) : List Char := rest.takeWhile fun char => !delimits char

def beyondHost (rest : List Char) : List Char := rest.dropWhile fun char => !delimits char

def maskEndings : List (List Char) := ["".toList, "/".toList, "/***".toList, "?***".toList]

/-- What a masked URL may be, if `shown` is the URL up to the end of its host. -/
def maskedForms (shown : List Char) : List (List Char) := maskEndings.map (shown ++ ·)

/-- The masked URL tells nothing of what follows the host. -/
def HidesBeyondHost (url : String) (scheme rest : List Char) : Prop :=
  (maskUrl url).toList ∈ maskedForms (scheme ++ schemeSeparator ++ host rest)

/-- The host ends at a slash, or the URL has neither path nor fragment and no question mark
before the scheme ends. -/
def PlainlyDelimited (scheme rest : List Char) : Prop :=
  (beyondHost rest).head? = some '/' ∨
    ('?' ∉ scheme ∧ '/' ∉ beyondHost rest ∧ (beyondHost rest).head? ≠ some '#')

instance (scheme rest : List Char) : Decidable (PlainlyDelimited scheme rest) :=
  inferInstanceAs (Decidable (_ ∨ _))

/-! ## The scheme -/

theorem splitScheme_parts {text scheme rest : List Char}
    (hsplit : splitScheme text = some (scheme, rest)) :
    text = scheme ++ schemeSeparator ++ rest := by
  induction text generalizing scheme with
  | nil => simp [splitScheme] at hsplit
  | cons char text ih =>
      rw [splitScheme] at hsplit
      split at hsplit
      case isTrue hprefix =>
          obtain ⟨after, hafter⟩ := List.isPrefixOf_iff_prefix.mp hprefix
          cases hsplit
          rw [← hafter]
          simp only [schemeSeparator, String.reduceToList, List.cons_append, List.nil_append,
            List.cons.injEq] at hafter ⊢
          rw [← hafter.2]
          simp
      case isFalse =>
          obtain ⟨parts, hparts, heq⟩ := Option.map_eq_some_iff.mp hsplit
          cases heq
          simpa using ih hparts

theorem splitScheme_isSome_of_parts (before after : List Char) :
    ∃ scheme rest, splitScheme (before ++ schemeSeparator ++ after) = some (scheme, rest) ∧
      scheme.length ≤ before.length := by
  induction before with
  | nil => exact ⟨[], after, by simp [splitScheme, schemeSeparator], le_rfl⟩
  | cons char before ih =>
      obtain ⟨scheme, rest, hsplit, hlength⟩ := ih
      simp only [List.cons_append]
      rw [splitScheme]
      split
      case isTrue => exact ⟨[], _, rfl, Nat.zero_le _⟩
      case isFalse => exact ⟨char :: scheme, rest, by rw [hsplit]; rfl, by simpa using hlength⟩

/-- The model finds the first separator. -/
theorem schemeEnds_iff {text scheme rest : List Char} :
    SchemeEnds text scheme rest ↔ splitScheme text = some (scheme, rest) := by
  constructor
  · intro hends
    obtain ⟨found, after, hsplit, hlength⟩ := splitScheme_isSome_of_parts scheme rest
    rw [← hends.parts] at hsplit
    have hparts := splitScheme_parts hsplit
    have hequal : found.length = scheme.length := by
      have := hends.first found after hparts
      omega
    have hcut := hparts.symm.trans hends.parts
    simp only [List.append_assoc] at hcut
    obtain ⟨hscheme, hrest⟩ := List.append_inj hcut hequal
    rw [hsplit, hscheme, List.append_cancel_left hrest]
  · intro hsplit
    refine ⟨splitScheme_parts hsplit, fun before after hparts => ?_⟩
    obtain ⟨found, _, hfound, hlength⟩ := splitScheme_isSome_of_parts before after
    rw [← hparts, hsplit] at hfound
    cases hfound
    exact hlength

/-! ## The parts of a masked URL -/

theorem host_append_beyondHost (rest : List Char) : host rest ++ beyondHost rest = rest :=
  List.takeWhile_append_dropWhile

theorem not_delimits_of_mem_host {rest : List Char} {char : Char} (hmem : char ∈ host rest) :
    delimits char = false := by
  simpa using List.mem_takeWhile_imp hmem

theorem slash_not_mem_host (rest : List Char) : '/' ∉ host rest := fun hmem =>
  absurd (not_delimits_of_mem_host hmem) (by decide)

theorem question_not_mem_host (rest : List Char) : '?' ∉ host rest := fun hmem =>
  absurd (not_delimits_of_mem_host hmem) (by decide)

/-- A delimiter, if anything, follows the host. -/
theorem beyondHost_cases (rest : List Char) :
    beyondHost rest = [] ∨ ∃ char after, beyondHost rest = char :: after ∧
      (char = '/' ∨ char = '?' ∨ char = '#') := by
  cases hbeyond : beyondHost rest with
  | nil => exact .inl rfl
  | cons char after =>
      have hne : rest.dropWhile (fun char => !delimits char) ≠ [] := by
        rw [← beyondHost, hbeyond]
        exact List.cons_ne_nil _ _
      have hhead : (rest.dropWhile fun char => !delimits char).head hne = char :=
        (List.head_eq_iff_head?_eq_some hne).mpr (by rw [← beyondHost, hbeyond]; rfl)
      have hstop := List.head_dropWhile_not (fun char => !delimits char) hne
      rw [hhead] at hstop
      refine .inr ⟨char, after, rfl, ?_⟩
      simpa only [delimits, Bool.not_eq_false', Bool.or_eq_true, beq_iff_eq, or_assoc]
        using hstop

theorem takeWhile_ne_append {left : List Char} {char : Char} (hleft : char ∉ left)
    (right : List Char) :
    (left ++ right).takeWhile (· != char) = left ++ right.takeWhile (· != char) :=
  List.takeWhile_append_of_pos fun _ hmem =>
    bne_iff_ne.mpr fun heq => hleft (heq ▸ hmem)

theorem dropWhile_ne_append {left : List Char} {char : Char} (hleft : char ∉ left)
    (right : List Char) :
    (left ++ right).dropWhile (· != char) = right.dropWhile (· != char) :=
  List.dropWhile_append_of_pos fun _ hmem =>
    bne_iff_ne.mpr fun heq => hleft (heq ▸ hmem)

section Masked

variable {scheme rest : List Char}

/-- Which endings of a shown text are allowed. -/
theorem append_mem_maskedForms {shown ending : List Char} :
    shown ++ ending ∈ maskedForms shown ↔ ending ∈ maskEndings := by
  simp only [maskedForms, List.mem_map, List.append_cancel_left_eq, exists_eq_right]

/-- A question mark in the scheme cuts the URL there. -/
theorem cut_scheme_not_masked (hquestion : '?' ∈ scheme) (after shown : List Char) :
    (scheme ++ after).takeWhile (· != '?') ++ "?***".toList ∉
      maskedForms (scheme ++ schemeSeparator ++ shown) := by
  obtain ⟨before, tail, rfl, hbefore⟩ := List.eq_append_cons_of_mem hquestion
  intro hmasked
  obtain ⟨ending, -, heq⟩ := List.mem_map.mp hmasked
  have hcut : (before ++ '?' :: tail ++ after).takeWhile (· != '?') = before := by
    rw [List.append_assoc, takeWhile_ne_append hbefore]
    simp
  rw [hcut] at heq
  simp only [List.append_assoc, List.cons_append, List.append_cancel_left_eq,
    String.reduceToList, List.cons.injEq, true_and] at heq
  -- the separator is still to come, and the mask has none
  have hcolon : ':' ∈ ['*', '*', '*'] := by
    rw [← heq]
    simp [schemeSeparator]
  exact absurd hcolon (by decide)

/-- The masked text in terms of what follows the host. -/
theorem maskText_eq {url : List Char} (hends : SchemeEnds url scheme rest) :
    maskText url =
      if '/' ∈ beyondHost rest then
        scheme ++ schemeSeparator ++ host rest ++
          if 1 < ((beyondHost rest).dropWhile (· != '/')).length ∨ '?' ∈ url then
            (beyondHost rest).takeWhile (· != '/') ++ "/***".toList
          else beyondHost rest
      else if '?' ∈ scheme then url.takeWhile (· != '?') ++ "?***".toList
      else
        scheme ++ schemeSeparator ++ host rest ++
          if '?' ∈ beyondHost rest then
            (beyondHost rest).takeWhile (· != '?') ++ "?***".toList
          else beyondHost rest := by
  have hurl : url = scheme ++ schemeSeparator ++ host rest ++ beyondHost rest := by
    rw [List.append_assoc, host_append_beyondHost]
    exact hends.parts
  have htake : rest.takeWhile (· != '/') =
      host rest ++ (beyondHost rest).takeWhile (· != '/') := by
    rw [← takeWhile_ne_append (slash_not_mem_host rest), host_append_beyondHost]
  have hdrop : rest.dropWhile (· != '/') = (beyondHost rest).dropWhile (· != '/') := by
    rw [← dropWhile_ne_append (slash_not_mem_host rest) (beyondHost rest),
      host_append_beyondHost]
  have hslash : (beyondHost rest).dropWhile (· != '/') ≠ [] ↔ '/' ∈ beyondHost rest := by
    simp [List.dropWhile_eq_nil_iff]
  have hquestion : '?' ∈ url ↔ '?' ∈ scheme ∨ '?' ∈ beyondHost rest := by
    rw [hurl]
    simp [schemeSeparator, question_not_mem_host]
  rw [maskText, schemeEnds_iff.mp hends]
  simp only [htake, hdrop, hslash]
  by_cases hpath : '/' ∈ beyondHost rest
  · simp only [hpath, if_true]
    split_ifs
    · simp only [List.append_assoc]
    · exact hurl
  · simp only [hpath, if_false]
    by_cases hscheme : '?' ∈ scheme
    · simp only [hquestion, hscheme, true_or, if_true]
    · simp only [hquestion, hscheme, false_or, if_false]
      split_ifs
      · have hshown : '?' ∉ scheme ++ schemeSeparator ++ host rest := by
          simp [schemeSeparator, question_not_mem_host, hscheme]
        rw [hurl, takeWhile_ne_append hshown, List.append_assoc]
      · exact hurl

/-- Nothing of the path, the query or the fragment is shown exactly if a slash follows the
host, or if there is no slash, the query comes first and the scheme has no question mark. -/
theorem maskUrl_hides_iff {url : String} (hends : SchemeEnds url.toList scheme rest) :
    HidesBeyondHost url scheme rest ↔ PlainlyDelimited scheme rest := by
  rw [HidesBeyondHost, maskUrl, String.toList_ofList, maskText_eq hends, PlainlyDelimited]
  by_cases hpath : '/' ∈ beyondHost rest
  · simp only [hpath, if_true, append_mem_maskedForms, not_true, false_and, and_false, or_false]
    obtain hnil | ⟨char, after, hbeyond, hchar⟩ := beyondHost_cases rest
    · simp [hnil] at hpath
    · have hurl : url.toList = scheme ++ schemeSeparator ++ host rest ++ char :: after := by
        rw [← hbeyond, List.append_assoc, host_append_beyondHost]
        exact hends.parts
      rw [hbeyond]
      rcases hchar with rfl | rfl | rfl
      · cases after with
        | nil => split_ifs <;> simp [maskEndings]
        | cons => simp [maskEndings]
      · -- the query is shown up to its first slash
        have hlonger : after.takeWhile (· != '/') ++ "/***".toList ≠ "***".toList := by
          intro heq
          simpa using congrArg List.length heq
        simpa [maskEndings, hurl] using hlonger
      · split_ifs <;> simp [maskEndings]
  · simp only [hpath, if_false, not_false_eq_true, true_and]
    have hslash : (beyondHost rest).head? ≠ some '/' := fun hhead =>
      hpath (List.mem_of_mem_head? hhead)
    by_cases hscheme : '?' ∈ scheme
    · simp only [hscheme, if_true, not_true, false_and, hslash, or_false, iff_false]
      rw [hends.parts, List.append_assoc scheme schemeSeparator rest]
      exact cut_scheme_not_masked hscheme _ _
    · simp only [hscheme, if_false, append_mem_maskedForms, not_false_eq_true, true_and, hslash,
        false_or]
      obtain hnil | ⟨char, after, hbeyond, hchar⟩ := beyondHost_cases rest
      · simp [hnil, maskEndings]
      · rw [hbeyond]
        rcases hchar with rfl | rfl | rfl
        · simp [hbeyond] at hpath
        · simp [maskEndings]
        · split_ifs <;> simp [maskEndings]

theorem maskUrl_hides_iff_infura :
    SchemeEnds "https://mainnet.infura.io/v3/PROJECT_ID".toList "https".toList
        "mainnet.infura.io/v3/PROJECT_ID".toList ∧
      HidesBeyondHost "https://mainnet.infura.io/v3/PROJECT_ID" "https".toList
        "mainnet.infura.io/v3/PROJECT_ID".toList := by
  have hends : SchemeEnds "https://mainnet.infura.io/v3/PROJECT_ID".toList "https".toList
      "mainnet.infura.io/v3/PROJECT_ID".toList := schemeEnds_iff.mpr (by decide +kernel)
  exact ⟨hends, (maskUrl_hides_iff hends).mpr (by decide +kernel)⟩

/-- The slash inside of a query is taken for the start of the path. -/
theorem query_shown_up_to_slash :
    SchemeEnds "http://localhost:8545?key=KEY/1".toList "http".toList
        "localhost:8545?key=KEY/1".toList ∧
      maskUrl "http://localhost:8545?key=KEY/1" = "http://localhost:8545?key=KEY/***" ∧
      ¬ HidesBeyondHost "http://localhost:8545?key=KEY/1" "http".toList
        "localhost:8545?key=KEY/1".toList := by
  refine ⟨schemeEnds_iff.mpr (by decide +kernel), by decide +kernel, ?_⟩
  rw [HidesBeyondHost]
  decide +kernel

end Masked

end Relayer.UrlMask
