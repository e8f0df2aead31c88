import Entitlement.Filter
import Entitlement.Proofs.Text.Lower
import Entitlement.Sql.Pattern

/-!
# What resource filters match

* `Filter.matchesPermission_iff`, `Filter.matchesType_iff` : the two tests as statements on texts in
  lower case;
* `Pattern.accepts_escape` : what is escaped stands for itself; `Filter.lower_pattern` : lowering a
  pattern leaves its escapes alone, and sees the same words in it;
* `Filter.patterns_agree` : so a database that matches by the patterns finds what the filter
  matches;
* `Filter.matches_lower` : what a filter matches does not depend on the case of names, types and
  resources;
* `Filter.matches_own_resource` : when a filter matches the permissions of a resource that it names.
  It does not if a capital sigma ends the resource and the action begins with a letter
  (`Filter.own_resource_unmatched`).
-/

namespace Entitlement
open Text

/-! ## Escapes -/

namespace Filter

theorem escape_cons (c : Char) (cs : List Char) : escape (c :: cs) =
    (if c = '\\' ∨ c = '%' ∨ c = '_' then ['\\', c] else [c]) ++ escape cs := List.flatMap_cons

theorem escape_append (u v : List Char) : escape (u ++ v) = escape u ++ escape v :=
  List.flatMap_append

end Filter

namespace Pattern

/-- A character that is escaped where it has to be stands for itself. -/
theorem accepts_escape_cons (c d : Char) (p text : List Char) :
    accepts (Filter.escape [c] ++ p) (d :: text) = (decide (c = d) && accepts p text) := by
  rw [Filter.escape_cons]
  by_cases hc : c = '\\' ∨ c = '%' ∨ c = '_'
  · rw [if_pos hc]
    change accepts ('\\' :: c :: p) (d :: text) = _
    rw [accepts]
  · rw [if_neg hc]
    simp only [not_or] at hc
    simp [Filter.escape, accepts, hc]

theorem accepts_escape_nil (c : Char) (p : List Char) :
    accepts (Filter.escape [c] ++ p) [] = false := by
  rw [Filter.escape_cons]
  by_cases hc : c = '\\' ∨ c = '%' ∨ c = '_'
  · simp [hc, accepts]
  · rw [if_neg hc]
    simp only [not_or] at hc
    simp [Filter.escape, accepts, hc]

theorem accepts_escape_singleton (c : Char) (p text : List Char) :
    accepts (Filter.escape [c] ++ p) text = true ↔
      ∃ rest, text = c :: rest ∧ accepts p rest = true := by
  cases text with
  | nil =>
    rw [accepts_escape_nil]
    exact iff_of_false Bool.false_ne_true nofun
  | cons d text =>
    rw [accepts_escape_cons, Bool.and_eq_true, decide_eq_true_eq]
    constructor
    · rintro ⟨rfl, hrest⟩
      exact ⟨text, rfl, hrest⟩
    · rintro ⟨rest, htext, hrest⟩
      obtain ⟨rfl, rfl⟩ := List.cons.inj htext
      exact ⟨rfl, hrest⟩

/-- What is escaped stands for itself. -/
theorem accepts_escape (l p text : List Char) : accepts (Filter.escape l ++ p) text = true ↔
    ∃ rest, text = l ++ rest ∧ accepts p rest = true := by
  induction l generalizing text with
  | nil => simp [Filter.escape]
  | cons c l ih =>
    rw [← List.singleton_append, Filter.escape_append, List.append_assoc, accepts_escape_singleton]
    simp only [ih]
    constructor
    · rintro ⟨_, rfl, rest, rfl, hrest⟩
      exact ⟨rest, rfl, hrest⟩
    · rintro ⟨rest, rfl, hrest⟩
      exact ⟨_, rfl, rest, rfl, hrest⟩

theorem accepts_any (text : List Char) : accepts ['%'] text = true := by
  rw [accepts, List.any_eq_true]
  exact ⟨text.length, by simp, by simp [accepts]⟩

theorem accepts_colon_any (text : List Char) :
    accepts [':', '%'] text = true ↔ ∃ rest, text = ':' :: rest := by
  have hcolon : [':', '%'] = Filter.escape [':'] ++ ['%'] := by decide
  rw [hcolon, accepts_escape_singleton]
  simp only [accepts_any, and_true]

end Pattern

namespace Filter

/-! ## Patterns in lower case -/

section Special
variable {c : Char}

theorem lowerChar_of_special (h : c = '\\' ∨ c = '%' ∨ c = '_') : lowerChar c = [c] := by
  rcases h with rfl | rfl | rfl <;> decide

theorem ne_sigma_of_special (h : c = '\\' ∨ c = '%' ∨ c = '_') : c ≠ 'Σ' := by
  rcases h with rfl | rfl | rfl <;> decide

set_option maxRecDepth 4000 in
/-- No letter is seen past a character that has a meaning in patterns. -/
theorem meetsCased_of_special (h : c = '\\' ∨ c = '%' ∨ c = '_') (cs : List Char) :
    meetsCased (c :: cs) = false := by
  have hplain : isCaseIgnorable c = false ∧ isCased c = false := by
    rcases h with rfl | rfl | rfl <;> decide
  rw [meetsCased_cons, hplain.1, hplain.2]
  rfl

/-- Lowering makes no character that has a meaning in patterns. -/
theorem escape_lowerChar (h : ¬ (c = '\\' ∨ c = '%' ∨ c = '_')) :
    escape (lowerChar c) = lowerChar c := by
  unfold lowerChar
  split
  · decide
  · rw [escape_cons, if_neg]
    · rfl
    · rwa [ofNat_lowerCode_eq_iff (by decide), ofNat_lowerCode_eq_iff (by decide),
        ofNat_lowerCode_eq_iff (by decide)]

end Special

/-- A letter is seen past a colon. -/
theorem meetsCased_colon (cs : List Char) : meetsCased (':' :: cs) = meetsCased cs := by
  have hcolon : isCaseIgnorable ':' = true := by decide
  rw [meetsCased_cons, hcolon, if_pos rfl]

theorem meetsCased_escape (cs : List Char) :
    meetsCased (escape cs ++ [':', '%']) = meetsCased cs := by
  induction cs with
  | nil => exact (meetsCased_colon ['%']).trans (meetsCased_of_special (.inr (.inl rfl)) [])
  | cons c cs ih =>
    rw [escape_cons]
    by_cases hc : c = '\\' ∨ c = '%' ∨ c = '_'
    · rw [if_pos hc, meetsCased_of_special hc]
      exact meetsCased_of_special (.inl rfl) _
    · rw [if_neg hc, meetsCased_cons, ← ih]
      exact meetsCased_cons _ _

/-- Both texts before the characters show the same letter, though one of them holds escapes. -/
theorem lowerIn_escape {before before' : List Char} (h : meetsCased before = meetsCased before')
    (cs : List Char) : lowerIn before (escape cs ++ [':', '%']) =
      escape (lowerIn before' cs) ++ [':', '%'] := by
  induction cs generalizing before before' with
  | nil => rfl
  | cons c cs ih =>
    rw [escape_cons, lowerIn, escape_append]
    by_cases hc : c = '\\' ∨ c = '%' ∨ c = '_'
    · have hnext : meetsCased (c :: '\\' :: before) = meetsCased (c :: before') := by
        rw [meetsCased_of_special hc, meetsCased_of_special hc]
      rw [if_pos hc, if_neg (ne_sigma_of_special hc), lowerChar_of_special hc, escape_cons,
        if_pos hc]
      simp only [List.cons_append, List.nil_append, lowerIn]
      rw [if_neg (by decide), if_neg (ne_sigma_of_special hc), lowerChar_of_special hc, ih hnext]
      rfl
    · have hnext : meetsCased (c :: before) = meetsCased (c :: before') := by
        rw [meetsCased_cons, meetsCased_cons, h]
      rw [if_neg hc, List.singleton_append, List.cons_append, lowerIn, ih hnext]
      by_cases hsigma : c = 'Σ'
      · have hends : endsWord before (escape cs ++ [':', '%']) = endsWord before' cs := by
          rw [endsWord, meetsCased_escape, h, endsWord]
        rw [if_pos hsigma, if_pos hsigma, hends]
        cases endsWord before' cs with
        | false => rfl
        | true => rfl
      · rw [if_neg hsigma, if_neg hsigma, escape_lowerChar hc, List.append_assoc]

theorem lower_pattern (r : String) :
    (lower (pattern r)).toList = escape (lower r).toList ++ [':', '%'] := by
  rw [lower, pattern, String.toList_ofList, String.toList_ofList, lower, String.toList_ofList]
  exact lowerIn_escape rfl _

theorem acceptsAnyCase_pattern (r name : String) :
    Pattern.acceptsAnyCase (pattern r) name = true ↔
      (lower r).toList ++ [':'] <+: (lower name).toList := by
  rw [Pattern.acceptsAnyCase, lower_pattern, Pattern.accepts_escape]
  simp only [Pattern.accepts_colon_any]
  constructor
  · rintro ⟨_, htext, rest, rfl⟩
    exact ⟨rest, by rw [htext, List.append_assoc]; rfl⟩
  · rintro ⟨rest, htext⟩
    exact ⟨':' :: rest, by rw [← htext, List.append_assoc]; rfl, rest, rfl⟩

/-! ## The tests of a filter -/

variable {f : Filter}

theorem matchesPermission_iff {name : String} : f.matchesPermission name = true ↔
    f.resources = [] ∨ ∃ r ∈ f.resources, (lower r).toList ++ [':'] <+: (lower name).toList := by
  simp only [matchesPermission, isEmpty, Bool.or_eq_true, List.isEmpty_iff, List.any_eq_true,
    List.isPrefixOf_iff_prefix]

theorem matchesType_iff {type : String} : f.matchesType type = true ↔
    f.resources = [] ∨ ∃ r ∈ f.resources, lower r = lower type := by
  simp only [matchesType, isEmpty, Bool.or_eq_true, List.isEmpty_iff, List.any_eq_true,
    decide_eq_true_eq]

/-- **A database finds by the patterns and the types of a filter what the filter matches.** What
stands in a resource, a pattern takes literally. -/
theorem patterns_agree (f : Filter) (name type : String) :
    (f.matchesPermission name = true ↔
      f.patterns = [] ∨ ∃ p ∈ f.patterns, Pattern.acceptsAnyCase p name = true) ∧
    (f.matchesType type = true ↔ f.lowered = [] ∨ lower type ∈ f.lowered) ∧
    ∀ r, Pattern.acceptsAnyCase (pattern r) name = true ↔
      (lower r).toList ++ [':'] <+: (lower name).toList := by
  refine ⟨?_, ?_, fun r => acceptsAnyCase_pattern r name⟩
  · rw [matchesPermission_iff, patterns, List.map_eq_nil_iff]
    simp only [List.mem_map, ← acceptsAnyCase_pattern]
    constructor
    · exact Or.imp_right fun ⟨r, hr, hname⟩ => ⟨_, ⟨r, hr, rfl⟩, hname⟩
    · exact Or.imp_right fun ⟨_, ⟨r, hr, he⟩, hname⟩ => ⟨r, hr, he ▸ hname⟩
  · rw [matchesType_iff, lowered, List.map_eq_nil_iff, List.mem_map]

/-! ## Case -/

/-- With all resources in lower case. -/
def lowercase (f : Filter) : Filter := ⟨f.lowered⟩

theorem isEmpty_lowercase (f : Filter) : f.lowercase.isEmpty = f.isEmpty := List.isEmpty_map

theorem any_lowercase (f : Filter) (p : String → Bool) :
    (f.lowercase.resources.any fun r => p (lower r)) = f.resources.any fun r => p (lower r) := by
  show (f.resources.map lower).any _ = _
  rw [List.any_map]
  simp only [Function.comp_def, lower_lower]

/-- Resources that are lowered first are the same after empty ones are dropped. -/
theorem ofResources_map_lower (rs : List String) :
    ofResources (rs.map lower) = (ofResources rs).lowercase := by
  have hkept : (fun r : String => decide (r ≠ "")) ∘ lower = fun r => decide (r ≠ "") := by
    funext r
    simp only [Function.comp, ne_eq, lower_eq_empty_iff]
  rw [ofResources, List.filter_map, hkept]
  rfl

/-- **Case does not matter**: neither that of a name or a type, nor that of the resources, before or
after they make a filter. -/
theorem matches_lower (f : Filter) (name type : String) :
    f.matchesPermission (lower name) = f.matchesPermission name ∧
    f.matchesType (lower type) = f.matchesType type ∧
    f.lowercase.matchesPermission name = f.matchesPermission name ∧
    f.lowercase.matchesType type = f.matchesType type ∧
    f.lowercase.lowered = f.lowered ∧
    ∀ rs, f = ofResources rs → f.lowercase = ofResources (rs.map lower) := by
  refine ⟨?_, ?_, ?_, ?_, ?_, ?_⟩
  · rw [matchesPermission, lower_lower, matchesPermission]
  · rw [matchesType, lower_lower, matchesType]
  · rw [matchesPermission, isEmpty_lowercase, matchesPermission]
    exact congrArg _ (f.any_lowercase fun r => (r.toList ++ [':']).isPrefixOf (lower name).toList)
  · rw [matchesType, isEmpty_lowercase, matchesType]
    exact congrArg _ (f.any_lowercase fun r => decide (r = lower type))
  · show (f.resources.map lower).map lower = f.resources.map lower
    rw [List.map_map]
    exact List.map_congr_left fun r _ => lower_lower r
  · rintro rs rfl
    exact (ofResources_map_lower rs).symm

/-! ## The resource's own permissions -/

/-- The colon after a resource lets the letters of the action be seen from it. -/
theorem lower_own_iff (r a : String) :
    (lower r).toList ++ [':'] <+: (lower (r ++ ":" ++ a)).toList ↔
      ¬ (EndsInSigma [] r.toList ∧ meetsCased a.toList = true) := by
  have hname : (lower (r ++ ":" ++ a)).toList = lowerAmid [] r.toList (':' :: a.toList) ++
      ':' :: lowerIn (':' :: (r.toList.reverse ++ [])) a.toList := by
    have hcolon : lowerChar ':' = [':'] := by decide
    have htext : (r ++ ":" ++ a).toList = r.toList ++ ':' :: a.toList := by simp
    rw [lower, String.toList_ofList, htext, lowerIn_append, lowerIn, if_neg (by decide), hcolon]
    rfl
  rw [hname, ← meetsCased_colon, ← lowerAmid_eq_iff, lower, String.toList_ofList, ← lowerAmid_nil]
  constructor
  · rintro ⟨rest, h⟩
    rw [List.append_assoc] at h
    exact (List.append_inj h (length_lowerAmid _ _ _ _)).1.symm
  · intro h
    rw [h]
    exact ⟨_, List.append_assoc _ _ _⟩

theorem matchesPermission_singleton_iff {r name : String} (hr : r ≠ "") :
    (ofResources [r]).matchesPermission name = true ↔
      (lower r).toList ++ [':'] <+: (lower name).toList := by
  simp [matchesPermission_iff, ofResources, hr]

/-- **A filter matches the type of each resource that it names, and its permissions** but for one
case: a capital sigma is the last letter of the resource, the action begins with a letter, and no
other resource of the filter matches. -/
theorem matches_own_resource {rs : List String} {r : String} (hr : r ∈ rs) (hne : r ≠ "")
    (a : String) :
    (ofResources rs).matchesType r = true ∧
    ((ofResources rs).matchesPermission (r ++ ":" ++ a) = true ↔
      ¬ (EndsInSigma [] r.toList ∧ meetsCased a.toList = true) ∨
        ∃ r' ∈ rs, r' ≠ "" ∧ r' ≠ r ∧
          (ofResources [r']).matchesPermission (r ++ ":" ++ a) = true) := by
  have hmem : ∀ r', r' ∈ (ofResources rs).resources ↔ r' ∈ rs ∧ r' ≠ "" := by
    intro r'
    simp [ofResources]
  have hsome : (ofResources rs).resources ≠ [] := List.ne_nil_of_mem ((hmem r).2 ⟨hr, hne⟩)
  refine ⟨matchesType_iff.2 (.inr ⟨r, (hmem r).2 ⟨hr, hne⟩, rfl⟩), ?_⟩
  rw [matchesPermission_iff, or_iff_right hsome]
  constructor
  · rintro ⟨r', hr', hname⟩
    obtain ⟨hr', hne'⟩ := (hmem r').1 hr'
    by_cases he : r' = r
    · rw [he] at hname
      exact .inl ((lower_own_iff r a).1 hname)
    · exact .inr ⟨r', hr', hne', he, (matchesPermission_singleton_iff hne').2 hname⟩
  · rintro (hown | ⟨r', hr', hne', -, hname⟩)
    · exact ⟨r, (hmem r).2 ⟨hr, hne⟩, (lower_own_iff r a).2 hown⟩
    · exact ⟨r', (hmem r').2 ⟨hr', hne'⟩, (matchesPermission_singleton_iff hne').1 hname⟩

set_option maxRecDepth 4000 in
/-- A digit is no letter, so the sigma still ends its word. -/
theorem matches_own_resource_digit : "ΑΣ" ∈ ["horses", "ΑΣ"] ∧ "ΑΣ" ≠ "" ∧
    (ofResources ["horses", "ΑΣ"]).matchesType "ΑΣ" = true ∧
    (ofResources ["horses", "ΑΣ"]).matchesPermission ("ΑΣ" ++ ":" ++ "1") = true := by
  have hmem : "ΑΣ" ∈ ["horses", "ΑΣ"] := by decide
  have hne : "ΑΣ" ≠ "" := by decide
  have hdigit : meetsCased "1".toList = false := rfl
  obtain ⟨htype, hname⟩ := matches_own_resource hmem hne "1"
  exact ⟨hmem, hne, htype, hname.2 (.inl fun h => Bool.false_ne_true (hdigit.symm.trans h.2))⟩

/-- The sigma ends a word of the resource but not one of the permission. -/
theorem own_resource_unmatched :
    (ofResources ["ΑΣ"]).matchesPermission ("ΑΣ" ++ ":" ++ "read") = false := by decide +kernel

end Filter

end Entitlement
