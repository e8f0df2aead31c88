import Entitlement.Proofs.Url.Parse

/-!
# The query of an address

* `Url.queryOf_dropWhile`, `queryOf_of_scheme?` : what stands before the query does not change it;
* `Url.query_of_parse` : **the query of an address is what follows its first question mark**,
  whatever the scheme and the host are;
* `Url.HasQuery` : the texts that can only get a longer query from what is written after them;
* `Url.parse_append` : **text at the end of an address with a query is read as a part of the
  query**, and an address that is not read is rejected as before.
-/

namespace Entitlement.Url

/-! ## What follows the first question mark -/

theorem queryOf_dropWhile {p : Char → Bool} (h : ∀ c, p c = true → c ≠ '?' ∧ c ≠ '#')
    (cs : List Char) : queryOf (cs.dropWhile p) = queryOf cs := by
  have hfront : ∀ c ∈ cs.takeWhile p, decide (c ≠ '?' ∧ c ≠ '#') = true :=
    fun c hc => decide_eq_true (h c (List.mem_takeWhile_imp hc))
  conv_rhs => rw [← List.takeWhile_append_dropWhile (p := p) (l := cs)]
  unfold queryOf
  rw [List.dropWhile_append_of_pos hfront]

theorem queryOf_cons {c : Char} (h : c ≠ '?' ∧ c ≠ '#') (cs : List Char) :
    queryOf (c :: cs) = queryOf cs := by
  rw [← queryOf_dropWhile (p := fun d => decide (d ≠ '?' ∧ d ≠ '#'))
    (fun d hd => of_decide_eq_true hd) (c :: cs), List.dropWhile_cons_of_pos (by simpa using h),
    queryOf_dropWhile fun d hd => of_decide_eq_true hd]

theorem mem_of_queryOf {cs : List Char} {query : String} (h : queryOf cs = some query) :
    '?' ∈ cs := by
  unfold queryOf at h
  split at h
  · next rest hrest => exact (List.dropWhile_suffix _).subset (hrest ▸ List.mem_cons_self)
  · cases h

theorem ne_of_isSchemeChar {c : Char} (h : isSchemeChar c = true) : c ≠ '?' ∧ c ≠ '#' := by
  constructor
  all_goals
    rintro rfl
    exact absurd h (by decide)

theorem ne_of_isSlash {c : Char} (h : isSlash c = true) : c ≠ '?' ∧ c ≠ '#' := by
  constructor
  all_goals
    rintro rfl
    exact absurd h (by decide)

theorem ne_of_endsAuthority {kind : SchemeKind} {c : Char} (h : (!endsAuthority kind c) = true) :
    c ≠ '?' ∧ c ≠ '#' := by
  constructor
  all_goals
    rintro rfl
    exact absurd h (by simp [endsAuthority])

theorem dropWhile_of_scheme? {cs rest : List Char} {scheme : String}
    (h : scheme? cs = some (scheme, rest)) : cs.dropWhile isSchemeChar = ':' :: rest := by
  unfold scheme? at h
  split at h
  · next rest' hrest =>
    split at h
    · cases h
      exact hrest
    · cases h
  · cases h

theorem queryOf_of_scheme? {cs rest : List Char} {scheme : String}
    (h : scheme? cs = some (scheme, rest)) : queryOf rest = queryOf cs := by
  rw [← queryOf_dropWhile (fun c => ne_of_isSchemeChar) cs, dropWhile_of_scheme? h,
    queryOf_cons (by decide)]

theorem query_of_parseAfterSlashes {scheme : String} {kind : SchemeKind} {cs : List Char} {u : Url}
    (h : parseAfterSlashes scheme kind cs = .ok u) : u.query = queryOf cs := by
  have hfront (c : Char) (hc : (!endsAuthority kind c) = true) := ne_of_endsAuthority hc
  rw [← queryOf_dropWhile hfront cs]
  unfold parseAfterSlashes at h
  dsimp only at h
  generalize parseAuthority _ _ _ _ = r at h
  cases r with
  | error e => cases h
  | ok endpoint =>
    cases h
    rfl

theorem parseFile_path {cs : List Char}
    (h : ∀ a b rest, cs = a :: b :: rest → ¬ (isSlash a = true ∧ isSlash b = true)) :
    parseFile cs = .ok ⟨"file", none, none, queryOf cs⟩ := by
  unfold parseFile
  split
  · next a b rest =>
    rw [if_neg]
    exact fun hslashes => h a b rest rfl (Bool.and_eq_true_iff.1 hslashes)
  · rfl

theorem query_of_parseFile {cs : List Char} {u : Url} (h : parseFile cs = .ok u) :
    u.query = queryOf cs := by
  unfold parseFile at h
  split at h
  · next a b rest =>
    split at h
    · next hslashes =>
      obtain ⟨ha, hb⟩ := Bool.and_eq_true_iff.1 hslashes
      rw [queryOf_cons (ne_of_isSlash ha), queryOf_cons (ne_of_isSlash hb)]
      generalize parseFileHost rest = r at h
      cases r with
      | error e => cases h
      | ok host =>
        cases h
        rfl
    · cases h
      rfl
  · cases h
    rfl

/-- **The query of an address is what follows its first question mark.** -/
theorem query_of_parse {s : String} {u : Url} (h : parse s = .ok u) :
    u.query = queryOf (clean s) := by
  unfold parse at h
  split at h
  · cases h
  · next scheme rest hscheme =>
    rw [← queryOf_of_scheme? hscheme]
    split at h
    · exact query_of_parseFile h
    · rw [query_of_parseAfterSlashes h, queryOf_dropWhile fun c => ne_of_isSlash]
    · split at h
      · next rest' =>
        rw [query_of_parseAfterSlashes h, queryOf_cons (by decide), queryOf_cons (by decide)]
      · cases h
        rfl

/-! ## More text after it -/

/-- A text that has a query and no fragment. Whatever is written after it belongs to the query. -/
structure HasQuery (cs : List Char) : Prop where
  mark : '?' ∈ cs
  noFragment : '#' ∉ cs

section More
variable {cs : List Char}

theorem mark_not_mem_takeWhile {p : Char → Bool} (hp : p '?' = false) : '?' ∉ cs.takeWhile p := by
  intro hc
  rw [List.mem_takeWhile_imp hc] at hp
  cases hp

theorem HasQuery.dropWhile (h : HasQuery cs) {p : Char → Bool} (hp : p '?' = false) :
    HasQuery (cs.dropWhile p) := by
  refine ⟨?_, fun hc => h.noFragment ((List.dropWhile_suffix p).subset hc)⟩
  have hmark := h.mark
  rw [← List.takeWhile_append_dropWhile (p := p) (l := cs), List.mem_append] at hmark
  exact hmark.resolve_left (mark_not_mem_takeWhile hp)

/-- A stretch that a question mark ends is the same, whatever follows the text. -/
theorem HasQuery.takeWhile_append (h : HasQuery cs) {p : Char → Bool} (hp : p '?' = false)
    (more : List Char) : (cs ++ more).takeWhile p = cs.takeWhile p := by
  rw [List.takeWhile_append, if_neg]
  intro hlength
  have hall : cs.takeWhile p = cs := (List.takeWhile_prefix p).eq_of_length hlength
  exact mark_not_mem_takeWhile hp (hall.symm ▸ h.mark)

theorem HasQuery.dropWhile_append (h : HasQuery cs) {p : Char → Bool} (hp : p '?' = false)
    (more : List Char) : (cs ++ more).dropWhile p = cs.dropWhile p ++ more := by
  have hne : (cs.dropWhile p).isEmpty = false :=
    List.isEmpty_eq_false_iff.2 (List.ne_nil_of_mem (h.dropWhile hp).mark)
  rw [List.dropWhile_append, hne, if_neg Bool.false_ne_true]

/-- Two characters that start the longer text start the text, unless the query starts it. -/
theorem HasQuery.exists_cons_cons (h : HasQuery cs) {a b : Char} {rest more : List Char}
    (heq : cs ++ more = a :: b :: rest) (ha : a ≠ '?') : ∃ rest', cs = a :: b :: rest' := by
  match cs, h with
  | [], h => exact absurd h.mark List.not_mem_nil
  | [c], h =>
    obtain rfl := List.mem_singleton.1 h.mark
    exact absurd (List.cons.inj heq).1.symm ha
  | c :: d :: rest', h =>
    obtain ⟨hc, htail⟩ := List.cons.inj heq
    obtain ⟨hd, -⟩ := List.cons.inj htail
    exact ⟨rest', by rw [hc, hd]⟩

/-- Such a text is parted by its first question mark. -/
theorem HasQuery.exists_eq (h : HasQuery cs) : ∃ front rest, cs = front ++ '?' :: rest ∧
    (∀ c ∈ front, c ≠ '?' ∧ c ≠ '#') ∧ '#' ∉ rest := by
  obtain ⟨front, rest, rfl, hfront⟩ := List.eq_append_cons_of_mem h.mark
  refine ⟨front, rest, rfl, fun c hc => ⟨?_, ?_⟩, fun hc => ?_⟩
  · rintro rfl
    exact hfront hc
  · rintro rfl
    exact h.noFragment (List.mem_append_left _ hc)
  · exact h.noFragment (List.mem_append_right _ (List.mem_cons_of_mem _ hc))

theorem HasQuery.tail {c : Char} (h : HasQuery (c :: cs)) (hc : c ≠ '?') : HasQuery cs :=
  ⟨(List.mem_cons.1 h.mark).resolve_left hc.symm,
    fun hmem => h.noFragment (List.mem_cons_of_mem c hmem)⟩

/-- The address with more text at the end of its query, if it has one. -/
def longer (u : Url) (more : String) : Url := { u with query := u.query.map (· ++ more) }

theorem query_longer (u : Url) (more : String) :
    (u.longer more).query = u.query.map (· ++ more) := rfl

variable {more : String}

theorem queryOf_append (h : HasQuery cs) (hmore : '#' ∉ more.toList) :
    queryOf (cs ++ more.toList) = (queryOf cs).map (· ++ more) := by
  obtain ⟨front, rest, rfl, hfront, hrest⟩ := h.exists_eq
  have hlonger : '#' ∉ rest ++ more.toList :=
    fun hc => (List.mem_append.1 hc).elim hrest hmore
  rw [List.append_assoc, List.cons_append, queryOf_mark hfront hrest, queryOf_mark hfront hlonger,
    String.ofList_append, String.ofList_toList, Option.map_some]

theorem scheme?_append (h : HasQuery cs) (more : List Char) :
    scheme? (cs ++ more) = (scheme? cs).map fun p => (p.1, p.2 ++ more) := by
  have hhead : (cs ++ more).head? = cs.head? :=
    List.head?_append_of_ne_nil _ (List.ne_nil_of_mem h.mark)
  have hleft := h.dropWhile (p := isSchemeChar) (by decide)
  unfold scheme?
  rw [h.dropWhile_append (by decide), h.takeWhile_append (by decide), hhead]
  obtain ⟨c, rest, hrest⟩ := List.exists_cons_of_ne_nil (List.ne_nil_of_mem hleft.mark)
  rw [hrest, List.cons_append]
  by_cases hc : c = ':'
  · subst hc
    change (if _ then _ else _) = Option.map _ (if _ then _ else _)
    rw [apply_ite (Option.map _)]
    rfl
  · split
    · next heq => exact absurd (List.cons.inj heq).1 hc
    · split
      · next heq => exact absurd (List.cons.inj heq).1 hc
      · rfl

/-- Of the path only its presence counts for the authority. -/
theorem parseAuthority_congr {path path' : List Char} (h : path ≠ []) (h' : path' ≠ [])
    (scheme : String) (kind : SchemeKind) (authority : List Char) :
    parseAuthority scheme kind authority path = parseAuthority scheme kind authority path' := by
  unfold parseAuthority
  simp only [ne_eq, h, h', not_false_eq_true]

theorem parseAfterSlashes_append (h : HasQuery cs) (hmore : '#' ∉ more.toList) (scheme : String)
    (kind : SchemeKind) : parseAfterSlashes scheme kind (cs ++ more.toList) =
      (parseAfterSlashes scheme kind cs).map (longer · more) := by
  have hend : (!endsAuthority kind '?') = false := by simp [endsAuthority]
  have hpath := h.dropWhile (p := fun c => !endsAuthority kind c) hend
  have hne : cs.dropWhile (fun c => !endsAuthority kind c) ≠ [] := List.ne_nil_of_mem hpath.mark
  unfold parseAfterSlashes
  dsimp only
  rw [h.takeWhile_append hend, h.dropWhile_append hend, queryOf_append hpath hmore,
    parseAuthority_congr (List.append_ne_nil_of_left_ne_nil hne _) hne]
  generalize parseAuthority _ _ _ _ = r
  cases r with
  | error e => rfl
  | ok endpoint => rfl

theorem parseFileHost_append (h : HasQuery cs) (more : List Char) :
    parseFileHost (cs ++ more) = parseFileHost cs := by
  unfold parseFileHost
  rw [h.takeWhile_append (by decide)]

theorem parseFile_append (h : HasQuery cs) (hmore : '#' ∉ more.toList) :
    parseFile (cs ++ more.toList) = (parseFile cs).map (longer · more) := by
  by_cases hslashes : ∃ a b rest, cs = a :: b :: rest ∧ isSlash a = true ∧ isSlash b = true
  · obtain ⟨a, b, rest, rfl, ha, hb⟩ := hslashes
    have hrest : HasQuery rest := (h.tail (ne_of_isSlash ha).1).tail (ne_of_isSlash hb).1
    unfold parseFile
    simp only [List.cons_append, ha, hb, Bool.and_self, if_true]
    rw [parseFileHost_append hrest, queryOf_append hrest hmore]
    generalize parseFileHost rest = r
    cases r with
    | error e => rfl
    | ok host => rfl
  · have hpath : parseFile cs = .ok ⟨"file", none, none, queryOf cs⟩ :=
      parseFile_path fun a b rest heq => fun hs => hslashes ⟨a, b, rest, heq, hs⟩
    rw [hpath, parseFile_path, queryOf_append h hmore]
    · rfl
    · intro a b rest heq hs
      obtain ⟨rest', rfl⟩ := h.exists_cons_cons heq (ne_of_isSlash hs.1).1
      exact hslashes ⟨a, b, rest', rfl, hs⟩

/-- **Text at the end of an address with a query is read as a part of the query.** Whether the
address is read, and with which scheme, host and port, is settled before. -/
theorem parse_append {s more : String} (hs : ∀ c ∈ s.toList, 0x20 < c.toNat ∧ c ≠ '#')
    (hmore : ∀ c ∈ more.toList, 0x20 < c.toNat ∧ c ≠ '#') (hmark : '?' ∈ s.toList) :
    parse (s ++ more) = (parse s).map (longer · more) := by
  have hclean : clean s = s.toList := clean_eq fun c hc => (hs c hc).1
  have hlonger : clean (s ++ more) = s.toList ++ more.toList := by
    rw [clean_eq, String.toList_append]
    intro c hc
    rw [String.toList_append, List.mem_append] at hc
    exact hc.elim (fun hc => (hs c hc).1) fun hc => (hmore c hc).1
  have hquery : HasQuery s.toList := ⟨hmark, fun hc => (hs _ hc).2 rfl⟩
  have hfragment : '#' ∉ more.toList := fun hc => (hmore _ hc).2 rfl
  unfold parse
  rw [hclean, hlonger, scheme?_append hquery]
  cases hscheme : scheme? s.toList with
  | none => rfl
  | some p =>
    obtain ⟨scheme, rest⟩ := p
    have hrest : HasQuery rest :=
      (dropWhile_of_scheme? hscheme ▸ hquery.dropWhile (by decide)).tail (by decide)
    dsimp only [Option.map_some]
    split
    · exact parseFile_append hrest hfragment
    · rw [hrest.dropWhile_append (by decide)]
      exact parseAfterSlashes_append (hrest.dropWhile (by decide)) hfragment scheme .special
    · by_cases hslashes : ∃ rest', rest = '/' :: '/' :: rest'
      · obtain ⟨rest', rfl⟩ := hslashes
        exact parseAfterSlashes_append ((hrest.tail (by decide)).tail (by decide)) hfragment _ _
      · split
        · next heq =>
          exact absurd (hrest.exists_cons_cons heq (by decide)) hslashes
        · split
          · exact absurd ⟨_, rfl⟩ hslashes
          · rw [queryOf_append hrest hfragment]
            rfl

end More
end Entitlement.Url
