import Entitlement.Proofs.Credential.Terms
import Entitlement.Proofs.Text.Percent
import Entitlement.Proofs.Url.Query

/-!
# One more parameter of a token

* `Text.isBare` : the characters that need no coding in a query; `Text.formPairs_append` : a
  parameter of such characters is read after all others;
* `Token.namesScheme_append_iff` : where a token with one more parameter has a scheme;
* `Token.expiry_longer` : when a token with a longer query expires, if its beginning is read;
* `Token.expiry_parameter` : **another parameter changes when a token expires only if it gives a
  scheme to a token that has none**, and that is not read without one
  (`Token.expiry_parameter_scheme`).
-/

namespace Entitlement

namespace Text
open Utf8

/-! ## Parameters -/

/-- A letter, a digit or another character that stands for itself in a query. -/
def isBare (c : Char) : Bool :=
  c.toNat < 0x80 && (isUnreserved (.ofNat c.toNat) || c == ':' || c == '/')

/-- A bare character prints, starts no fragment and separates nothing. -/
theorem of_isBare {c : Char} (h : isBare c = true) : c.toNat < 0x80 ∧ (0x20 < c.toNat ∧ c ≠ '#') ∧
    c.toNat ≠ 0x25 ∧ c.toNat ≠ 0x26 ∧ c.toNat ≠ 0x2B ∧ c.toNat ≠ 0x3D := by
  have hlow : c.toNat < 0x80 := of_decide_eq_true (Bool.and_eq_true_iff.1 h).1
  refine ⟨hlow, Utf8.of_toNat_lt (P := fun c => isBare c = true → (0x20 < c.toNat ∧ c ≠ '#') ∧
    c.toNat ≠ 0x25 ∧ c.toNat ≠ 0x26 ∧ c.toNat ≠ 0x2B ∧ c.toNat ≠ 0x3D) ?_ hlow h⟩
  decide

variable {k v : String}

theorem toNat_ne_of_mem_encode_bare (h : ∀ c ∈ k.toList, isBare c = true) {b : UInt8}
    (hb : b ∈ encode k) : b.toNat ≠ 0x25 ∧ b.toNat ≠ 0x26 ∧ b.toNat ≠ 0x2B ∧ b.toNat ≠ 0x3D := by
  rw [encode, flatMap_encodeChar_of_lt fun c hc => (of_isBare (h c hc)).1, List.mem_map] at hb
  obtain ⟨c, hc, rfl⟩ := hb
  obtain ⟨hlow, -, hne⟩ := of_isBare (h c hc)
  rwa [toNat_ofNat_of_lt (by omega)]

theorem formDecode_bare (h : ∀ c ∈ k.toList, isBare c = true) : formDecode (encode k) = k := by
  have hne {b : UInt8} (hb : b ∈ encode k) := toNat_ne_of_mem_encode_bare h hb
  rw [formDecode_eq fun b hb => (hne hb).2.2.1, percentDecode_of_forall_ne fun b hb => (hne hb).1,
    decodeLossy_encode]

/-- **A parameter at the end of a query is read after all others.** -/
theorem formPairs_append (query : String) (hk : ∀ c ∈ k.toList, isBare c = true)
    (hv : ∀ c ∈ v.toList, isBare c = true) :
    formPairs (query ++ ("&" ++ k ++ "=" ++ v)) = formPairs query ++ [(k, v)] := by
  have hand : encode "&" = [0x26] := by decide
  have hequals : encode "=" = [0x3D] := by decide
  have hbytes : encode (query ++ ("&" ++ k ++ "=" ++ v)) =
      encode query ++ 0x26 :: (encode k ++ 0x3D :: encode v) := by
    simp only [encode_append, hand, hequals, List.append_assoc, List.cons_append, List.nil_append]
  have hone : ∀ b ∈ encode k ++ 0x3D :: encode v, b.toNat ≠ 0x26 := by
    intro b hb
    rcases List.mem_append.1 hb with hb | hb
    · exact (toNat_ne_of_mem_encode_bare hk hb).2.1
    · rcases List.mem_cons.1 hb with rfl | hb
      · decide
      · exact (toNat_ne_of_mem_encode_bare hv hb).2.1
  have hne : encode k ++ 0x3D :: encode v ≠ [] :=
    List.append_ne_nil_of_right_ne_nil _ (List.cons_ne_nil _ _)
  have hkept : [encode k ++ 0x3D :: encode v].filter (· ≠ []) =
      [encode k ++ 0x3D :: encode v] :=
    List.filter_eq_self.2 fun part hpart => decide_eq_true (List.mem_singleton.1 hpart ▸ hne)
  rw [formPairs, formPairs, hbytes, splitBytes_separator _ (by decide),
    splitBytes_of_forall_ne hone, List.filter_append, hkept, List.map_append, List.map_singleton,
    formPair_append fun b hb => (toNat_ne_of_mem_encode_bare hk hb).2.2.2, formDecode_bare hk,
    formDecode_bare hv]

end Text

namespace Token
open Text

/-! ## The scheme -/

/-- What begins a text and has not its separator begins what stands before the separator. -/
theorem prefix_separator_iff {c : Char} {mark : List Char} (hc : c ∉ mark) (xs ys : List Char) :
    mark <+: xs ++ c :: ys ↔ mark <+: xs := by
  refine ⟨fun h => ?_, fun h => h.trans (List.prefix_append _ _)⟩
  rcases List.prefix_or_prefix_of_prefix h (List.prefix_append xs (c :: ys)) with hp | hp
  · exact hp
  · obtain ⟨rest, rfl⟩ := hp
    rw [List.prefix_append_right_inj] at h
    cases rest with
    | nil => rw [List.append_nil]
    | cons d rest =>
      obtain ⟨rfl, -⟩ := List.cons_prefix_cons.1 h
      exact absurd (List.mem_append_right _ List.mem_cons_self) hc

theorem infix_separator_iff {c : Char} {mark : List Char} (hc : c ∉ mark) (xs ys : List Char) :
    mark <:+: xs ++ c :: ys ↔ mark <:+: xs ∨ mark <:+: ys := by
  induction xs with
  | nil =>
    have hp := prefix_separator_iff hc [] ys
    rw [List.nil_append] at hp ⊢
    rw [List.infix_cons_iff, hp, List.infix_nil, List.prefix_nil]
  | cons x xs ih =>
    have hp := prefix_separator_iff hc (x :: xs) ys
    rw [List.cons_append] at hp ⊢
    rw [List.infix_cons_iff, List.infix_cons_iff, hp, ih, or_assoc]

theorem append_parameter (token k v : String) :
    token ++ "&" ++ k ++ "=" ++ v = token ++ ("&" ++ k ++ "=" ++ v) := by
  simp only [String.append_assoc]

/-- The separators of a query are no part of a scheme. -/
theorem namesScheme_append_iff (token k v : String) :
    NamesScheme (token ++ ("&" ++ k ++ "=" ++ v)) ↔
      NamesScheme token ∨ NamesScheme k ∨ NamesScheme v := by
  have htext : (token ++ ("&" ++ k ++ "=" ++ v)).toList =
      token.toList ++ '&' :: (k.toList ++ '=' :: v.toList) := by
    simp
  unfold NamesScheme
  rw [htext, infix_separator_iff (by decide), infix_separator_iff (by decide)]

/-! ## The expiry -/

variable {token k v : String} {e : Moment}

/-- A token that expires has a query with its terms. -/
theorem exists_query_of_expiry (he : expiry token = .ok e) : ∃ u query,
    Url.parse (address token) = .ok u ∧ u.query = some query ∧
      (Terms.ofPairs (formPairs query) >>= fun t => t.expiry) = .ok e := by
  cases hu : Url.parse (address token) with
  | error cause =>
    rw [expiry, url_eq, hu] at he
    cases he
  | ok u =>
    rw [expiry_of_parse hu] at he
    cases hquery : u.query with
    | none =>
      rw [hquery] at he
      have hempty : formPairs ((none : Option String).getD "") = [] := by decide +kernel
      rw [hempty] at he
      cases he
    | some query =>
      rw [hquery] at he
      exact ⟨u, query, rfl, hquery, he⟩

/-- A parameter that is no term changes no term. -/
theorem ofPairs_formPairs_append (query : String) (hk : ∀ c ∈ k.toList, isBare c = true)
    (hv : ∀ c ∈ v.toList, isBare c = true) (hdate : k ≠ dateName) (hlifetime : k ≠ lifetimeName) :
    Terms.ofPairs (formPairs (query ++ ("&" ++ k ++ "=" ++ v))) =
      Terms.ofPairs (formPairs query) := by
  have hadd (t : Terms) : t.add (k, v) = pure t := Terms.add_other hdate hlifetime t
  rw [formPairs_append query hk hv, Terms.ofPairs_concat]
  simp only [hadd, bind_pure]

/-- The scheme that is put in front of a token does not change its query. -/
theorem queryOf_https (token : String) :
    Url.queryOf ("https://" ++ token).toList = Url.queryOf token.toList := by
  have hfront : ∀ c ∈ "https://".toList, c ≠ '?' ∧ c ≠ '#' := Utf8.forall_mem_of_all (by decide)
  unfold Url.queryOf
  rw [String.toList_append, List.dropWhile_append_of_pos fun c hc => decide_eq_true (hfront c hc)]

theorem char_https (htoken : ∀ c ∈ token.toList, 0x20 < c.toNat ∧ c ≠ '#') :
    ∀ c ∈ ("https://" ++ token).toList, 0x20 < c.toNat ∧ c ≠ '#' := by
  have hfront : ∀ c ∈ "https://".toList, 0x20 < c.toNat ∧ c ≠ '#' :=
    Utf8.forall_mem_of_all (by decide)
  intro c hc
  rw [String.toList_append, List.mem_append] at hc
  exact hc.elim (hfront c) (htoken c)

/-- The query of a token is the same with and without a scheme. -/
theorem queryOf_of_parse_address (htoken : ∀ c ∈ token.toList, 0x20 < c.toNat ∧ c ≠ '#') {u : Url}
    (hu : Url.parse (address token) = .ok u) : u.query = Url.queryOf token.toList := by
  rw [Url.query_of_parse hu]
  unfold address
  split
  · rw [Url.clean_eq fun c hc => (htoken c hc).1]
  · rw [Url.clean_eq fun c hc => (char_https htoken c hc).1, queryOf_https]

/-- A token with a longer query, read as the text `s` that its beginning is. -/
theorem expiry_longer {s more query : String} (haddress : address (token ++ more) = s ++ more)
    (hs : ∀ c ∈ s.toList, 0x20 < c.toNat ∧ c ≠ '#')
    (hmore : ∀ c ∈ more.toList, 0x20 < c.toNat ∧ c ≠ '#')
    (hquery : Url.queryOf s.toList = some query) :
    expiry (token ++ more) = match Url.parse s with
      | .ok _ => Terms.ofPairs (formPairs (query ++ more)) >>= fun t => t.expiry
      | .error cause => .error (.credential ("parse token: " ++ cause.message)) := by
  have hparse := Url.parse_append hs hmore (Url.mem_of_queryOf hquery)
  cases hu : Url.parse s with
  | error cause =>
    rw [hu] at hparse
    rw [expiry, url_eq, haddress, hparse]
    rfl
  | ok u =>
    have hlonger : Url.parse (address (token ++ more)) = .ok (u.longer more) := by
      rw [haddress, hparse, hu]
      rfl
    have hsome : (u.longer more).query = some (query ++ more) := by
      rw [Url.query_longer, Url.query_of_parse hu, Url.clean_eq fun c hc => (hs c hc).1, hquery,
        Option.map_some]
    rw [expiry_of_parse hlonger, hsome, Option.getD_some]

/-- **Another parameter changes when a token expires only if it gives a scheme to a token that has
none**, and that is not read without one. Such a token is rejected then. -/
theorem expiry_parameter (htoken : ∀ c ∈ token.toList, 0x20 < c.toNat ∧ c ≠ '#')
    (hk : ∀ c ∈ k.toList, isBare c = true) (hv : ∀ c ∈ v.toList, isBare c = true)
    (hdate : k ≠ dateName) (hlifetime : k ≠ lifetimeName) (he : expiry token = .ok e) :
    (expiry (token ++ "&" ++ k ++ "=" ++ v) = .ok e ↔
      NamesScheme token ∨ (¬ NamesScheme k ∧ ¬ NamesScheme v) ∨ ∃ u, Url.parse token = .ok u) ∧
    ∀ cause, ¬ NamesScheme token → NamesScheme k ∨ NamesScheme v →
      Url.parse token = .error cause →
      expiry (token ++ "&" ++ k ++ "=" ++ v) =
        .error (.credential ("parse token: " ++ cause.message)) := by
  have hmore : ∀ c ∈ ("&" ++ k ++ "=" ++ v).toList, 0x20 < c.toNat ∧ c ≠ '#' := by
    intro c hc
    simp only [String.toList_append, List.mem_append] at hc
    rcases hc with ((hc | hc) | hc) | hc
    · rw [List.mem_singleton.1 hc]
      decide
    · exact (of_isBare (hk c hc)).2.1
    · rw [List.mem_singleton.1 hc]
      decide
    · exact (of_isBare (hv c hc)).2.1
  obtain ⟨u, query, hu, hquery, hterms⟩ := exists_query_of_expiry he
  rw [queryOf_of_parse_address htoken hu] at hquery
  have hterms' := ofPairs_formPairs_append query hk hv hdate hlifetime ▸ hterms
  have hnames := namesScheme_append_iff token k v
  rw [append_parameter]
  -- Both tokens are read with the same beginning, unless the parameter brings the scheme.
  by_cases hscheme : NamesScheme token
  · have haddress : address (token ++ ("&" ++ k ++ "=" ++ v)) = token ++ ("&" ++ k ++ "=" ++ v) :=
      if_pos (hnames.2 (.inl hscheme))
    rw [address, if_pos hscheme] at hu
    refine ⟨iff_of_true ?_ (.inl hscheme), fun cause hnone => absurd hscheme hnone⟩
    rw [expiry_longer haddress htoken hmore hquery, hu]
    exact hterms'
  · by_cases hadded : NamesScheme k ∨ NamesScheme v
    · -- The token was read with a scheme in front, and is now read as it stands.
      have haddress : address (token ++ ("&" ++ k ++ "=" ++ v)) =
          token ++ ("&" ++ k ++ "=" ++ v) := if_pos (hnames.2 (.inr hadded))
      rw [expiry_longer haddress htoken hmore hquery, or_iff_right hscheme,
        or_iff_right fun h => hadded.elim h.1 h.2]
      cases Url.parse token with
      | error cause => simp
      | ok u => simp [hterms']
    · have haddress : address (token ++ ("&" ++ k ++ "=" ++ v)) =
          "https://" ++ token ++ ("&" ++ k ++ "=" ++ v) := by
        rw [address, if_neg (mt hnames.1 (not_or.2 ⟨hscheme, hadded⟩))]
        exact String.append_assoc.symm
      rw [address, if_neg hscheme] at hu
      refine ⟨iff_of_true ?_ (.inr (.inl (not_or.1 hadded))), fun cause _ h => absurd h hadded⟩
      rw [expiry_longer haddress (char_https htoken) hmore ((queryOf_https token).trans hquery), hu]
      exact hterms'

/-- A token of a host that is not mistaken for a scheme. -/
def plainToken : String := "[::1]:5432/?X-Amz-Date=20240115T103000Z&X-Amz-Expires=900"

theorem char_plainToken : ∀ c ∈ plainToken.toList, 0x20 < c.toNat ∧ c ≠ '#' :=
  Utf8.forall_mem_of_all (by decide +kernel)

/-- Each step of the reading is tried by itself. -/
theorem expiry_plainToken : expiry plainToken = .ok ⟨1705315500, 0⟩ := by
  have hscheme : ¬ NamesScheme plainToken := by decide +kernel
  have hparse : Url.parse ("https://" ++ plainToken) = .ok ⟨"https",
      some (.ipv6 [0, 0, 0, 0, 0, 0, 0, 1]), some 5432,
      some "X-Amz-Date=20240115T103000Z&X-Amz-Expires=900"⟩ := by decide +kernel
  have hpairs : formPairs "X-Amz-Date=20240115T103000Z&X-Amz-Expires=900" =
      [(dateName, "20240115T103000Z"), (lifetimeName, "900")] := by decide +kernel
  have hu : Url.parse (address plainToken) = _ := (congrArg Url.parse (if_neg hscheme)).trans hparse
  rw [expiry_of_parse hu, Option.getD_some, hpairs]
  decide +kernel

theorem expiry_parameter_kept :
    (∀ c ∈ plainToken.toList, 0x20 < c.toNat ∧ c ≠ '#') ∧
      (∀ c ∈ "u".toList, isBare c = true) ∧ (∀ c ∈ "a:/b".toList, isBare c = true) ∧
      "u" ≠ dateName ∧ "u" ≠ lifetimeName ∧ expiry plainToken = .ok ⟨1705315500, 0⟩ ∧
      expiry (plainToken ++ "&" ++ "u" ++ "=" ++ "a:/b") = .ok ⟨1705315500, 0⟩ := by
  have hk : ∀ c ∈ "u".toList, isBare c = true := List.all_eq_true.1 (by decide)
  have hv : ∀ c ∈ "a:/b".toList, isBare c = true := List.all_eq_true.1 (by decide)
  refine ⟨char_plainToken, hk, hv, by decide, by decide, expiry_plainToken, ?_⟩
  exact (expiry_parameter char_plainToken hk hv (by decide) (by decide) expiry_plainToken).1.2
    (.inr (.inl ⟨by decide, by decide⟩))

/-- With one slash more the value is taken for a scheme, and the host is left without one. -/
theorem expiry_parameter_scheme :
    (∀ c ∈ plainToken.toList, 0x20 < c.toNat ∧ c ≠ '#') ∧ '?' ∈ plainToken.toList ∧
      (∀ c ∈ "u".toList, isBare c = true) ∧ (∀ c ∈ "a://b".toList, isBare c = true) ∧
      "u" ≠ dateName ∧ "u" ≠ lifetimeName ∧ expiry plainToken = .ok ⟨1705315500, 0⟩ ∧
      expiry (plainToken ++ "&" ++ "u" ++ "=" ++ "a://b") =
        .error (.credential "parse token: relative URL without a base") := by
  have hadded : NamesScheme (plainToken ++ ("&" ++ "u" ++ "=" ++ "a://b")) :=
    (namesScheme_append_iff _ _ _).2 (.inr (.inr (by decide)))
  have hmore : ∀ c ∈ ("&" ++ "u" ++ "=" ++ "a://b").toList, 0x20 < c.toNat ∧ c ≠ '#' :=
    Utf8.forall_mem_of_all (by decide)
  have hquery : Url.queryOf plainToken.toList =
      some "X-Amz-Date=20240115T103000Z&X-Amz-Expires=900" := by decide +kernel
  have hparse : Url.parse plainToken = .error .noScheme := by decide +kernel
  refine ⟨char_plainToken, Url.mem_of_queryOf hquery, List.all_eq_true.1 (by decide),
    List.all_eq_true.1 (by decide), by decide, by decide, expiry_plainToken, ?_⟩
  rw [append_parameter, expiry_longer (if_pos hadded) char_plainToken hmore hquery, hparse]
  rfl

end Token
end Entitlement
