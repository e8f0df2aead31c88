import Entitlement.Proofs.Url.Name
import Entitlement.Url.Parse
import Mathlib.Data.List.TakeWhile

/-!
# Addresses of named hosts

* `Url.clean_eq`, `parseAfterSlashes_eq`, `parseAuthority_eq` : each step of the reading;
* `Url.parse_https` : **an address is read as the host, the port and the query that it is made of.**
-/

namespace Entitlement.Url
open Text

/-! ## Steps -/

theorem dropWhile_of_forall {p : Char → Bool} {cs : List Char} (h : ∀ c ∈ cs, p c = false) :
    cs.dropWhile p = cs := by
  cases cs with
  | nil => rfl
  | cons c cs =>
    exact List.dropWhile_cons_of_neg (Bool.eq_false_iff.1 (h c List.mem_cons_self))

/-- A text that prints is clean. -/
theorem clean_eq {s : String} (h : ∀ c ∈ s.toList, 0x20 < c.toNat) : clean s = s.toList := by
  have houter : ∀ c ∈ s.toList, decide (c.toNat ≤ 0x20) = false :=
    fun c hc => decide_eq_false (Nat.not_le.2 (h c hc))
  have hback : ∀ c ∈ s.toList.reverse, decide (c.toNat ≤ 0x20) = false :=
    fun c hc => houter c (List.mem_reverse.1 hc)
  have hkept : ∀ c ∈ s.toList, decide (c ≠ '\t' ∧ c ≠ '\n' ∧ c ≠ '\r') = true := by
    intro c hc
    refine decide_eq_true ⟨?_, ?_, ?_⟩
    all_goals
      rintro rfl
      exact absurd (h _ hc) (by decide)
  unfold clean
  dsimp only
  rw [dropWhile_of_forall houter, dropWhile_of_forall hback, List.reverse_reverse,
    List.filter_eq_self.2 hkept]

theorem splitUser_eq {cs : List Char} (h : '@' ∉ cs) : splitUser cs = (none, cs) := by
  have hnone : cs.reverse.dropWhile (· ≠ '@') = [] := by
    refine List.dropWhile_eq_nil_iff.2 fun c hc => decide_eq_true ?_
    rintro rfl
    exact h (List.mem_reverse.1 hc)
  unfold splitUser
  dsimp only
  rw [hnone]

theorem splitHost_append {cs : List Char} (h : ∀ c ∈ cs, c ≠ ':' ∧ c ≠ '[') (rest : List Char) :
    splitHost false (cs ++ ':' :: rest) = (cs, ':' :: rest) := by
  induction cs with
  | nil => rfl
  | cons c cs ih =>
    obtain ⟨hcolon, hbracket⟩ := h c List.mem_cons_self
    rw [List.cons_append, splitHost, if_neg fun he => hcolon he.1, if_neg hbracket, ite_self]
    dsimp only
    rw [ih fun d hd => h d (List.mem_cons_of_mem c hd)]

theorem parsePort_eq {digits : List Char} {port : Nat} (h : Spells digits port)
    (hport : port ≤ 65535) (scheme : String) :
    parsePort scheme (':' :: digits) =
      .ok (if defaultPort? scheme = some port then none else some port) := by
  have htaken : digits.takeWhile isDigit = digits := List.takeWhile_eq_self_iff.2 h.digits
  have hleft : digits.dropWhile isDigit = [] := List.dropWhile_eq_nil_iff.2 h.digits
  have hsome : digits.isEmpty = false := List.isEmpty_eq_false_iff.2 h.notEmpty
  rw [parsePort, hleft]
  dsimp only
  rw [htaken, h.value, if_neg (Nat.not_lt.2 hport), hsome]
  simp only [Bool.false_eq_true, false_or]

/-- The query starts after the first question mark, and goes to the end. -/
theorem queryOf_mark {front rest : List Char} (hfront : ∀ c ∈ front, c ≠ '?' ∧ c ≠ '#')
    (hrest : '#' ∉ rest) : queryOf (front ++ '?' :: rest) = some (String.ofList rest) := by
  have hall : rest.takeWhile (· ≠ '#') = rest := by
    refine List.takeWhile_eq_self_iff.2 fun c hc => decide_eq_true ?_
    rintro rfl
    exact hrest hc
  unfold queryOf
  rw [List.dropWhile_append_of_pos fun c hc => decide_eq_true (hfront c hc),
    List.dropWhile_cons_of_neg (by decide)]
  change some (String.ofList (rest.takeWhile (· ≠ '#'))) = some (String.ofList rest)
  rw [hall]

theorem queryOf_eq {query : String} (h : '#' ∉ query.toList) :
    queryOf ('/' :: '?' :: query.toList) = some query := by
  have hfront : ∀ c ∈ ['/'], c ≠ '?' ∧ c ≠ '#' := Utf8.forall_mem_of_all (by decide)
  have hmark := queryOf_mark hfront h
  rwa [String.ofList_toList] at hmark

/-! ## Addresses -/

/-- The characters of a host and a port. -/
theorem endpoint_char {host : String} (h : Host.IsName host) {digits : List Char}
    (hdigits : ∀ c ∈ digits, isDigit c = true) {c : Char} (hc : c ∈ host.toList ++ ':' :: digits) :
    0x20 < c.toNat ∧ endsAuthority .special c = false ∧ isSlash c = false ∧ c ≠ '@' := by
  have hplain (c : Char) : c.toNat < 0x80 →
      isUnreserved (.ofNat c.toNat) = true ∨ c = ':' ∨ isDigit c = true →
      0x20 < c.toNat ∧ endsAuthority .special c = false ∧ isSlash c = false ∧ c ≠ '@' :=
    Utf8.of_toNat_lt (P := fun c =>
      isUnreserved (.ofNat c.toNat) = true ∨ c = ':' ∨ isDigit c = true →
        0x20 < c.toNat ∧ endsAuthority .special c = false ∧ isSlash c = false ∧ c ≠ '@') (by decide)
  rcases List.mem_append.1 hc with hc | hc
  · obtain ⟨hlow, hkept⟩ := h.isUnreserved hc
    exact hplain c hlow (.inl hkept)
  · rcases List.mem_cons.1 hc with rfl | hc
    · exact hplain _ (by decide) (.inr (.inl rfl))
    · have hrange := isDigit_iff.1 (hdigits c hc)
      exact hplain c (by omega) (.inr (.inr (hdigits c hc)))

theorem parseAuthority_eq {host : String} (h : Host.IsName host) {digits : List Char} {port : Nat}
    (hdigits : Spells digits port) (hport : port ≤ 65535) (scheme : String) (path : List Char) :
    parseAuthority scheme .special (host.toList ++ ':' :: digits) path = .ok (some (.name host),
      if defaultPort? scheme = some port then none else some port) := by
  have huser : '@' ∉ host.toList ++ ':' :: digits :=
    fun hc => (endpoint_char h hdigits.digits hc).2.2.2 rfl
  have hhost : ∀ c ∈ host.toList, c ≠ ':' ∧ c ≠ '[' := by
    intro c hc
    have hkept := (h.isUnreserved hc).2
    constructor
    all_goals
      rintro rfl
      cases hkept
  unfold parseAuthority
  rw [splitUser_eq huser]
  dsimp only
  rw [splitHost_append hhost, Host.ofDomain_name h, parsePort_eq hdigits hport]
  simp [h.ne_nil]
  rfl

theorem scheme?_https (rest : List Char) :
    scheme? ("https".toList ++ ':' :: rest) = some ("https", rest) := by
  have hall : ∀ c ∈ "https".toList, isSchemeChar c = true :=
    List.all_eq_true.1 (by decide : "https".toList.all isSchemeChar = true)
  have hlower : String.ofList (("https".toList ++ []).map Char.toLower) = "https" := by decide
  rw [scheme?, List.dropWhile_append_of_pos hall, List.takeWhile_append_of_pos hall,
    List.dropWhile_cons_of_neg (by decide), List.takeWhile_cons_of_neg (by decide), hlower]
  exact if_pos rfl

/-- Slashes before a host do not count. -/
theorem dropWhile_slashes {cs : List Char} (hne : cs ≠ []) (h : ∀ c ∈ cs, isSlash c = false)
    (rest : List Char) : ('/' :: '/' :: (cs ++ rest)).dropWhile isSlash = cs ++ rest := by
  obtain ⟨c, cs, rfl⟩ := List.exists_cons_of_ne_nil hne
  rw [List.dropWhile_cons_of_pos (by decide), List.dropWhile_cons_of_pos (by decide)]
  exact List.dropWhile_cons_of_neg (Bool.eq_false_iff.1 (h c List.mem_cons_self))

theorem parseAfterSlashes_eq {host : String} (h : Host.IsName host) {digits : List Char}
    {port : Nat} (hdigits : Spells digits port) (hport : port ≤ 65535) (scheme : String)
    {query : String} (hquery : '#' ∉ query.toList) :
    parseAfterSlashes scheme .special
        ((host.toList ++ ':' :: digits) ++ '/' :: '?' :: query.toList) =
      .ok ⟨scheme, some (.name host), if defaultPort? scheme = some port then none else some port,
        some query⟩ := by
  have hauthority : ∀ c ∈ host.toList ++ ':' :: digits, (!endsAuthority .special c) = true :=
    fun c hc => by rw [(endpoint_char h hdigits.digits hc).2.1]; rfl
  rw [parseAfterSlashes, List.takeWhile_append_of_pos hauthority,
    List.dropWhile_append_of_pos hauthority, List.takeWhile_cons_of_neg (by decide),
    List.dropWhile_cons_of_neg (by decide), List.append_nil, parseAuthority_eq h hdigits hport,
    queryOf_eq hquery]
  rfl

theorem toList_address (host query : String) (port : Nat) :
    ("https://" ++ (host ++ ":" ++ decimal port ++ "/?" ++ query)).toList =
      "https".toList ++ ':' :: '/' :: '/' ::
        ((host.toList ++ ':' :: (decimal port).toList) ++ '/' :: '?' :: query.toList) := by
  simp

/-- An address prints. -/
theorem address_char {host : String} (h : Host.IsName host) (port : Nat) {query : String}
    (hquery : ∀ c ∈ query.toList, 0x20 < c.toNat) {c : Char}
    (hc : c ∈ ("https://" ++ (host ++ ":" ++ decimal port ++ "/?" ++ query)).toList) :
    0x20 < c.toNat := by
  have hfixed : "https".toList.all (0x20 < ·.toNat) = true := by decide
  rw [toList_address, List.mem_append, List.mem_cons, List.mem_cons, List.mem_cons,
    List.mem_append, List.mem_cons, List.mem_cons] at hc
  rcases hc with hc | rfl | rfl | rfl | hc | rfl | rfl | hc
  · exact of_decide_eq_true (List.all_eq_true.1 hfixed c hc)
  · decide
  · decide
  · decide
  · exact (endpoint_char h (spells_decimal port).digits hc).1
  · decide
  · decide
  · exact hquery c hc

/-- **An address is read as the host, the port and the query that it is made of.** -/
theorem parse_https {host : String} (h : Host.IsName host) {port : Nat} (hport : port ≤ 65535)
    {query : String} (hquery : ∀ c ∈ query.toList, 0x20 < c.toNat ∧ c ≠ '#') :
    parse ("https://" ++ (host ++ ":" ++ decimal port ++ "/?" ++ query)) =
      .ok ⟨"https", some (.name host), if port = 443 then none else some port, some query⟩ := by
  have hdigits := spells_decimal port
  have hslash : ∀ c ∈ host.toList ++ ':' :: (decimal port).toList, isSlash c = false :=
    fun c hc => (endpoint_char h hdigits.digits hc).2.2.1
  have hfragment : '#' ∉ query.toList := fun hc => (hquery _ hc).2 rfl
  have hkind : kindOf "https" = .special := by decide
  have hdefault : defaultPort? "https" = some port ↔ port = 443 := by
    have h443 : defaultPort? "https" = some 443 := by decide
    rw [h443, Option.some.injEq, eq_comm]
  rw [parse, clean_eq fun c => address_char h port fun c hc => (hquery c hc).1, toList_address,
    scheme?_https]
  dsimp only
  rw [hkind]
  dsimp only
  rw [dropWhile_slashes (List.append_ne_nil_of_left_ne_nil h.ne_nil _) hslash,
    parseAfterSlashes_eq h hdigits hport _ hfragment]
  simp only [hdefault]

end Entitlement.Url
