import Entitlement.Proofs.Credential.Query
import Entitlement.Proofs.Credential.Terms
import Entitlement.Proofs.Url.Parse

/-!
# When a signed token expires

* `Token.url_presign` : a token without a scheme is the address of its host;
* `Token.ofPairs_signed` : the date and the lifetime are those that were signed;
* `TokenSigner.expiry_presign` : **a token expires a quarter of an hour after its second.**
-/

namespace Entitlement

namespace Token
open Text

/-! ## The address -/

theorem namesScheme_cons {cs : List Char} (h : ¬ ['/', '/'] <+: cs) (c : Char) :
    namesScheme (c :: cs) = namesScheme cs := by
  rw [namesScheme]
  rintro rest - rfl
  exact h ⟨rest, rfl⟩

theorem namesScheme_of_not_mem {cs : List Char} (h : '/' ∉ cs) : namesScheme cs = false := by
  induction cs with
  | nil => rfl
  | cons c cs ih =>
    have hcs : '/' ∉ cs := fun hc => h (List.mem_cons_of_mem c hc)
    have hslashes : ¬ ['/', '/'] <+: cs := fun hp => hcs (hp.subset List.mem_cons_self)
    rw [namesScheme_cons hslashes, ih hcs]

/-- A slash with a question mark after it follows no scheme. -/
theorem namesScheme_append {cs rest : List Char} (hcs : '/' ∉ cs) (hrest : '/' ∉ rest) :
    namesScheme (cs ++ '/' :: '?' :: rest) = false := by
  induction cs with
  | nil =>
    rw [List.nil_append, namesScheme_cons (by simp), namesScheme_cons, namesScheme_of_not_mem hrest]
    exact fun hp => hrest (hp.subset List.mem_cons_self)
  | cons c cs ih =>
    have hcs : '/' ∉ cs := fun hc => hcs (List.mem_cons_of_mem c hc)
    rw [List.cons_append, namesScheme_cons, ih hcs]
    intro hp
    cases cs with
    | nil => simp at hp
    | cons d cs => exact hcs ((List.cons_prefix_cons.1 hp).1 ▸ List.mem_cons_self)

/-- A token without a scheme is the address of its host. -/
theorem url_presign {s : TokenSigner} (hhost : Host.IsName s.host) (hport : s.port ≤ 65535)
    (keys : SigningKeys) (now : Moment) :
    url (s.presign keys now) = .ok ⟨"https", some (.name s.host),
      if s.port = 443 then none else some s.port,
      some (TokenSigner.query (s.signed keys now))⟩ := by
  have hquery : ∀ c ∈ (TokenSigner.query (s.signed keys now)).toList,
      0x20 < c.toNat ∧ c ≠ '#' ∧ c ≠ '/' := by
    intro c hc
    rcases TokenSigner.eq_or_isPlain_of_mem_query hc with rfl | rfl | hplain
    · decide
    · decide
    · exact Utf8.of_toNat_lt (P := fun c => isPlain c = true → 0x20 < c.toNat ∧ c ≠ '#' ∧ c ≠ '/')
        (by decide) (isPlain_iff.1 hplain).1 hplain
  have hslash : '/' ∉ s.host.toList := fun hc => by cases (hhost.isUnreserved hc).2
  have hscheme : namesScheme (s.presign keys now).toList = false := by
    rw [TokenSigner.presign_eq, String.toList_append, String.toList_append, List.append_assoc]
    exact namesScheme_append (TokenSigner.not_mem_endpoint hslash) fun hc => (hquery _ hc).2.2 rfl
  unfold url
  rw [hscheme, if_neg Bool.false_ne_true, TokenSigner.presign_eq, TokenSigner.endpoint]
  dsimp only
  rw [Url.parse_https hhost hport fun c hc => ⟨(hquery c hc).1, (hquery c hc).2.1⟩]

/-! ## The terms -/

theorem foldlM_add_other {ps : List (String × String)}
    (h : ∀ p ∈ ps, p.1 ≠ dateName ∧ p.1 ≠ lifetimeName) (t : Terms) :
    ps.foldlM Terms.add t = .ok t := by
  induction ps with
  | nil => rfl
  | cons p ps ih =>
    obtain ⟨hdate, hlifetime⟩ := h p List.mem_cons_self
    rw [List.foldlM_cons, Terms.add_other hdate hlifetime]
    exact ih fun q hq => h q (List.mem_cons_of_mem p hq)

theorem date_stamp {now : Moment} (hnow : now.HasStamp) (hnanos : now.nanos < 1000000000) :
    date now.stamp = .ok ⟨now.seconds, 0⟩ := by
  rw [date, Moment.ofStamp?_stamp hnow hnanos, Option.some_or]

theorem lifetime_decimal {n : Nat} (h₀ : 0 < n) (h : n ≤ longest) :
    lifetime (decimal n) = .ok n := by
  rw [lifetime, (spells_decimal n).integer?_eq]
  dsimp only
  rw [if_pos ⟨by omega, h⟩, Int.toNat_natCast]

theorem add_date {now : Moment} (hnow : now.HasStamp) (hnanos : now.nanos < 1000000000)
    (t : Terms) : t.add (dateName, now.stamp) = .ok { t with issued := some ⟨now.seconds, 0⟩ } := by
  rw [Terms.add, if_pos rfl, date_stamp hnow hnanos]
  rfl

theorem add_lifetime {n : Nat} (h₀ : 0 < n) (h : n ≤ longest) (t : Terms) :
    t.add (lifetimeName, decimal n) = .ok { t with lifetime := some n } := by
  have hne : lifetimeName ≠ dateName := by decide
  rw [Terms.add, if_neg hne, if_pos rfl, lifetime_decimal h₀ h]
  rfl

/-- The date and the lifetime, and around them parameters of other names. -/
theorem exists_signed_eq (s : TokenSigner) (keys : SigningKeys) (now : Moment) : ∃ before after,
    s.signed keys now = before ++ (dateName, now.stamp) ::
      (lifetimeName, decimal TokenSigner.lifetime) :: after ∧
    ∀ p ∈ before ++ after, p.1 ≠ dateName ∧ p.1 ≠ lifetimeName := by
  have hnames : ∀ session,
      ∀ name ∈ (TokenSigner.parameterNames session ++ [TokenSigner.signatureName]).take 4 ++
        (TokenSigner.parameterNames session ++ [TokenSigner.signatureName]).drop 6,
      name ≠ dateName ∧ name ≠ lifetimeName := by decide
  refine ⟨(s.signed keys now).take 4, (s.signed keys now).drop 6, rfl, fun p hp => ?_⟩
  refine hnames keys.session.isSome p.1 ?_
  rw [← TokenSigner.map_fst_signed s keys now, ← List.map_take, ← List.map_drop, ← List.map_append]
  exact List.mem_map_of_mem hp

/-- The date and the lifetime are those of the signer, whatever the other parameters are. -/
theorem ofPairs_signed (s : TokenSigner) (keys : SigningKeys) {now : Moment} (hnow : now.HasStamp)
    (hnanos : now.nanos < 1000000000) :
    Terms.ofPairs (s.signed keys now) = .ok ⟨some ⟨now.seconds, 0⟩, some TokenSigner.lifetime⟩ := by
  obtain ⟨before, after, hsigned, hother⟩ := exists_signed_eq s keys now
  have hbefore := foldlM_add_other fun p hp => hother p (List.mem_append_left _ hp)
  have hafter := foldlM_add_other fun p hp => hother p (List.mem_append_right _ hp)
  have hdate := add_date hnow hnanos
  have hlifetime := add_lifetime (by decide : 0 < TokenSigner.lifetime) (by decide)
  rw [Terms.ofPairs, hsigned, List.foldlM_append, hbefore]
  simp only [bind, Except.bind, List.foldlM_cons, hdate, hlifetime, hafter]

end Token

namespace TokenSigner

/-- **A token expires a quarter of an hour after the second that it was signed in**, whatever the
user, the region and the keys are. -/
theorem expiry_presign (s : TokenSigner) (keys : SigningKeys) (now : Moment)
    (hhost : Host.IsName s.host) (hport : s.port ≤ 65535) (hnow : now.HasStamp)
    (hnanos : now.nanos < 1000000000) :
    Token.expiry (s.presign keys now) = .ok ⟨now.seconds + 900, 0⟩ := by
  have hne : s.signed keys now ≠ [] :=
    List.append_ne_nil_of_right_ne_nil _ (List.cons_ne_nil _ _)
  have hlater : Moment.addSeconds? ⟨now.seconds, 0⟩ lifetime = some ⟨now.seconds + 900, 0⟩ :=
    Moment.addSeconds?_eq (m := ⟨now.seconds, 0⟩) hnow (by decide : 0 < 1000000000) (by decide)
  simp only [Token.expiry, Token.url_presign hhost hport, bind, Except.bind, Option.getD_some,
    formPairs_query hne, Token.ofPairs_signed s keys hnow hnanos, Token.Terms.expiry, hlater]

/-- The last second of the year 9999, and a user and a session with other terms. -/
theorem expiry_presign_last :
    Host.IsName "db-1.example.internal" ∧ 5432 ≤ 65535 ∧
      (⟨253402300799, 999999999⟩ : Moment).HasStamp ∧ 999999999 < 1000000000 ∧
      Token.expiry (presign ⟨"db-1.example.internal", 5432, "app&X-Amz-Expires=1#é://", "eu-west-2",
        none⟩ ⟨"AKIDEXAMPLE", "secret", some "&X-Amz-Date=+%"⟩ ⟨253402300799, 999999999⟩) =
        .ok ⟨253402301699, 0⟩ := by
  have hname : Host.IsName "db-1.example.internal" :=
    ⟨by decide, 'i', "nternal".toList, by decide, by decide⟩
  exact ⟨hname, by decide, by decide, by decide,
    expiry_presign _ _ _ hname (by decide) (by decide) (by decide)⟩

end TokenSigner
end Entitlement
