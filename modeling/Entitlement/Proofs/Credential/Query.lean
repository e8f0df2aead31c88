import Entitlement.Credential.Signer
import Entitlement.Proofs.Text.Percent

/-!
# The query of a token

* `TokenSigner.presign_eq` : a token is an address whose query has the parameters and the signature;
* `TokenSigner.eq_or_isPlain_of_mem_query` : the characters of a query;
* `TokenSigner.splitBytes_query` : the parts of a query; `formDecode_encode` : the sides of a part;
* `TokenSigner.formPairs_query` : **the form that a query is written from is read back from it.**
-/

namespace Entitlement.TokenSigner
open Text Utf8 Digest

/-! ## Writing -/

theorem query_cons (p : String × String) {ps : List (String × String)} (h : ps ≠ []) :
    query (p :: ps) =
      percentEncode p.1 ++ "=" ++ percentEncode p.2 ++ "&" ++ query ps := by
  rw [query, List.map_cons, String.intercalate_cons_of_ne_nil (mt List.map_eq_nil_iff.1 h)]
  rfl

theorem query_concat {ps : List (String × String)} (h : ps ≠ []) (p : String × String) :
    query (ps ++ [p]) =
      query ps ++ "&" ++ (percentEncode p.1 ++ "=" ++ percentEncode p.2) := by
  rw [query, List.map_append, List.map_singleton,
    String.intercalate_append_of_ne_nil (mt List.map_eq_nil_iff.1 h) (List.cons_ne_nil _ _),
    String.intercalate_singleton]
  rfl

theorem eq_or_isPlain_of_mem_query {ps : List (String × String)} {c : Char}
    (h : c ∈ (query ps).toList) : c = '=' ∨ c = '&' ∨ isPlain c = true := by
  have hpart (p : String × String)
      (hc : c ∈ (percentEncode p.1 ++ "=" ++ percentEncode p.2).toList) :
      c = '=' ∨ c = '&' ∨ isPlain c = true := by
    simp only [String.toList_append, List.mem_append] at hc
    rcases hc with (hc | hc) | hc
    · exact .inr (.inr (isPlain_of_mem hc))
    · exact .inl (List.mem_singleton.1 hc)
    · exact .inr (.inr (isPlain_of_mem hc))
  induction ps with
  | nil => cases h
  | cons p ps ih =>
    by_cases hps : ps = []
    · subst hps
      rw [query, List.map_singleton, String.intercalate_singleton] at h
      exact hpart p h
    · rw [query_cons p hps, String.toList_append, String.toList_append, List.mem_append,
        List.mem_append] at h
      rcases h with (h | h) | h
      · exact hpart p h
      · exact .inr (.inl (List.mem_singleton.1 h))
      · exact ih h

/-- Hexadecimal digits stand for themselves. -/
theorem percentEncode_hex (bytes : List UInt8) : percentEncode (hex bytes) = hex bytes := by
  have hdigit : ∀ n < 16,
      (digit n).toNat < 0x80 ∧ isUnreserved (.ofNat (digit n).toNat) = true := by decide
  refine percentEncode_of_unreserved fun c hc => ?_
  rw [hex, String.toList_ofList, List.mem_flatMap] at hc
  obtain ⟨b, -, hb⟩ := hc
  have hlt := b.toNat_lt
  simp only [List.mem_cons, List.not_mem_nil, or_false] at hb
  rcases hb with rfl | rfl
  · exact hdigit _ (by omega)
  · exact hdigit _ (by omega)

/-- A port has no slash. -/
theorem not_mem_endpoint {s : TokenSigner} (h : '/' ∉ s.host.toList) : '/' ∉ s.endpoint.toList := by
  have hslash : isDigit '/' = false := by decide
  rw [endpoint, String.toList_append, String.toList_append, List.mem_append, List.mem_append]
  rintro ((hhost | hcolon) | hport)
  · exact h hhost
  · exact absurd hcolon (by decide)
  · rw [(spells_decimal s.port).digits _ hport] at hslash
    cases hslash

def signatureName : String := "X-Amz-Signature"

/-- The parameters of a token, the signature last. -/
def signed (s : TokenSigner) (keys : SigningKeys) (now : Moment) : List (String × String) :=
  s.parameters keys now ++
    [(signatureName, s.signature keys.secret now (query (s.parameters keys now)))]

/-- **A token is an address and its query.** -/
theorem presign_eq (s : TokenSigner) (keys : SigningKeys) (now : Moment) :
    s.presign keys now = s.endpoint ++ "/?" ++ query (s.signed keys now) := by
  have hne : s.parameters keys now ≠ [] := List.cons_ne_nil _ _
  have hname : percentEncode signatureName = signatureName := by decide +kernel
  have hlast : "&X-Amz-Signature=" = "&" ++ signatureName ++ "=" := by decide
  rw [presign, signed, query_concat hne, hname, signature, percentEncode_hex, hlast]
  simp only [String.append_assoc]

/-! ## Names -/

/-- The names of the parameters that are signed, with or without one of a session. -/
def parameterNames (session : Bool) : List String :=
  ["Action", "DBUser", "X-Amz-Algorithm", "X-Amz-Credential", "X-Amz-Date", "X-Amz-Expires"] ++
    (if session then ["X-Amz-Security-Token"] else []) ++ ["X-Amz-SignedHeaders"]

theorem map_fst_parameters (s : TokenSigner) (keys : SigningKeys) (now : Moment) :
    (s.parameters keys now).map Prod.fst = parameterNames keys.session.isSome := by
  rw [parameters]
  cases keys.session with
  | none => rfl
  | some t => rfl

theorem fst_mem_parameterNames {s : TokenSigner} {keys : SigningKeys} {now : Moment}
    {p : String × String} (h : p ∈ s.parameters keys now) :
    p.1 ∈ parameterNames keys.session.isSome := by
  rw [← map_fst_parameters s keys now]
  exact List.mem_map_of_mem h

theorem map_fst_signed (s : TokenSigner) (keys : SigningKeys) (now : Moment) :
    (s.signed keys now).map Prod.fst = parameterNames keys.session.isSome ++ [signatureName] := by
  rw [signed, List.map_append, map_fst_parameters]
  rfl

theorem parameterNames_ascending : ∀ session, (parameterNames session).Pairwise (· < ·) := by
  decide

theorem nodup_parameterNames : ∀ session, (parameterNames session ++ [signatureName]).Nodup := by
  decide

theorem percentEncode_parameterName : ∀ session, ∀ name ∈ parameterNames session,
    percentEncode name = name := by
  decide +kernel

/-! ## Reading -/

/-- The bytes of a parameter. -/
def partBytes (p : String × String) : List UInt8 :=
  encode (percentEncode p.1) ++ 0x3D :: encode (percentEncode p.2)

theorem encode_part (p : String × String) :
    encode (percentEncode p.1 ++ "=" ++ percentEncode p.2) = partBytes p := by
  have hequals : encode "=" = [0x3D] := by decide
  rw [encode_append, encode_append, hequals, List.append_assoc, List.singleton_append, partBytes]

theorem partBytes_ne_nil (p : String × String) : partBytes p ≠ [] :=
  List.append_ne_nil_of_right_ne_nil _ (List.cons_ne_nil _ _)

theorem toNat_ne_of_mem_partBytes {p : String × String} {b : UInt8} (h : b ∈ partBytes p) :
    b.toNat ≠ 0x26 := by
  rw [partBytes, List.mem_append, List.mem_cons] at h
  rcases h with h | rfl | h
  · exact (toNat_ne_of_mem_encode h).1
  · decide
  · exact (toNat_ne_of_mem_encode h).1

/-- The parts of a query are its parameters. -/
theorem splitBytes_query {ps : List (String × String)} (h : ps ≠ []) :
    splitBytes 0x26 (encode (query ps)) = ps.map partBytes := by
  induction ps with
  | nil => exact (h rfl).elim
  | cons p ps ih =>
    by_cases hps : ps = []
    · subst hps
      rw [query, List.map_singleton, String.intercalate_singleton, encode_part,
        splitBytes_of_forall_ne fun b => toNat_ne_of_mem_partBytes]
      rfl
    · have hsep : encode "&" = [0x26] := by decide
      rw [query_cons p hps, encode_append, encode_append, encode_part, hsep, List.append_assoc,
        List.singleton_append, splitBytes_append (fun b => toNat_ne_of_mem_partBytes) rfl, ih hps,
        List.map_cons]

theorem formDecode_encode (s : String) : formDecode (encode (percentEncode s)) = s := by
  rw [formDecode_eq fun b hb => (toNat_ne_of_mem_encode hb).2.1, percentDecode_percentEncode,
    decodeLossy_encode]

/-- **The parameters that a query is written from are read back from it**, whatever is in them. -/
theorem formPairs_query {ps : List (String × String)} (h : ps ≠ []) :
    formPairs (query ps) = ps := by
  have hkept : (ps.map partBytes).filter (· ≠ []) = ps.map partBytes := by
    refine List.filter_eq_self.2 fun part hpart => ?_
    obtain ⟨p, -, rfl⟩ := List.mem_map.1 hpart
    exact decide_eq_true (partBytes_ne_nil p)
  have hpair (p : String × String) : formPair (partBytes p) = p := by
    rw [partBytes, formPair_append fun b hb => (toNat_ne_of_mem_encode hb).2.2,
      formDecode_encode, formDecode_encode]
  rw [formPairs, splitBytes_query h, hkept, List.map_map]
  exact (List.map_congr_left fun p _ => hpair p).trans (List.map_id _)

end Entitlement.TokenSigner
