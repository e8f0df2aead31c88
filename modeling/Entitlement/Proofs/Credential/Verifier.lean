import Entitlement.Proofs.Credential.Query
import Entitlement.Proofs.Time.Stamp
import Mathlib.Data.List.Basic

/-!
# What is signed is accepted

One who knows the secret and the region, and sees nothing but a token, computes its signature anew.

* `SignedRequest` : the address and the parameters of a token (`SignedRequest.ofToken?`);
* `SignedRequest.signature?`, `scope?` : the signature and the scope that they should have;
* `SignedRequest.Accepts` : they are the token's own;
* `TokenSigner.presign_accepted` : **every token that is signed with the secret is accepted.**
-/

namespace Entitlement
open Text Digest

/-! ## A verifier -/

/-- A token, read. -/
structure SignedRequest where
  endpoint : String
  /-- Names and values, in the order of the query. -/
  parameters : List (String × String)

namespace SignedRequest

/-- What stands before the first slash that a question mark follows, and after these two. -/
def cut? : List Char → Option (List Char × List Char)
  | '/' :: '?' :: rest => some ([], rest)
  | c :: rest => (cut? rest).map fun r => (c :: r.1, r.2)
  | [] => none

/-- A name and a value, cut at the first equals sign. -/
def parameter? (part : List UInt8) : Option (String × String) := do
  let name ← Utf8.decodeText? (percentDecode (part.takeWhile (·.toNat ≠ 0x3D)))
  let value ← Utf8.decodeText? (percentDecode ((part.dropWhile (·.toNat ≠ 0x3D)).drop 1))
  return (name, value)

def ofToken? (token : String) : Option SignedRequest := do
  let (endpoint, query) ← cut? token.toList
  let parameters ← (splitBytes 0x26 (Utf8.encode (.ofList query))).mapM parameter?
  return ⟨.ofList endpoint, parameters⟩

/-- The value of a parameter that occurs once. -/
def value? (r : SignedRequest) (name : String) : Option String :=
  match r.parameters.filter (·.1 = name) with
  | [p] => some p.2
  | _ => none

def isKept (c : Char) : Bool := c.isAlphanum || c = '-' || c = '.' || c = '_' || c = '~'

def upperHex (n : Nat) : Char := (Nat.digitChar n).toUpper

def escape (b : UInt8) : List Char := ['%', upperHex (b.toNat / 16), upperHex (b.toNat % 16)]

/-- The canonical form of a name or a value. -/
def canonical (s : String) : String :=
  .ofList (s.toList.flatMap fun c =>
    if isKept c then [c] else (String.utf8EncodeChar c).flatMap escape)

/-- All parameters but the signature, by name. -/
def canonicalQuery (r : SignedRequest) : String :=
  let unsigned := r.parameters.filter (·.1 ≠ "X-Amz-Signature")
  let encoded := unsigned.map fun p => (canonical p.1, canonical p.2)
  "&".intercalate ((encoded.mergeSort (·.1 ≤ ·.1)).map fun p => p.1 ++ "=" ++ p.2)

def canonicalRequest (r : SignedRequest) : String :=
  "GET\n/\n" ++ r.canonicalQuery ++ "\nhost:" ++ r.endpoint ++ "\n\nhost\n" ++ hex (sha256 [])

/-- The day of a date and time. -/
def dayOf (date : String) : String := .ofList (date.toList.take 8)

def scopeOf (date region : String) : String :=
  dayOf date ++ "/" ++ region ++ "/rds-db/aws4_request"

def scope? (r : SignedRequest) (region : String) : Option String :=
  (r.value? "X-Amz-Date").map fun date => scopeOf date region

/-- One step for each part of the scope. -/
def signingKey (secret date region : String) : List UInt8 :=
  let ofDay := hmac (Utf8.encode ("AWS4" ++ secret)) (Utf8.encode (dayOf date))
  let ofRegion := hmac ofDay (Utf8.encode region)
  let ofService := hmac ofRegion (Utf8.encode "rds-db")
  hmac ofService (Utf8.encode "aws4_request")

def signature? (r : SignedRequest) (secret region : String) : Option String := do
  let date ← r.value? "X-Amz-Date"
  let text := "AWS4-HMAC-SHA256\n" ++ date ++ "\n" ++ scopeOf date region ++ "\n" ++
    hex (sha256 (Utf8.encode r.canonicalRequest))
  return hex (hmac (signingKey secret date region) (Utf8.encode text))

/-- The token has the signature that it should have, and the scope that it should have stands after
the id of the one who signed. -/
def Accepts (id secret region token : String) : Prop :=
  ∃ r signature scope, ofToken? token = some r ∧
    r.signature? secret region = some signature ∧ r.value? "X-Amz-Signature" = some signature ∧
    r.scope? region = some scope ∧ r.value? "X-Amz-Credential" = some (id ++ "/" ++ scope)

/-! ## Reading a token -/

theorem cut?_append {cs : List Char} (h : '/' ∉ cs) (rest : List Char) :
    cut? (cs ++ '/' :: '?' :: rest) = some (cs, rest) := by
  induction cs with
  | nil => rfl
  | cons c cs ih =>
    obtain ⟨hc, hcs⟩ := not_or.1 (mt List.mem_cons.2 h)
    rw [List.cons_append, cut?, ih hcs]
    · rfl
    · exact fun _ he _ => hc he.symm

theorem parameter?_partBytes (p : String × String) :
    parameter? (TokenSigner.partBytes p) = some p := by
  have hname : ∀ b ∈ Utf8.encode (percentEncode p.1), b.toNat ≠ 0x3D :=
    fun b hb => (toNat_ne_of_mem_encode hb).2.2
  rw [parameter?, TokenSigner.partBytes, takeWhile_name hname, drop_name hname,
    percentDecode_percentEncode, percentDecode_percentEncode, Utf8.decodeText?_encode,
    Utf8.decodeText?_encode]
  rfl

theorem mapM_parameter? (ps : List (String × String)) :
    (ps.map TokenSigner.partBytes).mapM parameter? = some ps := by
  induction ps with
  | nil => rfl
  | cons p ps ih =>
    rw [List.map_cons, List.mapM_cons, parameter?_partBytes, ih]
    rfl

/-- A token is read as the parameters that it was made of. -/
theorem ofToken?_presign {s : TokenSigner} (h : '/' ∉ s.host.toList) (keys : SigningKeys)
    (now : Moment) :
    ofToken? (s.presign keys now) = some ⟨s.endpoint, s.signed keys now⟩ := by
  have htoken : (s.presign keys now).toList =
      s.endpoint.toList ++ '/' :: '?' :: (TokenSigner.query (s.signed keys now)).toList := by
    rw [TokenSigner.presign_eq, String.toList_append, String.toList_append, List.append_assoc]
    rfl
  have hne : s.signed keys now ≠ [] :=
    List.append_ne_nil_of_right_ne_nil _ (List.cons_ne_nil _ _)
  rw [ofToken?, htoken, cut?_append (TokenSigner.not_mem_endpoint h), Option.bind_eq_bind,
    Option.bind_some]
  dsimp only
  rw [String.ofList_toList, TokenSigner.splitBytes_query hne, mapM_parameter?,
    Option.bind_eq_bind, Option.bind_some, String.ofList_toList]
  rfl

/-! ## The canonical form -/

theorem encodeChar_eq (c : Char) : Utf8.encodeChar c = String.utf8EncodeChar c := by
  have hvalid := Utf8.toNat_lt c
  have hval : c.val.toNat = c.toNat := rfl
  rw [Utf8.encodeChar, String.utf8EncodeChar, hval]
  generalize c.toNat = n at *
  have hlast : 0x80 + n % 0x40 = n % 64 + 128 := Nat.add_comm _ _
  have hthird : 0x80 + n / 0x40 % 0x40 = n / 64 % 64 + 128 := Nat.add_comm _ _
  by_cases h₁ : n < 0x80
  · rw [if_pos h₁, if_pos (by omega : n ≤ 127)]
  · rw [if_neg h₁, if_neg (by omega : ¬ n ≤ 127)]
    by_cases h₂ : n < 0x800
    · have hlead : 0xC0 + n / 0x40 = n / 64 % 32 + 192 := by omega
      rw [if_pos h₂, if_pos (by omega : n ≤ 2047), hlead, hlast]
    · rw [if_neg h₂, if_neg (by omega : ¬ n ≤ 2047)]
      by_cases h₃ : n < 0x10000
      · have hlead : 0xE0 + n / 0x1000 = n / 4096 % 16 + 224 := by omega
        rw [if_pos h₃, if_pos (by omega : n ≤ 65535), hlead, hthird, hlast]
      · have hlead : 0xF0 + n / 0x40000 = n / 262144 % 8 + 240 := by omega
        have hsecond : 0x80 + n / 0x1000 % 0x40 = n / 4096 % 64 + 128 := Nat.add_comm _ _
        rw [if_neg h₃, if_neg (by omega : ¬ n ≤ 65535), hlead, hsecond, hthird, hlast]

theorem isKept_eq : ∀ n < 0x80, isKept (Char.ofNat n) = isUnreserved (.ofNat n) := by decide

theorem upperHex_eq : ∀ n < 16, upperHex n = upperDigit n := by decide

theorem lt_of_isAlphanum {c : Char} (h : c.isAlphanum = true) : c.toNat < 0x80 := by
  have hbelow (last : Char) (hlast : last.toNat < 0x80) (hc : c.val ≤ last.val) :
      c.toNat < 0x80 := Nat.lt_of_le_of_lt (UInt32.le_iff_toNat_le.1 hc) hlast
  rcases Bool.or_eq_true_iff.1 h with hletter | hdigit
  · rcases Bool.or_eq_true_iff.1 hletter with hupper | hlower
    · exact hbelow 'Z' (by decide) (of_decide_eq_true hupper).2
    · exact hbelow 'z' (by decide) (of_decide_eq_true (Bool.and_eq_true_iff.1 hlower).2)
  · exact hbelow '9' (by decide) (of_decide_eq_true (Bool.and_eq_true_iff.1 hdigit).2)

theorem lt_of_isKept {c : Char} (h : isKept c = true) : c.toNat < 0x80 := by
  simp only [isKept, Bool.or_eq_true, decide_eq_true_eq] at h
  rcases h with (((h | rfl) | rfl) | rfl) | rfl
  · exact lt_of_isAlphanum h
  all_goals decide

theorem percentByte_eq {b : UInt8} (h : isUnreserved b = false) : percentByte b = escape b := by
  have hb := b.toNat_lt
  rw [percentByte, h, escape, upperHex_eq _ (by omega), upperHex_eq _ (by omega)]
  rfl

theorem flatMap_percentByte_encodeChar (c : Char) :
    (Utf8.encodeChar c).flatMap percentByte =
      if isKept c then [c] else (String.utf8EncodeChar c).flatMap escape := by
  by_cases hlow : c.toNat < 0x80
  · have hkept : isKept c = isUnreserved (.ofNat c.toNat) := by
      rw [← isKept_eq _ hlow, Char.ofNat_toNat]
    have hchar : Char.ofNat (UInt8.ofNat c.toNat).toNat = c := by
      rw [Utf8.toNat_ofNat_of_lt (by omega), Char.ofNat_toNat]
    rw [← encodeChar_eq, Utf8.encodeChar_of_lt hlow, hkept, List.flatMap_singleton,
      List.flatMap_singleton]
    split
    · next h => rw [percentByte, if_pos h, hchar]
    · next h => exact percentByte_eq (Bool.eq_false_iff.2 h)
  · rw [if_neg (mt lt_of_isKept hlow), ← encodeChar_eq]
    refine List.flatMap_congr fun b hb => percentByte_eq (Bool.eq_false_iff.2 fun h => ?_)
    have := isUnreserved_lt h
    have := Utf8.le_toNat_of_mem_encodeChar (Nat.le_of_not_lt hlow) hb
    omega

/-- The canonical form of a text is its percent coding. -/
theorem canonical_eq (s : String) : canonical s = percentEncode s := by
  rw [canonical, percentEncode, Utf8.encode, List.flatMap_assoc]
  exact congrArg _ (List.flatMap_congr fun c _ => (flatMap_percentByte_encodeChar c).symm)

theorem filter_signed (s : TokenSigner) (keys : SigningKeys) (now : Moment) :
    (s.signed keys now).filter (·.1 ≠ "X-Amz-Signature") = s.parameters keys now := by
  have hne : ∀ session, "X-Amz-Signature" ∉ TokenSigner.parameterNames session := by decide
  rw [TokenSigner.signed, List.filter_append, List.filter_eq_self.2]
  · exact List.append_nil _
  · intro p hp
    exact decide_eq_true fun he => hne _ (he ▸ TokenSigner.fst_mem_parameterNames hp)

/-- The parameters are signed in the order of their names. -/
theorem pairwise_parameters (s : TokenSigner) (keys : SigningKeys) (now : Moment) :
    ((s.parameters keys now).map fun p => (percentEncode p.1, percentEncode p.2)).Pairwise
      fun p q => decide (p.1 ≤ q.1) = true := by
  have hnames := TokenSigner.parameterNames_ascending keys.session.isSome
  rw [← TokenSigner.map_fst_parameters s keys now, List.pairwise_map] at hnames
  refine List.pairwise_map.2 (hnames.imp_of_mem fun hp hq hlt => ?_)
  rw [TokenSigner.percentEncode_parameterName _ _ (TokenSigner.fst_mem_parameterNames hp),
    TokenSigner.percentEncode_parameterName _ _ (TokenSigner.fst_mem_parameterNames hq)]
  exact decide_eq_true (String.not_lt.1 (String.lt_asymm hlt))

/-- The canonical form of a token's parameters is the query that was signed. -/
theorem canonicalQuery_signed (endpoint : String) (s : TokenSigner) (keys : SigningKeys)
    (now : Moment) : canonicalQuery ⟨endpoint, s.signed keys now⟩ =
      TokenSigner.query (s.parameters keys now) := by
  unfold canonicalQuery
  simp only [canonical_eq]
  rw [filter_signed, List.mergeSort_of_pairwise (pairwise_parameters s keys now), List.map_map]
  rfl

/-! ## Values -/

theorem filter_fst_eq {ps : List (String × String)} (h : (ps.map Prod.fst).Nodup)
    {p : String × String} (hp : p ∈ ps) : ps.filter (·.1 = p.1) = [p] := by
  induction ps with
  | nil => cases hp
  | cons q ps ih =>
    obtain ⟨hq, hps⟩ := List.nodup_cons.1 h
    rcases List.mem_cons.1 hp with rfl | hp
    · have hnone : ps.filter (·.1 = p.1) = [] := by
        refine List.filter_eq_nil_iff.2 fun q hqs he => hq ?_
        rw [← of_decide_eq_true he]
        exact List.mem_map_of_mem hqs
      rw [List.filter_cons, if_pos (decide_eq_true rfl), hnone]
    · have hne : ¬ decide (q.1 = p.1) = true := by
        refine fun he => hq ?_
        rw [of_decide_eq_true he]
        exact List.mem_map_of_mem hp
      rw [List.filter_cons, if_neg hne, ih hps hp]

theorem value?_of_mem {r : SignedRequest} (h : (r.parameters.map Prod.fst).Nodup)
    {p : String × String} (hp : p ∈ r.parameters) : r.value? p.1 = some p.2 := by
  rw [value?, filter_fst_eq h hp]

theorem dayOf_stamp {now : Moment} (h : now.HasStamp) : dayOf now.stamp = now.day := by
  rw [dayOf, Moment.take_stamp h, String.ofList_toList]

theorem scopeOf_stamp {now : Moment} (h : now.HasStamp) (s : TokenSigner) :
    scopeOf now.stamp s.region = s.scope now := by
  have hlast : "/rds-db/aws4_request" = "/" ++ TokenSigner.serviceName ++ "/aws4_request" := by
    decide
  rw [scopeOf, dayOf_stamp h, TokenSigner.scope, hlast]
  simp only [String.append_assoc]

theorem signature?_signed {s : TokenSigner} {now : Moment} (h : now.HasStamp) (keys : SigningKeys)
    (hdate : value? ⟨s.endpoint, s.signed keys now⟩ "X-Amz-Date" = some now.stamp) :
    signature? ⟨s.endpoint, s.signed keys now⟩ keys.secret s.region =
      some (s.signature keys.secret now (TokenSigner.query (s.parameters keys now))) := by
  have hkey : signingKey keys.secret now.stamp s.region = s.signingKey keys.secret now := by
    rw [signingKey, dayOf_stamp h]
    rfl
  have hrequest : canonicalRequest ⟨s.endpoint, s.signed keys now⟩ =
      s.canonicalRequest (TokenSigner.query (s.parameters keys now)) := by
    rw [canonicalRequest, canonicalQuery_signed]
    rfl
  rw [signature?, hdate, Option.bind_eq_bind, Option.bind_some, hkey, hrequest, scopeOf_stamp h]
  rfl

end SignedRequest

namespace TokenSigner

/-- **Every token that is signed with the secret is accepted**, whatever the user, the region and
the keys are. A host without a slash cannot end the address early. -/
theorem presign_accepted (s : TokenSigner) (keys : SigningKeys) (now : Moment)
    (hhost : '/' ∉ s.host.toList) (hnow : now.HasStamp) :
    SignedRequest.Accepts keys.id keys.secret s.region (s.presign keys now) := by
  have hnodup : ((s.signed keys now).map Prod.fst).Nodup := by
    rw [map_fst_signed]
    exact nodup_parameterNames _
  have hvalue {p : String × String} (hp : p ∈ s.signed keys now) :
      SignedRequest.value? ⟨s.endpoint, s.signed keys now⟩ p.1 = some p.2 :=
    SignedRequest.value?_of_mem hnodup hp
  have hdate := @hvalue ("X-Amz-Date", now.stamp) (by simp [signed, parameters])
  have hcredential := @hvalue ("X-Amz-Credential", keys.id ++ "/" ++ s.scope now)
    (by simp [signed, parameters])
  have hsignature := @hvalue (signatureName, _) (List.mem_append_right _ List.mem_cons_self)
  have hscope : SignedRequest.scope? ⟨s.endpoint, s.signed keys now⟩ s.region =
      some (s.scope now) := by
    rw [SignedRequest.scope?, hdate, Option.map_some, SignedRequest.scopeOf_stamp hnow]
  exact ⟨_, _, _, SignedRequest.ofToken?_presign hhost keys now,
    SignedRequest.signature?_signed hnow keys hdate, hsignature, hscope, hcredential⟩

/-- A user and a session that would part the query, were they written as they are. -/
theorem presign_accepted_separators :
    '/' ∉ "db.example.internal".toList ∧ (⟨1705314600, 0⟩ : Moment).HasStamp ∧
      SignedRequest.Accepts "AKIDEXAMPLE" "wJalr+/=" "eu-west-2"
        (presign ⟨"db.example.internal", 5432, "app&X-Amz-Signature=0 /?é", "eu-west-2", none⟩
          ⟨"AKIDEXAMPLE", "wJalr+/=", some "tok/en+#%26"⟩ ⟨1705314600, 0⟩) :=
  ⟨by decide, by decide, presign_accepted _ _ _ (by decide) (by decide)⟩

end TokenSigner
end Entitlement
