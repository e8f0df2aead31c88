import Entitlement.Credential.Token
import Entitlement.Proofs.Fold
import Entitlement.Proofs.Time.Stamp
import Mathlib.Data.List.Infix

/-!
# What a token says about itself

* `Token.NamesScheme`, `Token.address` : what a token is read as, with `Token.url_eq`;
* `Token.Dates`, `Token.Lasts` : the moment and the seconds that a value stands for;
  `Token.Malformed` : a parameter that stands for neither;
* `Token.Terms.ofPairs_eq_error_iff`, `ofPairs_eq` : the first malformed parameter is the one
  that is rejected, and without one the last date and the last lifetime count (`Token.last?`);
* `Token.expiry_terms` : **a token expires its lifetime after its date, or is rejected with the
  first fault.**
-/

namespace Entitlement.Token
open Text

/-! ## The address -/

theorem namesScheme_iff {cs : List Char} : namesScheme cs = true ↔ "://".toList <:+: cs := by
  induction cs with
  | nil => exact ⟨nofun, fun h => absurd (List.infix_nil.1 h) (by decide)⟩
  | cons c cs ih =>
    rw [List.infix_cons_iff, ← ih]
    by_cases hp : "://".toList <+: c :: cs
    · obtain ⟨rest, hrest⟩ := hp
      rw [← hrest]
      exact ⟨fun _ => .inl (List.prefix_append _ _), fun _ => rfl⟩
    · rw [or_iff_right hp, namesScheme]
      intro rest hc hcs
      exact hp ⟨rest, by rw [hc, hcs]; rfl⟩

/-- A text with a colon before two slashes somewhere. -/
def NamesScheme (text : String) : Prop := "://".toList <:+: text.toList

instance (text : String) : Decidable (NamesScheme text) :=
  inferInstanceAs (Decidable (_ <:+: _))

/-- A token without a scheme is the address of a web page. -/
def address (token : String) : String :=
  if NamesScheme token then token else "https://" ++ token

theorem url_eq (token : String) : url token = match Url.parse (address token) with
    | .ok u => .ok u
    | .error e => .error (.credential ("parse token: " ++ e.message)) := by
  have htext : address token = if namesScheme token.toList then token else "https://" ++ token := by
    by_cases h : NamesScheme token
    · rw [address, if_pos h, if_pos (namesScheme_iff.2 h)]
    · rw [address, if_neg h, if_neg (mt namesScheme_iff.1 h)]
  rw [htext]
  rfl

/-! ## Values -/

/-- A date in one of the two forms, of which the compact one goes first. -/
def Dates (value : String) (m : Moment) : Prop :=
  Moment.ofStamp? value = some m ∨
    Moment.ofStamp? value = none ∧ Moment.ofRfc3339? value = some m

/-- Decimal digits, with or without a plus sign, of a number of seconds. -/
def Lasts (value : String) (n : Nat) : Prop :=
  ∃ digits, (value.toList = digits ∨ value.toList = '+' :: digits) ∧ Spells digits n ∧
    1 ≤ n ∧ n ≤ 9223372036854775

/-- One second more would be too many milliseconds for 63 bits. -/
example : longest * 1000 < 2 ^ 63 ∧ 2 ^ 63 ≤ (longest + 1) * 1000 := by decide

theorem date_eq_ok_iff {value : String} {m : Moment} : date value = .ok m ↔ Dates value m := by
  unfold date Dates
  cases Moment.ofStamp? value with
  | some m' => simp
  | none =>
    cases Moment.ofRfc3339? value with
    | some m' => simp
    | none => simp

theorem date_eq_error_iff {value : String} {e : Error} : date value = .error e ↔
    (∀ m, ¬ Dates value m) ∧ e = .credential ("invalid X-Amz-Date: " ++ value) := by
  simp only [← date_eq_ok_iff]
  unfold date
  split
  · simp
  · simp [eq_comm]

theorem Dates.nanos_lt {value : String} {m : Moment} (h : Dates value m) :
    m.nanos < 2000000000 := by
  rcases h with h | ⟨-, h⟩
  · exact Moment.nanos_ofStamp? h
  · exact Moment.nanos_ofRfc3339? h

theorem lifetime_eq_ok_iff {value : String} {n : Nat} :
    lifetime value = .ok n ↔ Lasts value n := by
  constructor
  · intro h
    unfold lifetime at h
    split at h
    · next k hk =>
      split at h
      · next hrange =>
        cases h
        obtain ⟨hpos, hlongest⟩ := hrange
        rw [longest] at hlongest
        have hnat : (k.toNat : Int) = k := Int.toNat_of_nonneg (Int.le_of_lt hpos)
        rw [← hnat] at hk
        obtain ⟨digits, hdigits, hspells⟩ := (integer?_eq_some_iff (by omega)).1 hk
        exact ⟨digits, hdigits, hspells, by omega, by omega⟩
      · cases h
    · cases h
  · intro h
    obtain ⟨digits, hdigits, hspells, hpos, hmost⟩ := h
    have hread := (integer?_eq_some_iff hpos).2 ⟨digits, hdigits, hspells⟩
    have hrange : (0 : Int) < n ∧ (n : Int) ≤ longest := by
      rw [longest]
      omega
    rw [lifetime, hread]
    dsimp only
    rw [if_pos hrange, Int.toNat_natCast]

theorem lifetime_eq_error_iff {value : String} {e : Error} : lifetime value = .error e ↔
    (∀ n, ¬ Lasts value n) ∧ e = .credential ("invalid X-Amz-Expires: " ++ value) := by
  simp only [← lifetime_eq_ok_iff]
  unfold lifetime
  split
  · split
    · simp
    · simp [eq_comm]
  · simp [eq_comm]

/-! ## Parameters -/

/-- A date or a lifetime that is none. -/
def Malformed (p : String × String) : Prop :=
  p.1 = dateName ∧ (∀ m, ¬ Dates p.2 m) ∨ p.1 = lifetimeName ∧ ∀ n, ¬ Lasts p.2 n

/-- What a malformed parameter is rejected with. -/
def fault (p : String × String) : Error := .credential ("invalid " ++ p.1 ++ ": " ++ p.2)

namespace Terms

/-- No other parameter counts. -/
theorem add_other {p : String × String} (hdate : p.1 ≠ dateName) (hlifetime : p.1 ≠ lifetimeName)
    (t : Terms) : t.add p = .ok t := by
  rw [Terms.add, if_neg hdate, if_neg hlifetime]

theorem add_eq_error_iff (t : Terms) (p : String × String) (e : Error) :
    t.add p = .error e ↔ Malformed p ∧ e = fault p := by
  obtain ⟨name, value⟩ := p
  have hne : lifetimeName ≠ dateName := by decide
  unfold Terms.add Malformed fault
  dsimp only
  by_cases hdate : name = dateName
  · subst hdate
    have htext : ("invalid " ++ dateName ++ ": " : String) = "invalid X-Amz-Date: " := by decide
    rw [if_pos rfl, htext, and_iff_right rfl, or_iff_left fun h => hne h.1.symm, map_eq_error_iff,
      date_eq_error_iff]
  · by_cases hlifetime : name = lifetimeName
    · subst hlifetime
      have htext : ("invalid " ++ lifetimeName ++ ": " : String) = "invalid X-Amz-Expires: " := by
        decide
      rw [if_neg hdate, if_pos rfl, htext, and_iff_right rfl, or_iff_right fun h => hdate h.1,
        map_eq_error_iff, lifetime_eq_error_iff]
    · rw [if_neg hdate, if_neg hlifetime]
      exact ⟨nofun, fun h => absurd h.1 (not_or.2 ⟨fun h => hdate h.1, fun h => hlifetime h.1⟩)⟩

theorem ofPairs_eq_error_iff {ps : List (String × String)} {e : Error} :
    ofPairs ps = .error e ↔ ∃ before p after, ps = before ++ p :: after ∧
      (∀ q ∈ before, ¬ Malformed q) ∧ Malformed p ∧ e = fault p :=
  foldlM_eq_error_iff add_eq_error_iff

theorem ofPairs_concat (ps : List (String × String)) (p : String × String) :
    ofPairs (ps ++ [p]) = ofPairs ps >>= fun t => t.add p := by
  rw [ofPairs, List.foldlM_append]
  simp only [List.foldlM_cons, List.foldlM_nil, bind_pure]
  rfl

end Terms

/-- The value of the last parameter of a name. -/
def last? (name : String) (ps : List (String × String)) : Option String :=
  (ps.filter (·.1 = name)).getLast?.map (·.2)

theorem last?_concat (name : String) (ps : List (String × String)) (p : String × String) :
    last? name (ps ++ [p]) = if p.1 = name then some p.2 else last? name ps := by
  unfold last?
  rw [List.filter_append]
  split
  · next h =>
    have hkept : [p].filter (·.1 = name) = [p] := by simp [h]
    rw [hkept, List.getLast?_concat, Option.map_some]
  · next h =>
    have hleft : [p].filter (·.1 = name) = [] := by simp [h]
    rw [hleft, List.append_nil]

/-- Where no parameter is malformed the last date and the last lifetime count. -/
theorem Terms.ofPairs_eq {ps : List (String × String)} (h : ∀ p ∈ ps, ¬ Malformed p) :
    ofPairs ps = .ok ⟨(last? dateName ps).bind fun v => (date v).toOption,
      (last? lifetimeName ps).bind fun v => (Token.lifetime v).toOption⟩ := by
  induction ps using List.reverseRecOn with
  | nil => rfl
  | append_singleton ps p ih =>
    obtain ⟨name, value⟩ := p
    have hp : ¬ Malformed (name, value) :=
      h _ (List.mem_append_right _ (List.mem_singleton_self _))
    have hne : lifetimeName ≠ dateName := by decide
    rw [ofPairs_concat, ih fun q hq => h q (List.mem_append_left _ hq), last?_concat, last?_concat]
    change Terms.add _ _ = _
    unfold Terms.add
    dsimp only
    by_cases hdate : name = dateName
    · subst hdate
      rw [if_pos rfl, if_pos rfl, if_neg hne.symm]
      cases hm : date value with
      | ok m =>
        rw [Option.bind_some, hm]
        rfl
      | error e => exact absurd (.inl ⟨rfl, (date_eq_error_iff.1 hm).1⟩) hp
    · rw [if_neg hdate, if_neg hdate]
      by_cases hlifetime : name = lifetimeName
      · subst hlifetime
        rw [if_pos rfl, if_pos rfl]
        cases hn : Token.lifetime value with
        | ok n =>
          rw [Option.bind_some, hn]
          rfl
        | error e => exact absurd (.inr ⟨rfl, (lifetime_eq_error_iff.1 hn).1⟩) hp
      · rw [if_neg hlifetime, if_neg hlifetime]

/-! ## The expiry -/

theorem Terms.expiry_eq_ok_iff {t : Terms} {e : Moment} : t.expiry = .ok e ↔
    ∃ issued n, t.issued = some issued ∧ t.lifetime = some n ∧
      issued.addSeconds? n = some e := by
  obtain ⟨issued, n⟩ := t
  unfold Terms.expiry
  rcases issued with _ | issued
  · simp
  · rcases n with _ | n
    · simp
    · simp only [Option.some.injEq, exists_eq_left', existsAndEq, true_and]
      cases issued.addSeconds? n with
      | some m => simp
      | none => simp

theorem Terms.exists_credential {t : Terms} {e : Error} (h : t.expiry = .error e) :
    ∃ text, e = .credential text := by
  unfold Terms.expiry at h
  split at h
  · cases h
    exact ⟨_, rfl⟩
  · cases h
    exact ⟨_, rfl⟩
  · split at h
    · cases h
    · cases h
      exact ⟨_, rfl⟩

variable {token : String}

theorem expiry_of_parse {u : Url} (hu : Url.parse (address token) = .ok u) : expiry token =
    Terms.ofPairs (formPairs (u.query.getD "")) >>= fun t => t.expiry := by
  rw [expiry, url_eq, hu]
  rfl

/-- Nothing but a credential is at fault, whatever the token is. -/
theorem exists_credential_of_expiry {e : Error} (h : expiry token = .error e) :
    ∃ text, e = .credential text := by
  cases hu : Url.parse (address token) with
  | error cause =>
    rw [expiry, url_eq, hu] at h
    cases h
    exact ⟨_, rfl⟩
  | ok u =>
    rw [expiry_of_parse hu] at h
    cases ht : Terms.ofPairs (formPairs (u.query.getD "")) with
    | error cause =>
      rw [ht] at h
      cases h
      obtain ⟨-, p, -, -, -, -, rfl⟩ := Terms.ofPairs_eq_error_iff.1 ht
      exact ⟨_, rfl⟩
    | ok t =>
      rw [ht] at h
      exact Terms.exists_credential h

theorem forall_not_malformed_iff {ps : List (String × String)} : (∀ p ∈ ps, ¬ Malformed p) ↔
    (∀ v, (dateName, v) ∈ ps → ∃ m, Dates v m) ∧
      ∀ v, (lifetimeName, v) ∈ ps → ∃ n, Lasts v n := by
  constructor
  · intro h
    refine ⟨fun v hv => ?_, fun v hv => ?_⟩
    · exact Classical.not_forall_not.1 fun hnone => h _ hv (.inl ⟨rfl, hnone⟩)
    · exact Classical.not_forall_not.1 fun hnone => h _ hv (.inr ⟨rfl, hnone⟩)
  · intro h p hp hbad
    obtain ⟨hdates, hlifetimes⟩ := h
    obtain ⟨name, v⟩ := p
    rcases hbad with ⟨rfl, hnone⟩ | ⟨rfl, hnone⟩
    · obtain ⟨m, hm⟩ := hdates v hp
      exact hnone m hm
    · obtain ⟨n, hn⟩ := hlifetimes v hp
      exact hnone n hn

theorem bind_toOption_eq_some_iff {α : Type} {name : String} {ps : List (String × String)}
    {read : String → Except Error α} {a : α} :
    ((last? name ps).bind fun v => (read v).toOption) = some a ↔
      ∃ v, last? name ps = some v ∧ read v = .ok a := by
  rw [Option.bind_eq_some_iff]
  refine exists_congr fun v => and_congr_right fun _ => ?_
  cases read v with
  | error e => exact ⟨nofun, nofun⟩
  | ok b => simp [Except.toOption]

theorem Terms.bind_expiry_eq_ok_iff {ps : List (String × String)} {e : Moment} :
    (ofPairs ps >>= fun t => t.expiry) = .ok e ↔ (∀ p ∈ ps, ¬ Malformed p) ∧
      ∃ v m w n, last? dateName ps = some v ∧ Dates v m ∧
        last? lifetimeName ps = some w ∧ Lasts w n ∧ m.addSeconds? n = some e := by
  by_cases hgood : ∀ p ∈ ps, ¬ Malformed p
  · rw [ofPairs_eq hgood, and_iff_right hgood]
    change Terms.expiry _ = .ok e ↔ _
    rw [expiry_eq_ok_iff]
    simp only [bind_toOption_eq_some_iff, date_eq_ok_iff, lifetime_eq_ok_iff]
    constructor
    · intro h
      obtain ⟨m, n, ⟨v, hv, hm⟩, ⟨w, hw, hn⟩, he⟩ := h
      exact ⟨v, m, w, n, hv, hm, hw, hn, he⟩
    · intro h
      obtain ⟨v, m, w, n, hv, hm, hw, hn, he⟩ := h
      exact ⟨m, n, ⟨v, hv, hm⟩, ⟨w, hw, hn⟩, he⟩
  · refine ⟨fun h => absurd ?_ hgood, fun h => absurd h.1 hgood⟩
    cases ht : ofPairs ps with
    | error cause =>
      rw [ht] at h
      cases h
    | ok t => exact forall_not_of_foldlM add_eq_error_iff ht

/-- **A token expires its lifetime after its date, or is rejected with the first fault.** Of a token
that is an address, all dates and all lifetimes among the parameters have to be well formed, and
the last of either counts. The token expires if both are there and the date of the sum can be
written, and then later than it was issued. Otherwise a credential is at fault: of malformed
parameters it is the first. -/
theorem expiry_terms {u : Url} (hu : Url.parse (address token) = .ok u) :
    let ps := formPairs (u.query.getD "")
    (∀ e, expiry token = .ok e ↔
      (∀ v, (dateName, v) ∈ ps → ∃ m, Dates v m) ∧
      (∀ v, (lifetimeName, v) ∈ ps → ∃ n, Lasts v n) ∧
      ∃ v m w n, last? dateName ps = some v ∧ Dates v m ∧
        last? lifetimeName ps = some w ∧ Lasts w n ∧
        e = ⟨m.seconds + n, m.nanos % 1000000000⟩ ∧
        -262143 ≤ e.date.year ∧ e.date.year ≤ 262142) ∧
    (∀ e v m, expiry token = .ok e → last? dateName ps = some v → Dates v m →
      e.isAfter m = true) ∧
    (∀ before p after, ps = before ++ p :: after → (∀ q ∈ before, ¬ Malformed q) → Malformed p →
      expiry token = .error (.credential ("invalid " ++ p.1 ++ ": " ++ p.2))) ∧
    ∀ e, expiry token = .error e → ∃ text, e = .credential text := by
  intro ps
  have hexpiry : expiry token = Terms.ofPairs ps >>= fun t => t.expiry := expiry_of_parse hu
  refine ⟨fun e => ?_, fun e v m he hv hm => ?_, fun before p after hps hbefore hp => ?_,
    fun e he => exists_credential_of_expiry he⟩
  · rw [hexpiry, Terms.bind_expiry_eq_ok_iff, forall_not_malformed_iff, and_assoc]
    refine and_congr_right fun _ => and_congr_right fun _ => ?_
    constructor
    · intro h
      obtain ⟨v, m, w, n, hv, hm, hw, hn, he⟩ := h
      exact ⟨v, m, w, n, hv, hm, hw, hn, (Moment.addSeconds?_eq_some_iff hm.nanos_lt).1 he⟩
    · intro h
      obtain ⟨v, m, w, n, hv, hm, hw, hn, he⟩ := h
      exact ⟨v, m, w, n, hv, hm, hw, hn, (Moment.addSeconds?_eq_some_iff hm.nanos_lt).2 he⟩
  · rw [hexpiry, Terms.bind_expiry_eq_ok_iff] at he
    obtain ⟨-, v', m', w, n, hv', hm', -, ⟨-, -, -, hpos, -⟩, hlater⟩ := he
    obtain rfl := Option.some.inj (hv.symm.trans hv')
    obtain rfl := Except.ok.inj ((date_eq_ok_iff.2 hm).symm.trans (date_eq_ok_iff.2 hm'))
    obtain ⟨rfl, -⟩ := (Moment.addSeconds?_eq_some_iff hm.nanos_lt).1 hlater
    have hseconds : m.seconds < m.seconds + n := by omega
    simp [Moment.isAfter, hseconds]
  · have hfirst : Terms.ofPairs ps = .error (fault p) :=
      Terms.ofPairs_eq_error_iff.2 ⟨before, p, after, hps, hbefore, hp, rfl⟩
    rw [hexpiry, hfirst]
    rfl

/-- Of two lifetimes the second one counts, and a date may have an offset. -/
def repeatedToken : String :=
  "a://?X-Amz-Expires=1&X-Amz-Date=2024-01-15T10:30:00-01:00&X-Amz-Expires=60"

theorem expiry_terms_repeated :
    Url.parse (address repeatedToken) = .ok ⟨"a", none, none,
      some "X-Amz-Expires=1&X-Amz-Date=2024-01-15T10:30:00-01:00&X-Amz-Expires=60"⟩ ∧
      expiry repeatedToken = .ok ⟨1705318260, 0⟩ := by
  have hu : Url.parse (address repeatedToken) = .ok ⟨"a", none, none,
      some "X-Amz-Expires=1&X-Amz-Date=2024-01-15T10:30:00-01:00&X-Amz-Expires=60"⟩ := by
    decide +kernel
  have hps : formPairs "X-Amz-Expires=1&X-Amz-Date=2024-01-15T10:30:00-01:00&X-Amz-Expires=60" =
      [(lifetimeName, "1"), (dateName, "2024-01-15T10:30:00-01:00"), (lifetimeName, "60")] := by
    decide +kernel
  have hdate : Dates "2024-01-15T10:30:00-01:00" ⟨1705318200, 0⟩ :=
    .inr ⟨by decide +kernel, by decide +kernel⟩
  have hone : Lasts "1" 1 :=
    ⟨['1'], .inl rfl, ⟨nofun, List.all_eq_true.1 rfl, rfl⟩, by decide, by decide⟩
  have hsixty : Lasts "60" 60 :=
    ⟨['6', '0'], .inl rfl, ⟨nofun, List.all_eq_true.1 rfl, rfl⟩, by decide, by decide⟩
  refine ⟨hu, ((expiry_terms hu).1 _).2 ?_⟩
  dsimp only [Option.getD_some]
  rw [hps]
  refine ⟨fun v hv => ?_, fun v hv => ?_, _, _, _, _, rfl, hdate, rfl, hsixty, rfl, by decide,
    by decide⟩
  · have hvalue : v = "2024-01-15T10:30:00-01:00" := by
      simpa [dateName, lifetimeName] using hv
    exact ⟨_, hvalue ▸ hdate⟩
  · have hvalue : v = "1" ∨ v = "60" := by
      simpa [dateName, lifetimeName] using hv
    rcases hvalue with rfl | rfl
    · exact ⟨_, hone⟩
    · exact ⟨_, hsixty⟩

end Entitlement.Token
