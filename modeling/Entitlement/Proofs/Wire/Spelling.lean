import Entitlement.Proofs.Json.Reader
import Entitlement.Proofs.Text.Utf8
import Entitlement.Wire.Request
import Mathlib.Data.List.Nodup

/-!
# The ways to spell a request

A request comes as an object of members in any order, of which each known one may be left out and
any other is passed over, or as a list of the values of the first members.

* `RequestBody.Member` : a member of such an object; `Once` : no known member is repeated;
* `RequestBody.ofMembers` : what some members say;
* `Fields.after` : the members read so far, and then some more; `carries_members` : reading them;
* `spellings_alike` : **every way to spell a request is read as the request.**
-/

namespace Entitlement.RequestBody
open Json

/-! ## Members -/

def known : List String := ["tenantId", "userId", "resources"]

/-- A member of the object that spells a request. -/
inductive Member where
  | tenant (s : String)
  | user (s : String)
  | resources (l : List String)
  | other (key : String) (h : key ∉ known)

namespace Member

def key : Member → String
  | tenant _ => "tenantId"
  | user _ => "userId"
  | resources _ => "resources"
  | other key _ => key

/-- How its value may be written: under another key, any value may stand. -/
def format : Member → Format
  | tenant s | user s => .text s
  | resources l => .array (l.map .text)
  | other _ _ => Valid

def entry (m : Member) : String × Format := (m.key, m.format)

def tenant? : Member → Option String
  | tenant s => some s
  | _ => none

def user? : Member → Option String
  | user s => some s
  | _ => none

def resources? : Member → Option (List String)
  | resources l => some l
  | _ => none

end Member

/-- The request of some members. What none of them says is empty. -/
def ofMembers (ms : List Member) : RequestBody where
  tenant := (ms.findSome? Member.tenant?).getD ""
  user := (ms.findSome? Member.user?).getD ""
  resources := (ms.findSome? Member.resources?).getD []

/-- No known member comes twice. -/
def Once (ms : List Member) : Prop := ∀ key ∈ known, (ms.map Member.key).count key ≤ 1

instance (ms : List Member) : Decidable (Once ms) :=
  inferInstanceAs (Decidable (∀ key ∈ known, (ms.map Member.key).count key ≤ 1))

/-- The members of a request in order. -/
def members (b : RequestBody) : List Member :=
  [.tenant b.tenant, .user b.user, .resources b.resources]

/-- What is read from a text, as a text of its own and as the body of an HTTP request. -/
def ReadAs (text : String) (r : Except Reject RequestBody) : Prop :=
  parse text = r ∧ reader.startOfInput (Text.Utf8.decode (Text.Utf8.encode text)) = r

theorem Once.tail {m : Member} {ms : List Member} (h : Once (m :: ms)) : Once ms :=
  fun key hkey => Nat.le_trans List.count_le_count_cons (h key hkey)

theorem Once.ne_key {m m' : Member} {ms : List Member} (h : Once (m :: ms))
    (hknown : m.key ∈ known) (hm' : m' ∈ ms) : m'.key ≠ m.key := by
  intro he
  have hone := h m.key hknown
  rw [List.map_cons, List.count_cons_self] at hone
  have hpos : 0 < (ms.map Member.key).count m.key :=
    List.count_pos_iff.2 (he ▸ List.mem_map_of_mem hm')
  omega

theorem once_members (b : RequestBody) (k : Nat) : Once (b.members.take k) := by
  intro key _
  have hnodup : ((b.members.take k).map Member.key).Nodup := by
    rw [List.map_take]
    exact (show known.Nodup by decide).take
  exact List.nodup_iff_count_le_one.1 hnodup key

/-! ## Objects -/

namespace Fields

/-- The members read so far and then some more. -/
def after (f : Fields) (ms : List Member) : Fields where
  tenant := f.tenant.or (ms.findSome? Member.tenant?)
  user := f.user.or (ms.findSome? Member.user?)
  resources := f.resources.or (ms.findSome? Member.resources?)

/-- A known member was read. -/
def Has (f : Fields) (key : String) : Prop :=
  key = "tenantId" ∧ f.tenant.isSome ∨ key = "userId" ∧ f.user.isSome ∨
    key = "resources" ∧ f.resources.isSome

end Fields

variable {f : Fields} {m : Member} {ms : List Member}

theorem after_nil (f : Fields) : f.after [] = f := by
  unfold Fields.after
  simp only [List.findSome?_nil, Option.or_none]

theorem after_cons (f : Fields) (m : Member) (ms : List Member) :
    f.after (m :: ms) = (f.after [m]).after ms := by
  have hcons {α : Type} (o : Option α) (g : Member → Option α) :
      o.or ((m :: ms).findSome? g) = (o.or ([m].findSome? g)).or (ms.findSome? g) := by
    rw [Option.or_assoc]
    cases h : g m
    all_goals simp [h]
  unfold Fields.after
  simp only [hcons]

theorem ofFields_after (ms : List Member) : ofFields (Fields.none.after ms) = ofMembers ms := rfl

theorem isSome_or_findSome? {α : Type} {key : String} {g : Member → Option α}
    (hg : ∀ m, (g m).isSome ↔ m.key = key) (o : Option α) (ms : List Member) :
    (o.or (ms.findSome? g)).isSome ↔ o.isSome ∨ key ∈ ms.map Member.key := by
  rw [Option.isSome_or, Bool.or_eq_true, List.findSome?_isSome_iff, List.mem_map]
  exact or_congr_right (exists_congr fun m => and_congr_right fun _ => hg m)

/-- What a member is for is told by its key. -/
theorem isSome_iff_key (m : Member) : (m.tenant?.isSome ↔ m.key = "tenantId") ∧
    (m.user?.isSome ↔ m.key = "userId") ∧ (m.resources?.isSome ↔ m.key = "resources") := by
  cases m with
  | other key h =>
    have hne : ∀ k ∈ known, key ≠ k := fun k hk he => h (he ▸ hk)
    simp only [known, List.forall_mem_cons] at hne
    simp [Member.tenant?, Member.user?, Member.resources?, Member.key, hne]
  | _ => simp [Member.tenant?, Member.user?, Member.resources?, Member.key]

theorem has_after_iff {key : String} :
    (f.after ms).Has key ↔ f.Has key ∨ key ∈ known ∧ key ∈ ms.map Member.key := by
  unfold Fields.Has Fields.after known
  rw [isSome_or_findSome? fun m => (isSome_iff_key m).1,
    isSome_or_findSome? fun m => (isSome_iff_key m).2.1,
    isSome_or_findSome? fun m => (isSome_iff_key m).2.2]
  grind

/-- A known member that was read is refused. -/
theorem field_of_has {key : String} (h : f.Has key) : field key f = .error .unfit := by
  rcases h with ⟨rfl, h⟩ | ⟨rfl, h⟩ | ⟨rfl, h⟩
  all_goals exact Reader.once_of_isSome h _ _

/-- Any other member is taken in. -/
theorem exists_field (h : ¬ f.Has m.key) :
    ∃ value, field m.key f = .ok value ∧ Decodes value m.format (f.after [m]) := by
  cases m with
  | tenant s =>
    refine Decodes.exists_once (fun hsome => h (.inl ⟨rfl, hsome⟩)) (.text s) fun hnone => ?_
    simp [Fields.after, Member.tenant?, Member.user?, Member.resources?, hnone]
  | user s =>
    refine Decodes.exists_once (fun hsome => h (.inr (.inl ⟨rfl, hsome⟩))) (.text s) fun hnone => ?_
    simp [Fields.after, Member.tenant?, Member.user?, Member.resources?, hnone]
  | resources l =>
    refine Decodes.exists_once (fun hsome => h (.inr (.inr ⟨rfl, hsome⟩))) (.texts l)
      fun hnone => ?_
    simp [Fields.after, Member.tenant?, Member.user?, Member.resources?, hnone]
  | other key hother =>
    have hafter : f.after [.other key hother] = f := by
      simp [Fields.after, Member.tenant?, Member.user?, Member.resources?]
    have hfield : field key f = .ok (Reader.skip.map fun _ => f) := by
      simp only [known, List.mem_cons, List.not_mem_nil, or_false, not_or] at hother
      simp [field, hother]
    rw [hafter]
    exact ⟨_, hfield, Decodes.skip.map _⟩

/-- **Members with no known key twice are read one after the other.** -/
theorem carries_members (hms : Once ms) (hf : ∀ m ∈ ms, ¬ f.Has m.key) :
    Carries field f (ms.map Member.entry) (f.after ms) := by
  induction ms generalizing f with
  | nil =>
    rw [after_nil]
    exact .nil f
  | cons m ms ih =>
    obtain ⟨value, hfield, hvalue⟩ := exists_field (hf m List.mem_cons_self)
    rw [after_cons]
    refine .cons hfield hvalue (ih hms.tail ?_)
    intro m' hm' hhas
    rcases has_after_iff.1 hhas with hhas | ⟨hknown, hkey⟩
    · exact hf m' (List.mem_cons_of_mem m hm') hhas
    · have he : m'.key = m.key := by simpa using hkey
      exact hms.ne_key (he ▸ hknown) hm' he

theorem not_has_none (key : String) : ¬ Fields.none.Has key := by
  simp [Fields.Has, Fields.none]

theorem carries_none (hms : Once ms) :
    Carries field .none (ms.map Member.entry) (Fields.none.after ms) :=
  carries_members hms fun m _ => not_has_none m.key

theorem decodes_object (hms : Once ms) :
    Decodes reader (.record (ms.map Member.entry)) (ofMembers ms) := by
  rw [← ofFields_after]
  exact .struct (carries_none hms) ofItems fun h => map_eq_ok h ofFields

/-! ## Lists -/

/-- The values of the first members, and the closing bracket. -/
theorem ofItems_ahead (b : RequestBody) (k : Nat) {rest : Input} {ts : List Token}
    (h : Ahead true ((b.members.take k).map Member.format) (some ']' :: rest) ts) :
    ∃ hlt, ofItems ts = .ok (ofMembers (b.members.take k), ⟨tokens rest, hlt⟩) := by
  have hend : Stops (some ']' :: rest) := stops_cons (by decide) rest
  unfold ofItems
  match k with
  | 0 =>
    obtain ⟨hnext, hlt, hclose⟩ := next?_ahead_nil .text h
    simp only [hnext, bind, Except.bind, hclose]
    exact ⟨hlt, rfl⟩
  | 1 =>
    obtain ⟨us₁, hlt₁, hnext₁, h₁⟩ := next?_ahead (Decodes.text b.tenant) hend h
    obtain ⟨hnext, hlt, hclose⟩ := next?_ahead_nil .text h₁
    simp only [hnext₁, hnext, bind, Except.bind, Reader.closeAfter, hclose]
    exact ⟨Reader.shorter hlt₁ hlt, rfl⟩
  | 2 =>
    obtain ⟨us₁, hlt₁, hnext₁, h₁⟩ := next?_ahead (Decodes.text b.tenant) hend h
    obtain ⟨us₂, hlt₂, hnext₂, h₂⟩ := next?_ahead (Decodes.text b.user) hend h₁
    obtain ⟨hnext, hlt, hclose⟩ := next?_ahead_nil (.list .text) h₂
    simp only [hnext₁, hnext₂, hnext, bind, Except.bind, Reader.closeAfter, hclose]
    exact ⟨Reader.shorter (Reader.shorter hlt₁ hlt₂) hlt, rfl⟩
  | k + 3 =>
    obtain ⟨us₁, hlt₁, hnext₁, h₁⟩ := next?_ahead (Decodes.text b.tenant) hend h
    obtain ⟨us₂, hlt₂, hnext₂, h₂⟩ := next?_ahead (Decodes.text b.user) hend h₁
    obtain ⟨us₃, hlt₃, hnext₃, h₃⟩ := next?_ahead (Decodes.texts b.resources) hend h₂
    rw [List.take_nil, List.map_nil] at h₃
    obtain ⟨-, hlt, hclose⟩ := next?_ahead_nil .text h₃
    simp only [hnext₁, hnext₂, hnext₃, bind, Except.bind, Reader.closeAfter, hclose]
    exact ⟨Reader.shorter (Reader.shorter (Reader.shorter hlt₁ hlt₂) hlt₃) hlt, rfl⟩

theorem decodes_items (b : RequestBody) (k : Nat) :
    Decodes reader (.array ((b.members.take k).map Member.format))
      (ofMembers (b.members.take k)) where
  unclosing cs hcs rest ts _ := unclosing_between hcs rfl rfl nofun rest ts
  reads cs hcs rest _ := by
    obtain ⟨us, hus, hahead⟩ := exists_ahead rfl rfl hcs rest
    obtain ⟨hlt, hread⟩ := ofItems_ahead b k hahead
    rw [hus, reader, Reader.struct, hread]
    exact ⟨Nat.lt_succ_of_lt hlt, rfl⟩

/-! ## Texts -/

theorem ReadAs.of_decodes {F : Format} {b : RequestBody} {text : String}
    (h : Decodes reader F b) (htext : F.alone text.toList) : ReadAs text (.ok b) := by
  constructor
  · exact h.ofInput htext
  · rw [Text.Utf8.decode_encode]
    exact h.startOfInput htext

/-- A text that gives the same known member again, up to the end of its key. -/
def Repeats (ms : List Member) (text : String) : Prop :=
  ∃ before cs between key rest, ∃ name ∈ known, name ∈ ms.map Member.key ∧ Blanks before ∧
    Spaced (memberFormats (ms.map Member.entry)) cs ∧ Blanks between ∧ Format.text name key ∧
    text.toList = before ++ '{' :: (cs ++ ',' :: (between ++ (key ++ rest)))

theorem ReadAs.of_repeats {text : String} (hms : Once ms) (h : Repeats ms text) :
    ReadAs text (.error .unfit) := by
  obtain ⟨before, cs, between, key, rest, name, hknown, hmem, hbefore, hcs, hbetween, hkey, htext⟩ :=
    h
  have htokens : tokens (text.toList.map some) = .beginObject :: tokens (cs.map some ++ some ',' ::
      (between.map some ++ (key.map some ++ rest.map some))) := by
    rw [htext]
    simp only [List.map_append, List.map_cons]
    rw [tokens_blanks hbefore, tokens_punctuation rfl rfl]
  have hahead : Ahead true (memberFormats (ms.map Member.entry))
      (some ',' :: (between.map some ++ (key.map some ++ rest.map some)))
      (tokens (cs.map some ++ some ',' ::
        (between.map some ++ (key.map some ++ rest.map some)))) :=
    .inr ⟨cs, hcs, rfl⟩
  have hmembers := outcome_members (carries_none hms) (stops_cons (by decide) _) hahead
  have hsome : (ms.map Member.entry).isEmpty = false := by
    cases ms with
    | nil => cases hmem
    | cons m ms => rfl
  have hrefused : field name (Fields.none.after ms) = .error .unfit :=
    field_of_has (has_after_iff.2 (.inr ⟨hknown, hmem⟩))
  have hend := outcome_refused false hrefused hkey (rest.map some)
  rw [tokens_punctuation rfl rfl, tokens_blanks hbetween, hsome, Bool.and_false] at hmembers
  have hread : reader (tokens (text.toList.map some)) = .error .unfit := by
    rw [htokens, reader, Reader.struct, Reader.map, eq_error_of_outcome (hmembers.trans hend)]
    rfl
  constructor
  · rw [parse, Reader.ofInput, Input.ofString, hread]
  · rw [Text.Utf8.decode_encode, Reader.startOfInput, hread]
    rfl

/-- **Every way to spell a request is read as the request**: the members in any order, each known one
once or not at all, among any others, or the values of the first members in a list. A known member
that comes again is refused, whatever follows its key. -/
theorem spellings_alike :
    (∀ ms text, Once ms → (Format.record (ms.map Member.entry)).alone text.toList →
      ReadAs text (.ok (ofMembers ms))) ∧
    (∀ (b : RequestBody) k, Once (b.members.take k) ∧ ∀ text,
      (Format.array ((b.members.take k).map Member.format)).alone text.toList →
        ReadAs text (.ok (ofMembers (b.members.take k)))) ∧
    ∀ ms text, Once ms → Repeats ms text → ReadAs text (.error .unfit) := by
  refine ⟨?_, ?_, ?_⟩
  · intro ms text hms htext
    exact .of_decodes (decodes_object hms) htext
  · intro b k
    exact ⟨once_members b k, fun text htext => .of_decodes (decodes_items b k) htext⟩
  · intro ms text hms h
    exact .of_repeats hms h

/-! ## A text of each kind -/

/-- A text whose first letter is an escape. -/
theorem text_escaped : Format.text "u" ['"', '\\', 'u', '0', '0', '7', '5', '"'] := by
  have hzero : HexDigit 0 '0' := hexDigit_digit (by decide)
  have hlong : LongEscape 'u'.toNat ['\\', 'u', '0', '0', '7', '5'] :=
    .mk hzero hzero (hexDigit_digit (n := 7) (by decide)) (hexDigit_digit (n := 5) (by decide))
  exact ⟨[_], .cons (.long hlong) .nil, rfl⟩

theorem valid_nested : Valid ['[', 'n', 'u', 'l', 'l', ']'] := by
  have hword : Valid ['n', 'u', 'l', 'l'] := .word (by decide)
  have harray : Format.array [Valid] ['[', 'n', 'u', 'l', 'l', ']'] :=
    array_array (.cons hword .nil)
  refine .array ?_ harray
  intro F hF v hv
  rwa [List.mem_singleton.1 hF] at hv

theorem spellings_alike_mixed :
    ReadAs "\x7b\"x\":[null], \"userId\":\"\\u0075\"\x7d" (.ok ⟨"", "u", []⟩) ∧
    ReadAs "[\"t\"]" (.ok ⟨"t", "", []⟩) ∧
    ReadAs "\x7b\"userId\":\"\\u0075\",\"userId\"" (.error .unfit) := by
  have hspace : Blanks [' '] := by simp [Blanks]
  have hother := member_member "x" valid_nested
  have huser := member_member "userId" text_escaped
  obtain ⟨hobject, hlist, hrepeated⟩ := spellings_alike
  refine ⟨?_, ?_, ?_⟩
  · refine hobject [.other "x" (by decide), .user "u"] _ (by decide) ?_
    have hrecord : Format.record [("x", Valid), ("userId", .text "u")] _ :=
      ⟨_, .inr (.cons blanks_nil hother blanks_nil (.one hspace huser blanks_nil)), rfl⟩
    exact alone_self hrecord
  · refine (hlist ⟨"t", "", []⟩ 1).2 _ ?_
    have harray : Format.array [.text "t"] (array [string "t"]) :=
      array_array (.cons (text_string "t") .nil)
    exact alone_self harray
  · refine hrepeated [.user "u"] _ (by decide) ?_
    exact ⟨[], _, [], string "userId", [], "userId", by decide, by decide, blanks_nil,
      .one blanks_nil huser blanks_nil, blanks_nil, text_string "userId", rfl⟩

end Entitlement.RequestBody
