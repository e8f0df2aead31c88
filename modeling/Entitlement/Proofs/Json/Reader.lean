import Entitlement.Proofs.Json.Printer
import Entitlement.Proofs.Json.Skipping

/-!
# Reading spelled values

* `Decodes` : every text of a format is read as a value, up to what may come after it;
  `Decodes.text`, `Decodes.skip` : for a string and for any value;
* `next?_ahead`, `Decodes.list` : the items of a list, whatever blanks stand between them;
* `Carries` : members that take a state to another; `outcome_members` : reading them one after the
  other; `Decodes.object`, `Decodes.struct` : an object of such members;
* `Decodes.ofInput` : **a text of one value is read as the value.**
-/

namespace Entitlement.Json

variable {α β σ : Type}

/-! ## Reading -/

/-- Every text of the format is read as the value, up to what may come after it. -/
structure Decodes (read : Reader α) (F : Format) (a : α) : Prop where
  unclosing : ∀ cs, F cs → ∀ rest ts, Stops rest → tokens (cs.map some ++ rest) ≠ .endArray :: ts
  reads : ∀ cs, F cs → ∀ rest, Stops rest →
    ∃ h, read (tokens (cs.map some ++ rest)) = .ok (a, ⟨tokens rest, h⟩)

variable {F : Format} {items : List Format} {rest : Input} {ts us : List Token} {first : Bool}
  {read item : Reader α} {a : α}

theorem map_eq_ok {r} (h : read ts = .ok (a, r)) (f : α → β) :
    Reader.map f read ts = .ok (f a, r) := by
  rw [Reader.map, h]
  rfl

theorem check_eq_ok {r} (h : read ts = .ok (a, r)) {f : α → Except Reject β}
    {b : β} (hf : f a = .ok b) : Reader.check f read ts = .ok (b, r) := by
  simp only [Reader.check, h, bind, Except.bind, hf]
  rfl

theorem Decodes.map (h : Decodes read F a) (f : α → β) : Decodes (Reader.map f read) F (f a) where
  unclosing := h.unclosing
  reads cs hcs rest hrest := by
    obtain ⟨hlt, hread⟩ := h.reads cs hcs rest hrest
    exact ⟨hlt, map_eq_ok hread f⟩

theorem Decodes.text (s : String) : Decodes Reader.text (.text s) s where
  unclosing cs hcs rest ts _ he := by
    rw [tokens_text hcs] at he
    cases he
  reads cs hcs rest _ := by
    rw [tokens_text hcs]
    exact ⟨Nat.lt_succ_self _, rfl⟩

theorem skip_of_need (h : Need.value.skip [] ts = .ok us) :
    ∃ hlt, Reader.skip ts = .ok ((), ⟨us, hlt⟩) := by
  unfold Reader.skip
  split
  · next hok =>
    rw [h] at hok
    cases hok
    exact ⟨Need.length_of_skip h, rfl⟩
  · next herror =>
    rw [h] at herror
    cases herror

theorem Decodes.skip : Decodes Reader.skip Valid () where
  unclosing _ hcs := (skips_valid hcs).unclosing
  reads _ hcs rest hrest := skip_of_need ((skips_valid hcs).skip rest [] hrest)

/-! ## Lists -/

theorem next?_true {h} (hitem : item ts = .ok (a, ⟨us, h⟩)) (hend : ∀ ts', ts ≠ .endArray :: ts') :
    Reader.next? true item ts = .ok (some (a, ⟨us, h⟩)) := by
  unfold Reader.next?
  split
  · cases h
  · next ts' => exact absurd rfl (hend ts')
  · rw [if_pos rfl, hitem]
    rfl

theorem next?_false {h} (hitem : item ts = .ok (a, ⟨us, h⟩)) (hend : ∀ ts', ts ≠ .endArray :: ts') :
    Reader.next? false item (.comma :: ts) = .ok (some (a, ⟨us, Nat.lt_succ_of_lt h⟩)) := by
  have hcomma : Reader.next? false item (.comma :: ts) =
      (item ts).map fun r => some (r.1, ⟨r.2.1, Nat.lt_succ_of_lt r.2.2⟩) := by
    unfold Reader.next?
    cases ts with
    | nil => rfl
    | cons t ts =>
      cases t
      case endArray => exact absurd rfl (hend ts)
      all_goals rfl
  rw [hcomma, hitem]
  rfl

theorem items_cons {first : Bool} {as : List α} {vs : List Token} {h h'}
    (hnext : Reader.next? first item ts = .ok (some (a, ⟨us, h⟩)))
    (hitems : Reader.items item false us = .ok (as, ⟨vs, h'⟩)) :
    ∃ h, Reader.items item first ts = .ok (a :: as, ⟨vs, h⟩) := by
  rw [Reader.items, hnext]
  simp only [bind, Except.bind, hitems]
  exact ⟨Nat.lt_trans h' h, rfl⟩

theorem items_nil (first : Bool) (ts : List Token) :
    ∃ h, Reader.items item first (.endArray :: ts) = .ok ([], ⟨ts, h⟩) := by
  rw [Reader.items]
  exact ⟨Nat.lt_succ_self _, rfl⟩

theorem list_beginArray {as : List α} {h}
    (hitems : Reader.items item true ts = .ok (as, ⟨us, h⟩)) :
    ∃ h, Reader.list item (.beginArray :: ts) = .ok (as, ⟨us, h⟩) := by
  rw [Reader.list, hitems]
  exact ⟨Nat.lt_succ_of_lt h, rfl⟩

/-- The first item to come, and after it the others. -/
theorem next?_ahead (hitem : Decodes item F a) (hrest : Stops rest)
    (h : Ahead first (F :: items) rest ts) :
    ∃ us hlt, Reader.next? first item ts = .ok (some (a, ⟨us, hlt⟩)) ∧
      Ahead false items rest us := by
  obtain ⟨v, more, hv, hmore, rfl, hahead⟩ := h.cons hrest
  obtain ⟨hlt, hread⟩ := hitem.reads v hv more hmore
  have hopen := fun ts => hitem.unclosing v hv more ts hmore
  cases first with
  | true => exact ⟨tokens more, hlt, next?_true hread hopen, hahead⟩
  | false => exact ⟨tokens more, _, next?_false hread hopen, hahead⟩

/-- No item is to come before a closing bracket. -/
theorem next?_ahead_nil (item : Reader α) (h : Ahead first [] (some ']' :: rest) ts) :
    Reader.next? first item ts = .ok none ∧
      ∃ hlt, Reader.close ts = .ok ((), ⟨tokens rest, hlt⟩) := by
  rw [h.nil, tokens_punctuation rfl rfl]
  exact ⟨rfl, Nat.lt_succ_self _, rfl⟩

theorem items_ahead {as : List α} (has : List.Forall₂ (Decodes item) items as)
    (h : Ahead first items (some ']' :: rest) ts) :
    ∃ hlt, Reader.items item first ts = .ok (as, ⟨tokens rest, hlt⟩) := by
  induction has generalizing first ts with
  | nil =>
    rw [h.nil, tokens_punctuation rfl rfl]
    exact items_nil first _
  | cons hitem _ ih =>
    obtain ⟨us, hlt, hnext, hahead⟩ := next?_ahead hitem (stops_cons (by decide) rest) h
    obtain ⟨hlt', hitems⟩ := ih hahead
    exact items_cons hnext hitems

theorem Decodes.list {as : List α} (has : List.Forall₂ (Decodes item) items as) :
    Decodes (Reader.list item) (.array items) as where
  unclosing cs hcs rest ts _ := unclosing_between hcs rfl rfl nofun rest ts
  reads cs hcs rest _ := by
    obtain ⟨us, hus, hahead⟩ := exists_ahead rfl rfl hcs rest
    obtain ⟨hlt, hitems⟩ := items_ahead has hahead
    rw [hus]
    exact list_beginArray hitems

/-- A list of values that are all read in one way. -/
theorem Decodes.list_map {format : α → Format} (h : ∀ a, Decodes item (format a) a)
    (l : List α) : Decodes (Reader.list item) (.array (l.map format)) l := by
  refine .list ?_
  rw [List.forall₂_map_left_iff, List.forall₂_same]
  exact fun a _ => h a

theorem Decodes.texts (l : List String) : Decodes (Reader.list .text) (.array (l.map .text)) l :=
  .list_map .text l

/-! ## Objects -/

variable {field : String → σ → Except Reject (Reader σ)} {s s' s'' : σ}
  {ms : List (String × Format)}

/-- Each member takes the state on. -/
inductive Carries (field : String → σ → Except Reject (Reader σ)) :
    σ → List (String × Format) → σ → Prop
  | nil (s : σ) : Carries field s [] s
  | cons {s s' s'' : σ} {key : String} {F : Format} {value : Reader σ}
      {ms : List (String × Format)} (hfield : field key s = .ok value)
      (hvalue : Decodes value F s') (h : Carries field s' ms s'') :
      Carries field s ((key, F) :: ms) s''

/-- A member that was not read before is taken in. -/
theorem Decodes.exists_once {place : Option α} {put : α → σ} (h : ¬ place.isSome)
    (hread : Decodes item F a) (hput : place = none → put a = s) :
    ∃ value, Reader.once place item put = .ok value ∧ Decodes value F s := by
  rw [← hput (Option.not_isSome_iff_eq_none.1 h)]
  exact ⟨_, Reader.once_of_not_isSome h item put, hread.map put⟩

/-- What was read, and what is left. -/
def outcome {n : Nat} (r : Except Reject (α × { ts : List Token // ts.length < n })) :
    Except Reject (α × List Token) := r.map fun r => (r.1, r.2.1)

/-- The formats of members with known keys. -/
def memberFormats (ms : List (String × Format)) : List Format :=
  ms.map fun m => .member (.text m.1) m.2

theorem nextKey?_lead (first : Bool) (key : String) (skipped : Except Reject Unit)
    (ts : List Token) : ∃ hlt, Reader.nextKey? first (lead first (.text (.ok key) skipped :: ts)) =
      .ok (some key, ⟨ts, hlt⟩) := by
  cases first with
  | true => exact ⟨Nat.lt_succ_self _, rfl⟩
  | false => exact ⟨Nat.lt_succ_of_lt (Nat.lt_succ_self _), rfl⟩

/-- The first member to come is read, and then the others. -/
theorem outcome_member {key : String} {value : Reader σ} (hfield : field key s = .ok value)
    (hvalue : Decodes value F s') (hrest : Stops rest)
    (h : Ahead first (.member (.text key) F :: items) rest ts) :
    ∃ us, outcome (Reader.members field first s ts) =
        outcome (Reader.members field false s' us) ∧ Ahead false items rest us := by
  obtain ⟨_, more, hm, hmore, rfl, hahead⟩ := h.cons hrest
  obtain ⟨k, before, after, v, hk, hbefore, hafter, hv, rfl⟩ := hm
  obtain ⟨hlt, hread⟩ := hvalue.reads v hv more hmore
  have htokens : tokens ((k ++ (before ++ ':' :: (after ++ v))).map some ++ more) =
      .text (.ok key) (.ok ()) :: .colon :: tokens (v.map some ++ more) := by
    simp only [List.map_append, List.map_cons, List.append_assoc, List.cons_append]
    rw [tokens_text hk, tokens_blanks hbefore, tokens_punctuation rfl rfl, tokens_blanks hafter]
  refine ⟨tokens more, ?_, hahead⟩
  rw [htokens]
  obtain ⟨hlt', hkey⟩ := nextKey?_lead first key (.ok ())
    (.colon :: tokens (v.map some ++ more))
  rw [Reader.members, hkey]
  simp only [bind, Except.bind, hfield, Reader.colon, hread]
  cases Reader.members field false s' (tokens more) <;> rfl

/-- **Members that come are read one after the other**, and then what follows them. -/
theorem outcome_members (hms : Carries field s ms s') (hrest : Stops rest)
    (h : Ahead first (memberFormats ms) rest ts) :
    outcome (Reader.members field first s ts) =
      outcome (Reader.members field (first && ms.isEmpty) s' (tokens rest)) := by
  induction hms generalizing first ts with
  | nil s => rw [h.nil, List.isEmpty_nil, Bool.and_true]
  | cons hfield hvalue _ ih =>
    obtain ⟨us, houtcome, hahead⟩ := outcome_member hfield hvalue hrest h
    rw [houtcome, ih hahead, Bool.false_and, List.isEmpty_cons, Bool.and_false]

/-- A member that is refused ends the reading right after its key, whatever follows. -/
theorem outcome_refused (first : Bool) {key : String} {reject : Reject}
    (hfield : field key s = .error reject) {k : List Char} (hk : Format.text key k) (rest : Input) :
    outcome (Reader.members field first s (lead first (tokens (k.map some ++ rest)))) =
      .error reject := by
  rw [tokens_text hk]
  obtain ⟨hlt, hkey⟩ := nextKey?_lead first key (.ok ()) (tokens rest)
  rw [Reader.members, hkey]
  simp only [bind, Except.bind, hfield]
  rfl

theorem eq_ok_of_outcome {n : Nat} {r : Except Reject (α × { ts : List Token // ts.length < n })}
    (h : outcome r = .ok (a, ts)) : ∃ hlt, r = .ok (a, ⟨ts, hlt⟩) := by
  match r with
  | .error _ => cases h
  | .ok (b, ⟨us, hlt⟩) =>
    cases h
    exact ⟨hlt, rfl⟩

theorem eq_error_of_outcome {n : Nat} {reject : Reject}
    {r : Except Reject (α × { ts : List Token // ts.length < n })}
    (h : outcome r = .error reject) : r = .error reject := by
  match r with
  | .error _ =>
    cases h
    rfl
  | .ok _ => cases h

theorem members_nil (first : Bool) (s : σ) (ts : List Token) :
    ∃ h, Reader.members field first s (.endObject :: ts) = .ok (s, ⟨ts, h⟩) := by
  rw [Reader.members]
  cases first
  all_goals exact ⟨Nat.lt_succ_self _, rfl⟩

/-- The members of an object, from what comes after its opening brace. -/
theorem exists_members (hms : Carries field s ms s') {cs : List Char} (hcs : Format.record ms cs)
    (rest : Input) : ∃ us hlt, tokens (cs.map some ++ rest) = .beginObject :: us ∧
      Reader.members field true s us = .ok (s', ⟨tokens rest, hlt⟩) := by
  obtain ⟨us, hus, hahead⟩ := exists_ahead rfl rfl hcs rest
  have hahead' : Ahead true (memberFormats ms) (some '}' :: rest) us := by
    unfold memberFormats
    rwa [List.map_map] at hahead
  have hmembers := outcome_members hms (stops_cons (by decide) rest) hahead'
  obtain ⟨hlt, hend⟩ : ∃ hlt, Reader.members field (true && ms.isEmpty) s'
      (.endObject :: tokens rest) = .ok (s', ⟨tokens rest, hlt⟩) := members_nil _ s' (tokens rest)
  rw [tokens_punctuation rfl rfl, hend] at hmembers
  obtain ⟨hlt', hread⟩ := eq_ok_of_outcome hmembers
  exact ⟨us, hlt', hus, hread⟩

variable {body : Reader β} {b : β}

/-- An object of members that carry the state. -/
theorem Decodes.object (hms : Carries field s ms s')
    (hbody : ∀ {us r}, Reader.members field true s us = .ok (s', r) → body us = .ok (b, r)) :
    Decodes (.object body) (.record ms) b where
  unclosing cs hcs rest ts _ := unclosing_between hcs rfl rfl nofun rest ts
  reads cs hcs rest _ := by
    obtain ⟨us, hlt, hus, hread⟩ := exists_members hms hcs rest
    rw [hus, Reader.object, hbody hread]
    exact ⟨Nat.lt_succ_of_lt hlt, rfl⟩

theorem Decodes.struct (hms : Carries field s ms s') (array : Reader β)
    (hbody : ∀ {us r}, Reader.members field true s us = .ok (s', r) → body us = .ok (b, r)) :
    Decodes (.struct body array) (.record ms) b where
  unclosing cs hcs rest ts _ := unclosing_between hcs rfl rfl nofun rest ts
  reads cs hcs rest _ := by
    obtain ⟨us, hlt, hus, hread⟩ := exists_members hms hcs rest
    rw [hus, Reader.struct, hbody hread]
    exact ⟨Nat.lt_succ_of_lt hlt, rfl⟩

/-! ## Texts -/

theorem stops_nil : Stops [] := nofun

/-- A text of one value and blanks. -/
theorem exists_read_alone (h : Decodes read F a) {cs : List Char} (hcs : F.alone cs) :
    ∃ hlt, read (tokens (cs.map some)) = .ok (a, ⟨[], hlt⟩) := by
  have hahead : Ahead true [F] [] (tokens (cs.map some)) :=
    .inr ⟨cs, hcs, by rw [List.append_nil]; rfl⟩
  obtain ⟨v, more, hv, hmore, htokens, hend⟩ := hahead.cons stops_nil
  obtain ⟨hlt, hread⟩ := h.reads v hv more hmore
  have hnil : tokens more = [] := by rw [hend.nil, tokens]
  rw [htokens]
  simp only [hnil] at hread
  exact ⟨_, hread⟩

theorem Decodes.ofInput (h : Decodes read F a) {text : String} (htext : F.alone text.toList) :
    Reader.ofInput read (.ofString text) = .ok a := by
  obtain ⟨hlt, hread⟩ := exists_read_alone h htext
  rw [Reader.ofInput, Input.ofString, hread]

theorem Decodes.startOfInput (h : Decodes read F a) {text : String} (htext : F.alone text.toList) :
    Reader.startOfInput read (.ofString text) = .ok a := by
  obtain ⟨hlt, hread⟩ := exists_read_alone h htext
  rw [Reader.startOfInput, Input.ofString, hread]
  rfl

end Entitlement.Json
