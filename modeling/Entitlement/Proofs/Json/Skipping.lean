import Entitlement.Json.Reader
import Entitlement.Proofs.Json.Spelling

/-!
# Skipping a value

* `Ahead` : the items of a list or an object that are still to come, and what follows them;
  `exists_ahead` : after the opening bracket; `Ahead.cons` : the first of them;
* `Skips` : a text is skipped as one value; `Passes` : from one need, up to what follows;
* `skips_valid` : **any value is skipped to its end**, however deep it is.
-/

namespace Entitlement.Json

/-! ## Items to come -/

theorem Stops.blanks {b : List Char} {rest : Input} (h : Stops rest) (hb : Blanks b) :
    Stops (b.map some ++ rest) := by
  match b with
  | [] => exact h
  | c :: b =>
    intro d hd
    obtain rfl : some c = d := Option.some.inj hd
    exact List.mem_map_of_mem (List.mem_append_left [',', ']', '}'] (hb c List.mem_cons_self))

theorem stops_cons {c : Char} (hc : c ∈ [',', ']', '}']) (rest : Input) : Stops (some c :: rest) := by
  intro d hd
  obtain rfl : some c = d := Option.some.inj hd
  exact List.mem_map_of_mem (List.mem_append_right [' ', '\t', '\n', '\r'] hc)

/-- Items after the first come after a comma. -/
def lead (first : Bool) (ts : List Token) : List Token := if first then ts else .comma :: ts

/-- The tokens of some items and of what follows them. -/
def Ahead (first : Bool) (items : List Format) (rest : Input) (ts : List Token) : Prop :=
  items = [] ∧ ts = tokens rest ∨
    ∃ cs, Spaced items cs ∧ ts = lead first (tokens (cs.map some ++ rest))

variable {first : Bool} {F : Format} {items : List Format} {rest : Input} {ts us : List Token}

theorem Ahead.nil (h : Ahead first [] rest ts) : ts = tokens rest := by
  rcases h with ⟨-, h⟩ | ⟨cs, h, -⟩
  · exact h
  · cases h

theorem Ahead.cons (h : Ahead first (F :: items) rest ts) (hrest : Stops rest) :
    ∃ v more, F v ∧ Stops more ∧ ts = lead first (tokens (v.map some ++ more)) ∧
      Ahead false items rest (tokens more) := by
  rcases h with ⟨h, -⟩ | ⟨cs, h, rfl⟩
  · cases h
  · cases h with
    | @one _ before v after hbefore hv hafter =>
      refine ⟨v, after.map some ++ rest, hv, hrest.blanks hafter, ?_, .inl ⟨rfl, ?_⟩⟩
      · simp only [List.map_append, List.append_assoc, tokens_blanks hbefore]
      · exact tokens_blanks hafter rest
    | @cons _ _ before v after cs hbefore hv hafter h =>
      refine ⟨v, after.map some ++ some ',' :: (cs.map some ++ rest), hv,
        (stops_cons (by decide) _).blanks hafter, ?_, .inr ⟨cs, h, ?_⟩⟩
      · simp only [List.map_append, List.map_cons, List.append_assoc, List.cons_append,
          tokens_blanks hbefore]
      · rw [tokens_blanks hafter, tokens_punctuation rfl rfl]
        rfl

/-- Items between brackets are ahead after the opening one. -/
theorem exists_ahead {opening closing : Char} {open' : Token} {cs : List Char}
    (hblank : isBlank opening = false) (hopen : punctuation? opening = some open')
    (h : Format.between opening closing items cs) (rest : Input) :
    ∃ ts, tokens (cs.map some ++ rest) = open' :: ts ∧
      Ahead true items (some closing :: rest) ts := by
  obtain ⟨inner, hinner, rfl⟩ := h
  have hinput : (opening :: (inner ++ [closing])).map some ++ rest =
      some opening :: (inner.map some ++ some closing :: rest) := by simp
  refine ⟨tokens (inner.map some ++ some closing :: rest), ?_, ?_⟩
  · rw [hinput, tokens_punctuation hblank hopen]
  · rcases hinner with ⟨hitems, hblanks⟩ | hspaced
    · exact .inl ⟨hitems, tokens_blanks hblanks _⟩
    · exact .inr ⟨inner, hspaced, rfl⟩

/-- What opens with another bracket does not close a list. -/
theorem unclosing_between {opening closing : Char} {open' : Token} {cs : List Char}
    (h : Format.between opening closing items cs) (hblank : isBlank opening = false)
    (hopen : punctuation? opening = some open') (hne : open' ≠ .endArray) (rest : Input)
    (ts : List Token) : tokens (cs.map some ++ rest) ≠ .endArray :: ts := by
  obtain ⟨us, hus, -⟩ := exists_ahead hblank hopen h rest
  rw [hus]
  intro he
  exact hne (List.cons.inj he).1

/-! ## Skipping -/

namespace Need

/-- What is left to skip after a value in some frames. -/
def resume (frames : List Frame) (ts : List Token) : Except Reject (List Token) :=
  if frames.isEmpty then .ok ts else separator.skip frames ts

theorem skip_afterValue {need : Need} {frames outer : List Frame} {t : Token}
    (h : need.step frames t = .ok (afterValue outer)) (ts : List Token) :
    need.skip frames (t :: ts) = resume outer ts := by
  rw [skip, h]
  cases outer with
  | nil => rfl
  | cons f outer => rfl

theorem skip_step {need need' : Need} {frames frames' : List Frame} {t : Token}
    (h : need.step frames t = .ok (need', frames')) (hneed : need' ≠ nothing) (ts : List Token) :
    need.skip frames (t :: ts) = need'.skip frames' ts := by
  rw [skip, h]
  cases need' with
  | nothing => exact absurd rfl hneed
  | _ => rfl

end Need

/-- The text is skipped as one value, up to what may come after it. -/
structure Skips (cs : List Char) : Prop where
  unclosing : ∀ rest ts, Stops rest → tokens (cs.map some ++ rest) ≠ .endArray :: ts
  skip : ∀ rest frames, Stops rest →
    Need.value.skip frames (tokens (cs.map some ++ rest)) = Need.resume frames (tokens rest)

/-- A value of one token. -/
theorem Skips.of_token {cs : List Char}
    (h : ∀ rest, Stops rest → ∃ t, tokens (cs.map some ++ rest) = t :: tokens rest ∧
      t ≠ .endArray ∧ ∀ frames, Need.startValue frames t = .ok (Need.afterValue frames)) :
    Skips cs where
  unclosing rest ts hrest he := by
    obtain ⟨t, ht, hne, -⟩ := h rest hrest
    rw [ht] at he
    exact hne (List.cons.inj he).1
  skip rest frames hrest := by
    obtain ⟨t, ht, -, hstart⟩ := h rest hrest
    rw [ht]
    have hstep : Need.value.step frames t = .ok (Need.afterValue frames) := hstart frames
    exact Need.skip_afterValue hstep _

/-- From one need, the text is skipped up to a comma or a bracket. -/
def Passes (need : Need) (frames : List Frame) (cs : List Char) : Prop :=
  ∀ rest, Stops rest →
    need.skip frames (tokens (cs.map some ++ rest)) = Need.separator.skip frames (tokens rest)

theorem skip_ahead {next : Need} {frame : Frame} {frames : List Frame}
    (hcomma : Need.separator.step (frame :: frames) .comma = .ok (next, frame :: frames))
    (hnext : next ≠ .nothing) (hitems : ∀ F ∈ items, ∀ v, F v → Passes next (frame :: frames) v)
    (hrest : Stops rest) (h : Ahead false items rest ts) :
    Need.separator.skip (frame :: frames) ts =
      Need.separator.skip (frame :: frames) (tokens rest) := by
  induction items generalizing ts with
  | nil => rw [h.nil]
  | cons F items ih =>
    obtain ⟨v, more, hv, hmore, rfl, hahead⟩ := h.cons hrest
    have hpass := hitems F List.mem_cons_self v hv more hmore
    rw [lead, if_neg Bool.false_ne_true, Need.skip_step hcomma hnext, hpass]
    exact ih (fun G hG => hitems G (List.mem_cons_of_mem F hG)) hahead

/-- All items of a list or an object, from its opening bracket on. -/
theorem skip_between {start : Need} (next : Need) {frame : Frame} {frames : List Frame}
    {closing : Char} {close : Token} (hclosing : closing ∈ [',', ']', '}'])
    (hclose : ∀ rest, tokens (some closing :: rest) = close :: tokens rest)
    (hend : ∀ need ∈ [start, .separator],
      need.step (frame :: frames) close = .ok (Need.afterValue frames))
    (hcomma : Need.separator.step (frame :: frames) .comma = .ok (next, frame :: frames))
    (hnext : next ≠ .nothing)
    (hitems : ∀ need ∈ [start, next], ∀ F ∈ items, ∀ v, F v → Passes need (frame :: frames) v)
    (h : Ahead true items (some closing :: rest) ts) :
    start.skip (frame :: frames) ts = Need.resume frames (tokens rest) := by
  cases items with
  | nil =>
    rw [h.nil, hclose, Need.skip_afterValue (hend _ List.mem_cons_self)]
  | cons F items =>
    obtain ⟨v, more, hv, hmore, rfl, hahead⟩ := h.cons (stops_cons hclosing rest)
    have hpass := hitems start List.mem_cons_self F List.mem_cons_self v hv more hmore
    have hothers : ∀ G ∈ items, ∀ v, G v → Passes next (frame :: frames) v := fun G hG =>
      hitems next (by simp) G (List.mem_cons_of_mem F hG)
    rw [lead, if_pos rfl, hpass, skip_ahead hcomma hnext hothers (stops_cons hclosing rest) hahead,
      hclose, Need.skip_afterValue (hend _ (by simp))]

theorem Skips.passes_value {cs : List Char} (h : Skips cs) (frame : Frame) (frames : List Frame) :
    Passes .value (frame :: frames) cs := fun rest hrest => h.skip rest (frame :: frames) hrest

theorem Skips.passes_firstItem {cs : List Char} (h : Skips cs) (frame : Frame)
    (frames : List Frame) : Passes .firstItem (frame :: frames) cs := by
  intro rest hrest
  rw [← h.passes_value frame frames rest hrest]
  have hopen := h.unclosing rest
  generalize tokens (cs.map some ++ rest) = ts at hopen
  match ts with
  | [] => rfl
  | t :: ts =>
    have hstep : Need.firstItem.step (frame :: frames) t = Need.value.step (frame :: frames) t := by
      cases t
      case endArray => exact absurd rfl (hopen ts hrest)
      all_goals rfl
    rw [Need.skip, Need.skip, hstep]

theorem passes_member {need : Need} (hneed : need ∈ [.firstKey, .key]) {key value : Format}
    (hkey : ∀ k, key k → Quoted k) (hvalue : ∀ v, value v → Skips v) {cs : List Char}
    (h : Format.member key value cs) (frames : List Frame) : Passes need (.object :: frames) cs := by
  intro rest hrest
  obtain ⟨k, before, after, v, hk, hbefore, hafter, hv, rfl⟩ := h
  obtain ⟨wanted, htoken⟩ := tokens_quoted (hkey k hk)
    (before.map some ++ some ':' :: (after.map some ++ (v.map some ++ rest)))
  have hstart : need.step (.object :: frames) (.text wanted (.ok ())) =
      .ok (.colon, .object :: frames) := by
    simp only [List.mem_cons, List.not_mem_nil, or_false] at hneed
    rcases hneed with rfl | rfl
    all_goals rfl
  have hcolon : Need.colon.step (.object :: frames) .colon = .ok (.value, .object :: frames) := rfl
  simp only [List.map_append, List.map_cons, List.append_assoc, List.cons_append]
  rw [htoken, tokens_blanks hbefore, tokens_punctuation rfl rfl, tokens_blanks hafter,
    Need.skip_step hstart nofun, Need.skip_step hcolon nofun]
  exact (hvalue v hv).skip rest _ hrest

/-- A value between brackets, from what comes after the opening one. -/
theorem Skips.of_between {opening closing : Char} {open' : Token} {cs : List Char} {start : Need}
    {frame : Frame} (h : Format.between opening closing items cs)
    (hblank : isBlank opening = false) (hopen : punctuation? opening = some open')
    (hne : open' ≠ .endArray)
    (hstart : ∀ frames, Need.value.step frames open' = .ok (start, frame :: frames))
    (hneed : start ≠ .nothing)
    (hinner : ∀ rest ts frames, Ahead true items (some closing :: rest) ts →
      start.skip (frame :: frames) ts = Need.resume frames (tokens rest)) : Skips cs where
  unclosing rest ts _ := unclosing_between h hblank hopen hne rest ts
  skip rest frames _ := by
    obtain ⟨us, hus, hahead⟩ := exists_ahead hblank hopen h rest
    rw [hus, Need.skip_step (hstart frames) hneed]
    exact hinner rest us frames hahead

/-- **Any value is skipped to its end.** -/
theorem skips_valid {cs : List Char} (h : Valid cs) : Skips cs := by
  induction h with
  | word h => exact .of_token fun rest _ => ⟨_, tokens_word h rest, nofun, fun _ => rfl⟩
  | numeric h =>
    apply Skips.of_token
    intro rest hrest
    obtain ⟨wanted, htoken⟩ := tokens_numeric h hrest
    exact ⟨_, htoken, nofun, fun _ => rfl⟩
  | quoted h =>
    apply Skips.of_token
    intro rest _
    obtain ⟨wanted, htoken⟩ := tokens_quoted h rest
    exact ⟨_, htoken, nofun, fun _ => rfl⟩
  | @array items cs _ h ih =>
    refine .of_between h rfl rfl nofun (fun _ => rfl) nofun ?_
    intro rest ts frames hahead
    refine skip_between .value (by decide) (tokens_punctuation rfl rfl) ?_ rfl nofun ?_
      hahead
    · intro need hneed
      simp only [List.mem_cons, List.not_mem_nil, or_false] at hneed
      rcases hneed with rfl | rfl
      all_goals rfl
    · intro need hneed F hF v hv
      simp only [List.mem_cons, List.not_mem_nil, or_false] at hneed
      rcases hneed with rfl | rfl
      · exact (ih F hF v hv).passes_firstItem .array frames
      · exact (ih F hF v hv).passes_value .array frames
  | @object members cs hkeys _ h ih =>
    refine .of_between h rfl rfl nofun (fun _ => rfl) nofun ?_
    intro rest ts frames hahead
    refine skip_between .key (by decide) (tokens_punctuation rfl rfl) ?_ rfl nofun ?_
      hahead
    · intro need hneed
      simp only [List.mem_cons, List.not_mem_nil, or_false] at hneed
      rcases hneed with rfl | rfl
      all_goals rfl
    · intro need hneed F hF v hv
      obtain ⟨m, hm, rfl⟩ := List.mem_map.1 hF
      exact passes_member hneed (hkeys m hm) (ih m hm) hv frames

end Entitlement.Json
