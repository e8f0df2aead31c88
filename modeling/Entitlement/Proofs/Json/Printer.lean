import Entitlement.Json.Printer
import Entitlement.Proofs.Json.Spelling

/-!
# What is written is JSON

* `charSpelling_escaped` : a character is written in one of the ways to spell it;
* `text_string`, `array_array`, `record_object` : **a written value has the format of its kind.**
-/

namespace Entitlement.Json

/-! ## Strings -/

theorem hexDigit_digit {n : Nat} (h : n < 16) : HexDigit n (Text.digit n) := ⟨h, .inl rfl⟩

theorem charSpelling_escaped (c : Char) : CharSpelling c (escaped c) := by
  unfold escaped
  iterate 7
    split
    · next h =>
      subst h
      exact .short (by decide)
  split
  · next hcontrol =>
    have hzero : HexDigit 0 '0' := hexDigit_digit (by decide)
    have hlong := LongEscape.mk hzero hzero
      (hexDigit_digit (n := c.toNat / 16) (by omega)) (hexDigit_digit (n := c.toNat % 16) (by omega))
    have hcode : ((0 * 16 + 0) * 16 + c.toNat / 16) * 16 + c.toNat % 16 = c.toNat := by omega
    rw [hcode] at hlong
    exact .long hlong
  · next hquote hbackslash _ _ _ _ _ hprints =>
    exact .bare ⟨hquote, hbackslash, Nat.le_of_not_lt hprints⟩

theorem text_string (s : String) : Format.text s (string s) := by
  refine ⟨s.toList.map escaped, ?_, ?_⟩
  · rw [List.forall₂_map_right_iff, List.forall₂_same]
    exact fun c _ => charSpelling_escaped c
  · rw [← List.flatMap_def]
    rfl

/-! ## Lists and objects -/

variable {items : List Format} {vs : List (List Char)}

theorem blanks_nil : Blanks [] := nofun

/-- Without blanks around it. -/
theorem alone_self {F : Format} {cs : List Char} (h : F cs) : F.alone cs := by
  have hone := Spaced.one blanks_nil h blanks_nil
  rwa [List.append_nil] at hone

theorem spaced_separated {F : Format} {v : List Char} (hv : F v)
    (h : List.Forall₂ (fun F v => F v) items vs) : Spaced (F :: items) (separated (v :: vs)) := by
  induction h generalizing F v with
  | nil => exact alone_self hv
  | cons hw _ ih => exact .cons blanks_nil hv blanks_nil (ih hw)

/-- Values one after the other are between their brackets. -/
theorem between_separated (opening closing : Char) (h : List.Forall₂ (fun F v => F v) items vs) :
    Format.between opening closing items (opening :: (separated vs ++ [closing])) := by
  cases h with
  | nil => exact ⟨[], .inl ⟨rfl, blanks_nil⟩, rfl⟩
  | cons hv h => exact ⟨_, .inr (spaced_separated hv h), rfl⟩

theorem array_array (h : List.Forall₂ (fun F v => F v) items vs) : Format.array items (array vs) :=
  between_separated '[' ']' h

/-- A list of values that are all written in one way. -/
theorem array_map {α : Type} {format : α → Format} {render : α → List Char}
    (h : ∀ a, format a (render a)) (l : List α) :
    Format.array (l.map format) (array (l.map render)) := by
  refine array_array ?_
  rw [List.forall₂_map_left_iff, List.forall₂_map_right_iff, List.forall₂_same]
  exact fun a _ => h a

theorem array_strings (l : List String) : Format.array (l.map .text) (strings l) :=
  array_map text_string l

theorem member_member (key : String) {F : Format} {v : List Char} (hv : F v) :
    Format.member (.text key) F (member (key, v)) :=
  ⟨string key, [], [], v, text_string key, blanks_nil, blanks_nil, hv, rfl⟩

theorem record_object {ms : List (String × Format)} {vs : List (String × List Char)}
    (h : List.Forall₂ (fun m v => m.1 = v.1 ∧ m.2 v.2) ms vs) : Format.record ms (object vs) := by
  refine between_separated '{' '}' ?_
  rw [List.map_map, List.forall₂_map_left_iff, List.forall₂_map_right_iff]
  apply h.imp
  intro m v hm
  obtain ⟨key, F⟩ := m
  obtain ⟨rfl, hvalue⟩ := hm
  exact member_member v.1 hvalue

end Entitlement.Json
