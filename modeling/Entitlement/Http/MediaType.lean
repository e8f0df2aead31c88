import Entitlement.Text.Digits

/-!
# Media types

* `MediaType` : the type, the subtype and its suffix, in lower case; `MediaType.parse?` reads a
  header's value, whose parameters have to be well formed;
* `MediaType.isJson` : the types of JSON bodies.
-/

namespace Entitlement

structure MediaType where
  type : String
  subtype : String
  suffix : Option String
  deriving DecidableEq, Repr

namespace MediaType

def isToken (c : Char) : Bool :=
  c.isAlphanum || "!#$%&'*+-.^_|~".toList.contains c || c.toNat == 0x60

/-- A character that may stand between quotes. -/
def isQuotable (c : Char) : Bool := 31 < c.toNat && c.toNat != 127

/-- What follows the value of a parameter, if the value is well formed: a token, or a text between
quotes that is not empty. A token that is empty has to be the last one. -/
def afterValue (cs : List Char) : Option (List Char) :=
  match cs with
  | '"' :: c :: rest =>
    let content := rest.takeWhile (· ≠ '"')
    match rest.dropWhile (· ≠ '"') with
    | _ :: rest =>
      if (c :: content).all isQuotable then
        match rest.dropWhile (· = ' ') with
        | ';' :: rest => some rest
        | [] => some []
        | _ => none
      else none
    | [] => none
  | cs =>
    match cs.dropWhile isToken with
    | [] => some []
    | ';' :: rest => if (cs.takeWhile isToken).isEmpty then none else some rest
    | _ => none

/-- What follows the first parameter, if it is well formed. -/
def afterParameter (cs : List Char) : Option (List Char) :=
  match cs.dropWhile isToken with
  | '=' :: rest => if (cs.takeWhile isToken).isEmpty then none else afterValue rest
  | _ => none

theorem length_dropWhile_le (p : Char → Bool) (cs : List Char) :
    (cs.dropWhile p).length ≤ cs.length := (List.dropWhile_suffix p).length_le

theorem length_of_afterValue {cs r : List Char} (h : afterValue cs = some r) :
    r.length ≤ cs.length := by
  unfold afterValue at h
  split at h
  · next c rest =>
    have h₁ := length_dropWhile_le (· ≠ '"') rest
    dsimp only at h
    split at h
    · next rest₁ h₂ =>
      have h₃ := length_dropWhile_le (· = ' ') rest₁
      rw [h₂] at h₁
      split at h
      · split at h
        · next h₄ => cases h; rw [h₄] at h₃; simp only [List.length_cons] at *; omega
        · cases h; simp
        · cases h
      · cases h
    · cases h
  · have h₁ := length_dropWhile_le isToken cs
    split at h
    · cases h; simp
    · next h₂ =>
      rw [h₂] at h₁
      split at h
      · cases h
      · cases h; simp only [List.length_cons] at h₁; omega
    · cases h

theorem length_of_afterParameter {cs r : List Char} (h : afterParameter cs = some r) :
    r.length < cs.length := by
  unfold afterParameter at h
  have h₁ := length_dropWhile_le isToken cs
  split at h
  · next h₂ =>
    rw [h₂] at h₁
    split at h
    · cases h
    · have := length_of_afterValue h
      simp only [List.length_cons] at h₁
      omega
  · cases h

/-- Parameters that are well formed, each after any number of spaces. -/
def parametersOk (cs : List Char) : Bool :=
  match cs with
  | [] => true
  | ' ' :: rest => parametersOk rest
  | c :: rest =>
    match _h : afterParameter (c :: rest) with
    | some r => parametersOk r
    | none => false
termination_by cs.length
decreasing_by
  · simp
  · exact length_of_afterParameter _h

def lowered (cs : List Char) : String := String.ofList (cs.map Char.toLower)

/-- A subtype is cut at its last plus sign, unless it starts there. -/
def cutSuffix (cs : List Char) : List Char × Option (List Char) :=
  let back := cs.reverse
  let suffix := (back.takeWhile (· ≠ '+')).reverse
  match (back.dropWhile (· ≠ '+')).drop 1 with
  | [] => (cs, none)
  | stem => (stem.reverse, some suffix)

def parse? (s : String) : Option MediaType :=
  let type := s.toList.takeWhile isToken
  match s.toList.dropWhile isToken with
  | '/' :: rest =>
    let subtype := rest.takeWhile isToken
    let (stem, suffix) := cutSuffix subtype
    let found := some ⟨lowered type, lowered stem, suffix.map lowered⟩
    if type.isEmpty then none
    else match rest.dropWhile isToken with
      | [] => found
      | ';' :: parameters =>
        if !subtype.isEmpty && parametersOk parameters then found else none
      | _ => none
  | _ => none

def isJson (m : MediaType) : Bool :=
  m.type == "application" && (m.subtype == "json" || m.suffix == some "json")

end MediaType

end Entitlement
