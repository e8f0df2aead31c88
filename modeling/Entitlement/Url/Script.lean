import Entitlement.Text.PrintTable
import Entitlement.Text.Range
import Entitlement.Url.ScriptTable

/-!
# Scripts of domain names

* `Domain.Direction` : how a character runs; `Direction.ofChar`, `Direction.isRight`
  (`Direction.isRight_ofChar`);
* `Domain.runsOneWay` : a part of a name starts and ends in one direction, and has nothing of the
  other; `Domain.direct` : the parts of a name do, if one of them has anything that runs from right
  to left (`direct_of_forall`);
* `Domain.joins` : a joiner stands where letters join; `Domain.areJoined` : all joiners of a part do
  (`areJoined_of_forall`).
-/

namespace Entitlement.Domain
open Text

/-! ## Direction -/

/-- From left to right, from right to left, or as what is around the character does. -/
inductive Direction
  | left
  | right
  | arabicDigit
  | digit
  | neutral
  | mark
  deriving DecidableEq, Repr

/-- A mark that takes no space runs as the letter before it. -/
def Direction.ofChar (c : Char) : Direction :=
  if inRanges rightRanges c.toNat then .right
  else if inRanges arabicDigitRanges c.toNat then .arabicDigit
  else if inRanges digitRanges c.toNat then .digit
  else if inRanges neutralRanges c.toNat then .neutral
  else if inRanges extendingRanges c.toNat &&
      !inRanges (spacedRanges ++ leftMarkRanges) c.toNat then .mark
  else .left

/-- It is only in texts that run from right to left. -/
def Direction.isRight : Direction → Bool
  | .right | .arabicDigit => true
  | _ => false

theorem Direction.isRight_ofChar (c : Char) : (ofChar c).isRight =
    (inRanges rightRanges c.toNat || inRanges arabicDigitRanges c.toNat) := by
  unfold ofChar
  cases inRanges rightRanges c.toNat with
  | true => rfl
  | false =>
    cases inRanges arabicDigitRanges c.toNat with
    | true => rfl
    | false =>
      rw [if_neg Bool.false_ne_true, if_neg Bool.false_ne_true]
      -- whichever of the other tables it is in, it does not run from right to left
      repeat' split
      all_goals rfl

/-- The last character counts that is no mark. -/
def runsOneWay (cs : List Char) : Bool :=
  let directions := cs.map Direction.ofChar
  let last := directions.reverse.find? (· != .mark)
  match directions with
  | [] => true
  | .left :: _ => !directions.any Direction.isRight && last.any ([.left, .digit].contains ·)
  | .right :: _ =>
    !directions.contains .left && last.any ([.right, .digit, .arabicDigit].contains ·) &&
      !(directions.contains .digit && directions.contains .arabicDigit)
  | _ => false

def direct (parts : List (List Char)) : Bool :=
  !parts.any (·.any fun c => (Direction.ofChar c).isRight) || parts.all runsOneWay

/-- A name with nothing that runs from right to left may be mixed. -/
theorem direct_of_forall {parts : List (List Char)}
    (h : ∀ cs ∈ parts, ∀ c ∈ cs, (Direction.ofChar c).isRight = false) : direct parts = true := by
  have hnone : parts.any (·.any fun c => (Direction.ofChar c).isRight) = false :=
    List.any_eq_false.2 fun cs hcs =>
      Bool.eq_false_iff.1 (List.any_eq_false.2 fun c hc => Bool.eq_false_iff.1 (h cs hcs c hc))
  rw [direct, hnone]
  rfl

/-! ## Joiners -/

/-- The zero-width joiners. They are in names although they do not print. -/
def isJoiner (c : Char) : Bool := c.toNat = 0x200C || c.toNat = 0x200D

/-- A sign that letters join across. -/
def isTransparent (c : Char) : Bool :=
  !isJoiner c && inRanges extendingRanges c.toNat && !inRanges spacedRanges c.toNat ||
    c.toNat = 0x1E94B

/-- A joiner follows a vowel that was taken away. The one that keeps letters apart may also stand
between two that join. Of what is before it, the nearest comes first. -/
def joins (before : List Char) (c : Char) (after : List Char) : Bool :=
  before.head?.any (fun v => inRanges viramaRanges v.toNat) ||
    c.toNat = 0x200C &&
      (before.dropWhile isTransparent).head?.any (fun l => inRanges joinsNextRanges l.toNat) &&
      (after.dropWhile isTransparent).head?.any (fun l => inRanges joinsPreviousRanges l.toNat)

def areJoined (before : List Char) : List Char → Bool
  | [] => true
  | c :: cs => (!isJoiner c || joins before c cs) && areJoined (c :: before) cs

theorem areJoined_of_forall {before cs : List Char} (h : ∀ c ∈ cs, isJoiner c = false) :
    areJoined before cs = true := by
  induction cs generalizing before with
  | nil => rfl
  | cons c cs ih =>
    rw [areJoined, h c List.mem_cons_self, ih fun d hd => h d (List.mem_cons_of_mem _ hd)]
    rfl

end Entitlement.Domain
