import ModuleBundler.Regex.CharacterSet

/-!
# Regular expressions and what they match

An expression relates a place of a text to the places where a match that starts there can end.
Repetition is the closure of one step; since a match never goes back, the closure is reached after
as many rounds as the text has places.
-/

namespace ModuleBundler.Regex

/-- A condition on a place. -/
inductive Assertion where
  | textStart
  | textEnd
  /-- `returns` tells whether a carriage return ends a line too. -/
  | lineStart (returns : Bool)
  | lineEnd (returns : Bool)
  | boundary (word : CharacterSet)
  | inside (word : CharacterSet)
  | wordStart (word : CharacterSet)
  | wordEnd (word : CharacterSet)
  | wordStartHalf (word : CharacterSet)
  | wordEndHalf (word : CharacterSet)

inductive Expression where
  | empty
  | character (set : CharacterSet)
  | assertion (a : Assertion)
  | sequence (a b : Expression)
  | either (a b : Expression)
  | repeated (e : Expression) (least : Nat) (most : Option Nat)
  deriving Inhabited

/-- Whether a condition holds between the characters at both sides of a place, if there are any. -/
def Assertion.holds : Assertion → Option Char → Option Char → Bool
  | .textStart, before, _ => before.isNone
  | .textEnd, _, after => after.isNone
  | .lineStart returns, before, after =>
    match before with
    | none => true
    | some c => c == '\n' || (returns && c == '\r' && after != some '\n')
  | .lineEnd returns, before, after =>
    match after with
    | none => true
    | some c =>
      if returns then c == '\r' || (c == '\n' && before != some '\r') else c == '\n'
  | .boundary word, before, after => before.any word.contains != after.any word.contains
  | .inside word, before, after => before.any word.contains == after.any word.contains
  | .wordStart word, before, after => !before.any word.contains && after.any word.contains
  | .wordEnd word, before, after => before.any word.contains && !after.any word.contains
  | .wordStartHalf word, before, _ => !before.any word.contains
  | .wordEndHalf word, _, after => !after.any word.contains

/-- Places of a text, in order and without repetition. -/
abbrev Places := List Nat

def mergePlaces (a b : Places) : Places := (a ++ b.filter fun i => !a.contains i).mergeSort

/-- Adds what `step` reaches until nothing new is reached, at most `rounds` times. -/
def closure (step : Places → Places) : Nat → Places → Places
  | 0, reached => reached
  | rounds + 1, reached =>
    let next := mergePlaces reached (step reached)
    if next == reached then reached else closure step rounds next

/-- Takes `count` steps, or fewer if no place is left. -/
def iterate (step : Places → Places) : Nat → Places → Places
  | 0, from_ => from_
  | count + 1, from_ => if from_.isEmpty then [] else iterate step count (step from_)

namespace Expression

/-- Where the matches that start at one of the given places can end. -/
def ends (text : Array Char) : Expression → Places → Places
  | .empty, from_ => from_
  | .character set, from_ =>
    from_.filterMap fun i => if text[i]?.any set.contains then some (i + 1) else none
  | .assertion a, from_ =>
    from_.filter fun i => a.holds (if i = 0 then none else text[i - 1]?) text[i]?
  | .sequence a b, from_ => ends text b (ends text a from_)
  | .either a b, from_ => mergePlaces (ends text a from_) (ends text b from_)
  | .repeated e least most, from_ =>
    let start := iterate (ends text e) least from_
    match most with
    | none => closure (ends text e) (text.size + 1) start
    | some most => closure (ends text e) (min (most - least) (text.size + 1)) start

/-- Whether some part of the text matches. -/
def matchesIn (e : Expression) (text : String) : Bool :=
  let text := text.toList.toArray
  !(ends text e (List.range (text.size + 1))).isEmpty

def ofSequence (es : List Expression) : Expression :=
  match es with
  | [] => .empty
  | [e] => e
  | e :: r => .sequence e (ofSequence r)

/-- How many characters an expression has once its repetitions are written out. -/
def weight : Expression → Nat
  | .empty | .assertion _ => 1
  | .character _ => 1
  | .sequence a b | .either a b => a.weight + b.weight + 1
  | .repeated e least most => e.weight * max 1 (most.getD (least + 1)) + 1

end Expression

end ModuleBundler.Regex
