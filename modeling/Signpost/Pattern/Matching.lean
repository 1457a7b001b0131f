import Signpost.Pattern.Basic

/-!
# Matching patterns

`Pattern.ends` gives the places at which a match that starts at a place may end. A repetition is
followed up round by round; as a round that leaves its place is nearer to the end of the text, there are
no more new places after as many rounds as there are characters left.
-/

namespace Signpost

namespace Pattern

/-- The places after so many rounds. -/
def after (round : Place → List Place) : Nat → List Place → List Place
  | 0, ps => ps
  | n + 1, ps => after round n (ps.flatMap round).eraseDups

/-- The places after at most so many rounds. -/
def within (round : Place → List Place) : Nat → List Place → List Place
  | 0, ps => ps
  | n + 1, ps => within round n (ps ++ ps.flatMap round).eraseDups

/-- Where a match that starts at a place may end. -/
def ends : Pattern → Place → List Place
  | empty, p => [p]
  | one s, p =>
    match p.after with
    | c :: cs => if s.contains c then [⟨some c, cs⟩] else []
    | [] => []
  | assert a, p => if a.holds p then [p] else []
  | seq x y, p => ((ends x p).flatMap (ends y)).eraseDups
  | alt x y, p => (ends x p ++ ends y p).eraseDups
  | times x least most, p =>
    let start := after (ends x) least [p]
    match most with
    | none => within (ends x) p.after.length start
    | some n => within (ends x) (min (n - least) p.after.length) start

/-- The places of a text from a place on. -/
def placesFrom (before : Option Char) : List Char → List Place
  | [] => [⟨before, []⟩]
  | c :: cs => ⟨before, c :: cs⟩ :: placesFrom (some c) cs

/-- Whether a part of a text matches. -/
def isMatch (p : Pattern) (s : String) : Bool :=
  (placesFrom none s.toList).any fun place => !(p.ends place).isEmpty

end Pattern

end Signpost
