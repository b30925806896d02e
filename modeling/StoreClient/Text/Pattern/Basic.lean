/-!
# Patterns of texts

A pattern describes texts. Where it leaves a choice, the ways in which it can take the front of a
text have an order: those by an earlier alternative go before those by a later one, and those that
take more repetitions before those that take fewer, or the other way round for a lazy repetition.
`Pattern.ends` lists where the ways end, the preferred one first.

A pattern is sought from the front of a text on. What is found begins at the first position at which
there is a way, and is what the preferred way takes. A pattern accepts a text if what is found is at
the end of the text; in front of it there may be anything.
-/

namespace StoreClient.Text

/-- A condition on the place between two characters. -/
inductive Place where
  /-- The start of the text. -/
  | start
  /-- The end of the text. -/
  | finish
  /-- The start of a line; a line may end with a carriage return too. -/
  | lineStart (carriageReturn : Bool)
  /-- The end of a line; a line may end with a carriage return too. -/
  | lineFinish (carriageReturn : Bool)
  /-- The start of a word. -/
  | wordStart
  /-- The end of a word. -/
  | wordFinish
  /-- The start or the end of a word. -/
  | wordEdge
  /-- Neither the start nor the end of a word. -/
  | noWordEdge
deriving DecidableEq, Repr

/-- A letter or digit of ASCII or an underscore, of which words consist. -/
def isWordChar (c : Char) : Bool := c.isAlphanum || c = '_'

/-- Whether a place between two characters, if there are any, meets a condition. -/
def Place.isAt (p : Place) (before after : Option Char) : Bool :=
  let inWord (c : Option Char) : Bool := c.any isWordChar
  match p with
  | .start => before.isNone
  | .finish => after.isNone
  | .lineStart false => before.all (· == '\n')
  | .lineStart true => before.all fun c => c == '\n' || (c == '\r' && after != some '\n')
  | .lineFinish false => after.all (· == '\n')
  | .lineFinish true => after.all fun c => c == '\r' || (c == '\n' && before != some '\r')
  | .wordStart => !inWord before && inWord after
  | .wordFinish => inWord before && !inWord after
  | .wordEdge => inWord before != inWord after
  | .noWordEdge => inWord before == inWord after

/-- A pattern. -/
inductive Pattern where
  /-- Nothing. -/
  | empty
  /-- One character that passes a test. -/
  | one (test : Char → Bool)
  /-- Nothing, at a certain place. -/
  | place (p : Place)
  /-- One pattern and then another. -/
  | followed (first second : Pattern)
  /-- One pattern or another. -/
  | either (first second : Pattern)
  /-- A pattern or nothing. -/
  | optional (isLazy : Bool) (p : Pattern)
  /-- A pattern once or more often. -/
  | repeated (isLazy : Bool) (p : Pattern)

namespace Pattern

/-- Where the repetitions of a step end that begin at a position, and at each of the next `count`
positions. Each repetition but the last goes on from where the step led, if that is further on. -/
def repeatedEnds (isLazy : Bool) (step : Nat → List Nat) :
    (count : Nat) → (position : Nat) → List (List Nat)
  | 0, i => [((step i).filter (· == i)).eraseDups]
  | count + 1, i =>
    let further := repeatedEnds isLazy step count (i + 1)
    let goOn (j : Nat) : List Nat :=
      if j ≤ i then [i]
      else
        let more := further.getD (j - (i + 1)) []
        if isLazy then j :: more else more ++ [j]
    ((step i).flatMap goOn).eraseDups :: further

/-- The positions at which the ways end in which a pattern takes characters of a text from a
position on, the preferred way first. -/
def ends (text : List Char) : Pattern → (position : Nat) → List Nat
  | .empty, i => [i]
  | .one test, i => if text[i]?.any test then [i + 1] else []
  | .place p, i =>
    if p.isAt (if i = 0 then none else text[i - 1]?) text[i]? then [i] else []
  | .followed p q, i => ((ends text p i).flatMap (ends text q)).eraseDups
  | .either p q, i => (ends text p i ++ ends text q i).eraseDups
  | .optional isLazy p, i => (if isLazy then i :: ends text p i else ends text p i ++ [i]).eraseDups
  | .repeated isLazy p, i => (repeatedEnds isLazy (ends text p) (text.length - i) i).headD []

/-- Where that ends which is found first in a text. -/
def foundEnd? (p : Pattern) (text : List Char) : Option Nat :=
  (List.range (text.length + 1)).findSome? fun i => (p.ends text i).head?

/-- Whether what is found first in a text is at its end. -/
def accepts (p : Pattern) (text : String) : Bool :=
  p.foundEnd? text.toList == some text.toList.length

end Pattern

end StoreClient.Text
