import Enlistment.Text.CombiningClass
import Enlistment.Text.Direction
import Enlistment.Text.Joining

/-!
What a label of a domain name has to keep to: it starts with no mark, joiners stand only where they
show, and in a name that has text from right to left every label runs one way.
-/

namespace Enlistment.Url

open Text

def isJoiner (character : Char) : Bool :=
  character == '\u200C' || character == '\u200D'

def meetsJoining (isOfKind : Char → Bool) (text : List Char) : Bool :=
  (text.dropWhile isTransparent).head?.any isOfKind

/-- Whether a joiner may stand between two texts; the one before it is given in reverse. Both joiners
may follow a virama, and the one that keeps letters apart may stand between letters that would join. -/
def isJoinerInPlace (joiner : Char) (before rest : List Char) : Bool :=
  before.head?.any isVirama ||
    (joiner == '\u200C' && meetsJoining joinsNext before && meetsJoining joinsPrevious rest)

def areJoinersInPlace (before : List Char) : List Char → Bool
  | [] => true
  | character :: rest =>
      (!isJoiner character || isJoinerInPlace character before rest) &&
        areJoinersInPlace (character :: before) rest

def isSoundLabel (label : List Char) : Bool :=
  !label.head?.any isMark && areJoinersInPlace [] label

def isBidirectional (text : List Char) : Bool :=
  text.any fun character => [.rightToLeft, .arabicNumber].contains (direction character)

def runsLeftToRight (directions : List Direction) : Bool :=
  let ending := directions.reverse.dropWhile (· == .mark)
  directions.head? == some .leftToRight &&
    !directions.any ([Direction.rightToLeft, .arabicNumber].contains ·) &&
    ending.head?.any ([Direction.leftToRight, .europeanNumber].contains ·)

def runsRightToLeft (directions : List Direction) : Bool :=
  let ending := directions.reverse.dropWhile (· == .mark)
  directions.head? == some .rightToLeft &&
    !directions.contains .leftToRight &&
    !(directions.contains .europeanNumber && directions.contains .arabicNumber) &&
    ending.head?.any ([Direction.rightToLeft, .europeanNumber, .arabicNumber].contains ·)

def runsOneWay (label : List Char) : Bool :=
  let directions := label.map direction
  label.isEmpty || runsLeftToRight directions || runsRightToLeft directions

end Enlistment.Url
