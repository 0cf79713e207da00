import Enlistment.Url.PercentEncoding

/-!
Paths as segments, each behind a slash. Single dots and double dots are resolved while a path is
read, whether their dots are encoded or not.
-/

namespace Enlistment.Url

def dropDot? : List Char → Option (List Char)
  | '.' :: rest => some rest
  | '%' :: '2' :: 'e' :: rest => some rest
  | '%' :: '2' :: 'E' :: rest => some rest
  | _ => none

def isSingleDot (segment : List Char) : Bool :=
  dropDot? segment == some []

def isDoubleDot (segment : List Char) : Bool :=
  (dropDot? segment).bind dropDot? == some []

def isDriveLetter : List Char → Bool
  | [letter, mark] => letter.isAlpha && (mark == ':' || mark == '|')
  | _ => false

def startsWithDriveLetter : List Char → Bool
  | letter :: mark :: '\\' :: _ => isDriveLetter [letter, mark]
  | segment => isDriveLetter segment

/-- The segments but for the last, given in reverse. A drive is never left. -/
def leaveSegment : List (List Char) → List (List Char)
  | [] => []
  | segment :: rest => if startsWithDriveLetter segment then segment :: rest else rest

def driveForm : List Char → List Char
  | [letter, '|'] => if letter.isAlpha then [letter, ':'] else [letter, '|']
  | segment => segment

def segmentForm (isFile isFirst : Bool) (segment : List Char) : List Char :=
  let form := percentEncode inPathSet segment
  if isFile && isFirst then driveForm form else form

/-- Resolves segments; `kept` holds the ones before, in reverse. A path that ends in dots ends in a
slash. -/
def resolveSegments (isFile : Bool) (kept : List (List Char)) :
    List (List Char) → List (List Char)
  | [] => kept.reverse
  | [segment] =>
      if isDoubleDot segment then ([] :: leaveSegment kept).reverse
      else if isSingleDot segment then ([] :: kept).reverse
      else (segmentForm isFile kept.isEmpty segment :: kept).reverse
  | segment :: next :: rest =>
      if isDoubleDot segment then resolveSegments isFile (leaveSegment kept) (next :: rest)
      else if isSingleDot segment then resolveSegments isFile kept (next :: rest)
      else resolveSegments isFile (segmentForm isFile kept.isEmpty segment :: kept) (next :: rest)

def dropEmptyStart (segments : List (List Char)) : List (List Char) :=
  match segments.dropWhile List.isEmpty with
  | [] => [[]]
  | rest => rest

def resolve (isFile : Bool) (segments : List (List Char)) : List (List Char) :=
  let resolved := resolveSegments isFile [] segments
  if isFile then dropEmptyStart resolved else resolved

end Enlistment.Url
