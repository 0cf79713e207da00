import Enlistment.Text.CombiningClass
import Enlistment.Text.Composition.Table

/-!
Composed text. Characters that look alike can be written in several ways, as one character or as a
letter and marks; composed text takes one of them. Everything is taken apart, the marks behind a
letter are put in the order of their classes, and then letters take up the marks that they can reach.
-/

namespace Enlistment.Text

def isHangulSyllable (code : Nat) : Bool :=
  0xAC00 ≤ code && code < 0xAC00 + 19 * 21 * 28

def hangulParts (code : Nat) : List Char :=
  let index := code - 0xAC00
  let tail := index % 28
  [Char.ofNat (0x1100 + index / (21 * 28)), Char.ofNat (0x1161 + index / 28 % 21)] ++
    if tail = 0 then [] else [Char.ofNat (0x11A7 + tail)]

def composeHangul? (first second : Nat) : Option Char :=
  if 0x1100 ≤ first && first < 0x1100 + 19 && 0x1161 ≤ second && second < 0x1161 + 21 then
    some (Char.ofNat (0xAC00 + ((first - 0x1100) * 21 + (second - 0x1161)) * 28))
  else if isHangulSyllable first && (first - 0xAC00) % 28 == 0 &&
      0x11A7 < second && second < 0x11A7 + 28 then
    some (Char.ofNat (first + (second - 0x11A7)))
  else none

/-- Takes a character apart, and its parts in turn as often as `depth` says. -/
def decompose : Nat → Char → List Char
  | 0, character => [character]
  | depth + 1, character =>
      if isHangulSyllable character.toNat then hangulParts character.toNat
      else
        match decompositions.find? (·.whole == character.toNat) with
        | some entry => entry.parts.flatMap (decompose depth)
        | none => [character]

def decompositionDepth : Nat := 4

/-- Puts a character behind a text, which is given in reverse. A mark goes before marks of higher
classes. -/
def insertMark (character : Char) : List Char → List Char
  | [] => [character]
  | last :: before =>
      if combiningClass character ≠ 0 ∧ combiningClass character < combiningClass last then
        last :: insertMark character before
      else character :: last :: before

def decomposed (text : List Char) : List Char :=
  let parts := text.flatMap (decompose decompositionDepth)
  (parts.foldl (fun before character => insertMark character before) []).reverse

def composePair? (first second : Char) : Option Char :=
  match composeHangul? first.toNat second.toNat with
  | some syllable => some syllable
  | none =>
      (decompositions.find? fun entry => entry.isReversible && entry.parts == [first, second]).map
        fun entry => Char.ofNat entry.whole

/-- Composes what follows a starter. `passed` are the characters behind it, in reverse, that it did not
take up; they block characters of their class and below. -/
def composeFrom (starter : Char) (passed : List Char) : List Char → List Char
  | [] => starter :: passed.reverse
  | next :: rest =>
      let isReached := passed.head?.all fun last => combiningClass last < combiningClass next
      match if isReached then composePair? starter next else none with
      | some composite => composeFrom composite passed rest
      | none =>
          if combiningClass next = 0 then starter :: passed.reverse ++ composeFrom next [] rest
          else composeFrom starter (next :: passed) rest

def compose : List Char → List Char
  | [] => []
  | first :: rest =>
      if combiningClass first = 0 then composeFrom first [] rest else first :: compose rest

def lastInertCode : Nat := 0x2FF

def composed (text : List Char) : List Char :=
  if text.all (·.toNat ≤ lastInertCode) then text else compose (decomposed text)

end Enlistment.Text
