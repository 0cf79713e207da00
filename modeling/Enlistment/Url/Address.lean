import Enlistment.Text.Ascii

/-!
Addresses as numbers: four bytes, of which the last part of the text may fill several, or eight
groups of sixteen bits, of which one run of zeros may be left out.
-/

namespace Enlistment.Url

def addressPart? (text : List Char) : Option Nat :=
  match text with
  | [] => none
  | ['0'] => some 0
  | '0' :: 'x' :: digits =>
      if digits.all Text.isHexDigit then some (Text.valueOf 16 digits) else none
  | '0' :: 'X' :: digits =>
      if digits.all Text.isHexDigit then some (Text.valueOf 16 digits) else none
  | '0' :: digits =>
      if digits.all fun digit => '0' ≤ digit && digit ≤ '7' then some (Text.valueOf 8 digits)
      else none
  | digits => if digits.all Char.isDigit then some (Text.valueOf 10 digits) else none

def addressParts (name : List Char) : List (List Char) :=
  let parts := name.splitOn '.'
  if parts.getLast? = some [] then parts.dropLast else parts

def endsInNumber (name : List Char) : Bool :=
  match (addressParts name).getLast? with
  | none => false
  | some part => (!part.isEmpty && part.all Char.isDigit) || (addressPart? part).isSome

def parseIPv4? (name : List Char) : Option Nat := do
  let parts := addressParts name
  if 4 < parts.length then none
  else
    let numbers ← parts.mapM addressPart?
    let last ← numbers.getLast?
    let leading := numbers.dropLast
    let room := Nat.pow 256 (4 - leading.length)
    if leading.all (· ≤ 255) ∧ last < room then
      pure (leading.foldl (fun value byte => value * 256 + byte) 0 * room + last)
    else none

def renderIPv4 (address : Nat) : String :=
  ".".intercalate ([3, 2, 1, 0].map fun place => toString (address / Nat.pow 256 place % 256))

def group? (text : List Char) : Option Nat :=
  if 0 < text.length ∧ text.length ≤ 4 ∧ text.all Text.isHexDigit then some (Text.valueOf 16 text)
  else none

def decimalByte? (text : List Char) : Option Nat :=
  if 0 < text.length ∧ text.length ≤ 3 ∧ text.all Char.isDigit ∧
      (text.length = 1 ∨ text.head? ≠ some '0') ∧ Text.valueOf 10 text ≤ 255 then
    some (Text.valueOf 10 text)
  else none

def lastGroups? (text : List Char) : Option (List Nat) :=
  if text.contains '.' then
    match (text.splitOn '.').mapM decimalByte? with
    | some [first, second, third, fourth] => some [first * 256 + second, third * 256 + fourth]
    | _ => none
  else (group? text).map ([·])

def groups? (isEnd : Bool) (text : List Char) : Option (List Nat) :=
  if text.isEmpty then some []
  else
    let parts := text.splitOn ':'
    if isEnd then do
      let leading ← parts.dropLast.mapM group?
      pure (leading ++ (← lastGroups? (← parts.getLast?)))
    else parts.mapM group?

def splitAtGap : List Char → Option (List Char × List Char)
  | ':' :: ':' :: rest => some ([], rest)
  | character :: rest =>
      (splitAtGap rest).map fun (before, behind) => (character :: before, behind)
  | [] => none

def parseIPv6? (text : List Char) : Option (List Nat) :=
  match splitAtGap text with
  | some (before, behind) => do
      let leading ← groups? false before
      let trailing ← groups? true behind
      let known := leading.length + trailing.length
      if known ≤ 7 then pure (leading ++ List.replicate (8 - known) 0 ++ trailing) else none
  | none => do
      let groups ← groups? true text
      if groups.length = 8 then pure groups else none

def zerosAtStart (groups : List Nat) : Nat :=
  (groups.takeWhile (· == 0)).length

/-- The longest run of zeros, the first of several, as its position and length. -/
def longestZeros (position : Nat) : List Nat → Nat × Nat
  | [] => (position, 0)
  | group :: rest =>
      let here := zerosAtStart (group :: rest)
      let later := longestZeros (position + 1) rest
      if later.2 ≤ here then (position, here) else later

def joinGroups (groups : List Nat) : String :=
  ":".intercalate (groups.map Text.hexadecimal)

def renderIPv6 (groups : List Nat) : String :=
  let (position, length) := longestZeros 0 groups
  if 2 ≤ length then
    joinGroups (groups.take position) ++ "::" ++ joinGroups (groups.drop (position + length))
  else joinGroups groups

end Enlistment.Url
