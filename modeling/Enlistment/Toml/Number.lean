import Enlistment.Text.Ascii
import Enlistment.Toml.Value

/-!
Numbers, dates and times of TOML. A number may have underscores between its digits. Readers take the
text before them from the start of a list and give back the rest.
-/

namespace Enlistment.Toml

open Enlistment.Text (isHexDigit valueOf)

abbrev Reader (α : Type) := List Char → Option (α × List Char)

def moreDigits (isDigit : Char → Bool) : List Char → Option (List Char × List Char)
  | '_' :: next :: rest =>
      if isDigit next then (moreDigits isDigit rest).map fun (digits, rest) => (next :: digits, rest)
      else none
  | '_' :: [] => none
  | next :: rest =>
      if isDigit next then (moreDigits isDigit rest).map fun (digits, rest) => (next :: digits, rest)
      else some ([], next :: rest)
  | [] => some ([], [])

def digits (isDigit : Char → Bool) : Reader (List Char)
  | first :: rest =>
      if isDigit first then (moreDigits isDigit rest).map fun (more, rest) => (first :: more, rest)
      else none
  | [] => none

def decimalDigits : Reader (List Char)
  | '0' :: rest => some (['0'], rest)
  | input => digits Char.isDigit input

def sign : List Char → Bool × List Char
  | '-' :: rest => (true, rest)
  | '+' :: rest => (false, rest)
  | input => (false, input)

def boundedInteger (value : Int) : Option Toml :=
  if -0x8000000000000000 ≤ value ∧ value < 0x8000000000000000 then some (.integer value) else none

def basedInteger (base : Nat) (isDigit : Char → Bool) (input : List Char) : Option (Toml × List Char) := do
  let (found, rest) ← digits isDigit input
  pure (← boundedInteger (valueOf base found), rest)

def readInteger : Reader Toml
  | '0' :: 'x' :: rest => basedInteger 16 isHexDigit rest
  | '0' :: 'o' :: rest => basedInteger 8 (fun digit => '0' ≤ digit && digit ≤ '7') rest
  | '0' :: 'b' :: rest => basedInteger 2 (fun digit => digit == '0' || digit == '1') rest
  | input => do
      let (isNegative, unsigned) := sign input
      let (found, rest) ← decimalDigits unsigned
      let value := valueOf 10 found
      pure (← boundedInteger (if isNegative then -value else value), rest)

def exponent : List Char → Option (Option Int × List Char)
  | mark :: rest =>
      if mark == 'e' || mark == 'E' then do
        let (isNegative, unsigned) := sign rest
        let (found, rest) ← digits Char.isDigit unsigned
        let value : Int := valueOf 10 found
        pure (some (if isNegative then -value else value), rest)
      else some (none, mark :: rest)
  | [] => some (none, [])

def fraction : List Char → Option (Option (List Char) × List Char)
  | '.' :: rest => (digits Char.isDigit rest).map fun (found, rest) => (some found, rest)
  | input => some (none, input)

/-- Whether `digits * 10 ^ power` is too large for a float of 64 bits: not below the number halfway
between the largest one and the next power of two. -/
def exceedsFloats (digits : Nat) (power : Int) : Bool :=
  if digits = 0 then false
  else
    let magnitude := (Nat.toDigits 10 digits).length + power
    if magnitude < 300 then false
    else if 320 < magnitude then true
    else
      let bound := Nat.pow 2 1024 - Nat.pow 2 970
      decide (bound * Nat.pow 10 (-power).toNat ≤ digits * Nat.pow 10 power.toNat)

def specialFloat : List Char → Option (List Char)
  | 'i' :: 'n' :: 'f' :: rest => some rest
  | 'n' :: 'a' :: 'n' :: rest => some rest
  | _ => none

def readFloat (input : List Char) : Option (Toml × List Char) :=
  let (isNegative, unsigned) := sign input
  match specialFloat unsigned with
  | some rest => some (.float, rest)
  | none => do
      let (whole, rest) ← decimalDigits unsigned
      let (after, rest) ← fraction rest
      let (scale, rest) ← exponent rest
      if after.isNone && scale.isNone then none
      else
        let shown := after.getD []
        if !isNegative && exceedsFloats (valueOf 10 (whole ++ shown)) (scale.getD 0 - shown.length) then
          none
        else some (.float, rest)

def fixedDigits (count : Nat) (input : List Char) : Option (Nat × List Char) :=
  let found := input.take count
  if found.length = count ∧ found.all Char.isDigit then some (valueOf 10 found, input.drop count)
  else none

def expect (character : Char) : List Char → Option (List Char)
  | next :: rest => if next = character then some rest else none
  | [] => none

def twoDigits (least most : Nat) (input : List Char) : Option (Nat × List Char) := do
  let (value, rest) ← fixedDigits 2 input
  if least ≤ value ∧ value ≤ most then pure (value, rest) else none

def daysOfMonth (year month : Nat) : Nat :=
  if month = 2 then
    if year % 4 = 0 ∧ (year % 100 ≠ 0 ∨ year % 400 = 0) then 29 else 28
  else if month = 4 ∨ month = 6 ∨ month = 9 ∨ month = 11 then 30
  else 31

def date (input : List Char) : Option (List Char) := do
  let (year, rest) ← fixedDigits 4 input
  let (month, rest) ← twoDigits 1 12 (← expect '-' rest)
  let (_, rest) ← twoDigits 1 (daysOfMonth year month) (← expect '-' rest)
  pure rest

def secondFraction (input : List Char) : List Char :=
  match input with
  | '.' :: next :: rest => if next.isDigit then rest.dropWhile Char.isDigit else input
  | _ => input

def time (input : List Char) : Option (List Char) := do
  let (_, rest) ← twoDigits 0 23 input
  let (_, rest) ← twoDigits 0 59 (← expect ':' rest)
  let (_, rest) ← twoDigits 0 60 (← expect ':' rest)
  pure (secondFraction rest)

def hoursAndMinutes (input : List Char) : Option (List Char) := do
  let (_, rest) ← twoDigits 0 23 input
  let (_, rest) ← twoDigits 0 59 (← expect ':' rest)
  pure rest

def offset (input : List Char) : List Char :=
  match input with
  | mark :: rest =>
      if mark == 'Z' || mark == 'z' then rest
      else if mark == '+' || mark == '-' then (hoursAndMinutes rest).getD input
      else input
  | [] => input

def timeAfterDate (input : List Char) : List Char :=
  match input with
  | mark :: rest =>
      if mark == 'T' || mark == 't' || mark == ' ' then ((time rest).map offset).getD input else input
  | [] => input

def readDateTime (input : List Char) : Option (Toml × List Char) :=
  match date input with
  | some rest => some (.dateTime, timeAfterDate rest)
  | none => (time input).map fun rest => (.dateTime, rest)

def number (input : List Char) : Option (Toml × List Char) :=
  (readDateTime input).orElse fun _ => (readFloat input).orElse fun _ => readInteger input

end Enlistment.Toml
