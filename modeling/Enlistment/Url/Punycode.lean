/-!
Names outside of ASCII in ASCII: the ASCII characters, a hyphen, and then for every other character,
in the order of their codes, where it goes, as numbers in base 36 whose digits have moving bounds.
-/

namespace Enlistment.Url.Punycode

def base : Nat := 36

def threshold (weight bias : Nat) : Nat :=
  if weight ≤ bias + 1 then 1 else min 26 (weight - bias)

def digitCharacter (digit : Nat) : Char :=
  if digit < 26 then Char.ofNat ('a'.toNat + digit) else Char.ofNat ('0'.toNat + (digit - 26))

def digitValue? (character : Char) : Option Nat :=
  if character.isDigit then some (character.toNat - '0'.toNat + 26)
  else if character.isAlpha then some (character.toLower.toNat - 'a'.toNat)
  else none

def settle (weight distance : Nat) : Nat × Nat :=
  if 455 < distance then settle (weight + base) (distance / 35) else (weight, distance)
termination_by distance

def adapt (isFirst : Bool) (distance written : Nat) : Nat :=
  let damped := if isFirst then distance / 700 else distance / 2
  let (weight, rest) := settle 0 (damped + damped / written)
  weight + base * rest / (rest + 38)

def digits (bias : Nat) : Nat → Nat → Nat → List Char
  | 0, _, _ => []
  | steps + 1, weight, distance =>
      let bound := threshold weight bias
      if distance < bound then [digitCharacter distance]
      else
        digitCharacter (bound + (distance - bound) % (base - bound)) ::
          digits bias steps (weight + base) ((distance - bound) / (base - bound))

structure Encoder where
  distance : Nat
  bias : Nat
  written : Nat
  output : List Char

def Encoder.pass (basic code : Nat) (encoder : Encoder) (character : Char) : Encoder :=
  if character.toNat < code then { encoder with distance := encoder.distance + 1 }
  else if character.toNat = code then
    { distance := 0
      bias := adapt (encoder.written == basic) encoder.distance (encoder.written + 1)
      written := encoder.written + 1
      output := encoder.output ++
        digits encoder.bias (encoder.distance + 1) base encoder.distance }
  else encoder

def Encoder.writeAll (label : List Char) (basic : Nat) (encoder : Encoder) (least : Nat) :
    List Nat → List Char
  | [] => encoder.output
  | code :: rest =>
      let ready := { encoder with
        distance := encoder.distance + (code - least) * (encoder.written + 1) }
      let done := label.foldl (Encoder.pass basic code) ready
      Encoder.writeAll label basic { done with distance := done.distance + 1 } (code + 1) rest

def encode (label : List Char) : List Char :=
  let basic := label.filter fun character => character.toNat < 0x80
  let codes := (label.map Char.toNat).filter (0x80 ≤ ·)
  let start : Encoder := ⟨0, 72, basic.length, basic ++ if basic.isEmpty then [] else ['-']⟩
  start.writeAll label basic.length 0x80 (codes.mergeSort.eraseDups)

def readDistance (bias : Nat) (weight scale distance : Nat) : List Char → Option (Nat × List Char)
  | [] => none
  | character :: rest => do
      let digit ← digitValue? character
      let bound := threshold weight bias
      let total := distance + digit * scale
      if digit < bound then pure (total, rest)
      else readDistance bias (weight + base) (scale * (base - bound)) total rest

def insertAll (known : List Char) (code position bias : Nat) : Nat → List Char → Option (List Char)
  | 0, _ => none
  | _ + 1, [] => some known
  | steps + 1, first :: rest => do
      let (reached, rest) ← readDistance bias base 1 position (first :: rest)
      let size := known.length + 1
      let next := code + reached / size
      if next.isValidChar then
        let place := reached % size
        insertAll (known.take place ++ Char.ofNat next :: known.drop place) next (place + 1)
          (adapt (position == 0) (reached - position) size) steps rest
      else none

def decode? (text : List Char) : Option (List Char) :=
  let behind := (text.reverse.takeWhile (· != '-')).reverse
  let basic := text.take (text.length - behind.length - 1)
  if basic.isEmpty then insertAll [] 0x80 0 72 (text.length + 1) text
  else insertAll basic 0x80 0 72 (behind.length + 1) behind

end Enlistment.Url.Punycode
