import Enlistment.Text.Composition
import Enlistment.Text.Lowercase
import Enlistment.Url.DomainName.Label
import Enlistment.Url.DomainName.Table
import Enlistment.Url.Punycode

/-!
Domain names in ASCII. Every character of a name is brought to the form that names have for it, which
is lowercase and composed, and every label with characters outside of ASCII is written in punycode
behind `xn--`. Names that could be taken for others are refused.
-/

namespace Enlistment.Url

open Text

def isForbiddenInDomain (character : Char) : Bool :=
  character.toNat ≤ 0x20 || character.toNat == 0x7F ||
    ['%', '#', '/', ':', '<', '>', '?', '@', '[', '\\', ']', '^', '|'].contains character

def isAscii (text : List Char) : Bool :=
  text.all fun character => character.toNat < 0x80

def domainForm (character : Char) : List Char :=
  if character.toNat < 0x80 then [character.toLower]
  else
    match formRuns.find? (·.range.contains character.toNat) with
    | some run => run.formOf character
    | none => lowercaseForm character

def domainForms? (name : List Char) : Option (List Char) :=
  if isAscii name then some (name.map Char.toLower)
  else if name.any (isInRanges disallowedRanges) then none
  else
    let kept := name.filter fun character => !isInRanges ignoredRanges character
    some (composed (kept.flatMap domainForm))

def punycodeMark : List Char := ['x', 'n', '-', '-']

def lastPunycodeLength : Nat := 2000

def lastLabelLength : Nat := 1000

def readPunycode? (text : List Char) : Option (List Char) := do
  if lastPunycodeLength < text.length then none
  let label ← Punycode.decode? text
  if isAscii label || domainForms? label != some label ||
    label.any (fun character => character == '.' || isForbiddenInDomain character) then none
  pure label

def displayedLabel? (label : List Char) : Option (List Char) :=
  if punycodeMark.isPrefixOf label then
    if isAscii label then readPunycode? (label.drop punycodeMark.length) else none
  else if !isAscii label && lastLabelLength < label.length then none
  else some label

def asciiLabel (label : List Char) : List Char :=
  if isAscii label then label else punycodeMark ++ Punycode.encode label

def asciiDomain? (name : List Char) : Option (List Char) := do
  let forms ← domainForms? name
  if forms.any isForbiddenInDomain then none
  let labels ← (forms.splitOn '.').mapM displayedLabel?
  if !labels.all isSoundLabel then none
  if labels.any isBidirectional && !labels.all runsOneWay then none
  pure (['.'].intercalate (labels.map asciiLabel))

end Enlistment.Url
