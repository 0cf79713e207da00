import Enlistment.Url.Address
import Enlistment.Url.DomainName
import Enlistment.Url.PercentEncoding

/-!
Hosts: addresses, domain names, and for schemes without rules of their own any name. A text that is no
URL, or cannot be the base of another one, says why.
-/

namespace Enlistment

inductive UrlError where
  | emptyHost
  | invalidDomain
  | invalidPort
  | invalidIPv4
  | invalidIPv6
  | forbiddenHostCharacter
  | noBase
  | opaqueBase
deriving DecidableEq

def UrlError.message : UrlError → String
  | emptyHost => "empty host"
  | invalidDomain => "invalid international domain name"
  | invalidPort => "invalid port number"
  | invalidIPv4 => "invalid IPv4 address"
  | invalidIPv6 => "invalid IPv6 address"
  | forbiddenHostCharacter => "invalid domain character"
  | noBase => "relative URL without a base"
  | opaqueBase => "relative URL with a cannot-be-a-base base"

namespace Url

inductive Host where
  | domain (name : String)
  | ipv4 (address : Nat)
  | ipv6 (groups : List Nat)
deriving DecidableEq

def Host.render : Host → String
  | domain name => name
  | ipv4 address => renderIPv4 address
  | ipv6 groups => "[" ++ renderIPv6 groups ++ "]"

def Host.parseBracketed (text : List Char) : Except UrlError Host :=
  if text.getLast? = some ']' then
    match parseIPv6? (text.drop 1).dropLast with
    | some groups => .ok (.ipv6 groups)
    | none => .error .invalidIPv6
  else .error .invalidIPv6

def Host.parse (text : List Char) : Except UrlError Host :=
  if text.head? = some '[' then Host.parseBracketed text
  else
    match (percentDecode? text).bind asciiDomain? with
    | none => .error .invalidDomain
    | some [] => .error .emptyHost
    | some name =>
        if endsInNumber name then
          match parseIPv4? name with
          | some address => .ok (.ipv4 address)
          | none => .error .invalidIPv4
        else .ok (.domain (String.ofList name))

def isForbiddenInHost (character : Char) : Bool :=
  ['\x00', '\t', '\n', '\r', ' ', '#', '/', ':', '<', '>', '?', '@', '[', '\\', ']', '^', '|'].contains
    character

def Host.parseOpaque (text : List Char) : Except UrlError Host :=
  if text.head? = some '[' then Host.parseBracketed text
  else if text.any isForbiddenInHost then .error .forbiddenHostCharacter
  else .ok (.domain (String.ofList (percentEncode isControl text)))

end Url

end Enlistment
