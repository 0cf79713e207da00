import Enlistment.Url.Host
import Enlistment.Url.Segments

/-!
URLs: how they are read, written, and extended below their path. A special scheme has rules for
hosts and knows a port; a backslash separates segments under it, and slashes may be left out.
-/

namespace Enlistment

structure UrlAuthority where
  userName : List Char
  /-- Not empty where it is present. -/
  password : Option (List Char)
  host : Url.Host
  /-- Absent where it is the port of the scheme. -/
  port : Option Nat
deriving DecidableEq

inductive UrlPath where
  | opaqueText (text : List Char)
  | segments (segments : List (List Char))
deriving DecidableEq

structure Url where
  scheme : String
  authority : Option UrlAuthority
  path : UrlPath
  query : Option (List Char)
  fragment : Option (List Char)
deriving DecidableEq

namespace Url

def defaultPort? : String → Option Nat
  | "http" => some 80
  | "ws" => some 80
  | "https" => some 443
  | "wss" => some 443
  | "ftp" => some 21
  | _ => none

def isFileScheme (scheme : String) : Bool :=
  scheme == "file"

def isSpecial (scheme : String) : Bool :=
  isFileScheme scheme || (defaultPort? scheme).isSome

def isSlash (isSpecial : Bool) (character : Char) : Bool :=
  character == '/' || (isSpecial && character == '\\')

def relevantText (text : String) : List Char :=
  let isBlank (character : Char) : Bool := character.toNat ≤ 0x20
  let trimmed := ((text.toList.dropWhile isBlank).reverse.dropWhile isBlank).reverse
  trimmed.filter fun character => !(['\t', '\n', '\r'].contains character)

def splitScheme? (text : List Char) : Option (String × List Char) :=
  let isPart (character : Char) : Bool :=
    character.isAlphanum || ['+', '-', '.'].contains character
  match text.takeWhile isPart, text.dropWhile isPart with
  | first :: more, ':' :: rest =>
      if first.isAlpha then some (String.ofList ((first :: more).map Char.toLower), rest) else none
  | _, _ => none

def splitBefore (isEnd : Char → Bool) (text : List Char) : List Char × List Char :=
  (text.takeWhile (!isEnd ·), text.dropWhile (!isEnd ·))

def isPathEnd (character : Char) : Bool :=
  character == '?' || character == '#'

def splitSegments (isSpecial : Bool) (text : List Char) : List (List Char) :=
  text.splitOnP (isSlash isSpecial)

def writtenSegments (isSpecial : Bool) (text : List Char) : List (List Char) :=
  match text with
  | first :: rest =>
      splitSegments isSpecial (if isSlash isSpecial first then rest else first :: rest)
  | [] => [[]]

def segmentsFrom (scheme : String) (text : List Char) : List (List Char) :=
  resolve (isFileScheme scheme) (writtenSegments (isSpecial scheme) text)

def queryAndFragment (scheme : String) (text : List Char) : Option (List Char) × Option (List Char) :=
  let (before, fragment) := splitBefore (· == '#') text
  let encodedQuery := if isSpecial scheme then inSpecialQuerySet else inQuerySet
  let query := if before.isEmpty then none else some (percentEncode encodedQuery (before.drop 1))
  let shown :=
    if fragment.isEmpty then none else some (percentEncode inFragmentSet (fragment.drop 1))
  (query, shown)

def withPath (scheme : String) (authority : Option UrlAuthority) (path : UrlPath) (rest : List Char) :
    Url :=
  let (query, fragment) := queryAndFragment scheme rest
  { scheme, authority, path, query, fragment }

def parseUserInfo (text : List Char) : List Char × Option (List Char) :=
  let (name, rest) := splitBefore (· == ':') text
  let password := percentEncode inUserInfoSet (rest.drop 1)
  (percentEncode inUserInfoSet name, if password.isEmpty then none else some password)

def splitUserInfo (text : List Char) : Option (List Char) × List Char :=
  if text.contains '@' then
    let behind := (text.reverse.takeWhile (· != '@')).reverse
    (some (text.take (text.length - behind.length - 1)), behind)
  else (none, text)

def hostLength (inBrackets : Bool) : List Char → Nat
  | [] => 0
  | character :: rest =>
      if character == ':' && !inBrackets then 0
      else 1 + hostLength (if character == '[' then true
        else if character == ']' then false else inBrackets) rest

def parsePort (scheme : String) (text : List Char) : Except UrlError (Option Nat) :=
  if text.all Char.isDigit then
    let port := Text.valueOf 10 text
    if 65535 < port then .error .invalidPort
    else if text.isEmpty || defaultPort? scheme == some port then .ok none
    else .ok (some port)
  else .error .invalidPort

/-- The authority in its own text, which ends before the path; only a port may end earlier, at a
backslash. -/
def parseAuthority (scheme : String) (text rest : List Char) :
    Except UrlError (UrlAuthority × List Char) := do
  let (userInfo, target) := splitUserInfo text
  if userInfo == some [] && target.isEmpty && !rest.isEmpty then throw .emptyHost
  let (userName, password) := parseUserInfo (userInfo.getD [])
  let length := hostLength false target
  let hostText := target.take length
  if isSpecial scheme && hostText.isEmpty then throw .emptyHost
  let host ← if isSpecial scheme then Host.parse hostText else Host.parseOpaque hostText
  let behind := target.drop length
  if host = .domain "" && (!behind.isEmpty || !userName.isEmpty || password.isSome) then
    throw .emptyHost
  let (portText, left) := splitBefore (· == '\\') (behind.drop 1)
  let port ← parsePort scheme portText
  pure ({ userName, password, host, port }, left)

def parseWithAuthority (scheme : String) (text : List Char) : Except UrlError Url := do
  let isEnd (character : Char) : Bool := isPathEnd character || isSlash (isSpecial scheme) character
  let (authorityText, rest) := splitBefore isEnd text
  let (authority, left) ← parseAuthority scheme authorityText rest
  let (pathText, rest) := splitBefore isPathEnd (left ++ rest)
  let path := if pathText.isEmpty && !isSpecial scheme then [] else segmentsFrom scheme pathText
  pure (withPath scheme (some authority) (.segments path) rest)

def parseFileHost (text : List Char) : Except UrlError Host :=
  if text.isEmpty then .ok (.domain "")
  else (Host.parse text).map fun host => if host = .domain "localhost" then .domain "" else host

def startsWithDrive (segments : List (List Char)) : Bool :=
  match segments with
  | [letter, ':'] :: _ => letter.isAlpha
  | _ => false

/-- The host and the path of a file, from behind two slashes. A drive is on no host. Behind a host that
is left out the path is read with an empty segment at its start. -/
def parseFileAuthority (text : List Char) : Except UrlError (Host × List (List Char)) := do
  let (hostText, pathText) := splitBefore (isSlash true) text
  if isDriveLetter hostText then pure (.domain "", resolve true (splitSegments true text))
  else
    let host ← parseFileHost hostText
    if host = .domain "" then pure (host, resolve true (splitSegments true pathText))
    else
      let path := resolveSegments true [] (writtenSegments true pathText)
      pure (if startsWithDrive path then .domain "" else host, dropEmptyStart path)

def parseFile (text : List Char) : Except UrlError Url := do
  let (before, rest) := splitBefore isPathEnd text
  let (host, path) ← match before with
    | first :: second :: behind =>
        if isSlash true first && isSlash true second then parseFileAuthority behind
        else pure (.domain "", segmentsFrom "file" before)
    | _ => pure (.domain "", segmentsFrom "file" before)
  pure (withPath "file" (some ⟨[], none, host, none⟩) (.segments path) rest)

def parseGeneral (scheme : String) (text : List Char) : Except UrlError Url :=
  match text with
  | '/' :: '/' :: rest => parseWithAuthority scheme rest
  | _ =>
      let (pathText, rest) := splitBefore isPathEnd text
      let path :=
        if pathText.head? = some '/' then .segments (segmentsFrom scheme pathText)
        else .opaqueText (percentEncode isControl pathText)
      .ok (withPath scheme none path rest)

def parse (text : String) : Except UrlError Url :=
  match splitScheme? (relevantText text) with
  | none => .error .noBase
  | some (scheme, rest) =>
      if isFileScheme scheme then parseFile rest
      else if isSpecial scheme then parseWithAuthority scheme (rest.dropWhile (isSlash true))
      else parseGeneral scheme rest

def renderUserInfo (authority : UrlAuthority) : List Char :=
  let password := match authority.password with
    | some password => ':' :: password
    | none => []
  if authority.userName.isEmpty && password.isEmpty then []
  else authority.userName ++ password ++ ['@']

def renderAuthority (authority : UrlAuthority) : List Char :=
  let port := match authority.port with
    | some port => ':' :: (toString port).toList
    | none => []
  ['/', '/'] ++ renderUserInfo authority ++ authority.host.render.toList ++ port

def pathText (url : Url) : List Char :=
  match url.path with
  | .opaqueText text => text
  | .segments segments => segments.flatMap ('/' :: ·)

/-- Where two slashes would look like an authority, a dot stands before them. -/
def pathGuard (url : Url) : List Char :=
  if url.authority.isNone && ['/', '/'].isPrefixOf url.pathText then ['/', '.'] else []

def render (url : Url) : String :=
  let authority := match url.authority with
    | some authority => renderAuthority authority
    | none => []
  let query := match url.query with
    | some query => '?' :: query
    | none => []
  let fragment := match url.fragment with
    | some fragment => '#' :: fragment
    | none => []
  String.ofList (url.scheme.toList ++ ':' :: authority ++ url.pathGuard ++ url.pathText ++ query ++
    fragment)

/-- The segments below which more can be added: an empty one at the end is no folder. A path that is
extended by a slash is read again, so a drive at its start is written with a colon. -/
def folderSegments (isFile : Bool) (segments : List (List Char)) : List (List Char) :=
  if segments.getLast? = some [] then segments.dropLast
  else if isFile then (segments.take 1).map driveForm ++ segments.drop 1
  else segments

def below (url : Url) (names : List String) : Except UrlError Url :=
  match url.path with
  | .opaqueText _ => .error .opaqueBase
  | .segments segments =>
      let added := names.map fun name => percentEncode inPathSet name.toList
      let path := folderSegments (isFileScheme url.scheme) segments ++ added
      .ok { url with path := .segments path, query := none, fragment := none }

end Url

end Enlistment
