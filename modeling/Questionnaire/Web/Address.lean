import Questionnaire.Web.Host

/-!
# Web addresses

`Address.ofText` reads an absolute address and brings it to its normal form: scheme and host in lower case, the
usual port left out, dots in the path resolved, characters encoded where the part asks for it.
-/

namespace Questionnaire.Web

/-- An address in its normal form. -/
structure Address where
  scheme : String
  /-- Name and password, as they stand before the at sign. -/
  userinfo : String := ""
  host : Option String := none
  port : Option Nat := none
  path : String := ""
  query : Option String := none
  fragment : Option String := none
deriving DecidableEq, Repr

namespace Address

/-- The text of an address. -/
def text (a : Address) : String :=
  let authority :=
    match a.host with
    | some h =>
      "//" ++ (if a.userinfo.isEmpty then "" else a.userinfo ++ "@") ++ h
        ++ (match a.port with
          | some p => ":" ++ toString p
          | none => "")
    | none => ""
  a.scheme ++ ":" ++ authority ++ a.path
    ++ (match a.query with
      | some q => "?" ++ q
      | none => "")
    ++ (match a.fragment with
      | some f => "#" ++ f
      | none => "")

/-- The port that a scheme uses if none is given; schemes with hosts have one, files apart. -/
def usualPort? (scheme : String) : Option Nat :=
  match scheme with
  | "http" | "ws" => some 80
  | "https" | "wss" => some 443
  | "ftp" => some 21
  | _ => none

def hasHosts (scheme : String) : Bool := (usualPort? scheme).isSome

def isSpecial (scheme : String) : Bool := hasHosts scheme || scheme == "file"

/-- The text without controls and blanks at both ends, and without tabs and line ends anywhere. -/
def clean (cs : List Char) : List Char :=
  let isEdge (c : Char) : Bool := c.toNat ≤ 0x20
  let trimmed := ((cs.dropWhile isEdge).reverse.dropWhile isEdge).reverse
  trimmed.filter fun c => c != '\t' && c != '\n' && c != '\r'

/-- The scheme of an address, and what follows its colon. -/
def splitScheme? (cs : List Char) : Option (String × List Char) :=
  let isPart (c : Char) : Bool := c.isAlphanum || c == '+' || c == '-' || c == '.'
  match cs, cs.dropWhile isPart with
  | c :: _, ':' :: rest =>
    if c.isAlpha then some (String.ofList ((cs.takeWhile isPart).map Char.toLower), rest) else none
  | _, _ => none

/-- The end of the host part. -/
def isAuthorityEnd (special : Bool) (c : Char) : Bool :=
  c == '/' || c == '?' || c == '#' || (special && c == '\\')

/-- The text before the last at sign, if there is one, and what follows it. -/
def splitUserinfo (cs : List Char) : Option (List Char) × List Char :=
  if cs.contains '@' then
    let reversed := cs.reverse
    (some ((reversed.dropWhile (· != '@')).drop 1).reverse, (reversed.takeWhile (· != '@')).reverse)
  else (none, cs)

/-- Name and password encoded; an empty password loses its colon. -/
def normalUserinfo (cs : List Char) : List Char :=
  let name := encode .userinfo (cs.takeWhile (· != ':'))
  let password := encode .userinfo ((cs.dropWhile (· != ':')).drop 1)
  if password.isEmpty then name else name ++ [':'] ++ password

/-- The host at the head of an authority, up to a colon outside brackets, and what follows it. -/
def splitHost : Bool → List Char → List Char × List Char
  | _, [] => ([], [])
  | inside, c :: rest =>
    if c = ':' ∧ !inside then ([], c :: rest)
    else
      let inside := if c = '[' then true else if c = ']' then false else inside
      let (host, after) := splitHost inside rest
      (c :: host, after)

/-- The port after its colon: none if it is left out or usual. -/
def portOf (scheme : String) (cs : List Char) : Except AddressError (Option Nat) :=
  if !cs.all Char.isDigit then .error .badPort
  else
    let n := cs.foldl (fun n c => n * 10 + (c.toNat - '0'.toNat)) 0
    if 65535 < n then .error .badPort
    else if cs.isEmpty ∨ usualPort? scheme = some n then .ok none
    else .ok (some n)

/-- A segment of a path that stands for its own directory. -/
def isSingleDot (s : List Char) : Bool := ["." , "%2e"].contains (String.ofList (s.map Char.toLower))

/-- A segment of a path that stands for the directory above. -/
def isDoubleDot (s : List Char) : Bool :=
  ["..", "%2e.", ".%2e", "%2e%2e"].contains (String.ofList (s.map Char.toLower))

/-- The segments of a path with dots resolved; `above` holds the segments so far, the last one first. -/
def resolveDots (above : List (List Char)) : List (List Char) → List (List Char)
  | [] => above.reverse
  | [last] =>
    if isDoubleDot last then (([] : List Char) :: above.drop 1).reverse
    else if isSingleDot last then (([] : List Char) :: above).reverse
    else (last :: above).reverse
  | segment :: rest =>
    if isDoubleDot segment then resolveDots (above.drop 1) rest
    else if isSingleDot segment then resolveDots above rest
    else resolveDots (segment :: above) rest

/-- The path that follows a host. -/
def normalPath (special : Bool) (cs : List Char) : List Char :=
  let cs := if special then cs.map fun c => if c = '\\' then '/' else c else cs
  if cs.isEmpty ∧ !special then []
  else
    let relative := if cs.head? == some '/' then cs.drop 1 else cs
    let segments := (Text.splitOn '/' relative).map (encode .path)
    '/' :: Text.joinWith '/' (resolveDots [] segments)

/-- Path, query and fragment of the rest of an address. -/
def splitRest (cs : List Char) : List Char × Option (List Char) × Option (List Char) :=
  let isMark (c : Char) : Bool := c == '?' || c == '#'
  let path := cs.takeWhile fun c => !isMark c
  match cs.dropWhile fun c => !isMark c with
  | '?' :: rest =>
    let query := rest.takeWhile (· != '#')
    match rest.dropWhile (· != '#') with
    | _ :: fragment => (path, some query, some fragment)
    | [] => (path, some query, none)
  | '#' :: fragment => (path, none, some fragment)
  | _ => (path, none, none)

/-- The address from its parts, the path given in its normal form. -/
def assemble (scheme : String) (userinfo : List Char) (host : Option (List Char)) (port : Option Nat)
    (path : List Char → List Char) (rest : List Char) : Address :=
  let (p, query, fragment) := splitRest rest
  { scheme := scheme
    userinfo := String.ofList userinfo
    host := host.map String.ofList
    port := port
    path := String.ofList (path p)
    query := query.map fun q => String.ofList (encode (if isSpecial scheme then .specialQuery else .query) q)
    fragment := fragment.map fun f => String.ofList (encode .fragment f) }

/-- An address after the two slashes of its authority. -/
def ofAuthority (scheme : String) (cs : List Char) : Except AddressError Address := do
  let special := isSpecial scheme
  let authority := cs.takeWhile fun c => !isAuthorityEnd special c
  let rest := cs.dropWhile fun c => !isAuthorityEnd special c
  let (user, hostPart) := splitUserinfo authority
  if user == some [] && hostPart.isEmpty && !rest.isEmpty then throw .emptyHost
  let userinfo := normalUserinfo (user.getD [])
  let (name, portPart) := splitHost false hostPart
  if special && name.isEmpty then throw .emptyHost
  let h ← if special then normalHost name else normalOpaqueHost name
  if h.isEmpty && !portPart.isEmpty then throw .emptyHost
  let port ← portOf scheme (portPart.drop 1)
  if h.isEmpty && !userinfo.isEmpty then throw .emptyHost
  return assemble scheme userinfo (some h) port (normalPath special) rest

/-- Two characters that name a drive. -/
def isDrive : List Char → Bool
  | [c, d] => c.isAlpha && (d == ':' || d == '|')
  | _ => false

/-- The address of a file: its host may be missing, and `localhost` is no host. -/
def ofFile (cs : List Char) : Except AddressError Address := do
  let isSlash (c : Char) : Bool := c == '/' || c == '\\'
  match cs with
  | a :: b :: rest =>
    if isSlash a && isSlash b then
      let name := rest.takeWhile fun c => !isAuthorityEnd true c
      let after := rest.dropWhile fun c => !isAuthorityEnd true c
      if name.isEmpty || isDrive name then
        return assemble "file" [] (some []) none (normalPath true) (if isDrive name then rest else after)
      let h ← normalHost name
      return assemble "file" [] (some (if h = "localhost".toList then [] else h)) none (normalPath true) after
    else return assemble "file" [] (some []) none (normalPath true) cs
  | _ => return assemble "file" [] (some []) none (normalPath true) cs

/-- The absolute address that a text writes. -/
def ofText (s : String) : Except AddressError Address :=
  match splitScheme? (clean s.toList) with
  | none => .error .relative
  | some (scheme, rest) =>
    if scheme == "file" then ofFile rest
    else if hasHosts scheme then ofAuthority scheme (rest.dropWhile fun c => c == '/' || c == '\\')
    else
      match rest with
      | '/' :: '/' :: rest => ofAuthority scheme rest
      | '/' :: _ => .ok (assemble scheme [] none none (normalPath false) rest)
      | _ => .ok (assemble scheme [] none none (encode .controls) rest)

end Address

end Questionnaire.Web
