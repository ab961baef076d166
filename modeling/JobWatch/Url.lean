import JobWatch.Url.Host

/-!
URLs with the scheme `http` or `https`, read from any text and written in normal form.

Control characters and spaces around the text, and tabs and line ends anywhere in it, do not count.
A text with another scheme is read far enough to tell whether it is a URL at all. How a host of the
web schemes is read is left open: `normalHost` knows the names in ASCII.
-/

namespace JobWatch

structure Url where
  secure : Bool
  /-- User and password with the `@` behind them, or nothing. -/
  userinfo : List Char
  host : List Char
  /-- A port other than the usual one. -/
  port : Option Nat
  /-- The text between the slashes, percent-encoded; the path starts with a slash. -/
  segments : List (List Char)
  query : Option (List Char)
  fragment : Option (List Char)
  deriving Repr, DecidableEq, Inhabited

/-- What a text turned out to be. -/
inductive ParsedUrl where
  | web (u : Url)
  | otherScheme (scheme : String)
  deriving Repr, DecidableEq

namespace Url

/-- A reading of hosts: their normal form, or why a text is no host. -/
abbrev HostReader := List Char → Except UrlError (List Char)

/-- Drops what does not count. -/
def clean (cs : List Char) : List Char :=
  let trimmed := ((cs.dropWhile (· ≤ ' ')).reverse.dropWhile (· ≤ ' ')).reverse
  trimmed.filter fun c => c ≠ '\t' ∧ c ≠ '\n' ∧ c ≠ '\r'

/-- The scheme in lower case, and what is behind its colon. -/
def scheme? (cs : List Char) : Option (String × List Char) :=
  let name := cs.takeWhile fun c => c.isAlphanum || c = '+' || c = '-' || c = '.'
  match name, cs.drop name.length with
  | c :: _, ':' :: rest =>
    if c.isAlpha then some (String.ofList (name.map Char.toLower), rest) else none
  | _, _ => none

/-- The end of what stands before the path. Some schemes take a backslash for a slash. -/
def endsAuthority (special : Bool) (c : Char) : Bool :=
  c = '/' || c = '?' || c = '#' || (special && c = '\\')

/-- User and password, percent-encoded, with an `@` behind them. A colon without a password and an
empty user are left out. -/
def userinfoText (cs : List Char) : List Char :=
  let user := cs.takeWhile (· ≠ ':')
  let password := (cs.drop user.length).drop 1
  let text := percentEncode inUserinfoSet user ++
    (if password.isEmpty then [] else ':' :: percentEncode inUserinfoSet password)
  if text.isEmpty then [] else text ++ ['@']

/-- Splits at the last `@`. -/
def splitUserinfo (cs : List Char) : Option (List Char × List Char) :=
  if cs.contains '@' then
    let host := (cs.reverse.takeWhile (· ≠ '@')).reverse
    some (cs.take (cs.length - host.length - 1), host)
  else none

/-- The text of a host: up to a colon that is not in brackets. -/
def hostText (inside : Bool) : List Char → List Char
  | [] => []
  | c :: cs =>
    if c = ':' ∧ !inside then []
    else c :: hostText (if c = '[' then true else if c = ']' then false else inside) cs

/-- A port, unless it is the usual one or left out. Its digits may be followed by a backslash. -/
def port? (usual : Option Nat) (cs : List Char) : Except UrlError (Option Nat) :=
  let ds := cs.takeWhile Char.isDigit
  let rest := cs.drop ds.length
  let n := (numberIn? 10 ds).getD 0
  if n > 65535 then .error .invalidPort
  else if !rest.isEmpty ∧ rest.head? ≠ some '\\' then .error .invalidPort
  else .ok (if ds.isEmpty ∨ usual = some n then none else some n)

/-- User, host and port, in front of the path. -/
structure Authority where
  userinfo : List Char
  host : List Char
  port : Option Nat
  deriving Repr, DecidableEq

/-- Reads an authority from its own text; `more` tells whether a path or the like follows. -/
def authority? (readHost : HostReader) (special : Bool) (usual : Option Nat) (cs : List Char)
    (more : Bool) : Except UrlError Authority := do
  let (user, rest) := (splitUserinfo cs).getD ([], cs)
  if (splitUserinfo cs).isSome ∧ user.isEmpty ∧ rest.isEmpty ∧ more then throw .emptyHost
  let text := hostText false rest
  if special ∧ text.isEmpty then throw .emptyHost
  let host ← readHost text
  let behind := rest.drop text.length
  if host.isEmpty ∧ !behind.isEmpty then throw .emptyHost
  let port ← port? usual (behind.drop 1)
  let userinfo := userinfoText user
  if host.isEmpty ∧ !userinfo.isEmpty then throw .emptyHost
  return ⟨userinfo, host, port⟩

/-- A segment that means its own directory. -/
def isSingleDot (s : List Char) : Bool :=
  let t := s.map Char.toLower
  t = ['.'] || t = ['%', '2', 'e']

/-- A segment that means the directory above. -/
def isDoubleDot (s : List Char) : Bool :=
  let t := s.map Char.toLower
  let dot := ['.']
  let coded := ['%', '2', 'e']
  t = dot ++ dot || t = dot ++ coded || t = coded ++ dot || t = coded ++ coded

/-- Segments without dots: those that mean a directory are followed, and at the end of a path they
leave an empty segment. The segments so far are held in reverse. -/
def resolveDots (done : List (List Char)) : List (List Char) → List (List Char)
  | [] => done.reverse
  | [s] =>
    if isDoubleDot s then ([] :: done.drop 1).reverse
    else if isSingleDot s then ([] :: done).reverse
    else (s :: done).reverse
  | s :: ss =>
    if isDoubleDot s then resolveDots (done.drop 1) ss
    else if isSingleDot s then resolveDots done ss
    else resolveDots (s :: done) ss

/-- The segments of a path, read from its text. -/
def segmentsOf (cs : List Char) : List (List Char) :=
  let slashed := cs.map fun c => if c = '\\' then '/' else c
  let inner := match slashed with
    | '/' :: rest => rest
    | rest => rest
  resolveDots [] ((splitOn '/' inner).map (percentEncode inPathSet))

/-- What follows the authority: path, query and fragment. -/
def splitTail (cs : List Char) : List Char × Option (List Char) × Option (List Char) :=
  let front := cs.takeWhile (· ≠ '#')
  let fragment := match cs.drop front.length with
    | _ :: f => some f
    | [] => none
  let path := front.takeWhile (· ≠ '?')
  let query := match front.drop path.length with
    | _ :: q => some q
    | [] => none
  (path, query, fragment)

def usualPort (secure : Bool) : Nat := if secure then 443 else 80

/-- Reads a URL from what is behind the colon of `http` or `https`. Any number of slashes may stand
there. -/
def ofRest (readHost : HostReader) (secure : Bool) (cs : List Char) : Except UrlError Url := do
  let cs := cs.dropWhile fun c => c = '/' || c = '\\'
  let front := cs.takeWhile (!endsAuthority true ·)
  let tail := cs.drop front.length
  let a ← authority? readHost true (some (usualPort secure)) front (!tail.isEmpty)
  let (path, query, fragment) := splitTail tail
  return {
    secure, userinfo := a.userinfo, host := a.host, port := a.port
    segments := segmentsOf path
    query := query.map (percentEncode inQuerySet)
    fragment := fragment.map (percentEncode inFragmentSet) }

/-- Checks what is behind the colon of another scheme. Three more schemes have a host as the web
schemes do, `file` may have one, and any other has one after two slashes. -/
def checkRest (readHost : HostReader) (scheme : String) (cs : List Char) :
    Except UrlError Unit := do
  let isSlash (c : Char) : Bool := c = '/' || c = '\\'
  if scheme = "ftp" ∨ scheme = "ws" ∨ scheme = "wss" then
    discard (ofRest readHost false cs)
  else if scheme = "file" then
    match cs with
    | a :: b :: rest =>
      if isSlash a ∧ isSlash b then
        let host := rest.takeWhile (!endsAuthority true ·)
        match host with
        | [] => return
        | [c, d] => if c.isAlpha ∧ (d = ':' ∨ d = '|') then return else discard (readHost host)
        | _ => discard (readHost host)
    | _ => return
  else
    match cs with
    | '/' :: '/' :: rest =>
      let front := rest.takeWhile (!endsAuthority false ·)
      discard (authority? checkHost false none front (front.length < rest.length))
    | _ => return

/-- Reads a text as a URL. -/
def parse (readHost : HostReader) (s : String) : Except UrlError ParsedUrl := do
  match scheme? (clean s.toList) with
  | none => throw .relativeWithoutBase
  | some (scheme, rest) =>
    if scheme = "http" then return .web (← ofRest readHost false rest)
    else if scheme = "https" then return .web (← ofRest readHost true rest)
    else
      checkRest readHost scheme rest
      return .otherScheme scheme

/-! ### Writing -/

def path (u : Url) : List Char := u.segments.flatMap ('/' :: ·)

/-- Scheme, user, host and port. -/
def origin (u : Url) : List Char :=
  (if u.secure then "https://" else "http://").toList ++ u.userinfo ++ u.host ++
    (match u.port with
      | some n => ':' :: Nat.toDigits 10 n
      | none => [])

/-- Path and query: what a request asks for. -/
def target (u : Url) : List Char :=
  u.path ++ (u.query.elim [] ('?' :: ·))

def chars (u : Url) : List Char :=
  u.origin ++ u.target ++ (u.fragment.elim [] ('#' :: ·))

def text (u : Url) : String := String.ofList u.chars

/-- The path ends with a slash. -/
def isDirectory (u : Url) : Bool := u.segments.getLast? = some []

/-- Ends the path with a slash. -/
def asDirectory (u : Url) : Url :=
  if u.isDirectory then u else { u with segments := u.segments ++ [[]] }

/-- A resource under a directory: its segments come in the place of the empty last one. Query and
fragment do not stay. -/
def resource (u : Url) (names : List String) : Url :=
  { u with
    segments := u.segments.dropLast ++ names.map String.toList
    query := none
    fragment := none }

/-- Asks with a form. -/
def withForm (u : Url) (pairs : List (String × String)) : Url :=
  { u with query := some (formText pairs) }

end Url

end JobWatch
