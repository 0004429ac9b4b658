import Appraisal.Text.Split
import Appraisal.Url.Basic

/-!
# Appraisal.Url.Parser

Texts read as absolute URLs, as browsers read them: control characters and spaces around the text and
tabs and line breaks inside are not seen, schemes with known rules take backslashes for slashes and
any number of slashes before a host, and segments of dots are resolved.

* `Url.parse?`: the URL that a text writes.
-/

namespace Appraisal
namespace Url

def isUnseen (c : Char) : Bool := ['\t', '\n', '\r'].contains c

/-- A text without the control characters and spaces around it, and without tabs and line breaks. -/
def visible (text : String) : List Char :=
  let isEdge (c : Char) : Bool := c ≤ ' '
  let inner := ((text.toList.dropWhile isEdge).reverse.dropWhile isEdge).reverse
  inner.filter fun c => !isUnseen c

/-- The scheme in front of a text, in lower case, and what follows its colon. -/
def cutScheme? (cs : List Char) : Option (String × List Char) :=
  match cutAt ':' cs with
  | (_, none) => none
  | ([], some _) => none
  | (c :: scheme, some r) =>
    if c.isAlpha && scheme.all fun c => c.isAlphanum || ['+', '-', '.'].contains c then
      some (String.ofList ((c :: scheme).map Char.toLower), r)
    else none

/-! ### Paths -/

def isSlash (kind : SchemeKind) (c : Char) : Bool := c == '/' || (kind.isSpecial && c == '\\')

/-- A segment with its escaped dots as dots, to tell what it stands for. -/
def unescapeDots : List Char → List Char
  | '%' :: '2' :: 'e' :: r => '.' :: unescapeDots r
  | '%' :: '2' :: 'E' :: r => '.' :: unescapeDots r
  | c :: r => c :: unescapeDots r
  | [] => []

def isHere (segment : List Char) : Bool := unescapeDots segment == ['.']

def isAbove (segment : List Char) : Bool := unescapeDots segment == ['.', '.']

def isDrive : List Char → Bool
  | [letter, mark] => letter.isAlpha && (mark == ':' || mark == '|')
  | _ => false

/-- The segments above the last one, which come last first. A drive has nothing above it. -/
def above : List String → List String
  | [] => []
  | s :: ss => if isDrive s.toList then s :: ss else ss

/-- A segment as it is kept. The drive that a path of a file begins with has a colon. -/
def kept (kind : SchemeKind) (done : List String) (segment : List Char) : String :=
  match kind, done, segment with
  | .file, [], [letter, _] =>
    if isDrive segment then String.ofList [letter, ':'] else Percent.encode Percent.inPath segment
  | _, _, _ => Percent.encode Percent.inPath segment

/-- The segments of a path whose parts are read in turn; `done` are those before, last first. A path
that ends in dots ends in a slash. -/
def resolve (kind : SchemeKind) (done : List String) : List (List Char) → List String
  | [] => done.reverse
  | [p] =>
    if isAbove p then ("" :: above done).reverse
    else if isHere p then ("" :: done).reverse
    else (kept kind done p :: done).reverse
  | p :: ps =>
    if isAbove p then resolve kind (above done) ps
    else if isHere p then resolve kind done ps
    else resolve kind (kept kind done p :: done) ps

/-- The segments of the path that stands behind its first slash. -/
def segmentsOf (kind : SchemeKind) (cs : List Char) : List String :=
  resolve kind [] (splitWhere (isSlash kind) cs)

def dropSlash (kind : SchemeKind) : List Char → List Char
  | [] => []
  | c :: r => if isSlash kind c then r else c :: r

/-! ### Authorities -/

/-- The user's name and password in front of the last `@` of an authority, and what follows it. -/
def cutUser (cs : List Char) : Option (List Char) × List Char :=
  match cutAt '@' cs.reverse with
  | (_, none) => (none, cs)
  | (behind, some before) => (some before.reverse, behind.reverse)

/-- The host in front of a port: colons between brackets are its own. -/
def cutHost (inBrackets : Bool) : List Char → List Char × Option (List Char)
  | [] => ([], none)
  | ':' :: r =>
    if inBrackets then
      match cutHost inBrackets r with
      | (host, port) => (':' :: host, port)
    else ([], some r)
  | c :: r =>
    match cutHost (c == '[' || (inBrackets && c != ']')) r with
    | (host, port) => (c :: host, port)

/-- The port that digits write, none if it is the scheme's own or left out, and what follows it: what
opens with a backslash belongs to the path. -/
def port? (kind : SchemeKind) (cs : List Char) : Option (Option Nat × List Char) :=
  let digits := cs.takeWhile Char.isDigit
  let value := digits.foldl (fun n c => 10 * n + (c.toNat - '0'.toNat)) 0
  let rest := cs.dropWhile Char.isDigit
  if 65535 < value then none
  else if !rest.isEmpty && rest.head? != some '\\' then none
  else if digits.isEmpty || kind = .network value then some (none, rest)
  else some (some value, rest)

/-- The host and the port of an authority, and what belongs to the path. An empty host is none. -/
def hostAndPort? (kind : SchemeKind) (cs : List Char) :
    Option (Option Host × Option Nat × List Char) := do
  let (name, port) := cutHost false cs
  let host ←
    if name.isEmpty then (if kind.isSpecial || port.isSome then none else some none)
    else some <$> (if kind.isSpecial then Host.parse? name else Host.parseName? name)
  match port with
  | none => pure (host, none, [])
  | some digits => do
    let (port, rest) ← port? kind digits
    pure (host, port, rest)

/-- The authority in a text up to its path, and what belongs to the path. Without a user's name, an
`@` is allowed only before a host or at the very end of a URL. -/
def authority? (kind : SchemeKind) (cs : List Char) (isEnd : Bool) :
    Option (Authority × List Char) := do
  let (user, cs) := cutUser cs
  let (name, password) := cutAt ':' (user.getD [])
  let username := Percent.encode Percent.inUserinfo name
  let password := Percent.encode Percent.inUserinfo (password.getD [])
  let (host, port, rest) ← hostAndPort? kind cs
  if host.isNone && ((user == some [] && !isEnd) || !username.isEmpty || !password.isEmpty) then
    none
  else pure ({ username, password, host, port }, rest)

/-- The authority and the path of a URL, from behind the slashes that open its authority. -/
def hierarchical? (kind : SchemeKind) (cs : List Char) (isEnd : Bool) :
    Option (Authority × UrlPath) := do
  let site := cs.takeWhile fun c => !isSlash kind c
  let path := cs.dropWhile fun c => !isSlash kind c
  let (authority, rest) ← authority? kind site (isEnd && path.isEmpty)
  let path := rest ++ path
  if path.isEmpty && !kind.isSpecial then pure (authority, .segments [])
  else pure (authority, .segments (segmentsOf kind (dropSlash kind path)))

/-! ### Files -/

/-- A path of a file without the empty segments that it opens with. -/
def dropEmpty : List String → List String
  | "" :: s :: ss => dropEmpty (s :: ss)
  | ss => ss

def fileHost? (cs : List Char) : Option (Option Host) :=
  if cs.isEmpty then some none
  else match Host.parse? cs with
    | none => none
    | some h => some (if h = .domain "localhost" then none else some h)

/-- The host and the path of a file. A path that begins with a drive is on this system. -/
def file? (cs : List Char) : Option (Authority × UrlPath) := do
  let (site, path) :=
    match cs with
    | c :: d :: r =>
      if isSlash .file c && isSlash .file d then
        (r.takeWhile fun c => !isSlash .file c, r.dropWhile fun c => !isSlash .file c)
      else ([], cs)
    | _ => ([], cs)
  let (site, path) := if isDrive site then ([], site ++ path) else (site, dropSlash .file path)
  let host ← fileHost? site
  let segments := segmentsOf .file path
  let host := if (segments.head?.map String.toList).any isDrive then none else host
  pure ({ host }, .segments (dropEmpty segments))

def site? (kind : SchemeKind) (cs : List Char) (isEnd : Bool) :
    Option (Option Authority × UrlPath) := do
  match kind, cs with
  | .file, cs => do
    let (authority, path) ← file? cs
    pure (some authority, path)
  | .network _, cs => do
    let (authority, path) ← hierarchical? kind (cs.dropWhile (isSlash kind)) isEnd
    pure (some authority, path)
  | .other, '/' :: '/' :: r => do
    let (authority, path) ← hierarchical? kind r isEnd
    pure (some authority, path)
  | .other, '/' :: r => pure (none, .segments (segmentsOf kind r))
  | .other, cs => pure (none, .rootless (Percent.encode Percent.inWhole cs))

def parse? (text : String) : Option Url := do
  let (scheme, cs) ← cutScheme? (visible text)
  let kind := SchemeKind.ofScheme scheme
  let (cs, fragment) := cutAt '#' cs
  let (cs, query) := cutAt '?' cs
  let (authority, path) ← site? kind cs (query.isNone && fragment.isNone)
  let reserved := if kind.isSpecial then Percent.inSpecialQuery else Percent.inQuery
  pure { scheme, authority, path, query := query.map (Percent.encode reserved),
         fragment := fragment.map (Percent.encode Percent.inFragment) }

end Url
end Appraisal
