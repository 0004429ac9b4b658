import Appraisal.Url.Host

/-!
# Appraisal.Url.Basic

URLs by their parts. Two URLs are the same if their parts are.

* `Url.render`: the text of a URL.
* `Url.filePath?`: the path on the local file system that a URL names.
-/

namespace Appraisal

inductive SchemeKind where
  | file
  | network (defaultPort : Nat)
  | other
deriving DecidableEq, Repr

namespace SchemeKind

def ofScheme (scheme : String) : SchemeKind :=
  match scheme with
  | "file" => file
  | "http" | "ws" => network 80
  | "https" | "wss" => network 443
  | "ftp" => network 21
  | _ => other

/-- Whether the scheme has rules: domains as hosts, and backslashes that divide like slashes. -/
def isSpecial : SchemeKind → Bool
  | other => false
  | _ => true

end SchemeKind

/-- Where a URL points to: a host, and who asks at which port. What is empty is left out. -/
structure Authority where
  username : String := ""
  password : String := ""
  host : Option Host := none
  port : Option Nat := none
deriving DecidableEq, Repr

namespace Authority

def render (a : Authority) : String :=
  let user := a.username ++ (if a.password.isEmpty then "" else ":" ++ a.password)
  (if user.isEmpty then "" else user ++ "@")
    ++ (a.host.map Host.render).getD ""
    ++ (a.port.map fun p => ":" ++ toString p).getD ""

end Authority

/-- The path of a URL: segments, each behind a slash, or a text that no slash opens. -/
inductive UrlPath where
  | segments (segments : List String)
  | rootless (text : String)
deriving DecidableEq, Repr

namespace UrlPath

def render : UrlPath → String
  | segments ss => String.join (ss.map ("/" ++ ·))
  | rootless text => text

end UrlPath

structure Url where
  scheme : String
  authority : Option Authority := none
  path : UrlPath
  query : Option String := none
  fragment : Option String := none
deriving DecidableEq, Repr

namespace Url

/-- What stands between a scheme and a path. Without an authority, a path that opens with two slashes
is kept from being read as one. -/
def renderAuthority (u : Url) : String :=
  match u.authority, u.path with
  | some a, _ => "//" ++ a.render
  | none, .segments ("" :: _ :: _) => "/."
  | none, _ => ""

def render (u : Url) : String :=
  u.scheme ++ ":" ++ u.renderAuthority ++ u.path.render
    ++ (u.query.map ("?" ++ ·)).getD "" ++ (u.fragment.map ("#" ++ ·)).getD ""

/-- Whether the URL names this system: it has no host, or the local one. -/
def isLocal (u : Url) : Bool :=
  match u.authority with
  | none => true
  | some a => a.host = none || a.host = some (.domain "localhost")

/-- The path on the local file system that a URL with segments names, whatever its scheme. A path
that ends in a drive letter gets a slash. -/
def filePath? (u : Url) : Option Bytes :=
  match u.path with
  | .rootless _ => none
  | .segments [] => none
  | .segments (s :: ss) =>
    if u.isLocal then
      let path := (s :: ss).flatMap fun s => 0x2F :: Percent.decode (Utf8.encode s)
      match path.reverse with
      | mark :: letter :: _ :: _ =>
        if (mark = 0x3A ∨ mark = 0x7C) ∧ (Char.ofNat letter.toNat).isAlpha then
          some (path ++ [0x2F])
        else some path
      | _ => some path
    else none

end Url
end Appraisal
