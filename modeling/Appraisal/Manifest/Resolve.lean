import Appraisal.Manifest.Basic
import Appraisal.Manifest.Origin
import Appraisal.Url.Parser

/-!
# Appraisal.Manifest.Resolve

A reference manifest with all that its locators lead to. Nested manifests are opened level by level;
what cannot be fetched, is not authentic, is no manifest or is revoked adds nothing. The limits on
levels and on locators hold whatever the fetched documents say.

* `openDocument`: one document, authentic and not revoked.
* `followLevel`, `followLevels`: the walk along locators, one level and all of them.
* `resolve`: a document and the nested ones, as one manifest.
-/

namespace Appraisal
namespace Manifest

def maxLevels : Nat := 16

def maxLocators : Nat := 64

/-- Checks that the revocation list of a document does not deny it. Only where unsigned documents are
accepted may a document do without a list. -/
def checkRevocation (acceptUnsigned : Bool) (p : Parsed) (signerKey : Option Bytes) :
    Dialogue Unit :=
  match p.revocationLocator with
  | none => if acceptUnsigned then pure () else .fail .missingRevocationLocator
  | some locator =>
    match Url.parse? locator with
    | none => .fail .url
    | some url => do
      let document ← Dialogue.fetch url
      let payload ← openRevocationList acceptUnsigned document signerKey
      match RevocationList.parse? payload, p.manifest.manifestId with
      | none, _ => .fail .json
      | some _, none => pure ()
      | some list, some manifestId =>
        if list.deniedManifestIds.contains manifestId then .fail (.manifestRevoked manifestId)
        else pure ()

/-- The manifest in a document that is authentic and not revoked. -/
def openDocument (acceptUnsigned : Bool) (document : Bytes) : Dialogue Parsed := do
  let opened ← openManifest acceptUnsigned document
  let parsed ← parseDocument opened.payload
  checkRevocation acceptUnsigned parsed opened.signerKey
  pure parsed

def fetchDocument (acceptUnsigned : Bool) (url : Url) : Dialogue Parsed := do
  let document ← Dialogue.fetch url
  openDocument acceptUnsigned document

def extend (m n : Manifest) : Manifest :=
  { m with records := m.records ++ n.records, endorsed := m.endorsed ++ n.endorsed }

/-- What the walk along locators has gathered, and how many locators it has followed. -/
structure Walk where
  manifest : Manifest
  followed : Nat := 0
deriving DecidableEq, Repr

/-- Follows what is left of the locators of a level. `seen` are the URLs of the level that were
followed, and `next` the locators found behind them. Ends with the locators of the next level, or
with none at the locator that is one too many. -/
def followLevel (acceptUnsigned : Bool) (seen : List Url) (next : List String) (w : Walk) :
    List String → Dialogue (Walk × Option (List String))
  | [] => pure (w, some next)
  | locator :: locators =>
    match Url.parse? locator with
    | none => followLevel acceptUnsigned seen next w locators
    | some url =>
      if url ∈ seen then followLevel acceptUnsigned seen next w locators
      else if w.followed = maxLocators then pure (w, none)
      else do
        let nested ← (fetchDocument acceptUnsigned url).attempt
        match nested with
        | .ok p =>
          followLevel acceptUnsigned (url :: seen) (next ++ p.locators)
            { manifest := extend w.manifest p.manifest, followed := w.followed + 1 } locators
        | .error _ =>
          followLevel acceptUnsigned (url :: seen) next { w with followed := w.followed + 1 } locators

/-- Follows locators level by level, where `levels` more may be opened. -/
def followLevels (acceptUnsigned : Bool) : (levels : Nat) → Walk → List String → Dialogue Manifest
  | _, w, [] => pure w.manifest
  | 0, w, _ => pure w.manifest
  | levels + 1, w, locators => do
    let (w, next) ← followLevel acceptUnsigned [] [] w locators
    match next with
    | some next => followLevels acceptUnsigned levels w next
    | none => pure w.manifest

/-- The manifest that a document makes with all that its locators lead to. -/
def resolve (acceptUnsigned : Bool) (document : Bytes) : Dialogue Manifest := do
  let top ← openDocument acceptUnsigned document
  followLevels acceptUnsigned maxLevels { manifest := top.manifest } top.locators

end Manifest
end Appraisal
