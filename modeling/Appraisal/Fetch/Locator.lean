import Appraisal.Error
import Appraisal.Fetch.FileStore
import Appraisal.Url.Basic

/-!
# Appraisal.Fetch.Locator

Fetching the document behind a locator. Files are read only where they are allowed, which is settled
when a fetcher is made, and no more of a document is read than a fetcher's limit and one byte.

* `fetchFile`: the file that a URL names.
* `LocatorFetcher.ofOptions`, `LocatorFetcher.fetch`: a fetcher, and a document fetched with it.
-/

namespace Appraisal

/-- The size of the largest document that is fetched unless options say otherwise: 4 MiB. -/
def defaultMaxSize : Nat := 4 * 1024 * 1024

structure FetchOptions where
  /-- Whether files may be read; the process-wide switch decides if this is left out. -/
  allowFileLocators : Option Bool := none
  maxManifestSize : Option Nat := none
deriving DecidableEq, Repr

def fetchFailure (url : Url) (message : String) : Error := .locatorFetchFailed message url.render

def checkSize (maxSize : Nat) (url : Url) (size : Nat) : Except Error Unit :=
  if size ≤ maxSize then .ok ()
  else .error
    (fetchFailure url s!"body of {size} bytes exceeds the limit of {maxSize} bytes")

/-- How much of a file is read: enough to tell that it is too large, as far as 64 bits count. -/
def readLimit (maxSize : Nat) : Nat := min (maxSize + 1) 0xFFFFFFFFFFFFFFFF

/-- The file that a URL names. Its size is checked before it is read and again behind that, since the
size that is reported may be wrong. -/
def fetchFile (store : FileStore) (maxSize : Nat) (url : Url) : Except Error Bytes :=
  match url.filePath? with
  | none => .error (fetchFailure url "not a local file path")
  | some path =>
    match store.find? path with
    | none => .error .file
    | some content => do
      checkSize maxSize url content.reportedSize
      let body := content.read (readLimit maxSize)
      checkSize maxSize url body.length
      pure body

structure LocatorFetcher where
  allowFileLocators : Bool
  maxSize : Nat
deriving DecidableEq, Repr

namespace LocatorFetcher

/-- The fetcher of some options, made while the process-wide switch is `allowed`. -/
def ofOptions (allowed : Bool) (o : FetchOptions) : LocatorFetcher where
  allowFileLocators := o.allowFileLocators.getD allowed
  maxSize := o.maxManifestSize.getD defaultMaxSize

/-- The document behind a URL. Those of web servers come from `web`. -/
def fetch (f : LocatorFetcher) (web : Url → Except Error Bytes) (store : FileStore) (url : Url) :
    Except Error Bytes :=
  match url.scheme with
  | "http" | "https" => web url
  | "file" =>
    if f.allowFileLocators then fetchFile store f.maxSize url
    else .error (fetchFailure url "file locators are not allowed")
  | scheme => .error (fetchFailure url ("unsupported scheme " ++ scheme))

end LocatorFetcher
end Appraisal
