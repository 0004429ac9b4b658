import Appraisal.Bytes
import Appraisal.Text.Split

/-!
# Appraisal.Fetch.FileStore

The files that a locator may name, by their paths. A file may have no end, as some devices have; such
a file is reported to be empty.

* `FileStore.find?`: the file at an absolute path.
* `FileContent.read`: the front of a file.
-/

namespace Appraisal

inductive FileContent where
  | bytes (content : Bytes)
  | endless (byte : UInt8)
deriving DecidableEq, Repr

namespace FileContent

def reportedSize : FileContent → Nat
  | bytes content => content.length
  | endless _ => 0

def read (n : Nat) : FileContent → Bytes
  | bytes content => content.take n
  | endless byte => List.replicate n byte

end FileContent

structure FileStore where
  files : List (List Bytes × FileContent)
deriving DecidableEq, Repr

namespace FileStore

def isDirectory (s : FileStore) (place : List Bytes) : Bool :=
  s.files.any fun f => place.isPrefixOf f.1 && place.length < f.1.length

/-- The place that names lead to from a directory. An empty name and a point stay in it, two points
lead to the one above. -/
def walk? (s : FileStore) (place : List Bytes) : List Bytes → Option (List Bytes)
  | [] => some place
  | name :: names =>
    if !s.isDirectory place then none
    else if name = [] ∨ name = [0x2E] then s.walk? place names
    else if name = [0x2E, 0x2E] then s.walk? place.dropLast names
    else s.walk? (place ++ [name]) names

def at? (s : FileStore) (place : List Bytes) : Option FileContent :=
  (s.files.find? fun f => f.1 == place).map Prod.snd

/-- The file at a path from the root, with a slash before each name. -/
def find? (s : FileStore) (path : Bytes) : Option FileContent :=
  (s.walk? [] (splitWhere (· == 0x2F) path)).bind s.at?

end FileStore
end Appraisal
