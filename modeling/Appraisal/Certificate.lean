import Appraisal.Der.Time
import Appraisal.TcbInfo

/-!
# Appraisal.Certificate

X.509 certificates, as far as the verifier looks at them: the public key, for a collaborator that
checks signatures, and the extensions. Neither the signature nor the dates of a certificate are
checked, and what follows a certificate is not looked at.

* `Certificate.read?`: the certificate in front of some bytes.
* `tcbRecords`: the TCB info records of a certificate's extensions.
-/

namespace Appraisal

open Der

structure Extension where
  oid : String
  value : Bytes
deriving DecidableEq, Repr

/-- A certificate: the subject's whole public key info, and the extensions. -/
structure Certificate where
  publicKeyInfo : Bytes
  extensions : List Extension
deriving DecidableEq, Repr

namespace Certificate

/-- The element with tag `tag` in front of `bs`, whatever its class, and what follows it. -/
def tagged? (tag : Nat) (bs : Bytes) : Option (Element × Bytes) :=
  match Element.read? bs with
  | some (e, r) => if e.tag = tag then some (e, r) else none
  | none => none

/-- The content of the sequence in front of `bs`, and what follows it. -/
def sequence? (bs : Bytes) : Option (Bytes × Bytes) :=
  match tagged? Tag.sequence bs with
  | some (e, r) => if e.tagClass = .universal then some (e.content, r) else none
  | none => none

/-- The primitive element with tag `tag` in front of `bs`: its content, and what follows it. -/
def primitive? (tag : Nat) (bs : Bytes) : Option (Bytes × Bytes) :=
  match tagged? tag bs with
  | some (e, r) => if e.constructed then none else some (e.content, r)
  | none => none

/-- Whether `content` is that of a bit string: a count of unused bits, and bytes whose unused bits are
zero. -/
def isBitString : Bytes → Bool
  | [] => false
  | [unused] => unused == 0
  | unused :: bits =>
    let last := (bits.getLast?.getD 0).toNat
    unused.toNat ≤ 8 && last % (1 <<< unused.toNat) == 0

def skipBitString? (bs : Bytes) : Option Bytes :=
  match primitive? Tag.bitString bs with
  | some (content, r) => if isBitString content then some r else none
  | none => none

/-- What follows the version in front of `bs`, if there is one. -/
def skipVersion? (bs : Bytes) : Option Bytes :=
  match Header.read? bs with
  | none => none
  | some (h, r) =>
    if h.tag = 0 then
      match primitive? Tag.integer r with
      | some (content, r) =>
        match int64 content with
        | .ok n => if 0 ≤ n ∧ n < 0x100000000 then some r else none
        | .error _ => none
      | none => none
    else some bs

/-- What follows the algorithm identifier in front of `bs`: an object identifier and perhaps an
element of parameters. -/
def skipAlgorithm? (bs : Bytes) : Option Bytes :=
  match sequence? bs with
  | none => none
  | some (content, r) =>
    match primitive? Tag.objectId content with
    | none => none
    | some (_, parameters) =>
      if parameters.isEmpty || (Element.read? parameters).isSome then some r else none

def skipTime? (bs : Bytes) : Option Bytes :=
  match Element.read? bs with
  | none => none
  | some (e, r) =>
    if e.constructed then none
    else if e.tag = Tag.utcTime then if isUtcTime e.content then some r else none
    else if e.tag = Tag.generalizedTime then if isGeneralizedTime e.content then some r else none
    else none

def skipValidity? (bs : Bytes) : Option Bytes :=
  match sequence? bs with
  | none => none
  | some (content, r) =>
    match skipTime? content with
    | none => none
    | some notAfter => if (skipTime? notAfter).isSome then some r else none

/-- The public key info in front of `bs` up to the end of its key, and what follows it. -/
def publicKeyInfo? (bs : Bytes) : Option (Bytes × Bytes) :=
  match sequence? bs with
  | none => none
  | some (content, r) =>
    match skipAlgorithm? content with
    | none => none
    | some key =>
      match skipBitString? key with
      | none => none
      | some behind => some (bs.take (bs.length - r.length - behind.length), r)

/-- What follows the unique identifier with context tag `tag` in front of `bs`, if there is one. -/
def skipUniqueId? (tag : Nat) (bs : Bytes) : Option Bytes :=
  if bs.isEmpty then some bs
  else match Element.read? bs with
    | none => none
    | some (e, r) =>
      if e.tag ≠ tag then some bs
      else if e.tagClass = .contextSpecific ∧ isBitString e.content then some r
      else none

/-- What follows the mark of a critical extension in front of `bs`, if there is one. -/
def skipCritical (bs : Bytes) : Bytes :=
  match primitive? Tag.boolean bs with
  | some ([_], r) => r
  | _ => bs

def extension? (content : Bytes) : Option Extension :=
  match primitive? Tag.objectId content with
  | none => none
  | some (oid, r) =>
    match primitive? Tag.octetString (skipCritical r) with
    | none => none
    | some (value, _) => some ⟨objectId oid, value⟩

def extensionOf? (e : Element) : Option Extension :=
  if e.tagClass = .universal ∧ e.tag = Tag.sequence then extension? e.content else none

/-- The extensions at the end of a certificate, in an element with context tag 3. -/
def extensions? (bs : Bytes) : Option (List Extension) :=
  if bs.isEmpty then some []
  else match Header.read? bs with
    | none => none
    | some (h, r) =>
      if h.tag ≠ 3 then none
      else match sequence? r with
        | none => none
        | some (content, _) =>
          match elements? content with
          | none => none
          | some es => es.mapM extensionOf?

def toBeSigned? (content : Bytes) : Option Certificate := do
  let r ← skipVersion? content
  let (_, r) ← tagged? Tag.integer r
  let r ← skipAlgorithm? r
  let (_, r) ← sequence? r
  let r ← skipValidity? r
  let (_, r) ← sequence? r
  let (publicKeyInfo, r) ← publicKeyInfo? r
  let r ← skipUniqueId? 1 r
  let r ← skipUniqueId? 2 r
  let extensions ← extensions? r
  pure { publicKeyInfo, extensions }

def read? (bs : Bytes) : Option Certificate := do
  let (content, _) ← sequence? bs
  let (tbs, r) ← sequence? content
  let c ← toBeSigned? tbs
  let r ← skipAlgorithm? r
  let _ ← skipBitString? r
  pure c

/-- The certificate in front of `bs`, or why there is none. -/
def read (bs : Bytes) : Except Error Certificate :=
  match read? bs with
  | some c => .ok c
  | none => .error .certificate

def recordsOf : List Extension → Except Error (List Measurement.Record)
  | [] => .ok []
  | x :: xs =>
    match TcbInfo.ofExtension x.oid x.value with
    | .error e => .error e
    | .ok rs =>
      match recordsOf xs with
      | .error e => .error e
      | .ok rs' => .ok (rs ++ rs')

end Certificate

/-- The TCB info records of the certificate in front of `bs`. -/
def tcbRecords (bs : Bytes) : Except Error (List Measurement.Record) :=
  match Certificate.read bs with
  | .error e => .error e
  | .ok c => Certificate.recordsOf c.extensions

end Appraisal
