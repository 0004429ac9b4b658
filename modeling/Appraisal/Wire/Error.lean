import Appraisal.Text.Hex
import Appraisal.Wire.Field

/-!
# Appraisal.Wire.Error

What can be wrong with a message: its size, or the structure inside it.

* `Error.kind`: which of the two.
* `Error.message`: the text of a diagnostic.
-/

namespace Appraisal
namespace Wire

inductive ErrorKind where
  /-- The input is too short, too long or otherwise of the wrong size. -/
  | buffer
  /-- The size is right and what it holds is not. -/
  | structural
deriving DecidableEq, Repr

inductive Error where
  | bufferUnderflow (remaining requested : Nat)
  | remainingLengthMismatch (remaining expected : Nat)
  | invalidPosition (size position : Nat)
  | valueNotFound (value : UInt32)
  | invalidSwapWindow (length window : Nat)
  | invalidIntegerWidth (field : Field) (length : Nat)
  | invalidFieldLength (field : String) (expected actual : Nat)
  | missingByteOrder (field : Field)
  | invalidSignatureMagic (expected actual : UInt32)
  | unsupportedSignatureCurve (magic : UInt32)
  | unsupportedDeviceFamily (value : UInt8)
  | lengthFieldMismatch (message : String) (expected actual : Nat)
deriving DecidableEq, Repr

namespace Error

def kind : Error → ErrorKind
  | bufferUnderflow .. | remainingLengthMismatch .. | invalidPosition .. | valueNotFound ..
  | invalidSwapWindow .. | invalidIntegerWidth .. | invalidFieldLength .. => .buffer
  | missingByteOrder .. | invalidSignatureMagic .. | unsupportedSignatureCurve ..
  | unsupportedDeviceFamily .. | lengthFieldMismatch .. => .structural

def message : Error → String
  | bufferUnderflow remaining requested =>
    s!"Buffer remaining length is {remaining}, but requested {requested}."
  | remainingLengthMismatch remaining expected =>
    s!"Buffer remaining length is {remaining}, but should be equal to {expected}."
  | invalidPosition size position =>
    s!"Buffer has size of {size}, but requested position {position}."
  | valueNotFound value => s!"Requested value {Hex.word value} not found."
  | invalidSwapWindow length window =>
    s!"Destination array length is {length}, but should be a multiple of {window}."
  | invalidIntegerWidth field length =>
    s!"Field {field.name} of {length} bytes cannot be converted as an integer"
  | invalidFieldLength field expected actual =>
    s!"Invalid field length: {field}, expected {expected} bytes, got {actual} bytes"
  | missingByteOrder field => s!"No byte order rule declared for field {field.name}"
  | invalidSignatureMagic expected actual =>
    s!"Invalid signature magic: expected {Hex.word expected}, got {Hex.word actual}"
  | unsupportedSignatureCurve magic =>
    s!"Unsupported signature curve magic: {Hex.word magic}"
  | unsupportedDeviceFamily value => s!"Unsupported device family fuse map: {value}"
  | lengthFieldMismatch message expected actual =>
    s!"Invalid length field: {message}, expected {expected} bytes, got {actual} bytes"

end Error
end Wire
end Appraisal
