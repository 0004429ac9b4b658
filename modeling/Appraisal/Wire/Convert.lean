import Appraisal.Wire.Error

/-!
# Appraisal.Wire.Convert

The conversion of one field between the layouts, by a table of byte orders.

* `orderOf?`: the first order that a table lists for a field.
* `convert`: the field in the layout of an endpoint. A field that the table does not list is an
  error for both endpoints; a length that the order does not admit is one for the firmware only.
-/

namespace Appraisal
namespace Wire

/-- Byte orders of fields; of two entries for one field the first counts. -/
abbrev OrderTable := List (Field × ByteOrder)

def OrderTable.orderOf? (table : OrderTable) (f : Field) : Option ByteOrder :=
  (table.find? fun entry => entry.1 == f).map Prod.snd

/-- Why `f` cannot have the order `o` at length `n`, if it cannot. -/
def ByteOrder.violation? (o : ByteOrder) (f : Field) (n : Nat) : Option Error :=
  if o.admits n then none
  else match o with
    | .kept => none
    | .words32 => some (.invalidSwapWindow n 4)
    | .words64 => some (.invalidSwapWindow n 8)
    | .integer => some (.invalidIntegerWidth f n)

/-- Takes the field `f` from the service's layout to that of `e`, or back. -/
def convert (table : OrderTable) (f : Field) (bs : Bytes) (e : Endpoint) : Except Error Bytes :=
  match table.orderOf? f with
  | none => .error (.missingByteOrder f)
  | some o =>
    match e with
    | .service => .ok bs
    | .firmware =>
      match o.violation? f bs.length with
      | some err => .error err
      | none => .ok (o.swap bs)

end Wire
end Appraisal
