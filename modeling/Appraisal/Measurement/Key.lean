import Appraisal.Measurement.Value

/-!
# Appraisal.Measurement.Key

Which thing was measured: its vendor and model, the layer and index, and the type of measurement.

* `Key.compare`: the order of keys. Text goes by code points, and what is absent comes first.
* `Record`: a key with what was measured for it.
-/

namespace Appraisal
namespace Measurement

/-- Which thing was measured. A source that has no index gives zero. -/
structure Key where
  vendor : String := ""
  model : Option String := none
  layer : Int := 0
  index : Int := 0
  measurementType : Option String := none
deriving DecidableEq, Repr

namespace Key

def isEmpty (k : Key) : Bool := k.vendor.isEmpty && k.model.isNone && k.measurementType.isNone

/-- Keys go by vendor, model, layer, index and type, in this order. -/
def compare (a b : Key) : Ordering :=
  (Ord.compare a.vendor b.vendor).then <|
  (Ord.compare a.model b.model).then <|
  (Ord.compare a.layer b.layer).then <|
  (Ord.compare a.index b.index).then <|
  Ord.compare a.measurementType b.measurementType

def render (k : Key) : String :=
  "vendor=" ++ k.vendor ++ " model=" ++ k.model.getD "-" ++ " layer=" ++ toString k.layer
    ++ " index=" ++ toString k.index ++ " type=" ++ k.measurementType.getD "-"

def debug (k : Key) : String :=
  "MeasurementKey \x7b vendor: " ++ Quoted.quote k.vendor
    ++ ", model: " ++ debugOption Quoted.quote k.model
    ++ ", layer: " ++ toString k.layer ++ ", index: " ++ toString k.index
    ++ ", measurement_type: " ++ debugOption Quoted.quote k.measurementType ++ " \x7d"

end Key

structure Record where
  key : Key
  value : Value
deriving DecidableEq, Repr

namespace Record

/-- Whether the record says nothing: no key and no field. -/
def isEmpty (r : Record) : Bool := r.key.isEmpty && r.value.isEmpty

def debug (r : Record) : String :=
  "MeasurementRecord \x7b key: " ++ r.key.debug ++ ", value: " ++ r.value.debug ++ " \x7d"

end Record
end Measurement
end Appraisal
