import Appraisal.Json.Token

/-!
# Appraisal.Json.Value

JSON values. Arrays and objects may nest to any depth: what is still open is kept on a stack.

* `Value.ofTokens?`: the value that tokens write.
* `parse?`: the value that a text writes, blanks around it allowed and nothing else.
-/

namespace Appraisal
namespace Json

/-- A value. Members keep their order and may repeat. -/
inductive Value where
  | null
  | bool (value : Bool)
  /-- A number; its value if it is written as an integer. -/
  | number (integer : Option Int)
  | string (raw : Bytes)
  | array (items : List Value)
  | object (members : List (Bytes × Value))

/-- An array or object that is still open, with what it holds so far, last first. -/
inductive Frame where
  | array (items : List Value)
  | object (members : List (Bytes × Value)) (name : Bytes)

inductive Expect where
  | value
  | after (v : Value)

namespace Value

def build : Expect → List Frame → List Token → Option Value
  | .value, _, [] => none
  | .value, fs, .null :: ts => build (.after .null) fs ts
  | .value, fs, .bool b :: ts => build (.after (.bool b)) fs ts
  | .value, fs, .number n :: ts => build (.after (.number n)) fs ts
  | .value, fs, .string s :: ts => build (.after (.string s)) fs ts
  | .value, fs, .openArray :: .closeArray :: ts => build (.after (.array [])) fs ts
  | .value, fs, .openArray :: ts => build .value (.array [] :: fs) ts
  | .value, fs, .openObject :: .closeObject :: ts => build (.after (.object [])) fs ts
  | .value, fs, .openObject :: .string k :: .colon :: ts => build .value (.object [] k :: fs) ts
  | .value, _, _ => none
  | .after v, [], [] => some v
  | .after v, .array vs :: fs, .comma :: ts => build .value (.array (v :: vs) :: fs) ts
  | .after v, .array vs :: fs, .closeArray :: ts =>
    build (.after (.array (v :: vs).reverse)) fs ts
  | .after v, .object ms k :: fs, .comma :: .string k' :: .colon :: ts =>
    build .value (.object ((k, v) :: ms) k' :: fs) ts
  | .after v, .object ms k :: fs, .closeObject :: ts =>
    build (.after (.object ((k, v) :: ms).reverse)) fs ts
  | .after _, _, _ => none

def ofTokens? (ts : List Token) : Option Value := build .value [] ts

end Value

def parse? (bs : Bytes) : Option Value :=
  match Token.scan? bs with
  | some ts => Value.ofTokens? ts
  | none => none

end Json
end Appraisal
