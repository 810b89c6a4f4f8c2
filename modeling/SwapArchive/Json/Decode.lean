import SwapArchive.Json.Value
import SwapArchive.Number.Decimal
import SwapArchive.Number.IntText

/-!
# Reading JSON into typed fields

A field is found by its name without regard to ASCII case; members with matching names are read
in order, each over the one before, and a `null` one leaves the field as it is (`Json.field`); an
optional field is `none` when its last member is `null` (`Json.field?`). A string, boolean, list
or map field takes only a string, boolean, array or object; an integer field only a literal
without fraction or exponent that fits its width; a float field any literal in the range of
doubles, rounded to the nearest. A value of the wrong type fails the whole reading, naming the
field's type, even when a later member of the same name would be read.
-/

namespace SwapArchive

/-- A reader of one typed value out of a JSON value. -/
abbrev Reader (α : Type) := Json → Except String α

namespace Json

/-- The key comparison of typed reading: ASCII letters in lower case, and the long s (U+017F)
and the Kelvin sign (U+212A), which fold onto `s` and `k`, as those letters. -/
def foldKey (s : String) : String :=
  String.ofList (s.toList.map fun c =>
    if c.toNat = 0x17F then 's' else if c.toNat = 0x212A then 'k' else c.toLower)

/-- The last member whose name matches `name` without regard to case; `null` counts as absent. -/
def get? (j : Json) (name : String) : Option Json :=
  match j with
  | .obj members =>
    let key := foldKey name
    match (members.filter fun m => foldKey m.1 == key).getLast? with
    | some (_, .null) => none
    | some (_, v) => some v
    | none => none
  | _ => none

/-- The kind of a value, as type errors name it. -/
def kindName : Json → String
  | .null => "null"
  | .bool _ => "bool"
  | .num _ => "number"
  | .str _ => "string"
  | .arr _ => "array"
  | .obj _ => "object"

/-- The failure of reading a value of the wrong kind into a field of type `ty`. -/
def mismatch {α : Type} (ty : String) (j : Json) : Except String α :=
  .error ("json: cannot unmarshal " ++ kindName j ++ " into a field of type " ++ ty)

/-- The members whose names match `name` without regard to case, in order. -/
def matching (j : Json) (name : String) : List Json :=
  match j with
  | .obj members =>
    let key := foldKey name
    (members.filter fun m => foldKey m.1 == key).map (·.2)
  | _ => []

/-- Reads a field, or gives `dflt` when it is absent or only `null`. -/
def field {α : Type} (j : Json) (name : String) (read : Reader α) (dflt : α) : Except String α :=
  match ((j.matching name).filter fun v => !v.isNull).mapM read with
  | .error e => .error e
  | .ok vs => .ok (vs.getLast?.getD dflt)

/-- Reads an optional field: absent, or `null` in its last member, gives `none`. -/
def field? {α : Type} (j : Json) (name : String) (read : Reader α) : Except String (Option α) :=
  let ms := j.matching name
  match (ms.filter fun v => !v.isNull).mapM read with
  | .error e => .error e
  | .ok _ =>
    match ms.getLast? with
    | some .null => .ok none
    | some v => some <$> read v
    | none => .ok none

/-- Checks that a value can be read as a record: an object or `null`. -/
def expectObject (ty : String) (j : Json) : Except String Unit :=
  match j with
  | .obj _ => .ok ()
  | .null => .ok ()
  | j => mismatch ty j

/-- Reads a string. -/
def readString : Reader String
  | .str s => .ok s
  | j => mismatch "string" j

/-- Reads a boolean. -/
def readBool : Reader Bool
  | .bool b => .ok b
  | j => mismatch "bool" j

/-- Reads a signed integer of `bits` bits from a number literal. -/
def readIntBits (bits : Nat) : Reader Int
  | .num lit =>
    match IntText.parse "ParseInt" bits lit with
    | .ok v => .ok v
    | .error _ => .error ("json: cannot unmarshal number " ++ lit ++ " into a field of type int" ++
        toString bits)
  | j => mismatch ("int" ++ toString bits) j

/-- Reads a 64-bit integer. -/
def readInt : Reader Int := readIntBits 64

/-- Reads a 32-bit integer. -/
def readInt32 : Reader Int := readIntBits 32

/-- Reads a double from a number literal, rounded to the nearest; a negative literal that rounds
to zero is negative zero. -/
def readFloat : Reader Float
  | .num lit =>
    match Decimal.parse lit with
    | .ok d =>
      let f := d.toFloat
      let f := if lit.startsWith "-" && f == 0 then -f else f
      if f.isInf then .error ("json: cannot unmarshal number " ++ lit ++ " into a field of type float64")
      else .ok f
    | .error _ => .error ("json: cannot unmarshal number " ++ lit ++ " into a field of type float64")
  | j => mismatch "float64" j

/-- Reads an array item by item; `null` is the empty list. -/
def readList {α : Type} (read : Reader α) : Reader (List α)
  | .arr items => items.mapM read
  | .null => .ok []
  | j => mismatch "slice" j

/-- Puts `(k, v)` into an association list, replacing an earlier value of `k` in place. -/
def assocPut {α : Type} (m : List (String × α)) (k : String) (v : α) : List (String × α) :=
  if m.any (·.1 == k) then m.map fun e => if e.1 == k then (k, v) else e else m ++ [(k, v)]

/-- Reads an object as a map from member names to values; a repeated name keeps its last value;
`null` is the empty map. -/
def readMap {α : Type} (read : Reader α) : Reader (List (String × α))
  | .obj members => members.foldlM (fun m (k, v) => do
      let a ← read v
      pure (assocPut m k a)) []
  | .null => .ok []
  | j => mismatch "map" j

/-- Keeps a value as it is. -/
def readAny : Reader Json := fun j => .ok j

end Json

end SwapArchive
