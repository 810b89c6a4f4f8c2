/-!
# JSON values

A JSON document as a tree. A number keeps the literal text it was read or written with: an
integer field, a float field and an exact decimal each read that text by their own rules, and a
writer decides the text of each number once, where it knows the number's type.

Objects keep their members in the order they were read or built, duplicates included; a reader
of a field decides which duplicate wins (`Json.member?` takes the last one).
-/

namespace SwapArchive

/-- A JSON value. -/
inductive Json where
  | null
  | bool (b : Bool)
  | num (lit : String)
  | str (s : String)
  | arr (items : List Json)
  | obj (members : List (String × Json))
  deriving Inhabited

namespace Json

/-- An integer, written in full. -/
def ofInt (i : Int) : Json := .num (toString i)

/-- A natural number, written in full. -/
def ofNat (n : Nat) : Json := .num (toString n)

/-- A list of strings. -/
def ofStrings (xs : List String) : Json := .arr (xs.map .str)

/-- An optional value, `null` when absent. -/
def ofOption {α : Type} (f : α → Json) : Option α → Json
  | none => .null
  | some a => f a

/-- Does the value stand for "nothing" when read into a typed field? Only `null` does. -/
def isNull : Json → Bool
  | .null => true
  | _ => false

end Json

end SwapArchive
