/-!
# Asset names

A pool identifier such as `ETH.USDC-0XA0B8` names an asset. Two styles turn it into a name:

* the pool style cuts the identifier at its first two delimiters among `./~-_|:;,+*^$!?` and joins
  the first two pieces with `.`, so the contract suffix goes: `ETH.USDC-0XA0B8` is `ETH.USDC`,
  `BTC~BTC` is `BTC.BTC`;
* the trade style cuts at the first two of `./~` and keeps the first delimiter: `BTC~BTC` stays.

An identifier without any delimiter of its style has no name.
-/

namespace SwapArchive

namespace Asset

/-- The delimiters of the pool style. -/
def poolDelimiters : List Char :=
  ['.', '/', '~', '-', '_', '|', ':', ';', ',', '+', '*', '^', '$', '!', '?']

/-- The delimiters of the trade style. -/
def tradeDelimiters : List Char := ['.', '/', '~']

/-- The text before the first delimiter, the delimiter, and the text after it. -/
def splitFirst (delims : List Char) (cs : List Char) : Option (List Char × Char × List Char) :=
  match cs.findIdx? (· ∈ delims) with
  | some i =>
    match cs[i]? with
    | some d => some (cs.take i, d, cs.drop (i + 1))
    | none => none
  | none => none

/-- The first two pieces of the identifier cut at delimiters, with the first delimiter. -/
def firstPieces (delims : List Char) (cs : List Char) : Option (List Char × Char × List Char) :=
  match splitFirst delims cs with
  | some (a, d, rest) =>
    let b := match splitFirst delims rest with
      | some (b, _, _) => b
      | none => rest
    some (a, d, b)
  | none => none

/-- The asset name of a pool identifier in a style; every style other than `trade` is the
pool style. -/
def name (pool : String) (style : String) : Option String :=
  if style = "trade" then
    (firstPieces tradeDelimiters pool.toList).map fun (a, d, b) => String.ofList (a ++ d :: b)
  else
    (firstPieces poolDelimiters pool.toList).map fun (a, _, b) => String.ofList (a ++ '.' :: b)

end Asset

end SwapArchive
