import SwapArchive.Number.Shortest

/-!
# Texts of a double

Two writers share the shortest digits of `Shortest.ofFloat`. `FloatText.json`, the number of a
JSON document, is positional from `1e-6` up to below `1e21`, else `d.ddde±X` with the exponent as
short as it goes (`1e-7`, `1e+21`). `FloatText.general`, the text of a metric sample, is
positional while the decimal exponent lies in `[-4, 6)`, else `d.ddde±XX` with at least two
exponent digits (`1e+06`). A negative number, negative zero included, gets a `-`. Infinities and
NaN, which have no JSON number, are named `+Inf`, `-Inf` and `NaN`; callers check first.
-/

namespace SwapArchive

namespace FloatText

/-- `n` zeros. -/
def zeros (n : Nat) : String := String.ofList (List.replicate n '0')

/-- Digits `ds` with the decimal point after `point` of them (`point` may lie outside). -/
def positional (ds : String) (point : Int) : String :=
  let n : Int := ds.length
  if point ≤ 0 then "0." ++ zeros (-point).toNat ++ ds
  else if point ≥ n then ds ++ zeros (point - n).toNat
  else String.ofList (ds.toList.take point.toNat) ++ "." ++ String.ofList (ds.toList.drop point.toNat)

/-- Digits `ds` as `d.ddd` times `10^exp`, the exponent with at least `width` digits. -/
def exponential (ds : String) (exp : Int) (width : Nat) : String :=
  let mant := match ds.toList with
    | [] => "0"
    | [d] => String.singleton d
    | d :: rest => String.singleton d ++ "." ++ String.ofList rest
  let e := toString exp.natAbs
  let e := zeros (width - e.length) ++ e
  mant ++ "e" ++ (if exp < 0 then "-" else "+") ++ e

/-- Where positional notation ends, as a range of decimal exponents `[low, high)`, and the least
number of exponent digits otherwise. -/
structure Style where
  low : Int
  high : Int
  expWidth : Nat

/-- JSON numbers: positional from `1e-6` up to below `1e21`, short exponents. -/
def jsonStyle : Style := ⟨-6, 21, 1⟩

/-- Metric samples: positional for decimal exponents in `[-4, 6)`, two exponent digits. -/
def generalStyle : Style := ⟨-4, 6, 2⟩

/-- The text of a finite double in a style. -/
def finiteText (st : Style) (x : Float) : String :=
  let sci := Shortest.ofFloat x
  let sign := if (Shortest.fields x).1 then "-" else ""
  if sci.digits = 0 then sign ++ "0"
  else
    let ds := toString sci.digits
    let lead : Int := sci.exp + ds.length - 1
    if st.low ≤ lead ∧ lead < st.high then sign ++ positional ds (lead + 1)
    else sign ++ exponential ds lead st.expWidth

/-- The text of any double in a style; the non-finite ones are `NaN`, `+Inf` and `-Inf`. -/
def text (st : Style) (x : Float) : String :=
  if x.isNaN then "NaN"
  else if x.isInf then (if x > 0 then "+Inf" else "-Inf")
  else finiteText st x

/-- A double as a JSON number. -/
def json (x : Float) : String := text jsonStyle x

/-- A double as a metric sample. -/
def general (x : Float) : String := text generalStyle x

end FloatText

end SwapArchive
