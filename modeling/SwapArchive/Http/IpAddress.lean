import SwapArchive.Text.Bytes
/-!
# IP address text

`IpAddress.read s` reads the bytes `s` as an IP address and tells its family, or says what is
wrong (`AddrError`). The first of `.`, `:` and `%` decides: an IPv4 address of four decimal
fields, each at most 255 and without a leading zero; an IPv6 address (RFC 4291, section 2.2) of
hex groups, at most one `::`, possibly a dotted IPv4 tail, and an optional non-empty zone after
`%`; a zone with no address; or, with none of them, no address. The text is read from the left,
and the first fault found is reported with the rest of the text from where it was found.
-/

namespace SwapArchive

namespace IpAddress

/-- The family of an address. -/
inductive Family where
  | v4
  | v6
  deriving DecidableEq, Repr

/-- What is wrong with an address text. -/
inductive AddrFault where
  /-- The text holds none of `.`, `:` and `%`. -/
  | noAddress
  /-- A `%` comes before any `.` or `:`. -/
  | zoneWithoutAddress
  /-- The text ends right after its `%`. -/
  | emptyZone
  /-- A dotted field starts with `0` and goes on. -/
  | leadingZero
  /-- A dotted field is above 255. -/
  | fieldOver255
  /-- A `.` starts or ends the dotted part, or follows another `.`. -/
  | emptyField
  /-- A fifth dotted field. -/
  | tooManyFields
  /-- Fewer than four dotted fields. -/
  | tooFewFields
  /-- A character that belongs in no dotted field. -/
  | unexpected
  /-- A group of more than four hex digits. -/
  | longGroup
  /-- A group with no hex digit. -/
  | emptyGroup
  /-- A dotted part that is not in place of the last two groups. -/
  | misplacedDotted
  /-- A dotted part with fewer than four bytes left for it. -/
  | noRoomForDotted
  /-- A group followed by something other than `:`. -/
  | wantColon
  /-- A `:` that ends the text. -/
  | danglingColon
  /-- A second `::`. -/
  | twoGaps
  /-- Text after sixteen bytes. -/
  | trailing
  /-- Fewer than sixteen bytes and no `::`. -/
  | tooShort
  /-- A `::` that stands for no group. -/
  | emptyGap
  deriving DecidableEq, Repr

namespace AddrFault

/-- The words of a fault. -/
def text : AddrFault → String
  | .noAddress => "unable to parse IP"
  | .zoneWithoutAddress => "missing IPv6 address"
  | .emptyZone => "zone must be a non-empty string"
  | .leadingZero => "IPv4 field has octet with leading zero"
  | .fieldOver255 => "IPv4 field has value >255"
  | .emptyField => "IPv4 field must have at least one digit"
  | .tooManyFields => "IPv4 address too long"
  | .tooFewFields => "IPv4 address too short"
  | .unexpected => "unexpected character"
  | .longGroup => "each group must have 4 or less digits"
  | .emptyGroup => "each colon-separated field must have at least one digit"
  | .misplacedDotted => "embedded IPv4 address must replace the final 2 fields of the address"
  | .noRoomForDotted => "too many hex fields to fit an embedded IPv4 at the end of the address"
  | .wantColon => "unexpected character, want colon"
  | .danglingColon => "colon must be followed by more characters"
  | .twoGaps => "multiple :: in address"
  | .trailing => "trailing garbage after address"
  | .tooShort => "address string too short"
  | .emptyGap => "the :: must expand to at least one field of zeros"

end AddrFault

/-- A text that is not an address: its bytes, the fault, and the rest of the bytes from where
the fault was found (empty when it is not at one place). -/
structure AddrError where
  input : List UInt8
  fault : AddrFault
  rest : List UInt8 := []
  deriving DecidableEq, Repr

namespace AddrError

/-- The message of a text that is not an address. -/
def message (e : AddrError) : String :=
  "ParseAddr(" ++ Bytes.quote e.input ++ "): " ++ e.fault.text ++
    (if e.rest = [] then "" else " (at " ++ Bytes.quote e.rest ++ ")")

end AddrError

/-- The byte of `.`. -/
def dot : UInt8 := 46

/-- The byte of `:`. -/
def colon : UInt8 := 58

/-- The byte of `%`. -/
def percent : UInt8 := 37

/-- Is the byte a decimal digit? -/
def isDigit (b : UInt8) : Bool := 48 ≤ b && b ≤ 57

/-- Is the byte a hex digit? -/
def isHex (b : UInt8) : Bool := isDigit b || (97 ≤ b && b ≤ 102) || (65 ≤ b && b ≤ 70)

/-- Reads dotted fields, given the value and digit count of the field being read, the number of
fields before it and the byte before the rest (`none` at the start). -/
def dotted (input : List UInt8) : List UInt8 → (value digits fields : Nat) → Option UInt8 →
    Except AddrError Unit
  | [], _, _, fields, _ => if fields < 3 then throw ⟨input, .tooFewFields, []⟩ else pure ()
  | c :: rest, value, digits, fields, before =>
    if isDigit c then
      if digits = 1 ∧ value = 0 then throw ⟨input, .leadingZero, []⟩
      else if value * 10 + (c.toNat - 48) > 255 then throw ⟨input, .fieldOver255, []⟩
      else dotted input rest (value * 10 + (c.toNat - 48)) (digits + 1) fields (some c)
    else if c = dot then
      if before.isNone ∨ rest.isEmpty ∨ before = some dot then
        throw ⟨input, .emptyField, c :: rest⟩
      else if fields = 3 then throw ⟨input, .tooManyFields, []⟩
      else dotted input rest 0 0 (fields + 1) (some c)
    else throw ⟨input, .unexpected, c :: rest⟩

/-- Reads groups from byte `i` on, with the byte where `::` stood if one has been read, in `fuel`
steps at most: the bytes read, where `::` stood, and the text left unread. -/
def groups (input : List UInt8) : Nat → List UInt8 → Nat → Option Nat →
    Except AddrError (Nat × Option Nat × List UInt8)
  | 0, s, i, gap => pure (i, gap, s)
  | fuel + 1, s, i, gap =>
    if i ≥ 16 then pure (i, gap, s)
    else
      let n := (s.takeWhile isHex).length
      if n > 4 then throw ⟨input, .longGroup, s⟩
      else if n = 0 then throw ⟨input, .emptyGroup, s⟩
      else
        match s.drop n with
        | [] => pure (i + 2, gap, [])
        | c :: more =>
          if c = dot then
            if gap.isNone ∧ i ≠ 12 then throw ⟨input, .misplacedDotted, s⟩
            else if i + 4 > 16 then throw ⟨input, .noRoomForDotted, s⟩
            else do
              dotted input s 0 0 0 none
              pure (i + 4, gap, [])
          else if c ≠ colon then throw ⟨input, .wantColon, c :: more⟩
          else
            match more with
            | [] => throw ⟨input, .danglingColon, [colon]⟩
            | d :: after =>
              if d = colon then
                if gap.isSome then throw ⟨input, .twoGaps, more⟩
                else if after.isEmpty then pure (i + 2, some (i + 2), [])
                else groups input fuel after (i + 2) (some (i + 2))
              else groups input fuel more (i + 2) gap

/-- Reads an IPv6 address with an optional zone. -/
def readV6 (input : List UInt8) : Except AddrError Unit := do
  let s := input.takeWhile (· ≠ percent)
  if input.contains percent ∧ (input.dropWhile (· ≠ percent)).drop 1 = [] then
    throw ⟨input, .emptyZone, []⟩
  let (s, gap) := match s with
    | a :: b :: rest => if a = colon ∧ b = colon then (rest, some 0) else (s, none)
    | _ => (s, none)
  if gap.isSome ∧ s.isEmpty then return
  let (i, gap, left) ← groups input (s.length + 1) s 0 gap
  if ¬left.isEmpty then throw ⟨input, .trailing, left⟩
  if i < 16 ∧ gap.isNone then throw ⟨input, .tooShort, []⟩
  if i ≥ 16 ∧ gap.isSome then throw ⟨input, .emptyGap, []⟩

/-- Reads the bytes as an IP address: its family, or what is wrong with them. -/
def read (s : List UInt8) : Except AddrError Family :=
  match s.find? fun c => c = dot ∨ c = colon ∨ c = percent with
  | some c =>
    if c = dot then (fun _ => Family.v4) <$> dotted s s 0 0 0 none
    else if c = colon then (fun _ => Family.v6) <$> readV6 s
    else throw ⟨s, .zoneWithoutAddress, []⟩
  | none => throw ⟨s, .noAddress, []⟩

end IpAddress

end SwapArchive
