import SwapArchive.Time.Zone
import SwapArchive.Text.Quoted

/-!
# Writing and reading dates and times

A layout is a list of parts: literal text and fields (year, month, day, hour, minute, second, an
optional fraction, a zone offset). Writing pads years to four digits, drops a fraction's trailing
zeros (and a zero fraction), and writes an offset `Z` for UTC in `Z07:00`, else `±hh:mm`.
`Layout.read` walks the parts: literals match exactly; month and day take two digits, an hour one
or two, a year four; month, hour, minute and second are range-checked at once, the day only at
the end; a fraction takes `.` or `,` and digits (the first nine count); leftover text fails.
Failures are `ParseError`s: `parsing time "v" as "layout": cannot parse "rest" as "part"`, or
`parsing time "v": month out of range`, `...: day out of range`, `...: extra text: "rest"`.
-/

namespace SwapArchive

/-- One part of a layout. -/
inductive LayoutPart where
  | text (s : String)
  | year
  | month
  | day
  | hour
  | minute
  | second
  | fraction
  | zoneZ
  | zoneColon
  | zoneHour
  deriving DecidableEq, Repr

/-- A layout: the parts of a date-time text in order. -/
abbrev Layout := List LayoutPart

namespace LayoutPart

/-- How the part is spelled in a layout text. -/
def spelling : LayoutPart → String
  | .text s => s
  | .year => "2006"
  | .month => "01"
  | .day => "02"
  | .hour => "15"
  | .minute => "04"
  | .second => "05"
  | .fraction => ".999999999"
  | .zoneZ => "Z07:00"
  | .zoneColon => "-07:00"
  | .zoneHour => "-07"

end LayoutPart

namespace Layout

/-- The layout text. -/
def spelling (l : Layout) : String := String.join (l.map LayoutPart.spelling)

/-- Date and time with nanoseconds and zone: `2006-01-02T15:04:05.999999999Z07:00`. -/
def rfc3339Nano : Layout :=
  [.year, .text "-", .month, .text "-", .day, .text "T", .hour, .text ":", .minute, .text ":",
    .second, .fraction, .zoneZ]

/-- Date and time without zone, with optional nanoseconds. -/
def isoLocal : Layout :=
  [.year, .text "-", .month, .text "-", .day, .text "T", .hour, .text ":", .minute, .text ":",
    .second, .fraction]

/-- Date and time separated by a blank, with a `-07:00` offset. -/
def spacedColonZone : Layout :=
  [.year, .text "-", .month, .text "-", .day, .text " ", .hour, .text ":", .minute, .text ":",
    .second, .fraction, .zoneColon]

/-- Date and time separated by a blank, with a `-07` offset. -/
def spacedHourZone : Layout :=
  [.year, .text "-", .month, .text "-", .day, .text " ", .hour, .text ":", .minute, .text ":",
    .second, .fraction, .zoneHour]

/-- Year, month and day: `2006-01-02`. -/
def dateOnly : Layout := [.year, .text "-", .month, .text "-", .day]

/-- Day, month and year: `02-01-2006`. -/
def dayMonthYear : Layout := [.day, .text "-", .month, .text "-", .year]

end Layout

/-! ## Writing -/

namespace TimeText

/-- `n` in decimal, padded with zeros to `width` digits. -/
def pad (width : Nat) (n : Nat) : String :=
  let s := toString n
  String.ofList (List.replicate (width - s.length) '0') ++ s

/-- A year: at least four digits after the sign. -/
def year (y : Int) : String :=
  if y < 0 then "-" ++ pad 4 y.natAbs else pad 4 y.toNat

/-- Nanoseconds as `.ddd` with trailing zeros dropped, empty when zero. -/
def fraction (nsec : Nat) : String :=
  if nsec = 0 then ""
  else
    let ds := (pad 9 nsec).toList
    "." ++ String.ofList (ds.reverse.dropWhile (· = '0')).reverse

/-- A zone offset as `±hh:mm`, or `Z` for zero when `z` is set. The offset is shown in whole
minutes, its seconds dropped toward zero, and the sign is that of the minutes: an offset of less
than a minute west of UTC is `+00:00`. -/
def offset (z : Bool) (off : Int) : String :=
  if z ∧ off = 0 then "Z"
  else
    let minutes := off.tdiv 60
    (if minutes < 0 then "-" else "+") ++ pad 2 (minutes.natAbs / 60) ++ ":" ++
      pad 2 (minutes.natAbs % 60)

/-- `2006-01-02`. -/
def date (c : Civil) : String := year c.year ++ "-" ++ pad 2 c.month ++ "-" ++ pad 2 c.day

/-- `02-01-2006`. -/
def dayMonthYear (c : Civil) : String := pad 2 c.day ++ "-" ++ pad 2 c.month ++ "-" ++ year c.year

/-- `03:04pm`: the twelve-hour clock with a lower-case half-day mark. -/
def clock12 (c : Civil) : String :=
  let h := c.hour % 12
  let h := if h = 0 then 12 else h
  pad 2 h ++ ":" ++ pad 2 c.minute ++ (if c.hour < 12 then "am" else "pm")

/-- `2006-01-02T15:04:05Z07:00` with the fraction of a second when `nano` is set. -/
def rfc3339 (nano : Bool) (t : Instant) (off : Int) : String :=
  let c := Civil.ofInstant t off
  date c ++ "T" ++ pad 2 c.hour ++ ":" ++ pad 2 c.minute ++ ":" ++ pad 2 c.second ++
    (if nano then fraction c.nsec else "") ++ offset true off

/-- An instant in UTC with nanoseconds. -/
def utcNano (t : Instant) : String := rfc3339 true t 0

end TimeText

/-! ## Reading -/

/-- A failed reading of a date-time text. -/
structure ParseError where
  layout : String
  value : String
  valueElem : String
  layoutElem : String
  message : String
  deriving DecidableEq, Repr

namespace ParseError

/-- The message of a failed reading. -/
def text (e : ParseError) : String :=
  if e.message = "" then
    "parsing time " ++ Quoted.quoteBytes e.value ++ " as " ++ Quoted.quoteBytes e.layout ++
      ": cannot parse " ++ Quoted.quoteBytes e.valueElem ++ " as " ++ Quoted.quoteBytes e.layoutElem
  else "parsing time " ++ Quoted.quoteBytes e.value ++ e.message

end ParseError

/-- The fields read from a date-time text. -/
structure ReadFields where
  year : Int := 0
  month : Nat := 0
  day : Nat := 0
  hour : Nat := 0
  minute : Nat := 0
  second : Nat := 0
  nsec : Nat := 0
  offset : Option Int := none

namespace TimeRead

/-- Is the character an ASCII digit? -/
def isDigit (c : Char) : Bool := '0' ≤ c ∧ c ≤ '9'

/-- The value of an ASCII digit. -/
def digitValue (c : Char) : Nat := c.toNat - 48

/-- One or two digits (exactly two when `fixed`). -/
def number (fixed : Bool) : List Char → Option (Nat × List Char)
  | a :: b :: rest =>
    if isDigit a then
      if isDigit b then some (digitValue a * 10 + digitValue b, rest)
      else if fixed then none else some (digitValue a, b :: rest)
    else none
  | [a] => if isDigit a ∧ !fixed then some (digitValue a, []) else none
  | [] => none

/-- Skips literal text; on failure gives the text where matching stopped. -/
def skip : List Char → List Char → Except (List Char) (List Char)
  | [], value => .ok value
  | ' ' :: p, value =>
    match value with
    | c :: _ =>
      if c ≠ ' ' then .error value
      else skip (p.dropWhile (· = ' ')) (value.dropWhile (· = ' '))
    | [] => skip (p.dropWhile (· = ' ')) []
  | c :: p, value =>
    match value with
    | v :: rest => if v = c then skip p rest else .error value
    | [] => .error []
termination_by p => p.length
decreasing_by
  all_goals simp_wf
  all_goals (first | omega |
    (have h : (p.dropWhile (· = ' ')).length ≤ p.length := (List.dropWhile_sublist _).length_le
     omega))

/-- Nanoseconds from `.ddd` or `,ddd`: the first nine digits count. -/
def nanos (ds : List Char) : Nat :=
  let ds := ds.take 9
  ds.foldl (fun acc c => acc * 10 + digitValue c) 0 * Nat.pow 10 (9 - ds.length)

/-- A signed two-digit-hour zone offset: `±hh:mm` when `colon`, else `±hh`. The result is the
offset in seconds east of UTC and the rest, or the range that is exceeded, or no reading. -/
def zoneOffset (colon : Bool) (cs : List Char) : Except (Option String) (Int × List Char) :=
  let fields : Option (Char × List Char × List Char × List Char) :=
    if colon then
      match cs with
      | s :: a :: b :: c :: d :: e :: rest => if c = ':' then some (s, [a, b], [d, e], rest) else none
      | _ => none
    else
      match cs with
      | s :: a :: b :: rest => some (s, [a, b], ['0', '0'], rest)
      | _ => none
  match fields with
  | none => .error none
  | some (sign, hh, mm, rest) =>
    match number true hh, number true mm with
    | some (h, _), some (m, _) =>
      if h > 24 then .error (some "time zone offset hour")
      else if m > 60 then .error (some "time zone offset minute")
      else
        let off : Int := (h * 60 + m) * 60
        if sign = '+' then .ok (off, rest)
        else if sign = '-' then .ok (-off, rest)
        else .error none
    | _, _ => .error none

/-- A fraction of a second: `.` or `,` and at least one digit; absent otherwise. -/
def fractionAt (cs : List Char) : Option (Nat × List Char) :=
  match cs with
  | c :: d :: rest =>
    if (c = '.' ∨ c = ',') ∧ isDigit d then
      let ds := (d :: rest).takeWhile isDigit
      some (nanos ds, (d :: rest).drop ds.length)
    else none
  | _ => none

/-- The state of a reading: the text still to read and the fields read so far. -/
structure State where
  rest : List Char
  fields : ReadFields

/-- Reads the parts of a layout in order. `whole` and `value` are the layout text and the whole
input, for messages. -/
def parts (whole value : String) : Layout → State → Except ParseError State
  | [], st =>
    if st.rest.isEmpty then .ok st
    else .error ⟨whole, value, String.ofList st.rest, "", ": extra text: " ++
      Quoted.quoteBytes (String.ofList st.rest)⟩
  | .text t :: more, st =>
    match skip t.toList st.rest with
    | .ok rest => parts whole value more { st with rest }
    | .error stop => .error ⟨whole, value, String.ofList stop, t, ""⟩
  | part :: more, st =>
    let bad : Except ParseError State :=
      .error ⟨whole, value, String.ofList st.rest, part.spelling, ""⟩
    let range := fun (what : String) (rest : List Char) =>
      (Except.error ⟨whole, value, String.ofList rest, part.spelling,
        ": " ++ what ++ " out of range"⟩ : Except ParseError State)
    let f := st.fields
    match part with
    | .year =>
      let p := st.rest.take 4
      if p.length < 4 || !(p.all isDigit) then bad
      else
        let y := p.foldl (fun acc c => acc * 10 + digitValue c) 0
        parts whole value more ⟨st.rest.drop 4, { f with year := y }⟩
    | .month =>
      match number true st.rest with
      | some (m, rest) =>
        if m = 0 ∨ m > 12 then range "month" rest
        else parts whole value more ⟨rest, { f with month := m }⟩
      | none => bad
    | .day =>
      match number true st.rest with
      | some (d, rest) => parts whole value more ⟨rest, { f with day := d }⟩
      | none => bad
    | .hour =>
      match number false st.rest with
      | some (h, rest) =>
        if h ≥ 24 then range "hour" rest else parts whole value more ⟨rest, { f with hour := h }⟩
      | none => bad
    | .minute =>
      match number true st.rest with
      | some (m, rest) =>
        if m ≥ 60 then range "minute" rest else parts whole value more ⟨rest, { f with minute := m }⟩
      | none => bad
    | .second =>
      match number true st.rest with
      | some (s, rest) =>
        if s ≥ 60 then range "second" rest
        else
          let nextIsFraction := match more with
            | .fraction :: _ => true
            | _ => false
          match (if nextIsFraction then none else fractionAt rest) with
          | some (ns, rest') => parts whole value more ⟨rest', { f with second := s, nsec := ns }⟩
          | none => parts whole value more ⟨rest, { f with second := s }⟩
      | none => bad
    | .fraction =>
      match fractionAt st.rest with
      | some (ns, rest) => parts whole value more ⟨rest, { f with nsec := ns }⟩
      | none => parts whole value more st
    | .zoneZ =>
      match st.rest with
      | 'Z' :: rest => parts whole value more ⟨rest, { f with offset := some 0 }⟩
      | _ =>
        match zoneOffset true st.rest with
        | .ok (o, rest) => parts whole value more ⟨rest, { f with offset := some o }⟩
        | .error (some what) => range what st.rest
        | .error none => bad
    | .zoneColon =>
      match zoneOffset true st.rest with
      | .ok (o, rest) => parts whole value more ⟨rest, { f with offset := some o }⟩
      | .error (some what) => range what st.rest
      | .error none => bad
    | .zoneHour =>
      match zoneOffset false st.rest with
      | .ok (o, rest) => parts whole value more ⟨rest, { f with offset := some o }⟩
      | .error (some what) => range what st.rest
      | .error none => bad
    | .text _ => bad

end TimeRead

namespace Layout

/-- Reads a date-time text by a layout, as the module doc says; a text without zone is UTC. -/
def read (layout : Layout) (value : String) : Except ParseError Instant := do
  let whole := layout.spelling
  let st ← TimeRead.parts whole value layout ⟨value.toList, {}⟩
  let f := st.fields
  if f.day < 1 ∨ f.day > Calendar.daysIn f.month f.year then
    throw ⟨whole, value, String.ofList st.rest, "", ": day out of range"⟩
  let t := Zone.utc.date f.year f.month f.day f.hour f.minute f.second f.nsec
  pure (t.addSeconds (-(f.offset.getD 0)))

end Layout

end SwapArchive
