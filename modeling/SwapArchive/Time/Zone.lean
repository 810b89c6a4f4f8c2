import SwapArchive.Time.Calendar
import SwapArchive.Time.ZoneData

/-!
# Time zones

A zone is a list of local time types (offset east of UTC, daylight flag), the transitions between
them, and a POSIX TZ rule continuing them. `Zone.lookup` gives the offset in force at a UTC
instant with the span of UTC seconds that keeps it. `Zone.date` turns a wall-clock reading into an
instant: the offset in force at the reading taken as UTC is tried first, and replaced by the one
at the resulting instant when that falls outside the first offset's span, so a skipped reading
moves by the size of the gap. Before the first transition a zone keeps its first standard type;
after the last the POSIX rule decides, within the UTC year of the instant.
-/

namespace SwapArchive

/-- A local time type. -/
structure LocalType where
  offset : Int
  isDst : Bool
  deriving DecidableEq, Repr

/-- The day of a yearly change in a POSIX TZ rule. -/
inductive DayRule where
  /-- Day `n` of the year, 1 to 365, February 29 never counted. -/
  | julian (n : Nat)
  /-- Day `n` of the year, 0 to 365, February 29 counted. -/
  | dayOfYear (n : Nat)
  /-- Weekday `d` (0 is Sunday) of week `w` (5 is the last) of month `m`. -/
  | monthWeekDay (m w d : Nat)
  deriving DecidableEq, Repr

/-- A yearly change: its day and the local time of day, in seconds, when it happens. -/
structure ChangeRule where
  day : DayRule
  time : Int
  deriving DecidableEq, Repr

/-- A POSIX TZ rule: a standard offset, and possibly a daylight offset with the changes between. -/
inductive TzRule where
  | fixed (offset : Int)
  | seasonal (stdOffset dstOffset : Int) (start stop : ChangeRule)
  deriving DecidableEq, Repr

/-- A time zone. -/
structure Zone where
  types : Array LocalType
  transitions : Array (Int × Nat)
  rule : Option TzRule
  deriving Repr

/-- The offset in force at an instant, the span `[start, stop)` of UTC seconds around it where it
holds, and whether it is daylight time. -/
structure ZoneLookup where
  offset : Int
  start : Int
  stop : Int
  isDst : Bool
  deriving DecidableEq, Repr

namespace Zone

/-- The first second a zone can describe. -/
def alpha : Int := -(Int.pow 2 63)

/-- The last second a zone can describe. -/
def omega : Int := Int.pow 2 63 - 1

/-- Coordinated Universal Time. -/
def utc : Zone := ⟨#[], #[], none⟩

/-! ## POSIX TZ rules -/

namespace RuleText

/-- A number in `[lo, hi]` at the start of the text, and the rest. -/
def number (lo hi : Nat) (cs : List Char) : Option (Nat × List Char) :=
  let ds := cs.takeWhile Char.isDigit
  if ds.isEmpty then none
  else
    let n := ds.foldl (fun acc c => acc * 10 + (c.toNat - 48)) 0
    if n < lo ∨ n > hi then none else some (n, cs.drop ds.length)

/-- A zone abbreviation: `<...>` or at least three characters up to a digit, sign or comma. -/
def name (cs : List Char) : Option (List Char) :=
  match cs with
  | [] => none
  | '<' :: rest =>
    match rest.findIdx? (· = '>') with
    | some i => some (rest.drop (i + 1))
    | none => none
  | _ =>
    let stop := fun (c : Char) => c.isDigit || c = ',' || c = '-' || c = '+'
    let n := (cs.takeWhile fun c => !stop c).length
    if n < 3 then none else some (cs.drop n)

/-- An offset `[+-]hh[:mm[:ss]]` in seconds, hours up to one week. -/
def offset (cs : List Char) : Option (Int × List Char) := do
  let (neg, cs) : Bool × List Char := match cs with
    | '+' :: r => (false, r)
    | '-' :: r => (true, r)
    | r => (false, r)
  let (h, cs) ← number 0 (24 * 7) cs
  let sign := fun (x : Int) => if neg then -x else x
  match cs with
  | ':' :: r =>
    let (m, cs) ← number 0 59 r
    match cs with
    | ':' :: r' =>
      let (s, cs) ← number 0 59 r'
      pure (sign (h * 3600 + m * 60 + s), cs)
    | _ => pure (sign (h * 3600 + m * 60), cs)
  | _ => pure (sign (h * 3600), cs)

/-- A change rule `Jn`, `n` or `Mm.w.d`, with an optional `/time` (2:00 by default). -/
def change (cs : List Char) : Option (ChangeRule × List Char) := do
  let (day, cs) ← match cs with
    | 'J' :: r => do
      let (n, r) ← number 1 365 r
      pure (DayRule.julian n, r)
    | 'M' :: r => do
      let (m, r) ← number 1 12 r
      let r ← match r with | '.' :: r => some r | _ => none
      let (w, r) ← number 1 5 r
      let r ← match r with | '.' :: r => some r | _ => none
      let (d, r) ← number 0 6 r
      pure (DayRule.monthWeekDay m w d, r)
    | r => do
      let (n, r) ← number 0 365 r
      pure (DayRule.dayOfYear n, r)
  match cs with
  | '/' :: r => do
    let (t, r) ← offset r
    pure (⟨day, t⟩, r)
  | _ => pure (⟨day, 7200⟩, cs)

/-- Reads a whole POSIX TZ rule. -/
def rule (s : String) : Option TzRule := do
  let cs ← name s.toList
  let (std, cs) ← offset cs
  let std := -std
  match cs with
  | [] => pure (.fixed std)
  | ',' :: _ => pure (.fixed std)
  | _ => do
    let cs ← name cs
    let (dst, cs) ← match cs with
      | [] => some (std + 3600, cs)
      | ',' :: _ => some (std + 3600, cs)
      | _ => do
        let (o, r) ← offset cs
        pure (-o, r)
    let cs := if cs.isEmpty then ",M3.2.0,M11.1.0".toList else cs
    let cs ← match cs with
      | ',' :: r => some r
      | ';' :: r => some r
      | _ => none
    let (start, cs) ← change cs
    let cs ← match cs with | ',' :: r => some r | _ => none
    let (stop, cs) ← change cs
    if cs.isEmpty then pure (.seasonal std dst start stop) else none

end RuleText

/-- Days before the first of a month in a common year. -/
def daysBefore (m : Nat) : Nat :=
  [0, 31, 59, 90, 120, 151, 181, 212, 243, 273, 304, 334].getD (m - 1) 0

/-- Seconds from the start of the year (UTC) to a change, whose local time is at `off`. -/
def changeTime (year : Int) (r : ChangeRule) (off : Int) : Int :=
  let s : Int := match r.day with
    | .julian n => ((n : Int) - 1) * 86400 + (if Calendar.isLeap year ∧ n ≥ 60 then 86400 else 0)
    | .dayOfYear n => (n : Int) * 86400
    | .monthWeekDay m w d =>
      let first := Calendar.weekday (Calendar.daysFromCivil year m 1)
      let d0 : Nat := (d + 7 - first) % 7
      let md := Calendar.daysIn m year
      let day := (List.range (w - 1)).foldl (fun acc _ => if acc + 7 ≥ md then acc else acc + 7) d0
      let day := day + daysBefore m + (if Calendar.isLeap year ∧ m > 2 then 1 else 0)
      (day : Int) * 86400
  s + r.time - off

/-- The offset the rule gives at UTC second `sec`, with the span around it; `lastTx` is the time
of the last transition, where a fixed rule's span starts. The second of the year is counted from
the day of `sec` and the remainder of `sec` divided by a day, rounded toward zero; the span's ends
wrap as words. -/
def ruleLookup (r : TzRule) (lastTx sec : Int) : ZoneLookup :=
  match r with
  | .fixed off => ⟨off, lastTx, omega, false⟩
  | .seasonal std dst start stop =>
    let days := Calendar.readable sec / 86400
    let (year, _, _) := Calendar.civilFromDays days
    let yearStart := Calendar.daysFromCivil year 1 1 * 86400
    let ysec := (days - Calendar.daysFromCivil year 1 1) * 86400 + sec.tmod 86400
    let startSec := changeTime year start std
    let endSec := changeTime year stop dst
    -- a rule whose daylight time spans the turn of the year is read the other way round
    let (startSec, endSec, stdOff, dstOff, stdIsDst, dstIsDst) :=
      if endSec < startSec then (endSec, startSec, dst, std, true, false)
      else (startSec, endSec, std, dst, false, true)
    let yearStart := Word.wrap64 yearStart
    let yearLength : Int := 365 * 86400
    let span := fun (a b : Int) (off : Int) (isDst : Bool) =>
      (⟨off, Word.wrap64 a, Word.wrap64 b, isDst⟩ : ZoneLookup)
    if ysec < startSec then span yearStart (startSec + yearStart) stdOff stdIsDst
    else if ysec ≥ endSec then span (endSec + yearStart) (yearStart + yearLength) stdOff stdIsDst
    else span (startSec + yearStart) (endSec + yearStart) dstOff dstIsDst

/-! ## Looking up an offset -/

/-- The type in force before the first transition: the first type if no transition uses it,
else the last standard type before the first transition's daylight type, else the first
standard type. -/
def firstTypeIndex (z : Zone) : Nat :=
  let used := z.transitions.any (·.2 == 0)
  if !used then 0
  else
    let isDst := fun (i : Nat) => (z.types[i]?.map (·.isDst)).getD false
    let fromFirst : Option Nat :=
      match z.transitions[0]? with
      | some (_, i) =>
        if isDst i then ((List.range i).reverse.find? fun j => !isDst j) else none
      | none => none
    match fromFirst with
    | some j => j
    | none => ((List.range z.types.size).find? fun j => !isDst j).getD 0

/-- The index of the last transition at or before `sec`, searching `[lo, hi)`, with the time of
the next transition (or `omega`). -/
def findTransition (tx : Array (Int × Nat)) (sec : Int) (lo hi stop : Int) (fuel : Nat) :
    Nat × Int :=
  match fuel with
  | 0 => (lo.toNat, stop)
  | fuel + 1 =>
    if hi - lo > 1 then
      let m := (lo + hi) / 2
      let lim := (tx[m.toNat]?.map (·.1)).getD omega
      if sec < lim then findTransition tx sec lo m lim fuel
      else findTransition tx sec m hi stop fuel
    else (lo.toNat, stop)

/-- The offset in force at UTC second `sec`, with its span. -/
def lookup (z : Zone) (sec : Int) : ZoneLookup :=
  if z.types.isEmpty then ⟨0, alpha, omega, false⟩
  else
    let tx := if z.transitions.isEmpty then #[(alpha, 0)] else z.transitions
    let typeAt := fun (i : Nat) => z.types[i]?.getD ⟨0, false⟩
    match tx[0]? with
    | some (first, _) =>
      if sec < first then
        let t := typeAt z.firstTypeIndex
        ⟨t.offset, alpha, first, t.isDst⟩
      else
        let (lo, stop) := findTransition tx sec 0 tx.size omega 70
        let (start, idx) := tx[lo]?.getD (alpha, 0)
        let t := typeAt idx
        if lo + 1 = tx.size then
          match z.rule with
          | some r => ruleLookup r start sec
          | none => ⟨t.offset, start, stop, t.isDst⟩
        else ⟨t.offset, start, stop, t.isDst⟩
    | none => ⟨0, alpha, omega, false⟩

/-- The offset in force at an instant. -/
def offsetAt (z : Zone) (t : Instant) : Int := (z.lookup t.sec).offset

/-- The reading of an instant in the zone. -/
def civil (z : Zone) (t : Instant) : Civil := Civil.ofInstant t (z.offsetAt t)

/-- The instant of a wall-clock reading; every field may lie outside its range and carries into
the next larger one. A reading that a transition skips or repeats is resolved as the module doc
says. The seconds wrap as words: a reading past the last second a word holds comes back at the
first. -/
def date (z : Zone) (year : Int) (month : Int) (day hour minute second nsec : Int) : Instant :=
  let year := year + (month - 1) / 12
  let month := ((month - 1) % 12 + 1).toNat
  let second := second + nsec / 1000000000
  let nsec := nsec % 1000000000
  let wall := Word.wrap64
    (Calendar.daysFromCivil year month day * 86400 + hour * 3600 + minute * 60 + second)
  let first := z.lookup wall
  let offset :=
    if first.offset = 0 then 0
    else
      let utc := Word.wrap64 (wall - first.offset)
      if utc < first.start ∨ utc ≥ first.stop then (z.lookup utc).offset else first.offset
  ⟨Word.wrap64 (wall - offset), nsec.toNat⟩

/-! ## Reading the data table -/

/-- A number in base 36, with an optional leading `-`. -/
def base36 (s : String) : Int :=
  let digit := fun (c : Char) =>
    if c.isDigit then c.toNat - 48 else c.toNat - 87
  match s.toList with
  | '-' :: rest => -((rest.foldl (fun acc c => acc * 36 + digit c) 0 : Nat) : Int)
  | cs => ((cs.foldl (fun acc c => acc * 36 + digit c) 0 : Nat) : Int)

/-- Reads a decimal integer with an optional `-`. -/
def decimalInt (s : String) : Int :=
  match s.toList with
  | '-' :: rest => -((rest.foldl (fun acc c => acc * 10 + (c.toNat - 48)) 0 : Nat) : Int)
  | cs => ((cs.foldl (fun acc c => acc * 10 + (c.toNat - 48)) 0 : Nat) : Int)

/-- Decodes a zone entry of the data table. -/
def decode (entry : String) : Zone :=
  match entry.splitOn "|" with
  | [types, moves, footer] =>
    let types := (types.splitOn ";").filterMap fun t =>
      match t.splitOn "," with
      | [o, d] => some (LocalType.mk (decimalInt o) (d == "1"))
      | _ => none
    let (_, moves) := (if moves.isEmpty then [] else moves.splitOn ",").foldl
      (fun (acc : Int × Array (Int × Nat)) t =>
        match t.splitOn "." with
        | [d, i] =>
          let time := acc.1 + base36 d
          (time, acc.2.push (time, (base36 i).toNat))
        | _ => acc) (0, #[])
    ⟨types.toArray, moves, if footer.isEmpty then none else RuleText.rule footer⟩
  | _ => utc

end Zone

end SwapArchive
