import SwapArchive.Time.Duration
import SwapArchive.Time.ZoneFiles
import SwapArchive.Number.IntText
import SwapArchive.Text.Clean
import SwapArchive.Text.Case

/-!
# Cron schedules

`Cron.parse` reads the schedule of a recurring pass: an optional `CRON_TZ=<zone> ` or
`TZ=<zone> ` (the zone ends at the first space), then a descriptor (`@yearly`, `@annually`,
`@monthly`, `@weekly`, `@daily`, `@midnight`, `@hourly`, `@every <duration>`) or five fields:
minute, hour, day of month, month (or `jan`…`dec`) and day of week (or `sun`…`sat`). A field is a
comma-separated list of `*`, `?`, `a` or `a-b`, each with an optional `/step` (`a/step` runs to
the field's maximum); the first faulty range of the first faulty field is reported. An `@every`
interval is cut to whole seconds, at least one. A zone prefix with no space after it cannot be
read at all: the text ends before the zone name does (`CronFault.unterminatedZone`).
-/

namespace SwapArchive

/-- The values a cron field allows; `star` records a field written as every value. -/
structure CronField where
  values : List Nat
  star : Bool := false
  deriving DecidableEq, Repr

/-- A parsed schedule. -/
inductive CronSchedule where
  /-- Runs at the times all five fields allow, in a zone. -/
  | fields (zone : String) (minute hour dom month dow : CronField)
  /-- Runs every so many seconds. -/
  | every (seconds : Nat)
  deriving DecidableEq, Repr

/-- Why a schedule could not be read. -/
inductive CronFault where
  /-- A faulty schedule, with the message. -/
  | invalid (message : String)
  /-- A zone prefix with no space after it. -/
  | unterminatedZone
  deriving DecidableEq, Repr

namespace Cron

/-- The range of a field and the names it accepts. -/
structure Bounds where
  lo : Nat
  hi : Nat
  names : List (String × Nat) := []

/-- The minute field. -/
def minutes : Bounds := ⟨0, 59, []⟩

/-- The hour field. -/
def hours : Bounds := ⟨0, 23, []⟩

/-- The day-of-month field. -/
def days : Bounds := ⟨1, 31, []⟩

/-- The month field. -/
def months : Bounds :=
  ⟨1, 12, [("jan", 1), ("feb", 2), ("mar", 3), ("apr", 4), ("may", 5), ("jun", 6), ("jul", 7),
    ("aug", 8), ("sep", 9), ("oct", 10), ("nov", 11), ("dec", 12)]⟩

/-- The day-of-week field. -/
def weekdays : Bounds :=
  ⟨0, 6, [("sun", 0), ("mon", 1), ("tue", 2), ("wed", 3), ("thu", 4), ("fri", 5), ("sat", 6)]⟩

/-- Reads a non-negative number. -/
def number (s : String) : Except String Nat :=
  match IntText.atoi s with
  | .error e => .error ("failed to parse int from " ++ s ++ ": " ++ e.message)
  | .ok n =>
    if n < 0 then .error ("negative number (" ++ toString n ++ ") not allowed: " ++ s) else .ok n.toNat

/-- Reads a number or a name of the field. -/
def numberOrName (b : Bounds) (s : String) : Except String Nat :=
  match b.names.find? (·.1 = Case.lowerText s) with
  | some (_, n) => .ok n
  | none => number s

/-- The values from `start` to `stop` by `step`. -/
def stepped (start stop step : Nat) : List Nat :=
  (List.range (stop + 1 - start)).filterMap fun i => if i % step = 0 then some (start + i) else none

/-- Reads one range of a field: its values, and whether it is a bare `*`. -/
def range (b : Bounds) (expr : String) : Except String (List Nat × Bool) := do
  let rangeAndStep := expr.splitOn "/"
  let lowAndHigh := (rangeAndStep.headD "").splitOn "-"
  let single := lowAndHigh.length = 1
  let first := lowAndHigh.headD ""
  let (start, stop, star) ← if first = "*" ∨ first = "?" then pure (b.lo, b.hi, true) else do
    let start ← numberOrName b first
    match lowAndHigh with
    | [_] => pure (start, start, false)
    | [_, high] => pure (start, ← numberOrName b high, false)
    | _ => throw ("too many hyphens: " ++ expr)
  let (stop, step, star) ← match rangeAndStep with
    | [_] => pure (stop, 1, star)
    | [_, s] => do
      let step ← number s
      pure (if single then b.hi else stop, step, star ∧ step ≤ 1)
    | _ => throw ("too many slashes: " ++ expr)
  if start < b.lo then
    throw ("beginning of range (" ++ toString start ++ ") below minimum (" ++ toString b.lo ++ "): " ++ expr)
  if stop > b.hi then
    throw ("end of range (" ++ toString stop ++ ") above maximum (" ++ toString b.hi ++ "): " ++ expr)
  if start > stop then
    throw ("beginning of range (" ++ toString start ++ ") beyond end of range (" ++ toString stop ++ "): " ++ expr)
  if step = 0 then throw ("step of range should be a positive number: " ++ expr)
  pure (stepped start stop step, star)

/-- Reads a field: the union of its comma-separated ranges. -/
def field (b : Bounds) (s : String) : Except String CronField := do
  let parts := (s.splitOn ",").filter (· ≠ "")
  let mut values : List Nat := []
  let mut star := false
  for p in parts do
    let (vs, st) ← range b p
    values := values ++ vs
    star := star || st
  pure { values := (List.range (b.hi + 1)).filter (· ∈ values), star := star }

/-- The white-space separated words of a text. -/
def words (s : String) : List String :=
  let rec go (cur : List Char) : List Char → List String
    | [] => if cur.isEmpty then [] else [String.ofList cur.reverse]
    | c :: rest =>
      if CharClass.isSpace c then
        if cur.isEmpty then go [] rest else String.ofList cur.reverse :: go [] rest
      else go (c :: cur) rest
  go [] s.toList

/-- The schedule a descriptor stands for. -/
def descriptor (zone : String) (d : String) : Except String CronSchedule := do
  let five := fun (m h dom mon dow : String) => do
    pure (CronSchedule.fields zone (← field minutes m) (← field hours h) (← field days dom)
      (← field months mon) (← field weekdays dow))
  match d with
  | "@yearly" | "@annually" => five "0" "0" "1" "1" "*"
  | "@monthly" => five "0" "0" "1" "*" "*"
  | "@weekly" => five "0" "0" "*" "*" "0"
  | "@daily" | "@midnight" => five "0" "0" "*" "*" "*"
  | "@hourly" => five "0" "*" "*" "*" "*"
  | _ =>
    if d.startsWith "@every " then
      match Duration.parse (d.drop 7).toString with
      | .ok ns => pure (.every (if ns < 1000000000 then 1 else (ns / 1000000000).toNat))
      | .error e => throw ("failed to parse duration " ++ d ++ ": " ++ e)
    else throw ("unrecognized descriptor: " ++ d)

/-- Reads the part of a schedule after its zone. -/
def body (zone : String) (spec : String) : Except String CronSchedule := do
  if spec.startsWith "@" then return ← descriptor zone spec
  let ws := words spec
  if ws.length ≠ 5 then
    throw ("expected exactly 5 fields, found " ++ toString ws.length ++ ": [" ++ " ".intercalate ws ++ "]")
  match ws with
  | [m, h, dom, mon, dow] =>
    pure (.fields zone (← field minutes m) (← field hours h) (← field days dom) (← field months mon)
      (← field weekdays dow))
  | _ => throw "expected exactly 5 fields"

/-- Reads a schedule. -/
def parse (spec : String) : Except CronFault CronSchedule :=
  if spec = "" then .error (.invalid "empty spec string")
  else if spec.startsWith "TZ=" ∨ spec.startsWith "CRON_TZ=" then
    let cs := spec.toList
    match cs.idxOf? ' ' with
    | none => .error .unterminatedZone
    | some i =>
      let eq := (cs.idxOf? '=').getD 0
      let zone := String.ofList ((cs.take i).drop (eq + 1))
      match Zone.load zone with
      | .error e => .error (.invalid ("provided bad location " ++ zone ++ ": " ++ e.message))
      | .ok _ => (body zone (Clean.trim (String.ofList (cs.drop i)))).mapError .invalid
  else (body "" spec).mapError .invalid

end Cron

end SwapArchive
