import SwapArchive.Time.Zone

/-!
# The zone information directory

Zones load by name from the zone information directory: a file per database name in folders by
region, copies under `posix/` and under `right/` (with leap seconds counted), `posixrules`
(`America/New_York`), `localtime` (`Etc/UTC`), and tables such as `zone.tab` that are not zone
data. `ZoneFiles.resolve` walks a path part by part as the file system does, refusing a part under
a file (`not a directory`), one over 255 bytes (`file name too long`), and a folder read as a file
(`is a directory`). `Zone.load` takes the empty name, `UTC` and `Local` as UTC, refuses `..` or a
leading slash, and a NUL byte (`invalid argument`); a name found nowhere is unknown unless its path
in another folder is too long, and a file that is not zone data is malformed.
-/

namespace SwapArchive

/-- Why a zone name cannot be loaded. -/
inductive LoadError where
  /-- The name has `..` or starts with a slash or backslash. -/
  | invalidName
  /-- No folder has the name. -/
  | unknown (name : String)
  /-- The file is not zone data. -/
  | malformed
  /-- The file system refused the path, for the reason given. -/
  | system (reason : String)
  deriving DecidableEq, Repr

/-- The message of a failed load. -/
def LoadError.message : LoadError → String
  | .invalidName => "time: invalid location name"
  | .unknown n => "unknown time zone " ++ n
  | .malformed => "malformed time zone information"
  | .system r => r

/-- What a path of the directory names, when it names a file. -/
inductive ZoneFile where
  | zone (z : Zone)
  /-- A file that is not zone data. -/
  | other
  deriving Inhabited

namespace ZoneFiles

/-- The reasons the file system gives. -/
def notFound : String := "no such file or directory"
def notDirectory : String := "not a directory"
def isDirectory : String := "is a directory"
def tooLong : String := "file name too long"
def badArgument : String := "invalid argument"

/-- The files of the directory that are not zone data. -/
def tables : List String :=
  ["iso3166.tab", "leap-seconds.list", "leapseconds", "tzdata.zi", "zone.tab", "zone1970.tab",
    "zonenow.tab"]

/-- The folders that repeat the database's zones. -/
def copies : List String := ["posix", "right"]

/-- The encoded rules of a database name, following an alias to its zone. -/
def encoded? (name : String) : Option String :=
  match ZoneData.zoneEntries.find? (·.1 == name) with
  | some e => some e.2
  | none =>
    (ZoneData.zoneAliases.find? (·.1 == name)).bind fun a =>
      (ZoneData.zoneEntries.find? (·.1 == a.2)).map (·.2)

/-- Every name of the database. -/
def names : List String :=
  (ZoneData.zoneEntries.toList.map (·.1)) ++ (ZoneData.zoneAliases.toList.map (·.1))

/-- The Unix times at which a leap second had just been inserted (the start of the day after
each of the 27 leap seconds from 1972 to 2016). -/
def leapDays : List Int :=
  [78796800, 94694400, 126230400, 157766400, 189302400, 220924800, 252460800, 283996800,
    315532800, 362793600, 394329600, 425865600, 489024000, 567993600, 631152000, 662688000,
    709948800, 741484800, 773020800, 820454400, 867715200, 915148800, 1136073600, 1230768000,
    1341100800, 1435708800, 1483228800]

/-- A transition time counted with the leap seconds inserted up to it. -/
def withLeaps (t : Int) : Int := t + ((leapDays.filter (· ≤ t)).length : Int)

/-- A zone whose transition times count leap seconds. -/
def countingLeaps (z : Zone) : Zone :=
  { z with transitions := z.transitions.map fun (t, i) => (withLeaps t, i) }

/-- The file at a path of the directory, if a file is there. -/
def fileAt (path : List String) : Option ZoneFile :=
  let zoneNamed := fun (parts : List String) => (encoded? ("/".intercalate parts)).map Zone.decode
  match path with
  | ["posixrules"] => (zoneNamed ["America", "New_York"]).map .zone
  | ["localtime"] => (zoneNamed ["Etc", "UTC"]).map .zone
  | [n] => if n ∈ tables then some .other else (zoneNamed [n]).map .zone
  | "posix" :: rest => if rest.isEmpty then none else (zoneNamed rest).map .zone
  | "right" :: rest => if rest.isEmpty then none else (zoneNamed rest).map (.zone ∘ countingLeaps)
  | _ => (zoneNamed path).map .zone

/-- Is `pre` a proper start of `xs`? -/
def properPrefix (pre xs : List String) : Bool := pre.length < xs.length ∧ xs.take pre.length = pre

/-- Is the path a folder of the directory? -/
def folder (path : List String) : Bool :=
  let region := fun (p : List String) => names.any fun n => properPrefix p (n.splitOn "/")
  match path with
  | [] => true
  | c :: rest => (c ∈ copies ∧ (rest.isEmpty ∨ region rest)) ∨ region path

/-- Walks the parts of a path from the folder `here`. -/
def walk (here : List String) : List String → Except String ZoneFile
  | [] => .error isDirectory
  | c :: rest =>
    if c = "" ∨ c = "." then walk here rest
    else if c.utf8ByteSize > 255 then .error tooLong
    else
      let path := here ++ [c]
      if folder path then walk path rest
      else match fileAt path with
        | some f => if rest.isEmpty then .ok f else .error notDirectory
        | none => .error notFound

/-- The file a name stands for. -/
def resolve (name : String) : Except String ZoneFile := walk [] (name.splitOn "/")

/-- The length of the path the directory's folder puts in front of a name. -/
def folderPrefix : Nat := 21

/-- The longest prefix that another folder searched for zone data puts in front of a name. -/
def otherPrefix : Nat := 25

/-- The most bytes a path may have. -/
def pathLimit : Nat := 4095

end ZoneFiles

namespace Zone

/-- Loads a zone by name, as the module doc says. -/
def load (name : String) : Except LoadError Zone :=
  if name = "" ∨ name = "UTC" ∨ name = "Local" then .ok utc
  else if (name.splitOn "..").length > 1 ∨ name.startsWith "/" ∨ name.startsWith "\\" then
    .error .invalidName
  else if name.contains (Char.ofNat 0) then .error (.system ZoneFiles.badArgument)
  else if ZoneFiles.folderPrefix + name.utf8ByteSize > ZoneFiles.pathLimit then
    .error (.system ZoneFiles.tooLong)
  else
    match ZoneFiles.resolve name with
    | .ok (.zone z) => .ok z
    | .ok .other => .error .malformed
    | .error r =>
      if r ≠ ZoneFiles.notFound then .error (.system r)
      else if ZoneFiles.otherPrefix + name.utf8ByteSize > ZoneFiles.pathLimit then
        .error (.system ZoneFiles.tooLong)
      else .error (.unknown name)

end Zone

end SwapArchive
