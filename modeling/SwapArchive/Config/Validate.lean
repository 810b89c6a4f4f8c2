import SwapArchive.Config.App
import SwapArchive.Http.Url

/-!
# Checking the configuration

`AppConfig.validate` checks a configuration in two rounds. The first reports every faulty field,
as `Key: 'AppConfig.Sources[0].Table' Error:Field validation for 'Table' failed on the 'sqlident'
tag`, under `invalid source configuration: `: a known environment (`oneof`); at least one source,
no two of one kind (`required`, `unique`); then per source a known kind, a `sqlident` table, an
absolute base URL, a known conflict policy, a settlement asset unless Chainflip, decimals in
0..18, a known name style if any, and no reconciled Chainflip source (`excluded_if`). The second
round, once the first passes, stops at the first fault: a table used twice, a remote service with
no positive least request interval, a non-positive flush size or page limit.
-/

namespace SwapArchive

/-- A field that broke a rule: where it is, its name, and the rule's tag. -/
structure FieldFault where
  key : String
  field : String
  tag : String
  deriving DecidableEq, Repr

namespace FieldFault

/-- The line of a faulty field. -/
def text (f : FieldFault) : String :=
  "Key: '" ++ f.key ++ "' Error:Field validation for '" ++ f.field ++ "' failed on the '" ++ f.tag ++ "' tag"

end FieldFault

/-- Why a configuration was refused. -/
inductive ConfigFault where
  | fields (faults : List FieldFault)
  | sharedTable (table : String)
  | noInterval (kind : String)
  | flushPages (n : Int)
  | maxPages (n : Int)
  deriving DecidableEq, Repr

namespace ConfigFault

/-- The message of a refusal. -/
def message : ConfigFault → String
  | .fields fs => "invalid source configuration: " ++ "\n".intercalate (fs.map FieldFault.text)
  | .sharedTable t => "table " ++ t ++ " is used by more than one source"
  | .noInterval k => "source " ++ k ++ " needs a positive min request interval"
  | .flushPages n => "backfill flush pages must be positive, got " ++ toString n
  | .maxPages n => "max pages per pass must be positive, got " ++ toString n

end ConfigFault

namespace ConfigCheck

/-- The deployment environments. -/
def environments : List String := ["production", "development", "staging", "test"]

/-- Is the text a lower-case identifier: a letter or underscore, then at most 62 letters,
digits or underscores? -/
def sqlIdent (s : String) : Bool :=
  let lowerOrUnder := fun (c : Char) => ('a' ≤ c ∧ c ≤ 'z') ∨ c = '_'
  match s.toList with
  | c :: rest => lowerOrUnder c && rest.length ≤ 62 && rest.all fun d => lowerOrUnder d || ('0' ≤ d ∧ d ≤ '9')
  | [] => false

/-- A field that must be one of some texts. -/
def oneOf (at_ : String → String → FieldFault) (field value : String) (allowed : List String) :
    List FieldFault :=
  if value = "" then [at_ field "required"] else if value ∉ allowed then [at_ field "oneof"] else []

/-- The faulty fields of the source at an index. -/
def sourceFaults (i : Nat) (s : Source) : List FieldFault :=
  let at_ := fun (field tag : String) => FieldFault.mk ("AppConfig.Sources[" ++ toString i ++ "]." ++ field) field tag
  oneOf at_ "Kind" s.kind [Source.native, Source.trade, Source.chainflip] ++
  (if s.table = "" then [at_ "Table" "required"] else if ¬sqlIdent s.table then [at_ "Table" "sqlident"] else []) ++
  (if s.baseUrl = "" then [at_ "BaseURL" "required"]
    else if ¬Url.isAbsolute s.baseUrl then [at_ "BaseURL" "url"] else []) ++
  oneOf at_ "Conflict" s.conflict [Source.conflictIgnore, Source.conflictOverwrite] ++
  (if s.kind ≠ Source.chainflip ∧ s.settlementAsset = "" then [at_ "SettlementAsset" "required_unless"] else []) ++
  (if s.decimals < 0 then [at_ "Decimals" "gte"] else if s.decimals > 18 then [at_ "Decimals" "lte"] else []) ++
  (if s.nameStyle ≠ "" ∧ s.nameStyle ∉ [Source.stylePool, Source.styleTrade] then [at_ "Notation" "oneof"] else []) ++
  (if s.kind = Source.chainflip ∧ s.reconcile then [at_ "Reconcile" "excluded_if"] else [])

/-- The faulty fields of a configuration. -/
def fieldFaults (c : AppConfig) : List FieldFault :=
  let env := if c.environment ∈ environments then []
    else [FieldFault.mk "AppConfig.Environment" "Environment" "oneof"]
  let sources := FieldFault.mk "AppConfig.Sources" "Sources"
  let kinds := c.sources.map Source.kind
  let srcs := if c.sources.isEmpty then [sources "required"]
    else if kinds.eraseDups.length ≠ kinds.length then [sources "unique"]
    else (c.sources.zipIdx.map fun (s, i) => sourceFaults i s).flatten
  env ++ srcs

/-- The second round over the sources: the first shared table or missing interval. -/
def sourceRound (c : AppConfig) : List String → List Source → Except ConfigFault Unit
  | _, [] => .ok ()
  | seen, s :: rest =>
    if s.table ∈ seen then .error (.sharedTable s.table)
    else if c.requestInterval s.kind ≤ 0 then .error (.noInterval s.kind)
    else sourceRound c (s.table :: seen) rest

end ConfigCheck

namespace AppConfig

/-- Checks a configuration. -/
def validate (c : AppConfig) : Except ConfigFault Unit := do
  let faults := ConfigCheck.fieldFaults c
  if ¬faults.isEmpty then throw (.fields faults)
  ConfigCheck.sourceRound c [] c.sources
  if c.ingestion.backfillFlushPages ≤ 0 then throw (.flushPages c.ingestion.backfillFlushPages)
  if c.ingestion.maxPagesPerPass ≤ 0 then throw (.maxPages c.ingestion.maxPagesPerPass)

end AppConfig

end SwapArchive
