/-!
# Source descriptors

A source is one remote feed and the table its rows land in. Kinds, conflict policies and
name styles are open texts: the well-known values are named here, and any other text is carried
along as it is (validation decides whether it is accepted).
-/

namespace SwapArchive

/-- The descriptor of one remote source. -/
structure Source where
  kind : String := ""
  table : String := ""
  baseUrl : String := ""
  conflict : String := ""
  settlementAsset : String := ""
  decimals : Int := 0
  nameStyle : String := ""
  reconcile : Bool := false
  enrich : Bool := false
  deriving Inhabited, DecidableEq, Repr

namespace Source

/-- The THORChain native swap feed. -/
def native : String := "native"

/-- The THORChain trade-account swap feed. -/
def trade : String := "trade"

/-- The Chainflip swap feed. -/
def chainflip : String := "chainflip"

/-- Keep the stored row when a key arrives again. -/
def conflictIgnore : String := "ignore"

/-- Replace the stored row when a key arrives again. -/
def conflictOverwrite : String := "overwrite"

/-- Pool style of asset names. -/
def stylePool : String := "pool"

/-- Trade style of asset names. -/
def styleTrade : String := "trade"

/-- The asset swaps settle through on THORChain. -/
def nativeSettlementAsset : String := "THOR.RUNE"

/-- The number of decimals THORChain amounts carry. -/
def thorchainDecimals : Int := 8

/-- The first source of a kind. -/
def find? (sources : List Source) (kind : String) : Option Source := sources.find? (·.kind = kind)

end Source

end SwapArchive
