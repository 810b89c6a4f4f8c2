import SwapArchive.Json.Decode

/-!
# Midgard actions

An action is one event of the Midgard feed: incoming legs, outgoing legs, swap metadata with USD
prices, the pools involved, a status and a type. A leg names an address, the coins moved (amount
in base units as text, asset as a pool identifier) and the transaction id, which may be missing.

A page of actions carries the tokens of the next and previous pages. `ActionsPage.ofJson` reads
the feed's JSON; a page whose `actions` member is missing or `null` has no action list at all
(`none`), which is not the same as an empty one.
-/

namespace SwapArchive

/-- A coin moved by a leg. -/
structure Coin where
  amount : String
  asset : String
  deriving Inhabited, Repr

/-- One leg of an action. -/
structure Leg where
  address : String
  coins : List Coin
  txId : Option String
  deriving Inhabited, Repr

/-- USD prices of the incoming and outgoing assets, as texts. -/
structure SwapMeta where
  inPriceUsd : String
  outPriceUsd : String
  deriving Inhabited, Repr

/-- One action of the Midgard feed. -/
structure Action where
  date : String
  inLegs : List Leg
  outLegs : List Leg
  swapMeta : Option SwapMeta
  pools : List String
  status : String
  type : String
  deriving Inhabited, Repr

/-- A page of actions with the tokens of its neighbours. -/
structure ActionsPage where
  actions : Option (List Action)
  nextPageToken : String
  prevPageToken : String
  deriving Inhabited, Repr

namespace Action

/-- Reads a coin. -/
def readCoin (j : Json) : Except String Coin := do
  Json.expectObject "Coin" j
  pure ⟨← j.field "amount" Json.readString "", ← j.field "asset" Json.readString ""⟩

/-- Reads a leg. -/
def readLeg (j : Json) : Except String Leg := do
  Json.expectObject "Leg" j
  pure ⟨← j.field "address" Json.readString "", ← j.field "coins" (Json.readList readCoin) [],
    ← j.field? "txID" Json.readString⟩

/-- Reads swap metadata. -/
def readSwapMeta (j : Json) : Except String SwapMeta := do
  Json.expectObject "SwapMeta" j
  pure ⟨← j.field "inPriceUSD" Json.readString "", ← j.field "outPriceUSD" Json.readString ""⟩

/-- Reads an action. -/
def ofJson (j : Json) : Except String Action := do
  Json.expectObject "Action" j
  let metadata := j.get? "metadata"
  let swapMeta ← match metadata with
    | some m => do
      Json.expectObject "ActionMetadata" m
      m.field? "swap" readSwapMeta
    | none => pure none
  pure {
    date := ← j.field "date" Json.readString ""
    inLegs := ← j.field "in" (Json.readList readLeg) []
    outLegs := ← j.field "out" (Json.readList readLeg) []
    swapMeta := swapMeta
    pools := ← j.field "pools" (Json.readList Json.readString) []
    status := ← j.field "status" Json.readString ""
    type := ← j.field "type" Json.readString ""
  }

/-- The JSON form of a coin. -/
def coinJson (c : Coin) : Json := .obj [("amount", .str c.amount), ("asset", .str c.asset)]

/-- The JSON form of a leg. -/
def legJson (l : Leg) : Json :=
  .obj [("address", .str l.address), ("coins", .arr (l.coins.map coinJson)),
    ("txID", Json.ofOption .str l.txId)]

/-- The JSON form of an action. -/
def toJson (a : Action) : Json :=
  .obj [("date", .str a.date), ("in", .arr (a.inLegs.map legJson)),
    ("out", .arr (a.outLegs.map legJson)),
    ("metadata", .obj [("swap", Json.ofOption (fun m => .obj [("inPriceUSD", .str m.inPriceUsd),
      ("outPriceUSD", .str m.outPriceUsd)]) a.swapMeta)]),
    ("pools", .arr (a.pools.map .str)), ("status", .str a.status), ("type", .str a.type)]

end Action

namespace ActionsPage

/-- Reads a page of actions. -/
def ofJson (j : Json) : Except String ActionsPage := do
  Json.expectObject "ActionsResponse" j
  let pageMeta := (j.get? "meta").getD (.obj [])
  Json.expectObject "PageMeta" pageMeta
  pure {
    actions := ← j.field? "actions" (Json.readList Action.ofJson)
    nextPageToken := ← pageMeta.field "nextPageToken" Json.readString ""
    prevPageToken := ← pageMeta.field "prevPageToken" Json.readString ""
  }

/-- The actions of the page; a page without an action list has none. -/
def items (p : ActionsPage) : List Action := p.actions.getD []

/-- The JSON form of a page. -/
def toJson (p : ActionsPage) : Json :=
  .obj [("actions", match p.actions with
      | some xs => .arr (xs.map Action.toJson)
      | none => .null),
    ("meta", .obj [("nextPageToken", .str p.nextPageToken), ("prevPageToken", .str p.prevPageToken)])]

end ActionsPage

end SwapArchive
