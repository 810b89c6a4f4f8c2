import SwapArchive.Json.Print
import SwapArchive.Store.Tables
import SwapArchive.Swap.Units
import SwapArchive.Json.Parse
import SwapArchive.Json.Decode

/-!
# Reading swaps over HTTP

**Listing** (`listSwaps`) reads the first JSON value of the body: texts `sort_by`, `page`,
`limit`, and optional `order`, `search`, `date`, `source`. It is refused (400, `Error Fetching
Data`) for a missing or malformed field, a source that is unknown or not configured, a sort column
the table may not be ordered by, a page below 1, a limit outside 1..1000 or a date not
`DD-MM-YYYY`; otherwise the table is listed, newest first unless `order` is `ASC` in any case
(`Fold.equalsAscii`), skipping `(page-1)·limit` rows in 64-bit arithmetic. **Closing price**
gives the tracked coin's price on a `YYYY-MM-DD` day, 404 when there is none, 400 for a bad day or
a failing read. Each read is recorded as a `QueryMetric`.
-/

namespace SwapArchive

namespace Fold

/-- Does `c` fold onto the ASCII character `w`? -/
def foldsTo (c w : Char) : Bool :=
  c = w || c.toLower = w.toLower && c.toNat < 0x80 ||
    (w.toLower = 's' && c = 'ſ') || (w.toLower = 'k' && c = 'K')

/-- Does the text equal the ASCII word under case folding? -/
def equalsAscii (s w : String) : Bool :=
  s.length = w.length && (s.toList.zip w.toList).all fun p => foldsTo p.1 p.2

end Fold

/-- A recorded read. -/
inductive QueryMetric where
  | swap (table status : String)
  | closingPrice (status : String)
  deriving DecidableEq, Repr

namespace QueryMetric

/-- The text of a recorded read. -/
def text : QueryMetric → String
  | .swap table status => "swap " ++ table ++ " " ++ status
  | .closingPrice status => "closing_price " ++ status

end QueryMetric

/-- How looking up a closing price ends. -/
inductive PriceLookup where
  | found (p : ClosingPrice)
  | missing
  | failed (reason : String)

/-- The reads of the endpoints, as transitions of a world `σ`. -/
structure SwapReader (σ : Type) where
  findRecords : String → SwapQuery → σ → Except String (List SwapRecord) × σ
  findSwaps : String → SwapQuery → σ → Except String (List ChainflipSwap) × σ
  priceOn : String → String → σ → PriceLookup × σ
  record : QueryMetric → σ → σ

/-- The reads of a reader on the first part of a pair of worlds. -/
def SwapReader.left {σ τ : Type} (rd : SwapReader σ) : SwapReader (σ × τ) where
  findRecords := fun t q s => let (r, w) := rd.findRecords t q s.1; (r, (w, s.2))
  findSwaps := fun t q s => let (r, w) := rd.findSwaps t q s.1; (r, (w, s.2))
  priceOn := fun c d s => let (r, w) := rd.priceOn c d s.1; (r, (w, s.2))
  record := fun q s => (rd.record q s.1, s.2)

/-- The listing body as sent: every field a text. -/
structure ListRequest where
  sortBy : String := ""
  page : String := ""
  limit : String := ""
  order : String := ""
  search : String := ""
  date : String := ""
  source : String := ""
  deriving Inhabited

namespace ListRequest

/-- Reads the first JSON value of a body as a listing request; `null` is the empty request. -/
def ofBody (body : String) : Except String ListRequest := do
  let (j, _) ← Json.readPrefix body
  match j with
  | .null => pure {}
  | .obj _ =>
    pure { sortBy := ← j.field "sort_by" Json.readString ""
           page := ← j.field "page" Json.readString ""
           limit := ← j.field "limit" Json.readString ""
           order := ← j.field "order" Json.readString ""
           search := ← j.field "search" Json.readString ""
           date := ← j.field "date" Json.readString ""
           source := ← j.field "source" Json.readString "" }
  | j => throw ("json: cannot unmarshal " ++ Json.kindName j ++ " into a listing request")

/-- Is the text a decimal number: a sign, digits, and optionally a point and more digits? -/
def numeric (s : String) : Bool :=
  let body := match s.toList with
    | '+' :: rest => rest
    | '-' :: rest => rest
    | cs => cs
  let isDigit := fun (c : Char) => '0' ≤ c ∧ c ≤ '9'
  let whole := body.takeWhile isDigit
  match body.dropWhile isDigit with
  | [] => !whole.isEmpty
  | '.' :: frac => !whole.isEmpty && !frac.isEmpty && frac.all isDigit
  | _ => false

/-- The source kinds a listing may name. -/
def kinds : List String := [Source.native, Source.trade, Source.chainflip]

/-- The field checks of a listing body. -/
def check (r : ListRequest) : Except String Unit :=
  if r.sortBy = "" then .error "sort_by is required"
  else if ¬numeric r.page then .error "page must be numeric"
  else if ¬numeric r.limit then .error "limit must be numeric"
  else if r.source ≠ "" ∧ r.source ∉ kinds then .error "source must be one of native trade chainflip"
  else .ok ()

/-- The source kind listed: the one named, else `native`. -/
def kind (r : ListRequest) : String := if r.source = "" then Source.native else r.source

end ListRequest

namespace Listing

/-- The answer to a refused request; the reason stays out of the answer. -/
def refused : HttpResponse := HttpResponse.failure 400 "Error Fetching Data"

/-- The largest page size. -/
def maxLimit : Int := 1000

/-- An integer wrapped into the 64-bit signed range. -/
def wrap64 (x : Int) : Int := (x + Int.pow 2 63) % Int.pow 2 64 - Int.pow 2 63

/-- The query of a listing request, with its page and limit. -/
def query (r : ListRequest) (rules : SearchRules) : Except String (SwapQuery × Int × Int) := do
  if ¬rules.sortable? r.sortBy then throw ("column " ++ Quoted.quote r.sortBy ++ " is not sortable")
  let page ← match IntText.atoi r.page with
    | .ok p => if p < 1 then throw ("invalid page " ++ Quoted.quote r.page) else pure p
    | .error _ => throw ("invalid page " ++ Quoted.quote r.page)
  let limit ← match IntText.atoi r.limit with
    | .ok l => if l < 1 ∨ l > maxLimit then throw ("invalid limit " ++ Quoted.quote r.limit) else pure l
    | .error _ => throw ("invalid limit " ++ Quoted.quote r.limit)
  let date ← if r.date = "" then pure "" else
    match Units.sqlDate r.date with
    | .ok d => pure d
    | .error e => throw ("invalid date " ++ Quoted.quote r.date ++ ": " ++ e.text)
  pure ({ sortBy := r.sortBy, desc := !Fold.equalsAscii r.order "ASC", limit := limit
          offset := wrap64 ((page - 1) * limit), search := Clean.trim r.search, date := date },
    page, limit)

/-- One page of rows. -/
def page (rows : List Json) (page limit : Int) : HttpResponse :=
  ⟨200, .obj [("data", .arr rows), ("page", Json.ofInt page), ("limit", Json.ofInt limit)]⟩

end Listing

variable {σ : Type}

/-- Answers a listing request. -/
def listSwaps (rd : SwapReader σ) (sources : List Source) (body : String) (st : σ) :
    HttpResponse × σ :=
  let plan : Except String (ListRequest × Source) := do
    let r ← ListRequest.ofBody body
    r.check
    match Source.find? sources r.kind with
    | some src => pure (r, src)
    | none => throw ("source " ++ r.kind ++ " is not configured")
  match plan with
  | .error _ => (Listing.refused, st)
  | .ok (r, src) =>
    let chainflip := r.kind = Source.chainflip
    let rules := if chainflip then ChainflipSwap.searchRules else SwapRecord.searchRules
    match Listing.query r rules with
    | .error _ => (Listing.refused, st)
    | .ok (q, p, l) =>
      let (rows, st) : Except String (List Json) × σ :=
        if chainflip then
          let (r, st) := rd.findSwaps src.table q st
          (r.map (·.map ChainflipSwap.toJson), st)
        else
          let (r, st) := rd.findRecords src.table q st
          (r.map (·.map SwapRecord.toJson), st)
      match rows with
      | .error _ => (Listing.refused, rd.record (.swap src.table "error") st)
      | .ok rows => (Listing.page rows p l, rd.record (.swap src.table "success") st)

/-- Answers a closing price request for a `YYYY-MM-DD` day. -/
def closingPrice (rd : SwapReader σ) (date : String) (st : σ) : HttpResponse × σ :=
  match Layout.dateOnly.read date with
  | .error _ => (Listing.refused, st)
  | .ok _ =>
    match rd.priceOn ClosingPrice.trackedCoin date st with
    | (.missing, st) => (HttpResponse.failure 404 "closing price not found", rd.record (.closingPrice "not_found") st)
    | (.failed _, st) => (Listing.refused, rd.record (.closingPrice "error") st)
    | (.found p, st) => (HttpResponse.data 200 p.toJson, rd.record (.closingPrice "success") st)

end SwapArchive
