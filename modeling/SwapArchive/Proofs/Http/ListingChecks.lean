import Mathlib
import SwapArchive.Proofs.Time.DateGrammar
import SwapArchive.Rehearsal.Reader

/-!
# A listing is checked before the store is read

`listSwaps` reads a swap table only for a body it admits (`Listing.Admits`): `sort_by` given, page
and limit numeric, a known and configured source whose table may be ordered by `sort_by`, a page
from 1 on, a limit from 1 to 1000 and a valid `DD-MM-YYYY` date if any. Any other body is refused
with 400 `Error Fetching Data`, the store neither read nor the read recorded. An admitted body
reads the kind's table once, with the query the request asks for (`Listing.query_eq_ok_iff`),
records the read and echoes page and limit. The rows before the page are counted in 64-bit
arithmetic, exact below `2^63`: page and limit can each be in range while their product is not,
and the store is then asked to skip a negative number of rows.
-/

namespace SwapArchive

set_option autoImplicit false

namespace ListRequest

theorem check_eq_ok_iff (r : ListRequest) :
    r.check = .ok () ↔ r.sortBy ≠ "" ∧ numeric r.page = true ∧ numeric r.limit = true ∧
      (r.source = "" ∨ r.source ∈ kinds) := by
  unfold check
  split_ifs <;> grind

end ListRequest

namespace Listing

theorem wrap64_of_lt {x : Int} (h0 : 0 ≤ x) (h : x < 2 ^ 63) : wrap64 x = x := by
  have hp : Int.pow 2 63 = 2 ^ 63 := rfl
  have hq : Int.pow 2 64 = 2 ^ 64 := rfl
  unfold wrap64
  rw [hp, hq, Int.emod_eq_of_lt (by omega) (by norm_num; omega)]
  ring

/-- The query of a request read with page `page`, limit `limit` and stored date `date`. -/
def queryOf (r : ListRequest) (page limit : Int) (date : String) : SwapQuery :=
  { sortBy := r.sortBy, desc := !Fold.equalsAscii r.order "ASC", limit := limit
    offset := wrap64 ((page - 1) * limit), search := Clean.trim r.search, date := date }

theorem query_eq_ok_iff {r : ListRequest} {rules : SearchRules} {q : SwapQuery} {page limit : Int} :
    query r rules = .ok (q, page, limit) ↔
      rules.sortable? r.sortBy = true ∧ IntText.atoi r.page = .ok page ∧ 1 ≤ page ∧
        IntText.atoi r.limit = .ok limit ∧ 1 ≤ limit ∧ limit ≤ maxLimit ∧
        ∃ date, (r.date = "" ∧ date = "" ∨ r.date ≠ "" ∧ Units.sqlDate r.date = .ok date) ∧
          q = queryOf r page limit date := by
  unfold query
  simp only [bind, Except.bind, throw, throwThe, MonadExceptOf.throw, pure, Except.pure]
  by_cases hs : rules.sortable? r.sortBy = true
  swap
  · simp [hs]
  rcases hp : IntText.atoi r.page with e | p
  · simp [hs]
  by_cases hp1 : p < 1
  · simp only [hs, hp1]
    simp
    omega
  rcases hl : IntText.atoi r.limit with e | l
  · simp [hs, hp1]
  by_cases hl1 : l < 1 ∨ l > maxLimit
  · simp [hs, hp1, hl1]
    omega
  have hquery : ∀ date, (queryOf r p l date = q ∧ p = page ∧ l = limit ↔
      p = page ∧ 1 ≤ page ∧ l = limit ∧ 1 ≤ limit ∧ limit ≤ maxLimit ∧ q = queryOf r page limit date) := by
    intro date
    constructor
    · rintro ⟨rfl, rfl, rfl⟩
      exact ⟨rfl, by omega, rfl, by omega, by omega, rfl⟩
    · rintro ⟨rfl, -, rfl, -, -, rfl⟩
      exact ⟨rfl, rfl, rfl⟩
  by_cases hd : r.date = ""
  · simpa [hs, hp1, hl1, hd, queryOf] using hquery ""
  rcases hsql : Units.sqlDate r.date with e | d
  · simp [hs, hp1, hl1, hd]
  · simpa [hs, hp1, hl1, hd, queryOf] using hquery d

end Listing

variable {σ : Type}

namespace SwapReader

/-- The rows a reader finds in a source kind's table for a query, as JSON: a Chainflip table
holds swaps, any other table swap records. -/
def rowsFor (rd : SwapReader σ) (kind table : String) (q : SwapQuery) (st : σ) :
    Except String (List Json) × σ :=
  if kind = Source.chainflip then
    let (r, st) := rd.findSwaps table q st
    (r.map (·.map ChainflipSwap.toJson), st)
  else
    let (r, st) := rd.findRecords table q st
    (r.map (·.map SwapRecord.toJson), st)

end SwapReader

namespace Listing

/-- The answer to a listing once its table was read: the page of rows found, echoing the page
number and size, or the refusal when the read failed; the read is recorded either way. -/
def answerOf (rd : SwapReader σ) (table : String) (page limit : Int) :
    Except String (List Json) × σ → HttpResponse × σ
  | (.ok rows, st) => (Listing.page rows page limit, rd.record (.swap table "success") st)
  | (.error _, st) => (refused, rd.record (.swap table "error") st)

end Listing

/-- A listing whose body binds, passes its checks, names a configured source and builds a query
reads that source's table once with the query. -/
theorem listSwaps_of_query {rd : SwapReader σ} {sources : List Source} {body : String} {st : σ}
    {r : ListRequest} {src : Source} {q : SwapQuery} {page limit : Int}
    (hb : ListRequest.ofBody body = .ok r) (hc : r.check = .ok ())
    (hs : Source.find? sources r.kind = some src)
    (hq : Listing.query r (if r.kind = Source.chainflip then ChainflipSwap.searchRules
      else SwapRecord.searchRules) = .ok (q, page, limit)) :
    listSwaps rd sources body st = Listing.answerOf rd src.table page limit (rd.rowsFor r.kind src.table q st) := by
  obtain ⟨findRecords, findSwaps, priceOn, record⟩ := rd
  unfold listSwaps
  simp only [hb, hc, hs, hq, bind, Except.bind, pure, Except.pure]
  unfold SwapReader.rowsFor
  dsimp only
  split_ifs
  · rcases findSwaps src.table q st with ⟨_ | rows, st'⟩ <;> rfl
  · rcases findRecords src.table q st with ⟨_ | rows, st'⟩ <;> rfl

namespace Listing

/-- A listing body the handler reads the store for: it binds to the request `r`, whose `sort_by`
is given, whose page and limit are numeric and whose source, if named, is one of the three kinds;
that kind (native when none is named) is configured as `src`; its table may be ordered by
`sort_by`; the page reads as a whole number `page` from 1 on and the limit as a whole number
`limit` from 1 to 1000; and the date, if any, is a valid `DD-MM-YYYY` date of a four-digit year. -/
structure Admits (sources : List Source) (body : String) (r : ListRequest) (src : Source)
    (page limit : Int) : Prop where
  binds : ListRequest.ofBody body = .ok r
  sortBy_given : r.sortBy ≠ ""
  page_numeric : ListRequest.numeric r.page = true
  limit_numeric : ListRequest.numeric r.limit = true
  source_named : r.source = "" ∨ r.source ∈ ListRequest.kinds
  configured : Source.find? sources r.kind = some src
  sortable : (if r.kind = Source.chainflip then ChainflipSwap.searchRules
    else SwapRecord.searchRules).sortable? r.sortBy = true
  page_reads : IntText.atoi r.page = .ok page
  first_page : 1 ≤ page
  limit_reads : IntText.atoi r.limit = .ok limit
  limit_range : 1 ≤ limit ∧ limit ≤ maxLimit
  date_shown : r.date = "" ∨
    ∃ D : Int × Nat × Nat, Calendar.IsDate D ∧ 0 ≤ D.1 ∧ D.1 < 10000 ∧ r.date = shownDate D

/-- The date filter of a query: none for no date, else the shown date stored as `YYYY-MM-DD`. -/
theorem storedDate_iff {text date : String} :
    (text = "" ∧ date = "" ∨ text ≠ "" ∧ Units.sqlDate text = .ok date) ↔
      text = "" ∧ date = "" ∨ ∃ D : Int × Nat × Nat, Calendar.IsDate D ∧ 0 ≤ D.1 ∧ D.1 < 10000 ∧
        text = shownDate D ∧ date = isoDate D := by
  constructor
  · rintro (h | ⟨-, h⟩)
    · exact .inl h
    · obtain ⟨y, m, d, hD, hy0, hy, hs, hr⟩ := Units.sqlDate_eq_ok h
      exact .inr ⟨(y, m, d), hD, hy0, hy, hs, hr⟩
  · rintro (h | ⟨⟨y, m, d⟩, hD, hy0, hy, rfl, rfl⟩)
    · exact .inl h
    · refine .inr ⟨?_, Units.sqlDate_shownDate hD ⟨hy0, hy⟩⟩
      intro h
      have := congrArg String.length h
      simp [shownDate] at this

/-- A body is admitted exactly when it binds, passes the request's checks, names a configured
source and builds a query. -/
theorem admits_iff {sources : List Source} {body : String} {r : ListRequest} {src : Source}
    {page limit : Int} :
    Admits sources body r src page limit ↔
      ListRequest.ofBody body = .ok r ∧ r.check = .ok () ∧ Source.find? sources r.kind = some src ∧
        ∃ q, query r (if r.kind = Source.chainflip then ChainflipSwap.searchRules
          else SwapRecord.searchRules) = .ok (q, page, limit) := by
  simp only [ListRequest.check_eq_ok_iff, query_eq_ok_iff]
  constructor
  · intro h
    have hdate : ∃ date, r.date = "" ∧ date = "" ∨ r.date ≠ "" ∧ Units.sqlDate r.date = .ok date := by
      rcases h.date_shown with hd | ⟨D, hD, hy0, hy, hs⟩
      · exact ⟨"", .inl ⟨hd, rfl⟩⟩
      · exact ⟨isoDate D, storedDate_iff.2 (.inr ⟨D, hD, hy0, hy, hs, rfl⟩)⟩
    obtain ⟨date, hdate⟩ := hdate
    exact ⟨h.binds, ⟨h.sortBy_given, h.page_numeric, h.limit_numeric, h.source_named⟩, h.configured,
      _, h.sortable, h.page_reads, h.first_page, h.limit_reads, h.limit_range.1, h.limit_range.2,
      date, hdate, rfl⟩
  · rintro ⟨hb, ⟨hs, hp, hl, hsrc⟩, hf, q, hsort, hpr, hp1, hlr, hl1, hl2, date, hdate, -⟩
    refine ⟨hb, hs, hp, hl, hsrc, hf, hsort, hpr, hp1, hlr, ⟨hl1, hl2⟩, ?_⟩
    rcases storedDate_iff.1 hdate with ⟨hd, -⟩ | ⟨D, hD, hy0, hy, hs, -⟩
    · exact .inl hd
    · exact .inr ⟨D, hD, hy0, hy, hs⟩

end Listing

/-- A body that is not admitted is refused, and the store is neither read nor its reading
recorded. -/
theorem listSwaps_refused {rd : SwapReader σ} {sources : List Source} {body : String} {st : σ}
    (h : ¬ ∃ r src page limit, Listing.Admits sources body r src page limit) :
    listSwaps rd sources body st = (Listing.refused, st) := by
  unfold listSwaps
  rcases hb : ListRequest.ofBody body with e | r
  · rfl
  rcases hc : r.check with e | ⟨⟩
  · simp only [hc, bind, Except.bind]
  rcases hs : Source.find? sources r.kind with _ | src
  · simp only [hc, hs, bind, Except.bind, throw, throwThe, MonadExceptOf.throw]
  rcases hq : Listing.query r (if r.kind = Source.chainflip then ChainflipSwap.searchRules
    else SwapRecord.searchRules) with e | ⟨q, page, limit⟩
  · simp only [hc, hs, hq, bind, Except.bind, pure, Except.pure]
  exact absurd ⟨r, src, page, limit, Listing.admits_iff.2 ⟨hb, hc, hs, q, hq⟩⟩ h

/-- A listing reads the store only for an admitted body, and then once, with the query the request
asks for: the page size, the rows of the pages before skipped (counted exactly while the count
stays below `2^63`), newest first unless the order is `ASC` in any case, the search trimmed and the
date stored as `YYYY-MM-DD`; the read is recorded, and the answer is the page with its number and
size, or the refusal when the read fails. Any other body is refused, with 400 and the text
`Error Fetching Data`, the store untouched and nothing recorded. -/
theorem listSwaps_checks_before_reading (rd : SwapReader σ) (sources : List Source) (body : String)
    (st : σ) :
    ((¬ ∃ r src page limit, Listing.Admits sources body r src page limit) →
      listSwaps rd sources body st = (HttpResponse.failure 400 "Error Fetching Data", st)) ∧
    ∀ r src page limit, Listing.Admits sources body r src page limit → (page - 1) * limit < 2 ^ 63 →
      ∃ q : SwapQuery, q.sortBy = r.sortBy ∧ q.limit = limit ∧ q.offset = (page - 1) * limit ∧
        0 ≤ q.offset ∧ q.desc = !Fold.equalsAscii r.order "ASC" ∧ q.search = Clean.trim r.search ∧
        (r.date = "" ∧ q.date = "" ∨ ∃ D, r.date = shownDate D ∧ q.date = isoDate D) ∧
        (∀ rows st', rd.rowsFor r.kind src.table q st = (.ok rows, st') →
          listSwaps rd sources body st =
            (Listing.page rows page limit, rd.record (.swap src.table "success") st')) ∧
        (∀ e st', rd.rowsFor r.kind src.table q st = (.error e, st') →
          listSwaps rd sources body st =
            (HttpResponse.failure 400 "Error Fetching Data", rd.record (.swap src.table "error") st')) := by
  refine ⟨listSwaps_refused, fun r src page limit h hbound => ?_⟩
  obtain ⟨hb, hc, hf, q, hq⟩ := Listing.admits_iff.1 h
  have hlist : listSwaps rd sources body st = _ := listSwaps_of_query hb hc hf hq
  obtain ⟨-, -, hp1, -, hl1, -, date, hdate, rfl⟩ := Listing.query_eq_ok_iff.1 hq
  have hskip : 0 ≤ (page - 1) * limit := Int.mul_nonneg (by omega) (by omega)
  have hoff : Listing.wrap64 ((page - 1) * limit) = (page - 1) * limit := Listing.wrap64_of_lt hskip hbound
  refine ⟨Listing.queryOf r page limit date, rfl, rfl, hoff, ?_, rfl, rfl, ?_, fun rows st' hr => ?_, fun e st' hr => ?_⟩
  · show 0 ≤ Listing.wrap64 _
    rw [hoff]
    exact hskip
  · rcases Listing.storedDate_iff.1 hdate with hd | ⟨D, -, -, -, hs, hr⟩
    · exact .inl hd
    · exact .inr ⟨D, hs, hr⟩
  · rw [hlist, hr]
    rfl
  · rw [hlist, hr]
    rfl

/-- Page `2^61 + 1` of four rows passes every check, but the rows before it, `2^63`, are counted in
64-bit arithmetic and wrap around: the store is asked to skip `-2^63` rows. -/
theorem listing_far_page_skips_negative_rows :
    (listSwaps ScriptedReader.reader [{ kind := Source.native, table := "native_swaps" }]
        "\x7b\"sort_by\": \"timestamp\", \"page\": \"2305843009213693953\", \"limit\": \"4\"\x7d" {}).1.status = 200 ∧
      (listSwaps ScriptedReader.reader [{ kind := Source.native, table := "native_swaps" }]
        "\x7b\"sort_by\": \"timestamp\", \"page\": \"2305843009213693953\", \"limit\": \"4\"\x7d" {}).2.queries.map
          SwapQuery.offset = [-9223372036854775808] := by
  decide +kernel

end SwapArchive
