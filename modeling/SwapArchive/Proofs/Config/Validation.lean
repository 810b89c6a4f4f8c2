import Mathlib
import SwapArchive.Config.Validate

/-!
# Which configurations pass validation

`AppConfig.validate` accepts a configuration exactly when it is well formed
(`AppConfig.WellFormed`): a known environment; at least one source, no two of one kind and no two
writing one table; every source well formed (`Source.WellFormed`, its table matching
`^[a-z_][a-z0-9_]{0,62}$`); a positive least request interval per remote service; a positive flush
size and page limit. The two rounds are read separately: the field round finds no fault exactly
when the field rules hold (`ConfigCheck.fieldFaults_eq_nil_iff`), its `unique` test a count of
`eraseDups` read as `Nodup`; the source round passes exactly when the tables are distinct and
every interval positive (`ConfigCheck.sourceRound_eq_ok_iff`).
-/

namespace SwapArchive

set_option autoImplicit false

/-- `t` matches `^[a-z_][a-z0-9_]{0,62}$`: a lower-case letter or an underscore, then at most 62
lower-case letters, digits or underscores. -/
def SqlIdentifier (t : String) : Prop :=
  ∃ c rest, t.toList = c :: rest ∧ (('a' ≤ c ∧ c ≤ 'z') ∨ c = '_') ∧ rest.length ≤ 62 ∧
    ∀ d ∈ rest, ('a' ≤ d ∧ d ≤ 'z') ∨ ('0' ≤ d ∧ d ≤ '9') ∨ d = '_'

namespace Source

/-- The rules a source meets on its own. -/
@[mk_iff]
structure WellFormed (s : Source) : Prop where
  kind : s.kind ∈ ["native", "trade", "chainflip"]
  table : SqlIdentifier s.table
  baseUrl : Url.isAbsolute s.baseUrl = true
  conflict : s.conflict ∈ ["ignore", "overwrite"]
  settlementAsset : s.kind ≠ "chainflip" → s.settlementAsset ≠ ""
  decimals : 0 ≤ s.decimals ∧ s.decimals ≤ 18
  nameStyle : s.nameStyle = "" ∨ s.nameStyle ∈ ["pool", "trade"]
  reconcile : s.kind = "chainflip" → s.reconcile = false

end Source

namespace AppConfig

/-- The configurations validation accepts. -/
structure WellFormed (c : AppConfig) : Prop where
  environment : c.environment ∈ ["production", "development", "staging", "test"]
  sources_ne_nil : c.sources ≠ []
  kinds_nodup : (c.sources.map Source.kind).Nodup
  tables_nodup : (c.sources.map Source.table).Nodup
  sources : ∀ s ∈ c.sources, s.WellFormed
  intervals : ∀ s ∈ c.sources, 0 < c.requestInterval s.kind
  flushPages : 0 < c.ingestion.backfillFlushPages
  maxPages : 0 < c.ingestion.maxPagesPerPass

end AppConfig

namespace ConfigCheck

/-! ## Distinct kinds -/

section EraseDups

variable {α : Type} [BEq α]

/-- Induction along the recursion of `eraseDups`: a list is its head before its tail with the
head filtered out. -/
theorem eraseDups_induction {motive : List α → Prop} (nil : motive [])
    (cons : ∀ a as, motive (as.filter fun b => !b == a) → motive (a :: as)) (l : List α) :
    motive l := by
  induction h : l.length using Nat.strong_induction_on generalizing l with
  | _ n ih =>
    rcases l with _ | ⟨a, as⟩
    · exact nil
    · have hf := List.length_filter_le (fun b => !b == a) as
      simp only [List.length_cons] at h
      exact cons a as (ih _ (by omega) _ rfl)

theorem length_eraseDups_le (l : List α) : l.eraseDups.length ≤ l.length := by
  induction l using eraseDups_induction with
  | nil => simp
  | cons a as ih =>
    rw [List.eraseDups_cons, List.length_cons, List.length_cons]
    have hf := List.length_filter_le (fun b => !b == a) as
    omega

/-- Dropping repeats keeps the length exactly when there are none. -/
theorem length_eraseDups_eq_iff_nodup [LawfulBEq α] (l : List α) :
    l.eraseDups.length = l.length ↔ l.Nodup := by
  induction l using eraseDups_induction with
  | nil => simp
  | cons a as ih =>
    rw [List.eraseDups_cons, List.length_cons, List.length_cons, List.nodup_cons]
    have hf := List.length_filter_le (fun b => !b == a) as
    have hle := length_eraseDups_le (as.filter fun b => !b == a)
    have hkeep : (as.filter fun b => !b == a) = as ↔ a ∉ as := by
      rw [List.filter_eq_self]
      simp only [Bool.not_eq_true', beq_eq_false_iff_ne, ne_eq]
      exact ⟨fun h ha => h a ha rfl, fun h b hb hba => h (hba ▸ hb)⟩
    constructor
    · intro h
      have hlen : (as.filter fun b => !b == a).length = as.length := by omega
      have hsame := List.filter_eq_self.2 (List.length_filter_eq_length_iff.1 hlen)
      rw [hsame] at ih
      exact ⟨hkeep.1 hsame, ih.1 (by rw [hsame] at h; omega)⟩
    · rintro ⟨ha, hnd⟩
      rw [hkeep.2 ha] at ih ⊢
      have := ih.2 hnd
      omega

/-- Dropping repeats leaves none. -/
theorem nodup_eraseDups [LawfulBEq α] (l : List α) : l.eraseDups.Nodup := by
  induction l using eraseDups_induction with
  | nil => simp
  | cons a as ih =>
    rw [List.eraseDups_cons, List.nodup_cons, List.mem_eraseDups]
    exact ⟨by simp, ih⟩

end EraseDups

/-! ## The field round -/

theorem ite_cons_eq_nil {α : Type} {p : Prop} [Decidable p] {a : α} {l : List α} :
    (if p then [a] else l) = [] ↔ ¬p ∧ l = [] := by
  split <;> simp_all

/-- The table test is the pattern `^[a-z_][a-z0-9_]{0,62}$`. -/
theorem sqlIdent_iff (t : String) : sqlIdent t = true ↔ SqlIdentifier t := by
  unfold sqlIdent SqlIdentifier
  rcases h : t.toList with _ | ⟨c, rest⟩
  · simp
  · simp only [List.all_eq_true, Bool.and_eq_true, decide_eq_true_eq, Bool.or_eq_true,
      List.cons.injEq, exists_and_left, exists_eq_left', and_assoc]
    refine and_congr_right fun _ => and_congr_right fun _ => forall₂_congr fun d _ => ?_
    rw [or_right_comm, or_assoc]

theorem sqlIdent_ne_empty {t : String} (h : sqlIdent t = true) : t ≠ "" := by
  rintro rfl
  exact absurd h (by decide)

/-- A field checked against a list of values, none of them empty, is faultless when its value is
one of them. -/
theorem oneOf_eq_nil_iff {at_ : String → String → FieldFault} {field value : String}
    {allowed : List String} (h : "" ∉ allowed) :
    oneOf at_ field value allowed = [] ↔ value ∈ allowed := by
  unfold oneOf
  by_cases hv : value = ""
  · subst hv
    simp [h]
  · by_cases hm : value ∈ allowed <;> simp [hv, hm]

/-- A source has no faulty field exactly when it is well formed, whatever its index. -/
theorem sourceFaults_eq_nil_iff (i : Nat) (s : Source) : sourceFaults i s = [] ↔ s.WellFormed := by
  unfold sourceFaults
  simp only [List.append_eq_nil_iff]
  rw [oneOf_eq_nil_iff (by decide), oneOf_eq_nil_iff (by decide)]
  simp only [ite_cons_eq_nil, and_true, Source.wellFormed_iff, ← sqlIdent_iff]
  have htable : (¬s.table = "" ∧ ¬¬sqlIdent s.table = true) ↔ sqlIdent s.table = true :=
    ⟨fun h => not_not.1 h.2, fun h => ⟨sqlIdent_ne_empty h, not_not.2 h⟩⟩
  have hurl : Url.isAbsolute "" = false := by decide
  have hbase : (¬s.baseUrl = "" ∧ ¬¬Url.isAbsolute s.baseUrl = true) ↔
      Url.isAbsolute s.baseUrl = true :=
    ⟨fun h => not_not.1 h.2, fun h => ⟨fun he => by simp [he, hurl] at h, not_not.2 h⟩⟩
  rw [htable, hbase]
  simp only [and_assoc, not_and, not_lt, not_not, ne_eq, Bool.not_eq_true, Source.native,
    Source.trade, Source.chainflip, Source.conflictIgnore, Source.conflictOverwrite,
    Source.stylePool, Source.styleTrade, or_iff_not_imp_left]

/-- The field round finds nothing exactly when the environment is known and the sources are
present, of distinct kinds and each well formed. -/
theorem fieldFaults_eq_nil_iff (c : AppConfig) :
    fieldFaults c = [] ↔ c.environment ∈ environments ∧ c.sources ≠ [] ∧
      (c.sources.map Source.kind).Nodup ∧ ∀ s ∈ c.sources, s.WellFormed := by
  unfold fieldFaults
  simp only [List.append_eq_nil_iff, ite_cons_eq_nil, List.isEmpty_iff, ne_eq, not_not,
    length_eraseDups_eq_iff_nodup, List.flatten_eq_nil_iff, List.forall_mem_map, Prod.forall,
    sourceFaults_eq_nil_iff, List.mem_zipIdx_iff_getElem?, ite_eq_left_iff, List.cons_ne_nil,
    imp_false]
  have hsrc : (∀ (s : Source) (i : Nat), c.sources[i]? = some s → s.WellFormed) ↔
      ∀ s ∈ c.sources, s.WellFormed := by
    simp only [List.mem_iff_getElem?, forall_exists_index]
  rw [hsrc]

/-! ## The source round -/

/-- The source round passes exactly when no table is among those already seen or repeats, and
every remote service has a positive least interval. -/
theorem sourceRound_eq_ok_iff (c : AppConfig) (seen : List String) (srcs : List Source) :
    sourceRound c seen srcs = .ok () ↔ (∀ s ∈ srcs, s.table ∉ seen) ∧
      (srcs.map Source.table).Nodup ∧ ∀ s ∈ srcs, 0 < c.requestInterval s.kind := by
  induction srcs generalizing seen with
  | nil => simp [sourceRound]
  | cons s rest ih =>
    rw [sourceRound]
    by_cases hseen : s.table ∈ seen
    · simp [hseen]
    · by_cases hint : c.requestInterval s.kind ≤ 0
      · simp [hseen, hint]
      · have hpos : 0 < c.requestInterval s.kind := by omega
        simp only [hseen, hint, if_false, ih, List.forall_mem_cons, List.map_cons, List.nodup_cons,
          List.mem_map]
        constructor
        · rintro ⟨hnew, hnd, hall⟩
          refine ⟨⟨not_false, fun x hx h => hnew x hx (List.mem_cons_of_mem _ h)⟩,
            ⟨?_, hnd⟩, hpos, hall⟩
          rintro ⟨x, hx, heq⟩
          exact hnew x hx (heq ▸ List.mem_cons_self)
        · rintro ⟨⟨-, hold⟩, ⟨hfresh, hnd⟩, -, hall⟩
          refine ⟨fun x hx hmem => ?_, hnd, hall⟩
          rcases List.mem_cons.1 hmem with h | h
          · exact hfresh ⟨x, hx, h⟩
          · exact hold x hx h

end ConfigCheck

namespace AppConfig

/-- Validation passes exactly when both rounds do and the two limits are positive. -/
theorem validate_eq_ok_iff_rounds (c : AppConfig) : c.validate = .ok () ↔
    ConfigCheck.fieldFaults c = [] ∧ ConfigCheck.sourceRound c [] c.sources = .ok () ∧
      0 < c.ingestion.backfillFlushPages ∧ 0 < c.ingestion.maxPagesPerPass := by
  unfold validate
  simp only [bind, Except.bind, pure, Except.pure, throw, throwThe, MonadExceptOf.throw]
  have hempty : (ConfigCheck.fieldFaults c).isEmpty = true ↔ ConfigCheck.fieldFaults c = [] :=
    List.isEmpty_iff
  rcases hr : ConfigCheck.sourceRound c [] c.sources with e | ⟨⟩
  · by_cases hf : ConfigCheck.fieldFaults c = [] <;> simp [hf, hempty]
  · by_cases hf : ConfigCheck.fieldFaults c = []
    · simp only [hf, List.isEmpty_nil, not_true_eq_false, if_false, true_and]
      split_ifs with h1 h2 <;> simp <;> omega
    · simp [hf, hempty]

/-- Validation accepts a configuration exactly when it is well formed. -/
theorem validate_accepts_exactly_well_formed (c : AppConfig) :
    c.validate = .ok () ↔ c.WellFormed := by
  rw [validate_eq_ok_iff_rounds, ConfigCheck.fieldFaults_eq_nil_iff,
    ConfigCheck.sourceRound_eq_ok_iff]
  simp only [List.not_mem_nil, not_false_eq_true, implies_true, true_and, ConfigCheck.environments]
  constructor
  · rintro ⟨⟨henv, hne, hkinds, hsrcs⟩, ⟨htables, hint⟩, hflush, hmax⟩
    exact ⟨henv, hne, hkinds, htables, hsrcs, hint, hflush, hmax⟩
  · intro h
    exact ⟨⟨h.environment, h.sources_ne_nil, h.kinds_nodup, h.sources⟩,
      ⟨h.tables_nodup, h.intervals⟩, h.flushPages, h.maxPages⟩

end AppConfig

end SwapArchive
