import SwapArchive.Database.Scripted
import SwapArchive.Proofs.Database.Recording

/-!
# Statement texts never hold the caller's values

Every value a caller hands the store reaches the database as an argument of a placeholder, never
as part of a statement's text. `SqlText.Alike t u` says two statements under construction differ
at most in their arguments' values; every writer of `Render` keeps it, so a statement's text is
decided by the shape of what it is built from (`Select.render_alike`, `Insert.render_alike`), and
each placeholder takes the next value (`Select.render_args`, `Insert.render_args`). A listing's
text depends only on its table, whether it searches and names a date, its ordering column and
direction, and whether it limits and skips (`SwapQuery.shape`); the id lookup's only on how many
ids it asks for; reading a price or a record and inserting rows bind every value given.
-/

namespace SwapArchive

namespace SqlText

/-- Two statements under construction that may differ only in the values of their arguments. -/
def Alike (t u : SqlText) : Prop := t.text = u.text ∧ t.args.length = u.args.length

theorem Alike.write {t u : SqlText} (h : Alike t u) (s : String) : Alike (t.write s) (u.write s) :=
  ⟨by simp [SqlText.write, h.1], h.2⟩

theorem Alike.bind {t u : SqlText} (h : Alike t u) (v w : DbValue) : Alike (t.bind v) (u.bind w) :=
  ⟨by simp [SqlText.bind, h.1, h.2], by simp [SqlText.bind, h.2]⟩

/-- Comma-separated placeholders for two lists of values of one length. -/
theorem Alike.foldl_bind {t u : SqlText} (h : Alike t u) {vs ws : List DbValue}
    (hl : vs.length = ws.length) :
    Alike (vs.foldl (fun t v => (t.write ",").bind v) t) (ws.foldl (fun t v => (t.write ",").bind v) u) := by
  induction vs generalizing ws t u with
  | nil =>
    cases ws with
    | nil => exact h
    | cons w ws => simp at hl
  | cons v vs ih =>
    cases ws with
    | nil => simp at hl
    | cons w ws => exact ih ((h.write ",").bind v w) (by simpa using hl)

theorem Alike.bindList {t u : SqlText} (h : Alike t u) {vs ws : List DbValue}
    (hl : vs.length = ws.length) : Alike (t.bindList vs) (u.bindList ws) := by
  cases vs with
  | nil =>
    cases ws with
    | nil => exact h.write _
    | cons w ws => simp at hl
  | cons v vs =>
    cases ws with
    | nil => simp at hl
    | cons w ws => exact (((h.write "(").bind v w).foldl_bind (by simpa using hl)).write ")"

@[simp] theorem write_args (t : SqlText) (s : String) : (t.write s).args = t.args := rfl

@[simp] theorem bind_args (t : SqlText) (v : DbValue) : (t.bind v).args = t.args ++ [v] := rfl

theorem foldl_bind_args (t : SqlText) (vs : List DbValue) :
    (vs.foldl (fun t v => (t.write ",").bind v) t).args = t.args ++ vs := by
  induction vs generalizing t with
  | nil => simp
  | cons v vs ih => simp [ih]

@[simp] theorem bindList_args (t : SqlText) (vs : List DbValue) : (t.bindList vs).args = t.args ++ vs := by
  cases vs with
  | nil => simp [bindList]
  | cons v vs => simp [bindList, foldl_bind_args]

end SqlText

namespace Arg

/-- What an argument makes of the text: one placeholder (`none`), or a list of so many. -/
def width : Arg → Option Nat
  | .one _ => none
  | .many vs => some vs.length

/-- The values an argument binds. -/
def values : Arg → List DbValue
  | .one v => [v]
  | .many vs => vs

end Arg

namespace Condition

/-- Two conditions that may differ only in the values of their arguments. -/
def Alike (c d : Condition) : Prop := c.sql = d.sql ∧ c.args.map Arg.width = d.args.map Arg.width

/-- Every `?` of the condition has its argument. -/
def Exact (c : Condition) : Prop := c.sql.toList.count '?' = c.args.length

/-- Outside a `?` that has an argument, a character is copied into the text. -/
theorem writeChars_cons_of_not (t : SqlText) {ch : Char} (cs : List Char) {as : List Arg}
    (h : ¬(ch = '?' ∧ as ≠ [])) : writeChars t (ch :: cs) as = writeChars (t.write (String.singleton ch)) cs as := by
  rw [writeChars.eq_4]
  rintro a as' rfl rfl
  exact h ⟨rfl, List.cons_ne_nil a as'⟩

theorem writeChars_alike {t u : SqlText} (h : t.Alike u) (cs : List Char) {as bs : List Arg}
    (hw : as.map Arg.width = bs.map Arg.width) : (writeChars t cs as).Alike (writeChars u cs bs) := by
  induction cs generalizing t u as bs with
  | nil => exact h
  | cons ch cs ih =>
    have hnil : as = [] ↔ bs = [] := by
      rw [← List.map_eq_nil_iff (f := Arg.width), hw, List.map_eq_nil_iff]
    by_cases hq : ch = '?' ∧ as ≠ []
    · obtain ⟨rfl, hne⟩ := hq
      obtain ⟨a, as, rfl⟩ := List.exists_cons_of_ne_nil hne
      obtain ⟨b, bs, rfl⟩ := List.exists_cons_of_ne_nil (fun hb => hne (hnil.2 hb))
      simp only [List.map_cons, List.cons.injEq] at hw
      obtain ⟨hab, hw⟩ := hw
      cases a with
      | one v =>
        cases b with
        | one w => rw [writeChars.eq_2, writeChars.eq_2]; exact ih (h.bind v w) hw
        | many ws => simp [Arg.width] at hab
      | many vs =>
        cases b with
        | one w => simp [Arg.width] at hab
        | many ws =>
          rw [writeChars.eq_3, writeChars.eq_3]
          exact ih (h.bindList (by simpa [Arg.width] using hab)) hw
    · have hq' : ¬(ch = '?' ∧ bs ≠ []) := fun h' => hq ⟨h'.1, fun ha => h'.2 (hnil.1 ha)⟩
      rw [writeChars_cons_of_not t cs hq, writeChars_cons_of_not u cs hq']
      exact ih (h.write _) hw

/-- Each `?` takes the next argument, so a text binds the values of the arguments its `?`s reach. -/
theorem writeChars_args (t : SqlText) (cs : List Char) (as : List Arg) :
    (writeChars t cs as).args = t.args ++ (as.take (cs.count '?')).flatMap Arg.values := by
  induction cs generalizing t as with
  | nil => simp [writeChars]
  | cons ch cs ih =>
    by_cases hq : ch = '?' ∧ as ≠ []
    · obtain ⟨rfl, hne⟩ := hq
      obtain ⟨a, as, rfl⟩ := List.exists_cons_of_ne_nil hne
      cases a with
      | one v => simp [writeChars.eq_2, ih, Arg.values]
      | many vs => simp [writeChars.eq_3, ih, Arg.values]
    · rw [writeChars_cons_of_not t cs hq, ih]
      by_cases hch : ch = '?'
      · have has : as = [] := by simpa [hch] using hq
        simp [has]
      · simp [hch]

theorem write_alike {t u : SqlText} (h : t.Alike u) {c d : Condition} (hc : c.Alike d) :
    (write t c).Alike (write u d) := by
  unfold write
  rw [hc.1]
  exact writeChars_alike h _ hc.2

theorem write_args_of_exact (t : SqlText) {c : Condition} (hc : c.Exact) :
    (write t c).args = t.args ++ c.args.flatMap Arg.values := by
  rw [write, writeChars_args, hc, List.take_length]

/-- A condition written among `n` conditions: in parentheses when it is compound and not alone. -/
def writeAmong (n : Nat) (t : SqlText) (c : Condition) : SqlText :=
  if n > 1 ∧ c.compound then (write (t.write "(") c).write ")" else write t c

theorem writeAll_cons (t : SqlText) (c : Condition) (rest : List Condition) :
    writeAll t (c :: rest) =
      rest.foldl (fun t c => writeAmong (rest.length + 1) (t.write " AND ") c) (writeAmong (rest.length + 1) t c) :=
  rfl

theorem writeAmong_alike (n : Nat) {t u : SqlText} (h : t.Alike u) {c d : Condition} (hc : c.Alike d) :
    (writeAmong n t c).Alike (writeAmong n u d) := by
  have hcomp : c.compound = d.compound := by simp [compound, hc.1]
  unfold writeAmong
  rw [hcomp]
  split
  · exact (write_alike (h.write "(") hc).write ")"
  · exact write_alike h hc

theorem writeAmong_args (n : Nat) (t : SqlText) {c : Condition} (hc : c.Exact) :
    (writeAmong n t c).args = t.args ++ c.args.flatMap Arg.values := by
  unfold writeAmong
  split <;> simp [write_args_of_exact _ hc]

/-- Alike lists of conditions, joined with `AND`, give alike texts. -/
theorem writeAll_alike {t u : SqlText} (h : t.Alike u) {cs ds : List Condition}
    (hc : List.Forall₂ Condition.Alike cs ds) : (writeAll t cs).Alike (writeAll u ds) := by
  cases hc with
  | nil => exact h
  | @cons c d rest rest' hcd hrest =>
    rw [writeAll_cons, writeAll_cons, ← hrest.length_eq]
    have hfold : ∀ {t u : SqlText} {cs' ds' : List Condition}, t.Alike u → List.Forall₂ Condition.Alike cs' ds' →
        (cs'.foldl (fun t c => writeAmong (rest.length + 1) (t.write " AND ") c) t).Alike
          (ds'.foldl (fun t c => writeAmong (rest.length + 1) (t.write " AND ") c) u) := by
      intro t u cs' ds' ht hcs
      induction hcs generalizing t u with
      | nil => exact ht
      | cons hcd' _ ih => exact ih (writeAmong_alike _ (ht.write " AND ") hcd')
    exact hfold (writeAmong_alike _ h hcd) hrest

theorem writeAll_args (t : SqlText) {cs : List Condition} (hc : ∀ c ∈ cs, c.Exact) :
    (writeAll t cs).args = t.args ++ cs.flatMap fun c => c.args.flatMap Arg.values := by
  cases cs with
  | nil => simp [writeAll]
  | cons c rest =>
    rw [writeAll_cons]
    have hfold : ∀ (t : SqlText) (cs' : List Condition), (∀ c ∈ cs', c.Exact) →
        (cs'.foldl (fun t c => writeAmong (rest.length + 1) (t.write " AND ") c) t).args =
          t.args ++ cs'.flatMap fun c => c.args.flatMap Arg.values := by
      intro t cs' hex
      induction cs' generalizing t with
      | nil => simp
      | cons c' cs' ih =>
        rw [List.foldl_cons, ih _ fun x hx => hex x (List.mem_cons_of_mem _ hx),
          writeAmong_args _ _ (hex c' List.mem_cons_self)]
        simp
    rw [hfold _ rest fun x hx => hc x (List.mem_cons_of_mem _ hx),
      writeAmong_args _ _ (hc c List.mem_cons_self)]
    simp

end Condition

/-! ## Queries and inserts -/

namespace Select

/-- Two queries that may differ only in the values they bind. -/
def Alike (q q' : Select) : Prop :=
  q.columns = q'.columns ∧ q.table = q'.table ∧ List.Forall₂ Condition.Alike q.conditions q'.conditions ∧
    q.order = q'.order ∧ q.limit.isSome = q'.limit.isSome ∧ q.offset.isSome = q'.offset.isSome

/-- The head of a query: what it selects, from where, and its conditions. -/
def head (q : Select) : SqlText :=
  let t : SqlText := { text := "SELECT " ++ q.columns ++ " FROM " ++ q.table.expr }
  if q.conditions.isEmpty then t else Condition.writeAll (t.write " WHERE ") q.conditions

/-- Appends the ordering, when there is one. -/
def withOrder (o : Option String) (t : SqlText) : SqlText :=
  match o with
  | some o => t.write (" ORDER BY " ++ o)
  | none => t

/-- Appends a keyword and a placeholder for a count, when there is one. -/
def withCount (kw : String) (n : Option Int) (t : SqlText) : SqlText :=
  match n with
  | some n => (t.write kw).bind (.int n)
  | none => t

theorem render_eq (q : Select) :
    q.render = withCount " OFFSET " q.offset (withCount " LIMIT " q.limit (withOrder q.order q.head)) := by
  unfold render head withOrder withCount
  cases q.order <;> cases q.limit <;> cases q.offset <;> rfl

theorem head_alike {q q' : Select} (hcol : q.columns = q'.columns) (htab : q.table = q'.table)
    (hcond : List.Forall₂ Condition.Alike q.conditions q'.conditions) : q.head.Alike q'.head := by
  have hempty : q.conditions.isEmpty = q'.conditions.isEmpty := by
    rw [Bool.eq_iff_iff, List.isEmpty_iff, List.isEmpty_iff, ← List.length_eq_zero_iff,
      ← List.length_eq_zero_iff, hcond.length_eq]
  unfold head
  rw [hempty, hcol, htab]
  split
  · exact ⟨rfl, rfl⟩
  · exact Condition.writeAll_alike (SqlText.Alike.write ⟨rfl, rfl⟩ " WHERE ") hcond

theorem withCount_alike (kw : String) {n n' : Option Int} (hn : n.isSome = n'.isSome) {t u : SqlText}
    (h : t.Alike u) : (withCount kw n t).Alike (withCount kw n' u) := by
  cases n <;> cases n' <;> simp_all [withCount, SqlText.Alike.bind, SqlText.Alike.write]

/-- Queries alike have one text. -/
theorem render_alike {q q' : Select} (h : q.Alike q') : q.render.Alike q'.render := by
  obtain ⟨hcol, htab, hcond, hord, hlim, hoff⟩ := h
  have hhead := head_alike hcol htab hcond
  have hord' : (withOrder q.order q.head).Alike (withOrder q'.order q'.head) := by
    rw [hord]
    cases q'.order with
    | some o => exact hhead.write _
    | none => exact hhead
  rw [render_eq, render_eq]
  exact withCount_alike _ hoff (withCount_alike _ hlim hord')

/-- A query binds the values of its conditions, then its limit and its offset. -/
theorem render_args (q : Select) (hc : ∀ c ∈ q.conditions, c.Exact) :
    q.render.args = q.conditions.flatMap (fun c => c.args.flatMap Arg.values) ++
      (q.limit.map DbValue.int).toList ++ (q.offset.map DbValue.int).toList := by
  have hhead : q.head.args = q.conditions.flatMap fun c => c.args.flatMap Arg.values := by
    unfold head
    split
    · rename_i he
      simp [List.isEmpty_iff.1 he]
    · simp [Condition.writeAll_args _ hc]
  rw [render_eq]
  cases q.order <;> cases q.limit <;> cases q.offset <;> simp [withCount, withOrder, hhead]

end Select

namespace Insert

/-- Two inserts that may differ only in the values of their rows. -/
def Alike (i i' : Insert) : Prop :=
  i.table = i'.table ∧ i.columns = i'.columns ∧ i.rows.map List.length = i'.rows.map List.length ∧
    i.key = i'.key ∧ i.updates = i'.updates

theorem writeRow_alike {t u : SqlText} (h : t.Alike u) {r r' : List DbValue} (hl : r.length = r'.length) :
    (writeRow t r).Alike (writeRow u r') := by
  cases r with
  | nil =>
    cases r' with
    | nil => exact h.write _
    | cons w ws => simp at hl
  | cons v vs =>
    cases r' with
    | nil => simp at hl
    | cons w ws => exact (((h.write "(").bind v w).foldl_bind (by simpa using hl)).write ")"

theorem writeRow_args (t : SqlText) (r : List DbValue) : (writeRow t r).args = t.args ++ r := by
  cases r with
  | nil => simp [writeRow]
  | cons v vs => simp [writeRow, SqlText.foldl_bind_args]

/-- Appends rows, comma-separated. -/
def withRows (t : SqlText) : List (List DbValue) → SqlText
  | [] => t
  | r :: rs => rs.foldl (fun t r => writeRow (t.write ",") r) (writeRow t r)

/-- Appends what to do with a held key: nothing, or take the columns to update. -/
def withConflict (key updates : List String) (t : SqlText) : SqlText :=
  let t := t.write (" ON CONFLICT (" ++ quotedList key ++ ") ")
  if updates.isEmpty then t.write "DO NOTHING"
  else
    t.write ("DO UPDATE SET " ++ ",".intercalate
      (updates.map fun c => Ident.quote c ++ "=" ++ Ident.quote "excluded" ++ "." ++ Ident.quote c))

theorem render_eq (i : Insert) :
    i.render = withConflict i.key i.updates
      (withRows { text := "INSERT INTO " ++ i.table.expr ++ " (" ++ quotedList i.columns ++ ") VALUES " } i.rows) := by
  unfold render withRows withConflict
  cases i.rows <;> rfl

theorem foldl_writeRow_alike {t u : SqlText} (h : t.Alike u) {rs rs' : List (List DbValue)}
    (hl : rs.map List.length = rs'.map List.length) :
    (rs.foldl (fun t r => writeRow (t.write ",") r) t).Alike (rs'.foldl (fun t r => writeRow (t.write ",") r) u) := by
  induction rs generalizing rs' t u with
  | nil =>
    cases rs' with
    | nil => exact h
    | cons _ _ => simp at hl
  | cons r rs ih =>
    cases rs' with
    | nil => simp at hl
    | cons r' rs' =>
      simp only [List.map_cons, List.cons.injEq] at hl
      simp only [List.foldl_cons]
      exact ih (writeRow_alike (h.write ",") hl.1) hl.2

theorem withRows_alike {t u : SqlText} (h : t.Alike u) {rs rs' : List (List DbValue)}
    (hl : rs.map List.length = rs'.map List.length) : (withRows t rs).Alike (withRows u rs') := by
  cases rs with
  | nil =>
    cases rs' with
    | nil => exact h
    | cons _ _ => simp at hl
  | cons r rs =>
    cases rs' with
    | nil => simp at hl
    | cons r' rs' =>
      simp only [List.map_cons, List.cons.injEq] at hl
      exact foldl_writeRow_alike (writeRow_alike h hl.1) hl.2

theorem withRows_args (t : SqlText) (rs : List (List DbValue)) : (withRows t rs).args = t.args ++ rs.flatten := by
  have hfold : ∀ (t : SqlText) (rs : List (List DbValue)),
      (rs.foldl (fun t r => writeRow (t.write ",") r) t).args = t.args ++ rs.flatten := by
    intro t rs
    induction rs generalizing t with
    | nil => simp
    | cons r rs ih => simp [ih, writeRow_args]
  cases rs with
  | nil => simp [withRows]
  | cons r rs => simp [withRows, hfold, writeRow_args]

theorem withConflict_alike (key updates : List String) {t u : SqlText} (h : t.Alike u) :
    (withConflict key updates t).Alike (withConflict key updates u) := by
  unfold withConflict
  split
  · exact (h.write _).write _
  · exact (h.write _).write _

theorem withConflict_args (key updates : List String) (t : SqlText) :
    (withConflict key updates t).args = t.args := by
  unfold withConflict
  split <;> rfl

/-- Inserts alike have one text. -/
theorem render_alike {i i' : Insert} (h : i.Alike i') : i.render.Alike i'.render := by
  obtain ⟨htab, hcol, hrows, hkey, hupd⟩ := h
  rw [render_eq, render_eq, htab, hcol, hkey, hupd]
  exact withConflict_alike _ _ (withRows_alike ⟨rfl, rfl⟩ hrows)

/-- An insert binds the values of its rows, row after row. -/
theorem render_args (i : Insert) : i.render.args = i.rows.flatten := by
  rw [render_eq, withConflict_args, withRows_args]
  rfl

end Insert

/-! ## Listings -/

/-- What of a listing may shape its statement's text. -/
structure ListingShape where
  searched : Bool
  dated : Bool
  column : String
  desc : Bool
  limited : Bool
  skipped : Bool
  deriving DecidableEq

namespace SwapQuery

/-- The shape of a listing under a table's search rules: whether it searches and names a date,
the column and direction it is ordered by, and whether it limits and skips. -/
def shape (rules : SearchRules) (q : SwapQuery) : ListingShape :=
  ⟨decide (q.search ≠ ""), decide (q.date ≠ ""), rules.sortColumn q.sortBy, q.desc,
    decide (q.limit > 0), decide (q.offset > 0)⟩

/-- The values a listing binds, in placeholder order: the search pattern once per searched column,
the date, the limit and the offset, each when the listing has it. -/
def boundValues (rules : SearchRules) (q : SwapQuery) : List DbValue :=
  (if q.search = "" then [] else rules.searchColumns.map fun _ => .text ("%" ++ q.search ++ "%")) ++
    (if q.date = "" then [] else [.text q.date]) ++
    (if q.limit > 0 then [.int q.limit] else []) ++ (if q.offset > 0 then [.int q.offset] else [])

end SwapQuery

namespace SearchRules

/-- Every `?` of the search condition has its pattern: no searched column holds a `?`. -/
def Exact (rules : SearchRules) : Prop :=
  (" OR ".intercalate (rules.searchColumns.map (· ++ " LIKE ?"))).toList.count '?' = rules.searchColumns.length

/-- The ordering column is one the table allows, when it allows `timestamp`. -/
theorem sortColumn_mem (rules : SearchRules) (h : "timestamp" ∈ rules.sortable) (column : String) :
    rules.sortColumn column ∈ rules.sortable := by
  unfold sortColumn sortable?
  split
  · rename_i hc
    exact of_decide_eq_true hc
  · exact h

/-- The swap record and Chainflip tables: their search conditions bind a pattern per `?`, and both
allow ordering by `timestamp`. -/
theorem exact_of_mem {rules : SearchRules}
    (h : rules ∈ [SwapRecord.searchRules, ChainflipSwap.searchRules]) :
    rules.Exact ∧ "timestamp" ∈ rules.sortable := by
  simp only [List.mem_cons, List.not_mem_nil, or_false] at h
  rcases h with rfl | rfl <;> exact ⟨by unfold Exact; decide, by decide⟩

end SearchRules

namespace TableStore

variable {α : Type}

/-- Listings of one shape have one text. -/
theorem findQuery_alike (l : RowLayout α) (rules : SearchRules) (table : String) {q q' : SwapQuery}
    (h : q.shape rules = q'.shape rules) :
    (findQuery l rules table q).Alike (findQuery l rules table q') := by
  simp only [SwapQuery.shape, ListingShape.mk.injEq, decide_eq_decide] at h
  obtain ⟨hs, hd, hcol, hdesc, hlim, hoff⟩ := h
  have hsearch : ∀ p p' : DbValue, List.Forall₂ Condition.Alike
      (if q.search = "" then [] else
        [⟨" OR ".intercalate (rules.searchColumns.map (· ++ " LIKE ?")), rules.searchColumns.map fun _ => .one p⟩])
      (if q'.search = "" then [] else
        [⟨" OR ".intercalate (rules.searchColumns.map (· ++ " LIKE ?")), rules.searchColumns.map fun _ => .one p'⟩]) := by
    intro p p'
    by_cases he : q.search = ""
    · rw [if_pos he, if_pos (by simpa [he] using hs)]
      exact .nil
    · rw [if_neg he, if_neg (by simpa [he] using hs)]
      exact .cons ⟨rfl, by simp [Arg.width]⟩ .nil
  have hdate : List.Forall₂ Condition.Alike
      (if q.date = "" then [] else [⟨"date = ?", [.one (.text q.date)]⟩])
      (if q'.date = "" then [] else [⟨"date = ?", [.one (.text q'.date)]⟩]) := by
    by_cases he : q.date = ""
    · rw [if_pos he, if_pos (by simpa [he] using hd)]
      exact .nil
    · rw [if_neg he, if_neg (by simpa [he] using hd)]
      exact .cons ⟨rfl, rfl⟩ .nil
  have hcount : ∀ n : Int, (if n > 0 then some n else none).isSome = decide (n > 0) := fun n => by
    split <;> simp [*]
  refine ⟨rfl, rfl, List.rel_append (hsearch _ _) hdate, ?_, ?_, ?_⟩
  · show some (orderBy (rules.sortColumn q.sortBy) q.desc) = some (orderBy (rules.sortColumn q'.sortBy) q'.desc)
    rw [hcol, hdesc]
  · show (if q.limit > 0 then some q.limit else none).isSome = (if q'.limit > 0 then some q'.limit else none).isSome
    rw [hcount, hcount]
    exact decide_eq_decide.2 hlim
  · show (if q.offset > 0 then some q.offset else none).isSome = (if q'.offset > 0 then some q'.offset else none).isSome
    rw [hcount, hcount]
    exact decide_eq_decide.2 hoff

/-- A listing binds its search pattern, date, limit and offset, and nothing else. -/
theorem findQuery_args (l : RowLayout α) {rules : SearchRules} (hr : rules.Exact) (table : String)
    (q : SwapQuery) : (findQuery l rules table q).render.args = q.boundValues rules := by
  have hrep : ∀ (n : Nat) (v : DbValue), (List.replicate n (Arg.one v)).flatMap Arg.values = List.replicate n v := by
    intro n v
    induction n with
    | zero => rfl
    | succ n ih => simp [List.replicate_succ, Arg.values, ih]
  rw [Select.render_args]
  · by_cases hs : q.search = "" <;> by_cases hd : q.date = "" <;>
      by_cases hl : q.limit > 0 <;> by_cases ho : q.offset > 0 <;>
      simp [findQuery, SwapQuery.boundValues, hs, hd, hl, ho, Arg.values, hrep]
  · intro c hc
    simp only [findQuery, List.mem_append] at hc
    rcases hc with hc | hc
    · split at hc
      · simp at hc
      · simp only [List.mem_singleton] at hc
        subst hc
        unfold Condition.Exact
        rw [List.length_map]
        exact hr
    · split at hc
      · simp at hc
      · simp only [List.mem_singleton] at hc
        subst hc
        show ("date = ?").toList.count '?' = 1
        decide

end TableStore

/-! ## What the database receives -/

namespace TableStore

variable {δ α : Type}

/-- The insert of some rows of a layout into a table, taking `updates` from a new row whose key is
held. -/
def insertOf (l : RowLayout α) (t : TableRef) (updates : List String) (rows : List α) : Insert :=
  ⟨t, l.columns, rows.map l.values, l.key, updates⟩

/-- Inserts of as many rows have one text. -/
theorem insertOf_alike (l : RowLayout α) (t : TableRef) (updates : List String) {rows rows' : List α}
    (h : rows.length = rows'.length) : (insertOf l t updates rows).Alike (insertOf l t updates rows') := by
  refine ⟨rfl, rfl, ?_, rfl, rfl⟩
  simp [insertOf, RowLayout.values, Function.comp_def, h]

/-- An insert binds the values of its rows, row after row. -/
theorem insertOf_args (l : RowLayout α) (t : TableRef) (updates : List String) (rows : List α) :
    (insertOf l t updates rows).render.args = rows.flatMap l.values := by
  rw [Insert.render_args]
  simp [insertOf, List.flatMap_def]

/-- What a query leaves is what sending it left. -/
theorem ask_snd {β : Type} (h : Handle δ) (q : Select) (read : ResultSet → Except String β) (d : δ) :
    (ask h q read d).2 = (h.query q.render.text q.render.args d).2 := by
  rcases hq : h.query q.render.text q.render.args d with ⟨_ | _, d'⟩ <;> simp [ask, hq]

variable (o : DbOps δ) (c : Bool)

/-- A query reaches the database as its text and arguments, unless the caller has given up. -/
theorem sent_ask {β : Type} (q : Select) (read : ResultSet → Except String β) (d : δ) :
    sent (ask ⟨o.recording, c⟩ q read) d = if c then [] else [.query q.render.text q.render.args] := by
  simp only [sent, ask_snd, Handle.query_recording]
  split <;> simp

/-- Inserting chunks sends the insert of each chunk, in order, up to the first one refused. -/
theorem insertChunks_sent (l : RowLayout α) (t : TableRef) (updates : List String)
    (chs : List (List α)) (d : δ) (log : Received) :
    ∃ k, (insertChunks ⟨o.recording, c⟩ l t updates chs (d, log)).2.2.map Prod.fst =
      log.map Prod.fst ++ (chs.take k).map fun ch =>
        .exec (insertOf l t updates ch).render.text (insertOf l t updates ch).render.args := by
  induction chs generalizing d log with
  | nil => exact ⟨0, by simp [insertChunks]⟩
  | cons ch chs ih =>
    have hins : insert ⟨o.recording, c⟩ l t updates ch (d, log) =
        Handle.exec ⟨o.recording, c⟩ (insertOf l t updates ch).render.text
          (insertOf l t updates ch).render.args (d, log) := rfl
    rw [insertChunks, hins]
    cases c with
    | true =>
      exact ⟨0, by simp⟩
    | false =>
      rcases he : o.exec (insertOf l t updates ch).render.text (insertOf l t updates ch).render.args d
        with ⟨_ | _, d'⟩
      · exact ⟨1, by simp [he]⟩
      · obtain ⟨k, hk⟩ := ih d' (log ++ [(.exec (insertOf l t updates ch).render.text
          (insertOf l t updates ch).render.args, none)])
        refine ⟨k + 1, ?_⟩
        simp only [Handle.exec_recording, he, failureOf_ok, Bool.false_eq_true, if_false]
        simp [hk]

/-- The query that reads the first row under a condition, ordered by the first key column. -/
def firstQuery (l : RowLayout α) (table : String) (cond : Condition) : Select :=
  ⟨"*", TableRef.ofName l.typeTable table, [cond],
    some ((TableRef.ofName l.typeTable table).column (l.key.headD "")), some 1, none⟩

/-- Reading the first row under a condition sends one query, unless the caller has given up. -/
theorem sent_first (l : RowLayout α) (table : String) (cond : Condition) (d : δ) :
    sent (first ⟨o.recording, c⟩ l table cond) d =
      if c then [] else [.query (firstQuery l table cond).render.text (firstQuery l table cond).render.args] :=
  sent_ask o c _ _ d

/-- Reading the first row under conditions alike sends one text. -/
theorem first_texts (l : RowLayout α) (table : String) {cond cond' : Condition} (h : cond.Alike cond')
    (d d' : δ) :
    (sent (first ⟨o.recording, c⟩ l table cond) d).map Statement.sql? =
      (sent (first ⟨o.recording, c⟩ l table cond') d').map Statement.sql? := by
  have ht : (firstQuery l table cond).render.text = (firstQuery l table cond').render.text :=
    (@Select.render_alike (firstQuery l table cond) (firstQuery l table cond')
      ⟨rfl, rfl, .cons h .nil, rfl, rfl, rfl⟩).1
  rw [sent_first, sent_first]
  split
  · rfl
  · simp only [List.map_cons, List.map_nil, Statement.sql?, ht]

/-- Reading the first row binds the condition's values, then the limit of one row. -/
theorem first_values (l : RowLayout α) (table : String) {cond : Condition} (h : cond.Exact) (d : δ) :
    (sent (first ⟨o.recording, c⟩ l table cond) d).map Statement.values =
      if c then [] else [cond.args.flatMap Arg.values ++ [.int 1]] := by
  rw [sent_first]
  split
  · rfl
  · simp only [List.map_cons, List.map_nil, Statement.values]
    rw [Select.render_args _ (by simpa [firstQuery] using h)]
    simp [firstQuery]

/-- The query asking which of some ids a table holds. -/
def idsQuery (table : String) (ids : List String) : Select :=
  ⟨Ident.quote "swap_id", TableRef.ofName "" table, [⟨"swap_id IN ?", [.many (ids.map .text)]⟩], none, none, none⟩

/-- Asking which ids a table holds sends one query, when there are ids and a table. -/
theorem sent_existingIds (table : String) (ids : List String) (d : δ) :
    sent (ChainflipStore.existingIds ⟨o.recording, c⟩ table ids) d =
      if ids = [] ∨ table = "" then [] else sent (ask ⟨o.recording, c⟩ (idsQuery table ids) Scan.texts) d := by
  by_cases hi : ids = []
  · simp [sent, ChainflipStore.existingIds, hi]
  · by_cases ht : table = ""
    · simp [sent, ChainflipStore.existingIds, hi, ht]
    · have hne : ids.isEmpty = false := by simpa using hi
      simp only [sent, ChainflipStore.existingIds, hne, ht, hi, or_false, if_false, Bool.false_eq_true]
      rcases hq : ask ⟨o.recording, c⟩ (idsQuery table ids) Scan.texts (d, []) with ⟨_ | _, p⟩ <;>
        simp only [idsQuery] at hq <;> simp [hq]

/-- Asking for as many ids sends one text. -/
theorem existingIds_texts (table : String) {ids ids' : List String} (h : ids.length = ids'.length) (d d' : δ) :
    (sent (ChainflipStore.existingIds ⟨o.recording, c⟩ table ids) d).map Statement.sql? =
      (sent (ChainflipStore.existingIds ⟨o.recording, c⟩ table ids') d').map Statement.sql? := by
  have hnil : ids = [] ↔ ids' = [] := by
    rw [← List.length_eq_zero_iff, h, List.length_eq_zero_iff]
  rw [sent_existingIds, sent_existingIds]
  by_cases hi : ids = [] ∨ table = ""
  · rw [if_pos hi, if_pos (by rwa [← hnil])]
  · have ht : (idsQuery table ids).render.text = (idsQuery table ids').render.text :=
      (@Select.render_alike (idsQuery table ids) (idsQuery table ids')
        ⟨rfl, rfl, .cons ⟨rfl, by simp [Arg.width, h]⟩ .nil, rfl, rfl, rfl⟩).1
    rw [if_neg hi, if_neg (by rwa [← hnil]), sent_ask, sent_ask, ht]
    split <;> rfl

/-- Asking which ids a table holds binds the ids, when a query is sent. -/
theorem existingIds_values (table : String) (ids : List String) (d : δ) :
    (sent (ChainflipStore.existingIds ⟨o.recording, c⟩ table ids) d).map Statement.values =
      (if c ∨ ids = [] ∨ table = "" then [] else [ids.map .text]) := by
  rw [sent_existingIds]
  by_cases hi : ids = [] ∨ table = ""
  · simp [hi]
  · rw [if_neg hi, sent_ask]
    split
    · simp_all
    · have hx : ∀ x ∈ (idsQuery table ids).conditions, x.Exact := by
        intro x hx
        simp only [idsQuery, List.mem_singleton] at hx
        subst hx
        show ("swap_id IN ?").toList.count '?' = 1
        decide
      simp only [List.map_cons, List.map_nil, Statement.values]
      rw [Select.render_args _ hx]
      simp_all [idsQuery, Arg.values]

/-- Inserting one row sends its insert, which binds the row's values, unless the caller has given
up. -/
theorem sent_create (l : RowLayout α) (table policy : String) (r : α) (d : δ) :
    sent (create ⟨o.recording, c⟩ l table policy r) d =
      if c then [] else
        [.exec (insertOf l (TableRef.ofName l.typeTable table) (conflictUpdates l policy) [r]).render.text
          (l.values r)] := by
  have hargs := insertOf_args l (TableRef.ofName l.typeTable table) (conflictUpdates l policy) [r]
  simp only [List.flatMap_cons, List.flatMap_nil, List.append_nil] at hargs
  show ((Handle.exec ⟨o.recording, c⟩ _ _) (d, [])).2.2.map Prod.fst = _
  rw [Handle.exec_recording]
  split
  · rfl
  · exact congrArg (fun vs => [Statement.exec _ vs]) hargs

/-- Inserting a batch sends the inserts of its chunks in order, up to the first one refused. -/
theorem sent_createBatch (l : RowLayout α) (table policy : String) (rs : List α) (d : δ) :
    ∃ k, sent (createBatch ⟨o.recording, c⟩ l table policy rs) d =
      ((chunks batchSize rs).take k).map fun ch =>
        .exec (insertOf l (TableRef.ofName l.typeTable table) (conflictUpdates l policy) ch).render.text
          (ch.flatMap l.values) := by
  by_cases hrs : rs = []
  · exact ⟨0, by simp [sent, createBatch, hrs]⟩
  · have hne : rs.isEmpty = false := by simpa using hrs
    obtain ⟨k, hk⟩ := insertChunks_sent o c l (TableRef.ofName l.typeTable table) (conflictUpdates l policy)
      (chunks batchSize rs) d []
    refine ⟨k, ?_⟩
    simp only [sent, createBatch, hne, Bool.false_eq_true, if_false, hk, List.map_nil, List.nil_append,
      insertOf_args]

end TableStore

/-- No value a caller gives the store is written into the text of a statement. On any database and
from any state: a listing of the swap record or Chainflip table sends a text that depends only on
the listing's shape and binds exactly its search pattern, date, limit and offset, its ordering
column being one the table allows; asking which swap ids a table holds sends a text that depends
only on how many ids are asked for, and binds the ids; reading a price by coin and day, or a record
by its id, sends one text whatever the coin, day or id, and binds them; and inserting rows, one or
a batch in chunks, sends for each chunk an insert whose text depends only on its number of rows
and which binds the rows' values. -/
theorem statement_texts_follow_shape {δ : Type} (o : DbOps δ) (c : Bool) :
    (∀ {α : Type} (l : RowLayout α), ∀ rules ∈ [SwapRecord.searchRules, ChainflipSwap.searchRules],
      ∀ (table : String) (q q' : SwapQuery) (d d' : δ),
        (q.shape rules = q'.shape rules →
          (sent (TableStore.find ⟨o.recording, c⟩ l rules table q) d).map Statement.sql? =
            (sent (TableStore.find ⟨o.recording, c⟩ l rules table q') d').map Statement.sql?) ∧
        (sent (TableStore.find ⟨o.recording, c⟩ l rules table q) d).map Statement.values =
          (if c then [] else [q.boundValues rules]) ∧
        rules.sortColumn q.sortBy ∈ rules.sortable) ∧
    (∀ (table : String) (ids ids' : List String) (d d' : δ),
      (ids.length = ids'.length →
        (sent (ChainflipStore.existingIds ⟨o.recording, c⟩ table ids) d).map Statement.sql? =
          (sent (ChainflipStore.existingIds ⟨o.recording, c⟩ table ids') d').map Statement.sql?) ∧
      (sent (ChainflipStore.existingIds ⟨o.recording, c⟩ table ids) d).map Statement.values =
        (if c ∨ ids = [] ∨ table = "" then [] else [ids.map .text])) ∧
    (∀ (coin date coin' date' : String) (d d' : δ),
      (sent (PriceStore.onDate ⟨o.recording, c⟩ coin date) d).map Statement.sql? =
        (sent (PriceStore.onDate ⟨o.recording, c⟩ coin' date') d').map Statement.sql? ∧
      (sent (PriceStore.onDate ⟨o.recording, c⟩ coin date) d).map Statement.values =
        (if c then [] else [[.text coin, .text date, .int 1]])) ∧
    (∀ (table tx tx' : String) (d d' : δ),
      (sent (SwapStore.getByTxId ⟨o.recording, c⟩ table tx) d).map Statement.sql? =
        (sent (SwapStore.getByTxId ⟨o.recording, c⟩ table tx') d').map Statement.sql? ∧
      (sent (SwapStore.getByTxId ⟨o.recording, c⟩ table tx) d).map Statement.values =
        (if c then [] else [[.text tx, .int 1]])) ∧
    (∀ {α : Type} (l : RowLayout α) (table policy : String) (r : α) (d : δ),
      sent (TableStore.create ⟨o.recording, c⟩ l table policy r) d =
        if c then [] else
          [.exec (TableStore.insertOf l (TableRef.ofName l.typeTable table)
            (TableStore.conflictUpdates l policy) [r]).render.text (l.values r)]) ∧
    (∀ {α : Type} (l : RowLayout α) (table policy : String) (rs : List α) (d : δ), ∃ k,
      sent (TableStore.createBatch ⟨o.recording, c⟩ l table policy rs) d =
        ((TableStore.chunks TableStore.batchSize rs).take k).map fun ch =>
          .exec (TableStore.insertOf l (TableRef.ofName l.typeTable table)
            (TableStore.conflictUpdates l policy) ch).render.text (ch.flatMap l.values)) ∧
    (∀ {α : Type} (l : RowLayout α) (t : TableRef) (updates : List String) (rows rows' : List α),
      rows.length = rows'.length →
        (TableStore.insertOf l t updates rows).render.text = (TableStore.insertOf l t updates rows').render.text) := by
  refine ⟨?_, ?_, ?_, ?_, ?_, ?_, fun l t updates rows rows' h =>
    (Insert.render_alike (TableStore.insertOf_alike l t updates h)).1⟩
  · intro α l rules hrules table q q' d d'
    obtain ⟨hexact, hts⟩ := SearchRules.exact_of_mem hrules
    refine ⟨fun h => ?_, ?_, SearchRules.sortColumn_mem rules hts q.sortBy⟩
    · rw [TableStore.find, TableStore.find, TableStore.sent_ask, TableStore.sent_ask,
        (Select.render_alike (TableStore.findQuery_alike l rules table h)).1]
      split <;> rfl
    · rw [TableStore.find, TableStore.sent_ask, TableStore.findQuery_args l hexact]
      split <;> rfl
  · intro table ids ids' d d'
    exact ⟨fun h => TableStore.existingIds_texts o c table h d d', TableStore.existingIds_values o c table ids d⟩
  · intro coin date coin' date' d d'
    have hc : Condition.Alike ⟨"coin_id = ? AND date = ?", [.one (.text coin), .one (.text date)]⟩
        ⟨"coin_id = ? AND date = ?", [.one (.text coin'), .one (.text date')]⟩ := ⟨rfl, rfl⟩
    exact ⟨by rw [PriceStore.onDate, PriceStore.onDate]; exact TableStore.first_texts o c _ _ hc d d',
      by rw [PriceStore.onDate, TableStore.first_values o c _ _
        (by show ("coin_id = ? AND date = ?").toList.count '?' = 2; decide)]; simp [Arg.values]⟩
  · intro table tx tx' d d'
    have hc : Condition.Alike ⟨"tx_id = ?", [.one (.text tx)]⟩ ⟨"tx_id = ?", [.one (.text tx')]⟩ := ⟨rfl, rfl⟩
    exact ⟨by rw [SwapStore.getByTxId, SwapStore.getByTxId]; exact TableStore.first_texts o c _ _ hc d d',
      by rw [SwapStore.getByTxId, TableStore.first_values o c _ _
        (by show ("tx_id = ?").toList.count '?' = 1; decide)]; simp [Arg.values]⟩
  · intro α l table policy r d
    exact TableStore.sent_create o c l table policy r d
  · intro α l table policy rs d
    exact TableStore.sent_createBatch o c l table policy rs d

/-- Two listings of one shape, one searching for a text that reads as SQL, send one text to the
database: the search text is only an argument. -/
theorem listing_text_ignores_search :
    SwapQuery.shape SwapRecord.searchRules { search := "x'; DROP TABLE native_swaps; --", limit := 10 } =
        SwapQuery.shape SwapRecord.searchRules { search := "btc", limit := 3 } ∧
      (sent (TableStore.find ⟨DbOps.recording ScriptedDb.ops, false⟩ SwapRecord.layout SwapRecord.searchRules
          "native_swaps" { search := "x'; DROP TABLE native_swaps; --", limit := 10 }) {}).map Statement.sql? =
        (sent (TableStore.find ⟨DbOps.recording ScriptedDb.ops, false⟩ SwapRecord.layout SwapRecord.searchRules
          "native_swaps" { search := "btc", limit := 3 }) {}).map Statement.sql? :=
  ⟨by decide, ((statement_texts_follow_shape ScriptedDb.ops false).1 SwapRecord.layout SwapRecord.searchRules
    List.mem_cons_self "native_swaps" _ _ {} {}).1 (by decide)⟩

end SwapArchive
