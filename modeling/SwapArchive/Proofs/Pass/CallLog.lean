import SwapArchive.Proofs.Pass.Steps

/-!
# Reading a log of calls

Functions that read off an observed log of calls what a statement about a pass speaks of:
`pagesOf kind calls`, the pages with events a kind's feed brought; `rowsTaken calls`, the rows the
loaders took, a batch counting once stored whole or one of its rows stored alone after a refusal;
`withPrefixes f calls`, each value `f` reads off a call with the calls made before it; and
`storeAnswers calls`, the answers to the single-row stores that open the log. Each comes with how
it reads a log that grows (`pagesOf_append`, `withPrefixes_append`, …). Calls that bring no page
and save no cursor are `Quiet`; storing a batch is, and adds the batch's rows to those taken.
-/

namespace SwapArchive

namespace Call

/-- The page a call brought from a kind's feed, when the feed answered with events. -/
def pageOf? (kind : String) : Call → Option ActionsPage
  | .page k _ (.ok p) => if k = kind ∧ p.items ≠ [] then some p else none
  | _ => none

/-- The cursor a call saved for a kind and direction, whether or not the save succeeded. -/
def savedCursor? (kind : String) (dir : Direction) : Call → Option String
  | .writeCursor k d c _ => if k = kind ∧ d = dir then some c else none
  | _ => none

/-- How one call changes what an observer knows of the rows the loaders took: the rows taken so
far and the rows of a refused batch still waiting. A batch stored whole is taken; a refused batch
waits and is taken once one of its rows is stored on its own. -/
def takeRows : List Row × List Row → Call → List Row × List Row
  | (taken, _), .storeBatch _ _ rows (.ok ()) => (taken ++ rows, [])
  | (taken, _), .storeBatch _ _ rows (.error _) => (taken, rows)
  | (taken, waiting), .storeOne _ _ _ (.ok ()) => (taken ++ waiting, [])
  | acc, _ => acc

end Call

namespace Call

/-- Neither a page call nor a cursor call takes rows. -/
@[simp] theorem takeRows_page (acc : List Row × List Row) (kind : String) (req : PageRequest)
    (answer : Except String ActionsPage) : takeRows acc (.page kind req answer) = acc := by
  obtain ⟨_, _⟩ := acc
  rfl

@[simp] theorem takeRows_readCursor (acc : List Row × List Row) (kind : String) (dir : Direction)
    (answer : Except FileError String) : takeRows acc (.readCursor kind dir answer) = acc := by
  obtain ⟨_, _⟩ := acc
  rfl

@[simp] theorem takeRows_writeCursor (acc : List Row × List Row) (kind : String) (dir : Direction)
    (cursor : String) (answer : Except FileError Unit) : takeRows acc (.writeCursor kind dir cursor answer) = acc := by
  obtain ⟨_, _⟩ := acc
  rfl

end Call

/-- The pages holding events that a kind's feed brought, in the order they came. -/
def pagesOf (kind : String) (calls : List Call) : List ActionsPage := calls.filterMap (Call.pageOf? kind)

/-- The rows the loaders took over a log of calls, in order. -/
def rowsTaken (calls : List Call) : List Row := (calls.foldl Call.takeRows ([], [])).1

/-- Each value `f` reads off a call, with the calls made before that call. -/
def withPrefixes {β : Type} (f : Call → Option β) : List Call → List (List Call × β)
  | [] => []
  | c :: cs => ((f c).map fun b => ([], b)).toList ++ (withPrefixes f cs).map fun p => (c :: p.1, p.2)

@[simp] theorem pagesOf_append (kind : String) (xs ys : List Call) :
    pagesOf kind (xs ++ ys) = pagesOf kind xs ++ pagesOf kind ys := List.filterMap_append

theorem foldl_takeRows_append (acc : List Row × List Row) (xs ys : List Call) :
    (xs ++ ys).foldl Call.takeRows acc = ys.foldl Call.takeRows (xs.foldl Call.takeRows acc) :=
  List.foldl_append

@[simp] theorem withPrefixes_nil {β : Type} (f : Call → Option β) : withPrefixes f [] = [] := rfl

/-- The values read off a longer log: those of the first part, then those of the second, each
with the first part in front of its prefix. -/
theorem withPrefixes_append {β : Type} (f : Call → Option β) (xs ys : List Call) :
    withPrefixes f (xs ++ ys) = withPrefixes f xs ++ (withPrefixes f ys).map fun p => (xs ++ p.1, p.2) := by
  induction xs with
  | nil => simp
  | cons c cs ih => simp [withPrefixes, ih, List.map_map, Function.comp_def]

/-- A log from which `f` reads nothing adds nothing. -/
theorem withPrefixes_eq_nil {β : Type} {f : Call → Option β} {cs : List Call}
    (h : ∀ c ∈ cs, f c = none) : withPrefixes f cs = [] := by
  induction cs with
  | nil => rfl
  | cons c cs ih =>
    simp [withPrefixes, h c List.mem_cons_self, ih fun d hd => h d (List.mem_cons_of_mem _ hd)]

/-- One more call adds what `f` reads off it, with the whole log before it as its prefix. -/
theorem withPrefixes_concat {β : Type} (f : Call → Option β) (xs : List Call) (c : Call) :
    withPrefixes f (xs ++ [c]) = withPrefixes f xs ++ ((f c).map fun b => (xs, b)).toList := by
  rw [withPrefixes_append]
  rcases h : f c with _ | b <;> simp [withPrefixes, h]

/-- Storing a batch makes store calls only. -/
theorem mem_batchCalls {table policy : String} {rows : List Row} {a : Except String Unit}
    {answers : List (Except String Unit)} {c : Call} (h : c ∈ batchCalls table policy rows a answers) :
    (∃ b, c = .storeBatch table policy rows b) ∨ ∃ r b, c = .storeOne table policy r b := by
  unfold batchCalls at h
  rcases List.mem_cons.1 h with rfl | h
  · exact .inl ⟨a, rfl⟩
  · rcases a with _ | ⟨⟩
    · obtain ⟨i, hi, hc⟩ := List.getElem_of_mem h
      simp only [List.getElem_zipWith] at hc
      exact .inr ⟨_, _, hc.symm⟩
    · simp at h

/-- The answers of the single-row stores at the head of a log. -/
def storeAnswers : List Call → List (Except String Unit)
  | .storeOne _ _ _ b :: cs => b :: storeAnswers cs
  | _ => []

/-- A log read in two parts, the second starting with no single-row store. -/
theorem storeAnswers_append {ys : List Call} (h : storeAnswers ys = []) :
    ∀ xs : List Call, storeAnswers (xs ++ ys) = storeAnswers xs
  | [] => h
  | c :: cs => by
    cases c <;> simp only [List.cons_append, storeAnswers]
    rw [storeAnswers_append h cs]

/-- The single-row stores of a batch refused, read back at the head of a log. -/
theorem storeAnswers_storeOne (table policy : String) :
    ∀ (rows : List Row) (bs : List (Except String Unit)), bs.length ≤ rows.length →
      storeAnswers (List.zipWith (.storeOne table policy) rows bs) = bs
  | rows, [], _ => by cases rows <;> rfl
  | [], _ :: _, h => absurd h (by simp)
  | _ :: rows, b :: bs, h => by
    simp only [List.zipWith_cons_cons, storeAnswers]
    rw [storeAnswers_storeOne table policy rows bs (by simpa using h)]

/-- Calls that bring no page and save no cursor. -/
def Quiet (cs : List Call) : Prop :=
  ∀ c ∈ cs, (∀ kind, Call.pageOf? kind c = none) ∧ ∀ kind dir, Call.savedCursor? kind dir c = none

theorem Quiet.nil : Quiet [] := fun _ h => absurd h List.not_mem_nil

theorem pagesOf_quiet {cs : List Call} (h : Quiet cs) (kind : String) : pagesOf kind cs = [] :=
  List.filterMap_eq_nil_iff.2 fun c hc => (h c hc).1 kind

theorem withPrefixes_quiet {cs : List Call} (h : Quiet cs) (kind : String) (dir : Direction) :
    withPrefixes (Call.savedCursor? kind dir) cs = [] :=
  withPrefixes_eq_nil fun c hc => (h c hc).2 kind dir

/-- A page call that brought no events is quiet. -/
theorem quiet_page {kind : String} {req : PageRequest} {answer : Except String ActionsPage}
    (h : ∀ p, answer = .ok p → p.items = []) : Quiet [.page kind req answer] := by
  intro c hc
  rw [List.mem_singleton.1 hc]
  refine ⟨fun k => ?_, fun _ _ => rfl⟩
  rcases answer with m | p
  · rfl
  · simp [Call.pageOf?, h p rfl]

/-- Storing a batch is quiet. -/
theorem quiet_batchCalls (table policy : String) (rows : List Row) (a : Except String Unit)
    (answers : List (Except String Unit)) : Quiet (batchCalls table policy rows a answers) := by
  intro c hc
  rcases mem_batchCalls hc with ⟨b, rfl⟩ | ⟨r, b, rfl⟩ <;> exact ⟨fun _ => rfl, fun _ _ => rfl⟩

/-- Rows stored on their own after a refused batch: the waiting batch is taken as soon as one of
them is stored. -/
theorem foldl_takeRows_storeOne (table policy : String) (taken waiting : List Row) :
    ∀ (rows : List Row) (answers : List (Except String Unit)), rows.length = answers.length →
      (List.zipWith (.storeOne table policy) rows answers).foldl Call.takeRows (taken, waiting) =
        if answers.any (·.isOk) then (taken ++ waiting, []) else (taken, waiting)
  | [], [], _ => by simp
  | r :: rows, b :: answers, hlen => by
    have hlen' : rows.length = answers.length := by simpa using hlen
    rcases b with m | ⟨⟩
    · simp only [List.zipWith_cons_cons, List.foldl_cons, Call.takeRows]
      rw [foldl_takeRows_storeOne table policy taken waiting rows answers hlen']
      simp [Except.isOk, Except.toBool]
    · simp only [List.zipWith_cons_cons, List.foldl_cons, Call.takeRows]
      rw [foldl_takeRows_storeOne table policy (taken ++ waiting) [] rows answers hlen']
      simp [Except.isOk, Except.toBool]

/-- When the loader took a batch, the batch's calls add its rows to those taken, and nothing
waits. -/
theorem foldl_takeRows_batchCalls (acc : List Row × List Row) (table policy : String) (rows : List Row)
    {a : Except String Unit} {answers : List (Except String Unit)}
    (hlen : a ≠ .ok () → answers.length = rows.length) (h : Taken a answers) :
    (batchCalls table policy rows a answers).foldl Call.takeRows acc = (acc.1 ++ rows, []) := by
  obtain ⟨taken, waiting⟩ := acc
  rcases a with m | ⟨⟩
  · have hany : answers.any (·.isOk) = true :=
      List.any_eq_true.2 ⟨.ok (), by simpa [Taken] using h, rfl⟩
    simp only [batchCalls, List.foldl_cons, Call.takeRows]
    rw [foldl_takeRows_storeOne table policy taken rows rows answers (hlen (by simp)).symm, hany]
    rfl
  · rfl

end SwapArchive
