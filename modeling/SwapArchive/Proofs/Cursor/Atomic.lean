import Mathlib
import SwapArchive.Cursor.Store

/-!
# The cursor store is an atomic map of files

`FileSystem` states what the store may assume of its file calls, seen through the content of each
path. Over any such file system a read answers its file's content without surrounding blanks or
fails naming the file; a write either succeeds, leaving the cursor in its file and no temporary
file, or fails naming the file and changing no cursor file; over a run of calls, a read answers
the cursor last written to its file. The map is keyed by file. The keys the ingestion uses, a
source without a slash and a declared direction, have distinct files
(`CursorStore.path_injective`), so for them it is keyed by source and direction; two other keys
whose names join alike share a cursor.
-/

namespace SwapArchive

set_option autoImplicit false

/-! ## Cursor paths -/

namespace PathText

/-- Splitting a list at a separator: what follows the last separator, if it holds no separator,
ends the last part. -/
theorem splitOn_append_of_forall_ne {α : Type} [BEq α] [LawfulBEq α] (a : α) {ys : List α}
    (hys : ∀ y ∈ ys, y ≠ a) (cs : List α) : ∃ init l, (cs ++ ys).splitOn a = init ++ [l ++ ys] := by
  induction cs with
  | nil =>
    refine ⟨[], [], ?_⟩
    rw [List.nil_append, List.splitOn_eq_singleton_of_beq_eq_false fun y hy => beq_eq_false_iff_ne.2 (hys y hy)]
    rfl
  | cons c cs ih =>
    obtain ⟨init, l, h⟩ := ih
    rw [List.cons_append, List.splitOn_cons_eq_if_modifyHead, h]
    by_cases hc : c = a
    · subst hc
      exact ⟨[] :: init, l, by simp⟩
    · rw [if_neg (by simpa using hc)]
      cases init with
      | nil => exact ⟨[], c :: l, rfl⟩
      | cons i is => exact ⟨(c :: i) :: is, l, rfl⟩

/-- Each step of reducing a path consumes one part, whatever it does with it. -/
theorem exists_reduce_cons (rooted : Bool) (acc : List String) (p : String) (ps : List String) :
    ∃ acc', reduce rooted acc (p :: ps) = reduce rooted acc' ps := by
  rw [reduce.eq_def]
  dsimp only
  by_cases hskip : p = "" ∨ p = "."
  · exact ⟨acc, if_pos hskip⟩
  rw [if_neg hskip]
  by_cases hup : p = ".."
  · rw [if_pos hup]
    cases acc with
    | cons a as =>
      by_cases ha : a = ".."
      · exact ⟨_, if_pos ha⟩
      · exact ⟨_, if_neg ha⟩
    | nil =>
      cases rooted
      · exact ⟨_, rfl⟩
      · exact ⟨_, rfl⟩
  · exact ⟨p :: acc, if_neg hup⟩

/-- A last part that is a name (not empty, `.` or `..`) stays the last part when a path is
reduced. -/
theorem reduce_append_name (rooted : Bool) {q : String} (hq : q ≠ "" ∧ q ≠ "." ∧ q ≠ "..")
    (ps acc : List String) : ∃ rest, reduce rooted acc (ps ++ [q]) = rest ++ [q] := by
  induction ps generalizing acc with
  | nil =>
    refine ⟨acc.reverse, ?_⟩
    simp [reduce, hq.1, hq.2.1, hq.2.2]
  | cons p ps ih =>
    obtain ⟨acc', h⟩ := exists_reduce_cons rooted acc p (ps ++ [q])
    rw [List.cons_append, h]
    exact ih acc'

/-- A path that is empty or ends with a slash: what may stand before a path's last part. -/
def SlashEnded (pre : String) : Prop := pre = "" ∨ ∃ p, pre = p ++ "/"

/-- Joining parts with slashes ends with the last part, after a slash or nothing. -/
theorem intercalate_append_name (l : List String) (q : String) :
    ∃ pre, "/".intercalate (l ++ [q]) = pre ++ q ∧ SlashEnded pre := by
  induction l with
  | nil => exact ⟨"", by simp, .inl rfl⟩
  | cons a l ih =>
    cases l with
    | nil => exact ⟨a ++ "/", by simp [String.intercalate_cons_cons], .inr ⟨a, rfl⟩⟩
    | cons b l =>
      obtain ⟨pre, h, hpre⟩ := ih
      refine ⟨a ++ "/" ++ pre, ?_, ?_⟩
      · rw [List.cons_append, List.cons_append, String.intercalate_cons_cons, ← List.cons_append, h]
        simp only [String.append_assoc]
      · rcases hpre with rfl | ⟨p, rfl⟩
        · exact .inr ⟨a, by simp⟩
        · exact .inr ⟨a ++ "/" ++ p, by simp only [String.append_assoc]⟩

/-- A path whose last part is a name cleans to a path ending with that name, after a slash or
nothing. -/
theorem clean_of_parts_name {t q : String} (ht : t ≠ "") (hq : q ≠ "" ∧ q ≠ "." ∧ q ≠ "..")
    {init : List String} (hparts : parts t = init ++ [q]) :
    ∃ pre, clean t = pre ++ q ∧ SlashEnded pre := by
  obtain ⟨rest, hr⟩ := reduce_append_name (t.startsWith "/") hq init []
  obtain ⟨pre, hp, hpre⟩ := intercalate_append_name rest q
  unfold clean
  rw [if_neg ht]
  simp only [hparts, hr, hp]
  split
  · refine ⟨"/" ++ pre, by rw [String.append_assoc], ?_⟩
    rcases hpre with rfl | ⟨p, rfl⟩
    · exact .inr ⟨"", rfl⟩
    · exact .inr ⟨"/" ++ p, by simp only [String.append_assoc]⟩
  · rw [if_neg fun h => hq.1 (String.append_eq_empty_iff.1 h).2]
    exact ⟨pre, rfl, hpre⟩

/-- A text of three characters or more is a name: not empty, `.` or `..`. -/
theorem name_of_length {q : String} (h : 3 ≤ q.length) : q ≠ "" ∧ q ≠ "." ∧ q ≠ ".." := by
  refine ⟨?_, ?_, ?_⟩ <;> rintro rfl <;> exact absurd h (by decide)

/-- A path ending with a cursor file name cleans to a path ending with it too: the last part is
a name, which cleaning keeps. -/
theorem exists_clean_append_suffix (u : String) :
    ∃ pre, clean (u ++ "_page_token.txt") = pre ++ "_page_token.txt" := by
  have hys : ∀ y ∈ "_page_token.txt".toList, y ≠ '/' := by simp
  obtain ⟨init, l, hsplit⟩ := splitOn_append_of_forall_ne '/' hys u.toList
  have hparts : parts (u ++ "_page_token.txt") = init.map String.ofList ++ [String.ofList l ++ "_page_token.txt"] := by
    unfold parts
    rw [String.toList_append, hsplit, List.map_append, List.map_singleton, String.ofList_append,
      String.ofList_toList]
  have h15 : ("_page_token.txt" : String).length = 15 := by decide
  have hq := name_of_length (q := String.ofList l ++ "_page_token.txt")
    (by rw [String.length_append]; omega)
  have ht : u ++ "_page_token.txt" ≠ "" := fun h => by simp at h
  obtain ⟨pre, h, -⟩ := clean_of_parts_name ht hq hparts
  exact ⟨pre ++ String.ofList l, by rw [h, String.append_assoc]⟩

/-- The characters after the last slash of a path, last first. -/
def tailName (p : String) : List Char := p.toList.reverse.takeWhile (· ≠ '/')

theorem tailName_append {pre q : String} (hpre : SlashEnded pre) (hq : '/' ∉ q.toList) :
    tailName (pre ++ q) = q.toList.reverse := by
  have hall : ∀ c ∈ q.toList.reverse, decide (c ≠ '/') = true := by
    intro c hc
    simp only [decide_eq_true_eq]
    rintro rfl
    exact hq (List.mem_reverse.1 hc)
  rcases hpre with rfl | ⟨p, rfl⟩
  · simp only [tailName, String.empty_append]
    exact List.takeWhile_eq_self_iff.2 hall
  · simp only [tailName, String.toList_append, List.reverse_append, List.append_assoc]
    rw [List.takeWhile_append_of_pos hall]
    simp

theorem parts_of_not_mem {q : String} (hq : '/' ∉ q.toList) : parts q = [q] := by
  simp [parts, List.splitOn_eq_singleton hq]

theorem parts_append_name (root : String) {q : String} (hq : '/' ∉ q.toList) :
    parts (root ++ "/" ++ q) = parts root ++ [q] := by
  unfold parts
  rw [String.toList_append, String.toList_append, List.append_assoc,
    show ("/" : String).toList ++ q.toList = '/' :: q.toList from rfl,
    List.splitOn_append_cons_self, List.splitOn_eq_singleton hq]
  simp

/-- Joining a root and a name without a slash leaves the name as the last part. -/
theorem tailName_join (root : String) {q : String} (hq : '/' ∉ q.toList)
    (hname : q ≠ "" ∧ q ≠ "." ∧ q ≠ "..") : tailName (join root q) = q.toList.reverse := by
  unfold join
  by_cases hroot : root = ""
  · rw [if_pos hroot, if_neg hname.1]
    obtain ⟨pre, h, hpre⟩ := clean_of_parts_name hname.1 hname
      (show parts q = [] ++ [q] by rw [parts_of_not_mem hq]; rfl)
    rw [h]
    exact tailName_append hpre hq
  · rw [if_neg hroot, if_neg hname.1]
    obtain ⟨pre, h, hpre⟩ := clean_of_parts_name (fun h => hroot (String.append_eq_empty_iff.1
      (String.append_eq_empty_iff.1 h).1).1) hname (parts_append_name root hq)
    rw [h]
    exact tailName_append hpre hq

end PathText


namespace Direction

theorem text_ne_empty (d : Direction) : d.text ≠ "" := by
  cases d <;> decide

end Direction

namespace CursorStore

theorem fileName_eq (source dir : String) :
    Cursor.fileName source dir = source ++ "_" ++ dir ++ "_page_token.txt" := rfl

theorem getLast?_toList_append (s : String) {t : String} (ht : t ≠ "") :
    (s ++ t).toList.getLast? = t.toList.getLast? := by
  rw [String.toList_append, List.getLast?_append_of_ne_nil _ (by simpa using ht)]

/-- Every cursor file's path ends with `_page_token.txt`. -/
theorem exists_path_eq_append (root source dir : String) :
    ∃ pre, path root source dir = pre ++ "_page_token.txt" := by
  have hne : Cursor.fileName source dir ≠ "" := fun h => by simp [fileName_eq] at h
  unfold path PathText.join
  rw [if_neg hne]
  split_ifs
  · rw [fileName_eq]
    exact PathText.exists_clean_append_suffix _
  · rw [fileName_eq, show root ++ "/" ++ (source ++ "_" ++ dir ++ "_page_token.txt") =
      root ++ "/" ++ source ++ "_" ++ dir ++ "_page_token.txt" by simp only [String.append_assoc]]
    exact PathText.exists_clean_append_suffix _

/-- A cursor file is never the temporary file of a cursor: one ends with `t`, the other with
`p`. -/
theorem path_ne_tmp (root source dir source' dir' : String) :
    path root source' dir' ≠ path root source dir ++ ".tmp" := by
  obtain ⟨pre, h⟩ := exists_path_eq_append root source' dir'
  obtain ⟨pre', h'⟩ := exists_path_eq_append root source dir
  intro heq
  have hlast := congrArg (fun x : String => x.toList.getLast?) heq
  simp only [h, h', getLast?_toList_append _ (by decide : ("_page_token.txt" : String) ≠ ""),
    getLast?_toList_append _ (by decide : (".tmp" : String) ≠ "")] at hlast
  exact absurd hlast (by decide)

/-- A cursor as a read shows it: the file's text without surrounding blanks, empty where there is
no file. -/
def shown (content : Option String) : String := (content.map Clean.trim).getD ""

/-- The keys the ingestion reads and writes cursors under: a source named without a slash, as
every source kind is, and one of the two directions. -/
def Declared (key : String × String) : Prop := '/' ∉ key.1.toList ∧ ∃ d : Direction, key.2 = d.text

/-- The file name of a declared key is a name: no slash, and neither `.` nor `..`. -/
theorem fileName_name {source dir : String} (hk : Declared (source, dir)) :
    '/' ∉ (Cursor.fileName source dir).toList ∧
      (Cursor.fileName source dir ≠ "" ∧ Cursor.fileName source dir ≠ "." ∧
        Cursor.fileName source dir ≠ "..") := by
  obtain ⟨hs, d, rfl⟩ := hk
  have h15 : ("_page_token.txt" : String).length = 15 := by decide
  refine ⟨?_, PathText.name_of_length ?_⟩
  · cases d <;> simpa [fileName_eq, Direction.text, String.toList_append] using hs
  · simp only [fileName_eq, String.length_append]
    omega

/-- The name of a key's file tells the key, the direction by the last letter of its name. -/
theorem fileName_injective {source source' : String} {d d' : Direction}
    (h : Cursor.fileName source d.text = Cursor.fileName source' d'.text) :
    source = source' ∧ d = d' := by
  rw [fileName_eq, fileName_eq, String.append_left_inj] at h
  have hlast := congrArg (fun x : String => x.toList.getLast?) h
  simp only [getLast?_toList_append _ (Direction.text_ne_empty _)] at hlast
  cases d <;> cases d'
  · exact ⟨(String.append_left_inj _).1 ((String.append_left_inj _).1 h), rfl⟩
  · exact absurd hlast (by decide)
  · exact absurd hlast (by decide)
  · exact ⟨(String.append_left_inj _).1 ((String.append_left_inj _).1 h), rfl⟩

theorem path_injective (root : String) {source dir source' dir' : String}
    (hk : Declared (source, dir)) (hk' : Declared (source', dir'))
    (h : path root source dir = path root source' dir') : source = source' ∧ dir = dir' := by
  have htail := congrArg PathText.tailName h
  rw [path, path, PathText.tailName_join root (fileName_name hk).1 (fileName_name hk).2,
    PathText.tailName_join root (fileName_name hk').1 (fileName_name hk').2, List.reverse_inj,
    String.toList_inj] at htail
  obtain ⟨-, d, rfl⟩ := hk
  obtain ⟨-, d', rfl⟩ := hk'
  obtain ⟨hs, rfl⟩ := fileName_injective htail
  exact ⟨hs, rfl⟩

end CursorStore

/-! ## File systems -/

/-- File calls that behave as a file system does, seen through `view`, the content of each path
(`none` where there is no file). Reading gives the content, and says that a file does not exist
only when there is none; making directories changes no file; a call on one file changes no other;
a call that succeeds does what it says: creating leaves an empty file, writing appends, flushing
and closing keep the content, renaming moves the file. A failed rename changes nothing. Nothing
says when a call fails: any pattern of failures is allowed. -/
structure FileSystem (φ : Type) where
  ops : FileOps φ
  view : φ → String → Option String
  read_ok : ∀ x p s, ops.readFile p x = .ok s → view x p = some s
  read_missing : ∀ x p e, ops.readFile p x = .error e → e.notExist = true → view x p = none
  mkdirAll_view : ∀ x r, view (ops.mkdirAll r x).2 = view x
  create_other : ∀ x p q, q ≠ p → view (ops.create p x).2 q = view x q
  create_ok : ∀ x p, (ops.create p x).1 = .ok () → view (ops.create p x).2 p = some ""
  write_other : ∀ x p s q, q ≠ p → view (ops.write p s x).2 q = view x q
  write_ok : ∀ x p s c, view x p = some c → (ops.write p s x).1 = .ok () →
    view (ops.write p s x).2 p = some (c ++ s)
  sync_other : ∀ x p q, q ≠ p → view (ops.sync p x).2 q = view x q
  sync_ok : ∀ x p, (ops.sync p x).1 = .ok () → view (ops.sync p x).2 p = view x p
  close_other : ∀ x p q, q ≠ p → view (ops.close p x).2 q = view x q
  close_ok : ∀ x p, (ops.close p x).1 = .ok () → view (ops.close p x).2 p = view x p
  rename_ok : ∀ x a b, a ≠ b → (ops.rename a b x).1 = .ok () →
    view (ops.rename a b x).2 b = view x a ∧ view (ops.rename a b x).2 a = none ∧
      ∀ q, q ≠ a → q ≠ b → view (ops.rename a b x).2 q = view x q
  rename_error : ∀ x a b e, (ops.rename a b x).1 = .error e → view (ops.rename a b x).2 = view x

namespace FileSystem

variable {φ : Type} (F : FileSystem φ)

/-- Two states hold the same files, except perhaps at `p`. -/
def Frame (x y : φ) (p : String) : Prop := ∀ q, q ≠ p → F.view y q = F.view x q

theorem Frame.refl (x : φ) (p : String) : F.Frame x x p := fun _ _ => rfl

theorem Frame.trans {F : FileSystem φ} {x y z : φ} {p : String} (h : F.Frame x y p) (h' : F.Frame y z p) :
    F.Frame x z p :=
  fun q hq => (h' q hq).trans (h q hq)

variable {F} {x y : φ} {p : String}

theorem frame_mkdirAll {r : String} {a : Except OsError Unit} (h : F.ops.mkdirAll r x = (a, y)) : F.Frame x y p :=
  fun q _ => by rw [← congrFun (F.mkdirAll_view x r) q, h]

theorem frame_create {a : Except OsError Unit} (h : F.ops.create p x = (a, y)) : F.Frame x y p :=
  fun q hq => by rw [← F.create_other x p q hq, h]

theorem frame_write {s : String} {a : Except OsError Unit} (h : F.ops.write p s x = (a, y)) : F.Frame x y p :=
  fun q hq => by rw [← F.write_other x p s q hq, h]

theorem frame_sync {a : Except OsError Unit} (h : F.ops.sync p x = (a, y)) : F.Frame x y p :=
  fun q hq => by rw [← F.sync_other x p q hq, h]

theorem frame_close {a : Except OsError Unit} (h : F.ops.close p x = (a, y)) : F.Frame x y p :=
  fun q hq => by rw [← F.close_other x p q hq, h]

theorem frame_rename_error {a b : String} {e : OsError} (h : F.ops.rename a b x = (.error e, y)) :
    F.Frame x y p :=
  fun q _ => by rw [← congrFun (F.rename_error x a b e (by rw [h])) q, h]

/-- A file created and then written holds what was written. -/
theorem view_create_ok {x₁ x₂ : φ} (h : F.ops.create p x₁ = (.ok (), x₂)) : F.view x₂ p = some "" := by
  simpa [h] using F.create_ok x₁ p (by rw [h])

/-- Creating a file, writing text to it, flushing and closing it, all with success, leave it
holding the text. -/
theorem view_of_steps {c : String} {x₁ x₂ x₃ x₄ x₅ : φ} (h2 : F.ops.create p x₁ = (.ok (), x₂))
    (h3 : F.ops.write p c x₂ = (.ok (), x₃)) (h4 : F.ops.sync p x₃ = (.ok (), x₄))
    (h5 : F.ops.close p x₄ = (.ok (), x₅)) : F.view x₅ p = some c := by
  have v3 : F.view x₃ p = some c := by
    simpa [h3] using F.write_ok x₂ p c "" (view_create_ok h2) (by rw [h3])
  calc F.view x₅ p = F.view x₄ p := by rw [← F.close_ok x₄ p (by rw [h5]), h5]
    _ = F.view x₃ p := by rw [← F.sync_ok x₃ p (by rw [h4]), h4]
    _ = some c := v3

end FileSystem

/-- A file system none of whose calls fails: reads fail only on a missing file, and writing and
renaming succeed on a file that exists. -/
structure FileSystem.Reliable {φ : Type} (F : FileSystem φ) : Prop where
  read : ∀ x p e, F.ops.readFile p x = .error e → e.notExist = true
  mkdirAll : ∀ x r, (F.ops.mkdirAll r x).1 = .ok ()
  create : ∀ x p, (F.ops.create p x).1 = .ok ()
  write : ∀ x p s, F.view x p ≠ none → (F.ops.write p s x).1 = .ok ()
  sync : ∀ x p, (F.ops.sync p x).1 = .ok ()
  close : ∀ x p, (F.ops.close p x).1 = .ok ()
  rename : ∀ x a b, F.view x a ≠ none → (F.ops.rename a b x).1 = .ok ()

/-! ## Files in memory -/

/-- The file calls of files held in memory, each path mapped to its content, that fail wherever
`fails` says (for the call's name and path), changing nothing then. -/
def memOps (fails : String → String → Bool) : FileOps (String → Option String) where
  readFile := fun p m =>
    if fails "read" p then .error ⟨"read " ++ p, false⟩ else (m p).elim (.error ⟨"open " ++ p, true⟩) .ok
  mkdirAll := fun r m => (if fails "mkdir" r then .error ⟨"mkdir " ++ r, false⟩ else .ok (), m)
  create := fun p m =>
    if fails "open" p then (.error ⟨"open " ++ p, false⟩, m) else (.ok (), Function.update m p (some ""))
  write := fun p s m =>
    if fails "write" p then (.error ⟨"write " ++ p, false⟩, m)
    else (m p).elim (.error ⟨"write " ++ p, true⟩, m) fun c => (.ok (), Function.update m p (some (c ++ s)))
  sync := fun p m => (if fails "sync" p then .error ⟨"sync " ++ p, false⟩ else .ok (), m)
  close := fun p m => (if fails "close" p then .error ⟨"close " ++ p, false⟩ else .ok (), m)
  rename := fun a b m =>
    if fails "rename" b then (.error ⟨"rename " ++ a ++ " " ++ b, false⟩, m)
    else (m a).elim (.error ⟨"rename " ++ a ++ " " ++ b, true⟩, m)
      fun c => (.ok (), Function.update (Function.update m a none) b (some c))

/-- Files in memory are a file system, whatever calls fail. -/
def memFiles (fails : String → String → Bool) : FileSystem (String → Option String) where
  ops := memOps fails
  view := fun m => m
  read_ok := fun m p s h => by
    simp only [memOps] at h
    split_ifs at h
    cases hm : m p <;> simp_all
  read_missing := fun m p e h hmiss => by
    simp only [memOps] at h
    split_ifs at h
    · cases h
      cases hmiss
    · cases hm : m p <;> simp_all
  mkdirAll_view := fun _ _ => rfl
  create_other := fun m p q hq => by
    simp only [memOps]
    split_ifs
    · rfl
    · exact Function.update_of_ne hq _ _
  create_ok := fun m p h => by
    simp only [memOps] at h ⊢
    split_ifs at h ⊢
    exact Function.update_self _ _ _
  write_other := fun m p s q hq => by
    simp only [memOps]
    split_ifs
    · rfl
    · cases m p
      · rfl
      · exact Function.update_of_ne hq _ _
  write_ok := fun m p s c hc h => by
    simp only [memOps, hc, Option.elim_some] at h ⊢
    split_ifs at h ⊢
    exact Function.update_self _ _ _
  sync_other := fun _ _ _ _ => rfl
  sync_ok := fun _ _ _ => rfl
  close_other := fun _ _ _ _ => rfl
  close_ok := fun _ _ _ => rfl
  rename_ok := fun m a b hab h => by
    simp only [memOps] at h ⊢
    split_ifs at h ⊢
    by_cases hm : m a = none
    · rw [hm] at h
      cases h
    obtain ⟨c, hc⟩ := Option.ne_none_iff_exists'.1 hm
    simp only [hc, Option.elim_some]
    refine ⟨Function.update_self _ _ _, ?_, fun q hqa hqb => ?_⟩
    · rw [Function.update_of_ne hab, Function.update_self]
    · rw [Function.update_of_ne hqb, Function.update_of_ne hqa]
  rename_error := fun m a b e h => by
    simp only [memOps] at h ⊢
    split_ifs at h ⊢
    · rfl
    · by_cases hm : m a = none
      · simp [hm]
      obtain ⟨c, hc⟩ := Option.ne_none_iff_exists'.1 hm
      rw [hc] at h
      cases h

/-- Files in memory none of whose calls fails are a reliable file system. -/
theorem memFiles_reliable : (memFiles fun _ _ => false).Reliable where
  read := fun m p e h => by
    simp only [memFiles, memOps, Bool.false_eq_true, if_false] at h
    cases hm : m p with
    | none =>
      simp only [hm, Option.elim_none, Except.error.injEq] at h
      rw [← h]
    | some c => simp [hm] at h
  mkdirAll := fun _ _ => rfl
  create := fun _ _ => rfl
  write := fun m p s hp => by
    obtain ⟨c, hc⟩ := Option.ne_none_iff_exists'.1 hp
    have hc' : m p = some c := hc
    simp [memFiles, memOps, hc']
  sync := fun _ _ => rfl
  close := fun _ _ => rfl
  rename := fun m a b ha => by
    obtain ⟨c, hc⟩ := Option.ne_none_iff_exists'.1 ha
    have hc' : m a = some c := hc
    simp [memFiles, memOps, hc']

/-! ## Reading and writing one cursor -/

namespace CursorStore

variable {φ : Type} (F : FileSystem φ) (root source dir : String)

/-- A read answers the cursor the file holds, or fails only when reading the file failed for
another reason than its absence, naming the file. -/
theorem read_spec (x : φ) :
    read F.ops root source dir x = .ok (shown (F.view x (path root source dir))) ∨
      ∃ e : OsError, F.ops.readFile (path root source dir) x = .error e ∧ e.notExist = false ∧
        read F.ops root source dir x = .error ⟨path root source dir, "read", e.text⟩ := by
  rcases h : F.ops.readFile (path root source dir) x with e | s
  · cases hmiss : e.notExist
    · exact .inr ⟨e, rfl, hmiss, by simp [read, h, hmiss]⟩
    · left
      simp [read, h, hmiss, shown, F.read_missing x _ e h hmiss]
  · left
    simp [read, h, shown, F.read_ok x _ s h]

/-- What a write can do: fail at one of its steps, naming the cursor file and the step, with
every file but the temporary one as it was; or bring the temporary file to hold the cursor, with
every other file as it was, and rename it over the cursor file. -/
theorem write_cases (cursor : String) (x : φ) :
    (∃ op ∈ ["write", "sync", "rename"], ∃ (e : OsError) (y : φ),
        write F.ops root source dir cursor x = (.error ⟨path root source dir, op, e.text⟩, y) ∧
        F.Frame x y (path root source dir ++ ".tmp")) ∨
    ∃ y z, F.view y (path root source dir ++ ".tmp") = some cursor ∧
      F.Frame x y (path root source dir ++ ".tmp") ∧
      F.ops.rename (path root source dir ++ ".tmp") (path root source dir) y = (.ok (), z) ∧
      write F.ops root source dir cursor x = (.ok (), z) := by
  -- the six steps in turn; each failure is a leaf, and the frame grows one step at a time
  rcases h1 : F.ops.mkdirAll root x with ⟨e₁ | ⟨⟩, x₁⟩
  · exact .inl ⟨"write", by simp, e₁, x₁, by simp [write, h1], FileSystem.frame_mkdirAll h1⟩
  have f1 : F.Frame x x₁ (path root source dir ++ ".tmp") := FileSystem.frame_mkdirAll h1
  rcases h2 : F.ops.create (path root source dir ++ ".tmp") x₁ with ⟨e₂ | ⟨⟩, x₂⟩
  · exact .inl ⟨"write", by simp, e₂, x₂, by simp [write, h1, h2], f1.trans (FileSystem.frame_create h2)⟩
  have f2 := f1.trans (FileSystem.frame_create h2)
  rcases h3 : F.ops.write (path root source dir ++ ".tmp") cursor x₂ with ⟨e₃ | ⟨⟩, x₃⟩
  · rcases hc : F.ops.close (path root source dir ++ ".tmp") x₃ with ⟨a, x₃'⟩
    exact .inl ⟨"write", by simp, e₃, x₃', by simp [write, h1, h2, h3, hc],
      (f2.trans (FileSystem.frame_write h3)).trans (FileSystem.frame_close hc)⟩
  have f3 := f2.trans (FileSystem.frame_write h3)
  rcases h4 : F.ops.sync (path root source dir ++ ".tmp") x₃ with ⟨e₄ | ⟨⟩, x₄⟩
  · rcases hc : F.ops.close (path root source dir ++ ".tmp") x₄ with ⟨a, x₄'⟩
    exact .inl ⟨"sync", by simp, e₄, x₄', by simp [write, h1, h2, h3, h4, hc],
      (f3.trans (FileSystem.frame_sync h4)).trans (FileSystem.frame_close hc)⟩
  have f4 := f3.trans (FileSystem.frame_sync h4)
  rcases h5 : F.ops.close (path root source dir ++ ".tmp") x₄ with ⟨e₅ | ⟨⟩, x₅⟩
  · exact .inl ⟨"write", by simp, e₅, x₅, by simp [write, h1, h2, h3, h4, h5],
      f4.trans (FileSystem.frame_close h5)⟩
  have f5 := f4.trans (FileSystem.frame_close h5)
  have v5 := FileSystem.view_of_steps h2 h3 h4 h5
  rcases h6 : F.ops.rename (path root source dir ++ ".tmp") (path root source dir) x₅ with ⟨e₆ | ⟨⟩, x₆⟩
  · exact .inl ⟨"rename", by simp, e₆, x₆, by simp [write, h1, h2, h3, h4, h5, h6],
      f5.trans (FileSystem.frame_rename_error h6)⟩
  · exact .inr ⟨x₅, x₆, v5, f5, h6, by simp [write, h1, h2, h3, h4, h5, h6]⟩

theorem tmp_ne_path (p : String) : p ++ ".tmp" ≠ p := fun h => by
  have := congrArg String.length h
  simp at this

/-- A write that succeeds leaves the cursor in its file, no temporary file, and every other file
as it was. -/
theorem write_ok_spec {cursor : String} {x : φ} (h : (write F.ops root source dir cursor x).1 = .ok ()) :
    F.view (write F.ops root source dir cursor x).2 (path root source dir) = some cursor ∧
      F.view (write F.ops root source dir cursor x).2 (path root source dir ++ ".tmp") = none ∧
      ∀ q, q ≠ path root source dir → q ≠ path root source dir ++ ".tmp" →
        F.view (write F.ops root source dir cursor x).2 q = F.view x q := by
  rcases write_cases F root source dir cursor x with ⟨op, -, e, y, hw, -⟩ | ⟨y, z, hv, hf, hr, hw⟩
  · rw [hw] at h
    cases h
  · obtain ⟨hmoved, hgone, hothers⟩ := F.rename_ok y _ _ (tmp_ne_path _) (by rw [hr])
    rw [hr] at hmoved hgone hothers
    rw [hw]
    exact ⟨hmoved.trans hv, hgone, fun q hq hq' => (hothers q hq' hq).trans (hf q hq')⟩

/-- A write that fails names the cursor file and a step of its own, and changes no file but the
temporary one. -/
theorem write_error_spec {cursor : String} {x : φ} {e : FileError}
    (h : (write F.ops root source dir cursor x).1 = .error e) :
    e.path = path root source dir ∧ e.op ∈ ["write", "sync", "rename"] ∧
      F.Frame x (write F.ops root source dir cursor x).2 (path root source dir ++ ".tmp") := by
  rcases write_cases F root source dir cursor x with ⟨op, hop, e', y, hw, hf⟩ | ⟨y, z, -, -, -, hw⟩
  · rw [hw] at h ⊢
    cases h
    exact ⟨rfl, hop, hf⟩
  · rw [hw] at h
    cases h

/-- On a file system that does not fail, every write succeeds. -/
theorem write_ok_of_reliable (hF : F.Reliable) (cursor : String) (x : φ) :
    (write F.ops root source dir cursor x).1 = .ok () := by
  obtain ⟨x₁, h1⟩ : ∃ y, F.ops.mkdirAll root x = (.ok (), y) := ⟨_, Prod.ext (hF.mkdirAll x root) rfl⟩
  obtain ⟨x₂, h2⟩ : ∃ y, F.ops.create (path root source dir ++ ".tmp") x₁ = (.ok (), y) :=
    ⟨_, Prod.ext (hF.create x₁ _) rfl⟩
  obtain ⟨x₃, h3⟩ : ∃ y, F.ops.write (path root source dir ++ ".tmp") cursor x₂ = (.ok (), y) :=
    ⟨_, Prod.ext (hF.write x₂ _ cursor (by rw [FileSystem.view_create_ok h2]; simp)) rfl⟩
  obtain ⟨x₄, h4⟩ : ∃ y, F.ops.sync (path root source dir ++ ".tmp") x₃ = (.ok (), y) :=
    ⟨_, Prod.ext (hF.sync x₃ _) rfl⟩
  obtain ⟨x₅, h5⟩ : ∃ y, F.ops.close (path root source dir ++ ".tmp") x₄ = (.ok (), y) :=
    ⟨_, Prod.ext (hF.close x₄ _) rfl⟩
  obtain ⟨x₆, h6⟩ : ∃ y, F.ops.rename (path root source dir ++ ".tmp") (path root source dir) x₅ = (.ok (), y) :=
    ⟨_, Prod.ext (hF.rename x₅ _ _ (by rw [FileSystem.view_of_steps h2 h3 h4 h5]; simp)) rfl⟩
  simp [write, h1, h2, h3, h4, h5, h6]

/-- On a file system that does not fail, every read answers the cursor the file holds. -/
theorem read_of_reliable (hF : F.Reliable) (x : φ) :
    read F.ops root source dir x = .ok (shown (F.view x (path root source dir))) := by
  rcases read_spec F root source dir x with h | ⟨e, he, hmiss, -⟩
  · exact h
  · rw [hF.read x _ e he] at hmiss
    cases hmiss

end CursorStore

/-! ## Runs of calls -/

/-- A call of the cursor store. -/
inductive CursorCall where
  | read (source dir : String)
  | write (source dir cursor : String)
  deriving DecidableEq

/-- What a call of the cursor store answers. -/
inductive CursorAnswer where
  | cursor (c : String)
  | written
  | failed (e : FileError)
  deriving DecidableEq

namespace CursorAnswer

/-- The answer of a read. -/
def ofRead : Except FileError String → CursorAnswer
  | .ok c => .cursor c
  | .error e => .failed e

/-- The answer of a write. -/
def ofWrite : Except FileError Unit → CursorAnswer
  | .ok () => .written
  | .error e => .failed e

end CursorAnswer

namespace CursorCall

variable {φ : Type}

/-- Makes a call on a store kept under `root`. -/
def run (fs : FileOps φ) (root : String) : CursorCall → φ → CursorAnswer × φ
  | .read source dir, x => (.ofRead (CursorStore.read fs root source dir x), x)
  | .write source dir cursor, x =>
    (.ofWrite (CursorStore.write fs root source dir cursor x).1, (CursorStore.write fs root source dir cursor x).2)

/-- The cursor a call wrote to the file `p`, when it is a write to that file that succeeded. -/
def writtenTo (root p : String) : CursorCall → CursorAnswer → Option String
  | .write source dir cursor, .written => if CursorStore.path root source dir = p then some cursor else none
  | _, _ => none

/-- The source and direction a call reads or writes. -/
def key : CursorCall → String × String
  | .read source dir => (source, dir)
  | .write source dir _ => (source, dir)

/-- The cursor a call wrote for a source and direction, when it is a write of that key that
succeeded. -/
def writtenFor (source dir : String) : CursorCall → CursorAnswer → Option String
  | .write s d cursor, .written => if s = source ∧ d = dir then some cursor else none
  | _, _ => none

end CursorCall

namespace CursorStore

variable {φ : Type} (F : FileSystem φ) (root : String)

/-- Makes calls one after another: their answers, and the state they leave. -/
def runCalls (fs : FileOps φ) (root : String) : List CursorCall → φ → List CursorAnswer × φ
  | [], x => ([], x)
  | c :: cs, x =>
    ((c.run fs root x).1 :: (runCalls fs root cs (c.run fs root x).2).1,
      (runCalls fs root cs (c.run fs root x).2).2)

/-- The cursor of the last call of a history of calls and answers that wrote the file `p` with
success. -/
def lastWritten (root p : String) (h : List (CursorCall × CursorAnswer)) : Option String :=
  h.foldl (fun acc e => (e.1.writtenTo root p e.2).or acc) none

theorem lastWritten_append (p : String) (h : List (CursorCall × CursorAnswer)) (c : CursorCall) (a : CursorAnswer) :
    lastWritten root p (h ++ [(c, a)]) = (c.writtenTo root p a).or (lastWritten root p h) := by
  simp [lastWritten, List.foldl_append]

/-- After a history `h` from the state `x₀`, each cursor file of the state `x` holds the cursor
last written to it, or what it held at first. -/
def HoldsWritten (x₀ : φ) (h : List (CursorCall × CursorAnswer)) (x : φ) : Prop :=
  ∀ source dir, F.view x (path root source dir) =
    (lastWritten root (path root source dir) h).or (F.view x₀ (path root source dir))

theorem holdsWritten_nil (x₀ : φ) : HoldsWritten F root x₀ [] x₀ := fun _ _ => rfl

/-- One call keeps the cursor files holding what was last written to them: a write that
succeeds changes its own file only, since no cursor file is the temporary file of another, and
one that fails changes none. -/
theorem holdsWritten_run {x₀ x : φ} {h : List (CursorCall × CursorAnswer)} (hx : HoldsWritten F root x₀ h x)
    (c : CursorCall) : HoldsWritten F root x₀ (h ++ [(c, (c.run F.ops root x).1)]) (c.run F.ops root x).2 := by
  intro source' dir'
  rw [lastWritten_append]
  cases c with
  | read source dir => exact hx source' dir'
  | write source dir cursor =>
    have hq := path_ne_tmp root source dir source' dir'
    rcases hw : (write F.ops root source dir cursor x).1 with e | ⟨⟩
    · have hframe := (write_error_spec F root source dir hw).2.2
      simp only [CursorCall.run, hw, CursorAnswer.ofWrite, CursorCall.writtenTo, Option.none_or]
      rw [hframe _ hq]
      exact hx source' dir'
    · obtain ⟨hmine, -, hothers⟩ := write_ok_spec F root source dir hw
      simp only [CursorCall.run, hw, CursorAnswer.ofWrite, CursorCall.writtenTo]
      by_cases hsame : path root source dir = path root source' dir'
      · rw [if_pos hsame, ← hsame, hmine]
        rfl
      · rw [if_neg hsame, Option.none_or, hothers _ (Ne.symm hsame) hq]
        exact hx source' dir'

/-- Every call of a run is made from a state whose cursor files hold what was last written to
them before it. -/
theorem holdsWritten_history {x₀ : φ} (cs : List CursorCall) (x : φ) (h : List (CursorCall × CursorAnswer))
    (hx : HoldsWritten F root x₀ h x) {pre post : List (CursorCall × CursorAnswer)} {c : CursorCall}
    {a : CursorAnswer} (hsplit : cs.zip (runCalls F.ops root cs x).1 = pre ++ (c, a) :: post) :
    ∃ y, HoldsWritten F root x₀ (h ++ pre) y ∧ (c.run F.ops root y).1 = a := by
  induction cs generalizing x h pre with
  | nil => simp [runCalls] at hsplit
  | cons c' cs ih =>
    simp only [runCalls, List.zip_cons_cons] at hsplit
    cases pre with
    | nil =>
      simp only [List.nil_append, List.cons.injEq, Prod.mk.injEq] at hsplit
      obtain ⟨⟨rfl, rfl⟩, -⟩ := hsplit
      exact ⟨x, by simpa using hx, rfl⟩
    | cons e pre =>
      simp only [List.cons_append, List.cons.injEq] at hsplit
      obtain ⟨rfl, hrest⟩ := hsplit
      obtain ⟨y, hy, ha⟩ := ih _ _ (holdsWritten_run F root hx c') hrest
      exact ⟨y, by simpa using hy, ha⟩

/-- The cursor store over any file system, with any pattern of failures of its calls, is a map
from cursor files to cursors whose writes are atomic.
* A read answers the cursor its file holds, without surrounding blanks and empty where there is
  no file, or fails naming the file, and only when reading the file failed otherwise than for its
  absence.
* A write that succeeds leaves the cursor in its file and no temporary file, and changes no other
  cursor file; a write that fails names the cursor file and its failed step, and changes no cursor
  file at all.
* On a file system whose calls do not fail, every write succeeds and every read answers.
* Over any run of calls, a read answers the cursor of the last write to its file that
  succeeded, or what the file held at first, or a failure naming the file.
Keys are isolated as far as their files are: two keys share a cursor exactly when their paths
are equal. -/
theorem atomic_cursor_map :
    (∀ (x : φ) (source dir : String),
      read F.ops root source dir x = .ok (shown (F.view x (path root source dir))) ∨
        ∃ e : OsError, F.ops.readFile (path root source dir) x = .error e ∧ e.notExist = false ∧
          read F.ops root source dir x = .error ⟨path root source dir, "read", e.text⟩) ∧
    (∀ (x : φ) (source dir cursor : String),
      ((write F.ops root source dir cursor x).1 = .ok () →
        F.view (write F.ops root source dir cursor x).2 (path root source dir) = some cursor ∧
        F.view (write F.ops root source dir cursor x).2 (path root source dir ++ ".tmp") = none ∧
        ∀ source' dir', path root source' dir' ≠ path root source dir →
          F.view (write F.ops root source dir cursor x).2 (path root source' dir') =
            F.view x (path root source' dir')) ∧
      (∀ e, (write F.ops root source dir cursor x).1 = .error e →
        e.path = path root source dir ∧ e.op ∈ ["write", "sync", "rename"] ∧
        ∀ source' dir', F.view (write F.ops root source dir cursor x).2 (path root source' dir') =
          F.view x (path root source' dir'))) ∧
    (F.Reliable → ∀ (x : φ) (source dir cursor : String),
      (write F.ops root source dir cursor x).1 = .ok () ∧
        read F.ops root source dir x = .ok (shown (F.view x (path root source dir)))) ∧
    (∀ (cs : List CursorCall) (x : φ) (pre post : List (CursorCall × CursorAnswer)) (source dir : String)
        (a : CursorAnswer),
      cs.zip (runCalls F.ops root cs x).1 = pre ++ (.read source dir, a) :: post →
        a = .cursor (shown ((lastWritten root (path root source dir) pre).or (F.view x (path root source dir)))) ∨
        ∃ cause, a = .failed ⟨path root source dir, "read", cause⟩) := by
  refine ⟨fun x source dir => read_spec F root source dir x,
    fun x source dir cursor => ⟨fun h => ?_, fun e h => ?_⟩,
    fun hF x source dir cursor => ⟨write_ok_of_reliable F root source dir hF cursor x,
      read_of_reliable F root source dir hF x⟩, ?_⟩
  · obtain ⟨hmine, hgone, hothers⟩ := write_ok_spec F root source dir h
    exact ⟨hmine, hgone, fun source' dir' hne => hothers _ hne (path_ne_tmp root source dir source' dir')⟩
  · obtain ⟨hpath, hop, hframe⟩ := write_error_spec F root source dir h
    exact ⟨hpath, hop, fun source' dir' => hframe _ (path_ne_tmp root source dir source' dir')⟩
  · intro cs x pre post source dir a hsplit
    obtain ⟨y, hy, ha⟩ := holdsWritten_history F root cs x [] (holdsWritten_nil F root x) hsplit
    rw [List.nil_append] at hy
    rw [← ha]
    rcases read_spec F root source dir y with hr | ⟨e, -, -, hr⟩
    · left
      simp only [CursorCall.run, hr, CursorAnswer.ofRead, hy source dir]
    · exact .inr ⟨e.text, by simp only [CursorCall.run, hr, CursorAnswer.ofRead]⟩

/-- The cursor of the last call of a history that wrote a source and direction with success. -/
def lastWrittenFor (source dir : String) (h : List (CursorCall × CursorAnswer)) : Option String :=
  h.foldl (fun acc e => (e.1.writtenFor source dir e.2).or acc) none

theorem writtenTo_path {source dir : String} (hk : Declared (source, dir))
    (c : CursorCall) (hc : Declared c.key) (a : CursorAnswer) :
    c.writtenTo root (path root source dir) a = c.writtenFor source dir a := by
  cases c with
  | read s d => rfl
  | write s d cursor =>
    cases a with
    | written =>
      have hiff : path root s d = path root source dir ↔ s = source ∧ d = dir :=
        ⟨path_injective root hc hk, fun h => by rw [h.1, h.2]⟩
      simp only [CursorCall.writtenTo, CursorCall.writtenFor, hiff]
    | cursor _ => rfl
    | failed _ => rfl

/-- On a history of declared keys, the last write to a key's file is the last write to the key. -/
theorem lastWritten_eq_lastWrittenFor {source dir : String}
    (hk : Declared (source, dir)) (h : List (CursorCall × CursorAnswer))
    (hall : ∀ e ∈ h, Declared e.1.key) :
    lastWritten root (path root source dir) h = lastWrittenFor source dir h := by
  unfold lastWritten lastWrittenFor
  exact List.foldl_ext _ _ _ fun acc e he => by rw [writtenTo_path root hk e.1 (hall e he)]

/-- Keyed by the sources and directions the ingestion uses, the cursor store is an atomic map from
keys to cursors, over any file system and any pattern of failures of its calls: a read answers
its key's cursor or fails naming the key's file; a write that succeeds leaves its cursor and no
temporary file and changes the cursor of no other key; a write that fails names the key's file
and changes no cursor; over a run of calls, a read answers the cursor of the last write to its
key that succeeded, or else what its file held at first. -/
theorem declared_keys_atomic_cursor_map :
    (∀ (x : φ) (source dir : String),
      read F.ops root source dir x = .ok (shown (F.view x (path root source dir))) ∨
        ∃ cause, read F.ops root source dir x = .error ⟨path root source dir, "read", cause⟩) ∧
    (∀ (x : φ) (source dir cursor : String), Declared (source, dir) →
      ((write F.ops root source dir cursor x).1 = .ok () →
        F.view (write F.ops root source dir cursor x).2 (path root source dir) = some cursor ∧
        F.view (write F.ops root source dir cursor x).2 (path root source dir ++ ".tmp") = none ∧
        ∀ source' dir', Declared (source', dir') → (source', dir') ≠ (source, dir) →
          F.view (write F.ops root source dir cursor x).2 (path root source' dir') =
            F.view x (path root source' dir')) ∧
      (∀ e, (write F.ops root source dir cursor x).1 = .error e →
        e.path = path root source dir ∧ e.op ∈ ["write", "sync", "rename"] ∧
        ∀ source' dir', F.view (write F.ops root source dir cursor x).2 (path root source' dir') =
          F.view x (path root source' dir'))) ∧
    (∀ (cs : List CursorCall) (x : φ) (pre post : List (CursorCall × CursorAnswer))
        (source dir : String) (a : CursorAnswer),
      (∀ c ∈ cs, Declared c.key) →
      cs.zip (runCalls F.ops root cs x).1 = pre ++ (.read source dir, a) :: post →
        a = .cursor (shown ((lastWrittenFor source dir pre).or (F.view x (path root source dir)))) ∨
        ∃ cause, a = .failed ⟨path root source dir, "read", cause⟩) := by
  obtain ⟨hread, hwrite, -, hrun⟩ := atomic_cursor_map F root
  refine ⟨fun x source dir => ?_, fun x source dir cursor hk => ?_,
    fun cs x pre post source dir a hkeys hsplit => ?_⟩
  · rcases hread x source dir with h | ⟨e, -, -, h⟩
    · exact .inl h
    · exact .inr ⟨e.text, h⟩
  · obtain ⟨hok, herr⟩ := hwrite x source dir cursor
    refine ⟨fun h => ?_, herr⟩
    obtain ⟨hmine, hgone, hothers⟩ := hok h
    refine ⟨hmine, hgone, fun source' dir' hk' hne => hothers source' dir' fun heq => hne ?_⟩
    obtain ⟨hs, hd⟩ := path_injective root hk' hk heq
    rw [hs, hd]
  · have hcalls : ∀ e ∈ cs.zip (runCalls F.ops root cs x).1, Declared e.1.key :=
      fun e he => hkeys e.1 (List.of_mem_zip he).1
    have hpre : ∀ e ∈ pre, Declared e.1.key :=
      fun e he => hcalls e (by rw [hsplit]; exact List.mem_append_left _ he)
    have hkey : Declared (source, dir) :=
      hcalls (.read source dir, a) (by rw [hsplit]; exact List.mem_append_right _ List.mem_cons_self)
    rw [← lastWritten_eq_lastWrittenFor root hkey pre hpre]
    exact hrun cs x pre post source dir a hsplit

/-- Writing a cursor for the native source walking forward and reading it back, on files in memory
that do not fail: the read answers the cursor written, without its blanks. -/
theorem native_cursor_reads_back :
    let w := CursorCall.write "native" "next" " X\n"
    let cs := [w, .read "native" "next"]
    (∀ c ∈ cs, Declared c.key) ∧
      cs.zip (runCalls (memFiles fun _ _ => false).ops "cp" cs fun _ => none).1 =
        [(w, .written)] ++ [(.read "native" "next", .cursor "X")] ∧
      (CursorAnswer.cursor "X" = .cursor (shown ((lastWrittenFor "native" "next" [(w, .written)]).or
          ((memFiles fun _ _ => false).view (fun _ => none) (path "cp" "native" "next")))) ∨
        ∃ cause, CursorAnswer.cursor "X" = .failed ⟨path "cp" "native" "next", "read", cause⟩) := by
  intro w cs
  have hkeys : ∀ c ∈ cs, Declared c.key := by
    intro c hc
    simp only [cs, w, List.mem_cons, List.not_mem_nil, or_false] at hc
    rcases hc with rfl | rfl <;> exact ⟨by decide, .next, rfl⟩
  have hsplit : cs.zip (runCalls (memFiles fun _ _ => false).ops "cp" cs fun _ => none).1 =
      [(w, .written)] ++ [(.read "native" "next", .cursor "X")] := by
    decide +kernel
  exact ⟨hkeys, hsplit,
    (declared_keys_atomic_cursor_map (memFiles fun _ _ => false) "cp").2.2 cs _ _ [] _ _ _ hkeys hsplit⟩

/-- A write whose flush fails keeps the cursor written before it. -/
example :
    (read (memFiles fun _ _ => false).ops "cp" "native" "prev"
      (write (memFiles fun call _ => call == "sync").ops "cp" "native" "prev" "new"
        (write (memFiles fun _ _ => false).ops "cp" "native" "prev" " old\n" fun _ => none).2).2).toOption =
      some "old" := by
  decide +kernel

/-- Two keys whose names join to one file name share a cursor: on a disk, once the cursor `X` is
written for the source `a` and the direction `next_prev`, reading the source `a_next` and the
direction `prev` answers `X`, though nothing was written for them. -/
theorem keys_joining_alike_share_a_cursor :
    (write Disk.ops "<tmp>/cp" "a" "next_prev" "X" { top := "<tmp>" }).1.toOption = some () ∧
      (read Disk.ops "<tmp>/cp" "a_next" "prev"
        (write Disk.ops "<tmp>/cp" "a" "next_prev" "X" { top := "<tmp>" }).2).toOption = some "X" := by
  decide +kernel

end CursorStore

end SwapArchive
