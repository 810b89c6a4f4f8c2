/-!
# Pending ids

A swap its feed has not finished yet is remembered by its id until a later pass finds it final.
`PendingSet` is a finite set of non-empty ids, held as a strictly increasing list, so that
draining hands the ids out sorted and exactly once: `track` adds the non-empty ids given, `drain`
returns every id and leaves the set empty. A `Registry` keeps one set per source kind, created on
first use and listed in increasing order; its `track`, `drain` and `restore` act on one kind's set
and never on another's.
-/

namespace SwapArchive

namespace Sorted

/-- Puts `x` into a strictly increasing list, unless it is already there. -/
def insert (x : String) : List String → List String
  | [] => [x]
  | y :: ys => if x < y then x :: y :: ys else if x = y then y :: ys else y :: insert x ys

theorem mem_insert {x z : String} {ys : List String} : z ∈ insert x ys ↔ z = x ∨ z ∈ ys := by
  induction ys with
  | nil => simp [insert]
  | cons y ys ih =>
    unfold insert
    split
    · simp
    · split
      · rename_i h; subst h; simp
      · simp only [List.mem_cons, ih]
        constructor
        · rintro (h | h | h) <;> simp [h]
        · rintro (h | h | h) <;> simp [h]

theorem pairwise_insert (x : String) (ys : List String) (h : ys.Pairwise (· < ·)) :
    (insert x ys).Pairwise (· < ·) := by
  induction ys with
  | nil => simp [insert]
  | cons y ys ih =>
    rw [List.pairwise_cons] at h
    unfold insert
    split
    · rename_i hxy
      refine List.Pairwise.cons (fun z hz => ?_) (List.Pairwise.cons h.1 h.2)
      rcases List.mem_cons.1 hz with rfl | hz
      · exact hxy
      · exact String.lt_trans hxy (h.1 z hz)
    · split
      · exact List.Pairwise.cons h.1 h.2
      · rename_i hxy hne
        have hyx : y < x := by
          rcases Std.lt_trichotomy x y with h1 | h1 | h1
          · exact absurd h1 hxy
          · exact absurd h1 hne
          · exact h1
        refine List.Pairwise.cons (fun z hz => ?_) (ih h.2)
        rcases mem_insert.1 hz with rfl | hz
        · exact hyx
        · exact h.1 z hz

end Sorted

/-- A finite set of non-empty ids, listed in strictly increasing order. -/
structure PendingSet where
  ids : List String
  sorted : ids.Pairwise (· < ·)

namespace PendingSet

/-- The set with no id. -/
def empty : PendingSet := ⟨[], List.Pairwise.nil⟩

instance : Inhabited PendingSet := ⟨empty⟩

/-- Adds one id; the empty id is never held. -/
def add (s : PendingSet) (id : String) : PendingSet :=
  if id = "" then s else ⟨Sorted.insert id s.ids, Sorted.pairwise_insert id s.ids s.sorted⟩

/-- Adds every non-empty id of the list. -/
def track (s : PendingSet) (ids : List String) : PendingSet := ids.foldl add s

/-- Takes every id out: they come sorted, and the set is left empty. -/
def drain (s : PendingSet) : List String × PendingSet := (s.ids, empty)

/-- Is the id held? -/
def contains (s : PendingSet) (id : String) : Bool := s.ids.contains id

/-- The number of ids held. -/
def size (s : PendingSet) : Nat := s.ids.length

theorem mem_add {s : PendingSet} {id z : String} :
    z ∈ (s.add id).ids ↔ (z = id ∧ id ≠ "") ∨ z ∈ s.ids := by
  unfold add
  split
  · rename_i h; simp [h]
  · rename_i h; simp [Sorted.mem_insert, h]

end PendingSet

/-- One pending set per source kind, listed by increasing kind. -/
structure Registry where
  sets : List (String × PendingSet) := []
  deriving Inhabited

namespace Registry

/-- The set of a kind; a kind never used has the empty set. -/
def get (r : Registry) (kind : String) : PendingSet :=
  match r.sets.find? (fun e => e.1 = kind) with
  | some e => e.2
  | none => PendingSet.empty

/-- Places a kind's set, creating the kind's entry where the order puts it. -/
def put (r : Registry) (kind : String) (s : PendingSet) : Registry :=
  let rec place : List (String × PendingSet) → List (String × PendingSet)
    | [] => [(kind, s)]
    | e :: es =>
      if kind < e.1 then (kind, s) :: e :: es
      else if kind = e.1 then (kind, s) :: es
      else e :: place es
  ⟨place r.sets⟩

/-- Makes sure a kind has a set, as the first use of the kind does. -/
def touch (r : Registry) (kind : String) : Registry := r.put kind (r.get kind)

/-- Adds ids to a kind's set; the answer is the set's new size. -/
def track (r : Registry) (kind : String) (ids : List String) : Nat × Registry :=
  let s := (r.get kind).track ids
  (s.size, r.put kind s)

/-- Takes every id out of a kind's set, sorted. -/
def drain (r : Registry) (kind : String) : List String × Registry :=
  ((r.get kind).ids, r.put kind PendingSet.empty)

/-- The number of ids held for a kind. -/
def size (r : Registry) (kind : String) : Nat := (r.get kind).size

/-- Every kind used so far with the size of its set, by increasing kind. -/
def sizes (r : Registry) : List (String × Nat) := r.sets.map fun e => (e.1, e.2.size)

end Registry

end SwapArchive
