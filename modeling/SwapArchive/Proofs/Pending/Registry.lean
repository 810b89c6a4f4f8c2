import Mathlib
import SwapArchive.Ingest.Pending

/-!
# Pending sets, kind by kind

What the registry's operations do to the set of one kind: `get_put_self` and `get_put_of_ne` say
that placing a kind's set changes that set and no other, and from them `track`, `drain` and
`touch` act on their own kind only. `mem_track` says tracking adds exactly the non-empty ids
given; `Registry.trackAll` is a run of trackings by other callers, and `mem_trackAll` says what it
adds to one kind's set.
-/

namespace SwapArchive

namespace PendingSet

/-- Tracking adds exactly the non-empty ids of the list. -/
theorem mem_track {s : PendingSet} {ids : List String} {x : String} :
    x ∈ (s.track ids).ids ↔ x ∈ s.ids ∨ (x ∈ ids ∧ x ≠ "") := by
  induction ids generalizing s with
  | nil => simp [track]
  | cons id ids ih =>
    simp only [track, List.foldl_cons] at ih ⊢
    rw [ih, mem_add]
    constructor
    · rintro ((⟨rfl, hne⟩ | h) | ⟨h, hne⟩)
      · exact .inr ⟨List.mem_cons_self, hne⟩
      · exact .inl h
      · exact .inr ⟨List.mem_cons_of_mem _ h, hne⟩
    · rintro (h | ⟨h, hne⟩)
      · exact .inl (.inr h)
      · rcases List.mem_cons.1 h with rfl | h
        · exact .inl (.inl ⟨rfl, hne⟩)
        · exact .inr ⟨h, hne⟩

@[simp] theorem ids_empty : empty.ids = [] := rfl

/-- A set holds each id once. -/
theorem nodup (s : PendingSet) : s.ids.Nodup := by
  refine s.sorted.imp fun hlt heq => ?_
  subst heq
  exact String.lt_irrefl _ hlt

end PendingSet

namespace Registry

/-- The entry of a kind, after the kind's set is placed, is that set. -/
theorem find?_place_self (kind : String) (s : PendingSet) (es : List (String × PendingSet)) :
    (put.place kind s es).find? (fun e => e.1 = kind) = some (kind, s) := by
  induction es with
  | nil => simp [put.place]
  | cons e es ih =>
    rw [put.place]
    split
    · simp
    · split
      · simp
      · rename_i hlt hne
        have hne' : ¬e.1 = kind := fun h => hne h.symm
        simp [hne', ih]

/-- Placing one kind's set leaves the entry of every other kind where it was. -/
theorem find?_place_of_ne {kind k : String} (h : k ≠ kind) (s : PendingSet)
    (es : List (String × PendingSet)) :
    (put.place kind s es).find? (fun e => e.1 = k) = es.find? (fun e => e.1 = k) := by
  induction es with
  | nil => simp [put.place, Ne.symm h]
  | cons e es ih =>
    rw [put.place]
    split
    · simp [Ne.symm h]
    · split
      · rename_i _ heq
        subst heq
        simp [Ne.symm h]
      · by_cases hk : e.1 = k
        · simp [hk]
        · simp [hk, ih]

@[simp] theorem get_put_self (r : Registry) (kind : String) (s : PendingSet) :
    (r.put kind s).get kind = s := by
  simp [get, put, find?_place_self]

theorem get_put_of_ne (r : Registry) {kind k : String} (h : k ≠ kind) (s : PendingSet) :
    (r.put kind s).get k = r.get k := by
  simp only [get, put, find?_place_of_ne h]

/-- Tracking changes the tracked kind's set as `PendingSet.track` does. -/
@[simp] theorem get_track_self (r : Registry) (kind : String) (ids : List String) :
    (r.track kind ids).2.get kind = (r.get kind).track ids := get_put_self _ _ _

theorem get_track_of_ne (r : Registry) {kind k : String} (h : k ≠ kind) (ids : List String) :
    (r.track kind ids).2.get k = r.get k := get_put_of_ne _ h _

/-- Draining hands out the kind's set as it was and leaves it empty. -/
@[simp] theorem drain_fst (r : Registry) (kind : String) : (r.drain kind).1 = (r.get kind).ids := rfl

@[simp] theorem get_drain_self (r : Registry) (kind : String) :
    (r.drain kind).2.get kind = PendingSet.empty := get_put_self _ _ _

theorem get_drain_of_ne (r : Registry) {kind k : String} (h : k ≠ kind) :
    (r.drain kind).2.get k = r.get k := get_put_of_ne _ h _

/-- Making sure a kind has a set changes no set. -/
@[simp] theorem get_touch (r : Registry) (kind k : String) : (r.touch kind).get k = r.get k := by
  by_cases h : k = kind
  · subst h
    exact get_put_self _ _ _
  · exact get_put_of_ne _ h _

/-- Trackings of several kinds, one after another, as other callers make them. -/
def trackAll (r : Registry) (tracks : List (String × List String)) : Registry :=
  tracks.foldl (fun r t => (r.track t.1 t.2).2) r

/-- The ids a list of trackings gives one kind. -/
def idsFor (kind : String) (tracks : List (String × List String)) : List String :=
  (tracks.filter fun t => t.1 = kind).flatMap (·.2)

@[simp] theorem idsFor_nil (kind : String) : idsFor kind [] = [] := rfl

@[simp] theorem idsFor_append (kind : String) (ts us : List (String × List String)) :
    idsFor kind (ts ++ us) = idsFor kind ts ++ idsFor kind us := by
  simp [idsFor]

/-- Other callers' trackings add to a kind's set exactly the non-empty ids they give it. -/
theorem mem_trackAll {r : Registry} {tracks : List (String × List String)} {kind x : String} :
    x ∈ ((r.trackAll tracks).get kind).ids ↔ x ∈ (r.get kind).ids ∨ (x ∈ idsFor kind tracks ∧ x ≠ "") := by
  induction tracks generalizing r with
  | nil => simp [trackAll]
  | cons t ts ih =>
    obtain ⟨k, ids⟩ := t
    simp only [trackAll, List.foldl_cons] at ih ⊢
    rw [ih]
    by_cases hk : k = kind
    · subst hk
      simp only [get_track_self, PendingSet.mem_track, idsFor, List.filter_cons, decide_true,
        if_true, List.flatMap_cons, List.mem_append]
      grind
    · simp only [get_track_of_ne _ (Ne.symm hk), idsFor, List.filter_cons, hk, decide_false]
      simp

end Registry

end SwapArchive
