import SwapArchive.Proofs.Pending.Registry

/-!
# The pending trackers are sets

Callers ask the registry for the tracker of a kind (made on first use) and track, restore, drain,
test or count on it, or ask for every kind's size. Each call is atomic, so any interleaving of
callers is one sequence of `TrackerCall`s, run by `runCalls`. `TrackerSpec` is what a caller may
take the trackers to be: one finite set of ids per kind and the kinds asked for so far; tracking
and restoring add the non-empty ids, draining hands out the set in increasing order and empties
it. One call on an ordered registry answers as the spec does (`call_refines`), hence every
sequence of calls; and once an id is in a kind's set and no later call adds it again, exactly one
later drain hands it out, unless it is still held at the end (`handedOut_add_held`).
-/

namespace SwapArchive

/-- A call on the pending trackers: on the tracker of a kind, which the registry makes on first
use, or on the registry itself for the sizes of all kinds. -/
inductive TrackerCall where
  | track (kind : String) (ids : List String)
  | restore (kind : String) (ids : List String)
  | drain (kind : String)
  | contains (kind id : String)
  | len (kind : String)
  | sizes
  deriving DecidableEq

/-- What a call answers. -/
inductive TrackerAnswer where
  /-- Tracking and restoring answer nothing. -/
  | none
  | ids (xs : List String)
  | member (b : Bool)
  | count (n : Nat)
  | sizes (s : List (String × Nat))
  deriving DecidableEq

namespace TrackerCall

/-- The kind whose tracker the call asks the registry for. -/
def kind? : TrackerCall → Option String
  | .track k _ | .restore k _ | .drain k | .contains k _ | .len k => some k
  | .sizes => none

/-- The ids the call gives the tracker of kind `k`. -/
def added (k : String) : TrackerCall → List String
  | .track k' ids | .restore k' ids => if k' = k then ids else []
  | _ => []

end TrackerCall

/-- Does the answer hand out the id? -/
def TrackerAnswer.hands (x : String) : TrackerAnswer → Bool
  | .ids xs => xs.contains x
  | _ => false

/-- Runs calls one after another, collecting the answers. -/
def runCalls {S : Type} (step : S → TrackerCall → TrackerAnswer × S) :
    S → List TrackerCall → List TrackerAnswer × S
  | s, [] => ([], s)
  | s, c :: cs => ((step s c).1 :: (runCalls step (step s c).2 cs).1, (runCalls step (step s c).2 cs).2)

/-- How many drains of kind `k` among the calls hand out `x`, given the calls' answers. -/
def handedOut (k x : String) (cs : List TrackerCall) (as : List TrackerAnswer) : Nat :=
  (cs.zip as).countP fun p => p.1 == .drain k && p.2.hands x

section Runs

variable {S : Type} (step : S → TrackerCall → TrackerAnswer × S)

@[simp] theorem runCalls_nil (s : S) : runCalls step s [] = ([], s) := rfl

@[simp] theorem runCalls_cons (s : S) (c : TrackerCall) (cs : List TrackerCall) :
    runCalls step s (c :: cs) =
      ((step s c).1 :: (runCalls step (step s c).2 cs).1, (runCalls step (step s c).2 cs).2) := rfl

theorem runCalls_fst_length (s : S) (cs : List TrackerCall) : (runCalls step s cs).1.length = cs.length := by
  induction cs generalizing s with
  | nil => rfl
  | cons c cs ih => simp [ih]

/-- A run of `xs ++ ys` is a run of `xs` followed by a run of `ys`. -/
theorem runCalls_append (s : S) (xs ys : List TrackerCall) :
    runCalls step s (xs ++ ys) =
      ((runCalls step s xs).1 ++ (runCalls step (runCalls step s xs).2 ys).1,
        (runCalls step (runCalls step s xs).2 ys).2) := by
  induction xs generalizing s with
  | nil => rfl
  | cons c xs ih => simp [ih]

end Runs

/-! ## The spec: one finite set per kind -/

/-- The trackers as a caller may take them: one finite set of ids per kind, and the kinds asked for
so far. -/
structure TrackerSpec where
  sets : String → Finset String
  kinds : Finset String

namespace TrackerSpec

/-- No kind asked for, no id held. -/
def init : TrackerSpec := ⟨fun _ => ∅, ∅⟩

/-- The kind `k` asked for, with its set now `t`. -/
def set (s : TrackerSpec) (k : String) (t : Finset String) : TrackerSpec :=
  ⟨Function.update s.sets k t, insert k s.kinds⟩

/-- One call on the sets. -/
def call (s : TrackerSpec) : TrackerCall → TrackerAnswer × TrackerSpec
  | .track k ids | .restore k ids => (.none, s.set k (s.sets k ∪ (ids.filter (· ≠ "")).toFinset))
  | .drain k => (.ids ((s.sets k).sort (· ≤ ·)), s.set k ∅)
  | .contains k x => (.member (decide (x ∈ s.sets k)), s.set k (s.sets k))
  | .len k => (.count (s.sets k).card, s.set k (s.sets k))
  | .sizes => (.sizes ((s.kinds.sort (· ≤ ·)).map fun k => (k, (s.sets k).card)), s)

@[simp] theorem set_sets_self (s : TrackerSpec) (k : String) (t : Finset String) :
    (s.set k t).sets k = t := by
  simp [set]

theorem set_sets_of_ne (s : TrackerSpec) {k k' : String} (h : k' ≠ k) (t : Finset String) :
    (s.set k t).sets k' = s.sets k' := by
  simp [set, h]

@[simp] theorem set_kinds (s : TrackerSpec) (k : String) (t : Finset String) :
    (s.set k t).kinds = insert k s.kinds := rfl

/-- A call asks for the kind it names and for no other. -/
theorem mem_call_kinds (s : TrackerSpec) (c : TrackerCall) {k : String} :
    k ∈ (s.call c).2.kinds ↔ k ∈ s.kinds ∨ c.kind? = some k := by
  cases c with
  | sizes => simp [call, TrackerCall.kind?]
  | track k' _ | restore k' _ | drain k' | contains k' _ | len k' =>
    simp only [call, set_kinds, Finset.mem_insert, TrackerCall.kind?, Option.some.injEq]
    rw [or_comm, @eq_comm _ k]

/-- A call leaves the set of every kind it does not name as it was. -/
theorem call_sets_of_ne (s : TrackerSpec) (c : TrackerCall) {k : String} (h : c.kind? ≠ some k) :
    (s.call c).2.sets k = s.sets k := by
  cases c with
  | sizes => rfl
  | track k' _ | restore k' _ | drain k' | contains k' _ | len k' =>
    have hne : k ≠ k' := fun h' => h (by simp [TrackerCall.kind?, h'])
    exact set_sets_of_ne s hne _

/-- No call puts the empty id in a set. -/
theorem empty_not_mem_call (s : TrackerSpec) (c : TrackerCall) (h : ∀ k, "" ∉ s.sets k) (k : String) :
    "" ∉ (s.call c).2.sets k := by
  by_cases hk : c.kind? = some k
  · cases c <;> simp only [TrackerCall.kind?, Option.some.injEq, reduceCtorEq] at hk <;> subst hk <;>
      simp [call, h]
  · rw [call_sets_of_ne s c hk]
    exact h k

/-- A call that gives a non-empty id to a kind leaves it in that kind's set. -/
theorem mem_call_of_mem_added (s : TrackerSpec) (c : TrackerCall) {k x : String} (hx : x ∈ c.added k)
    (hne : x ≠ "") : x ∈ (s.call c).2.sets k := by
  cases c with
  | track k' ids | restore k' ids =>
    simp only [TrackerCall.added] at hx
    split at hx
    · rename_i hk
      subst hk
      simp [call, hx, hne]
    · simp at hx
  | drain _ | contains _ _ | len _ | sizes => simp [TrackerCall.added] at hx

/-- One call: whether it is a drain of kind `k` handing out `x`, and whether `x` is held after it,
count together as whether `x` was held before, when the call does not give `x` to kind `k`. -/
theorem call_hands_add_held (s : TrackerSpec) (c : TrackerCall) {k x : String} (hx : x ∉ c.added k) :
    (if (c == .drain k && (s.call c).1.hands x) = true then 1 else 0) +
        (if x ∈ (s.call c).2.sets k then 1 else 0) =
      if x ∈ s.sets k then 1 else 0 := by
  by_cases hk : c.kind? = some k
  · cases c with
    | sizes => simp [TrackerCall.kind?] at hk
    | track k' ids | restore k' ids =>
      simp only [TrackerCall.kind?, Option.some.injEq] at hk
      subst hk
      have hx' : x ∉ ids := by simpa [TrackerCall.added] using hx
      simp [call, TrackerAnswer.hands, hx']
    | drain k' =>
      simp only [TrackerCall.kind?, Option.some.injEq] at hk
      subst hk
      by_cases hmem : x ∈ s.sets k' <;> simp [call, TrackerAnswer.hands, hmem]
    | contains k' _ | len k' =>
      simp only [TrackerCall.kind?, Option.some.injEq] at hk
      subst hk
      simp [call, TrackerAnswer.hands]
  · have hd : (c == .drain k) = false := by
      cases c <;> simp_all [TrackerCall.kind?]
    rw [call_sets_of_ne s c hk, hd]
    simp

/-- Along a run that never gives `x` to kind `k` again, the drains of `k` handing `x` out and
whether `x` is held at the end add up to whether it was held at the start: `x` is handed out at
most once, and only if it was held. -/
theorem handedOut_add_held (s : TrackerSpec) (cs : List TrackerCall) {k x : String}
    (hx : ∀ c ∈ cs, x ∉ c.added k) :
    handedOut k x cs (runCalls call s cs).1 + (if x ∈ (runCalls call s cs).2.sets k then 1 else 0) =
      if x ∈ s.sets k then 1 else 0 := by
  induction cs generalizing s with
  | nil => exact Nat.zero_add _
  | cons c cs ih =>
    have hstep := call_hands_add_held s c (hx c List.mem_cons_self)
    have hrest := ih (s.call c).2 fun c' hc' => hx c' (List.mem_cons_of_mem c hc')
    rw [runCalls_cons]
    simp only [handedOut, List.zip_cons_cons, List.countP_cons] at hrest ⊢
    split_ifs at hstep hrest ⊢ <;> omega

/-- The kinds asked for after a run are those asked for before and those the calls name. -/
theorem mem_runCalls_kinds (s : TrackerSpec) (cs : List TrackerCall) {k : String} :
    k ∈ (runCalls call s cs).2.kinds ↔ k ∈ s.kinds ∨ k ∈ cs.filterMap TrackerCall.kind? := by
  induction cs generalizing s with
  | nil => simp
  | cons c cs ih =>
    rw [runCalls_cons, ih, mem_call_kinds]
    cases hc : c.kind? <;> simp [hc, or_assoc, eq_comm]

theorem runCalls_empty_not_mem (s : TrackerSpec) (cs : List TrackerCall) (h : ∀ k, "" ∉ s.sets k)
    (k : String) : "" ∉ (runCalls call s cs).2.sets k := by
  induction cs generalizing s with
  | nil => exact h k
  | cons c cs ih => exact ih _ (empty_not_mem_call s c h)

end TrackerSpec

/-! ## The registry seen as the spec -/

namespace Registry

/-- One call on the registry: the kind's tracker is looked up (made on first use), then used. -/
def call (r : Registry) : TrackerCall → TrackerAnswer × Registry
  | .track k ids | .restore k ids => (.none, (r.track k ids).2)
  | .drain k => (.ids (r.drain k).1, (r.drain k).2)
  | .contains k x => (.member ((r.get k).contains x), r.touch k)
  | .len k => (.count (r.size k), r.touch k)
  | .sizes => (.sizes r.sizes, r)

/-- The kinds are listed in strictly increasing order, as `put` keeps them. -/
def Ordered (r : Registry) : Prop := r.sets.Pairwise fun a b => a.1 < b.1

/-- The sets of the registry, as finite sets, and its kinds. -/
def view (r : Registry) : TrackerSpec :=
  ⟨fun k => (r.get k).ids.toFinset, (r.sets.map Prod.fst).toFinset⟩

theorem mem_place {kind : String} {s : PendingSet} {es : List (String × PendingSet)}
    {e : String × PendingSet} (h : e ∈ put.place kind s es) : e = (kind, s) ∨ e ∈ es := by
  induction es with
  | nil => simpa [put.place] using h
  | cons e' es ih =>
    rw [put.place] at h
    split at h
    · simpa using h
    · split at h
      · simp only [List.mem_cons] at h ⊢
        tauto
      · simp only [List.mem_cons] at h ⊢
        rcases h with h | h
        · exact .inr (.inl h)
        · rcases ih h with h | h
          · exact .inl h
          · exact .inr (.inr h)

theorem place_ordered (kind : String) (s : PendingSet) {es : List (String × PendingSet)}
    (h : es.Pairwise fun a b => a.1 < b.1) : (put.place kind s es).Pairwise fun a b => a.1 < b.1 := by
  induction es with
  | nil => simp [put.place]
  | cons e es ih =>
    rw [List.pairwise_cons] at h
    rw [put.place]
    split
    · rename_i hlt
      refine List.Pairwise.cons (fun x hx => ?_) (List.Pairwise.cons h.1 h.2)
      rcases List.mem_cons.1 hx with rfl | hx
      · exact hlt
      · exact String.lt_trans hlt (h.1 x hx)
    · split
      · rename_i heq
        refine List.Pairwise.cons (fun x hx => ?_) h.2
        rw [heq]
        exact h.1 x hx
      · rename_i hlt hne
        have hgt : e.1 < kind := by
          rcases Std.lt_trichotomy kind e.1 with h1 | h1 | h1
          · exact absurd h1 hlt
          · exact absurd h1 hne
          · exact h1
        refine List.Pairwise.cons (fun x hx => ?_) (ih h.2)
        rcases mem_place hx with rfl | hx
        · exact hgt
        · exact h.1 x hx

theorem keys_place (kind : String) (s : PendingSet) (es : List (String × PendingSet)) :
    ((put.place kind s es).map Prod.fst).toFinset = insert kind (es.map Prod.fst).toFinset := by
  induction es with
  | nil => simp [put.place]
  | cons e es ih =>
    rw [put.place]
    split
    · simp
    · split
      · rename_i heq
        subst heq
        simp
      · simp only [List.map_cons, List.toFinset_cons, ih]
        exact Finset.insert_comm _ _ _

theorem ordered_put {r : Registry} (h : r.Ordered) (kind : String) (s : PendingSet) :
    (r.put kind s).Ordered :=
  place_ordered kind s h

/-- Placing a kind's set is setting it in the spec. -/
theorem view_put (r : Registry) (kind : String) (s : PendingSet) :
    (r.put kind s).view = r.view.set kind s.ids.toFinset := by
  simp only [view, TrackerSpec.set, TrackerSpec.mk.injEq]
  refine ⟨funext fun k => ?_, keys_place kind s r.sets⟩
  by_cases hk : k = kind
  · subst hk
    simp
  · simp [get_put_of_ne r hk, hk]

theorem ordered_empty : ({} : Registry).Ordered := List.Pairwise.nil

theorem view_empty : ({} : Registry).view = TrackerSpec.init := by
  simp only [view, TrackerSpec.init, TrackerSpec.mk.injEq]
  exact ⟨funext fun _ => rfl, rfl⟩

/-- In entries ordered by kind, the entry found for the kind of an entry is that entry. -/
theorem find?_of_mem {es : List (String × PendingSet)} (h : es.Pairwise fun a b => a.1 < b.1)
    {e : String × PendingSet} (he : e ∈ es) : es.find? (fun e' => e'.1 = e.1) = some e := by
  induction es with
  | nil => simp at he
  | cons e' es ih =>
    rw [List.pairwise_cons] at h
    rcases List.mem_cons.1 he with rfl | he
    · simp
    · have hne : ¬e'.1 = e.1 := fun heq => String.lt_irrefl e.1 (heq ▸ h.1 e he)
      simpa [hne] using ih h.2 he

/-- In an ordered registry, the set found for the kind of an entry is that entry's set. -/
theorem get_of_mem {r : Registry} (h : r.Ordered) {e : String × PendingSet} (he : e ∈ r.sets) :
    r.get e.1 = e.2 := by
  simp [get, find?_of_mem h he]

/-- A set's ids are its finite set, sorted. -/
theorem ids_eq_sort (s : PendingSet) : s.ids = s.ids.toFinset.sort (· ≤ ·) :=
  ((List.toFinset_sort _ s.nodup).2 (s.sorted.imp le_of_lt)).symm

/-- The sizes of an ordered registry are the spec's: each kind asked for, in increasing order,
with the cardinality of its set. -/
theorem sizes_eq {r : Registry} (h : r.Ordered) :
    r.sizes = (r.view.kinds.sort (· ≤ ·)).map fun k => (k, (r.view.sets k).card) := by
  have hkeys : (r.sets.map Prod.fst).Pairwise (· < ·) := List.pairwise_map.2 h
  have hsort : (r.sets.map Prod.fst).toFinset.sort (· ≤ ·) = r.sets.map Prod.fst :=
    (List.toFinset_sort _ (hkeys.imp ne_of_lt)).2 (hkeys.imp le_of_lt)
  simp only [view, hsort, sizes, List.map_map]
  refine List.map_congr_left fun e he => ?_
  simp [get_of_mem h he, PendingSet.size, List.toFinset_card_of_nodup e.2.nodup]

/-- One call on an ordered registry answers as the spec does on its view, leaves the spec's state
as its view, and keeps the registry ordered. -/
theorem call_refines {r : Registry} (h : r.Ordered) (c : TrackerCall) :
    (r.call c).1 = (r.view.call c).1 ∧ (r.call c).2.view = (r.view.call c).2 ∧ (r.call c).2.Ordered := by
  have htrack : ∀ k ids, ((r.get k).track ids).ids.toFinset =
      (r.get k).ids.toFinset ∪ (ids.filter (· ≠ "")).toFinset := fun k ids => by
    ext x
    simp [PendingSet.mem_track]
  cases c with
  | track k ids | restore k ids =>
    refine ⟨rfl, ?_, ordered_put h _ _⟩
    simp only [call, track, view_put, TrackerSpec.call, htrack]
    rfl
  | drain k =>
    refine ⟨?_, ?_, ordered_put h _ _⟩
    · simp only [call, drain_fst, TrackerSpec.call, TrackerAnswer.ids.injEq]
      exact ids_eq_sort _
    · simp only [call, drain, view_put, TrackerSpec.call, PendingSet.ids_empty, List.toFinset_nil]
  | contains k x =>
    refine ⟨?_, ?_, ordered_put h _ _⟩
    · simp [call, TrackerSpec.call, view, PendingSet.contains, List.contains_eq_mem]
    · simp only [call, touch, view_put, TrackerSpec.call]
      rfl
  | len k =>
    refine ⟨?_, ?_, ordered_put h _ _⟩
    · simp [call, TrackerSpec.call, view, size, PendingSet.size,
        List.toFinset_card_of_nodup (r.get k).nodup]
    · simp only [call, touch, view_put, TrackerSpec.call]
      rfl
  | sizes =>
    refine ⟨?_, rfl, h⟩
    simp only [call, TrackerSpec.call, sizes_eq h]

/-- Every run of calls on an ordered registry answers as the spec does on its view, and ends in
an ordered registry whose view is the spec's final state. -/
theorem runCalls_refines {r : Registry} (h : r.Ordered) (cs : List TrackerCall) :
    (runCalls call r cs).1 = (runCalls TrackerSpec.call r.view cs).1 ∧
      (runCalls call r cs).2.view = (runCalls TrackerSpec.call r.view cs).2 ∧
      (runCalls call r cs).2.Ordered := by
  induction cs generalizing r with
  | nil => exact ⟨rfl, rfl, h⟩
  | cons c cs ih =>
    obtain ⟨ha, hv, ho⟩ := call_refines h c
    obtain ⟨ha', hv', ho'⟩ := ih ho
    rw [runCalls_cons, runCalls_cons, ha, ← hv]
    exact ⟨by rw [ha'], hv', ho'⟩

end Registry

/-- The pending trackers, reached through the registry from its empty start, are finite sets of
non-empty ids, one per kind. Every sequence of calls is answered as `TrackerSpec` answers it and
leaves the registry seen as the spec's state; every set holds only non-empty ids; the kinds the
registry knows are exactly those the calls named (so the sizes list each of them with its count);
and an id given to a kind for the last time, at the call `c`, is handed out by exactly one later
drain of that kind unless it is still held at the end. -/
theorem trackers_are_sets (cs : List TrackerCall) :
    (runCalls Registry.call {} cs).1 = (runCalls TrackerSpec.call .init cs).1 ∧
      (runCalls Registry.call {} cs).2.view = (runCalls TrackerSpec.call .init cs).2 ∧
      (∀ k, "" ∉ ((runCalls Registry.call {} cs).2.get k).ids) ∧
      (runCalls Registry.call {} cs).2.view.kinds = (cs.filterMap TrackerCall.kind?).toFinset ∧
      ∀ pre c post k x, cs = pre ++ c :: post → x ∈ c.added k → x ≠ "" →
        (∀ c' ∈ post, x ∉ c'.added k) →
        handedOut k x post ((runCalls Registry.call {} cs).1.drop (pre.length + 1)) +
          (if x ∈ ((runCalls Registry.call {} cs).2.get k).ids then 1 else 0) = 1 := by
  obtain ⟨ha, hv, -⟩ := Registry.runCalls_refines Registry.ordered_empty cs
  rw [Registry.view_empty] at ha hv
  refine ⟨ha, hv, fun k hk => ?_, ?_, ?_⟩
  · have hspec := TrackerSpec.runCalls_empty_not_mem .init cs (fun _ => by simp [TrackerSpec.init]) k
    rw [← hv] at hspec
    exact hspec (by simpa [Registry.view] using hk)
  · rw [hv]
    ext k
    simp [TrackerSpec.mem_runCalls_kinds, TrackerSpec.init]
  · rintro pre c post k x rfl hxc hne hpost
    -- split the run after `c`: there the registry holds `x`, and `handedOut_add_held` counts the rest
    obtain ⟨-, hv1, ho1⟩ := Registry.runCalls_refines Registry.ordered_empty (pre ++ [c])
    set r1 := (runCalls Registry.call {} (pre ++ [c])).2 with hr1
    obtain ⟨ha2, hv2, -⟩ := Registry.runCalls_refines ho1 post
    have hheld : x ∈ r1.view.sets k := by
      rw [hv1, Registry.view_empty, runCalls_append]
      exact TrackerSpec.mem_call_of_mem_added _ c hxc hne
    have hlaw := TrackerSpec.handedOut_add_held r1.view post hpost
    rw [if_pos hheld, ← ha2] at hlaw
    have hlen : (runCalls Registry.call {} (pre ++ [c])).1.length = pre.length + 1 := by
      simp [runCalls_fst_length]
    have hmem : x ∈ ((runCalls Registry.call r1 post).2.get k).ids ↔
        x ∈ (runCalls TrackerSpec.call r1.view post).2.sets k := by
      rw [← hv2]
      simp [Registry.view]
    rw [show pre ++ c :: post = (pre ++ [c]) ++ post by simp, runCalls_append, ← hr1,
      List.drop_left' hlen, if_congr hmem rfl rfl]
    exact hlaw

/-- Two ids tracked at once, one of them empty, then one drain: the drain hands out `a` once and
the set no longer holds it. -/
theorem trackers_hand_out_once :
    "a" ∈ (TrackerCall.track "native" ["b", "a", ""]).added "native" ∧
      handedOut "native" "a" [.drain "native"]
          ((runCalls Registry.call {} [.track "native" ["b", "a", ""], .drain "native"]).1.drop 1) +
        (if "a" ∈ ((runCalls Registry.call {}
          [.track "native" ["b", "a", ""], .drain "native"]).2.get "native").ids then 1 else 0) = 1 :=
  ⟨by decide, (trackers_are_sets [.track "native" ["b", "a", ""], .drain "native"]).2.2.2.2 []
    (.track "native" ["b", "a", ""]) [.drain "native"] "native" "a" rfl (by decide) (by decide)
    (by decide)⟩

example : (runCalls Registry.call {} [.track "native" ["b", "a", "", "b"], .len "native", .drain "native",
    .sizes]).1 = [.none, .count 2, .ids ["a", "b"], .sizes [("native", 0)]] := by decide

end SwapArchive
