import Mathlib
import SwapArchive.Swap.Asset

/-!
# Asset names cut at the first two delimiters

An identifier is cut at the first character of its style's delimiter set (`Asset.delimiters`):
the piece before it, the delimiter, and the rest (`Asset.splitFirst_append`). The name is the
piece before, then `.` in the pool style or the delimiter itself in the trade style
(`Asset.joiner`), then the rest up to its own first delimiter; an identifier with no delimiter of
the style has no name. So a name is its own name, and an identifier whose delimiters all lie in
`./~` has for pool name its trade name with the delimiter written as `.`.
-/

namespace SwapArchive

namespace Asset

set_option autoImplicit false

/-- The delimiters of a style: `./~` for `trade`, the pool delimiters for every other. -/
def delimiters (style : String) : List Char :=
  if style = "trade" then tradeDelimiters else poolDelimiters

/-- What a style writes between the two pieces of a name cut at the delimiter `d`. -/
def joiner (style : String) (d : Char) : Char := if style = "trade" then d else '.'

/-- A name with every trade delimiter written as `.`. -/
def dotted (n : String) : String :=
  String.ofList (n.toList.map fun c => if c ∈ tradeDelimiters then '.' else c)

section Split

variable (D : List Char)

/-- Cutting `c :: cs`: at `c` if it is a delimiter, else where `cs` is cut, with `c` in front. -/
theorem splitFirst_cons (c : Char) (cs : List Char) :
    splitFirst D (c :: cs) =
      if c ∈ D then some ([], c, cs) else (splitFirst D cs).map (Prod.map (c :: ·) id) := by
  unfold splitFirst
  rw [List.findIdx?_cons]
  by_cases hc : c ∈ D
  · simp [hc]
  · simp only [hc, decide_false, Bool.false_eq_true, if_false]
    rcases hi : cs.findIdx? (· ∈ D) with _ | i
    · simp
    · rcases hd : cs[i]? with _ | d <;> simp [hd, List.take_succ_cons, List.drop_succ_cons]

/-- A text without a delimiter is not cut. -/
theorem splitFirst_eq_none_iff {cs : List Char} : splitFirst D cs = none ↔ ∀ c ∈ cs, c ∉ D := by
  induction cs with
  | nil => simp [splitFirst]
  | cons c cs ih =>
    rw [splitFirst_cons]
    by_cases hc : c ∈ D <;> simp [hc, ih]

/-- A text is cut at its first delimiter. -/
theorem splitFirst_append {a : List Char} {d : Char} (r : List Char) (ha : ∀ c ∈ a, c ∉ D)
    (hd : d ∈ D) : splitFirst D (a ++ d :: r) = some (a, d, r) := by
  induction a with
  | nil => simp [splitFirst_cons, hd]
  | cons c a ih =>
    have hc : c ∉ D := ha c (by simp)
    rw [List.cons_append, splitFirst_cons, if_neg hc, ih fun x hx => ha x (by simp [hx])]
    rfl

/-- The cut pieces put back give the text: the first is free of delimiters, the cut is at one. -/
theorem splitFirst_eq_some {cs a r : List Char} {d : Char} (h : splitFirst D cs = some (a, d, r)) :
    cs = a ++ d :: r ∧ (∀ c ∈ a, c ∉ D) ∧ d ∈ D := by
  induction cs generalizing a with
  | nil => simp [splitFirst] at h
  | cons c cs ih =>
    rw [splitFirst_cons] at h
    by_cases hc : c ∈ D
    · simp only [hc, if_true, Option.some.injEq, Prod.mk.injEq] at h
      obtain ⟨rfl, rfl, rfl⟩ := h
      simp [hc]
    · simp only [hc, if_false, Option.map_eq_some_iff] at h
      obtain ⟨⟨a', d', r'⟩, hcut, hpieces⟩ := h
      simp only [Prod.map, id, Prod.mk.injEq] at hpieces
      obtain ⟨rfl, rfl, rfl⟩ := hpieces
      obtain ⟨rfl, ha', hd⟩ := ih hcut
      refine ⟨rfl, ?_, hd⟩
      intro x hx
      rcases List.mem_cons.1 hx with rfl | hx
      · exact hc
      · exact ha' x hx

/-- The piece a text keeps up to its first delimiter is the longest prefix free of them. -/
theorem takeWhile_of_splitFirst {r b r' : List Char} {d : Char}
    (h : splitFirst D r = some (b, d, r')) : r.takeWhile (fun c => decide (c ∉ D)) = b := by
  obtain ⟨rfl, hb, hd⟩ := splitFirst_eq_some D h
  rw [List.takeWhile_append_of_pos (by simpa using hb)]
  simp [hd]

/-- The first two pieces of a text cut at its first delimiter. -/
theorem firstPieces_append {a : List Char} {d : Char} (r : List Char) (ha : ∀ c ∈ a, c ∉ D)
    (hd : d ∈ D) : firstPieces D (a ++ d :: r) = some (a, d, r.takeWhile fun c => decide (c ∉ D)) := by
  simp only [firstPieces, splitFirst_append D r ha hd]
  rcases hr : splitFirst D r with _ | ⟨b, d', r'⟩
  · rw [List.takeWhile_eq_self_iff.2 (by simpa using (splitFirst_eq_none_iff D).1 hr)]
  · rw [takeWhile_of_splitFirst D hr]

/-- A text without a delimiter has no pieces. -/
theorem firstPieces_eq_none_iff {cs : List Char} : firstPieces D cs = none ↔ ∀ c ∈ cs, c ∉ D := by
  rw [← splitFirst_eq_none_iff]
  unfold firstPieces
  rcases splitFirst D cs with _ | ⟨a, d, r⟩ <;> simp

end Split

/-- The name in a style is the first two pieces cut at the style's delimiters, joined as the
style joins them. -/
theorem name_eq (p style : String) :
    name p style = (firstPieces (delimiters style) p.toList).map
      fun x => String.ofList (x.1 ++ joiner style x.2.1 :: x.2.2) := by
  unfold name delimiters joiner
  by_cases hs : style = "trade" <;> simp only [hs, if_true, if_false]

/-- What a style writes between the pieces is one of its delimiters. -/
theorem joiner_mem {style : String} {d : Char} (hd : d ∈ delimiters style) :
    joiner style d ∈ delimiters style := by
  unfold joiner
  unfold delimiters at hd ⊢
  by_cases hs : style = "trade"
  · simpa [hs] using hd
  · simp [hs, poolDelimiters]

@[simp] theorem joiner_joiner (style : String) (d : Char) : joiner style (joiner style d) = joiner style d := by
  unfold joiner
  split_ifs <;> rfl

/-- The name of an identifier cut at its first delimiter `d`, after the piece `a`. -/
theorem name_append {style : String} {a : List Char} {d : Char} (r : List Char)
    (ha : ∀ c ∈ a, c ∉ delimiters style) (hd : d ∈ delimiters style) :
    name (String.ofList (a ++ d :: r)) style =
      some (String.ofList (a ++ joiner style d :: r.takeWhile fun c => decide (c ∉ delimiters style))) := by
  rw [name_eq, String.toList_ofList, firstPieces_append _ r ha hd]
  rfl

/-- An identifier has no name exactly when it holds no delimiter of the style. -/
theorem name_eq_none_iff (p style : String) :
    name p style = none ↔ ∀ c ∈ p.toList, c ∉ delimiters style := by
  rw [name_eq, Option.map_eq_none_iff, firstPieces_eq_none_iff]

/-- Every name is its own name. -/
theorem name_name {p style n : String} (h : name p style = some n) : name n style = some n := by
  set D := delimiters style
  rcases hcut : splitFirst D p.toList with _ | ⟨a, d, r⟩
  · rw [(name_eq_none_iff p style).2 ((splitFirst_eq_none_iff D).1 hcut)] at h
    cases h
  obtain ⟨hp, ha, hd⟩ := splitFirst_eq_some D hcut
  have hp' : p = String.ofList (a ++ d :: r) := by rw [← hp, String.ofList_toList]
  rw [hp', name_append r ha hd, Option.some.injEq] at h
  subst h
  have hb : ∀ c ∈ r.takeWhile (fun c => decide (c ∉ D)), c ∉ D := fun c hc => by
    simpa using List.mem_takeWhile_imp hc
  rw [name_append _ ha (joiner_mem hd), joiner_joiner, List.takeWhile_eq_self_iff.2 (by simpa using hb)]

/-- Two tests that agree on a text's characters keep the same prefix of it. -/
theorem takeWhile_congr {p q : Char → Bool} {cs : List Char} (h : ∀ c ∈ cs, p c = q c) :
    cs.takeWhile p = cs.takeWhile q := by
  induction cs with
  | nil => rfl
  | cons c cs ih =>
    simp only [List.takeWhile_cons, h c (by simp), ih fun x hx => h x (by simp [hx])]

/-- Where every delimiter of an identifier is one of `./~`, both styles cut it at the same
places. -/
theorem delimiters_pool_iff {cs : List Char} (hcs : ∀ c ∈ cs, c ∈ poolDelimiters → c ∈ tradeDelimiters)
    {c : Char} (hc : c ∈ cs) : c ∈ delimiters "pool" ↔ c ∈ delimiters "trade" := by
  have hsub : ∀ x ∈ tradeDelimiters, x ∈ poolDelimiters := by simp [tradeDelimiters, poolDelimiters]
  simp only [delimiters, show ("pool" = "trade") = False by decide, if_false, if_true]
  exact ⟨hcs c hc, hsub c⟩

theorem dotted_ofList_append {a b : List Char} {d : Char} (ha : ∀ c ∈ a, c ∉ tradeDelimiters)
    (hb : ∀ c ∈ b, c ∉ tradeDelimiters) (hd : d ∈ tradeDelimiters) :
    dotted (String.ofList (a ++ d :: b)) = String.ofList (a ++ '.' :: b) := by
  have hkeep : ∀ xs : List Char, (∀ c ∈ xs, c ∉ tradeDelimiters) →
      xs.map (fun c => if c ∈ tradeDelimiters then '.' else c) = xs := fun xs hxs => by
    rw [List.map_congr_left (fun c hc => if_neg (hxs c hc)), List.map_id']
  simp [dotted, hkeep a ha, hkeep b hb, hd]

/-- The pool name of an identifier whose delimiters are all among `./~` is its trade name with
the delimiter written as `.`. -/
theorem pool_name_dotted {p : String} (hp : ∀ c ∈ p.toList, c ∈ poolDelimiters → c ∈ tradeDelimiters) :
    name p "pool" = (name p "trade").map dotted := by
  rcases hcut : splitFirst (delimiters "trade") p.toList with _ | ⟨a, d, r⟩
  · have hnone := (splitFirst_eq_none_iff _).1 hcut
    rw [(name_eq_none_iff p "trade").2 hnone, (name_eq_none_iff p "pool").2 fun c hc =>
      (delimiters_pool_iff hp hc).not.2 (hnone c hc)]
    rfl
  obtain ⟨hpr, ha, hd⟩ := splitFirst_eq_some _ hcut
  have hmem : ∀ c ∈ a ++ d :: r, c ∈ p.toList := fun c hc => hpr ▸ hc
  have hsame : ∀ c ∈ a ++ d :: r, c ∈ delimiters "pool" ↔ c ∈ delimiters "trade" :=
    fun c hc => delimiters_pool_iff hp (hmem c hc)
  have hq : p = String.ofList (a ++ d :: r) := by rw [← hpr, String.ofList_toList]
  have hr : r.takeWhile (fun c => decide (c ∉ delimiters "pool")) =
      r.takeWhile (fun c => decide (c ∉ delimiters "trade")) :=
    takeWhile_congr fun c hc => by simp [hsame c (by simp [hc])]
  rw [hq, name_append r (fun c hc => (hsame c (by simp [hc])).not.2 (ha c hc))
      ((hsame d (by simp)).2 hd), name_append r ha hd, hr]
  simp only [Option.map_some, joiner, show ("pool" = "trade") = False by decide, if_false, if_true]
  have hb : ∀ c ∈ r.takeWhile (fun c => decide (c ∉ delimiters "trade")), c ∉ tradeDelimiters :=
    fun c hc => by simpa [delimiters] using List.mem_takeWhile_imp hc
  rw [dotted_ofList_append (by simpa [delimiters] using ha) hb (by simpa [delimiters] using hd)]

/-- An identifier has a name exactly when it holds a delimiter of the style. The name is the text
before the first delimiter, then `.` in the pool style or that delimiter in the trade style, then
the text up to the second delimiter or the end. So a name is its own name, and an identifier
whose delimiters are all among `./~` has for pool name its trade name with the delimiter written
as `.`. -/
theorem name_cuts_at_first_delimiters (style p : String) :
    (name p style = none ↔ ∀ c ∈ p.toList, c ∉ delimiters style) ∧
    (∀ a d r, p.toList = a ++ d :: r → (∀ c ∈ a, c ∉ delimiters style) → d ∈ delimiters style →
      name p style =
        some (String.ofList (a ++ joiner style d :: r.takeWhile fun c => decide (c ∉ delimiters style)))) ∧
    (∀ n, name p style = some n → name n style = some n) ∧
    ((∀ c ∈ p.toList, c ∈ poolDelimiters → c ∈ tradeDelimiters) →
      name p "pool" = (name p "trade").map dotted) := by
  refine ⟨name_eq_none_iff p style, ?_, fun n h => name_name h, pool_name_dotted⟩
  intro a d r hp ha hd
  rw [← name_append r ha hd, ← hp, String.ofList_toList]

example : name "ETH.USDC-0XA0B8" "pool" = some "ETH.USDC" ∧ name "BTC~BTC" "trade" = some "BTC~BTC" := by
  decide +kernel

end Asset

end SwapArchive
