import Mathlib
import SwapArchive.Monitor.Breaker

/-!
# A cancelled caller and the breaker

`Guard.call` counts a call whose failure is, or wraps, a cancellation as a success; the breaker a
call leaves depends only on the breaker before it, on whether the call counts as a success and on
when it is settled (`Guard.call_breaker`). Counting a cancelled call as a success is not leaving it
out: it never opens a breaker, but it resets a closed breaker's failures in a row and counts
toward closing a half-open one. Leaving it out changes nothing where a success leaves the breaker
untouched (`Breaker.untouchedAt`): where the breaker refuses the call, or is closed and in force
with no failures in a row. Breakers apart only in their successes act alike (`Breaker.Alike`), and
by induction over the calls the state with and without the cancelled ones is the same.
-/

namespace SwapArchive

namespace CallEnd

/-- Did the call fail because its caller gave up, however the failure was wrapped? -/
def cancelled : CallEnd → Bool
  | .callerGone => true
  | .failed f => f.reachesCanceled
  | _ => false

/-- Does the breaker count a call that ends so as a success? -/
def countsAsSuccess : CallEnd → Bool
  | .done => true
  | .failed f => f.reachesCanceled
  | .callerGone => true
  | .hung => false

/-- When the breaker hears how a call started at `now` went, under `requestTimeout`: a hung call
is settled when the request timeout ends it. -/
def settledAt (requestTimeout now : Int) : CallEnd → Int
  | .hung => if requestTimeout > 0 then now + requestTimeout else now
  | _ => now

/-- The end of a call as the breaker sees it: a cancelled call as one that finished. -/
def asSeen (e : CallEnd) : CallEnd := if e.cancelled then .done else e

/-- A cancelled call counts as a success, settled when it started. -/
theorem cancelled_counts (e : CallEnd) (h : e.cancelled = true) (requestTimeout now : Int) :
    e.countsAsSuccess = true ∧ e.settledAt requestTimeout now = now := by
  cases e <;> simp_all [cancelled, countsAsSuccess, settledAt]

theorem countsAsSuccess_asSeen (e : CallEnd) : e.asSeen.countsAsSuccess = e.countsAsSuccess := by
  unfold asSeen
  split
  · exact ((cancelled_counts e ‹_› 0 0).1).symm
  · rfl

theorem settledAt_asSeen (requestTimeout now : Int) (e : CallEnd) :
    e.asSeen.settledAt requestTimeout now = e.settledAt requestTimeout now := by
  unfold asSeen
  split
  · exact ((cancelled_counts e ‹_› requestTimeout now).2).symm
  · rfl

end CallEnd

/-- A call made through a guard: when it starts, the endpoint, and how its body ends. -/
structure TimedCall where
  start : Int
  endpoint : String
  body : CallEnd

namespace TimedCall

/-- The call as the breaker sees it. -/
def asSeen (c : TimedCall) : TimedCall := { c with body := c.body.asSeen }

end TimedCall

namespace Breaker

variable (b : Breaker) (now : Int)

@[simp] theorem renew_state : (b.renew now).state = b.state := rfl

/-- A breaker looked at is open only if it was open. -/
theorem refresh_open (h : (b.refresh now).1.state = .open_) : b.state = .open_ := by
  unfold refresh at h
  split at h
  · split at h <;> simpa using h
  · split at h
    · unfold setState at h
      split at h <;> simp_all
    · exact h
  · exact h

/-- A call let through finds the breaker not open. -/
theorem letThrough_ok_state {gen : Nat} {b' : Breaker} {ch : Option BreakerState}
    (h : b.letThrough now = (.ok gen, b', ch)) : b'.state ≠ .open_ := by
  unfold letThrough at h
  dsimp only at h
  split at h
  · cases h
  split at h
  · cases h
  cases h
  assumption

/-- A refused call leaves the breaker as looking at it did. -/
theorem letThrough_error {f : Failure} {b' : Breaker} {ch : Option BreakerState}
    (h : b.letThrough now = (.error f, b', ch)) : b' = (b.refresh now).1 := by
  unfold letThrough at h
  dsimp only at h
  split at h
  · cases h
    rfl
  split at h
  · cases h
    rfl
  cases h

/-- A success never opens a breaker that was not open. -/
theorem settle_success_ne_open {gen : Nat} (hb : b.state ≠ .open_) :
    (b.settle gen true now).1.state ≠ .open_ := by
  have hr : (b.refresh now).1.state ≠ .open_ := fun h => hb (refresh_open b now h)
  unfold settle
  rcases hrf : b.refresh now with ⟨b₁, ch⟩
  rw [hrf] at hr
  dsimp only
  split
  · exact hr
  rw [if_pos rfl]
  split
  · exact hr
  · split
    · unfold setState
      split <;> simp_all
    · exact hr
  · exact absurd ‹b₁.state = .open_› hr

/-! ### Breakers that act alike

A closed breaker never reads its counts of successes: it lets every call through and opens on
failures in a row. Two breakers apart only in those counts, while closed, therefore go on alike
under the same calls (`Alike.refresh`, `Alike.letThrough`, `Alike.settle`), until they leave
closed, when both clear their counts and become one.
-/

/-- The breaker with other counts of successes: calls let through, successes, successes in a row. -/
def withSuccesses (b : Breaker) (requests successes inRow : Nat) : Breaker :=
  { b with counts := { b.counts with requests := requests, successes := successes, successesInRow := inRow } }

@[simp] theorem withSuccesses_state (r s i : Nat) : (b.withSuccesses r s i).state = b.state := rfl

@[simp] theorem withSuccesses_expiry (r s i : Nat) : (b.withSuccesses r s i).expiry = b.expiry := rfl

@[simp] theorem withSuccesses_withSuccesses (r s i r' s' i' : Nat) :
    (b.withSuccesses r s i).withSuccesses r' s' i' = b.withSuccesses r' s' i' := rfl

/-- Renewing clears every count, those of successes with the rest. -/
@[simp] theorem renew_withSuccesses (r s i : Nat) : (b.withSuccesses r s i).renew now = b.renew now := rfl

/-- Two breakers that act alike from here on: the same, or two closed ones apart only in their
counts of successes. -/
def Alike (b b' : Breaker) : Prop := b = b' ∨ (b.state = .closed ∧ ∃ r s i, b' = b.withSuccesses r s i)

theorem Alike.refl (b : Breaker) : Alike b b := .inl rfl

theorem Alike.state_eq {b b' : Breaker} (h : Alike b b') : b.state = b'.state := by
  rcases h with rfl | ⟨-, r, s, i, rfl⟩ <;> rfl

theorem Alike.trans {b b' b'' : Breaker} (h : Alike b b') (h' : Alike b' b'') : Alike b b'' := by
  rcases h with rfl | ⟨hc, r, s, i, rfl⟩
  · exact h'
  rcases h' with rfl | ⟨-, r', s', i', rfl⟩
  · exact .inr ⟨hc, r, s, i, rfl⟩
  · exact .inr ⟨hc, r', s', i', rfl⟩

/-- Looking at a closed breaker renews it when its interval has lapsed, and changes nothing else. -/
theorem refresh_of_closed (hc : b.state = .closed) :
    b.refresh now = (if b.expiry.any (· < now) then b.renew now else b, none) := by
  unfold refresh
  rw [hc]
  rcases b.expiry with _ | e
  · rfl
  · by_cases he : e < now <;> simp [he]

/-- A call let through a closed breaker that looking at left as it was. -/
theorem letThrough_of_closed (hc : b.state = .closed) (hr : b.refresh now = (b, none)) :
    b.letThrough now = (.ok b.generation, b.withSuccesses (b.counts.requests + 1) b.counts.successes
      b.counts.successesInRow, none) := by
  have hopen : b.state ≠ .open_ := by rw [hc]; decide
  have hhalf : ¬(b.state = .halfOpen ∧ b.counts.requests ≥ b.maxRequests) := by rw [hc]; simp
  unfold letThrough
  rw [hr]
  simp only [hopen, hhalf, if_false]
  rfl

/-- How a closed breaker in force counts a call of its generation: a success clears the failures in
a row, a failure adds one and opens the breaker at the threshold. -/
theorem settle_of_closed {gen : Nat} {success : Bool} (hc : b.state = .closed) (hr : b.refresh now = (b, none)) :
    (b.settle gen success now).1 =
      if b.generation ≠ gen then b
      else if success then
        { b with counts := { b.counts with successes := b.counts.successes + 1
                                           successesInRow := b.counts.successesInRow + 1
                                           failuresInRow := 0 } }
      else if b.counts.failuresInRow + 1 ≥ b.tripAt then
        (renew { b with state := .open_
                        counts := { b.counts with failures := b.counts.failures + 1
                                                  failuresInRow := b.counts.failuresInRow + 1
                                                  successesInRow := 0 } } now)
      else
        { b with counts := { b.counts with failures := b.counts.failures + 1
                                           failuresInRow := b.counts.failuresInRow + 1
                                           successesInRow := 0 } } := by
  unfold settle
  rw [hr]
  dsimp only
  split
  · rfl
  cases success
  · simp only [hc, Bool.false_eq_true, if_false]
    split
    · simp [setState]
    · rfl
  · simp [hc]

/-- Looking at breakers that act alike keeps them alike, and reports the same change. -/
theorem Alike.refresh {b b' : Breaker} (h : Alike b b') (now : Int) :
    Alike (b.refresh now).1 (b'.refresh now).1 ∧ (b.refresh now).2 = (b'.refresh now).2 := by
  rcases h with rfl | ⟨hc, r, s, i, rfl⟩
  · exact ⟨.refl _, rfl⟩
  rw [refresh_of_closed b now hc, refresh_of_closed (b.withSuccesses r s i) now hc, withSuccesses_expiry]
  refine ⟨?_, rfl⟩
  by_cases hl : b.expiry.any (· < now) = true
  · rw [if_pos hl, if_pos hl, renew_withSuccesses]
    exact .refl _
  · rw [if_neg hl, if_neg hl]
    exact .inr ⟨hc, r, s, i, rfl⟩

/-- Lapsed alike breakers are looked at into one breaker. -/
theorem refresh_withSuccesses_of_lapsed (hc : b.state = .closed) (hl : b.expiry.any (· < now) = true)
    (r s i : Nat) : (b.withSuccesses r s i).refresh now = b.refresh now := by
  rw [refresh_of_closed b now hc, refresh_of_closed (b.withSuccesses r s i) now hc, withSuccesses_expiry,
    if_pos hl, if_pos hl, renew_withSuccesses]

/-- A closed breaker in force is left as it is by looking at it. -/
theorem refresh_of_in_force (hc : b.state = .closed) (hl : ¬b.expiry.any (· < now) = true) :
    b.refresh now = (b, none) := by
  rw [refresh_of_closed b now hc, if_neg hl]

/-- Breakers that act alike let the same calls through, in the same generation, and stay alike. -/
theorem Alike.letThrough {b b' : Breaker} (h : Alike b b') (now : Int) :
    (b.letThrough now).1 = (b'.letThrough now).1 ∧ Alike (b.letThrough now).2.1 (b'.letThrough now).2.1 := by
  rcases h with rfl | ⟨hc, r, s, i, rfl⟩
  · exact ⟨rfl, .refl _⟩
  by_cases hl : b.expiry.any (· < now) = true
  · have hlt : (b.withSuccesses r s i).letThrough now = b.letThrough now := by
      unfold Breaker.letThrough
      rw [refresh_withSuccesses_of_lapsed b now hc hl]
    rw [hlt]
    exact ⟨rfl, .refl _⟩
  · rw [letThrough_of_closed b now hc (refresh_of_in_force b now hc hl),
      letThrough_of_closed (b.withSuccesses r s i) now hc (refresh_of_in_force _ now hc (by simpa using hl))]
    exact ⟨rfl, .inr ⟨hc, _, _, _, rfl⟩⟩

/-- Breakers that act alike count a call alike. -/
theorem Alike.settle {b b' : Breaker} (h : Alike b b') (gen : Nat) (success : Bool) (now : Int) :
    Alike (b.settle gen success now).1 (b'.settle gen success now).1 := by
  rcases h with rfl | ⟨hc, r, s, i, rfl⟩
  · exact .refl _
  by_cases hl : b.expiry.any (· < now) = true
  · have hst : (b.withSuccesses r s i).settle gen success now = b.settle gen success now := by
      unfold Breaker.settle
      rw [refresh_withSuccesses_of_lapsed b now hc hl]
    rw [hst]
    exact .refl _
  · rw [settle_of_closed b now hc (refresh_of_in_force b now hc hl),
      settle_of_closed (b.withSuccesses r s i) now hc (refresh_of_in_force _ now hc (by simpa using hl))]
    by_cases hg : b.generation ≠ gen
    · rw [if_pos hg, if_pos (show (b.withSuccesses r s i).generation ≠ gen from hg)]
      exact .inr ⟨hc, r, s, i, rfl⟩
    rw [if_neg hg, if_neg (show ¬(b.withSuccesses r s i).generation ≠ gen from hg)]
    cases success
    · rw [if_neg Bool.false_ne_true, if_neg Bool.false_ne_true]
      by_cases ht : b.counts.failuresInRow + 1 ≥ b.tripAt
      · rw [if_pos ht, if_pos (show (b.withSuccesses r s i).counts.failuresInRow + 1 ≥
          (b.withSuccesses r s i).tripAt from ht)]
        exact .refl _
      · rw [if_neg ht, if_neg (show ¬(b.withSuccesses r s i).counts.failuresInRow + 1 ≥
          (b.withSuccesses r s i).tripAt from ht)]
        exact .inr ⟨hc, r, s, 0, rfl⟩
    · rw [if_pos rfl, if_pos rfl]
      exact .inr ⟨hc, r, s + 1, i + 1, rfl⟩

/-- Would a success at `now` leave the breaker as it is, but for its counts of successes? Looking at
the breaker changes nothing, and either the breaker refuses the call, or it is closed with no
failures in a row. -/
def untouchedAt (b : Breaker) (now : Int) : Bool :=
  decide ((b.refresh now).1 = b) &&
    match (b.letThrough now).1 with
    | .error _ => true
    | .ok _ => decide (b.state = .closed ∧ b.counts.failuresInRow = 0)

/-- Breakers that act alike, the other way round. -/
theorem Alike.symm {b b' : Breaker} (h : Alike b b') : Alike b' b := by
  rcases h with rfl | ⟨hc, r, s, i, rfl⟩
  · exact .refl _
  · exact .inr ⟨hc, b.counts.requests, b.counts.successes, b.counts.successesInRow, rfl⟩

/-- Looking at an untouched breaker leaves it as it is. -/
theorem refresh_of_untouched (hu : b.untouchedAt now = true) : (b.refresh now).1 = b := by
  unfold untouchedAt at hu
  rw [Bool.and_eq_true, decide_eq_true_eq] at hu
  exact hu.1

/-- A closed breaker that looking at leaves as it is, is in force. -/
theorem in_force_of_refresh (hc : b.state = .closed) (hr : (b.refresh now).1 = b) :
    ¬b.expiry.any (· < now) = true := by
  intro hl
  rw [refresh_of_closed b now hc, if_pos hl] at hr
  have hgen := congrArg Breaker.generation hr
  simp [renew] at hgen

end Breaker

namespace Guard

/-- The breaker a call leaves: the breaker after looking, if it refused the call; else the
breaker told how the call went, when it is settled. -/
theorem call_breaker (g : Guard) (endpoint : String) (requestTimeout : Int) (e : CallEnd) (now : Int) :
    (g.call endpoint requestTimeout e now).2.1.breaker =
      match g.breaker.letThrough now with
      | (.error _, b, _) => b
      | (.ok gen, b, _) => (b.settle gen e.countsAsSuccess (e.settledAt requestTimeout now)).1 := by
  unfold call
  rcases g.breaker.letThrough now with ⟨_ | gen, b, ch⟩
  · rfl
  · cases e with
    | done => rfl
    | failed f => rfl
    | callerGone => rfl
    | hung =>
      by_cases ht : requestTimeout > 0 <;> simp [ht, CallEnd.countsAsSuccess, CallEnd.settledAt,
        Failure.reachesCanceled]

/-- A call leaves the same breaker behind from guards with the same breaker. -/
theorem call_breaker_congr {g g' : Guard} (h : g.breaker = g'.breaker) (endpoint : String)
    (requestTimeout : Int) (e : CallEnd) (now : Int) :
    (g.call endpoint requestTimeout e now).2.1.breaker = (g'.call endpoint requestTimeout e now).2.1.breaker := by
  rw [call_breaker, call_breaker, h]

/-- To the breaker, a call is the call as it sees it. -/
theorem call_breaker_asSeen (g : Guard) (endpoint : String) (requestTimeout : Int) (e : CallEnd) (now : Int) :
    (g.call endpoint requestTimeout e now).2.1.breaker =
      (g.call endpoint requestTimeout e.asSeen now).2.1.breaker := by
  rw [call_breaker, call_breaker, CallEnd.countsAsSuccess_asSeen, CallEnd.settledAt_asSeen]

/-- A call leaves alike breakers from guards whose breakers act alike. -/
theorem call_alike {g g' : Guard} (h : Breaker.Alike g.breaker g'.breaker) (endpoint : String)
    (requestTimeout : Int) (e : CallEnd) (now : Int) :
    Breaker.Alike (g.call endpoint requestTimeout e now).2.1.breaker
      (g'.call endpoint requestTimeout e now).2.1.breaker := by
  obtain ⟨hsame, halike⟩ := h.letThrough now
  rw [call_breaker, call_breaker]
  rcases hl : g.breaker.letThrough now with ⟨_ | gen, b, ch⟩ <;>
    rcases hl' : g'.breaker.letThrough now with ⟨_ | gen', b', ch'⟩ <;>
    rw [hl, hl'] at hsame halike
  · exact halike
  · cases hsame
  · cases hsame
  · cases hsame
    exact halike.settle _ _ _

/-- A cancelled call made where a success leaves the breaker untouched leaves a breaker that acts
like the one it found. -/
theorem cancelled_call_alike {g : Guard} {e : CallEnd} {now : Int} (he : e.cancelled = true)
    (hu : g.breaker.untouchedAt now = true) (endpoint : String) (requestTimeout : Int) :
    Breaker.Alike (g.call endpoint requestTimeout e now).2.1.breaker g.breaker := by
  have hr := Breaker.refresh_of_untouched g.breaker now hu
  rw [call_breaker, (CallEnd.cancelled_counts e he requestTimeout now).1,
    (CallEnd.cancelled_counts e he requestTimeout now).2]
  rcases hl : g.breaker.letThrough now with ⟨_ | gen, b, ch⟩
  · rw [Breaker.letThrough_error g.breaker now hl, hr]
    exact .refl _
  · have hcl : g.breaker.state = .closed ∧ g.breaker.counts.failuresInRow = 0 := by
      unfold Breaker.untouchedAt at hu
      rw [hl] at hu
      simp only [Bool.and_eq_true, decide_eq_true_eq] at hu
      exact hu.2
    have hforce := Breaker.in_force_of_refresh g.breaker now hcl.1 hr
    have hr' := Breaker.refresh_of_in_force g.breaker now hcl.1 hforce
    rw [Breaker.letThrough_of_closed g.breaker now hcl.1 hr'] at hl
    cases hl
    dsimp only
    let b := g.breaker.withSuccesses (g.breaker.counts.requests + 1) g.breaker.counts.successes
      g.breaker.counts.successesInRow
    rw [Breaker.settle_of_closed b now hcl.1 (Breaker.refresh_of_in_force b now hcl.1 hforce),
      if_neg (show ¬b.generation ≠ g.breaker.generation from not_not.2 rfl), if_pos rfl]
    refine .symm (.inr ⟨hcl.1, g.breaker.counts.requests + 1, g.breaker.counts.successes + 1,
      g.breaker.counts.successesInRow + 1, ?_⟩)
    rw [← hcl.2]
    rfl

/-- A cancelled call leaves a breaker open only when looking at it found it open. -/
theorem cancelled_call_open {g : Guard} {e : CallEnd} (he : e.cancelled = true) (endpoint : String)
    (requestTimeout now : Int) (h : (g.call endpoint requestTimeout e now).2.1.breaker.state = .open_) :
    (g.breaker.refresh now).1.state = .open_ := by
  rw [call_breaker] at h
  rcases hl : g.breaker.letThrough now with ⟨_ | gen, b, ch⟩ <;> rw [hl] at h
  · rwa [← Breaker.letThrough_error g.breaker now hl]
  · have hs : e.countsAsSuccess = true := by
      cases e <;> simp_all [CallEnd.cancelled, CallEnd.countsAsSuccess]
    rw [hs] at h
    exact absurd h (Breaker.settle_success_ne_open b _ (Breaker.letThrough_ok_state g.breaker now hl))

/-- A guard after `calls`, made in order, each at its own start, under `requestTimeout`. -/
def callAll (g : Guard) (requestTimeout : Int) (calls : List TimedCall) : Guard :=
  calls.foldl (fun g c => (g.call c.endpoint requestTimeout c.body c.start).2.1) g

/-- Guards with the same breaker keep the same breaker along the same calls, and along the calls
as the breaker sees them. -/
theorem callAll_breaker_asSeen {g g' : Guard} (h : g.breaker = g'.breaker) (requestTimeout : Int)
    (calls : List TimedCall) :
    (g.callAll requestTimeout calls).breaker = (g'.callAll requestTimeout (calls.map TimedCall.asSeen)).breaker := by
  induction calls generalizing g g' with
  | nil => exact h
  | cons c calls ih =>
    -- the step: the first call as the breaker sees it, from the same breaker
    apply ih
    rw [call_breaker_asSeen, call_breaker_congr h]
    rfl

/-- Does every cancelled call among `calls`, made in order from `g`, find the breaker where a
success leaves it untouched? -/
def cancelsUntouched (requestTimeout : Int) : Guard → List TimedCall → Bool
  | _, [] => true
  | g, c :: cs => (!c.body.cancelled || g.breaker.untouchedAt c.start) &&
      cancelsUntouched requestTimeout (g.call c.endpoint requestTimeout c.body c.start).2.1 cs

/-- From breakers that act alike, the calls and the same calls without the cancelled ones leave
breakers that act alike, when each cancelled call finds the breaker untouched. -/
theorem callAll_alike {g g' : Guard} (h : Breaker.Alike g.breaker g'.breaker) (requestTimeout : Int)
    (calls : List TimedCall) (hu : cancelsUntouched requestTimeout g calls = true) :
    Breaker.Alike (g.callAll requestTimeout calls).breaker
      (g'.callAll requestTimeout (calls.filter fun c => !c.body.cancelled)).breaker := by
  induction calls generalizing g g' with
  | nil => exact h
  | cons c calls ih =>
    simp only [cancelsUntouched, Bool.and_eq_true, Bool.or_eq_true, Bool.not_eq_true'] at hu
    obtain ⟨hc, hrest⟩ := hu
    by_cases hcan : c.body.cancelled = true
    · rw [List.filter_cons_of_neg (by simp [hcan])]
      exact ih ((cancelled_call_alike hcan (hc.resolve_left (by simp [hcan])) _ _).trans h) hrest
    · rw [List.filter_cons_of_pos (by simpa using hcan)]
      exact ih (call_alike h _ _ _ _) hrest

end Guard

/-- A cancelled call leaves the breaker's state as if it had not been made, over any calls around
it, as long as each cancelled call finds the breaker where a success leaves it untouched: refusing
it, or closed and in force with no failures in a row. Every later look then finds the same state
too. -/
theorem cancelled_calls_transparent_when_untouched (g : Guard) (requestTimeout : Int) (calls : List TimedCall)
    (hu : Guard.cancelsUntouched requestTimeout g calls = true) :
    (g.callAll requestTimeout calls).breaker.state =
        (g.callAll requestTimeout (calls.filter fun c => !c.body.cancelled)).breaker.state ∧
    ∀ now, ((g.callAll requestTimeout calls).breaker.refresh now).1.state =
      ((g.callAll requestTimeout (calls.filter fun c => !c.body.cancelled)).breaker.refresh now).1.state := by
  have h := Guard.callAll_alike (.refl g.breaker) requestTimeout calls hu
  exact ⟨h.state_eq, fun now => (h.refresh now).1.state_eq⟩

/-- A Midgard breaker set to open at two failures in a row, made at time zero. -/
def twoStrikeGuard : Guard := Guard.create "midgard_native" ⟨1, 0, 60 * BreakerConfig.second, 2⟩ 0

/-- A failed call at time zero. -/
def boomAtZero : TimedCall := ⟨0, "fetch_latest", .failed (.plain "boom")⟩

/-- A call at time zero whose caller had given up. -/
def goneAtZero : TimedCall := ⟨0, "fetch_latest", .callerGone⟩

/-- A cancellation on the fresh breaker, then two failures: the breaker opens with or without the
cancelled call. -/
theorem cancelled_first_is_transparent :
    Guard.cancelsUntouched (180 * BreakerConfig.second) twoStrikeGuard [goneAtZero, boomAtZero, boomAtZero] = true ∧
    (twoStrikeGuard.callAll (180 * BreakerConfig.second) [goneAtZero, boomAtZero, boomAtZero]).breaker.state =
      (twoStrikeGuard.callAll (180 * BreakerConfig.second)
        ([goneAtZero, boomAtZero, boomAtZero].filter fun c => !c.body.cancelled)).breaker.state := by
  have hu : Guard.cancelsUntouched (180 * BreakerConfig.second) twoStrikeGuard
      [goneAtZero, boomAtZero, boomAtZero] = true := by decide +kernel
  exact ⟨hu, (cancelled_calls_transparent_when_untouched twoStrikeGuard _ _ hu).1⟩

/-- Failure, cancellation, failure leaves the breaker closed; the two failures alone open it. -/
theorem cancelled_call_resets_failures_in_a_row :
    (twoStrikeGuard.callAll (180 * BreakerConfig.second) [boomAtZero, goneAtZero, boomAtZero]).breaker.state =
      .closed ∧
    (twoStrikeGuard.callAll (180 * BreakerConfig.second)
      ([boomAtZero, goneAtZero, boomAtZero].filter (fun c => !c.body.cancelled))).breaker.state = .open_ := by
  constructor <;> decide +kernel

end SwapArchive
