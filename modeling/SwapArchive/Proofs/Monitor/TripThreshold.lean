import Mathlib
import SwapArchive.Proofs.Monitor.CancelledCall

/-!
# A breaker opens at its threshold

A breaker made from usable settings (`BreakerConfig.valid`) opens at the threshold's count of
failures in a row, as long as every call finds the breaker's state in force when it starts and
when it is settled (`TimedCall.inForce`). A call fails, for the breaker, when its error neither is
nor wraps a cancellation (`TimedCall.fails`). The breaker is closed until some prefix of the calls
ends with `threshold` failures in a row (`failuresInRow`), and open from that call on; a call made
while it is open is refused with `circuit breaker is open`, leaves it as it is and is recorded as
`rejected` (`Guard.call_of_open`); every call leaves the state gauge at the breaker's state
(`Guard.call_gaugeTrue`). The threshold is kept as a 32-bit count, so this holds below `2^32`.
-/

namespace SwapArchive

set_option autoImplicit false

namespace ApiMetrics

/-- The breaker-state gauge last recorded for a name. -/
def stateOf (m : ApiMetrics) (api : String) : Option Int := (m.states.find? (·.1 = api)).map (·.2)

variable (m : ApiMetrics) (api : String)

@[simp] theorem stateOf_called (endpoint status : String) :
    (m.called api endpoint status).stateOf = m.stateOf := rfl

@[simp] theorem stateOf_timedOut (endpoint : String) : (m.timedOut api endpoint).stateOf = m.stateOf := rfl

@[simp] theorem stateOf_stateChanged (st : BreakerState) : (m.stateChanged api st).stateOf api = some st.gauge := by
  have hnone : (m.states.filter (·.1 ≠ api)).find? (·.1 = api) = none := by
    rw [List.find?_eq_none]
    intro x hx
    simp only [List.mem_filter, decide_eq_true_eq] at hx
    simpa using hx.2
  simp only [stateOf, stateChanged, List.find?_append, hnone, Option.none_or]
  simp

/-- Recording states one after another leaves the gauge at the last of them. -/
theorem stateOf_statesChanged {st : BreakerState} (h : m.stateOf api = some st.gauge) (sts : List BreakerState) :
    (m.statesChanged api sts).stateOf api = some (sts.getLast?.getD st).gauge := by
  induction sts generalizing m st with
  | nil => exact h
  | cons s rest ih =>
    have hs := ih (m.stateChanged api s) (stateOf_stateChanged m api s)
    rw [statesChanged, List.foldl_cons] at *
    rw [hs, List.getLast?_cons]
    cases rest.getLast? <;> rfl

end ApiMetrics

namespace Breaker

/-! ### Every change of state is reported

Each operation of a breaker returns the states it entered. The state it leaves the breaker in is
the last of them, or the state it found when it entered none (`Reports`). -/

/-- `b'` is `b` after entering the states `sts`, in order. -/
def Reports (b : Breaker) (sts : List BreakerState) (b' : Breaker) : Prop :=
  b'.state = (sts.getLast?.getD b.state) ∧ b'.name = b.name

theorem Reports.trans {b b' b'' : Breaker} {sts sts' : List BreakerState} (h : Reports b sts b')
    (h' : Reports b' sts' b'') : Reports b (sts ++ sts') b'' := by
  refine ⟨?_, h'.2.trans h.2⟩
  rw [h'.1, h.1, List.getLast?_append]
  cases sts'.getLast? <;> rfl

/-- New counts change neither the state nor the name. -/
theorem Reports.counts {b b' : Breaker} {sts : List BreakerState} (h : Reports b sts b') (c : BreakerCounts) :
    Reports b sts { b' with counts := c } := h

variable (b : Breaker) (now : Int)

theorem Reports.refl : Reports b [] b := ⟨rfl, rfl⟩

theorem setState_reports (st : BreakerState) : Reports b (b.setState st now).2.toList (b.setState st now).1 := by
  unfold setState
  split
  · exact Reports.refl b
  · exact ⟨rfl, rfl⟩

theorem refresh_reports : Reports b (b.refresh now).2.toList (b.refresh now).1 := by
  unfold refresh
  split
  · split
    · exact ⟨rfl, rfl⟩
    · exact Reports.refl b
  · split
    · exact setState_reports b now _
    · exact Reports.refl b
  · exact Reports.refl b

theorem letThrough_reports : Reports b (b.letThrough now).2.2.toList (b.letThrough now).2.1 := by
  have hr := refresh_reports b now
  unfold letThrough
  rcases hrf : b.refresh now with ⟨b₁, ch⟩
  rw [hrf] at hr
  dsimp only at hr ⊢
  split
  · exact hr
  split
  · exact hr
  · exact hr.counts _

/-- Counting a call reports the states it enters, the lapse first. -/
theorem settle_reports (gen : Nat) (success : Bool) :
    Reports b (b.settle gen success now).2 (b.settle gen success now).1 := by
  have hr := refresh_reports b now
  unfold settle
  rcases hrf : b.refresh now with ⟨b₁, ch⟩
  rw [hrf] at hr
  dsimp only at hr ⊢
  split
  · exact hr
  split
  · split
    · exact hr.counts _
    · split
      · exact (hr.counts _).trans (setState_reports _ now _)
      · exact hr.counts _
    · exact hr
  · split
    · split
      · exact (hr.counts _).trans (setState_reports _ now _)
      · exact hr.counts _
    · exact hr.trans (setState_reports _ now _)
    · exact hr

/-! ### A breaker in force -/

/-- Has the breaker's state not lapsed at `now`: is `now` at or before its expiry, if it has one? -/
def inForceAt (b : Breaker) (now : Int) : Bool := b.expiry.all (now ≤ ·)

/-- Looking at a breaker in force changes nothing. -/
theorem refresh_of_inForceAt (h : b.inForceAt now = true) : b.refresh now = (b, none) := by
  unfold inForceAt at h
  unfold refresh
  split
  · rename_i e he
    rw [he] at h
    simp only [Option.all_some, decide_eq_true_eq] at h
    rw [if_neg (not_lt.2 h)]
  · rename_i e he
    rw [he] at h
    simp only [Option.all_some, decide_eq_true_eq] at h
    rw [if_neg (not_lt.2 h)]
  · rfl

theorem inForceAt_withSuccesses (r s i : Nat) : (b.withSuccesses r s i).inForceAt now = b.inForceAt now := rfl

end Breaker

/-! ### Calls through a guard -/

namespace TimedCall

/-- Does the breaker count the call as a failure: an error that neither is nor wraps a
cancellation? -/
def fails (c : TimedCall) : Bool := !c.body.countsAsSuccess

/-- Does the call find the breaker's state in force when it starts and, unless the breaker refuses
it, when it is settled? -/
def inForce (requestTimeout : Int) (b : Breaker) (c : TimedCall) : Bool :=
  b.inForceAt c.start && (decide (b.state = .open_) || b.inForceAt (c.body.settledAt requestTimeout c.start))

end TimedCall

/-- The failures in a row at the end of `calls`, counted back from the last call. -/
def failuresInRow (calls : List TimedCall) : Nat := (calls.reverse.takeWhile TimedCall.fails).length

/-- Did `k` failures in a row ever stand at the end of a prefix of `calls`? -/
def ReachesRun (k : Nat) (calls : List TimedCall) : Prop := ∃ m ≤ calls.length, k ≤ failuresInRow (calls.take m)

section Runs

variable {k : Nat} {calls : List TimedCall} {c : TimedCall}

theorem failuresInRow_nil : failuresInRow [] = 0 := rfl

theorem failuresInRow_append_of_fails (h : c.fails = true) :
    failuresInRow (calls ++ [c]) = failuresInRow calls + 1 := by
  simp [failuresInRow, h]

theorem failuresInRow_append_of_not_fails (h : c.fails = false) : failuresInRow (calls ++ [c]) = 0 := by
  simp [failuresInRow, h]

theorem failuresInRow_le_length (calls : List TimedCall) : failuresInRow calls ≤ calls.length := by
  unfold failuresInRow
  calc (calls.reverse.takeWhile TimedCall.fails).length ≤ calls.reverse.length :=
        (List.takeWhile_sublist _).length_le
    _ = calls.length := List.length_reverse

/-- One more call reaches a run of `k` failures exactly when the calls before it did, or when the
failures in a row after it come to `k`. -/
theorem reachesRun_append : ReachesRun k (calls ++ [c]) ↔ ReachesRun k calls ∨ k ≤ failuresInRow (calls ++ [c]) := by
  constructor
  · rintro ⟨m, hm, hk⟩
    rw [List.length_append, List.length_singleton] at hm
    rcases Nat.lt_or_ge m (calls.length + 1) with hlt | hge
    · left
      refine ⟨m, by omega, ?_⟩
      rwa [List.take_append_of_le_length (by omega)] at hk
    · right
      rwa [List.take_of_length_le (by simp; omega)] at hk
  · rintro (⟨m, hm, hk⟩ | hk)
    · refine ⟨m, by simp; omega, ?_⟩
      rwa [List.take_append_of_le_length hm]
    · exact ⟨calls.length + 1, by simp, by rwa [List.take_of_length_le (by simp)]⟩

/-- A positive run is never reached by no call. -/
theorem not_reachesRun_nil (hk : 0 < k) : ¬ReachesRun k [] := by
  rintro ⟨m, -, hm⟩
  simp [failuresInRow] at hm
  omega

/-- Calls that never reached a run of `k` failures end with fewer than `k` failures in a row. -/
theorem failuresInRow_lt_of_not_reachesRun (h : ¬ReachesRun k calls) : failuresInRow calls < k := by
  by_contra hge
  exact h ⟨calls.length, le_rfl, by rw [List.take_length]; omega⟩

end Runs

namespace Guard

variable (g : Guard) (endpoint : String) (requestTimeout : Int) (e : CallEnd) (now : Int)

/-- Does the guard's gauge show its breaker's state? -/
def GaugeTrue (g : Guard) : Prop := g.metrics.stateOf g.breaker.name = some g.breaker.state.gauge

/-- A new guard's gauge shows its closed breaker. -/
theorem create_gaugeTrue (name : String) (c : BreakerConfig) (t₀ : Int) : (create name c t₀).GaugeTrue :=
  ApiMetrics.stateOf_stateChanged _ _ _

/-- A call leaves the guard's gauge at its breaker's state: it records every state the breaker
reports entering, in order, and the breaker is left in the last of them. -/
theorem call_gaugeTrue (h : g.GaugeTrue) : (g.call endpoint requestTimeout e now).2.1.GaugeTrue := by
  have hl := Breaker.letThrough_reports g.breaker now
  unfold GaugeTrue at h ⊢
  unfold call
  rcases hlt : g.breaker.letThrough now with ⟨_ | gen, b, ch⟩ <;> rw [hlt] at hl <;> dsimp only at hl ⊢
  · rw [ApiMetrics.stateOf_called, hl.2, ApiMetrics.stateOf_statesChanged _ _ h, hl.1]
  · have key : ∀ (m : ApiMetrics) (success : Bool) (settleAt : Int) (status : String),
        m.stateOf g.breaker.name = some (ch.toList.getLast?.getD g.breaker.state).gauge →
        ((m.statesChanged g.breaker.name (b.settle gen success settleAt).2).called g.breaker.name endpoint
          status).stateOf (b.settle gen success settleAt).1.name =
          some (b.settle gen success settleAt).1.state.gauge := by
      intro m success settleAt status hm
      obtain ⟨h1, h2⟩ := hl.trans (Breaker.settle_reports b settleAt gen success)
      rw [ApiMetrics.stateOf_called, h2, ApiMetrics.stateOf_statesChanged _ _ hm, h1, List.getLast?_append]
      cases (b.settle gen success settleAt).2.getLast? <;> rfl
    have hm := ApiMetrics.stateOf_statesChanged _ _ h ch.toList
    cases e with
    | hung =>
      by_cases ht : requestTimeout > 0
      · simp only [ht, if_true]
        exact key _ _ _ _ (by rw [ApiMetrics.stateOf_timedOut]; exact hm)
      · simp only [ht, if_false]
        exact key _ _ _ _ hm
    | done => exact key _ _ _ _ hm
    | failed f => exact key _ _ _ _ hm
    | callerGone => exact key _ _ _ _ hm

/-- A call made while the breaker is open and in force is refused as the open state refuses, whatever
its body would have done; the breaker stays as it is and the call is recorded as `rejected`. -/
theorem call_of_open (hopen : g.breaker.state = .open_) (h : g.breaker.inForceAt now = true) :
    g.call endpoint requestTimeout e now =
      (some (Breaker.refusal .open_), ⟨g.breaker, g.metrics.called g.breaker.name endpoint "rejected"⟩, now) := by
  have hlt : g.breaker.letThrough now = (.error (Breaker.refusal .open_), g.breaker, none) := by
    unfold Breaker.letThrough
    rw [Breaker.refresh_of_inForceAt _ _ h]
    simp [hopen]
  unfold call
  rw [hlt]
  rfl

/-- A call let through a closed breaker in force, and settled while it is still in force: a success
clears the failures in a row, a failure adds one and opens the breaker at the threshold. -/
theorem call_of_closed (hc : g.breaker.state = .closed) (h₁ : g.breaker.inForceAt now = true)
    (h₂ : g.breaker.inForceAt (e.settledAt requestTimeout now) = true) :
    let b := (g.call endpoint requestTimeout e now).2.1.breaker
    b.tripAt = g.breaker.tripAt ∧
    (e.countsAsSuccess = true → b.state = .closed ∧ b.counts.failuresInRow = 0) ∧
    (e.countsAsSuccess = false → g.breaker.counts.failuresInRow + 1 < g.breaker.tripAt →
      b.state = .closed ∧ b.counts.failuresInRow = g.breaker.counts.failuresInRow + 1) ∧
    (e.countsAsSuccess = false → g.breaker.tripAt ≤ g.breaker.counts.failuresInRow + 1 → b.state = .open_) := by
  intro b
  let b₁ := g.breaker.withSuccesses (g.breaker.counts.requests + 1) g.breaker.counts.successes
    g.breaker.counts.successesInRow
  have hb : b = (b₁.settle g.breaker.generation e.countsAsSuccess (e.settledAt requestTimeout now)).1 := by
    simp only [b, call_breaker, Breaker.letThrough_of_closed _ _ hc (Breaker.refresh_of_inForceAt _ _ h₁)]
    rfl
  rw [Breaker.settle_of_closed b₁ _ hc (Breaker.refresh_of_inForceAt _ _ (by rwa [Breaker.inForceAt_withSuccesses])),
    if_neg (show ¬b₁.generation ≠ g.breaker.generation from not_not.2 rfl)] at hb
  have hrow : b₁.counts.failuresInRow = g.breaker.counts.failuresInRow := rfl
  have htrip : b₁.tripAt = g.breaker.tripAt := rfl
  cases hs : e.countsAsSuccess
  · rw [hs, if_neg Bool.false_ne_true] at hb
    by_cases ht : b₁.counts.failuresInRow + 1 ≥ b₁.tripAt
    · rw [if_pos ht] at hb
      rw [hb]
      rw [hrow, htrip] at ht
      exact ⟨rfl, by simp, fun _ hlt => absurd ht (by omega), fun _ _ => rfl⟩
    · rw [if_neg ht] at hb
      rw [hb]
      rw [hrow, htrip] at ht
      exact ⟨rfl, by simp, fun _ _ => ⟨hc, rfl⟩, fun _ hle => absurd hle (by omega)⟩
  · rw [hs, if_pos rfl] at hb
    rw [hb]
    exact ⟨rfl, fun _ => ⟨hc, rfl⟩, by simp, by simp⟩

/-- The name of a guard's breaker is never changed by a call. -/
theorem call_name : (g.call endpoint requestTimeout e now).2.1.breaker.name = g.breaker.name := by
  have hl := Breaker.letThrough_reports g.breaker now
  rw [call_breaker]
  rcases hlt : g.breaker.letThrough now with ⟨_ | gen, b, ch⟩ <;> rw [hlt] at hl <;> dsimp only at hl ⊢
  · exact hl.2
  · exact (Breaker.settle_reports b _ gen _).2.trans hl.2

/-! ### Along the calls -/

/-- What a guard whose breaker opens at `k` failures in a row keeps after the calls `done`: its
name and threshold, a gauge showing its state, and the state the runs of failures set: closed and
counting the current run while no run of `k` was reached, open once one was. -/
structure TripsAt (k : Nat) (name : String) (g : Guard) (done : List TimedCall) : Prop where
  name_eq : g.breaker.name = name
  tripAt_eq : g.breaker.tripAt = k
  gauge : g.GaugeTrue
  closed : ¬ReachesRun k done → g.breaker.state = .closed ∧ g.breaker.counts.failuresInRow = failuresInRow done
  opened : ReachesRun k done → g.breaker.state = .open_

/-- A new guard from usable settings with a threshold below `2^32` opens at that many failures. -/
theorem tripsAt_create (name : String) (c : BreakerConfig) (hc : c.valid = true) (hk : c.threshold < 2 ^ 32)
    (t₀ : Int) : TripsAt c.threshold.toNat name (create name c t₀) [] := by
  have hpos : 0 < c.threshold := by
    simp only [BreakerConfig.valid, decide_eq_true_eq] at hc
    exact hc.2.1
  have htrip : (create name c t₀).breaker.tripAt = c.threshold.toNat := by
    show (c.threshold % Int.pow 2 32).toNat = c.threshold.toNat
    rw [Int.emod_eq_of_lt hpos.le (by rw [show Int.pow 2 32 = 2 ^ 32 from rfl]; exact hk)]
  exact ⟨rfl, htrip, create_gaugeTrue name c t₀, fun _ => ⟨rfl, rfl⟩,
    fun h => absurd h (not_reachesRun_nil (by omega))⟩

/-- One call that finds the breaker in force keeps what the guard keeps, the call added to those
made. -/
theorem TripsAt.call {k : Nat} {name : String} {done : List TimedCall} {c : TimedCall}
    (H : TripsAt k name g done) (hk : 0 < k) (hforce : c.inForce requestTimeout g.breaker = true) :
    TripsAt k name (g.call c.endpoint requestTimeout c.body c.start).2.1 (done ++ [c]) := by
  have hname := (call_name g c.endpoint requestTimeout c.body c.start).trans H.name_eq
  have hgauge := call_gaugeTrue g c.endpoint requestTimeout c.body c.start H.gauge
  simp only [TimedCall.inForce, Bool.and_eq_true, Bool.or_eq_true, decide_eq_true_eq] at hforce
  by_cases hreached : ReachesRun k done
  · have hopen := H.opened hreached
    have hcall := call_of_open g c.endpoint requestTimeout c.body c.start hopen hforce.1
    rw [hcall] at hname hgauge ⊢
    exact ⟨hname, H.tripAt_eq, hgauge, fun hnot => absurd (reachesRun_append.2 (.inl hreached)) hnot,
      fun _ => hopen⟩
  · obtain ⟨hc, hrow⟩ := H.closed hreached
    have hlt := failuresInRow_lt_of_not_reachesRun hreached
    have hsettle := hforce.2.resolve_left (by rw [hc]; decide)
    obtain ⟨htrip, hsucc, hfail, hopen⟩ := call_of_closed g c.endpoint requestTimeout c.body c.start hc hforce.1 hsettle
    rw [H.tripAt_eq] at htrip hfail hopen
    rw [hrow] at hfail hopen
    refine ⟨hname, htrip, hgauge, fun hnot => ?_, fun hnow => ?_⟩
    · cases hs : c.body.countsAsSuccess
      · have hf : c.fails = true := by simp [TimedCall.fails, hs]
        rw [failuresInRow_append_of_fails hf]
        have hshort : failuresInRow done + 1 < k := by
          by_contra hge
          exact hnot (reachesRun_append.2 (.inr (by rw [failuresInRow_append_of_fails hf]; omega)))
        exact hfail hs hshort
      · have hf : c.fails = false := by simp [TimedCall.fails, hs]
        rw [failuresInRow_append_of_not_fails hf]
        exact hsucc hs
    · have hnew := (reachesRun_append.1 hnow).resolve_left hreached
      cases hs : c.body.countsAsSuccess
      · have hf : c.fails = true := by simp [TimedCall.fails, hs]
        rw [failuresInRow_append_of_fails hf] at hnew
        exact hopen hs hnew
      · have hf : c.fails = false := by simp [TimedCall.fails, hs]
        rw [failuresInRow_append_of_not_fails hf] at hnew
        omega

/-- The guard after the first `n` calls keeps what the guard keeps, as long as each call found the
breaker the calls before it left in force. -/
theorem TripsAt.run {k : Nat} {name : String} {calls : List TimedCall} (H : TripsAt k name g [])
    (hk : 0 < k) (hforce : ∀ n (h : n < calls.length),
      calls[n].inForce requestTimeout (g.callAll requestTimeout (calls.take n)).breaker = true) :
    ∀ n ≤ calls.length, TripsAt k name (g.callAll requestTimeout (calls.take n)) (calls.take n) := by
  intro n hn
  induction n with
  | zero => exact H
  | succ n ih =>
    have hlt : n < calls.length := by omega
    rw [List.take_succ_eq_append_getElem hlt]
    have hstep := (ih (by omega)).call _ requestTimeout hk (hforce n hlt)
    unfold callAll at hstep ⊢
    rwa [List.foldl_append, List.foldl_cons, List.foldl_nil]

end Guard

/-- A breaker made from usable settings with a threshold `k` below `2^32` is closed until `k`
failures in a row, and open from the call that completes them on, over any calls that each find its
state in force: inside the closed breaker's counting interval and before the open breaker's timeout
ends. A failure is an error that neither is nor wraps a cancellation; a call that does not fail
ends the run. Each call made while the breaker is open is refused with `circuit breaker is open`
whatever its body would have done, leaves the breaker as it is and is recorded as `rejected`. After
every call the breaker-state gauge of the breaker's name shows its state. -/
theorem breaker_opens_at_threshold (name : String) (c : BreakerConfig) (hc : c.valid = true)
    (hk : c.threshold < 2 ^ 32) (t₀ requestTimeout : Int) (calls : List TimedCall)
    (hforce : ∀ n (h : n < calls.length),
      calls[n].inForce requestTimeout ((Guard.create name c t₀).callAll requestTimeout (calls.take n)).breaker = true)
    (n : Nat) (hn : n ≤ calls.length) :
    let g := (Guard.create name c t₀).callAll requestTimeout (calls.take n)
    (¬ReachesRun c.threshold.toNat (calls.take n) → g.breaker.state = .closed) ∧
    (ReachesRun c.threshold.toNat (calls.take n) → g.breaker.state = .open_) ∧
    g.metrics.stateOf name = some g.breaker.state.gauge ∧
    ∀ (h : n < calls.length), g.breaker.state = .open_ → ∀ e : CallEnd,
      g.call calls[n].endpoint requestTimeout e calls[n].start =
        (some (Breaker.refusal .open_), ⟨g.breaker, g.metrics.called name calls[n].endpoint "rejected"⟩,
          calls[n].start) := by
  intro g
  have hpos : 0 < c.threshold.toNat := by
    simp only [BreakerConfig.valid, decide_eq_true_eq] at hc
    omega
  have H := (Guard.tripsAt_create name c hc hk t₀).run _ requestTimeout hpos hforce n hn
  refine ⟨fun hnot => (H.closed hnot).1, H.opened, ?_, fun h hopen e => ?_⟩
  · have hgauge := H.gauge
    rwa [Guard.GaugeTrue, H.name_eq] at hgauge
  · have hstart : g.breaker.inForceAt calls[n].start = true := by
      have hf := hforce n h
      simp only [TimedCall.inForce, Bool.and_eq_true] at hf
      exact hf.1
    rw [Guard.call_of_open g _ requestTimeout e _ hopen hstart, H.name_eq]


/-- The Midgard breaker, five failed calls at time zero: it is open, and a sixth call is refused
whatever it would have done. -/
theorem midgard_breaker_opens_at_five :
    let calls := List.replicate 6 boomAtZero
    let g := (Guard.create "midgard_native" BreakerConfig.midgard 0).callAll (180 * BreakerConfig.second)
      (calls.take 5)
    g.breaker.state = .open_ ∧
      g.call "fetch_latest" (180 * BreakerConfig.second) .done 0 =
        (some (Breaker.refusal .open_), ⟨g.breaker, g.metrics.called "midgard_native" "fetch_latest" "rejected"⟩, 0) := by
  intro calls g
  have hforce : ∀ n (h : n < calls.length), calls[n].inForce (180 * BreakerConfig.second)
      ((Guard.create "midgard_native" BreakerConfig.midgard 0).callAll (180 * BreakerConfig.second)
        (calls.take n)).breaker = true := by
    decide +kernel
  obtain ⟨-, hopen, -, hrefused⟩ := breaker_opens_at_threshold "midgard_native" BreakerConfig.midgard (by decide)
    (by decide) 0 _ calls hforce 5 (by decide)
  have hrun : ReachesRun BreakerConfig.midgard.threshold.toNat (calls.take 5) := ⟨5, by decide, by decide⟩
  exact ⟨hopen hrun, hrefused (by decide) (hopen hrun) .done⟩

/-- Settings with a threshold of `2^32` failures in a row, otherwise usable. -/
def thresholdTwoPow32 : BreakerConfig := ⟨1, 0, 60 * BreakerConfig.second, 4294967296⟩

/-- With a threshold of `2^32`, the threshold is read as zero failures: the first failed call opens
the breaker, although no run of `2^32` failures was made. -/
theorem threshold_two_pow_32_opens_at_once :
    thresholdTwoPow32.valid = true ∧ ¬ReachesRun thresholdTwoPow32.threshold.toNat [boomAtZero] ∧
      [boomAtZero][0].inForce (180 * BreakerConfig.second) (Guard.create "midgard_native" thresholdTwoPow32 0).breaker = true ∧
      ((Guard.create "midgard_native" thresholdTwoPow32 0).callAll (180 * BreakerConfig.second) [boomAtZero]).breaker.state =
        .open_ := by
  refine ⟨by decide, ?_, by decide +kernel, by decide +kernel⟩
  rintro ⟨m, hm, hrun⟩
  have hle := failuresInRow_le_length ([boomAtZero].take m)
  simp only [List.length_take, List.length_singleton] at hle
  simp only [thresholdTwoPow32] at hrun
  omega

end SwapArchive
