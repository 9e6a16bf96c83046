import Mathlib.Tactic
import SpanBridge.Proofs.Conversion

/-!
# The times of a span within another one

The timestamp and the duration of a span are rounded down each on its own, and a span that took some
time lasts one microsecond at least. The two give an end (`Timing.finish`), which need not be the
rounded end of the span: it misses it by at most one microsecond, on either side
(`finish_between_le`, `toMicros_le_finish`), and is later only for a span that starts and ends in
one microsecond (`toMicros_lt_finish_iff`). So a span that runs within another one has a timing
within the other timing, up to two microseconds at its end (`isWithin_between`), and this is so of
converted spans too (`isWithin_of_convert`).
-/

set_option autoImplicit false
set_option relaxedAutoImplicit false

namespace SpanBridge.Zipkin

/-! ### Rounding down -/

/-- Rounding down to microseconds keeps the order. -/
theorem toMicros_mono {nanos nanos' : Int} (h : nanos ≤ nanos') :
    toMicros nanos ≤ toMicros nanos' :=
  Int.ediv_le_ediv (by decide) h

theorem toMicros_nonneg {nanos : Int} (h : 0 ≤ nanos) : 0 ≤ toMicros nanos :=
  Int.ediv_nonneg h (by decide)

/-- Two times that are rounded down on their own lose up to one microsecond more than their sum. -/
theorem toMicros_add (first second : Int) :
    toMicros first + toMicros second ≤ toMicros (first + second) ∧
      toMicros (first + second) ≤ toMicros first + toMicros second + 1 := by
  unfold toMicros
  omega

namespace Timing

/-- The end that a timestamp and a duration give. -/
def finish (timing : Timing) : Int := timing.timestamp + timing.duration

/-- A span took some time, but less than a microsecond. -/
def IsBrief (start finish : Int) : Prop := toMicros (finish - start) = 0 ∧ start < finish

/-- A timing is within another one, up to two microseconds at its end. -/
structure IsWithin (child parent : Timing) : Prop where
  timestamp : parent.timestamp ≤ child.timestamp
  duration : child.duration ≤ parent.duration
  finish : child.finish ≤ parent.finish + 2

variable {start finish : Int}

/-- A brief span lasts one microsecond. -/
theorem duration_of_isBrief (h : IsBrief start finish) : (between start finish).duration = 1 :=
  if_pos h

theorem duration_of_not_isBrief (h : ¬IsBrief start finish) :
    (between start finish).duration = toMicros (finish - start) := if_neg h

/-- No span lasts less than the difference of its times. -/
theorem toMicros_le_duration (start finish : Int) :
    toMicros (finish - start) ≤ (between start finish).duration := by
  by_cases hbrief : IsBrief start finish
  · rw [duration_of_isBrief hbrief, hbrief.1]
    exact Int.one_nonneg
  · rw [duration_of_not_isBrief hbrief]

/-- A span that takes longer does not have a shorter duration. -/
theorem duration_between_mono {start' finish' : Int} (h : finish - start ≤ finish' - start') :
    (between start finish).duration ≤ (between start' finish').duration := by
  have hmicros : toMicros (finish - start) ≤ (between start' finish').duration :=
    (toMicros_mono h).trans (toMicros_le_duration start' finish')
  by_cases hbrief : IsBrief start finish
  · rw [duration_of_isBrief hbrief]
    by_cases hbrief' : IsBrief start' finish'
    · rw [duration_of_isBrief hbrief']
    · -- the longer span took some time and is not brief, so it lasts a whole microsecond
      have hlonger : start' < finish' := by have := hbrief.2; omega
      have hne : toMicros (finish' - start') ≠ 0 := fun hzero ↦ hbrief' ⟨hzero, hlonger⟩
      have hnonneg : 0 ≤ toMicros (finish' - start') := toMicros_nonneg (by omega)
      rw [duration_of_not_isBrief hbrief']
      omega
  · rwa [duration_of_not_isBrief hbrief]

/-! ### Ends -/

theorem finish_of_isBrief (h : IsBrief start finish) :
    (between start finish).finish = toMicros start + 1 := by
  rw [Timing.finish, duration_of_isBrief h, between]

theorem finish_of_not_isBrief (h : ¬IsBrief start finish) :
    (between start finish).finish = toMicros start + toMicros (finish - start) := by
  rw [Timing.finish, duration_of_not_isBrief h, between]

/-- A span ends at most one microsecond late. -/
theorem finish_between_le (start finish : Int) :
    (between start finish).finish ≤ toMicros finish + 1 := by
  by_cases hbrief : IsBrief start finish
  · rw [finish_of_isBrief hbrief]
    exact Int.add_le_add_right (toMicros_mono hbrief.2.le) 1
  · have hsum := (toMicros_add start (finish - start)).1
    rw [add_sub_cancel] at hsum
    rw [finish_of_not_isBrief hbrief]
    exact hsum.trans (Int.le_add_one le_rfl)

/-- A span ends at most one microsecond early. -/
theorem toMicros_le_finish (start finish : Int) :
    toMicros finish ≤ (between start finish).finish + 1 :=
  calc
    toMicros finish = toMicros (start + (finish - start)) := by rw [add_sub_cancel]
    _ ≤ toMicros start + toMicros (finish - start) + 1 := (toMicros_add start (finish - start)).2
    _ ≤ (between start finish).finish + 1 :=
      Int.add_le_add_right (Int.add_le_add_left (toMicros_le_duration start finish) _) 1

/-- The end of a timing is later than that of its span when the span took some time, and all of it
in one microsecond. -/
theorem toMicros_lt_finish_iff (start finish : Int) :
    toMicros finish < (between start finish).finish ↔
      start < finish ∧ toMicros start = toMicros finish := by
  by_cases hbrief : IsBrief start finish
  · rw [finish_of_isBrief hbrief, Int.lt_add_one_iff]
    exact ⟨fun hle ↦ ⟨hbrief.2, (toMicros_mono hbrief.2.le).antisymm hle⟩, fun h ↦ h.2.ge⟩
  · have hsum := toMicros_add start (finish - start)
    rw [add_sub_cancel] at hsum
    rw [finish_of_not_isBrief hbrief]
    refine iff_of_false hsum.1.not_gt fun ⟨hlater, hsame⟩ ↦ hbrief ⟨?_, hlater⟩
    have hnonneg : 0 ≤ toMicros (finish - start) := toMicros_nonneg (by omega)
    omega

/-! ### Nesting -/

/-- A span within another one has a timing within the other timing. -/
theorem isWithin_between {start' finish' : Int} (hstart : start' ≤ start)
    (hfinish : finish ≤ finish') :
    (between start finish).IsWithin (between start' finish') where
  timestamp := toMicros_mono hstart
  duration := duration_between_mono (by omega)
  finish :=
    calc
      (between start finish).finish ≤ toMicros finish + 1 := finish_between_le start finish
      _ ≤ toMicros finish' + 1 := Int.add_le_add_right (toMicros_mono hfinish) 1
      _ ≤ (between start' finish').finish + 2 := by
        have := toMicros_le_finish start' finish'
        omega

end Timing

/-- The times of a converted span are those of its record. -/
theorem timing_of_convert {σ : Type} {source : AddressSource σ} {record : SpanRecord} {state : σ}
    {span : ZipkinSpan} (h : (Conversion.convert source record state).result = .ok span) :
    (⟨span.timestamp, span.duration⟩ : Timing) = .between record.start record.finish := by
  obtain ⟨bare, answer, hbare, -, rfl⟩ := Conversion.convert_eq_ok_iff.1 h
  obtain ⟨tags, kind, service, -, -, -, rfl⟩ := Conversion.withoutAddress_eq_ok_iff.1 hbare
  rw [Conversion.locate_spanOf]
  rfl

/-- Spans stay within each other when they are converted, whatever their sources. -/
theorem isWithin_of_convert {σ : Type} {source source' : AddressSource σ}
    {child parent : SpanRecord} {state state' : σ} {childSpan parentSpan : ZipkinSpan}
    (hstart : parent.start ≤ child.start) (hfinish : child.finish ≤ parent.finish)
    (hchild : (Conversion.convert source child state).result = .ok childSpan)
    (hparent : (Conversion.convert source' parent state').result = .ok parentSpan) :
    (⟨childSpan.timestamp, childSpan.duration⟩ : Timing).IsWithin
      ⟨parentSpan.timestamp, parentSpan.duration⟩ := by
  rw [timing_of_convert hchild, timing_of_convert hparent]
  exact Timing.isWithin_between hstart hfinish

namespace Timing

/-- The timing of a span within another one is within the other timing, up to two microseconds at
its end. The end of a timing is the rounded end of its span, up to one microsecond on either side,
and it is later exactly when the span took some time in one and the same microsecond. -/
theorem timings_stay_nested :
    (∀ parentStart childStart childFinish parentFinish : Int, parentStart ≤ childStart →
      childFinish ≤ parentFinish →
        (between parentStart parentFinish).timestamp ≤ (between childStart childFinish).timestamp ∧
        (between childStart childFinish).duration ≤ (between parentStart parentFinish).duration ∧
        (between childStart childFinish).timestamp + (between childStart childFinish).duration ≤
          (between parentStart parentFinish).timestamp +
            (between parentStart parentFinish).duration + 2) ∧
    ∀ start finish : Int,
      |(between start finish).timestamp + (between start finish).duration - toMicros finish| ≤ 1 ∧
      (toMicros finish < (between start finish).timestamp + (between start finish).duration ↔
        start < finish ∧ toMicros start = toMicros finish) := by
  refine ⟨fun _ _ _ _ hstart hfinish ↦ ?nested, fun start finish ↦ ⟨?close, ?later⟩⟩
  case nested =>
    have hwithin := isWithin_between hstart hfinish
    exact ⟨hwithin.timestamp, hwithin.duration, hwithin.finish⟩
  case close =>
    have hupper := finish_between_le start finish
    have hlower := toMicros_le_finish start finish
    exact abs_sub_le_iff.2 ⟨Int.sub_left_le_of_le_add hupper, Int.sub_left_le_of_le_add hlower⟩
  case later => exact toMicros_lt_finish_iff start finish

/-- A span that ends two microseconds after the one that it runs in. -/
theorem timings_stay_nested_by_two :
    (between 500 2499).timestamp ≤ (between 2000 2001).timestamp ∧
      (between 2000 2001).duration ≤ (between 500 2499).duration ∧
      (between 2000 2001).timestamp + (between 2000 2001).duration ≤
        (between 500 2499).timestamp + (between 500 2499).duration + 2 ∧
      (between 2000 2001).finish = (between 500 2499).finish + 2 := by
  have hnested := timings_stay_nested.1 500 2000 2001 2499 (by decide) (by decide)
  exact ⟨hnested.1, hnested.2.1, hnested.2.2, by decide⟩

end Timing
end SpanBridge.Zipkin
