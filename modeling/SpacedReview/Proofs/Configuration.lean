import SpacedReview.Config
import SpacedReview.Proofs.Results

/-!
# What configurations guarantee

A configuration that is read has a scheduler, and its delay for cards that were never reviewed is a
number of minutes with 32 bits. Nothing else is known of the delay: the intervals of the levels are
bounded by the table that they make, the delay by the size of its number alone.

## Main statements

* `Config.repeatMinutes_lt_of_add`: no entry leads to minutes of more than 32 bits.
* `Config.exists_scheduler_of_parse`: there is a scheduler, and how long its delay can be.
-/

namespace SpacedReview

open SpacedReview.Review SpacedReview.Text SpacedReview.Time

/-- What a step preserves, a row of steps preserves if none of them fails. -/
theorem foldlM_preserves {α β : Type} {f : β → α → Option β} {P : β → Prop}
    (hf : ∀ {b a b'}, P b → f b a = some b' → P b') {l : List α} {b b' : β} (hb : P b)
    (h : l.foldlM f b = some b') : P b' := by
  induction l generalizing b with
  | nil => exact Option.some.inj h ▸ hb
  | cons a l ih =>
    rw [List.foldlM_cons] at h
    obtain ⟨next, hnext, h⟩ := Option.bind_eq_some_iff.1 h
    exact ih (hf hb hnext) h

namespace Config

theorem lt_of_number? {v : Toml.Value} {n : Nat} (h : number? v = some n) :
    n < Decimal.count32 := by
  unfold number? at h
  split at h
  · rename_i k
    split at h
    · obtain rfl := Option.some.inj h
      omega
    · cases h
  · cases h

/-- A setting of the schedule keeps the minutes, or replaces them by a number of 32 bits. -/
theorem repeatMinutes_lt_of_addSchedule {config config' : ScheduleConfig}
    {entry : String × Toml.Value} (hconfig : config.repeatMinutes < Decimal.count32)
    (h : addSchedule config entry = some config') : config'.repeatMinutes < Decimal.count32 := by
  unfold addSchedule at h
  split at h
  · obtain ⟨hours, -, rfl⟩ := Option.map_eq_some_iff.1 h
    exact hconfig
  · obtain ⟨minutes, hminutes, rfl⟩ := Option.map_eq_some_iff.1 h
    exact lt_of_number? hminutes
  · cases h

theorem repeatMinutes_lt_of_schedule? {v : Toml.Value} {config : ScheduleConfig}
    (h : schedule? v = some config) : config.repeatMinutes < Decimal.count32 := by
  have hstandard : ScheduleConfig.standard.repeatMinutes < Decimal.count32 := by decide
  unfold schedule? at h
  split at h
  · exact foldlM_preserves (P := fun c : ScheduleConfig ↦ c.repeatMinutes < Decimal.count32)
      repeatMinutes_lt_of_addSchedule hstandard h
  · exact Option.some.inj h ▸ hstandard
  · exact repeatMinutes_lt_of_addSchedule hstandard h
  · obtain ⟨next, hnext, h⟩ := Option.bind_eq_some_iff.1 h
    exact repeatMinutes_lt_of_addSchedule (repeatMinutes_lt_of_addSchedule hstandard hnext) h
  · cases h

theorem repeatMinutes_lt_of_add {config config' : Config} {entry : String × Toml.Value}
    (hconfig : config.srs.repeatMinutes < Decimal.count32) (h : add config entry = some config') :
    config'.srs.repeatMinutes < Decimal.count32 := by
  unfold add at h
  split at h
  · obtain ⟨path, -, rfl⟩ := Option.map_eq_some_iff.1 h
    exact hconfig
  · obtain ⟨name, -, rfl⟩ := Option.map_eq_some_iff.1 h
    exact hconfig
  · obtain ⟨srs, hsrs, rfl⟩ := Option.map_eq_some_iff.1 h
    exact repeatMinutes_lt_of_schedule? hsrs
  · cases h

/-- A configuration that is read has its minutes in 32 bits, and a scheduler. -/
theorem parse_eq_ok {text : String} {config : Config} (h : parse text = .ok config) :
    config.srs.repeatMinutes < Decimal.count32 ∧ ∃ scheduler, config.scheduler = .ok scheduler := by
  unfold parse at h
  split at h
  · cases h
  · rename_i read hread
    obtain ⟨scheduler, hscheduler, h⟩ := bind_eq_ok_iff.1 h
    obtain rfl := Except.ok.inj h
    obtain ⟨entries, -, hread⟩ := Option.bind_eq_some_iff.1 hread
    exact ⟨foldlM_preserves (P := fun c : Config ↦ c.srs.repeatMinutes < Decimal.count32)
      repeatMinutes_lt_of_add (by decide) hread, scheduler, hscheduler⟩

/-- The delay of a scheduler is that of the configuration that asks for it. -/
theorem delay_of_scheduler {config : Config} {scheduler : Scheduler}
    (h : config.scheduler = .ok scheduler) :
    scheduler.delay = .minutes config.srs.repeatMinutes := by
  unfold Config.scheduler at h
  split at h
  · obtain rfl := Except.ok.inj h
    rfl
  · cases h

/-- A configuration that is read has a scheduler, whose delay is one of less than 2^32 minutes. -/
theorem exists_scheduler_of_parse {text : String} {config : Config} (h : parse text = .ok config) :
    ∃ scheduler, config.scheduler = .ok scheduler ∧ 0 ≤ scheduler.delay ∧
      scheduler.delay < .minutes Decimal.count32 := by
  obtain ⟨hminutes, scheduler, hscheduler⟩ := parse_eq_ok h
  refine ⟨scheduler, hscheduler, ?_⟩
  rw [delay_of_scheduler hscheduler, Duration.nonneg_iff, Duration.lt_def]
  simp only [Duration.minutes]
  omega

end Config

end SpacedReview
