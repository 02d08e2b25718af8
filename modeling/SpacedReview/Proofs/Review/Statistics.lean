import SpacedReview.Proofs.Store.Records

/-!
# Stored statistics and their parts

A time that was never set is left out of stored statistics. Their reader takes a missing time for
one that was never set, and a missing counter for zero, so a name on which it did not agree with the
writer would not make it fail but forget. They do agree: statistics are read back as they were.
Their parts are found in the JSON text under the names that other readers look for, and the counters
also by a search, which takes them out of the text in SQL.

## Main statements

* `Stat.stored_tells_parts`: stored statistics are read back, and their parts are in the text.
-/

namespace SpacedReview.Review

open SpacedReview.Json SpacedReview.Text SpacedReview.Time

/-- The times in statistics and the names that they are stored under. -/
def Stat.times (s : Stat) : List (String × Option Instant) :=
  [("lastRight", s.lastRight), ("lastWrong", s.lastWrong)]

/-- Counters have 32 bits. -/
theorem Streak.lt_of_mem_counters {s : Streak} {name : String} {n : Nat}
    (h : (name, n) ∈ s.counters) : n < Decimal.count32 := by
  simp only [counters, List.mem_cons, Prod.mk.injEq, List.not_mem_nil, or_false] at h
  rcases h with ⟨-, rfl⟩ | ⟨-, rfl⟩ | ⟨-, rfl⟩ | ⟨-, rfl⟩ <;> exact UInt32.toNat_lt _

/-- A time is found under its name if it is set, and else there is no such member. -/
theorem Stat.descend_time {s : Stat} {name : String} {time : Option Instant}
    (h : (name, time) ∈ s.times) : Sql.descend [name] s.toJson = time.map (.text ·.exact) := by
  simp only [Stat.times, List.mem_cons, Prod.mk.injEq, List.not_mem_nil, or_false] at h
  rcases h with ⟨rfl, rfl⟩ | ⟨rfl, rfl⟩ <;> cases hright : s.lastRight <;>
    cases hwrong : s.lastWrong <;> simp [Stat.toJson, timeMember, Sql.descend, hright, hwrong]

/-- A counter is a number in SQL. -/
theorem Stat.extract_counter {s : Stat} {name : String} {n : Nat}
    (h : (name, n) ∈ s.streak.counters) :
    Sql.extract ["streak", name] s.stored = .ok (.integer n) := by
  have hn := Streak.lt_of_mem_counters h
  have hfits : Decimal.FitsInt64 (n : Int) := by
    simp only [Decimal.FitsInt64, Decimal.count32] at hn ⊢
    omega
  have hnumber : Sql.ofJson (.nat n) = .integer n := by
    rw [Value.nat, Sql.ofJson, Sql.ofNumeral_ofNat, if_pos hfits]
  simp only [Sql.extract, Sql.readJson?, s.parse?_stored, descend_counter h, hnumber]

/-- Statistics are read back as they were, whatever times are set in them. Their stored form is a
JSON object. In it the counters are found under their names, as numbers in JSON and in SQL, and the
times, in the exact form, just if they are set. -/
theorem Stat.stored_tells_parts (s : Stat) :
    Stat.parse s.stored = .ok s ∧
      ∃ members, Value.parse? s.stored = some (.object members) ∧
        (∀ name n, (name, n) ∈ s.streak.counters →
          Sql.descend ["streak", name] (.object members) = some (.nat n) ∧
            Sql.extract ["streak", name] s.stored = .ok (.integer n)) ∧
        ∀ name time, (name, time) ∈ s.times →
          Sql.descend [name] (.object members) = time.map (.text ·.exact) := by
  refine ⟨s.parse_stored, _, s.parse?_stored, fun name n hmem ↦ ?_, fun name time hmem ↦ ?_⟩
  · exact ⟨Stat.descend_counter hmem, Stat.extract_counter hmem⟩
  · exact Stat.descend_time hmem

/-- The largest counter, and a leap second at the end of time, whose year has a sign and six
digits. -/
theorem Stat.stored_tells_parts_at_end :
    let last : Instant := ⟨lastSecond, 1999999999, by decide, by decide, by decide, by decide⟩
    let s : Stat := ⟨⟨4294967295, 0, 4294967295, 7⟩, some last, none⟩
    last.exact = "+262142-12-31T23:59:60.999999999Z" ∧ Stat.parse s.stored = .ok s ∧
      Sql.extract ["streak", "maxRight"] s.stored = .ok (.integer 4294967295) ∧
      ∃ members, Value.parse? s.stored = some (.object members) ∧
        Sql.descend ["lastRight"] (.object members) = some (.text last.exact) ∧
        Sql.descend ["lastWrong"] (.object members) = none := by
  intro last s
  obtain ⟨hparse, members, hmembers, hcounters, htimes⟩ := Stat.stored_tells_parts s
  exact ⟨by decide, hparse, (hcounters "maxRight" 4294967295 (by simp [Streak.counters, s])).2,
    members, hmembers, htimes "lastRight" (some last) (by simp [Stat.times, s]),
    htimes "lastWrong" none (by simp [Stat.times, s])⟩

end SpacedReview.Review
