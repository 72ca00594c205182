import TopicSieve.Config.Reader
import TopicSieve.Proofs.Instant.Strict

/-!
The time to start from. Main statement: it is the instant that is meant, whatever the distance from
UTC, the number of decimal places and the white space that the instant is written with.
-/

namespace TopicSieve

namespace Instant

def zoneText (minutes : Int) : Text :=
  (if minutes < 0 then '-' else '+') ::
    (Text.padded 2 (minutes.natAbs / 60) ++ ':' :: Text.padded 2 (minutes.natAbs % 60))

theorem zoneText_spec {minutes : Int} (range : -1439 ≤ minutes ∧ minutes ≤ 1439) :
    ZoneText (zoneText minutes) (60 * minutes) := by
  have hoursFit : minutes.natAbs / 60 ≤ 23 := by omega
  have minutesFit : minutes.natAbs % 60 ≤ 59 := by omega
  rw [zoneText]
  by_cases behind : minutes < 0
  · have offsetEq : 60 * minutes =
        -(3600 * ((minutes.natAbs / 60 : Nat) : Int) + 60 * ((minutes.natAbs % 60 : Nat) : Int)) := by
      omega
    rw [if_pos behind, offsetEq]
    exact .behind hoursFit minutesFit
  · have offsetEq : 60 * minutes =
        3600 * ((minutes.natAbs / 60 : Nat) : Int) + 60 * ((minutes.natAbs % 60 : Nat) : Int) := by
      omega
    rw [if_neg behind, offsetEq]
    exact .ahead hoursFit minutesFit

theorem isRepresented_of_shown {instant : Instant} {offset : Int}
    (range : -86400 ≤ offset ∧ offset ≤ 86400)
    (year : 0 ≤ (instant.shown offset).date.year ∧ (instant.shown offset).date.year ≤ 9999) :
    isRepresented instant.date.year = true := by
  have dateEq : instant.date = Date.ofDayNumber (instant.seconds / 86400) := rfl
  have shownEq : (instant.shown offset).date =
      Date.ofDayNumber ((instant.seconds + offset) / 86400) := rfl
  have notEarly := Date.year_le_of_dayAfter
    (by omega : (instant.seconds + offset) / 86400 ≤ instant.seconds / 86400 + 1)
  have notLate := Date.year_le_of_dayAfter
    (by omega : instant.seconds / 86400 ≤ (instant.seconds + offset) / 86400 + 1)
  rw [← dateEq, ← shownEq] at notEarly notLate
  apply isRepresented_of_bounds
  omega

structure Writing where
  /-- how far the clock is ahead of UTC -/
  minutes : Int
  zone : Text
  places : Nat
  divider : Char
  front : Text
  back : Text

namespace Writing

def core (writing : Writing) (instant : Instant) : Text :=
  instant.textIn (60 * writing.minutes) writing.divider
    (fractionTo writing.places instant.nanos) writing.zone

def text (writing : Writing) (instant : Instant) : Text :=
  writing.front ++ (writing.core instant ++ writing.back)

/-- A clock less than a day from UTC, which shows a year of four digits, and as many decimal places
as the instant has, or more, with white space around it all. UTC itself has other names too. -/
structure Fits (writing : Writing) (instant : Instant) : Prop where
  noLeap : instant.nanos < nanosPerSecond
  range : -1439 ≤ writing.minutes ∧ writing.minutes ≤ 1439
  zone : writing.zone = zoneText writing.minutes ∨
    writing.minutes = 0 ∧ writing.zone ∈ (["Z", "z", "-00:00"] : List Text)
  year : 0 ≤ (instant.shown (60 * writing.minutes)).date.year ∧
    (instant.shown (60 * writing.minutes)).date.year ≤ 9999
  places : writing.places ≤ 9
  whole : instant.nanos % tenTo (9 - writing.places) = 0
  divider : writing.divider = 'T' ∨ writing.divider = 't' ∨ writing.divider = ' '
  front : ∀ char ∈ writing.front, Text.isBlank char = true
  back : ∀ char ∈ writing.back, Text.isBlank char = true

variable {writing : Writing} {instant : Instant}

theorem Fits.isZone (fits : writing.Fits instant) :
    ZoneText writing.zone (60 * writing.minutes) := by
  rcases fits.zone with zoneEq | ⟨noneEq, named⟩
  · rw [zoneEq]
    exact zoneText_spec fits.range
  · rw [noneEq]
    simp only [List.mem_cons, List.not_mem_nil, or_false] at named
    rcases named with zoneEq | zoneEq | zoneEq
    · rw [zoneEq]
      exact .utc (Or.inl rfl)
    · rw [zoneEq]
      exact .utc (Or.inr rfl)
    · rw [zoneEq]
      exact @ZoneText.behind 0 0 (by decide) (by decide)

theorem Fits.denotes (fits : writing.Fits instant) : Denotes (writing.core instant) instant :=
  denotes_textIn fits.noLeap fits.year fits.divider
    (fractionTo_spec fits.noLeap fits.places fits.whole) fits.isZone

theorem Fits.readStrict_trim (fits : writing.Fits instant) :
    readStrict (Text.trim (writing.text instant)) = .ok instant := by
  have range := fits.range
  rw [text, Text.trim_between fits.denotes.trimmed fits.front fits.back]
  apply readStrict_of_denotes fits.denotes
  exact isRepresented_of_shown (by omega) fits.year

end Writing

end Instant

namespace Config

open Instant in
/-- The time to start from is the instant itself, and two written times come to the same exactly when
the instants are the same. The date that is written is the one the calendar has for that day. -/
theorem startOf_writing (options : ConsumerOptions) {writing : Writing} {instant : Instant}
    (fits : writing.Fits instant) :
    startOf { options with startTime := some (writing.text instant) } = .ok (some instant) ∧
      Date.IsDay (instant.shown (60 * writing.minutes)).date
        ((instant.seconds + 60 * writing.minutes) / 86400) ∧
      ∀ {another : Writing} {other : Instant}, another.Fits other →
        (startOf { options with startTime := some (another.text other) } =
            startOf { options with startTime := some (writing.text instant) } ↔
          other = instant) := by
  have starts {writing : Writing} {instant : Instant} (fits : writing.Fits instant) :
      startOf { options with startTime := some (writing.text instant) } = .ok (some instant) := by
    simp only [startOf, ConsumerOptions.start, fits.readStrict_trim, Except.map]
  refine ⟨starts fits, Date.isDay_ofDayNumber _, ?_⟩
  intro another other fitsToo
  rw [starts fits, starts fitsToo]
  constructor
  · intro same
    cases same
    rfl
  · intro same
    rw [same]

open Instant in
theorem startOf_writing_leapDay :
    startOf { ConsumerOptions.empty with
      startTime := some "\t 2000-02-29T00:15:01.1200+00:30\n" } =
        .ok (some ⟨951781501, 120000000⟩) ∧
      Date.IsDay ⟨2000, 2, 29⟩ 11016 ∧
      startOf { ConsumerOptions.empty with startTime := some "2000-02-27T23:46:01.12-23:59" } =
        startOf { ConsumerOptions.empty with
          startTime := some "\t 2000-02-29T00:15:01.1200+00:30\n" } := by
  let instant : Instant := ⟨951781501, 120000000⟩
  let ahead : Writing := ⟨30, "+00:30", 4, 'T', "\t ", "\n"⟩
  let behind : Writing := ⟨-1439, "-23:59", 2, 'T', "", ""⟩
  have aheadFits : ahead.Fits instant := by
    refine ⟨by decide, by decide, by decide, by decide, by decide, by decide, by decide, ?_, ?_⟩
    · exact List.all_eq_true.mp (by decide)
    · exact List.all_eq_true.mp (by decide)
  have behindFits : behind.Fits instant := by
    refine ⟨by decide, by decide, by decide, by decide, by decide, by decide, by decide, ?_, ?_⟩
    · exact List.all_eq_true.mp (by decide)
    · exact List.all_eq_true.mp (by decide)
  have aheadText : ahead.text instant = "\t 2000-02-29T00:15:01.1200+00:30\n" := by decide
  have behindText : behind.text instant = "2000-02-27T23:46:01.12-23:59" := by decide
  have aheadDate : (instant.shown (60 * 30)).date = ⟨2000, 2, 29⟩ := by decide
  obtain ⟨starts, isDay, same⟩ := startOf_writing .empty aheadFits
  rw [aheadText] at starts
  refine ⟨starts, aheadDate ▸ isDay, ?_⟩
  rw [← aheadText, ← behindText]
  exact (same behindFits).mpr rfl

end Config

end TopicSieve
