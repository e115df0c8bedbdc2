import Mathlib.Order.Bounds.Defs
import StaticSite.Proofs.Calendar.Pattern
import StaticSite.Proofs.Calendar.Range
import StaticSite.Proofs.DateFormat.Accepting
import StaticSite.Proofs.DateFormat.Names
import StaticSite.Proofs.Text.Replacing
import StaticSite.Proofs.Text.Splitting

set_option autoImplicit false

/-! # Times that are shown and read again

The standard formats show times in forms of ISO 8601, and these are read without a pattern. What is shown with
the time of day is read as the same time in every zone, as it has an offset of its own. What is shown as a date
is read as the midnight before. -/

namespace StaticSite

/-! ## Times in whole seconds -/

namespace Seconds

/-- The number of seconds, if it is whole. -/
def integer? : Seconds → Option Int
  | whole n => some n
  | decimal x => x.integer?

theorem integer?_ofMicros {n : Int} (h : n.natAbs < Number.twoTo 53) : (ofMicros (n * 1000000)).integer? = some n :=
  Binary64.integer?_ofRatio h (by decide)

theorem nearestInt_zero (d : Nat) : nearestInt 0 d = 0 := by
  simp [nearestInt, Binary64.roundHalfEven]

/-- A fraction of zero is rounded to no microseconds. -/
theorem exists_ratio?_zero (d : Nat) : ∃ d', (Binary64.ofRatio 0 d).ratio? = some (0, d') := by
  refine ⟨Number.twoTo (-Binary64.minExponent).toNat, ?_⟩
  rw [Binary64.ofRatio, Int.natAbs_zero, Binary64.ofQuotient, if_pos rfl, Binary64.ratio?, Binary64.ratio,
    if_pos (by decide)]
  simp

variable {t : Seconds} {n : Int}

/-- A time in whole seconds has no microseconds, whether it is given as an integer or as a decimal. -/
theorem split_of_integer? (h : t.integer? = some n) (hrange : inClockRange n = true) : t.split = .ok ⟨n, 0⟩ := by
  cases t with
  | whole n' =>
      cases h
      rw [split, if_pos hrange]
  | decimal x =>
      cases x with
      | nan => cases h
      | infinity negative => cases h
      | finite s m e =>
          have hwhole : (Binary64.ratio s m e).1 % (Binary64.ratio s m e).2 = 0 ∧
              (Binary64.ratio s m e).1 / (Binary64.ratio s m e).2 = n := by
            simpa [integer?, Binary64.integer?, Binary64.ratio?] using h
          have hdvd : ((Binary64.ratio s m e).2 : Int) ∣ (Binary64.ratio s m e).1 := Int.dvd_of_emod_eq_zero hwhole.1
          -- Nothing is left behind the whole seconds, and it stays nothing when it is rounded.
          obtain ⟨d', hrest⟩ := exists_ratio?_zero (Binary64.ratio s m e).2
          unfold split
          dsimp only
          rw [Int.tdiv_eq_ediv_of_dvd hdvd, Int.ediv_mul_cancel hdvd, Int.sub_self, Int.zero_mul, hrest]
          simp [nearestInt_zero, hwhole.2, hrange]

/-- What the clocks of universal time show. -/
def universal (n : Int) : Local :=
  ⟨Moment.ofWallSeconds n 0 (some 0), ⟨0, "UTC", false⟩⟩

theorem inZone_utc (h : t.integer? = some n) (hlow : Date.minYear ≤ (Date.ofDays (n / 86400)).year)
    (hhigh : (Date.ofDays (n / 86400)).year ≤ Date.maxYear) :
    t.inZone .utc = .ok (universal n) := by
  have hrange := inClockRange_of_inCalendar ((inCalendar_iff_year n).2 ⟨hlow, hhigh⟩)
  rw [inZone_utc_of_split (split_of_integer? h hrange) hlow hhigh]
  rfl

end Seconds

/-! ## Reading texts -/

open Calendar

variable {s s' : List Char} {date : Date} {clock : Clock}

theorem toSeconds_of_readIso? {text : List Char} (hblank : ∀ c ∈ text, Text.isBlank c = false) {r : Reading}
    (hread : readIso? (Text.replace ['Z'] "+00:00".toList text) = some r) (zone : Zone) :
    (Value.str (String.ofList text)).toSeconds zone .null =
      .ok (some (Seconds.ofMicros (readingMicros zone r.date r.clock r.offset))) := by
  have htrim : Text.trim (String.ofList text).toList = text := by
    rw [String.toList_ofList]
    exact Text.trimWhile_of_forall hblank
  unfold Value.toSeconds
  dsimp only
  rw [htrim, hread]
  rfl

/-- A date is read as its midnight in the zone. -/
theorem toSeconds_date (h : ShowsDate s date) (hvalid : date.isValid = true) (zone : Zone) :
    (Value.str (String.ofList s)).toSeconds zone .null =
      .ok (some (Seconds.ofMicros (readingMicros zone date Clock.midnight none))) := by
  have hz : 'Z' ∉ s := fun hmem => by rcases h.isDigit_or_dash hmem with hc | hc <;> cases hc
  have hclock : Clock.midnight.isValid = true := rfl
  have hchecked : (Reading.mk date Clock.midnight none).checked? = some ⟨date, Clock.midnight, none⟩ := by
    simp [Reading.checked?, hvalid, hclock]
  refine toSeconds_of_readIso? (r := ⟨date, Clock.midnight, none⟩) (fun c hc => h.not_blank hc) ?_ zone
  rw [Text.replace_singleton_of_not_mem hz, readIso?_date h, hchecked]

/-- A date and a time with the mark of universal time are read alike in every zone. -/
theorem toSeconds_moment (h : ShowsDate s date) (h' : ShowsClock s' clock) (hdate : date.isValid = true)
    (hclock : clock.isValid = true) (zone : Zone) :
    (Value.str (String.ofList (s ++ 'T' :: (s' ++ ['Z'])))).toSeconds zone .null =
      .ok (some (Seconds.ofMicros (readingMicros zone date clock (some 0)))) := by
  have hz : 'Z' ∉ s ++ 'T' :: s' := by
    intro hmem
    rcases List.mem_append.1 hmem with hmem | hmem
    · rcases h.isDigit_or_dash hmem with hc | hc <;> cases hc
    · rcases List.mem_cons.1 hmem with hc | hmem
      · cases hc
      · rcases h'.isDigit_or_mark hmem with hc | hc | hc <;> cases hc
  -- The mark stands at the end alone, so it is the only one that is replaced.
  have hreplace : Text.replace ['Z'] "+00:00".toList (s ++ 'T' :: (s' ++ ['Z'])) =
      s ++ 'T' :: (s' ++ "+00:00".toList) := by
    have hend : Text.replace ['Z'] "+00:00".toList ['Z'] = "+00:00".toList := rfl
    have hassoc (last : List Char) : s ++ 'T' :: (s' ++ last) = s ++ 'T' :: s' ++ last := by simp
    rw [hassoc, Text.replace_singleton_append, Text.replace_singleton_of_not_mem hz, hend, hassoc]
  have hchecked : (Reading.mk date clock (some 0)).checked? = some ⟨date, clock, some 0⟩ := by
    simp [Reading.checked?, hdate, hclock, dayMicros]
  refine toSeconds_of_readIso? (r := ⟨date, clock, some 0⟩) (fun c hc => ?_) ?_ zone
  · simp only [List.mem_append, List.mem_cons, List.not_mem_nil, or_false] at hc
    rcases hc with hc | rfl | hc | rfl
    · exact h.not_blank hc
    · rfl
    · exact h'.not_blank hc
    · rfl
  · rw [hreplace, readIso?_moment h 'T' h'.readTime?_universal, hchecked]

/-! ## Standard formats -/

variable {t : Seconds} {n : Int}

theorem format_of_integer? (ht : t.integer? = some n) (hlow : 1000 ≤ (Date.ofDays (n / 86400)).year)
    (hhigh : (Date.ofDays (n / 86400)).year ≤ 9999) (pattern : String) :
    DateFormatter.format ⟨pattern, .utc⟩ t = format pattern (Seconds.universal n) :=
  DateFormatter.format_of_inZone (Seconds.inZone_utc ht (Int.le_trans (by decide) hlow) hhigh) pattern

theorem isValid_clock (n : Int) : (Seconds.universal n).moment.clock.isValid = true :=
  Clock.isValid_ofSeconds (by omega) (by decide)

/-- A reading in universal time counts the seconds that it was made of. -/
theorem readingMicros_universal (zone : Zone) (n : Int) :
    readingMicros zone (Seconds.universal n).moment.date (Seconds.universal n).moment.clock (some 0) =
      n * 1000000 := by
  have hwall : (Moment.mk (Seconds.universal n).moment.date (Seconds.universal n).moment.clock none).wallSeconds =
      n := Moment.wallSeconds_ofWallSeconds n 0 none
  rw [readingMicros, Int.sub_zero, Moment.micros, hwall, Int.sub_zero]
  exact Int.add_zero _

/-- The midnight of a day counts the seconds up to it. -/
theorem readingMicros_midnight (n : Int) :
    readingMicros .utc (Seconds.universal n).moment.date Clock.midnight none = n / 86400 * 86400 * 1000000 := by
  have hdays : (Seconds.universal n).moment.date.toDays = n / 86400 := Date.toDays_ofDays _
  have hseconds : Clock.midnight.toSeconds = 0 := rfl
  have hmicro : Clock.midnight.micro = 0 := rfl
  have hoffset (s : Int) : (Zone.utc.atWall s).offset = 0 := rfl
  rw [readingMicros, hoffset, Moment.micros, Moment.wallSeconds, hdays, hseconds, hmicro]
  omega

theorem isGreatest_midnight (n : Int) : IsGreatest {k : Int | 86400 ∣ k ∧ k ≤ n} (n / 86400 * 86400) := by
  refine ⟨⟨Int.dvd_mul_left _ _, by omega⟩, fun k hk => ?_⟩
  obtain ⟨⟨d, rfl⟩, hle⟩ := hk
  omega

/-- A time in whole seconds that universal time counts to a year of four digits is read again as it was shown in
    the standard format `iso8601`, whatever zone the site has and whatever zone the text is read in. What the
    standard format `sitemap` shows of it on a site in universal time is read there as the beginning of its
    day. -/
theorem exists_standard_readBack (ht : t.integer? = some n) (hlow : 1000 ≤ (Date.ofDays (n / 86400)).year)
    (hhigh : (Date.ofDays (n / 86400)).year ≤ 9999) {timeZone : Value} {site : Zone}
    (hsite : Zone.ofValue timeZone = .ok site) {α : Type} (read : α → Checked DateFormat) :
    ∃ table, (DateFormatters.prepare timeZone [] read).start = (.ok table, []) ∧
      (∃ f text, ("iso8601", f) ∈ table ∧ f.format t = .ok text ∧ ∀ zone, ∃ y,
        (Value.str text).toSeconds zone .null = .ok (some y) ∧ y.integer? = some n) ∧
      (site = .utc → ∃ f text y k, ("sitemap", f) ∈ table ∧ f.format t = .ok text ∧
        (Value.str text).toSeconds .utc .null = .ok (some y) ∧ y.integer? = some k ∧
          IsGreatest {k : Int | 86400 ∣ k ∧ k ≤ n} k) := by
  have hmin : Date.minYear ≤ (Date.ofDays (n / 86400)).year := Int.le_trans (by decide) hlow
  have hdays := Date.natAbs_lt_of_year hmin hhigh
  have hbits : Number.twoTo 53 = 9007199254740992 := by decide
  have hdate : (Seconds.universal n).moment.date.isValid = true := Date.isValid_ofDays hmin hhigh
  have hyear : 1000 ≤ (Seconds.universal n).moment.date.year := hlow
  have hshows := showsDate_dateDigits hdate hyear
  have hshows' := showsClock_clockDigits (isValid_clock n) rfl
  refine ⟨_, DateFormatters.prepare_nil hsite read, ?_, ?_⟩
  · have hformat := (format_of_integer? ht hlow hhigh _).trans (format_moment hdate hyear (isValid_clock n) rfl)
    refine ⟨_, _, List.mem_append_right _ List.mem_cons_self, hformat, fun zone =>
      ⟨_, toSeconds_moment hshows hshows' hdate (isValid_clock n) zone, ?_⟩⟩
    rw [readingMicros_universal, Seconds.integer?_ofMicros (by omega)]
  · rintro rfl
    have hformat := (format_of_integer? ht hlow hhigh _).trans (format_date hdate hyear)
    have hmem : ("sitemap", ⟨"%Y-%m-%d", .utc⟩) ∈ DateFormatters.standardFormatters .utc := by
      simp [DateFormatters.standardFormatters]
    refine ⟨_, _, _, n / 86400 * 86400, List.mem_append_right _ hmem, hformat,
      toSeconds_date hshows hdate .utc, ?_, isGreatest_midnight n⟩
    rw [readingMicros_midnight, Seconds.integer?_ofMicros (by omega)]

/-- The last second of the leap day of 1600. -/
theorem exists_standard_readBack_leapDay :
    ∃ table, (DateFormatters.prepare .null ([] : Table Value) DateFormat.ofValue).start = (.ok table, []) ∧
      (∃ f text, ("iso8601", f) ∈ table ∧ f.format (.whole (-11670912001)) = .ok text ∧ ∀ zone, ∃ y,
        (Value.str text).toSeconds zone .null = .ok (some y) ∧ y.integer? = some (-11670912001)) ∧
      ∃ f text y k, ("sitemap", f) ∈ table ∧ f.format (.whole (-11670912001)) = .ok text ∧
        (Value.str text).toSeconds .utc .null = .ok (some y) ∧ y.integer? = some k ∧
          IsGreatest {k : Int | 86400 ∣ k ∧ k ≤ -11670912001} k := by
  have hlow : 1000 ≤ (Date.ofDays (-11670912001 / 86400)).year := by decide
  have hhigh : (Date.ofDays (-11670912001 / 86400)).year ≤ 9999 := by decide
  have hsite : Zone.ofValue .null = .ok .utc := rfl
  have hwhole : (Seconds.whole (-11670912001)).integer? = some (-11670912001) := rfl
  obtain ⟨table, hstart, hiso, hsitemap⟩ := exists_standard_readBack hwhole hlow hhigh hsite DateFormat.ofValue
  exact ⟨table, hstart, hiso, hsitemap rfl⟩

end StaticSite
