import StaticSite.Project.Contents
import StaticSite.Proofs.Calendar.Range
import StaticSite.Proofs.DateFormat.Names
import StaticSite.Proofs.Text.Replacing

set_option autoImplicit false

/-! # Which dates can be shown

Dates are accepted as they are read, whether or not they can be shown: numbers of any size, and readings of clocks
that are ahead of or behind universal time when the calendar begins or ends. -/

namespace StaticSite

/-! ## Patterns without null characters -/

namespace Moment

theorem isDigit_of_mem_padded {width n : Nat} {c : Char} (h : c ∈ (padded width n).toList) : c.isDigit = true := by
  unfold padded at h
  rw [String.toList_ofList, List.mem_append] at h
  rcases h with h | h
  · rw [List.eq_of_mem_replicate h]
    rfl
  · exact Nat.isDigit_of_mem_toDigits (by decide) (by decide) h

/-- An offset without a separator is a sign and digits. -/
theorem isDigit_or_sign_of_mem_offsetText {offset : Int} {c : Char} (h : c ∈ (offsetText "" offset).toList) :
    c.isDigit = true ∨ c = '+' ∨ c = '-' := by
  unfold offsetText at h
  simp only [String.toList_append, List.mem_append] at h
  obtain (((hsign | hhours) | hnone) | hminutes) | hseconds := h
  · revert hsign
    split <;> simp_all
  · exact .inl (isDigit_of_mem_padded hhours)
  · simp at hnone
  · exact .inl (isDigit_of_mem_padded hminutes)
  · split at hseconds
    · simp at hseconds
    · rw [String.toList_append, List.mem_append] at hseconds
      rcases hseconds with hnone | hdigits
      · simp at hnone
      · exact .inl (isDigit_of_mem_padded hdigits)

theorem null_not_mem_padded (width n : Nat) : Char.ofNat 0 ∉ (padded width n).toList :=
  fun h => absurd (isDigit_of_mem_padded h) (by decide)

theorem null_not_mem_offsetText (offset : Int) : Char.ofNat 0 ∉ (offsetText "" offset).toList :=
  fun h => absurd (isDigit_or_sign_of_mem_offsetText h) (by decide)

end Moment

namespace Calendar

theorem null_not_mem_fillZone {t : Seconds.Local} (hname : Char.ofNat 0 ∉ t.time.name.toList) {s : List Char}
    (h : Char.ofNat 0 ∉ s) : Char.ofNat 0 ∉ fillZone t s := by
  fun_induction fillZone t s with
  | case1 => exact h
  | case2 => exact h
  | case3 c rest ih =>
      simp only [List.mem_cons, not_or] at h
      rw [List.mem_append, not_or]
      refine ⟨?_, ih h.2.2⟩
      split_ifs
      · exact Moment.null_not_mem_offsetText _
      · exact fun hmem => (Text.mem_of_mem_replaceFrom hmem).elim (by decide) hname
      · exact Moment.null_not_mem_padded _ _
      · simp [h.1, h.2.1]
  | case4 c rest _ _ ih =>
      simp only [List.mem_cons, not_or] at h ⊢
      exact ⟨h.1, ih h.2⟩

/-- A pattern without null characters is filled in at every moment of a zone whose name has none. -/
theorem exists_format {pattern : String} (hpattern : Char.ofNat 0 ∉ pattern.toList) {t : Seconds.Local}
    (hname : Char.ofNat 0 ∉ t.time.name.toList) : ∃ text, format pattern t = .ok text := by
  have hfilled : Char.ofNat 0 ∉
      fillZone t (replaceAll "%L" (Moment.padded 3 (t.moment.clock.micro / 1000)) pattern).toList := by
    refine null_not_mem_fillZone hname fun hmem => ?_
    rw [replaceAll, String.toList_ofList] at hmem
    rcases Text.mem_of_mem_replaceFrom hmem with hmem | hmem
    · exact Moment.null_not_mem_padded _ _ hmem
    · exact hpattern hmem
  unfold format
  dsimp only
  rw [if_neg (by simpa using hfilled)]
  exact ⟨_, rfl⟩

end Calendar

/-- A time is shown as clocks of its zone show it. -/
theorem DateFormatter.format_of_inZone {zone : Zone} {t : Seconds} {l : Seconds.Local} (h : t.inZone zone = .ok l)
    (pattern : String) : DateFormatter.format ⟨pattern, zone⟩ t = Calendar.format pattern l := by
  rw [DateFormatter.format, h, Except.bind]

/-! ## Formats in universal time -/

/-- A time is shown in universal time if and only if it lies in the calendar. -/
theorem DateFormatter.format_utc_iff {pattern : String} (hpattern : Char.ofNat 0 ∉ pattern.toList) (t : Seconds) :
    (∃ text, DateFormatter.format ⟨pattern, .utc⟩ t = .ok text) ↔
      ∃ s, t.split = .ok s ∧ Seconds.InCalendar s.seconds := by
  rw [← Seconds.inZone_utc_iff]
  cases hzone : t.inZone .utc with
  | error fault =>
      rw [DateFormatter.format, hzone]
      exact iff_of_false (by rintro ⟨text, ⟨⟩⟩) (by rintro ⟨l, ⟨⟩⟩)
  | ok l =>
      rw [DateFormatter.format_of_inZone hzone]
      obtain ⟨n, htime⟩ := Seconds.exists_time_eq hzone
      have hname : Char.ofNat 0 ∉ l.time.name.toList := by
        rw [htime]
        exact (by decide : Char.ofNat 0 ∉ "UTC".toList)
      exact iff_of_true (Calendar.exists_format hpattern hname) ⟨l, rfl⟩

namespace DateFormatters

/-- A time is shown in a table if every formatter shows it. -/
theorem exists_show_iff (t : Seconds) (table : DateFormatters) :
    (∃ shown, «show» t table = .ok shown) ↔ ∀ e ∈ table, ∃ text, e.2.format t = .ok text := by
  have hfrom : ∀ entries, (∃ shown, showFrom t entries table = .ok shown) ↔
      ∀ e ∈ table, ∃ text, e.2.format t = .ok text := by
    induction table with
    | nil => exact fun entries => iff_of_true ⟨entries, rfl⟩ (List.forall_mem_nil _)
    | cons e table ih =>
        intro entries
        rw [List.forall_mem_cons, showFrom]
        cases hformat : e.2.format t with
        | error fault => exact iff_of_false (by rintro ⟨shown, ⟨⟩⟩) (by rintro ⟨⟨text, ⟨⟩⟩, -⟩)
        | ok text => exact (ih _).trans (and_iff_right ⟨text, rfl⟩).symm
  rw [← hfrom [(.str "timestamp", t.toValue)]]
  unfold «show»
  cases showFrom t [(.str "timestamp", t.toValue)] table with
  | error fault => exact iff_of_false (by rintro ⟨shown, ⟨⟩⟩) (by rintro ⟨shown, ⟨⟩⟩)
  | ok shown => exact iff_of_true ⟨_, rfl⟩ ⟨_, rfl⟩

/-- The standard formats of a site in universal time. -/
def universal : DateFormatters :=
  styles .utc ++ standardFormatters .utc

theorem forall_mem_universal : ∀ e ∈ universal, e.2.zone = .utc ∧ Char.ofNat 0 ∉ e.2.pattern.toList := by
  have hdates : ∀ s ∈ DateFormat.dateStyles, Char.ofNat 0 ∉ s.2.toList := by decide
  have htimes : ∀ s ∈ DateFormat.timeStyles, Char.ofNat 0 ∉ s.2.toList := by decide
  unfold universal styles standardFormatters
  rw [List.forall_mem_append, List.forall_mem_append, List.forall_mem_map, List.forall_mem_map]
  refine ⟨⟨fun s hs => ⟨rfl, hdates s hs⟩, fun s hs => ⟨rfl, htimes s hs⟩⟩, ?_⟩
  rw [List.forall_mem_cons, List.forall_mem_cons, List.forall_mem_singleton]
  exact ⟨⟨rfl, by decide⟩, ⟨rfl, by decide⟩, rfl, by decide⟩

/-- A time is shown in a standard format of universal time if and only if it lies in the calendar. -/
theorem format_universal_iff {e : String × DateFormatter} (he : e ∈ universal) (t : Seconds) :
    (∃ text, e.2.format t = .ok text) ↔ ∃ s, t.split = .ok s ∧ Seconds.InCalendar s.seconds := by
  obtain ⟨hzone, hpattern⟩ := forall_mem_universal e he
  have hformat := DateFormatter.format_utc_iff hpattern t
  rwa [← hzone] at hformat

theorem show_universal_iff (t : Seconds) :
    (∃ shown, «show» t universal = .ok shown) ↔ ∃ s, t.split = .ok s ∧ Seconds.InCalendar s.seconds := by
  have hany : ("iso8601", ⟨"%Y-%m-%dT%H:%M:%S.%LZ", .utc⟩) ∈ universal := List.mem_append_right _ List.mem_cons_self
  rw [exists_show_iff]
  exact ⟨fun h => (format_universal_iff hany t).1 (h _ hany), fun h e he => (format_universal_iff he t).2 h⟩

end DateFormatters

/-! ## Dates as they are read -/

namespace Value

/-- Whether data is read as a date and a time of day. -/
def Reads (v pattern : Value) (r : Calendar.Reading) : Prop :=
  match v with
  | .moment m => r = ⟨m.date, m.clock, m.offset.map (· * 1000000)⟩
  | .date d => r = ⟨d, Clock.midnight, none⟩
  | .str s =>
      if pattern.truthy then ∃ p, pattern = .str p ∧ Calendar.scan p.toList (Text.trim s.toList) = .ok (some r)
      else Calendar.readIso? (Text.replace ['Z'] "+00:00".toList (Text.trim s.toList)) = some r
  | _ => False

/-- Whether data lies in the calendar when it stands for a date. What clocks show is compared after it is rounded to a
    decimal number of seconds. -/
def LiesInCalendar (v : Value) (zone : Zone) (pattern : Value) : Prop :=
  match v with
  | .int n => Seconds.InCalendar n
  | .float x => Seconds.LiesInCalendar x
  | v => ∃ r, v.Reads pattern r ∧ Seconds.firstMicro ≤ readingMicros zone r.date r.clock r.offset ∧
      readingMicros zone r.date r.clock r.offset ≤ Seconds.lastMicro

variable {v pattern : Value} {zone : Zone} {x : Binary64} {r : Calendar.Reading}

theorem Reads.toSeconds_eq (h : v.Reads pattern r) (zone : Zone) :
    v.toSeconds zone pattern = .ok (some (Seconds.ofMicros (readingMicros zone r.date r.clock r.offset))) := by
  cases v with
  | moment m =>
      cases h
      rfl
  | date d =>
      cases h
      rfl
  | str s =>
      unfold Reads at h
      unfold toSeconds
      dsimp only at h ⊢
      split at h
      · next hpattern =>
          obtain ⟨p, rfl, hscan⟩ := h
          rw [if_pos hpattern]
          dsimp only
          rw [hscan]
          rfl
      · next hpattern =>
          rw [if_neg hpattern, h]
          rfl
  | _ => cases h

theorem exists_reads_of_text {s : String} (h : (Value.str s).toSeconds zone pattern = .ok (some x)) :
    ∃ r, (Value.str s).Reads pattern r := by
  unfold toSeconds at h
  unfold Reads
  dsimp only at h ⊢
  split at h
  · next hpattern =>
      simp only [if_pos hpattern]
      split at h
      · next p =>
          cases hscan : Calendar.scan p.toList (Text.trim s.toList) with
          | error fault =>
              rw [hscan] at h
              cases h
          | ok scanned =>
              rw [hscan] at h
              obtain ⟨r, rfl, -⟩ := Option.map_eq_some_iff.1 (Except.ok.inj h)
              exact ⟨r, p, rfl, hscan⟩
      · cases h
  · next hpattern =>
      simp only [if_neg hpattern]
      obtain ⟨r, hread, -⟩ := Option.map_eq_some_iff.1 (Except.ok.inj h)
      exact ⟨r, hread⟩

/-- A date is a number as it is, or what clocks show. -/
theorem toSeconds_cases (h : v.toSeconds zone pattern = .ok (some x)) :
    v = .float x ∨ (∃ n, v = .int n ∧ decimalOfInt n = .ok x) ∨ ∃ r, v.Reads pattern r := by
  cases v with
  | float y =>
      cases h
      exact .inl rfl
  | int n =>
      refine .inr (.inl ⟨n, rfl, ?_⟩)
      change (decimalOfInt n).map some = .ok (some x) at h
      cases hn : decimalOfInt n with
      | error fault =>
          rw [hn] at h
          cases h
      | ok y =>
          rw [hn] at h
          cases h
          rfl
  | moment m => exact .inr (.inr ⟨_, rfl⟩)
  | date d => exact .inr (.inr ⟨_, rfl⟩)
  | str s => exact .inr (.inr (exists_reads_of_text h))
  | _ => cases h

/-- Reading keeps data in the calendar or out of it. -/
theorem liesInCalendar_toSeconds (h : v.toSeconds zone pattern = .ok (some x)) :
    v.LiesInCalendar zone pattern ↔ Seconds.LiesInCalendar x := by
  rcases toSeconds_cases h with rfl | ⟨n, rfl, hn⟩ | ⟨r, hr⟩
  · exact Iff.rfl
  · exact (Seconds.liesInCalendar_decimalOfInt hn).symm
  · have hreading {r : Calendar.Reading} (hr : v.Reads pattern r) :
        x = Seconds.ofMicros (readingMicros zone r.date r.clock r.offset) :=
      Option.some.inj (Except.ok.inj (h.symm.trans (hr.toSeconds_eq zone)))
    have hlies : v.LiesInCalendar zone pattern ↔ ∃ r, v.Reads pattern r ∧
        Seconds.firstMicro ≤ readingMicros zone r.date r.clock r.offset ∧
          readingMicros zone r.date r.clock r.offset ≤ Seconds.lastMicro := by
      cases v with
      | int n => cases hr
      | float y => cases hr
      | _ => exact Iff.rfl
    rw [hlies]
    constructor
    · rintro ⟨r, hr, hwithin⟩
      rw [hreading hr]
      exact (Seconds.liesInCalendar_ofMicros _).2 hwithin
    · intro hx
      rw [hreading hr] at hx
      exact ⟨r, hr, (Seconds.liesInCalendar_ofMicros _).1 hx⟩

/-- Dates are decimals of at most 53 bits if numbers are. -/
theorem isDouble_toSeconds (hv : ∀ y, v = .float y → y.IsDouble) (h : v.toSeconds zone pattern = .ok (some x)) :
    x.IsDouble := by
  rcases toSeconds_cases h with rfl | ⟨n, rfl, hn⟩ | ⟨r, hr⟩
  · exact hv x rfl
  · rw [eq_ofRatio_of_decimalOfInt hn]
    exact Binary64.isDouble_ofRatio n Nat.one_pos
  · rw [← Option.some.inj (Except.ok.inj ((hr.toSeconds_eq zone).symm.trans h))]
    exact Binary64.isDouble_ofRatio _ (by decide)

end Value

/-! ## Dates that are shown -/

namespace DateFormatters

variable {v pattern : Value} {zone : Zone} {x : Binary64}

theorem format_date_iff (hv : ∀ y, v = .float y → y.IsDouble) (h : v.toSeconds zone pattern = .ok (some x))
    {e : String × DateFormatter} (he : e ∈ universal) :
    (∃ text, e.2.format (.decimal x) = .ok text) ↔ v.LiesInCalendar zone pattern := by
  rw [format_universal_iff he, Seconds.split_inCalendar_iff (Value.isDouble_toSeconds hv h),
    Value.liesInCalendar_toSeconds h]

theorem show_date_iff (hv : ∀ y, v = .float y → y.IsDouble) (h : v.toSeconds zone pattern = .ok (some x)) :
    (∃ shown, «show» (.decimal x) universal = .ok shown) ↔ v.LiesInCalendar zone pattern := by
  rw [show_universal_iff, Seconds.split_inCalendar_iff (Value.isDouble_toSeconds hv h),
    Value.liesInCalendar_toSeconds h]

end DateFormatters

namespace PropertyDefinition

variable {p : PropertyDefinition} {zone : Zone} {v stored timeZone : Value}

/-- A date is kept as the time that it is read as. -/
theorem exists_toSeconds_of_convert? (hp : p.type = .date) (h : p.convert? zone v = .ok (some stored)) :
    ∃ x, stored = .float x ∧ v.toSeconds zone p.format = .ok (some x) := by
  unfold convert? convert at h
  rw [hp] at h
  dsimp only at h
  cases hread : v.toSeconds zone p.format with
  | error fault =>
      rw [hread] at h
      split at h
      · split at h <;> cases h
      · next hnot => exact absurd rfl (hnot fault)
  | ok seconds =>
      rw [hread] at h
      obtain ⟨x, rfl, rfl⟩ := Option.map_eq_some_iff.1 (Except.ok.inj h)
      exact ⟨x, rfl, rfl⟩

/-- A date that a content keeps is shown in the standard formats of universal time if and only if it lies in the
    calendar. What is kept but lies outside of it is shown in none of them. -/
theorem date_shown_iff (hp : p.type = .date) (hv : ∀ y, v = .float y → y.IsDouble)
    (h : p.convert? zone v = .ok (some stored)) (hutc : Zone.ofValue timeZone = .ok .utc) {α : Type}
    (read : α → Checked DateFormat) :
    ∃ x table, stored = .float x ∧ (DateFormatters.prepare timeZone [] read).start = (.ok table, []) ∧
      (∀ e ∈ table, (∃ text, e.2.format (.decimal x) = .ok text) ↔ v.LiesInCalendar zone p.format) ∧
      ((∃ shown, DateFormatters.show (.decimal x) table = .ok shown) ↔ v.LiesInCalendar zone p.format) := by
  obtain ⟨x, rfl, hread⟩ := exists_toSeconds_of_convert? hp h
  exact ⟨x, _, rfl, DateFormatters.prepare_nil hutc read, fun e he => DateFormatters.format_date_iff hv hread he,
    DateFormatters.show_date_iff hv hread⟩

/-- A property with dates in ISO 8601. -/
def day : PropertyDefinition :=
  { type := .date, required := false, default := .null, format := .null }

theorem date_shown_iff_leapDay :
    ∃ x table, day.convert? .utc (.str "2000-02-29") = .ok (some (.float x)) ∧
      (DateFormatters.prepare .null ([] : Table Value) DateFormat.ofValue).start = (.ok table, []) ∧
      ((∃ shown, DateFormatters.show (.decimal x) table = .ok shown) ↔
        Value.LiesInCalendar (.str "2000-02-29") .utc .null) ∧
      Value.LiesInCalendar (.str "2000-02-29") .utc .null := by
  have hkept : day.convert? .utc (.str "2000-02-29") =
      .ok (some (.float (Seconds.ofMicros 951782400000000))) := rfl
  have hutc : Zone.ofValue .null = .ok .utc := rfl
  have hlies : Value.LiesInCalendar (.str "2000-02-29") .utc .null :=
    ⟨⟨⟨2000, 2, 29⟩, Clock.midnight, none⟩, rfl, by decide, by decide⟩
  obtain ⟨x, table, hx, htable, -, hshown⟩ := date_shown_iff rfl (fun y hy => by cases hy) hkept hutc DateFormat.ofValue
  exact ⟨x, table, hx ▸ hkept, htable, hshown, hlies⟩

/-- Whether data is kept as a date that a site in universal time shows in none of its formats. -/
def IsKeptUnshown (p : PropertyDefinition) (zone : Zone) (v : Value) : Prop :=
  ∃ x table, p.convert? zone v = .ok (some (.float x)) ∧
    (DateFormatters.prepare .null ([] : Table Value) DateFormat.ofValue).start = (.ok table, []) ∧
    ∀ e ∈ table, ¬∃ text, e.2.format (.decimal x) = .ok text

/-- Infinity and a morning in Japan, where the calendar begins before it does in universal time. -/
theorem dates_kept_unshown :
    day.IsKeptUnshown .utc (.float (.infinity false)) ∧
      day.IsKeptUnshown .utc (.str "0001-01-01T00:00:00+09:00") := by
  have hutc : Zone.ofValue .null = .ok .utc := rfl
  have htable := DateFormatters.prepare_nil hutc DateFormat.ofValue
  have hinfinity : (Value.float (.infinity false)).toSeconds .utc .null = .ok (some (.infinity false)) := rfl
  have hmorning : (Value.str "0001-01-01T00:00:00+09:00").toSeconds .utc .null =
      .ok (some (Seconds.ofMicros (-62135629200000000))) := rfl
  refine ⟨⟨.infinity false, _, rfl, htable, fun e he => ?_⟩,
    ⟨Seconds.ofMicros (-62135629200000000), _, rfl, htable, fun e he => ?_⟩⟩
  · rw [DateFormatters.format_date_iff (fun y hy => by cases hy; trivial) hinfinity he]
    rintro ⟨num, den, ⟨⟩, -⟩
  · rw [DateFormatters.format_date_iff (fun y hy => by cases hy) hmorning he, Value.liesInCalendar_toSeconds hmorning,
      Seconds.liesInCalendar_ofMicros]
    decide

end PropertyDefinition

end StaticSite
