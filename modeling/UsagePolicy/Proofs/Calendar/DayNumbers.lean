import UsagePolicy.Proofs.Calendar.Order

/-!
# Dates by their numbers

Every day number below that of the first day of year 10000 is the number of exactly one date, and
every instant from the start of year 1 up to that day is one universal time. Outside of these bounds
there is none.
-/
namespace UsagePolicy

def calendarDays : Nat := daysBeforeYear 10000

namespace Date

theorem yearAndDays_eq {n year days : Nat} (h : yearAndDays n = (year, days)) :
    1 ≤ year ∧ daysBeforeYear year + days = n ∧ days < daysInYear year := by
  simp only [yearAndDays, Prod.mk.injEq] at h
  obtain ⟨hyear, hdays⟩ := h
  -- The counts of cycles of 400, 100, 4 and 1 years, with what each leaves over.
  have hquarters := Nat.div_add_mod n 146097
  have hrest := Nat.mod_lt n (show 0 < 146097 by decide)
  generalize n / 146097 = quarters at *
  generalize n % 146097 = rest at *
  have hcenturies : min (rest / 36524) 3 ≤ 3 ∧ 36524 * min (rest / 36524) 3 ≤ rest ∧
      (rest < 36524 * min (rest / 36524) 3 + 36524 ∨ min (rest / 36524) 3 = 3) := by omega
  generalize min (rest / 36524) 3 = centuries at *
  generalize hshort : rest - 36524 * centuries = short at *
  have hleaps := Nat.div_add_mod short 1461
  have hyears := Nat.mod_lt short (show 0 < 1461 by decide)
  generalize short / 1461 = leaps at *
  generalize short % 1461 = last at *
  have hlast : min (last / 365) 3 ≤ 3 ∧ 365 * min (last / 365) 3 ≤ last ∧
      (last < 365 * min (last / 365) 3 + 365 ∨ min (last / 365) 3 = 3) := by omega
  generalize min (last / 365) 3 = years at *
  subst hyear hdays
  have hcentury : 4 * leaps + years ≤ 99 := by omega
  refine ⟨by omega, ?_, ?_⟩
  · have hfours : (400 * quarters + 100 * centuries + 4 * leaps + years) / 4 =
        100 * quarters + 25 * centuries + leaps := by omega
    have hhundreds : (400 * quarters + 100 * centuries + 4 * leaps + years) / 100 =
        4 * quarters + centuries := by omega
    have hlong : (400 * quarters + 100 * centuries + 4 * leaps + years) / 400 = quarters := by
      omega
    rw [daysBeforeYear, Nat.add_sub_cancel, hfours, hhundreds, hlong]
    omega
  · rcases (show last - 365 * years < 365 ∨ years = 3 ∧ last = 1460 by omega) with
      hday | ⟨rfl, rfl⟩
    · unfold daysInYear
      split_ifs <;> omega
    · -- The last day of a leap year: a century ends with one only if its cycle does.
      have hleap : isLeapYear (400 * quarters + 100 * centuries + 4 * leaps + 3 + 1) = true := by
        rw [isLeapYear_iff]
        have hcycle : leaps < 24 ∨ centuries = 3 := by omega
        omega
      rw [daysInYear, hleap]
      decide

theorem monthAndDay_eq {lengths : List Nat} {days month day : Nat} (h : days < lengths.sum)
    (heq : monthAndDay lengths days = (month, day)) :
    1 ≤ month ∧ 1 ≤ day ∧ day ≤ (lengths[month - 1]?).getD 0 ∧
      (lengths.take (month - 1)).sum + (day - 1) = days := by
  induction lengths generalizing days month day with
  | nil => simp at h
  | cons length rest ih =>
    unfold monthAndDay at heq
    split at heq
    · next hlt =>
      obtain ⟨rfl, rfl⟩ := Prod.mk.inj heq
      simp
      omega
    · next hle =>
      simp only [Prod.mk.injEq] at heq
      obtain ⟨rfl, rfl⟩ := heq
      rw [List.sum_cons] at h
      have hlt : days - length < rest.sum := by omega
      obtain ⟨hmonth, hday, hle', hsum⟩ := ih hlt rfl
      obtain ⟨k, hk⟩ : ∃ k, (monthAndDay rest (days - length)).1 = k + 1 :=
        ⟨_, (Nat.sub_add_cancel hmonth).symm⟩
      rw [hk] at hle' hsum ⊢
      simp only [Nat.add_sub_cancel, List.getElem?_cons_succ, List.take_succ_cons,
        List.sum_cons] at hle' hsum ⊢
      omega

theorem dayNumber_inj {d e : Date} : d.dayNumber = e.dayNumber ↔ d = e := by
  constructor
  · intro h
    have hlt := @dayNumber_lt_iff d e
    have hgt := @dayNumber_lt_iff e d
    obtain ⟨year, month, day, _, _⟩ := d
    obtain ⟨year', month', day', _, _⟩ := e
    simp only [Date.mk.injEq] at hlt hgt ⊢
    omega
  · rintro rfl
    rfl

theorem dayNumber_lt (d : Date) : d.dayNumber < calendarDays := by
  have hlast : d.year < 10000 := by
    have := d.year_range
    omega
  have hyear := daysBeforeYear_le d.year_range.1 hlast
  have hmonth := daysBeforeMonth_le_daysInYear d.year d.month_range.1 d.month_range.2
  have hday := d.day_range
  unfold dayNumber calendarDays
  omega

theorem ofDayNumber?_of_lt {n : Nat} (h : n < calendarDays) :
    ∃ d, ofDayNumber? n = some d ∧ d.dayNumber = n := by
  rcases hyear : yearAndDays n with ⟨year, days⟩
  rcases hmonth : monthAndDay (monthLengths year) days with ⟨month, day⟩
  obtain ⟨hfirst, hsum, hlt⟩ := yearAndDays_eq hyear
  rw [← sum_monthLengths] at hlt
  obtain ⟨hmonth1, hday1, hday, hdays⟩ := monthAndDay_eq hlt hmonth
  have hlast : year ≤ 9999 := by
    rcases Nat.lt_trichotomy year 10000 with hyear' | rfl | hyear'
    · omega
    · unfold calendarDays at h
      omega
    · have := daysBeforeYear_le (by decide) hyear'
      unfold calendarDays at h
      omega
  have hrange : 1 ≤ day ∧ day ≤ daysInMonth year month := by
    unfold daysInMonth
    rw [if_neg (by omega)]
    exact ⟨hday1, hday⟩
  refine ⟨⟨year, month, day, ⟨hfirst, hlast⟩, hrange⟩, ?_, ?_⟩
  · simp only [ofDayNumber?, hyear, hmonth]
    exact of?_self ⟨year, month, day, ⟨hfirst, hlast⟩, hrange⟩
  · simp only [dayNumber, daysBeforeMonth_eq]
    omega

theorem year_of_of? {year month day : Nat} {d : Date} (h : of? year month day = some d) :
    d.year = year := by
  unfold of? at h
  split at h
  · cases h
    rfl
  · cases h

theorem lt_of_ofDayNumber? {n : Nat} {d : Date} (h : ofDayNumber? n = some d) :
    n < calendarDays := by
  rcases hyear : yearAndDays n with ⟨year, days⟩
  simp only [ofDayNumber?, hyear] at h
  obtain ⟨hfirst, hsum, hlt⟩ := yearAndDays_eq hyear
  have hlast := d.year_range.2
  rw [year_of_of? h] at hlast
  have hyears := daysBeforeYear_le hfirst (show year < 10000 by omega)
  unfold calendarDays
  omega

theorem ofDayNumber?_eq_some {n : Nat} {d : Date} : ofDayNumber? n = some d ↔ d.dayNumber = n := by
  constructor
  · intro h
    obtain ⟨e, he, hn⟩ := ofDayNumber?_of_lt (lt_of_ofDayNumber? h)
    rw [h] at he
    exact Option.some.inj he ▸ hn
  · rintro rfl
    obtain ⟨e, he, hn⟩ := ofDayNumber?_of_lt d.dayNumber_lt
    rw [he, dayNumber_inj.mp hn]

end Date

/-- The instant lies in the years 1 to 9999 of universal time. -/
def Timestamp.InCalendar (t : Timestamp) : Prop :=
  0 ≤ t.instant ∧ t.instant < (calendarDays * Timestamp.microsecondsPerDay : Nat)

instance (t : Timestamp) : Decidable t.InCalendar :=
  inferInstanceAs (Decidable (_ ∧ _))

namespace UniversalTime

theorem instant_toTimestamp (u : UniversalTime) : u.toTimestamp.instant =
    (u.date.dayNumber * Timestamp.microsecondsPerDay + u.time.microseconds : Nat) := by
  simp [toTimestamp, Timestamp.instant, Offset.utc]

theorem microseconds_lt (time : TimeOfDay) : time.microseconds < Timestamp.microsecondsPerDay := by
  have hseconds := time.seconds_lt
  have hmicrosecond := time.microsecond.isLt
  rw [TimeOfDay.microseconds_eq, Timestamp.microsecondsPerDay]
  omega

theorem inCalendar (u : UniversalTime) : u.toTimestamp.InCalendar := by
  have hday := u.date.dayNumber_lt
  have htime := microseconds_lt u.time
  unfold Timestamp.InCalendar
  rw [instant_toTimestamp]
  have hle : (u.date.dayNumber + 1) * Timestamp.microsecondsPerDay ≤
      calendarDays * Timestamp.microsecondsPerDay := Nat.mul_le_mul_right _ hday
  rw [Nat.add_mul] at hle
  omega

theorem instant_of_dayNumber {n : Nat} {date : Date}
    (h : date.dayNumber = n / Timestamp.microsecondsPerDay) :
    (toTimestamp ⟨date, .ofMicroseconds (n % Timestamp.microsecondsPerDay)⟩).instant = n := by
  have htime : (TimeOfDay.ofMicroseconds (n % Timestamp.microsecondsPerDay)).microseconds =
      n % Timestamp.microsecondsPerDay :=
    TimeOfDay.microseconds_ofMicroseconds (Nat.mod_lt n (by decide))
  rw [instant_toTimestamp, h, htime, Nat.div_add_mod']

theorem ofInstant?_eq_some {instant : Int} {u : UniversalTime} :
    ofInstant? instant = some u ↔ u.toTimestamp.instant = instant := by
  constructor
  · intro h
    unfold ofInstant? at h
    split at h
    · cases h
    · obtain ⟨date, hdate, rfl⟩ := Option.map_eq_some_iff.mp h
      rw [instant_of_dayNumber (Date.ofDayNumber?_eq_some.mp hdate)]
      omega
  · rintro rfl
    rw [instant_toTimestamp]
    have htime := microseconds_lt u.time
    have hdiv : (u.date.dayNumber * Timestamp.microsecondsPerDay + u.time.microseconds) /
        Timestamp.microsecondsPerDay = u.date.dayNumber := by
      rw [Nat.mul_comm, Nat.mul_add_div (by decide), Nat.div_eq_of_lt htime, Nat.add_zero]
    have hmod : (u.date.dayNumber * Timestamp.microsecondsPerDay + u.time.microseconds) %
        Timestamp.microsecondsPerDay = u.time.microseconds := by
      rw [Nat.mul_comm, Nat.mul_add_mod, Nat.mod_eq_of_lt htime]
    rw [ofInstant?, if_neg (by omega), Int.toNat_natCast, hdiv, hmod,
      Date.ofDayNumber?_eq_some.mpr rfl, Option.map_some, TimeOfDay.ofMicroseconds_microseconds]

theorem exists_instant_eq {t : Timestamp} (h : t.InCalendar) :
    ∃ u : UniversalTime, u.toTimestamp.instant = t.instant := by
  obtain ⟨hpos, hlt⟩ := h
  obtain ⟨n, hn⟩ := Int.eq_ofNat_of_zero_le hpos
  rw [hn, Int.ofNat_lt] at hlt
  have hdays : n / Timestamp.microsecondsPerDay < calendarDays :=
    (Nat.div_lt_iff_lt_mul (by decide)).mpr hlt
  obtain ⟨date, -, hday⟩ := Date.ofDayNumber?_of_lt hdays
  exact ⟨_, (instant_of_dayNumber hday).trans hn.symm⟩

end UniversalTime

namespace Timestamp

variable {t : Timestamp}

theorem toUniversal_eq_ok {u : UniversalTime} :
    t.toUniversal = .ok u ↔ u.toTimestamp.instant = t.instant := by
  rw [← UniversalTime.ofInstant?_eq_some, toUniversal]
  split <;> simp [*]

theorem toUniversal_cases (t : Timestamp) :
    (t.InCalendar ∧ ∃ u, t.toUniversal = .ok u) ∨ ¬ t.InCalendar ∧ t.toUniversal = .error {} := by
  by_cases h : t.InCalendar
  · obtain ⟨u, hu⟩ := UniversalTime.exists_instant_eq h
    exact Or.inl ⟨h, u, toUniversal_eq_ok.mpr hu⟩
  · refine Or.inr ⟨h, ?_⟩
    cases hu : t.toUniversal with
    | error _ => rfl
    | ok u =>
      have hin := u.inCalendar
      unfold InCalendar at h hin
      rw [toUniversal_eq_ok.mp hu] at hin
      exact absurd hin h

/-- The time of issue can be written exactly if it lies in the calendar. -/
theorem issuedText_cases (t : Timestamp) :
    (t.InCalendar ∧ ∃ text, t.issuedText = .ok text) ∨
      ¬ t.InCalendar ∧ t.issuedText = .error {} := by
  rcases t.toUniversal_cases with ⟨h, u, hu⟩ | ⟨h, hu⟩
  · exact Or.inl ⟨h, _, by rw [issuedText, hu]; rfl⟩
  · exact Or.inr ⟨h, by rw [issuedText, hu]; rfl⟩

end Timestamp
end UsagePolicy
