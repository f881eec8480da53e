import TokenGate.Time.MailDate

/-!
# How late a date can be

Years, hours and zones are bounded, so the second of a date that can be read is bounded too.
-/

namespace TokenGate.MailDate

theorem dayNumber_le {year : Int} {month day : Nat} (h : year ≤ lastYear) (h' : day ≤ 31) :
    Calendar.dayNumber year month day ≤ 100000000 := by
  unfold Calendar.dayNumber lastYear at *
  simp only
  split <;> omega

theorem le_zoneHours? {name : List Char} {hours : Int} (h : zoneHours? name = some hours) : -8 ≤ hours := by
  unfold zoneHours? at h
  split at h
  -- Zones of one letter have no offset.
  case h_12 =>
    split at h
    · simp only [Option.ite_none_right_eq_some, Option.some.injEq] at h
      omega
    · cases h
  all_goals
    obtain rfl := Option.some.inj h
    omega

theorem le_zone? {s rest : List Char} {offset : Int} (h : zone? s = some (offset, rest)) :
    -86400 ≤ offset := by
  unfold zone? at h
  simp only at h
  split at h
  · obtain ⟨hours, read, same⟩ := Option.map_eq_some_iff.1 h
    have := le_zoneHours? read
    obtain ⟨rfl, -⟩ := Prod.mk.inj same
    omega
  · split at h
    · obtain ⟨h1, -, h⟩ := Option.bind_eq_some_iff.1 h
      obtain ⟨h2, -, h⟩ := Option.bind_eq_some_iff.1 h
      obtain ⟨m1, -, h⟩ := Option.bind_eq_some_iff.1 h
      obtain ⟨m2, -, h⟩ := Option.bind_eq_some_iff.1 h
      simp only [Option.ite_none_left_eq_some] at h
      obtain ⟨small, h⟩ := h
      split at h
      · obtain ⟨rfl, -⟩ := Prod.mk.inj (Option.some.inj h)
        omega
      · obtain ⟨-, same⟩ := Option.ite_none_right_eq_some.1 h
        obtain ⟨rfl, -⟩ := Prod.mk.inj (Option.some.inj same)
        omega
    · cases h

theorem daysInMonth_le (year : Int) (month : Nat) : Calendar.daysInMonth year month ≤ 31 := by
  unfold Calendar.daysInMonth
  split
  · split <;> omega
  all_goals omega

theorem lt_of_read? {text : List Char} {date : Int} (h : read? text = some date) :
    date < 9223372036854775808 := by
  unfold read? at h
  -- Of what is read, only the zone has bounds of its own. The numbers get theirs from the final check.
  obtain ⟨⟨weekday, s⟩, -, h⟩ := Option.bind_eq_some_iff.1 h
  obtain ⟨⟨day, _, s⟩, -, h⟩ := Option.bind_eq_some_iff.1 h
  obtain ⟨s, -, h⟩ := Option.bind_eq_some_iff.1 h
  obtain ⟨⟨month, s⟩, -, h⟩ := Option.bind_eq_some_iff.1 h
  obtain ⟨s, -, h⟩ := Option.bind_eq_some_iff.1 h
  obtain ⟨⟨year, digits, s⟩, -, h⟩ := Option.bind_eq_some_iff.1 h
  obtain ⟨s, -, h⟩ := Option.bind_eq_some_iff.1 h
  obtain ⟨⟨hour, _, s⟩, -, h⟩ := Option.bind_eq_some_iff.1 h
  obtain ⟨s, -, h⟩ := Option.bind_eq_some_iff.1 h
  obtain ⟨⟨minute, _, s⟩, -, h⟩ := Option.bind_eq_some_iff.1 h
  obtain ⟨⟨second, s⟩, -, h⟩ := Option.bind_eq_some_iff.1 h
  obtain ⟨s, -, h⟩ := Option.bind_eq_some_iff.1 h
  obtain ⟨⟨offset, s⟩, zone, h⟩ := Option.bind_eq_some_iff.1 h
  have least := le_zone? zone
  simp only [Option.ite_none_right_eq_some, Option.some.injEq] at h
  obtain ⟨⟨-, -, inMonth, inYears, hourly, minutely, secondly, -⟩, rfl⟩ := h
  have days : Calendar.dayNumber (fullYear digits year : Nat) (month + 1) day ≤ 100000000 :=
    dayNumber_le (Int.ofNat_le.2 inYears) (Nat.le_trans inMonth (daysInMonth_le _ _))
  omega

end TokenGate.MailDate
