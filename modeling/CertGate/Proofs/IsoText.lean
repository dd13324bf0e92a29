import CertGate.Summary
import CertGate.Time.Iso
import Mathlib.Algebra.Group.Nat.Defs

/-!
# Times that are read as they are written

The ISO form of a moment of universal time, as a summary shows it, is read as that moment
(`ofIso?_universalText`). Each number in it fills its place with digits (`Iso.number?_padded`), so that
it is read up to the character that divides it from the next one.
-/

namespace CertGate

/-! ## Numbers that fill their place -/

namespace Text
variable {width n : Nat}

theorem length_padded (pos : 0 < width) (fits : n < 10 ^ width) :
    (padded 10 width n).length = width := by
  rw [padded, List.length_leftpad]
  exact Nat.max_eq_left ((Nat.length_toDigits_le_iff (by decide) pos).2 fits)

theorem isDigit_of_mem_padded {c : Char} (mem : c ∈ padded 10 width n) : c.isDigit = true := by
  rcases List.mem_append.1 mem with zero | digit
  · rw [List.eq_of_mem_replicate zero]
    rfl
  · exact Nat.isDigit_of_mem_toDigits (by decide) (by decide) digit

theorem foldl_zeros (k : Nat) :
    (List.replicate k '0').foldl (pushDigit? 10) (some 0) = some 0 := by
  induction k with
  | zero => rfl
  | succ k ih =>
    rw [List.replicate_succ, List.foldl_cons]
    exact ih

theorem ofDigits?_padded (width n : Nat) : ofDigits? 10 (padded 10 width n) = some n := by
  have filled : padded 10 width n ≠ [] := by
    simp [padded, List.leftpad, Nat.toDigits_ne_nil]
  rw [ofDigits?, if_neg (by simpa using filled), padded, List.leftpad, List.foldl_append,
    foldl_zeros, foldl_toDigits (by decide) (by decide)]

end Text

namespace Iso
open Text (padded)

/-- A number is read from its place, and what follows is left. -/
theorem number?_padded {width n : Nat} (pos : 0 < width) (fits : n < 10 ^ width)
    (rest : List Char) : number? width (padded 10 width n ++ rest) = some (n, rest) := by
  have length := Text.length_padded pos fits
  have front : (padded 10 width n ++ rest).take width = padded 10 width n := List.take_left' length
  have back : (padded 10 width n ++ rest).drop width = rest := List.drop_left' length
  rw [number?]
  simp only [front, back, length, if_true, Text.ofDigits?_padded, Option.map_some]

theorem number?_whole {width n : Nat} (pos : 0 < width) (fits : n < 10 ^ width) :
    number? width (padded 10 width n) = some (n, []) := by
  have read := number?_padded pos fits []
  rwa [List.append_nil] at read

/-! ## The date -/

theorem date?_of_parts {year month day : Nat} (hy : year < 10 ^ 4) (hm : month < 10 ^ 2)
    (hd : day < 10 ^ 2) :
    date? (padded 10 4 year ++ '-' :: (padded 10 2 month ++ '-' :: padded 10 2 day)) =
      Date.of? year month day := by
  unfold date?
  rw [number?_padded (by decide) hy]
  simp only [Option.bind_eq_bind, Option.bind_some, List.head?_cons, decide_true, if_true,
    List.drop_succ_cons, List.drop_zero]
  split
  -- a month does not begin with the letter of a week
  next rest week =>
    have digit : 'W' ∈ padded 10 2 month := by
      have length := Text.length_padded (by decide) hm
      cases front : padded 10 2 month with
      | nil => rw [front] at length; cases length
      | cons c cs =>
        rw [front, List.cons_append] at week
        exact List.mem_cons.2 (.inl (List.cons.inj week).1.symm)
    exact absurd (Text.isDigit_of_mem_padded digit) (by decide)
  next =>
    rw [number?_padded (by decide) hm]
    simp only [Option.bind_some, hyphen?, expect?, if_true]
    rw [number?_whole (by decide) hd]
    rfl

/-- The date takes up ten characters when it stands with hyphens and no week. -/
theorem dateLength_of_parts {year month : Nat} (hy : year < 10 ^ 4) (hm : month < 10 ^ 2)
    {rest : List Char} (long : 3 ≤ rest.length) :
    dateLength (padded 10 4 year ++ '-' :: (padded 10 2 month ++ rest)) = 10 := by
  have years := Text.length_padded (by decide) hy
  have months := Text.length_padded (by decide) hm
  have hyphen : (padded 10 4 year ++ '-' :: (padded 10 2 month ++ rest))[4]? = some '-' := by
    rw [List.getElem?_append_right (by omega), years]
    rfl
  have digit : (padded 10 4 year ++ '-' :: (padded 10 2 month ++ rest))[5]? ≠ some 'W' := by
    rw [List.getElem?_append_right (by omega), years]
    show (padded 10 2 month ++ rest)[0]? ≠ some 'W'
    rw [List.getElem?_append_left (by omega)]
    intro week
    exact absurd (Text.isDigit_of_mem_padded (List.mem_of_getElem? week)) (by decide)
  have length : (padded 10 4 year ++ '-' :: (padded 10 2 month ++ rest)).length ≠ 7 := by
    simp only [List.length_append, List.length_cons]
    omega
  unfold dateLength
  dsimp only
  rw [if_neg length, if_pos hyphen, if_neg]
  simp [digit]

/-! ## The time of day -/

/-- A number with a colon behind it, and more behind that. -/
theorem parts?_colon {left n : Nat} {colons? : Option Bool} (mode : colons?.getD true = true)
    (fits : n < 10 ^ 2) {more : List Char} (ne : more ≠ []) :
    parts? (left + 1) colons? (padded 10 2 n ++ ':' :: more) =
      (parts? left (some true) more).map (Parts.push n) := by
  obtain ⟨c, cs, rfl⟩ := List.exists_cons_of_ne_nil ne
  rw [parts?, number?_padded (by decide) fits]
  simp only [Option.bind_eq_bind, Option.bind_some, decide_true, mode, Bool.and_self, if_true]
  cases parts? left (some true) (c :: cs) <;> rfl

theorem parts?_last {left n : Nat} {colons? : Option Bool} (fits : n < 10 ^ 2) :
    parts? (left + 1) colons? (padded 10 2 n) = some ⟨[n], 0, []⟩ := by
  rw [parts?, number?_whole (by decide) fits]
  rfl

theorem parts?_fraction {left n micro : Nat} (fits : n < 10 ^ 2) (small : micro < 10 ^ 6) :
    parts? (left + 1) (some true) (padded 10 2 n ++ '.' :: padded 10 6 micro) =
      some ⟨[n], micro, []⟩ := by
  have digits := Text.length_padded (by decide) small
  have read : fraction? (padded 10 6 micro) = some ⟨[], micro, []⟩ := by
    unfold fraction?
    rw [digits, Nat.min_self]
    simp [number?_whole (by decide) small]
  obtain ⟨c, cs, same⟩ : ∃ c cs, padded 10 6 micro = c :: cs :=
    List.exists_cons_of_ne_nil fun nil => by simp [nil] at digits
  rw [parts?, number?_padded (by decide) fits]
  rw [same] at read ⊢
  simp [read, Parts.push]

/-- No offset begins with a digit. -/
theorem not_isZone_of_isDigit {c : Char} (digit : c.isDigit = true) : isZone c = false := by
  cases zone : isZone c with
  | false => rfl
  | true =>
    simp only [isZone, Bool.or_eq_true, decide_eq_true_eq] at zone
    rcases zone with (rfl | rfl) | rfl <;> cases digit

/-- Hour, minute and second, and microseconds where there are any. -/
theorem parts?_of_numbers {hour minute second micro : Nat} (hh : hour < 10 ^ 2)
    (hm : minute < 10 ^ 2) (hs : second < 10 ^ 2) (small : micro < 10 ^ 6) :
    parts? 3 none (padded 10 2 hour ++ ':' :: (padded 10 2 minute ++ ':' :: (padded 10 2 second ++
      if micro = 0 then [] else '.' :: padded 10 6 micro))) =
        some ⟨[hour, minute, second], micro, []⟩ := by
  have filled : padded 10 2 second ≠ [] := fun nil => by
    have length := Text.length_padded (by decide) hs
    rw [nil] at length
    cases length
  rw [parts?_colon rfl hh (by simp), parts?_colon rfl hm (by simp [filled])]
  by_cases none : micro = 0
  · rw [if_pos none, List.append_nil, parts?_last hs, none]
    rfl
  · rw [if_neg none, parts?_fraction hs small]
    rfl

end Iso

/-! ## Dates and moments -/

theorem daysInMonth_le (year month : Nat) : daysInMonth year month ≤ 31 := by
  unfold daysInMonth
  repeat' split
  all_goals decide

namespace Date

theorem of?_self (d : Date) : Date.of? d.year d.month d.day = some d := dif_pos d.real

theorem year_lt (d : Date) : d.year < 10 ^ 4 := by
  have real := d.real
  simp only [isDayOf, Bool.and_eq_true, decide_eq_true_eq] at real
  omega

theorem month_lt (d : Date) : d.month < 10 ^ 2 := by
  have real := d.real
  simp only [isDayOf, Bool.and_eq_true, decide_eq_true_eq] at real
  omega

theorem day_lt (d : Date) : d.day < 10 ^ 2 := by
  have real := d.real
  have last := daysInMonth_le d.year d.month
  simp only [isDayOf, Bool.and_eq_true, decide_eq_true_eq] at real
  omega

end Date

namespace Moment

theorem of?_self (m : Moment) :
    Moment.of? m.date m.hour m.minute m.secondOfMinute m.micro = some m := by
  obtain ⟨date, second, micro⟩ := m
  have hs := second.isLt
  unfold Moment.of? Moment.hour Moment.minute Moment.secondOfMinute
  dsimp only
  rw [dif_pos (by omega)]
  congr 2
  apply Fin.ext
  show second.val / 3600 * 3600 + second.val / 60 % 60 * 60 + second.val % 60 = second.val
  omega

theorem toList_dateText (m : Moment) : m.dateText.toList =
    Text.padded 10 4 m.date.year ++ '-' :: (Text.padded 10 2 m.date.month ++
      '-' :: Text.padded 10 2 m.date.day) := by
  simp [dateText]

theorem toList_timeText (m : Moment) : m.timeText.toList =
    Text.padded 10 2 m.hour ++ ':' :: (Text.padded 10 2 m.minute ++
      ':' :: (Text.padded 10 2 m.secondOfMinute ++
        if m.micro.val = 0 then [] else '.' :: Text.padded 10 6 m.micro)) := by
  simp [timeText]

theorem length_dateText (m : Moment) : m.dateText.toList.length = 10 := by
  have years := Text.length_padded (by decide) m.date.year_lt
  have months := Text.length_padded (by decide) m.date.month_lt
  have days := Text.length_padded (by decide) m.date.day_lt
  rw [toList_dateText]
  simp only [List.length_append, List.length_cons]
  omega

theorem not_isZone_of_mem_timeText {m : Moment} {c : Char} (mem : c ∈ m.timeText.toList) :
    Iso.isZone c = false := by
  have digits {w n : Nat} (h : c ∈ Text.padded 10 w n) : Iso.isZone c = false :=
    Iso.not_isZone_of_isDigit (Text.isDigit_of_mem_padded h)
  rw [toList_timeText] at mem
  simp only [List.mem_append, List.mem_cons] at mem
  rcases mem with h | rfl | h | rfl | h | h
  · exact digits h
  · rfl
  · exact digits h
  · rfl
  · exact digits h
  · split at h
    · cases h
    · rcases List.mem_cons.1 h with rfl | h
      · rfl
      · exact digits h

end Moment

/-! ## Timestamps -/

theorem Iso.onDate?_timeText (m : Moment) :
    Iso.onDate? m.date (m.timeText.toList ++ ['Z']) = some (.universal m) := by
  have free : ∀ c ∈ m.timeText.toList, (!Iso.isZone c) = true := fun c mem => by
    rw [Moment.not_isZone_of_mem_timeText mem]
    rfl
  have time : (m.timeText.toList ++ ['Z']).takeWhile (!Iso.isZone ·) = m.timeText.toList := by
    rw [List.takeWhile_append_of_pos free]
    exact List.append_nil _
  have zone : (m.timeText.toList ++ ['Z']).dropWhile (!Iso.isZone ·) = ['Z'] :=
    List.dropWhile_append_of_pos free
  have hs := m.second.isLt
  have hour : m.hour < 10 ^ 2 := by
    unfold Moment.hour
    omega
  have minute : m.minute < 10 ^ 2 := by
    unfold Moment.minute
    omega
  have second : m.secondOfMinute < 10 ^ 2 := by
    unfold Moment.secondOfMinute
    omega
  have parts := Iso.parts?_of_numbers hour minute second m.micro.isLt
  rw [← Moment.toList_timeText] at parts
  unfold Iso.onDate?
  rw [time, zone, parts]
  show (Moment.of? m.date m.hour m.minute m.secondOfMinute m.micro >>= _) = _
  rw [Moment.of?_self]
  rfl

/-- The ISO form of a moment of universal time is read as this moment. -/
theorem ofIso?_universalText (m : Moment) :
    Timestamp.ofIso? (Summary.universalText m) = some (.universal m) := by
  have whole : (Summary.universalText m).toList =
      m.dateText.toList ++ ('T' :: (m.timeText.toList ++ ['Z'])) := by
    simp [Summary.universalText, Moment.isoText]
  have length := m.length_dateText
  have date : Iso.date? m.dateText.toList = some m.date := by
    rw [Moment.toList_dateText, Iso.date?_of_parts m.date.year_lt m.date.month_lt m.date.day_lt,
      Date.of?_self]
  have taken : Iso.dateLength (Summary.universalText m).toList = 10 := by
    rw [whole, Moment.toList_dateText]
    simp only [List.append_assoc, List.cons_append]
    apply Iso.dateLength_of_parts m.date.year_lt m.date.month_lt
    simp only [List.length_append, List.length_cons]
    omega
  unfold Timestamp.ofIso?
  simp only [taken]
  rw [whole, List.take_left' length, List.drop_left' length, date]
  simp only [Option.bind_eq_bind, Option.bind_some]
  exact Iso.onDate?_timeText m

end CertGate
