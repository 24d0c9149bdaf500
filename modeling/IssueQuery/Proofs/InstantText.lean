import IssueQuery.Predicate
import IssueQuery.Proofs.Characters

namespace IssueQuery

theorem isBlank_of_isDigit {c : Char} (digit : c.isDigit = true) : isBlank c = false := by
  refine isBlank_of_isBareChar (isBareChar_of_isIdentChar ?_)
  simp [isIdentChar, Char.isAlphanum, digit]

namespace Text

variable {t rest : Text} {c : Char} {width most n : Nat}

theorem expect?_eq_some (taken : expect? c t = some rest) : t = c :: rest := by
  cases t with
  | nil => cases taken
  | cons d t =>
    rw [expect?] at taken
    split at taken
    · rename_i same
      cases taken
      rw [same]
    · cases taken

theorem suffix_of_expect? (taken : expect? c t = some rest) : rest <:+ t := by
  rw [expect?_eq_some taken]
  exact List.suffix_cons c rest

/-- Digits stand in front of what a number of full width leaves. -/
theorem exists_of_takeDigits? (taken : takeDigits? width t = some (n, rest)) :
    ∃ ds, t = ds ++ rest ∧ ds.length = width ∧ (∀ c ∈ ds, c.isDigit = true) ∧ n = digitsValue ds := by
  unfold takeDigits? at taken
  dsimp only at taken
  split at taken
  · rename_i full
    cases taken
    have front : (t.take width).takeWhile Char.isDigit = t.take width :=
      (List.takeWhile_prefix _).eq_of_length_le (by rw [full]; exact List.length_take_le width t)
    rw [front] at full ⊢
    refine ⟨t.take width, (List.take_append_drop width t).symm, full, fun c member => ?_, rfl⟩
    rw [← front] at member
    exact List.mem_takeWhile_imp member
  · cases taken

theorem visible_of_takeDigits? (pos : 0 < width) (taken : takeDigits? width t = some (n, rest)) :
    ∃ c more, t = c :: more ∧ c.isDigit = true := by
  obtain ⟨ds, rfl, rfl, digits, _⟩ := exists_of_takeDigits? taken
  obtain ⟨c, more, rfl⟩ := List.exists_cons_of_length_pos pos
  exact ⟨c, more ++ rest, rfl, digits c List.mem_cons_self⟩

theorem suffix_of_takeDigits? (taken : takeDigits? width t = some (n, rest)) : rest <:+ t := by
  obtain ⟨ds, rfl, _⟩ := exists_of_takeDigits? taken
  exact List.suffix_append ds rest

/-- A number of full width is read without a fixed width as well, and has no blanks before it. -/
theorem takeNumber?_of_takeDigits? (pos : 0 < width) (taken : takeDigits? width t = some (n, rest)) :
    takeNumber? width t = some (n, rest) ∧ trimStart t = t := by
  obtain ⟨c, more, rfl, digit⟩ := visible_of_takeDigits? pos taken
  constructor
  · unfold takeDigits? at taken
    dsimp only at taken
    split at taken
    · rename_i full
      cases taken
      unfold takeNumber?
      split
      · rename_i none
        rw [none] at full
        exact absurd full pos.ne
      · rw [full]
    · cases taken
  · exact List.dropWhile_cons_of_neg (by rw [isBlank_of_isDigit digit]; exact Bool.false_ne_true)

end Text

namespace Instant

variable {t : Text} {d : Instant}

theorem suffix_of_takeFraction? {rest : Text} {nanos : Nat} (taken : takeFraction? t = some (nanos, rest)) :
    rest <:+ t := by
  unfold takeFraction? at taken
  split at taken
  · split at taken
    · cases taken
    · cases taken
      exact (List.dropWhile_suffix _).trans (List.suffix_cons _ _)
  · cases taken
    exact List.suffix_refl _

/-- The hours and minutes of an offset, in seconds. -/
def readHoursMinutes? (negative : Bool) (t : Text) : Option Int := do
  let (hours, t) ← Text.takeDigits? 2 t
  let t ← Text.expect? ':' t
  let (minutes, t) ← Text.takeDigits? 2 t
  let east : Int := hours * 3600 + minutes * 60
  if t = [] ∧ hours < 24 ∧ minutes < 60 then some (if negative then -east else east) else none

theorem readOffset?_cons (c : Char) (t : Text) :
    readOffset? (c :: t) =
      if c = 'Z' ∨ c = 'z' then if t = [] then some 0 else none
      else if c = '+' then readHoursMinutes? false t
      else if c = '-' ∨ c = '\u2212' then readHoursMinutes? true t
      else none := by
  rw [readOffset?]
  split
  · rfl
  · dsimp only
    split
    · rfl
    · split <;> rfl

theorem visible_of_readHoursMinutes? {negative : Bool} {east : Int} (read : readHoursMinutes? negative t = some east) :
    ∃ front c, t = front ++ [c] ∧ isBlank c = false := by
  obtain ⟨⟨hours, afterHours⟩, atHours, read⟩ := Option.bind_eq_some_iff.mp read
  obtain ⟨afterColon, colon, read⟩ := Option.bind_eq_some_iff.mp read
  obtain ⟨⟨minutes, rest⟩, atMinutes, read⟩ := Option.bind_eq_some_iff.mp read
  dsimp only at read
  split at read
  · rename_i fits
    obtain ⟨rfl, _⟩ := fits
    obtain ⟨ds, rfl, _⟩ := Text.exists_of_takeDigits? atHours
    obtain rfl := Text.expect?_eq_some colon
    obtain ⟨es, rfl, two, digits, _⟩ := Text.exists_of_takeDigits? atMinutes
    rcases List.eq_nil_or_concat es with rfl | ⟨front, c, rfl⟩
    · cases two
    · rw [List.concat_eq_append] at digits ⊢
      have last : c.isDigit = true := digits c (by simp)
      exact ⟨ds ++ ':' :: front, c, by simp, isBlank_of_isDigit last⟩
  · cases read

/-- An offset ends with a letter or a digit. -/
theorem visible_of_readOffset? {east : Int} (read : readOffset? t = some east) :
    ∃ front c, t = front ++ [c] ∧ isBlank c = false := by
  cases t with
  | nil => cases read
  | cons c t =>
    have signed {negative : Bool} (read : readHoursMinutes? negative t = some east) :
        ∃ front d, c :: t = front ++ [d] ∧ isBlank d = false := by
      obtain ⟨front, d, rfl, visible⟩ := visible_of_readHoursMinutes? read
      exact ⟨c :: front, d, rfl, visible⟩
    rw [readOffset?_cons] at read
    split at read
    · rename_i letter
      split at read
      · rename_i last
        refine ⟨[], c, by rw [last]; rfl, ?_⟩
        rcases letter with rfl | rfl
        · decide
        · decide
      · cases read
    · split at read
      · exact signed read
      · split at read
        · exact signed read
        · cases read

/-- What a timestamp starts with and ends with. -/
theorem exists_of_readTimestamp? (read : readTimestamp? t = some d) :
    ∃ year month day date afterYear afterMonth separator afterDay zone east,
      Text.takeDigits? 4 t = some (year, '-' :: afterYear) ∧
        Text.takeDigits? 2 afterYear = some (month, '-' :: afterMonth) ∧
        Text.takeDigits? 2 afterMonth = some (day, separator :: afterDay) ∧
        Date.ofParts? year month day = some date ∧ zone <:+ afterDay ∧ readOffset? zone = some east := by
  obtain ⟨⟨year, r1⟩, atYear, read⟩ := Option.bind_eq_some_iff.mp read
  obtain ⟨r2, dash, read⟩ := Option.bind_eq_some_iff.mp read
  obtain ⟨⟨month, r3⟩, atMonth, read⟩ := Option.bind_eq_some_iff.mp read
  obtain ⟨r4, dash', read⟩ := Option.bind_eq_some_iff.mp read
  obtain ⟨⟨day, r5⟩, atDay, read⟩ := Option.bind_eq_some_iff.mp read
  obtain ⟨date, isDate, read⟩ := Option.bind_eq_some_iff.mp read
  obtain ⟨r6, separator, read⟩ := Option.bind_eq_some_iff.mp read
  obtain ⟨⟨hour, r7⟩, atHour, read⟩ := Option.bind_eq_some_iff.mp read
  obtain ⟨r8, colon, read⟩ := Option.bind_eq_some_iff.mp read
  obtain ⟨⟨minute, r9⟩, atMinute, read⟩ := Option.bind_eq_some_iff.mp read
  obtain ⟨r10, colon', read⟩ := Option.bind_eq_some_iff.mp read
  obtain ⟨⟨second, r11⟩, atSecond, read⟩ := Option.bind_eq_some_iff.mp read
  obtain ⟨⟨nanos, zone⟩, atFraction, read⟩ := Option.bind_eq_some_iff.mp read
  obtain ⟨east, atZone, read⟩ := Option.bind_eq_some_iff.mp read
  have later : zone <:+ r6 := (suffix_of_takeFraction? atFraction).trans <|
    (Text.suffix_of_takeDigits? atSecond).trans <| (Text.suffix_of_expect? colon').trans <|
    (Text.suffix_of_takeDigits? atMinute).trans <| (Text.suffix_of_expect? colon).trans <|
    Text.suffix_of_takeDigits? atHour
  have apart : ∃ c, r5 = c :: r6 := by
    rcases Option.or_eq_some_iff.mp separator with first | ⟨_, others⟩
    · exact ⟨'T', Text.expect?_eq_some first⟩
    · rcases Option.or_eq_some_iff.mp others with second | ⟨_, third⟩
      · exact ⟨'t', Text.expect?_eq_some second⟩
      · exact ⟨' ', Text.expect?_eq_some third⟩
  obtain ⟨c, rfl⟩ := apart
  cases Text.expect?_eq_some dash
  cases Text.expect?_eq_some dash'
  exact ⟨year, month, day, date, r2, r4, c, r6, zone, east, atYear, atMonth, atDay, isDate, later, atZone⟩

theorem isTrimmed_of_readTimestamp? (read : readTimestamp? t = some d) : t.IsTrimmed := by
  obtain ⟨_, _, _, _, afterYear, afterMonth, c, afterDay, zone, east, atYear, atMonth, atDay, _, later, atZone⟩ :=
    exists_of_readTimestamp? read
  obtain ⟨front, last, rfl, visible⟩ := visible_of_readOffset? atZone
  have within : front ++ [last] <:+ t := later.trans <| (List.suffix_cons _ _).trans <|
    (Text.suffix_of_takeDigits? atDay).trans <| (List.suffix_cons _ _).trans <|
    (Text.suffix_of_takeDigits? atMonth).trans <| (List.suffix_cons _ _).trans <| Text.suffix_of_takeDigits? atYear
  obtain ⟨before, whole⟩ := within
  constructor
  · obtain ⟨first, more, eq, digit⟩ := Text.visible_of_takeDigits? (by decide) atYear
    exact ⟨first, more, eq, isBlank_of_isDigit digit⟩
  · exact ⟨last, before ++ front, by rw [← whole, List.append_assoc], visible⟩

theorem takeYear?_of_takeDigits? {rest : Text} {year : Nat} (taken : Text.takeDigits? 4 t = some (year, rest)) :
    takeYear? t = some ((year : Int), rest) := by
  obtain ⟨c, more, rfl, digit⟩ := Text.visible_of_takeDigits? (by decide) taken
  unfold takeYear?
  split
  · rename_i eq
    cases eq
    cases digit
  · rename_i eq
    cases eq
    cases digit
  · rw [(Text.takeNumber?_of_takeDigits? (by decide) taken).1]
    rfl

/-- A timestamp goes on after the day, so it is no plain date. -/
theorem readDate?_of_readTimestamp? (read : readTimestamp? t = some d) : readDate? t = none := by
  obtain ⟨year, month, day, date, afterYear, afterMonth, c, afterDay, zone, east, atYear, atMonth, atDay, isDate, _, _⟩ :=
    exists_of_readTimestamp? read
  have years := Text.takeNumber?_of_takeDigits? (by decide) atYear
  have months := Text.takeNumber?_of_takeDigits? (by decide) atMonth
  have days := Text.takeNumber?_of_takeDigits? (by decide) atDay
  have dash (t : Text) : Text.expect? '-' ('-' :: t) = some t := by rw [Text.expect?, if_pos rfl]
  unfold readDate?
  simp [years.2, takeYear?_of_takeDigits? atYear, dash, months, days, isDate]

theorem ofText?_of_isTrimmed (trimmed : Text.trim t = t) : ofText? t = (readTimestamp? t).or (readDate? t) := by
  rw [ofText?, trimmed]

/-- A text that reads as a moment is a timestamp just as it stands, unless blanks are around it or it is a plain date. -/
theorem readTimestamp?_eq_some_iff (reads : ofText? t = some d) {d' : Instant} :
    readTimestamp? t = some d' ↔ d' = d ∧ Text.trim t = t ∧ readDate? t = none := by
  have whole (read : readTimestamp? t = some d') : Text.trim t = t := by
    have alone := (isTrimmed_of_readTimestamp? read).trim_padded Text.isBlank_nil Text.isBlank_nil
    rwa [List.nil_append, List.append_nil] at alone
  constructor
  · intro read
    rw [ofText?_of_isTrimmed (whole read), read, Option.some_or] at reads
    exact ⟨(Option.some.inj reads), whole read, readDate?_of_readTimestamp? read⟩
  · rintro ⟨rfl, trimmed, noDate⟩
    rwa [ofText?_of_isTrimmed trimmed, noDate, Option.or_none] at reads

theorem compare_self (d : Instant) : d.compare d = .eq := by
  simp [Instant.compare, Date.compare]

end Instant

namespace Value

variable {t : Text} {d : Instant}

theorem readInstant_eq_instant_iff : readInstant t = .instant d ↔ Instant.ofText? t = some d := by
  unfold readInstant
  cases Instant.ofText? t with
  | none => exact iff_of_false nofun nofun
  | some d' => simp

theorem compareJson_instant_iff (reads : readInstant t = .instant d) (e : Instant) :
    (Value.instant e).compareJson (.string t) = some (d.compare e) ↔
      Text.trim t = t ∧ Instant.readDate? t = none := by
  have moment := readInstant_eq_instant_iff.mp reads
  rw [compareJson, Option.map_eq_some_iff]
  constructor
  · rintro ⟨d', read, _⟩
    exact ((Instant.readTimestamp?_eq_some_iff moment).mp read).2
  · intro plain
    exact ⟨d, (Instant.readTimestamp?_eq_some_iff moment).mpr ⟨rfl, plain⟩, rfl⟩

/-- The text of a document is compared as the moment that a filter reads it as if, and only if, it has no blanks around
it and is no plain date. Otherwise it is not compared with any moment, and the filter that asks for this text misses it. -/
theorem compareJson_text_iff (reads : readInstant t = .instant d) :
    (∀ e : Instant, (Value.instant e).compareJson (.string t) = some (d.compare e) ↔
        Text.trim t = t ∧ Instant.readDate? t = none) ∧
      (¬(Text.trim t = t ∧ Instant.readDate? t = none) →
        ∀ e : Instant, (Value.instant e).compareJson (.string t) = none) ∧
      ∀ path doc, doc.valuesAt path = [.string t] →
        (Comparison.holds ⟨path, .eq, readInstant t⟩ doc = true ↔ Text.trim t = t ∧ Instant.readDate? t = none) := by
  refine ⟨compareJson_instant_iff reads, fun otherwise e => ?_, fun path doc found => ?_⟩
  · rw [compareJson, Option.map_eq_none_iff]
    cases read : Instant.readTimestamp? t with
    | none => rfl
    | some d' =>
      have moment := readInstant_eq_instant_iff.mp reads
      exact absurd ((Instant.readTimestamp?_eq_some_iff moment).mp read).2 otherwise
  · have equal : Comparison.holds ⟨path, .eq, readInstant t⟩ doc = (readInstant t).equals (.string t) := by
      rw [Comparison.holds, found, List.any_cons, List.any_nil, Bool.or_false]
    rw [equal, reads, equals, beq_iff_eq, ← compareJson_instant_iff reads d, d.compare_self]

/-- A timestamp with an offset and a fraction, in a document and in a filter. -/
theorem compareJson_text_iff_sample :
    let t : Text := "2024-03-01t00:30:60.25+02:00".toList
    let d : Instant := ⟨⟨2024, 2, 29⟩, 81059, 1250000000⟩
    let e : Instant := ⟨⟨2024, 3, 1⟩, 0, 0⟩
    let doc : Json := .object [("due_at".toList, .array [.null, .string t])]
    readInstant t = .instant d ∧ (Value.instant e).compareJson (.string t) = some .lt ∧
      Comparison.holds ⟨["due_at".toList], .eq, readInstant t⟩ doc = true := by
  intro t d e doc
  have reads : readInstant t = .instant d := readInstant_eq_instant_iff.mpr (by decide +kernel)
  have plain : Text.trim t = t ∧ Instant.readDate? t = none := by decide +kernel
  have iff := compareJson_text_iff reads
  exact ⟨reads, (iff.1 e).mpr plain, (iff.2.2 _ doc rfl).mpr plain⟩

/-- A plain date, and a timestamp with blanks around it, are read in a filter and not in a document. -/
theorem compareJson_text_unread :
    let midnight : Instant := ⟨⟨2024, 3, 1⟩, 0, 0⟩
    let date : Text := "2024-03-01".toList
    let padded : Text := " 2024-03-01T00:00:00Z".toList
    let doc (t : Text) : Json := .object [("due_at".toList, .string t)]
    (readInstant date = .instant midnight ∧ (Value.instant midnight).compareJson (.string date) = none ∧
        Comparison.holds ⟨["due_at".toList], .eq, readInstant date⟩ (doc date) = false) ∧
      readInstant padded = .instant midnight ∧ (Value.instant midnight).compareJson (.string padded) = none ∧
        Comparison.holds ⟨["due_at".toList], .eq, readInstant padded⟩ (doc padded) = false := by
  intro midnight date padded doc
  have reads (t : Text) (moment : Instant.ofText? t = some midnight) : readInstant t = .instant midnight :=
    readInstant_eq_instant_iff.mpr moment
  exact ⟨⟨reads date (by decide +kernel), by decide +kernel, by decide +kernel⟩, reads padded (by decide +kernel),
    by decide +kernel, by decide +kernel⟩

end Value

end IssueQuery
