import AsmWt.CivilDate
import Mathlib.Algebra.Group.Nat.Defs

/-!
# Dates as texts

A pattern of fields writes what a wall clock reads, each number padded with
zeros. The reader follows the grammar of `DateTime.parse`: separators and parts
of the time may be missing, the year has up to six digits, and an offset makes
the reading one of UTC. What a pattern with all fields writes is read back.
-/

namespace DateText

open WallClock

abbrev Text := List Char


/-- The number padded with zeros on its left. -/
def padTo (width n : Nat) : Text :=
  let digits := Nat.toDigits 10 n
  List.replicate (width - digits.length) '0' ++ digits

inductive Field where
  | year
  | month
  | day
  | hour
  | minute
  | second
  deriving DecidableEq

inductive Token where
  | field (f : Field) (width : Nat)
  | literal (c : Char)
  deriving DecidableEq

abbrev Pattern := List Token

/-- What a field of a date is when the wall clock reads `wall`; a year before the first is written
without its sign. -/
def Field.of (wall : Int) : Field → Nat
  | .year => (dateOf (wall / dayMicros)).year.natAbs
  | .month => (dateOf (wall / dayMicros)).month.toNat
  | .day => (dateOf (wall / dayMicros)).day.toNat
  | .hour => (wall % dayMicros / hourMicros).toNat
  | .minute => (wall % hourMicros / minuteMicros).toNat
  | .second => (wall % minuteMicros / secondMicros).toNat

def Token.format (wall : Int) : Token → Text
  | .field f width => padTo width (f.of wall)
  | .literal c => [c]

/-- The text of `DateFormat.format`. -/
def format (p : Pattern) (wall : Int) : Text := p.flatMap (Token.format wall)

/-- The digits of `\d{n}`. -/
def digits (n : Nat) (cs : Text) : Option (Nat × Text) :=
  if (cs.take n).length = n ∧ (cs.take n).all Char.isDigit then
    some (Nat.ofDigitChars 10 (cs.take n) 0, cs.drop n)
  else none

/-- A character that may be there. -/
def optional (c : Char) : Text → Text
  | d :: cs => if d = c then cs else d :: cs
  | [] => []

/-- The sign of the year, `[+-]?`. -/
def sign : Text → Int × Text
  | '+' :: cs => (1, cs)
  | '-' :: cs => (-1, cs)
  | cs => (1, cs)

/-- The date, `([+-]?\d{n})-?(\d\d)-?(\d\d)`. -/
def dayPart (n : Nat) (cs : Text) : Option (CivilDate × Text) := do
  let (year, rest) ← digits n (sign cs).2
  let (month, rest) ← digits 2 (optional '-' rest)
  let (day, rest) ← digits 2 (optional '-' rest)
  return (⟨(sign cs).1 * year, month, day⟩, rest)

/-- The minutes and the seconds, `:?(\d\d)`. -/
def further (cs : Text) : Option (Nat × Text) := digits 2 (optional ':' cs)

/-- The fraction `[.,](\d+)`, of which six digits count. -/
def fraction : Text → Option (Nat × Text)
  | c :: cs =>
    let ds := cs.takeWhile Char.isDigit
    if (c = '.' ∨ c = ',') ∧ ds ≠ [] then
      some (Nat.ofDigitChars 10 ((ds ++ List.replicate 6 '0').take 6) 0, cs.dropWhile Char.isDigit)
    else none
  | [] => none

/-- The time `(\d\d)(?::?(\d\d)(?::?(\d\d)(?:[.,](\d+))?)?)?`, as microseconds of the day. -/
def timePart (cs : Text) : Option (Int × Text) := do
  let (hour, rest) ← digits 2 cs
  match further rest with
  | none => return (hour * hourMicros, rest)
  | some (minute, rest) =>
    match further rest with
    | none => return (hour * hourMicros + minute * minuteMicros, rest)
    | some (second, rest) =>
      let time := hour * hourMicros + minute * minuteMicros + second * secondMicros
      match fraction rest with
      | none => return (time, rest)
      | some (micros, rest) => return (time + micros, rest)

/-- The offset `([-+])(\d\d)(?::?(\d\d))?` up to the end, as minutes. -/
def offset : Text → Option Int
  | c :: cs => do
    let sign ← (if c = '+' then some 1 else if c = '-' then some (-1) else none : Option Int)
    let (hours, rest) ← digits 2 cs
    if rest = [] then return sign * (60 * hours)
    else
      let (minutes, rest) ← further rest
      if rest = [] then return sign * (60 * hours + minutes) else none
  | [] => none

/-- The end `( ?[zZ]| ?([-+])(\d\d)(?::?(\d\d))?)?$`; without an offset the reading is one of the
zone. -/
def zonePart (cs : Text) : Option (Option Int) :=
  if cs = [] then some none
  else if optional ' ' cs = ['z'] ∨ optional ' ' cs = ['Z'] then some (some 0)
  else (offset (optional ' ' cs)).map some

/-- What a text names: a reading of the wall clock, of UTC or of the zone. -/
structure Named where
  wall : Int
  isUtc : Bool
  deriving DecidableEq

/-- The text with a year of `n` digits. -/
def parseYear (cs : Text) (n : Nat) : Option Named := do
  let (date, rest) ← dayPart n cs
  match rest with
  | [] => return ⟨dayOf date * dayMicros, false⟩
  | c :: rest =>
    if c = ' ' ∨ c = 'T' then do
      let (time, rest) ← timePart rest
      let zone ← zonePart rest
      return ⟨dayOf date * dayMicros + time - zone.getD 0 * minuteMicros, zone.isSome⟩
    else none

/-- The reading that `DateTime.parse` finds in a text; `none` is its `FormatException`. The longest
year that leads to the end of the text is the one. -/
def parse (cs : Text) : Option Named := [6, 5, 4].findSome? (parseYear cs)

example : parse "2024-02-30".toList = some ⟨dayOf ⟨2024, 3, 1⟩ * dayMicros, false⟩ ∧
    parse "20240607T0830".toList = parse "2024-06-07 08:30:00,0".toList ∧
    parse "2024-06-07T08:30+07".toList = (parse "2024-06-07T01:30Z".toList) ∧
    parse "2024-06-07T8:30".toList = none := by decide

theorem isDigit_padTo {width n : Nat} {c : Char} (h : c ∈ padTo width n) : c.isDigit = true := by
  rcases List.mem_append.mp h with h | h
  · rw [List.eq_of_mem_replicate h]
    rfl
  · exact Nat.isDigit_of_mem_toDigits (by decide) (by decide) h

@[simp] theorem ofDigitChars_padTo (width n : Nat) :
    Nat.ofDigitChars 10 (padTo width n) 0 = n := by
  rw [padTo, Nat.ofDigitChars_append, Nat.ofDigitChars_replicate_zero, Nat.mul_zero,
    Nat.ofDigitChars_ten_toDigits]

theorem length_padTo (width n : Nat) :
    (padTo width n).length = max width (Nat.toDigits 10 n).length := by
  simp only [padTo, List.length_append, List.length_replicate]
  omega

/-- A number that fits is padded to the width exactly. -/
theorem length_padTo_of_lt {width n : Nat} (hw : 0 < width) (h : n < 10 ^ width) :
    (padTo width n).length = width := by
  have fits := (Nat.length_toDigits_le_iff (by decide) hw).mpr h
  rw [length_padTo]
  omega

theorem digits_append {n : Nat} {ds rest : Text} (hlen : ds.length = n)
    (hdigits : ∀ c ∈ ds, c.isDigit = true) :
    digits n (ds ++ rest) = some (Nat.ofDigitChars 10 ds 0, rest) := by
  subst hlen
  simpa [digits] using hdigits

/-- Too few digits. -/
theorem digits_short {n : Nat} {ds rest : Text} {c : Char} (hlen : ds.length < n)
    (hc : c.isDigit = false) : digits n (ds ++ c :: rest) = none := by
  rw [digits, if_neg]
  rintro ⟨-, hall⟩
  have taken : c ∈ (ds ++ c :: rest).take n := by
    rw [List.take_append, List.take_of_length_le (Nat.le_of_lt hlen)]
    obtain ⟨k, hk⟩ : ∃ k, n - ds.length = k + 1 := ⟨n - ds.length - 1, by omega⟩
    simp [hk]
  rw [List.all_eq_true.mp hall c taken] at hc
  cases hc

theorem digits_padTo {width n : Nat} (hw : 0 < width) (h : n < 10 ^ width) (rest : Text) :
    digits width (padTo width n ++ rest) = some (n, rest) := by
  rw [digits_append (length_padTo_of_lt hw h) fun c hc => isDigit_padTo hc, ofDigitChars_padTo]

/-- A number is not taken for a sign or a separator. -/
theorem padTo_cons {width n : Nat} (hw : 0 < width) :
    ∃ c cs, padTo width n = c :: cs ∧ c.isDigit = true := by
  cases hp : padTo width n with
  | nil =>
    have := congrArg List.length hp
    rw [length_padTo, List.length_nil] at this
    omega
  | cons c cs => exact ⟨c, cs, rfl, isDigit_padTo (by rw [hp]; exact List.mem_cons_self)⟩

theorem sign_padTo {width n : Nat} (hw : 0 < width) (rest : Text) :
    sign (padTo width n ++ rest) = (1, padTo width n ++ rest) := by
  obtain ⟨c, cs, hp, hc⟩ := padTo_cons (n := n) hw
  rw [hp, List.cons_append, sign]
  · rintro _ ⟨⟩
    exact absurd hc (by decide)
  · rintro _ ⟨⟩
    exact absurd hc (by decide)

/-- The pattern `yyyy-MM-dd`. -/
def dayPattern : Pattern :=
  [.field .year 4, .literal '-', .field .month 2, .literal '-', .field .day 2]

/-- The pattern `HH:mm:ss`. -/
def timePattern : Pattern :=
  [.field .hour 2, .literal ':', .field .minute 2, .literal ':', .field .second 2]

/-- The pattern `yyyy-MM-ddTHH:mm:ss`. -/
def isoPattern : Pattern := dayPattern ++ .literal 'T' :: timePattern

/-- A reading without the fraction of its second. -/
def second (wall : Int) : Int := wall / secondMicros * secondMicros

/-- A year that can be written without a sign and in six digits. -/
def Writable (wall : Int) : Prop :=
  0 ≤ (dateOf (wall / dayMicros)).year ∧ (dateOf (wall / dayMicros)).year < 1000000

instance : DecidablePred Writable := fun _ => inferInstanceAs (Decidable (_ ∧ _))

theorem civilMonth_range (day : Int) : 1 ≤ civilMonth day ∧ civilMonth day ≤ 12 := by
  unfold civilMonth
  omega

theorem civilDay_range (day : Int) : 1 ≤ civilDay day ∧ civilDay day ≤ 31 := by
  have range : 0 ≤ dayOfYear day ∧ dayOfYear day ≤ 365 := by
    rcases era_cases day with ⟨-, -, h⟩ | ⟨c, q, t, d, h⟩
    · omega
    · omega
  rw [civilDay, show monthFromMarch day = (5 * dayOfYear day + 2) / 153 from rfl]
  omega

section Reading

variable {wall : Int} {rest : Text}

theorem Field.of_lt_hundred {f : Field} (hf : f ≠ .year) : f.of wall < 10 ^ 2 := by
  have month := civilMonth_range (wall / dayMicros)
  have day := civilDay_range (wall / dayMicros)
  cases f with
  | year => exact absurd rfl hf
  | month =>
    simp only [Field.of, dateOf]
    omega
  | day =>
    simp only [Field.of, dateOf]
    omega
  | hour | minute | second =>
    simp only [Field.of, dayMicros, hourMicros, minuteMicros, secondMicros]
    omega

/-- Two digits for every field but the year. -/
theorem digits_field {f : Field} (hf : f ≠ .year) (rest : Text) :
    digits 2 (padTo 2 (f.of wall) ++ rest) = some (f.of wall, rest) :=
  digits_padTo (by decide) (Field.of_lt_hundred hf) rest

theorem further_field {f : Field} (hf : f ≠ .year) (rest : Text) :
    further (':' :: (padTo 2 (f.of wall) ++ rest)) = some (f.of wall, rest) := by
  rw [further, optional, if_pos rfl, digits_field hf]

theorem format_timePattern (rest : Text) :
    format timePattern wall ++ rest =
      padTo 2 (Field.of wall .hour) ++ ':' :: (padTo 2 (Field.of wall .minute) ++ ':' ::
        (padTo 2 (Field.of wall .second) ++ rest)) := by
  simp [format, timePattern, Token.format]

theorem format_dayPattern (rest : Text) :
    format dayPattern wall ++ rest =
      padTo 4 (Field.of wall .year) ++ '-' :: (padTo 2 (Field.of wall .month) ++ '-' ::
        (padTo 2 (Field.of wall .day) ++ rest)) := by
  simp [format, dayPattern, Token.format]

/-- The fields of the time add up to what the wall clock reads on its day. -/
theorem time_of_fields (wall : Int) :
    (Field.of wall .hour : Int) * hourMicros + (Field.of wall .minute : Int) * minuteMicros +
      (Field.of wall .second : Int) * secondMicros =
        second wall - wall / dayMicros * dayMicros := by
  simp only [Field.of, second, dayMicros, hourMicros, minuteMicros, secondMicros]
  omega

theorem timePart_format (rest : Text) :
    timePart (format timePattern wall ++ rest) =
      some (second wall - wall / dayMicros * dayMicros + ((fraction rest).getD (0, rest)).1,
        ((fraction rest).getD (0, rest)).2) := by
  rw [format_timePattern, timePart, digits_field (by decide), ← time_of_fields]
  simp only [Option.bind_eq_bind, Option.bind_some, further_field (f := .minute) (by decide),
    further_field (f := .second) (by decide)]
  cases fraction rest with
  | none => simp
  | some found => rfl

/-- The fields of the date are those of the day. -/
theorem date_of_fields (h : Writable wall) :
    (⟨Field.of wall .year, Field.of wall .month, Field.of wall .day⟩ : CivilDate) =
      dateOf (wall / dayMicros) := by
  have month := civilMonth_range (wall / dayMicros)
  have day := civilDay_range (wall / dayMicros)
  have year := h.1
  simp only [dateOf] at year
  simp only [Field.of, dateOf, CivilDate.mk.injEq]
  omega

theorem dayPart_format (h : Writable wall) {n : Nat}
    (hn : (padTo 4 (Field.of wall .year)).length = n) (rest : Text) :
    dayPart n (format dayPattern wall ++ rest) = some (dateOf (wall / dayMicros), rest) := by
  rw [format_dayPattern, dayPart, sign_padTo (by decide),
    digits_append hn fun c hc => isDigit_padTo hc, ofDigitChars_padTo]
  simp only [Option.bind_eq_bind, Option.bind_some, optional, if_true,
    digits_field (f := .month) (by decide), digits_field (f := .day) (by decide), Int.one_mul]
  rw [date_of_fields h]
  rfl

/-- A longer year is not there. -/
theorem dayPart_short {n : Nat} (hn : (padTo 4 (Field.of wall .year)).length < n) (rest : Text) :
    dayPart n (format dayPattern wall ++ rest) = none := by
  rw [format_dayPattern, dayPart, sign_padTo (by decide), digits_short hn (by decide)]
  rfl

/-- The year is found whatever follows the day. -/
theorem parse_format {named : Named} (h : Writable wall)
    (hrest : ∀ n, (padTo 4 (Field.of wall .year)).length = n →
      parseYear (format dayPattern wall ++ rest) n = some named) :
    parse (format dayPattern wall ++ rest) = some named := by
  have short : ∀ n, (padTo 4 (Field.of wall .year)).length < n →
      parseYear (format dayPattern wall ++ rest) n = none := by
    intro n hn
    rw [parseYear, dayPart_short hn]
    rfl
  have fits : (Nat.toDigits 10 (Field.of wall .year)).length ≤ 6 := by
    refine (Nat.length_toDigits_le_iff (by decide) (by decide)).mpr ?_
    have year := h.2
    have sign := h.1
    simp only [Field.of]
    omega
  have range := length_padTo 4 (Field.of wall .year)
  obtain six | five | four : (padTo 4 (Field.of wall .year)).length = 6 ∨
      (padTo 4 (Field.of wall .year)).length = 5 ∨
        (padTo 4 (Field.of wall .year)).length = 4 := by omega
  · simp [parse, List.findSome?, hrest 6 six]
  · simp [parse, List.findSome?, short 6 (by omega), hrest 5 five]
  · simp [parse, List.findSome?, short 6 (by omega), short 5 (by omega), hrest 4 four]

/-- A reading to the second and what follows it: a fraction and an offset, or nothing. -/
theorem parse_iso (h : Writable wall) {micros : Nat} {zone : Option Int} {zoneText : Text}
    (hfraction : (fraction rest).getD (0, rest) = (micros, zoneText))
    (hzone : zonePart zoneText = some zone) :
    parse (format isoPattern wall ++ rest) =
      some ⟨second wall + micros - zone.getD 0 * minuteMicros, zone.isSome⟩ := by
  have split : format isoPattern wall ++ rest =
      format dayPattern wall ++ 'T' :: (format timePattern wall ++ rest) := by
    simp [format, isoPattern, Token.format]
  rw [split]
  refine parse_format h fun n hn => ?_
  rw [parseYear, dayPart_format h hn]
  simp only [Option.bind_eq_bind, Option.bind_some, or_true, if_true, timePart_format, hfraction,
    hzone, dayOf_dateOf, Option.pure_def, Option.some.injEq, Named.mk.injEq, and_true]
  omega

/-- A reading that is written to the second is read as one of the zone. -/
theorem parse_format_iso (h : Writable wall) :
    parse (format isoPattern wall) = some ⟨second wall, false⟩ := by
  have read : parse (format isoPattern wall ++ []) =
      some ⟨second wall + (0 : Nat) - (none : Option Int).getD 0 * minuteMicros,
        (none : Option Int).isSome⟩ := parse_iso h rfl rfl
  simpa using read

/-- With the offset of UTC behind it, it is read as one of UTC. -/
theorem parse_format_utc (h : Writable wall) :
    parse (format isoPattern wall ++ ".000+00:00".toList) = some ⟨second wall, true⟩ := by
  have fraction : (fraction ".000+00:00".toList).getD (0, ".000+00:00".toList) =
      (0, "+00:00".toList) := by decide
  have read : parse (format isoPattern wall ++ ".000+00:00".toList) =
      some ⟨second wall + (0 : Nat) - (some 0 : Option Int).getD 0 * minuteMicros,
        (some 0 : Option Int).isSome⟩ := parse_iso h fraction (by decide)
  simpa using read

end Reading

/-- The fraction of a second is not shown. -/
theorem format_second (p : Pattern) (wall : Int) : format p (second wall) = format p wall := by
  have days : second wall / dayMicros = wall / dayMicros := by
    simp only [second, dayMicros, hourMicros, minuteMicros, secondMicros]
    omega
  have fields : ∀ f : Field, f.of (second wall) = f.of wall := by
    intro f
    cases f with
    | year | month | day => simp only [Field.of, days]
    | hour | minute | second =>
      simp only [Field.of, second, dayMicros, hourMicros, minuteMicros, secondMicros]
      omega
  have tokens : Token.format (second wall) = Token.format wall := by
    funext t
    cases t with
    | field f width => rw [Token.format, Token.format, fields]
    | literal c => rfl
  rw [format, tokens, ← format]

end DateText
