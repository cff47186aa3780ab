import Montage.Number.Decimal
import Montage.Number.Numeral
import Montage.Text.Lines
import Montage.Utility.Input

/-!
Dates: moments as days and times of day, the forms in which they are written, and the texts that
name them.
-/

namespace Montage.Utility

/-- A moment as it is told somewhere. -/
structure Moment where
  year : Int
  month : Nat
  day : Nat
  /-- Thousandths of a second since midnight. -/
  time : Nat
  deriving DecidableEq

namespace Moment

/-- The thousandths of a second of a day. -/
def dayLength : Nat :=
  86400000

/-- The days from 1970 to a date. Years are counted from March, so that leap days end them. -/
def dayNumber (year : Int) (month day : Int) : Int :=
  let year := if month ≤ 2 then year - 1 else year
  let era := Int.fdiv year 400
  let yearOfEra := year - era * 400
  let monthFromMarch := if 2 < month then month - 3 else month + 9
  let dayOfYear := (153 * monthFromMarch + 2) / 5 + day - 1
  era * 146097 + yearOfEra * 365 + yearOfEra / 4 - yearOfEra / 100 + dayOfYear - 719468

/-- The date of a number of days since 1970. -/
def dateOf (days : Int) : Int × Nat × Nat :=
  let days := days + 719468
  let era := Int.fdiv days 146097
  let dayOfEra := days - era * 146097
  let yearOfEra := (dayOfEra - dayOfEra / 1460 + dayOfEra / 36524 - dayOfEra / 146096) / 365
  let dayOfYear := dayOfEra - (365 * yearOfEra + yearOfEra / 4 - yearOfEra / 100)
  let m := (5 * dayOfYear + 2) / 153
  let month := if m < 10 then m + 3 else m - 9
  let year := era * 400 + yearOfEra + (if month ≤ 2 then 1 else 0)
  (year, month.toNat, (dayOfYear - (153 * m + 2) / 5 + 1).toNat)

def ofInstant (ms : Int) : Moment :=
  let days := Int.fdiv ms dayLength
  let (year, month, day) := dateOf days
  ⟨year, month, day, (ms - days * dayLength).toNat⟩

def days (m : Moment) : Int :=
  dayNumber m.year m.month m.day

def toInstant (m : Moment) : Int :=
  m.days * dayLength + m.time

/-- Sunday is zero. -/
def weekday (m : Moment) : Nat :=
  (Int.fmod (m.days + 4) 7).toNat

/-- The first day of the year is zero. -/
def yearDay (m : Moment) : Nat :=
  (m.days - dayNumber m.year 1 1).toNat

def hour (m : Moment) : Nat :=
  m.time / 3600000

def minute (m : Moment) : Nat :=
  m.time / 60000 % 60

def second (m : Moment) : Nat :=
  m.time / 1000 % 60

/-- The days between the Monday before the first week that has four days in a year, and a date. -/
def daysFromWeeks (m : Moment) (year : Int) : Int :=
  let fourth := dayNumber year 1 4
  m.days - (fourth - Int.fmod (fourth + 3) 7)

/-- The year to which the week of a date belongs, and the number of that week. -/
def isoWeek (m : Moment) : Int × Nat :=
  let year := [m.year + 1, m.year].find? fun year => 0 ≤ m.daysFromWeeks year
  let year := year.getD (m.year - 1)
  (year, (m.daysFromWeeks year / 7 + 1).toNat)

end Moment

def monthNames : List String :=
  ["January", "February", "March", "April", "May", "June", "July", "August", "September",
    "October", "November", "December"]

def weekdayNames : List String :=
  ["Sunday", "Monday", "Tuesday", "Wednesday", "Thursday", "Friday", "Saturday"]

/-- Where clocks are told from: a name and so many minutes before the time of all. -/
structure Zone where
  name : String
  minutes : Int

def Zone.universal : Zone :=
  ⟨"UTC", 0⟩

/-! ### Writing -/

/-- One part of a date, the character that fills it up and how wide it is. -/
abbrev DatePart := List Char × Char × Nat

def zoneDigits (z : Zone) (mark : String) : List Char :=
  let two (n : Nat) : List Char := Decimal.padded 2 n
  (if z.minutes < 0 then '-' else '+') :: two (z.minutes.natAbs / 60) ++ mark.toList ++
    two (z.minutes.natAbs % 60)

/-- What a letter of a date form stands for. -/
def datePart? (m : Moment) (z : Zone) (c : Char) : Option DatePart :=
  let number (width : Nat) (n : Nat) : Option DatePart := some (Decimal.digits n, '0', width)
  let blank (n : Nat) : Option DatePart := some (Decimal.digits n, ' ', 2)
  let text (s : String) : Option DatePart := some (s.toList, ' ', 0)
  let month := monthNames[m.month - 1]?.getD ""
  let weekday := weekdayNames[m.weekday]?.getD ""
  let short (s : String) : Option DatePart := some (s.toList.take 3, ' ', 0)
  let clock := if m.hour % 12 = 0 then 12 else m.hour % 12
  match c with
  | 'Y' => some ((Decimal.integer m.year).toList, '0', 4)
  | 'C' => number 2 (m.year / 100).toNat
  | 'y' => number 2 (m.year % 100).toNat
  | 'G' => some ((Decimal.integer m.isoWeek.1).toList, '0', 4)
  | 'g' => number 2 (m.isoWeek.1 % 100).toNat
  | 'm' => number 2 m.month
  | 'd' => number 2 m.day
  | 'e' => blank m.day
  | 'j' => number 3 (m.yearDay + 1)
  | 'H' => number 2 m.hour
  | 'k' => blank m.hour
  | 'I' => number 2 clock
  | 'l' => blank clock
  | 'M' => number 2 m.minute
  | 'S' => number 2 m.second
  | 'q' => number 1 ((m.month + 2) / 3)
  | 'u' => number 1 (if m.weekday = 0 then 7 else m.weekday)
  | 'w' => number 1 m.weekday
  | 'U' => number 2 ((m.yearDay + 7 - m.weekday) / 7)
  | 'W' => number 2 ((m.yearDay + 7 - (m.weekday + 6) % 7) / 7)
  | 'V' => number 2 m.isoWeek.2
  | 's' =>
    let seconds := Int.fdiv (m.toInstant - z.minutes * 60000) 1000
    some ((Decimal.integer seconds).toList, '0', 1)
  | 'N' => some (Decimal.padded 9 (m.time % 1000 * 1000000), '0', 9)
  | 'a' => short weekday
  | 'A' => text weekday
  | 'b' | 'h' => short month
  | 'B' => text month
  | 'p' => text (if m.hour < 12 then "AM" else "PM")
  | 'P' => text (if m.hour < 12 then "am" else "pm")
  | 'z' => some (zoneDigits z "", '0', 5)
  | 'Z' => text z.name
  | 'n' => text "\n"
  | 't' => text "\t"
  | '%' => text "%"
  | _ => none

/-- The letters that stand for a longer form. -/
def longerForm? (c : Char) : Option String :=
  match c with
  | 'c' => some "%a %b %e %H:%M:%S %Y"
  | 'D' | 'x' => some "%m/%d/%y"
  | 'F' => some "%Y-%m-%d"
  | 'r' => some "%I:%M:%S %p"
  | 'R' => some "%H:%M"
  | 'T' | 'X' => some "%H:%M:%S"
  | _ => none

/-- A part filled up as its flags ask. -/
def fillPart (flags : List Char) (width : Option Nat) (part : DatePart) : List Char :=
  let (cs, fill, usual) := part
  let flag := (flags.filter fun c => c = '-' || c = '_' || c = '0').getLast?
  let fill := if flag = some '_' then ' ' else if flag = some '0' then '0' else fill
  let width := if flag = some '-' then 0 else width.getD usual
  let cs := List.replicate (width - cs.length) fill ++ cs
  if flags.contains '^' then cs.map Char.toUpper
  else if flags.contains '#' then
    if cs.all fun c => !c.isLower then cs.map Char.toLower else cs.map Char.toUpper
  else cs

def isDateFlag (c : Char) : Bool :=
  "-_0^#+".toList.contains c

/-- A moment in a form, in which percent signs mark what stands for its parts. -/
def dateChars (m : Moment) (z : Zone) : Nat → List Char → List Char
  | 0, _ => []
  | _ + 1, [] => []
  | fuel + 1, '%' :: rest =>
    let flags := rest.takeWhile isDateFlag
    let digits := (rest.drop flags.length).takeWhile Char.isDigit
    let after := rest.drop (flags.length + digits.length)
    let width := if digits.isEmpty then none else some (Numeral.value digits)
    let lead := '%' :: flags ++ digits
    match after with
    | [] => lead
    | ':' :: 'z' :: after => zoneDigits z ":" ++ dateChars m z fuel after
    | ':' :: ':' :: 'z' :: after => zoneDigits z ":" ++ ":00".toList ++ dateChars m z fuel after
    | 'N' :: after =>
      let all := Decimal.padded 9 (m.time % 1000 * 1000000)
      let shown := all.take (width.getD 9) ++ List.replicate (width.getD 9 - 9) '0'
      shown ++ dateChars m z fuel after
    | c :: after =>
      match datePart? m z c, longerForm? c with
      | some part, _ => fillPart flags width part ++ dateChars m z fuel after
      | none, some form =>
        fillPart flags width (dateChars m z fuel form.toList, ' ', 0) ++ dateChars m z fuel after
      | none, none => lead ++ c :: dateChars m z fuel after
  | fuel + 1, c :: rest => c :: dateChars m z fuel rest

def showDate (m : Moment) (z : Zone) (form : String) : String :=
  String.ofList (dateChars m z (form.length + 100) form.toList)

/-! ### Reading -/

/-- What has been read of a date. -/
structure DateDraft where
  date : Option (Int × Nat × Nat)
  time : Option Nat
  zone : Option Int
  weekday : Option Nat
  /-- Months and thousandths of a second to go on. -/
  months : Int
  shift : Int

/-- A fraction after a point, in thousandths. -/
def thousandths (digits : List Char) : Nat :=
  Numeral.value ((digits ++ ['0', '0', '0']).take 3)

def allDigits (cs : List Char) : Bool :=
  !cs.isEmpty && cs.all Char.isDigit

def clockTime? (hour minute second part : Nat) : Option Nat :=
  if hour < 24 && minute < 60 && second < 61 then
    some (((hour * 60 + minute) * 60 + second) * 1000 + part)
  else none

/-- A time of day, and what follows it. -/
def timeOf? (cs : List Char) : Option (Nat × List Char) :=
  let hour := cs.takeWhile Char.isDigit
  match cs.drop hour.length with
  | ':' :: rest =>
    let minute := rest.takeWhile Char.isDigit
    let rest := rest.drop minute.length
    if hour.isEmpty || minute.isEmpty || 2 < hour.length || 2 < minute.length then none
    else match rest with
      | ':' :: rest =>
        let second := rest.takeWhile Char.isDigit
        let rest := rest.drop second.length
        let (part, rest) := match rest with
          | mark :: more =>
            let digits := more.takeWhile Char.isDigit
            if (mark = '.' || mark = ',') && !digits.isEmpty then
              (thousandths digits, more.drop digits.length)
            else (0, rest)
          | [] => (0, rest)
        if second.isEmpty then none
        else (clockTime? (Numeral.value hour) (Numeral.value minute) (Numeral.value second)
          part).map (·, rest)
      | rest => (clockTime? (Numeral.value hour) (Numeral.value minute) 0 0).map (·, rest)
  | _ => none

/-- A zone by its distance, in minutes. -/
def zoneOf? (cs : List Char) : Option Int :=
  match cs with
  | ['z'] => some 0
  | sign :: rest =>
    let digits := rest.filter (· ≠ ':')
    if (sign ≠ '+' && sign ≠ '-') || !allDigits digits || 4 < digits.length then none
    else
      let n := Numeral.value digits
      let minutes := if digits.length ≤ 2 then n * 60 else n / 100 * 60 + n % 100
      some (if sign = '-' then -(minutes : Int) else minutes)
  | [] => none

def monthOf? (word : List Char) : Option Nat :=
  (monthNames.findIdx? fun name =>
    let name := name.toList.map Char.toLower
    word = name || (word.length = 3 && word.isPrefixOf name)).map (· + 1)

def weekdayOf? (word : List Char) : Option Nat :=
  weekdayNames.findIdx? fun name =>
    let name := name.toList.map Char.toLower
    word = name || (word.length = 3 && word.isPrefixOf name)

/-- A date between marks. -/
def dateWord? (cs : List Char) : Option (Int × Nat × Nat) :=
  let parts (mark : Char) : List (List Char) := Text.splitOn (· = mark) cs
  match parts '-', parts '/' with
  | [year, month, day], _ =>
    match allDigits year && allDigits day, allDigits month, monthOf? month with
    | true, true, _ => some (Numeral.value year, Numeral.value month, Numeral.value day)
    | true, false, some month => some (Numeral.value day, month, Numeral.value year)
    | _, _, _ => none
  | _, [a, b, c] =>
    if !allDigits a || !allDigits b || !allDigits c then none
    else if 3 < a.length then some (Numeral.value a, Numeral.value b, Numeral.value c)
    else some (Numeral.value c, Numeral.value a, Numeral.value b)
  | _, _ =>
    if allDigits cs && cs.length = 8 then
      some (Numeral.value (cs.take 4), Numeral.value ((cs.drop 4).take 2),
        Numeral.value (cs.drop 6))
    else none

/-- How many months, or thousandths of a second, a unit of time has. -/
def unitOf? (word : List Char) : Option (Int × Int) :=
  let word := if word.getLast? = some 's' && 3 < word.length then word.dropLast else word
  match String.ofList word with
  | "year" => some (12, 0)
  | "month" => some (1, 0)
  | "fortnight" => some (0, 14 * Moment.dayLength)
  | "week" => some (0, 7 * Moment.dayLength)
  | "day" => some (0, Moment.dayLength)
  | "hour" => some (0, 3600000)
  | "minute" | "min" => some (0, 60000)
  | "second" | "sec" => some (0, 1000)
  | _ => none

/-- A number with a sign, if it has one. -/
def signedCount? (cs : List Char) : Option Int :=
  let (negative, digits) := Numeral.signed cs
  if allDigits digits then
    some (if negative then -(Numeral.value digits : Int) else Numeral.value digits)
  else none

def DateDraft.advance (d : DateDraft) (count : Int) (unit : Int × Int) : DateDraft :=
  { d with months := d.months + count * unit.1, shift := d.shift + count * unit.2 }

/-- The hour of a clock with two halves of the day. -/
def halfDay? (hour : Nat) (word : List Char) : Option Nat :=
  if word ≠ ['a', 'm'] && word ≠ ['p', 'm'] then none
  else if hour = 0 || 12 < hour then none
  else some (hour % 12 + if word = ['p', 'm'] then 12 else 0)

/-- A time of day with what may be joined to it: a half of the day, or a zone. -/
def DateDraft.withTime? (d : DateDraft) (cs : List Char) : Option DateDraft := do
  let (time, rest) ← timeOf? cs
  let d := { d with time := some time }
  if rest.isEmpty then some d
  else match zoneOf? rest with
    | some zone => some { d with zone := some zone }
    | none => do
      let hour ← halfDay? (time / 3600000) rest
      some { d with time := some (hour * 3600000 + time % 3600000) }

/-- The words that stand for a number of units. -/
def orderOf? (word : List Char) : Option Int :=
  match String.ofList word with
  | "next" => some 1
  | "last" => some (-1)
  | "this" => some 0
  | _ => none

/-- The words of a date, one after another. -/
def readDate (thisYear : Int) : Nat → List (List Char) → DateDraft → Option DateDraft
  | 0, _, _ => none
  | _ + 1, [], d => some d
  | fuel + 1, word :: rest, d =>
    let next := rest.head?.getD []
    let later := rest.drop 1
    -- A count of units may be followed by a word that turns it around.
    let counted (count : Int) (unit : Int × Int) (rest : List (List Char)) : Option DateDraft :=
      if rest.head? = some "ago".toList then
        readDate thisYear fuel (rest.drop 1) (d.advance (-count) unit)
      else readDate thisYear fuel rest (d.advance count unit)
    match dateWord? word, unitOf? word, orderOf? word, monthOf? word, weekdayOf? word with
    | some date, _, _, _, _ => readDate thisYear fuel rest { d with date := some date }
    | _, some unit, _, _, _ => counted 1 unit rest
    | _, _, some count, _, _ => (unitOf? next).bind fun unit => counted count unit later
    | _, _, _, some month, _ =>
      let day := next.filter (· ≠ ',')
      if !allDigits day then none
      else
        let year := later.head?.getD []
        let named := allDigits year && year.length = 4
        let date := (if named then (Numeral.value year : Int) else thisYear, month,
          Numeral.value day)
        readDate thisYear fuel (if named then later.drop 1 else later) { d with date := some date }
    | _, _, _, _, some weekday => readDate thisYear fuel rest { d with weekday := some weekday }
    | none, none, none, none, none =>
      match String.ofList word with
      | "now" | "today" => readDate thisYear fuel rest d
      | "tomorrow" => counted 1 (0, Moment.dayLength) rest
      | "yesterday" => counted (-1) (0, Moment.dayLength) rest
      | "utc" | "gmt" | "z" => readDate thisYear fuel rest { d with zone := some 0 }
      | "+" | "-" =>
        match signedCount? (word ++ next) with
        | some count =>
          (unitOf? (later.head?.getD [])).bind fun unit => counted count unit (later.drop 1)
        | none => none
      | _ =>
        match d.withTime? word with
        | some d => readDate thisYear fuel rest d
        | none =>
          match (Text.splitOn (· = 't') word) with
          | [day, time] =>
            if (dateWord? day).isSome && (timeOf? time).isSome then
              readDate thisYear fuel (day :: time :: rest) d
            else counts fuel word next later rest d counted
          | _ => counts fuel word next later rest d counted
where
  /-- A number: a count of units, a day of a month, an hour, or a zone. -/
  counts (fuel : Nat) (word next : List Char) (later rest : List (List Char)) (d : DateDraft)
      (counted : Int → Int × Int → List (List Char) → Option DateDraft) : Option DateDraft :=
    let digits := word.takeWhile Char.isDigit
    match signedCount? word, unitOf? next, monthOf? next with
    | some count, some unit, _ => counted count unit later
    | some day, none, some month =>
      let year := later.head?.getD []
      let named := allDigits year && year.length = 4
      let date := (if named then (Numeral.value year : Int) else thisYear, month, day.toNat)
      readDate thisYear fuel (if named then later.drop 1 else later) { d with date := some date }
    | _, _, _ =>
      match halfDay? (Numeral.value digits) (word.drop digits.length), zoneOf? word with
      | some hour, _ => readDate thisYear fuel rest { d with time := some (hour * 3600000) }
      | none, some zone =>
        if d.time.isSome && d.zone.isNone then
          readDate thisYear fuel rest { d with zone := some zone }
        else none
      | none, none => none

/-- Seconds, with a fraction, as a moment. -/
def secondsOf? (cs : List Char) : Option Int :=
  let (negative, body) := Numeral.signed cs
  let whole := body.takeWhile Char.isDigit
  let rest := body.drop whole.length
  if whole.isEmpty then none
  else
    let part? : Option Nat := match rest with
      | [] => some 0
      | mark :: digits =>
        if (mark = '.' || mark = ',') && allDigits digits then some (thousandths digits) else none
    part?.map fun part =>
      let n : Int := Numeral.value whole * 1000 + part
      if negative then -n else n

/-- Whether there is such a date. -/
def isDate (year : Int) (month day : Nat) : Bool :=
  Moment.dateOf (Moment.dayNumber year month day) = (year, month, day) && 0 < day

/-- The instant that a draft stands for. Without a time it is at midnight, unless nothing tells the
day either. -/
def DateDraft.instant? (d : DateDraft) (now : Int) (z : Zone) : Option Int := do
  let here := Moment.ofInstant (now + z.minutes * 60000)
  let (year, month, day) := d.date.getD (here.year, here.month, here.day)
  if !isDate year month day then none
  else
    let plain := d.date.isNone && d.weekday.isNone
    let time := d.time.getD (if plain then here.time else 0)
    let monthCount := year * 12 + (month : Int) - 1 + d.months
    let start := Moment.dayNumber (Int.fdiv monthCount 12) (Int.fmod monthCount 12 + 1) day
    let start := match d.weekday with
      | some weekday => start + Int.fmod ((weekday : Int) - (start + 4)) 7
      | none => start
    some (start * Moment.dayLength + time + d.shift - (d.zone.getD z.minutes) * 60000)

/-- The instant that a text names. -/
def instant? (now : Int) (z : Zone) (text : String) : Option Int :=
  match text.toList with
  | '@' :: cs => secondsOf? cs
  | cs =>
    let words := (Text.splitOn (fun c => c = ' ' || c = '\t' || c = ',') cs).filter (!·.isEmpty)
    let thisYear := (Moment.ofInstant now).year
    let start : DateDraft :=
      ⟨none, if words.isEmpty then some 0 else none, none, none, 0, 0⟩
    (readDate thisYear (2 * words.length + 8) (words.map (·.map Char.toLower)) start).bind
      (·.instant? now z)

/-- The instant of digits: the year, which may be short or left out, the month, the day, the hour
and the minute; a point and the second may follow. -/
def stamp? (now : Int) (z : Zone) (text : String) : Option Int := do
  let digits := text.toList.takeWhile (· ≠ '.')
  let seconds := text.toList.drop (digits.length + 1)
  let hasSeconds := digits.length < text.length
  if !allDigits digits || (hasSeconds && (!allDigits seconds || 2 < seconds.length)) then none
  else
    let year? : Option Int := match digits.length with
      | 8 => some (Moment.ofInstant now).year
      | 10 =>
        let n := Numeral.value (digits.take 2)
        some (if n < 69 then 2000 + n else 1900 + n)
      | 12 => some (Numeral.value (digits.take 4))
      | _ => none
    let year ← year?
    let rest := digits.drop (digits.length - 8)
    let two (i : Nat) : Nat := Numeral.value ((rest.drop i).take 2)
    let time ← clockTime? (two 4) (two 6) (Numeral.value seconds) 0
    if isDate year (two 0) (two 2) then
      some (Moment.dayNumber year (two 0) (two 2) * Moment.dayLength + time - z.minutes * 60000)
    else none

end Montage.Utility

/-!
Telling the date.
-/

namespace Montage.Utility

open Shell

/-- The zone that a variable names: some letters and the hours by which its clocks are behind. -/
def zone (s : State) : Zone :=
  match (s.stored? "TZ").map (·.toList) with
  | none => .universal
  | some cs =>
    let name := cs.takeWhile Char.isAlpha
    let (negative, rest) := Numeral.signed (cs.drop name.length)
    match Text.splitOn (· = ':') rest with
    | hours :: more =>
      if name.length < 3 || !allDigits hours then .universal
      else
        let minutes : Int := Numeral.value hours * 60 + Numeral.value (more.head?.getD [])
        ⟨String.ofList name, if negative then minutes else -minutes⟩
    | [] => .universal

/-- The form that an option asks for: how exact a time of the international standard is. -/
def isoForm? (precision : String) : Option String :=
  match precision with
  | "date" => some "%Y-%m-%d"
  | "hours" => some "%Y-%m-%dT%H%:z"
  | "minutes" => some "%Y-%m-%dT%H:%M%:z"
  | "seconds" => some "%Y-%m-%dT%H:%M:%S%:z"
  | "ns" => some "%Y-%m-%dT%H:%M:%S,%N%:z"
  | _ => none

def spacedForm? (precision : String) : Option String :=
  match precision with
  | "date" => some "%Y-%m-%d"
  | "seconds" => some "%Y-%m-%d %H:%M:%S%:z"
  | "ns" => some "%Y-%m-%d %H:%M:%S.%N%:z"
  | _ => none

/-- The form in which a date is asked for by options. -/
def dateForm (p : Parsed) : String :=
  match p.last? ["I", "R", "rfc"] with
  | some "I" => (isoForm? ((p.value? "I").getD "date")).getD "%Y-%m-%d"
  | some "R" => "%a, %d %b %Y %H:%M:%S %z"
  | some _ => (spacedForm? ((p.value? "rfc").getD "date")).getD "%Y-%m-%d"
  | none => "%a %b %e %H:%M:%S %Z %Y"

def date : State → List String → State :=
  withOptions "date" (options "d:f:I::r:Rs:u" [("date=", "d"), ("file=", "f"), ("iso-8601?", "I"),
    ("reference=", "r"), ("rfc-email", "R"), ("rfc-2822", "R"), ("rfc-822", "R"),
    ("rfc-3339=", "rfc"), ("set=", "s"), ("utc", "u"), ("universal", "u"), ("uct", "u"),
    ("debug", "debug")]) 1 fun s p =>
    let zone := if p.has "u" then Zone.universal else zone s
    let told (ms : Int) : State :=
      let form := match p.operands with
        | form :: _ => String.ofList (form.toList.drop 1)
        | [] => dateForm p
      s.say (showDate (.ofInstant (ms + zone.minutes * 60000)) zone form ++ "\n")
    let invalid (text : String) : State :=
      (s.complain ("date: invalid date " ++ quotedName text)).finish 1
    if 1 < (["d", "r", "f"].filter p.has).length then
      misused s "date" "the options to specify dates for printing are mutually exclusive" 1
    else match p.operands with
      | _ :: extra :: _ => misused s "date" ("extra operand " ++ quotedName extra) 1
      | [form] => if form.toList.head? = some '+' then answer s p zone told else invalid form
      | [] => answer s p zone told
where
  answer (s : State) (p : Parsed) (zone : Zone) (told : Int → State) : State :=
    match p.value? "d", p.value? "r" with
    | some text, _ =>
      match instant? s.disk.now zone text with
      | some ms => told ms
      | none => (s.complain ("date: invalid date " ++ quotedName text)).finish 1
    | none, some name =>
      match s.disk.look (pathOf name) with
      | .ok entry => told (s.disk.modifiedOf entry)
      | .error e => (s.complain ("date: " ++ plainWording name e)).finish 1
    | none, none => told s.disk.now

end Montage.Utility
