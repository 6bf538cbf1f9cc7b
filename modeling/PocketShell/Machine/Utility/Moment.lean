import PocketShell.Machine.FileSystem
import PocketShell.Machine.Script.WordReading

/-!
# Moments

Points in time as people write them: the digits of a calendar date and a time of day, or words
that say a date, a time of day, and how far from that. All is told in one zone, that of the
meridian. The calendar is the Gregorian one for all times.

Main definitions: `Moment.ofDigits?` and `Moment.ofWords?`, which read a moment as microseconds
since the machine was started.
-/

namespace PocketShell.Machine

open Script (decimal)

namespace Moment

/-- The days from the start of 1970 up to a day of the calendar. Years start in March here, so that
the day that some of them have more is their last. -/
def dayNumber (year month day : Int) : Int :=
  let y := if month ≤ 2 then year - 1 else year
  let m := (month + 9) % 12
  365 * y + y / 4 - y / 100 + y / 400 + (153 * m + 2) / 5 + day - 1 - 719468

/-- How many days a month has. -/
def monthLength (year month : Int) : Int :=
  match month with
  | 2 => if year % 4 = 0 && (year % 100 ≠ 0 || year % 400 = 0) then 29 else 28
  | 4 | 6 | 9 | 11 => 30
  | _ => 31

/-- A date and a time of day. -/
structure Calendar where
  year : Int
  month : Int
  day : Int
  hour : Int
  minute : Int
  second : Int

/-- The seconds since the start of 1970. -/
def Calendar.seconds (c : Calendar) : Int :=
  86400 * dayNumber c.year c.month c.day + 3600 * c.hour + 60 * c.minute + c.second

/-- Whether there is such a date and time of day. -/
def Calendar.isValid (c : Calendar) : Bool :=
  1 ≤ c.month && c.month ≤ 12 && 1 ≤ c.day && c.day ≤ monthLength c.year c.month &&
    0 ≤ c.hour && c.hour ≤ 23 && 0 ≤ c.minute && c.minute ≤ 59 && 0 ≤ c.second && c.second ≤ 59

/-- The date when the machine was started. -/
def startYear : Int := 2026
@[inherit_doc startYear] def startSeconds : Int := 86400 * dayNumber startYear 1 1

/-- Seconds since the start of 1970 as microseconds since the machine was started. -/
def ofSeconds (s : Int) : Int := 1000000 * (s - startSeconds)

/-- The date and the time of day at some seconds since the start of 1970. -/
def calendarOf (s : Int) : Calendar :=
  let days := s / 86400
  let rest := s % 86400
  -- from the first of March of the year 0 on
  let z := days + 719468
  let era := z / 146097
  let doe := z % 146097
  let yoe := (doe - doe / 1460 + doe / 36524 - doe / 146096) / 365
  let doy := doe - (365 * yoe + yoe / 4 - yoe / 100)
  let mp := (5 * doy + 2) / 153
  let month := if mp < 10 then mp + 3 else mp - 9
  { year := yoe + era * 400 + (if month ≤ 2 then 1 else 0), month
    day := doy - (153 * mp + 2) / 5 + 1, hour := rest / 3600, minute := rest / 60 % 60
    second := rest % 60 }

/-- The year that two digits stand for. -/
def yearOfTwo (n : Nat) : Int := if n < 69 then 2000 + n else 1900 + n

/-- Reads a moment written in digits: maybe the year, which can have two, then two each for the
month, the day, the hour and the minute, and maybe a full stop and the seconds. -/
def ofDigits? (s : String) : Option Int := do
  let (digits, second) ←
    match s.splitOn "." with
    | [digits] => some (digits.toList, ['0', '0'])
    | [digits, second] => some (digits.toList, second.toList)
    | _ => none
  if !(digits ++ second).all Char.isDigit || second.length ≠ 2 then none
  let yearLength := digits.length - 8
  let year ←
    match yearLength with
    | 0 => if digits.length = 8 then some startYear else none
    | 2 => some (yearOfTwo (decimal (digits.take 2)))
    | 4 => some (decimal (digits.take 4) : Int)
    | _ => none
  let pair (n : Nat) : Int := decimal ((digits.drop (yearLength + 2 * n)).take 2)
  let c : Calendar := ⟨year, pair 0, pair 1, pair 2, pair 3, decimal second⟩
  if c.isValid then some (ofSeconds c.seconds) else none

/-- What has been read of the words for a moment. -/
structure Spoken where
  date : Option (Int × Int × Int)
  /-- The seconds of the day. -/
  time : Option Int
  /-- How far the zone is from the meridian, in seconds. -/
  zone : Option Int
  /-- Seconds since the start of 1970. -/
  exact : Option Int
  months : Int
  seconds : Int

/-- The names of the months. -/
def monthNames : List String :=
  ["january", "february", "march", "april", "may", "june", "july", "august", "september",
   "october", "november", "december"]

/-- The month that a word names. -/
def month? (s : String) : Option Int :=
  let s := if s.endsWith "." then (s.dropEnd 1).toString else s
  (monthNames.findIdx? fun name => name = s || (name.take 3).toString = s || s = "sept" && name = "september").map
    fun (i : Nat) => (i : Int) + 1

/-- The months and seconds of a unit of time. -/
def unit? (s : String) : Option (Int × Int) :=
  let s := if s.endsWith "s" && 1 < s.length && s ≠ "s" then (s.dropEnd 1).toString else s
  match s with
  | "year" => some (12, 0)
  | "month" => some (1, 0)
  | "fortnight" => some (0, 14 * 86400)
  | "week" => some (0, 7 * 86400)
  | "day" => some (0, 86400)
  | "hour" => some (0, 3600)
  | "minute" | "min" => some (0, 60)
  | "second" | "sec" => some (0, 1)
  | _ => none

/-- The number that a word with digits alone is. -/
def number? (s : String) : Option Int :=
  if !s.isEmpty && s.toList.all Char.isDigit then some (decimal s.toList) else none

/-- The number that a word with a sign is. -/
def signed? (s : String) : Option Int :=
  match s.toList with
  | '-' :: cs => (number? (String.ofList cs)).map (- ·)
  | '+' :: cs => number? (String.ofList cs)
  | _ => none

/-- A year as it is written: two digits stand for a longer one. -/
def year? (s : String) : Option Int := do
  let n ← number? s
  if s.length ≤ 2 then some (yearOfTwo n.toNat) else some n

/-- The date that a word is. -/
def date? (s : String) : Option (Int × Int × Int) :=
  match s.splitOn "-", s.splitOn "/" with
  | [y, m, d], _ => do
    match month? m with
    | some m => return (← year? d, m, ← number? y)
    | none => return (← year? y, ← number? m, ← number? d)
  | _, [a, b, c] => do
    if 3 ≤ a.length then return (← year? a, ← number? b, ← number? c)
    else return (← year? c, ← number? a, ← number? b)
  | _, [m, d] => do return (startYear, ← number? m, ← number? d)
  | _, _ =>
    if s.length = 8 then do
      let n ← number? s
      return (n / 10000, n / 100 % 100, n % 100)
    else none

/-- The seconds of the day that a word with colons is. -/
def time? (s : String) : Option Int := do
  let parts := s.splitOn ":"
  let plain (s : String) : Option Int := if s.length ≤ 2 then number? s else none
  let (h, m, sec) ←
    match parts with
    | [h, m] => some (← plain h, ← plain m, (0 : Int))
    | [h, m, sec] => some (← plain h, ← plain m, ← plain ((sec.splitOn ".").headD ""))
    | _ => none
  if h ≤ 23 && m ≤ 59 && sec ≤ 59 then some (3600 * h + 60 * m + sec) else none

/-- The distance from the meridian that a word with a sign is. -/
def zone? (s : String) : Option Int := do
  let sign : Int := if s.startsWith "-" then -1 else 1
  let digits := (s.toList.drop 1).filter (· != ':')
  if !(s.startsWith "-" || s.startsWith "+") || !digits.all Char.isDigit then none
  match digits.length with
  | 1 | 2 => some (sign * 3600 * decimal digits)
  | 3 | 4 => some (sign * (3600 * (decimal digits / 100 : Nat) + 60 * (decimal digits % 100 : Nat)))
  | _ => none

/-- Adds some units of time. -/
def Spoken.add (s : Spoken) (n : Int) (unit : Int × Int) : Spoken :=
  { s with months := s.months + n * unit.1, seconds := s.seconds + n * unit.2 }

/-- Reads the words for a moment. -/
def read : (fuel : Nat) → Spoken → List String → Option Spoken
  | 0, _, _ => none
  | _, s, [] => some s
  | fuel + 1, s, w :: rest => do
    let withDate (d : Int × Int × Int) : Option Spoken :=
      if s.date.isSome then none else some { s with date := some d }
    let later (n : Int) : List String → Option (Spoken × List String)
      | u :: rest => (unit? u).map fun unit =>
        match rest with
        | "ago" :: rest => (s.add (-n) unit, rest)
        | rest => (s.add n unit, rest)
      | [] => none
    match w with
    | "now" | "today" => read fuel s rest
    | "yesterday" => read fuel (s.add (-1) (0, 86400)) rest
    | "tomorrow" => read fuel (s.add 1 (0, 86400)) rest
    | "midnight" => read fuel { s with time := some 0 } rest
    | "noon" => read fuel { s with time := some 43200 } rest
    | "utc" | "gmt" | "z" => read fuel { s with zone := some 0 } rest
    | "next" | "this" | "last" =>
      let n := if w = "next" then 1 else if w = "last" then -1 else 0
      let (s, rest) ← later n rest
      read fuel s rest
    | _ =>
    if let some n := (if w.startsWith "@" then some (w.drop 1).toString else none) then
      let n := (n.splitOn ".").headD ""
      let value ← (number? n).or (signed? n)
      if rest.isEmpty then return { s with exact := some value } else none
    if let some unit := unit? w then return ← read fuel (s.add 1 unit) rest
    if let some (s, rest) := (number? w).bind fun n => later n rest then return ← read fuel s rest
    if let some (s, rest) := (signed? w).bind fun n => later n rest then return ← read fuel s rest
    if let some d := date? w then return ← read fuel (← withDate d) rest
    if let some t := time? w then
      if s.time.isSome then none
      return ← read fuel { s with time := some t } rest
    if s.time.isSome && s.zone.isNone then
      if let some z := zone? w then return ← read fuel { s with zone := some z } rest
    match month? w, rest, number? w with
    | some m, d :: y :: rest, _ =>
      let d ← number? (if d.endsWith "," then (d.dropEnd 1).toString else d)
      match year? y with
      | some y => read fuel (← withDate (y, m, d)) rest
      | none => read fuel (← withDate (startYear, m, d)) ((y :: rest))
    | some m, [d], _ => read fuel (← withDate (startYear, m, ← number? d)) []
    | none, m :: rest, some d =>
      let m ← month? m
      match rest with
      | y :: rest =>
        match year? y with
        | some y => read fuel (← withDate (y, m, d)) rest
        | none => read fuel (← withDate (startYear, m, d)) (y :: rest)
      | [] => read fuel (← withDate (startYear, m, d)) []
    | _, _, _ => none

/-- The words of a text, in small letters. A letter between a date and a time parts them, and so
does the start of a zone behind a time. -/
def wordsOf (s : String) : List String :=
  let cs := s.toList.map fun c => if c == '\t' || c == '\n' then ' ' else c
  let part : List Char → Char → List Char := fun done c =>
    match done, c with
    | d :: _, 'T' => if d.isDigit then ' ' :: done else 't' :: done
    | d :: _, 'Z' => if d.isDigit then 'z' :: ' ' :: done else 'z' :: done
    | _, c =>
      let isZone := (c == '+' || c == '-') && (done.takeWhile (· != ' ')).contains ':'
      if isZone then c :: ' ' :: done else c.toLower :: done
  ((String.ofList (cs.foldl part []).reverse).splitOn " ").filter (!·.isEmpty)

/-- Reads a moment written in words, some of which refer to a time. -/
def ofWords? (now : Int) (s : String) : Option Int := do
  let words := wordsOf s
  let spoken ← read (words.length + 1) ⟨none, none, none, none, 0, 0⟩ words
  if let some n := spoken.exact then return ofSeconds n
  let nowSeconds := now / 1000000 + startSeconds
  let today := calendarOf nowSeconds
  let (year, month, day) := spoken.date.getD (today.year, today.month, today.day)
  let isMidnight := spoken.date.isSome || words.isEmpty
  let time := spoken.time.getD (if isMidnight then 0 else nowSeconds % 86400)
  let first : Calendar := ⟨year, month, day, 0, 0, 0⟩
  if !first.isValid then none
  let months := 12 * year + (month - 1) + spoken.months
  let days := dayNumber (months / 12) (months % 12 + 1) 1 + (day - 1)
  let fraction := if spoken.time.isSome || isMidnight then 0 else now % 1000000
  return ofSeconds (86400 * days + time - spoken.zone.getD 0 + spoken.seconds) + fraction

end Moment

end PocketShell.Machine
