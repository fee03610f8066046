import HttpEngine.Bytes
import HttpEngine.Text.Blank
import HttpEngine.Text.Numeral

/-!
# Dates in headers

A date is a day of the Gregorian calendar from 1970 on and a second of that day,
in universal time.  Three forms are read (`Sun, 06 Nov 1994 08:49:37 GMT`,
`Sunday, 06-Nov-94 08:49:37 GMT` and `Sun Nov  6 08:49:37 1994`), the first one
is written.
-/

namespace HttpEngine.Calendar

structure Date where
  year : Nat
  month : Nat
  day : Nat
  hour : Nat
  minute : Nat
  second : Nat
  /-- Monday is 1 and Sunday is 7. -/
  weekday : Nat
  deriving DecidableEq, Repr

/-! ## Days -/

def isLeap (year : Nat) : Bool :=
  (year % 4 == 0 && year % 100 != 0) || year % 400 == 0

def daysInMonth (year month : Nat) : Nat :=
  if month = 2 then (if isLeap year then 29 else 28)
  else if month = 4 ∨ month = 6 ∨ month = 9 ∨ month = 11 then 30
  else 31

/-- Days of the Gregorian calendar before the year `year`. -/
def daysBeforeYear (year : Nat) : Nat :=
  let past := year - 1
  past * 365 + past / 4 - past / 100 + past / 400

def daysBeforeMonth (year : Nat) : Nat → Nat
  | 0 => 0
  | month + 1 =>
      if month = 0 then 0
      else daysBeforeMonth year month + daysInMonth year month

/-- Days from 1 January 1970. -/
def dayNumber (year month day : Nat) : Nat :=
  daysBeforeYear year + daysBeforeMonth year month + (day - 1) -
    daysBeforeYear 1970

/-- Day 0 was a Thursday. -/
def weekdayOf (dayNumber : Nat) : Nat := (dayNumber + 3) % 7 + 1

def Date.isValid (date : Date) : Bool :=
  decide (date.second < 60 ∧ date.minute < 60 ∧ date.hour < 24 ∧
    1970 ≤ date.year ∧ 1 ≤ date.month ∧ date.month ≤ 12 ∧ 1 ≤ date.day ∧
    date.day ≤ daysInMonth date.year date.month ∧
    date.weekday = weekdayOf (dayNumber date.year date.month date.day))

/-- Seconds from the beginning of 1970. -/
def Date.seconds (date : Date) : Nat :=
  dayNumber date.year date.month date.day * 86400 + date.hour * 3600 +
    date.minute * 60 + date.second

/-! ## From seconds -/

/-- The last year from `year` on that has begun by day `days` of `year`, and the
day in it. -/
def findYear : Nat → Nat → Nat → Nat × Nat
  | 0, year, days => (year, days)
  | fuel + 1, year, days =>
      let length := if isLeap year then 366 else 365
      if days < length then (year, days)
      else findYear fuel (year + 1) (days - length)

def findMonth : Nat → Nat → Nat → Nat → Nat × Nat
  | 0, _, month, days => (month, days)
  | fuel + 1, year, month, days =>
      let length := daysInMonth year month
      if days < length then (month, days)
      else findMonth fuel year (month + 1) (days - length)

def ofSeconds (seconds : Nat) : Date :=
  let days := seconds / 86400
  let rest := seconds % 86400
  let (year, dayOfYear) := findYear (days / 365) 1970 days
  let (month, dayOfMonth) := findMonth 11 year 1 dayOfYear
  ⟨year, month, dayOfMonth + 1, rest / 3600, rest / 60 % 60, rest % 60,
    weekdayOf days⟩

/-! ## Names -/

def months : List String :=
  ["Jan", "Feb", "Mar", "Apr", "May", "Jun", "Jul", "Aug", "Sep", "Oct",
    "Nov", "Dec"]

def weekdays : List String :=
  ["Monday", "Tuesday", "Wednesday", "Thursday", "Friday", "Saturday", "Sunday"]

def shortWeekdays : List String :=
  ["Mon", "Tue", "Wed", "Thu", "Fri", "Sat", "Sun"]

def numberOf? (names : List String) (name : List Char) : Option Nat :=
  (names.findIdx? (·.toList == name)).map (· + 1)

/-! ## Reading -/

def digits? (text : List Char) : Option Nat :=
  text.foldlM (fun value character =>
    (Text.digitValue? character).map (value * 10 + ·)) 0

/-- The characters of `text` from position `start` on, `count` of them. -/
def field (text : List Char) (start count : Nat) : List Char :=
  (text.drop start).take count

def parseFixed? (text : List Char) : Option Date :=
  if text.length = 29 ∧ field text 25 4 = " GMT".toList ∧
    field text 16 1 = [' '] ∧
      field text 19 1 = [':'] ∧ field text 22 1 = [':'] ∧
      field text 3 2 = ", ".toList ∧
      field text 7 1 = [' '] ∧ field text 11 1 = [' '] then do
    some {
      second := ← digits? (field text 23 2)
      minute := ← digits? (field text 20 2)
      hour := ← digits? (field text 17 2)
      day := ← digits? (field text 5 2)
      month := ← numberOf? months (field text 8 3)
      year := ← digits? (field text 12 4)
      weekday := ← numberOf? shortWeekdays (field text 0 3)
    }
  else none

/-- A year of two digits lies between 1970 and 2069. -/
def centuryOf (year : Nat) : Nat :=
  if year < 70 then year + 2000 else year + 1900

def parseLong? (text : List Char) : Option Date := do
  let (name, rest) ← Sequence.cutAt? ',' text
  let weekday ← numberOf? weekdays name
  match rest with
  | ' ' :: rest =>
      if rest.length = 22 ∧ field rest 12 1 = [':'] ∧ field rest 15 1 = [':'] ∧
          field rest 18 4 = " GMT".toList ∧ field rest 2 1 = ['-'] ∧
          field rest 6 1 = ['-'] then
        some {
          second := ← digits? (field rest 16 2)
          minute := ← digits? (field rest 13 2)
          hour := ← digits? (field rest 10 2)
          day := ← digits? (field rest 0 2)
          month := ← numberOf? months (field rest 3 3)
          year := centuryOf (← digits? (field rest 7 2))
          weekday := weekday
        }
      else none
  | _ => none

def parsePlain? (text : List Char) : Option Date :=
  if text.length = 24 ∧ field text 10 1 = [' '] ∧ field text 13 1 = [':'] ∧
      field text 16 1 = [':'] ∧ field text 19 1 = [' '] ∧
      field text 3 1 = [' '] ∧ field text 7 1 = [' '] then do
    let day := field text 8 2
    some {
      second := ← digits? (field text 17 2)
      minute := ← digits? (field text 14 2)
      hour := ← digits? (field text 11 2)
      day := ← digits? (if day.head? = some ' ' then day.drop 1 else day)
      month := ← numberOf? months (field text 4 3)
      year := ← digits? (field text 20 4)
      weekday := ← numberOf? shortWeekdays (field text 0 3)
    }
  else none

def invalidDate : String := "string contains no or an invalid date"

/-- The form that fits is chosen first; the date in it must exist. -/
def parse (text : String) : Except String Date :=
  let text := Text.trim text.toList
  match parseFixed? text <|> parseLong? text <|> parsePlain? text with
  | some date => if date.isValid then .ok date else .error invalidDate
  | none => .error invalidDate

/-! ## Writing -/

def pad (width value : Nat) : String :=
  let digits := Nat.toDigits 10 value
  String.ofList (List.replicate (width - digits.length) '0' ++ digits)

def Date.render (date : Date) : String :=
  shortWeekdays.getD (date.weekday - 1) "" ++ ", " ++ pad 2 date.day ++ " " ++
    months.getD (date.month - 1) "" ++ " " ++ pad 4 date.year ++ " " ++
      pad 2 date.hour ++ ":" ++
    pad 2 date.minute ++ ":" ++ pad 2 date.second ++ " GMT"

end HttpEngine.Calendar
