import DocQuery.Text.Number

/-!
This module contains the writing and reading of instants in the proleptic Gregorian calendar.
-/

namespace DocQuery
namespace Text

structure Day where
  year : Int
  month : Nat
  day : Nat
deriving DecidableEq

/--
The calendar day that comes `days` days after 1970-01-01. Years are counted from March, so that a leap
day is the last of its year, and in eras of 400 years, which all have the same number of days.
-/
def Day.ofEpochDays (days : Int) : Day :=
  let shifted := days + 719468
  let era := Int.fdiv shifted 146097
  let dayOfEra := (Int.fmod shifted 146097).toNat
  let yearOfEra := (dayOfEra - dayOfEra / 1460 + dayOfEra / 36524 - dayOfEra / 146096) / 365
  let dayOfYear := dayOfEra - (365 * yearOfEra + yearOfEra / 4 - yearOfEra / 100)
  let monthFromMarch := (5 * dayOfYear + 2) / 153
  let day := dayOfYear - (153 * monthFromMarch + 2) / 5 + 1
  let month := if monthFromMarch < 10 then monthFromMarch + 3 else monthFromMarch - 9
  let year := yearOfEra + era * 400 + (if month ≤ 2 then 1 else 0)
  ⟨year, month, day⟩

def fractionText (millis : Nat) : List Char :=
  match ((padded 10 3 millis).reverse.dropWhile (· == '0')).reverse with
  | [] => ['0']
  | digits => digits

def dateTime (millis : Int) : String :=
  let day := Day.ofEpochDays (Int.fdiv millis 86400000)
  let rest := (Int.fmod millis 86400000).toNat
  if day.year < -9999 ∨ 9999 < day.year then
    ofInt millis
  else
    let year := (if day.year < 0 then ['-'] else []) ++ padded 10 4 day.year.natAbs
    String.ofList <|
      year ++ '-' :: padded 10 2 day.month ++ '-' :: padded 10 2 day.day
        ++ ' ' :: Nat.toDigits 10 (rest / 3600000)
        ++ ':' :: padded 10 2 (rest / 60000 % 60)
        ++ ':' :: padded 10 2 (rest / 1000 % 60)
        ++ '.' :: fractionText (rest % 1000)
        ++ " +00:00:00".toList

def Day.toEpochDays (day : Day) : Int :=
  let yearFromMarch := if day.month ≤ 2 then day.year - 1 else day.year
  let monthFromMarch := if day.month ≤ 2 then day.month + 9 else day.month - 3
  let era := Int.fdiv yearFromMarch 400
  let yearOfEra := Int.fmod yearFromMarch 400
  let dayOfYear : Int := (153 * monthFromMarch + 2) / 5 + day.day - 1
  era * 146097 + yearOfEra * 365 + yearOfEra / 4 - yearOfEra / 100 + dayOfYear - 719468

def Day.isReal (day : Day) : Bool := Day.ofEpochDays day.toEpochDays = day

def takeDigits? (count : Nat) (cs : List Char) : Option (Nat × List Char) :=
  if (cs.take count).length = count then
    (readDigits? (cs.take count)).map (·, cs.drop count)
  else
    none

def takeChar? (expected : Char) : List Char → Option (List Char)
  | c :: cs => if c = expected then some cs else none
  | [] => none

def takeBillionths? : List Char → Option (Nat × List Char)
  | '.' :: cs =>
    let digits := cs.takeWhile isDigit
    if digits = [] then
      none
    else
      some (digitsValue ((digits ++ List.replicate 9 '0').take 9), cs.dropWhile isDigit)
  | cs => some (0, cs)

def readOffset? : List Char → Option Int
  | ['Z'] | ['z'] => some 0
  | sign :: cs => do
    let (hours, cs) ← takeDigits? 2 cs
    let (minutes, cs) ← takeDigits? 2 (← takeChar? ':' cs)
    if cs ≠ [] ∨ 23 < hours ∨ 59 < minutes then
      none
    else
      let seconds : Int := hours * 3600 + minutes * 60
      if sign = '+' then some seconds else if sign = '-' then some (-seconds) else none
  | [] => none

def readDateTime? (s : String) : Option Int := do
  let (year, cs) ← takeDigits? 4 s.toList
  let (month, cs) ← takeDigits? 2 (← takeChar? '-' cs)
  let (day, cs) ← takeDigits? 2 (← takeChar? '-' cs)
  let separator ← cs.head?
  let (hour, cs) ← takeDigits? 2 cs.tail
  let (minute, cs) ← takeDigits? 2 (← takeChar? ':' cs)
  let (second, cs) ← takeDigits? 2 (← takeChar? ':' cs)
  let (billionths, cs) ← takeBillionths? cs
  let offset ← readOffset? cs
  let date : Day := ⟨year, month, day⟩
  if !date.isReal || 128 ≤ separator.toNat || 23 < hour || 59 < minute || 60 < second then
    none
  else
    let clock : Int := hour * 3600 + minute * 60 + min second 59
    let seconds := date.toEpochDays * 86400 + clock - offset
    let endsMonth := Int.fmod seconds 86400 = 86399 ∧ (Day.ofEpochDays (Int.fdiv seconds 86400 + 1)).day = 1
    if second = 60 ∧ ¬ endsMonth then
      none
    else
      let billionths := if second = 60 then 999999999 else billionths
      some (Int.tdiv (seconds * 1000000000 + billionths) 1000000)

end Text
end DocQuery
