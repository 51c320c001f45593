import LispHost.Text.Digits
import LispHost.Text.Scan

/-!
Dates and times as TOML writes them, and their usual text.

A value is a date, a time, or both with an offset that may be left out. The usual text parts date and
time by a capital T, leaves out trailing zeros of the fraction, and writes no offset as Z.
-/

set_option autoImplicit false

namespace LispHost.Config.Toml

open LispHost.Text

def paddedNumber (width n : Nat) : List Char :=
  let digits := Nat.toDigits 10 n
  List.replicate (width - digits.length) '0' ++ digits

def fixedNumber (width low high : Nat) : Scan Nat := do
  let digits ← Scan.peekMany width
  guard (digits.length = width && digits.all Char.isDigit)
  let n := decimalNumber digits
  guard (decide (low ≤ n) && decide (n ≤ high))
  Scan.skip width
  return n

def daysOfMonth (year month : Nat) : Nat :=
  if month = 2 then
    if year % 4 = 0 ∧ (year % 100 ≠ 0 ∨ year % 400 = 0) then 29 else 28
  else if month = 4 ∨ month = 6 ∨ month = 9 ∨ month = 11 then 30
  else 31

def date : Scan (List Char) := do
  let year ← fixedNumber 4 0 9999
  Scan.char '-'
  let month ← fixedNumber 2 1 12
  Scan.char '-'
  let day ← fixedNumber 2 1 31
  guard (decide (day ≤ daysOfMonth year month))
  return paddedNumber 4 year ++ '-' :: paddedNumber 2 month ++ '-' :: paddedNumber 2 day

def secondFraction (digits : List Char) : List Char :=
  let kept := ((digits.take 9).reverse.dropWhile (· = '0')).reverse
  if kept.isEmpty then [] else '.' :: kept

def timeOfDay : Scan (List Char) := do
  let hour ← fixedNumber 2 0 23
  Scan.char ':'
  let minute ← fixedNumber 2 0 59
  Scan.char ':'
  let second ← fixedNumber 2 0 60
  let part ← if ← Scan.charIf '.' then Scan.takeWhile1 Char.isDigit else pure []
  return paddedNumber 2 hour ++ ':' :: paddedNumber 2 minute ++ ':' :: paddedNumber 2 second ++
    secondFraction part

def offset : Scan (List Char) := do
  match ← Scan.next with
  | 'Z' => return ['Z']
  | 'z' => return ['Z']
  | sign =>
    guard (sign = '+' || sign = '-')
    let hour ← fixedNumber 2 0 23
    Scan.char ':'
    let minute ← fixedNumber 2 0 59
    -- No offset at all is written with a plus.
    let sign := if hour = 0 ∧ minute = 0 then '+' else sign
    return sign :: paddedNumber 2 hour ++ ':' :: paddedNumber 2 minute

/-- A time of day as a text of its own may write it: the day may also end at hour 24, and a fraction may
be as long as it likes. -/
def looseTimeOfDay : Scan (List Char) := do
  let hour ← fixedNumber 2 0 24
  Scan.char ':'
  let minute ← fixedNumber 2 0 59
  Scan.char ':'
  let second ← fixedNumber 2 0 60
  let part ← if ← Scan.charIf '.' then Scan.takeWhile1 Char.isDigit else pure []
  return paddedNumber 2 hour ++ ':' :: paddedNumber 2 minute ++ ':' :: paddedNumber 2 second ++
    secondFraction part

/-- An offset as a text of its own may write it: up to a whole day, counted in minutes. -/
def looseOffset : Scan (List Char) := do
  match ← Scan.next with
  | 'Z' => return ['Z']
  | 'z' => return ['Z']
  | sign =>
    guard (sign = '+' || sign = '-')
    let hour ← fixedNumber 2 0 99
    Scan.char ':'
    let minute ← fixedNumber 2 0 99
    let total := 60 * hour + minute
    guard (decide (total ≤ 24 * 60))
    let sign := if total = 0 then '+' else sign
    return sign :: paddedNumber 2 (total / 60) ++ ':' :: paddedNumber 2 (total % 60)

/-- A date, a time, or both, as a text of its own may write them; only both may have an offset. -/
def looseMoment : Scan (List Char) := do
  if (← Scan.peekMany 3).drop 2 = [':'] then looseTimeOfDay
  else
    let day ← date
    if (← Scan.peek?).any fun c => c = 'T' || c = 't' || c = ' ' then
      Scan.skip 1
      let time ← looseTimeOfDay
      let shift ← if ← Scan.atEnd then pure [] else looseOffset
      return day ++ 'T' :: time ++ shift
    else return day

def momentText? (text : String) : Option String :=
  (Scan.all? looseMoment text).map String.ofList

def moment : Scan (List Char) :=
  (do
    let day ← date
    (do
      let mark ← Scan.next
      guard (mark = 'T' || mark = 't' || mark = ' ')
      let time ← timeOfDay
      let shift ← offset <|> pure []
      return day ++ 'T' :: time ++ shift) <|> pure day) <|>
  timeOfDay

end LispHost.Config.Toml
