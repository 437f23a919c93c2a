import Dimensional.Number.Reading

/-!
Dates and times of day, as TOML writes them. Settings have no type for them: they count as texts in
one fixed form.
-/

set_option autoImplicit false

namespace Dimensional.Settings.Toml

structure Date where
  year : Nat
  month : Nat
  day : Nat
deriving DecidableEq

/-- A second may be a leap second. -/
structure TimeOfDay where
  hour : Nat
  minute : Nat
  second : Nat
  nanosecond : Nat
deriving DecidableEq

/-- Minutes ahead of universal time, or universal time itself. -/
inductive Offset where
  | universal
  | ahead (minutes : Int)
deriving DecidableEq

/-- A date, a time of day, or both; only with both there may be an offset. -/
inductive Moment where
  | ofDate (date : Date)
  | ofTime (time : TimeOfDay)
  | ofBoth (date : Date) (time : TimeOfDay) (offset : Option Offset)
deriving DecidableEq

/-- The number of days of a month. -/
def monthLength (year month : Nat) : Nat :=
  if month = 2 then
    if year % 4 = 0 ∧ (year % 100 ≠ 0 ∨ year % 400 = 0) then 29 else 28
  else if month = 4 ∨ month = 6 ∨ month = 9 ∨ month = 11 then 30
  else 31

/-- Exactly `count` digits that stand for a number from `low` to `high`. -/
def readNumeral? (count low high : Nat) (cs : List Char) : Option (Nat × List Char) :=
  let digits := cs.take count
  let value := Number.ofDigits digits
  if digits.length = count ∧ digits.all Number.isDigit ∧ low ≤ value ∧ value ≤ high then
    some (value, cs.drop count)
  else none

/-- The rest after a certain character. -/
def readMark? (mark : Char) : List Char → Option (List Char)
  | c :: rest => if c = mark then some rest else none
  | [] => none

def readDate? (cs : List Char) : Option (Date × List Char) := do
  let (year, cs) ← readNumeral? 4 0 9999 cs
  let (month, cs) ← readNumeral? 2 1 12 (← readMark? '-' cs)
  let (day, cs) ← readNumeral? 2 1 (monthLength year month) (← readMark? '-' cs)
  some (⟨year, month, day⟩, cs)

/-- A fraction of a second in nanoseconds; all that is less is dropped. -/
def readNanoseconds : List Char → Nat × List Char
  | '.' :: cs =>
    let digits := cs.takeWhile Number.isDigit
    if digits.isEmpty then (0, '.' :: cs)
    else
      (Number.ofDigits ((digits ++ List.replicate 9 '0').take 9), cs.drop digits.length)
  | cs => (0, cs)

def readTime? (cs : List Char) : Option (TimeOfDay × List Char) := do
  let (hour, cs) ← readNumeral? 2 0 23 cs
  let (minute, cs) ← readNumeral? 2 0 59 (← readMark? ':' cs)
  let (second, cs) ← readNumeral? 2 0 60 (← readMark? ':' cs)
  let (nanosecond, cs) := readNanoseconds cs
  some (⟨hour, minute, second, nanosecond⟩, cs)

/-- An offset, if there is one; none at all if it is begun but not complete. -/
def readOffset? : List Char → Option (Option Offset × List Char)
  | [] => some (none, [])
  | c :: cs =>
    if c = 'Z' ∨ c = 'z' then some (some .universal, cs)
    else if c = '+' ∨ c = '-' then do
      let (hours, cs) ← readNumeral? 2 0 23 cs
      let (minutes, cs) ← readNumeral? 2 0 59 (← readMark? ':' cs)
      let ahead : Int := hours * 60 + minutes
      some (some (.ahead (if c = '-' then -ahead else ahead)), cs)
    else some (none, c :: cs)

/-- A date, and a time after it where a letter `T` or a blank is followed by one; or a time. -/
def Moment.read? (cs : List Char) : Option (Moment × List Char) :=
  match readDate? cs with
  | none => (readTime? cs).map fun (time, rest) => (.ofTime time, rest)
  | some (date, rest) =>
    let time? := match rest with
      | c :: cs => if c = 'T' ∨ c = 't' ∨ c = ' ' then readTime? cs else none
      | [] => none
    match time? with
    | none => some (.ofDate date, rest)
    | some (time, rest) =>
      (readOffset? rest).map fun (offset, rest) => (.ofBoth date time offset, rest)

/-- The moment that a whole text gives. -/
def Moment.ofText? (cs : List Char) : Option Moment :=
  match Moment.read? cs with
  | some (moment, []) => some moment
  | _ => none

/-- A number with zeros before it, so that it has `width` digits. -/
def numeral (width n : Nat) : List Char :=
  let digits := Nat.toDigits 10 n
  List.replicate (width - digits.length) '0' ++ digits

def Date.text (date : Date) : List Char :=
  numeral 4 date.year ++ '-' :: (numeral 2 date.month ++ '-' :: numeral 2 date.day)

/-- The fraction of a second is written without zeros at its end. -/
def TimeOfDay.text (time : TimeOfDay) : List Char :=
  let fraction :=
    if time.nanosecond = 0 then []
    else '.' :: ((numeral 9 time.nanosecond).reverse.dropWhile (· == '0')).reverse
  numeral 2 time.hour ++ ':' ::
    (numeral 2 time.minute ++ ':' :: (numeral 2 time.second ++ fraction))

def Offset.text : Offset → List Char
  | .universal => ['Z']
  | .ahead minutes =>
    let sign := if minutes < 0 then '-' else '+'
    sign :: (numeral 2 (minutes.natAbs / 60) ++ ':' :: numeral 2 (minutes.natAbs % 60))

def Moment.text : Moment → List Char
  | .ofDate date => date.text
  | .ofTime time => time.text
  | .ofBoth date time offset =>
    date.text ++ 'T' :: (time.text ++ ((offset.map Offset.text).getD []))

example : (Moment.ofText? "1979-05-27 07:32:00.50-00:30".toList).map (fun m => String.ofList m.text)
    = some "1979-05-27T07:32:00.5-00:30" := by decide +kernel

example : Moment.ofText? "2023-02-29".toList = none := by decide +kernel

end Dimensional.Settings.Toml
