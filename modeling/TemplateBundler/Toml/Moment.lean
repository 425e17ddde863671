import TemplateBundler.Json.Basic
import TemplateBundler.Number.Integer

/-!
# Moment: dates and times of TOML

A moment is a date, a time of day, or both with an optional offset from universal time. Seconds may
be left out. Of the digits behind the seconds nine are kept.

* `Toml.Date`, `Toml.Clock`, `Toml.Offset`, `Toml.Moment`: the values;
* `Toml.Moment.ofText?`: the moment that a text spells;
* `Toml.Moment.text`: its one spelling;
* `Toml.Moment.toJson`: an object of one field that holds this spelling.
-/

namespace TemplateBundler.Toml

structure Date where
  year : Nat
  month : Nat
  day : Nat
deriving DecidableEq, Repr

structure Clock where
  hour : Nat
  minute : Nat
  second : Option Nat
  nanosecond : Option Nat
deriving DecidableEq, Repr

inductive Offset where
  | utc
  | minutes (ahead : Int)
deriving DecidableEq, Repr

inductive Moment where
  | date (day : Date)
  | clock (time : Clock)
  | dateTime (day : Date) (time : Clock) (offset : Option Offset)
deriving DecidableEq, Repr

/-! ## Spelling -/

def padded (width n : Nat) : List Char :=
  let digits := Integer.digits n
  List.replicate (width - digits.length) '0' ++ digits

def Date.text (date : Date) : List Char :=
  padded 4 date.year ++ '-' :: padded 2 date.month ++ '-' :: padded 2 date.day

/-- The digits behind the seconds: no zero at their end, unless it is the only one. -/
def fractionText (nanosecond : Nat) : List Char :=
  let digits := ((padded 9 nanosecond).reverse.dropWhile (· = '0')).reverse
  if digits.isEmpty then ['0'] else digits

def Clock.text (clock : Clock) : List Char :=
  let second :=
    match clock.second with
    | some second => ':' :: padded 2 second
    | none => []
  let fraction :=
    match clock.nanosecond with
    | some nanosecond => '.' :: fractionText nanosecond
    | none => []
  padded 2 clock.hour ++ ':' :: padded 2 clock.minute ++ second ++ fraction

def Offset.text : Offset → List Char
  | .utc => ['Z']
  | .minutes ahead =>
    (if ahead < 0 then '-' else '+') ::
      padded 2 (ahead.natAbs / 60) ++ ':' :: padded 2 (ahead.natAbs % 60)

def Moment.text : Moment → List Char
  | .date day => day.text
  | .clock time => time.text
  | .dateTime day time offset => day.text ++ 'T' :: time.text ++ (offset.map Offset.text).getD []

/-- JSON has no dates: a moment is an object of one field. -/
def Moment.toJson (moment : Moment) : Json :=
  .object [("$__toml_private_datetime", .string (String.ofList moment.text))]

/-! ## Reading -/

def twoDigits? : List Char → Option (Nat × List Char)
  | a :: b :: rest => (Integer.natOf? 10 [a, b]).map fun n => (n, rest)
  | _ => none

def isLeapYear (year : Nat) : Bool := year % 4 = 0 && (year % 100 ≠ 0 || year % 400 = 0)

def daysInMonth (year month : Nat) : Nat :=
  if month = 2 then if isLeapYear year then 29 else 28
  else if [4, 6, 9, 11].contains month then 30 else 31

def Date.isValid (date : Date) : Bool :=
  1 ≤ date.month && date.month ≤ 12 && 1 ≤ date.day &&
    date.day ≤ daysInMonth date.year date.month

def readDate? : List Char → Option (Date × List Char)
  | a :: b :: c :: d :: '-' :: rest => do
    let year ← Integer.natOf? 10 [a, b, c, d]
    let (month, rest) ← twoDigits? rest
    match rest with
    | '-' :: rest =>
      let (day, rest) ← twoDigits? rest
      let date : Date := ⟨year, month, day⟩
      if date.isValid then some (date, rest) else none
    | _ => none
  | _ => none

/-- The hour and minute exist, and so does the second; a leap second may be the sixtieth. -/
def Clock.isValid (clock : Clock) : Bool :=
  clock.hour ≤ 23 && clock.minute ≤ 59 && clock.second.getD 0 ≤ 60

def readFraction? : List Char → Option (Option Nat × List Char)
  | '.' :: rest =>
    let digits := rest.takeWhile Integer.isDigit
    if digits.isEmpty then none
    else
      (Integer.natOf? 10 ((digits ++ List.replicate 9 '0').take 9)).map fun n =>
        (some n, rest.dropWhile Integer.isDigit)
  | rest => some (none, rest)

def readClock? (s : List Char) : Option (Clock × List Char) := do
  let (hour, rest) ← twoDigits? s
  match rest with
  | ':' :: rest =>
    let (minute, rest) ← twoDigits? rest
    let (clock, rest) ←
      match rest with
      | ':' :: rest =>
        (twoDigits? rest).bind fun (second, rest) =>
          (readFraction? rest).map fun (nanosecond, rest) =>
            ((⟨hour, minute, some second, nanosecond⟩ : Clock), rest)
      | rest => some (⟨hour, minute, none, none⟩, rest)
    if clock.isValid then some (clock, rest) else none
  | _ => none

def offsetOf? (digits : List Char) : Option Int := do
  let (hours, rest) ← twoDigits? digits
  match rest with
  | ':' :: rest =>
    let (minutes, rest) ← twoDigits? rest
    if rest = [] ∧ hours ≤ 23 ∧ minutes ≤ 59 then some (60 * hours + minutes : Nat) else none
  | _ => none

def readOffset? : List Char → Option (Option Offset)
  | [] => some none
  | ['Z'] | ['z'] => some (some .utc)
  | '+' :: digits => (offsetOf? digits).map fun n => some (.minutes n)
  | '-' :: digits => (offsetOf? digits).map fun n => some (.minutes (-n))
  | _ => none

/-- The moment that a text spells. A letter `T` or a space divides date and time. -/
def Moment.ofText? (s : List Char) : Option Moment :=
  match readDate? s with
  | some (day, []) => some (.date day)
  | some (day, mark :: rest) =>
    if mark = 'T' ∨ mark = 't' ∨ mark = ' ' then
      (readClock? rest).bind fun (time, rest) => (readOffset? rest).map (.dateTime day time)
    else none
  | none =>
    match readClock? s with
    | some (time, []) => some (.clock time)
    | _ => none

end TemplateBundler.Toml
