import AsmExplorer.Text.Word

/-!
# Dates and times in TOML

A *moment* is a date, a time of day, or a date with a time and perhaps its distance from universal
time.  `Moment.read?` reads one, and `Moment.chars` writes it in the one form that readers of a
document get to see: `T` between date and time, `Z` for universal time, and no zeros at the end of a
fraction.
-/

namespace AsmExplorer.Toml

/-- A date of the Gregorian calendar. -/
structure Date where
  /-- The year. -/
  year : Nat
  /-- The month, from 1. -/
  month : Nat
  /-- The day, from 1. -/
  day : Nat
deriving DecidableEq, Inhabited

/-- A time of day. -/
structure Clock where
  /-- The hour. -/
  hour : Nat
  /-- The minute. -/
  minute : Nat
  /-- The second, if one is given; 60 is a leap second. -/
  second : Option Nat
  /-- The digits of the fraction of the second, if one is given: nine at most, and no zero at the
  end but for a single one. -/
  fraction : Option (List Char)
deriving DecidableEq, Inhabited

/-- The distance of a local time from universal time. -/
inductive Offset where
  /-- None, written as a letter. -/
  | universal
  /-- So many minutes. -/
  | minutes (ahead : Bool) (count : Nat)
deriving DecidableEq, Inhabited

/-- What TOML has for dates and times. -/
structure Moment where
  /-- The date. -/
  date : Option Date
  /-- The time. -/
  clock : Option Clock
  /-- The distance from universal time. -/
  offset : Option Offset
deriving DecidableEq, Inhabited

/-! ### Reading -/

/-- The number that exactly so many digits write, and the rest. -/
def number? (digits : Nat) (s : List Char) : Option (Nat × List Char) :=
  if s.length < digits then none else (Text.nat? (s.take digits)).map (·, s.drop digits)

/-- The same for a number in a range. -/
def numberIn? (digits low high : Nat) (s : List Char) : Option (Nat × List Char) :=
  (number? digits s).filter fun (n, _) => low ≤ n && n ≤ high

/-- The rest after a character. -/
def after? (c : Char) : List Char → Option (List Char)
  | d :: rest => if c = d then some rest else none
  | [] => none

/-- How many days a month has. -/
def daysInMonth (year month : Nat) : Nat :=
  if month = 2 then
    if year % 4 = 0 ∧ (year % 100 ≠ 0 ∨ year % 400 = 0) then 29 else 28
  else if month = 4 ∨ month = 6 ∨ month = 9 ∨ month = 11 then 30
  else 31

/-- A date, and the rest. -/
def date? (s : List Char) : Option (Date × List Char) := do
  let (year, s) ← number? 4 s
  let (month, s) ← numberIn? 2 1 12 (← after? '-' s)
  let (day, s) ← numberIn? 2 1 (daysInMonth year month) (← after? '-' s)
  some ({ year, month, day }, s)

/-- The fraction that digits write; digits after the ninth do not count. -/
def fraction (digits : List Char) : List Char :=
  let shown := ((digits.take 9).reverse.dropWhile (· == '0')).reverse
  if shown.isEmpty then ['0'] else shown

/-- The fraction of a second after a point, if there is one, and the rest. -/
def fraction? (s : List Char) : Option (Option (List Char) × List Char) :=
  match s with
  | '.' :: rest =>
    let digits := rest.takeWhile Char.isDigit
    if digits.isEmpty then none else some (some (fraction digits), rest.dropWhile Char.isDigit)
  | _ => some (none, s)

/-- A time of day, and the rest. -/
def clock? (s : List Char) : Option (Clock × List Char) := do
  let (hour, s) ← numberIn? 2 0 23 s
  let (minute, s) ← numberIn? 2 0 59 (← after? ':' s)
  match s with
  | ':' :: s =>
    let (second, s) ← numberIn? 2 0 60 s
    let (fraction, s) ← fraction? s
    some ({ hour, minute, second := some second, fraction }, s)
  | _ => some ({ hour, minute, second := none, fraction := none }, s)

/-- The distance from universal time that the whole text writes. -/
def offset? : List Char → Option Offset
  | ['Z'] => some .universal
  | ['z'] => some .universal
  | sign :: s => do
    let (hours, s) ← numberIn? 2 0 23 s
    let (minutes, s) ← numberIn? 2 0 59 (← after? ':' s)
    if (sign = '+' ∨ sign = '-') ∧ s.isEmpty then
      some (.minutes (sign == '+') (hours * 60 + minutes))
    else none
  | [] => none

namespace Moment

/-- The moment that a text writes. -/
def read? (s : List Char) : Option Moment :=
  match date? s with
  | some (date, []) => some { date := some date, clock := none, offset := none }
  | some (date, mark :: rest) =>
    if mark = 'T' ∨ mark = 't' ∨ mark = ' ' then do
      let (clock, rest) ← clock? rest
      let offset ← if rest.isEmpty then some none else (offset? rest).map some
      some { date := some date, clock := some clock, offset }
    else none
  | none =>
    match clock? s with
    | some (clock, []) => some { date := none, clock := some clock, offset := none }
    | _ => none

end Moment

/-! ### Writing -/

/-- The digits of a number, with zeros before them up to the given length. -/
def padded (length n : Nat) : List Char :=
  let digits := Text.decimal n
  List.replicate (length - digits.length) '0' ++ digits

/-- The written form of a date. -/
def Date.chars (d : Date) : List Char :=
  padded 4 d.year ++ '-' :: padded 2 d.month ++ '-' :: padded 2 d.day

/-- The written form of a time of day. -/
def Clock.chars (c : Clock) : List Char :=
  padded 2 c.hour ++ ':' :: padded 2 c.minute ++
    (match c.second with
     | some second => ':' :: padded 2 second
     | none => []) ++
    (match c.fraction with
     | some digits => '.' :: digits
     | none => [])

/-- The written form of a distance; no distance at all is ahead. -/
def Offset.chars : Offset → List Char
  | universal => ['Z']
  | minutes ahead count =>
    (if ahead ∨ count = 0 then '+' else '-') :: padded 2 (count / 60) ++
      ':' :: padded 2 (count % 60)

/-- The written form of a moment. -/
def Moment.chars (m : Moment) : List Char :=
  (match m.date with
   | some date => date.chars
   | none => []) ++
    (if m.date.isSome ∧ m.clock.isSome then ['T'] else []) ++
    (match m.clock with
     | some clock => clock.chars
     | none => []) ++
    (match m.offset with
     | some offset => offset.chars
     | none => [])

end AsmExplorer.Toml
