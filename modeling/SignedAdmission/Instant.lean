/-! Points in time, and their textual form with date, time of day and offset. -/
namespace SignedAdmission

/-- Nanoseconds since the start of 1970. -/
structure Instant where
  nanoseconds : Int
deriving DecidableEq, Repr

namespace Instant

def ofSeconds (seconds : Nat) : Instant :=
  ⟨seconds * 1000000000⟩

def isBefore (a b : Instant) : Bool :=
  a.nanoseconds < b.nanoseconds

def isLeapYear (year : Nat) : Bool :=
  (year % 4 == 0 && year % 100 != 0) || year % 400 == 0

def daysInMonth (year month : Nat) : Nat :=
  if month = 2 then (if isLeapYear year then 29 else 28)
  else if month = 4 ∨ month = 6 ∨ month = 9 ∨ month = 11 then 30
  else 31

/-- Days from the start of 1970 to a date. Years are counted from March, so that the day that a
leap year adds comes last. -/
def days (year month day : Nat) : Int :=
  let y : Int := if month ≤ 2 then (year : Int) - 1 else year
  let monthFromMarch := (month + 9) % 12
  let dayOfYear : Int := (153 * monthFromMarch + 2) / 5 + day - 1
  365 * y + y / 4 - y / 100 + y / 400 + dayOfYear - 719468

/-- A number of exactly `count` digits, and the rest. -/
def digits? (count : Nat) (cs : List Char) : Option (Nat × List Char) :=
  let ds := cs.take count
  if ds.length = count && ds.all Char.isDigit then
    some (ds.foldl (fun n c => 10 * n + (c.toNat - '0'.toNat)) 0, cs.drop count)
  else none

def expect? (c : Char) : List Char → Option (List Char)
  | d :: rest => if c = d then some rest else none
  | [] => none

/-- The nanoseconds of a fraction, if there is one; digits after the ninth are passed over. -/
def fraction? (cs : List Char) : Option (Nat × List Char) :=
  match cs with
  | '.' :: rest =>
    let ds := rest.takeWhile Char.isDigit
    if ds.isEmpty then none
    else
      let padded := (ds ++ List.replicate 9 '0').take 9
      (digits? 9 padded).map fun (n, _) => (n, rest.dropWhile Char.isDigit)
  | rest => some (0, rest)

/-- The offset in seconds: `Z`, or hours and minutes after a sign. -/
def offset? (cs : List Char) : Option (Int × List Char) :=
  match cs with
  | [] => none
  | c :: rest =>
    if c = 'Z' ∨ c = 'z' then some (0, rest)
    else do
      let sign : Int ←
        if c = '+' then some 1 else if c = '-' ∨ c = '\u2212' then some (-1) else none
      let (hours, rest) ← digits? 2 rest
      let rest ← expect? ':' rest
      let (minutes, rest) ← digits? 2 rest
      guard (hours ≤ 23 ∧ minutes ≤ 59)
      return (sign * (3600 * hours + 60 * minutes), rest)

/-- A date and a time as RFC 3339 writes them. A minute may have a leap second. -/
def ofText? (text : String) : Option Instant := do
  let (year, cs) ← digits? 4 text.toList
  let cs ← expect? '-' cs
  let (month, cs) ← digits? 2 cs
  let cs ← expect? '-' cs
  let (day, cs) ← digits? 2 cs
  let cs ← (expect? 'T' cs).or ((expect? 't' cs).or (expect? ' ' cs))
  let (hour, cs) ← digits? 2 cs
  let cs ← expect? ':' cs
  let (minute, cs) ← digits? 2 cs
  let cs ← expect? ':' cs
  let (second, cs) ← digits? 2 cs
  let (nanos, cs) ← fraction? cs
  let (offset, cs) ← offset? cs
  guard cs.isEmpty
  guard (1 ≤ month ∧ month ≤ 12 ∧ 1 ≤ day ∧ day ≤ daysInMonth year month)
  guard (hour ≤ 23 ∧ minute ≤ 59 ∧ second ≤ 60)
  let seconds := 86400 * days year month day + 3600 * hour + 60 * minute + second - offset
  return ⟨1000000000 * seconds + nanos⟩

end Instant

end SignedAdmission
