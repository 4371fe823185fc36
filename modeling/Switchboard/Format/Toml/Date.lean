import Switchboard.Decimal.Whole

/-!
# Dates and times in TOML

A date, a time of day, or both with or without an offset. The text that one stands for has a `T`
between date and time and no zeros at the end of a fraction of a second.
-/

namespace Switchboard.Format.Toml.Date

/-- Reads exactly `n` digits. -/
def digits? (n : Nat) (cs : List Char) : Option (Nat × List Char) :=
  if (cs.take n).length = n then
    (Decimal.ofDigits? (cs.take n)).map fun value => (value, cs.drop n)
  else none

def isLeap (year : Nat) : Bool :=
  year % 4 = 0 && (year % 100 ≠ 0 || year % 400 = 0)

def daysIn (year month : Nat) : Nat :=
  if month = 2 then if isLeap year then 29 else 28
  else if month = 4 || month = 6 || month = 9 || month = 11 then 30
  else 31

/-- The rest after a date at the front. -/
def date? (cs : List Char) : Option (List Char) := do
  let (year, rest) ← digits? 4 cs
  match rest with
  | '-' :: rest =>
    let (month, rest) ← digits? 2 rest
    match rest with
    | '-' :: rest =>
      let (day, rest) ← digits? 2 rest
      if 1 ≤ month ∧ month ≤ 12 ∧ 1 ≤ day ∧ day ≤ daysIn year month then some rest else none
    | _ => none
  | _ => none

/-- A time of day at the front without the zeros that end its fraction, and the rest. -/
def time? (cs : List Char) : Option (List Char × List Char) := do
  let (hour, rest) ← digits? 2 cs
  match rest with
  | ':' :: rest =>
    let (minute, rest) ← digits? 2 rest
    match rest with
    | ':' :: rest =>
      let (second, rest) ← digits? 2 rest
      if hour ≤ 23 ∧ minute ≤ 59 ∧ second ≤ 60 then
        match rest with
        | '.' :: rest =>
          let ds := rest.takeWhile Char.isDigit
          if ds = [] then none
          else
            let kept := ((ds.take 9).reverse.dropWhile (· = '0')).reverse
            some (cs.take 8 ++ (if kept = [] then [] else '.' :: kept), rest.dropWhile Char.isDigit)
        | rest => some (cs.take 8, rest)
      else none
    | _ => none
  | _ => none

/-- An offset from universal time, or nothing. -/
def offset? (cs : List Char) : Option (List Char) :=
  match cs with
  | [] => some []
  | [c] => if c = 'Z' || c = 'z' then some ['Z'] else none
  | sign :: rest =>
    if sign = '+' || sign = '-' then do
      let (hour, more) ← digits? 2 rest
      match more with
      | ':' :: more =>
        let (minute, more) ← digits? 2 more
        if hour ≤ 23 ∧ minute ≤ 59 ∧ more = [] then
          some (if hour = 0 ∧ minute = 0 then "+00:00".toList else sign :: rest)
        else none
      | _ => none
    else none

/-- Whether the characters are a date alone. -/
def isDate (cs : List Char) : Bool :=
  date? cs = some []

/-- The text of a date, a time or both. -/
def ofChars? (cs : List Char) : Option String :=
  match date? cs with
  | some [] => some (String.ofList cs)
  | some (c :: rest) =>
    if c = 'T' || c = 't' then do
      let (time, rest) ← time? rest
      let offset ← offset? rest
      return String.ofList (cs.take 10 ++ 'T' :: (time ++ offset))
    else none
  | none => do
    let (time, rest) ← time? cs
    if rest = [] then return String.ofList time else none

end Switchboard.Format.Toml.Date
