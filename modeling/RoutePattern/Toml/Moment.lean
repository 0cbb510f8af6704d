import RoutePattern.Reader
import RoutePattern.Text.Digits

/-!
# Dates and times in TOML

A date, a time of day, or both with an optional offset. Only the normal form of its text matters:
an upper-case `T` between date and time, a fraction of at most nine digits without trailing zeros,
an upper-case `Z`, and an offset of zero written with a plus sign.
-/

namespace RoutePattern.Toml

def twoDigits (least greatest : Nat) : Reader Text := fun t => do
  let (ds, t) ← Reader.times 2 Char.isDigit t
  let n := Text.numberOf 10 ds
  if least ≤ n && n ≤ greatest then some (ds, t) else none

def daysInMonth (year month : Nat) : Nat :=
  if month = 2 then
    if year % 4 = 0 && (year % 100 != 0 || year % 400 = 0) then 29 else 28
  else if month = 4 || month = 6 || month = 9 || month = 11 then 30
  else 31

def date : Reader Text := fun t => do
  let (year, t) ← Reader.times 4 Char.isDigit t
  let (_, t) ← Reader.exactly ['-'] t
  let (month, t) ← twoDigits 1 12 t
  let (_, t) ← Reader.exactly ['-'] t
  let (day, t) ← twoDigits 1 (daysInMonth (Text.numberOf 10 year) (Text.numberOf 10 month)) t
  some (year ++ '-' :: month ++ '-' :: day, t)

/-- A fraction of a second, cut after nine digits, without trailing zeros. -/
def secondFraction (digits : Text) : Text :=
  let kept := ((digits.take 9).reverse.dropWhile (· == '0')).reverse
  if kept = [] then [] else '.' :: kept

def time : Reader Text := fun t => do
  let (hour, t) ← twoDigits 0 23 t
  let (_, t) ← Reader.exactly [':'] t
  let (minute, t) ← twoDigits 0 59 t
  let (_, t) ← Reader.exactly [':'] t
  let (second, t) ← twoDigits 0 60 t
  let whole := hour ++ ':' :: minute ++ ':' :: second
  match t with
  | '.' :: c :: t =>
    if c.isDigit then
      some (whole ++ secondFraction (c :: t.takeWhile Char.isDigit), t.dropWhile Char.isDigit)
    else none
  | _ => some (whole, t)

def offset : Reader Text
  | [] => none
  | c :: t =>
    if c = 'Z' || c = 'z' then some (['Z'], t)
    else if c = '+' || c = '-' then do
      let (hour, t) ← twoDigits 0 23 t
      let (_, t) ← Reader.exactly [':'] t
      let (minute, t) ← twoDigits 0 59 t
      let zero := Text.numberOf 10 (hour ++ minute) = 0
      some ((if zero then '+' else c) :: hour ++ ':' :: minute, t)
    else none

def timeAfterDate : Reader Text
  | [] => none
  | c :: t => do
    if c = 'T' || c = 't' || c = ' ' then
      let (clock, t) ← time t
      match offset t with
      | some (zone, t) => some ('T' :: clock ++ zone, t)
      | none => some ('T' :: clock, t)
    else none

/-- A date, a time or both, in normal form. -/
def moment : Reader Text := fun t =>
  match date t with
  | some (day, t) =>
    match timeAfterDate t with
    | some (clock, t) => some (day ++ clock, t)
    | none => some (day, t)
  | none => time t

end RoutePattern.Toml
