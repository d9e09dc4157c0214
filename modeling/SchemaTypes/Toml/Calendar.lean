import SchemaTypes.Toml.Scan
import SchemaTypes.Toml.Value

/-!
Dates and times, read from a whole token and checked against the calendar.
-/

namespace SchemaTypes.Toml

/-- A number of exactly `count` decimal digits. -/
def fixedNumber (count : Nat) : Reader Nat := fun s =>
  let digits := s.take count
  if digits.length = count ∧ digits.all Char.isDigit then
    some (digits.foldl (fun n c => 10 * n + (c.toNat - '0'.toNat)) 0, s.drop count)
  else none

/-- One given character. -/
def mark (c : Char) : List Char → Option (List Char)
  | d :: rest => if d = c then some rest else none
  | [] => none

/-- A year with a twenty-ninth of February. -/
def isLeapYear (year : Nat) : Bool :=
  year % 4 = 0 && (year % 100 ≠ 0 || year % 400 = 0)

/-- The number of days of a month. -/
def daysInMonth (year month : Nat) : Nat :=
  if month = 2 then (if isLeapYear year then 29 else 28)
  else if month = 4 ∨ month = 6 ∨ month = 9 ∨ month = 11 then 30
  else 31

/-- A date that the calendar has. -/
def date : Reader Date := fun s => do
  let (year, s) ← fixedNumber 4 s
  let s ← mark '-' s
  let (month, s) ← fixedNumber 2 s
  let s ← mark '-' s
  let (day, s) ← fixedNumber 2 s
  if 1 ≤ month ∧ month ≤ 12 ∧ 1 ≤ day ∧ day ≤ daysInMonth year month then
    pure (⟨year, month, day⟩, s)
  else none

/-- The fraction of a second, of any length; it is not kept. -/
def fraction : List Char → Option (List Char)
  | '.' :: c :: rest => if c.isDigit then some (rest.dropWhile Char.isDigit) else none
  | '.' :: [] => none
  | s => some s

/-- The seconds of a time, which may be missing. A minute may have a leap second. -/
def seconds : Reader (Option Nat)
  | ':' :: rest => do
    let (second, s) ← fixedNumber 2 rest
    let s ← fraction s
    if second ≤ 60 then pure (some second, s) else none
  | s => some (none, s)

/-- A time of day. -/
def time : Reader Time := fun s => do
  let (hour, s) ← fixedNumber 2 s
  let s ← mark ':' s
  let (minute, s) ← fixedNumber 2 s
  let (second, s) ← seconds s
  if hour ≤ 23 ∧ minute ≤ 59 then pure (⟨hour, minute, second⟩, s) else none

/-- The hours and minutes of an offset. -/
def offsetDistance (negative : Bool) : Reader Offset := fun s => do
  let (hours, s) ← fixedNumber 2 s
  let s ← mark ':' s
  let (minutes, s) ← fixedNumber 2 s
  if hours ≤ 23 ∧ minutes ≤ 59 then pure (⟨negative, 60 * hours + minutes⟩, s) else none

/-- The offset of a time, which may be missing. -/
def offset : Reader (Option Offset)
  | 'Z' :: rest | 'z' :: rest => some (some ⟨false, 0⟩, rest)
  | '+' :: rest => (offsetDistance false rest).map fun (o, s) => (some o, s)
  | '-' :: rest => (offsetDistance true rest).map fun (o, s) => (some o, s)
  | s => some (none, s)

/-- A time with its offset, after a date. -/
def datedTime (d : Date) (s : List Char) : Option Moment := do
  let (t, s) ← time s
  let (o, s) ← offset s
  if s.isEmpty then pure ⟨some d, some t, o⟩ else none

/-- The mark between a date and a time. -/
def isTimeMark (c : Char) : Bool :=
  c = 'T' || c = 't' || c = ' '

/-- A token that is a date, a time or both. -/
def moment? (token : List Char) : Option Moment :=
  match date token with
  | some (d, []) => some ⟨some d, none, none⟩
  | some (d, c :: rest) => if isTimeMark c then datedTime d rest else none
  | none =>
    match time token with
    | some (t, []) => some ⟨none, some t, none⟩
    | _ => none

end SchemaTypes.Toml
