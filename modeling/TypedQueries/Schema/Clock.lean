import TypedQueries.Schema.Item

/-!
The clock behind a column default such as `now()`. A schema reads nothing of the present moment but its
text under one of two patterns.
-/

namespace TypedQueries

/-- The present moment, by the text that it has under each pattern. -/
structure Clock where
  format : String → String

/-- The present as the default of a column: the day alone in a DATE column, else day and time. -/
def Clock.currentTime (now : Clock) (type : DataType) : String :=
  let pattern := match type with
    | .date => "%Y-%m-%d"
    | _ => "%Y-%m-%d %H:%M:%S"
  now.format pattern

structure Moment where
  year : Int
  month : Nat
  day : Nat
  hour : Nat
  minute : Nat
  second : Nat
  deriving DecidableEq, Repr

namespace Moment

/-- Decimal digits, filled up with zeros to a width. -/
def padded (width n : Nat) : List Char :=
  let digits := Nat.toDigits 10 n
  List.replicate (width - digits.length) '0' ++ digits

/-- Years have at least four digits, and a sign outside of 0 to 9999. -/
def paddedYear (year : Int) : List Char :=
  if year < 0 then '-' :: padded 4 year.natAbs
  else if year ≤ 9999 then padded 4 year.natAbs
  else '+' :: padded 4 year.natAbs

/-- What a percent sign with the given letter stands for; other letters stand for themselves. -/
def part (m : Moment) : Char → List Char
  | 'Y' => paddedYear m.year
  | 'm' => padded 2 m.month
  | 'd' => padded 2 m.day
  | 'H' => padded 2 m.hour
  | 'M' => padded 2 m.minute
  | 'S' => padded 2 m.second
  | letter => [letter]

def fill (m : Moment) : List Char → List Char
  | '%' :: letter :: pattern => m.part letter ++ m.fill pattern
  | c :: pattern => c :: m.fill pattern
  | [] => []

/-- The clock that stands at a moment. -/
def clock (m : Moment) : Clock := ⟨fun pattern => String.ofList (m.fill pattern.toList)⟩

instance : Coe Moment Clock := ⟨clock⟩

end Moment

end TypedQueries
