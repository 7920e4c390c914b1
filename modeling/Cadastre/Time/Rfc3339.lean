import Cadastre.Machine.Basic

/-!
Moments as text: date and time of day in universal time. The calendar counts years from March on,
so that a leap day ends its year.
-/

namespace Cadastre.Moment

structure Date where
  year : Int
  month : Nat
  day : Nat
  deriving DecidableEq, Repr

/-- Days from 0000-03-01 to 1970-01-01. -/
def epochDays : Int := 719468

/-- Days in four hundred years. -/
def eraDays : Int := 146097

def date (days : Int) : Date :=
  let shifted := days + epochDays
  let era := shifted.fdiv eraDays
  let dayOfEra := (shifted.fmod eraDays).toNat
  let yearOfEra := (dayOfEra - dayOfEra / 1460 + dayOfEra / 36524 - dayOfEra / 146096) / 365
  let dayOfYear := dayOfEra - (365 * yearOfEra + yearOfEra / 4 - yearOfEra / 100)
  let fromMarch := (5 * dayOfYear + 2) / 153
  let month := if fromMarch < 10 then fromMarch + 3 else fromMarch - 9
  ⟨yearOfEra + era * 400 + (if month ≤ 2 then 1 else 0), month,
    dayOfYear - (153 * fromMarch + 2) / 5 + 1⟩

/-- A number with zeros in front, at least `width` digits. -/
def padded (width n : Nat) : String :=
  let digits := toString n
  .ofList (List.replicate (width - digits.length) '0') ++ digits

/-- A fraction of a second with a point in front, without trailing zeros; nothing for none. -/
def fraction (nanoseconds : Nat) : String :=
  if nanoseconds = 0 then ""
  else
    let digits := (padded 9 nanoseconds).toList
    "." ++ .ofList (digits.reverse.dropWhile (· = '0')).reverse

def rfc3339 (moment : Moment) : String :=
  let day := date (moment.seconds.fdiv 86400)
  let second := (moment.seconds.fmod 86400).toNat
  let clock := padded 2 (second / 3600) ++ ":" ++ padded 2 (second / 60 % 60) ++ ":"
    ++ padded 2 (second % 60)
  padded 4 day.year.toNat ++ "-" ++ padded 2 day.month ++ "-" ++ padded 2 day.day ++ "T" ++ clock
    ++ fraction moment.nanoseconds ++ "Z"

example : (⟨4102444800, 0⟩ : Moment).rfc3339 = "2100-01-01T00:00:00Z" := by decide +kernel

end Cadastre.Moment
