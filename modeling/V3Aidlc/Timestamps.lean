import V3Aidlc.Doubles

/-!
ISO 8601 timestamps as `datetime.fromisoformat` reads them: a calendar or week
date, any one character, a time of day and an optional offset. A timestamp is
the number of microseconds since the start of year 1 on its own clock, with the
offset of that clock from UTC when one is given.
-/
namespace V3Aidlc.Timestamps
open V3Aidlc.Doubles

/-- Microseconds since 0001-01-01T00:00:00 UTC. -/
abbrev Instant := Int

def microsPerSecond : Int := 1000000
def microsPerDay : Int := 86400 * microsPerSecond

/-! ### Reading digits -/

def digit? (c : Char) : Option Nat :=
  if '0' ≤ c ∧ c ≤ '9' then some (c.toNat - '0'.toNat) else none

/-- Exactly `n` digits, and what follows them. -/
def digits : (n : Nat) → (value : Nat) → List Char → Option (Nat × List Char)
  | 0,value,rest => some (value,rest)
  | _+1,_,[] => none
  | n+1,value,c :: rest => do
    let d ← digit? c
    digits n (10 * value + d) rest

def number (n : Nat) (text : List Char) : Option (Nat × List Char) := digits n 0 text

/-! ### Dates -/

def isLeap (year : Nat) : Bool := year % 4 = 0 ∧ (year % 100 ≠ 0 ∨ year % 400 = 0)

def daysInMonth (year month : Nat) : Nat :=
  if month = 2 then (if isLeap year then 29 else 28)
  else if month = 4 ∨ month = 6 ∨ month = 9 ∨ month = 11 then 30 else 31

def daysBeforeYear (year : Nat) : Nat := 365 * (year - 1) + (year - 1) / 4 - (year - 1) / 100 + (year - 1) / 400

def daysBeforeMonth (year : Nat) : (month : Nat) → Nat
  | 0 => 0
  | 1 => 0
  | m+2 => daysBeforeMonth year (m+1) + daysInMonth year (m+1)

/-- The ordinal of a calendar date; 0001-01-01 is day 1. -/
def ordinal? (year month day : Nat) : Option Nat :=
  if 1 ≤ year ∧ year ≤ 9999 ∧ 1 ≤ month ∧ month ≤ 12 ∧ 1 ≤ day ∧ day ≤ daysInMonth year month then
    some (daysBeforeYear year + daysBeforeMonth year month + day)
  else none

def maxOrdinal : Nat := daysBeforeYear 10000

/-- The Monday of the first ISO week: the week with the year's first Thursday. -/
def isoWeek1Monday (year : Nat) : Int :=
  let first : Int := daysBeforeYear year + 1
  let weekday := (first + 6) % 7
  if weekday > 3 then first - weekday + 7 else first - weekday

/-- Years whose first of January is a Thursday, or a Wednesday in a leap year,
    have 53 weeks. -/
def weeksInYear (year : Nat) : Nat :=
  let weekday := (daysBeforeYear year + 1 + 6) % 7
  if weekday = 3 ∨ (weekday = 2 ∧ isLeap year) then 53 else 52

def weekOrdinal? (year week day : Nat) : Option Nat :=
  if 1 ≤ year ∧ year ≤ 9999 ∧ 1 ≤ week ∧ week ≤ weeksInYear year ∧ 1 ≤ day ∧ day ≤ 7 then
    let ordinal := isoWeek1Monday year + ((week : Int) - 1) * 7 + ((day : Int) - 1)
    if 1 ≤ ordinal ∧ ordinal ≤ maxOrdinal then some ordinal.toNat else none
  else none

/-- A date text, read to its end: `YYYY-MM-DD`, `YYYYMMDD`, `YYYY-Www[-D]` or
    `YYYYWww[D]`. -/
def date? (text : List Char) : Option Nat := do
  let (year,rest) ← number 4 text
  let separated := rest.head? = some '-'
  let rest := if separated then rest.drop 1 else rest
  if rest.head? = some 'W' then
    let (week,rest) ← number 2 (rest.drop 1)
    if rest.isEmpty then weekOrdinal? year week 1
    else
      let rest ← if separated then (if rest.head? = some '-' then some (rest.drop 1) else none) else some rest
      let (day,rest) ← number 1 rest
      if rest.isEmpty then weekOrdinal? year week day else none
  else
    let (month,rest) ← number 2 rest
    let rest ← if separated then (if rest.head? = some '-' then some (rest.drop 1) else none) else some rest
    let (day,rest) ← number 2 rest
    if rest.isEmpty then ordinal? year month day else none

/-- Where the date ends: the index of the character between date and time. -/
def separatorLocation (text : List Char) : Nat :=
  let digitsFrom (n : Nat) := ((text.drop n).takeWhile (fun c => (digit? c).isSome)).length
  if text.length = 7 then 7
  else if text[4]? = some '-' then
    if text[5]? = some 'W' then
      if text[8]? = some '-' then
        if text.length > 10 ∧ ((text[10]?).bind digit?).isSome then 8 else 10
      else 8
    else 10
  else if text[4]? = some 'W' then
    let index := 7 + digitsFrom 7
    if index < 9 then index else if index % 2 = 0 then 7 else 8
  else 8

/-! ### Times -/

/-- The first six digits of a fraction as microseconds; more are dropped. -/
def fraction? (text : List Char) : Option Nat := do
  if text.isEmpty ∨ ¬ text.all (fun c => (digit? c).isSome) then none
  else
    let kept := (text ++ List.replicate 6 '0').take 6
    let (micros,_) ← number 6 kept
    some micros

/-- Hours, minutes, seconds and microseconds: `HH[:MM[:SS[.f]]]` or
    `HH[MM[SS[.f]]]`, read to the end. -/
def clock? (text : List Char) : Option (Nat × Nat × Nat × Nat) := do
  let (hour,rest) ← number 2 text
  if rest.isEmpty then some (hour,0,0,0)
  else
    let separated := rest.head? = some ':'
    let (minute,rest) ← number 2 (if separated then rest.drop 1 else rest)
    if rest.isEmpty then some (hour,minute,0,0)
    else
      let rest ← if separated then (if rest.head? = some ':' then some (rest.drop 1) else none) else some rest
      let (second,rest) ← number 2 rest
      match rest with
      | [] => some (hour,minute,second,0)
      | '.' :: rest => do let micros ← fraction? rest; some (hour,minute,second,micros)
      | ',' :: rest => do let micros ← fraction? rest; some (hour,minute,second,micros)
      | _ => none

def clockMicros (clock : Nat × Nat × Nat × Nat) : Int :=
  ((clock.1 * 3600 + clock.2.1 * 60 + clock.2.2.1 : Nat) : Int) * microsPerSecond + clock.2.2.2

/-- A time of day with its offset; an offset is shorter than a day. -/
def time? (text : List Char) : Option (Int × Option Int) := do
  let clockText := text.takeWhile (fun c => c ≠ '+' ∧ c ≠ '-' ∧ c ≠ 'Z')
  let zone := text.drop clockText.length
  let clock ← clock? clockText
  if ¬ (clock.1 < 24 ∧ clock.2.1 < 60 ∧ clock.2.2.1 < 60) then none
  else
    match zone with
    | [] => some (clockMicros clock,none)
    | ['Z'] => some (clockMicros clock,some 0)
    | sign :: offsetText =>
      if sign = 'Z' then none
      else do
        let offset ← clock? offsetText
        let size := clockMicros offset
        if size < microsPerDay then some (clockMicros clock,some (if sign = '-' then -size else size)) else none

/-- `datetime.fromisoformat`: the wall clock and, when given, its offset. -/
def fromisoformat (text : List Char) : Option (Instant × Option Int) := do
  if text.length < 7 then none
  else
    let split := separatorLocation text
    let ordinal ← date? (text.take split)
    let midnight : Int := ((ordinal : Int) - 1) * microsPerDay
    if text.length ≤ split + 1 then some (midnight,none)
    else
      let (clock,offset) ← time? (text.drop (split + 1))
      some (midnight + clock,offset)

/-- The instants that a `datetime` in UTC can be. -/
def inRange (t : Instant) : Bool := 0 ≤ t ∧ t < maxOrdinal * microsPerDay

/-- `(later - earlier).total_seconds()`: a double. -/
def total_seconds (span : Int) : ℚ := roundDouble ((span : ℚ) / 1000000)

theorem total_seconds_neg_iff {span : Int} : total_seconds span < 0 ↔ span < 0 := by
  unfold total_seconds
  rw [roundDouble_neg_iff,div_lt_iff₀ (by norm_num)]
  simp

/-- Up to 2^33 seconds, some 272 years, a bound on the seconds of a span is a
    bound on its microseconds. -/
theorem total_seconds_le_iff {span : Int} {n : Int} (nonneg : 0 ≤ span) (bound : span < 2 ^ 33 * microsPerSecond) :
    total_seconds span ≤ n ↔ span ≤ n * microsPerSecond :=
  roundDouble_le_iff nonneg bound

end V3Aidlc.Timestamps
