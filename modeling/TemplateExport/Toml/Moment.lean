namespace TemplateExport.Toml

def fixedDigits? (count : Nat) (cs : List Char) : Option (Nat × List Char) :=
  let digits := cs.take count
  if digits.length = count ∧ digits.all Char.isDigit then
    some (digits.foldl (fun n c => n * 10 + (c.toNat - '0'.toNat)) 0, cs.drop count)
  else none

def isLeapYear (year : Nat) : Bool :=
  year % 4 == 0 && (year % 100 != 0 || year % 400 == 0)

def daysInMonth (year month : Nat) : Nat :=
  if month = 2 then if isLeapYear year then 29 else 28
  else if month = 4 ∨ month = 6 ∨ month = 9 ∨ month = 11 then 30
  else 31

def expect? (c : Char) : List Char → Option (List Char)
  | d :: rest => if c = d then some rest else none
  | [] => none

def date? (cs : List Char) : Option (List Char) := do
  let (year, cs) ← fixedDigits? 4 cs
  let (month, cs) ← fixedDigits? 2 (← expect? '-' cs)
  let (day, cs) ← fixedDigits? 2 (← expect? '-' cs)
  if 1 ≤ month ∧ month ≤ 12 ∧ 1 ≤ day ∧ day ≤ daysInMonth year month then some cs else none

/-- The fraction of a second, without its last zeros and with at most nine digits. -/
def secondFraction? (cs : List Char) : Option (List Char × List Char) :=
  match cs with
  | '.' :: rest =>
    let digits := rest.takeWhile Char.isDigit
    if digits.isEmpty then none
    else
      let kept := ((digits.take 9).reverse.dropWhile (· == '0')).reverse
      some (if kept.isEmpty then [] else '.' :: kept, rest.dropWhile Char.isDigit)
  | cs => some ([], cs)

/-- A time of day in its usual form, and what is left behind it. Seconds that are left out are
zero. -/
def time? (cs : List Char) : Option (List Char × List Char) := do
  let start := cs
  let (hour, cs) ← fixedDigits? 2 cs
  let (minute, cs) ← fixedDigits? 2 (← expect? ':' cs)
  if 23 < hour ∨ 59 < minute then none
  match cs with
  | ':' :: cs =>
    let (second, cs) ← fixedDigits? 2 cs
    if 60 < second then none
    let (fraction, cs) ← secondFraction? cs
    return (start.take 8 ++ fraction, cs)
  | cs => return (start.take 5 ++ ":00".toList, cs)

/-- The distance from universal time at the end of a text, in its usual form. No distance has the
sign plus. -/
def offset? : List Char → Option (List Char)
  | [] => some []
  | ['z'] | ['Z'] => some ['Z']
  | c :: rest => do
    if c ≠ '+' ∧ c ≠ '-' then none
    let (hour, cs) ← fixedDigits? 2 rest
    let (minute, cs) ← fixedDigits? 2 (← expect? ':' cs)
    if 23 < hour ∨ 59 < minute ∨ !cs.isEmpty then none
    return (if hour = 0 ∧ minute = 0 then '+' else c) :: rest

def moment? (cs : List Char) : Option String := do
  match date? cs with
  | none =>
    match ← time? cs with
    | (time, []) => return String.ofList time
    | _ => none
  | some [] => return String.ofList cs
  | some (mark :: rest) =>
    if mark ≠ 'T' ∧ mark ≠ 't' ∧ mark ≠ ' ' then none
    let (time, rest) ← time? rest
    let offset ← offset? rest
    return String.ofList (cs.take 10 ++ 'T' :: time ++ offset)

end TemplateExport.Toml
