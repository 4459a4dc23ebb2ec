import Retarget.Toml.Text

/-!
# Numbers and dates of TOML

Which characters are numbers, and which are dates and times. Their values do not matter to anyone here, except that
they must not be too large.
-/

namespace Retarget.Toml

/-- Digits of a kind, with single underscores between them. -/
def readDigits (isDigit : Char → Bool) : Reader (List Char)
  | '_' :: _ => none
  | [] => none
  | c :: rest =>
    if isDigit c then
      let rec go : List Char → List Char × List Char
        | '_' :: d :: rest => if isDigit d then let (ds, r) := go rest; (d :: ds, r) else ([], '_' :: d :: rest)
        | d :: rest => if isDigit d then let (ds, r) := go rest; (d :: ds, r) else ([], d :: rest)
        | [] => ([], [])
      let (ds, r) := go rest
      some (c :: ds, r)
    else none

/-- The value of digits in a base. -/
def valueOf (base : Nat) (digits : List Char) : Nat :=
  digits.foldl (fun acc c => base * acc + (hexValue? c).getD 0) 0

/-- A sign, if there is one. Is the number negative? -/
def readSign : List Char → Bool × List Char
  | '-' :: rest => (true, rest)
  | '+' :: rest => (false, rest)
  | cs => (false, cs)

/-- Decimal digits without a needless zero in front. -/
def readDecimal (cs : List Char) : Option (List Char × List Char) :=
  match cs with
  | '0' :: rest => some (['0'], rest)
  | cs => readDigits Char.isDigit cs

/-- A number in another base, after its mark; it must fit into 63 bits. -/
def readBased (base : Nat) (isDigit : Char → Bool) (cs : List Char) : Option (List Char) := do
  let (digits, rest) ← readDigits isDigit cs
  if valueOf base digits < Nat.pow 2 63 then some rest else none

/-- The characters after an integer, which must fit into 64 bits. -/
def afterInteger? (cs : List Char) : Option (List Char) :=
  match cs with
  | '0' :: 'x' :: rest => readBased 16 (fun c => (hexValue? c).isSome) rest
  | '0' :: 'o' :: rest => readBased 8 (fun c => '0' ≤ c && c ≤ '7') rest
  | '0' :: 'b' :: rest => readBased 2 (fun c => c == '0' || c == '1') rest
  | cs => do
    let (negative, cs) := readSign cs
    let (digits, rest) ← readDecimal cs
    let n := valueOf 10 digits
    if n < Nat.pow 2 63 || (negative && n == Nat.pow 2 63) then some rest else none

/-- The power of ten of a floating point number, if one is written. -/
def readExponent (cs : List Char) : Option (Int × List Char) :=
  match cs with
  | c :: rest =>
    if c == 'e' || c == 'E' then do
      let (negative, rest) := readSign rest
      let (digits, rest) ← readDigits Char.isDigit rest
      let n : Int := valueOf 10 digits
      some (if negative then -n else n, rest)
    else some (0, cs)
  | [] => some (0, [])

/-- Half a unit beyond the largest finite number of double precision: from here on numbers are infinite. -/
def infinityBound : Nat := Nat.pow 2 1024 - Nat.pow 2 970

/-- Is a number with the given decimal digits and power of ten too large for double precision? -/
def isInfinite (digits : List Char) (exponent : Int) : Bool :=
  let digits := digits.dropWhile (· == '0')
  let magnitude := (digits.length : Int) + exponent
  if digits.isEmpty || magnitude < 309 then false
  else if 309 < magnitude then true
  else if 0 ≤ exponent then infinityBound ≤ valueOf 10 digits * Nat.pow 10 exponent.toNat
  else infinityBound * Nat.pow 10 (-exponent).toNat ≤ valueOf 10 digits

/-- The characters after a floating point number. It has a fraction or an exponent, and is not infinite unless that is
what is written. -/
def afterFloat? (cs : List Char) : Option (List Char) := do
  let (negative, cs) := readSign cs
  match cs with
  | 'i' :: 'n' :: 'f' :: rest => some rest
  | 'n' :: 'a' :: 'n' :: rest => some rest
  | cs => do
    let (whole, rest) ← readDecimal cs
    let (fraction, rest) ← match rest with
      | '.' :: rest => readDigits Char.isDigit rest
      | 'e' :: _ => some ([], rest)
      | 'E' :: _ => some ([], rest)
      | _ => none
    let (exponent, rest) ← readExponent rest
    if !negative && isInfinite (whole ++ fraction) (exponent - fraction.length) then none else some rest

/-! ## Dates and times -/

/-- A number of so many digits. -/
def readFixed (count : Nat) : Reader Nat := fun cs =>
  let digits := cs.take count
  if digits.length == count && digits.all Char.isDigit then some (valueOf 10 digits, cs.drop count) else none

/-- A number of two digits in a range. -/
def readPair (lo hi : Nat) : Reader Nat := fun cs => do
  let (n, rest) ← readFixed 2 cs
  if lo ≤ n && n ≤ hi then some (n, rest) else none

/-- The characters after the one that has to come. -/
def after? (c : Char) : List Char → Option (List Char)
  | d :: rest => if c == d then some rest else none
  | [] => none

def isLeapYear (year : Nat) : Bool := year % 4 == 0 && (year % 100 != 0 || year % 400 == 0)

def daysIn (year month : Nat) : Nat :=
  if month == 2 then if isLeapYear year then 29 else 28
  else if [4, 6, 9, 11].contains month then 30
  else 31

/-- The characters after a date. -/
def afterDate? (cs : List Char) : Option (List Char) := do
  let (year, rest) ← readFixed 4 cs
  let (month, rest) ← readPair 1 12 (← after? '-' rest)
  let (_, rest) ← readPair 1 (daysIn year month) (← after? '-' rest)
  some rest

/-- The characters after a time of day. A minute may have a leap second. -/
def afterTime? (cs : List Char) : Option (List Char) := do
  let (_, rest) ← readPair 0 23 cs
  let (_, rest) ← readPair 0 59 (← after? ':' rest)
  let (_, rest) ← readPair 0 60 (← after? ':' rest)
  match rest with
  | '.' :: d :: more => if d.isDigit then some (more.dropWhile Char.isDigit) else none
  | '.' :: [] => none
  | rest => some rest

/-- The characters after an offset from universal time; there may be none. -/
def afterOffset? (cs : List Char) : Option (List Char) :=
  match cs with
  | 'Z' :: rest => some rest
  | 'z' :: rest => some rest
  | c :: rest =>
    if c == '+' || c == '-' then do
      let (_, rest) ← readPair 0 23 rest
      let (_, rest) ← readPair 0 59 (← after? ':' rest)
      some rest
    else some cs
  | [] => some []

/-- The characters after a date, a time of day, or both. -/
def afterMoment? (cs : List Char) : Option (List Char) :=
  match afterDate? cs with
  | none => afterTime? cs
  | some rest =>
    match rest with
    | c :: more =>
      if c == 'T' || c == 't' || c == ' ' then
        match afterTime? more with
        | some rest => afterOffset? rest
        | none => some rest
      else some rest
    | [] => some []

end Retarget.Toml
