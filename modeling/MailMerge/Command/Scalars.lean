import MailMerge.Number.Layout

/-!
# `MailMerge.Command.Scalars`: a file of property values

Values are read from one JSON object whose members are texts, numbers, `true` or `false`. Texts are
decoded and numbers printed again: integers of 64 bits as they are, all others as double-precision
numbers. The digits of such a number are read into 64 bits, those that no longer fit count as zeros,
and the result is scaled by powers of ten, each step rounded.
-/

set_option autoImplicit false

namespace MailMerge.Scalars

open MailMerge.Number

/-! ### White space and literal words -/

/-- White space between tokens. -/
def isSpace (c : Char) : Bool := c == ' ' || c == '\t' || c == '\n' || c == '\r'

/-- Skips white space. -/
def skip (cs : List Char) : List Char := cs.dropWhile isSpace

/-! ### Texts -/

/-- The value of a hexadecimal digit. -/
def hexValue? (c : Char) : Option Nat :=
  if c.isDigit then some (c.toNat - '0'.toNat)
  else if 'a' ≤ c ∧ c ≤ 'f' then some (c.toNat - 'a'.toNat + 10)
  else if 'A' ≤ c ∧ c ≤ 'F' then some (c.toNat - 'A'.toNat + 10)
  else none

/-- The number of four hexadecimal digits and what follows. -/
def readHex? : List Char → Option (Nat × List Char)
  | a :: b :: c :: d :: rest => do
    let a ← hexValue? a
    let b ← hexValue? b
    let c ← hexValue? c
    let d ← hexValue? d
    return (((a * 16 + b) * 16 + c) * 16 + d, rest)
  | _ => none

/-- The character that follows `\u` in one or two units, and what follows. A surrogate must be the
first of a pair. -/
def readUnits? (cs : List Char) : Option (Char × List Char) :=
  match readHex? cs with
  | none => none
  | some (high, rest) =>
    if high < 0xD800 ∨ 0xDFFF < high then some (Char.ofNat high, rest)
    else if 0xDC00 ≤ high then none
    else
      match rest with
      | '\\' :: 'u' :: rest =>
        match readHex? rest with
        | none => none
        | some (low, rest) =>
          if 0xDC00 ≤ low ∧ low ≤ 0xDFFF then
            some (Char.ofNat (0x10000 + (high - 0xD800) * 0x400 + (low - 0xDC00)), rest)
          else none
      | _ => none

/-- The character that follows a backslash, and what follows. -/
def readEscape? : List Char → Option (Char × List Char)
  | 'u' :: cs => readUnits? cs
  | '"' :: cs => some ('"', cs)
  | '\\' :: cs => some ('\\', cs)
  | '/' :: cs => some ('/', cs)
  | 'b' :: cs => some ('\x08', cs)
  | 'f' :: cs => some ('\x0c', cs)
  | 'n' :: cs => some ('\n', cs)
  | 'r' :: cs => some ('\r', cs)
  | 't' :: cs => some ('\t', cs)
  | _ => none

/-- A text after its opening quote, with fuel for as many characters as there are. -/
def readTextFuel? : Nat → List Char → Option (List Char × List Char)
  | 0, _ => none
  | _ + 1, [] => none
  | _ + 1, '"' :: rest => some ([], rest)
  | fuel + 1, '\\' :: cs =>
    match readEscape? cs with
    | none => none
    | some (c, rest) =>
      (readTextFuel? fuel rest).map fun (text, rest) => (c :: text, rest)
  | fuel + 1, c :: cs =>
    if c.toNat < 0x20 then none
    else (readTextFuel? fuel cs).map fun (text, rest) => (c :: text, rest)

/-- A text after its opening quote, and what follows. -/
def readText? (cs : List Char) : Option (String × List Char) :=
  (readTextFuel? (cs.length + 1) cs).map fun (text, rest) => (.ofList text, rest)

/-! ### Numbers -/

/-- The least number that does not fit into 64 bits. -/
def wordLimit : Nat := 0x10000000000000000

/-- The greatest number whose negative fits into 64 bits with a sign. -/
def signedLimit : Nat := 0x8000000000000000

/-- The least exponent that is too large to be computed with. -/
def exponentLimit : Nat := 0x80000000

/-- Appends digits to a number as long as it fits into 64 bits; the rest is left. -/
def fill (n : Nat) : List Char → Nat × List Char
  | [] => (n, [])
  | c :: cs =>
    let next := n * 10 + (c.toNat - '0'.toNat)
    if next < wordLimit then fill next cs else (n, c :: cs)

/-- The number nearest to a power of ten. -/
def powerOfTen (n : Nat) : Binary64 := Decimal.toBinary64 ⟨false, 1, n⟩

/-- A number divided by a power of ten, in steps of at most `10 ^ 308`. -/
def divideBy (x : Binary64) (power : Nat) : Binary64 :=
  if power ≤ 308 then x.div (powerOfTen power)
  else if x.isZero then x
  else divideBy (x.div (powerOfTen 308)) (power - 308)
termination_by power

/-- A number of 64 bits scaled by a power of ten, if it does not become infinite. -/
def scale? (n : Nat) (power : Int) : Option Binary64 :=
  let x := Binary64.ofNat n
  if power < 0 then some (divideBy x power.natAbs)
  else if x.isZero then some x
  else if 308 < power then none
  else (some (x.mul (powerOfTen power.toNat))).filter (·.isFinite)

/-- Numbers that are no integers of 64 bits: the fewest digits that read back, around a point for
powers of ten of the leading digit from -5 to 15, with an exponent for all others. -/
def numberLayout : Layout := ⟨.even, some (-5, 15), ".0"⟩

/-- The parts of a number's text. -/
structure Numeral where
  negative : Bool
  whole : List Char
  fraction : List Char
  /-- The sign and digits of the exponent. -/
  exponent : Option (Bool × List Char)

/-- The exponent of a number, if there is one, and what follows. -/
def readExponent? : List Char → Option (Option (Bool × List Char) × List Char)
  | [] => some (none, [])
  | c :: cs =>
    if c = 'e' ∨ c = 'E' then
      let (negative, cs) := takeSign cs
      let (digits, rest) := spanDigits cs
      if digits.isEmpty then none else some (some (negative, digits), rest)
    else some (none, c :: cs)

/-- The fraction of a number, empty if there is none, and what follows. -/
def readFraction? : List Char → Option (List Char × List Char)
  | '.' :: cs =>
    let (digits, rest) := spanDigits cs
    if digits.isEmpty then none else some (digits, rest)
  | cs => some ([], cs)

/-- The parts of the number at the front, and what follows. -/
def readNumeral? (cs : List Char) : Option (Numeral × List Char) := do
  let (negative, cs) :=
    match cs with
    | '-' :: cs => (true, cs)
    | cs => (false, cs)
  let (whole, rest) := spanDigits cs
  if whole.isEmpty || (whole.head? = some '0' && whole.length ≠ 1) then none
  else do
    let (fraction, rest) ← readFraction? rest
    let (exponent, rest) ← readExponent? rest
    return (⟨negative, whole, fraction, exponent⟩, rest)

/-- The double-precision number of a text, if it is in range. -/
def Numeral.toBinary64? (x : Numeral) : Option Binary64 :=
  -- Each digit dropped before the point is a factor of ten, each digit read behind it a divisor.
  let (head, dropped) := fill 0 x.whole
  let (digits, left) := fill head x.fraction
  let places : Int := dropped.length - (x.fraction.length - left.length : Nat)
  let magnitude :=
    match x.exponent with
    | none => scale? digits places
    | some (negative, power) =>
      let power := digitsValue power
      if exponentLimit ≤ power then
        if digits = 0 || negative then some (.zero false) else none
      else scale? digits (if negative then places - power else places + power)
  magnitude.map fun m => if x.negative then m.neg else m

/-- The text that a number stands for, if it is in range. -/
def Numeral.text? (x : Numeral) : Option String :=
  let (n, dropped) := fill 0 x.whole
  let isInteger := dropped.isEmpty && x.fraction.isEmpty && x.exponent.isNone
  -- An integer would lose the sign of `-0`.
  if isInteger && !x.negative then some (toString n)
  else if isInteger && 0 < n && n ≤ signedLimit then some ("-" ++ toString n)
  else x.toBinary64?.map numberLayout.text

/-! ### Objects -/

/-- The value at the front as a text, and what follows. -/
def readValue? : List Char → Option (String × List Char)
  | '"' :: cs => readText? cs
  | 't' :: 'r' :: 'u' :: 'e' :: cs => some ("true", cs)
  | 'f' :: 'a' :: 'l' :: 's' :: 'e' :: cs => some ("false", cs)
  | cs =>
    match readNumeral? cs with
    | none => none
    | some (x, rest) => x.text?.map (·, rest)

/-- The member at the front, and what follows. -/
def readMember? : List Char → Option ((String × String) × List Char)
  | '"' :: cs =>
    match readText? cs with
    | none => none
    | some (name, rest) =>
      match skip rest with
      | ':' :: rest => (readValue? (skip rest)).map fun (value, rest) => ((name, value), rest)
      | _ => none
  | _ => none

/-- Members up to the closing brace, and what follows, with fuel for each of them. -/
def readMembersFuel? : Nat → List Char → Option (List (String × String) × List Char)
  | 0, _ => none
  | fuel + 1, cs =>
    match readMember? cs with
    | none => none
    | some (member, rest) =>
      match skip rest with
      | ',' :: rest =>
        (readMembersFuel? fuel (skip rest)).map fun (members, rest) => (member :: members, rest)
      | '}' :: rest => some ([member], rest)
      | _ => none

/-- The members of the object at the front, and what follows. -/
def readObject? : List Char → Option (List (String × String) × List Char)
  | '{' :: cs =>
    match skip cs with
    | '}' :: rest => some ([], rest)
    | cs => readMembersFuel? (cs.length + 1) cs
  | _ => none

/-- The members of the object that is the whole text, in order. -/
def parse? (text : String) : Option (List (String × String)) :=
  match readObject? (skip text.toList) with
  | some (members, rest) => if (skip rest).isEmpty then some members else none
  | none => none

end MailMerge.Scalars
