import Mathlib.Data.Nat.Log
import Mathlib.Data.Rat.Floor

/-! JavaScript numbers. A finite number is the rational it stands for; the two zeros
are one, because nothing modelled here tells them apart. -/

namespace NodeRedBull.Js

inductive JsNumber where
  | nan
  | infinity (negative : Bool)
  | finite (value : ℚ)
  deriving DecidableEq

namespace JsNumber

def ofNat (n : Nat) : JsNumber := .finite n

/-- `left < right`: false as soon as one side is NaN. -/
def lt : JsNumber → JsNumber → Bool
  | .nan, _ | _, .nan => false
  | .infinity negative, .infinity other => negative && !other
  | .infinity negative, .finite _ => negative
  | .finite _, .infinity negative => !negative
  | .finite left, .finite right => decide (left < right)

/-- `0 < number` -/
def positive (n : JsNumber) : Bool := (ofNat 0).lt n

def isFinite : JsNumber → Bool
  | .finite _ => true
  | _ => false

def isInteger : JsNumber → Bool
  | .finite value => decide (value.den = 1)
  | _ => false

def isNaN : JsNumber → Bool
  | .nan => true
  | _ => false

def neg : JsNumber → JsNumber
  | .nan => .nan
  | .infinity negative => .infinity (!negative)
  | .finite value => .finite (-value)

def roundHalfEven (value : ℚ) : Int :=
  let below := value.floor
  let rest := value - below
  if rest < 1 / 2 then below
  else if 1 / 2 < rest then below + 1
  else if below % 2 = 0 then below
  else below + 1

/-- The `e` with `base ^ e ≤ value < base ^ (e + 1)`, for a positive value. -/
def exponentOf (base : Nat) (value : ℚ) : Int :=
  if 1 ≤ value then Nat.log base value.floor.toNat
  else -(Nat.clog base value⁻¹.ceil.toNat)

/-- The binary64 number nearest to a rational, ties to even. -/
def roundToDouble (value : ℚ) : JsNumber :=
  if value = 0 then .finite 0
  else
    let ulp : ℚ := (2 : ℚ) ^ (max (exponentOf 2 |value|) (-1022) - 52)
    let rounded := roundHalfEven (|value| / ulp) * ulp
    if (2 : ℚ) ^ (1024 : ℤ) ≤ rounded then .infinity (decide (value < 0))
    else .finite (if value < 0 then -rounded else rounded)

/-- `left + right` -/
def add : JsNumber → JsNumber → JsNumber
  | .nan, _ | _, .nan => .nan
  | .infinity negative, .infinity other => if negative = other then .infinity negative else .nan
  | .infinity negative, .finite _ | .finite _, .infinity negative => .infinity negative
  | .finite left, .finite right => roundToDouble (left + right)

def digitValue (c : Char) : Nat :=
  if c.isDigit then c.toNat - '0'.toNat
  else if 'a' ≤ c ∧ c ≤ 'z' then c.toNat - 'a'.toNat + 10
  else c.toNat - 'A'.toNat + 10

def digitsValue (base : Nat) (digits : List Char) : Nat :=
  digits.foldl (fun total c => total * base + digitValue c) 0

/-- The exponent part of a decimal literal, or none when the text is no exponent part. -/
def parseExponent : List Char → Option Int
  | [] => some 0
  | mark :: rest =>
    if mark = 'e' ∨ mark = 'E' then
      let (negative, digits) := match rest with
        | '-' :: digits => (true, digits)
        | '+' :: digits => (false, digits)
        | digits => (false, digits)
      if digits ≠ [] ∧ digits.all Char.isDigit then
        some (if negative then -(digitsValue 10 digits : Int) else digitsValue 10 digits)
      else none
    else none

def parseUnsignedDecimal (text : List Char) : Option JsNumber :=
  if text = "Infinity".toList then some (.infinity false)
  else
    let whole := text.takeWhile Char.isDigit
    let rest := text.dropWhile Char.isDigit
    let (fraction, tail) := match rest with
      | '.' :: after => (after.takeWhile Char.isDigit, after.dropWhile Char.isDigit)
      | _ => ([], rest)
    if whole = [] ∧ fraction = [] then none
    else (parseExponent tail).map fun (exponent : Int) =>
      roundToDouble (digitsValue 10 (whole ++ fraction) *
        (10 : ℚ) ^ (exponent - (fraction.length : Int)))

def parseRadix (base : Nat) (isDigit : Char → Bool) (digits : List Char) : JsNumber :=
  if digits ≠ [] ∧ digits.all isDigit then roundToDouble (digitsValue base digits) else .nan

def isHexDigit (c : Char) : Bool :=
  c.isDigit || decide ('a' ≤ c ∧ c ≤ 'f') || decide ('A' ≤ c ∧ c ≤ 'F')

/-- WhiteSpace and LineTerminator of the language. -/
def isSpace (c : Char) : Bool :=
  let n := c.toNat
  decide (9 ≤ n ∧ n ≤ 13) || decide (n = 0x20) || decide (n = 0xa0) || decide (n = 0x1680) ||
    decide (0x2000 ≤ n ∧ n ≤ 0x200a) || decide (n = 0x2028) || decide (n = 0x2029) ||
    decide (n = 0x202f) || decide (n = 0x205f) || decide (n = 0x3000) || decide (n = 0xfeff)

/-- `text.trim()` -/
def trim (text : List Char) : List Char :=
  ((text.dropWhile isSpace).reverse.dropWhile isSpace).reverse

/-- `Number(text)` -/
def parse (text : List Char) : JsNumber :=
  match trim text with
  | [] => .finite 0
  | '0' :: 'x' :: digits | '0' :: 'X' :: digits => parseRadix 16 isHexDigit digits
  | '0' :: 'o' :: digits | '0' :: 'O' :: digits =>
    parseRadix 8 (fun c => decide ('0' ≤ c ∧ c ≤ '7')) digits
  | '0' :: 'b' :: digits | '0' :: 'B' :: digits =>
    parseRadix 2 (fun c => decide (c = '0' ∨ c = '1')) digits
  | '-' :: digits => ((parseUnsignedDecimal digits).map neg).getD .nan
  | '+' :: digits => (parseUnsignedDecimal digits).getD .nan
  | digits => (parseUnsignedDecimal digits).getD .nan

/-- The shortest decimal `s * 10 ^ (n - k)` with `k` digits that reads back as the value. -/
def shortestDecimal (value : ℚ) : Nat × Int :=
  let n := exponentOf 10 value + 1
  let candidate (k : Nat) : Nat := (roundHalfEven (value / (10 : ℚ) ^ (n - k))).toNat
  let readsBack (k : Nat) : Bool :=
    decide (roundToDouble (candidate k * (10 : ℚ) ^ (n - k)) = .finite value)
  let k := ((List.range' 1 17).find? readsBack).getD 17
  if candidate k = 10 ^ k then (1, n + 1) else (candidate k, n)

def zeros (count : Int) : List Char := List.replicate count.toNat '0'

def formatPositive (value : ℚ) : List Char :=
  let (s, n) := shortestDecimal value
  let digits := Nat.toDigits 10 s
  let k : Int := digits.length
  if k ≤ n ∧ n ≤ 21 then digits ++ zeros (n - k)
  else if 0 < n ∧ n ≤ 21 then digits.take n.toNat ++ '.' :: digits.drop n.toNat
  else if -6 < n ∧ n ≤ 0 then '0' :: '.' :: zeros (-n) ++ digits
  else
    let exponent := (if n - 1 < 0 then ['-'] else ['+']) ++ Nat.toDigits 10 (n - 1).natAbs
    let mantissa := if k = 1 then digits else digits.take 1 ++ '.' :: digits.drop 1
    mantissa ++ 'e' :: exponent

/-- `String(number)` -/
def toChars : JsNumber → List Char
  | .nan => "NaN".toList
  | .infinity negative => (if negative then "-Infinity" else "Infinity").toList
  | .finite value =>
    if value = 0 then ['0']
    else if value < 0 then '-' :: formatPositive (-value)
    else formatPositive value

end JsNumber

end NodeRedBull.Js
