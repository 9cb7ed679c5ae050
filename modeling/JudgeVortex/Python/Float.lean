import JudgeVortex.Foundation.Rounding
import JudgeVortex.Python.Value
import Mathlib.Data.Rat.Floor

/-!
# Floats

`float` of a text, `int` of a float, and the quotient of two integers.  A Python float is a
binary64 number.
-/

namespace JudgeVortex.Python

open JudgeVortex.Foundation

def isDigit (c : Char) : Bool := (digitValue c).isSome

def dropUnderscores (afterDigit : Bool) : List Char → Option (List Char)
  | [] => some []
  | ['_'] => none
  | '_' :: c :: rest =>
      if afterDigit && isDigit c then (dropUnderscores true rest).map (c :: ·) else none
  | c :: rest => (dropUnderscores (isDigit c) rest).map (c :: ·)

def takeDigits : List Char → List Nat × List Char
  | [] => ([], [])
  | c :: rest =>
      match digitValue c with
      | some d => (d :: (takeDigits rest).1, (takeDigits rest).2)
      | none => ([], c :: rest)

def digitsNat (digits : List Nat) : Nat := digits.foldl (fun n d => 10 * n + d) 0

def takeSign : List Char → Bool × List Char
  | '-' :: rest => (true, rest)
  | '+' :: rest => (false, rest)
  | text => (false, text)

def parseExponent : List Char → Option Int
  | [] => some 0
  | c :: rest =>
      if c = 'e' ∨ c = 'E' then
        let (negative, rest) := takeSign rest
        match takeDigits rest with
        | (d :: digits, []) =>
            let n : Int := digitsNat (d :: digits)
            some (if negative then -n else n)
        | _ => none
      else none

def takeFraction : List Char → List Nat × List Char
  | '.' :: rest => takeDigits rest
  | rest => ([], rest)

def parseDecimal (text : List Char) : Option Float.Model :=
  let (whole, rest) := takeDigits text
  let (fraction, rest) := takeFraction rest
  if whole = [] ∧ fraction = [] then none
  else
    (parseExponent rest).map fun e =>
      .ofScientific (digitsNat (whole ++ fraction)) (e - fraction.length)

def parseFloat (s : String) : Option Float.Model :=
  (dropUnderscores false (trim isNumberSpace s.toList)).bind fun text =>
    let (negative, text) := takeSign text
    let word := String.ofList (text.map lowerChar)
    let value :=
      if word = "inf" ∨ word = "infinity" then some (.pack (.infinity .positive))
      else if word = "nan" then some (.pack .notANumber)
      else parseDecimal text
    value.map fun x => if negative then x.neg else x

@[simp] theorem parseFloat_empty : parseFloat "" = none := by decide

def truncate (x : Float.Model) : Except PyError Int :=
  if x.isInf then .error .overflowError
  else if x.isNaN then .error .valueError
  else .ok (x.unpack.toInt 0 0)

example : (parseFloat " 1_0.5e1 ").map truncate = some (.ok 105) ∧
    (parseFloat "-Infinity").map truncate = some (.error .overflowError) ∧
    parseFloat "1__0" = none := by decide +kernel

theorem truncate_eq_overflowError_iff (x : Float.Model) :
    truncate x = .error .overflowError ↔ x.isInf = true := by
  unfold truncate
  cases x.isInf <;> cases x.isNaN <;> simp

theorem truncate_eq_valueError_iff (x : Float.Model) :
    truncate x = .error .valueError ↔ x.isInf = false ∧ x.isNaN = true := by
  unfold truncate
  cases x.isInf <;> cases x.isNaN <;> simp

theorem truncate_cases (x : Float.Model) :
    truncate x = .error .overflowError ∨ truncate x = .error .valueError ∨
      ∃ n, truncate x = .ok n := by
  unfold truncate
  cases x.isInf <;> cases x.isNaN <;> simp

/-! ## Quotients of integers -/

/-- `math.ceil(a / b)` of positive integers; the quotient is rounded once. -/
def ceilTrueDivide (a b : Int) : Except PyError Int :=
  let quotient : ℚ := nearestFloat 53 (-1074) ((a : ℚ) / b)
  if quotient < 2 ^ 1024 then .ok ⌈quotient⌉ else .error .overflowError

/-- Integers that are floats themselves are divided as if nothing were rounded. -/
theorem ceilTrueDivide_eq {a b : Int} (ha : 0 < a) (hexact : a < 2 ^ 53) (hb : 0 < b)
    (hsmall : b ≤ 2 ^ 53) : ceilTrueDivide a b = .ok ⌈(a : ℚ) / b⌉ := by
  have hdenominator : (b : ℚ) ≤ 2 ^ (-(-1074) : ℤ) := by
    calc (b : ℚ) ≤ 2 ^ 53 := by exact_mod_cast hsmall
      _ ≤ 2 ^ 1074 := pow_le_pow_right₀ (by norm_num) (by norm_num)
  have hceil := ceil_nearestFloat_quotient ha hb hexact (by norm_num) hdenominator
  have hbounded : ((a : ℚ) / b) ≤ a := by
    refine div_le_self (by exact_mod_cast ha.le) ?_
    exact_mod_cast hb
  have hlimit : nearestFloat 53 (-1074) ((a : ℚ) / b) < 2 ^ 1024 := by
    calc nearestFloat 53 (-1074) ((a : ℚ) / b) ≤ a :=
          nearestFloat_le (unitExponent_quotient_nonpos ha hb hexact (by norm_num)) hbounded
      _ < 2 ^ 53 := by exact_mod_cast hexact
      _ ≤ 2 ^ 1024 := pow_le_pow_right₀ (by norm_num) (by norm_num)
  rw [ceilTrueDivide, if_pos hlimit, hceil]

example : ceilTrueDivide 25 12 = .ok 3 ∧ ceilTrueDivide (2 ^ 53 + 1) 1 = .ok (2 ^ 53) := by
  decide +kernel

end JudgeVortex.Python
