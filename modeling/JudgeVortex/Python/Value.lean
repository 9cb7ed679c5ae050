import JudgeVortex.Python.Text
import Mathlib.Tactic.IntervalCases

/-!
# Python values that come from JSON

A request body, a stored JSON column and a Kafka message are JSON values.  What
Python does with one when it is tested, converted to `int` or to `str` is a
function of the value; `PythonRuntime` holds the two conversions that only the
interpreter's own tables decide.
-/

namespace JudgeVortex.Python

open JudgeVortex.Foundation

def numeralSymbols : List Char := "0123456789.e+-".toList

/-- A finite float, as far as `str`, `int` and a truth test see it. -/
structure FiniteFloat where
  text : String
  truncated : Int
  isZero : Bool
  numeral : ∀ c ∈ text.toList, c ∈ numeralSymbols
  deriving DecidableEq, Repr

inductive PyFloat where
  | finite (x : FiniteFloat)
  | infinite (negative : Bool)
  | nan
  deriving DecidableEq, Repr

inductive PyError where
  | typeError
  | valueError
  | overflowError
  | attributeError
  deriving DecidableEq, Repr

theorem bind_eq_ok_iff {ε α β : Type} {x : Except ε α} {f : α → Except ε β} {b : β} :
    (x >>= f) = .ok b ↔ ∃ a, x = .ok a ∧ f a = .ok b := by
  cases x with
  | error error => simp [bind, Except.bind]
  | ok a => simp [bind, Except.bind]

inductive Json where
  | null
  | bool (b : Bool)
  | int (n : Int)
  | float (x : PyFloat)
  | str (s : String)
  | arr (items : List Json)
  | obj (fields : List (String × Json))

instance Json.decidableEqStr (value : Json) (s : String) : Decidable (value = .str s) :=
  match value with
  | .str t => decidable_of_iff (t = s) (by rw [Json.str.injEq])
  | .null | .bool _ | .int _ | .float _ | .arr _ | .obj _ => isFalse (by simp)

/-- A JSON object; of two entries for one key the later counts. -/
abbrev Dict := List (String × Json)

def field? (d : Dict) (key : String) : Option Json :=
  (d.reverse.find? fun entry => entry.1 == key).map Prod.snd

def fieldD (d : Dict) (key : String) (default : Json) : Json :=
  (field? d key).getD default

theorem field?_append (d e : Dict) (key : String) :
    field? (d ++ e) key = (field? e key).or (field? d key) := by
  simp only [field?, List.reverse_append, List.find?_append]
  cases e.reverse.find? fun entry => entry.1 == key <;> simp

theorem field?_append_of_not_mem {d e : Dict} {key : String} (h : key ∉ e.map Prod.fst) :
    field? (d ++ e) key = field? d key := by
  have hnone : field? e key = none := by
    simp only [field?, Option.map_eq_none_iff, List.find?_eq_none, List.mem_reverse]
    intro entry hentry heq
    exact h (List.mem_map.mpr ⟨entry, hentry, by simpa using heq⟩)
  rw [field?_append, hnone, Option.none_or]

def setItem {α : Type} (d : List (String × α)) (key : String) (value : α) :
    List (String × α) :=
  if key ∈ d.map Prod.fst then
    d.map fun entry => if entry.1 = key then (key, value) else entry
  else d ++ [(key, value)]

inductive LoadsError where
  | decode (text : String)
  | other
  deriving DecidableEq, Repr

/-- What the interpreter's tables decide. -/
class PythonRuntime where
  reprStr : String → String
  loads : String → Except LoadsError Json

abbrev plainRuntime : PythonRuntime where
  reprStr s := "'" ++ s ++ "'"
  loads _ := .error (.decode "Expecting value: line 1 column 1 (char 0)")

/-! ## Truth and text -/

def PyFloat.truthy : PyFloat → Bool
  | .finite x => !x.isZero
  | .infinite _ | .nan => true

def PyFloat.text : PyFloat → String
  | .finite x => x.text
  | .infinite negative => if negative then "-inf" else "inf"
  | .nan => "nan"

def Json.truthy : Json → Bool
  | .null => false
  | .bool b => b
  | .int n => n ≠ 0
  | .float x => x.truthy
  | .str s => s ≠ ""
  | .arr items => !items.isEmpty
  | .obj fields => !fields.isEmpty

def Json.orElse (a b : Json) : Json := if a.truthy then a else b

def reprHeads : List Char := "NTF[\x7bin".toList ++ numeralSymbols

private theorem head_int_repr (n : Int) : ∀ c ∈ (toString n).toList.head?, c ∈ reprHeads := by
  intro c hc
  have hdigit : ∀ m : Nat, c ∈ (Nat.repr m).toList → c ∈ reprHeads := by
    intro m hm
    rw [Nat.toList_repr] at hm
    have h : c.isDigit = true := Nat.isDigit_of_mem_toDigits (by decide) (by decide) hm
    rw [Char.isDigit_iff_toNat] at h
    have hval : c.toNat - 48 < 10 ∧ 48 ≤ c.toNat := by
      simp only [Char.reduceToNat] at h
      omega
    have hc : c = Char.ofNat (48 + (c.toNat - 48)) := by
      rw [Nat.add_sub_cancel' hval.2, Char.ofNat_toNat]
    rw [hc]
    obtain ⟨hlt, -⟩ := hval
    generalize c.toNat - 48 = d at hlt
    interval_cases d <;> decide
  cases n with
  | ofNat m => exact hdigit m (List.mem_of_mem_head? hc)
  | negSucc m =>
      have : c = '-' := by
        change c ∈ ("-" ++ Nat.repr (m + 1)).toList.head? at hc
        simpa [eq_comm] using hc
      rw [this]
      decide

section Text

variable [PythonRuntime]

mutual

def Json.repr : Json → String
  | .null => "None"
  | .bool b => if b then "True" else "False"
  | .int n => toString n
  | .float x => x.text
  | .str s => PythonRuntime.reprStr s
  | .arr items => "[" ++ Json.reprItems items ++ "]"
  | .obj fields => "\x7b" ++ Json.reprFields fields ++ "\x7d"

def Json.reprItems : List Json → String
  | [] => ""
  | [item] => item.repr
  | item :: next :: rest => item.repr ++ ", " ++ Json.reprItems (next :: rest)

def Json.reprFields : List (String × Json) → String
  | [] => ""
  | [(key, value)] => PythonRuntime.reprStr key ++ ": " ++ value.repr
  | (key, value) :: next :: rest =>
      PythonRuntime.reprStr key ++ ": " ++ value.repr ++ ", " ++
        Json.reprFields (next :: rest)

end

def Json.toText : Json → String
  | .str s => s
  | value => value.repr

def Json.textOrEmpty (value : Json) : String :=
  if value.truthy then value.toText else ""

@[simp] theorem toText_str (s : String) : (Json.str s).toText = s := rfl

/-- A text that starts like no other value is the text of a string only. -/
theorem toText_eq_iff {word : String} {c : Char} (hword : word.toList.head? = some c)
    (hc : c ∉ reprHeads) (value : Json) : value.toText = word ↔ value = .str word := by
  constructor
  · intro h
    have hhead : value.toText.toList.head? = some c := by rw [h, hword]
    cases value with
    | str s => rw [← h]; rfl
    | null =>
        have : c = 'N' := by simpa [Json.toText, Json.repr, eq_comm] using hhead
        exact absurd (by rw [this]; decide) hc
    | bool b =>
        have : c = 'T' ∨ c = 'F' := by
          cases b
          · exact .inr (by simpa [Json.toText, Json.repr, PyFloat.text, eq_comm] using hhead)
          · exact .inl (by simpa [Json.toText, Json.repr, PyFloat.text, eq_comm] using hhead)
        rcases this with rfl | rfl <;> exact absurd (by decide) hc
    | int n => exact absurd (head_int_repr n c hhead) hc
    | float x =>
        cases x with
        | finite x =>
            have hmem := x.numeral c (List.mem_of_mem_head? hhead)
            exact absurd (List.mem_append_right _ hmem) hc
        | infinite negative =>
            have : c = '-' ∨ c = 'i' := by
              cases negative
              · exact .inr (by simpa [Json.toText, Json.repr, PyFloat.text, eq_comm] using hhead)
              · exact .inl (by simpa [Json.toText, Json.repr, PyFloat.text, eq_comm] using hhead)
            rcases this with rfl | rfl <;> exact absurd (by decide) hc
        | nan =>
            have : c = 'n' := by
              simpa [Json.toText, Json.repr, PyFloat.text, eq_comm] using hhead
            exact absurd (by rw [this]; decide) hc
    | arr items =>
        have : c = '[' := by
          simpa [Json.toText, Json.repr, eq_comm] using hhead
        exact absurd (by rw [this]; decide) hc
    | obj fields =>
        have : c = '\x7b' := by
          simpa [Json.toText, Json.repr, eq_comm] using hhead
        exact absurd (by rw [this]; decide) hc
  · rintro rfl
    rfl

end Text

/-! ## Integers -/

/-- The zeros of the decimal digits, each followed by the other nine. -/
def decimalZeros : List Nat :=
  [0x30, 0x660, 0x6F0, 0x7C0, 0x966, 0x9E6, 0xA66, 0xAE6, 0xB66, 0xBE6, 0xC66, 0xCE6,
    0xD66, 0xDE6, 0xE50, 0xED0, 0xF20, 0x1040, 0x1090, 0x17E0, 0x1810, 0x1946, 0x19D0,
    0x1A80, 0x1A90, 0x1B50, 0x1BB0, 0x1C40, 0x1C50, 0xA620, 0xA8D0, 0xA900, 0xA9D0,
    0xA9F0, 0xAA50, 0xABF0, 0xFF10, 0x104A0, 0x10D30, 0x11066, 0x110F0, 0x11136,
    0x111D0, 0x112F0, 0x11450, 0x114D0, 0x11650, 0x116C0, 0x11730, 0x118E0, 0x11950,
    0x11C50, 0x11D50, 0x11DA0, 0x16A60, 0x16AC0, 0x16B50, 0x1D7CE, 0x1D7D8, 0x1D7E2,
    0x1D7EC, 0x1D7F6, 0x1E140, 0x1E2F0, 0x1E950, 0x1FBF0]

def digitValue (c : Char) : Option Nat :=
  decimalZeros.findSome? fun z =>
    if z ≤ c.toNat ∧ c.toNat < z + 10 then some (c.toNat - z) else none

def readDigits (value : Nat) : List Char → Option Nat
  | [] => some value
  | '_' :: c :: rest =>
      match digitValue c with
      | some d => readDigits (value * 10 + d) rest
      | none => none
  | c :: rest =>
      match digitValue c with
      | some d => readDigits (value * 10 + d) rest
      | none => none

/-- The number of digits from which `int` refuses a text. -/
def intDigitLimit : Nat := 4300

def parseUnsigned (text : List Char) : Option Nat :=
  match text with
  | [] => none
  | c :: rest =>
      match digitValue c with
      | none => none
      | some d =>
          if (text.filter fun c => (digitValue c).isSome).length ≤ intDigitLimit then
            readDigits d rest
          else none

/-- The symbols that `int` and `float` strip; they keep the ASCII separators. -/
def isNumberSpace (c : Char) : Bool := isSpace c && !(0x1C ≤ c.toNat && c.toNat ≤ 0x1F)

def parseInt (s : String) : Option Int :=
  match trim isNumberSpace s.toList with
  | '-' :: rest => (parseUnsigned rest).map fun n => -(n : Int)
  | '+' :: rest => (parseUnsigned rest).map Int.ofNat
  | text => (parseUnsigned text).map Int.ofNat

def Json.toInt : Json → Except PyError Int
  | .null | .arr _ | .obj _ => .error .typeError
  | .bool b => .ok (if b then 1 else 0)
  | .int n => .ok n
  | .float (.finite x) => .ok x.truncated
  | .float (.infinite _) => .error .overflowError
  | .float .nan => .error .valueError
  | .str s =>
      match parseInt s with
      | some n => .ok n
      | none => .error .valueError

@[simp] theorem toInt_int (n : Int) : (Json.int n).toInt = .ok n := rfl

def Json.IntLike : Json → Prop
  | .null | .arr _ | .obj _ => False
  | .bool _ | .int _ => True
  | .float x => ∃ y, x = .finite y
  | .str s => parseInt s ≠ none

theorem toInt_isOk_iff (value : Json) : (∃ n, value.toInt = .ok n) ↔ value.IntLike := by
  cases value with
  | null | arr | obj => simp [Json.toInt, Json.IntLike]
  | bool | int => simp [Json.toInt, Json.IntLike]
  | float x => cases x <;> simp [Json.toInt, Json.IntLike]
  | str s => cases h : parseInt s <;> simp [Json.toInt, Json.IntLike, h]

/-! ## Division -/

/-- From here on the quotient of an integer by 1000 is rounded to no float. -/
def thousandthLimit : Nat := 1000 * (2 ^ 1024 - 2 ^ 970)

/-- `value / 1000`, as far as it raises. -/
def Json.checkThousandth : Json → Except PyError Unit
  | .bool _ | .float _ => .ok ()
  | .int n => if n.natAbs < thousandthLimit then .ok () else .error .overflowError
  | .null | .str _ | .arr _ | .obj _ => .error .typeError

def Json.HasThousandth : Json → Prop
  | .bool _ | .float _ => True
  | .int n => n.natAbs < thousandthLimit
  | .null | .str _ | .arr _ | .obj _ => False

theorem checkThousandth_isOk_iff (value : Json) :
    value.checkThousandth = .ok () ↔ value.HasThousandth := by
  cases value <;> simp [Json.checkThousandth, Json.HasThousandth]

example : (Json.str " -1_0 ").toInt = .ok (-10) ∧
    (Json.str "1__0").toInt = .error .valueError ∧
    (Json.str "\x1f5").toInt = .error .valueError := by decide

end JudgeVortex.Python
