import ShuleHub.Lib.JsMap
import ShuleHub.Lib.JsText
import ShuleHub.Lib.Json
import Mathlib.Data.Rat.Defs
import Mathlib.Data.Rat.Floor

/-! The columns of type `numeric(precision, scale)`: a value is rounded half away from zero and refused if it then has
too many digits. It is kept as a number of units of its last digit. -/

namespace Numeric

/-- A number of a program: finite, as the decimal that is written for it, or not. -/
inductive Double where
  | finite (value : ℚ)
  | notFinite
deriving DecidableEq

def units (scale : Nat) (value : ℚ) : Int :=
  if 0 ≤ value then ⌊value * 10 ^ scale + 1 / 2⌋ else -⌊-value * 10 ^ scale + 1 / 2⌋

def store (precision scale : Nat) (value : ℚ) : Option Int :=
  if (units scale value).natAbs < 10 ^ precision then some (units scale value) else none

end Numeric

/-! The value that the literal of a number denotes. -/

namespace JsNumber

private def after (mark : Char) (text : List Char) : List Char := (text.dropWhile (· ≠ mark)).drop 1

private def natural (digits : List Char) : Nat := JsText.decimalValue (String.ofList (digits.filter Char.isDigit))

def value (number : JsNumber) : ℚ :=
  let unsigned := number.text.toList.dropWhile (· = '-')
  let mantissa := unsigned.takeWhile (· ≠ 'e')
  let exponent := after 'e' unsigned
  let digits := natural (mantissa.takeWhile (· ≠ '.') ++ after '.' mantissa)
  let power : Int := if '-' ∈ exponent then -natural exponent else natural exponent
  let shift := power - (after '.' mantissa).length
  let magnitude : ℚ := if 0 ≤ shift then digits * 10 ^ shift.toNat else digits / 10 ^ (-shift).toNat
  if '-' ∈ number.text.toList.head? then -magnitude else magnitude

end JsNumber

/-! How a JSON value reads where nothing asks for its kind: its truth, its properties and its text. -/

namespace Json

def truthy : Json → Bool
  | .null => false
  | .bool value => value
  | .num value => value.value ≠ 0
  | .str value => value ≠ ""
  | .arr _ => true
  | .obj _ => true

def property (name : String) : Json → Option Json
  | .obj fields => JsMap.get? fields name
  | _ => none

def truthyProperty (name : String) (value : Json) : Option Json := (value.property name).filter truthy

mutual

@[grind =] def toText : Json → String
  | .null => "null"
  | .bool true => "true"
  | .bool false => "false"
  | .num value => value.text
  | .str value => value
  | .arr items => String.intercalate "," (itemTexts items)
  | .obj _ => "[object Object]"

def itemTexts : List Json → List String
  | [] => []
  | .null :: items => "" :: itemTexts items
  | item :: items => toText item :: itemTexts items

end

@[simp] theorem toText_str (text : String) : toText (.str text) = text := by simp only [toText]

end Json
