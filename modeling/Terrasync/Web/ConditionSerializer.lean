import Mathlib.Data.List.DropRight
import Terrasync.Lib.Substring
import Terrasync.Lib.TextEquality

/-! The condition builder of the web interface: groups of conditions are written as one filter
expression (`serializeConditionGroups`), which is read again when a task is edited
(`deserializeConditionGroups`). -/

set_option autoImplicit false

namespace Terrasync.Web.ConditionBuilder

open Lib (indexOf splitAll)

abbrev Text := List Char

structure Condition where
  field : Text
  operator : Text
  value : Text
deriving DecidableEq, Repr

structure ConditionGroup where
  conditions : List Condition
deriving DecidableEq, Repr

/-! ### Strings -/

/-- What the `trim` of a string removes: white space and line ends. -/
def isBlank (character : Char) : Bool :=
  decide (character.toNat ∈ [0x09, 0x0a, 0x0b, 0x0c, 0x0d, 0x20, 0xa0, 0x1680, 0x2028, 0x2029, 0x202f,
    0x205f, 0x3000, 0xfeff]) || decide (0x2000 ≤ character.toNat ∧ character.toNat ≤ 0x200a)

def trim (text : Text) : Text := (text.dropWhile isBlank).rdropWhile isBlank

def quote (value : Text) : Text := '"' :: value ++ ['"']

/-- A string that both starts and ends with a quote; a single quote does. -/
def isEnclosed (value : Text) : Bool := value.head? == some '"' && value.getLast? == some '"'

def spaced (operator : Text) : Text := ' ' :: operator ++ [' ']

/-! ### Writing -/

def quotedFields : List Text := ["name".toList, "path".toList, "extension".toList, "dir_date".toList]

def unquotedFields : List Text := ["type".toList, "size".toList]

/-- `/^[\d.]+d?$/` -/
def isDays (value : Text) : Bool :=
  let number := if value.getLast? = some 'd' then value.dropLast else value
  decide (number ≠ []) && number.all fun character => character.isDigit || character == '.'

/-- `/^\d+$/` -/
def isInteger (value : Text) : Bool := decide (value ≠ []) && value.all Char.isDigit

def number (digits : Text) : Nat :=
  digits.foldl (fun value digit => 10 * value + (digit.toNat - '0'.toNat)) 0

def isRelative (value : Text) : Bool :=
  isDays value && (!isInteger value || decide (number value < 10000000))

def formattedValue (c : Condition) : Text :=
  if c.field ∈ quotedFields then quote c.value
  else if c.field ∈ unquotedFields then c.value
  else if c.field = "modified".toList then
    if isRelative c.value then c.value else quote c.value
  else c.value

def serializeCondition (c : Condition) : Text := c.field ++ spaced c.operator ++ formattedValue c

def Condition.isComplete (c : Condition) : Bool :=
  decide (c.field ≠ []) && decide (c.operator ≠ []) && decide (c.value ≠ [])

def andBreak : Text := " and ".toList

def serializeConditions (conditions : List Condition) : Text :=
  let valid := conditions.filter Condition.isComplete
  if valid = [] then [] else andBreak.intercalate (valid.map serializeCondition)

def serializeConditionGroups (groups : List ConditionGroup) : Text :=
  let serialized := (groups.map fun g => serializeConditions g.conditions).filter fun s => s ≠ []
  match serialized with
  | [] => []
  | [s] => s
  | serialized => " or ".toList.intercalate (serialized.map fun s => '(' :: s ++ [')'])

/-! ### Reading -/

/-- The operators in the order in which they are looked for. -/
def operators : List Text :=
  ["==".toList, "!=".toList, ">=".toList, "<=".toList, "=~".toList, "!~".toList, ">".toList, "<".toList]

def unquote (value : Text) : Text := if isEnclosed value then value.tail.dropLast else value

/-- One turn of the loop over the operators. -/
def readAt (operator trimmed : Text) : Option Condition :=
  match indexOf (spaced operator) trimmed with
  | none => none
  | some index =>
      let field := trim (trimmed.take index)
      let value := unquote (trim (trimmed.drop (index + operator.length + 2)))
      if field ≠ [] ∧ value ≠ [] then some ⟨field, operator, value⟩ else none

def deserializeCondition (token : Text) : Option Condition :=
  let trimmed := trim token
  if trimmed = [] then none else operators.findSome? fun operator => readAt operator trimmed

def dropOpening (text : Text) : Text := if text.head? = some '(' then text.tail else text

def dropClosing (text : Text) : Text := if text.getLast? = some ')' then text.dropLast else text

def groupBreak : Text := ") or (".toList

def groupStrings (trimmed : Text) : List Text :=
  if groupBreak <:+: trimmed then
    let parts := splitAll groupBreak trimmed
    parts.mapIdx fun index part =>
      let part := if index = 0 then dropOpening part else part
      let part := if index = parts.length - 1 then dropClosing part else part
      trim part
  else [trim (dropClosing (dropOpening trimmed))]

def deserializeConditionGroups (expr : Text) : List ConditionGroup :=
  if trim expr = [] then []
  else
    ((groupStrings (trim expr)).map fun gs =>
      ConditionGroup.mk ((splitAll andBreak gs).filterMap deserializeCondition)).filter
        fun g => g.conditions ≠ []

example : deserializeConditionGroups "(name == \"*.txt\" and size > 100) or (type == dir)".toList =
    [⟨[⟨"name".toList, "==".toList, "*.txt".toList⟩, ⟨"size".toList, ">".toList, "100".toList⟩]⟩,
      ⟨[⟨"type".toList, "==".toList, "dir".toList⟩]⟩] := by
  decide +kernel

end Terrasync.Web.ConditionBuilder
