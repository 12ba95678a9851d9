import ScriptStreams.Text.Quoted
import ScriptStreams.Text.Utf8
/-!
# Script values

The values that cross the script boundary. Byte strings, texts and capsules carry a payload
that the runtime's heap accounts for (`payload?`); the others carry none.
-/
namespace ScriptStreams

/-- An opaque, nonzero address tagged with the kind of object behind it. -/
structure Capsule where
  tag : String
  address : Nat
  address_pos : 0 < address

instance : DecidableEq Capsule := fun a b =>
  decidable_of_iff (a.tag = b.tag ∧ a.address = b.address) (by cases a; cases b; simp)

/-- The address, if the capsule carries `tag` (`Capsule::address_if`). -/
def Capsule.addressIf (c : Capsule) (tag : String) : Option Nat :=
  if c.tag = tag then some c.address else none

inductive Value where
  | none
  | bool (b : Bool)
  | int (n : Int)
  | bytes (data : Bytes)
  | text (s : String)
  | capsule (c : Capsule)
  deriving DecidableEq

namespace Value

def isNone : Value → Bool
  | .none => true
  | _ => false

/-- Integer view; a truth value counts as 0 or 1 (`Value::as_int`). -/
def asInt? : Value → Option Int
  | .int n => some n
  | .bool b => some (if b then 1 else 0)
  | _ => Option.none

/-- Truth value of a flag; an integer is true unless it is 0 (`Value::as_bool`). -/
def asBool? : Value → Option Bool
  | .bool b => some b
  | .int n => some (n ≠ 0)
  | _ => Option.none

def asText? : Value → Option String
  | .text s => some s
  | _ => Option.none

def asBytes? : Value → Option Bytes
  | .bytes data => some data
  | _ => Option.none

def asCapsule? : Value → Option Capsule
  | .capsule c => some c
  | _ => Option.none

/-- The script's name for the kind of value (`Value::type_name`). -/
def typeName : Value → String
  | .none => "NoneType"
  | .bool _ => "bool"
  | .int _ => "int"
  | .bytes _ => "bytes"
  | .text _ => "str"
  | .capsule _ => "PyCapsule"

/-- The text a script sees when it shows the value (its `Display`). -/
def display : Value → String
  | .none => "None"
  | .bool true => "True"
  | .bool false => "False"
  | .int n => toString n
  | .bytes data => "<bytes len=" ++ toString data.length ++ ">"
  | .text s => Text.quoted s
  | .capsule c => "<capsule \"" ++ c.tag ++ "\" at " ++ Text.hex c.address ++ ">"

/-- Bytes the heap accounts for, if the value lives there. -/
def payload? : Value → Option Nat
  | .bytes data => some data.length
  | .text s => some s.utf8ByteSize
  | .capsule c => some c.tag.utf8ByteSize
  | _ => Option.none

end Value

/-- What a value is made from: a text comes as bytes, read with replacement. -/
inductive Literal where
  | none
  | bool (b : Bool)
  | int (n : Int)
  | bytes (data : Bytes)
  | text (data : Bytes)
  | capsule (c : Capsule)

end ScriptStreams
