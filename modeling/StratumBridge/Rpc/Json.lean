import StratumBridge.Rpc.Types
import Mathlib.Algebra.Group.Int.Defs
import Mathlib.Data.List.Basic

/-!
# JSON values

What a parsed stratum line is looked at for: fields of objects, items of arrays,
and the plain values.  An integer that does not fit is no integer, and neither is
a number with a fraction.
-/

namespace StratumBridge.Rpc

/-- `serde_json::Value`. -/
inductive Value
  | null
  | bool (value : Bool)
  | integer (value : Int)
  | float (text : String)
  | string (text : String)
  | array (items : List Value)
  | object (fields : List (String × Value))

namespace Value

/-- `get` with a key. -/
def get (key : String) : Value → Option Value
  | object fields => fields.lookup key
  | _ => none

/-- `get` with an index. -/
def item (index : Nat) : Value → Option Value
  | array items => items[index]?
  | _ => none

def asBool : Value → Option Bool
  | bool value => some value
  | _ => none

def asStr : Value → Option String
  | string text => some text
  | _ => none

def asArray : Value → Option (List Value)
  | array items => some items
  | _ => none

def asI64 : Value → Option Int
  | integer value => if -2 ^ 63 ≤ value ∧ value < 2 ^ 63 then some value else none
  | _ => none

def asU64 : Value → Option Nat
  | integer value => if 0 ≤ value ∧ value < 2 ^ 64 then some value.toNat else none
  | _ => none

/-- An integer is read from one value only. -/
theorem eq_integer_of_asI64 {value : Value} {number : Int} (read : value.asI64 = some number) :
    value = integer number := by
  cases value with
  | integer held =>
      rw [asI64] at read
      split at read
      · cases read
        rfl
      · cases read
  | _ => cases read

end Value

/-- The code and the text of an error.  `dbText` is what a database error says. -/
def stratumCode (dbText : String) : AppError → Int × String
  | .unauthorized => (24, "unauthorized")
  | .unknownRequest => (20, "unknown or already-resolved request_id")
  | .notAssignedToCaller => (25, "request_id was not assigned to this connection")
  | .rejected reason => (20, reason)
  | .rpc reason => (20, reason)
  | .db => (20, dbText)

/-- `to_stratum_error`. -/
def toStratumError (dbText : String) (error : AppError) : Value :=
  .array [.integer (stratumCode dbText error).1, .string (stratumCode dbText error).2, .null]

end StratumBridge.Rpc
