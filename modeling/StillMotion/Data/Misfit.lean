import StillMotion.Data.Value

/-!
# Misfits

Why an operation does not apply to the values that it is given.  Values are told by their kinds.
-/

namespace StillMotion

inductive Misfit where
  | operands (operator left right : String)
  | unordered (operator left right : String)
  | concatenation (base other : String)
  | repetition (kind : String)
  | unary (operator kind : String)
  | zeroDivisor (words : String)
  | powerTooLarge
  | integerTooLarge
  | quotientTooLarge
  | infinityToInteger
  | nanToInteger
  | integerTooWide
  | notIterable (kind : String)
  | noLength (kind : String)
  | notSubscriptable (kind : String)
  | notContainer (kind : String)
  | notText (kind : String)
  | notCallable (kind : String)
  | notInteger (kind : String)
  | unhashable (kind : String)
  /-- A value that cannot be formatted by a code, or not by any. -/
  | formatCode (code kind : String)
  | formatting (kind : String)
  | noAttribute (owner name : String)
  | noField (owner name : String)
  /-- A member that a record computes and that cannot be assigned. -/
  | readOnly (owner name : String)
  | unexpectedArgument (callee name : String)
  | outOfRange
  /-- A misfit with a wording of its own. -/
  | kindOf (kind message : String)
deriving DecidableEq, Repr

namespace Misfit

def kind : Misfit → String
  | .zeroDivisor _ => "ZeroDivisionError"
  | .powerTooLarge | .integerTooLarge | .quotientTooLarge | .infinityToInteger => "OverflowError"
  | .nanToInteger | .integerTooWide | .formatCode _ _ => "ValueError"
  | .noAttribute _ _ | .readOnly _ _ => "AttributeError"
  | .noField _ _ => "ValueError"
  | .outOfRange => "IndexError"
  | .kindOf kind _ => kind
  | _ => "TypeError"

def message : Misfit → String
  | .operands operator left right =>
      s!"unsupported operand type(s) for {operator}: '{left}' and '{right}'"
  | .unordered operator left right =>
      s!"'{operator}' not supported between instances of '{left}' and '{right}'"
  | .concatenation base other => s!"can only concatenate {base} (not \"{other}\") to {base}"
  | .repetition kind => s!"can't multiply sequence by non-int of type '{kind}'"
  | .unary operator kind => s!"bad operand type for {operator}: '{kind}'"
  | .zeroDivisor words => words
  | .powerTooLarge => "(34, 'Numerical result out of range')"
  | .integerTooLarge => "int too large to convert to float"
  | .quotientTooLarge => "integer division result too large for a float"
  | .infinityToInteger => "cannot convert float infinity to integer"
  | .nanToInteger => "cannot convert float NaN to integer"
  | .integerTooWide =>
      "Exceeds the limit (4300 digits) for integer string conversion; " ++
        "use sys.set_int_max_str_digits() to increase the limit"
  | .notIterable kind => s!"'{kind}' object is not iterable"
  | .noLength kind => s!"object of type '{kind}' has no len()"
  | .notSubscriptable kind => s!"'{kind}' object is not subscriptable"
  | .notContainer kind => s!"argument of type '{kind}' is not iterable"
  | .notText kind => s!"'in <string>' requires string as left operand, not {kind}"
  | .notCallable kind => s!"'{kind}' object is not callable"
  | .notInteger kind => s!"'{kind}' object cannot be interpreted as an integer"
  | .unhashable kind => s!"unhashable type: '{kind}'"
  | .formatCode code kind => s!"Unknown format code '{code}' for object of type '{kind}'"
  | .formatting kind => s!"unsupported format string passed to {kind}.__format__"
  | .noAttribute owner name => s!"'{owner}' object has no attribute '{name}'"
  | .noField owner name => s!"\"{owner}\" object has no field \"{name}\""
  | .readOnly owner name => s!"property '{name}' of '{owner}' object has no setter"
  | .unexpectedArgument callee name =>
      s!"{callee}() got an unexpected keyword argument '{name}'"
  | .outOfRange => "list index out of range"
  | .kindOf _ message => message

end Misfit

def Value.kindName : Value → String
  | .null => "NoneType"
  | .bool _ => "bool"
  | .int _ => "int"
  | .float _ => "float"
  | .str _ => "str"
  | .list _ => "list"
  | .mapping _ => "dict"
  | .stamp _ => "datetime.date"
  | .bytes _ => "bytes"
  | .table _ => "dict"
  | .cycle isMapping => if isMapping then "dict" else "list"

end StillMotion
