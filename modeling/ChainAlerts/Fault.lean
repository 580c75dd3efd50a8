import ChainAlerts.Json
import ChainAlerts.Number.DecimalArith
import ChainAlerts.Number.Integer

/-! What can be wrong with a value that came from outside. A payload is read field by field, and the
first fault found is the one reported; the constructors name the cause, the wording is in one
function. Callers guard against classes of faults, not against single ones. -/

namespace ChainAlerts

/-- The cause for which a value was refused. -/
inductive Fault where
  /-- an object lacks a field -/
  | missing (field : String)
  /-- a field was asked of a value that has none -/
  | notIndexable (kind : Json.Kind)
  /-- a value that holds no elements was walked through -/
  | notIterable (kind : Json.Kind)
  /-- a key was looked for in a value that holds nothing -/
  | notContainer (kind : Json.Kind)
  /-- a value that denotes no number was to be an integer -/
  | notNumeric (kind : Json.Kind)
  /-- a container was looked up in a table -/
  | unhashable (kind : Json.Kind)
  /-- a text was compared at its start, at its end or within with something that is no text -/
  | startNotText (kind : Json.Kind)
  | endNotText (kind : Json.Kind)
  | partNotText (kind : Json.Kind)
  /-- an operation that only objects or texts have was asked of another value -/
  | lacks (kind : Json.Kind) (operation : String)
  /-- a row's payload is a list or a text with elements and no object -/
  | notPairs
  | badInteger (cause : Integer.SyntaxError)
  | nanToInteger
  | infinityToInteger
  | badDecimal (cause : DecimalSyntaxError)
  | arithmetic (cause : DecimalFault)
  /-- a signaling NaN was to be a binary number -/
  | signalingNan
  | zeroDivisor
  | integerTooLarge
  | quotientTooLarge
  | rowKeyTooLarge
  | repeatTooLarge
  /-- an amount was to be shown of a token about which nothing is known -/
  | noMetadata
  | tooLongToWrite
  | notMember (choices : String) (value : Json)
  | unknownThreshold (value : Json)
  | unknownComponent (value : Json)
  | emptyTokenKey
  | tokenCount (count : Nat)
  | emptyRequirement
  | badSpecifier (text : String)
  | emptyFilter
  | badBotToken
  | badJson (message : String)
  | elementNotByte (kind : Json.Kind)
  | byteOutOfRange
  | badText (message : String)
  deriving Inhabited

/-- The classes by which faults are told apart and guarded against. -/
inductive FaultClass where
  | missingField
  | wrongKind
  | badValue
  | badSpecifier
  | badJson
  | badText
  | lacksOperation
  | tooLarge
  | zeroDivision
  | decimalInvalid
  | decimalOverflow
  | decimalZeroDivision
  deriving DecidableEq, Repr

namespace Fault

def faultClass : Fault → FaultClass
  | .missing _ => .missingField
  | .notIndexable _ | .notIterable _ | .notContainer _ | .notNumeric _ | .unhashable _ | .startNotText _ | .endNotText _
  | .partNotText _ | .notPairs | .elementNotByte _ => .wrongKind
  | .lacks .. => .lacksOperation
  | .badInteger _ | .nanToInteger | .signalingNan | .notMember .. | .unknownThreshold _
  | .unknownComponent _ | .emptyTokenKey | .tokenCount _ | .emptyRequirement | .emptyFilter
  | .badBotToken | .byteOutOfRange | .tooLongToWrite | .noMetadata => .badValue
  | .badSpecifier _ => .badSpecifier
  | .badJson _ => .badJson
  | .badText _ => .badText
  | .infinityToInteger | .integerTooLarge | .quotientTooLarge | .rowKeyTooLarge | .repeatTooLarge => .tooLarge
  | .badDecimal _ => .decimalInvalid
  | .arithmetic .invalid => .decimalInvalid
  | .arithmetic .divisionByZero => .decimalZeroDivision
  | .arithmetic .overflow => .decimalOverflow
  | .zeroDivisor => .zeroDivision

/-- Values of the right kind that are not what they should be, badly written JSON and bytes that are
no text included. -/
def isBadValue (f : Fault) : Bool :=
  match f.faultClass with
  | .badValue | .badSpecifier | .badJson | .badText => true
  | _ => false

/-- The faults that mark a payload as malformed: a field is missing, of the wrong kind, or has a bad
value. -/
def isMalformed (f : Fault) : Bool :=
  f.isBadValue || f.faultClass = .missingField || f.faultClass = .wrongKind

def message : Fault → String
  | .missing field => Text.quoted field
  | .notIndexable .arr => "list indices must be integers or slices, not str"
  | .notIndexable .str => "string indices must be integers, not 'str'"
  | .notIndexable kind => s!"'{kind.name}' object is not subscriptable"
  | .notIterable kind => s!"'{kind.name}' object is not iterable"
  | .notContainer kind => s!"argument of type '{kind.name}' is not iterable"
  | .notNumeric kind =>
    s!"int() argument must be a string, a bytes-like object or a real number, not '{kind.name}'"
  | .unhashable kind => s!"unhashable type: '{kind.name}'"
  | .startNotText kind => s!"startswith first arg must be str or a tuple of str, not {kind.name}"
  | .endNotText kind => s!"endswith first arg must be str or a tuple of str, not {kind.name}"
  | .partNotText kind => s!"'in <string>' requires string as left operand, not {kind.name}"
  | .lacks kind operation => s!"'{kind.name}' object has no attribute '{operation}'"
  | .notPairs => "cannot convert dictionary update sequence element #0 to a sequence"
  | .badInteger cause => cause.message
  | .nanToInteger => "cannot convert float NaN to integer"
  | .infinityToInteger => "cannot convert float infinity to integer"
  | .badDecimal .malformed => "[<class 'decimal.ConversionSyntax'>]"
  | .badDecimal .outOfRange => "[<class 'decimal.InvalidOperation'>]"
  | .arithmetic .invalid => "[<class 'decimal.InvalidOperation'>]"
  | .arithmetic .divisionByZero => "[<class 'decimal.DivisionByZero'>]"
  | .arithmetic .overflow => "[<class 'decimal.Overflow'>]"
  | .signalingNan => "cannot convert signaling NaN to float"
  | .zeroDivisor => "float division by zero"
  | .integerTooLarge => "int too large to convert to float"
  | .quotientTooLarge => "integer division result too large for a float"
  | .rowKeyTooLarge => "row key out of range"
  | .repeatTooLarge => "cannot fit 'int' into an index-sized integer"
  | .tooLongToWrite =>
    s!"Exceeds the limit ({Integer.maxDigits} digits) for integer string conversion; " ++
      "use sys.set_int_max_str_digits() to increase the limit"
  | .noMetadata => "no metadata"
  | .notMember choices value => s!"{value.shown} is not a valid {choices}"
  | .unknownThreshold value => s!"Unknown min amount type: {value.shown}"
  | .unknownComponent value => s!"Unknown component type: {value.shown}"
  | .emptyTokenKey => "Token key must not be empty"
  | .tokenCount count => s!"Liquidity event must carry exactly two tokens, got {count}"
  | .emptyRequirement => "Version requirement is empty"
  | .badSpecifier text => s!"Invalid specifier: {Text.quoted text}"
  | .emptyFilter =>
    "A NEP-297 log filter needs at least one of account, predecessor, standard, version or event"
  | .badBotToken => "Bot token must look like '<numeric id>:<secret>'"
  | .badJson message => message
  | .elementNotByte kind => s!"'{kind.name}' object cannot be interpreted as an integer"
  | .byteOutOfRange => "bytes must be in range(0, 256)"
  | .badText message => message

end Fault

end ChainAlerts
