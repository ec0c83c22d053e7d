import SchemaMigration.Decimal.Reading
import SchemaMigration.Yaml.Tree

namespace SchemaMigration.Yaml

/-!
# Typed values

The values that the scalars of a document stand for. A plain scalar may be
null, a truth value, an integer or a decimal number; any other scalar is a text
unless its tag says otherwise. Integers have 64 bits.
-/

/-- A value of a document. -/
inductive Value
  | unit
  | boolean (value : Bool)
  | unsigned (value : Nat)
  | signed (value : Int)
  | float (value : Decimal.Binary64)
  | text (value : String)
  | list (items : List Value)
  | map (entries : List (Value × Value))

/-! ## Scalars -/

/-- Whether a text is a word for null. -/
def isNullWord (text : String) : Bool :=
  text = "~" || text = "null" || text = "Null" || text = "NULL"

/-- The truth value that a word stands for. -/
def boolean? (text : String) : Option Bool :=
  if text = "true" || text = "True" || text = "TRUE" then some true
  else if text = "false" || text = "False" || text = "FALSE" then some false
  else none

/-- Whether digits start with a zero that does not count, so that they are a text. -/
def isPaddedDigits (text : List Char) : Bool :=
  let digits :=
    match text with
    | '-' :: rest | '+' :: rest => rest
    | _ => text
  match digits with
  | '0' :: rest => !rest.isEmpty && rest.all Text.isDigit
  | _ => false

/-- The number that digits after a mark of their radix stand for. -/
def radixNatural? : List Char → Option Nat
  | '0' :: 'x' :: digits => Decimal.natural? 16 digits
  | '0' :: 'o' :: digits => Decimal.natural? 8 digits
  | '0' :: 'b' :: digits => Decimal.natural? 2 digits
  | _ => none

/-- The number that a numeral without a sign stands for, in any radix. -/
def numeral? (digits : List Char) : Option Nat :=
  match radixNatural? digits with
  | some value => some value
  | none => if isPaddedDigits digits then none else Decimal.natural? 10 digits

/-- The integer that a text writes. -/
def integer? (text : List Char) : Option Int :=
  match text with
  | '-' :: digits => (numeral? digits).map (fun value => -Int.ofNat value)
  | '+' :: digits => (numeral? digits).map Int.ofNat
  | digits => (numeral? digits).map Int.ofNat

/-- The largest integers that count as such are those of 128 bits. -/
def isInteger128 (isNegative : Bool) (value : Int) : Bool :=
  if isNegative then decide (-Int.ofNat (Decimal.valuesOf 127) ≤ value)
  else decide (value < Int.ofNat (Decimal.valuesOf 128))

/-- The value of an integer; integers of more than 64 bits are refused. -/
def Value.ofInteger (isNegative : Bool) (value : Int) : Except Error Value :=
  if isNegative then
    if -Int.ofNat (Decimal.valuesOf 63) ≤ value then .ok (.signed value)
    else .error (.shapeExpected "an integer of 64 bits")
  else
    if value < Int.ofNat (Decimal.valuesOf 64) then .ok (.unsigned value.toNat)
    else .error (.shapeExpected "an integer of 64 bits")

/-- The value that a text has as an integer, if it is one. -/
def integerValue? (text : String) : Option (Except Error Value) :=
  let characters := text.toList
  let isNegative := decide (characters.head? = some '-')
  match integer? characters with
  | some value =>
      if isInteger128 isNegative value then some (Value.ofInteger isNegative value) else none
  | none => none

/-- Whether a word stands for infinity. -/
def isInfinityWord (text : String) : Bool :=
  text = ".inf" || text = ".Inf" || text = ".INF"

/-- Whether a word stands for an undefined number. -/
def isUndefinedWord (text : String) : Bool :=
  text = ".nan" || text = ".NaN" || text = ".NAN"

/-- The decimal number that a text writes. -/
def float? (text : String) : Option Decimal.Binary64 :=
  if isUndefinedWord text then
    some .nan
  else
    let (isNegative, digits) := Decimal.splitSign text.toList
    let unsigned := String.ofList digits
    let hasTwoSigns := digits.head? = some '+' || digits.head? = some '-'
    if isInfinityWord unsigned then some (.infinite isNegative)
    else if hasTwoSigns then none
    else (Decimal.read? text).filter Decimal.Binary64.isFinite

/-- The value of a plain scalar without a tag. -/
def Value.ofPlain (text : String) : Except Error Value :=
  if text.isEmpty || isNullWord text then
    .ok .unit
  else
    match boolean? text, integerValue? text with
    | some value, _ => .ok (.boolean value)
    | none, some value => value
    | none, none =>
        if isPaddedDigits text.toList then .ok (.text text)
        else match float? text with
          | some value => .ok (.float value)
          | none => .ok (.text text)

/--
The value of a scalar with a tag. A scalar with a local tag has none, but one
whose octets are no text counts for nothing.
-/
def Value.ofTagged (tag : Tag) (text : String) (isPlain : Bool) : Except Error Value :=
  if tag = Tag.core "bool" then
    match boolean? text with
    | some value => .ok (.boolean value)
    | none => .error (.shapeExpected "a truth value")
  else if tag = Tag.core "int" then
    (integerValue? text).getD (.error (.shapeExpected "an integer"))
  else if tag = Tag.core "float" then
    match float? text with
    | some value => .ok (.float value)
    | none => .error (.shapeExpected "a number")
  else if tag = Tag.core "null" then
    if isNullWord text then .ok .unit else .error (.shapeExpected "null")
  else if tag.localText?.isSome then
    .error (.shapeExpected "a value without a tag")
  else if tag.isLocal && isPlain then
    Value.ofPlain text
  else
    .ok (.text text)

/-- The value of a scalar. -/
def Value.ofScalar (tag : Option Tag) (text : String) (isPlain : Bool) : Except Error Value :=
  match tag with
  | some tag => Value.ofTagged tag text isPlain
  | none => if isPlain then Value.ofPlain text else .ok (.text text)

/-! ## Collections -/

/-- Whether the tag of a collection lets it be a value. -/
def allowsValue (tag : Option Tag) : Bool :=
  (tag.bind Tag.localText?).isNone

namespace Value

mutual

/-- The value of a tree. -/
def ofTree : Tree → Except Error Value
  | .scalar tag written isPlain => ofScalar tag written isPlain
  | .sequence tag items =>
      if allowsValue tag then do
        return .list (← ofItems items)
      else
        .error (.shapeExpected "a value without a tag")
  | .mapping tag entries =>
      if allowsValue tag then do
        return .map (← ofEntries entries)
      else
        .error (.shapeExpected "a value without a tag")

/-- The values of items. -/
def ofItems : List Tree → Except Error (List Value)
  | [] => .ok []
  | item :: rest => do
      let value ← ofTree item
      return value :: (← ofItems rest)

/-- The values of entries. -/
def ofEntries : List (Tree × Tree) → Except Error (List (Value × Value))
  | [] => .ok []
  | (key, item) :: rest => do
      let key ← ofTree key
      let value ← ofTree item
      return (key, value) :: (← ofEntries rest)

end

end Value

end SchemaMigration.Yaml
