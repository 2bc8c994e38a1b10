import TopicStream.Json.Parser
import TopicStream.Json.Printer
import TopicStream.Text.Quoted

/-!
# Reading records from JSON

A record with named fields is read from an object, whose unknown members are passed over, or from
an array that holds the fields in declared order. Reading is one pass from left to right; the first
problem met is the one reported, and missing fields are looked for at the end of an object.

A text that is no JSON value is *malformed*; one whose value does not fit the record has a
*mismatch*.
-/

namespace TopicStream.Json

/-- What was met in place of something else. -/
inductive Found where
  /-- The value `null`. -/
  | null
  /-- A truth value. -/
  | bool (value : Bool)
  /-- A number. -/
  | number (value : Number)
  /-- A string. -/
  | string (value : String)
  /-- An array. -/
  | array
  /-- An object. -/
  | object
  deriving DecidableEq, Repr

/-- The wording of what was met. -/
def Found.describe : Found → String
  | null => "null"
  | bool true => "boolean `true`"
  | bool false => "boolean `false`"
  | number (.integer i) => "integer `" ++ String.ofList (Number.integerText i) ++ "`"
  | number (.float x) => "floating point `" ++ String.ofList (Number.Shortest.text x) ++ "`"
  | string s => "string " ++ Text.Quoted.encode s
  | array => "sequence"
  | object => "map"

/-- What a value is when it is not what was due. -/
def found : Json → Found
  | .null => .null
  | .bool b => .bool b
  | .number n => .number n
  | .string s => .string s
  | .array _ => .array
  | .object _ => .object

/-- Why a value does not fit a record. -/
inductive Mismatch where
  /-- A field without a default is missing. -/
  | missingField (name : String)
  /-- A field is given twice. -/
  | duplicateField (name : String)
  /-- A value of the wrong type. -/
  | invalidType (met : Found) (expected : String)
  /-- A value of the right type that is out of range. -/
  | invalidValue (met : Found) (expected : String)
  /-- An array of the wrong length. -/
  | invalidLength (length : Nat) (expected : String)
  deriving DecidableEq, Repr

/-- The wording of a mismatch. -/
def Mismatch.message : Mismatch → String
  | missingField name => "missing field `" ++ name ++ "`"
  | duplicateField name => "duplicate field `" ++ name ++ "`"
  | invalidType met expected => "invalid type: " ++ met.describe ++ ", expected " ++ expected
  | invalidValue met expected => "invalid value: " ++ met.describe ++ ", expected " ++ expected
  | invalidLength n expected => "invalid length " ++ Nat.repr n ++ ", expected " ++ expected

/-- Why a record cannot be read from a text. -/
inductive ReadError where
  /-- The text is no JSON value. -/
  | malformed (fault : Fault)
  /-- The value does not fit. -/
  | mismatch (why : Mismatch)
  deriving DecidableEq, Repr

/-- A problem noted while reading a record. -/
inductive Obstacle where
  /-- The text is no JSON value. -/
  | stop (stop : Stop)
  /-- The value does not fit. -/
  | mismatch (why : Mismatch)

/-- A reader of a value that has to fit. -/
abbrev FitReader (α : Type) := List Char → Except Obstacle (α × List Char)

/-- A reader of the parts of values, as part of a reader that looks at their fit. -/
def lift {α : Type} (r : Except Stop α) : Except Obstacle α :=
  r.mapError .stop

/-! ### Passing over values -/

/-- Passes over the rest of a string; escapes are looked at one by one. -/
def passString : (fuel : Nat) → List Char → Except Stop (List Char)
  | 0, text => .error (.here .endInString text)
  | _ + 1, [] => .error (.here .endInString [])
  | fuel + 1, c :: text =>
    if c = '"' then .ok text
    else if c = '\\' then
      match text with
      | [] => .error (.here .endInString [])
      | d :: text =>
        if d = 'u' then do
          let (_, text) ← readHex4 text
          passString fuel text
        else if d ∈ ['"', '\\', '/', 'b', 'f', 'n', 'r', 't'] then passString fuel text
        else .error (.next .invalidEscape (d :: text))
    else if c.toNat < 0x20 then .error (.next .controlCharacter (c :: text))
    else passString fuel text

/-- Passes over an exponent after its letter. -/
def passExponent (text : List Char) : Except Stop (List Char) :=
  let text := match text with
    | c :: rest => if c = '+' ∨ c = '-' then rest else c :: rest
    | [] => []
  if startsWithDigit text then .ok (text.dropWhile Char.isDigit)
  else .error (.next .invalidNumber text)

/-- Passes over what may follow the digits of a number. -/
def passAfterDigits : List Char → Except Stop (List Char)
  | [] => .ok []
  | c :: text => if c = 'e' ∨ c = 'E' then passExponent text else .ok (c :: text)

/-- Passes over a number after its sign. Its size does not matter. -/
def passNumber : List Char → Except Stop (List Char)
  | [] => .error (.next .invalidNumber [])
  | c :: text =>
    if c.isDigit then
      let after := if c = '0' then text else text.dropWhile Char.isDigit
      if startsWithDigit after then .error (.next .invalidNumber after)
      else
        match after with
        | '.' :: fraction =>
          if startsWithDigit fraction then passAfterDigits (fraction.dropWhile Char.isDigit)
          else .error (.next .invalidNumber fraction)
        | _ => passAfterDigits after
    else .error (.next .invalidNumber (c :: text))

/-- Passes over a value that is no array and no object. -/
def passScalar (fuel : Nat) (c : Char) (rest : List Char) : Except Stop (List Char) :=
  if c = 'n' then readWord ['u', 'l', 'l'] rest
  else if c = 't' then readWord ['r', 'u', 'e'] rest
  else if c = 'f' then readWord ['a', 'l', 's', 'e'] rest
  else if c = '-' then passNumber rest
  else if c.isDigit then passNumber (c :: rest)
  else if c = '"' then passString fuel rest
  else .error (.next .expectedValue (c :: rest))

/-- Closes brackets after a value, up to the text of the next value inside those still open (`true`
for an object); nothing is open any more at the end of the value passed over. -/
def passEnds (stringFuel : Nat) :
    (fuel : Nat) → (opened : List Bool) → List Char → Except Stop (List Bool × List Char)
  | 0, opened, text => .ok (opened, text)
  | _ + 1, [], text => .ok ([], text)
  | fuel + 1, true :: opened, text => do
    match ← nextKey false text with
    | (none, rest) => passEnds stringFuel fuel opened rest
    | (some key, _) =>
      let rest ← passString stringFuel key
      let rest ← afterColon rest
      .ok (true :: opened, rest)
  | fuel + 1, false :: opened, text => do
    match ← nextItem false text with
    | (none, rest) => passEnds stringFuel fuel opened rest
    | (some item, _) => .ok (false :: opened, item)

/-- Passes over a value with its enclosing brackets; nesting has no bound. -/
def passValue (inner : Nat) : (fuel : Nat) → (opened : List Bool) → List Char →
    Except Stop (List Char)
  | 0, _, text => .error (.here .endInValue text)
  | fuel + 1, opened, text =>
    let resume (opened : List Bool) (rest : List Char) : Except Stop (List Char) := do
      match ← passEnds inner inner opened rest with
      | ([], rest) => .ok rest
      | (opened, rest) => passValue inner fuel opened rest
    match skipBlanks text with
    | [] => .error (.next .endInValue [])
    | c :: rest =>
      if c = '[' then do
        match ← nextItem true rest with
        | (none, rest) => resume opened rest
        | (some item, _) => passValue inner fuel (false :: opened) item
      else if c = '{' then do
        match ← nextKey true rest with
        | (none, rest) => resume opened rest
        | (some key, _) =>
          let rest ← passString inner key
          let rest ← afterColon rest
          passValue inner fuel (true :: opened) rest
      else do
        let rest ← passScalar inner c rest
        resume opened rest

/-! ### Fields -/

/-- What stands where something else was due. A scalar is read to its end first, and is malformed
rather than unfit if it has no end. -/
def readFound (fuel : Nat) (text : List Char) : Except Stop Found :=
  match text with
  | [] => .error (.next .expectedValue [])
  | c :: rest =>
    if c = '[' then .ok .array
    else if c = '{' then .ok .object
    else do
      let (v, _) ← readScalar fuel c rest
      .ok v.found

/-- Refuses what stands at the text. -/
def refuse {α : Type} (fuel : Nat) (expected : String) (text : List Char) : Except Obstacle α := do
  let met ← lift (readFound fuel text)
  .error (.mismatch (.invalidType met expected))

/-- Reads a string field. -/
def textField (fuel : Nat) : FitReader String := fun text =>
  match skipBlanks text with
  | [] => .error (.stop (.next .endInValue []))
  | c :: rest =>
    if c = '"' then lift (readString fuel rest) else refuse fuel "a string" (c :: rest)

/-- Reads a field that holds a natural number of 64 bits. -/
def naturalField (fuel : Nat) : FitReader Nat := fun text =>
  match skipBlanks text with
  | [] => .error (.stop (.next .endInValue []))
  | c :: rest =>
    if c = '-' ∨ c.isDigit then do
      let (n, after) ← lift (if c = '-' then readNumber true rest else readNumber false (c :: rest))
      match n with
      | .integer i =>
        if 0 ≤ i then .ok (i.toNat, after)
        else .error (.mismatch (.invalidValue (.number n) "u64"))
      | .float _ => .error (.mismatch (.invalidType (.number n) "u64"))
    else refuse fuel "u64" (c :: rest)

/-- Reads a field that may be `null`. -/
def optionalField {α : Type} (value : FitReader α) : FitReader (Option α) := fun text =>
  match skipBlanks text with
  | [] => .error (.stop (.next .endInValue []))
  | c :: rest =>
    if c = 'n' then do
      let rest ← lift (readWord ['u', 'l', 'l'] rest)
      .ok (none, rest)
    else do
      let (v, rest) ← value (c :: rest)
      .ok (some v, rest)

/-- Reads a field that holds any value, inside one enclosing array or object. -/
def valueField (fuel : Nat) : FitReader Json := fun text =>
  -- The enclosing record takes one level.
  lift (readValue fuel (maxDepth - 1) text)

/-- A field of a record that is read into a draft of type `δ`. -/
structure Field (δ : Type) where
  /-- The key of the field. -/
  name : String
  /-- Whether the draft has the field. -/
  isSet : δ → Bool
  /-- Reads the field into the draft. -/
  read : (fuel : Nat) → δ → FitReader δ
  /-- Whether an array may end before the field. -/
  optional : Bool

/-- How a record of type `α` is read by way of drafts of type `δ`. -/
structure Shape (δ α : Type) where
  /-- The name of the record. -/
  name : String
  /-- The fields in declared order. -/
  fields : List (Field δ)
  /-- The draft without any field. -/
  start : δ
  /-- The record of a draft, unless a field is missing. -/
  finish : δ → Except Mismatch α

namespace Shape

variable {δ α : Type}

/-- What messages call the record. -/
def title (shape : Shape δ α) : String := "struct " ++ shape.name

/-- Reads the members of an object into a draft. -/
def readMembers (shape : Shape δ α) (inner : Nat) :
    (fuel : Nat) → (first : Bool) → δ → FitReader δ
  | 0, _, _, text => .error (.stop (.here .endInObject text))
  | fuel + 1, first, draft, text => do
    match ← lift (nextKey first text) with
    | (none, rest) => .ok (draft, rest)
    | (some key, _) =>
      let (k, rest) ← lift (readString inner key)
      match shape.fields.find? (·.name == k) with
      | some field =>
        -- A repeated field is refused before its value is looked at.
        if field.isSet draft then .error (.mismatch (.duplicateField k))
        else
          let rest ← lift (afterColon rest)
          let (draft, rest) ← field.read inner draft rest
          readMembers shape inner fuel false draft rest
      | none =>
        let rest ← lift (afterColon rest)
        let rest ← lift (passValue inner inner [] rest)
        readMembers shape inner fuel false draft rest

/-- Reads the fields of an array, of which `index` have been read, into a draft. Once the array has
ended only optional fields may remain. -/
def readFields (shape : Shape δ α) (fuel : Nat) :
    List (Field δ) → (index : Nat) → δ → FitReader δ
  | [], _, draft, text => .ok (draft, text)
  | field :: fields, index, draft, text => do
    match ← lift (nextItem (index == 0) text) with
    | (none, _) =>
      if field.optional then readFields shape fuel fields index draft text
      else
        .error (.mismatch (.invalidLength index
          (shape.title ++ " with " ++ Nat.repr shape.fields.length ++ " elements")))
    | (some item, _) =>
      let (draft, rest) ← field.read fuel draft item
      readFields shape fuel fields (index + 1) draft rest

/-- Reads the closing bracket of an array of fields. -/
def readEnd (text : List Char) : Except Stop (List Char) :=
  match skipBlanks text with
  | [] => .error (.next .endInArray [])
  | c :: rest =>
    if c = ']' then .ok rest
    else if c = ',' then
      match skipBlanks rest with
      | ']' :: rest => .error (.next .trailingComma (']' :: rest))
      | rest => .error (.next .trailingText rest)
    else .error (.next .trailingText (c :: rest))

/-- Reads a record. -/
def read (shape : Shape δ α) (fuel : Nat) : FitReader α := fun text =>
  match skipBlanks text with
  | [] => .error (.stop (.next .endInValue []))
  | c :: rest =>
    if c = '[' then do
      let (draft, rest) ← shape.readFields fuel shape.fields 0 shape.start rest
      let record ← (shape.finish draft).mapError .mismatch
      let rest ← lift (readEnd rest)
      .ok (record, rest)
    else if c = '{' then do
      let (draft, rest) ← shape.readMembers fuel fuel true shape.start rest
      let record ← (shape.finish draft).mapError .mismatch
      .ok (record, rest)
    else refuse fuel shape.title (c :: rest)

/-- The record of a text. -/
def parse (shape : Shape δ α) (text : String) : Except ReadError α :=
  let whole := text.toList
  let fail : Obstacle → ReadError
    | .stop stop => .malformed (stop.locate whole)
    | .mismatch why => .mismatch why
  match shape.read (whole.length + 1) whole with
  | .error obstacle => .error (fail obstacle)
  | .ok (record, rest) =>
    match skipBlanks rest with
    | [] => .ok record
    | c :: rest => .error (fail (.stop (.next .trailingText (c :: rest))))

end Shape

end TopicStream.Json
