import ClusterPlacement.Json.Reading
import ClusterPlacement.Text.Quoted
/-! The JSON forms of types. A codec pairs the value that a type is written as with the decoder that
reads it; a record is described once, by its fields, for both directions. A record is read from an
object, in which unknown keys are passed over, or from an array of its fields in order. -/

namespace ClusterPlacement.Json

/-- What stands where something else was wanted. -/
inductive Found where
  | null
  | boolean (b : Bool)
  | number (n : Number)
  | string (s : String)
  | sequence
  | map

/-- Why a document is not the form of a type. -/
inductive DecodeError where
  /-- The document breaks off where it is needed. -/
  | stopped (fault : Fault)
  | invalidType (found : Found) (wanted : String)
  | outOfRange (n : Int) (wanted : String)
  | missingField (name : String)
  | duplicateField (name : String)
  | unknownVariant (name : String) (known : List String)
  | tooShort (length : Nat) (record : String) (fields : Nat)
  | tooLong (length : Nat)
  /-- Neither a string nor an object where one of several names was wanted. -/
  | noVariant (found : Found)
  /-- An object that should have one key has none or several. Read key by key, the first fault met in
  it is another one. -/
  | notOneKey (streamed : DecodeError)

def Found.text : Found → String
  | .null => "null"
  | .boolean b => "boolean `" ++ (if b then "true" else "false") ++ "`"
  | .number (.integer n) => "integer `" ++ Numeral.integer n ++ "`"
  | .number (.float x) => "floating point `" ++ x.markedText ++ "`"
  | .string s => "string " ++ Text.quoted s
  | .sequence => "sequence"
  | .map => "map"

/-- The names that were expected, as a message lists them. -/
def knownNames : List String → String
  | [a] => "`" ++ a ++ "`"
  | [a, b] => "`" ++ a ++ "` or `" ++ b ++ "`"
  | names => "one of " ++ ", ".intercalate (names.map fun a => "`" ++ a ++ "`")

/-- The message about a value that is complete. -/
def DecodeError.message : DecodeError → String
  | stopped .ended => "unexpected end of text"
  | stopped .malformed => "malformed text"
  | invalidType found wanted => "invalid type: " ++ found.text ++ ", expected " ++ wanted
  | outOfRange n wanted =>
    "invalid value: integer `" ++ Numeral.integer n ++ "`, expected " ++ wanted
  | missingField name => "missing field `" ++ name ++ "`"
  | duplicateField name => "duplicate field `" ++ name ++ "`"
  | unknownVariant name known =>
    "unknown variant `" ++ name ++ "`, expected " ++ knownNames known
  | tooShort length record fields =>
    "invalid length " ++ Numeral.decimal length ++ ", expected struct " ++ record ++ " with " ++
      Numeral.decimal fields ++ if fields = 1 then " element" else " elements"
  | tooLong length =>
    "invalid length " ++ Numeral.decimal length ++ ", expected fewer elements in array"
  | noVariant found => "invalid type: " ++ found.text ++ ", expected string or map"
  | notOneKey _ => "invalid value: map, expected map with a single key"

/-- Why a text does not decode. -/
inductive TextError where
  | broken (fault : Fault)
  | data (message : String)

/-- What a reader of a stream makes of an error: where the form of the text already rules the value
out, the text itself is at fault. -/
def DecodeError.inText : DecodeError → TextError
  | stopped fault => .broken fault
  | tooLong _ | noVariant _ => .broken .malformed
  | notOneKey streamed => streamed.inText
  | e => .data e.message

abbrev Decoder (α : Type) := Document → Except DecodeError α

/-- The error for a document of another kind than wanted. -/
def mismatch (wanted : String) : Document → DecodeError
  | .null => .invalidType .null wanted
  | .boolean b => .invalidType (.boolean b) wanted
  | .number (.ok n) => .invalidType (.number n) wanted
  | .string (.ok s) => .invalidType (.string s) wanted
  | .array _ _ => .invalidType .sequence wanted
  | .object _ _ | .keyless _ _ _ => .invalidType .map wanted
  | .number (.error fault) | .string (.error fault) => .stopped fault
  | .absent => .stopped .ended
  | .garbled fault _ | .brokenString fault _ => .stopped fault

def keyText (key : Except Fault String) : Except DecodeError String := key.mapError .stopped

/-- The end of an array or an object that has been read up to there. -/
def close {α : Type} (a : α) : Option Fault → Except DecodeError α
  | none => .ok a
  | some fault => .error (.stopped fault)

/-- How a type is written and read. -/
structure Codec (α : Type) where
  encode : α → Json
  decode : Decoder α

namespace Codec

variable {α β : Type}

def stringDecoder (wanted : String) : Decoder String
  | .string (.ok s) => .ok s
  | d => .error (mismatch wanted d)

def string : Codec String := ⟨.string, stringDecoder "a string"⟩

def path : Codec String := ⟨.string, stringDecoder "path string"⟩

def boolean : Codec Bool where
  encode := .boolean
  decode
    | .boolean b => .ok b
    | d => .error (mismatch "a boolean" d)

/-- Reads a natural number below a limit. -/
def boundedDecoder (wanted : String) (limit : Nat) : Decoder Nat
  | .number (.ok (.integer n)) =>
    if 0 ≤ n ∧ n < limit then .ok n.toNat else .error (.outOfRange n wanted)
  | d => .error (mismatch wanted d)

def word32 : Codec UInt32 where
  encode n := natural n.toNat
  decode d := (boundedDecoder "u32" UInt32.size d).map UInt32.ofNat

def word64 : Codec UInt64 where
  encode n := natural n.toNat
  decode d := (boundedDecoder "u64" UInt64.size d).map UInt64.ofNat

/-- An integer can stand for a float. -/
def binary64 : Codec Binary64 where
  encode x := .number (.float x)
  decode
    | .number (.ok (.integer n)) => .ok (.ofInt n)
    | .number (.ok (.float x)) => .ok x
    | d => .error (mismatch "f64" d)

def optional (c : Codec α) : Codec (Option α) where
  encode := ofOption c.encode
  decode
    | .null => .ok none
    | d => (c.decode d).map some

def listDecoder (decode : Decoder α) : Decoder (List α)
  | .array items unclosed => do
    let values ← items.mapM decode
    close values unclosed
  | d => .error (mismatch "a sequence" d)

def list (c : Codec α) : Codec (List α) where
  encode values := .array (values.map c.encode)
  decode := listDecoder c.decode

/-- Reads the entries of an object into a table. The last of several entries with one key stays. -/
def tableEntries (decode : Decoder α) :
    List (Except Fault String × Document) → Table α → Except DecodeError (Table α)
  | [], t => .ok t
  | (key, value) :: rest, t => do
    let key ← keyText key
    let value ← decode value
    tableEntries decode rest (t.insert key value)

def tableDecoder (decode : Decoder α) : Decoder (Table α)
  | .object fields unclosed => do
    let t ← tableEntries decode fields .empty
    close t unclosed
  | .keyless fields wanted _ => do
    let _ ← tableEntries decode fields .empty
    .error (.stopped wanted)
  | d => .error (mismatch "a map" d)

def table (c : Codec α) : Codec (Table α) where
  encode t := .object (t.entries.map fun (key, value) => (key, c.encode value))
  decode := tableDecoder c.decode

def variantNamed (known : List (String × α)) (name : String) : Except DecodeError α :=
  match known.lookup name with
  | some a => .ok a
  | none => .error (.unknownVariant name (known.map (·.1)))

/-- The content that stands beside a name: nothing but null. -/
def emptyContent : Document → Except DecodeError Unit
  | .null => .ok ()
  | d => .error (mismatch "unit" d)

/-- One of several names: a string, or an object whose only key is the name, with nothing in it. -/
def variantDecoder (known : List (String × α)) : Decoder α
  | .string (.ok name) => variantNamed known name
  | .object [(key, content)] unclosed => do
    let a ← variantNamed known (← keyText key)
    emptyContent content
    close a unclosed
  | .object ((key, content) :: _ :: _) _ | .keyless ((key, content) :: _) _ _ =>
    .error <| .notOneKey <|
      match (do
        let _ ← variantNamed known (← keyText key)
        emptyContent content) with
      | .ok () => .stopped .malformed
      | .error e => e
  | .object [] unclosed => .error (.notOneKey (.stopped (unclosed.getD .malformed)))
  | .keyless [] wanted _ => .error (.stopped wanted)
  | .string (.error fault) => .error (.stopped fault)
  | .brokenString fault _ => .error (.stopped fault)
  | .absent => .error (.stopped .ended)
  | .null => .error (.noVariant .null)
  | .boolean b => .error (.noVariant (.boolean b))
  | .number (.ok n) => .error (.noVariant (.number n))
  | .array _ _ => .error (.noVariant .sequence)
  | .number (.error _) | .garbled _ _ => .error (.stopped .malformed)

def variant (known : List (String × α)) (nameOf : α → String) : Codec α :=
  ⟨fun a => .string (nameOf a), variantDecoder known⟩

end Codec

/-- A field of a record. A default stands in for a field that an object leaves out, or for one that
an array is too short for. -/
structure Field where
  name : String
  type : Type
  codec : Codec type
  whenMissing : Option type
  whenShort : Option type

namespace Field

variable {α : Type}

def required (name : String) (c : Codec α) : Field := ⟨name, α, c, none, none⟩

def withDefault (name : String) (c : Codec α) (default : α) : Field :=
  ⟨name, α, c, some default, some default⟩

def optional (name : String) (c : Codec α) : Field :=
  ⟨name, Option α, c.optional, some none, some none⟩

/-- An optional field that an array has to give. -/
def optionalInObject (name : String) (c : Codec α) : Field :=
  ⟨name, Option α, c.optional, some none, none⟩

end Field

/-- One value per field. -/
@[reducible] def Row : List Field → Type
  | [] => Unit
  | f :: fields => f.type × Row fields

/-- The values met so far. -/
def Cells : List Field → Type
  | [] => Unit
  | f :: fields => Option f.type × Cells fields

namespace Record

def noCells : (fields : List Field) → Cells fields
  | [] => ()
  | _ :: fields => (none, noCells fields)

/-- Takes in the value of a key; nothing where no field has that name. A field may be given once. -/
def accept (key : String) (value : Document) :
    (fields : List Field) → Cells fields → Option (Except DecodeError (Cells fields))
  | [], _ => none
  | f :: fields, (cell, cells) =>
    if key = f.name then
      match cell with
      | some _ => some (.error (.duplicateField f.name))
      | none => some ((f.codec.decode value).map fun v => (some v, cells))
    else (accept key value fields cells).map (·.map fun cells => (cell, cells))

/-- Takes in the entries of an object in order. -/
def acceptAll (fields : List Field) :
    List (Except Fault String × Document) → Cells fields → Except DecodeError (Cells fields)
  | [], cells => .ok cells
  | (key, value) :: rest, cells => do
    let key ← keyText key
    match accept key value fields cells with
    | some result => acceptAll fields rest (← result)
    | none => match value.skip with
      | some fault => .error (.stopped fault)
      | none => acceptAll fields rest cells

/-- Fills in the defaults. The first field without a value or a default is missing. -/
def complete : (fields : List Field) → Cells fields → Except DecodeError (Row fields)
  | [], _ => .ok ()
  | f :: fields, (cell, cells) => do
    let v ← match cell.or f.whenMissing with
      | some v => .ok v
      | none => .error (.missingField f.name)
    return (v, ← complete fields cells)

/-- Reads fields from the items of an array, of which `before` have been read. -/
def ofItems (name : String) (count : Nat) (unclosed : Option Fault) :
    (fields : List Field) → Nat → List Document → Except DecodeError (Row fields)
  | [], before, item :: rest => .error (.tooLong (before + (item :: rest).length))
  | [], _, [] => close () unclosed
  | f :: fields, before, item :: rest => do
    let v ← f.codec.decode item
    return (v, ← ofItems name count unclosed fields (before + 1) rest)
  | f :: fields, before, [] => do
    let v ← match unclosed, f.whenShort with
      | some fault, _ => .error (.stopped fault)
      | none, some v => .ok v
      | none, none => .error (.tooShort before name count)
    return (v, ← ofItems name count unclosed fields (before + 1) [])

def decoder (name : String) (fields : List Field) : Decoder (Row fields)
  | .object entries unclosed => do
    let cells ← acceptAll fields entries (noCells fields)
    complete fields (← close cells unclosed)
  | .keyless entries wanted _ => do
    let _ ← acceptAll fields entries (noCells fields)
    .error (.stopped wanted)
  | .array items unclosed => ofItems name fields.length unclosed fields 0 items
  | d => .error (mismatch ("struct " ++ name) d)

def encode : (fields : List Field) → Row fields → List (String × Json)
  | [], _ => []
  | f :: fields, (v, row) => (f.name, f.codec.encode v) :: encode fields row

end Record

/-- The codec of a record: its fields, the record of a row of values, and the row of a record. -/
def Codec.record {α : Type} (name : String) (fields : List Field) (build : Row fields → α)
    (row : α → Row fields) : Codec α where
  encode a := .object (Record.encode fields (row a))
  decode d := (Record.decoder name fields d).map build

namespace Codec

variable {α : Type}

def decodeValue (c : Codec α) (v : Json) : Except DecodeError α := c.decode (Document.ofJson v)

/-- Reads a whole text. Only blanks may follow the value. -/
def decodeText (c : Codec α) (text : List Char) : Except TextError α :=
  let (document, rest) := Document.read text
  match c.decode document with
  | .error e => .error e.inText
  | .ok a =>
    match rest.map Document.dropBlanks with
    | some [] => .ok a
    | _ => .error (.broken .malformed)

end Codec

end ClusterPlacement.Json
