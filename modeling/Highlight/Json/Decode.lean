import Highlight.Json.Reader

/-!
# Decoding JSON

Decoders take a value of a given type out of a document and answer the fault that comes first in the
text.  A decoder for a value with parts is handed the **room**, the number of levels to which parts
may still be nested, and decoders for the parts that expect one level less; a value is not entered
when there is room for no level within it.

A record is written as an object, with its fields in any order, or as an array, with its fields in
their own order.
-/

namespace Highlight.Json

/-- A decoder of one type of values. -/
abbrev Decoder (α : Type) := Doc → Except Fault α

/-- The room that a text leaves: values may be nested to 127 levels. -/
def textRoom : Nat := 128

/-- The room that a value already in memory leaves. -/
def valueRoom : Nat := Nat.pow 2 32

/-- The fault of a value that is of another type than expected.  A string or number must be readable
before its type matters. -/
def Doc.unexpected : Doc → Fault
  | .string s => match s.value with
    | .ok _ => .mismatch
    | .error fault => fault
  | .number n => match n.value with
    | .ok _ => .mismatch
    | .error fault => fault
  | .broken fault => fault
  | _ => .mismatch

namespace Decode

/-- A fault, if there is one. -/
def check : Option Fault → Except Fault Unit
  | none => .ok ()
  | some fault => .error fault

/-- Fails when there is no room to enter a value. -/
def enter (room : Nat) : Except Fault Unit := if room ≤ 1 then .error .malformed else .ok ()

/-- A string. -/
def string : Decoder String
  | .string s => s.value
  | d => .error d.unexpected

/-- A truth value. -/
def bool : Decoder Bool
  | .bool b => .ok b
  | d => .error d.unexpected

/-- A number that is not negative and fits a 64-bit word. -/
def natural : Decoder Nat
  | .number n => do
    match ← n.value with
    | .integer n => if 0 ≤ n then return n.toNat else throw .mismatch
    | _ => throw .mismatch
  | d => .error d.unexpected

/-- A value, or nothing where `null` stands. -/
def option {α : Type} (value : Decoder α) : Decoder (Option α)
  | .null => .ok none
  | d => (value d).map some

/-- Decodes elements in order. -/
def elements {α : Type} (element : Decoder α) : List Doc → Except Fault (List α)
  | [] => .ok []
  | item :: items => do
    let x ← element item
    return x :: (← elements element items)

/-- A list. -/
def list {α : Type} (room : Nat) (element : Decoder α) : Decoder (List α)
  | .array items stop => do
    enter room
    let xs ← elements element items
    check stop
    return xs
  | d => .error d.unexpected

/-- Decodes members in order into a list ordered by key. -/
def entries {α : Type} (value : Decoder α) :
    List (String × α) → List (Quoted × Doc) → Except Fault (List (String × α))
  | read, [] => .ok read
  | read, (key, d) :: members => do
    let key ← key.value
    let x ← value d
    entries value (putMember key x read) members

/-- A map from strings, as a list ordered by key.  Of two members with the same key the later one
counts. -/
def map {α : Type} (room : Nat) (value : Decoder α) : Decoder (List (String × α))
  | .object members stop => do
    enter room
    let read ← entries value [] members
    check stop
    return read
  | d => .error d.unexpected

/-! ### Records -/

/-- A field of a record: how its value changes the record read so far. -/
structure Field (σ : Type) where
  name : String
  required : Bool := false
  read : Doc → σ → Except Fault σ

/-- A field whose value is put into the record. -/
def field {α σ : Type} (name : String) (value : Decoder α) (put : α → σ → σ) : Field σ :=
  { name, read := fun d record => return put (← value d) record }

/-- A field that has to be there. -/
def requiredField {α σ : Type} (name : String) (value : Decoder α) (put : α → σ → σ) : Field σ :=
  { name, required := true, read := fun d record => return put (← value d) record }

/-- Reads the members of an object as fields of a record.  Members of other names are passed over,
and no field may be given twice; `seen` holds the names of the fields given so far. -/
def recordMembers {σ : Type} (fields : List (Field σ)) :
    List String → σ → List (Quoted × Doc) → Except Fault (List String × σ)
  | seen, record, [] => .ok (seen, record)
  | seen, record, (key, d) :: members => do
    let key ← key.value
    match fields.find? (·.name == key) with
    | none =>
      check d.fault?
      recordMembers fields seen record members
    | some field =>
      if seen.contains key then throw .mismatch
      let record ← field.read d record
      recordMembers fields (key :: seen) record members

/-- Reads the elements of an array as the fields of a record in order. -/
def recordItems {σ : Type} (stop : Option Fault) :
    List (Field σ) → σ → List Doc → Except Fault σ
  | [], record, [] => do
    check stop
    return record
  | [], _, _ :: _ => .error .malformed
  | field :: fields, record, [] => do
    check stop
    if field.required then throw .mismatch
    recordItems stop fields record []
  | field :: fields, record, item :: items => do
    let record ← field.read item record
    recordItems stop fields record items

/-- A record. Fields that are not given keep their values in `start`. -/
def record {σ : Type} (room : Nat) (fields : List (Field σ)) (start : σ) : Decoder σ
  | .object members stop => do
    enter room
    let (seen, record) ← recordMembers fields [] start members
    check stop
    if fields.all fun field => !field.required || seen.contains field.name then return record
    else throw .mismatch
  | .array items stop => do
    enter room
    recordItems stop fields start items
  | d => .error d.unexpected

/-- One of several words, given as a string or as the only key of an object, with the value
`null`. -/
def word {α : Type} (room : Nat) (words : List (String × α)) : Decoder α
  | .string s => do
    match words.lookup (← s.value) with
    | some x => return x
    | none => throw .mismatch
  | .object [] stop => do
    enter room
    .error (stop.getD .malformed)
  | .object ((key, d) :: members) stop => do
    enter room
    match words.lookup (← key.value) with
    | none => throw .mismatch
    | some x =>
      match d with
      | .null =>
        if !members.isEmpty then throw .malformed
        check stop
        return x
      | d => throw d.unexpected
  | .broken fault => .error fault
  | _ => .error .malformed

/-! ### Whole values -/

mutual

/-- Any value. -/
def anyValue : Nat → Decoder Json
  | _, .null => .ok .null
  | _, .bool b => .ok (.bool b)
  | _, .number n => n.value
  | _, .string s => return .string (← s.value)
  | room, .array items stop => do
    enter room
    let items ← anyItems (room - 1) items
    check stop
    return .array items
  | room, .object members stop => do
    enter room
    let members ← anyMembers (room - 1) [] members
    check stop
    return .object members
  | _, .broken fault => .error fault

/-- Any elements. -/
def anyItems : Nat → List Doc → Except Fault (List Json)
  | _, [] => .ok []
  | room, item :: items => do
    let x ← anyValue room item
    return x :: (← anyItems room items)

/-- Any members, in the order of their keys.  Of two members with the same key the later one
counts. -/
def anyMembers : Nat → List (String × Json) → List (Quoted × Doc) →
    Except Fault (List (String × Json))
  | _, read, [] => .ok read
  | room, read, (key, d) :: members => do
    let key ← key.value
    let x ← anyValue room d
    anyMembers room (putMember key x read) members

end

/-- Decodes a text that holds one value and nothing else. -/
def text {α : Type} (value : Nat → Decoder α) (text : String) : Except Fault α := do
  let read := Text.ofString text
  let x ← value textRoom read.doc
  check read.trailing
  return x

/-- Decodes a value in memory.  There is no text, so the only fault is that the value is not what is
expected. -/
def value {α : Type} (decoder : Nat → Decoder α) (j : Json) : Except Fault α :=
  match decoder valueRoom j.toDoc with
  | .ok x => .ok x
  | .error _ => .error .mismatch

end Decode

end Highlight.Json
