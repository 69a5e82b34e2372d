import FieldChecks.Json.Reader

/-!
# Records in JSON

A record is written as an object with a key for each field, or as a list
of the fields in their order. Unknown keys of an object are read over,
and no field may be given twice. What a missing field means is up to the
record.
-/

namespace FieldChecks.Json

/-- A field of a record that is being read: its key, and how its value goes into the record. -/
structure RecordField (σ : Type) where
  name : String
  read : σ → Reader σ

/-- How records of a type are read: the words for them in messages, the state of reading that
the fields fill, what a state makes once an object has ended, and the problem of a list of too
few fields, if it is one. -/
structure RecordShape (σ α : Type) where
  expected : String
  fields : List (RecordField σ)
  start : σ
  complete : σ → Except Problem α
  tooShort : Nat → Option Problem

namespace RecordShape

variable {σ α : Type}

/-- Reads the entries of an object, at most `most`. -/
def members (shape : RecordShape σ α) :
    (most : Nat) → (first : Bool) → (seen : List String) → σ → Reader σ
  | 0, _, _, state => return state
  | most + 1, first, seen, state => do
    match ← Reader.key? first with
    | none => return state
    | some key => match shape.fields.find? (·.name == key) with
      | none =>
        Reader.colon
        Reader.ignored
        members shape most false seen state
      | some field =>
        if seen.contains key then Reader.failPastEnd .object (.duplicateField key)
        else
          Reader.colon
          let state ← field.read state
          members shape most false (key :: seen) state

/-- Reads the fields of a list, `count` of which have been read. -/
def items (shape : RecordShape σ α) : (count : Nat) → List (RecordField σ) → σ → Reader σ
  | _, [], state => return state
  | count, field :: fields, state => do
    if ← Reader.hasEntry (count == 0) then
      let state ← field.read state
      items shape (count + 1) fields state
    else match shape.tooShort count with
      | some problem => Reader.failPastEnd .list problem
      | none => return state

/-- What a state makes once a bracket is about to end. -/
def completeAt (shape : RecordShape σ α) (bracket : Bracket) (state : σ) : Reader α :=
  match shape.complete state with
  | .ok a => return a
  | .error problem => Reader.failPastEnd bracket problem

/-- Reads a record. -/
def read (shape : RecordShape σ α) : Reader α := do
  match ← Reader.peek with
  | none => Reader.failAtNext .endInValue
  | some '[' =>
    Reader.drop
    let state ← shape.items 0 shape.fields shape.start
    let a ← shape.completeAt .list state
    Reader.endList
    return a
  | some '\x7b' =>
    Reader.drop
    let state ← shape.members ((← get).length + 1) true [] shape.start
    let a ← shape.completeAt .object state
    Reader.endObject
    return a
  | some _ => Reader.mistaken shape.expected

end RecordShape

end FieldChecks.Json
