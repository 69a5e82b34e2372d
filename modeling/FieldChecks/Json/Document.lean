import FieldChecks.Json.Reader
import FieldChecks.Value.Basic

/-!
# JSON documents

A document is a JSON text read as a whole. As a value to validate, a
document is what its outermost layer says: lists and objects are
sequences, an object as long as it has different keys.
-/

namespace FieldChecks.Json

/-- A JSON text as data. -/
inductive Document where
  | null
  | bool (b : Bool)
  | number (n : Number)
  | string (s : String)
  | list (items : List Document)
  | object (members : List (String × Document))

namespace Document

mutual

/-- Reads a document; brackets and their entries count against `budget`. -/
def readWithin : (budget : Nat) → Reader Document
  | 0 => Reader.fail .expectedValue
  | budget + 1 => do
    match ← Reader.peek with
    | none => Reader.failAtNext .endInValue
    | some 'n' => Reader.drop; Reader.letters ['u', 'l', 'l']; return .null
    | some 't' => Reader.drop; Reader.letters ['r', 'u', 'e']; return .bool true
    | some 'f' => Reader.drop; Reader.letters ['a', 'l', 's', 'e']; return .bool false
    | some '"' => Reader.drop; return .string (← Reader.stringBody)
    | some '-' => Reader.drop; return .number (← Reader.numberBody true)
    | some '[' =>
      Reader.drop
      let items ← readItems budget true
      Reader.endList
      return .list items
    | some '\x7b' =>
      Reader.drop
      let members ← readMembers budget true
      Reader.endObject
      return .object members
    | some c =>
      if isAsciiDigit c then return .number (← Reader.numberBody false)
      else Reader.failAtNext .expectedValue

/-- Reads the entries of a list. -/
def readItems : (budget : Nat) → (first : Bool) → Reader (List Document)
  | 0, _ => return []
  | budget + 1, first => do
    if ← Reader.hasEntry first then
      let item ← readWithin budget
      return item :: (← readItems budget false)
    else return []

/-- Reads the members of an object. -/
def readMembers : (budget : Nat) → (first : Bool) → Reader (List (String × Document))
  | 0, _ => return []
  | budget + 1, first => do
    match ← Reader.key? first with
    | none => return []
    | some key =>
      Reader.colon
      let value ← readWithin budget
      return (key, value) :: (← readMembers budget false)

end

/-- The document that a text writes. -/
def read (text : String) : Except Fault Document :=
  decode (readWithin (text.length + 1)) text

/-- The member of an object under a key; of several, the last one. -/
def member? (document : Document) (key : String) : Option Document :=
  match document with
  | .object members => members.reverse.lookup key
  | _ => none

end Document

/-- Whether an integer is one of 64 bits with sign. -/
def isSigned (n : Int) : Bool :=
  -(Nat.pow 2 63) ≤ n && n < Nat.pow 2 63

/-- A number as a value: an integer that has a sign if it fits, and else none. -/
def Number.toValue : Number → Value
  | .integer n => if isSigned n then .int (.ofInt n) else .uint (.ofNat n.toNat)
  | .float x => .float x

/-- A document as a value. -/
def Document.toValue : Document → Value
  | .null => .absent
  | .bool b => .bool b
  | .number n => n.toValue
  | .string s => .string s
  | .list items => .sequence items.length
  | .object members => .sequence (members.map Prod.fst).eraseDups.length

end FieldChecks.Json
