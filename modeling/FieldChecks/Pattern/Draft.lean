import FieldChecks.Pattern.ByteSequence

/-!
# Drafts of automata

An automaton that looks for the matches of an expression is made of
states, and its size is what they take: every state a fixed number of
bytes, and more for the arcs and branches that leave it. A draft lays an
automaton out state by state, keeps count, and breaks off once the size
goes beyond the limit. States have numbers in the order of layout.

Among the states of one set, equal ones are shared as far as a memo
remembers them: it has a slot for every remainder of a checksum, and a
state forgets the one that had its slot before.
-/

namespace FieldChecks.Pattern

/-! ## Memos -/

/-- Values by number, in the order of the binary digits of the numbers from the lowest one on. -/
inductive SlotMap (α : Type) where
  | empty
  | node (value : Option α) (even odd : SlotMap α)

namespace SlotMap

variable {α : Type}

/-- The value of a number. -/
def get? : SlotMap α → Nat → Option α
  | .empty, _ => none
  | .node value even odd, n =>
    if n == 0 then value else if n % 2 == 0 then even.get? (n / 2) else odd.get? (n / 2)

/-- The value, and the values behind it. -/
def parts : SlotMap α → Option α × SlotMap α × SlotMap α
  | .empty => (none, .empty, .empty)
  | .node value even odd => (value, even, odd)

/-- The map with a value for a number of at most as many binary digits as `digits` says. -/
def insert : (digits : Nat) → SlotMap α → Nat → α → SlotMap α
  | 0, map, _, new => .node (some new) map.parts.2.1 map.parts.2.2
  | digits + 1, map, n, new =>
    let (value, even, odd) := map.parts
    if n == 0 then .node (some new) even odd
    else if n % 2 == 0 then .node value (insert digits even (n / 2) new) odd
    else .node value even (insert digits odd (n / 2) new)

end SlotMap

/-- States by what identifies them. -/
structure Memo where
  /-- The number of slots. -/
  capacity : Nat
  slots : SlotMap (List Nat × Nat)

namespace Memo

/-- A memo that remembers nothing. -/
def ofCapacity (capacity : Nat) : Memo := ⟨capacity, .empty⟩

/-- The checksum of numbers: each is added without carry, and the sum multiplied. -/
def checksum (numbers : List Nat) : UInt64 :=
  numbers.foldl (fun sum n => (sum ^^^ n.toUInt64) * 1099511628211) 14695981039346656037

/-- The slot of what identifies a state. -/
def slot (memo : Memo) (identity : List Nat) : Nat :=
  (checksum identity).toNat % memo.capacity

/-- The state that is remembered. -/
def find? (memo : Memo) (identity : List Nat) : Option Nat :=
  match memo.slots.get? (memo.slot identity) with
  | some (found, state) => if found == identity then some state else none
  | none => none

/-- The memo with one more state. -/
def insert (memo : Memo) (identity : List Nat) (state : Nat) : Memo :=
  { memo with slots := memo.slots.insert 16 (memo.slot identity) (identity, state) }

end Memo

/-! ## Layout -/

/-- The number of bytes that an automaton may take. -/
def sizeLimit : Nat := 10485760

/-- What has been laid out of an automaton. -/
structure Draft where
  states : Nat
  /-- The bytes of arcs and branches. -/
  extra : Nat
  memo : Memo

/-- The size of what has been laid out. -/
def Draft.bytes (draft : Draft) : Nat :=
  32 * draft.states + draft.extra

/-- A step of layout, which may go beyond the limit. -/
abbrev Layout := StateT Draft Option

namespace Layout

/-- The step that takes a draft to another, unless that one is too large. -/
def extend {α : Type} (step : Draft → α × Draft) : Layout α := fun draft =>
  let (result, next) := step draft
  if next.bytes ≤ sizeLimit then some (result, next) else none

/-- Lays out a number of states, of which the first one has the number given back. -/
def states (count : Nat) : Layout Nat :=
  extend fun draft => (draft.states, { draft with states := draft.states + count })

/-- Adds bytes to the states laid out. -/
def grow (extra : Nat) : Layout Unit :=
  extend fun draft => ((), { draft with extra := draft.extra + extra })

/-- Lays out one state. -/
def state : Layout Nat := states 1

/-- Lays out a state of one character or more, by the number of its arcs. -/
def arcs (count : Nat) : Layout Nat := do
  grow (8 * count)
  state

/-- Adds branches to a state. -/
def branches (count : Nat) : Layout Unit :=
  grow (4 * count)

/-- The state that is identified by some numbers, laid out by a step unless it is remembered. -/
def shared (identity : List Nat) (layout : Layout Nat) : Layout Nat := do
  match (← get).memo.find? identity with
  | some state => return state
  | none =>
    let state ← layout
    modify fun draft => { draft with memo := draft.memo.insert identity state }
    return state

/-- Forgets the states remembered so far. -/
def forget (capacity : Nat) : Layout Unit :=
  modify fun draft => { draft with memo := .ofCapacity capacity }

end Layout

end FieldChecks.Pattern
