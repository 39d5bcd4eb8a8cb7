import SqlTemplate.Expr.Fault

/-!
# Expressions and their values

An expression is a literal, a name, a step from a value to a property or an item of it, a
comparison, or a condition built with `not`, `and`, `or`. `Expr.eval` gives its value in a
**scope**, which says what each name stands for.

Operands are evaluated from left to right and always all of them, so a fault in any operand is a
fault of the whole. What is missing is null: a name without value, a property or key that a map does
not have, an item beyond the end of a sequence, and every property and item of null. Texts, bytes
and sequences have a size, and so has a map where it has no key of that name.
-/

namespace SqlTemplate

/-- What names stand for. -/
abbrev Scope := String → Option Value

/-- The scope of the properties of a value. -/
def Value.scope (value : Value) : Scope := fun name => value.get? name

/-- An expression. -/
inductive Expr where
  | literal (v : Value)
  | name (name : String)
  | property (e : Expr) (name : String)
  | item (e index : Expr)
  | compare (c : Comparison) (left right : Expr)
  | not (e : Expr)
  | and (left right : Expr)
  | or (left right : Expr)

/-! ## Steps into a value -/

namespace Value

/-- Whether a property asks for the size of a value. -/
def isSizeName (name : String) : Bool := name == "size" || name == "length"

/-- A size as a value. -/
def ofSize (n : Nat) : Value := int (Int64.ofNat n)

/-- How many items, characters, bytes or entries a value has. -/
def size? : Value → Option Nat
  | list items | array items => some items.length
  | text s => some s.length
  | bytes bs => some bs.length
  | map entries => some entries.length
  | _ => none

/-- The value of a property. -/
def property (name : String) : Value → Except Fault Value
  | null => .ok null
  | map entries =>
    match Keyed.get? name entries with
    | some v => .ok v
    | none => .ok (if isSizeName name then ofSize entries.length else null)
  | value =>
    match value.size? with
    | some n =>
      if isSizeName name then .ok (ofSize n) else .error (.noProperty name value.kind)
    | none => .error (.noProperty name value.kind)

/-- The item at a place of a sequence; null before its start and beyond its end. -/
def itemAt (items : List Value) (place : Int) : Value :=
  if place < 0 then null else items[place.toNat]?.getD null

/-- The item that an index leads to. -/
def item (value index : Value) : Except Fault Value :=
  match value, index with
  | null, _ => .ok null
  | list items, int n => .ok (itemAt items n.toInt)
  | array items, int n => .ok (itemAt items n.toInt)
  | map entries, text key => .ok ((Keyed.get? key entries).getD null)
  | _, _ => .error (.noIndex value.kind index.kind)

/-- Whether a comparison holds between two values. -/
def compare (c : Comparison) (left right : Value) : Except Fault Bool :=
  let ordering (holds : Ordering → Bool) : Except Fault Bool :=
    match compare? left right with
    | some order => .ok (holds order)
    | none => .error (.unordered left.kind right.kind)
  match c with
  | .eq => .ok (equal left right)
  | .ne => .ok !(equal left right)
  | .lt => ordering (· == .lt)
  | .le => ordering (· != .gt)
  | .gt => ordering (· == .gt)
  | .ge => ordering (· != .lt)

end Value

/-! ## Evaluation -/

namespace Expr

/-- The value of an expression in a scope. -/
def eval (scope : Scope) : Expr → Except Fault Value
  | literal v => .ok v
  | name n => .ok ((scope n).getD .null)
  | property e n => do (← e.eval scope).property n
  | item e index => do
    let value ← e.eval scope
    let index ← index.eval scope
    value.item index
  | compare c left right => do
    let left ← left.eval scope
    let right ← right.eval scope
    return .bool (← left.compare c right)
  | not e => do return .bool !(← e.eval scope).truthy
  | and left right => do
    let left ← left.eval scope
    let right ← right.eval scope
    return .bool (left.truthy && right.truthy)
  | or left right => do
    let left ← left.eval scope
    let right ← right.eval scope
    return .bool (left.truthy || right.truthy)

end Expr

end SqlTemplate
