import SqlTemplate.Value.Basic

/-!
# Values from plain data

`ToValue` is the class of types whose elements can be taken as values. Sequences that can grow
become lists, vectors of a fixed size become arrays. An integer without sign that does not fit
64 bits with sign becomes a decimal.
-/

namespace SqlTemplate

/-- Types whose elements can be taken as values. -/
class ToValue (α : Type) where
  /-- The value of an element. -/
  toValue : α → Value

export ToValue (toValue)

instance : ToValue Value := ⟨id⟩

instance : ToValue Bool := ⟨.bool⟩

instance : ToValue Int64 := ⟨.int⟩

instance : ToValue Int32 := ⟨fun n => .int n.toInt64⟩

instance : ToValue UInt32 := ⟨fun n => .int (Int64.ofNat n.toNat)⟩

instance : ToValue UInt64 := ⟨fun n =>
  if n.toNat < 0x8000000000000000 then .int (Int64.ofNat n.toNat)
  else .decimal (Decimal.ofInt n.toNat)⟩

instance : ToValue Float := ⟨.float⟩

instance : ToValue Decimal := ⟨.decimal⟩

instance : ToValue String := ⟨.text⟩

instance {α : Type} [ToValue α] : ToValue (Option α) := ⟨fun x => (x.map toValue).getD .null⟩

instance {α : Type} [ToValue α] : ToValue (List α) := ⟨fun xs => .list (xs.map toValue)⟩

instance {α : Type} [ToValue α] : ToValue (Array α) := ⟨fun xs => .list (xs.toList.map toValue)⟩

instance {α : Type} {n : Nat} [ToValue α] : ToValue (Vector α n) :=
  ⟨fun xs => .array (xs.toList.map toValue)⟩

/-- A map with these entries; of several entries for a key the last one counts. -/
def Value.ofEntries {α : Type} [ToValue α] (entries : List (String × α)) : Value :=
  .map (Keyed.ofList (entries.map fun (key, x) => (key, toValue x)))

end SqlTemplate
