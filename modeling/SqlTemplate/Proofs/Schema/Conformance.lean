import SqlTemplate.Proofs.Expr.Meaning
import SqlTemplate.Schema.Path
import SqlTemplate.Schema.Registry

/-!
# Values of declared types

A value **conforms** to a type if it is null, of the kind that the type names, or anything where the
type is `any`; the items of a list, the values of a map and the declared properties of an object
conform in turn.

A schema follows the segments of a path through types, an expression follows them through values.
One step of the two agrees where an index stands after a list, and where a property named like a
size is an integer: a map that has no such property gives its own size.

**Theorem (`conforms_of_follow?`).** Where each step agrees, the segments lead from a value of a
type to a value of the type that the schema says, unless this is `any`.
-/

namespace SqlTemplate

/-- The values of a type. -/
inductive Registry.Conforms (r : Registry) : PropertyType → Value → Prop
  | null {type : PropertyType} : Conforms r type .null
  | any {v : Value} : Conforms r .any v
  | bool {b : Bool} : Conforms r .bool (.bool b)
  | int {n : Int64} : Conforms r .int (.int n)
  | float {x : Float} : Conforms r .float (.float x)
  | decimal {d : Decimal} : Conforms r .decimal (.decimal d)
  | text {s : String} : Conforms r .text (.text s)
  | bytes {bs : List UInt8} : Conforms r .bytes (.bytes bs)
  | list {item : PropertyType} {items : List Value} (h : ∀ v ∈ items, Conforms r item v) :
      Conforms r (.list item) (.list items)
  | array {item : PropertyType} {items : List Value} (h : ∀ v ∈ items, Conforms r item v) :
      Conforms r (.list item) (.array items)
  | map {value : PropertyType} {entries : List (String × Value)}
      (h : ∀ entry ∈ entries, Conforms r value entry.2) : Conforms r (.map value) (.map entries)
  | object {name : String} {d : Descriptor} {entries : List (String × Value)}
      (hd : r.descriptor? name = some d)
      (h : ∀ property type, d.typeOf? property = some type →
        ∀ v, Keyed.get? property entries = some v → Conforms r type v) :
      Conforms r (.object name) (.map entries)

/-! ## Steps into a value -/

namespace Segment

/-- The place that an index of digits stands for. -/
def place (index : String) : Int64 := Int64.ofNat (Nat.ofDigitChars 10 index.toList 0)

/-- The item that the index of a segment leads to, if it has one. -/
def itemOf (s : Segment) (v : Value) : Except Fault Value :=
  match s.index with
  | none => .ok v
  | some index => v.item (.int (place index))

/-- What a segment leads to. -/
def stepInto (v : Value) (s : Segment) : Except Fault Value := do
  s.itemOf (← v.property s.name)

/-- The type that a segment leads to, from the type of its property. -/
def typeOf (s : Segment) (type : PropertyType) : PropertyType :=
  if s.index.isSome then type.indexed else type

end Segment

namespace Registry

variable {r : Registry} {type next T : PropertyType} {v : Value} {name : String} {s : Segment}
  {before segments rest : List Segment}

/-! ## Following types -/

theorem follow?_any (r : Registry) (segments : List Segment) :
    r.follow? .any segments = some .any := by
  cases segments with
  | nil => rfl
  | cons s rest => rw [follow?, if_pos rfl]

theorem follow?_cons (h : type ≠ .any) (hnext : r.propertyOf? type s.name = some next) :
    r.follow? type (s :: rest) = r.follow? (s.typeOf next) rest := by
  rw [follow?, if_neg h, hnext]
  rfl

/-- The type of the property that a segment names, where its index is left aside; the segments
before it lead there from `type`. -/
def declared? (r : Registry) (type : PropertyType) (before : List Segment) (s : Segment) :
    Option PropertyType := r.follow? type (before ++ [⟨s.name, none⟩])

theorem declared?_nil (h : type ≠ .any) : r.declared? type [] s = r.propertyOf? type s.name := by
  rw [declared?, List.nil_append, follow?, if_neg h]
  cases r.propertyOf? type s.name <;> rfl

theorem declared?_cons (h : type ≠ .any) (hnext : r.propertyOf? type s.name = some next)
    (s' : Segment) :
    r.declared? type (s :: before) s' = r.declared? (s.typeOf next) before s' :=
  follow?_cons h hnext

/-- Every index stands after a list. -/
def IndexesLists (r : Registry) (type : PropertyType) (segments : List Segment) : Prop :=
  ∀ before s after, segments = before ++ s :: after → s.index.isSome →
    ∃ item, r.declared? type before s = some (.list item)

/-- Every property named like a size is an integer. -/
def SizesAreInts (r : Registry) (type : PropertyType) (segments : List Segment) : Prop :=
  ∀ before s after, segments = before ++ s :: after → s.name ∈ Value.sizeWords →
    r.declared? type before s = some .int

section cons

variable (htype : type ≠ .any) (hnext : r.propertyOf? type s.name = some next)

include htype hnext

theorem IndexesLists.head (h : r.IndexesLists type (s :: rest)) (hs : s.index.isSome) :
    ∃ item, next = .list item := by
  obtain ⟨item, hitem⟩ := h [] s rest rfl hs
  rw [declared?_nil htype, hnext] at hitem
  exact ⟨item, Option.some.inj hitem⟩

theorem IndexesLists.tail (h : r.IndexesLists type (s :: rest)) :
    r.IndexesLists (s.typeOf next) rest := by
  intro before s' after heq hs'
  rw [← declared?_cons htype hnext]
  exact h (s :: before) s' after (by rw [heq, List.cons_append]) hs'

theorem SizesAreInts.head (h : r.SizesAreInts type (s :: rest))
    (hs : s.name ∈ Value.sizeWords) : next = .int := by
  have hint := h [] s rest rfl hs
  rw [declared?_nil htype, hnext] at hint
  exact Option.some.inj hint

theorem SizesAreInts.tail (h : r.SizesAreInts type (s :: rest)) :
    r.SizesAreInts (s.typeOf next) rest := by
  intro before s' after heq hs'
  rw [← declared?_cons htype hnext]
  exact h (s :: before) s' after (by rw [heq, List.cons_append]) hs'

end cons

/-! ## One step -/

/-- A value that has properties is null, or a map whose entries conform where they are declared. -/
theorem Conforms.entries (hv : r.Conforms type v) (hnext : r.propertyOf? type name = some next) :
    v = .null ∨ ∃ entries, v = .map entries ∧
      ∀ w, Keyed.get? name entries = some w → r.Conforms next w := by
  cases hv with
  | null => exact .inl rfl
  | map h =>
    cases hnext
    exact .inr ⟨_, rfl, fun w hw => h _ (Keyed.mem_of_get? hw)⟩
  | object hd h =>
    rw [propertyOf?, hd] at hnext
    exact .inr ⟨_, rfl, h name next hnext⟩
  | _ => cases hnext

/-- What a value has under a name conforms to the type of that property. -/
theorem Conforms.get? (hv : r.Conforms type v) (hnext : r.propertyOf? type name = some next) :
    r.Conforms next ((v.get? name).getD .null) := by
  rcases hv.entries hnext with rfl | ⟨entries, rfl, hentries⟩
  · exact .null
  · rw [Value.get?]
    cases hget : Keyed.get? name entries with
    | none => exact .null
    | some w => exact hentries w hget

/-- A property conforms to its type, and so does a size in the place of an integer. -/
theorem Conforms.property (hv : r.Conforms type v) (hnext : r.propertyOf? type name = some next)
    (hsize : name ∈ Value.sizeWords → next = .int) :
    ∃ w, v.property name = .ok w ∧ r.Conforms next w := by
  rcases hv.entries hnext with rfl | ⟨entries, rfl, hentries⟩
  · exact ⟨.null, rfl, .null⟩
  · cases hget : Keyed.get? name entries with
    | some w => exact ⟨w, Value.property_eq_ok_iff.2 (.entry hget), hentries w hget⟩
    | none =>
      by_cases hname : name ∈ Value.sizeWords
      · refine ⟨_, Value.property_eq_ok_iff.2 (.size hget hname rfl), ?_⟩
        rw [hsize hname]
        exact .int
      · exact ⟨.null, Value.property_eq_ok_iff.2 (.noEntry hget hname), .null⟩

/-- An item of a list conforms to the type of its items. -/
theorem Conforms.item {item : PropertyType} (hv : r.Conforms (.list item) v) (n : Int64) :
    ∃ w, v.item (.int n) = .ok w ∧ r.Conforms item w := by
  have hplace {items : List Value} (h : ∀ v ∈ items, r.Conforms item v) :
      r.Conforms item (Value.itemAt items n.toInt) := by
    rw [Value.itemAt]
    split
    · exact .null
    · cases hget : items[n.toInt.toNat]? with
      | none => exact .null
      | some w => exact h w (List.mem_of_getElem? hget)
  cases hv with
  | null => exact ⟨.null, rfl, .null⟩
  | list h => exact ⟨_, rfl, hplace h⟩
  | array h => exact ⟨_, rfl, hplace h⟩

theorem Conforms.itemOf (hv : r.Conforms next v)
    (hindex : s.index.isSome → ∃ item, next = .list item) :
    ∃ w, s.itemOf v = .ok w ∧ r.Conforms (s.typeOf next) w := by
  obtain ⟨name, index⟩ := s
  cases index with
  | none => exact ⟨v, rfl, hv⟩
  | some index =>
    obtain ⟨item, rfl⟩ := hindex rfl
    exact hv.item _

/-! ## A path -/

/-- **The segments of a path lead to a value of the declared type.** -/
theorem conforms_of_follow? (hv : r.Conforms type v)
    (hfollow : r.follow? type segments = some T) (hT : T ≠ .any)
    (hlists : r.IndexesLists type segments) (hsizes : r.SizesAreInts type segments) :
    ∃ w, segments.foldlM Segment.stepInto v = .ok w ∧ r.Conforms T w := by
  induction segments generalizing type v with
  | nil =>
    cases hfollow
    exact ⟨v, rfl, hv⟩
  | cons s rest ih =>
    have htype : type ≠ .any := by
      rintro rfl
      rw [follow?_any] at hfollow
      exact hT (Option.some.inj hfollow).symm
    cases hnext : r.propertyOf? type s.name with
    | none =>
      rw [follow?, if_neg htype, hnext] at hfollow
      cases hfollow
    | some next =>
      rw [follow?_cons htype hnext] at hfollow
      obtain ⟨x, hx, hxnext⟩ := hv.property hnext (hsizes.head htype hnext)
      obtain ⟨y, hy, hynext⟩ := hxnext.itemOf (hlists.head htype hnext)
      have hstep : Segment.stepInto v s = .ok y := bind_eq_ok_iff.2 ⟨x, hx, hy⟩
      rw [List.foldlM_cons, hstep]
      exact ih hynext hfollow (hlists.tail htype hnext) (hsizes.tail htype hnext)

end Registry

end SqlTemplate
