import SqlTemplate.Proofs.Expr.Scalar
import SqlTemplate.Proofs.Placeholder.Head
import SqlTemplate.Proofs.Schema.Path
import SqlTemplate.Statement.Basic

/-!
# What a schema says about values

A schema gives a path a type before any value is seen, and this type is shown with the parameter
that the path is bound to. It is right about the value where the two readings of the path take the
same steps.

**Theorem (`value_of_declared_type`).** Take a path of names, each with at most one index. Let
every index stand after a list, and every name of a size after the first name be declared an
integer. If the schema gives the path a type other than `any`, the path has a value in each
parameter that conforms to the schema, and the value conforms to that type; so does the value that a
placeholder with this path is bound to, next to the type.

A schema looks at no more than that a segment has an index: not at a second one, not at the number,
and hardly at what it stands after. Nor does it know that maps have a size. `wrong_types` has a path
for each.
-/

namespace SqlTemplate

/-! ## The placeholder of a path -/

namespace Segment

variable {first : Segment} {rest : List Segment}

theorem mem_pathChars (hfirst : first.IsPlain) (hrest : ∀ s ∈ rest, s.IsPlain) {c : Char}
    (hc : c ∈ pathChars first rest) :
    Token.continuesName c ∨ c = '[' ∨ c = ']' ∨ c = '.' := by
  have hplain {s : Segment} (hs : s.IsPlain) (hc : c ∈ s.toChars) :
      Token.continuesName c ∨ c = '[' ∨ c = ']' ∨ c = '.' := by
    rcases hs.mem_toChars hc with h | h | h
    · exact .inl h
    · exact .inr (.inl h)
    · exact .inr (.inr (.inl h))
  rcases List.mem_append.1 hc with hc | hc
  · exact hplain hfirst hc
  · obtain ⟨s, hs, hc⟩ := List.mem_flatMap.1 hc
    rcases List.mem_cons.1 hc with rfl | hc
    · exact .inr (.inr (.inr rfl))
    · exact hplain (hrest s hs) hc

/-- A path has neither a blank nor a character that ends a property. -/
theorem plain_of_mem_pathChars (hfirst : first.IsPlain) (hrest : ∀ s ∈ rest, s.IsPlain) {c : Char}
    (hc : c ∈ pathChars first rest) :
    Text.isBlank c = false ∧ Placeholder.endsProperty c = false := by
  rcases mem_pathChars hfirst hrest hc with h | rfl | rfl | rfl
  · exact ⟨Placeholder.isBlank_of_continuesName h, Placeholder.endsProperty_of_continuesName h⟩
  · decide
  · decide
  · decide

/-- The content of a placeholder that is a path is a property. -/
theorem parse_pathChars (hfirst : first.IsPlain) (hrest : ∀ s ∈ rest, s.IsPlain) :
    Placeholder.parse (String.ofList (pathChars first rest)) =
      .ok ⟨[(Placeholder.propertyKey, String.ofList (pathChars first rest))]⟩ := by
  obtain ⟨after, hafter⟩ : ∃ after, pathChars first rest = first.name.toList ++ after :=
    ⟨_, by rw [pathChars, toChars, List.append_assoc]⟩
  have hplain : ∀ c ∈ after, Text.isBlank c = false ∧ Placeholder.endsProperty c = false := by
    intro c hc
    exact plain_of_mem_pathChars hfirst hrest (hafter ▸ List.mem_append_right _ hc)
  have hproperty : after.takeWhile (!Placeholder.endsProperty ·) = after ∧
      after.dropWhile (!Placeholder.endsProperty ·) = [] := by
    rw [List.takeWhile_eq_self_iff, List.dropWhile_eq_nil_iff]
    have hnot : ∀ c ∈ after, (!Placeholder.endsProperty c) = true := by
      intro c hc
      rw [(hplain c hc).2]
      rfl
    exact ⟨hnot, hnot⟩
  have hblank : after.rdropWhile Text.isBlank = after := by
    rw [List.rdropWhile_eq_self_iff]
    intro hne
    rw [(hplain _ (List.getLast_mem hne)).1]
    exact Bool.false_ne_true
  rw [Placeholder.parse, String.toList_ofList, hafter,
    ← List.nil_append (first.name.toList ++ after),
    Placeholder.parseChars_of_name (List.forall_mem_nil _) hfirst.name.identifier,
    hproperty.2, Placeholder.propertyOf, hproperty.1, hblank]
  rfl

/-- The mapping of a placeholder that is a path. -/
theorem ofContent_pathChars (hfirst : first.IsPlain) (hrest : ∀ s ∈ rest, s.IsPlain)
    (schema : Option (Registry × String)) :
    let path := String.ofList (pathChars first rest)
    Mapping.ofContent schema path =
      .ok { property := some path, valueType := Mapping.declaredType? schema (some path) } := by
  intro path
  rw [Mapping.ofContent, parse_pathChars hfirst hrest]
  rfl

end Segment

/-! ## The value of a path -/

theorem Bindings.has_eq_false {bindings : Bindings} {name : String}
    (h : bindings.get? name = none) : bindings.has name = false := by
  rw [get?] at h
  split at h
  · cases h
  · next hne => simp [has, hne, Keyed.has, h]

/-- A property whose first name is not bound is the parameter itself or evaluated. -/
theorem Statement.value_of_free {engine : Engine} {bindings : Bindings} {m : Mapping}
    {path : String} {first : Segment} {rest : List Segment} (hmode : m.mode ≠ .output)
    (hexpression : m.expression = none) (hproperty : m.property = some path)
    (hpath : Segment.ofPath path = first :: rest) (hfree : bindings.get? first.name = none) :
    Statement.value engine bindings m =
      if bindings.parameter.isScalar then .ok bindings.parameter
      else engine.value path bindings.lookup := by
  rw [Statement.value, if_neg hmode, hexpression, hproperty]
  dsimp only
  rw [hpath, List.head?_cons, Option.map_some, Option.getD_some, Bindings.has_eq_false hfree]
  rfl

namespace Registry

variable {r : Registry} {root : String} {parameter : Value} {first : Segment}
  {rest : List Segment} {T : PropertyType}

/-- An object is a map or null. -/
theorem Conforms.eq_null (hv : r.Conforms (.object root) parameter) (h : parameter.isScalar) :
    parameter = .null := by
  cases hv with
  | null => rfl
  | object => cases h

/-- Where the schema and the evaluator agree, a path has a value of its type wherever its first name
stands for the property of the parameter. -/
theorem evalText_of_typeOf? (hparameter : r.Conforms (.object root) parameter)
    (hfirst : first.IsPlain) (hrest : ∀ s ∈ rest, s.IsPlain)
    (hlists : r.IndexesLists (.object root) (first :: rest))
    (hsizes : ∀ before s after, rest = before ++ s :: after → s.name ∈ Value.sizeWords →
      r.declared? (.object root) (first :: before) s = some .int)
    (htype : r.typeOf? root (String.ofList (Segment.pathChars first rest)) = some T)
    (hT : T ≠ .any) {scope : Scope} (hscope : scope first.name = parameter.get? first.name) :
    ∃ v, Expr.evalText (String.ofList (Segment.pathChars first rest)) scope = .ok v ∧
      r.Conforms T v := by
  have hobject : PropertyType.object root ≠ .any := nofun
  rw [typeOf?, Segment.ofPath_pathChars hfirst hrest] at htype
  cases hnext : r.propertyOf? (.object root) first.name with
  | none =>
    rw [follow?, if_neg hobject, hnext] at htype
    cases htype
  | some next =>
    rw [follow?_cons hobject hnext] at htype
    obtain ⟨x, hx, hxnext⟩ :=
      (hparameter.get? hnext).itemOf (hlists.head hobject hnext)
    have hsizes' : r.SizesAreInts (first.typeOf next) rest := by
      intro before s after heq hs
      rw [← declared?_cons hobject hnext]
      exact hsizes before s after heq hs
    obtain ⟨v, hv, hconforms⟩ :=
      conforms_of_follow? hxnext htype hT (hlists.tail hobject hnext) hsizes'
    refine ⟨v, ?_, hconforms⟩
    rw [Segment.evalText_pathChars hfirst hrest, hscope, hx]
    exact hv

/-- **The declared type of a path is the type of its value.** -/
theorem value_of_declared_type (hparameter : r.Conforms (.object root) parameter)
    (hfirst : first.IsPlain) (hrest : ∀ s ∈ rest, s.IsPlain)
    (hlists : r.IndexesLists (.object root) (first :: rest))
    (hsizes : ∀ before s after, rest = before ++ s :: after → s.name ∈ Value.sizeWords →
      r.declared? (.object root) (first :: before) s = some .int)
    (htype : r.typeOf? root (String.ofList (Segment.pathChars first rest)) = some T)
    (hT : T ≠ .any) :
    let path := String.ofList (Segment.pathChars first rest)
    (∃ v, Engine.paths path parameter.scope = .ok v ∧ r.Conforms T v) ∧
      ∀ bindings : Bindings, bindings.parameter = parameter → bindings.get? first.name = none →
        ∃ m v, Mapping.ofContent (some (r, root)) path = .ok m ∧
          m.property = some path ∧ m.valueType = some T.toText ∧
          Statement.value Engine.paths bindings m = .ok v ∧ r.Conforms T v := by
  intro path
  have heval (scope : Scope) (hscope : scope first.name = parameter.get? first.name) :
      ∃ v, Expr.evalText path scope = .ok v ∧ r.Conforms T v :=
    evalText_of_typeOf? hparameter hfirst hrest hlists hsizes htype hT hscope
  refine ⟨?_, fun bindings hbindings hfree => ?_⟩
  · obtain ⟨v, hv, hconforms⟩ := heval parameter.scope rfl
    refine ⟨v, ?_, hconforms⟩
    rw [Engine.paths, hv]
  · have hmapping := Segment.ofContent_pathChars hfirst hrest (some (r, root))
    have hdeclared : Mapping.declaredType? (some (r, root)) (some path) = some T.toText := by
      simp only [Mapping.declaredType?, bind, Option.bind, path, htype]
      rfl
    obtain ⟨v, hv, hconforms⟩ : ∃ v, Statement.value Engine.paths bindings
        { property := some path, valueType := Mapping.declaredType? (some (r, root)) (some path) } =
          .ok v ∧ r.Conforms T v := by
      have hmode : Mode.input ≠ .output := by decide
      rw [Statement.value_of_free hmode rfl rfl (Segment.ofPath_pathChars hfirst hrest) hfree]
      split
      · next hscalar =>
        rw [hbindings] at hscalar ⊢
        rw [hparameter.eq_null hscalar]
        exact ⟨.null, rfl, .null⟩
      · have hscope : bindings.lookup first.name = parameter.get? first.name := by
          rw [Bindings.lookup, hfree, hbindings]
          rfl
        obtain ⟨v, hv, hconforms⟩ := heval bindings.lookup hscope
        exact ⟨v, Engine.value_paths_eq_ok.2 hv, hconforms⟩
    exact ⟨_, v, hmapping, rfl, hdeclared, hv, hconforms⟩

/-- A property that is named like a size, where a map does not have it. -/
theorem value_of_declared_size :
    let r := (Registry.empty.register
      ⟨"Order", [("lines", .list (.object "Line"))]⟩).register ⟨"Line", [("size", .int)]⟩
    let parameter : Value := .map [("lines", .list [.null, .map [("name", .text "a")]])]
    r.Conforms (.object "Order") parameter ∧
      r.typeOf? "Order" "lines[1].size" = some .int ∧
      (∃ v, Engine.paths "lines[1].size" parameter.scope = .ok v ∧ r.Conforms .int v) ∧
      ∃ m v, Mapping.ofContent (some (r, "Order")) "lines[1].size" = .ok m ∧
        m.valueType = some "int" ∧
        Statement.value Engine.paths (.ofParameter parameter) m = .ok v ∧ r.Conforms .int v := by
  intro r parameter
  have hline : r.Conforms (.object "Line") (.map [("name", .text "a")]) := by
    refine .object rfl fun property type htype v hv => ?_
    rcases List.mem_singleton.1 (Keyed.mem_of_get? hv) with ⟨rfl, rfl⟩
    cases htype
  have hparameter : r.Conforms (.object "Order") parameter := by
    refine .object rfl fun property type htype v hv => ?_
    rcases List.mem_singleton.1 (Keyed.mem_of_get? hv) with ⟨rfl, rfl⟩
    cases htype
    exact .list (List.forall_mem_cons.2 ⟨.null, List.forall_mem_singleton.2 hline⟩)
  have hdigits : "1".toList.all Char.isDigit := by decide
  have hfirst : Segment.IsPlain ⟨"lines", some "1"⟩ := by
    refine ⟨⟨by decide, by decide, by decide⟩, ?_, ?_⟩
    · rintro index ⟨⟩
      exact ⟨by decide, List.all_eq_true.1 hdigits⟩
    · rintro index ⟨⟩
      decide
  have hsize : Segment.IsPlain ⟨"size", none⟩ :=
    ⟨⟨by decide, by decide, by decide⟩, nofun, nofun⟩
  have htype : r.typeOf? "Order" "lines[1].size" = some .int := by decide
  have hpath : String.ofList (Segment.pathChars ⟨"lines", some "1"⟩ [⟨"size", none⟩]) =
      "lines[1].size" := by decide
  have hlists : r.IndexesLists (.object "Order") [⟨"lines", some "1"⟩, ⟨"size", none⟩] := by
    rintro (_ | ⟨_, _ | ⟨_, _⟩⟩) s after heq hs
    · cases heq
      exact ⟨_, rfl⟩
    · cases heq
      cases hs
    · simp at heq
  have hsizes : ∀ before s after, [⟨"size", none⟩] = before ++ s :: after →
      s.name ∈ Value.sizeWords →
      r.declared? (.object "Order") (⟨"lines", some "1"⟩ :: before) s = some .int := by
    rintro (_ | ⟨_, _⟩) s after heq -
    · cases heq
      rfl
    · simp at heq
  have hdeclared := value_of_declared_type hparameter hfirst (List.forall_mem_singleton.2 hsize)
    hlists hsizes (hpath ▸ htype) (by decide)
  rw [hpath] at hdeclared
  obtain ⟨hvalue, hbound⟩ := hdeclared
  obtain ⟨m, v, hm, -, hm', hv, hconforms⟩ := hbound (.ofParameter parameter) rfl (by decide)
  exact ⟨hparameter, htype, hvalue, m, v, hm, hm', hv, hconforms⟩

/-- **What a schema does not look at.** For these paths it gives types that the values in this
parameter do not have, or types where there is no value. -/
theorem wrong_types :
    let r := Registry.empty.register ⟨"R",
      [("l", .list .int), ("m", .list (.list .int)), ("n", .int), ("o", .object "R"),
        ("size", .text), ("t", .map .text)]⟩
    let parameter : Value := .map [("l", .list [.int 5]), ("m", .list [.list [.int 5]]),
      ("n", .int 5), ("o", .map []), ("t", .map [("k", .text "v")])]
    r.Conforms (.object "R") parameter ∧
      ∀ c ∈ [("m[0][0]", PropertyType.list .int), ("t[0]", .text), ("n[0]", .int),
          ("o[0]", .object "R"), ("t.size", .text), ("o.size", .text),
          ("l[9223372036854775808]", .int)],
        r.typeOf? "R" c.1 = some c.2 ∧
          ¬ ∃ v, Engine.paths c.1 parameter.scope = .ok v ∧ r.Conforms c.2 v := by
  intro r parameter
  have hnumbers : ∀ v ∈ [Value.int 5], r.Conforms .int v := List.forall_mem_singleton.2 .int
  have hparameter : r.Conforms (.object "R") parameter := by
    refine .object rfl fun property type htype v hv => ?_
    have hmem := Keyed.mem_of_get? hv
    simp only [List.mem_cons, List.not_mem_nil, or_false, Prod.mk.injEq] at hmem
    rcases hmem with ⟨rfl, rfl⟩ | ⟨rfl, rfl⟩ | ⟨rfl, rfl⟩ | ⟨rfl, rfl⟩ | ⟨rfl, rfl⟩
    · cases htype; exact .list hnumbers
    · cases htype; exact .list (List.forall_mem_singleton.2 (.list hnumbers))
    · cases htype; exact .int
    · cases htype; exact .object rfl nofun
    · cases htype; exact .map (List.forall_mem_singleton.2 .text)
  have hvalue (path : String) (kind : Option Kind) {T : PropertyType}
      (hkind : (Engine.paths path parameter.scope).toOption.map Value.kind = kind)
      (h : ∀ v, r.Conforms T v → some v.kind ≠ kind) :
      ¬ ∃ v, Engine.paths path parameter.scope = .ok v ∧ r.Conforms T v := by
    rintro ⟨v, hv, hconforms⟩
    rw [hv] at hkind
    exact h v hconforms hkind
  refine ⟨hparameter, ?_⟩
  simp only [List.forall_mem_cons, List.not_mem_nil, false_implies, implies_true, and_true]
  refine ⟨⟨by decide, ?_⟩, ⟨by decide, ?_⟩, ⟨by decide, ?_⟩, ⟨by decide, ?_⟩, ⟨by decide, ?_⟩,
    ⟨by decide, ?_⟩, ⟨by decide, ?_⟩⟩
  -- A second index takes a second step.
  · exact hvalue "m[0][0]" (some .int) (by decide +kernel) fun v hv => by cases hv <;> nofun
  -- Maps and objects have keys and no places, and single values have neither.
  · exact hvalue "t[0]" none (by decide +kernel) nofun
  · exact hvalue "n[0]" none (by decide +kernel) nofun
  · exact hvalue "o[0]" none (by decide +kernel) nofun
  -- A map without the key gives its size.
  · exact hvalue "t.size" (some .int) (by decide +kernel) fun v hv => by cases hv <;> nofun
  · exact hvalue "o.size" (some .int) (by decide +kernel) fun v hv => by cases hv <;> nofun
  -- A number beyond 63 bits is a decimal and no place.
  · exact hvalue "l[9223372036854775808]" none (by decide +kernel) nofun

end Registry

end SqlTemplate
