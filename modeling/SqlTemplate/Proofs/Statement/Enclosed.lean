import SqlTemplate.Proofs.Expr.Parenthesis
import SqlTemplate.Proofs.Span.Escaping
import SqlTemplate.Proofs.Statement.Attribute
import SqlTemplate.Statement.Basic

/-!
# Expressions in placeholders

An expression in parentheses is a placeholder for its value, provided that it closes its own
parentheses. A placeholder knows no quotes: a parenthesis in a quoted text counts like any other.

**Theorem (`enclosed_expression`).** The placeholder of an expression has this expression exactly if
the expression closes its own parentheses, those in its quoted texts counted. An expression that
parses does so if each of its quoted texts does. The placeholder is then bound to the value of the
expression.
-/

namespace SqlTemplate.Placeholder

open Text

/-- An expression in parentheses. -/
def enclosed (e : String) : String := "(" ++ e ++ ")"

/-- A placeholder for an expression, with a backslash before each closing brace. -/
def enclosedSql (e : String) : String :=
  Markers.placeholder.enclose
    (String.ofList (Markers.placeholder.closing.escape (enclosed e).toList))

variable {e : String}

/-! ## The content -/

theorem toList_enclosed (e : String) : (enclosed e).toList = '(' :: (e.toList ++ [')']) := by
  simp [enclosed]

theorem parse_enclosed (h : Closes 0 e.toList) :
    parse (enclosed e) = .ok ⟨[(expressionKey, e)]⟩ := by
  let w : Written := ⟨.expression e.toList, .empty, none, [], none⟩
  have hw : w.WellFormed := ⟨.inl h, nofun, nofun, nofun⟩
  have hchars : w.toChars = (enclosed e).toList := by
    simp [w, toList_enclosed, Written.toChars, Written.typeChars, Written.tailChars,
      Padding.around, Padding.empty, Head.toChars]
  refine parse_eq_ok_iff.2 ⟨⟨'(', by simp [toList_enclosed], by decide⟩, w, hw, hchars, ?_⟩
  rw [Written.entries, Head.text, String.ofList_toList]
  rfl

/-- A name and a value stand in the text with an equals sign between and a comma before. -/
theorem Written.length_entry {w : Written} {a : List Char × List Char} (h : a ∈ w.attributes) :
    (entry a).1.length + (entry a).2.length + 2 ≤ w.toChars.length := by
  obtain ⟨before, after, hattributes⟩ := List.append_of_mem h
  have hname := (trimBlanks_isInfix a.1).length_le
  have hvalue := (trimBlanks_isInfix a.2).length_le
  simp only [toChars, tailChars, hattributes, entry, trimmed, String.length_ofList,
    List.flatMap_append, List.flatMap_cons, List.length_append, List.length_cons]
  omega

/-- No attribute in the place of the expression can be the whole expression. -/
theorem closes_of_expression? {ph : Placeholder} (hparse : parse (enclosed e) = .ok ph)
    (h : ph.expression? = some e) : Closes 0 e.toList := by
  obtain ⟨-, w, hw, hchars, rfl⟩ := parse_eq_ok_iff.1 hparse
  have htable : TableOf w.entries (⟨putAll [] w.entries⟩ : Placeholder).entries :=
    tableOf_putAll w.entries
  rw [expression?, htable.get?_eq (by decide), Option.or_eq_some_iff] at h
  rcases h with h | ⟨-, h⟩
  · obtain ⟨before, after, hsplit, -⟩ := List.lookup_eq_some_iff.1 h
    have hmem : (expressionKey, e) ∈ (w.attributes.map Written.entry).reverse := by
      rw [hsplit]
      exact List.mem_append_right _ List.mem_cons_self
    obtain ⟨a, ha, hentry⟩ := List.mem_map.1 (List.mem_reverse.1 hmem)
    -- The name of the attribute is longer than the two parentheses.
    have hlength := Written.length_entry ha
    have hkey : expressionKey.length = 10 := by decide
    rw [hentry, hchars, toList_enclosed, hkey] at hlength
    simp only [List.length_cons, List.length_append, List.length_nil, String.length_toList]
      at hlength
    omega
  · obtain ⟨hkey, htext⟩ := Option.ite_none_right_eq_some.1 h
    have hhead := hw.head
    cases hw' : w.head with
    | property path =>
      rw [hw'] at hkey
      exact absurd (show expressionKey = propertyKey from hkey) (by decide)
    | expression text =>
      rw [hw', Head.text] at htext
      rw [hw'] at hhead
      rcases hhead with hplain | heq
      · rw [← Option.some.inj htext, String.toList_ofList]
        exact hplain
      · cases heq

/-! ## The placeholder in a statement -/

/-- A placeholder alone is cut into its content. -/
theorem split_enclosedSql (e : String) :
    Markers.placeholder.split (enclosedSql e) = ⟨[⟨[], (enclosed e).toList⟩], some []⟩ := by
  have hunescaped : Split.Unescaped ⟨[⟨[], (enclosed e).toList⟩], some []⟩ := by
    refine ⟨List.forall_mem_singleton.2 nofun, List.forall_mem_singleton.2 ?_, rfl⟩
    dsimp only
    rw [toList_enclosed, ← List.cons_append, List.getLast?_concat]
    decide
  have hchars : (enclosedSql e).toList = (Split.escape .placeholder
      ⟨[⟨[], (enclosed e).toList⟩], some []⟩).toChars .placeholder := by
    simp [enclosedSql, Markers.enclose, Split.escape, Split.toChars, Marker.escape]
  rw [Markers.split, hchars]
  exact Split.ofChars_escape (show '#' ≠ '\x7b' by decide) (by decide) hunescaped

/-- The placeholder of an expression in a statement, where shrinking leaves it as it is. -/
theorem ofSql_enclosedSql (h : Closes 0 e.toList) (schema : Option (Registry × String))
    {shrink : Bool} (hshrink : shrink → collapse (enclosedSql e).toList = (enclosedSql e).toList) :
    Prepared.ofSql schema shrink (enclosedSql e) = .ok ⟨"?", [{ expression := some e }]⟩ := by
  have hmapping : Mapping.ofContent schema (enclosed e) = .ok { expression := some e } := by
    rw [Mapping.ofContent, parse_enclosed h]
    cases schema <;> rfl
  have hmappings : (Markers.placeholder.split (enclosedSql e)).contents.mapM
      (Mapping.ofContent schema) = .ok [{ expression := some e }] := by
    rw [split_enclosedSql, Split.contents, List.map_singleton, String.ofList_toList,
      List.mapM_cons, hmapping]
    rfl
  have hsql : (if shrink then String.ofList (collapse (enclosedSql e).toList) else enclosedSql e) =
      enclosedSql e := by
    split
    · next hon => rw [hshrink hon, String.ofList_toList]
    · rfl
  rw [Prepared.ofSql, hsql, hmappings, split_enclosedSql]
  rfl

/-- **Expressions in placeholders.** Let an expression parse. In parentheses it is the expression of
a placeholder exactly if it closes its own parentheses, those in its quoted texts counted. It does
so if each of its quoted texts closes its own. Then the placeholder has nothing but this expression,
and a statement takes for its question mark what the engine makes of the expression. -/
theorem enclosed_expression {tokens : List Token} {x : Expr} (htokens : Token.ofText e = .ok tokens)
    (hparse : Expr.parse tokens = .ok x) :
    ((∃ ph, parse (enclosed e) = .ok ph ∧ ph.expression? = some e) ↔ Closes 0 e.toList) ∧
      ((∀ s, .text s ∈ tokens → Closes 0 s.toList) → Closes 0 e.toList) ∧
      (Closes 0 e.toList →
        parse (enclosed e) = .ok ⟨[(expressionKey, e)]⟩ ∧
        ∃ m, (∀ schema (shrink : Bool),
            (shrink → collapse (enclosedSql e).toList = (enclosedSql e).toList) →
            Prepared.ofSql schema shrink (enclosedSql e) = .ok ⟨"?", [m]⟩) ∧
          ∀ (engine : Engine) (bindings : Bindings),
            Statement.value engine bindings m = engine.value e bindings.lookup) := by
  refine ⟨⟨?_, fun h => ⟨_, parse_enclosed h, rfl⟩⟩, closes_of_parse htokens hparse, fun h => ?_⟩
  · rintro ⟨ph, hph, hexpression⟩
    exact closes_of_expression? hph hexpression
  · exact ⟨parse_enclosed h, _, fun schema shrink => ofSql_enclosedSql h schema,
      fun engine bindings => rfl⟩

/-- Braces, parentheses and commas in quoted texts. -/
theorem enclosed_expression_with_texts :
    let e := "(a['\x7d']) == '(,:)'"
    parse (enclosed e) = .ok ⟨[("expression", e)]⟩ ∧
      enclosedSql e = "#\x7b((a['\\\x7d']) == '(,:)')\x7d" ∧
      ∃ m, Prepared.ofSql none true (enclosedSql e) = .ok ⟨"?", [m]⟩ ∧
        ∀ bindings : Bindings,
          Statement.value .paths bindings m = Engine.paths.value e bindings.lookup := by
  intro e
  let a : Phrase .path := .item (.name "a" (by decide)) (.alone (.operand (.text "\x7d")))
  let p : Phrase .disjunction :=
    .alone (.compare .eq (.enclosed (.alone (.operand (.path a)))) (.text "(,:)"))
  have htokens : Token.ofText e = .ok p.tokens := by decide +kernel
  have hparse : Expr.parse p.tokens = .ok p.toExpr :=
    Expr.parse_eq_ok_iff.2 ⟨p, rfl, by decide, rfl⟩
  have htexts : ∀ s, .text s ∈ p.tokens → Closes 0 s.toList := by
    intro s hs
    simp only [p, a, Phrase.alone, Phrase.tokens] at hs
    simp at hs
    rcases hs with rfl | rfl
    · decide
    · decide
  obtain ⟨-, hcloses, hbound⟩ := enclosed_expression htokens hparse
  obtain ⟨hcontent, m, hprepared, hvalue⟩ := hbound (hcloses htexts)
  exact ⟨hcontent, by decide +kernel, m, hprepared none true (by decide +kernel), hvalue .paths⟩

/-- **Quoted texts that end a placeholder.** Each is an expression that parses, and in parentheses
is no placeholder or one for another expression. -/
theorem quoted_text_ends_placeholder :
    (Token.ofText "'('" = .ok [.text "("] ∧
        Expr.parse [.text "("] = .ok (.literal (.text "(")) ∧
        parse (enclosed "'('") = .error 0) ∧
      (Token.ofText "')'" = .ok [.text ")"] ∧
        Expr.parse [.text ")"] = .ok (.literal (.text ")")) ∧
        parse (enclosed "')'") = .error 3) ∧
      Token.ofText "'),a=b'" = .ok [.text "),a=b"] ∧
        Expr.parse [.text "),a=b"] = .ok (.literal (.text "),a=b")) ∧
        parse (enclosed "'),a=b'") = .ok ⟨[("expression", "'"), ("a", "b')")]⟩ := by
  have hparse (s : String) : Expr.parse [.text s] = .ok (.literal (.text s)) :=
    Expr.parse_eq_ok_iff.2 ⟨.alone (.operand (.text s)), rfl, Nat.zero_le _, rfl⟩
  exact ⟨⟨by decide +kernel, hparse _, by decide +kernel⟩,
    ⟨by decide +kernel, hparse _, by decide +kernel⟩, by decide +kernel, hparse _,
    by decide +kernel⟩

end SqlTemplate.Placeholder
