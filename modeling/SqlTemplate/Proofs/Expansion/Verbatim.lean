import SqlTemplate.Proofs.Span.Opening
import SqlTemplate.Template.Expand

/-!
# Texts without substitutions

A text without substitutions is written as it stands and is not cut at its markers again. Writing it
with its substitutions filled in asks for no value and cannot fail, but it drops the backslash of an
escaped marker.

**Theorem (`substituting_static_text`).** Both ways write the same fragment exactly if the first
opening marker of the text, if there is one, is not escaped. What follows an opening marker that is
neither escaped nor closed is literal, backslashes included.
-/

namespace SqlTemplate

/-- A context in which a single value is bound to the name that it has in a text. -/
def Context.withParameter (c : Context) : Context :=
  if c.bindings.parameter.isScalar then c.bind "value" c.bindings.parameter else c

@[simp] theorem Context.sql_withParameter (c : Context) : c.withParameter.sql = c.sql := by
  rw [withParameter]
  split <;> rfl

@[simp] theorem Context.layers_withParameter (c : Context) :
    c.withParameter.layers = c.layers := by
  rw [withParameter]
  split <;> rfl

namespace Template

/-- Writes a text with its substitutions filled in, whether there are any or not. -/
def expandSubstituting (s : Settings) (text : String) : Expansion Unit := do
  let parameter := (← get).bindings.parameter
  if parameter.isScalar then modify (·.bind "value" parameter)
  let sql ← Settings.ask fun scope => Markers.substitution.replaceM (s.substitute scope) text
  modify (·.append sql)

/-- A text without its substitutions. -/
def unescaped (text : String) : String := Markers.substitution.replace (fun _ => "") text

/-- Only a dynamic text is written with its substitutions filled in. -/
theorem expandText_eq (s : Settings) (text : String) :
    expandText s text =
      if isDynamic text then expandSubstituting s text else modify (·.append text) := rfl

variable {text : String} {before rest : List Char}

theorem spans_of_static (h : isDynamic text = false) :
    (Markers.substitution.split text).spans = [] := by
  simpa [isDynamic, Split.hasSpan] using h

theorem unescaped_of_static (h : isDynamic text = false) :
    unescaped text = String.ofList ((Markers.substitution.split text).tail.getD []) := by
  rw [unescaped, Markers.replace, Split.join, spans_of_static h]
  exact String.empty_append

/-- Where there is nothing to replace, no handler is asked. -/
theorem replaceM_of_static (h : isDynamic text = false) {m : Type → Type} [Monad m] [LawfulMonad m]
    (handler : String → m String) :
    Markers.substitution.replaceM handler text = pure (unescaped text) := by
  rw [unescaped_of_static h, Markers.replaceM, Split.joinM, spans_of_static h, List.mapM_nil,
    pure_bind]
  exact congrArg pure String.empty_append

theorem split_of_static (h : isDynamic text = false) :
    Markers.substitution.split text = ⟨[], some (unescaped text).toList⟩ := by
  have htail := (Split.unescaped_ofChars (m := .substitution) rfl rfl text.toList).tail
  obtain ⟨literal, hliteral⟩ := Option.isSome_iff_exists.1 htail
  have hsplit : Markers.substitution.split text = ⟨[], some literal⟩ := by
    rw [← spans_of_static h, ← hliteral]
    rfl
  rw [unescaped_of_static h, hsplit, Option.getD_some, String.toList_ofList]

/-- After an escaped marker, the rest of the text comes out as it would alone. -/
theorem unescaped_of_escaped (h : isDynamic text = false)
    (hescaped : OpensEscaped '$' text.toList before rest) :
    isDynamic (String.ofList rest) = false ∧
      unescaped text =
        String.ofList (before ++ ['$', '\x7b']) ++ unescaped (String.ofList rest) := by
  have hsplit : (⟨[], some (unescaped text).toList⟩ : Split) =
      (Markers.substitution.split (String.ofList rest)).prepend (before ++ ['$', '\x7b']) := by
    rw [← split_of_static h, Markers.split, Markers.split, String.toList_ofList]
    exact Split.ofChars_of_escaped (by decide) hescaped
  have hrest : (Markers.substitution.split (String.ofList rest)).spans = [] :=
    Split.spans_of_prepend (congrArg Split.spans hsplit).symm
  have hstatic : isDynamic (String.ofList rest) = false := by
    rw [isDynamic, Split.hasSpan, hrest]
    rfl
  rw [split_of_static hstatic] at hsplit
  have htail := Option.some.inj (congrArg Split.tail hsplit)
  refine ⟨hstatic, ?_⟩
  rw [← String.toList_inj, htail]
  simp

/-- Only a text whose first marker is escaped changes when its substitutions are filled in. -/
theorem unescaped_eq_iff (h : isDynamic text = false) :
    unescaped text = text ↔ ∀ before rest, ¬ OpensEscaped '$' text.toList before rest := by
  constructor
  · intro heq before rest hescaped
    obtain ⟨hrest, htext⟩ := unescaped_of_escaped h hescaped
    have hle := Split.backslashes_ofChars_le .substitution rest
    have hsplit := split_of_static hrest
    rw [Markers.split, String.toList_ofList] at hsplit
    have hcount := congrArg (List.count '\\') (congrArg String.toList (heq.symm.trans htext))
    rw [hsplit] at hle
    rw [hescaped.text] at hcount
    simp [Split.backslashes] at hle hcount
    omega
  · intro hescaped
    have hsplit := Split.ofChars_of_not_escaped (by decide) (spans_of_static h) hescaped
    have htail := congrArg Split.tail ((split_of_static h).symm.trans hsplit)
    exact String.toList_inj.1 (Option.some.inj htail)

theorem applyTo_expandSubstituting (h : isDynamic text = false) (s : Settings) (c : Context) :
    (expandSubstituting s text).applyTo c =
      (.ok (), c.withParameter.append (unescaped text)) := by
  simp only [expandSubstituting, replaceM_of_static h, Settings.ask, Expansion.applyTo_bind,
    Expansion.applyTo_get, Context.withParameter]
  cases c.bindings.parameter.isScalar with
  | true => rfl
  | false => rfl

/-- **Texts without substitutions.** Filling in their substitutions asks for nothing, neither the
engine nor the filter, and cannot fail. It writes the text without the backslashes of its escaped
markers, up to a marker that is neither escaped nor closed; the text itself is written as it stands.
In every context the SQL is the same exactly if the first marker of the text is not escaped. -/
theorem substituting_static_text (h : isDynamic text = false) :
    (∀ {m : Type → Type} [Monad m] [LawfulMonad m] (handler : String → m String),
      Markers.substitution.replaceM handler text = pure (unescaped text)) ∧
    (∀ s c, (expandText s text).applyTo c = (.ok (), c.append text) ∧
      (expandSubstituting s text).applyTo c =
        (.ok (), c.withParameter.append (unescaped text))) ∧
    (∀ before rest, OpensEscaped '$' text.toList before rest →
      unescaped text =
        String.ofList (before ++ ['$', '\x7b']) ++ unescaped (String.ofList rest)) ∧
    ((∀ s c, ((expandSubstituting s text).applyTo c).2.sql =
        ((expandText s text).applyTo c).2.sql) ↔
      ∀ before rest, ¬ OpensEscaped '$' text.toList before rest) := by
  have hstatic (s : Settings) (c : Context) :
      (expandText s text).applyTo c = (.ok (), c.append text) := by
    rw [expandText_eq, h]
    rfl
  refine ⟨replaceM_of_static h, fun s c => ⟨hstatic s c, applyTo_expandSubstituting h s c⟩,
    fun before rest hescaped => (unescaped_of_escaped h hescaped).2, ?_⟩
  rw [← unescaped_eq_iff h]
  constructor
  · intro hsql
    -- Nothing stands between a context without layers and its SQL.
    have hbare := hsql ⟨Engine.paths, none⟩ (Context.ofParameter .null none)
    rw [hstatic, applyTo_expandSubstituting h] at hbare
    simpa [Context.append, Layer.pass, Context.ofParameter] using hbare
  · intro heq s c
    rw [hstatic, applyTo_expandSubstituting h, heq]
    simp [Context.append]

/-- A text with an escaped marker, then one that is never closed and an escaped one after it. -/
theorem substituting_static_text_markers :
    let text := "\\$\x7ba\x7d $\x7bb \\$\x7bc"
    isDynamic text = false ∧
      ∀ s c, (expandText s text).applyTo c = (.ok (), c.append text) ∧
        (expandSubstituting s text).applyTo c =
          (.ok (), c.withParameter.append "$\x7ba\x7d $\x7bb \\$\x7bc") := by
  intro text
  have h : isDynamic text = false := by decide +kernel
  have hunescaped : unescaped text = "$\x7ba\x7d $\x7bb \\$\x7bc" := by decide +kernel
  rw [← hunescaped]
  exact ⟨h, (substituting_static_text h).2.1⟩

/-- **An escaped marker.** Where nothing else has to be substituted its backslash stays in the SQL;
beside a substitution it is dropped. -/
theorem escaped_marker_keeps_backslash :
    let context := Context.ofParameter (.map [("x", .int 1)]) none
    let written (p : Settings → String → Expansion Unit) (text : String) :=
      ((p ⟨Engine.paths, none⟩ text).applyTo context).2.sql
    isDynamic "\\$\x7bx\x7d" = false ∧
      written expandText "\\$\x7bx\x7d" = "\\$\x7bx\x7d" ∧
      written expandSubstituting "\\$\x7bx\x7d" = "$\x7bx\x7d" ∧
      written expandText "\\$\x7bx\x7d $\x7bx\x7d" = "$\x7bx\x7d 1" := by
  decide +kernel

end Template

end SqlTemplate
