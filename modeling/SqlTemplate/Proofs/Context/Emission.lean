import SqlTemplate.Context.Basic

/-!
# What comes out of a stack of layers

A text that is written goes through all renamings around its place. A separator that it calls for
comes out before it, and goes through the renamings outside its own place only. An `Emission` is a
text with the renamings that it goes through, the innermost first.

**Theorem (`pass_eq_trace`).** The fragments that come out of a stack are the emissions, each
renamed by its own renamings. The last of them is the text that was written (`getLast?_tracePass`),
and those before it are separators of the stack (`tracePass_concat`).
-/

namespace SqlTemplate

namespace Renaming

/-- A fragment after these renamings, the first of them applied first. -/
def fragmentAll (rs : List Renaming) (sql : String) : String :=
  rs.foldl (fun sql r => r.fragment sql) sql

/-- A content after these renamings, the first of them applied first. -/
def contentAll (rs : List Renaming) (content : String) : String :=
  rs.foldl (fun content r => r.content content) content

end Renaming

/-- The renamings of a stack of layers. -/
def Layer.renamings (layers : List Layer) : List Renaming :=
  layers.filterMap fun layer => match layer with
    | rename r => some r
    | separator _ _ => none

/-- A text and the renamings that it goes through. -/
structure Emission where
  text : String
  renamings : List Renaming
  deriving DecidableEq

namespace Emission

/-- The fragment that comes out. -/
def sql (e : Emission) : String := Renaming.fragmentAll e.renamings e.text

/-- An emission that has gone through a stack of layers as well. -/
def inside (e : Emission) (layers : List Layer) : Emission :=
  ⟨e.text, e.renamings ++ Layer.renamings layers⟩

end Emission

namespace Layer

/-- `Layer.through`, for an emission. -/
def trace (layer : Layer) (e : Emission) : Layer × List Emission :=
  match layer with
  | rename r => (layer, [⟨e.text, e.renamings ++ [r]⟩])
  | separator text applied =>
    if !applied && !isBlankText e.sql then (separator text true, [⟨text, []⟩, e])
    else (layer, [e])

/-- `Layer.throughAll`, for emissions. -/
def traceAll (layer : Layer) : List Emission → Layer × List Emission
  | [] => (layer, [])
  | e :: rest =>
    let (layer, out) := layer.trace e
    let (layer, more) := layer.traceAll rest
    (layer, out ++ more)

/-- `Layer.pass`, for emissions. -/
def tracePass : List Layer → List Emission → List Layer × List Emission
  | [], es => ([], es)
  | layer :: outer, es =>
    let (layer, out) := layer.traceAll es
    let (outer, out) := tracePass outer out
    (layer :: outer, out)

/-! ## The SQL of the emissions -/

theorem through_sql (layer : Layer) (e : Emission) :
    layer.through e.sql = ((layer.trace e).1, (layer.trace e).2.map Emission.sql) := by
  cases layer with
  | rename r => simp [through, trace, Emission.sql, Renaming.fragmentAll]
  | separator text applied =>
    rw [through, trace]
    split
    · rfl
    · rfl

theorem throughAll_map_sql (layer : Layer) (es : List Emission) :
    layer.throughAll (es.map Emission.sql) =
      ((layer.traceAll es).1, (layer.traceAll es).2.map Emission.sql) := by
  induction es generalizing layer with
  | nil => rfl
  | cons e rest ih =>
    simp only [List.map_cons, throughAll, traceAll, through_sql, ih, List.map_append]

/-- **What comes out of a stack is the SQL of the emissions.** -/
theorem pass_eq_trace (layers : List Layer) (es : List Emission) :
    pass layers (es.map Emission.sql) =
      ((tracePass layers es).1, (tracePass layers es).2.map Emission.sql) := by
  induction layers generalizing es with
  | nil => rfl
  | cons layer outer ih => simp only [pass, tracePass, throughAll_map_sql, ih]

/-! ## The renamings of the emissions -/

theorem renamings_cons (layer : Layer) (outer : List Layer) :
    renamings (layer :: outer) = renamings [layer] ++ renamings outer :=
  List.filterMap_append (l := [layer])

theorem inside_nil (e : Emission) : e.inside [] = e := by
  rw [Emission.inside, show renamings [] = [] from rfl, List.append_nil]

theorem inside_cons (e : Emission) (layer : Layer) (outer : List Layer) :
    e.inside (layer :: outer) = (e.inside [layer]).inside outer := by
  rw [Emission.inside, renamings_cons, ← List.append_assoc]
  rfl

theorem inside_separator (e : Emission) (text : String) (applied : Bool) :
    e.inside [separator text applied] = e := by
  rw [Emission.inside, show renamings [separator text applied] = [] from rfl, List.append_nil]

/-- A layer stays what it is, but for what a separator remembers. -/
theorem inside_of_trace (layer : Layer) (e e' : Emission) :
    e.inside [(layer.trace e').1] = e.inside [layer] := by
  cases layer with
  | rename r => rfl
  | separator text applied =>
    rw [trace]
    split
    · rw [inside_separator, inside_separator]
    · rfl

theorem mem_trace {layer : Layer} {e e' : Emission} (h : e ∈ (layer.trace e').2) :
    e = e'.inside [layer] ∨ e.renamings = [] := by
  cases layer with
  | rename r => exact .inl (List.mem_singleton.1 h)
  | separator text applied =>
    rw [inside_separator]
    rw [trace] at h
    split at h
    · rcases List.mem_cons.1 h with rfl | h
      · exact .inr rfl
      · exact .inl (List.mem_singleton.1 h)
    · exact .inl (List.mem_singleton.1 h)

theorem mem_traceAll {layer : Layer} {es : List Emission} {e : Emission}
    (h : e ∈ (layer.traceAll es).2) :
    (∃ e' ∈ es, e = e'.inside [layer]) ∨ e.renamings = [] := by
  induction es generalizing layer with
  | nil => cases h
  | cons first rest ih =>
    rw [traceAll, List.mem_append] at h
    rcases h with h | h
    · rcases mem_trace h with h | h
      · exact .inl ⟨first, List.mem_cons_self, h⟩
      · exact .inr h
    · rcases ih h with ⟨e', he', h⟩ | h
      · rw [inside_of_trace] at h
        exact .inl ⟨e', List.mem_cons_of_mem _ he', h⟩
      · exact .inr h

/-- Whatever comes out of a stack has gone in, or has been put before it by a separator of the
stack. -/
theorem mem_tracePass {layers : List Layer} {es : List Emission} {e : Emission}
    (h : e ∈ (tracePass layers es).2) :
    (∃ e' ∈ es, e = e'.inside layers) ∨ e.renamings <:+ renamings layers := by
  induction layers generalizing es with
  | nil => exact .inl ⟨e, h, (inside_nil e).symm⟩
  | cons layer outer ih =>
    rcases ih h with ⟨e', he', rfl⟩ | h
    · rcases mem_traceAll he' with ⟨e'', he'', rfl⟩ | hnil
      · exact .inl ⟨e'', he'', (inside_cons e'' layer outer).symm⟩
      · refine .inr ?_
        rw [Emission.inside, hnil, renamings_cons]
        exact List.suffix_append _ _
    · refine .inr (h.trans ?_)
      rw [renamings_cons layer]
      exact List.suffix_append _ _

/-! ## The layers afterwards -/

/-- A layer without what it remembers. -/
def outline : Layer → Layer
  | rename r => rename r
  | separator text _ => separator text false

theorem outline_through (layer : Layer) (sql : String) :
    (layer.through sql).1.outline = layer.outline := by
  cases layer with
  | rename r => rfl
  | separator text applied =>
    rw [through]
    split <;> rfl

theorem outline_throughAll (layer : Layer) (fragments : List String) :
    (layer.throughAll fragments).1.outline = layer.outline := by
  induction fragments generalizing layer with
  | nil => rfl
  | cons sql rest ih => rw [throughAll, ih, outline_through]

/-- Layers stay what they are, but for what their separators remember. -/
theorem outline_pass (layers : List Layer) (fragments : List String) :
    (pass layers fragments).1.map outline = layers.map outline := by
  induction layers generalizing fragments with
  | nil => rfl
  | cons layer outer ih => rw [pass, List.map_cons, List.map_cons, outline_throughAll, ih]

theorem renamings_map_outline (layers : List Layer) :
    renamings (layers.map outline) = renamings layers := by
  induction layers with
  | nil => rfl
  | cons layer outer ih =>
    rw [List.map_cons, renamings_cons, renamings_cons layer, ih]
    cases layer <;> rfl

/-! ## What comes out before a text -/

theorem outline_trace (layer : Layer) (e : Emission) :
    (layer.trace e).1.outline = layer.outline := by
  cases layer with
  | rename r => rfl
  | separator text applied =>
    rw [trace]
    split <;> rfl

/-- What a layer puts before a text is a separator. -/
theorem trace_eq_append (layer : Layer) (e : Emission) :
    ∃ before, (layer.trace e).2 = before ++ [e.inside [layer]] ∧
      ∀ x ∈ before, layer.outline = separator x.text false := by
  cases layer with
  | rename r => exact ⟨[], rfl, List.forall_mem_nil _⟩
  | separator text applied =>
    rw [trace, inside_separator]
    split
    · exact ⟨[⟨text, []⟩], rfl, List.forall_mem_singleton.2 rfl⟩
    · exact ⟨[], rfl, List.forall_mem_nil _⟩

theorem traceAll_concat (layer : Layer) (es : List Emission) (e : Emission) :
    ∃ before, (layer.traceAll (es ++ [e])).2 = before ++ [e.inside [layer]] ∧
      ∀ x ∈ before, (∃ y ∈ es, x.text = y.text) ∨ layer.outline = separator x.text false := by
  induction es generalizing layer with
  | nil =>
    obtain ⟨before, heq, hbefore⟩ := trace_eq_append layer e
    exact ⟨before, by simp [traceAll, heq], fun x hx => .inr (hbefore x hx)⟩
  | cons first rest ih =>
    obtain ⟨before, heq, hbefore⟩ := trace_eq_append layer first
    obtain ⟨before', heq', hbefore'⟩ := ih (layer.trace first).1
    refine ⟨(layer.trace first).2 ++ before', ?_, fun x hx => ?_⟩
    · rw [inside_of_trace] at heq'
      simp [traceAll, heq']
    · rcases List.mem_append.1 hx with hx | hx
      · rw [heq, List.mem_append, List.mem_singleton] at hx
        rcases hx with hx | rfl
        · exact .inr (hbefore x hx)
        · exact .inl ⟨first, List.mem_cons_self, rfl⟩
      · rcases hbefore' x hx with ⟨y, hy, htext⟩ | houtline
        · exact .inl ⟨y, List.mem_cons_of_mem _ hy, htext⟩
        · exact .inr ((outline_trace layer first).symm.trans houtline)

/-- **A text comes out last**, after all that came before it and the separators that it calls
for. -/
theorem tracePass_concat (layers : List Layer) (es : List Emission) (e : Emission) :
    ∃ before, (tracePass layers (es ++ [e])).2 = before ++ [e.inside layers] ∧
      ∀ x ∈ before, (∃ y ∈ es, x.text = y.text) ∨
        separator x.text false ∈ layers.map outline := by
  induction layers generalizing es e with
  | nil => exact ⟨es, by rw [inside_nil]; rfl, fun x hx => .inl ⟨x, hx, rfl⟩⟩
  | cons layer outer ih =>
    obtain ⟨middle, heq, hmiddle⟩ := traceAll_concat layer es e
    obtain ⟨before, heq', hbefore⟩ := ih middle (e.inside [layer])
    refine ⟨before, ?_, fun x hx => ?_⟩
    · rw [inside_cons, ← heq', ← heq]
      rfl
    · rcases hbefore x hx with ⟨y, hy, htext⟩ | houter
      · rcases hmiddle y hy with ⟨z, hz, htext'⟩ | houtline
        · exact .inl ⟨z, hz, htext.trans htext'⟩
        · rw [htext, List.map_cons, houtline]
          exact .inr List.mem_cons_self
      · exact .inr (List.mem_cons_of_mem _ houter)

/-- The text that was written comes out last, after all renamings of the stack. -/
theorem getLast?_tracePass (layers : List Layer) (es : List Emission) :
    (tracePass layers es).2.getLast? = es.getLast?.map (·.inside layers) := by
  rcases List.eq_nil_or_concat es with rfl | ⟨es, e, rfl⟩
  · induction layers with
    | nil => rfl
    | cons layer outer ih => exact ih
  · obtain ⟨before, heq, -⟩ := tracePass_concat layers es e
    rw [List.concat_eq_append, heq, List.getLast?_concat, List.getLast?_concat]
    rfl

end Layer

namespace Context

theorem append_sql (c : Context) (sql : String) :
    (c.append sql).sql = c.sql ++ String.join (Layer.pass c.layers [sql]).2 := rfl

theorem append_layers (c : Context) (sql : String) :
    (c.append sql).layers = (Layer.pass c.layers [sql]).1 := rfl

end Context

end SqlTemplate
