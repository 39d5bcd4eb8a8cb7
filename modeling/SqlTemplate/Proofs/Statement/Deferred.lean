import SqlTemplate.Proofs.Expansion.Scope
import SqlTemplate.Proofs.Placeholder.Head
import SqlTemplate.Proofs.Statement.Contents
import SqlTemplate.Proofs.Statement.Stages

/-!
# Values that are read late

The values of a statement are read when its whole template has been expanded. Loop variables are
bound no more by then; a reference to one of them has been renamed to the name of its iteration.

**Theorem (`deferred_eq_eager`).** Let a template be well scoped and every text that comes out of
its expansion plain. The parameters of a statement are those of the placeholders that came out, in
order. A parameter that follows a path from a loop variable has the value that this path had when
its placeholder was written.

It combines four facts. The SQL cuts into the placeholders of its texts (`contents_of_emissions`).
A reference to a loop variable is renamed once, and its property keeps everything but the name
(`Occurrence.Refers.mapping`). The name of the iteration is still bound to the value that the
variable had (`bound_of_mem_emissions`). And a path depends on the scope only through the name at
its base (`Expr.evalText_rebase`).
-/

namespace SqlTemplate

open Text (isBlank isSpace)

/-! ## What a source writes -/

namespace Source

/-- The steps of the expansion of a source. -/
def steps (source : Source) (engine : Engine) (parameter : Value) : List Step :=
  (source.template.record ⟨engine, source.filter⟩
    (Context.ofParameter parameter source.database)).steps

/-- The texts that come out of the expansion of a source, each with the bindings at its place. -/
def emissions (source : Source) (engine : Engine) (parameter : Value) :
    List (Emission × Bindings) :=
  emissionsOf (source.steps engine parameter) (Context.ofParameter parameter source.database)

/-- The placeholders that come out of the expansion of a source, in order. -/
def occurrences (source : Source) (engine : Engine) (parameter : Value) : List Occurrence :=
  occurrencesOf (source.emissions engine parameter)

/-- The context after the expansion of a source. -/
def final (source : Source) (engine : Engine) (parameter : Value) : Context :=
  replay (source.steps engine parameter) (Context.ofParameter parameter source.database)

variable {source : Source} {engine : Engine} {parameter : Value}

/-- The SQL of an expansion is put together from what came out of it. -/
theorem sql_final :
    (source.final engine parameter).sql =
      String.join ((source.emissions engine parameter).map fun w => w.1.sql) := by
  rw [final, sql_replay]
  exact String.empty_append

/-- **One parameter for each placeholder.** A statement binds the placeholders that came out of
the expansion, renamed, to values from the bindings at its end. -/
theorem parameters_of_occurrences {st : Statement} (hshrink : source.shrink = false)
    (hst : source.statement engine parameter = .ok st)
    (hwhole : ∀ w ∈ source.emissions engine parameter, Whole '#' w.1.text.toList) :
    List.Forall₂ (fun o m => Mapping.ofContent source.schema o.renamed = .ok m)
        (source.occurrences engine parameter) st.mappings ∧
      List.Forall₂
        (fun m v => Statement.value engine (source.final engine parameter).bindings m = .ok v)
        st.mappings st.parameters := by
  obtain ⟨took, context, hexpand, hprepared, hvalues⟩ := stages_of_statement hst
  rw [expand, Template.applyTo_expand] at hexpand
  have hcontext : source.final engine parameter = context := congrArg Prod.snd hexpand
  rw [hshrink] at hprepared
  have hmappings := Prepared.mappings_of_ofSql hprepared
  rw [← hcontext, sql_final, contents_of_emissions hwhole, List.forall₂_map_left_iff]
    at hmappings
  rw [hcontext]
  exact ⟨hmappings, hvalues⟩

end Source

/-- The context of a parameter is sound. -/
theorem Context.sound_ofParameter (parameter : Value) (database : Option String) :
    Sound (ofParameter parameter database) := by
  have hnone : ∀ r ∈ Layer.renamings (ofParameter parameter database).layers, False := nofun
  refine ⟨ascending_ofParameter parameter database, fun r hr => (hnone r hr).elim,
    fun r hr => (hnone r hr).elim, fun r hr => (hnone r hr).elim, fun _ => rfl,
    fun _ name x hx => ?_⟩
  cases database with
  | none => cases hx
  | some text =>
    rw [get?, ofParameter, Bindings.bind, Keyed.get?_insert] at hx
    split at hx
    · cases hx; rfl
    · cases hx

/-! ## References to loop variables -/

/-- A placeholder that follows the path `p` from a loop variable around it: its content starts with
the variable, has no attribute named like a head, and parses with `p` as its property. -/
structure Occurrence.Refers (o : Occurrence) (p : String) : Prop where
  reference : ∃ r ∈ o.renamings, ∃ v ∈ r.names, ∃ rest,
    Renaming.afterReference? v o.content.toList = some rest
  attributes : ∀ a ∈ Placeholder.attributesOf o.content,
    a.1 ≠ Placeholder.propertyKey ∧ a.1 ≠ Placeholder.expressionKey
  property : ∃ ph, Placeholder.parse o.content = .ok ph ∧ ph.property? = some p
  path : Expr.IsPathText p

/-- Nothing that can follow a reference in its property continues a name. -/
theorem continuesName_of_property {rest : List Char} (hrest : Renaming.endsReference rest)
    (p : Char → Bool) :
    ∀ c ∈ ((rest.takeWhile p).rdropWhile isBlank).head?, Token.continuesName c = false := by
  intro c hc
  have hprefix : (rest.takeWhile p).rdropWhile isBlank <+: rest :=
    (List.rdropWhile_prefix _ _).trans (List.takeWhile_prefix _)
  obtain ⟨after, hafter⟩ := hprefix
  refine Renaming.continuesName_of_endsReference hrest c ?_
  rw [← hafter]
  exact List.mem_head?_append_of_mem_head? hc

/-- **The mapping of a reference.** Its property is that of the placeholder as written, with the
name of an iteration in the place of the variable. -/
theorem Occurrence.Refers.mapping {o : Occurrence} {p : String} (h : o.Refers p)
    (hnames : ∀ r ∈ o.renamings, ∀ v ∈ r.names, IsVariable v)
    {schema : Option (Registry × String)} {m : Mapping}
    (hm : Mapping.ofContent schema o.renamed = .ok m) :
    ∃ r ∈ o.renamings, ∃ v ∈ r.names, ∃ spaces after : List Char,
      (∀ c ∈ spaces, isSpace c) ∧ (∀ c ∈ after.head?, Token.continuesName c = false) ∧
      p = String.ofList (spaces ++ (v.toList ++ after)) ∧
      m.property = some (String.ofList ((Renaming.iterationName v r.number).toList ++ after)) ∧
      m.expression = none := by
  obtain ⟨r₀, hr₀, v, hv₀, rest, hrest⟩ := h.reference
  have hv : IsVariable v := hnames r₀ hr₀ v hv₀
  obtain ⟨r, hr, hvr, hrenamed⟩ :=
    Renaming.contentAll_of_reference hnames hv.identifier hrest ⟨r₀, hr₀, hv₀⟩
  have hends := (Renaming.afterReference?_eq_some.1 hrest).2
  -- The content as written, with its spaces.
  have hcontent := Renaming.eq_append_of_afterReference? hrest
  have hspaces : ∀ c ∈ o.content.toList.takeWhile isSpace, isSpace c :=
    List.all_eq_true.1 List.all_takeWhile
  have hattributes := h.attributes
  generalize o.content.toList.takeWhile isSpace = spaces at hcontent hspaces
  rw [Placeholder.attributesOf, hcontent,
    Placeholder.afterProperty_of_name hspaces hv.identifier] at hattributes
  refine ⟨r, hr, v, hvr, spaces.dropWhile isBlank, _, ?_,
    continuesName_of_property hends (!Placeholder.endsProperty ·), ?_, ?_⟩
  · exact fun c hc => hspaces c ((List.dropWhile_suffix _).mem hc)
  · obtain ⟨ph, hparse, hproperty⟩ := h.property
    rw [Placeholder.parse, hcontent] at hparse
    have hheaded := Placeholder.headed_of_name hspaces hv.identifier hparse hattributes
    rw [hheaded.property?_eq] at hproperty
    exact (Option.some.inj hproperty).symm
  · -- The renamed content, without them.
    refine Mapping.property_of_ofContent hm fun ph hparse => ?_
    rw [Placeholder.parse, Occurrence.renamed, hrenamed, String.toList_append,
      String.toList_ofList (l := rest),
      ← List.nil_append ((Renaming.iterationName v r.number).toList ++ rest)] at hparse
    have hname := Renaming.isIdentifier_iterationName hv.identifier r.number
    have hheaded := Placeholder.headed_of_name (List.forall_mem_nil _) hname hparse hattributes
    exact hheaded

/-! ## Their values -/

/-- What a bound name stands for. -/
theorem Bindings.lookup_of_get? {b : Bindings} {name : String} {x : Value}
    (hname : name ∉ reservedNames) (h : Keyed.get? name b.table = some x) :
    b.lookup name = some x := by
  have hne : name ≠ parameterName := by
    rintro rfl
    exact hname (by decide)
  rw [lookup, get?, if_neg hne, h]
  rfl

/-- A property is evaluated where the parameter is not a single value. -/
theorem Statement.value_of_property {engine : Engine} {bindings : Bindings} {m : Mapping}
    {property : String} (hmode : m.mode ≠ .output) (hexpression : m.expression = none)
    (hproperty : m.property = some property) (hparameter : bindings.parameter.isScalar = false) :
    Statement.value engine bindings m = engine.value property bindings.lookup := by
  rw [Statement.value, if_neg hmode, hexpression, hproperty]
  dsimp only
  rw [hparameter, Bool.and_false]
  rfl

variable {source : Source} {parameter : Value}

/-- The variables around a placeholder are still bound at the end, under the names of their
iterations. -/
theorem Source.bound_of_mem_occurrences (hscoped : source.template.Scoped []) {o : Occurrence}
    (ho : o ∈ source.occurrences Engine.paths parameter) :
    ∀ r ∈ o.renamings, (source.final Engine.paths parameter).bindings.parameter.isScalar = false ∧
      ∀ v ∈ r.names, IsVariable v ∧ ∃ x, Keyed.get? v o.bindings.table = some x ∧
        (source.final Engine.paths parameter).get? (Renaming.iterationName v r.number) =
          some x := by
  have hsound := Context.sound_ofParameter parameter source.database
  have hallowed : AllowedRun (source.steps Engine.paths parameter)
      (Context.ofParameter parameter source.database) :=
    (Keeps.record source.filter hscoped _ hsound nofun trivial).1
  have hkept := (hsound.replay hallowed).2
  obtain ⟨w, hw, ho⟩ := List.mem_flatMap.1 ho
  obtain ⟨content, -, rfl⟩ := List.mem_map.1 ho
  rw [final, hkept.parameter]
  exact bound_of_mem_emissions hsound hallowed hw

/-- **Reading late gives what reading early would have given.** -/
theorem deferred_eq_eager {st : Statement} (hshrink : source.shrink = false)
    (hscoped : source.template.Scoped [])
    (hst : source.statement Engine.paths parameter = .ok st)
    (hplain : ∀ w ∈ source.emissions Engine.paths parameter, Plain '#' w.1.text.toList) :
    st.parameters.length = (source.occurrences Engine.paths parameter).length ∧
      ∀ (i : Nat) (o : Occurrence) (p : String),
        (source.occurrences Engine.paths parameter)[i]? = some o → o.Refers p →
        (∀ m, st.mappings[i]? = some m → m.mode ≠ .output) →
        ∃ value, st.parameters[i]? = some value ∧
          Engine.paths.value p o.bindings.lookup = .ok value := by
  obtain ⟨hmappings, hvalues⟩ := Source.parameters_of_occurrences hshrink hst fun w hw =>
    (hplain w hw).whole (by decide) (by decide)
  refine ⟨hvalues.length_eq.symm.trans hmappings.length_eq.symm, fun i o p ho hrefers hmode => ?_⟩
  obtain ⟨m, hm, hofContent⟩ := exists_of_forall₂ hmappings ho
  obtain ⟨value, hvalue, heval⟩ := exists_of_forall₂ hvalues hm
  have hbound := Source.bound_of_mem_occurrences hscoped (List.mem_of_getElem? ho)
  obtain ⟨r, hr, v, hv, spaces, after, hspaces, hafter, rfl, hproperty, hexpression⟩ :=
    hrefers.mapping (fun r hr v hv => ((hbound r hr).2 v hv).1) hofContent
  obtain ⟨hparameter, hnames⟩ := hbound r hr
  obtain ⟨hvariable, x, hx, hx'⟩ := hnames v hv
  have hscope : o.bindings.lookup v = (source.final Engine.paths parameter).bindings.lookup
      (Renaming.iterationName v r.number) := by
    rw [Bindings.lookup_of_get? hvariable.notReserved hx,
      Bindings.lookup_of_get? (Renaming.iterationName_not_reserved v r.number) hx']
  rw [Statement.value_of_property (hmode m hm) hexpression hproperty hparameter,
    Engine.value_paths_eq_ok, ← Expr.evalText_rebase
      (isName_of_identifier hvariable.identifier hvariable.notReserved)
      (Renaming.isName_iterationName hvariable.identifier r.number) hspaces hafter hrefers.path
      hscope] at heval
  exact ⟨value, hvalue, Engine.value_paths_eq_ok.2 heval⟩

/-- The second item of an inner loop, in the first iteration of the outer one. -/
theorem deferred_eq_eager_in_nested_loops :
    let source : Source :=
      { template := .loop ⟨"xs", some "r", none, none, none, none⟩
          [.text "#\x7br.a\x7d", .loop ⟨"r.ts", some "t", some "i", none, none, some ","⟩
            [.text "#\x7b t.n:INT\x7d"]] }
    let tag (name : String) : Value := .map [("n", .text name)]
    let row (tags : List Value) : Value := .map [("a", .int 7), ("ts", .list tags)]
    let parameter : Value := .map [("xs", .list [row [tag "a", tag "b"]])]
    ∃ st o, source.statement Engine.paths parameter = .ok st ∧
      (source.occurrences Engine.paths parameter)[2]? = some o ∧ o.Refers "t.n" ∧
      ∃ value, st.parameters[2]? = some value ∧ value.toText = "b" ∧
        Engine.paths.value "t.n" o.bindings.lookup = .ok value := by
  intro source tag row parameter
  have hst : (source.statement Engine.paths parameter).toOption.map
      (fun st => (st.mappings.map Mapping.mode, st.parameters.map Value.toText)) =
      some ([.input, .input, .input], ["7", "a", "b"]) := by decide +kernel
  have ho : (source.occurrences Engine.paths parameter)[2]?.map
      (fun o => (o.content, o.renamings)) =
      some (" t.n:INT", [⟨some "t", some "i", 2⟩, ⟨some "r", none, 0⟩]) := by
    decide +kernel
  have hscoped : source.template.Scoped [] :=
    ⟨by decide, by decide, trivial, ⟨by decide, by decide, trivial, trivial⟩, trivial⟩
  have hplain : ∀ w ∈ source.emissions Engine.paths parameter, Plain '#' w.1.text.toList := by
    decide +kernel
  have hpath : Expr.IsPathText "t.n" :=
    ⟨[.name "t", .dot, .name "n"], .property (.name "t") "n", by decide +kernel, rfl, trivial⟩
  cases hstatement : source.statement Engine.paths parameter with
  | error e => rw [hstatement] at hst; cases hst
  | ok st =>
  rw [hstatement] at hst
  obtain ⟨hmodes, htexts⟩ := Prod.mk.inj (Option.some.inj hst)
  obtain ⟨o, hget, hparts⟩ := Option.map_eq_some_iff.1 ho
  obtain ⟨hcontent, hrenamings⟩ := Prod.mk.inj hparts
  have hrefers : o.Refers "t.n" := by
    refine ⟨?_, ?_, ?_, hpath⟩
    · rw [hcontent, hrenamings]
      exact ⟨_, List.mem_cons_self, "t", by decide, ".n:INT".toList, by decide⟩
    · rw [hcontent]
      decide +kernel
    · rw [hcontent]
      exact ⟨⟨[("property", "t.n"), ("jdbcType", "INT")]⟩, by decide +kernel, rfl⟩
  have hmode : ∀ m, st.mappings[2]? = some m → m.mode ≠ .output := by
    intro m hm
    have := congrArg (·[2]?) hmodes
    rw [List.getElem?_map, hm] at this
    rw [Option.some.inj this]
    decide
  obtain ⟨value, hvalue, heager⟩ :=
    (deferred_eq_eager rfl hscoped hstatement hplain).2 2 o "t.n" hget hrefers hmode
  have htext := congrArg (·[2]?) htexts
  rw [List.getElem?_map, hvalue] at htext
  exact ⟨st, o, rfl, hget, hrefers, value, hvalue, Option.some.inj htext, heager⟩

end SqlTemplate
