import SqlTemplate.Proofs.Fallible
import SqlTemplate.Statement.Basic

/-!
# The stages of a statement

A statement that succeeds has gone through three stages: the expansion of its template, the
placeholders of the expanded text, and the values of their mappings.
-/

namespace SqlTemplate

/-- The placeholders of a text that is not shortened become mappings, and question marks. -/
theorem Prepared.mappings_of_ofSql {schema : Option (Registry × String)} {sql : String}
    {prepared : Prepared} (h : Prepared.ofSql schema false sql = .ok prepared) :
    List.Forall₂ (fun content m => Mapping.ofContent schema content = .ok m)
      (Markers.placeholder.split sql).contents prepared.mappings := by
  obtain ⟨mappings, hmappings, h⟩ := exists_of_bind_eq_ok h
  cases h
  exact forall₂_of_mapM_eq_ok hmappings

/-- A text that is not shortened stands as it is, with question marks for its placeholders. -/
theorem Prepared.sql_of_ofSql {schema : Option (Registry × String)} {sql : String}
    {prepared : Prepared} (h : Prepared.ofSql schema false sql = .ok prepared) :
    prepared.sql = Markers.placeholder.replace (fun _ => "?") sql := by
  obtain ⟨mappings, hmappings, h⟩ := exists_of_bind_eq_ok h
  cases h
  rfl

/-- A statement comes from an expansion, its prepared text and the values of the mappings. -/
theorem Source.stages_of_statement {source : Source} {engine : Engine} {parameter : Value}
    {st : Statement} (h : source.statement engine parameter = .ok st) :
    ∃ took context, source.expand engine parameter = (.ok took, context) ∧
      Prepared.ofSql source.schema source.shrink context.sql = .ok ⟨st.sql, st.mappings⟩ ∧
      List.Forall₂ (fun m value => Statement.value engine context.bindings m = .ok value)
        st.mappings st.parameters := by
  rw [Source.statement] at h
  split at h
  · cases h
  · next took context hexpand =>
    obtain ⟨prepared, hprepared, h⟩ := exists_of_bind_eq_ok h
    obtain ⟨parameters, hparameters, h⟩ := exists_of_bind_eq_ok h
    cases h
    exact ⟨took, context, hexpand, hprepared, forall₂_of_mapM_eq_ok hparameters⟩

/-- An expansion, its prepared text and the values of the mappings make a statement. -/
theorem Source.statement_of_stages {source : Source} {engine : Engine} {parameter : Value}
    {st : Statement} {took : Bool} {context : Context}
    (hexpand : source.expand engine parameter = (.ok took, context))
    (hprepared : Prepared.ofSql source.schema source.shrink context.sql =
      .ok ⟨st.sql, st.mappings⟩)
    (hvalues : List.Forall₂ (fun m value => Statement.value engine context.bindings m = .ok value)
      st.mappings st.parameters) : source.statement engine parameter = .ok st := by
  simp only [Source.statement, hexpand, hprepared, bind, Except.bind, pure, Except.pure,
    mapM_eq_ok_of_forall₂ hvalues]

end SqlTemplate
