import SqlTemplate.Proofs.Expansion.Verbatim
import SqlTemplate.Proofs.Span.Scan
import SqlTemplate.Statement.Basic

/-!
# Handlers and the spans they see

Texts are scanned in one pass for three ends: to fill in substitutions, to ask whether there are
any, and to collect the mappings of a statement. Each has a handler of its own, with its own state
and its own failures.

**Theorem (`same_spans_for_every_handler`).** A handler cannot change the spans that it is called
on. It is called on the contents of one cut, from left to right, each once, up to its first failure,
and its texts stand between the literals of that cut. So preparing a text succeeds exactly if each
of its contents has a mapping, and fails with the error of the first that has none; and a text is
dynamic exactly if filling in its substitutions evaluates something.

`recording` notes the calls of any handler beside its state.
-/

namespace SqlTemplate

/-! ## Handlers that keep state and fail -/

section handlers

variable {ε σ : Type}

/-- A handler gives these texts for contents, one after the other; the states are those before and
after. -/
inductive Answers (handler : String → ExceptT ε (StateM σ) String) :
    List String → List String → σ → σ → Prop
  | nil (s : σ) : Answers handler [] [] s s
  | cons {content text : String} {contents texts : List String} {s s' s'' : σ}
      (hfirst : (handler content).run.run s = (.ok text, s'))
      (hrest : Answers handler contents texts s' s'') :
      Answers handler (content :: contents) (text :: texts) s s''

/-- A handler that also notes the contents that it is called on. -/
def recording (handler : String → ExceptT ε (StateM σ) String) (content : String) :
    ExceptT ε (StateM (List String × σ)) String :=
  ExceptT.mk fun (calls, s) =>
    let (answer, s') := (handler content).run.run s
    (answer, calls ++ [content], s')

variable {handler : String → ExceptT ε (StateM σ) String} {content text : String} {s s' : σ}

theorem run_recording (handler : String → ExceptT ε (StateM σ) String) (content : String)
    (calls : List String) (s : σ) :
    (recording handler content).run.run (calls, s) =
      (((handler content).run.run s).1, calls ++ [content], ((handler content).run.run s).2) := rfl

theorem run_recording_of_ok {α : Type} {next : String → ExceptT ε (StateM (List String × σ)) α}
    (h : (handler content).run.run s = (.ok text, s')) (calls : List String) :
    (recording handler content >>= next).run.run (calls, s) =
      (next text).run.run (calls ++ [content], s') := by
  rw [ExceptT.run_bind, StateT.run_bind, run_recording, h]
  rfl

theorem run_recording_of_error {α : Type} {e : ε}
    {next : String → ExceptT ε (StateM (List String × σ)) α}
    (h : (handler content).run.run s = (.error e, s')) (calls : List String) :
    (recording handler content >>= next).run.run (calls, s) =
      (.error e, calls ++ [content], s') := by
  rw [ExceptT.run_bind, StateT.run_bind, run_recording, h]
  rfl

/-- Either a handler answers on all contents and is called on all of them, or it fails on one and is
called on those up to it. -/
theorem run_mapM_recording (handler : String → ExceptT ε (StateM σ) String)
    (contents calls : List String) (s : σ) :
    (∃ texts s', Answers handler contents texts s s' ∧
      (contents.mapM (recording handler)).run.run (calls, s) =
        (.ok texts, calls ++ contents, s')) ∨
    ∃ before content after texts s' e s'', contents = before ++ content :: after ∧
      Answers handler before texts s s' ∧ (handler content).run.run s' = (.error e, s'') ∧
      (contents.mapM (recording handler)).run.run (calls, s) =
        (.error e, calls ++ (before ++ [content]), s'') := by
  induction contents generalizing calls s with
  | nil => exact .inl ⟨[], s, .nil s, by rw [List.append_nil]; rfl⟩
  | cons content rest ih =>
    rw [List.mapM_cons]
    obtain ⟨answer, s', hfirst⟩ : ∃ answer s', (handler content).run.run s = (answer, s') :=
      ⟨_, _, rfl⟩
    cases answer with
    | error e =>
      exact .inr ⟨[], content, rest, [], s, e, s', rfl, .nil s, hfirst,
        run_recording_of_error hfirst calls⟩
    | ok text =>
      rw [run_recording_of_ok hfirst, ← map_eq_pure_bind, ExceptT.run_map, StateT.run_map]
      rcases ih (calls ++ [content]) s' with ⟨texts, s'', hrest, hrun⟩ |
        ⟨before, bad, after, texts, s₁, e, s₂, rfl, hrest, hbad, hrun⟩
      · refine .inl ⟨text :: texts, s'', .cons hfirst hrest, ?_⟩
        rw [hrun, List.append_assoc]
        rfl
      · refine .inr ⟨content :: before, bad, after, text :: texts, s₁, e, s₂, rfl,
          .cons hfirst hrest, hbad, ?_⟩
        rw [hrun, List.append_assoc]
        rfl

end handlers

section scan

variable {m : Markers} (hopening : m.opening.endsInBackslash = false)
  (hclosing : m.closing.endsInBackslash = false)
include hopening hclosing

/-- With markers that do not end in a backslash, scanning has a result, the one of replacing. -/
theorem Markers.scanM_eq_replaceM {M : Type → Type} [Monad M] [LawfulMonad M]
    (handler : String → M String) (text : String) :
    m.scanM handler text = some <$> m.replaceM handler text := by
  rw [m.scanM_eq, Markers.replaceM, Split.joinM_eq, Functor.map_map]
  refine congrArg (· <$> _) (funext fun texts => ?_)
  obtain ⟨tail, htail⟩ := Option.isSome_iff_exists.1
    (Split.unescaped_ofChars hopening hclosing text.toList).tail
  rw [Scan.filled, Markers.split, htail, Option.map_some, String.empty_append]

theorem Markers.scanM_eq_some {M : Type → Type} [Monad M] [LawfulMonad M]
    (handler : String → M String) (text : String) :
    m.scanM handler text =
      (fun texts => some ((m.split text).fillWith texts)) <$>
        (m.split text).contents.mapM handler := by
  rw [m.scanM_eq_replaceM hopening hclosing, Markers.replaceM, Split.joinM_eq, Functor.map_map]

theorem run_scanM_recording {ε σ : Type} (handler : String → ExceptT ε (StateM σ) String)
    (text : String) (s : σ) :
    let cut := m.split text
    let run := (m.scanM (recording handler) text).run.run ([], s)
    (∃ texts s', Answers handler cut.contents texts s s' ∧
      run = (.ok (some (cut.fillWith texts)), cut.contents, s')) ∨
    ∃ before content after texts s' e s'', cut.contents = before ++ content :: after ∧
      Answers handler before texts s s' ∧ (handler content).run.run s' = (.error e, s'') ∧
      run = (.error e, before ++ [content], s'') := by
  intro cut run
  have hrun : run = (fun result => (result.1.map fun texts => some (cut.fillWith texts), result.2))
      ((cut.contents.mapM (recording handler)).run.run ([], s)) := by
    change (m.scanM (recording handler) text).run.run ([], s) = _
    rw [m.scanM_eq_some hopening hclosing, ExceptT.run_map, StateT.run_map]
    rfl
  rcases run_mapM_recording handler cut.contents [] s with ⟨texts, s', hall, hmap⟩ |
    ⟨before, content, after, texts, s', e, s'', hcontents, hbefore, hbad, hmap⟩
  · exact .inl ⟨texts, s', hall, by rw [hrun, hmap]; rfl⟩
  · exact .inr ⟨before, content, after, texts, s', e, s'', hcontents, hbefore, hbad,
      by rw [hrun, hmap]; rfl⟩

end scan

/-! ## Mappings -/

namespace Prepared

/-- Collects the mapping of a content and puts a question mark in its place. -/
def collecting (schema : Option (Registry × String)) (content : String) :
    ExceptT Error (StateM (List Mapping)) String := do
  match Mapping.ofContent schema content with
  | .ok mapping =>
    modify (· ++ [mapping])
    return "?"
  | .error e => throw e

/-- Turns the placeholders of a text into question marks, collecting the mappings on the way. -/
def scanned (schema : Option (Registry × String)) (sql : String) :
    Except Error (Option Prepared) :=
  let (result, mappings) := (Markers.placeholder.scanM (collecting schema) sql).run.run []
  result.map fun out => out.map fun sql => { sql, mappings }

variable {schema : Option (Registry × String)} {sql : String}

theorem run_collecting_of_ok {content : String} {mapping : Mapping}
    (h : Mapping.ofContent schema content = .ok mapping) (seen : List Mapping) :
    (collecting schema content).run.run seen = (.ok "?", seen ++ [mapping]) := by
  rw [collecting, h]
  rfl

theorem run_collecting_of_error {content : String} {e : Error}
    (h : Mapping.ofContent schema content = .error e) (seen : List Mapping) :
    (collecting schema content).run.run seen = (.error e, seen) := by
  rw [collecting, h]
  rfl

/-- Collecting the mappings of contents on the way gives the mappings of the contents. -/
theorem run_mapM_collecting (schema : Option (Registry × String)) (contents : List String)
    (seen : List Mapping) :
    ∃ more, (contents.mapM (collecting schema)).run.run seen =
        ((contents.mapM (Mapping.ofContent schema)).map fun _ => contents.map fun _ => "?",
          seen ++ more) ∧
      ∀ mappings, contents.mapM (Mapping.ofContent schema) = .ok mappings → more = mappings := by
  induction contents generalizing seen with
  | nil => exact ⟨[], by rw [List.append_nil]; rfl, fun mappings h => by cases h; rfl⟩
  | cons content rest ih =>
    rw [List.mapM_cons, List.mapM_cons, ExceptT.run_bind, StateT.run_bind]
    cases hfirst : Mapping.ofContent schema content with
    | error e =>
      rw [run_collecting_of_error hfirst]
      exact ⟨[], by rw [List.append_nil]; rfl, nofun⟩
    | ok mapping =>
      obtain ⟨more, hrun, hmore⟩ := ih (seen ++ [mapping])
      rw [run_collecting_of_ok hfirst]
      refine ⟨mapping :: more, ?_, fun mappings h => ?_⟩
      · change (((rest.mapM (collecting schema)) >>= fun texts => pure ("?" :: texts)).run.run
          (seen ++ [mapping])) = _
        rw [← map_eq_pure_bind, ExceptT.run_map, StateT.run_map, hrun, List.append_assoc]
        cases rest.mapM (Mapping.ofContent schema) with
        | error e => rfl
        | ok mappings => rfl
      · obtain ⟨mapping', hmapping, h⟩ := exists_of_bind_eq_ok h
        cases hmapping
        obtain ⟨mappings', hrest, h⟩ := exists_of_bind_eq_ok h
        cases h
        rw [hmore mappings' hrest]

end Prepared

/-- Putting images of the contents between the literals. -/
theorem Split.join_eq (f : String → String) (s : Split) :
    s.join f = s.fillWith (s.contents.map f) := by
  simp [join, fillWith, contents, List.zipWith_map_right, Function.comp_def]

namespace Prepared

theorem ofSql_eq (schema : Option (Registry × String)) (sql : String) :
    let cut := Markers.placeholder.split sql
    ofSql schema false sql = (cut.contents.mapM (Mapping.ofContent schema)).map fun mappings =>
      ⟨cut.fillWith (cut.contents.map fun _ => "?"), mappings⟩ := by
  intro cut
  rw [← Split.join_eq]
  exact map_eq_pure_bind _ _ |>.symm

/-- Scanning for mappings prepares a text. -/
theorem scanned_eq (schema : Option (Registry × String)) (sql : String) :
    scanned schema sql = (ofSql schema false sql).map some := by
  obtain ⟨more, hrun, hmore⟩ :=
    run_mapM_collecting schema (Markers.placeholder.split sql).contents []
  rw [scanned, Markers.scanM_eq_some rfl rfl, ExceptT.run_map, StateT.run_map, hrun, ofSql_eq]
  cases hmappings : (Markers.placeholder.split sql).contents.mapM (Mapping.ofContent schema) with
  | error e => rfl
  | ok mappings =>
    rw [hmore mappings hmappings]
    rfl

end Prepared

namespace Template

open Split (noting)

/-- Notes that it is called. -/
def asked (_ : String) : StateM Bool String := do
  set true
  return ""

/-- Fills in the substitutions of a text and notes the expressions that are evaluated. -/
def substituted (s : Settings) (scope : Scope) (text : String) :
    Except Error (Option String) × List String :=
  (Markers.substitution.scanM (noting (s.substitute scope)) text).run.run []

theorem run_mapM_asked (contents : List String) (b : Bool) :
    (contents.mapM asked).run b = (contents.map fun _ => "", b || !contents.isEmpty) := by
  induction contents generalizing b with
  | nil => rw [List.isEmpty_nil, Bool.not_true, Bool.or_false]; rfl
  | cons content rest ih =>
    rw [List.mapM_cons]
    change ((rest.mapM asked) >>= fun texts => pure ("" :: texts)).run true = _
    rw [← map_eq_pure_bind, StateT.run_map, ih, Bool.true_or, List.isEmpty_cons, Bool.not_false,
      Bool.or_true]
    rfl

/-- A text is dynamic exactly if a handler is called on it. -/
theorem run_scanM_asked (text : String) :
    ((Markers.substitution.scanM asked text).run false).2 = isDynamic text := by
  rw [Markers.scanM_eq_some rfl rfl, StateT.run_map, run_mapM_asked]
  change (false || !(Markers.substitution.split text).contents.isEmpty) = _
  simp [isDynamic, Split.hasSpan, Split.contents]

/-- Noting changes no result, and something is noted exactly if there is a content. -/
theorem run_mapM_noting {ε : Type} (handler : String → Except ε String)
    (contents : List String) :
    ∃ noted, (contents.mapM (noting handler)).run.run [] = (contents.mapM handler, noted) ∧
      (noted = [] ↔ contents = []) := by
  cases hrun : contents.mapM handler with
  | ok texts =>
    exact ⟨contents, Split.run_mapM_noting_of_ok (forall₂_of_mapM_eq_ok hrun) [], .rfl⟩
  | error e =>
    obtain ⟨before, content, after, rfl, hbefore, h⟩ := mapM_eq_error_iff.1 hrun
    exact ⟨before ++ [content], Split.run_mapM_noting_of_error hbefore h [], by simp⟩

/-- Filling in evaluates nothing exactly in texts that are not dynamic, and noting changes no
result. -/
theorem substituted_eq (s : Settings) (scope : Scope) (text : String) :
    (substituted s scope text).1 =
        (Markers.substitution.replaceM (s.substitute scope) text).map some ∧
      ((substituted s scope text).2 = [] ↔ isDynamic text = false) := by
  obtain ⟨noted, hrun, hnoted⟩ :=
    run_mapM_noting (s.substitute scope) (Markers.substitution.split text).contents
  have hsubstituted : substituted s scope text =
      ((Markers.substitution.replaceM (s.substitute scope) text).map some, noted) := by
    rw [substituted, Markers.scanM_eq_some rfl rfl, ExceptT.run_map, StateT.run_map, hrun,
      Markers.replaceM, Split.joinM_eq]
    cases (Markers.substitution.split text).contents.mapM (s.substitute scope) with
    | error e => rfl
    | ok texts => rfl
  rw [hsubstituted]
  refine ⟨rfl, hnoted.trans ?_⟩
  simp [isDynamic, Split.hasSpan, Split.contents]

theorem applyTo_expandSubstituting_eq (s : Settings) (text : String) (c : Context) :
    (expandSubstituting s text).applyTo c =
      match Markers.substitution.replaceM
          (s.substitute c.withParameter.bindings.lookup) text with
      | .ok sql => (.ok (), c.withParameter.append sql)
      | .error e => (.error e, c.withParameter) := by
  have hask (c : Context) : (Settings.ask fun scope =>
      Markers.substitution.replaceM (s.substitute scope) text).applyTo c =
        (Markers.substitution.replaceM (s.substitute c.bindings.lookup) text, c) := by
    simp only [Settings.ask, Expansion.applyTo_bind, Expansion.applyTo_get]
    cases Markers.substitution.replaceM (s.substitute c.bindings.lookup) text with
    | error e => rfl
    | ok sql => rfl
  have hbind : (expandSubstituting s text).applyTo c =
      ((Settings.ask fun scope => Markers.substitution.replaceM (s.substitute scope) text) >>=
        fun sql => modify (·.append sql)).applyTo c.withParameter := by
    simp only [expandSubstituting, Expansion.applyTo_bind, Expansion.applyTo_get,
      Context.withParameter]
    cases c.bindings.parameter.isScalar with
    | true => simp [Expansion.applyTo_bind, hask]
    | false => simp [Expansion.applyTo_bind, hask]
  rw [hbind, Expansion.applyTo_bind, hask]
  cases Markers.substitution.replaceM (s.substitute c.withParameter.bindings.lookup) text with
  | error e => rfl
  | ok sql => rfl

end Template

/-! ## One cut for all handlers -/

open Template (substituted asked expandSubstituting isDynamic)

/-- **Spans do not depend on the handler.** For markers that do not end in a backslash, a scan calls
every handler on the contents of one cut of the text, from left to right, and puts what it returns
between the literals of the cut. A handler that keeps state and fails is called once on each
content, in the states that it leaves behind; or the scan ends with its first failure, after exactly
the calls up to it.

So a text can be prepared exactly if each of its contents has a mapping. The mappings are those of
the contents, in order, with a question mark for each; a failure is that of the first content
without a mapping. And a text is dynamic exactly if a run that fills in its substitutions evaluates
at least one expression. -/
theorem same_spans_for_every_handler :
    (∀ (m : Markers) (text : String), m.opening.endsInBackslash = false →
      m.closing.endsInBackslash = false →
      let cut := m.split text
      (∀ (M : Type → Type) [Monad M] [LawfulMonad M] (handler : String → M String),
        m.scanM handler text = do
          let texts ← cut.contents.mapM handler
          return some (cut.fillWith texts)) ∧
      ∀ (ε σ : Type) (handler : String → ExceptT ε (StateM σ) String) (s : σ),
        let run := (m.scanM (recording handler) text).run.run ([], s)
        (∃ texts s', Answers handler cut.contents texts s s' ∧
          run = (.ok (some (cut.fillWith texts)), cut.contents, s')) ∨
        ∃ before content after texts s' e s'', cut.contents = before ++ content :: after ∧
          Answers handler before texts s s' ∧ (handler content).run.run s' = (.error e, s'') ∧
          run = (.error e, before ++ [content], s'')) ∧
    (∀ schema sql,
      let cut := Markers.placeholder.split sql
      Prepared.scanned schema sql = (Prepared.ofSql schema false sql).map some ∧
      ((∃ p, Prepared.ofSql schema false sql = .ok p) ↔
        ∀ content ∈ cut.contents, ∃ mapping, Mapping.ofContent schema content = .ok mapping) ∧
      (∀ p, Prepared.ofSql schema false sql = .ok p →
        List.Forall₂ (fun content mapping => Mapping.ofContent schema content = .ok mapping)
            cut.contents p.mappings ∧
          p.sql = cut.fillWith (cut.contents.map fun _ => "?")) ∧
      ∀ e, Prepared.ofSql schema false sql = .error e ↔
        ∃ before content after, cut.contents = before ++ content :: after ∧
          (∀ c ∈ before, ∃ mapping, Mapping.ofContent schema c = .ok mapping) ∧
          Mapping.ofContent schema content = .error e) ∧
    ∀ text,
      ((Markers.substitution.scanM asked text).run false).2 = isDynamic text ∧
      ∀ s c,
        let run := substituted s c.withParameter.bindings.lookup text
        ((expandSubstituting s text).applyTo c =
          match run.1 with
          | .ok sql => (.ok (), c.withParameter.append (sql.getD ""))
          | .error e => (.error e, c.withParameter)) ∧
        (isDynamic text = true ↔ run.2 ≠ []) := by
  refine ⟨fun m text hopening hclosing => ⟨fun M _ _ handler => ?_, fun ε σ handler s => ?_⟩,
    fun schema sql => ⟨Prepared.scanned_eq schema sql, ?_, fun p h => ?_, fun e => ?_⟩,
    fun text => ⟨Template.run_scanM_asked text, fun s c => ⟨?_, ?_⟩⟩⟩
  · rw [Markers.scanM_eq_some hopening hclosing, map_eq_pure_bind]
  · exact run_scanM_recording hopening hclosing handler text s
  · rw [← exists_mapM_eq_ok_iff, Prepared.ofSql_eq]
    constructor
    · rintro ⟨p, h⟩
      obtain ⟨mappings, hmappings, -⟩ := exists_of_map_eq_ok h
      exact ⟨mappings, hmappings⟩
    · rintro ⟨mappings, h⟩
      exact ⟨_, by rw [h]; rfl⟩
  · rw [Prepared.ofSql_eq] at h
    obtain ⟨mappings, hmappings, rfl⟩ := exists_of_map_eq_ok h
    exact ⟨forall₂_of_mapM_eq_ok hmappings, rfl⟩
  · rw [← mapM_eq_error_iff, Prepared.ofSql_eq]
    cases (Markers.placeholder.split sql).contents.mapM (Mapping.ofContent schema) with
    | error e' => exact ⟨fun h => by cases h; rfl, fun h => by cases h; rfl⟩
    | ok mappings => exact ⟨nofun, nofun⟩
  · rw [Template.applyTo_expandSubstituting_eq, (Template.substituted_eq s _ text).1]
    cases Markers.substitution.replaceM (s.substitute c.withParameter.bindings.lookup) text with
    | error e => rfl
    | ok sql => rfl
  · rw [← Bool.not_eq_false, Ne, not_iff_not]
    exact (Template.substituted_eq s _ text).2.symm

/-- A handler that counts its calls and fails on the second of three contents. -/
theorem same_spans_for_counting_handler :
    let text := "#\x7ba\x7d \\#\x7bx\x7d #\x7bb\\\x7d\x7d #\x7bc\x7d"
    let handler : String → ExceptT Unit (StateM (List String × Nat)) String :=
      recording fun content => do
        modify (· + 1)
        if content = "b\x7d" then throw () else return "?"
    (Markers.placeholder.scanM handler text).run.run ([], 0) =
      (.error (), ["a", "b\x7d"], 2) := by
  intro text handler
  have hcut : Markers.placeholder.split text =
      ⟨[⟨[], ['a']⟩, ⟨" #\x7bx\x7d ".toList, "b\x7d".toList⟩, ⟨[' '], ['c']⟩], some []⟩ := by
    decide +kernel
  rw [(same_spans_for_every_handler.1 Markers.placeholder text rfl rfl).1 _ handler, hcut]
  rfl

end SqlTemplate
