import SqlTemplate.Proofs.Expansion.Noninterference
import SqlTemplate.Proofs.Expansion.Origin

/-!
# How written texts are filled

A text that comes out of an expansion is a text of the template, or the opening, closing or
separating text of a loop. In a dynamic text a value stands between two literals for each
substitution. A `Filling` holds the literals and the values of such a text apart.

**Theorem (`Template.exists_fillings`).** The texts that come out of an expansion that succeeds are
fillings of the texts of the template. Their values are the texts that have been substituted, in
order.

Values are computed before the text that they stand in is written, so the steps of a program are
read with the values that wait to be written (`Spelled`).
-/

namespace SqlTemplate

/-! ## Fillings -/

/-- A text with values between its literals, each literal before its value, and the renamings that
the text goes through. -/
structure Filling where
  parts : List (String × String)
  tail : String
  renamings : List Renaming

namespace Filling

/-- The literals, in order. -/
def literals (f : Filling) : List String := f.parts.map Prod.fst ++ [f.tail]

/-- The values, in order. -/
def values (f : Filling) : List String := f.parts.map Prod.snd

/-- The text that is written. -/
def text (f : Filling) : String := String.join (f.parts.map fun p => p.1 ++ p.2) ++ f.tail

/-- The text as it comes out. -/
def emission (f : Filling) : Emission := ⟨f.text, f.renamings⟩

end Filling

/-- The texts around and between the iterations of a loop. -/
def Loop.texts (l : Loop) : List String :=
  l.opening.toList ++ l.closing.toList ++ l.separator.toList

namespace Template

/-- The literals of a text: all of it, if it is not dynamic. -/
def literalsOf (text : String) : List String :=
  if isDynamic text then
    let split := Markers.substitution.split text
    split.spans.map (fun span => String.ofList span.lead) ++ [String.ofList (split.tail.getD [])]
  else [text]

/-- The texts that a template can write, each as the list of its literals. Before the first fragment
of a loop the separator is empty. -/
def cuts (t : Template) : List (List String) :=
  [""] :: t.texts.map literalsOf ++ (t.loops.flatMap Loop.texts).map ([·])

theorem literalsOf_mem_cuts {t : Template} {text : String} (h : text ∈ t.texts) :
    literalsOf text ∈ t.cuts :=
  List.mem_append_left _ (List.mem_cons_of_mem _ (List.mem_map_of_mem h))

theorem singleton_mem_cuts {t : Template} {l : Loop} {text : String} (hl : l ∈ t.loops)
    (h : text ∈ l.texts) : [text] ∈ t.cuts :=
  List.mem_append_right _ (List.mem_map_of_mem (List.mem_flatMap.2 ⟨l, hl, h⟩))

end Template

/-! ## Steps that write fillings -/

variable {own : List (List String)} {α β : Type}

/-- A step that neither computes a text nor writes one, and adds no separator but an own text. -/
def Step.Quiet (own : List (List String)) : Step → Prop
  | substitute _ _ | write _ => False
  | enter _ separator _ => [separator] ∈ own
  | _ => True

/-- Steps that write fillings of own texts, where some values have been computed before them. -/
inductive Spelled (own : List (List String)) : List String → List Step → Prop
  | nil : Spelled own [] []
  | quiet {step : Step} {values : List String} {rest : List Step} (h : step.Quiet own)
      (hrest : Spelled own values rest) : Spelled own values (step :: rest)
  | substitute {values : List String} {expression value : String} {rest : List Step}
      (hrest : Spelled own (values ++ [value]) rest) :
      Spelled own values (.substitute expression value :: rest)
  | write {f : Filling} {rest : List Step} (hf : f.literals ∈ own) (hrest : Spelled own [] rest) :
      Spelled own f.values (.write f.text :: rest)

theorem Spelled.append {values : List String} {before after : List Step}
    (h : Spelled own values before) (h' : Spelled own [] after) :
    Spelled own values (before ++ after) := by
  induction h with
  | nil => exact h'
  | quiet hstep _ ih => exact .quiet hstep ih
  | substitute _ ih => exact .substitute ih
  | write hf _ ih => exact .write hf ih

/-- Where a program succeeds, it writes fillings of own texts. -/
def Spells (own : List (List String)) (p : Recorded α) : Prop :=
  ∀ c a, (p c).result = .ok a → Spelled own [] (p c).steps

namespace Spells

theorem take {step : Step} (h : step.Quiet own) : Spells own (Recorded.take step) :=
  fun _ _ _ => .quiet h .nil

/-- A text without values. -/
theorem write {text : String} (h : [text] ∈ own) : Spells own (Recorded.take (.write text)) := by
  intro c a _
  have hf := Spelled.write (f := ⟨[], text, []⟩) h .nil
  rwa [show Filling.text ⟨[], text, []⟩ = text from String.empty_append] at hf

theorem bind {p : Recorded α} {next : α → Recorded β} (h : Spells own p)
    (hnext : ∀ a, Spells own (next a)) : Spells own (p >>= next) := by
  intro c b hb
  obtain ⟨a, ha, hb⟩ := Recorded.bind_eq_ok hb
  rw [Recorded.bind_of_ok ha]
  exact (h c a ha).append (hnext a _ b hb)

theorem compositional : Compositional (Spells own) :=
  ⟨fun _ _ _ _ => .nil, bind, fun _ _ _ _ => .nil, fun _ => take trivial, fun _ => take trivial⟩

/-- The values of spans wait for the text to be written. -/
theorem exists_parts_of_recordSpans (own : List (List String)) {s : Settings}
    {spans : List Span} {c : Context} {texts : List String}
    (h : (s.recordSpans spans c).result = .ok texts) :
    ∃ parts : List (String × String),
      parts.map Prod.fst = spans.map (fun span => String.ofList span.lead) ∧
      texts = parts.map (fun p => p.1 ++ p.2) ∧
      ∀ values rest, Spelled own (values ++ parts.map Prod.snd) rest →
        Spelled own values ((s.recordSpans spans c).steps ++ rest) := by
  induction spans generalizing c texts with
  | nil =>
    cases h
    refine ⟨[], rfl, rfl, fun values rest hrest => ?_⟩
    rwa [List.map_nil, List.append_nil] at hrest
  | cons span spans ih =>
    rw [Settings.recordSpans, Recorded.ask_bind_apply] at h ⊢
    cases hvalue : s.engine.value (String.ofList span.content) c.bindings.lookup with
    | error e => rw [hvalue] at h; cases h
    | ok value =>
      rw [hvalue] at h
      dsimp only at h ⊢
      rw [Recorded.take_bind_apply] at h ⊢
      dsimp only [Step.apply] at h ⊢
      split at h
      · next hpasses =>
        rw [if_pos hpasses]
        obtain ⟨texts', htexts', h⟩ := Recorded.bind_eq_ok h
        cases h
        obtain ⟨parts, hleads, rfl, hspelled⟩ := ih htexts'
        refine ⟨(String.ofList span.lead, value.substitution) :: parts, ?_, rfl, ?_⟩
        · rw [List.map_cons, List.map_cons, hleads]
        · intro values rest hrest
          rw [Recorded.bind_of_ok htexts']
          change Spelled own values (.substitute _ _ ::
            ((s.recordSpans spans c).steps ++ [] ++ rest))
          rw [List.append_nil]
          refine .substitute (hspelled _ rest ?_)
          rwa [List.append_assoc]
      · cases h

theorem recordSubstituted {s : Settings} {split : Split}
    (h : split.spans.map (fun span => String.ofList span.lead) ++
      [String.ofList (split.tail.getD [])] ∈ own) :
    Spells own (Template.recordSubstituted s split) := by
  intro c a ha
  obtain ⟨texts, htexts, ha⟩ := Recorded.bind_eq_ok ha
  obtain ⟨parts, hleads, rfl, hspelled⟩ := exists_parts_of_recordSpans own htexts
  rw [Template.recordSubstituted, Recorded.bind_of_ok htexts]
  refine hspelled [] _ ?_
  rw [← hleads] at h
  exact Spelled.write (f := ⟨parts, String.ofList (split.tail.getD []), []⟩) h .nil

theorem recordText {s : Settings} {text : String} (h : Template.literalsOf text ∈ own) :
    Spells own (Template.recordText s text) := by
  rw [Template.literalsOf] at h
  rw [Template.recordText]
  split at h
  · next hdynamic =>
    rw [if_pos hdynamic]
    intro c
    rw [Recorded.look_bind_apply]
    dsimp only
    split
    · have hbind (value : Value) : Spells own (Recorded.take (.bind "value" value)) := take trivial
      exact (hbind _).bind (fun _ => recordSubstituted h) c
    · exact recordSubstituted h c
  · next hstatic =>
    rw [if_neg hstatic]
    exact write h

theorem recordElement {l : Loop} {body : Recorded Unit} (hempty : [""] ∈ own)
    (hl : ∀ text ∈ l.texts, [text] ∈ own) (hbody : Spells own body) (isFirst : Bool)
    (element : Value × Value) : Spells own (l.recordElement body isFirst element) := by
  have henter :
      (Step.enter l (if isFirst then "" else l.separator.getD "") element).Quiet own := by
    cases isFirst with
    | true => exact hempty
    | false =>
      cases hseparator : l.separator with
      | none => exact hempty
      | some separator =>
        exact hl separator (List.mem_append_right _ (Option.mem_toList.2 hseparator))
  refine (take henter).bind fun _ c a ha => ?_
  cases hr : (body c).result with
  | error e => rw [Recorded.closing, hr] at ha; cases ha
  | ok u => exact (hbody c u hr).append (.quiet trivial .nil)

theorem recordLoop {s : Settings} {l : Loop} {body : Recorded Unit} (hempty : [""] ∈ own)
    (hl : ∀ text ∈ l.texts, [text] ∈ own) (hbody : Spells own body) :
    Spells own (l.record s body) := by
  rw [Loop.record_eq]
  refine (compositional.ask _).bind fun collection => ?_
  refine Loop.recordOver_of compositional (fun text htext => write (hl text ?_))
    (fun text htext => write (hl text ?_)) (fun _ _ => take trivial)
    fun isFirst element _ => recordElement hempty hl hbody isFirst element
  · exact List.mem_append_left _ (List.mem_append_left _ (Option.mem_toList.2 htext))
  · exact List.mem_append_left _ (List.mem_append_right _ (Option.mem_toList.2 htext))

end Spells

/-- **A template writes fillings of its texts.** -/
theorem Template.spells (s : Settings) (t : Template) : Spells t.cuts (t.record s) :=
  record_of Spells.compositional (fun _ htext => Spells.recordText (literalsOf_mem_cuts htext))
    fun _ hl _ hbody => Spells.recordLoop List.mem_cons_self
      (fun _ htext => singleton_mem_cuts hl htext) hbody

/-! ## What comes out -/

/-- All separators around a place are own texts. -/
def Context.Separated (own : List (List String)) (c : Context) : Prop :=
  ∀ text, .separator text false ∈ c.layers.map Layer.outline → [text] ∈ own

namespace Context.Separated

variable {c : Context}

theorem quiet {step : Step} (h : c.Separated own) (hstep : step.Quiet own) :
    (step.apply c).Separated own := by
  cases step with
  | test | count | bind | unbind => exact h
  | substitute | write => exact hstep.elim
  | leave => exact fun text htext => h text (by
      rw [Step.apply, leave, List.map_drop] at htext
      exact List.mem_of_mem_drop htext)
  | enter l separator element =>
    intro text htext
    rw [Step.apply, enter_layers, List.map_cons, List.map_cons, List.mem_cons,
      List.mem_cons] at htext
    rcases htext with htext | htext | htext
    · cases htext
    · cases htext
      exact hstep
    · exact h text htext

theorem write (h : c.Separated own) (text : String) : (c.append text).Separated own := by
  intro separator hseparator
  rw [append_layers, Layer.outline_pass] at hseparator
  exact h separator hseparator

end Context.Separated

/-- **What comes out is filled.** The texts that come out of a run are fillings of own texts, and
their values are the texts that have been computed, in order. -/
theorem Spelled.exists_fillings {values : List String} {steps : List Step}
    (h : Spelled own values steps) {c : Context} (hc : c.Separated own) :
    ∃ fillings : List Filling,
      fillings.map Filling.emission = (emissionsOf steps c).map Prod.fst ∧
      (∀ f ∈ fillings, f.literals ∈ own) ∧
      fillings.flatMap Filling.values = values ++ textsOf steps := by
  induction h generalizing c with
  | nil => exact ⟨[], rfl, List.forall_mem_nil _, rfl⟩
  | @quiet step values rest hstep _ ih =>
    obtain ⟨fillings, hemissions, hown, hvalues⟩ := ih (hc.quiet hstep)
    refine ⟨fillings, hemissions.trans ?_, hown, hvalues.trans ?_⟩
    · cases step with
      | write => exact hstep.elim
      | _ => rfl
    · cases step with
      | substitute => exact hstep.elim
      | _ => rfl
  | @substitute values expression value rest _ ih =>
    obtain ⟨fillings, hemissions, hown, hvalues⟩ := ih hc
    refine ⟨fillings, hemissions, hown, hvalues.trans ?_⟩
    rw [List.append_assoc]
    rfl
  | @write f rest hf _ ih =>
    obtain ⟨fillings, hemissions, hown, hvalues⟩ := ih (hc.write f.text)
    obtain ⟨before, hpass, hbefore⟩ := Layer.tracePass_concat c.layers [] ⟨f.text, []⟩
    -- The separators that the text calls for come out before it.
    refine ⟨before.map (fun e => ⟨[], e.text, e.renamings⟩) ++
      { f with renamings := Layer.renamings c.layers } :: fillings, ?_, ?_, ?_⟩
    · rw [List.nil_append] at hpass
      rw [emissionsOf, Step.emissions, hpass]
      simp only [List.map_append, List.map_cons, List.map_map, List.map_nil, List.append_assoc,
        List.singleton_append, Step.apply, hemissions]
      refine congrArg₂ (· ++ ·) (List.map_congr_left fun e _ => ?_) rfl
      exact congrArg (Emission.mk · e.renamings) String.empty_append
    · refine List.forall_mem_append.2 ⟨List.forall_mem_map.2 fun e he => ?_,
        List.forall_mem_cons.2 ⟨hf, hown⟩⟩
      rcases hbefore e he with ⟨y, hy, -⟩ | hseparator
      · cases hy
      · exact hc e.text hseparator
    · rw [List.flatMap_append, List.flatMap_cons, hvalues, List.flatMap_map]
      simp [Filling.values, textsOf]

/-- **Texts come out filled.** The texts that come out of an expansion that succeeds are fillings of
the texts of the template, and their values are the texts that have been substituted, in order. -/
theorem Template.exists_fillings {s : Settings} {t : Template} {c : Context} {took : Bool}
    (h : (t.record s c).result = .ok took) (hc : c.layers = []) :
    ∃ fillings : List Filling,
      fillings.map Filling.emission = (emissionsOf (t.record s c).steps c).map Prod.fst ∧
      (∀ f ∈ fillings, f.literals ∈ t.cuts) ∧
      fillings.flatMap Filling.values = textsOf (t.record s c).steps := by
  have hseparated : c.Separated t.cuts := by
    intro text htext
    rw [hc] at htext
    cases htext
  exact (t.spells s c took h).exists_fillings hseparated

end SqlTemplate
