import SqlTemplate.Proofs.Expansion.Locality
import SqlTemplate.Proofs.Expansion.Shadow

/-!
# The separators of a loop

The separator of a loop stands between the elements that have something to say. An element whose
fragments are all blank leaves it pending, and the first fragment that is not blank takes it.

**Theorem (`separated_outputs`).** Let a loop succeed, inside any layers. Of the fragments that it
hands over, those that are not empty are the opening, the outputs of the elements in order, and the
closing, where the output of an element has the separator directly before its first fragment that is
not blank exactly if an element before it has such a fragment as well. So there is one separator
less than there are elements that speak. A loop over nothing leaves its context as it is.

The output of an element is what its body hands over where it is expanded on its own, in the
bindings of the iteration, with the references to the variables renamed (`Loop.outputs`). What makes
the outputs independent of the separators and of each other's texts is that an expansion is local
(`Template.applyTo_expand_alone`).
-/

namespace SqlTemplate

/-! ## Speaking -/

namespace Layer

/-- Whether one of these fragments is not blank. -/
def speaks (fragments : List String) : Bool := fragments.any fun sql => !isBlankText sql

/-- Fragments with a separator directly before the first one that is not blank. -/
def withSeparator (separator : String) : List String → List String
  | [] => []
  | sql :: rest =>
    if isBlankText sql then sql :: withSeparator separator rest else separator :: sql :: rest

theorem speaks_cons (sql : String) (rest : List String) :
    speaks (sql :: rest) = (!isBlankText sql || speaks rest) := rfl

theorem throughAll_rename (r : Renaming) (fragments : List String) :
    (rename r).throughAll fragments = (rename r, fragments.map r.fragment) := by
  induction fragments with
  | nil => rfl
  | cons sql rest ih => simp only [throughAll, through, ih, List.map_cons, List.singleton_append]

/-- A separator that has been put once lets everything pass. -/
theorem throughAll_separator_applied (text : String) (fragments : List String) :
    (separator text true).throughAll fragments = (separator text true, fragments) := by
  induction fragments with
  | nil => rfl
  | cons sql rest ih =>
    have hthrough : (separator text true).through sql = (separator text true, [sql]) := rfl
    simp only [throughAll, hthrough, ih, List.singleton_append]

/-- A separator waits for the first fragment that is not blank. -/
theorem throughAll_separator (text : String) (fragments : List String) :
    (separator text false).throughAll fragments =
      (separator text (speaks fragments), withSeparator text fragments) := by
  induction fragments with
  | nil => rfl
  | cons sql rest ih =>
    rw [withSeparator, speaks_cons]
    cases hblank : isBlankText sql with
    | true =>
      have hthrough : (separator text false).through sql = (separator text false, [sql]) := by
        simp [through, hblank]
      simp only [throughAll, hthrough, ih]
      rfl
    | false =>
      have hthrough : (separator text false).through sql = (separator text true, [text, sql]) := by
        simp [through, hblank]
      simp only [throughAll, hthrough, throughAll_separator_applied]
      rfl

/-- What the two layers of an iteration make of the fragments of its body. -/
theorem pass_iteration (r : Renaming) (text : String) (fragments : List String) :
    pass [rename r, separator text false] fragments =
      ([rename r, separator text (speaks (fragments.map r.fragment))],
        withSeparator text (fragments.map r.fragment)) := by
  simp only [pass, throughAll_rename, throughAll_separator]

theorem filter_withSeparator_empty (fragments : List String) :
    (withSeparator "" fragments).filter (· ≠ "") = fragments.filter (· ≠ "") := by
  induction fragments with
  | nil => rfl
  | cons sql rest ih =>
    rw [withSeparator]
    split
    · rw [List.filter_cons, List.filter_cons, ih]
    · rw [List.filter_cons, if_neg (by simp)]

theorem count_withSeparator (separator text : String) (fragments : List String) :
    (withSeparator separator fragments).count text =
      fragments.count text + if separator = text ∧ speaks fragments then 1 else 0 := by
  induction fragments with
  | nil => simp [withSeparator, speaks]
  | cons sql rest ih =>
    rw [withSeparator, speaks_cons]
    cases isBlankText sql with
    | true =>
      rw [if_pos rfl, List.count_cons, List.count_cons, ih, Bool.not_true, Bool.false_or,
        Nat.add_right_comm]
    | false => simp [List.count_cons]

end Layer

open Layer (speaks withSeparator)

/-! ## Outputs one after another -/

/-- Outputs, each with the separator if it speaks and one before it does so. -/
def separated (separator : String) (outputs : List (List String)) : List String :=
  (outputs.mapIdx fun i output =>
    if (outputs.take i).any speaks then withSeparator separator output else output).flatten

/-- Outputs with a separator that is empty until one has spoken. -/
def separatedFrom (separator : String) (isFirst : Bool) : List (List String) → List String
  | [] => []
  | output :: rest =>
    withSeparator (if isFirst then "" else separator) output ++
      separatedFrom separator (isFirst && !speaks output) rest

/-- Carrying along whether one has spoken is asking, at each place, whether one has. -/
theorem filter_separatedFrom (separator : String) (isFirst : Bool) (outputs : List (List String)) :
    (separatedFrom separator isFirst outputs).filter (· ≠ "") =
      (outputs.mapIdx fun i output =>
        if !isFirst || (outputs.take i).any speaks then withSeparator separator output
        else output).flatten.filter (· ≠ "") := by
  induction outputs generalizing isFirst with
  | nil => rfl
  | cons output rest ih =>
    have hfirst : (withSeparator (if isFirst then "" else separator) output).filter (· ≠ "") =
        (if !isFirst then withSeparator separator output else output).filter (· ≠ "") := by
      cases isFirst with
      | true => exact Layer.filter_withSeparator_empty output
      | false => rfl
    have hspoken (i : Nat) : (!isFirst || ((output :: rest).take (i + 1)).any speaks) =
        (!(isFirst && !speaks output) || (rest.take i).any speaks) := by
      rw [List.take_succ_cons, List.any_cons]
      cases isFirst <;> simp
    rw [separatedFrom, List.filter_append, hfirst, ih, List.mapIdx_cons, List.flatten_cons,
      List.filter_append]
    simp only [hspoken, List.take_zero, List.any_nil, Bool.or_false]

/-- There is one separator less than there are outputs that speak. -/
theorem count_separatedFrom {separator : String} (hseparator : separator ≠ "") (isFirst : Bool)
    (outputs : List (List String)) :
    (separatedFrom separator isFirst outputs).count separator =
      outputs.flatten.count separator + (outputs.countP speaks - isFirst.toNat) := by
  induction outputs generalizing isFirst with
  | nil => simp [separatedFrom]
  | cons output rest ih =>
    rw [separatedFrom, List.count_append, ih, Layer.count_withSeparator, List.flatten_cons,
      List.count_append, List.countP_cons]
    cases isFirst <;> cases speaks output <;> simp [Ne.symm hseparator] <;> omega

/-! ## The outputs of a loop -/

namespace Loop

/-- What the body of a loop hands over for an element that is next in this context: the fragments
of its expansion in the bindings of the iteration, with the variables renamed. -/
def output (s : Settings) (l : Loop) (contents : List Template) (c : Context)
    (element : Value × Value) : List String :=
  ((Template.mixed contents).handed s (c.enter l "" element)).map
    (Renaming.mk l.item l.index c.next).fragment

/-- The outputs for elements one after another. -/
def outputs (s : Settings) (l : Loop) (contents : List Template) :
    List (Value × Value) → Context → List (List String)
  | [], _ => []
  | element :: rest, c =>
    l.output s contents c element ::
      outputs s l contents rest
        (((Template.mixed contents).expand s).applyTo (c.enter l "" element).alone).2

variable {s : Settings} {l : Loop} {contents : List Template}

theorem length_outputs (elements : List (Value × Value)) (c : Context) :
    (l.outputs s contents elements c).length = elements.length := by
  induction elements generalizing c with
  | nil => rfl
  | cons element rest ih => exact congrArg (· + 1) (ih _)

/-- What an iteration begins with does not depend on the separator and on what is around. -/
theorem alone_enter (c : Context) (separator : String) (element : Value × Value) :
    (c.enter l separator element).alone = (c.alone.enter l "" element).alone := by
  simp only [Context.enter, Context.bindVariable]
  cases l.item <;> cases l.index <;> rfl

theorem outputs_alone (elements : List (Value × Value)) (c : Context) :
    l.outputs s contents elements c.alone = l.outputs s contents elements c := by
  cases elements with
  | nil => rfl
  | cons element rest =>
    simp only [outputs, output, Template.handed, alone_enter c]
    rfl

theorem steps_record_mixed (s : Settings) (contents : List Template) (c : Context) :
    ((Template.mixed contents).record s c).steps = (Template.recordAll s contents c).steps := by
  rw [Template.record]
  cases hr : (Template.recordAll s contents c).result with
  | error e => rw [Recorded.bind_of_error hr]
  | ok done =>
    rw [Recorded.bind_of_ok hr]
    exact List.append_nil _

/-- **One iteration.** What comes out is the output of the element behind its separator, and the
iteration tells whether the element spoke. The next one begins where the body ended. -/
theorem recordElement_eq_ok {isFirst written : Bool} {element : Value × Value} {c : Context}
    (hc : c.layers = [])
    (h : (l.recordElement (Template.recordAll s contents) isFirst element c).result = .ok written) :
    let steps := (l.recordElement (Template.recordAll s contents) isFirst element c).steps
    fragmentsOf steps c =
        withSeparator (l.separatorAt isFirst) (l.output s contents c element) ∧
      written = speaks (l.output s contents c element) ∧ (replay steps c).layers = [] ∧
      (replay steps c).alone =
        (((Template.mixed contents).expand s).applyTo (c.enter l "" element).alone).2.alone := by
  intro steps
  let body : Recorded Unit := Template.recordAll s contents
  let r : Renaming := ⟨l.item, l.index, c.next⟩
  let entered := c.enter l (l.separatorAt isFirst) element
  have hstart : entered.alone = (c.enter l "" element).alone :=
    (alone_enter c _ element).trans (alone_enter c "" element).symm
  have hlocal : Local body := Template.local_recordAll s contents
  -- The body runs as it does alone, and its fragments go through the two layers of the iteration.
  let fragments := fragmentsOf (body entered.alone).steps entered.alone
  have hbody : body entered = body entered.alone := hlocal.same entered.alone entered
  have houtput : l.output s contents c element = fragments.map r.fragment := by
    rw [output, Template.handed, steps_record_mixed, ← hstart]
  have hlayers : entered.layers = [.rename r, .separator (l.separatorAt isFirst) false] := by
    rw [Context.enter_layers, hc]
  have hpass : Layer.pass entered.layers fragments =
      ([.rename r, .separator (l.separatorAt isFirst) (speaks (l.output s contents c element))],
        withSeparator (l.separatorAt isFirst) (l.output s contents c element)) := by
    rw [hlayers, Layer.pass_iteration, houtput]
  have hended : replay (body entered.alone).steps entered =
      (replay (body entered.alone).steps entered.alone).within (entered.hand fragments) :=
    hlocal.replay entered.alone entered
  have hendedLayers : (replay (body entered.alone).steps entered).layers =
      (Layer.pass entered.layers fragments).1 := by
    rw [hended, Context.within, List.length_eq_zero_iff.1 (hlocal.length entered.alone)]
    exact Context.hand_layers entered fragments
  have hrun : l.recordElement body isFirst element c = _ := recordElement_eq entered rfl
  rw [hbody] at hrun
  have hsteps : steps = l.iterationSteps _ element (body entered.alone).steps :=
    congrArg Run.steps hrun
  refine ⟨?_, ?_, ?_, ?_⟩
  · rw [hsteps, fragmentsOf_iterationSteps]
    exact (hlocal.fragments entered.alone entered).trans (congrArg Prod.snd hpass)
  · have hwritten := (congrArg Run.result hrun).symm.trans h
    rw [hendedLayers, hpass] at hwritten
    cases hresult : (body entered.alone).result with
    | error e => rw [hresult] at hwritten; cases hwritten
    | ok done =>
      rw [hresult] at hwritten
      have hany := Except.ok.inj hwritten
      simpa [Layer.isApplied] using hany.symm
  · rw [hsteps, replay_iterationSteps]
    exact congrArg (List.drop 2) (hendedLayers.trans (congrArg Prod.fst hpass))
  · rw [hsteps, replay_iterationSteps, Template.applyTo_expand, steps_record_mixed, ← hstart]
    exact (congrArg (fun d => Context.alone (Context.leave d)) hended).trans rfl

/-- **All iterations.** What comes out are the outputs with their separators. -/
theorem fragmentsOf_recordElements {isFirst : Bool} {elements : List (Value × Value)} {c : Context}
    (hc : c.layers = [])
    (h : (l.recordElements (Template.recordAll s contents) isFirst elements c).result = .ok ()) :
    fragmentsOf (l.recordElements (Template.recordAll s contents) isFirst elements c).steps c =
      separatedFrom (l.separator.getD "") isFirst (l.outputs s contents elements c) := by
  induction elements generalizing isFirst c with
  | nil => rfl
  | cons element rest ih =>
    rw [recordElements] at h ⊢
    obtain ⟨written, hfirst, hrest⟩ := Recorded.bind_eq_ok h
    obtain ⟨hfragments, hwritten, hlayers, halone⟩ := recordElement_eq_ok hc hfirst
    rw [Recorded.bind_of_ok hfirst]
    dsimp only
    rw [fragmentsOf_append, hfragments, ih hlayers hrest, ← outputs_alone rest (replay _ c), halone,
      outputs_alone, hwritten]
    rfl

/-- An opening or a closing hands over itself, and changes nothing but the SQL. -/
theorem fragmentsOf_recordOptional_write (text : Option String) {c : Context}
    (hc : c.layers = []) :
    let steps := (recordOptional .write text c).steps
    fragmentsOf steps c = text.toList ∧ (replay steps c).layers = [] ∧
      (replay steps c).alone = c.alone := by
  cases text with
  | none => exact ⟨rfl, hc, rfl⟩
  | some text =>
    change fragmentsOf [.write text] c = [text] ∧ (c.append text).layers = [] ∧ _
    rw [fragmentsOf_cons, Step.fragments_write, Context.append_layers, hc]
    exact ⟨rfl, rfl, rfl⟩

theorem fragmentsOf_recordOptional_unbind (name : Option String) (c : Context) :
    fragmentsOf (recordOptional .unbind name c).steps c = [] := by
  cases name <;> rfl

/-- **A loop over something** hands over its opening, the outputs with their separators, and its
closing. -/
theorem fragmentsOf_recordOver {collection : Collection} {c : Context} (hc : c.layers = [])
    (hnonempty : collection.size ≠ 0)
    (h : (l.recordOver (Template.recordAll s contents) collection c).result = .ok ()) :
    fragmentsOf (l.recordOver (Template.recordAll s contents) collection c).steps c =
      l.opening.toList ++
        separatedFrom (l.separator.getD "") true (l.outputs s contents collection.elements c) ++
        l.closing.toList := by
  rw [recordOver, if_neg hnonempty, Recorded.take_bind_apply] at h ⊢
  rw [fragmentsOf_cons]
  dsimp only [Step.apply] at h ⊢
  obtain ⟨_, hopening, h⟩ := Recorded.bind_eq_ok h
  obtain ⟨hopeningFragments, hopened, halone⟩ :=
    fragmentsOf_recordOptional_write l.opening hc
  obtain ⟨_, helements, h⟩ := Recorded.bind_eq_ok h
  have helementsLocal : Local (l.recordElements (Template.recordAll s contents) true
      collection.elements) :=
    recordElements_of Local.compositional
      (fun isFirst element _ => (Template.local_recordAll s contents).recordElement isFirst element)
      true
  have hclosed := (helementsLocal.length _).trans (congrArg List.length hopened)
  obtain ⟨_, hclosing, h⟩ := Recorded.bind_eq_ok h
  obtain ⟨hclosingFragments, -, -⟩ :=
    fragmentsOf_recordOptional_write l.closing (List.length_eq_zero_iff.1 hclosed)
  obtain ⟨_, hitem, h⟩ := Recorded.bind_eq_ok h
  rw [fragmentsOf_bind hopening, fragmentsOf_bind helements, fragmentsOf_bind hclosing,
    fragmentsOf_bind hitem, hopeningFragments, fragmentsOf_recordElements hopened helements,
    hclosingFragments, fragmentsOf_recordOptional_unbind, fragmentsOf_recordOptional_unbind,
    ← outputs_alone, halone, outputs_alone]
  simp [Step.fragments, Step.emissions]

end Loop

/-- A loop that succeeds is one over a collection. -/
theorem Template.record_loop_eq_ok {s : Settings} {l : Loop} {contents : List Template}
    {c : Context} {took : Bool} (h : ((loop l contents).record s c).result = .ok took) :
    ∃ collection, s.engine.collection l.collection c.bindings.lookup = .ok collection ∧
      ((loop l contents).record s c).steps =
        (l.recordOver (recordAll s contents) collection c).steps ∧
      (l.recordOver (recordAll s contents) collection c).result = .ok () := by
  rw [record] at h ⊢
  obtain ⟨done, hloop, -⟩ := Recorded.bind_eq_ok h
  rw [Recorded.bind_of_ok hloop]
  rw [Loop.record_eq, Recorded.ask_bind_apply] at hloop ⊢
  cases hcollection : s.engine.collection l.collection c.bindings.lookup with
  | error e => rw [hcollection] at hloop; cases hloop
  | ok collection =>
    rw [hcollection] at hloop
    exact ⟨collection, rfl, List.append_nil _, hloop⟩

/-! ## The separators of a loop -/

/-- **The separators of a loop.** Let a loop succeed inside any layers. It hands its fragments to
what is around it, and does nothing over an empty collection. Over others there is one output for
each element, and the fragments that are not empty are those of the opening, of the outputs with
their separators, and of the closing. Compared to the outputs alone there are as many separators as
outputs that speak, less one. -/
theorem separated_outputs {s : Settings} {l : Loop} {contents : List Template} {c final : Context}
    {took : Bool} (h : ((Template.loop l contents).expand s).applyTo c = (.ok took, final)) :
    ∃ collection, s.engine.collection l.collection c.bindings.lookup = .ok collection ∧
      let handed := (Template.loop l contents).handed s c
      let outputs := l.outputs s contents collection.elements c
      let separator := l.separator.getD ""
      final.sql = (c.hand handed).sql ∧ final.layers = (c.hand handed).layers ∧
        (collection.size = 0 → final = c ∧ handed = []) ∧
        (collection.size ≠ 0 → outputs.length = collection.size ∧
          handed.filter (· ≠ "") =
            (l.opening.toList ++ separated separator outputs ++ l.closing.toList).filter (· ≠ "") ∧
          (separator ≠ "" → handed.count separator =
            (l.opening.toList ++ outputs.flatten ++ l.closing.toList).count separator +
              (outputs.countP speaks - 1))) := by
  have halone := Template.applyTo_expand_alone s (.loop l contents) c
  rw [Template.applyTo_expand] at halone
  obtain ⟨hexpand, -, hlayers⟩ := halone
  obtain ⟨hresult, hfinal⟩ := Prod.mk.inj (h.symm.trans hexpand)
  obtain ⟨collection, hcollection, hsteps, hover⟩ := Template.record_loop_eq_ok hresult.symm
  refine ⟨collection, hcollection, ?_⟩
  intro handed outputs separator
  have hhanded : handed = fragmentsOf
      (l.recordOver (Template.recordAll s contents) collection c.alone).steps c.alone := by
    rw [← hsteps]
    rfl
  refine ⟨by rw [hfinal]; rfl, ?_, fun hempty => ?_, fun hnonempty => ?_⟩
  · rw [hfinal, Context.within, hlayers]
    rfl
  · have hnone : handed = [] := by
      rw [hhanded, Loop.recordOver, if_pos hempty]
      rfl
    refine ⟨?_, hnone⟩
    rw [hfinal, hsteps, Loop.replay_recordOver_of_empty hempty]
    exact congrArg (fun fragments => c.alone.within (c.hand fragments)) hnone
  · have houtputs : handed = l.opening.toList ++ separatedFrom separator true outputs ++
        l.closing.toList := by
      rw [hhanded, Loop.fragmentsOf_recordOver rfl hnonempty hover, Loop.outputs_alone]
    refine ⟨(Loop.length_outputs _ c).trans collection.length_elements, ?_, fun hseparator => ?_⟩
    · rw [houtputs, List.filter_append, List.filter_append, filter_separatedFrom,
        List.filter_append, List.filter_append]
      rfl
    · rw [houtputs]
      simp only [List.count_append, count_separatedFrom hseparator, Bool.toNat_true]
      omega

/-- A loop inside a loop: the first element is silent, so the separator stands between the second
and the third, behind the blank fragment with which the third begins. -/
theorem separated_outputs_of_nested_loops :
    let l : Loop := ⟨"xs", some "x", none, some "[", some "]", some ","⟩
    let contents : List Template := [.text " ",
      .loop ⟨"x", some "y", none, some "(", some ")", some "-"⟩ [.text "$\x7by\x7d"]]
    let s : Settings := ⟨Engine.paths, none⟩
    let c := Context.ofParameter
      (.map [("xs", .list [.list [], .list [.int 1, .int 2], .list [.int 3]])]) none
    let run := ((Template.loop l contents).expand s).applyTo c
    let handed := (Template.loop l contents).handed s c
    run.1.toOption = some true ∧ run.2.sql = "[  (1-2) ,(3)]" ∧
      (∃ outputs, outputs.map speaks = [false, true, true] ∧
        handed.filter (· ≠ "") = (["["] ++ separated "," outputs ++ ["]"]).filter (· ≠ "")) ∧
      handed.count "," = 1 := by
  intro l contents s c run handed
  have hrun : run = (.ok true, run.2) := Prod.ext (by decide +kernel) rfl
  obtain ⟨collection, hcollection, hsql, -, -, hnonempty⟩ := separated_outputs hrun
  have hfacts : (s.engine.collection l.collection c.bindings.lookup).toOption.map
      (fun collection =>
        let outputs := l.outputs s contents collection.elements c
        (collection.size, outputs.map speaks, ("[" :: outputs.flatten ++ ["]"]).count ",",
          outputs.countP speaks)) = some (3, [false, true, true], 0, 2) := by
    decide +kernel
  rw [hcollection] at hfacts
  obtain ⟨hsize, hfacts⟩ := Prod.mk.inj (Option.some.inj hfacts)
  obtain ⟨hspeaks, hfacts⟩ := Prod.mk.inj hfacts
  obtain ⟨hown, hcount⟩ := Prod.mk.inj hfacts
  obtain ⟨-, hhanded, hseparators⟩ := hnonempty (by rw [hsize]; decide)
  refine ⟨congrArg (fun r => r.1.toOption) hrun, by decide +kernel, ⟨_, hspeaks, hhanded⟩, ?_⟩
  calc handed.count ","
    _ = 0 + (2 - 1) := (hseparators (by decide)).trans (by rw [hcount]; exact congrArg (· + 1) hown)
    _ = 1 := rfl

end SqlTemplate
