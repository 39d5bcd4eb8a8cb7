import SqlTemplate.Proofs.Json.Interpretation
import SqlTemplate.Proofs.Json.Reading
import SqlTemplate.Proofs.Template.Members

/-!
# Templates survive storage

A template is stored as a JSON document: an object with one member says what the template is, and
the members of a condition or a loop are its fields, those without a text left out. An absent text
and an empty one are so kept apart.

**Theorem (`survives_storage`).** The document that a template is stored as is read back as the
template, and so is the JSON value of the document, in which the members stand in the order of their
keys.

For a condition or a loop the proof goes by what its members are, not by their order (`StoredIn`):
those that are written are the members of its fields, and those in a JSON value are the same,
because each was interpreted from one of them and no key was lost. Reading them gives the fields
back (`Fits.exists_ofMembers?`).

A text holds fewer templates than a document does, since reading a text stops at a depth of nesting;
`read?_compact` says which templates are read back from their texts.
-/

namespace SqlTemplate.Template

open Json (Document Members)

variable {positional : Bool} {roles : List (String × Role)}

/-! ## Fields as they are written -/

namespace Fields

variable {g : Fields} {document : Document} {contents : List Template}

/-- What is true of all texts is true of all written members if it is true of the contents. -/
theorem forall_mem_written_iff {P : Document → Prop} (htext : ∀ text, P (.text (some text))) :
    (∀ m ∈ g.written document, m.1.isSome ∧ P m.2) ↔ P document := by
  refine ⟨fun h => (h _ (mem_written_iff.2 (.inr rfl))).2, fun h m hm => ?_⟩
  rcases mem_written_iff.1 hm with ⟨key, text, -, rfl⟩ | rfl
  · exact ⟨rfl, htext text⟩
  · exact ⟨rfl, h⟩

/-- Texts need no room. -/
theorem isSome_written_iff {room : Nat} :
    (Json.ofMembers? room (g.written document)).isSome ↔
      (Json.ofDocument? room document).isSome := by
  rw [Json.isSome_ofMembers?_iff]
  exact forall_mem_written_iff (P := fun d => (Json.ofDocument? room d).isSome) fun _ => rfl

theorem wellFormed_written_iff :
    Document.WellFormedMembers (g.written document) ↔ document.WellFormed := by
  rw [Document.wellFormedMembers_iff]
  exact forall_mem_written_iff (P := Document.WellFormed) fun _ => rfl

/-- What becomes of written members in a JSON value, where they are in the order of their keys. -/
theorem storedIn_table {room : Nat} {values : List (String × Json)}
    (hvalues : Json.ofMembers? room (g.written document) = some values)
    (hread : ∀ j, Json.ofDocument? room document = some j →
      ofContents? false j.toDocument = some contents)
    (hcontents : g.contents = some contents) :
    g.StoredIn false (Json.toMembers (Keyed.ofList values)) := by
  refine ⟨Json.nodup_keys_toMembers_ofList values, fun m hm => ?_, fun key text htext => ?_, ?_⟩
  · obtain ⟨key, written, value, rfl, hwritten, hvalue⟩ :=
      Json.exists_of_mem_toMembers_ofList hvalues hm
    rcases mem_written_iff.1 hwritten with ⟨_, text, htext, ⟨⟩⟩ | ⟨⟨⟩⟩
    · obtain rfl : Json.text text = value := Option.some.inj hvalue
      exact .inl ⟨key, text, htext, rfl⟩
    · exact .inr ⟨_, contents, rfl, hread value hvalue, hcontents⟩
  · rw [Json.mem_keys_toMembers_ofList hvalues]
    exact List.mem_map_of_mem (mem_written_iff.2 (.inl ⟨key, text, htext, rfl⟩))
  · rw [Json.mem_keys_toMembers_ofList hvalues]
    exact List.mem_map_of_mem (mem_written_iff.2 (.inr rfl))

end Fields

/-! ## Conditions and loops -/

/-- The members of a condition. -/
def conditionFields (test : String) (contents : List Template) : Fields :=
  ⟨[("test", some test)], some contents⟩

/-- The members of a loop. -/
def loopFields (l : Loop) (contents : List Template) : Fields where
  texts := [("collection", some l.collection), ("item", l.item), ("index", l.index),
    ("open", l.opening), ("close", l.closing), ("separator", l.separator)]
  contents := some contents

theorem fits_conditionFields (test : String) (contents : List Template) :
    (conditionFields test contents).Fits conditionRoles where
  only key := by
    rw [lookup_eq_some_iff_mem (by decide)]
    simp [conditionRoles]
  keys := by simp [conditionFields]
  text := by simp [conditionFields, conditionRoles]

theorem fits_loopFields (l : Loop) (contents : List Template) :
    (loopFields l contents).Fits loopRoles where
  only key := by
    rw [lookup_eq_some_iff_mem (by decide)]
    simp [loopRoles]
  keys := by simp [loopFields]
  text entry hmem := by
    rw [lookup_eq_some_iff_mem (by decide), lookup_eq_some_iff_mem (by decide)]
    simp only [loopFields, List.mem_cons, List.not_mem_nil, or_false] at hmem
    rcases hmem with rfl | rfl | rfl | rfl | rfl | rfl <;> simp [loopRoles]

theorem written_loopFields (l : Loop) (contents : List Template) (document : Document) :
    (loopFields l contents).written document =
      loopMembers l ++ [(some "contents", document)] := by
  simp [Fields.written, loopFields, loopMembers, optionalMember]

/-! ## Objects with one member -/

section tagged

variable {room : Nat} {j : Json}

theorem exists_of_tagged {key : String} {document : Document}
    (h : Json.ofDocument? room (tagged key document) = some j) :
    ∃ value, Json.ofDocument? (room - 1) document = some value ∧
      j.toDocument = tagged key value.toDocument := by
  obtain ⟨values, hvalues, rfl⟩ := Json.exists_of_object h
  have hforall := Json.ofMembers?_eq_some_iff.1 hvalues
  obtain ⟨⟨_, value⟩, _, ⟨⟨⟩, hvalue⟩, ⟨⟩, rfl⟩ := List.forall₂_cons_left_iff.1 hforall
  exact ⟨value, hvalue, rfl⟩

theorem isSome_tagged_iff {key : String} {document : Document} :
    (Json.ofDocument? room (tagged key document)).isSome ↔
      0 < room ∧ (Json.ofDocument? (room - 1) document).isSome := by
  rw [tagged, Json.isSome_object_iff, Json.isSome_ofMembers?_iff]
  simp

end tagged

/-! ## Documents -/

theorem ofDocument?_text (value : Document) :
    ofDocument? positional (tagged "text" value) = (ofText? value).map text := by
  rw [tagged, ofDocument?, if_pos rfl]

theorem ofDocument?_mixed (value : Document) :
    ofDocument? positional (tagged "mixed" value) = (ofContents? positional value).map mixed := by
  rw [tagged, ofDocument?, if_neg (by decide), if_pos rfl]

theorem ofDocument?_condition (value : Document) :
    ofDocument? positional (tagged "if" value) =
      (ofFields? positional conditionRoles value).bind Fields.toCondition? := by
  rw [tagged, ofDocument?, if_neg (by decide), if_neg (by decide), if_pos rfl]
  rfl

theorem ofDocument?_loop (value : Document) :
    ofDocument? positional (tagged "foreach" value) =
      (ofFields? positional loopRoles value).bind Fields.toLoop? := by
  rw [tagged, ofDocument?, if_neg (by decide), if_neg (by decide), if_neg (by decide), if_pos rfl]
  rfl

section stored

variable {members : Members}

theorem ofDocument?_of_conditionFields {test : String} {contents : List Template}
    (h : (conditionFields test contents).StoredIn positional members) :
    ofDocument? positional (tagged "if" (.object members)) = some (condition test contents) := by
  obtain ⟨f, hread, hsame⟩ := (fits_conditionFields test contents).exists_ofMembers? h
  rw [ofDocument?_condition, ofFields?, hread, Option.bind_some, hsame.toCondition?_eq]
  rfl

theorem ofDocument?_of_loopFields {l : Loop} {contents : List Template}
    (h : (loopFields l contents).StoredIn positional members) :
    ofDocument? positional (tagged "foreach" (.object members)) = some (loop l contents) := by
  obtain ⟨f, hread, hsame⟩ := (fits_loopFields l contents).exists_ofMembers? h
  rw [ofDocument?_loop, ofFields?, hread, Option.bind_some, hsame.toLoop?_eq]
  rfl

end stored

theorem toDocument_condition (test : String) (contents : List Template) :
    (condition test contents).toDocument = tagged "if" (.object
      ((conditionFields test contents).written (.array (toDocuments contents)))) := by
  rw [toDocument]
  rfl

theorem toDocument_loop (l : Loop) (contents : List Template) :
    (loop l contents).toDocument = tagged "foreach" (.object
      ((loopFields l contents).written (.array (toDocuments contents)))) := by
  rw [toDocument, written_loopFields]

mutual

/-- **A template is read back from the document that it is stored as.** -/
theorem ofDocument?_toDocument (positional : Bool) : (t : Template) →
    ofDocument? positional t.toDocument = some t
  | text t => by rw [toDocument, ofDocument?_text, ofText?, Option.map_some]
  | mixed parts => by
    rw [toDocument, ofDocument?_mixed, ofContents?, ofDocuments?_toDocuments positional parts,
      Option.map_some]
  | condition test contents => by
    rw [toDocument_condition]
    refine ofDocument?_of_conditionFields
      ((fits_conditionFields test contents).storedIn_written ?_ rfl)
    rw [ofContents?, ofDocuments?_toDocuments positional contents]
  | loop l contents => by
    rw [toDocument_loop]
    refine ofDocument?_of_loopFields ((fits_loopFields l contents).storedIn_written ?_ rfl)
    rw [ofContents?, ofDocuments?_toDocuments positional contents]

theorem ofDocuments?_toDocuments (positional : Bool) : (parts : List Template) →
    ofDocuments? positional (toDocuments parts) = some parts
  | [] => by rw [toDocuments, ofDocuments?]
  | part :: rest => by
    rw [toDocuments, ofDocuments?, ofDocument?_toDocument positional part,
      ofDocuments?_toDocuments positional rest]
    rfl

end

/-! ## JSON values -/

mutual

/-- **A template is read back from the JSON value of the document that it is stored as.** -/
theorem ofJson?_of_toDocument : (t : Template) → {room : Nat} → {j : Json} →
    Json.ofDocument? room t.toDocument = some j → ofJson? j = some t
  | text t, room, j, h => by
    obtain ⟨value, hvalue, hj⟩ := exists_of_tagged h
    obtain rfl : Json.text t = value := Option.some.inj hvalue
    rw [ofJson?, hj, ofDocument?_text]
    rfl
  | mixed parts, room, j, h => by
    obtain ⟨value, hvalue, hj⟩ := exists_of_tagged h
    rw [ofJson?, hj, ofDocument?_mixed, ofContents?_of_toDocuments parts hvalue, Option.map_some]
  | condition test contents, room, j, h => by
    -- The members stand in another order now, and the contents are those of the JSON value.
    rw [toDocument_condition] at h
    obtain ⟨value, hvalue, hj⟩ := exists_of_tagged h
    obtain ⟨values, hvalues, rfl⟩ := Json.exists_of_object hvalue
    rw [ofJson?, hj]
    exact ofDocument?_of_conditionFields (Fields.storedIn_table hvalues
      (fun _ hcontents => ofContents?_of_toDocuments contents hcontents) rfl)
  | loop l contents, room, j, h => by
    rw [toDocument_loop] at h
    obtain ⟨value, hvalue, hj⟩ := exists_of_tagged h
    obtain ⟨values, hvalues, rfl⟩ := Json.exists_of_object hvalue
    rw [ofJson?, hj]
    exact ofDocument?_of_loopFields (Fields.storedIn_table hvalues
      (fun _ hcontents => ofContents?_of_toDocuments contents hcontents) rfl)

theorem ofContents?_of_toDocuments : (parts : List Template) → {room : Nat} → {j : Json} →
    Json.ofDocument? room (.array (toDocuments parts)) = some j →
      ofContents? false j.toDocument = some parts
  | parts, room, j, h => by
    obtain ⟨items, hitems, rfl⟩ := Json.exists_of_array h
    rw [Json.toDocument, ofContents?]
    exact ofDocuments?_of_toDocuments parts hitems

theorem ofDocuments?_of_toDocuments : (parts : List Template) → {room : Nat} → {items : List Json} →
    Json.ofItems? room (toDocuments parts) = some items →
      ofDocuments? false (Json.toDocuments items) = some parts
  | [], room, items, h => by
    obtain rfl : [] = items := Option.some.inj h
    rw [Json.toDocuments, ofDocuments?]
  | part :: rest, room, items, h => by
    obtain ⟨first, others, hfirst, hothers, rfl⟩ := Json.exists_of_ofItems?_cons h
    have hpart : ofDocument? false first.toDocument = some part := ofJson?_of_toDocument part hfirst
    rw [Json.toDocuments, ofDocuments?, hpart, ofDocuments?_of_toDocuments rest hothers]
    rfl

end

mutual

/-- There is such a value exactly if there is room for the template. -/
theorem isSome_toDocument_iff : (t : Template) → {room : Nat} →
    ((Json.ofDocument? room t.toDocument).isSome ↔ t.depth ≤ room)
  | text t, room => by
    rw [toDocument, isSome_tagged_iff, depth]
    exact and_iff_left rfl
  | mixed parts, room => by
    rw [toDocument, isSome_tagged_iff, Json.isSome_array_iff, isSome_toDocuments_iff parts,
      depth]
    omega
  | condition test contents, room => by
    rw [toDocument_condition, isSome_tagged_iff, Json.isSome_object_iff,
      Fields.isSome_written_iff, Json.isSome_array_iff, isSome_toDocuments_iff contents, depth]
    omega
  | loop l contents, room => by
    rw [toDocument_loop, isSome_tagged_iff, Json.isSome_object_iff,
      Fields.isSome_written_iff, Json.isSome_array_iff, isSome_toDocuments_iff contents, depth]
    omega

theorem isSome_toDocuments_iff : (parts : List Template) → {room : Nat} →
    ((Json.ofItems? room (toDocuments parts)).isSome ↔ depths parts ≤ room)
  | [], room => by simp [toDocuments, Json.ofItems?, depths]
  | part :: rest, room => by
    rw [toDocuments, Json.isSome_ofItems?_cons_iff, isSome_toDocument_iff part,
      isSome_toDocuments_iff rest, depths, Nat.max_le]

end

/-! ## Texts -/

mutual

theorem wellFormed_toDocument : (t : Template) → t.toDocument.WellFormed
  | text _ => ⟨rfl, rfl, trivial⟩
  | mixed parts => ⟨rfl, wellFormed_toDocuments parts, trivial⟩
  | condition test contents => by
    rw [toDocument_condition]
    exact ⟨rfl, Fields.wellFormed_written_iff.2 (wellFormed_toDocuments contents), trivial⟩
  | loop l contents => by
    rw [toDocument_loop]
    exact ⟨rfl, Fields.wellFormed_written_iff.2 (wellFormed_toDocuments contents), trivial⟩

theorem wellFormed_toDocuments : (parts : List Template) →
    Document.WellFormedItems (toDocuments parts)
  | [] => trivial
  | part :: rest => ⟨wellFormed_toDocument part, wellFormed_toDocuments rest⟩

end

/-- **A template is read back from a compact text** unless it is nested too deep for a text. -/
theorem read?_compact (t : Template) :
    read? t.toDocument.compact = if t.depth ≤ Json.maxDepth then some t else none := by
  rw [read?, Json.read?_compact _ (wellFormed_toDocument t), Option.bind_eq_bind, Option.bind_some,
    ofDocument?_toDocument, Option.bind_eq_bind, Option.bind_some]

/-- An absent text is left out, an empty one is not. -/
example : (loop ⟨"ids", none, some "", none, some ")", none⟩ [text "?"]).toDocument.compact =
    "\x7b\"foreach\":\x7b\"collection\":\"ids\",\"index\":\"\",\"close\":\")\"," ++
      "\"contents\":[\x7b\"text\":\"?\"\x7d]\x7d\x7d" := by
  decide

/-! ## The theorem -/

/-- **Templates survive storage.** The document that a template is stored as is read back as the
template, be its members in their own order or, in a JSON value, in that of their keys; and there is
such a JSON value wherever there is room for the template. -/
theorem survives_storage (t : Template) :
    (∀ positional, ofDocument? positional t.toDocument = some t) ∧
      ∀ room, t.depth ≤ room →
        ∃ j, Json.ofDocument? room t.toDocument = some j ∧ ofJson? j = some t := by
  refine ⟨fun positional => ofDocument?_toDocument positional t, fun room hroom => ?_⟩
  obtain ⟨j, hj⟩ := Option.isSome_iff_exists.1 ((isSome_toDocument_iff t).2 hroom)
  exact ⟨j, hj, ofJson?_of_toDocument t hj⟩

end SqlTemplate.Template
