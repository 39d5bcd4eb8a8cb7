import SqlTemplate.Proofs.Context.Scoping
import SqlTemplate.Proofs.Expansion.Iteration
import SqlTemplate.Proofs.Placeholder.Entries
import SqlTemplate.Proofs.Schema.Path
import SqlTemplate.Proofs.Statement.Deferred
import SqlTemplate.Proofs.Statement.Shrink

/-!
# What a reference is

Two readers look for a name at the start of a placeholder. A renaming looks at the characters around
the name, and a statement at the first segment of the property that the parser finds.

**Theorem (`reference_agreement`).** Let the first segment of a property be named like a loop
variable. The placeholder is renamed, and its value read from the iteration, unless the segment has
an index or a control character that is no white space stands next to the name.

The parser trims all characters up to U+0020, a renaming skips white space. What follows the name in
the content is the rest of the property, blanks and what follows the property
(`StartsWith.exists_after`); a renaming only looks at its first character
(`endsReference_iff_steps`). Everything but the property stays what it was (`parseTail_of_property`,
`ofContent_of_property`).
-/

namespace SqlTemplate

open Text (isBlank isSpace)

/-! ## Another property in the same content -/

namespace Placeholder

variable {text rest : List Char} {p : String} {ph : Placeholder}

theorem putAll_ne {entries more : List (String × String)}
    (hentries : ∀ entry ∈ entries, entry.1 ≠ propertyKey)
    (hmore : ∀ entry ∈ more, entry.1 ≠ propertyKey) :
    ∀ entry ∈ putAll entries more, entry.1 ≠ propertyKey := by
  rintro entry hentry hkey
  have hmem : propertyKey ∈ (putAll entries more).map Prod.fst :=
    hkey ▸ List.mem_map_of_mem hentry
  rcases (keys_putAll entries more propertyKey).1 hmem with hmem | hmem
  · obtain ⟨entry, hentry, hkey⟩ := List.mem_map.1 hmem
    exact hentries entry hentry hkey
  · obtain ⟨entry, hentry, hkey⟩ := List.mem_map.1 hmem
    exact hmore entry hentry hkey

theorem parseAttributes_of_property {entries : List (String × String)}
    (h : parseAttributes text ((propertyKey, p) :: entries) rest = .ok ph)
    (hentries : ∀ entry ∈ entries, entry.1 ≠ propertyKey)
    (hattributes : ∀ a ∈ (attributes? rest).getD [], a.1 ≠ propertyKey) :
    ∃ tail, ph.entries = (propertyKey, p) :: tail ∧ (∀ entry ∈ tail, entry.1 ≠ propertyKey) ∧
      ∀ text' p', parseAttributes text' ((propertyKey, p') :: entries) rest =
        .ok ⟨(propertyKey, p') :: tail⟩ := by
  obtain ⟨more, hmore, rfl⟩ := parseAttributes_eq_ok_iff.1 h
  rw [hmore, Option.getD_some] at hattributes
  refine ⟨putAll entries more, putAll_cons hattributes p entries, putAll_ne hentries hattributes,
    fun text' p' => parseAttributes_eq_ok_iff.2 ⟨more, hmore, ?_⟩⟩
  rw [putAll_cons hattributes]

/-- The entries after a property do not depend on it. -/
theorem parseTail_of_property (h : parseTail text [(propertyKey, p)] rest = .ok ph)
    (hattributes : ∀ a ∈ attributesAfter rest, a.1 ≠ propertyKey) :
    ∃ tail, ph.entries = (propertyKey, p) :: tail ∧ (∀ entry ∈ tail, entry.1 ≠ propertyKey) ∧
      ∀ text' p', parseTail text' [(propertyKey, p')] rest = .ok ⟨(propertyKey, p') :: tail⟩ := by
  simp only [parseTail]
  rw [parseTail] at h
  rw [attributesAfter] at hattributes
  cases hrest : rest.dropWhile isBlank with
  | nil =>
    rw [hrest] at h
    cases h
    exact ⟨[], rfl, List.forall_mem_nil _, fun text' p' => rfl⟩
  | cons c after =>
    rw [hrest] at h hattributes
    by_cases hcolon : c = ':'
    · subst hcolon
      simp only [parseType_eq] at h ⊢
      cases hempty : (Text.cut (· == ',') (after.dropWhile isBlank)).1.isEmpty with
      | true => rw [hempty] at h; cases h
      | false =>
        rw [hempty] at h
        have hkey : typeKey ≠ propertyKey := by decide
        exact parseAttributes_of_property h (List.forall_mem_singleton.2 hkey) hattributes
    · by_cases hcomma : c = ','
      · subst hcomma
        exact parseAttributes_of_property h (List.forall_mem_nil _) hattributes
      · split at h
        · next heq => cases heq
        · next heq => cases heq; exact absurd rfl hcolon
        · next heq => cases heq; exact absurd rfl hcomma
        · cases h

end Placeholder

namespace Mapping

open Placeholder (propertyKey expressionKey)

variable {content content' key value p p' q : String} {m m' : Mapping}
  {tail : List (String × String)}

/-- A field is filled in the same way with another property. -/
theorem fill_with_property (h : fill content m key value = .ok m') (hkey : key ≠ propertyKey)
    (content' : String) (q : Option String) :
    fill content' { m with property := q } key value = .ok { m' with property := q } := by
  unfold fill at h ⊢
  dsimp only at h ⊢
  repeat' split at h
  all_goals cases h
  all_goals simp_all

theorem foldlM_with_property
    (h : tail.foldlM (fun m entry => fill content m entry.1 entry.2) m = .ok m')
    (htail : ∀ entry ∈ tail, entry.1 ≠ propertyKey) (content' : String) (q : Option String) :
    tail.foldlM (fun m entry => fill content' m entry.1 entry.2) { m with property := q } =
      .ok { m' with property := q } := by
  induction tail generalizing m with
  | nil => cases h; rfl
  | cons entry rest ih =>
    obtain ⟨hentry, hrest⟩ := List.forall_mem_cons.1 htail
    rw [List.foldlM_cons] at h ⊢
    obtain ⟨next, hnext, h⟩ := exists_of_bind_eq_ok h
    rw [fill_with_property hnext hentry content' q]
    exact ih h hrest

/-- **Another property in the same content.** The mapping is the same but for the property, and the
type that a schema declares for it. -/
theorem ofContent_of_property {schema : Option (Registry × String)}
    (h : ofContent schema content = .ok m)
    (hparse : Placeholder.parse content = .ok ⟨(propertyKey, p) :: tail⟩)
    (hparse' : Placeholder.parse content' = .ok ⟨(propertyKey, p') :: tail⟩)
    (htail : ∀ entry ∈ tail, entry.1 ≠ propertyKey) :
    ∃ m', ofContent schema content' = .ok m' ∧
      m' = { m with property := some p', valueType := m'.valueType } := by
  obtain ⟨ph, filled, hph, hfilled, rfl⟩ := ofContent_eq_ok_iff.1 h
  cases hparse.symm.trans hph
  have hfirst (content p : String) :
      fill content {} propertyKey p = .ok { property := some p } := rfl
  rw [List.foldlM_cons, hfirst] at hfilled
  have hfilled' := foldlM_with_property hfilled htail content' (some p')
  exact ⟨_, ofContent_eq_ok_iff.2 ⟨_, _, hparse', hfilled', rfl⟩, rfl⟩

/-- Without an entry for it there is no expression. -/
theorem expression_of_ofContent {schema : Option (Registry × String)} {ph : Placeholder}
    (h : ofContent schema content = .ok m) (hparse : Placeholder.parse content = .ok ph)
    (hentries : ∀ entry ∈ ph.entries, entry.1 ≠ expressionKey) : m.expression = none := by
  obtain ⟨ph', filled, hph, hfilled, rfl⟩ := ofContent_eq_ok_iff.1 h
  cases hparse.symm.trans hph
  have hnone : filled.expression = none :=
    expression_of_fill hfilled (fun value hmem => hentries _ hmem rfl) rfl
  exact hnone

end Mapping

/-! ## The first segment of a path -/

namespace Segment

variable {v p : String} {steps : List Char}

/-- The first segment of a path is what stands before its first dot. -/
theorem exists_piece (p : String) :
    ∃ w tail, p.toList = w ++ tail ∧ (∀ c ∈ tail.head?, c = '.') ∧
      (ofPath p).head? = some (ofPiece w) := by
  by_cases hdot : '.' ∈ p.toList
  · obtain ⟨w, rest, hp, hw⟩ := List.eq_append_cons_of_mem hdot
    refine ⟨w, '.' :: rest, hp, by rintro c ⟨⟩; rfl, ?_⟩
    rw [ofPath, hp, Text.pieces_append hw]
    rfl
  · refine ⟨p.toList, [], (List.append_nil _).symm, by rintro c ⟨⟩, ?_⟩
    rw [ofPath, Text.pieces_of_not_mem hdot]
    rfl

/-- A piece is a name, and an index where a bracket follows. -/
theorem ofPiece_cases (w : List Char) :
    (w = (ofPiece w).name.toList ∧ (ofPiece w).index = none) ∨
      ∃ more, w = (ofPiece w).name.toList ++ '[' :: more ∧ (ofPiece w).index ≠ none := by
  by_cases hbracket : '[' ∈ w
  · obtain ⟨name, index, rfl, hname⟩ := List.eq_append_cons_of_mem hbracket
    rw [ofPiece_of_bracket hname, String.toList_ofList]
    exact .inr ⟨index, rfl, Option.some_ne_none _⟩
  · rw [ofPiece_of_not_mem hbracket, String.toList_ofList]
    exact .inl ⟨rfl, rfl⟩

/-- A path starts with the name of its first segment. An index follows after a bracket. -/
theorem exists_steps (h : (ofPath p).head?.map name = some v) :
    ∃ steps, p.toList = v.toList ++ steps ∧ (∀ c ∈ steps.head?, c = '.' ∨ c = '[') ∧
      ((∀ s ∈ (ofPath p).head?, s.index = none) ↔ ∀ c ∈ steps.head?, c = '.') := by
  obtain ⟨w, tail, hp, htail, hfirst⟩ := exists_piece p
  rw [hfirst, Option.map_some, Option.some.injEq] at h
  rw [hfirst, hp]
  rcases ofPiece_cases w with ⟨hw, hindex⟩ | ⟨more, hw, hindex⟩
  · rw [h] at hw
    refine ⟨tail, by rw [hw], fun c hc => .inl (htail c hc), ?_⟩
    exact iff_of_true (by rintro s ⟨⟩; exact hindex) htail
  · rw [h] at hw
    refine ⟨'[' :: more ++ tail, by rw [hw, List.append_assoc], by rintro c ⟨⟩; exact .inr rfl, ?_⟩
    exact iff_of_false (fun hnone => hindex (hnone _ rfl)) fun hdot =>
      absurd (hdot '[' rfl) (by decide)

/-- The first segment of a path that is a name with steps after it. -/
theorem head?_ofPath (hv : Token.isIdentifier v.toList) (hsteps : ∀ c ∈ steps.head?, c = '.') :
    (ofPath (v ++ String.ofList steps)).head? = some ⟨v, none⟩ := by
  have hdot : '.' ∉ v.toList := fun hmem =>
    absurd (Token.continuesName_of_mem hv hmem) (by decide)
  have hbracket : '[' ∉ v.toList := fun hmem =>
    absurd (Token.continuesName_of_mem hv hmem) (by decide)
  have hpieces : (Text.pieces '.' (v.toList ++ steps)).head? = some v.toList := by
    cases steps with
    | nil => rw [List.append_nil, Text.pieces_of_not_mem hdot]; rfl
    | cons c steps =>
      rw [hsteps c rfl, Text.pieces_append hdot]
      rfl
  rw [ofPath, String.toList_append, String.toList_ofList, List.head?_map, hpieces, Option.map_some,
    ofPiece_of_not_mem hbracket, String.ofList_toList]

end Segment

/-! ## A name at the start of a content -/

namespace Placeholder

/-- A content whose property is the path `p`, with this name in its first segment: the content is no
expression, and none of its attributes is named like a property. -/
structure StartsWith (name content p : String) : Prop where
  parses : ∃ ph, parse content = .ok ph ∧ ph.property? = some p ∧ ph.expression? = none
  attributes : ∀ a ∈ attributesOf content, a.1 ≠ propertyKey
  first : (Segment.ofPath p).head?.map Segment.name = some name

/-- What follows a name in the property of a content. -/
def stepsIn (after : List Char) : List Char :=
  (after.takeWhile (!endsProperty ·)).rdropWhile isBlank

variable {text rest after : List Char} {v content p : String} {ph : Placeholder} {c : Char}

theorem stepsIn_prefix_self (after : List Char) : stepsIn after <+: after :=
  (List.rdropWhile_prefix _ _).trans (List.takeWhile_prefix _)

/-- After a name come its steps, or else a blank or the end of the property. -/
theorem head_cases (hc : c ∈ after.head?) :
    c ∈ (stepsIn after).head? ∨ isBlank c ∨ endsProperty c := by
  cases after with
  | nil => cases hc
  | cons d after =>
    cases hc
    cases hends : endsProperty c with
    | true => exact .inr (.inr rfl)
    | false =>
      have htake : ((c :: after).takeWhile (!endsProperty ·)) =
          c :: after.takeWhile (!endsProperty ·) := by
        rw [List.takeWhile_cons, hends]
        rfl
      have hstart := List.rdropWhile_prefix isBlank ((c :: after).takeWhile (!endsProperty ·))
      rw [stepsIn]
      cases hsteps : ((c :: after).takeWhile (!endsProperty ·)).rdropWhile isBlank with
      | nil =>
        rw [List.rdropWhile_eq_nil_iff, htake] at hsteps
        exact .inr (.inl (hsteps c List.mem_cons_self))
      | cons d steps =>
        rw [hsteps, htake, List.cons_prefix_cons] at hstart
        exact .inl (congrArg some hstart.1)

/-- A renaming ends a reference where there is no index, and no control character that is no white
space. -/
theorem endsReference_iff_steps (hsteps : ∀ c ∈ (stepsIn after).head?, c = '.' ∨ c = '[') :
    Renaming.endsReference after ↔
      (∀ c ∈ (stepsIn after).head?, c = '.') ∧ ∀ c ∈ after.head?, isBlank c → isSpace c := by
  rw [Renaming.endsReference_iff]
  constructor
  · intro hends
    refine ⟨fun c hc => (hsteps c hc).resolve_right ?_, fun c hc hblank => ?_⟩
    · rintro rfl
      have hafter : '[' ∈ after.head? := by
        obtain ⟨more, hmore⟩ := stepsIn_prefix_self after
        rw [← hmore]
        exact List.mem_head?_append_of_mem_head? hc
      exact absurd (hends '[' hafter) (by decide)
    · rcases hends c hc with rfl | rfl | rfl | hspace
      · exact absurd hblank (by decide)
      · exact absurd hblank (by decide)
      · exact absurd hblank (by decide)
      · exact hspace
  · rintro ⟨hdot, hspaces⟩ c hc
    rcases head_cases hc with hstep | hblank | hends
    · exact .inl (hdot c hstep)
    · exact .inr (.inr (.inr (hspaces c hc hblank)))
    · rw [endsProperty, Bool.or_eq_true, beq_iff_eq, beq_iff_eq] at hends
      exact .inr (hends.imp_right .inl)

theorem continuesName_of_head (hsteps : ∀ c ∈ (stepsIn after).head?, c = '.' ∨ c = '[')
    (hc : c ∈ after.head?) : Token.continuesName c = false := by
  rw [← Bool.not_eq_true]
  intro hname
  rcases head_cases hc with hstep | hblank | hends
  · rcases hsteps c hstep with rfl | rfl
    · exact absurd hname (by decide)
    · exact absurd hname (by decide)
  · rw [isBlank_of_continuesName hname] at hblank
    cases hblank
  · rw [endsProperty_of_continuesName hname] at hends
    cases hends

/-- A key that is there stays there. -/
theorem key_of_parseTail {entries : List (String × String)} {key : String}
    (h : parseTail text entries rest = .ok ph) (hkey : key ∈ entries.map Prod.fst) :
    key ∈ ph.entries.map Prod.fst := by
  have hattributes {entries : List (String × String)} {rest : List Char}
      (h : parseAttributes text entries rest = .ok ph) (hkey : key ∈ entries.map Prod.fst) :
      key ∈ ph.entries.map Prod.fst := by
    obtain ⟨more, -, rfl⟩ := parseAttributes_eq_ok_iff.1 h
    exact (keys_putAll entries more key).2 (.inl hkey)
  rw [parseTail] at h
  split at h
  · cases h
    exact hkey
  · rw [parseType_eq] at h
    dsimp only at h
    split at h
    · cases h
    · exact hattributes h ((keys_put ..).2 (.inr hkey))
  · exact hattributes h hkey
  · cases h

/-- The parser finds the property before the first comma or colon, and entries that do not depend
on it after that. -/
theorem StartsWith.parse_eq (h : StartsWith v content p) :
    p = trimmed ((content.toList.dropWhile isBlank).takeWhile (!endsProperty ·)) ∧
      ∃ tail, parse content = .ok ⟨(propertyKey, p) :: tail⟩ ∧
        (∀ entry ∈ tail, entry.1 ≠ propertyKey ∧ entry.1 ≠ expressionKey) ∧
        ∀ text' p', parseTail text' [(propertyKey, p')] (afterProperty content.toList) =
          .ok ⟨(propertyKey, p') :: tail⟩ := by
  obtain ⟨ph, hparse, hproperty, hexpression⟩ := h.parses
  have hkeys : expressionKey ∉ ph.entries.map Prod.fst := by
    intro hmem
    obtain ⟨entry, hentry, hkey⟩ := List.mem_map.1 hmem
    have := List.lookup_eq_none_iff.1 hexpression entry hentry
    rw [hkey] at this
    simp at this
  have hchars := hparse
  rw [parse] at hchars
  rcases head_of_parseChars hchars with ⟨rest, expression, after, hbody, hclosed⟩ |
    ⟨c, rest, hbody, hc⟩
  · rw [parseChars_of_expression hbody hclosed] at hchars
    exact absurd (key_of_parseTail hchars List.mem_cons_self) hkeys
  · rw [parseChars_of_property hbody hc] at hchars
    obtain ⟨tail, hentries, htail, hother⟩ := parseTail_of_property hchars h.attributes
    obtain ⟨entries⟩ := ph
    obtain rfl : entries = _ := hentries
    have hp : trimmed ((content.toList.dropWhile isBlank).takeWhile (!endsProperty ·)) = p := by
      rw [property?, get?, lookup_cons_eq, if_pos rfl] at hproperty
      exact Option.some.inj hproperty
    refine ⟨hp.symm, tail, hp ▸ hparse, fun entry hentry => ⟨htail entry hentry, ?_⟩, hother⟩
    rintro hkey
    exact hkeys (List.mem_cons_of_mem _ (hkey ▸ List.mem_map_of_mem hentry))

/-- **What stands around a name.** A content is blanks, the name, and what follows it; the property
is the name with its steps. -/
theorem StartsWith.exists_after (h : StartsWith v content p) (hv : Token.isIdentifier v.toList) :
    ∃ after, content.toList = content.toList.takeWhile isBlank ++ (v.toList ++ after) ∧
      p = v ++ String.ofList (stepsIn after) ∧
      (∀ c ∈ (stepsIn after).head?, c = '.' ∨ c = '[') ∧
      ((∀ s ∈ (Segment.ofPath p).head?, s.index = none) ↔
        ∀ c ∈ (stepsIn after).head?, c = '.') := by
  obtain ⟨hp, -⟩ := h.parse_eq
  obtain ⟨steps, hsteps, hhead, hindex⟩ := Segment.exists_steps h.first
  have hcontent := List.takeWhile_append_dropWhile (p := isBlank) (l := content.toList)
  have hbody := List.head?_dropWhile_not isBlank content.toList
  generalize content.toList.dropWhile isBlank = body at hp hcontent hbody
  have hstart : (body.takeWhile (!endsProperty ·)).dropWhile isBlank =
      body.takeWhile (!endsProperty ·) := by
    cases body with
    | nil => rfl
    | cons c body =>
      rw [List.takeWhile_cons]
      split
      · rw [List.dropWhile_cons, if_neg (by simpa using hbody)]
      · rfl
  have hp' : p.toList = (body.takeWhile (!endsProperty ·)).rdropWhile isBlank := by
    rw [hp, trimmed, String.toList_ofList, Text.trimBlanks, hstart]
    rfl
  obtain ⟨more, hmore⟩ : p.toList <+: body :=
    hp' ▸ (List.rdropWhile_prefix _ _).trans (List.takeWhile_prefix _)
  rw [hsteps, List.append_assoc] at hmore
  have hname : ∀ c ∈ v.toList, !endsProperty c := by
    intro c hc
    rw [endsProperty_of_continuesName (Token.continuesName_of_mem hv hc)]
    rfl
  have hstepsIn : p.toList = v.toList ++ stepsIn (steps ++ more) := by
    have hspaces : ∀ c ∈ ([] : List Char).head?, isBlank c = false := by rintro c ⟨⟩
    rw [hp, trimmed, String.toList_ofList, ← hmore, List.takeWhile_append_of_pos hname]
    exact trimBlanks_of_name hv hspaces
  have hsame := List.append_cancel_left (hsteps.symm.trans hstepsIn)
  refine ⟨steps ++ more, by rw [hmore, hcontent], ?_, hsame ▸ hhead, hsame ▸ hindex⟩
  rw [← String.toList_inj, hstepsIn, String.toList_append, String.toList_ofList]

end Placeholder

/-! ## The two readers -/

namespace Renaming

open Placeholder (StartsWith stepsIn propertyKey expressionKey)

variable {r : Renaming} {v w content p : String} {blanks after rest : List Char}

theorem isSpace_head (hv : Token.isIdentifier v.toList) :
    ∀ c ∈ (v.toList ++ after).head?, isSpace c = false := by
  intro c hc
  rw [← Bool.not_eq_true]
  intro hspace
  cases hlist : v.toList with
  | nil => rw [hlist] at hv; cases hv
  | cons d more =>
    rw [hlist] at hc
    cases hc
    have hname := Token.continuesName_of_mem hv (hlist ▸ List.mem_cons_self)
    rw [Token.continuesName_of_isSpace hspace] at hname
    cases hname

/-- A name after white space is referred to, if it ends there. -/
theorem afterReference?_of_spaces (hv : Token.isIdentifier v.toList)
    (hspaces : ∀ c ∈ blanks, isSpace c) (hends : endsReference after) :
    afterReference? v (blanks ++ (v.toList ++ after)) = some after :=
  refersTo_iff.1 ⟨⟨blanks, rfl, hspaces⟩, isSpace_head hv, endsReference_iff.1 hends⟩

/-- A content that starts with a name, after blanks, refers to no other name; and to this one only
if the blanks are white space. -/
theorem eq_of_reference (hv : Token.isIdentifier v.toList) (hw : Token.isIdentifier w.toList)
    (hblanks : ∀ c ∈ blanks, isBlank c)
    (hafter : ∀ c ∈ after.head?, Token.continuesName c = false)
    (h : afterReference? w (blanks ++ (v.toList ++ after)) = some rest) :
    w = v ∧ (∀ c ∈ blanks, isSpace c) ∧ endsReference after := by
  obtain ⟨htrim, hends⟩ := afterReference?_eq_some.1 h
  have hspaces : ∀ c ∈ blanks, isSpace c := by
    rw [← List.dropWhile_eq_nil_iff]
    cases hrest : blanks.dropWhile isSpace with
    | nil => rfl
    | cons d more =>
      -- A blank that is no white space is not skipped, and starts no name.
      have hd : d ∈ blanks := (List.dropWhile_suffix isSpace).mem (hrest ▸ List.mem_cons_self)
      rw [Text.trimStart, List.dropWhile_append, hrest] at htrim
      cases hlist : w.toList with
      | nil => rw [hlist] at hw; cases hw
      | cons e more =>
        rw [hlist] at htrim
        cases (List.cons.inj htrim).1
        have hname := Token.continuesName_of_mem hw (hlist ▸ List.mem_cons_self)
        have hblank := hblanks d hd
        rw [Placeholder.isBlank_of_continuesName hname] at hblank
        cases hblank
  have htext : Text.trimStart (blanks ++ (v.toList ++ after)) = v.toList ++ after := by
    rw [Text.trimStart, List.dropWhile_append_of_pos hspaces]
    have hhead : ∀ c ∈ (v.toList ++ after).head?, isSpace c = false := isSpace_head hv
    generalize v.toList ++ after = text at hhead
    cases text with
    | nil => rfl
    | cons c text => rw [List.dropWhile_cons, hhead c rfl, if_neg Bool.false_ne_true]
  rw [htext] at htrim
  have hv' := Token.takeWhile_identifier (fun c => Token.continuesName_of_mem hv) hafter
  have hw' := Token.takeWhile_identifier (fun c => Token.continuesName_of_mem hw)
    (continuesName_of_endsReference hends)
  rw [htrim] at hv'
  refine ⟨String.toList_inj.1 (hw'.1.symm.trans hv'.1), hspaces, ?_⟩
  rwa [← hv'.2.symm.trans hw'.2] at hends

/-- A variable that a content refers to is renamed: as the item first, and as the index if the item
is a name as well. -/
theorem content_of_variable (hv : Token.isIdentifier v.toList)
    (hvariable : r.item = some v ∨ r.index = some v ∧ ∀ w ∈ r.item, Token.isIdentifier w.toList)
    (h : afterReference? v content.toList = some after) :
    r.content content = iterationName v r.number ++ String.ofList after := by
  obtain ⟨item, index, number⟩ := r
  rcases hvariable with hitem | ⟨hindex, hitem⟩
  · obtain rfl : item = some v := hitem
    rw [Renaming.content, names, Option.toList_some, List.singleton_append, List.findSome?_cons, h]
    rfl
  · obtain rfl : index = some v := hindex
    have hnames : (⟨item, some v, number⟩ : Renaming).names = item.toList ++ [v] := rfl
    rcases content_cases ⟨item, some v, number⟩ content with ⟨hnone, -⟩ | ⟨w, hw, rest, hrest, heq⟩
    · have hv := hnone v (hnames ▸ List.mem_append_right _ (List.mem_singleton_self v))
      rw [hv] at h
      cases h
    · have hwv : w = v := by
        rw [hnames, List.mem_append, List.mem_singleton] at hw
        rcases hw with hw | hw
        · exact eq_of_afterReference? (hitem w (Option.mem_toList.1 hw)) hv hrest h
        · exact hw
      subst hwv
      rw [hrest] at h
      cases h
      exact heq

/-- Renaming names that a content does not start with leaves it as it is. -/
theorem content_of_not_reference (hv : Token.isIdentifier v.toList)
    (hnames : ∀ w ∈ r.names, Token.isIdentifier w.toList)
    (hcontent : content.toList = blanks ++ (v.toList ++ after)) (hblanks : ∀ c ∈ blanks, isBlank c)
    (hafter : ∀ c ∈ after.head?, Token.continuesName c = false)
    (h : ¬ ((∀ c ∈ blanks, isSpace c) ∧ endsReference after)) : r.content content = content := by
  rcases r.content_cases content with ⟨-, heq⟩ | ⟨w, hw, rest, hrest, -⟩
  · exact heq
  · rw [hcontent] at hrest
    exact absurd (eq_of_reference hv (hnames w hw) hblanks hafter hrest).2 h

/-- **A renamed content** has the same entries, with the name of the iteration in its property. -/
theorem parse_renamed {tail : List (String × String)} (hv : Token.isIdentifier v.toList)
    (hcontent : content.toList = blanks ++ (v.toList ++ after)) (hspaces : ∀ c ∈ blanks, isSpace c)
    (htail : ∀ text' p', Placeholder.parseTail text' [(propertyKey, p')]
      (Placeholder.afterProperty content.toList) = .ok ⟨(propertyKey, p') :: tail⟩) (n : Nat) :
    Placeholder.parse (iterationName v n ++ String.ofList after) =
      .ok ⟨(propertyKey, iterationName v n ++ String.ofList (stepsIn after)) :: tail⟩ := by
  have hname := isIdentifier_iterationName hv n
  have hspaces' : ∀ c ∈ ([] : List Char), isSpace c := List.forall_mem_nil _
  have hparse : Placeholder.parseChars ([] ++ ((iterationName v n).toList ++ after)) = _ :=
    Placeholder.parseChars_of_name hspaces' hname
  rw [hcontent, Placeholder.afterProperty_of_name hspaces hv] at htail
  rw [List.nil_append, htail] at hparse
  rw [Placeholder.parse, String.toList_append, String.toList_ofList (l := after), hparse]
  have hproperty : Placeholder.propertyOf [] (iterationName v n).toList after =
      iterationName v n ++ String.ofList (stepsIn after) := by
    rw [← String.toList_inj]
    simp [Placeholder.propertyOf, stepsIn]
  rw [hproperty]

end Renaming

/-! ## The values of iterations -/

theorem Bindings.has_of_get? {b : Bindings} {name : String} {x : Value} (h : b.get? name = some x) :
    b.has name := by
  rw [has, Bool.or_eq_true, beq_iff_eq]
  rw [get?] at h
  split at h
  · next hname => exact .inl hname
  · exact .inr (Option.isSome_iff_exists.2 ⟨x, h⟩)

/-- A property that starts with a bound name is evaluated, also where the parameter is a single
value. -/
theorem Statement.value_of_bound {engine : Engine} {b : Bindings} {m : Mapping} {name : String}
    {steps : List Char} {x : Value} (hname : Token.isIdentifier name.toList)
    (hmode : m.mode ≠ .output) (hexpression : m.expression = none)
    (hproperty : m.property = some (name ++ String.ofList steps))
    (hsteps : ∀ c ∈ steps.head?, c = '.') (hbound : b.get? name = some x) :
    Statement.value engine b m = engine.value (name ++ String.ofList steps) b.lookup := by
  rw [Statement.value, if_neg hmode, hexpression, hproperty]
  dsimp only
  rw [Segment.head?_ofPath hname hsteps, Option.map_some, Option.getD_some,
    Bindings.has_of_get? hbound]
  rfl

/-- **The path of a reference leads from what its name is bound to.** -/
theorem value_paths_of_bound {scope : Scope} {name : String} {x y : Value} {rest : List Segment}
    (hname : Expr.IsName name) (hrest : ∀ s ∈ rest, s.IsPlain) (hbound : scope name = some x) :
    Engine.paths.value (name ++ String.ofList (rest.flatMap fun s => '.' :: s.toChars)) scope =
        .ok y ↔
      rest.foldlM Segment.stepInto x = .ok y := by
  have hfirst : (⟨name, none⟩ : Segment).IsPlain := ⟨hname, nofun, nofun⟩
  have hpath : name ++ String.ofList (rest.flatMap fun s => '.' :: s.toChars) =
      String.ofList (Segment.pathChars ⟨name, none⟩ rest) := by
    rw [← String.toList_inj]
    simp [Segment.pathChars, Segment.toChars]
  rw [hpath, Engine.value_paths_eq_ok, Segment.evalText_pathChars hfirst hrest, hbound]
  rfl

/-- A mapping takes its value from what a name is bound to, by the steps after the name. -/
structure Mapping.ReadsFrom (m : Mapping) (name : String) (steps : List Char) : Prop where
  value : ∀ (engine : Engine) (b : Bindings) (x : Value), b.get? name = some x →
    b.lookup name = some x ∧
      Statement.value engine b m = engine.value (name ++ String.ofList steps) b.lookup
  path : ∀ (rest : List Segment), (∀ s ∈ rest, s.IsPlain) →
    steps = (rest.flatMap fun s => '.' :: s.toChars) →
    ∀ (b : Bindings) (x y : Value), b.get? name = some x →
      (Statement.value Engine.paths b m = .ok y ↔ rest.foldlM Segment.stepInto x = .ok y)

theorem Mapping.readsFrom {m : Mapping} {name : String} {steps : List Char}
    (hname : Expr.IsName name) (hmode : m.mode ≠ .output) (hexpression : m.expression = none)
    (hproperty : m.property = some (name ++ String.ofList steps))
    (hsteps : ∀ c ∈ steps.head?, c = '.') : m.ReadsFrom name steps := by
  have hlookup {b : Bindings} {x : Value} (hbound : b.get? name = some x) :
      b.lookup name = some x := by
    rw [Bindings.lookup, hbound, Option.some_or]
  refine ⟨fun engine b x hbound => ⟨hlookup hbound, Statement.value_of_bound hname.identifier hmode
    hexpression hproperty hsteps hbound⟩, ?_⟩
  rintro rest hrest rfl b x y hbound
  rw [Statement.value_of_bound hname.identifier hmode hexpression hproperty hsteps hbound]
  exact value_paths_of_bound hname hrest (hlookup hbound)

/-- The renaming of an iteration. -/
def Iteration.renaming (i : Iteration) : Renaming := ⟨i.loop.item, i.loop.index, i.number⟩

/-- When an expansion ends, the name of the item of each iteration is bound to its element, and that
of the index to its position or key. -/
theorem get?_of_mem_iterations {s : Settings} {t : Template} {c : Context} {i : Iteration}
    {v : String} (hv : i.loop.item = some v ∨ i.loop.index = some v)
    (hnames : ∀ l ∈ t.loops, ∀ name ∈ l.names, ¬ "__frch_".toList <+: name.toList)
    (hi : i ∈ t.iterations s c) :
    ((t.expand s).applyTo c).2.bindings.get? (Renaming.iterationName v i.number) =
      some (if i.loop.item = some v then i.element.2 else i.element.1) := by
  have horigin := t.originates s c
  obtain ⟨d, separator, hmem, hnumber, hkept⟩ := exists_kept_of_mem_iterationsOf
    (fun step hstep => (horigin step hstep).spares_of_names hnames) hi
  have hlt : d.next < (d.enter i.loop separator i.element).next := by
    rw [Context.enter_next]
    exact Nat.lt_succ_self _
  rw [t.applyTo_expand, Bindings.get?_iterationName, hnumber]
  exact (hkept.get? v d.next hlt).trans
    (Context.get?_enter hv (hnames _ (horigin _ hmem).1) d separator i.element)

/-! ## Agreement -/

/-- What a renaming sees of a name: only white space before it, no index, and no blank after it that
is no white space. -/
structure Seen (content p : String) (after : List Char) : Prop where
  before : ∀ c ∈ content.toList.takeWhile isBlank, isSpace c
  noIndex : ∀ s ∈ (Segment.ofPath p).head?, s.index = none
  behind : ∀ c ∈ after.head?, isBlank c → isSpace c

open Placeholder (StartsWith stepsIn)

/-- The mapping of a renamed content reads from the iteration. -/
theorem readsFrom_of_renamed {v content p : String} {after : List Char} {n : Nat}
    (hv : Token.isIdentifier v.toList) (h : StartsWith v content p)
    (hcontent : content.toList = content.toList.takeWhile isBlank ++ (v.toList ++ after))
    (hspaces : ∀ c ∈ content.toList.takeWhile isBlank, isSpace c)
    (hdot : ∀ c ∈ (stepsIn after).head?, c = '.')
    {schema : Option (Registry × String)} {m : Mapping}
    (hm : Mapping.ofContent schema content = .ok m) :
    let name := Renaming.iterationName v n
    ∃ m', Mapping.ofContent schema (name ++ String.ofList after) = .ok m' ∧
      m' = { m with
        property := some (name ++ String.ofList (stepsIn after)), valueType := m'.valueType } ∧
      (m.mode ≠ .output → m'.ReadsFrom name (stepsIn after)) := by
  obtain ⟨-, tail, hparse, htail, hother⟩ := h.parse_eq
  have hparse' := Renaming.parse_renamed hv hcontent hspaces hother n
  obtain ⟨m', hm', heq⟩ := Mapping.ofContent_of_property hm hparse hparse' fun entry hentry =>
    (htail entry hentry).1
  refine ⟨m', hm', heq, fun hmode => ?_⟩
  have hentries : ∀ entry ∈ (⟨(Placeholder.propertyKey, p) :: tail⟩ : Placeholder).entries,
      entry.1 ≠ Placeholder.expressionKey :=
    List.forall_mem_cons.2 ⟨(by decide : Placeholder.propertyKey ≠ Placeholder.expressionKey),
      fun entry hentry => (htail entry hentry).2⟩
  have hexpression := Mapping.expression_of_ofContent hm hparse hentries
  refine Mapping.readsFrom (Renaming.isName_iterationName hv n) ?_ ?_ ?_ hdot
  · rw [heq]
    exact hmode
  · rw [heq]
    exact hexpression
  · rw [heq]

/-- **Renaming and reading agree on what a reference is.** Let a loop variable be an identifier, and
the first segment of the property of a content be named like it. If a renaming sees the name, it
puts the name of the iteration in its place and changes nothing else in the mapping, but for the
type that a schema declares; and the value is read from what that name is bound to. Otherwise the
content stays as it is. When a template whose loop variables are not named like those of iterations
has been expanded, that name is bound to the element of the iteration, or for an index to its
position or key. -/
theorem reference_agreement {r : Renaming} {v content p : String}
    (hv : Token.isIdentifier v.toList)
    (hvariable : r.item = some v ∨ r.index = some v ∧ ∀ w ∈ r.item, Token.isIdentifier w.toList)
    (h : StartsWith v content p) :
    let name := Renaming.iterationName v r.number
    (∃ after, content.toList = content.toList.takeWhile isBlank ++ (v.toList ++ after) ∧
      p = v ++ String.ofList (stepsIn after) ∧
      (Seen content p after →
        r.content content = name ++ String.ofList after ∧
          ∀ schema m, Mapping.ofContent schema content = .ok m →
            ∃ m', Mapping.ofContent schema (r.content content) = .ok m' ∧
              m' = { m with
                property := some (name ++ String.ofList (stepsIn after))
                valueType := m'.valueType } ∧
              (m.mode ≠ .output → m'.ReadsFrom name (stepsIn after))) ∧
      (¬ Seen content p after → (∀ w ∈ r.names, Token.isIdentifier w.toList) →
        r.content content = content)) ∧
      ∀ (s : Settings) (t : Template) (c : Context),
        (∀ l ∈ t.loops, ∀ w ∈ l.names, ¬ "__frch_".toList <+: w.toList) →
          ∀ i ∈ t.iterations s c, i.renaming = r →
            ((t.expand s).applyTo c).2.bindings.get? name =
              some (if r.item = some v then i.element.2 else i.element.1) := by
  intro name
  refine ⟨?_, fun s t c hnames i hi hr => by
    subst hr
    exact get?_of_mem_iterations (hvariable.imp_right And.left) hnames hi⟩
  obtain ⟨after, hcontent, hp, hhead, hindex⟩ := h.exists_after hv
  have hseen : Seen content p after ↔
      (∀ c ∈ content.toList.takeWhile isBlank, isSpace c) ∧ Renaming.endsReference after := by
    rw [Placeholder.endsReference_iff_steps hhead, ← hindex]
    exact ⟨fun h => ⟨h.before, h.noIndex, h.behind⟩, fun h => ⟨h.1, h.2.1, h.2.2⟩⟩
  refine ⟨after, hcontent, hp, fun hsees => ?_, fun hunseen hnames => ?_⟩
  · obtain ⟨hspaces, hends⟩ := hseen.1 hsees
    have hreference := Renaming.afterReference?_of_spaces hv hspaces hends
    rw [← hcontent] at hreference
    have hrenamed := Renaming.content_of_variable hv hvariable hreference
    rw [hrenamed]
    exact ⟨rfl, fun schema m hm => readsFrom_of_renamed hv h hcontent hspaces
      (hindex.1 hsees.noIndex) hm⟩
  · have hblanks : ∀ c ∈ content.toList.takeWhile isBlank, isBlank c := fun c hc =>
      List.all_eq_true.1 List.all_takeWhile c hc
    exact Renaming.content_of_not_reference hv hnames hcontent hblanks
      (fun c => Placeholder.continuesName_of_head hhead) (mt hseen.2 hunseen)

/-- A reference to an item with a property, after a space and before an attribute; the parameter is
a single value. -/
theorem reference_agreement_with_property :
    let r : Renaming := ⟨some "x", some "i", 3⟩
    let content := " x.a , mode=IN"
    let row : Value := .map [("a", .int 5)]
    let b : Bindings := ⟨.int 1, [("__frch_x_3", row)]⟩
    Token.isIdentifier "x".toList ∧ StartsWith "x" content "x.a" ∧
      ∃ m', Mapping.ofContent none (r.content content) = .ok m' ∧
        m'.property = some "__frch_x_3.a" ∧
        Statement.value Engine.paths b m' = .ok (.int 5) := by
  intro r content row b
  have h : StartsWith "x" content "x.a" :=
    ⟨⟨⟨[("property", "x.a"), ("mode", "IN")]⟩, by decide +kernel, by decide, by decide⟩,
      by decide +kernel, by decide⟩
  have hv : Token.isIdentifier "x".toList := by decide
  obtain ⟨⟨after, hcontent, -, hseen, -⟩, -⟩ := reference_agreement (r := r) hv (.inl rfl) h
  have hname : Renaming.iterationName "x" r.number = "__frch_x_3" := by decide
  have hafter : ".a , mode=IN".toList = after := by
    have hparts : content.toList =
        content.toList.takeWhile isBlank ++ ("x".toList ++ ".a , mode=IN".toList) := by decide
    exact List.append_cancel_left (List.append_cancel_left (hparts.symm.trans hcontent))
  subst hafter
  have hsteps : stepsIn ".a , mode=IN".toList = ".a".toList := by decide
  have hpath : "__frch_x_3" ++ String.ofList ".a".toList = "__frch_x_3.a" := by decide
  rw [hname, hsteps, hpath] at hseen
  have hm : Mapping.ofContent none content = .ok { property := some "x.a" } := by decide +kernel
  have hspaces : ∀ c ∈ content.toList.takeWhile isBlank, isSpace c :=
    List.all_eq_true.1 (by decide)
  have hdot : ∀ c ∈ ".a , mode=IN".toList.head?, isBlank c → isSpace c := by
    rintro c ⟨⟩ hblank
    exact absurd hblank (by decide)
  obtain ⟨m', hm', heq, hreads⟩ := (hseen ⟨hspaces, by decide, hdot⟩).2 none _ hm
  have hplain : ∀ s ∈ [(⟨"a", none⟩ : Segment)], s.IsPlain :=
    List.forall_mem_singleton.2 ⟨⟨by decide, by decide, by decide⟩, nofun, nofun⟩
  have hproperty : m'.property = some "__frch_x_3.a" := by rw [heq]
  exact ⟨hv, h, m', hm', hproperty,
    ((hreads (by decide)).path [⟨"a", none⟩] hplain (by decide) b row (.int 5) rfl).2 rfl⟩

/-- **What a renaming does not see, and a name that is taken.** The item is 5, or a list of it, and
no value is found for it: a reference with an index, or with a control character next to the name; a
property or an expression in an attribute; and an item whose name ends in a space. A loop whose item
is named like that of an iteration unbinds this name. -/
theorem unseen_references :
    let items : Loop := ⟨"xs", some "x", none, none, none, none⟩
    let inner : Loop := { items with item := some "__frch_x_0" }
    let firstName (content : String) := ((Placeholder.parse content).toOption.bind
      Placeholder.property?).bind fun p => (Segment.ofPath p).head?.map Segment.name
    let summary (l : Loop) (content : String) (more : List Template) (x : Value) :=
      (Source.statement
        { template := .loop l (.text (Markers.placeholder.enclose content) :: more) } Engine.paths
        (.map [("xs", .list [x])])).toOption.map fun st =>
          (st.mappings.map Mapping.property, st.parameters.map Value.toText)
    (∀ content ∈ ["x", "x[0]", "\u0001x", "x\u0001", "a,property=x", "x,expression=y", "x "],
      firstName content = some "x") ∧
      (∀ case ∈ [("x", Value.int 5, "__frch_x_0", "5"), ("x[0]", .list [.int 5], "x[0]", "null"),
          ("\u0001x", .int 5, "x", "null"), ("x\u0001", .int 5, "x", "null"),
          ("a,property=x", .int 5, "x", "null"), ("x,expression=y", .int 5, "__frch_x_0", "null")],
        summary items case.1 [] case.2.1 = some ([some case.2.2.1], [case.2.2.2])) ∧
      summary { items with item := some "x ", index := some "x" } "x " [] (.int 5) = none ∧
      summary items "x" [.loop inner []] (.int 5) = some ([some "__frch_x_0"], ["null"]) := by
  decide +kernel

end SqlTemplate
