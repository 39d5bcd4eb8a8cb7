import Mathlib.Data.List.DropRight
import SqlTemplate.Placeholder
import SqlTemplate.Proofs.Expr.Name
import SqlTemplate.Proofs.Fallible
import SqlTemplate.Proofs.Text.Cut
import SqlTemplate.Statement.Mapping

/-!
# Contents that start with a name

A content that starts with a name, after spaces, has a property as its head: the name with what
follows it up to the first comma or colon. What comes after that does not depend on the head.

**Theorem (`parseChars_of_name`).** Such a content parses as its property followed by its tail.

**Theorem (`property_of_ofContent`).** If no attribute is named like one of the two kinds of heads,
the property is that of the mapping, and the mapping has no expression.
-/

namespace SqlTemplate

open Text

namespace Placeholder

/-- The part of a content after its property. -/
def afterProperty (content : List Char) : List Char :=
  (content.dropWhile isBlank).dropWhile (!endsProperty ·)

/-- The attributes in what follows a head. -/
def attributesAfter (rest : List Char) : List (String × String) :=
  match rest.dropWhile isBlank with
  | ':' :: after => (attributes? ((cut (· == ',') (after.dropWhile isBlank)).2.getD [])).getD []
  | ',' :: after => (attributes? after).getD []
  | _ => []

/-- The attributes of a content whose head is a property. -/
def attributesOf (content : String) : List (String × String) :=
  attributesAfter (afterProperty content.toList)

/-- The property of a content that is spaces, a name and a rest. -/
def propertyOf (spaces name rest : List Char) : String :=
  String.ofList (spaces.dropWhile isBlank ++
    (name ++ (rest.takeWhile (!endsProperty ·)).rdropWhile isBlank))

/-! ## Characters of names -/

theorem isBlank_of_continuesName {c : Char} (h : Token.continuesName c) : isBlank c = false := by
  have hall : ∀ n ∈ List.range 33, Token.continuesName (Char.ofNat n) = false := by decide +kernel
  rw [← Bool.not_eq_true]
  intro hblank
  have hmem : c.toNat ∈ List.range 33 := by
    simp only [isBlank, decide_eq_true_eq] at hblank
    rw [List.mem_range]
    omega
  have hfalse : Token.continuesName c = false := Token.eq_of_toNat_mem hall hmem
  rw [hfalse] at h
  cases h

theorem endsProperty_of_continuesName {c : Char} (h : Token.continuesName c) :
    endsProperty c = false := by
  rw [← Bool.not_eq_true, endsProperty, Bool.or_eq_true, beq_iff_eq, beq_iff_eq]
  rintro (rfl | rfl)
  · exact absurd h (by decide)
  · exact absurd h (by decide)

theorem endsProperty_of_isSpace {c : Char} (h : isSpace c) : endsProperty c = false := by
  rw [← Bool.not_eq_true, endsProperty, Bool.or_eq_true, beq_iff_eq, beq_iff_eq]
  rintro (rfl | rfl)
  · exact absurd h (by decide)
  · exact absurd h (by decide)

/-! ## The head -/

variable {spaces name rest : List Char}

/-- A text that starts with a name starts with no blank. -/
theorem isBlank_head (hname : Token.isIdentifier name) :
    ∀ c ∈ (name ++ rest).head?, isBlank c = false := by
  intro c hc
  cases name with
  | nil => cases hname
  | cons d name =>
    cases hc
    exact isBlank_of_continuesName (Token.continuesName_of_mem hname List.mem_cons_self)

/-- Only blanks at the end go, and not the name. -/
theorem trimBlanks_of_name (hname : Token.isIdentifier name)
    (hspaces : ∀ c ∈ spaces.head?, isBlank c = false) :
    trimBlanks (spaces ++ (name ++ rest)) = spaces ++ (name ++ rest.rdropWhile isBlank) := by
  have hstart : (spaces ++ (name ++ rest)).dropWhile isBlank = spaces ++ (name ++ rest) := by
    rw [dropWhile_append_of_head (isBlank_head hname)]
    cases spaces with
    | nil => rfl
    | cons c spaces => rw [List.dropWhile_cons, if_neg (by simp [hspaces c rfl])]
  have hend : ∀ c ∈ (name.reverse ++ spaces.reverse).head?, isBlank c = false := by
    intro c hc
    refine isBlank_of_continuesName (Token.continuesName_of_mem hname ?_)
    cases hrev : name.reverse with
    | nil => rw [List.reverse_eq_nil_iff.1 hrev] at hname; cases hname
    | cons d more =>
      rw [hrev] at hc
      cases hc
      exact List.mem_reverse.1 (hrev ▸ List.mem_cons_self)
  rw [trimBlanks, hstart, List.reverse_append, List.reverse_append, List.append_assoc,
    dropWhile_append_of_head hend, List.rdropWhile]
  simp

section property

variable (hspaces : ∀ c ∈ spaces, isSpace c) (hname : Token.isIdentifier name)

include hspaces hname

/-- Neither the spaces nor the name end a property. -/
theorem endsProperty_before :
    (∀ c ∈ spaces.dropWhile isBlank, !endsProperty c) ∧ ∀ c ∈ name, !endsProperty c := by
  refine ⟨fun c hc => ?_, fun c hc => ?_⟩
  · rw [endsProperty_of_isSpace (hspaces c ((List.dropWhile_suffix _).mem hc))]
    rfl
  · rw [endsProperty_of_continuesName (Token.continuesName_of_mem hname hc)]
    rfl

theorem afterProperty_of_name :
    afterProperty (spaces ++ (name ++ rest)) = rest.dropWhile (!endsProperty ·) := by
  obtain ⟨hspaces', hname'⟩ := endsProperty_before hspaces hname
  rw [afterProperty, dropWhile_append_of_head (isBlank_head hname),
    List.dropWhile_append_of_pos hspaces', List.dropWhile_append_of_pos hname']

/-- A content that starts with a name, after spaces, starts with no parenthesis. -/
theorem exists_head_of_name :
    ∃ c more, spaces.dropWhile isBlank ++ (name ++ rest) = c :: more ∧ c ≠ '(' := by
  cases hrest : spaces.dropWhile isBlank with
  | cons c more =>
    have hmem : c ∈ spaces := (List.dropWhile_suffix isBlank).mem (hrest ▸ List.mem_cons_self)
    refine ⟨c, _, rfl, ?_⟩
    rintro rfl
    exact absurd (hspaces _ hmem) (by decide)
  | nil =>
    cases name with
    | nil => cases hname
    | cons c name =>
      refine ⟨c, _, rfl, ?_⟩
      rintro rfl
      exact absurd (Token.continuesName_of_mem hname List.mem_cons_self) (by decide)

/-- **A content that starts with a name has a property.** -/
theorem parseChars_of_name :
    parseChars (spaces ++ (name ++ rest)) =
      parseTail (spaces ++ (name ++ rest))
        [(propertyKey, propertyOf spaces name rest)] (rest.dropWhile (!endsProperty ·)) := by
  obtain ⟨hspaces', hname'⟩ := endsProperty_before hspaces hname
  have hbody : (spaces ++ (name ++ rest)).dropWhile isBlank =
      spaces.dropWhile isBlank ++ (name ++ rest) := dropWhile_append_of_head (isBlank_head hname)
  have htrimmed : ∀ c ∈ (spaces.dropWhile isBlank).head?, isBlank c = false := by
    intro c hc
    have := List.head?_dropWhile_not isBlank spaces
    rw [hc] at this
    simpa using this
  have hhead : ∃ c more, spaces.dropWhile isBlank ++ (name ++ rest) = c :: more ∧ c ≠ '(' :=
    exists_head_of_name hspaces hname
  obtain ⟨c, more, hcons, hc⟩ := hhead
  rw [parseChars]
  split
  · next h => rw [hbody, hcons] at h; cases h
  · next h => rw [hbody, hcons] at h; cases h; exact absurd rfl hc
  · rw [hbody, List.dropWhile_append_of_pos hspaces', List.dropWhile_append_of_pos hname',
      List.takeWhile_append_of_pos hspaces', List.takeWhile_append_of_pos hname', trimmed,
      trimBlanks_of_name hname htrimmed, propertyOf]

end property

/-! ## The entries -/

/-- Entries with this property and no expression. -/
structure Headed (p : String) (entries : List (String × String)) : Prop where
  property_mem : (propertyKey, p) ∈ entries
  property_eq : ∀ value, (propertyKey, value) ∈ entries → value = p
  no_expression : ∀ value, (expressionKey, value) ∉ entries

theorem mem_put_of_ne {key value k v : String} {entries : List (String × String)} (hne : k ≠ key) :
    (k, v) ∈ put key value entries ↔ (k, v) ∈ entries := by
  induction entries with
  | nil => simp [put, hne]
  | cons first rest ih =>
    rw [put]
    split
    · next heq => subst heq; simp [hne, Prod.ext_iff]
    · rw [List.mem_cons, List.mem_cons, ih]

theorem Headed.put {p key value : String} {entries : List (String × String)}
    (h : Headed p entries) (hproperty : key ≠ propertyKey) (hexpression : key ≠ expressionKey) :
    Headed p (put key value entries) := by
  refine ⟨(mem_put_of_ne hproperty.symm).2 h.property_mem, fun v hv => ?_, fun v hv => ?_⟩
  · exact h.property_eq v ((mem_put_of_ne hproperty.symm).1 hv)
  · exact h.no_expression v ((mem_put_of_ne hexpression.symm).1 hv)

theorem headed_of_parseAttributes {text rest : List Char} {p : String}
    {entries : List (String × String)} {ph : Placeholder} (hentries : Headed p entries)
    (h : parseAttributes text entries rest = .ok ph)
    (hattributes : ∀ a ∈ (attributes? rest).getD [], a.1 ≠ propertyKey ∧ a.1 ≠ expressionKey) :
    Headed p ph.entries := by
  rw [parseAttributes] at h
  split at h
  · cases h
  · next more hmore =>
    rw [hmore] at hattributes
    cases h
    change ∀ a ∈ more, _ at hattributes
    clear hmore
    induction more generalizing entries with
    | nil => exact hentries
    | cons a more ih =>
      obtain ⟨hfirst, hrest⟩ := List.forall_mem_cons.1 hattributes
      exact ih (hentries.put hfirst.1 hfirst.2) hrest

theorem headed_of_parseTail {text rest : List Char} {p : String} {ph : Placeholder}
    (h : parseTail text [(propertyKey, p)] rest = .ok ph)
    (hattributes : ∀ a ∈ attributesAfter rest, a.1 ≠ propertyKey ∧ a.1 ≠ expressionKey) :
    Headed p ph.entries := by
  have hhead : Headed p [(propertyKey, p)] := by
    refine ⟨List.mem_singleton_self _, fun v hv => ?_, fun v hv => ?_⟩
    · cases List.mem_singleton.1 hv; rfl
    · have hkey : expressionKey = propertyKey := congrArg Prod.fst (List.mem_singleton.1 hv)
      exact absurd hkey (by decide)
  rw [parseTail] at h
  rw [attributesAfter] at hattributes
  split at h
  · cases h; exact hhead
  · next hrest =>
    rw [hrest] at hattributes
    rw [parseType] at h
    dsimp only at h
    split at h
    · cases h
    · exact headed_of_parseAttributes (hhead.put (by decide) (by decide)) h hattributes
  · next hrest =>
    rw [hrest] at hattributes
    exact headed_of_parseAttributes hhead h hattributes
  · cases h

/-- **The entries of a content that starts with a name.** -/
theorem headed_of_name {ph : Placeholder} (hspaces : ∀ c ∈ spaces, isSpace c)
    (hname : Token.isIdentifier name) (h : parseChars (spaces ++ (name ++ rest)) = .ok ph)
    (hattributes : ∀ a ∈ attributesAfter (rest.dropWhile (!endsProperty ·)),
      a.1 ≠ propertyKey ∧ a.1 ≠ expressionKey) :
    Headed (propertyOf spaces name rest) ph.entries := by
  rw [parseChars_of_name hspaces hname] at h
  exact headed_of_parseTail h hattributes

theorem Headed.property?_eq {p : String} {ph : Placeholder} (h : Headed p ph.entries) :
    ph.property? = some p := by
  obtain ⟨entries⟩ := ph
  obtain ⟨hmem, heq, -⟩ := h
  change entries.lookup propertyKey = some p
  dsimp only at hmem heq
  induction entries with
  | nil => cases hmem
  | cons first rest ih =>
    obtain ⟨key, value⟩ := first
    rw [List.lookup_cons]
    split
    · next hkey =>
      rw [beq_iff_eq.1 hkey] at heq
      rw [heq value List.mem_cons_self]
    · next hkey =>
      have hmem' : (propertyKey, p) ∈ rest := by
        rcases List.mem_cons.1 hmem with h | h
        · cases h
          rw [beq_self_eq_true] at hkey
          cases hkey
        · exact h
      exact ih hmem' fun v hv => heq v (List.mem_cons_of_mem _ hv)

end Placeholder

/-! ## The mapping -/

namespace Mapping

open Placeholder (propertyKey expressionKey)

/-- An entry fills the property and the expression if it is named so, and else keeps them. -/
theorem head_of_fill {content key value : String} {m m' : Mapping}
    (h : fill content m key value = .ok m') :
    m'.property = (if key = propertyKey then some value else m.property) ∧
      m'.expression = if key = expressionKey then some value else m.expression := by
  unfold fill at h
  dsimp only at h
  by_cases hproperty : key = propertyKey
  · rw [if_pos hproperty] at h
    cases h
    rw [if_pos hproperty, if_neg (by rw [hproperty]; decide)]
    exact ⟨rfl, rfl⟩
  · rw [if_neg hproperty] at h ⊢
    by_cases hexpression : key = expressionKey
    · rw [if_pos hexpression] at h ⊢
      cases h
      exact ⟨rfl, rfl⟩
    · rw [if_neg hexpression] at h ⊢
      -- Each entry that is left fills a field of its own, or fails.
      repeat' split at h
      all_goals cases h
      all_goals exact ⟨rfl, rfl⟩

variable {content p : String} {entries : List (String × String)} {m m' : Mapping}

/-- Once the property is there, entries with the same property keep it. -/
theorem property_of_fill
    (h : entries.foldlM (fun m entry => fill content m entry.1 entry.2) m = .ok m')
    (hentries : ∀ value, (propertyKey, value) ∈ entries → value = p) (hm : m.property = some p) :
    m'.property = some p := by
  refine invariant_of_foldlM_eq_ok (fun m => m.property = some p) h hm ?_
  rintro ⟨key, value⟩ hentry m m' hfill hkept
  rw [(head_of_fill hfill).1]
  split
  · next hkey =>
    subst hkey
    rw [hentries value hentry]
  · exact hkept

/-- Without an entry for it there is no expression. -/
theorem expression_of_fill
    (h : entries.foldlM (fun m entry => fill content m entry.1 entry.2) m = .ok m')
    (hentries : ∀ value, (expressionKey, value) ∉ entries) (hm : m.expression = none) :
    m'.expression = none := by
  refine invariant_of_foldlM_eq_ok (fun m => m.expression = none) h hm ?_
  rintro ⟨key, value⟩ hentry m m' hfill hkept
  rw [(head_of_fill hfill).2, if_neg, hkept]
  rintro rfl
  exact hentries value hentry

/-- **The mapping of a property.** -/
theorem property_of_ofContent {schema : Option (Registry × String)}
    (h : ofContent schema content = .ok m)
    (hheaded : ∀ ph, Placeholder.parse content = .ok ph → Placeholder.Headed p ph.entries) :
    m.property = some p ∧ m.expression = none := by
  rw [ofContent] at h
  split at h
  · cases h
  next ph hparse =>
  obtain ⟨filled, hfilled, h⟩ := exists_of_bind_eq_ok h
  cases h
  obtain ⟨hmem, heq, hno⟩ := hheaded ph hparse
  have hexpression : filled.expression = none := expression_of_fill hfilled hno rfl
  suffices hproperty : filled.property = some p from ⟨hproperty, hexpression⟩
  -- The first entry for the property sets it, and the others after it keep it.
  obtain ⟨before, after, hentries⟩ := List.append_of_mem hmem
  rw [hentries, List.foldlM_append] at hfilled
  obtain ⟨start, -, hfilled⟩ := exists_of_bind_eq_ok hfilled
  rw [List.foldlM_cons] at hfilled
  obtain ⟨next, hnext, hfilled⟩ := exists_of_bind_eq_ok hfilled
  refine property_of_fill hfilled (fun value hvalue => heq value ?_) ?_
  · rw [hentries]
    exact List.mem_append_right _ (List.mem_cons_of_mem _ hvalue)
  · rw [(head_of_fill hnext).1, if_pos rfl]

end Mapping

end SqlTemplate
