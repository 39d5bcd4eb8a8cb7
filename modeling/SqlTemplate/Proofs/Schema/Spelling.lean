import SqlTemplate.Proofs.Schema.Conformance
import SqlTemplate.Proofs.Schema.Segment

/-!
# Declared spellings

A path is looked up name by name, whatever its case, and what is found is spelled as it is declared.
Many paths find the same spelling, and this spelling stands for all of them.

**Theorem (`canonical_spelling`).** A spelling that is found leads to a type. Its segments are the
first segments of the path that was looked up, but for case. Looking it up finds it again, and so
does every path that differs from the first one in case only, or in underscores where these are left
out.

Of several declared names that differ in case only the first one is always taken, so one step of the
search depends on the name in lower case alone (`declaration?_congr`), and a name that was found
finds itself (`declaration?_declared`). The rest follows the path, through registered types that may
refer to each other in circles. A declared name with a bracket in it would be cut there when the
spelling is read as a path, so there may be none.
-/

namespace SqlTemplate

/-! ## Texts in lower case -/

namespace Text

variable {c d : Char} {text : List Char}

/-- A text in lower case. -/
def lowered (text : List Char) : List Char := text.map Char.toLower

theorem isAlpha_toLower_of_isUpper (hc : c.isUpper) : c.toLower.isAlpha := by
  have hall : ∀ n < 26, (Char.ofNat (65 + n)).toLower.isAlpha := by decide
  have hrange : 65 ≤ c.toNat ∧ c.toNat ≤ 90 := by
    delta Char.isUpper at hc
    simpa [UInt32.le_iff_toNat_le] using hc
  have hletter := hall (c.toNat - 65) (by omega)
  rwa [Nat.add_sub_cancel' hrange.1, Char.ofNat_toNat] at hletter

/-- Case concerns letters only. -/
theorem toLower_eq_iff (hd : d.isAlpha = false) : c.toLower = d ↔ c = d := by
  cases hc : c.isUpper with
  | false =>
    have hsame : c.toLower = c := dif_neg fun h => by
      delta Char.isUpper at hc
      simp at hc h
      grind
    rw [hsame]
  | true =>
    have hlower := isAlpha_toLower_of_isUpper hc
    have hupper : c.isAlpha := Bool.or_eq_true_iff.2 (.inl hc)
    constructor
    · rintro rfl
      rw [hlower] at hd
      cases hd
    · rintro rfl
      rw [hupper] at hd
      cases hd

theorem mem_lowered_iff (hd : d.isAlpha = false) : d ∈ lowered text ↔ d ∈ text := by
  rw [lowered, List.mem_map]
  constructor
  · rintro ⟨c, hc, hlower⟩
    rwa [(toLower_eq_iff hd).1 hlower] at hc
  · exact fun h => ⟨d, h, (toLower_eq_iff hd).2 rfl⟩

theorem beq_toLower (hd : d.isAlpha = false) : (c.toLower == d) = (c == d) := by
  rw [Bool.eq_iff_iff, beq_iff_eq, beq_iff_eq, toLower_eq_iff hd]

/-- A text in lower case is cut where the text is cut. -/
theorem cut_lowered (hd : d.isAlpha = false) (text : List Char) :
    cut (· == d) (lowered text) =
      (lowered (cut (· == d) text).1, (cut (· == d) text).2.map lowered) := by
  induction text with
  | nil => rfl
  | cons c text ih =>
    have hcons : lowered (c :: text) = c.toLower :: lowered text := rfl
    rw [hcons, cut, cut, beq_toLower hd, ih]
    split <;> rfl

/-- A text in lower case has the pieces of the text, in lower case. -/
theorem pieces_lowered (hd : d.isAlpha = false) (text : List Char) :
    pieces d (lowered text) = (pieces d text).map lowered :=
  pieces_map (fun _ => toLower_eq_iff hd) text

end Text

open Text (lowered)

/-! ## Segments in lower case -/

namespace Segment

/-- A segment in lower case. -/
def lowered (s : Segment) : Segment := ⟨s.name.toLower, s.index.map String.toLower⟩

theorem ofList_lowered (text : List Char) :
    (String.ofList text).toLower = String.ofList (Text.lowered text) := by
  rw [← String.toList_inj, String.toList_ofList, Text.lowered]
  exact String.toList_map.trans (congrArg _ String.toList_ofList)

/-- Closing brackets at the end of a text stay what they are. -/
theorem trimBrackets_lowered (text : List Char) :
    ((Text.lowered text).reverse.dropWhile (· == ']')).reverse =
      Text.lowered (text.reverse.dropWhile (· == ']')).reverse := by
  have htest : ((· == ']') ∘ Char.toLower) = (· == ']') := funext fun c => Text.beq_toLower rfl
  rw [Text.lowered, Text.lowered, ← List.map_reverse, List.dropWhile_map, htest, List.map_reverse]

theorem ofPiece_lowered (piece : List Char) :
    (ofPiece piece).lowered = ofPiece (Text.lowered piece) := by
  rw [ofPiece, ofPiece, Text.cut_lowered rfl]
  rcases Text.cut (· == '[') piece with ⟨name, _ | index⟩
  · exact congrArg (Segment.mk · none) (ofList_lowered name)
  · simp only [lowered, Option.map_some, ofList_lowered, trimBrackets_lowered]

/-- **A path in lower case** has the segments of the path, in lower case. -/
theorem ofPath_lowered (path : String) :
    (ofPath path).map lowered = ((Text.pieces '.' path.toList).map Text.lowered).map ofPiece := by
  rw [ofPath, List.map_map, List.map_map]
  exact List.map_congr_left fun piece _ => ofPiece_lowered piece

end Segment

/-- The first entry that passes a test is the first entry with its key, where the test looks at keys
only. -/
theorem Keyed.get?_of_find? {α : Type} (test : String → Bool) {table : Keyed α} {key : String}
    {value : α} (h : table.find? (fun entry => test entry.1) = some (key, value)) :
    get? key table = some value := by
  induction table with
  | nil => cases h
  | cons entry rest ih =>
    rw [List.find?_cons] at h
    split at h
    · next htest =>
      cases h
      exact if_pos rfl
    · next htest =>
      have hkey : entry.1 ≠ key := by
        intro heq
        have hfound := List.find?_some h
        rw [heq] at htest
        rw [htest] at hfound
        cases hfound
      rw [get?, if_neg hkey]
      exact ih h

namespace Registry

variable {r : Registry} {typeName declared : String} {type : PropertyType} {part other : List Char}
  {parts others : List (List Char)}

/-! ## One name -/

/-- The first declaration that a name finds in a type, whatever its case. -/
def declaration? (r : Registry) (typeName : String) (part : List Char) :
    Option (String × PropertyType) :=
  (r.descriptor? typeName).bind fun d =>
    d.properties.find? fun property => sameName property.1 (String.ofList part)

theorem sameName_iff {a b : String} : sameName a b ↔ lowered a.toList = lowered b.toList :=
  beq_iff_eq

/-- **What a name finds depends on the name in lower case alone.** -/
theorem declaration?_congr (h : lowered part = lowered other) :
    r.declaration? typeName part = r.declaration? typeName other := by
  have hsame (name : String) :
      sameName name (String.ofList part) = sameName name (String.ofList other) := by
    rw [Bool.eq_iff_iff, sameName_iff, sameName_iff, String.toList_ofList, String.toList_ofList, h]
  simp only [declaration?, hsame]

/-- A name finds a declaration of that name, but for case. -/
theorem lowered_of_declaration? (h : r.declaration? typeName part = some (declared, type)) :
    lowered declared.toList = lowered part := by
  obtain ⟨d, -, hfind⟩ := Option.bind_eq_some_iff.1 h
  have hsame := List.find?_some hfind
  dsimp only at hsame
  rwa [sameName_iff, String.toList_ofList] at hsame

/-- **A name that was found finds itself.** -/
theorem declaration?_declared (h : r.declaration? typeName part = some (declared, type)) :
    r.declaration? typeName declared.toList = some (declared, type) :=
  (declaration?_congr (lowered_of_declaration? h)).trans h

/-- A name that was found leads to the type of its declaration. -/
theorem propertyOf?_declared (h : r.declaration? typeName part = some (declared, type)) :
    r.propertyOf? (.object typeName) declared = some type := by
  obtain ⟨d, hd, hfind⟩ := Option.bind_eq_some_iff.1 h
  rw [propertyOf?, hd]
  exact Keyed.get?_of_find? (sameName · (String.ofList part)) hfind

/-! ## The names of a path -/

/-- The declared spellings of the names in a path that goes on from a type. -/
def spellingsFrom (r : Registry) : PropertyType → List (List Char) → List String
  | .object typeName, parts => r.spellings typeName parts
  | _, _ => []

theorem spellings_cons (r : Registry) (typeName : String) (part : List Char)
    (parts : List (List Char)) :
    r.spellings typeName (part :: parts) =
      match r.declaration? typeName part with
      | none => []
      | some (declared, type) => declared :: r.spellingsFrom type parts := by
  rw [spellings, declaration?]
  cases r.descriptor? typeName with
  | none => rfl
  | some d =>
    rw [Option.bind_some]
    dsimp only
    rcases d.properties.find? _ with _ | ⟨declared, type⟩
    · rfl
    · cases type <;> rfl

/-- **The spellings of a path depend on its names in lower case alone.** -/
theorem spellings_congr (h : parts.map lowered = others.map lowered) :
    r.spellings typeName parts = r.spellings typeName others := by
  induction parts generalizing typeName others with
  | nil => rw [List.map_eq_nil_iff.1 h.symm]
  | cons part parts ih =>
    obtain ⟨other, others, rfl, hother, hothers⟩ := List.map_eq_cons_iff.1 h.symm
    rw [spellings_cons, spellings_cons, declaration?_congr hother.symm]
    split
    · rfl
    · next declared type _ =>
      cases type with
      | object next => exact congrArg _ (ih hothers.symm)
      | _ => rfl

/-- **The spellings are the first names of the path**, but for case. -/
theorem lowered_spellings (r : Registry) (typeName : String) (parts : List (List Char)) :
    ((r.spellings typeName parts).map String.toList).map lowered <+: parts.map lowered := by
  induction parts generalizing typeName with
  | nil => exact List.nil_prefix
  | cons part parts ih =>
    rw [spellings_cons]
    split
    · exact List.nil_prefix
    · next declared type h =>
      rw [List.map_cons, List.map_cons, List.map_cons, lowered_of_declaration? h,
        List.prefix_cons_inj]
      cases type with
      | object next => exact ih next
      | _ => exact List.nil_prefix

/-- **Spellings that were found find themselves.** -/
theorem spellings_spellings (r : Registry) (typeName : String) (parts : List (List Char)) :
    r.spellings typeName ((r.spellings typeName parts).map String.toList) =
      r.spellings typeName parts := by
  induction parts generalizing typeName with
  | nil => rfl
  | cons part parts ih =>
    rw [spellings_cons]
    split
    · rfl
    · next declared type h =>
      rw [List.map_cons, spellings_cons, declaration?_declared h]
      dsimp only
      cases type with
      | object next => exact congrArg _ (ih next)
      | _ => rfl

/-- **Spellings that were found lead to a type.** -/
theorem follow?_spellings (r : Registry) (typeName : String) (parts : List (List Char)) :
    (r.follow? (.object typeName)
      ((r.spellings typeName parts).map fun name => ⟨name, none⟩)).isSome := by
  induction parts generalizing typeName with
  | nil => rfl
  | cons part parts ih =>
    rw [spellings_cons]
    split
    · rfl
    · next declared type h =>
      have hobject : PropertyType.object typeName ≠ .any := nofun
      rw [List.map_cons, follow?_cons hobject (s := ⟨declared, none⟩) (propertyOf?_declared h)]
      cases type with
      | object next => exact ih next
      | _ => rfl

/-- A spelling that is found is declared. -/
theorem declared_of_mem_spellings {name : String} (h : name ∈ r.spellings typeName parts) :
    ∃ entry ∈ r.types, name ∈ Keyed.keys entry.2.properties := by
  induction parts generalizing typeName with
  | nil => cases h
  | cons part parts ih =>
    rw [spellings_cons] at h
    split at h
    · cases h
    · next declared type hfound =>
      rcases List.mem_cons.1 h with rfl | h
      · obtain ⟨d, hd, hfind⟩ := Option.bind_eq_some_iff.1 hfound
        exact ⟨(typeName, d), Keyed.mem_of_get? hd,
          List.mem_map_of_mem (List.mem_of_find?_eq_some hfind)⟩
      · cases type with
        | object next => exact ih h
        | _ => cases h

/-- Apart from letters, a spelling has the characters of a name of the path. -/
theorem mem_part_of_mem_spellings {name : String} (h : name ∈ r.spellings typeName parts) {d : Char}
    (hd : d.isAlpha = false) (hmem : d ∈ name.toList) : ∃ part ∈ parts, d ∈ part := by
  have hlowered : lowered name.toList ∈ parts.map lowered :=
    (lowered_spellings r typeName parts).subset (List.mem_map_of_mem (List.mem_map_of_mem h))
  obtain ⟨part, hpart, heq⟩ := List.mem_map.1 hlowered
  exact ⟨part, hpart, (Text.mem_lowered_iff hd).1 (heq ▸ (Text.mem_lowered_iff hd).2 hmem)⟩

/-! ## A path -/

/-- What is looked up for a path: underscores are left out where `camelCase` is set. -/
def sought (camelCase : Bool) (path : String) : String :=
  if camelCase then String.ofList (path.toList.filter (· != '_')) else path

/-- The declared spellings of the names that a path finds. -/
def found (r : Registry) (typeName path : String) (camelCase : Bool) : List String :=
  r.spellings typeName (Text.pieces '.' (sought camelCase path).toList)

/-- No declared name has an opening bracket in it. -/
def Unbracketed (r : Registry) : Prop :=
  ∀ entry ∈ r.types, ∀ name ∈ Keyed.keys entry.2.properties, '[' ∉ name.toList

instance (r : Registry) : Decidable r.Unbracketed :=
  inferInstanceAs (Decidable (∀ entry ∈ r.types, ∀ name ∈ Keyed.keys entry.2.properties,
    '[' ∉ name.toList))

section path

variable {path s : String} {camelCase : Bool}

theorem spelling?_eq_some_iff :
    r.spelling? typeName path camelCase = some s ↔
      r.found typeName path camelCase ≠ [] ∧
        ".".intercalate (r.found typeName path camelCase) = s := by
  have hchars : (if camelCase then path.toList.filter (· != '_') else path.toList) =
      (sought camelCase path).toList := by
    cases camelCase with
    | false => rfl
    | true => exact String.toList_ofList.symm
  rw [spelling?, hchars, found]
  cases r.spellings typeName (Text.pieces '.' (sought camelCase path).toList) with
  | nil => simp
  | cons first rest => simp

theorem sought_eq_self (h : camelCase → '_' ∉ path.toList) : sought camelCase path = path := by
  cases camelCase with
  | false => rfl
  | true =>
    have hkeep : path.toList.filter (· != '_') = path.toList :=
      List.filter_eq_self.2 fun c hc => bne_iff_ne.2 fun heq => h rfl (heq ▸ hc)
    rw [sought, if_pos rfl, hkeep, String.ofList_toList]

/-- No name that is found has a dot in it, nor an underscore where these were left out. -/
theorem plain_of_mem_found {name : String} (h : name ∈ r.found typeName path camelCase) :
    '.' ∉ name.toList ∧ (camelCase → '_' ∉ name.toList) := by
  have hmem {d : Char} (hd : d.isAlpha = false) (hname : d ∈ name.toList) :
      d ∈ (sought camelCase path).toList ∧ d ≠ '.' :=
    Text.mem_pieces_iff.1 (mem_part_of_mem_spellings h hd hname)
  refine ⟨fun hdot => (hmem rfl hdot).2 rfl, ?_⟩
  rintro rfl hunderscore
  have := (hmem rfl hunderscore).1
  simp [sought] at this

/-- **The names of a spelling** are those that were found. -/
theorem pieces_spelling (h : r.spelling? typeName path camelCase = some s) :
    Text.pieces '.' s.toList = (r.found typeName path camelCase).map String.toList := by
  obtain ⟨hne, rfl⟩ := spelling?_eq_some_iff.1 h
  rw [String.toList_intercalate]
  refine Text.pieces_intercalate (fun hnil => hne (List.map_eq_nil_iff.1 hnil)) fun w hw => ?_
  obtain ⟨name, hname, rfl⟩ := List.mem_map.1 hw
  exact (plain_of_mem_found hname).1

theorem sought_spelling (h : r.spelling? typeName path camelCase = some s) :
    sought camelCase s = s := by
  refine sought_eq_self fun hcamel hunderscore => ?_
  have hpiece := Text.mem_pieces_iff.2 ⟨hunderscore, (by decide : '_' ≠ '.')⟩
  rw [pieces_spelling h] at hpiece
  obtain ⟨w, hw, hmem⟩ := hpiece
  obtain ⟨name, hname, rfl⟩ := List.mem_map.1 hw
  exact (plain_of_mem_found hname).2 hcamel hmem

/-- **A spelling finds what it was found by.** -/
theorem found_spelling (h : r.spelling? typeName path camelCase = some s) :
    r.found typeName s camelCase = r.found typeName path camelCase := by
  rw [found, sought_spelling h, pieces_spelling h]
  exact spellings_spellings r typeName _

/-- **Paths that differ in case find the same.** -/
theorem found_congr {other : String}
    (h : sameName (sought camelCase other) (sought camelCase path)) :
    r.found typeName other camelCase = r.found typeName path camelCase := by
  refine spellings_congr ?_
  rw [← Text.pieces_lowered rfl, ← Text.pieces_lowered rfl, sameName_iff.1 h]

/-- The segments of a spelling are the names that were found, none with an index. -/
theorem ofPath_spelling (hr : r.Unbracketed) (h : r.spelling? typeName path camelCase = some s) :
    Segment.ofPath s = (r.found typeName path camelCase).map fun name => ⟨name, none⟩ := by
  rw [Segment.ofPath, pieces_spelling h, List.map_map]
  refine List.map_congr_left fun name hname => ?_
  obtain ⟨entry, hentry, hname⟩ := declared_of_mem_spellings hname
  rw [Function.comp, Segment.ofPiece_of_not_mem (hr entry hentry name hname),
    String.ofList_toList]

/-- **A declared spelling stands for all paths that find it.** Whatever is found leads to a type,
spells the first segments of the path that was looked up, and is found again by itself and by every
path that differs from the first one in case alone, or in underscores where these are left out. -/
theorem canonical_spelling (hr : r.Unbracketed)
    (h : r.spelling? typeName path camelCase = some s) :
    r.resolves typeName s ∧
      (Segment.ofPath s).map Segment.lowered <+:
        (Segment.ofPath (sought camelCase path)).map Segment.lowered ∧
      r.spelling? typeName s camelCase = some s ∧
      ∀ other, sameName (sought camelCase other) (sought camelCase path) →
        r.spelling? typeName other camelCase = some s := by
  obtain ⟨hne, hs⟩ := spelling?_eq_some_iff.1 h
  refine ⟨?_, ?_, ?_, fun other hother => ?_⟩
  · rw [resolves, typeOf?, ofPath_spelling hr h]
    exact follow?_spellings r typeName _
  · rw [Segment.ofPath_lowered, Segment.ofPath_lowered, pieces_spelling h]
    exact (lowered_spellings r typeName _).map Segment.ofPiece
  · rw [spelling?_eq_some_iff, found_spelling h]
    exact ⟨hne, hs⟩
  · rw [spelling?_eq_some_iff, found_congr hother]
    exact ⟨hne, hs⟩

end path

/-- A path through two types that refer to each other, to the first of two names that differ in
case; what follows that name is left aside. -/
theorem canonical_spelling_of_circle :
    let order := (Descriptor.empty "Order").declare "customer" (.object "Customer")
    let customer := (Descriptor.empty "Customer").declare "userName" .text
      |>.declare "username" .int |>.declare "order" (.object "Order")
    let r := (empty.register order).register customer
    let path := "CUSTOMER.Order.customer.user_name.first"
    let s := "customer.order.customer.userName"
    (r.Unbracketed ∧ r.spelling? "Order" path true = some s) ∧
      r.resolves "Order" s ∧
      (Segment.ofPath s).map Segment.lowered <+:
        (Segment.ofPath (sought true path)).map Segment.lowered ∧
      r.spelling? "Order" s true = some s ∧
      r.spelling? "Order" "cusTomer._ORDER.customer.username.fir_st" true = some s := by
  intro order customer r path s
  have hr : r.Unbracketed := by decide
  have h : r.spelling? "Order" path true = some s := by decide
  obtain ⟨hresolves, hleading, hself, hothers⟩ := canonical_spelling hr h
  exact ⟨⟨hr, h⟩, hresolves, hleading, hself, hothers _ (by decide)⟩

end Registry

end SqlTemplate
