import Mathlib.Data.List.DropRight
import SqlTemplate.Proofs.Text.Cut
import SqlTemplate.Schema.Path

/-!
# Segments taken apart and put together

A segment is written as its name, with its index in brackets after it, and a path as its segments
with dots between them. Reading a path cuts it at its dots first, then each piece at its first
bracket, and drops the closing brackets at the end of an index, however many there are. So a segment
is read as it was written if it is **separable**: no dot stands in it, no opening bracket in its
name, and no closing bracket at the end of its index. Its name and its index may be empty, and an
opening bracket may stand in its index.

**Theorem (`ofPath_reassembles`).** Separable segments, at least one, are the segments of the path
that they are written as; and a path may be cut at any of its dots, whatever stands before and
after it.

A path has no other segments than these: a list is read from some path exactly if it has a first
segment and all of its segments are separable (`exists_ofPath_eq_iff`).
-/

namespace SqlTemplate.Segment

variable {s : Segment} {segments : List Segment} {piece : List Char}

/-! ## One segment -/

/-- The text of a segment. -/
def toChars (s : Segment) : List Char :=
  s.name.toList ++ s.index.elim [] fun index => '[' :: (index.toList ++ [']'])

/-- A segment that is read as it was written. -/
structure IsSeparable (s : Segment) : Prop where
  dot_not_mem_name : '.' ∉ s.name.toList
  bracket_not_mem_name : '[' ∉ s.name.toList
  dot_not_mem_index : ∀ index ∈ s.index, '.' ∉ index.toList
  index_end : ∀ index ∈ s.index, index.toList.getLast? ≠ some ']'

instance (s : Segment) : Decidable s.IsSeparable :=
  decidable_of_iff ('.' ∉ s.name.toList ∧ '[' ∉ s.name.toList ∧
      (∀ index ∈ s.index, '.' ∉ index.toList) ∧
      ∀ index ∈ s.index, index.toList.getLast? ≠ some ']')
    ⟨fun ⟨h₁, h₂, h₃, h₄⟩ => ⟨h₁, h₂, h₃, h₄⟩, fun ⟨h₁, h₂, h₃, h₄⟩ => ⟨h₁, h₂, h₃, h₄⟩⟩

theorem IsSeparable.dot_not_mem (hs : s.IsSeparable) : '.' ∉ s.toChars := by
  obtain ⟨name, index⟩ := s
  intro hmem
  rcases List.mem_append.1 hmem with hname | hindex
  · exact hs.dot_not_mem_name hname
  · cases index with
    | none => cases hindex
    | some index =>
      simp only [Option.elim_some, List.mem_cons, List.mem_append, List.not_mem_nil, or_false]
        at hindex
      rcases hindex with heq | hmem | heq
      · cases heq
      · exact hs.dot_not_mem_index index rfl hmem
      · cases heq

/-- Without a bracket, a piece is a name. -/
theorem ofPiece_of_not_mem (h : '[' ∉ piece) : ofPiece piece = ⟨String.ofList piece, none⟩ := by
  have hname : ∀ c ∈ piece, (c == '[') = false := fun c hc =>
    beq_eq_false_iff_ne.2 fun heq => h (heq ▸ hc)
  rw [ofPiece, Text.cut_of_none hname]
  rfl

/-- What stands after the first bracket is the index, up to the closing brackets at its end. -/
theorem ofPiece_of_bracket {name : List Char} (h : '[' ∉ name) (index : List Char) :
    ofPiece (name ++ '[' :: index) =
      ⟨String.ofList name, some (String.ofList (index.rdropWhile (· == ']')))⟩ := by
  have hname : ∀ c ∈ name, (c == '[') = false := fun c hc =>
    beq_eq_false_iff_ne.2 fun heq => h (heq ▸ hc)
  rw [ofPiece, Text.cut_append hname rfl]
  rfl

/-- **A segment is read as it was written.** -/
theorem ofPiece_toChars (hs : s.IsSeparable) : ofPiece s.toChars = s := by
  obtain ⟨name, index⟩ := s
  cases index with
  | none =>
    rw [toChars, Option.elim_none, List.append_nil, ofPiece_of_not_mem hs.bracket_not_mem_name,
      String.ofList_toList]
  | some index =>
    have hend : (index.toList ++ [']']).rdropWhile (· == ']') = index.toList := by
      rw [List.rdropWhile_concat_pos _ _ _ rfl, List.rdropWhile_eq_self_iff]
      intro hne hlast
      have hlast : index.toList.getLast hne = ']' := beq_iff_eq.1 hlast
      exact hs.index_end index rfl (by rw [List.getLast?_eq_some_getLast hne, hlast])
    rw [toChars, Option.elim_some, ofPiece_of_bracket hs.bracket_not_mem_name, hend,
      String.ofList_toList, String.ofList_toList]

/-- What stands between two dots is read as a separable segment. -/
theorem isSeparable_ofPiece (h : '.' ∉ piece) : (ofPiece piece).IsSeparable := by
  by_cases hbracket : '[' ∈ piece
  · obtain ⟨name, index, rfl, hname⟩ := List.eq_append_cons_of_mem hbracket
    have hbefore := List.rdropWhile_prefix (· == ']') index
    rw [ofPiece_of_bracket hname]
    refine ⟨?_, ?_, ?_, ?_⟩
    · rw [String.toList_ofList]
      exact fun hmem => h (List.mem_append_left _ hmem)
    · rwa [String.toList_ofList]
    · rintro _ ⟨⟩ hmem
      rw [String.toList_ofList] at hmem
      exact h (List.mem_append_right _ (List.mem_cons_of_mem _ (hbefore.subset hmem)))
    · rintro _ ⟨⟩ hlast
      rw [String.toList_ofList, List.getLast?_eq_some_iff] at hlast
      obtain ⟨before, heq⟩ := hlast
      have hne : index.rdropWhile (· == ']') ≠ [] := by simp [heq]
      have hlast := List.rdropWhile_last_not (· == ']') index hne
      simp [heq] at hlast
  · rw [ofPiece_of_not_mem hbracket]
    exact ⟨by rwa [String.toList_ofList], by rwa [String.toList_ofList], nofun, nofun⟩

/-! ## Paths -/

/-- The path that is written as these segments. -/
def toPath (segments : List Segment) : String :=
  ".".intercalate (segments.map fun s => String.ofList s.toChars)

theorem toList_toPath (segments : List Segment) :
    (toPath segments).toList = ['.'].intercalate (segments.map toChars) := by
  rw [toPath, String.toList_intercalate, List.map_map]
  simp [Function.comp_def]

/-- **The segments before a dot and the segments after it.** -/
theorem ofPath_dot (p q : String) : ofPath (p ++ "." ++ q) = ofPath p ++ ofPath q := by
  have hchars : (p ++ "." ++ q).toList = p.toList ++ '.' :: q.toList := by simp
  rw [ofPath, hchars, Text.pieces_append_separator, List.map_append]
  rfl

/-- Every path has a first segment, be it an empty one. -/
theorem exists_ofPath (path : String) : ∃ first rest, ofPath path = first :: rest :=
  List.exists_cons_of_ne_nil (by simp [ofPath, Text.pieces_ne_nil])

/-- **Segments are read as they were written.** -/
theorem ofPath_toPath (hne : segments ≠ []) (h : ∀ s ∈ segments, s.IsSeparable) :
    ofPath (toPath segments) = segments := by
  have hdots : ∀ piece ∈ segments.map toChars, '.' ∉ piece :=
    List.forall_mem_map.2 fun s hs => (h s hs).dot_not_mem
  have hread : ∀ s ∈ segments, (ofPiece ∘ toChars) s = id s := fun s hs => ofPiece_toChars (h s hs)
  rw [ofPath, toList_toPath, Text.pieces_intercalate (by simpa using hne) hdots, List.map_map,
    List.map_congr_left hread, List.map_id]

/-- The segments of a path are separable. -/
theorem isSeparable_of_mem_ofPath {path : String} (hs : s ∈ ofPath path) : s.IsSeparable := by
  obtain ⟨piece, hpiece, rfl⟩ := List.mem_map.1 hs
  refine isSeparable_ofPiece fun hdot => ?_
  exact (Text.mem_pieces_iff.1 ⟨piece, hpiece, hdot⟩).2 rfl

/-- **The lists that are read from paths.** -/
theorem exists_ofPath_eq_iff :
    (∃ path, ofPath path = segments) ↔ segments ≠ [] ∧ ∀ s ∈ segments, s.IsSeparable := by
  constructor
  · rintro ⟨path, rfl⟩
    obtain ⟨first, rest, hpath⟩ := exists_ofPath path
    exact ⟨by simp [hpath], fun s hs => isSeparable_of_mem_ofPath hs⟩
  · rintro ⟨hne, h⟩
    exact ⟨toPath segments, ofPath_toPath hne h⟩

/-- **Paths taken apart and put together.** Separable segments, at least one, are read from the path
that they are written as. The segments of two paths with a dot between them are those of the first
and then those of the second, for all texts. -/
theorem ofPath_reassembles :
    (∀ segments : List Segment, segments ≠ [] → (∀ s ∈ segments, s.IsSeparable) →
        ofPath (toPath segments) = segments) ∧
      ∀ p q : String, ofPath (p ++ "." ++ q) = ofPath p ++ ofPath q :=
  ⟨fun _ => ofPath_toPath, ofPath_dot⟩

/-- Empty names and indexes, and brackets where they separate nothing. -/
theorem ofPath_reassembles_with_brackets :
    let before : List Segment := [⟨"", none⟩, ⟨"a]b", some "x[y"⟩]
    let after : List Segment := [⟨"", some ""⟩, ⟨"c]", none⟩, ⟨"d", some "]e"⟩]
    (∀ s ∈ before ++ after, s.IsSeparable) ∧
      toPath (before ++ after) = ".a]b[x[y].[].c].d[]e]" ∧
      ofPath ".a]b[x[y].[].c].d[]e]" = before ++ after ∧
      ofPath ".a]b[x[y]]]" = before ∧
      ofPath ".a]b[x[y]]].[].c].d[]e]" = before ++ after := by
  intro before after
  have hseparable : ∀ s ∈ before ++ after, s.IsSeparable := by decide
  have htext : toPath (before ++ after) = ".a]b[x[y].[].c].d[]e]" := by decide
  obtain ⟨hread, hdot⟩ := ofPath_reassembles
  have hbefore : ofPath ".a]b[x[y]]]" = before := by decide
  refine ⟨hseparable, htext, ?_, hbefore, ?_⟩
  · rw [← htext]
    exact hread _ (List.cons_ne_nil _ _) hseparable
  · have hafter : ofPath "[].c].d[]e]" = after :=
      hread after (List.cons_ne_nil _ _) fun s hs => hseparable s (List.mem_append_right _ hs)
    rw [← hbefore, ← hafter]
    exact hdot ".a]b[x[y]]]" "[].c].d[]e]"

end SqlTemplate.Segment
