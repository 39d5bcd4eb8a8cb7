import Mathlib.Data.List.Basic
import SqlTemplate.Text.Cut

/-!
# Places in the bytes of a text

A text is stored in UTF-8, and a place in it may count bytes. Asking for the part between two places
(`byteSlice`) then goes wrong in one of three ways (`PlaceFault`): a place is beyond the end of the
text, it is inside a character, or the first place is behind the second one. There is a part exactly
if nothing is wrong (`byteSlice_eq_ok_iff`), and the order is what is wrong only if nothing else is
(`byteSlice_eq_backwards_iff`).

`bytePlace` is the byte place at which a character starts. Between two such places only the order
can be wrong, and the byte before one is a backslash exactly if the character before it is one
(`exists_byteAt_before`): no byte of a longer character looks like one.
-/

namespace SqlTemplate.Text

variable {text before after part : List Char} {place start stop i j : Nat}

/-! ## Counting bytes -/

theorem byteLength_append (before left : List Char) :
    byteLength (before ++ left) = byteLength before + byteLength left := by
  induction before with
  | nil => exact (Nat.zero_add _).symm
  | cons c before ih => rw [List.cons_append, byteLength, byteLength, ih, Nat.add_assoc]

theorem utf8ByteSize_ofList (text : List Char) :
    (String.ofList text).utf8ByteSize = byteLength text := by
  induction text with
  | nil => rfl
  | cons c rest ih =>
    rw [← List.singleton_append, String.ofList_append, String.utf8ByteSize_append, ih,
      ← String.singleton_eq_ofList, String.utf8ByteSize_singleton]
    rfl

theorem byteLength_pos (h : text ≠ []) : 0 < byteLength text := by
  cases text with
  | nil => exact absurd rfl h
  | cons c rest =>
    have := c.utf8Size_pos
    rw [byteLength]
    omega

/-- The byte place of the character at a place. -/
def bytePlace (text : List Char) (i : Nat) : Nat := byteLength (text.take i)

theorem bytePlace_zero (text : List Char) : bytePlace text 0 = 0 := rfl

theorem bytePlace_length (text : List Char) : bytePlace text text.length = byteLength text := by
  rw [bytePlace, List.take_length]

theorem bytePlace_append (before after : List Char) :
    bytePlace (before ++ after) before.length = byteLength before := by
  rw [bytePlace, List.take_left]

theorem bytePlace_add (text : List Char) (i j : Nat) :
    bytePlace text (i + j) = bytePlace text i + bytePlace (text.drop i) j := by
  rw [bytePlace, bytePlace, bytePlace, List.take_add, byteLength_append]

theorem bytePlace_le (text : List Char) (i : Nat) : bytePlace text i ≤ byteLength text := by
  have happend := byteLength_append (text.take i) (text.drop i)
  rw [List.take_append_drop] at happend
  exact happend ▸ Nat.le_add_right _ _

theorem bytePlace_mono (hij : i ≤ j) : bytePlace text i ≤ bytePlace text j := by
  obtain ⟨n, rfl⟩ := Nat.exists_eq_add_of_le hij
  rw [bytePlace_add]
  exact Nat.le_add_right _ _

theorem bytePlace_strictMono (hij : i < j) (hj : j ≤ text.length) :
    bytePlace text i < bytePlace text j := by
  obtain ⟨n, rfl⟩ := Nat.exists_eq_add_of_lt hij
  rw [Nat.add_assoc, bytePlace_add]
  refine Nat.lt_add_of_pos_right (byteLength_pos fun hnil => ?_)
  rw [List.take_eq_nil_iff, List.drop_eq_nil_iff] at hnil
  omega

theorem bytePlace_lt_iff (hj : j ≤ text.length) :
    bytePlace text i < bytePlace text j ↔ i < j :=
  ⟨fun h => Nat.lt_of_not_le fun hji => Nat.not_lt.2 (bytePlace_mono hji) h,
    fun h => bytePlace_strictMono h hj⟩

/-! ## Slices -/

/-- What can be wrong with the places that a text is asked at. -/
inductive PlaceFault
  | outside
  | inside
  | backwards
  deriving DecidableEq, Repr

/-- The text before a byte place and from there on, unless the place is inside a character or beyond
the end. -/
def splitAtByte? : List Char → Nat → Option (List Char × List Char)
  | text, 0 => some ([], text)
  | [], _ + 1 => none
  | c :: rest, place + 1 =>
    if c.utf8Size ≤ place + 1 then
      (splitAtByte? rest (place + 1 - c.utf8Size)).map fun (before, after) => (c :: before, after)
    else none

/-- The part of a text between two byte places. Only where both are at characters their order is
looked at. -/
def byteSlice (text : List Char) (start stop : Nat) : Except PlaceFault (List Char) :=
  if byteLength text < start ∨ byteLength text < stop then .error .outside
  else
    match splitAtByte? text start, splitAtByte? text stop with
    | some (before, _), some (upTo, _) =>
      if stop < start then .error .backwards else .ok (upTo.drop before.length)
    | _, _ => .error .inside

theorem splitAtByte?_eq_some_iff :
    splitAtByte? text place = some (before, after) ↔
      text = before ++ after ∧ place = byteLength before := by
  fun_induction splitAtByte? text place generalizing before with
  | case1 text =>
    constructor
    · rintro ⟨⟩
      exact ⟨rfl, rfl⟩
    · rintro ⟨rfl, hplace⟩
      cases before with
      | nil => rfl
      | cons => exact absurd hplace.symm (Nat.ne_of_gt (byteLength_pos (List.cons_ne_nil _ _)))
  | case2 place =>
    simp only [List.nil_eq, List.append_eq_nil_iff, reduceCtorEq, false_iff, not_and]
    rintro ⟨rfl, rfl⟩
    exact Nat.succ_ne_zero place
  | case3 c rest place hc ih =>
    simp only [Option.map_eq_some_iff, Prod.exists, Prod.mk.injEq]
    constructor
    · rintro ⟨before, after, hsplit, rfl, rfl⟩
      obtain ⟨rfl, hplace⟩ := ih.1 hsplit
      rw [byteLength]
      exact ⟨rfl, by omega⟩
    · rintro ⟨htext, hplace⟩
      cases before with
      | nil => cases hplace
      | cons d before =>
        cases htext
        rw [byteLength] at hplace
        exact ⟨before, after, ih.2 ⟨rfl, by omega⟩, rfl, rfl⟩
  | case4 c rest place hc =>
    simp only [reduceCtorEq, false_iff, not_and]
    intro htext hplace
    cases before with
    | nil => cases hplace
    | cons d before =>
      cases htext
      rw [byteLength] at hplace
      omega

theorem splitAtByte?_bytePlace (text : List Char) (i : Nat) :
    splitAtByte? text (bytePlace text i) = some (text.take i, text.drop i) :=
  splitAtByte?_eq_some_iff.2 ⟨(List.take_append_drop i text).symm, rfl⟩

/-- A place is at a character, or at the end, exactly if the text can be split there. -/
theorem isValid_iff_splitAtByte? : (⟨place⟩ : String.Pos.Raw).IsValid (String.ofList text) ↔
    ∃ before after, splitAtByte? text place = some (before, after) := by
  simp only [String.Pos.Raw.isValid_ofList, utf8ByteSize_ofList, splitAtByte?_eq_some_iff]
  constructor
  · rintro ⟨i, hplace⟩
    exact ⟨text.take i, text.drop i, (List.take_append_drop i text).symm, hplace⟩
  · rintro ⟨before, after, rfl, rfl⟩
    exact ⟨before.length, by rw [List.take_left]⟩

theorem le_byteLength_of_splitAtByte? (h : splitAtByte? text place = some (before, after)) :
    place ≤ byteLength text := by
  obtain ⟨rfl, rfl⟩ := splitAtByte?_eq_some_iff.1 h
  rw [byteLength_append]
  exact Nat.le_add_right _ _

section splits

variable {upTo after' : List Char} (hstart : splitAtByte? text start = some (before, after))
  (hstop : splitAtByte? text stop = some (upTo, after'))
include hstart hstop

theorem byteSlice_of_le (h : start ≤ stop) :
    byteSlice text start stop = .ok (upTo.drop before.length) := by
  have := le_byteLength_of_splitAtByte? hstart
  have := le_byteLength_of_splitAtByte? hstop
  rw [byteSlice, if_neg (by omega), hstart, hstop]
  exact if_neg (by omega)

theorem byteSlice_of_lt (h : stop < start) : byteSlice text start stop = .error .backwards := by
  have := le_byteLength_of_splitAtByte? hstart
  have := le_byteLength_of_splitAtByte? hstop
  rw [byteSlice, if_neg (by omega), hstart, hstop]
  exact if_pos h

end splits

/-- Both places are at characters or at the end, so neither is beyond it. -/
def AreValid (text : List Char) (start stop : Nat) : Prop :=
  (⟨start⟩ : String.Pos.Raw).IsValid (String.ofList text) ∧
    (⟨stop⟩ : String.Pos.Raw).IsValid (String.ofList text)

theorem byteSlice_cases (text : List Char) (start stop : Nat) :
    (AreValid text start stop ∧ start ≤ stop ∧ ∃ part, byteSlice text start stop = .ok part) ∨
    (AreValid text start stop ∧ stop < start ∧ byteSlice text start stop = .error .backwards) ∨
    ¬ AreValid text start stop ∧
      (byteSlice text start stop = .error .outside ∨
        byteSlice text start stop = .error .inside) := by
  rw [AreValid, isValid_iff_splitAtByte?, isValid_iff_splitAtByte?]
  by_cases hvalid : (∃ before after, splitAtByte? text start = some (before, after)) ∧
      ∃ upTo after, splitAtByte? text stop = some (upTo, after)
  · have ⟨⟨before, after, hstart⟩, upTo, after', hstop⟩ := hvalid
    rcases Nat.lt_or_ge stop start with hlt | hle
    · exact .inr (.inl ⟨hvalid, hlt, byteSlice_of_lt hstart hstop hlt⟩)
    · exact .inl ⟨hvalid, hle, _, byteSlice_of_le hstart hstop hle⟩
  · refine .inr (.inr ⟨hvalid, ?_⟩)
    rw [byteSlice]
    split
    · exact .inl rfl
    · split
      · next before after upTo after' hstart hstop =>
        exact absurd ⟨⟨before, after, hstart⟩, upTo, after', hstop⟩ hvalid
      · exact .inr rfl

/-- **There is a part between two places exactly if they are at characters and in order.** -/
theorem byteSlice_eq_ok_iff : (∃ part, byteSlice text start stop = .ok part) ↔
    AreValid text start stop ∧ start ≤ stop := by
  rcases byteSlice_cases text start stop with ⟨hvalid, hle, hpart⟩ | ⟨hvalid, hlt, hfault⟩ |
    ⟨hvalid, hfault | hfault⟩
  · exact iff_of_true hpart ⟨hvalid, hle⟩
  · exact iff_of_false (by simp [hfault]) fun h => Nat.not_lt.2 h.2 hlt
  · exact iff_of_false (by simp [hfault]) fun h => hvalid h.1
  · exact iff_of_false (by simp [hfault]) fun h => hvalid h.1

/-- **Places are called backwards only if nothing else is wrong with them.** -/
theorem byteSlice_eq_backwards_iff : byteSlice text start stop = .error .backwards ↔
    AreValid text start stop ∧ stop < start := by
  rcases byteSlice_cases text start stop with ⟨hvalid, hle, part, hpart⟩ | ⟨hvalid, hlt, hfault⟩ |
    ⟨hvalid, hfault | hfault⟩
  · exact iff_of_false (by simp [hpart]) fun h => Nat.not_lt.2 hle h.2
  · exact iff_of_true hfault ⟨hvalid, hlt⟩
  · exact iff_of_false (by simp [hfault]) fun h => hvalid h.1
  · exact iff_of_false (by simp [hfault]) fun h => hvalid h.1

/-- Between the byte places of two characters there is what is between the characters. -/
theorem byteSlice_bytePlace (hij : i ≤ j) (hj : j ≤ text.length) :
    byteSlice text (bytePlace text i) (bytePlace text j) = .ok ((text.drop i).take (j - i)) := by
  rw [byteSlice_of_le (splitAtByte?_bytePlace text i) (splitAtByte?_bytePlace text j)
    (bytePlace_mono hij), List.length_take, Nat.min_eq_left (Nat.le_trans hij hj), List.drop_take]

theorem byteSlice_bytePlace_backwards (hji : j < i) (hi : i ≤ text.length) :
    byteSlice text (bytePlace text i) (bytePlace text j) = .error .backwards :=
  byteSlice_of_lt (splitAtByte?_bytePlace text i) (splitAtByte?_bytePlace text j)
    (bytePlace_strictMono hji hi)

/-! ## Bytes -/

/-- The bytes of a text in UTF-8. -/
def utf8 (text : List Char) : List UInt8 := text.flatMap String.utf8EncodeChar

/-- The byte at a place. -/
def byteAt (text : List Char) (place : Nat) : Except PlaceFault UInt8 :=
  match (utf8 text)[place]? with
  | none => .error .outside
  | some b => .ok b

theorem length_utf8 (text : List Char) : (utf8 text).length = byteLength text := by
  induction text with
  | nil => rfl
  | cons c rest ih =>
    rw [utf8, List.flatMap_cons, List.length_append, String.length_utf8EncodeChar, byteLength, ← ih]
    rfl

/-- The last byte of a character is a backslash only if it is the only one. -/
theorem last_utf8EncodeChar_eq_iff (c : Char)
    (h : c.utf8Size - 1 < (String.utf8EncodeChar c).length) :
    (String.utf8EncodeChar c)[c.utf8Size - 1] = 0x5c ↔ c = '\\' := by
  constructor
  · intro hlast
    have hfirst : (String.utf8EncodeChar c)[c.utf8Size - 1].IsUTF8FirstByte := by
      rw [hlast]
      decide
    rw [UInt8.isUTF8FirstByte_getElem_utf8EncodeChar] at hfirst
    have hsize : c.utf8Size = 1 := by
      have := c.utf8Size_pos
      omega
    have hsmall := Char.utf8Size_eq_one_iff.1 hsize
    simp only [String.utf8EncodeChar_eq_singleton hsize, hsize, Nat.sub_self,
      List.getElem_cons_zero] at hlast
    rw [UInt32.le_iff_toNat_le] at hsmall
    have hnat := congrArg UInt8.toNat hlast
    rw [UInt32.toNat_toUInt8, Nat.mod_eq_of_lt (Nat.lt_of_le_of_lt hsmall (by decide))] at hnat
    exact Char.ext (UInt32.toNat_inj.1 hnat)
  · rintro rfl
    rfl

theorem exists_byteAt_before (before after : List Char) (c : Char) :
    ∃ b, byteAt (before ++ c :: after) (byteLength before + c.utf8Size - 1) = .ok b ∧
      (b = 0x5c ↔ c = '\\') := by
  have hlength : c.utf8Size - 1 < (String.utf8EncodeChar c).length := by
    have := c.utf8Size_pos
    rw [String.length_utf8EncodeChar]
    omega
  refine ⟨(String.utf8EncodeChar c)[c.utf8Size - 1], ?_, last_utf8EncodeChar_eq_iff c hlength⟩
  have hplace : byteLength before + c.utf8Size - 1 = (utf8 before).length + (c.utf8Size - 1) := by
    have := c.utf8Size_pos
    rw [length_utf8]
    omega
  have hbytes : utf8 (before ++ c :: after) =
      utf8 before ++ (String.utf8EncodeChar c ++ utf8 after) := by
    rw [utf8, List.flatMap_append, List.flatMap_cons]
    rfl
  rw [byteAt, hplace, hbytes, List.getElem?_append_right (Nat.le_add_right _ _),
    Nat.add_sub_cancel_left, List.getElem?_append_left hlength, List.getElem?_eq_getElem hlength]

end SqlTemplate.Text
