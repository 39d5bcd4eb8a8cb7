import Mathlib.Data.List.Basic
import SqlTemplate.Proofs.Number.Finite
import SqlTemplate.Value.Json

/-!
# Two ways to JSON

A value can be written as JSON directly, or be converted to a JSON value that is then written. Both
ways go through the parts of what they write and hand them to a format one by one (`Serializer`),
and they do not hand over the same: a byte is an integer of eight bits or of 64, a decimal is
something to be shown or a text, and an infinite number is a number or nothing.

**Theorem (`serialize_toJson`).** A format that is canonical, which is to say that it writes an
integer in the same way whatever its width, something to be shown as a text, and nothing in the
place of a number that is not finite, makes the same of both.

The formats for JSON values, documents and compact texts are canonical, so that the theorem speaks
of all three (`direct_eq_converted`).
-/

namespace SqlTemplate

/-! ## Formats -/

/-- What a format makes of the parts that a value is made of. -/
structure Serializer (α : Type) where
  unit : α
  bool : Bool → α
  /-- An integer of 64 bits with sign. -/
  int : Int64 → α
  /-- An integer of 64 bits without sign. -/
  word : UInt64 → α
  /-- An integer of eight bits without sign. -/
  byte : UInt8 → α
  float : Float → α
  text : String → α
  /-- The text of something that can be shown. -/
  shown : String → α
  items : List α → α
  entries : List (String × α) → α

/-- A format that tells no more apart than JSON does. -/
structure Serializer.Canonical {α : Type} (s : Serializer α) : Prop where
  /-- An integer that is not negative is written the same with and without sign. -/
  word : ∀ n : Int64, 0 ≤ n → s.word n.toUInt64 = s.int n
  /-- So is an integer of eight bits. -/
  byte : ∀ b, s.byte b = s.int (Int64.ofNat b.toNat)
  /-- What can be shown is written as a text. -/
  shown : ∀ t, s.shown t = s.text t
  /-- A number that is not finite is written as nothing. -/
  float : ∀ x, x.isFinite = false → s.float x = s.unit

variable {α : Type}

namespace Value

mutual

/-- Hands the parts of a value to a format. -/
def serialize (s : Serializer α) : Value → α
  | null => s.unit
  | bool b => s.bool b
  | int n => s.int n
  | float x => s.float x
  | decimal d => s.shown d.toText
  | text t => s.text t
  | bytes bs => s.items (bs.map s.byte)
  | list items => s.items (serializeItems s items)
  | array items => s.items (serializeItems s items)
  | map entries => s.entries (serializeEntries s entries)

/-- Hands the items of a sequence to a format. -/
def serializeItems (s : Serializer α) : List Value → List α
  | [] => []
  | item :: rest => serialize s item :: serializeItems s rest

/-- Hands the entries of a map to a format. -/
def serializeEntries (s : Serializer α) : List (String × Value) → List (String × α)
  | [] => []
  | (key, value) :: rest => (key, serialize s value) :: serializeEntries s rest

end

mutual

/-- The entries of every map in a value stand in the order of their keys. -/
def Ordered : Value → Prop
  | list items => OrderedItems items
  | array items => OrderedItems items
  | map entries => Keyed.Ascending entries ∧ OrderedEntries entries
  | _ => True

/-- The items of a sequence are in order. -/
def OrderedItems : List Value → Prop
  | [] => True
  | item :: rest => Ordered item ∧ OrderedItems rest

/-- The values of the entries of a map are in order. -/
def OrderedEntries : List (String × Value) → Prop
  | [] => True
  | (_, value) :: rest => Ordered value ∧ OrderedEntries rest

end

end Value

namespace Json

/-- Hands a number to a format; an integer goes without sign if it is not negative. -/
def Number.serialize (s : Serializer α) : Number → α
  | .int n => if 0 ≤ n then s.word n.toUInt64 else s.int n
  | .large n _ => s.word (UInt64.ofNat n)
  | .float x => s.float x

mutual

/-- Hands the parts of a JSON value to a format. -/
def serialize (s : Serializer α) : Json → α
  | .null => s.unit
  | .bool b => s.bool b
  | .number n => n.serialize s
  | .text t => s.text t
  | .array items => s.items (serializeItems s items)
  | .object members => s.entries (serializeMembers s members)

/-- Hands the items of an array to a format. -/
def serializeItems (s : Serializer α) : List Json → List α
  | [] => []
  | item :: rest => serialize s item :: serializeItems s rest

/-- Hands the members of an object to a format. -/
def serializeMembers (s : Serializer α) : List (String × Json) → List (String × α)
  | [] => []
  | (key, value) :: rest => (key, serialize s value) :: serializeMembers s rest

end

end Json

/-! ## Canonical formats make the same of both -/

section canonical

variable {s : Serializer α}

namespace Serializer.Canonical

theorem number_int (hs : s.Canonical) (n : Int64) : (Json.Number.int n).serialize s = s.int n := by
  rw [Json.Number.serialize]
  split
  · next h => exact hs.word n h
  · rfl

theorem floatJson (hs : s.Canonical) (x : Float) :
    (Value.floatJson x).serialize s = s.float x := by
  rw [Value.floatJson]
  split
  · rfl
  · next h => exact (hs.float x (Bool.eq_false_iff.2 h)).symm

theorem bytesJson (hs : s.Canonical) (bs : List UInt8) :
    Json.serializeItems s (bs.map Value.byteJson) = bs.map s.byte := by
  induction bs with
  | nil => rfl
  | cons b rest ih =>
    have hbyte : (Value.byteJson b).serialize s = s.byte b :=
      (hs.number_int _).trans (hs.byte b).symm
    rw [List.map_cons, Json.serializeItems, hbyte, ih, List.map_cons]

end Serializer.Canonical

namespace Value

mutual

/-- **A canonical format makes the same of a value and of the JSON value that it becomes.** -/
theorem serialize_toJson (hs : s.Canonical) : (v : Value) → v.serialize s = v.toJson.serialize s
  | null => rfl
  | bool _ => rfl
  | int n => (hs.number_int n).symm
  | float x => (hs.floatJson x).symm
  | decimal d => hs.shown d.toText
  | text _ => rfl
  | bytes bs => congrArg s.items (hs.bytesJson bs).symm
  | list items => congrArg s.items (serializeItems_toJson hs items)
  | array items => congrArg s.items (serializeItems_toJson hs items)
  | map entries => congrArg s.entries (serializeEntries_toJson hs entries)

theorem serializeItems_toJson (hs : s.Canonical) : (items : List Value) →
    serializeItems s items = Json.serializeItems s (toJsonItems items)
  | [] => rfl
  | item :: rest => by
    rw [serializeItems, toJsonItems, Json.serializeItems, serialize_toJson hs item,
      serializeItems_toJson hs rest]

theorem serializeEntries_toJson (hs : s.Canonical) : (entries : List (String × Value)) →
    serializeEntries s entries = Json.serializeMembers s (toJsonMembers entries)
  | [] => rfl
  | (key, value) :: rest => by
    rw [serializeEntries, toJsonMembers, Json.serializeMembers, serialize_toJson hs value,
      serializeEntries_toJson hs rest]

end

end Value

end canonical

/-! ## Integers of other widths -/

theorem natCast_toNat_toUInt64 {n : Int64} (h : 0 ≤ n) : (n.toUInt64.toNat : Int) = n.toInt := by
  have hn : 0 ≤ n.toInt := Int64.le_iff_toInt_le.1 h
  rw [Int64.toNat_toUInt64_of_le h, Int64.toNatClampNeg, Int.toNat_of_nonneg hn]

theorem toNat_toUInt64_lt {n : Int64} (h : 0 ≤ n) : n.toUInt64.toNat < 0x8000000000000000 := by
  have heq := natCast_toNat_toUInt64 h
  have hlt := Int64.toInt_lt n
  omega

theorem toInt_ofNat_byte (b : UInt8) : (Int64.ofNat b.toNat).toInt = b.toNat :=
  Int64.toInt_ofNat_of_lt (Nat.lt_trans b.toNat_lt (by decide))

/-- **The numeral of an integer is its decimal digits**, after its sign. -/
theorem Json.Numeral.toText_ofInt (n : Int) : (ofInt n).toText = toString n := by
  cases n with
  | ofNat n =>
    change _ = n.repr
    rw [← String.toList_inj, Nat.toList_repr]
    simp [toText, ofInt]
  | negSucc n =>
    change _ = "-" ++ (n + 1).repr
    rw [← String.toList_inj, String.toList_append, Nat.toList_repr]
    simp [toText, ofInt]

/-! ## The format of JSON values -/

namespace Serializer

/-- JSON values as a format: an object is a table that its members are put into one by one. -/
def json : Serializer Json where
  unit := .null
  bool := .bool
  int n := .number (.int n)
  word n :=
    if large : 0x8000000000000000 ≤ n.toNat then
      .number (.large n.toNat ⟨large, Nat.le_of_lt_succ n.toNat_lt⟩)
    else .number (.int n.toInt64)
  byte := Value.byteJson
  float := Value.floatJson
  text := .text
  shown := .text
  items := .array
  entries entries := .object (Keyed.ofList entries)

theorem canonical_json : json.Canonical where
  word _ hn := dif_neg (Nat.not_le_of_lt (toNat_toUInt64_lt hn))
  byte _ := rfl
  shown _ := rfl
  float _ hx := if_neg (Bool.eq_false_iff.1 hx)

end Serializer

namespace Value

theorem keys_toJsonMembers (entries : List (String × Value)) :
    Keyed.keys (toJsonMembers entries) = Keyed.keys entries := by
  induction entries with
  | nil => rfl
  | cons entry rest ih => exact congrArg (entry.1 :: ·) ih

mutual

/-- **As a JSON value**, a value is what it is converted to. -/
theorem serialize_json : (v : Value) → v.Ordered → v.serialize .json = v.toJson
  | null, _ => rfl
  | bool _, _ => rfl
  | int _, _ => rfl
  | float _, _ => rfl
  | decimal _, _ => rfl
  | text _, _ => rfl
  | bytes _, _ => rfl
  | list items, h => congrArg Json.array (serializeItems_json items h)
  | array items, h => congrArg Json.array (serializeItems_json items h)
  | map entries, ⟨hkeys, hentries⟩ => by
    have htable : Keyed.Ascending (toJsonMembers entries) := by
      rwa [Keyed.ascending_iff, keys_toJsonMembers, ← Keyed.ascending_iff]
    rw [serialize, toJson, serializeEntries_json entries hentries]
    exact congrArg Json.object (Keyed.ofList_of_ascending htable)

theorem serializeItems_json : (items : List Value) → OrderedItems items →
    serializeItems .json items = toJsonItems items
  | [], _ => rfl
  | item :: rest, ⟨hitem, hrest⟩ => by
    rw [serializeItems, toJsonItems, serialize_json item hitem, serializeItems_json rest hrest]

theorem serializeEntries_json : (entries : List (String × Value)) → OrderedEntries entries →
    serializeEntries .json entries = toJsonMembers entries
  | [], _ => rfl
  | (key, value) :: rest, ⟨hvalue, hrest⟩ => by
    rw [serializeEntries, toJsonMembers, serialize_json value hvalue,
      serializeEntries_json rest hrest]

end

end Value

/-! ## The format of documents -/

namespace Serializer

/-- Documents as a format. -/
def document : Serializer Json.Document where
  unit := .null
  bool := .bool
  int n := .number (.ofInt n.toInt)
  word n := .number (.ofInt n.toNat)
  byte b := .number (.ofInt b.toNat)
  float x := (Json.Numeral.ofFloat? x).elim .null .number
  text t := .text (some t)
  shown t := .text (some t)
  items := .array
  entries entries := .object (entries.map fun (key, value) => (some key, value))

theorem ofFloat?_eq_none {x : Float} (hx : x.isFinite = false) :
    Json.Numeral.ofFloat? x = none := by
  rw [← Option.not_isSome_iff_eq_none, Json.Numeral.isSome_ofFloat?, hx]
  exact Bool.false_ne_true

theorem canonical_document : document.Canonical where
  word _ hn := congrArg (Json.Document.number ∘ .ofInt) (natCast_toNat_toUInt64 hn)
  byte b := congrArg (Json.Document.number ∘ .ofInt) (toInt_ofNat_byte b).symm
  shown _ := rfl
  float _ hx := congrArg (Option.elim · Json.Document.null .number) (ofFloat?_eq_none hx)

end Serializer

namespace Json

theorem Number.serialize_document (n : Number) : n.serialize .document = n.toDocument := by
  cases n with
  | int n => exact Serializer.canonical_document.number_int n
  | large n fits =>
    have hword : (UInt64.ofNat n).toNat = n := UInt64.toNat_ofNat_of_lt (Nat.lt_succ_of_le fits.2)
    exact congrArg (fun n : Nat => Document.number (.ofInt n)) hword
  | float x =>
    change (Numeral.ofFloat? x).elim .null .number = Number.toDocument (.float x)
    rw [Number.toDocument]
    cases Numeral.ofFloat? x <;> rfl

mutual

/-- **As a document**, a JSON value is what is written for it. -/
theorem serialize_document : (j : Json) → j.serialize .document = j.toDocument
  | .null => rfl
  | .bool _ => rfl
  | .number n => n.serialize_document
  | .text _ => rfl
  | .array items => congrArg Document.array (serializeItems_document items)
  | .object members => congrArg Document.object (serializeMembers_document members)

theorem serializeItems_document : (items : List Json) →
    serializeItems .document items = toDocuments items
  | [] => rfl
  | item :: rest => by
    rw [serializeItems, toDocuments, serialize_document item, serializeItems_document rest]

theorem serializeMembers_document : (members : List (String × Json)) →
    (serializeMembers .document members).map (fun (key, value) => (some key, value)) =
      toMembers members
  | [] => rfl
  | (key, value) :: rest => by
    rw [serializeMembers, List.map_cons, toMembers, serialize_document value,
      serializeMembers_document rest]

end

end Json

/-! ## The format of compact texts -/

namespace Serializer

/-- Texts without gaps as a format. -/
def compact : Serializer String where
  unit := "null"
  bool b := if b then "true" else "false"
  int n := toString n.toInt
  word n := toString n.toNat
  byte b := toString b.toNat
  float := Json.floatText
  text := Json.quoted
  shown := Json.quoted
  items items := "[" ++ ",".intercalate items ++ "]"
  entries entries :=
    "\x7b" ++ ",".intercalate (entries.map fun (key, value) => Json.quoted key ++ ":" ++ value) ++
      "\x7d"

theorem canonical_compact : compact.Canonical where
  word _ hn := congrArg (fun n : Int => toString n) (natCast_toNat_toUInt64 hn)
  byte b := congrArg (fun n : Int => toString n) (toInt_ofNat_byte b).symm
  shown _ := rfl
  float x hx := by
    change Json.floatText x = "null"
    rw [Json.floatText, ofFloat?_eq_none hx]

end Serializer

namespace Json

theorem Number.serialize_compact (n : Number) : n.serialize .compact = n.toDocument.compact := by
  cases n with
  | int n =>
    exact (Serializer.canonical_compact.number_int n).trans (Numeral.toText_ofInt n.toInt).symm
  | large n fits =>
    have hword : (UInt64.ofNat n).toNat = n := UInt64.toNat_ofNat_of_lt (Nat.lt_succ_of_le fits.2)
    exact (congrArg (fun n : Nat => toString n) hword).trans (Numeral.toText_ofInt n).symm
  | float x =>
    change floatText x = (Number.toDocument (.float x)).compact
    rw [floatText, Number.toDocument]
    cases Numeral.ofFloat? x <;> rfl

mutual

/-- **As a compact text**, a JSON value is its document without gaps. -/
theorem serialize_compact : (j : Json) → j.serialize .compact = j.toDocument.compact
  | .null => rfl
  | .bool true => rfl
  | .bool false => rfl
  | .number n => n.serialize_compact
  | .text _ => rfl
  | .array items =>
    congrArg (fun parts => "[" ++ ",".intercalate parts ++ "]") (serializeItems_compact items)
  | .object members =>
    congrArg (fun parts => "\x7b" ++ ",".intercalate parts ++ "\x7d")
      (serializeMembers_compact members)

theorem serializeItems_compact : (items : List Json) →
    serializeItems .compact items = Document.compactItems (toDocuments items)
  | [] => rfl
  | item :: rest => by
    rw [serializeItems, toDocuments, Document.compactItems, serialize_compact item,
      serializeItems_compact rest]

theorem serializeMembers_compact : (members : List (String × Json)) →
    (serializeMembers .compact members).map (fun (key, value) => quoted key ++ ":" ++ value) =
      Document.compactMembers (toMembers members)
  | [] => rfl
  | (key, value) :: rest => by
    rw [serializeMembers, List.map_cons, toMembers, Document.compactMembers,
      serialize_compact value, serializeMembers_compact rest]
    rfl

end

end Json

namespace Value

mutual

/-- **As a compact text**, a value is what is written for it directly. -/
theorem serialize_compact : (v : Value) → v.serialize .compact = v.toCompactJson
  | null => rfl
  | bool _ => rfl
  | int _ => rfl
  | float _ => rfl
  | decimal _ => rfl
  | text _ => rfl
  | bytes _ => rfl
  | list items =>
    congrArg (fun parts => "[" ++ ",".intercalate parts ++ "]") (serializeItems_compact items)
  | array items =>
    congrArg (fun parts => "[" ++ ",".intercalate parts ++ "]") (serializeItems_compact items)
  | map entries =>
    congrArg (fun parts => "\x7b" ++ ",".intercalate parts ++ "\x7d")
      (serializeEntries_compact entries)

theorem serializeItems_compact : (items : List Value) →
    serializeItems .compact items = compactJsonItems items
  | [] => rfl
  | item :: rest => by
    rw [serializeItems, compactJsonItems, serialize_compact item, serializeItems_compact rest]

theorem serializeEntries_compact : (entries : List (String × Value)) →
    (serializeEntries .compact entries).map
        (fun (key, value) => Json.quoted key ++ ":" ++ value) =
      compactJsonEntries entries
  | [] => rfl
  | (key, value) :: rest => by
    rw [serializeEntries, List.map_cons, compactJsonEntries, serialize_compact value,
      serializeEntries_compact rest]

end

/-! ## The theorem -/

/-- **Writing a value directly and writing the JSON value that it is converted to give the same**:
in every canonical format, so as a document and as a compact text, and as a JSON value, where both
give the converted value if all maps are in order. -/
theorem direct_eq_converted (v : Value) :
    (∀ (α : Type) (s : Serializer α), s.Canonical → v.serialize s = v.toJson.serialize s) ∧
      (v.Ordered → v.serialize .json = v.toJson ∧ v.toJson.serialize .json = v.toJson) ∧
      v.serialize .document = v.toJson.toDocument ∧
      v.serialize .compact = v.toCompactJson ∧ v.toCompactJson = v.toJson.compact := by
  have hdocument : v.serialize .document = v.toJson.toDocument :=
    (serialize_toJson Serializer.canonical_document v).trans v.toJson.serialize_document
  have hcompact : v.serialize .compact = v.toJson.compact :=
    (serialize_toJson Serializer.canonical_compact v).trans v.toJson.serialize_compact
  refine ⟨fun _ _ hs => serialize_toJson hs v, fun h => ⟨serialize_json v h, ?_⟩, hdocument,
    serialize_compact v, v.serialize_compact.symm.trans hcompact⟩
  rw [← serialize_toJson Serializer.canonical_json, serialize_json v h]

/-- A map of bytes, of an array with a number that is not finite, and of a list of a decimal and a
negative integer. -/
theorem direct_eq_converted_of_map :
    let v := map [("bytes", bytes [0x48, 0xff]), ("rates", array [float (1.0 / 0.0), bool true]),
      ("sums", list [decimal ⟨150, 2⟩, int (-7), map []])]
    let written :=
      "\x7b\"bytes\":[72,255],\"rates\":[null,true],\"sums\":[\"1.50\",-7,\x7b\x7d]\x7d"
    v.Ordered ∧ v.serialize .json = v.toJson ∧ v.toCompactJson = written ∧
      v.toJson.compact = written := by
  intro v written
  have hkeys : (["bytes", "rates", "sums"] : List String).Pairwise (· < ·) := by decide
  have hordered : v.Ordered :=
    ⟨(Keyed.ascending_iff _).2 hkeys, trivial, ⟨trivial, trivial, trivial⟩,
      ⟨trivial, trivial, ⟨.nil, trivial⟩, trivial⟩, trivial⟩
  have hwritten : v.toCompactJson = written := by decide
  obtain ⟨-, hjson, -, -, htext⟩ := direct_eq_converted v
  exact ⟨hordered, (hjson hordered).1, hwritten, htext ▸ hwritten⟩

end Value

end SqlTemplate
