import MazeGrader.Coverage.TableJson
import MazeGrader.Failure
import MazeGrader.Proofs.Coverage.Thresholds

/-! What is read of JSON values. Values whose numbers are finite are read as finite doubles, and
those are written so that they are read again as themselves. -/
namespace MazeGrader

namespace Json

/-- Every number in a value is a finite double. -/
inductive Finite : Json → Prop
  | null : Finite .null
  | bool : Finite (.bool value)
  | string : Finite (.string text)
  | number {n : Number} : n.toFloat.isFinite = true → Finite (.number n)
  | array {items : List Json} : (∀ item ∈ items, Finite item) → Finite (.array items)
  | object {members : List (String × Json)} :
    (∀ member ∈ members, Finite member.2) → Finite (.object members)

theorem unexpected_ne_ok {draft : Draft} {expected : String} {value : α} :
    draft.unexpected expected ≠ .ok value := by
  intro read
  obtain ⟨kind, -, thrown⟩ := bind_eq_ok.1 read
  cases thrown

theorem decodeFloat_ofFloat {x : Float} (finite : x.isFinite = true) :
    decodeFloat (.ofJson (.ofFloat x)) = .ok x := by
  rw [ofFloat, if_pos finite]
  rfl

theorem Finite.decodeFloat {json : Json} (finite : json.Finite) {x : Float}
    (read : Json.decodeFloat (.ofJson json) = .ok x) : x.isFinite = true := by
  cases finite with
  | number finite =>
    cases read
    exact finite
  | null | bool | string | array | object => exact absurd read unexpected_ne_ok

/-! ### Objects as maps -/

section Maps

variable {read : Draft → Except Fault α}

/-- Members are read again where every value of them is. -/
theorem decodeMembers_map {write : α → Json} {entries : List (String × α)}
    (back : ∀ entry ∈ entries, read (.ofJson (write entry.2)) = .ok entry.2) :
    decodeMembers read (draftMembers (entries.map fun entry => (entry.1, write entry.2))) =
      .ok entries := by
  induction entries with
  | nil => rfl
  | cons entry rest ih =>
    have first := back entry List.mem_cons_self
    have others := ih fun entry member => back entry (List.mem_cons_of_mem _ member)
    simp only [List.map_cons, draftMembers, decodeMembers, Quoted.ofString, ok_bind, first, others]
    rfl

theorem exists_member_of_decodeMembers {members : List (String × Json)}
    {entries : List (String × α)}
    (decoded : decodeMembers read (draftMembers members) = .ok entries)
    {entry : String × α} (inside : entry ∈ entries) :
    ∃ member ∈ members, read (.ofJson member.2) = .ok entry.2 := by
  induction members generalizing entries with
  | nil =>
    cases decoded
    cases inside
  | cons member rest ih =>
    obtain ⟨key, -, decoded⟩ := bind_eq_ok.1 decoded
    obtain ⟨value, first, decoded⟩ := bind_eq_ok.1 decoded
    obtain ⟨others, later, same⟩ := bind_eq_ok.1 decoded
    cases same
    rcases List.mem_cons.1 inside with rfl | inside
    · exact ⟨member, List.mem_cons_self, first⟩
    · obtain ⟨other, listed, found⟩ := ih later inside
      exact ⟨other, List.mem_cons_of_mem _ listed, found⟩

/-- A map is read from the object of its entries. -/
theorem decodeMap_object {write : α → Json} {entries : List (String × α)}
    (ascends : Entries.Ascending entries)
    (back : ∀ entry ∈ entries, read (.ofJson (write entry.2)) = .ok entry.2) :
    decodeMap read (.ofJson (.object (entries.map fun entry => (entry.1, write entry.2)))) =
      .ok entries := by
  rw [Draft.ofJson, decodeMap, decodeMembers_map back]
  simp only [ok_bind, passOver, Entries.ofPairs_of_ascending ascends]
  rfl

/-- Every value of a map is read from a part of a finite value that is finite. -/
theorem Finite.decodeMap {json : Json} (finite : json.Finite) {entries : List (String × α)}
    (decoded : Json.decodeMap read (.ofJson json) = .ok entries) {entry : String × α}
    (inside : entry ∈ entries) :
    ∃ part : Json, part.Finite ∧ read (.ofJson part) = .ok entry.2 := by
  cases finite with
  | object finite =>
    obtain ⟨values, members, decoded⟩ := bind_eq_ok.1 decoded
    cases decoded
    obtain ⟨member, listed, found⟩ :=
      exists_member_of_decodeMembers members (Entries.mem_of_mem_ofPairs inside)
    exact ⟨member.2, finite member listed, found⟩
  | null | bool | string | number | array => exact absurd decoded unexpected_ne_ok

end Maps

/-! ### Objects as records -/

/-- A field that was not read before changes the record. -/
theorem readFields_field {fields : List (Field σ)} {field : Field σ} {name : String}
    {seen : List String} {draft : Draft} {rest : List (Quoted × Draft)} {partly next : σ}
    (found : (fields.find? fun field => field.name == name) = some field)
    (new : seen.contains name = false) (set : field.set draft partly = .ok next) :
    readFields fields seen ((.ofString name, draft) :: rest) partly =
      readFields fields (name :: seen) rest next := by
  simp only [readFields, Quoted.ofString, ok_bind, found, new, set]
  rfl

/-- What belongs to no field is passed over. -/
theorem readFields_other {fields : List (Field σ)} {name : String} {seen : List String}
    {draft : Draft} {rest : List (Quoted × Draft)} {partly : σ}
    (unknown : (fields.find? fun field => field.name == name) = none)
    (skips : draft.skip = .ok ()) :
    readFields fields seen ((.ofString name, draft) :: rest) partly =
      readFields fields seen rest partly := by
  simp only [readFields, Quoted.ofString, ok_bind, unknown, skips]

/-- What every field keeps to is kept to by the record that is read. -/
theorem readFields_invariant {fields : List (Field σ)} {members : List (String × Json)}
    {kept : σ → Prop}
    (keeps : ∀ field ∈ fields, ∀ member ∈ members, ∀ partly next, kept partly →
      field.set (.ofJson member.2) partly = .ok next → kept next)
    {seen all : List String} {partly whole : σ} (start : kept partly)
    (read : readFields fields seen (draftMembers members) partly = .ok (all, whole)) :
    kept whole := by
  induction members generalizing seen partly with
  | nil =>
    cases read
    exact start
  | cons member rest ih =>
    have others : ∀ {seen partly}, kept partly →
        readFields fields seen (draftMembers rest) partly = .ok (all, whole) → kept whole :=
      ih fun field listed later inside =>
        keeps field listed later (List.mem_cons_of_mem _ inside)
    obtain ⟨name, -, read⟩ := bind_eq_ok.1 read
    split at read
    · obtain ⟨-, -, read⟩ := bind_eq_ok.1 read
      exact others start read
    · next field found =>
      have listed := List.mem_of_find?_eq_some found
      simp only at read
      split at read
      · cases read
      · obtain ⟨next, set, read⟩ := bind_eq_ok.1 read
        exact others (keeps field listed member List.mem_cons_self partly next start set) read

theorem Record.decode_object_invariant {record : Record σ} {members : List (String × Json)}
    {kept : σ → Prop}
    (keeps : ∀ field ∈ record.fields, ∀ member ∈ members, ∀ partly next, kept partly →
      field.set (.ofJson member.2) partly = .ok next → kept next)
    (start : kept record.blank) {value : σ}
    (read : record.decode (.ofJson (.object members)) = .ok value) : kept value := by
  obtain ⟨⟨seen, whole⟩, fields, read⟩ := bind_eq_ok.1 read
  obtain ⟨-, -, read⟩ := bind_eq_ok.1 read
  obtain ⟨-, -, same⟩ := bind_eq_ok.1 read
  cases same
  exact readFields_invariant keeps start fields

end Json

/-! ### Coverage tables -/

namespace CoverageTable

/-- Every deduction of a table is a finite double. -/
def Finite (table : CoverageTable) : Prop :=
  ∀ entry ∈ table.entries, entry.2.isFinite = true

theorem finite_of_decode {json : Json} (finite : json.Finite) {table : CoverageTable}
    (read : decode (.ofJson json) = .ok table) : table.Finite := by
  intro entry inside
  obtain ⟨texts, members, read⟩ := bind_eq_ok.1 read
  cases made : ofTexts texts with
  | error fault =>
    rw [made] at read
    cases read
  | ok other =>
    rw [made] at read
    cases read
    obtain ⟨text, listed, same⟩ := exists_text_of_ofTexts made inside
    obtain ⟨part, partFinite, found⟩ := finite.decodeMap members listed
    exact same ▸ partFinite.decodeFloat found

/-- A table of finite deductions is read from what is written of it. -/
theorem decode_toJson {table : CoverageTable} (finite : table.Finite) :
    decode (.ofJson table.toJson) = .ok table := by
  have texts : ∀ text ∈ table.toTexts,
      Json.decodeFloat (.ofJson (.ofFloat text.2)) = .ok text.2 := by
    intro text listed
    obtain ⟨entry, inside, rfl⟩ := List.mem_map.1 (Entries.mem_of_mem_ofPairs listed)
    exact Json.decodeFloat_ofFloat (finite entry inside)
  rw [decode, toJson, Json.decodeMap_object table.toTexts_ascending texts, ok_bind,
    ofTexts_toTexts]
  rfl

end CoverageTable

end MazeGrader
