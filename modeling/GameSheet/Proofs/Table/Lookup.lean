import GameSheet.Proofs.Content.Sources
import GameSheet.Proofs.Table.ExpectedFields
import GameSheet.Proofs.Table.RoundTrip

/-!
Values by the names of their fields. A look-up takes the first field of a name, and a record keeps
its identifier apart from its values; in the records of a checked table no name comes twice, so every
value is found under its own name and the identifier is the value of `Id`.
-/

namespace GameSheet

theorem Record.get?_names {record : Record} (distinct : record.names.Nodup) {position : Nat}
    {name : String} (found : record.names[position]? = some name) :
    record.get? name = record.values[position]? := by
  obtain ⟨inside, rfl⟩ := List.getElem?_eq_some_iff.mp found
  have first : record.names.findIdx? (· = record.names[position]) = some position := by
    rw [List.findIdx?_eq_some_iff_getElem]
    refine ⟨inside, by simp, ?_⟩
    intro earlier before same
    rw [decide_eq_true_eq, distinct.getElem_inj_iff] at same
    omega
  rw [get?, first]

namespace RowLayout

open Wire

variable {layout : RowLayout} {record : Record}

theorem length_of_valuesReader {fields : List Field} {cursor last : Cursor} {values : List Value}
    (read : valuesReader fields cursor = .ok values last) : values.length = fields.length := by
  induction fields generalizing cursor values with
  | nil =>
    obtain ⟨rfl, _⟩ := EStateM.Result.ok.inj read
    rfl
  | cons field fields ih =>
    rw [valuesReader, List.mapM_cons] at read
    obtain ⟨value, middle, _, rest⟩ := Reader.bind_eq_ok.mp read
    obtain ⟨later, stop, tail, same⟩ := Reader.bind_eq_ok.mp rest
    obtain ⟨rfl, rfl⟩ := EStateM.Result.ok.inj same
    rw [List.length_cons, List.length_cons, ih tail]

structure Shapes (layout : RowLayout) (record : Record) : Prop where
  names : record.names = layout.names
  values : record.values.length = layout.fields.length
  identifier : record.values[layout.identifier]? = some (.integer .int record.id)

theorem shapes_of_holds {values : List Value} (holds : layout.Holds values record)
    (count : values.length = layout.fields.length) : layout.Shapes record := by
  obtain ⟨identifier, names, rfl⟩ := holds
  exact ⟨names, count, identifier⟩

theorem shapes_of_decode {format : BlobFormat} {blob : List UInt8} {records : List Record}
    (decoded : layout.decode format blob = .ok records) (member : record ∈ records) :
    layout.Shapes record := by
  obtain ⟨rows, _, read⟩ := decode_eq_ok.mp decoded
  obtain ⟨frame, _, made⟩ := Traversal.exists_of_mapM read member
  obtain ⟨⟨ordinal, row⟩, _, decodes⟩ := Traversal.bind_eq_ok.mp made
  obtain ⟨last, taken, _, holds⟩ := decodeRow_eq_ok.mp decodes
  exact shapes_of_holds holds (length_of_valuesReader taken)

end RowLayout

structure Record.Unambiguous (record : Record) : Prop where
  aligned : record.values.length = record.names.length
  distinct : record.names.Nodup
  proper : ∀ name ∈ record.names, Schema.ProperName name
  found : ∀ (position : Nat) (name : String), record.names[position]? = some name →
    ∃ value, record.values[position]? = some value ∧ record.get? name = some value
  single : record.names.count "Id" = 1
  identifier : record.get? "Id" = some (.integer .int record.id)

namespace Schema

variable {sheet : Sheet} {layout : SheetLayout} {registry : TypeRegistry} {schema : Schema}
  {record : Record}

theorem getElem?_names_identifier (built : build sheet layout registry = .ok schema)
    (shapes : schema.rowLayout.Shapes record) :
    record.names[schema.rowLayout.identifier]? = some "Id" := by
  obtain ⟨column, place, _, _, _, named⟩ := getElem?_identifier built
  rw [shapes.names, rowLayout_names built, List.getElem?_map, place, Option.map_some, named]
  rfl

theorem unambiguous_of_shapes (built : build sheet layout registry = .ok schema)
    (checked : schema.checkNames = .ok ()) (shapes : schema.rowLayout.Shapes record) :
    record.Unambiguous := by
  obtain ⟨proper, distinct⟩ := checkNames_eq_ok.mp checked
  have names : record.names = schema.encodedColumns.map Column.name := by
    rw [shapes.names, rowLayout_names built]
  have aligned : record.values.length = record.names.length := by
    rw [shapes.values, shapes.names, RowLayout.names, List.length_map]
  rw [← names] at distinct
  have located := getElem?_names_identifier built shapes
  refine ⟨aligned, distinct, ?_, ?_, ?_, ?_⟩
  · intro name member
    rw [names] at member
    obtain ⟨column, encoded, rfl⟩ := List.mem_map.mp member
    exact proper column encoded
  · intro position name found
    have inside : position < record.values.length := by
      rw [aligned]
      exact (List.getElem?_eq_some_iff.mp found).1
    refine ⟨record.values[position], List.getElem?_eq_getElem inside, ?_⟩
    rw [Record.get?_names distinct found, List.getElem?_eq_getElem inside]
  · exact List.count_eq_one_of_mem distinct (List.mem_of_getElem? located)
  · rw [Record.get?_names distinct located, shapes.identifier]

def keyedText : String := "Label\t\tKey\nstring\tnote\tint\na\tx\t7\n"

def keyedLayout : SheetLayout := ⟨0, 1, none, none, 2, 2⟩

end Schema

end GameSheet
