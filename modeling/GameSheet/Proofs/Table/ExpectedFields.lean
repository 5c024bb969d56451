import GameSheet.Proofs.Schema.Names
import GameSheet.Proofs.Schema.Separators
import GameSheet.Proofs.Table.Rows

/-!
Which sources text mode accepts. It compares fingerprints, so it lets through a source whose fields
have the digested bytes of the expected ones. Those are the expected fields exactly when no name of
the source holds a unit separator. A compiled table's names are checked, and hold none; text mode
takes them as they are.
-/

namespace GameSheet

namespace Schema

variable {sheet : Sheet} {layout : SheetLayout} {registry : TypeRegistry} {schema : Schema}
  {expected : RowLayout} {records : List Record}

theorem signature_eq (built : build sheet layout registry = .ok schema) :
    schema.rowLayout.signature =
      schema.encodedColumns.map (fun column => (column.name, column.codec.keyword)) := by
  rw [RowLayout.signature, fields_eq built, List.map_map]
  rfl

/-- A source is accepted by its fingerprint. Its records have the names that were expected, and a
value for each field of the source. -/
theorem records_spec (accepted : schema.records sheet expected = .ok records) :
    schema.fingerprint = expected.fingerprint ∧ ∀ record ∈ records,
      record.names = expected.names ∧
        record.values.length = schema.rowLayout.signature.length := by
  unfold Schema.records at accepted
  split at accepted
  next same =>
    refine ⟨same, ?_⟩
    intro record member
    obtain ⟨⟨row, cells⟩, _, made⟩ := Traversal.exists_of_mapM accepted member
    obtain ⟨values, parsed, held⟩ := Traversal.bind_eq_ok.mp made
    obtain ⟨_, names, taken⟩ := RowLayout.record_eq_ok.mp held
    rw [taken, ← (Traversal.mapM_eq_ok.mp parsed).length_eq, RowLayout.signature, List.length_map]
    exact ⟨names, rfl⟩
  next => simp at accepted

/-- What text mode accepts, where the two digests do not collide and the separators are told apart
among the expected fields and the keywords: the source has the expected fields exactly when no name
in it holds a unit separator. Then a record has as many values as names. Names that pass the check
for generated code hold none. -/
theorem records_fields (built : build sheet layout registry = .ok schema)
    (accepted : schema.records sheet expected = .ok records)
    (apart : schema.fingerprint = expected.fingerprint →
      Fingerprint.preimage schema.rowLayout.signature = Fingerprint.preimage expected.signature)
    (plain : Fingerprint.Separable expected.signature)
    (keywords : ∀ field ∈ schema.rowLayout.signature, '\x1e' ∉ field.2.toList) :
    (schema.rowLayout.signature = expected.signature ↔
      ∀ field ∈ schema.rowLayout.signature, '\x1f' ∉ field.1.toList) ∧
    (schema.rowLayout.signature = expected.signature →
      ∀ record ∈ records, record.values.length = record.names.length) ∧
    (schema.checkNames = .ok () → schema.rowLayout.signature = expected.signature) := by
  obtain ⟨fingerprint, lengths⟩ := records_spec accepted
  have digested := apart fingerprint
  have determined : schema.rowLayout.signature = expected.signature ↔
      ∀ field ∈ schema.rowLayout.signature, '\x1f' ∉ field.1.toList := by
    constructor
    · intro same field member
      rw [same] at member
      exact (plain field member).1
    · intro bare
      apply (Fingerprint.preimage_inj ?_ plain).mp digested
      intro field member
      exact ⟨bare field member, keywords field member⟩
  refine ⟨determined, ?_, ?_⟩
  · intro same record member
    obtain ⟨names, values⟩ := lengths record member
    rw [names, values, same, RowLayout.signature, RowLayout.names, List.length_map, List.length_map]
  · intro checked
    apply determined.mpr
    intro field member
    rw [signature_eq built] at member
    obtain ⟨column, present, rfl⟩ := List.mem_map.mp member
    exact not_mem_of_isProperName (proper_of_checkNamesFrom checked column present)

def titledLayout : SheetLayout := ⟨0, 1, none, none, 2, 0⟩

def compared (sheet : Sheet) (declared : List (String × String)) :
    Option (List (String × String) × List (String × String) × List (Nat × Nat)) :=
  (build sheet titledLayout .standard).toOption.bind (fun schema =>
    (RowLayout.declare .standard declared).toOption.bind (fun expected =>
      (schema.records sheet expected).toOption.map (fun records =>
        (schema.rowLayout.signature, expected.signature,
          records.map (fun record => (record.names.length, record.values.length))))))

theorem exists_of_compared {declared fields others : List (String × String)}
    {lengths : List (Nat × Nat)} (run : compared sheet declared = some (fields, others, lengths)) :
    ∃ schema expected records, build sheet titledLayout .standard = .ok schema ∧
      RowLayout.declare .standard declared = .ok expected ∧
      schema.records sheet expected = .ok records ∧ schema.rowLayout.signature = fields ∧
      expected.signature = others ∧
      records.map (fun record => (record.names.length, record.values.length)) = lengths := by
  unfold compared at run
  cases built : build sheet titledLayout .standard with
  | error fault => simp [built] at run
  | ok schema =>
    cases made : RowLayout.declare .standard declared with
    | error fault => simp [built, made] at run
    | ok expected =>
      cases accepted : schema.records sheet expected with
      | error fault => simp [built, made, accepted] at run
      | ok records =>
        simp only [built, made, accepted, Traversal.toOption_ok, Option.bind_some, Option.map_some,
          Option.some.injEq, Prod.mk.injEq] at run
        exact ⟨schema, expected, records, rfl, rfl, accepted, run⟩

def titledSheet : Sheet where
  rows := [["Id", "A", "B"], ["id", "int", "int"], ["1", "2", "3"]]
  columnCount := 3
  rectangular := by simp

theorem records_fields_titled : ∃ schema expected records,
    build titledSheet titledLayout .standard = .ok schema ∧
    schema.records titledSheet expected = .ok records ∧ records.length = 1 ∧
    schema.rowLayout.signature = expected.signature ∧
    ∀ record ∈ records, record.values.length = record.names.length := by
  have run : compared titledSheet [("Id", "id"), ("A", "int"), ("B", "int")] =
      some ([("Id", "id"), ("A", "int"), ("B", "int")], [("Id", "id"), ("A", "int"), ("B", "int")],
        [(3, 3)]) := by decide +kernel
  obtain ⟨schema, expected, records, built, _, accepted, fields, others, lengths⟩ :=
    exists_of_compared run
  have count := congrArg List.length lengths
  rw [List.length_map] at count
  obtain ⟨determined, counted, _⟩ := records_fields built accepted
    (by intro _; rw [fields, others]) (by rw [others]; unfold Fingerprint.Separable; decide)
    (by rw [fields]; decide)
  have same := determined.mpr (by rw [fields]; decide)
  exact ⟨schema, expected, records, built, accepted, count, same, counted same⟩

def shiftedSheet : Sheet where
  rows := [["Id", "X\x1fint\x1eA", "B"], ["id", "int", "int"], ["1", "2", "3"]]
  columnCount := 3
  rectangular := by simp

def mergedSheet : Sheet where
  rows := [["Id", "A\x1fint\x1eB"], ["id", "int"], ["1", "2"]]
  columnCount := 2
  rectangular := by simp

/-- Two sources that are accepted with other fields than the expected ones, though what is digested is
the same; the second gives two values under three names. -/
theorem records_of_other_fields :
    (∃ schema expected records, build shiftedSheet titledLayout .standard = .ok schema ∧
      RowLayout.declare .standard [("Id", "id"), ("X", "int"), ("A\x1fint\x1eB", "int")] =
        .ok expected ∧
      schema.records shiftedSheet expected = .ok records ∧
      Fingerprint.preimage schema.rowLayout.signature = Fingerprint.preimage expected.signature ∧
      schema.rowLayout.signature ≠ expected.signature) ∧
    ∃ schema expected records, build mergedSheet titledLayout .standard = .ok schema ∧
      RowLayout.declare .standard [("Id", "id"), ("A", "int"), ("B", "int")] = .ok expected ∧
      schema.records mergedSheet expected = .ok records ∧
      Fingerprint.preimage schema.rowLayout.signature = Fingerprint.preimage expected.signature ∧
      schema.rowLayout.signature ≠ expected.signature ∧
      records.map (fun record => (record.names.length, record.values.length)) = [(3, 2)] := by
  have shifted : compared shiftedSheet [("Id", "id"), ("X", "int"), ("A\x1fint\x1eB", "int")] =
      some ([("Id", "id"), ("X\x1fint\x1eA", "int"), ("B", "int")],
        [("Id", "id"), ("X", "int"), ("A\x1fint\x1eB", "int")], [(3, 3)]) := by decide +kernel
  have merged : compared mergedSheet [("Id", "id"), ("A", "int"), ("B", "int")] =
      some ([("Id", "id"), ("A\x1fint\x1eB", "int")], [("Id", "id"), ("A", "int"), ("B", "int")],
        [(3, 2)]) := by decide +kernel
  constructor
  · obtain ⟨schema, expected, records, built, made, accepted, fields, others, _⟩ :=
      exists_of_compared shifted
    refine ⟨schema, expected, records, built, made, accepted, ?_, ?_⟩
    · rw [fields, others]
      decide
    · rw [fields, others]
      decide
  · obtain ⟨schema, expected, records, built, made, accepted, fields, others, lengths⟩ :=
      exists_of_compared merged
    refine ⟨schema, expected, records, built, made, accepted, ?_, ?_, lengths⟩
    · rw [fields, others]
      decide
    · rw [fields, others]
      decide

end Schema

end GameSheet
