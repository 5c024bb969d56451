import GameSheet.Content.Compile
import GameSheet.Proofs.Traversal

/-!
Sources that pass. A source is checked when its sheet loads, its schema is built and the names are
in order; it compiles when its rows are encoded as well.
-/

namespace GameSheet

variable {registry : TypeRegistry} {options : CellOptions} {layout : SheetLayout} {text : String}

theorem checkSource_eq_ok {sheet : Sheet} {schema : Schema} :
    checkSource registry options layout text = .ok (sheet, schema) ↔
      Sheet.load options layout text = .ok sheet ∧
        Schema.build sheet layout registry = .ok schema ∧ schema.checkNames = .ok () := by
  unfold checkSource
  simp only [Traversal.bind_eq_ok]
  constructor
  · intro given
    rcases given with ⟨read, loaded, made, built, _, checked, same⟩
    obtain ⟨rfl, rfl⟩ := Prod.mk.inj (Except.ok.inj same)
    exact ⟨loaded, built, checked⟩
  · intro given
    rcases given with ⟨loaded, built, checked⟩
    exact ⟨sheet, loaded, schema, built, (), checked, rfl⟩

theorem compileSource_eq_ok {format : BlobFormat} {compiled : CompiledTable} :
    compileSource registry options layout format text = .ok compiled ↔
      checkSource registry options layout text = .ok (compiled.sheet, compiled.schema) ∧
        compiled.schema.encode compiled.sheet format = .ok compiled.encoded ∧
        compiled.pool = .build compiled.sheet compiled.schema.columns
          compiled.schema.layout.contentStart := by
  unfold compileSource
  simp only [Traversal.bind_eq_ok, Traversal.mapError_eq_ok]
  constructor
  · intro given
    rcases given with ⟨⟨sheet, schema⟩, checked, encoded, done, same⟩
    rw [← Except.ok.inj same]
    exact ⟨checked, done, rfl⟩
  · intro given
    rcases given with ⟨checked, done, pool⟩
    refine ⟨_, checked, _, done, ?_⟩
    rw [← pool]
    rfl

end GameSheet
