import GameSheet.Proofs.Codec.Keywords
import GameSheet.Proofs.Schema.Names
import GameSheet.Proofs.Table.Canonical
import GameSheet.Proofs.Table.TextMode

/-!
Blobs under other layouts. Proper names and keywords without separators are determined by the bytes
that are digested of them. So a fingerprinted blob is read under every layout with the fields of the
one it was written with, to the same records, and refused under all others before a row is looked at.
-/

namespace GameSheet

namespace RowLayout

open Wire

variable {layout other : RowLayout}

def Alike (field other : Field) : Prop := field.name = other.name ∧ field.codec = other.codec

theorem alike_of_signature (standard : layout.Standard) (likewise : other.Standard)
    (same : layout.signature = other.signature) :
    List.Forall₂ Alike layout.fields other.fields := by
  have pairs := List.forall₂_iff_zip.mp (Traversal.map_eq_map_iff.mp same)
  apply List.forall₂_iff_zip.mpr
  refine ⟨pairs.1, ?_⟩
  intro field another member
  obtain ⟨name, keyword⟩ := Prod.mk.inj (pairs.2 member)
  obtain ⟨type, codec⟩ := standard field (List.of_mem_zip member).1
  obtain ⟨kind, twin⟩ := likewise another (List.of_mem_zip member).2
  rw [codec, twin] at keyword
  refine ⟨name, ?_⟩
  rw [codec, twin]
  exact ColumnType.codec_eq_of_keyword keyword

theorem readFields_congr {row : Nat} {fields others : List Field}
    (alike : List.Forall₂ Alike fields others) (cursor : Cursor) :
    readFields row fields cursor = readFields row others cursor := by
  induction alike generalizing cursor with
  | nil => rfl
  | cons first _ ih => simp only [readFields, first.1, first.2, ih]

theorem signature_congr (alike : List.Forall₂ Alike layout.fields other.fields) :
    layout.signature = other.signature :=
  Traversal.map_eq_map_iff.mpr (alike.imp (fun field another given => by rw [given.1, given.2]))

theorem record_congr (alike : List.Forall₂ Alike layout.fields other.fields) :
    layout.record = other.record := by
  have names : layout.names = other.names :=
    Traversal.map_eq_map_iff.mpr (alike.imp (fun field another given => given.1))
  have identifier : layout.identifier = other.identifier := by
    have single := identifierPositions_congr
      (Traversal.map_eq_map_iff.mpr (alike.imp (fun field another given => given.2)))
    rw [layout.single, other.single] at single
    exact List.singleton_inj.mp single
  funext row values
  simp only [record, names, identifier]

/-- Layouts whose fields read alike decode alike. -/
theorem decode_congr (alike : List.Forall₂ Alike layout.fields other.fields) (format : BlobFormat)
    (blob : List UInt8) : layout.decode format blob = other.decode format blob := by
  have frames : layout.decodeFrame = other.decodeFrame := by
    funext frame
    simp only [decodeFrame, decodeRow, readFields_congr alike, record_congr alike]
  rw [decode, decode, fingerprint, fingerprint, signature_congr alike, frames]

theorem declare_standard {declared : List (String × String)}
    (made : declare .standard declared = .ok layout) : layout.Standard := by
  obtain ⟨fields, resolved, laid⟩ := Traversal.bind_eq_ok.mp made
  intro field member
  rw [(ofFields_eq_ok laid).1] at member
  obtain ⟨source, declaredAs, rfl⟩ := List.mem_map.mp member
  obtain ⟨⟨⟨name, keyword⟩, column⟩, _, found⟩ := Traversal.exists_of_mapM resolved declaredAs
  rw [renameIdentifier_codec]
  simp only at found
  split at found
  next codec known =>
    rw [← Except.ok.inj found]
    exact TypeRegistry.standard_codecs (TypeRegistry.mem_of_resolve known)
  next => simp at found

end RowLayout

namespace Fingerprint

structure Plain (fields : List (String × String)) : Prop where
  names : ∀ field ∈ fields, Schema.ProperName field.1
  keywords : ∀ field ∈ fields, PlainKeyword field.2

theorem Plain.separable {fields : List (String × String)} (plain : Plain fields) :
    Separable fields := by
  intro field member
  refine ⟨Schema.not_mem_of_isProperName (Schema.isProperName_iff.mpr (plain.names field member)), ?_⟩
  intro inside
  exact (plain.keywords field member).2 (List.mem_flatMap.mpr ⟨'\x1e', inside, by decide⟩)

end Fingerprint

namespace RowLayout

variable {layout other : RowLayout}

theorem plain_of_standard (standard : layout.Standard)
    (proper : ∀ entry ∈ layout.signature, Schema.isProperName entry.1 = true) :
    Fingerprint.Plain layout.signature := by
  constructor
  · intro entry member
    exact Schema.isProperName_iff.mp (proper entry member)
  · intro entry member
    obtain ⟨field, inside, rfl⟩ := List.mem_map.mp member
    obtain ⟨type, codec⟩ := standard field inside
    rw [codec, ColumnType.codec_keyword]
    exact type.keyword_plain

theorem fingerprint_ne (plain : Fingerprint.Plain layout.signature)
    (bare : Fingerprint.Plain other.signature) (different : layout.signature ≠ other.signature)
    (distinct : layout.fingerprint = other.fingerprint →
      Fingerprint.preimage layout.signature = Fingerprint.preimage other.signature) :
    layout.fingerprint ≠ other.fingerprint := by
  intro same
  exact different ((Fingerprint.preimage_inj plain.separable bare.separable).mp (distinct same))

end RowLayout

namespace Schema

variable {source sheet : Sheet} {layout : SheetLayout} {registry : TypeRegistry} {schema : Schema}
  {table : EncodedTable} {other : RowLayout}

theorem rowLayout_standard (built : build source layout .standard = .ok schema) :
    schema.rowLayout.Standard := by
  intro field member
  rw [fields_eq built] at member
  obtain ⟨column, encoded, rfl⟩ := List.mem_map.mp member
  exact (codecFrom_of_mem built encoded).standard

theorem plain_of_checked (built : build source layout registry = .ok schema)
    (checked : schema.checkNames = .ok ())
    (keywords : ∀ field ∈ schema.rowLayout.signature, Fingerprint.PlainKeyword field.2) :
    Fingerprint.Plain schema.rowLayout.signature := by
  refine ⟨?_, keywords⟩
  intro entry member
  rw [RowLayout.signature, fields_eq built, List.map_map] at member
  obtain ⟨column, encoded, rfl⟩ := List.mem_map.mp member
  exact (checkNames_eq_ok.mp checked).1 column encoded

theorem blob_eq_header {format : BlobFormat} (encoded : schema.encode sheet format = .ok table) :
    ∃ rows, table.blob = format.header schema.fingerprint ++ rows := by
  obtain ⟨rows, _, rfl⟩ := encode_eq_ok.mp encoded
  exact ⟨rows.flatMap Prod.fst, rfl⟩

/-- What is digested of plain fields determines them. So a fingerprinted blob of a checked schema
has the same records under standard layouts with the schema's fields; under those with other fields
it is a mismatch, whatever rows stand behind the header. -/
theorem fingerprint_separates :
    (∀ layout other : RowLayout, Fingerprint.Plain layout.signature →
      Fingerprint.Plain other.signature →
      (Fingerprint.preimage layout.signature = Fingerprint.preimage other.signature ↔
        layout.signature = other.signature)) ∧
    ∀ (registry : TypeRegistry) (source sheet : Sheet) (layout : SheetLayout) (schema : Schema)
      (table : EncodedTable) (other : RowLayout), build source layout registry = .ok schema →
      schema.checkNames = .ok () → schema.encode sheet .fingerprinted = .ok table →
      (∀ field ∈ schema.rowLayout.signature, Fingerprint.PlainKeyword field.2) →
      Fingerprint.Plain other.signature →
      (registry = .standard → other.Standard → schema.rowLayout.signature = other.signature →
        ∃ records, schema.rowLayout.decode .fingerprinted table.blob = .ok records ∧
          other.decode .fingerprinted table.blob = .ok records) ∧
      (schema.rowLayout.signature ≠ other.signature →
        (schema.fingerprint = other.fingerprint →
          Fingerprint.preimage schema.rowLayout.signature = Fingerprint.preimage other.signature) →
        other.decode .fingerprinted table.blob =
          .error (.fingerprintMismatch other.fingerprint schema.fingerprint) ∧
        ∀ rows, other.decode .fingerprinted
            (BlobFormat.fingerprinted.header schema.fingerprint ++ rows) =
          .error (.fingerprintMismatch other.fingerprint schema.fingerprint)) := by
  constructor
  · intro layout other plain bare
    exact Fingerprint.preimage_inj plain.separable bare.separable
  · intro registry source sheet layout schema table other built checked encoded keywords bare
    constructor
    · intro known standard same
      subst known
      obtain ⟨rows, framed, rfl⟩ := encode_eq_ok.mp encoded
      obtain ⟨records, decoded, _⟩ :=
        decode_framed TypeRegistry.standard_lawful built .fingerprinted framed
      have alike := RowLayout.alike_of_signature (rowLayout_standard built) standard same
      refine ⟨records, decoded, ?_⟩
      rw [← RowLayout.decode_congr alike, decoded]
    · intro different distinct
      have plain := plain_of_checked built checked keywords
      have refused := RowLayout.decode_mismatch
        (RowLayout.fingerprint_ne plain bare different distinct)
      obtain ⟨rows, blob⟩ := blob_eq_header encoded
      rw [blob]
      exact ⟨refused rows, refused⟩

/-- The alias of a type is the same field, and another name for it is another field. -/
theorem fingerprint_separates_count : ∃ schema table twin renamed records,
    build countSheet countLayout .standard = .ok schema ∧
      schema.encode countSheet .fingerprinted = .ok table ∧
      RowLayout.declare .standard [("Id", "id"), ("Count", "i32")] = .ok twin ∧
      RowLayout.declare .standard [("Id", "id"), ("Total", "int")] = .ok renamed ∧
      twin.decode .fingerprinted table.blob = .ok records ∧
      renamed.decode .fingerprinted table.blob =
        .error (.fingerprintMismatch renamed.fingerprint schema.fingerprint) := by
  have runs : (build countSheet countLayout .standard).toOption.bind (fun schema =>
      (schema.encode countSheet .fingerprinted).toOption.bind (fun _ =>
      (RowLayout.declare .standard [("Id", "id"), ("Count", "i32")]).toOption.bind (fun twin =>
      (RowLayout.declare .standard [("Id", "id"), ("Total", "int")]).toOption.bind (fun renamed =>
      schema.checkNames.toOption.bind (fun _ =>
        some (schema.rowLayout.signature, twin.signature, renamed.signature,
          decide (schema.fingerprint = renamed.fingerprint))))))) =
      some ([("Id", "id"), ("Count", "int")], [("Id", "id"), ("Count", "int")],
        [("Id", "id"), ("Total", "int")], false) := by decide +kernel
  obtain ⟨schema, built, runs⟩ := Traversal.toOption_bind_eq_some.mp runs
  obtain ⟨table, encoded, runs⟩ := Traversal.toOption_bind_eq_some.mp runs
  obtain ⟨twin, first, runs⟩ := Traversal.toOption_bind_eq_some.mp runs
  obtain ⟨renamed, second, runs⟩ := Traversal.toOption_bind_eq_some.mp runs
  obtain ⟨_, checked, runs⟩ := Traversal.toOption_bind_eq_some.mp runs
  simp only [Option.some.injEq, Prod.mk.injEq, decide_eq_false_iff_not] at runs
  obtain ⟨fields, same, others, apart⟩ := runs
  have own := RowLayout.plain_of_standard (rowLayout_standard built) (by rw [fields]; decide)
  have standard := RowLayout.declare_standard first
  have bare := RowLayout.plain_of_standard standard (by rw [same]; decide)
  have foreign := RowLayout.plain_of_standard (RowLayout.declare_standard second)
    (by rw [others]; decide)
  obtain ⟨records, _, decoded⟩ := (fingerprint_separates.2 _ _ _ _ _ _ twin built checked encoded
    own.keywords bare).1 rfl standard (by rw [fields, same])
  obtain ⟨refused, _⟩ := (fingerprint_separates.2 _ _ _ _ _ _ renamed built checked encoded
    own.keywords foreign).2 (by rw [fields, others]; decide) (fun equal => absurd equal apart)
  exact ⟨schema, table, twin, renamed, records, built, encoded, first, second, decoded, refused⟩

end Schema

end GameSheet
