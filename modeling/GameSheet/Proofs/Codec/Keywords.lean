import GameSheet.Proofs.Codec.Registry
import GameSheet.Proofs.Schema.Separators

/-!
Keywords of the standard types. Each type has its own, so standard codecs are told apart by the
keywords that they bear, and none of the keywords holds a separator.
-/

namespace GameSheet

namespace ColumnType

theorem mem_all (type : ColumnType) : type ∈ all := by
  cases type with
  | integer kind => cases kind <;> decide
  | tuple shape => cases shape <;> decide
  | _ => decide

theorem codec_keyword (type : ColumnType) : type.codec.keyword = type.keyword := by
  cases type <;> rfl

theorem keyword_injective : Function.Injective keyword := by
  have distinct : (all.map keyword).Nodup := by decide
  intro type other same
  exact List.inj_on_of_nodup_map distinct (mem_all type) (mem_all other) same

theorem codec_eq_of_keyword {type other : ColumnType}
    (same : type.codec.keyword = other.codec.keyword) : type.codec = other.codec := by
  rw [codec_keyword, codec_keyword] at same
  rw [keyword_injective same]

theorem keyword_plain (type : ColumnType) : Fingerprint.PlainKeyword type.keyword := by
  have plain : ∀ known ∈ all, Fingerprint.PlainKeyword known.keyword := by decide
  exact plain type (mem_all type)

end ColumnType

end GameSheet
