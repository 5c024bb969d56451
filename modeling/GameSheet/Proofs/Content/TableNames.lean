import GameSheet.Content.TableName
import GameSheet.Proofs.Text.Pieces

/-!
Table names and their texts. A text names a table exactly when it is a type, or a type and an instance
with one underscore between them, and no name has another text than the one it is read from. The
underscores of a text that names no table decide why it does not.
-/

namespace GameSheet.TableName

variable {text : String} {name : TableName} {front back : List Char}

structure Part (text : String) : Prop where
  nonempty : text ≠ ""
  whole : '_' ∉ text.toList

structure WellFormed (name : TableName) : Prop where
  type : Part name.type
  instance? : ∀ part ∈ name.instance?, Part part

theorem part_ofList (nonempty : front ≠ []) (whole : '_' ∉ front) : Part (String.ofList front) := by
  constructor
  · intro void
    exact nonempty (by rw [← String.toList_ofList (l := front), void]; rfl)
  · rwa [String.toList_ofList]

/-! Texts by their underscores -/

theorem parse_plain (nonempty : front ≠ []) (whole : '_' ∉ front) :
    parse (String.ofList front) = .ok ⟨String.ofList front, none⟩ := by
  rw [parse, if_neg (part_ofList nonempty whole).nonempty, String.toList_ofList,
    Text.pieces_of_not_mem whole]

theorem parse_pair (first : '_' ∉ front) (second : '_' ∉ back) :
    parse (String.ofList (front ++ '_' :: back)) =
      if front = [] ∨ back = [] then .error (.emptyPart (String.ofList (front ++ '_' :: back)))
      else .ok ⟨String.ofList front, some (String.ofList back)⟩ := by
  have nonempty : String.ofList (front ++ '_' :: back) ≠ "" := by
    rw [Ne, ← String.toList_inj, String.toList_ofList]
    exact List.append_ne_nil_of_right_ne_nil front (List.cons_ne_nil '_' back)
  rw [parse, if_neg nonempty, String.toList_ofList, Text.pieces_append_cons first,
    Text.pieces_of_not_mem second]

theorem parse_many (many : 2 ≤ text.toList.count '_') :
    parse text = .error (.tooManySeparators text) := by
  have length := Text.length_pieces '_' text.toList
  have nonempty : text ≠ "" := by
    rintro rfl
    simp at many
  rw [parse, if_neg nonempty]
  split
  next alone =>
    rw [alone, List.length_singleton] at length
    omega
  next both =>
    rw [both, List.length_cons, List.length_singleton] at length
    omega
  next => rfl

/-- A text is empty, or it holds no underscore, one with something on both its sides or more. -/
theorem split_cases (text : String) :
    '_' ∉ text.toList ∨
      (∃ front back, '_' ∉ front ∧ '_' ∉ back ∧ text = String.ofList (front ++ '_' :: back)) ∨
      2 ≤ text.toList.count '_' := by
  by_cases whole : '_' ∈ text.toList
  · obtain ⟨front, back, split, first⟩ := List.eq_append_cons_of_mem whole
    by_cases second : '_' ∈ back
    · refine Or.inr (Or.inr ?_)
      have later := List.count_pos_iff.mpr second
      rw [split, List.count_append, List.count_cons_self]
      omega
    · exact Or.inr (Or.inl ⟨front, back, first, second, by rw [← split, String.ofList_toList]⟩)
  · exact Or.inl whole

theorem text_pair (front back : List Char) :
    (⟨String.ofList front, some (String.ofList back)⟩ : TableName).text =
      String.ofList (front ++ '_' :: back) := by
  rw [TableName.text, ← String.toList_inj]
  simp only [String.toList_append, String.toList_ofList, List.append_assoc]
  rfl

theorem parse_eq_ok : parse text = .ok name ↔ name.WellFormed ∧ name.text = text := by
  constructor
  · intro parsed
    rcases split_cases text with whole | ⟨front, back, first, second, rfl⟩ | many
    · have nonempty : text ≠ "" := by
        rintro rfl
        cases parsed
      have visible : text.toList ≠ [] := mt String.toList_eq_nil_iff.mp nonempty
      have plain := parse_plain visible whole
      rw [String.ofList_toList, parsed] at plain
      rw [Except.ok.inj plain]
      exact ⟨⟨⟨nonempty, whole⟩, nofun⟩, rfl⟩
    · rw [parse_pair first second] at parsed
      split_ifs at parsed with void
      obtain ⟨before, behind⟩ := not_or.mp void
      rw [← Except.ok.inj parsed]
      refine ⟨⟨part_ofList before first, ?_⟩, text_pair front back⟩
      intro part same
      rw [← Option.some.inj same]
      exact part_ofList behind second
    · rw [parse_many many] at parsed
      cases parsed
  · rintro ⟨formed, rfl⟩
    obtain ⟨type, instance?⟩ := name
    have visible : type.toList ≠ [] := mt String.toList_eq_nil_iff.mp formed.type.nonempty
    cases instance? with
    | none =>
      have plain := parse_plain visible formed.type.whole
      rwa [String.ofList_toList] at plain
    | some part =>
      have named := formed.instance? part rfl
      have behind : part.toList ≠ [] := mt String.toList_eq_nil_iff.mp named.nonempty
      have pair := parse_pair formed.type.whole named.whole
      rw [if_neg (not_or.mpr ⟨visible, behind⟩), ← text_pair] at pair
      simpa only [String.ofList_toList] using pair

theorem head?_pair (first : '_' ∉ front) :
    (front ++ '_' :: back).head? = some '_' ↔ front = [] := by
  cases front with
  | nil => exact iff_of_true rfl rfl
  | cons c rest =>
    refine iff_of_false ?_ (List.cons_ne_nil c rest)
    intro same
    exact first (by rw [← Option.some.inj same]; exact List.mem_cons_self)

theorem getLast?_pair (second : '_' ∉ back) :
    (front ++ '_' :: back).getLast? = some '_' ↔ back = [] := by
  rcases List.eq_nil_or_concat back with rfl | ⟨rest, c, rfl⟩
  · exact iff_of_true List.getLast?_concat rfl
  · rw [List.concat_eq_append] at second ⊢
    refine iff_of_false ?_ (List.append_ne_nil_of_right_ne_nil rest (List.cons_ne_nil c []))
    rw [← List.cons_append, ← List.append_assoc, List.getLast?_concat]
    intro same
    exact second (by rw [← Option.some.inj same]; exact List.mem_concat_self)

theorem parse_eq_error {fault : TableNameError} : parse text = .error fault ↔
    (text = "" ∧ fault = .empty) ∨
    (2 ≤ text.toList.count '_' ∧ fault = .tooManySeparators text) ∨
    (text.toList.count '_' ≤ 1 ∧ (text.toList.head? = some '_' ∨ text.toList.getLast? = some '_') ∧
      fault = .emptyPart text) := by
  rcases split_cases text with whole | ⟨front, back, first, second, rfl⟩ | many
  · have few := List.count_eq_zero.mpr whole
    have ends : ¬(text.toList.head? = some '_' ∨ text.toList.getLast? = some '_') := by
      rintro (head | last)
      · exact whole (List.mem_of_head? head)
      · exact whole (List.mem_of_getLast? last)
    by_cases empty : text = ""
    · rw [parse, if_pos empty, Except.error.injEq]
      simp [empty, eq_comm]
    · have formed : WellFormed ⟨text, none⟩ := ⟨⟨empty, whole⟩, nofun⟩
      have parsed : parse text = .ok ⟨text, none⟩ := parse_eq_ok.mpr ⟨formed, rfl⟩
      simp [parsed, empty, few, ends]
  · have single : (front ++ '_' :: back).count '_' = 1 := by
      rw [List.count_append, List.count_cons_self, List.count_eq_zero.mpr first,
        List.count_eq_zero.mpr second]
    have nonempty : String.ofList (front ++ '_' :: back) ≠ "" := by
      rw [← text_pair]
      simp [TableName.text]
    rw [parse_pair first second, String.toList_ofList, single, head?_pair first, getLast?_pair second]
    split_ifs with void
    · constructor
      · intro failed
        exact Or.inr (Or.inr ⟨le_rfl, void, (Except.error.inj failed).symm⟩)
      · rintro (⟨empty, _⟩ | ⟨many, _⟩ | ⟨_, _, rfl⟩)
        · exact absurd empty nonempty
        · omega
        · rfl
    · simp [void]
  · have nonempty : text ≠ "" := by
      rintro rfl
      simp at many
    have several : ¬text.toList.count '_' ≤ 1 := by omega
    rw [parse_many many]
    simp [nonempty, many, several, eq_comm]

example : parse "_Enemy_" = .error (.tooManySeparators "_Enemy_") := by decide

theorem exists_parse : (∃ name, parse text = .ok name) ↔
    text ≠ "" ∧ text.toList.count '_' ≤ 1 ∧
      text.toList.head? ≠ some '_' ∧ text.toList.getLast? ≠ some '_' := by
  have failing : (∃ fault, parse text = .error fault) ↔
      text = "" ∨ 2 ≤ text.toList.count '_' ∨ text.toList.count '_' ≤ 1 ∧
        (text.toList.head? = some '_' ∨ text.toList.getLast? = some '_') := by
    simp only [parse_eq_error, exists_or, exists_and_left, exists_eq, and_true]
  have settled : (∃ name, parse text = .ok name) ↔ ¬∃ fault, parse text = .error fault := by
    cases parse text <;> simp
  rw [settled, failing]
  simp only [not_or, not_and, Nat.not_le, ne_eq]
  constructor
  · rintro ⟨nonempty, few, ends⟩
    exact ⟨nonempty, Nat.le_of_lt_succ few, ends (Nat.le_of_lt_succ few)⟩
  · rintro ⟨nonempty, few, ends⟩
    exact ⟨nonempty, Nat.lt_succ_of_le few, fun _ => ends⟩

def Made (name : TableName) : Prop :=
  (∃ text, parse text = .ok name) ∨ ∃ kind, name = ofKind kind

theorem wellFormed_ofKind (kind : TableKind) : (ofKind kind).WellFormed := by
  refine ⟨?_, nofun⟩
  constructor <;> cases kind <;> decide

theorem Made.wellFormed (made : name.Made) : name.WellFormed := by
  rcases made with ⟨text, parsed⟩ | ⟨kind, rfl⟩
  · exact (parse_eq_ok.mp parsed).1
  · exact wellFormed_ofKind kind

theorem parse_text (formed : name.WellFormed) : parse name.text = .ok name :=
  parse_eq_ok.mpr ⟨formed, rfl⟩

theorem text_inj {other : TableName} (formed : name.WellFormed) (likewise : other.WellFormed) :
    name.text = other.text ↔ name = other := by
  refine ⟨fun same => ?_, congrArg TableName.text⟩
  have read := parse_text formed
  rw [same, parse_text likewise] at read
  exact (Except.ok.inj read).symm

/-- Exactly the texts with at most one underscore and something on every side of it name tables, and
the others fail as their underscores say; names that were read or belong to kinds are read from their
own texts, and they share neither texts nor files. -/
theorem parse_inverts_text :
    (∀ text, (∃ name, parse text = .ok name) ↔ text ≠ "" ∧ text.toList.count '_' ≤ 1 ∧
      text.toList.head? ≠ some '_' ∧ text.toList.getLast? ≠ some '_') ∧
    (∀ text name, parse text = .ok name → name.text = text) ∧
    (∀ name, Made name → parse name.text = .ok name) ∧
    (∀ name other, Made name → Made other → name ≠ other →
      name.sourceFile ≠ other.sourceFile ∧ name.assetFile ≠ other.assetFile) ∧
    ∀ text fault, parse text = .error fault ↔
      (text = "" ∧ fault = .empty) ∨
      (2 ≤ text.toList.count '_' ∧ fault = .tooManySeparators text) ∨
      (text.toList.count '_' ≤ 1 ∧
        (text.toList.head? = some '_' ∨ text.toList.getLast? = some '_') ∧
        fault = .emptyPart text) := by
  refine ⟨fun text => exists_parse, fun text name parsed => (parse_eq_ok.mp parsed).2,
    fun name made => parse_text made.wellFormed, fun name other made again distinct => ?_,
    fun text fault => parse_eq_error⟩
  have texts : name.text ≠ other.text := mt (text_inj made.wellFormed again.wellFormed).mp distinct
  rw [sourceFile, sourceFile, assetFile, assetFile, Ne, Ne, String.append_left_inj,
    String.append_left_inj]
  exact ⟨texts, texts⟩

end GameSheet.TableName
