import GameSheet.Proofs.Associations
import GameSheet.Proofs.Schema.Columns

/-!
Names that code can be generated from. The check goes over the encoded columns in order and passes
exactly when each of them has a proper name and no two have the same one; otherwise it reports the first
of them that has no proper name or the name of one before it. A proper name holds no separator, so the
fields of a checked schema can be told apart in what is digested of them.
-/

namespace GameSheet.Schema

def ProperName (name : String) : Prop :=
  ∃ first rest, name.toList = first :: rest ∧ ('A' ≤ first ∧ first ≤ 'Z') ∧
    ∀ c ∈ rest, ('A' ≤ c ∧ c ≤ 'Z') ∨ ('a' ≤ c ∧ c ≤ 'z') ∨ ('0' ≤ c ∧ c ≤ '9') ∨ c = '_'

theorem isProperName_iff {name : String} : isProperName name = true ↔ ProperName name := by
  have upper : ∀ c : Char, c.isUpper = true ↔ 'A' ≤ c ∧ c ≤ 'Z' := by
    intro c
    rw [Char.isUpper, decide_eq_true_eq]
    rfl
  have later : ∀ c : Char, (c.isAlphanum || c == '_') = true ↔
      ('A' ≤ c ∧ c ≤ 'Z') ∨ ('a' ≤ c ∧ c ≤ 'z') ∨ ('0' ≤ c ∧ c ≤ '9') ∨ c = '_' := by
    intro c
    simp only [Char.isAlphanum, Char.isAlpha, Bool.or_eq_true, upper, Char.isLower, Char.isDigit,
      Bool.and_eq_true, decide_eq_true_eq, beq_iff_eq, or_assoc]
    rfl
  unfold isProperName ProperName
  cases name.toList with
  | nil => simp
  | cons first rest =>
    simp only [Bool.and_eq_true, upper, List.all_eq_true, later, List.cons.injEq]
    constructor
    · intro proper
      exact ⟨first, rest, ⟨rfl, rfl⟩, proper⟩
    · intro given
      rcases given with ⟨_, _, ⟨rfl, rfl⟩, proper⟩
      exact proper

theorem ProperName.not_mem {name : String} (proper : ProperName name) {mark : Char}
    (foreign : ¬(('A' ≤ mark ∧ mark ≤ 'Z') ∨ ('a' ≤ mark ∧ mark ≤ 'z') ∨
      ('0' ≤ mark ∧ mark ≤ '9') ∨ mark = '_')) : mark ∉ name.toList := by
  obtain ⟨first, rest, chars, capital, later⟩ := proper
  rw [chars]
  intro member
  rcases List.mem_cons.mp member with rfl | behind
  · exact foreign (Or.inl capital)
  · exact foreign (later mark behind)

theorem not_mem_of_isProperName {name : String} (proper : isProperName name = true) :
    '\x1f' ∉ name.toList :=
  (isProperName_iff.mp proper).not_mem (by decide)

/-- The columns behind those that were seen pass when their names are proper, new and distinct. -/
theorem checkNamesFrom_eq_ok {seen : List (String × Nat)} {columns : List Column} :
    checkNamesFrom seen columns = .ok () ↔
      (∀ column ∈ columns, isProperName column.name = true ∧ column.name ∉ seen.map Prod.fst) ∧
        (columns.map Column.name).Nodup := by
  induction columns generalizing seen with
  | nil => simp [checkNamesFrom]
  | cons column columns ih =>
    rw [checkNamesFrom, List.forall_mem_cons, List.map_cons, List.nodup_cons, ← Association.lookup_eq_none]
    by_cases proper : isProperName column.name = true
    · cases found : seen.lookup column.name with
      | some first => simp [proper]
      | none =>
        simp only [if_pos proper, ih, List.map_cons, List.mem_cons, not_or]
        constructor
        · intro given
          rcases given with ⟨each, distinct⟩
          refine ⟨⟨⟨proper, trivial⟩, fun other member => ⟨(each other member).1,
            (each other member).2.2⟩⟩, ?_, distinct⟩
          intro again
          obtain ⟨other, member, same⟩ := List.mem_map.mp again
          exact (each other member).2.1 same
        · intro given
          rcases given with ⟨⟨_, each⟩, alone, distinct⟩
          refine ⟨fun other member => ⟨(each other member).1, ?_, (each other member).2⟩, distinct⟩
          intro same
          exact alone (List.mem_map.mpr ⟨other, member, same⟩)
    · simp [proper]

theorem proper_of_checkNamesFrom {seen : List (String × Nat)} {columns : List Column}
    (checked : checkNamesFrom seen columns = .ok ()) :
    ∀ column ∈ columns, isProperName column.name = true :=
  fun column member => ((checkNamesFrom_eq_ok.mp checked).1 column member).1

theorem checkNames_eq_ok {schema : Schema} : schema.checkNames = .ok () ↔
    (∀ column ∈ schema.encodedColumns, ProperName column.name) ∧
      (schema.encodedColumns.map Column.name).Nodup := by
  rw [checkNames, checkNamesFrom_eq_ok]
  simp only [List.map_nil, List.not_mem_nil, not_false_eq_true, and_true, isProperName_iff]

def Faulty (columns : List Column) (column : Column) : Prop :=
  column ∈ columns ∧ (¬ProperName column.name ∨
    ∃ first ∈ columns, first.index < column.index ∧ first.name = column.name)

/-- What is reported of a faulty column: that its name is improper, or else the first column that has the
same name. -/
inductive NameFault (columns : List Column) : Column → SchemaError → Prop where
  | improper {column : Column} (member : column ∈ columns) (improper : ¬ProperName column.name) :
      NameFault columns column (.invalidColumnName column.index column.name)
  | repeated {first column : Column} (member : column ∈ columns) (proper : ProperName column.name)
      (earlier : first ∈ columns) (before : first.index < column.index)
      (same : first.name = column.name)
      (least : ∀ other ∈ columns, other.name = column.name → first.index ≤ other.index) :
      NameFault columns column (.duplicateColumnName column.name first.index column.index)

def FirstNameFault (columns : List Column) (column : Column) (fault : SchemaError) : Prop :=
  NameFault columns column fault ∧ ∀ other, Faulty columns other → column.index ≤ other.index

def Ascending (columns : List Column) : Prop :=
  columns.Pairwise (fun column later => column.index < later.index)

namespace NameFault

variable {columns : List Column} {column other : Column} {fault cause : SchemaError}

theorem faulty (given : NameFault columns column fault) : Faulty columns column := by
  cases given with
  | improper member improper => exact ⟨member, .inl improper⟩
  | repeated member _ earlier before same => exact ⟨member, .inr ⟨_, earlier, before, same⟩⟩

theorem fault_unique (given : NameFault columns column fault)
    (again : NameFault columns column cause) : fault = cause := by
  cases given with
  | improper _ improper =>
    cases again with
    | improper => rfl
    | repeated _ proper => exact absurd proper improper
  | repeated _ proper earlier _ same least =>
    cases again with
    | improper _ improper => exact absurd proper improper
    | repeated _ _ earlier' _ same' least' =>
      rw [Nat.le_antisymm (least _ earlier' same') (least' _ earlier same)]

end NameFault

namespace Ascending

variable {columns : List Column} {column other : Column} {fault cause : SchemaError}

theorem nodup_map_index (ascending : Ascending columns) : (columns.map Column.index).Nodup :=
  List.pairwise_map.mpr (ascending.imp Nat.ne_of_lt)

theorem eq_of_index (ascending : Ascending columns) (member : column ∈ columns)
    (present : other ∈ columns) (same : column.index = other.index) : column = other :=
  List.inj_on_of_nodup_map ascending.nodup_map_index member present same

theorem nodup_map_name (ascending : Ascending columns) : (columns.map Column.name).Nodup ↔
    ∀ column ∈ columns, ∀ other ∈ columns, column.name = other.name → column.index = other.index := by
  constructor
  · intro distinct column member other present same
    rw [List.inj_on_of_nodup_map distinct member present same]
  · intro alone
    apply List.Nodup.map_on
    · intro column member other present same
      exact ascending.eq_of_index member present (alone column member other present same)
    · exact ascending.nodup_map_index.of_map

theorem firstNameFault_unique (ascending : Ascending columns)
    (first : FirstNameFault columns column fault) (second : FirstNameFault columns other cause) :
    fault = cause := by
  obtain ⟨given, least⟩ := first
  obtain ⟨again, lowest⟩ := second
  have place := Nat.le_antisymm (least other again.faulty) (lowest column given.faulty)
  obtain rfl := ascending.eq_of_index given.faulty.1 again.faulty.1 place
  exact given.fault_unique again

end Ascending

/-- The columns that went through the check, and the names that were noted of them: each of them is noted
with its index, and nothing else is. -/
structure Passed (before : List Column) (seen : List (String × Nat)) : Prop where
  proper : ∀ column ∈ before, ProperName column.name
  noted : ∀ name index, seen.lookup name = some index ↔
    ∃ column ∈ before, column.name = name ∧ column.index = index

namespace Passed

variable {before rest : List Column} {seen : List (String × Nat)} {column other : Column}
  {fault : SchemaError}

theorem nil : Passed [] [] where
  proper := by simp
  noted := by simp

theorem snoc (passed : Passed before seen) (proper : ProperName column.name)
    (unseen : seen.lookup column.name = none) :
    Passed (before ++ [column]) ((column.name, column.index) :: seen) where
  proper := by
    intro other member
    rcases List.mem_append.mp member with earlier | last
    · exact passed.proper other earlier
    · rwa [List.mem_singleton.mp last]
  noted := by
    intro name index
    simp only [Association.lookup_cons, List.mem_append, List.mem_singleton, or_and_right, exists_or,
      exists_eq_left, ← passed.noted]
    split
    next same => simp [same, unseen]
    next different => simp [Ne.symm different]

theorem index_unique (passed : Passed before seen) (member : column ∈ before) (present : other ∈ before)
    (same : column.name = other.name) : column.index = other.index := by
  have found := (passed.noted _ _).mpr ⟨column, member, same, rfl⟩
  rw [(passed.noted _ _).mpr ⟨other, present, rfl, rfl⟩] at found
  exact (Option.some.inj found).symm

theorem not_faulty (passed : Passed before seen) (ascending : Ascending (before ++ rest))
    (inFront : other ∈ before) : ¬Faulty (before ++ rest) other := by
  obtain ⟨_, _, apart⟩ := List.pairwise_append.mp ascending
  intro faulty
  rcases faulty.2 with improper | ⟨first, earlier, left, same⟩
  · exact improper (passed.proper other inFront)
  · rcases List.mem_append.mp earlier with noted | behind
    · have place := passed.index_unique noted inFront same
      omega
    · have right := apart other inFront first behind
      omega

/-- Behind columns that passed, a fault of the next one is the first. -/
theorem firstNameFault (passed : Passed before seen) (ascending : Ascending (before ++ column :: rest))
    (given : NameFault (before ++ column :: rest) column fault) :
    FirstNameFault (before ++ column :: rest) column fault := by
  refine ⟨given, ?_⟩
  intro other faulty
  rcases List.mem_append.mp faulty.1 with inFront | behind
  · exact absurd faulty (passed.not_faulty ascending inFront)
  · rcases List.mem_cons.mp behind with rfl | later
    · exact Nat.le_refl _
    · obtain ⟨_, within, _⟩ := List.pairwise_append.mp ascending
      exact ((List.pairwise_cons.mp within).1 other later).le

theorem nameFault_of_lookup (passed : Passed before seen)
    (ascending : Ascending (before ++ column :: rest)) (proper : ProperName column.name) {index : Nat}
    (found : seen.lookup column.name = some index) :
    NameFault (before ++ column :: rest) column
      (.duplicateColumnName column.name index column.index) := by
  obtain ⟨_, _, apart⟩ := List.pairwise_append.mp ascending
  obtain ⟨first, inFront, same, rfl⟩ := (passed.noted _ _).mp found
  refine .repeated (by simp) proper (List.mem_append_left _ inFront)
    (apart first inFront column List.mem_cons_self) same ?_
  intro other member named
  rcases List.mem_append.mp member with earlier | behind
  · exact (passed.index_unique inFront earlier (same.trans named.symm)).le
  · exact (apart first inFront other behind).le

end Passed

/-- The invariant carries the check over the columns: the one that stops it has the first fault. -/
theorem exists_firstNameFault {before columns : List Column} {seen : List (String × Nat)}
    {fault : SchemaError} (passed : Passed before seen) (ascending : Ascending (before ++ columns))
    (failed : checkNamesFrom seen columns = .error fault) :
    ∃ column, FirstNameFault (before ++ columns) column fault := by
  induction columns generalizing before seen with
  | nil => cases failed
  | cons column rest ih =>
    rw [checkNamesFrom] at failed
    by_cases proper : isProperName column.name = true
    · rw [if_pos proper] at failed
      rw [isProperName_iff] at proper
      cases found : seen.lookup column.name with
      | some first =>
        rw [found] at failed
        obtain rfl := Except.error.inj failed
        exact ⟨column, passed.firstNameFault ascending
          (passed.nameFault_of_lookup ascending proper found)⟩
      | none =>
        rw [found] at failed
        rw [List.append_cons] at ascending ⊢
        exact ih (passed.snoc proper found) ascending failed
    · rw [if_neg proper] at failed
      rw [isProperName_iff] at proper
      obtain rfl := Except.error.inj failed
      exact ⟨column, passed.firstNameFault ascending (.improper (by simp) proper)⟩

variable {sheet : Sheet} {layout : SheetLayout} {registry : TypeRegistry} {schema : Schema}

theorem name_eq_nameAt (built : build sheet layout registry = .ok schema) {column : Column}
    (member : column ∈ schema.columns) : column.name = Column.nameAt sheet layout column.index := by
  obtain ⟨position, found⟩ := List.mem_iff_getElem?.mp member
  have made := column_ofSheet built found
  rw [Column.ofSheet_eq] at made
  obtain ⟨codec, _, rfl⟩ := Traversal.map_eq_ok.mp made
  rfl

theorem checkNames_eq_error (ascending : Ascending schema.encodedColumns) {fault : SchemaError} :
    schema.checkNames = .error fault ↔ ∃ column, FirstNameFault schema.encodedColumns column fault := by
  constructor
  · intro failed
    exact exists_firstNameFault .nil ascending failed
  · intro given
    obtain ⟨column, first⟩ := given
    cases checked : schema.checkNames with
    | ok =>
      obtain ⟨proper, distinct⟩ := checkNames_eq_ok.mp checked
      obtain ⟨member, improper | ⟨earlier, present, before, same⟩⟩ := first.1.faulty
      · exact absurd (proper column member) improper
      · have place := ascending.nodup_map_name.mp distinct earlier present column member same
        omega
    | error cause =>
      obtain ⟨other, second⟩ := exists_firstNameFault .nil ascending checked
      rw [ascending.firstNameFault_unique first second]

/-- Over any registry, the check of a schema that was built passes exactly when all names of columns that
are no comments are proper and no two of them are the same, where the identifier's name is `Id` whatever
its cell says. Otherwise it reports the first column from the left whose name is improper or repeats one,
and with a repeated name the first column that has it. -/
theorem checkNames_exact (built : build sheet layout registry = .ok schema) :
    (∀ column ∈ schema.encodedColumns, column.name = Column.nameAt sheet layout column.index) ∧
    (schema.checkNames = .ok () ↔ (∀ column ∈ schema.encodedColumns, ProperName column.name) ∧
      ∀ column ∈ schema.encodedColumns, ∀ other ∈ schema.encodedColumns,
        column.name = other.name → column.index = other.index) ∧
    ∀ fault, schema.checkNames = .error fault ↔
      ∃ column, FirstNameFault schema.encodedColumns column fault := by
  have ascending : Ascending schema.encodedColumns := encodedColumns_ascending built
  refine ⟨?_, ?_, fun fault => checkNames_eq_error ascending⟩
  · intro column member
    exact name_eq_nameAt built (mem_encodedColumns.mp member).1
  · rw [checkNames_eq_ok, ascending.nodup_map_name]

def hitPointSheet : Sheet where
  rows := [["Key", "Hp", "Hp", "max"], ["id", "int", "int", "int"], ["7", "1", "2", "3"]]
  columnCount := 4
  rectangular := by simp

theorem checkNames_exact_hitPoints : ∃ schema column,
    build hitPointSheet (keyLayout 0) .standard = .ok schema ∧
      schema.checkNames = .error (.duplicateColumnName "Hp" 1 2) ∧
      FirstNameFault schema.encodedColumns column (.duplicateColumnName "Hp" 1 2) := by
  have runs : (build hitPointSheet (keyLayout 0) .standard).toOption.map Schema.checkNames =
      some (.error (.duplicateColumnName "Hp" 1 2)) := by
    decide +kernel
  cases built : build hitPointSheet (keyLayout 0) .standard with
  | error fault => simp [built, Except.toOption] at runs
  | ok schema =>
    simp only [built, Except.toOption, Option.map_some, Option.some.injEq] at runs
    obtain ⟨column, first⟩ := ((checkNames_exact built).2.2 _).mp runs
    exact ⟨schema, column, rfl, runs, first⟩

end GameSheet.Schema
