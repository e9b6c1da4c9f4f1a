import RankedSql.Proofs.Phrases
import RankedSql.Proofs.WrittenColumns

/-!
# Tidy columns

Spacing has nothing to do on a text whose words stand one space apart. Such texts are told from
their pieces: a tidy text does not end with a blank, so any other can follow it (`Tidy.append`), and
one that is trim does not start with a blank either, so it can follow a space
(`Trim.tidy_behind`). A column is written as a trim text if its names and its text default are solid
words (`DeclaredColumn.trim_part`).
-/

namespace RankedSql

namespace Text

/-- A text that spacing leaves as it is and that does not end with a blank. It may start with a
space. -/
structure Tidy (text : String) : Prop where
  spaced_eq : spaced text.toList = text.toList
  ends : text.toList.getLast?.any isBlank = false

instance (text : String) : Decidable (Tidy text) :=
  decidable_of_iff (spaced text.toList = text.toList ∧ text.toList.getLast?.any isBlank = false)
    ⟨fun ⟨spaced_eq, ends⟩ => ⟨spaced_eq, ends⟩, fun ⟨spaced_eq, ends⟩ => ⟨spaced_eq, ends⟩⟩

/-- A tidy text that starts with a visible character. -/
structure Trim (text : String) : Prop extends Tidy text where
  notEmpty : text ≠ ""
  starts : text.toList.head?.any isBlank = false

instance (text : String) : Decidable (Trim text) :=
  decidable_of_iff (Tidy text ∧ text ≠ "" ∧ text.toList.head?.any isBlank = false)
    ⟨fun ⟨tidy, notEmpty, starts⟩ => ⟨tidy, notEmpty, starts⟩,
      fun ⟨tidy, notEmpty, starts⟩ => ⟨tidy, notEmpty, starts⟩⟩

/-- A text with at least one character and no blanks. -/
structure Solid (text : String) : Prop where
  notEmpty : text ≠ ""
  visible : Visible text.toList

instance (text : String) : Decidable (Solid text) :=
  decidable_of_iff (text ≠ "" ∧ Visible text.toList)
    ⟨fun ⟨notEmpty, visible⟩ => ⟨notEmpty, visible⟩, fun ⟨notEmpty, visible⟩ => ⟨notEmpty, visible⟩⟩

/-! ## Composed texts -/

variable {left right lead text : String}

theorem ends_append (endsLeft : left.toList.getLast?.any isBlank = false)
    (endsRight : right.toList.getLast?.any isBlank = false) :
    (left ++ right).toList.getLast?.any isBlank = false := by
  rw [String.toList_append, List.getLast?_append]
  cases last : right.toList.getLast? with
  | none => exact endsLeft
  | some char =>
      rw [last] at endsRight
      exact endsRight

theorem Tidy.append (tidyLeft : Tidy left) (tidyRight : Tidy right) : Tidy (left ++ right) where
  spaced_eq := by
    rw [String.toList_append, spaced_append (.inl tidyLeft.ends), tidyLeft.spaced_eq,
      tidyRight.spaced_eq]
  ends := ends_append tidyLeft.ends tidyRight.ends

theorem Trim.toList_ne_nil (trim : Trim text) : text.toList ≠ [] :=
  mt String.toList_eq_nil_iff.1 trim.notEmpty

theorem Trim.append (trim : Trim left) (tidy : Tidy right) : Trim (left ++ right) where
  toTidy := trim.toTidy.append tidy
  notEmpty := mt (fun empty => (String.append_eq_empty_iff.1 empty).1) trim.notEmpty
  starts := by
    rw [String.toList_append, List.head?_append_of_ne_nil _ trim.toList_ne_nil]
    exact trim.starts

/-- A trim text can follow a space. -/
theorem Trim.tidy_behind (trim : Trim text) (spacedLead : spaced lead.toList = lead.toList) :
    Tidy (lead ++ text) where
  spaced_eq := by
    rw [String.toList_append, spaced_append (.inr trim.starts), spacedLead, trim.spaced_eq]
  ends := by
    rw [String.toList_append, List.getLast?_append_of_ne_nil _ trim.toList_ne_nil]
    exact trim.ends

theorem visible_append {left right : List Char} :
    Visible (left ++ right) ↔ Visible left ∧ Visible right :=
  List.forall_mem_append

theorem spaced_of_visible {text : List Char} (visible : Visible text) : spaced text = text := by
  induction text with
  | nil => rfl
  | cons head tail ih =>
      rcases List.forall_mem_cons.1 visible with ⟨headVisible, tailVisible⟩
      rw [spaced_cons_of_not_isBlank headVisible, ih tailVisible]

theorem Solid.trim (solid : Solid text) : Trim text where
  spaced_eq := spaced_of_visible solid.visible
  ends := (Option.any_eq_false _ _).2 fun last ends =>
    solid.visible last (List.mem_of_getLast? ends)
  notEmpty := solid.notEmpty
  starts := (Option.any_eq_false _ _).2 fun first starts =>
    solid.visible first (List.mem_of_head? starts)

theorem trim_joinWith {texts : List String} (trim : ∀ text ∈ texts, Trim text)
    (notEmpty : texts ≠ []) : Trim (joinWith ", " texts) := by
  fun_induction joinWith ", " texts with
  | case1 => exact absurd rfl notEmpty
  | case2 only => exact trim only List.mem_cons_self
  | case3 first second rest ih =>
      rcases List.forall_mem_cons.1 trim with ⟨trimFirst, trimRest⟩
      rw [String.append_assoc]
      exact trimFirst.append ((ih trimRest (List.cons_ne_nil _ _)).tidy_behind (by decide))

theorem tidy_joinWith {texts : List String} (trim : ∀ text ∈ texts, Trim text) :
    Tidy (joinWith ", " texts) := by
  by_cases empty : texts = []
  · rw [empty]
    decide
  · exact (trim_joinWith trim empty).toTidy

end Text

/-! ## Values and types -/

open Text

theorem TimeText.visible {text : String} (time : TimeText text) : Visible text.toList := by
  intro char member
  rcases time char member with digit | mark
  · exact not_isBlank_of_isDigit digit
  · have marks : Visible ['-', '+', '.', ':', 'T', 'Z'] := by decide
    exact marks char mark

theorem visible_doubled {mark : Char} {text : List Char} (visibleMark : isBlank mark = false)
    (visible : Visible text) : Visible (doubled mark text) := by
  fun_induction doubled mark text with
  | case1 => exact visible
  | case2 tail ih =>
      have tailVisible := ih (List.forall_mem_cons.1 visible).2
      exact List.forall_mem_cons.2 ⟨visibleMark, List.forall_mem_cons.2 ⟨visibleMark, tailVisible⟩⟩
  | case3 head tail different ih =>
      rcases List.forall_mem_cons.1 visible with ⟨headVisible, tailVisible⟩
      exact List.forall_mem_cons.2 ⟨headVisible, ih tailVisible⟩

theorem Solid.quoted {text : String} (visible : Visible text.toList) :
    Solid (Text.quoted '\'' text) where
  notEmpty empty := by simpa using congrArg String.toList empty
  visible := by
    have mark : isBlank '\'' = false := by decide
    rw [toList_quoted]
    exact List.forall_mem_append.2 ⟨List.forall_mem_cons.2 ⟨mark, visible_doubled mark visible⟩,
      List.forall_mem_singleton.2 mark⟩

namespace Value

/-- No value but an empty text is written as nothing at all. -/
theorem bareText?_ne_empty {value : Value} (notEmptyText : value ≠ .text "") {bare : String}
    (bareText : value.bareText? = some bare) : bare ≠ "" := by
  cases value with
  | null => cases bareText
  | bool value =>
      rcases Option.some.inj bareText with rfl
      cases value <;> decide
  | int value =>
      rcases Option.some.inj bareText with rfl
      cases value with
      | ofNat number => exact Nat.repr_ne_empty
      | negSucc number => simp [Int.repr]
  | float value =>
      rcases Option.map_eq_some_iff.1 bareText with ⟨number, _, rfl⟩
      exact number.text_ne_empty
  | text value =>
      rcases Option.some.inj bareText with rfl
      rintro rfl
      exact notEmptyText rfl
  | instant value =>
      rcases Option.some.inj bareText with rfl
      simp [Instant.rfc3339]

theorem solid_bareText {value : Value} (solidText : ∀ text, value = .text text → Solid text)
    {bare : String} (bareText : value.bareText? = some bare) : Solid bare where
  notEmpty := by
    refine bareText?_ne_empty ?_ bareText
    rintro rfl
    exact (solidText "" rfl).notEmpty rfl
  visible := by
    rcases bareText?_cases bareText with same | time | rfl | rfl
    · exact (solidText bare same).visible
    · exact time.visible
    · decide
    · decide

/-- The operand of a default is a solid word, unless it is a text that is none. -/
theorem solid_defaultOperand {value : Value} (solidText : ∀ text, value = .text text → Solid text)
    (asLiteral : Bool) : Solid (value.defaultOperand asLiteral) := by
  unfold defaultOperand
  split
  · decide
  · next bare bareText =>
      have solidBare := solid_bareText solidText bareText
      split
      · exact Solid.quoted solidBare.visible
      · exact solidBare

end Value

/-- The name of a type that is known under its own name only. -/
def ColumnType.ownName? : ColumnType → Option String
  | .custom name => some name
  | _ => none

theorem ColumnType.solid_sql {type : ColumnType}
    (solidName : ∀ name ∈ type.ownName?, Solid name) : Solid type.sql := by
  cases type with
  | varchar length =>
      refine ⟨by simp [sql], ?_⟩
      have number : Visible length.toNat.repr.toList :=
        (numberText_natRepr length.toNat).timeText.visible
      rw [sql, String.toList_append, String.toList_append]
      exact visible_append.2 ⟨visible_append.2 ⟨by decide, number⟩, by decide⟩
  | custom name => exact solidName name rfl
  | _ => decide

/-! ## Columns -/

theorem ColumnOptions.tidy_defaultSql {options : ColumnOptions}
    (solidDefault : ∀ text ∈ options.textDefault?, Solid text) (type : ColumnType) :
    Tidy (options.defaultSql type) := by
  unfold defaultSql
  split
  · next value given =>
      have solidText : ∀ text, value = .text text → Solid text := by
        rintro text rfl
        exact solidDefault text (by simp [textDefault?, given])
      exact (Value.solid_defaultOperand solidText type.quotesDefault).trim.tidy_behind (by decide)
  · decide

theorem PlainType.trim_declaration (type : PlainType) {options : ColumnOptions}
    (solidDefault : ∀ text ∈ options.textDefault?, Solid text) :
    Trim (type.declaration options) := by
  have typeWord : Solid type.columnType.sql := by cases type <;> decide
  have unique : Tidy options.uniqueSql := by
    unfold ColumnOptions.uniqueSql
    split <;> decide
  have nullable : Tidy options.nullableSql := by
    unfold ColumnOptions.nullableSql
    split <;> decide
  exact ((typeWord.trim.append (ColumnOptions.tidy_defaultSql solidDefault _)).append
    unique).append nullable

theorem ForeignKeyOptions.tidy_sql (options : ForeignKeyOptions) : Tidy options.sql :=
  options.sql_induction Tidy.append (by decide) fun action => by cases action <;> decide

theorem trim_columnDefinition {name declaration : String} (solidName : Solid name)
    (trim : Trim declaration) : Trim (columnDefinition name declaration) := by
  rw [columnDefinition, String.append_assoc]
  exact solidName.trim.append (trim.tidy_behind (by decide))

theorem trim_foreignKeyConstraint {name : String} {path : ColumnPath}
    (solidName : Solid name) (visiblePath : Visible path.text.toList)
    (options : ForeignKeyOptions) : Trim (foreignKeyConstraint name path options) := by
  -- One half of the path may be empty, so it is taken together with the parentheses.
  have target : Solid (path.table ++ ("(" ++ path.column ++ ")")) := by
    refine ⟨by simp, ?_⟩
    simp only [ColumnPath.text, String.toList_append, visible_append] at visiblePath ⊢
    exact ⟨visiblePath.1.1, ⟨by decide, visiblePath.2⟩, by decide⟩
  have regroup (opening references : String) :
      opening ++ name ++ references ++ path.table ++ "(" ++ path.column ++ ")" ++ options.sql =
        opening ++ name ++ (references ++ (path.table ++ ("(" ++ path.column ++ ")"))) ++
          options.sql := by
    simp only [String.append_assoc]
  have opened : Trim ("FOREIGN KEY (" ++ name) :=
    Trim.append (by decide) solidName.trim.toTidy
  have constraint := (opened.append (target.trim.tidy_behind
    (by decide : spaced ") REFERENCES ".toList = _))).append options.tidy_sql
  rw [← regroup] at constraint
  exact constraint

namespace DeclaredColumn

/-- A column whose name, reference, own name of its type and text default are solid words. -/
def WordsSolid : DeclaredColumn → Prop
  | .numberedKey name | .identifierKey name | .filledTime name => Solid name
  | .plain _ name options => Solid name ∧ ∀ text ∈ options.textDefault?, Solid text
  | .reference name path type _ =>
      Solid name ∧ Solid path.text ∧ ∀ typeName ∈ type.ownName?, Solid typeName

instance : (column : DeclaredColumn) → Decidable column.WordsSolid
  | .numberedKey name | .identifierKey name | .filledTime name =>
      inferInstanceAs (Decidable (Solid name))
  | .plain _ name options =>
      inferInstanceAs (Decidable (Solid name ∧ ∀ text ∈ options.textDefault?, Solid text))
  | .reference name path type _ =>
      inferInstanceAs (Decidable (Solid name ∧ Solid path.text ∧
        ∀ typeName ∈ type.ownName?, Solid typeName))

/-- A column of solid words is written with single spaces. -/
theorem trim_part {column : DeclaredColumn} (solid : column.WordsSolid) :
    Trim column.part.text := by
  cases column with
  | numberedKey name =>
      exact trim_columnDefinition solid (by decide : Trim numberedKeyDeclaration)
  | identifierKey name =>
      exact trim_columnDefinition solid (by decide : Trim identifierKeyDeclaration)
  | filledTime name =>
      exact trim_columnDefinition solid (by decide : Trim filledTimeDeclaration)
  | plain type name options =>
      exact trim_columnDefinition solid.1 (type.trim_declaration solid.2)
  | reference name path type options =>
      rcases solid with ⟨solidName, solidPath, solidType⟩
      have definition := trim_columnDefinition solidName (ColumnType.solid_sql solidType).trim
      have constraint := trim_foreignKeyConstraint solidName solidPath.visible options
      have whole := definition.append (constraint.tidy_behind (by decide : _ = ", ".toList))
      rw [← String.append_assoc] at whole
      exact whole

end DeclaredColumn

end RankedSql
