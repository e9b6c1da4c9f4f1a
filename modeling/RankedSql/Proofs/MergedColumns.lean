import RankedSql.Proofs.DefinitionRuns

/-!
# Merged columns

Columns that are recorded one after another are merged into those that are there. A name that is
there keeps its place and takes the facts that were declared last for it; the other names follow in
the order of their first declarations (`insertAll_eq_merged`). A table draft merges twice, once
while columns are staged and once when they are registered; that comes to merging the declarations
themselves (`insertAll_insertAll`).
-/

namespace RankedSql

section Lookup

variable {declared entries : List (String × ColumnFacts)} {name : String} {facts : ColumnFacts}

/-- The facts that are declared last for a name. -/
def lastDeclared? (declared : List (String × ColumnFacts)) (name : String) : Option ColumnFacts :=
  declared.reverse.lookup name

theorem lastDeclared?_cons (entry : String × ColumnFacts)
    (declared : List (String × ColumnFacts)) (name : String) :
    lastDeclared? (entry :: declared) name =
      (lastDeclared? declared name).or (if name = entry.1 then some entry.2 else none) := by
  rcases entry with ⟨entryName, facts⟩
  by_cases same : name = entryName <;>
    simp [lastDeclared?, List.lookup_append, List.lookup_cons, beq_eq_decide, same]

theorem isSome_lastDeclared?_iff :
    (lastDeclared? declared name).isSome ↔ name ∈ declared.map Prod.fst := by
  simp [lastDeclared?]

theorem lookup_of_mem (distinct : (entries.map Prod.fst).Nodup)
    (member : (name, facts) ∈ entries) : entries.lookup name = some facts := by
  rcases List.append_of_mem member with ⟨before, after, rfl⟩
  apply List.lookup_eq_some_iff.2
  refine ⟨before, after, rfl, ?_⟩
  intro entry earlier
  rw [List.map_append, List.nodup_append] at distinct
  simpa using Ne.symm (distinct.2.2 _ (List.mem_map_of_mem earlier) name (by simp))

/-- Among distinct names, the last declaration of a name is its only one. -/
theorem lastDeclared?_of_nodup (distinct : (entries.map Prod.fst).Nodup) (name : String) :
    lastDeclared? entries name = entries.lookup name := by
  cases found : entries.lookup name with
  | none => simpa [lastDeclared?] using found
  | some facts =>
      rcases List.lookup_eq_some_iff.1 found with ⟨before, after, rfl, _⟩
      apply lookup_of_mem
      · rw [List.map_reverse]
        exact (List.reverse_perm _).nodup_iff.2 distinct
      · simp

end Lookup

/-- Of the columns that are missing in a part of what is there, those that are missing in the whole
are missing. -/
theorem missingColumns_missingColumns {part whole : List String} (within : part ⊆ whole)
    (columns : List String) :
    missingColumns whole (missingColumns part columns) = missingColumns whole columns := by
  induction columns generalizing part whole with
  | nil => rfl
  | cons column rest ih =>
      by_cases inPart : column ∈ part
      · have inWhole := within inPart
        simp [missingColumns, inPart, inWhole, ih within]
      · have grown : part ++ [column] ⊆ whole ++ [column] := by
          intro name member
          simp only [List.mem_append] at member ⊢
          exact member.imp_left fun earlier => within earlier
        by_cases inWhole : column ∈ whole
        · have stays : part ++ [column] ⊆ whole := by
            intro name member
            rcases List.mem_append.1 member with earlier | last
            · exact within earlier
            · exact List.mem_singleton.1 last ▸ inWhole
          simp [missingColumns, inPart, inWhole, ih stays]
        · simp [missingColumns, inPart, inWhole, ih grown]

namespace Columns

/-- Records columns one after another. -/
def insertAll (columns : Columns) (declared : List (String × ColumnFacts)) : Columns :=
  declared.foldl (fun columns entry => columns.insert entry.1 entry.2) columns

/-- The columns with declarations merged in. -/
def merged (columns : Columns) (declared : List (String × ColumnFacts)) : Columns :=
  let added := ((declared.map Prod.fst).filter fun name => !columns.names.contains name).eraseDups
  ⟨(columns.entries.map fun entry => (entry.1, (lastDeclared? declared entry.1).getD entry.2)) ++
    added.filterMap fun name => (lastDeclared? declared name).map (name, ·)⟩

variable {columns : Columns} {declared : List (String × ColumnFacts)}

theorem insertAll_append (columns : Columns) (first second : List (String × ColumnFacts)) :
    columns.insertAll (first ++ second) = (columns.insertAll first).insertAll second :=
  List.foldl_append

theorem isSome_get?_iff {name : String} : (columns.get? name).isSome ↔ name ∈ columns.names := by
  simp [get?, names]

theorem get?_insertAll (columns : Columns) (declared : List (String × ColumnFacts))
    (name : String) :
    (columns.insertAll declared).get? name =
      (lastDeclared? declared name).or (columns.get? name) := by
  induction declared generalizing columns with
  | nil => rfl
  | cons entry rest ih =>
      have step : columns.insertAll (entry :: rest) =
          (columns.insert entry.1 entry.2).insertAll rest := rfl
      rw [step, ih, get?_insert, lastDeclared?_cons, Option.or_assoc]
      split <;> rfl

theorem names_insertAll (columns : Columns) (declared : List (String × ColumnFacts)) :
    (columns.insertAll declared).names =
      columns.names ++ missingColumns columns.names (declared.map Prod.fst) := by
  induction declared generalizing columns with
  | nil => exact (List.append_nil _).symm
  | cons entry rest ih =>
      have step : columns.insertAll (entry :: rest) =
          (columns.insert entry.1 entry.2).insertAll rest := rfl
      rw [step, ih, names_insert]
      by_cases present : entry.1 ∈ columns.names
      · simp [missingColumns, present]
      · simp [missingColumns, present]

theorem nodup_names_insertAll (distinct : columns.names.Nodup)
    (declared : List (String × ColumnFacts)) : (columns.insertAll declared).names.Nodup := by
  induction declared generalizing columns with
  | nil => exact distinct
  | cons entry rest ih => exact ih (nodup_names_insert distinct entry.1 entry.2)

/-- Columns with distinct names are given by their names and what is found under each. -/
theorem entries_eq (distinct : columns.names.Nodup) :
    columns.entries = columns.names.filterMap fun name => (columns.get? name).map (name, ·) := by
  rw [names, List.filterMap_map]
  have found : ∀ entry ∈ columns.entries,
      ((fun name => (columns.get? name).map (name, ·)) ∘ Prod.fst) entry = some entry := by
    intro entry member
    simp [get?, lookup_of_mem distinct member]
  rw [List.filterMap_congr found, List.filterMap_some]

/-- Recording columns one after another merges them. -/
theorem insertAll_eq_merged (distinct : columns.names.Nodup)
    (declared : List (String × ColumnFacts)) :
    columns.insertAll declared = columns.merged declared := by
  have added_eq := missingColumns_eq columns.names (declared.map Prod.fst)
  have kept : (columns.names.filterMap fun name =>
      ((columns.insertAll declared).get? name).map (name, ·)) =
      columns.entries.map fun entry =>
        (entry.1, (lastDeclared? declared entry.1).getD entry.2) := by
    rw [names, List.filterMap_map, ← List.filterMap_eq_map]
    apply List.filterMap_congr
    intro entry member
    have recorded : columns.get? entry.1 = some entry.2 := lookup_of_mem distinct member
    cases last : lastDeclared? declared entry.1 <;> simp [get?_insertAll, recorded, last]
  have appended : ((missingColumns columns.names (declared.map Prod.fst)).filterMap fun name =>
      ((columns.insertAll declared).get? name).map (name, ·)) =
      (missingColumns columns.names (declared.map Prod.fst)).filterMap fun name =>
        (lastDeclared? declared name).map (name, ·) := by
    apply List.filterMap_congr
    intro name member
    rw [added_eq, List.mem_eraseDups, List.mem_filter] at member
    have absent : columns.get? name = none := by
      rw [← Option.not_isSome_iff_eq_none, isSome_get?_iff]
      simpa using member.2
    rw [get?_insertAll, absent, Option.or_none]
  have entries : (columns.insertAll declared).entries = (columns.merged declared).entries := by
    rw [entries_eq (nodup_names_insertAll distinct declared), names_insertAll,
      List.filterMap_append, kept, appended, added_eq]
    rfl
  exact congrArg Columns.mk entries

example :
    let text := ColumnFacts.ofType .text
    let key := ColumnFacts.filledKey .integer
    merged ⟨[("id", text), ("body", text)]⟩ [("author", text), ("id", key), ("author", key)] =
      ⟨[("id", key), ("body", text), ("author", key)]⟩ := by
  decide

/-- Recording what was recorded elsewhere first is the same as recording it directly. -/
theorem insertAll_insertAll (distinct : columns.names.Nodup)
    (declared : List (String × ColumnFacts)) :
    columns.insertAll (empty.insertAll declared).entries = columns.insertAll declared := by
  have stagedDistinct : (empty.insertAll declared).names.Nodup := by
    apply nodup_names_insertAll
    simp
  have sameNames : (columns.insertAll (empty.insertAll declared).entries).names =
      (columns.insertAll declared).names := by
    have staged : (empty.insertAll declared).entries.map Prod.fst =
        missingColumns [] (declared.map Prod.fst) := names_insertAll empty declared
    rw [names_insertAll, names_insertAll, staged,
      missingColumns_missingColumns (List.nil_subset _)]
  have sameFacts (name : String) :
      (columns.insertAll (empty.insertAll declared).entries).get? name =
        (columns.insertAll declared).get? name := by
    have staged : (empty.insertAll declared).entries.lookup name = lastDeclared? declared name :=
      (get?_insertAll empty declared name).trans (Option.or_none)
    rw [get?_insertAll, get?_insertAll, lastDeclared?_of_nodup stagedDistinct, staged]
  have entries : (columns.insertAll (empty.insertAll declared).entries).entries =
      (columns.insertAll declared).entries := by
    rw [entries_eq (nodup_names_insertAll distinct _),
      entries_eq (nodup_names_insertAll distinct _), sameNames]
    simp only [sameFacts]
  exact congrArg Columns.mk entries

end Columns

end RankedSql
