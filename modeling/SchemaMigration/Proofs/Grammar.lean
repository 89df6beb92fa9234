import SchemaMigration.Name

/-!
# How names are written

A simple name is an ASCII letter, and then ASCII letters, digits and underscores. A table is named
by one of them, or by two with a dot between. Writing a name undoes reading it, and what cannot be
read is refused for its first part that is at fault.
-/

namespace SchemaMigration

/-! ## The grammar -/

def IsLetter (c : Char) : Prop := ('A' ≤ c ∧ c ≤ 'Z') ∨ ('a' ≤ c ∧ c ≤ 'z')

def IsDigit (c : Char) : Prop := '0' ≤ c ∧ c ≤ '9'

/-- A letter, and then letters, digits and underscores. -/
def IsSimple (s : String) : Prop :=
  ∃ first rest, s.toList = first :: rest ∧ IsLetter first ∧
    ∀ c ∈ rest, IsLetter c ∨ IsDigit c ∨ c = '_'

/-- A simple name, or two with a dot between them. -/
def IsQualified (s : String) : Prop :=
  IsSimple s ∨ ∃ schema table, s = schema ++ "." ++ table ∧ IsSimple schema ∧ IsSimple table

/-- Why a text is no name for this use: it has too many parts, or one that is no simple name. -/
inductive NameUse.Rejects (use : NameUse) : String → ConfigError → Prop
  | parts (a b c : String) :
      use.Rejects (a ++ "." ++ b ++ "." ++ c) (use.tooManyParts (a ++ "." ++ b ++ "." ++ c))
  | alone {table : String} (hdot : '.' ∉ table.toList) (h : ¬ IsSimple table) :
      use.Rejects table (.invalidIdentifier use.tableRole table)
  | schema {schema table : String} (hschema : '.' ∉ schema.toList) (htable : '.' ∉ table.toList)
      (h : ¬ IsSimple schema) :
      use.Rejects (schema ++ "." ++ table) (.invalidIdentifier use.schemaRole schema)
  /-- The table is at fault only if the schema is not. -/
  | table {schema table : String} (htable : '.' ∉ table.toList) (hschema : IsSimple schema)
      (h : ¬ IsSimple table) :
      use.Rejects (schema ++ "." ++ table) (.invalidIdentifier use.tableRole table)

/-! ## Simple names -/

theorem isAlpha_iff (c : Char) : c.isAlpha = true ↔ IsLetter c := by
  change (decide ('A' ≤ c ∧ c ≤ 'Z') || decide ('a' ≤ c) && decide (c ≤ 'z')) = true ↔ _
  simp only [Bool.or_eq_true, Bool.and_eq_true, decide_eq_true_eq, IsLetter]

theorem isNameChar_iff (c : Char) : isNameChar c = true ↔ IsLetter c ∨ IsDigit c ∨ c = '_' := by
  have hdigit : c.isDigit = true ↔ IsDigit c := by
    change (decide ('0' ≤ c) && decide (c ≤ '9')) = true ↔ _
    simp only [Bool.and_eq_true, decide_eq_true_eq, IsDigit]
  simp only [isNameChar, Char.isAlphanum, Bool.or_eq_true, isAlpha_iff, hdigit, decide_eq_true_eq,
    or_assoc]

theorem isSimpleName_iff (s : String) : isSimpleName s.toList = true ↔ IsSimple s := by
  unfold IsSimple
  cases s.toList with
  | nil => simp [isSimpleName]
  | cons first rest =>
    simp only [isSimpleName, Bool.and_eq_true, List.all_eq_true, isAlpha_iff, isNameChar_iff]
    constructor
    · exact fun h => ⟨first, rest, rfl, h⟩
    · rintro ⟨_, _, ⟨⟩, h⟩
      exact h

theorem Identifier.isSimple (i : Identifier) : IsSimple i.text :=
  (isSimpleName_iff i.text).1 i.simple

theorem IsSimple.exists_identifier {s : String} (h : IsSimple s) : ∃ i : Identifier, i.text = s :=
  ⟨⟨s, (isSimpleName_iff s).2 h⟩, rfl⟩

theorem IsSimple.no_dot {s : String} (h : IsSimple s) : '.' ∉ s.toList := by
  have hdot : isNameChar '.' = false := rfl
  obtain ⟨first, rest, heq, hfirst, hrest⟩ := h
  rw [heq, List.mem_cons, not_or]
  constructor
  · rintro rfl
    have hname := (isNameChar_iff '.').2 (.inl hfirst)
    rw [hdot] at hname
    cases hname
  · intro hmem
    have hname := (isNameChar_iff '.').2 (hrest '.' hmem)
    rw [hdot] at hname
    cases hname

theorem Identifier.parse_of_not_isSimple {value : String} (h : ¬ IsSimple value) (role : Role) :
    parse value role = .error (.invalidIdentifier role value) := by
  unfold parse
  rw [dif_neg (mt (isSimpleName_iff value).1 h)]

/-! ## Texts by their dots -/

theorem toList_append_dot (a b : String) :
    (a ++ "." ++ b).toList = a.toList ++ '.' :: b.toList := by
  simp

theorem not_dot {l : List Char} (h : '.' ∉ l) : ∀ c ∈ l, decide (c = '.') = false := by
  intro c hc
  have hne : c ≠ '.' := by
    rintro rfl
    exact h hc
  exact decide_eq_false hne

theorem dots_cases (s : String) :
    '.' ∉ s.toList ∨
      (∃ a b, s = a ++ "." ++ b ∧ '.' ∉ a.toList ∧ '.' ∉ b.toList) ∨
      ∃ a b c, s = a ++ "." ++ b ++ "." ++ c := by
  by_cases hdot : '.' ∈ s.toList
  · right
    obtain ⟨l, l', hs, hl⟩ := List.eq_append_cons_of_mem hdot
    by_cases hdot' : '.' ∈ l'
    · right
      obtain ⟨m, m', rfl, -⟩ := List.eq_append_cons_of_mem hdot'
      refine ⟨String.ofList l, String.ofList m, String.ofList m', ?_⟩
      rw [← String.toList_inj]
      simp [hs]
    · left
      refine ⟨String.ofList l, String.ofList l', ?_, by simpa using hl, by simpa using hdot'⟩
      rw [← String.toList_inj]
      simp [hs]
  · exact Or.inl hdot

namespace QualifiedName

variable {use : NameUse} {value : String} {e : ConfigError} {name : QualifiedName}

theorem parse_of_no_dot (h : '.' ∉ value.toList) :
    parse use value = (Identifier.parse value use.tableRole).map (⟨none, ·⟩) := by
  have hpieces : pieces (· = '.') value.toList = [value.toList] :=
    pieces_of_not_separator (not_dot h)
  unfold parse
  rw [hpieces]
  dsimp only
  rw [String.ofList_toList]
  cases Identifier.parse value use.tableRole <;> rfl

theorem parse_of_dot {schema table : String} (hschema : '.' ∉ schema.toList)
    (htable : '.' ∉ table.toList) :
    parse use (schema ++ "." ++ table) =
      (Identifier.parse schema use.schemaRole).bind fun schema =>
        (Identifier.parse table use.tableRole).map (⟨some schema, ·⟩) := by
  have hpieces : pieces (· = '.') (schema ++ "." ++ table).toList =
      [schema.toList, table.toList] := by
    rw [toList_append_dot, pieces_append_separator _ (not_dot hschema) rfl,
      pieces_of_not_separator (not_dot htable)]
  unfold parse
  rw [hpieces]
  dsimp only
  rw [String.ofList_toList, String.ofList_toList]
  cases Identifier.parse schema use.schemaRole with
  | error e => rfl
  | ok i => cases Identifier.parse table use.tableRole <;> rfl

theorem parse_of_dots (a b c : String) :
    parse use (a ++ "." ++ b ++ "." ++ c) =
      .error (use.tooManyParts (a ++ "." ++ b ++ "." ++ c)) := by
  have hpieces : pieces (· = '.') (a ++ "." ++ b ++ "." ++ c).toList =
      pieces (· = '.') a.toList ++ (pieces (· = '.') b.toList ++ pieces (· = '.') c.toList) := by
    rw [toList_append_dot, toList_append_dot, List.append_assoc, List.cons_append,
      pieces_append_cons _ _ rfl, pieces_append_cons _ _ rfl]
  obtain ⟨p, ps, ha⟩ := List.exists_cons_of_ne_nil (pieces_ne_nil (· = '.') a.toList)
  obtain ⟨q, qs, hb⟩ := List.exists_cons_of_ne_nil (pieces_ne_nil (· = '.') b.toList)
  obtain ⟨r, rs, hc⟩ := List.exists_cons_of_ne_nil (pieces_ne_nil (· = '.') c.toList)
  unfold parse
  rw [hpieces, ha, hb, hc]
  -- There are too many pieces for the first two cases.
  split
  · rename_i heq
    simp at heq
  · rename_i heq
    have hlength := congrArg List.length heq
    simp at hlength
    omega
  · rfl

/-! ## Reading and writing -/

theorem text_isQualified (name : QualifiedName) : IsQualified name.text := by
  unfold text
  split
  · exact Or.inl name.table.isSimple
  · rename_i schema _
    exact Or.inr ⟨_, _, rfl, schema.isSimple, name.table.isSimple⟩

theorem parse_text (name : QualifiedName) : parse use name.text = .ok name := by
  obtain ⟨schema, table⟩ := name
  cases schema with
  | none =>
    rw [text, parse_of_no_dot table.isSimple.no_dot, Identifier.parse_text]
    rfl
  | some schema =>
    rw [text, parse_of_dot schema.isSimple.no_dot table.isSimple.no_dot, Identifier.parse_text,
      Identifier.parse_text]
    rfl

theorem parse_cases (use : NameUse) (value : String) :
    (∃ name : QualifiedName, name.text = value ∧ parse use value = .ok name) ∨
      ∃ e, use.Rejects value e ∧ parse use value = .error e := by
  rcases dots_cases value with hdot | ⟨schema, table, rfl, hschema, htable⟩ | ⟨a, b, c, rfl⟩
  · rw [parse_of_no_dot hdot]
    by_cases h : IsSimple value
    · obtain ⟨i, rfl⟩ := h.exists_identifier
      rw [Identifier.parse_text]
      exact Or.inl ⟨⟨none, i⟩, rfl, rfl⟩
    · rw [Identifier.parse_of_not_isSimple h]
      exact Or.inr ⟨_, .alone hdot h, rfl⟩
  · rw [parse_of_dot hschema htable]
    by_cases hs : IsSimple schema
    · obtain ⟨i, rfl⟩ := hs.exists_identifier
      rw [Identifier.parse_text]
      by_cases ht : IsSimple table
      · obtain ⟨j, rfl⟩ := ht.exists_identifier
        rw [Identifier.parse_text]
        exact Or.inl ⟨⟨some i, j⟩, rfl, rfl⟩
      · rw [Identifier.parse_of_not_isSimple ht]
        exact Or.inr ⟨_, .table htable hs ht, rfl⟩
    · rw [Identifier.parse_of_not_isSimple hs]
      exact Or.inr ⟨_, .schema hschema htable hs, rfl⟩
  · exact Or.inr ⟨_, .parts a b c, parse_of_dots a b c⟩

theorem parse_eq_ok_iff : parse use value = .ok name ↔ name.text = value := by
  constructor
  · intro h
    rcases parse_cases use value with ⟨name', htext, h'⟩ | ⟨e, -, h'⟩
    · cases h'.symm.trans h
      exact htext
    · cases h'.symm.trans h
  · rintro rfl
    exact parse_text name

theorem parse_eq_error_iff : parse use value = .error e ↔ use.Rejects value e := by
  constructor
  · intro h
    rcases parse_cases use value with ⟨name, -, h'⟩ | ⟨e', hrejects, h'⟩
    · cases h'.symm.trans h
    · cases h'.symm.trans h
      exact hrejects
  · intro h
    cases h with
    | parts a b c => exact parse_of_dots a b c
    | alone hdot h =>
      rw [parse_of_no_dot hdot, Identifier.parse_of_not_isSimple h]
      rfl
    | schema hschema htable h =>
      rw [parse_of_dot hschema htable, Identifier.parse_of_not_isSimple h]
      rfl
    | table htable hschema h =>
      obtain ⟨i, rfl⟩ := hschema.exists_identifier
      rw [parse_of_dot hschema.no_dot htable, Identifier.parse_text,
        Identifier.parse_of_not_isSimple h]
      rfl

theorem exists_text_iff : (∃ name : QualifiedName, name.text = value) ↔ IsQualified value := by
  constructor
  · rintro ⟨name, rfl⟩
    exact name.text_isQualified
  · rintro (h | ⟨schema, table, rfl, hschema, htable⟩)
    · obtain ⟨i, rfl⟩ := h.exists_identifier
      exact ⟨⟨none, i⟩, rfl⟩
    · obtain ⟨i, rfl⟩ := hschema.exists_identifier
      obtain ⟨j, rfl⟩ := htable.exists_identifier
      exact ⟨⟨some i, j⟩, rfl⟩

theorem text_injective : Function.Injective QualifiedName.text := by
  intro name name' htext
  have hparse : TrackingTable.parse name.text = .ok name' := parse_eq_ok_iff.2 htext.symm
  exact Except.ok.inj (name.parse_text.symm.trans hparse)

theorem exists_parse_iff : (∃ name, parse use value = .ok name) ↔ IsQualified value := by
  simp only [parse_eq_ok_iff, exists_text_iff]

end QualifiedName

/-! ## The two uses -/

namespace NameUse

def tracking : NameUse := ⟨.trackingSchema, .trackingTable, .invalidTrackingTable⟩

def argument : NameUse := ⟨.schema, .table, .invalidTableName⟩

end NameUse

/--
A tracking table and a table argument are read from the same texts, to the same names, and a name is
written as the one text that it is read from. They differ in what they call the part at fault.
-/
theorem names_read_as_written :
    (∀ value : String,
      ((∃ name, TrackingTable.parse value = .ok name) ↔ IsQualified value) ∧
      ((∃ name, parseTableArgument value = .ok name) ↔ IsQualified value)) ∧
    (∀ (value : String) (name : QualifiedName),
      (TrackingTable.parse value = .ok name ↔ name.text = value) ∧
      (parseTableArgument value = .ok name ↔ name.text = value)) ∧
    (∀ name : QualifiedName,
      TrackingTable.parse name.text = .ok name ∧ parseTableArgument name.text = .ok name) ∧
    Function.Injective QualifiedName.text ∧
    ∀ (value : String) (e : ConfigError),
      (TrackingTable.parse value = .error e ↔ NameUse.tracking.Rejects value e) ∧
      (parseTableArgument value = .error e ↔ NameUse.argument.Rejects value e) := by
  refine ⟨fun value => ⟨?_, ?_⟩, fun value name => ⟨?_, ?_⟩, fun name => ⟨?_, ?_⟩,
    QualifiedName.text_injective, fun value e => ⟨?_, ?_⟩⟩
  · exact QualifiedName.exists_parse_iff
  · exact QualifiedName.exists_parse_iff
  · exact QualifiedName.parse_eq_ok_iff
  · exact QualifiedName.parse_eq_ok_iff
  · exact name.parse_text
  · exact name.parse_text
  · exact QualifiedName.parse_eq_error_iff
  · exact QualifiedName.parse_eq_error_iff

end SchemaMigration
