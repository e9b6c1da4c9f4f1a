import RankedSql.Proofs.OpenSemicolon

/-!
# The guard against the engine's own tokens

The engine, SQLite, encloses tokens in four ways: texts in single marks, and names in double marks,
in backticks or in square brackets. Inside all but the last a closing mark may stand if it is
written twice. The guard's scan follows the first two ways only. To the scan, a quote mark inside a
name of the other two kinds opens a literal, and a semicolon behind the name then goes unseen
(`Guard.chained_of_quote_in_brackets`).

For the tokens assumed here, nothing else can go wrong. As long as each name in backticks or
brackets leaves the scan where it found it, outside literals, no semicolon that is code escapes the
scan, and a statement that the guard accepts is a single one
(`Guard.unsettled_before_code_semicolon`). What the engine reads in yet another way is no part of
this: a parameter with a suffix, as in `$name(...)`, is one token to it, while here a mark in the
suffix opens a token of its own.
-/

namespace RankedSql

/-- The dialect of the engine: four ways to enclose a token, and comments. -/
def Dialect.engine : Dialect := ⟨[.single, .double, .backtick, .bracket], true⟩

/-- The tokens of a statement as the engine reads them. -/
def engineTokens (sql : String) : List Token := lexFrom .engine .code sql.toList

/-- The statements that the engine reads: the tokens between semicolons in code. -/
def engineStatements (sql : String) : List (List Token) :=
  (engineTokens sql).splitOn (.code ';')

/-! ## The scan along the engine's tokens -/

theorem openSemicolonFrom?_cons_eq_none {state : QuoteState} {position : Nat} {head : Char}
    {tail : List Char} :
    Guard.openSemicolonFrom? state position (head :: tail) = none ↔
      ¬(state = .outside ∧ head = ';') ∧
        Guard.openSemicolonFrom? (state.next head) (position + head.utf8Size) tail = none := by
  rw [Guard.openSemicolonFrom?]
  split <;> simp_all

theorem scan_engine_char {head : Char} (notOpening : Dialect.engine.enclosure? head = none) :
    LexState.code.scan.next head = LexState.code.scan := by
  have opensNone := Dialect.enclosure?_eq_none_iff.1 notOpening
  exact scan_code_char (opensNone .single (by simp [Dialect.engine])).symm
    (opensNone .double (by simp [Dialect.engine])).symm

/-- Where the scan follows the lexer and finds no open semicolon, none is code, as far as the tokens
up to the first one are settled. -/
theorem code_semicolon_not_mem_lexFrom_engine {state : LexState} {text : List Char}
    {position : Nat} (known : state.Known .engine)
    (clear : Signature.commentOccurs text = false)
    (settled : ∀ token ∈ (lexFrom .engine state text).takeWhile (· != .code ';'), token.settled)
    (scanned : Guard.openSemicolonFrom? state.scan position text = none) :
    .code ';' ∉ lexFrom .engine state text := by
  -- The scan stays in step with the lexer by itself, except where a name closes: there it has to be
  -- outside literals, which is what a settled token grants.
  fun_induction lexFrom .engine state text generalizing position with
  | case1 | case2 => simp
  | case5 head tail enclosure opens ih =>
      rcases Dialect.enclosure?_eq_some_iff.1 opens with ⟨known, rfl⟩
      have stepped := (openSemicolonFrom?_cons_eq_none.1 scanned).2
      rw [scan_code_opening] at stepped
      exact ih known (commentOccurs_cons clear).2 settled stepped
  | case6 head notOpening =>
      have notOpen := (openSemicolonFrom?_cons_eq_none.1 scanned).1
      simp only [LexState.scan, true_and] at notOpen
      simpa using Ne.symm notOpen
  | case7 head notOpening next rest opens ih =>
      rcases opens with ⟨_, rfl, rfl⟩
      simp [Signature.commentOccurs, Signature.opensComment] at clear
  | case8 head notOpening next rest _ opens ih =>
      rcases opens with ⟨_, rfl, rfl⟩
      simp [Signature.commentOccurs, Signature.opensComment] at clear
  | case9 head notOpening next rest _ _ ih =>
      rcases openSemicolonFrom?_cons_eq_none.1 scanned with ⟨notOpen, stepped⟩
      simp only [LexState.scan, true_and] at notOpen
      rw [scan_engine_char notOpening] at stepped
      rw [List.takeWhile_cons_of_pos (by simpa using notOpen)] at settled
      have later :=
        ih trivial (commentOccurs_cons clear).2 (List.forall_mem_cons.1 settled).2 stepped
      simpa [Ne.symm notOpen] using later
  | case10 enclosure content => simp
  | case11 enclosure content next rest doubled ih =>
      rcases doubled with ⟨doubles, rfl⟩
      rcases openSemicolonFrom?_cons_eq_none.1 scanned with ⟨_, first⟩
      rcases openSemicolonFrom?_cons_eq_none.1 first with ⟨_, second⟩
      rw [scan_enclosed_doubled doubles] at second
      exact ih known (commentOccurs_cons (commentOccurs_cons clear).2).2 settled second
  | case12 enclosure content next rest _ ih =>
      rw [List.takeWhile_cons_of_pos (by simp)] at settled
      rcases List.forall_mem_cons.1 settled with ⟨nameSettled, restSettled⟩
      have stepped := (openSemicolonFrom?_cons_eq_none.1 scanned).2
      rw [scan_enclosed_close nameSettled] at stepped
      simpa using ih trivial (commentOccurs_cons clear).2 restSettled stepped
  | case13 enclosure content head tail inside ih =>
      have stepped := (openSemicolonFrom?_cons_eq_none.1 scanned).2
      rw [scan_enclosed_char inside] at stepped
      exact ih known (commentOccurs_cons clear).2 settled stepped
  | case3 | case4 | case14 | case15 | case16 | case17 | case18 => cases known

namespace Guard

/-- In a statement that the guard accepts, a semicolon is code to the engine only behind a name in
backticks or brackets whose quote marks are not paired. A statement without such names is a single
one to the engine. -/
theorem unsettled_before_code_semicolon {sql : String} (accepted : validate sql = .ok ()) :
    (∀ before after, engineTokens sql = before ++ .code ';' :: after →
      ∃ token ∈ before, token.settled = false) ∧
    ((∀ token ∈ engineTokens sql, token.settled) →
      .code ';' ∉ engineTokens sql ∧ engineStatements sql = [engineTokens sql]) := by
  have noSemicolon (settled : ∀ token ∈ (engineTokens sql).takeWhile (· != .code ';'),
      token.settled) : .code ';' ∉ engineTokens sql :=
    code_semicolon_not_mem_lexFrom_engine trivial (commentOccurs_of_validate accepted) settled
      (openSemicolon?_of_validate accepted)
  constructor
  · intro before after tokens
    cases pairedBefore : before.all Token.settled with
    | false => simpa using pairedBefore
    | true =>
        have absent : .code ';' ∉ engineTokens sql := by
          apply noSemicolon
          intro token member
          apply List.all_eq_true.1 pairedBefore
          rw [tokens, List.takeWhile_append] at member
          split at member
          · simpa using member
          · exact (List.takeWhile_prefix _).subset member
        simp [tokens] at absent
  · intro settled
    have absent : .code ';' ∉ engineTokens sql := by
      apply noSemicolon
      intro token member
      exact settled token ((List.takeWhile_prefix _).subset member)
    exact ⟨absent, List.splitOn_eq_singleton absent⟩

/-- Names with paired quote marks, and semicolons in names and texts, are no danger. -/
theorem single_statement_of_paired_marks :
    let sql := "SELECT [it''s], \x60a\"b\"\x60\x60c\x60 FROM \"x;'y\" WHERE z = 'it''s;'"
    validate sql = .ok () ∧ (∀ token ∈ engineTokens sql, token.settled) ∧
      .code ';' ∉ engineTokens sql ∧ engineStatements sql = [engineTokens sql] := by
  intro sql
  have accepted : validate sql = .ok () := validate_eq_ok_iff.2 (by decide +kernel)
  have settled : ∀ token ∈ engineTokens sql, token.settled := by decide +kernel
  exact ⟨accepted, settled, (unsettled_before_code_semicolon accepted).2 settled⟩

/-- A quote mark in a name hides the semicolon behind the name from the guard: the engine reads two
statements. -/
theorem chained_of_quote_in_brackets :
    let sql := "SELECT [it's]; DROP TABLE users"
    validate sql = .ok () ∧ .code ';' ∈ engineTokens sql ∧ (engineStatements sql).length = 2 := by
  intro sql
  exact ⟨validate_eq_ok_iff.2 (by decide +kernel), by decide +kernel, by decide +kernel⟩

end Guard

end RankedSql
