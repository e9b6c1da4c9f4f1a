import RankedSql.Guard.QuoteScan
import RankedSql.Text.Quoted

/-!
# Lexing statements

A reference lexer for statements. A dialect says which tokens are enclosed in marks, such as quoted
literals, and whether there are comments. All else is code, one token for each character. A token
that is not closed extends to the end of the text.

The content of an enclosed token is decoded while it is read: where a closing mark may stand inside,
written twice, the character after a mark decides whether it closes the token. Nothing is lost by
this, since the tokens spell the text that they were read from (`flatMap_source_lexFrom`).
-/

namespace RankedSql

/-- The ways in which a token is enclosed. -/
inductive Enclosure where
  | single
  | double
  | backtick
  | bracket
  deriving DecidableEq

namespace Enclosure

/-- The mark that a token of this kind starts with. -/
def opening : Enclosure → Char
  | .single => '\''
  | .double => '"'
  | .backtick => '\x60'
  | .bracket => '['

/-- The mark that a token of this kind ends with. -/
def closing : Enclosure → Char
  | .bracket => ']'
  | enclosure => enclosure.opening

/-- Whether the closing mark may stand inside, written twice. -/
def doubles : Enclosure → Bool
  | .bracket => false
  | _ => true

/-- The body of an enclosed token as it is written. -/
def body (enclosure : Enclosure) (content : List Char) : List Char :=
  if enclosure.doubles then Text.doubled enclosure.closing content else content

variable {enclosure other : Enclosure}

theorem eq_of_opening_eq (same : enclosure.opening = other.opening) : enclosure = other := by
  cases enclosure <;> cases other <;> first | rfl | exact absurd same (by decide)

theorem closing_eq_opening (doubles : enclosure.doubles = true) :
    enclosure.closing = enclosure.opening := by
  cases enclosure with
  | bracket => cases doubles
  | _ => rfl

@[simp]
theorem body_nil : enclosure.body [] = [] := by
  cases enclosure <;> rfl

theorem body_append (left right : List Char) :
    enclosure.body (left ++ right) = enclosure.body left ++ enclosure.body right := by
  cases enclosure <;> simp [body, doubles, Text.doubled_append]

theorem body_char {char : Char} (inside : char ≠ enclosure.closing) :
    enclosure.body [char] = [char] := by
  cases enclosure <;> simp [body, doubles, Text.doubled, inside]

theorem body_doubled (doubles : enclosure.doubles = true) :
    enclosure.body [enclosure.closing] = [enclosure.closing, enclosure.closing] := by
  simp [body, doubles, Text.doubled]

end Enclosure

/-- What a lexer knows: the ways in which tokens are enclosed, and whether there are comments. -/
structure Dialect where
  enclosures : List Enclosure
  comments : Bool

namespace Dialect

/-- The dialect of single- and double-quoted literals, with or without comments. -/
def literals (comments : Bool) : Dialect := ⟨[.single, .double], comments⟩

/-- The enclosure that a character opens. -/
def enclosure? (dialect : Dialect) (char : Char) : Option Enclosure :=
  dialect.enclosures.find? fun enclosure => enclosure.opening == char

variable {dialect : Dialect} {char : Char}

theorem enclosure?_eq_some_iff {enclosure : Enclosure} :
    dialect.enclosure? char = some enclosure ↔
      enclosure ∈ dialect.enclosures ∧ enclosure.opening = char := by
  constructor
  · intro found
    exact ⟨List.mem_of_find?_eq_some found, by simpa using List.find?_some found⟩
  · rintro ⟨known, rfl⟩
    cases found : dialect.enclosure? enclosure.opening with
    | none => simpa using List.find?_eq_none.1 found enclosure known
    | some other =>
        have same : other.opening = enclosure.opening := by simpa using List.find?_some found
        rw [Enclosure.eq_of_opening_eq same]

theorem enclosure?_eq_none_iff :
    dialect.enclosure? char = none ↔
      ∀ enclosure ∈ dialect.enclosures, enclosure.opening ≠ char := by
  simp [enclosure?]

theorem enclosure?_opening {enclosure : Enclosure} (known : enclosure ∈ dialect.enclosures) :
    dialect.enclosure? enclosure.opening = some enclosure :=
  enclosure?_eq_some_iff.2 ⟨known, rfl⟩

theorem enclosure?_literals_eq_none_iff {comments : Bool} :
    (literals comments).enclosure? char = none ↔ char ≠ '\'' ∧ char ≠ '"' := by
  rw [enclosure?_eq_none_iff]
  simp [literals, Enclosure.opening, eq_comm]

theorem doubles_of_mem_literals {comments : Bool} {enclosure : Enclosure}
    (known : enclosure ∈ (literals comments).enclosures) : enclosure.doubles = true := by
  cases enclosure with
  | bracket => simp [literals] at known
  | _ => rfl

end Dialect

/-- A token of a statement: a character of its code, an enclosed token with its decoded content, or
a comment as it is written. -/
inductive Token where
  | code (char : Char)
  | enclosed (enclosure : Enclosure) (content : List Char) (closed : Bool)
  | comment (text : List Char)
  deriving DecidableEq

namespace Token

/-- The text of a token as it is written. -/
def source : Token → List Char
  | .code char => [char]
  | .enclosed enclosure content closed =>
      enclosure.opening :: enclosure.body content ++ if closed then [enclosure.closing] else []
  | .comment text => text

/-- Whether a token is no enclosed one that runs into the end of the text. -/
def isComplete : Token → Bool
  | .enclosed _ _ closed => closed
  | _ => true

/-- What an enclosed token stands for. -/
def content? : Token → Option String
  | .enclosed _ content _ => some (String.ofList content)
  | _ => none

/-- The same token with nothing enclosed. -/
def hollow : Token → Token
  | .enclosed enclosure _ closed => .enclosed enclosure [] closed
  | token => token

end Token

/-- Where the lexer stands, with what it has read of the token it is in. -/
inductive LexState where
  | code
  | enclosed (enclosure : Enclosure) (content : List Char)
  | lineComment (text : List Char)
  | blockComment (text : List Char)

namespace LexState

/-- The text that was read of the token that the lexer is in. -/
def pending : LexState → List Char
  | .code => []
  | .enclosed enclosure content => enclosure.opening :: enclosure.body content
  | .lineComment text | .blockComment text => text

/-- The states outside comments that a lexer of a dialect comes to. -/
def Known (dialect : Dialect) : LexState → Prop
  | .code => True
  | .enclosed enclosure _ => enclosure ∈ dialect.enclosures
  | .lineComment _ | .blockComment _ => False

end LexState

/-- The tokens of a text, for a lexer that stands in a given state. -/
def lexFrom (dialect : Dialect) : LexState → List Char → List Token
  | .code, [] => []
  | .enclosed enclosure content, [] => [.enclosed enclosure content false]
  | .lineComment text, [] => [.comment text]
  | .blockComment text, [] => [.comment text]
  | .code, head :: tail =>
      match dialect.enclosure? head with
      | some enclosure => lexFrom dialect (.enclosed enclosure []) tail
      | none =>
          match tail with
          | [] => [.code head]
          | next :: rest =>
              if dialect.comments = true ∧ head = '-' ∧ next = '-' then
                lexFrom dialect (.lineComment ['-', '-']) rest
              else if dialect.comments = true ∧ head = '/' ∧ next = '*' then
                lexFrom dialect (.blockComment ['/', '*']) rest
              else .code head :: lexFrom dialect .code (next :: rest)
  | .enclosed enclosure content, head :: tail =>
      if head = enclosure.closing then
        match tail with
        | [] => [.enclosed enclosure content true]
        | next :: rest =>
            if enclosure.doubles = true ∧ next = enclosure.closing then
              lexFrom dialect (.enclosed enclosure (content ++ [next])) rest
            else .enclosed enclosure content true :: lexFrom dialect .code (next :: rest)
      else lexFrom dialect (.enclosed enclosure (content ++ [head])) tail
  | .lineComment text, head :: tail =>
      if head = '\n' then .comment text :: .code head :: lexFrom dialect .code tail
      else lexFrom dialect (.lineComment (text ++ [head])) tail
  | .blockComment text, head :: tail =>
      match tail with
      | [] => [.comment (text ++ [head])]
      | next :: rest =>
          if head = '*' ∧ next = '/' then
            .comment (text ++ [head, next]) :: lexFrom dialect .code rest
          else lexFrom dialect (.blockComment (text ++ [head])) (next :: rest)

/-- The tokens of a statement in which comments are code. -/
def lex (sql : String) : List Token := lexFrom (.literals false) .code sql.toList

/-- The tokens of a statement, comments among them. -/
def lexWithComments (sql : String) : List Token := lexFrom (.literals true) .code sql.toList

/-- The tokens spell the text that they were read from. -/
theorem flatMap_source_lexFrom (dialect : Dialect) (state : LexState) (text : List Char) :
    (lexFrom dialect state text).flatMap Token.source = state.pending ++ text := by
  fun_induction lexFrom dialect state text with
  | case5 head tail enclosure opens ih =>
      simp [ih, LexState.pending, (Dialect.enclosure?_eq_some_iff.1 opens).2]
  | case11 enclosure content next rest doubled ih =>
      rcases doubled with ⟨doubles, rfl⟩
      simp [ih, LexState.pending, Enclosure.body_append, Enclosure.body_doubled doubles]
  | case13 enclosure content head tail inside ih =>
      simp [ih, LexState.pending, Enclosure.body_append, Enclosure.body_char inside]
  | _ => simp_all [LexState.pending, Token.source]

/-! ## Single steps -/

section Steps

variable {dialect : Dialect} {enclosure : Enclosure} {content tail : List Char} {head : Char}

theorem lexFrom_code_opening (opens : dialect.enclosure? head = some enclosure) :
    lexFrom dialect .code (head :: tail) = lexFrom dialect (.enclosed enclosure []) tail := by
  rw [lexFrom.eq_def]
  simp [opens]

theorem lexFrom_code_char (noComments : dialect.comments = false)
    (notOpening : dialect.enclosure? head = none) :
    lexFrom dialect .code (head :: tail) = .code head :: lexFrom dialect .code tail := by
  cases tail <;> simp [lexFrom, notOpening, noComments]

theorem lexFrom_enclosed_char (inside : head ≠ enclosure.closing) :
    lexFrom dialect (.enclosed enclosure content) (head :: tail) =
      lexFrom dialect (.enclosed enclosure (content ++ [head])) tail := by
  rw [lexFrom.eq_def]
  simp [inside]

theorem lexFrom_enclosed_doubled (doubles : enclosure.doubles = true) :
    lexFrom dialect (.enclosed enclosure content) (enclosure.closing :: enclosure.closing :: tail) =
      lexFrom dialect (.enclosed enclosure (content ++ [enclosure.closing])) tail := by
  simp [lexFrom, doubles]

theorem lexFrom_enclosed_close
    (closes : ∀ next ∈ tail.head?, ¬(enclosure.doubles = true ∧ next = enclosure.closing)) :
    lexFrom dialect (.enclosed enclosure content) (enclosure.closing :: tail) =
      .enclosed enclosure content true :: lexFrom dialect .code tail := by
  cases tail with
  | nil => simp [lexFrom]
  | cons next rest => simp [lexFrom, closes next rfl]

end Steps

/-! ## Composition -/

/-- A text whose tokens are all complete is lexed on its own when no mark follows it. -/
theorem lexFrom_append {dialect : Dialect} (noComments : dialect.comments = false)
    {state : LexState} {text rest : List Char} (known : state.Known dialect)
    (complete : ∀ token ∈ lexFrom dialect state text, token.isComplete = true)
    (codeFollows : ∀ next ∈ rest.head?, dialect.enclosure? next = none) :
    lexFrom dialect state (text ++ rest) =
      lexFrom dialect state text ++ lexFrom dialect .code rest := by
  fun_induction lexFrom dialect state text with
  | case1 => rfl
  | case2 => simp [Token.isComplete] at complete
  | case5 head tail enclosure opens ih =>
      rw [List.cons_append, lexFrom_code_opening opens]
      exact ih (Dialect.enclosure?_eq_some_iff.1 opens).1 complete
  | case6 head notOpening => exact lexFrom_code_char noComments notOpening
  | case7 | case8 => simp_all
  | case9 head notOpening next tail _ _ ih =>
      rw [List.cons_append, lexFrom_code_char noComments notOpening, List.cons_append]
      exact congrArg _ (ih trivial (List.forall_mem_cons.1 complete).2)
  | case10 enclosure content =>
      refine lexFrom_enclosed_close fun next follows => ?_
      rintro ⟨doubles, rfl⟩
      have notOpening := codeFollows _ follows
      rw [Enclosure.closing_eq_opening doubles, Dialect.enclosure?_opening known] at notOpening
      cases notOpening
  | case11 enclosure content next tail doubled ih =>
      rcases doubled with ⟨doubles, rfl⟩
      rw [List.cons_append, List.cons_append, lexFrom_enclosed_doubled doubles]
      exact ih known complete
  | case12 enclosure content next tail different ih =>
      rw [List.cons_append, lexFrom_enclosed_close (by simpa using different), List.cons_append]
      exact congrArg _ (ih trivial (List.forall_mem_cons.1 complete).2)
  | case13 enclosure content head tail inside ih =>
      rw [List.cons_append, lexFrom_enclosed_char inside]
      exact ih known complete
  | case3 | case4 | case14 | case15 | case16 | case17 | case18 => cases known

/-- The body of an enclosed token is decoded to the text that was written. -/
theorem lexFrom_doubled {dialect : Dialect} {enclosure : Enclosure} {content tail text : List Char}
    (doubles : enclosure.doubles = true) (closes : ∀ next ∈ tail.head?, next ≠ enclosure.closing) :
    lexFrom dialect (.enclosed enclosure content)
        (Text.doubled enclosure.closing text ++ enclosure.closing :: tail) =
      .enclosed enclosure (content ++ text) true :: lexFrom dialect .code tail := by
  induction text generalizing content with
  | nil =>
      simpa [Text.doubled] using
        lexFrom_enclosed_close fun next follows same => closes next follows same.2
  | cons head text ih =>
      by_cases isMark : head = enclosure.closing
      · simpa [Text.doubled, isMark, lexFrom_enclosed_doubled doubles] using
          @ih (content ++ [enclosure.closing])
      · simpa [Text.doubled, isMark, lexFrom_enclosed_char isMark] using
          @ih (content ++ [head])

end RankedSql
