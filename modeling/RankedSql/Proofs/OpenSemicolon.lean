import RankedSql.Error
import RankedSql.Proofs.Lexer

/-!
# The guard against the lexer

The guard looks for an open semicolon with two flags and no lookahead. This file shows that it finds
the first semicolon that the reference lexer counts as code, at the same byte: a doubled mark closes
a literal and opens it again, with no character between the two.

The scan knows no comments, and a mark inside a comment would throw it off. What protects the guard
is that a text with an opening of a comment anywhere, also inside a literal, is refused as suspect.
In the texts that remain, the scan agrees with a lexer that knows comments as well.
-/

namespace RankedSql

/-- The state of the guard's scan where the lexer stands. Inside a token that is no literal to the
scan, it is what the content of the token has led to. -/
def LexState.scan : LexState → QuoteState
  | .enclosed .single _ => .inSingle
  | .enclosed .double _ => .inDouble
  | .enclosed _ content => QuoteState.outside.after content
  | _ => .outside

/-- Whether a token leaves the guard's scan outside literals: a name in backticks or brackets does
so if its quote marks, read as the scan reads them, come in pairs. -/
def Token.settled : Token → Bool
  | .enclosed .backtick content true | .enclosed .bracket content true =>
      QuoteState.outside.after content == .outside
  | _ => true

/-- The byte at which the first semicolon in code stands, for tokens that start at a given byte. -/
def codeSemicolonFrom? (position : Nat) : List Token → Option Nat
  | [] => none
  | token :: rest =>
      if token = .code ';' then some position
      else codeSemicolonFrom? (position + byteLength token.source) rest

theorem byteLength_append (left right : List Char) :
    byteLength (left ++ right) = byteLength left + byteLength right := by
  induction left with
  | nil => simp [byteLength]
  | cons head tail ih => simp [byteLength, ih, Nat.add_assoc]

theorem byteLength_eq_utf8ByteSize (text : List Char) :
    byteLength text = (String.ofList text).utf8ByteSize := by
  induction text with
  | nil => rfl
  | cons head tail ih =>
      rw [String.ofList_cons, String.utf8ByteSize_append, String.utf8ByteSize_singleton, ← ih]
      rfl

/-! ## The scan follows the lexer -/

section Scan

variable {enclosure : Enclosure} {content : List Char} {head : Char} {tail : List Char}
  {position : Nat}

theorem openSemicolonFrom?_of_ne {state : QuoteState} (closed : ¬(state = .outside ∧ head = ';')) :
    Guard.openSemicolonFrom? state position (head :: tail) =
      Guard.openSemicolonFrom? (state.next head) (position + head.utf8Size) tail := by
  rw [Guard.openSemicolonFrom?, if_neg closed]

/-- The scan passes every mark, wherever it stands. -/
theorem openSemicolonFrom?_opening {state : QuoteState} :
    Guard.openSemicolonFrom? state position (enclosure.opening :: tail) =
      Guard.openSemicolonFrom? (state.next enclosure.opening)
        (position + enclosure.opening.utf8Size) tail := by
  refine openSemicolonFrom?_of_ne fun isOpen => absurd isOpen.2 ?_
  cases enclosure <;> decide

theorem openSemicolonFrom?_closing {state : QuoteState} :
    Guard.openSemicolonFrom? state position (enclosure.closing :: tail) =
      Guard.openSemicolonFrom? (state.next enclosure.closing)
        (position + enclosure.closing.utf8Size) tail := by
  refine openSemicolonFrom?_of_ne fun isOpen => absurd isOpen.2 ?_
  cases enclosure <;> decide

theorem scan_code_opening :
    LexState.code.scan.next enclosure.opening = (LexState.enclosed enclosure []).scan := by
  cases enclosure <;> rfl

theorem scan_code_char (notSingle : head ≠ '\'') (notDouble : head ≠ '"') :
    LexState.code.scan.next head = LexState.code.scan := by
  simp [LexState.scan, QuoteState.next, notSingle, notDouble]

theorem openSemicolonFrom?_code_char {comments : Bool}
    (notOpening : (Dialect.literals comments).enclosure? head = none) :
    Guard.openSemicolonFrom? LexState.code.scan position (head :: tail) =
      if head = ';' then some position
      else Guard.openSemicolonFrom? LexState.code.scan (position + head.utf8Size) tail := by
  rcases Dialect.enclosure?_literals_eq_none_iff.1 notOpening with ⟨notSingle, notDouble⟩
  rw [Guard.openSemicolonFrom?, scan_code_char notSingle notDouble]
  simp [LexState.scan]

theorem scan_enclosed_char (inside : head ≠ enclosure.closing) :
    (LexState.enclosed enclosure content).scan.next head =
      (LexState.enclosed enclosure (content ++ [head])).scan := by
  cases enclosure <;>
    simp_all [LexState.scan, QuoteState.next, QuoteState.after, Enclosure.closing,
      Enclosure.opening]

/-- A closing mark that is written twice leaves the scan inside. -/
theorem scan_enclosed_doubled (doubles : enclosure.doubles = true) :
    ((LexState.enclosed enclosure content).scan.next enclosure.closing).next enclosure.closing =
      (LexState.enclosed enclosure (content ++ [enclosure.closing])).scan := by
  have outside (state : QuoteState) : state.next '\x60' = state := by cases state <;> rfl
  cases enclosure with
  | single | double => rfl
  | backtick =>
      simp [LexState.scan, Enclosure.closing, Enclosure.opening, QuoteState.after, outside]
  | bracket => cases doubles

theorem scan_enclosed_close (settled : (Token.enclosed enclosure content true).settled) :
    (LexState.enclosed enclosure content).scan.next enclosure.closing = LexState.code.scan := by
  cases enclosure with
  | single | double => rfl
  | backtick | bracket =>
      have outside : QuoteState.outside.after content = .outside := by
        simpa [Token.settled] using settled
      simp [LexState.scan, outside, QuoteState.next, Enclosure.closing, Enclosure.opening]

theorem codeSemicolonFrom?_code (char : Char) (tokens : List Token) :
    codeSemicolonFrom? position (.code char :: tokens) =
      if char = ';' then some position
      else codeSemicolonFrom? (position + char.utf8Size) tokens := by
  simp [codeSemicolonFrom?, Token.source, byteLength]

theorem codeSemicolonFrom?_enclosed (closed : Bool) (tokens : List Token) :
    codeSemicolonFrom? position (.enclosed enclosure content closed :: tokens) =
      codeSemicolonFrom?
        (position + byteLength (Token.enclosed enclosure content closed).source) tokens := by
  simp [codeSemicolonFrom?]

end Scan

theorem commentOccurs_cons {head : Char} {tail : List Char}
    (clear : Signature.commentOccurs (head :: tail) = false) :
    Signature.opensComment (head :: tail) = false ∧ Signature.commentOccurs tail = false := by
  simpa [Signature.commentOccurs] using clear

/-- A literal is a literal to the scan: it never stands outside there, whatever the content. -/
theorem scan_of_known {comments : Bool} {enclosure : Enclosure} {content : List Char}
    (known : enclosure ∈ (Dialect.literals comments).enclosures) :
    (LexState.enclosed enclosure content).scan ≠ .outside ∧
      (Token.enclosed enclosure content true).settled = true := by
  cases enclosure with
  | single | double => exact ⟨nofun, rfl⟩
  | _ => simp [Dialect.literals] at known

/-- From matching states, the scan stops at the byte of the first semicolon that is code. -/
theorem openSemicolonFrom?_eq_codeSemicolonFrom? {comments : Bool} {state : LexState}
    {text : List Char} {position : Nat} (known : state.Known (.literals comments))
    (clear : comments = true → Signature.commentOccurs text = false) :
    Guard.openSemicolonFrom? state.scan (position + byteLength state.pending) text =
      codeSemicolonFrom? position (lexFrom (.literals comments) state text) := by
  -- Inside a literal the scan is not outside, so it passes every character there; what remains is
  -- that its state stays that of the lexer, step by step.
  fun_induction lexFrom (.literals comments) state text generalizing position with
  | case1 | case2 => rfl
  | case5 head tail enclosure opens ih =>
      rcases Dialect.enclosure?_eq_some_iff.1 opens with ⟨known, rfl⟩
      rw [← ih known fun looks => (commentOccurs_cons (clear looks)).2,
        openSemicolonFrom?_opening, scan_code_opening]
      simp [LexState.pending, byteLength]
  | case6 head notOpening =>
      rw [openSemicolonFrom?_code_char notOpening, codeSemicolonFrom?_code]
      rfl
  | case7 head notOpening next rest opens ih =>
      rcases opens with ⟨looks, rfl, rfl⟩
      have occurs := clear looks
      simp [Signature.commentOccurs, Signature.opensComment] at occurs
  | case8 head notOpening next rest _ opens ih =>
      rcases opens with ⟨looks, rfl, rfl⟩
      have occurs := clear looks
      simp [Signature.commentOccurs, Signature.opensComment] at occurs
  | case9 head notOpening next tail _ _ ih =>
      rw [openSemicolonFrom?_code_char notOpening, codeSemicolonFrom?_code,
        ← ih trivial fun looks => (commentOccurs_cons (clear looks)).2]
      simp [LexState.pending, byteLength]
  | case10 enclosure content =>
      rw [openSemicolonFrom?_closing]
      rfl
  | case11 enclosure content next tail doubled ih =>
      rcases doubled with ⟨doubles, rfl⟩
      -- The first mark closes the literal for the scan, and the second one opens it again.
      rw [← ih known fun looks => (commentOccurs_cons (commentOccurs_cons (clear looks)).2).2,
        openSemicolonFrom?_closing, openSemicolonFrom?_closing, scan_enclosed_doubled doubles]
      simp [LexState.pending, byteLength, byteLength_append, Enclosure.body_append,
        Enclosure.body_doubled doubles, Nat.add_assoc]
  | case12 enclosure content next tail different ih =>
      rw [openSemicolonFrom?_closing, scan_enclosed_close (scan_of_known known).2,
        codeSemicolonFrom?_enclosed,
        ← ih trivial fun looks => (commentOccurs_cons (clear looks)).2]
      simp [LexState.pending, byteLength, byteLength_append, Token.source, Nat.add_assoc]
  | case13 enclosure content head tail inside ih =>
      rw [← ih known fun looks => (commentOccurs_cons (clear looks)).2,
        openSemicolonFrom?_of_ne fun isOpen => (scan_of_known known).1 isOpen.1,
        scan_enclosed_char inside]
      simp [LexState.pending, byteLength, byteLength_append, Enclosure.body_append,
        Enclosure.body_char inside, Nat.add_assoc]
  | case3 | case4 | case14 | case15 | case16 | case17 | case18 => cases known

theorem codeSemicolonFrom?_eq_some_iff {start position : Nat} {tokens : List Token} :
    codeSemicolonFrom? start tokens = some position ↔
      ∃ before after, tokens = before ++ .code ';' :: after ∧ .code ';' ∉ before ∧
        position = start + byteLength (before.flatMap Token.source) := by
  induction tokens generalizing start with
  | nil => simp [codeSemicolonFrom?]
  | cons token rest ih =>
      unfold codeSemicolonFrom?
      split
      · next semicolon =>
          subst semicolon
          constructor
          · intro found
            exact ⟨[], rest, rfl, by simp, by simpa [byteLength] using found.symm⟩
          · rintro ⟨before, after, whole, clear, rfl⟩
            cases before with
            | nil => simp [byteLength]
            | cons first before => simp_all
      · next different =>
          rw [ih]
          constructor
          · rintro ⟨before, after, rfl, clear, rfl⟩
            refine ⟨token :: before, after, rfl, ?_, ?_⟩
            · simpa [Ne.symm different] using clear
            · simp [byteLength_append, Nat.add_assoc]
          · rintro ⟨before, after, whole, clear, rfl⟩
            cases before with
            | nil => simp_all
            | cons first before =>
                rcases List.cons.inj whole with ⟨rfl, rfl⟩
                refine ⟨before, after, rfl, ?_, ?_⟩
                · exact fun later => clear (List.mem_cons_of_mem _ later)
                · simp [byteLength_append, Nat.add_assoc]

theorem codeSemicolonFrom?_eq_none_iff {start : Nat} {tokens : List Token} :
    codeSemicolonFrom? start tokens = none ↔ .code ';' ∉ tokens := by
  induction tokens generalizing start with
  | nil => simp [codeSemicolonFrom?]
  | cons token rest ih =>
      unfold codeSemicolonFrom?
      split
      · next semicolon => simp [semicolon]
      · next different => simp [ih, Ne.symm different]

/-- The position that the guard finds is that of the first semicolon among the tokens. -/
theorem Guard.openSemicolon?_eq (sql : String) :
    Guard.openSemicolon? sql = codeSemicolonFrom? 0 (lex sql) := by
  simpa [Guard.openSemicolon?, lex, LexState.scan, LexState.pending, byteLength] using
    @openSemicolonFrom?_eq_codeSemicolonFrom? false .code sql.toList 0 trivial (by simp)

/-- Where no comment opens, a lexer that knows comments finds the same semicolon. -/
theorem Guard.openSemicolon?_eq_withComments {sql : String}
    (clear : Signature.commentOccurs sql.toList = false) :
    Guard.openSemicolon? sql = codeSemicolonFrom? 0 (lexWithComments sql) := by
  simpa [Guard.openSemicolon?, lexWithComments, LexState.scan, LexState.pending, byteLength] using
    @openSemicolonFrom?_eq_codeSemicolonFrom? true .code sql.toList 0 trivial fun _ => clear

namespace Guard

theorem validate_eq_chained_iff {sql : String} {position : Nat} :
    validate sql = .error (.rejected (.chained position) sql) ↔
      openSemicolon? sql = some position := by
  unfold validate inspect?
  cases openSemicolon? sql with
  | some found => simp
  | none =>
      cases Signature.all.find? fun signature => signature.occurs sql.toList <;> simp

theorem openSemicolon?_of_validate {sql : String} (accepted : validate sql = .ok ()) :
    openSemicolon? sql = none := by
  cases found : openSemicolon? sql with
  | none => rfl
  | some position =>
      have rejected := validate_eq_chained_iff.2 found
      simp [accepted] at rejected

theorem commentOccurs_of_validate {sql : String} (accepted : validate sql = .ok ()) :
    Signature.commentOccurs sql.toList = false := by
  have clear := openSemicolon?_of_validate accepted
  have unsuspected : Signature.all.find? (fun signature => signature.occurs sql.toList) = none := by
    simpa [validate_eq_ok_iff, isSafe, inspect?, clear] using accepted
  simpa [Signature.occurs] using
    List.find?_eq_none.1 unsuspected .inlineComment (by simp [Signature.all])

/-- The guard reports a chained statement exactly where the first semicolon outside literals
stands, counted in bytes of UTF-8. In a statement that it accepts no semicolon is code, also for a
reader that skips comments. -/
theorem chained_iff_code_semicolon (sql : String) :
    (∀ position, validate sql = .error (.rejected (.chained position) sql) ↔
      ∃ before after, lex sql = before ++ .code ';' :: after ∧ .code ';' ∉ before ∧
        position = (String.ofList (before.flatMap Token.source)).utf8ByteSize) ∧
    (validate sql = .ok () → .code ';' ∉ lexWithComments sql) := by
  constructor
  · intro position
    rw [validate_eq_chained_iff, openSemicolon?_eq, codeSemicolonFrom?_eq_some_iff]
    simp [byteLength_eq_utf8ByteSize]
  · intro accepted
    have unopened := openSemicolon?_of_validate accepted
    rwa [openSemicolon?_eq_withComments (commentOccurs_of_validate accepted),
      codeSemicolonFrom?_eq_none_iff] at unopened

end Guard

end RankedSql
