import RankedSql.Guard.QuoteScan
import RankedSql.Proofs.Spacing
import RankedSql.Text.Quoted

/-!
# The body of a table definition

A statement that creates a table has a body in parentheses: entries with commas between them, where
commas inside literals and inner parentheses do not count. `bodyEntries` reads the entries back, and
`isForeignKey` tells constraints from columns by the words before their parenthesis.

An enclosed text has no comma or closing parenthesis of its own at the top. Enclosed texts that are
joined with commas are the entries of the whole (`kinds_joinWith`), and shrinking blanks keeps the
entries and their kinds (`topPieces_spaced`, `isForeignKey_spaced`).
-/

namespace RankedSql

/-- Where a scan of a statement stands: inside or outside a literal, and how many parentheses are
open. -/
structure Nesting where
  quote : QuoteState
  depth : Nat
  deriving DecidableEq

namespace Nesting

/-- Outside of all literals and parentheses. -/
def top : Nesting := ⟨.outside, 0⟩

/-- The place after a character; parentheses in literals do not count. -/
def next (nesting : Nesting) (char : Char) : Nesting :=
  { quote := nesting.quote.next char
    depth :=
      if nesting.quote ≠ .outside then nesting.depth
      else if char = '(' then nesting.depth + 1
      else if char = ')' then nesting.depth - 1
      else nesting.depth }

/-- The place after a text that has no comma and no closing parenthesis at the top. -/
def scan? : Nesting → List Char → Option Nesting
  | nesting, [] => some nesting
  | nesting, head :: tail =>
      if nesting = .top ∧ (head = ',' ∨ head = ')') then none else (nesting.next head).scan? tail

end Nesting

/-- Puts a character in front of the first piece. -/
def extendFirst (char : Char) : List (List Char) → List (List Char)
  | [] => [[char]]
  | piece :: pieces => (char :: piece) :: pieces

/-- The pieces between the commas at the top, up to the first closing parenthesis at the top. -/
def topPieces : Nesting → List Char → List (List Char)
  | _, [] => [[]]
  | nesting, head :: tail =>
      if nesting = .top ∧ head = ')' then [[]]
      else if nesting = .top ∧ head = ',' then [] :: topPieces .top tail
      else extendFirst head (topPieces (nesting.next head) tail)

/-- The entries of the body of a statement: the pieces after the first parenthesis, up to the one
that closes it. -/
def bodyEntries (sql : List Char) : List (List Char) :=
  topPieces .top (sql.dropWhile (· != '(')).tail

/-- Whether an entry is a constraint `FOREIGN KEY (..)`, in any ASCII case. -/
def isForeignKey (entry : List Char) : Bool :=
  entry.contains '(' &&
    (Text.words (entry.takeWhile (· != '('))).map (·.map Char.toUpper) ==
      ["FOREIGN".toList, "KEY".toList]

/-- A statement in whose body no column follows a constraint. -/
def ConstraintsLast (sql : String) : Prop :=
  ((bodyEntries sql.toList).map isForeignKey).Pairwise fun earlier later =>
    earlier = true → later = true

instance (sql : String) : Decidable (ConstraintsLast sql) := by
  unfold ConstraintsLast
  infer_instance

/-- A text without a comma or a closing parenthesis at the top, in which every literal and every
parenthesis is closed. -/
def Enclosed (text : String) : Prop := Nesting.top.scan? text.toList = some .top

instance (text : String) : Decidable (Enclosed text) := by
  unfold Enclosed
  infer_instance

/-- A text without commas, parentheses and quotation marks. -/
def Bare (text : String) : Prop :=
  ∀ char ∈ text.toList, char ≠ ',' ∧ char ≠ '(' ∧ char ≠ ')' ∧ char ≠ '\'' ∧ char ≠ '"'

instance (text : String) : Decidable (Bare text) := List.decidableBAll _ text.toList

/-! ## Pieces and spacing -/

theorem topPieces_ne_nil (nesting : Nesting) (text : List Char) : topPieces nesting text ≠ [] := by
  cases text with
  | nil => simp [topPieces]
  | cons head tail =>
      unfold topPieces
      split
      · simp
      · split
        · simp
        · cases topPieces (nesting.next head) tail <;> simp [extendFirst]

theorem Nesting.next_of_isBlank {blank : Char} (isBlank_blank : Text.isBlank blank = true)
    (nesting : Nesting) : nesting.next blank = nesting := by
  have notSingle : blank ≠ '\'' := Text.ne_of_isBlank isBlank_blank (by decide)
  have notDouble : blank ≠ '"' := Text.ne_of_isBlank isBlank_blank (by decide)
  have notOpen : blank ≠ '(' := Text.ne_of_isBlank isBlank_blank (by decide)
  have notClose : blank ≠ ')' := Text.ne_of_isBlank isBlank_blank (by decide)
  rcases nesting with ⟨quote, depth⟩
  cases quote <;> simp [next, QuoteState.next, notSingle, notDouble, notOpen, notClose]

theorem topPieces_of_isBlank {blank : Char} (isBlank_blank : Text.isBlank blank = true)
    (nesting : Nesting) (tail : List Char) :
    topPieces nesting (blank :: tail) = extendFirst blank (topPieces nesting tail) := by
  have notComma : blank ≠ ',' := Text.ne_of_isBlank isBlank_blank (by decide)
  have notClose : blank ≠ ')' := Text.ne_of_isBlank isBlank_blank (by decide)
  simp [topPieces, notComma, notClose, Nesting.next_of_isBlank isBlank_blank]

/-- The first piece starts as the text does. -/
theorem startsBlank_topPieces {nesting : Nesting} {text piece : List Char}
    {pieces : List (List Char)} (cut : topPieces nesting text = piece :: pieces) :
    piece.head?.any Text.isBlank = text.head?.any Text.isBlank := by
  cases text with
  | nil =>
      rcases List.cons.inj cut with ⟨rfl, _⟩
      rfl
  | cons head tail =>
      unfold topPieces at cut
      split at cut
      · next close =>
          rcases List.cons.inj cut with ⟨rfl, _⟩
          rw [close.2]
          exact (by decide : false = Text.isBlank ')')
      · split at cut
        · next comma =>
            rcases List.cons.inj cut with ⟨rfl, _⟩
            rw [comma.2]
            exact (by decide : false = Text.isBlank ',')
        · cases rest : topPieces (nesting.next head) tail with
          | nil => exact absurd rest (topPieces_ne_nil _ _)
          | cons first later =>
              rw [rest] at cut
              rcases List.cons.inj cut with ⟨rfl, _⟩
              rfl

theorem map_spaced_extendFirst {char : Char} (visible : Text.isBlank char = false)
    (pieces : List (List Char)) :
    (extendFirst char pieces).map Text.spaced = extendFirst char (pieces.map Text.spaced) := by
  cases pieces with
  | nil => simp [extendFirst, Text.spaced, visible]
  | cons piece pieces => simp [extendFirst, Text.spaced_cons_of_not_isBlank visible]

/-- Shrinking the blanks of a text shrinks them in each piece. -/
theorem topPieces_spaced (nesting : Nesting) (text : List Char) :
    topPieces nesting (Text.spaced text) = (topPieces nesting text).map Text.spaced := by
  induction text generalizing nesting with
  | nil => rfl
  | cons head tail ih =>
      cases visible : Text.isBlank head with
      | true =>
          rw [topPieces_of_isBlank visible]
          -- The blank joins the first piece, which shrinks it away if it starts with another one.
          cases cut : topPieces nesting tail with
          | nil => exact absurd cut (topPieces_ne_nil _ _)
          | cons piece pieces =>
              have starts := startsBlank_topPieces cut
              have tailPieces := ih nesting
              rw [cut] at tailPieces
              simp only [Text.spaced, visible, if_true, extendFirst, List.map_cons, starts]
              split
              · exact tailPieces
              · rw [topPieces_of_isBlank Text.isBlank_space, tailPieces]
                rfl
      | false =>
          rw [Text.spaced_cons_of_not_isBlank visible]
          unfold topPieces
          split
          · rfl
          · split
            · simp [ih]
            · rw [ih, map_spaced_extendFirst visible]

/-! ## Kinds of entries -/

theorem takeWhile_append_cons {keep : Char → Bool} {before : List Char} {stop : Char}
    (kept : ∀ char ∈ before, keep char = true) (stops : keep stop = false) (after : List Char) :
    (before ++ stop :: after).takeWhile keep = before := by
  rw [List.takeWhile_append_of_pos kept, List.takeWhile_cons_of_neg (by simp [stops]),
    List.append_nil]

theorem mem_spaced {char : Char} (visible : Text.isBlank char = false) {text : List Char} :
    char ∈ Text.spaced text ↔ char ∈ text := by
  have notBlank {blank : Char} (isBlank_blank : Text.isBlank blank = true) : char ≠ blank :=
    (Text.ne_of_isBlank isBlank_blank visible).symm
  induction text with
  | nil => rfl
  | cons head tail ih =>
      cases headVisible : Text.isBlank head with
      | true =>
          simp only [Text.spaced, headVisible, if_true, List.mem_cons, notBlank headVisible,
            false_or]
          split
          · exact ih
          · simp [notBlank Text.isBlank_space, ih]
      | false => simp [Text.spaced_cons_of_not_isBlank headVisible, ih]

theorem isForeignKey_of_not_mem {entry : List Char} (absent : '(' ∉ entry) :
    isForeignKey entry = false := by
  simp [isForeignKey, absent]

theorem isForeignKey_append_cons {before : List Char} (absent : '(' ∉ before)
    (after : List Char) :
    isForeignKey (before ++ '(' :: after) =
      ((Text.words before).map (·.map Char.toUpper) == ["FOREIGN".toList, "KEY".toList]) := by
  have kept : ∀ char ∈ before, (char != '(') = true := by
    intro char member
    rw [bne_iff_ne]
    rintro rfl
    exact absent member
  simp [isForeignKey, takeWhile_append_cons kept (by decide : ('(' != '(') = false)]

/-- Shrinking blanks keeps the kind of an entry. -/
theorem isForeignKey_spaced (entry : List Char) :
    isForeignKey (Text.spaced entry) = isForeignKey entry := by
  have visible : Text.isBlank '(' = false := by decide
  by_cases present : '(' ∈ entry
  · rcases List.eq_append_cons_of_mem present with ⟨before, after, rfl, absent⟩
    have absentSpaced : '(' ∉ Text.spaced before := mt (mem_spaced visible).1 absent
    rw [Text.spaced_append_cons visible, isForeignKey_append_cons absent,
      isForeignKey_append_cons absentSpaced, Text.words_spaced]
  · rw [isForeignKey_of_not_mem present,
      isForeignKey_of_not_mem (mt (mem_spaced visible).1 present)]

/-- A space in front does not change the kind of an entry. -/
theorem isForeignKey_cons_space (entry : List Char) :
    isForeignKey (' ' :: entry) = isForeignKey entry := by
  by_cases present : '(' ∈ entry
  · rcases List.eq_append_cons_of_mem present with ⟨before, after, rfl, absent⟩
    have absentBehind : '(' ∉ ' ' :: before := by simpa using absent
    rw [← List.cons_append, isForeignKey_append_cons absent,
      isForeignKey_append_cons absentBehind, Text.words_cons_of_isBlank Text.isBlank_space]
  · rw [isForeignKey_of_not_mem present, isForeignKey_of_not_mem (by simpa using present)]

/-- An entry is a column if a word before its parenthesis is not one of a constraint. -/
theorem isForeignKey_of_mem_words {before word : List Char} (absent : '(' ∉ before)
    (member : word ∈ Text.words before)
    (other : word.map Char.toUpper ∉ ["FOREIGN".toList, "KEY".toList]) (after : List Char) :
    isForeignKey (before ++ '(' :: after) = false := by
  rw [isForeignKey_append_cons absent]
  apply beq_eq_false_iff_ne.2
  intro same
  exact other (same ▸ List.mem_map_of_mem member)

/-! ## Enclosed texts -/

theorem Nesting.scan?_append (nesting : Nesting) (left right : List Char) :
    nesting.scan? (left ++ right) = (nesting.scan? left).bind fun next => next.scan? right := by
  induction left generalizing nesting with
  | nil => rfl
  | cons head tail ih =>
      simp only [List.cons_append, scan?]
      split
      · rfl
      · exact ih _

theorem Enclosed.append {left right : String} (enclosedLeft : Enclosed left)
    (enclosedRight : Enclosed right) : Enclosed (left ++ right) := by
  rw [Enclosed, String.toList_append, Nesting.scan?_append, enclosedLeft, Option.bind_some,
    enclosedRight]

theorem bare_append {left right : String} : Bare (left ++ right) ↔ Bare left ∧ Bare right := by
  simp only [Bare, String.toList_append, List.mem_append]
  grind

theorem Bare.append {left right : String} (bareLeft : Bare left) (bareRight : Bare right) :
    Bare (left ++ right) :=
  bare_append.2 ⟨bareLeft, bareRight⟩

theorem Bare.not_mem {text : String} (bare : Bare text) : '(' ∉ text.toList :=
  fun member => (bare '(' member).2.1 rfl

/-- Bare text is passed over at any depth. -/
theorem Bare.scan? {text : String} (bare : Bare text) (depth : Nat) :
    Nesting.scan? ⟨.outside, depth⟩ text.toList = some ⟨.outside, depth⟩ := by
  unfold Bare at bare
  generalize text.toList = chars at bare ⊢
  induction chars with
  | nil => rfl
  | cons head tail ih =>
      rcases List.forall_mem_cons.1 bare with ⟨bareHead, bareTail⟩
      rcases bareHead with ⟨notComma, notOpen, notClose, notSingle, notDouble⟩
      simp [Nesting.scan?, Nesting.next, QuoteState.next, notComma, notOpen, notClose, notSingle,
        notDouble, ih bareTail]

theorem Bare.enclosed {text : String} (bare : Bare text) : Enclosed text := bare.scan? 0

/-- A bare text in parentheses is enclosed. -/
theorem enclosed_parenthesised {text : String} (bare : Bare text) :
    Enclosed ("(" ++ text ++ ")") := by
  have inside : Nesting.scan? ⟨.outside, 1⟩ (text.toList ++ [')']) = some .top := by
    rw [Nesting.scan?_append, bare.scan? 1]
    rfl
  simpa [Enclosed, Nesting.scan?, Nesting.next, QuoteState.next, Nesting.top] using inside

theorem enclosed_quoted (text : String) : Enclosed (Text.quoted '\'' text) := by
  have inside (chars : List Char) :
      Nesting.scan? ⟨.inSingle, 0⟩ (Text.doubled '\'' chars ++ ['\'']) = some .top := by
    induction chars with
    | nil => rfl
    | cons head tail ih =>
        by_cases mark : head = '\''
        · simpa [Text.doubled, mark, Nesting.scan?, Nesting.next, QuoteState.next, Nesting.top]
            using ih
        · simpa [Text.doubled, mark, Nesting.scan?, Nesting.next, QuoteState.next, Nesting.top]
            using ih
  simpa [Enclosed, Nesting.scan?, Nesting.next, QuoteState.next, Nesting.top] using
    inside text.toList

/-! ## Entries of a body -/

theorem topPieces_append {nesting next : Nesting} {text : List Char}
    (scanned : nesting.scan? text = some next) (rest : List Char) :
    topPieces nesting (text ++ rest) = text.foldr extendFirst (topPieces next rest) := by
  induction text generalizing nesting with
  | nil =>
      rcases Option.some.inj scanned with rfl
      rfl
  | cons head tail ih =>
      unfold Nesting.scan? at scanned
      split at scanned
      · cases scanned
      · next inner =>
          have notClose : ¬(nesting = .top ∧ head = ')') := fun close =>
            inner ⟨close.1, .inr close.2⟩
          have notComma : ¬(nesting = .top ∧ head = ',') := fun comma =>
            inner ⟨comma.1, .inl comma.2⟩
          simp only [List.cons_append, topPieces, notClose, notComma, if_false, ih scanned,
            List.foldr_cons]

theorem foldr_extendFirst (text : List Char) (pieces : List (List Char)) :
    text.foldr extendFirst ([] :: pieces) = text :: pieces := by
  induction text with
  | nil => rfl
  | cons head tail ih => rw [List.foldr_cons, ih, extendFirst]

/-- Enclosed texts with commas between them are the entries of a body, each of its own kind. -/
theorem kinds_joinWith {texts : List String} (notEmpty : texts ≠ [])
    (enclosed : ∀ text ∈ texts, Enclosed text) :
    (topPieces .top ((Text.joinWith ", " texts).toList ++ [')'])).map isForeignKey =
      texts.map fun text => isForeignKey text.toList := by
  fun_induction Text.joinWith ", " texts with
  | case1 => exact absurd rfl notEmpty
  | case2 only =>
      rw [topPieces_append (enclosed only (by simp))]
      simp [topPieces, foldr_extendFirst]
  | case3 first second rest ih =>
      rcases List.forall_mem_cons.1 enclosed with ⟨enclosedFirst, enclosedRest⟩
      have restKinds := ih (List.cons_ne_nil second rest) enclosedRest
      have split : (first ++ ", " ++ Text.joinWith ", " (second :: rest)).toList ++ [')'] =
          first.toList ++ ',' :: ' ' ::
            ((Text.joinWith ", " (second :: rest)).toList ++ [')']) := by
        simp
      rw [split, topPieces_append enclosedFirst]
      cases cut : topPieces .top ((Text.joinWith ", " (second :: rest)).toList ++ [')']) with
      | nil => exact absurd cut (topPieces_ne_nil _ _)
      | cons piece pieces =>
          rw [cut] at restKinds
          -- The space after the comma goes to the next piece, where it changes no kind.
          have comma : topPieces .top (',' :: ' ' ::
              ((Text.joinWith ", " (second :: rest)).toList ++ [')'])) =
              [] :: (' ' :: piece) :: pieces := by
            rw [topPieces]
            simp [topPieces_of_isBlank Text.isBlank_space, cut, extendFirst]
          rw [comma, foldr_extendFirst]
          simpa [isForeignKey_cons_space] using restKinds

end RankedSql
