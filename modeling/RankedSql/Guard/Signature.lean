import RankedSql.Text.Basic
import RankedSql.Text.Blank
import RankedSql.Text.WordCharacter

/-!
# Injection signatures

The phrases that make a statement suspect, wherever they stand in it. Words are found in any letter
case, and only where they are no part of a longer word.
-/

namespace RankedSql

/-- A kind of suspect phrase. -/
inductive Signature where
  | inlineComment
  | union
  | tautology
  | exec
  | executeSql
  deriving DecidableEq

namespace Signature

/-- The signatures in the order in which they are tried. -/
def all : List Signature := [.inlineComment, .union, .tautology, .exec, .executeSql]

/-- What the signature is called in messages. -/
def name : Signature → String
  | .inlineComment => "inline comment"
  | .union => "union"
  | .tautology => "tautology"
  | .exec => "dynamic execution"
  | .executeSql => "dynamic execution"

/-- The signature as a regular expression, as messages show it. -/
def pattern : Signature → String
  | .inlineComment => "(--|#|/\\*)"
  | .union => "(?i)\\bunion\\b"
  | .tautology => "(?i)\\bor\\b\\s+(1|true)\\s*=\\s*(1|true)"
  | .exec => "(?i)\\bexec\\b"
  | .executeSql => "(?i)\\bsp_executesql\\b"

/-- Whether a character is a small letter, or a case form of it. The long s is a case form of s. -/
def isLetter (small char : Char) : Bool :=
  char == small || char == small.toUpper || (small == 's' && char == '\u017f')

/-- The text after given small letters, in any case. -/
def afterLetters? : List Char → List Char → Option (List Char)
  | [], text => some text
  | _ :: _, [] => none
  | small :: letters, head :: tail =>
      if isLetter small head then afterLetters? letters tail else none

/-- Whether a text goes on with a word character. -/
def continuesWord : List Char → Bool
  | [] => false
  | head :: _ => Text.isWordCharacter head

/-- The text after a word, if the word ends there. -/
def afterWord? (word text : List Char) : Option (List Char) :=
  (afterLetters? word text).bind fun rest => if continuesWord rest then none else some rest

/-- Whether a test holds somewhere in a text where no word character comes before. The flag says
whether one comes before the text. -/
def atWordStart (test : List Char → Bool) : Bool → List Char → Bool
  | _, [] => false
  | insideWord, head :: tail =>
      (!insideWord && test (head :: tail)) ||
        atWordStart test (Text.isWordCharacter head) tail

/-- Whether a word occurs in a text as a whole word. -/
def wordOccurs (word text : List Char) : Bool :=
  atWordStart (fun rest => (afterWord? word rest).isSome) false text

/-- Whether a comment opens at the start of a text. -/
def opensComment : List Char → Bool
  | '#' :: _ => true
  | '-' :: '-' :: _ => true
  | '/' :: '*' :: _ => true
  | _ => false

/-- Whether a comment opens anywhere in a text, literals included. -/
def commentOccurs : List Char → Bool
  | [] => false
  | head :: tail => opensComment (head :: tail) || commentOccurs tail

/-- The text after `1` or `true`. -/
def afterTruth? : List Char → Option (List Char)
  | '1' :: rest => some rest
  | text => afterLetters? "true".toList text

/-- The text behind its leading blanks. -/
def skipBlanks (text : List Char) : List Char := text.dropWhile Text.isBlank

/-- Whether a text goes on with an equation of two truths, after at least one blank. -/
def truthEquationFollows (text : List Char) : Bool :=
  text.head?.any Text.isBlank &&
    (afterTruth? (skipBlanks text)).any fun rest =>
      match skipBlanks rest with
      | '=' :: last => (afterTruth? (skipBlanks last)).isSome
      | _ => false

/-- Whether the word `or` occurs with an equation of two truths after it. -/
def tautologyOccurs (text : List Char) : Bool :=
  atWordStart (fun rest => (afterWord? "or".toList rest).any truthEquationFollows) false text

/-- Whether the signature occurs anywhere in a text. -/
def occurs (signature : Signature) (text : List Char) : Bool :=
  match signature with
  | .inlineComment => commentOccurs text
  | .union => wordOccurs "union".toList text
  | .tautology => tautologyOccurs text
  | .exec => wordOccurs "exec".toList text
  | .executeSql => wordOccurs "sp_executesql".toList text

end Signature

end RankedSql
