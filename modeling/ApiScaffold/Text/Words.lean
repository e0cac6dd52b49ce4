/-
The words of a name, and the name written from its words. A text is first cut at the characters that
are neither letters nor digits. A piece is then cut before a capital that follows a small letter, with
caseless characters in between allowed, and before the last capital of a run that a small letter
follows.
-/
import ApiScaffold.Text.Case

namespace ApiScaffold.Text

/-- The case that the scanner of a piece has seen last. -/
inductive LetterCase where
  | none
  | lower
  | upper
  deriving DecidableEq, Repr

/-- The case after a character; a caseless one leaves it. -/
def LetterCase.after (mode : LetterCase) (c : Char) : LetterCase :=
  if isLowercase c then .lower else if isUppercase c then .upper else mode

/-- The words of a piece; `done` holds the characters of the current word in reverse. -/
def cutPiece : LetterCase → List Char → List Char → List (List Char)
  | _, _, [] => []
  | _, done, [c] => [(c :: done).reverse]
  | mode, done, c :: next :: rest =>
    if mode.after c = .lower && isUppercase next then
      (c :: done).reverse :: cutPiece .none [] (next :: rest)
    else if mode = .upper && isUppercase c && isLowercase next then
      done.reverse :: cutPiece .none [c] (next :: rest)
    else cutPiece (mode.after c) (c :: done) (next :: rest)

/-- The maximal runs of letters and digits. -/
def alphanumericPieces : List Char → List (List Char)
  | [] => []
  | c :: cs =>
    if isAlphanumeric c then
      match cs, alphanumericPieces cs with
      | d :: _, piece :: pieces => if isAlphanumeric d then (c :: piece) :: pieces else [c] :: piece :: pieces
      | _, pieces => [c] :: pieces
    else alphanumericPieces cs

/-- The words of a text. -/
def words (s : String) : List (List Char) :=
  (alphanumericPieces s.toList).flatMap (cutPiece .none [])

/-- The words in lower case with a separator between them. -/
def snakeChars : List (List Char) → List Char
  | [] => []
  | [w] => lowerWord w
  | w :: ws => lowerWord w ++ '_' :: snakeChars ws

/-- `like_this`. -/
def snakeCase (s : String) : String := String.ofList (snakeChars (words s))

/-- `LikeThis`. -/
def pascalCase (s : String) : String := String.ofList ((words s).flatMap capitalizeWord)

/-- `likeThis`. -/
def camelCase (s : String) : String :=
  match words s with
  | [] => ""
  | w :: ws => String.ofList (lowerWord w ++ ws.flatMap capitalizeWord)

end ApiScaffold.Text
