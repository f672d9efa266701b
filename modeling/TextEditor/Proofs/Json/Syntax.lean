import Mathlib.Data.Bool.AllAny
import Mathlib.Data.List.Chain
import TextEditor.Token

/-!
# The syntax of JSON

A JSON text is a row of lexemes with blanks around them: strings, which stand for values or are the
keys of objects, numbers, three words and six marks. Which rows of lexemes are values, elements of
an array or members of an object is given by rules of derivation. Strings and numbers are made of
the pieces that they are written with, so that all of them are valid.

From the rules only one thing is needed to tell the lexemes of a text apart: what may stand next to
what. A key comes before a colon, any other string, number or word before another mark, and the last
lexeme is not a key.

Main statement: `Derives.row`.
-/

namespace TextEditor.Json

/-! ## Lexemes -/

/-- The decimal digits. -/
def digits : Text := "0123456789".toList

/-- The digits of base sixteen. -/
def hexDigits : Text := "0123456789abcdefABCDEF".toList

/-- The characters that a backslash may stand before, apart from the one for a number. -/
def escapes : Text := "\"\\/bfnrt".toList

/-- A character of a string, as it is written. -/
inductive Part where
  /-- By itself; control characters, quotes and backslashes are not written so. -/
  | plain (c : Char) (allowed : ' ' ≤ c ∧ c ≠ '"' ∧ c ≠ '\\')
  /-- By a backslash and a character that stands for it. -/
  | escaped (c : Char) (known : c ∈ escapes)
  /-- By its number, in four digits. -/
  | numbered (code : Text) (four : code.length = 4) (hex : ∀ c ∈ code, c ∈ hexDigits)

/-- How a character of a string is written. -/
def Part.text : Part → Text
  | .plain c _ => [c]
  | .escaped c _ => ['\\', c]
  | .numbered code _ _ => '\\' :: 'u' :: code

/-- A string as it is written, between quotes. -/
def quoted (parts : List Part) : Text := '"' :: (parts.flatMap Part.text ++ ['"'])

/-- A row of decimal digits that is not empty. -/
structure Digits where
  text : Text
  ne_nil : text ≠ []
  mem_digits : ∀ c ∈ text, c ∈ digits

/-- An exponent. -/
structure Exponent where
  letter : Char
  isLetter : letter ∈ ['e', 'E']
  sign : Option Char
  isSign : ∀ c ∈ sign, c ∈ ['+', '-']
  digits : Digits

/-- A number, as it is written. -/
structure Number where
  negative : Bool
  whole : Digits
  /-- A zero stands first only by itself. -/
  noLeadingZero : whole.text.head? = some '0' → whole.text = ['0']
  fraction : Option Digits
  exponent : Option Exponent

/-- An exponent as it is written. -/
def Exponent.text (exponent : Exponent) : Text :=
  exponent.letter :: (exponent.sign.toList ++ exponent.digits.text)

/-- The sign of a number, if it has one. -/
def Number.sign (number : Number) : Option Char := if number.negative then some '-' else none

/-- The fraction of a number with its point, if it has one. -/
def Number.fractionText (number : Number) : Text :=
  (number.fraction.map fun fraction => '.' :: fraction.text).getD []

/-- The exponent of a number, if it has one. -/
def Number.exponentText (number : Number) : Text := (number.exponent.map Exponent.text).getD []

/-- A number as it is written. -/
def Number.text (number : Number) : Text :=
  number.sign.toList ++ (number.whole.text ++ (number.fractionText ++ number.exponentText))

/-- The words of JSON. -/
inductive Word where
  | true
  | false
  | null
  deriving DecidableEq, Repr

/-- A word as it is written. -/
def Word.text : Word → Text
  | .true => "true".toList
  | .false => "false".toList
  | .null => "null".toList

/-- The marks of JSON. -/
inductive Mark where
  | openBrace
  | closeBrace
  | openBracket
  | closeBracket
  | comma
  | colon
  deriving DecidableEq, Repr

/-- The character of a mark. -/
def Mark.char : Mark → Char
  | .openBrace => '{'
  | .closeBrace => '}'
  | .openBracket => '['
  | .closeBracket => ']'
  | .comma => ','
  | .colon => ':'

/-- A lexeme of a JSON text; a string that is the key of an object is told from other strings. -/
inductive Lexeme where
  | key (parts : List Part)
  | string (parts : List Part)
  | number (number : Number)
  | word (word : Word)
  | mark (mark : Mark)

namespace Lexeme

/-- A lexeme as it is written. -/
def text : Lexeme → Text
  | .key parts | .string parts => quoted parts
  | .number written => written.text
  | .word written => written.text
  | .mark written => [written.char]

/-- What a lexeme is to be recognised as. -/
def kind : Lexeme → TokenKind
  | .key _ => .property
  | .string _ => .string
  | .number _ => .number
  | .word _ => .keyword
  | .mark _ => .delimiter

/-- Whether a lexeme is a string or a key. -/
def isQuoted : Lexeme → Bool
  | .key _ | .string _ => true
  | _ => false

end Lexeme

/-! ## Derivations -/

/-- What a row of lexemes may be derived from. -/
inductive Symbol where
  | value
  | elements
  | members

/-- The rows of lexemes that make a value, the elements of an array or the members of an object;
of elements and members there is at least one. -/
inductive Derives : Symbol → List Lexeme → Prop where
  | string (parts) : Derives .value [.string parts]
  | number (number) : Derives .value [.number number]
  | word (word) : Derives .value [.word word]
  | emptyArray : Derives .value [.mark .openBracket, .mark .closeBracket]
  | array {lexemes} : Derives .elements lexemes →
      Derives .value (.mark .openBracket :: (lexemes ++ [.mark .closeBracket]))
  | emptyObject : Derives .value [.mark .openBrace, .mark .closeBrace]
  | object {lexemes} : Derives .members lexemes →
      Derives .value (.mark .openBrace :: (lexemes ++ [.mark .closeBrace]))
  | element {lexemes} : Derives .value lexemes → Derives .elements lexemes
  | moreElements {lexemes more} : Derives .value lexemes → Derives .elements more →
      Derives .elements (lexemes ++ .mark .comma :: more)
  | member (key) {lexemes} : Derives .value lexemes →
      Derives .members (.key key :: .mark .colon :: lexemes)
  | moreMembers (key) {lexemes more} : Derives .value lexemes → Derives .members more →
      Derives .members (.key key :: .mark .colon :: (lexemes ++ .mark .comma :: more))

/-! ## Neighbours -/

/-- Whether a lexeme may stand right before another. -/
def Lexeme.Before : Lexeme → Lexeme → Prop
  | .mark _, _ => True
  | .key _, .mark next => next = .colon
  | _, .mark next => next ≠ .colon
  | _, _ => False

/-- Whether a lexeme may stand last. -/
def Lexeme.Last : Lexeme → Prop
  | .key _ => False
  | _ => True

/-- Lexemes each of which may stand before the next, and the last of which may stand last. -/
structure Row (lexemes : List Lexeme) : Prop where
  chain : lexemes.IsChain Lexeme.Before
  last : ∀ lexeme ∈ lexemes.getLast?, lexeme.Last

namespace Row

variable {lexemes more : List Lexeme}

/-- A lexeme that may come last is a row. -/
theorem singleton {lexeme : Lexeme} (h : lexeme.Last) : Row [lexeme] :=
  ⟨.singleton _, by rintro _ ⟨⟩; exact h⟩

/-- Without its first lexeme a row is a row. -/
theorem tail {lexeme : Lexeme} (h : Row (lexeme :: lexemes)) : Row lexemes := by
  refine ⟨h.chain.tail, ?_⟩
  cases lexemes with
  | nil => exact nofun
  | cons next lexemes => rw [← List.getLast?_cons_cons (a := lexeme)]; exact h.last

/-- A mark may stand before any row. -/
theorem mark_cons (mark : Mark) (h : Row lexemes) : Row (.mark mark :: lexemes) := by
  refine ⟨List.isChain_cons.2 ⟨fun _ _ => trivial, h.chain⟩, ?_⟩
  cases lexemes with
  | nil => rintro _ ⟨⟩; trivial
  | cons lexeme lexemes => rw [List.getLast?_cons_cons]; exact h.last

/-- What may stand last may also stand before a mark other than a colon. -/
theorem append_mark (h : Row lexemes) (mark : Mark) (hmark : mark ≠ .colon) (hmore : Row more) :
    Row (lexemes ++ .mark mark :: more) := by
  have hrest := hmore.mark_cons mark
  refine ⟨List.isChain_append.2 ⟨h.chain, hrest.chain, ?_⟩, ?_⟩
  · rintro lexeme hlexeme _ ⟨⟩
    have hlast := h.last lexeme hlexeme
    cases lexeme with
    | key parts => exact hlast.elim
    | mark other => trivial
    | string | number | word => exact hmark
  · rw [List.getLast?_append_cons]
    exact hrest.last

/-- A key with its colon may stand before any row. -/
theorem key_cons (parts : List Part) (h : Row lexemes) :
    Row (.key parts :: .mark .colon :: lexemes) := by
  have hrest := h.mark_cons .colon
  refine ⟨List.isChain_cons_cons.2 ⟨rfl, hrest.chain⟩, ?_⟩
  rw [List.getLast?_cons_cons]
  exact hrest.last

end Row

/-- What is derived is a row. -/
theorem Derives.row {symbol : Symbol} {lexemes : List Lexeme} (h : Derives symbol lexemes) :
    Row lexemes := by
  have hclosed {lexemes : List Lexeme} (h : Row lexemes) (opening closing : Mark)
      (hclosing : closing ≠ .colon) : Row (.mark opening :: (lexemes ++ [.mark closing])) :=
    (h.append_mark closing hclosing ⟨.nil, nofun⟩).mark_cons opening
  induction h with
  | string parts => exact .singleton trivial
  | number number => exact .singleton trivial
  | word word => exact .singleton trivial
  | emptyArray => exact hclosed ⟨.nil, nofun⟩ _ _ nofun
  | emptyObject => exact hclosed ⟨.nil, nofun⟩ _ _ nofun
  | array _ ih => exact hclosed ih _ _ nofun
  | object _ ih => exact hclosed ih _ _ nofun
  | element _ ih => exact ih
  | moreElements _ _ ih ihmore => exact ih.append_mark .comma nofun ihmore
  | member key _ ih => exact ih.key_cons key
  | moreMembers key _ _ ih ihmore => exact (ih.append_mark .comma nofun ihmore).key_cons key

/-! ## Texts -/

/-- The blanks that may stand around lexemes. -/
inductive Blank where
  | space
  | tab
  | feed
  | carriageReturn
  deriving DecidableEq, Repr

/-- The character of a blank. -/
def Blank.char : Blank → Char
  | .space => ' '
  | .tab => '\t'
  | .feed => '\n'
  | .carriageReturn => '\r'

/-- A lexeme with the blanks before it. -/
structure Item where
  gap : List Blank
  lexeme : Lexeme

/-- Blanks as they are written. -/
def blankText (gap : List Blank) : Text := gap.map Blank.char

/-- A lexeme as it is written behind its blanks. -/
def Item.text (item : Item) : Text := blankText item.gap ++ item.lexeme.text

/-- The lexemes of a text with the spans where they stand, from byte `n` on. -/
def placed : Nat → List Item → List (Lexeme × Span)
  | _, [] => []
  | n, item :: items =>
      (item.lexeme, ⟨n + (blankText item.gap).size, n + item.text.size⟩) ::
        placed (n + item.text.size) items

end TextEditor.Json

namespace TextEditor

/-- A JSON text: lexemes that make a value, with blanks around them. -/
structure Json where
  items : List Json.Item
  lastGap : List Json.Blank
  derived : Json.Derives .value (items.map (·.lexeme))

namespace Json

/-- A JSON text as it is written. -/
def text (json : Json) : Text := json.items.flatMap Item.text ++ blankText json.lastGap

/-- The tokens that a JSON text is to have: one for each lexeme, where it stands. -/
def tokens (json : Json) : List Token :=
  (placed 0 json.items).map fun (lexeme, span) => ⟨lexeme.kind, span, .json⟩

end Json

end TextEditor
