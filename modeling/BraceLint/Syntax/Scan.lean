import BraceLint.Syntax.Token
import BraceLint.Text.Blank
import BraceLint.Text.Letter

/-!
Reading tokens. Every reader walks down the characters that are left, so it ends with them. What a
slash, a closing brace or a greater-than sign means depends on the grammar around it: the plain reader
takes a slash for an operator and a greater-than sign for a single one, and the readers for regular
expressions, templates, longer operators and markup start over where the grammar asks for them.
-/

namespace BraceLint

open Text (isLineTerminator isBlank isNameStart isNamePart)

/-- The characters that are left, and the byte offset of the first of them. -/
structure Cursor where
  rest : Text
  offset : Nat
deriving Repr

namespace Cursor

/-- Skips the characters that satisfy a test. -/
def skipFrom (test : Char → Bool) : Nat → Text → Cursor
  | offset, [] => ⟨[], offset⟩
  | offset, c :: rest =>
    if test c then skipFrom test (offset + c.utf8Size) rest else ⟨c :: rest, offset⟩

/-- Skips the characters that satisfy a test. -/
def skipWhile (test : Char → Bool) (cursor : Cursor) : Cursor :=
  skipFrom test cursor.offset cursor.rest

/-- Skips a number of ASCII characters. -/
def skipAscii (count : Nat) (cursor : Cursor) : Cursor :=
  ⟨cursor.rest.drop count, cursor.offset + count⟩

/-- The next character. -/
def head? (cursor : Cursor) : Option Char :=
  cursor.rest.head?

end Cursor

namespace Scan

/-- The value of a hexadecimal digit. -/
def hexDigit? (c : Char) : Option Nat :=
  if '0' ≤ c && c ≤ '9' then some (c.toNat - 0x30)
  else if 'a' ≤ c && c ≤ 'f' then some (c.toNat - 0x57)
  else if 'A' ≤ c && c ≤ 'F' then some (c.toNat - 0x37)
  else none

/-- The value of four hexadecimal digits. -/
def hexWord? (a b c d : Char) : Option Nat := do
  return (((← hexDigit? a) * 16 + (← hexDigit? b)) * 16 + (← hexDigit? c)) * 16 + (← hexDigit? d)

/-! ### Between tokens -/

/-- What the characters between two tokens are part of. -/
inductive GapMode where
  | blank
  | lineComment
  | blockComment
deriving DecidableEq, Repr

/-- What stands between two tokens. -/
structure Gap where
  /-- Where the next token starts. -/
  cursor : Cursor
  /-- Whether a line ended in between. -/
  hasLine : Bool
  /-- Where the first comment in the markup style starts, if there is one. -/
  mark : Option Nat
deriving Repr

/-- Skips white space and comments. A line comment also starts in the markup style: with `<!--`, and at
the start of a line with `-->`. A comment over several lines counts as a line end, and one that is
never closed reaches to the end of the text. -/
def skipGap : GapMode → (hasLine : Bool) → (mark : Option Nat) → (offset : Nat) → Text → Gap
  | _, hasLine, mark, offset, [] => ⟨⟨[], offset⟩, hasLine, mark⟩
  | .blank, hasLine, mark, offset, c :: rest =>
    if isLineTerminator c then skipGap .blank true mark (offset + c.utf8Size) rest
    else if isBlank c then skipGap .blank hasLine mark (offset + c.utf8Size) rest
    else
      match c, rest with
      | '/', '/' :: rest => skipGap .lineComment hasLine mark (offset + 2) rest
      | '/', '*' :: rest => skipGap .blockComment hasLine mark (offset + 2) rest
      | '<', '!' :: '-' :: '-' :: rest =>
        skipGap .lineComment hasLine (mark <|> some offset) (offset + 4) rest
      | '-', '-' :: '>' :: rest =>
        if hasLine then skipGap .lineComment hasLine (mark <|> some offset) (offset + 3) rest
        else ⟨⟨'-' :: '-' :: '>' :: rest, offset⟩, hasLine, mark⟩
      | c, rest => ⟨⟨c :: rest, offset⟩, hasLine, mark⟩
  | .lineComment, hasLine, mark, offset, c :: rest =>
    if isLineTerminator c then skipGap .blank true mark (offset + c.utf8Size) rest
    else skipGap .lineComment hasLine mark (offset + c.utf8Size) rest
  | .blockComment, hasLine, mark, offset, '*' :: '/' :: rest =>
    skipGap .blank hasLine mark (offset + 2) rest
  | .blockComment, hasLine, mark, offset, c :: rest =>
    skipGap .blockComment (hasLine || isLineTerminator c) mark (offset + c.utf8Size) rest

/-! ### Escapes -/

/-- The value of hexadecimal digits up to a closing brace, of which there is at least one, and the
number of characters read with the brace. A low line among the digits is skipped. -/
def bracedFrom (value count : Nat) (hasDigit : Bool) : Text → Option (Nat × Nat)
  | [] => none
  | c :: rest =>
    if c = '\x7d' then if hasDigit then some (value, count + 1) else none
    else if c = '_' then bracedFrom value (count + 1) hasDigit rest
    else
      match hexDigit? c with
      | some digit => bracedFrom (16 * value + digit) (count + 1) true rest
      | none => none

/-- The code point that an escape stands for, read after the letter `u`, and the number of characters
it takes: four digits, or digits in braces. -/
def codeEscape? : Text → Option (Nat × Nat)
  | '\x7b' :: rest =>
    match bracedFrom 0 1 false rest with
    | some (code, count) => if code < 0x110000 then some (code, count) else none
    | none => none
  | a :: b :: c :: d :: _ => (hexWord? a b c d).map fun code => (code, 4)
  | _ => none

/-- Whether two hexadecimal digits come next. -/
def startsWithByte : Text → Bool
  | a :: b :: _ => (hexDigit? a).isSome && (hexDigit? b).isSome
  | _ => false

/-- Whether what follows a backslash is an escape. -/
def isEscape : Text → Bool
  | [] => false
  | 'u' :: rest => (codeEscape? rest).isSome
  | 'x' :: rest => startsWithByte rest
  | _ :: _ => true

/-- A digit of an octal number. -/
def isOctal (c : Char) : Bool :=
  '0' ≤ c && c ≤ '7'

/-- Whether what follows a backslash is an escape of a template, where an octal number is none. -/
def isTemplateEscape : Text → Bool
  | '0' :: rest => !rest.head?.any isOctal
  | c :: rest => !isOctal c && isEscape (c :: rest)
  | [] => false

/-! ### Words -/

/-- A word that was read. -/
structure Spelled where
  /-- The characters of the word, its escapes resolved. -/
  name : Text
  escaped : Bool
  /-- Whether every escape stands for a code point. -/
  valid : Bool
  cursor : Cursor
deriving Repr

/-- Reads on in a word whose characters so far are given latest first, after skipping a number of
characters that belong to an escape. An escape may stand for any code point. -/
def spellFrom (name : Text) (escaped : Bool) (skip offset : Nat) : Text → Spelled
  | [] => ⟨name.reverse, escaped, true, ⟨[], offset⟩⟩
  | c :: rest =>
    match skip with
    | skip + 1 => spellFrom name escaped skip (offset + c.utf8Size) rest
    | 0 =>
      if c = '\\' then
        match rest with
        | 'u' :: rest' =>
          match codeEscape? rest' with
          | some (code, count) => spellFrom (Char.ofNat code :: name) true (count + 1) (offset + 1) rest
          | none => ⟨name.reverse, true, false, ⟨rest', offset + 2⟩⟩
        | _ => ⟨name.reverse, true, false, ⟨rest, offset + 1⟩⟩
      else if isNamePart c then spellFrom (c :: name) escaped 0 (offset + c.utf8Size) rest
      else ⟨name.reverse, escaped, true, ⟨c :: rest, offset⟩⟩

/-- Reads a word. -/
def spell (cursor : Cursor) : Spelled :=
  spellFrom [] false 0 cursor.offset cursor.rest

/-! ### Literals -/

/-- Reads to the end of a quoted text, past its closing quote, and tells whether all its escapes are
some. A line feed or carriage return ends the text too, and is not part of it. -/
def quotedFrom (quote : Char) (escaped : Bool) (offset : Nat) : Text → Bool × Cursor
  | [] => (!escaped, ⟨[], offset⟩)
  | c :: rest =>
    if escaped then
      match c, rest with
      | '\r', '\n' :: rest => quotedFrom quote false (offset + 2) rest
      | c, rest =>
        if isEscape (c :: rest) then quotedFrom quote false (offset + c.utf8Size) rest
        else (false, ⟨rest, offset + c.utf8Size⟩)
    else if c = quote then (true, ⟨rest, offset + 1⟩)
    else if c = '\n' || c = '\r' then (true, ⟨c :: rest, offset⟩)
    else quotedFrom quote (c == '\\') (offset + c.utf8Size) rest

/-- A decimal digit or the low line that separates digits. -/
def isDigitPart (c : Char) : Bool :=
  c.isDigit || c == '_'

/-- The digits that the characters between two cursors hold. -/
def digitsBetween (start stop : Cursor) : Text :=
  start.rest.take (stop.offset - start.offset)

/-- The exponent of a number, if one starts here. A mark of an exponent without digits is refused. -/
def exponent? (cursor : Cursor) : Option Cursor :=
  match cursor.rest with
  | e :: rest =>
    if e = 'e' || e = 'E' then
      let signed : Cursor :=
        match rest with
        | '+' :: rest => ⟨rest, cursor.offset + 2⟩
        | '-' :: rest => ⟨rest, cursor.offset + 2⟩
        | rest => ⟨rest, cursor.offset + 1⟩
      let digits := signed.skipWhile isDigitPart
      if (digitsBetween signed digits).any Char.isDigit then some digits else none
    else
      some cursor
  | [] => some cursor

/-- Skips the mark of a large number. -/
def skipLargeMark (cursor : Cursor) : Cursor :=
  if cursor.head? = some 'n' then cursor.skipAscii 1 else cursor

/-- Reads the digits of a number to a base that a mark such as `0x` announces. -/
def based? (isDigit : Char → Bool) (cursor : Cursor) : Option Cursor :=
  let start := cursor.skipAscii 2
  let digits := start.skipWhile fun c => isDigit c || c == '_'
  if (digitsBetween start digits).any isDigit then some (skipLargeMark digits) else none

/-- Reads a decimal number. Digits after a leading zero make an octal number, which has no fraction and
no exponent, unless one of them is no octal digit. -/
def decimal? (cursor : Cursor) : Option Cursor :=
  let whole := cursor.skipWhile isDigitPart
  let digits := digitsBetween cursor whole
  let leadingZero := digits.head? = some '0' && 1 < digits.length
  if leadingZero && !digits.any (fun c => c == '8' || c == '9') then some whole
  else if whole.head? = some 'n' && !digits.isEmpty && !leadingZero then some (whole.skipAscii 1)
  else
    match whole.rest with
    | '.' :: _ => exponent? ((whole.skipAscii 1).skipWhile isDigitPart)
    | _ => exponent? whole

/-- Reads a number without checking what follows it. -/
def numeral? (cursor : Cursor) : Option Cursor :=
  match cursor.rest with
  | '0' :: c :: _ =>
    if c = 'x' || c = 'X' then based? (fun d => (hexDigit? d).isSome) cursor
    else if c = 'o' || c = 'O' then based? isOctal cursor
    else if c = 'b' || c = 'B' then based? (fun d => d == '0' || d == '1') cursor
    else decimal? cursor
  | _ => decimal? cursor

/-- Reads a number. No name follows it directly. -/
def number? (cursor : Cursor) : Option Cursor := do
  let whole ← numeral? cursor
  if whole.head?.any isNameStart then none else some whole

/-- Reads a regular expression after its first slash, past its flags. Inside a class, a slash is a
character like any other. -/
def patternFrom (inClass : Bool) (offset : Nat) : Text → Option Cursor
  | [] => none
  | c :: rest =>
    if isLineTerminator c then none
    else if c = '\\' then
      match rest with
      | d :: rest =>
        if isLineTerminator d then none
        else patternFrom inClass (offset + 1 + d.utf8Size) rest
      | [] => none
    else if c = '[' then patternFrom true (offset + 1) rest
    else if c = ']' then patternFrom false (offset + 1) rest
    else if c = '/' && !inClass then some (Cursor.skipFrom isNamePart (offset + 1) rest)
    else patternFrom inClass (offset + c.utf8Size) rest

/-- The characters of a template up to its end or to its next substitution. -/
structure TemplatePiece where
  /-- Whether a substitution follows. -/
  isOpen : Bool
  /-- Whether every escape is one. -/
  valid : Bool
  /-- What stands after the mark that ends the piece. -/
  cursor : Cursor
deriving Repr

/-- Reads the characters of a template up to its end or to its next substitution. -/
def templateFrom (valid escaped : Bool) (offset : Nat) : Text → Option TemplatePiece
  | [] => none
  | c :: rest =>
    if escaped then
      templateFrom (valid && isTemplateEscape (c :: rest)) false (offset + c.utf8Size) rest
    else if c = '\x60' then some ⟨false, valid, ⟨rest, offset + 1⟩⟩
    else if c = '$' then
      match rest with
      | '\x7b' :: rest => some ⟨true, valid, ⟨rest, offset + 2⟩⟩
      | rest => templateFrom valid false (offset + 1) rest
    else templateFrom valid (c == '\\') (offset + c.utf8Size) rest

/-! ### Punctuation -/

/-- The longest punctuator at the start of a text, with its length. -/
def mark? : Text → Option (Punctuator × Nat)
  | '(' :: _ => some (.lparen, 1)
  | ')' :: _ => some (.rparen, 1)
  | '\x7b' :: _ => some (.lbrace, 1)
  | '\x7d' :: _ => some (.rbrace, 1)
  | '[' :: _ => some (.lbracket, 1)
  | ']' :: _ => some (.rbracket, 1)
  | ';' :: _ => some (.semicolon, 1)
  | ',' :: _ => some (.comma, 1)
  | ':' :: _ => some (.colon, 1)
  | '@' :: _ => some (.at, 1)
  | '~' :: _ => some (.tilde, 1)
  | '\x60' :: _ => some (.backquote, 1)
  | '>' :: _ => some (.greater, 1)
  | '.' :: '.' :: '.' :: _ => some (.ellipsis, 3)
  | '.' :: _ => some (.dot, 1)
  | '?' :: '?' :: '=' :: _ => some (.compound, 3)
  | '?' :: '?' :: _ => some (.coalesce, 2)
  | '?' :: '.' :: c :: _ => if c.isDigit then some (.question, 1) else some (.questionDot, 2)
  | '?' :: '.' :: _ => some (.questionDot, 2)
  | '?' :: _ => some (.question, 1)
  | '=' :: '=' :: '=' :: _ => some (.equality, 3)
  | '=' :: '=' :: _ => some (.equality, 2)
  | '=' :: '>' :: _ => some (.arrow, 2)
  | '=' :: _ => some (.equal, 1)
  | '!' :: '=' :: '=' :: _ => some (.equality, 3)
  | '!' :: '=' :: _ => some (.equality, 2)
  | '!' :: _ => some (.bang, 1)
  | '+' :: '+' :: _ => some (.plusPlus, 2)
  | '+' :: '=' :: _ => some (.compound, 2)
  | '+' :: _ => some (.plus, 1)
  | '-' :: '-' :: _ => some (.minusMinus, 2)
  | '-' :: '=' :: _ => some (.compound, 2)
  | '-' :: _ => some (.minus, 1)
  | '*' :: '*' :: '=' :: _ => some (.compound, 3)
  | '*' :: '*' :: _ => some (.starStar, 2)
  | '*' :: '=' :: _ => some (.compound, 2)
  | '*' :: _ => some (.star, 1)
  | '%' :: '=' :: _ => some (.compound, 2)
  | '%' :: _ => some (.percent, 1)
  | '/' :: '=' :: _ => some (.slashEqual, 2)
  | '/' :: _ => some (.slash, 1)
  | '<' :: '<' :: '=' :: _ => some (.compound, 3)
  | '<' :: '<' :: _ => some (.lessLess, 2)
  | '<' :: '=' :: _ => some (.lessEqual, 2)
  | '<' :: _ => some (.less, 1)
  | '&' :: '&' :: '=' :: _ => some (.compound, 3)
  | '&' :: '&' :: _ => some (.andAnd, 2)
  | '&' :: '=' :: _ => some (.compound, 2)
  | '&' :: _ => some (.ampersand, 1)
  | '|' :: '|' :: '=' :: _ => some (.compound, 3)
  | '|' :: '|' :: _ => some (.orOr, 2)
  | '|' :: '=' :: _ => some (.compound, 2)
  | '|' :: _ => some (.pipe, 1)
  | '^' :: '=' :: _ => some (.compound, 2)
  | '^' :: _ => some (.caret, 1)
  | _ => none

/-- What an operator that starts with a greater-than sign does. -/
inductive Greater where
  | compare
  | shift
  | assign
deriving DecidableEq, Repr

/-- The operator at a greater-than sign, with its length. -/
def greater : Text → Greater × Nat
  | '>' :: '>' :: '>' :: '=' :: _ => (.assign, 4)
  | '>' :: '>' :: '>' :: _ => (.shift, 3)
  | '>' :: '>' :: '=' :: _ => (.assign, 3)
  | '>' :: '>' :: _ => (.shift, 2)
  | '>' :: '=' :: _ => (.compare, 2)
  | _ => (.compare, 1)

/-! ### Tokens -/

/-- A token with the cursors at its start and after it. -/
structure Lexeme where
  token : Token
  here : Cursor
  after : Cursor
deriving Repr

/-- The token kind of a word. -/
def Spelled.kind (word : Spelled) : TokenKind :=
  if !word.valid || word.name.isEmpty then .invalid
  else if word.escaped then .word (Keyword.ofEscaped? word.name) word.name
  else .word (Keyword.ofSpelling? word.name) word.name

/-- The kind of the token at a cursor, and the cursor after it. A character of code zero ends the text
like its end. -/
def kindAt (cursor : Cursor) : TokenKind × Cursor :=
  match cursor.rest with
  | [] => (.done, cursor)
  | c :: rest =>
    let next : Cursor := ⟨rest, cursor.offset + c.utf8Size⟩
    if c == '\x00' then (.done, cursor)
    else if isNameStart c || c == '\\' then
      let word := spell cursor
      (word.kind, word.cursor)
    else if c.isDigit || (c == '.' && rest.head?.any Char.isDigit) then
      match number? cursor with
      | some after => (.number, after)
      | none => (.invalid, next)
    else if c == '\x22' || c == '\x27' then
      let (valid, after) := quotedFrom c false next.offset rest
      (if valid then .quoted else .invalid, after)
    else if c == '#' then
      let word := spell next
      if word.valid && rest.head?.any (fun c => isNameStart c || c == '\\') then
        (.privateName, word.cursor)
      else (.invalid, next)
    else
      match mark? cursor.rest with
      | some (mark, length) => (.punctuator mark, cursor.skipAscii length)
      | none => (.invalid, next)

/-- Reads the token after a cursor. A comment in the markup style counts as part of the token that
follows it. -/
def next (cursor : Cursor) (hasLine : Bool) : Lexeme :=
  let gap := skipGap .blank hasLine none cursor.offset cursor.rest
  let (kind, after) := kindAt gap.cursor
  let start := gap.mark.getD gap.cursor.offset
  ⟨⟨kind, ⟨start, after.offset⟩, gap.hasLine⟩, gap.cursor, after⟩

/-- Skips a first line that names the program to run the file with. -/
def skipInterpreterLine (text : Text) : Cursor :=
  match text with
  | '#' :: '!' :: rest => Cursor.skipFrom (fun c => !isLineTerminator c) 2 rest
  | text => ⟨text, 0⟩

end Scan

end BraceLint
