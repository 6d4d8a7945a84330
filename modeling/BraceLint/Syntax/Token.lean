import BraceLint.Text.Basic

/-!
Tokens of programs. Words are names and keywords alike, since most keywords are names in some
places; a word carries the keyword it spells, if any. Operators that behave alike in the grammar
share a constructor.
-/

namespace BraceLint

/-- Words with a meaning of their own somewhere in the grammar. -/
inductive Keyword where
  | abstract_ | accessor | as | asserts | assert | async | await | break_ | case_ | catch_ | class_
  | const | continue_ | debugger | declare | default_ | defer | delete | do_ | else_ | enum
  | export_ | extends_ | false_ | finally_ | for_ | from_ | function | get | global | if_
  | implements | import_ | in_ | infer | instanceof | interface | is | keyof | let_ | meta_ | module_
  | namespace_ | new | null | of | out | override | package_ | private_ | protected_ | public_ | readonly
  | require | return_ | satisfies | set | source | static | super | switch | target | this | throw | true_
  | try_ | type | typeof | unique | using | var | void | while_ | with_ | yield
  /-- A reserved word that is spelled with an escape. It names a property and nothing else. -/
  | disguised
deriving DecidableEq, Repr

namespace Keyword

/-- The spellings of the reserved words, which are never names of variables. -/
def reserved : List (String × Keyword) :=
  [("break", .break_), ("case", .case_), ("catch", .catch_), ("class", .class_), ("const", .const),
    ("continue", .continue_), ("debugger", .debugger), ("default", .default_),
    ("delete", .delete), ("do", .do_), ("else", .else_), ("enum", .enum), ("export", .export_),
    ("extends", .extends_), ("false", .false_), ("finally", .finally_), ("for", .for_),
    ("function", .function), ("if", .if_), ("import", .import_), ("in", .in_),
    ("instanceof", .instanceof), ("new", .new), ("null", .null), ("return", .return_),
    ("super", .super), ("switch", .switch), ("this", .this), ("throw", .throw), ("true", .true_),
    ("try", .try_), ("typeof", .typeof), ("var", .var), ("void", .void), ("while", .while_),
    ("with", .with_)]

/-- The spellings of the words that are keywords in some places and names in others. -/
def contextual : List (String × Keyword) :=
  [("abstract", .abstract_), ("accessor", .accessor), ("as", .as), ("asserts", .asserts),
    ("assert", .assert), ("async", .async), ("await", .await), ("declare", .declare),
    ("defer", .defer), ("from", .from_), ("get", .get), ("global", .global),
    ("implements", .implements), ("infer", .infer), ("interface", .interface), ("is", .is),
    ("keyof", .keyof), ("let", .let_), ("meta", .meta_), ("module", .module_),
    ("namespace", .namespace_), ("of", .of), ("out", .out), ("override", .override),
    ("package", .package_), ("private", .private_), ("protected", .protected_), ("public", .public_),
    ("readonly", .readonly), ("require", .require), ("satisfies", .satisfies), ("set", .set),
    ("source", .source), ("static", .static), ("target", .target), ("type", .type), ("unique", .unique),
    ("using", .using), ("yield", .yield)]

/-- The reserved words with their spellings as characters. -/
def reservedSpellings : List (Text × Keyword) :=
  reserved.map fun entry => (entry.1.toList, entry.2)

/-- All keywords with their spellings as characters. -/
def spellings : List (Text × Keyword) :=
  reservedSpellings ++ contextual.map fun entry => (entry.1.toList, entry.2)

/-- The keyword that a name spells. -/
def ofSpelling? (name : Text) : Option Keyword :=
  spellings.lookup name

/-- The keyword for a name that was written with an escape. A reserved word is only in disguise, and
every other keyword is as good as one without escapes. -/
def ofEscaped? (name : Text) : Option Keyword :=
  if (reservedSpellings.lookup name).isSome then some .disguised else ofSpelling? name

/-- Whether the word can never name a variable. -/
def isReserved (keyword : Keyword) : Bool :=
  keyword == .disguised || reserved.any fun entry => entry.2 == keyword

end Keyword

/-- Punctuation and operators. -/
inductive Punctuator where
  | lparen | rparen | lbrace | rbrace | lbracket | rbracket
  | semicolon | comma | colon | dot | ellipsis | question | questionDot | arrow | at
  | backquote
  /-- The plain assignment sign. -/
  | equal
  /-- An assignment that combines its two sides. -/
  | compound
  | less | greater | lessLess | lessEqual
  | plus | minus | plusPlus | minusMinus | star | starStar | percent | slash | slashEqual
  | bang | tilde | ampersand | pipe | caret
  | andAnd | orOr | coalesce
  /-- One of the four comparisons for equality. -/
  | equality
deriving DecidableEq, Repr

/-- What a token is. -/
inductive TokenKind where
  | word (keyword : Option Keyword) (name : Text)
  | privateName
  | number
  | quoted
  | punctuator (mark : Punctuator)
  /-- The end of the text. -/
  | done
  /-- Characters that start no token. -/
  | invalid
deriving DecidableEq, Repr

/-- A token with the bytes it covers. -/
structure Token where
  kind : TokenKind
  span : Span
  /-- Whether a line terminator stands between this token and the one before it. -/
  afterLine : Bool
deriving DecidableEq, Repr

namespace Token

/-- Whether a token is the given punctuator. -/
def isMark (token : Token) (mark : Punctuator) : Bool :=
  match token.kind with
  | .punctuator found => found == mark
  | _ => false

/-- Whether a token is the given keyword. -/
def isKeyword (token : Token) (keyword : Keyword) : Bool :=
  match token.kind with
  | .word (some found) _ => found == keyword
  | _ => false

/-- The keyword a token spells. -/
def keyword? (token : Token) : Option Keyword :=
  match token.kind with
  | .word keyword _ => keyword
  | _ => none

/-- The punctuator a token is. -/
def mark? (token : Token) : Option Punctuator :=
  match token.kind with
  | .punctuator mark => some mark
  | _ => none

/-- Whether a token is a word of any kind. -/
def isWord (token : Token) : Bool :=
  match token.kind with
  | .word _ _ => true
  | _ => false

/-- Whether a token can name a variable. -/
def isName (token : Token) : Bool :=
  match token.kind with
  | .word keyword _ => !keyword.any Keyword.isReserved
  | _ => false

/-- Whether a token is the end of the text. -/
def isDone (token : Token) : Bool :=
  match token.kind with
  | .done => true
  | _ => false

end Token

end BraceLint
