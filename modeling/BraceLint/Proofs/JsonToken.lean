import BraceLint.Json
import Mathlib.Algebra.Field.Rat
import Mathlib.Data.List.TakeWhile
import Mathlib.Tactic.SplitIfs

/-! Tokens of JSON texts. A text is read from left to right: blanks between tokens are skipped, marks
stand for themselves, a string goes on to the next quote that is not escaped, and everything else is in
words, which have to be numbers or one of three names. This reads every JSON text, and what is printed
is read back: a quoted string as the string, and the digits of a number as the number. -/

namespace BraceLint.Json

/-- What a JSON text stands for. The members of an object are in their order. -/
inductive Value where
  | null
  | bool (value : Bool)
  | number (value : Rat)
  | string (value : String)
  | array (items : List Value)
  | object (members : List (String × Value))

/-- What a JSON text consists of. Values without parts are tokens. -/
inductive Token where
  | leftBracket
  | rightBracket
  | leftBrace
  | rightBrace
  | comma
  | colon
  | atom (value : Value)

/-! ### Numbers -/

/-- Digits before the point of a number: there is one at least, and no zero in front of others. -/
def isWhole (digits : Text) : Bool :=
  digits == ['0'] || (digits != [] && digits.head? != some '0')

def natural? (digits : Text) : Option Nat :=
  if digits ≠ [] ∧ digits.all Char.isDigit then some (Nat.ofDigitChars 10 digits 0) else none

/-- The digits behind the point, if there is one, and what comes after them. -/
def fraction? : Text → Option (Text × Text)
  | '.' :: text =>
    let digits := text.takeWhile Char.isDigit
    if digits = [] then none else some (digits, text.dropWhile Char.isDigit)
  | text => some ([], text)

/-- By how many places the exponent moves the point to the right and to the left. One of these numbers
is zero. -/
def exponent? : Text → Option (Nat × Nat)
  | [] => some (0, 0)
  | c :: text =>
    if c = 'e' ∨ c = 'E' then
      match text with
      | '-' :: digits => (natural? digits).map fun places => (0, places)
      | '+' :: digits => (natural? digits).map fun places => (places, 0)
      | digits => (natural? digits).map fun places => (places, 0)
    else none

/-- The value of a number without a sign. -/
def magnitude? (text : Text) : Option Rat := do
  let whole := text.takeWhile Char.isDigit
  guard (isWhole whole)
  let (fraction, rest) ← fraction? (text.dropWhile Char.isDigit)
  let (right, left) ← exponent? rest
  let value := Nat.ofDigitChars 10 (whole ++ fraction) 0 * 10 ^ right
  return mkRat value (10 ^ (fraction.length + left))

def number? : Text → Option Rat
  | '-' :: text => (magnitude? text).map fun value => -value
  | text => magnitude? text

def word? (word : Text) : Option Value :=
  if word = ['n', 'u', 'l', 'l'] then some .null
  else if word = ['t', 'r', 'u', 'e'] then some (.bool true)
  else if word = ['f', 'a', 'l', 's', 'e'] then some (.bool false)
  else (number? word).map .number

/-! ### Strings -/

/-- A part of a string: a character, or a code unit of UTF-16. -/
inductive Part where
  | character (c : Char)
  | unit (value : Nat)

def hexValue? (c : Char) : Option Nat :=
  if c.isDigit then some (c.toNat - 0x30)
  else if 'a' ≤ c ∧ c ≤ 'f' then some (c.toNat - 0x57)
  else if 'A' ≤ c ∧ c ≤ 'F' then some (c.toNat - 0x37)
  else none

/-- The code unit that four hexadecimal digits stand for. -/
def unit? (a b c d : Char) : Option Nat := do
  return 0x1000 * (← hexValue? a) + 0x100 * (← hexValue? b) + 0x10 * (← hexValue? c) + (← hexValue? d)

/-- The character that a letter behind a backslash stands for. -/
def escaped? (letter : Char) : Option Char :=
  if letter = '\x22' then some '\x22'
  else if letter = '\\' then some '\\'
  else if letter = '/' then some '/'
  else if letter = 'b' then some '\x08'
  else if letter = 'f' then some '\x0c'
  else if letter = 'n' then some '\n'
  else if letter = 'r' then some '\r'
  else if letter = 't' then some '\t'
  else none

/-- The parts of a string. Control characters have to be escaped. -/
def parts? : Text → Option (List Part)
  | [] => some []
  | '\\' :: 'u' :: a :: b :: c :: d :: text => do return .unit (← unit? a b c d) :: (← parts? text)
  | '\\' :: letter :: text => do return .character (← escaped? letter) :: (← parts? text)
  | c :: text =>
    if c = '\\' ∨ c.toNat < 0x20 then none
    else (parts? text).map fun parts => .character c :: parts

/-- The characters that parts of a string stand for. A code unit is a character, or the first or second
half of one, and halves come in pairs. -/
def joined? : List Part → Option Text
  | [] => some []
  | .character c :: parts => (joined? parts).map fun text => c :: text
  | .unit first :: parts =>
    if first < 0xD800 ∨ 0xE000 ≤ first then (joined? parts).map fun text => Char.ofNat first :: text
    else
      match parts with
      | .unit second :: parts =>
        if first < 0xDC00 ∧ 0xDC00 ≤ second ∧ second < 0xE000 then
          (joined? parts).map fun text =>
            Char.ofNat (0x10000 + 0x400 * (first - 0xD800) + (second - 0xDC00)) :: text
        else none
      | _ => none

/-- The string that is written between two quotes. -/
def unescaped? (text : Text) : Option String := do
  return String.ofList (← joined? (← parts? text))

/-! ### Tokens -/

/-- The four characters that may stand between tokens. -/
def isSpace (c : Char) : Bool :=
  c == ' ' || c == '\t' || c == '\n' || c == '\r'

def mark? (c : Char) : Option Token :=
  if c = '[' then some .leftBracket
  else if c = ']' then some .rightBracket
  else if c = '\x7b' then some .leftBrace
  else if c = '\x7d' then some .rightBrace
  else if c = ',' then some .comma
  else if c = ':' then some .colon
  else none

/-- The other characters are in words. -/
def isLetter (c : Char) : Bool :=
  !isSpace c && c != '\x22' && (mark? c).isNone

/-- Where reading has come to in a text. What has been read of a word or of a string is kept with the
latest character first. -/
inductive Place where
  | between
  | word (letters : Text)
  | string (written : Text)
  | escape (written : Text)

def begun (c : Char) : List Token × Place :=
  if isSpace c then ([], .between)
  else if c = '\x22' then ([], .string [])
  else
    match mark? c with
    | some token => ([token], .between)
    | none => ([], .word [c])

/-- The tokens that end at a character, and the place behind it. -/
def advanced? : Place → Char → Option (List Token × Place)
  | .between, c => some (begun c)
  | .word letters, c =>
    if isLetter c then some ([], .word (c :: letters))
    else (word? letters.reverse).map fun value => (.atom value :: (begun c).1, (begun c).2)
  | .string written, c =>
    if c = '\x22' then
      (unescaped? written.reverse).map fun value => ([.atom (.string value)], .between)
    else if c = '\\' then some ([], .escape (c :: written))
    else some ([], .string (c :: written))
  | .escape written, c => some ([], .string (c :: written))

/-- The tokens of the rest of a text. -/
def tokens? : Place → Text → Option (List Token)
  | .between, [] => some []
  | .word letters, [] => (word? letters.reverse).map fun value => [.atom value]
  | .string _, [] => none
  | .escape _, [] => none
  | place, c :: text =>
    (advanced? place c).bind fun step => (tokens? step.2 text).map fun tokens => step.1 ++ tokens

/-! ### What is printed is read -/

/-- A text that does not go on with a word. -/
def EndsWord (text : Text) : Prop :=
  ∀ c ∈ text.head?, isLetter c = false

/-- One character is read after the other. -/
theorem tokens?_cons {place next : Place} {c : Char} {ended : List Token}
    (h : advanced? place c = some (ended, next)) (text : Text) :
    tokens? place (c :: text) = (tokens? next text).map fun tokens => ended ++ tokens := by
  rw [tokens?, h, Option.bind_some]

theorem tokens?_between_cons (c : Char) (text : Text) :
    tokens? .between (c :: text) = (tokens? (begun c).2 text).map fun tokens => (begun c).1 ++ tokens :=
  tokens?_cons rfl text

theorem tokens?_space {c : Char} (h : isSpace c = true) (text : Text) :
    tokens? .between (c :: text) = tokens? .between text := by
  rw [tokens?_between_cons, begun, if_pos h]
  exact Option.map_id'

theorem tokens?_mark {c : Char} {token : Token} (hmark : mark? c = some token)
    (hspace : isSpace c = false) (hquote : c ≠ '\x22') (text : Text) :
    tokens? .between (c :: text) = (tokens? .between text).map fun tokens => token :: tokens := by
  rw [tokens?_between_cons, begun, if_neg (Bool.not_eq_true _ ▸ hspace), if_neg hquote, hmark]
  rfl

theorem begun_letter {c : Char} (h : isLetter c = true) : begun c = ([], .word [c]) := by
  simp only [isLetter, Bool.and_eq_true, Bool.not_eq_true', bne_iff_ne, Option.isNone_iff_eq_none] at h
  rw [begun, h.2, if_neg (by simp [h.1.1]), if_neg h.1.2]

theorem tokens?_letters {letters : Text} (h : ∀ c ∈ letters, isLetter c = true) (read text : Text) :
    tokens? (.word read) (letters ++ text) = tokens? (.word (letters.reverse ++ read)) text := by
  induction letters generalizing read with
  | nil => rfl
  | cons c letters ih =>
      rw [List.forall_mem_cons] at h
      have hstep : advanced? (.word read) c = some ([], .word (c :: read)) := by
        rw [advanced?, if_pos h.1]
      rw [List.cons_append, tokens?_cons hstep, ih h.2, List.reverse_cons, List.append_assoc,
        List.singleton_append]
      exact Option.map_id'

theorem tokens?_endsWord {letters text : Text} {value : Value} (hend : EndsWord text)
    (hword : word? letters.reverse = some value) :
    tokens? (.word letters) text = (tokens? .between text).map fun tokens => .atom value :: tokens := by
  cases text with
  | nil => rw [tokens?, tokens?, hword]; rfl
  | cons c text =>
      have hstep : advanced? (.word letters) c = some (.atom value :: (begun c).1, (begun c).2) := by
        rw [advanced?, if_neg (Bool.not_eq_true _ ▸ hend c rfl), hword]
        rfl
      rw [tokens?_cons hstep, tokens?_between_cons, Option.map_map]
      rfl

/-- A word is read up to its end. -/
theorem tokens?_word {word text : Text} {value : Value} (hne : word ≠ [])
    (hletters : ∀ c ∈ word, isLetter c = true) (hend : EndsWord text)
    (hword : word? word = some value) :
    tokens? .between (word ++ text) = (tokens? .between text).map fun tokens => .atom value :: tokens := by
  cases word with
  | nil => exact absurd rfl hne
  | cons c letters =>
      rw [List.forall_mem_cons] at hletters
      rw [List.cons_append, tokens?_between_cons, begun_letter hletters.1]
      simp only [List.nil_append, Option.map_id']
      rw [tokens?_letters hletters.2, tokens?_endsWord hend (by simpa using hword)]

/-! ### Digits -/

theorem isLetter_of_isDigit {c : Char} (h : c.isDigit = true) : isLetter c = true := by
  have hne : ∀ d : Char, d.isDigit = false → c ≠ d := by
    rintro d hd rfl
    rw [h] at hd
    cases hd
  have hspace : isSpace c = false := by
    simp [isSpace, hne ' ' rfl, hne '\t' rfl, hne '\n' rfl, hne '\r' rfl]
  have hmark : mark? c = none := by
    simp [mark?, hne '[' rfl, hne ']' rfl, hne '\x7b' rfl, hne '\x7d' rfl, hne ',' rfl, hne ':' rfl]
  simp [isLetter, hspace, hmark, hne '\x22' rfl]

theorem isDigit_of_mem_digits {n : Nat} {c : Char} (h : c ∈ digits n) : c.isDigit = true :=
  Nat.isDigit_of_mem_toDigits (by decide) (by decide) h

/-- Only the digits of zero start with a zero. -/
theorem eq_zero_of_head?_digits {n : Nat} (h : (digits n).head? = some '0') : n = 0 := by
  induction n using Nat.strong_induction_on with
  | _ n ih =>
      rw [digits, Nat.toDigits_eq_if (by decide)] at h
      split_ifs at h with hsmall
      · simpa using h
      · rw [List.head?_append, Option.or_eq_some_iff] at h
        obtain hhead | ⟨hnone, -⟩ := h
        · have := ih (n / 10) (by omega) hhead
          omega
        · exact absurd (List.head?_eq_none_iff.mp hnone) Nat.toDigits_ne_nil

theorem isWhole_digits (n : Nat) : isWhole (digits n) = true := by
  by_cases hn : n = 0
  · subst hn
    decide
  · have hne : digits n ≠ [] := Nat.toDigits_ne_nil
    have hhead : (digits n).head? ≠ some '0' := fun hhead => hn (eq_zero_of_head?_digits hhead)
    simp [isWhole, hne, hhead]

theorem number?_digits (n : Nat) : number? (digits n) = some (n : Rat) := by
  have hall : ∀ c ∈ digits n, c.isDigit = true := fun c => isDigit_of_mem_digits
  have hsign : number? (digits n) = magnitude? (digits n) := by
    rw [number?]
    intro text htext
    have hminus := hall '-' (by rw [htext]; exact List.mem_cons_self)
    cases hminus
  rw [hsign, magnitude?, List.takeWhile_eq_self_iff.mpr hall, List.dropWhile_eq_nil_iff.mpr hall]
  simp only [isWhole_digits, guard, if_true]
  simp [fraction?, exponent?, digits, Rat.mkRat_one]

theorem word?_digits (n : Nat) : word? (digits n) = some (.number n) := by
  have hne : ∀ {c : Char} {letters : Text}, c.isDigit = false → digits n ≠ c :: letters := by
    intro c letters hc hdigits
    have hdigit := isDigit_of_mem_digits (hdigits ▸ List.mem_cons_self)
    rw [hc] at hdigit
    cases hdigit
  rw [word?, if_neg (hne rfl), if_neg (hne rfl), if_neg (hne rfl), number?_digits]
  rfl

theorem tokens?_digits {text : Text} (hend : EndsWord text) (n : Nat) :
    tokens? .between (digits n ++ text) =
      (tokens? .between text).map fun tokens => .atom (.number n) :: tokens :=
  tokens?_word Nat.toDigits_ne_nil (fun _ hmem => isLetter_of_isDigit (isDigit_of_mem_digits hmem)) hend
    (word?_digits n)

/-! ### Quoted strings -/

/-- A character is written as it is, by a letter behind a backslash, or by its number. -/
theorem escape_cases (c : Char) :
    (escape c = [c] ∧ c ≠ '\x22' ∧ c ≠ '\\' ∧ ¬c.toNat < 0x20) ∨
    (∃ letter, escape c = ['\\', letter] ∧ letter ≠ 'u' ∧ escaped? letter = some c) ∨
    (escape c = ['\\', 'u', '0', '0', hexDigit (c.toNat / 16), hexDigit (c.toNat % 16)] ∧
      c.toNat < 0x20) := by
  -- Seven characters have a letter of their own.
  obtain rfl | hquote := eq_or_ne c '\x22'
  · exact Or.inr (Or.inl ⟨'\x22', rfl, by decide, rfl⟩)
  obtain rfl | hslash := eq_or_ne c '\\'
  · exact Or.inr (Or.inl ⟨'\\', rfl, by decide, rfl⟩)
  obtain rfl | hback := eq_or_ne c '\x08'
  · exact Or.inr (Or.inl ⟨'b', rfl, by decide, rfl⟩)
  obtain rfl | hfeed := eq_or_ne c '\x0c'
  · exact Or.inr (Or.inl ⟨'f', rfl, by decide, rfl⟩)
  obtain rfl | hnewline := eq_or_ne c '\n'
  · exact Or.inr (Or.inl ⟨'n', rfl, by decide, rfl⟩)
  obtain rfl | hreturn := eq_or_ne c '\r'
  · exact Or.inr (Or.inl ⟨'r', rfl, by decide, rfl⟩)
  obtain rfl | htab := eq_or_ne c '\t'
  · exact Or.inr (Or.inl ⟨'t', rfl, by decide, rfl⟩)
  simp only [escape, beq_iff_eq, hquote, hslash, hback, hfeed, hnewline, hreturn, htab, if_false]
  by_cases hcontrol : c.toNat < 0x20
  · rw [if_pos hcontrol]
    exact Or.inr (Or.inr ⟨rfl, hcontrol⟩)
  · rw [if_neg hcontrol]
    exact Or.inl ⟨rfl, hquote, hslash, hcontrol⟩

theorem hexValue?_hexDigit {n : Nat} (h : n < 16) : hexValue? (hexDigit n) = some n := by
  have hall : ∀ m < 16, hexValue? (hexDigit m) = some m := by decide
  exact hall n h

theorem hexDigit_ne {n : Nat} (h : n < 16) : hexDigit n ≠ '\x22' ∧ hexDigit n ≠ '\\' := by
  have hall : ∀ m < 16, hexDigit m ≠ '\x22' ∧ hexDigit m ≠ '\\' := by decide
  exact hall n h

theorem parts?_plain {c : Char} (hslash : c ≠ '\\') (hcontrol : ¬c.toNat < 0x20) (text : Text) :
    parts? (c :: text) = (parts? text).map fun parts => .character c :: parts := by
  rw [parts?, if_neg (not_or_intro hslash hcontrol)]
  · rintro a b d e rest hc
    exact absurd hc hslash
  · rintro letter rest hc
    exact absurd hc hslash

theorem parts?_letter {letter c : Char} (hne : letter ≠ 'u') (hescaped : escaped? letter = some c)
    (text : Text) : parts? ('\\' :: letter :: text) =
      (parts? text).map fun parts => .character c :: parts := by
  rw [parts?, hescaped]
  · cases parts? text <;> rfl
  · rintro a b d e rest hletter
    exact absurd hletter hne

theorem parts?_number {n : Nat} (h : n < 0x20) (text : Text) :
    parts? ('\\' :: 'u' :: '0' :: '0' :: hexDigit (n / 16) :: hexDigit (n % 16) :: text) =
      (parts? text).map fun parts => .unit n :: parts := by
  have hunit : unit? '0' '0' (hexDigit (n / 16)) (hexDigit (n % 16)) = some n := by
    have hvalue : 0x1000 * 0 + 0x100 * 0 + 0x10 * (n / 16) + n % 16 = n := by omega
    simp only [unit?, hexValue?_hexDigit (show n / 16 < 16 by omega),
      hexValue?_hexDigit (show n % 16 < 16 by omega), show hexValue? '0' = some 0 from rfl,
      Option.bind_eq_bind, Option.bind_some, hvalue]
    rfl
  rw [parts?, hunit]
  cases parts? text <;> rfl

theorem joined?_unit {c : Char} (h : c.toNat < 0x20) (parts : List Part) :
    joined? (.unit c.toNat :: parts) = (joined? parts).map fun text => c :: text := by
  -- A control character is not half of a character.
  have hwhole : c.toNat < 0xD800 ∨ 0xE000 ≤ c.toNat := by omega
  rw [joined?.eq_def]
  simp only [hwhole, if_true, Char.ofNat_toNat]

/-- An escaped character is one part of a string, and that part is the character. -/
theorem exists_part (c : Char) : ∃ part,
    (∀ text, parts? (escape c ++ text) = (parts? text).map fun parts => part :: parts) ∧
      ∀ parts, joined? (part :: parts) = (joined? parts).map fun text => c :: text := by
  obtain ⟨heq, -, hslash, hcontrol⟩ | ⟨letter, heq, hne, hescaped⟩ | ⟨heq, hcontrol⟩ := escape_cases c
  · exact ⟨.character c, fun text => heq ▸ parts?_plain hslash hcontrol text, fun _ => rfl⟩
  · exact ⟨.character c, fun text => heq ▸ parts?_letter hne hescaped text, fun _ => rfl⟩
  · exact ⟨.unit c.toNat, fun text => heq ▸ parts?_number hcontrol text, joined?_unit hcontrol⟩

theorem exists_parts_escape (text : Text) : ∃ parts,
    parts? (text.flatMap escape) = some parts ∧ joined? parts = some text := by
  induction text with
  | nil => exact ⟨[], rfl, rfl⟩
  | cons c text ih =>
      obtain ⟨parts, hparts, hjoined⟩ := ih
      obtain ⟨part, hpart, hjoin⟩ := exists_part c
      refine ⟨part :: parts, ?_, ?_⟩
      · rw [List.flatMap_cons, hpart, hparts, Option.map_some]
      · rw [hjoin, hjoined, Option.map_some]

theorem unescaped?_escape (text : Text) : unescaped? (text.flatMap escape) = some (String.ofList text) := by
  obtain ⟨parts, hparts, hjoined⟩ := exists_parts_escape text
  rw [unescaped?, hparts, Option.bind_eq_bind, Option.bind_some, hjoined]
  rfl

theorem tokens?_inside {c : Char} (hquote : c ≠ '\x22') (hslash : c ≠ '\\') (written text : Text) :
    tokens? (.string written) (c :: text) = tokens? (.string (c :: written)) text := by
  have hstep : advanced? (.string written) c = some ([], .string (c :: written)) := by
    rw [advanced?, if_neg hquote, if_neg hslash]
  rw [tokens?_cons hstep]
  exact Option.map_id'

theorem tokens?_escaped (c : Char) (written text : Text) :
    tokens? (.string written) ('\\' :: c :: text) = tokens? (.string (c :: '\\' :: written)) text := by
  have hslash : advanced? (.string written) '\\' = some ([], .escape ('\\' :: written)) := rfl
  have hletter : advanced? (.escape ('\\' :: written)) c =
      some ([], .string (c :: '\\' :: written)) := rfl
  rw [tokens?_cons hslash, tokens?_cons hletter, Option.map_map]
  exact Option.map_id'

/-- No escaped character ends the string it is in. -/
theorem tokens?_escape (c : Char) (written text : Text) :
    tokens? (.string written) (escape c ++ text) =
      tokens? (.string ((escape c).reverse ++ written)) text := by
  obtain ⟨heq, hquote, hslash, -⟩ | ⟨letter, heq, -⟩ | ⟨heq, hcontrol⟩ := escape_cases c
  · rw [heq]
    exact tokens?_inside hquote hslash written text
  · rw [heq]
    exact tokens?_escaped letter written text
  · have hhigh := hexDigit_ne (show c.toNat / 16 < 16 by omega)
    have hlow := hexDigit_ne (show c.toNat % 16 < 16 by omega)
    rw [heq]
    simp only [List.cons_append, List.nil_append]
    -- No digit is a quote or a backslash, so the four of them are written as they are.
    rw [tokens?_escaped, tokens?_inside (by decide) (by decide), tokens?_inside (by decide) (by decide),
      tokens?_inside hhigh.1 hhigh.2, tokens?_inside hlow.1 hlow.2]
    rfl

theorem tokens?_flatMap_escape (value written text : Text) :
    tokens? (.string written) (value.flatMap escape ++ text) =
      tokens? (.string ((value.flatMap escape).reverse ++ written)) text := by
  induction value generalizing written with
  | nil => rfl
  | cons c value ih =>
      rw [List.flatMap_cons, List.append_assoc, tokens?_escape, ih, List.reverse_append, List.append_assoc]

/-- A quoted string is read as the string. -/
theorem tokens?_quoted (value : String) (text : Text) :
    tokens? .between (quoted value ++ text) =
      (tokens? .between text).map fun tokens => .atom (.string value) :: tokens := by
  have hclose : advanced? (.string (value.toList.flatMap escape).reverse) '\x22' =
      some ([.atom (.string value)], .between) := by
    rw [advanced?, if_pos rfl, List.reverse_reverse, unescaped?_escape, String.ofList_toList]
    rfl
  rw [quoted, List.append_assoc, List.append_assoc, List.singleton_append, List.singleton_append,
    tokens?_between_cons]
  change (tokens? (.string []) (value.toList.flatMap escape ++ '\x22' :: text)).map _ = _
  rw [tokens?_flatMap_escape, List.append_nil, tokens?_cons hclose, Option.map_map]
  rfl

end BraceLint.Json
