import BraceLint.Syntax.Grammar.Type

/-!
Markup elements. The text between tags is not made of tokens, so an element is read up to its last
greater-than sign without going past it: whoever asked for the element knows whether text or a token
comes next.
-/

namespace BraceLint.Scan

/-- Reads the characters of a name in a tag, where a hyphen is a letter. -/
def markupNameFrom (name : Text) (offset : Nat) : Text → Text × Cursor
  | [] => (name.reverse, ⟨[], offset⟩)
  | c :: rest =>
    if Text.isNamePart c || c == '-' then markupNameFrom (c :: name) (offset + c.utf8Size) rest
    else (name.reverse, ⟨c :: rest, offset⟩)

/-- Reads to the end of a quoted text in a tag, which has no escapes and may span lines. -/
def markupQuotedFrom (quote : Char) (offset : Nat) : Text → Option Cursor
  | [] => none
  | c :: rest =>
    if c = quote then some ⟨rest, offset + 1⟩
    else markupQuotedFrom quote (offset + c.utf8Size) rest

/-- Skips text between tags. -/
def skipMarkupText (cursor : Cursor) : Cursor :=
  cursor.skipWhile fun c => c != '<' && c != '\x7b'

end BraceLint.Scan

namespace BraceLint.Grammar

open Parse

/-- Reads one part of a name in a tag. -/
def markupWord : Parse Text := do
  check (← token).isWord
  let cursor := (← lookahead).lexeme.here
  let (name, after) := Scan.markupNameFrom [] cursor.offset cursor.rest
  resume after
  return name

/-- Reads a name in a tag after its first part: nothing, or what its namespace holds. -/
def markupMember? : Parse (Option Text) := do
  if ← take .colon then return some (← markupWord) else return none

/-- Reads a name of an element with its namespace or its path. -/
def markupName : Parse (List Text) := do
  let first ← markupWord
  match ← markupMember? with
  | some member => return [first, [':'], member]
  | none =>
    let path ← gather do
      if ← take .dot then return some (← markupWord) else return none
    return first :: path

/-- Reads an expression in braces, up to the closing brace and not past it. -/
def markupHole (solve : Solver) : Parse (List Tree) := do
  expect .lbrace
  if ← sees .rbrace then return []
  else
    discard (take .ellipsis)
    let inner ← solve.tree .expression
    check (← sees .rbrace)
    return [inner]

/-- Reads the value of an attribute after its equals sign. -/
def markupValue (solve : Solver) : Parse (List Tree) := do
  let start ← here
  let ahead := (← lookahead).lexeme.after
  let cursor := (Scan.skipGap .blank false none ahead.offset ahead.rest).cursor
  match cursor.rest with
  | c :: rest =>
    if c == '\x22' || c == '\x27' then
      match Scan.markupQuotedFrom c (cursor.offset + 1) rest with
      | some after =>
        resume after
        return []
      | none => failAt start .unterminated
    else
      advance
      if ← sees .lbrace then
        let inner ← bracketed (within ({ · with inAttribute := true }) (markupHole solve))
        advance
        return inner
      else
        let inner ← solve.tree .element
        advance
        return [inner]
  | [] => unexpected

/-- Reads the attributes of a tag. What stands in braces among them is spread. -/
def markupAttributes (solve : Solver) : Parse (List Tree) :=
  gather do
    let start ← here
    if ← take .lbrace then
      expect .ellipsis
      let inner ← solve.tree .assignment
      expect .rbrace
      return some (← node start [inner])
    else if (← token).isWord then
      discard markupWord
      discard markupMember?
      let value ← if ← sees .equal then markupValue solve else pure []
      return some (← node start value)
    else
      return none

/-- Reads the children of an element and its closing tag, starting at the end of the opening tag. -/
def markupChildren (solve : Solver) (name : List Text) : Parse (List Tree) :=
  iterate [] fun found => do
    check (← sees .greater <||> sees .rbrace)
    resume (Scan.skipMarkupText (← lookahead).lexeme.after)
    if ← sees .lbrace then
      return .inl (found ++ (← bracketed (markupHole solve)))
    else if (← sees .less) && (← upcoming).isMark .slash then
      advance
      advance
      let closing ← if ← sees .greater then pure [] else markupName
      check (closing == name && (← sees .greater))
      return .inr found
    else
      let inner ← solve.tree .element
      return .inl (found ++ [inner])

/-- What stands in an opening tag. -/
structure OpeningTag where
  name : List Text
  /-- The attributes, and the type arguments after them. -/
  parts : List Tree

/-- Reads an opening tag from its name to its last attribute. -/
def openingTag (solve : Solver) : Parse OpeningTag := do
  let name ← markupName
  let generics ←
    if ← (typed <&&> (sees .less <||> sees .lessLess)) then attempt (typeArguments solve) else pure none
  let attributes ← bracketed (markupAttributes solve)
  return ⟨name, attributes ++ generics.getD []⟩

/-- Reads an element up to its last greater-than sign, and not past it. -/
def element (solve : Solver) : Parse Tree := do
  let start ← here
  expect .less
  let tag ← if ← sees .greater then pure ⟨[], []⟩ else openingTag solve
  if ← take .slash then
    check (← sees .greater)
    return .node ⟨start, (← token).span.stop⟩ tag.parts
  else
    check (← sees .greater)
    let inner ← markupChildren solve tag.name
    return .node ⟨start, (← token).span.stop⟩ (tag.parts ++ inner)

end BraceLint.Grammar
