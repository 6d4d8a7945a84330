import BraceLint.Proofs.JsonToken

/-! Values of JSON texts. The tokens of a text are read one after the other, with the arrays and objects
that are still open on a stack. Both layouts of a JSON value have the same tokens, and these are read
back as what the value stands for. -/

namespace BraceLint.Json

/-- An array or object whose end has not been read. Its earlier parts are kept with the latest first. -/
inductive Frame where
  | array (items : List Value)
  | object (members : List (String × Value)) (name : String)

/-- What has to come next. -/
inductive Stage where
  /-- A value. In an array without earlier items its end may come too. -/
  | value
  /-- The name of a member. In an object without earlier members its end may come too. -/
  | name (members : List (String × Value))
  /-- The colon behind the name of a member. -/
  | colon (members : List (String × Value)) (name : String)
  /-- A comma behind a value, or the end of what it is in. -/
  | after (value : Value)

structure Reader where
  stack : List Frame
  stage : Stage

namespace Reader

/-- Reads one more token. -/
def step : Reader → Token → Option Reader
  | ⟨stack, .value⟩, .atom value => some ⟨stack, .after value⟩
  | ⟨stack, .value⟩, .leftBracket => some ⟨.array [] :: stack, .value⟩
  | ⟨.array [] :: stack, .value⟩, .rightBracket => some ⟨stack, .after (.array [])⟩
  | ⟨.array items :: stack, .after value⟩, .comma => some ⟨.array (value :: items) :: stack, .value⟩
  | ⟨.array items :: stack, .after value⟩, .rightBracket =>
    some ⟨stack, .after (.array (value :: items).reverse)⟩
  | ⟨stack, .value⟩, .leftBrace => some ⟨stack, .name []⟩
  | ⟨stack, .name []⟩, .rightBrace => some ⟨stack, .after (.object [])⟩
  | ⟨stack, .name members⟩, .atom (.string name) => some ⟨stack, .colon members name⟩
  | ⟨stack, .colon members name⟩, .colon => some ⟨.object members name :: stack, .value⟩
  | ⟨.object members name :: stack, .after value⟩, .comma =>
    some ⟨stack, .name ((name, value) :: members)⟩
  | ⟨.object members name :: stack, .after value⟩, .rightBrace =>
    some ⟨stack, .after (.object ((name, value) :: members).reverse)⟩
  | _, _ => none

/-- The value that has been read, if all of it has. -/
def result? : Reader → Option Value
  | ⟨[], .after value⟩ => some value
  | _ => none

end Reader

def value? (tokens : List Token) : Option Value :=
  (tokens.foldlM Reader.step ⟨[], .value⟩).bind Reader.result?

/-- The value that a text stands for. -/
def read? (text : Text) : Option Value :=
  (tokens? .between text).bind value?

mutual

/-- What a JSON value stands for. -/
def denoted : Json → Value
  | .null => .null
  | .number value => .number value
  | .string value => .string value
  | .array items => .array (denotedItems items)
  | .object fields => .object (denotedFields fields)

def denotedItems : List Json → List Value
  | [] => []
  | item :: rest => denoted item :: denotedItems rest

def denotedFields : List (String × Json) → List (String × Value)
  | [] => []
  | (name, value) :: rest => (name, denoted value) :: denotedFields rest

end

mutual

/-- The tokens of a JSON value. -/
def tokens : Json → List Token
  | .null => [.atom .null]
  | .number value => [.atom (.number value)]
  | .string value => [.atom (.string value)]
  | .array items => [.leftBracket] ++ itemTokens items ++ [.rightBracket]
  | .object fields => [.leftBrace] ++ fieldTokens fields ++ [.rightBrace]

def itemTokens : List Json → List Token
  | [] => []
  | [item] => tokens item
  | item :: rest => tokens item ++ [.comma] ++ itemTokens rest

def fieldTokens : List (String × Json) → List Token
  | [] => []
  | [(name, value)] => [.atom (.string name), .colon] ++ tokens value
  | (name, value) :: rest =>
    [.atom (.string name), .colon] ++ tokens value ++ [.comma] ++ fieldTokens rest

end

/-! ### Several items or fields -/

section Cons

variable (item next : Json) (rest : List Json) (name : String) (value : Json) (field : String × Json)
  (fields : List (String × Json)) (depth : Nat)

theorem itemTokens_cons :
    itemTokens (item :: next :: rest) = tokens item ++ .comma :: itemTokens (next :: rest) := by
  simp [itemTokens]

theorem fieldTokens_cons : fieldTokens ((name, value) :: field :: fields) =
    .atom (.string name) :: .colon :: (tokens value ++ .comma :: fieldTokens (field :: fields)) := by
  simp [fieldTokens]

theorem compactItems_cons :
    compactItems (item :: next :: rest) = compact item ++ ',' :: compactItems (next :: rest) := by
  simp [compactItems]

theorem compactFields_cons : compactFields ((name, value) :: field :: fields) =
    quoted name ++ ':' :: (compact value ++ ',' :: compactFields (field :: fields)) := by
  simp [compactFields]

theorem prettyItems_cons : prettyItems depth (item :: next :: rest) =
    newLine depth ++ (pretty depth item ++ ',' :: prettyItems depth (next :: rest)) := by
  simp [prettyItems]

theorem prettyFields_cons : prettyFields depth ((name, value) :: field :: fields) =
    newLine depth ++ (quoted name ++ ':' :: ' ' :: (pretty depth value ++
      ',' :: prettyFields depth (field :: fields))) := by
  simp [prettyFields]

theorem pretty_array : pretty depth (.array (item :: rest)) =
    '[' :: (prettyItems (depth + 1) (item :: rest) ++ (newLine depth ++ [']'])) := by
  simp [pretty]

theorem pretty_object : pretty depth (.object (field :: fields)) =
    '\x7b' :: (prettyFields (depth + 1) (field :: fields) ++ (newLine depth ++ ['\x7d'])) := by
  simp [pretty]

end Cons

/-! ### Tokens of the layouts -/

/-- A text is read as some tokens, whatever comes after it, if that does not go on with a word. -/
def IsLayout (text : Text) (read : List Token) : Prop :=
  ∀ rest, EndsWord rest →
    tokens? .between (text ++ rest) = (tokens? .between rest).map fun later => read ++ later

namespace IsLayout

variable {text left right : Text} {read first second : List Token}

theorem nil : IsLayout [] [] := by
  intro rest _
  exact Option.map_id'.symm

theorem append {c : Char} (hleft : IsLayout left first) (hright : IsLayout (c :: right) second)
    (hc : isLetter c = false) : IsLayout (left ++ c :: right) (first ++ second) := by
  intro rest hrest
  have hend : EndsWord (c :: right ++ rest) := by
    rintro _ ⟨⟩
    exact hc
  rw [List.append_assoc, hleft _ hend, hright rest hrest, Option.map_map]
  simp only [Function.comp_def, List.append_assoc]

theorem space {c : Char} (hspace : isSpace c = true) (h : IsLayout text read) :
    IsLayout (c :: text) read := by
  intro rest hrest
  rw [List.cons_append, tokens?_space hspace, h rest hrest]

theorem newLine (depth : Nat) (h : IsLayout text read) : IsLayout (newLine depth ++ text) read := by
  refine space rfl ?_
  induction 2 * depth with
  | zero => exact h
  | succ count ih => exact space rfl ih

theorem mark {c : Char} {token : Token} (hmark : mark? c = some token) (hspace : isSpace c = false)
    (hquote : c ≠ '\x22') (h : IsLayout text read) : IsLayout (c :: text) (token :: read) := by
  intro rest hrest
  rw [List.cons_append, tokens?_mark hmark hspace hquote, h rest hrest, Option.map_map]
  rfl

theorem quoted (value : String) (h : IsLayout text read) :
    IsLayout (quoted value ++ text) (.atom (.string value) :: read) := by
  intro rest hrest
  rw [List.append_assoc, tokens?_quoted, h rest hrest, Option.map_map]
  rfl

theorem comma (h : IsLayout text read) : IsLayout (',' :: text) (.comma :: read) :=
  mark rfl rfl (by decide) h

theorem colon (h : IsLayout text read) : IsLayout (':' :: text) (.colon :: read) :=
  mark rfl rfl (by decide) h

/-- A text may end with a new line. -/
theorem line (h : IsLayout text read) : IsLayout (text ++ ['\n']) read := by
  have hboth := h.append (c := '\n') (nil.space rfl) rfl
  rwa [List.append_nil] at hboth

theorem brackets {c : Char} {close : Text} (h : IsLayout text read)
    (hclose : IsLayout (c :: close) [.rightBracket]) (hc : isLetter c = false) :
    IsLayout ('[' :: (text ++ c :: close)) (.leftBracket :: (read ++ [.rightBracket])) :=
  mark rfl rfl (by decide) (h.append hclose hc)

theorem braces {c : Char} {close : Text} (h : IsLayout text read)
    (hclose : IsLayout (c :: close) [.rightBrace]) (hc : isLetter c = false) :
    IsLayout ('\x7b' :: (text ++ c :: close)) (.leftBrace :: (read ++ [.rightBrace])) :=
  mark rfl rfl (by decide) (h.append hclose hc)

end IsLayout

theorem isLayout_null : IsLayout ['n', 'u', 'l', 'l'] [.atom .null] := by
  intro rest hrest
  exact tokens?_word (List.cons_ne_nil _ _) (List.all_eq_true.mp rfl) hrest rfl

theorem isLayout_digits (n : Nat) : IsLayout (digits n) [.atom (.number n)] :=
  fun _ hrest => tokens?_digits hrest n

theorem isLayout_quoted (value : String) : IsLayout (quoted value) [.atom (.string value)] := by
  have h := IsLayout.nil.quoted value
  rwa [List.append_nil] at h

theorem isLayout_rightBracket : IsLayout [']'] [.rightBracket] :=
  IsLayout.nil.mark rfl rfl (by decide)

theorem isLayout_rightBrace : IsLayout ['\x7d'] [.rightBrace] :=
  IsLayout.nil.mark rfl rfl (by decide)

mutual

/-- A value on one line has the tokens of the value. -/
theorem isLayout_compact (json : Json) : IsLayout (compact json) (tokens json) := by
  cases json with
  | null => exact isLayout_null
  | number value => exact isLayout_digits value
  | string value => exact isLayout_quoted value
  | array items =>
      rw [compact, tokens]
      exact (isLayout_compactItems items).brackets isLayout_rightBracket rfl
  | object fields =>
      rw [compact, tokens]
      exact (isLayout_compactFields fields).braces isLayout_rightBrace rfl

theorem isLayout_compactItems (items : List Json) : IsLayout (compactItems items) (itemTokens items) := by
  match items with
  | [] => exact .nil
  | [item] => exact isLayout_compact item
  | item :: next :: rest =>
      rw [compactItems_cons, itemTokens_cons]
      exact (isLayout_compact item).append (isLayout_compactItems (next :: rest)).comma rfl

theorem isLayout_compactFields (fields : List (String × Json)) :
    IsLayout (compactFields fields) (fieldTokens fields) := by
  match fields with
  | [] => exact .nil
  | [(name, value)] =>
      rw [compactFields, fieldTokens, List.append_assoc]
      exact (isLayout_compact value).colon.quoted name
  | (name, value) :: next :: rest =>
      rw [compactFields_cons, fieldTokens_cons]
      have hrest := (isLayout_compactFields (next :: rest)).comma
      exact ((isLayout_compact value).append hrest rfl).colon.quoted name

end

mutual

/-- A value on many lines has the same tokens. -/
theorem isLayout_pretty (depth : Nat) (json : Json) : IsLayout (pretty depth json) (tokens json) := by
  match json with
  | .null => exact isLayout_null
  | .number value => exact isLayout_digits value
  | .string value => exact isLayout_quoted value
  | .array [] => exact isLayout_rightBracket.mark rfl rfl (by decide)
  | .array (item :: rest) =>
      rw [pretty_array, tokens]
      have hclose := isLayout_rightBracket.newLine depth
      exact (isLayout_prettyItems (depth + 1) (item :: rest)).brackets hclose rfl
  | .object [] => exact isLayout_rightBrace.mark rfl rfl (by decide)
  | .object (field :: rest) =>
      rw [pretty_object, tokens]
      have hclose := isLayout_rightBrace.newLine depth
      exact (isLayout_prettyFields (depth + 1) (field :: rest)).braces hclose rfl

theorem isLayout_prettyItems (depth : Nat) (items : List Json) :
    IsLayout (prettyItems depth items) (itemTokens items) := by
  match items with
  | [] => exact .nil
  | [item] =>
      rw [prettyItems, itemTokens]
      exact (isLayout_pretty depth item).newLine depth
  | item :: next :: rest =>
      rw [prettyItems_cons, itemTokens_cons]
      have hrest := (isLayout_prettyItems depth (next :: rest)).comma
      exact ((isLayout_pretty depth item).append hrest rfl).newLine depth

theorem isLayout_prettyFields (depth : Nat) (fields : List (String × Json)) :
    IsLayout (prettyFields depth fields) (fieldTokens fields) := by
  match fields with
  | [] => exact .nil
  | [(name, value)] =>
      rw [prettyFields, fieldTokens, List.append_assoc, List.append_assoc]
      exact (((isLayout_pretty depth value).space rfl).colon.quoted name).newLine depth
  | (name, value) :: next :: rest =>
      rw [prettyFields_cons, fieldTokens_cons]
      have hrest := (isLayout_prettyFields depth (next :: rest)).comma
      have hvalue := (isLayout_pretty depth value).append hrest rfl
      exact ((hvalue.space rfl).colon.quoted name).newLine depth

end

/-! ### Values of tokens -/

theorem foldlM_name (members : List (String × Value)) (name : String) (stack : List Frame)
    (later : List Token) :
    (.atom (.string name) :: .colon :: later).foldlM Reader.step ⟨stack, .name members⟩ =
      later.foldlM Reader.step ⟨.object members name :: stack, .value⟩ := by
  cases members <;> rfl

open Reader in
mutual

/-- The tokens of a value are read as what the value stands for. -/
theorem foldlM_tokens (json : Json) (stack : List Frame) (later : List Token) :
    (tokens json ++ later).foldlM step ⟨stack, .value⟩ =
      later.foldlM step ⟨stack, .after (denoted json)⟩ := by
  match json with
  | .null => rw [tokens, denoted]; rfl
  | .number value => rw [tokens, denoted]; rfl
  | .string value => rw [tokens, denoted]; rfl
  | .array items =>
      rw [tokens, denoted, List.append_assoc, List.append_assoc]
      exact foldlM_itemTokens items stack [] later fun _ => rfl
  | .object fields =>
      rw [tokens, denoted, List.append_assoc, List.append_assoc]
      exact foldlM_fieldTokens fields stack [] later fun _ => rfl

theorem foldlM_itemTokens (items : List Json) (stack : List Frame) (earlier : List Value)
    (later : List Token) (h : items = [] → earlier = []) :
    (itemTokens items ++ .rightBracket :: later).foldlM step ⟨.array earlier :: stack, .value⟩ =
      later.foldlM step ⟨stack, .after (.array (earlier.reverse ++ denotedItems items))⟩ := by
  -- Behind a comma the array may not end, so there are no items left only if there were none earlier.
  match items with
  | [] => rw [h rfl, denotedItems]; rfl
  | [item] =>
      rw [itemTokens, foldlM_tokens item, denotedItems, denotedItems, ← List.reverse_cons]
      rfl
  | item :: next :: rest =>
      have hrest := foldlM_itemTokens (next :: rest) stack (denoted item :: earlier) later nofun
      rw [List.reverse_cons, List.append_assoc] at hrest
      rw [itemTokens_cons, List.append_assoc, foldlM_tokens item, denotedItems]
      exact hrest

theorem foldlM_fieldTokens (fields : List (String × Json)) (stack : List Frame)
    (earlier : List (String × Value)) (later : List Token) (h : fields = [] → earlier = []) :
    (fieldTokens fields ++ .rightBrace :: later).foldlM step ⟨stack, .name earlier⟩ =
      later.foldlM step ⟨stack, .after (.object (earlier.reverse ++ denotedFields fields))⟩ := by
  match fields with
  | [] => rw [h rfl, denotedFields]; rfl
  | [(name, value)] =>
      have hvalue := foldlM_tokens value (.object earlier name :: stack) (.rightBrace :: later)
      rw [fieldTokens, denotedFields, denotedFields, List.append_assoc, ← List.reverse_cons]
      exact (foldlM_name earlier name stack _).trans hvalue
  | (name, value) :: next :: rest =>
      have hvalue := foldlM_tokens value (.object earlier name :: stack)
        (.comma :: (fieldTokens (next :: rest) ++ .rightBrace :: later))
      have hrest := foldlM_fieldTokens (next :: rest) stack ((name, denoted value) :: earlier) later nofun
      rw [List.reverse_cons, List.append_assoc] at hrest
      rw [fieldTokens_cons, denotedFields, List.cons_append, List.cons_append, List.append_assoc]
      exact (foldlM_name earlier name stack _).trans (hvalue.trans hrest)

end

/-- Either layout of a JSON value is read back as what the value stands for. -/
theorem IsLayout.read?_eq {text : Text} {json : Json} (h : IsLayout text (tokens json)) :
    read? text = some (denoted json) := by
  have htokens := h [] nofun
  have hvalue := foldlM_tokens json [] []
  rw [List.append_nil] at htokens hvalue
  rw [read?, htokens, tokens?, Option.map_some, Option.bind_some, List.append_nil, value?, hvalue]
  rfl

theorem read?_compact (json : Json) : read? (compact json) = some (denoted json) :=
  (isLayout_compact json).read?_eq

theorem read?_pretty (depth : Nat) (json : Json) : read? (pretty depth json) = some (denoted json) :=
  (isLayout_pretty depth json).read?_eq

/-- Texts that are laid out in other ways are read as well. -/
example : read? "[15e-1 ,\n\"\\u00E9\\ud83d\\ude00\\/\"]".toList =
    some (.array [.number (3 / 2), .string "é😀/"]) := by cbv

/-- No comma comes after the last item. -/
example : (read? "[1, 2,]".toList).isNone := by decide +kernel

end BraceLint.Json
