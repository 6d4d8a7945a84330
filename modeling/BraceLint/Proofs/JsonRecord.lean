import BraceLint.Command.Run
import BraceLint.Proofs.JsonValue
import Mathlib.Data.List.Forall2

/-! What a diagnostic is as JSON. Whoever reads the record of a diagnostic gets its place and its texts
as they are, on one line as well as on many, so records are the same only if all of these are. -/

namespace BraceLint

/-- What a reader gets of a position: the line from one, the column from zero and the byte offset. -/
def Position.record (position : Position) : Json.Value :=
  .object [("line", .number ((position.line + 1 : Nat) : Rat)), ("col", .number position.column),
    ("bytePos", .number position.byte)]

/-- What a reader gets of a hint, which is null if there is none. -/
def hintRecord : Option String → Json.Value
  | some hint => .string hint
  | none => .null

/-- What a reader gets of a diagnostic. -/
def Diagnostic.record (diagnostic : Diagnostic) : Json.Value :=
  .object [("specifier", .string diagnostic.specifier.render),
    ("range", .object [("start", diagnostic.range.start.record), ("end", diagnostic.range.stop.record)]),
    ("message", .string diagnostic.message), ("code", .string diagnostic.code),
    ("hint", hintRecord diagnostic.hint)]

/-- Both lines of a diagnostic have numbers of 32 bits. -/
def Diagnostic.HasLineNumbers (diagnostic : Diagnostic) : Prop :=
  diagnostic.range.start.line < 0xFFFFFFFF ∧ diagnostic.range.stop.line < 0xFFFFFFFF

instance (diagnostic : Diagnostic) : Decidable diagnostic.HasLineNumbers :=
  inferInstanceAs (Decidable (_ ∧ _))

theorem Position.denoted_toJson {position : Position} (h : position.line < 0xFFFFFFFF) :
    position.toJson.denoted = position.record := by
  have hnumber : position.lineNumber = position.line + 1 := Nat.mod_eq_of_lt (by omega)
  rw [toJson, hnumber]
  rfl

theorem denoted_hint (hint : Option String) :
    ((hint.map Json.string).getD .null).denoted = hintRecord hint := by
  cases hint <;> rfl

theorem Diagnostic.denoted_toJson {diagnostic : Diagnostic} (h : diagnostic.HasLineNumbers) :
    diagnostic.toJson.denoted = diagnostic.record := by
  have hstart := Position.denoted_toJson h.1
  have hstop := Position.denoted_toJson h.2
  simp only [toJson, Range.toJson, Json.denoted, Json.denotedFields, hstart, hstop, denoted_hint, record]

theorem Position.record_inj {first second : Position} :
    first.record = second.record ↔ first = second := by
  obtain ⟨line, column, byte⟩ := first
  obtain ⟨line', column', byte'⟩ := second
  simp only [record, Json.Value.object.injEq, List.cons.injEq, Prod.mk.injEq, Json.Value.number.injEq,
    Rat.natCast_inj, Nat.add_right_cancel_iff, true_and, and_true, Position.mk.injEq]

theorem hintRecord_inj {first second : Option String} :
    hintRecord first = hintRecord second ↔ first = second := by
  cases first <;> cases second <;> simp [hintRecord]

/-- Two diagnostics are told alike if they agree on everything but their fixes. A specifier is its text. -/
def Diagnostic.TellsAs (first second : Diagnostic) : Prop :=
  first.specifier.render = second.specifier.render ∧ first.range = second.range ∧
    first.message = second.message ∧ first.code = second.code ∧ first.hint = second.hint

theorem Diagnostic.record_eq_iff {first second : Diagnostic} :
    first.record = second.record ↔ first.TellsAs second := by
  obtain ⟨specifier, ⟨start, stop⟩, message, code, hint, fixes⟩ := first
  obtain ⟨specifier', ⟨start', stop'⟩, message', code', hint', fixes'⟩ := second
  simp only [record, TellsAs, Json.Value.object.injEq, List.cons.injEq, Prod.mk.injEq,
    Json.Value.string.injEq, Position.record_inj, hintRecord_inj, true_and, and_true, Range.mk.injEq]

theorem Diagnostic.TellsAs.toJson_eq {first second : Diagnostic} (h : first.TellsAs second) :
    first.toJson = second.toJson := by
  obtain ⟨hspecifier, hrange, hmessage, hcode, hhint⟩ := h
  rw [toJson, toJson, hspecifier, hrange, hmessage, hcode, hhint]

/-- Diagnostics with line numbers are printed alike only if they tell the same. -/
theorem Diagnostic.compact_eq_iff {first second : Diagnostic} (hfirst : first.HasLineNumbers)
    (hsecond : second.HasLineNumbers) :
    Json.compact first.toJson = Json.compact second.toJson ↔ first.TellsAs second := by
  constructor
  · intro hsame
    -- One text is read in one way only.
    have hread := Json.read?_compact first.toJson
    rw [hsame, Json.read?_compact, denoted_toJson hfirst, denoted_toJson hsecond, Option.some.injEq] at hread
    exact record_eq_iff.mp hread.symm
  · intro htold
    rw [htold.toJson_eq]

theorem Json.denotedItems_map {α : Type} (toJson : α → Json) (items : List α) :
    denotedItems (items.map toJson) = items.map fun item => (toJson item).denoted := by
  induction items with
  | nil => rfl
  | cons item items ih => rw [List.map_cons, denotedItems, ih, List.map_cons]

/-- A list in either layout is read as the list of what its items are read as. -/
theorem Json.exists_read?_array {α : Type} (toJson : α → Json) (items : List α) {text : Text}
    (h : read? text = some (denoted (.array (items.map toJson)))) :
    ∃ values, read? text = some (.array values) ∧
      List.Forall₂ (fun item value => read? (compact (toJson item)) = some value) items values := by
  refine ⟨items.map fun item => (toJson item).denoted, ?_, ?_⟩
  · rw [h, denoted, denotedItems_map]
  · rw [List.forall₂_map_right_iff]
    exact List.forall₂_same.mpr fun item _ => read?_compact (toJson item)

/-- **The JSON form of diagnostics loses nothing.** The record of a diagnostic whose lines have numbers
is read back as its specifier, its lines from one, its columns, its offsets, its message, its code and
its hint. Two such diagnostics have the same record if and only if they agree on all of these, whatever
their fixes are. A list of diagnostics on many lines, and so the output of the command, is read back as
the list of what the records on one line are read back as. -/
theorem Diagnostic.json_faithful :
    (∀ diagnostic : Diagnostic, diagnostic.HasLineNumbers →
      Json.read? (Json.compact diagnostic.toJson) = some diagnostic.record) ∧
    (∀ first second : Diagnostic, first.HasLineNumbers → second.HasLineNumbers →
      (Json.compact first.toJson = Json.compact second.toJson ↔ first.TellsAs second)) ∧
    (∀ diagnostics : List Diagnostic, ∃ values,
      Json.read? (Json.pretty 0 (.array (diagnostics.map Diagnostic.toJson))) = some (.array values) ∧
      List.Forall₂ (fun (diagnostic : Diagnostic) value =>
        Json.read? (Json.compact diagnostic.toJson) = some value) diagnostics values) ∧
    (∀ (options : Command.Options) (codes : List String) (entries : List Command.Entry),
      options.json = true → ∃ values,
        Json.read? (Command.Outcome.standardOutput (.ran options codes (.ok entries))).toList =
          some (.array values) ∧
        List.Forall₂ (fun (entry : Command.Entry) value =>
          Json.read? (Json.compact entry.1.toJson) = some value) entries values) := by
  refine ⟨fun diagnostic hlines => ?_, fun _ _ => compact_eq_iff, fun diagnostics => ?_,
    fun options codes entries hjson => ?_⟩
  · rw [Json.read?_compact, denoted_toJson hlines]
  · exact Json.exists_read?_array Diagnostic.toJson diagnostics (Json.read?_pretty 0 _)
  · have hprinted := (Json.isLayout_pretty 0 (.array (entries.map fun entry => entry.1.toJson))).line
    have hread : Json.read? (Command.Outcome.standardOutput (.ran options codes (.ok entries))).toList =
        some (Json.denoted (.array (entries.map fun entry => entry.1.toJson))) := by
      rw [Command.Outcome.standardOutput, if_pos hjson, String.toList_append, String.toList_ofList]
      exact hprinted.read?_eq
    exact Json.exists_read?_array _ entries hread

/-! ### A diagnostic with characters of all kinds -/

namespace OddTexts

/-- A diagnostic whose texts have quotes, a backslash, control characters and characters that are not of
ASCII. It ends in the last line that has a number. -/
def diagnostic : Diagnostic where
  specifier := { scheme := "file", hasAuthority := true, path := .segments ["odd.ts"] }
  range := ⟨⟨1, 1, 7⟩, ⟨0xFFFFFFFE, 0, 11⟩⟩
  message := "\"é\\\x01\n\u2028"
  code := "\t\x7f"
  hint := none
  fixes := []

/-- The same diagnostic with a fix. -/
def repaired : Diagnostic :=
  { diagnostic with fixes := [⟨"", [⟨⟨7, 7⟩, []⟩]⟩] }

/-- The same diagnostic with a hint that says null. -/
def hinted : Diagnostic :=
  { diagnostic with hint := some "null" }

def options : Command.Options where
  fix := false
  json := true
  selection := ⟨none, none⟩
  files := ["odd.ts"]

end OddTexts

theorem oddTexts_json_faithful :
    (OddTexts.diagnostic.HasLineNumbers ∧ OddTexts.repaired.HasLineNumbers ∧
      OddTexts.hinted.HasLineNumbers ∧ OddTexts.options.json = true) ∧
    Json.compact OddTexts.diagnostic.toJson =
      ("\x7b\"specifier\":\"file:///odd.ts\",\"range\":" ++
        "\x7b\"start\":\x7b\"line\":2,\"col\":1,\"bytePos\":7\x7d," ++
        "\"end\":\x7b\"line\":4294967295,\"col\":0,\"bytePos\":11\x7d\x7d," ++
        "\"message\":\"\\\"é\\\\\\u0001\\n\u2028\",\"code\":\"\\t\x7f\",\"hint\":null\x7d").toList ∧
    Json.read? (Json.compact OddTexts.diagnostic.toJson) = some OddTexts.diagnostic.record ∧
    Json.compact OddTexts.diagnostic.toJson = Json.compact OddTexts.repaired.toJson ∧
    Json.compact OddTexts.diagnostic.toJson ≠ Json.compact OddTexts.hinted.toJson ∧
    Json.read? (Command.Outcome.standardOutput
      (.ran OddTexts.options ["curly"] (.ok [(OddTexts.diagnostic, [])]))).toList =
        some (.array [OddTexts.diagnostic.record]) := by
  have hdiagnostic : OddTexts.diagnostic.HasLineNumbers := by decide
  have hrepaired : OddTexts.repaired.HasLineNumbers := by decide
  have hhinted : OddTexts.hinted.HasLineNumbers := by decide
  have htold : OddTexts.diagnostic.TellsAs OddTexts.repaired := by
    simp only [Diagnostic.TellsAs, OddTexts.repaired, and_self]
  obtain ⟨hread, hsame, -, hprinted⟩ := Diagnostic.json_faithful
  obtain ⟨values, hvalues, hitems⟩ := hprinted OddTexts.options ["curly"] [(OddTexts.diagnostic, [])] rfl
  rcases hitems with _ | ⟨hitem, _ | _⟩
  obtain rfl := Option.some.inj (hitem.symm.trans (hread _ hdiagnostic))
  refine ⟨⟨hdiagnostic, hrepaired, hhinted, rfl⟩, by decide +kernel, hread _ hdiagnostic,
    (hsame _ _ hdiagnostic hrepaired).mpr htold, fun hequal => ?_, hvalues⟩
  obtain ⟨-, -, -, -, hhint⟩ := (hsame _ _ hdiagnostic hhinted).mp hequal
  cases hhint

end BraceLint
