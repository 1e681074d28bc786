import Bytebase.Go.Basic

/-!
# WorkflowCommand — how GitHub Actions reads a workflow command

The runner reads what a job step prints line by line, as
`StreamReader.ReadLine` does: a line ends at `\n`, `\r` or `\r\n`. A line
that starts with `::` once its leading white space is trimmed is a
workflow command of GitHub Actions, `::name key=value,key=value::data`
(`ActionCommand.TryParseV2`). The runner takes the command information up
to the next `::` and the data after it. The name is the information up to
its first space; it must be a command the runner knows, so it is not
empty. The properties are the rest of the information with the white
space at its ends trimmed, split at `,` with empty pieces dropped, and
each piece is cut by `Split('=', 2, RemoveEmptyEntries)`: leading `=` runes
are skipped, the key runs to the next `=`, the `=` runes after it are
skipped and the value is the rest, and a piece with no value left is
dropped. The runner then undoes the escapes its toolkit writes: `%25`,
`%0D` and `%0A` in the data, and `%3A` and `%2C` as well in a property
value. It does so with one `Replace` per escape, `%25` last; no two
escapes overlap and only the last yields a `%`, so that is the one pass
from left to right of `unescape`. White space is `Char.IsWhiteSpace`, the
runes of Go's `unicode.IsSpace`.

`parse` is the reading of one line and `render` the line of a command
with nothing escaped. A command printed with only its newlines escaped,
as `strings.ReplaceAll(msg, "\n", "%0A")` writes it, is read as one line
that holds the command itself when nothing else in it needs an escape
(`parse_render`): no `%` and no carriage return anywhere, no `,` or `:` in
a value, no separator or white space in a name or a key, values that are
not empty and do not start with `=`, and no white space at the end of the
last value.
-/

namespace Bytebase.WorkflowCommand

open Bytebase.Go

/-- A workflow command as the runner reads it. -/
structure Command where
  name : String
  properties : List (String × String)
  data : String
  deriving DecidableEq, Repr

/-! ## Escapes -/

/-- The escapes of the data: the two digits after `%`, and the rune they
stand for. -/
def dataEscapes : List (Char × Char × Char) := [('2', '5', '%'), ('0', 'D', '\r'), ('0', 'A', '\n')]

/-- The escapes of a property value. -/
def propertyEscapes : List (Char × Char × Char) := dataEscapes ++ [('3', 'A', ':'), ('2', 'C', ',')]

/-- The runes with `escapes` undone, left to right. -/
def unescape (escapes : List (Char × Char × Char)) : List Char → List Char
  | '%' :: a :: b :: rest =>
    match escapes.find? fun e => e.1 == a && e.2.1 == b with
    | some e => e.2.2 :: unescape escapes rest
    | none => '%' :: unescape escapes (a :: b :: rest)
  | c :: rest => c :: unescape escapes rest
  | [] => []

@[simp] theorem unescape_nil (escapes : List (Char × Char × Char)) : unescape escapes [] = [] := by
  simp [unescape]

theorem unescape_cons {c : Char} (hc : c ≠ '%') (escapes : List (Char × Char × Char)) (rest : List Char) :
    unescape escapes (c :: rest) = c :: unescape escapes rest := by
  rcases rest with _ | ⟨a, _ | ⟨b, rest⟩⟩ <;> simp [unescape, hc]

/-- A text with its newlines escaped as `%0A`. -/
def escapeNewlines (s : List Char) : List Char := s.flatMap fun c => if c = '\n' then ['%', '0', 'A'] else [c]

/-- The runes of a string written as `strings.ReplaceAll(s, "\n", "%0A")`
writes it. -/
theorem toList_replaceAllRune_newline (s : String) :
    (replaceAllRune s '\n' "%0A").toList = escapeNewlines s.toList := rfl

@[simp] theorem escapeNewlines_nil : escapeNewlines [] = [] := rfl

@[simp] theorem escapeNewlines_append (s t : List Char) :
    escapeNewlines (s ++ t) = escapeNewlines s ++ escapeNewlines t := List.flatMap_append _ _ _

@[simp] theorem escapeNewlines_newline (s : List Char) :
    escapeNewlines ('\n' :: s) = '%' :: '0' :: 'A' :: escapeNewlines s := rfl

theorem escapeNewlines_cons {c : Char} (hc : c ≠ '\n') (s : List Char) :
    escapeNewlines (c :: s) = c :: escapeNewlines s := by
  simp [escapeNewlines, hc]

theorem escapeNewlines_of_not_mem {s : List Char} (hs : '\n' ∉ s) : escapeNewlines s = s := by
  induction s with
  | nil => rfl
  | cons c s ih =>
    rw [escapeNewlines_cons (fun h => hs (h ▸ List.mem_cons_self c s)), ih fun h => hs (List.mem_cons_of_mem c h)]

/-- An escaped text holds the runes of the text but its newlines, and the
runes of `%0A`. -/
theorem mem_escapeNewlines {c : Char} {s : List Char} (h : c ∈ escapeNewlines s) :
    (c ∈ s ∧ c ≠ '\n') ∨ c = '%' ∨ c = '0' ∨ c = 'A' := by
  obtain ⟨d, hd, hc⟩ := List.mem_flatMap.1 h
  split_ifs at hc with hn
  · exact .inr (by simpa using hc)
  · exact .inl (List.mem_singleton.1 hc ▸ ⟨hd, hn⟩)

theorem head?_escapeNewlines (c : Char) (s : List Char) :
    (escapeNewlines (c :: s)).head? = some (if c = '\n' then '%' else c) := by
  by_cases hc : c = '\n'
  · subst hc; rfl
  · rw [escapeNewlines_cons hc, if_neg hc]; rfl

theorem escapeNewlines_concat {c : Char} (hc : c ≠ '\n') (s : List Char) :
    escapeNewlines (s ++ [c]) = escapeNewlines s ++ [c] := by
  rw [escapeNewlines_append, escapeNewlines_cons hc, escapeNewlines_nil]

theorem unescape_newline {escapes : List (Char × Char × Char)}
    (he : escapes.find? (fun e => e.1 == '0' && e.2.1 == 'A') = some ('0', 'A', '\n')) (rest : List Char) :
    unescape escapes ('%' :: '0' :: 'A' :: rest) = '\n' :: unescape escapes rest := by
  simp [unescape, he]

/-- Undoing escapes that read `%0A` as a newline gives back a text without
`%` whose newlines were escaped. -/
theorem unescape_escapeNewlines {escapes : List (Char × Char × Char)}
    (he : escapes.find? (fun e => e.1 == '0' && e.2.1 == 'A') = some ('0', 'A', '\n')) {s : List Char}
    (hs : '%' ∉ s) (t : List Char) : unescape escapes (escapeNewlines s ++ t) = s ++ unescape escapes t := by
  induction s with
  | nil => rfl
  | cons c s ih =>
    have hc : c ≠ '%' := fun h => hs (h ▸ List.mem_cons_self c s)
    have ih := ih fun h => hs (List.mem_cons_of_mem c h)
    by_cases hn : c = '\n'
    · subst hn
      rw [escapeNewlines_newline, List.cons_append, List.cons_append, List.cons_append, unescape_newline he, ih]
      rfl
    · simp only [escapeNewlines_cons hn, List.cons_append, unescape_cons hc, ih]

theorem find?_dataEscapes_newline :
    dataEscapes.find? (fun e => e.1 == '0' && e.2.1 == 'A') = some ('0', 'A', '\n') := by decide

theorem find?_propertyEscapes_newline :
    propertyEscapes.find? (fun e => e.1 == '0' && e.2.1 == 'A') = some ('0', 'A', '\n') := by decide

/-! ## Reading the log -/

/-- `StreamReader.ReadLine`, from the runes `line` read so far of the
current line: a line ends at `\r\n`, `\r` or `\n`, which it does not keep,
and the end of the text ends a last line that is not empty. -/
def readLines (line : List Char) : List Char → List (List Char)
  | [] => if line.isEmpty then [] else [line]
  | '\r' :: '\n' :: rest => line :: readLines [] rest
  | '\r' :: rest => line :: readLines [] rest
  | '\n' :: rest => line :: readLines [] rest
  | c :: rest => readLines (line ++ [c]) rest

/-- The lines the runner reads from what a step prints. -/
def lines (s : List Char) : List (List Char) := readLines [] s

/-- `String.Trim()`: the white space at both ends removed. -/
def trim (s : List Char) : List Char := ((s.dropWhile isSpace).reverse.dropWhile isSpace).reverse

/-! ## Reading a line -/

/-- The runes before the first `::` and those after it. -/
def splitAtSeparator : List Char → Option (List Char × List Char)
  | ':' :: ':' :: rest => some ([], rest)
  | c :: rest => (splitAtSeparator rest).map fun p => (c :: p.1, p.2)
  | [] => none

/-- A property piece as `Split('=', 2, RemoveEmptyEntries)` cuts it: the
leading `=` runes skipped, the key up to the next `=`, the `=` runes after
it skipped, and the rest the value, unescaped; a piece with no value left
is dropped. -/
def property (piece : List Char) : Option (String × String) :=
  let rest := piece.dropWhile (· == '=')
  match (rest.dropWhile (· != '=')).dropWhile (· == '=') with
  | [] => none
  | value => some (⟨rest.takeWhile (· != '=')⟩, ⟨unescape propertyEscapes value⟩)

/-- The properties: the pieces between commas, empty ones dropped. -/
def properties (s : List Char) : List (String × String) :=
  ((s.splitOn ',').filter (!·.isEmpty)).filterMap property

/-- The command a log line holds, if it holds one. -/
def parse (line : List Char) : Option Command :=
  match line.dropWhile isSpace with
  | ':' :: ':' :: message =>
    match splitAtSeparator message with
    | some (info, data) =>
      let name := info.takeWhile (· != ' ')
      if name.isEmpty then none
      else some ⟨⟨name⟩, properties (trim ((info.dropWhile (· != ' ')).drop 1)), ⟨unescape dataEscapes data⟩⟩
    | none => none
  | _ => none

/-- The line of a command, nothing escaped. -/
def render (cmd : Command) : List Char :=
  [':', ':'] ++ cmd.name.toList ++ ' ' ::
    ([','].intercalate (cmd.properties.map fun p => p.1.toList ++ '=' :: p.2.toList) ++ [':', ':'] ++ cmd.data.toList)

/-! ## Reading back -/

theorem readLines_cons {c : Char} (hr : c ≠ '\r') (hn : c ≠ '\n') (line rest : List Char) :
    readLines line (c :: rest) = readLines (line ++ [c]) rest := by
  rcases rest with _ | ⟨d, rest⟩ <;> simp [readLines, hr, hn]

theorem readLines_of_forall {s : List Char} (hs : ∀ c ∈ s, c ≠ '\r' ∧ c ≠ '\n') (line : List Char) :
    readLines line s = if (line ++ s).isEmpty then [] else [line ++ s] := by
  induction s generalizing line with
  | nil => simp [readLines]
  | cons c s ih =>
    obtain ⟨hr, hn⟩ := hs c (List.mem_cons_self c s)
    rw [readLines_cons hr hn, ih (fun d hd => hs d (List.mem_cons_of_mem c hd))]
    simp only [List.append_assoc, List.singleton_append]

/-- A text with no line end is read as one line, when it is not empty. -/
theorem lines_of_forall {s : List Char} (hs : ∀ c ∈ s, c ≠ '\r' ∧ c ≠ '\n') (hne : s ≠ []) : lines s = [s] := by
  rw [lines, readLines_of_forall hs, List.nil_append, if_neg (by simpa [List.isEmpty_iff] using hne)]

theorem dropWhile_eq_self_of_head {p : Char → Bool} {s : List Char} (h : ∀ c ∈ s.head?, p c = false) :
    s.dropWhile p = s := by
  cases s with
  | nil => rfl
  | cons c s => exact List.dropWhile_cons_of_neg (by simp [h c rfl])

/-- A text that neither starts nor ends with white space is its own trim. -/
theorem trim_eq_self {s : List Char} (hhead : ∀ c ∈ s.head?, isSpace c = false)
    (hlast : ∀ c ∈ s.getLast?, isSpace c = false) : trim s = s := by
  rw [trim, dropWhile_eq_self_of_head hhead, dropWhile_eq_self_of_head (by rwa [List.head?_reverse]),
    List.reverse_reverse]

theorem splitAtSeparator_cons {c : Char} (hc : c ≠ ':') (rest : List Char) :
    splitAtSeparator (c :: rest) = (splitAtSeparator rest).map fun p => (c :: p.1, p.2) := by
  rcases rest with _ | ⟨d, rest⟩ <;> simp [splitAtSeparator, hc]

theorem splitAtSeparator_append {s : List Char} (hs : ':' ∉ s) (t : List Char) :
    splitAtSeparator (s ++ ':' :: ':' :: t) = some (s, t) := by
  induction s with
  | nil => rfl
  | cons c s ih =>
    have hc : c ≠ ':' := fun h => hs (h ▸ List.mem_cons_self c s)
    rw [List.cons_append, splitAtSeparator_cons hc, ih fun h => hs (List.mem_cons_of_mem c h)]
    rfl

/-- A piece whose key is not empty and has no `=`, and whose value is not
empty and does not start with `=`, is read as that key and value. -/
theorem property_append {key value : List Char} (hk : key ≠ [] ∧ '=' ∉ key)
    (hv : value ≠ [] ∧ value.head? ≠ some '=') :
    property (key ++ '=' :: value) = some (⟨key⟩, ⟨unescape propertyEscapes value⟩) := by
  have hne : ∀ c ∈ key, (c != '=') = true := fun c hc => bne_iff_ne.2 fun h => hk.2 (h ▸ hc)
  have hkey : (key ++ '=' :: value).dropWhile (· == '=') = key ++ '=' :: value :=
    dropWhile_eq_self_of_head fun c hc => by
      rw [List.head?_append_of_ne_nil _ hk.1] at hc
      simpa using hne c (List.mem_of_mem_head? hc)
  have hvalue : value.dropWhile (· == '=') = value :=
    dropWhile_eq_self_of_head fun c hc => by
      rw [beq_eq_false_iff_ne]; rintro rfl; exact hv.2 hc
  have hsep : ('=' :: value).dropWhile (· != '=') = '=' :: value := List.dropWhile_cons_of_neg (by decide)
  have hskip : ('=' :: value).dropWhile (· == '=') = value.dropWhile (· == '=') :=
    List.dropWhile_cons_of_pos (by decide)
  have htake : ('=' :: value).takeWhile (· != '=') = [] := List.takeWhile_cons_of_neg (by decide)
  simp only [property, hkey, List.dropWhile_append_of_pos hne, hsep, hskip, hvalue, List.takeWhile_append_of_pos hne,
    htake, List.append_nil]
  obtain ⟨v, vs, rfl⟩ := List.exists_cons_of_ne_nil hv.1
  rfl

theorem intercalate_comma_cons_cons (a b : List Char) (rest : List (List Char)) :
    [','].intercalate (a :: b :: rest) = a ++ ',' :: [','].intercalate (b :: rest) := rfl

theorem intercalate_comma_cons (a : List Char) (ls : List (List Char)) :
    ∃ t, [','].intercalate (a :: ls) = a ++ t := by
  cases ls with
  | nil => exact ⟨[], by simp [List.intercalate]⟩
  | cons b ls => exact ⟨_, intercalate_comma_cons_cons a b ls⟩

theorem intercalate_comma_concat (a : List Char) :
    ∀ ls : List (List Char), ∃ t, [','].intercalate (ls ++ [a]) = t ++ a
  | [] => ⟨[], by simp [List.intercalate]⟩
  | b :: ls => by
    obtain ⟨t, ht⟩ := intercalate_comma_concat a ls
    obtain ⟨c, cs, hc⟩ := List.exists_cons_of_ne_nil (by simp : ls ++ [a] ≠ [])
    refine ⟨b ++ ',' :: t, ?_⟩
    rw [List.cons_append, hc, intercalate_comma_cons_cons, ← hc, ht]
    simp

/-- Escaping newlines commutes with joining at commas. -/
theorem escapeNewlines_intercalate_comma :
    ∀ ls : List (List Char), escapeNewlines ([','].intercalate ls) = [','].intercalate (ls.map escapeNewlines)
  | [] => rfl
  | [a] => by simp [List.intercalate]
  | a :: b :: rest => by
    rw [intercalate_comma_cons_cons, escapeNewlines_append, escapeNewlines_cons (by decide),
      escapeNewlines_intercalate_comma (b :: rest)]
    rfl

theorem mem_intercalate_comma {c : Char} :
    ∀ {ls : List (List Char)}, c ∈ [','].intercalate ls → c = ',' ∨ ∃ l ∈ ls, c ∈ l
  | [], h => nomatch h
  | [a], h => .inr ⟨a, List.mem_singleton_self a, by simpa [List.intercalate] using h⟩
  | a :: b :: rest, h => by
    rw [intercalate_comma_cons_cons, List.mem_append, List.mem_cons] at h
    rcases h with h | h | h
    · exact .inr ⟨a, List.mem_cons_self a _, h⟩
    · exact .inl h
    · rcases mem_intercalate_comma h with h | ⟨l, hl, h⟩
      · exact .inl h
      · exact .inr ⟨l, List.mem_cons_of_mem a hl, h⟩

/-- The pieces of a property list, none with a comma, split back apart and
each read as its key and its unescaped value. -/
theorem properties_intercalate {pieces : List (List Char × List Char)}
    (hk : ∀ p ∈ pieces, p.1 ≠ [] ∧ ',' ∉ p.1 ∧ '=' ∉ p.1)
    (hv : ∀ p ∈ pieces, ',' ∉ p.2 ∧ p.2 ≠ [] ∧ p.2.head? ≠ some '=') :
    properties ([','].intercalate (pieces.map fun p => p.1 ++ '=' :: p.2)) =
      pieces.map fun p => (⟨p.1⟩, ⟨unescape propertyEscapes p.2⟩) := by
  rcases pieces with _ | ⟨q, qs⟩
  · rfl
  have hsep : ∀ l ∈ (q :: qs).map (fun p => p.1 ++ '=' :: p.2), ',' ∉ l := by
    simp only [List.mem_map]
    rintro _ ⟨p, hp, rfl⟩ h
    rcases List.mem_append.1 h with h | h
    · exact (hk p hp).2.1 h
    · exact (hv p hp).1 (List.mem_of_ne_of_mem (by decide) h)
  have hpieces : ∀ l ∈ (q :: qs).map (fun p => p.1 ++ '=' :: p.2), (!l.isEmpty) = true := fun l hl => by
    obtain ⟨p, -, rfl⟩ := List.mem_map.1 hl
    simp
  rw [properties, List.splitOn_intercalate _ ',' hsep (by simp), List.filter_eq_self.2 hpieces, List.filterMap_map]
  exact (List.filterMap_congr fun p hp => property_append ⟨(hk p hp).1, (hk p hp).2.2⟩ (hv p hp).2).trans
    (congrFun (List.filterMap_eq_map _) _)

/-- Text a property value can hold as written: no `,` or `:`, which
separate, no `%`, which starts an escape, and no carriage return, which
ends the line. -/
def PlainText (s : String) : Prop := ∀ c ∈ s.toList, c ≠ ',' ∧ c ≠ ':' ∧ c ≠ '%' ∧ c ≠ '\r'

instance : DecidablePred PlainText := fun s => inferInstanceAs (Decidable (∀ c ∈ s.toList, _))

/-- A property value the runner reads back as written: plain text, not
empty and not starting with `=`, which the split would skip. -/
def PlainValue (s : String) : Prop := s.toList ≠ [] ∧ s.toList.head? ≠ some '=' ∧ PlainText s

instance : DecidablePred PlainValue := fun _ => inferInstanceAs (Decidable (_ ∧ _ ∧ _))

/-- A plain value keeps, escaped, no comma, and is still not empty and
does not start with `=`. -/
theorem PlainValue.escape {v : String} (h : PlainValue v) :
    ',' ∉ escapeNewlines v.toList ∧ escapeNewlines v.toList ≠ [] ∧ (escapeNewlines v.toList).head? ≠ some '=' := by
  obtain ⟨hne, hhead, hplain⟩ := h
  obtain ⟨c, cs, hv⟩ := List.exists_cons_of_ne_nil hne
  have hfirst := head?_escapeNewlines c cs
  rw [← hv] at hfirst
  refine ⟨fun hc => ?_, fun he => (by rw [he] at hfirst; cases hfirst), ?_⟩
  · rcases mem_escapeNewlines hc with ⟨hc, -⟩ | hc | hc | hc
    · exact (hplain ',' hc).1 rfl
    all_goals exact absurd hc (by decide)
  · rw [hfirst]
    rw [hv] at hhead
    split_ifs
    · decide
    · simpa using hhead

/-- A command that reads back from its line with the newlines escaped: a
name, not empty, with no `:` or white space; keys, not empty, with no `,`,
`=`, `:` or white space; plain values, the last not ending in white space;
data with no `%` or carriage return. -/
structure Renderable (cmd : Command) : Prop where
  name_ne : cmd.name.toList ≠ []
  name : ∀ c ∈ cmd.name.toList, c ≠ ':' ∧ isSpace c = false
  key : ∀ p ∈ cmd.properties, p.1.toList ≠ [] ∧ ∀ c ∈ p.1.toList, c ≠ ',' ∧ c ≠ '=' ∧ c ≠ ':' ∧ isSpace c = false
  value : ∀ p ∈ cmd.properties, PlainValue p.2
  last : ∀ p ∈ cmd.properties.getLast?, ∀ c ∈ p.2.toList.getLast?, isSpace c = false
  data : ∀ c ∈ cmd.data.toList, c ≠ '%' ∧ c ≠ '\r'

/-- The properties' text of a rendered line, its newlines escaped. -/
def escapedProperties (ps : List (String × String)) : List Char :=
  [','].intercalate (ps.map fun p => p.1.toList ++ '=' :: escapeNewlines p.2.toList)

/-- A rune of the properties' text is a separator, a rune of a key, a rune
of a value other than a newline, or a rune of `%0A`. -/
theorem mem_escapedProperties {c : Char} {ps : List (String × String)} (h : c ∈ escapedProperties ps) :
    c = ',' ∨ c = '=' ∨ c = '%' ∨ c = '0' ∨ c = 'A' ∨ ∃ p ∈ ps, c ∈ p.1.toList ∨ (c ∈ p.2.toList ∧ c ≠ '\n') := by
  rcases mem_intercalate_comma h with h | ⟨l, hl, h⟩
  · exact .inl h
  obtain ⟨p, hp, rfl⟩ := List.mem_map.1 hl
  rcases List.mem_append.1 h with h | h
  · exact .inr (.inr (.inr (.inr (.inr ⟨p, hp, .inl h⟩))))
  rcases List.mem_cons.1 h with h | h
  · exact .inr (.inl h)
  rcases mem_escapeNewlines h with h | h | h | h
  · exact .inr (.inr (.inr (.inr (.inr ⟨p, hp, .inr h⟩))))
  all_goals simp only [h, true_or, or_true]

theorem lineEnd_of_isSpace_eq_false {c : Char} (h : isSpace c = false) : c ≠ '\r' ∧ c ≠ '\n' :=
  ⟨by rintro rfl; exact absurd h (by decide), by rintro rfl; exact absurd h (by decide)⟩

section Render

variable {name : String} {ps : List (String × String)} {data : String} (h : Renderable ⟨name, ps, data⟩)
include h

/-- The rendered line with its newlines escaped: the name, a space, the
properties with their values escaped, `::`, the data escaped. -/
theorem escapeNewlines_render :
    escapeNewlines (render ⟨name, ps, data⟩) =
      ':' :: ':' :: ((name.toList ++ ' ' :: escapedProperties ps) ++ ':' :: ':' :: escapeNewlines data.toList) := by
  have hpiece : ∀ p ∈ ps, escapeNewlines (p.1.toList ++ '=' :: p.2.toList) =
      p.1.toList ++ '=' :: escapeNewlines p.2.toList := fun p hp => by
    rw [escapeNewlines_append, escapeNewlines_of_not_mem fun hn =>
        (lineEnd_of_isSpace_eq_false ((h.key p hp).2 '\n' hn).2.2.2).2 rfl,
      escapeNewlines_cons (by decide)]
  simp only [render, escapedProperties, escapeNewlines_append, escapeNewlines_intercalate_comma, List.map_map,
    escapeNewlines_of_not_mem fun hn => (lineEnd_of_isSpace_eq_false (h.name '\n' hn).2).2 rfl, List.cons_append,
    List.nil_append, escapeNewlines_cons (show ' ' ≠ '\n' by decide), escapeNewlines_cons (show ':' ≠ '\n' by decide),
    escapeNewlines_nil, List.append_assoc]
  rw [List.map_congr_left (f := escapeNewlines ∘ _) hpiece]

/-- The properties of the line read back as the command's. -/
theorem properties_render : properties (escapedProperties ps) = ps := by
  rw [escapedProperties, show ps.map (fun p => p.1.toList ++ '=' :: escapeNewlines p.2.toList) =
    (ps.map fun p => (p.1.toList, escapeNewlines p.2.toList)).map (fun p => p.1 ++ '=' :: p.2) by
      rw [List.map_map]; rfl]
  refine (@properties_intercalate (ps.map fun p => (p.1.toList, escapeNewlines p.2.toList))
    (by simp only [List.mem_map]; rintro _ ⟨p, hp, rfl⟩
        exact ⟨(h.key p hp).1, fun h' => ((h.key p hp).2 ',' h').1 rfl, fun h' => ((h.key p hp).2 '=' h').2.1 rfl⟩)
    (by simp only [List.mem_map]; rintro _ ⟨p, hp, rfl⟩; exact (h.value p hp).escape)).trans ?_
  rw [List.map_map]
  refine (List.map_congr_left fun p hp => ?_).trans (List.map_id _)
  have hunescape : unescape propertyEscapes (escapeNewlines p.2.toList) = p.2.toList := by
    simpa using unescape_escapeNewlines find?_propertyEscapes_newline
      (fun h' => ((h.value p hp).2.2 '%' h').2.2.1 rfl) []
  show ((⟨p.1.toList⟩, ⟨unescape propertyEscapes (escapeNewlines p.2.toList)⟩) : String × String) = p
  rw [hunescape]
  rfl

/-- The properties' text has no white space at its ends, so the runner's
trim leaves it. -/
theorem trim_escapedProperties : trim (escapedProperties ps) = escapedProperties ps := by
  rcases ps.eq_nil_or_concat' with rfl | ⟨front, p, rfl⟩
  · rfl
  refine trim_eq_self (fun c hc => ?_) (fun c hc => ?_)
  · obtain ⟨q, qs, hq⟩ := List.exists_cons_of_ne_nil (by simp : front ++ [p] ≠ [])
    have hkey := h.key q (hq ▸ List.mem_cons_self q qs)
    obtain ⟨k, ks, hk⟩ := List.exists_cons_of_ne_nil hkey.1
    obtain ⟨t, ht⟩ := intercalate_comma_cons (q.1.toList ++ '=' :: escapeNewlines q.2.toList)
      (qs.map fun p => p.1.toList ++ '=' :: escapeNewlines p.2.toList)
    rw [escapedProperties, hq, List.map_cons, ht, hk] at hc
    obtain rfl : k = c := by simpa using hc
    exact (hkey.2 k (hk ▸ List.mem_cons_self k ks)).2.2.2
  · have hmem : p ∈ front ++ [p] := List.mem_append_right _ (List.mem_singleton_self p)
    obtain ⟨vs, v, hv⟩ := (p.2.toList.eq_nil_or_concat').resolve_left (h.value p hmem).1
    have hlast : isSpace v = false := h.last p (List.getLast?_concat front) v (by rw [hv, List.getLast?_concat]; rfl)
    obtain ⟨t, ht⟩ := intercalate_comma_concat (p.1.toList ++ '=' :: escapeNewlines p.2.toList)
      (front.map fun p => p.1.toList ++ '=' :: escapeNewlines p.2.toList)
    rw [escapedProperties, List.map_append, List.map_singleton, ht, hv,
      escapeNewlines_concat (lineEnd_of_isSpace_eq_false hlast).2,
      show t ++ (p.1.toList ++ '=' :: (escapeNewlines vs ++ [v])) = (t ++ p.1.toList ++ '=' :: escapeNewlines vs) ++ [v]
        by simp, List.getLast?_concat] at hc
    exact Option.some.inj hc ▸ hlast

/-- No `::` ends the command information early: the name, the keys and
the values hold no `:`, and escaping adds none. -/
theorem colon_not_mem_render : ':' ∉ name.toList ++ ' ' :: escapedProperties ps := by
  simp only [List.mem_append, List.mem_cons, not_or]
  refine ⟨fun hc => (h.name ':' hc).1 rfl, by decide, fun hc => ?_⟩
  rcases mem_escapedProperties hc with hc | hc | hc | hc | hc | ⟨p, hp, hc | ⟨hc, -⟩⟩
  iterate 5 exact absurd hc (by decide)
  · exact ((h.key p hp).2 ':' hc).2.2.1 rfl
  · exact ((h.value p hp).2.2 ':' hc).2.1 rfl

/-- The escaped line holds no line end. -/
theorem lineEnd_not_mem_render : ∀ c ∈ escapeNewlines (render ⟨name, ps, data⟩), c ≠ '\r' ∧ c ≠ '\n' := by
  rw [escapeNewlines_render h]
  intro c hc
  simp only [List.mem_cons, List.mem_append] at hc
  rcases hc with rfl | rfl | ((hc | rfl | hc) | rfl | rfl | hc)
  any_goals decide
  · exact lineEnd_of_isSpace_eq_false (h.name c hc).2
  · rcases mem_escapedProperties hc with rfl | rfl | rfl | rfl | rfl | ⟨p, hp, hc | hc⟩
    any_goals decide
    · exact lineEnd_of_isSpace_eq_false ((h.key p hp).2 c hc).2.2.2
    · exact ⟨fun hr => ((h.value p hp).2.2 c hc.1).2.2.2 hr, hc.2⟩
  · rcases mem_escapeNewlines hc with hc | rfl | rfl | rfl
    any_goals decide
    exact ⟨(h.data c hc.1).2, hc.2⟩

/-- The escaped line reads as the command. -/
theorem parse_escapeNewlines_render : parse (escapeNewlines (render ⟨name, ps, data⟩)) = some ⟨name, ps, data⟩ := by
  have hname : ∀ c ∈ name.toList, (c != ' ') = true := fun c hc =>
    bne_iff_ne.2 fun hs => absurd (h.name c hc).2 (by rw [hs]; decide)
  have hdata : unescape dataEscapes (escapeNewlines data.toList) = data.toList := by
    simpa using unescape_escapeNewlines find?_dataEscapes_newline (fun h' => (h.data '%' h').1 rfl) []
  have htake : (' ' :: escapedProperties ps).takeWhile (· != ' ') = [] := List.takeWhile_cons_of_neg (by decide)
  have hdrop : (' ' :: escapedProperties ps).dropWhile (· != ' ') = ' ' :: escapedProperties ps :=
    List.dropWhile_cons_of_neg (by decide)
  rw [escapeNewlines_render h, parse, List.dropWhile_cons_of_neg (by decide)]
  simp only [splitAtSeparator_append (colon_not_mem_render h), List.takeWhile_append_of_pos hname,
    List.dropWhile_append_of_pos hname, htake, hdrop, List.drop_one, List.tail_cons, List.append_nil,
    trim_escapedProperties h, properties_render h, hdata, List.isEmpty_eq_false.2 h.name_ne, Bool.false_eq_true,
    if_false]
  rfl

end Render

/-- **Round trip.** A command printed with its newlines escaped is read as
one line, which holds the command, when nothing else in it needs an
escape. -/
theorem parse_render (cmd : Command) (h : Renderable cmd) :
    (lines (replaceAllRune ⟨render cmd⟩ '\n' "%0A").toList).map parse = [some cmd] := by
  obtain ⟨name, ps, data⟩ := cmd
  show (lines (escapeNewlines (render _))).map parse = _
  rw [lines_of_forall (lineEnd_not_mem_render h)
    (by rw [escapeNewlines_render h]; exact List.cons_ne_nil _ _), List.map_singleton, parse_escapeNewlines_render h]

end Bytebase.WorkflowCommand
