import Mathlib.Data.List.Forall2
import TopicStream.Proofs.Event.Chunking
import TopicStream.Proofs.Text.Utf8

/-!
# Frames

A frame is a group of lines that are not blank, ended by a blank one. Whatever its lines are, a
decoder at the boundary between two records makes one record of it and is at the boundary again.

What a line says is described here by a relation, without a decoder (`Says`), and the record of a
frame is put together from the values of the lines of each name (`recordOf`): of the events and the
ids the last counts, of the data all do.

## Main results

* `says_iff`: the format gives every line one meaning, the one that the decoder finds;
* `Decoder.takeLines_eq_collect`: lines that are not blank complete no record and leave each field
  as the values of its name say;
* `Decoder.push_frame`: the record of a frame, and the decoder after it.
-/

namespace TopicStream.Event

/-! ### What lines say -/

/-- What a text between two line ends says, as the format describes it. -/
inductive Says : List Char → Line → Prop
  /-- A line without text is blank. -/
  | blank : Says [] .blank
  /-- A line that begins with a colon says nothing. -/
  | comment (text : List Char) : Says (':' :: text) .comment
  /-- A line without a colon is the name of a field with an empty value. -/
  | lone {name : List Char} (named : name ≠ []) (colon : ':' ∉ name) : Says name (.field name [])
  /-- One space after the first colon does not belong to the value. -/
  | spaced {name : List Char} (value : List Char) (named : name ≠ []) (colon : ':' ∉ name) :
      Says (name ++ ':' :: ' ' :: value) (.field name value)
  /-- Any other value begins right after the first colon. -/
  | tight {name value : List Char} (named : name ≠ []) (colon : ':' ∉ name)
      (space : value.head? ≠ some ' ') :
      Says (name ++ ':' :: value) (.field name value)

/-- A text that begins with a name splits after it. -/
theorem ofChars_of_name {name : List Char} (hname : name ≠ []) (hcolon : ':' ∉ name)
    {rest : List Char} (hrest : rest = [] ∨ rest.head? = some ':') :
    Line.ofChars (name ++ rest) = .field name (Line.dropSpace (rest.drop 1)) := by
  have hall : ∀ c ∈ name, (c != ':') = true := fun c hc => by
    simpa using ne_of_mem_of_not_mem hc hcolon
  have hstop : rest.takeWhile (· != ':') = [] ∧ rest.dropWhile (· != ':') = rest := by
    rcases hrest with rfl | hrest
    · simp
    · obtain ⟨rest, rfl⟩ := List.head?_eq_some_iff.1 hrest
      simp
  obtain ⟨c, name, rfl⟩ := List.exists_cons_of_ne_nil hname
  have hc : c ≠ ':' := by simpa using hall c List.mem_cons_self
  rw [List.cons_append, Line.ofChars, ← List.cons_append, List.takeWhile_append_of_pos hall,
    List.dropWhile_append_of_pos hall, hstop.1, hstop.2, List.append_nil]
  · simp
  · simpa using hc

/-- Every line says one thing, and that is what the decoder finds in it. -/
theorem says_iff {text : List Char} {line : Line} : Says text line ↔ line = Line.ofChars text := by
  constructor
  · intro h
    cases h with
    | blank => rfl
    | comment => rfl
    | lone hname hcolon =>
      have heq := ofChars_of_name hname hcolon (.inl rfl)
      rw [List.append_nil] at heq
      rw [heq]
      rfl
    | spaced value hname hcolon => rw [ofChars_of_name hname hcolon (.inr rfl)]; rfl
    | @tight name value hname hcolon hspace =>
      rw [ofChars_of_name hname hcolon (.inr rfl), List.drop_one, List.tail_cons]
      congr
      rw [Line.dropSpace]
      intro value' heq
      exact hspace (by rw [heq]; rfl)
  · rintro rfl
    -- the text begins with a colon or with a name
    by_cases hnil : text = []
    · subst hnil
      exact .blank
    by_cases hcomment : text.head? = some ':'
    · obtain ⟨rest, rfl⟩ := List.head?_eq_some_iff.1 hcomment
      exact .comment rest
    obtain ⟨name, rest, rfl, hname, hcolon, hrest⟩ : ∃ name rest, text = name ++ rest ∧
        name ≠ [] ∧ ':' ∉ name ∧ (rest = [] ∨ rest.head? = some ':') := by
      refine ⟨text.takeWhile (· != ':'), text.dropWhile (· != ':'),
        List.takeWhile_append_dropWhile.symm, ?_, ?_, ?_⟩
      · obtain ⟨c, text, rfl⟩ := List.exists_cons_of_ne_nil hnil
        have hc : c ≠ ':' := by simpa using hcomment
        simp [hc]
      · intro hmem
        simpa using List.mem_takeWhile_imp hmem
      · rcases hdrop : text.dropWhile (· != ':') with _ | ⟨c, rest⟩
        · exact .inl rfl
        · have hc := List.head?_dropWhile_not (· != ':') text
          rw [hdrop] at hc
          exact .inr (by simpa using hc)
    rw [ofChars_of_name hname hcolon hrest]
    rcases hrest with rfl | hrest
    · rw [List.append_nil]
      exact .lone hname hcolon
    · obtain ⟨value, rfl⟩ := List.head?_eq_some_iff.1 hrest
      rw [List.drop_one, List.tail_cons]
      by_cases hspace : value.head? = some ' '
      · obtain ⟨value, rfl⟩ := List.head?_eq_some_iff.1 hspace
        exact .spaced value hname hcolon
      · have heq : Line.dropSpace value = value := by
          rw [Line.dropSpace]
          intro value' heq
          exact hspace (by rw [heq]; rfl)
        rw [heq]
        exact .tight hname hcolon hspace

/-! ### The record of what lines say -/

/-- The values of the lines that name a field, in order. -/
def valuesOf (name : String) (said : List Line) : List (List Char) :=
  said.filterMap fun
    | .field name' value => if name' = name.toList then some value else none
    | _ => none

/-- The record of a frame whose lines say the given things: the last event, unless it is empty or
there is none; the last id; the data of all lines, one below the other, as JSON or as they are. -/
def recordOf (said : List Line) : Record where
  event :=
    match (valuesOf "event" said).getLast? with
    | none | some [] => "message"
    | some value => String.ofList value
  id := (valuesOf "id" said).getLast?.map String.ofList
  payload :=
    match valuesOf "data" said with
    | [] => none
    | values =>
      let text := ['\n'].intercalate values
      match Json.parseChars text with
      | .ok value => some value
      | .error _ => some (.object [("raw", .string (String.ofList text))])

theorem valuesOf_cons_comment (name : String) (said : List Line) :
    valuesOf name (.comment :: said) = valuesOf name said := rfl

theorem valuesOf_cons_field (name : String) (name' value : List Char) (said : List Line) :
    valuesOf name (.field name' value :: said) =
      (if name' = name.toList then [value] else []) ++ valuesOf name said := by
  by_cases h : name' = name.toList <;> simp [valuesOf, h]

namespace Decoder

/-- A decoder after lines that are not blank: each field is as the values of its name say, or as
before. -/
def collect (d : Decoder) (said : List Line) : Decoder where
  pending := d.pending
  event := (valuesOf "event" said).getLast?.elim d.event fun value =>
    if value.isEmpty then none else some (String.ofList value)
  data := (valuesOf "data" said).reverse ++ d.data
  id := (valuesOf "id" said).getLast?.elim d.id fun value => some (String.ofList value)

/-- A later value of a name hides an earlier one. -/
theorem elim_getLast?_append {α β : Type} (before after : List α) (none : β) (some : α → β) :
    (before ++ after).getLast?.elim none some =
      after.getLast?.elim (before.getLast?.elim none some) some := by
  rw [List.getLast?_append]
  cases after.getLast? <;> rfl

/-- Taking a field first and collecting then is collecting both. -/
theorem collect_setField (d : Decoder) (name value : List Char) (said : List Line) :
    (d.setField name value).collect said = d.collect (.field name value :: said) := by
  have hevent : "event".toList = ['e', 'v', 'e', 'n', 't'] := by decide
  have hdata : "data".toList = ['d', 'a', 't', 'a'] := by decide
  have hid : "id".toList = ['i', 'd'] := by decide
  simp only [collect, valuesOf_cons_field, elim_getLast?_append, setField, hevent, hdata, hid]
  -- the line names one of the three fields or none of them
  by_cases h1 : name = ['e', 'v', 'e', 'n', 't']
  · simp [h1]
  by_cases h2 : name = ['d', 'a', 't', 'a']
  · simp [h2]
  by_cases h3 : name = ['i', 'd']
  · simp [h3]
  simp [h1, h2, h3]

/-- Lines that are not blank complete no record; each field is then as the values of its name
say. -/
theorem takeLines_eq_collect (d : Decoder) {lines : List Bytes}
    (hlines : ∀ line ∈ lines, dropReturn line ≠ []) :
    d.takeLines lines = ([], d.collect (lines.map Line.ofBytes)) := by
  induction lines generalizing d with
  | nil => rfl
  | cons line lines ih =>
    obtain ⟨hline, hlines⟩ := List.forall_mem_cons.1 hlines
    -- a line with bytes has text
    have hblank : Line.ofBytes line ≠ .blank := by
      intro hblank
      have hnone : Says (Text.Utf8.decodeLossy (dropReturn line)) .blank := says_iff.2 hblank.symm
      generalize htext : Text.Utf8.decodeLossy (dropReturn line) = text at hnone
      cases hnone
      exact hline (Text.Utf8.decodeLossy_eq_nil_iff.1 htext)
    rw [takeLines, List.map_cons]
    cases hsaid : Line.ofBytes line with
    | blank => exact absurd hsaid hblank
    | comment => simp [takeLine, ih _ hlines, collect, valuesOf_cons_comment]
    | field name value => simp [takeLine, ih _ hlines, collect_setField]

/-- Bytes that end no blank line complete no record. -/
theorem push_eq_nil_of_filled {d : Decoder} {chunk : Bytes}
    (h : ∀ line ∈ (cutLines (d.pending ++ chunk)).1, dropReturn line ≠ []) :
    (d.push chunk).1 = [] := by
  have hrecords : (d.push chunk).1 = (d.takeLines (cutLines (d.pending ++ chunk)).1).1 := rfl
  rw [hrecords, takeLines_eq_collect d h]

/-- The record of a decoder that has collected what lines say since the last record. -/
theorem record_collect (said : List Line) : (empty.collect said).record = recordOf said := by
  simp only [record, recordOf, collect, empty, List.append_nil, List.reverse_reverse, payload?,
    defaultName]
  congr 1
  · cases (valuesOf "event" said).getLast? with
    | none => rfl
    | some value => cases value <;> rfl
  · cases (valuesOf "id" said).getLast? <;> rfl
  · cases valuesOf "data" said <;> rfl

end Decoder

/-! ### Frames -/

theorem dropReturn_eq_nil_iff {line : Bytes} :
    dropReturn line = [] ↔ line = [] ∨ line = [carriageReturn] := by
  rw [dropReturn]
  constructor
  · intro h
    split at h
    · rename_i hlast
      obtain ⟨rest, rfl⟩ := List.getLast?_eq_some_iff.1 hlast
      rw [List.dropLast_concat] at h
      exact .inr (by rw [h]; rfl)
    · exact .inl h
  · rintro (rfl | rfl) <;> rfl

/-- Lines that are not blank, and the blank line after them. -/
structure Frame where
  /-- The lines before the blank one, without their line feeds. -/
  lines : List Bytes
  /-- The blank line, without its line feed. -/
  last : Bytes
  /-- Each of the lines is one line. -/
  whole : ∀ line ∈ lines, lineFeed ∉ line
  /-- None of the lines is blank. -/
  filled : ∀ line ∈ lines, dropReturn line ≠ []
  /-- The last line is blank. -/
  blank : dropReturn last = []

namespace Frame

/-- The bytes of a frame. -/
def bytes (f : Frame) : Bytes := (f.lines ++ [f.last]).flatMap (· ++ [lineFeed])

/-- The texts of the lines of a frame before the blank one. -/
def texts (f : Frame) : List (List Char) :=
  f.lines.map fun line => Text.Utf8.decodeLossy (dropReturn line)

/-- What the lines of a frame say. -/
theorem forall₂_says_iff (f : Frame) {said : List Line} :
    List.Forall₂ Says f.texts said ↔ said = f.lines.map Line.ofBytes := by
  have heq : Says = fun text line => line = Line.ofChars text := by
    ext text line
    exact says_iff
  rw [heq, texts, List.forall₂_map_left_iff, ← List.forall₂_eq_eq_eq, List.forall₂_map_right_iff]
  exact ⟨List.Forall₂.flip, List.Forall₂.flip⟩

end Frame

/-- The lines of bytes that consist of whole lines. -/
theorem cutLines_flatMap {lines : List Bytes} (h : ∀ line ∈ lines, lineFeed ∉ line) :
    cutLines (lines.flatMap (· ++ [lineFeed])) = (lines, []) := by
  induction lines with
  | nil => rfl
  | cons line lines ih =>
    obtain ⟨hline, hlines⟩ := List.forall_mem_cons.1 h
    have hone : cutLines (line ++ [lineFeed]) = ([line], []) := by
      rw [cutLines_append, cutLines_of_not_mem hline, cutLines_eq, List.foldl_append,
        foldl_gatherLine_of_not_mem hline]
      simp [gatherLine]
    rw [List.flatMap_cons, cutLines_append, hone, List.nil_append, ih hlines]
    rfl

namespace Decoder

/-- A decoder at the boundary between two records: it is fresh, or the last byte that it took
completed a record. -/
inductive AtBoundary : Decoder → Prop
  /-- Before the first byte. -/
  | fresh : AtBoundary empty
  /-- Right after a record. -/
  | emitted {d : Decoder} (reachable : Reachable d) (chunk : Bytes) (b : UInt8)
      (completed : ((d.push chunk).2.push [b]).1 ≠ []) : AtBoundary (d.push (chunk ++ [b])).2

/-- The byte that completes a record leaves nothing of it behind. -/
theorem push_singleton_of_ne_nil {d : Decoder} (hd : lineFeed ∉ d.pending) {b : UInt8}
    (h : (d.push [b]).1 ≠ []) : (d.push [b]).2 = empty := by
  by_cases hb : b = lineFeed
  · subst hb
    have hcut : cutLines (d.pending ++ [lineFeed]) = ([d.pending], []) := by
      have hlines : ∀ line ∈ [d.pending], lineFeed ∉ line := by simpa using hd
      simpa using cutLines_flatMap hlines
    rw [push, hcut] at h ⊢
    cases hsaid : Line.ofBytes d.pending with
    | blank => simp [takeLines, takeLine, hsaid, empty]
    | comment => simp [takeLines, takeLine, hsaid] at h
    | field name value => simp [takeLines, takeLine, hsaid] at h
  · have hcut : cutLines (d.pending ++ [b]) = ([], d.pending ++ [b]) :=
      cutLines_of_not_mem (by simpa using ⟨hd, Ne.symm hb⟩)
    rw [push, hcut] at h
    exact absurd rfl h

/-- A decoder at the boundary is as before the first byte. -/
theorem AtBoundary.eq_empty {d : Decoder} (h : d.AtBoundary) : d = empty := by
  cases h with
  | fresh => rfl
  | @emitted d hd chunk b hcompleted =>
    rw [push_append]
    exact push_singleton_of_ne_nil (pending_of_reachable (.push hd)) hcompleted

/-- A decoder at the boundary makes one record of a frame, the one that its lines describe, and is
then as before the first byte. Its lines say one thing each. -/
theorem push_frame {d : Decoder} (hd : d.AtBoundary) (frame : Frame) :
    ∃ said : List Line, (∀ said', List.Forall₂ Says frame.texts said' ↔ said' = said) ∧
      d.push frame.bytes = ([recordOf said], empty) := by
  refine ⟨frame.lines.map Line.ofBytes, fun _ => frame.forall₂_says_iff, ?_⟩
  have hwhole : ∀ line ∈ frame.lines ++ [frame.last], lineFeed ∉ line := by
    intro line hline
    rcases List.mem_append.1 hline with hline | hline
    · exact frame.whole line hline
    · rw [List.mem_singleton.1 hline]
      rcases dropReturn_eq_nil_iff.1 frame.blank with heq | heq <;> rw [heq] <;> decide
  have hlast : Line.ofBytes frame.last = .blank := by
    rw [Line.ofBytes, frame.blank]
    rfl
  have htake : empty.takeLines (frame.lines ++ [frame.last]) =
      ([recordOf (frame.lines.map Line.ofBytes)], empty) := by
    rw [takeLines_append, takeLines_eq_collect _ frame.filled, ← record_collect]
    simp [takeLines, takeLine, hlast, collect, empty]
  rw [hd.eq_empty, push, Frame.bytes, show empty.pending = [] from rfl, List.nil_append,
    cutLines_flatMap hwhole]
  simp only [htake]
  rfl

/-- Right after a record with an event, an id and data: a frame with a comment, an unknown field, an
event that is taken back, data of two lines that are no JSON and an id that is no text. -/
theorem push_frame_mixed :
    let d := (empty.push (Text.Utf8.encode "event: x\nid: 7\ndata: 1\n".toList ++ [lineFeed])).2
    let lines := ["event: a\r", ": data: 2", "retry: 9", "event:", "data", "data:  \x7b", "id: 7"]
    let lines := lines.map (Text.Utf8.encode ·.toList) ++ [[0x69, 0x64, 0x3A, 0xFF]]
    ∃ whole filled blank,
      d.AtBoundary ∧ d.push (Frame.mk lines [carriageReturn] whole filled blank).bytes =
        ([⟨"message", some "\uFFFD", some (.object [("raw", .string "\n \x7b")])⟩], empty) := by
  intro d _ lines
  have hd : d.AtBoundary := .emitted .empty _ _ (by decide +kernel)
  let frame : Frame := ⟨lines, [carriageReturn], by decide +kernel, by decide +kernel, by decide⟩
  refine ⟨frame.whole, frame.filled, frame.blank, hd, ?_⟩
  obtain ⟨said, hsaid, hpush⟩ := push_frame hd frame
  rw [← (hsaid _).1 (frame.forall₂_says_iff.2 rfl)] at hpush
  exact hpush

end Decoder

end TopicStream.Event
