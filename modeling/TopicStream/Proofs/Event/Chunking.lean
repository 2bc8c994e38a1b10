import Mathlib.Data.List.Induction
import Mathlib.Data.List.TakeWhile
import Mathlib.Tactic.SplitIfs
import TopicStream.Event.Decoder

/-!
# Chunking

How a body is cut into chunks does not matter for what a decoder makes of it. The bytes that a
decoder keeps hold no line feed (`Decoder.pending_of_reachable`), so the lines of what it keeps and
of what comes next are the lines of both together (`cutLines_append`).

## Main results

* `Decoder.push_append`: taking a chunk and then another is taking both at once;
* `Decoder.pushAll_eq_push`: taking chunks one after the other is taking them at once;
* `Decoder.push_chunking`: two cuts of what comes next give the same records and the same decoder,
  and the bytes that a decoder keeps are those after the last line feed of all that it has taken.
-/

namespace TopicStream.Event

/-- The bytes of a body after its last line feed. -/
def unfinished (bytes : Bytes) : Bytes := (bytes.reverse.takeWhile (· != lineFeed)).reverse

/-! ### Cutting lines -/

/-- Lines gathered before do not matter for those that follow. -/
theorem foldl_gatherLine (bytes : Bytes) (lines : List Bytes) (current : Bytes) :
    bytes.foldl gatherLine (lines, current) =
      ((bytes.foldl gatherLine ([], current)).1 ++ lines,
        (bytes.foldl gatherLine ([], current)).2) := by
  induction bytes generalizing lines current with
  | nil => rfl
  | cons b bytes ih =>
    rw [List.foldl_cons, List.foldl_cons]
    by_cases hb : b = lineFeed
    · simp only [gatherLine, if_pos hb]
      rw [ih (current.reverse :: lines), ih [current.reverse]]
      simp
    · simp only [gatherLine, if_neg hb]
      rw [ih]

/-- Bytes without a line feed only lengthen the line under way. -/
theorem foldl_gatherLine_of_not_mem {bytes : Bytes} (h : lineFeed ∉ bytes) (lines : List Bytes)
    (current : Bytes) :
    bytes.foldl gatherLine (lines, current) = (lines, bytes.reverse ++ current) := by
  induction bytes generalizing current with
  | nil => rfl
  | cons b bytes ih =>
    obtain ⟨hb, hrest⟩ := List.ne_and_not_mem_of_not_mem_cons h
    rw [List.foldl_cons, gatherLine, if_neg hb.symm, ih hrest]
    simp

theorem foldl_gatherLine_snd (bytes : Bytes) :
    (bytes.foldl gatherLine ([], [])).2 = bytes.reverse.takeWhile (· != lineFeed) := by
  induction bytes using List.reverseRecOn with
  | nil => rfl
  | append_singleton bytes b ih =>
    -- the last byte ends the line or belongs to it
    rw [List.foldl_append, List.foldl_cons, List.foldl_nil, gatherLine, List.reverse_append]
    by_cases hb : b = lineFeed
    · simp [hb]
    · simp [hb, ih]

/-- The lines of a cut, and the bytes left over, in order. -/
theorem cutLines_eq (bytes : Bytes) :
    cutLines bytes = ((bytes.foldl gatherLine ([], [])).1.reverse,
      (bytes.foldl gatherLine ([], [])).2.reverse) := rfl

theorem cutLines_snd (bytes : Bytes) : (cutLines bytes).2 = unfinished bytes := by
  rw [cutLines_eq, foldl_gatherLine_snd, unfinished]

theorem lineFeed_not_mem_cutLines (bytes : Bytes) : lineFeed ∉ (cutLines bytes).2 := by
  rw [cutLines_snd, unfinished, List.mem_reverse]
  intro h
  simpa using List.mem_takeWhile_imp h

/-- Bytes without a line feed hold no whole line. -/
theorem cutLines_of_not_mem {bytes : Bytes} (h : lineFeed ∉ bytes) :
    cutLines bytes = ([], bytes) := by
  rw [cutLines_eq, foldl_gatherLine_of_not_mem h]
  simp

/-- The lines of two parts are those of the first, and those of what it leaves over together with
the second. -/
theorem cutLines_append (a b : Bytes) :
    cutLines (a ++ b) =
      ((cutLines a).1 ++ (cutLines ((cutLines a).2 ++ b)).1,
        (cutLines ((cutLines a).2 ++ b)).2) := by
  -- what the first part leaves over is the line that the second part begins with
  have hleft : ((cutLines a).2 ++ b).foldl gatherLine ([], []) =
      b.foldl gatherLine ([], (a.foldl gatherLine ([], [])).2) := by
    rw [List.foldl_append, foldl_gatherLine_of_not_mem (lineFeed_not_mem_cutLines a)]
    simp [cutLines_eq]
  have hboth : (a ++ b).foldl gatherLine ([], []) =
      ((b.foldl gatherLine ([], (a.foldl gatherLine ([], [])).2)).1 ++
          (a.foldl gatherLine ([], [])).1,
        (b.foldl gatherLine ([], (a.foldl gatherLine ([], [])).2)).2) := by
    rw [List.foldl_append, ← foldl_gatherLine]
  rw [cutLines_eq (a ++ b), cutLines_eq ((cutLines a).2 ++ b), hboth, hleft, cutLines_eq a]
  simp

namespace Decoder

/-! ### Taking lines -/

/-- A field leaves the bytes of the unfinished line as they are, and does not depend on them. -/
theorem setField_pending (d : Decoder) (pending : Bytes) (name value : List Char) :
    setField { d with pending } name value = { d.setField name value with pending } := by
  simp only [setField]
  split_ifs <;> rfl

theorem takeLine_pending (d : Decoder) (pending : Bytes) (line : Line) :
    takeLine { d with pending } line =
      ((d.takeLine line).1, { (d.takeLine line).2 with pending }) := by
  cases line with
  | blank => rfl
  | comment => rfl
  | field name value => rw [takeLine, takeLine, setField_pending]

theorem takeLines_pending (d : Decoder) (pending : Bytes) (lines : List Bytes) :
    takeLines { d with pending } lines =
      ((d.takeLines lines).1, { (d.takeLines lines).2 with pending }) := by
  induction lines generalizing d with
  | nil => rfl
  | cons line lines ih =>
    simp only [takeLines]
    rw [takeLine_pending, ih]

theorem takeLines_append (d : Decoder) (first second : List Bytes) :
    d.takeLines (first ++ second) =
      ((d.takeLines first).1 ++ ((d.takeLines first).2.takeLines second).1,
        ((d.takeLines first).2.takeLines second).2) := by
  induction first generalizing d with
  | nil => rfl
  | cons line lines ih =>
    simp only [List.cons_append, takeLines]
    rw [ih, List.append_assoc]

/-! ### Taking chunks -/

/-- Takes chunks in order and gathers the records that they complete. -/
def pushAll (d : Decoder) : List Bytes → List Record × Decoder
  | [] => ([], d)
  | chunk :: chunks =>
    ((d.push chunk).1 ++ ((d.push chunk).2.pushAll chunks).1, ((d.push chunk).2.pushAll chunks).2)

/-- Decoders reachable from `empty` by taking chunks. -/
inductive Reachable : Decoder → Prop
  | empty : Reachable Decoder.empty
  | push {d : Decoder} {chunk : Bytes} : Reachable d → Reachable (d.push chunk).2

/-- What a decoder keeps of a chunk and of what it kept before is what is after the last line
feed. -/
theorem push_pending (d : Decoder) (chunk : Bytes) :
    (d.push chunk).2.pending = (cutLines (d.pending ++ chunk)).2 := rfl

theorem pending_of_reachable {d : Decoder} (h : Reachable d) : lineFeed ∉ d.pending := by
  cases h with
  | empty => simp [empty]
  | push _ =>
    rw [push_pending]
    exact lineFeed_not_mem_cutLines _

/-- Taking no bytes changes nothing if no line feed is kept. -/
theorem push_nil {d : Decoder} (h : lineFeed ∉ d.pending) : d.push [] = ([], d) := by
  rw [push, List.append_nil, cutLines_of_not_mem h]
  rfl

/-- Taking a chunk and then another is taking both at once. -/
theorem push_append (d : Decoder) (a b : Bytes) :
    d.push (a ++ b) = ((d.push a).1 ++ ((d.push a).2.push b).1, ((d.push a).2.push b).2) := by
  -- the second push cuts what the first has kept together with its own chunk
  have hlines := cutLines_append (d.pending ++ a) b
  rw [List.append_assoc] at hlines
  simp only [push, hlines, takeLines_append, takeLines_pending]

/-- Taking chunks one after the other is taking them at once, if no line feed is kept. -/
theorem pushAll_eq_push {d : Decoder} (h : lineFeed ∉ d.pending) (chunks : List Bytes) :
    d.pushAll chunks = d.push chunks.flatten := by
  induction chunks generalizing d with
  | nil => rw [pushAll, List.flatten_nil, push_nil h]
  | cons chunk chunks ih =>
    have hkept : lineFeed ∉ (d.push chunk).2.pending := by
      rw [push_pending]
      exact lineFeed_not_mem_cutLines _
    rw [pushAll, List.flatten_cons, push_append, ih hkept]

/-- How the bytes that a decoder takes next are cut into chunks does not matter, neither for the
records that they complete nor for the decoder that they leave. Of a whole body, the bytes after the
last line feed are kept. -/
theorem push_chunking {d : Decoder} (hd : Reachable d) :
    (∀ a b : Bytes,
      (d.push a).1 ++ ((d.push a).2.push b).1 = (d.push (a ++ b)).1 ∧
        ((d.push a).2.push b).2 = (d.push (a ++ b)).2) ∧
      (∀ chunks chunks' : List Bytes, chunks.flatten = chunks'.flatten →
        d.pushAll chunks = d.pushAll chunks') ∧
      ∀ chunks : List Bytes,
        (empty.pushAll chunks).2.pending = unfinished chunks.flatten := by
  refine ⟨fun a b => ?_, fun chunks chunks' hflatten => ?_, fun chunks => ?_⟩
  · rw [push_append]
    exact ⟨rfl, rfl⟩
  · have hkept := pending_of_reachable hd
    rw [pushAll_eq_push hkept, pushAll_eq_push hkept, hflatten]
  · rw [pushAll_eq_push (pending_of_reachable .empty), push_pending, cutLines_snd]
    rfl

/-- A line cut inside a character, between its carriage return and its line feed, and around an
empty chunk is read as byte by byte; its record waits for the blank line that was cut as well. -/
theorem push_chunking_inside_character :
    let d := (empty.push [0x64, 0x61]).2
    let chunks : List Bytes :=
      [[0x74, 0x61, 0x3A, 0xC3], [0xA9, 0x0D], [], [0x0A, 0x0D], [0x0A, 0x78]]
    let bytes : List Bytes := chunks.flatten.map ([·])
    chunks.flatten = bytes.flatten ∧ d.pushAll chunks = d.pushAll bytes ∧
      (d.pushAll chunks).1.length = 1 ∧ (d.pushAll chunks).2.pending = [0x78] := by
  intro d chunks bytes
  have hd : Reachable d := .push .empty
  have hflatten : chunks.flatten = bytes.flatten := by decide
  exact ⟨hflatten, (push_chunking hd).2.1 chunks bytes hflatten, by decide +kernel,
    by decide +kernel⟩

end Decoder

end TopicStream.Event
