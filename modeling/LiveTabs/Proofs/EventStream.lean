import Mathlib.Data.List.Infix
import LiveTabs.Patch.Frame
import LiveTabs.Proofs.JsonText
import LiveTabs.Proofs.SetCookie
/-!
The events that a standard reader makes of a stream: one for each patch, with its name and its data.
Whatever breaks a line in a patch breaks it between the lines of its data, each of which has a label
of its own, so no text of a patch stands where the reader looks for a field or for an empty line.
-/
namespace LiveTabs

namespace EventStream

structure Event where
  name : String
  data : String
  deriving DecidableEq

/-- What has been read of an event. -/
structure Gathered where
  name : List Char
  data : List Char

def Gathered.nothing : Gathered := ⟨[], []⟩

/-- The name and the value of a field. One space after the colon is no part of the value. -/
def splitField (line : List Char) : List Char × List Char :=
  let value :=
    match line.dropWhile (· != ':') with
    | ':' :: ' ' :: value => value
    | ':' :: value => value
    | _ => []
  (line.takeWhile (· != ':'), value)

/-- Takes in a line. Fields of other names, and comments, which have an empty one, do not go into
the event. -/
def Gathered.take (gathered : Gathered) (line : List Char) : Gathered :=
  let (name, value) := splitField line
  if name = "event".toList then { gathered with name := value }
  else if name = "data".toList then { gathered with data := gathered.data ++ value ++ ['\n'] }
  else gathered

/-- The event at an empty line; there is none without any data. -/
def Gathered.event? (gathered : Gathered) : Option Event :=
  if gathered.data.isEmpty then none
  else some ⟨if gathered.name.isEmpty then "message" else String.ofList gathered.name,
    String.ofList gathered.data.dropLast⟩

def readLines (gathered : Gathered) : List (List Char) → List Event
  | [] => []
  | [] :: rest => gathered.event?.toList ++ readLines .nothing rest
  | line :: rest => readLines (gathered.take line) rest

/-- A byte order mark in front does not count, and neither does an event or a line that is not
ended. -/
def read (text : String) : List Event :=
  let marked := text.toList
  let chars := if marked.head? = some '\uFEFF' then marked.drop 1 else marked
  readLines .nothing (Text.lines chars).dropLast

-- Comments, fields without a value and events without data, with all three kinds of line breaks.
example : read
    ": note\r\rdata:  one\r\ndata\r\n\r\nevent: add\ndata:two\nretry: 3\n\nevent: none\n\ndata: three\n" =
      [⟨"message", " one\n"⟩, ⟨"add", "two"⟩] := by decide

end EventStream

namespace Text

/-- Every line break as a line feed. -/
def withLineFeeds : List Char → List Char
  | [] => []
  | '\r' :: '\n' :: rest => '\n' :: withLineFeeds rest
  | c :: rest => (if c = '\r' then '\n' else c) :: withLineFeeds rest

/-- Takes a label, and the space after it, off every line; none where it does not stand in front of
each. -/
def unlabelled? (label : String) (text : String) : Option String :=
  ((splitAt '\n' text.toList).mapM fun line =>
    List.dropPrefix? line (label.toList ++ [' '])).map
    fun lines => String.ofList (joinWith '\n' lines)

/-- Nothing that ends a line. -/
def Unbroken (cs : List Char) : Prop := ∀ c ∈ cs, c ≠ '\r' ∧ c ≠ '\n'

theorem unbroken_of_plain {cs : List Char} (plain : Plain cs) : Unbroken cs := by
  intro c member
  constructor <;> rintro rfl <;> exact absurd (plain _ member) (by decide)

theorem ofList_labelled (label : String) (cs : List Char) :
    String.ofList (label.toList ++ cs) = label ++ String.ofList cs := by simp

theorem lines_ne_nil (cs : List Char) : lines cs ≠ [] := by
  induction cs using lines.induct with
  | case1 => nofun
  | case2 rest ih => nofun
  | case3 c rest apart breaks ih => simp [lines, breaks]
  | case4 c rest apart stays ih =>
    rw [lines.eq_3 c rest apart, if_neg stays]
    cases lines rest <;> nofun

/-- What stands before a line feed is a line, unless it is broken itself. -/
theorem lines_ended {line : List Char} (unbroken : Unbroken line) (rest : List Char) :
    lines (line ++ '\n' :: rest) = line :: lines rest := by
  induction line with
  | nil => simp [lines]
  | cons c tail ih =>
    obtain ⟨stays, later⟩ := List.forall_mem_cons.mp unbroken
    rw [List.cons_append, lines.eq_3 _ _ (fun _ carriage => absurd carriage stays.1), ih later,
      if_neg (not_or.mpr stays)]
    rfl

theorem lines_unbroken (cs : List Char) : ∀ line ∈ lines cs, Unbroken line := by
  have none : Unbroken [] := nofun
  induction cs using lines.induct with
  | case1 => simp [lines, none]
  | case2 rest ih => simpa [lines, none] using ih
  | case3 c rest apart breaks ih =>
    rw [lines.eq_3 c rest apart, if_pos breaks]
    exact List.forall_mem_cons.mpr ⟨none, ih⟩
  | case4 c rest apart stays ih =>
    rw [lines.eq_3 c rest apart, if_neg stays]
    cases found : lines rest with
    | nil => exact absurd found (lines_ne_nil rest)
    | cons line others =>
      rw [found] at ih
      obtain ⟨first, later⟩ := List.forall_mem_cons.mp ih
      exact List.forall_mem_cons.mpr ⟨List.forall_mem_cons.mpr ⟨not_or.mp stays, first⟩, later⟩

theorem joinWith_cons (separator : Char) (piece : List Char) {rest : List (List Char)}
    (more : rest ≠ []) :
    joinWith separator (piece :: rest) = piece ++ separator :: joinWith separator rest := by
  cases rest with
  | nil => exact absurd rfl more
  | cons next others => rfl

theorem joinWith_lines (cs : List Char) : joinWith '\n' (lines cs) = withLineFeeds cs := by
  induction cs using lines.induct with
  | case1 => rfl
  | case2 rest ih =>
    rw [lines, joinWith_cons _ _ (lines_ne_nil rest), ih, withLineFeeds]
    rfl
  | case3 c rest apart breaks ih =>
    rw [lines.eq_3 c rest apart, if_pos breaks, joinWith_cons _ _ (lines_ne_nil rest), ih,
      withLineFeeds.eq_3 c rest apart]
    rcases breaks with rfl | rfl <;> rfl
  | case4 c rest apart stays ih =>
    rw [lines.eq_3 c rest apart, if_neg stays, withLineFeeds.eq_3 c rest apart,
      if_neg (not_or.mp stays).1, ← ih]
    cases found : lines rest with
    | nil => exact absurd found (lines_ne_nil rest)
    | cons line others => cases others <;> rfl

/-- Pieces without the separator in them come apart again as they were. -/
theorem splitAt_joinWith (separator : Char) {pieces : List (List Char)} (some : pieces ≠ [])
    (apart : ∀ piece ∈ pieces, separator ∉ piece) :
    splitAt separator (joinWith separator pieces) = pieces := by
  induction pieces with
  | nil => exact absurd rfl some
  | cons piece rest ih =>
    obtain ⟨first, later⟩ := List.forall_mem_cons.mp apart
    have whole := splitAt_unseparated separator piece fun c member same => first (same ▸ member)
    cases rest with
    | nil => exact whole
    | cons next others =>
      rw [joinWith_cons _ _ (List.cons_ne_nil next others), splitAt_append, whole,
        ih (List.cons_ne_nil next others) later]
      rfl

theorem mem_joinWith {separator c : Char} {pieces : List (List Char)}
    (member : c ∈ joinWith separator pieces) : (∃ piece ∈ pieces, c ∈ piece) ∨ c = separator := by
  induction pieces with
  | nil => nomatch member
  | cons piece rest ih =>
    cases rest with
    | nil => exact .inl ⟨piece, List.mem_cons_self, member⟩
    | cons next others =>
      rw [joinWith_cons _ _ (List.cons_ne_nil next others), List.mem_append, List.mem_cons] at member
      obtain here | rfl | later := member
      · exact .inl ⟨piece, List.mem_cons_self, here⟩
      · exact .inr rfl
      · exact (ih later).imp_left fun ⟨other, listed, inside⟩ =>
          ⟨other, List.mem_cons_of_mem piece listed, inside⟩

theorem flatMap_ended {pieces : List (List Char)} (some : pieces ≠ []) :
    pieces.flatMap (· ++ ['\n']) = joinWith '\n' pieces ++ ['\n'] := by
  induction pieces with
  | nil => exact absurd rfl some
  | cons piece rest ih =>
    cases rest with
    | nil => simp [joinWith]
    | cons next others =>
      rw [List.flatMap_cons, ih (List.cons_ne_nil next others),
        joinWith_cons _ _ (List.cons_ne_nil next others)]
      simp

end Text

namespace Patch
open Text

theorem labelled_lines {label : String} (unbroken : Unbroken label.toList) (text : String) :
    splitAt '\n' (labelled label text) =
        (lines text.toList).map (fun line => label.toList ++ ' ' :: line) ∧
      ∀ line ∈ splitAt '\n' (labelled label text), Unbroken line := by
  have every : ∀ line ∈ (lines text.toList).map (fun line => label.toList ++ ' ' :: line),
      Unbroken line := by
    intro line member
    obtain ⟨bare, listed, rfl⟩ := List.mem_map.mp member
    exact List.forall_mem_append.mpr ⟨unbroken,
      List.forall_mem_cons.mpr ⟨by decide, lines_unbroken text.toList bare listed⟩⟩
  have apart := splitAt_joinWith '\n' (by simp [lines_ne_nil])
    fun line member feed => (every line member _ feed).2 rfl
  rw [labelled, apart]
  exact ⟨rfl, every⟩

theorem unlabelled?_labelled {label : String} (unbroken : Unbroken label.toList) (text : String) :
    unlabelled? label (String.ofList (labelled label text)) =
      some (String.ofList (withLineFeeds text.toList)) := by
  have bare : ∀ line : List Char,
      List.dropPrefix? (label.toList ++ ' ' :: line) (label.toList ++ [' ']) = some line :=
    fun line => List.dropPrefix?_eq_some_iff.mpr ⟨label.toList ++ [' '], by simp⟩
  rw [unlabelled?, String.toList_ofList, (labelled_lines unbroken text).1, List.mapM_map,
    ← joinWith_lines]
  have every : (lines text.toList).mapM (fun line => some line) = some (lines text.toList) :=
    (List.mapM_pure (f := id)).trans (congrArg some (List.map_id _))
  simp [Function.comp_def, bare, every]

/-- The data of signals is one line. -/
theorem signals_plain (values : KeyMap Json) : Plain (dataChars (.signals values)) :=
  .append (.of_all rfl) (Json.write_plain _)

theorem dataLines_unbroken (patch : Patch) :
    ∀ line ∈ splitAt '\n' patch.dataChars, Unbroken line := by
  cases patch with
  | elements html => exact (labelled_lines (unbroken_of_plain (.of_all rfl)) html).2
  | script text => exact (labelled_lines (unbroken_of_plain (.of_all rfl)) text).2
  | signals values =>
    have plain := unbroken_of_plain (signals_plain values)
    rw [splitAt_unseparated '\n' _ fun c member => (plain c member).2]
    exact fun line member => List.mem_singleton.mp member ▸ plain

theorem data_no_carriage (patch : Patch) : '\r' ∉ patch.dataChars := by
  intro member
  rw [← joinWith_splitAt '\n' patch.dataChars] at member
  obtain ⟨line, listed, inside⟩ | feed := mem_joinWith member
  · exact (patch.dataLines_unbroken line listed _ inside).1 rfl
  · nomatch feed

/-- The lines of a patch on an event stream. -/
def frameLines (patch : Patch) : List (List Char) :=
  ("event: ".toList ++ patch.eventName.toList) ::
    (splitAt '\n' patch.dataChars).map ("data: ".toList ++ ·) ++ [[]]

theorem lines_fields (pieces : List (List Char)) (unbroken : ∀ piece ∈ pieces, Unbroken piece)
    (rest : List Char) :
    lines (pieces.flatMap (field "data") ++ rest) =
      pieces.map ("data: ".toList ++ ·) ++ lines rest := by
  induction pieces with
  | nil => rfl
  | cons piece others ih =>
    obtain ⟨first, later⟩ := List.forall_mem_cons.mp unbroken
    have labelled : Unbroken ("data: ".toList ++ piece) :=
      List.forall_mem_append.mpr ⟨unbroken_of_plain (.of_all rfl), first⟩
    have ended := lines_ended labelled (others.flatMap (field "data") ++ rest)
    rw [ih later] at ended
    simpa [field] using ended

theorem eventName_plain (patch : Patch) : Plain patch.eventName.toList := by
  cases patch <;> simp only [eventName] <;> exact .of_all rfl

theorem lines_frame (patch : Patch) (rest : List Char) :
    lines (patch.frameChars ++ rest) = patch.frameLines ++ lines rest := by
  have named := unbroken_of_plain (.append (.of_all rfl : Plain "event: ".toList) patch.eventName_plain)
  have ended := lines_ended named
    ((splitAt '\n' patch.dataChars).flatMap (field "data") ++ '\n' :: rest)
  have empty : lines ('\n' :: rest) = [] :: lines rest := by simp [lines]
  rw [lines_fields _ patch.dataLines_unbroken, empty] at ended
  simpa [frameChars, frameLines, field] using ended

theorem lines_frames (patches : List Patch) :
    lines (patches.flatMap frameChars) = patches.flatMap frameLines ++ [[]] := by
  induction patches with
  | nil => rfl
  | cons patch rest ih => rw [List.flatMap_cons, lines_frame, ih, List.flatMap_cons, List.append_assoc]

end Patch

namespace EventStream
open Text

theorem readLines_data (gathered : Gathered) (pieces rest : List (List Char)) :
    readLines gathered (pieces.map ("data: ".toList ++ ·) ++ rest) =
      readLines { gathered with data := gathered.data ++ pieces.flatMap (· ++ ['\n']) } rest := by
  induction pieces generalizing gathered with
  | nil => simp
  | cons piece others ih =>
    have taken : gathered.take ("data: ".toList ++ piece) =
        { gathered with data := gathered.data ++ piece ++ ['\n'] } := rfl
    have first : readLines gathered ((piece :: others).map ("data: ".toList ++ ·) ++ rest) =
        readLines (gathered.take ("data: ".toList ++ piece))
          (others.map ("data: ".toList ++ ·) ++ rest) := rfl
    rw [first, taken, ih]
    simp

theorem readLines_frame (patch : Patch) (rest : List (List Char)) :
    readLines .nothing (patch.frameLines ++ rest) =
      ⟨patch.eventName, patch.data⟩ :: readLines .nothing rest := by
  have pieces := splitAt_ne_nil '\n' patch.dataChars
  have named : readLines .nothing (patch.frameLines ++ rest) =
      readLines ⟨patch.eventName.toList, []⟩
        ((splitAt '\n' patch.dataChars).map ("data: ".toList ++ ·) ++ [] :: rest) := by
    have split : patch.frameLines ++ rest = ("event: ".toList ++ patch.eventName.toList) ::
        ((splitAt '\n' patch.dataChars).map ("data: ".toList ++ ·) ++ [] :: rest) := by
      simp [Patch.frameLines]
    rw [split]
    rfl
  rw [named, readLines_data, flatMap_ended pieces, joinWith_splitAt]
  cases patch <;> simp [readLines, Gathered.event?, Patch.eventName, Patch.data]

theorem readLines_frames (patches : List Patch) :
    readLines .nothing (patches.flatMap Patch.frameLines) =
      patches.map fun patch => ⟨patch.eventName, patch.data⟩ := by
  induction patches with
  | nil => rfl
  | cons patch rest ih => rw [List.flatMap_cons, readLines_frame, ih, List.map_cons]

end EventStream

/-- A standard reader makes one event of each patch on a stream, in order, with the name and the data
of the patch. No data has a carriage return. Taken off the lines of data, the labels leave the
markup or the script with its line breaks as line feeds; signals are one line of compact text. -/
theorem event_stream_lossless :
    (∀ patches : List Patch, EventStream.read (String.join (patches.map Patch.frame)) =
      patches.map fun patch => ⟨patch.eventName, patch.data⟩) ∧
    ∀ patch : Patch, '\r' ∉ patch.data.toList ∧
      match patch with
      | .elements html => Text.unlabelled? "elements" patch.data =
          some (String.ofList (Text.withLineFeeds html.toList))
      | .script text => Text.unlabelled? "script" patch.data =
          some (String.ofList (Text.withLineFeeds text.toList))
      | .signals values => patch.data = "signals " ++ (Json.ofMembers values).text ∧
          '\n' ∉ patch.data.toList := by
  constructor
  · intro patches
    have chars : (String.join (patches.map Patch.frame)).toList =
        patches.flatMap Patch.frameChars := by
      simp [String.toList_join, List.flatMap_map, Patch.frame]
    have unmarked : (patches.flatMap Patch.frameChars).head? ≠ some '\uFEFF' := by
      cases patches with
      | nil => nofun
      | cons patch rest =>
        have begins : ((patch :: rest).flatMap Patch.frameChars).head? = some 'e' := rfl
        rw [begins]
        decide
    rw [EventStream.read, chars, if_neg unmarked, Patch.lines_frames, List.dropLast_concat,
      EventStream.readLines_frames]
  · intro patch
    constructor
    · rw [Patch.data, String.toList_ofList]
      exact patch.data_no_carriage
    · cases patch with
      | elements html => exact Patch.unlabelled?_labelled (Text.unbroken_of_plain (.of_all rfl)) html
      | script text => exact Patch.unlabelled?_labelled (Text.unbroken_of_plain (.of_all rfl)) text
      | signals values =>
        constructor
        · exact Text.ofList_labelled "signals " _
        · rw [Patch.data, String.toList_ofList]
          exact (Patch.signals_plain values).not_mem (by decide)

end LiveTabs
