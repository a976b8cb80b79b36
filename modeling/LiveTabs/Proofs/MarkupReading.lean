import Mathlib.Data.List.Infix
import LiveTabs.Markup
/-!
Reading markup back. A reader that takes each attribute's value up to the first double quote, and
undoes the entities in it, gets the ids and the address of the script out again, whatever they are.
So the text of none of them ends its attribute early, and different ones make different markup.
-/
namespace LiveTabs

namespace Text.Attribute

/-- What follows the ampersand of an entity. -/
def entities : List (List Char) :=
  ["amp;".toList, "quot;".toList, "lt;".toList, "gt;".toList]

/-- Text that stays in its attribute: no quote and no bracket stands in it, and an ampersand only
where an entity begins. -/
structure Contained (written : List Char) : Prop where
  unquoted : '"' ∉ written
  unbracketed : '<' ∉ written ∧ '>' ∉ written
  entity : ∀ before after, written = before ++ '&' :: after → ∃ name ∈ entities, name <+: after

namespace Contained

theorem nil : Contained [] :=
  ⟨List.not_mem_nil, ⟨List.not_mem_nil, List.not_mem_nil⟩, fun before after split => by
    simp at split⟩

theorem append {first rest : List Char} (one : Contained first) (other : Contained rest) :
    Contained (first ++ rest) := by
  refine ⟨?_, ⟨?_, ?_⟩, fun before after split => ?_⟩
  · exact List.not_mem_append one.unquoted other.unquoted
  · exact List.not_mem_append one.unbracketed.1 other.unbracketed.1
  · exact List.not_mem_append one.unbracketed.2 other.unbracketed.2
  · obtain ⟨middle, -, later⟩ | ⟨middle, inside, later⟩ := List.append_eq_append_iff.mp split
    · exact other.entity middle after later
    · cases middle with
      | nil => exact other.entity [] after later.symm
      | cons c middle =>
        obtain ⟨rfl, rfl⟩ := List.cons.inj later
        obtain ⟨name, listed, begins⟩ := one.entity before middle inside
        exact ⟨name, listed, begins.trans (List.prefix_append middle rest)⟩

/-- An ampersand with an entity's name behind it. -/
theorem of_entity {name : List Char} (listed : name ∈ entities) : Contained ('&' :: name) := by
  have clean : ∀ name ∈ entities, '"' ∉ name ∧ '<' ∉ name ∧ '>' ∉ name ∧ '&' ∉ name := by decide
  obtain ⟨quote, opening, closing, ampersand⟩ := clean name listed
  refine ⟨by simp [quote], ⟨by simp [opening], by simp [closing]⟩, fun before after split => ?_⟩
  cases before with
  | nil => exact ⟨name, listed, (List.cons.inj split).2 ▸ List.prefix_rfl⟩
  | cons c before =>
    refine absurd ?_ ampersand
    rw [(List.cons.inj split).2]
    exact List.mem_append_right before List.mem_cons_self

theorem of_plain {c : Char} (plain : isSpecial c = false) : Contained [c] := by
  simp only [isSpecial, Bool.or_eq_false_iff, beq_eq_false_iff_ne] at plain
  obtain ⟨⟨⟨ampersand, quote⟩, opening⟩, closing⟩ := plain
  refine ⟨by simpa using quote.symm, ⟨by simpa using opening.symm, by simpa using closing.symm⟩,
    fun before after split => absurd ?_ ampersand⟩
  have member : '&' ∈ [c] := split ▸ List.mem_append_right before List.mem_cons_self
  exact (List.mem_singleton.mp member).symm

end Contained

theorem contained_escapeChar (c : Char) : Contained (escapeChar c) := by
  cases special : isSpecial c with
  | false =>
    rw [escapeChar_plain special]
    exact .of_plain special
  | true =>
    simp only [isSpecial, Bool.or_eq_true, beq_iff_eq] at special
    obtain ((rfl | rfl) | rfl) | rfl := special <;> exact .of_entity (by decide)

theorem contained_escapeChars (cs : List Char) : Contained (escapeChars cs) := by
  induction cs with
  | nil => exact .nil
  | cons c rest ih => exact (contained_escapeChar c).append ih

theorem contained_escape (s : String) : Contained (escape s).toList := by
  rw [escape_eq, String.toList_ofList]
  exact contained_escapeChars s.toList

/-- The value up to the first double quote, and what stands behind the quote. -/
def read? (cs : List Char) : Option (String × List Char) :=
  match cs.dropWhile (· != '"') with
  | [] => none
  | _ :: rest => some (String.ofList (unescapeChars (cs.takeWhile (· != '"'))), rest)

theorem read?_escape (s : String) {behind rest : List Char} (quote : behind = '"' :: rest) :
    read? ((escape s).toList ++ behind) = some (s, rest) := by
  have unquoted : ∀ c ∈ (escape s).toList, (c != '"') = true := by
    intro c member
    rw [bne_iff_ne]
    rintro rfl
    exact (contained_escape s).unquoted member
  have value : unescapeChars (escape s).toList = s.toList := by
    rw [escape_eq, String.toList_ofList, unescape_escape]
  subst quote
  simp [read?, List.takeWhile_append_of_pos unquoted, List.dropWhile_append_of_pos unquoted, value]

end Text.Attribute

namespace Markup
open Text

/-- The id of a root element and what stands in the element. -/
def readRoot? (markup : String) : Option (String × String) := do
  let tag ← markup.toList.dropPrefix? "<div id=\"".toList
  let (id, rest) ← Attribute.read? tag
  let inside ← rest.dropPrefix? ">".toList
  let body ← inside.dropSuffix? "</div>".toList
  return (id, String.ofList body)

/-- What a document tells: the connection, twice, the address of its script if it has one, and the
root. -/
structure Told where
  inHead : String
  onBody : String
  script : Option String
  root : String

/-- The address in a script tag, if one stands here, and what follows. -/
def readScript? (cs : List Char) : Option (Option String × List Char) :=
  match cs.dropPrefix? "<script type=\"module\" src=\"".toList with
  | none => some (none, cs)
  | some tag => do
    let (source, rest) ← Attribute.read? tag
    let after ← rest.dropPrefix? "></script>".toList
    return (some source, after)

/-- All that stands before the first id. -/
def front : List Char :=
  "<!DOCTYPE html><html><head><meta charset=\"utf-8\"><meta name=\"tabsync-connection\" content=\"".toList

def readDocument? (markup : String) : Option Told := do
  let headTag ← markup.toList.dropPrefix? front
  let (inHead, head) ← Attribute.read? headTag
  let (script, rest) ← readScript? (← head.dropPrefix? ">".toList)
  let bodyTag ← rest.dropPrefix? "</head><body data-tabsync-connection=\"".toList
  let (onBody, body) ← Attribute.read? bodyTag
  let inside ← body.dropPrefix? ">".toList
  let root ← inside.dropSuffix? "</body></html>".toList
  return ⟨inHead, onBody, script, String.ofList root⟩

theorem dropPrefix?_append (front rest : List Char) :
    List.dropPrefix? (front ++ rest) front = some rest :=
  List.dropPrefix?_eq_some_iff.mpr ⟨front, rfl, beq_self_eq_true front⟩

theorem dropSuffix?_append (rest back : List Char) :
    List.dropSuffix? (rest ++ back) back = some rest :=
  List.dropSuffix?_eq_some_iff.mpr ⟨back, rfl, beq_self_eq_true back⟩

theorem readRoot?_rootElement (id : String) (body : Bytes) :
    readRoot? (rootElement id body) = some (id, Utf8.decode body) := by
  have tag (rest : List Char) :
      Attribute.read? ((Attribute.escape id).toList ++ ("\">".toList ++ rest)) =
        some (id, ">".toList ++ rest) := Attribute.read?_escape id rfl
  simp only [readRoot?, rootElement, String.toList_append, List.append_assoc, dropPrefix?_append,
    dropSuffix?_append, tag, Option.bind_eq_bind, Option.bind_some, String.ofList_toList]
  rfl

/-- A script tag is told from the end of the head by its second character. -/
theorem readScript?_written (script : Option String) (rest : List Char) :
    readScript? (((script.map scriptTag).getD "").toList ++
        ("</head><body data-tabsync-connection=\"".toList ++ rest)) =
      some (script, "</head><body data-tabsync-connection=\"".toList ++ rest) := by
  cases script with
  | none =>
    have other : List.dropPrefix? ("</head><body data-tabsync-connection=\"".toList ++ rest)
        "<script type=\"module\" src=\"".toList = none := rfl
    simp only [readScript?, Option.map_none, Option.getD_none, String.toList_empty,
      List.nil_append, other]
  | some source =>
    have tag (rest : List Char) :
        Attribute.read? ((Attribute.escape source).toList ++ ("\"></script>".toList ++ rest)) =
          some (source, "></script>".toList ++ rest) := Attribute.read?_escape source rfl
    rw [Option.map_some, Option.getD_some]
    unfold scriptTag
    simp only [readScript?, String.toList_append, List.append_assoc, dropPrefix?_append, tag,
      Option.bind_eq_bind, Option.bind_some]
    rfl

theorem readDocument?_document (connection : String) (script : Option String) (root : String) :
    readDocument? (document connection script root) =
      some ⟨connection, connection, script, root⟩ := by
  have tag (rest : List Char) :
      Attribute.read? ((Attribute.escape connection).toList ++ ("\">".toList ++ rest)) =
        some (connection, ">".toList ++ rest) := Attribute.read?_escape connection rfl
  -- Long texts are unfolded as they stand: equations would compute their characters.
  unfold readDocument? front document
  simp only [String.toList_append, List.append_assoc, dropPrefix?_append, dropSuffix?_append, tag,
    readScript?_written, Option.bind_eq_bind, Option.bind_some, String.ofList_toList]
  rfl

end Markup

/-- The id and the text come back out of a root element; the connection, twice the same, the script
and the root come back out of a document. So markup differs as soon as any of them does, bytes that
are decoded alike apart. A written id or address has nothing in it that could end its attribute or
begin an element, and text that is taken as it stands would be written just so. -/
theorem markup_read_back :
    (∀ id body, Markup.readRoot? (Markup.rootElement id body) =
      some (id, Text.Utf8.decode body)) ∧
    (∀ connection script root, Markup.readDocument? (Markup.document connection script root) =
      some ⟨connection, connection, script, root⟩) ∧
    (∀ id id' body body', Markup.rootElement id body = Markup.rootElement id' body' ↔
      id = id' ∧ Text.Utf8.decode body = Text.Utf8.decode body') ∧
    (∀ connection connection' script script' root root',
      Markup.document connection script root = Markup.document connection' script' root' ↔
        connection = connection' ∧ script = script' ∧ root = root') ∧
    (∀ s, Text.Attribute.Contained (Text.Attribute.escape s).toList) ∧
    ∀ s, Text.Attribute.escape s = String.ofList (Text.Attribute.escapeChars s.toList) := by
  refine ⟨Markup.readRoot?_rootElement, Markup.readDocument?_document, ?_, ?_,
    Text.Attribute.contained_escape, Text.Attribute.escape_eq⟩
  · intro id id' body body'
    constructor
    · intro same
      have read := congrArg Markup.readRoot? same
      rw [Markup.readRoot?_rootElement, Markup.readRoot?_rootElement] at read
      exact Prod.mk.inj (Option.some.inj read)
    · rintro ⟨rfl, decoded⟩
      rw [Markup.rootElement, Markup.rootElement, decoded]
  · intro connection connection' script script' root root'
    constructor
    · intro same
      have read := congrArg Markup.readDocument? same
      rw [Markup.readDocument?_document, Markup.readDocument?_document] at read
      simpa using read
    · rintro ⟨rfl, rfl, rfl⟩
      rfl

end LiveTabs
