import LiveTabs.Json.Parser
import LiveTabs.Proofs.JsonScan
import LiveTabs.Proofs.KeyMap
/-!
Every text that denotes a value is read as that value, unless it nests beyond the limit. The parser
is followed over the tokens of one part after another, whatever stands open around it.
-/
namespace LiveTabs.Json

/-- The tokens take the parser from one state to another, whatever comes after them. -/
def Parsed (start : Parsing) (tokens : List Token) (reached : Parsing) : Prop :=
  ∀ more, parseTokens start (tokens ++ more) = parseTokens reached more

namespace Parsed
variable {start middle reached : Parsing} {tokens more : List Token}

theorem append (first : Parsed start tokens middle) (later : Parsed middle more reached) :
    Parsed start (tokens ++ more) reached := by
  intro others
  rw [List.append_assoc, first, later]

theorem token {token : Token} (step : parseToken start token = some reached) :
    Parsed start [token] reached := by
  intro others
  rw [List.singleton_append, parseTokens, step, Option.bind_some]

theorem cons {token : Token} (step : parseToken start token = some middle)
    (later : Parsed middle tokens reached) : Parsed start (token :: tokens) reached :=
  (Parsed.token step).append later

end Parsed

/-- A value may begin. -/
def Begins (expected : Expected) : Prop := expected = .value ∨ expected = .valueOrClose

section
variable {expected : Expected} (begins : Begins expected) (opened : List Frame)
include begins

theorem parseToken_begins (token : Token) (starts : token ≠ .closeArray) :
    parseToken ⟨opened, expected⟩ token = startValue opened opened.length token := by
  rcases begins with rfl | rfl
  · rfl
  · cases token <;> first | rfl | exact absurd rfl starts

theorem parseToken_openArray (room : opened.length < nestingLimit) :
    parseToken ⟨opened, expected⟩ .openArray = some ⟨.array [] :: opened, .valueOrClose⟩ := by
  rw [parseToken_begins begins opened .openArray nofun, startValue, if_pos room]

theorem parseToken_openObject (room : opened.length < nestingLimit) :
    parseToken ⟨opened, expected⟩ .openObject = some ⟨opened, .keyOrClose⟩ := by
  rw [parseToken_begins begins opened .openObject nofun, startValue, if_pos room]

end

/-- A part of a text is scanned where nothing continues its last word, and the parser takes its
tokens. -/
def Read (cs : List Char) (takes : List Token → Prop) : Prop :=
  ∃ tokens, (∀ rest, Ended rest → Scanned cs tokens rest) ∧ takes tokens

/-- Within the levels left, a value is taken wherever one may begin. -/
def TakenAs (levels : Nat) (value : Json) (tokens : List Token) : Prop :=
  ∀ opened expected, Begins expected → opened.length + levels ≤ nestingLimit →
    Parsed ⟨opened, expected⟩ tokens ⟨opened, .afterValue value⟩

theorem takenAs_word {cs : List Char} {value : Json} (means : ofWord? cs = some value)
    (levels : Nat) : TakenAs levels value [.word cs] := by
  intro opened expected begins _
  apply Parsed.token
  rw [parseToken_begins begins opened (.word cs) nofun, startValue, means]
  rfl

theorem read_word {cs : List Char} {value : Json} (means : ofWord? cs = some value)
    (nonempty : cs ≠ []) (wordy : ∀ c ∈ cs, Wordy c) (levels : Nat) :
    Read cs (TakenAs levels value) :=
  ⟨_, fun _ ended => scanned_word nonempty wordy ended, takenAs_word means levels⟩

theorem ofWord?_number {cs : List Char} {value : Json} (reads : readNumber? cs = some value) :
    ofWord? cs = some value := by
  have apart (letters : List Char) (none : readNumber? letters = none) : cs ≠ letters := by
    rintro rfl
    rw [none] at reads
    nomatch reads
  rw [ofWord?, if_neg (apart _ rfl), if_neg (apart _ rfl), if_neg (apart _ rfl), reads]

theorem read_number {cs : List Char} {value : Json} (reads : readNumber? cs = some value)
    (levels : Nat) : Read cs (TakenAs levels value) := by
  obtain ⟨nonempty, inside⟩ := readNumber?_inNumber reads
  exact read_word (ofWord?_number reads) nonempty (fun c member => (inside c member).wordy) levels

theorem read_literal {cs : List Char} {value : Json} (means : ofWord? cs = some value)
    (nonempty : cs ≠ []) (letters : cs.all literalLetters.contains = true) (levels : Nat) :
    Read cs (TakenAs levels value) := by
  refine read_word means nonempty ?_ levels
  intro c member
  exact wordy_of_letter (List.contains_iff_mem.mp (List.all_eq_true.mp letters c member))

theorem read_string {cs s : List Char} (spelled : StringText cs s) (levels : Nat) :
    Read ('"' :: (cs ++ ['"'])) (TakenAs levels (.str (String.ofList s))) := by
  refine ⟨[.str (String.ofList s)], ?_, ?_⟩
  · intro rest _
    exact scanned_string spelled rest
  · intro opened expected begins _
    exact .token (parseToken_begins begins opened (.str (String.ofList s)) nofun)

/-- Within the levels left inside an array, items are taken up to its end, behind those before. -/
def ItemsTaken (levels : Nat) (items : List Json) (tokens : List Token) : Prop :=
  ∀ opened done expected, Begins expected → opened.length + 1 + levels ≤ nestingLimit →
    Parsed ⟨.array done :: opened, expected⟩ (tokens ++ [.closeArray])
      ⟨opened, .afterValue (.arr (done.reverse ++ items))⟩

/-- A key may come. -/
def Expects (members : KeyMap Json) (expected : Expected) : Prop :=
  expected = .key members ∨ expected = .keyOrClose ∧ members = KeyMap.empty

theorem parseToken_key {members : KeyMap Json} {expected : Expected}
    (expects : Expects members expected) (opened : List Frame) (key : String) :
    parseToken ⟨opened, expected⟩ (.str key) = some ⟨opened, .colon members key⟩ := by
  rcases expects with rfl | ⟨rfl, rfl⟩ <;> rfl

def MemberTaken (levels : Nat) (member : String × Json) (tokens : List Token) : Prop :=
  ∀ opened done expected, Expects done expected → opened.length + 1 + levels ≤ nestingLimit →
    Parsed ⟨opened, expected⟩ tokens
      ⟨.object done member.1 :: opened, .afterValue member.2⟩

/-- Within the levels left inside an object, members are taken up to its end, over those before. -/
def MembersTaken (levels : Nat) (members : List (String × Json)) (tokens : List Token) : Prop :=
  ∀ opened done expected, Expects done expected → opened.length + 1 + levels ≤ nestingLimit →
    Parsed ⟨opened, expected⟩ (tokens ++ [.closeObject])
      ⟨opened, .afterValue (ofMembers (done.insertAll members))⟩

theorem read_array {cs : List Char} {items : List Json} {levels : Nat}
    (inside : Read cs (ItemsTaken levels items)) :
    Read ('[' :: (cs ++ [']'])) (TakenAs (levels + 1) (.arr items)) := by
  obtain ⟨tokens, scanned, taken⟩ := inside
  refine ⟨[.openArray] ++ (tokens ++ [.closeArray]), ?_, ?_⟩
  · intro rest _
    exact scanned_enclosed scanned rfl rfl rest
  · intro opened expected begins room
    exact .cons (parseToken_openArray begins opened (by omega))
      (taken opened [] .valueOrClose (.inr rfl) (by omega))

theorem read_object {cs : List Char} {members : List (String × Json)} {levels : Nat}
    (inside : Read cs (MembersTaken levels members)) :
    Read ('{' :: (cs ++ ['}'])) (TakenAs (levels + 1) (ofMembers (KeyMap.ofList members))) := by
  obtain ⟨tokens, scanned, taken⟩ := inside
  refine ⟨[.openObject] ++ (tokens ++ [.closeObject]), ?_, ?_⟩
  · intro rest _
    exact scanned_enclosed scanned rfl rfl rest
  · intro opened expected begins room
    exact .cons (parseToken_openObject begins opened (by omega))
      (taken opened KeyMap.empty .keyOrClose (.inr ⟨rfl, rfl⟩) (by omega))

theorem read_noItems {blanks : List Char} (blank : Blanks blanks) (levels : Nat) :
    Read ('[' :: (blanks ++ [']'])) (TakenAs (levels + 1) (.arr [])) := by
  refine ⟨[.openArray] ++ ([] ++ [.closeArray]), ?_, ?_⟩
  · intro rest _
    exact scanned_enclosed (fun others _ => scanned_blanks blank others) rfl rfl rest
  · intro opened expected begins room
    exact .cons (parseToken_openArray begins opened (by omega)) (.token rfl)

theorem read_noMembers {blanks : List Char} (blank : Blanks blanks) (levels : Nat) :
    Read ('{' :: (blanks ++ ['}'])) (TakenAs (levels + 1) (.obj [])) := by
  refine ⟨[.openObject] ++ ([] ++ [.closeObject]), ?_, ?_⟩
  · intro rest _
    exact scanned_enclosed (fun others _ => scanned_blanks blank others) rfl rfl rest
  · intro opened expected begins room
    exact .cons (parseToken_openObject begins opened (by omega)) (.token rfl)

theorem Read.blanks_around {before cs after : List Char} {takes : List Token → Prop}
    (front : Blanks before) (inside : Read cs takes) (back : Blanks after) :
    Read (before ++ (cs ++ after)) takes := by
  obtain ⟨tokens, scanned, taken⟩ := inside
  refine ⟨tokens, ?_, taken⟩
  intro rest ended
  have around := (scanned_blanks front _).append
    ((scanned _ (ended_blanks back ended)).append (scanned_blanks back rest))
  simpa using around

theorem read_item {cs : List Char} {item : Json} {levels : Nat}
    (value : Read cs (TakenAs levels item)) : Read cs (ItemsTaken levels [item]) := by
  obtain ⟨tokens, scanned, taken⟩ := value
  refine ⟨tokens, scanned, ?_⟩
  intro opened done expected begins room
  have inside := taken (.array done :: opened) expected begins (by simpa using room)
  rw [← List.reverse_cons]
  exact inside.append (.token rfl)

theorem read_items {cs others : List Char} {item : Json} {rest : List Json} {levels : Nat}
    (value : Read cs (TakenAs levels item)) (later : Read others (ItemsTaken levels rest)) :
    Read (cs ++ ',' :: others) (ItemsTaken levels (item :: rest)) := by
  obtain ⟨tokens, scanned, taken⟩ := value
  obtain ⟨more, scannedLater, takenLater⟩ := later
  refine ⟨tokens ++ ([.comma] ++ more), ?_, ?_⟩
  · intro others ended
    exact scanned_listed scanned scannedLater ended
  · intro opened done expected begins room
    have first := taken (.array done :: opened) expected begins (by simpa using room)
    have behind := takenLater opened (item :: done) .value (.inl rfl) room
    have comma : Parsed ⟨.array done :: opened, .afterValue item⟩ [.comma]
        ⟨.array (item :: done) :: opened, .value⟩ := .token rfl
    have whole := first.append (comma.append behind)
    simpa using whole

theorem read_member {before key between behind cs after s : List Char} {item : Json} {levels : Nat}
    (front : Blanks before) (named : StringText key s) (apart : Blanks between)
    (back : Blanks behind) (value : Read cs (TakenAs levels item)) (last : Blanks after) :
    Read (before ++ '"' :: (key ++ '"' :: (between ++ ':' :: (behind ++ (cs ++ after)))))
      (MemberTaken levels (String.ofList s, item)) := by
  obtain ⟨tokens, scanned, taken⟩ := value.blanks_around back last
  refine ⟨[.str (String.ofList s)] ++ ([.colon] ++ tokens), ?_, ?_⟩
  · intro rest ended
    have valued := (scanned_mark (c := ':') rfl _).cons (scanned rest ended)
    have behind := (scanned_string named _).append ((scanned_blanks apart _).append valued)
    have whole := (scanned_blanks front _).append behind
    simpa using whole
  · intro opened done expected expects room
    have inside := taken (.object done (String.ofList s) :: opened) .value (.inl rfl)
      (by simpa using room)
    have colon : parseToken ⟨opened, .colon done (String.ofList s)⟩ .colon =
        some ⟨.object done (String.ofList s) :: opened, .value⟩ := rfl
    exact .cons (parseToken_key expects opened _) (.cons colon inside)

theorem read_lastMember {cs : List Char} {member : String × Json} {levels : Nat}
    (only : Read cs (MemberTaken levels member)) : Read cs (MembersTaken levels [member]) := by
  obtain ⟨tokens, scanned, taken⟩ := only
  refine ⟨tokens, scanned, ?_⟩
  intro opened done expected expects room
  exact (taken opened done expected expects room).append (.token rfl)

theorem read_members {cs others : List Char} {member : String × Json}
    {rest : List (String × Json)} {levels : Nat} (first : Read cs (MemberTaken levels member))
    (later : Read others (MembersTaken levels rest)) :
    Read (cs ++ ',' :: others) (MembersTaken levels (member :: rest)) := by
  obtain ⟨tokens, scanned, taken⟩ := first
  obtain ⟨more, scannedLater, takenLater⟩ := later
  refine ⟨tokens ++ ([.comma] ++ more), ?_, ?_⟩
  · intro others ended
    exact scanned_listed scanned scannedLater ended
  · intro opened done expected expects room
    have front := taken opened done expected expects room
    have behind := takenLater opened (done.insert member.1 member.2) _ (.inl rfl) room
    have comma : Parsed ⟨.object done member.1 :: opened, .afterValue member.2⟩ [.comma]
        ⟨opened, .key (done.insert member.1 member.2)⟩ := .token rfl
    have whole := front.append (comma.append behind)
    simpa using whole

mutual

theorem ValueText.read {levels : Nat} {cs : List Char} {value : Json} :
    ValueText levels cs value → Read cs (TakenAs levels value)
  | .null => read_literal rfl (List.cons_ne_nil _ _) rfl levels
  | .true => read_literal rfl (List.cons_ne_nil _ _) rfl levels
  | .false => read_literal rfl (List.cons_ne_nil _ _) rfl levels
  | .int least greatest => read_number (readNumber?_ofInt least greatest) levels
  | .number reads => read_number reads levels
  | .str spelled => read_string spelled levels
  | .noItems blank => read_noItems blank _
  | .arr inside => read_array inside.read
  | .noMembers blank => read_noMembers blank _
  | .obj inside => read_object inside.read

theorem ItemsText.read {levels : Nat} {cs : List Char} {items : List Json} :
    ItemsText levels cs items → Read cs (ItemsTaken levels items)
  | .last front value back => read_item (value.read.blanks_around front back)
  | .more front value back later =>
    read_items (value.read.blanks_around front back) later.read

theorem MemberText.read {levels : Nat} {cs : List Char} {member : String × Json} :
    MemberText levels cs member → Read cs (MemberTaken levels member)
  | .mk front named apart back value last => read_member front named apart back value.read last

theorem MembersText.read {levels : Nat} {cs : List Char} {members : List (String × Json)} :
    MembersText levels cs members → Read cs (MembersTaken levels members)
  | .last only => read_lastMember only.read
  | .more first later => read_members first.read later.read

end

/-- A value with blanks around it is read, as deep as the limit goes. -/
theorem parse?_of_text {before cs after : List Char} {value : Json} (front : Blanks before)
    (denotes : ValueText nestingLimit cs value) (back : Blanks after) :
    parse? (String.ofList (before ++ (cs ++ after))) = some value := by
  obtain ⟨tokens, scanned, taken⟩ := denotes.read.blanks_around front back
  have scans : scan (before ++ (cs ++ after)) = some tokens := by
    have whole := scanned [] trivial
    rw [Scanned, List.append_nil] at whole
    rw [scan, whole]
    simp [scanFrom]
  have parse := taken [] .value (.inl rfl) (Nat.le_of_eq (Nat.zero_add _)) []
  rw [List.append_nil] at parse
  rw [parse?, String.toList_ofList, scans, Option.bind_some, parse]
  rfl

end LiveTabs.Json
