import LiveTabs.Proofs.ClientPayload
import LiveTabs.Proofs.Routing
import LiveTabs.Proofs.ScopedStore
import LiveTabs.Proofs.Utf8
import LiveTabs.Proofs.SetCookie
/-!
Actions that are asked for over HTTP. A client escapes the action and its payload, byte by byte, and
both come out of the path and the query again as they were; so the request does what the action does
that is run directly, and its status tells whether the payload was one.
-/
namespace LiveTabs

namespace Text.Percent

/-- What stands for itself in any part of a target: letters, digits, hyphens and low lines. -/
def isPlain (byte : UInt8) : Bool :=
  (0x30 ≤ byte && byte ≤ 0x39) || (0x41 ≤ byte && byte ≤ 0x5A) ||
    (0x61 ≤ byte && byte ≤ 0x7A) || byte == 0x2D || byte == 0x5F

def hexDigit (n : Nat) : UInt8 := UInt8.ofNat (if n < 10 then 0x30 + n else 0x37 + n)

def escapeByte (byte : UInt8) : Bytes :=
  if isPlain byte then [byte]
  else [0x25, hexDigit (byte.toNat / 16), hexDigit (byte.toNat % 16)]

def escapeBytes (bytes : Bytes) : Bytes := bytes.flatMap escapeByte

/-- A text as it is sent in a target. -/
def escape (s : String) : List Char := (escapeBytes (Utf8.encode s)).map Char.ofUInt8

theorem hexDigit_value : ∀ n < 16, hexValue? (hexDigit n) = some (UInt8.ofNat n) ∧
    isPlain (hexDigit n) = true := by
  decide

theorem decode_cons_of_ne {byte : UInt8} (plain : byte ≠ 0x25) (rest : Bytes) :
    decode (byte :: rest) = byte :: decode rest := by
  match rest with
  | [] => rfl
  | [_] => rfl
  | _ :: _ :: _ => rw [decode, if_neg plain]

theorem decode_escapeByte (byte : UInt8) (rest : Bytes) :
    decode (escapeByte byte ++ rest) = byte :: decode rest := by
  unfold escapeByte
  split
  · next plain =>
    refine decode_cons_of_ne ?_ rest
    rintro rfl
    exact absurd plain (by decide)
  · have small := byte.toNat_lt
    have high := (hexDigit_value (byte.toNat / 16) (by omega)).1
    have low := (hexDigit_value (byte.toNat % 16) (by omega)).1
    have whole : 16 * UInt8.ofNat (byte.toNat / 16) + UInt8.ofNat (byte.toNat % 16) = byte := by
      apply UInt8.toNat_inj.mp
      simp
      omega
    simp [decode, high, low, whole]

/-- Escaped bytes are read back, whatever comes after them. -/
theorem decode_escapeBytes (bytes rest : Bytes) :
    decode (escapeBytes bytes ++ rest) = bytes ++ decode rest := by
  induction bytes with
  | nil => rfl
  | cons byte bytes ih =>
    rw [escapeBytes, List.flatMap_cons, List.append_assoc, decode_escapeByte, List.cons_append]
    exact congrArg (byte :: ·) ih

theorem escapeBytes_plain {bytes : Bytes} {byte : UInt8} (member : byte ∈ escapeBytes bytes) :
    isPlain byte = true ∨ byte = 0x25 := by
  obtain ⟨source, -, here⟩ := List.mem_flatMap.mp member
  have small := source.toNat_lt
  unfold escapeByte at here
  split at here
  · next plain => exact .inl (List.mem_singleton.mp here ▸ plain)
  · simp only [List.mem_cons, List.not_mem_nil, or_false] at here
    obtain rfl | rfl | rfl := here
    · exact .inr rfl
    · exact .inl (hexDigit_value _ (by omega)).2
    · exact .inl (hexDigit_value _ (by omega)).2

theorem isPlain_ascii {byte : UInt8} (plain : isPlain byte = true ∨ byte = 0x25) :
    byte.toNat < 0x80 := by
  obtain plain | rfl := plain
  · simp only [isPlain, Bool.or_eq_true, Bool.and_eq_true, decide_eq_true_eq, beq_iff_eq,
      UInt8.le_iff_toNat_le, ← UInt8.toNat_inj] at plain
    simp at plain
    omega
  · decide

theorem utf8EncodeChar_ascii {byte : UInt8} (ascii : byte.toNat < 0x80) :
    String.utf8EncodeChar (Char.ofUInt8 byte) = [byte] := by
  have code : (Char.ofUInt8 byte).val.toNat = byte.toNat := UInt8.toNat_toUInt32 byte
  have small : byte.toNat ≤ 0x7f := by omega
  simp [String.utf8EncodeChar, code, small]

theorem encodeChars_ascii {bytes : Bytes} (ascii : ∀ byte ∈ bytes, byte.toNat < 0x80) :
    Utf8.encodeChars (bytes.map Char.ofUInt8) = bytes := by
  induction bytes with
  | nil => rfl
  | cons byte rest ih =>
    have tail := ih fun other member => ascii other (List.mem_cons_of_mem byte member)
    rw [Utf8.encodeChars] at tail ⊢
    rw [List.map_cons, List.flatMap_cons, utf8EncodeChar_ascii (ascii byte List.mem_cons_self),
      tail, List.singleton_append]

/-- The characters that have a meaning of their own in a target. -/
def reserved : List Char := ['/', '?', '#', '&', '=', '+']

theorem escape_unreserved {s : String} {c : Char} (member : c ∈ escape s) : c ∉ reserved := by
  obtain ⟨byte, listed, rfl⟩ := List.mem_map.mp member
  have plain := escapeBytes_plain listed
  intro special
  have other : ∀ c ∈ reserved, (!isPlain c.toUInt8 && c.toUInt8 != 0x25) = true :=
    List.all_eq_true.mp rfl
  have apart := other _ special
  have code : (Char.ofUInt8 byte).toUInt8 = byte := UInt8.toUInt8_toUInt32 byte
  rw [code] at apart
  obtain plain | rfl := plain
  · simp [plain] at apart
  · simp at apart

/-- The bytes that an escaped text stands for. -/
theorem decode_escape (s : String) :
    decode (Utf8.encodeChars (escape s)) = Utf8.encode s := by
  have read := decode_escapeBytes (Utf8.encode s) []
  rw [escape, encodeChars_ascii fun byte member => isPlain_ascii (escapeBytes_plain member)]
  simpa [decode] using read

/-- Text that was escaped comes out of a path as it was. -/
theorem decodeExact?_escape (s : String) :
    Utf8.decodeExact? (decode (Utf8.encodeChars (escape s))) = some s := by
  rw [decode_escape, Utf8.decodeExact?, Utf8.decode_encode, if_pos rfl]

/-- Text that was escaped comes out of a query as it was. -/
theorem decodeForm_escape (s : String) : decodeForm (escape s) = s := by
  have unspaced : ∀ c ∈ escape s, (if c = '+' then ' ' else c) = c := by
    intro c member
    refine if_neg ?_
    rintro rfl
    exact escape_unreserved member (by decide)
  rw [decodeForm, List.map_congr_left unspaced, List.map_id', decode_escape, Utf8.decode_encode]

theorem escape_ne_nil {s : String} (present : s ≠ "") : escape s ≠ [] := by
  intro none
  have read := decodeExact?_escape s
  rw [none] at read
  exact present (Option.some.inj read).symm

end Text.Percent

namespace Http

theorem withoutAuthority_path (rest : List Char) :
    withoutAuthority ('/' :: rest) = '/' :: rest := by
  simp [withoutAuthority, isSchemeChar]

/-- A target in which nothing but the first question mark has a meaning falls into the two parts
around it. -/
theorem pathAndQuery_parted {path query : List Char} (rooted : path.head? = some '/')
    (plain : ∀ c ∈ path, c ≠ '?' ∧ c ≠ '#') (whole : '#' ∉ query) :
    pathAndQuery (String.ofList (path ++ '?' :: query)) = (path, query) := by
  obtain ⟨rest, rfl⟩ := List.head?_eq_some_iff.mp rooted
  have unasked : ∀ c ∈ '/' :: rest, (c != '?') = true := fun c member =>
    bne_iff_ne.mpr (plain c member).1
  have unfinished : ∀ c ∈ '/' :: rest ++ '?' :: query, (c != '#') = true := by
    intro c member
    rw [bne_iff_ne]
    rcases List.mem_append.mp member with front | back
    · exact (plain c front).2
    · rcases List.mem_cons.mp back with rfl | inside
      · decide
      · rintro rfl
        exact whole inside
  have bare : withoutAuthority ('/' :: rest ++ '?' :: query) = '/' :: rest ++ '?' :: query :=
    withoutAuthority_path _
  rw [pathAndQuery, String.toList_ofList, List.takeWhile_eq_self_iff.mpr unfinished, bare,
    List.takeWhile_append_of_pos unasked, List.dropWhile_append_of_pos unasked]
  simp

/-- A path that asks for an action. -/
def actionPath (action : String) : List Char := "/_action/".toList ++ Text.Percent.escape action

/-- A query that holds a payload. -/
def payloadQuery (payload : String) : List Char :=
  "payload=".toList ++ Text.Percent.escape payload

theorem actionPath_plain (action : String) :
    ∀ c ∈ actionPath action, c ≠ '?' ∧ c ≠ '#' := by
  have fixed : ∀ c ∈ "/_action/".toList, (c != '?' && c != '#') = true := List.all_eq_true.mp rfl
  intro c member
  rcases List.mem_append.mp member with front | escaped
  · simpa using fixed c front
  · constructor <;>
    · rintro rfl
      exact Text.Percent.escape_unreserved escaped (by decide)

theorem payloadQuery_plain (payload : String) :
    ∀ c ∈ payloadQuery payload, c ≠ '#' ∧ c ≠ '&' := by
  have fixed : ∀ c ∈ "payload=".toList, (c != '#' && c != '&') = true := List.all_eq_true.mp rfl
  intro c member
  rcases List.mem_append.mp member with front | escaped
  · simpa using fixed c front
  · constructor <;>
    · rintro rfl
      exact Text.Percent.escape_unreserved escaped (by decide)

/-- A target that asks for an action with a payload. -/
def actionTarget (action payload : String) : String :=
  String.ofList (actionPath action ++ '?' :: payloadQuery payload)

theorem pathAndQuery_action (action payload : String) :
    pathAndQuery (actionTarget action payload) = (actionPath action, payloadQuery payload) :=
  pathAndQuery_parted rfl (actionPath_plain action) fun finished =>
    (payloadQuery_plain payload '#' finished).1 rfl

theorem parameter_payload (payload : String) :
    parameter (payloadQuery payload) "payload" = .ok (some payload) := by
  have single : Text.splitAt '&' (payloadQuery payload) = [payloadQuery payload] :=
    Text.splitAt_unseparated '&' _ fun c member => (payloadQuery_plain payload c member).2
  have name : Text.Percent.decodeForm "payload".toList = "payload" := by decide +kernel
  have pair : Text.Percent.pair (payloadQuery payload) = ("payload", payload) := by
    have parts : (payloadQuery payload).takeWhile (· != '=') = "payload".toList ∧
        ((payloadQuery payload).dropWhile (· != '=')).drop 1 = Text.Percent.escape payload :=
      ⟨rfl, rfl⟩
    rw [Text.Percent.pair, parts.1, parts.2, name, Text.Percent.decodeForm_escape]
  have pairs : Text.Percent.pairs (payloadQuery payload) = [("payload", payload)] := by
    rw [Text.Percent.pairs, single, List.filter_cons_of_pos rfl, List.filter_nil, List.map_cons,
      List.map_nil, pair]
  rw [parameter, pairs]
  rfl

theorem parameter_absent {query : List Char} {name : String}
    (absent : ∀ pair ∈ Text.Percent.pairs query, pair.1 ≠ name) :
    parameter query name = .ok none := by
  have none : (Text.Percent.pairs query).filter (fun pair => pair.1 == name) = [] :=
    List.filter_eq_nil_iff.mpr fun pair member same => absent pair member (beq_iff_eq.mp same)
  rw [parameter, none]

/-- The status of an action that was asked for: any outcome is a success. -/
def outcomeStatus : Except RequestError ActionOutcome → Nat
  | .ok _ => 200
  | .error _ => 400

theorem wanted_plain (request : Request) (status : Nat) :
    request.wanted (plain status) = plain status := by
  unfold Request.wanted
  split <;> rfl

theorem serveAction_runs (app : App) (now : Instant) (action payload : String) :
    serveAction app now (Text.Percent.escape action) (payloadQuery payload) =
      let ran := app.runRequest now action payload
      (ran.1, ran.2.1, plain (outcomeStatus ran.2.2)) := by
  rw [serveAction, Text.Percent.decodeExact?_escape, parameter_payload]
  dsimp only
  split
  · next after notes outcome ran => rw [ran]; rfl
  · next after notes error ran => rw [ran]; rfl

theorem serveAction_absent (app : App) (now : Instant) (segment : List Char) {query : List Char}
    (absent : ∀ pair ∈ Text.Percent.pairs query, pair.1 ≠ "payload") :
    serveAction app now segment query = (app, [], plain 400) := by
  rw [serveAction, parameter_absent absent]
  cases Text.Utf8.decodeExact? (Text.Percent.decode (Text.Utf8.encodeChars segment)) <;> rfl

/-- A path below that of the actions leads to the action that its last segment names. -/
theorem handle_segment {app : App} (routed : app.Routed) {request : Request}
    (reads : request.Reads) {segment : List Char} (named : segment ≠ []) (whole : '/' ∉ segment)
    (path : (pathAndQuery request.target).1 = "/_action/".toList ++ segment) (now : Instant) :
    handle app now request =
      let served := serveAction app now segment (pathAndQuery request.target).2
      (served.1, served.2.1, request.wanted served.2.2) := by
  have leads : endpoint? app (pathAndQuery request.target).1 = some .action := by
    rw [path]
    exact endpoint?_action routed named whole
  have segmented : actionSegment (pathAndQuery request.target).1 = segment := by
    rw [path]
    rfl
  rw [handle_action reads leads, segmented]

end Http

/-- Only what is no client request is refused; anything else has an outcome. -/
theorem App.runRequest_error_iff (app : App) (now : Instant) (action payload : String)
    (error : RequestError) :
    (app.runRequest now action payload).2.2 = .error error ↔
      ClientRequest.parse payload = .error error := by
  unfold runRequest
  cases ClientRequest.parse payload <;> simp

/-- An action that is asked for over HTTP is the action that is run directly: it leaves the same
application and the same log, and is answered with success for any outcome. A payload that is no
client request is refused. So is a request that has none, and it changes nothing. -/
theorem action_requests_run_actions {config : Config} {pages : List Page} {app : App}
    (built : App.build config pages = .ok app) (past : List (Instant × Step)) (now : Instant)
    {request : Http.Request} (reads : request.Reads) :
    let current := ((Scenario.ofApp app).reached past).app
    (∀ action payload, action ≠ "" → request.target = Http.actionTarget action payload →
      let ran := current.runRequest now action payload
      Http.handle current now request =
          (ran.1, ran.2.1, Http.plain (Http.outcomeStatus ran.2.2)) ∧
        ∀ error, ran.2.2 = .error error ↔ ClientRequest.parse payload = .error error) ∧
    (∀ segment, segment ≠ [] → '/' ∉ segment →
      (Http.pathAndQuery request.target).1 = "/_action/".toList ++ segment →
      (∀ pair ∈ Text.Percent.pairs (Http.pathAndQuery request.target).2, pair.1 ≠ "payload") →
      Http.handle current now request = (current, [], Http.plain 400)) := by
  intro current
  have routed : current.Routed := (App.routed_of_built built).reached past
  constructor
  · intro action payload named target ran
    have parted := Http.pathAndQuery_action action payload
    rw [← target] at parted
    have handled := Http.handle_segment routed reads (Text.Percent.escape_ne_nil named)
      (fun slash => Text.Percent.escape_unreserved slash (by decide))
      (congrArg Prod.fst parted) now
    refine ⟨?_, current.runRequest_error_iff now action payload⟩
    rw [handled, parted]
    simp only [Http.serveAction_runs, Http.wanted_plain, ran]
  · intro segment named whole path absent
    rw [Http.handle_segment routed reads named whole path now,
      Http.serveAction_absent current now segment absent]
    simp only [Http.wanted_plain]

-- Somebody joins, and then asks for the same without saying in which tab.
def namedTab : String := "\x7b\"_tab\":\"@conn0@\"\x7d"

def joining : Http.Request :=
  ⟨"GET", "/_action/join?payload=%7B%22_tab%22%3A%22%40conn0%40%22%7D", [], []⟩

def joiningUnsaid : Http.Request := ⟨"HEAD", "/_action/join?tab=@conn0@", [], []⟩

theorem action_requests_run_actions_joining :
    App.build Config.defaults [clubPage] = .ok clubApp ∧
    let current := ((Scenario.ofApp clubApp).reached [(1, .render "/" none)]).app
    let ran := current.runRequest 3 "join" namedTab
    ran.2.2 = .ok .handled ∧
    Http.handle current 3 joining = (ran.1, ran.2.1, Http.plain 200) ∧
    Http.handle current 3 joiningUnsaid = (current, [], Http.plain 400) := by
  have built : App.build Config.defaults [clubPage] = .ok clubApp := rfl
  have written : (Json.obj [("_tab", .str "@conn0@")]).text = namedTab := by decide +kernel
  have read : Json.parse? namedTab = some (.obj [("_tab", .str "@conn0@")]) := by
    rw [← written]
    exact Json.parse?_text (.obj (List.pairwise_singleton _ _) (by simpa using .str "@conn0@"))
  have parsed : ClientRequest.parse namedTab = .ok ⟨"@conn0@", KeyMap.empty⟩ := by
    rw [ClientRequest.parse, read]
    rfl
  have target : joining.target = Http.actionTarget "join" namedTab := by decide +kernel
  refine ⟨built, ?_⟩
  intro current ran
  have handled : ran.2.2 = .ok .handled := by
    simp only [ran, App.runRequest, parsed]
    rfl
  have gets : joining.Reads := .inl rfl
  have asksHead : joiningUnsaid.Reads := .inr rfl
  obtain ⟨runs, -⟩ := action_requests_run_actions built [(1, .render "/" none)] 3 gets
  obtain ⟨-, refuses⟩ := action_requests_run_actions built [(1, .render "/" none)] 3 asksHead
  refine ⟨handled, ?_, ?_⟩
  · have ran := (runs "join" namedTab (by decide) target).1
    rwa [handled] at ran
  · exact refuses "join".toList (by decide) (by decide) rfl (by decide +kernel)

end LiveTabs
