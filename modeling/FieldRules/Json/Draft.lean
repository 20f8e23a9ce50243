import FieldRules.Dict
import FieldRules.Json.Token

/-!
# Drafts of JSON documents (called at `crates/validator/src/config.rs:47-52`)

A *draft* is a JSON text as far as it can be read: the fault that ends the reading sits where it was met. What
is made of a draft is decided in reading order, so that a value of the wrong shape is reported before a fault
further on. Containers nest at most 127 levels deep.
-/

namespace FieldRules.Json

/-- A value as far as it can be read. -/
inductive Draft
  /-- No value can be read. -/
  | broken (fault : JsonFault)
  | scalar (value : Json)
  /-- The items, and the fault that stands in place of the closing bracket. -/
  | array (items : List Draft) (stop : Option JsonFault)
  /-- The members, and the fault that stands in place of the closing brace. -/
  | object (members : List (String × Draft)) (stop : Option JsonFault)

/-- A container that has been opened: what has been read of it, the last first. -/
inductive Frame
  | array (items : List Draft)
  /-- The key is that of the member being read. -/
  | object (members : List (String × Draft)) (key : String)

/-- What is to come next in a text. -/
inductive Phase
  | value
  /-- The first item of an array, or its end. -/
  | firstItem
  /-- The first key of an object, or its end. -/
  | firstKey (members : List (String × Draft))
  | nextKey (members : List (String × Draft))
  | colon
  | after (value : Draft)

/-- A document: its value, and whether more follows it than may. -/
structure Document where
  root : Draft
  trailing : Bool

/-- Ends a document in the middle of a value. -/
def abandon (value : Draft) : List Frame → Document
  | [] => ⟨value, false⟩
  | .array items :: frames => abandon (.array (value :: items).reverse none) frames
  | .object members key :: frames => abandon (.object ((key, value) :: members).reverse none) frames

def depthLimit : Nat :=
  127

/-- Builds a draft from tokens, given the open containers, innermost first, and what is to come next. -/
def build : List Frame → Phase → List Token → Document
  | frames, .value, [] => abandon (.broken .truncated) frames
  | frames, .firstItem, [] => abandon (.array [] (some .truncated)) frames
  | frames, .firstKey members, [] => abandon (.object members.reverse (some .truncated)) frames
  | frames, .nextKey members, [] => abandon (.object members.reverse (some .truncated)) frames
  | frames, .colon, [] => abandon (.broken .truncated) frames
  | [], .after value, [] => ⟨value, false⟩
  | .array items :: frames, .after value, [] =>
    abandon (.array (value :: items).reverse (some .truncated)) frames
  | .object members key :: frames, .after value, [] =>
    abandon (.object ((key, value) :: members).reverse (some .truncated)) frames
  | frames, .value, token :: tokens => startValue frames token tokens
  | frames, .firstItem, token :: tokens =>
    match token with
    | .closeArray => build frames (.after (.array [] none)) tokens
    | token => startValue (.array [] :: frames) token tokens
  | frames, .firstKey members, token :: tokens =>
    match token with
    | .closeObject => build frames (.after (.object members.reverse none)) tokens
    | .scalar (.str key) => build (.object members key :: frames) .colon tokens
    | .brokenText fault => abandon (.object members.reverse (some fault)) frames
    | _ => abandon (.object members.reverse (some .malformed)) frames
  | frames, .nextKey members, token :: tokens =>
    match token with
    | .scalar (.str key) => build (.object members key :: frames) .colon tokens
    | .brokenText fault => abandon (.object members.reverse (some fault)) frames
    | _ => abandon (.object members.reverse (some .malformed)) frames
  | frames, .colon, token :: tokens =>
    match token with
    | .colon => build frames .value tokens
    | _ => abandon (.broken .malformed) frames
  | [], .after value, _ :: _ => ⟨value, true⟩
  | .array items :: frames, .after value, token :: tokens =>
    match token with
    | .comma => build (.array (value :: items) :: frames) .value tokens
    | .closeArray => build frames (.after (.array (value :: items).reverse none)) tokens
    | _ => abandon (.array (value :: items).reverse (some .malformed)) frames
  | .object members key :: frames, .after value, token :: tokens =>
    match token with
    | .comma => build frames (.nextKey ((key, value) :: members)) tokens
    | .closeObject => build frames (.after (.object ((key, value) :: members).reverse none)) tokens
    | _ => abandon (.object ((key, value) :: members).reverse (some .malformed)) frames
where
  startValue (frames : List Frame) (token : Token) (tokens : List Token) : Document :=
    match token with
    | .scalar value => build frames (.after (.scalar value)) tokens
    | .openArray =>
      if frames.length < depthLimit then build frames .firstItem tokens
      else abandon (.broken .malformed) frames
    | .openObject =>
      if frames.length < depthLimit then build frames (.firstKey []) tokens
      else abandon (.broken .malformed) frames
    | .broken fault => abandon (.broken fault) frames
    | .brokenText fault => abandon (.broken fault) frames
    | _ => abandon (.broken .malformed) frames

def draft (text : String) : Document :=
  build [] .value (tokens text)

/-! ## Values -/

mutual

/-- The value of a draft, or the first fault in it. -/
def Draft.toJson : Draft → Except JsonFault Json
  | .broken fault => .error fault
  | .scalar value => .ok value
  | .array items stop =>
    match Draft.toItems items with
    | .error fault => .error fault
    | .ok values =>
      match stop with
      | some fault => .error fault
      | none => .ok (.arr values)
  | .object members stop =>
    match Draft.toMembers members with
    | .error fault => .error fault
    | .ok values =>
      match stop with
      | some fault => .error fault
      | none => .ok (.obj values)

def Draft.toItems : List Draft → Except JsonFault (List Json)
  | [] => .ok []
  | item :: items =>
    match item.toJson with
    | .error fault => .error fault
    | .ok value => (Draft.toItems items).map (value :: ·)

/-- The members of an object; of two with one key the later one stays. -/
def Draft.toMembers : List (String × Draft) → Except JsonFault (List (String × Json))
  | [] => .ok []
  | (key, member) :: members =>
    match member.toJson with
    | .error fault => .error fault
    | .ok value =>
      (Draft.toMembers members).map fun rest =>
        if (rest.lookup key).isSome then rest else (key, value) :: rest

end

/-- Applies a reading of the value of a document; nothing may follow the value. -/
def Document.read {α : Type} (document : Document) (read : Draft → Except JsonFault α) :
    Except JsonFault α :=
  match read document.root with
  | .error fault => .error fault
  | .ok value => if document.trailing then .error .malformed else .ok value

def parse (text : String) : Except JsonFault Json :=
  (draft text).read Draft.toJson

/-! ## Shapes -/

namespace Draft

def text : Draft → Except JsonFault String
  | .scalar (.str s) => .ok s
  | .broken fault => .error fault
  | _ => .error .shape

/-- The first fault of a container after its members. -/
def stopped {α : Type} (stop : Option JsonFault) (value : α) : Except JsonFault α :=
  match stop with
  | some fault => .error fault
  | none => .ok value

def list {α : Type} (item : Draft → Except JsonFault α) : Draft → Except JsonFault (List α)
  | .array items stop => do
    let values ← items.mapM item
    stopped stop values
  | .broken fault => .error fault
  | _ => .error .shape

/-- A draft that has to hold things of a shape under names; the later of two under one name stays. -/
def dict {α : Type} (item : Draft → Except JsonFault α) : Draft → Except JsonFault (Dict α)
  | .object members stop => do
    let entries ← members.mapM fun (key, member) => do
      let value ← item member
      .ok (key, value)
    stopped stop (Dict.ofList entries)
  | .broken fault => .error fault
  | _ => .error .shape

/-- A draft of a shape, or null. -/
def optional {α : Type} (item : Draft → Except JsonFault α) : Draft → Except JsonFault (Option α)
  | .scalar .null => .ok none
  | draft => (item draft).map some

end Draft

end FieldRules.Json
