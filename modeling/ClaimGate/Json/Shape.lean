import ClaimGate.Json.Basic
import ClaimGate.Text.Integer

/-! Shapes: how values of a type are written in JSON. One shape gives both the
decoder and the encoder, so the two cannot drift apart. A decoder meets the members
of an object in their order and the items of a list in theirs; the first fault wins,
and a field that no member supplied is noticed after all members. What is left over where
a value ends is a fault in the exact manner of reading and is passed over in the lenient
one. -/

namespace ClaimGate.Json

/-- Why a JSON value does not have a shape. -/
inductive Fault where
  | missing (field : String)
  | unknown (field : String)
  | repeated (field : String)
  /-- A name that the enumeration does not have. -/
  | variant (name : String)
  /-- A value of another kind. -/
  | kind
  /-- A value of the right kind outside the range. -/
  | range
  /-- A list in place of a record that ends before a field that must be there. -/
  | short
  /-- A list in place of a record that goes on after the last field. -/
  | surplus
  /-- A value that none of several shapes reads. -/
  | alternative (family : String)
  /-- A place where the text itself spells no value. -/
  | garbled
  deriving DecidableEq

def Fault.message : Fault → String
  | .missing f => "missing field `" ++ f ++ "`"
  | .unknown f => "unknown field `" ++ f ++ "`"
  | .repeated f => "duplicate field `" ++ f ++ "`"
  | .variant n => "unknown variant `" ++ n ++ "`"
  | .kind => "invalid type"
  | .range => "invalid value"
  | .short | .surplus => "invalid length"
  | .alternative n => "data did not match any variant of untagged enum " ++ n
  | .garbled => "not a value"

/-- How a decoder takes what is left over: items of a list behind the last field of a
record, and members behind the first of an object that stands for a name. -/
inductive Manner where
  | exact
  | lenient
  deriving DecidableEq

/-- What becomes of a member that no field of a record claims. -/
inductive Others where
  | ignored
  | refused
  /-- It is ignored if it holds a string and a fault otherwise. -/
  | texts
  deriving DecidableEq

mutual

/-- The written form of the values of a type. -/
inductive Shape : Type → Type 1 where
  | bool : Shape Bool
  /-- Integers between two bounds. -/
  | int (least greatest : Int) : Shape Int
  | text : Shape String
  /-- Values that are written as a name. -/
  | name {α : Type} (read : String → Option α) (print : α → String) : Shape α
  /-- `null` or a value. -/
  | option {α : Type} (s : Shape α) : Shape (Option α)
  | list {α : Type} (s : Shape α) : Shape (List α)
  /-- An object from any names to strings. -/
  | table : Shape (Dict String String)
  /-- Any value, in canonical order. -/
  | any : Shape Json
  /-- A value that is not kept; `admits` tells what may stand there. -/
  | unread (admits : Json → Bool) : Shape Unit
  /-- What `s` reads exactly, and else what `t` reads exactly; `t` writes it. -/
  | either {α : Type} (family : String) (s t : Shape α) : Shape α
  | record {α : Type} (others : Others) (fs : Fields α) : Shape α
  /-- The values of another type that stand for these. -/
  | via {α β : Type} (s : Shape α) (into : α → β) (back : β → α) : Shape β

/-- The fields of a record in their order. -/
inductive Fields : Type → Type 1 where
  | nil : Fields Unit
  /-- `absent` is the value if no member supplies the field, `short` the value if a
  list in place of the record ends before it. If `omitted`, a `null` is not written. -/
  | cons {α β : Type} (name : String) (absent short : Option α) (omitted : Bool) (s : Shape α)
      (rest : Fields β) : Fields (α × β)

end

namespace Fields

/-- The values met so far, one place for each field. -/
def Slots : {α : Type} → Fields α → Type
  | _, .nil => Unit
  | _, .cons (α := α) _ _ _ _ _ rest => Option α × rest.Slots

def blank : {α : Type} → (fs : Fields α) → fs.Slots
  | _, .nil => ()
  | _, .cons _ _ _ _ _ rest => (none, rest.blank)

/-- The record of the values that were met. -/
def finish : {α : Type} → (fs : Fields α) → fs.Slots → Except Fault α
  | _, .nil, _ => .ok ()
  | _, .cons name absent _ _ _ rest, slots => do
    let (slot, slots) : Option _ × rest.Slots := slots
    let a ← match slot.or absent with
      | some a => .ok a
      | none => .error (.missing name)
    return (a, ← rest.finish slots)

def names : {α : Type} → Fields α → List String
  | _, .nil => []
  | _, .cons name _ _ _ _ rest => name :: rest.names

end Fields

/-- A member that no field claims. -/
def Others.check (others : Others) (name : String) (j : Json) : Except Fault Unit :=
  match others, j with
  | .ignored, _ => .ok ()
  | .refused, _ => .error (.unknown name)
  | .texts, .str _ => .ok ()
  | .texts, .garbled _ => .error .garbled
  | .texts, _ => .error .kind

/-- The fault of a value that is not of the wanted kind. -/
def misfit : Json → Fault
  | .garbled _ => .garbled
  | _ => .kind

/-- The text of a string or of a letter. -/
def decodeText : Json → Except Fault String
  | .str s => .ok s
  | .letter c => .ok (.singleton c)
  | j => .error (misfit j)

/-- A name that a member with a value stands for; the value must be `null`. -/
def decodeNameMember {α : Type} (read : String → Option α) (m : String × Json) : Except Fault α :=
  match read m.1, m.2 with
  | none, _ => .error (.variant m.1)
  | some a, .null => .ok a
  | some _, j => .error (misfit j)

/-- A name, or an object whose member stands for one. -/
def decodeName {α : Type} (manner : Manner) (read : String → Option α) : Json → Except Fault α
  | .str n => match read n with
    | some a => .ok a
    | none => .error (.variant n)
  | .obj ms => match manner, ms with
    | .exact, [m] | .lenient, m :: _ => decodeNameMember read m
    | .exact, _ => .error .range
    | .lenient, [] => .error .kind
  | j => .error (misfit j)

def decodeEntry (m : String × Json) : Except Fault (String × String) :=
  (m.1, ·) <$> decodeText m.2

def decodeTable : Json → Except Fault (Dict String String)
  | .obj ms => Dict.ofList <$> ms.mapM decodeEntry
  | .torn ms => do
    let _ ← ms.mapM decodeEntry
    throw .garbled
  | j => .error (misfit j)

mutual

/-- The value that is written in a shape. -/
def Shape.read (manner : Manner) : {α : Type} → Shape α → Json → Except Fault α
  | _, .bool, j => match j with
    | .bool b => .ok b
    | j => .error (misfit j)
  | _, .int least greatest, j => match j with
    | .int n => if least ≤ n ∧ n ≤ greatest then .ok n else .error .range
    | j => .error (misfit j)
  | _, .text, j => decodeText j
  | _, .name read _, j => decodeName manner read j
  | _, .option s, j => match j with
    | .null => .ok none
    | j => some <$> s.read manner j
  | _, .list s, j => match j with
    | .arr l => l.mapM (s.read manner)
    | j => .error (misfit j)
  | _, .table, j => decodeTable j
  | _, .any, j => if j.isPlain then .ok j.sorted else .error .garbled
  | _, .unread admits, j => if admits j then .ok () else .error (misfit j)
  | _, .either family s t, j => match s.read .exact j with
    | .ok a => .ok a
    | .error _ => match t.read .exact j with
      | .ok a => .ok a
      | .error _ => .error (.alternative family)
  | _, .record others fs, j => match j with
    | .obj ms => do
      fs.finish (← ms.foldlM (fun slots m => fs.put manner others m.1 m.2 slots) fs.blank)
    | .torn ms => do
      let _ ← ms.foldlM (fun slots m => fs.put manner others m.1 m.2 slots) fs.blank
      throw .garbled
    | .arr l => fs.ofItems manner l
    | j => .error (misfit j)
  | _, .via s into _, j => into <$> s.read manner j
termination_by structural _ s => s

/-- Puts a member into the place of its field. -/
def Fields.put (manner : Manner) : {α : Type} → (fs : Fields α) → Others → String → Json →
    fs.Slots → Except Fault fs.Slots
  | _, .nil, others, k, j, _ => others.check k j
  | _, .cons name _ _ _ s rest, others, k, j, slots =>
    let (slot, slots) : Option _ × rest.Slots := slots
    if k = name then
      match slot with
      | some _ => .error (.repeated name)
      | none => (fun a => (some a, slots)) <$> s.read manner j
    else (fun slots => (slot, slots)) <$> rest.put manner others k j slots
termination_by structural _ fs => fs

/-- The record of a list: its items are the fields in their order. -/
def Fields.ofItems (manner : Manner) : {α : Type} → (fs : Fields α) → List Json → Except Fault α
  | _, .nil, l => if l.isEmpty || manner = .lenient then .ok () else .error .surplus
  | _, .cons _ _ short _ s rest, l => match l with
    | j :: l => do return (← s.read manner j, ← rest.ofItems manner l)
    | [] => match short with
      | some a => do return (a, ← rest.ofItems manner [])
      | none => .error .short
termination_by structural _ fs => fs

end

/-- The value that is written in a shape, with nothing left over. -/
def Shape.decode {α : Type} (s : Shape α) : Json → Except Fault α := s.read .exact

mutual

def Shape.encode : {α : Type} → Shape α → α → Json
  | _, .bool, b => .bool b
  | _, .int _ _, n => .int n
  | _, .text, s => .str s
  | _, .name _ print, a => .str (print a)
  | _, .option s, a => match a with
    | none => .null
    | some a => s.encode a
  | _, .list s, l => .arr (l.map s.encode)
  | _, .table, d => .obj (d.entries.map (fun e => (e.1, .str e.2)))
  | _, .any, j => j
  | _, .unread _, () => .null
  | _, .either _ _ t, a => t.encode a
  | _, .record _ fs, a => .obj (fs.encode a)
  | _, .via s _ back, b => s.encode (back b)
termination_by structural _ s => s

/-- The members of a record, in the order of its fields. -/
def Fields.encode : {α : Type} → Fields α → α → List (String × Json)
  | _, .nil, _ => []
  | _, .cons name _ _ omitted s rest, (a, b) =>
    match s.encode a, omitted with
    | .null, true => rest.encode b
    | j, _ => (name, j) :: rest.encode b
termination_by structural _ fs => fs

end

/-! ### Common shapes -/

namespace Shape

def int64 : Shape Int64 := .via (.int Text.int64Min Text.int64Max) Int64.ofInt Int64.toInt

def int32 : Shape Int32 := .via (.int (-2147483648) 2147483647) Int32.ofInt Int32.toInt

end Shape

namespace Fields

variable {α β : Type}

/-- A field that must be there. -/
def required (name : String) (s : Shape α) (rest : Fields β) : Fields (α × β) :=
  .cons name none none false s rest

/-- A field that takes `a` where it is missing. -/
def withDefault (name : String) (a : α) (s : Shape α) (rest : Fields β) : Fields (α × β) :=
  .cons name (some a) (some a) false s rest

/-- A field that may be `null` or missing, and is written as `null`. -/
def optional (name : String) (s : Shape α) (rest : Fields β) : Fields (Option α × β) :=
  .cons name (some none) (some none) false (.option s) rest

/-- A text, or a list of texts, that may be `null` or missing. -/
def optionalText (name : String) (rest : Fields β) : Fields (Option String × β) :=
  .optional name .text rest

def optionalTexts (name : String) (rest : Fields β) : Fields (Option (List String) × β) :=
  .optional name (.list .text) rest

/-- A field that may be `null`, or missing in an object but not in a list. -/
def nullable (name : String) (s : Shape α) (rest : Fields β) : Fields (Option α × β) :=
  .cons name (some none) none false (.option s) rest

/-- A field that may be `null` or missing, and is not written where there is no value. -/
def omissible (name : String) (s : Shape α) (rest : Fields β) : Fields (Option α × β) :=
  .cons name (some none) (some none) true (.option s) rest

end Fields

end ClaimGate.Json
