import Overlay.Json.Basic
import Overlay.Json.Token

namespace Overlay.Json

inductive Document
  | null
  | bool (b : Bool)
  | number (l : Literal)
  | text (parts : List TextPart)
  | list (items : List Document)
  | record (members : List (List TextPart × Document))
  deriving Inhabited, Repr, BEq

namespace Document

/-- A container whose value for the next item or member is still to come; contents last first. -/
inductive Frame
  | list (items : List Document)
  | record (members : List (List TextPart × Document)) (key : List TextPart)

inductive Stage
  | value (frames : List Frame)
  | firstItem (frames : List Frame)
  | afterItem (items : List Document) (frames : List Frame)
  | firstKey (frames : List Frame)
  | key (members : List (List TextPart × Document)) (frames : List Frame)
  | colon (members : List (List TextPart × Document)) (key : List TextPart) (frames : List Frame)
  | afterMember (members : List (List TextPart × Document)) (frames : List Frame)
  | finished (d : Document)

namespace Stage

def put (d : Document) : List Frame → Stage
  | [] => .finished d
  | .list items :: fs => .afterItem (d :: items) fs
  | .record members k :: fs => .afterMember ((k, d) :: members) fs

def begin (fs : List Frame) : Token → Option Stage
  | .null => some (put .null fs)
  | .bool b => some (put (.bool b) fs)
  | .number l => some (put (.number l) fs)
  | .text t => some (put (.text t) fs)
  | .beginList => some (.firstItem fs)
  | .beginRecord => some (.firstKey fs)
  | _ => none

def step : Stage → Token → Option Stage
  | .value fs, t => begin fs t
  | .firstItem fs, .endList => some (put (.list []) fs)
  | .firstItem fs, t => begin (.list [] :: fs) t
  | .afterItem items fs, .comma => some (.value (.list items :: fs))
  | .afterItem items fs, .endList => some (put (.list items.reverse) fs)
  | .firstKey fs, .endRecord => some (put (.record []) fs)
  | .firstKey fs, .text k => some (.colon [] k fs)
  | .key members fs, .text k => some (.colon members k fs)
  | .colon members k fs, .colon => some (.value (.record members k :: fs))
  | .afterMember members fs, .comma => some (.key members fs)
  | .afterMember members fs, .endRecord => some (put (.record members.reverse) fs)
  | _, _ => none

end Stage

def ofTokens? (ts : List Token) : Option Document :=
  match ts.foldlM Stage.step (.value []) with
  | some (.finished d) => some d
  | _ => none

def ofText? (s : String) : Option Document := (Token.scan? s.toList).bind ofTokens?

def ofBytes? (bytes : ByteArray) : Option Document := (String.fromUTF8? bytes).bind ofText?

theorem ofBytes?_toUTF8 (s : String) : ofBytes? s.toUTF8 = ofText? s := by
  unfold ofBytes?
  rw [show String.fromUTF8? s.toUTF8 = some s from dif_pos s.isValidUTF8]
  rfl

end Document

/-- The characters of a text. A high and a low surrogate unit together are one character; neither
is one alone. -/
def charsOf? : List TextPart → Option (List Char)
  | [] => some []
  | .char c :: ps => (charsOf? ps).map (c :: ·)
  | .unit high :: .unit low :: ps =>
    if 0xD800 ≤ high ∧ high < 0xDC00 then
      if 0xDC00 ≤ low ∧ low < 0xE000 then
        (charsOf? ps).map (Char.ofNat (0x10000 + (high - 0xD800) * 0x400 + (low - 0xDC00)) :: ·)
      else none
    else if 0xDC00 ≤ high ∧ high < 0xE000 then none
    else (charsOf? (.unit low :: ps)).map (Char.ofNat high :: ·)
  | .unit n :: ps =>
    if 0xD800 ≤ n ∧ n < 0xE000 then none else (charsOf? ps).map (Char.ofNat n :: ·)

def Number.toJson : Number → Json
  | .int n => .int n
  | .double x => .double x

def textOf? (parts : List TextPart) : Option String := (charsOf? parts).map String.ofList

namespace Document

def maxDepth : Nat := 127

mutual
def value? (depth : Nat) : Document → Option Json
  | .null => some .null
  | .bool b => some (.bool b)
  | .number l => l.value?.map Number.toJson
  | .text t => (textOf? t).map .str
  | .list items =>
    match depth with
    | 0 => none
    | depth + 1 => (values? depth items).map .arr
  | .record members =>
    match depth with
    | 0 => none
    | depth + 1 => (members? depth members).map fun ms => .obj (Text.sortKeys ms)
def values? (depth : Nat) : List Document → Option (List Json)
  | [] => some []
  | d :: ds => do return (← value? depth d) :: (← values? depth ds)
def members? (depth : Nat) : List (List TextPart × Document) → Option (List (String × Json))
  | [] => some []
  | (k, d) :: ms => do return (← textOf? k, ← value? depth d) :: (← members? depth ms)
end

end Document

def ofBytes? (bytes : ByteArray) : Option Json :=
  (Document.ofBytes? bytes).bind (Document.value? Document.maxDepth)

end Overlay.Json
