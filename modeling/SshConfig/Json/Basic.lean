import SshConfig.Text.Quoted
import SshConfig.Numeral
import SshConfig.Shortest
/-!
# Json — values of the interchange form

The values that option blocks are decoded from and that reports are made of.  An object keeps its members in the order
in which they were given, and no name occurs in it twice.  `quoted` shows a value in a message, where a text stands in
quotation marks, and `display` shows a text as itself.

The strings of a value are texts.  What is read from a line can have other strings as well, for an escape may write one half
of a surrogate pair alone, which is a code point but no character.  So the type is open in its strings: `Json` has texts,
`Json CodePoints` has rows of code points, `Json.codePoints` leads from the first to the second and `Json.text?` back.
-/
namespace SshConfig

/-- Code points in a row, of which some may be no characters. -/
abbrev CodePoints := List Nat

/-- The code points of a text. -/
def Text.codePoints (t : Text) : CodePoints :=
  t.map Char.toNat

/-- The text of code points that are all characters. -/
def CodePoints.text? : CodePoints → Option Text
  | [] => some []
  | n :: ns => if n.isValidChar then (text? ns).map (Char.ofNat n :: ·) else none

/-- A value of the interchange form, with strings of type `σ`. -/
inductive Json (σ : Type := Text) where
  | null
  | bool (b : Bool)
  | int (n : Int)
  | float (x : Float)
  | str (t : σ)
  | arr (items : List (Json σ))
  | obj (members : List (σ × Json σ))
  deriving BEq, Repr, Inhabited

namespace Json

/-- Sets a member: in its place if the name is there already, at the end otherwise. -/
def put {σ : Type} [DecidableEq σ] (members : List (σ × Json σ)) (name : σ) (value : Json σ) : List (σ × Json σ) :=
  match members with
  | [] => [(name, value)]
  | m :: ms => if m.1 = name then (name, value) :: ms else m :: put ms name value

/-- The members of `later` set one after the other on top of `members`. -/
def putAll {σ : Type} [DecidableEq σ] (members later : List (σ × Json σ)) : List (σ × Json σ) :=
  later.foldl (fun ms m => put ms m.1 m.2) members

/-- The value of a member. -/
def member? {σ : Type} [DecidableEq σ] (name : σ) (members : List (σ × Json σ)) : Option (Json σ) :=
  (members.find? fun m => m.1 == name).map (·.2)

/-- An optional value, null if there is none. -/
def ofOption {σ α : Type} (f : α → Json σ) : Option α → Json σ
  | none => .null
  | some a => f a

/-- A member, if there is a value for it. -/
def optional {α : Type} (name : Text) (f : α → Json) (a : Option α) : List (Text × Json) :=
  (a.map fun v => (name, f v)).toList

/-- A list of texts. -/
def texts (ts : List Text) : Json :=
  .arr (ts.map .str)

mutual

/-- The value with the code points of its texts. -/
def codePoints : Json → Json CodePoints
  | .null => .null
  | .bool b => .bool b
  | .int n => .int n
  | .float x => .float x
  | .str t => .str t.codePoints
  | .arr items => .arr (itemsCodePoints items)
  | .obj members => .obj (membersCodePoints members)

/-- The items of a list with the code points of their texts. -/
def itemsCodePoints : List Json → List (Json CodePoints)
  | [] => []
  | v :: vs => codePoints v :: itemsCodePoints vs

/-- The members of an object with the code points of their texts. -/
def membersCodePoints : List (Text × Json) → List (CodePoints × Json CodePoints)
  | [] => []
  | (k, v) :: ms => (k.codePoints, codePoints v) :: membersCodePoints ms

end

mutual

/-- The value with texts, if all of its strings are texts. -/
def text? : Json CodePoints → Option Json
  | .null => some .null
  | .bool b => some (.bool b)
  | .int n => some (.int n)
  | .float x => some (.float x)
  | .str t => (CodePoints.text? t).map .str
  | .arr items => (itemsText? items).map .arr
  | .obj members => (membersText? members).map .obj

/-- The items of a list with texts. -/
def itemsText? : List (Json CodePoints) → Option (List Json)
  | [] => some []
  | v :: vs =>
    match text? v, itemsText? vs with
    | some v, some vs => some (v :: vs)
    | _, _ => none

/-- The members of an object with texts. -/
def membersText? : List (CodePoints × Json CodePoints) → Option (List (Text × Json))
  | [] => some []
  | (k, v) :: ms =>
    match CodePoints.text? k, text? v, membersText? ms with
    | some k, some v, some ms => some ((k, v) :: ms)
    | _, _, _ => none

end

mutual

/-- The value as messages show it. -/
def quoted : Json → Text
  | .null => "None"
  | .bool b => if b then "True" else "False"
  | .int n => Text.ofInt n
  | .float x => Shortest.text "inf" "nan" x
  | .str t => Text.quoted t
  | .arr items => '[' :: quotedItems items ++ "]"
  | .obj members => '\x7b' :: quotedMembers members ++ ['\x7d']

/-- The items of a list as messages show them. -/
def quotedItems : List Json → Text
  | [] => []
  | [v] => quoted v
  | v :: vs => quoted v ++ ", " ++ quotedItems vs

/-- The members of an object as messages show them. -/
def quotedMembers : List (Text × Json) → Text
  | [] => []
  | [(k, v)] => Text.quoted k ++ ": " ++ quoted v
  | (k, v) :: ms => Text.quoted k ++ ": " ++ quoted v ++ ", " ++ quotedMembers ms

end

/-- The value as messages show it, a text as itself. -/
def display : Json → Text
  | .str t => t
  | v => quoted v

/-- The value is null. -/
def isNull : Json → Bool
  | .null => true
  | _ => false

/-- The value says nothing: it is null, no, zero or empty. -/
def isVoid : Json → Bool
  | .null => true
  | .bool b => !b
  | .int n => n == 0
  | .float x => x == 0
  | .str t => t.isEmpty
  | .arr items => items.isEmpty
  | .obj members => members.isEmpty

/-- What a value is made of: the items of a list, the characters of a text, the names of an object's members. -/
def parts? : Json → Option (List Json)
  | .arr items => some items
  | .str t => some (t.map fun c => .str [c])
  | .obj members => some (members.map fun m => .str m.1)
  | _ => none

/-- The kind of a value, as messages name it. -/
def kindName : Json → Text
  | .null => "NoneType"
  | .bool _ => "bool"
  | .int _ => "int"
  | .float _ => "float"
  | .str _ => "str"
  | .arr _ => "list"
  | .obj _ => "dict"

end Json
end SshConfig
