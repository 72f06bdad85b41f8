import ThrowawayServer.Text.Numeral
import ThrowawayServer.Text.Split
import ThrowawayServer.Yaml.Node

/-!
# Values of expected shapes

What a node means where a text, a number, a list or a record is expected. A plain scalar is a text
whatever it looks like; it is nothing where something may be missing and it is empty or a word for
null. References are followed to the nodes that they name.
-/

set_option autoImplicit false

namespace ThrowawayServer.Yaml

namespace Document

def follow (document : Document) : Node → Node
  | .reference anchor => (document.anchored.lookup anchor).getD .empty
  | node => node

def text (document : Document) (node : Node) : Except Fault String :=
  match document.follow node with
  | .scalar _ _ text => .ok (String.ofList text)
  | _ => .error (.unexpectedShape "a string")

def isNullWord (text : List Char) : Bool :=
  ["~", "null", "Null", "NULL"].any fun word => word.toList = text

def standardTag (name : String) : List Char := ("tag:yaml.org,2002:" ++ name).toList

/-- The node if there is a value, and none for nothing or a word for null. -/
def given? (document : Document) (node : Node) : Except Fault (Option Node) :=
  let node := document.follow node
  match node with
  | .scalar ⟨_, tag⟩ .plain text =>
    match tag with
    | none => .ok (if text.isEmpty || isNullWord text then none else some node)
    | some tag =>
      if tag = standardTag "null" then
        if isNullWord text then .ok none else .error (.unexpectedShape "null")
      else .ok (some node)
  | _ => .ok (some node)

/-- A value that may be missing. -/
def optional {α : Type} (document : Document) (read : Node → Except Fault α) (node : Node) :
    Except Fault (Option α) := do
  match ← document.given? node with
  | none => return none
  | some node => return some (← read node)

/-- The prefixes of numerals that are not decimal, with their bases. -/
def bases : List (List Char × Nat) := [(['0', 'x'], 16), (['0', 'o'], 8), (['0', 'b'], 2)]

/-- A numeral without a sign in some base. -/
def based? (limit : Nat) (text : List Char) : Option Nat :=
  bases.findSome? fun (start, base) => do
    let digits ← Text.stripStart? start text
    if digits.isEmpty then none else (Text.readDigits base limit 0 digits).toOption

/-- Whether a zero leads other digits. -/
def hasLeadingZero (text : List Char) : Bool :=
  text.length > 1 && text.head? = some '0' && text.all Char.isDigit

/-- A whole number of at most `limit` with an optional plus sign. -/
def number? (limit : Nat) (text : List Char) : Option Nat :=
  let digits := (Text.stripStart? ['+'] text).getD text
  match based? limit digits with
  | some value => some value
  | none =>
    if digits.isEmpty || hasLeadingZero digits then none
    else (Text.readDigits 10 limit 0 digits).toOption

/-- A whole number of at most `limit`: a plain scalar, or a literal block with the tag for it. -/
def number (document : Document) (limit : Nat) (node : Node) : Except Fault Nat :=
  let fault := Fault.unexpectedShape "a whole number"
  match document.follow node with
  | .scalar ⟨_, tag⟩ style text =>
    if style = .plain || (style = .literal && tag = some (standardTag "int")) then
      match number? limit text with
      | some value => .ok value
      | none => .error fault
    else .error fault
  | _ => .error fault

/-- Whether a node stands for a collection without entries because nothing is there. -/
def isVoid : Node → Bool
  | .scalar _ .plain [] => true
  | _ => false

def items (document : Document) (node : Node) : Except Fault (List Node) :=
  let node := document.follow node
  match node with
  | .sequence _ items => .ok items
  | _ => if isVoid node then .ok [] else .error (.unexpectedShape "a sequence")

/-- The entries of a mapping by the texts of their keys. -/
def entries (document : Document) (node : Node) : Except Fault (List (String × Node)) :=
  let node := document.follow node
  match node with
  | .mapping _ entries => entries.mapM fun (key, value) => do return (← document.text key, value)
  | _ => if isVoid node then .ok [] else .error (.unexpectedShape "a mapping")

/-- The entry with a name among the entries of a record, where it may stand once. -/
def field? (fields : List (String × Node)) (name : String) : Except Fault (Option Node) :=
  match fields.filter fun field => field.1 = name with
  | [] => .ok none
  | [field] => .ok (some field.2)
  | _ => .error (.duplicateField name)

/-- The value of a field, or `default` if the field is missing. -/
def field {α : Type} (fields : List (String × Node)) (name : String)
    (read : Node → Except Fault α) (default : α) : Except Fault α := do
  match ← field? fields name with
  | none => return default
  | some node => read node

/-- The value of a field that must not be missing. -/
def required {α : Type} (fields : List (String × Node)) (name : String)
    (read : Node → Except Fault α) : Except Fault α := do
  match ← field? fields name with
  | none => .error (.missingField name)
  | some node => read node

/-- The tag of a node if it is a local one, without its exclamation mark unless that is all of it. -/
def localTag? (node : Node) : Option (List Char) :=
  match node.marks.tag with
  | some ['!'] => some ['!']
  | some ('!' :: name) => some name
  | _ => none

/-- Whether nothing but a null stands at a node whose tag has been taken into account. -/
def isNull (document : Document) (node : Node) : Bool :=
  match document.follow node with
  | .scalar _ .plain text => text.isEmpty || isNullWord text
  | _ => false

/-- A name out of a fixed set: the text of a scalar, or the local tag of a null. -/
def name (document : Document) (node : Node) : Except Fault String :=
  let node := document.follow node
  match localTag? node with
  | some tag =>
    if document.isNull node then .ok (String.ofList tag) else .error (.unexpectedShape "null")
  | none => document.text node

end Document

end ThrowawayServer.Yaml
