import Mishap.Json.Lexeme

/-!
Reading a JSON text: one value, of containers nested no deeper than a fixed depth. The containers around the place that
has been reached are kept on a stack.
-/

namespace Mishap.Json

/-- A container with its items so far, last first. -/
inductive Container
  | array (items : List Json)
  | object (members : List (String × Json))

namespace Container

/-- The value of a container that ends here. -/
def close : Container → Json
  | array items => .array items.reverse
  | object members => .object members.reverse

def shape : Container → Shape
  | array _ => .array
  | object _ => .object

end Container

/-- A container around the value that is being read, a member with its name. -/
inductive Frame
  | array (items : List Json)
  | member (members : List (String × Json)) (name : String)

/-- The container of a frame with one more item. -/
def Frame.add (j : Json) : Frame → Container
  | array items => .array (j :: items)
  | member members name => .object ((name, j) :: members)

/-- What may come next: a value, a name, the colon after a name, a comma or closing bracket, or nothing but the end. A
container may be closed at once, but not after a comma. -/
inductive Expected
  | value (closable : Bool)
  | name (members : List (String × Json)) (closable : Bool)
  | colon (members : List (String × Json)) (name : String)
  | separator (container : Container)
  | nothing (result : Json)

/-- How far the lexemes have been read. -/
structure Reading where
  stack : List Frame
  expected : Expected

namespace Reading

def deepest : Nat := 127

/-- A value has been read. -/
def place (stack : List Frame) (j : Json) : Reading :=
  match stack with
  | [] => ⟨[], .nothing j⟩
  | frame :: stack => ⟨stack, .separator (frame.add j)⟩

/-- A container has been opened inside of those on the stack. -/
def enter? (stack : List Frame) (shape : Shape) : Option Reading :=
  if deepest ≤ stack.length then none
  else
    match shape with
    | .array => some ⟨.array [] :: stack, .value true⟩
    | .object => some ⟨stack, .name [] true⟩

/-- Another item of a container. -/
def next (stack : List Frame) : Container → Reading
  | .array items => ⟨.array items :: stack, .value false⟩
  | .object members => ⟨stack, .name members false⟩

def step? (r : Reading) (l : Lexeme) : Option Reading :=
  match r.expected, l with
  | .value _, .scalar j => some (place r.stack j)
  | .value _, .opening shape => enter? r.stack shape
  | .value true, .closing .array => some (place r.stack.tail (.array []))
  | .name members _, .scalar (.text name) => some ⟨r.stack, .colon members name⟩
  | .name members true, .closing .object => some (place r.stack (.object members.reverse))
  | .colon members name, .colon => some ⟨.member members name :: r.stack, .value false⟩
  | .separator container, .comma => some (next r.stack container)
  | .separator container, .closing shape =>
    if shape = container.shape then some (place r.stack container.close) else none
  | _, _ => none

def finish? (r : Reading) : Option Json :=
  match r.expected with
  | .nothing j => some j
  | _ => none

end Reading

def ofLexemes? (lexemes : List Lexeme) : Option Json :=
  (lexemes.foldlM Reading.step? ⟨[], .value false⟩).bind Reading.finish?

/-- Reads a text that is one JSON value. -/
def ofText? (text : String) : Option Json := (Lexeme.scan? text.toList).bind ofLexemes?

end Mishap.Json
