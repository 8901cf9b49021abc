import Mishap.Fault
import Mishap.Record

/-!
The chain of a fault: the fault itself and its causes, outermost first. The first annotated link holds the data of the
whole chain.
-/

namespace Mishap.Fault

/-- The causes of a fault, the nearest first. A box has the causes of the fault inside. -/
def causes : Fault → List Fault
  | .io .. => []
  | .foreign _ _ none => []
  | .foreign _ _ (some c) => c :: c.causes
  | .annotated _ _ _ none => []
  | .annotated _ _ _ (some c) => c :: c.causes
  | .boxed inner => inner.causes
termination_by structural f => f

def chain (f : Fault) : List Fault := f :: f.causes

/-- The first annotated link of the chain. -/
def dataLink? (f : Fault) : Option Note := f.chain.findSome? note?

/-- All data that the chain carries. -/
def fields (f : Fault) : Params :=
  match f.dataLink? with
  | some link => link.params
  | none => .empty

def field? (f : Fault) (name : String) : Option Value := f.fields.get? name

def hasField (f : Fault) (name : String) : Bool := f.fields.contains name

/-- Whether `target` is the fault or one of its causes. -/
def is (f target : Fault) : Bool := f.chain.any (·.sameIdentity target)

/-- The first link of a kind, boxes taken off. -/
def find? (f : Fault) (kind : LinkKind) : Option Fault :=
  (f.chain.map unbox).find? fun link => link.linkKind == kind

end Mishap.Fault
