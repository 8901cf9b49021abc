import Mishap.Params.Entries

/-!
How the names of a map are kept: in pages, with single names between them. A change renews the pages that it touches;
all others stay what they are, also in the copies of the map.
-/

namespace Mishap.Params

/-- Names that are kept together, each with the change that gave it its value, and the last change to the page. -/
structure Page where
  slots : List (String × Nat)
  since : Nat

namespace Page

def capacity : Nat := 64

/-- Half of the names of a full page. A page with as many can spare one. -/
def half : Nat := capacity / 2

/-- Whether a page has no name to spare. -/
def isSmall (page : Page) : Bool := page.slots.length < half

def contains (page : Page) (name : String) : Bool := (Entries.lookup name page.slots).isSome

def renew (change : Nat) (page : Page) : Page := { page with since := change }

def erase (change : Nat) (name : String) (page : Page) : Page := ⟨Entries.erase name page.slots, change⟩

/-- Takes the first name out of a page, if it can be spared. -/
def lendFirst? (change : Nat) (page : Page) : Option ((String × Nat) × Page) :=
  if page.isSmall then none else page.slots.head?.map fun slot => (slot, ⟨page.slots.tail, change⟩)

/-- Takes the last name out of a page, if it can be spared. -/
def lendLast? (change : Nat) (page : Page) : Option ((String × Nat) × Page) :=
  if page.isSmall then none else page.slots.getLast?.map fun slot => (slot, ⟨page.slots.dropLast, change⟩)

end Page

/-- The pages of a map in order, and the single name in front of each but the first one. -/
structure Layout where
  first : Page
  rest : List ((String × Nat) × Page)

namespace Layout

def empty : Layout := ⟨⟨[], 0⟩, []⟩

/-- One page of the names, or two halves if there are too many of them. -/
def ofSlots (change : Nat) (slots : List (String × Nat)) : Layout :=
  match slots.drop Page.half with
  | slot :: later =>
    if slots.length ≤ Page.capacity then ⟨⟨slots, change⟩, []⟩
    else ⟨⟨slots.take Page.half, change⟩, [(slot, ⟨later, change⟩)]⟩
  | [] => ⟨⟨slots, change⟩, []⟩

/-- Pages with a name and another page in front of them. -/
def cons (page : Page) (slot : String × Nat) (layout : Layout) : Layout :=
  ⟨page, (slot, layout.first) :: layout.rest⟩

def insertIn (change : Nat) (name : String) (page : Page) : List ((String × Nat) × Page) → Layout
  | [] => ofSlots change (Entries.insert name change page.slots)
  | (slot, next) :: rest =>
    if name < slot.1 then
      let halves := ofSlots change (Entries.insert name change page.slots)
      { halves with rest := halves.rest ++ (slot, next) :: rest }
    else if name = slot.1 then ⟨page, ((name, change), next) :: rest⟩
    else (insertIn change name next rest).cons page slot

/-- A change gives a name a value. -/
def insert (change : Nat) (name : String) (layout : Layout) : Layout :=
  insertIn change name layout.first layout.rest

/-- Takes out the name between two pages. One of them lends another name for it, or both become one page. -/
def eraseBetween (change : Nat) (page next : Page) (rest : List ((String × Nat) × Page)) : Layout :=
  match page.lendLast? change, next.lendFirst? change with
  | some (slot, page), _ => ⟨page, (slot, next) :: rest⟩
  | none, some (slot, next) => ⟨page, (slot, next) :: rest⟩
  | none, none => ⟨⟨page.slots ++ next.slots, change⟩, rest⟩

/-- Takes a name out of a small page. The page after it lends it a name, or both become one page. -/
def eraseBefore (change : Nat) (name : String) (page : Page) (slot : String × Nat) (next : Page)
    (rest : List ((String × Nat) × Page)) : Layout :=
  match next.lendFirst? change, page.contains name with
  | some (lent, next), true => ⟨⟨Entries.erase name (page.slots ++ [slot]), change⟩, (lent, next) :: rest⟩
  | some _, false => ⟨page.renew change, (slot, next.renew change) :: rest⟩
  | none, true => ⟨⟨Entries.erase name (page.slots ++ slot :: next.slots), change⟩, rest⟩
  | none, false => ⟨page, (slot, next) :: rest⟩

/-- Takes a name out of a small page behind one that can spare a name. -/
def eraseAfter (change : Nat) (name : String) (page : Page) (lent : (String × Nat) × Page) (slot : String × Nat)
    (next : Page) (rest : List ((String × Nat) × Page)) : Layout :=
  if next.contains name then ⟨lent.2, (lent.1, ⟨Entries.erase name (slot :: next.slots), change⟩) :: rest⟩
  else ⟨page.renew change, (slot, next.renew change) :: rest⟩

/-- Takes a name out of the last page, a small one behind one that is small too. -/
def eraseLast (change : Nat) (name : String) (page : Page) (slot : String × Nat) (next : Page) : Layout :=
  if next.contains name then ⟨⟨Entries.erase name (page.slots ++ slot :: next.slots), change⟩, []⟩
  else ⟨page, [(slot, next)]⟩

def eraseIn (change : Nat) (name : String) (page : Page) : List ((String × Nat) × Page) → Layout
  | [] => ⟨page.erase change name, []⟩
  | (slot, next) :: rest =>
    if name = slot.1 then eraseBetween change page next rest
    else if name < slot.1 then
      if page.isSmall then eraseBefore change name page slot next rest
      else ⟨page.erase change name, (slot, next) :: rest⟩
    else if next.isSmall && rest.head?.all fun later => name < later.1.1 then
      match page.lendLast? change, rest with
      | some lent, _ => eraseAfter change name page lent slot next rest
      | none, [] => eraseLast change name page slot next
      | none, _ => (eraseIn change name next rest).cons page slot
    else (eraseIn change name next rest).cons page slot

/-- A change takes a name out. -/
def erase (change : Nat) (name : String) (layout : Layout) : Layout :=
  eraseIn change name layout.first layout.rest

def pages (layout : Layout) : List Page := layout.first :: layout.rest.map (·.2)

def slots (layout : Layout) : List (String × Nat) :=
  layout.first.slots ++ layout.rest.flatMap fun (slot, page) => slot :: page.slots

/-- The last change to the page that a name is on; none if it stands between two pages. -/
def pageSince? (layout : Layout) (name : String) : Option Nat :=
  (layout.pages.find? (·.contains name)).map Page.since

/-- The change that gave a name its value. -/
def since? (layout : Layout) (name : String) : Option Nat := Entries.lookup name layout.slots

/-- Whether a name is on a page that two layouts share. -/
def sharePage (a b : Layout) (name : String) : Bool :=
  (a.pageSince? name).any fun since => b.pageSince? name == some since

/-- Whether a name has its value from one change in two layouts. -/
def shareValue (a b : Layout) (name : String) : Bool :=
  (a.since? name).any fun since => b.since? name == some since

end Layout

end Mishap.Params
