import Mishap.Template

/-!
A cache of templates: one template for every format string, up to a limit. Asking it for a template is two steps that
may be interleaved with those of others: a look-up and, where that finds nothing, storing a template read meanwhile.
-/

namespace Mishap

/-- The templates kept, each under the format string it was stored for, the one stored last first. -/
structure TemplateCache where
  entries : List (String × Template)

namespace TemplateCache

/-- The number of templates at which the cache is emptied before another is stored. -/
def limit : Nat := 1024

def empty : TemplateCache := ⟨[]⟩

def size (cache : TemplateCache) : Nat := cache.entries.length

def lookup? (cache : TemplateCache) (format : String) : Option Template := cache.entries.lookup format

/-- Stores a template for a format string unless there is one; gives the one that is kept. -/
def store (cache : TemplateCache) (format : String) (t : Template) : Template × TemplateCache :=
  let cache := if limit ≤ cache.size then empty else cache
  match cache.lookup? format with
  | some kept => (kept, cache)
  | none => (t, ⟨(format, t) :: cache.entries⟩)

/-- The template of a format string: the one kept, or else a new one. -/
def fetch (cache : TemplateCache) (format : String) : Template × TemplateCache :=
  match cache.lookup? format with
  | some kept => (kept, cache)
  | none => cache.store format (.ofFormat format)

end TemplateCache

end Mishap
