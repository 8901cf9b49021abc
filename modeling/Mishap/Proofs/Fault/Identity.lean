import Mathlib.Logic.Function.Basic
import Mathlib.Logic.Relation
import Mishap.Proofs.Fault.History

/-!
Identity along chains. Faults are made one after the other and held together: an operation is applied to any fault that
is held, to a cause of one as well, and faults can be let go of. A ledger says what each was built on. Main statement:
`is` holds where the ledger leads from one fault to the other, and this is a partial order of identities.
-/

namespace Mishap

open Relation (ReflTransGen)

/-! ### Links -/

namespace Fault

/-- The links of the chain, boxes taken off. -/
def links (f : Fault) : List Fault := f.chain.map unbox

theorem links_eq (f : Fault) : f.links = f.unbox :: f.cause?.elim [] links := by
  rw [links, chain, causes_eq, List.map_cons]
  cases f.cause? <;> rfl

theorem links_of_cause {f c : Fault} (h : f.cause? = some c) : f.links = f.unbox :: c.links := by
  rw [links_eq, h]
  rfl

theorem links_of_no_cause {f : Fault} (h : f.cause? = none) : f.links = [f.unbox] := by
  rw [links_eq, h]
  rfl

theorem unbox_mem_links (f : Fault) : f.unbox ∈ f.links := by
  rw [links_eq]
  exact List.mem_cons_self

theorem identity_unbox (f : Fault) : f.unbox.identity = f.identity := by
  cases f <;> rfl

theorem is_iff {f target : Fault} : f.is target ↔ ∃ link ∈ f.links, link.identity = target.identity := by
  simp [is, links, sameIdentity, identity_unbox]

theorem is_refl (f : Fault) : f.is f := is_iff.2 ⟨f.unbox, f.unbox_mem_links, f.identity_unbox⟩

theorem sameIdentity_iff {a b : Fault} : a.sameIdentity b ↔ a.identity = b.identity := beq_iff_eq

theorem is_iff_same_or_cause {f target : Fault} :
    f.is target ↔ f.identity = target.identity ∨ ∃ c, f.cause? = some c ∧ c.is target := by
  rw [is_iff]
  cases hcause : f.cause? with
  | none => simp [links_of_no_cause hcause, identity_unbox]
  | some c => simp [links_of_cause hcause, identity_unbox, is_iff]

theorem length_links_unbox (f : Fault) : f.unbox.links.length = f.links.length := by
  rw [links_eq, links_eq f, cause?_unbox, List.length_cons, List.length_cons]

/-- Every link has a shorter chain than the fault itself. -/
theorem eq_or_length_links_lt {f link : Fault} (h : link ∈ f.links) :
    link = f.unbox ∨ link.links.length < f.links.length := by
  induction f using induct_cause with
  | step f ih =>
    cases hcause : f.cause? with
    | none =>
      rw [links_of_no_cause hcause] at h
      exact .inl (List.mem_singleton.1 h)
    | some c =>
      rw [links_of_cause hcause] at h ⊢
      rcases List.mem_cons.1 h with rfl | h
      · exact .inl rfl
      · right
        rw [List.length_cons]
        rcases ih c hcause h with rfl | hlt
        · rw [length_links_unbox]
          omega
        · omega

theorem length_links_le {f link : Fault} (h : link ∈ f.links) : link.links.length ≤ f.links.length := by
  rcases eq_or_length_links_lt h with rfl | hlt
  · exact Nat.le_of_eq (length_links_unbox f)
  · exact Nat.le_of_lt hlt

/-- The links of a link are links of the fault. -/
theorem links_subset {f g : Fault} (h : g ∈ f.chain) : g.links ⊆ f.links := by
  induction f using induct_cause with
  | step f ih =>
    rw [chain, causes_eq] at h
    rcases List.mem_cons.1 h with rfl | h
    · exact List.Subset.refl _
    · cases hcause : f.cause? with
      | none =>
        rw [hcause] at h
        cases h
      | some c =>
        rw [hcause] at h
        rw [links_of_cause hcause]
        exact List.subset_cons_of_subset _ (ih c hcause h)

theorem Flat.of_mem_chain {f g : Fault} (hf : f.Flat) (h : g ∈ f.chain) : g.Flat := by
  intro link hlink
  have hmem : link.unbox ∈ f.links := links_subset h (List.mem_map_of_mem hlink)
  obtain ⟨other, hother, hunbox⟩ := List.mem_map.1 hmem
  rw [← hunbox]
  exact hf other hother

theorem links_box (f : Fault) : f.box.links = f.links := map_unbox_chain_box f

theorem Flat.links_unbox {f : Fault} (h : f.Flat) : f.unbox.links = f.links := by
  cases f with
  | boxed inner =>
    have hinner : inner.unbox = inner := unbox_of_linkKind (flat_boxed_iff.1 h).1
    rw [links_eq, links_eq (boxed inner), cause?_unbox]
    exact congrArg (· :: _) hinner
  | _ => rfl

end Fault

/-! ### Faults that are held together -/

/-- What every fault was built on, by their identities. -/
abbrev Ledger := Identity → Option Identity

/-- The links of all faults that are held. -/
def linksIn (held : List Fault) : List Fault := held.flatMap Fault.links

/-- The identity is that of no link of a fault that is held. -/
def Fresh (id : Identity) (held : List Fault) : Prop := ∀ link ∈ linksIn held, link.identity ≠ id

instance (id : Identity) (held : List Fault) : Decidable (Fresh id held) :=
  inferInstanceAs (Decidable (∀ link ∈ linksIn held, link.identity ≠ id))

namespace Layer

/-- Whether the layer makes a new fault around the one below it. -/
def Wraps : Layer → Prop
  | foreign _ => True
  | wrapping _ => True
  | deleteField _ => True
  | _ => False

/-- The ledger after a layer: what is put around a fault was built on it, and a clone on what the original was. -/
def enter (id : Identity) (below : Fault) (built : Ledger) : Layer → Ledger
  | foreign _ => Function.update built id (some below.identity)
  | wrapping _ => Function.update built id (some below.identity)
  | deleteField _ => Function.update built id (some below.identity)
  | box => built
  | unbox => built
  | clone => if below.note?.isSome then Function.update built id (built below.identity) else built

end Layer

/-- Faults are held that were made one after the other, each with an identity that was free then, and the ledger says
what they were built on. -/
inductive Held : List Fault → Ledger → Prop
  | nothing : Held [] fun _ => none
  | origin {held built id f} {origin : Origin} (h : Held held built) (hfresh : Fresh id held)
      (hmake : origin.make id = .ok f) : Held (f :: held) (Function.update built id none)
  | layer {held built id below f} {layer : Layer} (h : Held held built) (hbelow : below ∈ held) (hfresh : Fresh id held)
      (happly : layer.apply id below = .ok f) : Held (f :: held) (layer.enter id below built)
  /-- Faults are let go of, and links of the others are taken hold of. -/
  | keep {held built kept} (h : Held held built) (hkept : ∀ g ∈ kept, ∃ f ∈ held, g ∈ f.chain) : Held kept built

/-- Links of one identity are one and the same, and the ledger says what each was made of. -/
structure Consistent (held : List Fault) (built : Ledger) : Prop where
  flat : ∀ f ∈ held, f.Flat
  same : ∀ a ∈ linksIn held, ∀ b ∈ linksIn held, a.identity = b.identity → a = b
  built_eq : ∀ a ∈ linksIn held, built a.identity = a.cause?.map Fault.identity

theorem mem_linksIn {held : List Fault} {link : Fault} : link ∈ linksIn held ↔ ∃ f ∈ held, link ∈ f.links :=
  List.mem_flatMap

theorem linksIn_cons (f : Fault) (held : List Fault) : linksIn (f :: held) = f.links ++ linksIn held := rfl

theorem links_subset_linksIn {f : Fault} {held : List Fault} (h : f ∈ held) : f.links ⊆ linksIn held :=
  fun _ hlink => mem_linksIn.2 ⟨f, h, hlink⟩

namespace Consistent

variable {held : List Fault} {built : Ledger}

theorem built_of_mem (h : Consistent held built) {f : Fault} (hf : f ∈ held) :
    built f.identity = f.cause?.map Fault.identity := by
  have hunbox := h.built_eq f.unbox (links_subset_linksIn hf f.unbox_mem_links)
  rwa [Fault.identity_unbox, Fault.cause?_unbox] at hunbox

theorem mono (h : Consistent held built) {kept : List Fault} (hflat : ∀ f ∈ kept, f.Flat)
    (hlinks : linksIn kept ⊆ linksIn held) : Consistent kept built where
  flat := hflat
  same a ha b hb := h.same a (hlinks ha) b (hlinks hb)
  built_eq a ha := h.built_eq a (hlinks ha)

/-- A fault with a free identity, made of links that are held. -/
theorem insert (h : Consistent held built) {f : Fault} (hflat : f.Flat) (hunbox : f.unbox = f)
    (hfresh : Fresh f.identity held) (hcause : ∀ c ∈ f.cause?, c.links ⊆ linksIn held) :
    Consistent (f :: held) (Function.update built f.identity (f.cause?.map Fault.identity)) := by
  have hlinks {a : Fault} (ha : a ∈ linksIn (f :: held)) : a = f ∨ a ∈ linksIn held := by
    rw [linksIn_cons, List.mem_append] at ha
    rcases ha with ha | ha
    · rw [f.links_eq, hunbox] at ha
      rcases List.mem_cons.1 ha with rfl | ha
      · exact .inl rfl
      · cases hc : f.cause? with
        | none =>
          rw [hc] at ha
          cases ha
        | some c =>
          rw [hc] at ha
          exact .inr (hcause c hc ha)
    · exact .inr ha
  refine ⟨List.forall_mem_cons.2 ⟨hflat, h.flat⟩, ?_, ?_⟩
  · intro a ha b hb hab
    rcases hlinks ha with hnew | ha
    · rcases hlinks hb with hnewB | hb
      · rw [hnew, hnewB]
      · rw [hnew] at hab
        exact absurd hab.symm (hfresh b hb)
    · rcases hlinks hb with hnew | hb
      · rw [hnew] at hab
        exact absurd hab (hfresh a ha)
      · exact h.same a ha b hb hab
  · intro a ha
    rcases hlinks ha with rfl | ha
    · rw [Function.update_self]
    · rw [Function.update_of_ne (hfresh a ha), h.built_eq a ha]

end Consistent

/-! ### Operations -/

/-- What is made of data alone. -/
theorem Origin.identity_of_make {origin : Origin} {id : Identity} {f : Fault} (h : origin.make id = .ok f) :
    f.identity = id ∧ f.unbox = f ∧ f.cause? = none := by
  rcases make_eq_ok h with ⟨hidentity, hchain, -, hkind, -⟩ | ⟨a, rfl, hcause, -⟩
  · exact ⟨hidentity, Fault.unbox_of_linkKind hkind, Fault.cause?_of_chain hchain⟩
  · exact ⟨rfl, rfl, hcause⟩

namespace Layer

variable {id : Identity} {below f : Fault}

/-- A fault around another. -/
theorem identity_of_wraps {layer : Layer} (hwraps : layer.Wraps) (h : layer.apply id below = .ok f) :
    f.identity = id ∧ f.unbox = f ∧ f.cause? = some below := by
  cases layer with
  | foreign message =>
    cases h
    exact ⟨rfl, rfl, rfl⟩
  | wrapping w =>
    obtain ⟨handle, hhandle, rfl⟩ := Attempt.map_eq_ok_iff.1 h
    obtain ⟨hfault, hcause, -⟩ := Wrapping.apply_eq_ok hhandle
    rw [hfault]
    exact ⟨rfl, rfl, hcause⟩
  | deleteField name =>
    cases h
    exact ⟨rfl, rfl, rfl⟩
  | box => cases hwraps
  | unbox => cases hwraps
  | clone => cases hwraps

theorem enter_of_wraps {layer : Layer} (hwraps : layer.Wraps) (built : Ledger) :
    layer.enter id below built = Function.update built id (some below.identity) := by
  cases layer <;> first | rfl | cases hwraps

/-- What a layer does: it puts a new fault around the one below it, or makes a new one out of what that was made of, or
makes none. -/
theorem apply_cases {layer : Layer} (hbelow : below.Flat) (h : layer.apply id below = .ok f) :
    layer.Wraps ∨
      (f.identity = id ∧ f.unbox = f ∧ f.cause? = below.cause? ∧
        ∀ built, layer.enter id below built = Function.update built id (built below.identity)) ∨
      f.links = below.links ∧ ∀ built, layer.enter id below built = built := by
  cases layer with
  | foreign message => exact .inl trivial
  | wrapping w => exact .inl trivial
  | deleteField name => exact .inl trivial
  | box =>
    cases h
    exact .inr (.inr ⟨below.links_box, fun _ => rfl⟩)
  | unbox =>
    cases h
    exact .inr (.inr ⟨hbelow.links_unbox, fun _ => rfl⟩)
  | clone =>
    cases h
    cases hnote : below.note? with
    | none =>
      have henter (built : Ledger) : Layer.enter id below built .clone = built := by
        rw [enter, hnote]
        rfl
      rw [Fault.clone_of_no_note hnote]
      exact .inr (.inr ⟨rfl, henter⟩)
    | some a =>
      have henter (built : Ledger) :
          Layer.enter id below built .clone = Function.update built id (built below.identity) := by
        rw [enter, hnote]
        rfl
      rw [Fault.clone_of_note hnote]
      exact .inr (.inl ⟨rfl, rfl, (Fault.cause?_of_note hnote).symm, henter⟩)

end Layer

theorem Consistent.origin {held : List Fault} {built : Ledger} (h : Consistent held built) {origin : Origin}
    {id : Identity} {f : Fault} (hfresh : Fresh id held) (hmake : origin.make id = .ok f) :
    Consistent (f :: held) (Function.update built id none) := by
  obtain ⟨rfl, hunbox, hcause⟩ := Origin.identity_of_make hmake
  have hnew := h.insert (Origin.flat_make hmake) hunbox hfresh (by simp [hcause])
  rwa [hcause] at hnew

theorem Consistent.layer {held : List Fault} {built : Ledger} (h : Consistent held built) {layer : Layer}
    {id : Identity} {below f : Fault} (hbelow : below ∈ held) (hfresh : Fresh id held)
    (happly : layer.apply id below = .ok f) : Consistent (f :: held) (layer.enter id below built) := by
  have hflat : f.Flat := Layer.flat_apply (h.flat below hbelow) happly
  have hheld : below.links ⊆ linksIn held := links_subset_linksIn hbelow
  rcases Layer.apply_cases (h.flat below hbelow) happly with
    hwraps | ⟨rfl, hunbox, hcause, henter⟩ | ⟨hlinks, henter⟩
  · obtain ⟨rfl, hunbox, hcause⟩ := Layer.identity_of_wraps hwraps happly
    have hnew := h.insert hflat hunbox hfresh (by simpa [hcause] using hheld)
    rw [hcause] at hnew
    rwa [Layer.enter_of_wraps hwraps]
  · -- a clone is made of what the original was, and the ledger knows what that is
    have hmade : ∀ c ∈ f.cause?, c.links ⊆ linksIn held := by
      intro c hc
      rw [hcause] at hc
      have hlinks := Fault.links_of_cause hc
      rw [hlinks] at hheld
      exact (List.cons_subset.1 hheld).2
    have hnew := h.insert hflat hunbox hfresh hmade
    rw [hcause, ← h.built_of_mem hbelow] at hnew
    rwa [henter]
  · rw [henter]
    refine h.mono (List.forall_mem_cons.2 ⟨hflat, h.flat⟩) ?_
    rw [linksIn_cons, hlinks]
    exact List.append_subset.2 ⟨hheld, List.Subset.refl _⟩

theorem Consistent.keep {held kept : List Fault} {built : Ledger} (h : Consistent held built)
    (hkept : ∀ g ∈ kept, ∃ f ∈ held, g ∈ f.chain) : Consistent kept built := by
  refine h.mono ?_ ?_
  · intro g hg
    obtain ⟨f, hf, hchain⟩ := hkept g hg
    exact (h.flat f hf).of_mem_chain hchain
  · intro link hlink
    obtain ⟨g, hg, hlink⟩ := mem_linksIn.1 hlink
    obtain ⟨f, hf, hchain⟩ := hkept g hg
    exact links_subset_linksIn hf (Fault.links_subset hchain hlink)

/-- Whatever is done, links of one identity are one and the same, and the ledger is right. -/
theorem Held.consistent {held : List Fault} {built : Ledger} (h : Held held built) : Consistent held built := by
  induction h with
  | nothing => exact ⟨by simp, by simp [linksIn], by simp [linksIn]⟩
  | origin _ hfresh hmake ih => exact ih.origin hfresh hmake
  | layer _ hbelow hfresh happly ih => exact ih.layer hbelow hfresh happly
  | keep _ hkept ih => exact ih.keep hkept

/-! ### Identity along chains -/

/-- The ledger has the first fault built on the second one. -/
def Ledger.Steps (built : Ledger) (a b : Identity) : Prop := built a = some b

/-- The links of a fault are what the ledger leads to. -/
theorem Fault.exists_link_iff {built : Ledger} {f : Fault}
    (h : ∀ a ∈ f.links, built a.identity = a.cause?.map identity) (id : Identity) :
    (∃ link ∈ f.links, link.identity = id) ↔ ReflTransGen built.Steps f.identity id := by
  induction f using induct_cause with
  | step f ih =>
    -- the ledger has at most one step from `f`, and that leads to the cause
    have hstep := h f.unbox f.unbox_mem_links
    rw [identity_unbox, cause?_unbox] at hstep
    rw [Relation.ReflTransGen.cases_head_iff]
    cases hcause : f.cause? with
    | none =>
      rw [hcause] at hstep
      rw [links_of_no_cause hcause]
      simp [Ledger.Steps, hstep, identity_unbox]
    | some c =>
      rw [hcause] at hstep
      rw [links_of_cause hcause] at h ⊢
      have hc := ih c hcause (List.forall_mem_cons.1 h).2
      simp [Ledger.Steps, hstep, identity_unbox, hc]

namespace Consistent

variable {held : List Fault} {built : Ledger} (h : Consistent held built) {a b c : Fault}
include h

theorem is_iff_reaches (ha : a ∈ held) (b : Fault) : a.is b ↔ ReflTransGen built.Steps a.identity b.identity := by
  rw [Fault.is_iff]
  apply Fault.exists_link_iff
  intro link hlink
  exact h.built_eq link (links_subset_linksIn ha hlink)

theorem is_trans (ha : a ∈ held) (hb : b ∈ held) (hab : a.is b) (hbc : b.is c) : a.is c := by
  rw [h.is_iff_reaches ha] at hab ⊢
  rw [h.is_iff_reaches hb] at hbc
  exact hab.trans hbc

theorem unbox_eq (ha : a ∈ held) (hb : b ∈ held) (hab : a.identity = b.identity) : a.unbox = b.unbox := by
  apply h.same a.unbox (links_subset_linksIn ha a.unbox_mem_links) b.unbox (links_subset_linksIn hb b.unbox_mem_links)
  rw [a.identity_unbox, b.identity_unbox, hab]

/-- A fault of a chain is that of the chain's links which has its identity. -/
theorem unbox_mem_links (ha : a ∈ held) (hb : b ∈ held) (hab : a.is b) : b.unbox ∈ a.links := by
  obtain ⟨link, hlink, hidentity⟩ := Fault.is_iff.1 hab
  have hsame : link = b.unbox := by
    apply h.same link (links_subset_linksIn ha hlink) b.unbox (links_subset_linksIn hb b.unbox_mem_links)
    rw [b.identity_unbox, hidentity]
  rwa [← hsame]

theorem is_antisymm (ha : a ∈ held) (hb : b ∈ held) (hab : a.is b) (hba : b.is a) : a.unbox = b.unbox := by
  rcases Fault.eq_or_length_links_lt (h.unbox_mem_links ha hb hab) with heq | hltB
  · exact heq.symm
  rcases Fault.eq_or_length_links_lt (h.unbox_mem_links hb ha hba) with heq | hltA
  · exact heq
  rw [Fault.length_links_unbox] at hltA hltB
  omega

/-- No fault is among the links that it was made of. -/
theorem not_is_of_cause (ha : a ∈ held) (hcause : a.cause? = some c) : ¬ c.is a := by
  -- the link with the identity of `a` would be `a` itself, but its chain is too short for that
  intro hca
  have hlinks : a.links = a.unbox :: c.links := Fault.links_of_cause hcause
  obtain ⟨link, hlink, hidentity⟩ := Fault.is_iff.1 hca
  have hlinkA : link ∈ a.links := hlinks ▸ List.mem_cons_of_mem _ hlink
  have hsame : link = a.unbox := by
    apply h.same link (links_subset_linksIn ha hlinkA) a.unbox (links_subset_linksIn ha a.unbox_mem_links)
    rw [a.identity_unbox, hidentity]
  have hle := Fault.length_links_le hlink
  rw [hsame, Fault.length_links_unbox, hlinks, List.length_cons] at hle
  omega

/-- What is strictly below a fault is what its cause is. -/
theorem strict_iff (ha : a ∈ held) (target : Fault) :
    (a.is target ∧ ¬ a.sameIdentity target) ↔ ∃ c, a.cause? = some c ∧ c.is target := by
  rw [Fault.is_iff_same_or_cause, Fault.sameIdentity_iff]
  constructor
  · rintro ⟨hsame | hcause, hne⟩
    · exact absurd hsame hne
    · exact hcause
  · rintro ⟨c, hcause, hc⟩
    refine ⟨.inr ⟨c, hcause, hc⟩, fun hsame => h.not_is_of_cause ha hcause ?_⟩
    rw [Fault.is_iff, hsame]
    exact Fault.is_iff.1 hc

end Consistent

namespace Held

variable {held : List Fault} {built : Ledger}

section

variable (h : Held held built) {below f : Fault} (hbelow : below ∈ held) {id : Identity} (hfresh : Fresh id held)
include h hbelow hfresh

theorem is_of_wraps {layer : Layer} (hwraps : layer.Wraps) (happly : layer.apply id below = .ok f) :
    f.is below ∧ ¬ below.is f := by
  obtain ⟨-, -, hcause⟩ := Layer.identity_of_wraps hwraps happly
  have hconsistent := (h.layer hbelow hfresh happly).consistent
  refine ⟨?_, hconsistent.not_is_of_cause List.mem_cons_self hcause⟩
  rw [Fault.is_iff_same_or_cause]
  exact .inr ⟨below, hcause, below.is_refl⟩

/-- A clone of an annotated fault is a new fault above the same causes. -/
theorem is_of_clone (hnote : below.note?.isSome) :
    (∀ target, ((below.clone id).is target ∧ ¬ (below.clone id).sameIdentity target) ↔
        (below.is target ∧ ¬ below.sameIdentity target)) ∧
      ¬ (below.clone id).is below ∧ ¬ below.is (below.clone id) := by
  obtain ⟨a, ha⟩ := Option.isSome_iff_exists.1 hnote
  have hclone : below.clone id = Fault.annotate id a := Fault.clone_of_note ha id
  have hidentity : (below.clone id).identity = id := by
    rw [hclone]
    rfl
  have hcause : (below.clone id).cause? = below.cause? := by
    rw [hclone, Fault.cause?_of_note ha]
    rfl
  have happly : Layer.clone.apply id below = .ok (below.clone id) := rfl
  have hconsistent := (h.layer hbelow hfresh happly).consistent
  have hstrict (target : Fault) :
      ((below.clone id).is target ∧ ¬ (below.clone id).sameIdentity target) ↔
        (below.is target ∧ ¬ below.sameIdentity target) := by
    rw [hconsistent.strict_iff List.mem_cons_self, h.consistent.strict_iff hbelow, hcause]
  have hne : below.identity ≠ id := by
    rw [← below.identity_unbox]
    exact hfresh below.unbox (links_subset_linksIn hbelow below.unbox_mem_links)
  -- each would be strictly below the other, and so strictly below itself
  refine ⟨hstrict, fun his => ?_, fun his => ?_⟩
  · have hdifferent : ¬ (below.clone id).sameIdentity below := by
      rw [Fault.sameIdentity_iff, hidentity]
      exact hne.symm
    exact ((hstrict below).1 ⟨his, hdifferent⟩).2 (Fault.sameIdentity_iff.2 rfl)
  · have hdifferent : ¬ below.sameIdentity (below.clone id) := by
      rw [Fault.sameIdentity_iff, hidentity]
      exact hne
    exact ((hstrict (below.clone id)).2 ⟨his, hdifferent⟩).2 (Fault.sameIdentity_iff.2 rfl)

end

/-- Of faults that are held together one is another where the ledger leads from the one to the other. This is a partial
order of identities: what is put around a fault is strictly above it, and a clone is a new fault above the causes of the
original. -/
theorem is_reachability (h : Held held built) :
    (∀ a ∈ held, ∀ b ∈ held, (a.sameIdentity b ↔ a.unbox = b.unbox) ∧
        (a.is b ↔ ReflTransGen built.Steps a.identity b.identity)) ∧
      (∀ a ∈ held, a.is a) ∧
      (∀ a ∈ held, ∀ b ∈ held, ∀ c ∈ held, a.is b → b.is c → a.is c) ∧
      (∀ a ∈ held, ∀ b ∈ held, a.is b → b.is a → a.sameIdentity b) ∧
      ∀ below ∈ held, ∀ id, Fresh id held →
        (∀ (layer : Layer) (f : Fault), layer.Wraps → layer.apply id below = .ok f → f.is below ∧ ¬ below.is f) ∧
          (below.note?.isSome →
            (∀ target, ((below.clone id).is target ∧ ¬ (below.clone id).sameIdentity target) ↔
                (below.is target ∧ ¬ below.sameIdentity target)) ∧
              ¬ (below.clone id).is below ∧ ¬ below.is (below.clone id)) := by
  have hconsistent := h.consistent
  have hsame {a b : Fault} (hunbox : a.unbox = b.unbox) : a.sameIdentity b := by
    rw [Fault.sameIdentity_iff, ← a.identity_unbox, hunbox, b.identity_unbox]
  refine ⟨fun a ha b hb => ⟨⟨fun hab => ?_, hsame⟩, hconsistent.is_iff_reaches ha b⟩, fun a _ => a.is_refl,
    fun a ha b hb c _ => hconsistent.is_trans ha hb, fun a ha b hb hab hba => ?_, fun below hbelow id hfresh => ?_⟩
  · exact hconsistent.unbox_eq ha hb (Fault.sameIdentity_iff.1 hab)
  · exact hsame (hconsistent.is_antisymm ha hb hab hba)
  · exact ⟨fun layer f => h.is_of_wraps hbelow hfresh, h.is_of_clone hbelow hfresh⟩

/-- Two faults on one base, one of them around a box, and a clone. -/
theorem is_reachability_shared :
    ∃ base wrapped other copy : Fault, ∃ built, Held [copy, other, wrapped, base.box, base] built ∧
      ReflTransGen built.Steps copy.identity base.identity ∧ ¬ ReflTransGen built.Steps other.identity copy.identity ∧
      (wrapped.is base.box ∧ ¬ base.box.is wrapped) ∧ ¬ copy.is wrapped ∧ ¬ wrapped.is copy := by
  let base : Fault := .io 0 (.ofKind .timedOut)
  let wrapped : Fault := (base.box.deleteField 1 "x").fault
  let other : Fault := .foreign 2 "late" (some base)
  let copy : Fault := wrapped.clone 3
  have hmake : (Origin.io (.ofKind .timedOut)).make 0 = .ok base := rfl
  have hbox : Layer.box.apply 1 base = .ok base.box := rfl
  have hwrap : (Layer.deleteField "x").apply 1 base.box = .ok wrapped := rfl
  have hforeign : (Layer.foreign "late").apply 2 base = .ok other := rfl
  have hclone : Layer.clone.apply 3 wrapped = .ok copy := rfl
  have hbase : Held [base] _ := Held.nothing.origin (by decide) hmake
  have hboxed : Held [base.box, base] _ := hbase.layer (by simp) (by decide) hbox
  have hwrapped : Held [wrapped, base.box, base] _ := hboxed.layer (by simp) (by decide) hwrap
  have hother : Held [other, wrapped, base.box, base] _ := hwrapped.layer (by simp) (by decide) hforeign
  have hcopy : Held [copy, other, wrapped, base.box, base] _ := hother.layer (by simp) (by decide) hclone
  refine ⟨base, wrapped, other, copy, _, hcopy, ?_, ?_, ?_, ?_⟩
  · obtain ⟨hreaches, -⟩ := is_reachability hcopy
    exact (hreaches copy (by simp) base (by simp)).2.1 (by decide)
  · obtain ⟨hreaches, -⟩ := is_reachability hcopy
    intro hother
    exact absurd ((hreaches other (by simp) copy (by simp)).2.2 hother) (by decide)
  · obtain ⟨-, -, -, -, hoperations⟩ := is_reachability hboxed
    exact (hoperations base.box (by simp) 1 (by decide)).1 (.deleteField "x") wrapped trivial rfl
  · obtain ⟨-, -, -, -, hoperations⟩ := is_reachability hother
    exact ((hoperations wrapped (by simp) 3 (by decide)).2 rfl).2

end Held

end Mishap
