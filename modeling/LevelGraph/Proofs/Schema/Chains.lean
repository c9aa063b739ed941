import LevelGraph.Schema.Indexing
import Mathlib.Data.List.Chain
import Mathlib.Data.List.Duplicate
import Mathlib.Data.List.Perm.Subperm
import Mathlib.Logic.Relation
import Mathlib.Order.WellFounded

/-!
# Base chains

Every type has at most one base, so the types met by following base links from one type form
a chain. Whether a chain ends is decided by a walk that gives up after as many links as there
are types. `endless_iff_meets_loop` shows that this bound is neither too small nor too large:
a chain that gives out ends within it, and one that goes on beyond it has passed some type
twice, so it runs into a loop and never ends.

Where every chain ends, base links are well-founded. Whatever follows them comes to an end,
and a type's ancestry is the type before the ancestry of its base.
-/

namespace LevelGraph

open Relation

variable {types : List TypeDef} {type base : TypeId}

/-- A type derives from another one directly. -/
def Extends (types : List TypeDef) (derived base : TypeId) : Prop := baseIn types derived = some base

/-- A type has at most one base. -/
theorem Extends.unique {derived base other : TypeId} (link : Extends types derived base)
    (second : Extends types derived other) : base = other :=
  Option.some.inj (link.symm.trans second)

/-- Of two types that links from one type lead to, links lead from the one to the other. -/
theorem reaches_total {first second : TypeId} (toFirst : ReflTransGen (Extends types) type first)
    (toSecond : ReflTransGen (Extends types) type second) :
    ReflTransGen (Extends types) first second ∨ ReflTransGen (Extends types) second first := by
  have unique : Relator.RightUnique (Extends types) := fun _ _ _ link other => link.unique other
  exact ReflTransGen.total_of_right_unique unique toFirst toSecond

/-- What has a base is declared. -/
theorem Extends.declared (link : Extends types type base) : type.index < types.length := by
  obtain ⟨definition, found, -⟩ := Option.bind_eq_some_iff.mp link
  exact (List.getElem?_eq_some_iff.mp found).1

/-- The chain of base links that starts at a type comes to an end. -/
abbrev Ends (types : List TypeDef) (type : TypeId) : Prop :=
  Acc (fun base derived => Extends types derived base) type

/-- The bases met on the way form a chain. -/
theorem isChain_chainIn (links : Nat) (type : TypeId) :
    (chainIn types links type).IsChain (Extends types) := by
  induction links generalizing type with
  | zero => exact .nil
  | succ links inductionHypothesis =>
    rw [chainIn]
    cases link : baseIn types type with
    | none => exact List.isChain_singleton _
    | some base =>
      have later := inductionHypothesis base
      cases links with
      | zero => exact List.isChain_singleton _
      | succ links =>
        simp only [chainIn] at later ⊢
        exact List.isChain_cons_cons.mpr ⟨link, later⟩

/-- Every type met on the way up is reached from the first by base links. -/
theorem reaches_of_mem_chainIn {links : Nat} {type met : TypeId}
    (member : met ∈ chainIn types links type) : ReflTransGen (Extends types) type met := by
  induction links generalizing type with
  | zero => cases member
  | succ links inductionHypothesis =>
    rw [chainIn] at member
    rcases List.mem_cons.mp member with here | later
    · exact here ▸ .refl
    · split at later
      · cases later
      · next link => exact .head link (inductionHypothesis later)

/-- A chain that ends within so many links ends. -/
theorem ends_of_chainEndsWithin {links : Nat} {type : TypeId}
    (ends : chainEndsWithin types links (some type) = true) : Ends types type := by
  induction links generalizing type with
  | zero => cases ends
  | succ links inductionHypothesis =>
    constructor
    intro base link
    rw [chainEndsWithin, show baseIn types type = some base from link] at ends
    exact inductionHypothesis ends

/-- A chain that does not end within so many links has met that many types, all with a base. -/
theorem chainIn_of_not_ends {links : Nat} {type : TypeId}
    (goesOn : chainEndsWithin types links (some type) = false) :
    (chainIn types links type).length = links ∧
      ∀ met ∈ chainIn types links type, met.index < types.length := by
  induction links generalizing type with
  | zero => exact ⟨rfl, fun met member => nomatch member⟩
  | succ links inductionHypothesis =>
    rw [chainEndsWithin] at goesOn
    cases link : baseIn types type with
    | none =>
      rw [link, chainEndsWithin] at goesOn
      cases goesOn
    | some base =>
      rw [link] at goesOn
      obtain ⟨length, inside⟩ := inductionHypothesis goesOn
      have extends_ : Extends types type base := link
      simp only [chainIn, link, List.length_cons, length, List.forall_mem_cons, true_and]
      exact ⟨extends_.declared, inside⟩

/-- In a chain of links a type that is met twice is linked to itself. -/
theorem loop_of_not_nodup {met : List TypeId} (chain : met.IsChain (Extends types))
    (repeated : ¬ met.Nodup) : ∃ looped ∈ met, TransGen (Extends types) looped looped := by
  obtain ⟨looped, twice⟩ := List.exists_duplicate_iff_not_nodup.mpr repeated
  have linked : met.Pairwise (TransGen (Extends types)) :=
    List.isChain_iff_pairwise.mp (chain.imp fun _ _ link => .single link)
  have pair := linked.sublist (List.duplicate_iff_sublist.mp twice)
  exact ⟨looped, twice.mem, List.rel_of_pairwise_cons pair List.mem_cons_self⟩

/-- More types than there are cannot all be different. -/
theorem not_nodup_of_longer {met : List TypeId} (inside : ∀ type ∈ met, type.index < types.length)
    (longer : types.length < met.length) : ¬ met.Nodup := by
  intro distinct
  have indices : (met.map TypeId.index).Nodup :=
    distinct.map fun _ _ same => TypeId.ext same
  have within : met.map TypeId.index ⊆ List.range types.length := by
    intro index member
    obtain ⟨type, listed, rfl⟩ := List.mem_map.mp member
    exact List.mem_range.mpr (inside type listed)
  have fits := (indices.subperm within).length_le
  simp only [List.length_map, List.length_range] at fits
  omega

/-- The end of a chain is also the end of what is left of it on the way. -/
theorem Ends.of_reaches {met : TypeId} (ends : Ends types type)
    (reaches : ReflTransGen (Extends types) type met) : Ends types met := by
  induction reaches with
  | refl => exact ends
  | tail _ link inductionHypothesis => exact inductionHypothesis.inv link

/-- Where every way along links comes to an end, none leads back to where it started. -/
theorem not_transGen_of_acc {α : Type} {link : α → α → Prop} {start : α}
    (ends : Acc (fun next here => link here next) start) : ¬ TransGen link start start := by
  have through : Acc (fun next here => TransGen link here next) start :=
    Subrelation.accessible (fun way => way.swap) ends.transGen
  induction through with
  | intro start _ inductionHypothesis =>
    exact fun loop => inductionHypothesis start loop ends loop

/-- A chain that reaches a loop never ends. -/
theorem not_ends_of_loop {looped : TypeId} (reaches : ReflTransGen (Extends types) type looped)
    (loop : TransGen (Extends types) looped looped) : ¬ Ends types type :=
  fun ends => not_transGen_of_acc (ends.of_reaches reaches) loop

/-- The bound on the walk is exact. A chain that goes on after as many links as there are types
meets some type twice, so it has run into a loop and never ends.

Proof: the types met all have a base, so they are declared. There is one more of them than there
are declared types. -/
theorem endless_iff_meets_loop :
    chainEndsWithin types (types.length + 1) (some type) = false ↔
      ∃ looped, ReflTransGen (Extends types) type looped ∧
        TransGen (Extends types) looped looped := by
  constructor
  · intro goesOn
    obtain ⟨length, inside⟩ := chainIn_of_not_ends goesOn
    have repeated : ¬ (chainIn types (types.length + 1) type).Nodup :=
      not_nodup_of_longer inside (by omega)
    obtain ⟨looped, member, loop⟩ := loop_of_not_nodup (isChain_chainIn _ type) repeated
    exact ⟨looped, reaches_of_mem_chainIn member, loop⟩
  · rintro ⟨looped, reaches, loop⟩
    rw [← Bool.not_eq_true]
    exact fun ends => not_ends_of_loop reaches loop (ends_of_chainEndsWithin ends)

/-- The walk tells whether a chain ends. -/
theorem ends_iff : Ends types type ↔ chainEndsWithin types (types.length + 1) (some type) = true := by
  constructor
  · intro ends
    rw [← Bool.not_eq_false]
    intro goesOn
    obtain ⟨looped, reaches, loop⟩ := endless_iff_meets_loop.mp goesOn
    exact not_ends_of_loop reaches loop ends
  · exact ends_of_chainEndsWithin

/-- Links to spare change nothing about a chain that ends without them. -/
theorem chainIn_succ_of_ends {links : Nat} {type : TypeId}
    (ends : chainEndsWithin types links (some type) = true) :
    chainIn types (links + 1) type = chainIn types links type := by
  induction links generalizing type with
  | zero => cases ends
  | succ links inductionHypothesis =>
    rw [chainEndsWithin] at ends
    rw [chainIn, chainIn]
    cases link : baseIn types type with
    | none => rfl
    | some base =>
      rw [link] at ends
      simp only [inductionHypothesis ends]

end LevelGraph
