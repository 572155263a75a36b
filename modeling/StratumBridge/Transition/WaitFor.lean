import Mathlib.Order.WellFoundedSet

/-!
# Waits-for relations

Parties wait for one another.  Without a cycle every chain of waiting ends at
somebody who waits for nobody; a cycle can only be closed by a party that begins
to wait for one that, directly or not, already waits for it.
-/

namespace StratumBridge.Transition

open Relation

universe u

variable {α : Type u} {waits before after : α → α → Prop} {source : α} {fresh : α → Prop}

/-- Nobody waits for itself, directly or through others. -/
def Acyclic (waits : α → α → Prop) : Prop :=
  ∀ party, ¬ TransGen waits party party

theorem acyclic_of_empty (nobody : ∀ first second, ¬ waits first second) : Acyclic waits := by
  intro party cycle
  obtain ⟨next, edge, -⟩ := TransGen.head'_iff.mp cycle
  exact nobody party next edge

/-- Fewer waits close no cycle. -/
theorem Acyclic.mono (acyclic : Acyclic before)
    (fewer : ∀ first second, after first second → before first second) : Acyclic after :=
  fun party cycle => acyclic party (TransGen.mono fewer _ _ cycle)

/-- A chain is old, or its beginning already leads to the party with the new
waits. -/
theorem chain_or_reaches_source
    (edges : ∀ first second, after first second →
      before first second ∨ first = source ∧ fresh second) {first last : α}
    (chain : ReflTransGen after first last) :
    ReflTransGen before first last ∨ ReflTransGen before first source := by
  induction chain with
  | refl => exact .inl .refl
  | tail _ edge ih =>
      rcases ih with old | reaches
      · rcases edges _ _ edge with kept | ⟨rfl, -⟩
        · exact .inl (old.tail kept)
        · exact .inr old
      · exact .inr reaches

/-- A cycle is old, or leads through one of the new waits. -/
theorem cycle_or_fresh
    (edges : ∀ first second, after first second →
      before first second ∨ first = source ∧ fresh second) {first last : α}
    (chain : TransGen after first last) :
    TransGen before first last ∨
      ∃ target, fresh target ∧ ReflTransGen after first source ∧
        ReflTransGen after target last := by
  induction chain with
  | single edge =>
      rcases edges _ _ edge with kept | ⟨rfl, new⟩
      · exact .inl (.single kept)
      · exact .inr ⟨_, new, .refl, .refl⟩
  | tail walked edge ih =>
      rcases edges _ _ edge with kept | ⟨rfl, new⟩
      · rcases ih with old | ⟨target, new, reaches, leads⟩
        · exact .inl (old.tail kept)
        · exact .inr ⟨target, new, reaches, leads.tail edge⟩
      · exact .inr ⟨_, new, walked.to_reflTransGen, .refl⟩

/-- One party begins to wait for others, none of which waits for it. -/
theorem Acyclic.extend (acyclic : Acyclic before) (source : α) (fresh : α → Prop)
    (edges : ∀ first second, after first second →
      before first second ∨ first = source ∧ fresh second)
    (apart : ∀ target, fresh target → ¬ ReflTransGen before target source) : Acyclic after := by
  intro party cycle
  rcases cycle_or_fresh edges cycle with old | ⟨target, new, reaches, leads⟩
  · exact acyclic party old
  · have returns : ReflTransGen after target source := leads.trans reaches
    rcases chain_or_reaches_source edges returns with old | old <;>
      exact apart target new old

/-- With finitely many waiting parties and no cycle, every chain of waiting ends
at a party that waits for nobody. -/
theorem Acyclic.exists_idle (acyclic : Acyclic waits)
    (finite : {party | ∃ other, waits party other}.Finite) (party : α) :
    ∃ idle, ReflTransGen waits party idle ∧ ∀ other, ¬ waits idle other := by
  by_contra stuck
  push Not at stuck
  have reached : {other | ReflTransGen waits party other}.Finite := by
    apply finite.subset
    intro other chain
    exact stuck other chain
  have : IsTrans α (flip (TransGen waits)) := ⟨fun _ _ _ first second => second.trans first⟩
  have : Std.Irrefl (flip (TransGen waits)) := ⟨acyclic⟩
  have : IsStrictOrder α (flip (TransGen waits)) := ⟨⟩
  have founded : {other | ReflTransGen waits party other}.WellFoundedOn
      (flip (TransGen waits)) := reached.wellFoundedOn
  rcases WellFounded.has_min founded Set.univ ⟨⟨party, .refl⟩, trivial⟩ with
    ⟨⟨last, chain⟩, -, least⟩
  obtain ⟨other, edge⟩ := stuck last chain
  exact least ⟨other, chain.tail edge⟩ trivial (.single edge)

end StratumBridge.Transition
