import MbedBlocks.Graph
import Mathlib.Data.Finset.Card
import Mathlib.Data.List.Chain
import Mathlib.Logic.Relator
import Mathlib.Tactic.Lemma
import Mathlib.Tactic.SplitIfs

/-!
# Chains of next links

Next links are followed from an id on until there is none, one leads nowhere, or one comes back to a
block that has been met. The way back may lead into the middle of the chain. What is met is the only
list of distinct blocks that follow one another from the id and cannot be continued.
-/

namespace MbedBlocks

namespace Graph

/-- The next link of the one block leads to the other. -/
def Follows (g : Graph) (b c : Block) : Prop := b.next.bind g.get? = some c

/-- Distinct blocks that follow one another from an id on, as far as that goes. -/
structure FullChain (g : Graph) (first : String) (chain : List Block) : Prop where
  head : chain.head? = g.get? first
  follows : chain.IsChain g.Follows
  distinct : (chain.map Block.id).Nodup
  stops : ∀ last ∈ chain.getLast?, ∀ id ∈ last.next,
    g.get? id = none ∨ id ∈ chain.map Block.id

variable {g : Graph} {seen : List String} {first id : String} {b c : Block}

/-! ### What is met -/

lemma head?_chainFrom (g : Graph) (seen : List String) (id : String) :
    (g.chainFrom seen id).head? = if id ∈ seen then none else g.get? id := by
  fun_cases chainFrom g seen id with
  | case1 hseen => simp [hseen]
  | case2 hseen hget => simp [hseen, hget]
  | case3 hseen b hget hnext => simp [hseen, hget]
  | case4 hseen b hget next hnext => simp [hseen, hget]

lemma id_notMem_of_mem_chainFrom (hb : b ∈ g.chainFrom seen id) : b.id ∉ seen := by
  fun_induction chainFrom g seen id with
  | case1 => cases hb
  | case2 => cases hb
  | case3 seen id hseen c hget _ =>
    rw [List.mem_singleton.mp hb, (get?_mem hget).2]
    exact hseen
  | case4 seen id hseen c hget next _ _ ih =>
    rcases List.mem_cons.mp hb with rfl | hb
    · rw [(get?_mem hget).2]
      exact hseen
    · exact fun hmem => ih hb (List.mem_cons_of_mem id hmem)

lemma isChain_chainFrom (g : Graph) (seen : List String) (id : String) :
    (g.chainFrom seen id).IsChain g.Follows := by
  fun_induction chainFrom g seen id with
  | case1 => exact .nil
  | case2 => exact .nil
  | case3 => exact .singleton _
  | case4 seen id hseen b hget next hnext _ ih =>
    refine ih.cons fun c hc => ?_
    rw [head?_chainFrom, Option.mem_def] at hc
    split_ifs at hc
    rw [Follows, hnext]
    exact hc

lemma nodup_chainFrom (g : Graph) (seen : List String) (id : String) :
    ((g.chainFrom seen id).map Block.id).Nodup := by
  fun_induction chainFrom g seen id with
  | case1 => exact .nil
  | case2 => exact .nil
  | case3 => exact List.nodup_singleton _
  | case4 seen id hseen b hget next hnext _ ih =>
    refine List.nodup_cons.mpr ⟨fun hmem => ?_, ih⟩
    obtain ⟨c, hc, hid⟩ := List.mem_map.mp hmem
    refine id_notMem_of_mem_chainFrom hc ?_
    rw [hid, (get?_mem hget).2]
    exact List.mem_cons_self

lemma stops_chainFrom {last : Block} (hlast : last ∈ (g.chainFrom seen id).getLast?) {link : String}
    (hlink : link ∈ last.next) :
    g.get? link = none ∨ link ∈ seen ∨ link ∈ (g.chainFrom seen id).map Block.id := by
  fun_induction chainFrom g seen id with
  | case1 => cases hlast
  | case2 => cases hlast
  | case3 seen id hseen b hget hnext =>
    obtain rfl : b = last := by simpa using hlast
    rw [hnext] at hlink
    cases hlink
  | case4 seen id hseen b hget next hnext _ ih =>
    obtain ⟨-, rfl⟩ := get?_mem hget
    cases hrest : g.chainFrom (b.id :: seen) next with
    | nil =>
      -- Nothing follows, because the link leads nowhere or back.
      obtain rfl : b = last := by simpa [hrest] using hlast
      obtain rfl : next = link := Option.some.inj (hnext.symm.trans hlink)
      have hhead := g.head?_chainFrom (b.id :: seen) next
      rw [hrest] at hhead
      split_ifs at hhead with hback
      · rcases List.mem_cons.mp hback with rfl | hback
        · exact .inr (.inr List.mem_cons_self)
        · exact .inr (.inl hback)
      · exact .inl hhead.symm
    | cons c rest =>
      rw [hrest, List.getLast?_cons_cons, ← hrest] at hlast
      rcases ih hlast with hnone | hseen | hmem
      · exact .inl hnone
      · rcases List.mem_cons.mp hseen with rfl | hseen
        · exact .inr (.inr List.mem_cons_self)
        · exact .inr (.inl hseen)
      · exact .inr (.inr (hrest ▸ List.mem_cons_of_mem _ hmem))

theorem fullChain_chain (g : Graph) (first : String) : g.FullChain first (g.chain first) where
  head := (g.head?_chainFrom [] first).trans (if_neg List.not_mem_nil)
  follows := g.isChain_chainFrom [] first
  distinct := g.nodup_chainFrom [] first
  stops last hlast link hlink := by
    rcases stops_chainFrom hlast hlink with hnone | hseen | hmem
    · exact .inl hnone
    · cases hseen
    · exact .inr hmem

/-! ### Nothing else is a full chain -/

lemma rightUnique_follows (g : Graph) : Relator.RightUnique g.Follows :=
  fun _ _ _ hb hc => Option.some.inj (hb.symm.trans hc)

end Graph

/-- Of two chains of a relation that leads to one successor at most, the longer one continues the
other. -/
lemma prefix_or_prefix_of_isChain {α : Type} {R : α → α → Prop} (hR : Relator.RightUnique R)
    {l l' : List α} (h : l.IsChain R) (h' : l'.IsChain R) (hhead : l.head? = l'.head?) :
    l <+: l' ∨ l' <+: l := by
  induction l generalizing l' with
  | nil => exact .inl ⟨l', rfl⟩
  | cons a l ih =>
    cases l' with
    | nil => exact .inr ⟨a :: l, rfl⟩
    | cons a' l' =>
      obtain rfl : a = a' := Option.some.inj hhead
      cases l with
      | nil => exact .inl ⟨l', rfl⟩
      | cons b l =>
        cases l' with
        | nil => exact .inr ⟨b :: l, rfl⟩
        | cons b' l' =>
          obtain ⟨hb, htail⟩ := List.isChain_cons_cons.mp h
          obtain ⟨hb', htail'⟩ := List.isChain_cons_cons.mp h'
          obtain rfl : b = b' := hR hb hb'
          simpa only [List.prefix_cons_inj] using ih htail htail' rfl

namespace Graph

variable {g : Graph} {first : String} {chain chain' : List Block}

/-- A full chain cannot be continued by another. -/
lemma FullChain.eq_of_continued (h : g.FullChain first chain) (h' : g.FullChain first chain')
    (hcontinued : chain <+: chain') : chain = chain' := by
  obtain ⟨rest, rfl⟩ := hcontinued
  cases rest with
  | nil => exact (List.append_nil chain).symm
  | cons c rest =>
    exfalso
    cases hlast : chain.getLast? with
    | none =>
      obtain rfl := List.getLast?_eq_none_iff.mp hlast
      have hhead : some c = none := h'.head.trans h.head.symm
      cases hhead
    | some last =>
      have hfollows : g.Follows last c := (List.isChain_append.mp h'.follows).2.2 last hlast c rfl
      obtain ⟨id, hid, hget⟩ := Option.bind_eq_some_iff.mp hfollows
      rcases h.stops last hlast id hid with hnone | hmem
      · rw [hget] at hnone
        cases hnone
      · -- The block that follows is in the chain already, so it would be there twice.
        have hdistinct := h'.distinct
        rw [List.map_append, List.nodup_append] at hdistinct
        exact hdistinct.2.2 id hmem c.id List.mem_cons_self (get?_mem hget).2.symm

theorem FullChain.unique (h : g.FullChain first chain) (h' : g.FullChain first chain') :
    chain = chain' := by
  have hhead : chain.head? = chain'.head? := h.head.trans h'.head.symm
  rcases prefix_or_prefix_of_isChain g.rightUnique_follows h.follows h'.follows hhead with hp | hp
  · exact h.eq_of_continued h' hp
  · exact (h'.eq_of_continued h hp).symm

end Graph

/-! ### Link by link -/

/-- How far next links have been followed: the blocks met, the ids looked up and the id at hand. -/
structure Pursuit where
  met : List Block := []
  seen : List String := []
  cursor : Option String

namespace Pursuit

/-- Looks up one more id. The pursuit is over if there is none, or one that has been looked up
before or that means no block. -/
def step? (g : Graph) (p : Pursuit) : Option Pursuit :=
  match p.cursor with
  | none => none
  | some id =>
    if id ∈ p.seen then none
    else (g.get? id).map fun b => { met := p.met ++ [b], seen := id :: p.seen, cursor := b.next }

/-- The pursuit after a number of look-ups, if it goes on for as long. -/
def advance (g : Graph) : Nat → Pursuit → Option Pursuit
  | 0, p => some p
  | n + 1, p => (p.step? g).bind (advance g n)

variable {g : Graph}

/-- Run: the pursuit is over when the rest of the chain has been met. -/
lemma advance_chainFrom (g : Graph) (met : List Block) (seen : List String) (id : String) :
    ∃ p, advance g (g.chainFrom seen id).length ⟨met, seen, some id⟩ = some p ∧
      p.step? g = none ∧ p.met = met ++ g.chainFrom seen id := by
  fun_induction Graph.chainFrom g seen id generalizing met with
  | case1 seen id hseen =>
    exact ⟨_, rfl, if_pos hseen, (List.append_nil met).symm⟩
  | case2 seen id hseen hget =>
    refine ⟨_, rfl, ?_, (List.append_nil met).symm⟩
    simp [step?, hget]
  | case3 seen id hseen b hget hnext =>
    have hstep : step? g ⟨met, seen, some id⟩ = some ⟨met ++ [b], id :: seen, none⟩ := by
      simp [step?, hseen, hget, hnext]
    refine ⟨⟨met ++ [b], id :: seen, none⟩, ?_, rfl, rfl⟩
    exact congrArg (Option.bind · (advance g 0)) hstep
  | case4 seen id hseen b hget next hnext _ ih =>
    have hstep : step? g ⟨met, seen, some id⟩ = some ⟨met ++ [b], id :: seen, some next⟩ := by
      simp [step?, hseen, hget, hnext]
    obtain ⟨p, hadvance, hover, hmet⟩ := ih (met ++ [b])
    refine ⟨p, ?_, hover, by rw [hmet, List.append_assoc]; rfl⟩
    rw [List.length_cons, advance, hstep]
    exact hadvance

end Pursuit

lemma Graph.length_chain_le (g : Graph) (first : String) :
    (g.chain first).length ≤ (g.blocks.map Block.id).toFinset.card := by
  rw [← List.length_map Block.id,
    ← List.toFinset_card_of_nodup (g.fullChain_chain first).distinct]
  refine Finset.card_le_card fun id hid => ?_
  obtain ⟨b, hb, rfl⟩ := List.mem_map.mp (List.mem_toFinset.mp hid)
  exact List.mem_toFinset.mpr (List.mem_map_of_mem (mem_of_mem_chain hb))

namespace Proofs

/-- On every graph, from every id, the pursuit of next links is over after no more look-ups that
succeed than there are ids. It has met the chain, which is empty exactly if the id means no block,
and which is the only full chain from there. -/
theorem chain_is_full (g : Graph) (first : String) :
    (∃ n p, n ≤ (g.blocks.map Block.id).toFinset.card ∧
      Pursuit.advance g n { cursor := some first } = some p ∧ p.step? g = none ∧
      p.met = g.chain first) ∧
    (g.chain first = [] ↔ g.get? first = none) ∧
    ∀ chain, g.FullChain first chain ↔ chain = g.chain first := by
  have hfull := g.fullChain_chain first
  refine ⟨?_, ?_, fun chain => ⟨fun h => h.unique hfull, fun h => h ▸ hfull⟩⟩
  · obtain ⟨p, hadvance, hover, hmet⟩ := Pursuit.advance_chainFrom g [] [] first
    exact ⟨_, p, g.length_chain_le first, hadvance, hover, hmet⟩
  · rw [← hfull.head, List.head?_eq_none_iff]

end Proofs

end MbedBlocks
