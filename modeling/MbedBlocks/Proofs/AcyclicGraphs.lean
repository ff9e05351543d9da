import MbedBlocks.Proofs.Embeddings
import MbedBlocks.Proofs.NestedBlocks
import Mathlib.Logic.Relation

/-!
# Graphs without cycles

Links lead from a block to all that is nested in it, so all blocks that are in progress lead to the
one that is emitted. In a graph without cycles no block is met inside itself, and it becomes the
same code wherever it is emitted.
-/

namespace MbedBlocks

open Code (Level Fragment)

namespace Graph

/-- A block with the one id names the other in a link. -/
def LinksTo (g : Graph) (i j : String) : Prop := ∃ b ∈ g.blocks, b.id = i ∧ j ∈ b.links

/-- One or more links lead from the one id to the other. -/
def Leads (g : Graph) : String → String → Prop := Relation.TransGen g.LinksTo

/-- No links lead back to where they start. -/
def Acyclic (g : Graph) : Prop := ∀ id, ¬g.Leads id id

variable {g : Graph} {b c : Block} {board : Board} {indent : String} {busy busy' : List String}

/-- Links that go down in rank do not come back. -/
lemma acyclic_of_rank (rank : String → Nat)
    (h : ∀ b ∈ g.blocks, ∀ id ∈ b.links, rank id < rank b.id) : g.Acyclic := by
  have hdown {i j : String} (hij : g.Leads i j) : rank j < rank i := by
    induction hij with
    | single hlink =>
      obtain ⟨b, hb, rfl, hid⟩ := hlink
      exact h b hb _ hid
    | tail _ hlink ih =>
      obtain ⟨b, hb, rfl, hid⟩ := hlink
      exact (h b hb _ hid).trans ih
  intro id hid
  exact lt_irrefl _ (hdown hid)

/-! ### What a block leads to -/

lemma leads_of_link {id : String} (hb : b ∈ g.blocks) (hid : id ∈ b.links) : g.Leads b.id id :=
  .single ⟨b, hb, rfl, hid⟩

lemma eq_or_leads_of_mem_chainFrom {seen : List String} {id : String}
    (hc : c ∈ g.chainFrom seen id) : c.id = id ∨ g.Leads id c.id := by
  fun_induction chainFrom g seen id with
  | case1 => simp at hc
  | case2 => simp at hc
  | case3 seen id _ b hget =>
    rw [List.mem_singleton.mp hc]
    exact .inl (get?_mem hget).2
  | case4 seen id _ b hget next hnext _ ih =>
    obtain ⟨hb, rfl⟩ := get?_mem hget
    have hfirst : g.Leads b.id next := leads_of_link hb (Block.mem_links_of_next hnext)
    rcases List.mem_cons.mp hc with rfl | hc
    · exact .inl rfl
    · rcases ih hc with rfl | hrest
      · exact .inr hfirst
      · exact .inr (hfirst.trans hrest)

lemma Nested.leads (h : g.Nested b c) (hb : b ∈ g.blocks) : g.Leads b.id c.id := by
  cases h with
  | value h =>
    obtain ⟨id, hid, hget⟩ := Option.bind_eq_some_iff.mp h
    obtain ⟨-, rfl⟩ := get?_mem hget
    exact leads_of_link hb (Block.mem_links_of_value hid)
  | body hfirst h =>
    have hlink := leads_of_link hb (Block.mem_links_of_statement hfirst)
    rcases eq_or_leads_of_mem_chainFrom h with rfl | hrest
    · exact hlink
    · exact hlink.trans hrest

/-! ### Blocks in progress do not matter -/

/-- Emitted inside a block, blocks have those above it in progress and itself. -/
lemma leads_of_busy (hbusy : ∀ i ∈ busy, g.Leads i b.id) (hc : g.Leads b.id c.id) :
    ∀ i ∈ b.id :: busy, g.Leads i c.id := by
  intro i hi
  rcases List.mem_cons.mp hi with rfl | hi
  · exact hc
  · exact (hbusy i hi).trans hc

lemma Acyclic.not_mem (hg : g.Acyclic) (hbusy : ∀ i ∈ busy, g.Leads i b.id) : b.id ∉ busy :=
  fun hmem => hg b.id (hbusy b.id hmem)

theorem Acyclic.emitWithin_eq (hg : g.Acyclic) (hb : b ∈ g.blocks)
    (hbusy : ∀ i ∈ busy, g.Leads i b.id) (hbusy' : ∀ i ∈ busy', g.Leads i b.id) :
    g.emitWithin board indent busy b = g.emitWithin board indent busy' b := by
  induction busy, b using walk_induction (g := g) generalizing busy' with
  | inProgress busy b hmem => exact absurd hmem (hg.not_mem hbusy)
  | unlisted busy b hmem hk =>
    rw [emitWithin_of_unlisted hmem hk, emitWithin_of_unlisted (hg.not_mem hbusy') hk]
  | listed busy b k hmem hk ih =>
    have hsite : g.site board indent (g.emitter board indent (b.id :: busy)) b =
        g.site board indent (g.emitter board indent (b.id :: busy')) b :=
      site_congr fun c hc hnested =>
        have hlead := hnested.leads hb
        ih c hc hc (leads_of_busy hbusy hlead) (leads_of_busy hbusy' hlead)
    rw [emitWithin_of_kind hmem hk, emitWithin_of_kind (hg.not_mem hbusy') hk]
    dsimp only
    rw [hsite]

/-- The sockets of a block hold the same code in the walk as when no block is in progress. -/
theorem Acyclic.site_eq (hg : g.Acyclic) (hb : b ∈ g.blocks)
    (hbusy : ∀ i ∈ busy, g.Leads i b.id) :
    g.site board indent (g.emitter board indent (b.id :: busy)) b =
      g.site board indent (g.emitter board indent []) b :=
  site_congr fun _ hc hnested =>
    hg.emitWithin_eq hc (leads_of_busy hbusy (hnested.leads hb)) (by simp)

end Graph

end MbedBlocks
