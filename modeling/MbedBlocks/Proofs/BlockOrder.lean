import MbedBlocks.Proofs.CheckOutcome

/-!
# The order of blocks in a check

A check reads the links, the setup blocks and the numbers of the whole graph, and it writes to the
blocks one after the other. Where ids differ, none of what it reads depends on the order in which
the blocks are listed, and each block takes its own changes only. So the blocks can be listed in
any order.
-/

namespace MbedBlocks

/-! ### What a check reads -/

namespace Graph

variable {g g' : Graph} {board : Board}

lemma Distinct.perm (hg : g.Distinct) (h : g'.blocks.Perm g.blocks) : g'.Distinct :=
  (h.map Block.id).nodup_iff.mpr hg

lemma Distinct.get?_eq_some_iff (hg : g.Distinct) {id : String} {b : Block} :
    g.get? id = some b ↔ b ∈ g.blocks ∧ b.id = id := by
  constructor
  · exact get?_mem
  · rintro ⟨hb, rfl⟩
    exact hg.get?_eq hb

/-- An id means the same block in whatever order they are listed. -/
lemma get?_of_perm (hg : g.Distinct) (h : g'.blocks.Perm g.blocks) (id : String) :
    g'.get? id = g.get? id := by
  refine Option.ext fun b => ?_
  rw [(hg.perm h).get?_eq_some_iff, hg.get?_eq_some_iff, h.mem_iff]

lemma configured_of_perm (h : g'.blocks.Perm g.blocks) (family : Family) (unit : String) :
    g'.Configured board family unit ↔ g.Configured board family unit := by
  unfold Configured
  simp only [h.mem_iff]

end Graph

namespace Check

variable {g g' : Graph} {board : Board}

lemma contains_instances_of_perm (h : g'.blocks.Perm g.blocks) (pair : Family × String) :
    (instances g' board).contains pair = (instances g board).contains pair := by
  obtain ⟨family, unit⟩ := pair
  rw [Bool.eq_iff_iff, List.contains_iff_mem, List.contains_iff_mem, mem_instances_iff,
    mem_instances_iff, Graph.configured_of_perm h]

lemma ownUpdates_of_perm (hg : g.Distinct) (h : g'.blocks.Perm g.blocks) (b : Block) :
    ownUpdates g' board b = ownUpdates g board b := by
  have hget : g'.get? = g.get? := funext (Graph.get?_of_perm hg h)
  unfold ownUpdates
  refine List.flatMap_congr fun capability _ => ?_
  cases capability with
  | pairedSetup setup => rfl
  | namedSetup setup => rfl
  | uses use => simp only [capabilityUpdates, usage, contains_instances_of_perm h]
  | toneFrequency => simp only [capabilityUpdates, tone, literalFrequency?, hget]

lemma updates_of_perm (hg : g.Distinct) (h : g'.blocks.Perm g.blocks) :
    (updates g' board).Perm (updates g board) := by
  change (g'.blocks.flatMap fun b => (ownUpdates g' board b).map fun u => (b.id, u)).Perm
    (g.blocks.flatMap fun b => (ownUpdates g board b).map fun u => (b.id, u))
  simp only [ownUpdates_of_perm hg h]
  exact h.flatMap_right _

end Check

/-! ### What a check leaves and reports -/

namespace Graph

variable {g g' : Graph} {board : Board}

lemma blocks_checkConsistency_of_perm (hg : g.Distinct) (h : g'.blocks.Perm g.blocks) :
    (g'.checkConsistency board).1.blocks.Perm (g.checkConsistency board).1.blocks := by
  rw [blocks_checkConsistency (hg.perm h), blocks_checkConsistency hg]
  simp only [Check.ownUpdates_of_perm hg h]
  exact h.map _

lemma get?_checkConsistency_of_perm (hg : g.Distinct) (h : g'.blocks.Perm g.blocks) (id : String) :
    (g'.checkConsistency board).1.get? id = (g.checkConsistency board).1.get? id :=
  get?_of_perm hg.checkConsistency (blocks_checkConsistency_of_perm hg h) id

lemma set_checkConsistency_of_perm (hg : g.Distinct) (h : g'.blocks.Perm g.blocks) :
    (g'.checkConsistency board).2.set.Perm (g.checkConsistency board).2.set := by
  unfold checkConsistency
  rw [Check.set_foldl_write, Check.set_foldl_write]
  exact ((Check.updates_of_perm hg h).filterMap _).append_left []

end Graph

namespace CheckReport

variable {r : CheckReport} {before after : Graph}

lemma Explains.nodup_cleared (h : r.Explains before after) : r.cleared.Nodup :=
  (List.nodup_append.mp h.once).2.1.of_map

/-- What is listed as cleared can be told from the warnings before and after. -/
lemma Explains.mem_cleared_iff (h : r.Explains before after) {c : ClearedWarning} :
    c ∈ r.cleared ↔
      (before.stored c.blockId c.tag).isSome ∧ after.stored c.blockId c.tag = none := by
  constructor
  · exact fun hc => ⟨h.present c hc, h.stored_of_cleared c hc⟩
  · rintro ⟨hbefore, hafter⟩
    obtain ⟨message, hmessage⟩ := Option.isSome_iff_exists.mp hbefore
    exact h.mem_cleared hmessage hafter

end CheckReport

namespace Proofs

/-- The same blocks in another order are left in the same state by a check, and the same findings
are reported, perhaps in another order. -/
theorem check_order_free (g : Graph) (hg : g.Distinct) (board : Board) (blocks : List Block)
    (h : blocks.Perm g.blocks) :
    let shuffled : Graph := { g with blocks }
    (∀ id, (shuffled.checkConsistency board).1.get? id = (g.checkConsistency board).1.get? id) ∧
    (shuffled.checkConsistency board).2.set.Perm (g.checkConsistency board).2.set ∧
    (shuffled.checkConsistency board).2.cleared.Perm (g.checkConsistency board).2.cleared := by
  intro shuffled
  have hperm : shuffled.blocks.Perm g.blocks := h
  have hstate : ∀ id, (shuffled.checkConsistency board).1.get? id =
      (g.checkConsistency board).1.get? id := Graph.get?_checkConsistency_of_perm hg hperm
  refine ⟨hstate, Graph.set_checkConsistency_of_perm hg hperm, ?_⟩
  -- Both lists have no repetition, and their members are told by the states before and after.
  have hexplains := Check.explains_checkConsistency hg board
  have hshuffled := Check.explains_checkConsistency (hg.perm hperm) board
  refine (List.perm_ext_iff_of_nodup hshuffled.nodup_cleared hexplains.nodup_cleared).mpr ?_
  intro c
  rw [hshuffled.mem_cleared_iff, hexplains.mem_cleared_iff, Graph.stored, Graph.stored,
    Graph.stored, Graph.stored, hstate, Graph.get?_of_perm hg hperm]

/-- The blocks and tags that a check of the blocks finds fault with, in the order of its report. -/
def findings (blocks : List Block) : List (String × String) :=
  (Graph.checkConsistency { blocks } Board.Nucleo.profile).2.set.map fun w => (w.blockId, w.tag)

theorem check_order_free_workshop :
    workshop.Distinct ∧ workshop.blocks.reverse.Perm workshop.blocks ∧
    findings workshop.blocks =
      [("read", "serial_setup"), ("line", "serial_rx_tx_mismatch"), ("tone", "io_tone")] ∧
    findings workshop.blocks.reverse =
      [("tone", "io_tone"), ("line", "serial_rx_tx_mismatch"), ("read", "serial_setup")] ∧
    let checked := workshop.checkConsistency Board.Nucleo.profile
    let shuffled : Graph := { workshop with blocks := workshop.blocks.reverse }
    (∀ id, (shuffled.checkConsistency Board.Nucleo.profile).1.get? id = checked.1.get? id) ∧
    (shuffled.checkConsistency Board.Nucleo.profile).2.set.Perm checked.2.set ∧
    (shuffled.checkConsistency Board.Nucleo.profile).2.cleared.Perm checked.2.cleared := by
  have hlists : findings workshop.blocks =
        [("read", "serial_setup"), ("line", "serial_rx_tx_mismatch"), ("tone", "io_tone")] ∧
      findings workshop.blocks.reverse =
        [("tone", "io_tone"), ("line", "serial_rx_tx_mismatch"), ("read", "serial_setup")] := by
    decide +kernel
  have hperm : workshop.blocks.reverse.Perm workshop.blocks := List.reverse_perm _
  exact ⟨distinct_workshop, hperm, hlists.1, hlists.2,
    check_order_free workshop distinct_workshop Board.Nucleo.profile _ hperm⟩

end Proofs

end MbedBlocks
