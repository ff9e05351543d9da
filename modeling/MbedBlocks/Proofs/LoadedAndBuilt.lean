import MbedBlocks.Proofs.CheckWrites
import MbedBlocks.Proofs.WorkspaceIndex

/-!
# Loaded and built workspaces

The blocks of a document can also be added to an empty workspace one after the other. Both ways lead
to the same block under every id. Adding keeps one block for every id, at the place of the first and
with the content of the last, whereas loading keeps all of them. The workspaces are thus the same
exactly if no id is repeated.
-/

namespace MbedBlocks

lemma eraseDups_concat (l : List String) (a : String) :
    (l ++ [a]).eraseDups = if a ∈ l then l.eraseDups else l.eraseDups ++ [a] := by
  rw [List.eraseDups_append]
  split_ifs with hmem
  · rw [List.removeAll, List.filter_cons_of_neg (by simpa using hmem)]
    simp
  · rw [List.removeAll, List.filter_cons_of_pos (by simpa using hmem)]
    simp [List.eraseDups_cons]

namespace Graph

variable {g : Graph} {b : Block}

/-- A block that was added is the one that its id means; other ids keep their meaning. -/
lemma get?_addBlock (g : Graph) (b : Block) (id : String) :
    (g.addBlock b).get? id = if b.id = id then some b else g.get? id := by
  cases hget : g.get? b.id with
  | none =>
    rw [addBlock_of_absent (get?_eq_none_iff.mp hget)]
    exact find?_reverse_concat g.blocks b
  | some c =>
    obtain ⟨before, after, hlast⟩ := get?_eq_some_iff.mp hget
    have hadded := addBlock_of_isLast hlast
    split_ifs with hid
    · subst hid
      exact get?_eq_some_iff.mpr ⟨before, after, hadded, rfl, hlast.later⟩
    · -- Neither the old block nor the new one has the id.
      have hold : c.id ≠ id := hlast.own ▸ hid
      unfold get?
      rw [hadded, hlast.split]
      simp [hid, hold]

lemma ids_addBlock (g : Graph) (b : Block) :
    (g.addBlock b).blocks.map Block.id =
      if b.id ∈ g.blocks.map Block.id then g.blocks.map Block.id
      else g.blocks.map Block.id ++ [b.id] := by
  split_ifs with hmem
  · have hpresent : (g.blocks.any fun c => c.id == b.id) = true := by simpa using hmem
    unfold addBlock
    rw [if_pos hpresent]
    exact ids_modifyLast (fun _ _ => rfl) g.blocks
  · rw [addBlock_of_absent (by simpa using hmem)]
    simp

/-- The blocks added to an empty graph. -/
def build (metadata : Metadata) (blocks : List Block) : Graph := blocks.foldl addBlock { metadata }

variable (metadata : Metadata) (blocks : List Block)

lemma build_concat : build metadata (blocks ++ [b]) = (build metadata blocks).addBlock b := by
  unfold build
  rw [List.foldl_append]
  rfl

theorem get?_build (id : String) :
    (build metadata blocks).get? id = get? { metadata, blocks } id := by
  induction blocks using List.reverseRecOn with
  | nil => rfl
  | append_singleton blocks b ih =>
    rw [build_concat, get?_addBlock, ih]
    exact (find?_reverse_concat blocks b).symm

/-- Every id stands where it came first. -/
lemma ids_build : (build metadata blocks).blocks.map Block.id = (blocks.map Block.id).eraseDups := by
  induction blocks using List.reverseRecOn with
  | nil => rfl
  | append_singleton blocks b ih =>
    rw [build_concat, ids_addBlock, ih, List.map_append, List.map_singleton, eraseDups_concat]
    simp only [List.mem_eraseDups]

lemma distinct_build : (build metadata blocks).Distinct := by
  induction blocks using List.reverseRecOn with
  | nil => exact List.nodup_nil
  | append_singleton blocks b ih =>
    unfold Distinct at ih ⊢
    rw [build_concat, ids_addBlock]
    split_ifs with hmem
    · exact ih
    · exact List.nodup_append.mpr ⟨ih, List.nodup_singleton _, by simpa using hmem⟩

lemma build_of_nodup (h : (blocks.map Block.id).Nodup) :
    build metadata blocks = { metadata, blocks } := by
  induction blocks using List.reverseRecOn with
  | nil => rfl
  | append_singleton blocks b ih =>
    rw [List.map_append, List.nodup_append] at h
    obtain ⟨hnodup, -, hnew⟩ := h
    have habsent : ∀ c ∈ blocks, c.id ≠ b.id := fun c hc =>
      hnew c.id (List.mem_map_of_mem hc) b.id (List.mem_singleton_self _)
    rw [build_concat, ih hnodup, addBlock_of_absent habsent]

/-- In a graph without repeated ids the ids stand for the blocks. -/
lemma Distinct.blocks_eq (h : g.Distinct) :
    g.blocks = (g.blocks.map Block.id).filterMap g.get? := by
  rw [List.filterMap_map]
  have hget : ∀ b ∈ g.blocks, (g.get? ∘ Block.id) b = some b := fun b hb => h.get?_eq hb
  rw [List.filterMap_congr hget, List.filterMap_some]

end Graph

namespace Workspace

/-- The workspace in which the blocks have been added one after the other. -/
def build (metadata : Metadata) (blocks : List Block) : Workspace :=
  blocks.foldl addBlock { graph := { metadata } }

lemma build_eq_load (metadata : Metadata) (blocks : List Block) :
    build metadata blocks = load (.build metadata blocks) := by
  induction blocks using List.reverseRecOn with
  | nil => rfl
  | append_singleton blocks b ih =>
    rw [Graph.build_concat, ← addBlock_load, ← ih]
    unfold build
    rw [List.foldl_append]
    rfl

end Workspace

namespace Proofs

/-- Loading the blocks of a document and adding them one by one lead to the same block under every id.
What was built lists every id once, where it came first. It is what was loaded exactly if no id is
repeated. -/
theorem built_eq_loaded_iff {text : String} {loaded : Workspace}
    (h : Workspace.read text = .ok loaded) :
    let built := Workspace.build loaded.graph.metadata loaded.graph.blocks
    (∀ id, built.get? id = loaded.get? id) ∧
    built.graph.blocks = (loaded.graph.blocks.map Block.id).eraseDups.filterMap loaded.get? ∧
    (built.graph.blocks = loaded.graph.blocks ↔ (loaded.graph.blocks.map Block.id).Nodup) ∧
    ((loaded.graph.blocks.map Block.id).Nodup → built = loaded) := by
  rw [Workspace.eq_load_of_read h]
  generalize loaded.graph = g
  intro built
  have hbuilt : built = .load (.build g.metadata g.blocks) :=
    Workspace.build_eq_load g.metadata g.blocks
  have hblocks : built.graph.blocks = (Graph.build g.metadata g.blocks).blocks := by
    rw [hbuilt, Workspace.graph_load]
  have hget : (Graph.build g.metadata g.blocks).get? = (Workspace.load g).get? := by
    funext id
    rw [Graph.get?_build, Workspace.get?_load]
  have hdistinct := Graph.distinct_build g.metadata g.blocks
  have hsame (hnodup : (g.blocks.map Block.id).Nodup) : Graph.build g.metadata g.blocks = g :=
    Graph.build_of_nodup g.metadata g.blocks hnodup
  refine ⟨?_, ?_, ?_, ?_⟩
  · intro id
    rw [hbuilt, Workspace.get?_load, hget]
  · rw [hblocks, hdistinct.blocks_eq, Graph.ids_build, hget, Workspace.graph_load]
  · constructor
    · intro hlisted
      rw [← hlisted, hblocks]
      exact hdistinct
    · intro hnodup
      rw [hblocks, hsame hnodup]
      rfl
  · intro hnodup
    rw [hbuilt, hsame hnodup]

/-- A document that lists two lamps with one id. -/
def twinLampsText : String :=
  "\x7b\"blocks\": [" ++
    "\x7b\"id\": \"lamp\", \"kind\": \"io_digitalwrite\", \"fields\": \x7b\"PIN\": \"PA_5\"\x7d\x7d, " ++
    "\x7b\"id\": \"lamp\", \"kind\": \"io_digitalwrite\", \"fields\": \x7b\"PIN\": \"PA_6\"\x7d\x7d]\x7d"

def twinLamps : Workspace := .load { blocks := [lampOn "PA_5", lampOn "PA_6"] }

theorem built_eq_loaded_iff_twinLamps :
    let built := Workspace.build twinLamps.graph.metadata twinLamps.graph.blocks
    Workspace.read twinLampsText = .ok twinLamps ∧
      built.get? "lamp" = twinLamps.get? "lamp" ∧ built.graph.blocks = [lampOn "PA_6"] := by
  have hread : Workspace.read twinLampsText = .ok twinLamps := by decide +kernel
  obtain ⟨hget, hblocks, -⟩ := built_eq_loaded_iff hread
  refine ⟨hread, hget "lamp", ?_⟩
  rw [hblocks]
  decide +kernel

/-- The program of the loaded lamps writes twice to the pin of the second one, that of the lamps which
were added writes once. -/
theorem loaded_lamp_written_twice :
    let built := Workspace.build twinLamps.graph.metadata twinLamps.graph.blocks
    Workspace.read twinLampsText = .ok twinLamps ∧
      twinLamps.graph.topBlocks.length = 2 ∧ built.graph.topBlocks.length = 1 ∧
      (Generator.new twinLamps.graph Board.Nucleo.profile {}).program.setupBody =
        "myDigitalOutPA_6.write(LOW);\nmyDigitalOutPA_6.write(LOW);\n" ∧
      (Generator.new built.graph Board.Nucleo.profile {}).program.setupBody =
        "myDigitalOutPA_6.write(LOW);\n" := by
  decide +kernel

end Proofs

end MbedBlocks
