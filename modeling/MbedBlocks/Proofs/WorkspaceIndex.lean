import Mathlib.Data.List.Induction
import MbedBlocks.Proofs.Annotations
import MbedBlocks.Workspace

/-!
# The table of positions

Loading the blocks of a graph makes a table in which every id has the position of its last block.
Edits and checks go through the table and keep it up to date: each of them does to a loaded graph what
it does to the graph itself, and leaves a loaded graph behind. In every workspace that can be reached
an id therefore means the last block that has it, also where ids are repeated.
-/

namespace MbedBlocks

lemma Dict.ofList_concat {α : Type} (entries : List (String × α)) (entry : String × α) :
    ofList (entries ++ [entry]) = (ofList entries).insert entry.1 entry.2 := by
  unfold ofList
  rw [List.foldl_append]
  rfl

/-! ### The last block with an id -/

lemma Block.id_of_bare {b c : Block} (h : b.bare = c.bare) : b.id = c.id := by
  change b.bare.id = c.bare.id
  rw [h]

namespace Graph

/-- Graphs that differ in annotations alone list the same ids. -/
lemma ids_of_bare {g g' : Graph} (h : g.bare = g'.bare) :
    g.blocks.map Block.id = g'.blocks.map Block.id := by
  have hids (g : Graph) : g.bare.blocks.map Block.id = g.blocks.map Block.id := by
    unfold bare
    rw [List.map_map]
    rfl
  rw [← hids g, h, hids]

variable {id : String} {f : Block → Block}

lemma find?_reverse_concat (blocks : List Block) (b : Block) :
    ((blocks ++ [b]).reverse.find? fun c => c.id == id) =
      if b.id = id then some b else blocks.reverse.find? fun c => c.id == id := by
  rw [List.reverse_append, List.reverse_singleton, List.singleton_append]
  by_cases hid : b.id = id
  · rw [List.find?_cons_of_pos (by simpa using hid), if_pos hid]
  · rw [List.find?_cons_of_neg (by simpa using hid), if_neg hid]

lemma modifyLast_concat (blocks : List Block) (b : Block) :
    modifyLast id f (blocks ++ [b]) =
      if b.id = id then blocks ++ [f b] else modifyLast id f blocks ++ [b] := by
  induction blocks with
  | nil => simp [modifyLast]
  | cons c rest ih =>
    by_cases hb : b.id = id
    · simp [modifyLast, hb, ih]
    · by_cases hrest : rest.any fun d => d.id == id
      · simp [modifyLast, hb, hrest, ih]
      · by_cases hc : c.id = id
        · simp [modifyLast, hb, hrest, hc]
        · simp [modifyLast, hb, hrest, hc]

lemma length_modifyLast (blocks : List Block) : (modifyLast id f blocks).length = blocks.length := by
  induction blocks using List.reverseRecOn with
  | nil => rfl
  | append_singleton blocks b ih =>
    rw [modifyLast_concat]
    split_ifs
    · simp
    · simp [ih]

/-- A change that keeps the id it is addressed to keeps all ids. -/
lemma ids_modifyLast (hf : ∀ b, b.id = id → (f b).id = id) (blocks : List Block) :
    (modifyLast id f blocks).map Block.id = blocks.map Block.id := by
  induction blocks using List.reverseRecOn with
  | nil => rfl
  | append_singleton blocks b ih =>
    rw [modifyLast_concat]
    split_ifs with hb
    · simp [hf b hb, hb]
    · simp [ih]

/-- `b` is the last of the blocks with the id and stands between `before` and `after`. -/
structure IsLast (blocks : List Block) (id : String) (before : List Block) (b : Block)
    (after : List Block) : Prop where
  split : blocks = before ++ b :: after
  own : b.id = id
  later : ∀ c ∈ after, c.id ≠ id

lemma get?_eq_some_iff {g : Graph} {b : Block} :
    g.get? id = some b ↔ ∃ before after, IsLast g.blocks id before b after := by
  unfold get?
  rw [List.find?_eq_some_iff_append]
  constructor
  · rintro ⟨hb, behind, ahead, hsplit, hbehind⟩
    refine ⟨ahead.reverse, behind.reverse, ?_, by simpa using hb, ?_⟩
    · rw [← List.reverse_reverse g.blocks, hsplit]
      simp
    · intro c hc
      simpa using hbehind c (List.mem_reverse.mp hc)
  · rintro ⟨before, after, hsplit, hb, hafter⟩
    refine ⟨by simpa using hb, after.reverse, before.reverse, by simp [hsplit], ?_⟩
    intro c hc
    simpa using hafter c (List.mem_reverse.mp hc)

lemma get?_eq_none_iff {g : Graph} : g.get? id = none ↔ ∀ b ∈ g.blocks, b.id ≠ id := by
  simp [get?]

lemma isSome_get?_of_mem {g : Graph} (h : id ∈ g.blocks.map Block.id) : (g.get? id).isSome := by
  obtain ⟨b, hb, rfl⟩ := List.mem_map.mp h
  rw [Option.isSome_iff_ne_none, ne_eq, get?_eq_none_iff]
  exact fun habsent => habsent b hb rfl

lemma modifyLast_of_isLast {blocks before after : List Block} {b : Block}
    (h : IsLast blocks id before b after) : modifyLast id f blocks = before ++ f b :: after := by
  obtain ⟨rfl, hb, hafter⟩ := h
  have hnone : ¬(after.any fun c => c.id == id) = true := by simpa using hafter
  induction before with
  | nil => rw [List.nil_append, List.nil_append, modifyLast, if_neg hnone, if_pos hb]
  | cons c before ih =>
    have hsome : ((before ++ b :: after).any fun c => c.id == id) = true := by simp [hb]
    rw [List.cons_append, modifyLast, if_pos hsome, ih, List.cons_append]

lemma modifyLast_of_absent {blocks : List Block} (h : ∀ b ∈ blocks, b.id ≠ id) :
    modifyLast id f blocks = blocks := by
  induction blocks using List.reverseRecOn with
  | nil => rfl
  | append_singleton blocks b ih =>
    have hb : b.id ≠ id := h b (by simp)
    rw [modifyLast_concat, if_neg hb, ih fun c hc => h c (List.mem_append_left _ hc)]

lemma modify_of_absent {g : Graph} (h : ∀ b ∈ g.blocks, b.id ≠ id) : g.modify id f = g := by
  unfold modify
  rw [modifyLast_of_absent h]

lemma addBlock_of_isLast {g : Graph} {before after : List Block} {b block : Block}
    (h : IsLast g.blocks block.id before b after) :
    (g.addBlock block).blocks = before ++ block :: after := by
  have hpresent : (g.blocks.any fun c => c.id == block.id) = true := by simp [h.split, h.own]
  unfold addBlock
  rw [if_pos hpresent]
  exact modifyLast_of_isLast h

lemma addBlock_of_absent {g : Graph} {block : Block} (h : ∀ b ∈ g.blocks, b.id ≠ block.id) :
    g.addBlock block = { g with blocks := g.blocks ++ [block] } := by
  have habsent : ¬(g.blocks.any fun c => c.id == block.id) = true := by simpa using h
  unfold addBlock
  rw [if_neg habsent]

end Graph

namespace Workspace

/-! ### Tables -/

section Tables

variable {blocks : List Block} {id : String}

lemma tabulate_concat (blocks : List Block) (b : Block) :
    tabulate (blocks ++ [b]) = (tabulate blocks).insert b.id blocks.length := by
  unfold tabulate
  rw [List.map_append, List.zipIdx_append, List.length_map, Nat.zero_add]
  exact Dict.ofList_concat _ _

lemma get?_tabulate_concat (blocks : List Block) (b : Block) :
    (tabulate (blocks ++ [b])).get? id =
      if id = b.id then some blocks.length else (tabulate blocks).get? id := by
  rw [tabulate_concat, Dict.get?_insert]

/-- Positions are those of blocks. -/
lemma lt_of_position {i : Nat} (h : (tabulate blocks).get? id = some i) : i < blocks.length := by
  induction blocks using List.reverseRecOn with
  | nil => cases h
  | append_singleton blocks b ih =>
    rw [get?_tabulate_concat] at h
    rw [List.length_append, List.length_singleton]
    split_ifs at h
    · obtain rfl := Option.some.inj h
      omega
    · have := ih h
      omega

/-- An id stands at the position of its last block. -/
lemma getElem?_position (blocks : List Block) (id : String) :
    ((tabulate blocks).get? id).bind (fun i => blocks[i]?) =
      blocks.reverse.find? fun b => b.id == id := by
  induction blocks using List.reverseRecOn with
  | nil => rfl
  | append_singleton blocks b ih =>
    rw [get?_tabulate_concat, Graph.find?_reverse_concat]
    by_cases hid : id = b.id
    · simp [hid]
    · rw [if_neg hid, if_neg (Ne.symm hid), ← ih]
      cases hi : (tabulate blocks).get? id with
      | none => rfl
      | some i => simp [List.getElem?_append_left (lt_of_position hi)]

lemma getElem?_of_position {i : Nat} (h : (tabulate blocks).get? id = some i) :
    ∃ b, blocks[i]? = some b ∧ b.id = id := by
  have hlt := lt_of_position h
  have hlast := getElem?_position blocks id
  rw [h, Option.bind_some, List.getElem?_eq_getElem hlt] at hlast
  refine ⟨blocks[i], List.getElem?_eq_getElem hlt, ?_⟩
  simpa using List.find?_some hlast.symm

lemma modify_concat_of_lt {f : Block → Block} {b : Block} {i : Nat} (hi : i < blocks.length) :
    (blocks ++ [b]).modify i f = blocks.modify i f ++ [b] := by
  have hne : blocks.drop i ≠ [] := by simpa using hi
  obtain ⟨c, rest, hrest⟩ := List.exists_cons_of_ne_nil hne
  rw [List.modify_eq_take_drop, List.modify_eq_take_drop, List.take_append_of_le_length hi.le,
    List.drop_append_of_le_length hi.le, hrest]
  simp

/-- Changing the block at the position of an id changes the last block with it. -/
lemma modify_position (blocks : List Block) (id : String) (f : Block → Block) :
    (((tabulate blocks).get? id).elim blocks fun i => blocks.modify i f) =
      Graph.modifyLast id f blocks := by
  induction blocks using List.reverseRecOn with
  | nil => rfl
  | append_singleton blocks b ih =>
    rw [get?_tabulate_concat, Graph.modifyLast_concat]
    by_cases hid : id = b.id
    · rw [if_pos hid, if_pos hid.symm, Option.elim_some, List.modify_eq_take_drop]
      simp
    · rw [if_neg hid, if_neg (Ne.symm hid), ← ih]
      cases hi : (tabulate blocks).get? id with
      | none => rfl
      | some i => exact modify_concat_of_lt (lt_of_position hi)

lemma position_eq_none_iff (blocks : List Block) (id : String) :
    (tabulate blocks).get? id = none ↔ ∀ b ∈ blocks, b.id ≠ id := by
  induction blocks using List.reverseRecOn with
  | nil => exact ⟨fun _ b hb => absurd hb List.not_mem_nil, fun _ => rfl⟩
  | append_singleton blocks b ih =>
    rw [get?_tabulate_concat]
    by_cases hid : id = b.id
    · simp [hid]
    · simp [hid, ih, or_imp, forall_and, Ne.symm hid]

/-- The table depends on the ids of the blocks alone. -/
lemma tabulate_congr {blocks' : List Block} (h : blocks.map Block.id = blocks'.map Block.id) :
    tabulate blocks = tabulate blocks' := by
  unfold tabulate
  rw [h]

end Tables

/-! ### Loaded graphs -/

variable {g : Graph}

@[simp] lemma graph_load (g : Graph) : (load g).graph = g := rfl

@[simp] lemma positions_load (g : Graph) : (load g).positions = tabulate g.blocks := rfl

lemma named_eq_load (name : String) : named name = load (.named name) := rfl

lemma get?_load (g : Graph) (id : String) : (load g).get? id = g.get? id :=
  getElem?_position g.blocks id

/-- Changes go to the last block with the id. -/
lemma modify_load_eq (g : Graph) (id : String) (f : Block → Block) :
    (load g).modify id f = { graph := g.modify id f, positions := tabulate g.blocks } := by
  have hblocks := modify_position g.blocks id f
  unfold modify Graph.modify
  rw [positions_load, ← hblocks]
  cases (tabulate g.blocks).get? id <;> rfl

lemma modify_load {id : String} {f : Block → Block} (hf : ∀ b, b.id = id → (f b).id = id)
    (g : Graph) : (load g).modify id f = load (g.modify id f) := by
  have htable : tabulate (g.modify id f).blocks = tabulate g.blocks :=
    tabulate_congr (Graph.ids_modifyLast hf g.blocks)
  rw [modify_load_eq, load, htable]

lemma setField_load (g : Graph) (id name : String) (value : FieldValue) :
    (load g).setField id name value = load (g.modify id fun b => b.setField name value) :=
  modify_load (f := fun b => b.setField name value) (fun _ h => h) g

lemma setWarning_load (g : Graph) (id tag : String) (message : Option String) :
    (load g).setWarning id tag message = load (g.modify id fun b => b.setWarning tag message) := by
  refine modify_load (fun b h => ?_) g
  cases message <;> exact h

lemma addBlock_load (g : Graph) (block : Block) :
    (load g).addBlock block = load (g.addBlock block) := by
  have hnone := position_eq_none_iff g.blocks block.id
  unfold addBlock Graph.addBlock
  rw [positions_load]
  cases hi : (tabulate g.blocks).get? block.id with
  | none =>
    have habsent : ¬(g.blocks.any fun b => b.id == block.id) = true := by
      simpa using hnone.mp hi
    rw [if_neg habsent]
    simp [load, withBlocks, tabulate_concat]
  | some i =>
    have hpresent : (g.blocks.any fun b => b.id == block.id) = true := by
      by_contra habsent
      rw [hnone.mpr (by simpa using habsent)] at hi
      cases hi
    rw [if_pos hpresent, ← modify_load (fun _ _ => rfl)]
    simp [modify, hi, List.set_eq_modify]

/-- A pass over all blocks that leaves their ids. -/
lemma withBlocks_load {f : Block → Block} (hf : ∀ b, (f b).id = b.id) (g : Graph) :
    (load g).withBlocks (g.blocks.map f) = load { g with blocks := g.blocks.map f } := by
  have htable : tabulate (g.blocks.map f) = tabulate g.blocks := by
    apply tabulate_congr
    rw [List.map_map]
    exact List.map_congr_left fun b _ => hf b
  unfold load withBlocks
  rw [htable]

lemma applyWarnings_load (g : Graph) (warnings : List Warning) :
    (load g).applyWarnings warnings =
      (load (g.applyWarnings warnings).1, (g.applyWarnings warnings).2) := by
  have hclean (b : Block) : ((Graph.outdatedTags warnings b).foldl
      (fun b tag => b.setWarning tag none) b).id = b.id := by
    have hbare := Block.bare_clearWarnings (Graph.outdatedTags warnings b) b
    exact Block.id_of_bare hbare
  have hset (ws : List Warning) (g : Graph) :
      ws.foldl (fun w x => w.setWarning x.blockId x.tag (some x.message)) (load g) =
        load (ws.foldl (fun g x => g.modify x.blockId fun b =>
          b.setWarning x.tag (some x.message)) g) := by
    induction ws generalizing g with
    | nil => rfl
    | cons x ws ih => rw [List.foldl_cons, List.foldl_cons, setWarning_load, ih]
  unfold applyWarnings Graph.applyWarnings
  simp only [graph_load]
  rw [withBlocks_load hclean, hset]

lemma refreshOptions_load (g : Graph) (board : Board) :
    (load g).refreshOptions board =
      (load (g.refreshOptions board).1, (g.refreshOptions board).2) := by
  have htable := tabulate_congr (Graph.ids_of_bare (g.bare_refreshOptions board))
  unfold refreshOptions load
  rw [htable]

/-- Step: a change for a block of the graph is written alike. -/
lemma writeUpdate_load {report : CheckReport} {id : String} (hid : (g.get? id).isSome)
    (update : Update) :
    writeUpdate (load g, report) (id, update) =
      (load (Check.write (g, report) (id, update)).1,
        (Check.write (g, report) (id, update)).2) := by
  obtain ⟨b, hb⟩ := Option.isSome_iff_exists.mp hid
  unfold writeUpdate Check.write
  simp only [get?_load, hb, setWarning_load, setField_load, Option.bind_some]
  cases update with
  | warn tag message => rfl
  | label field text => rfl
  | clear tag =>
    dsimp only
    split_ifs <;> rfl

/-- Run: so are all changes for blocks of the graph. -/
lemma foldl_writeUpdate_load (changes : List (String × Update)) (g : Graph) (report : CheckReport)
    (hlabels : ∀ change ∈ changes, Check.Annotates change.2)
    (hids : ∀ change ∈ changes, change.1 ∈ g.blocks.map Block.id) :
    changes.foldl writeUpdate (load g, report) =
      (load (changes.foldl Check.write (g, report)).1,
        (changes.foldl Check.write (g, report)).2) := by
  induction changes generalizing g report with
  | nil => rfl
  | cons change changes ih =>
    have hid : change.1 ∈ g.blocks.map Block.id := hids change List.mem_cons_self
    have hkept : (Check.write (g, report) change).1.blocks.map Block.id = g.blocks.map Block.id :=
      Graph.ids_of_bare (Check.bare_write (g, report) (hlabels change List.mem_cons_self))
    rw [List.foldl_cons, List.foldl_cons, writeUpdate_load (Graph.isSome_get?_of_mem hid)]
    apply ih
    · exact fun c hc => hlabels c (List.mem_cons_of_mem _ hc)
    · intro c hc
      rw [hkept]
      exact hids c (List.mem_cons_of_mem _ hc)

lemma checkConsistency_load (g : Graph) (board : Board) :
    (load g).checkConsistency board =
      (load (g.checkConsistency board).1, (g.checkConsistency board).2) := by
  refine foldl_writeUpdate_load _ g {} (Check.updates_annotate g board) ?_
  intro change hchange
  obtain ⟨b, hb, hown⟩ := List.mem_flatMap.mp hchange
  obtain ⟨update, -, rfl⟩ := List.mem_map.mp hown
  exact List.mem_map_of_mem hb

lemma check_load (g : Graph) (options : Options) (boards : Boards) :
    (load g).check options boards =
      (g.check options boards).map fun checked => (load checked.1, checked.2) := by
  unfold check Graph.check
  cases boards.get options.board with
  | error e => rfl
  | ok board =>
    simp only [bind, Except.bind, refreshOptions_load, checkConsistency_load]
    rfl

/-! ### Editing -/

/-- What an editor may do to a workspace. -/
inductive Edit where
  | add (block : Block)
  | setField (id name : String) (value : FieldValue)
  | setWarning (id tag : String) (message : Option String)
  | pass (step : CheckStep)

namespace Edit

/-- The workspace after a pass. A check for a board that is not registered leaves it as it is. -/
def applyPass (w : Workspace) : CheckStep → Workspace
  | .check options boards =>
    match w.check options boards with
    | .ok (checked, _) => checked
    | .error _ => w
  | .consistency board => (w.checkConsistency board).1
  | .refresh board => (w.refreshOptions board).1
  | .annotate warnings => (w.applyWarnings warnings).1

def apply (w : Workspace) : Edit → Workspace
  | add block => w.addBlock block
  | setField id name value => w.setField id name value
  | setWarning id tag message => w.setWarning id tag message
  | pass step => applyPass w step

/-- What an edit does to the graph. -/
def onGraph (g : Graph) : Edit → Graph
  | add block => g.addBlock block
  | setField id name value => g.modify id fun b => b.setField name value
  | setWarning id tag message => g.modify id fun b => b.setWarning tag message
  | pass step => step.apply g

lemma applyPass_load (g : Graph) (step : CheckStep) :
    applyPass (load g) step = load (step.apply g) := by
  cases step with
  | check options boards =>
    rw [applyPass, CheckStep.apply, check_load]
    cases g.check options boards <;> rfl
  | consistency board => rw [applyPass, CheckStep.apply, checkConsistency_load]
  | refresh board => rw [applyPass, CheckStep.apply, refreshOptions_load]
  | annotate warnings => rw [applyPass, CheckStep.apply, applyWarnings_load]

/-- An edit does to a loaded graph what it does to the graph. -/
theorem apply_load (g : Graph) (edit : Edit) : edit.apply (load g) = load (edit.onGraph g) := by
  cases edit with
  | add block => exact addBlock_load g block
  | setField id name value => exact setField_load g id name value
  | setWarning id tag message => exact setWarning_load g id tag message
  | pass step => exact applyPass_load g step

end Edit

/-- The workspaces that an editor can reach from an empty one or from a document. -/
inductive Reachable : Workspace → Prop
  | named (name : String) : Reachable (.named name)
  | read {text : String} {w : Workspace} (h : Workspace.read text = .ok w) : Reachable w
  | edit {w : Workspace} (h : Reachable w) (edit : Edit) : Reachable (edit.apply w)

lemma eq_load_of_read {text : String} {w : Workspace} (h : Workspace.read text = .ok w) :
    w = load w.graph := by
  unfold Workspace.read at h
  cases hg : Graph.read text with
  | error e =>
    rw [hg] at h
    cases h
  | ok g =>
    rw [hg] at h
    cases h
    rfl

/-- A workspace that can be reached has the table that loading its blocks makes. -/
theorem Reachable.eq_load {w : Workspace} (h : Reachable w) : w = load w.graph := by
  induction h with
  | named name => exact named_eq_load name
  | read h => exact eq_load_of_read h
  | edit h edit ih =>
    rw [ih, Edit.apply_load]
    rfl

/-- No edit takes a block away. -/
lemma Edit.length_le_onGraph (g : Graph) (edit : Edit) :
    g.blocks.length ≤ (edit.onGraph g).blocks.length := by
  cases edit with
  | add block =>
    rw [onGraph, Graph.addBlock]
    split_ifs
    · exact (Graph.length_modifyLast g.blocks).ge
    · simp
  | setField id name value => exact (Graph.length_modifyLast g.blocks).ge
  | setWarning id tag message => exact (Graph.length_modifyLast g.blocks).ge
  | pass step =>
    have hids := congrArg List.length (Graph.ids_of_bare (step.bare_apply g))
    rw [List.length_map, List.length_map] at hids
    exact hids.ge

end Workspace

namespace Proofs

open MbedBlocks.Graph (IsLast)
open Workspace (Edit Reachable)

/-- In every workspace that can be reached an id means the last block that has it: it is found there,
changed there and replaced there, and every other block stays where it is. An id that no block has
means none, and a block with such an id is added at the end. Every position is that of a block
with its id, and no edit makes the list shorter. -/
theorem id_means_last_block {w : Workspace} (h : Reachable w) :
    (∀ id, w.get? id = none ↔ ∀ b ∈ w.graph.blocks, b.id ≠ id) ∧
    (∀ id b, w.get? id = some b ↔ ∃ before after, IsLast w.graph.blocks id before b after) ∧
    (∀ id before b after, IsLast w.graph.blocks id before b after →
      (∀ f, (w.modify id f).graph.blocks = before ++ f b :: after) ∧
      ∀ block, block.id = id → (w.addBlock block).graph.blocks = before ++ block :: after) ∧
    (∀ id, (∀ b ∈ w.graph.blocks, b.id ≠ id) →
      (∀ f, w.modify id f = w) ∧
      ∀ block, block.id = id → (w.addBlock block).graph.blocks = w.graph.blocks ++ [block]) ∧
    (∀ id i, w.positions.get? id = some i → ∃ b, w.graph.blocks[i]? = some b ∧ b.id = id) ∧
    ∀ edit : Edit, w.graph.blocks.length ≤ (edit.apply w).graph.blocks.length := by
  rw [h.eq_load]
  generalize w.graph = g
  refine ⟨?_, ?_, ?_, ?_, ?_, ?_⟩
  · intro id
    rw [Workspace.get?_load]
    exact Graph.get?_eq_none_iff
  · intro id b
    rw [Workspace.get?_load]
    exact Graph.get?_eq_some_iff
  · intro id before b after hlast
    constructor
    · intro f
      rw [Workspace.modify_load_eq]
      exact Graph.modifyLast_of_isLast hlast
    · rintro block rfl
      rw [Workspace.addBlock_load]
      exact Graph.addBlock_of_isLast hlast
  · intro id habsent
    constructor
    · intro f
      have hsame : g.modify id f = g := Graph.modify_of_absent habsent
      rw [Workspace.modify_load_eq, hsame]
      rfl
    · rintro block rfl
      have happended : g.addBlock block = { g with blocks := g.blocks ++ [block] } :=
        Graph.addBlock_of_absent habsent
      rw [Workspace.addBlock_load, happended]
      rfl
  · intro id i hi
    exact Workspace.getElem?_of_position hi
  · intro edit
    rw [Edit.apply_load]
    exact edit.length_le_onGraph g

/-- A block that writes to a pin. -/
def lampOn (pin : String) : Block :=
  { id := "lamp", kind := "io_digitalwrite", fields := Dict.insert {} "PIN" (.text pin) }

def clock : Block := { id := "clock", kind := "time_millis" }

/-- A document that lists two lamps with one id, and a clock. -/
def lampsAndClock : String :=
  "\x7b\"blocks\": [" ++
    "\x7b\"id\": \"lamp\", \"kind\": \"io_digitalwrite\", \"fields\": \x7b\"PIN\": \"PA_5\"\x7d\x7d, " ++
    "\x7b\"id\": \"lamp\", \"kind\": \"io_digitalwrite\", \"fields\": \x7b\"PIN\": \"PA_6\"\x7d\x7d, " ++
    "\x7b\"id\": \"clock\", \"kind\": \"time_millis\"\x7d]\x7d"

def lampsRead : Workspace := .load { blocks := [lampOn "PA_5", lampOn "PA_6", clock] }

def lampMoved : Workspace := (Edit.setField "lamp" "PIN" (.text "PA_7")).apply lampsRead

/-- The second lamp is the one that is moved to another pin and then replaced. -/
theorem id_means_last_block_lamps :
    Workspace.read lampsAndClock = .ok lampsRead ∧ Reachable lampMoved ∧
      IsLast lampMoved.graph.blocks "lamp" [lampOn "PA_5"] (lampOn "PA_7") [clock] ∧
      lampMoved.get? "lamp" = some (lampOn "PA_7") ∧
      (lampMoved.addBlock (lampOn "PA_8")).graph.blocks =
        [lampOn "PA_5", lampOn "PA_8", clock] := by
  have hread : Workspace.read lampsAndClock = .ok lampsRead := by decide +kernel
  have hmoved : Reachable lampMoved := (Reachable.read hread).edit _
  have hsecond : IsLast lampMoved.graph.blocks "lamp" [lampOn "PA_5"] (lampOn "PA_7") [clock] :=
    ⟨by decide +kernel, by decide +kernel, by decide +kernel⟩
  obtain ⟨-, hget, hlast, -⟩ := id_means_last_block hmoved
  refine ⟨hread, hmoved, hsecond, ?_, ?_⟩
  · exact (hget _ _).mpr ⟨_, _, hsecond⟩
  · exact (hlast _ _ _ _ hsecond).2 (lampOn "PA_8") rfl

end Proofs

end MbedBlocks
