import MbedBlocks.Proofs.WarningOwnership

/-!
# What storing warnings leaves on the blocks

A row of warnings is stored on a graph. The last entry for a block and a tag stays; without one, a
tag of compilation is taken away and any other tag keeps what it had. So a block remembers nothing
that a second storing of the same row could change.
-/

namespace MbedBlocks

namespace Warning

/-- The message of the last warning for a block and a tag. -/
def last? (warnings : List Warning) (id tag : String) : Option String :=
  (warnings.reverse.find? fun w => w.key == (id, tag)).map message

lemma last?_cons (w : Warning) (warnings : List Warning) (id tag : String) :
    last? (w :: warnings) id tag =
      (last? warnings id tag).or (if w.key = (id, tag) then some w.message else none) := by
  unfold last?
  rw [List.reverse_cons, List.find?_append, List.find?_singleton, Option.map_or]
  by_cases h : w.key = (id, tag) <;> simp [h]

lemma last?_eq_none_iff {warnings : List Warning} {id tag : String} :
    last? warnings id tag = none ↔ (id, tag) ∉ warnings.map key := by
  unfold last?
  rw [Option.map_eq_none_iff, List.find?_eq_none, List.mem_map]
  simp

end Warning

namespace Update

/-- Changes under tags leave everything but the warnings. -/
lemma rest_foldl_of_tags {us : List Update} (h : ∀ u ∈ us, u.tag?.isSome) (b : Block)
    (warnings : Dict String) :
    { us.foldl applyTo b with warnings } = { b with warnings } := by
  induction us generalizing b with
  | nil => rfl
  | cons u us ih =>
    rw [List.foldl_cons, ih fun v hv => h v (List.mem_cons_of_mem u hv)]
    cases u with
    | warn tag message => rfl
    | clear tag => rfl
    | label field text => cases h _ List.mem_cons_self

/-- Run: of the warnings that are written to a block, the last one under a tag stays. -/
lemma warning?_foldl_updates (warnings : List Warning) (id tag : String) (b : Block) :
    (((warnings.filter fun w => w.blockId == id).map Warning.update).foldl applyTo b).warning? tag =
      (Warning.last? warnings id tag).or (b.warning? tag) := by
  induction warnings generalizing b with
  | nil => rfl
  | cons w warnings ih =>
    rw [Warning.last?_cons, Option.or_assoc]
    by_cases hid : w.blockId = id
    · have hstep : (w.update.applyTo b).warning? tag =
          (if w.key = (id, tag) then some w.message else none).or (b.warning? tag) := by
        rw [warning?_applyTo]
        by_cases htag : w.tag = tag <;>
          simp [Warning.update, Warning.key, tag?, message?, hid, htag]
      rw [List.filter_cons, if_pos (beq_iff_eq.mpr hid), List.map_cons, List.foldl_cons, ih, hstep]
    · have hkey : w.key ≠ (id, tag) := fun h => hid (Prod.mk.inj h).1
      rw [List.filter_cons, if_neg (mt beq_iff_eq.mp hid), ih, if_neg hkey, Option.none_or]

end Update

namespace Graph

variable {g : Graph} {warnings : List Warning}

lemma mem_outdatedTags {b : Block} {tag : String} :
    tag ∈ outdatedTags warnings b ↔
      tag ∈ Tag.generation ∧ (b.warning? tag).isSome ∧ (b.id, tag) ∉ warnings.map Warning.key := by
  unfold outdatedTags
  simp [Dict.contains, Block.warning?, Warning.key]

/-- Tags that are outdated are taken away first. -/
lemma warning?_foldl_clear (b : Block) (tag : String) :
    (((outdatedTags warnings b).map Update.clear).foldl Update.applyTo b).warning? tag =
      if tag ∈ outdatedTags warnings b then none else b.warning? tag := by
  have htags : ((outdatedTags warnings b).map Update.clear).filterMap Update.tag? =
      outdatedTags warnings b := by
    rw [List.filterMap_map]
    exact List.filterMap_some
  split_ifs with htag
  · have hnodup : (outdatedTags warnings b).Nodup := (by decide : Tag.generation.Nodup).filter _
    exact Update.warning?_foldl_of_mem (htags.symm ▸ hnodup) (List.mem_map_of_mem htag) rfl b
  · exact Update.warning?_foldl_of_untouched (htags.symm ▸ htag) b

/-- What a block carries under a tag once warnings have been stored. -/
theorem warning?_annotations_eq (b : Block) (tag : String) :
    ((annotations warnings b).foldl Update.applyTo b).warning? tag =
      (Warning.last? warnings b.id tag).or
        (if tag ∈ Tag.generation then none else b.warning? tag) := by
  rw [annotations, List.foldl_append, Update.warning?_foldl_updates, warning?_foldl_clear]
  cases hlast : Warning.last? warnings b.id tag with
  | some message => rfl
  | none =>
    -- Nothing is reported, so a tag of compilation is outdated if the block carries it.
    have hunreported := Warning.last?_eq_none_iff.mp hlast
    rw [Option.none_or, Option.none_or]
    split_ifs with houtdated hgeneration hgeneration
    · rfl
    · exact absurd (mem_outdatedTags.mp houtdated).1 hgeneration
    · by_contra hcarried
      have hsome := Option.isSome_iff_ne_none.mpr hcarried
      exact houtdated (mem_outdatedTags.mpr ⟨hgeneration, hsome, hunreported⟩)
    · rfl

lemma rest_annotations (b : Block) (stored : Dict String) :
    { (annotations warnings b).foldl Update.applyTo b with warnings := stored } =
      { b with warnings := stored } := by
  refine Update.rest_foldl_of_tags (fun u hu => ?_) b stored
  rcases List.mem_append.mp hu with hu | hu <;> obtain ⟨_, -, rfl⟩ := List.mem_map.mp hu <;> rfl

/-! ### Storing the same warnings again -/

lemma outdatedTags_annotations (b : Block) :
    outdatedTags warnings ((annotations warnings b).foldl Update.applyTo b) = [] := by
  refine List.eq_nil_iff_forall_not_mem.mpr fun tag htag => ?_
  obtain ⟨hgeneration, hcarried, hunreported⟩ := mem_outdatedTags.mp htag
  rw [id_foldl_applyTo] at hunreported
  rw [warning?_annotations_eq, Warning.last?_eq_none_iff.mpr hunreported, Option.none_or,
    if_pos hgeneration] at hcarried
  cases hcarried

lemma annotations_twice (b : Block) :
    (annotations warnings ((annotations warnings b).foldl Update.applyTo b)).foldl Update.applyTo
      ((annotations warnings b).foldl Update.applyTo b) =
    (annotations warnings b).foldl Update.applyTo b := by
  set c := (annotations warnings b).foldl Update.applyTo b with hc
  have hwarnings : ((annotations warnings c).foldl Update.applyTo c).warnings = c.warnings := by
    refine Dict.ext_get? fun tag => ?_
    change Block.warning? _ tag = c.warning? tag
    have hid : c.id = b.id := id_foldl_applyTo _ b
    rw [warning?_annotations_eq, hid, hc, warning?_annotations_eq]
    cases Warning.last? warnings b.id tag with
    | some message => rfl
    | none => split_ifs <;> rfl
  calc (annotations warnings c).foldl Update.applyTo c
      = { (annotations warnings c).foldl Update.applyTo c with
          warnings := ((annotations warnings c).foldl Update.applyTo c).warnings } := rfl
    _ = { c with warnings := ((annotations warnings c).foldl Update.applyTo c).warnings } :=
        rest_annotations c _
    _ = c := by rw [hwarnings]

/-- Storing the same warnings again clears nothing and leaves the graph as it is. -/
theorem applyWarnings_twice (hg : g.Distinct) (warnings : List Warning) :
    (g.applyWarnings warnings).1.applyWarnings warnings = ((g.applyWarnings warnings).1, []) := by
  have hblocks := blocks_applyWarnings hg warnings
  refine Prod.ext (ext_blocks (bare_applyWarnings _ warnings) ?_) ?_
  · rw [blocks_applyWarnings (hg.applyWarnings warnings), hblocks, List.map_map]
    exact List.map_congr_left fun b _ => annotations_twice b
  · change (g.applyWarnings warnings).1.blocks.flatMap _ = []
    rw [hblocks]
    refine List.flatMap_eq_nil_iff.mpr fun c hc => ?_
    obtain ⟨b, -, rfl⟩ := List.mem_map.mp hc
    rw [outdatedTags_annotations]
    rfl

/-! ### What is taken away -/

/-- The blocks with each of the tags of compilation, in their order. -/
def generationKeys (g : Graph) : List ClearedWarning :=
  g.blocks.flatMap fun b => Tag.generation.map fun tag => { blockId := b.id, tag }

lemma nodup_generationKeys (hg : g.Distinct) : g.generationKeys.Nodup := by
  have hgeneration : Tag.generation.Nodup := by decide
  refine List.nodup_flatMap.mpr ⟨fun b _ => hgeneration.map ?_, ?_⟩
  · intro tag tag' heq
    exact (ClearedWarning.mk.inj heq).2
  · refine (List.pairwise_map.mp hg).imp fun {b c} hne => ?_
    intro key hb hc
    obtain ⟨_, -, rfl⟩ := List.mem_map.mp hb
    obtain ⟨_, -, heq⟩ := List.mem_map.mp hc
    exact hne (ClearedWarning.mk.inj heq).1.symm

lemma cleared_applyWarnings (hg : g.Distinct) (warnings : List Warning) :
    (g.applyWarnings warnings).2 = g.generationKeys.filter fun c =>
      (g.stored c.blockId c.tag).isSome ∧ (c.blockId, c.tag) ∉ warnings.map Warning.key := by
  have hblock : ∀ b ∈ g.blocks, (outdatedTags warnings b).map (ClearedWarning.mk b.id) =
      (Tag.generation.map (ClearedWarning.mk b.id)).filter fun c =>
        (g.stored c.blockId c.tag).isSome ∧ (c.blockId, c.tag) ∉ warnings.map Warning.key := by
    intro b hb
    rw [List.filter_map]
    refine congrArg _ (List.filter_congr fun tag htag => ?_)
    have hstored := hg.stored_eq hb tag
    rw [Bool.eq_iff_iff]
    simp [hstored, Dict.contains, Block.warning?, Warning.key]
  unfold generationKeys
  rw [List.filter_flatMap]
  exact List.flatMap_congr hblock

end Graph

/-- What storing warnings makes of a block. -/
structure Block.Annotated (warnings : List Warning) (b b' : Block) : Prop where
  rest : { b' with warnings := b.warnings } = b
  reported : ∀ tag message, Warning.last? warnings b.id tag = some message →
    b'.warning? tag = some message
  outdated : ∀ tag ∈ Tag.generation, (b.id, tag) ∉ warnings.map Warning.key →
    b'.warning? tag = none
  kept : ∀ tag ∉ Tag.generation, (b.id, tag) ∉ warnings.map Warning.key →
    b'.warning? tag = b.warning? tag

lemma annotated_annotations (warnings : List Warning) (b : Block) :
    b.Annotated warnings ((Graph.annotations warnings b).foldl Update.applyTo b) where
  rest := Graph.rest_annotations b b.warnings
  reported tag message hlast := by
    rw [Graph.warning?_annotations_eq, hlast, Option.some_or]
  outdated tag htag hunreported := by
    rw [Graph.warning?_annotations_eq, Warning.last?_eq_none_iff.mpr hunreported, Option.none_or,
      if_pos htag]
  kept tag htag hunreported := by
    rw [Graph.warning?_annotations_eq, Warning.last?_eq_none_iff.mpr hunreported, Option.none_or,
      if_neg htag]

namespace Proofs

/-- Storing a row of warnings, in which blocks and tags may be repeated, unknown or foreign to
compilation, does to every block what the row says and nothing else. It lists the warnings of
compilation that it takes away, each once and in order, and a second storing does nothing. -/
theorem warnings_applied_exactly (g : Graph) (hg : g.Distinct) (warnings : List Warning) :
    (g.applyWarnings warnings).1.metadata = g.metadata ∧
    List.Forall₂ (Block.Annotated warnings) g.blocks (g.applyWarnings warnings).1.blocks ∧
    (g.applyWarnings warnings).2 = (g.generationKeys.filter fun c =>
      (g.stored c.blockId c.tag).isSome ∧ (c.blockId, c.tag) ∉ warnings.map Warning.key) ∧
    (g.applyWarnings warnings).2.Nodup ∧
    (g.applyWarnings warnings).1.applyWarnings warnings = ((g.applyWarnings warnings).1, []) := by
  have hcleared := Graph.cleared_applyWarnings hg warnings
  refine ⟨?_, ?_, hcleared, ?_, Graph.applyWarnings_twice hg warnings⟩
  · change (g.applyWarnings warnings).1.bare.metadata = g.bare.metadata
    rw [g.bare_applyWarnings warnings]
  · rw [Graph.blocks_applyWarnings hg, List.forall₂_map_right_iff, List.forall₂_same]
    exact fun b _ => annotated_annotations warnings b
  · rw [hcleared]
    exact (Graph.nodup_generationKeys hg).filter _

/-- A lamp with a conflict of pins and an outdated option, and a block of an unknown kind. -/
def annotatedLamp : Block :=
  { id := "lamp"
    kind := "io_digitalwrite"
    warnings := Dict.insert (Dict.insert {} "pin_conflict" "Pin PA_5 is taken") "bPin" "PA_5" }

def annotatedPortal : Block :=
  { id := "portal"
    kind := "teleport"
    warnings := Dict.insert {} "unknown_block" "No code generator" }

def annotatedPair : Graph := { blocks := [annotatedLamp, annotatedPortal] }

/-- The lamp is reported twice, a block that is not there once, and the other under a tag of its
own. -/
def mixedReport : List Warning :=
  [⟨"lamp", "unknown_resource", "Pin PA_5"⟩, ⟨"ghost", "pin_conflict", "Pin PA_6"⟩,
   ⟨"portal", "note", "closed"⟩, ⟨"lamp", "unknown_resource", "Pin PB_5"⟩]

theorem warnings_applied_exactly_pair :
    annotatedPair.Distinct ∧
      (∃ lamp portal, (annotatedPair.applyWarnings mixedReport).1.blocks = [lamp, portal] ∧
        lamp.warning? "unknown_resource" = some "Pin PB_5" ∧ lamp.warning? "pin_conflict" = none ∧
        lamp.warning? "bPin" = some "PA_5" ∧ portal.warning? "note" = some "closed") ∧
      (annotatedPair.applyWarnings mixedReport).2 =
        [⟨"lamp", "pin_conflict"⟩, ⟨"portal", "unknown_block"⟩] ∧
      (annotatedPair.applyWarnings mixedReport).1.applyWarnings mixedReport =
        ((annotatedPair.applyWarnings mixedReport).1, []) := by
  have hdistinct : annotatedPair.Distinct := by
    unfold Graph.Distinct
    decide
  obtain ⟨-, hblocks, hcleared, -, htwice⟩ :=
    warnings_applied_exactly annotatedPair hdistinct mixedReport
  refine ⟨hdistinct, ?_, hcleared.trans (by decide), htwice⟩
  obtain ⟨lamp, rest, hlamp, hrest, hfirst⟩ := List.forall₂_cons_left_iff.mp hblocks
  obtain ⟨portal, more, hportal, hmore, rfl⟩ := List.forall₂_cons_left_iff.mp hrest
  obtain rfl := List.forall₂_nil_left_iff.mp hmore
  refine ⟨lamp, portal, hfirst, hlamp.reported _ _ rfl,
    hlamp.outdated _ (by decide) (by decide), ?_, hportal.reported _ _ rfl⟩
  exact (hlamp.kept "bPin" (by decide) (by decide)).trans rfl

end Proofs

end MbedBlocks
