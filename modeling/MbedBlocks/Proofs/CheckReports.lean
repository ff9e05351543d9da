import MbedBlocks.Proofs.Annotations
import MbedBlocks.Proofs.CheckWrites

/-!
# What a check reports

A report explains the difference between the warnings stored before and after a check: those it
lists as set are stored, those it lists as cleared are gone, and all others are as they were. One
written change is explained by its own report, passes that touch different warnings add up, and so
the report of the whole check explains the whole check.
-/

namespace MbedBlocks

/-- The warning stored under a tag on the block that the id means. -/
def Graph.stored (g : Graph) (id tag : String) : Option String :=
  (g.get? id).bind fun b => b.warning? tag

namespace CheckReport

/-- The blocks and tags that a report mentions. -/
def keys (r : CheckReport) : List (String × String) :=
  r.set.map (fun w => (w.blockId, w.tag)) ++ r.cleared.map fun c => (c.blockId, c.tag)

/-- The report is the difference between the warnings stored before and after. -/
structure Explains (r : CheckReport) (before after : Graph) : Prop where
  stored_of_set : ∀ w ∈ r.set, after.stored w.blockId w.tag = some w.message
  stored_of_cleared : ∀ c ∈ r.cleared, after.stored c.blockId c.tag = none
  present : ∀ c ∈ r.cleared, (before.stored c.blockId c.tag).isSome
  kept : ∀ id tag, (id, tag) ∉ r.keys → after.stored id tag = before.stored id tag
  /-- No block and tag are mentioned twice, be it in one list or in both. -/
  once : r.keys.Nodup

section Laws

variable {r r₁ r₂ : CheckReport} {g g₁ g₂ : Graph}

lemma mem_keys_of_set {w : Warning} (h : w ∈ r.set) : (w.blockId, w.tag) ∈ r.keys :=
  List.mem_append_left _ (List.mem_map.mpr ⟨w, h, rfl⟩)

lemma mem_keys_of_cleared {c : ClearedWarning} (h : c ∈ r.cleared) : (c.blockId, c.tag) ∈ r.keys :=
  List.mem_append_right _ (List.mem_map.mpr ⟨c, h, rfl⟩)

lemma explains_unchanged (h : ∀ id tag, g₁.stored id tag = g.stored id tag) :
    ({} : CheckReport).Explains g g₁ where
  stored_of_set := by simp
  stored_of_cleared := by simp
  present := by simp
  kept id tag _ := h id tag
  once := by simp [keys]

/-- A warning that is gone was reported as cleared. -/
lemma Explains.mem_cleared (h : r.Explains g g₁) {id tag message : String}
    (hbefore : g.stored id tag = some message) (hafter : g₁.stored id tag = none) :
    { blockId := id, tag } ∈ r.cleared := by
  by_contra hcleared
  have hkey : (id, tag) ∉ r.keys := by
    intro hkey
    rcases List.mem_append.mp hkey with hset | hkey
    · obtain ⟨w, hw, heq⟩ := List.mem_map.mp hset
      obtain ⟨rfl, rfl⟩ := Prod.mk.inj heq
      rw [h.stored_of_set w hw] at hafter
      cases hafter
    · obtain ⟨c, hc, heq⟩ := List.mem_map.mp hkey
      obtain ⟨rfl, rfl⟩ := Prod.mk.inj heq
      exact hcleared hc
  rw [h.kept id tag hkey, hbefore] at hafter
  cases hafter

/-- The reports of two passes that touch different warnings add up, in whatever order they are
listed. -/
theorem Explains.trans (h₁ : r₁.Explains g g₁) (h₂ : r₂.Explains g₁ g₂)
    (hdisjoint : r₁.keys.Disjoint r₂.keys) (hset : r.set.Perm (r₁.set ++ r₂.set))
    (hcleared : r.cleared.Perm (r₁.cleared ++ r₂.cleared)) : r.Explains g g₂ := by
  have hkeys : r.keys.Perm (r₁.keys ++ r₂.keys) := by
    refine ((hset.map _).append (hcleared.map _)).trans ?_
    simp only [keys, List.map_append, List.append_assoc]
    exact List.Perm.append_left _ (List.perm_append_comm_assoc _ _ _)
  refine ⟨fun w hw => ?_, fun c hc => ?_, fun c hc => ?_, fun id tag hkey => ?_, ?_⟩
  · rcases List.mem_append.mp (hset.mem_iff.mp hw) with hw | hw
    · rw [h₂.kept _ _ (hdisjoint (mem_keys_of_set hw)), h₁.stored_of_set w hw]
    · exact h₂.stored_of_set w hw
  · rcases List.mem_append.mp (hcleared.mem_iff.mp hc) with hc | hc
    · rw [h₂.kept _ _ (hdisjoint (mem_keys_of_cleared hc)), h₁.stored_of_cleared c hc]
    · exact h₂.stored_of_cleared c hc
  · rcases List.mem_append.mp (hcleared.mem_iff.mp hc) with hc | hc
    · exact h₁.present c hc
    · have hpresent := h₂.present c hc
      rwa [h₁.kept _ _ fun hkey => hdisjoint hkey (mem_keys_of_cleared hc)] at hpresent
  · have hkey : (id, tag) ∉ r₁.keys ++ r₂.keys := fun h => hkey (hkeys.mem_iff.mpr h)
    rw [h₂.kept id tag fun h => hkey (List.mem_append_right _ h),
      h₁.kept id tag fun h => hkey (List.mem_append_left _ h)]
  · exact hkeys.nodup_iff.mpr (h₁.once.append h₂.once hdisjoint)

end Laws

end CheckReport

/-! ### Stored warnings -/

namespace Block

lemma warning?_setWarning (b : Block) (tag tag' : String) (message : Option String) :
    (b.setWarning tag message).warning? tag' = if tag' = tag then message else b.warning? tag' := by
  cases message with
  | none => exact Dict.get?_erase b.warnings tag tag'
  | some message => exact Dict.get?_insert b.warnings tag tag' message

end Block

namespace Graph

lemma get?_of_map {g g' : Graph} {f : Block → Block} (h : g'.blocks = g.blocks.map f)
    (hf : ∀ b, (f b).id = b.id) (id : String) : g'.get? id = (g.get? id).map f := by
  have hid : (fun b : Block => b.id == id) ∘ f = fun b => b.id == id := by
    funext b
    rw [Function.comp_apply, hf]
  unfold get?
  rw [h, ← List.map_reverse, List.find?_map, hid]

lemma stored_of_map {g g' : Graph} {f : Block → Block} (h : g'.blocks = g.blocks.map f)
    (hf : ∀ b, (f b).id = b.id) (id tag : String) :
    g'.stored id tag = (g.get? id).bind fun b => (f b).warning? tag := by
  rw [stored, get?_of_map h hf, Option.bind_map]
  rfl

lemma Distinct.stored_eq {g : Graph} (hg : g.Distinct) {b : Block} (hb : b ∈ g.blocks)
    (tag : String) : g.stored b.id tag = b.warning? tag := by
  rw [stored, hg.get?_eq hb]
  rfl

end Graph

namespace Update

/-- The tag that a change sets or clears. -/
def tag? : Update → Option String
  | warn tag _ => some tag
  | clear tag => some tag
  | label _ _ => none

/-- The warning that a change leaves under its tag. -/
def message? : Update → Option String
  | warn _ message => some message
  | clear _ => none
  | label _ _ => none

lemma warning?_applyTo (b : Block) (u : Update) (tag : String) :
    (u.applyTo b).warning? tag = if u.tag? = some tag then u.message? else b.warning? tag := by
  cases u with
  | warn tag' message =>
    rw [applyTo, Block.warning?_setWarning]
    simp [tag?, message?, eq_comm]
  | clear tag' =>
    rw [applyTo, Block.warning?_setWarning]
    simp [tag?, message?, eq_comm]
  | label field text => rfl

end Update

namespace Check

/-- The blocks and tags that changes touch. -/
def touched (changes : List (String × Update)) : List (String × String) :=
  changes.filterMap fun change => change.2.tag?.map fun tag => (change.1, tag)

section Writing

variable {g : Graph} {b : Block}

lemma stored_write (hg : g.Distinct) (hb : b ∈ g.blocks) (r : CheckReport) (u : Update)
    (id tag : String) :
    (write (g, r) (b.id, u)).1.stored id tag =
      if id = b.id ∧ u.tag? = some tag then u.message? else g.stored id tag := by
  have hkeeps (c : Block) : (if c.id = b.id then u.applyTo c else c).id = c.id := by
    split_ifs
    · exact id_applyTo c u
    · rfl
  rw [Graph.stored_of_map (blocks_write hg r b.id u) hkeeps]
  by_cases hid : id = b.id
  · subst hid
    rw [hg.stored_eq hb, hg.get?_eq hb, Option.bind_some, if_pos rfl, Update.warning?_applyTo]
    simp
  · rw [if_neg fun h => hid h.1, Graph.stored]
    cases hget : g.get? id with
    | none => rfl
    | some c =>
      obtain ⟨-, rfl⟩ := Graph.get?_mem hget
      rw [Option.bind_some, Option.bind_some, if_neg hid]

/-- What one change adds to a report. -/
lemma report_write (g : Graph) (r : CheckReport) (change : String × Update) :
    (write (g, r) change).1 = (write (g, {}) change).1 ∧
    (write (g, r) change).2.set = r.set ++ (write (g, {}) change).2.set ∧
    (write (g, r) change).2.cleared = r.cleared ++ (write (g, {}) change).2.cleared := by
  obtain ⟨id, u⟩ := change
  cases u with
  | warn tag message => simp [write]
  | label field text => simp [write]
  | clear tag =>
    dsimp only [write]
    split_ifs <;> simp

lemma keys_write (g : Graph) (r : CheckReport) (change : String × Update) :
    (write (g, r) change).2.keys ⊆ r.keys ++ touched [change] := by
  obtain ⟨id, u⟩ := change
  intro key hkey
  cases u with
  | warn tag message =>
    simpa [write, CheckReport.keys, touched, Update.tag?, or_assoc, or_comm] using hkey
  | label field text => exact List.mem_append_left _ hkey
  | clear tag =>
    dsimp only [write] at hkey
    split_ifs at hkey
    · simpa [CheckReport.keys, touched, Update.tag?, or_assoc] using hkey
    · exact List.mem_append_left _ hkey

lemma write_clear (g : Graph) (id tag : String) :
    write (g, {}) (id, .clear tag) =
      if (g.stored id tag).isSome then
        (g.modify id fun b => b.setWarning tag none, { cleared := [{ blockId := id, tag }] })
      else (g, {}) := rfl

/-- Step: the report of one change explains it. -/
lemma explains_write (hg : g.Distinct) (hb : b ∈ g.blocks) (u : Update) :
    (write (g, {}) (b.id, u)).2.Explains g (write (g, {}) (b.id, u)).1 := by
  have hstored := stored_write hg hb {} u
  have hother (id tag : String) (hkey : (id, tag) ∉ touched [(b.id, u)]) :
      (write (g, {}) (b.id, u)).1.stored id tag = g.stored id tag := by
    rw [hstored, if_neg]
    rintro ⟨rfl, htag⟩
    simp [touched, htag] at hkey
  cases u with
  | label field text =>
    exact CheckReport.explains_unchanged fun id tag => hother id tag (by simp [touched, Update.tag?])
  | warn tag message =>
    refine ⟨?_, by simp [write], by simp [write], hother, by simp [write, CheckReport.keys]⟩
    intro w hw
    rw [List.mem_singleton.mp hw, hstored]
    exact if_pos ⟨rfl, rfl⟩
  | clear tag =>
    rw [write_clear] at hother hstored ⊢
    split_ifs at hother hstored ⊢ with hpresent
    · refine ⟨by simp, ?_, ?_, hother, by simp [CheckReport.keys]⟩
      · intro c hc
        rw [List.mem_singleton.mp hc, hstored]
        exact if_pos ⟨rfl, rfl⟩
      · intro c hc
        rw [List.mem_singleton.mp hc]
        exact hpresent
    · exact CheckReport.explains_unchanged fun _ _ => rfl

lemma touched_append (changes more : List (String × Update)) :
    touched (changes ++ more) = touched changes ++ touched more := List.filterMap_append

lemma ids_write (hg : g.Distinct) (r : CheckReport) (change : String × Update) :
    (write (g, r) change).1.blocks.map Block.id = g.blocks.map Block.id := by
  rw [blocks_write hg, List.map_map]
  refine List.map_congr_left fun c _ => ?_
  rw [Function.comp_apply]
  split_ifs
  · exact id_applyTo c change.2
  · rfl

/-- Run: the report of changes that touch no warning twice explains them. -/
theorem explains_foldl_write (changes : List (String × Update)) {g₀ g : Graph} {r : CheckReport}
    (h : r.Explains g₀ g) (hg : g.Distinct)
    (hids : ∀ change ∈ changes, change.1 ∈ g.blocks.map Block.id)
    (hdisjoint : r.keys.Disjoint (touched changes)) (hnodup : (touched changes).Nodup) :
    (changes.foldl write (g, r)).2.Explains g₀ (changes.foldl write (g, r)).1 := by
  induction changes generalizing g r with
  | nil => exact h
  | cons change changes ih =>
    rw [← List.singleton_append, touched_append] at hdisjoint hnodup
    obtain ⟨hfirst, hrest⟩ := List.disjoint_append_right.mp hdisjoint
    obtain ⟨-, hlater, hapart⟩ := List.nodup_append'.mp hnodup
    obtain ⟨b, hb, hid⟩ := List.mem_map.mp (hids change List.mem_cons_self)
    obtain ⟨id, u⟩ := change
    obtain rfl : b.id = id := hid
    have hstep : (write (g, r) (b.id, u)).2.Explains g₀ (write (g, r) (b.id, u)).1 := by
      obtain ⟨hgraph, hset, hcleared⟩ := report_write g r (b.id, u)
      rw [hgraph]
      refine h.trans (explains_write hg hb u) ?_ (hset ▸ .rfl) (hcleared ▸ .rfl)
      exact fun key hkey hown => hfirst hkey (keys_write g {} (b.id, u) hown)
    have hdistinct := distinct_write hg r b.id u
    have hblocks := ids_write hg r (b.id, u)
    have hkeys := keys_write g r (b.id, u)
    rw [List.foldl_cons]
    generalize write (g, r) (b.id, u) = next at *
    refine ih hstep hdistinct ?_ ?_ hlater
    · rw [hblocks]
      exact fun change hchange => hids change (List.mem_cons_of_mem _ hchange)
    · intro key hkey htouched
      rcases List.mem_append.mp (hkeys hkey) with hkey | hkey
      · exact hrest hkey htouched
      · exact hapart hkey htouched

lemma keys_foldl_write (changes : List (String × Update)) (g : Graph) (r : CheckReport) :
    (changes.foldl write (g, r)).2.keys ⊆ r.keys ++ touched changes := by
  induction changes generalizing g r with
  | nil => exact List.subset_append_left _ _
  | cons change changes ih =>
    have hstep := keys_write g r change
    rw [List.foldl_cons, ← List.singleton_append, touched_append, ← List.append_assoc]
    generalize write (g, r) change = next at *
    intro key hkey
    rcases List.mem_append.mp (ih next.1 next.2 hkey) with hkey | hkey
    · exact List.mem_append_left _ (hstep hkey)
    · exact List.mem_append_right _ hkey

end Writing

end Check

/-! ### The tags of each pass -/

/-- The tags of the warnings that a capability sets and clears. -/
def Capability.tags : Capability → List String
  | pairedSetup setup => [Tag.unknownResource, setup.mismatchTag]
  | namedSetup _ => []
  | uses use => [use.tag]
  | toneFrequency => [Tag.tone]

/-- The tags that the rules between blocks set and clear on a block. -/
def Block.checkTags (b : Block) : List String := b.capabilities.flatMap Capability.tags

namespace Check

lemma checkTags_of_entry :
    ∀ info ∈ catalogue, (info.capabilities.flatMap Capability.tags).Nodup ∧
      Tag.staleOption ∉ info.capabilities.flatMap Capability.tags := by
  decide

lemma checkTags_separate (b : Block) : b.checkTags.Nodup ∧ Tag.staleOption ∉ b.checkTags := by
  unfold Block.checkTags Block.capabilities
  cases hinfo : b.info? with
  | none => simp
  | some info => exact checkTags_of_entry info (b.mem_of_info? hinfo).1

lemma tags_label (setup : PairedSetup) (text : Label → String) :
    (setup.label.toList.map fun label => Update.label label.field (text label)).filterMap
      Update.tag? = [] := by
  cases setup.label <;> rfl

lemma tags_pairing (board : Board) (b : Block) (setup : PairedSetup) :
    (pairing board b setup).filterMap Update.tag? = [Tag.unknownResource, setup.mismatchTag] := by
  have hneutral : (neutralLabel setup).filterMap Update.tag? = [] := tags_label setup _
  have hunit (unit : String) : (unitLabel setup unit).filterMap Update.tag? = [] :=
    tags_label setup _
  unfold pairing
  cases board.unit (b.text setup.primary) setup.mapper with
  | error e => simp [Update.tag?, hneutral]
  | ok unit =>
    dsimp only
    split_ifs
    · simp [Update.tag?, hunit]
    · simp [Update.tag?, hneutral]

/-- Which tags are touched does not depend on what the check finds. -/
lemma tags_capabilityUpdates (g : Graph) (board : Board) (configured : List (Family × String))
    (b : Block) (capability : Capability) :
    (capabilityUpdates g board configured b capability).filterMap Update.tag? =
      capability.tags := by
  cases capability with
  | pairedSetup setup => exact tags_pairing board b setup
  | namedSetup setup => rfl
  | uses use =>
    dsimp only [capabilityUpdates, usage]
    split_ifs <;> rfl
  | toneFrequency =>
    dsimp only [capabilityUpdates, tone]
    cases literalFrequency? g b with
    | none => rfl
    | some frequency =>
      dsimp only
      split_ifs <;> rfl

lemma tags_ownUpdates (g : Graph) (board : Board) (b : Block) :
    (ownUpdates g board b).filterMap Update.tag? = b.checkTags := by
  unfold ownUpdates Block.checkTags
  rw [List.filterMap_flatMap]
  simp only [tags_capabilityUpdates]

lemma touched_updates (g : Graph) (board : Board) :
    touched (updates g board) = g.blocks.flatMap fun b => b.checkTags.map fun tag => (b.id, tag) := by
  unfold touched updates
  rw [List.filterMap_flatMap]
  congr 1
  funext b
  rw [← tags_ownUpdates g board b, List.filterMap_map, List.map_filterMap]
  rfl

lemma nodup_touched_updates {g : Graph} (hg : g.Distinct) (board : Board) :
    (touched (updates g board)).Nodup := by
  rw [touched_updates]
  refine List.nodup_flatMap.mpr ⟨fun b _ => ?_, ?_⟩
  · exact (checkTags_separate b).1.map fun tag tag' h => (Prod.mk.inj h).2
  · refine (List.pairwise_map.mp hg).imp fun {b c} hne key hb hc => ?_
    obtain ⟨tag, -, rfl⟩ := List.mem_map.mp hb
    obtain ⟨tag', -, hkey⟩ := List.mem_map.mp hc
    exact hne (Prod.mk.inj hkey).1.symm

/-- The report on the rules between blocks explains what was written for them. -/
theorem explains_checkConsistency {g : Graph} (hg : g.Distinct) (board : Board) :
    (g.checkConsistency board).2.Explains g (g.checkConsistency board).1 := by
  refine explains_foldl_write (updates g board) (CheckReport.explains_unchanged fun _ _ => rfl) hg
    (fun change hchange => ?_) (fun key hkey => absurd hkey List.not_mem_nil)
    (nodup_touched_updates hg board)
  obtain ⟨b, hb, hu⟩ := List.mem_flatMap.mp hchange
  obtain ⟨u, -, rfl⟩ := List.mem_map.mp hu
  exact List.mem_map_of_mem hb

lemma mem_checkTags_of_key {g : Graph} {board : Board} {id tag : String}
    (h : (id, tag) ∈ (g.checkConsistency board).2.keys) :
    ∃ b ∈ g.blocks, b.id = id ∧ tag ∈ b.checkTags := by
  have htouched : (id, tag) ∈ touched (updates g board) :=
    keys_foldl_write (updates g board) g {} h
  rw [touched_updates] at htouched
  obtain ⟨b, hb, hkey⟩ := List.mem_flatMap.mp htouched
  obtain ⟨tag', htag, hpair⟩ := List.mem_map.mp hkey
  obtain ⟨rfl, rfl⟩ := Prod.mk.inj hpair
  exact ⟨b, hb, rfl, htag⟩

end Check

/-! ### The refresh of options -/

namespace Block

lemma id_refresh (b : Block) (board : Board) : (b.refresh board).id = b.id := by
  change (b.refresh board).bare.id = b.bare.id
  rw [bare_refresh]

lemma optionFields_of_stale {b : Block} {board : Board} {value : String}
    (h : b.stale? board = some value) : b.optionFields.isEmpty = false := by
  cases hfields : b.optionFields with
  | nil => simp [stale?_eq_getLast?, boundFields, hfields] at h
  | cons field fields => rfl

lemma warning?_refresh (b : Block) (board : Board) (tag : String) :
    (b.refresh board).warning? tag =
      if b.optionFields.isEmpty = false ∧ tag = Tag.staleOption then
        (b.stale? board).map staleMessage
      else b.warning? tag := by
  have hkept (fields : List (String × Board.Category)) (c : Block) :
      (fields.foldl (fun c f => c.refreshField board f.1 f.2) c).warnings = c.warnings := by
    induction fields generalizing c with
    | nil => rfl
    | cons f fields ih => exact ih (c.refreshField board f.1 f.2)
  rw [refresh_eq_markStale]
  cases b.optionFields.isEmpty with
  | true => simp
  | false =>
    rw [if_neg (by decide), markStale, warning?_setWarning]
    simp [warning?, hkept]

end Block

namespace OptionRefresh

/-- A refresh as a report. -/
def report (r : OptionRefresh) : CheckReport := { set := r.stale, cleared := r.cleared }

end OptionRefresh

namespace Graph

variable {g : Graph} {board : Board}

/-- The mark of a stale value on a block. -/
def markKey (b : Block) : String × String := (b.id, Tag.staleOption)

lemma keys_refreshOptions (g : Graph) (board : Board) :
    (g.refreshOptions board).2.report.keys =
      (g.blocks.filter (fun b => (b.stale? board).isSome) ++
        g.blocks.filter fun b => b.losesMark board).map markKey := by
  have hstale (blocks : List Block) :
      (blocks.filterMap fun b => (b.stale? board).map b.staleWarning).map
        (fun w => (w.blockId, w.tag)) =
      (blocks.filter fun b => (b.stale? board).isSome).map markKey := by
    induction blocks with
    | nil => rfl
    | cons b blocks ih => cases h : b.stale? board <;> simp [h, ih, Block.staleWarning, markKey]
  rw [List.map_append, ← hstale, CheckReport.keys]
  simp [refreshOptions, OptionRefresh.report, markKey, Function.comp_def]

lemma tag_of_refresh_key {id tag : String} (h : (id, tag) ∈ (g.refreshOptions board).2.report.keys) :
    tag = Tag.staleOption := by
  rw [keys_refreshOptions] at h
  obtain ⟨b, -, hkey⟩ := List.mem_map.mp h
  exact (Prod.mk.inj hkey).2.symm

lemma stored_refreshOptions (id tag : String) :
    (g.refreshOptions board).1.stored id tag =
      (g.get? id).bind fun b => (b.refresh board).warning? tag := by
  have hblocks : (g.refreshOptions board).1.blocks = g.blocks.map fun b => b.refresh board := rfl
  exact stored_of_map hblocks (fun b => b.id_refresh board) id tag

lemma mem_of_cleared_mark {c : ClearedWarning} (h : c ∈ (g.refreshOptions board).2.cleared) :
    ∃ b ∈ g.blocks, c = { blockId := b.id, tag := Tag.staleOption } ∧
      b.optionFields.isEmpty = false ∧ (b.warning? Tag.staleOption).isSome ∧
      b.stale? board = none := by
  obtain ⟨b, hb, rfl⟩ := List.mem_map.mp h
  obtain ⟨hb, hmark⟩ := List.mem_filter.mp hb
  simp only [Block.losesMark, Bool.and_eq_true, Bool.not_eq_true', Option.isNone_iff_eq_none] at hmark
  exact ⟨b, hb, rfl, hmark.1.1, hmark.1.2, hmark.2⟩

/-- A block that is neither marked nor loses its mark has the warnings it had. -/
lemma warning?_refresh_of_unlisted {b : Block} (hb : b ∈ g.blocks) {tag : String}
    (hkey : (b.id, tag) ∉ (g.refreshOptions board).2.report.keys) :
    (b.refresh board).warning? tag = b.warning? tag := by
  rw [Block.warning?_refresh]
  split_ifs with hbound
  · obtain ⟨hfields, rfl⟩ := hbound
    have hlisted (h : b ∈ g.blocks.filter (fun b => (b.stale? board).isSome) ++
        g.blocks.filter fun b => b.losesMark board) : False := by
      rw [keys_refreshOptions] at hkey
      exact hkey (List.mem_map.mpr ⟨b, h, rfl⟩)
    have hstale : b.stale? board = none := by
      by_contra hstale
      refine hlisted (List.mem_append_left _ (List.mem_filter.mpr ⟨hb, ?_⟩))
      exact Option.isSome_iff_ne_none.mpr hstale
    have hmark : b.warning? Tag.staleOption = none := by
      by_contra hmark
      refine hlisted (List.mem_append_right _ (List.mem_filter.mpr ⟨hb, ?_⟩))
      simp [Block.losesMark, hfields, hstale, Option.isSome_iff_ne_none.mpr hmark]
    rw [hstale, hmark]
    rfl
  · rfl

lemma nodup_keys_refreshOptions (hg : g.Distinct) :
    (g.refreshOptions board).2.report.keys.Nodup := by
  have hblocks : g.blocks.Nodup := List.Nodup.of_map _ hg
  have hapart : (g.blocks.filter fun b => (b.stale? board).isSome).Disjoint
      (g.blocks.filter fun b => b.losesMark board) := by
    intro b hstale hloses
    have hstale := (List.mem_filter.mp hstale).2
    have hloses := (List.mem_filter.mp hloses).2
    simp only [Block.losesMark, Bool.and_eq_true, Option.isNone_iff_eq_none] at hloses
    rw [hloses.2] at hstale
    cases hstale
  rw [keys_refreshOptions]
  refine ((hblocks.filter _).append (hblocks.filter _) hapart).map_on fun b hb c hc hkey => ?_
  rw [List.mem_append, List.mem_filter, List.mem_filter] at hb hc
  exact hg.eq_of_id (hb.elim And.left And.left) (hc.elim And.left And.left) (Prod.mk.inj hkey).1

/-- The marks that a refresh lists explain what it did to the warnings. -/
theorem explains_refreshOptions (hg : g.Distinct) :
    (g.refreshOptions board).2.report.Explains g (g.refreshOptions board).1 := by
  refine ⟨fun w hw => ?_, fun c hc => ?_, fun c hc => ?_, fun id tag hkey => ?_,
    nodup_keys_refreshOptions hg⟩
  · obtain ⟨b, hb, hstale⟩ := List.mem_filterMap.mp hw
    obtain ⟨value, hvalue, rfl⟩ := Option.map_eq_some_iff.mp hstale
    rw [stored_refreshOptions, Block.staleWarning, hg.get?_eq hb, Option.bind_some,
      Block.warning?_refresh, if_pos ⟨Block.optionFields_of_stale hvalue, rfl⟩, hvalue]
    rfl
  · obtain ⟨b, hb, rfl, hfields, -, hstale⟩ := mem_of_cleared_mark hc
    rw [stored_refreshOptions, hg.get?_eq hb, Option.bind_some, Block.warning?_refresh,
      if_pos ⟨hfields, rfl⟩, hstale]
    rfl
  · obtain ⟨b, hb, rfl, -, hmark, -⟩ := mem_of_cleared_mark hc
    rw [hg.stored_eq hb]
    exact hmark
  · rw [stored_refreshOptions, stored]
    cases hget : g.get? id with
    | none => rfl
    | some b =>
      obtain ⟨hb, rfl⟩ := get?_mem hget
      exact warning?_refresh_of_unlisted hb hkey

lemma ids_refreshOptions (g : Graph) (board : Board) :
    (g.refreshOptions board).1.blocks.map Block.id = g.blocks.map Block.id := by
  change (g.blocks.map fun b => b.refresh board).map Block.id = g.blocks.map Block.id
  rw [List.map_map]
  exact List.map_congr_left fun b _ => b.id_refresh board

lemma Distinct.refreshOptions (hg : g.Distinct) : (g.refreshOptions board).1.Distinct := by
  unfold Distinct
  rw [ids_refreshOptions]
  exact hg

lemma ids_checkConsistency (hg : g.Distinct) :
    (g.checkConsistency board).1.blocks.map Block.id = g.blocks.map Block.id := by
  have hkeeps (us : List Update) (b : Block) : (us.foldl Update.applyTo b).id = b.id := by
    induction us generalizing b with
    | nil => rfl
    | cons u us ih => rw [List.foldl_cons, ih, Check.id_applyTo]
  rw [blocks_checkConsistency hg, List.map_map]
  exact List.map_congr_left fun b _ => hkeeps _ b

/-! ### The whole check -/

/-- The check for a board. -/
def checkFor (g : Graph) (board : Board) : Graph × CheckReport :=
  let refreshed := g.refreshOptions board
  let checked := refreshed.1.checkConsistency board
  (checked.1,
    { set := checked.2.set ++ refreshed.2.stale
      cleared := checked.2.cleared ++ refreshed.2.cleared })

lemma check_of_board {options : Options} {boards : Boards}
    (h : boards.get options.board = .ok board) :
    g.check options boards = .ok (g.checkFor board) := by
  unfold check
  rw [h]
  rfl

theorem explains_checkFor (hg : g.Distinct) :
    (g.checkFor board).2.Explains g (g.checkFor board).1 := by
  refine (explains_refreshOptions hg).trans (Check.explains_checkConsistency hg.refreshOptions board)
    ?_ List.perm_append_comm List.perm_append_comm
  rintro ⟨id, tag⟩ hrefresh hcheck
  obtain ⟨b, -, -, htag⟩ := Check.mem_checkTags_of_key hcheck
  rw [tag_of_refresh_key hrefresh] at htag
  exact (Check.checkTags_separate b).2 htag

lemma ids_checkFor (hg : g.Distinct) :
    (g.checkFor board).1.blocks.map Block.id = g.blocks.map Block.id :=
  (ids_checkConsistency hg.refreshOptions).trans (ids_refreshOptions g board)

end Graph

namespace Proofs

/-- A check for an unknown board leaves the graph as it is. Any other check keeps the blocks and
reports exactly what it does to their warnings. -/
theorem check_report_explains (g : Graph) (hg : g.Distinct) (options : Options) (boards : Boards) :
    (boards.profiles.get? options.board = none ∧
      g.check options boards = .error (.boardNotFound options.board) ∧
      (CheckStep.check options boards).apply g = g) ∨
    ((boards.profiles.get? options.board).isSome ∧ ∃ checked report,
      g.check options boards = .ok (checked, report) ∧
      (CheckStep.check options boards).apply g = checked ∧
      checked.blocks.map Block.id = g.blocks.map Block.id ∧ report.Explains g checked) := by
  cases hboard : boards.profiles.get? options.board with
  | none =>
    have hget : boards.get options.board = .error (.boardNotFound options.board) := by
      rw [Boards.get, hboard]
    have hcheck : g.check options boards = .error (.boardNotFound options.board) := by
      rw [Graph.check, hget]
      rfl
    exact .inl ⟨rfl, hcheck, by rw [CheckStep.apply, hcheck]⟩
  | some board =>
    have hget : boards.get options.board = .ok board := by rw [Boards.get, hboard]
    have hcheck := Graph.check_of_board (g := g) hget
    exact .inr ⟨rfl, (g.checkFor board).1, (g.checkFor board).2, hcheck,
      by rw [CheckStep.apply, hcheck], Graph.ids_checkFor hg, Graph.explains_checkFor hg⟩

/-- A serial line whose pins belong to different units, with a warning from when its receiving pin
was unknown, and an output on a pin that the board does not have. -/
def rewired : Graph :=
  { blocks :=
      [{ id := "line"
         kind := "serial_setup"
         fields :=
          Dict.insert (Dict.insert {} "SERIAL_ID" (.text "PA_10")) "SERIAL_ID_TX" (.text "PA_2")
         warnings := Dict.insert {} "unknown_resource" "Pin D0 is not available" },
       { id := "lamp"
         kind := "io_digitalwrite"
         fields := Dict.insert {} "PIN" (.text "D13") }] }

theorem check_report_explains_rewired :
    rewired.Distinct ∧ ∃ checked report, rewired.check {} .builtin = .ok (checked, report) ∧
      report.set.map (fun w => (w.blockId, w.tag)) =
        [("line", "serial_rx_tx_mismatch"), ("lamp", "bPin")] ∧
      report.cleared = [{ blockId := "line", tag := "unknown_resource" }] ∧
      report.Explains rewired checked := by
  have hids : rewired.Distinct := by
    unfold Graph.Distinct
    decide
  have hreport : ((rewired.check {} .builtin).toOption.map fun result =>
      (result.2.set.map (fun w => (w.blockId, w.tag)), result.2.cleared)) =
      some ([("line", "serial_rx_tx_mismatch"), ("lamp", "bPin")],
        [{ blockId := "line", tag := "unknown_resource" }]) := by
    decide +kernel
  rcases check_report_explains rewired hids {} .builtin with
    ⟨-, herror, -⟩ | ⟨-, checked, report, hcheck, -, -, hexplains⟩
  · rw [herror] at hreport
    cases hreport
  · rw [hcheck] at hreport
    obtain ⟨hset, hcleared⟩ := Prod.mk.inj (Option.some.inj hreport)
    exact ⟨hids, checked, report, hcheck, hset, hcleared, hexplains⟩

end Proofs

end MbedBlocks
