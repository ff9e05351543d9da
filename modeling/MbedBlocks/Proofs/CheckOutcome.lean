import MbedBlocks.Proofs.WarningOwnership

/-!
# The outcome of a check

What a check makes of each block, said from the graph as it was: whether the unit that a block works
on is configured, to which units the two pins of a setup block belong, and what the check leaves
alone. All changes come from the capability of the block itself, each for another tag or label, so
every one of them is in force in the end and nothing else is touched.
-/

namespace MbedBlocks

/-! ### Configured instances -/

namespace Graph

/-- A block at top level sets up the unit, either as that of its first pin or by its name. -/
def Configured (g : Graph) (board : Board) (family : Family) (unit : String) : Prop :=
  ∃ b ∈ g.blocks, (∀ c ∈ g.blocks, b.id ∉ c.links) ∧
    ((∃ setup, .pairedSetup setup ∈ b.capabilities ∧ setup.family = family ∧
        (board.mapper setup.mapper).get? (b.text setup.primary) = some unit) ∨
      ∃ setup, .namedSetup setup ∈ b.capabilities ∧ setup.family = family ∧
        b.text setup.field = unit)

lemma mem_topBlocks_iff {g : Graph} {b : Block} :
    b ∈ g.topBlocks ↔ b ∈ g.blocks ∧ ∀ c ∈ g.blocks, b.id ∉ c.links := by
  simp [topBlocks]

end Graph

lemma Board.toOption_unit (board : Board) (pin : String) (mapper : Mapper) :
    (board.unit pin mapper).toOption = (board.mapper mapper).get? pin := by
  unfold unit
  cases (board.mapper mapper).get? pin <;> rfl

namespace Check

variable {g : Graph} {board : Board} {b : Block} {family : Family} {unit : String}

lemma instanceOf?_of_paired {setup : PairedSetup} (h : .pairedSetup setup ∈ b.capabilities) :
    instanceOf? board b =
      ((board.mapper setup.mapper).get? (b.text setup.primary)).map fun unit =>
        (setup.family, unit) := by
  obtain ⟨info, -, hinfo, hcapabilities⟩ := Proofs.exists_info?_of_single h
  have hpaired : info.pairedSetup? = some setup := by
    simp [KindInfo.pairedSetup?, hcapabilities]
  simp only [instanceOf?, hinfo, hpaired, Board.toOption_unit]

lemma instanceOf?_of_named {setup : NamedSetup} (h : .namedSetup setup ∈ b.capabilities) :
    instanceOf? board b = some (setup.family, b.text setup.field) := by
  obtain ⟨info, -, hinfo, hcapabilities⟩ := Proofs.exists_info?_of_single h
  have hpaired : info.pairedSetup? = none := by simp [KindInfo.pairedSetup?, hcapabilities]
  have hnamed : info.namedSetup? = some setup := by simp [KindInfo.namedSetup?, hcapabilities]
  simp only [instanceOf?, hinfo, hpaired, hnamed]

lemma setup_of_instanceOf? (h : instanceOf? board b = some (family, unit)) :
    (∃ setup, .pairedSetup setup ∈ b.capabilities) ∨
      ∃ setup, .namedSetup setup ∈ b.capabilities := by
  unfold instanceOf? at h
  unfold Block.capabilities
  cases hinfo : b.info? with
  | none =>
    rw [hinfo] at h
    cases h
  | some info =>
    cases hpaired : info.pairedSetup? with
    | some setup => exact .inl ⟨setup, info.mem_of_pairedSetup? hpaired⟩
    | none =>
      cases hnamed : info.namedSetup? with
      | some setup => exact .inr ⟨setup, info.mem_of_namedSetup? hnamed⟩
      | none => simp [hinfo, hpaired, hnamed] at h

/-- The instances that a check collects are the configured ones. -/
theorem mem_instances_iff :
    (family, unit) ∈ instances g board ↔ g.Configured board family unit := by
  unfold instances Graph.Configured
  simp only [List.mem_filterMap, Graph.mem_topBlocks_iff, and_assoc]
  refine exists_congr fun b => and_congr_right fun _ => and_congr_right fun _ => ?_
  constructor
  · intro h
    rcases setup_of_instanceOf? h with ⟨setup, hsetup⟩ | ⟨setup, hsetup⟩
    · rw [instanceOf?_of_paired hsetup] at h
      obtain ⟨unit', hunit, hpair⟩ := Option.map_eq_some_iff.mp h
      obtain ⟨rfl, rfl⟩ := Prod.mk.inj hpair
      exact .inl ⟨setup, hsetup, rfl, hunit⟩
    · rw [instanceOf?_of_named hsetup] at h
      obtain ⟨rfl, rfl⟩ := Prod.mk.inj (Option.some.inj h)
      exact .inr ⟨setup, hsetup, rfl, rfl⟩
  · rintro (⟨setup, hsetup, rfl, hunit⟩ | ⟨setup, hsetup, rfl, rfl⟩)
    · rw [instanceOf?_of_paired hsetup, hunit]
      rfl
    · exact instanceOf?_of_named hsetup

end Check

/-! ### Changes of fields -/

namespace Update

lemma field_applyTo_of_ne {u : Update} {name : String} (h : u.target ≠ .field name) (b : Block) :
    (u.applyTo b).fields.get? name = b.fields.get? name := by
  cases u with
  | warn tag message => rfl
  | clear tag => rfl
  | label field text =>
    have hne : name ≠ field := fun hname => h (by rw [hname, target])
    exact (Dict.get?_insert b.fields field name (.text text)).trans (if_neg hne)

lemma field_foldl_of_untouched {us : List Update} {name : String}
    (h : ∀ u ∈ us, u.target ≠ .field name) (b : Block) :
    (us.foldl applyTo b).fields.get? name = b.fields.get? name := by
  induction us generalizing b with
  | nil => rfl
  | cons u us ih =>
    rw [List.foldl_cons, ih fun v hv => h v (List.mem_cons_of_mem u hv),
      field_applyTo_of_ne (h u List.mem_cons_self)]

/-- Where each target is written once, a label is what its change says. -/
lemma field_foldl_of_mem {us : List Update} (hus : (us.map target).Nodup) {name text : String}
    (h : .label name text ∈ us) (b : Block) :
    (us.foldl applyTo b).fields.get? name = some (.text text) := by
  induction us generalizing b with
  | nil => cases h
  | cons u us ih =>
    obtain ⟨hu, hus⟩ := List.nodup_cons.mp hus
    rw [List.foldl_cons]
    rcases List.mem_cons.mp h with rfl | h
    · have hothers : ∀ v ∈ us, v.target ≠ .field name := fun v hv htarget =>
        hu (List.mem_map.mpr ⟨v, hv, htarget⟩)
      rw [field_foldl_of_untouched hothers]
      exact Dict.get?_insert_self b.fields name (.text text)
    · exact ih hus h _

/-- Changes are made to warnings and fields. -/
lemma rest_foldl_applyTo (us : List Update) (b : Block) (fields : Dict FieldValue)
    (warnings : Dict String) :
    { us.foldl applyTo b with fields, warnings } = { b with fields, warnings } := by
  induction us generalizing b with
  | nil => rfl
  | cons u us ih =>
    rw [List.foldl_cons, ih]
    cases u <;> rfl

end Update

/-! ### Labels -/

namespace Label

lemma render_injective (label : Label) {unit unit' : String}
    (h : label.render unit = label.render unit') : unit = unit' := by
  simpa [render, String.append_left_inj, String.append_right_inj] using h

/-- A label with a unit in it cannot be taken for the neutral one. -/
def Telling (label : Label) : Prop :=
  ¬(label.before.toList <+: label.neutral.toList ∧ label.after.toList <:+ label.neutral.toList)

instance (label : Label) : Decidable label.Telling := inferInstanceAs (Decidable (¬_))

lemma Telling.render_ne {label : Label} (h : label.Telling) (unit : String) :
    label.render unit ≠ label.neutral := by
  intro heq
  refine h ⟨?_, ?_⟩
  · rw [← heq, render, String.toList_append, String.toList_append, List.append_assoc]
    exact List.prefix_append _ _
  · rw [← heq, render, String.toList_append]
    exact List.suffix_append _ _

end Label

def Capability.label? : Capability → Option Label
  | pairedSetup setup => setup.label
  | _ => none

lemma telling_of_entry :
    ∀ info ∈ catalogue, ∀ capability ∈ info.capabilities, ∀ label ∈ capability.label?,
      label.Telling := by
  decide

lemma Block.telling {b : Block} {setup : PairedSetup} {label : Label}
    (h : .pairedSetup setup ∈ b.capabilities) (hlabel : setup.label = some label) :
    label.Telling := by
  obtain ⟨info, hinfo, -, hmem⟩ := b.exists_info?_of_capability h
  exact telling_of_entry info hinfo _ hmem label hlabel

/-! ### The outcome of the pairing rule -/

namespace PairedSetup

/-- The unit of the first pin of a setup block. -/
def primaryUnit? (setup : PairedSetup) (board : Board) (b : Block) : Option String :=
  (board.mapper setup.mapper).get? (b.text setup.primary)

/-- The unit of the second pin of a setup block. -/
def secondaryUnit? (setup : PairedSetup) (board : Board) (b : Block) : Option String :=
  (board.mapper setup.mapper).get? (b.text setup.secondary)

/-- Both pins belong to the unit. -/
def Joins (setup : PairedSetup) (board : Board) (b : Block) (unit : String) : Prop :=
  setup.primaryUnit? board b = some unit ∧ setup.secondaryUnit? board b = some unit

def unknownMessage (setup : PairedSetup) (b : Block) : String :=
  (Error.unknownResource (b.text setup.primary) setup.mapper).message

/-- The second pin is named by its unit, or by itself if it has none. -/
def mismatchMessage (setup : PairedSetup) (board : Board) (b : Block) (unit : String) : String :=
  unit ++ " mismatches " ++ (setup.secondaryUnit? board b).getD (b.text setup.secondary)

lemma Joins.unique {setup : PairedSetup} {board : Board} {b : Block} {unit unit' : String}
    (h : setup.Joins board b unit) (h' : setup.Joins board b unit') : unit = unit' :=
  Option.some.inj (h.1.symm.trans h'.1)

end PairedSetup

namespace Check

variable {g : Graph} {board : Board} {b : Block} {setup : PairedSetup}

/-- The three outcomes of the pairing rule. -/
lemma pairing_cases (board : Board) (b : Block) (setup : PairedSetup) :
    (setup.primaryUnit? board b = none ∧ pairing board b setup =
      .warn Tag.unknownResource (setup.unknownMessage b) :: .clear setup.mismatchTag ::
        neutralLabel setup) ∨
    (∃ unit, setup.Joins board b unit ∧ pairing board b setup =
      .clear Tag.unknownResource :: .clear setup.mismatchTag :: unitLabel setup unit) ∨
    ∃ unit, setup.primaryUnit? board b = some unit ∧ setup.secondaryUnit? board b ≠ some unit ∧
      pairing board b setup =
        .clear Tag.unknownResource ::
          .warn setup.mismatchTag (setup.mismatchMessage board b unit) :: neutralLabel setup := by
  cases hprimary : setup.primaryUnit? board b with
  | none =>
    have hunit : board.unit (b.text setup.primary) setup.mapper =
        .error (.unknownResource (b.text setup.primary) setup.mapper) := by
      rw [PairedSetup.primaryUnit?] at hprimary
      rw [Board.unit, hprimary]
    refine .inl ⟨rfl, ?_⟩
    rw [pairing, hunit]
    rfl
  | some unit =>
    have hunit : board.unit (b.text setup.primary) setup.mapper = .ok unit := by
      rw [PairedSetup.primaryUnit?] at hprimary
      rw [Board.unit, hprimary]
    have hsecondary : (board.unit (b.text setup.secondary) setup.mapper).toOption =
        setup.secondaryUnit? board b := board.toOption_unit _ _
    by_cases hjoined : setup.secondaryUnit? board b = some unit
    · refine .inr (.inl ⟨unit, ⟨hprimary, hjoined⟩, ?_⟩)
      rw [pairing, hunit]
      simp only [hsecondary, if_pos hjoined]
    · refine .inr (.inr ⟨unit, rfl, hjoined, ?_⟩)
      rw [pairing, hunit]
      simp only [hsecondary, if_neg hjoined]
      rfl

lemma ownUpdates_of_use {use : InstanceUse} (h : .uses use ∈ b.capabilities) :
    ownUpdates g board b = usage (instances g board) b use := by
  rw [ownUpdates, Proofs.capabilities_eq h]
  exact List.append_nil _

/-- The block as a check leaves it. -/
def outcome (g : Graph) (board : Board) (b : Block) : Block :=
  (ownUpdates g board b).foldl Update.applyTo b

/-- Every change that a block's own capability asks for is in force in the end. -/
lemma warning?_outcome {u : Update} (hu : u ∈ ownUpdates g board b) {tag : String}
    (htag : u.tag? = some tag) : (outcome g board b).warning? tag = u.message? := by
  refine Update.warning?_foldl_of_mem ?_ hu htag b
  rw [tags_ownUpdates]
  exact (checkTags_separate b).1

lemma label_outcome {field text : String} (h : .label field text ∈ ownUpdates g board b) :
    (outcome g board b).fields.get? field = some (.text text) :=
  Update.field_foldl_of_mem (targets_ownUpdates g board b) h b

lemma unknown_outcome (h : .pairedSetup setup ∈ b.capabilities) (message : String) :
    (outcome g board b).warning? Tag.unknownResource = some message ↔
      setup.primaryUnit? board b = none ∧ message = setup.unknownMessage b := by
  have hown : ownUpdates g board b = pairing board b setup := ownUpdates_of_setup h
  rcases pairing_cases board b setup with
    ⟨hnone, hpairing⟩ | ⟨unit, hjoins, hpairing⟩ | ⟨unit, hprimary, -, hpairing⟩
  · have hu : .warn Tag.unknownResource (setup.unknownMessage b) ∈ ownUpdates g board b := by
      simp [hown, hpairing]
    rw [warning?_outcome hu rfl]
    simp [Update.message?, hnone, eq_comm]
  · have hu : .clear Tag.unknownResource ∈ ownUpdates g board b := by simp [hown, hpairing]
    rw [warning?_outcome hu rfl]
    simp [Update.message?, hjoins.1]
  · have hu : .clear Tag.unknownResource ∈ ownUpdates g board b := by simp [hown, hpairing]
    rw [warning?_outcome hu rfl]
    simp [Update.message?, hprimary]

lemma mismatch_outcome (h : .pairedSetup setup ∈ b.capabilities) (message : String) :
    (outcome g board b).warning? setup.mismatchTag = some message ↔
      ∃ unit, setup.primaryUnit? board b = some unit ∧ setup.secondaryUnit? board b ≠ some unit ∧
        message = setup.mismatchMessage board b unit := by
  have hown : ownUpdates g board b = pairing board b setup := ownUpdates_of_setup h
  rcases pairing_cases board b setup with
    ⟨hnone, hpairing⟩ | ⟨unit, hjoins, hpairing⟩ | ⟨unit, hprimary, hsecondary, hpairing⟩
  · have hu : .clear setup.mismatchTag ∈ ownUpdates g board b := by simp [hown, hpairing]
    rw [warning?_outcome hu rfl]
    simp [Update.message?, hnone]
  · have hu : .clear setup.mismatchTag ∈ ownUpdates g board b := by simp [hown, hpairing]
    rw [warning?_outcome hu rfl]
    simp [Update.message?, hjoins.1, hjoins.2]
  · have hu : .warn setup.mismatchTag (setup.mismatchMessage board b unit) ∈
        ownUpdates g board b := by
      simp [hown, hpairing]
    rw [warning?_outcome hu rfl]
    constructor
    · intro hmessage
      exact ⟨unit, hprimary, hsecondary, (Option.some.inj hmessage).symm⟩
    · rintro ⟨unit', hprimary', -, rfl⟩
      rw [Option.some.inj (hprimary.symm.trans hprimary')]
      rfl

lemma label_outcome_cases (h : .pairedSetup setup ∈ b.capabilities) {label : Label}
    (hlabel : setup.label = some label) :
    (∃ unit, setup.Joins board b unit ∧
      (outcome g board b).fields.get? label.field = some (.text (label.render unit))) ∨
    (¬∃ unit, setup.Joins board b unit) ∧
      (outcome g board b).fields.get? label.field = some (.text label.neutral) := by
  have hown : ownUpdates g board b = pairing board b setup := ownUpdates_of_setup h
  have hneutral : .label label.field label.neutral ∈ neutralLabel setup := by
    simp [neutralLabel, hlabel]
  rcases pairing_cases board b setup with
    ⟨hnone, hpairing⟩ | ⟨unit, hjoins, hpairing⟩ | ⟨unit, hprimary, hsecondary, hpairing⟩
  · refine .inr ⟨?_, label_outcome ?_⟩
    · rintro ⟨unit, hjoins⟩
      rw [hjoins.1] at hnone
      cases hnone
    · rw [hown, hpairing]
      exact List.mem_cons_of_mem _ (List.mem_cons_of_mem _ hneutral)
  · refine .inl ⟨unit, hjoins, label_outcome ?_⟩
    simp [hown, hpairing, unitLabel, hlabel]
  · refine .inr ⟨?_, label_outcome ?_⟩
    · rintro ⟨unit', hjoins⟩
      obtain rfl : unit = unit' := Option.some.inj (hprimary.symm.trans hjoins.1)
      exact hsecondary hjoins.2
    · rw [hown, hpairing]
      exact List.mem_cons_of_mem _ (List.mem_cons_of_mem _ hneutral)

lemma use_outcome {use : InstanceUse} (h : .uses use ∈ b.capabilities) (message : String) :
    (outcome g board b).warning? use.tag = some message ↔
      ¬g.Configured board use.family (b.text use.field) ∧
        message = (missingSetup (b.text use.field)).message := by
  have hown : ownUpdates g board b = _ := ownUpdates_of_use h
  by_cases hconfigured : g.Configured board use.family (b.text use.field)
  · have hu : .clear use.tag ∈ ownUpdates g board b := by
      simp [hown, usage, mem_instances_iff, hconfigured]
    rw [warning?_outcome hu rfl]
    simp [Update.message?, hconfigured]
  · have hu : .warn use.tag (missingSetup (b.text use.field)).message ∈ ownUpdates g board b := by
      simp [hown, usage, mem_instances_iff, hconfigured]
    rw [warning?_outcome hu rfl]
    simp [Update.message?, hconfigured, eq_comm]

/-! ### What a check leaves alone -/

lemma tone_of_entry :
    ∀ info ∈ catalogue, .toneFrequency ∈ info.capabilities → info.name = "io_tone" := by
  decide

/-- Only tones have a frequency to be checked. -/
lemma kind_of_toneFrequency (h : .toneFrequency ∈ b.capabilities) : b.kind = "io_tone" := by
  obtain ⟨info, hmem, hinfo, hcapability⟩ := b.exists_info?_of_capability h
  rw [← (b.mem_of_info? hinfo).2, tone_of_entry info hmem hcapability]

lemma target_label {u : Update} {name : String} (h : u.target = .field name) :
    ∃ text, u = .label name text := by
  cases u with
  | warn tag message => cases h
  | clear tag => cases h
  | label field text =>
    cases h
    exact ⟨text, rfl⟩

lemma label_of_mem_map {text : Label → String} {field shown : String}
    (h : .label field shown ∈
      setup.label.toList.map fun label => Update.label label.field (text label)) :
    ∃ label, setup.label = some label ∧ label.field = field := by
  obtain ⟨label, hlabel, heq⟩ := List.mem_map.mp h
  exact ⟨label, Option.mem_toList.mp hlabel, (Update.label.inj heq).1⟩

lemma label_of_mem_pairing {field text : String} (h : .label field text ∈ pairing board b setup) :
    ∃ label, setup.label = some label ∧ label.field = field := by
  rcases pairing_cases board b setup with
    ⟨-, hpairing⟩ | ⟨unit, -, hpairing⟩ | ⟨unit, -, -, hpairing⟩ <;>
  · simp only [hpairing, List.mem_cons, reduceCtorEq, false_or] at h
    exact label_of_mem_map h

/-- A check writes no field but the label of a setup block. -/
lemma label_of_mem_ownUpdates {field text : String} (h : .label field text ∈ ownUpdates g board b) :
    ∃ setup label, .pairedSetup setup ∈ b.capabilities ∧ setup.label = some label ∧
      label.field = field := by
  obtain ⟨capability, hcapability, hu⟩ := List.mem_flatMap.mp h
  cases capability with
  | pairedSetup setup =>
    obtain ⟨label, hlabel, hfield⟩ := label_of_mem_pairing hu
    exact ⟨setup, label, hcapability, hlabel, hfield⟩
  | namedSetup setup => cases hu
  | uses use =>
    dsimp only [capabilityUpdates, usage] at hu
    split_ifs at hu <;> simp at hu
  | toneFrequency =>
    dsimp only [capabilityUpdates, tone] at hu
    cases hliteral : literalFrequency? g b with
    | none => simp [hliteral] at hu
    | some frequency =>
      simp only [hliteral] at hu
      split_ifs at hu <;> simp at hu

end Check

/-- What a check makes of a block. -/
structure Block.Checked (g : Graph) (board : Board) (b b' : Block) : Prop where
  /-- A block that works on a unit is told of a setup block that is missing, and of nothing else. -/
  use : ∀ use, .uses use ∈ b.capabilities → ∀ message,
    b'.warning? use.tag = some message ↔ ¬g.Configured board use.family (b.text use.field) ∧
      message = "A setup block for " ++ b.text use.field ++
        " must be added to the workspace to use this block!"
  unknown : ∀ setup, .pairedSetup setup ∈ b.capabilities → ∀ message,
    b'.warning? Tag.unknownResource = some message ↔
      setup.primaryUnit? board b = none ∧ message = setup.unknownMessage b
  mismatch : ∀ setup, .pairedSetup setup ∈ b.capabilities → ∀ message,
    b'.warning? setup.mismatchTag = some message ↔
      ∃ unit, setup.primaryUnit? board b = some unit ∧ setup.secondaryUnit? board b ≠ some unit ∧
        message = setup.mismatchMessage board b unit
  label_unit : ∀ setup label, .pairedSetup setup ∈ b.capabilities → setup.label = some label →
    ∀ unit, b'.fields.get? label.field = some (.text (label.render unit)) ↔
      setup.Joins board b unit
  label_neutral : ∀ setup label, .pairedSetup setup ∈ b.capabilities → setup.label = some label →
    (b'.fields.get? label.field = some (.text label.neutral) ↔ ¬∃ unit, setup.Joins board b unit)
  other_fields : ∀ name,
    (∀ setup label, .pairedSetup setup ∈ b.capabilities → setup.label = some label →
      label.field ≠ name) →
    b'.fields.get? name = b.fields.get? name
  other_warnings : ∀ tag,
    (∀ use, .uses use ∈ b.capabilities → use.tag ≠ tag) →
    (∀ setup, .pairedSetup setup ∈ b.capabilities →
      Tag.unknownResource ≠ tag ∧ setup.mismatchTag ≠ tag) →
    ¬(b.kind = "io_tone" ∧ tag = "io_tone") →
    b'.warning? tag = b.warning? tag
  rest : { b' with fields := b.fields, warnings := b.warnings } = b

namespace Check

theorem checked_outcome (g : Graph) (board : Board) (b : Block) :
    b.Checked g board (outcome g board b) where
  use _ h message := use_outcome h message
  unknown _ h message := unknown_outcome h message
  mismatch _ h message := mismatch_outcome h message
  label_unit setup label h hlabel unit := by
    rcases label_outcome_cases (g := g) h hlabel with ⟨joined, hjoins, hshown⟩ | ⟨hnone, hshown⟩
    · rw [hshown]
      constructor
      · intro heq
        rw [← label.render_injective (FieldValue.text.inj (Option.some.inj heq))]
        exact hjoins
      · intro hunit
        rw [hjoins.unique hunit]
    · rw [hshown]
      constructor
      · intro heq
        exact absurd (FieldValue.text.inj (Option.some.inj heq)).symm
          ((Block.telling h hlabel).render_ne unit)
      · exact fun hunit => absurd ⟨unit, hunit⟩ hnone
  label_neutral setup label h hlabel := by
    rcases label_outcome_cases (g := g) h hlabel with ⟨unit, hjoins, hshown⟩ | ⟨hnone, hshown⟩
    · rw [hshown]
      refine iff_of_false (fun heq => ?_) (not_not_intro ⟨unit, hjoins⟩)
      exact (Block.telling h hlabel).render_ne unit (FieldValue.text.inj (Option.some.inj heq))
    · exact iff_of_true hshown hnone
  other_fields name h := by
    refine Update.field_foldl_of_untouched (fun u hu htarget => ?_) b
    obtain ⟨text, rfl⟩ := target_label htarget
    obtain ⟨setup, label, hsetup, hlabel, hfield⟩ := label_of_mem_ownUpdates hu
    exact h setup label hsetup hlabel hfield
  other_warnings tag huse hsetup htone := by
    refine Update.warning?_foldl_of_untouched (fun htouched => ?_) b
    rw [tags_ownUpdates] at htouched
    obtain ⟨capability, hcapability, htag⟩ := List.mem_flatMap.mp htouched
    cases capability with
    | pairedSetup setup =>
      simp only [Capability.tags, List.mem_cons, List.not_mem_nil, or_false] at htag
      exact htag.elim (fun h => (hsetup setup hcapability).1 h.symm)
        fun h => (hsetup setup hcapability).2 h.symm
    | namedSetup setup => cases htag
    | uses use => exact huse use hcapability (List.mem_singleton.mp htag).symm
    | toneFrequency =>
      exact htone ⟨kind_of_toneFrequency hcapability, List.mem_singleton.mp htag⟩
  rest := Update.rest_foldl_applyTo _ b b.fields b.warnings

end Check

namespace Proofs

/-- A check of a graph without repeated ids changes each block as its own rule says and leaves
everything else as it was. -/
theorem check_outcome_exact (g : Graph) (hg : g.Distinct) (board : Board) :
    (g.checkConsistency board).1.metadata = g.metadata ∧
      List.Forall₂ (Block.Checked g board) g.blocks (g.checkConsistency board).1.blocks := by
  refine ⟨?_, ?_⟩
  · change (g.checkConsistency board).1.bare.metadata = g.bare.metadata
    rw [Graph.bare_checkConsistency]
  · rw [Graph.blocks_checkConsistency hg, List.forall₂_map_right_iff, List.forall₂_same]
    exact fun b _ => Check.checked_outcome g board b

/-- A serial line whose pins belong to two units, a block that works on the first of them and
carries a warning from before, one that works on the second, and a tone that is too high. -/
def workshop : Graph :=
  { blocks :=
      [{ id := "print"
         kind := "serial_print"
         fields := Dict.insert {} "SERIAL_Pins" (.text "Serial_1")
         warnings := Dict.insert {} "serial_setup" "No line yet" },
       { id := "read"
         kind := "serial_getc"
         fields := Dict.insert {} "SERIAL_Pins" (.text "Serial_2") },
       { id := "line"
         kind := "serial_setup"
         fields :=
          Dict.insert (Dict.insert {} "SERIAL_ID" (.text "PA_10")) "SERIAL_ID_TX" (.text "PA_2")
         warnings := Dict.insert {} "unknown_resource" "Pin D0 is not available" },
       { id := "tone", kind := "io_tone", values := Dict.insert {} "FREQUENCY" "hz" },
       { id := "hz", kind := "math_number", fields := Dict.insert {} "NUM" (.text "70000") }] }

lemma distinct_workshop : workshop.Distinct := by
  unfold Graph.Distinct
  decide

theorem check_outcome_exact_workshop :
    workshop.Distinct ∧
    workshop.Configured Board.Nucleo.profile .serial "Serial_1" ∧
    ¬workshop.Configured Board.Nucleo.profile .serial "Serial_2" ∧
    (workshop.checkConsistency Board.Nucleo.profile).1.blocks.map (fun b => b.warnings.keys) =
      [[], ["serial_setup"], ["serial_rx_tx_mismatch"], ["io_tone"], []] ∧
    List.Forall₂ (Block.Checked workshop Board.Nucleo.profile) workshop.blocks
      (workshop.checkConsistency Board.Nucleo.profile).1.blocks := by
  have hfound : (.serial, "Serial_1") ∈ Check.instances workshop Board.Nucleo.profile ∧
      (.serial, "Serial_2") ∉ Check.instances workshop Board.Nucleo.profile ∧
      (workshop.checkConsistency Board.Nucleo.profile).1.blocks.map (fun b => b.warnings.keys) =
        [[], ["serial_setup"], ["serial_rx_tx_mismatch"], ["io_tone"], []] := by
    decide +kernel
  simp only [Check.mem_instances_iff] at hfound
  exact ⟨distinct_workshop, hfound.1, hfound.2.1, hfound.2.2,
    (check_outcome_exact workshop distinct_workshop Board.Nucleo.profile).2⟩

end Proofs

end MbedBlocks
