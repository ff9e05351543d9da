import MbedBlocks.Check
import MbedBlocks.Proofs.Embeddings
import MbedBlocks.Proofs.KindEntries
import MbedBlocks.Proofs.RefreshInTurn

/-!
# Annotations do not reach the program

Checks write to the blocks of a graph: labels that show a unit, dropdown options and warnings. A
block without these annotations is bare. Compilation gives the same program for a graph and for the
graph of its bare blocks, and no check changes a block in more than its annotations; so a graph
compiles alike before and after any checks.
-/

namespace MbedBlocks

open Code (Level Fragment)

/-! ### Bare blocks -/

/-- The fields in which setup blocks show their unit. -/
def labelFields : List String := ["SERIAL_NAME", "BH1750_NAME", "BMP180_NAME"]

namespace Dict

variable {α : Type}

def without (d : Dict α) (keys : List String) : Dict α :=
  ⟨d.entries.filter fun entry => !keys.contains entry.1, d.ordered.filter _⟩

lemma get?_without (d : Dict α) {keys : List String} {key : String} (h : key ∉ keys) :
    (d.without keys).get? key = d.get? key :=
  lookup_filter (p := fun key => !keys.contains key) (by simpa using h) d.entries

lemma filter_insertEntry {p : String → Bool} {key : String} (h : p key = false) (value : α)
    (entries : List (String × α)) :
    (insertEntry key value entries).filter (fun entry => p entry.1) =
      entries.filter fun entry => p entry.1 := by
  induction entries with
  | nil => simp [insertEntry, h]
  | cons entry rest ih =>
    unfold insertEntry
    split_ifs with hlt heq
    · simp [List.filter_cons, h]
    · simp [h, ← heq]
    · simp [List.filter_cons, ih]

lemma without_insert (d : Dict α) {keys : List String} {key : String} (h : key ∈ keys) (value : α) :
    (d.insert key value).without keys = d.without keys :=
  ext_entries
    (filter_insertEntry (p := fun key => !keys.contains key) (by simpa using h) value d.entries)

end Dict

namespace Block

/-- What compilation sees of a block: no labels, no dropdown options and no warnings. -/
def bare (b : Block) : Block :=
  { b with fields := b.fields.without labelFields, options := {}, warnings := {} }

lemma bare_text (b : Block) {name : String} (h : name ∉ labelFields) :
    b.bare.text name = b.text name := by
  unfold text
  rw [bare, Dict.get?_without _ h]

lemma bare_textOr (b : Block) {name : String} (h : name ∉ labelFields) (fallback : String) :
    b.bare.textOr name fallback = b.textOr name fallback := by
  unfold textOr
  rw [bare_text b h]

lemma bare_isChecked (b : Block) {name : String} (h : name ∉ labelFields) :
    b.bare.isChecked name = b.isChecked name := by
  unfold isChecked
  rw [bare, Dict.get?_without _ h]

end Block

/-! ### No rule reads an annotation -/

section Rules

variable (b : Block)

lemma LanguageKind.emit_bare (k : LanguageKind) : k.emit b.bare = k.emit b := by
  cases k with
  | branch => rfl
  | _ =>
    simp (disch := decide) only [emit, emitNumber, emitArithmetic, emitOperation, emitRepetition,
      Block.bare_text, Block.bare_textOr]

lemma PinKind.emit_bare (k : PinKind) : k.emit b.bare = k.emit b := by
  cases k <;> simp (disch := decide) only [emit, emitWrite, emitDigitalRead, emitAnalogRead,
    emitPwm, pulseLevel, emitPulse, emitPulseTimeout, emitInterrupt, emitTone, emitSilence, pwmOut,
    Block.bare_text, Block.bare_textOr]

lemma PrintArguments.read_bare : read b.bare = read b := by
  simp (disch := decide) only [read, Block.bare_isChecked]

lemma SerialKind.emit_bare (k : SerialKind) : k.emit b.bare = k.emit b := by
  cases k <;> simp (disch := decide) only [emit, lineUnit, emitSetup, emitPrint, emitAttach,
    emitReaderSetup, emitReaderCall, PrintArguments.read_bare, Block.bare_text, Block.bare_textOr]

lemma MotorKind.emit_bare (k : MotorKind) : k.emit b.bare = k.emit b := by
  cases k <;> simp (disch := decide) only [emit, servoOut, emitServoWrite, emitServoRead,
    emitStepperSetup, emitStepperRotate, Block.bare_text, Block.bare_textOr]

lemma TimeKind.emit_bare (k : TimeKind) : k.emit b.bare = k.emit b := by
  cases k with
  | ticker =>
    simp (disch := decide) only [emit, emitTicker, Block.bare_textOr]
    rfl
  | _ => rfl

lemma SpiKind.emit_bare (k : SpiKind) : k.emit b.bare = k.emit b := by
  cases k <;> simp (disch := decide) only [emit, emitSetup, emitTransfer, emitTransferReturn,
    Block.bare_text, Block.bare_textOr]

lemma fieldPins_bare : fieldPins b.bare = fieldPins b := by
  simp (disch := decide) only [fieldPins, Block.bare_text]

lemma RadioKind.emit_bare (k : RadioKind) : k.emit b.bare = k.emit b := by
  cases k <;> simp (disch := decide) only [emit, object, emitSetup, fieldPins_bare,
    Block.bare_text, Block.bare_textOr]

lemma NetworkKind.emit_bare (k : NetworkKind) : k.emit b.bare = k.emit b := by
  cases k <;> simp (disch := decide) only [emit, emitSetup, fieldPins_bare, Block.bare_text,
    Block.bare_textOr]

lemma VoiceKind.emit_bare (k : VoiceKind) : k.emit b.bare = k.emit b := by
  cases k <;> simp (disch := decide) only [emit, emitSetup, fieldPins_bare, Block.bare_text,
    Block.bare_textOr]

lemma SensorKind.emit_bare (k : SensorKind) : k.emit b.bare = k.emit b := by
  cases k <;> simp (disch := decide) only [emit, emitCall, emitI2cSetup, emitPinSetup,
    emitAnalogSetup, emitReadable, emitReset, Block.bare_text]

lemma ImuKind.emit_bare (k : ImuKind) : k.emit b.bare = k.emit b := by
  cases k <;> simp (disch := decide) only [emit, object, emitSetup, emitGet, Block.bare_text]

lemma FileKind.emit_bare (k : FileKind) : k.emit b.bare = k.emit b := by
  cases k <;> simp (disch := decide) only [emit, handle, emitCard, emitOpen, emitPrint, emitScan,
    emitClose, fieldPins_bare, PrintArguments.read_bare, Block.bare_text, Block.bare_textOr]

end Rules

namespace Graph

def bare (g : Graph) : Graph := { g with blocks := g.blocks.map Block.bare }

variable {g : Graph}

lemma bare_get? (id : String) : g.bare.get? id = (g.get? id).map Block.bare := by
  unfold get? bare
  rw [← List.map_reverse, List.find?_map]
  rfl

lemma bare_link (link : Option String) :
    link.bind g.bare.get? = (link.bind g.get?).map Block.bare := by
  cases link with
  | none => rfl
  | some id => exact bare_get? id

end Graph

namespace VariableKind

variable {g : Graph}

lemma fieldType_bare (b : Block) : fieldType b.bare = fieldType b := by
  simp (disch := decide) only [fieldType, Block.bare_text]

lemma declaredType?_bare (name : String) : declaredType? g.bare name = declaredType? g name := by
  have hfind : (fun c : Block =>
      c.kind == "variables_declare" && c.textOr "VARNAME" defaultName == name) ∘ Block.bare =
      fun c => c.kind == "variables_declare" && c.textOr "VARNAME" defaultName == name := by
    funext c
    rw [Function.comp_apply, Block.bare_textOr c (by decide)]
    rfl
  unfold declaredType? Graph.bare
  rw [List.find?_map, Option.map_map, hfind]
  congr 1
  funext c
  exact fieldType_bare c

lemma sourceType?_bare (b : Block) : sourceType? g.bare b.bare = sourceType? g b := by
  unfold sourceType?
  rw [declaredType?_bare, fieldType_bare, Block.bare_textOr b (by decide)]
  rfl

lemma castSource_bare (b : Block) : castSource g.bare b.bare = castSource g b := by
  have hvalues : b.bare.values = b.values := rfl
  unfold castSource
  rw [Graph.bare_link, hvalues, Block.bare_textOr b (by decide)]
  cases (b.values.get? "VARIABLE_SETTYPE_INPUT").bind g.get? with
  | none => simp only [Option.map_none, declaredType?_bare]
  | some child => simp only [Option.map_some, sourceType?_bare]

lemma emit_bare (b : Block) (k : VariableKind) : k.emit g.bare b.bare = k.emit g b := by
  cases k <;> simp (disch := decide) only [emit, emitDeclare, emitDeclareArray, emitSet, emitCast,
    fieldType_bare, castSource_bare, Block.bare_textOr]

end VariableKind

/-- The rule of a kind does the same for a block and for the bare block. -/
theorem Kind.emit_bare (g : Graph) (b : Block) (k : Kind) : k.emit g.bare b.bare = k.emit g b := by
  cases k with
  | language k => exact k.emit_bare b
  | pin k => exact k.emit_bare b
  | serial k => exact k.emit_bare b
  | motor k => exact k.emit_bare b
  | time k => exact k.emit_bare b
  | spi k => exact k.emit_bare b
  | radio k => exact k.emit_bare b
  | network k => exact k.emit_bare b
  | voice k => exact k.emit_bare b
  | sensor k => exact k.emit_bare b
  | imu k => exact k.emit_bare b
  | var k => exact VariableKind.emit_bare b k
  | file k => exact k.emit_bare b
  | gcode k => rfl

/-! ### The walk through bare blocks -/

namespace Graph

variable {g : Graph}

lemma bare_topBlocks : g.bare.topBlocks = g.topBlocks.map Block.bare := by
  unfold topBlocks bare
  rw [List.filter_map, List.flatMap_map]
  rfl

/-- The bare blocks stand for the blocks of the graph. -/
lemma embeds_bare : Embeds Block.bare g g.bare where
  mem := List.mem_map_of_mem
  shape _ := ⟨rfl, rfl, rfl, rfl, rfl⟩
  found _ id _ := bare_get? id
  rule _ _ := Kind.emit_bare g _ _

/-- The bodies of the program take the same from the bare blocks. -/
theorem emitBodies_bare (board : Board) (indent : String) :
    g.bare.emitBodies (g.bare.emitter board indent []) =
      g.emitBodies (g.emitter board indent []) := by
  have hchild := embeds_bare.emitter (g := g) board indent []
  have hmap := mapM_attach_map bare_topBlocks
    (p := fun c hc => g.emitTop (g.emitter board indent []) c (mem_of_mem_topBlocks hc))
    (q := fun c hc => g.bare.emitTop (g.bare.emitter board indent []) c (mem_of_mem_topBlocks hc))
    fun c hc => embeds_bare.emitTop hchild (mem_of_mem_topBlocks hc)
  unfold emitBodies
  rw [hmap]

end Graph

def assembled (name : String) (board : Board) (options : Options) (e : Emit Bodies) : Program :=
  let context := (Context.initial options.policy).applyAll board e.effects
  { name
    sections := context.registry.sections
    setupBody := e.result.setup
    loopBody := e.result.loop
    warnings := context.warnings
    indent := options.indent
    header := options.header
    emitMain := options.emitMain }

lemma program_eq_assembled (g : Graph) (board : Board) (options : Options) :
    (Generator.new g board options).program =
      assembled g.metadata.name board options (g.emitBodies (g.emitter board options.indent [])) :=
  rfl

/-- A graph and the graph of its bare blocks have the same program. -/
theorem program_bare (g : Graph) (board : Board) (options : Options) :
    (Generator.new g.bare board options).program = (Generator.new g board options).program := by
  rw [program_eq_assembled, program_eq_assembled, Graph.emitBodies_bare]
  rfl

lemma program_congr {g g' : Graph} (h : g.bare = g'.bare) (board : Board) (options : Options) :
    (Generator.new g board options).program = (Generator.new g' board options).program := by
  rw [← program_bare g, h, program_bare]

/-! ### Checks change annotations only -/

namespace Block

lemma bare_setWarning (b : Block) (tag : String) (message : Option String) :
    (b.setWarning tag message).bare = b.bare := by
  cases message <;> rfl

lemma bare_setField (b : Block) {name : String} (h : name ∈ labelFields) (value : FieldValue) :
    (b.setField name value).bare = b.bare := by
  unfold bare setField
  rw [Dict.without_insert b.fields h]

lemma bare_refreshFields (board : Board) (fields : List (String × Board.Category)) (b : Block) :
    (fields.foldl (fun b f => b.refreshField board f.1 f.2) b).bare = b.bare := by
  induction fields generalizing b with
  | nil => rfl
  | cons f fields ih => exact ih (b.refreshField board f.1 f.2)

lemma bare_refresh (b : Block) (board : Board) : (b.refresh board).bare = b.bare := by
  rw [refresh_eq_markStale]
  split_ifs
  · rfl
  · rw [markStale, bare_setWarning, bare_refreshFields]

lemma bare_clearWarnings (tags : List String) (b : Block) :
    (tags.foldl (fun b tag => b.setWarning tag none) b).bare = b.bare := by
  induction tags generalizing b with
  | nil => rfl
  | cons tag tags ih => rw [List.foldl_cons, ih, bare_setWarning]

end Block

namespace Graph

lemma bare_modifyLast {f : Block → Block} (hf : ∀ b, (f b).bare = b.bare) (id : String)
    (blocks : List Block) :
    (modifyLast id f blocks).map Block.bare = blocks.map Block.bare := by
  induction blocks with
  | nil => rfl
  | cons b rest ih =>
    unfold modifyLast
    split_ifs
    · rw [List.map_cons, List.map_cons, ih]
    · rw [List.map_cons, List.map_cons, hf]
    · rfl

lemma bare_modify {f : Block → Block} (hf : ∀ b, (f b).bare = b.bare) (g : Graph) (id : String) :
    (g.modify id f).bare = g.bare := by
  unfold modify bare
  rw [bare_modifyLast hf]

lemma bare_map {f : Block → Block} (hf : ∀ b, (f b).bare = b.bare) (g : Graph) :
    ({ g with blocks := g.blocks.map f } : Graph).bare = g.bare := by
  unfold bare
  rw [List.map_map]
  congr 2
  funext b
  exact hf b

lemma bare_refreshOptions (g : Graph) (board : Board) : (g.refreshOptions board).1.bare = g.bare :=
  bare_map (fun b => b.bare_refresh board) g

lemma bare_applyWarnings (g : Graph) (warnings : List Warning) :
    (g.applyWarnings warnings).1.bare = g.bare := by
  have hset (g : Graph) : (warnings.foldl (fun g w => g.modify w.blockId fun b =>
      b.setWarning w.tag (some w.message)) g).bare = g.bare := by
    induction warnings generalizing g with
    | nil => rfl
    | cons w warnings ih =>
      rw [List.foldl_cons, ih, bare_modify fun b => b.bare_setWarning w.tag (some w.message)]
  unfold applyWarnings
  rw [hset, bare_map fun b => b.bare_clearWarnings (outdatedTags warnings b)]

end Graph

namespace Check

/-- A change that touches annotations only. -/
def Annotates : Update → Prop
  | .label field _ => field ∈ labelFields
  | _ => True

/-- Whether the label of a capability, if it has one, is a label field. -/
def labelKnown : Capability → Bool
  | .pairedSetup setup => setup.label.all fun label => labelFields.contains label.field
  | _ => true

lemma labelKnown_of_entry :
    ∀ info ∈ catalogue, ∀ capability ∈ info.capabilities, labelKnown capability = true := by
  decide

lemma labelKnown_of_mem {b : Block} {capability : Capability} (h : capability ∈ b.capabilities) :
    labelKnown capability = true := by
  obtain ⟨info, hinfo, -, hmem⟩ := b.exists_info?_of_capability h
  exact labelKnown_of_entry info hinfo capability hmem

lemma label_annotates {setup : PairedSetup} (h : labelKnown (.pairedSetup setup) = true)
    (text : Label → String) :
    ∀ u ∈ setup.label.toList.map fun label => Update.label label.field (text label),
      Annotates u := by
  intro u hu
  obtain ⟨label, hlabel, rfl⟩ := List.mem_map.mp hu
  rw [Option.mem_toList] at hlabel
  rw [labelKnown, hlabel] at h
  show label.field ∈ labelFields
  simpa using h

lemma pairing_annotates (board : Board) (b : Block) {setup : PairedSetup}
    (h : labelKnown (.pairedSetup setup) = true) : ∀ u ∈ pairing board b setup, Annotates u := by
  have hneutral : ∀ u ∈ neutralLabel setup, Annotates u := label_annotates h Label.neutral
  have hunit (unit : String) : ∀ u ∈ unitLabel setup unit, Annotates u :=
    label_annotates h fun label => label.render unit
  unfold pairing
  cases board.unit (b.text setup.primary) setup.mapper with
  | error e => simpa [Annotates] using hneutral
  | ok unit =>
    dsimp only
    split_ifs
    · simpa [Annotates] using hunit unit
    · simpa [Annotates] using hneutral

lemma usage_annotates (configured : List (Family × String)) (b : Block) (use : InstanceUse) :
    ∀ u ∈ usage configured b use, Annotates u := by
  dsimp only [usage]
  split_ifs <;> simp [Annotates]

lemma tone_annotates (g : Graph) (b : Block) : ∀ u ∈ tone g b, Annotates u := by
  unfold tone
  cases literalFrequency? g b with
  | none => simp [Annotates]
  | some frequency =>
    dsimp only
    split_ifs <;> simp [Annotates]

/-- All changes that follow from the rules touch annotations only. -/
theorem updates_annotate (g : Graph) (board : Board) :
    ∀ change ∈ updates g board, Annotates change.2 := by
  intro change hchange
  obtain ⟨b, -, hb⟩ := List.mem_flatMap.mp hchange
  obtain ⟨u, hu, rfl⟩ := List.mem_map.mp hb
  obtain ⟨capability, hcapability, hu⟩ := List.mem_flatMap.mp hu
  cases capability with
  | pairedSetup setup => exact pairing_annotates board b (labelKnown_of_mem hcapability) u hu
  | namedSetup setup => cases hu
  | uses use => exact usage_annotates _ b use u hu
  | toneFrequency => exact tone_annotates g b u hu

/-- Step: one change that touches annotations leaves the bare graph. -/
lemma bare_write (state : Graph × CheckReport) {change : String × Update}
    (h : Annotates change.2) : (write state change).1.bare = state.1.bare := by
  obtain ⟨g, report⟩ := state
  obtain ⟨id, update⟩ := change
  cases update with
  | warn tag message => exact Graph.bare_modify (fun b => b.bare_setWarning tag (some message)) g id
  | clear tag =>
    dsimp only [write]
    split_ifs
    · exact Graph.bare_modify (fun b => b.bare_setWarning tag none) g id
    · rfl
  | label field text => exact Graph.bare_modify (fun b => b.bare_setField h (.text text)) g id

/-- Run: so do any number of them. -/
lemma bare_foldl_write (changes : List (String × Update)) (state : Graph × CheckReport)
    (h : ∀ change ∈ changes, Annotates change.2) :
    (changes.foldl write state).1.bare = state.1.bare := by
  induction changes generalizing state with
  | nil => rfl
  | cons change changes ih =>
    rw [List.foldl_cons, ih _ fun c hc => h c (List.mem_cons_of_mem _ hc)]
    exact bare_write state (h change List.mem_cons_self)

end Check

lemma Graph.bare_checkConsistency (g : Graph) (board : Board) :
    (g.checkConsistency board).1.bare = g.bare :=
  Check.bare_foldl_write _ (g, {}) (Check.updates_annotate g board)

/-- What a session may do to a graph between two compilations without editing it. -/
inductive CheckStep where
  /-- The whole check, with the board that the options choose. -/
  | check (options : Options) (boards : Boards)
  /-- The rules between blocks alone. -/
  | consistency (board : Board)
  | refresh (board : Board)
  | annotate (warnings : List Warning)

namespace CheckStep

/-- The graph after a step. A check for a board that is not registered leaves it as it is. -/
def apply (g : Graph) : CheckStep → Graph
  | check options boards =>
    match g.check options boards with
    | .ok (checked, _) => checked
    | .error _ => g
  | consistency board => (g.checkConsistency board).1
  | refresh board => (g.refreshOptions board).1
  | annotate warnings => (g.applyWarnings warnings).1

/-- Step: no kind of step changes the bare graph. -/
lemma bare_apply (g : Graph) (step : CheckStep) : (step.apply g).bare = g.bare := by
  cases step with
  | check options boards =>
    dsimp only [apply, Graph.check]
    cases boards.get options.board with
    | error e => rfl
    | ok board =>
      show ((g.refreshOptions board).1.checkConsistency board).1.bare = g.bare
      rw [Graph.bare_checkConsistency, Graph.bare_refreshOptions]
  | consistency board => exact g.bare_checkConsistency board
  | refresh board => exact g.bare_refreshOptions board
  | annotate warnings => exact g.bare_applyWarnings warnings

/-- Run: nor does any sequence of them. -/
lemma bare_foldl_apply (steps : List CheckStep) (g : Graph) :
    (steps.foldl apply g).bare = g.bare := by
  induction steps generalizing g with
  | nil => rfl
  | cons step steps ih => rw [List.foldl_cons, ih, bare_apply]

end CheckStep

namespace Proofs

/-- Checking never changes what is compiled: after any sequence of checks, with whatever options,
boards and warnings, a graph compiles to the same program. -/
theorem compile_foldl_checkStep (g : Graph) (steps : List CheckStep) (options : Options)
    (boards : Boards) :
    compile (steps.foldl CheckStep.apply g) options boards = compile g options boards := by
  have hbare : (steps.foldl CheckStep.apply g).bare = g.bare := CheckStep.bare_foldl_apply steps g
  unfold compile
  cases boards.get options.board with
  | error e => rfl
  | ok board => exact congrArg Except.ok (program_congr hbare board options)

end Proofs

end MbedBlocks
