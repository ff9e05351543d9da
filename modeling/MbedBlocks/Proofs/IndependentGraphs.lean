import MbedBlocks.Proofs.ContextIndependence
import MbedBlocks.Proofs.Embeddings
import MbedBlocks.Proofs.KindEntries

/-!
# Independent graphs compile side by side

A graph whose links and casts do not refer to the blocks around it is embedded as it is in the whole.
Top blocks, chains, the code of blocks and the types of variables are then found in it alone, so the
bodies of two such graphs follow one another in the program of both.
-/

namespace MbedBlocks

namespace VariableKind

variable {g g' : Graph} {b : Block}

/-- The variable whose declaration tells a cast the type of its input: the one that is plugged in,
or the one that the field of the cast names. Other blocks in the socket have a type of their own. -/
def lookedUp? (g : Graph) (b : Block) : Option String :=
  match (b.values.get? "VARIABLE_SETTYPE_INPUT").bind g.get? with
  | some child =>
    if child.kind = "variables_get" then some (child.textOr "VAR" defaultName) else none
  | none => some (b.textOr "VARNAME" defaultName)

/-- Whether a block is a declaration of the variable. -/
def Declares (b : Block) (name : String) : Prop :=
  b.kind = "variables_declare" ∧ b.textOr "VARNAME" defaultName = name

instance (b : Block) (name : String) : Decidable (Declares b name) :=
  inferInstanceAs (Decidable (_ ∧ _))

lemma find?_of_undeclared {name : String} {others : List Block}
    (h : ∀ c ∈ others, ¬Declares c name) :
    (others.find? fun c =>
      c.kind == "variables_declare" && c.textOr "VARNAME" defaultName == name) = none := by
  refine List.find?_eq_none.mpr fun c hc hfound => h c hc ?_
  simpa [Declares] using hfound

/-- Declarations of other variables around a graph do not change the type of a variable. -/
lemma declaredType?_of_undeclared {before after : List Block} {name : String}
    (hwhole : g'.blocks = before ++ g.blocks ++ after)
    (h : ∀ c ∈ before ++ after, ¬Declares c name) :
    declaredType? g' name = declaredType? g name := by
  have hbefore := find?_of_undeclared fun c hc => h c (List.mem_append_left after hc)
  have hafter := find?_of_undeclared fun c hc => h c (List.mem_append_right before hc)
  unfold declaredType?
  rw [hwhole, List.find?_append, List.find?_append, hbefore, hafter, Option.none_or, Option.or_none]

/-- A cast is told the same type where its input and the declaration it looks up are the same. -/
lemma castSource_congr
    (hinput : (b.values.get? "VARIABLE_SETTYPE_INPUT").bind g'.get? =
      (b.values.get? "VARIABLE_SETTYPE_INPUT").bind g.get?)
    (htype : ∀ name, lookedUp? g b = some name → declaredType? g' name = declaredType? g name) :
    castSource g' b = castSource g b := by
  unfold castSource
  unfold lookedUp? at htype
  rw [hinput]
  cases hchild : (b.values.get? "VARIABLE_SETTYPE_INPUT").bind g.get? with
  | none =>
    rw [hchild] at htype
    simp only [htype _ rfl]
  | some child =>
    rw [hchild] at htype
    have hsource : sourceType? g' child = sourceType? g child := by
      unfold sourceType?
      split
      next hget => exact htype _ (if_pos hget)
      next => rfl
      next => rfl
    simp only [hsource]

end VariableKind

/-- Only casts look at the graph. -/
lemma Kind.emit_congr {g g' : Graph} {b : Block} {k : Kind}
    (hcast : k = .var .cast → VariableKind.castSource g' b = VariableKind.castSource g b) :
    k.emit g' b = k.emit g b := by
  cases k with
  | var k =>
    cases k with
    | cast =>
      simp only [Kind.emit, VariableKind.emit, VariableKind.emitCast, hcast rfl]
    | declare | declareArray | get | set => rfl
  | language k | pin k | serial k | motor k | time k | spi k | radio k | network k | voice k
  | sensor k | imu k | file k | gcode k => rfl

namespace Graph

/-- The graph does not refer to the other blocks, nor do they share an id with it. -/
structure Ignores (g : Graph) (others : List Block) : Prop where
  ids : ∀ b ∈ g.blocks, ∀ c ∈ others, c.id ≠ b.id
  links : ∀ b ∈ g.blocks, ∀ c ∈ others, c.id ∉ b.links
  casts : ∀ b ∈ g.blocks, b.kind = "variables_set_type" → ∀ name ∈ VariableKind.lookedUp? g b,
    ∀ c ∈ others, ¬VariableKind.Declares c name

variable {g whole : Graph} {before after : List Block}

lemma get?_of_absent {id : String} (hwhole : whole.blocks = before ++ g.blocks ++ after)
    (h : ∀ c ∈ before ++ after, c.id ≠ id) : whole.get? id = g.get? id := by
  have habsent (others : List Block) (hothers : ∀ c ∈ others, c ∈ before ++ after) :
      (others.reverse.find? fun c => c.id == id) = none := by
    refine List.find?_eq_none.mpr fun c hc => ?_
    simpa using h c (hothers c (List.mem_reverse.mp hc))
  have hbefore := habsent before fun c hc => List.mem_append_left after hc
  have hafter := habsent after fun c hc => List.mem_append_right before hc
  unfold get?
  rw [hwhole, List.reverse_append, List.reverse_append, List.find?_append, List.find?_append,
    hbefore, hafter, Option.none_or, Option.or_none]

/-- A graph is embedded among blocks that it ignores. -/
theorem Ignores.embeds (before after : List Block) (h : g.Ignores (before ++ after))
    (hwhole : whole.blocks = before ++ g.blocks ++ after) : Embeds id g whole := by
  have hfound {b : Block} (hb : b ∈ g.blocks) :
      ∀ id ∈ b.id :: b.links, whole.get? id = g.get? id := by
    intro id hid
    apply get?_of_absent hwhole
    intro c hc hcid
    rcases List.mem_cons.mp hid with rfl | hlink
    · exact h.ids b hb c hc hcid
    · exact h.links b hb c hc (hcid ▸ hlink)
  refine { mem := ?_, shape := ?_, found := ?_, rule := ?_ }
  · intro b hb
    rw [hwhole]
    exact List.mem_append_left _ (List.mem_append_right _ hb)
  · intro b _
    exact ⟨rfl, rfl, rfl, rfl, rfl⟩
  · intro b hb id hid
    rw [hfound hb id hid, Option.map_id, id_eq]
  · intro b k hb hk
    rw [id_eq]
    apply Kind.emit_congr
    rintro rfl
    have hkind : (Kind.var .cast).name = b.kind := Block.kind?_eq_some_iff.mp hk
    apply VariableKind.castSource_congr
    · cases hid : b.values.get? "VARIABLE_SETTYPE_INPUT" with
      | none => rfl
      | some id => exact hfound hb id (List.mem_cons_of_mem _ (Block.mem_links_of_value hid))
    · intro name hname
      exact VariableKind.declaredType?_of_undeclared hwhole fun c hc =>
        h.casts b hb hkind.symm name hname c hc

/-- The top blocks of two graphs are those of each. -/
lemma topBlocks_append {g₁ g₂ : Graph} (hwhole : whole.blocks = g₁.blocks ++ g₂.blocks)
    (h₁ : g₁.Ignores g₂.blocks) (h₂ : g₂.Ignores g₁.blocks) :
    whole.topBlocks = g₁.topBlocks ++ g₂.topBlocks := by
  have hlinks {g g' : Graph} (h : g'.Ignores g.blocks) {b : Block} (hb : b ∈ g.blocks) :
      b.id ∉ g'.blocks.flatMap Block.links := by
    intro hlinked
    obtain ⟨c, hc, hlink⟩ := List.mem_flatMap.mp hlinked
    exact h.links c hc b hb hlink
  unfold topBlocks
  rw [hwhole, List.flatMap_append, List.filter_append]
  congr 1
  · refine List.filter_congr fun b hb => ?_
    have hforeign := hlinks h₂ hb
    simp [hforeign]
  · refine List.filter_congr fun b hb => ?_
    have hforeign := hlinks h₁ hb
    simp [hforeign]

end Graph

namespace Proofs

open MbedBlocks.Graph (Embeds)

section Bodies

variable {g whole : Graph} {board : Board} {indent : String} {top : Block}

lemma socketChain_of_embeds (h : Embeds id g whole) (htop : top ∈ g.blocks) (socket : String) :
    (top.statements.get? socket).elim [] whole.chain =
      (top.statements.get? socket).elim [] g.chain := by
  cases hfirst : top.statements.get? socket with
  | none => rfl
  | some first =>
    have hlink := List.mem_cons_of_mem top.id (Block.mem_links_of_statement hfirst)
    rw [Option.elim_some, Option.elim_some, h.chain htop hlink, List.map_id]

lemma setupChain_of_embeds (h : Embeds id g whole) (htop : top ∈ g.blocks) :
    setupChain whole top = setupChain g top := by
  unfold setupChain
  rw [socketChain_of_embeds h htop, h.chain htop List.mem_cons_self, List.map_id]

lemma loopChain_of_embeds (h : Embeds id g whole) (htop : top ∈ g.blocks) :
    loopChain whole top = loopChain g top := by
  unfold loopChain
  rw [socketChain_of_embeds h htop]

/-- The code of an embedded graph: its chains run through the same blocks, which are emitted alike. -/
lemma map_blockCode_of_embeds (h : Embeds id g whole) {chain chain' : Block → List Block}
    (hchain : ∀ top ∈ g.blocks, chain' top = chain top)
    (hmem : ∀ top, ∀ b ∈ chain top, b ∈ g.blocks) :
    (g.topBlocks.flatMap chain').map (blockCode whole board indent) =
      (g.topBlocks.flatMap chain).map (blockCode g board indent) := by
  have hflat : g.topBlocks.flatMap chain' = g.topBlocks.flatMap chain :=
    List.flatMap_congr fun top htop => hchain top (Graph.mem_of_mem_topBlocks htop)
  rw [hflat]
  refine List.map_congr_left fun b hb => ?_
  obtain ⟨top, -, hbtop⟩ := List.mem_flatMap.mp hb
  unfold blockCode
  rw [← h.emitWithin board indent [] b (hmem top b hbtop), id_eq]

end Bodies

/-- Independent programs compose: if no id, link or cast of two graphs refers to a block of the other,
the bodies of the program of all their blocks are those of the first program followed by those of
the second. Ids may repeat within each of the graphs. -/
theorem bodies_append (g₁ g₂ whole : Graph) (hwhole : whole.blocks = g₁.blocks ++ g₂.blocks)
    (h₁ : g₁.Ignores g₂.blocks) (h₂ : g₂.Ignores g₁.blocks) (board : Board) (options : Options) :
    (Generator.new whole board options).program.setupBody =
        (Generator.new g₁ board options).program.setupBody ++
          (Generator.new g₂ board options).program.setupBody ∧
      (Generator.new whole board options).program.loopBody =
        (Generator.new g₁ board options).program.loopBody ++
          (Generator.new g₂ board options).program.loopBody := by
  have hfirst : Embeds id g₁ whole := Graph.Ignores.embeds [] g₂.blocks h₁ hwhole
  have hsecond : Embeds id g₂ whole :=
    Graph.Ignores.embeds g₁.blocks [] (by rwa [List.append_nil]) (by rwa [List.append_nil])
  have htops := Graph.topBlocks_append hwhole h₁ h₂
  have hbodies (g : Graph) : (Generator.new g board options).program.setupBody =
        (g.emitBodies (g.emitter board options.indent [])).result.setup ∧
      (Generator.new g board options).program.loopBody =
        (g.emitBodies (g.emitter board options.indent [])).result.loop := ⟨rfl, rfl⟩
  simp only [hbodies, emitBodies_result, htops, List.flatMap_append, List.map_append,
    String.join_append]
  constructor
  · rw [map_blockCode_of_embeds hfirst (fun _ => setupChain_of_embeds hfirst)
        fun _ _ => mem_of_mem_setupChain,
      map_blockCode_of_embeds hsecond (fun _ => setupChain_of_embeds hsecond)
        fun _ _ => mem_of_mem_setupChain]
  · rw [map_blockCode_of_embeds hfirst (fun _ => loopChain_of_embeds hfirst)
        fun _ _ => mem_of_mem_loopChain,
      map_blockCode_of_embeds hsecond (fun _ => loopChain_of_embeds hsecond)
        fun _ _ => mem_of_mem_loopChain]

/-- Reads a number from a text variable of its own. -/
def reading : Graph :=
  { blocks :=
      [{ id := "line"
         kind := "variables_declare"
         fields :=
          Dict.insert (Dict.insert {} "VARNAME" (.text "line")) "VARIABLE_SETTYPE_TYPE"
            (.text "TEXT") },
       { id := "store"
         kind := "variables_set"
         fields := Dict.insert {} "VAR" (.text "level")
         values := Dict.insert {} "VALUE" "parse" },
       { id := "parse"
         kind := "variables_set_type"
         fields :=
          Dict.insert (Dict.insert {} "VARNAME" (.text "line")) "VARIABLE_SETTYPE_TYPE"
            (.text "NUMBER") }] }

/-- A frame that writes to a pin and casts a variable of another type. -/
def blinking : Graph :=
  { blocks :=
      [{ id := "main"
         kind := "mbed_functions"
         statements := Dict.insert (Dict.insert {} "LOOP_FUNC" "lamp") "SETUP_FUNC" "round" },
       { id := "ticks"
         kind := "variables_declare"
         fields :=
          Dict.insert (Dict.insert {} "VARNAME" (.text "ticks")) "VARIABLE_SETTYPE_TYPE"
            (.text "DECIMAL") },
       { id := "round"
         kind := "variables_set"
         fields := Dict.insert {} "VAR" (.text "whole")
         values := Dict.insert {} "VALUE" "cut" },
       { id := "cut"
         kind := "variables_set_type"
         fields := Dict.insert {} "VARNAME" (.text "ticks") },
       { id := "lamp"
         kind := "io_digitalwrite"
         fields := Dict.insert {} "PIN" (.text "PA_5") }] }

theorem bodies_append_reading_blinking :
    reading.Ignores blinking.blocks ∧ blinking.Ignores reading.blocks ∧
      let program := (Generator.new { blocks := reading.blocks ++ blinking.blocks }
        Board.Nucleo.profile {}).program
      program.setupBody = "level = std::stoi(line);\nwhole = (int)(ticks);\n" ∧
      program.loopBody = "myDigitalOutPA_5.write(LOW);\n" := by
  have hreading : reading.Ignores blinking.blocks :=
    ⟨by decide +kernel, by decide +kernel, by decide +kernel⟩
  have hblinking : blinking.Ignores reading.blocks :=
    ⟨by decide +kernel, by decide +kernel, by decide +kernel⟩
  obtain ⟨hsetup, hloop⟩ :=
    bodies_append reading blinking { blocks := reading.blocks ++ blinking.blocks } rfl hreading
      hblinking Board.Nucleo.profile {}
  refine ⟨hreading, hblinking, ?_, ?_⟩
  · rw [hsetup]
    decide +kernel
  · rw [hloop]
    decide +kernel

end Proofs

end MbedBlocks
