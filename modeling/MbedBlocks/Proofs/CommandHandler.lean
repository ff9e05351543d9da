import MbedBlocks.Proofs.FunctionNames
import MbedBlocks.Proofs.LexicalForm
import MbedBlocks.Proofs.Reemission

/-!
# The command handler

Each block that handles commands defines the handler anew, and a block that sets up the network
defines an empty one if there is none yet. Both can stand inside each other's chains, but either
registers the handler when its sockets are done. So in the end there is one handler, that of the
last run of a command block, or an empty one. Whoever defines it first includes its header.
-/

namespace MbedBlocks.Proofs

open Code (functionText)
open Lexical (siteWithin)
open NetworkKind (handler handlerRegistrations)
open Registration (Slot)

/-- The definition of the handler. -/
def handlerText (body : String) : String :=
  functionText "void" handler
    [ValueType.text.spelling ++ " topic", ValueType.text.spelling ++ " value"] body

lemma handlerRegistrations_eq (body : String) :
    handlerRegistrations body =
      [.header "string" "#include <string>", .function handler (handlerText body)] := rfl

/-! ### The text of the handler -/

section Runs

variable {g : Graph} {board : Board} {indent : String}

/-- The chain in the function input of a run. -/
def Run.functionBody (g : Graph) (board : Board) (indent : String) (run : Run) : String :=
  ((siteWithin g board indent run.busy run.block).body "function_body").result

def Run.isCommand (run : Run) : Bool := run.kind = .network .command

/-- Setup and command blocks define the handler. -/
def Run.definesHandler (run : Run) : Bool :=
  run.kind = .network .setup ∨ run.kind = .network .command

lemma Run.definesHandler_of_isCommand {run : Run} (h : run.isCommand) : run.definesHandler :=
  decide_eq_true (.inr (of_decide_eq_true h))

lemma leave_command {run : Run} (h : run.isCommand) (before : Option String) :
    run.leave g board indent (.function handler) before =
      some (handlerText (run.functionBody g board indent)) := by
  obtain ⟨busy, b, k, hk⟩ := run
  obtain rfl : k = .network .command := of_decide_eq_true h
  rfl

lemma leave_setup {run : Run} (h : run.kind = .network .setup) (before : Option String) :
    run.leave g board indent (.function handler) before =
      some (before.getD (handlerText "")) := by
  obtain ⟨busy, b, k, hk⟩ := run
  obtain rfl : k = .network .setup := h
  cases before <;> rfl

/-- No other block has a function of that name. -/
lemma defined_handler {b : Block} {k : Kind} (h : handler ∈ defined b k) :
    k = .network .setup ∨ k = .network .command := by
  have hhead : handler.toList.head? = some 'W' := rfl
  have hlast : handler.toList.getLast? = some 'd' := rfl
  have hdefining := defining_of_mem h
  generalize handler = name at hdefining hhead hlast
  cases hdefining with
  | setup => exact .inl rfl
  | command => exact .inr rfl
  | attach =>
    -- The function of a serial line may begin like the handler, but it ends differently.
    simp [List.getLast?_append] at hlast
  | interrupt | ticker | transfer | home | move | setPosition => simp at hhead

lemma leave_of_not_definesHandler {run : Run} (h : ¬run.definesHandler) (before : Option String) :
    run.leave g board indent (.function handler) before = before :=
  foldl_deposit_of_spares (ownRegistrations_spare fun hmem =>
    h (decide_eq_true (defined_handler hmem)))

/-- One run after the other: a command block writes the handler, and a setup block keeps it. -/
lemma foldl_leave (trace : List Run) :
    trace.foldl (Run.leave g board indent (.function handler)) none =
      if trace.any Run.definesHandler then
        some (handlerText ((trace.filter Run.isCommand).getLast?.elim ""
          (Run.functionBody g board indent)))
      else none := by
  induction trace using List.reverseRecOn with
  | nil => rfl
  | append_singleton trace run ih =>
    have hcommands (h : ¬trace.any Run.definesHandler) : trace.filter Run.isCommand = [] := by
      refine List.filter_eq_nil_iff.mpr fun run hrun hcommand => h ?_
      exact List.any_eq_true.mpr ⟨run, hrun, Run.definesHandler_of_isCommand hcommand⟩
    rw [List.foldl_append, List.foldl_cons, List.foldl_nil, ih]
    by_cases hcommand : run.isCommand
    · have hdefines : run.definesHandler := Run.definesHandler_of_isCommand hcommand
      rw [leave_command hcommand]
      simp [hcommand, hdefines]
    · by_cases hdefines : run.definesHandler
      · have hsetup : run.kind = .network .setup :=
          (of_decide_eq_true hdefines).resolve_right fun h => hcommand (decide_eq_true h)
        rw [leave_setup hsetup]
        by_cases hany : trace.any Run.definesHandler
        · rw [if_pos hany]
          simp [hcommand, hdefines]
        · rw [if_neg hany]
          simp [hcommand, hdefines, hcommands hany]
      · rw [leave_of_not_definesHandler hdefines]
        simp [hcommand, hdefines]

/-- The handler in the program. -/
theorem get?_handler :
    (finalRegistry g board indent).functions.get? handler =
      if (runs g board indent).any Run.definesHandler then
        some (handlerText (((runs g board indent).filter Run.isCommand).getLast?.elim ""
          (Run.functionBody g board indent)))
      else none := by
  have hlate : AllLate g board (.function handler) := fun _ _ b k => late_define g b k
  have htext : (finalRegistry g board indent).text? (.function handler) =
      (runs g board indent).foldl (Run.leave g board indent (.function handler)) none :=
    text?_eq_foldl_runs nofun hlate
  rw [foldl_leave] at htext
  exact htext

end Runs

/-! ### The header of the handler -/

section Header

variable {r : Registry}

/-- If there is a handler, its header is included. -/
def Included (r : Registry) : Prop :=
  (r.functions.get? handler).isSome → (r.includes.get? "string").isSome

lemma Included.add {x : Registration} (hx : x.slot ≠ .function handler) (h : Included r) :
    Included (r.add x) := by
  cases x with
  | header key text => exact fun hhandler => Registered.put (h hhandler) key text
  | function key text =>
    have hkey : handler ≠ key := fun hkey => hx (congrArg Slot.function hkey.symm)
    intro hhandler
    apply h
    rwa [Registry.add, Keyed.get?_put, if_neg hkey] at hhandler
  | declaration key text => exact h
  | setup key text runFirst => exact h

/-- The header comes first wherever the handler is defined. -/
lemma included_addAll (r : Registry) (body : String) :
    Included (r.addAll (handlerRegistrations body)) := by
  intro _
  simp [handlerRegistrations_eq, Registry.addAll, Registry.add, Keyed.get?_put]

/-- Effects that keep the header as an invariant of the walk. -/
def inclusion : Invariant where
  effects es := ∀ r, Included r → Included (es.foldl registryStep r)
  value _ _ _ := True
  lines _ := True
  effects_nil _ h := h
  effects_append hes hfs := by
    intro r h
    rw [List.foldl_append]
    exact hfs _ (hes r h)
  lines_empty := trivial
  lines_append _ _ := trivial

variable {g : Graph} {s : Site Emit} {b : Block}

/-- A setup block registers no function outright. -/
lemma emitSetup_provides (board : Board) (b : Block) :
    Ensures board (NetworkKind.emitSetup b)
      fun own _ => ∀ name text, Effect.register (.function name text) ∉ own := by
  simp only [NetworkKind.emitSetup, reserveBus, ensures_bind, ensures_reserve, ensures_addInclude,
    ensures_declare, ensures_provide, ensures_statement]
  simp

lemma inclusion_own {k : Kind} (hk : k ≠ .network .command) {e : Effect}
    (he : e ∈ ownRegistrations s (k.emit g b)) : inclusion.effects [e] := by
  have hstandard : Standard e := (Ensures.own (emit_profiled g b k)).standard e he
  cases e with
  | register x =>
    refine fun r h => h.add fun hslot => ?_
    cases x with
    | function key text =>
      obtain rfl : key = handler := Slot.function.inj hslot
      rcases defined_handler (mem_defined he rfl) with rfl | rfl
      · exact (emitSetup_provides s.board b).own _ _ he
      · exact hk rfl
    | _ => cases hslot
  | unlessDefined function xs =>
    obtain ⟨rfl, rfl⟩ := hstandard
    intro r h
    change Included (if _ then _ else _)
    split_ifs
    · exact h
    · exact included_addAll r ""
  | reserve pin request => exact fun _ h => h
  | warn w => exact fun _ h => h

variable {indent : String}

lemma inclusion_answer (hfills : inclusion.Fills g indent s) {request : Request}
    (hown : ∀ e ∈ registrations request, inclusion.effects [e]) :
    inclusion.effects (s.answer request).effects := by
  refine Invariant.effects_answer_of_request ?_ ?_ (fun _ _ _ _ h => h) (fun _ _ h => h)
    hfills.value_effects hfills.body_effects
  · rintro x rfl
    exact hown _ List.mem_cons_self
  · rintro function xs rfl
    exact hown _ List.mem_cons_self

lemma inclusion_emit {α : Type} {x : Script α} (hfills : inclusion.Fills g indent s)
    (hown : ∀ e ∈ ownRegistrations s x, inclusion.effects [e]) :
    inclusion.effects (s.emit x).effects := by
  induction x with
  | done a => exact inclusion.effects_nil
  | ask request next ih =>
    refine inclusion.effects_append (inclusion_answer hfills fun e he => ?_) (ih _ fun e he => ?_)
    · exact hown e (List.mem_append_left _ he)
    · exact hown e (List.mem_append_right _ he)

/-- A command block includes the header and then defines the handler, when its chain is done. -/
lemma inclusion_emitCommand (hfills : inclusion.Fills g indent s) :
    inclusion.effects (s.emit NetworkKind.emitCommand).effects :=
  inclusion.effects_append (hfills.body_effects "function_body") fun r _ => included_addAll r _

lemma inclusion_kept (g : Graph) (board : Board) (indent : String) :
    inclusion.Kept g board indent where
  unlisted _ _ _ _ _ h := h
  misplaced _ _ _ _ h := h
  script b _ k _ s _ _ hfills := by
    constructor
    · by_cases hk : k = .network .command
      · subst hk
        exact inclusion_emitCommand hfills
      · exact inclusion_emit hfills fun _ => inclusion_own hk
    · cases (s.emit (k.emit g b)).result <;> trivial

theorem finalRegistry_included (g : Graph) (board : Board) (indent : String) :
    Included (finalRegistry g board indent) :=
  (inclusion_kept g board indent).effects_emitBodies {} nofun

lemma grants_of_standard {e : Effect} (h : Standard e) :
    Grants (fun x => Standard (.register x)) e := by
  cases e with
  | register x => exact h
  | unlessDefined function xs =>
    obtain ⟨rfl, rfl⟩ := h
    simp [handlerRegistrations_eq, Standard, headers]
  | reserve pin request => trivial
  | warn w => trivial

/-- Where there is a handler, its header is among the includes. -/
theorem mem_includes_of_handler {board : Board}
    (h : ((finalRegistry g board indent).functions.get? handler).isSome) :
    "#include <string>" ∈ (finalRegistry g board indent).sections.includes := by
  obtain ⟨text, htext⟩ := Option.isSome_iff_exists.mp (finalRegistry_included g board indent h)
  have hholds : Holds (fun x => Standard (.register x)) (finalRegistry g board indent) :=
    holds_empty.foldl fun e he => grants_of_standard (standard_emitBodies e he)
  have hheader : ("string", text) ∈ headers :=
    hholds.includes _ (Keyed.mem_entries_of_get? htext)
  obtain rfl : text = "#include <string>" :=
    congrArg Prod.snd (headers_unique _ hheader ("string", "#include <string>") (by decide) rfl)
  refine List.mem_cons_of_mem _ (List.mem_filter.mpr ⟨Keyed.mem_values_of_get? htext, ?_⟩)
  decide

end Header

/-! ### The handler among the functions -/

/-- The entry of a key stands among entries of other keys. -/
lemma split_of_get? {α : Type} {k : Keyed α} {key : String} {value : α}
    (h : k.get? key = some value) :
    ∃ before after, k.entries = before ++ (key, value) :: after ∧
      ∀ entry ∈ before ++ after, entry.1 ≠ key := by
  obtain ⟨before, after, hsplit⟩ := List.append_of_mem (Keyed.mem_entries_of_get? h)
  have hnodup : (before ++ (key, value) :: after).map Prod.fst |>.Nodup := hsplit ▸ k.nodup_keys
  rw [List.map_append, List.map_cons, List.nodup_middle, List.nodup_cons] at hnodup
  refine ⟨before, after, hsplit, fun entry hentry hkey => hnodup.1 ?_⟩
  have hmem : entry.1 ∈ (before ++ after).map Prod.fst := List.mem_map_of_mem hentry
  rwa [hkey, List.map_append] at hmem

variable {g : Graph} {board : Board} {indent : String}

lemma any_definesHandler (h : ∃ entry ∈ emitted g board indent,
      entry.1.kind? = some (.network .setup) ∨ entry.1.kind? = some (.network .command)) :
    (runs g board indent).any Run.definesHandler := by
  obtain ⟨entry, hentry, hkind⟩ := h
  rw [emitted_eq_map_runs] at hentry
  obtain ⟨run, hrun, rfl⟩ := List.mem_map.mp hentry
  refine List.any_eq_true.mpr ⟨run, hrun, decide_eq_true ?_⟩
  exact hkind.imp (fun h => Option.some.inj (run.listed.symm.trans h))
    fun h => Option.some.inj (run.listed.symm.trans h)

/-- In whatever order setup and command blocks are emitted, and however they stand inside each
other, one entry of the functions in the program has the name of the handler; all others are
functions of other names. It is that of the command block that was finished last, and an empty one
without such a block, and its header is included. -/
theorem one_handler_of_last_command (g : Graph) (board : Board) (options : Options)
    (h : ∃ entry ∈ emitted g board options.indent,
      entry.1.kind? = some (.network .setup) ∨ entry.1.kind? = some (.network .command)) :
    let functions := (finalRegistry g board options.indent).functions
    let sections := (Generator.new g board options).program.sections
    let commands := (runs g board options.indent).filter Run.isCommand
    (∃ before after body,
      functions.entries = before ++ (handler, handlerText body) :: after ∧
      (∀ entry ∈ before ++ after, entry.1 ≠ handler ∧
        ∃ returns params body, entry.2 = functionText returns entry.1 params body) ∧
      body = commands.getLast?.elim "" (Run.functionBody g board options.indent)) ∧
    sections.functions = functions.entries.map Prod.snd ∧
    "#include <string>" ∈ sections.includes := by
  intro functions sections commands
  have hsections : sections = (finalRegistry g board options.indent).sections :=
    sections_program g board options
  have hhandler : functions.get? handler =
      some (handlerText (commands.getLast?.elim "" (Run.functionBody g board options.indent))) :=
    get?_handler.trans (if_pos (any_definesHandler h))
  refine ⟨?_, ?_, ?_⟩
  · obtain ⟨before, after, hsplit, hothers⟩ := split_of_get? hhandler
    refine ⟨before, after, _, hsplit, fun entry hentry => ⟨hothers entry hentry, ?_⟩, rfl⟩
    have hmem : entry ∈ functions.entries := by
      rw [hsplit]
      exact List.mem_append.mpr ((List.mem_append.mp hentry).imp_right (List.mem_cons_of_mem _))
    exact finalRegistry_holds.functions entry hmem
  · rw [hsections]
    rfl
  · rw [hsections]
    exact mem_includes_of_handler (Option.isSome_of_eq_some hhandler)

def outerCommand : Block :=
  { id := "outer", kind := "w5500_command", statements := Dict.insert {} "function_body" "inner" }

def innerCommand : Block :=
  { id := "inner"
    kind := "w5500_command"
    statements := Dict.insert {} "function_body" "network"
    next := some "halt" }

/-- A setup block in a command block in another command block, which is finished last. -/
def nestedCommands : Graph where
  blocks := [outerCommand, innerCommand, { id := "network", kind := "w5500_setup" },
    { id := "halt", kind := "infinite_loop" }]

theorem one_handler_of_last_command_nested :
    (∃ entry ∈ emitted nestedCommands Board.Nucleo.profile "  ",
      entry.1.kind? = some (.network .setup) ∨ entry.1.kind? = some (.network .command)) ∧
    (∃ before after,
      (finalRegistry nestedCommands Board.Nucleo.profile "  ").functions.entries =
        before ++ (handler, handlerText "  while(true);\n") :: after ∧
      ∀ entry ∈ before ++ after, entry.1 ≠ handler) ∧
    "#include <string>" ∈
      (Generator.new nestedCommands Board.Nucleo.profile {}).program.sections.includes := by
  have hemitted : ∃ entry ∈ emitted nestedCommands Board.Nucleo.profile "  ",
      entry.1.kind? = some (.network .setup) ∨ entry.1.kind? = some (.network .command) := by
    have htop : outerCommand ∈ nestedCommands.topBlocks := by decide +kernel
    have hkind : outerCommand.kind? = some (.network .command) := rfl
    obtain ⟨fragment, hfragment⟩ := exists_mem_emitted htop rfl hkind nofun rfl
    exact ⟨_, hfragment, .inr hkind⟩
  have hlast : ((runs nestedCommands Board.Nucleo.profile "  ").filter Run.isCommand).getLast?.elim
      "" (Run.functionBody nestedCommands Board.Nucleo.profile "  ") = "  while(true);\n" := by
    decide +kernel
  obtain ⟨⟨before, after, body, hfunctions, hothers, hbody⟩, -, hheader⟩ :=
    one_handler_of_last_command nestedCommands Board.Nucleo.profile {} hemitted
  obtain rfl : body = "  while(true);\n" := hbody.trans hlast
  exact ⟨hemitted,
    ⟨before, after, hfunctions, fun entry hentry => (hothers entry hentry).1⟩, hheader⟩

end MbedBlocks.Proofs
