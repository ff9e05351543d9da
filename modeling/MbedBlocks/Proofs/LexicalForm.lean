import Mathlib.Logic.Relation
import MbedBlocks.Proofs.ContextIndependence
import MbedBlocks.Proofs.DictLookup
import MbedBlocks.Proofs.LexicalRules

/-!
# The lexical form of programs

If the texts that are spliced into a program as they stand are plain, brackets are balanced and
literals are closed wherever text is emitted, whatever the quoted texts and the block ids are. An
expression is a single argument unless the arguments of a printing call are plugged in below it.
-/

namespace MbedBlocks.Lexical

open Board (Mapper)
open Code (Level Fragment)
open Proofs
open Text (LinesEnd)

/-- Field texts that are spliced into the program, units and bus pins are plain, and the indentation
is blank. -/
structure PlainInput (g : Graph) (board : Board) (indent : String) : Prop where
  fields : ∀ b ∈ g.blocks, ∀ k, b.kind? = some k → ∀ field ∉ unspliced k, ∀ text,
    b.fields.get? field = some (.text text) → Plain text
  units : ∀ pin mapper unit, board.unit pin mapper = .ok unit → Plain unit
  buses : ∀ bus choice pins, board.busPins? bus choice = some pins →
    Plain pins.mosi ∧ Plain pins.miso ∧ Plain pins.sck
  indent : ∀ c ∈ indent.toList, Text.isBlank c

/-- The second block is plugged into a value socket of the first. -/
def Plugged (g : Graph) (b c : Block) : Prop :=
  ∃ socket, (b.values.get? socket).bind g.get? = some c

/-- No arguments of a printing call are in the tree of sockets below the block. -/
def ContentFree (g : Graph) (b : Block) : Prop :=
  ∀ c, Relation.ReflTransGen (Plugged g) b c → c.kind? ≠ some (.serial .content)

/-- Expressions are balanced, and single arguments if they can be; statements end their lines. -/
def WellFormed (g : Graph) (b : Block) : Fragment → Prop
  | .value text _ => Balanced text ∧ (ContentFree g b → Single text)
  | .statement text => Balanced text ∧ LinesEnd text

/-- The format of a printing call at a site. -/
def format (s : Site Emit) : String :=
  let text := (s.value "CONTENT" .argument).result.getD "0"
  if s.block.isChecked "NEW_LINE" then Code.appendNewline text else text

/-- A statement that calls `callee` with the leading arguments, one for the format and one for the
second socket if it yields an expression. -/
def PrintsOnce (s : Site Emit) (callee : String) (leading : List String) (text : String) : Prop :=
  ∃ inside, text = callee ++ "(" ++ inside ++ ");\n" ∧
    arguments inside = leading ++ format s :: (s.value "CONTENT_STR" .argument).result.toList

section Walk

variable {g : Graph} {board : Board} {indent : String} {b : Block}

lemma ContentFree.plugged {c : Block} (h : ContentFree g b) (hc : Plugged g b c) : ContentFree g c :=
  fun d hd => h d (.head hc hd)

lemma PlainInput.rawFields (h : PlainInput g board indent) (hb : b ∈ g.blocks) {k : Kind}
    (hk : b.kind? = some k) : RawFields k b := by
  intro field hfield
  unfold Block.text
  cases hvalue : b.fields.get? field with
  | none => exact neutral_empty
  | some value =>
    cases value with
    | checkbox on => cases on <;> exact neutral_literal rfl
    | number x => exact (plain_program x).neutral
    | text text => exact (h.fields b hb k hk field hfield text hvalue).neutral

/-- Balanced texts as an invariant of the walk. -/
def form (g : Graph) : Invariant where
  effects es := ∀ e ∈ es, Grants (fun r => Balanced r.text) e
  value b text level := WellFormed g b (.value text level)
  lines text := Balanced text ∧ LinesEnd text
  effects_nil := by simp
  effects_append hes hfs := List.forall_mem_append.mpr ⟨hes, hfs⟩
  lines_empty := ⟨neutral_empty, .inl rfl⟩
  lines_append hs ht := by
    refine ⟨hs.1.append ht.1, ?_⟩
    rcases ht.2 with rfl | ⟨start, rfl⟩
    · rw [String.append_empty]
      exact hs.2
    · exact .inr ⟨_, String.append_assoc.symm⟩

lemma PlainInput.single_bus (h : PlainInput g board indent) (s : Site Emit)
    (hboard : s.board = board) (name choice : String) :
    let pins := (s.bus name choice).result
    Single pins.mosi ∧ Single pins.miso ∧ Single pins.sck := by
  unfold Site.bus
  cases hpins : s.board.busPins? name (some choice) with
  | some pins =>
    obtain ⟨hmosi, hmiso, hsck⟩ := h.buses name (some choice) pins (hboard ▸ hpins)
    exact ⟨hmosi.neutral, hmiso.neutral, hsck.neutral⟩
  | none =>
    have hopen : Single "NC" := neutral_literal rfl
    exact ⟨hopen, hopen, hopen⟩

/-- The expression in a socket is balanced, and a single argument if that of its block is. -/
lemma neutral_socket {s : Site Emit} (hs : (form g).Fills g indent s) {single : Bool}
    {socket : String}
    (hsocket : single = true → ∀ c, (s.block.values.get? socket).bind g.get? = some c →
      ContentFree g c) {slot : Level} :
    ∀ text ∈ (s.value socket slot).result, Neutral single text := by
  intro text htext
  obtain ⟨c, raw, level, hc, -, ⟨hraw, hfree⟩, rfl⟩ := hs.value socket slot text htext
  cases single with
  | false => exact hraw.parenthesize level slot
  | true => exact (hfree (hsocket rfl c hc)).parenthesize level slot

lemma PlainInput.serves (h : PlainInput g board indent) {s : Site Emit} (hboard : s.board = board)
    (hs : (form g).Fills g indent s) {single : Bool}
    (hsockets : single = true → ∀ c, Plugged g s.block c → ContentFree g c) :
    Serves (lexical single) (Grants fun r => Balanced r.text) s where
  answer r hr := by
    cases r with
    | unit pin mapper =>
      change Single (s.unit pin mapper).result
      unfold Site.unit
      cases hunit : s.board.unit pin mapper with
      | ok unit => exact (h.units pin mapper unit (hboard ▸ hunit)).neutral
      | error e => exact hr
    | bus name choice => exact h.single_bus s hboard name choice
    | value socket slot =>
      exact neutral_socket hs fun hsingle c hc => hsockets hsingle c ⟨socket, hc⟩
    | body socket =>
      obtain ⟨code, hcode, hbody⟩ := hs.body socket
      change Balanced (s.body socket).result
      rw [hbody]
      exact hcode.1.indentLines h.indent
    | _ => trivial
  effects r hr e he := by
    have hlax : Lax (Grants fun r => Balanced r.text) := ⟨fun _ _ => trivial, fun _ => trivial⟩
    rcases hlax.answer hs.value_effects hs.body_effects r e he with he | he
    · cases r with
      | register r =>
        rw [List.mem_singleton.mp he]
        exact Legible.neutral hr
      | provide function rs =>
        rw [List.mem_singleton.mp he]
        exact fun r hmem => (hr r hmem).neutral
      | _ => cases he
    · exact he

/-- Step of the walk: every rule keeps the form. -/
lemma PlainInput.kept (h : PlainInput g board indent) : (form g).Kept g board indent where
  unlisted b _ _ message e he := by
    rw [List.mem_singleton.mp he]
    trivial
  misplaced b _ message e he := by
    rw [List.mem_singleton.mp he]
    trivial
  script b hb k hk s hboard hblock hs := by
    have hraw := h.rawFields hb hk
    have hserves : Serves (lexical false) _ s := h.serves hboard hs (by simp)
    obtain ⟨hfits, heffects⟩ := Meets.run hserves (meets_kind g k hraw fun _ => rfl)
    refine ⟨heffects, ?_⟩
    cases hcode : (s.emit (k.emit g b)).result with
    | statement text =>
      rw [hcode] at hfits
      exact hfits.statement
    | value text level =>
      rw [hcode] at hfits
      refine ⟨hfits.value, fun hfree => ?_⟩
      have hsockets : true = true → ∀ c, Plugged g s.block c → ContentFree g c :=
        fun _ c hc => hfree.plugged (hblock ▸ hc)
      have hcontent : k = .serial .content → true = false :=
        fun hcontent => absurd (hcontent ▸ hk) (hfree b .refl)
      obtain ⟨hsingle, -⟩ := Meets.run (h.serves hboard hs hsockets) (meets_kind g k hraw hcontent)
      rw [hcode] at hsingle
      exact hsingle.value

theorem PlainInput.wellFormed (h : PlainInput g board indent) (busy : List String)
    (hb : b ∈ g.blocks) :
    ∀ fragment ∈ (g.emitWithin board indent busy b).result, WellFormed g b fragment := by
  intro fragment hfragment
  have hcode := (h.kept.emitWithin busy b hb).code fragment hfragment
  cases fragment with
  | value text level => exact hcode
  | statement text => exact hcode

end Walk

/-! ### Printing calls -/

section Printing

variable {g : Graph} {board : Board} {indent : String} {b : Block}

/-- No arguments of a printing call are plugged in below the sockets for the format and for the
value. -/
def PlainPrint (g : Graph) (b : Block) : Prop :=
  ∀ socket ∈ ["CONTENT", "CONTENT_STR"], ∀ c, (b.values.get? socket).bind g.get? = some c →
    ContentFree g c

lemma single_format {s : Site Emit} (hs : (form g).Fills g indent s)
    (hprint : PlainPrint g s.block) : Single (format s) := by
  have hplugged : ∀ t ∈ (s.value "CONTENT" .argument).result, Single t :=
    neutral_socket hs fun _ => hprint "CONTENT" (by simp)
  have htext : Single ((s.value "CONTENT" .argument).result.getD "0") := by
    cases htext : (s.value "CONTENT" .argument).result with
    | none => exact neutral_zero
    | some text => exact hplugged text htext
  unfold format
  dsimp only
  split_ifs
  · exact htext.appendNewline
  · exact htext

lemma printsOnce_call {s : Site Emit} (hs : (form g).Fills g indent s)
    (hprint : PlainPrint g s.block) (callee : String) {leading : List String}
    (hleading : ∀ t ∈ leading, Single t) :
    PrintsOnce s callee leading
      ((s.emit (PrintArguments.read s.block)).result.call callee leading) := by
  have hextra : ∀ t ∈ (s.value "CONTENT_STR" .argument).result, Single t :=
    neutral_socket hs fun _ => hprint "CONTENT_STR" (by simp)
  refine ⟨_, rfl, arguments_intercalate (by simp) ?_⟩
  refine List.forall_mem_append.mpr ⟨hleading, ?_⟩
  refine List.forall_mem_cons.mpr ⟨single_format hs hprint, ?_⟩
  exact fun t ht => hextra t (Option.mem_toList.mp ht)

/-- The site of a block that is emitted while those in `busy` are in progress. -/
def siteWithin (g : Graph) (board : Board) (indent : String) (busy : List String) (b : Block) :
    Site Emit :=
  g.site board indent (g.emitter board indent (b.id :: busy)) b

lemma PlainInput.fills (h : PlainInput g board indent) (busy : List String) (b : Block) :
    (form g).Fills g indent (siteWithin g board indent busy b) :=
  h.kept.fills (fun c hc => h.kept.emitter (b.id :: busy) c hc) b

theorem PlainInput.serial_print (h : PlainInput g board indent) {busy : List String}
    (hbusy : b.id ∉ busy) (hk : b.kind? = some (.serial .print)) (hprint : PlainPrint g b) :
    ∃ text, (g.emitWithin board indent busy b).result = some (.statement text) ∧
      PrintsOnce (siteWithin g board indent busy b) (b.text "SERIAL_Pins" ++ ".printf") [] text := by
  rw [Graph.emitWithin_of_kind hbusy hk]
  exact ⟨_, rfl, printsOnce_call (h.fills busy b) hprint _ (by simp)⟩

theorem PlainInput.file_print (h : PlainInput g board indent) (hb : b ∈ g.blocks)
    {busy : List String} (hbusy : b.id ∉ busy) (hk : b.kind? = some (.file .print))
    (hprint : PlainPrint g b) :
    ∃ text, (g.emitWithin board indent busy b).result = some (.statement text) ∧
      PrintsOnce (siteWithin g board indent busy b) "fprintf" [b.textOr "FILE" "fp"] text := by
  have hfile : Single (b.textOr "FILE" "fp") :=
    neutral_textOr (h.rawFields hb hk "FILE" (by simp [unspliced])) (neutral_literal rfl)
  rw [Graph.emitWithin_of_kind hbusy hk]
  exact ⟨_, rfl, printsOnce_call (h.fills busy b) hprint _ (by simpa using hfile)⟩

end Printing

/-! ### Programs -/

section Programs

variable {g : Graph} {board : Board} {indent : String}

lemma PlainInput.balanced_chain (h : PlainInput g board indent) {chain : Block → List Block}
    (hchain : ∀ top, ∀ b ∈ chain top, b ∈ g.blocks) :
    Balanced (String.join ((g.topBlocks.flatMap chain).map (blockCode g board indent))) := by
  refine neutral_join fun text htext => ?_
  obtain ⟨b, hb, rfl⟩ := List.mem_map.mp htext
  obtain ⟨top, -, hb⟩ := List.mem_flatMap.mp hb
  exact (h.kept.emitWithin [] b (hchain top b hb)).statementText.1

/-- Both bodies of the program. -/
lemma PlainInput.balanced_bodies (h : PlainInput g board indent) :
    let bodies := (g.emitBodies (g.emitter board indent [])).result
    Balanced bodies.setup ∧ Balanced bodies.loop := by
  rw [emitBodies_result]
  exact ⟨h.balanced_chain fun _ _ => mem_of_mem_setupChain,
    h.balanced_chain fun _ _ => mem_of_mem_loopChain⟩

lemma PlainInput.holds (h : PlainInput g board indent) :
    Holds (fun r => Balanced r.text) (finalRegistry g board indent) :=
  holds_empty.foldl h.kept.effects_emitBodies

/-- All parts of the sections are balanced. -/
structure BalancedSections (s : Sections) : Prop where
  includes : ∀ text ∈ s.includes, Balanced text
  functions : ∀ text ∈ s.functions, Balanced text
  declarations : ∀ text ∈ s.declarations, Balanced text
  setup : ∀ text ∈ s.setup, Balanced text

lemma balanced_sections {r : Registry} (h : Holds (fun r => Balanced r.text) r) :
    BalancedSections r.sections where
  includes text htext := by
    rcases List.mem_cons.mp htext with rfl | htext
    · exact neutral_literal rfl
    · obtain ⟨entry, hentry, rfl⟩ := List.mem_map.mp (List.mem_of_mem_filter htext)
      exact h.includes entry hentry
  functions text htext := by
    obtain ⟨entry, hentry, rfl⟩ := List.mem_map.mp htext
    exact h.functions entry hentry
  declarations text htext := by
    obtain ⟨entry, hentry, rfl⟩ := List.mem_map.mp htext
    exact h.declarations entry hentry
  setup text htext := by
    obtain ⟨value, hvalue, rfl⟩ := List.mem_map.mp htext
    have hmem : value ∈ r.setups.values :=
      (List.mem_append.mp hvalue).elim List.mem_of_mem_filter List.mem_of_mem_filter
    obtain ⟨entry, hentry, rfl⟩ := List.mem_map.mp hmem
    exact h.setups entry hentry

lemma balanced_newline : Balanced "\n" := neutral_literal rfl

/-- Texts that each get an ending of their own. -/
lemma balanced_ended {texts : List String} (h : ∀ t ∈ texts, Balanced t) {ending : String}
    (hending : Balanced ending) : Balanced (String.join (texts.map (· ++ ending))) := by
  refine neutral_join fun text htext => ?_
  obtain ⟨t, ht, rfl⟩ := List.mem_map.mp htext
  exact (h t ht).append hending

section Render

variable {p : Program}

lemma balanced_setupLines (hsections : BalancedSections p.sections) (hsetup : Balanced p.setupBody) :
    Balanced p.setupLines := by
  refine Neutral.append (neutral_join fun text htext => ?_) hsetup
  obtain ⟨t, ht, rfl⟩ := List.mem_map.mp htext
  exact (hsections.setup t ht).trimEnd.append balanced_newline

lemma balanced_mainLines (hsetup : Balanced p.setupLines) (hloop : Balanced p.loopBody)
    (hindent : ∀ c ∈ p.indent.toList, Text.isBlank c) : Balanced p.mainLines := by
  unfold Program.mainLines
  split_ifs
  · have htwice : ∀ c ∈ (p.indent ++ p.indent).toList, Text.isBlank c := by
      intro c hc
      rw [String.toList_append] at hc
      exact (List.mem_append.mp hc).elim (hindent c) (hindent c)
    have hmargin : Balanced p.indent := neutral_of_blank hindent
    have hsetup' := hsetup.indentLines hindent
    have hloop' := hloop.indentLines htwice
    apply Legible.neutral
    simp [Legible, String.append_assoc, hmargin, hsetup', hloop', -String.reduceAppend]
    repeat' constructor
  · rw [String.append_empty]
    exact hsetup
  · exact hsetup.append (balanced_newline.append hloop)

/-- Balanced parts give a balanced source text. -/
lemma balanced_render (hsections : BalancedSections p.sections) (hsetup : Balanced p.setupBody)
    (hloop : Balanced p.loopBody) (hindent : ∀ c ∈ p.indent.toList, Text.isBlank c)
    (hheader : p.header = false) : Balanced p.render := by
  have hbanner : Balanced p.banner := by
    unfold Program.banner
    rw [hheader]
    exact neutral_empty
  have hincludes : Balanced p.includeLines :=
    (balanced_ended hsections.includes balanced_newline).append balanced_newline
  have hfunctions : Balanced p.functionLines :=
    balanced_ended hsections.functions (neutral_literal rfl)
  have hdeclarations : Balanced p.declarationLines := by
    unfold Program.declarationLines
    split_ifs
    · exact neutral_empty
    · exact (balanced_ended hsections.declarations balanced_newline).append balanced_newline
  have hmain := balanced_mainLines (balanced_setupLines hsections hsetup) hloop hindent
  exact (((hbanner.append hincludes).append hfunctions).append hdeclarations).append hmain

end Render

end Programs

/-- Balanced brackets, closed literals and single arguments: of the code of every block, of what is
registered, and of the source text without its banner. -/
theorem output_wellFormed (g : Graph) (board : Board) (options : Options)
    (h : PlainInput g board options.indent) :
    (∀ busy, ∀ b ∈ g.blocks,
      (∀ fragment ∈ (g.emitWithin board options.indent busy b).result, WellFormed g b fragment) ∧
      ∀ e ∈ (g.emitWithin board options.indent busy b).effects,
        Grants (fun r => Balanced r.text) e) ∧
    (∀ busy, ∀ b ∈ g.blocks, b.id ∉ busy → PlainPrint g b →
      (b.kind? = some (.serial .print) → ∃ text,
        (g.emitWithin board options.indent busy b).result = some (.statement text) ∧
          PrintsOnce (siteWithin g board options.indent busy b)
            (b.text "SERIAL_Pins" ++ ".printf") [] text) ∧
      (b.kind? = some (.file .print) → ∃ text,
        (g.emitWithin board options.indent busy b).result = some (.statement text) ∧
          PrintsOnce (siteWithin g board options.indent busy b)
            "fprintf" [b.textOr "FILE" "fp"] text)) ∧
    BalancedSections (Generator.new g board options).program.sections ∧
    (options.header = false → Balanced (Generator.new g board options).program.render) := by
  have hsections : BalancedSections (Generator.new g board options).program.sections := by
    rw [sections_program]
    exact balanced_sections h.holds
  refine ⟨fun busy b hb => ?_, fun busy b hb hbusy hprint => ?_, hsections, fun hheader => ?_⟩
  · exact ⟨h.wellFormed busy hb, (h.kept.emitWithin busy b hb).effects⟩
  · exact ⟨fun hk => h.serial_print hbusy hk hprint, fun hk => h.file_print hb hbusy hk hprint⟩
  · obtain ⟨hsetup, hloop⟩ := h.balanced_bodies
    exact balanced_render hsections hsetup hloop h.indent hheader

/-- The inputs are plain if all entries of the dictionaries are. -/
lemma PlainInput.of_entries {g : Graph} {board : Board} {indent : String}
    (hfields : ∀ b ∈ g.blocks, ∀ entry ∈ b.fields.entries,
      (b.kind?.any fun k => (unspliced k).contains entry.1) = true ∨ Plain entry.2.render)
    (hserial : ∀ entry ∈ board.serialMapper.entries, Plain entry.2)
    (hi2c : ∀ entry ∈ board.i2cMapper.entries, Plain entry.2)
    (hbuses : ∀ pins ∈ board.spi1Alternative.toList ++ board.spiPins.values,
      Plain pins.mosi ∧ Plain pins.miso ∧ Plain pins.sck)
    (hindent : indent.toList.all Text.isBlank = true) : PlainInput g board indent where
  fields b hb k hk field hfield text htext := by
    have hentry := hfields b hb _ (Dict.mem_entries_iff.mpr htext)
    rw [hk] at hentry
    rcases hentry with hquoted | hplain
    · exact absurd (List.contains_iff_mem.mp hquoted) hfield
    · exact hplain
  units pin mapper unit hunit := by
    have hget : (board.mapper mapper).get? pin = some unit := by
      unfold Board.unit at hunit
      cases hget : (board.mapper mapper).get? pin with
      | none =>
        rw [hget] at hunit
        cases hunit
      | some found =>
        rw [hget] at hunit
        rw [Except.ok.inj hunit]
    cases mapper with
    | serial => exact hserial _ (Dict.mem_entries_iff.mpr hget)
    | i2c => exact hi2c _ (Dict.mem_entries_iff.mpr hget)
  buses bus choice pins hpins := by
    have hlisted (hget : board.spiPins.get? bus = some pins) : pins ∈ board.spiPins.values :=
      List.mem_map.mpr ⟨_, Dict.mem_entries_iff.mpr hget, rfl⟩
    refine hbuses pins (List.mem_append.mpr ?_)
    unfold Board.busPins? at hpins
    split at hpins
    next other hother =>
      split_ifs at hpins
      · exact .inl (by rw [hother, ← Option.some.inj hpins]; simp)
      · exact .inr (hlisted hpins)
    next => exact .inr (hlisted hpins)
  indent := List.all_eq_true.mp hindent

/-- A block without value sockets is its whole tree. -/
lemma contentFree_leaf {g : Graph} {b : Block} (hvalues : b.values = {})
    (hk : b.kind? ≠ some (.serial .content)) : ContentFree g b := by
  intro c hc
  rcases Relation.ReflTransGen.cases_head hc with rfl | ⟨d, ⟨socket, hplug⟩, -⟩
  · exact hk
  · rw [hvalues] at hplug
    cases hplug

/-- The blocks of a printing call whose texts and ids hold quotes, brackets, commas and line breaks.
The format has a comma inside its literal, the value behind it one inside its brackets. -/
def quotedCall : Block :=
  { id := "print("
    kind := "serial_print"
    fields := .ofList [("SERIAL_Pins", .text "Serial_1"), ("NEW_LINE", .checkbox true)]
    values := .ofList [("CONTENT", "say\""), ("CONTENT_STR", "power,")] }

def quotedText : Block :=
  { id := "say\"", kind := "text", fields := .ofList [("TEXT", .text "%d, \"(\n\\")] }

def quotedPower : Block :=
  { id := "power,", kind := "math_arithmetic", fields := .ofList [("OP", .text "POWER")] }

/-- The call, and another one that prints a list of two arguments to a file. -/
def quotations : Graph :=
  { blocks :=
      [quotedCall, quotedText, quotedPower,
       { id := "[log", kind := "fs_fprintf", values := .ofList [("CONTENT", "list")] },
       { id := "list"
         kind := "print_content"
         values := .ofList [("format_content", "say\""), ("join_content", "power,")] }] }

lemma plainInput_quotations : PlainInput quotations Board.Nucleo.profile "  " := by
  apply PlainInput.of_entries <;> decide +kernel

lemma plainPrint_quotations : PlainPrint quotations quotedCall := by
  intro socket hsocket c hc
  have hleaf : c = quotedText ∨ c = quotedPower := by
    simp only [List.mem_cons, List.not_mem_nil, or_false] at hsocket
    rcases hsocket with rfl | rfl
    · have htext : (quotedCall.values.get? "CONTENT").bind quotations.get? = some quotedText := by
        decide +kernel
      exact .inl (Option.some.inj (hc.symm.trans htext))
    · have hpower : (quotedCall.values.get? "CONTENT_STR").bind quotations.get? =
          some quotedPower := by
        decide +kernel
      exact .inr (Option.some.inj (hc.symm.trans hpower))
  rcases hleaf with rfl | rfl
  · exact contentFree_leaf rfl (by decide +kernel)
  · exact contentFree_leaf rfl (by decide +kernel)

/-- The line that the call becomes. -/
def quotedLine : String := "Serial_1.printf(\"%d, \\\"(\\n\\\\\\n\",pow(0, 0));\n"

theorem output_wellFormed_quotations :
    PlainInput quotations Board.Nucleo.profile "  " ∧ PlainPrint quotations quotedCall ∧
      Balanced (Generator.new quotations Board.Nucleo.profile { header := false }).program.render ∧
      (quotations.emitWithin Board.Nucleo.profile "  " [] quotedCall).result =
        some (.statement quotedLine) ∧
      PrintsOnce (siteWithin quotations Board.Nucleo.profile "  " [] quotedCall)
        (quotedCall.text "SERIAL_Pins" ++ ".printf") [] quotedLine := by
  obtain ⟨-, hprints, -, hrender⟩ := output_wellFormed quotations Board.Nucleo.profile
    { header := false } plainInput_quotations
  have hcall : quotedCall ∈ quotations.blocks := List.mem_cons_self
  have hline : (quotations.emitWithin Board.Nucleo.profile "  " [] quotedCall).result =
      some (.statement quotedLine) := by
    decide +kernel
  obtain ⟨text, htext, honce⟩ :=
    (hprints [] quotedCall hcall (by simp) plainPrint_quotations).1 (by decide +kernel)
  have hsame : quotedLine = text := Fragment.statement.inj (Option.some.inj (hline.symm.trans htext))
  exact ⟨plainInput_quotations, plainPrint_quotations, hrender rfl, hline, hsame ▸ honce⟩

end MbedBlocks.Lexical
