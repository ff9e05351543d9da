import MbedBlocks.Proofs.LexicalTexts
import MbedBlocks.Proofs.ScriptContracts
import MbedBlocks.Proofs.SourceOrder

/-!
# Scripts emit balanced text

A text that a script puts together is taken apart again into the literals of its rule and the
answers that stand between them, and is then read piece by piece. Each rule is checked once against
a contract: fields and sockets are balanced, so what is registered and emitted is.
-/

namespace MbedBlocks

namespace Lexical

open Board (BusPins Mapper)
open Code (Level Fragment)
open Proofs
open Text (LinesEnd)

/-! ### Pieces of a text -/

/-- A part of a text: a literal of the rule, a balanced text, or a balanced text for which a literal
may stand. -/
inductive Piece (single : Bool) where
  | lit (text : String)
  | hole (text : String) (h : Neutral single text)
  | either (text fallback : String) (h : Neutral single text ∨ text = fallback)

def Piece.text {single : Bool} : Piece single → String
  | lit text => text
  | hole text _ => text
  | either text _ _ => text

section Pieces

variable {single : Bool}

def spell (ps : List (Piece single)) : String := String.join (ps.map Piece.text)

/-- The pieces are read one after the other while the brackets in `stack` are open, and none is open
at the end. -/
inductive Piecewise (single : Bool) : List Bracket → List (Piece single) → Prop
  | nil : Piecewise single [] []
  | hole {stack : List Bracket} {text : String} {h : Neutral single text}
      {ps : List (Piece single)} :
      Piecewise single stack ps → Piecewise single stack (.hole text h :: ps)
  | either {stack : List Bracket} {text : String} {cs : List Char}
      {h : Neutral single text ∨ text = String.ofList cs} {ps : List (Piece single)} :
      scan single (some {}) cs = some {} → Piecewise single stack ps →
        Piecewise single stack (.either text (String.ofList cs) h :: ps)
  | lit {stack stack' : List Bracket} {cs : List Char} {ps : List (Piece single)} :
      scan single (some ⟨stack, .code⟩) cs = some ⟨stack', .code⟩ → Piecewise single stack' ps →
        Piecewise single stack (.lit (String.ofList cs) :: ps)

/-- The last piece is a literal that ends its line. -/
inductive EndsLine : List (Piece single) → Prop
  | last {cs : List Char} : cs.getLast? = some '\n' → EndsLine [.lit (String.ofList cs)]
  | cons {p : Piece single} {ps : List (Piece single)} : EndsLine ps → EndsLine (p :: ps)

/-- Texts that can be read piece by piece. -/
inductive Spelled (single : Bool) : String → Prop
  | mk {ps : List (Piece single)} : Piecewise single [] ps → Spelled single (spell ps)

/-- Statement lines that can be read piece by piece. -/
inductive Lined : String → Prop
  | lines {ps : List (Piece false)} : Piecewise false [] ps → EndsLine ps → Lined (spell ps)
  | none : Lined ""

lemma spell_cons (p : Piece single) (ps : List (Piece single)) :
    spell (p :: ps) = p.text ++ spell ps := by
  rw [spell, List.map_cons, String.join_cons]
  rfl

@[simp] lemma spell_of_neutral {text : String} (h : Neutral single text)
    (ps : List (Piece single)) : text ++ spell ps = spell (.hole text h :: ps) :=
  (spell_cons (.hole text h) ps).symm

lemma neutral_or_fallback {b : Block} {field : String} (h : Neutral single (b.text field))
    (fallback : String) :
    Neutral single (b.textOr field fallback) ∨ b.textOr field fallback = fallback := by
  unfold Block.textOr
  split_ifs
  · exact .inr rfl
  · exact .inl h

lemma neutral_textOr {b : Block} {field fallback : String} (h : Neutral single (b.text field))
    (hfallback : Neutral single fallback) : Neutral single (b.textOr field fallback) := by
  rcases neutral_or_fallback h fallback with htext | htext
  · exact htext
  · rw [htext]
    exact hfallback

@[simp] lemma spell_textOr {b : Block} {field : String} (h : Neutral single (b.text field))
    (fallback : String) (ps : List (Piece single)) :
    b.textOr field fallback ++ spell ps =
      spell (.either (b.textOr field fallback) fallback (neutral_or_fallback h fallback) :: ps) :=
  (spell_cons (.either _ fallback (neutral_or_fallback h fallback)) ps).symm

/-- All that is not known to be balanced is taken for a literal. -/
@[simp low] lemma spell_literal (text : String) (ps : List (Piece single)) :
    text ++ spell ps = spell (.lit text :: ps) :=
  (spell_cons (.lit text) ps).symm

lemma Piecewise.scan {stack : List Bracket} {ps : List (Piece single)} (h : Piecewise single stack ps) :
    Lexical.scan single (some ⟨stack, .code⟩) (spell ps).toList = some {} := by
  induction h with
  | nil => rfl
  | @hole stack text htext ps _ ih =>
    rw [spell_cons, Piece.text, String.toList_append, scan_append, htext.scan]
    exact ih
  | @either stack text cs htext ps hcs _ ih =>
    have hneutral : Neutral single text := by
      rcases htext with htext | htext
      · exact htext
      · rw [htext, Neutral, String.toList_ofList]
        exact hcs
    rw [spell_cons, Piece.text, String.toList_append, scan_append, hneutral.scan]
    exact ih
  | lit hcs _ ih =>
    rw [spell_cons, Piece.text, String.toList_append, scan_append, String.toList_ofList, hcs]
    exact ih

lemma Spelled.neutral {text : String} (h : Spelled single text) : Neutral single text := by
  obtain ⟨hps⟩ := h
  exact hps.scan

lemma EndsLine.linesEnd {ps : List (Piece single)} (h : EndsLine ps) :
    ∃ start, spell ps = start ++ "\n" := by
  induction h with
  | @last cs hcs =>
    obtain ⟨front, rfl⟩ := List.getLast?_eq_some_iff.mp hcs
    refine ⟨String.ofList front, ?_⟩
    rw [spell_cons, Piece.text, String.ofList_append]
    exact String.append_empty
  | @cons p ps _ ih =>
    obtain ⟨start, hstart⟩ := ih
    exact ⟨p.text ++ start, by rw [spell_cons, hstart, String.append_assoc]⟩

lemma Lined.balanced {text : String} (h : Lined text) : Balanced text ∧ LinesEnd text := by
  cases h with
  | lines hps hend => exact ⟨hps.scan, .inr hend.linesEnd⟩
  | none => exact ⟨neutral_empty, .inl rfl⟩

@[simp] lemma lined_nil : Lined (spell ([] : List (Piece false))) := .none

end Pieces

/-- A text that is to be read piece by piece. The end marks where taking it apart begins. -/
def Legible (single : Bool) (text : String) : Prop :=
  Spelled single (text ++ spell ([] : List (Piece single)))

/-- Code that is to be read piece by piece. -/
def Fits (single : Bool) : Fragment → Prop
  | .value text _ => Legible single text
  | .statement text => Lined (text ++ spell ([] : List (Piece false)))

section Goals

variable {single : Bool}

lemma Legible.neutral {text : String} (h : Legible single text) : Neutral single text := by
  have hend : text ++ spell ([] : List (Piece single)) = text := String.append_empty
  exact hend ▸ Spelled.neutral h

lemma Neutral.legible {text : String} (h : Neutral single text) : Legible single text := by
  simp [Legible, h]
  repeat' constructor

lemma Fits.value {text : String} {level : Level} (h : Fits single (.value text level)) :
    Neutral single text := Legible.neutral h

lemma Fits.statement {text : String} (h : Fits single (.statement text)) :
    Balanced text ∧ LinesEnd text := by
  have hend : text ++ spell ([] : List (Piece false)) = text := String.append_empty
  exact hend ▸ Lined.balanced h

end Goals

/-! ### The contract -/

/-- An expression that a socket is filled with, or the lines of a chain. -/
structure Expression (single : Bool) where
  text : String
  neutral : Neutral single text

/-- The expression in a socket, or the literal that stands for it if the socket is empty. -/
structure Answered (single : Bool) (fallback : String) where
  text : String
  neutral_or : Neutral single text ∨ text = fallback

/-- The name of a unit. -/
structure Name where
  text : String
  single : Single text

/-- The pins of a bus. -/
structure Wires where
  pins : BusPins
  mosi : Single pins.mosi
  miso : Single pins.miso
  sck : Single pins.sck

/-- What is registered can be read, and pins whose units are asked for are single names. Sockets are
filled with balanced text, and units and buses have single names. -/
def lexical (single : Bool) : Contract where
  asks
    | .register r => Legible false r.text
    | .provide _ rs => ∀ r ∈ rs, Legible false r.text
    | .unit pin _ => Single pin
    | _ => True
  answers
    | .unit _ _, unit => Single unit
    | .bus _ _, pins => Single pins.mosi ∧ Single pins.miso ∧ Single pins.sck
    | .value _ _, text => ∀ t ∈ text, Neutral single t
    | .body _, lines => Balanced lines
    | _, _ => True

section Answers

variable {single : Bool} {fallback : String}

@[simp] lemma neutral_expression (e : Expression single) : Neutral single e.text := e.neutral

@[simp] lemma balanced_expression (e : Expression single) : Balanced e.text := e.neutral.balanced

@[simp] lemma neutral_name (n : Name) : Neutral single n.text := n.single.neutral

@[simp] lemma neutral_mosi (w : Wires) : Neutral single w.pins.mosi := w.mosi.neutral

@[simp] lemma neutral_miso (w : Wires) : Neutral single w.pins.miso := w.miso.neutral

@[simp] lemma neutral_sck (w : Wires) : Neutral single w.pins.sck := w.sck.neutral

@[simp] lemma spell_answered (e : Answered single fallback) (ps : List (Piece single)) :
    e.text ++ spell ps = spell (.either e.text fallback e.neutral_or :: ps) :=
  (spell_cons (.either e.text fallback e.neutral_or) ps).symm

@[simp] lemma spell_answered_balanced (e : Answered single fallback) (ps : List (Piece false)) :
    e.text ++ spell ps =
      spell (.either e.text fallback (e.neutral_or.imp Neutral.balanced id) :: ps) :=
  (spell_cons (.either e.text fallback (e.neutral_or.imp Neutral.balanced id)) ps).symm

lemma Answered.neutral (e : Answered single fallback) (h : Neutral single fallback) :
    Neutral single e.text := by
  rcases e.neutral_or with htext | htext
  · exact htext
  · rw [htext]
    exact h

end Answers

section Requests

variable {single : Bool} {Q : Unit → Prop} {T : String → Prop}

@[simp] lemma meets_statement {F : Fragment → Prop} (text : String) :
    Meets (lexical single) (Script.statement text) F ↔ F (.statement text) := Iff.rfl

@[simp] lemma meets_expression {F : Fragment → Prop} (text : String) (level : Level) :
    Meets (lexical single) (Script.expression text level) F ↔ F (.value text level) := Iff.rfl

@[simp] lemma meets_call {F : Fragment → Prop} (text : String) :
    Meets (lexical single) (Script.call text) F ↔ F (.value text .unaryPostfix) := Iff.rfl

@[simp] lemma meets_register (r : Registration) :
    Meets (lexical single) (Script.register r) Q ↔ Legible false r.text ∧ Q () :=
  and_congr_right fun _ => ⟨fun h => h () trivial, fun h _ _ => h⟩

@[simp] lemma meets_addInclude (key text : String) :
    Meets (lexical single) (Script.addInclude key text) Q ↔ Legible false text ∧ Q () :=
  meets_register _

@[simp] lemma meets_addFunction (key text : String) :
    Meets (lexical single) (Script.addFunction key text) Q ↔ Legible false text ∧ Q () :=
  meets_register _

@[simp] lemma meets_declare (key text : String) :
    Meets (lexical single) (Script.declare key text) Q ↔ Legible false text ∧ Q () :=
  meets_register _

@[simp] lemma meets_addSetup (key text : String) (runFirst : Bool) :
    Meets (lexical single) (Script.addSetup key text runFirst) Q ↔ Legible false text ∧ Q () :=
  meets_register _

@[simp] lemma meets_provide (function : String) (rs : List Registration) :
    Meets (lexical single) (Script.provide function rs) Q ↔
      (∀ r ∈ rs, Legible false r.text) ∧ Q () :=
  and_congr_right fun _ => ⟨fun h => h () trivial, fun h _ _ => h⟩

@[simp] lemma meets_reserve (pin : String) (role : PinRole) (purpose : String) :
    Meets (lexical single) (Script.reserve pin role purpose) Q ↔ Q () :=
  ⟨fun h => h.2 () trivial, fun h => ⟨trivial, fun _ _ => h⟩⟩

@[simp] lemma meets_unit (pin : String) (mapper : Mapper) :
    Meets (lexical single) (Script.unit pin mapper) T ↔ Single pin ∧ ∀ n : Name, T n.text :=
  and_congr_right fun _ => ⟨fun h n => h n.text n.single, fun h text htext => h ⟨text, htext⟩⟩

@[simp] lemma meets_bus {B : BusPins → Prop} (name choice : String) :
    Meets (lexical single) (Script.bus name choice) B ↔ ∀ w : Wires, B w.pins :=
  ⟨fun h w => h.2 w.pins ⟨w.mosi, w.miso, w.sck⟩,
    fun h => ⟨trivial, fun pins hpins => h ⟨pins, hpins.1, hpins.2.1, hpins.2.2⟩⟩⟩

@[simp] lemma meets_value {V : Option String → Prop} (socket : String) (slot : Level) :
    Meets (lexical single) (Script.value socket slot) V ↔
      V none ∧ ∀ e : Expression single, V (some e.text) := by
  constructor
  · rintro ⟨-, h⟩
    exact ⟨h none (by rintro _ ⟨⟩), fun e => h (some e.text) (by rintro _ ⟨⟩; exact e.neutral)⟩
  · rintro ⟨hnone, hsome⟩
    refine ⟨trivial, fun answer hanswer => ?_⟩
    cases answer with
    | none => exact hnone
    | some text => exact hsome ⟨text, hanswer text rfl⟩

@[simp] lemma meets_valueOr (socket : String) (slot : Level) (fallback : String) :
    Meets (lexical single) (Script.valueOr socket slot fallback) T ↔
      ∀ e : Answered single fallback, T e.text := by
  rw [Script.valueOr, meets_bind, meets_value]
  constructor
  · rintro ⟨hnone, hsome⟩ ⟨text, htext | rfl⟩
    · exact hsome ⟨text, htext⟩
    · exact hnone
  · exact fun h => ⟨h ⟨fallback, .inr rfl⟩, fun e => h ⟨e.text, .inl e.neutral⟩⟩

@[simp] lemma meets_argumentOr (socket fallback : String) :
    Meets (lexical single) (Script.argumentOr socket fallback) T ↔
      ∀ e : Answered single fallback, T e.text :=
  meets_valueOr socket .argument fallback

@[simp] lemma meets_body (socket : String) :
    Meets (lexical single) (Script.body socket) T ↔ ∀ e : Expression false, T e.text :=
  ⟨fun h e => h.2 e.text e.neutral, fun h => ⟨trivial, fun lines hlines => h ⟨lines, hlines⟩⟩⟩

@[simp] lemma meets_callback (name : String) (params : List String) (socket : String) :
    Meets (lexical single) (Script.callback name params socket) Q ↔
      ∀ e : Expression false,
        Legible false (Code.functionText "void" name params e.text) ∧ Q () := by
  rw [Script.callback, meets_bind, meets_body]
  simp only [meets_addFunction]

end Requests

/-! ### Rules of each family

Each script is run first, and its texts are taken apart only then, when the answers in them are
known to be balanced. Literals that stand next to each other are not joined.
-/

/-- The fields of a kind that are not spliced into the program as they stand: they are quoted, or
compared with a choice of the board. -/
def unspliced : Kind → List String
  | .language .text => ["SPI1_ID", "TEXT"]
  | .voice .add => ["SPI1_ID", "words"]
  | .file .openFile => ["SPI1_ID", "MODE"]
  | .network .setup =>
    ["SPI1_ID", "host", "node", "sensors", "actuators", "mqttUser", "mqttPasswd"]
  | _ => ["SPI1_ID"]

/-- The fields that are spliced into the program are balanced and have no outer comma. -/
def RawFields (k : Kind) (b : Block) : Prop := ∀ field ∉ unspliced k, Single (b.text field)

lemma RawFields.neutral {k : Kind} {b : Block} (hb : RawFields k b) {single : Bool}
    {field : String} (h : field ∉ unspliced k) : Neutral single (b.text field) :=
  (hb field h).neutral

section Families

variable {single : Bool} {b : Block}

lemma neutral_zero : Neutral single "0" := neutral_literal rfl

@[simp] lemma neutral_identifierSuffix (id : String) : Neutral single (Code.identifierSuffix id) :=
  (plain_identifierSuffix id).neutral

@[simp] lemma neutral_spelling (type : ValueType) : Neutral single type.spelling := by
  cases type <;> exact neutral_literal rfl

@[simp] lemma balanced_addressOfWords (e : Expression single) :
    Balanced (Text.addressOfWords e.text) := e.neutral.balanced.addressOfWords

lemma meets_pin (k : PinKind) (hb : RawFields (.pin k) b) :
    Meets (lexical single) (k.emit b) (Fits single) := by
  cases k <;>
    simp only [PinKind.emit, PinKind.emitWrite, PinKind.emitDigitalRead, PinKind.emitAnalogRead,
      PinKind.emitPwm, PinKind.pulseLevel, PinKind.emitPulse, PinKind.emitPulseTimeout,
      PinKind.emitInterrupt, PinKind.emitTone, PinKind.emitSilence, PinKind.pwmOut, digitalOut,
      meets_bind, meets_pure, meets_statement, meets_expression, meets_call, meets_reserve,
      meets_declare, meets_addSetup, meets_callback, meets_argumentOr, meets_valueOr] <;>
    simp [Legible, Fits, Code.functionText, Code.braces, String.append_assoc, hb.neutral, unspliced,
      -String.reduceAppend] <;>
    repeat' first | intro _ | constructor

/-- The arguments of a printing call, with or without a line feed in the format. -/
lemma meets_read : Meets (lexical single) (PrintArguments.read b) fun args =>
    Neutral single args.content ∧ ∀ t ∈ args.extra, Neutral single t := by
  simp only [PrintArguments.read, meets_bind, meets_argumentOr, meets_value, meets_pure]
  intro content
  have hcontent : Neutral single (if b.isChecked "NEW_LINE" then Code.appendNewline content.text
      else content.text) := by
    have htext := content.neutral neutral_zero
    split_ifs
    · exact htext.appendNewline
    · exact htext
  exact ⟨⟨hcontent, by simp⟩, fun extra => ⟨hcontent, by simp⟩⟩

lemma fits_call {args : PrintArguments} {callee : String} {leading : List String}
    (hcallee : Balanced callee) (hleading : ∀ t ∈ leading, Balanced t)
    (hcontent : Balanced args.content) (hextra : ∀ t ∈ args.extra, Balanced t) :
    Fits single (.statement (args.call callee leading)) := by
  have harguments : Balanced (",".intercalate (leading ++ args.content :: args.extra.toList)) := by
    refine neutral_intercalate (neutral_literal rfl) ?_
    refine List.forall_mem_append.mpr ⟨hleading, List.forall_mem_cons.mpr ⟨hcontent, ?_⟩⟩
    exact fun t ht => hextra t (Option.mem_toList.mp ht)
  simp [Fits, PrintArguments.call, String.append_assoc, hcallee, harguments]
  repeat' constructor

lemma meets_serial (k : SerialKind) (hb : RawFields (.serial k) b)
    (hk : k = .content → single = false) : Meets (lexical single) (k.emit b) (Fits single) := by
  cases k with
  | print =>
    simp only [SerialKind.emit, SerialKind.emitPrint, meets_bind, meets_statement]
    refine meets_read.mono fun args hargs => ?_
    have hcallee : Balanced (b.text "SERIAL_Pins" ++ ".printf") :=
      Neutral.append (hb.neutral (by simp [unspliced])) (neutral_literal rfl)
    exact fits_call hcallee (by simp) hargs.1.balanced fun t ht => (hargs.2 t ht).balanced
  | content =>
    obtain rfl := hk rfl
    simp only [SerialKind.emit, SerialKind.emitContent, meets_bind, meets_argumentOr, meets_value,
      meets_expression]
    intro format
    have hformat : Balanced format.text := format.neutral neutral_empty
    refine ⟨hformat.legible, fun join => ?_⟩
    split_ifs
    · exact hformat.legible
    · simp [Legible, Fits, hformat, String.append_assoc]
      repeat' constructor
  | _ =>
    simp only [SerialKind.emit, SerialKind.lineUnit, SerialKind.emitSetup, SerialKind.emitAttach,
      SerialKind.emitReaderSetup, SerialKind.emitReaderCall, meets_bind, meets_reserve, meets_unit,
      meets_declare, meets_statement, meets_callback, meets_call]
    simp [Legible, Fits, Code.functionText, Code.braces, String.append_assoc, hb.neutral, unspliced,
      -String.reduceAppend]
    repeat' first | intro _ | constructor

lemma meets_motor (k : MotorKind) (hb : RawFields (.motor k) b) :
    Meets (lexical single) (k.emit b) (Fits single) := by
  cases k with
  | stepperRotate =>
    simp only [MotorKind.emit, MotorKind.emitStepperRotate, meets_bind, meets_argumentOr,
      meets_statement]
    split_ifs <;> simp [Fits, String.append_assoc, hb.neutral, unspliced, -String.reduceAppend]
    all_goals repeat' first | intro _ | constructor
  | _ =>
    simp only [MotorKind.emit, MotorKind.servoOut, MotorKind.emitServoWrite,
      MotorKind.emitServoRead, MotorKind.emitStepperSetup, meets_bind, meets_pure, meets_statement,
      meets_call, meets_reserve, meets_declare, meets_addInclude, meets_argumentOr]
    simp [Legible, Fits, String.append_assoc, hb.neutral, unspliced, -String.reduceAppend]
    repeat' first | intro _ | constructor

lemma meets_time (k : TimeKind) (hb : RawFields (.time k) b) :
    Meets (lexical single) (k.emit b) (Fits single) := by
  cases k with
  | delay =>
    simp only [TimeKind.emit, TimeKind.emitDelay, meets_bind, meets_valueOr, meets_statement]
    intro millis
    have hseconds : Balanced (Code.divideLiteral millis.text 1000) :=
      ((millis.neutral neutral_zero).divideLiteral 1000).balanced
    simp [Fits, String.append_assoc, hseconds]
    repeat' constructor
  | _ =>
    simp only [TimeKind.emit, TimeKind.emitDelayMicros, TimeKind.emitTicker, meets_bind,
      meets_argumentOr, meets_statement, meets_call, meets_callback, meets_declare]
    simp [Legible, Fits, Code.functionText, Code.braces, String.append_assoc, hb.neutral, unspliced,
      -String.reduceAppend]
    repeat' first | intro _ | constructor

lemma balanced_transferBody {select bus data : String} (hselect : Balanced select)
    (hbus : Balanced bus) (hdata : Balanced data) :
    Balanced (SpiKind.transferBody select bus data) := by
  apply Legible.neutral
  unfold SpiKind.transferBody
  simp [Legible, String.append_assoc, hselect, hbus, hdata, -String.reduceAppend]
  repeat' constructor

lemma meets_transferReturn (hb : RawFields (.spi .transferReturn) b) :
    Meets (lexical single) (SpiKind.emitTransferReturn b) (Fits single) := by
  simp only [SpiKind.emitTransferReturn, digitalOut, meets_bind, meets_pure, meets_ite,
    meets_argumentOr, meets_reserve, meets_declare, meets_addFunction, meets_call]
  intro data
  refine ⟨fun _ => ?_, fun _ => ?_⟩
  · simp [Legible, Fits, String.append_assoc, hb.neutral, unspliced]
    repeat' constructor
  · have hslave : Neutral single (b.textOr "SPI_SS" "none") :=
      neutral_textOr (hb.neutral (by simp [unspliced])) (neutral_literal rfl)
    have hbody : Balanced (SpiKind.transferBody ("myDigitalOut" ++ b.textOr "SPI_SS" "none")
        ("spi_" ++ b.text "SPI_ID") data.text) := by
      apply balanced_transferBody
      · exact Neutral.append (neutral_literal rfl) hslave.balanced
      · exact Neutral.append (neutral_literal rfl) (hb.neutral (by simp [unspliced]))
      · exact (data.neutral neutral_zero).balanced
    simp [Legible, Fits, Code.functionText, Code.braces, String.append_assoc, hslave,
      hslave.balanced, hbody, -String.reduceAppend]
    repeat' constructor

lemma meets_spi (k : SpiKind) (hb : RawFields (.spi k) b) :
    Meets (lexical single) (k.emit b) (Fits single) := by
  cases k with
  | setup =>
    simp only [SpiKind.emit, SpiKind.emitSetup, reserveBus, digitalOut, meets_bind, meets_pure,
      meets_ite, meets_valueOr, meets_bus, meets_reserve, meets_declare, meets_statement]
    intro frequency
    have hfrequency : Balanced (Code.multiplyLiteral frequency.text 100000) := by
      have hone : Neutral single "1" := neutral_literal rfl
      exact ((frequency.neutral hone).multiplyLiteral 100000).balanced
    simp [Legible, Fits, String.append_assoc, hb.neutral, unspliced, hfrequency,
      -String.reduceAppend]
    repeat' first | intro _ | constructor
  | transfer =>
    simp only [SpiKind.emit, SpiKind.emitTransfer, meets_bind, meets_argumentOr, meets_statement]
    simp [Fits, String.append_assoc, hb.neutral, unspliced]
    repeat' first | intro _ | constructor
  | transferReturn => exact meets_transferReturn hb

lemma meets_radio (k : RadioKind) (hb : RawFields (.radio k) b) :
    Meets (lexical single) (k.emit b) (Fits single) := by
  cases k <;>
    simp only [RadioKind.emit, RadioKind.emitSetup, RadioKind.object, reserveBus, fieldPins,
      meets_bind, meets_reserve, meets_addInclude, meets_declare, meets_statement, meets_call] <;>
    simp [Legible, Fits, String.append_assoc, hb.neutral, unspliced, -String.reduceAppend] <;>
    repeat' first | intro _ | constructor

lemma balanced_topicRows (names : String) : Balanced (NetworkKind.topicRows names) := by
  refine neutral_join fun row hrow => ?_
  obtain ⟨name, -, rfl⟩ := List.mem_map.mp hrow
  apply Legible.neutral
  simp [Legible, String.append_assoc]
  repeat' constructor

lemma balanced_topicTable {object : String} (hobject : Balanced object) (names : String) :
    Balanced (NetworkKind.topicTable object names) := by
  apply Legible.neutral
  have hrows := balanced_topicRows names
  unfold NetworkKind.topicTable
  simp [Legible, String.append_assoc, hobject, hrows]
  repeat' constructor

@[simp] lemma balanced_optionalLiteral (text : String) :
    Balanced (NetworkKind.optionalLiteral text) := by
  unfold NetworkKind.optionalLiteral
  split_ifs
  · exact neutral_literal rfl
  · exact neutral_stringLiteral text

lemma legible_handler (body : Expression false) :
    ∀ r ∈ NetworkKind.handlerRegistrations body.text, Legible false r.text := by
  simp only [NetworkKind.handlerRegistrations, NetworkKind.handler, List.forall_mem_cons,
    Registration.text]
  simp [Legible, Code.functionText, Code.braces, String.append_assoc, -String.reduceAppend]
  repeat' constructor

lemma meets_network (k : NetworkKind) (hb : RawFields (.network k) b) :
    Meets (lexical single) (k.emit b) (Fits single) := by
  cases k with
  | setup =>
    have hhandler : ∀ r ∈ NetworkKind.handlerRegistrations "", Legible false r.text :=
      legible_handler ⟨"", neutral_empty⟩
    have hsensors := balanced_topicTable (neutral_literal rfl :
      Balanced "w5500sensors_") (b.text "sensors")
    have hactuators := balanced_topicTable (neutral_literal rfl :
      Balanced "w5500actuators_") (b.text "actuators")
    simp only [NetworkKind.emit, NetworkKind.emitSetup, reserveBus, fieldPins, meets_bind,
      meets_reserve, meets_addInclude, meets_declare, meets_provide, meets_statement,
      eq_true hhandler, true_and]
    simp [Legible, Fits, NetworkKind.handler, String.append_assoc, hb.neutral, unspliced, hsensors,
      hactuators, -String.reduceAppend]
    repeat' constructor
  | command =>
    simp only [NetworkKind.emit, NetworkKind.emitCommand, meets_bind, meets_body, meets_statement]
    intro body
    have hhandler := legible_handler body
    simp only [NetworkKind.handlerRegistrations, List.forall_mem_cons] at hhandler
    simp only [NetworkKind.handlerRegistrations, List.forM_eq_forM, List.forM_cons, List.forM_nil,
      meets_bind, meets_register, meets_pure]
    exact ⟨hhandler.1, hhandler.2.1, lined_nil⟩
  | _ =>
    simp only [NetworkKind.emit, NetworkKind.emitPublish, meets_bind, meets_argumentOr,
      meets_statement]
    simp [Fits, String.append_assoc, hb.neutral, unspliced, -String.reduceAppend]
    repeat' first | intro _ | constructor

lemma meets_voice (k : VoiceKind) (hb : RawFields (.voice k) b) :
    Meets (lexical single) (k.emit b) (Fits single) := by
  cases k <;>
    simp only [VoiceKind.emit, VoiceKind.emitSetup, reserveBus, fieldPins, meets_bind,
      meets_reserve, meets_addInclude, meets_declare, meets_statement, meets_call] <;>
    simp [Legible, Fits, String.append_assoc, hb.neutral, unspliced, -String.reduceAppend] <;>
    repeat' constructor

lemma meets_sensor (k : SensorKind) (hb : RawFields (.sensor k) b) :
    Meets (lexical single) (k.emit b) (Fits single) := by
  cases k <;>
    simp only [SensorKind.emit, SensorKind.emitCall, SensorKind.emitI2cSetup,
      SensorKind.emitPinSetup, SensorKind.emitAnalogSetup, SensorKind.emitReadable,
      SensorKind.emitReset, meets_bind, meets_reserve, meets_unit, meets_declare, meets_statement,
      meets_call, meets_expression] <;>
    simp [Legible, Fits, String.append_assoc, hb.neutral, unspliced, -String.reduceAppend] <;>
    repeat' first | intro _ | constructor

lemma meets_imu (k : ImuKind) (hb : RawFields (.imu k) b) :
    Meets (lexical single) (k.emit b) (Fits single) := by
  cases k <;>
    simp only [ImuKind.emit, ImuKind.emitSetup, ImuKind.emitGet, ImuKind.object, meets_bind,
      meets_reserve, meets_unit, meets_declare, meets_statement, meets_argumentOr] <;>
    simp [Legible, Fits, String.append_assoc, hb.neutral, unspliced, -String.reduceAppend] <;>
    repeat' first | intro _ | constructor

lemma meets_file (k : FileKind) (hb : RawFields (.file k) b) :
    Meets (lexical single) (k.emit b) (Fits single) := by
  cases k with
  | print =>
    simp only [FileKind.emit, FileKind.emitPrint, FileKind.handle, meets_bind, meets_pure,
      meets_declare, meets_statement]
    have hfile : Balanced (b.textOr "FILE" "fp") :=
      neutral_textOr (hb.neutral (by simp [unspliced])) (neutral_literal rfl)
    constructor
    · simp [Legible, String.append_assoc, hfile]
      repeat' constructor
    · refine meets_read.mono fun args hargs => ?_
      exact fits_call (neutral_literal rfl) (by simpa using hfile) hargs.1.balanced
        fun t ht => (hargs.2 t ht).balanced
  | _ =>
    simp only [FileKind.emit, FileKind.emitCard, FileKind.handle, FileKind.emitOpen,
      FileKind.emitScan, FileKind.emitClose, reserveBus, fieldPins, meets_bind, meets_pure,
      meets_reserve, meets_addInclude, meets_declare, meets_statement, meets_argumentOr, meets_value]
    simp [Legible, Fits, String.append_assoc, hb.neutral, unspliced, -String.reduceAppend]
    repeat' first | intro _ | constructor

lemma meets_gcode (k : GcodeKind) : Meets (lexical single) k.emit (Fits single) := by
  cases k <;>
    simp only [GcodeKind.emit, GcodeKind.emitCallback, GcodeKind.emitParse, meets_bind,
      meets_callback, meets_statement, meets_argumentOr] <;>
    simp [Legible, Fits, Code.functionText, Code.braces, String.append_assoc,
      -String.reduceAppend] <;>
    repeat' first | intro _ | constructor

/-! ### Variables -/

/-- What a cast is applied to. -/
lemma meets_castSource (g : Graph) {k : VariableKind} (hb : RawFields (.var k) b) :
    Meets (lexical single) (VariableKind.castSource g b) fun source => Neutral single source.code := by
  have hname : Neutral single (b.textOr "VARNAME" VariableKind.defaultName) :=
    neutral_textOr (hb.neutral (by simp [unspliced])) (neutral_literal rfl)
  unfold VariableKind.castSource
  split
  · simp only [meets_bind, meets_value, meets_pure]
    exact ⟨neutral_zero, fun e => e.neutral⟩
  · exact hname

lemma fits_convert {code : String} (h : Neutral single code) (source : Option ValueType)
    (target : ValueType) : Fits single (VariableKind.convert source target code) := by
  unfold VariableKind.convert
  split <;> simp [Legible, Fits, String.append_assoc, h] <;> repeat' constructor

lemma meets_variable (g : Graph) (k : VariableKind) (hb : RawFields (.var k) b) :
    Meets (lexical single) (k.emit g b) (Fits single) := by
  cases k with
  | cast =>
    simp only [VariableKind.emit, VariableKind.emitCast, meets_bind]
    refine (meets_castSource g hb).mono fun source hsource => ?_
    simp only [meets_ite, meets_expression, meets_pure]
    exact ⟨fun _ => hsource.legible, fun _ => fits_convert hsource _ _⟩
  | _ =>
    simp only [VariableKind.emit, VariableKind.emitDeclare, VariableKind.emitDeclareArray,
      VariableKind.includeFor, VariableKind.emitSet, VariableKind.defaultName, meets_bind,
      meets_pure, meets_ite, meets_addInclude, meets_declare, meets_statement, meets_expression,
      meets_value, meets_valueOr]
    simp [Legible, Fits, String.append_assoc, hb.neutral, unspliced, -String.reduceAppend]
    repeat' first | intro _ | constructor

/-! ### Language -/

lemma fits_apply {op : Operator} {left right : String} (hop : Neutral single op.symbol)
    (hleft : Neutral single left) (hright : Neutral single right) :
    Meets (lexical single) (op.apply left right) (Fits single) := by
  simp [Operator.apply, Legible, Fits, String.append_assoc, hleft, hright, hop]
  repeat' constructor

lemma meets_binary {op : Operator} (hop : Neutral single op.symbol) :
    Meets (lexical single) (LanguageKind.emitBinary op) (Fits single) := by
  simp only [LanguageKind.emitBinary, meets_bind, meets_valueOr]
  exact fun left right => fits_apply hop (left.neutral neutral_zero) (right.neutral neutral_zero)

lemma neutral_arithmetic (name : String) : Neutral single (Operator.arithmetic name).symbol := by
  unfold Operator.arithmetic
  split <;> exact neutral_literal rfl

lemma neutral_comparison (name : String) : Neutral single (Operator.comparison name).symbol := by
  unfold Operator.comparison
  split <;> exact neutral_literal rfl

lemma neutral_logical (name : String) : Neutral single (Operator.logical name).symbol := by
  unfold Operator.logical
  split <;> exact neutral_literal rfl

lemma neutral_truth (c : Prop) [Decidable c] : Neutral single (if c then "true" else "false") := by
  split_ifs <;> exact neutral_literal rfl

lemma meets_operation : Meets (lexical single) (LanguageKind.emitOperation b) (Fits single) := by
  have hop : Neutral single (Operator.logical (b.text "OP")).symbol := neutral_logical _
  have hfalse : Neutral single "false" := neutral_literal rfl
  simp only [LanguageKind.emitOperation, meets_bind, meets_value]
  refine ⟨⟨fits_apply hop hfalse hfalse, fun right => ?_⟩, fun left => ⟨?_, fun right => ?_⟩⟩
  · exact fits_apply hop (neutral_truth _) right.neutral
  · exact fits_apply hop left.neutral (neutral_truth _)
  · exact fits_apply hop left.neutral right.neutral

lemma meets_condition (n : Nat) :
    Meets (lexical single) (LanguageKind.emitCondition n) (Legible false) := by
  simp only [LanguageKind.emitCondition, meets_bind, meets_valueOr, meets_body, meets_pure]
  simp [Legible, Code.braces, String.append_assoc, -String.reduceAppend]
  repeat' first | intro _ | constructor

lemma meets_else : Meets (lexical single) (LanguageKind.emitElse b) fun branches =>
    ∀ t ∈ branches, Legible false t := by
  simp only [LanguageKind.emitElse, meets_ite, meets_bind, meets_body, meets_pure,
    List.forall_mem_singleton]
  simp [Legible, Code.braces, String.append_assoc, -String.reduceAppend]
  repeat' first | intro _ | constructor

lemma meets_branch : Meets (lexical single) (LanguageKind.emitBranch b) (Fits single) := by
  simp only [LanguageKind.emitBranch, meets_bind, meets_statement]
  refine (meets_mapM fun n _ => meets_condition n).mono fun conditions hconditions => ?_
  refine meets_else.mono fun rest hrest => ?_
  have hchain : Balanced (" else ".intercalate (conditions ++ rest)) := by
    refine neutral_intercalate (neutral_literal rfl) fun t ht => ?_
    exact (List.forall_mem_append.mpr ⟨hconditions, hrest⟩ t ht).neutral
  simp [Fits, String.append_assoc, hchain]
  repeat' constructor

lemma meets_language (k : LanguageKind) (hb : RawFields (.language k) b) :
    Meets (lexical single) (k.emit b) (Fits single) := by
  cases k with
  | arithmetic =>
    simp only [LanguageKind.emit, LanguageKind.emitArithmetic, meets_ite,
      eq_true (meets_binary (neutral_arithmetic _)), implies_true, and_true, meets_bind,
      meets_argumentOr, meets_call]
    simp [Legible, Fits, String.append_assoc]
    repeat' first | intro _ | constructor
  | compare => exact meets_binary (neutral_comparison _)
  | operation => exact meets_operation
  | branch => exact meets_branch
  | boolean =>
    simp only [LanguageKind.emit, meets_expression]
    exact (neutral_truth _).legible
  | repetition =>
    simp only [LanguageKind.emit, LanguageKind.emitRepetition, meets_bind, meets_ite, meets_pure,
      meets_valueOr, meets_body, meets_statement]
    simp [Fits, Code.braces, String.append_assoc, -String.reduceAppend]
    repeat' first | intro _ | constructor
  | _ =>
    simp only [LanguageKind.emit, LanguageKind.emitNumber, LanguageKind.emitNegate, meets_bind,
      meets_statement, meets_expression, meets_valueOr]
    simp [Legible, Fits, String.append_assoc, hb.neutral, unspliced, -String.reduceAppend]
    repeat' first | intro _ | constructor

/-- The rules of all kinds keep to the contract. The arguments of a printing call are the one
expression that is not a single argument. -/
theorem meets_kind (g : Graph) (k : Kind) (hb : RawFields k b)
    (hk : k = .serial .content → single = false) :
    Meets (lexical single) (k.emit g b) (Fits single) := by
  cases k with
  | language k => exact meets_language k hb
  | pin k => exact meets_pin k hb
  | serial k => exact meets_serial k hb fun hcontent => hk (hcontent ▸ rfl)
  | motor k => exact meets_motor k hb
  | time k => exact meets_time k hb
  | spi k => exact meets_spi k hb
  | radio k => exact meets_radio k hb
  | network k => exact meets_network k hb
  | voice k => exact meets_voice k hb
  | sensor k => exact meets_sensor k hb
  | imu k => exact meets_imu k hb
  | var k => exact meets_variable g k hb
  | file k => exact meets_file k hb
  | gcode k => exact meets_gcode k

end Families

end Lexical

end MbedBlocks
