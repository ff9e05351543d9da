import MbedBlocks.Proofs.IndependentGraphs
import MbedBlocks.Proofs.LastRegistrations

/-!
# The types of variables

A variable has a type in two places. A cast takes the type of the first block in the graph that
declares the variable; the program declares it with the type of the last one that is emitted, be it
of a single value or of an array. The two agree exactly if these blocks do.
-/

namespace MbedBlocks

/-! ### The type that a declaration spells -/

namespace ValueType

lemma mem_all (t : ValueType) : t ∈ all := by cases t <;> decide

lemma spelling_prefix_free : ∀ t ∈ all, ∀ u ∈ all,
    (t.spelling ++ " ").toList <+: (u.spelling ++ " ").toList → t = u := by
  decide

end ValueType

namespace Proofs

open Code (Fragment)
open Registration (Slot)
open VariableKind (castSource declaredType? defaultName fieldType lookedUp?)

/-- The text declares the variable with the type. -/
def DeclaresAs (type : ValueType) (name text : String) : Prop :=
  ∃ rest, text = type.spelling ++ " " ++ name ++ rest

/-- A declaration tells its type. -/
lemma DeclaresAs.unique {t u : ValueType} {name text : String} (ht : DeclaresAs t name text)
    (hu : DeclaresAs u name text) : t = u := by
  obtain ⟨rest, rfl⟩ := ht
  obtain ⟨rest', h⟩ := hu
  have hchars : (t.spelling ++ " ").toList ++ (name ++ rest).toList =
      (u.spelling ++ " ").toList ++ (name ++ rest').toList := by
    rw [← String.toList_append, ← String.toList_append, ← String.append_assoc,
      ← String.append_assoc, h]
  have hprefix := hchars ▸ List.prefix_append (t.spelling ++ " ").toList _
  rcases List.prefix_or_prefix_of_prefix hprefix (List.prefix_append _ _) with hstart | hstart
  · exact ValueType.spelling_prefix_free t t.mem_all u u.mem_all hstart
  · exact (ValueType.spelling_prefix_free u u.mem_all t t.mem_all hstart).symm

/-! ### Who declares a variable -/

/-- The key of a variable's declaration. -/
def variableSlot (name : String) : Slot := .declaration ("var_" ++ name)

lemma variableSlot_ne_header {name : String} (key : String) :
    variableSlot name ≠ .header key := nofun

/-- A block that declares the variable, or an array of that name. -/
structure DeclaresVariable (name : String) (b : Block) : Prop where
  kind : b.kind? = some (.var .declare) ∨ b.kind? = some (.var .declareArray)
  named : b.textOr "VARNAME" defaultName = name

lemma declared_userVariable {board : Board} {b : Block} {k : Kind} {name : String}
    (h : (Peripheral.userVariable, name) ∈ declared board b k) :
    (k = .var .declare ∨ k = .var .declareArray) ∧ b.textOr "VARNAME" defaultName = name := by
  cases k with
  | var k =>
    cases k with
    | declare | declareArray =>
      simp only [declared, List.mem_singleton, Prod.mk.injEq] at h
      simp [h.2]
    | _ => simp [declared] at h
  | language k | pin k | serial k | motor k | time k | spi k | radio k | network k | voice k
  | sensor k | imu k | file k | gcode k => cases k <;> simp [declared] at h

section Scripts

variable {s : Site Emit} {g : Graph} {b : Block} {k : Kind} {name : String}

/-- Scripts of other blocks leave the slot of a variable as it is. -/
lemma ownRegistrations_spare_variable
    (h : (Peripheral.userVariable, name) ∉ declared s.board b k) :
    ∀ e ∈ ownRegistrations s (k.emit g b), Spares (variableSlot name) e := by
  have hprofile := Ensures.own (s := s) (emit_profiled g b k)
  intro e he
  refine spares_of_ne ?_ nofun
  rintro x rfl hslot
  cases x with
  | declaration key text =>
    obtain rfl : key = "var_" ++ name := Slot.declaration.inj hslot
    exact h (hprofile.mem_declared (p := .userVariable) he)
  | _ => cases hslot

lemma late_includeFor {α : Type} {type : ValueType} {f : Unit → Script α}
    (hf : Late s (variableSlot name) (f ())) :
    Late s (variableSlot name) (VariableKind.includeFor type >>= f) := by
  unfold VariableKind.includeFor
  split_ifs
  · exact late_register nofun hf
  · exact hf

/-- A variable is declared when its initial value is there. -/
lemma late_declare (g : Graph) (b : Block) (k : Kind) :
    Late s (variableSlot name) (k.emit g b) := by
  by_cases hdeclared : (Peripheral.userVariable, name) ∈ declared s.board b k
  · obtain ⟨rfl | rfl, -⟩ := declared_userVariable hdeclared
    · exact late_includeFor (late_ask nofun fun _ => Closed.late ⟨id, fun _ => trivial⟩)
    · exact late_includeFor (Closed.late ⟨id, fun _ => trivial⟩)
  · exact late_of_spares (ownRegistrations_spare_variable hdeclared)

/-- What a declaring block leaves in the slot is a declaration of its own type. -/
lemma emit_declaresAs {board : Board} (hk : k = .var .declare ∨ k = .var .declareArray)
    (hname : b.textOr "VARNAME" defaultName = name) :
    Ensures board (k.emit g b) fun own _ => ∀ before, ∃ text,
      own.foldl (deposit (variableSlot name)) before = some text ∧
        DeclaresAs (fieldType b) name text := by
  have hlast (own : List Effect) (before : Option String) (text : String) :
      (own ++ [Effect.register (.declaration ("var_" ++ name) text)]).foldl
        (deposit (variableSlot name)) before = some text := by
    rw [List.foldl_append]
    exact if_pos rfl
  subst hname
  rcases hk with rfl | rfl
  · simp only [Kind.emit, VariableKind.emit, VariableKind.emitDeclare, ensures_bind, ensures_value,
      ensures_declare, ensures_statement, List.nil_append, List.append_nil]
    refine ensures_of_forall _ fun own _ initial before => ⟨_, hlast own before _, ?_⟩
    cases initial with
    | none => exact ⟨";", rfl⟩
    | some code => exact ⟨" = " ++ code ++ ";", by simp only [String.append_assoc]⟩
  · simp only [Kind.emit, VariableKind.emit, VariableKind.emitDeclareArray, ensures_bind,
      ensures_declare, ensures_statement, List.append_nil]
    refine ensures_of_forall _ fun own _ before => ⟨_, hlast own before _, ?_⟩
    exact ⟨"[" ++ b.textOr "LEN" "10" ++ "];", by simp only [String.append_assoc]⟩

/-- A cast knows no other type of a variable than that of its first declaration. -/
lemma type_castSource (h : lookedUp? g b = some name) :
    (s.emit (castSource g b)).result.type = declaredType? g name ∨
      (s.emit (castSource g b)).result = { code := "0", level := .atomic, type := none } := by
  unfold lookedUp? at h
  unfold castSource
  cases hchild : (b.values.get? "VARIABLE_SETTYPE_INPUT").bind g.get? with
  | none =>
    rw [hchild] at h
    obtain rfl : b.textOr "VARNAME" defaultName = name := Option.some.inj h
    exact .inl rfl
  | some child =>
    rw [hchild] at h
    dsimp only at h ⊢
    split_ifs at h with hget
    obtain rfl : child.textOr "VAR" defaultName = name := Option.some.inj h
    rw [Site.emit_bind, Site.emit_value, Emit.result_bind]
    cases (s.value "VARIABLE_SETTYPE_INPUT" .argument).result with
    | none => exact .inr rfl
    | some code =>
      refine .inl ?_
      change VariableKind.sourceType? g child = _
      rw [VariableKind.sourceType?, hget]
      rfl

end Scripts

/-! ### The first and the last declaration -/

section Walk

variable {g : Graph} {board : Board} {indent name text : String} {b last : Block}

lemma kept_of_not_declares (run : Run) (hnot : ¬DeclaresVariable name run.block)
    (before : Option String) : run.leave g board indent (variableSlot name) before = before := by
  refine foldl_deposit_of_spares (ownRegistrations_spare_variable fun hdeclared => hnot ?_)
  obtain ⟨hkinds, hname⟩ := declared_userVariable hdeclared
  refine ⟨?_, hname⟩
  rw [run.listed]
  exact hkinds.imp (congrArg some) (congrArg some)

/-- A variable that is declared was declared by some block last. -/
lemma exists_last_declaration
    (h : (finalRegistry g board indent).declarations.get? ("var_" ++ name) = some text) :
    ∃ last, LastEmitted g board indent (DeclaresVariable name) last :=
  exists_lastEmitted_of_text? variableSlot_ne_header (fun _ _ c k => late_declare g c k)
    kept_of_not_declares h

/-- The program declares a variable with the type of the last declaration. -/
lemma declaresAs_of_last (hlast : LastEmitted g board indent (DeclaresVariable name) last)
    (h : (finalRegistry g board indent).declarations.get? ("var_" ++ name) = some text) :
    DeclaresAs (fieldType last) name text := by
  obtain ⟨busy, k, before, -, hk, hleft⟩ :=
    hlast.leaves variableSlot_ne_header (fun _ _ c k => late_declare g c k) kept_of_not_declares
  obtain ⟨hkinds, hname⟩ := hlast.property
  have hk' : k = .var .declare ∨ k = .var .declareArray := by
    rw [hk] at hkinds
    exact hkinds.imp Option.some.inj Option.some.inj
  obtain ⟨text', htext', hdeclares⟩ :=
    Ensures.own (s := g.site board indent (g.emitter board indent (last.id :: busy)) last)
      (emit_declaresAs (g := g) hk' hname) before
  have htext : some text' = some text := htext'.symm.trans (hleft.trans h)
  rwa [Option.some.inj htext] at hdeclares

/-- The declared type is that of the first declaration. -/
lemma exists_first_declaration (h : ∃ b ∈ g.blocks, VariableKind.Declares b name) :
    ∃ before first after, g.blocks = before ++ first :: after ∧
      VariableKind.Declares first name ∧ (∀ c ∈ before, ¬VariableKind.Declares c name) ∧
      declaredType? g name = some (fieldType first) := by
  obtain ⟨b, hb, hdeclares⟩ := h
  cases hfound : g.blocks.find? fun c =>
      c.kind == "variables_declare" && c.textOr "VARNAME" defaultName == name with
  | none =>
    have hnot := List.find?_eq_none.mp hfound b hb
    exact absurd (by simpa [VariableKind.Declares] using hdeclares) hnot
  | some first =>
    obtain ⟨hfirst, before, after, hsplit, hbefore⟩ := List.find?_eq_some_iff_append.mp hfound
    refine ⟨before, first, after, hsplit, by simpa [VariableKind.Declares] using hfirst, ?_, ?_⟩
    · intro c hc hdeclares
      have hnot := hbefore c hc
      simp [hdeclares.1, hdeclares.2] at hnot
    · rw [declaredType?, hfound]
      rfl

end Walk

/-- Casts take a variable to have the type of the first block that declares it; the program declares
it with the type of the last one that is emitted, and with no other. So casts assume the type that
the program declares exactly if the two blocks show the same type. -/
theorem casts_assume_first_type (g : Graph) (board : Board) (options : Options) (name text : String)
    (hdeclared : ∃ b ∈ g.blocks, VariableKind.Declares b name)
    (htext : (finalRegistry g board options.indent).declarations.get? ("var_" ++ name) =
      some text) :
    text ∈ (Generator.new g board options).program.sections.declarations ∧
    ∃ before first after last, g.blocks = before ++ first :: after ∧
      VariableKind.Declares first name ∧ (∀ c ∈ before, ¬VariableKind.Declares c name) ∧
      LastEmitted g board options.indent (DeclaresVariable name) last ∧
      declaredType? g name = some (fieldType first) ∧
      (∀ (s : Site Emit) cast, lookedUp? g cast = some name →
        (s.emit (castSource g cast)).result.type = some (fieldType first) ∨
          (s.emit (castSource g cast)).result = { code := "0", level := .atomic, type := none }) ∧
      (∀ type, DeclaresAs type name text ↔ type = fieldType last) ∧
      ((∃ type, declaredType? g name = some type ∧ DeclaresAs type name text) ↔
        fieldType first = fieldType last) := by
  obtain ⟨before, first, after, hsplit, hfirst, hbefore, htype⟩ :=
    exists_first_declaration hdeclared
  obtain ⟨last, hlast⟩ := exists_last_declaration htext
  have hspelled : DeclaresAs (fieldType last) name text := declaresAs_of_last hlast htext
  have hunique (type : ValueType) : DeclaresAs type name text ↔ type = fieldType last :=
    ⟨fun h => h.unique hspelled, fun h => h ▸ hspelled⟩
  refine ⟨?_, before, first, after, last, hsplit, hfirst, hbefore, hlast, htype, ?_, hunique,
    ?_⟩
  · rw [sections_program]
    exact Keyed.mem_values_of_get? htext
  · intro s cast hcast
    rw [← htype]
    exact type_castSource hcast
  · simp [htype, hunique]

def declareX (id type : String) : Block :=
  { id
    kind := "variables_declare"
    fields :=
      Dict.insert (Dict.insert {} "VARNAME" (.text "x")) "VARIABLE_SETTYPE_TYPE" (.text type) }

/-- A variable is declared as a number and as a text, and then taken for a number. -/
def redeclared : Graph :=
  { blocks :=
      [declareX "count" "NUMBER", declareX "line" "TEXT",
       { id := "set"
         kind := "variables_set"
         fields := Dict.insert {} "VAR" (.text "y")
         values := Dict.insert {} "VALUE" "cast" },
       { id := "cast"
         kind := "variables_set_type"
         fields :=
          Dict.insert (Dict.insert {} "VARNAME" (.text "x")) "VARIABLE_SETTYPE_TYPE"
            (.text "NUMBER") }] }

lemma declarations_redeclared :
    (finalRegistry redeclared Board.Nucleo.profile "  ").declarations.get? "var_x" =
      some "std::string x;" := by
  decide +kernel

theorem casts_assume_first_type_redeclared :
    (∃ b ∈ redeclared.blocks, VariableKind.Declares b "x") ∧
    ∃ first last, VariableKind.Declares first "x" ∧
      LastEmitted redeclared Board.Nucleo.profile "  " (DeclaresVariable "x") last ∧
      fieldType first = .number ∧ fieldType last = .text := by
  have hdeclared : ∃ b ∈ redeclared.blocks, VariableKind.Declares b "x" :=
    ⟨declareX "count" "NUMBER", .head _, rfl, rfl⟩
  obtain ⟨-, _, first, _, last, _, hfirst, -, hlast, htype, -, hspelled, -⟩ :=
    casts_assume_first_type redeclared Board.Nucleo.profile {} "x" _ hdeclared
      declarations_redeclared
  have hnumber : declaredType? redeclared "x" = some .number := rfl
  have htext : .text = fieldType last := (hspelled .text).mp ⟨";", rfl⟩
  exact ⟨hdeclared, first, last, hfirst, hlast, Option.some.inj (htype.symm.trans hnumber),
    htext.symm⟩

/-- The cast takes the text for the number that it was declared as first, and leaves it alone. -/
theorem cast_assumes_undeclared_type :
    declaredType? redeclared "x" = some .number ∧
    (Generator.new redeclared Board.Nucleo.profile {}).program.sections.declarations =
      ["std::string x;"] ∧
    (Generator.new redeclared Board.Nucleo.profile {}).program.setupBody = "y = x;\n" := by
  decide +kernel

end Proofs

end MbedBlocks
