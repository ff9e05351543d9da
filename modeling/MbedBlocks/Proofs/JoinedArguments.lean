import MbedBlocks.Proofs.LexicalForm
import MbedBlocks.Proofs.Precedence

/-!
# Joined arguments

Blocks join arguments pair by pair, so a list of arguments is a tree in the graph. Its text passes
for an atom, and that is what keeps it a list: no slot puts parentheses around a part of it.
Printing calls are given the names at its leaves from left to right, and scanning calls their
addresses.
-/

namespace MbedBlocks.Proofs

open Code (Fragment Level)
open Lexical (format siteWithin)
open MbedBlocks.Graph (isStatement)

/-- Names that are joined pair by pair. -/
inductive NameTree where
  | name (text : String)
  | join (first rest : NameTree)

/-- The names from left to right. -/
def NameTree.names : NameTree → List String
  | name text => [text]
  | join first rest => first.names ++ rest.names

/-- The block is the root of the tree, made of joining blocks over variables, while the blocks in
`path` are in progress. No block of it stands inside itself. -/
inductive Wired (g : Graph) : List String → Block → NameTree → Prop where
  | name {path : List String} {b : Block} (hb : b.id ∉ path) (hk : b.kind? = some (.var .get))
      (hname : isIdentifier (b.textOr "VAR" VariableKind.defaultName).toList) :
      Wired g path b (.name (b.textOr "VAR" VariableKind.defaultName))
  | join {path : List String} {b c d : Block} {s t : NameTree} (hb : b.id ∉ path)
      (hk : b.kind? = some (.serial .content)) (hc : plugged g b "format_content" = some c)
      (hd : plugged g b "join_content" = some d) (hs : Wired g (b.id :: path) c s)
      (ht : Wired g (b.id :: path) d t) : Wired g path b (.join s t)

lemma NameTree.names_ne_nil (t : NameTree) : t.names ≠ [] := by
  induction t with
  | name text => exact List.cons_ne_nil _ _
  | join first rest ih _ => exact List.append_ne_nil_of_left_ne_nil ih _

/-! ### Addresses -/

section Addresses

variable {cs : List Char}

lemma isWord_of_isNameChar {c : Char} (h : isNameChar c) : Text.isWord c = true := by
  have hcode : c.toNat < 0x80 := by
    rcases Bool.or_eq_true_iff.mp h with halnum | hunderscore
    · have := code_of_isAlphanum halnum
      omega
    · rw [beq_iff_eq.mp hunderscore]
      decide
  rw [Text.isWord, if_pos hcode]
  exact h

lemma isWord_of_isIdentifier (h : isIdentifier cs) : ∀ c ∈ cs, Text.isWord c = true := by
  cases cs with
  | nil => cases h
  | cons first cs =>
    obtain ⟨hfirst, hcs⟩ := Bool.and_eq_true_iff.mp h
    have hname : isNameChar first := by
      simp only [isNameStart, isNameChar, Char.isAlphanum, Bool.or_eq_true] at hfirst ⊢
      exact hfirst.imp_left .inl
    intro c hc
    rcases List.mem_cons.mp hc with rfl | hc
    · exact isWord_of_isNameChar hname
    · exact isWord_of_isNameChar (List.all_eq_true.mp hcs c hc)

/-- Inside a word nothing is marked. -/
lemma markWords_inside (h : ∀ c ∈ cs, Text.isWord c = true) (mark : Char) (rest : List Char) :
    Text.markWords mark true (cs ++ rest) = cs ++ Text.markWords mark true rest := by
  induction cs with
  | nil => rfl
  | cons c cs ih =>
    rw [List.cons_append, Text.markWords, h c List.mem_cons_self,
      ih fun d hd => h d (List.mem_cons_of_mem c hd)]
    rfl

lemma markWords_name (h : isIdentifier cs) (mark : Char) (rest : List Char) :
    Text.markWords mark false (cs ++ rest) = mark :: cs ++ Text.markWords mark true rest := by
  have hwords := isWord_of_isIdentifier h
  cases cs with
  | nil => cases h
  | cons c cs =>
    rw [List.cons_append, Text.markWords, hwords c List.mem_cons_self,
      markWords_inside fun d hd => hwords d (List.mem_cons_of_mem c hd)]
    rfl

lemma markWords_comma (mark : Char) (rest : List Char) :
    Text.markWords mark true (',' :: rest) = ',' :: Text.markWords mark false rest := by
  have hcomma : Text.isWord ',' = false := by decide
  rw [Text.markWords, hcomma]
  rfl

/-- The words of a list of names are the names. -/
theorem addressOfWords_intercalate {names : List String}
    (h : ∀ x ∈ names, isIdentifier x.toList) :
    Text.addressOfWords (",".intercalate names) = ",".intercalate (names.map ("&" ++ ·)) := by
  have hmarked : Text.markWords '&' false (",".intercalate names).toList =
      (",".intercalate (names.map ("&" ++ ·))).toList := by
    induction names with
    | nil => rfl
    | cons x names ih =>
      have hx : isIdentifier x.toList := h x List.mem_cons_self
      have hrest := ih fun y hy => h y (List.mem_cons_of_mem x hy)
      cases names with
      | nil =>
        have hend := markWords_name hx '&' []
        rw [List.append_nil] at hend
        simpa [Text.markWords] using hend
      | cons y names =>
        have hjoint :
            Text.markWords '&' true (",".toList ++ (",".intercalate (y :: names)).toList) =
              ',' :: Text.markWords '&' false (",".intercalate (y :: names)).toList :=
          markWords_comma '&' _
        rw [List.map_cons, List.map_cons, String.intercalate_cons_cons,
          String.intercalate_cons_cons, ← List.map_cons, String.toList_append,
          String.toList_append, List.append_assoc, markWords_name hx, hjoint, hrest]
        simp
  rw [Text.addressOfWords, hmarked, String.ofList_toList]

end Addresses

/-! ### Lists in sockets -/

section Emission

variable {g : Graph} {board : Board} {indent : String} {path : List String} {b c : Block}
  {t : NameTree}

lemma Wired.isIdentifier_names (h : Wired g path b t) : ∀ x ∈ t.names, isIdentifier x.toList := by
  induction h with
  | name hb hk hname => exact List.forall_mem_singleton.mpr hname
  | join hb hk hc hd hs ht ihs iht => exact List.forall_mem_append.mpr ⟨ihs, iht⟩

lemma Wired.text_ne_empty (h : Wired g path b t) : ",".intercalate t.names ≠ "" := by
  obtain ⟨x, xs, hnames⟩ := List.exists_cons_of_ne_nil t.names_ne_nil
  have hx : x ≠ "" := by
    rintro rfl
    have hempty := h.isIdentifier_names "" (hnames ▸ List.mem_cons_self)
    cases hempty
  rw [hnames]
  cases xs with
  | nil => rwa [String.intercalate_singleton]
  | cons y ys => simp [String.intercalate_cons_cons, hx]

lemma parenthesize_atomic (text : String) (slot : Level) :
    Code.parenthesize text .atomic slot = text := by
  cases slot <;> rfl

/-- An atom stands in a socket as it is, whatever the slot. -/
lemma socketText_of_atomic {socket text : String} (hc : plugged g b socket = some c)
    (hvalue : isStatement c = false)
    (hresult : (g.emitWithin board indent path c).result = some (.value text .atomic))
    (hne : text ≠ "") (slot : Level) :
    socketText g board indent path b socket slot = some text := by
  rw [socketText_of_result hc hvalue hresult hne, parenthesize_atomic]

lemma emitContent_result {s : Site Emit} {first rest : String}
    (hfirst : (s.value "format_content" .argument).result = some first)
    (hrest : (s.value "join_content" .argument).result = some rest) (hne : first ≠ "") :
    (s.emit SerialKind.emitContent).result = .value (first ++ "," ++ rest) .atomic := by
  simp only [SerialKind.emitContent, Script.argumentOr, Site.emit_bind, Site.emit_valueOr,
    Site.emit_value, Emit.result_bind, hfirst, hrest]
  exact congrArg (Fragment.value · .atomic) (if_neg hne)

/-- The induction is on the tree: the text of a join is the texts of its parts around a comma. -/
theorem Wired.emitted (h : Wired g path b t) (board : Board) (indent : String) :
    isStatement b = false ∧ (g.emitWithin board indent path b).result =
      some (.value (",".intercalate t.names) .atomic) := by
  induction h with
  | name hb hk hname =>
    constructor
    · exact Block.isStatement_of_kind hk
    · rw [result_of_kind hb hk, NameTree.names, String.intercalate_singleton]
      rfl
  | join hb hk hc hd hs ht ihs iht =>
    constructor
    · exact Block.isStatement_of_kind hk
    · have hfirst := socketText_of_atomic hc ihs.1 ihs.2 hs.text_ne_empty .argument
      have hrest := socketText_of_atomic hd iht.1 iht.2 ht.text_ne_empty .argument
      rw [result_of_kind hb hk, NameTree.names, String.intercalate_append_of_ne_nil
        (NameTree.names_ne_nil _) (NameTree.names_ne_nil _)]
      exact congrArg some (emitContent_result hfirst hrest hs.text_ne_empty)

lemma Wired.socketText (h : Wired g path c t) {socket : String} (hc : plugged g b socket = some c)
    (board : Board) (indent : String) (slot : Level) :
    Proofs.socketText g board indent path b socket slot = some (",".intercalate t.names) :=
  socketText_of_atomic hc (h.emitted board indent).1 (h.emitted board indent).2 h.text_ne_empty slot

/-- A list in the last place of a list continues it. -/
lemma intercalate_last (xs : List String) {ys : List String} (hys : ys ≠ []) :
    ",".intercalate (xs ++ [",".intercalate ys]) = ",".intercalate (xs ++ ys) := by
  cases xs with
  | nil => exact String.intercalate_singleton
  | cons x xs =>
    rw [String.intercalate_append_of_ne_nil (List.cons_ne_nil _ _) (List.cons_ne_nil _ _),
      String.intercalate_append_of_ne_nil (List.cons_ne_nil _ _) hys, String.intercalate_singleton]

/-- A printing call at a site whose second socket holds the list. -/
lemma call_of_names {s : Site Emit}
    (hextra : (s.value "CONTENT_STR" .argument).result = some (",".intercalate t.names))
    (callee : String) (leading : List String) :
    (s.emit (PrintArguments.read s.block)).result.call callee leading =
      callee ++ "(" ++ ",".intercalate (leading ++ format s :: t.names) ++ ");\n" := by
  have hread : (s.emit (PrintArguments.read s.block)).result =
      { content := format s, extra := (s.value "CONTENT_STR" .argument).result } := rfl
  rw [hread, PrintArguments.call, hextra, List.append_cons leading (format s) t.names,
    ← intercalate_last _ t.names_ne_nil, List.append_cons]
  rfl

/-- A scanning call at a site whose second socket holds the list. -/
lemma emitScan_of_names {s : Site Emit}
    (hextra : (s.value "CONTENT_STR" .argument).result = some (",".intercalate t.names))
    (hnames : ∀ x ∈ t.names, isIdentifier x.toList) :
    (s.emit (FileKind.emitScan s.block)).result =
      .statement ("fscanf(" ++ ",".intercalate (s.block.textOr "FILE" "fp" ::
        (s.value "CONTENT" .argument).result.getD "0" :: t.names.map ("&" ++ ·)) ++ ");\n") := by
  have hscan : (s.emit (FileKind.emitScan s.block)).result =
      .statement ("fscanf(" ++ ",".intercalate (s.block.textOr "FILE" "fp" ::
        (s.value "CONTENT" .argument).result.getD "0" ::
          ((s.value "CONTENT_STR" .argument).result.map Text.addressOfWords).toList) ++ ");\n") :=
    rfl
  have hne : t.names.map ("&" ++ ·) ≠ [] := List.map_eq_nil_iff.not.mpr t.names_ne_nil
  rw [hscan, hextra, Option.map_some, addressOfWords_intercalate hnames]
  exact congrArg (fun args => Fragment.statement ("fscanf(" ++ args ++ ");\n"))
    (intercalate_last [_, _] hne)

end Emission

/-- A tree of joined names is emitted as its names from left to right with commas between them,
whatever its shape, and no socket adds parentheses. In the second socket of a printing call the
names are the arguments after the format, and in that of a scanning call their addresses are. -/
theorem joined_arguments_flatten (g : Graph) (board : Board) (indent : String)
    (path : List String) (t : NameTree) :
    (∀ b, Wired g path b t → (g.emitWithin board indent path b).result =
      some (.value (",".intercalate t.names) .atomic)) ∧
    (∀ b socket c slot, plugged g b socket = some c → Wired g path c t →
      socketText g board indent path b socket slot = some (",".intercalate t.names)) ∧
    (∀ b c, b.id ∉ path → plugged g b "CONTENT_STR" = some c → Wired g (b.id :: path) c t →
      (b.kind? = some (.file .print) → (g.emitWithin board indent path b).result =
        some (.statement ("fprintf(" ++ ",".intercalate (b.textOr "FILE" "fp" ::
          format (siteWithin g board indent path b) :: t.names) ++ ");\n"))) ∧
      (b.kind? = some (.serial .print) → (g.emitWithin board indent path b).result =
        some (.statement (b.text "SERIAL_Pins" ++ ".printf(" ++ ",".intercalate
          (format (siteWithin g board indent path b) :: t.names) ++ ");\n"))) ∧
      (b.kind? = some (.file .scan) → (g.emitWithin board indent path b).result =
        some (.statement ("fscanf(" ++ ",".intercalate (b.textOr "FILE" "fp" ::
          (socketText g board indent (b.id :: path) b "CONTENT" .argument).getD "0" ::
            t.names.map ("&" ++ ·)) ++ ");\n")))) := by
  refine ⟨fun b h => (h.emitted board indent).2,
    fun b socket c slot hc h => h.socketText hc board indent slot, fun b c hb hc h => ?_⟩
  have hextra := h.socketText hc board indent .argument
  refine ⟨fun hk => ?_, fun hk => ?_, fun hk => ?_⟩ <;> rw [result_of_kind hb hk]
  · have hcall := call_of_names (s := siteWithin g board indent path b) hextra "fprintf"
      [b.textOr "FILE" "fp"]
    exact congrArg (fun text => some (Fragment.statement text)) hcall
  · have hcall := call_of_names (s := siteWithin g board indent path b) hextra
      (b.text "SERIAL_Pins" ++ ".printf") []
    have hcallee : b.text "SERIAL_Pins" ++ ".printf" ++ "(" = b.text "SERIAL_Pins" ++ ".printf(" :=
      String.append_assoc
    rw [hcallee] at hcall
    exact congrArg (fun text => some (Fragment.statement text)) hcall
  · exact congrArg some
      (emitScan_of_names (s := siteWithin g board indent path b) hextra h.isIdentifier_names)

/-! ### Three axes -/

def axis (name : String) : Block :=
  { id := name, kind := "variables_get", fields := Dict.insert {} "VAR" (.text name) }

def joinedAxes (id first rest : String) : Block :=
  { id
    kind := "print_content"
    values := .ofList [("format_content", first), ("join_content", rest)] }

/-- Two axes joined, and the third one joined to them. -/
def axes : Graph :=
  { blocks := [axis "x", axis "y_1", axis "z", joinedAxes "pair" "x" "y_1",
      joinedAxes "triple" "pair" "z"] }

def axesTree : NameTree := .join (.join (.name "x") (.name "y_1")) (.name "z")

/-- A call with the three axes after a vacant format. -/
def axesCall (kind : String) : Block :=
  { id := "call"
    kind
    fields := Dict.insert {} "SERIAL_Pins" (.text "pc")
    values := Dict.insert {} "CONTENT_STR" "triple" }

lemma wired_axes : Wired axes ["call"] (joinedAxes "triple" "pair" "z") axesTree := by
  have hx : Wired axes ["pair", "triple", "call"] (axis "x") (.name "x") :=
    .name (by decide) rfl (by decide)
  have hy : Wired axes ["pair", "triple", "call"] (axis "y_1") (.name "y_1") :=
    .name (by decide) rfl (by decide)
  have hz : Wired axes ["triple", "call"] (axis "z") (.name "z") :=
    .name (by decide) rfl (by decide)
  have hpair : Wired axes ["triple", "call"] (joinedAxes "pair" "x" "y_1")
      (.join (.name "x") (.name "y_1")) := .join (by decide) rfl rfl rfl hx hy
  exact .join (by decide) rfl rfl rfl hpair hz

/-- The axes under an operator that binds tightly, in both printing calls and in a scanning call. -/
theorem joined_arguments_flatten_axes :
    Wired axes ["call"] (joinedAxes "triple" "pair" "z") axesTree ∧
    (axes.emitWithin Board.Nucleo.profile "  " ["call"]
      (joinedAxes "triple" "pair" "z")).result = some (.value "x,y_1,z" .atomic) ∧
    socketText axes Board.Nucleo.profile "  " ["call"] (axesCall "logic_negate")
      "CONTENT_STR" .unaryPrefix = some "x,y_1,z" ∧
    (axes.emitWithin Board.Nucleo.profile "  " [] (axesCall "fs_fprintf")).result =
      some (.statement "fprintf(fp,0,x,y_1,z);\n") ∧
    (axes.emitWithin Board.Nucleo.profile "  " [] (axesCall "serial_print")).result =
      some (.statement "pc.printf(0,x,y_1,z);\n") ∧
    (axes.emitWithin Board.Nucleo.profile "  " [] (axesCall "fs_fscanf")).result =
      some (.statement "fscanf(fp,0,&x,&y_1,&z);\n") := by
  have hwired := wired_axes
  have hinside := joined_arguments_flatten axes Board.Nucleo.profile "  " ["call"] axesTree
  have hcall (kind : String) := (joined_arguments_flatten axes Board.Nucleo.profile "  " []
    axesTree).2.2 (axesCall kind) _ List.not_mem_nil rfl hwired
  refine ⟨hwired, hinside.1 _ hwired, hinside.2.1 _ _ _ _ rfl hwired, ?_, ?_, ?_⟩
  · exact (hcall "fs_fprintf").1 rfl
  · exact (hcall "serial_print").2.1 rfl
  · exact (hcall "fs_fscanf").2.2 rfl

end MbedBlocks.Proofs
