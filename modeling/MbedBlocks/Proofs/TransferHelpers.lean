import MbedBlocks.Proofs.FunctionNames

/-!
# The functions of transfers

A transfer that selects a slave calls a function that selects it around the transmission. The
function is named after the slave alone, so all transfers to a slave share it, and each of them
sends what the last one sends.
-/

namespace MbedBlocks.Proofs

open Code (Fragment)

/-- The function that a transfer calls. -/
def helper (b : Block) : String := "spiReturnSlave" ++ slave b

lemma helper_congr {b c : Block} (h : slave b = slave c) : helper b = helper c :=
  congrArg ("spiReturnSlave" ++ ·) h

/-- The call that sends the data of a transfer on its bus. -/
def transmission (s : Site Emit) : String :=
  "spi_" ++ s.block.text "SPI_ID" ++ ".write(" ++
    (s.valueOr "SPI_DATA" .argument "0").result ++ ")"

/-- The function that a transfer defines. -/
def helperText (s : Site Emit) : String :=
  Code.functionText "int" (helper s.block) []
    (SpiKind.transferBody ("myDigitalOut" ++ slave s.block) ("spi_" ++ s.block.text "SPI_ID")
      (s.valueOr "SPI_DATA" .argument "0").result)

section Texts

variable {s t : Site Emit}

lemma functionText_inj {returns name : String} {params : List String} {body body' : String} :
    Code.functionText returns name params body = Code.functionText returns name params body' ↔
      body = body' := by
  rw [Code.functionText, Code.functionText, String.append_right_inj, Code.braces, Code.braces,
    String.append_left_inj, String.append_right_inj]

/-- Around the transmission, the body depends on the select line only. -/
lemma transferBody_inj {select bus bus' data data' : String} :
    SpiKind.transferBody select bus data = SpiKind.transferBody select bus' data' ↔
      bus ++ ".write(" ++ data ++ ")" = bus' ++ ".write(" ++ data' ++ ")" := by
  have hclosing : (");\n" : String) = ")" ++ ";\n" := rfl
  unfold SpiKind.transferBody
  rw [hclosing]
  simp only [String.append_assoc, String.append_right_inj]
  simp only [← String.append_assoc, String.append_left_inj]

/-- The functions of two transfers to one slave differ only in what is sent. -/
lemma helperText_eq_iff (hslave : slave s.block = slave t.block) :
    helperText s = helperText t ↔ transmission s = transmission t := by
  rw [helperText, helperText, helper_congr hslave, hslave, functionText_inj, transferBody_inj]
  rfl

/-- A callback is no transfer. -/
lemma callback_ne_helperText (name : String) (params : List String) (body : String) :
    Code.functionText "void" name params body ≠ helperText s := by
  intro h
  have hhead := congrArg (fun text => text.toList.head?) h
  simp [helperText, Code.functionText] at hhead

end Texts

/-! ### Who defines the function of a transfer -/

/-- Beside the transfers to the slave, only a serial line can have a function of that name. -/
lemma defined_helper {b c : Block} {k : Kind} (h : helper b ∈ defined c k) :
    (k = .spi .transferReturn ∧ slave c ≠ "none" ∧ slave c = slave b) ∨
      (k = .serial .attach ∧ helper b = c.text "SERIAL_Pins" ++ "_interrupt_fun") := by
  have hhead : (helper b).toList.head? = some 's' := by
    unfold helper
    simp
  have hdefining := defining_of_mem h
  generalize hname : helper b = name at hdefining hhead
  cases hdefining with
  | transfer hslave =>
    exact .inl ⟨rfl, hslave, ((String.append_right_inj _).mp hname).symm⟩
  | attach => exact .inr ⟨rfl, rfl⟩
  | interrupt | ticker | setup | command | home | move | setPosition =>
    simp [NetworkKind.handler] at hhead

section Runs

variable {g : Graph} {s : Site Emit} {before : Option String}

lemma result_transfer (hslave : slave s.block ≠ "none") :
    (s.emit (Kind.emit g s.block (.spi .transferReturn))).result =
      .value (helper s.block ++ "()") .unaryPostfix := by
  change (s.emit (if slave s.block = "none" then _ else _)).result = _
  rw [if_neg hslave]
  rfl

lemma deposit_transfer (hslave : slave s.block ≠ "none") :
    (ownRegistrations s (Kind.emit g s.block (.spi .transferReturn))).foldl
      (deposit (.function (helper s.block))) before = some (helperText s) := by
  change (ownRegistrations s (if slave s.block = "none" then _ else _)).foldl _ _ = _
  rw [if_neg hslave]
  exact if_pos rfl

lemma deposit_attach {name : String}
    (hname : name = s.block.text "SERIAL_Pins" ++ "_interrupt_fun") :
    (ownRegistrations s (Kind.emit g s.block (.serial .attach))).foldl
      (deposit (.function name)) before =
        some (Code.functionText "void" name [] (s.body "function_body").result) := by
  subst hname
  exact if_pos rfl

end Runs

/-! ### What a transfer sends -/

section Emitted

variable {g : Graph} {board : Board} {options : Options} {b last : Block}

/-- The last block to define the function of a transfer leaves its own there. -/
lemma function_of_last (hg : g.Acyclic)
    (hlast : LastEmitted g board options.indent (DefinesFunction (helper b)) last) :
    (last.kind? = some (.spi .transferReturn) ∧ slave last = slave b ∧
      (finalRegistry g board options.indent).functions.get? (helper b) =
        some (helperText ((Generator.new g board options).site last))) ∨
    (last.kind? = some (.serial .attach) ∧ (∃ unit, helper b = unit ++ "_interrupt_fun") ∧
      ∃ body, (finalRegistry g board options.indent).functions.get? (helper b) =
        some (Code.functionText "void" (helper b) [] body)) := by
  obtain ⟨k, before, hkind, htext⟩ := hlast.leaves_function hg
  obtain ⟨k', hkind', hhelper⟩ := hlast.property
  obtain rfl : k' = k := Option.some.inj (hkind'.symm.trans hkind)
  rw [← htext]
  rcases defined_helper hhelper with ⟨rfl, hselects, hsame⟩ | ⟨rfl, hname⟩
  · refine .inl ⟨hkind, hsame, ?_⟩
    rw [← helper_congr hsame]
    exact deposit_transfer (s := (Generator.new g board options).site last) hselects
  · exact .inr ⟨hkind, ⟨_, hname⟩, _,
      deposit_attach (s := (Generator.new g board options).site last) hname⟩

end Emitted

/-- A transfer that selects a slave calls the function of the slave. This is the one of the last
block that defines it; so it sends the caller's own data on the caller's own bus exactly if this
block is a transfer that sends the same on the same bus. Only a function that is named like the
interrupt function of a serial line can be anything but a transfer. -/
theorem transfer_sends_last (g : Graph) (hg : g.Acyclic) (board : Board) (options : Options)
    (b : Block) (fragment : Fragment) (h : (b, fragment) ∈ emitted g board options.indent)
    (hk : b.kind? = some (.spi .transferReturn)) (hslave : slave b ≠ "none") :
    let gen := Generator.new g board options
    fragment = .value (helper b ++ "()") .unaryPostfix ∧
    ∃ last text, LastEmitted g board options.indent (DefinesFunction (helper b)) last ∧
      (finalRegistry g board options.indent).functions.get? (helper b) = some text ∧
      text ∈ gen.program.sections.functions ∧
      (text = helperText (gen.site b) ↔ last.kind? = some (.spi .transferReturn) ∧
        transmission (gen.site last) = transmission (gen.site b)) ∧
      (last.kind? = some (.spi .transferReturn) → text = helperText (gen.site last)) ∧
      ((∀ unit, helper b ≠ unit ++ "_interrupt_fun") →
        last.kind? = some (.spi .transferReturn)) := by
  intro gen
  have hdefined : defined b (.spi .transferReturn) = [helper b] := if_neg hslave
  have hdefines : DefinesFunction (helper b) b := ⟨_, hk, hdefined ▸ .head _⟩
  obtain ⟨last, hlast⟩ := exists_lastEmitted (P := DefinesFunction (helper b)) h hdefines
  have hmem {text : String}
      (hget : (finalRegistry g board options.indent).functions.get? (helper b) = some text) :
      text ∈ gen.program.sections.functions := by
    rw [sections_program]
    exact Keyed.mem_values_of_get? hget
  have hresult := result_transfer (g := g) (s := gen.site b) hslave
  refine ⟨(fragment_of_emitted hg h hk).symm.trans hresult, last, ?_⟩
  rcases function_of_last hg hlast with ⟨hkind, hsame, hget⟩ | ⟨hkind, ⟨unit, hname⟩, body, hget⟩
  · refine ⟨_, hlast, hget, hmem hget, ?_, fun _ => rfl, fun _ => hkind⟩
    have hsent := helperText_eq_iff (s := gen.site last) (t := gen.site b) hsame
    exact hsent.trans (and_iff_right hkind).symm
  · refine ⟨_, hlast, hget, hmem hget, ?_, ?_, fun hno => absurd hname (hno unit)⟩
    · simp [hkind, callback_ne_helperText]
    · simp [hkind]

def transferTo (id bus data : String) : Block :=
  { id
    kind := "spi_transfer_return"
    fields := Dict.insert (Dict.insert {} "SPI_ID" (.text bus)) "SPI_SS" (.text "PB_12")
    values := Dict.insert {} "SPI_DATA" data }

/-- Two transfers of different data to one slave, on different buses. -/
def sharedSlave : Graph :=
  { blocks :=
      [transferTo "first" "SPI1" "one", transferTo "second" "SPI2" "two",
       { id := "one", kind := "math_number", fields := Dict.insert {} "NUM" (.text "1") },
       { id := "two", kind := "math_number", fields := Dict.insert {} "NUM" (.text "2") }] }

lemma acyclic_sharedSlave : sharedSlave.Acyclic := by
  refine Graph.acyclic_of_rank (fun id => if id = "first" ∨ id = "second" then 1 else 0) ?_
  decide

lemma emitted_sharedSlave :
    emitted sharedSlave Board.Nucleo.profile "  " =
      [({ id := "one", kind := "math_number", fields := Dict.insert {} "NUM" (.text "1") },
          .value "1" .atomic),
        (transferTo "first" "SPI1" "one", .value "spiReturnSlavePB_12()" .unaryPostfix),
        ({ id := "two", kind := "math_number", fields := Dict.insert {} "NUM" (.text "2") },
          .value "2" .atomic),
        (transferTo "second" "SPI2" "two", .value "spiReturnSlavePB_12()" .unaryPostfix)] := by
  decide +kernel

theorem transfer_sends_last_sharedSlave :
    let gen := Generator.new sharedSlave Board.Nucleo.profile {}
    sharedSlave.Acyclic ∧
    ∃ last text,
      LastEmitted sharedSlave Board.Nucleo.profile "  "
        (DefinesFunction "spiReturnSlavePB_12") last ∧
      (finalRegistry sharedSlave Board.Nucleo.profile "  ").functions.get?
        "spiReturnSlavePB_12" = some text ∧
      text = helperText (gen.site last) := by
  have hemitted : (transferTo "first" "SPI1" "one",
      Fragment.value "spiReturnSlavePB_12()" .unaryPostfix) ∈
        emitted sharedSlave Board.Nucleo.profile "  " := by
    simp [emitted_sharedSlave]
  obtain ⟨-, last, text, hlast, hget, -, -, htext, hkind⟩ :=
    transfer_sends_last sharedSlave acyclic_sharedSlave Board.Nucleo.profile {} _ _ hemitted
      rfl (by decide)
  refine ⟨acyclic_sharedSlave, last, text, hlast, hget, htext (hkind fun unit hname => ?_)⟩
  have hend := congrArg (fun name => name.toList.getLast?) hname
  rw [String.toList_append, List.getLast?_append_of_ne_nil _ (by decide)] at hend
  exact absurd hend (by decide)

/-- The first transfer sends the data of the second, on the bus of the second. -/
theorem transfer_sends_foreign_data :
    let gen := Generator.new sharedSlave Board.Nucleo.profile {}
    gen.program.sections.functions =
      [helperText (gen.site (transferTo "second" "SPI2" "two"))] ∧
    transmission (gen.site (transferTo "first" "SPI1" "one")) = "spi_SPI1.write(1)" ∧
    transmission (gen.site (transferTo "second" "SPI2" "two")) = "spi_SPI2.write(2)" ∧
    (transferTo "first" "SPI1" "one", .value "spiReturnSlavePB_12()" .unaryPostfix) ∈
      emitted sharedSlave Board.Nucleo.profile "  " := by
  refine ⟨by decide +kernel, by decide +kernel, by decide +kernel, ?_⟩
  simp [emitted_sharedSlave]

end MbedBlocks.Proofs
