import MbedBlocks.Proofs.Annotations
import MbedBlocks.Proofs.CheckWrites
import MbedBlocks.Proofs.DeclarationClosure

/-!
# Checked uses

After a check, a block that works on a unit and does not carry the warning of a missing setup block
finds the object of the unit declared in the program.
-/

namespace MbedBlocks

namespace Family

/-- The name of the object that stands for a unit. -/
def object (unit : String) : Family → String
  | serial => unit
  | pn532 => "pn532_" ++ unit
  | jy901 => "jy901_" ++ unit
  | bh1750 => "bh1750_" ++ unit
  | bmp180 => "bmp180_" ++ unit
  | stepper => "stepper" ++ unit
  | spi => "spi_" ++ unit

def type : Family → String
  | serial => "Serial"
  | pn532 => "PN532Checker"
  | jy901 => "JY901"
  | bh1750 => "BH1750"
  | bmp180 => "BMP180"
  | stepper => "Stepper"
  | spi => "SPI"

/-- The text declares the object of a unit, with some arguments. A stepper takes them in braces. -/
def Declares (family : Family) (unit text : String) : Prop :=
  ∃ arguments, text = family.type ++ " " ++ family.object unit ++
    if family = stepper then " = \x7b" ++ arguments ++ "\x7d;" else "(" ++ arguments ++ ");"

end Family

namespace Kind

/-- The family of the unit that blocks of a kind work on, and the field that names the unit. -/
def use? : Kind → Option (Family × String)
  | serial .print | serial .getChar | serial .attach => some (.serial, "SERIAL_Pins")
  | serial .waitCard | serial .readUser | serial .readPassword => some (.pn532, "SERIAL_Pins")
  | motor .stepperRotate | motor .stepperWait => some (.stepper, "STEP_Pin")
  | spi .transfer | spi .transferReturn => some (.spi, "SPI_ID")
  | sensor .bh1750Read => some (.bh1750, "I2C_Pins")
  | sensor .bmp180Temperature | sensor .bmp180Pressure => some (.bmp180, "I2C_Pins")
  | imu .receive | imu .acceleration | imu .gyration | imu .magnetism | imu .attitude =>
    some (.jy901, "JY901_NAME")
  | _ => none

/-- The family that a setup block belongs to, the field of the pin that tells the unit and the
function of the pin. -/
def pairedSetup? : Kind → Option (Family × String × Board.Mapper)
  | serial .setup => some (.serial, "SERIAL_ID", .serial)
  | serial .readerSetup => some (.pn532, "SERIAL_ID", .serial)
  | imu .setup => some (.jy901, "TX", .serial)
  | sensor .bh1750Setup => some (.bh1750, "I2C_SDA", .i2c)
  | sensor .bmp180Setup => some (.bmp180, "I2C_SDA", .i2c)
  | _ => none

/-- The family that a setup block belongs to and the field that names the unit. -/
def namedSetup? : Kind → Option (Family × String)
  | motor .stepperSetup => some (.stepper, "STEP_Pin")
  | spi .setup => some (.spi, "SPI_ID")
  | _ => none

end Kind

/-! ### The catalogue tells what scripts work on -/

section Entries

variable {info : KindInfo} {k : Kind}

lemma use?_entry (hinfo : info ∈ catalogue) (hname : info.name = k.name) :
    info.use?.map (fun use => (use.family, use.field)) = k.use? :=
  eq_of_column (f := fun info => info.use?.map fun use => (use.family, use.field)) rfl hinfo hname

lemma pairedSetup?_entry (hinfo : info ∈ catalogue) (hname : info.name = k.name) :
    info.pairedSetup?.map (fun setup => (setup.family, setup.primary, setup.mapper)) =
      k.pairedSetup? :=
  eq_of_column
    (f := fun info =>
      info.pairedSetup?.map fun setup => (setup.family, setup.primary, setup.mapper))
    rfl hinfo hname

lemma namedSetup?_entry (hinfo : info ∈ catalogue) (hname : info.name = k.name) :
    info.namedSetup?.map (fun setup => (setup.family, setup.field)) = k.namedSetup? :=
  eq_of_column (f := fun info => info.namedSetup?.map fun setup => (setup.family, setup.field)) rfl
    hinfo hname

end Entries

namespace Proofs

open Code (Fragment)

def peripheral : Family → Peripheral
  | .serial => .serial
  | .pn532 => .reader
  | .jy901 => .jy901
  | .bh1750 => .bh1750
  | .bmp180 => .bmp180
  | .stepper => .stepper
  | .spi => .spi

lemma family_declares {board : Board} {family : Family} {s unit text : String}
    (hobject : (peripheral family).object board s = family.object unit)
    (h : (peripheral family).Declares board s text) : family.Declares unit text := by
  obtain ⟨opening, closing, hopens, hcloses, rfl⟩ := h
  rw [hobject]
  cases family with
  | serial | pn532 | jy901 | bh1750 | bmp180 | spi | stepper =>
    obtain ⟨arguments, rfl⟩ := hcloses
    obtain rfl := hopens
    exact ⟨arguments, rfl⟩

/-! ### Without a warning there is a setup block -/

lemma capabilities_length_le : ∀ info ∈ catalogue, info.capabilities.length ≤ 1 := by decide

/-- A block with a capability has no other. -/
lemma exists_info?_of_single {b : Block} {capability : Capability}
    (h : capability ∈ b.capabilities) :
    ∃ info ∈ catalogue, b.info? = some info ∧ info.capabilities = [capability] := by
  obtain ⟨info, hmem, hinfo, hcapability⟩ := b.exists_info?_of_capability h
  refine ⟨info, hmem, hinfo, ?_⟩
  match info.capabilities, hcapability, capabilities_length_le info hmem with
  | [c], hcapability, _ => rw [List.mem_singleton.mp hcapability]

lemma capabilities_eq {b : Block} {capability : Capability} (h : capability ∈ b.capabilities) :
    b.capabilities = [capability] := by
  obtain ⟨info, -, hinfo, hcapabilities⟩ := exists_info?_of_single h
  rw [Block.capabilities, hinfo, ← hcapabilities]

lemma use?_of_capability {b : Block} {k : Kind} {use : InstanceUse} (hk : b.kind? = some k)
    (h : .uses use ∈ b.capabilities) : k.use? = some (use.family, use.field) := by
  obtain ⟨info, hmem, hinfo, hcapabilities⟩ := exists_info?_of_single h
  rw [← use?_entry hmem (b.name_of_info? hk hinfo)]
  simp [KindInfo.use?, hcapabilities]

lemma pairedSetup?_of_capability {b : Block} {k : Kind} {setup : PairedSetup}
    (hk : b.kind? = some k) (h : .pairedSetup setup ∈ b.capabilities) :
    k.pairedSetup? = some (setup.family, setup.primary, setup.mapper) := by
  obtain ⟨info, hmem, hinfo, hcapabilities⟩ := exists_info?_of_single h
  rw [← pairedSetup?_entry hmem (b.name_of_info? hk hinfo)]
  simp [KindInfo.pairedSetup?, hcapabilities]

lemma capabilities_foldl_applyTo (updates : List Update) (b : Block) :
    (updates.foldl Update.applyTo b).capabilities = b.capabilities := by
  induction updates generalizing b with
  | nil => rfl
  | cons u updates ih =>
    rw [List.foldl_cons, ih]
    unfold Block.capabilities Block.info?
    rw [Check.kind_applyTo]

/-- A checked block without the warning works on a unit that a setup block configures. -/
theorem configured_of_unwarned {g : Graph} (hg : g.Distinct) {board : Board} {b : Block}
    {use : InstanceUse} (hb : b ∈ (g.checkConsistency board).1.blocks)
    (huse : .uses use ∈ b.capabilities) (hwarning : b.warning? use.tag = none) :
    (use.family, b.text use.field) ∈ Check.instances g board := by
  rw [Graph.blocks_checkConsistency hg] at hb
  obtain ⟨c, -, rfl⟩ := List.mem_map.mp hb
  rw [capabilities_foldl_applyTo] at huse
  have hupdates : Check.ownUpdates g board c = Check.usage (Check.instances g board) c use := by
    rw [Check.ownUpdates, capabilities_eq huse]
    exact List.append_nil _
  rw [hupdates] at hwarning ⊢
  unfold Check.usage at hwarning ⊢
  dsimp only at hwarning ⊢
  split_ifs at hwarning ⊢ with hconfigured
  · exact List.contains_iff_mem.mp hconfigured
  · have hwarned :=
      Dict.get?_insert_self c.warnings use.tag (Check.missingSetup (c.text use.field)).message
    exact absurd (hwarned.symm.trans hwarning) (by simp)

/-! ### Setup blocks declare -/

lemma unitName_of_instance {board : Board} {pin unit : String} {mapper : Board.Mapper}
    {family f : Family}
    (h : ((board.unit pin mapper).toOption.map fun unit => (f, unit)) = some (family, unit)) :
    f = family ∧ unitName board pin mapper = unit := by
  obtain ⟨unit', hunit, hpair⟩ := Option.map_eq_some_iff.mp h
  obtain ⟨rfl, rfl⟩ := Prod.mk.inj hpair
  rw [unitName, hunit]
  exact ⟨rfl, rfl⟩

/-- The script declares the object of a unit. -/
def SetsUp (board : Board) (family : Family) (unit : String) (own : List Effect)
    (_ : Fragment) : Prop :=
  ∃ s text, .register (.declaration ((peripheral family).stem ++ s) text) ∈ own ∧
    (peripheral family).object board s = family.object unit

lemma paired_declares (g : Graph) (board : Board) (b : Block) {k : Kind} {family : Family}
    {primary : String} {mapper : Board.Mapper}
    (h : k.pairedSetup? = some (family, primary, mapper)) :
    Ensures board (k.emit g b)
      (SetsUp board family (unitName board (b.text primary) mapper)) := by
  unfold Kind.pairedSetup? at h
  split at h <;> cases h
  · simp only [Kind.emit, SerialKind.emit, SerialKind.emitSetup, SerialKind.lineUnit,
      ensures_bind, ensures_reserve, ensures_unit, ensures_declare, ensures_statement,
      List.nil_append, List.append_nil]
    exact ⟨b.text "SERIAL_ID", _, List.mem_cons_self, rfl⟩
  · simp only [Kind.emit, SerialKind.emit, SerialKind.emitReaderSetup, SerialKind.lineUnit,
      ensures_bind, ensures_reserve, ensures_unit, ensures_declare, ensures_statement,
      List.nil_append, List.cons_append, List.append_nil]
    exact ⟨_, _, List.mem_cons_of_mem _ List.mem_cons_self, rfl⟩
  · simp only [Kind.emit, ImuKind.emit, ImuKind.emitSetup, ensures_bind, ensures_reserve,
      ensures_unit, ensures_declare, ensures_statement, List.nil_append, List.append_nil]
    exact ⟨_, _, List.mem_cons_self, rfl⟩
  all_goals
    simp only [Kind.emit, SensorKind.emit, SensorKind.emitI2cSetup, ensures_bind, ensures_reserve,
      ensures_unit, ensures_declare, ensures_statement, List.nil_append, List.append_nil]
    exact ⟨_, _, List.mem_cons_self, rfl⟩

lemma named_declares (g : Graph) (board : Board) (b : Block) {k : Kind} {family : Family}
    {field : String} (h : k.namedSetup? = some (family, field)) :
    Ensures board (k.emit g b) (SetsUp board family (b.text field)) := by
  unfold Kind.namedSetup? at h
  split at h <;> cases h
  · simp only [Kind.emit, MotorKind.emit, MotorKind.emitStepperSetup, ensures_bind,
      ensures_reserve, ensures_addInclude, ensures_declare, ensures_statement, List.nil_append,
      List.cons_append, List.append_nil]
    exact ⟨_, _, List.mem_cons_of_mem _ List.mem_cons_self, rfl⟩
  · refine (emit_accesses_spi board b .setup).mono fun own fragment haccesses => ?_
    obtain ⟨text, htext⟩ := (haccesses (.spi, b.text "SPI_ID") List.mem_cons_self).declares
    exact ⟨_, text, htext, rfl⟩

lemma statement_of_setup : ∀ k ∈ Kind.all, k.pairedSetup?.isSome ∨ k.namedSetup?.isSome →
    k ≠ .language .frame ∧ k.isValue = false := by
  decide

/-- An instance comes from a setup block, a statement that declares the object of the instance. -/
lemma setup_declares (g : Graph) {board : Board} {b : Block} {family : Family} {unit : String}
    (h : Check.instanceOf? board b = some (family, unit)) :
    ∃ k, b.kind? = some k ∧ (k ≠ .language .frame ∧ k.isValue = false) ∧
      Ensures board (k.emit g b) (SetsUp board family unit) := by
  unfold Check.instanceOf? at h
  cases hinfo : b.info? with
  | none =>
    rw [hinfo] at h
    cases h
  | some info =>
    obtain ⟨k, hk, hname⟩ := b.exists_kind? hinfo
    have hmem : info ∈ catalogue := (b.mem_of_info? hinfo).1
    refine ⟨k, hk, ?_⟩
    rw [hinfo] at h
    cases hpaired : info.pairedSetup? with
    | some setup =>
      have hkind := pairedSetup?_entry hmem hname
      rw [hpaired] at hkind
      simp only [hpaired] at h
      obtain ⟨rfl, rfl⟩ := unitName_of_instance h
      exact ⟨statement_of_setup k k.mem_all (.inl (by simp [← hkind])),
        paired_declares g board b hkind.symm⟩
    | none =>
      cases hnamed : info.namedSetup? with
      | none => simp [hpaired, hnamed] at h
      | some setup =>
        have hkind := namedSetup?_entry hmem hname
        rw [hnamed] at hkind
        simp only [hpaired, hnamed, Option.some.injEq, Prod.mk.injEq] at h
        obtain ⟨rfl, rfl⟩ := h
        exact ⟨statement_of_setup k k.mem_all (.inr (by simp [← hkind])),
          named_declares g board b hkind.symm⟩

/-! ### Blocks call into the object of their unit -/

/-- The code of a block accesses a member of the object, or it calls a function that does and that
comes with it. -/
def CallsInto (object : String) (effects : List Effect) (fragment : Fragment) : Prop :=
  AccessesMember object (fragmentText fragment) ∨
    ∃ function text, fragmentText fragment = function ++ "()" ∧
      .register (.function function text) ∈ effects ∧ AccessesMember object text

lemma CallsInto.mono {object : String} {effects more : List Effect} {fragment : Fragment}
    (h : CallsInto object effects fragment) (hmore : effects ⊆ more) :
    CallsInto object more fragment := by
  rcases h with h | ⟨function, text, hcall, hfunction, htext⟩
  · exact .inl h
  · exact .inr ⟨function, text, hcall, hmore hfunction, htext⟩

lemma CallsInto.of_start {object : String} {effects : List Effect} {fragment : Fragment}
    (h : (object ++ ".").toList <+: (fragmentText fragment).toList) :
    CallsInto object effects fragment :=
  .inl (.of_start h)

lemma accesses_transferBody (select bus data : String) :
    AccessesMember bus (SpiKind.transferBody select bus data) := by
  have hwrite : AccessesMember bus (bus ++ ".write(") := by
    apply AccessesMember.of_start
    simp
  unfold SpiKind.transferBody
  -- Six parts follow the call.
  iterate 6 refine AccessesMember.append_right ?_ _
  rw [String.append_assoc]
  exact hwrite.append_left (opensName_append (by decide) (by decide) _)

lemma accesses_functionText {object body : String} (h : AccessesMember object body)
    (returns name : String) (params : List String) :
    AccessesMember object (Code.functionText returns name params body) := by
  have hbraces : AccessesMember object (Code.braces body) :=
    (h.append_left (by decide)).append_right _
  exact hbraces.append_left (opensName_append (by decide) (by decide) _)

theorem emit_uses (g : Graph) (board : Board) (b : Block) {k : Kind} {family : Family}
    {field : String} (h : k.use? = some (family, field)) :
    Ensures board (k.emit g b) (CallsInto (family.object (b.text field))) := by
  cases k with
  | serial k =>
    cases k with
    | print | getChar | attach =>
      cases h
      simp only [Kind.emit, SerialKind.emit, SerialKind.emitPrint, PrintArguments.read,
        SerialKind.emitAttach, ensures_bind, ensures_argumentOr, ensures_value, ensures_callback,
        ensures_pure, ensures_statement, ensures_call]
      intros
      apply CallsInto.of_start
      simp [Family.object, fragmentText, PrintArguments.call]
    | waitCard | readUser | readPassword =>
      cases h
      apply CallsInto.of_start
      simp [Family.object, fragmentText]
    | setup | content | readerSetup => cases h
  | motor k =>
    cases k with
    | stepperRotate =>
      cases h
      simp only [Kind.emit, MotorKind.emit, MotorKind.emitStepperRotate, ensures_bind,
        ensures_argumentOr, ensures_statement]
      intros
      apply CallsInto.of_start
      simp [Family.object, fragmentText]
    | stepperWait =>
      cases h
      refine .inl ⟨"while(", "remain);\n", by decide, ?_⟩
      simp [Family.object, fragmentText, ← String.toList_inj]
    | servoWrite | servoRead | stepperSetup => cases h
  | spi k =>
    cases k with
    | transfer =>
      cases h
      simp only [Kind.emit, SpiKind.emit, SpiKind.emitTransfer, ensures_bind, ensures_argumentOr,
        ensures_statement]
      intros
      apply CallsInto.of_start
      simp [Family.object, fragmentText]
    | transferReturn =>
      cases h
      simp only [Kind.emit, SpiKind.emit, SpiKind.emitTransferReturn, digitalOut, ensures_bind,
        ensures_argumentOr, ensures_ite, ensures_reserve, ensures_declare, ensures_addFunction,
        ensures_pure, ensures_call, List.nil_append, List.cons_append, List.append_nil]
      refine fun data => ⟨fun _ => ?_, fun _ => ?_⟩
      · apply CallsInto.of_start
        simp [Family.object, fragmentText]
      · -- With a slave the transfer is made inside a function.
        refine .inr ⟨_, _, rfl, List.mem_cons_of_mem _ List.mem_cons_self, ?_⟩
        exact accesses_functionText (accesses_transferBody _ _ data) _ _ _
    | setup => cases h
  | sensor k =>
    cases k with
    | bh1750Read | bmp180Temperature | bmp180Pressure =>
      cases h
      apply CallsInto.of_start
      simp [Family.object, fragmentText]
    | _ => cases h
  | imu k =>
    cases k with
    | receive =>
      cases h
      apply CallsInto.of_start
      simp [Family.object, fragmentText, ImuKind.object]
    | acceleration | gyration | magnetism | attitude =>
      cases h
      simp only [Kind.emit, ImuKind.emit, ImuKind.emitGet, ensures_bind, ensures_argumentOr,
        ensures_statement]
      intros
      apply CallsInto.of_start
      simp [Family.object, fragmentText, ImuKind.object]
    | setup => cases h
  | language k | pin k | time k | radio k | network k | voice k | var k | file k | gcode k => cases h

/-! ### Soundness of the check -/

theorem instance_declared {g : Graph} (hg : g.Distinct) {board : Board} (options : Options)
    {family : Family} {unit : String} (h : (family, unit) ∈ Check.instances g board) :
    ∃ text ∈ (Generator.new g board options).program.sections.declarations,
      family.Declares unit text := by
  obtain ⟨b, htop, hinstance⟩ := List.mem_filterMap.mp h
  obtain ⟨k, hk, ⟨hframe, hshape⟩, hdeclares⟩ := setup_declares g hinstance
  have hself : g.get? b.id = some b := hg.get?_eq (Graph.mem_of_mem_topBlocks htop)
  obtain ⟨fragment, hfragment⟩ : ∃ fragment, (b, fragment) ∈ emitted g board options.indent :=
    exists_mem_emitted htop hself hk hframe hshape
  obtain ⟨own, ⟨s, text, hregistered, hobject⟩, hown⟩ :=
    ensured_of_emitted hfragment hk hdeclares
  obtain ⟨last, hlast, hdeclared⟩ := exists_declaration (hown hregistered)
  rw [sections_program]
  exact ⟨last, hlast, family_declares hobject hdeclared⟩

lemma emitWithin_uses {g : Graph} {board : Board} {indent : String} {busy : List String} {b : Block}
    {use : InstanceUse} (huse : .uses use ∈ b.capabilities) (hbusy : b.id ∉ busy) :
    ∃ fragment, (g.emitWithin board indent busy b).result = some fragment ∧
      CallsInto (use.family.object (b.text use.field)) (g.emitWithin board indent busy b).effects
        fragment := by
  obtain ⟨info, -, hinfo, -⟩ := b.exists_info?_of_capability huse
  obtain ⟨k, hk, -⟩ := b.exists_kind? hinfo
  obtain ⟨own, hcalls, hown⟩ :=
    Ensures.run (s := g.site board indent (g.emitter board indent (b.id :: busy)) b)
      (emit_uses g board b (use?_of_capability hk huse))
  rw [Graph.emitWithin_of_kind hbusy hk]
  exact ⟨_, rfl, hcalls.mono (List.subset_append_of_subset_left _ hown)⟩

/-- The check is sound for the generator: a block that works on a unit and carries no warning after
the check calls into an object that the program declares, wherever the block is emitted. -/
theorem unwarned_use_declared (g : Graph) (hg : g.Distinct) (board : Board) (options : Options)
    {b : Block} {use : InstanceUse} (hb : b ∈ (g.checkConsistency board).1.blocks)
    (huse : .uses use ∈ b.capabilities) (hwarning : b.warning? use.tag = none) :
    let checked := (g.checkConsistency board).1
    (∃ text ∈ (Generator.new checked board options).program.sections.declarations,
      use.family.Declares (b.text use.field) text) ∧
    ∀ busy, b.id ∉ busy → ∃ fragment,
      (checked.emitWithin board options.indent busy b).result = some fragment ∧
      CallsInto (use.family.object (b.text use.field))
        (checked.emitWithin board options.indent busy b).effects fragment := by
  have hconfigured := configured_of_unwarned hg hb huse hwarning
  refine ⟨?_, fun busy hbusy => emitWithin_uses huse hbusy⟩
  rw [program_congr (g.bare_checkConsistency board)]
  exact instance_declared hg options hconfigured

/-- Prints to a serial unit. -/
def printer : Block :=
  { id := "print"
    kind := "serial_print"
    fields := Dict.insert {} "SERIAL_Pins" (.text "Serial_1") }

def greeting : Graph :=
  { blocks :=
      [printer,
       { id := "line"
         kind := "serial_setup"
         fields :=
          Dict.insert (Dict.insert {} "SERIAL_ID" (.text "PA_10")) "SERIAL_ID_TX" (.text "PA_9") }] }

theorem unwarned_use_declared_greeting :
    let checked := (greeting.checkConsistency Board.Nucleo.profile).1
    greeting.Distinct ∧ printer ∈ checked.blocks ∧ printer.warning? "serial_setup" = none ∧
    (∃ text ∈ (Generator.new checked Board.Nucleo.profile {}).program.sections.declarations,
      Family.serial.Declares "Serial_1" text) ∧
    ∃ fragment, (checked.emitWithin Board.Nucleo.profile "  " [] printer).result = some fragment ∧
      CallsInto "Serial_1" (checked.emitWithin Board.Nucleo.profile "  " [] printer).effects
        fragment := by
  have hids : greeting.Distinct := by
    unfold Graph.Distinct
    decide
  have hchecked : printer ∈ (greeting.checkConsistency Board.Nucleo.profile).1.blocks := by
    decide +kernel
  have huse : .uses { family := .serial, field := "SERIAL_Pins", tag := "serial_setup" } ∈
      printer.capabilities := by decide
  have hwarning : printer.warning? "serial_setup" = none := by decide
  obtain ⟨hdeclared, hemitted⟩ :=
    unwarned_use_declared greeting hids Board.Nucleo.profile {} hchecked huse hwarning
  exact ⟨hids, hchecked, hwarning, hdeclared, hemitted [] List.not_mem_nil⟩

end Proofs

end MbedBlocks
