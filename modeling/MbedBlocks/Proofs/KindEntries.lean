import MbedBlocks.Emit.Walk
import Mathlib.Tactic.Lemma

/-!
# Kinds and their entries

The families of scripts and the catalogue are kept apart: a family knows the names that it answers
to, the catalogue lists names of its own. They meet in the name of a kind. One family answers to it,
and one entry of the catalogue bears it and gives the shape that the script yields.
-/

namespace MbedBlocks

namespace Kind

def all : List Kind :=
  [.frame, .number, .text, .boolean, .arithmetic, .compare, .operation, .negate, .branch,
    .repetition].map language ++
  [.digitalWrite, .digitalRead, .builtinLed, .analogRead, .highLow, .pwm, .pulse, .pulseTimeout,
    .interrupt, .interruptPriority, .tone, .silence].map pin ++
  [.setup, .print, .getChar, .attach, .content, .readerSetup, .waitCard, .readUser,
    .readPassword].map serial ++
  [.servoWrite, .servoRead, .stepperSetup, .stepperRotate, .stepperWait].map motor ++
  [.delay, .delayMicros, .millis, .micros, .halt, .ticker].map time ++
  [.setup, .transfer, .transferReturn].map spi ++
  [.setup, .irq, .check, .readable, .checksum, .writeLength, .connect].map radio ++
  [.setup, .yield, .publish, .command].map network ++
  [.setup, .start, .add, .read].map voice ++
  [.bh1750Setup, .bh1750Read, .bmp180Setup, .bmp180Temperature, .bmp180Pressure, .dht11Setup,
    .dht11Temperature, .dht11Humidity, .dht11Readable, .ds18b20Setup, .ds18b20Temperature,
    .ds18b20Readable, .sr501Setup, .sr501Output, .sr501Readable, .sr501Reset, .analogSetup,
    .analogOutput, .analogReadable, .analogReset].map sensor ++
  [.setup, .receive, .acceleration, .gyration, .magnetism, .attitude].map imu ++
  [.declare, .declareArray, .get, .set, .cast].map var ++
  [.card, .openFile, .print, .scan, .closeFile].map file ++
  [.start, .parse, .home, .move, .setPosition].map gcode

lemma mem_all (k : Kind) : k ∈ all := by
  cases k with
  | language k | pin k | serial k | motor k | time k | spi k | radio k | network k | voice k
  | sensor k | imu k | var k | file k | gcode k => cases k <;> decide

/-- The name that leads to a kind. -/
def name : Kind → String
  | language .frame => "mbed_functions"
  | language .number => "math_number"
  | language .text => "text"
  | language .boolean => "logic_boolean"
  | language .arithmetic => "math_arithmetic"
  | language .compare => "logic_compare"
  | language .operation => "logic_operation"
  | language .negate => "logic_negate"
  | language .branch => "controls_if"
  | language .repetition => "controls_whileUntil"
  | pin .digitalWrite => "io_digitalwrite"
  | pin .digitalRead => "io_digitalread"
  | pin .builtinLed => "io_builtin_led"
  | pin .analogRead => "io_analogread"
  | pin .highLow => "io_highlow"
  | pin .pwm => "io_pwm_set"
  | pin .pulse => "io_pulsein"
  | pin .pulseTimeout => "io_pulsetimeout"
  | pin .interrupt => "io_interrupt"
  | pin .interruptPriority => "set_interrupt_prio"
  | pin .tone => "io_tone"
  | pin .silence => "io_notone"
  | serial .setup => "serial_setup"
  | serial .print => "serial_print"
  | serial .getChar => "serial_getc"
  | serial .attach => "serial_attach"
  | serial .content => "print_content"
  | serial .readerSetup => "pn532_setup"
  | serial .waitCard => "pn532_wait_card"
  | serial .readUser => "pn532_read_user"
  | serial .readPassword => "pn532_read_passwd"
  | motor .servoWrite => "servo_write"
  | motor .servoRead => "servo_read"
  | motor .stepperSetup => "stepper_setup"
  | motor .stepperRotate => "stepper_rotate"
  | motor .stepperWait => "stepper_wait"
  | time .delay => "time_delay"
  | time .delayMicros => "time_delaymicros"
  | time .millis => "time_millis"
  | time .micros => "time_micros"
  | time .halt => "infinite_loop"
  | time .ticker => "ticker_attach"
  | spi .setup => "spi_setup"
  | spi .transfer => "spi_transfer"
  | spi .transferReturn => "spi_transfer_return"
  | radio .setup => "nrf24_setup"
  | radio .irq => "nrf24_irq"
  | radio .check => "nrf24_check"
  | radio .readable => "nrf24_readable"
  | radio .checksum => "nrf24_checksum"
  | radio .writeLength => "nrf24_write_len"
  | radio .connect => "nrf24_connect"
  | network .setup => "w5500_setup"
  | network .yield => "w5500_yield"
  | network .publish => "w5500_publish"
  | network .command => "w5500_command"
  | voice .setup => "ld3320_setup"
  | voice .start => "ld3320_start"
  | voice .add => "ld3320_add"
  | voice .read => "ld3320_read"
  | sensor .bh1750Setup => "bh1750_setup"
  | sensor .bh1750Read => "bh1750_read"
  | sensor .bmp180Setup => "bmp180_setup"
  | sensor .bmp180Temperature => "bmp180_temp"
  | sensor .bmp180Pressure => "bmp180_pressure"
  | sensor .dht11Setup => "dht11_setup"
  | sensor .dht11Temperature => "dht11_temp"
  | sensor .dht11Humidity => "dht11_humidity"
  | sensor .dht11Readable => "dht11_readable"
  | sensor .ds18b20Setup => "ds18B20_setup"
  | sensor .ds18b20Temperature => "ds18B20_temp"
  | sensor .ds18b20Readable => "ds18B20_readable"
  | sensor .sr501Setup => "sr501_setup"
  | sensor .sr501Output => "sr501_o"
  | sensor .sr501Readable => "sr501_readable"
  | sensor .sr501Reset => "sr501_reset"
  | sensor .analogSetup => "analog_setup"
  | sensor .analogOutput => "analog_o"
  | sensor .analogReadable => "analog_readable"
  | sensor .analogReset => "analog_reset"
  | imu .setup => "jy901_setup"
  | imu .receive => "jy901_receive"
  | imu .acceleration => "jy901_getacc"
  | imu .gyration => "jy901_getgyo"
  | imu .magnetism => "jy901_getmag"
  | imu .attitude => "jy901_getatt"
  | var .declare => "variables_declare"
  | var .declareArray => "variables_declare_array"
  | var .get => "variables_get"
  | var .set => "variables_set"
  | var .cast => "variables_set_type"
  | file .card => "sd_fs"
  | file .openFile => "fs_fopen"
  | file .print => "fs_fprintf"
  | file .scan => "fs_fscanf"
  | file .closeFile => "fs_fclose"
  | gcode .start => "gcode_init"
  | gcode .parse => "gcode_parse"
  | gcode .home => "gcode_cb_home"
  | gcode .move => "gcode_cb_absmove"
  | gcode .setPosition => "gcode_cb_setpos"

/-- Whether the script of a kind yields a value. -/
def isValue : Kind → Bool
  | language .frame | language .branch | language .repetition => false
  | language _ => true
  | pin .digitalRead | pin .analogRead | pin .highLow | pin .pulse | pin .pulseTimeout => true
  | serial .getChar | serial .content | serial .waitCard | serial .readUser
  | serial .readPassword => true
  | motor .servoRead | time .millis | time .micros | spi .transferReturn | radio .readable
  | radio .checksum | voice .read => true
  | sensor .bh1750Setup | sensor .bmp180Setup | sensor .dht11Setup | sensor .ds18b20Setup
  | sensor .sr501Setup | sensor .sr501Reset | sensor .analogSetup | sensor .analogReset => false
  | sensor _ => true
  | var .get | var .cast => true
  | _ => false

/-! ### Families -/

/-- The place of the family that a kind belongs to. -/
def place : Kind → Nat
  | language _ => 0
  | pin _ => 1
  | serial _ => 2
  | motor _ => 3
  | time _ => 4
  | spi _ | radio _ | network _ | voice _ => 5
  | sensor _ | imu _ => 6
  | var _ => 7
  | file _ => 8
  | gcode _ => 9

/-- Each family answers to the names of its own kinds only. -/
lemma families_answer :
    ∀ p ∈ families.zipIdx, ∀ s k, p.1 s = some k → k.name = s ∧ k.place = p.2 := by
  unfold families
  simp only [List.zipIdx_cons, List.zipIdx_nil, List.forall_mem_cons]
  unfold inLanguage? inPins? inSerial? inMotors? inTime? inBuses? inSensors? inVariables? inFiles?
    inGcode?
  refine ⟨?_, ?_, ?_, ?_, ?_, ?_, ?_, ?_, ?_, ?_, nofun⟩
  all_goals
    intro s k h
    split at h <;> cases h <;> exact ⟨rfl, rfl⟩

/-- The name of a kind leads to it. -/
lemma ofName?_of_mem : ∀ k ∈ all, ofName? k.name = some k := by decide +kernel

lemma ofName?_name (k : Kind) : ofName? k.name = some k := ofName?_of_mem k k.mem_all

lemma of_family {i : Nat} {family : String → Option Kind} (hi : families[i]? = some family)
    {s : String} {k : Kind} (h : family s = some k) : k.name = s ∧ k.place = i :=
  families_answer _ (List.mk_mem_zipIdx_iff_getElem?.mpr hi) s k h

lemma ofName?_eq_some_iff {s : String} {k : Kind} : ofName? s = some k ↔ k.name = s := by
  constructor
  · intro h
    obtain ⟨family, hmem, hfamily⟩ := List.exists_of_findSome?_eq_some h
    obtain ⟨i, hi⟩ := List.mem_iff_getElem?.mp hmem
    exact (of_family hi hfamily).1
  · rintro rfl
    exact k.ofName?_name

lemma name_injective {k k' : Kind} (h : k.name = k'.name) : k = k' := by
  have hk := k.ofName?_name
  rw [h, k'.ofName?_name] at hk
  exact (Option.some.inj hk).symm

/-- No name is answered by two families. -/
theorem families_pairwise :
    families.Pairwise fun family family' => ∀ s, family s = none ∨ family' s = none := by
  rw [List.pairwise_iff_getElem]
  intro i j hi hj hij s
  cases hk : families[i] s with
  | none => exact .inl rfl
  | some k =>
    right
    cases hk' : families[j] s with
    | none => rfl
    | some k' =>
      obtain ⟨hname, hplace⟩ := of_family (List.getElem?_eq_getElem hi) hk
      obtain ⟨hname', hplace'⟩ := of_family (List.getElem?_eq_getElem hj) hk'
      obtain rfl : k = k' := name_injective (hname.trans hname'.symm)
      omega

end Kind

/-! ### Entries -/

lemma KindInfo.mem_of_lookup? {s : String} {info : KindInfo} (h : lookup? s = some info) :
    info ∈ catalogue ∧ info.name = s := by
  unfold lookup? at h
  exact ⟨List.mem_of_find?_eq_some h, by simpa using List.find?_some h⟩

lemma KindInfo.mem_of_pairedSetup? {info : KindInfo} {setup : PairedSetup}
    (h : info.pairedSetup? = some setup) : .pairedSetup setup ∈ info.capabilities := by
  obtain ⟨capability, hmem, hcapability⟩ := List.exists_of_findSome?_eq_some h
  cases capability <;> cases hcapability
  exact hmem

lemma KindInfo.mem_of_namedSetup? {info : KindInfo} {setup : NamedSetup}
    (h : info.namedSetup? = some setup) : .namedSetup setup ∈ info.capabilities := by
  obtain ⟨capability, hmem, hcapability⟩ := List.exists_of_findSome?_eq_some h
  cases capability <;> cases hcapability
  exact hmem

/-- The catalogue lists the kinds one after the other, under their names. -/
lemma names_catalogue : catalogue.map KindInfo.name = Kind.all.map Kind.name := rfl

lemma KindInfo.exists_kind {info : KindInfo} (h : info ∈ catalogue) :
    ∃ k : Kind, k.name = info.name := by
  have hname : info.name ∈ Kind.all.map Kind.name := names_catalogue ▸ List.mem_map_of_mem h
  obtain ⟨k, -, hk⟩ := List.mem_map.mp hname
  exact ⟨k, hk⟩

lemma Kind.exists_entry (k : Kind) : ∃ info ∈ catalogue, info.name = k.name := by
  have hname : k.name ∈ catalogue.map KindInfo.name :=
    names_catalogue ▸ List.mem_map_of_mem k.mem_all
  exact List.mem_map.mp hname

/-- Entries that agree with the kinds in a column of the whole table agree one by one, since no two
kinds have one name. -/
lemma eq_of_column {α : Type} {f : KindInfo → α} {f' : Kind → α}
    (h : catalogue.map (fun info => (info.name, f info)) = Kind.all.map fun k => (k.name, f' k))
    {info : KindInfo} {k : Kind} (hinfo : info ∈ catalogue) (hname : info.name = k.name) :
    f info = f' k := by
  have hentry : (info.name, f info) ∈ Kind.all.map fun k => (k.name, f' k) :=
    h ▸ List.mem_map_of_mem hinfo
  obtain ⟨k', -, hk'⟩ := List.mem_map.mp hentry
  obtain ⟨hname', hf⟩ := Prod.mk.inj hk'
  obtain rfl : k' = k := Kind.name_injective (hname'.trans hname)
  exact hf.symm

/-- The catalogue gives a kind the shape that its script yields. -/
lemma isValue_entry {info : KindInfo} {k : Kind} (hinfo : info ∈ catalogue)
    (hname : info.name = k.name) : info.shape.isValue = k.isValue :=
  eq_of_column (f := fun info => info.shape.isValue) rfl hinfo hname

namespace Block

variable {b : Block} {k : Kind} {info : KindInfo}

lemma kind?_eq_some_iff : b.kind? = some k ↔ k.name = b.kind := Kind.ofName?_eq_some_iff

lemma kind_eq_framingName_iff (h : b.kind? = some k) :
    b.kind = framingName ↔ k = .language .frame := by
  rw [← kind?_eq_some_iff.mp h]
  constructor
  · exact fun hname => Kind.name_injective hname
  · rintro rfl
    rfl

lemma mem_of_info? (h : b.info? = some info) : info ∈ catalogue ∧ info.name = b.kind :=
  KindInfo.mem_of_lookup? h

lemma name_of_info? (hk : b.kind? = some k) (hinfo : b.info? = some info) : info.name = k.name :=
  (mem_of_info? hinfo).2.trans (kind?_eq_some_iff.mp hk).symm

/-- A block that the catalogue knows is known to a family of scripts. -/
lemma exists_kind? (h : b.info? = some info) : ∃ k, b.kind? = some k ∧ info.name = k.name := by
  obtain ⟨hinfo, hname⟩ := mem_of_info? h
  obtain ⟨k, hk⟩ := KindInfo.exists_kind hinfo
  exact ⟨k, kind?_eq_some_iff.mpr (hk.trans hname), hk.symm⟩

/-- A block that a family of scripts knows has an entry in the catalogue. -/
lemma exists_info? (h : b.kind? = some k) :
    ∃ info ∈ catalogue, b.info? = some info ∧ info.name = k.name := by
  have hname : k.name = b.kind := kind?_eq_some_iff.mp h
  obtain ⟨entry, hentry, hentryName⟩ := k.exists_entry
  have hfound : (catalogue.find? fun info => info.name == b.kind).isSome := by
    rw [List.find?_isSome]
    exact ⟨entry, hentry, beq_iff_eq.mpr (hentryName.trans hname)⟩
  obtain ⟨info, hinfo⟩ := Option.isSome_iff_exists.mp hfound
  exact ⟨info, (mem_of_info? hinfo).1, hinfo, name_of_info? h hinfo⟩

/-- What a block is capable of is said by an entry of the catalogue. -/
lemma exists_info?_of_capability {capability : Capability} (h : capability ∈ b.capabilities) :
    ∃ info ∈ catalogue, b.info? = some info ∧ capability ∈ info.capabilities := by
  unfold capabilities at h
  cases hinfo : b.info? with
  | none =>
    rw [hinfo] at h
    cases h
  | some info =>
    rw [hinfo] at h
    exact ⟨info, (mem_of_info? hinfo).1, rfl, h⟩

lemma isStatement_of_kind (h : b.kind? = some k) : Graph.isStatement b = !k.isValue := by
  obtain ⟨info, hmem, hinfo, hname⟩ := exists_info? h
  rw [Graph.isStatement, hinfo, ← isValue_entry hmem hname]

lemma any_isValue_of_kind (h : b.kind? = some k) :
    (b.info?.any fun info => info.shape.isValue) = k.isValue := by
  obtain ⟨info, hmem, hinfo, hname⟩ := exists_info? h
  rw [hinfo, ← isValue_entry hmem hname]
  rfl

end Block

end MbedBlocks
