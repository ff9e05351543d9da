import MbedBlocks.Proofs.ScriptProfiles
import MbedBlocks.Proofs.Upserts
import Mathlib.Data.List.Dedup

/-!
# Objects and their declarations

Blocks that share an object declare it under one key, so that it stands once among the
declarations: the key is made from what the name is made from. Serial lines are the exception. They
are named after their unit and declared under their receiving pin, so a unit is declared as often as
it has receiving pins among the blocks that set it up.
-/

namespace MbedBlocks.Proofs

open Code (Fragment)

/-! ### Keys and names -/

namespace Peripheral

variable {board : Board} {p : Peripheral} {s t : String}

/-- Families whose objects have their keys for names. -/
def Eponymous (p : Peripheral) : Prop := ∀ board s, p.object board s = p.stem ++ s

lemma object_injective (hp : p ≠ .serial) (h : p.object board s = p.object board t) : s = t := by
  cases p with
  | serial => exact absurd rfl hp
  | userVariable | file => exact h
  | _ => exact (String.append_right_inj _).mp h

end Peripheral

/-- All objects of a kind are named by their keys, or all are of one family. -/
lemma declared_families (k : Kind) : k = .serial .setup ∨
    (∀ board b, ∀ d ∈ declared board b k, d.1.Eponymous) ∨
    ∃ p ≠ Peripheral.serial, ∀ board b, ∀ d ∈ declared board b k, d.1 = p := by
  cases k with
  | pin k =>
    cases k with
    | analogRead => exact .inr (.inr ⟨.analogIn, by simp [declared]⟩)
    | pwm | tone | silence => exact .inr (.inr ⟨.pwmOut, by simp [declared]⟩)
    | _ => exact .inr (.inl (by simp [declared, Peripheral.Eponymous, Peripheral.object]))
  | serial k =>
    cases k with
    | setup => exact .inl rfl
    | _ => exact .inr (.inl (by simp [declared, Peripheral.Eponymous, Peripheral.object]))
  | motor k =>
    cases k with
    | servoWrite | servoRead => exact .inr (.inr ⟨.servo, by simp [declared]⟩)
    | _ => exact .inr (.inl (by simp [declared, Peripheral.Eponymous, Peripheral.object]))
  | var k =>
    cases k with
    | declare | declareArray => exact .inr (.inr ⟨.userVariable, by simp [declared]⟩)
    | _ => exact .inr (.inl (by simp [declared]))
  | file k =>
    cases k with
    | card => exact .inr (.inl (by simp [declared, Peripheral.Eponymous, Peripheral.object]))
    | _ => exact .inr (.inr ⟨.file, by simp [declared]⟩)
  | language k | time k | spi k | radio k | network k | voice k | sensor k | imu k | gcode k =>
    cases k <;>
      exact .inr (.inl (by simp [declared, Peripheral.Eponymous, Peripheral.object]))

section Sharing

variable {board : Board} {b b' : Block} {k : Kind} {d d' : Peripheral × String}

/-- Two blocks of a kind declare an object of one name under one key, serial lines apart. -/
lemma key_eq_of_object_eq (hk : k ≠ .serial .setup) (hd : d ∈ declared board b k)
    (hd' : d' ∈ declared board b' k) (h : d.1.object board d.2 = d'.1.object board d'.2) :
    d.1.stem ++ d.2 = d'.1.stem ++ d'.2 := by
  rcases declared_families k with rfl | heponymous | ⟨p, hp, hfamily⟩
  · exact absurd rfl hk
  · rwa [heponymous board b d hd, heponymous board b' d' hd'] at h
  · rw [hfamily board b d hd, hfamily board b' d' hd'] at h ⊢
    rw [Peripheral.object_injective hp h]

end Sharing

/-! ### What emitted blocks declare -/

/-- The text under the key declares the object of that name. -/
def DeclaresObject (board : Board) (name key text : String) : Prop :=
  ∃ p s, key = Peripheral.stem p ++ s ∧ p.Declares board s text ∧ p.object board s = name

/-- The block is emitted, and itself registers a declaration of the object under the key. -/
def DeclaresUnder (g : Graph) (board : Board) (indent : String) (b : Block) (name key : String) :
    Prop :=
  ∃ fragment busy k text, (b, fragment) ∈ emitted g board indent ∧ b.id ∉ busy ∧
    b.kind? = some k ∧
    .register (.declaration key text) ∈ blockRegistrations g board indent busy b k ∧
    DeclaresObject board name key text

section Emitted

variable {g : Graph} {board : Board} {indent : String} {b : Block} {k : Kind} {name key : String}

lemma declarationKey?_eq_some {e : Effect} (h : declarationKey? e = some key) :
    ∃ text, e = .register (.declaration key text) := by
  unfold declarationKey? at h
  split at h
  · exact ⟨_, congrArg _ (congrArg₂ _ (Option.some.inj h) rfl)⟩
  · cases h

/-- The declarations of an emitted block are those of its profile. -/
lemma declaresUnder_iff (hk : b.kind? = some k) :
    DeclaresUnder g board indent b name key ↔
      (∃ fragment, (b, fragment) ∈ emitted g board indent) ∧
        ∃ d ∈ declared board b k, d.1.stem ++ d.2 = key ∧ d.1.object board d.2 = name := by
  constructor
  · rintro ⟨fragment, busy, k', text, hemitted, -, hk', hown, p, s, rfl, -, rfl⟩
    obtain rfl : k = k' := Option.some.inj (hk.symm.trans hk')
    have hkey : p.stem ++ s ∈
        (blockRegistrations g board indent busy b k).filterMap declarationKey? :=
      List.mem_filterMap.mpr ⟨_, hown, rfl⟩
    rw [(blockRegistrations_profile g board indent busy b k).declares] at hkey
    obtain ⟨d, hd, hkey⟩ := List.mem_map.mp hkey
    obtain ⟨rfl, rfl⟩ := Peripheral.key_injective hkey
    exact ⟨⟨fragment, hemitted⟩, d, hd, rfl, rfl⟩
  · rintro ⟨⟨fragment, hemitted⟩, d, hd, rfl, rfl⟩
    -- The key is registered; that the text declares the object follows from the key alone.
    obtain ⟨busy, -, hbusy, -⟩ := accounted_of_emitted hemitted
    have hkey := List.mem_map_of_mem (f := fun d : Peripheral × String => d.1.stem ++ d.2) hd
    rw [← (blockRegistrations_profile g board indent busy b k).declares] at hkey
    obtain ⟨e, he, hkey⟩ := List.mem_filterMap.mp hkey
    obtain ⟨text, rfl⟩ := declarationKey?_eq_some hkey
    obtain ⟨p, s, hstem, hdeclares⟩ := blockRegistrations_conform g board indent busy b k _ he
    obtain ⟨rfl, rfl⟩ := Peripheral.key_injective hstem
    exact ⟨fragment, busy, k, text, hemitted, hbusy, hk, he, d.1, d.2, rfl, hdeclares, rfl⟩

/-- What an emitted block declares has an entry in the end. -/
lemma DeclaresUnder.mem_keys (h : DeclaresUnder g board indent b name key) :
    key ∈ (finalRegistry g board indent).declarations.entries.map Prod.fst := by
  obtain ⟨fragment, -, k, -, hemitted, -, hk, -⟩ := id h
  obtain ⟨-, d, hd, rfl, -⟩ := (declaresUnder_iff hk).mp h
  obtain ⟨own, hprofile, hsubset⟩ := ensured_of_emitted hemitted hk (emit_profiled g b k)
  have hkey := List.mem_map_of_mem (f := fun d : Peripheral × String => d.1.stem ++ d.2) hd
  rw [← hprofile.declares] at hkey
  obtain ⟨e, he, hkey⟩ := List.mem_filterMap.mp hkey
  obtain ⟨text, rfl⟩ := declarationKey?_eq_some hkey
  have hregistered : Registered (finalRegistry g board indent) (.declaration _ text) :=
    registered_of_mem (hsubset he) {}
  exact Keyed.isSome_get?_iff.mp hregistered

end Emitted

/-! ### The declarations section -/

/-- The entries of the declarations section that emitted blocks of the kind have made for the
object. -/
def declarationsOf (g : Graph) (board : Board) (indent : String) (k : Kind) (name : String) :
    List (String × String) :=
  (finalRegistry g board indent).declarations.entries.filter fun entry =>
    (emitted g board indent).any fun e => e.1.kind? = some k &&
      (declared board e.1 k).any fun d =>
        d.1.stem ++ d.2 = entry.1 && d.1.object board d.2 = name

/-- The receiving pins of the emitted setup blocks of a serial unit, once each. -/
def receivingPins (g : Graph) (board : Board) (indent unit : String) : List String :=
  (((emitted g board indent).filter fun e => e.1.kind? = some (.serial .setup) &&
    unitName board (e.1.text "SERIAL_ID") .serial = unit).map fun e =>
      e.1.text "SERIAL_ID").dedup

section Sections

variable {g : Graph} {board : Board} {indent : String} {b b' : Block} {k : Kind}
  {name key key' : String} {entry : String × String}

lemma mem_declarationsOf : entry ∈ declarationsOf g board indent k name ↔
    entry ∈ (finalRegistry g board indent).declarations.entries ∧
      ∃ b, b.kind? = some k ∧ DeclaresUnder g board indent b name entry.1 := by
  unfold declarationsOf
  rw [List.mem_filter]
  refine and_congr_right fun _ => ?_
  simp only [List.any_eq_true, Bool.and_eq_true, decide_eq_true_eq]
  constructor
  · rintro ⟨⟨b, fragment⟩, hemitted, hk, d, hd, hkey, hname⟩
    exact ⟨b, hk, (declaresUnder_iff hk).mpr ⟨⟨fragment, hemitted⟩, d, hd, hkey, hname⟩⟩
  · rintro ⟨b, hk, hunder⟩
    obtain ⟨⟨fragment, hemitted⟩, d, hd, hkey, hname⟩ := (declaresUnder_iff hk).mp hunder
    exact ⟨(b, fragment), hemitted, hk, d, hd, hkey, hname⟩

lemma exists_mem_declarationsOf (hk : b.kind? = some k)
    (h : DeclaresUnder g board indent b name key) :
    ∃ text, (key, text) ∈ declarationsOf g board indent k name := by
  obtain ⟨entry, hentry, rfl⟩ := List.mem_map.mp h.mem_keys
  exact ⟨entry.2, mem_declarationsOf.mpr ⟨hentry, b, hk, h⟩⟩

lemma declaresObject_of_mem (h : entry ∈ declarationsOf g board indent k name) :
    DeclaresObject board name entry.1 entry.2 := by
  obtain ⟨hentry, b, hk, hunder⟩ := mem_declarationsOf.mp h
  obtain ⟨-, d, -, hkey, hname⟩ := (declaresUnder_iff hk).mp hunder
  obtain ⟨p, s, hstem, hdeclares⟩ := finalRegistry_holds.declarations entry hentry
  obtain ⟨rfl, rfl⟩ := Peripheral.key_injective (hkey.trans hstem)
  exact ⟨d.1, d.2, hstem, hdeclares, hname⟩

/-- Serial lines share a key exactly if they share the receiving pin; of all other kinds, objects of
one name share it. -/
lemma key_eq_iff (hk : b.kind? = some k) (hk' : b'.kind? = some k)
    (h : DeclaresUnder g board indent b name key) (h' : DeclaresUnder g board indent b' name key') :
    key = key' ↔ (k = .serial .setup → b.text "SERIAL_ID" = b'.text "SERIAL_ID") := by
  obtain ⟨-, d, hd, rfl, hname⟩ := (declaresUnder_iff hk).mp h
  obtain ⟨-, d', hd', rfl, hname'⟩ := (declaresUnder_iff hk').mp h'
  by_cases hserial : k = .serial .setup
  · subst hserial
    rw [List.mem_singleton.mp hd, List.mem_singleton.mp hd']
    simp
  · have hkey := key_eq_of_object_eq hserial hd hd' (hname.trans hname'.symm)
    exact iff_of_true hkey fun h => absurd h hserial

lemma nodup_keys_declarationsOf :
    ((declarationsOf g board indent k name).map Prod.fst).Nodup :=
  (finalRegistry g board indent).declarations.nodup_keys.sublist (List.filter_sublist.map _)

lemma length_declarationsOf_le (hk : k ≠ .serial .setup) :
    (declarationsOf g board indent k name).length ≤ 1 := by
  have hnodup : ((declarationsOf g board indent k name).map Prod.fst).Nodup :=
    nodup_keys_declarationsOf
  rw [← List.length_map (f := Prod.fst)]
  by_contra! hlength
  -- Two entries have different keys, though both were made for the object.
  obtain ⟨key, key', rest, hkeys⟩ : ∃ key key' rest,
      (declarationsOf g board indent k name).map Prod.fst = key :: key' :: rest := by
    match (declarationsOf g board indent k name).map Prod.fst, hlength with
    | key :: key' :: rest, _ => exact ⟨key, key', rest, rfl⟩
  have hkey : key ∈ (declarationsOf g board indent k name).map Prod.fst := by simp [hkeys]
  have hkey' : key' ∈ (declarationsOf g board indent k name).map Prod.fst := by simp [hkeys]
  obtain ⟨entry, hentry, rfl⟩ := List.mem_map.mp hkey
  obtain ⟨entry', hentry', rfl⟩ := List.mem_map.mp hkey'
  obtain ⟨-, b, hb, hunder⟩ := mem_declarationsOf.mp hentry
  obtain ⟨-, b', hb', hunder'⟩ := mem_declarationsOf.mp hentry'
  have hsame : entry.1 = entry'.1 :=
    (key_eq_iff hb hb' hunder hunder').mpr fun h => absurd h hk
  rw [hkeys, hsame] at hnodup
  exact (List.nodup_cons.mp hnodup).1 List.mem_cons_self

lemma declaresUnder_serial (hk : b.kind? = some (.serial .setup)) :
    DeclaresUnder g board indent b name key ↔
      (∃ fragment, (b, fragment) ∈ emitted g board indent) ∧
        "serial_" ++ b.text "SERIAL_ID" = key ∧
          unitName board (b.text "SERIAL_ID") .serial = name := by
  rw [declaresUnder_iff hk]
  refine and_congr_right fun _ => ⟨?_, fun h => ⟨_, List.mem_singleton_self _, h⟩⟩
  rintro ⟨d, hd, h⟩
  rwa [List.mem_singleton.mp hd] at h

lemma mem_receivingPins {unit pin : String} : pin ∈ receivingPins g board indent unit ↔
    ∃ b, b.kind? = some (.serial .setup) ∧
      DeclaresUnder g board indent b unit ("serial_" ++ pin) := by
  unfold receivingPins
  simp only [List.mem_dedup, List.mem_map, List.mem_filter, Bool.and_eq_true, decide_eq_true_eq]
  constructor
  · rintro ⟨⟨b, fragment⟩, ⟨hemitted, hk, hunit⟩, rfl⟩
    exact ⟨b, hk, (declaresUnder_serial hk).mpr ⟨⟨fragment, hemitted⟩, rfl, hunit⟩⟩
  · rintro ⟨b, hk, hunder⟩
    obtain ⟨⟨fragment, hemitted⟩, hkey, hunit⟩ := (declaresUnder_serial hk).mp hunder
    exact ⟨(b, fragment), ⟨hemitted, hk, hunit⟩, (String.append_right_inj _).mp hkey⟩

/-- A unit is declared once for each of its receiving pins. -/
lemma keys_declarationsOf_serial (unit : String) :
    ((declarationsOf g board indent (.serial .setup) unit).map Prod.fst).Perm
      ((receivingPins g board indent unit).map ("serial_" ++ ·)) := by
  have hpins : ((receivingPins g board indent unit).map ("serial_" ++ ·)).Nodup :=
    (List.nodup_dedup _).map fun _ _ h => (String.append_right_inj _).mp h
  refine (List.perm_ext_iff_of_nodup nodup_keys_declarationsOf hpins).mpr fun key => ?_
  constructor
  · intro hkey
    obtain ⟨entry, hentry, rfl⟩ := List.mem_map.mp hkey
    obtain ⟨-, b, hk, hunder⟩ := mem_declarationsOf.mp hentry
    obtain ⟨-, hpin, -⟩ := (declaresUnder_serial hk).mp hunder
    rw [← hpin] at hunder ⊢
    exact List.mem_map_of_mem (mem_receivingPins.mpr ⟨b, hk, hunder⟩)
  · intro hkey
    obtain ⟨pin, hpin, rfl⟩ := List.mem_map.mp hkey
    obtain ⟨b, hk, hunder⟩ := mem_receivingPins.mp hpin
    obtain ⟨text, htext⟩ := exists_mem_declarationsOf hk hunder
    exact List.mem_map_of_mem htext

end Sections

/-- What the declarations section holds on behalf of the emitted blocks of a kind for an object: one
entry for each key that they declare it under, and each declares the object. If two of them declare
an object of the same name, they do so under the same key, unless they set up serial lines with
different receiving pins. So no object is declared twice on behalf of one kind, but a serial unit is
declared once for each receiving pin. -/
theorem declarations_on_behalf (g : Graph) (board : Board) (options : Options) (k : Kind)
    (name : String) :
    (Generator.new g board options).program.sections.declarations =
      (finalRegistry g board options.indent).declarations.entries.map Prod.snd ∧
    (∀ entry, entry ∈ declarationsOf g board options.indent k name ↔
      entry ∈ (finalRegistry g board options.indent).declarations.entries ∧
        ∃ b, b.kind? = some k ∧ DeclaresUnder g board options.indent b name entry.1) ∧
    (∀ b key, b.kind? = some k → DeclaresUnder g board options.indent b name key →
      ∃ text, (key, text) ∈ declarationsOf g board options.indent k name ∧
        DeclaresObject board name key text) ∧
    (∀ b b' key key', b.kind? = some k → b'.kind? = some k →
      DeclaresUnder g board options.indent b name key →
      DeclaresUnder g board options.indent b' name key' →
        (key = key' ↔ (k = .serial .setup → b.text "SERIAL_ID" = b'.text "SERIAL_ID"))) ∧
    (k ≠ .serial .setup → (declarationsOf g board options.indent k name).length ≤ 1) ∧
    (k = .serial .setup →
      (declarationsOf g board options.indent k name).length =
        (receivingPins g board options.indent name).length) := by
  refine ⟨?_, fun entry => mem_declarationsOf, fun b key hk h => ?_,
    fun b b' key key' hk hk' => key_eq_iff hk hk', length_declarationsOf_le, ?_⟩
  · rw [sections_program]
    rfl
  · obtain ⟨text, htext⟩ := exists_mem_declarationsOf hk h
    exact ⟨text, htext, declaresObject_of_mem htext⟩
  · rintro rfl
    have hkeys : ((declarationsOf g board options.indent (.serial .setup) name).map Prod.fst).Perm
        ((receivingPins g board options.indent name).map ("serial_" ++ ·)) :=
      keys_declarationsOf_serial name
    have hlength := hkeys.length_eq
    rwa [List.length_map, List.length_map] at hlength

/-- Two setup blocks of one serial unit with different receiving pins. -/
def twinLines : Graph :=
  { blocks :=
      [{ id := "a"
         kind := "serial_setup"
         fields :=
          Dict.insert (Dict.insert {} "SERIAL_ID" (.text "PA_10")) "SERIAL_ID_TX" (.text "PA_9") },
       { id := "b"
         kind := "serial_setup"
         fields :=
          Dict.insert (Dict.insert {} "SERIAL_ID" (.text "PB_7")) "SERIAL_ID_TX" (.text "PB_6") }] }

lemma receivingPins_twinLines :
    receivingPins twinLines Board.Nucleo.profile "  " "Serial_1" = ["PA_10", "PB_7"] := by
  decide +kernel

theorem declarations_on_behalf_twinLines :
    (declarationsOf twinLines Board.Nucleo.profile "  " (.serial .setup) "Serial_1").length =
      2 := by
  obtain ⟨-, -, -, -, -, hserial⟩ :=
    declarations_on_behalf twinLines Board.Nucleo.profile {} (.serial .setup) "Serial_1"
  have hlength := hserial rfl
  rwa [show ({} : Options).indent = "  " from rfl, receivingPins_twinLines] at hlength

/-- Two blocks of one kind declare one object under two keys, and it is declared twice. -/
theorem serial_unit_declared_twice :
    (Generator.new twinLines Board.Nucleo.profile {}).program.sections.declarations =
      ["Serial Serial_1(PA_9,PA_10);", "Serial Serial_1(PB_6,PB_7);"] ∧
    ∃ b b' key key', b.kind? = some (.serial .setup) ∧ b'.kind? = some (.serial .setup) ∧
      DeclaresUnder twinLines Board.Nucleo.profile "  " b "Serial_1" key ∧
      DeclaresUnder twinLines Board.Nucleo.profile "  " b' "Serial_1" key' ∧ key ≠ key' := by
  have hfirst : "PA_10" ∈ receivingPins twinLines Board.Nucleo.profile "  " "Serial_1" := by
    simp [receivingPins_twinLines]
  have hsecond : "PB_7" ∈ receivingPins twinLines Board.Nucleo.profile "  " "Serial_1" := by
    simp [receivingPins_twinLines]
  obtain ⟨b, hb, hunder⟩ := mem_receivingPins.mp hfirst
  obtain ⟨b', hb', hunder'⟩ := mem_receivingPins.mp hsecond
  exact ⟨by decide +kernel, b, b', _, _, hb, hb', hunder, hunder', by decide⟩

end MbedBlocks.Proofs
