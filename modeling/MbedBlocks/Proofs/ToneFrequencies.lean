import MbedBlocks.Proofs.CompletedRuns
import MbedBlocks.Proofs.WarningOwnership

/-!
# The frequencies of tones

The check of a tone and its code read the same number block, but they take its field differently:
where the field is empty, the code has a zero and the check finds nothing to judge. The literal is
in the code wherever the tone is emitted, since the script of a number is over at once.
-/

namespace MbedBlocks.Proofs

open Code (Fragment Level)
open Check (highestTone literalFrequency? lowestTone ownUpdates toneMessage)

/-! ### The literal in the code -/

section Walk

variable {g : Graph} {board : Board} {indent : String} {busy : List String} {b c : Block}
  {fragment : Fragment}

lemma textOr_ne_empty (b : Block) (field : String) {fallback : String} (h : fallback ≠ "") :
    b.textOr field fallback ≠ "" := by
  unfold Block.textOr
  split_ifs with hempty
  · exact h
  · exact hempty

/-- The code of a tone that has a frequency. -/
def toneCode (pin frequency : String) : String :=
  "myPwm" ++ pin ++ ".period(1.0 / " ++ frequency ++ ");\n" ++ ("myPwm" ++ pin) ++ ".write(0.5f);\n"

/-- A literal stands as it is wherever a product's right operand may stand. -/
lemma parenthesize_literal (p : Prop) [Decidable p] (text : String) :
    Code.parenthesize text (if p then .unaryPrefix else .atomic) Level.multiplicative.tighter =
      text := by
  split_ifs <;> rfl

/-- Wherever a tone is emitted, it divides by the text of its number. -/
lemma fragment_of_tone (h : (b, fragment) ∈ emitted g board indent)
    (hk : b.kind? = some (.pin .tone)) (hc : (b.values.get? "FREQUENCY").bind g.get? = some c)
    (hnumber : c.kind? = some (.language .number)) :
    fragment = .statement (toneCode (b.text "TONEPIN") (c.textOr "NUM" "0")) := by
  obtain ⟨busy, k, hreached, hkind, rfl⟩ := exists_reached_of_emitted h
  obtain rfl : k = .pin .tone := Option.some.inj (hkind.symm.trans hk)
  have hopen : ¬Closed (Kind.emit g b (.pin .tone)) := fun hclosed => hclosed.1 trivial
  have hvalue : (g.socketValue (g.emitter board indent (b.id :: busy)) b "FREQUENCY"
      Level.multiplicative.tighter).result = some (c.textOr "NUM" "0") := by
    rw [hreached.socketValue_of_done hk hopen hc hnumber rfl rfl
      (textOr_ne_empty c "NUM" (by decide)), parenthesize_literal]
  have hcode : (scriptRun g board indent busy b (.pin .tone)).result =
      .statement (toneCode (b.text "TONEPIN")
        ((g.socketValue (g.emitter board indent (b.id :: busy)) b "FREQUENCY"
          Level.multiplicative.tighter).result.getD "440")) := rfl
  rw [hcode, hvalue, Option.getD_some]

end Walk

/-! ### The check -/

/-- The literal is a number that no tone can have. -/
@[mk_iff]
structure Inaudible (literal : String) (frequency : Float) : Prop where
  reads : Decimal.readFloat? (Text.trim literal) = some frequency
  outside : ¬(lowestTone ≤ frequency ∧ frequency ≤ highestTone)

section Check

variable {g : Graph} {board : Board} {b c : Block}

lemma ownUpdates_of_tone (hk : b.kind? = some (.pin .tone)) :
    ownUpdates g board b = Check.tone g b := by
  have hname : "io_tone" = b.kind := Block.kind?_eq_some_iff.mp hk
  have hcapabilities : b.capabilities = [.toneFrequency] := by
    rw [Block.capabilities, Block.info?, ← hname]
    rfl
  rw [ownUpdates, hcapabilities]
  exact List.append_nil _

lemma literalFrequency?_of_number (hc : (b.values.get? "FREQUENCY").bind g.get? = some c)
    (hnumber : c.kind? = some (.language .number)) :
    literalFrequency? g b = Decimal.readFloat? (Text.trim (c.text "NUM")) := by
  have hkind : (Kind.language .number).name = c.kind := Block.kind?_eq_some_iff.mp hnumber
  rw [literalFrequency?, hc]
  exact if_pos hkind.symm

/-- A checked tone carries the warning for the number in the field, if there is one. -/
lemma warning?_tone (hk : b.kind? = some (.pin .tone))
    (hc : (b.values.get? "FREQUENCY").bind g.get? = some c)
    (hnumber : c.kind? = some (.language .number)) (message : String) :
    ((ownUpdates g board b).foldl Update.applyTo b).warning? Tag.tone = some message ↔
      ∃ frequency, Inaudible (c.text "NUM") frequency ∧ toneMessage frequency = message := by
  have hclear : ([Update.clear Tag.tone].foldl Update.applyTo b).warning? Tag.tone = none := by
    rw [List.foldl_cons, List.foldl_nil, Update.warning?_applyTo]
    exact if_pos rfl
  have hwarn (text : String) :
      ([Update.warn Tag.tone text].foldl Update.applyTo b).warning? Tag.tone = some text := by
    rw [List.foldl_cons, List.foldl_nil, Update.warning?_applyTo]
    exact if_pos rfl
  simp only [inaudible_iff]
  rw [ownUpdates_of_tone hk, Check.tone, literalFrequency?_of_number hc hnumber]
  cases Decimal.readFloat? (Text.trim (c.text "NUM")) with
  | none =>
    dsimp only
    rw [hclear]
    simp
  | some frequency =>
    dsimp only
    split_ifs with haudible
    · rw [hclear]
      simp [haudible]
    · rw [hwarn]
      simp only [Option.some.injEq]
      constructor
      · intro h
        exact ⟨frequency, ⟨rfl, haudible⟩, h⟩
      · rintro ⟨_, ⟨rfl, -⟩, h⟩
        exact h

lemma exists_checked_tone (hg : g.Distinct) (board : Board) (hb : b ∈ g.blocks)
    (hk : b.kind? = some (.pin .tone)) (hc : (b.values.get? "FREQUENCY").bind g.get? = some c)
    (hnumber : c.kind? = some (.language .number)) :
    ∃ checked, (g.checkConsistency board).1.get? b.id = some checked ∧
      ∀ message, checked.warning? Tag.tone = some message ↔
        ∃ frequency, Inaudible (c.text "NUM") frequency ∧ toneMessage frequency = message := by
  have hmem :
      (ownUpdates g board b).foldl Update.applyTo b ∈ (g.checkConsistency board).1.blocks := by
    rw [Graph.blocks_checkConsistency hg]
    exact List.mem_map_of_mem hb
  have hfound := hg.checkConsistency.get?_eq hmem
  rw [Graph.id_foldl_applyTo] at hfound
  exact ⟨_, hfound, warning?_tone hk hc hnumber⟩

lemma not_inaudible_empty (frequency : Float) : ¬Inaudible "" frequency := by
  have hnone : Decimal.readFloat? (Text.trim "") = none := rfl
  rintro ⟨hread, -⟩
  rw [hnone] at hread
  cases hread

lemma inaudible_zero : Inaudible "0" 0 := (inaudible_iff _ _).mpr (by decide +kernel)

end Check

/-- The code of a tone with a number in its socket divides by the text of the number, or by zero if
the field is empty. The check judges the field alone: the tone carries the warning exactly if the
field is not empty and the literal in the code is a number out of range. So the check judges the
literal that is emitted unless the field is empty. -/
theorem tone_check_judges_field (g : Graph) (hg : g.Distinct) (board : Board) (b c : Block)
    (hb : b ∈ g.blocks) (hk : b.kind? = some (.pin .tone))
    (hc : (b.values.get? "FREQUENCY").bind g.get? = some c)
    (hnumber : c.kind? = some (.language .number)) :
    (∀ indent fragment, (b, fragment) ∈ emitted g board indent →
      fragment = .statement (toneCode (b.text "TONEPIN") (c.textOr "NUM" "0"))) ∧
    ∃ checked, (g.checkConsistency board).1.get? b.id = some checked ∧
      (∀ message, checked.warning? Tag.tone = some message ↔ c.text "NUM" ≠ "" ∧
        ∃ frequency, Inaudible (c.textOr "NUM" "0") frequency ∧
          toneMessage frequency = message) ∧
      (((checked.warning? Tag.tone).isSome ↔
          ∃ frequency, Inaudible (c.textOr "NUM" "0") frequency) ↔ c.text "NUM" ≠ "") := by
  obtain ⟨checked, hchecked, hmessage⟩ := exists_checked_tone hg board hb hk hc hnumber
  have hwarned : (checked.warning? Tag.tone).isSome ↔
      ∃ frequency, Inaudible (c.text "NUM") frequency := by
    rw [Option.isSome_iff_exists]
    simp only [hmessage]
    exact ⟨fun ⟨_, frequency, h, _⟩ => ⟨frequency, h⟩, fun ⟨frequency, h⟩ => ⟨_, frequency, h, rfl⟩⟩
  refine ⟨fun indent fragment h => fragment_of_tone h hk hc hnumber, checked, hchecked, ?_⟩
  by_cases hempty : c.text "NUM" = ""
  · -- The code has a zero, and the check nothing to judge.
    have hliteral : c.textOr "NUM" "0" = "0" := if_pos hempty
    have hsilent : ¬∃ frequency, Inaudible (c.text "NUM") frequency := by
      rw [hempty]
      exact fun ⟨frequency, h⟩ => not_inaudible_empty frequency h
    rw [hliteral]
    refine ⟨fun message => ?_, ?_⟩
    · rw [hmessage]
      exact iff_of_false (fun ⟨frequency, h, _⟩ => hsilent ⟨frequency, h⟩) fun h => h.1 hempty
    · exact iff_of_false (fun h => hsilent (hwarned.mp (h.mpr ⟨0, inaudible_zero⟩)))
        (not_not_intro hempty)
  · have hliteral : c.textOr "NUM" "0" = c.text "NUM" := if_neg hempty
    rw [hliteral]
    exact ⟨fun message => (hmessage message).trans (and_iff_right hempty).symm,
      iff_of_true hwarned hempty⟩

def toneBlock : Block :=
  { id := "tone"
    kind := "io_tone"
    fields := Dict.insert {} "TONEPIN" (.text "PA_8")
    values := Dict.insert {} "FREQUENCY" "hz" }

/-- A tone with a number block that has these fields. -/
def toneOf (fields : Dict FieldValue) : Graph :=
  { blocks := [toneBlock, { id := "hz", kind := "math_number", fields }] }

theorem tone_check_judges_field_padded :
    (toneOf (Dict.insert {} "NUM" (.text " 70000 "))).Distinct ∧
    ∃ checked,
      ((toneOf (Dict.insert {} "NUM" (.text " 70000 "))).checkConsistency
        Board.Nucleo.profile).1.get? "tone" = some checked ∧
      checked.warning? Tag.tone = some (toneMessage 70000) := by
  have hdistinct : (toneOf (Dict.insert {} "NUM" (.text " 70000 "))).Distinct := by
    unfold Graph.Distinct
    decide
  have hinaudible : Inaudible " 70000 " 70000 := (inaudible_iff _ _).mpr (by decide +kernel)
  obtain ⟨-, checked, hchecked, hmessage, -⟩ :=
    tone_check_judges_field (toneOf (Dict.insert {} "NUM" (.text " 70000 "))) hdistinct
      Board.Nucleo.profile toneBlock
      { id := "hz", kind := "math_number", fields := Dict.insert {} "NUM" (.text " 70000 ") }
      (.head _) rfl rfl rfl
  exact ⟨hdistinct, checked, hchecked,
    (hmessage _).mpr ⟨by decide, 70000, hinaudible, rfl⟩⟩

/-- Without a field the code divides by zero, and the check has nothing to say. -/
theorem tone_check_misses_zero :
    (toneBlock, .statement (toneCode "PA_8" "0")) ∈
      emitted (toneOf {}) Board.Nucleo.profile "  " ∧
    Inaudible "0" 0 ∧
    ((toneOf {}).checkConsistency Board.Nucleo.profile).1 = toneOf {} ∧
    ((toneOf {}).checkConsistency Board.Nucleo.profile).2.set = [] ∧
    toneBlock.warning? Tag.tone = none := by
  exact ⟨by decide +kernel, inaudible_zero, by decide +kernel, by decide +kernel, rfl⟩

end MbedBlocks.Proofs
