import MbedBlocks.Proofs.Simulation

/-!
# Advisory inputs

Neither the policy for pin conflicts nor what a board only lists has a say in the code: two boards
that wire units and buses alike compile every graph to the same sections and bodies. The permissive
warnings are the strict ones without the conflicts.
-/

namespace MbedBlocks.Proofs

open Code (Fragment)

/-- Two boards whose units and buses have the same pins. -/
structure SameWiring (a b : Board) : Prop where
  serialMapper : a.serialMapper = b.serialMapper
  i2cMapper : a.i2cMapper = b.i2cMapper
  spiPins : a.spiPins = b.spiPins
  spi1Alternative : a.spi1Alternative = b.spi1Alternative

lemma SameWiring.refl (a : Board) : SameWiring a a := ⟨rfl, rfl, rfl, rfl⟩

lemma SameWiring.unit {a b : Board} (h : SameWiring a b) (pin : String) (mapper : Board.Mapper) :
    a.unit pin mapper = b.unit pin mapper := by
  cases mapper with
  | serial => rw [Board.unit, Board.unit, Board.mapper, Board.mapper, h.serialMapper]
  | i2c => rw [Board.unit, Board.unit, Board.mapper, Board.mapper, h.i2cMapper]

lemma SameWiring.busPins? {a b : Board} (h : SameWiring a b) (bus : String)
    (choice : Option String) : a.busPins? bus choice = b.busPins? bus choice := by
  rw [Board.busPins?, Board.busPins?, h.spiPins, h.spi1Alternative]

/-! ### Emission for two boards -/

/-- What an effect does to the sections; a reservation and a warning do nothing. -/
def registryStep (r : Registry) : Effect → Registry
  | .register registration => r.add registration
  | .unlessDefined function registrations =>
    if (r.functions.get? function).isSome then r else r.addAll registrations
  | .reserve _ _ => r
  | .warn _ => r

/-- The same code and the same registrations from every registry, and ordinary effects only. -/
structure SameCode {α : Type} (x y : Emit α) : Prop where
  result : x.result = y.result
  registry : ∀ r, x.effects.foldl registryStep r = y.effects.foldl registryStep r
  ordinary : ∀ e ∈ x.effects, Ordinary e

def sameCode : Simulation Emit Emit where
  rel := SameCode
  pure a := ⟨rfl, fun _ => rfl, by simp⟩
  bind := by
    intro α β x y f k h hf
    have hnext := hf x.result
    refine ⟨?_, ?_, ?_⟩
    · rw [Emit.result_bind, Emit.result_bind, ← h.result, hnext.result]
    · intro r
      rw [Emit.effects_bind, Emit.effects_bind, List.foldl_append, List.foldl_append, ← h.result,
        h.registry, hnext.registry]
    · intro e he
      rw [Emit.effects_bind, List.mem_append] at he
      exact he.elim (h.ordinary e) (hnext.ordinary e)

lemma sameCode_performs : sameCode.Performs := by
  intro e he
  refine ⟨rfl, fun _ => rfl, ?_⟩
  intro e' he'
  rw [List.mem_singleton.mp he']
  exact he

lemma SameCode.warn {b : Block} {tag message message' : String} (htag : tag ≠ Tag.pinConflict) :
    SameCode (b.warn tag message) (b.warn tag message') := by
  refine ⟨rfl, fun _ => rfl, ?_⟩
  intro e he
  rw [List.mem_singleton.mp he]
  exact htag

section TwoBoards

variable {g : Graph} {a b : Board} {indent : String}

/-- A missing bus is reported with the name of the board, and its pins are not connected. -/
lemma bus_sameCode (h : SameWiring a b) {s t : Site Emit} (hs : s.board = a) (ht : t.board = b)
    (hblock : s.block = t.block) (name choice : String) :
    SameCode (s.bus name choice) (t.bus name choice) := by
  unfold Site.bus Site.warn
  rw [hs, ht, h.busPins?, hblock]
  cases b.busPins? name (some choice) with
  | some pins => exact sameCode.pure pins
  | none => exact sameCode.bind (SameCode.warn (by decide)) fun _ => sameCode.pure _

lemma site_sameCode (h : SameWiring a b) {child child' : Graph.ChildEmitter Emit g}
    (hchild : ∀ c hc, SameCode (child c hc) (child' c hc)) (c : Block) {α : Type} (x : Script α) :
    SameCode ((g.site a indent child c).emit x) ((g.site b indent child' c).emit x) := by
  apply Simulation.emit sameCode_performs
  · rfl
  · intro pin mapper
    apply Simulation.unit sameCode_performs
    · rfl
    · exact h.unit pin mapper
  · exact bus_sameCode h rfl rfl rfl
  · exact Simulation.socketValue sameCode_performs hchild c
  · exact Simulation.socketBody (S := sameCode) hchild indent c

theorem emitWithin_sameCode (h : SameWiring a b) (busy : List String) (c : Block) :
    SameCode (g.emitWithin a indent busy c) (g.emitWithin b indent busy c) := by
  induction busy, c using Graph.walk_induction (g := g) with
  | inProgress busy c hc =>
    rw [Graph.emitWithin_of_mem hc, Graph.emitWithin_of_mem hc]
    exact sameCode.pure none
  | unlisted busy c hc hk =>
    rw [Graph.emitWithin_of_unlisted hc hk, Graph.emitWithin_of_unlisted hc hk]
    exact sameCode.bind (sameCode_performs.warn c (by decide) _) fun _ => sameCode.pure none
  | listed busy c k hc hk ih =>
    rw [Graph.emitWithin_of_kind hc hk, Graph.emitWithin_of_kind hc hk]
    exact sameCode.bind (site_sameCode h ih c (k.emit g c)) fun _ => sameCode.pure _

theorem emitBodies_sameCode (h : SameWiring a b) :
    SameCode (g.emitBodies (g.emitter a indent [])) (g.emitBodies (g.emitter b indent [])) :=
  Simulation.emitBodies (S := sameCode) fun c _ => emitWithin_sameCode h [] c

end TwoBoards

/-! ### Contexts under the two policies -/

lemma registry_apply (board : Board) (c : Context) (e : Effect) :
    (c.apply board e).registry = registryStep c.registry e := by
  cases e with
  | register r => rfl
  | unlessDefined function registrations =>
    rw [Context.apply, registryStep]
    split <;> rfl
  | reserve pin request => rfl
  | warn w => rfl

lemma registry_applyAll (board : Board) (c : Context) (effects : List Effect) :
    (c.applyAll board effects).registry = effects.foldl registryStep c.registry := by
  induction effects generalizing c with
  | nil => rfl
  | cons e effects ih =>
    change ((c.apply board e).applyAll board effects).registry = _
    rw [ih, registry_apply, List.foldl_cons]

/-- Every warning but that of a conflict. -/
def unconflicted (w : Warning) : Bool := w.tag != Tag.pinConflict

/-- Warnings in the same place have the same tag. -/
lemma unconflicted_replace (v w : Warning) :
    unconflicted (if v.blockId == w.blockId && v.tag == w.tag then w else v) = unconflicted v := by
  split_ifs with h
  · simp only [Bool.and_eq_true, beq_iff_eq] at h
    rw [unconflicted, unconflicted, h.2]
  · rfl

lemma filter_replace (warnings : List Warning) (w : Warning) :
    (warnings.map fun v => if v.blockId == w.blockId && v.tag == w.tag then w else v).filter
      unconflicted =
    (warnings.filter unconflicted).map fun v =>
      if v.blockId == w.blockId && v.tag == w.tag then w else v := by
  rw [List.filter_map]
  congr 2
  funext v
  exact unconflicted_replace v w

lemma filter_record {w : Warning} (hw : unconflicted w = true) (warnings : List Warning) :
    (Context.record warnings w).filter unconflicted =
      Context.record (warnings.filter unconflicted) w := by
  have hany : ((warnings.filter unconflicted).any fun v => v.blockId == w.blockId && v.tag == w.tag) =
      warnings.any fun v => v.blockId == w.blockId && v.tag == w.tag := by
    rw [List.any_filter]
    congr 1
    funext v
    by_cases htag : v.tag = w.tag
    · have hv : unconflicted v = true := by rwa [unconflicted, htag]
      rw [hv, Bool.true_and]
    · simp [htag]
  unfold Context.record
  rw [hany]
  split_ifs
  · exact filter_replace warnings w
  · rw [List.filter_append, List.filter_cons_of_pos hw]
    rfl

lemma filter_record_conflict {w : Warning} (hw : unconflicted w = false)
    (warnings : List Warning) :
    (Context.record warnings w).filter unconflicted = warnings.filter unconflicted := by
  unfold Context.record
  split_ifs
  · rw [filter_replace]
    refine (List.map_congr_left ?_).trans (List.map_id _)
    intro v hv
    have hv : unconflicted v = true := (List.mem_filter.mp hv).2
    have htag : v.tag ≠ w.tag := by
      intro htag
      rw [unconflicted, htag] at hv
      rw [unconflicted, hv] at hw
      cases hw
    simp [htag]
  · rw [List.filter_append, List.filter_cons_of_neg (by simp [hw])]
    simp

lemma filter_foldl_record (more warnings : List Warning) :
    (more.foldl Context.record warnings).filter unconflicted =
      (more.filter unconflicted).foldl Context.record (warnings.filter unconflicted) := by
  induction more generalizing warnings with
  | nil => rfl
  | cons w more ih =>
    rw [List.foldl_cons, ih]
    cases hw : unconflicted w with
    | true => rw [filter_record hw, List.filter_cons_of_pos hw, List.foldl_cons]
    | false => rw [filter_record_conflict hw, List.filter_cons_of_neg (by simp [hw])]

/-- A strict context and the permissive one that goes with it. -/
structure Lenient (strict permissive : Context) : Prop where
  registry : strict.registry = permissive.registry
  pins : strict.reservations.pins = permissive.reservations.pins
  strictPolicy : strict.reservations.policy = .strict
  permissivePolicy : permissive.reservations.policy = .permissive
  warnings : permissive.warnings = strict.warnings.filter unconflicted

lemma lenient_initial : Lenient (.initial .strict) (.initial .permissive) :=
  ⟨rfl, rfl, rfl, rfl, rfl⟩

/-- The permissive tracker reports what the strict one does, conflicts apart. -/
lemma Lenient.reservation_warnings {s p : Context} (h : Lenient s p) (board : Board) (pin : String)
    (request : Reservation) :
    p.reservations.warnings board pin request =
      (s.reservations.warnings board pin request).filter unconflicted := by
  have hunknown : (Reservations.unknownPinWarnings board request.blockId pin).filter unconflicted =
      Reservations.unknownPinWarnings board request.blockId pin := by
    unfold Reservations.unknownPinWarnings
    split_ifs <;> rfl
  have hconflict : (s.reservations.conflictWarnings pin request).filter unconflicted = [] := by
    unfold Reservations.conflictWarnings
    split
    · split_ifs <;> rfl
    · rfl
  have hpermissive : p.reservations.conflictWarnings pin request = [] := by
    unfold Reservations.conflictWarnings
    rw [h.permissivePolicy]
    split <;> rfl
  unfold Reservations.warnings
  rw [hpermissive]
  split_ifs
  · rfl
  · rw [List.filter_append, hunknown, hconflict]

lemma Lenient.reserve {s p : Context} (h : Lenient s p) (board : Board) (pin : String)
    (request : Reservation) :
    Lenient (s.apply board (.reserve pin request)) (p.apply board (.reserve pin request)) := by
  refine ⟨h.registry, ?_, ?_, ?_, ?_⟩
  · change (s.reservations.reserve pin request).pins = (p.reservations.reserve pin request).pins
    unfold Reservations.reserve
    rw [h.pins]
    split_ifs <;> simp [h.pins]
  · change (s.reservations.reserve pin request).policy = _
    unfold Reservations.reserve
    split_ifs <;> exact h.strictPolicy
  · change (p.reservations.reserve pin request).policy = _
    unfold Reservations.reserve
    split_ifs <;> exact h.permissivePolicy
  · change (p.reservations.warnings board pin request).foldl Context.record p.warnings = _
    rw [h.reservation_warnings, h.warnings]
    exact (filter_foldl_record _ _).symm

lemma Lenient.apply {s p : Context} (h : Lenient s p) (board : Board) {e : Effect}
    (he : Ordinary e) : Lenient (s.apply board e) (p.apply board e) := by
  cases e with
  | register r =>
    refine ⟨?_, h.pins, h.strictPolicy, h.permissivePolicy, h.warnings⟩
    rw [registry_apply, registry_apply, h.registry]
  | unlessDefined function registrations =>
    rw [Context.apply, Context.apply, h.registry]
    split_ifs
    · exact h
    · exact ⟨rfl, h.pins, h.strictPolicy, h.permissivePolicy, h.warnings⟩
  | reserve pin request => exact h.reserve board pin request
  | warn w =>
    have hw : unconflicted w = true := bne_iff_ne.mpr he
    refine ⟨h.registry, h.pins, h.strictPolicy, h.permissivePolicy, ?_⟩
    change Context.record p.warnings w = (Context.record s.warnings w).filter unconflicted
    rw [filter_record hw, h.warnings]

/-- The two policies keep in step through all effects of an emission. -/
theorem Lenient.applyAll {s p : Context} (h : Lenient s p) (board : Board) {effects : List Effect}
    (heffects : ∀ e ∈ effects, Ordinary e) :
    Lenient (s.applyAll board effects) (p.applyAll board effects) := by
  induction effects generalizing s p with
  | nil => exact h
  | cons e effects ih =>
    have hstep := h.apply board (heffects e (by simp))
    exact ih hstep fun e' he' => heffects e' (List.mem_cons_of_mem e he')

/-! ### Programs -/

lemma program_sameCode (g : Graph) {a b : Board} (h : SameWiring a b) {o o' : Options}
    (hindent : o.indent = o'.indent) :
    (Generator.new g a o).program.sections = (Generator.new g b o').program.sections ∧
      (Generator.new g a o).program.setupBody = (Generator.new g b o').program.setupBody ∧
      (Generator.new g a o).program.loopBody = (Generator.new g b o').program.loopBody := by
  have hbodies : SameCode (g.emitBodies (g.emitter a o.indent []))
      (g.emitBodies (g.emitter b o'.indent [])) := hindent ▸ emitBodies_sameCode h
  refine ⟨?_, congrArg Bodies.setup hbodies.result, congrArg Bodies.loop hbodies.result⟩
  apply congrArg Registry.sections
  change (Context.applyAll _ _ _).registry = (Context.applyAll _ _ _).registry
  rw [registry_applyAll, registry_applyAll]
  exact hbodies.registry _

lemma program_lenient (g : Graph) (board : Board) {o o' : Options} (hindent : o.indent = o'.indent)
    (hstrict : o.policy = .strict) (hpermissive : o'.policy = .permissive) :
    (Generator.new g board o').program.warnings =
      (Generator.new g board o).program.warnings.filter unconflicted := by
  have hordinary : ∀ e ∈ (g.emitBodies (g.emitter board o.indent [])).effects, Ordinary e :=
    (emitBodies_sameCode (.refl board)).ordinary
  change ((Context.initial o'.policy).applyAll board
      (g.emitBodies (g.emitter board o'.indent [])).effects).warnings =
    ((Context.initial o.policy).applyAll board
      (g.emitBodies (g.emitter board o.indent [])).effects).warnings.filter unconflicted
  rw [hstrict, hpermissive, ← hindent]
  exact (lenient_initial.applyAll board hordinary).warnings

/-- Boards with the same wiring and any policies compile a graph to the same code. For one board
the permissive warnings are the strict ones without the conflicts, in the same order. -/
theorem advisory_inputs_keep_code (g : Graph) (o o' : Options) {boards boards' : Boards}
    {a b : Board} (ha : boards.get o.board = .ok a) (hb : boards'.get o'.board = .ok b)
    (hwiring : SameWiring a b) (hindent : o.indent = o'.indent) :
    ∃ p p', compile g o boards = .ok p ∧ compile g o' boards' = .ok p' ∧
      p.sections = p'.sections ∧ p.setupBody = p'.setupBody ∧ p.loopBody = p'.loopBody ∧
      (a = b → o.policy = .strict → o'.policy = .permissive →
        p'.warnings = p.warnings.filter unconflicted) := by
  obtain ⟨hsections, hsetup, hloop⟩ := program_sameCode g hwiring hindent
  refine ⟨_, _, ?_, ?_, hsections, hsetup, hloop, ?_⟩
  · rw [compile, ha]
    rfl
  · rw [compile, hb]
    rfl
  · rintro rfl hstrict hpermissive
    exact program_lenient g a hindent hstrict hpermissive

/-- One pin written by a block and driven by a tone in the next. -/
def contested : Graph :=
  { blocks :=
      [{ id := "write"
         kind := "io_digitalwrite"
         fields := Dict.insert {} "PIN" (.text "PA_5")
         next := some "tone" },
       { id := "tone"
         kind := "io_tone"
         fields := Dict.insert {} "TONEPIN" (.text "PA_5") }] }

/-- The wiring of the built-in board without its lists of pins. -/
def bareBoard : Board :=
  { Board.Nucleo.profile with
    id := "bare"
    name := "Bare board"
    digitalPins := []
    analogPins := []
    pwmPins := [] }

theorem advisory_inputs_keep_code_contested :
    (∃ p p', compile contested {} .builtin = .ok p ∧
      compile contested { board := "bare", policy := .permissive } (.register {} bareBoard) =
        .ok p' ∧
      p.sections = p'.sections ∧ p.setupBody = p'.setupBody ∧ p.loopBody = p'.loopBody) ∧
    ∃ p p', compile contested {} .builtin = .ok p ∧
      compile contested { policy := .permissive } .builtin = .ok p' ∧
      p'.warnings = p.warnings.filter unconflicted := by
  have hbuiltin : Boards.builtin.get defaultBoard = .ok Board.Nucleo.profile := rfl
  have hbare : (Boards.register {} bareBoard).get "bare" = .ok bareBoard := rfl
  have hwiring : SameWiring Board.Nucleo.profile bareBoard := ⟨rfl, rfl, rfl, rfl⟩
  constructor
  · obtain ⟨p, p', hp, hp', hsections, hsetup, hloop, -⟩ :=
      advisory_inputs_keep_code contested {} { board := "bare", policy := .permissive }
        hbuiltin hbare hwiring rfl
    exact ⟨p, p', hp, hp', hsections, hsetup, hloop⟩
  · obtain ⟨p, p', hp, hp', -, -, -, hwarnings⟩ :=
      advisory_inputs_keep_code contested {} { policy := .permissive } hbuiltin hbuiltin (.refl _)
        rfl
    exact ⟨p, p', hp, hp', hwarnings rfl rfl rfl⟩

end MbedBlocks.Proofs
